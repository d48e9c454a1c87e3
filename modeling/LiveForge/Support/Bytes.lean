import Mathlib.Algebra.Order.Ring.Int
import Mathlib.Order.Nat
import Mathlib.Tactic.Common

/-!
# Bytes and the numbers they spell

Numbers are written byte by byte with shifts and put together again with shifts
and `or`.  Reading is reading from the front of a list of bytes; `readFull`
tells an input that has ended from one that ends too early.
-/

namespace LiveForge.Support

/-! ## Numbers -/

/-- The byte of `x` at a bit position. -/
def byteOf (x shift : ℕ) : UInt8 := UInt8.ofNat (x >>> shift)

def be16 (a b : UInt8) : ℕ := a.toNat <<< 8 ||| b.toNat

def be24 (a b c : UInt8) : ℕ := a.toNat <<< 16 ||| b.toNat <<< 8 ||| c.toNat

def be32 (a b c d : UInt8) : ℕ :=
  a.toNat <<< 24 ||| b.toNat <<< 16 ||| c.toNat <<< 8 ||| d.toNat

def le32 (a b c d : UInt8) : ℕ := be32 d c b a

def be16Bytes (x : ℕ) : List UInt8 := [byteOf x 8, byteOf x 0]

def be24Bytes (x : ℕ) : List UInt8 := [byteOf x 16, byteOf x 8, byteOf x 0]

def be32Bytes (x : ℕ) : List UInt8 :=
  [byteOf x 24, byteOf x 16, byteOf x 8, byteOf x 0]

def le32Bytes (x : ℕ) : List UInt8 :=
  [byteOf x 0, byteOf x 8, byteOf x 16, byteOf x 24]

@[simp] theorem length_be24Bytes (x : ℕ) : (be24Bytes x).length = 3 := rfl

@[simp] theorem length_be32Bytes (x : ℕ) : (be32Bytes x).length = 4 := rfl

theorem toNat_byteOf (x shift : ℕ) : (byteOf x shift).toNat = x / 2 ^ shift % 256 := by
  rw [byteOf, UInt8.toNat_ofNat', Nat.shiftRight_eq_div_pow]

theorem be16_eq (a b : UInt8) : be16 a b = a.toNat * 256 + b.toNat := by
  rw [be16, ← Nat.shiftLeft_add_eq_or_of_lt b.toNat_lt, Nat.shiftLeft_eq]

theorem be16_lt (a b : UInt8) : be16 a b < 2 ^ 16 := by
  have ha := a.toNat_lt
  have hb := b.toNat_lt
  rw [be16_eq]
  omega

theorem be16Bytes_be16 (a b : UInt8) : be16Bytes (be16 a b) = [a, b] := by
  have ha := a.toNat_lt
  have hb := b.toNat_lt
  have hhigh : byteOf (be16 a b) 8 = a := by
    apply UInt8.toNat_inj.mp
    rw [toNat_byteOf, be16_eq]
    omega
  have hlow : byteOf (be16 a b) 0 = b := by
    apply UInt8.toNat_inj.mp
    rw [toNat_byteOf, be16_eq]
    omega
  rw [be16Bytes, hhigh, hlow]

theorem be24_eq (a b c : UInt8) : be24 a b c = a.toNat * 65536 + b.toNat * 256 + c.toNat := by
  have hb := b.toNat_lt
  have hc := c.toNat_lt
  rw [be24, Nat.or_assoc, ← Nat.shiftLeft_add_eq_or_of_lt hc,
    ← Nat.shiftLeft_add_eq_or_of_lt (by omega)]
  omega

theorem be32_eq (a b c d : UInt8) :
    be32 a b c d = a.toNat * 16777216 + b.toNat * 65536 + c.toNat * 256 + d.toNat := by
  have hlow := be24_eq b c d
  have hb := b.toNat_lt
  have hc := c.toNat_lt
  have hd := d.toNat_lt
  rw [be32, Nat.or_assoc, Nat.or_assoc, ← Nat.or_assoc (b.toNat <<< 16),
    ← be24, ← Nat.shiftLeft_add_eq_or_of_lt (by omega)]
  omega

theorem be24_byteOf (x : ℕ) : be24 (byteOf x 16) (byteOf x 8) (byteOf x 0) = x % 2 ^ 24 := by
  rw [be24_eq, toNat_byteOf, toNat_byteOf, toNat_byteOf]
  omega

theorem be32_byteOf (x : ℕ) :
    be32 (byteOf x 24) (byteOf x 16) (byteOf x 8) (byteOf x 0) = x % 2 ^ 32 := by
  rw [be32_eq, toNat_byteOf, toNat_byteOf, toNat_byteOf, toNat_byteOf]
  omega

def be64 (a b c d e f g h : UInt8) : ℕ := be32 a b c d <<< 32 ||| be32 e f g h

def be64Bytes (x : ℕ) : List UInt8 := be32Bytes (x >>> 32) ++ be32Bytes x

@[simp] theorem length_be64Bytes (x : ℕ) : (be64Bytes x).length = 8 := rfl

theorem be64_byteOf (x : ℕ) :
    be64 (byteOf (x >>> 32) 24) (byteOf (x >>> 32) 16) (byteOf (x >>> 32) 8)
        (byteOf (x >>> 32) 0) (byteOf x 24) (byteOf x 16) (byteOf x 8)
        (byteOf x 0) = x % 2 ^ 64 := by
  rw [be64, be32_byteOf, be32_byteOf, ← Nat.shiftLeft_add_eq_or_of_lt (Nat.mod_lt _ (by decide))]
  omega

/-! ## Machine integers

Products are computed in signed 64-bit numbers and cut to what is written. -/

/-- A signed 64-bit number as the word that holds it. -/
def wordOf (x : ℤ) : ℕ := (x % 2 ^ 64).toNat

/-- The signed 64-bit number with the low bits of `x`. -/
def wrap64 (x : ℤ) : ℤ := (x + 2 ^ 63) % 2 ^ 64 - 2 ^ 63

def toU32 (x : ℤ) : ℕ := (x % 2 ^ 32).toNat

def toI32 (x : ℕ) : ℤ := (x + 2 ^ 31) % 2 ^ 32 - 2 ^ 31

theorem wrap64_of_lt {x : ℤ} (hlow : -2 ^ 63 ≤ x) (hhigh : x < 2 ^ 63) : wrap64 x = x := by
  rw [wrap64, Int.emod_eq_of_lt (by omega) (by omega), Int.add_sub_cancel]

theorem toU32_of_lt {x : ℤ} (hlow : 0 ≤ x) (hhigh : x < 2 ^ 32) : (toU32 x : ℤ) = x := by
  rw [toU32, Int.emod_eq_of_lt hlow hhigh, Int.toNat_of_nonneg hlow]

theorem toI32_toU32 {x : ℤ} (hlow : -2 ^ 31 ≤ x) (hhigh : x < 2 ^ 31) : toI32 (toU32 x) = x := by
  rw [toI32, toU32]
  omega

/-- A property of all bytes, checked number by number. -/
theorem forall_byte {p : UInt8 → Prop} (h : ∀ n, n < 256 → p (UInt8.ofNat n)) (b : UInt8) :
    p b := by
  have hb := h b.toNat b.toNat_lt
  rwa [UInt8.ofNat_toNat] at hb

/-! ## Fallible steps -/

variable {ε α : Type} {x : Except ε α}

theorem bind_eq_ok {β : Type} {f : α → Except ε β} {b : β} :
    (x >>= f) = .ok b ↔ ∃ a, x = .ok a ∧ f a = .ok b := by
  cases x <;> simp [bind, Except.bind]

theorem ok_bind {β : Type} (a : α) (f : α → Except ε β) : ((.ok a : Except ε α) >>= f) = f a := rfl

theorem map_eq_ok {β : Type} {f : α → β} {b : β} : x.map f = .ok b ↔ ∃ a, x = .ok a ∧ f a = b := by
  cases x <;> simp [Except.map]

theorem elim_eq_ok {x : Option α} {e : ε} {a : α} :
    x.elim (.error e : Except ε α) .ok = .ok a ↔ x = some a := by
  cases x <;> simp

theorem mapError_eq_ok {ε' : Type} {f : ε → ε'} {a : α} : x.mapError f = .ok a ↔ x = .ok a := by
  cases x <;> simp [Except.mapError]

/-! ## Input -/

inductive InputError where
  | eof
  | unexpectedEOF
  deriving DecidableEq

/-- Take exactly `n` bytes from the front of the input. -/
def readFull (n : ℕ) (input : List UInt8) : Except InputError (List UInt8 × List UInt8) :=
  if n ≤ input.length then .ok (input.take n, input.drop n)
  else if input = [] then .error .eof
  else .error .unexpectedEOF

theorem readFull_append {n : ℕ} {data : List UInt8} (hlength : data.length = n)
    (rest : List UInt8) :
    readFull n (data ++ rest) = .ok (data, rest) := by
  subst hlength
  rw [readFull, if_pos (by simp), List.take_left, List.drop_left]

theorem readFull_eq_ok {n : ℕ} {input data rest : List UInt8}
    (h : readFull n input = .ok (data, rest)) :
    input = data ++ rest ∧ data.length = n := by
  unfold readFull at h
  split at h
  next hle =>
    simp only [Except.ok.injEq, Prod.mk.injEq] at h
    rw [← h.1, ← h.2, List.take_append_drop, List.length_take, Nat.min_eq_left hle]
    exact ⟨rfl, rfl⟩
  · split at h <;> simp at h

end LiveForge.Support
