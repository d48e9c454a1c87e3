import LiveForge.Support.Bytes

/-!
# Items behind their lengths

Two framings of a list of byte strings: each item behind its length in two
bytes, read by a loop that may refuse an item, and each behind its length in
four bytes.
-/

namespace LiveForge.Support

/-! ## Two bytes -/

/-- Items one after the other, each behind its length. -/
def prefixed16 (items : List (List UInt8)) : List UInt8 :=
  items.flatMap fun item => be16Bytes item.length ++ item

variable {items : List (List UInt8)}

section Split

variable {ε τ : Type} (truncated : ε) (invalid : ℕ → ε) (least : ℕ)
  (accept : τ → List UInt8 → Except ε τ)

/-- Take items off the front while there is data.  An item shorter than
`least` is refused, and so is one that `accept` refuses; `accept` carries a
total along. -/
def splitPrefixed16 (total : τ) (data : List UInt8) : Except ε (List (List UInt8)) :=
  if data = [] then .ok []
  else if data.length < 2 then .error truncated
  else
    let size := be16 (data.getD 0 0) (data.getD 1 0)
    let rest := data.drop 2
    if size < least ∨ rest.length < size then .error (invalid size)
    else
      match accept total (rest.take size) with
      | .error e => .error e
      | .ok total =>
        (splitPrefixed16 total (rest.drop size)).map fun items =>
          rest.take size :: items
termination_by data.length
decreasing_by
  simp only [List.length_drop]
  omega

variable {truncated invalid least accept}

/-- What is split off is the whole data, and every item was accepted. -/
theorem splitPrefixed16_eq_ok {total : τ} {data : List UInt8}
    (h : splitPrefixed16 truncated invalid least accept total data = .ok items) :
    data = prefixed16 items ∧ ∀ item ∈ items, least ≤ item.length ∧ item.length < 2 ^ 16 ∧
      ∃ before after, accept before item = .ok after := by
  fun_induction splitPrefixed16 truncated invalid least accept total data generalizing items with
  | case1 total =>
    cases h
    simp [prefixed16]
  | case2 => simp at h
  | case3 => simp at h
  | case4 => simp at h
  | case5 total data hdata hlong size rest hsize next haccept =>
    rename_i ih
    obtain ⟨more, hmore, rfl⟩ := map_eq_ok.mp h
    obtain ⟨hrest, haccepted⟩ := ih hmore
    obtain ⟨a, b, tail, rfl⟩ : ∃ a b tail, data = a :: b :: tail := by
      match data, hlong with
      | a :: b :: tail, _ => exact ⟨a, b, tail, rfl⟩
      | [_], hlong => simp at hlong
      | [], _ => simp at hdata
    have hlength : (rest.take size).length = size := by
      rw [List.length_take]
      omega
    constructor
    · have hcons : prefixed16 (rest.take size :: more) =
          be16Bytes size ++ rest.take size ++ prefixed16 more := by
        simp [prefixed16, hlength]
      rw [hcons, ← hrest, List.append_assoc, List.take_append_drop]
      exact congrArg (· ++ rest) (be16Bytes_be16 a b).symm
    · intro item hitem
      rcases List.mem_cons.mp hitem with rfl | hitem
      · have hsmall : size < 2 ^ 16 := be16_lt a b
        exact ⟨by omega, by omega, total, next, haccept⟩
      · exact haccepted item hitem

end Split

/-! ## Four bytes -/

def prefixed32 (items : List (List UInt8)) : List UInt8 :=
  items.flatMap fun item => be32Bytes item.length ++ item

theorem prefixed32_cons (item : List UInt8) (items : List (List UInt8)) :
    prefixed32 (item :: items) = byteOf item.length 24 :: byteOf item.length 16 ::
      byteOf item.length 8 :: byteOf item.length 0 :: (item ++ prefixed32 items) := by
  simp [prefixed32, be32Bytes]

/-- Split data that is known to be well formed. -/
def splitPrefixed32 (data : List UInt8) : List (List UInt8) :=
  if _h : data = [] then []
  else
    let size := be32 (data.getD 0 0) (data.getD 1 0) (data.getD 2 0)
      (data.getD 3 0)
    let rest := data.drop 4
    rest.take size :: splitPrefixed32 (rest.drop size)
termination_by data.length
decreasing_by
  have := List.length_pos_iff.mpr _h
  simp only [List.length_drop]
  omega

theorem splitPrefixed32_prefixed32 (h : ∀ item ∈ items, item.length < 2 ^ 32) :
    splitPrefixed32 (prefixed32 items) = items := by
  induction items with
  | nil => simp [prefixed32, splitPrefixed32]
  | cons item items ih =>
    have hsize := be32_byteOf item.length
    rw [Nat.mod_eq_of_lt (h item List.mem_cons_self)] at hsize
    have hrest := ih fun item hitem => h item (List.mem_cons_of_mem _ hitem)
    rw [splitPrefixed32, prefixed32_cons]
    simp [hsize, hrest]

end LiveForge.Support
