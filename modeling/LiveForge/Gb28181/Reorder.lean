import LiveForge.Support.Clock
import LiveForge.Support.Run
import Mathlib.Data.List.AList

/-!
# The reorder buffer of GB28181 ingest

`reorderBuffer` of `module/gb28181/rtp_receiver.go` puts RTP packets received
over UDP back in order.  It reads nothing of a packet but its sequence number,
so packets are of any type with such a number.  Packets are kept in a map by
sequence number; consecutive ones are emitted from `nextSeq` on, and when too
many wait, `nextSeq` jumps to the one that is least far ahead.
-/

namespace LiveForge.Gb28181

open Support

variable {α : Type*} {out : List α}

/-! ## The buffer -/

structure ReorderBuffer (α : Type*) where
  buf : AList (fun _ : UInt16 => α) := ∅
  nextSeq : UInt16 := 0
  maxDelay : UInt16
  started : Bool := false

def newReorderBuffer (maxDelay : UInt16) : ReorderBuffer α := { maxDelay }

namespace ReorderBuffer

def start (b : ReorderBuffer α) (seq : UInt16) : ReorderBuffer α :=
  if b.started then b else { b with started := true, nextSeq := seq }

def store (b : ReorderBuffer α) (seq : UInt16) (pkt : α) : ReorderBuffer α :=
  { b with buf := b.buf.insert seq pkt }

/-- Emit the packet with the next number and go on, at most `fuel` times. -/
def flushLoop : ℕ → ReorderBuffer α → List α × ReorderBuffer α
  | 0, b => ([], b)
  | fuel + 1, b =>
    match b.buf.lookup b.nextSeq with
    | none => ([], b)
    | some p =>
      let r := flushLoop fuel { b with
        buf := b.buf.erase b.nextSeq
        nextSeq := b.nextSeq + 1 }
      (p :: r.1, r.2)

/-- Every turn of the loop takes a packet out of the map, so there are at most
as many turns as packets. -/
def flush (b : ReorderBuffer α) : List α × ReorderBuffer α :=
  b.flushLoop b.buf.keys.length

def seqDiff (a b : UInt16) : UInt16 := a - b

/-- The number in the map that is least far ahead of `nextSeq`. -/
def minSeq (b : ReorderBuffer α) (seq : UInt16) : UInt16 :=
  b.buf.keys.foldl
    (fun m s => if seqDiff s b.nextSeq < seqDiff m b.nextSeq then s else m) seq

/-- Skip a gap when too many packets wait behind it. -/
def skip (b : ReorderBuffer α) (seq : UInt16) : List α × ReorderBuffer α :=
  if b.maxDelay < UInt16.ofNat b.buf.keys.length then
    { b with nextSeq := b.minSeq seq }.flush
  else ([], b)

/-- Take a packet; the emitted packets come first in the result. -/
def push (seq : α → UInt16) (b : ReorderBuffer α) (pkt : α) : List α × ReorderBuffer α :=
  let r := ((b.start (seq pkt)).store (seq pkt) pkt).flush
  let r' := r.2.skip (seq pkt)
  (r.1 ++ r'.1, r'.2)

end ReorderBuffer

/-! ## A session of packets -/

structure Receiver (α : Type*) where
  buffer : ReorderBuffer α
  arrived : List α := []
  emitted : List α := []

def Receiver.receive (seq : α → UInt16) (r : Receiver α) (pkt : α) : Option (Receiver α) :=
  let out := r.buffer.push seq pkt
  some ⟨out.2, r.arrived ++ [pkt], r.emitted ++ out.1⟩

section Law

variable (number : α → ℤ)

/-- The law of a jitter buffer: emission in strictly increasing order, at most
`maxDelay` packets waiting, and no packet lost. -/
structure Jitter (r : Receiver α) : Prop where
  increasing : r.emitted.Pairwise fun a b => number a < number b
  bounded : r.buffer.buf.keys.length ≤ r.buffer.maxDelay.toNat
  kept : ∀ a ∈ r.arrived, (∃ e ∈ r.emitted, number e = number a) ∨
    ∃ k, ∃ e ∈ r.buffer.buf.lookup k, number e = number a

/-- The packet is numbered after the last one emitted, by no more than one turn
of the counter. -/
def Ahead (r : Receiver α) (pkt : α) : Prop :=
  ∀ last ∈ r.emitted.getLast?, number last < number pkt ∧ number pkt ≤ number last + 2 ^ 16

instance (r : Receiver α) (pkt : α) : Decidable (Ahead number r pkt) :=
  inferInstanceAs (Decidable (∀ last ∈ r.emitted.getLast?, _ ∧ _))

end Law

/-! ## Consecutive packets -/

section Consecutive

variable (number : α → ℤ)

def Consecutive (n : ℤ) : List α → Prop
  | [] => True
  | a :: rest => number a = n ∧ Consecutive (n + 1) rest

variable {number} {n : ℤ}

theorem Consecutive.mem_range (hout : Consecutive number n out) :
    ∀ a ∈ out, n ≤ number a ∧ number a < n + out.length := by
  induction out generalizing n with
  | nil => simp
  | cons head rest ih =>
    refine List.forall_mem_cons.mpr ⟨?_, fun a ha => ?_⟩
    · rw [hout.1, List.length_cons]
      omega
    · have hrange := ih hout.2 a ha
      rw [List.length_cons]
      omega

theorem Consecutive.pairwise (hout : Consecutive number n out) :
    out.Pairwise fun a b => number a < number b := by
  induction out generalizing n with
  | nil => exact .nil
  | cons head rest ih =>
    refine .cons (fun a ha => ?_) (ih hout.2)
    have hrange := hout.2.mem_range a ha
    rw [hout.1]
    omega

theorem Consecutive.getLast? (hout : Consecutive number n out) :
    ∀ last ∈ out.getLast?, number last + 1 = n + out.length := by
  induction out generalizing n with
  | nil => simp
  | cons head rest ih =>
    intro last hlast
    cases rest with
    | nil =>
      simp only [List.getLast?_singleton, Option.mem_some_iff] at hlast
      subst hlast
      rw [hout.1]
      simp
    | cons b rest =>
      have htail := ih hout.2 last hlast
      rw [List.length_cons]
      omega

end Consecutive

/-! ## The window of the map -/

variable {seq : α → UInt16} {number : α → ℤ}

/-- Every packet of the map is stored under its number, and its number is less
than a turn ahead of `n`. -/
def InTurn (seq : α → UInt16) (number : α → ℤ) (n : ℤ)
    (buf : AList fun _ : UInt16 => α) : Prop :=
  ∀ k, ∀ a ∈ buf.lookup k, k = seq a ∧ n ≤ number a ∧ number a < n + 2 ^ 16

variable {n n' : ℤ} {buf : AList fun _ : UInt16 => α} {b b' : ReorderBuffer α} {k : UInt16}
  {a pkt : α} (hseq : ∀ a, seq a = seqOf (number a))

theorem InTurn.insert (hturn : InTurn seq number n buf) (hlow : n ≤ number a)
    (hhigh : number a < n + 2 ^ 16) :
    InTurn seq number n (buf.insert (seq a) a) := by
  intro k e he
  by_cases hk : k = seq a
  · subst hk
    rw [AList.lookup_insert, Option.mem_some_iff] at he
    subst he
    exact ⟨rfl, hlow, hhigh⟩
  · rw [AList.lookup_insert_ne hk] at he
    exact hturn k e he

include hseq in
/-- Without the packet numbered `n` the window moves on by one. -/
theorem InTurn.erase (hturn : InTurn seq number n buf) :
    InTurn seq number (n + 1) (buf.erase (seqOf n)) := by
  intro k e he
  by_cases hk : k = seqOf n
  · subst hk
    simp at he
  · rw [AList.lookup_erase_ne hk] at he
    obtain ⟨hkey, hlow, hhigh⟩ := hturn k e he
    have hne : number e ≠ n := by
      rintro rfl
      exact hk (hkey.trans (hseq e))
    exact ⟨hkey, by omega, by omega⟩

include hseq in
theorem InTurn.number_eq (hturn : InTurn seq number n buf) (ha : a ∈ buf.lookup (seqOf n)) :
    number a = n := by
  obtain ⟨hkey, hlow, hhigh⟩ := hturn _ a ha
  rw [hseq] at hkey
  exact eq_of_seqOf_eq hkey.symm (by omega) (by omega)

/-! ## Flushing -/

theorem length_keys_erase (ha : a ∈ buf.lookup k) :
    (buf.erase k).keys.length + 1 = buf.keys.length := by
  have hmem : k ∈ buf.keys := AList.mem_keys.mp (AList.lookup_isSome.mp (Option.isSome_of_mem ha))
  rw [AList.keys_erase, List.length_erase_of_mem hmem]
  have hpos := List.length_pos_of_mem hmem
  omega

theorem length_keys_insert (k : UInt16) (a : α) (buf : AList fun _ : UInt16 => α) :
    (buf.insert k a).keys.length ≤ buf.keys.length + 1 := by
  rw [AList.keys_insert]
  exact Nat.succ_le_succ (List.length_erase_le)

/-- What flushing from the number `n` does: consecutive packets go out, the
window begins where they end, and nothing else leaves the map. -/
structure Flushed (seq : α → UInt16) (number : α → ℤ) (n : ℤ)
    (b : ReorderBuffer α) (out : List α) (b' : ReorderBuffer α) : Prop where
  consecutive : Consecutive number n out
  next : b'.nextSeq = seqOf (n + out.length)
  missing : b'.buf.lookup b'.nextSeq = none
  turn : InTurn seq number (n + out.length) b'.buf
  high : ∀ k, ∀ a ∈ b'.buf.lookup k, a ∈ b.buf.lookup k
  kept : ∀ k, ∀ a ∈ b.buf.lookup k, a ∈ out ∨ a ∈ b'.buf.lookup k
  length : b'.buf.keys.length + out.length = b.buf.keys.length
  maxDelay : b'.maxDelay = b.maxDelay
  started : b'.started = b.started

theorem Flushed.none (hnext : b.nextSeq = seqOf n) (hmissing : b.buf.lookup b.nextSeq = none)
    (hturn : InTurn seq number n b.buf) :
    Flushed seq number n b [] b where
  consecutive := trivial
  next := by simpa using hnext
  missing := hmissing
  turn := by simpa using hturn
  high _ _ ha := ha
  kept _ _ ha := .inr ha
  length := by simp
  maxDelay := rfl
  started := rfl

open ReorderBuffer

include hseq in
theorem flushed_flushLoop (fuel : ℕ) (hfuel : b.buf.keys.length ≤ fuel)
    (hnext : b.nextSeq = seqOf n) (hturn : InTurn seq number n b.buf) :
    Flushed seq number n b (b.flushLoop fuel).1 (b.flushLoop fuel).2 := by
  induction fuel generalizing n b with
  | zero =>
    refine .none hnext ?_ hturn
    have hkeys : b.buf.keys = [] := List.length_eq_zero_iff.mp (by omega)
    rw [AList.lookup_eq_none, AList.mem_keys, hkeys]
    simp
  | succ fuel ih =>
    cases hlookup : b.buf.lookup b.nextSeq with
    | none =>
      simp only [flushLoop, hlookup]
      exact .none hnext hlookup hturn
    | some p =>
      simp only [flushLoop, hlookup]
      have hp : number p = n := by
        rw [hnext] at hlookup
        exact hturn.number_eq hseq hlookup
      have hlength := length_keys_erase hlookup
      -- The loop goes on with the window one further.
      have hrest := @ih (n + 1) { b with buf := b.buf.erase b.nextSeq, nextSeq := b.nextSeq + 1 }
        (by dsimp only; omega) (hnext ▸ (UInt16.ofInt_add n 1).symm)
        (by rw [hnext]; exact hturn.erase hseq)
      generalize flushLoop fuel
        { b with buf := b.buf.erase b.nextSeq, nextSeq := b.nextSeq + 1 } = r
        at hrest
      have hend : n + ((p :: r.1).length : ℤ) = n + 1 + r.1.length := by
        rw [List.length_cons]
        omega
      refine ⟨⟨hp, hrest.consecutive⟩, ?_, hrest.missing, ?_, ?_, ?_, ?_,
        hrest.maxDelay, hrest.started⟩
      · rw [hend, hrest.next]
      · rw [hend]
        exact hrest.turn
      · intro k a ha
        have herase := hrest.high k a ha
        by_cases hk : k = b.nextSeq
        · subst hk
          simp at herase
        · rwa [AList.lookup_erase_ne hk] at herase
      · intro k a ha
        by_cases hk : k = b.nextSeq
        · subst hk
          rw [hlookup, Option.mem_some_iff] at ha
          exact .inl (by simp [ha])
        · rcases hrest.kept k a (by rwa [AList.lookup_erase_ne hk]) with hout | hleft
          · exact .inl (List.mem_cons_of_mem _ hout)
          · exact .inr hleft
      · have hrestLength := hrest.length
        dsimp only at hrestLength
        omega

include hseq in
theorem flushed_flush (hnext : b.nextSeq = seqOf n) (hturn : InTurn seq number n b.buf) :
    Flushed seq number n b b.flush.1 b.flush.2 :=
  flushed_flushLoop hseq b.buf.keys.length le_rfl hnext hturn

include hseq in
theorem Flushed.lt (hflushed : Flushed seq number n b out b') (ha : a ∈ b'.buf.lookup k) :
    n + out.length < number a := by
  obtain ⟨hkey, hlow, -⟩ := hflushed.turn k a ha
  refine lt_of_le_of_ne hlow fun heq => ?_
  have hnext : k = b'.nextSeq := by rw [hkey, hseq, ← heq, hflushed.next]
  rw [hnext, hflushed.missing] at ha
  simp at ha

/-! ## Skipping -/

/-- A fold that keeps the smaller of two ends with a smallest one. -/
theorem foldl_min_spec {β : Type*} (key : β → ℕ) (items : List β) (m : β) :
    let best := items.foldl (fun m s => if key s < key m then s else m) m
    best ∈ m :: items ∧ ∀ s ∈ m :: items, key best ≤ key s := by
  induction items generalizing m with
  | nil => simp
  | cons s items ih =>
    obtain ⟨hmem, hall⟩ := ih (if key s < key m then s else m)
    simp only [List.foldl_cons]
    generalize items.foldl (fun m s => if key s < key m then s else m)
      (if key s < key m then s else m) = best at hmem hall
    rw [List.forall_mem_cons] at hall
    rw [List.forall_mem_cons, List.forall_mem_cons]
    split at hmem
    next hlt =>
      rw [if_pos hlt] at hall
      exact ⟨List.mem_cons_of_mem _ hmem, by omega, hall.1, hall.2⟩
    next hge =>
      rw [if_neg hge] at hall
      refine ⟨?_, hall.1, by omega, hall.2⟩
      rw [List.mem_cons] at hmem ⊢
      exact hmem.imp id (List.mem_cons_of_mem _)

/-- The distance ahead of `nextSeq`, for a packet in the window. -/
theorem toNat_seqDiff {n m : ℤ} (hlow : n ≤ m) (hhigh : m < n + 2 ^ 16) :
    ((ReorderBuffer.seqDiff (seqOf m) (seqOf n)).toNat : ℤ) = m - n := by
  rw [seqDiff, seqOf_sub_seqOf, toNat_seqOf]
  omega

include hseq in
theorem minSeq_spec (hnext : b.nextSeq = seqOf n)
    (hturn : InTurn seq number n b.buf) (hpkt : pkt ∈ b.buf.lookup (seq pkt)) :
    ∃ least ∈ b.buf.lookup (b.minSeq (seq pkt)), b.minSeq (seq pkt) = seqOf (number least) ∧
      ∀ k, ∀ a ∈ b.buf.lookup k, number least ≤ number a := by
  have hfold : b.minSeq (seq pkt) = b.buf.keys.foldl (fun m s =>
      if (seqDiff s b.nextSeq).toNat <
        (seqDiff m b.nextSeq).toNat then s else m) (seq pkt) := by
    simp only [minSeq, UInt16.lt_iff_toNat_lt]
  obtain ⟨hmem, hall⟩ := foldl_min_spec (fun s => (seqDiff s b.nextSeq).toNat) b.buf.keys (seq pkt)
  rw [← hfold] at hmem hall
  have hkey : b.minSeq (seq pkt) ∈ b.buf := by
    rcases List.mem_cons.mp hmem with heq | hkeys
    · rw [heq]
      exact AList.lookup_isSome.mp (Option.isSome_of_mem hpkt)
    · exact AList.mem_keys.mpr hkeys
  obtain ⟨least, hleast⟩ := Option.isSome_iff_exists.mp (AList.lookup_isSome.mpr hkey)
  obtain ⟨hmin, hlow, hhigh⟩ := hturn _ least hleast
  rw [hseq least] at hmin
  refine ⟨least, hleast, hmin, fun k a ha => ?_⟩
  obtain ⟨hk, hklow, hkhigh⟩ := hturn k a ha
  have hle := hall k (List.mem_cons_of_mem _ (AList.mem_keys.mp
    (AList.lookup_isSome.mp (Option.isSome_of_mem ha))))
  have hd := toNat_seqDiff hlow hhigh
  have hdk := toNat_seqDiff hklow hkhigh
  rw [hseq] at hk
  rw [hmin, hk, hnext] at hle
  omega

theorem length_le_of_nodup {keys : List UInt16} (hnodup : keys.Nodup) : keys.length ≤ 2 ^ 16 := by
  have hsub : keys.map UInt16.toNat ⊆ List.range (2 ^ 16) := by
    intro k hk
    obtain ⟨s, -, rfl⟩ := List.mem_map.mp hk
    exact List.mem_range.mpr s.toNat_lt
  have hmap : (keys.map UInt16.toNat).Nodup := hnodup.map fun _ _ => UInt16.toNat_inj.mp
  have hle := (List.subperm_of_subset hmap hsub).length_le
  rwa [List.length_map, List.length_range] at hle

/-- A number that is missing in the map leaves room in a 16-bit count. -/
theorem length_lt_of_lookup_eq_none (hnone : buf.lookup k = none) : buf.keys.length < 2 ^ 16 := by
  have hnodup : (k :: buf.keys).Nodup :=
    List.nodup_cons.mpr ⟨AList.lookup_eq_none.mp hnone, buf.keys_nodup⟩
  have hle := length_le_of_nodup hnodup
  rw [List.length_cons] at hle
  omega

/-! ## Pushing -/

/-- What a push does with the packets it finds in `b`: the emitted ones are
numbered from `n` on and end right before `n'`, the next number. -/
structure Emits (seq : α → UInt16) (number : α → ℤ) (n n' : ℤ)
    (b : ReorderBuffer α) (out : List α) (b' : ReorderBuffer α) : Prop where
  increasing : out.Pairwise fun a b => number a < number b
  range : ∀ a ∈ out, n ≤ number a ∧ number a < n'
  last : (out = [] ∧ n' = n) ∨ ∃ e ∈ out.getLast?, number e + 1 = n'
  next : b'.nextSeq = seqOf n'
  missing : b'.buf.lookup b'.nextSeq = none
  turn : InTurn seq number n' b'.buf
  kept : ∀ k, ∀ a ∈ b.buf.lookup k, a ∈ out ∨ a ∈ b'.buf.lookup k
  maxDelay : b'.maxDelay = b.maxDelay
  started : b'.started = b.started

theorem Flushed.emits (hflushed : Flushed seq number n b out b') :
    Emits seq number n (n + out.length) b out b' where
  increasing := hflushed.consecutive.pairwise
  range := hflushed.consecutive.mem_range
  last := by
    cases hlast : out.getLast? with
    | none =>
      have hnil := List.getLast?_eq_none_iff.mp hlast
      exact .inl ⟨hnil, by simp [hnil]⟩
    | some e =>
      exact .inr ⟨e, rfl, hflushed.consecutive.getLast? e hlast⟩
  next := hflushed.next
  missing := hflushed.missing
  turn := hflushed.turn
  kept := hflushed.kept
  maxDelay := hflushed.maxDelay
  started := hflushed.started

/-- The packets that wait are counted in 16 bits without loss. -/
theorem overfull_iff (hmissing : b.buf.lookup b.nextSeq = none) :
    b.maxDelay < UInt16.ofNat b.buf.keys.length ↔ b.maxDelay.toNat < b.buf.keys.length := by
  have hlt := length_lt_of_lookup_eq_none hmissing
  rw [UInt16.lt_iff_toNat_lt, UInt16.toNat_ofNat', Nat.mod_eq_of_lt hlt]

include hseq in
theorem emits_skip (hnext : b.nextSeq = seqOf n) (hmissing : b.buf.lookup b.nextSeq = none)
    (hturn : InTurn seq number n b.buf) (hpkt : pkt ∈ b.buf.lookup (seq pkt))
    (hbounded : b.buf.keys.length ≤ b.maxDelay.toNat + 1) :
    ∃ n', Emits seq number n n' b (b.skip (seq pkt)).1 (b.skip (seq pkt)).2 ∧
      (b.skip (seq pkt)).2.buf.keys.length ≤ b.maxDelay.toNat := by
  unfold skip
  split
  next hover =>
    obtain ⟨least, hleast, hmin, hsmallest⟩ := minSeq_spec hseq hnext hturn hpkt
    have hlow := (hturn _ least hleast).2.1
    have hturn' : InTurn seq number (number least) b.buf := by
      intro k a ha
      obtain ⟨hkey, -, hhigh⟩ := hturn k a ha
      exact ⟨hkey, hsmallest k a ha, by omega⟩
    have hflushed := flushed_flush hseq (n := number least)
      (b := { b with nextSeq := b.minSeq (seq pkt) }) hmin hturn'
    generalize flush { b with nextSeq := b.minSeq (seq pkt) } = r at hflushed ⊢
    have hne : r.1 ≠ [] := by
      intro hnil
      rcases hflushed.kept _ least hleast with hout | hleft
      · simp [hnil] at hout
      · have hlt := hflushed.lt hseq hleft
        simp [hnil] at hlt
    refine ⟨number least + r.1.length, ?_, ?_⟩
    · have hemits := hflushed.emits
      exact { hemits with
        range := fun a ha => ⟨hlow.trans (hemits.range a ha).1, (hemits.range a ha).2⟩
        last := .inr (hemits.last.resolve_left fun hnil => hne hnil.1) }
    · have hlength := hflushed.length
      have hpos := List.length_pos_of_ne_nil hne
      dsimp only at hlength
      omega
  next hfits =>
    refine ⟨n, ⟨.nil, by simp, .inl ⟨rfl, rfl⟩, hnext, hmissing, hturn,
      fun k a ha => .inr ha, rfl, rfl⟩, ?_⟩
    rw [overfull_iff hmissing] at hfits
    dsimp only
    omega

theorem buf_start (b : ReorderBuffer α) (s : UInt16) : (b.start s).buf = b.buf := by
  unfold start
  split <;> rfl

theorem maxDelay_start (b : ReorderBuffer α) (s : UInt16) : (b.start s).maxDelay = b.maxDelay := by
  unfold start
  split <;> rfl

theorem started_start (b : ReorderBuffer α) (s : UInt16) : (b.start s).started = true := by
  unfold start
  split
  next hstarted => exact hstarted
  · rfl

include hseq in
/-- A push into a buffer that waits for the number `n` takes a packet of the
turn from `n` on and leaves no more than `maxDelay` waiting. -/
theorem emits_push (hnext : (b.start (seq pkt)).nextSeq = seqOf n)
    (hturn : InTurn seq number n (b.start (seq pkt)).buf)
    (hlow : n ≤ number pkt) (hhigh : number pkt < n + 2 ^ 16)
    (hbounded : (b.start (seq pkt)).buf.keys.length ≤ b.maxDelay.toNat) :
    ∃ n', Emits seq number n n' ((b.start (seq pkt)).store (seq pkt) pkt)
        (b.push seq pkt).1 (b.push seq pkt).2 ∧
      (b.push seq pkt).2.buf.keys.length ≤ b.maxDelay.toNat := by
  unfold push
  dsimp only
  have hdelay : ((b.start (seq pkt)).store (seq pkt) pkt).maxDelay = b.maxDelay :=
    maxDelay_start _ _
  have hstored : ((b.start (seq pkt)).store (seq pkt) pkt).buf.keys.length ≤ b.maxDelay.toNat + 1 :=
    (length_keys_insert _ _ _).trans (by omega)
  have hpkt : pkt ∈ ((b.start (seq pkt)).store (seq pkt) pkt).buf.lookup
      (seq pkt) := AList.lookup_insert _
  have hflushed := flushed_flush hseq
    (b := (b.start (seq pkt)).store (seq pkt) pkt) hnext (hturn.insert hlow hhigh)
  generalize (b.start (seq pkt)).store (seq pkt) pkt = stored at *
  generalize stored.flush = r at hflushed ⊢
  have hlength := hflushed.length
  by_cases hout : r.1 = []
  · -- Nothing was due, so the packet itself waits, perhaps as one too many.
    have hpkt' : pkt ∈ r.2.buf.lookup (seq pkt) :=
      (hflushed.kept _ pkt hpkt).resolve_left (by simp [hout])
    have hn : n + (r.1.length : ℤ) = n := by simp [hout]
    obtain ⟨n', hemits, hle⟩ := emits_skip hseq hflushed.next hflushed.missing
      hflushed.turn hpkt' (by rw [hflushed.maxDelay, hdelay]; omega)
    rw [hn] at hemits
    rw [hout]
    refine ⟨n', { hemits with
      kept := fun k a ha => hemits.kept k a
        ((hflushed.kept k a ha).resolve_left (by simp [hout]))
      maxDelay := hemits.maxDelay.trans hflushed.maxDelay
      started := hemits.started.trans hflushed.started }, ?_⟩
    rwa [hflushed.maxDelay, hdelay] at hle
  · -- Something was due, so no more packets wait than before.
    have hpos := List.length_pos_of_ne_nil hout
    have hfits : ¬ r.2.maxDelay < UInt16.ofNat r.2.buf.keys.length := by
      rw [overfull_iff hflushed.missing, hflushed.maxDelay, hdelay]
      omega
    rw [skip, if_neg hfits, List.append_nil]
    exact ⟨_, hflushed.emits, by dsimp only; omega⟩

/-! ## Runs -/

/-- The packets emitted so far are numbered below `n` in increasing order, the
last of them right before it. -/
structure History (number : α → ℤ) (n : ℤ) (emitted : List α) : Prop where
  increasing : emitted.Pairwise fun a b => number a < number b
  below : ∀ e ∈ emitted, number e < n
  last : ∀ e ∈ emitted.getLast?, number e + 1 = n

theorem History.append {emitted : List α} (hhistory : History number n emitted)
    (hemits : Emits seq number n n' b out b') :
    History number n' (emitted ++ out) := by
  have hle : n ≤ n' := by
    rcases hemits.last with ⟨-, rfl⟩ | ⟨e, he, rfl⟩
    · exact le_rfl
    · have hrange := hemits.range e (List.mem_of_mem_getLast? he)
      omega
  refine ⟨?_, ?_, ?_⟩
  · refine List.pairwise_append.mpr ⟨hhistory.increasing, hemits.increasing, fun a ha e he => ?_⟩
    exact (hhistory.below a ha).trans_le (hemits.range e he).1
  · refine List.forall_mem_append.mpr
      ⟨fun e he => (hhistory.below e he).trans_le hle, fun e he => ?_⟩
    exact (hemits.range e he).2
  · intro e he
    rcases hemits.last with ⟨rfl, rfl⟩ | ⟨last, hlast, hnext⟩
    · rw [List.append_nil] at he
      exact hhistory.last e he
    · have hne : out ≠ [] := List.ne_nil_of_mem (List.mem_of_mem_getLast? hlast)
      rw [List.getLast?_append_of_ne_nil _ hne] at he
      rw [Option.mem_unique he hlast, hnext]

/-- The receiver waits for the number `n`; before the first packet it waits for
any. -/
structure Waits (seq : α → UInt16) (number : α → ℤ) (n : ℤ) (r : Receiver α) : Prop where
  history : History number n r.emitted
  jitter : Jitter number r
  turn : InTurn seq number n r.buffer.buf
  next : r.buffer.started = true →
    r.buffer.nextSeq = seqOf n ∧ r.emitted ≠ []
  fresh : r.buffer.started = false → r.buffer.buf = ∅ ∧ r.emitted = []

theorem waits_new (maxDelay : UInt16) (n : ℤ) :
    Waits seq number n ⟨newReorderBuffer maxDelay, [], []⟩ where
  history := ⟨.nil, by simp, by simp⟩
  jitter := ⟨.nil, by simp [newReorderBuffer], by simp⟩
  turn := by simp [InTurn, newReorderBuffer]
  next := by simp [newReorderBuffer]
  fresh _ := ⟨rfl, rfl⟩

include hseq in
/-- A packet ahead is less than a turn after the number the receiver waits for
when it stores the packet. -/
theorem Waits.ahead {r : Receiver α} (hwaits : Waits seq number n r) (hahead : Ahead number r pkt) :
    ∃ m, History number m r.emitted ∧ InTurn seq number m (r.buffer.start (seq pkt)).buf ∧
      (r.buffer.start (seq pkt)).nextSeq = seqOf m ∧ m ≤ number pkt ∧ number pkt < m + 2 ^ 16 ∧
      (r.emitted = [] → number pkt = m) := by
  cases hstarted : r.buffer.started with
  | true =>
    obtain ⟨hnext, hne⟩ := hwaits.next hstarted
    obtain ⟨last, hlast⟩ := Option.ne_none_iff_exists'.mp (mt List.getLast?_eq_none_iff.mp hne)
    have hprev := hwaits.history.last last hlast
    have hgap := hahead last hlast
    rw [start, if_pos hstarted]
    exact ⟨n, hwaits.history, hwaits.turn, hnext, by omega, by omega, fun hnil => absurd hnil hne⟩
  | false =>
    obtain ⟨hbuf, hnil⟩ := hwaits.fresh hstarted
    rw [start, if_neg (by simp [hstarted])]
    refine ⟨number pkt, ?_, ?_, hseq pkt, le_rfl, by omega, fun _ => rfl⟩
    · rw [hnil]
      exact ⟨.nil, by simp, by simp⟩
    · simp [InTurn, hbuf]

include hseq in
/-- A stored packet can only take the place of one with its own number. -/
theorem InTurn.insert_kept (hturn : InTurn seq number n buf) (hlow : n ≤ number pkt)
    (hhigh : number pkt < n + 2 ^ 16) {e : α} (he : e ∈ buf.lookup k) :
    ∃ k', ∃ e' ∈ (buf.insert (seq pkt) pkt).lookup k', number e' = number e := by
  by_cases hk : k = seq pkt
  · refine ⟨seq pkt, pkt, AList.lookup_insert _, ?_⟩
    obtain ⟨hkey, helow, hehigh⟩ := hturn k e he
    rw [hk, hseq, hseq] at hkey
    exact eq_of_seqOf_eq hkey (by omega) (by omega)
  · refine ⟨k, e, ?_, rfl⟩
    rwa [AList.lookup_insert_ne hk]

include hseq in
theorem Waits.step {r r' : Receiver α} (hwaits : Waits seq number n r)
    (hahead : Ahead number r pkt) (hstep : r.receive seq pkt = some r') :
    ∃ n', Waits seq number n' r' := by
  obtain ⟨m, hhistory, hturn, hnext, hlow, hhigh, hfirst⟩ := hwaits.ahead hseq hahead
  obtain ⟨n', hemits, hbounded⟩ := emits_push hseq hnext hturn hlow hhigh
    (by rw [buf_start]; exact hwaits.jitter.bounded)
  cases hstep
  have hpkt : pkt ∈ ((r.buffer.start (seq pkt)).store (seq pkt) pkt).buf.lookup
      (seq pkt) := AList.lookup_insert _
  have hstarted : (r.buffer.push seq pkt).2.started = true :=
    hemits.started.trans (started_start _ _)
  have hdelay : (r.buffer.push seq pkt).2.maxDelay = r.buffer.maxDelay :=
    hemits.maxDelay.trans (maxDelay_start _ _)
  have hhistory' := hhistory.append hemits
  have hkept : ∀ k, ∀ e ∈ ((r.buffer.start (seq pkt)).store (seq pkt) pkt).buf.lookup k,
      (∃ e' ∈ r.emitted ++ (r.buffer.push seq pkt).1, number e' = number e) ∨
        ∃ k', ∃ e' ∈ (r.buffer.push seq pkt).2.buf.lookup k',
          number e' = number e := by
    intro k e he
    rcases hemits.kept k e he with hout | hleft
    · exact .inl ⟨e, List.mem_append_right _ hout, rfl⟩
    · exact .inr ⟨k, e, hleft, rfl⟩
  have hne : r.emitted ++ (r.buffer.push seq pkt).1 ≠ [] := by
    intro hnil
    obtain ⟨hemitted, hout⟩ := List.append_eq_nil_iff.mp hnil
    rcases hemits.last with ⟨-, rfl⟩ | ⟨e, he, -⟩
    · -- The first packet is the one waited for, so it cannot stay behind.
      have hleft := (hemits.kept _ pkt hpkt).resolve_left (by simp [hout])
      rw [hseq, hfirst hemitted, ← hemits.next, hemits.missing] at hleft
      simp at hleft
    · simp [hout] at he
  refine ⟨n', hhistory', ⟨hhistory'.increasing, ?_, ?_⟩, hemits.turn,
    fun _ => ⟨hemits.next, hne⟩, fun hnot => ?_⟩
  · rw [hdelay]
    exact hbounded
  · refine List.forall_mem_append.mpr ⟨fun a ha => ?_, ?_⟩
    · rcases hwaits.jitter.kept a ha with ⟨e, he, hnum⟩ | ⟨k, e, he, hnum⟩
      · exact .inl ⟨e, List.mem_append_left _ he, hnum⟩
      · rw [← buf_start r.buffer (seq pkt)] at he
        obtain ⟨k', e', he', hsame⟩ := hturn.insert_kept hseq hlow hhigh he
        rw [← hnum, ← hsame]
        exact hkept k' e' he'
    · simpa using hkept _ pkt hpkt
  · rw [hstarted] at hnot
    simp at hnot

/-- In every run in which each packet that arrives is ahead of the last one
emitted, by no more than a turn of the counter, the buffer obeys the law of a
jitter buffer. -/
theorem jitter_of_ahead {seq : α → UInt16} {number : α → ℤ} (hseq : ∀ a, seq a = seqOf (number a))
    (maxDelay : UInt16) {arrivals : List α} {r : Receiver α}
    (hahead : StepsMeet (Ahead number) (Receiver.receive seq)
      ⟨newReorderBuffer maxDelay, [], []⟩ arrivals)
    (hrun : runFrom (Receiver.receive seq) ⟨newReorderBuffer maxDelay, [], []⟩ arrivals = some r) :
    Jitter number r := by
  have hstep : ∀ s a s', (∃ n, Waits seq number n s) → Ahead number s a →
      Receiver.receive seq s a = some s' → ∃ n, Waits seq number n s' := by
    rintro s a s' ⟨n, hs⟩ ha hreceive
    exact hs.step hseq ha hreceive
  obtain ⟨n, hwaits⟩ := runFrom_invariant_of_stepsMeet hstep ⟨0, waits_new maxDelay 0⟩ hahead hrun
  exact hwaits.jitter

/-- A lost packet is skipped when a second one waits behind the gap, and the
numbers wrap on the way. -/
theorem jitter_of_ahead_wrap :
    ∃ r, runFrom (Receiver.receive seqOf)
        ⟨newReorderBuffer 1, [], []⟩ [65534, 65536, 65537] = some r ∧
      r.emitted = [65534, 65536, 65537] ∧ Jitter id r := by
  have hrun : (runFrom (Receiver.receive seqOf)
      ⟨newReorderBuffer 1, [], []⟩ [65534, 65536, 65537]).map
        Receiver.emitted = some [65534, 65536, 65537] := by decide
  obtain ⟨r, hr, hemitted⟩ := Option.map_eq_some_iff.mp hrun
  exact ⟨r, hr, hemitted, jitter_of_ahead (fun _ => rfl) 1 (by decide) hr⟩

/-- Two packets that arrive a second time fill the buffer and are emitted a
second time. -/
theorem duplicates_emitted_twice :
    ∃ r, runFrom (Receiver.receive seqOf) ⟨newReorderBuffer 1, [], []⟩
        [0, 1, 0, 1] = some r ∧ r.emitted = [0, 1, 0, 1] ∧ ¬ Jitter id r :=
  ⟨_, rfl, by decide, fun hjitter => absurd hjitter.increasing (by decide)⟩

end LiveForge.Gb28181
