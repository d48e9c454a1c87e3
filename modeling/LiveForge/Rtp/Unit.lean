import LiveForge.Rtp.Push

/-!
# The unit of a packet

A packet that is taken goes into the current unit or begins one, and the unit
it begins may have made the assembler discard another one.
-/

namespace LiveForge.Rtp

theorem newDepacketizer_spec {codec : CodecType} {dp : Depacketizer}
    (h : newDepacketizer codec = some dp) :
    dp.codec = codec ∧ dp.pending = false := by
  cases codec <;> simp only [newDepacketizer, Option.some.injEq, reduceCtorEq] at h
  all_goals
    subst h
    exact ⟨rfl, rfl⟩

namespace AccessUnitAssembler

/-- The assembler is in the middle of an intact unit. -/
def Collecting (a : AccessUnitAssembler) : Prop :=
  a.haveUnit = true ∧ a.isOpen = true ∧ a.damaged = false

/-- The packet finds its unit open and intact. -/
def continues (a : AccessUnitAssembler) (pkt : Packet) : Bool :=
  a.sameUnit pkt ∧ a.isOpen ∧ ¬ a.damaged

/-- The packet begins a unit and makes the assembler discard another one. -/
def restarts (a : AccessUnitAssembler) (pkt : Packet) : Bool :=
  ¬ a.sameUnit pkt ∧ a.abandons pkt

theorem discard_codec (a : AccessUnitAssembler) : a.discard.codec = a.codec := by
  simp only [discard, recordDiscarded]
  split <;> rfl

theorem codecPending_discard (a : AccessUnitAssembler) : a.discard.codecPending = false := by
  rw [discard]
  cases hnew : newDepacketizer a.codec with
  | none => rfl
  | some dp => exact (newDepacketizer_spec hnew).2

variable {a : AccessUnitAssembler} {p : Packet}

theorem sameUnit_spec (h : a.sameUnit p = true) : a.haveUnit = true ∧ a.key = p.key := by
  simp only [sameUnit, sameSource, decide_eq_true_eq] at h
  obtain ⟨⟨hunit, hssrc, htype⟩, htime⟩ := h
  exact ⟨hunit, by rw [key, Packet.key, hssrc, htype, htime]⟩

theorem sameUnit_of_key (hunit : a.haveUnit = true) (hkey : a.key = p.key) :
    a.sameUnit p = true := by
  simp only [key, Packet.key, UnitKey.mk.injEq] at hkey
  simp [sameUnit, sameSource, hunit, hkey]

theorem continues_iff : a.continues p = true ↔ a.sameUnit p = true ∧ a.Collecting := by
  simp only [continues, decide_eq_true_eq]
  constructor
  · rintro ⟨hsame, hopen, hintact⟩
    exact ⟨hsame, (sameUnit_spec hsame).1, hopen, by simpa using hintact⟩
  · rintro ⟨hsame, -, hopen, hintact⟩
    exact ⟨hsame, hopen, by simp [hintact]⟩

theorem unitFor_of_sameUnit (h : a.sameUnit p = true) : a.unitFor p = a := by
  rw [unitFor, if_pos h]

theorem unitFor_of_not_sameUnit (h : ¬ a.sameUnit p = true) : a.unitFor p = a.beginUnit p := by
  rw [unitFor, if_neg h]

theorem unitFor_codec (a : AccessUnitAssembler) (p : Packet) : (a.unitFor p).codec = a.codec := by
  unfold unitFor
  split
  · rfl
  · exact beginUnit_codec a p

theorem unitFor_haveUnit (a : AccessUnitAssembler) (p : Packet) :
    (a.unitFor p).haveUnit = true := by
  unfold unitFor
  split
  next h => exact (sameUnit_spec h).1
  · rfl

theorem unitFor_key (a : AccessUnitAssembler) (p : Packet) : (a.unitFor p).key = p.key := by
  unfold unitFor
  split
  next h => exact (sameUnit_spec h).2
  · rfl

theorem unitFor_damaged (h : a.sameUnit p = true → a.damaged = false) :
    (a.unitFor p).damaged = false := by
  unfold unitFor
  split
  next hsame => exact h hsame
  · rfl

theorem unitFor_frameType (h : a.frameType ≠ .sequenceHeader) :
    (a.unitFor p).frameType ≠ .sequenceHeader := by
  unfold unitFor
  split
  · exact h
  · simp [beginUnit]

theorem unitFor_payload (a : AccessUnitAssembler) (p : Packet) :
    (a.unitFor p).payload = if a.sameUnit p then a.payload else [] := by
  unfold unitFor
  split <;> rfl

/-- The unit that is discarded to begin another one is the current one. -/
theorem unitFor_restarts (a : AccessUnitAssembler) (p : Packet) :
    (a.unitFor p).dp = (if a.restarts p then newDepacketizer a.codec else a.dp) ∧
      (a.unitFor p).discardedKey = if a.restarts p then some a.key else a.discardedKey := by
  by_cases hsame : a.sameUnit p = true
  · simp [unitFor_of_sameUnit hsame, restarts, hsame]
  · rw [unitFor_of_not_sameUnit hsame]
    by_cases habandons : a.abandons p = true
    · have hunit : a.haveUnit = true := (of_decide_eq_true habandons).1
      simp [restarts, hsame, beginUnit, habandons, discard, recordDiscarded,
        hunit, discardedKey, key]
    · simp [restarts, beginUnit, habandons, discardedKey]

/-- A packet that does not continue a unit finds nothing of another one. -/
theorem unitFor_empty {dp : Depacketizer} (hdp : (a.unitFor p).dp = some dp)
    (hidle : ¬ a.Collecting → a.codecPending = false ∧ a.payload = [])
    (hbegins : a.continues p = false) :
    dp.pending = false ∧ (a.unitFor p).payload = [] := by
  by_cases hsame : a.sameUnit p = true
  · have hnot : ¬ a.Collecting := fun hcollecting => by
      rw [continues_iff.mpr ⟨hsame, hcollecting⟩] at hbegins
      simp at hbegins
    rw [unitFor_of_sameUnit hsame] at hdp ⊢
    obtain ⟨hpending, hpayload⟩ := hidle hnot
    rw [codecPending, hdp] at hpending
    exact ⟨hpending, hpayload⟩
  · refine ⟨?_, by rw [unitFor_payload, if_neg hsame]⟩
    rw [(unitFor_restarts a p).1] at hdp
    split at hdp
    · exact (newDepacketizer_spec hdp).2
    next hrestarts =>
      have hnot : ¬ a.Collecting := by
        rintro ⟨hunit, hopen, -⟩
        apply hrestarts
        simp [restarts, hsame, abandons, hunit, hopen]
      have hpending := (hidle hnot).1
      rwa [codecPending, hdp] at hpending

/-! ## After a packet is taken -/

section Takes

variable {unmarshal : VP8Unmarshal} {u : AccessUnitAssembler} {dp dp' : Depacketizer}
  {raw : List AVFrame} {frameType : FrameType} {x : AccessUnitAssembler × PushResult}
  (h : Takes unmarshal u p dp dp' raw frameType x)

include h

theorem Takes.returned_eq : x.2 = returned u.codec frameType p raw (u.payload ++ mediaOf raw) := by
  obtain ⟨packets, codecBytes, rfl⟩ := h.result
  rfl

theorem Takes.sameFields :
    x.1.codec = u.codec ∧ x.1.key = u.key ∧ x.1.damaged = u.damaged ∧ x.1.haveUnit = u.haveUnit ∧
      x.1.discardedKey = u.discardedKey := by
  obtain ⟨packets, codecBytes, rfl⟩ := h.result
  exact ⟨rfl, rfl, rfl, rfl, rfl⟩

theorem Takes.newFields :
    x.1.dp = some dp' ∧ x.1.sequence = p.sequenceNumber ∧ x.1.isOpen = !p.marker := by
  obtain ⟨packets, codecBytes, rfl⟩ := h.result
  exact ⟨rfl, rfl, rfl⟩

theorem Takes.payload_eq : x.1.payload = if p.marker then [] else u.payload ++ mediaOf raw := by
  obtain ⟨packets, codecBytes, rfl⟩ := h.result
  rfl

theorem Takes.frameType_ne (hu : u.frameType ≠ .sequenceHeader) :
    x.1.frameType ≠ .sequenceHeader := by
  obtain ⟨packets, codecBytes, rfl⟩ := h.result
  split
  · simp
  · exact h.media hu

theorem Takes.collecting_iff (hunit : u.haveUnit = true) (hintact : u.damaged = false) :
    x.1.Collecting ↔ p.marker = false := by
  obtain ⟨-, -, hdamaged, hhave, -⟩ := h.sameFields
  rw [Collecting, hdamaged, hhave, h.newFields.2.2]
  simp [hunit, hintact]

end Takes

end AccessUnitAssembler

end LiveForge.Rtp
