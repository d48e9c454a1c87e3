import LiveForge.Rtp.Trace
import LiveForge.Support.Run

/-!
# The invariant of a trace

While a unit is open and intact, its packets carry what the assembler has
collected of it and what its depacketizer still holds; otherwise both are
empty.  The depacketizer is the one that the sources alone would make.  Every
call keeps that: one that refuses its packet, one that discards the unit, and
one that takes its packet.
-/

namespace LiveForge.Rtp

open Support AccessUnitAssembler Trace

/-! ## The invariant -/

/-- The unit in the middle of which a trace is. -/
structure InProgress (unmarshal : VP8Unmarshal) (t : Trace) : Prop where
  inOrder : InOrder (currentUnit t.taken) t.assembler.key
  last : ∀ e ∈ (currentUnit t.taken).getLast?, e.packet.sequenceNumber = t.assembler.sequence
  unmarked : ∀ e ∈ currentUnit t.taken, e.packet.marker = false
  holds : ∀ dp ∈ t.assembler.dp, dp.Holds unmarshal
    ((currentUnit t.taken).map TakenPacket.packet) t.assembler.payload
  recent : (currentUnit t.taken).map TakenPacket.packet <:+ t.sources
  times : (t.contributions ++ (currentUnit t.taken).map TakenPacket.time).Pairwise (· < ·)
  past : ∀ e ∈ currentUnit t.taken, e.time < t.time

structure TraceInv (unmarshal : VP8Unmarshal) (codec : CodecType) (t : Trace) : Prop where
  sameCodec : t.assembler.codec = codec
  fed : t.assembler.dp = (feed unmarshal codec t.sources).2
  damaged : t.assembler.damaged = true → t.sources = []
  media : t.assembler.frameType ≠ .sequenceHeader
  bounded : t.assembler.payload.length ≤ maxAccessUnitBytes
  idle : ¬ t.assembler.Collecting → t.assembler.codecPending = false ∧ t.assembler.payload = []
  unit : t.assembler.Collecting → InProgress unmarshal t
  notDiscarded : ∀ p ∈ t.sources, t.assembler.discardedKey ≠ some p.key
  intact : ∀ r ∈ t.returns, Intact unmarshal codec r
  times : t.contributions.Pairwise (· < ·)
  past : ∀ x ∈ t.contributions, x < t.time

theorem traceInv_initial (unmarshal : VP8Unmarshal) (codec : CodecType) :
    TraceInv unmarshal codec (initial codec) where
  sameCodec := rfl
  fed := rfl
  damaged h := by simp [initial, newAccessUnitAssembler] at h
  media := by simp [initial, newAccessUnitAssembler]
  bounded := by simp [initial, newAccessUnitAssembler]
  idle _ := by
    refine ⟨?_, rfl⟩
    change (newDepacketizer codec).any Depacketizer.pending = false
    cases hnew : newDepacketizer codec with
    | none => rfl
    | some dp => exact (newDepacketizer_spec hnew).2
  unit h := by simp [Collecting, initial, newAccessUnitAssembler] at h
  notDiscarded p hp := by simp [initial] at hp
  intact r hr := by simp [initial] at hr
  times := by simp [contributions, initial]
  past x hx := by simp [contributions, initial] at hx

/-! ## Refused packets -/

section Step

variable {unmarshal : VP8Unmarshal} {codec : CodecType} {t : Trace}

theorem Intact.of_frames_nil {r : Return} (h : r.frames = []) : Intact unmarshal codec r where
  failed _ := h
  bounded f hf := by simp [h] at hf
  media f hf := by simp [h] at hf
  header f hf := by simp [h] at hf
  notDiscarded hne := absurd h hne

variable {extra returns : List Return} {e : PushError} {b : AccessUnitAssembler} {sequence : UInt16}

theorem contributions_of_quiet (hquiet : ∀ r ∈ extra, r.frames = []) :
    (returns ++ extra).flatMap Return.contributions = returns.flatMap Return.contributions := by
  rw [List.flatMap_append, List.append_right_eq_self, List.flatMap_eq_nil_iff]
  intro r hr
  rw [Return.contributions, hquiet r hr]
  rfl

theorem intact_of_quiet (h : ∀ r ∈ returns, Intact unmarshal codec r)
    (hquiet : ∀ r ∈ extra, r.frames = []) :
    ∀ r ∈ returns ++ extra, Intact unmarshal codec r := by
  exact List.forall_mem_append.mpr ⟨h, fun r hr => .of_frames_nil (hquiet r hr)⟩

/-- After a discard nothing is left of the unit, and of the sources. -/
theorem TraceInv.discarded (h : TraceInv unmarshal codec t) (hcodec : b.codec = codec)
    (hquiet : ∀ r ∈ extra, r.frames = []) :
    TraceInv unmarshal codec
      { t with
        assembler := b.discard
        time := t.time + 1
        sources := []
        returns := t.returns ++ extra } where
  sameCodec := (discard_codec b).trans hcodec
  fed := by
    rw [← hcodec]
    rfl
  damaged _ := rfl
  media := by simp [AccessUnitAssembler.discard]
  bounded := by simp [AccessUnitAssembler.discard]
  idle _ := ⟨codecPending_discard b, rfl⟩
  unit := by simp [Collecting, AccessUnitAssembler.discard]
  notDiscarded p hp := by simp at hp
  intact := intact_of_quiet h.intact hquiet
  times := by
    simp only [contributions, contributions_of_quiet hquiet]
    exact h.times
  past x hx := by
    simp only [contributions, contributions_of_quiet hquiet] at hx
    exact (h.past x hx).trans (Nat.lt_succ_self _)

/-- A refused packet leaves the unit alone; in a damaged unit its number is
noted. -/
theorem TraceInv.kept (h : TraceInv unmarshal codec t)
    (hsequence : t.assembler.damaged = true ∨ sequence = t.assembler.sequence)
    (hquiet : ∀ r ∈ extra, r.frames = []) :
    TraceInv unmarshal codec
      { t with
        assembler := { t.assembler with sequence := sequence }
        time := t.time + 1
        returns := t.returns ++ extra } where
  __ := h
  unit hcollecting := by
    have hunit := h.unit hcollecting
    have hsame : sequence = t.assembler.sequence := by
      rcases hsequence with hdamaged | hsame
      · rw [hcollecting.2.2] at hdamaged
        simp at hdamaged
      · exact hsame
    refine ⟨hunit.inOrder, ?_, hunit.unmarked, hunit.holds, hunit.recent, ?_,
      fun e he => (hunit.past e he).trans (Nat.lt_succ_self _)⟩
    · rw [hsame]
      exact hunit.last
    · simp only [contributions, contributions_of_quiet hquiet]
      exact hunit.times
  intact := intact_of_quiet h.intact hquiet
  times := by
    simp only [contributions, contributions_of_quiet hquiet]
    exact h.times
  past x hx := by
    simp only [contributions, contributions_of_quiet hquiet] at hx
    exact (h.past x hx).trans (Nat.lt_succ_self _)

/-! ## Packets that are taken -/

def Trace.entry (t : Trace) (p : Packet) : TakenPacket :=
  ⟨t.time, p, !t.assembler.continues p⟩

def Trace.before (t : Trace) (p : Packet) : List TakenPacket :=
  if t.assembler.continues p then currentUnit t.taken else []

variable {p : Packet} {dp dp' : Depacketizer} {raw : List AVFrame}

theorem currentUnit_entry (t : Trace) (p : Packet) :
    currentUnit (t.taken ++ [t.entry p]) = t.before p ++ [t.entry p] := by
  rw [currentUnit_snoc, before, entry]
  cases t.assembler.continues p <;> rfl

section Before

variable (h : TraceInv unmarshal codec t)

include h

theorem TraceInv.before_holds (hdp : (t.assembler.unitFor p).dp = some dp) :
    dp.Holds unmarshal ((t.before p).map TakenPacket.packet) (t.assembler.unitFor p).payload := by
  unfold before
  split
  next hcontinues =>
    obtain ⟨hsame, hcollecting⟩ := continues_iff.mp hcontinues
    rw [unitFor_of_sameUnit hsame] at hdp ⊢
    exact (h.unit hcollecting).holds dp hdp
  next hbegins =>
    obtain ⟨hpending, hpayload⟩ := unitFor_empty hdp h.idle (by simpa using hbegins)
    rw [hpayload]
    exact Depacketizer.holds_nil hpending

theorem TraceInv.before_inOrder
    (hnext : t.assembler.sameUnit p = true → p.sequenceNumber = t.assembler.sequence + 1) :
    InOrder (t.before p ++ [t.entry p]) p.key := by
  unfold before
  split
  next hcontinues =>
    obtain ⟨hsame, hcollecting⟩ := continues_iff.mp hcontinues
    have hunit := h.unit hcollecting
    have hinOrder := hunit.inOrder
    rw [(sameUnit_spec hsame).2] at hinOrder
    refine hinOrder.snoc rfl (by simp [entry, hcontinues]) ?_
    intro last hlast
    rw [hunit.last last hlast]
    exact hnext hsame
  next hbegins => exact InOrder.single (by simp [entry, hbegins])

theorem TraceInv.before_unmarked : ∀ e ∈ t.before p, e.packet.marker = false := by
  unfold before
  split
  next hcontinues => exact (h.unit (continues_iff.mp hcontinues).2).unmarked
  · simp

/-- The sources with the packet: those so far are dropped when another unit is
discarded for it. -/
def Trace.sourcesWith (t : Trace) (p : Packet) : List Packet :=
  (if t.assembler.restarts p then [] else t.sources) ++ [p]

theorem TraceInv.before_recent :
    (t.before p ++ [t.entry p]).map TakenPacket.packet <:+ t.sourcesWith p := by
  unfold before sourcesWith
  split
  next hcontinues =>
    obtain ⟨hsame, hcollecting⟩ := continues_iff.mp hcontinues
    obtain ⟨earlier, hearlier⟩ := (h.unit hcollecting).recent
    refine ⟨earlier, ?_⟩
    rw [if_neg (by simp [restarts, hsame]), ← hearlier, List.map_append, List.append_assoc]
    rfl
  · exact List.suffix_append _ [p]

theorem TraceInv.before_past :
    ∀ x ∈ t.contributions ++ (t.before p).map TakenPacket.time, x < t.time := by
  intro x hx
  rcases List.mem_append.mp hx with hx | hx
  · exact h.past x hx
  · obtain ⟨e, he, rfl⟩ := List.mem_map.mp hx
    unfold before at he
    split at he
    next hcontinues =>
      exact (h.unit (continues_iff.mp hcontinues).2).past e he
    · simp at he

theorem TraceInv.before_times :
    (t.contributions ++ (t.before p ++ [t.entry p]).map TakenPacket.time).Pairwise (· < ·) := by
  have hbefore : (t.contributions ++ (t.before p).map TakenPacket.time).Pairwise (· < ·) := by
    unfold before
    split
    next hcontinues => exact (h.unit (continues_iff.mp hcontinues).2).times
    · simpa using h.times
  rw [List.map_append, ← List.append_assoc, List.pairwise_append]
  refine ⟨hbefore, List.pairwise_singleton _ _, ?_⟩
  intro x hx y hy
  rw [List.mem_singleton.mp hy]
  exact h.before_past x hx

theorem TraceInv.entry_past :
    ∀ y ∈ t.contributions ++ (t.before p ++ [t.entry p]).map TakenPacket.time, y < t.time + 1 := by
  rw [List.map_append, ← List.append_assoc]
  exact forall_mem_concat (fun y hy => (h.before_past y hy).trans (Nat.lt_succ_self _))
    (Nat.lt_succ_self _)

theorem TraceInv.sourcesWith_notDiscarded (hfresh : t.assembler.wasDiscarded p = false) :
    ∀ q ∈ t.sourcesWith p, (t.assembler.unitFor p).discardedKey ≠ some q.key := by
  have hkey : t.assembler.discardedKey ≠ some p.key := by
    intro hkey
    unfold discardedKey at hkey
    split_ifs at hkey with hhave
    simp only [Packet.key, Option.some.injEq, UnitKey.mk.injEq] at hkey
    simp [wasDiscarded, hhave, hkey] at hfresh
  intro q hq
  rw [(unitFor_restarts _ _).2]
  unfold sourcesWith at hq
  split at hq
  next hrestarts =>
    have hlast : q = p := by simpa using hq
    rw [if_pos hrestarts, hlast]
    simp only [restarts, abandons, decide_eq_true_eq] at hrestarts
    intro hsame
    exact hrestarts.1 (sameUnit_of_key hrestarts.2.1 (Option.some.inj hsame))
  next hrestarts =>
    rw [if_neg hrestarts]
    exact forall_mem_concat h.notDiscarded hkey q hq

theorem TraceInv.dp_codec (hdp : (t.assembler.unitFor p).dp = some dp) : dp.codec = codec := by
  rw [(unitFor_restarts _ _).1, h.sameCodec, h.fed] at hdp
  split at hdp
  · exact (newDepacketizer_spec hdp).1
  · exact feed_codec hdp

theorem TraceInv.sourcesWith_fed (hdp : (t.assembler.unitFor p).dp = some dp)
    (hdecoded : depacketizeFrames unmarshal dp p = (.ok raw, dp')) :
    feed unmarshal codec (t.sourcesWith p) = (raw, some dp') := by
  rw [(unitFor_restarts _ _).1, h.sameCodec, h.fed] at hdp
  unfold sourcesWith
  split at hdp
  next hrestarts =>
    rw [if_pos hrestarts]
    exact feed_snoc_of_ok hdp hdecoded
  next hrestarts =>
    rw [if_neg hrestarts]
    exact feed_snoc_of_ok hdp hdecoded

end Before

/-! ## What a taken packet returns -/

variable {frameType : FrameType} {x : AccessUnitAssembler × PushResult}

theorem mem_returned {payload : Bytes} {f : AVFrame}
    (h : f ∈ (returned codec frameType p raw payload).frames) :
    (f ∈ raw ∧ ¬ isMedia f) ∨
      (p.marker = true ∧ payload ≠ [] ∧ f = newAVFrame .video codec frameType 0 0 payload) := by
  rcases List.mem_append.mp h with h | h
  · exact .inl (by simpa using h)
  · unfold released at h
    split at h
    next hdone => exact .inr ⟨hdone.1, hdone.2, by simpa using h⟩
    · simp at h

theorem isMedia_newAVFrame (h : frameType ≠ .sequenceHeader) (payload : Bytes) :
    isMedia (newAVFrame .video codec frameType 0 0 payload) = true := by
  exact decide_eq_true h

/-- At most one of the frames is media, and only with the marker. -/
theorem filter_returned (htype : frameType ≠ .sequenceHeader) (raw : List AVFrame)
    (payload : Bytes) :
    (returned codec frameType p raw payload).frames.filter isMedia =
      released codec frameType p payload := by
  have hraw : (raw.filter fun frame => !isMedia frame).filter isMedia = [] := by
    simp [List.filter_filter]
  rw [returned, List.filter_append, hraw]
  unfold released
  split
  · simp [isMedia_newAVFrame htype]
  · rfl

theorem contributions_take (t : Trace) (p : Packet) :
    (t.take x.1 x.2 p).contributions =
      t.contributions ++
        (x.2.frames.filter isMedia).flatMap fun _ =>
          (t.before p ++ [t.entry p]).map TakenPacket.time := by
  rw [← currentUnit_entry]
  simp [contributions, take, Return.contributions, entry]

section Take

variable (h : TraceInv unmarshal codec t)
  (htakes : Takes unmarshal (t.assembler.unitFor p) p dp dp' raw frameType x)

include h htakes

/-- The unit with the packet: what it has given out and what it still
holds. -/
theorem TraceInv.take_holds (hagrees : dp.Agrees unmarshal p) :
    dp'.Holds unmarshal ((t.before p ++ [t.entry p]).map TakenPacket.packet)
      ((t.assembler.unitFor p).payload ++ mediaOf raw) := by
  have hcodec := h.dp_codec htakes.held
  have hguard := htakes.guard
  rw [unitFor_codec, h.sameCodec, ← hcodec] at hguard
  rw [List.map_append]
  exact (h.before_holds htakes.held).step hguard hagrees htakes.decoded

theorem TraceInv.take_payload_le :
    ((t.assembler.unitFor p).payload ++ mediaOf raw).length ≤ maxAccessUnitBytes := by
  rw [List.length_append]
  apply (fitsOutput_le htakes.fits).2
  rw [unitFor_payload]
  split
  · exact h.bounded
  · exact Nat.zero_le _

theorem TraceInv.take_intact (hfresh : t.assembler.wasDiscarded p = false)
    (hnext : t.assembler.sameUnit p = true → p.sequenceNumber = t.assembler.sequence + 1)
    (hagrees : dp.Agrees unmarshal p) :
    Intact unmarshal codec ⟨x.2.frames, x.2.err, t.before p ++ [t.entry p],
      t.sourcesWith p, (t.assembler.unitFor p).discardedKey⟩ := by
  have hcodec := h.dp_codec htakes.held
  have hfeed := h.sourcesWith_fed htakes.held htakes.decoded
  have htype := htakes.media (unitFor_frameType h.media)
  rw [htakes.returned_eq, unitFor_codec]
  refine ⟨fun herr => absurd rfl herr, ?_, ?_, ?_, ?_⟩
  · intro f hf
    rcases mem_returned hf with ⟨hraw, -⟩ | ⟨-, -, rfl⟩
    · exact (fitsOutput_le htakes.fits).1 f hraw
    · exact h.take_payload_le htakes
  · intro f hf hisMedia
    rcases mem_returned hf with ⟨-, hnot⟩ | ⟨hmarker, -, rfl⟩
    · exact absurd hisMedia hnot
    · refine ⟨⟨⟨p.key, h.before_inOrder hnext⟩, t.before p, t.entry p, rfl,
        hmarker, h.before_unmarked⟩, ?_, h.before_recent⟩
      have hcarry := (h.take_holds htakes hagrees).carry (htakes.finished hmarker)
      have hsame := Depacketizer.depacketizeFrames_codec unmarshal dp p
      rw [htakes.decoded] at hsame
      rw [hsame, hcodec] at hcarry
      exact hcarry
  · intro f hf hnot
    rcases mem_returned hf with ⟨hraw, -⟩ | ⟨-, -, rfl⟩
    · rw [hfeed]
      exact hraw
    · exact absurd (isMedia_newAVFrame htype _) hnot
  · intro _
    exact h.sourcesWith_notDiscarded hfresh

theorem TraceInv.take_contributions :
    (t.take x.1 x.2 p).contributions = t.contributions ∨
      (p.marker = true ∧
        (t.take x.1 x.2 p).contributions =
          t.contributions ++ (t.before p ++ [t.entry p]).map TakenPacket.time) := by
  have htype := htakes.media (unitFor_frameType h.media)
  rw [contributions_take, htakes.returned_eq, filter_returned htype]
  unfold released
  split
  next hdone => exact .inr ⟨hdone.1, by simp⟩
  · exact .inl (by simp)

theorem TraceInv.take_inProgress
    (hnext : t.assembler.sameUnit p = true → p.sequenceNumber = t.assembler.sequence + 1)
    (hagrees : dp.Agrees unmarshal p) (hmarker : p.marker = false) :
    InProgress unmarshal (t.take x.1 x.2 p) := by
  obtain ⟨hdp, hsequence, -⟩ := htakes.newFields
  have hunit : currentUnit (t.take x.1 x.2 p).taken =
      t.before p ++ [t.entry p] := currentUnit_entry t p
  have hcontributions : (t.take x.1 x.2 p).contributions =
      t.contributions := by
    rcases h.take_contributions htakes with hsame | ⟨hmarked, -⟩
    · exact hsame
    · rw [hmarker] at hmarked
      simp at hmarked
  constructor
  case inOrder =>
    have hkey : x.1.key = p.key := htakes.sameFields.2.1.trans (unitFor_key t.assembler p)
    rw [hunit]
    exact hkey ▸ h.before_inOrder hnext
  case last =>
    intro e he
    rw [hunit, List.getLast?_concat] at he
    rw [← Option.mem_some.mp he]
    exact hsequence.symm
  case unmarked =>
    rw [hunit]
    exact forall_mem_concat h.before_unmarked hmarker
  case holds =>
    intro d hd
    obtain rfl : dp' = d := Option.mem_unique hdp hd
    change Depacketizer.Holds unmarshal _ x.1.payload dp'
    rw [hunit, htakes.payload_eq, if_neg (by simp [hmarker])]
    exact h.take_holds htakes hagrees
  case recent =>
    rw [hunit]
    exact h.before_recent
  case times =>
    rw [hunit, hcontributions]
    exact h.before_times
  case past =>
    intro e he
    rw [hunit] at he
    apply h.entry_past
    exact List.mem_append_right _ (List.mem_map_of_mem he)

theorem TraceInv.take (hfresh : t.assembler.wasDiscarded p = false)
    (hsame : t.assembler.sameUnit p = true →
      t.assembler.damaged = false ∧ p.sequenceNumber = t.assembler.sequence + 1)
    (hagrees : dp.Agrees unmarshal p) :
    TraceInv unmarshal codec (t.take x.1 x.2 p) := by
  obtain ⟨hcodec, -, hdamaged, -, hdiscarded⟩ := htakes.sameFields
  have hdp := htakes.newFields.1
  have hintact : (t.assembler.unitFor p).damaged = false := unitFor_damaged fun hs => (hsame hs).1
  have hcollecting := htakes.collecting_iff (unitFor_haveUnit t.assembler p) hintact
  have hcontributions := h.take_contributions htakes
  constructor
  case sameCodec => exact (hcodec.trans (unitFor_codec _ p)).trans h.sameCodec
  case fed =>
    change x.1.dp = (feed unmarshal codec (t.sourcesWith p)).2
    rw [hdp, h.sourcesWith_fed htakes.held htakes.decoded]
  case damaged =>
    intro hbad
    change x.1.damaged = true at hbad
    rw [hdamaged, hintact] at hbad
    simp at hbad
  case media => exact htakes.frameType_ne (unitFor_frameType h.media)
  case bounded =>
    change x.1.payload.length ≤ maxAccessUnitBytes
    rw [htakes.payload_eq]
    split
    · exact Nat.zero_le _
    · exact h.take_payload_le htakes
  case idle =>
    intro hnot
    change ¬ x.1.Collecting at hnot
    rw [hcollecting, Bool.not_eq_false] at hnot
    refine ⟨?_, (htakes.payload_eq).trans (if_pos hnot)⟩
    change x.1.dp.any Depacketizer.pending = false
    rw [hdp]
    exact htakes.finished hnot
  case unit =>
    intro hgoing
    exact h.take_inProgress htakes (fun hs => (hsame hs).2) hagrees (hcollecting.mp hgoing)
  case notDiscarded =>
    intro q hq
    change x.1.discardedKey ≠ some q.key
    rw [hdiscarded]
    exact h.sourcesWith_notDiscarded hfresh q hq
  case intact =>
    refine forall_mem_concat h.intact ?_
    rw [hdiscarded]
    have hnew := h.take_intact htakes hfresh (fun hs => (hsame hs).2) hagrees
    rwa [← currentUnit_entry] at hnew
  case times =>
    rcases hcontributions with hsame | ⟨-, hmore⟩
    · rw [hsame]
      exact h.times
    · rw [hmore]
      exact h.before_times
  case past =>
    intro y hy
    rcases hcontributions with hsame | ⟨-, hmore⟩
    · rw [hsame] at hy
      exact (h.past y hy).trans (Nat.lt_succ_self _)
    · rw [hmore] at hy
      exact h.entry_past y hy

end Take

/-! ## Runs -/

theorem TraceInv.refuse_kept (h : TraceInv unmarshal codec t)
    (hsequence : t.assembler.damaged = true ∨ sequence = t.assembler.sequence) :
    TraceInv unmarshal codec (t.refuse { t.assembler with sequence := sequence } ⟨[], some e⟩) := by
  have hsources : (if t.assembler.damaged then [] else t.sources) =
      t.sources := by
    split
    next hdamaged => exact (h.damaged hdamaged).symm
    · rfl
  simp only [refuse, hsources]
  apply h.kept hsequence
  simp

theorem after_push_of_err {pkt : Option Packet} {a : AccessUnitAssembler}
    (h : t.assembler.push unmarshal pkt = a.fail e) :
    t.after unmarshal (.push pkt) = t.refuse a ⟨[], some e⟩ := by
  simp only [after, h]
  cases pkt <;> rfl

theorem after_push_of_takes
    (htakes : Takes unmarshal (t.assembler.unitFor p) p dp dp' raw frameType
      (t.assembler.push unmarshal (some p))) :
    t.after unmarshal (.push (some p)) =
      t.take (t.assembler.push unmarshal (some p)).1 (t.assembler.push unmarshal (some p)).2 p := by
  simp only [after, htakes.returned_eq, returned]

theorem TraceInv.after {act : Action} (h : TraceInv unmarshal codec t)
    (hagrees : t.Agrees unmarshal act) :
    TraceInv unmarshal codec (t.after unmarshal act) := by
  cases act with
  | discard =>
    have hquiet : ∀ r ∈ ([] : List Return), r.frames = [] := by simp
    have hdiscarded := h.discarded h.sameCodec hquiet
    rwa [List.append_nil] at hdiscarded
  | push pkt =>
    rcases push_cases unmarshal t.assembler pkt with ⟨e, hpush⟩ |
      ⟨e, sequence, hdamaged, hpush⟩ | ⟨b, e, hcodec, hpush⟩ |
      ⟨p, rfl, hfresh, hsame, dp, dp', raw, frameType, htakes⟩
    · rw [after_push_of_err hpush]
      exact h.refuse_kept (.inr rfl)
    · rw [after_push_of_err hpush]
      exact h.refuse_kept (.inl hdamaged)
    · rw [after_push_of_err hpush]
      exact h.discarded (hcodec.trans h.sameCodec) (by simp)
    · rw [after_push_of_takes htakes]
      exact h.take htakes hfresh hsame (hagrees dp htakes.held)

theorem traceInv_run {actions : List Action}
    (hagrees : StepsMeet (Trace.Agrees unmarshal) (step unmarshal) (initial codec) actions)
    (hrun : runFrom (step unmarshal) (initial codec) actions = some t) :
    TraceInv unmarshal codec t := by
  refine runFrom_invariant_of_stepsMeet ?_ (traceInv_initial unmarshal codec) hagrees hrun
  intro before act after hinv hmeets hstep
  rw [← Option.some.inj hstep]
  exact hinv.after hmeets

end Step

end LiveForge.Rtp
