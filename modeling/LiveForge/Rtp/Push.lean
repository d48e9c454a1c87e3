import LiveForge.Rtp.Collect

/-!
# What a push can do

Every call of `Push` ends in one of four ways: it refuses the packet and leaves
the assembler alone, refuses it for a unit that is damaged already, discards the
current unit, or takes the packet into its unit.  The lemmas say so function by
function, from the output back to the call.
-/

namespace LiveForge.Rtp.AccessUnitAssembler

/-! ## Output -/

def released (codec : CodecType) (frameType : FrameType) (pkt : Packet)
    (payload : Bytes) : List AVFrame :=
  if pkt.marker ∧ payload ≠ [] then
    [newAVFrame .video codec frameType 0 0 payload]
  else []

def returned (codec : CodecType) (frameType : FrameType) (pkt : Packet)
    (raw : List AVFrame) (payload : Bytes) : PushResult :=
  ⟨(raw.filter fun frame => !isMedia frame) ++ released codec frameType pkt payload, none⟩

theorem mediaOf_cons_of_isMedia {frame : AVFrame} (h : isMedia frame) (frames : List AVFrame) :
    mediaOf (frame :: frames) = frame.payload ++ mediaOf frames := by
  simp [mediaOf, h]

theorem mediaOf_cons_of_not_isMedia {frame : AVFrame} (h : ¬ isMedia frame)
    (frames : List AVFrame) :
    mediaOf (frame :: frames) = mediaOf frames := by
  simp [mediaOf, h]

theorem retain_eq (a : AccessUnitAssembler) (frames : List AVFrame) :
    ∃ t, (a.frameType ≠ .sequenceHeader → t ≠ .sequenceHeader) ∧
      a.retain frames = (frames.filter fun frame => !isMedia frame,
        { a with payload := a.payload ++ mediaOf frames, frameType := t }) := by
  induction frames generalizing a with
  | nil => exact ⟨a.frameType, id, by simp [retain, mediaOf]⟩
  | cons frame frames ih =>
    by_cases hmedia : isMedia frame
    · obtain ⟨t, ht, hretain⟩ := ih (a.keep frame)
      refine ⟨t, fun htype => ht ?_, ?_⟩
      · simp only [keep]
        split
        · simpa [isMedia] using hmedia
        · exact htype
      · rw [retain, if_pos hmedia, hretain, mediaOf_cons_of_isMedia hmedia,
          List.filter_cons_of_neg (by simp [hmedia])]
        simp [keep]
    · obtain ⟨t, ht, hretain⟩ := ih a
      refine ⟨t, ht, ?_⟩
      rw [retain, if_neg hmedia, hretain, mediaOf_cons_of_not_isMedia hmedia,
        List.filter_cons_of_pos (by simp [hmedia])]

theorem fitsOutput_le {size : ℕ} {frames : List AVFrame} (h : fitsOutput size frames) :
    (∀ frame ∈ frames, frame.payload.length ≤ maxAccessUnitBytes) ∧ (size ≤ maxAccessUnitBytes →
        size + (mediaOf frames).length ≤ maxAccessUnitBytes) := by
  induction frames generalizing size with
  | nil => simp [mediaOf]
  | cons frame frames ih =>
    rw [fitsOutput] at h
    split at h
    · simp at h
    next hsmall =>
      simp only [not_or, not_and, Nat.not_lt] at hsmall
      obtain ⟨hall, hsum⟩ := ih h
      refine ⟨?_, fun hsize => ?_⟩
      · simpa using ⟨hsmall.1, hall⟩
      · by_cases hmedia : isMedia frame
        · rw [if_pos hmedia] at hsum
          have hfits := hsmall.2 hmedia
          rw [mediaOf_cons_of_isMedia hmedia, List.length_append]
          omega
        · rw [if_neg hmedia] at hsum
          rw [mediaOf_cons_of_not_isMedia hmedia]
          exact hsum hsize

/-! ## The four outcomes -/

/-- The call discards the unit and returns an error. -/
def Abandoned (codec : CodecType) (x : AccessUnitAssembler × PushResult) : Prop :=
  ∃ b e, b.codec = codec ∧ x = abandon b e

/-- The packet `pkt` is taken into the unit that `u` holds: the depacketizer
`dp` makes the frames `raw` of it and becomes `dp'`. -/
structure Takes (unmarshal : VP8Unmarshal) (u : AccessUnitAssembler) (pkt : Packet)
    (dp dp' : Depacketizer) (raw : List AVFrame) (frameType : FrameType)
    (x : AccessUnitAssembler × PushResult) : Prop where
  held : u.dp = some dp
  guard : dp.pending → isContinuation u.codec pkt.payload
  decoded : depacketizeFrames unmarshal dp pkt = (.ok raw, dp')
  finished : pkt.marker → dp'.pending = false
  fits : fitsOutput u.payload.length raw
  media : u.frameType ≠ .sequenceHeader → frameType ≠ .sequenceHeader
  result : ∃ packets codecBytes, x =
    ({ u with
        dp := some dp'
        sequence := pkt.sequenceNumber
        payload := if pkt.marker then [] else u.payload ++ mediaOf raw
        frameType := if pkt.marker then .none else frameType
        packets := packets
        codecBytes := codecBytes
        isOpen := !pkt.marker },
      returned u.codec frameType pkt raw (u.payload ++ mediaOf raw))

theorem emit_cases (b : AccessUnitAssembler) (pkt : Packet)
    (raw : List AVFrame) :
    Abandoned b.codec (b.emit pkt raw) ∨
      ((pkt.marker → b.codecPending = false) ∧ fitsOutput b.payload.length raw ∧
        ∃ t packets codecBytes, (b.frameType ≠ .sequenceHeader → t ≠ .sequenceHeader) ∧
          b.emit pkt raw =
            ({ b with
                payload := if pkt.marker then [] else b.payload ++ mediaOf raw
                frameType := if pkt.marker then .none else t
                packets := packets
                codecBytes := codecBytes
                isOpen := !pkt.marker && b.isOpen },
              returned b.codec t pkt raw (b.payload ++ mediaOf raw))) := by
  unfold emit
  split
  · exact .inl ⟨b, _, rfl, rfl⟩
  next hfinished =>
    split
    next hfits =>
      obtain ⟨t, ht, hretain⟩ := b.retain_eq raw
      refine .inr ⟨by simpa using hfinished, hfits, t, ?_⟩
      simp only [hretain]
      by_cases hmarker : pkt.marker
      · refine ⟨0, 0, ht, ?_⟩
        simp only [hmarker, complete, returned, released, List.length_pos_iff,
          if_true, true_and, Bool.not_true, Bool.false_and]
      · refine ⟨b.packets, b.codecBytes, ht, ?_⟩
        simp [hmarker, returned, released]
    · exact .inl ⟨b, _, rfl, rfl⟩

theorem decode_cases (unmarshal : VP8Unmarshal) (b : AccessUnitAssembler) (pkt : Packet)
    (hsequence : b.sequence = pkt.sequenceNumber) (hopen : b.isOpen = true) :
    Abandoned b.codec (b.decode unmarshal pkt) ∨
      ∃ dp dp' raw t, Takes unmarshal b pkt dp dp' raw t (b.decode unmarshal pkt) := by
  unfold decode
  split
  · exact .inl ⟨b, _, rfl, rfl⟩
  next dp hdp =>
    split
    · exact .inl ⟨b, _, rfl, rfl⟩
    next hguard =>
      have hpending : b.codecPending = dp.pending := by
        rw [codecPending, hdp, Option.any_some]
      split
      next e dp' hdecoded => exact .inl ⟨{ b with dp := some dp' }, _, rfl, rfl⟩
      next raw dp' hdecoded =>
        rcases emit_cases { b with dp := some dp' } pkt raw with
          habandoned | ⟨hfinished, hfits, t, packets, codecBytes, ht, hemit⟩
        · exact .inl habandoned
        · refine .inr ⟨dp, dp', raw, t, hdp, ?_, hdecoded, hfinished, hfits, ht,
            packets, codecBytes, ?_⟩
          · rw [hpending] at hguard
            simpa using hguard
          · rw [hemit, ← hsequence]
            simp [hopen]

/-- The packet counted in: the state in which it is decoded. -/
def counted (b : AccessUnitAssembler) (pkt : Packet) (codecBytes : ℕ) : AccessUnitAssembler :=
  { b with
    sequence := pkt.sequenceNumber
    packets := b.packets + 1
    isOpen := true
    codecBytes := codecBytes }

theorem decode_counted_cases (unmarshal : VP8Unmarshal) (b : AccessUnitAssembler) (pkt : Packet)
    (codecBytes : ℕ) :
    Abandoned b.codec ((b.counted pkt codecBytes).decode unmarshal pkt) ∨
      ∃ dp dp' raw t, Takes unmarshal b pkt dp dp' raw t
        ((b.counted pkt codecBytes).decode unmarshal pkt) := by
  rcases decode_cases unmarshal (b.counted pkt codecBytes) pkt rfl rfl with
    habandoned | ⟨dp, dp', raw, t, htakes⟩
  · exact .inl habandoned
  · exact .inr ⟨dp, dp', raw, t, { htakes with }⟩

theorem admitPacket_cases (unmarshal : VP8Unmarshal) (b : AccessUnitAssembler)
    (pkt : Packet) :
    (b.damaged = true ∧ b.admitPacket unmarshal pkt =
        { b with sequence := pkt.sequenceNumber }.fail .discarded) ∨
      Abandoned b.codec (b.admitPacket unmarshal pkt) ∨
      (b.damaged = false ∧ ∃ dp dp' raw t,
        Takes unmarshal b pkt dp dp' raw t (b.admitPacket unmarshal pkt)) := by
  by_cases hdamaged : b.damaged
  · exact .inl ⟨hdamaged, by simp only [admitPacket, hdamaged, if_true]⟩
  · refine .inr (Or.imp_right (fun htakes => ⟨by simpa using hdamaged, htakes⟩) ?_)
    simp only [admitPacket]
    rw [if_neg hdamaged]
    split
    · exact .inl ⟨{ b with sequence := pkt.sequenceNumber }, _, rfl, rfl⟩
    · split
      · exact .inl ⟨b.counted pkt b.codecBytes, _, rfl, rfl⟩
      · split
        · exact decode_counted_cases unmarshal b pkt _
        · exact decode_counted_cases unmarshal b pkt b.codecBytes

/-- The assembler with the unit of the packet: the current one, or the one the
packet begins. -/
def unitFor (a : AccessUnitAssembler) (pkt : Packet) : AccessUnitAssembler :=
  if a.sameUnit pkt then a else a.beginUnit pkt

theorem beginUnit_codec (a : AccessUnitAssembler) (pkt : Packet) :
    (a.beginUnit pkt).codec = a.codec := by
  simp only [beginUnit]
  split
  · simp only [discard, recordDiscarded]
    split <;> rfl
  · rfl

theorem push_cases (unmarshal : VP8Unmarshal) (a : AccessUnitAssembler)
    (pkt : Option Packet) :
    (∃ e, a.push unmarshal pkt = a.fail e) ∨
      (∃ e sequence, a.damaged = true ∧
        a.push unmarshal pkt = { a with sequence := sequence }.fail e) ∨
      Abandoned a.codec (a.push unmarshal pkt) ∨
      ∃ p, pkt = some p ∧ a.wasDiscarded p = false ∧
        (a.sameUnit p = true → a.damaged = false ∧ p.sequenceNumber = a.sequence + 1) ∧
        ∃ dp dp' raw t, Takes unmarshal (a.unitFor p) p dp dp' raw t
          (a.push unmarshal pkt) := by
  cases pkt with
  | none => exact .inr (.inr (.inl ⟨a, _, rfl, rfl⟩))
  | some p =>
    rw [push]
    split
    · exact .inr (.inr (.inl ⟨a, _, rfl, rfl⟩))
    · rw [pushPacket]
      split
      · exact .inl ⟨_, rfl⟩
      next hnotDiscarded =>
        have hfresh : a.wasDiscarded p = false := by simpa using hnotDiscarded
        split
        · split
          · exact .inr (.inr (.inl ⟨a, _, rfl, rfl⟩))
          · exact .inl ⟨_, rfl⟩
        · split
          next hother =>
            have hunit : a.unitFor p = a.beginUnit p := by
              rw [unitFor, if_neg hother]
            rcases admitPacket_cases unmarshal (a.beginUnit p) p with
              ⟨hdamaged, -⟩ | habandoned | ⟨-, htakes⟩
            · simp [beginUnit] at hdamaged
            · rw [beginUnit_codec] at habandoned
              exact .inr (.inr (.inl habandoned))
            · refine .inr (.inr (.inr ⟨p, rfl, hfresh, ?_, ?_⟩))
              · exact fun hsame => absurd hsame hother
              · rw [hunit]
                exact htakes
          next hsame =>
            rw [not_not] at hsame
            have hunit : a.unitFor p = a := by rw [unitFor, if_pos hsame]
            split
            · exact .inr (.inr (.inl ⟨{ a with sequence := p.sequenceNumber }, _, rfl, rfl⟩))
            next hnext =>
              rcases admitPacket_cases unmarshal a p with
                ⟨hdamaged, hfail⟩ | habandoned | ⟨hintact, htakes⟩
              · exact .inr (.inl ⟨_, _, hdamaged, hfail⟩)
              · exact .inr (.inr (.inl habandoned))
              · refine .inr (.inr (.inr ⟨p, rfl, hfresh, ?_, ?_⟩))
                · exact fun _ => ⟨hintact, by simpa using hnext⟩
                · rw [hunit]
                  exact htakes

end LiveForge.Rtp.AccessUnitAssembler
