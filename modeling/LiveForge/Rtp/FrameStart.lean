import LiveForge.Rtp.Invariant

/-!
# Where VP9 and AV1 frames start

A media frame is what the packets of its unit carry.  Every VP9 or AV1 packet
that is taken carries something, so the first byte of the frame comes from the
packet that began the unit.  Nobody asks that packet to start a frame: with
nothing pending, the assembler does not look at the bit and the depacketizer
appends a continuation to an empty buffer.
-/

namespace LiveForge.Rtp

open Support AccessUnitAssembler

/-- The packet that carries the first byte of what the packets carry. -/
def firstCarrier (pkts : List Packet) : Option Packet :=
  pkts.find? fun p => describedMedia p ≠ []

/-- The media frame is what the packets of its unit carry, and its first byte
does not come from a continuation. -/
def StartsWhole (codec : CodecType) (r : Return) : Prop :=
  ∀ f ∈ r.frames, isMedia f → f.payload = (r.unit.map TakenPacket.packet).flatMap describedMedia ∧
    ∀ p ∈ firstCarrier (r.unit.map TakenPacket.packet), isContinuation codec p.payload = false

/-- A packet that begins a unit is not a continuation. -/
def Trace.BeginsWhole (codec : CodecType) (t : Trace) : Action → Prop
  | .push (some p) => t.assembler.continues p = false →
      isContinuation codec p.payload = false
  | _ => True

instance (codec : CodecType) (t : Trace) : (act : Action) → Decidable (t.BeginsWhole codec act)
  | .push (some p) => inferInstanceAs
      (Decidable (t.assembler.continues p = false → isContinuation codec p.payload = false))
  | .push none | .discard => isTrue trivial

/-! ## Taken packets -/

def TakenPacket.StartsWhole (codec : CodecType) (e : TakenPacket) : Prop :=
  describedMedia e.packet ≠ [] ∧ (e.begins = true → isContinuation codec e.packet.payload = false)

theorem mem_of_mem_currentUnit {taken : List TakenPacket} {e : TakenPacket}
    (h : e ∈ currentUnit taken) :
    e ∈ taken := by
  induction taken using List.reverseRecOn with
  | nil => exact h
  | append_singleton taken last ih =>
    rw [currentUnit_snoc] at h
    rcases List.mem_append.mp h with h | h
    · split at h
      · simp at h
      · exact List.mem_append_left _ (ih h)
    · exact List.mem_append_right _ h

variable {unmarshal : VP8Unmarshal} {codec : CodecType} {t : Trace}

theorem describedMedia_ne_nil {dp dp' : Depacketizer} {p : Packet} {raw : List AVFrame}
    (hcodec : dp.codec = .vp9 ∨ dp.codec = .av1)
    (h : depacketizeFrames unmarshal dp p = (.ok raw, dp')) :
    describedMedia p ≠ [] := by
  intro hempty
  have hshort : p.payload.length < 2 := Nat.lt_succ_of_le (List.drop_eq_nil_iff.mp hempty)
  cases dp with
  | h264 d | h265 d | vp8 d => simp [Depacketizer.codec] at hcodec
  | vp9 d => simp [depacketizeFrames, VP9Depacketizer.depacketize, hshort] at h
  | av1 d => simp [depacketizeFrames, AV1Depacketizer.depacketize, hshort] at h

/-- Every packet that was taken, and those behind every return. -/
structure StartInv (unmarshal : VP8Unmarshal) (codec : CodecType) (t : Trace) : Prop where
  trace : TraceInv unmarshal codec t
  taken : ∀ e ∈ t.taken, e.StartsWhole codec
  returned : ∀ r ∈ t.returns, ∀ e ∈ r.unit, e.StartsWhole codec

theorem TraceInv.agrees (h : TraceInv unmarshal codec t) (hcodec : codec ≠ .vp8) (act : Action) :
    t.Agrees unmarshal act := by
  cases act with
  | discard => trivial
  | push pkt =>
    cases pkt with
    | none => trivial
    | some p =>
      intro dp hdp hvp8
      exact absurd ((h.dp_codec hdp).symm.trans hvp8) hcodec

theorem StartInv.after {act : Action} (hcodec : codec = .vp9 ∨ codec = .av1)
    (h : StartInv unmarshal codec t) (hbegins : t.BeginsWhole codec act) :
    StartInv unmarshal codec (t.after unmarshal act) := by
  have hvp8 : codec ≠ .vp8 := by
    rintro rfl
    simp at hcodec
  have htrace := h.trace.after (h.trace.agrees hvp8 act)
  cases act with
  | discard => exact ⟨htrace, h.taken, h.returned⟩
  | push pkt =>
    have hrefused {a : AccessUnitAssembler} {e : PushError}
        (hpush : t.assembler.push unmarshal pkt = a.fail e) :
        StartInv unmarshal codec (t.after unmarshal (.push pkt)) := by
      rw [after_push_of_err hpush] at htrace ⊢
      exact ⟨htrace, h.taken, forall_mem_concat h.returned (by simp)⟩
    rcases push_cases unmarshal t.assembler pkt with ⟨e, hpush⟩ |
      ⟨e, sequence, -, hpush⟩ | ⟨b, e, -, hpush⟩ |
      ⟨p, rfl, -, -, dp, dp', raw, frameType, htakes⟩
    · exact hrefused hpush
    · exact hrefused hpush
    · exact hrefused hpush
    · rw [after_push_of_takes htakes] at htrace ⊢
      rw [← h.trace.dp_codec htakes.held] at hcodec
      have hwhole : (t.entry _).StartsWhole codec :=
        ⟨describedMedia_ne_nil hcodec htakes.decoded,
          fun hnew => hbegins (by simpa [Trace.entry] using hnew)⟩
      have htaken := forall_mem_concat h.taken hwhole
      refine ⟨htrace, htaken, ?_⟩
      exact forall_mem_concat h.returned (fun e he => htaken e (mem_of_mem_currentUnit he))

theorem startInv_run (hcodec : codec = .vp9 ∨ codec = .av1) {actions : List Action}
    (hbegins : StepsMeet (Trace.BeginsWhole codec) (Trace.step unmarshal)
      (Trace.initial codec) actions)
    (hrun : runFrom (Trace.step unmarshal) (Trace.initial codec) actions = some t) :
    StartInv unmarshal codec t := by
  refine runFrom_invariant_of_stepsMeet ?_ ?_ hbegins hrun
  · intro before act after hinv hmeets hstep
    rw [← Option.some.inj hstep]
    exact hinv.after hcodec hmeets
  · exact ⟨traceInv_initial unmarshal codec, by simp [Trace.initial], by simp [Trace.initial]⟩

/-- In every run in which only packets that start a frame begin a unit, no
media frame starts in the middle. -/
theorem frames_start_whole (unmarshal : VP8Unmarshal) {codec : CodecType}
    (hcodec : codec = .vp9 ∨ codec = .av1) {actions : List Action} {t : Trace}
    (hbegins : StepsMeet (Trace.BeginsWhole codec) (Trace.step unmarshal)
      (Trace.initial codec) actions)
    (hrun : runFrom (Trace.step unmarshal) (Trace.initial codec) actions = some t) :
    ∀ r ∈ t.returns, StartsWhole codec r := by
  have hstart := startInv_run hcodec hbegins hrun
  intro r hr f hf hmedia
  obtain ⟨⟨⟨key, hunit⟩, -⟩, hcarry, -⟩ := (hstart.trace.intact r hr).media f hf hmedia
  obtain ⟨first, rest, hfirst, hbegan, -⟩ := hunit.begins
  have hsound := hstart.returned r hr first (by simp [hfirst])
  constructor
  · rcases hcodec with rfl | rfl <;> exact hcarry
  · intro p hp
    rw [hfirst, List.map_cons, firstCarrier, List.find?_cons_of_pos (by simpa using hsound.1)] at hp
    rw [← Option.some.inj hp]
    exact hsound.2 hbegan

def vpxPacket (sequenceNumber : UInt16) (timestamp : UInt32) (marker : Bool)
    (payload : Bytes) : Packet :=
  { marker, payloadType := 98, sequenceNumber, timestamp, ssrc := 7, payload }

def joinedAtStart : List Action :=
  [.push (some (vpxPacket 1 0 false [0x08, 0x82, 0x49])),
    .push (some (vpxPacket 2 0 true [0x04, 0x83]))]

theorem frames_start_whole_joinedAtStart :
    ∃ t, runFrom (Trace.step fun _ => none) (Trace.initial .vp9) joinedAtStart = some t ∧
      t.returns.map (fun r => r.frames.map AVFrame.payload) =
        [[], [[0x82, 0x49, 0x83]]] ∧ ∀ r ∈ t.returns, StartsWhole .vp9 r := by
  have hbegins : StepsMeet (Trace.BeginsWhole .vp9)
      (Trace.step fun _ => none) (Trace.initial .vp9) joinedAtStart := by
    decide +kernel
  exact ⟨_, rfl, by decide +kernel, frames_start_whole _ (.inl rfl) hbegins rfl⟩

/-- The first byte of a media frame comes from a continuation. -/
def StartsInMiddle (codec : CodecType) (r : Return) : Prop :=
  ∃ f ∈ r.frames, isMedia f ∧ f.payload = (r.unit.map TakenPacket.packet).flatMap describedMedia ∧
    ∃ p ∈ firstCarrier (r.unit.map TakenPacket.packet), isContinuation codec p.payload = true

instance (codec : CodecType) (r : Return) : Decidable (StartsInMiddle codec r) := by
  unfold StartsInMiddle
  infer_instance

/-- A receiver that joins with the last packet of a frame gets the end of it as
a frame. -/
theorem frame_starts_in_middle :
    (∃ t, runFrom (Trace.step fun _ => none) (Trace.initial .vp9)
      [.push (some (vpxPacket 2 0 true [0x04, 0x83]))] = some t ∧
      ∃ r ∈ t.returns, StartsInMiddle .vp9 r) ∧
    ∃ t, runFrom (Trace.step fun _ => none) (Trace.initial .av1)
      [.push (some (vpxPacket 2 0 true [0x80, 0x83]))] = some t ∧
      ∃ r ∈ t.returns, StartsInMiddle .av1 r :=
  ⟨⟨_, rfl, by decide +kernel⟩, ⟨_, rfl, by decide +kernel⟩⟩

end LiveForge.Rtp
