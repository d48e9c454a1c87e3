import LiveForge.Rtp.Invariant

/-!
# Integrity of access units

Every call of `Push` in a run is intact, and no packet contributes to two media
frames, as long as the assembler and the VP8 depacketizer agree on which packets
continue a frame.  They differ on a packet with the reserved bit of the payload
descriptor set, which the assembler counts to the partition index.
-/

namespace LiveForge.Rtp

open Support AccessUnitAssembler

/-- In every run in which the depacketizer and the assembler agree on what
continues a frame, every call is intact, and the packets that contribute to
media frames were taken one after the other, none of them twice. -/
theorem access_units_intact (unmarshal : VP8Unmarshal) (codec : CodecType) {actions : List Action}
    {t : Trace}
    (hagrees : StepsMeet (Trace.Agrees unmarshal) (Trace.step unmarshal)
      (Trace.initial codec) actions)
    (hrun : runFrom (Trace.step unmarshal) (Trace.initial codec) actions = some t) :
    (∀ r ∈ t.returns, Intact unmarshal codec r) ∧ t.contributions.Pairwise (· < ·) := by
  have hinv := traceInv_run hagrees hrun
  exact ⟨hinv.intact, hinv.times⟩

/-! ## A packet that starts a frame over -/

/-- The payload descriptor of RFC 7741: a byte with the X bit (0x80), the S
bit (0x10), a reserved bit (0x08) and the partition index in the low three
bits, and the fields that the extension byte announces. -/
def unmarshalVP8 : VP8Unmarshal
  | [] => none
  | first :: rest =>
    let extension := if first &&& 0x80 ≠ 0 then rest.getD 0 0 else 0
    let rest := if first &&& 0x80 ≠ 0 then rest.drop 1 else rest
    let rest :=
      if extension &&& 0x80 = 0 then rest
      else if rest.getD 0 0 &&& 0x80 = 0 then rest.drop 1
      else rest.drop 2
    let rest := if extension &&& 0x40 ≠ 0 then rest.drop 1 else rest
    let rest := if extension &&& 0x30 ≠ 0 then rest.drop 1 else rest
    if rest = [] then none
    else some ⟨(first &&& 0x10) >>> 4, first &&& 0x07, rest⟩

def vp8Packet (sequenceNumber : UInt16) (timestamp : UInt32) (marker : Bool)
    (payload : Bytes) : Packet :=
  { marker, payloadType := 96, sequenceNumber, timestamp, ssrc := 7, payload }

/-- A frame in two packets, a frame that is discarded after its first packet
and whose second packet comes too late, and a frame in one packet. -/
def discardedBetween : List Action :=
  [.push (some (vp8Packet 65535 0 false [0x10, 0x9D, 0x01, 0x2A])),
    .push (some (vp8Packet 0 0 true [0x00, 0x40, 0x41, 0x42])),
    .push (some (vp8Packet 1 3000 false [0x10, 0x31, 0x32, 0x33])),
    .discard,
    .push (some (vp8Packet 2 3000 true [0x00, 0x34, 0x35, 0x36])),
    .push (some (vp8Packet 3 6000 true [0x10, 0x51, 0x52, 0x53]))]

theorem access_units_intact_discardedBetween :
    ∃ t, runFrom (Trace.step unmarshalVP8) (Trace.initial .vp8) discardedBetween = some t ∧
      t.returns.map (fun r => r.frames.map AVFrame.payload) =
        [[], [[0x9D, 0x01, 0x2A, 0x40, 0x41, 0x42]], [], [], [[0x51, 0x52, 0x53]]] ∧
      (∀ r ∈ t.returns, Intact unmarshalVP8 .vp8 r) ∧ t.contributions.Pairwise (· < ·) := by
  have hagrees : StepsMeet (Trace.Agrees unmarshalVP8)
      (Trace.step unmarshalVP8) (Trace.initial .vp8) discardedBetween := by
    decide +kernel
  exact ⟨_, rfl, by decide +kernel, access_units_intact unmarshalVP8 .vp8 hagrees rfl⟩

def firstPart : Packet := vp8Packet 1 3000 false [0x10, 0x31, 0x32, 0x33]

def secondPart : Packet := vp8Packet 2 3000 true [0x18, 0x34, 0x35, 0x36]

/-- The second packet has the reserved bit set: the assembler takes it for a
continuation, and the depacketizer for the start of the frame. -/
def startedOver : List Action :=
  [.push (some firstPart), .push (some secondPart)]

/-- Both packets are taken into one unit, and the frame has lost what the first
one carries. -/
theorem reserved_bit_loses_media :
    ∃ t r f, runFrom (Trace.step unmarshalVP8) (Trace.initial .vp8) startedOver = some t ∧
      (∀ r ∈ t.returns, r.err = none) ∧ r ∈ t.returns ∧ f ∈ r.frames ∧
      isMedia f ∧ r.unit.map TakenPacket.packet = [firstPart, secondPart] ∧
      f.payload = [0x34, 0x35, 0x36] ∧
      ¬ Carry unmarshalVP8 .vp8 (r.unit.map TakenPacket.packet) f.payload := by
  refine ⟨_, _, _, rfl, by decide +kernel,
    List.mem_cons_of_mem _ List.mem_cons_self, List.mem_singleton_self _, rfl,
    rfl, rfl, ?_⟩
  change ¬ ([0x34, 0x35, 0x36] : Bytes) = [firstPart, secondPart].flatMap (vp8Media unmarshalVP8)
  decide

end LiveForge.Rtp
