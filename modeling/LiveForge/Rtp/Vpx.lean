import LiveForge.Rtp.Packet

/-!
# The VP8, VP9 and AV1 depacketizers

`pkg/rtp/vp8.go`, `pkg/rtp/vp9.go` and `pkg/rtp/av1.go`.  A packet carries a
piece of a frame behind a descriptor.  The descriptor of VP8 is read by a
library; its reader is a parameter here.  The descriptors of VP9 and AV1 are
taken to be one byte.
-/

namespace LiveForge.Rtp

/-! ## VP8 -/

/-- The fields of a VP8 payload descriptor that are used, and the payload
behind it. -/
structure VP8Packet where
  s : UInt8
  pid : UInt8
  payload : Bytes

/-- The reader of payload descriptors; `none` for an error. -/
abbrev VP8Unmarshal := Bytes → Option VP8Packet

/-- The packet starts the first partition of a frame. -/
def VP8Packet.StartsFrame (p : VP8Packet) : Prop := p.s = 1 ∧ p.pid = 0

instance (p : VP8Packet) : Decidable p.StartsFrame :=
  inferInstanceAs (Decidable (_ ∧ _))

inductive VP8Error where
  | descriptor
  | emptyPayload
  | withoutStart
  | discontinuous
  | tooLong
  deriving DecidableEq

def vp8MaxFrameBytes : ℕ := 16 <<< 20

def vp8MaxFrameFragments : ℕ := 16384

structure VP8Depacketizer where
  buf : Option Bytes := none
  sequence : UInt16 := 0
  timestamp : UInt32 := 0
  ssrc : UInt32 := 0
  payloadType : UInt8 := 0
  fragments : ℕ := 0

namespace VP8Depacketizer

def reset (d : VP8Depacketizer) : VP8Depacketizer :=
  { d with buf := none, fragments := 0 }

/-- The depacketizer ready to take the packet: empty for a packet that starts
a frame, in the middle of the frame for any other. -/
def join (d : VP8Depacketizer) (pkt : Packet) (descriptor : VP8Packet) :
    Except VP8Error VP8Depacketizer :=
  if descriptor.StartsFrame then
    .ok { d.reset with
      timestamp := pkt.timestamp
      ssrc := pkt.ssrc
      payloadType := pkt.payloadType }
  else if d.buf = none then .error .withoutStart
  else if pkt.sequenceNumber ≠ d.sequence + 1 ∨ pkt.timestamp ≠ d.timestamp ∨
      pkt.ssrc ≠ d.ssrc ∨ pkt.payloadType ≠ d.payloadType then
    .error .discontinuous
  else .ok d

def frameType (data : Bytes) : FrameType :=
  if data ≠ [] ∧ data.getD 0 0 &&& 0x01 = 0 then .keyframe else .interframe

/-- Add the payload to the frame; the marker completes it. -/
def append (d : VP8Depacketizer) (pkt : Packet) (payload : Bytes) :
    Except VP8Error (List AVFrame × VP8Depacketizer) :=
  let data := d.buf.getD [] ++ payload
  if vp8MaxFrameFragments ≤ d.fragments ∨
      vp8MaxFrameBytes < payload.length + (d.buf.getD []).length then
    .error .tooLong
  else
    let d := { d with
      buf := some data
      sequence := pkt.sequenceNumber
      fragments := d.fragments + 1 }
    if pkt.marker then
      .ok ([newAVFrame .video .vp8 (frameType data) 0 0 data], d.reset)
    else .ok ([], d)

def take (unmarshal : VP8Unmarshal) (d : VP8Depacketizer) (pkt : Packet) :
    Except VP8Error (List AVFrame × VP8Depacketizer) :=
  match unmarshal pkt.payload with
  | none => .error .descriptor
  | some descriptor =>
    if descriptor.payload = [] then .error .emptyPayload
    else do
      let d ← d.join pkt descriptor
      d.append pkt descriptor.payload

/-- Every error also resets the depacketizer. -/
def depacketize (unmarshal : VP8Unmarshal) (d : VP8Depacketizer)
    (pkt : Packet) : Except VP8Error (List AVFrame) × VP8Depacketizer :=
  match d.take unmarshal pkt with
  | .error e => (.error e, d.reset)
  | .ok (frames, d) => (.ok frames, d)

end VP8Depacketizer

/-! ## VP9 -/

structure VP9Depacketizer where
  buf : Option Bytes := none

namespace VP9Depacketizer

/-- The frame is complete when the E bit is set; `none` for a payload that is
too short. -/
def depacketize (d : VP9Depacketizer) (pkt : Packet) : Option (List AVFrame) × VP9Depacketizer :=
  let descriptor := pkt.payload.getD 0 0
  let start := if descriptor &&& 0x08 ≠ 0 then [] else d.buf.getD []
  let data := start ++ pkt.payload.drop 1
  let frameType :=
    if descriptor &&& 0x40 = 0 then FrameType.keyframe else .interframe
  if pkt.payload.length < 2 then (none, d)
  else if descriptor &&& 0x04 ≠ 0 then
    (some [newAVFrame .video .vp9 frameType 0 0 data], { d with buf := none })
  else (some [], { d with buf := some data })

end VP9Depacketizer

/-! ## AV1 -/

/-- Read a LEB128 number.  A number that does not end with the data is cut
there; more than 28 bits are an error. -/
def readOBUSize (size shift : ℕ) : Bytes → Option (ℕ × Bytes)
  | [] => some (size, [])
  | b :: data =>
    let size := size ||| (b &&& 0x7F).toNat <<< shift
    if b &&& 0x80 = 0 then some (size, data)
    else if 28 < shift + 7 then none
    else readOBUSize size (shift + 7) data

theorem readOBUSize_length {size shift value : ℕ} {data rest : Bytes}
    (h : readOBUSize size shift data = some (value, rest)) :
    rest.length ≤ data.length := by
  induction data generalizing size shift with
  | nil =>
    simp only [readOBUSize, Option.some.injEq, Prod.mk.injEq] at h
    simp [← h.2]
  | cons b data ih =>
    simp only [readOBUSize] at h
    split_ifs at h with hlast hlong
    · simp only [Option.some.injEq, Prod.mk.injEq] at h
      simp [← h.2]
    · exact (ih h).trans (by simp)

/-- What follows the header of an OBU and its optional extension byte. -/
def obuBody (header : UInt8) (rest : Bytes) : Bytes :=
  if header &&& 0x04 ≠ 0 then rest.drop 1 else rest

theorem obuBody_length (header : UInt8) (rest : Bytes) :
    (obuBody header rest).length ≤ rest.length := by
  unfold obuBody
  split <;> simp

/-- A temporal unit with a sequence header is a key frame.  An OBU without a
size field extends to the end of the data. -/
def classifyAV1Frame (data : Bytes) : FrameType :=
  match data with
  | [] => .interframe
  | header :: rest =>
    let obuType := (header >>> 3) &&& 0x0F
    let hasExtension := header &&& 0x04 ≠ 0
    let hasSizeField := header &&& 0x02 ≠ 0
    if hasExtension ∧ rest = [] then .interframe
    else if obuType = 1 then .keyframe
    else if hasSizeField then
      match _h : readOBUSize 0 0 (obuBody header rest) with
      | none => .interframe
      | some (obuSize, body) => classifyAV1Frame (body.drop obuSize)
    else .interframe
termination_by data.length
decreasing_by
  have hbody := obuBody_length header rest
  have hrest := readOBUSize_length ‹_›
  simp only [List.length_drop, List.length_cons]
  omega

structure AV1Depacketizer where
  buf : Option Bytes := none

namespace AV1Depacketizer

/-- The frame is complete with the marker; `none` for a payload that is too
short. -/
def depacketize (d : AV1Depacketizer) (pkt : Packet) : Option (List AVFrame) × AV1Depacketizer :=
  let start :=
    if pkt.payload.getD 0 0 &&& 0x80 = 0 then [] else d.buf.getD []
  let data := start ++ pkt.payload.drop 1
  if pkt.payload.length < 2 then (none, d)
  else if pkt.marker then
    (some [newAVFrame .video .av1 (classifyAV1Frame data) 0 0 data], { d with buf := none })
  else (some [], { d with buf := some data })

end AV1Depacketizer

end LiveForge.Rtp
