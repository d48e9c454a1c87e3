import LiveForge.Rtp.H264
import LiveForge.Rtp.H265
import LiveForge.Rtp.Vpx

/-!
# The access unit assembler

`AccessUnitAssembler` of `pkg/rtp/access_unit.go` over the five video
depacketizers.  It collects what the depacketizer makes of the packets with one
timestamp, source and payload type, and gives it out with the packet that has
the marker set.  A gap, a duplicate, a malformed packet or a limit discards the
unit; the packets of the unit discarded last are refused from then on.

The capacities of the byte slices are not part of the model: they bound memory
and never change a value.
-/

namespace LiveForge.Rtp

/-! ## Depacketizers -/

inductive Depacketizer where
  | h264 (d : H264Depacketizer)
  | h265 (d : H265Depacketizer)
  | vp8 (d : VP8Depacketizer)
  | vp9 (d : VP9Depacketizer)
  | av1 (d : AV1Depacketizer)

/-- The depacketizers of audio codecs are left out; the assembler refuses those
codecs before it looks at the depacketizer. -/
def newDepacketizer : CodecType → Option Depacketizer
  | .h264 => some (.h264 {})
  | .h265 => some (.h265 {})
  | .vp8 => some (.vp8 {})
  | .vp9 => some (.vp9 {})
  | .av1 => some (.av1 {})
  | _ => none

inductive DepacketizeError where
  | h264 (error : H264Error)
  | h265 (error : H265Error)
  | vp8 (error : VP8Error)
  | vp9TooShort
  | av1TooShort
  deriving DecidableEq

def depacketizeFrames (unmarshal : VP8Unmarshal) (dp : Depacketizer)
    (pkt : Packet) : Except DepacketizeError (List AVFrame) × Depacketizer :=
  match dp with
  | .h264 d =>
    ((d.depacketizeFrames pkt).1.mapError .h264, .h264 (d.depacketizeFrames pkt).2)
  | .h265 d =>
    ((d.depacketizeFrames pkt).1.mapError .h265, .h265 (d.depacketizeFrames pkt).2)
  | .vp8 d =>
    ((d.depacketize unmarshal pkt).1.mapError .vp8, .vp8 (d.depacketize unmarshal pkt).2)
  | .vp9 d =>
    ((d.depacketize pkt).1.elim (.error .vp9TooShort) .ok, .vp9 (d.depacketize pkt).2)
  | .av1 d =>
    ((d.depacketize pkt).1.elim (.error .av1TooShort) .ok, .av1 (d.depacketize pkt).2)

namespace Depacketizer

def codec : Depacketizer → CodecType
  | .h264 _ => .h264
  | .h265 _ => .h265
  | .vp8 _ => .vp8
  | .vp9 _ => .vp9
  | .av1 _ => .av1

/-- Bytes of an unfinished NAL unit or frame are buffered. -/
def pending : Depacketizer → Bool
  | .h264 d => d.fu.buf.isSome
  | .h265 d => d.fu.buf.isSome
  | .vp8 d => d.buf.isSome
  | .vp9 d => d.buf.isSome
  | .av1 d => d.buf.isSome

end Depacketizer

/-- The assembler's own test for a packet that continues what is pending. -/
def isContinuation (codec : CodecType) (payload : Bytes) : Bool :=
  match codec with
  | .h264 =>
    2 ≤ payload.length ∧ payload.getD 0 0 &&& 0x1F = 28 ∧ payload.getD 1 0 &&& 0x80 = 0
  | .h265 =>
    3 ≤ payload.length ∧ (payload.getD 0 0 >>> 1) &&& 0x3F = 49 ∧ payload.getD 2 0 &&& 0x80 = 0
  | .vp8 =>
    1 ≤ payload.length ∧ (payload.getD 0 0 &&& 0x10 = 0 ∨ payload.getD 0 0 &&& 0x0F ≠ 0)
  | .vp9 => 1 ≤ payload.length ∧ payload.getD 0 0 &&& 0x08 = 0
  | .av1 => 1 ≤ payload.length ∧ payload.getD 0 0 &&& 0x80 ≠ 0
  | _ => false

/-! ## The assembler -/

def maxAccessUnitBytes : ℕ := 16 <<< 20 + 4

def maxAccessUnitPackets : ℕ := 16384

inductive PushError where
  | notVideo
  | discarded
  | reordered
  | sequenceGap
  | inputBounds
  | codecBytes
  | abandonedFragment
  | depacketize (error : DepacketizeError)
  | markerBeforeEnd
  | outputBytes

structure PushResult where
  frames : List AVFrame
  err : Option PushError

structure AccessUnitAssembler where
  codec : CodecType
  dp : Option Depacketizer
  payload : Bytes := []
  frameType : FrameType := .none
  timestamp : UInt32 := 0
  ssrc : UInt32 := 0
  payloadType : UInt8 := 0
  sequence : UInt16 := 0
  haveUnit : Bool := false
  isOpen : Bool := false
  damaged : Bool := false
  packets : ℕ := 0
  codecBytes : ℕ := 0
  discardedTimestamp : UInt32 := 0
  discardedSSRC : UInt32 := 0
  discardedPayloadType : UInt8 := 0
  haveDiscarded : Bool := false

def newAccessUnitAssembler (codec : CodecType) (dp : Option Depacketizer) :
    AccessUnitAssembler :=
  { codec, dp }

namespace AccessUnitAssembler

def key (a : AccessUnitAssembler) : UnitKey :=
  ⟨a.timestamp, a.ssrc, a.payloadType⟩

def discardedKey (a : AccessUnitAssembler) : Option UnitKey :=
  if a.haveDiscarded then
    some ⟨a.discardedTimestamp, a.discardedSSRC, a.discardedPayloadType⟩
  else none

def recordDiscarded (a : AccessUnitAssembler) : AccessUnitAssembler :=
  if a.haveUnit then
    { a with
      discardedTimestamp := a.timestamp
      discardedSSRC := a.ssrc
      discardedPayloadType := a.payloadType
      haveDiscarded := true }
  else a

def discard (a : AccessUnitAssembler) : AccessUnitAssembler :=
  { a.recordDiscarded with
    payload := []
    frameType := .none
    packets := 0
    codecBytes := 0
    damaged := true
    dp := newDepacketizer a.codec }

def fail (a : AccessUnitAssembler) (e : PushError) : AccessUnitAssembler × PushResult :=
  (a, ⟨[], some e⟩)

def abandon (a : AccessUnitAssembler) (e : PushError) : AccessUnitAssembler × PushResult :=
  a.discard.fail e

def sameSource (a : AccessUnitAssembler) (pkt : Packet) : Bool :=
  a.haveUnit ∧ pkt.ssrc = a.ssrc ∧ pkt.payloadType = a.payloadType

def sameUnit (a : AccessUnitAssembler) (pkt : Packet) : Bool :=
  a.sameSource pkt ∧ pkt.timestamp = a.timestamp

/-- The timestamp moves forward, by less than half of its range. -/
def forwardTimestamp (a : AccessUnitAssembler) (pkt : Packet) : Bool :=
  a.sameSource pkt ∧ pkt.timestamp - a.timestamp ≠ 0 ∧ pkt.timestamp - a.timestamp < 0x80000000

/-- The sequence number does not move forward. -/
def sequenceRestart (a : AccessUnitAssembler) (pkt : Packet) : Bool :=
  a.sameSource pkt ∧ (pkt.sequenceNumber - a.sequence = 0 ∨
    0x8000 ≤ pkt.sequenceNumber - a.sequence)

/-- The packet belongs to the unit that was discarded last. -/
def wasDiscarded (a : AccessUnitAssembler) (pkt : Packet) : Bool :=
  a.haveDiscarded ∧ pkt.timestamp = a.discardedTimestamp ∧
    pkt.ssrc = a.discardedSSRC ∧ pkt.payloadType = a.discardedPayloadType

/-- The packet of another unit makes the assembler discard the current one: it
is unfinished or damaged, or the source or the numbering has changed. -/
def abandons (a : AccessUnitAssembler) (pkt : Packet) : Bool :=
  a.haveUnit ∧ (a.isOpen ∨ a.damaged ∨ ¬ a.sameSource pkt ∨ a.sequenceRestart pkt)

def beginUnit (a : AccessUnitAssembler) (pkt : Packet) : AccessUnitAssembler :=
  { (if a.abandons pkt then a.discard else a) with
    payload := []
    frameType := .none
    packets := 0
    codecBytes := 0
    timestamp := pkt.timestamp
    ssrc := pkt.ssrc
    payloadType := pkt.payloadType
    haveUnit := true
    damaged := false }

def codecPending (a : AccessUnitAssembler) : Bool :=
  a.dp.any Depacketizer.pending

/-! ## Output -/

def isMedia (frame : AVFrame) : Bool := frame.frameType ≠ .sequenceHeader

/-- Whether the frames fit behind `size` bytes of payload. -/
def fitsOutput (size : ℕ) : List AVFrame → Bool
  | [] => true
  | frame :: frames =>
    if maxAccessUnitBytes < frame.payload.length ∨
        (isMedia frame ∧ maxAccessUnitBytes < frame.payload.length + size)
    then false
    else fitsOutput
      (if isMedia frame then size + frame.payload.length else size) frames

/-- Keep the payload of a media frame; a key frame makes the unit one. -/
def keep (a : AccessUnitAssembler) (frame : AVFrame) : AccessUnitAssembler :=
  { a with
    payload := a.payload ++ frame.payload
    frameType :=
      if frame.frameType = .keyframe ∨ a.frameType = .none then frame.frameType
      else a.frameType }

/-- Sequence headers go out at once, media is kept. -/
def retain (a : AccessUnitAssembler) : List AVFrame → List AVFrame × AccessUnitAssembler
  | [] => ([], a)
  | frame :: frames =>
    if isMedia frame then (a.keep frame).retain frames
    else (frame :: (a.retain frames).1, (a.retain frames).2)

/-- With the marker the unit is complete. -/
def complete (a : AccessUnitAssembler) (output : List AVFrame) :
    AccessUnitAssembler × PushResult :=
  let media :=
    if 0 < a.payload.length then
      [newAVFrame .video a.codec a.frameType 0 0 a.payload]
    else []
  ({ a with
      payload := []
      frameType := .none
      packets := 0
      codecBytes := 0
      isOpen := false }, ⟨output ++ media, none⟩)

def emit (a : AccessUnitAssembler) (pkt : Packet) (frames : List AVFrame) :
    AccessUnitAssembler × PushResult :=
  if pkt.marker ∧ a.codecPending then a.abandon .markerBeforeEnd
  else if fitsOutput a.payload.length frames then
    let (output, a) := a.retain frames
    if pkt.marker then a.complete output else (a, ⟨output, none⟩)
  else a.abandon .outputBytes

/-! ## Push -/

def decode (unmarshal : VP8Unmarshal) (a : AccessUnitAssembler)
    (pkt : Packet) : AccessUnitAssembler × PushResult :=
  match a.dp with
  | none => a.abandon .notVideo
  | some dp =>
    if a.codecPending ∧ ¬ isContinuation a.codec pkt.payload then
      a.abandon .abandonedFragment
    else
      match depacketizeFrames unmarshal dp pkt with
      | (.error e, dp) => { a with dp := some dp }.abandon (.depacketize e)
      | (.ok frames, dp) => { a with dp := some dp }.emit pkt frames

/-- AV1 and VP9 payloads are counted before they are buffered. -/
def countsInput (a : AccessUnitAssembler) : Bool :=
  a.codec = .av1 ∨ a.codec = .vp9

/-- The checks of a packet that continues or begins the current unit. -/
def admitPacket (unmarshal : VP8Unmarshal) (a : AccessUnitAssembler)
    (pkt : Packet) : AccessUnitAssembler × PushResult :=
  let a := { a with sequence := pkt.sequenceNumber }
  let bytes := pkt.payload.length - 1
  if a.damaged then a.fail .discarded
  else if maxAccessUnitPackets ≤ a.packets ∨
      maxAccessUnitBytes < pkt.payload.length then a.abandon .inputBounds
  else
    let a := { a with packets := a.packets + 1, isOpen := true }
    if a.countsInput ∧ maxAccessUnitBytes < bytes + a.codecBytes then
      a.abandon .codecBytes
    else
      let a :=
        if a.countsInput then { a with codecBytes := a.codecBytes + bytes }
        else a
      a.decode unmarshal pkt

def pushPacket (unmarshal : VP8Unmarshal) (a : AccessUnitAssembler)
    (pkt : Packet) : AccessUnitAssembler × PushResult :=
  if a.wasDiscarded pkt then a.fail .discarded
  else if a.sequenceRestart pkt ∧ ¬ a.forwardTimestamp pkt then
    if a.sameUnit pkt then a.abandon .reordered else a.fail .reordered
  else if ¬ a.sameUnit pkt then (a.beginUnit pkt).admitPacket unmarshal pkt
  else if pkt.sequenceNumber ≠ a.sequence + 1 then
    { a with sequence := pkt.sequenceNumber }.abandon .sequenceGap
  else a.admitPacket unmarshal pkt

/-- A missing packet is `none`. -/
def push (unmarshal : VP8Unmarshal) (a : AccessUnitAssembler)
    (pkt : Option Packet) : AccessUnitAssembler × PushResult :=
  match pkt with
  | none => a.abandon .notVideo
  | some pkt =>
    if ¬ a.codec.isVideo ∨ a.dp = none then a.abandon .notVideo
    else a.pushPacket unmarshal pkt

end AccessUnitAssembler

end LiveForge.Rtp
