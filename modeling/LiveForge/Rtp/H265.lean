import LiveForge.Codec.H265
import LiveForge.Rtp.Packet
import LiveForge.Support.Prefixed

/-!
# The H.265 depacketizer

`H265Depacketizer` of `pkg/rtp/h265.go`.  The three kinds of packets are those
of H.264 with a NAL header of two bytes.  A single NAL unit is not checked, and
every packet with a parameter set gives a sequence header when the parameter
sets known so far make a configuration record.
-/

namespace LiveForge.Rtp

open Support

def h265NALTypeAP : UInt8 := 48

def h265NALTypeFU : UInt8 := 49

inductive H265Error where
  | payloadTooShort
  | fuTooShort
  | invalidFU
  | markedFU
  | fragment (error : FragmentError)
  | aggregationTooShort
  | truncatedAggregation
  | invalidAggregationLength (size : ℕ)
  | emptyAggregation
  | unsupportedNALType (type : UInt8)
  deriving DecidableEq

structure H265Depacketizer where
  fu : FragmentBuffer := {}
  vps : Bytes := []
  sps : Bytes := []
  pps : Bytes := []

/-! ## The NAL units of a packet -/

def parseH265AggregationPacket (payload : Bytes) : Except H265Error (List Bytes) := do
  if payload.length < 4 then .error .aggregationTooShort
  else
    let nalus ← splitPrefixed16 .truncatedAggregation .invalidAggregationLength
      2 (fun _ _ => .ok ()) () (payload.drop 2)
    if nalus = [] then .error .emptyAggregation else return nalus

def h265Fragment (payload : Bytes) : Fragment :=
  let fuHeader := payload.getD 2 0
  let nalHdr0 : UInt8 :=
    (payload.getD 0 0 &&& 0x81) ||| ((fuHeader &&& 0x3F) <<< (1 : UInt8))
  { isStart := fuHeader &&& 0x80 ≠ 0
    isEnd := fuHeader &&& 0x40 ≠ 0
    header := [nalHdr0, payload.getD 1 0]
    data := payload.drop 3 }

def checkH265Fragment (pkt : Packet) : Except H265Error Fragment :=
  let f := h265Fragment pkt.payload
  if pkt.payload.length < 4 then .error .fuTooShort
  else if (f.isStart ∧ f.isEnd) ∨ 47 < pkt.payload.getD 2 0 &&& 0x3F ∨
      pkt.payload.getD 0 0 &&& 0x80 ≠ 0 ∨ pkt.payload.getD 1 0 &&& 7 = 0 then
    .error .invalidFU
  else if pkt.marker ∧ ¬ f.isEnd then .error .markedFU
  else .ok f

/-- The NAL units that a packet completes, and the buffer after it. -/
def h265NALs (fu : FragmentBuffer) (pkt : Packet) :
    Except H265Error (List Bytes × FragmentBuffer) :=
  let nalType := H265.nalType pkt.payload
  if pkt.payload.length < 2 then .error .payloadTooShort
  else if nalType ≤ 47 then .ok ([pkt.payload], fu.resetFU)
  else if nalType = h265NALTypeAP then do
    let nalus ← parseH265AggregationPacket pkt.payload
    return (nalus, fu.resetFU)
  else if nalType = h265NALTypeFU then do
    let f ← checkH265Fragment pkt
    let (nal, fu) ← (fu.take pkt f).mapError H265Error.fragment
    return (nal.toList, fu)
  else .error (.unsupportedNALType nalType)

namespace H265Depacketizer

def resetFU (d : H265Depacketizer) : H265Depacketizer :=
  { d with fu := d.fu.resetFU }

/-! ## Frames -/

structure Scan where
  depacketizer : H265Depacketizer
  frameType : FrameType := .interframe
  hasVCL : Bool := false
  hasParameterSets : Bool := false

def Scan.nal (s : Scan) (nal : Bytes) : Scan :=
  let d := s.depacketizer
  let nalType := H265.nalType nal
  if nal.length < 2 then s
  else if nalType = H265.nalTypeVPS then
    { s with depacketizer := { d with vps := nal }, hasParameterSets := true }
  else if nalType = H265.nalTypeSPS then
    { s with depacketizer := { d with sps := nal }, hasParameterSets := true }
  else if nalType = H265.nalTypePPS then
    { s with depacketizer := { d with pps := nal }, hasParameterSets := true }
  else if nalType ≤ 31 then
    { s with
      hasVCL := true
      frameType :=
        if 16 ≤ nalType ∧ nalType ≤ 23 then .keyframe else s.frameType }
  else s

def scan (d : H265Depacketizer) (nalus : List Bytes) : Scan :=
  nalus.foldl Scan.nal { depacketizer := d }

end H265Depacketizer

def h265ParameterSetsAnnexB (vps sps pps : Bytes) : Bytes :=
  [vps, sps, pps].flatMap fun nal =>
    if nal = [] then [] else [0, 0, 0, 1] ++ nal

def h265NALUsToHVCC (nalus : List Bytes) : Bytes :=
  nalus.flatMap fun nal =>
    if nal = [] then [] else be32Bytes nal.length ++ nal

namespace H265Depacketizer

def configFrames (s : Scan) : List AVFrame :=
  let d := s.depacketizer
  if s.hasParameterSets then
    match H265.buildHVCCDecoderConfig
      (h265ParameterSetsAnnexB d.vps d.sps d.pps) with
    | none => []
    | some config =>
      [newAVFrame .video .h265 .sequenceHeader 0 0 config]
  else []

def mediaFrames (s : Scan) (nalus : List Bytes) : List AVFrame :=
  if s.hasVCL ∧ h265NALUsToHVCC nalus ≠ [] then
    [newAVFrame .video .h265 s.frameType 0 0 (h265NALUsToHVCC nalus)]
  else []

def normalizeNALUs (d : H265Depacketizer) (nalus : List Bytes) :
    List AVFrame × H265Depacketizer :=
  let s := d.scan nalus
  (configFrames s ++ mediaFrames s nalus, s.depacketizer)

/-- Every error also drops the fragments.  A fragment that is not the last one
gives no NAL units and no frames. -/
def depacketizeFrames (d : H265Depacketizer) (pkt : Packet) :
    Except H265Error (List AVFrame) × H265Depacketizer :=
  match h265NALs d.fu pkt with
  | .error e => (.error e, d.resetFU)
  | .ok (nalus, fu) =>
    let d := { d with fu := fu }
    if nalus = [] then (.ok [], d)
    else
      let (frames, d) := d.normalizeNALUs nalus
      (.ok frames, d)

end H265Depacketizer

end LiveForge.Rtp
