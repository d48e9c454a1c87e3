import LiveForge.Rtp.Packet
import LiveForge.Support.Prefixed

/-!
# The H.264 depacketizer

`H264Depacketizer` of `pkg/rtp/h264.go` and `pkg/rtp/h264_depacketize.go`.  A
packet carries one NAL unit, an aggregate of them (STAP-A) or a fragment of one
(FU-A).  The NAL units that a packet completes come out as AVCC data, each
behind its length in four bytes; parameter sets are remembered, and a change of
them gives a sequence header before the media.
-/

namespace LiveForge.Rtp

open Support

def h264MaxPayloadBytes : ℕ := maxNALBytes + 4

def h264MaxParameterBytes : ℕ := 1 <<< 16 - 1

inductive H264Error where
  | emptyPayload
  | forbiddenBit
  | truncatedFU
  | invalidFU
  | markedFU
  | fragment (error : FragmentError)
  | invalidNALHeader
  | nalTooLong
  | parameterSetTooLong
  | aggregationTooShort
  | truncatedAggregation
  | invalidAggregationLength (size : ℕ)
  | aggregateTooLong
  | unsupportedNALType (type : UInt8)
  deriving DecidableEq

structure H264Depacketizer where
  fu : FragmentBuffer := {}
  sps : Bytes := []
  pps : Bytes := []
  configSent : Bool := false

def h264NALType (nal : Bytes) : UInt8 := nal.getD 0 0 &&& 0x1F

/-! ## The NAL units of a packet -/

def validateH264NAL (nal : Bytes) : Except H264Error Unit :=
  if nal = [] ∨ nal.getD 0 0 &&& 0x80 ≠ 0 ∨ h264NALType nal = 0 ∨
      24 ≤ h264NALType nal then .error .invalidNALHeader
  else if maxNALBytes < nal.length then .error .nalTooLong
  else if (h264NALType nal = 7 ∨ h264NALType nal = 8) ∧
      h264MaxParameterBytes < nal.length then .error .parameterSetTooLong
  else .ok ()

/-- Check one aggregated NAL unit; `size` is the size of the output so far. -/
def acceptAggregated (size : ℕ) (nal : Bytes) : Except H264Error ℕ := do
  validateH264NAL nal
  if h264MaxPayloadBytes < nal.length + 4 + size then .error .aggregateTooLong
  else return size + (4 + nal.length)

/-- The source measures in a first loop and copies in a second one. -/
def parseH264STAPA (payload : Bytes) : Except H264Error (List Bytes) :=
  if payload.length < 4 then .error .aggregationTooShort
  else splitPrefixed16 .truncatedAggregation .invalidAggregationLength 1
    acceptAggregated 0 (payload.drop 1)

def h264Fragment (payload : Bytes) : Fragment :=
  let fuHeader := payload.getD 1 0
  { isStart := fuHeader &&& 0x80 ≠ 0
    isEnd := fuHeader &&& 0x40 ≠ 0
    header := [payload.getD 0 0 &&& 0x60 ||| fuHeader &&& 0x1F]
    data := payload.drop 2 }

def checkH264Fragment (pkt : Packet) : Except H264Error Fragment :=
  let origNALType := pkt.payload.getD 1 0 &&& 0x1F
  let f := h264Fragment pkt.payload
  if pkt.payload.length < 2 then .error .truncatedFU
  else if (f.isStart ∧ f.isEnd) ∨ origNALType = 0 ∨ 24 ≤ origNALType then
    .error .invalidFU
  else if pkt.marker ∧ ¬ f.isEnd then .error .markedFU
  else .ok f

/-- The NAL units that a packet completes, and the buffer after it. -/
def h264NALs (fu : FragmentBuffer) (pkt : Packet) :
    Except H264Error (List Bytes × FragmentBuffer) :=
  let nalType := h264NALType pkt.payload
  if pkt.payload = [] then .error .emptyPayload
  else if pkt.payload.getD 0 0 &&& 0x80 ≠ 0 then .error .forbiddenBit
  else if 0 < nalType ∧ nalType < 24 then do
    validateH264NAL pkt.payload
    return ([pkt.payload], fu.resetFU)
  else if nalType = 24 then do
    let nals ← parseH264STAPA pkt.payload
    return (nals, fu.resetFU)
  else if nalType = 28 then do
    let f ← checkH264Fragment pkt
    let (nal, fu) ← (fu.take pkt f).mapError H264Error.fragment
    nal.toList.forM validateH264NAL
    return (nal.toList, fu)
  else .error (.unsupportedNALType nalType)

namespace H264Depacketizer

def resetFU (d : H264Depacketizer) : H264Depacketizer :=
  { d with fu := d.fu.resetFU }

/-- Every error also drops the fragments. -/
def depacketizePayload (d : H264Depacketizer) (pkt : Packet) :
    Except H264Error Bytes × H264Depacketizer :=
  match h264NALs d.fu pkt with
  | .ok (nals, fu) => (.ok (prefixed32 nals), { d with fu := fu })
  | .error e => (.error e, d.resetFU)

/-! ## Frames -/

/-- What the loop over the NAL units of a packet collects. -/
structure Scan where
  depacketizer : H264Depacketizer
  frameType : FrameType := .interframe
  hasVCL : Bool := false
  hasParameterSets : Bool := false

def Scan.nal (s : Scan) (nal : Bytes) : Scan :=
  let d := s.depacketizer
  if h264NALType nal = 1 then { s with hasVCL := true }
  else if h264NALType nal = 5 then
    { s with hasVCL := true, frameType := .keyframe }
  else if h264NALType nal = 7 then
    { s with
      hasParameterSets := true
      depacketizer :=
        if d.sps = nal then d else { d with sps := nal, configSent := false } }
  else if h264NALType nal = 8 then
    { s with
      hasParameterSets := true
      depacketizer :=
        if d.pps = nal then d else { d with pps := nal, configSent := false } }
  else s

def scan (d : H264Depacketizer) (data : Bytes) : Scan :=
  (splitPrefixed32 data).foldl Scan.nal { depacketizer := d }

end H264Depacketizer

/-- The decoder configuration record; empty when the SPS is too short. -/
def buildAVCDecoderConfigFromNALs (sps pps : Bytes) : Bytes :=
  if sps.length < 4 then []
  else
    [1, sps.getD 1 0, sps.getD 2 0, sps.getD 3 0, 0xFF, 0xE1] ++
      be16Bytes sps.length ++ sps ++ [1] ++ be16Bytes pps.length ++ pps

namespace H264Depacketizer

/-- The sequence header, once both parameter sets are known and each time one
of them has changed. -/
def configFrames (d : H264Depacketizer) : List AVFrame × H264Depacketizer :=
  if ¬ d.configSent ∧ 0 < d.sps.length ∧ 0 < d.pps.length then
    ([newAVFrame .video .h264 .sequenceHeader 0 0
      (buildAVCDecoderConfigFromNALs d.sps d.pps)], { d with configSent := true })
  else ([], d)

def mediaFrames (s : Scan) (data : Bytes) : List AVFrame :=
  if s.hasVCL then
    [newAVFrame .video .h264
      (if s.hasParameterSets then .keyframe else s.frameType) 0 0 data]
  else []

def depacketizeFrames (d : H264Depacketizer) (pkt : Packet) :
    Except H264Error (List AVFrame) × H264Depacketizer :=
  match d.depacketizePayload pkt with
  | (.error e, d) => (.error e, d)
  | (.ok data, d) =>
    if data = [] then (.ok [], d)
    else
      let s := d.scan data
      let (config, d) := s.depacketizer.configFrames
      (.ok (config ++ mediaFrames s data), d)

end H264Depacketizer

end LiveForge.Rtp
