import LiveForge.Codec.Records
import LiveForge.Mpeg.Timestamp
import LiveForge.Ts.Demuxer

/-!
# The transport stream muxer

`muxer.go`, `pes.go`, `pat_pmt.go` and `types.go` of `pkg/muxer/ts`.  A frame
becomes one PES packet, cut into packets of 188 bytes.  The tables go in front
of the first frame and of every video keyframe.  The parameter sets of the
video are taken from its configuration record once, when the muxer is made, and
go in front of every keyframe.
-/

namespace LiveForge.Ts

open Support AnnexB Mpeg

/-! ## Tables -/

def maxPCRInterval : ℤ := 40

def streamType : CodecType → UInt8
  | .h264 => 0x1B
  | .h265 => 0x24
  | .av1 => 0x06
  | .aac => 0x0F
  | .mp3 => 0x03
  | .opus => 0x06
  | _ => 0

def crc32Bit (crc : UInt32) : UInt32 :=
  if crc &&& 0x80000000 ≠ 0 then crc <<< 1 ^^^ 0x04C11DB7 else crc <<< 1

def crc32Table (i : UInt32) : UInt32 :=
  (List.range 8).foldl (fun crc _ => crc32Bit crc) (i <<< 24)

def crc32MPEG2 (data : Bytes) : UInt32 :=
  data.foldl (fun crc b =>
    crc <<< 8 ^^^ crc32Table (crc >>> 24 ^^^ b.toUInt32)) 0xFFFFFFFF

/-- The first byte of a PID, with the bits in front of it. -/
def pidHigh (bits : UInt8) (pid : ℕ) : UInt8 := bits ||| byteOf pid 8 &&& 0x1F

/-- A packet with one section and its checksum. -/
def tablePacket (pid : ℕ) (continuityCounter : UInt8) (table : Bytes) : Bytes :=
  [syncByte, pidHigh 0x40 pid, byteOf pid 0, 0x10 ||| continuityCounter &&& 0x0F, 0x00] ++
    table ++ be32Bytes (crc32MPEG2 table).toNat ++
    List.replicate (packetSize - (9 + table.length)) 0xFF

def patSection : Bytes :=
  [0x00, 0xB0, 13, 0x00, 0x01, 0xC1, 0x00, 0x00, 0x00, 0x01, pidHigh 0xE0 pidPmt, byteOf pidPmt 0]

def buildPAT (continuityCounter : UInt8) : Bytes :=
  tablePacket pidPat continuityCounter patSection

/-- The entry of a stream; a codec without a type has none. -/
def streamEntry (type : UInt8) (pid : ℕ) : Bytes :=
  if type = 0 then [] else [type, pidHigh 0xE0 pid, byteOf pid 0, 0xF0, 0x00]

/-- The clock is that of the video. -/
def pmtBody (videoType audioType : UInt8) : Bytes :=
  [pidHigh 0xE0 pidVideo, byteOf pidVideo 0, 0xF0, 0x00] ++
    streamEntry videoType pidVideo ++ streamEntry audioType pidAudio

def pmtSection (videoType audioType : UInt8) : Bytes :=
  let body := pmtBody videoType audioType
  let sectionLen := 5 + body.length + 4
  [0x02, 0xB0 ||| byteOf sectionLen 8 &&& 0x0F, byteOf sectionLen 0, 0x00, 0x01,
    0xC1, 0x00, 0x00] ++ body

def buildPMT (videoType audioType continuityCounter : UInt8) : Bytes :=
  tablePacket pidPmt continuityCounter (pmtSection videoType audioType)

/-! ## PES packets -/

/-- The decoding time is written if it differs.  Only audio has a length. -/
def buildPESHeader (streamID : UInt8) (pts dts : ℤ) (payloadLen : ℕ) : Bytes :=
  let hasDTS := dts ≠ pts
  let headerDataLen := if hasDTS then 10 else 5
  let pesLen := 3 + headerDataLen + payloadLen
  let isAudio := 0xC0 ≤ streamID ∧ streamID < 0xE0
  [0x00, 0x00, 0x01, streamID] ++
    be16Bytes (if isAudio ∧ pesLen ≤ 0xFFFF then pesLen else 0) ++
    [if 0xE0 ≤ streamID then 0x84 else 0x80, if hasDTS then 0xC0 else 0x80,
      UInt8.ofNat headerDataLen] ++
    timestampBytes (if hasDTS then 0x31 else 0x21) (ticksOf pts) ++
    (if hasDTS then timestampBytes 0x11 (ticksOf dts) else [])

structure PESPacketizeOptions where
  randomAccess : Bool
  pcr : ℤ

def pcrBytes (ms : ℤ) : Bytes :=
  let pcr90 := ticksOf ms
  [byteOf pcr90 25, byteOf pcr90 17, byteOf pcr90 9, byteOf pcr90 1,
    UInt8.ofNat ((pcr90 &&& 1) <<< 7) ||| 0x7E, 0x00]

/-- Flags, clock reference and stuffing. -/
def adaptationBody (opts : PESPacketizeOptions) (stuffingBytes : ℕ) : Bytes :=
  [(if opts.randomAccess then 0x40 else 0x00) |||
      (if 0 ≤ opts.pcr then 0x10 else 0x00)] ++
    (if 0 ≤ opts.pcr then pcrBytes opts.pcr else []) ++
    List.replicate stuffingBytes 0xFF

/-- The adaptation field of a packet with its length in front; empty for a
packet that has none.  The options ask for one in the first packet. -/
def adaptationField (opts : Option PESPacketizeOptions) (remaining : ℕ) : Bytes :=
  match opts.filter fun o => 0 ≤ o.pcr ∨ o.randomAccess with
  | some o =>
    let stuffing := packetSize - 5 - (adaptationBody o 0).length - remaining
    UInt8.ofNat (adaptationBody o stuffing).length :: adaptationBody o stuffing
  | none =>
    if remaining + 4 < packetSize then
      let stuffing := packetSize - 4 - remaining
      if stuffing = 1 then [0x00]
      else
        [UInt8.ofNat (stuffing - 1), 0x00] ++ List.replicate (stuffing - 2) 0xFF
    else []

/-- One packet with as much of the data as it can hold. -/
def pesPacket (pid : ℕ) (first : Bool) (continuityCounter : UInt8)
    (adaptation payload : Bytes) : Bytes :=
  [syncByte, pidHigh (if first then 0x40 else 0x00) pid, byteOf pid 0,
    (if adaptation = [] then 0x10 else 0x30) ||| continuityCounter &&& 0x0F] ++
    adaptation ++ payload.take (packetSize - 4 - adaptation.length)

/-- The loop, with a bound on the number of packets: one byte of the data each
would do. -/
def packetizeLoop (pid : ℕ) : ℕ → Bool → Option PESPacketizeOptions → UInt8 →
    Bytes → UInt8 × Bytes
  | 0, _, _, continuityCounter, _ => (continuityCounter, [])
  | bound + 1, first, opts, continuityCounter, data =>
    if data = [] then (continuityCounter, [])
    else
      let adaptation := adaptationField opts data.length
      let rest := packetizeLoop pid bound false none
        ((continuityCounter + 1) &&& 0x0F)
        (data.drop (packetSize - 4 - adaptation.length))
      (rest.1, pesPacket pid first continuityCounter adaptation data ++ rest.2)

def packetizePES (pid : ℕ) (pesData : Bytes) (continuityCounter : UInt8)
    (opts : Option PESPacketizeOptions) : UInt8 × Bytes :=
  packetizeLoop pid pesData.length true opts continuityCounter pesData

/-! ## The muxer -/

/-- The parameter sets are behind start codes. -/
structure Muxer where
  videoCodec : CodecType
  audioCodec : CodecType
  videoSeqHeader : Bytes
  aacInfo : Option AAC.AACInfo
  videoContinuity : UInt8 := 0
  audioContinuity : UInt8 := 0
  patContinuity : UInt8 := 1
  pmtContinuity : UInt8 := 1
  lastPCR : ℤ := -1
  tablesSent : Bool := false

def parameterSets (videoCodec : CodecType) (videoSeqHeader : Bytes) : Bytes :=
  match videoCodec with
  | .h264 =>
    match H264.extractSPSPPSFromAVCRecord videoSeqHeader with
    | .ok (sps, pps) => annexB [sps, pps]
    | .error _ => []
  | .h265 =>
    match H265.extractVPSSPSPPSFromHVCRecord videoSeqHeader with
    | .ok sets =>
      annexB (sets.vps.toList ++ sets.sps.toList ++ sets.pps.toList)
    | .error _ => []
  | _ => []

def newMuxer (videoCodec audioCodec : CodecType)
    (videoSeqHeader audioSeqHeader : Bytes) : Muxer where
  videoCodec
  audioCodec
  videoSeqHeader := parameterSets videoCodec videoSeqHeader
  aacInfo :=
    if audioCodec = .aac then
      (AAC.parseAudioSpecificConfig audioSeqHeader).toOption
    else none

namespace Muxer

/-- The payload of a video frame: parameter sets in front of a keyframe. -/
def videoPayload (m : Muxer) (frame : AVFrame) : Bytes :=
  let sets := if frame.frameType.isKeyframe then m.videoSeqHeader else []
  match m.videoCodec with
  | .h264 => sets ++ H264.avccToAnnexB frame.payload
  | .h265 => sets ++ H265.hvccToAnnexB frame.payload
  | _ => frame.payload

def shouldInsertPCR (m : Muxer) (dts : ℤ) : Bool :=
  m.lastPCR < 0 ∨ maxPCRInterval ≤ dts - m.lastPCR

def writeVideoFrame (m : Muxer) (frame : AVFrame) : Muxer × Bytes :=
  let payload := m.videoPayload frame
  let pesData := buildPESHeader 0xE0 frame.pts frame.dts payload.length ++ payload
  let insert := m.shouldInsertPCR frame.dts
  let written := packetizePES pidVideo pesData m.videoContinuity
    (some
      { randomAccess := frame.frameType.isKeyframe
        pcr := if insert then frame.dts else -1 })
  ({ m with
      videoContinuity := written.1
      lastPCR := if insert then frame.dts else m.lastPCR },
    written.2)

def audioPayload (m : Muxer) (frame : AVFrame) : Bytes :=
  match m.audioCodec, m.aacInfo with
  | .aac, some info =>
    AAC.buildADTSHeader info frame.payload.length ++ frame.payload
  | _, _ => frame.payload

def writeAudioFrame (m : Muxer) (frame : AVFrame) : Muxer × Bytes :=
  let payload := m.audioPayload frame
  let pesData := buildPESHeader 0xC0 frame.pts frame.pts payload.length ++ payload
  let written := packetizePES pidAudio pesData m.audioContinuity none
  ({ m with audioContinuity := written.1 }, written.2)

def rebuildPATandPMT (m : Muxer) : Muxer × Bytes :=
  ({ m with
      patContinuity := (m.patContinuity + 1) &&& 0x0F
      pmtContinuity := (m.pmtContinuity + 1) &&& 0x0F },
    buildPAT m.patContinuity ++ buildPMT (streamType m.videoCodec) (streamType m.audioCodec)
        m.pmtContinuity)

def writePATAndPMT (m : Muxer) : Muxer × Bytes :=
  ({ m with tablesSent := true } : Muxer).rebuildPATandPMT

/-- The packets of a frame, without the tables. -/
def writeMedia (m : Muxer) (frame : AVFrame) : Muxer × Bytes :=
  match frame.mediaType with
  | .video => m.writeVideoFrame frame
  | .audio => m.writeAudioFrame frame
  | .other => (m, [])

def writeFrame (m : Muxer) (frame : AVFrame) : Muxer × Bytes :=
  if frame.frameType = .sequenceHeader then (m, [])
  else
    let media := m.writeMedia frame
    if media.2 = [] then media
    else if media.1.tablesSent = false ∨
        frame.mediaType = .video ∧ frame.frameType = .keyframe then
      let tables := media.1.rebuildPATandPMT
      ({ tables.1 with tablesSent := true }, tables.2 ++ media.2)
    else media

end Muxer

end LiveForge.Ts
