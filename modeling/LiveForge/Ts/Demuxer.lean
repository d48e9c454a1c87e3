import LiveForge.Codec.AAC
import LiveForge.Codec.Hvcc
import LiveForge.Rtp.AnnexB

/-!
# The transport stream demuxer

`Demuxer` of `pkg/muxer/ts/demuxer.go`.  Data of any length is cut into packets
of 188 bytes.  A packet belongs to the table of programs, to the table of
streams, or to the video or the audio stream, whose PES packets are put
together and taken apart when the next one begins.

Every index and every slice is checked, so a demuxer that panics is an error
here.  The frames the callback was called with are collected in `frames`.
-/

namespace LiveForge.Ts

open Support

def packetSize : ℕ := 188

def syncByte : UInt8 := 0x47

def pidPat : ℕ := 0x0000

def pidPmt : ℕ := 0x1000

def pidVideo : ℕ := 0x0100

def pidAudio : ℕ := 0x0101

/-- What the packets seen so far have left: all of the demuxer but the bytes
that are not a packet yet. -/
structure Parser where
  pmtPID : ℕ := 0
  videoPID : ℕ := 0
  audioPID : ℕ := 0
  videoCodec : CodecType := .none
  audioCodec : CodecType := .none
  videoBuf : Bytes := []
  audioBuf : Bytes := []
  videoSeqSent : Bool := false
  audioSeqSent : Bool := false
  frames : List AVFrame := []
  deriving DecidableEq

structure Demuxer extends Parser where
  remainder : Bytes := []

def newDemuxer : Demuxer := {}

/-- The two PES accumulators. -/
inductive Track where
  | video
  | audio

def codecFromStreamType (st : UInt8) : CodecType :=
  if st = 0x1B then .h264
  else if st = 0x24 then .h265
  else if st = 0x0F then .aac
  else if st = 0x03 ∨ st = 0x04 then .mp3
  else .none

def readTimestamp (buf : Bytes) : Checked ℤ :=
  if buf.length < 5 then return 0
  else do
    let b0 ← index buf 0
    let b1 ← index buf 1
    let b2 ← index buf 2
    let b3 ← index buf 3
    let b4 ← index buf 4
    let ts90 := (b0 &&& 0x0E).toNat <<< 29 ||| b1.toNat <<< 22 |||
      (b2 &&& 0xFE).toNat <<< 14 ||| b3.toNat <<< 7 ||| (b4 &&& 0xFE).toNat >>> 1
    return (ts90 / 90 : ℕ)

/-- A thirteen-bit number in two bytes: a PID. -/
def pidOf (high low : UInt8) : ℕ := be16 (high &&& 0x1F) low

/-- A twelve-bit number in two bytes: a length in a section. -/
def sectionLength (high low : UInt8) : ℕ := be16 (high &&& 0x0F) low

namespace Parser

def callback (p : Parser) (frame : AVFrame) : Parser :=
  { p with frames := p.frames ++ [frame] }

def buf (p : Parser) : Track → Bytes
  | .video => p.videoBuf
  | .audio => p.audioBuf

def setBuf (p : Parser) (track : Track) (buf : Bytes) : Parser :=
  match track with
  | .video => { p with videoBuf := buf }
  | .audio => { p with audioBuf := buf }

/-! ## Video -/

section Video

variable (codec : CodecType) (isSPS isIDR : Bytes → Bool)
  (buildConfig : Bytes → Checked (Option Bytes)) (convert : Bytes → Checked Bytes)

/-- The sequence header goes out once, with the first parameter sets that give
a configuration. -/
def emitVideoSequenceHeader (p : Parser) (hasSPS : Bool) (payload : Bytes)
    (dts pts : ℤ) : Checked Parser :=
  if hasSPS ∧ ¬ p.videoSeqSent then do
    match ← buildConfig payload with
    | none => return p
    | some config =>
      return { p with videoSeqSent := true }.callback
        (newAVFrame .video codec .sequenceHeader dts pts config)
  else return p

/-- What `processH264` and `processH265` have in common. -/
def processNALUs (p : Parser) (payload : Bytes) (dts pts : ℤ) : Checked Parser := do
  let nalus ← H264.extractNALUs payload
  if nalus = [] then return p
  else do
    let p ← p.emitVideoSequenceHeader codec buildConfig (nalus.any isSPS)
      payload dts pts
    let converted ← convert payload
    if converted = [] then return p
    else
      let frameType : FrameType :=
        if nalus.any isIDR then .keyframe else .interframe
      return p.callback (newAVFrame .video codec frameType dts pts converted)

end Video

def isH264Type (type : UInt8) (nal : Bytes) : Bool :=
  nal ≠ [] ∧ Rtp.h264NALType nal = type

def isH265Type (type : UInt8) (nal : Bytes) : Bool :=
  2 ≤ nal.length ∧ H265.nalType nal = type

def isH264IDR (nal : Bytes) : Bool := isH264Type H264.nalTypeIDR nal

def isH265IDR (nal : Bytes) : Bool :=
  isH265Type H265.nalTypeIDRWLP nal || isH265Type H265.nalTypeIDRNLP nal

def processH264 : Parser → Bytes → ℤ → ℤ → Checked Parser :=
  processNALUs .h264 (isH264Type H264.nalTypeSPS) isH264IDR
    Rtp.buildAVCDecoderConfig Rtp.annexBToAVCC

def processH265 : Parser → Bytes → ℤ → ℤ → Checked Parser :=
  processNALUs .h265 (isH265Type H265.nalTypeSPS) isH265IDR
    H265.buildHVCCDecoderConfigChecked H265.annexBToHVCC

def processVideo (p : Parser) (payload : Bytes) (dts pts : ℤ) : Checked Parser :=
  match p.videoCodec with
  | .h264 => p.processH264 payload dts pts
  | .h265 => p.processH265 payload dts pts
  | codec =>
    return p.callback (newAVFrame .video codec .interframe dts pts payload)

/-! ## Audio -/

/-- Bytes 3 to 5 of an ADTS header hold the length of the frame. -/
def adtsFrameLength (b3 b4 b5 : UInt8) : ℕ :=
  (b3 &&& 0x03).toNat <<< 11 ||| b4.toNat <<< 3 ||| (b5 >>> 5).toNat

/-- One raw frame, behind the sequence header if it is the first. -/
def emitAAC (p : Parser) (info : AAC.AACInfo) (rawAAC : Bytes) (dts pts : ℤ) : Parser :=
  let p :=
    if p.audioSeqSent then p
    else { p with audioSeqSent := true }.callback
      (newAVFrame .audio .aac .sequenceHeader dts pts (AAC.buildAudioSpecificConfig info))
  p.callback (newAVFrame .audio .aac .interframe dts pts rawAAC)

def processAACLoop (payload : Bytes) (dts pts : ℤ) (p : Parser) (offset : ℕ) : Checked Parser :=
  if offset < payload.length then do
    let remaining ← sliceFrom payload offset
    match _h : AAC.parseADTSHeader remaining with
    | .error e => .error e
    | .ok (.error _) => return p
    | .ok (.ok (info, headerLen)) => do
        let b3 ← index remaining 3
        let b4 ← index remaining 4
        let b5 ← index remaining 5
        let frameLen := adtsFrameLength b3 b4 b5
        if frameLen < headerLen ∨ payload.length < offset + frameLen then
          return p
        else do
          let rawAAC ← slice remaining headerLen frameLen
          processAACLoop payload dts pts (p.emitAAC info rawAAC dts pts) (offset + frameLen)
  else return p
termination_by payload.length - offset
decreasing_by
  have := AAC.le_headerLen_of_parseADTSHeader _h
  omega

def processAAC (p : Parser) (payload : Bytes) (dts pts : ℤ) : Checked Parser :=
  processAACLoop payload dts pts p 0

def processAudio (p : Parser) (payload : Bytes) (dts pts : ℤ) : Checked Parser :=
  match p.audioCodec with
  | .aac => p.processAAC payload dts pts
  | codec =>
    return p.callback (newAVFrame .audio codec .interframe dts pts payload)

/-! ## PES packets -/

/-- PTS and DTS, as far as the header holds them. -/
def readPESTimestamps (pesData : Bytes) (ptsDTSFlags : UInt8)
    (headerDataLen : ℕ) : Checked (ℤ × ℤ) := do
  let (pts, dts, headerOff) ←
    if 2 ≤ ptsDTSFlags ∧ 9 + 5 ≤ 9 + headerDataLen then do
      let pts ← readTimestamp (← sliceFrom pesData 9)
      pure (pts, pts, 14)
    else pure ((0 : ℤ), (0 : ℤ), 9)
  if ptsDTSFlags = 3 ∧ headerOff + 5 ≤ 9 + headerDataLen then do
    let dts ← readTimestamp (← sliceFrom pesData headerOff)
    return (pts, dts)
  else return (pts, dts)

/-- Take a whole PES packet apart; the accumulator is empty by now. -/
def parsePES (p : Parser) (pesData : Bytes) : Checked Parser :=
  if pesData.length < 9 then return p
  else do
    if ← matchesAt pesData 0 [0x00, 0x00, 0x01] then
      let streamID ← index pesData 3
      let b7 ← index pesData 7
      let b8 ← index pesData 8
      let ptsDTSFlags := (b7 >>> 6) &&& 0x03
      let headerDataLen := b8.toNat
      if pesData.length < 9 + headerDataLen then return p
      else do
        let (pts, dts) ← readPESTimestamps pesData ptsDTSFlags headerDataLen
        let raw ← sliceFrom pesData (9 + headerDataLen)
        if raw = [] then return p
        else if 0xE0 ≤ streamID ∧ streamID ≤ 0xEF then p.processVideo raw dts pts
        else if 0xC0 ≤ streamID ∧ streamID ≤ 0xDF then p.processAudio raw dts pts
        else return p
    else return p

def flushPES (p : Parser) (track : Track) : Checked Parser :=
  (p.setBuf track []).parsePES (p.buf track)

def handlePES (p : Parser) (track : Track) (pusi : Bool) (payload : Bytes) : Checked Parser :=
  if pusi then do
    let p ← if p.buf track ≠ [] then p.flushPES track else pure p
    return p.setBuf track payload
  else return p.setBuf track (p.buf track ++ payload)

/-! ## Tables -/

/-- A section starts behind its pointer field. -/
def skipPointerField (payload : Bytes) (pusi : Bool) : Checked Bytes :=
  if pusi ∧ 0 < payload.length then do
    let pointerField ← index payload 0
    sliceFrom payload (1 + pointerField.toNat)
  else return payload

/-- The loop over the program entries, up to the first program. -/
def parsePATLoop (payload : Bytes) (entryEnd : ℕ) (p : Parser) (i : ℕ) : Checked Parser :=
  if i + 3 < entryEnd ∧ i + 3 < payload.length then do
    let b0 ← index payload i
    let b1 ← index payload (i + 1)
    if be16 b0 b1 ≠ 0 then do
      let b2 ← index payload (i + 2)
      let b3 ← index payload (i + 3)
      return { p with pmtPID := pidOf b2 b3 }
    else parsePATLoop payload entryEnd p (i + 4)
  else return p
termination_by payload.length - i

def parsePAT (p : Parser) (payload : Bytes) (pusi : Bool) : Checked Parser := do
  let payload ← skipPointerField payload pusi
  if payload.length < 12 then return p
  else do
    let b1 ← index payload 1
    let b2 ← index payload 2
    let sectionLen := sectionLength b1 b2
    if sectionLen < 9 ∨ payload.length < 3 + sectionLen then return p
    else parsePATLoop payload (3 + sectionLen - 4) p 8

/-- The first video and the first audio stream count. -/
def addStream (p : Parser) (codec : CodecType) (elemPID : ℕ) : Parser :=
  if codec = .none then p
  else if codec.isVideo ∧ p.videoPID = 0 then
    { p with videoPID := elemPID, videoCodec := codec }
  else if codec.isAudio ∧ p.audioPID = 0 then
    { p with audioPID := elemPID, audioCodec := codec }
  else p

def parsePMTLoop (payload : Bytes) (endOffset : ℕ) (p : Parser) (offset : ℕ) : Checked Parser :=
  if offset + 4 < endOffset ∧ offset + 4 < payload.length then do
    let streamType ← index payload offset
    let b1 ← index payload (offset + 1)
    let b2 ← index payload (offset + 2)
    let b3 ← index payload (offset + 3)
    let b4 ← index payload (offset + 4)
    parsePMTLoop payload endOffset (p.addStream (codecFromStreamType streamType) (pidOf b1 b2))
      (offset + (5 + sectionLength b3 b4))
  else return p
termination_by payload.length - offset

def parsePMT (p : Parser) (payload : Bytes) (pusi : Bool) : Checked Parser := do
  let payload ← skipPointerField payload pusi
  if payload.length < 12 then return p
  else do
    let b1 ← index payload 1
    let b2 ← index payload 2
    let sectionLen := sectionLength b1 b2
    if sectionLen < 13 ∨ payload.length < 3 + sectionLen then return p
    else do
      let b10 ← index payload 10
      let b11 ← index payload 11
      parsePMTLoop payload (3 + sectionLen - 4) p (12 + sectionLength b10 b11)

/-! ## Packets -/

structure PacketHeader where
  pid : ℕ
  pusi : Bool
  adaptControl : UInt8

def packetHeader (pkt : Bytes) : Checked PacketHeader := do
  let b1 ← index pkt 1
  let b2 ← index pkt 2
  let b3 ← index pkt 3
  return {
    pid := pidOf b1 b2
    pusi := b1 &&& 0x40 ≠ 0
    adaptControl := (b3 >>> 4) &&& 0x03 }

/-- The payload of a packet, behind the adaptation field if there is one. -/
def packetPayload (pkt : Bytes) (adaptControl : UInt8) : Checked (Option Bytes) := do
  let offset ←
    if adaptControl = 0x02 ∨ adaptControl = 0x03 then do
      let adaptLen ← index pkt 4
      pure (4 + (1 + adaptLen.toNat))
    else pure 4
  if adaptControl = 0x01 ∨ adaptControl = 0x03 then
    if packetSize ≤ offset then return none
    else do
      let payload ← sliceFrom pkt offset
      return some payload
  else return none

def parsePacket (p : Parser) (pkt : Bytes) : Checked Parser := do
  let header ← packetHeader pkt
  match ← packetPayload pkt header.adaptControl with
  | none => return p
  | some payload =>
    if header.pid = pidPat then p.parsePAT payload header.pusi
    else if header.pid = p.pmtPID ∧ p.pmtPID ≠ 0 then
      p.parsePMT payload header.pusi
    else if header.pid = p.videoPID ∧ p.videoPID ≠ 0 then
      p.handlePES .video header.pusi payload
    else if header.pid = p.audioPID ∧ p.audioPID ≠ 0 then
      p.handlePES .audio header.pusi payload
    else return p

end Parser

/-! ## The demuxer -/

namespace Demuxer

/-- The loop of `Feed`; what is left of the data comes back with the parser.
Data without a sync byte is dropped. -/
def feedLoop (p : Parser) (data : Bytes) : Checked (Parser × Bytes) :=
  if packetSize ≤ data.length then do
    let first ← index data 0
    if first ≠ syncByte then
      match (data.drop 1).findIdx? (· == syncByte) with
      | none => return (p, [])
      | some i =>
        match _h : sliceFrom data (i + 1) with
        | .error e => .error e
        | .ok rest => feedLoop p rest
    else do
      let pkt ← slice data 0 packetSize
      let p ← p.parsePacket pkt
      match _h : sliceFrom data packetSize with
      | .error e => .error e
      | .ok rest => feedLoop p rest
  else return (p, data)
termination_by data.length
decreasing_by
  · obtain ⟨hle, rfl⟩ := sliceFrom_eq_ok.mp _h
    rw [List.length_drop]
    omega
  · obtain ⟨hle, rfl⟩ := sliceFrom_eq_ok.mp _h
    rw [List.length_drop, packetSize] at *
    omega

def feed (d : Demuxer) (data : Bytes) : Checked Demuxer := do
  let (p, rest) ← feedLoop d.toParser (d.remainder ++ data)
  return { toParser := p, remainder := rest }

def feedAll (d : Demuxer) (chunks : List Bytes) : Checked Demuxer :=
  chunks.foldlM feed d

/-- The last PES packets, at the end of the input. -/
def flush (d : Demuxer) : Checked Demuxer := do
  let p ← if d.videoBuf ≠ [] then d.flushPES .video else pure d.toParser
  let p ← if p.audioBuf ≠ [] then p.flushPES .audio else pure p
  return { d with toParser := p }

end Demuxer

end LiveForge.Ts
