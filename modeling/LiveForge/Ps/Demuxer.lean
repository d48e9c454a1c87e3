import LiveForge.Mpeg.Timestamp
import LiveForge.Rtp.AnnexB

/-!
# The program stream demuxer

`Demuxer` of `pkg/muxer/ps/demuxer.go`.  The data is read header by header from
the front; a start code says which header it is, and data that starts with none
is skipped byte by byte.  Every index and every slice is checked, so a demuxer
that panics is an error of `Checked`; what `Feed` reports as an error is a
value.
-/

namespace LiveForge.Ps

open Support Mpeg

def packHeaderStartCode : ℕ := 0x000001BA

def systemHeaderStartCode : ℕ := 0x000001BB

def programStreamMapStartCode : ℕ := 0x000001BC

structure Demuxer where
  videoCodec : CodecType := .none
  audioCodec : CodecType := .none
  videoSeqSent : Bool := false
  audioSeqSent : Bool := false

def newDemuxer : Demuxer := {}

inductive FeedError where
  | dataTooShort (length : ℕ)
  | packHeaderTooShort
  | packHeaderStuffing
  | systemHeaderTooShort
  | systemHeaderLength
  | psmTooShort
  | psmLength
  | pesTooShort

def codecFromStreamType (st : UInt8) : CodecType :=
  if st = 0x1B then .h264
  else if st = 0x24 then .h265
  else if st = 0x0F then .aac
  else if st = 0x90 then .g711a
  else if st = 0x91 then .g711u
  else .none

def be16At (data : Bytes) (i : ℕ) : Checked ℕ := do
  let a ← index data i
  let b ← index data (i + 1)
  return be16 a b

/-! ## Video -/

/-- The codec the first byte of a unit speaks for. -/
def naluCodec : Bytes → CodecType
  | [] => .none
  | header :: _ =>
    let h264Type := header &&& 0x1F
    let h265Type := header >>> 1 &&& 0x3F
    if 1 ≤ h264Type ∧ h264Type ≤ 12 then .h264
    else if 32 ≤ h265Type ∧ h265Type ≤ 34 then .h265
    else if 16 ≤ h265Type ∧ h265Type ≤ 23 then .h265
    else .none

/-- The codec of the first unit that speaks for one. -/
def codecOfNALUs (nalus : List Bytes) : CodecType :=
  ((nalus.map naluCodec).find? (· ≠ .none)).getD .none

def detectVideoCodec (data : Bytes) : Checked CodecType := do
  let nalus ← H264.extractNALUs data
  return codecOfNALUs nalus

def isKeyNALU (codec : CodecType) : Bytes → Bool
  | [] => false
  | header :: _ =>
    match codec with
    | .h264 => header &&& 0x1F = 5
    | .h265 =>
      let nalType := header >>> 1 &&& 0x3F
      16 ≤ nalType ∧ nalType ≤ 21
    | _ => false

def isVideoKeyframe (codec : CodecType) (data : Bytes) : Checked Bool := do
  let nalus ← H264.extractNALUs data
  return nalus.any (isKeyNALU codec)

namespace Demuxer

/-- The record is built as one for H.264, whatever the codec. -/
def emitVideoSequenceHeader (d : Demuxer) (isKey : Bool) (payload : Bytes)
    (dts pts : ℤ) : Checked (Demuxer × List AVFrame) :=
  if isKey ∧ ¬ d.videoSeqSent then do
    match ← Rtp.buildAVCDecoderConfig payload with
    | none => return (d, [])
    | some config =>
      return ({ d with videoSeqSent := true },
        [newAVFrame .video d.videoCodec .sequenceHeader dts pts config])
  else return (d, [])

/-- The video payload of a PES packet, once the codec is known. -/
def handleKnownVideo (d : Demuxer) (payload : Bytes) (dts pts : ℤ) :
    Checked (Demuxer × List AVFrame) := do
  let isKey ← isVideoKeyframe d.videoCodec payload
  let (d, frames) ← d.emitVideoSequenceHeader isKey payload dts pts
  let avcc ← Rtp.annexBToAVCC payload
  if avcc = [] then return (d, frames)
  else
    let frameType : FrameType := if isKey then .keyframe else .interframe
    return (d, frames ++ [newAVFrame .video d.videoCodec frameType dts pts avcc])

def handleVideoPayload (d : Demuxer) (payload : Bytes) (dts pts : ℤ) :
    Checked (Demuxer × List AVFrame) := do
  let codec ← (if d.videoCodec = .none then detectVideoCodec payload else pure d.videoCodec)
  let d := { d with videoCodec := codec }
  if codec = .none then return (d, [])
  else d.handleKnownVideo payload dts pts

/-! ## Audio -/

/-- Bytes 3 to 5 of an ADTS header hold the length of the frame. -/
def adtsFrameLen (b3 b4 b5 : UInt8) : ℕ :=
  (b3 &&& 0x03).toNat <<< 11 ||| b4.toNat <<< 3 ||| b5.toNat >>> 5

def adtsToAudioSpecificConfig (adts : Bytes) : Checked (Option Bytes) :=
  if adts.length < 4 then return none
  else do
    let b2 ← index adts 2
    let b3 ← index adts 3
    let objectType := (b2 >>> 6 &&& 0x03) + 1
    let freqIndex := b2 >>> 2 &&& 0x0F
    let channelConfig := (b2 &&& 0x01) <<< 2 ||| b3 >>> 6 &&& 0x03
    return some [objectType <<< 3 ||| freqIndex >>> 1, freqIndex <<< 7 ||| channelConfig <<< 3]

def emitAudioSequenceHeader (d : Demuxer) (adts : Bytes) (dts pts : ℤ) :
    Checked (Demuxer × List AVFrame) :=
  if d.audioSeqSent then return (d, [])
  else do
    match ← adtsToAudioSpecificConfig adts with
    | none => return (d, [])
    | some asc =>
      return ({ d with audioSeqSent := true }, [newAVFrame .audio .aac .sequenceHeader dts pts asc])

/-- The raw data of one ADTS frame, if it holds any. -/
def rawAAC (payload : Bytes) (offset headerLen frameLen : ℕ) (dts pts : ℤ) :
    Checked (List AVFrame) :=
  if headerLen < frameLen then do
    let raw ← slice payload (offset + headerLen) (offset + frameLen)
    return [newAVFrame .audio .aac .keyframe dts pts raw]
  else return []

def handleAACLoop (payload : Bytes) (dts pts : ℤ) (d : Demuxer) (frames : List AVFrame)
    (offset : ℕ) : Checked (Demuxer × List AVFrame) :=
  if offset + 7 ≤ payload.length then do
    let b0 ← index payload offset
    let b1 ← index payload (offset + 1)
    if b0 ≠ 0xFF ∨ b1 &&& 0xF0 ≠ 0xF0 then
      handleAACLoop payload dts pts d frames (offset + 1)
    else do
      let b3 ← index payload (offset + 3)
      let b4 ← index payload (offset + 4)
      let b5 ← index payload (offset + 5)
      let frameLen := adtsFrameLen b3 b4 b5
      if frameLen < 7 ∨ payload.length < offset + frameLen then
        return (d, frames)
      else do
        let adts ← sliceFrom payload offset
        let (d, header) ← d.emitAudioSequenceHeader adts dts pts
        let headerLen := if b1 &&& 0x01 = 0 then 9 else 7
        let raw ← rawAAC payload offset headerLen frameLen dts pts
        handleAACLoop payload dts pts d (frames ++ header ++ raw) (offset + frameLen)
  else return (d, frames)
termination_by payload.length - offset

/-- Without an ADTS header the payload is taken for G.711. -/
def detectAudioCodec (data : Bytes) : Checked CodecType :=
  if 2 ≤ data.length then do
    let b0 ← index data 0
    let b1 ← index data 1
    if b0 = 0xFF ∧ b1 &&& 0xF0 = 0xF0 then return .aac else return .g711a
  else return .g711a

def handleAudioPayload (d : Demuxer) (payload : Bytes) (dts pts : ℤ) :
    Checked (Demuxer × List AVFrame) :=
  if payload = [] then return (d, [])
  else do
    let codec ← (if d.audioCodec = .none then detectAudioCodec payload else pure d.audioCodec)
    let d := { d with audioCodec := codec }
    if codec = .none then return (d, [])
    else if codec = .aac then handleAACLoop payload dts pts d [] 0
    else return (d, [newAVFrame .audio codec .keyframe dts pts payload])

/-! ## Headers

Each function gets the data from its start code on and returns how much of it
the header takes. -/

def skipPackHeader (data : Bytes) : Checked (Except FeedError ℕ) :=
  if data.length < 14 then return .error .packHeaderTooShort
  else do
    let b13 ← index data 13
    let total := 14 + (b13 &&& 0x07).toNat
    if data.length < total then return .error .packHeaderStuffing
    else return .ok total

def skipSystemHeader (data : Bytes) : Checked (Except FeedError ℕ) :=
  if data.length < 6 then return .error .systemHeaderTooShort
  else do
    let headerLen ← be16At data 4
    let total := 6 + headerLen
    if data.length < total then return .error .systemHeaderLength
    else return .ok total

def addStream (d : Demuxer) (codec : CodecType) (streamID : UInt8) : Demuxer :=
  if codec = .none then d
  else if codec.isVideo ∧ 0xE0 ≤ streamID ∧ streamID ≤ 0xEF then
    { d with videoCodec := codec }
  else if codec.isAudio then { d with audioCodec := codec }
  else d

def parsePSMLoop (data : Bytes) (endOffset : ℕ) (d : Demuxer) (offset : ℕ) : Checked Demuxer :=
  if offset + 4 ≤ endOffset then do
    let streamType ← index data offset
    let streamID ← index data (offset + 1)
    let esInfoLen ← be16At data (offset + 2)
    parsePSMLoop data endOffset (d.addStream (codecFromStreamType streamType) streamID)
      (offset + (4 + esInfoLen))
  else return d
termination_by endOffset - offset

def parsePSMBody (d : Demuxer) (data : Bytes) (psmLen : ℕ) : Checked Demuxer :=
  if psmLen < 6 ∨ data.length < 8 + 2 then return d
  else do
    let progInfoLen ← be16At data 8
    let offset := 8 + (2 + progInfoLen)
    if data.length < offset + 2 then return d
    else do
      let esMapLen ← be16At data offset
      parsePSMLoop data (min (offset + 2 + esMapLen) (6 + psmLen)) d (offset + 2)

def parsePSM (d : Demuxer) (data : Bytes) : Checked (Except FeedError (Demuxer × ℕ)) :=
  if data.length < 6 then return .error .psmTooShort
  else do
    let psmLen ← be16At data 4
    let total := 6 + psmLen
    if data.length < total then return .error .psmLength
    else do
      let d ← d.parsePSMBody data psmLen
      return .ok (d, total)

def parsePESTimestamp (data : Bytes) : Checked ℕ :=
  if data.length < 5 then return 0
  else do
    let b0 ← index data 0
    let b1 ← index data 1
    let b2 ← index data 2
    let b3 ← index data 3
    let b4 ← index data 4
    return joinHalves b0 b1 b2 b3 b4

/-- `parsePESTimestamp(data[low:low+5])`. -/
def timestampAt (data : Bytes) (low : ℕ) : Checked ℕ := do
  parsePESTimestamp (← slice data low (low + 5))

/-- PTS and DTS in milliseconds, as far as the flags announce them. -/
def readPESTimestamps (data : Bytes) (ptsDtsFlags : UInt8) : Checked (ℤ × ℤ) := do
  let pts ← (if 2 ≤ ptsDtsFlags ∧ 14 ≤ data.length then timestampAt data 9 else pure 0)
  let dts ← (if ptsDtsFlags = 3 ∧ 19 ≤ data.length then timestampAt data 14 else pure pts)
  return ((pts / 90 : ℕ), (dts / 90 : ℕ))

/-- What follows the length of a PES packet of `total` bytes.  Padding and
navigation streams are skipped. -/
def parsePESBody (d : Demuxer) (data : Bytes) (streamID : UInt8) (total : ℕ) :
    Checked (Demuxer × List AVFrame) :=
  if streamID = 0xBE ∨ streamID = 0xBF then return (d, [])
  else do
    let b7 ← index data 7
    let b8 ← index data 8
    let payloadStart := 9 + b8.toNat
    if total < payloadStart then return (d, [])
    else do
      let (pts, dts) ← readPESTimestamps data (b7 >>> 6 &&& 0x03)
      let payload ← slice data payloadStart total
      if payload = [] then return (d, [])
      else if 0xE0 ≤ streamID ∧ streamID ≤ 0xEF then
        d.handleVideoPayload payload dts pts
      else if 0xC0 ≤ streamID ∧ streamID ≤ 0xDF then
        d.handleAudioPayload payload dts pts
      else return (d, [])

/-- A length of zero takes the rest of the data, and so does one that is too
long. -/
def parsePES (d : Demuxer) (data : Bytes) :
    Checked (Except FeedError (Demuxer × List AVFrame × ℕ)) :=
  if data.length < 9 then return .error .pesTooShort
  else do
    let streamID ← index data 3
    let pesLen ← be16At data 4
    let total :=
      min (if pesLen = 0 then data.length else 6 + pesLen) data.length
    let (d, frames) ← d.parsePESBody data streamID total
    return .ok (d, frames, total)

/-! ## The loop -/

def isPESStartCode (code : ℕ) : Bool := code >>> 8 = 0x000001

/-- One turn of the loop of `Feed`, on the data from the offset on. -/
def feedStep (d : Demuxer) (data : Bytes) :
    Checked (Except FeedError (Demuxer × List AVFrame × ℕ)) := do
  let b0 ← index data 0
  let b1 ← index data 1
  let b2 ← index data 2
  let b3 ← index data 3
  let startCode := be32 b0 b1 b2 b3
  if startCode = packHeaderStartCode then
    return (← skipPackHeader data).map fun n => (d, [], n)
  else if startCode = systemHeaderStartCode then
    return (← skipSystemHeader data).map fun n => (d, [], n)
  else if startCode = programStreamMapStartCode then
    return (← d.parsePSM data).map fun (d, n) => (d, [], n)
  else if isPESStartCode startCode then d.parsePES data
  else return .ok (d, [], 1)

/-! ## Every turn takes something -/

/-- A step that returned normally took at least one byte and no more than
there are. -/
def Takes (data : Bytes) (n : ℕ) : Prop := 0 < n ∧ n ≤ data.length

variable {data : Bytes} {n : ℕ} {d d' : Demuxer} {frames : List AVFrame}

theorem skipPackHeader_takes (h : skipPackHeader data = .ok (.ok n)) : Takes data n := by
  obtain ⟨hlong, h⟩ := of_ite_error h
  obtain ⟨b13, -, h⟩ := bind_eq_ok.mp h
  obtain ⟨hfits, h⟩ := of_ite_error h
  simp only [pure, Except.pure, Except.ok.injEq] at h
  unfold Takes
  omega

theorem skipSystemHeader_takes (h : skipSystemHeader data = .ok (.ok n)) : Takes data n := by
  obtain ⟨hlong, h⟩ := of_ite_error h
  obtain ⟨headerLen, -, h⟩ := bind_eq_ok.mp h
  obtain ⟨hfits, h⟩ := of_ite_error h
  simp only [pure, Except.pure, Except.ok.injEq] at h
  unfold Takes
  omega

theorem parsePSM_takes (h : d.parsePSM data = .ok (.ok (d', n))) : Takes data n := by
  obtain ⟨hlong, h⟩ := of_ite_error h
  obtain ⟨psmLen, -, h⟩ := bind_eq_ok.mp h
  obtain ⟨hfits, h⟩ := of_ite_error h
  obtain ⟨d'', -, h⟩ := bind_eq_ok.mp h
  simp only [pure, Except.pure, Except.ok.injEq, Prod.mk.injEq] at h
  unfold Takes
  omega

theorem parsePES_takes (h : d.parsePES data = .ok (.ok (d', frames, n))) : Takes data n := by
  obtain ⟨hlong, h⟩ := of_ite_error h
  obtain ⟨streamID, -, h⟩ := bind_eq_ok.mp h
  obtain ⟨pesLen, -, h⟩ := bind_eq_ok.mp h
  obtain ⟨parsed, -, h⟩ := bind_eq_ok.mp h
  cases h
  unfold Takes
  split <;> omega

theorem feedStep_takes (h : d.feedStep data = .ok (.ok (d', frames, n))) : Takes data n := by
  obtain ⟨b0, hb0, h⟩ := bind_eq_ok.mp h
  obtain ⟨b1, -, h⟩ := bind_eq_ok.mp h
  obtain ⟨b2, -, h⟩ := bind_eq_ok.mp h
  obtain ⟨b3, -, h⟩ := bind_eq_ok.mp h
  dsimp only at h
  split_ifs at h
  · obtain ⟨r, hr, h⟩ := bind_eq_ok.mp h
    obtain ⟨m, rfl, ⟨-, -, rfl⟩⟩ := map_eq_ok.mp (Except.ok.inj h)
    exact skipPackHeader_takes hr
  · obtain ⟨r, hr, h⟩ := bind_eq_ok.mp h
    obtain ⟨m, rfl, ⟨-, -, rfl⟩⟩ := map_eq_ok.mp (Except.ok.inj h)
    exact skipSystemHeader_takes hr
  · obtain ⟨r, hr, h⟩ := bind_eq_ok.mp h
    obtain ⟨m, rfl, ⟨-, -, rfl⟩⟩ := map_eq_ok.mp (Except.ok.inj h)
    exact parsePSM_takes hr
  · exact parsePES_takes h
  · have hpos := (List.getElem?_eq_some_iff.mp (index_eq_ok.mp hb0)).1
    simp only [pure, Except.pure, Except.ok.injEq, Prod.mk.injEq] at h
    exact ⟨by omega, by omega⟩

/-- The loop of `Feed`.  An error leaves the frames found before it. -/
def feedLoop (d : Demuxer) (frames : List AVFrame) (data : Bytes) :
    Checked (Demuxer × List AVFrame × Option FeedError) :=
  if data.length < 4 then return (d, frames, none)
  else
    match _h : d.feedStep data with
    | .error e => .error e
    | .ok (.error err) => return (d, frames, some err)
    | .ok (.ok (d, more, n)) => feedLoop d (frames ++ more) (data.drop n)
termination_by data.length
decreasing_by
  have := feedStep_takes _h
  rw [List.length_drop]
  unfold Takes at this
  omega

def feed (d : Demuxer) (data : Bytes) : Checked (Demuxer × List AVFrame × Option FeedError) :=
  if data.length < 14 then
    return (d, [], some (.dataTooShort data.length))
  else feedLoop d [] data

end Demuxer

end LiveForge.Ps
