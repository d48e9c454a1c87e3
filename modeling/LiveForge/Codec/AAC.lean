import LiveForge.Media.Frame
import LiveForge.Support.Checked

/-!
# AAC configurations and ADTS headers

`pkg/codec/aac/parser.go`: the two-byte AudioSpecificConfig of a stream, and
the seven-byte header that every frame carries when there is no such record.
-/

namespace LiveForge.AAC

open Support

structure AACInfo where
  objectType : ℕ
  sampleRate : ℕ
  channels : ℕ

def sampleRates : List ℕ :=
  [96000, 88200, 64000, 48000, 44100, 32000, 24000, 22050, 16000, 12000, 11025, 8000, 7350]

inductive AACError where
  | configTooShort
  | configTooShortForObjectType
  | configTooShortForSampleRate
  | invalidFrequencyIndex (index : ℕ)
  | adtsTooShort
  | invalidSyncWord
  | adtsTooShortForCRC
  | invalidADTSFrequencyIndex (index : ℕ)

/-- An object type of 31 is an escape to six more bits.  The frequency and the
channels are read at the same place in both cases. -/
def parseAudioSpecificConfig (data : Bytes) : Except AACError AACInfo :=
  let b0 := (data.getD 0 0).toNat
  let b1 := (data.getD 1 0).toNat
  let short := b0 >>> 3 &&& 0x1F
  let objectType :=
    if short = 31 then 32 + (b0 &&& 0x07) <<< 3 ||| b1 >>> 5 else short
  let freqIndex := (b0 &&& 0x07) <<< 1 ||| b1 >>> 7
  let channels := b1 >>> 3 &&& 0x0F
  let explicit := (b1 &&& 0x7F) <<< 17 ||| (data.getD 2 0).toNat <<< 9 |||
    (data.getD 3 0).toNat <<< 1 ||| (data.getD 4 0).toNat >>> 7
  if data.length < 2 then .error .configTooShort
  else if short = 31 ∧ data.length < 3 then .error .configTooShortForObjectType
  else if freqIndex = 0x0F then
    if data.length < 5 then .error .configTooShortForSampleRate
    else .ok { objectType, sampleRate := explicit, channels }
  else
    match sampleRates[freqIndex]? with
    | some sampleRate => .ok { objectType, sampleRate, channels }
    | none => .error (.invalidFrequencyIndex freqIndex)

/-- The index of a rate in the table, 15 for a rate that is not in it. -/
def sampleRateIndex (rate : ℕ) : ℕ :=
  match sampleRates.findIdx? (· == rate) with
  | some i => i
  | none => 0x0F

def adtsHeaderLen (b1 : UInt8) : ℕ := if b1 &&& 0x01 = 0 then 9 else 7

def parseADTSHeader (data : Bytes) : Checked (Except AACError (AACInfo × ℕ)) :=
  if data.length < 7 then return .error .adtsTooShort
  else do
    let b0 ← index data 0
    let b1 ← index data 1
    if b0 ≠ 0xFF ∨ b1 &&& 0xF0 ≠ 0xF0 then return .error .invalidSyncWord
    else do
      let headerLen := adtsHeaderLen b1
      if data.length < headerLen then return .error .adtsTooShortForCRC
      else do
        let b2 ← index data 2
        let b3 ← index data 3
        let profile := ((b2 >>> 6) &&& 0x03).toNat + 1
        let freqIdx := ((b2 >>> 2) &&& 0x0F).toNat
        let channels := ((b2 &&& 0x01) <<< 2).toNat ||| ((b3 >>> 6) &&& 0x03).toNat
        match sampleRates[freqIdx]? with
        | none => return .error (.invalidADTSFrequencyIndex freqIdx)
        | some sampleRate =>
          return .ok ({ objectType := profile, sampleRate, channels }, headerLen)

theorem le_headerLen_of_parseADTSHeader {data : Bytes} {info : AACInfo}
    {headerLen : ℕ} (h : parseADTSHeader data = .ok (.ok (info, headerLen))) :
    7 ≤ headerLen ∧ headerLen ≤ data.length := by
  obtain ⟨-, h⟩ := of_ite_error h
  obtain ⟨b0, -, h⟩ := bind_eq_ok.mp h
  obtain ⟨b1, -, h⟩ := bind_eq_ok.mp h
  obtain ⟨-, h⟩ := of_ite_error h
  obtain ⟨hlen, h⟩ := of_ite_error h
  obtain ⟨b2, -, h⟩ := bind_eq_ok.mp h
  obtain ⟨b3, -, h⟩ := bind_eq_ok.mp h
  dsimp only at h
  split at h
  · simp [pure, Except.pure] at h
  · cases h
    refine ⟨?_, not_lt.mp hlen⟩
    rw [adtsHeaderLen]
    split <;> omega

def buildAudioSpecificConfig (info : AACInfo) : Bytes :=
  let freqIdx := sampleRateIndex info.sampleRate
  [UInt8.ofNat (info.objectType <<< 3) ||| UInt8.ofNat (freqIdx >>> 1 &&& 0x07),
    UInt8.ofNat ((freqIdx &&& 0x01) <<< 7) ||| UInt8.ofNat ((info.channels &&& 0x0F) <<< 3)]

/-- Only the last two bits of the profile count, and `objectType - 1` has those
of `objectType + 3`. -/
def buildADTSHeader (info : AACInfo) (frameLength : ℕ) : Bytes :=
  let totalLen := 7 + frameLength
  let freqIdx := sampleRateIndex info.sampleRate
  let profile := info.objectType + 3
  [0xFF, 0xF1, UInt8.ofNat (profile <<< 6 &&& 0xC0) ||| UInt8.ofNat (freqIdx <<< 2 &&& 0x3C) |||
      UInt8.ofNat (info.channels >>> 2 &&& 0x01),
    UInt8.ofNat (info.channels <<< 6 &&& 0xC0) ||| UInt8.ofNat (totalLen >>> 11 &&& 0x03),
    UInt8.ofNat (totalLen >>> 3 &&& 0xFF),
    UInt8.ofNat (totalLen <<< 5 &&& 0xE0) ||| 0x1F,
    0xFC]

end LiveForge.AAC
