import LiveForge.Media.Frame
import LiveForge.Support.Bytes

/-!
# HEVC parameter sets

The part of `pkg/codec/h265/parser.go` that turns a VPS, an SPS and a PPS into
an HEVC decoder configuration record: the splitting of an Annex B stream, the
bit reader with its sticky error, the parsing of an SPS, and the record.
-/

namespace LiveForge.H265

open Support

def nalTypeVPS : UInt8 := 32

def nalTypeSPS : UInt8 := 33

def nalTypePPS : UInt8 := 34

def nalType (nal : Bytes) : UInt8 := (nal.getD 0 0 >>> 1) &&& 0x3F

/-! ## Annex B -/

/-- The length of the start code at the front of the data, zero when there is
none. -/
def startCodeLength (data : Bytes) : ℕ :=
  if data.take 3 = [0, 0, 1] then 3
  else if data.take 4 = [0, 0, 0, 1] then 4
  else 0

/-- The scan of the source: `nal` holds the bytes since the last start code,
once there was one.  An empty unit is kept between two start codes and dropped
at the end of the data. -/
def extractNALUsFrom (nal : Option Bytes) (data : Bytes) : List Bytes :=
  match data with
  | [] => (nal.filter fun unit => unit ≠ []).toList
  | b :: rest =>
    if 0 < startCodeLength (b :: rest) then
      nal.toList ++ extractNALUsFrom (some []) ((b :: rest).drop (startCodeLength (b :: rest)))
    else extractNALUsFrom (nal.map fun unit => unit ++ [b]) rest
termination_by data.length
decreasing_by
  all_goals simp only [List.length_drop, List.length_cons]
  all_goals omega

def extractNALUs (data : Bytes) : List Bytes := extractNALUsFrom none data

def removeEmulationPreventionBytes : Bytes → Bytes
  | a :: b :: c :: rest =>
    if a = 0x00 ∧ b = 0x00 ∧ c = 0x03 then
      0x00 :: 0x00 :: removeEmulationPreventionBytes rest
    else a :: removeEmulationPreventionBytes (b :: c :: rest)
  | data => data

/-! ## Bits -/

structure BitReader where
  data : Bytes
  bitPos : ℕ
  err : Bool := false

namespace BitReader

def readBitsLoop (r : BitReader) (value : ℕ) : ℕ → ℕ × BitReader
  | 0 => (value, r)
  | n + 1 =>
    let byteIndex := r.bitPos / 8
    let bitIndex := 7 - r.bitPos % 8
    if r.data.length ≤ byteIndex then (0, { r with err := true })
    else
      let bit := (r.data.getD byteIndex 0).toNat >>> bitIndex &&& 1
      readBitsLoop { r with bitPos := r.bitPos + 1 } (value <<< 1 ||| bit) n

/-- More than 64 bits at once are an error, like the end of the data. -/
def readBits (r : BitReader) (n : ℕ) : ℕ × BitReader :=
  if r.err ∨ 64 < n then (0, { r with err := true })
  else r.readBitsLoop 0 n

/-- Count zero bits up to the next one bit, at most 31 of them; `left` is how
many more bits may be read. -/
def leadingZeros (r : BitReader) : ℕ → Option ℕ × BitReader
  | 0 => (none, { r with err := true })
  | left + 1 =>
    let (bit, r) := r.readBits 1
    if bit ≠ 0 then (some (31 - left), r)
    else if r.err then (none, r)
    else r.leadingZeros left

def readUE (r : BitReader) : ℕ × BitReader :=
  match r.leadingZeros 32 with
  | (none, r) => (0, r)
  | (some 0, r) => (0, r)
  | (some zeros, r) =>
    let (suffix, r) := r.readBits zeros
    (1 <<< zeros - 1 + suffix, r)

def skipSubLayer (r : BitReader) (present : Bool × Bool) : BitReader :=
  let r := if present.1 then (r.readBits 88).2 else r
  if present.2 then (r.readBits 8).2 else r

def readPresence (r : BitReader) : ℕ → List (Bool × Bool) × BitReader
  | 0 => ([], r)
  | n + 1 =>
    let (profile, r) := r.readBits 1
    let (level, r) := r.readBits 1
    let (more, r) := r.readPresence n
    ((profile != 0, level != 0) :: more, r)

def skipSubLayers (r : BitReader) (maxSubLayersMinus1 : ℕ) : BitReader :=
  if maxSubLayersMinus1 = 0 then r
  else
    let (present, r) := r.readPresence maxSubLayersMinus1
    let r := (List.range (8 - maxSubLayersMinus1)).foldl
      (fun r _ => (r.readBits 2).2) r
    present.foldl skipSubLayer r

end BitReader

/-! ## Sequence parameter sets -/

structure SPSInfo where
  profileTierLevel : Bytes
  chromaFormatIDC : UInt8
  bitDepthLumaMinus8 : UInt8
  bitDepthChromaMinus8 : UInt8
  numTemporalLayers : UInt8
  temporalIDNested : UInt8
  width : ℕ
  height : ℕ

/-- The horizontal and the vertical cropping, each the sum of two fields. -/
def readCropping (r : BitReader) : ℕ × ℕ × BitReader :=
  let (flag, r) := r.readBits 1
  if flag = 0 then (0, 0, r)
  else
    let (cropLeft, r) := r.readUE
    let (cropRight, r) := r.readUE
    let (cropTop, r) := r.readUE
    let (cropBottom, r) := r.readUE
    (cropLeft + cropRight, cropTop + cropBottom, r)

/-- How many luma samples one unit of cropping stands for. -/
def croppingUnits (chromaFormatIDC separateColourPlane : ℕ) : ℕ × ℕ :=
  if separateColourPlane ≠ 0 then (1, 1)
  else if chromaFormatIDC = 1 then (2, 2)
  else if chromaFormatIDC = 2 then (2, 1)
  else (1, 1)

def parseSPSHVCCInfo (sps : Bytes) : Option SPSInfo :=
  let rbsp := removeEmulationPreventionBytes (sps.drop 2)
  let first := rbsp.getD 0 0
  let maxSubLayersMinus1 := (first >>> 1) &&& 0x07
  let r : BitReader := { data := rbsp, bitPos := 13 * 8 }
  let r := r.skipSubLayers maxSubLayersMinus1.toNat
  let r := r.readUE.2
  let (chromaFormatIDC, r) := r.readUE
  let (separateColourPlane, r) :=
    if chromaFormatIDC = 3 then r.readBits 1 else (0, r)
  let (width, r) := r.readUE
  let (height, r) := r.readUE
  let (horizontal, vertical, r) := readCropping r
  let (bitDepthLumaMinus8, r) := r.readUE
  let (bitDepthChromaMinus8, r) := r.readUE
  let (subWidthC, subHeightC) :=
    croppingUnits chromaFormatIDC separateColourPlane
  let cropWidth := subWidthC * horizontal
  let cropHeight := subHeightC * vertical
  if sps.length < 3 ∨ nalType sps ≠ nalTypeSPS then none
  else if rbsp.length < 13 then none
  else if 6 < maxSubLayersMinus1 then none
  else if 3 < chromaFormatIDC then none
  else if r.err ∨ width = 0 ∨ height = 0 ∨ 7 < bitDepthLumaMinus8 ∨
      7 < bitDepthChromaMinus8 then none
  else if width ≤ cropWidth ∨ height ≤ cropHeight ∨
      0xFFFF < width - cropWidth ∨ 0xFFFF < height - cropHeight then none
  else
    some {
      profileTierLevel := (rbsp.drop 1).take 12
      chromaFormatIDC := UInt8.ofNat chromaFormatIDC
      bitDepthLumaMinus8 := UInt8.ofNat bitDepthLumaMinus8
      bitDepthChromaMinus8 := UInt8.ofNat bitDepthChromaMinus8
      numTemporalLayers := maxSubLayersMinus1 + 1
      temporalIDNested := first &&& 0x01
      width := width - cropWidth
      height := height - cropHeight }

/-! ## The configuration record -/

/-- One array of the record, with one NAL unit; nothing for a missing one. -/
def hvccArray (type : UInt8) (nal : Option Bytes) : Bytes :=
  match nal with
  | none => []
  | some nal =>
    [type] ++ be16Bytes 1 ++ be16Bytes nal.length ++ nal

def buildHVCCFromNALs (vps : Option Bytes) (sps : Bytes) (pps : Option Bytes) : Option Bytes :=
  (parseSPSHVCCInfo sps).map fun (info : SPSInfo) =>
    let numArrays : UInt8 :=
      (if vps.isSome then 1 else 0) + 1 + (if pps.isSome then 1 else 0)
    let layers :=
      info.numTemporalLayers <<< 3 ||| info.temporalIDNested <<< 2 ||| 0x03
    let header : Bytes :=
      [0xF0, 0, 0xFC, 0xFC ||| info.chromaFormatIDC,
        0xF8 ||| info.bitDepthLumaMinus8, 0xF8 ||| info.bitDepthChromaMinus8,
        0, 0, layers, numArrays]
    [1] ++ info.profileTierLevel ++ header ++ hvccArray nalTypeVPS vps ++
      hvccArray nalTypeSPS (some sps) ++ hvccArray nalTypePPS pps

def firstOfType (type : UInt8) (nalus : List Bytes) : Option Bytes :=
  nalus.find? fun nal => 2 ≤ nal.length ∧ nalType nal = type

def buildHVCCDecoderConfig (annexB : Bytes) : Option Bytes :=
  let nalus := extractNALUs annexB
  match firstOfType nalTypeSPS nalus with
  | none => none
  | some sps =>
    buildHVCCFromNALs (firstOfType nalTypeVPS nalus) sps (firstOfType nalTypePPS nalus)

end LiveForge.H265
