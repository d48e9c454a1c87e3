import LiveForge.Codec.AnnexB

/-!
# Lengths to start codes, and configuration records

`AVCCToAnnexB` and `ExtractSPSPPSFromAVCRecord` of `pkg/codec/h264/parser.go`,
`HVCCToAnnexB` and `ExtractVPSSPSPPSFromHVCRecord` of
`pkg/codec/h265/parser.go`.  The source walks over the data with an offset and
compares before every access; here the data is taken off the front.
-/

namespace LiveForge.AnnexB

open Support

/-! ## Lengths to start codes -/

/-- Every unit behind a start code instead of its length.  The loop ends at a
unit that is shorter than `least` or that the data does not hold. -/
def startCodesForLengths (least : ℕ) : Bytes → Bytes
  | a :: b :: c :: d :: rest =>
    let naluLen := be32 a b c d
    if naluLen < least ∨ rest.length < naluLen then []
    else
      startCode ++ rest.take naluLen ++ startCodesForLengths least (rest.drop naluLen)
  | _ => []
termination_by data => data.length
decreasing_by
  simp only [List.length_drop, List.length_cons]
  omega

end LiveForge.AnnexB

/-! ## The records -/

namespace LiveForge.H264

open Support

def avccToAnnexB : Bytes → Bytes := AnnexB.startCodesForLengths 0

inductive RecordError where
  | tooShort
  | truncatedSPSLength
  | truncatedSPSData
  | truncatedBeforePPS
  | truncatedPPSLength
  | truncatedPPSData
  | noSPS
  | noPPS
  deriving DecidableEq

/-- The loop over parameter sets, each behind its length; what follows the last
one comes back with them. -/
def readSets (noLength noData : RecordError) :
    ℕ → Bytes → Except RecordError (List Bytes × Bytes)
  | 0, data => .ok ([], data)
  | count + 1, a :: b :: rest =>
    let setLen := be16 a b
    if rest.length < setLen then .error noData
    else
      (readSets noLength noData count (rest.drop setLen)).map
        fun (sets, rest') => (rest.take setLen :: sets, rest')
  | _ + 1, _ => .error noLength

def extractSPSPPSFromAVCRecord (data : Bytes) : Except RecordError (Bytes × Bytes) := do
  if data.length < 7 then .error .tooShort
  else
    let numSPS := (data.getD 5 0 &&& 0x1F).toNat
    let (spsSets, data) ←
      readSets .truncatedSPSLength .truncatedSPSData numSPS (data.drop 6)
    match data with
    | [] => .error .truncatedBeforePPS
    | numPPS :: data =>
      let (ppsSets, _) ←
        readSets .truncatedPPSLength .truncatedPPSData numPPS.toNat data
      match spsSets.head?, ppsSets.head? with
      | none, _ => .error .noSPS
      | _, none => .error .noPPS
      | some sps, some pps => return (sps, pps)

end LiveForge.H264

namespace LiveForge.H265

open Support

def hvccToAnnexB : Bytes → Bytes := AnnexB.startCodesForLengths 1

/-- Errors name the array and the unit in it. -/
inductive RecordError where
  | tooShort (length : ℕ)
  | arrayHeader (array : ℕ)
  | nalCount (array : ℕ)
  | nalLength (array nal : ℕ)
  | nalPayload (array nal : ℕ)
  deriving DecidableEq

/-- The parameter sets found so far; nil is `none`. -/
structure RecordSets where
  vps : Option Bytes := none
  sps : Option Bytes := none
  pps : Option Bytes := none

/-- The first unit of each kind counts. -/
def RecordSets.add (sets : RecordSets) (nalType : UInt8) (nalu : Bytes) : RecordSets :=
  if nalType = nalTypeVPS then { sets with vps := sets.vps.or (some nalu) }
  else if nalType = nalTypeSPS then { sets with sps := sets.sps.or (some nalu) }
  else if nalType = nalTypePPS then { sets with pps := sets.pps.or (some nalu) }
  else sets

/-- The loop over the units of array `i`, from unit `j` on. -/
def readArray (i : ℕ) (nalType : UInt8) (sets : RecordSets) (j : ℕ) :
    ℕ → Bytes → Except RecordError (RecordSets × Bytes)
  | 0, data => .ok (sets, data)
  | count + 1, a :: b :: rest =>
    let naluLen := be16 a b
    if rest.length < naluLen then .error (.nalPayload i j)
    else
      readArray i nalType (sets.add nalType (rest.take naluLen)) (j + 1) count (rest.drop naluLen)
  | _ + 1, _ => .error (.nalLength i j)

/-- The loop over the arrays, from array `i` on. -/
def readArrays (sets : RecordSets) (i : ℕ) : ℕ → Bytes → Except RecordError RecordSets
  | 0, _ => .ok sets
  | _ + 1, [] => .error (.arrayHeader i)
  | count + 1, header :: a :: b :: rest => do
      let (sets, rest) ←
        readArray i (header &&& 0x3F) sets 0 (be16 a b) rest
      readArrays sets (i + 1) count rest
  | _ + 1, _ => .error (.nalCount i)

def extractVPSSPSPPSFromHVCRecord (data : Bytes) : Except RecordError RecordSets :=
  if data.length < 23 then .error (.tooShort data.length)
  else readArrays {} 0 (data.getD 22 0).toNat (data.drop 23)

end LiveForge.H265
