import LiveForge.Media.Frame
import LiveForge.Support.Bytes
import Mathlib.Logic.Function.Basic

/-!
# The RTMP chunk stream

`ChunkReader` and `ChunkWriter` of `module/rtmp/chunk.go`.  A reader is its
state; the connection it reads from is the list of the bytes still to come.
One turn of the loop of `ReadMessage` is a function of its own.

State after an error is not modelled: every caller drops the connection then.
-/

namespace LiveForge.Rtmp

open Support

structure Message where
  typeID : UInt8
  length : UInt32
  timestamp : UInt32
  streamID : UInt32
  payload : Bytes
  deriving DecidableEq

inductive ChunkFmt where
  | fmt0
  | fmt1
  | fmt2
  | fmt3
  deriving DecidableEq

namespace ChunkFmt

def bits : ChunkFmt → ℕ
  | fmt0 => 0
  | fmt1 => 1
  | fmt2 => 2
  | fmt3 => 3

def ofBits : ℕ → ChunkFmt
  | 0 => fmt0
  | 1 => fmt1
  | 2 => fmt2
  | _ => fmt3

end ChunkFmt

/-! ## Reading -/

structure ChunkHeader where
  timestamp : UInt32 := 0
  timestampDelta : UInt32 := 0
  length : UInt32 := 0
  typeID : UInt8 := 0
  streamID : UInt32 := 0
  hasExtendedTimestamp : Bool := false
  timestampDeltaIsRelative : Bool := false
  initialized : Bool := false
  messageActive : Bool := false

structure ChunkReader where
  chunkSize : ℕ
  headers : UInt32 → Option ChunkHeader
  buffers : UInt32 → Bytes

inductive ReadError where
  | input (error : InputError)
  | chunkData (error : InputError)
  | compressedHeader (csid : UInt32)
  | incomplete (csid : UInt32) (fmt : ChunkFmt)
  | exceedsLength (csid : UInt32)
  | noPreviousHeader
  deriving DecidableEq

def newChunkReader (chunkSize : ℕ) : ChunkReader :=
  { chunkSize := chunkSize, headers := fun _ => none, buffers := fun _ => [] }

def readInput (n : ℕ) (input : Bytes) : Except ReadError (Bytes × Bytes) :=
  (readFull n input).mapError ReadError.input

def readBasicHeader (input : Bytes) : Except ReadError (UInt32 × ChunkFmt × Bytes) := do
  let (b, input) ← readInput 1 input
  let fmt := ChunkFmt.ofBits ((b.getD 0 0).toNat >>> 6 &&& 0x03)
  let csid := (b.getD 0 0).toNat &&& 0x3F
  if csid = 0 then
    let (b2, input) ← readInput 1 input
    return ((b2.getD 0 0).toUInt32 + 64, fmt, input)
  else if csid = 1 then
    let (b3, input) ← readInput 2 input
    return ((b3.getD 1 0).toUInt32 * 256 + (b3.getD 0 0).toUInt32 + 64, fmt, input)
  else
    return (UInt32.ofNat csid, fmt, input)

/-- The value of a timestamp field: the extended field when it is all ones. -/
def readTimestamp (field : ℕ) (input : Bytes) : Except ReadError (UInt32 × Bytes) :=
  if field = 0xFFFFFF then do
    let (ext, input) ← readInput 4 input
    return (UInt32.ofNat (be32 (ext.getD 0 0) (ext.getD 1 0) (ext.getD 2 0) (ext.getD 3 0)), input)
  else .ok (UInt32.ofNat field, input)

def be24At (buf : Bytes) (i : ℕ) : ℕ :=
  be24 (buf.getD i 0) (buf.getD (i + 1) 0) (buf.getD (i + 2) 0)

/-- The `n` bytes of a header that starts with a timestamp field, and the value
of the field. -/
def readFields (n : ℕ) (input : Bytes) : Except ReadError (Bytes × UInt32 × Bytes) := do
  let (buf, input) ← readInput n input
  let (value, input) ← readTimestamp (be24At buf 0) input
  return (buf, value, input)

/-- The fields that a header with a delta sets. -/
def ChunkHeader.withDelta (h : ChunkHeader) (field : ℕ) (delta : UInt32) : ChunkHeader :=
  { h with
    hasExtendedTimestamp := field == 0xFFFFFF
    timestampDelta := delta
    timestampDeltaIsRelative := true
    timestamp := h.timestamp + delta
    initialized := true }

/-- The delta of a chunk without header.  The repeated field counts only where
it is a delta that applies. -/
def readRepeated (h : ChunkHeader) (continuation : Bool) (input : Bytes) :
    Except ReadError (UInt32 × Bytes) :=
  if h.hasExtendedTimestamp then do
    let (ext, input) ← readTimestamp 0xFFFFFF input
    return (if !continuation && h.timestampDeltaIsRelative then ext else h.timestampDelta, input)
  else .ok (h.timestampDelta, input)

def readMessageHeader (fmt : ChunkFmt) (h : ChunkHeader) (continuation : Bool)
    (input : Bytes) : Except ReadError (ChunkHeader × Bytes) :=
  match fmt with
  | .fmt0 => do
      let (buf, timestamp, input) ← readFields 11 input
      return ({ h with
        length := UInt32.ofNat (be24At buf 3)
        typeID := buf.getD 6 0
        streamID := UInt32.ofNat (le32 (buf.getD 7 0) (buf.getD 8 0) (buf.getD 9 0) (buf.getD 10 0))
        hasExtendedTimestamp := be24At buf 0 == 0xFFFFFF
        timestamp := timestamp
        timestampDelta := 0
        timestampDeltaIsRelative := false
        initialized := true }, input)
  | .fmt1 => do
      let (buf, delta, input) ← readFields 7 input
      return ({ h with
        length := UInt32.ofNat (be24At buf 3)
        typeID := buf.getD 6 0 }.withDelta (be24At buf 0) delta, input)
  | .fmt2 => do
      let (buf, delta, input) ← readFields 3 input
      return (h.withDelta (be24At buf 0) delta, input)
  | .fmt3 =>
    if h.initialized = false then .error .noPreviousHeader
    else do
      let (delta, input) ← readRepeated h continuation input
      return (if continuation then h
        else { h with timestamp := h.timestamp + delta }, input)

namespace ChunkReader

def setChunkSize (size : ℕ) (cr : ChunkReader) : ChunkReader :=
  { cr with chunkSize := size }

def headerFor (csid : UInt32) (fmt : ChunkFmt) (cr : ChunkReader) :
    Except ReadError ChunkHeader :=
  match cr.headers csid with
  | none => if fmt = .fmt0 then .ok {} else .error (.compressedHeader csid)
  | some header =>
    if header.messageActive = true ∧ fmt ≠ .fmt3 then
      .error (.incomplete csid fmt)
    else .ok header

/-- Read the data of a chunk and return the message if it is complete. -/
def readData (csid : UInt32) (header : ChunkHeader) (cr : ChunkReader)
    (input : Bytes) : Except ReadError (Option Message × ChunkReader × Bytes) :=
  let buffer := cr.buffers csid
  if header.length.toNat < buffer.length then .error (.exceedsLength csid)
  else do
    let toRead := min (header.length.toNat - buffer.length) cr.chunkSize
    let (data, input) ← (readFull toRead input).mapError ReadError.chunkData
    let buffer := buffer ++ data
    if header.length.toNat ≤ buffer.length then
      return (some
        { typeID := header.typeID
          length := header.length
          timestamp := header.timestamp
          streamID := header.streamID
          payload := buffer.take header.length.toNat },
        { cr with
          headers := Function.update cr.headers csid
            (some { header with messageActive := false })
          buffers := Function.update cr.buffers csid [] }, input)
    else
      return (none,
        { cr with
          headers := Function.update cr.headers csid (some header)
          buffers := Function.update cr.buffers csid buffer }, input)

/-- One turn of the loop of `ReadMessage`. -/
def readChunk (cr : ChunkReader) (input : Bytes) :
    Except ReadError (Option Message × ChunkReader × Bytes) := do
  let (csid, fmt, input) ← readBasicHeader input
  let header ← cr.headerFor csid fmt
  let (header, input) ←
    readMessageHeader fmt header header.messageActive input
  cr.readData csid { header with messageActive := true } input

/-! ### The loop

Every turn takes at least one byte, so `ReadMessage` ends on every input. -/

variable {input rest data : Bytes} {header : ChunkHeader} {result : Option Message} {n : ℕ}
  {fmt : ChunkFmt} {csid value : UInt32} {continuation : Bool}

theorem readInput_length (h : readInput n input = .ok (data, rest)) :
    rest.length + n = input.length := by
  obtain ⟨rfl, hlength⟩ := readFull_eq_ok (mapError_eq_ok.mp h)
  rw [List.length_append]
  omega

theorem readBasicHeader_length (h : readBasicHeader input = .ok (csid, fmt, rest)) :
    rest.length < input.length := by
  obtain ⟨⟨b, middle⟩, hfirst, h⟩ := bind_eq_ok.mp h
  have hone := readInput_length hfirst
  simp only at h
  split at h
  · obtain ⟨⟨b2, last⟩, hsecond, h⟩ := bind_eq_ok.mp h
    have htwo := readInput_length hsecond
    simp only at h
    cases h
    omega
  · split at h
    · obtain ⟨⟨b3, last⟩, hsecond, h⟩ := bind_eq_ok.mp h
      have htwo := readInput_length hsecond
      simp only at h
      cases h
      omega
    · cases h
      omega

theorem readTimestamp_length {field : ℕ} (h : readTimestamp field input = .ok (value, rest)) :
    rest.length ≤ input.length := by
  unfold readTimestamp at h
  split at h
  · obtain ⟨⟨ext, last⟩, hread, h⟩ := bind_eq_ok.mp h
    have hlength := readInput_length hread
    cases h
    omega
  · cases h
    exact le_rfl

theorem readRepeated_length {delta : UInt32}
    (h : readRepeated header continuation input = .ok (delta, rest)) :
    rest.length ≤ input.length := by
  unfold readRepeated at h
  split at h
  · obtain ⟨⟨ext, last⟩, hread, h⟩ := bind_eq_ok.mp h
    have hlength := readTimestamp_length hread
    cases h
    exact hlength
  · cases h
    exact le_rfl

theorem readFields_length {buf : Bytes} (h : readFields n input = .ok (buf, value, rest)) :
    rest.length ≤ input.length := by
  obtain ⟨⟨_, middle⟩, hread, h⟩ := bind_eq_ok.mp h
  obtain ⟨⟨_, last⟩, hvalue, h⟩ := bind_eq_ok.mp h
  have hfirst := readInput_length hread
  have hsecond := readTimestamp_length hvalue
  obtain ⟨-, -, rfl⟩ := h
  omega

theorem readMessageHeader_length {header' : ChunkHeader}
    (h : readMessageHeader fmt header continuation input = .ok (header', rest)) :
    rest.length ≤ input.length := by
  cases fmt with
  | fmt3 =>
    simp only [readMessageHeader] at h
    split at h
    · simp at h
    · obtain ⟨⟨delta, last⟩, hread, h⟩ := bind_eq_ok.mp h
      have hlength := readRepeated_length hread
      cases h
      exact hlength
  | _ =>
    obtain ⟨⟨buf, value, last⟩, hread, h⟩ := bind_eq_ok.mp h
    have hlength := readFields_length hread
    cases h
    exact hlength

theorem readData_length {cr cr' : ChunkReader}
    (h : cr.readData csid header input = .ok (result, cr', rest)) :
    rest.length ≤ input.length := by
  simp only [readData] at h
  split_ifs at h
  obtain ⟨⟨data, last⟩, hread, hdone⟩ := bind_eq_ok.mp h
  obtain ⟨rfl, -⟩ := readFull_eq_ok (mapError_eq_ok.mp hread)
  split at hdone
  all_goals
    cases hdone
    simp

theorem readChunk_length {cr cr' : ChunkReader} (h : cr.readChunk input = .ok (result, cr', rest)) :
    rest.length < input.length := by
  obtain ⟨⟨csid, fmt, first⟩, hbasic, h⟩ := bind_eq_ok.mp h
  obtain ⟨header, -, h⟩ := bind_eq_ok.mp h
  obtain ⟨⟨header', second⟩, hheader, h⟩ := bind_eq_ok.mp h
  have hone := readBasicHeader_length hbasic
  have htwo := readMessageHeader_length hheader
  have hthree := readData_length h
  omega

def readMessage (cr : ChunkReader) (input : Bytes) :
    Except ReadError (Message × ChunkReader × Bytes) :=
  match _h : cr.readChunk input with
  | .error error => .error error
  | .ok (some msg, cr', rest) => .ok (msg, cr', rest)
  | .ok (none, cr', rest) => cr'.readMessage rest
termination_by input.length
decreasing_by exact readChunk_length ‹_›

end ChunkReader

/-! ## Writing -/

structure ChunkWriter where
  chunkSize : ℕ
  deriving DecidableEq

def basicHeader (fmt : ChunkFmt) (csid : UInt32) : Bytes :=
  let bits := fmt.bits <<< 6
  if 2 ≤ csid ∧ csid ≤ 63 then [UInt8.ofNat (bits ||| csid.toNat)]
  else if 64 ≤ csid ∧ csid ≤ 319 then
    [UInt8.ofNat bits, UInt8.ofNat (csid - 64).toNat]
  else
    [UInt8.ofNat (bits ||| 1), byteOf (csid - 64).toNat 0, byteOf (csid - 64).toNat 8]

def timestampField (value : UInt32) : Bytes :=
  if 0xFFFFFF ≤ value then [0xFF, 0xFF, 0xFF] else be24Bytes value.toNat

/-- The extended field that follows when the three bytes are not enough. -/
def extendedField (value : UInt32) : Bytes :=
  if 0xFFFFFF ≤ value then be32Bytes value.toNat else []

def fullHeader (msg : Message) : Bytes :=
  timestampField msg.timestamp ++ be24Bytes msg.length.toNat ++ [msg.typeID] ++
    le32Bytes msg.streamID.toNat ++ extendedField msg.timestamp

namespace ChunkWriter

def setChunkSize (size : ℕ) (cw : ChunkWriter) : ChunkWriter :=
  { cw with chunkSize := size }

/-- The continuation chunks for the rest of a payload. -/
def continuations (csid timestamp : UInt32) (cw : ChunkWriter) (rest : Bytes) : Bytes :=
  if rest ≠ [] ∧ 0 < cw.chunkSize then
    basicHeader .fmt3 csid ++ extendedField timestamp ++ rest.take cw.chunkSize ++
        continuations csid timestamp cw (rest.drop cw.chunkSize)
  else []
termination_by rest.length
decreasing_by
  obtain ⟨hne, _⟩ := ‹rest ≠ [] ∧ 0 < cw.chunkSize›
  have hlength := List.length_pos_of_ne_nil hne
  rw [List.length_drop]
  omega

/-- The bytes of a message; none when the chunk size is zero, where the
source divides by it. -/
def writeMessage (csid : UInt32) (msg : Message) (cw : ChunkWriter) : Option Bytes :=
  if cw.chunkSize = 0 then none
  else
    some (basicHeader .fmt0 csid ++ fullHeader msg ++ msg.payload.take cw.chunkSize ++
        continuations csid msg.timestamp cw (msg.payload.drop cw.chunkSize))

end ChunkWriter

end LiveForge.Rtmp
