import LiveForge.Rtmp.Sender

/-!
# The reader decodes every legal chunk stream

The state of the reader is a function of the state of the sender: the headers
are those of the last messages, the buffers hold what is sent of the unfinished
ones.  Each action of a legal sender takes the reader from the image of one
sender state to the image of the next one.
-/

namespace LiveForge.Rtmp

open Support ChunkReader BasicForm Sender

/-! ## Fields -/

theorem readInput_append {n : ℕ} {data : Bytes} (hlength : data.length = n) (rest : Bytes) :
    readInput n (data ++ rest) = .ok (data, rest) := by
  rw [readInput, readFull_append hlength]
  rfl

theorem readInput_one (b : UInt8) (rest : Bytes) : readInput 1 (b :: rest) = .ok ([b], rest) :=
  @readInput_append 1 [b] rfl rest

theorem firstByte_halves (fmt : ChunkFmt) {low : ℕ} (hlow : low < 64) :
    ChunkFmt.ofBits ((UInt8.ofNat (fmt.bits * 64 + low)).toNat >>> 6 &&& 0x03) =
        fmt ∧ (UInt8.ofNat (fmt.bits * 64 + low)).toNat &&& 0x3F = low := by
  have hfmt : fmt.bits < 4 := by cases fmt <;> decide
  have hbyte : (UInt8.ofNat (fmt.bits * 64 + low)).toNat = fmt.bits * 64 + low := by
    rw [UInt8.toNat_ofNat']
    omega
  have hhigh : (fmt.bits * 64 + low) >>> 6 &&& 0x03 = fmt.bits := by
    rw [show 0x03 = 2 ^ 2 - 1 from rfl, Nat.and_two_pow_sub_one_eq_mod]
    omega
  constructor
  · rw [hbyte, hhigh]
    cases fmt <;> rfl
  · rw [show 0x3F = 2 ^ 6 - 1 from rfl, Nat.and_two_pow_sub_one_eq_mod]
    omega

variable {form : BasicForm} {csid delta field : UInt32} {c : ChunkContext} {fmt : ChunkFmt}
  {s t : Sender} {a : SendAction} {bytes : Bytes} {actions : List SendAction}
  {messages : List Message} {result : Option Message} {m : OutMessage} {relative waiting : Bool}

theorem readBasicHeader_bytes (hfits : form.fits csid = true) (fmt : ChunkFmt) (rest : Bytes) :
    readBasicHeader (form.bytes fmt csid ++ rest) = .ok (csid, fmt, rest) := by
  cases form with simp only [fits, decide_eq_true_eq] at hfits
  | oneByte =>
    obtain ⟨hlow, hhigh⟩ := hfits
    have hlt : csid.toNat < 64 := Nat.lt_succ_of_le hhigh
    have hge : 2 ≤ csid.toNat := hlow
    obtain ⟨hfmt, hcsid⟩ := firstByte_halves fmt hlt
    rw [readBasicHeader, bytes, List.singleton_append, readInput_one, ok_bind]
    simp only [List.getD_cons_zero, hfmt, hcsid]
    rw [if_neg (by omega), if_neg (by omega), UInt32.ofNat_toNat]
    rfl
  | twoBytes =>
    obtain ⟨hlow, hhigh⟩ := hfits
    have hge : 64 ≤ csid.toNat := hlow
    have hle : csid.toNat ≤ 319 := hhigh
    obtain ⟨hfmt, hcsid⟩ := firstByte_halves fmt (by decide : 0 < 64)
    have hvalue : (UInt8.ofNat (csid.toNat - 64)).toUInt32 + 64 = csid := by
      refine UInt32.toNat_inj.mp ?_
      simp
      omega
    rw [readBasicHeader, bytes, List.cons_append, readInput_one, ok_bind]
    simp only [Nat.add_zero] at hfmt hcsid
    simp only [List.getD_cons_zero, hfmt, hcsid]
    rw [List.singleton_append, readInput_one, ok_bind]
    simp only [List.getD_cons_zero, hvalue]
    rfl
  | threeBytes =>
    obtain ⟨hlow, hhigh⟩ := hfits
    have hge : 64 ≤ csid.toNat := hlow
    have hle : csid.toNat ≤ 65599 := hhigh
    obtain ⟨hfmt, hcsid⟩ := firstByte_halves fmt (by decide : 1 < 64)
    have hvalue : (UInt8.ofNat ((csid.toNat - 64) / 256)).toUInt32 * 256 +
        (UInt8.ofNat ((csid.toNat - 64) % 256)).toUInt32 + 64 = csid := by
      refine UInt32.toNat_inj.mp ?_
      simp
      omega
    rw [readBasicHeader, bytes, List.cons_append, readInput_one, ok_bind]
    simp only [List.getD_cons_zero, hfmt, hcsid]
    rw [@readInput_append 2 [_, _] rfl, ok_bind]
    simp only [List.getD_cons_zero, List.getD_cons_succ, hvalue]
    rfl

theorem timestampField_length (value : UInt32) : (timestampField value).length = 3 := by
  unfold timestampField
  split <;> rfl

theorem be24At_timestampField (value : UInt32) (more : Bytes) :
    be24At (timestampField value ++ more) 0 =
      if 0xFFFFFF ≤ value then 0xFFFFFF else value.toNat := by
  unfold timestampField
  split
  · simp [be24At, be24_eq]
  next hsmall =>
    have hlt : value.toNat < 2 ^ 24 := by
      have hle := UInt32.not_le.mp hsmall
      exact hle.trans (by decide)
    have hmod : value.toNat % 2 ^ 24 = value.toNat := Nat.mod_eq_of_lt hlt
    simpa [be24At, be24Bytes, be24_byteOf] using hmod

theorem readTimestamp_field (value : UInt32) (rest : Bytes) :
    readTimestamp (if 0xFFFFFF ≤ value then 0xFFFFFF else value.toNat)
      (extendedField value ++ rest) = .ok (value, rest) := by
  unfold extendedField readTimestamp
  by_cases hlarge : 0xFFFFFF ≤ value
  · have hvalue := be32_byteOf value.toNat
    have hlength : (be32Bytes value.toNat).length = 4 := rfl
    rw [if_pos hlarge, if_pos hlarge, readInput_append hlength, ok_bind]
    simp [be32Bytes, hvalue, pure, Except.pure]
  · rw [if_neg hlarge, if_neg hlarge, if_neg, List.nil_append, UInt32.ofNat_toNat]
    intro heq
    refine hlarge ?_
    rw [UInt32.le_iff_toNat_le, heq]
    decide

theorem readFields_field {n : ℕ} (value : UInt32) (fixed : Bytes) (hlength : 3 + fixed.length = n)
    (rest : Bytes) :
    readFields n (timestampField value ++ fixed ++ extendedField value ++ rest) =
      .ok (timestampField value ++ fixed, value, rest) := by
  have hread : (timestampField value ++ fixed).length = n := by
    rw [List.length_append, timestampField_length, hlength]
  rw [readFields, List.append_assoc _ _ rest, readInput_append hread, ok_bind]
  simp only [be24At_timestampField]
  rw [readTimestamp_field]
  rfl

theorem beq_timestampField (value : UInt32) (more : Bytes) :
    (be24At (timestampField value ++ more) 0 == 0xFFFFFF) = decide (0xFFFFFF ≤ value) := by
  rw [be24At_timestampField]
  by_cases hlarge : 0xFFFFFF ≤ value
  · simp [hlarge]
  · have hne : value.toNat ≠ 0xFFFFFF := by
      intro heq
      refine hlarge ?_
      rw [UInt32.le_iff_toNat_le, heq]
      decide
    simp [hlarge, hne]

/-! ## The reader that a sender has in mind -/

def ChunkContext.header (c : ChunkContext) : ChunkHeader :=
  { timestamp := c.message.message.timestamp
    timestampDelta := c.delta
    length := c.message.message.length
    typeID := c.message.message.typeID
    streamID := c.message.message.streamID
    hasExtendedTimestamp := decide (0xFFFFFF ≤ c.field)
    timestampDeltaIsRelative := c.relative
    initialized := true
    messageActive := c.unfinished }

def ChunkContext.buffer (c : ChunkContext) : Bytes :=
  if c.unfinished then c.payload.take c.sent else []

def Sender.reader (s : Sender) : ChunkReader :=
  { chunkSize := s.chunkSize
    headers := fun csid => (s.contexts csid).map ChunkContext.header
    buffers := fun csid => (s.contexts csid).elim [] ChunkContext.buffer }

/-! ## Headers -/

theorem exists_timestampField (value : UInt32) : ∃ a b c, timestampField value = [a, b, c] :=
  List.length_eq_three.mp (timestampField_length value)

theorem fixedFields (value : UInt32) (m : OutMessage) (more : Bytes) :
    UInt32.ofNat (be24At (timestampField value ++
        (be24Bytes m.message.length.toNat ++ [m.message.typeID] ++ more)) 3) =
      m.message.length ∧ (timestampField value ++
        (be24Bytes m.message.length.toNat ++ [m.message.typeID] ++ more)).getD
      6 0 = m.message.typeID := by
  obtain ⟨a, b, c, hfield⟩ := exists_timestampField value
  have hlt : m.message.length.toNat < 2 ^ 24 := by
    rw [m.length_eq]
    exact m.short
  rw [hfield]
  refine ⟨?_, rfl⟩
  simp only [be24At, be24Bytes, List.cons_append, List.nil_append,
    List.getD_cons_succ, List.getD_cons_zero]
  rw [be24_byteOf, Nat.mod_eq_of_lt hlt, UInt32.ofNat_toNat]

theorem streamIDField (value : UInt32) (m : OutMessage) :
    let buf := timestampField value ++ (be24Bytes m.message.length.toNat ++
      [m.message.typeID] ++ le32Bytes m.message.streamID.toNat)
    UInt32.ofNat (le32 (buf.getD 7 0) (buf.getD 8 0) (buf.getD 9 0)
      (buf.getD 10 0)) = m.message.streamID := by
  obtain ⟨a, b, c, hfield⟩ := exists_timestampField value
  have hvalue := be32_byteOf m.message.streamID.toNat
  rw [hfield]
  simp [be24Bytes, le32Bytes, le32, hvalue]

def announced (m : OutMessage) (field : UInt32) (relative : Bool) : ChunkHeader :=
  { timestamp := m.message.timestamp
    timestampDelta := if relative then field else 0
    length := m.message.length
    typeID := m.message.typeID
    streamID := m.message.streamID
    hasExtendedTimestamp := decide (0xFFFFFF ≤ field)
    timestampDeltaIsRelative := relative
    initialized := true
    messageActive := false }

theorem readMessageHeader_fmt0 (m : OutMessage) {h : ChunkHeader}
    (hidle : h.messageActive = false) (rest : Bytes) :
    readMessageHeader .fmt0 h false (fullHeader m.message ++ rest) =
      .ok (announced m m.message.timestamp false, rest) := by
  obtain ⟨hlength, htype⟩ := fixedFields m.message.timestamp m (le32Bytes m.message.streamID.toNat)
  have hstream := streamIDField m.message.timestamp m
  have hextended := beq_timestampField m.message.timestamp
    (be24Bytes m.message.length.toNat ++ [m.message.typeID] ++ le32Bytes m.message.streamID.toNat)
  have hread := @readFields_field 11 m.message.timestamp
    (be24Bytes m.message.length.toNat ++ [m.message.typeID] ++
      le32Bytes m.message.streamID.toNat) rfl rest
  rw [readMessageHeader, fullHeader, List.append_assoc (timestampField _),
    List.append_assoc (timestampField _), hread, ok_bind]
  simp only [hlength, htype, hstream, hextended, hidle]
  rfl

/-- Deltas add up modulo `2 ^ 32`. -/
theorem add_sub_self (a b : UInt32) : a + (b - a) = b := by
  rw [UInt32.add_comm, UInt32.sub_add_cancel]

theorem readMessageHeader_fmt1 (m : OutMessage) (hidle : c.unfinished = false)
    (hstream : m.message.streamID = c.message.message.streamID)
    (hdelta : c.message.message.timestamp + delta = m.message.timestamp) (rest : Bytes) :
    readMessageHeader .fmt1 c.header false (timestampField delta ++
        be24Bytes m.message.length.toNat ++ [m.message.typeID] ++
          extendedField delta ++ rest) = .ok (announced m delta true, rest) := by
  obtain ⟨hlength, htype⟩ := fixedFields delta m []
  rw [List.append_nil] at hlength htype
  have hextended := beq_timestampField delta
    (be24Bytes m.message.length.toNat ++ [m.message.typeID])
  have hread := @readFields_field 7 delta
    (be24Bytes m.message.length.toNat ++ [m.message.typeID]) rfl rest
  rw [readMessageHeader, List.append_assoc (timestampField _), hread, ok_bind]
  simp only [hlength, htype, hextended, ChunkHeader.withDelta]
  simp [announced, ChunkContext.header, hidle, hstream, hdelta, pure, Except.pure]

theorem readMessageHeader_fmt2 (m : OutMessage) (hidle : c.unfinished = false)
    (hstream : m.message.streamID = c.message.message.streamID)
    (hlength : m.message.length = c.message.message.length)
    (htype : m.message.typeID = c.message.message.typeID)
    (hdelta : c.message.message.timestamp + delta = m.message.timestamp) (rest : Bytes) :
    readMessageHeader .fmt2 c.header false (timestampField delta ++ extendedField delta ++ rest) =
      .ok (announced m delta true, rest) := by
  have hextended := beq_timestampField delta []
  have hread := @readFields_field 3 delta [] rfl rest
  rw [List.append_nil] at hextended hread
  rw [readMessageHeader, hread, ok_bind]
  simp only [hextended, ChunkHeader.withDelta]
  simp [announced, ChunkContext.header, hidle, hstream, hlength, htype, hdelta, pure, Except.pure]

/-- The repeated extended field is skipped or, as a delta, read again. -/
theorem readRepeated_header (c : ChunkContext) (continuation : Bool) (rest : Bytes) :
    readRepeated c.header continuation (extendedField c.field ++ rest) = .ok (c.delta, rest) := by
  have hfield := readTimestamp_field c.field rest
  unfold readRepeated
  by_cases hlarge : 0xFFFFFF ≤ c.field
  · rw [if_pos hlarge] at hfield
    rw [if_pos (by simp [ChunkContext.header, hlarge]), hfield, ok_bind]
    cases hrelative : c.relative <;> cases continuation <;>
      simp [ChunkContext.header, ChunkContext.delta, hrelative, pure, Except.pure]
  · rw [if_neg (by simp [ChunkContext.header, hlarge]), extendedField, if_neg hlarge]
    rfl

theorem readMessageHeader_fmt3 (c : ChunkContext) (continuation : Bool)
    (rest : Bytes) :
    readMessageHeader .fmt3 c.header continuation (extendedField c.field ++ rest) =
      .ok (if continuation then c.header
        else { c.header with timestamp := c.header.timestamp + c.delta }, rest) := by
  rw [readMessageHeader, readRepeated_header]
  rfl

/-- Every header that a sender may choose for a new message is understood. -/
theorem readMessageHeader_start {last : Option ChunkContext} {header : Bytes}
    (h : startHeader last fmt m.message = some (header, field, relative))
    (hlast : ∀ c, last = some c → c.unfinished = false) (rest : Bytes) :
    readMessageHeader fmt ((last.map ChunkContext.header).getD {}) false
      (header ++ rest) = .ok (announced m field relative, rest) := by
  cases last with
  | none =>
    cases fmt with
    | fmt0 =>
      cases h
      exact readMessageHeader_fmt0 m rfl rest
    | _ => simp [startHeader] at h
  | some c =>
    have hidle := hlast c rfl
    cases fmt with simp only [startHeader, Option.ite_none_right_eq_some] at h
    | fmt0 =>
      cases h
      exact readMessageHeader_fmt0 m hidle rest
    | fmt1 =>
      obtain ⟨hstream, rfl, rfl, rfl⟩ := h
      exact readMessageHeader_fmt1 m hidle hstream (add_sub_self _ _) rest
    | fmt2 =>
      obtain ⟨⟨hstream, hlength, htype⟩, rfl, rfl, rfl⟩ := h
      exact readMessageHeader_fmt2 m hidle hstream hlength htype (add_sub_self _ _) rest
    | fmt3 =>
      obtain ⟨⟨hstream, hlength, htype, htimestamp⟩, rfl, rfl, rfl⟩ := h
      refine (readMessageHeader_fmt3 c false rest).trans ?_
      simp [announced, ChunkContext.header, ChunkContext.delta, hidle,
        hstream, hlength, htype, htimestamp]

/-! ## Chunks -/

theorem advance_unfinished (c : ChunkContext) (size : ℕ) :
    (c.advance size).unfinished = decide (c.sent + size < c.payload.length) := by
  have hmin : min (c.sent + size) c.payload.length < c.payload.length ↔
      c.sent + size < c.payload.length := by omega
  exact decide_eq_decide.mpr hmin

theorem advance_header (c : ChunkContext) (size : ℕ) :
    (c.advance size).header = { c.header with messageActive := (c.advance size).unfinished } := rfl

theorem advance_buffer (c : ChunkContext) (size : ℕ) :
    (c.advance size).buffer =
      if (c.advance size).unfinished then c.payload.take (c.sent + size) else [] := by
  unfold ChunkContext.buffer
  split
  next hactive =>
    rw [advance_unfinished, decide_eq_true_eq] at hactive
    have hsent : (c.advance size).sent = c.sent + size := Nat.min_eq_left hactive.le
    rw [hsent]
    rfl
  · rfl

theorem reader_sendData (csid : UInt32) (c : ChunkContext) (header : Bytes)
    (s : Sender) :
    (s.sendData csid c header).1.reader = { s.reader with
        headers := Function.update s.reader.headers csid (some (c.advance s.chunkSize).header)
        buffers := Function.update s.reader.buffers csid
          (c.advance s.chunkSize).buffer } := by
  simp only [sendData, reader]
  congr 1
  · funext k
    by_cases hk : k = csid <;> simp [hk]
  · funext k
    by_cases hk : k = csid <;> simp [hk]

theorem readData_sendData {c : ChunkContext} {s : Sender}
    (hbuffer : s.reader.buffers csid = c.payload.take c.sent) (header rest : Bytes) :
    ∃ data, (s.sendData csid c header).2.1 = header ++ data ∧
      s.reader.readData csid { c.header with messageActive := true } (data ++ rest) =
        .ok ((s.sendData csid c header).2.2,
          (s.sendData csid c header).1.reader, rest) := by
  have hle : c.sent ≤ c.payload.length := c.sent_le
  have hlength : c.header.length.toNat = c.payload.length := c.message.length_eq
  have hbufferLength : (c.payload.take c.sent).length = c.sent := by
    rw [List.length_take, Nat.min_eq_left hle]
  have hdata : ((c.payload.drop c.sent).take s.chunkSize).length =
      min (c.payload.length - c.sent) s.reader.chunkSize := by
    rw [List.length_take, List.length_drop, Nat.min_comm]
    rfl
  have hjoined : c.payload.take c.sent ++ (c.payload.drop c.sent).take s.chunkSize =
        c.payload.take (c.sent + s.chunkSize) := List.take_add.symm
  refine ⟨(c.payload.drop c.sent).take s.chunkSize, rfl, ?_⟩
  rw [reader_sendData, advance_buffer, advance_header]
  simp only [readData, sendData, hbuffer, hlength, hbufferLength]
  rw [if_neg (by omega), readFull_append hdata]
  simp only [Except.mapError, ok_bind, hjoined, List.length_take]
  by_cases hcomplete : c.payload.length ≤ c.sent + s.chunkSize
  · have hfinished : (c.advance s.chunkSize).unfinished = false := by
      rw [advance_unfinished, decide_eq_false_iff_not]
      omega
    rw [if_pos (by omega), List.take_take, Nat.min_eq_left hcomplete, List.take_length, hfinished]
    rfl
  · have hactive : (c.advance s.chunkSize).unfinished = true := by
      rw [advance_unfinished, decide_eq_true_eq]
      omega
    rw [if_neg (by omega), hactive]
    rfl

theorem reader_buffers_of_mayStart (hmay : s.mayStart csid = true) :
    s.reader.buffers csid = [] := by
  unfold mayStart at hmay
  cases hcontext : s.contexts csid with
  | none => simp [reader, hcontext]
  | some c =>
    rw [hcontext] at hmay
    simp only [Bool.not_eq_true'] at hmay
    simp [reader, hcontext, ChunkContext.buffer, hmay]

theorem headerFor_start {msg : Message} {result : Bytes × UInt32 × Bool}
    (hmay : s.mayStart csid = true)
    (hheader : startHeader (s.contexts csid) fmt msg = some result) :
    s.reader.headerFor csid fmt = .ok (((s.contexts csid).map ChunkContext.header).getD {}) := by
  unfold mayStart at hmay
  cases hcontext : s.contexts csid with
  | none =>
    have hfmt : fmt = .fmt0 := by
      rw [hcontext] at hheader
      cases fmt <;> simp [startHeader] at hheader ⊢
    simp [headerFor, reader, hcontext, hfmt]
  | some c =>
    rw [hcontext] at hmay
    simp only [Bool.not_eq_true'] at hmay
    simp [headerFor, reader, hcontext, ChunkContext.header, hmay]

theorem readChunk_start {header : Bytes} (hfits : form.fits csid = true)
    (hmay : s.mayStart csid = true)
    (hheader : startHeader (s.contexts csid) fmt m.message = some (header, field, relative))
    (rest : Bytes) :
    let sent := s.sendData csid ⟨m, field, relative, 0, Nat.zero_le _⟩
      (form.bytes fmt csid ++ header)
    s.reader.readChunk (sent.2.1 ++ rest) = .ok (sent.2.2, sent.1.reader, rest) := by
  intro sent
  have hidle : ∀ c, s.contexts csid = some c → c.unfinished = false := by
    intro c hc
    simpa [mayStart, hc] using hmay
  have hactive : (((s.contexts csid).map ChunkContext.header).getD {}).messageActive = false := by
    cases hcontext : s.contexts csid with
    | none => rfl
    | some c => exact hidle c hcontext
  obtain ⟨data, hbytes, hdata⟩ := @readData_sendData csid ⟨m, field, relative, 0, Nat.zero_le _⟩ s
    (reader_buffers_of_mayStart hmay) (form.bytes fmt csid ++ header) rest
  rw [hbytes, List.append_assoc, List.append_assoc, readChunk, readBasicHeader_bytes hfits, ok_bind]
  simp only
  rw [headerFor_start hmay hheader, ok_bind, hactive, readMessageHeader_start hheader hidle]
  exact hdata

theorem readChunk_resume (hcontext : s.contexts csid = some c)
    (hfits : form.fits csid = true) (hunfinished : c.unfinished = true) (rest : Bytes) :
    let sent := s.sendData csid c (form.bytes .fmt3 csid ++ extendedField c.field)
    s.reader.readChunk (sent.2.1 ++ rest) = .ok (sent.2.2, sent.1.reader, rest) := by
  intro sent
  have hbuffer : s.reader.buffers csid = c.payload.take c.sent := by
    simp [reader, hcontext, ChunkContext.buffer, hunfinished]
  have hheader : s.reader.headerFor csid .fmt3 = .ok c.header := by
    simp [headerFor, reader, hcontext]
  have hactive : c.header.messageActive = true := hunfinished
  obtain ⟨data, hbytes, hdata⟩ := readData_sendData hbuffer
    (form.bytes .fmt3 csid ++ extendedField c.field) rest
  rw [hbytes, List.append_assoc, List.append_assoc, readChunk, readBasicHeader_bytes hfits, ok_bind]
  simp only
  rw [hheader, ok_bind, hactive, readMessageHeader_fmt3]
  exact hdata

/-! ## Runs -/

/-- A step of the reading side: somebody sets the chunk size, or the loop of
`ReadMessage` takes a turn. -/
inductive ReadStep where
  | setChunkSize (size : ℕ)
  | chunk
  deriving DecidableEq

def SendAction.readStep : SendAction → ReadStep
  | .setChunkSize size => .setChunkSize size
  | .start _ _ _ _ => .chunk
  | .resume _ _ => .chunk

/-- The messages that successive calls of `ReadMessage` return, turn by turn. -/
def ChunkReader.run (cr : ChunkReader) (input : Bytes) :
    List ReadStep → Except ReadError (List Message × ChunkReader × Bytes)
  | [] => .ok ([], cr, input)
  | .setChunkSize size :: steps => (cr.setChunkSize size).run input steps
  | .chunk :: steps => do
      let (result, cr', rest) ← cr.readChunk input
      let (messages, cr'', rest') ← cr'.run rest steps
      return (result.toList ++ messages, cr'', rest')

theorem step_cases {s' : Sender} (h : s.step a = some (s', bytes, result)) :
    (∃ size, a = .setChunkSize size ∧ bytes = [] ∧ result = none ∧
      s'.reader = s.reader.setChunkSize size) ∨
    (a.readStep = .chunk ∧ ∀ rest, s.reader.readChunk (bytes ++ rest) =
      .ok (result, s'.reader, rest)) := by
  cases a with
  | setChunkSize size =>
    simp only [step, Option.ite_none_right_eq_some] at h
    obtain ⟨-, rfl, rfl, rfl⟩ := h
    exact .inl ⟨size, rfl, rfl, rfl, rfl⟩
  | start csid form fmt m =>
    simp only [step, Option.ite_none_right_eq_some, Bool.and_eq_true] at h
    obtain ⟨⟨hfits, hmay⟩, h⟩ := h
    obtain ⟨⟨header, field, relative⟩, hheader, h⟩ := Option.map_eq_some_iff.mp h
    refine .inr ⟨rfl, ?_⟩
    intro rest
    have hread := readChunk_start hfits hmay hheader rest
    simp only [h] at hread
    exact hread
  | resume csid form =>
    simp only [step] at h
    split at h
    · simp at h
    next c hcontext =>
      simp only [Option.ite_none_right_eq_some, Bool.and_eq_true, Option.some.injEq] at h
      obtain ⟨⟨hfits, hunfinished⟩, h⟩ := h
      refine .inr ⟨rfl, ?_⟩
      intro rest
      have hread := readChunk_resume hcontext hfits hunfinished rest
      simp only [h] at hread
      exact hread

theorem send_cons (h : s.send (a :: actions) = some (t, bytes, messages)) :
    ∃ s' first result more later, s.step a = some (s', first, result) ∧
      s'.send actions = some (t, more, later) ∧ bytes = first ++ more ∧
      messages = result.toList ++ later := by
  obtain ⟨⟨s', first, result⟩, hstep, h⟩ := Option.bind_eq_some_iff.mp h
  obtain ⟨⟨t', more, later⟩, hsend, h⟩ := Option.map_eq_some_iff.mp h
  cases h
  exact ⟨s', first, result, more, later, hstep, hsend, rfl, rfl⟩

theorem run_send (h : s.send actions = some (t, bytes, messages)) (rest : Bytes) :
    s.reader.run (bytes ++ rest) (actions.map SendAction.readStep) =
      .ok (messages, t.reader, rest) := by
  induction actions generalizing s bytes messages with
  | nil =>
    cases h
    rfl
  | cons a actions ih =>
    obtain ⟨s', first, result, more, later, hstep, hsend, rfl, rfl⟩ := send_cons h
    have hrest := ih hsend
    rcases step_cases hstep with ⟨size, rfl, rfl, rfl, hreader⟩ | ⟨hchunk, hread⟩
    · rw [hreader] at hrest
      exact hrest
    · rw [List.map_cons, hchunk, run, List.append_assoc, hread, ok_bind]
      simp only
      rw [hrest]
      rfl

/-! ## Calls -/

inductive ReadCall where
  | setChunkSize (size : ℕ)
  | readMessage

/-- The messages that the calls of `ReadMessage` among these return. -/
def ChunkReader.serve (cr : ChunkReader) (input : Bytes) :
    List ReadCall → Except ReadError (List Message × ChunkReader × Bytes)
  | [] => .ok ([], cr, input)
  | .setChunkSize size :: calls => (cr.setChunkSize size).serve input calls
  | .readMessage :: calls => do
      let (msg, cr', rest) ← cr.readMessage input
      let (messages, cr'', rest') ← cr'.serve rest calls
      return (msg :: messages, cr'', rest')

/-- The calls that follow a schedule: one `ReadMessage` for each message, and
the chunk size set where the sender sets it.  There are none if the sender
sets it while `ReadMessage` waits for the rest of a message (`waiting`). -/
def Sender.calls (s : Sender) (waiting : Bool) : List SendAction → Option (List ReadCall)
  | [] => if waiting then none else some []
  | .setChunkSize size :: actions =>
    if waiting then none
    else
      (s.step (.setChunkSize size)).bind fun (s', _, _) =>
        (s'.calls false actions).map fun calls => .setChunkSize size :: calls
  | a :: actions =>
    (s.step a).bind fun (s', _, result) =>
      match result with
      | none => s'.calls true actions
      | some _ => (s'.calls false actions).map fun calls =>
        .readMessage :: calls

theorem readMessage_of_readChunk {cr cr' : ChunkReader} {input rest : Bytes}
    (h : cr.readChunk input = .ok (result, cr', rest)) :
    cr.readMessage input =
      match result with
      | none => cr'.readMessage rest
      | some msg => .ok (msg, cr', rest) := by
  rw [readMessage]
  split
  next error herror =>
    rw [h] at herror
    simp at herror
  next msg next later hsome =>
    rw [h] at hsome
    cases hsome
    rfl
  next next later hnone =>
    rw [h] at hnone
    cases hnone
    rfl

theorem calls_cons {calls : List ReadCall} (hchunk : a.readStep = .chunk)
    (h : s.calls waiting (a :: actions) = some calls) :
    ∃ s' bytes result, s.step a = some (s', bytes, result) ∧ (match result with
        | none => s'.calls true actions
        | some _ => (s'.calls false actions).map fun calls =>
          .readMessage :: calls) = some calls := by
  cases a with
  | setChunkSize size => simp [SendAction.readStep] at hchunk
  | _ =>
    obtain ⟨⟨s', bytes, result⟩, hstep, h⟩ := Option.bind_eq_some_iff.mp h
    exact ⟨s', bytes, result, hstep, h⟩

/-- While `ReadMessage` waits, the next call to return is this one. -/
theorem calls_waiting {calls : List ReadCall} (h : s.calls true actions = some calls) :
    ∃ later, calls = .readMessage :: later := by
  induction actions generalizing s with
  | nil => simp [Sender.calls] at h
  | cons a actions ih =>
    by_cases hchunk : a.readStep = .chunk
    · obtain ⟨s', bytes, result, -, h⟩ := calls_cons hchunk h
      cases result with
      | none => exact ih h
      | some msg =>
        obtain ⟨later, -, rfl⟩ := Option.map_eq_some_iff.mp h
        exact ⟨later, rfl⟩
    · cases a with
      | setChunkSize size => simp [Sender.calls] at h
      | _ => exact absurd rfl hchunk

theorem serve_send {calls : List ReadCall} (h : s.send actions = some (t, bytes, messages))
    (hcalls : s.calls waiting actions = some calls) (rest : Bytes) :
    s.reader.serve (bytes ++ rest) calls = .ok (messages, t.reader, rest) := by
  induction actions generalizing s waiting bytes messages calls with
  | nil =>
    cases h
    simp only [Sender.calls, Option.ite_none_left_eq_some, Option.some.injEq] at hcalls
    rw [← hcalls.2]
    rfl
  | cons a actions ih =>
    obtain ⟨s', first, result, more, later, hstep, hsend, rfl, rfl⟩ := send_cons h
    rcases step_cases hstep with ⟨size, rfl, rfl, rfl, hreader⟩ | ⟨hchunk, hread⟩
    · simp only [Sender.calls, Option.ite_none_left_eq_some, hstep] at hcalls
      obtain ⟨following, hfollowing, rfl⟩ := Option.map_eq_some_iff.mp hcalls.2
      have hrest := ih hsend hfollowing
      rw [hreader] at hrest
      exact hrest
    · obtain ⟨s'', bytes', result', hstep', hcalls⟩ := calls_cons hchunk hcalls
      rw [hstep] at hstep'
      cases hstep'
      have hmessage := readMessage_of_readChunk (hread (more ++ rest))
      rw [List.append_assoc]
      cases result with
      | none =>
        obtain ⟨following, rfl⟩ := calls_waiting hcalls
        have hrest := ih hsend hcalls
        rw [serve] at hrest ⊢
        rw [hmessage]
        exact hrest
      | some msg =>
        obtain ⟨following, hfollowing, rfl⟩ := Option.map_eq_some_iff.mp hcalls
        rw [serve, hmessage, ok_bind]
        simp only
        rw [ih hsend hfollowing]
        rfl

/-- The reader decodes every legal chunk stream: the messages come back in the
order of completion, each with its own header fields and payload, whatever
headers, interleaving and chunk sizes the sender chose.  First turn by turn,
with the chunk size changed anywhere between chunks; then call by call, with
the chunk size changed between calls of `ReadMessage`. -/
theorem reader_decodes_legal_stream {chunkSize : ℕ} {actions : List SendAction} {t : Sender}
    {bytes : Bytes} {messages : List Message}
    (hsend : (newSender chunkSize).send actions = some (t, bytes, messages)) (rest : Bytes) :
    (∃ cr, (newChunkReader chunkSize).run (bytes ++ rest) (actions.map SendAction.readStep) =
      .ok (messages, cr, rest)) ∧
    ∀ calls, (newSender chunkSize).calls false actions = some calls →
      ∃ cr, (newChunkReader chunkSize).serve (bytes ++ rest) calls = .ok (messages, cr, rest) := by
  refine ⟨⟨t.reader, run_send hsend rest⟩, ?_⟩
  intro calls hcalls
  exact ⟨t.reader, serve_send hsend hcalls rest⟩

/-! ## A stream with every kind of header -/

/-- A video message of three bytes behind an extended timestamp. -/
def lateVideo : OutMessage :=
  ⟨⟨9, 3, 0x01000000, 1, [1, 2, 3]⟩, rfl, by decide⟩

def shortAudio (timestamp : UInt32) (data : UInt8) : OutMessage :=
  ⟨⟨8, 1, timestamp, 1, [data]⟩, rfl, by simp⟩

/-- Audio is sent between the two chunks of a video message, and the chunk size
is changed in between; the timestamps of the audio wrap around. -/
def interleaved : List SendAction :=
  [.start 3 .oneByte .fmt0 lateVideo, .start 70 .threeBytes .fmt0 (shortAudio 0xFFFFFFFF 7),
    .setChunkSize 1,
    .resume 3 .oneByte,
    .start 70 .twoBytes .fmt1 (shortAudio 4 8),
    .start 70 .twoBytes .fmt3 (shortAudio 9 9),
    .start 3 .oneByte .fmt3 lateVideo,
    .start 70 .twoBytes .fmt2 (shortAudio 8 10),
    .resume 3 .oneByte, .resume 3 .oneByte]

theorem reader_decodes_legal_stream_interleaved :
    ∃ bytes cr, (newChunkReader 2).serve bytes
      [.readMessage, .setChunkSize 1, .readMessage, .readMessage, .readMessage, .readMessage,
        .readMessage] =
      .ok
        ([(shortAudio 0xFFFFFFFF 7).message, lateVideo.message, (shortAudio 4 8).message,
          (shortAudio 9 9).message, (shortAudio 8 10).message, lateVideo.message], cr, []) := by
  obtain ⟨cr, hserve⟩ :=
    (reader_decodes_legal_stream (rfl : (newSender 2).send interleaved = _) []).2 _ rfl
  exact ⟨_, cr, hserve⟩

end LiveForge.Rtmp
