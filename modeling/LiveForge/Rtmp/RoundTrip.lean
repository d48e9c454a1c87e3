import LiveForge.Rtmp.Decode

/-!
# What the writer writes, the reader reads

The writer is one of the legal senders: a message goes out as a chunk of
format 0 and continuation chunks, in the shortest form of the basic header.
The reader therefore returns what was written.
-/

namespace LiveForge.Rtmp

open Support ChunkWriter BasicForm Sender

/-! ## Schedules one after the other -/

variable {s s' t : Sender} {a : SendAction} {actions later : List SendAction}
  {more first bytes : Bytes} {csid : UInt32} {c : ChunkContext} {result : Option Message}

theorem send_of_step {later : List Message} (hstep : s.step a = some (s', first, result))
    (hsend : s'.send actions = some (t, more, later)) :
    s.send (a :: actions) = some (t, first ++ more, result.toList ++ later) := by
  simp [send, hstep, hsend]

theorem calls_of_step (hchunk : a.readStep = .chunk) (hstep : s.step a = some (s', first, result))
    (waiting : Bool) (actions : List SendAction) :
    s.calls waiting (a :: actions) =
      match result with
      | none => s'.calls true actions
      | some _ => (s'.calls false actions).map fun calls =>
        .readMessage :: calls := by
  cases a with
  | setChunkSize size => simp [SendAction.readStep] at hchunk
  | _ => cases result <;> simp [Sender.calls, hstep]

theorem send_append {messages following : List Message}
    (hfirst : s.send actions = some (s', bytes, messages))
    (hsecond : s'.send later = some (t, more, following)) :
    s.send (actions ++ later) = some (t, bytes ++ more, messages ++ following) := by
  induction actions generalizing s bytes messages with
  | nil =>
    cases hfirst
    exact hsecond
  | cons a actions ih =>
    obtain ⟨middle, first, result, rest, others, hstep, hsend, rfl, rfl⟩ := send_cons hfirst
    rw [List.cons_append, send_of_step hstep (ih hsend), List.append_assoc, List.append_assoc]

theorem calls_append {waiting : Bool} {messages : List Message} {calls following : List ReadCall}
    (hsend : s.send actions = some (s', bytes, messages))
    (hfirst : s.calls waiting actions = some calls)
    (hsecond : s'.calls false later = some following) :
    s.calls waiting (actions ++ later) = some (calls ++ following) := by
  induction actions generalizing s waiting bytes messages calls with
  | nil =>
    cases hsend
    simp only [Sender.calls, Option.ite_none_left_eq_some, Bool.not_eq_true,
      Option.some.injEq] at hfirst
    obtain ⟨rfl, rfl⟩ := hfirst
    exact hsecond
  | cons a actions ih =>
    obtain ⟨middle, first, result, rest, others, hstep, hrest, -, -⟩ := send_cons hsend
    by_cases hchunk : a.readStep = .chunk
    · rw [calls_of_step hchunk hstep] at hfirst
      rw [List.cons_append, calls_of_step hchunk hstep]
      cases result with
      | none => exact ih hrest hfirst
      | some msg =>
        obtain ⟨others, hothers, rfl⟩ := Option.map_eq_some_iff.mp hfirst
        simp [ih hrest hothers]
    · cases a with
      | setChunkSize size =>
        simp only [Sender.calls, Option.ite_none_left_eq_some, Bool.not_eq_true, hstep] at hfirst
        obtain ⟨rfl, hfirst⟩ := hfirst
        obtain ⟨others, hothers, rfl⟩ := Option.map_eq_some_iff.mp hfirst
        simp [Sender.calls, hstep, ih hrest hothers]
      | _ => exact absurd rfl hchunk

/-! ## One message -/

/-- The form of the basic header that the writer uses. -/
def writerForm (csid : UInt32) : BasicForm :=
  if csid ≤ 63 then .oneByte else if csid ≤ 319 then .twoBytes else .threeBytes

theorem writerForm_fits (hlow : 2 ≤ csid) (hhigh : csid ≤ 65599) :
    (writerForm csid).fits csid = true := by
  unfold writerForm
  split
  next hsmall => simp [fits, hlow, hsmall]
  next hlarge =>
    have hge : 64 ≤ csid := by
      rw [UInt32.le_iff_toNat_le] at hlarge ⊢
      simp at hlarge ⊢
      omega
    split
    next hmiddle => simp [fits, hge, hmiddle]
    · simp [fits, hge, hhigh]

theorem basicHeader_eq (hlow : 2 ≤ csid) (fmt : ChunkFmt) :
    basicHeader fmt csid = (writerForm csid).bytes fmt csid := by
  have hbits : ∀ {low : ℕ}, low < 64 → fmt.bits <<< 6 ||| low = fmt.bits * 64 + low := by
    intro low hlow
    rw [← Nat.shiftLeft_add_eq_or_of_lt hlow, Nat.shiftLeft_eq]
  have hzero : fmt.bits <<< 6 = fmt.bits * 64 := Nat.shiftLeft_eq _ _
  have hsub : ∀ h : 64 ≤ csid, (csid - 64).toNat = csid.toNat - 64 :=
    fun h => UInt32.toNat_sub_of_le _ _ h
  unfold basicHeader writerForm
  by_cases hsmall : csid ≤ 63
  · have hlt : csid.toNat < 64 := by
      exact Nat.lt_succ_of_le hsmall
    simp [hlow, hsmall, hbits hlt, bytes]
  · have hge : 64 ≤ csid := by
      rw [UInt32.le_iff_toNat_le] at hsmall ⊢
      simp at hsmall ⊢
      omega
    by_cases hmiddle : csid ≤ 319
    · simp [hsmall, hge, hmiddle, hzero, bytes]
    · simp only [hsmall, and_false, if_false, hmiddle, hbits (by decide : 1 < 64), hsub hge, bytes]
      have hbyte : ∀ shift x, x % 256 = (csid.toNat - 64) / 2 ^ shift % 256 →
          byteOf (csid.toNat - 64) shift = UInt8.ofNat x := by
        intro shift x hx
        refine UInt8.toNat_inj.mp ?_
        rw [toNat_byteOf, UInt8.toNat_ofNat', ← hx]
      rw [hbyte 0 ((csid.toNat - 64) % 256) (by simp), hbyte 8 ((csid.toNat - 64) / 256) rfl]

def Sender.Idle (s : Sender) : Prop := ∀ csid, s.mayStart csid = true

/-- What sending one message comes to: the bytes and nothing else, for one
call of `ReadMessage`, and nothing left unfinished. -/
structure SendsMessage (s : Sender) (waiting : Bool) (bytes : Bytes)
    (msg : Message) (actions : List SendAction) (s' : Sender) : Prop where
  send : s.send actions = some (s', bytes, [msg])
  calls : s.calls waiting actions = some [.readMessage]
  chunkSize : s'.chunkSize = s.chunkSize
  idle : s'.Idle

theorem mayStart_sendData {header : Bytes} (hidle : ∀ k, k ≠ csid → s.mayStart k = true)
    (hfinished : (c.advance s.chunkSize).unfinished = false) :
    (s.sendData csid c header).1.Idle := by
  intro k
  by_cases hk : k = csid
  · simp [mayStart, sendData, hk, hfinished]
  · have hbefore := hidle k hk
    simpa [mayStart, sendData, hk] using hbefore

theorem sendsMessage_of_step {header : Bytes} {waiting : Bool} (hchunk : a.readStep = .chunk)
    (hstep : s.step a = some (s.sendData csid c header))
    (hidle : ∀ k, k ≠ csid → s.mayStart k = true)
    (hdone : (c.advance s.chunkSize).unfinished = false → more = [])
    (hrest : (c.advance s.chunkSize).unfinished = true → ∃ actions s', SendsMessage
      (s.sendData csid c header).1 true more c.message.message actions s') :
    ∃ actions s', SendsMessage s waiting
      (header ++ (c.payload.drop c.sent).take s.chunkSize ++ more) c.message.message actions
      s' := by
  cases hunfinished : (c.advance s.chunkSize).unfinished with
  | false =>
    have hresult : s.step a = some ((s.sendData csid c header).1,
        header ++ (c.payload.drop c.sent).take s.chunkSize,
          some c.message.message) := by
      rw [hstep]
      simp [sendData, hunfinished]
    refine ⟨[a], (s.sendData csid c header).1, ?_, ?_, rfl, mayStart_sendData hidle hunfinished⟩
    · rw [hdone hunfinished]
      exact send_of_step hresult rfl
    · rw [calls_of_step hchunk hresult]
      rfl
  | true =>
    obtain ⟨actions, s', hsends⟩ := hrest hunfinished
    have hresult : s.step a = some ((s.sendData csid c header).1,
        header ++ (c.payload.drop c.sent).take s.chunkSize, none) := by
      rw [hstep]
      simp [sendData, hunfinished]
    refine ⟨a :: actions, s', ?_, ?_, hsends.chunkSize, hsends.idle⟩
    · exact send_of_step hresult hsends.send
    · rw [calls_of_step hchunk hresult]
      exact hsends.calls

theorem continuations_of_finished {size : ℕ}
    (hfinished : (c.advance size).unfinished = false) (csid field : UInt32) (cw : ChunkWriter) :
    cw.continuations csid field (c.payload.drop (c.sent + size)) = [] := by
  rw [advance_unfinished, decide_eq_false_iff_not] at hfinished
  rw [List.drop_eq_nil_of_le (Nat.le_of_not_lt hfinished), continuations]
  simp

/-- A chunk and the continuation chunks for the rest of its message.  The
induction is on the number of bytes left; every chunk takes at least one. -/
theorem sends_chunks (hlow : 2 ≤ csid) (hhigh : csid ≤ 65599) (n : ℕ) {s : Sender}
    {c : ChunkContext} {header : Bytes} {a : SendAction} {waiting : Bool}
    (hchunk : a.readStep = .chunk) (hstep : s.step a = some (s.sendData csid c header))
    (hsize : 0 < s.chunkSize) (hleft : c.payload.length - c.sent ≤ n)
    (hidle : ∀ k, k ≠ csid → s.mayStart k = true) :
    ∃ actions s', SendsMessage s waiting
      (header ++ (c.payload.drop c.sent).take s.chunkSize ++
        continuations csid c.field ⟨s.chunkSize⟩ (c.payload.drop (c.sent + s.chunkSize)))
      c.message.message actions s' := by
  induction n generalizing s c header a waiting with
  | zero =>
    refine sendsMessage_of_step hchunk hstep hidle
      (fun hfinished => continuations_of_finished hfinished _ _ _) ?_
    intro hactive
    rw [advance_unfinished, decide_eq_true_eq] at hactive
    omega
  | succ n ih =>
    refine sendsMessage_of_step hchunk hstep hidle
      (fun hfinished => continuations_of_finished hfinished _ _ _) ?_
    intro hactive
    have hmore := hactive
    rw [advance_unfinished, decide_eq_true_eq] at hmore
    have hsent : (c.advance s.chunkSize).sent = c.sent + s.chunkSize := Nat.min_eq_left hmore.le
    have hne : c.payload.drop (c.sent + s.chunkSize) ≠ [] := by
      rw [Ne, List.drop_eq_nil_iff]
      omega
    have hresume : (s.sendData csid c header).1.step (.resume csid (writerForm csid)) =
          some ((s.sendData csid c header).1.sendData csid
            (c.advance s.chunkSize) ((writerForm csid).bytes .fmt3 csid ++
              extendedField c.field)) := by
      simp [Sender.step, sendData, writerForm_fits hlow hhigh, hactive]
      rfl
    have hnext := @ih _ _ _ _ true rfl hresume hsize
      (by
        rw [hsent]
        change c.payload.length - (c.sent + s.chunkSize) ≤ n
        omega)
      (by
        intro k hk
        simpa [mayStart, sendData, hk] using hidle k hk)
    rw [hsent] at hnext
    rw [continuations, if_pos ⟨hne, hsize⟩, basicHeader_eq hlow, List.drop_drop]
    exact hnext

/-- `WriteMessage` is a legal way to send a message. -/
theorem sends_writeMessage (hlow : 2 ≤ csid) (hhigh : csid ≤ 65599)
    (hidle : s.Idle) (hsize : 0 < s.chunkSize) (m : OutMessage) :
    ∃ bytes actions s', writeMessage csid m.message ⟨s.chunkSize⟩ = some bytes ∧
      SendsMessage s false bytes m.message actions s' := by
  have hstep : s.step (.start csid (writerForm csid) .fmt0 m) =
      some (s.sendData csid ⟨m, m.message.timestamp, false, 0, Nat.zero_le _⟩
        ((writerForm csid).bytes .fmt0 csid ++ fullHeader m.message)) := by
    simp [Sender.step, writerForm_fits hlow hhigh, hidle csid, startHeader]
  obtain ⟨actions, s', hsends⟩ := @sends_chunks csid hlow hhigh _ s _ _ _ false
    rfl hstep hsize le_rfl fun k _ => hidle k
  refine ⟨_, actions, s', ?_, hsends⟩
  rw [writeMessage, if_neg (by simpa using hsize.ne'), basicHeader_eq hlow]
  simp [ChunkContext.payload]

/-! ## Lists of calls -/

inductive WriteCall where
  | setChunkSize (size : ℕ)
  | writeMessage (csid : UInt32) (message : OutMessage)

namespace WriteCall

/-- Chunk sizes are positive and chunk stream identifiers have a form. -/
def Legal : WriteCall → Prop
  | setChunkSize size => 1 ≤ size
  | writeMessage csid _ => 2 ≤ csid ∧ csid ≤ 65599

instance (call : WriteCall) : Decidable call.Legal := by
  cases call <;> unfold Legal <;> infer_instance

/-- The call of the reader at the same message boundary. -/
def readCall : WriteCall → ReadCall
  | setChunkSize size => .setChunkSize size
  | writeMessage _ _ => .readMessage

def message? : WriteCall → Option Message
  | setChunkSize _ => none
  | writeMessage _ m => some m.message

end WriteCall

def ChunkWriter.write (cw : ChunkWriter) : List WriteCall → Option Bytes
  | [] => some []
  | .setChunkSize size :: calls => (cw.setChunkSize size).write calls
  | .writeMessage csid m :: calls =>
    (cw.writeMessage csid m.message).bind fun bytes =>
      (cw.write calls).map fun more => bytes ++ more

theorem sends_write {s : Sender} (hidle : s.Idle) (hsize : 0 < s.chunkSize)
    {calls : List WriteCall} (hlegal : ∀ call ∈ calls, call.Legal) :
    ∃ bytes actions t, (⟨s.chunkSize⟩ : ChunkWriter).write calls = some bytes ∧
      s.send actions = some (t, bytes, calls.filterMap WriteCall.message?) ∧
        s.calls false actions = some (calls.map WriteCall.readCall) := by
  induction calls generalizing s with
  | nil => exact ⟨[], [], s, rfl, rfl, rfl⟩
  | cons call calls ih =>
    have hfirst := hlegal call List.mem_cons_self
    have hrest : ∀ call ∈ calls, call.Legal :=
      fun call hcall => hlegal call (List.mem_cons_of_mem _ hcall)
    cases call with
    | setChunkSize size =>
      have hstep : s.step (.setChunkSize size) = some ({ s with chunkSize := size }, [], none) := by
        rw [Sender.step, if_pos (Nat.lt_of_succ_le hfirst)]
      obtain ⟨bytes, actions, t, hwrite, hsend, hcalls⟩ :=
        @ih { s with chunkSize := size } hidle hfirst hrest
      refine ⟨bytes, .setChunkSize size :: actions, t, hwrite, send_of_step hstep hsend, ?_⟩
      simp [Sender.calls, hstep, hcalls, WriteCall.readCall]
    | writeMessage csid m =>
      obtain ⟨first, actions, s', hwrite, hsends⟩ :=
        sends_writeMessage hfirst.1 hfirst.2 hidle hsize m
      obtain ⟨bytes, later, t, hlater, hsend, hcalls⟩ :=
        @ih s' hsends.idle (by rw [hsends.chunkSize]; exact hsize) hrest
      rw [hsends.chunkSize] at hlater
      refine ⟨first ++ bytes, actions ++ later, t, ?_, send_append hsends.send hsend,
        calls_append hsends.send hsends.calls hcalls⟩
      rw [write, hwrite, Option.bind_some, hlater, Option.map_some]

/-- Reading what was written returns the messages in order and takes exactly
the bytes written, with the chunk size set on both sides at the same message
boundaries. -/
theorem write_read_messages {chunkSize : ℕ} (hsize : 1 ≤ chunkSize) {calls : List WriteCall}
    (hlegal : ∀ call ∈ calls, call.Legal) (rest : Bytes) :
    ∃ bytes cr, (⟨chunkSize⟩ : ChunkWriter).write calls = some bytes ∧
      (newChunkReader chunkSize).serve (bytes ++ rest) (calls.map WriteCall.readCall) =
        .ok (calls.filterMap WriteCall.message?, cr, rest) := by
  obtain ⟨bytes, actions, t, hwrite, hsend, hcalls⟩ :=
    @sends_write (newSender chunkSize) (fun _ => rfl) hsize calls hlegal
  exact ⟨bytes, t.reader, hwrite, serve_send hsend hcalls rest⟩

/-- Three chunk sizes, two chunk streams and an extended timestamp. -/
theorem write_read_messages_resized :
    ∃ bytes cr, (⟨128⟩ : ChunkWriter).write
      [.writeMessage 3 lateVideo, .setChunkSize 1, .writeMessage 65599 lateVideo, .setChunkSize 2,
        .writeMessage 319 (shortAudio 5 7)] = some bytes ∧
      (newChunkReader 128).serve (bytes ++ [0xFF])
        [.readMessage, .setChunkSize 1, .readMessage, .setChunkSize 2, .readMessage] =
        .ok ([lateVideo.message, lateVideo.message, (shortAudio 5 7).message], cr, [0xFF]) :=
  write_read_messages (by decide) (by decide) [0xFF]

end LiveForge.Rtmp
