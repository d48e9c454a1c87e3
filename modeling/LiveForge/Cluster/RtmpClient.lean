import LiveForge.Rtmp.RoundTrip
import LiveForge.Support.Run

/-!
# The RTMP relay client

`rtmpConn` of `module/cluster/rtmp_client.go`: the client announces a chunk size
for what it writes, sends commands and media, and waits for replies.  A chunk
size that the server announces for its own direction is given to the client's
writer as well.

Reading one AMF0 value is a parameter; what the client does with the values is
not.
-/

namespace LiveForge.Cluster

open Support Rtmp ChunkWriter

/-! ## Replies -/

inductive AMFValue where
  | string (s : String)
  | number (x : Float)
  | object (fields : String → Option AMFValue)
  | other

/-- The reader of the values of a payload that is not empty. -/
abbrev AMF0Values := Bytes → Option (List AMFValue)

def amf0Decode (values : AMF0Values) (payload : Bytes) : Option (List AMFValue) :=
  if payload = [] then some [] else values payload

/-- What a message means for `readResponses`. -/
inductive Reply where
  | again
  | done
  | failed (text : String)

def AMFValue.asString : AMFValue → Option String
  | .string s => some s
  | _ => none

def AMFValue.asNumber : AMFValue → Option Float
  | .number x => some x
  | _ => none

def fieldAt (vals : List AMFValue) (i : ℕ) (name : String) : Option String :=
  match vals[i]? with
  | some (.object fields) => (fields name).bind AMFValue.asString
  | _ => none

def containsText (text part : String) : Bool :=
  (text.splitOn part).length ≠ 1

def errorReply (vals : List AMFValue) : Reply :=
  .failed ("RTMP error: " ++ (fieldAt vals 3 "description").getD "unknown error")

def statusReply (vals : List AMFValue) : Reply :=
  match fieldAt vals 3 "code" with
  | none => .done
  | some code =>
    if containsText code "Failed" ∨ containsText code "Reject" then
      .failed ("RTMP status: " ++ code)
    else .done

def commandReply (targetTxnID : Float) (vals : List AMFValue) : Reply :=
  match vals with
  | first :: second :: _ =>
    let cmd := first.asString.getD ""
    if cmd = "_error" then errorReply vals
    else if cmd = "_result" ∧ second.asNumber.getD 0 == targetTxnID then .done
    else if cmd = "onStatus" then statusReply vals
    else .again
  | _ => .again

/-! ## The connection -/

def msgSetChunkSize : UInt8 := 1

def msgAMF0Command : UInt8 := 20

def initialChunkSize : ℕ := 128

def defaultChunkSize : ℕ := 4096

/-- The chunk reader and writer, what the server has sent and is not read yet,
and what the client has written.  `calls` is the client's own account: the
messages it sent and the chunk sizes it announced, in order. -/
structure RtmpConn where
  cr : ChunkReader
  cw : ChunkWriter
  input : Bytes
  sent : Bytes := []
  calls : List WriteCall := []

/-- A connection after the handshake, with everything the server will send. -/
def dialRTMP (input : Bytes) : RtmpConn where
  cr := newChunkReader initialChunkSize
  cw := ⟨initialChunkSize⟩
  input := input

inductive ClientError where
  | read (error : ReadError)
  | reply (text : String)
  | noResponse
  /-- `WriteMessage` divides by a chunk size of zero. -/
  | panicked

namespace RtmpConn

/-- A chunk size announced by the server: it is set for both directions. -/
def applyChunkSize (rc : RtmpConn) (payload : Bytes) : RtmpConn :=
  let size := be32 (payload.getD 0 0) (payload.getD 1 0) (payload.getD 2 0)
    (payload.getD 3 0)
  { rc with cr := rc.cr.setChunkSize size, cw := rc.cw.setChunkSize size }

def handle (values : AMF0Values) (targetTxnID : Float) (rc : RtmpConn)
    (msg : Message) : Reply × RtmpConn :=
  if msg.typeID = msgSetChunkSize then
    (.again, if 4 ≤ msg.payload.length then rc.applyChunkSize msg.payload else rc)
  else if msg.typeID = msgAMF0Command then
    (((amf0Decode values msg.payload).map (commandReply targetTxnID)).getD .again, rc)
  else (.again, rc)

/-- At most `n` messages more. -/
def readResponsesLoop (values : AMF0Values) (targetTxnID : Float) :
    ℕ → RtmpConn → Except ClientError RtmpConn
  | 0, _ => .error .noResponse
  | n + 1, rc =>
    match rc.cr.readMessage rc.input with
    | .error e => .error (.read e)
    | .ok (msg, cr, rest) =>
      let (reply, rc) := { rc with cr := cr, input := rest }.handle values
        targetTxnID msg
      match reply with
      | .again => readResponsesLoop values targetTxnID n rc
      | .done => .ok rc
      | .failed text => .error (.reply text)

def readResponses (values : AMF0Values) (targetTxnID : Float)
    (rc : RtmpConn) : Except ClientError RtmpConn :=
  rc.readResponsesLoop values targetTxnID 20

def send (rc : RtmpConn) (csid : UInt32) (m : OutMessage) : Except ClientError RtmpConn :=
  match rc.cw.writeMessage csid m.message with
  | none => .error .panicked
  | some bytes =>
    .ok { rc with
      sent := rc.sent ++ bytes
      calls := rc.calls ++ [.writeMessage csid m] }

def chunkSizeMessage (size : ℕ) : OutMessage where
  message := ⟨msgSetChunkSize, 4, 0, 0, be32Bytes size⟩
  length_eq := rfl
  short := by simp [be32Bytes]

def setChunkSize (rc : RtmpConn) (size : ℕ) : Except ClientError RtmpConn := do
  let rc ← rc.send 2 (chunkSizeMessage size)
  return { rc with
    cw := rc.cw.setChunkSize size
    calls := rc.calls ++ [.setChunkSize size] }

end RtmpConn

/-- The chunk streams the client sends commands and media on. -/
inductive ClientStream where
  | command
  | media
  | play

def ClientStream.csid : ClientStream → UInt32
  | .command => 3
  | .media => 6
  | .play => 8

inductive ClientAction where
  | setChunkSize
  | send (stream : ClientStream) (message : OutMessage)
  | readResponses (targetTxnID : Float)

def RtmpConn.step (values : AMF0Values) (rc : RtmpConn) :
    ClientAction → Except ClientError RtmpConn
  | .setChunkSize => rc.setChunkSize defaultChunkSize
  | .send stream m => rc.send stream.csid m
  | .readResponses targetTxnID => rc.readResponses values targetTxnID

/-- An error ends the session. -/
def RtmpConn.next (values : AMF0Values) (rc : RtmpConn) (a : ClientAction) : Option RtmpConn :=
  (rc.step values a).toOption

/-! ## A reader between chunks -/

/-- What a reader holds of unfinished messages: less than their length. -/
def Unfinished (cr : ChunkReader) : Prop :=
  ∀ csid, cr.buffers csid ≠ [] → ∃ header, cr.headers csid = some header ∧
    header.messageActive = true ∧ (cr.buffers csid).length < header.length.toNat

theorem unfinished_new (size : ℕ) : Unfinished (newChunkReader size) := by
  intro csid hne
  exact absurd rfl hne

theorem length_readMessageHeader_fmt3 {h header : ChunkHeader} {input rest : Bytes}
    (hread : readMessageHeader .fmt3 h true input = .ok (header, rest)) :
    header.length = h.length := by
  simp only [readMessageHeader] at hread
  split_ifs at hread
  obtain ⟨r, -, hdone⟩ := bind_eq_ok.mp hread
  simp only [pure, Except.pure, Except.ok.injEq, Prod.mk.injEq] at hdone
  rw [← hdone.1]

variable {csid : UInt32} {msg : Message}

section Chunks

variable {cr cr' : ChunkReader} {input rest : Bytes} {result : Option Message}
  {header : ChunkHeader}

/-- The data of a chunk: the message is complete or stays unfinished, and
nothing comes from a chunk size of zero. -/
theorem readData_spec (hcr : Unfinished cr) (hactive : header.messageActive = true)
    (hlength : cr.buffers csid ≠ [] → (cr.buffers csid).length < header.length.toNat)
    (hread : cr.readData csid header input = .ok (result, cr', rest)) :
    Unfinished cr' ∧ cr'.chunkSize = cr.chunkSize ∧
      (cr.chunkSize = 0 → ∀ msg ∈ result, msg.payload = []) := by
  unfold ChunkReader.readData at hread
  dsimp only at hread
  split_ifs at hread with hfits
  obtain ⟨⟨data, after⟩, hdata, hdone⟩ := bind_eq_ok.mp hread
  dsimp only at hdone
  split at hdone
  next hcomplete =>
    cases hdone
    refine ⟨?_, rfl, ?_⟩
    · intro k hne
      by_cases hk : k = csid
      · subst hk
        simp at hne
      · simp only [Function.update_of_ne hk] at hne ⊢
        exact hcr k hne
    · intro hzero msg hmsg
      cases hmsg
      have hempty := (readFull_eq_ok (mapError_eq_ok.mp hdata)).2
      rw [hzero, Nat.min_zero, List.length_eq_zero_iff] at hempty
      subst hempty
      rw [List.append_nil] at hcomplete ⊢
      have hbuffer : cr.buffers csid = [] := by
        by_contra hne
        have := hlength hne
        omega
      rw [hbuffer, List.take_nil]
  next hpartial =>
    cases hdone
    refine ⟨?_, rfl, by simp⟩
    intro k hne
    by_cases hk : k = csid
    · subst hk
      simp only [Function.update_self]
      exact ⟨header, rfl, hactive, by omega⟩
    · simp only [Function.update_of_ne hk] at hne ⊢
      exact hcr k hne

theorem readChunk_spec (hcr : Unfinished cr)
    (hread : cr.readChunk input = .ok (result, cr', rest)) :
    Unfinished cr' ∧ cr'.chunkSize = cr.chunkSize ∧
      (cr.chunkSize = 0 → ∀ msg ∈ result, msg.payload = []) := by
  obtain ⟨⟨csid, fmt, first⟩, -, hread⟩ := bind_eq_ok.mp hread
  obtain ⟨old, hold, hread⟩ := bind_eq_ok.mp hread
  obtain ⟨⟨header, second⟩, hheader, hdata⟩ := bind_eq_ok.mp hread
  refine readData_spec hcr rfl (fun hne => ?_) hdata
  obtain ⟨active, hactive, hflag, hshort⟩ := hcr csid hne
  -- The stream is in the middle of a message, so the chunk continues it.
  simp only [ChunkReader.headerFor, hactive, hflag, true_and] at hold
  split_ifs at hold with hfmt
  cases hold
  rw [not_not.mp hfmt, hflag] at hheader
  rwa [length_readMessageHeader_fmt3 hheader]

/-- A message is read off the front, whatever the chunk size. -/
theorem readMessage_spec (hcr : Unfinished cr)
    (hread : cr.readMessage input = .ok (msg, cr', rest)) :
    Unfinished cr' ∧ cr'.chunkSize = cr.chunkSize ∧ (cr.chunkSize = 0 → msg.payload = []) := by
  fun_induction ChunkReader.readMessage cr input with
  | case1 cr input error hchunk => simp at hread
  | case2 cr input found next after hchunk =>
    cases hread
    obtain ⟨hnext, hsize, hempty⟩ := readChunk_spec hcr hchunk
    exact ⟨hnext, hsize, fun hzero => hempty hzero _ rfl⟩
  | case3 cr input next after hchunk ih =>
    obtain ⟨hnext, hsize, -⟩ := readChunk_spec hcr hchunk
    obtain ⟨hlast, hsame, hempty⟩ := ih hnext hread
    exact ⟨hlast, hsame.trans hsize, fun hzero => hempty (hsize.trans hzero)⟩

end Chunks

/-! ## Waiting for a reply -/

variable {rc' rc : RtmpConn} {m : OutMessage} {values : AMF0Values}

section Replies

variable {targetTxnID : Float}

/-- A message without payload neither answers nor changes anything. -/
theorem handle_of_empty (hempty : msg.payload = []) :
    rc.handle values targetTxnID msg = (.again, rc) := by
  unfold RtmpConn.handle
  split
  · simp [hempty]
  · split
    · simp [hempty, amf0Decode, commandReply]
    · rfl

theorem readResponsesLoop_of_zero (n : ℕ) (hcr : Unfinished rc.cr) (hzero : rc.cr.chunkSize = 0) :
    rc.readResponsesLoop values targetTxnID n ≠ .ok rc' := by
  induction n generalizing rc with
  | zero => simp [RtmpConn.readResponsesLoop]
  | succ n ih =>
    cases hread : rc.cr.readMessage rc.input with
    | error e => simp [RtmpConn.readResponsesLoop, hread]
    | ok result =>
      obtain ⟨hnext, hsize, hempty⟩ := readMessage_spec hcr hread
      simp only [RtmpConn.readResponsesLoop, hread, handle_of_empty (hempty hzero)]
      exact ih hnext (hsize.trans hzero)

/-- Between two actions the reader and the writer have a positive chunk size. -/
structure Healthy (rc : RtmpConn) : Prop where
  unfinished : Unfinished rc.cr
  reader_pos : 0 < rc.cr.chunkSize
  writer_pos : 0 < rc.cw.chunkSize

/-- A message ends the wait or leaves the connection as it is, or it sets both
chunk sizes. -/
theorem handle_cases (rc : RtmpConn) (msg : Message) :
    (rc.handle values targetTxnID msg).2 = rc ∨ ∃ size, rc.handle values targetTxnID msg =
        (.again, { rc with
          cr := rc.cr.setChunkSize size
          cw := rc.cw.setChunkSize size }) := by
  unfold RtmpConn.handle
  split
  · split
    · exact .inr ⟨_, rfl⟩
    · exact .inl rfl
  · split
    · exact .inl rfl
    · exact .inl rfl

/-- A wait that ends well leaves positive chunk sizes behind. -/
theorem readResponsesLoop_ok (n : ℕ) (hrc : Healthy rc)
    (hok : rc.readResponsesLoop values targetTxnID n = .ok rc') :
    Healthy rc' ∧ rc'.sent = rc.sent ∧ rc'.calls = rc.calls := by
  induction n generalizing rc with
  | zero => simp [RtmpConn.readResponsesLoop] at hok
  | succ n ih =>
    simp only [RtmpConn.readResponsesLoop] at hok
    split at hok
    · simp at hok
    next msg cr rest hread =>
      obtain ⟨hnext, hsize, -⟩ := readMessage_spec hrc.unfinished hread
      have hread' : Healthy { rc with cr := cr, input := rest } :=
        ⟨hnext, hsize ▸ hrc.reader_pos, hrc.writer_pos⟩
      rcases @handle_cases values targetTxnID
        { rc with cr := cr, input := rest } msg with hsame | ⟨size, hset⟩
      · split at hok
        · rw [hsame] at hok
          have hrest := ih hread' hok
          exact hrest
        · rw [hsame] at hok
          cases hok
          exact ⟨hread', rfl, rfl⟩
        · simp at hok
      · rw [hset] at hok
        rcases Nat.eq_zero_or_pos size with rfl | hpos
        · exact absurd hok (readResponsesLoop_of_zero n hnext rfl)
        · exact @ih { rc with
            cr := cr.setChunkSize size
            cw := rc.cw.setChunkSize size
            input := rest } ⟨hnext, hpos, hpos⟩ hok

theorem readResponses_ne_panicked (n : ℕ) (rc : RtmpConn) :
    rc.readResponsesLoop values targetTxnID n ≠ .error .panicked := by
  induction n generalizing rc with
  | zero => simp [RtmpConn.readResponsesLoop]
  | succ n ih =>
    simp only [RtmpConn.readResponsesLoop]
    split
    · simp
    · split
      · exact ih _
      · simp
      · simp

end Replies

/-! ## Sending -/

section Sending

theorem send_ok (hok : rc.send csid m = .ok rc') :
    ∃ bytes, rc.cw.writeMessage csid m.message = some bytes ∧
      rc' = { rc with
        sent := rc.sent ++ bytes
        calls := rc.calls ++ [.writeMessage csid m] } := by
  unfold RtmpConn.send at hok
  split at hok
  · simp at hok
  next bytes hbytes => exact ⟨bytes, hbytes, (Except.ok.inj hok).symm⟩

theorem setChunkSize_ok {size : ℕ} (hok : rc.setChunkSize size = .ok rc') :
    ∃ bytes, rc.cw.writeMessage 2 (RtmpConn.chunkSizeMessage size).message = some bytes ∧
      rc' = { rc with
        cw := ⟨size⟩
        sent := rc.sent ++ bytes
        calls := rc.calls ++ [.writeMessage 2 (RtmpConn.chunkSizeMessage size),
          .setChunkSize size] } := by
  obtain ⟨rc₁, hsend, hdone⟩ := bind_eq_ok.mp hok
  obtain ⟨bytes, hbytes, rfl⟩ := send_ok hsend
  refine ⟨bytes, hbytes, ?_⟩
  simp only [pure, Except.pure, Except.ok.injEq] at hdone
  rw [← hdone]
  simp [setChunkSize]

theorem send_ne_panicked (hrc : Healthy rc) (csid : UInt32) (m : OutMessage) :
    rc.send csid m ≠ .error .panicked := by
  have hpos := hrc.writer_pos
  have hwrite : rc.cw.writeMessage csid m.message ≠ none := by
    rw [writeMessage, if_neg (by omega)]
    simp
  unfold RtmpConn.send
  split
  next hnone => exact absurd hnone hwrite
  · simp

end Sending

/-! ## Decoding -/

def sizeAfter (size : ℕ) : List WriteCall → ℕ
  | [] => size
  | .setChunkSize announced :: calls => sizeAfter announced calls
  | .writeMessage _ _ :: calls => sizeAfter size calls

/-- The chunk size negotiated for the client's direction: the last one that the
client itself announced. -/
def negotiated (rc : RtmpConn) : ℕ := sizeAfter initialChunkSize rc.calls

/-- The writer cuts the message as a reader with the negotiated chunk size
expects it: the two sizes are equal, or the message needs no cut under either. -/
def Agrees (rc : RtmpConn) (m : OutMessage) : Prop :=
  rc.cw.chunkSize = negotiated rc ∨ m.message.payload.length ≤ rc.cw.chunkSize ∧
      m.message.payload.length ≤ negotiated rc

instance (rc : RtmpConn) (m : OutMessage) : Decidable (Agrees rc m) :=
  inferInstanceAs (Decidable (_ ∨ _))

/-- What an action sends agrees with the negotiated chunk size. -/
def ActionAgrees (rc : RtmpConn) : ClientAction → Prop
  | .setChunkSize => Agrees rc (RtmpConn.chunkSizeMessage defaultChunkSize)
  | .send _ m => Agrees rc m
  | .readResponses _ => True

/-- A reader that follows the client's announcements returns what the client
sent, and takes all of it. -/
def Decodable (rc : RtmpConn) : Prop :=
  ∃ cr, (newChunkReader initialChunkSize).serve rc.sent (rc.calls.map WriteCall.readCall) =
    .ok (rc.calls.filterMap WriteCall.message?, cr, [])

section Decoding

theorem sizeAfter_append (size : ℕ) (calls more : List WriteCall) :
    sizeAfter size (calls ++ more) = sizeAfter (sizeAfter size calls) more := by
  induction calls generalizing size with
  | nil => rfl
  | cons call calls ih =>
    cases call with
    | setChunkSize announced => exact ih announced
    | writeMessage csid m => exact ih size

theorem write_append {cw : ChunkWriter} {calls more : List WriteCall} {first rest : Bytes}
    (hfirst : cw.write calls = some first)
    (hrest : (⟨sizeAfter cw.chunkSize calls⟩ : ChunkWriter).write more = some rest) :
    cw.write (calls ++ more) = some (first ++ rest) := by
  induction calls generalizing cw first with
  | nil =>
    cases hfirst
    exact hrest
  | cons call calls ih =>
    cases call with
    | setChunkSize size => exact ih hfirst hrest
    | writeMessage csid m =>
      simp only [write, Option.bind_eq_some_iff, Option.map_eq_some_iff] at hfirst
      obtain ⟨bytes, hbytes, later, hlater, rfl⟩ := hfirst
      simp [write, hbytes, ih hlater hrest]

/-- A message that fits both chunk sizes is one chunk under either. -/
theorem writeMessage_of_fits {size size' : ℕ} (hpos : 0 < size)
    (hpos' : 0 < size') (hfits : msg.payload.length ≤ size) (hfits' : msg.payload.length ≤ size') :
    writeMessage csid msg ⟨size⟩ = writeMessage csid msg ⟨size'⟩ := by
  have hnil : ∀ cw, continuations csid msg.timestamp cw [] = [] := by
    intro cw
    rw [continuations, if_neg (by simp)]
  simp only [writeMessage]
  rw [if_neg (by omega), if_neg (by omega), List.take_of_length_le hfits,
    List.take_of_length_le hfits', List.drop_eq_nil_of_le hfits,
    List.drop_eq_nil_of_le hfits', hnil, hnil]

/-- The account of the client is what a writer with the negotiated chunk sizes
would have written. -/
structure Faithful (rc : RtmpConn) : Prop where
  healthy : Healthy rc
  pos : 0 < negotiated rc
  legal : ∀ call ∈ rc.calls, call.Legal
  written : (⟨initialChunkSize⟩ : ChunkWriter).write rc.calls = some rc.sent

theorem writeMessage_of_agrees (hrc : Faithful rc) (hagrees : Agrees rc m) :
    writeMessage csid m.message ⟨negotiated rc⟩ = rc.cw.writeMessage csid m.message := by
  rcases hagrees with hsame | ⟨hfits, hfits'⟩
  · rw [← hsame]
  · exact writeMessage_of_fits hrc.pos hrc.healthy.writer_pos hfits' hfits

theorem Faithful.decodable (hrc : Faithful rc) : Decodable rc := by
  obtain ⟨bytes, actions, t, hwrite, hsend, hcalls⟩ :=
    @sends_write (newSender initialChunkSize) (fun _ => rfl) (by decide) rc.calls hrc.legal
  have hbytes : bytes = rc.sent := Option.mem_unique hwrite hrc.written
  have hserve := serve_send hsend hcalls []
  rw [hbytes, List.append_nil] at hserve
  exact ⟨t.reader, hserve⟩

theorem healthy_dial (input : Bytes) : Healthy (dialRTMP input) :=
  ⟨unfinished_new _, Nat.zero_lt_succ _, Nat.zero_lt_succ _⟩

theorem faithful_dial (input : Bytes) : Faithful (dialRTMP input) where
  healthy := healthy_dial input
  pos := Nat.zero_lt_succ _
  legal := by simp [dialRTMP]
  written := rfl

variable {a : ClientAction}

/-- Every action that does not end the session leaves positive chunk sizes. -/
theorem Healthy.step (hrc : Healthy rc) (hok : rc.step values a = .ok rc') : Healthy rc' := by
  cases a with
  | setChunkSize =>
    obtain ⟨bytes, -, rfl⟩ := setChunkSize_ok hok
    exact ⟨hrc.unfinished, hrc.reader_pos, Nat.zero_lt_succ _⟩
  | send stream m =>
    obtain ⟨bytes, -, rfl⟩ := send_ok hok
    exact { hrc with }
  | readResponses targetTxnID => exact (readResponsesLoop_ok 20 hrc hok).1

theorem Healthy.step_ne_panicked (hrc : Healthy rc) (values : AMF0Values) (a : ClientAction) :
    rc.step values a ≠ .error .panicked := by
  cases a with
  | setChunkSize =>
    intro hpanic
    have hsend := send_ne_panicked hrc 2 (RtmpConn.chunkSizeMessage defaultChunkSize)
    simp only [RtmpConn.step, RtmpConn.setChunkSize] at hpanic
    cases hresult : rc.send 2 (RtmpConn.chunkSizeMessage defaultChunkSize) with
    | error e =>
      rw [hresult] at hpanic hsend
      exact hsend hpanic
    | ok sent =>
      rw [hresult] at hpanic
      simp at hpanic
  | send stream m => exact send_ne_panicked hrc stream.csid m
  | readResponses targetTxnID => exact readResponses_ne_panicked 20 rc

/-- The calls after one more message, and perhaps an announcement after it. -/
theorem Faithful.append (hrc : Faithful rc) {more : List WriteCall} {bytes : Bytes}
    (hagrees : Agrees rc m) (hbytes : rc.cw.writeMessage csid m.message = some bytes)
    (hmore : (⟨negotiated rc⟩ : ChunkWriter).write more = some []) :
    (⟨initialChunkSize⟩ : ChunkWriter).write (rc.calls ++ .writeMessage csid m :: more) =
      some (rc.sent ++ bytes) := by
  rw [← writeMessage_of_agrees hrc hagrees] at hbytes
  refine write_append hrc.written ?_
  simp only [write, Option.bind_eq_some_iff, Option.map_eq_some_iff]
  exact ⟨bytes, hbytes, [], hmore, List.append_nil bytes⟩

theorem Faithful.step (hrc : Faithful rc) (hagrees : ActionAgrees rc a)
    (hok : rc.step values a = .ok rc') :
    Faithful rc' := by
  have hhealthy := hrc.healthy.step hok
  cases a with
  | setChunkSize =>
    obtain ⟨bytes, hbytes, rfl⟩ := setChunkSize_ok hok
    refine ⟨hhealthy, ?_, ?_, hrc.append hagrees hbytes rfl⟩
    · rw [negotiated, sizeAfter_append]
      exact Nat.zero_lt_succ _
    · refine List.forall_mem_append.mpr ⟨hrc.legal, ?_⟩
      simp [WriteCall.Legal, defaultChunkSize]
  | send stream m =>
    obtain ⟨bytes, hbytes, rfl⟩ := send_ok hok
    refine ⟨hhealthy, ?_, ?_, hrc.append hagrees hbytes rfl⟩
    · rw [negotiated, sizeAfter_append]
      exact hrc.pos
    · refine List.forall_mem_append.mpr ⟨hrc.legal, ?_⟩
      cases stream <;> simp [WriteCall.Legal, ClientStream.csid]
  | readResponses targetTxnID =>
    obtain ⟨-, hsent, hcalls⟩ := readResponsesLoop_ok 20 hrc.healthy hok
    have hpos := hrc.pos
    have hlegal := hrc.legal
    have hwritten := hrc.written
    rw [negotiated, ← hcalls] at hpos
    rw [← hcalls] at hlegal hwritten
    rw [← hsent] at hwritten
    exact ⟨hhealthy, hpos, hlegal, hwritten⟩

theorem next_eq_some (hnext : rc.next values a = some rc') : rc.step values a = .ok rc' := by
  unfold RtmpConn.next at hnext
  cases hstep : rc.step values a with
  | error e => simp [hstep, Except.toOption] at hnext
  | ok rc₁ =>
    rw [hstep] at hnext
    exact congrArg Except.ok (Option.some.inj hnext)

end Decoding

/-- Whatever the server sends, the client never divides by a chunk size of zero
and every turn of `ReadMessage` takes input.  What the client has written is
decodable for a reader that follows the client's own announcements, in every
session in which each message sent agrees with them. -/
theorem relay_client_decodable (values : AMF0Values) (input : Bytes)
    {actions : List ClientAction} {rc : RtmpConn}
    (hrun : runFrom (RtmpConn.next values) (dialRTMP input) actions = some rc) :
    (∀ a, rc.step values a ≠ .error .panicked) ∧
    (∀ result cr rest, rc.cr.readChunk rc.input = .ok (result, cr, rest) →
      rest.length < rc.input.length) ∧
    (StepsMeet ActionAgrees (RtmpConn.next values) (dialRTMP input) actions → Decodable rc) := by
  have hhealthy : Healthy rc := runFrom_invariant
    (fun s a s' hs hnext => hs.step (next_eq_some hnext))
    (healthy_dial input) hrun
  refine ⟨hhealthy.step_ne_panicked values,
    fun result cr rest hread => ChunkReader.readChunk_length hread,
    fun hmeet => ?_⟩
  have hfaithful : Faithful rc := runFrom_invariant_of_stepsMeet
    (fun s a s' hs ha hnext => hs.step ha (next_eq_some hnext))
    (faithful_dial input) hmeet hrun
  exact hfaithful.decodable

/-! ## A server with a chunk size of its own -/

/-- The string `onStatus` and a null. -/
def statusPayload : Bytes :=
  [0x02, 0, 8, 0x6F, 0x6E, 0x53, 0x74, 0x61, 0x74, 0x75, 0x73, 0x05]

def statusValues : AMF0Values := fun payload =>
  if payload = statusPayload then some [.string "onStatus", .other] else none

/-- The server announces a chunk size of one for what it sends, and answers. -/
def oneByteServer : Bytes :=
  [0x02, 0, 0, 0, 0, 0, 4, 1, 0, 0, 0, 0, 0, 0, 0, 1] ++
    [0x03, 0, 0, 0, 0, 0, 12, 20, 0, 0, 0, 0] ++ statusPayload.intersperse 0xC3

def twoByteCommand : OutMessage where
  message := ⟨msgAMF0Command, 2, 0, 0, [1, 2]⟩
  length_eq := rfl
  short := by decide

/-- The client cuts its command after the first byte, where a reader with the
chunk size negotiated for the client's direction expects no cut. -/
theorem relay_client_undecodable :
    ∃ rc, runFrom (RtmpConn.next statusValues) (dialRTMP oneByteServer)
        [.readResponses 1, .send .command twoByteCommand] = some rc ∧
      negotiated rc = 128 ∧ ¬ Decodable rc := by
  refine exists_of_any (p := fun rc => negotiated rc = 128 ∧
    rc.calls.filterMap WriteCall.message? = [⟨20, 2, 0, 0, [1, 2]⟩] ∧
    ((newChunkReader initialChunkSize).serve rc.sent (rc.calls.map WriteCall.readCall)).map (·.1) =
        .ok [⟨20, 2, 0, 0, [1, 0xC3]⟩]) (by decide +kernel) ?_
  rintro rc ⟨hsize, hsent, hread⟩
  refine ⟨hsize, fun ⟨cr, hserve⟩ => ?_⟩
  rw [hserve, hsent] at hread
  cases hread

def oneByteCommand : OutMessage where
  message := ⟨msgAMF0Command, 1, 0, 0, [1]⟩
  length_eq := rfl
  short := by decide

/-- A command that needs no cut under either chunk size arrives. -/
theorem relay_client_decodable_one_byte :
    ∃ rc, runFrom (RtmpConn.next statusValues) (dialRTMP oneByteServer)
        [.readResponses 1, .send .command oneByteCommand] = some rc ∧
      rc.cw = ⟨1⟩ ∧ negotiated rc = 128 ∧ Decodable rc := by
  have hview : (runFrom (RtmpConn.next statusValues) (dialRTMP oneByteServer)
      [.readResponses 1, .send .command oneByteCommand]).map (fun rc =>
        (rc.cw, negotiated rc)) = some (⟨1⟩, 128) := by
    decide +kernel
  obtain ⟨rc, hrun, hview⟩ := Option.map_eq_some_iff.mp hview
  obtain ⟨hcw, hsize⟩ := Prod.mk.inj hview
  refine ⟨rc, hrun, hcw, hsize, (relay_client_decodable statusValues oneByteServer hrun).2.2 ?_⟩
  refine ⟨trivial, fun rc hrc => ⟨?_, fun _ _ => trivial⟩⟩
  have hagrees : ((RtmpConn.next statusValues (dialRTMP oneByteServer)
      (.readResponses 1)).all fun rc => Agrees rc oneByteCommand) = true := by
    decide +kernel
  rw [hrc] at hagrees
  show Agrees rc oneByteCommand
  simpa using hagrees

end LiveForge.Cluster
