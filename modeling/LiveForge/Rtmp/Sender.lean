import LiveForge.Rtmp.Chunk

/-!
# Legal senders

What the protocol lets a sender do, independent of how this repository's writer
uses it.  A sender may interleave the chunks of messages on different chunk
streams, choose any header format that its last header on the chunk stream
permits, and change the chunk size between chunks.  An action that the protocol
forbids has no result.
-/

namespace LiveForge.Rtmp

open Support

/-! ## Messages and headers -/

/-- A message whose declared length is that of its payload and fits the
header. -/
structure OutMessage where
  message : Message
  length_eq : message.length.toNat = message.payload.length
  short : message.payload.length < 2 ^ 24

inductive BasicForm where
  | oneByte
  | twoBytes
  | threeBytes

namespace BasicForm

def fits (form : BasicForm) (csid : UInt32) : Bool :=
  match form with
  | oneByte => decide (2 ≤ csid ∧ csid ≤ 63)
  | twoBytes => decide (64 ≤ csid ∧ csid ≤ 319)
  | threeBytes => decide (64 ≤ csid ∧ csid ≤ 65599)

def bytes (form : BasicForm) (fmt : ChunkFmt) (csid : UInt32) : Bytes :=
  match form with
  | oneByte => [UInt8.ofNat (fmt.bits * 64 + csid.toNat)]
  | twoBytes => [UInt8.ofNat (fmt.bits * 64), UInt8.ofNat (csid.toNat - 64)]
  | threeBytes =>
    [UInt8.ofNat (fmt.bits * 64 + 1), UInt8.ofNat ((csid.toNat - 64) % 256),
      UInt8.ofNat ((csid.toNat - 64) / 256)]

end BasicForm

/-! ## State -/

/-- What is known about a chunk stream: the last message started on it, how
much of it is sent, and the last timestamp field, which is a delta after a
header of format 1 or 2. -/
structure ChunkContext where
  message : OutMessage
  field : UInt32
  relative : Bool
  sent : ℕ
  sent_le : sent ≤ message.message.payload.length

namespace ChunkContext

def payload (c : ChunkContext) : Bytes := c.message.message.payload

def unfinished (c : ChunkContext) : Bool := decide (c.sent < c.payload.length)

/-- The delta that a chunk without header repeats. -/
def delta (c : ChunkContext) : UInt32 := if c.relative then c.field else 0

def advance (c : ChunkContext) (size : ℕ) : ChunkContext :=
  { c with
    sent := min (c.sent + size) c.payload.length
    sent_le := Nat.min_le_right _ _ }

end ChunkContext

structure Sender where
  chunkSize : ℕ
  contexts : UInt32 → Option ChunkContext

def newSender (chunkSize : ℕ) : Sender :=
  { chunkSize := chunkSize, contexts := fun _ => none }

inductive SendAction where
  | setChunkSize (size : ℕ)
  | start (csid : UInt32) (form : BasicForm) (fmt : ChunkFmt)
      (message : OutMessage)
  | resume (csid : UInt32) (form : BasicForm)

/-! ## Actions -/

/-- The message header of a new message, with its timestamp field; none if the
format is not permitted after the last header. -/
def startHeader (last : Option ChunkContext) (fmt : ChunkFmt) (msg : Message) :
    Option (Bytes × UInt32 × Bool) :=
  match fmt, last with
  | .fmt0, _ => some (fullHeader msg, msg.timestamp, false)
  | _, none => none
  | .fmt1, some c =>
    let delta := msg.timestamp - c.message.message.timestamp
    if msg.streamID = c.message.message.streamID then
      some (timestampField delta ++ be24Bytes msg.length.toNat ++
        [msg.typeID] ++ extendedField delta, delta, true)
    else none
  | .fmt2, some c =>
    let delta := msg.timestamp - c.message.message.timestamp
    if msg.streamID = c.message.message.streamID ∧
        msg.length = c.message.message.length ∧ msg.typeID = c.message.message.typeID then
      some (timestampField delta ++ extendedField delta, delta, true)
    else none
  | .fmt3, some c =>
    if msg.streamID = c.message.message.streamID ∧
        msg.length = c.message.message.length ∧ msg.typeID = c.message.message.typeID ∧
            msg.timestamp = c.message.message.timestamp + c.delta then
      some (extendedField c.field, c.field, c.relative)
    else none

namespace Sender

/-- Send the next data of a chunk stream behind its headers. -/
def sendData (csid : UInt32) (c : ChunkContext) (header : Bytes)
    (s : Sender) : Sender × Bytes × Option Message :=
  let next := c.advance s.chunkSize
  ({ s with contexts := Function.update s.contexts csid (some next) },
    header ++ (c.payload.drop c.sent).take s.chunkSize,
    if next.unfinished then none else some c.message.message)

/-- A message may only start when the last one of the chunk stream is sent. -/
def mayStart (csid : UInt32) (s : Sender) : Bool :=
  match s.contexts csid with
  | none => true
  | some c => !c.unfinished

def step (s : Sender) : SendAction → Option (Sender × Bytes × Option Message)
  | .setChunkSize size =>
    if 0 < size then some ({ s with chunkSize := size }, [], none) else none
  | .start csid form fmt message =>
    if form.fits csid && s.mayStart csid then
      (startHeader (s.contexts csid) fmt message.message).map fun (header, field, relative) =>
          s.sendData csid ⟨message, field, relative, 0, Nat.zero_le _⟩
            (form.bytes fmt csid ++ header)
    else none
  | .resume csid form =>
    match s.contexts csid with
    | none => none
    | some c =>
      if form.fits csid && c.unfinished then
        some (s.sendData csid c (form.bytes .fmt3 csid ++ extendedField c.field))
      else none

/-- The bytes of a schedule, and its messages in the order of completion. -/
def send (s : Sender) : List SendAction → Option (Sender × Bytes × List Message)
  | [] => some (s, [], [])
  | a :: rest =>
    (s.step a).bind fun (s', bytes, result) =>
      (s'.send rest).map fun (t, more, messages) =>
        (t, bytes ++ more, result.toList ++ messages)

end Sender

end LiveForge.Rtmp
