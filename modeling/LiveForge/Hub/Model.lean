import LiveForge.Stream.Trace
import LiveForge.Support.Threads

/-!
# The stream hub

`core/stream_hub.go` maps keys to streams.  Its methods lock the map only for
a part of their work: closing a stream and emitting events happen after the
lock is released, and a stream that is destroyed calls back into the hub.  Each
locked section, and each emission, is a task of its own here; calls of any
number of goroutines interleave task by task.

Streams are objects with an identity.  They live in the list `instances`, and
the map holds their indices.  Event handlers and `Publisher.Close` are outside
the model.
-/

namespace LiveForge.Core

open Support

/-! ## State -/

inductive OnceState where
  | idle
  | running
  | done

structure Instance where
  stream : Stream
  destroyOnce : OnceState

structure OrderedStream where
  element : ℕ
  key : String
  stream : ℕ

inductive HubEvent where
  | streamCreate (key : String)
  | streamDestroy (key : String) (instanceID publisherGeneration : ℕ)
      (publisherID : String)
  deriving DecidableEq

structure StreamHub where
  instances : List Instance
  streams : AList fun _ : String => ℕ
  streamOrder : List OrderedStream
  streamOrderByKey : AList fun _ : String => ℕ
  elementSeq : ℕ
  config : StreamConfig
  limits : LimitsConfig
  emitted : List HubEvent

/-- One atomic part of a method. -/
inductive HubTask where
  | getOrCreate (key : String)
  | remove (key : String)
  | removeIfCurrent (key : String) (stream : ℕ)
  | updatePolicy (cfg : StreamConfig) (limits : LimitsConfig) (order : List ℕ)
  | streamCall (stream : ℕ) (a : StreamAction)
  | notifyDestroy (stream : ℕ)
  | onceDone (stream : ℕ)
  | closeRing (stream : ℕ)
  | emitDestroy (key : String) (stream : ℕ)
  | emitCreate (key : String)

def newStreamHub (cfg : StreamConfig) (limits : LimitsConfig) : StreamHub :=
  { instances := []
    streams := ∅
    streamOrder := []
    streamOrderByKey := ∅
    elementSeq := 0
    config := cfg
    limits := limits
    emitted := [] }

namespace StreamHub

/-! ## Locked sections of the hub -/

def addOrderedStream (key : String) (stream : ℕ) (h : StreamHub) : StreamHub :=
  { h with
    streamOrder := h.streamOrder ++ [⟨h.elementSeq, key, stream⟩]
    streamOrderByKey := h.streamOrderByKey.insert key h.elementSeq
    elementSeq := h.elementSeq + 1 }

def removeOrderedStream (key : String) (stream : ℕ) (h : StreamHub) : StreamHub :=
  match h.streamOrderByKey.lookup key with
  | none => h
  | some element =>
    match h.streamOrder.find? fun entry => entry.element = element with
    | none => h
    | some entry =>
      if entry.stream ≠ stream then h
      else
        { h with
          streamOrder := h.streamOrder.filter fun entry => entry.element ≠ element
          streamOrderByKey := h.streamOrderByKey.erase key }

def forget (key : String) (stream : ℕ) (h : StreamHub) : StreamHub :=
  ({ h with streams := h.streams.erase key }).removeOrderedStream key stream

/-- The result of `GetOrCreateWithCreated`: the stream and whether this call
created it, or the text of the error. -/
abbrev GetResult := Except String (ℕ × Bool)

/-- The admission check and the installation of a new stream.  `replacing` is
the dying stream that was deleted for it. -/
def installNew (key : String) (replacing : Option ℕ) (h : StreamHub) :
    GetResult × StreamHub × List HubTask :=
  if 0 < h.limits.maxStreams ∧
      h.limits.maxStreams ≤ h.streams.entries.length then
    (.error s!"max streams limit reached ({h.limits.maxStreams})", h, [])
  else
    let created := h.instances.length
    let stream := newStream key (created + 1) h.config h.limits
    let installed := addOrderedStream key created
      { h with
        instances := h.instances ++ [⟨stream, .idle⟩]
        streams := h.streams.insert key created }
    let retirement :=
      match replacing with
      | none => []
      | some old => [.streamCall old .close, .emitDestroy key old]
    (.ok (created, true), installed, retirement ++ [.emitCreate key])

def isDestroying (stream : ℕ) (h : StreamHub) : Bool :=
  match h.instances[stream]? with
  | none => false
  | some inst => decide (inst.stream.state = .destroying)

/-- `GetOrCreateWithCreated` up to the release of the hub lock, with the work
left to do after it. -/
def getOrCreate (key : String) (h : StreamHub) : GetResult × StreamHub × List HubTask :=
  match h.streams.lookup key with
  | none => h.installNew key none
  | some stream =>
    if h.isDestroying stream then
      (h.forget key stream).installNew key (some stream)
    else (.ok (stream, false), h, [])

def remove (key : String) (h : StreamHub) : StreamHub × List HubTask :=
  match h.streams.lookup key with
  | none => (h, [])
  | some stream =>
    (h.forget key stream, [.streamCall stream .close, .emitDestroy key stream])

/-- The destroy callback of a stream. -/
def removeIfCurrent (key : String) (stream : ℕ) (h : StreamHub) : StreamHub × List HubTask :=
  if h.streams.lookup key = some stream then
    (h.forget key stream, [.closeRing stream, .emitDestroy key stream])
  else (h, [])

/-! ## Streams of the hub -/

def setStream (stream : ℕ) (s : Stream) (h : StreamHub) : StreamHub :=
  { h with
    instances := h.instances.modify stream fun inst => { inst with stream := s } }

def setOnce (stream : ℕ) (once : OnceState) (h : StreamHub) : StreamHub :=
  { h with
    instances :=
      h.instances.modify stream fun inst => { inst with destroyOnce := once } }

/-- What a stream method does after it has released the locks. -/
def followUps (stream : ℕ) (s : Stream) : StreamAction → List HubTask
  | .close => [.notifyDestroy stream]
  | .discardFailedAdmission publisherID =>
    if (s.discardFailedAdmission publisherID).1 then [.streamCall stream .close]
    else []
  | .timerCallback timer =>
    if (Stream.timerCallback timer.kind { s with
        expired := s.expired.erase timer }).1 then
      [.notifyDestroy stream]
    else []
  | _ => []

/-- The locked part of a stream method. -/
def streamStep (a : StreamAction) (s : Stream) : Option Stream :=
  (StreamTrace.step ⟨s, [], []⟩ a).map StreamTrace.stream

def destroyEvent (key : String) (s : Stream) : HubEvent :=
  .streamDestroy key s.instanceID s.lastPublisherGeneration s.lastPublisherID

/-! ## Execution -/

/-- Execute one task.  A goroutine that finds the once of a stream running
waits until it is done. -/
def exec (h : StreamHub) : HubTask → Option (StreamHub × List HubTask)
  | .getOrCreate key => some (h.getOrCreate key).2
  | .remove key => some (h.remove key)
  | .removeIfCurrent key stream => some (h.removeIfCurrent key stream)
  | .updatePolicy cfg limits order =>
    if order.Perm (h.streams.entries.map Sigma.snd) then
      some ({ h with config := cfg, limits := limits },
        order.map fun stream => .streamCall stream (.updatePolicy cfg limits))
    else none
  | .streamCall stream a =>
    match h.instances[stream]? with
    | none => none
    | some inst =>
      (streamStep a inst.stream).map fun s =>
        (h.setStream stream s, followUps stream inst.stream a)
  | .notifyDestroy stream =>
    match h.instances[stream]? with
    | none => none
    | some inst =>
      match inst.destroyOnce with
      | .idle =>
        some (h.setOnce stream .running,
          [.removeIfCurrent inst.stream.key stream, .onceDone stream])
      | .running => none
      | .done => some (h, [])
  | .onceDone stream => some (h.setOnce stream .done, [])
  | .closeRing stream =>
    match h.instances[stream]? with
    | none => none
    | some inst =>
      some (h.setStream stream { inst.stream with ringBuffer := inst.stream.ringBuffer.close }, [])
  | .emitDestroy key stream =>
    match h.instances[stream]? with
    | none => none
    | some inst =>
      some ({ h with
        emitted := h.emitted ++ [destroyEvent key inst.stream] }, [])
  | .emitCreate key =>
    some ({ h with emitted := h.emitted ++ [.streamCreate key] }, [])

end StreamHub

/-- A call from outside.  `order` is the order in which the update walks over
the map. -/
inductive HubCall where
  | getOrCreate (key : String)
  | remove (key : String)
  | updatePolicy (cfg : StreamConfig) (limits : LimitsConfig) (order : List ℕ)
  | streamCall (stream : ℕ) (a : StreamAction)
  deriving DecidableEq

def HubCall.tasks : HubCall → List HubTask
  | .getOrCreate key => [.getOrCreate key]
  | .remove key => [.remove key]
  | .updatePolicy cfg limits order => [.updatePolicy cfg limits order]
  | .streamCall stream a => [.streamCall stream a]

/-- A hub together with the goroutines inside its methods. -/
abbrev HubSystem := Threaded StreamHub HubTask

namespace HubSystem

def initial (cfg : StreamConfig) (limits : LimitsConfig) : HubSystem :=
  ⟨newStreamHub cfg limits, []⟩

def step : HubSystem → ThreadAction HubCall → Option HubSystem :=
  Threaded.step HubCall.tasks fun h task =>
    (h.exec task).map fun result => ⟨result.1, result.2, []⟩

end HubSystem

end LiveForge.Core
