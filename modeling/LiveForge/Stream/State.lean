import LiveForge.Ring.Buffer
import LiveForge.Stream.Parts

/-!
# Streams

The record `Stream` of `core/stream.go` and the methods that change it.  The
locked part of each method is one function from the state to the state: most
run under `writeMu` and `mu`; those that take only `mu` (subscribers, the idle
callback) change nothing that a frame write in progress reads or writes.

Left out are the parts that no modelled method reads: the muxer, transcode and
feedback managers, the event bus and the simulcast family.
-/

namespace LiveForge.Core

open LiveForge.Ring

/-! ## Publisher generations -/

/-- The end position of one generation.  Ending a generation also closes its
`generationDone` channel. -/
structure GenerationBoundary where
  endCursor : ℕ
  ended : Bool

/-- Setting the end is a one-time step. -/
def GenerationBoundary.endAt (writeCursor : ℕ) (b : GenerationBoundary) : GenerationBoundary :=
  if b.ended then b else ⟨writeCursor, true⟩

def GenerationBoundary.end? (b : GenerationBoundary) : Option ℕ :=
  if b.ended then some b.endCursor else none

/-- The boundary objects outlive the field that points to the current one, so
all of them are kept in `boundaries`; `generationBoundary` is the pointer. -/
structure GenerationState where
  state : StreamState
  publisher : Option Publisher
  usedPublisherIDs : Option (List String)
  lastPublisherID : String
  lastPublisherGeneration : ℕ
  publisherGeneration : ℕ
  generationStartCursor : ℕ
  boundaries : List GenerationBoundary
  generationBoundary : Option ℕ

namespace GenerationState

def initial : GenerationState :=
  { state := .idle
    publisher := none
    usedPublisherIDs := some []
    lastPublisherID := ""
    lastPublisherGeneration := 0
    publisherGeneration := 0
    generationStartCursor := 0
    boundaries := []
    generationBoundary := none }

/-- The frame hot path compares IDs; objects are compared only when neither
side has one. -/
def publisherMatches (pub : Option Publisher) (g : GenerationState) : Bool :=
  match g.state, g.publisher, pub with
  | .publishing, some current, some candidate =>
    if g.lastPublisherID ≠ "" ∨ candidate.id ≠ "" then
      decide (g.lastPublisherID ≠ "") &&
        decide (g.lastPublisherID = candidate.id)
    else samePublisher current candidate
  | _, _, _ => false

def closeGeneration (writeCursor : ℕ) (g : GenerationState) : GenerationState :=
  match g.generationBoundary with
  | none => g
  | some i =>
    { g with boundaries := g.boundaries.modify i (.endAt writeCursor) }

def idUsed (id : String) (g : GenerationState) : Bool :=
  match g.usedPublisherIDs with
  | none => false
  | some used => decide (id ≠ "") && decide (id ∈ used)

/-- The generation part of an accepted `SetPublisher`. -/
def install (pub : Publisher) (writeCursor : ℕ) (g : GenerationState) : GenerationState :=
  let closed := g.closeGeneration writeCursor
  { state := .publishing
    publisher := some pub
    usedPublisherIDs :=
      if pub.id ≠ "" then
        closed.usedPublisherIDs.map fun used => pub.id :: used
      else closed.usedPublisherIDs
    lastPublisherID := pub.id
    lastPublisherGeneration := closed.publisherGeneration + 1
    publisherGeneration := closed.publisherGeneration + 1
    generationStartCursor := writeCursor
    boundaries := closed.boundaries ++ [⟨0, false⟩]
    generationBoundary := some closed.boundaries.length }

def detach (writeCursor : ℕ) (g : GenerationState) : GenerationState :=
  { g.closeGeneration writeCursor with
    publisher := none
    state := .noPublisher }

/-- `Close` and `DiscardFailedAdmission` retire the stream. -/
def retire (writeCursor : ℕ) (g : GenerationState) : GenerationState :=
  { g.closeGeneration writeCursor with
    publisher := none
    usedPublisherIDs := none
    state := .destroying }

/-- `GenerationEndCursor` of a snapshot that holds this boundary. -/
def generationEndCursor (boundary : Option ℕ) (g : GenerationState) : Option ℕ :=
  (boundary.bind fun i => g.boundaries[i]?).bind GenerationBoundary.end?

/-- A timer that finds the stream unused retires it as well, without touching
the generation, which has ended before. -/
def expire (g : GenerationState) : GenerationState :=
  { g with usedPublisherIDs := none, state := .destroying }

end GenerationState

/-! ## Timers -/

inductive TimerKind where
  | noPublisher
  | idle
  deriving DecidableEq

structure Timer where
  id : ℕ
  kind : TimerKind
  deriving DecidableEq

/-- A timer is `scheduled` until it is stopped or its time is over.  Then its
callback is a goroutine of its own, in `expired` until it gets the lock;
stopping the timer no longer prevents it. -/
structure TimerState where
  timerSeq : ℕ
  scheduled : List Timer
  expired : List Timer
  noPublisherTimer : Option ℕ
  idleTimer : Option ℕ

namespace TimerState

def initial : TimerState := ⟨0, [], [], none, none⟩

def stop (id : Option ℕ) (t : TimerState) : TimerState :=
  { t with scheduled := t.scheduled.filter fun timer => some timer.id ≠ id }

def stopNoPublisherTimer (t : TimerState) : TimerState :=
  { t.stop t.noPublisherTimer with noPublisherTimer := none }

def stopIdleTimer (t : TimerState) : TimerState :=
  { t.stop t.idleTimer with idleTimer := none }

def afterFunc (kind : TimerKind) (t : TimerState) : TimerState :=
  { t with
    timerSeq := t.timerSeq + 1
    scheduled := t.scheduled ++ [⟨t.timerSeq, kind⟩] }

def armNoPublisherTimer (t : TimerState) : TimerState :=
  { t.afterFunc .noPublisher with noPublisherTimer := some t.timerSeq }

def armIdleTimer (t : TimerState) : TimerState :=
  { t.afterFunc .idle with idleTimer := some t.timerSeq }

def checkIdleTimeout (cfg : StreamConfig) (unused : Bool) (t : TimerState) : TimerState :=
  if cfg.idleTimeout ≤ 0 then t
  else if unused then
    match t.idleTimer with
    | none => t.armIdleTimer
    | some _ => t
  else t.stopIdleTimer

end TimerState

/-! ## Subscribers -/

structure SubscriberState where
  subscribers : AList fun _ : String => ℕ
  subscriberTotal : ℤ
  generationSubscribers : AList fun _ : ℕ => AList fun _ : String => ℕ

def countOf (counts : AList fun _ : String => ℕ) (protocol : String) : ℕ :=
  (counts.lookup protocol).getD 0

def decrement (counts : AList fun _ : String => ℕ) (protocol : String) :
    AList fun _ : String => ℕ :=
  if countOf counts protocol ≤ 1 then counts.erase protocol
  else counts.insert protocol (countOf counts protocol - 1)

namespace SubscriberState

def initial : SubscriberState := ⟨∅, 0, ∅⟩

def release (protocol : String) (s : SubscriberState) : SubscriberState :=
  { s with
    subscribers := decrement s.subscribers protocol
    subscriberTotal :=
      if 0 < countOf s.subscribers protocol then s.subscriberTotal - 1
      else s.subscriberTotal }

def ofGeneration (generation : ℕ) (s : SubscriberState) : AList fun _ : String => ℕ :=
  (s.generationSubscribers.lookup generation).getD ∅

/-- Drop one lease of the generation; `none` when it holds none. -/
def releaseForGeneration (protocol : String) (generation : ℕ)
    (s : SubscriberState) : Option SubscriberState :=
  let byProtocol := s.ofGeneration generation
  if countOf byProtocol protocol = 0 then none
  else
    let rest := decrement byProtocol protocol
    some { s.release protocol with
      generationSubscribers :=
        if rest.keys = [] then s.generationSubscribers.erase generation
        else s.generationSubscribers.insert generation rest }

/-- The limit check and the count of `addSubscriberLocked`. -/
def add (limits : LimitsConfig) (protocol : String) (s : SubscriberState) :
    Except String SubscriberState :=
  if 0 < limits.maxSubscribersPerStream ∧
      limits.maxSubscribersPerStream ≤ s.subscriberTotal then
    .error s!"max subscribers per stream limit reached ({limits.maxSubscribersPerStream})"
  else
    .ok { s with
      subscribers := s.subscribers.insert protocol (countOf s.subscribers protocol + 1)
      subscriberTotal := s.subscriberTotal + 1 }

def lease (protocol : String) (generation : ℕ) (s : SubscriberState) : SubscriberState :=
  let byProtocol := s.ofGeneration generation
  { s with
    generationSubscribers := s.generationSubscribers.insert generation
      (byProtocol.insert protocol (countOf byProtocol protocol + 1)) }

end SubscriberState

/-! ## The stream -/

structure Stream extends GopState, StartupState, RateState, GenerationState,
    TimerState, SubscriberState where
  key : String
  instanceID : ℕ
  config : StreamConfig
  limits : LimitsConfig
  ringBuffer : RingBuffer (Option AVFrame)

/-- `instanceID` comes from a process-wide counter. -/
def newStream (key : String) (instanceID : ℕ) (cfg : StreamConfig)
    (limits : LimitsConfig) : Stream :=
  { GenerationState.initial, TimerState.initial, SubscriberState.initial,
    StartupState.initial, RateState.initial with
    gopCache := []
    gopStarts := []
    gopBytes := []
    gopMinDTS := []
    gopMaxDTS := []
    gopGeneration := 0
    gopCacheSealed := false
    key := key
    instanceID := instanceID
    config := normalizeGOPConfig cfg
    limits := limits
    ringBuffer := newRingBuffer cfg.ringBufferSize }

namespace Stream

def writeCursor (s : Stream) : ℕ := s.ringBuffer.writeCursor

def unused (s : Stream) : Bool :=
  s.publisher.isNone && decide (s.subscriberTotal = 0)

/-- The changes of an accepted `SetPublisher`. -/
def startGeneration (pub : Publisher) (now : ℤ) (s : Stream) : Stream :=
  { s with
    toTimerState := s.toTimerState.stopNoPublisherTimer.stopIdleTimer
    toGenerationState := s.toGenerationState.install pub s.writeCursor
    toGopState := s.toGopState.reset
    toStartupState := s.toStartupState.restart pub.mediaInfo
    toRateState := s.toRateState.restart now }

def setPublisher (pub : Option Publisher) (now : ℤ) (s : Stream) : Except String Stream :=
  match pub with
  | none => .error "publisher is nil"
  | some pub =>
    if s.state = .publishing then .error "stream already has a publisher"
    else if s.state = .destroying then .error "stream is destroying"
    else if s.idUsed pub.id then
      .error s!"publisher ID {pub.id.quote} was already used by an earlier generation"
    else .ok (s.startGeneration pub now)

theorem setPublisher_eq_ok {pub : Publisher} {now : ℤ} {s s' : Stream}
    (h : s.setPublisher (some pub) now = .ok s') :
    s.state ≠ .publishing ∧ s.state ≠ .destroying ∧ s.idUsed pub.id = false ∧
      s' = s.startGeneration pub now := by
  unfold setPublisher at h
  by_cases hpublishing : s.state = .publishing
  · simp [hpublishing] at h
  by_cases hdestroying : s.state = .destroying
  · simp [hdestroying] at h
  cases hused : s.idUsed pub.id with
  | true => simp [hpublishing, hdestroying, hused] at h
  | false =>
    simp only [hpublishing, hdestroying, hused, if_false, Except.ok.injEq, Bool.false_eq_true] at h
    exact ⟨hpublishing, hdestroying, rfl, h.symm⟩

/-- An accepted frame updates the startup information and the GOP cache and
goes into the ring. -/
def publishFrame (frame : AVFrame) (s : Stream) : Stream :=
  let published := s.toStartupState.published frame
  { s with
    toStartupState := s.toStartupState.writeFrame frame
    toGopState := s.toGopState.writeFrame s.config published s.writeCursor
    toRateState := s.toRateState.recordFrame frame
    ringBuffer := s.ringBuffer.write (some published) }

def writeFrameLocked (clock : RateState.Clock) (frame : AVFrame) (s : Stream) : Bool × Stream :=
  let admitted := s.toRateState.admits clock s.limits frame
  let checked := { s with toRateState := admitted.2 }
  if admitted.1 then (true, checked.publishFrame frame) else (false, checked)

def writeFrameForPublisher (pub : Option Publisher) (clock : RateState.Clock)
    (frame : Option AVFrame) (s : Stream) : Bool × Stream :=
  match frame with
  | none => (false, s)
  | some frame =>
    if s.publisherMatches pub then s.writeFrameLocked clock frame
    else (false, s)

def removePublisherLocked (s : Stream) : Stream :=
  if s.state = .destroying then s
  else
    let detached := { s with
      toGenerationState := s.toGenerationState.detach s.writeCursor
      toStartupState := s.toStartupState.lose
      toTimerState :=
        if 0 < s.config.noPublisherTimeout then
          s.toTimerState.armNoPublisherTimer
        else s.toTimerState }
    { detached with
      toTimerState :=
        detached.toTimerState.checkIdleTimeout s.config detached.unused }

def removePublisherIf (pub : Option Publisher) (s : Stream) : Bool × Stream :=
  if s.publisherMatches pub then (true, s.removePublisherLocked)
  else (false, s)

def updatePolicy (cfg : StreamConfig) (limits : LimitsConfig) (s : Stream) : Stream :=
  let cfg := normalizeGOPConfig cfg
  let stopped := s.toTimerState.stopNoPublisherTimer
  let armed :=
    if s.state = .noPublisher ∧ 0 < cfg.noPublisherTimeout then
      stopped.armNoPublisherTimer
    else stopped
  { s with
    config := cfg
    limits := limits
    toGopState := s.toGopState.updatePolicy cfg
    toTimerState := armed.stopIdleTimer.checkIdleTimeout cfg s.unused }

def resetSimulcastVideo (s : Stream) : Stream :=
  { s with
    toGopState := s.toGopState.reset
    toStartupState := s.toStartupState.resetVideo }

/-- The locked part of `Close`.  The destroy notification follows it. -/
def close (s : Stream) : Stream :=
  if s.state = .destroying then { s with ringBuffer := s.ringBuffer.close }
  else
    { s with
      toTimerState := s.toTimerState.stopNoPublisherTimer.stopIdleTimer
      toGenerationState := s.toGenerationState.retire s.writeCursor
      toStartupState := s.toStartupState.lose
      ringBuffer := s.ringBuffer.close }

/-- The locked part of `DiscardFailedAdmission`; on success `Close` follows. -/
def discardFailedAdmission (publisherID : String) (s : Stream) : Bool × Stream :=
  if publisherID = "" ∨ s.state = .destroying ∨ s.publisher.isSome ∨
      s.subscriberTotal ≠ 0 ∨
      (s.lastPublisherID ≠ "" ∧ s.lastPublisherID ≠ publisherID) then
    (false, s)
  else
    (true,
      { s with
        toTimerState := s.toTimerState.stopNoPublisherTimer.stopIdleTimer
        toGenerationState := s.toGenerationState.retire s.writeCursor
        toStartupState := s.toStartupState.lose })

/-- The check a timer callback makes under the lock. -/
def timerFires (s : Stream) : TimerKind → Bool
  | .noPublisher => decide (s.state = .noPublisher)
  | .idle => s.unused

/-- The locked part of a timer callback, and whether it notifies. -/
def timerCallback (kind : TimerKind) (s : Stream) : Bool × Stream :=
  if s.timerFires kind then
    (true,
      { s with
        toGenerationState := s.toGenerationState.expire
        toStartupState := s.toStartupState.signal })
  else (false, s)

def addSubscriber (protocol : String) (s : Stream) : Except String Stream :=
  match s.toSubscriberState.add s.limits protocol with
  | .error e => .error e
  | .ok subscribed =>
    .ok { s with
      toSubscriberState := subscribed
      toTimerState := s.toTimerState.stopIdleTimer }

def addSubscriberForGeneration (protocol : String) (generation : ℕ)
    (s : Stream) : Except String Stream :=
  if s.state ≠ .publishing ∨ s.publisherGeneration ≠ generation then
    .error s!"publisher generation {generation} is no longer active"
  else
    match s.addSubscriber protocol with
    | .error e => .error e
    | .ok added =>
      .ok { added with
        toSubscriberState := added.toSubscriberState.lease protocol generation }

def removeSubscriber (protocol : String) (s : Stream) : Stream :=
  let released := { s with
    toSubscriberState := s.toSubscriberState.release protocol }
  { released with
    toTimerState :=
      s.toTimerState.checkIdleTimeout s.config released.unused }

/-- What a release function does the first time it is called. -/
def removeSubscriberForGeneration (protocol : String) (generation : ℕ) (s : Stream) : Stream :=
  match s.toSubscriberState.releaseForGeneration protocol generation with
  | none => s
  | some rest =>
    let released := { s with toSubscriberState := rest }
    { released with
      toTimerState :=
        s.toTimerState.checkIdleTimeout s.config released.unused }

end Stream

/-! ## The startup snapshot -/

structure StreamStartupSnapshot where
  streamInstanceID : ℕ
  generation : ℕ
  publisherID : String
  generationStartCursor : ℕ
  mediaInfo : MediaInfo
  videoSequenceHeader : Option AVFrame
  audioSequenceHeader : Option AVFrame
  replayFrames : List AVFrame
  liveCursor : ℕ
  sourceCursor : ℕ
  ready : Bool
  audioCodecEpoch : ℕ
  generationBoundary : Option ℕ
  deriving DecidableEq

/-- Read `n` frames from the reader at `readCursor`.  The media among them are
collected; an overwritten or missing frame makes the read fail. -/
def readRetained (rb : RingBuffer (Option AVFrame)) : ℕ → ℕ → Option (List AVFrame)
  | _, 0 => some []
  | readCursor, n + 1 =>
    let read := tryReadResult rb readCursor
    match read.1.ok, read.1.overwritten, read.1.value with
    | true, 0, some frame =>
      match readRetained rb read.2 n with
      | none => none
      | some rest => some (if frame.isMedia then frame :: rest else rest)
    | _, _, _ => none

/-- The frames from `start` to before `liveCursor`, if the ring still has them
and they begin with a keyframe. -/
def replayFrom (rb : RingBuffer (Option AVFrame)) (liveCursor start : ℕ) :
    Option (List AVFrame) :=
  let first := tryReadResult rb start
  match first.1.ok, first.1.overwritten, first.1.value with
  | true, 0, some key =>
    if key.frameType.isKeyframe then
      match readRetained rb first.2 (liveCursor - (start + 1)) with
      | none => none
      | some rest => some (key :: rest)
    else none
  | _, _, _ => none

/-- The oldest cached GOP whose frames the ring still has. -/
def retainedStartupReplay (rb : RingBuffer (Option AVFrame))
    (liveCursor : ℕ) : List ℕ → List AVFrame × ℕ
  | [] => ([], liveCursor)
  | start :: starts =>
    match replayFrom rb liveCursor start with
    | some replay => (replay, start)
    | none => retainedStartupReplay rb liveCursor starts

namespace Stream

/-- Replay frames and source cursor.  A bounded GOP may end before live; then
the missing frames are recovered from the ring. -/
def startupReplay (s : Stream) : List AVFrame × ℕ :=
  let liveCursor := s.writeCursor
  let sourceCursor := s.gopStarts.headD liveCursor
  let replayFrames := s.gopCache.flatten
  if replayFrames.length < liveCursor - sourceCursor then
    retainedStartupReplay s.ringBuffer liveCursor s.gopStarts
  else (replayFrames, sourceCursor)

def startupSnapshot (s : Stream) : StreamStartupSnapshot :=
  { streamInstanceID := s.instanceID
    generation := s.publisherGeneration
    publisherID := (s.publisher.map Publisher.id).getD ""
    generationStartCursor := s.generationStartCursor
    mediaInfo := s.mediaInfo
    videoSequenceHeader := s.videoSeqHeader
    audioSequenceHeader := s.audioSeqHeader
    replayFrames := s.startupReplay.1
    liveCursor := s.writeCursor
    sourceCursor := s.startupReplay.2
    ready := s.startupReady
    audioCodecEpoch := s.audioCodecEpoch
    generationBoundary := s.generationBoundary }

/-- `WaitForStartup` returns once the current generation publishes and is
ready. -/
def startupAvailable (s : Stream) : Bool :=
  decide (s.state = .publishing) && s.startupReady

end Stream

end LiveForge.Core
