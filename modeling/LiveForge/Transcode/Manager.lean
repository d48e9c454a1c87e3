import LiveForge.Stream.Boundary
import LiveForge.Support.PointerTable
import LiveForge.Transcode.Track

/-!
# The transcode manager

`TranscodeManager` of `core/transcode_manager.go` creates a track when the
first subscriber asks for a codec, shares it, and drops it with the last one.
Combined and audio-only tracks live in two maps of the source; here the flag is
part of the key.

The system consists of the stream, the manager, the release functions handed
out so far, and one producer for each track.  Acquisition and `SetPublisher`
hold the locks of the stream and of the manager, so each is one step.  The
goroutine between a track's ring and the ring of one subscriber is left out:
it changes nothing that is modelled here.
-/

namespace LiveForge.Core

open AudioCodec Support

structure TrackKey where
  audioOnly : Bool
  targetCodec : CodecType
  deriving DecidableEq

/-- A release function.  Its first call stops the reader, which takes a while,
and then releases the track; later calls do nothing. -/
inductive LeaseState where
  | held
  | stopping
  | released
  deriving DecidableEq

structure TrackLease where
  key : TrackKey
  track : ℕ
  state : LeaseState

/-- The arguments of `getOrCreateReaderAt` that the modelled part reads. -/
structure ReaderRequest where
  targetCodec : CodecType
  sourceStart : ℕ
  audioEpochFloor : ℕ
  audioOnly : Bool
  forceTrack : Bool
  snapshot : Option StreamStartupSnapshot
  deriving DecidableEq

def ReaderRequest.key (r : ReaderRequest) : TrackKey :=
  ⟨r.audioOnly, r.targetCodec⟩

/-- What an acquisition returns: a reader of the source ring, or one of a
track. -/
inductive AcquiredReader where
  | source (readCursor : ℕ)
  | track (pointer : ℕ)

abbrev TrackTable (reg : Registry) := PointerTable TrackKey (TranscodedTrack reg)

structure TranscodeManager (reg : Registry) where
  bufSize : ℤ
  tracks : TrackTable reg
  leases : List TrackLease

variable {reg : Registry}

/-- The checks that the stream still is in the state of the request. -/
def checkRequest (s : Stream) (snapshot : Option StreamStartupSnapshot) : Except String Unit :=
  let activeGeneration :=
    decide (s.state = .publishing) && s.publisher.isSome
  match snapshot with
  | none =>
    if activeGeneration then .ok () else .error "no publisher on stream"
  | some snap =>
    if s.instanceID ≠ snap.streamInstanceID ∨
        s.publisherGeneration ≠ snap.generation ∨
        s.generationBoundary ≠ snap.generationBoundary then
      .error (s!"stale stream startup snapshot generation {snap.generation} " ++
        s!"(active {s.publisherGeneration})")
    else if activeGeneration = false ∧
        (s.generationEndCursor snap.generationBoundary).isNone then
      .error "no publisher on stream"
    else .ok ()

namespace TranscodeManager

def new (bufSize : ℤ) : TranscodeManager reg := ⟨bufSize, .empty, []⟩

def addReader (track : TranscodedTrack reg) : TranscodedTrack reg :=
  { track with subCount := track.subCount + 1 }

def removeReader (track : TranscodedTrack reg) : TranscodedTrack reg :=
  { track with subCount := track.subCount - 1 }

def addLease (key : TrackKey) (track : ℕ) (tm : TranscodeManager reg) : TranscodeManager reg :=
  { tm with leases := tm.leases ++ [⟨key, track, .held⟩] }

/-- Join the track of a key, or create it. -/
def acquireTrack (s : Stream) (r : ReaderRequest) (tm : TranscodeManager reg) :
    ℕ × TranscodeManager reg :=
  match tm.tracks.pointer? r.key with
  | some pointer =>
    let joined := tm.tracks.modify pointer addReader
    (pointer, { tm with tracks := joined }.addLease r.key pointer)
  | none =>
    let sourceCodec :=
      match r.snapshot with
      | none => s.mediaInfo.audioCodec
      | some snap => snap.mediaInfo.audioCodec
    let boundary :=
      match r.snapshot with
      | none => s.generationBoundary
      | some snap => snap.generationBoundary
    let track := newTranscodedTrack reg tm.bufSize r.targetCodec r.audioOnly
      r.sourceStart r.audioEpochFloor sourceCodec boundary
    let pointer := tm.tracks.cells.length
    (pointer, { tm with tracks := tm.tracks.insertNew r.key track }.addLease r.key pointer)

def getOrCreateReaderAt (s : Stream) (r : ReaderRequest) (tm : TranscodeManager reg) :
    Except String (AcquiredReader × TranscodeManager reg) :=
  match checkRequest s r.snapshot with
  | .error e => .error e
  | .ok () =>
    let sourceCodec :=
      match r.snapshot with
      | none => s.mediaInfo.audioCodec
      | some snap => snap.mediaInfo.audioCodec
    if r.targetCodec = sourceCodec ∧ r.forceTrack = false then
      .ok (.source r.sourceStart, tm)
    else
      let acquired := tm.acquireTrack s r
      .ok (.track acquired.1, acquired.2)

def cancelTrack (cause : TranscodeCause) (track : TranscodedTrack reg) : TranscodedTrack reg :=
  { track with cancelled := some (track.cancelled.getD cause) }

/-- A release of a track that the key no longer stands for does nothing. -/
def releaseTrack (key : TrackKey) (acquired : ℕ) (tracks : TrackTable reg) : TrackTable reg :=
  if tracks.pointer? key = some acquired then
    let left := tracks.modify acquired removeReader
    match left.cells[acquired]? with
    | some track =>
      if track.subCount ≤ 0 then
        (left.modify acquired (cancelTrack .subscriberReleased)).erase key
      else left
    | none => left
  else tracks

/-- The first call of a release function begins to stop its reader. -/
def callRelease (i : ℕ) (tm : TranscodeManager reg) : TranscodeManager reg :=
  { tm with
    leases := tm.leases.modify i fun lease =>
      match lease.state with
      | .held => { lease with state := .stopping }
      | _ => lease }

def finishRelease (i : ℕ) (tm : TranscodeManager reg) : Option (TranscodeManager reg) :=
  match tm.leases[i]? with
  | some lease =>
    if lease.state = .stopping then
      some { tm with
        tracks := releaseTrack lease.key lease.track tm.tracks
        leases := tm.leases.set i { lease with state := .released } }
    else none
  | none => none

/-- Cancel the track of a key unless its generation is over, and delete it. -/
def resetTrack (s : Stream) (tracks : TrackTable reg) (key : TrackKey) : TrackTable reg :=
  match tracks.pointer? key with
  | none => tracks
  | some pointer =>
    (tracks.modify pointer fun track =>
      if (s.generationEndCursor track.generationBoundary).isNone then
        cancelTrack .managerReset track
      else track).erase key

def reset (s : Stream) (tm : TranscodeManager reg) : TranscodeManager reg :=
  { tm with tracks := tm.tracks.table.keys.foldl (resetTrack s) tm.tracks }

end TranscodeManager

/-! ## The system -/

structure TranscodeSystem (reg : Registry) where
  trace : StreamTrace
  manager : TranscodeManager reg

inductive TranscodeAction where
  | stream (a : StreamAction)
  | acquire (r : ReaderRequest)
  | callRelease (lease : ℕ)
  | finishRelease (lease : ℕ)
  | reset
  | loop (track : ℕ)
  | cancelRead (track : ℕ)
  deriving DecidableEq

namespace TranscodeSystem

def initial (reg : Registry) (key : String) (instanceID : ℕ) (cfg : StreamConfig)
    (limits : LimitsConfig) (bufSize : ℤ) : TranscodeSystem reg :=
  ⟨StreamTrace.initial key instanceID cfg limits, .new bufSize⟩

def tracks (s : TranscodeSystem reg) : TrackTable reg := s.manager.tracks

/-- Let the goroutines of a track take a step. -/
def withTrack (s : TranscodeSystem reg) (pointer : ℕ)
    (act : TranscodedTrack reg → Option (TranscodedTrack reg)) : Option (TranscodeSystem reg) :=
  (s.tracks.cells[pointer]?.bind act).map fun track =>
    { s with manager := { s.manager with
      tracks := s.tracks.modify pointer fun _ => track } }

/-- An accepted `SetPublisher` resets the manager before it ends the old
generation. -/
def resetBefore (s : TranscodeSystem reg) : StreamAction → TranscodeManager reg
  | .setPublisher pub now =>
    match s.trace.stream.setPublisher pub now with
    | .ok _ => s.manager.reset s.trace.stream
    | .error _ => s.manager
  | _ => s.manager

def step (s : TranscodeSystem reg) : TranscodeAction → Option (TranscodeSystem reg)
  | .stream a => (s.trace.step a).map fun trace => ⟨trace, s.resetBefore a⟩
  | .acquire r =>
    match s.manager.getOrCreateReaderAt s.trace.stream r with
    | .ok (_, manager) => some { s with manager }
    | .error _ => some s
  | .callRelease i => some { s with manager := s.manager.callRelease i }
  | .finishRelease i =>
    (s.manager.finishRelease i).map fun manager => { s with manager }
  | .reset => some { s with manager := s.manager.reset s.trace.stream }
  | .loop pointer =>
    s.withTrack pointer (TranscodedTrack.loopStep s.trace.stream)
  | .cancelRead pointer =>
    s.withTrack pointer (TranscodedTrack.cancelRead s.trace.stream)

end TranscodeSystem

end LiveForge.Core
