import LiveForge.Ring.Blocking
import LiveForge.Stream.State
import LiveForge.Transcode.Pipeline

/-!
# Transcoded tracks and their producer

`TranscodedTrack` of `core/transcode_manager.go` is the shared output of one
target codec.  Its producer, `transcodeLoop`, is a goroutine that reads the
source ring from `sourceStart` to the end of one publisher generation.  The
loop is cut into the steps at which it looks at state that others change: its
context, the generation boundary and the source ring.

Three fields of the loop record history and are read by no step: the outputs
written, the source positions whose frames were handled, and the number of
times the pipeline was finalized.
-/

namespace LiveForge.Core

open AudioCodec LiveForge.Ring

/-- Why a track's context was cancelled or its producer stopped. -/
inductive TranscodeCause where
  | generationComplete
  | subscriberReleased
  | managerReset
  | sourceClosed
  | sourceOverwrite (overwritten : ℕ)
  deriving DecidableEq

inductive LoopPc where
  | start
  | checkContext
  | checkEnd
  | tryRead
  | blockingRead (pc : BlockingPc)
  | notRead
  | notReadEnd
  | gotFrame (frame : AVFrame) (consumedCursor : ℕ)
  | handleFrame (frame : AVFrame) (consumedCursor : ℕ)
  | advance (consumedCursor : ℕ)
  | closeRing
  | closePipeline
  | stopped

/-- The local variables of `transcodeLoop`.  `readCancelled` is the state of
the context of its blocking reads. -/
structure TranscodeLoop (reg : Registry) where
  pc : LoopPc
  readCursor : ℕ
  readCancelled : Bool
  pipeline : Option (AudioTranscodePipeline reg)
  sourceCodec : CodecType
  sourceEpoch : ℕ
  written : List TranscodeOutput
  consumed : List ℕ
  finalizations : ℕ

structure TranscodedTrack (reg : Registry) where
  targetCodec : CodecType
  audioOnly : Bool
  sourceStart : ℕ
  audioEpochFloor : ℕ
  generationBoundary : Option ℕ
  sourceCodec : CodecType
  sourceEpoch : ℕ
  ringBuffer : RingBuffer TranscodeOutput
  sourceCursor : ℕ
  sequenceHeaders : List TranscodeOutput
  termination : Option TranscodeCause
  subCount : ℤ
  cancelled : Option TranscodeCause
  loop : TranscodeLoop reg

def transcodeSequenceHeaderCacheLimit : ℕ := 8

variable {reg : Registry}

/-- A track with its first reader.  The goroutine of the producer has not run
yet. -/
def newTranscodedTrack (reg : Registry) (bufSize : ℤ) (targetCodec : CodecType) (audioOnly : Bool)
    (sourceStart audioEpochFloor : ℕ) (sourceCodec : CodecType) (generationBoundary : Option ℕ) :
    TranscodedTrack reg :=
  { targetCodec, audioOnly, sourceStart, audioEpochFloor, generationBoundary
    sourceCodec := sourceCodec
    sourceEpoch := audioEpochFloor
    ringBuffer := newRingBuffer bufSize
    sourceCursor := sourceStart
    sequenceHeaders := []
    termination := none
    subCount := 1
    cancelled := none
    loop :=
      { pc := .start
        readCursor := sourceStart
        readCancelled := false
        pipeline := none
        sourceCodec := .none
        sourceEpoch := 0
        written := []
        consumed := []
        finalizations := 0 } }

namespace TranscodedTrack

def goto (pc : LoopPc) (track : TranscodedTrack reg) : TranscodedTrack reg :=
  { track with loop := { track.loop with pc } }

/-- The first cause stays. -/
def setTerminationCause (cause : TranscodeCause) (track : TranscodedTrack reg) :
    TranscodedTrack reg :=
  { track with termination := some (track.termination.getD cause) }

/-- The loop returns; its deferred calls follow. -/
def stopWith (cause : TranscodeCause) (track : TranscodedTrack reg) : TranscodedTrack reg :=
  (track.setTerminationCause cause).goto .closeRing

def advanceSourceCursor (cursor : ℕ) (track : TranscodedTrack reg) : TranscodedTrack reg :=
  if cursor ≤ track.sourceCursor then track
  else { track with sourceCursor := cursor }

/-- Replace the newest header of the same epoch, or append and keep the newest
few. -/
def cacheSequenceHeader (output : TranscodeOutput)
    (track : TranscodedTrack reg) : TranscodedTrack reg :=
  if output.frame.isNone ∨ output.kind ≠ .sequenceHeader then track
  else
    let headers := track.sequenceHeaders
    let newest := headers.reverse.findIdx fun header =>
      decide (header.audioEpoch = output.audioEpoch)
    if newest < headers.length then
      { track with
        sequenceHeaders := headers.set (headers.length - 1 - newest) output }
    else
      let appended := headers ++ [output]
      { track with
        sequenceHeaders :=
          appended.drop (appended.length - transcodeSequenceHeaderCacheLimit) }

def emit (outputs : List TranscodeOutput) (track : TranscodedTrack reg) : TranscodedTrack reg :=
  { track with
    ringBuffer := outputs.foldl RingBuffer.write track.ringBuffer
    loop := { track.loop with written := track.loop.written ++ outputs } }

def writeTranscodeSequenceHeader (epoch : ℕ) (dts : ℤ)
    (track : TranscodedTrack reg) : TranscodedTrack reg :=
  match transcodeSequenceHeader reg track.targetCodec epoch dts with
  | none => track
  | some output => (track.cacheSequenceHeader output).emit [output]

def setPipeline (pipeline : Option (AudioTranscodePipeline reg))
    (track : TranscodedTrack reg) : TranscodedTrack reg :=
  { track with loop := { track.loop with pipeline } }

/-! ## Handling a frame -/

/-- The audio changes its codec or its epoch: the old pipeline is closed, and
one for the new codec is opened unless it is the target codec itself. -/
def startEpoch (audioSeqHeader : Option AVFrame) (frame : AVFrame)
    (frameEpoch : ℕ) (track : TranscodedTrack reg) : TranscodedTrack reg :=
  let firstAudioEpoch := decide (track.loop.sourceCodec = .none)
  let switched : TranscodedTrack reg :=
    { track with
      sourceCodec := frame.codec
      sourceEpoch := frameEpoch
      loop := { track.loop with
        pipeline := none
        sourceCodec := frame.codec
        sourceEpoch := frameEpoch } }
  if frame.codec = track.targetCodec then switched
  else
    match newAudioTranscodePipeline reg audioSeqHeader track.targetCodec
        frame.codec frameEpoch with
    | none => switched
    | some pipeline =>
      let opened := switched.setPipeline (some pipeline)
      if !firstAudioEpoch || decide (frameEpoch ≠ track.audioEpochFloor) then
        opened.writeTranscodeSequenceHeader frameEpoch frame.dts
      else opened

/-- Audio of the epoch that is being handled. -/
def handleAudio (frame : AVFrame) (frameEpoch : ℕ) (sourceSpan : SourceSpan)
    (track : TranscodedTrack reg) : TranscodedTrack reg :=
  if frame.codec = track.targetCodec then
    let cached :=
      if frame.frameType = .sequenceHeader then
        track.cacheSequenceHeader ⟨some frame, .zero, .sequenceHeader, frameEpoch⟩
      else track
    cached.emit [⟨some frame, sourceSpan, .media, frameEpoch⟩]
  else
    match track.loop.pipeline with
    | none => track
    | some pipeline =>
      if frame.frameType = .sequenceHeader then
        track.setPipeline (some (pipeline.setExtradata frame.payload))
      else
        let encoded := pipeline.encode frame sourceSpan
        (track.setPipeline (some encoded.1)).emit encoded.2

/-- A frame without an epoch belongs to the current one. -/
def epochOf (frame : AVFrame) (track : TranscodedTrack reg) : ℕ :=
  if frame.audioCodecEpoch = 0 then track.loop.sourceEpoch
  else frame.audioCodecEpoch

/-- Audio of an epoch below the floor is skipped. -/
def handleEpoch (audioSeqHeader : Option AVFrame) (frame : AVFrame) (frameEpoch : ℕ)
    (sourceSpan : SourceSpan) (track : TranscodedTrack reg) : TranscodedTrack reg :=
  if frameEpoch < track.audioEpochFloor then track
  else
    let current :=
      if frame.codec ≠ track.loop.sourceCodec ∨
          frameEpoch ≠ track.loop.sourceEpoch then
        track.startEpoch audioSeqHeader frame frameEpoch
      else track
    current.handleAudio frame frameEpoch sourceSpan

/-- Video passes through combined tracks; audio is transcoded. -/
def handle (audioSeqHeader : Option AVFrame) (frame : AVFrame) (sourceSpan : SourceSpan)
    (track : TranscodedTrack reg) : TranscodedTrack reg :=
  if frame.mediaType.isVideo then
    if track.audioOnly then track
    else track.emit [⟨some frame, sourceSpan, .media, 0⟩]
  else if frame.mediaType.isAudio then
    track.handleEpoch audioSeqHeader frame (track.epochOf frame) sourceSpan
  else track

/-! ## The loop -/

def finalizePipeline (track : TranscodedTrack reg) : TranscodedTrack reg :=
  match track.loop.pipeline with
  | none => track
  | some pipeline =>
    let result := pipeline.finalize
    let emitted := (track.setPipeline (some result.1)).emit result.2
    { emitted with
      loop := { emitted.loop with
        finalizations := emitted.loop.finalizations + 1 } }

def complete (endCursor : ℕ) (track : TranscodedTrack reg) : TranscodedTrack reg :=
  (track.finalizePipeline.advanceSourceCursor endCursor).stopWith .generationComplete

def afterRead (result : RingReadResult (Option AVFrame)) (readCursor : ℕ)
    (track : TranscodedTrack reg) : Option (TranscodedTrack reg) :=
  let moved := { track with loop := { track.loop with readCursor } }
  if result.ok = false then some (moved.goto .notRead)
  else if 0 < result.overwritten then
    some (moved.stopWith (.sourceOverwrite result.overwritten))
  else
    -- the ring holds no nil frames; one would make the goroutine panic
    result.value.map fun frame => moved.goto (.gotFrame frame readCursor)

def loopStep (s : Stream) (track : TranscodedTrack reg) : Option (TranscodedTrack reg) :=
  let ended := s.generationEndCursor track.generationBoundary
  match track.loop.pc with
  | .start =>
    some ((track.writeTranscodeSequenceHeader track.audioEpochFloor 0).goto .checkContext)
  | .checkContext =>
    match track.cancelled with
    | some cause => some (track.stopWith cause)
    | none => some (track.goto .checkEnd)
  | .checkEnd =>
    match ended with
    | some endCursor =>
      if endCursor ≤ track.loop.readCursor then
        some (track.complete endCursor)
      else some (track.goto .tryRead)
    | none => some (track.goto (.blockingRead .entry))
  | .tryRead =>
    let read := tryReadResult s.ringBuffer track.loop.readCursor
    track.afterRead read.1 read.2
  | .blockingRead pc =>
    match readResultContextStep s.ringBuffer track.loop.readCursor false
        track.loop.readCancelled pc with
    | none => none
    | some (.goto pc) => some (track.goto (.blockingRead pc))
    | some (.returned result readCursor) => track.afterRead result readCursor
  | .notRead =>
    match track.cancelled with
    | some cause => some (track.stopWith cause)
    | none => some (track.goto .notReadEnd)
  | .notReadEnd =>
    match ended with
    | some _ => some (track.goto .checkContext)
    | none => some (track.stopWith .sourceClosed)
  | .gotFrame frame consumedCursor =>
    match ended with
    | some endCursor =>
      if endCursor < consumedCursor then some (track.complete endCursor)
      else some (track.goto (.handleFrame frame consumedCursor))
    | none => some (track.goto (.handleFrame frame consumedCursor))
  | .handleFrame frame consumedCursor =>
    let handled := track.handle s.audioSeqHeader frame
      ⟨consumedCursor - 1, consumedCursor⟩
    some { handled with
      loop := { handled.loop with
        pc := .advance consumedCursor
        consumed := handled.loop.consumed ++ [consumedCursor - 1] } }
  | .advance consumedCursor =>
    some ((track.advanceSourceCursor consumedCursor).goto .checkContext)
  | .closeRing =>
    some ({ track with ringBuffer := track.ringBuffer.close }.goto .closePipeline)
  | .closePipeline =>
    some ((track.setPipeline (track.loop.pipeline.map AudioTranscodePipeline.close)).goto .stopped)
  | .stopped => none

/-- The context of the blocking reads is cancelled once the track is cancelled
or its generation is over. -/
def cancelRead (s : Stream) (track : TranscodedTrack reg) : Option (TranscodedTrack reg) :=
  if track.loop.readCancelled = false ∧ (track.cancelled.isSome ∨
      (s.generationEndCursor track.generationBoundary).isSome) then
    some { track with loop := { track.loop with readCancelled := true } }
  else none

end TranscodedTrack

end LiveForge.Core
