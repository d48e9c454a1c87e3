import LiveForge.Fmp4.Reader

/-!
# Recording fragmented MP4

`fmp4FrameWriter` of `module/record/file_writer.go`.  Frames wait for the
sequence headers of the tracks that were declared; then every group of pictures
becomes one fragment, and the last one is written when the file is closed.  The
decode times of a track count from the first frame of that track.

The file is the list of what was written to it.  A piece of media keeps the
frames it was made from next to its bytes; only the bytes are in the file.
-/

namespace LiveForge.Record

open Support Fmp4

/-! ## The file -/

inductive Chunk where
  | init (segment : InitSegment)
  | media (frames : List AVFrame) (data : Bytes)

def Chunk.frames : Chunk → List AVFrame
  | .init _ => []
  | .media frames _ => frames

inductive WriteError where
  | initSegment
  | segment
  | flushSegment
  | codecConfig
  | nilMuxer

/-- The file refuses some writes; nothing is written then. -/
def writeChunk (refuses : List Chunk → Bool) (error : WriteError)
    (file : List Chunk) (chunk : Chunk) : Except WriteError (List Chunk) :=
  if refuses file then .error error else .ok (file ++ [chunk])

theorem writeChunk_eq_ok {refuses : List Chunk → Bool} {error : WriteError}
    {file file' : List Chunk} {chunk : Chunk}
    (h : writeChunk refuses error file chunk = .ok file') :
    file' = file ++ [chunk] := by
  unfold writeChunk at h
  split_ifs at h
  exact (Except.ok.inj h).symm

/-! ## The writer -/

structure Fmp4FrameWriter where
  muxer : Option Muxer := none
  initDone : Bool := false
  gopBuffer : List AVFrame := []
  pendingFrames : List AVFrame := []
  videoSeq : Option AVFrame := none
  audioSeq : Option AVFrame := none
  expectedTracksSet : Bool := false
  expectedVideo : Bool := false
  expectedAudio : Bool := false
  videoBaseDTS : ℤ := 0
  audioBaseDTS : ℤ := 0
  videoBaseSet : Bool := false
  audioBaseSet : Bool := false

namespace Fmp4FrameWriter

def setExpectedTracks (w : Fmp4FrameWriter) (videoCodec audioCodec : CodecType) :
    Fmp4FrameWriter :=
  { w with
    expectedTracksSet := true
    expectedVideo := videoCodec.isVideo
    expectedAudio := audioCodec.isAudio }

def tracksReady (w : Fmp4FrameWriter) : Bool :=
  (!w.expectedVideo || w.videoSeq.isSome) && (!w.expectedAudio || w.audioSeq.isSome)

/-- The codec of a track: that of its sequence header, or else that of the frame
at hand. -/
def trackCodec (seq frame : Option AVFrame) (mediaType : MediaType) : CodecType :=
  let known := (seq.map AVFrame.codec).getD .none
  match frame with
  | some f => if known = .none ∧ f.mediaType = mediaType then f.codec else known
  | none => known

def initialMuxer (w : Fmp4FrameWriter) (frame : Option AVFrame) : Muxer × InitSegment :=
  (newMuxer (trackCodec w.videoSeq frame .video)
    (trackCodec w.audioSeq frame .audio)).init w.videoSeq w.audioSeq 0 0

section Steps

variable (refuses : List Chunk → Bool)

def initializeFile (w : Fmp4FrameWriter) (frame : Option AVFrame)
    (file : List Chunk) : Except WriteError (Fmp4FrameWriter × List Chunk) :=
  (writeChunk refuses .initSegment file (.init (w.initialMuxer frame).2)).map fun file =>
      ({ w with muxer := some (w.initialMuxer frame).1, initDone := true }, file)

def writeSegment (w : Fmp4FrameWriter) (error : WriteError) (toWrite : List AVFrame)
    (file : List Chunk) : Except WriteError (Muxer × List Chunk) :=
  match w.muxer with
  | none => .error .nilMuxer
  | some m =>
    let written := m.writeSegmentWithBaseDTS toWrite w.videoBaseDTS
      w.audioBaseDTS
    (writeChunk refuses error file (.media toWrite written.2)).map fun file =>
      (written.1, file)

def setBase (w : Fmp4FrameWriter) (frame : AVFrame) : Fmp4FrameWriter :=
  if frame.mediaType = .video ∧ w.videoBaseSet = false then
    { w with videoBaseDTS := frame.dts, videoBaseSet := true }
  else if frame.mediaType = .audio ∧ w.audioBaseSet = false then
    { w with audioBaseDTS := frame.dts, audioBaseSet := true }
  else w

/-- A keyframe of the video starts a new group of pictures; the one before it
is written. -/
def writeMediaFrame (w : Fmp4FrameWriter) (frame : AVFrame)
    (file : List Chunk) : Except WriteError (Fmp4FrameWriter × List Chunk) :=
  let w := w.setBase frame
  if frame.mediaType = .video ∧ frame.frameType = .keyframe ∧
      w.gopBuffer ≠ [] then
    (w.writeSegment refuses .segment w.gopBuffer file).map fun written =>
      ({ w with muxer := some written.1, gopBuffer := [frame] }, written.2)
  else .ok ({ w with gopBuffer := w.gopBuffer ++ [frame] }, file)

def writeMediaFrames (frames : List AVFrame) (state : Fmp4FrameWriter × List Chunk) :
    Except WriteError (Fmp4FrameWriter × List Chunk) :=
  frames.foldlM (fun state frame =>
    state.1.writeMediaFrame refuses frame state.2) state

def noteHeader (w : Fmp4FrameWriter) (frame : AVFrame) : Fmp4FrameWriter :=
  match frame.mediaType with
  | .video => { w with videoSeq := some frame }
  | .audio => { w with audioSeq := some frame }
  | .other => w

def writeFrame (state : Fmp4FrameWriter × List Chunk) (frame : AVFrame) :
    Except WriteError (Fmp4FrameWriter × List Chunk) :=
  if frame.frameType = .sequenceHeader then
    let w := state.1.noteHeader frame
    if w.expectedTracksSet ∧ w.tracksReady ∧ w.pendingFrames ≠ [] then do
      let started ← w.initializeFile refuses none state.2
      let written ← writeMediaFrames refuses w.pendingFrames started
      return ({ written.1 with pendingFrames := [] }, written.2)
    else .ok (w, state.2)
  else if state.1.initDone then state.1.writeMediaFrame refuses frame state.2
  else if state.1.expectedTracksSet ∧ ¬ state.1.tracksReady then
    .ok ({ state.1 with pendingFrames := state.1.pendingFrames ++ [frame] }, state.2)
  else do
    let started ← state.1.initializeFile refuses (some frame) state.2
    started.1.writeMediaFrame refuses frame started.2

def flush (state : Fmp4FrameWriter × List Chunk) : Except WriteError (List Chunk) :=
  if state.1.initDone = false then
    if state.1.pendingFrames ≠ [] then .error .codecConfig else .ok state.2
  else if state.1.gopBuffer = [] ∨ state.1.muxer = none then .ok state.2
  else
    (state.1.writeSegment refuses .flushSegment state.1.gopBuffer state.2).map Prod.snd

/-- A file from the first frame to its end. -/
def record (w : Fmp4FrameWriter) (frames : List AVFrame) : Except WriteError (List Chunk) := do
  let state ← frames.foldlM (writeFrame refuses) (w, [])
  flush refuses state

end Steps

end Fmp4FrameWriter

end LiveForge.Record
