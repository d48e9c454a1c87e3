import LiveForge.Fmp4.Segment
import Mathlib.Algebra.Order.BigOperators.Group.List
import Mathlib.Algebra.Order.Group.Nat

/-!
# What a player finds in a fragment

A player walks over the boxes of the `moof`, takes the decode time of the first
sample from `tfdt` and adds up the durations of `trun`, and finds the bytes of
the samples one after the other from the offset in `trun`, counted from the
start of the `moof`.  `readFragment_buildMediaSegment` says what it finds in a
fragment of `buildMediaSegment`.
-/

namespace LiveForge.Fmp4

open Support

/-! ## Reading -/

def boxes (data : Bytes) : List (BoxType × Bytes) :=
  match _h : splitBox data with
  | none => []
  | some (boxType, content, rest) => (boxType, content) :: boxes rest
termination_by data.length
decreasing_by
  have := splitBox_length _h
  omega

structure TrunEntry where
  duration : ℕ
  size : ℕ
  flags : ℕ
  compositionOffset : ℤ

def readEntries : ℕ → Bytes → Option (List TrunEntry)
  | 0, _ => some []
  | count + 1, a :: b :: c :: d :: e :: f :: g :: h :: i :: j :: k :: l ::
      m :: n :: o :: p :: rest =>
      (readEntries count rest).map fun entries =>
        { duration := be32 a b c d
          size := be32 e f g h
          flags := be32 i j k l
          compositionOffset := toI32 (be32 m n o p) } :: entries
  | _ + 1, _ => none

def readTfhd : Bytes → Option ℕ
  | [_, _, _, _, a, b, c, d] => some (be32 a b c d)
  | _ => none

def readTfdt : Bytes → Option ℕ
  | [1, _, _, _, a, b, c, d, e, f, g, h] => some (be64 a b c d e f g h)
  | _ => none

/-- Offset of the data and entries, of a run with all four fields. -/
def readTrun : Bytes → Option (ℕ × List TrunEntry)
  | 1 :: 0 :: 0x0F :: 0x01 :: a :: b :: c :: d :: e :: f :: g :: h :: rest =>
    (readEntries (be32 a b c d) rest).map fun entries =>
      (be32 e f g h, entries)
  | _ => none

structure Sample where
  time : ℕ
  compositionOffset : ℤ
  data : Bytes

def placeSamples (segment : Bytes) (time position : ℕ) : List TrunEntry → List Sample
  | [] => []
  | entry :: rest =>
    { time
      compositionOffset := entry.compositionOffset
      data := (segment.drop position).take entry.size } ::
    placeSamples segment (time + entry.duration) (position + entry.size) rest

def readTraf (segment content : Bytes) : Option (ℕ × List Sample) := do
  let inner := boxes content
  let trackID ← (inner.lookup boxTfhd).bind readTfhd
  let time ← (inner.lookup boxTfdt).bind readTfdt
  let run ← (inner.lookup boxTrun).bind readTrun
  return (trackID, placeSamples segment time run.1 run.2)

/-- The samples of every track of a fragment that starts with its `moof`. -/
def readFragment (segment : Bytes) : Option (List (ℕ × List Sample)) :=
  match splitBox segment with
  | some (boxType, content, _) =>
    if boxType = boxMoof then
      ((boxes content).filter fun box => box.1 = boxTraf).mapM fun box =>
        readTraf segment box.2
    else none
  | none => none

/-- A track the fragment does not mention has no samples in it. -/
def samplesOf (trackID : ℕ) (segment : Bytes) : List Sample :=
  (((readFragment segment).getD []).lookup trackID).getD []

/-! ## Boxes that were written -/

theorem writeFullBox_eq (boxType : BoxType) (version : UInt8) (flags : ℕ) (payload : Bytes) :
    writeFullBox boxType version flags payload =
      writeBox boxType ([version] ++ be24Bytes flags ++ payload) := by
  simp only [writeFullBox, writeBox, be24Bytes, List.append_assoc,
    List.cons_append, List.nil_append, List.length_cons]
  congr 2
  omega

@[simp] theorem length_writeBox (boxType : BoxType) (payload : Bytes) :
    (writeBox boxType payload).length = 8 + payload.length := by
  simp only [writeBox, BoxType.bytes, List.length_append, length_be32Bytes,
    List.length_cons, List.length_nil]

variable {payload data content rest front segment : Bytes} {boxType : BoxType}
  {frames : List AVFrame} {position : ℕ}

theorem splitBox_writeBox (boxType : BoxType) (hsize : 8 + payload.length < 2 ^ 32) (rest : Bytes) :
    splitBox (writeBox boxType payload ++ rest) = some (boxType, payload, rest) := by
  have hread := be32_byteOf (8 + payload.length)
  rw [Nat.mod_eq_of_lt hsize] at hread
  have hform : writeBox boxType payload ++ rest =
      byteOf (8 + payload.length) 24 :: byteOf (8 + payload.length) 16 ::
        byteOf (8 + payload.length) 8 :: byteOf (8 + payload.length) 0 ::
          boxType.a :: boxType.b :: boxType.c :: boxType.d :: (payload ++ rest) := rfl
  rw [hform, splitBox, hread,
    if_neg (by simp only [List.length_append]; omega), Nat.add_sub_cancel_left,
    List.take_left, List.drop_left]

theorem boxes_of_splitBox (h : splitBox data = some (boxType, content, rest)) :
    boxes data = (boxType, content) :: boxes rest := by
  rw [boxes]
  split
  next hnone => simp [h] at hnone
  next t c r hsome =>
    rw [h] at hsome
    cases hsome
    rfl

theorem boxes_writeBox (boxType : BoxType) (hsize : 8 + payload.length < 2 ^ 32) (rest : Bytes) :
    boxes (writeBox boxType payload ++ rest) = (boxType, payload) :: boxes rest :=
  boxes_of_splitBox (splitBox_writeBox boxType hsize rest)

@[simp] theorem boxes_nil : boxes [] = [] := by
  rw [boxes]
  rfl

/-! ## Offsets that were put in -/

theorem fixTrun_of_splitBox {dataOffset : ℕ} (h : splitBox data = some (boxType, content, rest)) :
    fixTrun dataOffset data =
      (if boxType = boxTrun then patchDataOffset dataOffset data else data).take
        (data.length - rest.length) ++
        fixTrun dataOffset
          ((if boxType = boxTrun then patchDataOffset dataOffset data else data).drop
            (data.length - rest.length)) := by
  rw [fixTrun]
  split
  next hnone => simp [h] at hnone
  next t c r hsome =>
    rw [h] at hsome
    cases hsome
    rfl

@[simp] theorem fixTrun_nil (dataOffset : ℕ) : fixTrun dataOffset [] = [] := by
  rw [fixTrun]
  rfl

theorem fixTrun_other (hsize : 8 + payload.length < 2 ^ 32) (hother : boxType ≠ boxTrun)
    (dataOffset : ℕ) (rest : Bytes) :
    fixTrun dataOffset (writeBox boxType payload ++ rest) =
      writeBox boxType payload ++ fixTrun dataOffset rest := by
  rw [fixTrun_of_splitBox (splitBox_writeBox _ hsize rest), if_neg hother,
    List.length_append, Nat.add_sub_cancel, List.take_left, List.drop_left]

theorem patchDataOffset_append (hfront : front.length = 16) (old dataOffset : ℕ) (rest : Bytes) :
    patchDataOffset dataOffset (front ++ (be32Bytes old ++ rest)) =
      front ++ (be32Bytes dataOffset ++ rest) := by
  have hold : (be32Bytes old).length = 4 := rfl
  have htail : (front ++ (be32Bytes old ++ rest)).drop 20 = rest := by
    rw [show 20 = 16 + 4 from rfl, ← List.drop_drop, ← hfront, List.drop_left,
      ← hold, List.drop_left]
  rw [patchDataOffset, if_pos (by simp only [List.length_append]; omega), htail,
    ← hfront, List.take_left, List.append_assoc]

def trunContent (count dataOffset : ℕ) (entries : Bytes) : Bytes :=
  [1] ++ be24Bytes 0x000F01 ++ (be32Bytes count ++ be32Bytes dataOffset ++ entries)

@[simp] theorem length_trunContent (count dataOffset : ℕ) (entries : Bytes) :
    (trunContent count dataOffset entries).length = 12 + entries.length := by
  simp only [trunContent, List.length_append, length_be24Bytes,
    length_be32Bytes, List.length_cons, List.length_nil]
  omega

theorem fixTrun_trun {count : ℕ} {entries : Bytes} (old dataOffset : ℕ)
    (hsize : 20 + entries.length < 2 ^ 32) :
    fixTrun dataOffset (writeBox boxTrun (trunContent count old entries)) =
      writeBox boxTrun (trunContent count dataOffset entries) := by
  have hform : ∀ x, writeBox boxTrun (trunContent count x entries) =
      (be32Bytes (8 + (12 + entries.length)) ++ boxTrun.bytes ++ [1] ++
        be24Bytes 0x000F01 ++ be32Bytes count) ++ (be32Bytes x ++ entries) := by
    intro x
    rw [writeBox, length_trunContent]
    simp [trunContent]
  have hsplit := splitBox_writeBox boxTrun
    (show 8 + (trunContent count old entries).length < 2 ^ 32 by
      rw [length_trunContent]; omega) []
  rw [List.append_nil] at hsplit
  have hpatch : patchDataOffset dataOffset (writeBox boxTrun (trunContent count old entries)) =
        writeBox boxTrun (trunContent count dataOffset entries) := by
    rw [hform, hform, patchDataOffset_append rfl]
  have hsame : (writeBox boxTrun (trunContent count old entries)).length =
      (writeBox boxTrun (trunContent count dataOffset entries)).length := by
    rw [← hpatch, length_patchDataOffset]
  rw [fixTrun_of_splitBox hsplit, if_pos rfl, hpatch, List.length_nil,
    Nat.sub_zero, hsame, List.take_length, List.drop_length, fixTrun_nil,
    List.append_nil]

/-! ## A track -/

def trafContent (trackID : ℕ) (frames : List AVFrame) (timescale : ℕ)
    (endDTS baseDTS : ℤ) (dataOffset : ℕ) : Bytes :=
  writeBox boxTfhd ([0] ++ be24Bytes 0x020000 ++ be32Bytes trackID) ++
    (writeBox boxTfdt ([1] ++ be24Bytes 0 ++ be64Bytes (baseDecodeTime timescale baseDTS frames)) ++
      writeBox boxTrun (trunContent frames.length dataOffset (trunEntries timescale endDTS frames)))

theorem writeTraf_eq (trackID : ℕ) (frames : List AVFrame) (timescale : ℕ) (endDTS baseDTS : ℤ) :
    writeTraf trackID frames timescale endDTS baseDTS =
      writeBox boxTraf (trafContent trackID frames timescale endDTS baseDTS 0) := by
  simp [writeTraf, writeFullBox_eq, trafContent, trunContent]

theorem length_trunEntries (timescale : ℕ) (endDTS : ℤ) (frames : List AVFrame) :
    (trunEntries timescale endDTS frames).length = 16 * frames.length := by
  induction frames with
  | nil => rfl
  | cons f rest ih =>
    simp only [trunEntries, List.length_append, be32Bytes, List.length_cons, List.length_nil]
    omega

section Track

variable (trackID : ℕ) (frames : List AVFrame) (timescale : ℕ) (endDTS baseDTS : ℤ)

theorem length_trafContent (dataOffset : ℕ) :
    (trafContent trackID frames timescale endDTS baseDTS dataOffset).length =
      56 + 16 * frames.length := by
  simp only [trafContent, List.length_append, length_writeBox,
    length_trunContent, length_be24Bytes, length_be32Bytes, length_be64Bytes,
    List.length_cons, List.length_nil, length_trunEntries]
  omega

variable {trackID frames timescale endDTS baseDTS}

theorem fixTrun_trafContent (dataOffset : ℕ) (hsize : 20 + 16 * frames.length < 2 ^ 32) :
    fixTrun dataOffset (trafContent trackID frames timescale endDTS baseDTS 0) =
      trafContent trackID frames timescale endDTS baseDTS dataOffset := by
  rw [trafContent, fixTrun_other (by simp) (by decide), fixTrun_other (by simp) (by decide),
    fixTrun_trun _ _ (by rw [length_trunEntries]; exact hsize), trafContent]

end Track

/-- The entries as a player reads them. -/
def entriesOf (timescale : ℕ) (endDTS : ℤ) : List AVFrame → List TrunEntry
  | [] => []
  | f :: rest =>
    { duration := sampleDuration timescale endDTS f rest.head? % 2 ^ 32
      size := f.payload.length % 2 ^ 32
      flags := sampleFlags f % 2 ^ 32
      compositionOffset :=
        toI32 (toU32 (scaled timescale (f.pts - f.dts)) % 2 ^ 32) } ::
    entriesOf timescale endDTS rest

theorem readEntries_trunEntries (timescale : ℕ) (endDTS : ℤ) (frames : List AVFrame) :
    readEntries frames.length (trunEntries timescale endDTS frames) =
      some (entriesOf timescale endDTS frames) := by
  induction frames with
  | nil => rfl
  | cons f rest ih =>
    simp only [trunEntries, be32Bytes, List.cons_append, List.nil_append,
      List.length_cons, readEntries, ih, Option.map_some, be32_byteOf,
      entriesOf]

theorem readTraf_trafContent (segment : Bytes) (trackID : ℕ) (timescale : ℕ) (endDTS baseDTS : ℤ)
    (dataOffset : ℕ) (hsize : 20 + 16 * frames.length < 2 ^ 32) :
    readTraf segment (trafContent trackID frames timescale endDTS baseDTS dataOffset) =
      some
        (trackID %
          2 ^
            32, placeSamples segment (baseDecodeTime timescale baseDTS frames % 2 ^ 64)
              (dataOffset % 2 ^ 32) (entriesOf timescale endDTS frames)) := by
  have hboxes : boxes (trafContent trackID frames timescale endDTS baseDTS dataOffset) =
        [(boxTfhd, [0] ++ be24Bytes 0x020000 ++ be32Bytes trackID), (boxTfdt, [1] ++ be24Bytes 0 ++
            be64Bytes (baseDecodeTime timescale baseDTS frames)),
          (boxTrun, trunContent frames.length dataOffset
            (trunEntries timescale endDTS frames))] := by
    rw [trafContent, boxes_writeBox _ (by simp), boxes_writeBox _ (by simp),
      ← List.append_nil (writeBox boxTrun _), boxes_writeBox _ (by
        rw [length_trunContent, length_trunEntries]
        omega), boxes_nil]
  have htfhd : readTfhd ([0] ++ be24Bytes 0x020000 ++ be32Bytes trackID) =
      some (trackID % 2 ^ 32) := by
    rw [← be32_byteOf]
    rfl
  have htfdt : ∀ x, readTfdt ([1] ++ be24Bytes 0 ++ be64Bytes x) = some (x % 2 ^ 64) := by
    intro x
    rw [← be64_byteOf]
    rfl
  have htrun : readTrun (trunContent frames.length dataOffset
      (trunEntries timescale endDTS frames)) =
        some (dataOffset % 2 ^ 32, entriesOf timescale endDTS frames) := by
    have hcount : be32 (byteOf frames.length 24) (byteOf frames.length 16)
        (byteOf frames.length 8) (byteOf frames.length 0) = frames.length := by
      rw [be32_byteOf, Nat.mod_eq_of_lt (by omega)]
    have hread : readTrun (trunContent frames.length dataOffset
        (trunEntries timescale endDTS frames)) = (readEntries (be32 (byteOf frames.length 24)
              (byteOf frames.length 16) (byteOf frames.length 8)
              (byteOf frames.length 0))
            (trunEntries timescale endDTS frames)).map fun entries =>
          (be32 (byteOf dataOffset 24) (byteOf dataOffset 16)
            (byteOf dataOffset 8) (byteOf dataOffset 0), entries) := rfl
    rw [hread, hcount, readEntries_trunEntries, be32_byteOf, Option.map_some]
  have hlookup : ∀ a b c : Bytes,
      [(boxTfhd, a), (boxTfdt, b), (boxTrun, c)].lookup boxTfhd = some a ∧
      [(boxTfhd, a), (boxTfdt, b), (boxTrun, c)].lookup boxTfdt = some b ∧
      [(boxTfhd, a), (boxTfdt, b), (boxTrun, c)].lookup boxTrun = some c :=
    fun _ _ _ => ⟨rfl, rfl, rfl⟩
  rw [readTraf, hboxes]
  simp only [hlookup, Option.bind_some, htfhd, htfdt, htrun, Option.bind_eq_bind, Option.pure_def]

/-! ## A fragment -/

theorem fixOffsets_of_splitBox {videoOffset audioOffset trafIndex : ℕ}
    (h : splitBox data = some (boxType, content, rest)) :
    fixTrunDataOffsetsPerTrack videoOffset audioOffset trafIndex data =
      data.take 8 ++ (if boxType = boxTraf then
          fixTrun (if 0 < trafIndex then audioOffset else videoOffset) content
        else content) ++ fixTrunDataOffsetsPerTrack videoOffset audioOffset
          (if boxType = boxTraf then trafIndex + 1 else trafIndex) rest := by
  rw [fixTrunDataOffsetsPerTrack]
  split
  next hnone => simp [h] at hnone
  next t c r hsome =>
    rw [h] at hsome
    cases hsome
    rfl

@[simp] theorem fixOffsets_nil (videoOffset audioOffset trafIndex : ℕ) :
    fixTrunDataOffsetsPerTrack videoOffset audioOffset trafIndex [] = [] := by
  rw [fixTrunDataOffsetsPerTrack]
  rfl

theorem take_writeBox (boxType : BoxType) (payload rest : Bytes) :
    (writeBox boxType payload ++ rest).take 8 =
      be32Bytes (8 + payload.length) ++ boxType.bytes := rfl

theorem fixOffsets_traf {trackID timescale : ℕ} {endDTS baseDTS : ℤ}
    (hsize : 64 + 16 * frames.length < 2 ^ 32)
    (videoOffset audioOffset trafIndex : ℕ) (rest : Bytes) :
    fixTrunDataOffsetsPerTrack videoOffset audioOffset trafIndex
        (writeTraf trackID frames timescale endDTS baseDTS ++ rest) =
      writeBox boxTraf (trafContent trackID frames timescale endDTS baseDTS
          (if 0 < trafIndex then audioOffset else videoOffset)) ++
        fixTrunDataOffsetsPerTrack videoOffset audioOffset (trafIndex + 1)
          rest := by
  have hlength := length_trafContent trackID frames timescale endDTS baseDTS
  rw [writeTraf_eq, fixOffsets_of_splitBox
    (splitBox_writeBox _ (by rw [hlength]; omega) rest), if_pos rfl, if_pos rfl,
    take_writeBox, fixTrun_trafContent _ (by omega), hlength 0]
  rw [writeBox, hlength]

/-- The samples with their times and bytes, in the units of the track. -/
def timedSamples (timescale : ℕ) (endDTS : ℤ) (time : ℕ) : List AVFrame → List Sample
  | [] => []
  | f :: rest =>
    { time
      compositionOffset := toI32 (toU32 (scaled timescale (f.pts - f.dts)) % 2 ^ 32)
      data := f.payload } ::
    timedSamples timescale endDTS
      (time + sampleDuration timescale endDTS f rest.head? % 2 ^ 32) rest

theorem placeSamples_entriesOf (timescale : ℕ)
    (endDTS : ℤ) (time : ℕ) (hsizes : ∀ f ∈ frames, f.payload.length < 2 ^ 32)
    (hdata : segment.drop position = (frames.map AVFrame.payload).flatten ++ rest) :
    placeSamples segment time position (entriesOf timescale endDTS frames) =
      timedSamples timescale endDTS time frames := by
  induction frames generalizing time position with
  | nil => rfl
  | cons f frames ih =>
    have hsize := Nat.mod_eq_of_lt (hsizes f List.mem_cons_self)
    simp only [List.map_cons, List.flatten_cons, List.append_assoc] at hdata
    have hnext : segment.drop (position + f.payload.length) =
        (frames.map AVFrame.payload).flatten ++ rest := by
      rw [← List.drop_drop, hdata, List.drop_left]
    rw [entriesOf, placeSamples, hsize, hdata, List.take_left,
      ih _ (fun g hg => hsizes g (List.mem_cons_of_mem _ hg)) hnext,
      timedSamples]

section Fragment

variable {sequenceNumber audioTimescale : ℕ} {videoEndDTS videoBaseDTS audioBaseDTS : ℤ}

/-- Where a `traf` stands in the `moof`, if the track has samples. -/
def trafBox (trackID : ℕ) (samples : List AVFrame) (timescale : ℕ)
    (endDTS baseDTS : ℤ) (dataOffset : ℕ) : Bytes :=
  if samples = [] then []
  else
    writeBox boxTraf (trafContent trackID samples timescale endDTS baseDTS dataOffset)

theorem length_trafBox (trackID : ℕ) (samples : List AVFrame) (timescale : ℕ) (endDTS baseDTS : ℤ)
    (dataOffset : ℕ) :
    (trafBox trackID samples timescale endDTS baseDTS dataOffset).length =
      if samples = [] then 0 else 64 + 16 * samples.length := by
  unfold trafBox
  split
  · rfl
  · rw [length_writeBox, length_trafContent]
    omega

/-- The content of the `moof` with the offsets of the two tracks. -/
def moofWith (frames : List AVFrame) (sequenceNumber audioTimescale : ℕ)
    (videoEndDTS videoBaseDTS audioBaseDTS : ℤ) (videoOffset audioOffset : ℕ) : Bytes :=
  writeFullBox boxMfhd 0 0 (be32Bytes sequenceNumber) ++
    (trafBox videoTrackID (videoSamples frames) timescaleVideo videoEndDTS
        videoBaseDTS videoOffset ++
      trafBox audioTrackID (audioSamples frames) audioTimescale 0 audioBaseDTS audioOffset)

theorem moofBytes_eq :
    moofBytes frames sequenceNumber audioTimescale videoEndDTS videoBaseDTS audioBaseDTS =
      moofWith frames sequenceNumber audioTimescale videoEndDTS videoBaseDTS audioBaseDTS 0 0 := by
  simp [moofBytes, moofWith, trafBox, writeTraf_eq]

variable {trackID timescale dataOffset : ℕ} {samples : List AVFrame} {endDTS baseDTS : ℤ}

theorem fixOffsets_trafBox (hsize : 64 + 16 * samples.length < 2 ^ 32)
    (videoOffset audioOffset trafIndex : ℕ) (rest : Bytes) :
    fixTrunDataOffsetsPerTrack videoOffset audioOffset trafIndex
        (trafBox trackID samples timescale endDTS baseDTS 0 ++ rest) =
      trafBox trackID samples timescale endDTS baseDTS
          (if 0 < trafIndex then audioOffset else videoOffset) ++
        fixTrunDataOffsetsPerTrack videoOffset audioOffset
          (if samples = [] then trafIndex else trafIndex + 1) rest := by
  unfold trafBox
  split
  · rfl
  · rw [← writeTraf_eq]
    exact fixOffsets_traf hsize videoOffset audioOffset trafIndex rest

/-- The audio comes first when there is no video, and then both offsets are the
same. -/
theorem fixOffsets_moofWith {videoOffset audioOffset : ℕ}
    (hsize : 128 + 16 * (videoSamples frames).length + 16 * (audioSamples frames).length < 2 ^ 32)
    (hsame : videoSamples frames = [] → audioOffset = videoOffset) :
    fixTrunDataOffsetsPerTrack videoOffset audioOffset 0
        (moofWith frames sequenceNumber audioTimescale videoEndDTS videoBaseDTS audioBaseDTS 0 0) =
      moofWith frames sequenceNumber audioTimescale videoEndDTS videoBaseDTS
        audioBaseDTS videoOffset audioOffset := by
  have hfirst : (if 0 < 0 then audioOffset else videoOffset) = videoOffset :=
    if_neg (Nat.lt_irrefl 0)
  have hother : boxMfhd ≠ boxTraf := by decide
  rw [moofWith, writeFullBox_eq, fixOffsets_of_splitBox (splitBox_writeBox _ (by simp) _),
    if_neg hother, if_neg hother, take_writeBox, ← writeBox, fixOffsets_trafBox (by omega),
    ← List.append_nil (trafBox audioTrackID _ _ _ _ 0),
    fixOffsets_trafBox (by omega), fixOffsets_nil, List.append_nil, hfirst,
    moofWith, writeFullBox_eq]
  by_cases hnone : videoSamples frames = []
  · rw [if_pos hnone, hfirst, hsame hnone]
  · rw [if_neg hnone, if_pos Nat.one_pos]

theorem boxes_trafBox (hsize : 64 + 16 * samples.length < 2 ^ 32) (rest : Bytes) :
    boxes (trafBox trackID samples timescale endDTS baseDTS dataOffset ++
        rest) = (if samples = [] then []
        else [(boxTraf, trafContent trackID samples timescale endDTS baseDTS
          dataOffset)]) ++ boxes rest := by
  unfold trafBox
  split
  · rfl
  · rw [boxes_writeBox _ (by rw [length_trafContent]; omega)]; rfl

def trackRun (segment : Bytes) (trackID : ℕ) (samples : List AVFrame) (timescale : ℕ)
    (endDTS baseDTS : ℤ) (dataOffset : ℕ) : List (ℕ × List Sample) :=
  if samples = [] then []
  else
    [(trackID, placeSamples segment (baseDecodeTime timescale baseDTS samples % 2 ^ 64) dataOffset
      (entriesOf timescale endDTS samples))]

theorem mapM_readTraf (segment : Bytes) (htrack : trackID < 2 ^ 32)
    (hoffset : dataOffset < 2 ^ 32) (hsize : 64 + 16 * samples.length < 2 ^ 32) :
    (if samples = [] then []
        else [(boxTraf, trafContent trackID samples timescale endDTS baseDTS
          dataOffset)]).mapM (fun box => readTraf segment box.2) =
      some (trackRun segment trackID samples timescale endDTS baseDTS dataOffset) := by
  unfold trackRun
  split
  · rfl
  · rw [List.mapM_cons, readTraf_trafContent _ _ _ _ _ _
      (by omega), Nat.mod_eq_of_lt htrack, Nat.mod_eq_of_lt hoffset]
    rfl

def dataSize (samples : List AVFrame) : ℕ :=
  (samples.map fun f => f.payload.length).sum

theorem length_flatten_payloads (samples : List AVFrame) :
    (samples.map AVFrame.payload).flatten.length = dataSize samples := by
  rw [List.length_flatten, List.map_map]
  rfl

def dataStart (frames : List AVFrame) : ℕ :=
  32 + ((if videoSamples frames = [] then 0 else 64 + 16 * (videoSamples frames).length) +
    (if audioSamples frames = [] then 0 else 64 + 16 * (audioSamples frames).length))

theorem length_moofWith (frames : List AVFrame) (sequenceNumber audioTimescale : ℕ)
    (videoEndDTS videoBaseDTS audioBaseDTS : ℤ) (videoOffset audioOffset : ℕ) :
    (moofWith frames sequenceNumber audioTimescale videoEndDTS videoBaseDTS
      audioBaseDTS videoOffset audioOffset).length + 16 = dataStart frames := by
  rw [moofWith, List.length_append, List.length_append, length_trafBox,
    length_trafBox, writeFullBox_eq, length_writeBox, dataStart]
  simp only [List.length_append, List.length_cons, List.length_nil,
    length_be24Bytes, length_be32Bytes]
  omega

theorem length_le_dataStart (frames : List AVFrame) :
    32 + 16 * (videoSamples frames).length + 16 * (audioSamples frames).length ≤
      dataStart frames := by
  have hone : ∀ samples : List AVFrame, 16 * samples.length ≤
      if samples = [] then 0 else 64 + 16 * samples.length := by
    intro samples
    split
    next h => rw [h, List.length_nil]
    · omega
  have hvideo := hone (videoSamples frames)
  have haudio := hone (audioSamples frames)
  unfold dataStart
  omega

def fragmentSize (frames : List AVFrame) : ℕ :=
  dataStart frames + dataSize (videoSamples frames) + dataSize (audioSamples frames)

theorem buildMediaSegment_eq (hframes : frames ≠ []) (hsize : fragmentSize frames < 2 ^ 31) :
    buildMediaSegment frames sequenceNumber audioTimescale videoEndDTS
        videoBaseDTS audioBaseDTS = writeBox boxMoof
          (moofWith frames sequenceNumber audioTimescale videoEndDTS
            videoBaseDTS audioBaseDTS (dataStart frames)
            (dataStart frames + dataSize (videoSamples frames))) ++
        writeBox boxMdat (mdatPayload frames) := by
  have hmany := length_le_dataStart frames
  have hmoof := length_moofWith frames sequenceNumber audioTimescale videoEndDTS
    videoBaseDTS audioBaseDTS 0 0
  unfold fragmentSize at hsize
  have hvideo : (8 + (moofWith frames sequenceNumber audioTimescale videoEndDTS
      videoBaseDTS audioBaseDTS 0 0).length + 8) % 2 ^ 32 =
        dataStart frames := by
    omega
  have haudio : (dataStart frames + dataSize (videoSamples frames)) % 2 ^ 32 =
      dataStart frames + dataSize (videoSamples frames) := by
    omega
  rw [buildMediaSegment, if_neg hframes, moofBytes_eq]
  dsimp only
  rw [hvideo, ← dataSize, haudio, fixOffsets_moofWith (by omega)]
  intro hnone
  rw [hnone]
  rfl

theorem drop_writeBox (hposition : front.length + 8 = position) (boxType : BoxType)
    (payload : Bytes) :
    (front ++ writeBox boxType payload).drop position = payload := by
  rw [← hposition, ← List.drop_drop, List.drop_left]
  rfl

theorem drop_dataStart (hframes : frames ≠ []) (hsize : fragmentSize frames < 2 ^ 31)
    (hsegment : segment = buildMediaSegment frames sequenceNumber audioTimescale
      videoEndDTS videoBaseDTS audioBaseDTS) :
    segment.drop (dataStart frames) =
      ((videoSamples frames).map AVFrame.payload).flatten ++
        ((audioSamples frames).map AVFrame.payload).flatten := by
  have hmoof := length_moofWith frames sequenceNumber audioTimescale videoEndDTS
    videoBaseDTS audioBaseDTS (dataStart frames)
    (dataStart frames + dataSize (videoSamples frames))
  rw [hsegment, buildMediaSegment_eq hframes hsize,
    drop_writeBox (by rw [length_writeBox]; omega), mdatPayload,
    List.map_append, List.flatten_append]

/-! ## What is found -/

theorem filter_trafBoxes (samples : List AVFrame) (content : List UInt8) :
    (if samples = [] then [] else [(boxTraf, content)]).filter (fun box => box.1 = boxTraf) =
      if samples = [] then [] else [(boxTraf, content)] := by
  split <;> rfl

theorem readFragment_buildMediaSegment (hframes : frames ≠ [])
    (hsize : fragmentSize frames < 2 ^ 31)
    (hsegment : segment = buildMediaSegment frames sequenceNumber audioTimescale
      videoEndDTS videoBaseDTS audioBaseDTS) :
    readFragment segment =
      some (trackRun segment videoTrackID (videoSamples frames) timescaleVideo
          videoEndDTS videoBaseDTS (dataStart frames) ++
        trackRun segment audioTrackID (audioSamples frames) audioTimescale 0
          audioBaseDTS (dataStart frames + dataSize (videoSamples frames))) := by
  have hform := hsegment.trans (buildMediaSegment_eq hframes hsize)
  have hmany := length_le_dataStart frames
  have hmoof := length_moofWith frames sequenceNumber audioTimescale videoEndDTS
    videoBaseDTS audioBaseDTS (dataStart frames)
    (dataStart frames + dataSize (videoSamples frames))
  unfold fragmentSize at hsize
  have hsplit := splitBox_writeBox boxMoof
    (show 8 + (moofWith frames sequenceNumber audioTimescale videoEndDTS
      videoBaseDTS audioBaseDTS (dataStart frames)
      (dataStart frames + dataSize (videoSamples frames))).length < 2 ^ 32
      by omega) (writeBox boxMdat (mdatPayload frames))
  rw [← hform] at hsplit
  -- the header of the fragment is passed over, the tracks are read
  have hboxes : ∀ tracks : Bytes, (boxes (writeFullBox boxMfhd 0 0 (be32Bytes sequenceNumber) ++
        tracks)).filter (fun box => box.1 = boxTraf) =
      (boxes tracks).filter (fun box => box.1 = boxTraf) := by
    intro tracks
    rw [writeFullBox_eq, boxes_writeBox _ (by simp)]
    rfl
  rw [readFragment, hsplit]
  dsimp only
  rw [moofWith, hboxes, boxes_trafBox (by omega),
    ← List.append_nil (trafBox audioTrackID _ _ _ _ _),
    boxes_trafBox (by omega), boxes_nil, List.append_nil, List.filter_append,
    filter_trafBoxes, filter_trafBoxes, List.mapM_append,
    mapM_readTraf _ (by decide) (by omega) (by omega),
    mapM_readTraf _ (by decide) (by omega) (by omega)]
  rfl

theorem wordOf_lt (x : ℤ) : wordOf x < 2 ^ 64 := by
  unfold wordOf
  omega

theorem baseDecodeTime_lt (timescale : ℕ) (baseDTS : ℤ) (samples : List AVFrame) :
    baseDecodeTime timescale baseDTS samples < 2 ^ 64 := by
  cases samples with
  | nil => exact Nat.two_pow_pos 64
  | cons f rest => exact wordOf_lt _

theorem trackRun_eq (trackID timescale : ℕ) (endDTS baseDTS : ℤ)
    (hsizes : dataSize samples < 2 ^ 32)
    (hdata : segment.drop dataOffset = (samples.map AVFrame.payload).flatten ++ rest) :
    trackRun segment trackID samples timescale endDTS baseDTS dataOffset =
      if samples = [] then []
      else [(trackID, timedSamples timescale endDTS
        (baseDecodeTime timescale baseDTS samples) samples)] := by
  unfold trackRun
  split
  · rfl
  · rw [Nat.mod_eq_of_lt (baseDecodeTime_lt _ _ _), placeSamples_entriesOf _ _ _
        (fun f hf => (List.le_sum_of_mem (List.mem_map_of_mem hf)).trans_lt hsizes) hdata]

theorem samplesOf_buildMediaSegment (sequenceNumber audioTimescale : ℕ)
    (videoEndDTS videoBaseDTS audioBaseDTS : ℤ) (hsize : fragmentSize frames < 2 ^ 31) :
    samplesOf videoTrackID
      (buildMediaSegment frames sequenceNumber audioTimescale videoEndDTS videoBaseDTS
        audioBaseDTS) =
      timedSamples timescaleVideo videoEndDTS
        (baseDecodeTime timescaleVideo videoBaseDTS (videoSamples frames)) (videoSamples frames) ∧
      samplesOf audioTrackID
        (buildMediaSegment frames sequenceNumber audioTimescale videoEndDTS videoBaseDTS
          audioBaseDTS) =
        timedSamples audioTimescale 0
          (baseDecodeTime audioTimescale audioBaseDTS (audioSamples frames))
          (audioSamples frames) := by
  by_cases hframes : frames = []
  · subst hframes
    exact ⟨rfl, rfl⟩
  generalize hsegment : buildMediaSegment frames sequenceNumber audioTimescale
    videoEndDTS videoBaseDTS audioBaseDTS = segment
  have hread := readFragment_buildMediaSegment hframes hsize hsegment.symm
  have hdata := drop_dataStart hframes hsize hsegment.symm
  have haudio : segment.drop (dataStart frames + dataSize (videoSamples frames)) =
        ((audioSamples frames).map AVFrame.payload).flatten ++ [] := by
    rw [← List.drop_drop, hdata, ← length_flatten_payloads, List.drop_left, List.append_nil]
  unfold fragmentSize at hsize
  rw [trackRun_eq _ _ _ _ (by omega) hdata, trackRun_eq _ _ _ _ (by omega) haudio] at hread
  simp only [samplesOf, hread]
  constructor
  · by_cases hvideo : videoSamples frames = []
    · rw [if_pos hvideo, hvideo]
      split <;> rfl
    · rw [if_neg hvideo]
      rfl
  · by_cases hnone : audioSamples frames = []
    · rw [if_pos hnone, hnone]
      split <;> rfl
    · split <;> rfl

end Fragment

end LiveForge.Fmp4
