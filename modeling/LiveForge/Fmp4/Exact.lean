import LiveForge.Fmp4.Reader

/-!
# When the times of a fragment are exact

The decode time of a sample should be its distance from the base in units of
the track, cut to a whole number.  The writer cuts the first decode time and
every duration one by one, and a player adds them up, so what was cut off adds
up too.  A track of 90 kHz loses nothing; a track whose clock is no multiple of
1000 does, and its times are exact as long as the losses stay below one unit.
-/

namespace LiveForge.Fmp4

open Support

/-! ## What the times should be -/

/-- The sample a player should find. -/
def exactSample (timescale : ℕ) (baseDTS : ℤ) (f : AVFrame) : Sample where
  time := ((f.dts - baseDTS) * timescale / 1000).toNat
  compositionOffset := ((f.pts - f.dts) * timescale).tdiv 1000
  data := f.payload

/-- The samples of a track in order of decoding, not before the base, and not
too far apart for the field of a duration. -/
structure InOrder (timescale : ℕ) (baseDTS : ℤ) (samples : List AVFrame) : Prop where
  base_le : ∀ f ∈ samples, baseDTS ≤ f.dts
  gaps : samples.IsChain fun f g =>
    f.dts ≤ g.dts ∧ (g.dts - f.dts) * (timescale : ℤ) / 1000 < 2 ^ 31

/-- What is cut off the durations, in thousandths of a unit. -/
def gapLoss (timescale : ℕ) : List AVFrame → ℤ
  | f :: g :: rest =>
    (g.dts - f.dts) * timescale % 1000 + gapLoss timescale (g :: rest)
  | _ => 0

/-- What is cut off the first decode time and the durations. -/
def roundingLoss (timescale : ℕ) (baseDTS : ℤ) (samples : List AVFrame) : ℤ :=
  (samples.head?.map fun f => (f.dts - baseDTS) * timescale % 1000).getD 0 +
    gapLoss timescale samples

/-- A product of the first decode time survives 64 bits.  Right below
`1000 * 2 ^ 64` a whole number of units wraps around to itself. -/
def ProductFits (x : ℤ) : Prop :=
  x < 2 ^ 63 ∨ 1000 * 2 ^ 64 - 2 ^ 63 ≤ x ∧ x < 1000 * 2 ^ 64 ∧ x % 1000 = 0

instance (x : ℤ) : Decidable (ProductFits x) :=
  inferInstanceAs (Decidable (_ ∨ _))

/-- The field of a composition offset holds it. -/
def OffsetFits (timescale : ℕ) (f : AVFrame) : Prop :=
  -2 ^ 31 ≤ ((f.pts - f.dts) * timescale).tdiv 1000 ∧
    ((f.pts - f.dts) * timescale).tdiv 1000 < 2 ^ 31

instance (timescale : ℕ) (f : AVFrame) : Decidable (OffsetFits timescale f) :=
  inferInstanceAs (Decidable (_ ∧ _))

/-- Nothing of a track is lost: the first decode time and the composition
offsets fit their numbers, and the losses stay below one unit. -/
structure Lossless (timescale : ℕ) (baseDTS : ℤ) (samples : List AVFrame) : Prop where
  product : ∀ f ∈ samples.head?, ProductFits ((f.dts - baseDTS) * timescale)
  loss : roundingLoss timescale baseDTS samples < 1000
  offset : ∀ f ∈ samples, OffsetFits timescale f

/-! ## One field -/

variable {timescale time : ℕ} {f : AVFrame} {baseDTS lost endDTS : ℤ}

theorem scaled_of_pos (hpos : 1 ≤ timescale) (ms : ℤ) :
    scaled timescale ms = (wrap64 (ms * timescale)).tdiv 1000 :=
  if_neg (Nat.one_le_iff_ne_zero.mp hpos)

theorem toU32_mod (x : ℤ) : toU32 x % 2 ^ 32 = toU32 x := by
  unfold toU32
  omega

theorem tdiv_thousand (x : ℤ) : x.tdiv 1000 = if 0 ≤ x then x / 1000 else -(-x / 1000) := by
  split
  next h => rw [Int.tdiv_eq_ediv_of_nonneg h]
  next h =>
    rw [← Int.tdiv_eq_ediv_of_nonneg (by omega), Int.neg_tdiv, Int.neg_neg]

theorem offset_eq_iff (hpos : 1 ≤ timescale) (f : AVFrame) :
    toI32 (toU32 (scaled timescale (f.pts - f.dts)) % 2 ^ 32) =
      ((f.pts - f.dts) * timescale).tdiv 1000 ↔ OffsetFits timescale f := by
  rw [toU32_mod, scaled_of_pos hpos, OffsetFits]
  generalize (f.pts - f.dts) * (timescale : ℤ) = x
  constructor
  · intro h
    rw [← h]
    unfold toI32
    omega
  · rintro ⟨hlow, hhigh⟩
    have hx := tdiv_thousand x
    rw [wrap64_of_lt (by split at hx <;> omega) (by split at hx <;> omega), toI32_toU32 hlow hhigh]

theorem duration_eq (hpos : 1 ≤ timescale) (endDTS : ℤ) {g : AVFrame}
    (horder : f.dts ≤ g.dts) (hgap : (g.dts - f.dts) * timescale / 1000 < 2 ^ 31) :
    ((sampleDuration timescale endDTS f (some g) % 2 ^ 32 : ℕ) : ℤ) =
      (g.dts - f.dts) * timescale / 1000 := by
  have hnonneg : 0 ≤ (g.dts - f.dts) * (timescale : ℤ) :=
    Int.mul_nonneg (Int.sub_nonneg_of_le horder) (Int.natCast_nonneg _)
  rw [sampleDuration, toU32_mod, scaled_of_pos hpos,
    wrap64_of_lt (by omega) (by omega), Int.tdiv_eq_ediv_of_nonneg hnonneg,
    toU32_of_lt (by omega) (by omega)]

theorem wordOf_tdiv_eq_iff {x : ℤ} (hx : 0 ≤ x) :
    (wordOf ((wrap64 x).tdiv 1000) : ℤ) = x / 1000 ↔ ProductFits x := by
  -- `m` is how often the product went around
  obtain ⟨m, hm⟩ : ∃ m, (x + 2 ^ 63) / 2 ^ 64 = m := ⟨_, rfl⟩
  have hwrap : wrap64 x = x - 2 ^ 64 * m := by
    unfold wrap64
    omega
  have hword : ∀ q : ℤ, -2 ^ 63 ≤ q → q < 2 ^ 63 →
      (wordOf q : ℤ) = if 0 ≤ q then q else q + 2 ^ 64 := by
    intro q hlow hhigh
    unfold wordOf
    split <;> omega
  have hdiv := tdiv_thousand (wrap64 x)
  rw [hword _ (by split at hdiv <;> omega) (by split at hdiv <;> omega), hdiv]
  unfold ProductFits
  rcases Int.lt_trichotomy m 1000 with hless | rfl | hmore
  · by_cases hzero : m = 0
    · split <;> split <;> omega
    · split <;> split <;> omega
  · split <;> split <;> omega
  · split <;> split <;> omega

/-! ## A track -/

theorem gapLoss_nonneg (timescale : ℕ) (samples : List AVFrame) :
    0 ≤ gapLoss timescale samples := by
  induction samples with
  | nil => exact Int.le_refl 0
  | cons f rest ih =>
    cases rest with
    | nil => exact Int.le_refl 0
    | cons g rest =>
      rw [gapLoss]
      omega

/-- A head that is exact has lost less than a unit so far. -/
theorem sample_eq_iff (hpos : 1 ≤ timescale) (hlost : 0 ≤ lost)
    (htime : (f.dts - baseDTS) * timescale = 1000 * time + lost) :
    ({ time
       compositionOffset :=
         toI32 (toU32 (scaled timescale (f.pts - f.dts)) % 2 ^ 32)
       data := f.payload } : Sample) = exactSample timescale baseDTS f ↔
      lost < 1000 ∧ OffsetFits timescale f := by
  rw [exactSample, Sample.mk.injEq, offset_eq_iff hpos]
  constructor
  · rintro ⟨hcut, hoffset, -⟩
    exact ⟨by omega, hoffset⟩
  · rintro ⟨hsmall, hoffset⟩
    exact ⟨by omega, hoffset, rfl⟩

/-- The samples from one on, when its time and what was lost before it add up:
the losses after it come on top. -/
theorem timedSamples_eq_iff (hpos : 1 ≤ timescale) {rest : List AVFrame} (hlost : 0 ≤ lost)
    (htime : (f.dts - baseDTS) * timescale = 1000 * time + lost)
    (hgaps : (f :: rest).IsChain fun f g =>
      f.dts ≤ g.dts ∧ (g.dts - f.dts) * (timescale : ℤ) / 1000 < 2 ^ 31) :
    timedSamples timescale endDTS time (f :: rest) =
        (f :: rest).map (exactSample timescale baseDTS) ↔
      lost + gapLoss timescale (f :: rest) < 1000 ∧ ∀ g ∈ f :: rest, OffsetFits timescale g := by
  induction rest generalizing f time lost with
  | nil =>
    rw [timedSamples, timedSamples, List.map_cons, List.cons.injEq, sample_eq_iff hpos hlost htime]
    simp [gapLoss]
  | cons g rest ih =>
    rw [List.isChain_cons_cons] at hgaps
    obtain ⟨⟨horder, hgap⟩, htail⟩ := hgaps
    have hduration := duration_eq hpos endDTS horder hgap
    have hnext : (g.dts - baseDTS) * timescale =
        1000 * ((time + sampleDuration timescale endDTS f (some g) % 2 ^ 32 :
          ℕ) : ℤ) + (lost + (g.dts - f.dts) * timescale % 1000) := by
      have hsum : (g.dts - baseDTS) * (timescale : ℤ) =
          (f.dts - baseDTS) * timescale + (g.dts - f.dts) * timescale := by
        rw [← Int.add_mul]
        congr 1
        omega
      omega
    have hrest := gapLoss_nonneg timescale (g :: rest)
    have htails := ih (by omega) hnext htail
    rw [timedSamples, List.map_cons, List.cons.injEq,
      sample_eq_iff hpos hlost htime, List.head?_cons, htails, gapLoss]
    constructor
    · rintro ⟨⟨_, hoffset⟩, htotal, hoffsets⟩
      exact ⟨by omega, List.forall_mem_cons.mpr ⟨hoffset, hoffsets⟩⟩
    · rintro ⟨htotal, hall⟩
      obtain ⟨hoffset, hoffsets⟩ := List.forall_mem_cons.mp hall
      exact ⟨⟨by omega, hoffset⟩, by omega, hoffsets⟩

theorem track_exact_iff (hpos : 1 ≤ timescale) {samples : List AVFrame}
    (horder : InOrder timescale baseDTS samples) :
    timedSamples timescale endDTS (baseDecodeTime timescale baseDTS samples) samples =
      samples.map (exactSample timescale baseDTS) ↔ Lossless timescale baseDTS samples := by
  cases samples with
  | nil =>
    refine ⟨fun _ => ⟨by simp, ?_, by simp⟩, fun _ => rfl⟩
    exact (by decide : (0 : ℤ) + 0 < 1000)
  | cons f rest =>
    have hbase := horder.base_le f List.mem_cons_self
    have hnonneg : 0 ≤ (f.dts - baseDTS) * (timescale : ℤ) :=
      Int.mul_nonneg (Int.sub_nonneg_of_le hbase) (Int.natCast_nonneg _)
    have htime : (baseDecodeTime timescale baseDTS (f :: rest) : ℤ) =
        (f.dts - baseDTS) * timescale / 1000 ↔
          ProductFits ((f.dts - baseDTS) * timescale) := by
      rw [← wordOf_tdiv_eq_iff hnonneg, baseDecodeTime, scaled_of_pos hpos,
        max_eq_left (Int.sub_nonneg_of_le hbase)]
    have hfirst := Int.emod_nonneg ((f.dts - baseDTS) * (timescale : ℤ))
      (show (1000 : ℤ) ≠ 0 by decide)
    by_cases hfits : ProductFits ((f.dts - baseDTS) * timescale)
    · have hstart := htime.mpr hfits
      rw [timedSamples_eq_iff hpos hfirst (by omega) horder.gaps]
      constructor
      · rintro ⟨hloss, hoffset⟩
        exact ⟨by simpa using hfits, hloss, hoffset⟩
      · intro h
        exact ⟨h.loss, h.offset⟩
    · constructor
      · intro h
        have hhead := congrArg (fun l => l.head?.map Sample.time) h
        simp only [timedSamples, List.map_cons, List.head?_cons,
          Option.map_some, exactSample, Option.some.injEq] at hhead
        exact absurd (htime.mp (by omega)) hfits
      · intro h
        exact absurd (h.product f rfl) hfits

/-! ## A fragment -/

/-- Every sample of the two tracks is found where and when it should be. -/
def FragmentExact (frames : List AVFrame) (audioTimescale : ℕ)
    (videoBaseDTS audioBaseDTS : ℤ) (segment : Bytes) : Prop :=
  samplesOf videoTrackID segment =
      (videoSamples frames).map (exactSample timescaleVideo videoBaseDTS) ∧
    samplesOf audioTrackID segment =
      (audioSamples frames).map (exactSample audioTimescale audioBaseDTS)

def audioAt (dts : ℤ) : AVFrame :=
  newAVFrame .audio .aac .interframe dts dts [0x21]

def videoAt (dts : ℤ) : AVFrame :=
  newAVFrame .video .vp9 .keyframe dts dts [0x82, 0x49]

theorem map_data_timedSamples (timescale : ℕ) (endDTS : ℤ) (time : ℕ) (samples : List AVFrame) :
    (timedSamples timescale endDTS time samples).map Sample.data = samples.map AVFrame.payload := by
  induction samples generalizing time with
  | nil => rfl
  | cons f rest ih => exact congrArg (f.payload :: ·) (ih _)

/-- Whatever the times of the frames are, a player finds in each track the bytes
of its frames, in their order. -/
theorem fragment_carries_frames (frames : List AVFrame) (sequenceNumber audioTimescale : ℕ)
    (videoEndDTS videoBaseDTS audioBaseDTS : ℤ) (hsize : fragmentSize frames < 2 ^ 31) :
    ∀ track ∈ [(videoTrackID, videoSamples frames), (audioTrackID, audioSamples frames)],
      (samplesOf track.1 (buildMediaSegment frames sequenceNumber audioTimescale videoEndDTS
        videoBaseDTS audioBaseDTS)).map Sample.data = track.2.map AVFrame.payload := by
  obtain ⟨hvideo, haudio⟩ := samplesOf_buildMediaSegment sequenceNumber
    audioTimescale videoEndDTS videoBaseDTS audioBaseDTS hsize
  rw [List.forall_mem_cons, List.forall_mem_singleton, hvideo, haudio]
  exact ⟨map_data_timedSamples .., map_data_timedSamples ..⟩

/-- The second frame comes before the first. -/
theorem fragment_carries_frames_disordered :
    (samplesOf videoTrackID (buildMediaSegment [videoAt 33,
      newAVFrame .video .vp9 .interframe 0 0 [0x86]] 1 48000 0 0 0)).map Sample.data =
      [[0x82, 0x49], [0x86]] :=
  fragment_carries_frames _ 1 48000 0 0 0 (by decide) _ List.mem_cons_self

end LiveForge.Fmp4
