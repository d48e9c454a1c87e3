import LiveForge.Support.Clock

/-!
# The media clock of a WHIP session

`whipMediaClock` puts the RTP timestamps of every track of a session on one
millisecond timeline.  A track is known by its SSRC.  Its first packet fixes
the track's base timestamp, clock rate and offset from the session origin, and
every later timestamp is measured against that first one as a signed 32-bit
difference.
-/

namespace LiveForge.WebRTC

open Support

/-! ## The clock -/

structure WhipTrackClock where
  baseTimestamp : UInt32
  firstArrival : ℤ
  clockRate : ℤ

/-- Instants are nanoseconds; no origin stands for Go's zero time. -/
structure WhipMediaClock where
  origin : Option ℤ
  tracks : UInt32 → Option WhipTrackClock

def newWHIPMediaClock : WhipMediaClock where
  origin := none
  tracks := fun _ => none

def effectiveRate (clockRate : ℤ) : ℤ :=
  if clockRate ≤ 0 then 90000 else clockRate

/-- The track a call finds under its key, or the one it makes. -/
def WhipMediaClock.track (c : WhipMediaClock) (trackKey timestamp : UInt32)
    (clockRate now : ℤ) : WhipTrackClock :=
  (c.tracks trackKey).getD ⟨timestamp, now, effectiveRate clockRate⟩

def WhipMediaClock.dts (c : WhipMediaClock) (trackKey timestamp : UInt32)
    (clockRate now : ℤ) : ℤ × WhipMediaClock :=
  let origin := c.origin.getD now
  let track := c.track trackKey timestamp clockRate now
  let rtpDelta := signedTicks (timestamp - track.baseTimestamp)
  ((track.firstArrival - origin).tdiv 1000000 + ticksToMs rtpDelta track.clockRate,
    { origin := some origin
      tracks := Function.update c.tracks trackKey (some track) })

/-! ## A session of calls -/

/-- One call: a packet of the track `key` whose place on the track's media
timeline is `time`. -/
structure Sample where
  key : UInt32
  time : ℤ
  clockRate : ℤ
  now : ℤ

def trackTimes (key : UInt32) (calls : List Sample) : List ℤ :=
  (calls.filter (·.key = key)).map Sample.time

/-- The media times of one track, each with the DTS returned for it, in a
session whose other tracks go on in between. -/
def trackEntries (key : UInt32) : WhipMediaClock → List Sample → List (ℤ × ℤ)
  | _, [] => []
  | c, s :: rest =>
    let r := c.dts s.key (stamp s.time) s.clockRate s.now
    if s.key = key then (s.time, r.1) :: trackEntries key r.2 rest
    else trackEntries key r.2 rest

theorem map_fst_trackEntries (key : UInt32) (c : WhipMediaClock) (calls : List Sample) :
    (trackEntries key c calls).map Prod.fst = trackTimes key calls := by
  induction calls generalizing c with
  | nil => rfl
  | cons s rest ih =>
    by_cases hkey : s.key = key
    · simp [trackEntries, trackTimes, hkey, ih]
    · simp [trackEntries, trackTimes, hkey, ih]

/-- The track's DTS differences are the elapsed media time in milliseconds. -/
def Linear (rate : ℤ) (entries : List (ℤ × ℤ)) : Prop :=
  ∀ first ∈ entries.head?, ∀ e ∈ entries, e.2 - first.2 = ticksToMs (e.1 - first.1) rate

instance (rate : ℤ) (entries : List (ℤ × ℤ)) : Decidable (Linear rate entries) :=
  inferInstanceAs (Decidable (∀ first ∈ entries.head?, ∀ e ∈ entries,
    e.2 - first.2 = ticksToMs (e.1 - first.1) rate))

/-- No media time is half a turn of the counter away from the first. -/
def InWindow (times : List ℤ) : Prop :=
  ∀ first ∈ times.head?, ∀ t ∈ times, -2 ^ 31 ≤ t - first ∧ t - first < 2 ^ 31

instance (times : List ℤ) : Decidable (InWindow times) :=
  inferInstanceAs (Decidable (∀ first ∈ times.head?, ∀ t ∈ times,
    -2 ^ 31 ≤ t - first ∧ t - first < 2 ^ 31))

/-! ## What one call does -/

/-- The session knows the track, with base `base` and DTS `offset` there. -/
structure Established (key : UInt32) (rate base offset : ℤ) (c : WhipMediaClock) : Prop where
  known : ∃ origin arrival, c.origin = some origin ∧
    c.tracks key = some ⟨stamp base, arrival, rate⟩ ∧
    (arrival - origin).tdiv 1000000 = offset

section Calls

variable {key : UInt32} {rate base offset : ℤ} {c : WhipMediaClock}

theorem Established.dts (hc : Established key rate base offset c) (time clockRate now : ℤ) :
    (c.dts key (stamp time) clockRate now).1 =
      offset + ticksToMs (signedTicks (stamp (time - base))) rate := by
  obtain ⟨origin, arrival, horigin, htrack, hoffset⟩ := hc.known
  simp [WhipMediaClock.dts, WhipMediaClock.track, horigin, htrack, hoffset, stamp_sub_stamp]

theorem Established.step (hc : Established key rate base offset c) (trackKey timestamp : UInt32)
    (clockRate now : ℤ) :
    Established key rate base offset (c.dts trackKey timestamp clockRate now).2 := by
  obtain ⟨origin, arrival, horigin, htrack, hoffset⟩ := hc.known
  refine ⟨origin, arrival, ?_, ?_, hoffset⟩
  · simp [WhipMediaClock.dts, horigin]
  · by_cases hkey : key = trackKey
    · subst hkey
      simp [WhipMediaClock.dts, WhipMediaClock.track, htrack]
    · simp [WhipMediaClock.dts, Function.update_of_ne hkey, htrack]

/-- The first call of a track establishes it at the DTS it returns. -/
theorem established_dts (hnew : c.tracks key = none) (hrate : 0 < rate) (time now : ℤ) :
    Established key rate time (c.dts key (stamp time) rate now).1
      (c.dts key (stamp time) rate now).2 := by
  refine ⟨c.origin.getD now, now, rfl, ?_, ?_⟩
  · simp [WhipMediaClock.dts, WhipMediaClock.track, hnew, effectiveRate, hrate.not_ge]
  · simp [WhipMediaClock.dts, WhipMediaClock.track, hnew, signedTicks, ticksToMs_zero]

/-! ## What a session does -/

theorem Established.entries (hc : Established key rate base offset c) (calls : List Sample) :
    ∀ e ∈ trackEntries key c calls,
      e.2 = offset + ticksToMs (signedTicks (stamp (e.1 - base))) rate := by
  induction calls generalizing c with
  | nil => simp [trackEntries]
  | cons s rest ih =>
    have hnext := hc.step s.key (stamp s.time) s.clockRate s.now
    by_cases hkey : s.key = key
    · simp only [trackEntries, if_pos hkey, List.forall_mem_cons]
      refine ⟨?_, ih hnext⟩
      rw [hkey]
      exact hc.dts s.time s.clockRate s.now
    · simpa only [trackEntries, if_neg hkey] using ih hnext

/-- Every DTS of a track is the first one plus the signed 32-bit reading of the
time since then. -/
theorem trackEntries_eq (hnew : c.tracks key = none) (hrate : 0 < rate)
    {calls : List Sample} (hrates : ∀ s ∈ calls, s.key = key → s.clockRate = rate) :
    ∀ first ∈ (trackEntries key c calls).head?, ∀ e ∈ trackEntries key c calls, e.2 = first.2 +
        ticksToMs (signedTicks (stamp (e.1 - first.1))) rate := by
  induction calls generalizing c with
  | nil => simp [trackEntries]
  | cons s rest ih =>
    obtain ⟨hs, hrest⟩ := List.forall_mem_cons.mp hrates
    by_cases hkey : s.key = key
    · have hest := established_dts hnew hrate s.time s.now
      simp only [trackEntries, hs hkey, hkey, if_true, List.head?_cons,
        Option.mem_some_iff, forall_eq', List.forall_mem_cons]
      refine ⟨?_, hest.entries rest⟩
      simp [(signedTicks_stamp_eq_iff 0).mpr, ticksToMs_zero]
    · simp only [trackEntries, if_neg hkey]
      exact ih (by simp [WhipMediaClock.dts, Ne.symm hkey, hnew]) hrest

end Calls

/-! ## Linearity -/

section Linearity

variable {rate : ℤ} {entries : List (ℤ × ℤ)}

theorem inWindow_map_fst :
    InWindow (entries.map Prod.fst) ↔
      ∀ first ∈ entries.head?, ∀ e ∈ entries, -2 ^ 31 ≤ e.1 - first.1 ∧ e.1 - first.1 < 2 ^ 31 := by
  simp [InWindow]

theorem linear_of_inWindow
    (hentries : ∀ first ∈ entries.head?, ∀ e ∈ entries,
      e.2 = first.2 + ticksToMs (signedTicks (stamp (e.1 - first.1))) rate)
    (hwindow : InWindow (entries.map Prod.fst)) :
    Linear rate entries := by
  intro first hfirst e he
  have hticks := (signedTicks_stamp_eq_iff (e.1 - first.1)).mpr
    (inWindow_map_fst.mp hwindow first hfirst e he)
  have hdts := hentries first hfirst e he
  rw [hticks] at hdts
  omega

theorem inWindow_of_linear (hrate : 0 < rate) (hbound : rate ≤ 500 * 2 ^ 32)
    (hentries : ∀ first ∈ entries.head?, ∀ e ∈ entries,
      e.2 = first.2 + ticksToMs (signedTicks (stamp (e.1 - first.1))) rate)
    (hlinear : Linear rate entries) :
    InWindow (entries.map Prod.fst) := by
  refine inWindow_map_fst.mpr fun first hfirst e he => ?_
  rw [← signedTicks_stamp_eq_iff]
  by_contra hne
  -- A wrong reading is off by whole turns, which the rounding cannot hide.
  refine ticksToMs_ne_of_turn hrate hbound (signedTicks_stamp_emod _) hne ?_
  have hdts := hentries first hfirst e he
  have hlin := hlinear first hfirst e he
  omega

theorem Linear.le (hlinear : Linear rate entries) (hrate : 0 < rate) {e e' : ℤ × ℤ}
    (he : e ∈ entries) (he' : e' ∈ entries) (hle : e.1 ≤ e'.1) :
    e.2 ≤ e'.2 := by
  obtain ⟨first, rest, rfl⟩ := List.exists_cons_of_ne_nil (List.ne_nil_of_mem he)
  have hfirst := hlinear first rfl e he
  have hfirst' := hlinear first rfl e' he'
  have hmono := ticksToMs_mono hrate (Int.sub_le_sub_right hle first.1)
  omega

end Linearity

/-- A track's DTS follows its media timeline, and never goes back where the
timeline does not, as long as the track stays within half a turn of the RTP
counter from its first packet; on every clock of at most 500 turns a second
nothing less is enough. -/
theorem whip_clock_linear_iff_inWindow {key : UInt32} {rate : ℤ}
    (hrate : 0 < rate) {calls : List Sample}
    (hrates : ∀ s ∈ calls, s.key = key → s.clockRate = rate) :
    (InWindow (trackTimes key calls) →
      Linear rate (trackEntries key newWHIPMediaClock calls) ∧
      ∀ e ∈ trackEntries key newWHIPMediaClock calls,
      ∀ e' ∈ trackEntries key newWHIPMediaClock calls,
        e.1 ≤ e'.1 → e.2 ≤ e'.2) ∧
    (rate ≤ 500 * 2 ^ 32 → Linear rate (trackEntries key newWHIPMediaClock calls) →
      InWindow (trackTimes key calls)) := by
  have hentries := trackEntries_eq (c := newWHIPMediaClock) rfl hrate hrates
  rw [← map_fst_trackEntries key newWHIPMediaClock calls]
  refine ⟨fun hwindow => ?_, fun hbound hlinear =>
    inWindow_of_linear hrate hbound hentries hlinear⟩
  have hlinear := linear_of_inWindow hentries hwindow
  exact ⟨hlinear, fun e he e' he' => hlinear.le hrate he he'⟩

/-- Video and audio of one session, each within half a turn of its start. -/
theorem whip_clock_linear_two_tracks :
    let calls : List Sample := [⟨1, 2 ^ 32 - 3000, 90000, 5000000⟩,
      ⟨2, 100, 48000, 7000000⟩, ⟨1, 2 ^ 32 + 6000, 90000, 9000000⟩]
    trackEntries 1 newWHIPMediaClock calls = [(2 ^ 32 - 3000, 0), (2 ^ 32 + 6000, 100)] ∧
      Linear 90000 (trackEntries 1 newWHIPMediaClock calls) := by
  refine ⟨by decide, ?_⟩
  exact ((whip_clock_linear_iff_inWindow (by decide) (by decide)).1 (by decide)).1

/-- Two steps of less than half a turn each bring the third packet half a turn
from the first; its DTS falls back to before the session began. -/
theorem whip_clock_falls_back :
    let calls : List Sample := [⟨1, 0, 90000, 0⟩, ⟨1, 2 ^ 30, 90000, 0⟩, ⟨1, 2 ^ 31, 90000, 0⟩]
    trackEntries 1 newWHIPMediaClock calls = [(0, 0), (2 ^ 30, 11930464), (2 ^ 31, -23860929)] ∧
      ¬ Linear 90000 (trackEntries 1 newWHIPMediaClock calls) := by
  decide

end LiveForge.WebRTC
