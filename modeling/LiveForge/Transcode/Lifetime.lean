import LiveForge.Transcode.Readers

/-!
# The lifetime of a track

What each action of the system does to a track that exists, and what follows
for the time a track lives.
-/

namespace LiveForge.Core

open AudioCodec Support TranscodeManager PointerTable TranscodedTrack

variable {reg : Registry} {track : TranscodedTrack reg} {a : TranscodeAction}

/-! ## What one action does to a track -/

def TranscodeAction.Resets (a : TranscodeAction) : Prop :=
  a = .reset ∨ ∃ pub now, a = .stream (.setPublisher pub now)

open TranscodeManager in
inductive TrackChange (s : TranscodeSystem reg) (a : TranscodeAction) (p : ℕ)
    (track track' : TranscodedTrack reg) : Prop where
  | same (unchanged : track' = track)
  | joined (changed : track' = addReader track)
  | left (changed : track' = removeReader track)
  | dropped (i : ℕ) (lease : TrackLease) (called : a = .finishRelease i)
      (leased : s.manager.leases[i]? = some lease) (mine : lease.track = p)
      (last : s.manager.holders p = 1)
      (changed : track' = cancelTrack .subscriberReleased (removeReader track))
  | reset (called : a.Resets)
      (running : s.trace.stream.generationEndCursor track.generationBoundary = none)
      (changed : track' = cancelTrack .managerReset track)
  | loop (called : a = .loop p)
      (moved : track.loopStep s.trace.stream = some track')
  | cancelRead (called : a = .cancelRead p)
      (moved : track.cancelRead s.trace.stream = some track')

/-- A track keeps the position it started at and its generation. -/
theorem TrackChange.kept {s : TranscodeSystem reg} {p : ℕ}
    {track' : TranscodedTrack reg} (h : TrackChange s a p track track') :
    track'.sourceStart = track.sourceStart ∧
      track'.generationBoundary = track.generationBoundary := by
  cases h with
  | same heq | joined heq | left heq | dropped _ _ _ _ _ _ heq | reset _ _ heq =>
    rw [heq]
    exact ⟨rfl, rfl⟩
  | loop _ hmoved =>
    have hidentity := (loopEffect_of_loopStep hmoved).identity
    exact ⟨congrArg TrackIdentity.sourceStart hidentity,
      congrArg TrackIdentity.generationBoundary hidentity⟩
  | cancelRead _ hmoved =>
    have hidentity := identity_cancelRead hmoved
    exact ⟨congrArg TrackIdentity.sourceStart hidentity,
      congrArg TrackIdentity.generationBoundary hidentity⟩

namespace TranscodeSystem

variable {s s' : TranscodeSystem reg} {p i : ℕ} {r : ReaderRequest}

theorem trackChange_reset (ha : a.Resets) (hget : s.tracks.cells[p]? = some track) :
    ∃ track', (s.manager.reset s.trace.stream).tracks.cells[p]? = some track' ∧
      TrackChange s a p track track' := by
  obtain ⟨track', htrack', hreset⟩ := foldl_resetTrack_cell s.trace.stream _ hget
  refine ⟨track', htrack', ?_⟩
  rcases hreset with rfl | ⟨hrunning, rfl⟩
  · exact .same rfl
  · exact .reset ha hrunning rfl

theorem trackChange_acquire (hget : s.tracks.cells[p]? = some track) :
    ∃ track', (s.manager.acquireTrack s.trace.stream r).2.tracks.cells[p]? = some track' ∧
      TrackChange s a p track track' := by
  unfold acquireTrack
  split
  next pointer _ =>
    simp only [addLease, cell_modify]
    rw [show s.manager.tracks.cells[p]? = some track from hget]
    split
    · exact ⟨_, rfl, .joined rfl⟩
    · exact ⟨track, rfl, .same rfl⟩
  · have hlt := (List.getElem?_eq_some_iff.mp hget).1
    exact ⟨track, (cell_insertNew_old hlt).trans hget, .same rfl⟩

theorem trackChange_release (h : s.manager.LifetimeInv) {manager : TranscodeManager reg}
    (hrelease : s.manager.finishRelease i = some manager) (hget : s.tracks.cells[p]? = some track) :
    ∃ track', manager.tracks.cells[p]? = some track' ∧
      TrackChange s (.finishRelease i) p track track' := by
  unfold finishRelease at hrelease
  split at hrelease
  next lease hi =>
    split_ifs at hrelease
    cases hrelease
    have hget' : s.manager.tracks.cells[p]? = some track := hget
    rcases TranscodeManager.LifetimeInv.releaseTrack_cases h.valid lease.key lease.track with
      ⟨-, hsame⟩ | ⟨hp, held, hheld, ⟨-, heq⟩ | ⟨hlast, heq⟩⟩
    · rw [hsame]
      exact ⟨track, hget, .same rfl⟩
    · rw [heq, cell_modify, hget']
      split
      · exact ⟨_, rfl, .left rfl⟩
      · exact ⟨track, rfl, .same rfl⟩
    · obtain ⟨hsub, hpos, -⟩ := h.counted lease.key lease.track held hp hheld
      rw [heq, cells_erase, cell_modify, cell_modify, hget']
      split
      next hmine =>
        refine ⟨_, rfl, .dropped i lease rfl hi hmine ?_ rfl⟩
        rw [← hmine]
        omega
      · exact ⟨track, rfl, .same rfl⟩
  · simp at hrelease

/-- The inversion lemma of the system, for a track that exists. -/
theorem trackChange_of_step (h : s.manager.LifetimeInv)
    (hstep : s.step a = some s') (hget : s.tracks.cells[p]? = some track) :
    ∃ track', s'.tracks.cells[p]? = some track' ∧ TrackChange s a p track track' := by
  cases move_of_step hstep with
  | stream act trace _ hmoved =>
    subst hmoved
    rcases s.resetBefore_cases act with ⟨pub, now, _, rfl, _, hreset⟩ | ⟨_, hsame⟩
    · rw [hreset]
      exact trackChange_reset (.inr ⟨some pub, now, rfl⟩) hget
    · rw [hsame]
      exact ⟨track, hget, .same rfl⟩
  | untracked r hmoved => exact ⟨track, hmoved ▸ hget, .same rfl⟩
  | acquired r _ hmoved =>
    subst hmoved
    exact trackChange_acquire hget
  | callRelease i hmoved =>
    subst hmoved
    exact ⟨track, hget, .same rfl⟩
  | finishRelease i manager hreleased hmoved =>
    subst hmoved
    exact trackChange_release h hreleased hget
  | reset hmoved =>
    subst hmoved
    exact trackChange_reset (.inl rfl) hget
  | loop q old new hold hact hmoved =>
    subst hmoved
    simp only [tracks, cell_modify] at hold hget ⊢
    rw [hget]
    split
    next hp =>
      obtain rfl := hp
      obtain rfl := Option.mem_unique hold hget
      exact ⟨new, rfl, .loop rfl hact⟩
    · exact ⟨track, rfl, .same rfl⟩
  | cancelRead q old new hold hact hmoved =>
    subst hmoved
    simp only [tracks, cell_modify] at hold hget ⊢
    rw [hget]
    split
    next hp =>
      obtain rfl := hp
      obtain rfl := Option.mem_unique hold hget
      exact ⟨new, rfl, .cancelRead rfl hact⟩
    · exact ⟨track, rfl, .same rfl⟩

/-! ## New tracks -/

theorem resetTrack_length (stream : Stream) (tracks : TrackTable reg) (key : TrackKey) :
    (resetTrack stream tracks key).cells.length = tracks.cells.length := by
  unfold resetTrack
  split
  · rfl
  · rw [cells_erase, cells_length_modify]

theorem reset_length (stream : Stream) (tm : TranscodeManager reg) :
    (tm.reset stream).tracks.cells.length = tm.tracks.cells.length := by
  unfold reset
  induction tm.tracks.table.keys generalizing tm with
  | nil => rfl
  | cons key keys ih =>
    exact (ih { tm with tracks := _ }).trans (resetTrack_length _ _ _)

theorem releaseTrack_length (key : TrackKey) (acquired : ℕ) (tracks : TrackTable reg) :
    (releaseTrack key acquired tracks).cells.length = tracks.cells.length := by
  unfold releaseTrack
  split
  · dsimp only
    split
    · split
      · simp [cells_erase]
      · simp
    · simp
  · rfl

theorem finishRelease_length {tm tm' : TranscodeManager reg} (h : tm.finishRelease i = some tm') :
    tm'.tracks.cells.length = tm.tracks.cells.length := by
  unfold finishRelease at h
  split at h
  · split_ifs at h
    cases h
    exact releaseTrack_length _ _ _
  · simp at h

def boundaryOf (stream : Stream) : Option StreamStartupSnapshot → Option ℕ
  | none => stream.generationBoundary
  | some snap => snap.generationBoundary

def newTrack (s : TranscodeSystem reg) (r : ReaderRequest)
    (sourceCodec : CodecType) : TranscodedTrack reg :=
  newTranscodedTrack reg s.manager.bufSize r.targetCodec r.audioOnly
    r.sourceStart r.audioEpochFloor sourceCodec
    (boundaryOf s.trace.stream r.snapshot)

theorem acquireTrack_new (hnone : s.tracks.cells[p]? = none)
    (hget : (s.manager.acquireTrack s.trace.stream r).2.tracks.cells[p]? = some track) :
    ∃ codec, track = s.newTrack r codec := by
  have hlen : s.manager.tracks.cells.length ≤ p := List.getElem?_eq_none_iff.mp hnone
  unfold acquireTrack at hget
  split at hget
  · have hlt := (List.getElem?_eq_some_iff.mp hget).1
    simp only [addLease, cells_length_modify] at hlt
    omega
  · have hlt := (List.getElem?_eq_some_iff.mp hget).1
    simp only [addLease, insertNew, List.length_append, List.length_singleton] at hlt
    obtain rfl : p = s.manager.tracks.cells.length := by omega
    simp only [addLease, cell_insertNew_new] at hget
    exact ⟨_, (Option.some.inj hget).symm⟩

/-- The inversion lemma of the system, for a track that is new. -/
theorem newTrack_of_step (hstep : s.step a = some s') (hnone : s.tracks.cells[p]? = none)
    (hget : s'.tracks.cells[p]? = some track) :
    ∃ r codec, checkRequest s.trace.stream r.snapshot = .ok () ∧ track = s.newTrack r codec := by
  have hlen : s.manager.tracks.cells.length ≤ p := List.getElem?_eq_none_iff.mp hnone
  have hlt : p < s'.manager.tracks.cells.length := (List.getElem?_eq_some_iff.mp hget).1
  -- all other actions leave the number of tracks as it is
  have hsame : s'.manager.tracks.cells.length ≠
      s.manager.tracks.cells.length := by
    omega
  cases move_of_step hstep with
  | acquired r hok hmoved =>
    subst hmoved
    obtain ⟨codec, rfl⟩ := acquireTrack_new hnone hget
    exact ⟨r, codec, hok, rfl⟩
  | stream act trace _ hmoved =>
    subst hmoved
    rcases s.resetBefore_cases act with ⟨_, _, _, _, _, hreset⟩ | ⟨_, hkept⟩
    · exact absurd (hreset ▸ reset_length _ _) hsame
    · exact absurd (hkept ▸ rfl) hsame
  | untracked r hmoved | callRelease i hmoved => exact absurd (hmoved ▸ rfl) hsame
  | finishRelease i manager hreleased hmoved =>
    subst hmoved
    exact absurd (finishRelease_length hreleased) hsame
  | reset hmoved => exact absurd (hmoved ▸ reset_length _ _) hsame
  | loop q old new _ _ hmoved | cancelRead q old new _ _ hmoved =>
    exact absurd (hmoved ▸ cells_length_modify _) hsame

end TranscodeSystem

/-! ## The result -/

/-- In every run, every mapped track counts the readers that hold this very
instance, and there is one.  A release of an instance that is no longer mapped
changes no track.  A track is cancelled only by the release of its last reader
or by a reset while its generation is not over. -/
theorem transcode_track_lifetime (reg : Registry) (key : String) (instanceID : ℕ)
    (cfg : StreamConfig) (limits : LimitsConfig) (bufSize : ℤ) (acts : List TranscodeAction)
    (s : TranscodeSystem reg)
    (hrun : runFrom TranscodeSystem.step
      (TranscodeSystem.initial reg key instanceID cfg limits bufSize) acts = some s) :
    (∀ k p, s.tracks.pointer? k = some p → ∃ track, s.tracks.cells[p]? = some track ∧
      track.subCount = s.manager.holders p ∧ 1 ≤ track.subCount) ∧
    ∀ a s', s.step a = some s' →
      (∀ i lease, a = .finishRelease i → s.manager.leases[i]? = some lease →
        (∀ k, s.tracks.pointer? k ≠ some lease.track) → s'.tracks = s.tracks) ∧
        ∀ p track track', s.tracks.cells[p]? = some track → s'.tracks.cells[p]? = some track' →
          track.cancelled = none → track'.cancelled ≠ none →
          (∃ i lease, a = .finishRelease i ∧ s.manager.leases[i]? = some lease ∧ lease.track = p ∧
            s.manager.holders p = 1) ∨
            a.Resets ∧ s.trace.stream.generationEndCursor track.generationBoundary = none := by
  have h : s.manager.LifetimeInv := lifetimeInv_run hrun
  constructor
  · intro k p hp
    obtain ⟨track, htrack, -⟩ := h.valid.get?_isSome hp
    obtain ⟨hcount, hpos, -⟩ := h.counted k p track hp htrack
    exact ⟨track, htrack, hcount, by omega⟩
  · intro a s' hstep
    constructor
    · rintro i lease rfl hi hunmapped
      obtain ⟨manager, hrelease, rfl⟩ := Option.map_eq_some_iff.mp hstep
      simp only [finishRelease, hi] at hrelease
      split_ifs at hrelease
      cases hrelease
      exact if_neg (hunmapped lease.key)
    · intro p track track' hget hget' hopen hcancelled
      obtain ⟨changed, hchanged, hchange⟩ := TranscodeSystem.trackChange_of_step h hstep hget
      obtain rfl := Option.mem_unique hget' hchanged
      cases hchange with
      | same heq | joined heq | left heq =>
        rw [heq] at hcancelled
        exact absurd hopen hcancelled
      | dropped i lease hcalled hleased hmine hlast _ =>
        exact .inl ⟨i, lease, hcalled, hleased, hmine, hlast⟩
      | reset hcalled hrunning _ => exact .inr ⟨hcalled, hrunning⟩
      | loop _ hmoved =>
        have heq := congrArg TrackIdentity.cancelled (loopEffect_of_loopStep hmoved).identity
        exact absurd (heq.trans hopen) hcancelled
      | cancelRead _ hmoved =>
        have heq := congrArg TrackIdentity.cancelled (identity_cancelRead hmoved)
        exact absurd (heq.trans hopen) hcancelled

/-- Codecs that turn every byte into a sample and every sample into a byte. -/
def plainCodecs : Registry where
  Decoder := Unit
  Encoder := Unit
  Resampler := Unit
  newDecoder _ := some ()
  newEncoder _ := some ()
  newResampler _ _ _ _ := some ()
  sequenceHeader _ := none
  setExtradata _ d := d
  decode payload d := (some ⟨payload.map fun _ => 0, 48000, 1⟩, d)
  sampleRate _ := 48000
  channels _ := 1
  frameSize _ := 0
  encode pcm e := (some (pcm.samples.map fun _ => 0), e)
  encodeAttributed e := some fun pcm span => (some [⟨pcm.samples.map fun _ => 0, span⟩], e)
  drain _ := none
  drainAttributed e := some ([], e)
  resample pcm r := (some pcm, r)
  resampleAttributed r := some fun pcm span => (some ⟨pcm, span⟩, r)
  drainResampler _ := none
  drainResamplerAttributed r := some (none, r)

/-- An audio-only reader for Opus, from the beginning. -/
def opusRequest : ReaderRequest :=
  { targetCodec := .opus
    sourceStart := 0
    audioEpochFloor := 0
    audioOnly := true
    forceTrack := false
    snapshot := none }

/-- Two subscribers share a track; one leaves and calls its release function
twice. -/
def sharedTrack : List TranscodeAction :=
  [.stream (.setPublisher (some camera) 0), .acquire opusRequest,
    .acquire opusRequest, .callRelease 0, .finishRelease 0, .callRelease 0]

theorem transcode_track_lifetime_shared :
    ∃ s : TranscodeSystem plainCodecs, runFrom TranscodeSystem.step
        (TranscodeSystem.initial plainCodecs "live" 1 smallCache noLimits 8)
        sharedTrack = some s ∧ s.tracks.pointer? opusRequest.key = some 0 ∧
      ∃ track : TranscodedTrack plainCodecs, s.tracks.cells[0]? = some track ∧
        track.subCount = s.manager.holders 0 ∧ 1 ≤ track.subCount :=
  ⟨_, rfl, rfl, (transcode_track_lifetime plainCodecs "live" 1 smallCache
    noLimits 8 sharedTrack _ rfl).1 opusRequest.key 0 rfl⟩

end LiveForge.Core
