import LiveForge.Transcode.Loop
import LiveForge.Transcode.Manager

/-!
# The readers of a track

A track is kept alive by the readers that were acquired and not yet released.
The manager counts them; the producer of the track never touches the count.
-/

namespace LiveForge.Core

open AudioCodec Support PointerTable TrackLease

variable {reg : Registry} {track track' : TranscodedTrack reg} {tm tm' : TranscodeManager reg}
  {tracks : TrackTable reg} {p : ℕ}

namespace TranscodedTrack

def key (track : TranscodedTrack reg) : TrackKey :=
  ⟨track.audioOnly, track.targetCodec⟩

theorem key_of_identity (h : track'.identity = track.identity) : track'.key = track.key := by
  have hcodec := congrArg TrackIdentity.targetCodec h
  have haudio := congrArg TrackIdentity.audioOnly h
  simp only [identity] at hcodec haudio
  rw [key, key, hcodec, haudio]

end TranscodedTrack

/-! ## What the manager does to its tracks -/

namespace TranscodeManager

/-- What `Reset` makes of a track. -/
def ResetTo (s : Stream) (track track' : TranscodedTrack reg) : Prop :=
  track' = track ∨ s.generationEndCursor track.generationBoundary = none ∧
      track' = cancelTrack .managerReset track

theorem ResetTo.key {s : Stream} (h : ResetTo s track track') : track'.key = track.key := by
  rcases h with rfl | ⟨-, rfl⟩
  · rfl
  · rfl

theorem ResetTo.trans {s : Stream} {track'' : TranscodedTrack reg} (h : ResetTo s track track')
    (h' : ResetTo s track' track'') :
    ResetTo s track track'' := by
  rcases h with rfl | ⟨hopen, rfl⟩
  · exact h'
  · rcases h' with rfl | ⟨-, rfl⟩
    · exact .inr ⟨hopen, rfl⟩
    · refine .inr ⟨hopen, ?_⟩
      simp [cancelTrack]

theorem resetTrack_pointer? (s : Stream) (tracks : TrackTable reg) (key k : TrackKey) :
    (resetTrack s tracks key).pointer? k = if k = key then none else tracks.pointer? k := by
  unfold resetTrack
  split
  next hnone =>
    split
    next hk => rw [hk, hnone]
    · rfl
  · rw [pointer?_erase, pointer?_modify]

theorem resetTrack_cell (s : Stream) (key : TrackKey) (h : tracks.cells[p]? = some track) :
    ∃ track', (resetTrack s tracks key).cells[p]? = some track' ∧ ResetTo s track track' := by
  unfold resetTrack
  split
  · exact ⟨track, h, .inl rfl⟩
  next pointer _ =>
    rw [cells_erase, cell_modify, h]
    by_cases hp : pointer = p
    · rw [if_pos hp]
      refine ⟨_, rfl, ?_⟩
      dsimp only
      split
      next hopen => exact .inr ⟨Option.isNone_iff_eq_none.mp hopen, rfl⟩
      · exact .inl rfl
    · rw [if_neg hp]
      exact ⟨track, rfl, .inl rfl⟩

/-- All keys are deleted one after the other. -/
theorem foldl_resetTrack_pointer? (s : Stream) (keys : List TrackKey) (tracks : TrackTable reg)
    (k : TrackKey) :
    (keys.foldl (resetTrack s) tracks).pointer? k =
      if k ∈ keys then none else tracks.pointer? k := by
  induction keys generalizing tracks with
  | nil => simp
  | cons key keys ih =>
    rw [List.foldl_cons, ih, resetTrack_pointer?]
    by_cases hmem : k ∈ keys
    · simp [hmem]
    · by_cases hk : k = key
      · simp [hk]
      · simp [hk]

theorem foldl_resetTrack_cell (s : Stream) (keys : List TrackKey)
    (h : tracks.cells[p]? = some track) :
    ∃ track', (keys.foldl (resetTrack s) tracks).cells[p]? = some track' ∧
      ResetTo s track track' := by
  induction keys generalizing tracks track with
  | nil => exact ⟨track, h, .inl rfl⟩
  | cons key keys ih =>
    obtain ⟨track', h', hreset⟩ := resetTrack_cell s key h
    obtain ⟨track'', h'', hreset'⟩ := ih h'
    exact ⟨track'', h'', hreset.trans hreset'⟩

theorem reset_pointer? (s : Stream) (tm : TranscodeManager reg) (k : TrackKey) :
    (tm.reset s).tracks.pointer? k = none := by
  rw [reset, foldl_resetTrack_pointer?]
  split
  · rfl
  next hmem =>
    exact AList.lookup_eq_none.mpr fun hk => hmem (AList.mem_keys.mp hk)

end TranscodeManager

/-- The reader holds the track: it was acquired and is not released yet. -/
def TrackLease.holds (p : ℕ) (lease : TrackLease) : Bool :=
  decide (lease.track = p) && decide (lease.state ≠ .released)

namespace TranscodeManager

def holders (tm : TranscodeManager reg) (p : ℕ) : ℕ :=
  tm.leases.countP (TrackLease.holds p)

/-- A mapped track counts its readers, has at least one, and is not
cancelled. -/
structure LifetimeInv (tm : TranscodeManager reg) : Prop where
  valid : tm.tracks.Valid
  keyed : ∀ k p track, tm.tracks.pointer? k = some p →
    tm.tracks.cells[p]? = some track → track.key = k
  leased : ∀ lease ∈ tm.leases, ∃ track,
    tm.tracks.cells[lease.track]? = some track ∧ track.key = lease.key
  counted : ∀ k p track, tm.tracks.pointer? k = some p → tm.tracks.cells[p]? = some track →
      track.subCount = tm.holders p ∧ 0 < tm.holders p ∧ track.cancelled = none

namespace LifetimeInv

theorem initial (bufSize : ℤ) : LifetimeInv (new bufSize : TranscodeManager reg) := by
  refine ⟨valid_empty, ?_, ?_, ?_⟩
  · intro k p track hp
    simp [new, pointer?, empty] at hp
  · intro lease hlease
    simp [new] at hlease
  · intro k p track hp
    simp [new, pointer?, empty] at hp

/-- Nobody holds a track that does not exist yet. -/
theorem holders_new (h : LifetimeInv tm) : tm.holders tm.tracks.cells.length = 0 := by
  rw [holders, List.countP_eq_zero]
  intro lease hlease hholds
  obtain ⟨track, htrack, -⟩ := h.leased lease hlease
  simp only [holds, Bool.and_eq_true, decide_eq_true_eq] at hholds
  rw [hholds.1] at htrack
  simp at htrack

theorem holders_addLease (tm : TranscodeManager reg) (key : TrackKey) (q p : ℕ) :
    (tm.addLease key q).holders p = tm.holders p + if q = p then 1 else 0 := by
  rw [holders, addLease, List.countP_append, ← holders]
  by_cases hq : q = p
  · simp [holds]
  · simp [holds]

def Counted (n : ℕ) (track : TranscodedTrack reg) : Prop :=
  track.subCount = n ∧ 0 < n ∧ track.cancelled = none

/-- Changes that map no new track. -/
theorem of_change (h : LifetimeInv tm) (hvalid : tm'.tracks.Valid)
    (hpointer : ∀ k p, tm'.tracks.pointer? k = some p → tm.tracks.pointer? k = some p)
    (hleased : ∀ lease ∈ tm'.leases, ∃ track, tm.tracks.cells[lease.track]? = some track ∧
      track.key = lease.key)
    (hcell : ∀ p track, tm.tracks.cells[p]? = some track →
      ∃ track', tm'.tracks.cells[p]? = some track' ∧ track'.key = track.key ∧
        ∀ k, tm'.tracks.pointer? k = some p →
          Counted (tm.holders p) track → Counted (tm'.holders p) track') :
    LifetimeInv tm' := by
  have hmapped : ∀ k p track', tm'.tracks.pointer? k = some p →
      tm'.tracks.cells[p]? = some track' → track'.key = k ∧ Counted (tm'.holders p) track' := by
    intro k p track' hp' hget'
    have hp := hpointer k p hp'
    obtain ⟨track, hget, -⟩ := h.valid.get?_isSome hp
    obtain ⟨changed, hchanged, hkey, hcounted⟩ := hcell p track hget
    obtain rfl := Option.mem_unique hget' hchanged
    exact ⟨hkey.trans (h.keyed k p track hp hget), hcounted k hp' (h.counted k p track hp hget)⟩
  refine ⟨hvalid, fun k p track' hp hget => (hmapped k p track' hp hget).1, ?_,
    fun k p track' hp hget => (hmapped k p track' hp hget).2⟩
  intro lease hlease
  obtain ⟨track, hget, hkey⟩ := hleased lease hlease
  obtain ⟨track', hget', hkey', -⟩ := hcell _ track hget
  exact ⟨track', hget', hkey'.trans hkey⟩

/-- A change of one track that the manager does not see. -/
theorem modify_same (h : LifetimeInv tm)
    (hget : tm.tracks.cells[p]? = some track) (hsame : track'.identity = track.identity) :
    LifetimeInv { tm with tracks := tm.tracks.modify p fun _ => track' } := by
  refine h.of_change (h.valid.modify _ _) (fun _ _ => id) h.leased ?_
  intro q old hold
  refine ⟨_, cell_modify_of_some hold _, ?_⟩
  split
  next hq =>
    subst hq
    obtain rfl := Option.mem_unique hget hold
    refine ⟨TranscodedTrack.key_of_identity hsame, fun _ _ ⟨hcount, hpos, hopen⟩ => ?_⟩
    exact ⟨(congrArg TrackIdentity.subCount hsame).trans hcount, hpos,
      (congrArg TrackIdentity.cancelled hsame).trans hopen⟩
  · exact ⟨rfl, fun _ _ => id⟩

variable {k : TrackKey} {lease : TrackLease} {i : ℕ}

theorem join (h : LifetimeInv tm) (hp : tm.tracks.pointer? k = some p) :
    LifetimeInv ({ tm with
      tracks := tm.tracks.modify p addReader }.addLease k p) := by
  refine h.of_change (h.valid.modify _ _) (fun _ _ => id) ?_ ?_
  · obtain ⟨track, htrack, -⟩ := h.valid.get?_isSome hp
    exact forall_mem_concat h.leased ⟨track, htrack, h.keyed k p track hp htrack⟩
  · intro q old hold
    refine ⟨_, cell_modify_of_some hold _, ?_⟩
    rw [holders_addLease]
    split
    · refine ⟨rfl, fun _ _ ⟨hcount, hpos, hopen⟩ => ⟨?_, Nat.add_pos_left hpos _, hopen⟩⟩
      exact congrArg (· + 1) hcount
    · exact ⟨rfl, fun _ _ => id⟩

theorem create (h : LifetimeInv tm)
    (hkey : track.key = k) (hcount : track.subCount = 1) (hopen : track.cancelled = none) :
    LifetimeInv ({ tm with tracks := tm.tracks.insertNew k track }.addLease k
      tm.tracks.cells.length) := by
  have hold : ∀ q old, (tm.tracks.insertNew k track).cells[q]? = some old →
      q = tm.tracks.cells.length ∧ old = track ∨
        tm.tracks.cells[q]? = some old := by
    intro q old hq
    rcases Nat.lt_trichotomy q tm.tracks.cells.length with hlt | rfl | hgt
    · rw [cell_insertNew_old hlt] at hq
      exact .inr hq
    · rw [cell_insertNew_new] at hq
      exact .inl ⟨rfl, (Option.some.inj hq).symm⟩
    · rw [List.getElem?_eq_none (by simp [insertNew]; omega)] at hq
      simp at hq
  have hpointer : ∀ k' q, (tm.tracks.insertNew k track).pointer? k' = some q →
      k' = k ∧ q = tm.tracks.cells.length ∨
        k' ≠ k ∧ tm.tracks.pointer? k' = some q := by
    intro k' q hq
    rw [pointer?_insertNew] at hq
    split at hq
    next hk => exact .inl ⟨hk, (Option.some.inj hq).symm⟩
    next hk => exact .inr ⟨hk, hq⟩
  refine ⟨h.valid.insertNew _ _, ?_, ?_, ?_⟩
  · intro k' q old hq hget
    rcases hpointer k' q hq with ⟨rfl, rfl⟩ | ⟨-, hq'⟩
    · rcases hold _ old hget with ⟨-, rfl⟩ | hget'
      · exact hkey
      · simp at hget'
    · have hlt := h.valid.bound k' q hq'
      rcases hold q old hget with ⟨rfl, -⟩ | hget'
      · exact absurd hlt (lt_irrefl _)
      · exact h.keyed k' q old hq' hget'
  · refine forall_mem_concat (fun lease hmem => ?_) ⟨track, cell_insertNew_new, hkey⟩
    obtain ⟨before, hbefore, hkey'⟩ := h.leased lease hmem
    have hlt := (List.getElem?_eq_some_iff.mp hbefore).1
    exact ⟨before, (cell_insertNew_old hlt).trans hbefore, hkey'⟩
  · intro k' q old hq hget
    rw [holders_addLease]
    change _ = ((tm.holders q + _ : ℕ) : ℤ) ∧ 0 < tm.holders q + _ ∧ _
    rcases hpointer k' q hq with ⟨rfl, rfl⟩ | ⟨-, hq'⟩
    · rcases hold _ old hget with ⟨-, rfl⟩ | hget'
      · rw [h.holders_new, if_pos rfl]
        exact ⟨hcount, Nat.one_pos, hopen⟩
      · simp at hget'
    · have hlt := h.valid.bound k' q hq'
      rw [if_neg hlt.ne']
      rcases hold q old hget with ⟨rfl, -⟩ | hget'
      · exact absurd hlt (lt_irrefl _)
      · exact h.counted k' q old hq' hget'

/-- What a release leaves of the number of readers. -/
theorem holders_release (tm : TranscodeManager reg)
    (hi : tm.leases[i]? = some lease) (hheld : lease.state ≠ .released) (p : ℕ) :
    (tm.leases.set i { lease with state := .released }).countP
        (holds p) + (if lease.track = p then 1 else 0) =
      tm.holders p := by
  obtain ⟨hlt, hget⟩ := List.getElem?_eq_some_iff.mp hi
  rw [List.countP_set hlt, hget, holders]
  by_cases hp : lease.track = p
  · have hone : 0 < tm.leases.countP (holds p) := by
      rw [List.countP_pos_iff]
      refine ⟨lease, List.mem_of_getElem? hi, ?_⟩
      simp [holds, hp, hheld]
    simp [holds, hp, hheld]
    omega
  · simp [holds, hp]

theorem callRelease (h : LifetimeInv tm) (i : ℕ) : LifetimeInv (tm.callRelease i) := by
  have hholders : ∀ p, (tm.callRelease i).holders p = tm.holders p := by
    intro p
    rw [holders, TranscodeManager.callRelease, holders]
    cases hi : tm.leases[i]? with
    | none => rw [List.modify_eq_set_getElem?, hi]; rfl
    | some lease =>
      obtain ⟨hlt, hget⟩ := List.getElem?_eq_some_iff.mp hi
      rw [List.modify_eq_set_getElem?, hi]
      dsimp only [Option.map_eq_map, Option.map_some, Option.getD_some]
      split
      next hheld =>
        have hone : lease.track = p → 0 < tm.leases.countP (holds p) := by
          intro hp
          rw [List.countP_pos_iff]
          refine ⟨lease, List.mem_of_getElem? hi, ?_⟩
          simp [holds, hp, hheld]
        rw [List.countP_set hlt, hget]
        by_cases hp : lease.track = p
        · simp only [holds, hp, hheld]
          simp
          omega
        · simp [holds, hp]
      · rw [← hget, List.set_getElem_self]
  refine ⟨h.valid, h.keyed, ?_, ?_⟩
  · intro lease hlease
    rw [TranscodeManager.callRelease] at hlease
    obtain ⟨j, hj⟩ := List.getElem?_of_mem hlease
    rw [List.getElem?_modify] at hj
    obtain ⟨before, hbefore, rfl⟩ := Option.map_eq_some_iff.mp hj
    have hleased := h.leased before (List.mem_of_getElem? hbefore)
    split
    · split
      · exact hleased
      · exact hleased
    · exact hleased
  · intro k p track hp hget
    rw [hholders]
    exact h.counted k p track hp hget

/-- The three things a release can do. -/
theorem releaseTrack_cases (hvalid : tracks.Valid) (key : TrackKey) (q : ℕ) :
    tracks.pointer? key ≠ some q ∧ releaseTrack key q tracks = tracks ∨
      tracks.pointer? key = some q ∧ ∃ track, tracks.cells[q]? = some track ∧
        (1 < track.subCount ∧ releaseTrack key q tracks = tracks.modify q removeReader ∨
          track.subCount ≤ 1 ∧
            releaseTrack key q tracks =
              ((tracks.modify q removeReader).modify q (cancelTrack .subscriberReleased)).erase
                key) := by
  unfold releaseTrack
  split
  next hp =>
    right
    obtain ⟨track, htrack, -⟩ := hvalid.get?_isSome hp
    refine ⟨hp, track, htrack, ?_⟩
    have hleft : (tracks.modify q removeReader).cells[q]? = some (removeReader track) := by
      rw [cell_modify, if_pos rfl, htrack]
      rfl
    dsimp only
    rw [hleft]
    by_cases hlast : track.subCount ≤ 1
    · right
      refine ⟨hlast, if_pos ?_⟩
      simp only [removeReader]
      omega
    · left
      refine ⟨by omega, if_neg ?_⟩
      simp only [removeReader]
      omega
  next hp => exact .inl ⟨hp, rfl⟩

/-- A track that somebody holds is mapped under the key of the holder or not at
all. -/
theorem pointer?_of_lease (h : LifetimeInv tm) (hlease : lease ∈ tm.leases)
    (hp : tm.tracks.pointer? k = some lease.track) :
    k = lease.key := by
  obtain ⟨track, htrack, hkey⟩ := h.leased lease hlease
  rw [← h.keyed k lease.track track hp htrack, hkey]

section Release

variable (h : LifetimeInv tm) (hi : tm.leases[i]? = some lease)

include h hi

/-- The leases after a release stand for the same tracks. -/
theorem leased_release :
    ∀ l ∈ tm.leases.set i { lease with state := .released },
    ∃ track, tm.tracks.cells[l.track]? = some track ∧ track.key = l.key := by
  intro l hl
  rcases List.mem_or_eq_of_mem_set hl with hold | rfl
  · exact h.leased l hold
  · exact h.leased lease (List.mem_of_getElem? hi)

variable (hheld : lease.state ≠ .released)

include hheld

/-- The instance is no longer mapped, so no count changes. -/
theorem release_stale (hother : tm.tracks.pointer? lease.key ≠ some lease.track) :
    LifetimeInv { tm with
      leases := tm.leases.set i { lease with state := .released } } := by
  refine h.of_change h.valid (fun _ _ => id) (h.leased_release hi) ?_
  intro p track hget
  refine ⟨track, hget, rfl, fun k hp hcounted => ?_⟩
  have hne : lease.track ≠ p := by
    rintro rfl
    exact hother (h.pointer?_of_lease (List.mem_of_getElem? hi) hp ▸ hp)
  have hkeep := holders_release tm hi hheld p
  rw [if_neg hne, Nat.add_zero] at hkeep
  rwa [holders, hkeep]

/-- One of several readers leaves. -/
theorem release_one
    (htrack : tm.tracks.cells[lease.track]? = some track) (hmore : 1 < track.subCount) :
    LifetimeInv { tm with
      tracks := tm.tracks.modify lease.track removeReader
      leases := tm.leases.set i { lease with state := .released } } := by
  refine h.of_change (h.valid.modify _ _) (fun _ _ => id) (h.leased_release hi) ?_
  intro p old hold
  have hkeep := holders_release tm hi hheld p
  refine ⟨_, cell_modify_of_some hold _, ?_⟩
  split
  next hp =>
    subst hp
    obtain rfl := Option.mem_unique htrack hold
    rw [if_pos rfl] at hkeep
    refine ⟨rfl, fun _ _ ⟨hcount, _, hopen⟩ => ?_⟩
    simp only [Counted, removeReader, holders]
    exact ⟨by omega, by omega, hopen⟩
  next hp =>
    rw [if_neg hp, Nat.add_zero] at hkeep
    refine ⟨rfl, fun _ _ hcounted => ?_⟩
    rwa [holders, hkeep]

/-- The last reader takes the track with it. -/
theorem release_last :
    LifetimeInv { tm with
      tracks := ((tm.tracks.modify lease.track removeReader).modify lease.track
        (cancelTrack .subscriberReleased)).erase lease.key
      leases := tm.leases.set i { lease with state := .released } } := by
  have hpointer : ∀ k p, (((tm.tracks.modify lease.track removeReader).modify lease.track
      (cancelTrack .subscriberReleased)).erase lease.key).pointer? k = some p →
        k ≠ lease.key ∧ tm.tracks.pointer? k = some p := by
    intro k p hk
    rw [pointer?_erase] at hk
    split_ifs at hk with hne
    exact ⟨hne, hk⟩
  refine h.of_change (((h.valid.modify _ _).modify _ _).erase _)
    (fun k p hk => (hpointer k p hk).2) (h.leased_release hi) ?_
  intro p old hold
  refine ⟨_, cell_modify_of_some (cell_modify_of_some hold _) _, ?_, fun k hk hcounted => ?_⟩
  · split <;> rfl
  · -- what is still mapped is another instance, and untouched
    obtain ⟨hne, hk'⟩ := hpointer k p hk
    have hp : lease.track ≠ p := by
      rintro rfl
      exact hne (h.pointer?_of_lease (List.mem_of_getElem? hi) hk')
    have hkeep := holders_release tm hi hheld p
    rw [if_neg hp, Nat.add_zero] at hkeep
    rwa [if_neg hp, if_neg hp, holders, hkeep]

end Release

theorem finishRelease (h : LifetimeInv tm) (hrelease : tm.finishRelease i = some tm') :
    LifetimeInv tm' := by
  unfold TranscodeManager.finishRelease at hrelease
  split at hrelease
  next lease hi =>
    split_ifs at hrelease with hstopping
    cases hrelease
    have hheld : lease.state ≠ .released := by simp [hstopping]
    rcases releaseTrack_cases h.valid lease.key lease.track with
      ⟨hother, hsame⟩ | ⟨-, track, htrack, ⟨hmore, heq⟩ | ⟨-, heq⟩⟩
    · rw [hsame]
      exact h.release_stale hi hheld hother
    · rw [heq]
      exact h.release_one hi hheld htrack hmore
    · rw [heq]
      exact h.release_last hi hheld
  · simp at hrelease

theorem reset (h : LifetimeInv tm) (s : Stream) : LifetimeInv (tm.reset s) := by
  have hnone : ∀ k p, (tm.reset s).tracks.pointer? k ≠ some p := by
    intro k p
    rw [reset_pointer?]
    simp
  refine h.of_change ⟨fun k p hp => absurd hp (hnone k p), fun k _ p hp => absurd hp (hnone k p)⟩
    (fun k p hp => absurd hp (hnone k p)) h.leased ?_
  intro p track hget
  obtain ⟨track', hget', hreset⟩ := foldl_resetTrack_cell s _ hget
  exact ⟨track', hget', hreset.key, fun k hp => absurd hp (hnone k p)⟩

theorem acquireTrack (h : LifetimeInv tm) (s : Stream) (r : ReaderRequest) :
    LifetimeInv (tm.acquireTrack s r).2 := by
  unfold TranscodeManager.acquireTrack
  split
  next pointer hp => exact h.join hp
  · exact h.create rfl rfl rfl

end LifetimeInv

end TranscodeManager

namespace TranscodeSystem

variable {s s' : TranscodeSystem reg} {a : TranscodeAction}

theorem withTrack_eq_some {pointer : ℕ} {act : TranscodedTrack reg → Option (TranscodedTrack reg)}
    (h : s.withTrack pointer act = some s') :
    ∃ track track', s.tracks.cells[pointer]? = some track ∧
      act track = some track' ∧ s' = { s with manager := { s.manager with
        tracks := s.tracks.modify pointer fun _ => track' } } := by
  obtain ⟨track', hact, rfl⟩ := Option.map_eq_some_iff.mp h
  obtain ⟨track, htrack, hact⟩ := Option.bind_eq_some_iff.mp hact
  exact ⟨track, track', htrack, hact, rfl⟩

/-- The two outcomes of a successful acquisition. -/
theorem getOrCreateReaderAt_cases {stream : Stream} {r : ReaderRequest} {reader : AcquiredReader}
    (h : tm.getOrCreateReaderAt stream r = .ok (reader, tm')) :
    checkRequest stream r.snapshot = .ok () ∧ (reader = .source r.sourceStart ∧ tm' = tm ∨
        reader = .track (tm.acquireTrack stream r).1 ∧ tm' = (tm.acquireTrack stream r).2) := by
  unfold TranscodeManager.getOrCreateReaderAt at h
  split at h
  · simp at h
  next hok =>
    refine ⟨hok, ?_⟩
    dsimp only at h
    split_ifs at h
    · obtain ⟨hreader, htm⟩ := Prod.mk.inj (Except.ok.inj h)
      exact .inl ⟨hreader.symm, htm.symm⟩
    · obtain ⟨hreader, htm⟩ := Prod.mk.inj (Except.ok.inj h)
      exact .inr ⟨hreader.symm, htm.symm⟩

/-- A publisher is accepted, and the manager is reset; or nothing happens to
the manager. -/
theorem resetBefore_cases (s : TranscodeSystem reg) (act : StreamAction) :
    (∃ pub now new, act = .setPublisher (some pub) now ∧
      s.trace.stream.setPublisher (some pub) now = .ok new ∧
        s.resetBefore act = s.manager.reset s.trace.stream) ∨
    (∀ pub now new, act = .setPublisher (some pub) now →
      s.trace.stream.setPublisher (some pub) now ≠ .ok new) ∧ s.resetBefore act = s.manager := by
  unfold resetBefore
  split
  next pub now =>
    cases hset : s.trace.stream.setPublisher pub now with
    | ok new =>
      cases pub with
      | none => simp [Stream.setPublisher] at hset
      | some pub => exact .inl ⟨pub, now, new, rfl, hset, rfl⟩
    | error e =>
      refine .inr ⟨?_, rfl⟩
      rintro pub' now' new hact hok
      obtain ⟨rfl, rfl⟩ := StreamAction.setPublisher.inj hact
      rw [hset] at hok
      simp at hok
  next hother =>
    refine .inr ⟨?_, rfl⟩
    intro pub now new hact
    exact absurd hact (hother (some pub) now)

inductive Move (s s' : TranscodeSystem reg) : TranscodeAction → Prop where
  | stream (act : StreamAction) (trace : StreamTrace)
      (stepped : s.trace.step act = some trace)
      (moved : s' = ⟨trace, s.resetBefore act⟩) : Move s s' (.stream act)
  | untracked (r : ReaderRequest) (moved : s' = s) : Move s s' (.acquire r)
  | acquired (r : ReaderRequest)
      (accepted : checkRequest s.trace.stream r.snapshot = .ok ())
      (moved : s' = { s with
        manager := (s.manager.acquireTrack s.trace.stream r).2 }) :
      Move s s' (.acquire r)
  | callRelease (i : ℕ)
      (moved : s' = { s with manager := s.manager.callRelease i }) :
      Move s s' (.callRelease i)
  | finishRelease (i : ℕ) (manager : TranscodeManager reg)
      (released : s.manager.finishRelease i = some manager)
      (moved : s' = { s with manager }) : Move s s' (.finishRelease i)
  | reset
      (moved : s' = { s with manager := s.manager.reset s.trace.stream }) :
      Move s s' .reset
  | loop (p : ℕ) (track track' : TranscodedTrack reg)
      (found : s.tracks.cells[p]? = some track)
      (stepped : track.loopStep s.trace.stream = some track')
      (moved : s' = { s with manager := { s.manager with
        tracks := s.tracks.modify p fun _ => track' } }) : Move s s' (.loop p)
  | cancelRead (p : ℕ) (track track' : TranscodedTrack reg)
      (found : s.tracks.cells[p]? = some track)
      (stepped : track.cancelRead s.trace.stream = some track')
      (moved : s' = { s with manager := { s.manager with
        tracks := s.tracks.modify p fun _ => track' } }) :
      Move s s' (.cancelRead p)

/-- The inversion lemma of the system. -/
theorem move_of_step (h : s.step a = some s') : Move s s' a := by
  cases a with
  | stream act =>
    obtain ⟨trace, htrace, heq⟩ := Option.map_eq_some_iff.mp h
    exact .stream act trace htrace heq.symm
  | acquire r =>
    simp only [step] at h
    split at h
    next reader manager hacquire =>
      obtain ⟨hok, ⟨-, rfl⟩ | ⟨-, rfl⟩⟩ := getOrCreateReaderAt_cases hacquire
      · exact .untracked r (Option.some.inj h).symm
      · exact .acquired r hok (Option.some.inj h).symm
    · exact .untracked r (Option.some.inj h).symm
  | callRelease i => exact .callRelease i (Option.some.inj h).symm
  | finishRelease i =>
    obtain ⟨manager, hrelease, heq⟩ := Option.map_eq_some_iff.mp h
    exact .finishRelease i manager hrelease heq.symm
  | reset => exact .reset (Option.some.inj h).symm
  | loop p =>
    obtain ⟨track, track', hget, hact, heq⟩ := withTrack_eq_some h
    exact .loop p track track' hget hact heq
  | cancelRead p =>
    obtain ⟨track, track', hget, hact, heq⟩ := withTrack_eq_some h
    exact .cancelRead p track track' hget hact heq

theorem lifetimeInv_step (h : s.manager.LifetimeInv) (hstep : s.step a = some s') :
    s'.manager.LifetimeInv := by
  cases move_of_step hstep with
  | stream act trace _ hmoved =>
    subst hmoved
    rcases s.resetBefore_cases act with ⟨_, _, _, _, _, hreset⟩ | ⟨_, hsame⟩
    · exact hreset ▸ h.reset _
    · exact hsame ▸ h
  | untracked r hmoved => exact hmoved ▸ h
  | acquired r _ hmoved =>
    subst hmoved
    exact h.acquireTrack _ r
  | callRelease i hmoved =>
    subst hmoved
    exact h.callRelease i
  | finishRelease i manager hreleased hmoved =>
    subst hmoved
    exact h.finishRelease hreleased
  | reset hmoved =>
    subst hmoved
    exact h.reset _
  | loop p track track' hget hact hmoved =>
    subst hmoved
    exact h.modify_same hget (TranscodedTrack.loopEffect_of_loopStep hact).identity
  | cancelRead p track track' hget hact hmoved =>
    subst hmoved
    exact h.modify_same hget (TranscodedTrack.identity_cancelRead hact)

end TranscodeSystem

theorem lifetimeInv_run {key : String} {instanceID : ℕ} {cfg : StreamConfig}
    {limits : LimitsConfig} {bufSize : ℤ} {acts : List TranscodeAction} {s : TranscodeSystem reg}
    (hrun : runFrom TranscodeSystem.step
      (TranscodeSystem.initial reg key instanceID cfg limits bufSize) acts = some s) :
    s.manager.LifetimeInv :=
  runFrom_invariant (fun _ _ _ h hstep => TranscodeSystem.lifetimeInv_step h hstep)
    (TranscodeManager.LifetimeInv.initial bufSize) hrun

end LiveForge.Core
