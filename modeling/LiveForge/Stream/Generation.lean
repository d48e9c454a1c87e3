import LiveForge.Stream.Startup

/-!
# Publisher generations

Each accepted publisher starts a generation.  The ring is shared by all of
them; a generation owns the positions from the write cursor at its start to
the write cursor at its end.  `Partition` says what it means that generations
share the ring fairly; the rest of the module shows that every method of the
stream keeps it.
-/

namespace LiveForge.Core

open Support LiveForge.Ring GenerationBoundary GenerationState

/-! ## Generations as ranges of positions -/

/-- The generations started so far divide the positions below `cursor` among
them, in order, and every recorded frame lies in the range of its publisher.
`ends` gives the end of a generation once it is over. -/
structure Partition (ends : Installed → Option ℕ) (installed : List Installed)
    (written : List WriteRecord) (cursor : ℕ) : Prop where
  ordered : installed.Pairwise fun g g' =>
    g.generation < g'.generation ∧ ∃ stop, ends g = some stop ∧ stop ≤ g'.start
  started : ∀ g ∈ installed, g.start ≤ cursor
  bounded : ∀ g ∈ installed, ∀ stop, ends g = some stop → g.start ≤ stop ∧ stop ≤ cursor
  owned : ∀ w ∈ written, w.position < cursor ∧ ∃ g ∈ installed,
    g.publisher.id = w.publisher.id ∧ g.start ≤ w.position ∧
      ∀ stop, ends g = some stop → w.position < stop

variable {g : Installed} {written : List WriteRecord} {installed : List Installed} {w : WriteRecord}

namespace Partition

variable {ends ends' : Installed → Option ℕ} {cursor : ℕ}

theorem nil : Partition ends [] [] 0 := by
  refine ⟨List.Pairwise.nil, ?_, ?_, ?_⟩
  all_goals simp

variable (h : Partition ends installed written cursor)

include h

theorem close (hkeep : ∀ g ∈ installed, ∀ stop, ends g = some stop → ends' g = some stop)
    (hnew : ∀ g ∈ installed, ∀ stop, ends' g = some stop → ends g = some stop ∨ stop = cursor) :
    Partition ends' installed written cursor := by
  refine ⟨?_, h.started, ?_, ?_⟩
  · refine h.ordered.imp_of_mem ?_
    rintro g g' hg - ⟨hgen, stop, hstop, hle⟩
    exact ⟨hgen, stop, hkeep g hg stop hstop, hle⟩
  · intro g hg stop hstop
    rcases hnew g hg stop hstop with hold | rfl
    · exact h.bounded g hg stop hold
    · exact ⟨h.started g hg, le_rfl⟩
  · intro w hw
    obtain ⟨hlt, g, hg, hid, hstart, hstop⟩ := h.owned w hw
    refine ⟨hlt, g, hg, hid, hstart, ?_⟩
    intro stop hends
    rcases hnew g hg stop hends with hold | rfl
    · exact hstop stop hold
    · exact hlt

theorem install (hended : ∀ g' ∈ installed, (ends g').isSome)
    (hgen : ∀ g' ∈ installed, g'.generation < g.generation) (hstart : g.start = cursor)
    (hopen : ends g = none) :
    Partition ends (installed ++ [g]) written cursor := by
  refine ⟨?_, ?_, ?_, ?_⟩
  · rw [List.pairwise_append]
    refine ⟨h.ordered, List.pairwise_singleton _ _, ?_⟩
    intro g' hg' g'' hg''
    obtain rfl := List.mem_singleton.mp hg''
    obtain ⟨stop, hstop⟩ := Option.isSome_iff_exists.mp (hended g' hg')
    exact ⟨hgen g' hg', stop, hstop, hstart ▸ (h.bounded g' hg' stop hstop).2⟩
  · exact forall_mem_concat h.started hstart.le
  · intro g' hg' stop hstop
    rcases List.mem_append.mp hg' with hold | hnew
    · exact h.bounded g' hold stop hstop
    · obtain rfl := List.mem_singleton.mp hnew
      rw [hopen] at hstop
      simp at hstop
  · intro w hw
    obtain ⟨hlt, g', hg', howned⟩ := h.owned w hw
    exact ⟨hlt, g', List.mem_append_left _ hg', howned⟩

theorem write (hg : g ∈ installed) (hopen : ends g = none) (hid : g.publisher.id = w.publisher.id)
    (hpos : w.position = cursor) :
    Partition ends installed (written ++ [w]) (cursor + 1) := by
  refine ⟨h.ordered, ?_, ?_, ?_⟩
  · intro g' hg'
    exact (h.started g' hg').trans (Nat.le_succ cursor)
  · intro g' hg' stop hstop
    obtain ⟨hstart, hle⟩ := h.bounded g' hg' stop hstop
    exact ⟨hstart, hle.trans (Nat.le_succ cursor)⟩
  · intro w' hw'
    rcases List.mem_append.mp hw' with hold | hnew
    · obtain ⟨hlt, howned⟩ := h.owned w' hold
      exact ⟨hlt.trans (Nat.lt_succ_self cursor), howned⟩
    · obtain rfl := List.mem_singleton.mp hnew
      refine ⟨hpos ▸ Nat.lt_succ_self cursor, g, hg, hid, ?_, ?_⟩
      · rw [hpos]
        exact h.started g hg
      · intro stop hstop
        rw [hopen] at hstop
        simp at hstop

end Partition

/-! ## End cursors -/

variable {stop writeCursor : ℕ} {pub : Publisher} {b : GenerationBoundary}

theorem GenerationBoundary.end?_endAt_of_some (h : b.end? = some stop) :
    (b.endAt writeCursor).end? = some stop := by
  cases hended : b.ended with
  | true => simpa [endAt, hended] using h
  | false => simp [end?, hended] at h

theorem GenerationBoundary.end?_endAt_cases (h : (b.endAt writeCursor).end? = some stop) :
    b.end? = some stop ∨ stop = writeCursor := by
  cases hended : b.ended with
  | true => exact .inl (by simpa [endAt, hended] using h)
  | false =>
    simp only [endAt, hended, Bool.false_eq_true, if_false, end?, if_true, Option.some.injEq] at h
    exact .inr h.symm

theorem GenerationBoundary.end?_endAt_isSome (b : GenerationBoundary) (writeCursor : ℕ) :
    (b.endAt writeCursor).end?.isSome := by
  cases hended : b.ended with
  | true | false =>
    simp [endAt, end?, hended]

namespace GenerationState

variable {boundary : Option ℕ} {g : GenerationState}

theorem generationEndCursor_eq_some :
    g.generationEndCursor boundary = some stop ↔
      ∃ i b, boundary = some i ∧ g.boundaries[i]? = some b ∧ b.end? = some stop := by
  simp only [generationEndCursor, Option.bind_eq_some_iff]
  constructor
  · rintro ⟨b, ⟨i, hi, hb⟩, hend⟩
    exact ⟨i, b, hi, hb, hend⟩
  · rintro ⟨i, b, hi, hb, hend⟩
    exact ⟨b, ⟨i, hi, hb⟩, hend⟩

theorem closeGeneration_getElem? (writeCursor : ℕ) (g : GenerationState) (i : ℕ) :
    (g.closeGeneration writeCursor).boundaries[i]? =
      if g.generationBoundary = some i then g.boundaries[i]?.map (endAt writeCursor)
      else g.boundaries[i]? := by
  unfold closeGeneration
  cases hcurrent : g.generationBoundary with
  | none => simp
  | some j =>
    by_cases hij : j = i
    · simp [hij]
    · simp [hij]

theorem generationEndCursor_close_of_some (h : g.generationEndCursor boundary = some stop) :
    (g.closeGeneration writeCursor).generationEndCursor boundary = some stop := by
  obtain ⟨i, b, rfl, hb, hend⟩ := generationEndCursor_eq_some.mp h
  by_cases hcurrent : g.generationBoundary = some i
  · refine generationEndCursor_eq_some.mpr
      ⟨i, b.endAt writeCursor, rfl, ?_, b.end?_endAt_of_some hend⟩
    rw [closeGeneration_getElem?, if_pos hcurrent, hb]
    rfl
  · refine generationEndCursor_eq_some.mpr ⟨i, b, rfl, ?_, hend⟩
    rw [closeGeneration_getElem?, if_neg hcurrent, hb]

theorem generationEndCursor_close_cases
    (h : (g.closeGeneration writeCursor).generationEndCursor boundary = some stop) :
    g.generationEndCursor boundary = some stop ∨ stop = writeCursor := by
  obtain ⟨i, b, rfl, hb, hend⟩ := generationEndCursor_eq_some.mp h
  rw [closeGeneration_getElem?] at hb
  by_cases hcurrent : g.generationBoundary = some i
  · rw [if_pos hcurrent, Option.map_eq_some_iff] at hb
    obtain ⟨b', hb', rfl⟩ := hb
    rcases b'.end?_endAt_cases hend with hold | hnew
    · exact .inl (generationEndCursor_eq_some.mpr ⟨i, b', rfl, hb', hold⟩)
    · exact .inr hnew
  · rw [if_neg hcurrent] at hb
    exact .inl (generationEndCursor_eq_some.mpr ⟨i, b, rfl, hb, hend⟩)

theorem generationEndCursor_close_current {i : ℕ} (writeCursor : ℕ)
    (hcurrent : g.generationBoundary = some i) (hlt : i < g.boundaries.length) :
    ((g.closeGeneration writeCursor).generationEndCursor (some i)).isSome := by
  have hget : g.boundaries[i]? = some g.boundaries[i] := List.getElem?_eq_getElem hlt
  simp only [generationEndCursor, Option.bind_some, closeGeneration_getElem?, hcurrent, hget]
  exact end?_endAt_isSome _ _

theorem generationEndCursor_install :
    (g.install pub writeCursor).generationEndCursor boundary = some stop ↔
      (g.closeGeneration writeCursor).generationEndCursor boundary = some stop := by
  simp only [generationEndCursor_eq_some, install]
  constructor
  · rintro ⟨i, b, hi, hb, hend⟩
    refine ⟨i, b, hi, ?_, hend⟩
    rcases Nat.lt_or_ge i (g.closeGeneration writeCursor).boundaries.length with hlt | hge
    · rwa [List.getElem?_append_left hlt] at hb
    · rw [List.getElem?_append_right hge, List.getElem?_singleton] at hb
      split_ifs at hb
      cases hb
      simp [end?] at hend
  · rintro ⟨i, b, hi, hb, hend⟩
    refine ⟨i, b, hi, ?_, hend⟩
    have hlt := (List.getElem?_eq_some_iff.mp hb).1
    rwa [List.getElem?_append_left hlt]

theorem generationEndCursor_install_new (g : GenerationState) (pub : Publisher) (writeCursor : ℕ) :
    (g.install pub writeCursor).generationEndCursor (some g.boundaries.length) = none := by
  have hlen := closeGeneration_boundaries_length writeCursor g
  simp [generationEndCursor, install, ← hlen, end?]

end GenerationState

/-! ## The owner of the stream -/

def GenerationState.ends (s : GenerationState) (g : Installed) : Option ℕ :=
  s.generationEndCursor g.boundary

/-- The running generation is `g`: its publisher owns the stream, its boundary
is the current one, and all others are over. -/
structure Running (s : GenerationState) (installed : List Installed) (g : Installed) : Prop where
  mem : g ∈ installed
  publisher : s.publisher.isSome
  lastID : s.lastPublisherID = g.publisher.id
  current : s.generationBoundary = g.boundary
  allocated : ∃ i < s.boundaries.length, g.boundary = some i
  notEnded : s.ends g = none
  others : ∀ g' ∈ installed, g' = g ∨ (s.ends g').isSome

/-- Who owns the stream, and which IDs are spent.  `known` collects the
publishers that take part. -/
structure OwnerInv (known : Publisher → Prop) (s : GenerationState)
    (installed : List Installed) (written : List WriteRecord) : Prop where
  number : ∀ g ∈ installed, g.generation ≤ s.publisherGeneration
  spent : s.state ≠ .destroying → ∃ used, s.usedPublisherIDs = some used ∧
    ∀ g ∈ installed, g.publisher.id ∈ used
  distinct : installed.Pairwise fun g g' => g.publisher.id ≠ g'.publisher.id
  named : ∀ g ∈ installed, known g.publisher ∧ g.publisher.id ≠ ""
  writers : ∀ w ∈ written, known w.publisher
  active : s.state = .publishing → ∃ g, Running s installed g
  ended : s.state ≠ .publishing → ∀ g ∈ installed, (s.ends g).isSome

variable {known : Publisher → Prop}

section Owner

variable {s s' : GenerationState} {cursor : ℕ}

theorem Partition.closeGeneration (h : Partition s.ends installed written cursor) :
    Partition (s.closeGeneration cursor).ends installed written cursor :=
  h.close (fun _ _ _ => generationEndCursor_close_of_some)
    fun _ _ _ => generationEndCursor_close_cases

theorem GenerationState.closeGeneration_usedPublisherIDs (cursor : ℕ) (s : GenerationState) :
    (s.closeGeneration cursor).usedPublisherIDs = s.usedPublisherIDs := by
  unfold closeGeneration
  split <;> rfl

def startedBy (pub : Publisher) (cursor : ℕ) (s : GenerationState) : Installed :=
  { publisher := pub
    generation := s.publisherGeneration + 1
    start := cursor
    boundary := some s.boundaries.length }

namespace OwnerInv

variable (h : OwnerInv known s installed written)

include h

/-- Closing the generation ends whatever was not over. -/
theorem ends_close_isSome (cursor : ℕ) (hg : g ∈ installed) :
    ((s.closeGeneration cursor).ends g).isSome := by
  have hkeep : (s.ends g).isSome → ((s.closeGeneration cursor).ends g).isSome := by
    intro hsome
    obtain ⟨stop, hstop⟩ := Option.isSome_iff_exists.mp hsome
    rw [ends, generationEndCursor_close_of_some hstop]
    rfl
  by_cases hpublishing : s.state = .publishing
  · obtain ⟨running, hrunning⟩ := h.active hpublishing
    rcases hrunning.others g hg with rfl | hended
    · obtain ⟨i, hlt, hi⟩ := hrunning.allocated
      have hcurrent : s.generationBoundary = some i := hrunning.current.trans hi
      rw [ends, hi]
      exact generationEndCursor_close_current cursor hcurrent hlt
    · exact hkeep hended
  · exact hkeep (h.ended hpublishing g hg)

/-- A stream whose generations are all over and that nobody publishes to. -/
theorem vacate (hnumber : s.publisherGeneration ≤ s'.publisherGeneration)
    (hused : s'.state ≠ .destroying →
      s.state ≠ .destroying ∧ s'.usedPublisherIDs = s.usedPublisherIDs)
    (hstate : s'.state ≠ .publishing) (hended : ∀ g ∈ installed, (s'.ends g).isSome) :
    OwnerInv known s' installed written := by
  refine ⟨?_, ?_, h.distinct, h.named, h.writers, ?_, fun _ => hended⟩
  · intro g hg
    exact (h.number g hg).trans hnumber
  · intro halive
    obtain ⟨halive', heq⟩ := hused halive
    rw [heq]
    exact h.spent halive'
  · intro hpublishing
    exact absurd hpublishing hstate

theorem detach (halive : s.state ≠ .destroying) :
    OwnerInv known (s.detach cursor) installed written := by
  refine h.vacate ?_ ?_ ?_ ?_
  · simp [GenerationState.detach, GenerationState.closeGeneration_publisherGeneration]
  · intro _
    exact ⟨halive, GenerationState.closeGeneration_usedPublisherIDs cursor s⟩
  · simp [GenerationState.detach]
  · intro g hg
    exact h.ends_close_isSome cursor hg

theorem retire :
    OwnerInv known (s.retire cursor) installed written := by
  refine h.vacate ?_ ?_ ?_ ?_
  · simp [GenerationState.retire, GenerationState.closeGeneration_publisherGeneration]
  · intro halive
    exact absurd rfl halive
  · simp [GenerationState.retire]
  · intro g hg
    exact h.ends_close_isSome cursor hg

theorem expire (hvacant : s.state = .noPublisher ∨ s.publisher = none) :
    OwnerInv known s.expire installed written := by
  have hnot : s.state ≠ .publishing := by
    intro hpublishing
    obtain ⟨g, hrunning⟩ := h.active hpublishing
    have hsome := hrunning.publisher
    rcases hvacant with hno | hnone
    · rw [hno] at hpublishing
      simp at hpublishing
    · rw [hnone] at hsome
      simp at hsome
  refine h.vacate le_rfl ?_ ?_ ?_
  · intro halive
    exact absurd rfl halive
  · simp [GenerationState.expire]
  · intro g hg
    exact h.ended hnot g hg

theorem ends_install_isSome (pub : Publisher) (cursor : ℕ) (hg : g ∈ installed) :
    ((s.install pub cursor).ends g).isSome := by
  obtain ⟨stop, hstop⟩ := Option.isSome_iff_exists.mp (h.ends_close_isSome cursor hg)
  have hinstall : (s.install pub cursor).ends g = some stop := generationEndCursor_install.mpr hstop
  rw [hinstall]
  rfl

theorem install (halive : s.state ≠ .destroying) (hfresh : s.idUsed pub.id = false)
    (hknown : known pub) (hid : pub.id ≠ "") :
    OwnerInv known (s.install pub cursor) (installed ++ [startedBy pub cursor s]) written := by
  obtain ⟨used, hused, hspent⟩ := h.spent halive
  have hunused : pub.id ∉ used := by
    simpa [idUsed, hused, hid] using hfresh
  refine ⟨?_, ?_, ?_, ?_, h.writers, ?_, ?_⟩
  · intro g hg
    have hgen : (s.install pub cursor).publisherGeneration = s.publisherGeneration + 1 := by
      simp [GenerationState.install, GenerationState.closeGeneration_publisherGeneration]
    rw [hgen]
    exact forall_mem_concat (fun g hold => (h.number g hold).trans (Nat.le_succ _)) le_rfl g hg
  · intro _
    refine ⟨pub.id :: used, ?_, ?_⟩
    · simp [GenerationState.install, hid, hused, GenerationState.closeGeneration_usedPublisherIDs]
    · exact forall_mem_concat (fun g hold => List.mem_cons_of_mem _ (hspent g hold))
        List.mem_cons_self
  · rw [List.pairwise_append]
    refine ⟨h.distinct, List.pairwise_singleton _ _, ?_⟩
    intro g hg g' hg' heq
    obtain rfl := List.mem_singleton.mp hg'
    exact hunused (heq ▸ hspent g hg)
  · exact forall_mem_concat h.named ⟨hknown, hid⟩
  · intro _
    refine ⟨startedBy pub cursor s, ?_⟩
    have hlen := closeGeneration_boundaries_length cursor s
    refine ⟨by simp, rfl, rfl, ?_, ?_, ?_, ?_⟩
    · simp [GenerationState.install, startedBy, hlen]
    · exact ⟨s.boundaries.length, by simp [GenerationState.install, hlen], rfl⟩
    · exact GenerationState.generationEndCursor_install_new s pub cursor
    · exact forall_mem_concat (fun g hold => .inr (h.ends_install_isSome pub cursor hold))
        (.inl rfl)
  · intro hstate
    exact absurd rfl hstate

theorem eq_of_id_eq {g' : Installed} (hg : g ∈ installed) (hg' : g' ∈ installed)
    (hid : g.publisher.id = g'.publisher.id) :
    g = g' := by
  have : Std.Symm fun g g' : Installed =>
      g.publisher.id ≠ g'.publisher.id := ⟨fun _ _ hne => hne.symm⟩
  by_contra hne
  exact h.distinct.forall hg hg' hne hid

end OwnerInv

theorem Partition.installGeneration (h : Partition s.ends installed written cursor)
    (howner : OwnerInv known s installed written) (pub : Publisher) :
    Partition (s.install pub cursor).ends
      (installed ++ [startedBy pub cursor s]) written cursor := by
  have hclosed := h.closeGeneration
  have hsame : Partition (s.install pub cursor).ends installed written cursor :=
    hclosed.close (fun _ _ _ hstop => generationEndCursor_install.mpr hstop) fun _ _ _ hstop =>
        .inl (generationEndCursor_install.mp hstop)
  refine hsame.install ?_ ?_ rfl ?_
  · intro g hg
    exact howner.ends_install_isSome pub cursor hg
  · intro g hg
    exact Nat.lt_succ_of_le (howner.number g hg)
  · exact GenerationState.generationEndCursor_install_new s pub cursor

/-- A publisher that passes the ownership check is the running one. -/
theorem Running.id_eq_of_matches (h : Running s installed g) (hid : g.publisher.id ≠ "")
    (hmatch : s.publisherMatches (some pub) = true) :
    g.publisher.id = pub.id := by
  unfold publisherMatches at hmatch
  split at hmatch
  next candidate heq =>
    cases heq
    rw [h.lastID] at hmatch
    simp only [ne_eq, hid, not_false_eq_true, true_or, if_true, decide_true,
      Bool.true_and, decide_eq_true_eq] at hmatch
    exact hmatch
  · simp at hmatch

end Owner

/-! ## The invariant of a run -/

structure GenerationInv (known : Publisher → Prop) (t : StreamTrace) : Prop where
  history : HistoryInv t
  partition : Partition t.stream.ends t.installed t.written t.stream.writeCursor
  owner : OwnerInv known t.stream.toGenerationState t.installed t.written

/-- What a call has to satisfy: every publisher it mentions takes part, and
publishers have IDs. -/
def StreamAction.Admissible (known : Publisher → Prop) (a : StreamAction) : Prop :=
  (∀ pub ∈ a.publishers, known pub) ∧ ∀ pub now, a = .setPublisher (some pub) now → pub.id ≠ ""

namespace GenerationInv

variable {t t' : StreamTrace}

theorem initial (key : String) (instanceID : ℕ) (cfg : StreamConfig) (limits : LimitsConfig) :
    GenerationInv known (StreamTrace.initial key instanceID cfg limits) := by
  refine ⟨HistoryInv.initial key instanceID cfg limits, Partition.nil, ?_⟩
  refine ⟨?_, ?_, List.Pairwise.nil, ?_, ?_, ?_, ?_⟩
  · simp [StreamTrace.initial]
  · intro _
    exact ⟨[], rfl, by simp [StreamTrace.initial]⟩
  · simp [StreamTrace.initial]
  · simp [StreamTrace.initial]
  · intro hpublishing
    simp [StreamTrace.initial, newStream, GenerationState.initial] at hpublishing
  · simp [StreamTrace.initial]

theorem step (h : GenerationInv known t) {a : StreamAction} (ha : a.Admissible known)
    (hstep : t.step a = some t') :
    GenerationInv known t' := by
  have hhistory := h.history.step hstep
  have hcursor : t'.written = t.written → t'.stream.writeCursor = t.stream.writeCursor := by
    intro hwritten
    rw [hhistory.writeCursor_eq, hwritten, h.history.writeCursor_eq]
  refine ⟨hhistory, ?_, ?_⟩
  · cases StreamTrace.effect_of_step hstep with
    | quiet hgen _ hwritten hinstalled | expire _ hgen _ hwritten hinstalled
    | closeRing _ hgen _ hwritten hinstalled =>
      rw [hcursor hwritten, hgen, hwritten, hinstalled]
      exact h.partition
    | install pub now _ _ _ hgen _ hwritten hinstalled =>
      rw [hcursor hwritten, hgen, hwritten, hinstalled]
      exact h.partition.installGeneration h.owner pub
    | write pub frame _ howner hgen _ hwritten hinstalled =>
      obtain ⟨g, hrunning⟩ := h.owner.active (publishing_of_matches howner)
      have hid := hrunning.id_eq_of_matches (h.owner.named g hrunning.mem).2 howner
      have hnext : t'.stream.writeCursor = t.stream.writeCursor + 1 := by
        rw [hhistory.writeCursor_eq, hwritten, h.history.writeCursor_eq]
        simp
      rw [hnext, hgen, hwritten, hinstalled]
      exact h.partition.write hrunning.mem hrunning.notEnded hid rfl
    | detach _ hgen _ hwritten hinstalled
    | retire _ hgen _ hwritten hinstalled =>
      rw [hcursor hwritten, hgen, hwritten, hinstalled]
      exact h.partition.closeGeneration
  · cases StreamTrace.effect_of_step hstep with
    | quiet hgen _ hwritten hinstalled | closeRing _ hgen _ hwritten hinstalled =>
      rw [hgen, hwritten, hinstalled]
      exact h.owner
    | install pub now hcalled hvacant hfresh hgen _ hwritten hinstalled =>
      rw [hgen, hwritten, hinstalled]
      exact h.owner.install hvacant.2 hfresh (ha.1 pub (by simp [hcalled, StreamAction.publishers]))
        (ha.2 pub now hcalled)
    | write pub frame hcalled _ hgen _ hwritten hinstalled =>
      rw [hgen, hwritten, hinstalled]
      obtain ⟨hnumber, hspent, hdistinct, hnamed, hwriters, hactive, hended⟩ := h.owner
      refine ⟨hnumber, hspent, hdistinct, hnamed, ?_, hactive, hended⟩
      exact forall_mem_concat hwriters (ha.1 pub (by simp [hcalled]))
    | detach halive hgen _ hwritten hinstalled =>
      rw [hgen, hwritten, hinstalled]
      exact h.owner.detach halive
    | retire _ hgen _ hwritten hinstalled =>
      rw [hgen, hwritten, hinstalled]
      exact h.owner.retire
    | expire hvacant hgen _ hwritten hinstalled =>
      rw [hgen, hwritten, hinstalled]
      exact h.owner.expire hvacant

/-- The publisher of a generation that is over fails the ownership check. -/
theorem not_matches_of_ended (h : GenerationInv known t) (hg : g ∈ t.installed)
    (hstop : t.endOf g = some stop) :
    t.stream.publisherMatches (some g.publisher) = false := by
  cases hmatch : t.stream.publisherMatches (some g.publisher) with
  | false => rfl
  | true =>
    obtain ⟨running, hrunning⟩ := h.owner.active (publishing_of_matches hmatch)
    have hid := hrunning.id_eq_of_matches (h.owner.named running hrunning.mem).2 hmatch
    obtain rfl := h.owner.eq_of_id_eq hrunning.mem hg hid
    have hopen : t.endOf running = none := hrunning.notEnded
    rw [hopen] at hstop
    simp at hstop

end GenerationInv

variable {t : StreamTrace} {acts : List StreamAction}

theorem generationInv_run {key : String} {instanceID : ℕ} {cfg : StreamConfig}
    {limits : LimitsConfig} (hacts : ∀ a ∈ acts, a.Admissible known)
    (hrun : runFrom StreamTrace.step
      (StreamTrace.initial key instanceID cfg limits) acts = some t) :
    GenerationInv known t :=
  runFrom_invariant_of_stepsMeet (fun _ _ _ h ha hstep => h.step ha hstep)
    (GenerationInv.initial key instanceID cfg limits)
    (stepsMeet_of_forall hacts _) hrun

/-- An end cursor, once set, never changes, and no generation is forgotten. -/
theorem StreamTrace.endOf_of_run {t' : StreamTrace}
    (hrun : runFrom StreamTrace.step t acts = some t') :
    (∃ more, t'.installed = t.installed ++ more) ∧
      ∀ g stop, t.endOf g = some stop → t'.endOf g = some stop := by
  refine runFrom_related (R := fun t t' : StreamTrace =>
    (∃ more, t'.installed = t.installed ++ more) ∧
      ∀ g stop, t.endOf g = some stop → t'.endOf g = some stop) ?_ ?_ ?_ hrun
  · intro s
    exact ⟨⟨[], by simp⟩, fun _ _ h => h⟩
  · rintro s u v ⟨⟨first, hfirst⟩, hsu⟩ ⟨⟨second, hsecond⟩, huv⟩
    exact ⟨⟨first ++ second, by rw [hsecond, hfirst, List.append_assoc]⟩,
      fun g stop h => huv g stop (hsu g stop h)⟩
  · intro s a s' hstep
    simp only [StreamTrace.endOf]
    cases effect_of_step hstep with
    | quiet hgen _ _ hinstalled | write pub frame _ _ hgen _ _ hinstalled
    | expire _ hgen _ _ hinstalled | closeRing _ hgen _ _ hinstalled =>
      rw [hgen]
      exact ⟨⟨[], by simp [hinstalled]⟩, fun _ _ h => h⟩
    | install pub now _ _ _ hgen _ _ hinstalled =>
      rw [hgen]
      exact ⟨⟨_, hinstalled⟩, fun g stop h =>
        generationEndCursor_install.mpr (generationEndCursor_close_of_some h)⟩
    | detach _ hgen _ _ hinstalled | retire _ hgen _ _ hinstalled =>
      rw [hgen]
      exact ⟨⟨[], by simp [hinstalled]⟩, fun g stop h =>
        generationEndCursor_close_of_some h⟩

theorem HistoryInv.written_position (h : HistoryInv t) (hw : w ∈ t.written) :
    t.written[w.position]? = some w := by
  obtain ⟨i, hi, hget⟩ := List.getElem_of_mem hw
  have hposition : (t.written.map WriteRecord.position)[i]? = some i := by
    rw [h.positions]
    simp [hi]
  rw [List.getElem?_map, List.getElem?_eq_getElem hi, hget, Option.map_some,
    Option.some.injEq] at hposition
  rw [hposition, List.getElem?_eq_getElem hi, hget]

/-- Publisher generations partition the ring.  In every run in which
publishers have IDs and different publishers have different ones: an accepted
frame is stored at its position, inside the range of the one generation of its
publisher; ranges are ordered by generation and do not overlap; an end cursor
never changes; and a publisher whose generation is over changes nothing. -/
theorem generations_partition_ring (key : String) (instanceID : ℕ) (cfg : StreamConfig)
    (limits : LimitsConfig) (acts : List StreamAction) (t : StreamTrace)
    (hnamed : ∀ pub now, StreamAction.setPublisher (some pub) now ∈ acts → pub.id ≠ "")
    (hdistinct : ∀ p ∈ acts.flatMap StreamAction.publishers,
      ∀ q ∈ acts.flatMap StreamAction.publishers, p.id = q.id → p = q)
    (hrun : runFrom StreamTrace.step
      (StreamTrace.initial key instanceID cfg limits) acts = some t) :
    t.stream.ringBuffer.Holds (t.log.map some) ∧
      (∀ w ∈ t.written, t.written[w.position]? = some w ∧
        ∃ g ∈ t.installed, g.publisher = w.publisher ∧
          (∀ g' ∈ t.installed, g'.publisher = w.publisher → g' = g) ∧
            g.start ≤ w.position ∧ ∀ stop, t.endOf g = some stop → w.position < stop) ∧
      (t.installed.Pairwise fun g g' => g.generation < g'.generation ∧
        ∃ stop, t.endOf g = some stop ∧ stop ≤ g'.start) ∧
      (∀ more t', runFrom StreamTrace.step t more = some t' →
        ∀ g ∈ t.installed, g ∈ t'.installed ∧
          ∀ stop, t.endOf g = some stop → t'.endOf g = some stop) ∧
      ∀ g ∈ t.installed, ∀ stop, t.endOf g = some stop →
        (∀ clock frame,
          t.stream.writeFrameForPublisher (some g.publisher) clock frame = (false, t.stream)) ∧
          t.stream.removePublisherIf (some g.publisher) = (false, t.stream) := by
  have hadmissible : ∀ a ∈ acts, a.Admissible
      (fun pub => pub ∈ acts.flatMap StreamAction.publishers) := by
    intro a ha
    constructor
    · intro pub hpub
      exact List.mem_flatMap.mpr ⟨a, ha, hpub⟩
    · rintro pub now rfl
      exact hnamed pub now ha
  have hinv := generationInv_run hadmissible hrun
  refine ⟨hinv.history.holds, ?_, hinv.partition.ordered, ?_, ?_⟩
  · intro w hw
    obtain ⟨-, g, hg, hid, hstart, hstop⟩ := hinv.partition.owned w hw
    have hpub : g.publisher = w.publisher :=
      hdistinct _ (hinv.owner.named g hg).1 _ (hinv.owner.writers w hw) hid
    refine ⟨hinv.history.written_position hw, g, hg, hpub, ?_, hstart, hstop⟩
    intro g' hg' hpub'
    exact hinv.owner.eq_of_id_eq hg' hg (by rw [hpub', hpub])
  · intro more t' hmore g hg
    obtain ⟨⟨later, hlater⟩, hends⟩ := StreamTrace.endOf_of_run hmore
    exact ⟨by simp [hlater, hg], hends g⟩
  · intro g hg stop hstop
    have hmatch := hinv.not_matches_of_ended hg hstop
    refine ⟨?_, by simp [Stream.removePublisherIf, hmatch]⟩
    intro clock frame
    cases frame with
    | none => rfl
    | some frame => simp [Stream.writeFrameForPublisher, hmatch]

def backup : Publisher := ⟨"backup", some 1, none⟩

/-- A second publisher takes over; the first one still tries to write and to
detach, and at last the no-publisher timer fires. -/
def takeover : List StreamAction :=
  [.setPublisher (some camera) 0, .writeFrameForPublisher (some camera) ⟨0, 0⟩
      (some (newAVFrame .video .h264 .keyframe 0 0 [1])),
    .removePublisherIf (some camera),
    .setPublisher (some backup) 0,
    .writeFrameForPublisher (some camera) ⟨0, 0⟩
      (some (newAVFrame .video .h264 .interframe 10 10 [2])),
    .removePublisherIf (some camera),
    .writeFrameForPublisher (some backup) ⟨0, 0⟩
      (some (newAVFrame .video .h264 .keyframe 20 20 [3])),
    .removePublisher,
    .timerExpires ⟨1, .noPublisher⟩,
    .timerCallback ⟨1, .noPublisher⟩]

def shortTimeout : StreamConfig := { smallCache with noPublisherTimeout := 1 }

theorem generations_partition_ring_takeover :
    ∃ t, runFrom StreamTrace.step
        (StreamTrace.initial "live" 1 shortTimeout noLimits) takeover = some t ∧
      t.stream.state = .destroying ∧ t.written.map WriteRecord.position = [0, 1] ∧
      t.installed.map t.endOf = [some 1, some 2] ∧
      t.installed.Pairwise fun g g' =>
        g.generation < g'.generation ∧ ∃ stop, t.endOf g = some stop ∧ stop ≤ g'.start := by
  refine ⟨_, rfl, by decide, by decide, by decide, ?_⟩
  refine (generations_partition_ring "live" 1 shortTimeout noLimits takeover _
    ?_ (by decide) rfl).2.2.1
  intro pub now hmem
  simp only [takeover, List.mem_cons, reduceCtorEq, List.not_mem_nil, or_false, false_or] at hmem
  rcases hmem with ⟨rfl, -⟩ | ⟨rfl, -⟩
  · decide
  · decide

end LiveForge.Core
