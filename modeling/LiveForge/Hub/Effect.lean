import LiveForge.Hub.Model

/-!
# What one task of the hub can do

A goroutine inside the hub executes one task at a time.  What a task does to the
streams and to the map is listed once, and so is what it owes: the rings it
closes, the destroy event it emits, and the tasks it leaves behind for a stream
that it takes out of the map.
-/

namespace LiveForge.Core

open Support LiveForge.Ring StreamHub StreamTrace

/-! ## Accounts -/

def HubEvent.destroyed? : HubEvent → Option ℕ
  | .streamDestroy _ instanceID _ _ => some instanceID
  | .streamCreate _ => none

def StreamHub.destroyCount (h : StreamHub) (instanceID : ℕ) : ℕ :=
  h.emitted.countP fun event => event.destroyed? = some instanceID

def HubTask.emits? : HubTask → Option ℕ
  | .emitDestroy _ stream => some stream
  | _ => none

def HubTask.closes? : HubTask → Option ℕ
  | .streamCall stream .close => some stream
  | .closeRing stream => some stream
  | _ => none

def pendingEmits (pending : Multiset HubTask) (stream : ℕ) : ℕ :=
  pending.countP fun task => task.emits? = some stream

def StreamHub.InMap (h : StreamHub) (stream : ℕ) : Prop :=
  ∃ key, h.streams.lookup key = some stream

/-- The ring is closed, or a goroutine is about to close it. -/
def Closing (h : StreamHub) (pending : Multiset HubTask) (stream : ℕ) : Prop :=
  (∃ inst, h.instances[stream]? = some inst ∧ inst.stream.ringBuffer.closed = true) ∨
  ∃ task ∈ pending, task.closes? = some stream

@[simp] theorem pendingEmits_coe (tasks : List HubTask) (stream : ℕ) :
    pendingEmits ↑tasks stream = tasks.countP fun task => task.emits? = some stream :=
  Multiset.coe_countP ..

theorem pendingEmits_add (pending others : Multiset HubTask) (stream : ℕ) :
    pendingEmits (pending + others) stream =
      pendingEmits pending stream + pendingEmits others stream :=
  Multiset.countP_add ..

theorem HubCall.tasks_emits (c : HubCall) : ∀ task ∈ c.tasks, task.emits? = none := by
  cases c <;> simp [HubCall.tasks, HubTask.emits?]

/-! ## What streams keep -/

/-- Generations are counted up, a dying stream stays dying, and a publisher
comes with a generation of its own. -/
structure GenerationMove (g g' : GenerationState) : Prop where
  destroying : g.state = .destroying → g'.state = .destroying
  generation : g.publisherGeneration ≤ g'.publisherGeneration
  publisher : ∀ pub, g'.publisher = some pub →
    (g'.publisherGeneration = g.publisherGeneration ∧ g.publisher = some pub) ∨
      g'.publisherGeneration = g.publisherGeneration + 1

variable {a : StreamAction} {h : StreamHub}

namespace GenerationMove

variable {g : GenerationState}

theorem refl (g : GenerationState) : GenerationMove g g :=
  ⟨id, le_rfl, fun _ hpub => .inl ⟨rfl, hpub⟩⟩

theorem install (halive : g.state ≠ .destroying) (pub : Publisher) (writeCursor : ℕ) :
    GenerationMove g (g.install pub writeCursor) := by
  have hnext : (g.install pub writeCursor).publisherGeneration = g.publisherGeneration + 1 := by
    simp [GenerationState.install, GenerationState.closeGeneration_publisherGeneration]
  exact ⟨fun hdead => absurd hdead halive, hnext ▸ Nat.le_succ _, fun _ _ => .inr hnext⟩

theorem detach (halive : g.state ≠ .destroying) (writeCursor : ℕ) :
    GenerationMove g (g.detach writeCursor) := by
  have hsame : (g.detach writeCursor).publisherGeneration =
      g.publisherGeneration := by
    simp [GenerationState.detach, GenerationState.closeGeneration_publisherGeneration]
  exact ⟨fun hdead => absurd hdead halive, hsame.ge,
    fun _ hpub => absurd hpub (Option.some_ne_none _).symm⟩

theorem retire (g : GenerationState) (writeCursor : ℕ) :
    GenerationMove g (g.retire writeCursor) := by
  have hsame : (g.retire writeCursor).publisherGeneration =
      g.publisherGeneration := by
    simp [GenerationState.retire, GenerationState.closeGeneration_publisherGeneration]
  exact ⟨fun _ => rfl, hsame.ge, fun _ hpub => absurd hpub (Option.some_ne_none _).symm⟩

theorem expire (g : GenerationState) : GenerationMove g g.expire :=
  ⟨fun _ => rfl, le_rfl, fun _ hpub => .inl ⟨rfl, hpub⟩⟩

theorem of_effect {t t' : StreamTrace} (heffect : Effect a t t') :
    GenerationMove t.stream.toGenerationState t'.stream.toGenerationState := by
  cases heffect with
  | quiet hsame | write _ _ _ _ hsame | closeRing _ hsame => exact hsame ▸ refl _
  | install pub _ _ hvacant _ hinstall =>
    exact hinstall ▸ install hvacant.2 pub _
  | detach halive hdetach => exact hdetach ▸ detach halive _
  | retire _ hretire => exact hretire ▸ retire _ _
  | expire _ hexpire => exact hexpire ▸ expire _

end GenerationMove

structure StreamMove (s s' : Stream) : Prop extends
    GenerationMove s.toGenerationState s'.toGenerationState where
  key : s'.key = s.key
  instanceID : s'.instanceID = s.instanceID

namespace StreamMove

theorem refl (s : Stream) : StreamMove s s := ⟨.refl _, rfl, rfl⟩

theorem of_streamStep {s s' : Stream} (hstep : streamStep a s = some s') : StreamMove s s' := by
  obtain ⟨t, ht, rfl⟩ := Option.map_eq_some_iff.mp hstep
  obtain ⟨hkey, hid⟩ := (taken_of_step ht).identity
  exact ⟨.of_effect (effect_of_step ht), hkey, hid⟩

end StreamMove

/-- No method changes the key or the identity of a stream, and none reopens
its ring. -/
structure SameStream (s s' : Stream) : Prop where
  key : s'.key = s.key
  instanceID : s'.instanceID = s.instanceID
  closed : s.ringBuffer.closed = true → s'.ringBuffer.closed = true

theorem closed_of_effect {t t' : StreamTrace} (h : Effect a t t')
    (hclosed : t.stream.ringBuffer.closed = true) :
    t'.stream.ringBuffer.closed = true := by
  cases h with
  | quiet _ hring | install _ _ _ _ _ _ hring | detach _ _ hring | expire _ _ hring => rwa [hring]
  | write _ frame _ _ _ hring => rwa [hring, RingBuffer.write_closed]
  | retire _ _ hring =>
    rcases hring with hring | hring
    · rwa [hring]
    · rw [hring, RingBuffer.close_closed]
  | closeRing _ _ hring => rw [hring, RingBuffer.close_closed]

theorem sameStream_of_streamStep {s s' : Stream} (h : StreamHub.streamStep a s = some s') :
    SameStream s s' := by
  obtain ⟨t, ht, rfl⟩ := Option.map_eq_some_iff.mp h
  obtain ⟨hkey, hid⟩ := (taken_of_step ht).identity
  exact ⟨hkey, hid, closed_of_effect (effect_of_step ht)⟩

theorem closed_of_close_step {s s' : Stream} (h : StreamHub.streamStep .close s = some s') :
    s'.ringBuffer.closed = true := by
  simp only [StreamHub.streamStep, step, Option.map_some, Option.some.injEq] at h
  subst h
  simp only [Stream.close]
  split <;> rfl

/-! ## Leaving and entering the map -/

namespace StreamHub

section Forget

variable (key : String) (stream : ℕ) (h : StreamHub)

theorem removeOrderedStream_frame :
    (h.removeOrderedStream key stream).instances = h.instances ∧
      (h.removeOrderedStream key stream).streams = h.streams ∧
        (h.removeOrderedStream key stream).emitted = h.emitted ∧
          (h.removeOrderedStream key stream).limits = h.limits := by
  unfold removeOrderedStream
  split
  · exact ⟨rfl, rfl, rfl, rfl⟩
  · split
    · exact ⟨rfl, rfl, rfl, rfl⟩
    · split
      · exact ⟨rfl, rfl, rfl, rfl⟩
      · exact ⟨rfl, rfl, rfl, rfl⟩

@[simp] theorem forget_instances :
    (h.forget key stream).instances = h.instances :=
  (removeOrderedStream_frame key stream _).1

@[simp] theorem forget_streams :
    (h.forget key stream).streams = h.streams.erase key :=
  (removeOrderedStream_frame key stream _).2.1

@[simp] theorem forget_emitted :
    (h.forget key stream).emitted = h.emitted :=
  (removeOrderedStream_frame key stream _).2.2.1

@[simp] theorem forget_limits :
    (h.forget key stream).limits = h.limits :=
  (removeOrderedStream_frame key stream _).2.2.2

end Forget

def full (h : StreamHub) : Prop :=
  0 < h.limits.maxStreams ∧ h.limits.maxStreams ≤ h.streams.entries.length

instance (h : StreamHub) : Decidable h.full :=
  inferInstanceAs (Decidable (_ ∧ _))

/-- `GetOrCreateWithCreated` would delete the dying stream of this key and
then fail the admission check. -/
def losesReplaced (key : String) (h : StreamHub) : Bool :=
  match h.streams.lookup key with
  | none => false
  | some stream =>
    h.isDestroying stream && decide (h.forget key stream).full

theorem installNew_of_full (hfull : h.full) (key : String) (replacing : Option ℕ) :
    h.installNew key replacing =
      (.error s!"max streams limit reached ({h.limits.maxStreams})", h, []) :=
  if_pos hfull

theorem installNew_of_not_full (hfull : ¬ h.full) (key : String) (replacing : Option ℕ) :
    ∃ h', h.installNew key replacing = (.ok (h.instances.length, true), h',
          (match replacing with
            | none => []
            | some old => [.streamCall old .close, .emitDestroy key old]) ++
            [.emitCreate key]) ∧ h'.instances = h.instances ++
        [⟨newStream key (h.instances.length + 1) h.config h.limits, .idle⟩] ∧
      h'.streams = h.streams.insert key h.instances.length ∧ h'.emitted = h.emitted :=
  ⟨_, if_neg hfull, rfl, rfl, rfl⟩

theorem followUps_emits (stream : ℕ) (s : Stream) (a : StreamAction) :
    ∀ task ∈ StreamHub.followUps stream s a, task.emits? = none := by
  unfold StreamHub.followUps
  split
  · simp [HubTask.emits?]
  · split <;> simp [HubTask.emits?]
  · split <;> simp [HubTask.emits?]
  · simp

end StreamHub

/-! ## What one task can do -/

/-- No stream comes or goes, and each one moves. -/
structure StreamsMove (h h' : StreamHub) : Prop where
  length : h'.instances.length = h.instances.length
  moved : ∀ (i : ℕ) (inst : Instance), h.instances[i]? = some inst →
    ∃ inst', h'.instances[i]? = some inst' ∧ StreamMove inst.stream inst'.stream

variable {h' : StreamHub} {f : Instance → Instance} {key : String} {more : List HubTask}
  {task : HubTask} {stream : ℕ}

theorem StreamsMove.of_eq (heq : h'.instances = h.instances) : StreamsMove h h' :=
  ⟨by rw [heq], fun _ inst hget => ⟨inst, by rw [heq, hget], .refl _⟩⟩

theorem StreamsMove.modify
    (hmove : ∀ inst, h.instances[stream]? = some inst → StreamMove inst.stream (f inst).stream) :
    StreamsMove h { h with instances := h.instances.modify stream f } := by
  refine ⟨List.length_modify _ _ _, fun i inst hget => ?_⟩
  rw [List.getElem?_modify, hget]
  by_cases hsame : stream = i
  · subst hsame
    exact ⟨f inst, by simp, hmove inst hget⟩
  · exact ⟨inst, by simp [hsame], .refl _⟩

inductive HubEffect (task : HubTask) (h h' : StreamHub) (more : List HubTask) :
    Prop where
  | keep
      (instances : StreamsMove h h')
      (streams : h'.streams = h.streams)
      (emitted : h'.emitted = h.emitted)
      (quiet : ∀ t ∈ more, t.emits? = none)
  | forget (key : String) (stream : ℕ)
      (mapped : h.streams.lookup key = some stream)
      (instances : h'.instances = h.instances)
      (streams : h'.streams = h.streams.erase key)
      (emitted : h'.emitted = h.emitted)
      (reports : ∀ t ∈ more, ∀ i, t.emits? = some i → i = stream)
  | create (key : String) (cfg : StreamConfig) (limits : LimitsConfig)
      (instances : h'.instances = h.instances ++
        [⟨newStream key (h.instances.length + 1) cfg limits, .idle⟩])
      (streams : ∀ k, h'.streams.lookup k =
        if k = key then some h.instances.length else h.streams.lookup k)
      (emitted : h'.emitted = h.emitted)
      (reports : ∀ t ∈ more, ∀ i, t.emits? = some i → h.streams.lookup key = some i)
  | report (key : String) (stream : ℕ) (inst : Instance)
      (called : task = .emitDestroy key stream)
      (found : h.instances[stream]? = some inst)
      (instances : h'.instances = h.instances)
      (streams : h'.streams = h.streams)
      (emitted : h'.emitted = h.emitted ++ [StreamHub.destroyEvent key inst.stream])
      (done : more = [])
  | announce (key : String)
      (instances : h'.instances = h.instances)
      (streams : h'.streams = h.streams)
      (emitted : h'.emitted = h.emitted ++ [.streamCreate key])
      (done : more = [])

theorem lookup_of_erase {β : Type*} {entries : AList fun _ : String => β} {left : String} {b : β}
    (hlookup : (entries.erase left).lookup key = some b) :
    key ≠ left ∧ entries.lookup key = some b := by
  have hne : key ≠ left := by
    rintro rfl
    simp at hlookup
  exact ⟨hne, AList.lookup_erase_ne hne ▸ hlookup⟩

/-- What a task owes besides.  Rings stay closed, and the task closes the one it
is there for; it emits the event it is there for; and for a stream that it takes
out of the map it leaves behind a closer and one destroy event. -/
structure TaskEffect (task : HubTask) (h h' : StreamHub) (more : List HubTask) : Prop where
  effect : HubEffect task h h' more
  rings : ∀ (i : ℕ) (inst : Instance), h.instances[i]? = some inst →
    inst.stream.ringBuffer.closed = true ∨ task.closes? = some i →
      ∃ inst', h'.instances[i]? = some inst' ∧ inst'.stream.ringBuffer.closed = true
  reported : (∀ i inst, h.instances[i]? = some inst → inst.stream.instanceID = i + 1) →
    ∀ i, h'.destroyCount (i + 1) =
      h.destroyCount (i + 1) + if task.emits? = some i then 1 else 0
  owed : (∀ key, task = .getOrCreate key → h.losesReplaced key = false) →
    ∀ i, h.InMap i → ¬ h'.InMap i → pendingEmits more i = 1 ∧ ∃ t ∈ more, t.closes? = some i

namespace TaskEffect

section Silent

variable (hcloses : task.closes? = none) (hsilent : task.emits? = none)

include hcloses hsilent

/-- A task that touches no ring and changes the entry of one key at most. -/
theorem of_effect (key : String) {added : List Instance} (heffect : HubEffect task h h' more)
    (hinstances : h'.instances = h.instances ++ added)
    (hcount : ∀ id, h'.destroyCount id = h.destroyCount id)
    (hothers : ∀ k, k ≠ key → h'.streams.lookup k = h.streams.lookup k)
    (howed : (∀ key, task = .getOrCreate key → h.losesReplaced key = false) →
      ∀ i, h.streams.lookup key = some i → ¬ h'.InMap i →
        pendingEmits more i = 1 ∧ ∃ t ∈ more, t.closes? = some i) :
    TaskEffect task h h' more where
  effect := heffect
  rings := by
    intro i inst hget hring
    have hlt := (List.getElem?_eq_some_iff.mp hget).1
    refine ⟨inst, by rw [hinstances, List.getElem?_append_left hlt, hget], ?_⟩
    simpa [hcloses] using hring
  reported := by
    intro _ i
    simp [hcount, hsilent]
  owed := by
    rintro hsound i ⟨k, hlookup⟩ hout
    by_cases hkey : k = key
    · exact howed hsound i (hkey ▸ hlookup) hout
    · exact absurd ⟨k, (hothers k hkey).trans hlookup⟩ hout

theorem of_eq (hinstances : h'.instances = h.instances) (hstreams : h'.streams = h.streams)
    (hemitted : h'.emitted = h.emitted) (hquiet : ∀ t ∈ more, t.emits? = none) :
    TaskEffect task h h' more :=
  @of_effect _ _ _ _ hcloses hsilent "" [] (.keep (.of_eq hinstances) hstreams hemitted hquiet)
    (by simp [hinstances]) (by simp [destroyCount, hemitted]) (by simp [hstreams])
    fun _ _ hlookup hout => absurd ⟨_, hstreams ▸ hlookup⟩ hout

theorem of_forget (hlookup : h.streams.lookup key = some stream)
    (hreports : ∀ t ∈ more, ∀ i, t.emits? = some i → i = stream)
    (howed : (∀ key, task = .getOrCreate key → h.losesReplaced key = false) →
      pendingEmits more stream = 1 ∧ ∃ t ∈ more, t.closes? = some stream) :
    TaskEffect task h (h.forget key stream) more := by
  refine @of_effect _ _ _ _ hcloses hsilent key []
    (.forget key stream hlookup (by simp) (by simp) (by simp) hreports) (by simp)
    (by simp [destroyCount]) ?_ ?_
  · intro k hne
    rw [forget_streams, AList.lookup_erase_ne hne]
  · intro hsound i hsame _
    obtain rfl := Option.mem_unique hlookup hsame
    exact howed hsound

theorem of_installNew {replacing : Option ℕ} {h₀ : StreamHub}
    (hinstances : h₀.instances = h.instances)
    (hstreams : ∀ k, k ≠ key → h₀.streams.lookup k = h.streams.lookup k)
    (hemitted : h₀.emitted = h.emitted) (hreplacing : h.streams.lookup key = replacing)
    (hfree : ¬ h₀.full) :
    TaskEffect task h (h₀.installNew key replacing).2.1 (h₀.installNew key replacing).2.2 := by
  obtain ⟨h', hinstall, hnew, hmap, hlog⟩ := installNew_of_not_full hfree key replacing
  rw [hinstall]
  refine of_effect hcloses hsilent key
    (.create key h₀.config h₀.limits ?_ ?_ (hlog.trans hemitted) ?_)
    (hnew.trans (by rw [hinstances])) (by simp [destroyCount, hlog, hemitted]) ?_ ?_
  · rw [hnew, hinstances]
  · intro k
    rw [hmap]
    split
    next hsame => rw [hsame, AList.lookup_insert, hinstances]
    next hne => rw [AList.lookup_insert_ne hne, hstreams k hne]
  · rw [hreplacing]
    cases replacing <;> simp [HubTask.emits?]
  · intro k hne
    rw [hmap, AList.lookup_insert_ne hne, hstreams k hne]
  · rintro - i hlookup -
    obtain rfl := hreplacing.symm.trans hlookup
    simp [HubTask.emits?, HubTask.closes?]

end Silent

theorem of_getOrCreate (h : StreamHub) (key : String) :
    TaskEffect (.getOrCreate key) h (h.getOrCreate key).2.1 (h.getOrCreate key).2.2 := by
  unfold getOrCreate
  cases hlookup : h.streams.lookup key with
  | none =>
    by_cases hfull : h.full
    · simp only [installNew_of_full hfull]
      exact of_eq rfl rfl rfl rfl rfl (by simp)
    · exact of_installNew rfl rfl rfl (fun _ _ => rfl) rfl hlookup hfull
  | some stream =>
    cases hdying : h.isDestroying stream with
    | false =>
      simp only [hdying]
      exact of_eq rfl rfl rfl rfl rfl (by simp)
    | true =>
      simp only [hdying]
      by_cases hfull : (h.forget key stream).full
      · simp only [installNew_of_full hfull]
        refine of_forget rfl rfl hlookup (by simp) ?_
        intro hsound
        simpa [losesReplaced, hlookup, hdying, hfull] using hsound key rfl
      · refine of_installNew rfl rfl (by simp) ?_ (by simp) hlookup hfull
        intro k hne
        rw [forget_streams, AList.lookup_erase_ne hne]

theorem modify (hsilent : task.emits? = none) (hquiet : ∀ t ∈ more, t.emits? = none)
    (hmove : ∀ inst, h.instances[stream]? = some inst → StreamMove inst.stream (f inst).stream)
    (hring : ∀ inst, h.instances[stream]? = some inst →
      inst.stream.ringBuffer.closed = true ∨ task.closes? = some stream →
        (f inst).stream.ringBuffer.closed = true)
    (hcloses : ∀ i, task.closes? = some i → stream = i) :
    TaskEffect task h { h with instances := h.instances.modify stream f } more where
  effect := .keep (.modify hmove) rfl rfl hquiet
  rings := by
    intro i inst hget hclosed
    rw [List.getElem?_modify, hget]
    by_cases hsame : stream = i
    · subst hsame
      exact ⟨f inst, by simp, hring inst hget hclosed⟩
    · refine ⟨inst, by simp [hsame], ?_⟩
      exact hclosed.resolve_right fun hi => hsame (hcloses i hi)
  reported := fun _ i => by simp [destroyCount, hsilent]
  owed := fun _ _ hin hout => absurd hin hout

theorem of_exec (hexec : h.exec task = some (h', more)) : TaskEffect task h h' more := by
  cases task with
  | getOrCreate key =>
    simp only [exec, Option.some.injEq] at hexec
    have heffect := of_getOrCreate h key
    rwa [hexec] at heffect
  | remove key =>
    simp only [exec, remove] at hexec
    cases hlookup : h.streams.lookup key with
    | none =>
      obtain ⟨rfl, rfl⟩ := Prod.mk.inj (by simpa [hlookup] using hexec)
      exact of_eq rfl rfl rfl rfl rfl (by simp)
    | some stream =>
      obtain ⟨rfl, rfl⟩ := Prod.mk.inj (by simpa [hlookup] using hexec)
      exact of_forget rfl rfl hlookup (by simp [HubTask.emits?])
        (by simp [HubTask.emits?, HubTask.closes?])
  | removeIfCurrent key stream =>
    simp only [exec, removeIfCurrent] at hexec
    split at hexec
    next hlookup =>
      cases hexec
      exact of_forget rfl rfl hlookup (by simp [HubTask.emits?])
        (by simp [HubTask.emits?, HubTask.closes?])
    · cases hexec
      exact of_eq rfl rfl rfl rfl rfl (by simp)
  | updatePolicy cfg limits order =>
    obtain ⟨-, hresult⟩ := Option.ite_none_right_eq_some.mp hexec
    cases hresult
    exact of_eq rfl rfl rfl rfl rfl (by simp [HubTask.emits?])
  | streamCall stream a =>
    simp only [exec] at hexec
    split at hexec
    · cases hexec
    next inst hget =>
      obtain ⟨s, hstep, hresult⟩ := Option.map_eq_some_iff.mp hexec
      cases hresult
      refine .modify rfl (followUps_emits stream _ a) ?_ ?_ ?_
      · intro inst' hget'
        obtain rfl := Option.mem_unique hget hget'
        exact .of_streamStep hstep
      · intro inst' hget' hring
        obtain rfl := Option.mem_unique hget hget'
        rcases hring with hclosed | hcloses
        · exact (sameStream_of_streamStep hstep).closed hclosed
        · cases a with
          | close => exact closed_of_close_step hstep
          | _ => simp [HubTask.closes?] at hcloses
      · cases a <;> simp [HubTask.closes?]
  | notifyDestroy stream =>
    simp only [exec] at hexec
    split at hexec
    · cases hexec
    next inst hget =>
      split at hexec
      · cases hexec
        exact .modify rfl (by simp [HubTask.emits?]) (fun _ _ => .refl _)
          (by simp [HubTask.closes?]) (by simp [HubTask.closes?])
      · cases hexec
      · cases hexec
        exact of_eq rfl rfl rfl rfl rfl (by simp)
  | onceDone stream =>
    cases hexec
    exact .modify rfl (by simp) (fun _ _ => .refl _) (by simp [HubTask.closes?])
      (by simp [HubTask.closes?])
  | closeRing stream =>
    simp only [exec] at hexec
    split at hexec
    · cases hexec
    next inst hget =>
      cases hexec
      refine .modify rfl (by simp) ?_ (fun _ _ _ => rfl) (by simp [HubTask.closes?])
      intro inst' hget'
      obtain rfl := Option.mem_unique hget hget'
      exact ⟨.refl _, rfl, rfl⟩
  | emitDestroy key stream =>
    simp only [exec] at hexec
    split at hexec
    · cases hexec
    next inst hget =>
      cases hexec
      refine ⟨.report key stream inst rfl hget rfl rfl rfl rfl, ?_, ?_,
        fun _ _ hin hout => absurd hin hout⟩
      · intro i inst' hget' hring
        exact ⟨inst', hget', by simpa [HubTask.closes?] using hring⟩
      · intro hids i
        simp [destroyCount, destroyEvent, HubEvent.destroyed?, HubTask.emits?,
          hids stream inst hget]
  | emitCreate key =>
    cases hexec
    exact @of_effect _ _ _ _ rfl rfl "" [] (.announce key rfl rfl rfl rfl) (by simp)
      (by simp [destroyCount, HubEvent.destroyed?]) (by simp)
      fun _ _ hlookup hout => absurd ⟨_, hlookup⟩ hout

end TaskEffect

namespace HubEffect

variable (heffect : HubEffect task h h' more)

include heffect

theorem length_le : h.instances.length ≤ h'.instances.length := by
  cases heffect with
  | keep hmove => exact hmove.length.ge
  | forget _ _ _ hinstances | report _ _ _ _ _ hinstances | announce _ hinstances =>
    exact hinstances ▸ le_rfl
  | create _ _ _ hinstances => simp [hinstances]

variable {i : ℕ}

theorem moved {inst : Instance} (hget : h.instances[i]? = some inst) :
    ∃ inst', h'.instances[i]? = some inst' ∧ StreamMove inst.stream inst'.stream := by
  have hsame (hinstances : h'.instances = h.instances) : ∃ inst', h'.instances[i]? = some inst' ∧
        StreamMove inst.stream inst'.stream :=
    ⟨inst, hinstances ▸ hget, .refl _⟩
  cases heffect with
  | keep hmove => exact hmove.moved i inst hget
  | forget _ _ _ hinstances | report _ _ _ _ _ hinstances | announce _ hinstances =>
    exact hsame hinstances
  | create _ _ _ hinstances =>
    refine ⟨inst, ?_, .refl _⟩
    have hlt := (List.getElem?_eq_some_iff.mp hget).1
    rw [hinstances, List.getElem?_append_left hlt, hget]

theorem origin {inst' : Instance} (hget : h'.instances[i]? = some inst') :
    (∃ inst, h.instances[i]? = some inst ∧ StreamMove inst.stream inst'.stream) ∨
      i = h.instances.length ∧ inst'.stream.instanceID = i + 1 ∧
        h'.streams.lookup inst'.stream.key = some i := by
  by_cases hlt : i < h.instances.length
  · have hold := List.getElem?_eq_getElem hlt
    obtain ⟨inst'', hget'', hmove⟩ := heffect.moved hold
    obtain rfl := Option.mem_unique hget hget''
    exact .inl ⟨_, hold, hmove⟩
  · have hlt' := (List.getElem?_eq_some_iff.mp hget).1
    cases heffect with
    | keep hmove => exact absurd (hmove.length ▸ hlt') hlt
    | forget _ _ _ hinstances | report _ _ _ _ _ hinstances | announce _ hinstances =>
      exact absurd (hinstances ▸ hlt') hlt
    | create key _ _ hinstances hstreams =>
      rw [hinstances, List.length_append, List.length_singleton] at hlt'
      obtain rfl : i = h.instances.length := by omega
      rw [hinstances, List.getElem?_concat_length, Option.some.injEq] at hget
      subst hget
      exact .inr ⟨rfl, rfl, (hstreams _).trans (if_pos rfl)⟩

theorem lookup (hlookup : h'.streams.lookup key = some i) :
    h.streams.lookup key = some i ∨
      i = h.instances.length ∧ ∃ inst, h'.instances[i]? = some inst ∧ inst.stream.key = key := by
  cases heffect with
  | keep _ hstreams | report _ _ _ _ _ _ hstreams | announce _ _ hstreams =>
    exact .inl (hstreams ▸ hlookup)
  | forget left _ _ _ hstreams =>
    exact .inl (lookup_of_erase (hstreams ▸ hlookup)).2
  | create new _ _ hinstances hstreams =>
    rw [hstreams] at hlookup
    split at hlookup
    next hsame =>
      cases hlookup
      exact .inr ⟨rfl, _, by rw [hinstances, List.getElem?_concat_length], hsame.symm⟩
    · exact .inl hlookup

/-- A stream that is left to be reported was in the map. -/
theorem inMap_of_emits {t : HubTask} (ht : t ∈ more) (hi : t.emits? = some i) : h.InMap i := by
  cases heffect with
  | keep _ _ _ hquiet => simp [hquiet t ht] at hi
  | forget key _ hmapped _ _ _ hreports => exact ⟨key, hreports t ht i hi ▸ hmapped⟩
  | create key _ _ _ _ _ hreports => exact ⟨key, hreports t ht i hi⟩
  | report _ _ _ _ _ _ _ _ hdone | announce _ _ _ _ hdone => simp [hdone] at ht

end HubEffect

end LiveForge.Core
