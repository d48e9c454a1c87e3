import LiveForge.Hub.Departure

/-!
# Streams leave the hub once

A stream leaves the map in one of three ways: it is removed by key, it is
replaced because it is dying, or its own destroy callback takes it out.
Whichever comes first owes the stream a closed ring and one destroy event; the
others find it gone.  The accounting below adds up the events that were emitted
and the emissions that are still pending.  It is broken by a call of
`GetOrCreateWithCreated` that loses the dying stream it meant to replace.
-/

namespace LiveForge.Core

open Support StreamHub

structure HubInv (h : StreamHub) (pending : Multiset HubTask) : Prop where
  keys : ∀ key i, h.streams.lookup key = some i →
    ∃ inst, h.instances[i]? = some inst ∧ inst.stream.key = key
  ids : ∀ i inst, h.instances[i]? = some inst → inst.stream.instanceID = i + 1
  fresh : ∀ i, h.instances.length ≤ i → h.destroyCount (i + 1) = 0 ∧ pendingEmits pending i = 0
  mapped : ∀ i, h.InMap i → h.destroyCount (i + 1) + pendingEmits pending i = 0
  gone : ∀ i, i < h.instances.length → ¬ h.InMap i →
    h.destroyCount (i + 1) + pendingEmits pending i = 1 ∧ Closing h pending i

theorem hubInv_initial (cfg : StreamConfig) (limits : LimitsConfig) :
    HubInv (newStreamHub cfg limits) 0 := by
  refine ⟨?_, ?_, ?_, ?_, ?_⟩
  · intro key i hlookup
    simp [newStreamHub] at hlookup
  · simp [newStreamHub]
  · simp [newStreamHub, destroyCount, pendingEmits]
  · rintro i ⟨key, hlookup⟩
    simp [newStreamHub] at hlookup
  · simp [newStreamHub]

/-! ## The account -/

namespace HubInv

variable {h h' : StreamHub} {pending : Multiset HubTask} {task : HubTask} {more : List HubTask}

theorem call (hinv : HubInv h pending) (htasks : ∀ t ∈ more, t.emits? = none) :
    HubInv h (↑more + pending) := by
  have hcount (i : ℕ) : pendingEmits (↑more + pending) i = pendingEmits pending i := by
    have hnone : pendingEmits ↑more i = 0 := by
      rw [pendingEmits_coe, List.countP_eq_zero]
      intro t ht
      simp [htasks t ht]
    rw [pendingEmits_add, hnone, Nat.zero_add]
  refine ⟨hinv.keys, hinv.ids, ?_, ?_, ?_⟩
  · simpa only [hcount] using hinv.fresh
  · simpa only [hcount] using hinv.mapped
  · intro i hi hout
    obtain ⟨hone, hclosing⟩ := hinv.gone i hi hout
    refine ⟨by rw [hcount, hone], hclosing.imp_right ?_⟩
    rintro ⟨closer, hmem, hcloses⟩
    exact ⟨closer, Multiset.mem_add.mpr (.inr hmem), hcloses⟩

theorem closing_effect (htask : TaskEffect task h h' more) {i : ℕ} (hi : i < h.instances.length)
    (hclosing : Closing h (task ::ₘ pending) i) :
    Closing h' (↑more + pending) i := by
  rcases hclosing with ⟨inst, hget, hring⟩ | ⟨closer, hmem, hcloses⟩
  · exact .inl (htask.rings i inst hget (.inl hring))
  · rcases Multiset.mem_cons.mp hmem with rfl | hmem
    · exact .inl (htask.rings i _ (List.getElem?_eq_getElem hi) (.inr hcloses))
    · exact .inr ⟨closer, Multiset.mem_add.mpr (.inr hmem), hcloses⟩

/-- Whatever a task does, the account stays balanced: a stream it reports is one
that it takes out of the map. -/
theorem effect (hinv : HubInv h (task ::ₘ pending)) (hroot : Rooted h (task ::ₘ pending))
    (hsound : ∀ key, task = .getOrCreate key → h.losesReplaced key = false)
    (htask : TaskEffect task h h' more) :
    HubInv h' (↑more + pending) := by
  have hroot' := hroot.effect htask.effect
  have hsum (i : ℕ) : h'.destroyCount (i + 1) + pendingEmits (↑more + pending) i =
      h.destroyCount (i + 1) + pendingEmits (task ::ₘ pending) i + pendingEmits ↑more i := by
    rw [htask.reported hroot.ids, pendingEmits_add]
    simp only [pendingEmits, Multiset.countP_cons]
    omega
  have hquiet (i : ℕ) (hi : ¬ (h.InMap i ∧ h'.Gone i)) : pendingEmits ↑more i = 0 := by
    rw [pendingEmits_coe, List.countP_eq_zero]
    intro t ht hemits
    have hemits := of_decide_eq_true hemits
    exact hi ⟨htask.effect.inMap_of_emits ht hemits,
      hroot.departing_of_effect htask.effect t ht i hemits⟩
  refine ⟨hroot'.keys, hroot'.ids, ?_, ?_, ?_⟩
  · intro i hi
    obtain ⟨hzero, hnone⟩ := hinv.fresh i (htask.effect.length_le.trans hi)
    have hmore := hquiet i fun hgone => absurd hgone.2.1 hi.not_gt
    have htotal := hsum i
    omega
  · intro i hin
    rw [hsum, hquiet i fun hgone => hgone.2.2 hin]
    obtain ⟨key, hlookup⟩ := hin
    rcases htask.effect.lookup hlookup with hold | ⟨rfl, -⟩
    · exact hinv.mapped i ⟨key, hold⟩
    · obtain ⟨hzero, hnone⟩ := hinv.fresh _ le_rfl
      omega
  · intro i hi hout
    rw [hsum]
    by_cases hin : h.InMap i
    · obtain ⟨hone, closer, hmem, hcloses⟩ := htask.owed hsound i hin hout
      rw [hinv.mapped i hin, hone]
      exact ⟨rfl, .inr ⟨closer, Multiset.mem_add.mpr (.inl hmem), hcloses⟩⟩
    · rcases htask.effect.origin (List.getElem?_eq_getElem hi) with ⟨inst, hget, -⟩ | ⟨-, -, hnew⟩
      · have hlt := (List.getElem?_eq_some_iff.mp hget).1
        obtain ⟨hone, hclosing⟩ := hinv.gone i hlt hin
        rw [hone, hquiet i fun hgone => hin hgone.1]
        exact ⟨rfl, closing_effect htask hlt hclosing⟩
      · exact absurd ⟨_, hnew⟩ hout

end HubInv

/-! ## Runs -/

/-- The next task does not lose a replaced stream. -/
def KeepsReplaced (m : HubSystem) : ThreadAction HubCall → Prop
  | .call _ => True
  | .run n =>
    match m.next n with
    | some (.getOrCreate key) => m.state.losesReplaced key = false
    | _ => True

instance (m : HubSystem) (a : ThreadAction HubCall) : Decidable (KeepsReplaced m a) := by
  unfold KeepsReplaced
  split
  · infer_instance
  · split <;> infer_instance

theorem hubInv_step {m m' : HubSystem} {a : ThreadAction HubCall}
    (hroot : Rooted m.state m.pending) (hinv : HubInv m.state m.pending)
    (hkeeps : KeepsReplaced m a) (hstep : HubSystem.step m a = some m') :
    HubInv m'.state m'.pending := by
  rcases Threaded.step_cases hstep with ⟨c, -, hstate, hpending⟩ |
      ⟨n, task, outcome, others, ha, hnext, hexec, hstate, hbefore, hafter⟩
  · rw [hstate, hpending]
    exact hinv.call c.tasks_emits
  · obtain ⟨result, hresult, rfl⟩ := Option.map_eq_some_iff.mp hexec
    rw [hstate, hafter]
    rw [hbefore] at hinv hroot
    simp only [List.flatten_nil, List.append_nil]
    refine hinv.effect hroot ?_ (.of_exec hresult)
    rintro key rfl
    rw [ha] at hkeeps
    simpa [KeepsReplaced, hnext] using hkeeps

theorem hubInv_run {cfg : StreamConfig} {limits : LimitsConfig}
    {acts : List (ThreadAction HubCall)} {m : HubSystem}
    (hkeeps : StepsMeet KeepsReplaced HubSystem.step (HubSystem.initial cfg limits) acts)
    (hrun : runFrom HubSystem.step (HubSystem.initial cfg limits) acts = some m) :
    HubInv m.state m.pending :=
  (@runFrom_invariant_of_stepsMeet _ _ _
    (fun m => Rooted m.state m.pending ∧ HubInv m.state m.pending) _
    (fun _ _ _ ⟨hroot, hinv⟩ hmeet hstep =>
      ⟨(hroot.step hstep).1, hubInv_step hroot hinv hmeet hstep⟩) _ _ _
    ⟨rooted_initial cfg limits, hubInv_initial cfg limits⟩ hkeeps hrun).2

/-- An error of `GetOrCreateWithCreated` leaves the map and the creation order
as they were, exactly when it does not lose a replaced stream. -/
theorem getOrCreate_error_unchanged_iff (h : StreamHub) (key : String) :
    (∀ e, (h.getOrCreate key).1 = .error e → (h.getOrCreate key).2.1.streams = h.streams ∧
        (h.getOrCreate key).2.1.streamOrder = h.streamOrder) ↔ h.losesReplaced key = false := by
  unfold getOrCreate losesReplaced
  cases hlookup : h.streams.lookup key with
  | none =>
    by_cases hfull : h.full
    · simp [installNew_of_full hfull]
    · obtain ⟨h', hinstall, -⟩ := installNew_of_not_full hfull key none
      simp [hinstall]
  | some stream =>
    cases hdying : h.isDestroying stream with
    | false => simp [hdying]
    | true =>
      by_cases hfull : (h.forget key stream).full
      · have hne : h.streams.erase key ≠ h.streams := by
          intro heq
          have hnone := AList.lookup_erase key h.streams
          rw [heq, hlookup] at hnone
          simp at hnone
        simp [hdying, installNew_of_full hfull, hfull, hne]
      · obtain ⟨h', hinstall, -⟩ := installNew_of_not_full hfull key (some stream)
        simp [hdying, hinstall, hfull]

/-- In every run in which no call loses a replaced stream: once all calls have
returned, a stream that is not in the map has a closed ring and has had one
destroy event, and a stream in the map has had none; and a call of
`GetOrCreateWithCreated` that returns an error leaves the map and the creation
order unchanged if and only if it does not lose a replaced stream. -/
theorem streams_leave_hub_cleanly (cfg : StreamConfig) (limits : LimitsConfig)
    (acts : List (ThreadAction HubCall)) (m : HubSystem)
    (hkeeps : StepsMeet KeepsReplaced HubSystem.step (HubSystem.initial cfg limits) acts)
    (hrun : runFrom HubSystem.step (HubSystem.initial cfg limits) acts = some m) :
    (m.Quiescent → ∀ i inst, m.state.instances[i]? = some inst →
      (¬ m.state.InMap i →
        inst.stream.ringBuffer.closed = true ∧ m.state.destroyCount inst.stream.instanceID = 1) ∧
        (m.state.InMap i → m.state.destroyCount inst.stream.instanceID = 0)) ∧
      ∀ key, (∀ e, (m.state.getOrCreate key).1 = .error e →
        (m.state.getOrCreate key).2.1.streams = m.state.streams ∧
          (m.state.getOrCreate key).2.1.streamOrder = m.state.streamOrder) ↔
        m.state.losesReplaced key = false := by
  refine ⟨?_, fun key => getOrCreate_error_unchanged_iff m.state key⟩
  intro hquiet i inst hget
  have hinv := hubInv_run hkeeps hrun
  rw [Threaded.pending_of_quiescent hquiet] at hinv
  rw [hinv.ids i inst hget]
  constructor
  · intro hout
    obtain ⟨hone, hclosing⟩ := hinv.gone i (List.getElem?_eq_some_iff.mp hget).1 hout
    refine ⟨?_, by simpa [pendingEmits] using hone⟩
    rcases hclosing with ⟨inst', hget', hring⟩ | ⟨task, hmem, -⟩
    · obtain rfl : inst = inst' := Option.some.inj (hget ▸ hget')
      exact hring
    · simp at hmem
  · intro hin
    simpa [pendingEmits] using hinv.mapped i hin

def plainConfig : StreamConfig :=
  { gopCache := false
    gopCacheNum := 0
    gopCacheMaxFrames := 0
    gopCacheMaxDuration := 0
    gopCacheMaxBytes := 0
    ringBufferSize := 1
    idleTimeout := 0
    noPublisherTimeout := 0 }

/-- A dying stream is replaced while its own callback is still to run, and the
replacement is removed. -/
def cleanReplacement : List (ThreadAction HubCall) :=
  [.call (.getOrCreate "a"), .run 0, .run 0, .call (.streamCall 0 .close), .run 1,
    .call (.getOrCreate "a"), .run 2,
    .run 1, .run 1, .run 1,
    .run 2, .run 2, .run 2, .run 2,
    .call (.remove "a"), .run 3, .run 3, .run 3, .run 3, .run 3, .run 3]

theorem streams_leave_hub_cleanly_replaced :
    ∃ m, runFrom HubSystem.step (HubSystem.initial plainConfig ⟨2, 0, 0⟩)
        cleanReplacement = some m ∧
      m.Quiescent ∧ m.state.instances.length = 2 ∧
      ∀ i inst, m.state.instances[i]? = some inst → ¬ m.state.InMap i →
        inst.stream.ringBuffer.closed = true ∧ m.state.destroyCount inst.stream.instanceID = 1 := by
  refine ⟨_, rfl, by decide, by decide, ?_⟩
  intro i inst hget
  exact ((streams_leave_hub_cleanly plainConfig ⟨2, 0, 0⟩ cleanReplacement _
    (by decide) rfl).1 (by decide) i inst hget).1

/-- Two streams exist when the limit is lowered to one.  The first is closed,
and before its callback runs somebody asks for its key. -/
def beforeLoss : List (ThreadAction HubCall) :=
  [.call (.getOrCreate "a"), .run 0, .run 0, .call (.getOrCreate "b"), .run 1, .run 1,
    .call (.updatePolicy plainConfig ⟨1, 0, 0⟩ [0, 1]),
    .run 2, .run 2, .run 2,
    .call (.streamCall 0 .close), .run 3,
    .call (.getOrCreate "a")]

/-- The failing call, and the callback that comes too late. -/
def lossAndAfter : List (ThreadAction HubCall) :=
  [.run 4, .run 3, .run 3, .run 3]

theorem not_inMap_of_values {h : StreamHub} {stream : ℕ}
    (hvalues : stream ∉ h.streams.entries.map Sigma.snd) :
    ¬ h.InMap stream := by
  rintro ⟨key, hlookup⟩
  have hmem : (⟨key, stream⟩ : Sigma fun _ : String => ℕ) ∈
      h.streams.entries := AList.mem_lookup_iff.mp hlookup
  exact hvalues (List.mem_map.mpr ⟨_, hmem, rfl⟩)

/-- The call fails and yet takes the stream out of the map; when everything has
returned no destroy event was emitted for it. -/
theorem replaced_stream_lost :
    ∃ m m', runFrom HubSystem.step (HubSystem.initial plainConfig ⟨0, 0, 0⟩)
        beforeLoss = some m ∧
      (m.state.getOrCreate "a").1 = .error "max streams limit reached (1)" ∧
      (m.state.getOrCreate "a").2.1.streams ≠ m.state.streams ∧
      (m.state.getOrCreate "a").2.1.streamOrder ≠ m.state.streamOrder ∧
      runFrom HubSystem.step m lossAndAfter = some m' ∧ m'.Quiescent ∧
      ∃ inst, m'.state.instances[0]? = some inst ∧ ¬ m'.state.InMap 0 ∧
        m'.state.destroyCount inst.stream.instanceID = 0 := by
  refine ⟨_, _, rfl, by decide, ?_, ?_, rfl, by decide, _, rfl, ?_, by decide⟩
  · intro heq
    exact absurd (congrArg (fun streams => streams.lookup "a") heq) (by decide)
  · intro heq
    exact absurd (congrArg List.length heq) (by decide)
  · exact not_inMap_of_values (by decide)

/-- In every interleaving of calls, a stream that is found under a key is the
newest one with the key and has not been reported as destroyed. -/
theorem found_stream_current (cfg : StreamConfig) (limits : LimitsConfig)
    (acts : List (ThreadAction HubCall)) (m : HubSystem)
    (hrun : runFrom HubSystem.step (HubSystem.initial cfg limits) acts = some m) (key : String)
    (id : ℕ) (hfind : m.state.findID key = some id) :
    (∃ inst, m.state.withID id = some inst ∧ inst.stream.key = key) ∧
      (∀ older inst, m.state.withID older = some inst → inst.stream.key = key → older ≤ id) ∧
      ∀ event ∈ m.state.emitted, event.destroyed? ≠ some id := by
  have hroot := @runFrom_invariant _ _ _ (fun m => Rooted m.state m.pending)
    (fun _ _ _ h hstep => (h.step hstep).1) _ _ _ (rooted_initial cfg limits) hrun
  refine ⟨?_, ?_, ?_⟩
  · obtain ⟨i, rfl, hlookup⟩ := hroot.findID_eq_some.mp hfind
    exact hroot.keys key i hlookup
  · rintro older inst hget rfl
    exact hroot.le_of_findID hget hfind
  · intro event hevent hid
    exact hroot.findID_ne_of_destroyed hevent hid key hfind

theorem found_stream_current_replaced :
    ∃ m, runFrom HubSystem.step (HubSystem.initial plainConfig ⟨2, 0, 0⟩)
      (cleanReplacement.take 14) = some m ∧ ∀ event ∈ m.state.emitted, event.destroyed? ≠ some 2 :=
  ⟨_, rfl, (found_stream_current plainConfig ⟨2, 0, 0⟩ (cleanReplacement.take 14) _ rfl
    "a" 2 (by decide)).2.2⟩

end LiveForge.Core
