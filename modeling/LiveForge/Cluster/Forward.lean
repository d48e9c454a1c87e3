import LiveForge.Stream.State
import LiveForge.Support.Run

/-!
# Forwarding follows the publisher

`ForwardManager.onPublish` and `onPublishStop` of `module/cluster/forward.go`
for one stream key.  `onPublish` first compares the event's publisher with the
stream's, without the manager's lock, and then takes the lock and replaces the
targets; `onPublishStop` works under the lock.  The event bus runs the handlers
of one publisher one after the other, in a lane of their own, and those of
different publishers concurrently, so a publisher can be replaced between the
two steps of a handler.

The targets that the scheduler, the health filter and the registry leave over
are an argument of the locked step; there is at least one.
-/

namespace LiveForge.Cluster

open Support LiveForge.Core

/-! ## The manager -/

structure ForwardTarget where
  targetURL : String
  publisherID : String

/-- The entry of the stream key in `fm.active`. -/
abbrev ActiveTargets := Option (List ForwardTarget)

/-- The check of `onPublish`: the publisher the handler goes on with, unless
the stream has another one. -/
def checkPublish (ctxID snapshotID : String) : Option String :=
  let publisherID := if ctxID = "" then snapshotID else ctxID
  if publisherID ≠ "" ∧ snapshotID ≠ "" ∧ publisherID ≠ snapshotID then none
  else some publisherID

def newTargets (publisherID : String) (targets : List String) : List ForwardTarget :=
  targets.map fun url => ⟨url, publisherID⟩

def installTargets (publisherID : String) (targets : List String) : ActiveTargets :=
  if targets = [] then none else some (newTargets publisherID targets)

/-- The locked part of `onPublish`: targets of another publisher are closed and
replaced. -/
def publishLocked (publisherID : String) (targets : List String) :
    ActiveTargets → ActiveTargets
  | none => installTargets publisherID targets
  | some [] => some []
  | some (ft :: fts) =>
    if ft.publisherID = publisherID then some (ft :: fts)
    else installTargets publisherID targets

/-- The locked part of `onPublishStop`: targets of another publisher stay. -/
def publishStopLocked (ctxID : String) : ActiveTargets → ActiveTargets
  | none => none
  | some fts =>
    if ctxID ≠ "" ∧ (fts.head?.map ForwardTarget.publisherID) ≠ some ctxID then
      some fts
    else none

/-! ## Handlers next to the stream -/

inductive HandlerPc where
  | none
  /-- The publisher has the stream; `onPublish` has not started. -/
  | queued
  /-- `onPublish` has passed its check and goes on with this publisher. -/
  | checked (publisherID : String)
  /-- `onPublish` has returned. -/
  | published
  /-- `onPublishStop` has started. -/
  | stopping
  | stopped
  deriving DecidableEq

def HandlerPc.isRunning : HandlerPc → Bool
  | .checked _ | .stopping => true
  | _ => false

structure ForwardSystem where
  stream : GenerationState := GenerationState.initial
  active : ActiveTargets := none
  handlers : String → HandlerPc := fun _ => .none

inductive ForwardAction where
  | setPublisher (pub : Publisher) (writeCursor : ℕ)
  | removePublisher (writeCursor : ℕ)
  | check (id : String)
  | publish (id : String) (targets : List String)
  | beginStop (id : String)
  | stop (id : String)

namespace ForwardSystem

/-- `PublisherID` of the stream's startup snapshot. -/
def snapshotID (s : ForwardSystem) : String :=
  (s.stream.publisher.map Publisher.id).getD ""

def setHandler (s : ForwardSystem) (id : String) (pc : HandlerPc) : ForwardSystem :=
  { s with handlers := Function.update s.handlers id pc }

/-- A publisher has a name, and none that was used before.  Its publish event
is queued with the stream. -/
def step (s : ForwardSystem) : ForwardAction → Option ForwardSystem
  | .setPublisher pub writeCursor =>
    if pub.id ≠ "" ∧ s.stream.state ≠ .publishing ∧
        s.stream.state ≠ .destroying ∧ s.stream.idUsed pub.id = false then
      some ({ s with stream := s.stream.install pub writeCursor }.setHandler pub.id .queued)
    else none
  | .removePublisher writeCursor =>
    if s.stream.publisher.isSome then
      some { s with stream := s.stream.detach writeCursor }
    else none
  | .check id =>
    if s.handlers id = .queued then
      match checkPublish id s.snapshotID with
      | none => some (s.setHandler id .published)
      | some publisherID => some (s.setHandler id (.checked publisherID))
    else none
  | .publish id targets =>
    match s.handlers id with
    | .checked publisherID =>
      if targets ≠ [] then
        some ({ s with active :=
          publishLocked publisherID targets s.active }.setHandler id
            .published)
      else none
    | _ => none
  | .beginStop id =>
    if s.handlers id = .published then some (s.setHandler id .stopping)
    else none
  | .stop id =>
    if s.handlers id = .stopping then
      some ({ s with active := publishStopLocked id s.active }.setHandler id .stopped)
    else none

end ForwardSystem

/-! ## Following the publisher -/

/-- The entry has targets, all of the publisher. -/
def HoldsFor (id : String) (active : ActiveTargets) : Prop :=
  ∃ fts, active = some fts ∧ fts ≠ [] ∧ ∀ ft ∈ fts, ft.publisherID = id

namespace ForwardSystem

/-- When the publisher's `onPublish` has returned, its `onPublishStop` has not
started and no handler is running, the targets are the publisher's. -/
def Follows (s : ForwardSystem) : Prop :=
  ∀ pub, s.stream.publisher = some pub → s.handlers pub.id = .published →
    (∀ id, (s.handlers id).isRunning = false) → HoldsFor pub.id s.active

/-- `onPublish` takes the lock while its publisher still has the stream. -/
def LocksInTime (s : ForwardSystem) : ForwardAction → Prop
  | .publish id _ => s.stream.publisher.map Publisher.id = some id
  | _ => True

instance (s : ForwardSystem) (a : ForwardAction) : Decidable (LocksInTime s a) :=
  match a with
  | .publish _ _ => inferInstanceAs (Decidable (_ = _))
  | .setPublisher _ _ | .removePublisher _ | .check _ | .beginStop _
  | .stop _ => isTrue trivial

end ForwardSystem

def OneOwner (active : ActiveTargets) : Prop :=
  active = none ∨ ∃ id, HoldsFor id active

variable {targets : List String}

theorem installTargets_holdsFor (id : String) (htargets : targets ≠ []) :
    HoldsFor id (installTargets id targets) := by
  refine ⟨newTargets id targets, if_neg htargets, ?_, ?_⟩
  · simpa [newTargets] using htargets
  · intro ft hft
    obtain ⟨url, -, rfl⟩ := List.mem_map.mp hft
    rfl

variable {active : ActiveTargets}

theorem publishLocked_holdsFor (id : String) (howner : OneOwner active) (htargets : targets ≠ []) :
    HoldsFor id (publishLocked id targets active) := by
  obtain rfl | ⟨owner, fts, rfl, hne, hall⟩ := howner
  · exact installTargets_holdsFor id htargets
  · obtain ⟨ft, rest, rfl⟩ := List.exists_cons_of_ne_nil hne
    simp only [publishLocked]
    split
    next hsame =>
      have howner : owner = id := (hall ft List.mem_cons_self).symm.trans hsame
      exact ⟨ft :: rest, rfl, hne, howner ▸ hall⟩
    · exact installTargets_holdsFor id htargets

/-- A late `onPublishStop` of another publisher changes nothing. -/
theorem publishStopLocked_of_other {id owner : String} (hholds : HoldsFor owner active)
    (hnamed : id ≠ "") (hother : owner ≠ id) :
    publishStopLocked id active = active := by
  obtain ⟨fts, rfl, hne, hall⟩ := hholds
  obtain ⟨ft, rest, rfl⟩ := List.exists_cons_of_ne_nil hne
  have hft : ft.publisherID ≠ id := hall ft List.mem_cons_self ▸ hother
  exact if_pos ⟨hnamed, by simpa using hft⟩

theorem OneOwner.publishStopLocked (howner : OneOwner active) (id : String) :
    OneOwner (publishStopLocked id active) := by
  cases active with
  | none => exact .inl rfl
  | some fts =>
    simp only [Cluster.publishStopLocked]
    split
    · exact howner
    · exact .inl rfl

theorem checkPublish_eq_some {id snapshotID publisherID : String} (hnamed : id ≠ "")
    (hcheck : checkPublish id snapshotID = some publisherID) :
    publisherID = id := by
  simp only [checkPublish, if_neg hnamed, Option.ite_none_left_eq_some, Option.some.injEq] at hcheck
  exact hcheck.2.symm

/-! ## The invariant -/

namespace ForwardSystem

@[simp] theorem setHandler_handlers (s : ForwardSystem) (id other : String) (pc : HandlerPc) :
    (s.setHandler id pc).handlers other = if other = id then pc else s.handlers other :=
  Function.update_apply _ _ _ _

/-- Handlers go on with their own publisher, and the publisher whose
`onPublish` has returned owns the entry. -/
structure Wf (s : ForwardSystem) : Prop where
  named : ∀ id, s.handlers id ≠ .none → id ≠ ""
  own : ∀ id publisherID, s.handlers id = .checked publisherID → publisherID = id
  oneOwner : OneOwner s.active
  owns : ∀ pub, s.stream.publisher = some pub →
    s.handlers pub.id = .published → HoldsFor pub.id s.active

theorem wf_initial : Wf {} where
  named := fun _ hpc => absurd rfl hpc
  own := fun _ _ hpc => HandlerPc.noConfusion hpc
  oneOwner := .inl rfl
  owns := fun _ hpub _ => absurd hpub (Option.some_ne_none _).symm

variable {s : ForwardSystem}

/-- A handler moves on; a publisher that has the stream gets to `published` only
with its targets in place. -/
theorem Wf.setHandler (hwf : Wf s) {id : String} {pc : HandlerPc} (hnamed : id ≠ "")
    (hown : ∀ publisherID, pc = .checked publisherID → publisherID = id)
    (howns : pc = .published →
      ∀ pub, s.stream.publisher = some pub → pub.id = id → HoldsFor id s.active) :
    Wf (s.setHandler id pc) where
  named := by
    intro other hpc
    by_cases hsame : other = id
    · exact hsame ▸ hnamed
    · exact hwf.named other (by simpa [hsame] using hpc)
  own := by
    intro other publisherID hpc
    by_cases hsame : other = id
    · exact hsame ▸ hown publisherID (by simpa [hsame] using hpc)
    · exact hwf.own other publisherID (by simpa [hsame] using hpc)
  oneOwner := hwf.oneOwner
  owns := by
    intro pub hpub hpc
    by_cases hsame : pub.id = id
    · exact hsame ▸ howns (by simpa [hsame] using hpc) pub hpub hsame
    · exact hwf.owns pub hpub (by simpa [hsame] using hpc)

theorem Wf.step {s' : ForwardSystem} {a : ForwardAction} (hwf : Wf s) (htime : LocksInTime s a)
    (hstep : s.step a = some s') :
    Wf s' := by
  cases a with
  | setPublisher pub writeCursor =>
    obtain ⟨⟨hnamed, -⟩, hs'⟩ := Option.ite_none_right_eq_some.mp hstep
    cases hs'
    have hqueued : Wf (s.setHandler pub.id .queued) := hwf.setHandler hnamed (by simp) (by simp)
    refine { hqueued with owns := ?_ }
    -- The new publisher's own handler is still to come.
    rintro current ⟨⟩ hpc
    simp at hpc
  | removePublisher writeCursor =>
    obtain ⟨-, hs'⟩ := Option.ite_none_right_eq_some.mp hstep
    cases hs'
    exact { hwf with
      owns := fun _ hpub _ => absurd hpub (Option.some_ne_none _).symm }
  | check id =>
    obtain ⟨hqueued, hs'⟩ := Option.ite_none_right_eq_some.mp hstep
    have hnamed : id ≠ "" := hwf.named id (by simp [hqueued])
    split at hs'
    next hfails =>
      cases hs'
      refine hwf.setHandler hnamed (by simp) ?_
      rintro - pub hpub rfl
      simp [checkPublish, snapshotID, hpub] at hfails
    next publisherID hpasses =>
      cases hs'
      refine hwf.setHandler hnamed ?_ (by simp)
      rintro _ ⟨⟩
      exact checkPublish_eq_some hnamed hpasses
  | publish id targets =>
    simp only [ForwardSystem.step] at hstep
    split at hstep
    next publisherID hchecked =>
      obtain ⟨htargets, hs'⟩ := Option.ite_none_right_eq_some.mp hstep
      cases hs'
      obtain rfl := hwf.own id publisherID hchecked
      have hholds := publishLocked_holdsFor publisherID hwf.oneOwner htargets
      have hlocked : Wf { s with
          active := publishLocked publisherID targets s.active } :=
        { hwf with
          oneOwner := .inr ⟨publisherID, hholds⟩
          owns := fun pub hpub _ => by
            obtain ⟨_, hcurrent, rfl⟩ := Option.map_eq_some_iff.mp htime
            obtain rfl := Option.mem_unique hpub hcurrent
            exact hholds }
      exact hlocked.setHandler (hwf.named publisherID (by simp [hchecked]))
        (by simp) fun _ _ _ _ => hholds
    · cases hstep
  | beginStop id =>
    obtain ⟨hpublished, hs'⟩ := Option.ite_none_right_eq_some.mp hstep
    cases hs'
    exact hwf.setHandler (hwf.named id (by simp [hpublished])) (by simp) (by simp)
  | stop id =>
    obtain ⟨hstopping, hs'⟩ := Option.ite_none_right_eq_some.mp hstep
    cases hs'
    have hnamed : id ≠ "" := hwf.named id (by simp [hstopping])
    have hlocked : Wf { s with active := publishStopLocked id s.active } :=
      { hwf with
        oneOwner := hwf.oneOwner.publishStopLocked id
        owns := fun pub hpub hpublished => by
          have hother : pub.id ≠ id := by
            rintro rfl
            simp [hstopping] at hpublished
          have hholds := hwf.owns pub hpub hpublished
          exact (publishStopLocked_of_other hholds hnamed hother).symm ▸
            hholds }
    exact hlocked.setHandler hnamed (by simp) (by simp)

theorem Wf.follows (hwf : Wf s) : Follows s :=
  fun pub hpub hpublished _ => hwf.owns pub hpub hpublished

/-- In every interleaving in which `onPublish` takes the lock only while its
publisher still has the stream, forwarding follows the publisher. -/
theorem forward_follows_of_locksInTime (acts : List ForwardAction) (s : ForwardSystem)
    (htime : StepsMeet LocksInTime step {} acts) (hrun : runFrom step {} acts = some s) :
    Follows s := by
  have hstep : ∀ s a s', Wf s → LocksInTime s a → step s a = some s' → Wf s' :=
    fun _ _ _ hwf htime hstep => hwf.step htime hstep
  exact (runFrom_invariant_of_stepsMeet hstep wf_initial htime hrun).follows

/-- The second publisher's handlers run before the first one's stop handler. -/
def replacement : List ForwardAction :=
  [.setPublisher ⟨"a", none, none⟩ 0, .check "a", .publish "a" ["rtmp://edge"],
    .removePublisher 4, .setPublisher ⟨"b", none, none⟩ 4, .check "b",
    .publish "b" ["rtmp://edge"], .beginStop "a", .stop "a"]

theorem forward_follows_replacement :
    ∃ s, runFrom step {} replacement = some s ∧ Follows s ∧
      s.active = some [⟨"rtmp://edge", "b"⟩] :=
  ⟨_, rfl, forward_follows_of_locksInTime replacement _ (by decide) rfl, rfl⟩

/-- The first publisher's `onPublish` passes its check and loses the processor;
the publisher is replaced and the new one's targets are installed.  Then the
late handler takes the lock. -/
def lateLock : List ForwardAction :=
  [.setPublisher ⟨"a", none, none⟩ 0, .check "a", .removePublisher 4,
    .setPublisher ⟨"b", none, none⟩ 4, .check "b",
    .publish "b" ["rtmp://edge"], .publish "a" ["rtmp://edge"],
    .beginStop "a", .stop "a"]

/-- The late handler's targets replace the new publisher's, and the first
publisher's stop handler removes them: nothing is forwarded any more. -/
theorem forward_loses_publisher :
    ∃ s, runFrom step {} lateLock = some s ∧ s.active = none ∧ ¬ Follows s := by
  refine ⟨_, rfl, rfl, fun hfollows => ?_⟩
  obtain ⟨fts, hactive, -⟩ := hfollows ⟨"b", none, none⟩ rfl rfl (by
    intro id
    by_cases ha : id = "a" <;> by_cases hb : id = "b" <;>
      simp [HandlerPc.isRunning, ha, hb])
  cases hactive

end ForwardSystem

end LiveForge.Cluster
