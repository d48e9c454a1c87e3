import LiveForge.HttpStream.Managers
import LiveForge.Hub.Destroy

/-!
# Managers leave with their generation

After the publish-stop handler of a generation has returned, the maps hold no
manager of it and no request gets one.  The argument: the position of the ended
generation is barred.  Either the tombstone is there, or the stream has moved
on, is dying or has left the hub, and then no request that starts on a stream
of the hub can take a snapshot of that position again.
-/

namespace LiveForge.HttpStream

open LiveForge.Core Support ManagerGenerationIdentity HttpModule

/-! ## Comparing identities -/

variable {i other : ManagerGenerationIdentity}

namespace ManagerGenerationIdentity

theorem samePosition_iff : i.samePosition other = true ↔ i.position = other.position := by
  simp [samePosition, position]

theorem blocks_iff :
    i.blocks other = true ↔
      i.position = other.position ∧
        (i.publisherID = other.publisherID ∨ i.publisherID = "" ∨ other.publisherID = "") := by
  simp [blocks, samePosition_iff, or_assoc]

theorem newerThan_iff :
    i.newerThan other = true ↔
      other.streamInstanceID < i.streamInstanceID ∨
        i.streamInstanceID = other.streamInstanceID ∧
          other.publisherGeneration < i.publisherGeneration := by
  simp [newerThan]

theorem newerThan_of_not_newerThan (hne : i.position ≠ other.position)
    (hnot : i.newerThan other = false) :
    other.newerThan i = true := by
  have hnot' := mt newerThan_iff.mpr (Bool.eq_false_iff.mp hnot)
  have hne' : ¬ (i.streamInstanceID = other.streamInstanceID ∧
      i.publisherGeneration = other.publisherGeneration) :=
    fun hsame => hne (Prod.ext hsame.1 hsame.2)
  rw [newerThan_iff]
  omega

end ManagerGenerationIdentity

variable {identity : ManagerGenerationIdentity} {ctx : EventContext}

theorem managerGenerationFromEvent_eq_some :
    managerGenerationFromEvent ctx = some identity ↔
      (ctx.streamInstanceID ≠ 0 ∧ ctx.publisherGeneration ≠ 0) ∧
        identity = ⟨ctx.streamInstanceID, ctx.publisherGeneration, ctx.publisherID⟩ := by
  simp [managerGenerationFromEvent, eq_comm]

/-! ## What handlers and requests do to the module -/

variable {kind : SegmenterKind} {t : ManagerGenerationIdentity} {key : String} {n : ℕ}
  {m : HttpModule}

namespace HttpModule

/-- Everything but the tombstones is as before. -/
structure SameManagers (m m' : HttpModule) : Prop where
  lookup : m'.lookup = m.lookup
  managers : m'.managers = m.managers
  runningManagers : m'.runningManagers = m.runningManagers
  managerClosing : m'.managerClosing = m.managerClosing

theorem SameManagers.refl (m : HttpModule) : SameManagers m m :=
  ⟨rfl, rfl, rfl, rfl⟩

theorem sameManagers_remember (found : Option ℕ) (ctx : EventContext) (m : HttpModule) :
    SameManagers m (m.rememberRetiredGeneration found ctx) := by
  unfold rememberRetiredGeneration
  split
  · exact .refl m
  · split_ifs
    · exact .refl m
    · exact .refl m
    · split
      · exact ⟨rfl, rfl, rfl, rfl⟩
      · split_ifs
        · exact .refl m
        · exact .refl m
        · exact ⟨rfl, rfl, rfl, rfl⟩

theorem sameManagers_forget (ctx : EventContext) (m : HttpModule) :
    SameManagers m (m.forgetDestroyedGeneration ctx) := by
  unfold forgetDestroyedGeneration
  split
  · exact .refl m
  · split_ifs
    · exact ⟨rfl, rfl, rfl, rfl⟩
    · exact .refl m

theorem sameManagers_wasRetired (streamKey : String) (identity : ManagerGenerationIdentity)
    (m : HttpModule) :
    SameManagers m (m.generationWasRetired streamKey identity).2 := by
  unfold generationWasRetired
  split
  · exact .refl m
  · split_ifs
    · exact .refl m
    · exact ⟨rfl, rfl, rfl, rfl⟩
    · exact .refl m

/-- An exact event leaves its identity behind, unless the hub has another
stream or a tombstone of the same or a newer position is there already. -/
theorem remember_cases (found : Option ℕ) (hopen : m.managerClosing = false)
    (hexact : managerGenerationFromEvent ctx = some identity) :
    ((m.rememberRetiredGeneration found ctx).retiredGenerations = m.retiredGenerations ∧
      (found ≠ some identity.streamInstanceID ∨
        ∃ t, m.retiredGenerations.lookup ctx.streamKey = some t ∧
          (t.newerThan identity = true ∨ t.position = identity.position))) ∨
    ((m.rememberRetiredGeneration found ctx).retiredGenerations =
        m.retiredGenerations.insert ctx.streamKey identity ∧
      found = some identity.streamInstanceID ∧
        ∀ t, m.retiredGenerations.lookup ctx.streamKey = some t →
          t.newerThan identity = false) := by
  simp only [rememberRetiredGeneration, hexact, hopen, Bool.false_eq_true, if_false]
  by_cases hfound : found = some identity.streamInstanceID
  · rw [if_neg (not_not.mpr hfound)]
    cases hlookup : m.retiredGenerations.lookup ctx.streamKey with
    | none => exact .inr ⟨rfl, hfound, by simp⟩
    | some t =>
      dsimp only
      split_ifs with hnewer hsame
      · exact .inl ⟨rfl, .inr ⟨t, rfl, .inl hnewer⟩⟩
      · exact .inl ⟨rfl, .inr ⟨t, rfl, .inr (samePosition_iff.mp hsame.1)⟩⟩
      · refine .inr ⟨rfl, hfound, ?_⟩
        rintro _ ⟨⟩
        exact Bool.eq_false_iff.mpr hnewer
  · rw [if_pos hfound]
    exact .inl ⟨rfl, .inl hfound⟩

theorem forget_cases (ctx : EventContext) (m : HttpModule) :
    (m.forgetDestroyedGeneration ctx).retiredGenerations = m.retiredGenerations ∨
      (m.forgetDestroyedGeneration ctx).retiredGenerations =
        m.retiredGenerations.erase ctx.streamKey ∧
      ∃ t, m.retiredGenerations.lookup ctx.streamKey = some t ∧
        (ctx.streamInstanceID = 0 ∨ t.streamInstanceID = ctx.streamInstanceID) := by
  unfold forgetDestroyedGeneration
  split
  · exact .inl rfl
  next t ht =>
    split_ifs with hforget
    · exact .inr ⟨rfl, t, ht, hforget⟩
    · exact .inl rfl

theorem remember_of_inexact {found : Option ℕ} (hexact : managerGenerationFromEvent ctx = none) :
    m.rememberRetiredGeneration found ctx = m := by
  simp [rememberRetiredGeneration, hexact]

variable {streamKey : String}

theorem lookup_removeMatching (hlookup : ((m.removeMatching ctx).lookup kind).lookup key = some n) :
    (m.lookup kind).lookup key = some n ∧
      (key = ctx.streamKey → (m.identityOf n).any (eventMatches ctx) = false) := by
  simp only [removeMatching] at hlookup
  split at hlookup
  next hnone =>
    refine ⟨hlookup, ?_⟩
    rintro rfl
    rw [hnone] at hlookup
    cases hlookup
  next current hcurrent =>
    split_ifs at hlookup with hmatches
    · obtain ⟨hne, hold⟩ := lookup_of_erase hlookup
      exact ⟨hold, fun hsame => absurd hsame hne⟩
    · refine ⟨hlookup, ?_⟩
      rintro rfl
      obtain rfl := Option.mem_unique hcurrent hlookup
      exact Bool.eq_false_iff.mpr hmatches

theorem lookup_removeMatching_of_not (hlookup : (m.lookup kind).lookup key = some n)
    (hother : (m.identityOf n).any (eventMatches ctx) = false) :
    ((m.removeMatching ctx).lookup kind).lookup key = some n := by
  simp only [removeMatching]
  split
  · exact hlookup
  next current hcurrent =>
    split_ifs with hmatches
    · have hne : key ≠ ctx.streamKey := by
        rintro rfl
        obtain rfl := Option.mem_unique hcurrent hlookup
        simp [hother] at hmatches
      rw [AList.lookup_erase_ne hne, hlookup]
    · exact hlookup

/-- A tombstone at the key blocks the request, is older and goes, or stays. -/
theorem wasRetired_cases (streamKey : String)
    (identity : ManagerGenerationIdentity) (m : HttpModule) :
    ((m.generationWasRetired streamKey identity).1 = true ∧
      (m.generationWasRetired streamKey identity).2 = m) ∨
    ((m.generationWasRetired streamKey identity).1 = false ∧
      (∀ t, m.retiredGenerations.lookup streamKey = some t → t.blocks identity = false) ∧
      ((m.generationWasRetired streamKey identity).2 = m ∨
        ∃ t, m.retiredGenerations.lookup streamKey = some t ∧ identity.newerThan t = true ∧
            (m.generationWasRetired streamKey identity).2.retiredGenerations =
              m.retiredGenerations.erase streamKey)) := by
  unfold generationWasRetired
  cases hlookup : m.retiredGenerations.lookup streamKey with
  | none => exact .inr ⟨rfl, by simp, .inl rfl⟩
  | some t =>
    dsimp only
    split_ifs with hblocks hnewer
    · exact .inl ⟨rfl, rfl⟩
    · refine .inr ⟨rfl, ?_, .inr ⟨t, rfl, hnewer, rfl⟩⟩
      rintro _ ⟨⟩
      exact Bool.eq_false_iff.mpr hblocks
    · refine .inr ⟨rfl, ?_, .inl rfl⟩
      rintro _ ⟨⟩
      exact Bool.eq_false_iff.mpr hblocks

theorem lookup_wasRetired
    (hlookup : (m.generationWasRetired streamKey identity).2.retiredGenerations.lookup key =
      some t) :
    m.retiredGenerations.lookup key = some t := by
  rcases wasRetired_cases streamKey identity m with ⟨-, hsame⟩ | ⟨-, -, hsame | ⟨-, -, -, herase⟩⟩
  · exact hsame ▸ hlookup
  · exact hsame ▸ hlookup
  · exact (lookup_of_erase (herase ▸ hlookup)).2

structure Served (streamKey : String) (identity : ManagerGenerationIdentity)
    (n : ℕ) (m m' : HttpModule) : Prop where
  lookup : ∀ kind key found, (m'.lookup kind).lookup key = some found →
    (m.lookup kind).lookup key = some found ∨ found = n ∧ key = streamKey
  managers : m'.managers = m.managers ∨ m'.managers = m.managers ++ [⟨identity, 0⟩]
  identityOf : m'.identityOf n = some identity
  retiredGenerations : m'.retiredGenerations = m.retiredGenerations
  managerClosing : m'.managerClosing = m.managerClosing

variable {m' : HttpModule}

theorem Served.identityOf_kept (hserved : Served streamKey identity n m m') {found : ℕ}
    (hi : m.identityOf found = some i) :
    m'.identityOf found = some i := by
  rcases hserved.managers with hsame | hgrown
  · rw [HttpModule.identityOf, hsame]
    exact hi
  · obtain ⟨manager, hget, rfl⟩ := Option.map_eq_some_iff.mp hi
    have hlt := (List.getElem?_eq_some_iff.mp hget).1
    rw [HttpModule.identityOf, hgrown, List.getElem?_append_left hlt, hget]
    rfl

theorem lookup_setLookup (kind other : SegmenterKind) (entries : AList fun _ : String => ℕ)
    (m : HttpModule) :
    (m.setLookup kind entries).lookup other = if other = kind then entries else m.lookup other :=
  Function.update_apply _ _ _ _

theorem create_served (hopen : m.managerClosing = false) (kind : SegmenterKind)
    (streamKey : String) (identity : ManagerGenerationIdentity) :
    Served streamKey identity (m.create kind streamKey identity).1 m
      (m.create kind streamKey identity).2 := by
  simp only [create, startManager, hopen, Bool.false_eq_true, if_false, if_true]
  refine ⟨?_, .inr rfl, ?_, rfl, hopen.symm⟩
  · intro other key found hlookup
    rw [lookup_setLookup] at hlookup
    split_ifs at hlookup with hkind
    · subst hkind
      by_cases hsame : key = streamKey
      · subst hsame
        rw [AList.lookup_insert, Option.some.injEq] at hlookup
        exact .inr ⟨hlookup.symm, rfl⟩
      · rw [AList.lookup_insert_ne hsame] at hlookup
        exact .inl hlookup
    · exact .inl hlookup
  · simp [HttpModule.identityOf, setLookup]

theorem Served.of_erase
    (hserved : Served streamKey identity n
      (m.setLookup kind ((m.lookup kind).erase streamKey)) m') :
    Served streamKey identity n m m' := by
  refine { hserved with lookup := fun other key found hlookup => ?_ }
  rcases hserved.lookup other key found hlookup with hold | hnew
  · rw [lookup_setLookup] at hold
    split_ifs at hold with hkind
    · subst hkind
      exact .inl (lookup_of_erase hold).2
    · exact .inl hold
  · exact .inr hnew

variable {publishing : Bool}

theorem getOrCreate_none (hnone : (m.getOrCreate kind streamKey identity publishing).1 = none) :
    (m.getOrCreate kind streamKey identity publishing).2 = m := by
  unfold getOrCreate at hnone ⊢
  split_ifs at hnone ⊢ with hpublishing
  · rfl
  · rcases wasRetired_cases streamKey identity m with ⟨hretired, hsame⟩ | ⟨hfree, -, -⟩
    · rw [if_pos hretired]
      exact hsame
    · rw [if_neg (Bool.eq_false_iff.mp hfree)] at hnone
      split at hnone
      · simp at hnone
      · split_ifs at hnone
        simp at hnone

theorem getOrCreate_some (hopen : m.managerClosing = false)
    (hsome : (m.getOrCreate kind streamKey identity publishing).1 = some n) :
    publishing = true ∧ (m.generationWasRetired streamKey identity).1 = false ∧
      Served streamKey identity n (m.generationWasRetired streamKey identity).2
        (m.getOrCreate kind streamKey identity publishing).2 := by
  have hopen' : (m.generationWasRetired streamKey identity).2.managerClosing =
      false :=
    (sameManagers_wasRetired streamKey identity m).managerClosing.trans hopen
  unfold getOrCreate at hsome ⊢
  split_ifs at hsome ⊢ with hpublishing
  dsimp only at hsome ⊢
  split_ifs at hsome ⊢ with hretired
  refine ⟨by simpa using hpublishing, Bool.eq_false_iff.mpr hretired, ?_⟩
  generalize (m.generationWasRetired streamKey identity).2 = checked at *
  cases hlookup : (checked.lookup kind).lookup streamKey with
  | none =>
    simp only [hlookup, Prod.map_fst, Option.some.injEq] at hsome ⊢
    exact hsome ▸ create_served hopen' kind streamKey identity
  | some found =>
    simp only [hlookup] at hsome ⊢
    split_ifs at hsome ⊢ with hsame
    · cases hsome
      exact ⟨fun _ _ _ hold => .inl hold, .inl rfl, hsame, rfl, rfl⟩
    · simp only [Prod.map_fst, Option.some.injEq] at hsome ⊢
      have hcreated := create_served (m := checked.setLookup kind
        ((checked.lookup kind).erase streamKey)) hopen' kind streamKey identity
      exact (hsome ▸ hcreated).of_erase

end HttpModule

/-! ## Generations of streams -/

def Owned (h : StreamHub) (owner : ℕ → ℕ → String) : Prop :=
  ∀ id inst pub, h.withID id = some inst → inst.stream.publisher = some pub →
    owner id inst.stream.publisherGeneration = pub.id

/-- The identity is one of a generation that a stream with this key has had. -/
def Known (h : StreamHub) (owner : ℕ → ℕ → String) (key : String)
    (i : ManagerGenerationIdentity) : Prop :=
  ∃ inst, h.withID i.streamInstanceID = some inst ∧ inst.stream.key = key ∧
    i.publisherGeneration ≤ inst.stream.publisherGeneration ∧
      (i.publisherID = "" ∨ i.publisherID = owner i.streamInstanceID i.publisherGeneration)

/-- No request that starts on a stream of the hub gets a manager of the
position. -/
def Barred (h : StreamHub) (retired : AList fun _ : String => ManagerGenerationIdentity)
    (p : ℕ × ℕ) : Prop :=
  ∃ inst, h.withID p.1 = some inst ∧
    (inst.stream.state = .destroying ∨ p.2 < inst.stream.publisherGeneration ∨
        h.findID inst.stream.key ≠ some p.1 ∨
          ∃ t, retired.lookup inst.stream.key = some t ∧ t.position = p)

variable {p : ℕ × ℕ} {inst : Instance}

section Streams

variable {h h' : StreamHub} {owner : ℕ → ℕ → String}
  {retired retired' : AList fun _ : String => ManagerGenerationIdentity}

theorem ownersAfter_eq (howned : Owned h owner) (hmove : HubMove h h') {id generation : ℕ}
    (hget : h.withID id = some inst) (hle : generation ≤ inst.stream.publisherGeneration) :
    ownersAfter h' owner id generation = owner id generation := by
  obtain ⟨inst', hget', hstream⟩ := hmove.moved id inst hget
  simp only [ownersAfter, hget']
  split
  next hcurrent =>
    subst hcurrent
    cases hpub : inst'.stream.publisher with
    | none => rfl
    | some pub =>
      rcases hstream.publisher pub hpub with ⟨hsame, hold⟩ | hnext
      · rw [hsame]
        exact (howned id inst pub hget hold).symm
      · omega
  · rfl

theorem Known.move (hknown : Known h owner key i) (howned : Owned h owner) (hmove : HubMove h h') :
    Known h' (ownersAfter h' owner) key i := by
  obtain ⟨inst, hget, hkey, hle, hname⟩ := hknown
  obtain ⟨inst', hget', hstream⟩ := hmove.moved _ inst hget
  refine ⟨inst', hget', hstream.key.trans hkey, hle.trans hstream.generation, ?_⟩
  rwa [ownersAfter_eq howned hmove hget hle]

variable {key' : String}

theorem Known.key_eq (hknown : Known h owner key i) (hknown' : Known h owner key' other)
    (hsame : i.position = other.position) :
    key = key' := by
  obtain ⟨inst, hget, rfl, -⟩ := hknown
  obtain ⟨inst', hget', rfl, -⟩ := hknown'
  rw [(Prod.mk.inj hsame).1] at hget
  rw [Option.mem_unique hget hget']

/-- Two identities of one position name the same publisher, if they name one. -/
theorem Known.names (hknown : Known h owner key i)
    (hknown' : Known h owner key' other) (hsame : i.position = other.position) :
    i.publisherID = other.publisherID ∨ i.publisherID = "" ∨ other.publisherID = "" := by
  obtain ⟨-, -, -, -, hname⟩ := hknown
  obtain ⟨-, -, -, -, hname'⟩ := hknown'
  obtain ⟨hid, hgeneration⟩ := Prod.mk.inj hsame
  rcases hname with hempty | hname
  · exact .inr (.inl hempty)
  rcases hname' with hempty | hname'
  · exact .inr (.inr hempty)
  · exact .inl (by rw [hname, hname', hid, hgeneration])

theorem Barred.move (hbarred : Barred h retired p) (hmove : HubMove h h') :
    Barred h' retired p := by
  obtain ⟨inst, hget, hwhy⟩ := hbarred
  obtain ⟨inst', hget', hstream⟩ := hmove.moved _ inst hget
  refine ⟨inst', hget', ?_⟩
  rcases hwhy with hdead | hpast | hgone | htomb
  · exact .inl (hstream.destroying hdead)
  · exact .inr (.inl (hpast.trans_le hstream.generation))
  · refine .inr (.inr (.inl fun hfind => ?_))
    rcases hmove.found _ _ hfind with hold | hnone
    · exact hgone (hstream.key ▸ hold)
    · simp [hget] at hnone
  · exact .inr (.inr (.inr (hstream.key ▸ htomb)))

/-- New tombstones bar the old positions if they keep those of the old ones, or
if these are barred otherwise. -/
theorem Barred.change (hbarred : Barred h retired p)
    (hkept : ∀ key t, retired.lookup key = some t → t.position = p →
      (∃ t', retired'.lookup key = some t' ∧ t'.position = p) ∨ Barred h retired' p) :
    Barred h retired' p := by
  obtain ⟨inst, hget, hwhy⟩ := hbarred
  rcases hwhy with hdead | hpast | hgone | ⟨t, ht, hposition⟩
  · exact ⟨inst, hget, .inl hdead⟩
  · exact ⟨inst, hget, .inr (.inl hpast)⟩
  · exact ⟨inst, hget, .inr (.inr (.inl hgone))⟩
  · rcases hkept _ t ht hposition with htomb | hbarred
    · exact ⟨inst, hget, .inr (.inr (.inr htomb))⟩
    · exact hbarred

/-- A tombstone that goes leaves its position barred if the stream of the key
has a newer position. -/
theorem barred_of_newer {pending : Multiset HubTask} (hroot : Rooted h pending)
    (retired : AList fun _ : String => ManagerGenerationIdentity) (hknown : Known h owner key i)
    (hnewer : Known h owner key other) (hlt : other.newerThan i = true) :
    Barred h retired i.position := by
  obtain ⟨inst, hget, hkey, -⟩ := hknown
  obtain ⟨inst', hget', hkey', hle, -⟩ := hnewer
  refine ⟨inst, hget, ?_⟩
  rcases newerThan_iff.mp hlt with hid | ⟨hid, hlater⟩
  · refine .inr (.inr (.inl fun hfind => ?_))
    rw [hkey, ← hkey'] at hfind
    exact absurd (hroot.le_of_findID hget' hfind) (not_le.mpr hid)
  · rw [hid] at hget'
    obtain rfl := Option.mem_unique hget hget'
    exact .inr (.inl (hlater.trans_le hle))

end Streams

/-! ## The invariant -/

namespace HttpSystem

structure Inv (s : HttpSystem) : Prop where
  root : Rooted s.hub.state s.hub.pending
  owned : Owned s.hub.state s.owner
  notClosing : s.http.managerClosing = false
  tombstones : ∀ key t, s.http.retiredGenerations.lookup key = some t →
    Known s.hub.state s.owner key t
  entries : ∀ kind key n, (s.http.lookup kind).lookup key = some n →
    ∃ i, s.http.identityOf n = some i ∧ Known s.hub.state s.owner key i ∧ i.position ∉ s.stopped
  barred : ∀ p ∈ s.stopped, Barred s.hub.state s.http.retiredGenerations p
  requested : ∀ r, s.request = some r → r.identity.streamInstanceID = r.stream ∧
      Known s.hub.state s.owner r.streamKey r.identity ∧
        (r.identity.position ∈ s.stopped → (∃ inst, s.hub.state.withID r.stream = some inst ∧
            inst.stream.state = .destroying) ∨
          ∃ t, s.http.retiredGenerations.lookup r.streamKey = some t ∧ t.blocks r.identity = true)
  unstopped : ∀ manager ∈ s.http.managers, manager.stops = 0

theorem inv_initial (cfg : StreamConfig) (limits : LimitsConfig) : Inv (initial cfg limits) where
  root := rooted_initial cfg limits
  owned := by
    intro id inst pub hget
    cases id with
    | zero => cases hget
    | succ i => simp [initial, HubSystem.initial, newStreamHub, StreamHub.withID] at hget
  notClosing := rfl
  tombstones := by simp [initial]
  entries := by simp [initial]
  barred := by simp [initial]
  requested := by simp [initial]
  unstopped := by simp [initial]

/-- A request for a stream that is not dying starts while the hub still has
that stream. -/
def RequestsCurrent (s : HttpSystem) : HttpAction → Prop
  | .beginRequest _ stream => ∀ inst ∈ s.hub.state.withID stream,
      inst.stream.state = .destroying ∨ s.hub.state.findID inst.stream.key = some stream
  | _ => True

instance (s : HttpSystem) (a : HttpAction) : Decidable (RequestsCurrent s a) :=
  match a with
  | .beginRequest _ _ => inferInstanceAs (Decidable (∀ _ ∈ _, _))
  | .hub _ | .finishRequest | .publishStop _ | .streamDestroy _
  | .workerDone _ => isTrue trivial

variable {s s' : HttpSystem} {a : HttpAction}

namespace Inv

theorem hubStep (hinv : Inv s) {a : ThreadAction HubCall} (hstep : s.step (.hub a) = some s') :
    Inv s' := by
  obtain ⟨hub, hhub, rfl⟩ := Option.map_eq_some_iff.mp hstep
  obtain ⟨hroot, hmove⟩ := hinv.root.step hhub
  exact
    { hinv with
      root := hroot
      owned := fun _ _ _ hget hpub => by simp [ownersAfter, hget, hpub]
      tombstones := fun key t ht =>
        (hinv.tombstones key t ht).move hinv.owned hmove
      entries := by
        intro kind key n hlookup
        obtain ⟨i, hi, hknown, hfree⟩ := hinv.entries kind key n hlookup
        exact ⟨i, hi, hknown.move hinv.owned hmove, hfree⟩
      barred := fun p hp => (hinv.barred p hp).move hmove
      requested := by
        intro r hr
        obtain ⟨hid, hknown, hstopped⟩ := hinv.requested r hr
        refine ⟨hid, hknown.move hinv.owned hmove, fun hp => ?_⟩
        rcases hstopped hp with ⟨inst, hget, hdead⟩ | htomb
        · obtain ⟨inst', hget', hstream⟩ := hmove.moved _ inst hget
          exact .inl ⟨inst', hget', hstream.destroying hdead⟩
        · exact .inr htomb }

variable {stream : ℕ}

theorem known_snapshot (hinv : Inv s) (hget : s.hub.state.withID stream = some inst) :
    Known s.hub.state s.owner inst.stream.key
      (managerGenerationFromSnapshot inst.stream.startupSnapshot) := by
  have hid : inst.stream.instanceID = stream := hinv.root.instanceID_of_withID hget
  refine ⟨inst, ?_, rfl, le_rfl, ?_⟩
  · simpa [managerGenerationFromSnapshot, Stream.startupSnapshot, hid] using hget
  · simp only [Stream.startupSnapshot, hid]
    cases hpub : inst.stream.publisher with
    | none => exact .inl rfl
    | some pub => exact .inr (hinv.owned stream inst pub hget hpub).symm

theorem beginRequest (hinv : Inv s) (hcurrent : RequestsCurrent s (.beginRequest kind stream))
    (hstep : s.step (.beginRequest kind stream) = some s') :
    Inv s' := by
  obtain ⟨-, hresult⟩ := Option.ite_none_right_eq_some.mp hstep
  obtain ⟨inst, hget, rfl⟩ := Option.map_eq_some_iff.mp hresult
  refine { hinv with requested := ?_ }
  rintro _ ⟨⟩
  have hid : inst.stream.instanceID = stream := hinv.root.instanceID_of_withID hget
  have hknown := hinv.known_snapshot hget
  refine ⟨hid, hknown, fun hp => ?_⟩
  obtain ⟨inst', hget', hwhy⟩ := hinv.barred _ hp
  have hsame : inst' = inst := by
    have hget'' : s.hub.state.withID inst.stream.instanceID = some inst' := hget'
    rw [hid, hget] at hget''
    exact (Option.some.inj hget'').symm
  subst hsame
  rcases hwhy with hdead | hpast | hgone | ⟨t, ht, hposition⟩
  · exact .inl ⟨inst', hget, hdead⟩
  · exact absurd hpast (lt_irrefl _)
  · rcases hcurrent inst' hget with hdead | hfind
    · exact .inl ⟨inst', hget, hdead⟩
    · exact absurd (hid ▸ hfind) hgone
  · exact .inr ⟨t, ht, blocks_iff.mpr ⟨hposition, (hinv.tombstones _ t ht).names hknown hposition⟩⟩

variable {r : ManagerRequest}

theorem not_stopped_of_answer (hinv : Inv s) (hr : s.request = some r)
    (hanswer : (s.answer r).1 = some n) :
    r.identity.position ∉ s.stopped := by
  obtain ⟨hpublishing, hfree, -⟩ := getOrCreate_some hinv.notClosing hanswer
  obtain ⟨-, -, hstopped⟩ := hinv.requested r hr
  intro hp
  rcases hstopped hp with ⟨inst, hget, hdead⟩ | ⟨t, ht, hblocks⟩
  · simp [isPublishing, hget, hdead] at hpublishing
  · rcases wasRetired_cases r.streamKey r.identity s.http with ⟨hretired, -⟩ | ⟨-, hnone, -⟩
    · simp [hfree] at hretired
    · simp [hnone t ht] at hblocks

/-- The tombstones after a request bar what was barred. -/
theorem barred_of_request (hinv : Inv s) (hr : s.request = some r) (hp : p ∈ s.stopped) :
    Barred s.hub.state (s.http.generationWasRetired r.streamKey r.identity).2.retiredGenerations
      p := by
  have hbarred := hinv.barred p hp
  rcases wasRetired_cases r.streamKey r.identity s.http with
    ⟨-, hsame⟩ | ⟨-, -, hsame | ⟨t, ht, hnewer, herase⟩⟩
  · exact hsame.symm ▸ hbarred
  · exact hsame.symm ▸ hbarred
  · rw [herase]
    refine hbarred.change fun key t' ht' hposition => ?_
    by_cases hkey : key = r.streamKey
    · subst hkey
      obtain rfl := Option.mem_unique ht ht'
      exact .inr (hposition ▸ barred_of_newer hinv.root _
        (hinv.tombstones _ t ht) (hinv.requested r hr).2.1 hnewer)
    · exact .inl ⟨t', by rw [AList.lookup_erase_ne hkey, ht'], hposition⟩

theorem finishRequest (hinv : Inv s) (hstep : s.step .finishRequest = some s') : Inv s' := by
  obtain ⟨r, hr, rfl⟩ := Option.map_eq_some_iff.mp hstep
  cases hanswer : (s.answer r).1 with
  | none =>
    have hsame : (s.answer r).2 = s.http := getOrCreate_none hanswer
    rw [hsame]
    exact { hinv with requested := by simp }
  | some n =>
    have hfree := hinv.not_stopped_of_answer hr hanswer
    obtain ⟨-, -, hserved⟩ := getOrCreate_some hinv.notClosing hanswer
    have hsame := sameManagers_wasRetired r.streamKey r.identity s.http
    have hmanagers : (s.answer r).2.managers = s.http.managers ∨
        (s.answer r).2.managers = s.http.managers ++ [⟨r.identity, 0⟩] :=
      hsame.managers ▸ hserved.managers
    exact
      { hinv with
        notClosing := (hserved.managerClosing.trans hsame.managerClosing).trans
          hinv.notClosing
        tombstones := by
          intro key t ht
          exact hinv.tombstones key t (lookup_wasRetired (hserved.retiredGenerations ▸ ht))
        entries := by
          intro kind key found hlookup
          rcases hserved.lookup kind key found hlookup with hold | ⟨rfl, rfl⟩
          · rw [hsame.lookup] at hold
            obtain ⟨i, hi, hknown, hnot⟩ := hinv.entries kind key found hold
            refine ⟨i, hserved.identityOf_kept ?_, hknown, hnot⟩
            rwa [HttpModule.identityOf, hsame.managers]
          · exact ⟨r.identity, hserved.identityOf, (hinv.requested r hr).2.1, hfree⟩
        barred := by
          intro p hp
          have hbarred := hinv.barred_of_request hr hp
          rwa [← hserved.retiredGenerations] at hbarred
        requested := by simp
        unstopped := by
          intro manager hmem
          have hmem' : manager ∈ (s.answer r).2.managers := hmem
          rcases hmanagers with hm | hm
          · exact hinv.unstopped manager (hm ▸ hmem')
          · rw [hm, List.mem_append, List.mem_singleton] at hmem'
            rcases hmem' with hold | rfl
            · exact hinv.unstopped manager hold
            · rfl }

/-- The event of an exact identity passes the test of every manager of the
position. -/
theorem eventMatches_of_known (hexact : managerGenerationFromEvent ctx = some identity)
    (hknown : Known s.hub.state s.owner ctx.streamKey identity)
    (hi : Known s.hub.state s.owner key i) (hposition : i.position = identity.position) :
    eventMatches ctx i = true := by
  have hnames := hi.names hknown hposition
  obtain ⟨-, rfl⟩ := managerGenerationFromEvent_eq_some.mp hexact
  obtain ⟨hid, hgeneration⟩ := Prod.mk.inj hposition
  simp only [eventMatches, hid, hgeneration, ne_eq, not_true_eq_false, and_false,
    if_false, Bool.or_eq_true, decide_eq_true_eq]
  tauto

theorem known_of_fits (hexact : managerGenerationFromEvent ctx = some identity)
    (hfits : s.fits ctx = true) :
    Known s.hub.state s.owner ctx.streamKey identity := by
  obtain ⟨⟨hid, hgeneration⟩, rfl⟩ := managerGenerationFromEvent_eq_some.mp hexact
  simp only [fits, hid, hgeneration, decide_false, Bool.false_or,
    Option.any_eq_true, Bool.and_eq_true, Bool.or_eq_true,
    decide_eq_true_eq] at hfits
  obtain ⟨inst, hget, ⟨hkey, hle⟩, hname⟩ := hfits
  exact ⟨inst, hget, hkey, hle, hname⟩

section Manager

variable (hinv : Inv s)

include hinv

theorem entries_removeMatching (hsame : HttpModule.SameManagers s.http m)
    (hlookup : ((m.removeMatching ctx).lookup kind).lookup key = some n) :
    ∃ i, (m.removeMatching ctx).identityOf n = some i ∧ Known s.hub.state s.owner key i ∧
      i.position ∉ s.stopped ∧ (key = ctx.streamKey → eventMatches ctx i = false) := by
  obtain ⟨hold, hmatches⟩ := lookup_removeMatching hlookup
  rw [hsame.lookup] at hold
  obtain ⟨i, hi, hknown, hnot⟩ := hinv.entries kind key n hold
  have hi' : m.identityOf n = some i := by
    rwa [HttpModule.identityOf, hsame.managers]
  refine ⟨i, hi', hknown, hnot, fun hkey => ?_⟩
  simpa [hi'] using hmatches hkey

/-- The tombstones after an exact publish-stop event bar its position and all
that were barred. -/
theorem barred_remember (hexact : managerGenerationFromEvent ctx = some identity)
    (hknown : Known s.hub.state s.owner ctx.streamKey identity) :
    ∀ p ∈ identity.position :: s.stopped, Barred s.hub.state
      (s.http.rememberRetiredGeneration (s.hub.state.findID ctx.streamKey)
        ctx).retiredGenerations p := by
  have ⟨inst, hget, hkey, _⟩ := hknown
  rcases remember_cases (s.hub.state.findID ctx.streamKey) hinv.notClosing hexact with
    ⟨hkept, hwhy⟩ | ⟨hnew, hfound, holder⟩
  · rw [hkept]
    intro p hp
    rcases List.mem_cons.mp hp with rfl | hold
    · rcases hwhy with hother | ⟨t, ht, hnewer | hposition⟩
      · exact ⟨inst, hget, .inr (.inr (.inl (hkey ▸ hother)))⟩
      · exact barred_of_newer hinv.root _ hknown (hinv.tombstones _ t ht) hnewer
      · exact ⟨inst, hget, .inr (.inr (.inr ⟨t, hkey ▸ ht, hposition⟩))⟩
    · exact hinv.barred p hold
  · rw [hnew]
    have hthere := AList.lookup_insert s.http.retiredGenerations
      (a := ctx.streamKey) (b := identity)
    intro p hp
    rcases List.mem_cons.mp hp with rfl | hold
    · exact ⟨inst, hget, .inr (.inr (.inr ⟨identity, hkey ▸ hthere, rfl⟩))⟩
    · refine (hinv.barred p hold).change fun key t ht hposition => ?_
      by_cases hsame : key = ctx.streamKey
      · subst hsame
        by_cases hequal : t.position = identity.position
        · exact .inl ⟨identity, hthere, hequal ▸ hposition⟩
        · exact .inr (hposition ▸ barred_of_newer hinv.root _ (hinv.tombstones _ t ht) hknown
            (newerThan_of_not_newerThan hequal (holder t ht)))
      · exact .inl ⟨t, by rw [AList.lookup_insert_ne hsame, ht], hposition⟩

theorem barred_handled (hfits : s.fits ctx = true) :
    ∀ p ∈ ((managerGenerationFromEvent ctx).map position).toList ++ s.stopped, Barred s.hub.state
        (s.http.rememberRetiredGeneration (s.hub.state.findID ctx.streamKey)
          ctx).retiredGenerations p := by
  cases hexact : managerGenerationFromEvent ctx with
  | none =>
    rw [remember_of_inexact hexact]
    exact hinv.barred
  | some identity =>
    exact hinv.barred_remember hexact (known_of_fits hexact hfits)

theorem tombstones_remember (hfits : s.fits ctx = true)
    (ht : (s.http.rememberRetiredGeneration (s.hub.state.findID ctx.streamKey)
      ctx).retiredGenerations.lookup key = some t) :
    Known s.hub.state s.owner key t := by
  cases hexact : managerGenerationFromEvent ctx with
  | none =>
    rw [remember_of_inexact hexact] at ht
    exact hinv.tombstones key t ht
  | some identity =>
    rcases remember_cases _ hinv.notClosing hexact with ⟨hkept, -⟩ | ⟨hnew, -⟩
    · exact hinv.tombstones key t (hkept ▸ ht)
    · rw [hnew] at ht
      by_cases hsame : key = ctx.streamKey
      · subst hsame
        rw [AList.lookup_insert, Option.some.injEq] at ht
        exact ht ▸ known_of_fits hexact hfits
      · rw [AList.lookup_insert_ne hsame] at ht
        exact hinv.tombstones key t ht

theorem publishStop (hstep : s.step (.publishStop ctx) = some s') : Inv s' := by
  obtain ⟨⟨hidle, hfits⟩, hresult⟩ := Option.ite_none_right_eq_some.mp hstep
  cases hresult
  have hsame := sameManagers_remember (s.hub.state.findID ctx.streamKey) ctx s.http
  exact
    { hinv with
      notClosing := hsame.managerClosing.trans hinv.notClosing
      tombstones := fun key t ht => hinv.tombstones_remember hfits ht
      entries := by
        intro kind key n hlookup
        obtain ⟨i, hi, hknown, hnot, hmatches⟩ := hinv.entries_removeMatching hsame hlookup
        refine ⟨i, hi, hknown, ?_⟩
        simp only [List.mem_append, not_or, Option.mem_toList, Option.map_eq_some_iff]
        refine ⟨?_, hnot⟩
        rintro ⟨identity, hexact, hposition⟩
        have hstopped := known_of_fits hexact hfits
        have hkey := hknown.key_eq hstopped hposition.symm
        have hthere := eventMatches_of_known hexact hstopped hknown hposition.symm
        simp [hmatches hkey] at hthere
      barred := hinv.barred_handled hfits
      requested := by simp [hidle]
      unstopped := by
        intro manager hmem
        exact hinv.unstopped manager (hsame.managers ▸ hmem) }

/-- A destroyed stream has left the hub, so its tombstone can go. -/
theorem barred_forget (hdestroyed : s.wasDestroyed ctx = true) (hp : p ∈ s.stopped) :
    Barred s.hub.state (s.http.forgetDestroyedGeneration ctx).retiredGenerations p := by
  have hevent := of_decide_eq_true hdestroyed
  obtain ⟨i, hi, -⟩ := hinv.root.departed _ hevent ctx.streamInstanceID rfl
  have hbarred := hinv.barred p hp
  rcases forget_cases ctx s.http with hkept | ⟨herase, t, ht, hzero | hid⟩
  · exact hkept.symm ▸ hbarred
  · omega
  · rw [herase]
    refine hbarred.change fun key t' ht' hposition => ?_
    by_cases hkey : key = ctx.streamKey
    · subst hkey
      obtain rfl := Option.mem_unique ht ht'
      obtain ⟨inst, hget, -⟩ := hinv.tombstones _ t ht
      have hgone := hinv.root.findID_ne_of_destroyed hevent rfl inst.stream.key
      rw [← hid] at hgone
      exact .inr (hposition ▸ ⟨inst, hget, .inr (.inr (.inl hgone))⟩)
    · exact .inl ⟨t', by rw [AList.lookup_erase_ne hkey, ht'], hposition⟩

theorem streamDestroy (hstep : s.step (.streamDestroy ctx) = some s') : Inv s' := by
  obtain ⟨⟨hidle, hdestroyed⟩, hresult⟩ := Option.ite_none_right_eq_some.mp hstep
  cases hresult
  have hsame := sameManagers_forget ctx s.http
  exact
    { hinv with
      notClosing := hsame.managerClosing.trans hinv.notClosing
      tombstones := by
        intro key t ht
        rcases forget_cases ctx s.http with hkept | ⟨herase, -⟩
        · exact hinv.tombstones key t (hkept ▸ ht)
        · exact hinv.tombstones key t (lookup_of_erase (herase ▸ ht)).2
      entries := by
        intro kind key n hlookup
        obtain ⟨i, hi, hknown, hnot, -⟩ := hinv.entries_removeMatching hsame hlookup
        exact ⟨i, hi, hknown, hnot⟩
      barred := fun p hp => hinv.barred_forget hdestroyed hp
      requested := by simp [hidle]
      unstopped := by
        intro manager hmem
        exact hinv.unstopped manager (hsame.managers ▸ hmem) }

theorem workerDone (hstep : s.step (.workerDone n) = some s') : Inv s' := by
  obtain ⟨-, hresult⟩ := Option.ite_none_right_eq_some.mp hstep
  cases hresult
  exact { hinv with }

theorem step (hcurrent : RequestsCurrent s a) (hstep : s.step a = some s') : Inv s' := by
  cases a with
  | hub a => exact hinv.hubStep hstep
  | beginRequest kind stream => exact hinv.beginRequest hcurrent hstep
  | finishRequest => exact hinv.finishRequest hstep
  | publishStop ctx => exact hinv.publishStop hstep
  | streamDestroy ctx => exact hinv.streamDestroy hstep
  | workerDone n => exact hinv.workerDone hstep

end Manager

end Inv

variable {acts : List HttpAction}

theorem inv_run {cfg : StreamConfig} {limits : LimitsConfig}
    (hcurrent : StepsMeet RequestsCurrent step (initial cfg limits) acts)
    (hrun : runFrom step (initial cfg limits) acts = some s) :
    Inv s := by
  have hstep : ∀ s a s', Inv s → RequestsCurrent s a → step s a = some s' → Inv s' :=
    fun _ _ _ hinv hcurrent hstep => hinv.step hcurrent hstep
  exact runFrom_invariant_of_stepsMeet hstep (inv_initial cfg limits) hcurrent hrun

/-! ## Handlers that have returned -/

theorem stopped_mono (hstep : s.step a = some s') (hp : p ∈ s.stopped) : p ∈ s'.stopped := by
  cases a with
  | hub a | finishRequest =>
    obtain ⟨_, -, rfl⟩ := Option.map_eq_some_iff.mp hstep
    exact hp
  | beginRequest kind stream =>
    obtain ⟨-, hresult⟩ := Option.ite_none_right_eq_some.mp hstep
    obtain ⟨_, -, rfl⟩ := Option.map_eq_some_iff.mp hresult
    exact hp
  | publishStop ctx =>
    obtain ⟨-, hresult⟩ := Option.ite_none_right_eq_some.mp hstep
    cases hresult
    exact List.mem_append_right _ hp
  | streamDestroy ctx | workerDone n =>
    obtain ⟨-, hresult⟩ := Option.ite_none_right_eq_some.mp hstep
    cases hresult
    exact hp

theorem mem_stopped_of_run (hrun : runFrom step s acts = some s')
    (hmem : HttpAction.publishStop ctx ∈ acts)
    (hexact : managerGenerationFromEvent ctx = some identity) :
    identity.position ∈ s'.stopped := by
  obtain ⟨before, after, rfl⟩ := List.append_of_mem hmem
  obtain ⟨s₁, -, hrest⟩ := runFrom_append_eq_some.mp hrun
  obtain ⟨s₂, hhandler, hafter⟩ := runFrom_cons_eq_some.mp hrest
  have hhandled : identity.position ∈ s₂.stopped := by
    obtain ⟨-, hresult⟩ := Option.ite_none_right_eq_some.mp hhandler
    cases hresult
    simp [hexact]
  have hkeep : ∀ s a s', identity.position ∈ s.stopped → step s a = some s' →
      identity.position ∈ s'.stopped :=
    fun _ _ _ hp hstep => stopped_mono hstep hp
  exact runFrom_invariant hkeep hhandled hafter

/-- The handler touches no manager and no worker, and takes only managers of its
own position out of the maps. -/
theorem publishStop_frame (hstep : s.step (.publishStop ctx) = some s') :
    s'.http.managers = s.http.managers ∧ s'.http.runningManagers = s.http.runningManagers ∧
    ∀ identity, managerGenerationFromEvent ctx = some identity → ∀ kind key n i,
    (s.http.lookup kind).lookup key = some n → s.http.identityOf n = some i →
    i.position ≠ identity.position → (s'.http.lookup kind).lookup key = some n := by
  obtain ⟨-, hresult⟩ := Option.ite_none_right_eq_some.mp hstep
  cases hresult
  have hsame := sameManagers_remember (s.hub.state.findID ctx.streamKey) ctx s.http
  refine ⟨hsame.managers, hsame.runningManagers, ?_⟩
  intro identity hexact kind key n i hlookup hi hother
  refine lookup_removeMatching_of_not (hsame.lookup ▸ hlookup) ?_
  rw [HttpModule.identityOf, hsame.managers]
  obtain ⟨⟨hid, hgeneration⟩, rfl⟩ := managerGenerationFromEvent_eq_some.mp hexact
  have hne : i.streamInstanceID = ctx.streamInstanceID →
      i.publisherGeneration ≠ ctx.publisherGeneration :=
    fun hid hgeneration => hother (Prod.ext hid hgeneration)
  rw [show Option.map _ _ = _ from hi, Option.any_some, eventMatches]
  split_ifs with hinstance hposition
  · rfl
  · rfl
  · exact absurd ⟨hgeneration, hne (by tauto)⟩ hposition

/-- In every interleaving in which requests start on streams the hub has: once
the publish-stop handler of a position has returned, no map has a manager of it
and no request that holds the lock gets one.  The handler stops no manager and
leaves the workers alone; of the maps it changes only the entries of its own
position.  No manager is ever stopped. -/
theorem managers_leave_with_generation
    (cfg : StreamConfig) (limits : LimitsConfig) (acts : List HttpAction) (s : HttpSystem)
    (hcurrent : StepsMeet RequestsCurrent step (initial cfg limits) acts)
    (hrun : runFrom step (initial cfg limits) acts = some s) :
    (∀ ctx identity, HttpAction.publishStop ctx ∈ acts →
      managerGenerationFromEvent ctx = some identity →
        (∀ kind key n i, (s.http.lookup kind).lookup key = some n →
          s.http.identityOf n = some i → i.position ≠ identity.position) ∧
        ∀ r n i, s.request = some r → (s.answer r).1 = some n →
          (s.answer r).2.identityOf n = some i → i.position ≠ identity.position) ∧
    (∀ ctx s', s.step (.publishStop ctx) = some s' → s'.http.managers = s.http.managers ∧
        s'.http.runningManagers = s.http.runningManagers ∧
        ∀ identity, managerGenerationFromEvent ctx = some identity →
          ∀ kind key n i, (s.http.lookup kind).lookup key = some n →
            s.http.identityOf n = some i → i.position ≠ identity.position →
              (s'.http.lookup kind).lookup key = some n) ∧
    ∀ manager ∈ s.http.managers, manager.stops = 0 := by
  have hinv := inv_run hcurrent hrun
  refine ⟨?_, fun ctx s' hstep => publishStop_frame hstep, hinv.unstopped⟩
  intro ctx identity hmem hexact
  have hstopped := mem_stopped_of_run hrun hmem hexact
  constructor
  · intro kind key n i hlookup hi hposition
    obtain ⟨i', hi', -, hnot⟩ := hinv.entries kind key n hlookup
    obtain rfl := Option.mem_unique hi hi'
    exact hnot (hposition ▸ hstopped)
  · intro r n i hr hanswer hi hposition
    have hserved := (getOrCreate_some hinv.notClosing hanswer).2.2
    obtain rfl := Option.mem_unique hserved.identityOf hi
    exact hinv.not_stopped_of_answer hr hanswer (hposition ▸ hstopped)

/-- A camera publishes to a new stream and a playlist is asked for. -/
def watched : List HttpAction :=
  [.hub (.call (.getOrCreate "live")), .hub (.run 0), .hub (.run 0),
    .hub (.call (.streamCall 0 (.setPublisher (some ⟨"cam", none, none⟩) 0))),
    .hub (.run 1), .beginRequest .hls 1, .finishRequest]

def cameraStopped : EventContext :=
  { streamKey := "live"
    streamInstanceID := 1
    publisherGeneration := 1
    publisherID := "cam" }

def unwatched : List HttpAction :=
  watched ++ [.hub (.call (.streamCall 0 (.removePublisherIf (some ⟨"cam", none, none⟩)))),
    .hub (.run 2), .publishStop cameraStopped]

/-- Another publisher takes over and its playlist is asked for. -/
def takenOver : List HttpAction :=
  unwatched ++ [.hub (.call (.streamCall 0 (.setPublisher (some ⟨"spare", none, none⟩) 0))),
    .hub (.run 3), .beginRequest .hls 1, .finishRequest]

theorem managers_leave_with_generation_takenOver :
    ∃ s, runFrom step (initial plainConfig ⟨0, 0, 0⟩) takenOver = some s ∧
      s.http.managers = [⟨⟨1, 1, "cam"⟩, 0⟩, ⟨⟨1, 2, "spare"⟩, 0⟩] ∧
      ∀ kind key n i, (s.http.lookup kind).lookup key = some n →
        s.http.identityOf n = some i → i.position ≠ (1, 1) :=
  ⟨_, rfl, by decide, ((managers_leave_with_generation plainConfig ⟨0, 0, 0⟩
    takenOver _ (by decide) rfl).1 cameraStopped ⟨1, 1, "cam"⟩ (by decide)
      rfl).1⟩

/-- The stream is removed from the hub and not yet closed when the publish-stop
event is handled, so no tombstone is left; a request that found the stream
before goes on. -/
def lateRequest : List HttpAction :=
  watched ++ [.hub (.call (.remove "live")), .hub (.run 2),
    .publishStop cameraStopped, .beginRequest .hls 1, .finishRequest]

/-- A manager that the publish-stop handler takes out of the maps is never
stopped, and a late request gets a manager of the ended generation. -/
theorem managers_not_stopped_or_late :
    (∃ s, runFrom step (initial plainConfig ⟨0, 0, 0⟩) unwatched = some s ∧
      (∀ kind, (s.http.lookup kind).lookup "live" = none) ∧
        s.http.managers = [⟨⟨1, 1, "cam"⟩, 0⟩]) ∧
    ∃ s, runFrom step (initial plainConfig ⟨0, 0, 0⟩) lateRequest = some s ∧
      (s.http.lookup .hls).lookup "live" = some 1 ∧ s.http.identityOf 1 = some ⟨1, 1, "cam"⟩ := by
  refine ⟨⟨_, rfl, ?_, by decide⟩, _, rfl, by decide, by decide⟩
  intro kind
  cases kind <;> decide

end HttpSystem

end LiveForge.HttpStream
