import LiveForge.Events.Bus
import LiveForge.HttpStream.Segmenter
import LiveForge.Hub.Departure

/-!
# Segment managers of the HTTP module

`module/httpstream/module.go` keeps one HLS, one DASH and one LL-HLS manager for
each stream key.  Requests look a manager up or create it for the publisher
generation they find; the publish-stop and stream-destroy handlers take managers
out of the maps and remember which generation has ended.

All of them hold `generationMu`, so they run one after the other.  What they read
of the hub and of the streams is not protected by it: a request takes the
startup snapshot first and asks for the state of the stream later, and the
stream can change in between.

`Close` of the module is left out, and so are the playlists themselves.
-/

namespace LiveForge.HttpStream

open LiveForge.Core Support

/-! ## Identities -/

structure ManagerGenerationIdentity where
  streamInstanceID : ℕ
  publisherGeneration : ℕ
  publisherID : String
  deriving DecidableEq

/-- Only an event that names the instance and the generation is exact. -/
def managerGenerationFromEvent (ctx : EventContext) : Option ManagerGenerationIdentity :=
  if ctx.streamInstanceID = 0 ∨ ctx.publisherGeneration = 0 then none
  else
    some ⟨ctx.streamInstanceID, ctx.publisherGeneration, ctx.publisherID⟩

def managerGenerationFromSnapshot (snapshot : StreamStartupSnapshot) :
    ManagerGenerationIdentity :=
  ⟨snapshot.streamInstanceID, snapshot.generation, snapshot.publisherID⟩

namespace ManagerGenerationIdentity

def samePosition (i other : ManagerGenerationIdentity) : Bool :=
  decide (i.streamInstanceID = other.streamInstanceID) &&
    decide (i.publisherGeneration = other.publisherGeneration)

/-- A snapshot taken after the publisher has left has no publisher ID. -/
def blocks (i other : ManagerGenerationIdentity) : Bool :=
  i.samePosition other &&
    (decide (i.publisherID = other.publisherID) || decide (i.publisherID = "") ||
      decide (other.publisherID = ""))

def newerThan (i other : ManagerGenerationIdentity) : Bool :=
  decide (other.streamInstanceID < i.streamInstanceID) ||
    decide (i.streamInstanceID = other.streamInstanceID) &&
      decide (other.publisherGeneration < i.publisherGeneration)

def position (i : ManagerGenerationIdentity) : ℕ × ℕ :=
  (i.streamInstanceID, i.publisherGeneration)

end ManagerGenerationIdentity

/-- The test of `retireManagersForLifecycle`. -/
def eventMatches (ctx : EventContext) (i : ManagerGenerationIdentity) : Bool :=
  if ctx.streamInstanceID ≠ 0 ∧ i.streamInstanceID ≠ ctx.streamInstanceID then
    false
  else if ctx.publisherGeneration ≠ 0 ∧
      i.publisherGeneration ≠ ctx.publisherGeneration then
    false
  else
    decide (ctx.publisherID = "") || decide (i.publisherID = "") ||
      decide (i.publisherID = ctx.publisherID)

/-! ## The module -/

/-- A manager; `stops` counts the calls of its `Stop`. -/
structure SegmentManager where
  identity : ManagerGenerationIdentity
  stops : ℕ := 0
  deriving DecidableEq

/-- Managers are objects: they live in the list `managers`, and the three maps,
one for each kind, hold their indices. -/
structure HttpModule where
  lookup : SegmenterKind → AList fun _ : String => ℕ := fun _ => ∅
  retiredGenerations : AList fun _ : String => ManagerGenerationIdentity := ∅
  managers : List SegmentManager := []
  runningManagers : List ℕ := []
  managerClosing : Bool := false

namespace HttpModule

def identityOf (m : HttpModule) (n : ℕ) : Option ManagerGenerationIdentity :=
  m.managers[n]?.map SegmentManager.identity

/-- `found` is the instance ID of the stream that the hub has for the key. -/
def rememberRetiredGeneration (found : Option ℕ) (ctx : EventContext)
    (m : HttpModule) : HttpModule :=
  match managerGenerationFromEvent ctx with
  | none => m
  | some identity =>
    let remembered := { m with
      retiredGenerations := m.retiredGenerations.insert ctx.streamKey identity }
    if m.managerClosing then m
    else if found ≠ some identity.streamInstanceID then m
    else
      match m.retiredGenerations.lookup ctx.streamKey with
      | none => remembered
      | some existing =>
        if existing.newerThan identity then m
        else if existing.samePosition identity ∧ existing.publisherID ≠ "" ∧
            existing.publisherID ≠ identity.publisherID then m
        else remembered

def forgetDestroyedGeneration (ctx : EventContext) (m : HttpModule) : HttpModule :=
  match m.retiredGenerations.lookup ctx.streamKey with
  | none => m
  | some retired =>
    if ctx.streamInstanceID = 0 ∨
        retired.streamInstanceID = ctx.streamInstanceID then
      { m with
        retiredGenerations := m.retiredGenerations.erase ctx.streamKey }
    else m

/-- Take matching managers out of the maps. -/
def removeMatching (ctx : EventContext) (m : HttpModule) : HttpModule :=
  { m with
    lookup := fun kind =>
      match (m.lookup kind).lookup ctx.streamKey with
      | none => m.lookup kind
      | some n =>
        if (m.identityOf n).any (eventMatches ctx) then
          (m.lookup kind).erase ctx.streamKey
        else m.lookup kind }

def retireManagersForLifecycle (found : Option ℕ) (ctx : EventContext)
    (rememberGeneration : Bool) (m : HttpModule) : HttpModule :=
  if rememberGeneration then
    (m.rememberRetiredGeneration found ctx).removeMatching ctx
  else (m.forgetDestroyedGeneration ctx).removeMatching ctx

def onPublishStop (found : Option ℕ) (ctx : EventContext) (m : HttpModule) : HttpModule :=
  m.retireManagersForLifecycle found ctx true

def onStreamDestroy (ctx : EventContext) (m : HttpModule) : HttpModule :=
  m.retireManagersForLifecycle none ctx false

/-- A newer generation makes the entry of an older one superfluous. -/
def generationWasRetired (streamKey : String) (identity : ManagerGenerationIdentity)
    (m : HttpModule) : Bool × HttpModule :=
  match m.retiredGenerations.lookup streamKey with
  | none => (false, m)
  | some retired =>
    if retired.blocks identity then (true, m)
    else if identity.newerThan retired then
      (false, { m with
        retiredGenerations := m.retiredGenerations.erase streamKey })
    else (false, m)

def stop (n : ℕ) (m : HttpModule) : HttpModule :=
  { m with
    managers := m.managers.modify n fun manager =>
      { manager with stops := manager.stops + 1 } }

/-- Start the worker of a manager, unless the module is closing. -/
def startManager (n : ℕ) (m : HttpModule) : Bool × HttpModule :=
  if m.managerClosing then (false, m.stop n)
  else (true, { m with runningManagers := n :: m.runningManagers })

def setLookup (kind : SegmenterKind) (managers : AList fun _ : String => ℕ)
    (m : HttpModule) : HttpModule :=
  { m with lookup := Function.update m.lookup kind managers }

def create (kind : SegmenterKind) (streamKey : String) (identity : ManagerGenerationIdentity)
    (m : HttpModule) : ℕ × HttpModule :=
  let n := m.managers.length
  let started := startManager n { m with managers := m.managers ++ [⟨identity, 0⟩] }
  if started.1 then
    (n, started.2.setLookup kind ((started.2.lookup kind).insert streamKey n))
  else (n, started.2)

/-- The body that the three kinds share, from the state check on. -/
def getOrCreate (kind : SegmenterKind) (streamKey : String) (identity : ManagerGenerationIdentity)
    (publishing : Bool) (m : HttpModule) : Option ℕ × HttpModule :=
  if publishing = false then (none, m)
  else
    let checked := m.generationWasRetired streamKey identity
    if checked.1 then (none, checked.2)
    else
      match (checked.2.lookup kind).lookup streamKey with
      | none => (checked.2.create kind streamKey identity).map some id
      | some n =>
        if checked.2.identityOf n = some identity then (some n, checked.2)
        else
          ((checked.2.setLookup kind
            ((checked.2.lookup kind).erase streamKey)).create kind streamKey identity).map some id

def getOrCreateHLS := getOrCreate .hls

def getOrCreateDASH := getOrCreate .dash

def getOrCreateLLHLS := getOrCreate .llhls

end HttpModule

/-! ## Requests and handlers next to the hub -/

/-- A request that holds `generationMu` and has taken its snapshot of the stream
with this instance ID. -/
structure ManagerRequest where
  kind : SegmenterKind
  streamKey : String
  stream : ℕ
  identity : ManagerGenerationIdentity

/-- Two fields record the past: `owner` names the publisher of each generation
of each instance, and `stopped` lists the positions whose publish-stop handler
has returned. -/
structure HttpSystem where
  hub : HubSystem
  http : HttpModule := {}
  request : Option ManagerRequest := none
  owner : ℕ → ℕ → String := fun _ _ => ""
  stopped : List (ℕ × ℕ) := []

inductive HttpAction where
  | hub (a : ThreadAction HubCall)
  | beginRequest (kind : SegmenterKind) (stream : ℕ)
  | finishRequest
  | publishStop (ctx : EventContext)
  | streamDestroy (ctx : EventContext)
  | workerDone (n : ℕ)
  deriving DecidableEq

/-- The publishers of the current generations are added to the record. -/
def ownersAfter (h : StreamHub) (owner : ℕ → ℕ → String) (id generation : ℕ) : String :=
  match h.withID id with
  | none => owner id generation
  | some inst =>
    if inst.stream.publisherGeneration = generation then
      (inst.stream.publisher.map Publisher.id).getD (owner id generation)
    else owner id generation

namespace HttpSystem

def initial (cfg : StreamConfig) (limits : LimitsConfig) : HttpSystem :=
  { hub := HubSystem.initial cfg limits }

def isPublishing (s : HttpSystem) (stream : ℕ) : Bool :=
  (s.hub.state.withID stream).any fun inst =>
    decide (inst.stream.state = .publishing)

def answer (s : HttpSystem) (r : ManagerRequest) : Option ℕ × HttpModule :=
  s.http.getOrCreate r.kind r.streamKey r.identity (s.isPublishing r.stream)

/-- An exact publish-stop event is about a generation that the stream has had,
and if it names a publisher then that generation's. -/
def fits (s : HttpSystem) (ctx : EventContext) : Bool :=
  decide (ctx.streamInstanceID = 0) || decide (ctx.publisherGeneration = 0) ||
    (s.hub.state.withID ctx.streamInstanceID).any fun inst =>
      decide (inst.stream.key = ctx.streamKey) &&
        decide (ctx.publisherGeneration ≤ inst.stream.publisherGeneration) &&
          (decide (ctx.publisherID = "") || decide (ctx.publisherID =
              s.owner ctx.streamInstanceID ctx.publisherGeneration))

def wasDestroyed (s : HttpSystem) (ctx : EventContext) : Bool :=
  decide (.streamDestroy ctx.streamKey ctx.streamInstanceID
    ctx.publisherGeneration ctx.publisherID ∈ s.hub.state.emitted)

/-- A handler or a request starts only when nobody holds `generationMu`. -/
def step (s : HttpSystem) : HttpAction → Option HttpSystem
  | .hub a =>
    (HubSystem.step s.hub a).map fun hub =>
      { s with hub := hub, owner := ownersAfter hub.state s.owner }
  | .beginRequest kind stream =>
    if s.request = none then
      (s.hub.state.withID stream).map fun inst =>
        { s with
          request := some ⟨kind, inst.stream.key, stream,
            managerGenerationFromSnapshot inst.stream.startupSnapshot⟩ }
    else none
  | .finishRequest =>
    s.request.map fun r =>
      { s with http := (s.answer r).2, request := none }
  | .publishStop ctx =>
    if s.request = none ∧ s.fits ctx then
      some { s with
        http := s.http.onPublishStop (s.hub.state.findID ctx.streamKey) ctx
        stopped :=
          ((managerGenerationFromEvent ctx).map
            ManagerGenerationIdentity.position).toList ++ s.stopped }
    else none
  | .streamDestroy ctx =>
    if s.request = none ∧ s.wasDestroyed ctx then
      some { s with http := s.http.onStreamDestroy ctx }
    else none
  | .workerDone n =>
    if n ∈ s.http.runningManagers then
      some { s with http := { s.http with
        runningManagers := s.http.runningManagers.erase n } }
    else none

end HttpSystem

end LiveForge.HttpStream
