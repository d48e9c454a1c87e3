import LiveForge.Support.PointerTable
import LiveForge.Support.Threads

/-!
# The event bus

`core/event_bus.go` dispatches events to asynchronous hooks.  Start and stop
events of a client go through lanes, one for each consumer: a lane is a bounded
queue that one goroutine drains.  Any other event starts a goroutine for each
hook.

`EmitAsync` decides and enqueues under `asyncMu`, so it is one task.  The
goroutine of a lane is a sequence of tasks: take a dispatch under the lock, run
the handler, account for it, and after a stop event allow the lane to close.

The registered hooks are fixed; `hooks` lists those of each event by priority.
-/

namespace LiveForge.Core

open Support

/-! ## Events and hooks -/

inductive EventType where
  | streamCreate
  | streamDestroy
  | publish
  | publishStop
  | republish
  | subscribe
  | subscribeStop
  | publishAlive
  | subscribeAlive
  | streamAlive
  | videoKeyframe
  | audioHeader
  | forwardStart
  | forwardStop
  | originPullStart
  | originPullStop
  | subscriberSkip
  deriving DecidableEq

inductive HookMode where
  | sync
  | async
  deriving DecidableEq

/-- `handler` names the function. -/
structure HookRegistration where
  event : EventType
  mode : HookMode
  priority : ℤ
  consumer : String
  handler : ℕ
  deriving DecidableEq

/-- The fields of the context that the bus reads, and those it passes on. -/
structure EventContext where
  streamKey : String
  streamInstanceID : ℕ := 0
  publisherGeneration : ℕ := 0
  publisherID : String := ""
  subscriberID : String := ""
  protocol : String := ""
  remoteAddr : String := ""
  deriving DecidableEq

/-- How a handler ends.  `runAsyncHook` ignores errors and recovers panics. -/
inductive HandlerResult where
  | ok
  | failed
  | panicked

def maxLifecycleQueueDepth : ℕ := 8

def maxLifecycleLanes : ℕ := 4096

def maxAsyncDispatches : ℕ := 1024

/-! ## State -/

structure LaneKey where
  streamKey : String
  clientID : String
  publish : Bool
  consumer : String
  deriving DecidableEq

structure Dispatch where
  ctx : Option EventContext
  hook : HookRegistration
  terminal : Bool
  deriving DecidableEq

structure Lane where
  queue : List Dispatch
  running : Bool
  closeWhenEmpty : Bool

abbrev Lanes := PointerTable LaneKey Lane

/-- `asyncIdle` tells whether the drain channel is closed.  The last four
fields record history: the lifecycle events accepted, their dispatches in the
order of acceptance, and the handlers started and finished. -/
structure EventBus where
  lifecycleLanes : Lanes
  asyncRejected : ℕ
  pendingAsync : ℤ
  asyncIdle : Bool
  lifecycle : List (EventType × LaneKey)
  accepted : List (LaneKey × Dispatch)
  started : List (LaneKey × Dispatch)
  finished : List (LaneKey × Dispatch × HandlerResult)

def newEventBus : EventBus :=
  { lifecycleLanes := PointerTable.empty
    asyncRejected := 0
    pendingAsync := 0
    asyncIdle := true
    lifecycle := []
    accepted := []
    started := []
    finished := [] }

/-- The tasks of `EmitAsync`, of the goroutine of a lane, and of a goroutine
that runs a single hook. -/
inductive BusTask where
  | emitAsync (event : EventType) (ctx : Option EventContext)
  | laneTop (key : LaneKey) (lane : ℕ)
  | runHook (key : LaneKey) (lane : ℕ) (dispatch : Dispatch)
  | completeAsync (key : LaneKey) (lane : ℕ) (dispatch : Dispatch)
  | markTerminal (key : LaneKey) (lane : ℕ)
  | runSingle (dispatch : Dispatch)
  | completeSingle (dispatch : Dispatch)

/-! ## Classification of events -/

def eventLifecycleKey (event : EventType) (ctx : Option EventContext) : Option LaneKey :=
  match ctx with
  | none => none
  | some ctx =>
    if ctx.streamKey = "" then none
    else
      match event with
      | .publish | .publishStop =>
        if ctx.publisherID = "" then none
        else some ⟨ctx.streamKey, ctx.publisherID, true, ""⟩
      | .subscribe | .subscribeStop =>
        if ctx.subscriberID = "" then none
        else some ⟨ctx.streamKey, ctx.subscriberID, false, ""⟩
      | _ => none

/-- The stop event that a start event reserves room for. -/
def terminalEvent : EventType → Option EventType
  | .publish => some .publishStop
  | .subscribe => some .subscribeStop
  | _ => none

def isTerminal (event : EventType) : Bool :=
  event == .publishStop || event == .subscribeStop

def asyncHooks (hooks : List HookRegistration) : List HookRegistration :=
  hooks.filter fun hook => hook.mode == .async

section Hooks

variable (hooks : EventType → List HookRegistration)

def terminalHooks (event : EventType) : List HookRegistration :=
  match terminalEvent event with
  | none => []
  | some terminal => asyncHooks (hooks terminal)

/-- `terminalConsumerCounts` of an event, read at one consumer. -/
def terminalCount (event : EventType) (consumer : String) : ℕ :=
  (terminalHooks hooks event).countP fun hook => hook.consumer == consumer

/-- How many dispatches of an event go to the lane of a consumer. -/
def dispatchCount (event : EventType) (consumer : String) : ℕ :=
  (asyncHooks (hooks event)).countP fun hook => hook.consumer == consumer

/-- The consumers whose lanes an event needs. -/
def laneConsumers (event : EventType) : List String :=
  ((asyncHooks (hooks event)).map HookRegistration.consumer ++
    (terminalHooks hooks event).map HookRegistration.consumer).dedup

end Hooks

/-! ## Lanes -/

def LaneKey.forConsumer (base : LaneKey) (consumer : String) : LaneKey :=
  { base with consumer := consumer }

/-- What `enqueueLifecycle` needs to know about one consumer. -/
structure LaneDemand where
  count : ℕ
  terminalCount : ℕ
  terminal : Bool

namespace LaneDemand

def holdOpen (d : LaneDemand) : Bool := decide (0 < d.terminalCount)

/-- The queue has room for the dispatches and, for a start event, for the stop
event as well. -/
def fits (d : LaneDemand) (queueLength : ℕ) : Bool :=
  decide (queueLength + d.count + d.terminalCount ≤ maxLifecycleQueueDepth)

def newLane (d : LaneDemand) : Lane :=
  { queue := []
    running := decide (0 < d.count)
    closeWhenEmpty := d.terminal || !d.holdOpen }

def reopen (d : LaneDemand) (lane : Lane) : Lane :=
  { lane with
    running := lane.running || decide (0 < d.count)
    closeWhenEmpty :=
      if !d.terminal && d.holdOpen then false else lane.closeWhenEmpty }

end LaneDemand

def laneDemand (hooks : EventType → List HookRegistration) (event : EventType)
    (consumer : String) : LaneDemand :=
  { count := dispatchCount hooks event consumer
    terminalCount := terminalCount hooks event consumer
    terminal := isTerminal event }

def queueLength (lanes : Lanes) (key : LaneKey) : ℕ :=
  match lanes.get? key with
  | none => 0
  | some lane => lane.queue.length

/-- Create the lane or prepare the existing one; the pointer is returned when a
goroutine has to be started for it. -/
def openLane (key : LaneKey) (demand : LaneDemand) (lanes : Lanes) : Lanes × Option ℕ :=
  match lanes.pointer? key with
  | none =>
    (lanes.insertNew key demand.newLane,
      if 0 < demand.count then some lanes.cells.length else none)
  | some p =>
    let idle : Bool :=
      match lanes.cells[p]? with
      | none => false
      | some lane => !lane.running
    (lanes.modify p demand.reopen,
      if 0 < demand.count ∧ idle then some p else none)

/-- Open the lanes of all consumers and start the goroutines they need. -/
def openLanes (base : LaneKey) (demand : String → LaneDemand) :
    List String → Lanes → Lanes × List (List BusTask)
  | [], lanes => (lanes, [])
  | consumer :: consumers, lanes =>
    let key := base.forConsumer consumer
    let opened := openLane key (demand consumer) lanes
    let rest := openLanes base demand consumers opened.1
    (rest.1,
      match opened.2 with
      | none => rest.2
      | some p => [.laneTop key p] :: rest.2)

def enqueue (key : LaneKey) (dispatch : Dispatch) (lanes : Lanes) : Lanes :=
  match lanes.pointer? key with
  | none => lanes
  | some p =>
    lanes.modify p fun lane => { lane with queue := lane.queue ++ [dispatch] }

def enqueueAll (entries : List (LaneKey × Dispatch)) (lanes : Lanes) : Lanes :=
  entries.foldl (fun lanes entry => enqueue entry.1 entry.2 lanes) lanes

namespace EventBus

/-! ## Pending accounting -/

def beginAsync (count : ℕ) (b : EventBus) : EventBus :=
  if count = 0 then b
  else
    { b with
      asyncIdle := if b.pendingAsync = 0 then false else b.asyncIdle
      pendingAsync := b.pendingAsync + count }

def completeAsync (b : EventBus) : EventBus :=
  { b with
    pendingAsync := b.pendingAsync - 1
    asyncIdle := if b.pendingAsync - 1 = 0 then true else b.asyncIdle }

/-! ## Emission -/

section Emit

variable (hooks : EventType → List HookRegistration)

/-- The dispatches of an event with their lanes, in hook order. -/
def dispatches (event : EventType) (base : LaneKey)
    (ctx : Option EventContext) : List (LaneKey × Dispatch) :=
  (asyncHooks (hooks event)).map fun hook =>
    (base.forConsumer hook.consumer, ⟨ctx, hook, isTerminal event⟩)

def newLanes (event : EventType) (base : LaneKey) (b : EventBus) : ℕ :=
  (laneConsumers hooks event).countP fun consumer =>
    (b.lifecycleLanes.pointer? (base.forConsumer consumer)).isNone

/-- Every queue has room, and the table has room for the new lanes. -/
def hasRoom (event : EventType) (base : LaneKey) (b : EventBus) : Bool :=
  (laneConsumers hooks event).all (fun consumer =>
    (laneDemand hooks event consumer).fits
      (queueLength b.lifecycleLanes (base.forConsumer consumer))) &&
  decide (b.lifecycleLanes.size + newLanes hooks event base b ≤ maxLifecycleLanes)

def reject (b : EventBus) : EventBus :=
  { b with asyncRejected := b.asyncRejected + 1 }

/-- The result of `EmitAsync`: the error, and the goroutines started. -/
abbrev EmitResult := Option String × EventBus × List (List BusTask)

def errAsyncBackpressure : String :=
  "event bus async lifecycle capacity exceeded"

def enqueueLifecycle (event : EventType) (base : LaneKey)
    (ctx : Option EventContext) (b : EventBus) : EmitResult :=
  if hasRoom hooks event base b then
    let opened := openLanes base (laneDemand hooks event)
      (laneConsumers hooks event) b.lifecycleLanes
    let entries := dispatches hooks event base ctx
    (none, beginAsync entries.length
        { b with
          lifecycleLanes := enqueueAll entries opened.1
          lifecycle := b.lifecycle ++ [(event, base)]
          accepted := b.accepted ++ entries },
      opened.2)
  else (some errAsyncBackpressure, b.reject, [])

def emitAsync (event : EventType) (ctx : Option EventContext) (b : EventBus) : EmitResult :=
  let async := asyncHooks (hooks event)
  match eventLifecycleKey event ctx with
  | some base =>
    if async ≠ [] ∨ terminalHooks hooks event ≠ [] then
      enqueueLifecycle hooks event base ctx b
    else (none, { b with lifecycle := b.lifecycle ++ [(event, base)] }, [])
  | none =>
    if async = [] then (none, b, [])
    else if maxAsyncDispatches < b.pendingAsync + async.length then
      (some errAsyncBackpressure, b.reject, [])
    else
      (none, b.beginAsync async.length, async.map fun hook => [.runSingle ⟨ctx, hook, false⟩])

end Emit

/-! ## The goroutine of a lane -/

/-- One turn of `runLifecycleLane` under the lock. -/
def laneTop (key : LaneKey) (p : ℕ) (b : EventBus) : Option (EventBus × List BusTask) :=
  match b.lifecycleLanes.cells[p]? with
  | none => none
  | some lane =>
    match lane.queue with
    | [] =>
      let stopped := b.lifecycleLanes.modify p fun lane =>
        { lane with running := false }
      let remaining :=
        if lane.closeWhenEmpty ∧ stopped.pointer? key = some p then
          stopped.erase key
        else stopped
      some ({ b with lifecycleLanes := remaining }, [])
    | dispatch :: queue =>
      some ({ b with
        lifecycleLanes := b.lifecycleLanes.modify p fun lane =>
          { lane with queue := queue }
        started := b.started ++ [(key, dispatch)] },
        [.runHook key p dispatch])

variable (hooks : EventType → List HookRegistration) (results : ℕ → HandlerResult)

/-- Execute one task.  `results n` is how the handler that finishes as the
`n`-th one ends. -/
def exec (b : EventBus) : BusTask → Option (Outcome EventBus BusTask)
  | .emitAsync event ctx =>
    let result := emitAsync hooks event ctx b
    some ⟨result.2.1, [], result.2.2⟩
  | .laneTop key p =>
    (b.laneTop key p).map fun result => ⟨result.1, result.2, []⟩
  | .runHook key p dispatch =>
    some ⟨{ b with
      finished := b.finished ++
        [(key, dispatch, results b.finished.length)] },
      [.completeAsync key p dispatch], []⟩
  | .completeAsync key p dispatch =>
    some ⟨b.completeAsync,
      if dispatch.terminal then [.markTerminal key p] else [.laneTop key p],
      []⟩
  | .markTerminal key p =>
    some ⟨{ b with
      lifecycleLanes := b.lifecycleLanes.modify p fun lane =>
        { lane with closeWhenEmpty := true } },
      [.laneTop key p], []⟩
  | .runSingle dispatch => some ⟨b, [.completeSingle dispatch], []⟩
  | .completeSingle _ => some ⟨b.completeAsync, [], []⟩

end EventBus

structure EmitCall where
  event : EventType
  ctx : Option EventContext

def EmitCall.tasks (c : EmitCall) : List BusTask := [.emitAsync c.event c.ctx]

/-- A bus together with the goroutines inside it. -/
abbrev BusSystem := Threaded EventBus BusTask

namespace BusSystem

def initial : BusSystem := ⟨newEventBus, []⟩

def step (hooks : EventType → List HookRegistration) (results : ℕ → HandlerResult) : BusSystem →
    ThreadAction EmitCall → Option BusSystem :=
  Threaded.step EmitCall.tasks (EventBus.exec hooks results)

end BusSystem

end LiveForge.Core
