import LiveForge.Stream.State
import LiveForge.Support.Run

/-!
# Runs of a stream

A run is a list of actions, one for each locked method body: calls of any
number of goroutines in the order in which they got the locks, and timers that
expire and whose callbacks run at any later time.

A trace pairs the stream with two records of its history that no method reads:
every frame that was accepted, with the publisher and the ring position, and
every generation that was started.
-/

namespace LiveForge.Core

open Support LiveForge.Ring GenerationState LiveForge.Core.Stream

/-- A frame accepted by `WriteFrameForPublisher`; `position` is the write
cursor it was stored at. -/
structure WriteRecord where
  publisher : Publisher
  position : ℕ
  frame : AVFrame

/-- An accepted `SetPublisher`; `boundary` is the object its snapshots hold. -/
structure Installed where
  publisher : Publisher
  generation : ℕ
  start : ℕ
  boundary : Option ℕ
  deriving DecidableEq

structure StreamTrace where
  stream : Stream
  written : List WriteRecord
  installed : List Installed

inductive StreamAction where
  | setPublisher (pub : Option Publisher) (now : ℤ)
  | writeFrameForPublisher (pub : Option Publisher) (clock : RateState.Clock)
      (frame : Option AVFrame)
  | updatePolicy (cfg : StreamConfig) (limits : LimitsConfig)
  | resetSimulcastVideo
  | removePublisher
  | removePublisherIf (pub : Option Publisher)
  | close
  | discardFailedAdmission (publisherID : String)
  | timerExpires (timer : Timer)
  | timerCallback (timer : Timer)
  | addSubscriber (protocol : String)
  | addSubscriberForGeneration (protocol : String) (generation : ℕ)
  | removeSubscriber (protocol : String)
  | removeSubscriberForGeneration (protocol : String) (generation : ℕ)
  deriving DecidableEq

def StreamAction.publishers : StreamAction → List Publisher
  | .setPublisher pub _ => pub.toList
  | .writeFrameForPublisher pub _ _ => pub.toList
  | .removePublisherIf pub => pub.toList
  | _ => []

namespace StreamTrace

def initial (key : String) (instanceID : ℕ) (cfg : StreamConfig)
    (limits : LimitsConfig) : StreamTrace :=
  { stream := newStream key instanceID cfg limits
    written := []
    installed := [] }

def withStream (t : StreamTrace) (s : Stream) : StreamTrace :=
  { t with stream := s }

def setPublisher (pub : Option Publisher) (now : ℤ) (t : StreamTrace) : StreamTrace :=
  match pub, t.stream.setPublisher pub now with
  | some pub, .ok s =>
    { t with
      stream := s
      installed := t.installed ++
        [{ publisher := pub
           generation := s.publisherGeneration
           start := s.generationStartCursor
           boundary := s.generationBoundary }] }
  | _, _ => t

def writeFrameForPublisher (pub : Option Publisher) (clock : RateState.Clock)
    (frame : Option AVFrame) (t : StreamTrace) : StreamTrace :=
  match pub, frame, t.stream.writeFrameForPublisher pub clock frame with
  | some pub, some frame, (true, s) =>
    { t with
      stream := s
      written := t.written ++
        [{ publisher := pub
           position := t.stream.writeCursor
           frame := t.stream.toStartupState.published frame }] }
  | _, _, (_, s) => t.withStream s

/-- A call that returns an error leaves the stream as it was. -/
def orUnchanged (t : StreamTrace) : Except String Stream → StreamTrace
  | .ok s => t.withStream s
  | .error _ => t

def step (t : StreamTrace) : StreamAction → Option StreamTrace
  | .setPublisher pub now => some (t.setPublisher pub now)
  | .writeFrameForPublisher pub clock frame =>
    some (t.writeFrameForPublisher pub clock frame)
  | .updatePolicy cfg limits =>
    some (t.withStream (t.stream.updatePolicy cfg limits))
  | .resetSimulcastVideo => some (t.withStream t.stream.resetSimulcastVideo)
  | .removePublisher => some (t.withStream t.stream.removePublisherLocked)
  | .removePublisherIf pub =>
    some (t.withStream (t.stream.removePublisherIf pub).2)
  | .close => some (t.withStream t.stream.close)
  | .discardFailedAdmission publisherID =>
    some (t.withStream (t.stream.discardFailedAdmission publisherID).2)
  | .timerExpires timer =>
    if timer ∈ t.stream.scheduled then
      some (t.withStream { t.stream with
        scheduled := t.stream.scheduled.erase timer
        expired := t.stream.expired ++ [timer] })
    else none
  | .timerCallback timer =>
    if timer ∈ t.stream.expired then
      some (t.withStream
        (Stream.timerCallback timer.kind { t.stream with
          expired := t.stream.expired.erase timer }).2)
    else none
  | .addSubscriber protocol =>
    some (t.orUnchanged (t.stream.addSubscriber protocol))
  | .addSubscriberForGeneration protocol generation =>
    some (t.orUnchanged (t.stream.addSubscriberForGeneration protocol generation))
  | .removeSubscriber protocol =>
    some (t.withStream (t.stream.removeSubscriber protocol))
  | .removeSubscriberForGeneration protocol generation =>
    some (t.withStream (t.stream.removeSubscriberForGeneration protocol generation))

def log (t : StreamTrace) : List AVFrame := t.written.map WriteRecord.frame

/-- The media frames written at ring positions `start` to before `stop`. -/
def mediaAt (t : StreamTrace) (start stop : ℕ) : List AVFrame :=
  ((t.written.filter fun w =>
    decide (start ≤ w.position) && decide (w.position < stop)).map
      WriteRecord.frame).filter AVFrame.isMedia

def endOf (t : StreamTrace) (g : Installed) : Option ℕ :=
  t.stream.generationEndCursor g.boundary

end StreamTrace

/-! ## What one action can do

Generations, ring, cache and history change together in few ways.  Everything
below derives from this list. -/

/-- The cache still holds what it held, or less. -/
def GopKept (s s' : Stream) : Prop :=
  ∀ log, s.toGopState.HoldsOf log → s'.toGopState.HoldsOf log

inductive Effect (a : StreamAction) (t t' : StreamTrace) : Prop where
  | quiet
      (generations : t'.stream.toGenerationState = t.stream.toGenerationState)
      (ring : t'.stream.ringBuffer = t.stream.ringBuffer)
      (written : t'.written = t.written)
      (installed : t'.installed = t.installed)
      (gop : GopKept t.stream t'.stream)
  | install (pub : Publisher) (now : ℤ)
      (called : a = .setPublisher (some pub) now)
      (vacant : t.stream.state ≠ .publishing ∧ t.stream.state ≠ .destroying)
      (fresh : t.stream.idUsed pub.id = false)
      (generations : t'.stream.toGenerationState =
        t.stream.toGenerationState.install pub t.stream.writeCursor)
      (ring : t'.stream.ringBuffer = t.stream.ringBuffer)
      (written : t'.written = t.written)
      (installed : t'.installed = t.installed ++
        [{ publisher := pub
           generation := t.stream.publisherGeneration + 1
           start := t.stream.writeCursor
           boundary := some t.stream.boundaries.length }])
      (gop : GopKept t.stream t'.stream)
  | write (pub : Publisher) (frame : AVFrame)
      (called : a.publishers = [pub])
      (owner : t.stream.publisherMatches (some pub) = true)
      (generations : t'.stream.toGenerationState = t.stream.toGenerationState)
      (ring : t'.stream.ringBuffer = t.stream.ringBuffer.write (some frame))
      (written : t'.written = t.written ++
        [{ publisher := pub
           position := t.stream.writeCursor
           frame := frame }])
      (installed : t'.installed = t.installed)
      (gop : t'.stream.toGopState = t.stream.toGopState.writeFrame t.stream.config frame
          t.stream.writeCursor)
  | detach
      (alive : t.stream.state ≠ .destroying)
      (generations : t'.stream.toGenerationState =
        t.stream.toGenerationState.detach t.stream.writeCursor)
      (ring : t'.stream.ringBuffer = t.stream.ringBuffer)
      (written : t'.written = t.written)
      (installed : t'.installed = t.installed)
      (gop : GopKept t.stream t'.stream)
  | retire
      (alive : t.stream.state ≠ .destroying)
      (generations : t'.stream.toGenerationState =
        t.stream.toGenerationState.retire t.stream.writeCursor)
      (ring : t'.stream.ringBuffer = t.stream.ringBuffer ∨
        t'.stream.ringBuffer = t.stream.ringBuffer.close)
      (written : t'.written = t.written)
      (installed : t'.installed = t.installed)
      (gop : GopKept t.stream t'.stream)
  | expire
      (vacant : t.stream.state = .noPublisher ∨ t.stream.publisher = none)
      (generations : t'.stream.toGenerationState = t.stream.toGenerationState.expire)
      (ring : t'.stream.ringBuffer = t.stream.ringBuffer)
      (written : t'.written = t.written)
      (installed : t'.installed = t.installed)
      (gop : GopKept t.stream t'.stream)
  | closeRing
      (dead : t.stream.state = .destroying)
      (generations : t'.stream.toGenerationState = t.stream.toGenerationState)
      (ring : t'.stream.ringBuffer = t.stream.ringBuffer.close)
      (written : t'.written = t.written)
      (installed : t'.installed = t.installed)
      (gop : GopKept t.stream t'.stream)

theorem GenerationState.closeGeneration_boundaries_length (writeCursor : ℕ) (g : GenerationState) :
    (g.closeGeneration writeCursor).boundaries.length = g.boundaries.length := by
  unfold closeGeneration
  split <;> simp

theorem GenerationState.closeGeneration_publisherGeneration (writeCursor : ℕ)
    (g : GenerationState) :
    (g.closeGeneration writeCursor).publisherGeneration = g.publisherGeneration := by
  unfold closeGeneration
  split <;> rfl

namespace StreamTrace

/-- No method changes the key or the instance ID. -/
def SameIdentity (s s' : Stream) : Prop :=
  s'.key = s.key ∧ s'.instanceID = s.instanceID

end StreamTrace

/-- What a method can do to policy and cache. -/
def Moved (s s' : Stream) : Prop :=
  s'.config = s.config ∧ (s'.toGopState = s.toGopState ∨ s'.toGopState = s.toGopState.reset ∨
    ∃ frame, s'.toGopState = s.toGopState.writeFrame s.config frame s.writeCursor) ∨
  s'.toGopState = s.toGopState.updatePolicy s'.config

namespace StreamTrace

structure Taken (a : StreamAction) (t t' : StreamTrace) : Prop where
  effect : Effect a t t'
  identity : SameIdentity t.stream t'.stream
  cache : Moved t.stream t'.stream

variable {protocol : String} {t t' : StreamTrace} {a : StreamAction} {s : Stream}

/-- Cache, policy and identity are as before. -/
structure Alike (s s' : Stream) : Prop where
  gop : s'.toGopState = s.toGopState
  config : s'.config = s.config
  identity : SameIdentity s s'

theorem Alike.refl (s : Stream) : Alike s s := ⟨rfl, rfl, rfl, rfl⟩

theorem Alike.taken (h : Alike t.stream t'.stream)
    (heffect : GopKept t.stream t'.stream → Effect a t t') :
    Taken a t t' :=
  ⟨heffect fun _ hlog => h.gop.symm ▸ hlog, h.identity, .inl ⟨h.config, .inl h.gop⟩⟩

theorem Alike.quiet (h : Alike t.stream s)
    (hgenerations : s.toGenerationState = t.stream.toGenerationState)
    (hring : s.ringBuffer = t.stream.ringBuffer) :
    Taken a t (t.withStream s) :=
  h.taken (.quiet hgenerations hring rfl rfl)

open Alike

theorem taken_self (a : StreamAction) (t : StreamTrace) : Taken a t t :=
  (refl t.stream).quiet rfl rfl

theorem taken_setPublisher (pub : Option Publisher) (now : ℤ) (t : StreamTrace) :
    Taken (.setPublisher pub now) t (t.setPublisher pub now) := by
  cases pub with
  | none => exact taken_self _ t
  | some pub =>
    unfold setPublisher
    cases hset : t.stream.setPublisher (some pub) now with
    | error e => exact taken_self _ t
    | ok s =>
      obtain ⟨hpublishing, hdestroying, hfresh, rfl⟩ := setPublisher_eq_ok hset
      refine ⟨.install pub now rfl ⟨hpublishing, hdestroying⟩ hfresh rfl rfl rfl ?_
        (fun log _ => t.stream.toGopState.holdsOf_reset log), ⟨rfl, rfl⟩,
        .inl ⟨rfl, .inr (.inl rfl)⟩⟩
      simp [startGeneration, install, closeGeneration_boundaries_length,
        closeGeneration_publisherGeneration]

theorem taken_writeFrameForPublisher (pub : Option Publisher)
    (clock : RateState.Clock) (frame : Option AVFrame) (t : StreamTrace) :
    Taken (.writeFrameForPublisher pub clock frame) t
      (t.writeFrameForPublisher pub clock frame) := by
  cases pub with
  | none =>
    have hsame : (t.stream.writeFrameForPublisher none clock frame) = (false, t.stream) := by
      cases frame with
      | none => rfl
      | some frame =>
        simp [Stream.writeFrameForPublisher, publisherMatches]
    unfold writeFrameForPublisher
    rw [hsame]
    exact taken_self _ t
  | some pub =>
    cases frame with
    | none => exact taken_self _ t
    | some frame =>
      unfold writeFrameForPublisher Stream.writeFrameForPublisher Stream.writeFrameLocked
      by_cases howner : t.stream.publisherMatches (some pub) = true
      · simp only
        split_ifs with haccepted
        · exact ⟨.write pub _ rfl howner rfl rfl rfl rfl rfl, ⟨rfl, rfl⟩,
            .inl ⟨rfl, .inr (.inr ⟨_, rfl⟩)⟩⟩
        · exact quiet ⟨rfl, rfl, rfl, rfl⟩ rfl rfl
      · simp only [howner]
        exact taken_self _ t

theorem taken_removePublisherLocked (a : StreamAction) (t : StreamTrace) :
    Taken a t (t.withStream t.stream.removePublisherLocked) := by
  unfold removePublisherLocked
  split
  · exact taken_self _ t
  next halive => exact taken ⟨rfl, rfl, rfl, rfl⟩ (.detach halive rfl rfl rfl rfl)

theorem taken_timerCallback (a : StreamAction) (timer : Timer)
    (t : StreamTrace) :
    Taken a t (t.withStream
      (Stream.timerCallback timer.kind { t.stream with
        expired := t.stream.expired.erase timer }).2) := by
  unfold timerCallback
  split
  next hfires =>
    refine taken ⟨rfl, rfl, rfl, rfl⟩ (.expire ?_ rfl rfl rfl rfl)
    cases hkind : timer.kind with
    | noPublisher =>
      rw [hkind] at hfires
      exact .inl (of_decide_eq_true hfires)
    | idle =>
      rw [hkind] at hfires
      simp only [timerFires, unused, Bool.and_eq_true, Option.isNone_iff_eq_none] at hfires
      exact .inr hfires.1
  · exact quiet ⟨rfl, rfl, rfl, rfl⟩ rfl rfl

theorem taken_addSubscriber (a : StreamAction) (t : StreamTrace) :
    Taken a t (t.orUnchanged (t.stream.addSubscriber protocol)) := by
  unfold addSubscriber
  cases t.stream.toSubscriberState.add t.stream.limits protocol with
  | error e => exact taken_self a t
  | ok s => exact quiet ⟨rfl, rfl, rfl, rfl⟩ rfl rfl

theorem taken_of_step (hstep : t.step a = some t') : Taken a t t' := by
  cases a with
  | setPublisher pub now => exact Option.some.inj hstep ▸ taken_setPublisher pub now t
  | writeFrameForPublisher pub clock frame =>
    exact Option.some.inj hstep ▸ taken_writeFrameForPublisher pub clock frame t
  | updatePolicy cfg limits =>
    cases hstep
    exact ⟨.quiet rfl rfl rfl rfl fun log hlog => hlog.updatePolicy, ⟨rfl, rfl⟩, .inr rfl⟩
  | resetSimulcastVideo =>
    cases hstep
    exact ⟨.quiet rfl rfl rfl rfl fun log _ => t.stream.toGopState.holdsOf_reset log,
      ⟨rfl, rfl⟩, .inl ⟨rfl, .inr (.inl rfl)⟩⟩
  | removePublisher => exact Option.some.inj hstep ▸ taken_removePublisherLocked _ t
  | removePublisherIf pub =>
    cases hstep
    unfold removePublisherIf
    split
    · exact taken_removePublisherLocked _ t
    · exact taken_self _ t
  | close =>
    cases hstep
    unfold close
    split
    next hdead => exact taken ⟨rfl, rfl, rfl, rfl⟩ (.closeRing hdead rfl rfl rfl rfl)
    next halive =>
      exact taken ⟨rfl, rfl, rfl, rfl⟩ (.retire halive rfl (.inr rfl) rfl rfl)
  | discardFailedAdmission publisherID =>
    cases hstep
    unfold discardFailedAdmission
    split
    · exact taken_self _ t
    next hcond =>
      have halive : t.stream.state ≠ .destroying := by
        intro hdead
        exact hcond (.inr (.inl hdead))
      exact taken ⟨rfl, rfl, rfl, rfl⟩ (.retire halive rfl (.inl rfl) rfl rfl)
  | timerExpires timer =>
    obtain ⟨-, hresult⟩ := Option.ite_none_right_eq_some.mp hstep
    cases hresult
    exact quiet ⟨rfl, rfl, rfl, rfl⟩ rfl rfl
  | timerCallback timer =>
    obtain ⟨-, hresult⟩ := Option.ite_none_right_eq_some.mp hstep
    cases hresult
    exact taken_timerCallback _ timer t
  | addSubscriber protocol => exact Option.some.inj hstep ▸ taken_addSubscriber _ t
  | addSubscriberForGeneration protocol generation =>
    cases hstep
    unfold addSubscriberForGeneration addSubscriber
    cases t.stream.toSubscriberState.add t.stream.limits protocol with
    | error e => split_ifs <;> exact taken_self _ t
    | ok s =>
      split_ifs
      · exact taken_self _ t
      · exact quiet ⟨rfl, rfl, rfl, rfl⟩ rfl rfl
  | removeSubscriber protocol =>
    cases hstep
    exact quiet ⟨rfl, rfl, rfl, rfl⟩ rfl rfl
  | removeSubscriberForGeneration protocol generation =>
    cases hstep
    unfold removeSubscriberForGeneration
    split
    · exact taken_self _ t
    · exact quiet ⟨rfl, rfl, rfl, rfl⟩ rfl rfl

theorem effect_of_step (hstep : t.step a = some t') : Effect a t t' := (taken_of_step hstep).effect

end StreamTrace

end LiveForge.Core
