import LiveForge.Rtp.Unit
import Mathlib.Data.List.Chain

/-!
# Traces of an assembler

The calls of `Push` and `Discard` one after the other, with the packets that
were taken and everything that was returned, and what it means that a call was
intact: each media frame is what all packets of one whole unit carry, and
nothing comes from the unit that was discarded last.
-/

namespace LiveForge.Rtp

open Support AccessUnitAssembler

/-! ## Traces -/

inductive Action where
  | push (pkt : Option Packet)
  | discard

/-- A packet that was taken: when, and whether it began its unit. -/
structure TakenPacket where
  time : ℕ
  packet : Packet
  begins : Bool

def currentUnit (taken : List TakenPacket) : List TakenPacket :=
  taken.foldl (fun unit e => if e.begins then [e] else unit ++ [e]) []

/-- What a call of `Push` returned, with the unit of its packet, the packets
given to the depacketizer since the last `Discard`, and the key of the unit
discarded last. -/
structure Return where
  frames : List AVFrame
  err : Option PushError
  unit : List TakenPacket
  sources : List Packet
  discarded : Option UnitKey

structure Trace where
  assembler : AccessUnitAssembler
  time : ℕ := 0
  taken : List TakenPacket := []
  sources : List Packet := []
  returns : List Return := []

namespace Trace

def initial (codec : CodecType) : Trace :=
  { assembler := newAccessUnitAssembler codec (newDepacketizer codec) }

def take (t : Trace) (a : AccessUnitAssembler) (r : PushResult) (p : Packet) : Trace :=
  let taken := t.taken ++ [⟨t.time, p, !t.assembler.continues p⟩]
  let sources := (if t.assembler.restarts p then [] else t.sources) ++ [p]
  { assembler := a
    time := t.time + 1
    taken := taken
    sources := sources
    returns := t.returns ++
      [⟨r.frames, r.err, currentUnit taken, sources, a.discardedKey⟩] }

def refuse (t : Trace) (a : AccessUnitAssembler) (r : PushResult) : Trace :=
  let sources := if a.damaged then [] else t.sources
  { t with
    assembler := a
    time := t.time + 1
    sources := sources
    returns := t.returns ++ [⟨r.frames, r.err, [], sources, a.discardedKey⟩] }

def after (unmarshal : VP8Unmarshal) (t : Trace) : Action → Trace
  | .push pkt =>
    let (a, r) := t.assembler.push unmarshal pkt
    match pkt, r.err with
    | some p, none => t.take a r p
    | _, _ => t.refuse a r
  | .discard =>
    { t with
      assembler := t.assembler.discard
      time := t.time + 1
      sources := [] }

def step (unmarshal : VP8Unmarshal) (t : Trace) (act : Action) : Option Trace :=
  some (t.after unmarshal act)

/-- The depacketizer that is given the packet agrees with the assembler on
whether it continues a frame. -/
def Agrees (unmarshal : VP8Unmarshal) (t : Trace) : Action → Prop
  | .push (some p) =>
    ∀ dp ∈ (t.assembler.unitFor p).dp, dp.Agrees unmarshal p
  | _ => True

instance (unmarshal : VP8Unmarshal) (t : Trace) (act : Action) :
    Decidable (t.Agrees unmarshal act) := by
  unfold Agrees
  split <;> infer_instance

end Trace

/-! ## Integrity -/

/-- The packets of a unit so far: the first one began it, all have its key, and
they are numbered consecutively. -/
structure InOrder (unit : List TakenPacket) (key : UnitKey) : Prop where
  begins : ∃ first rest, unit = first :: rest ∧ first.begins = true ∧ ∀ e ∈ rest, e.begins = false
  sameKey : ∀ e ∈ unit, e.packet.key = key
  consecutive : unit.IsChain fun e e' =>
    e'.packet.sequenceNumber = e.packet.sequenceNumber + 1

/-- All packets of a unit, up to the one with the marker. -/
structure WholeUnit (unit : List TakenPacket) : Prop where
  inOrder : ∃ key, InOrder unit key
  ends : ∃ init last, unit = init ++ [last] ∧ last.packet.marker = true ∧
    ∀ e ∈ init, e.packet.marker = false

def feedPacket (unmarshal : VP8Unmarshal) (state : List AVFrame × Option Depacketizer)
    (pkt : Packet) : List AVFrame × Option Depacketizer :=
  match state.2 with
  | none => ([], none)
  | some dp =>
    ((depacketizeFrames unmarshal dp pkt).1.toOption.getD [],
      some (depacketizeFrames unmarshal dp pkt).2)

/-- Give packets to a new depacketizer: what it returns for the last one, and
what it becomes. -/
def feed (unmarshal : VP8Unmarshal) (codec : CodecType) (pkts : List Packet) :
    List AVFrame × Option Depacketizer :=
  pkts.foldl (feedPacket unmarshal) ([], newDepacketizer codec)

/-- What holds of every call of `Push`.  A sequence header is what a new
depacketizer returns for the sources alone. -/
structure Intact (unmarshal : VP8Unmarshal) (codec : CodecType) (r : Return) : Prop where
  failed : r.err ≠ none → r.frames = []
  bounded : ∀ f ∈ r.frames, f.payload.length ≤ maxAccessUnitBytes
  media : ∀ f ∈ r.frames, isMedia f → WholeUnit r.unit ∧
    Carry unmarshal codec (r.unit.map TakenPacket.packet) f.payload ∧
    r.unit.map TakenPacket.packet <:+ r.sources
  header : ∀ f ∈ r.frames, ¬ isMedia f → f ∈ (feed unmarshal codec r.sources).1
  notDiscarded : r.frames ≠ [] → ∀ p ∈ r.sources, r.discarded ≠ some p.key

/-- When the packets were taken that contribute to media frames, frame by
frame. -/
def Return.contributions (r : Return) : List ℕ :=
  (r.frames.filter isMedia).flatMap fun _ => r.unit.map TakenPacket.time

def Trace.contributions (t : Trace) : List ℕ :=
  t.returns.flatMap Return.contributions

/-! ## Units -/

theorem currentUnit_snoc (taken : List TakenPacket) (e : TakenPacket) :
    currentUnit (taken ++ [e]) = (if e.begins then [] else currentUnit taken) ++ [e] := by
  rw [currentUnit, List.foldl_append]
  simp only [List.foldl_cons]
  split <;> rfl

theorem InOrder.single {e : TakenPacket} (h : e.begins = true) : InOrder [e] e.packet.key := by
  refine ⟨⟨e, [], rfl, h, by simp⟩, ?_, List.isChain_singleton e⟩
  intro e' he'
  rw [List.mem_singleton.mp he']

theorem InOrder.snoc {unit : List TakenPacket} {key : UnitKey} {e : TakenPacket}
    (h : InOrder unit key) (hkey : e.packet.key = key) (hbegins : e.begins = false)
    (hnext : ∀ last ∈ unit.getLast?, e.packet.sequenceNumber = last.packet.sequenceNumber + 1) :
    InOrder (unit ++ [e]) key := by
  obtain ⟨⟨first, rest, rfl, hfirst, hrest⟩, hkeys, hchain⟩ := h
  refine ⟨⟨first, rest ++ [e], rfl, hfirst, ?_⟩, ?_, ?_⟩
  · intro e' he'
    rcases List.mem_append.mp he' with he' | he'
    · exact hrest e' he'
    · rw [List.mem_singleton.mp he', hbegins]
  · intro e' he'
    rcases List.mem_append.mp he' with he' | he'
    · exact hkeys e' he'
    · rw [List.mem_singleton.mp he', hkey]
  · rw [List.isChain_append]
    refine ⟨hchain, List.isChain_singleton e, ?_⟩
    intro last hlast e' he'
    obtain rfl : e = e' := by simpa using he'
    exact hnext last hlast

/-! ## Sources -/

theorem feed_snoc (unmarshal : VP8Unmarshal) (codec : CodecType) (pkts : List Packet)
    (pkt : Packet) :
    feed unmarshal codec (pkts ++ [pkt]) =
      feedPacket unmarshal (feed unmarshal codec pkts) pkt := by
  rw [feed, List.foldl_append]
  rfl

variable {unmarshal : VP8Unmarshal} {pkts : List Packet} {codec : CodecType}

theorem feed_snoc_of_ok {pkt : Packet} {dp dp' : Depacketizer}
    {frames : List AVFrame} (hdp : (feed unmarshal codec pkts).2 = some dp)
    (hframes : depacketizeFrames unmarshal dp pkt = (.ok frames, dp')) :
    feed unmarshal codec (pkts ++ [pkt]) = (frames, some dp') := by
  rw [feed_snoc, feedPacket, hdp]
  simp only [hframes]
  rfl

theorem feed_codec {dp : Depacketizer} (h : (feed unmarshal codec pkts).2 = some dp) :
    dp.codec = codec := by
  induction pkts using List.reverseRecOn generalizing dp with
  | nil => exact (newDepacketizer_spec h).1
  | append_singleton pkts pkt ih =>
    rw [feed_snoc, feedPacket] at h
    split at h
    · simp at h
    next before hbefore =>
      rw [← Option.some.inj h, Depacketizer.depacketizeFrames_codec]
      exact ih hbefore

end LiveForge.Rtp
