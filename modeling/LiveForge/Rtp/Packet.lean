import LiveForge.Media.Frame
import LiveForge.Support.Bytes

/-!
# RTP packets and fragmented NAL units

An RTP packet as far as `pkg/rtp` reads it, and the buffer in which the H.264
and H.265 depacketizers put the fragments of a NAL unit together.  The two
depacketizers treat a fragment alike, apart from the length of the NAL header
it restores, so the buffer is described once.
-/

namespace LiveForge.Rtp

open Support

structure Packet where
  marker : Bool
  payloadType : UInt8
  sequenceNumber : UInt16
  timestamp : UInt32
  ssrc : UInt32
  payload : Bytes

/-- What tells the packets of one access unit from all others. -/
structure UnitKey where
  timestamp : UInt32
  ssrc : UInt32
  payloadType : UInt8

def Packet.key (pkt : Packet) : UnitKey :=
  ⟨pkt.timestamp, pkt.ssrc, pkt.payloadType⟩

/-! ## Fragments -/

def maxNALBytes : ℕ := 16 <<< 20

def maxFUFragments : ℕ := 16384

inductive FragmentError where
  | tooLong
  | withoutStart
  | discontinuous
  | tooMany
  deriving DecidableEq

/-- One fragmentation unit: the header of its NAL unit, restored from the
packet, and its part of the data. -/
structure Fragment where
  isStart : Bool
  isEnd : Bool
  header : Bytes
  data : Bytes

structure FragmentBuffer where
  buf : Option Bytes := none
  fuSequence : UInt16 := 0
  fuTimestamp : UInt32 := 0
  fuSSRC : UInt32 := 0
  fuPayloadType : UInt8 := 0
  fuFragments : ℕ := 0

namespace FragmentBuffer

def resetFU (_ : FragmentBuffer) : FragmentBuffer := {}

def start (b : FragmentBuffer) (pkt : Packet) (f : Fragment) :
    Except FragmentError (Bytes × FragmentBuffer) :=
  if maxNALBytes < f.header.length + f.data.length then .error .tooLong
  else .ok (f.header, { b.resetFU with
    fuTimestamp := pkt.timestamp
    fuSSRC := pkt.ssrc
    fuPayloadType := pkt.payloadType })

def extend (b : FragmentBuffer) (pkt : Packet) (f : Fragment) :
    Except FragmentError (Bytes × FragmentBuffer) :=
  match b.buf with
  | none => .error .withoutStart
  | some buf =>
    if pkt.sequenceNumber ≠ b.fuSequence + 1 ∨
        pkt.timestamp ≠ b.fuTimestamp ∨ pkt.ssrc ≠ b.fuSSRC ∨
        pkt.payloadType ≠ b.fuPayloadType ∨
        f.header ≠ buf.take f.header.length then .error .discontinuous
    else if maxFUFragments ≤ b.fuFragments then .error .tooMany
    else if maxNALBytes < buf.length + f.data.length then .error .tooLong
    else .ok (buf, b)

def join (b : FragmentBuffer) (pkt : Packet) (f : Fragment) :
    Except FragmentError (Bytes × FragmentBuffer) :=
  if f.isStart then b.start pkt f else b.extend pkt f

/-- Take a fragment.  The last one gives the NAL unit and empties the
buffer. -/
def take (b : FragmentBuffer) (pkt : Packet) (f : Fragment) :
    Except FragmentError (Option Bytes × FragmentBuffer) := do
  let (buf, b) ← b.join pkt f
  if f.isEnd then return (some (buf ++ f.data), b.resetFU)
  else
    return (none, { b with
      buf := some (buf ++ f.data)
      fuSequence := pkt.sequenceNumber
      fuFragments := b.fuFragments + 1 })

/-- The bytes a fragment is put behind: the restored header for the first one,
the buffer for the others. -/
def Joins (b : FragmentBuffer) (f : Fragment) (base : Bytes) : Prop :=
  if f.isStart then base = f.header
  else b.buf = some base ∧ f.header = base.take f.header.length

variable {b b' : FragmentBuffer} {pkt : Packet} {f : Fragment} {base : Bytes}

theorem joins_of_start (h : b.start pkt f = .ok (base, b')) : base = f.header := by
  unfold start at h
  split_ifs at h
  simp only [Except.ok.injEq, Prod.mk.injEq] at h
  exact h.1.symm

theorem joins_of_extend (h : b.extend pkt f = .ok (base, b')) :
    b.buf = some base ∧ f.header = base.take f.header.length := by
  unfold extend at h
  split at h
  · simp at h
  next buf hbuf =>
    split_ifs at h with hsame hmany hlong
    cases h
    simp only [not_or, not_not] at hsame
    exact ⟨hbuf, hsame.2.2.2.2⟩

/-- A fragment that is taken joins what it belongs to, and either completes
the NAL unit or stays in the buffer. -/
theorem take_eq_ok {nal : Option Bytes} (h : b.take pkt f = .ok (nal, b')) :
    ∃ base, b.Joins f base ∧
      if f.isEnd then nal = some (base ++ f.data) ∧ b' = {}
      else nal = none ∧ b'.buf = some (base ++ f.data) := by
  obtain ⟨⟨base, joined⟩, hjoin, hresult⟩ := bind_eq_ok.mp h
  refine ⟨base, ?_, ?_⟩
  · unfold Joins
    unfold join at hjoin
    split at hjoin
    next hstart =>
      rw [if_pos hstart]
      exact joins_of_start hjoin
    next hstart =>
      rw [if_neg hstart]
      exact joins_of_extend hjoin
  · simp only [pure, Except.pure] at hresult
    split at hresult
    next hend =>
      simp only [Except.ok.injEq, Prod.mk.injEq] at hresult
      rw [if_pos hend]
      exact ⟨hresult.1.symm, hresult.2.symm⟩
    next hend =>
      cases hresult
      rw [if_neg hend]
      exact ⟨rfl, rfl⟩

end FragmentBuffer

end LiveForge.Rtp
