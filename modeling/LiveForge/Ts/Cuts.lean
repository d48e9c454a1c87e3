import LiveForge.Ts.Muxer
import LiveForge.Ts.Total

/-!
# Cuts of the input

How the input of the transport stream demuxer is cut into calls makes no
difference.  What is left over between two calls is less than a packet, and
bytes that are skipped have no sync byte, so the packets are those of the whole
input.
-/

namespace LiveForge.Ts.Demuxer

open Support

/-- The data from its first sync byte on. -/
def synced (data : Bytes) : Bytes := data.dropWhile (· != syncByte)

theorem synced_cons {b : UInt8} (h : b ≠ syncByte) (rest : Bytes) :
    synced (b :: rest) = rest.drop (rest.findIdx (· == syncByte)) := by
  rw [synced, List.dropWhile_cons_of_pos (by simpa using h), List.dropWhile_eq_drop_findIdx_not]
  simp [bne]

theorem synced_append (data more : Bytes) :
    synced (data ++ more) = synced (synced data ++ more) := by
  induction data with
  | nil => rfl
  | cons b data ih =>
    by_cases h : b = syncByte
    · simp [synced, h]
    · simpa [synced, h] using ih

theorem cut_of_short {data : Bytes} (h : data.length < packetSize) : cut data = ([], data) := by
  rw [cut, if_neg (Nat.not_le_of_lt h)]

theorem cut_cons {b : UInt8} {rest : Bytes} (h : b ≠ syncByte)
    (hlong : packetSize ≤ (b :: rest).length) :
    cut (b :: rest) = cut (synced (b :: rest)) := by
  rw [cut, if_pos hlong, if_pos (by exact h), List.drop_one, List.tail_cons, synced_cons h]
  split
  next hnone =>
    have hend := List.findIdx_eq_length.mpr (List.findIdx?_eq_none_iff.mp hnone)
    rw [hend, List.drop_length, cut_of_short (by decide)]
  next i hi => rw [(List.findIdx?_eq_some_iff_findIdx_eq.mp hi).2, List.drop_succ_cons]

/-- The packets start at the first sync byte. -/
theorem cut_synced (data : Bytes) : (cut data).1 = (cut (synced data)).1 := by
  by_cases hshort : data.length < packetSize
  · have hle : (synced data).length ≤ data.length := (List.dropWhile_suffix _).length_le
    rw [cut_of_short hshort, cut_of_short (hle.trans_lt hshort)]
  cases data with
  | nil => rfl
  | cons b rest =>
    by_cases hsync : b = syncByte
    · simp [synced, hsync]
    · rw [cut_cons hsync (Nat.not_lt.mp hshort)]

/-- What is left over is found again with the next bytes. -/
theorem cut_append (data more : Bytes) :
    (cut (data ++ more)).1 = (cut data).1 ++ (cut ((cut data).2 ++ more)).1 := by
  induction hn : data.length using Nat.strong_induction_on generalizing data with
  | _ n ih =>
    subst hn
    by_cases hshort : data.length < packetSize
    · rw [cut_of_short hshort, List.nil_append]
    have hlong := Nat.not_lt.mp hshort
    obtain ⟨b, rest, rfl⟩ := List.exists_cons_of_length_pos (Nat.lt_of_lt_of_le (by decide) hlong)
    by_cases hsync : b = syncByte
    · have hrest := ih _ (by rw [List.length_drop, packetSize] at *; omega)
        ((b :: rest).drop packetSize) rfl
      rw [cut, if_pos (by rw [List.length_append]; omega), if_neg (by simpa using hsync),
        List.take_append_of_le_length hlong, List.drop_append_of_le_length hlong, hrest,
        cut.eq_1 (b :: rest), if_pos hlong, if_neg (by simpa using hsync)]
      rfl
    · have hless : (synced (b :: rest)).length < (b :: rest).length := by
        rw [synced_cons hsync, List.length_drop, List.length_cons]
        omega
      rw [cut_cons hsync hlong, ← ih _ hless _ rfl, cut_synced, synced_append, ← cut_synced]

theorem cut_rest_short (data : Bytes) : (cut data).2.length < packetSize := by
  fun_induction cut data with
  | case1 => decide
  | case2 data hlong hsync i hi ih => exact ih
  | case3 data hlong hsync ih => exact ih
  | case4 data hshort => exact Nat.not_le.mp hshort

/-- The packets do not depend on the cuts. -/
theorem packets_eq {remainder : Bytes} (hshort : remainder.length < packetSize)
    (chunks : List Bytes) :
    packets remainder chunks = (cut (remainder ++ chunks.flatten)).1 := by
  induction chunks generalizing remainder with
  | nil => simp [packets, cut_of_short hshort]
  | cons chunk chunks ih =>
    rw [packets, ih (cut_rest_short _), List.flatten_cons, ← List.append_assoc, ← cut_append]

theorem flush_toParser (p : Parser) (rest rest' : Bytes) :
    (flush ⟨p, rest⟩).map toParser = (flush ⟨p, rest'⟩).map toParser := by
  unfold flush
  have haudio : ∀ p : Parser, Except.map toParser (do
        let p ← if p.audioBuf ≠ [] then p.flushPES .audio else pure p
        return ⟨p, rest⟩) =
      Except.map toParser (do
        let p ← if p.audioBuf ≠ [] then p.flushPES .audio else pure p
        return ⟨p, rest'⟩) := by
    intro p
    split
    · cases p.flushPES .audio <;> rfl
    · rfl
  split
  · cases p.flushPES .video with
    | error e => rfl
    | ok p => exact haudio p
  · exact haudio p

/-- Two ways to cut an input into calls give the same packets to the parser, and
leave it with the same frames. -/
theorem frames_independent_of_cuts {chunks chunks' : List Bytes}
    (h : chunks.flatten = chunks'.flatten) :
    packets [] chunks = packets [] chunks' ∧
      (newDemuxer.feedAll chunks >>= flush).map toParser =
        (newDemuxer.feedAll chunks' >>= flush).map toParser := by
  have hpackets : packets [] chunks = packets [] chunks' := by
    rw [packets_eq (by decide), packets_eq (by decide), h]
  have hfed : ∀ chunks, (newDemuxer.feedAll chunks >>= flush).map toParser =
      (newDemuxer.feedAll chunks).map toParser >>= fun p => (flush ⟨p, []⟩).map toParser := by
    intro chunks
    cases newDemuxer.feedAll chunks with
    | error e => rfl
    | ok d => exact flush_toParser d.toParser d.remainder []
  refine ⟨hpackets, ?_⟩
  rw [hfed, hfed, feedAll_toParser, feedAll_toParser]
  exact congrArg (fun pkts => pkts.foldlM Parser.parsePacket {} >>= _) hpackets

def mp3Frame : AVFrame := newAVFrame .audio .mp3 .interframe 40 40 [0xFF, 0xFB, 0x90]

/-- Garbage, the two tables and a frame. -/
def noisyInput : Bytes :=
  [1, 2, 3] ++ ((newMuxer .none .mp3 [] []).writeFrame mp3Frame).2

/-- The cut is behind two of the four bytes of the first packet header. -/
theorem frames_independent_of_cuts_garbage :
    (newDemuxer.feedAll [noisyInput.take 5, noisyInput.drop 5] >>= flush).map toParser =
        (newDemuxer.feedAll [noisyInput] >>= flush).map toParser ∧
      (newDemuxer.feedAll [noisyInput] >>= flush).map (·.toParser.frames) = .ok [mp3Frame] :=
  ⟨(frames_independent_of_cuts (by simp)).2, by decide +kernel⟩

end LiveForge.Ts.Demuxer
