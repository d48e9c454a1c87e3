import LiveForge.Support.Bytes

/-!
# Timestamps of PES packets

Both container formats write a presentation or decoding time as 33 bits of a
90 kHz clock, spread over five bytes with marker bits between.  They differ in
the four bits in front and in how they put the number together again; a time
that fits is read back unchanged by either.
-/

namespace LiveForge.Mpeg

open Support

def ticksOf (ms : ℤ) : ℕ := wordOf (ms * 90)

/-- Five bytes for a time; `lead` holds the bits in front and the first marker
bit. -/
def timestampBytes (lead : UInt8) (ticks : ℕ) : List UInt8 :=
  [lead ||| byteOf ticks 29 &&& 0x0E, byteOf ticks 22,
    byteOf ticks 14 &&& 0xFE ||| 0x01, byteOf ticks 7,
    UInt8.ofNat (ticks <<< 1) &&& 0xFE ||| 0x01]

/-- The reading of the program stream demuxer. -/
def joinHalves (b0 b1 b2 b3 b4 : UInt8) : ℕ :=
  (b0 >>> 1 &&& 0x07).toNat <<< 30 ||| (be16 b1 b2 >>> 1) <<< 15 ||| be16 b3 b4 >>> 1

end LiveForge.Mpeg
