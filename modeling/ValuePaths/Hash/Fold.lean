/-!
# A seeded multiply-fold hash

Hash tables with a fixed seed place their keys by a 64-bit hash built from one primitive,
the folded multiply: the full 128-bit product of two words, whose high half is folded onto
its low half by exclusive or.  The middle bits of a product depend on every input bit, and
folding brings them to both ends of the result.

A hasher keeps an accumulator, seeded per table, and a sponge of at most 128 bits in which
numbers collect.  When a number no longer fits, the sponge is folded into the accumulator
with the fold seed and starts again with that number; finishing folds what the sponge
holds.  Byte strings skip the sponge: the accumulator is rotated by the length, which
separates strings of different lengths whose overlapping reads agree, then mixed with the
first and last bytes and folded with the expand seed.  Longer strings run two, four or six
lanes over blocks from the front and fold the last bytes from both ends; see `longBytes`.
Text absorbs its bytes and then the byte `0xFF`, which no text contains, so that no text is
a prefix of another's input.

## Main definitions

* `Hash.foldMul` — the folded multiply.
* `Hash.Hasher` with `number`, `wide`, `bytes`, `text` and `finish` — absorbing input.
* `Hash.Hasher.start` — the hasher of a table with the program's fixed seed.
-/

namespace ValuePaths

namespace Hash

/-- The number of 64-bit words, `2 ^ 64`. -/
def wordRange : Nat := 18446744073709551616

/-- The folded multiply: the 128-bit product of two words, its high half folded onto its
low half by exclusive or. -/
def foldMul (x y : UInt64) : UInt64 :=
  let p := x.toNat * y.toNat
  UInt64.ofNat (p % wordRange) ^^^ UInt64.ofNat (p / wordRange)

/-- Rotation of a word by `r` places towards its low end. -/
def rotateRight (x : UInt64) (r : Nat) : UInt64 :=
  let r := UInt64.ofNat (r % 64)
  (x >>> r) ||| (x <<< (64 - r))

/-- The seed every fixed-seed table of the program is created with. -/
def tableSeed : UInt64 := 0x7E570F1A55C0D3B1

/-- The starting accumulator of a table's hashers: the table seed, mixed with a constant
that makes seed zero the default state. -/
def hasherSeed : UInt64 := tableSeed ^^^ 0x082EFA98EC4E6C89

/-- The word that every fold of the sponge and every lane step of long text is mixed with. -/
def foldSeed : UInt64 := 0xC0AC29B7C97C50DD

/-- The word that short text is mixed with. -/
def expandSeed : UInt64 := 0x3F84D5B5B5470917

/-- The little-endian word of at most eight bytes. -/
def littleEndian (bs : List UInt8) : UInt64 :=
  bs.foldr (fun b w => (w <<< 8) ||| b.toUInt64) 0

/-- The hash of at most sixteen bytes from the two starting words `s0` and `s1`: the first
and last eight, four or single bytes are mixed in, so that every byte counts. -/
def shortBytes (bs : List UInt8) (s0 s1 : UInt64) : UInt64 :=
  let n := bs.length
  if 8 ≤ n then foldMul (s0 ^^^ littleEndian (bs.take 8)) (s1 ^^^ littleEndian (bs.drop (n - 8)))
  else if 4 ≤ n then
    foldMul (s0 ^^^ littleEndian (bs.take 4)) (s1 ^^^ littleEndian (bs.drop (n - 4)))
  else if 0 < n then
    let lo := (bs.getD 0 0).toUInt64
    let mid := (bs.getD (n / 2) 0).toUInt64
    let hi := (bs.getD (n - 1) 0).toUInt64
    foldMul (s0 ^^^ lo) (s1 ^^^ ((hi <<< 8) ||| mid))
  else foldMul s0 s1

/-- The starting offsets of the third to sixth lanes of long text. -/
def laneSeeds : UInt64 × UInt64 × UInt64 × UInt64 :=
  (0x9216D5D98979FB1B, 0xD1310BA698DFB5AC, 0x2FFD72DBD01ADFB7, 0xB8E1AFED6A267E96)

/-- The little-endian word at byte `i`. -/
def word (bs : List UInt8) (i : Nat) : UInt64 := littleEndian ((bs.drop i).take 8)

/-- One step of a lane: the lane word and a first word folded with a second word and the
fold seed. -/
def mixLane (s w v : UInt64) : UInt64 := foldMul (w ^^^ s) (v ^^^ foldSeed)

/-- The running words of the hash of long text. -/
structure Lanes where
  s0 : UInt64
  s1 : UInt64
  s2 : UInt64
  s3 : UInt64
  s4 : UInt64
  s5 : UInt64
  deriving Repr, Inhabited

/-- The last at most 128 bytes `r` of long text, folded into the first two lanes.  Round
`j` mixes the words at `16 j` and `16 j + 8` with those as far from the end; there is one
round, and one more from 32, 64 and 96 bytes on. -/
def tailRounds (r : List UInt8) (s0 s1 : UInt64) : UInt64 :=
  let m := r.length
  let rounds := 1 + (if 32 ≤ m then 1 else 0) + (if 64 ≤ m then 1 else 0) +
    (if 96 ≤ m then 1 else 0)
  let last := (List.range rounds).foldl (fun (acc : UInt64 × UInt64) j =>
    (mixLane acc.1 (word r (16 * j)) (word r (m - 16 - 16 * j)),
     mixLane acc.2 (word r (16 * j + 8)) (word r (m - 8 - 16 * j)))) (s0, s1)
  last.1 ^^^ last.2

/-- Blocks of 96 bytes over six lanes, lane `k` mixing the words at `8 k` and `48 + 8 k`,
while more than 256 bytes are left; gives the rest and the lanes. -/
def sixLanes : (fuel : Nat) → List UInt8 → Lanes → List UInt8 × Lanes
  | 0, r, l => (r, l)
  | fuel + 1, r, l =>
    if r.length ≤ 256 then (r, l) else
    sixLanes fuel (r.drop 96)
      ⟨mixLane l.s0 (word r 0) (word r 48), mixLane l.s1 (word r 8) (word r 56),
       mixLane l.s2 (word r 16) (word r 64), mixLane l.s3 (word r 24) (word r 72),
       mixLane l.s4 (word r 32) (word r 80), mixLane l.s5 (word r 40) (word r 88)⟩

/-- Blocks of 64 bytes over four lanes, lane `k` mixing the words at `8 k` and `32 + 8 k`,
while more than 128 bytes are left; gives the rest and the lanes. -/
def fourLanes : (fuel : Nat) → List UInt8 → Lanes → List UInt8 × Lanes
  | 0, r, l => (r, l)
  | fuel + 1, r, l =>
    if r.length ≤ 128 then (r, l) else
    fourLanes fuel (r.drop 64)
      { l with s0 := mixLane l.s0 (word r 0) (word r 32), s1 := mixLane l.s1 (word r 8) (word r 40),
               s2 := mixLane l.s2 (word r 16) (word r 48), s3 := mixLane l.s3 (word r 24) (word r 56) }

/-- The hash of more than sixteen bytes from the rotated accumulator `base`.  The lanes
start at `base` plus the expand seed and the lane seeds.  Text of more than 256 bytes runs
six lanes and folds the last two into the first two; text of more than 128 bytes runs four
lanes and folds the last two into the first two; the rest goes through `tailRounds`. -/
def longBytes (bs : List UInt8) (base : UInt64) : UInt64 :=
  let n := bs.length
  let (k2, k3, k4, k5) := laneSeeds
  let l : Lanes := ⟨base, base + expandSeed, base + k2, base + k3, base + k4, base + k5⟩
  if n ≤ 128 then tailRounds bs l.s0 l.s1 else
  let (r, l) :=
    if n ≤ 256 then (bs, l) else
    let (r, l) := sixLanes n bs l
    (r, { l with s0 := l.s0 ^^^ l.s4, s1 := l.s1 ^^^ l.s5 })
  let (r, l) := fourLanes n r l
  tailRounds r (l.s0 ^^^ l.s2) (l.s1 ^^^ l.s3)

/-- The state of a hasher: the accumulator and a sponge holding `bits` bits of numbers. -/
structure Hasher where
  acc : UInt64
  sponge : Nat
  bits : Nat
  deriving Repr, Inhabited

namespace Hasher

/-- The hasher of a table with the program's fixed seed, before any input. -/
def start : Hasher := ⟨hasherSeed, 0, 0⟩

/-- The accumulator after folding in a sponge of 128 bits, low word first. -/
def squeeze (acc : UInt64) (sponge : Nat) : UInt64 :=
  foldMul (UInt64.ofNat (sponge % wordRange) ^^^ acc)
    (UInt64.ofNat (sponge / wordRange % wordRange) ^^^ foldSeed)

/-- Absorbs a number of `width` bits, at most 64, given as its unsigned value below
`2 ^ width`.  It joins the sponge above what is there, unless the sponge would pass 128
bits: then the sponge is folded in first and starts again with this number. -/
def number (h : Hasher) (width n : Nat) : Hasher :=
  if 128 < h.bits + width then ⟨squeeze h.acc h.sponge, n, width⟩
  else ⟨h.acc, h.sponge + Nat.shiftLeft n h.bits, h.bits + width⟩

/-- Absorbs a 128-bit number, given as its unsigned value: it is folded into the
accumulator at once, beside the sponge. -/
def wide (h : Hasher) (n : Nat) : Hasher := { h with acc := squeeze h.acc n }

/-- Absorbs a byte string.  The accumulator is rotated by the length; strings of at most
sixteen bytes are mixed with the expand seed, longer ones run through the lanes. -/
def bytes (h : Hasher) (bs : List UInt8) : Hasher :=
  let s0 := rotateRight h.acc bs.length
  let acc := if bs.length ≤ 16 then shortBytes bs s0 expandSeed else longBytes bs s0
  { h with acc }

/-- Absorbs a text: its bytes, then the byte `0xFF`. -/
def text (h : Hasher) (s : String) : Hasher := (h.bytes s.toUTF8.toList).number 8 255

/-- The hash of everything absorbed. -/
def finish (h : Hasher) : UInt64 := if 0 < h.bits then squeeze h.acc h.sponge else h.acc

end Hasher

end Hash

end ValuePaths
