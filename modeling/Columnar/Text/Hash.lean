/-!
# The content hash of a text

A 64-bit hash of the UTF-8 bytes of a text, used to spread text keys over the
buckets of a join.  Two 64-bit lanes absorb the bytes in little-endian words — the
first and last words of a short text, all sixteen-byte blocks of a long one — and
are folded together by a multiplication whose two halves are combined.  A final
multiplication and rotation move the entropy to the low bits, which choose the
bucket.

The particular constants matter only because the order of buckets can be seen: a
join by another comparison than equality finds exactly the matches within buckets.

## Main definitions

* `Text.mix` — the folded 128-bit product of two words.
* `Text.hashBytes` — the lanes folded over a byte sequence.
* `Text.hash` — the hash of a text.
-/

namespace Columnar

namespace Text

/-- The 128-bit product of two words, its high half combined into its low half. -/
def mix (x y : UInt64) : UInt64 :=
  let product := x.toNat * y.toNat
  UInt64.ofNat product ^^^ UInt64.ofNat (product >>> 64)

/-- Bytes read as one little-endian number. -/
def littleEndian (bytes : List UInt8) : UInt64 :=
  bytes.foldr (fun b n => (n <<< 8) ||| b.toUInt64) 0

/-- The two lanes of the hash. -/
structure Lanes where
  /-- The lane that absorbs the start of the text. -/
  first : UInt64
  /-- The lane that absorbs its end. -/
  second : UInt64
  deriving DecidableEq, Repr

/-- The lanes before any byte. -/
def Lanes.seed : Lanes := ⟨0x243f6a8885a308d3, 0x13198a2e03707344⟩

/-- Combines a word into each lane. -/
def Lanes.absorb (l : Lanes) (x y : UInt64) : Lanes := ⟨l.first ^^^ x, l.second ^^^ y⟩

/-- Absorbs one sixteen-byte block: the lanes shift by one, and the folded product of
the block enters behind. -/
def Lanes.absorbBlock (l : Lanes) (block : List UInt8) : Lanes :=
  ⟨l.second,
    mix (l.first ^^^ littleEndian (block.take 8))
      (0xa4093822299f31d0 ^^^ littleEndian (block.drop 8))⟩

/-- Absorbs the first `n` sixteen-byte blocks. -/
def Lanes.absorbBlocks (l : Lanes) : Nat → List UInt8 → Lanes
  | 0, _ => l
  | n + 1, bytes => (l.absorbBlock (bytes.take 16)).absorbBlocks n (bytes.drop 16)

/-- The last `n` bytes. -/
def lastBytes (n : Nat) (bytes : List UInt8) : List UInt8 := bytes.drop (bytes.length - n)

/-- The lanes after all bytes.  The words taken from the two ends overlap unless the
text is long enough for both. -/
def lanes (bytes : List UInt8) : Lanes :=
  let n := bytes.length
  let seed := Lanes.seed
  if n = 0 then seed
  else if n < 4 then
    seed.absorb (littleEndian (bytes.take 1))
      ((littleEndian (lastBytes 1 bytes) <<< 8) ||| littleEndian ((bytes.drop (n / 2)).take 1))
  else if n < 8 then
    seed.absorb (littleEndian (bytes.take 4)) (littleEndian (lastBytes 4 bytes))
  else if n ≤ 16 then
    seed.absorb (littleEndian (bytes.take 8)) (littleEndian (lastBytes 8 bytes))
  else
    let tail := lastBytes 16 bytes
    (seed.absorbBlocks ((n - 1) / 16) bytes).absorb
      (littleEndian (tail.take 8)) (littleEndian (tail.drop 8))

/-- The hash of a byte sequence before the final multiplication. -/
def hashBytes (bytes : List UInt8) : UInt64 :=
  let l := lanes bytes
  mix l.first l.second ^^^ UInt64.ofNat bytes.length

/-- A word rotated to the left. -/
def rotateLeft (x : UInt64) (n : UInt64) : UInt64 := (x <<< n) ||| (x >>> (64 - n))

/-- The hash of a text, read as a signed integer. -/
def hash (text : String) : Int64 :=
  let h := hashBytes text.toUTF8.data.toList
  (rotateLeft (h * 0xf1357aea2e62a9c5) 26).toInt64

end Text

end Columnar
