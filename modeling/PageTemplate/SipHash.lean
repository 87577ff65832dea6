/-
The hash SipHash of a sequence of bytes under the key of zeros, with one round for every eight bytes
and three rounds at the end. The bytes are gathered into words, the lowest byte first; the last word
is filled up with the number of all bytes in its highest byte.
-/

namespace PageTemplate

/-- A hash that is being computed. -/
structure SipHash where
  v0 : UInt64
  v1 : UInt64
  v2 : UInt64
  v3 : UInt64
  /-- The bytes of the word that is not full yet. -/
  pending : UInt64
  /-- The number of bytes so far. -/
  count : Nat
  deriving DecidableEq, Repr

namespace SipHash

/-- The hash of no bytes, before its end. -/
def empty : SipHash :=
  ⟨0x736f6d6570736575, 0x646f72616e646f6d, 0x6c7967656e657261, 0x7465646279746573, 0, 0⟩

/-- The bits of a word moved up by `n` places; those that leave it come in again below. -/
def rotated (x n : UInt64) : UInt64 := (x <<< n) ||| (x >>> (64 - n))

/-- One round of mixing. -/
def round (h : SipHash) : SipHash :=
  let v0 := h.v0 + h.v1
  let v1 := rotated h.v1 13 ^^^ v0
  let v2 := h.v2 + h.v3
  let v3 := rotated h.v3 16 ^^^ v2
  let v0 := rotated v0 32 + v3
  let v3 := rotated v3 21 ^^^ v0
  let v2 := v2 + v1
  let v1 := rotated v1 17 ^^^ v2
  { h with v0, v1, v2 := rotated v2 32, v3 }

/-- Takes in a word. -/
def absorb (h : SipHash) (word : UInt64) : SipHash :=
  let h := round { h with v3 := h.v3 ^^^ word }
  { h with v0 := h.v0 ^^^ word }

/-- Takes in a byte. -/
def add (h : SipHash) (byte : UInt8) : SipHash :=
  let word := h.pending ||| (byte.toUInt64 <<< UInt64.ofNat (8 * (h.count % 8)))
  if h.count % 8 = 7 then { h.absorb word with pending := 0, count := h.count + 1 }
  else { h with pending := word, count := h.count + 1 }

/-- The hash of the bytes that were taken in. -/
def finish (h : SipHash) : UInt64 :=
  let h := h.absorb (h.pending ||| (UInt64.ofNat h.count <<< 56))
  let h := round (round (round { h with v2 := h.v2 ^^^ 0xFF }))
  h.v0 ^^^ h.v1 ^^^ h.v2 ^^^ h.v3

/-- The hash of a sequence of bytes. -/
def ofBytes (bytes : List UInt8) : UInt64 := (bytes.foldl add empty).finish

end SipHash

end PageTemplate
