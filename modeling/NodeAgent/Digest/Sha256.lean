import NodeAgent.Text.Number

/-!
# The digest SHA-256

A message is padded to whole blocks of sixteen words.  Each block mixes the eight words of a chaining
value in sixty-four rounds; the last chaining value is the digest.  The message schedule is a window of
sixteen words that moves on by one word a round.

## Main definitions

* `padded`: the message with its end mark and its length.
* `compress`: what one block does to a chaining value.
* `sha256`, `sha256Hex`: the digest as bytes, and in lower-case hexadecimal.
-/

namespace NodeAgent.Digest

/-- **A chaining value.** -/
structure Chain where
  a : UInt32
  b : UInt32
  c : UInt32
  d : UInt32
  e : UInt32
  f : UInt32
  g : UInt32
  h : UInt32
deriving DecidableEq, Repr

/-- The chaining value before the first block. -/
def Chain.start : Chain :=
  ⟨0x6a09e667, 0xbb67ae85, 0x3c6ef372, 0xa54ff53a, 0x510e527f, 0x9b05688c, 0x1f83d9ab, 0x5be0cd19⟩

/-- The words of a chaining value. -/
def Chain.words (s : Chain) : List UInt32 :=
  [s.a, s.b, s.c, s.d, s.e, s.f, s.g, s.h]

/-- Adds two chaining values word by word. -/
def Chain.add (s t : Chain) : Chain :=
  ⟨s.a + t.a, s.b + t.b, s.c + t.c, s.d + t.d, s.e + t.e, s.f + t.f, s.g + t.g, s.h + t.h⟩

/-- The constants of the sixty-four rounds. -/
def roundConstants : List UInt32 := [
  0x428a2f98, 0x71374491, 0xb5c0fbcf, 0xe9b5dba5, 0x3956c25b, 0x59f111f1, 0x923f82a4, 0xab1c5ed5,
  0xd807aa98, 0x12835b01, 0x243185be, 0x550c7dc3, 0x72be5d74, 0x80deb1fe, 0x9bdc06a7, 0xc19bf174,
  0xe49b69c1, 0xefbe4786, 0x0fc19dc6, 0x240ca1cc, 0x2de92c6f, 0x4a7484aa, 0x5cb0a9dc, 0x76f988da,
  0x983e5152, 0xa831c66d, 0xb00327c8, 0xbf597fc7, 0xc6e00bf3, 0xd5a79147, 0x06ca6351, 0x14292967,
  0x27b70a85, 0x2e1b2138, 0x4d2c6dfc, 0x53380d13, 0x650a7354, 0x766a0abb, 0x81c2c92e, 0x92722c85,
  0xa2bfe8a1, 0xa81a664b, 0xc24b8b70, 0xc76c51a3, 0xd192e819, 0xd6990624, 0xf40e3585, 0x106aa070,
  0x19a4c116, 0x1e376c08, 0x2748774c, 0x34b0bcb5, 0x391c0cb3, 0x4ed8aa4a, 0x5b9cca4f, 0x682e6ff3,
  0x748f82ee, 0x78a5636f, 0x84c87814, 0x8cc70208, 0x90befffa, 0xa4506ceb, 0xbef9a3f7, 0xc67178f2]

/-- Rotates a word to the right; the distance is between zero and the width. -/
def rotated (w distance : UInt32) : UInt32 :=
  (w >>> distance) ||| (w <<< (32 - distance))

/-- The word that comes after a window of sixteen words. -/
def nextWord (window : List UInt32) : UInt32 :=
  let word (i : Nat) : UInt32 := window.getD i 0
  let small0 (w : UInt32) : UInt32 := rotated w 7 ^^^ rotated w 18 ^^^ (w >>> 3)
  let small1 (w : UInt32) : UInt32 := rotated w 17 ^^^ rotated w 19 ^^^ (w >>> 10)
  word 0 + small0 (word 1) + word 9 + small1 (word 14)

/-- One round with its constant and its word. -/
def round (s : Chain) (constant word : UInt32) : Chain :=
  let big1 := rotated s.e 6 ^^^ rotated s.e 11 ^^^ rotated s.e 25
  let choice := (s.e &&& s.f) ^^^ (~~~s.e &&& s.g)
  let first := s.h + big1 + choice + constant + word
  let big0 := rotated s.a 2 ^^^ rotated s.a 13 ^^^ rotated s.a 22
  let majority := (s.a &&& s.b) ^^^ (s.a &&& s.c) ^^^ (s.b &&& s.c)
  ⟨first + (big0 + majority), s.a, s.b, s.c, s.d + first, s.e, s.f, s.g⟩

/-- The rounds with the given constants, each of which uses the first word of the window. -/
def rounds : List UInt32 → List UInt32 → Chain → Chain
  | [], _, s => s
  | constant :: constants, window, s =>
    rounds constants (window.drop 1 ++ [nextWord window]) (round s constant (window.headD 0))

/-- **What one block does to a chaining value.** -/
def compress (s : Chain) (block : List UInt32) : Chain :=
  s.add (rounds roundConstants block s)

/-- The bytes of a number, the most significant one first. -/
def bigEndian (count n : Nat) : Bytes :=
  (List.range count).map fun i => (n >>> (8 * (count - 1 - i))).toUInt8

/-- The number of zero bytes between the end mark and the length. -/
def paddingZeros (size : Nat) : Nat :=
  (119 - size % 64) % 64

/-- **The padded message**: an end mark, zeros, and the length in bits. -/
def padded (message : Bytes) : Bytes :=
  message ++ [0x80] ++ List.replicate (paddingZeros message.length) 0
    ++ bigEndian 8 (message.length * 8)

/-- The words of a message, the most significant byte of each first. -/
def wordsOf : Bytes → List UInt32
  | a :: b :: c :: d :: rest =>
    (a.toUInt32 <<< 24 ||| b.toUInt32 <<< 16 ||| c.toUInt32 <<< 8 ||| d.toUInt32) :: wordsOf rest
  | _ => []

/-- The chaining value after all whole blocks of a list of words. -/
def absorb (s : Chain) (words : List UInt32) : Chain :=
  if words.length < 16 then s
  else absorb (compress s (words.take 16)) (words.drop 16)
termination_by words.length
decreasing_by simp only [List.length_drop]; omega

/-- **The digest of a message.** -/
def sha256 (message : Bytes) : Bytes :=
  (absorb .start (wordsOf (padded message))).words.flatMap fun w => bigEndian 4 w.toNat

/-- The digest of a message in lower-case hexadecimal. -/
def sha256Hex (message : Bytes) : String :=
  Text.hexText (sha256 message)

end NodeAgent.Digest
