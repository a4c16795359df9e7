/-!
# Bytes and characters

Files, datagrams and replies are bytes; what they mean is text in UTF-8.  The decoder reads one byte at
a time and keeps what it still expects.  It reports each character, and each ill-formed piece once.

## Main definitions

* `Bytes`: a sequence of bytes.
* `encodeUtf8`: the bytes of a text.
* `decodeUnits`: the characters and ill-formed pieces of a sequence of bytes.
* `decodeUtf8?`, `decodeUtf8Lossy`: reading that refuses ill-formed pieces, or replaces them.
-/

namespace NodeAgent

/-- A sequence of bytes. -/
abbrev Bytes := List UInt8

namespace Text

/-- The bytes of a text. -/
def encodeUtf8 (s : String) : Bytes :=
  s.toList.flatMap String.utf8EncodeChar

/-- **What the decoder expects**: how many bytes complete the character, its bits so far, and the
range of the next byte. -/
structure Pending where
  missing : Nat
  bits : Nat
  lowest : UInt8 := 0x80
  highest : UInt8 := 0xBF

/-- Reads the first byte of a character: a whole character, the start of a longer one, or neither. -/
def firstByte (b : UInt8) : Option (Char ⊕ Pending) :=
  if b < 0x80 then some (.inl (Char.ofNat b.toNat))
  else if 0xC2 ≤ b ∧ b ≤ 0xDF then some (.inr { missing := 1, bits := b.toNat % 32 })
  else if b = 0xE0 then some (.inr { missing := 2, bits := 0, lowest := 0xA0 })
  else if b = 0xED then some (.inr { missing := 2, bits := 13, highest := 0x9F })
  else if 0xE1 ≤ b ∧ b ≤ 0xEF then some (.inr { missing := 2, bits := b.toNat % 16 })
  else if b = 0xF0 then some (.inr { missing := 3, bits := 0, lowest := 0x90 })
  else if b = 0xF4 then some (.inr { missing := 3, bits := 4, highest := 0x8F })
  else if 0xF1 ≤ b ∧ b ≤ 0xF3 then some (.inr { missing := 3, bits := b.toNat % 8 })
  else none

/-- The characters of a sequence of bytes, in order, with `none` for each ill-formed piece. -/
def decodeFrom : Option Pending → Bytes → List (Option Char)
  | none, [] => []
  | some _, [] => [none]
  | none, b :: rest =>
    match firstByte b with
    | some (.inl c) => some c :: decodeFrom none rest
    | some (.inr pending) => decodeFrom (some pending) rest
    | none => none :: decodeFrom none rest
  | some pending, b :: rest =>
    if pending.lowest ≤ b ∧ b ≤ pending.highest then
      let bits := pending.bits * 64 + b.toNat % 64
      if pending.missing ≤ 1 then some (Char.ofNat bits) :: decodeFrom none rest
      else decodeFrom (some { missing := pending.missing - 1, bits := bits }) rest
    else
      none ::
        match firstByte b with
        | some (.inl c) => some c :: decodeFrom none rest
        | some (.inr next) => decodeFrom (some next) rest
        | none => none :: decodeFrom none rest

/-- **The characters and ill-formed pieces** of a sequence of bytes. -/
def decodeUnits (bytes : Bytes) : List (Option Char) :=
  decodeFrom none bytes

/-- The text of a sequence of bytes; `none` if a piece is ill-formed. -/
def decodeUtf8? (bytes : Bytes) : Option String :=
  ((decodeUnits bytes).mapM id).map String.ofList

/-- The text of a sequence of bytes, with a replacement character for each ill-formed piece. -/
def decodeUtf8Lossy (bytes : Bytes) : String :=
  String.ofList ((decodeUnits bytes).map (·.getD '\uFFFD'))

end Text

end NodeAgent
