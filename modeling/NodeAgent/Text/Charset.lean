import NodeAgent.Text.LowerCase
import NodeAgent.Text.Split
import NodeAgent.Text.Utf8

/-!
# Character sets

A reply names the character set of its text by a label.  A byte-order mark at the start of the bytes
says more than the label and is no part of the text.  Ill-formed pieces become replacement characters.

## Main definitions

* `Charset`, `Charset.ofLabel?`: the character sets that are told apart, and their labels.
* `Charset.decode`: the text of a sequence of bytes in a character set.
* `decodeMarked`: the same when a byte-order mark may say otherwise.
-/

namespace NodeAgent.Text

/-- **A character set.** -/
inductive Charset
  | utf8
  | utf16LittleEndian
  | utf16BigEndian
  /-- One byte for each character of Western Europe. -/
  | western
deriving DecidableEq, Repr, Inhabited

namespace Charset

/-- The labels of a character set. -/
def labels : Charset → List String
  | utf8 => ["unicode-1-1-utf-8", "unicode11utf8", "unicode20utf8", "utf-8", "utf8",
      "x-unicode20utf8"]
  | utf16LittleEndian => ["csunicode", "iso-10646-ucs-2", "ucs-2", "unicode", "unicodefeff", "utf-16",
      "utf-16le"]
  | utf16BigEndian => ["unicodefffe", "utf-16be"]
  | western => ["ansi_x3.4-1968", "ascii", "cp1252", "cp819", "csisolatin1", "ibm819", "iso-8859-1",
      "iso-ir-100", "iso8859-1", "iso88591", "iso_8859-1", "iso_8859-1:1987", "l1", "latin1",
      "us-ascii", "windows-1252", "x-cp1252"]

/-- All character sets that are told apart. -/
def all : List Charset := [utf8, utf16LittleEndian, utf16BigEndian, western]

/-- **The character set of a label.** -/
def ofLabel? (label : String) : Option Charset :=
  all.find? fun set => set.labels.contains (toLowerAscii (trim label))

/-- The characters for the bytes from `0x80` to `0x9F` in the Western character set. -/
def westernControls : List Nat :=
  [0x20AC, 0x81, 0x201A, 0x192, 0x201E, 0x2026, 0x2020, 0x2021, 0x2C6, 0x2030, 0x160, 0x2039, 0x152,
    0x8D, 0x17D, 0x8F, 0x90, 0x2018, 0x2019, 0x201C, 0x201D, 0x2022, 0x2013, 0x2014, 0x2DC, 0x2122,
    0x161, 0x203A, 0x153, 0x9D, 0x17E, 0x178]

/-- The character for a byte in the Western character set. -/
def westernChar (b : UInt8) : Char :=
  Char.ofNat ((if 0x80 ≤ b ∧ b < 0xA0 then westernControls[b.toNat - 0x80]? else none).getD b.toNat)

/-- Joins pairs of bytes to units of 16 bits; `none` for a byte that is left over. -/
def units16 (littleEndian : Bool) : Bytes → List (Option Nat)
  | [] => []
  | [_] => [none]
  | a :: b :: rest =>
    some (if littleEndian then a.toNat + 256 * b.toNat else 256 * a.toNat + b.toNat)
      :: units16 littleEndian rest

/-- Whether a unit starts a pair of units for one character. -/
def isHighUnit (n : Nat) : Bool :=
  0xD800 ≤ n && n < 0xDC00

/-- Whether a unit ends such a pair. -/
def isLowUnit (n : Nat) : Bool :=
  0xDC00 ≤ n && n < 0xE000

/-- The characters of a sequence of units, with `none` for each ill-formed piece.  A unit that starts a
pair is kept until the next one. -/
def units16Chars : Option Nat → List (Option Nat) → List (Option Char)
  | none, [] => []
  | some _, [] => [none]
  | _, none :: _ => [none]
  | none, some n :: rest =>
    if isHighUnit n then units16Chars (some n) rest
    else (if isLowUnit n then none else some (Char.ofNat n)) :: units16Chars none rest
  | some high, some n :: rest =>
    if isLowUnit n then
      some (Char.ofNat (0x10000 + (high - 0xD800) * 0x400 + (n - 0xDC00))) :: units16Chars none rest
    else if isHighUnit n then none :: units16Chars (some n) rest
    else none :: some (Char.ofNat n) :: units16Chars none rest

/-- The text of a sequence of units of 16 bits. -/
def decodeUtf16Lossy (littleEndian : Bool) (bytes : Bytes) : String :=
  String.ofList ((units16Chars none (units16 littleEndian bytes)).map (·.getD '\uFFFD'))

/-- **The text of a sequence of bytes** in a character set. -/
def decode : Charset → Bytes → String
  | utf8, bytes => decodeUtf8Lossy bytes
  | utf16LittleEndian, bytes => decodeUtf16Lossy true bytes
  | utf16BigEndian, bytes => decodeUtf16Lossy false bytes
  | western, bytes => String.ofList (bytes.map westernChar)

end Charset

/-- **The text of a sequence of bytes.**  A byte-order mark decides about the character set. -/
def decodeMarked (set : Charset) : Bytes → String
  | 0xEF :: 0xBB :: 0xBF :: rest => Charset.utf8.decode rest
  | 0xFF :: 0xFE :: rest => Charset.utf16LittleEndian.decode rest
  | 0xFE :: 0xFF :: rest => Charset.utf16BigEndian.decode rest
  | bytes => set.decode bytes

end NodeAgent.Text
