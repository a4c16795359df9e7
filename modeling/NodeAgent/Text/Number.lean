import NodeAgent.Text.Utf8

/-!
# Whole numbers in text

Numbers in files, variables and arguments are decimal digits after an optional sign.  Reading one can
fail for three reasons of its own, and each reader has a range.  Digests, escapes and addresses are
written in hexadecimal, with small letters; either case is read.

## Main definitions

* `NumberError`: why a text is not a number of the range.
* `readNat`: a number from `0` to a bound.
* `readInt`: a number between two bounds.
* `hexValue?`: the value of a hexadecimal digit.
* `hexDigits`, `hexText`: the hexadecimal digits of a number and of a sequence of bytes.
-/

namespace NodeAgent.Text

/-- Why a text is not a number of the wanted range. -/
inductive NumberError
  /-- There is nothing to read. -/
  | empty
  /-- A character is no digit, or there is only a sign. -/
  | invalidDigit
  /-- The number is above the range. -/
  | tooLarge
  /-- The number is below the range. -/
  | tooSmall
deriving DecidableEq, Repr

/-- What is said about a text that is not a number. -/
def NumberError.message : NumberError → String
  | .empty => "cannot parse integer from empty string"
  | .invalidDigit => "invalid digit found in string"
  | .tooLarge => "number too large to fit in target type"
  | .tooSmall => "number too small to fit in target type"

/-- The value of a decimal digit. -/
def digit? (c : Char) : Option Nat :=
  if '0' ≤ c ∧ c ≤ '9' then some (c.toNat - '0'.toNat) else none

/-- Reads digits behind the value read so far.  A number that leaves the range is found out where it
does, so that a bad character further on no longer counts. -/
def readDigits (bound : Nat) (overflow : NumberError) : Nat → List Char → Except NumberError Nat
  | value, [] => .ok value
  | value, c :: rest =>
    match digit? c with
    | none => .error .invalidDigit
    | some d =>
      if bound < value * 10 + d then .error overflow
      else readDigits bound overflow (value * 10 + d) rest

/-- **A number from `0` to a bound**, with an optional plus sign in front. -/
def readNat (bound : Nat) (s : String) : Except NumberError Nat :=
  match s.toList with
  | [] => .error .empty
  | ['+'] | ['-'] => .error .invalidDigit
  | '+' :: rest => readDigits bound .tooLarge 0 rest
  | cs => readDigits bound .tooLarge 0 cs

/-- **A number between two bounds**, with an optional sign in front.  The lower bound is given by its
distance below zero. -/
def readInt (below bound : Nat) (s : String) : Except NumberError Int :=
  match s.toList with
  | [] => .error .empty
  | ['+'] | ['-'] => .error .invalidDigit
  | '+' :: rest => (readDigits bound .tooLarge 0 rest).map Int.ofNat
  | '-' :: rest => (readDigits below .tooSmall 0 rest).map fun n => -Int.ofNat n
  | cs => (readDigits bound .tooLarge 0 cs).map Int.ofNat

/-- Reads a process id or another number of 32 bits. -/
def readUInt32 (s : String) : Except NumberError UInt32 :=
  (readNat (UInt32.size - 1) s).map Nat.toUInt32

/-- Reads a port number. -/
def readUInt16 (s : String) : Except NumberError UInt16 :=
  (readNat (UInt16.size - 1) s).map Nat.toUInt16

/-- Reads a number of 64 bits. -/
def readUInt64 (s : String) : Except NumberError UInt64 :=
  (readNat (UInt64.size - 1) s).map Nat.toUInt64

/-- Reads a signed number of 64 bits. -/
def readInt64 (s : String) : Except NumberError Int64 :=
  (readInt (1 <<< 63) ((1 <<< 63) - 1) s).map Int64.ofInt

/-! ## Hexadecimal numbers -/

/-- The value of a hexadecimal digit. -/
def hexValue? (c : Char) : Option Nat :=
  if '0' ≤ c ∧ c ≤ '9' then some (c.toNat - 0x30)
  else if 'a' ≤ c ∧ c ≤ 'f' then some (c.toNat - 0x57)
  else if 'A' ≤ c ∧ c ≤ 'F' then some (c.toNat - 0x37)
  else none

/-- A number in lower-case hexadecimal, without leading zeros. -/
def hexDigits (n : Nat) : List Char :=
  Nat.toDigits 16 n

/-- A byte as two lower-case hexadecimal digits. -/
def byteHex (b : UInt8) : List Char :=
  [Nat.digitChar (b.toNat / 16), Nat.digitChar (b.toNat % 16)]

/-- Bytes in lower-case hexadecimal. -/
def hexText (bytes : Bytes) : String :=
  String.ofList (bytes.flatMap byteHex)

end NodeAgent.Text
