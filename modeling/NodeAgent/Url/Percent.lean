import NodeAgent.Text.Number

/-!
# Percent encoding

A URL is made of ASCII characters.  Any other character, and a few ASCII characters depending on where
they stand, are written as the bytes of their UTF-8 form, each as a percent sign and two hexadecimal
digits.

## Main definitions

* `percentEncode`: encodes the characters of a set.
* `percentDecode`: the bytes that a text stands for.
* `formEncode`: a name or value in a query made of fields.
* `isControl` and the sets that grow from it: `inFragment`, `inQuery`, `inPath`, `inUserinfo`.
-/

namespace NodeAgent

open Text

/-- A digit of a percent escape. -/
def upperHexDigit (n : Nat) : Char :=
  if n < 10 then Char.ofNat (0x30 + n) else Char.ofNat (0x37 + n)

/-- A byte as a percent escape. -/
def percentByte (b : UInt8) : List Char :=
  ['%', upperHexDigit (b.toNat / 16), upperHexDigit (b.toNat % 16)]

/-- A character as percent escapes of its UTF-8 bytes. -/
def percentChar (c : Char) : List Char :=
  (String.utf8EncodeChar c).flatMap percentByte

/-- **Encodes the characters of a set**, and all beyond ASCII. -/
def percentEncode (inSet : Char → Bool) (cs : List Char) : List Char :=
  cs.flatMap fun c => if 0x80 ≤ c.toNat || inSet c then percentChar c else [c]

/-- **The bytes that a text stands for.**  A percent sign without two hexadecimal digits behind it
stands for itself. -/
def percentDecode : List Char → Bytes
  | [] => []
  | '%' :: a :: b :: rest =>
    match hexValue? a, hexValue? b with
    | some x, some y => (x * 16 + y).toUInt8 :: percentDecode rest
    | _, _ => '%'.toUInt8 :: percentDecode (a :: b :: rest)
  | c :: rest => String.utf8EncodeChar c ++ percentDecode rest

/-- Control characters. -/
def isControl (c : Char) : Bool :=
  c.toNat < 0x20 || c.toNat == 0x7F

/-- What is encoded in a fragment. -/
def inFragment (c : Char) : Bool :=
  isControl c || c == ' ' || c == '"' || c == '<' || c == '>' || c.toNat == 0x60

/-- What is encoded in a query. -/
def inQuery (c : Char) : Bool :=
  isControl c || c == ' ' || c == '"' || c == '#' || c == '<' || c == '>'

/-- What is encoded in the query of a special scheme. -/
def inSpecialQuery (c : Char) : Bool :=
  inQuery c || c == '\''

/-- What is encoded in a path. -/
def inPath (c : Char) : Bool :=
  inFragment c || c == '#' || c == '?' || c == '\x7b' || c == '\x7d'

/-- What is encoded in a user name or password. -/
def inUserinfo (c : Char) : Bool :=
  inPath c || c == '/' || c == ':' || c == ';' || c == '=' || c == '@' || c == '[' || c == '\\'
    || c == ']' || c == '^' || c == '|'

/-- Whether a character stands for itself in a query made of fields. -/
def isFormChar (c : Char) : Bool :=
  ('a' ≤ c && c ≤ 'z') || ('A' ≤ c && c ≤ 'Z') || ('0' ≤ c && c ≤ '9') || c == '*' || c == '-'
    || c == '.' || c == '_'

/-- **A name or value in a query made of fields.**  A space becomes a plus sign. -/
def formEncode (s : String) : String :=
  String.ofList <| s.toList.flatMap fun c =>
    if isFormChar c then [c] else if c == ' ' then ['+'] else percentChar c

/-- A query made of fields. -/
def formQuery (fields : List (String × String)) : String :=
  "&".intercalate (fields.map fun (name, value) => formEncode name ++ "=" ++ formEncode value)

end NodeAgent
