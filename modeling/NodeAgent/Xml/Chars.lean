import NodeAgent.Text.Number

/-!
# Characters of XML

Which characters a document may hold, and which of them make up names.

## Main definitions

* `isXmlChar`, `isXmlSpace`, `isNameStart`, `isNameChar`: the classes.
* `XmlError`: why a text is no document.
* `reference?`: the character that a reference stands for.
-/

namespace NodeAgent.Xml

open Text

/-- **Why a text is no XML document.** -/
inductive XmlError
  | unexpectedEnd
  | badCharacter
  | badName
  | badReference
  | badComment
  | badMarkup
  | documentType
  | unboundName
  | badNamespace
  | repeatedAttribute
  | unmatchedTag
  | noRoot
deriving DecidableEq, Repr, Inhabited

/-- What is said about a text that is no document. -/
def XmlError.message : XmlError → String
  | unexpectedEnd => "unexpected end of the document"
  | badCharacter => "a character that is not allowed"
  | badName => "invalid name"
  | badReference => "malformed or unknown reference"
  | badComment => "malformed comment"
  | badMarkup => "malformed markup"
  | documentType => "document type declarations are not supported"
  | unboundName => "unknown namespace"
  | badNamespace => "invalid namespace declaration"
  | repeatedAttribute => "repeated attribute"
  | unmatchedTag => "tags do not match"
  | noRoot => "the document has no root"

/-- Space between the parts of a tag. -/
def isXmlSpace (c : Char) : Bool :=
  c == ' ' || c == '\t' || c == '\n' || c == '\r'

/-- **What a document may hold.** -/
def isXmlChar (c : Char) : Bool :=
  if c.toNat < 0x20 then isXmlSpace c else c.toNat ≠ 0xFFFE && c.toNat ≠ 0xFFFF

/-- The ranges of the characters beyond ASCII that may start a name. -/
def nameStartRanges : List (Nat × Nat) := [
  (0xC0, 0xD6), (0xD8, 0xF6), (0xF8, 0x2FF), (0x370, 0x37D), (0x37F, 0x1FFF), (0x200C, 0x200D),
  (0x2070, 0x218F), (0x2C00, 0x2FEF), (0x3001, 0xD7FF), (0xF900, 0xFDCF), (0xFDF0, 0xFFFD),
  (0x10000, 0xEFFFF)]

/-- Whether a number lies in one of the ranges. -/
def inAnyRange (ranges : List (Nat × Nat)) (n : Nat) : Bool :=
  ranges.any fun (first, last) => first ≤ n && n ≤ last

/-- **What may start a name.** -/
def isNameStart (c : Char) : Bool :=
  if c.toNat ≤ 0x80 then c.isAlpha || c == ':' || c == '_' else inAnyRange nameStartRanges c.toNat

/-- **What a name may hold.** -/
def isNameChar (c : Char) : Bool :=
  if c.toNat ≤ 0x80 then c.isAlphanum || c == ':' || c == '_' || c == '-' || c == '.'
  else
    inAnyRange nameStartRanges c.toNat || c.toNat == 0xB7
      || (0x300 ≤ c.toNat && c.toNat ≤ 0x36F) || c.toNat == 0x203F || c.toNat == 0x2040

/-- The number that digits of a radix stand for, if there is one of 32 bits. -/
def digitsValue? (radix : Nat) (cs : List Char) : Option Nat :=
  match cs.mapM fun c => (hexValue? c).filter (· < radix) with
  | none | some [] => none
  | some digits =>
    let n := digits.foldl (fun n d => n * radix + d) 0
    if n < UInt32.size then some n else none

/-- The character of a number; a number that is none gives the replacement character. -/
def numberedChar? (n : Nat) : Option Char :=
  let c := if n.isValidChar then Char.ofNat n else '\uFFFD'
  if isXmlChar c then some c else none

/-- **The character that a reference stands for**, by its name or number. -/
def reference? : List Char → Option Char
  | ['q', 'u', 'o', 't'] => some '"'
  | ['a', 'm', 'p'] => some '&'
  | ['a', 'p', 'o', 's'] => some '\''
  | ['l', 't'] => some '<'
  | ['g', 't'] => some '>'
  | '#' :: 'x' :: digits => (digitsValue? 16 digits).bind numberedChar?
  | '#' :: digits => (digitsValue? 10 digits).bind numberedChar?
  | _ => none

end NodeAgent.Xml
