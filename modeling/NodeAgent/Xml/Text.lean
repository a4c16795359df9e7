import NodeAgent.Xml.Chars

/-!
# Character data

Text in a document and values of attributes hold references to characters, and line ends of several
kinds.  A line end is one line feed in the end, except where it touches a reference: a carriage return
right in front of a reference, or one that a reference stands for, stays.

## Main definitions

* `DataUnit`, `dataUnits`: written characters and references.
* `textData`: the characters of a text.
* `attributeData`: the characters of the value of an attribute.
-/

namespace NodeAgent.Xml

/-- **A character of character data**: one that is written, or one that is referred to. -/
inductive DataUnit
  | written (c : Char)
  | referred (c : Char)
deriving DecidableEq, Repr

/-- Reads character data.  `pending` holds what was read of a reference, reversed. -/
def dataUnitsFrom : Option (List Char) → List Char → Except XmlError (List DataUnit)
  | none, [] => .ok []
  | some _, [] => .error .badReference
  | none, c :: rest =>
    if c = '&' then dataUnitsFrom (some []) rest
    else (dataUnitsFrom none rest).map (.written c :: ·)
  | some pending, c :: rest =>
    if c = ';' then
      match reference? pending.reverse with
      | some r => (dataUnitsFrom none rest).map (.referred r :: ·)
      | none => .error .badReference
    else dataUnitsFrom (some (c :: pending)) rest

/-- **The characters of character data**, written or referred to. -/
def dataUnits (cs : List Char) : Except XmlError (List DataUnit) :=
  dataUnitsFrom none cs

/-- Puts a written character behind text, which is reversed, and settles a line end before it. -/
def putWritten (c : Char) (atEnd : Bool) : List Char → List Char
  | '\r' :: before =>
    if atEnd && c == '\r' then '\n' :: '\n' :: before
    else if c == '\n' then '\n' :: before
    else c :: '\n' :: before
  | before => if atEnd && c == '\r' then '\n' :: before else c :: before

/-- Settles the line ends behind text, which is reversed.  A character right behind a reference is
taken as it is. -/
def settleLines (before : List Char) (behindReference : Bool) : List DataUnit → List Char
  | [] => before.reverse
  | .referred c :: rest => settleLines (c :: before) true rest
  | .written c :: rest =>
    if behindReference then settleLines (c :: before) false rest
    else settleLines (putWritten c rest.isEmpty before) false rest

/-- **The characters of a text.** -/
def textData (cs : List Char) : Except XmlError (List Char) :=
  (dataUnits cs).map (settleLines [] false)

/-- The characters of a text without references. -/
def verbatimData (cs : List Char) : List Char :=
  settleLines [] false (cs.map .written)

/-- Each white space of a value is a space; a carriage return and a line feed are one. -/
def settleSpaces : List DataUnit → List Char
  | [] => []
  | .written '\r' :: .written '\n' :: rest => ' ' :: settleSpaces rest
  | .written c :: rest => (if isXmlSpace c then ' ' else c) :: settleSpaces rest
  | .referred c :: rest => c :: settleSpaces rest

/-- **The characters of the value of an attribute.** -/
def attributeData (cs : List Char) : Except XmlError (List Char) :=
  (dataUnits cs).map settleSpaces

end NodeAgent.Xml
