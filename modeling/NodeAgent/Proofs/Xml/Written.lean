import NodeAgent.Proofs.Xml.Data
import NodeAgent.Proofs.Xml.Namespaces

/-!
# Documents as they are written

A document is written as tags, character data, verbatim text, comments and processing instructions, with
white space in many places.  This is all of that, character by character, and which of it is well-formed.
There are no document types.  A name has at most one colon, with a name on both sides.

## Main definitions

* `WrittenAttribute`, `WrittenTag`, `Aside`, `Content`, `Margin`, `Declaration`, `WrittenDocument`: the parts
  of a document; each has `write`, how it is written, and `IsWellFormed`.
* `WrittenTag.IsBound`, `Content.IsBound`: whether namespaces are in order.
* `Content.elements`: the elements in the order of their start tags.
* `Content.Holds`: content that is nothing but characters.
-/

namespace NodeAgent.Xml

open scoped Text

/-- Whether characters are nothing but white space. -/
def IsSpace (cs : List Char) : Prop :=
  ∀ c ∈ cs, isXmlSpace c = true

instance (cs : List Char) : Decidable (IsSpace cs) :=
  inferInstanceAs (Decidable (∀ c ∈ cs, isXmlSpace c = true))

/-! ## Names -/

/-- Whether a text is a name without a prefix. -/
def IsPlainName (name : String) : Prop :=
  (name.toList.head?.map isNameStart).getD false = true ∧
    ∀ c ∈ name.toList, isNameChar c = true ∧ c ≠ ':'

instance (name : String) : Decidable (IsPlainName name) :=
  decidable_of_iff ((name.toList.head?.map isNameStart).getD false = true ∧
    (name.toList.all fun c => isNameChar c && c != ':') = true) (by simp [IsPlainName])

/-- How a name is written, with a colon behind its prefix. -/
def QName.write (n : QName) : List Char :=
  (if n.pre = "" then [] else n.pre.toList ++ [':']) ++ n.localPart.toList

/-- **Names that are well-formed.** -/
structure QName.IsWellFormed (n : QName) : Prop where
  pre : n.pre = "" ∨ IsPlainName n.pre
  localPart : IsPlainName n.localPart

/-! ## Tags -/

/-- **An attribute as it is written.** -/
structure WrittenAttribute where
  /-- White space in front. -/
  gap : List Char := [' ']
  name : QName
  /-- White space around the equals sign. -/
  beforeSign : List Char := []
  behindSign : List Char := []
  quote : Char := '"'
  value : List DataChar

namespace WrittenAttribute

/-- An attribute without the white space in front. -/
def writeBehindGap (a : WrittenAttribute) : List Char :=
  a.name.write ++ (a.beforeSign ++ '=' :: (a.behindSign ++ a.quote :: (writeData a.value ++ [a.quote])))

/-- How an attribute is written. -/
def write (a : WrittenAttribute) : List Char :=
  a.gap ++ a.writeBehindGap

/-- What an attribute means: each white space of its value is a space. -/
def meaning (a : WrittenAttribute) : Attribute :=
  ⟨a.name, String.ofList (settleSpaces (a.value.map DataChar.unit))⟩

/-- **Attributes that are well-formed.** -/
structure IsWellFormed (a : WrittenAttribute) : Prop where
  gap_ne_nil : a.gap ≠ []
  gap : IsSpace a.gap
  beforeSign : IsSpace a.beforeSign
  behindSign : IsSpace a.behindSign
  name : a.name.IsWellFormed
  quote : a.quote = '"' ∨ a.quote = '\''
  value : ∀ d ∈ a.value, d.IsWellFormed ∧ d ≠ .plain a.quote

end WrittenAttribute

/-- How a start tag ends; that of an empty element has a slash. -/
def closing (isEmpty : Bool) : List Char :=
  if isEmpty then ['/', '>'] else ['>']

/-- **The start tag of an element as it is written.** -/
structure WrittenTag where
  name : QName
  attributes : List WrittenAttribute := []
  /-- White space at the end. -/
  space : List Char := []

namespace WrittenTag

/-- How a start tag is written. -/
def write (tag : WrittenTag) (isEmpty : Bool) : List Char :=
  '<' :: (tag.name.write ++
    (tag.attributes.flatMap WrittenAttribute.write ++ (tag.space ++ closing isEmpty)))

/-- How an end tag is written. -/
def writeEnd (tag : WrittenTag) (space : List Char) : List Char :=
  '<' :: '/' :: (tag.name.write ++ (space ++ ['>']))

/-- What the attributes of a tag mean. -/
def meanings (tag : WrittenTag) : List Attribute :=
  tag.attributes.map WrittenAttribute.meaning

/-- The scope inside an element. -/
def scope (tag : WrittenTag) (outer : Scope) : Scope :=
  bindings tag.meanings ++ outer

/-- **Tags that are well-formed**: no attribute is written twice. -/
structure IsWellFormed (tag : WrittenTag) : Prop where
  name : tag.name.IsWellFormed
  attributes : ∀ a ∈ tag.attributes, a.IsWellFormed
  distinct : (tag.attributes.map (·.name)).Nodup
  space : IsSpace tag.space

/-- **Tags in whose names every prefix is bound.**  The prefixes `xml` and `xmlns` are for attributes
only. -/
structure IsBound (outer : Scope) (tag : WrittenTag) : Prop where
  attributes : HasNamespaces outer tag.meanings
  name : tag.name.pre = "" ∨ tag.name.pre ≠ "xmlns" ∧ ((tag.scope outer).lookup tag.name.pre).isSome = true

end WrittenTag

/-! ## Asides -/

/-- **A comment or a processing instruction as it is written.** -/
inductive Aside
  | comment (cs : List Char)
  /-- An instruction, whose text stands behind a target and white space. -/
  | instruction (target gap cs : List Char)

namespace Aside

/-- How an aside is written. -/
def write : Aside → List Char
  | comment cs => "<!--".toList ++ (cs ++ "-->".toList)
  | instruction target gap cs => "<?".toList ++ (target ++ (gap ++ (cs ++ "?>".toList)))

/-- **Asides that are well-formed.**  Hyphens do not touch in a comment, also not at its end. -/
inductive IsWellFormed : Aside → Prop
  | comment {cs : List Char} (hc : ∀ c ∈ cs, isXmlChar c = true)
      (hh : ¬"--".toList <:+: cs ++ ['-']) : IsWellFormed (comment cs)
  | instruction {target gap cs : List Char}
      (hs : (target.head?.map isNameStart).getD false = true) (ht : ∀ c ∈ target, isNameChar c = true)
      (hx : target.map Char.toLower ≠ "xml".toList) (hg : IsSpace gap) (hb : gap = [] → cs = [])
      (hc : ∀ c ∈ cs, isXmlChar c = true) (hf : ∀ c ∈ cs.head?, isXmlSpace c = false)
      (he : ¬"?>".toList <:+: cs) : IsWellFormed (instruction target gap cs)

end Aside

/-! ## Content -/

/-- The end mark of verbatim text stands somewhere. -/
def HoldsEnd (cs : List Char) : Prop :=
  "]]>".toList <:+: cs

instance (cs : List Char) : Decidable (HoldsEnd cs) :=
  inferInstanceAs (Decidable (_ <:+: _))

/-- How verbatim text is written. -/
def writeVerbatim (cs : List Char) : List Char :=
  "<![CDATA[".toList ++ (cs ++ "]]>".toList)

/-- **The content of an element as it is written**, part by part. -/
inductive Content
  | nil
  /-- Character data. -/
  | run (data : List DataChar) (rest : Content)
  /-- Verbatim text. -/
  | verbatim (cs : List Char) (rest : Content)
  | aside (a : Aside) (rest : Content)
  /-- An element with white space in its end tag. -/
  | element (tag : WrittenTag) (inner : Content) (space : List Char) (rest : Content)
  /-- An empty element that is only a tag. -/
  | empty (tag : WrittenTag) (rest : Content)

namespace Content

/-- How content is written. -/
def write : Content → List Char
  | nil => []
  | run data rest => writeData data ++ rest.write
  | verbatim cs rest => writeVerbatim cs ++ rest.write
  | aside a rest => a.write ++ rest.write
  | element tag inner space rest =>
    tag.write false ++ (inner.write ++ (tag.writeEnd space ++ rest.write))
  | empty tag rest => tag.write true ++ rest.write

/-- Whether character data comes first. -/
def StartsWithRun : Content → Prop
  | run .. => True
  | _ => False

/-- **Content that is well-formed.**  A run of character data is all of it up to other content. -/
def IsWellFormed : Content → Prop
  | nil => True
  | run data rest =>
    data ≠ [] ∧ (∀ d ∈ data, d.IsWellFormed) ∧ ¬HoldsEnd (writeData data) ∧ ¬rest.StartsWithRun ∧
      rest.IsWellFormed
  | verbatim cs rest => (∀ c ∈ cs, isXmlChar c = true) ∧ ¬HoldsEnd cs ∧ rest.IsWellFormed
  | aside a rest => a.IsWellFormed ∧ rest.IsWellFormed
  | element tag inner space rest =>
    tag.IsWellFormed ∧ inner.IsWellFormed ∧ IsSpace space ∧ rest.IsWellFormed
  | empty tag rest => tag.IsWellFormed ∧ rest.IsWellFormed

/-- **Content in whose names every prefix is bound.** -/
def IsBound (outer : Scope) : Content → Prop
  | nil => True
  | run _ rest | verbatim _ rest | aside _ rest => rest.IsBound outer
  | element tag inner _ rest => tag.IsBound outer ∧ inner.IsBound (tag.scope outer) ∧ rest.IsBound outer
  | empty tag rest => tag.IsBound outer ∧ rest.IsBound outer

/-- **The elements of content**, each with its local name and what is in it, in the order of their start
tags. -/
def elements : Content → List (String × Content)
  | nil => []
  | run _ rest | verbatim _ rest | aside _ rest => rest.elements
  | element tag inner _ rest => (tag.name.localPart, inner) :: (inner.elements ++ rest.elements)
  | empty tag rest => (tag.name.localPart, nil) :: rest.elements

/-- **Content that holds characters and nothing else**, as character data and verbatim text. -/
inductive Holds : Content → List Char → Prop
  | nil : Holds nil []
  | run (data : List DataChar) {rest : Content} {cs : List Char} (h : rest.Holds cs) :
      Holds (run data rest) (data.map DataChar.char ++ cs)
  | verbatim (verbatim : List Char) {rest : Content} {cs : List Char} (h : rest.Holds cs) :
      Holds (Content.verbatim verbatim rest) (verbatim ++ cs)

end Content

/-! ## Documents -/

/-- **What stands in front of the root or behind it**: asides with white space between them. -/
structure Margin where
  /-- Each aside with the white space in front of it. -/
  asides : List (List Char × Aside) := []
  space : List Char := []

namespace Margin

/-- How a margin is written. -/
def write (m : Margin) : List Char :=
  (m.asides.flatMap fun a => a.1 ++ a.2.write) ++ m.space

/-- **Margins that are well-formed.** -/
structure IsWellFormed (m : Margin) : Prop where
  asides : ∀ a ∈ m.asides, IsSpace a.1 ∧ a.2.IsWellFormed
  space : IsSpace m.space

end Margin

/-- **The declaration at the start of a document**, whose parts are written like attributes. -/
structure Declaration where
  version : WrittenAttribute
  encoding : Option WrittenAttribute := none
  standalone : Option WrittenAttribute := none
  space : List Char := []

namespace Declaration

/-- How a part that may be missing is written. -/
def writePart (part : Option WrittenAttribute) : List Char :=
  part.elim [] WrittenAttribute.write

/-- How a declaration is written. -/
def write (d : Declaration) : List Char :=
  "<?xml".toList ++ (d.version.write ++ (writePart d.encoding ++ (writePart d.standalone ++
    (d.space ++ "?>".toList))))

/-- **Parts of a declaration that are well-formed.**  There are no references in the value, and none of the
marks that mean something elsewhere. -/
structure IsPart (name : String) (part : WrittenAttribute) : Prop where
  wellFormed : part.IsWellFormed
  name : part.name = ⟨"", name⟩
  value : ∀ d ∈ part.value, ∃ c, d = .plain c ∧ isQuiet c = true ∧ c ≠ '?'

/-- **Declarations that are well-formed.** -/
structure IsWellFormed (d : Declaration) : Prop where
  version : IsPart "version" d.version
  encoding : ∀ part ∈ d.encoding, IsPart "encoding" part
  standalone : ∀ part ∈ d.standalone, IsPart "standalone" part
  space : IsSpace d.space

end Declaration

/-- **A document as it is written.** -/
structure WrittenDocument where
  /-- Whether there is a byte order mark in front. -/
  hasMark : Bool := false
  declaration : Option Declaration := none
  before : Margin := {}
  root : Content
  behind : Margin := {}

namespace WrittenDocument

/-- How a document is written. -/
def write (d : WrittenDocument) : List Char :=
  (if d.hasMark then ['\uFEFF'] else []) ++
    (d.declaration.elim [] Declaration.write ++ (d.before.write ++ (d.root.write ++ d.behind.write)))

/-- The text of a document. -/
def text (d : WrittenDocument) : String :=
  String.ofList d.write

/-- Whether content is one element. -/
def IsRoot : Content → Prop
  | .element _ _ _ .nil | .empty _ .nil => True
  | _ => False

/-- **Documents that are well-formed.** -/
structure IsWellFormed (d : WrittenDocument) : Prop where
  declaration : ∀ declaration ∈ d.declaration, declaration.IsWellFormed
  before : d.before.IsWellFormed
  isRoot : IsRoot d.root
  root : d.root.IsWellFormed
  behind : d.behind.IsWellFormed

/-- **Documents in which every prefix is bound.** -/
def IsBound (d : WrittenDocument) : Prop :=
  d.root.IsBound []

end WrittenDocument

end NodeAgent.Xml
