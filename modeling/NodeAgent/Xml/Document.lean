import NodeAgent.Text.Reader
import NodeAgent.Text.Split
import NodeAgent.Xml.Text

/-!
# XML documents

A document is one element with comments and processing instructions around it.  Elements hold text,
elements, comments and instructions.  There are no document types.  Prefixes of names have to be bound
to namespaces, and no element has two attributes of one name.

## Main definitions

* `XmlNode`: a document as a tree.
* `parseXml`: reading a document.
* `XmlNode.leadingText`: the text in front of everything else in an element.
* `elementText?`: the trimmed leading text of the first element of a name.
-/

namespace NodeAgent.Xml

open Text

/-- **A node of a document.** -/
inductive XmlNode
  | element (localName : String) (children : List XmlNode)
  | text (content : String)
  /-- A comment or a processing instruction. -/
  | aside
deriving Repr, Inhabited

/-- A reader of a part of a document. -/
abbrev XmlReader := Reader XmlError

/-! ## Reading the parts of tags -/

/-- Reads a text that has to be there. -/
def expect (text : String) : XmlReader Unit :=
  Reader.takeText text .badMarkup

/-- Reads white space; tells whether there was any. -/
def spaces : XmlReader Bool := fun cs =>
  let rest := cs.dropWhile isXmlSpace
  .ok (rest.length < cs.length, rest)

/-- Reads up to a point in the rest of the text, or to its end. -/
def charsUntil (stop : List Char → Bool) : XmlReader (List Char)
  | [] => .ok ([], [])
  | c :: rest =>
    if !isXmlChar c then .error .badCharacter
    else if stop (c :: rest) then .ok ([], c :: rest)
    else
      match charsUntil stop rest with
      | .ok (cs, rest) => .ok (c :: cs, rest)
      | .error e => .error e

/-- Reads up to a text that has to come, and behind it. -/
def charsThrough (stop : String) : XmlReader (List Char) := do
  let cs ← charsUntil fun rest => (afterPrefix? stop.toList rest).isSome
  expect stop
  return cs

/-- **A name**: a prefix, which may be empty, and a local part. -/
structure QName where
  pre : String
  localPart : String
deriving DecidableEq, Repr, Inhabited

/-- The name of a text of name characters; its prefix ends at the only colon. -/
def qname? (cs : List Char) : Option QName :=
  let start (cs : List Char) : Bool := (cs.head?.map isNameStart).getD false
  match splitAtFirst (· == ':') cs with
  | none => if start cs then some ⟨"", String.ofList cs⟩ else none
  | some (pre, part) =>
    if part.contains ':' || !start part || !(pre.isEmpty || start pre) then none
    else some ⟨String.ofList pre, String.ofList part⟩

/-- Reads a name with an optional prefix. -/
def qname : XmlReader QName := fun cs =>
  match qname? (cs.takeWhile isNameChar) with
  | some name => .ok (name, cs.dropWhile isNameChar)
  | none => .error .badName

/-- Reads a name without regard to prefixes. -/
def plainName : XmlReader Unit := fun cs =>
  match cs with
  | [] => .error .badName
  | c :: rest => if isNameStart c then .ok ((), rest.dropWhile isNameChar) else .error .badName

/-- An attribute as it is written. -/
structure Attribute where
  name : QName
  value : String
deriving DecidableEq, Repr, Inhabited

/-- Reads an attribute, whose value stays as it is written. -/
def writtenAttribute : XmlReader Attribute := do
  let name ← qname
  let _ ← spaces
  expect "="
  let _ ← spaces
  let quote : Char := if ← Reader.comesNext "'" then '\'' else '"'
  expect (String.singleton quote)
  let value ← charsUntil fun rest => rest.head? == some quote || rest.head? == some '<'
  expect (String.singleton quote)
  return ⟨name, String.ofList value⟩

/-- Reads an attribute. -/
def valuedAttribute : XmlReader Attribute := do
  let a ← writtenAttribute
  match attributeData a.value.toList with
  | .ok value => return { a with value := String.ofList value }
  | .error e => throw e

/-! ## Namespaces -/

/-- The bindings of prefixes, inner ones first.  The empty prefix stands for names without one. -/
abbrev Scope := List (String × String)

/-- How the names of the namespaces that XML itself uses begin. -/
def standardNamespace : String := "http:" ++ "//www.w3.org/"

/-- The namespace of the prefix `xml`. -/
def xmlNamespace : String := standardNamespace ++ "XML/1998/namespace"

/-- The namespace of the prefix `xmlns`. -/
def xmlnsNamespace : String := standardNamespace ++ "2000/xmlns/"

/-- **The bindings that the attributes of an element make**, and the attributes that make none. -/
def declare : List Attribute → Except XmlError (Scope × List Attribute)
  | [] => .ok ([], [])
  | a :: rest => do
    let (scope, others) ← declare rest
    if a.name.pre = "xmlns" then
      let isXml : Bool := a.value == xmlNamespace
      if a.value = xmlnsNamespace || isXml != (a.name.localPart == "xml")
          || scope.any (·.1 == a.name.localPart) then throw .badNamespace
      return (if isXml then scope else (a.name.localPart, a.value) :: scope, others)
    else if a.name.localPart = "xmlns" then
      if a.value = xmlNamespace || a.value = xmlnsNamespace then throw .badNamespace
      return (("", a.value) :: scope, others)
    else return (scope, a :: others)

/-- The namespace of an attribute; without a prefix it has none. -/
def attributeNamespace (scope : Scope) (name : QName) : Except XmlError (Option String) :=
  if name.pre = "" then .ok none
  else if name.pre = "xml" then .ok (some xmlNamespace)
  else
    match scope.lookup name.pre with
    | some uri => .ok (some uri)
    | none => .error .unboundName

/-- Checks the attributes of an element and returns the bindings inside it. -/
def innerScope (outer : Scope) (attributes : List Attribute) : Except XmlError Scope := do
  let (own, others) ← declare attributes
  let scope := own ++ outer
  let names ← others.mapM fun a => (attributeNamespace scope a.name).map (·, a.name.localPart)
  if names.eraseDups.length < names.length then throw .repeatedAttribute
  return scope

/-! ## Reading content -/

/-- An element whose end was not read yet.  Children are reversed. -/
structure OpenElement where
  name : QName
  scope : Scope
  children : List XmlNode := []

/-- Adds a child to an open element; texts next to each other are one. -/
def OpenElement.add (e : OpenElement) (child : XmlNode) : OpenElement :=
  match child, e.children with
  | .text s, .text t :: before => { e with children := .text (t ++ s) :: before }
  | _, before => { e with children := child :: before }

/-- The node of an element that ends. -/
def OpenElement.node (e : OpenElement) : XmlNode :=
  .element e.name.localPart e.children.reverse

/-- Whether two hyphens touch, or one is at the end. -/
def hyphensTouch : List Char → Bool
  | [] => false
  | ['-'] => true
  | '-' :: '-' :: _ => true
  | _ :: rest => hyphensTouch rest

/-- Reads a comment. -/
def comment : XmlReader Unit := do
  expect "<!--"
  let cs ← charsThrough "-->"
  if hyphensTouch cs then throw .badComment

/-- Reads a processing instruction. -/
def instruction : XmlReader Unit := do
  if ← Reader.comesNext "<?xml " then throw .badMarkup
  expect "<?"
  plainName
  let _ ← spaces
  let _ ← charsThrough "?>"

/-- Reads the attributes and the end of a start tag; tells whether the element is empty. -/
def tagRest : Nat → XmlReader (List Attribute × Bool)
  | 0 => throw .unexpectedEnd
  | fuel + 1 => do
    let spaced ← spaces
    if ← Reader.comesNext "/" then
      expect "/>"
      return ([], true)
    else if ← Reader.comesNext ">" then
      expect ">"
      return ([], false)
    else if !spaced then throw .badMarkup
    else
      let a ← valuedAttribute
      let (attributes, isEmpty) ← tagRest fuel
      return (a :: attributes, isEmpty)

/-- Reads a start tag; tells whether the element is empty. -/
def startTag (outer : Scope) : XmlReader (OpenElement × Bool) := do
  expect "<"
  let name ← qname
  if name.pre = "xmlns" then throw .badName
  let (attributes, isEmpty) ← tagRest ((← get).length + 1)
  let scope ← innerScope outer attributes
  if name.pre ≠ "" && (scope.lookup name.pre).isNone then throw .unboundName
  return (⟨name, scope, []⟩, isEmpty)

/-- Reads an end tag. -/
def endTag : XmlReader QName := do
  expect "</"
  let name ← qname
  let _ ← spaces
  expect ">"
  return name

/-- Whether the end mark of verbatim text stands somewhere. -/
def holdsEndMark : List Char → Bool
  | [] => false
  | ']' :: ']' :: '>' :: _ => true
  | _ :: rest => holdsEndMark rest

/-- Reads text up to the next markup. -/
def textRun : XmlReader String := do
  let cs ← charsUntil fun rest => rest.head? == some '<'
  if holdsEndMark cs then throw .badCharacter
  match textData cs with
  | .ok cs => return String.ofList cs
  | .error e => throw e

/-- Reads the rest of the innermost open element and of those around it.  Each round reads at least
one character, so that the length of the text is enough fuel. -/
def content : Nat → OpenElement → List OpenElement → XmlReader XmlNode
  | 0, _, _ => throw .unexpectedEnd
  | fuel + 1, current, around => do
    match ← get with
    | [] => throw .unexpectedEnd
    | '<' :: '/' :: _ =>
      if (← endTag) ≠ current.name then throw .unmatchedTag
      match around with
      | [] => return current.node
      | outer :: more => content fuel (outer.add current.node) more
    | '<' :: '!' :: '-' :: _ =>
      comment
      content fuel (current.add .aside) around
    | '<' :: '!' :: _ =>
      expect "<![CDATA["
      let cs ← charsThrough "]]>"
      content fuel (current.add (.text (String.ofList (verbatimData cs)))) around
    | '<' :: '?' :: _ =>
      instruction
      content fuel (current.add .aside) around
    | '<' :: _ =>
      let (inner, isEmpty) ← startTag current.scope
      if isEmpty then content fuel (current.add inner.node) around
      else content fuel inner (current :: around)
    | _ :: _ =>
      let s ← textRun
      content fuel (current.add (.text s)) around

/-! ## Reading documents -/

/-- Reads comments, processing instructions and space. -/
def asides : Nat → XmlReader Unit
  | 0 => pure ()
  | fuel + 1 => do
    let _ ← spaces
    if ← Reader.comesNext "<!--" then
      comment
      asides fuel
    else if ← Reader.comesNext "<?" then
      instruction
      asides fuel

/-- Reads an optional part of the declaration that is named and has a value. -/
def declarationPart (name : String) : XmlReader Unit := do
  if ← Reader.comesNext name then
    let _ ← writtenAttribute
    if !(← spaces) && !(← Reader.comesNext "?>") then throw .badMarkup

/-- Reads the declaration at the start of a document, if there is one. -/
def declaration : XmlReader Unit := do
  if ← Reader.comesNext "<?xml " then
    expect "<?xml"
    let _ ← spaces
    if !(← Reader.comesNext "version") then throw .badMarkup
    declarationPart "version"
    declarationPart "encoding"
    declarationPart "standalone"
    expect "?>"

/-- Reads a document. -/
def document : XmlReader XmlNode := do
  let fuel := (← get).length + 1
  declaration
  asides fuel
  if ← Reader.comesNext "<!DOCTYPE" then throw .documentType
  if !(← Reader.comesNext "<") then throw .noRoot
  let (root, isEmpty) ← startTag []
  let node ← if isEmpty then pure root.node else content fuel root []
  asides fuel
  if !(← get).isEmpty then throw .badMarkup
  return node

/-- **The document of a text**; a byte order mark in front does not count. -/
def parseXml (s : String) : Except XmlError XmlNode :=
  let cs :=
    match s.toList with
    | '\uFEFF' :: rest => rest
    | cs => cs
  (document.run cs).map (·.1)

namespace XmlNode

mutual

/-- The first element of a name, in the order of start tags. -/
def find? (name : String) : XmlNode → Option XmlNode
  | .element localName children =>
    if localName = name then some (.element localName children) else findAmong? name children
  | .text _ => none
  | .aside => none

/-- The first element of a name among nodes and what is in them. -/
def findAmong? (name : String) : List XmlNode → Option XmlNode
  | [] => none
  | node :: rest => (find? name node).or (findAmong? name rest)

end

/-- **The text in front of everything else in an element.** -/
def leadingText : XmlNode → String
  | .element _ (.text s :: _) => s
  | _ => ""

end XmlNode

/-- **The trimmed leading text of the first element of a name**; `none` if there is no such element. -/
def elementText? (name source : String) : Except XmlError (Option String) :=
  (parseXml source).map fun root => (root.find? name).map fun e => trim e.leadingText

end NodeAgent.Xml
