import NodeAgent.Error.Agent
import NodeAgent.Text.Charset
import NodeAgent.Text.Split
import NodeAgent.Url.Basic

/-!
# Requests and responses

## Main definitions

* `Header`: a name in lower case and a value.
* `header?`: the header that two texts stand for, if they can be sent.
* `Request`, `Response`: what is sent and what comes back.
* `Response.text`: the body of a response as text.
-/

namespace NodeAgent

open Text

/-- **A header**: a name in lower case, and a value. -/
abbrev Header := String × String

/-- The value of the first header of a name. -/
def headerValue? (name : String) (headers : List Header) : Option String :=
  headers.lookup name

/-- Whether a character may stand in the name of a header. -/
def isTokenChar (c : Char) : Bool :=
  c.isAlphanum || "!#$%&'*+-.^_|~".toList.contains c || c.toNat == 0x60

/-- Whether a text can be the name of a header. -/
def isHeaderName (name : String) : Bool :=
  !name.isEmpty && name.toList.all isTokenChar

/-- Whether a text can be the value of a header: no control character but the tabulator. -/
def isHeaderValue (value : String) : Bool :=
  value.toList.all fun c => (0x20 ≤ c.toNat && c.toNat ≠ 0x7F) || c == '\t'

/-- **The header that two texts stand for**, if they can be sent. -/
def header? (name value : String) : Option Header :=
  if isHeaderName name && isHeaderValue value then some (toLowerAscii name, value) else none

/-- The two methods that are used. -/
inductive Method
  | get
  | post
deriving DecidableEq, Repr, Inhabited

/-- The name of a method. -/
def Method.name : Method → String
  | get => "GET"
  | post => "POST"

/-- **A request.**  Its URL goes out without user name, password and fragment. -/
structure Request where
  method : Method
  url : Url
  /-- The headers in the order in which they are sent. -/
  headers : List Header := []
deriving DecidableEq, Repr, Inhabited

/-- Adds a header behind the others. -/
def Request.withHeader (r : Request) (header : Header) : Request :=
  { r with headers := r.headers ++ [header] }

/-- Adds a header unless there is one of its name. -/
def Request.withDefault (r : Request) (header : Header) : Request :=
  if (headerValue? header.1 r.headers).isSome then r else r.withHeader header

/-- Adds fields to the query. -/
def Request.withQuery (r : Request) (fields : List (String × String)) : Request :=
  { r with url := r.url.appendQuery fields }

/-- **A response.**  Its body arrives after the rest and may fail to. -/
structure Response where
  status : UInt16
  headers : List Header := []
  body : Except HttpError Bytes := .ok []

namespace Response

/-- Whether a response gives what was asked for. -/
def isOk (r : Response) : Bool :=
  r.status == 200

/-- What stands inside quotation marks, if there are any. -/
def unquoted (cs : List Char) : List Char :=
  match cs with
  | '"' :: rest => rest.takeWhile (· ≠ '"')
  | cs => cs

/-- The value of a parameter of a header, by its name. -/
def parameter? (name : String) (value : String) : Option String :=
  ((splitOnChar ';' value.toList).drop 1).findSome? fun piece =>
    match splitAtFirst (· == '=') (trimChars piece) with
    | some (key, text) =>
      if toLowerAscii (String.ofList key) = name then some (String.ofList (unquoted text)) else none
    | none => none

/-- **The character set of the body**: the one that the type of the content names, else UTF-8. -/
def charset (r : Response) : Charset :=
  ((headerValue? "content-type" r.headers).bind (parameter? "charset")
    |>.bind Charset.ofLabel?).getD .utf8

/-- **The body as text.** -/
def text (r : Response) : Except HttpError String :=
  r.body.map (decodeMarked r.charset)

end Response

end NodeAgent
