import NodeAgent.Text.Glyphless
import NodeAgent.Text.Split
import NodeAgent.Url.Parser

/-!
# Coordinators that were found

Discovery finds where a coordinator is and the secret it hands out to nodes.  Secrets stay out of logs.

## Main definitions

* `Candidate`: an address and a secret; the path of the address ends with a slash.
* `Crumb`: a header that the coordinator wants to see on requests that change something.
* `NodeMode`: which jobs the coordinator gives to a node.
-/

namespace NodeAgent

open Text

/-- **A coordinator that was found.** -/
structure Candidate where
  /-- Where it is; relative addresses are joined beneath. -/
  url : Url
  secret : String
deriving DecidableEq, Repr, Inhabited

namespace Candidate

/-- The candidate at an address, which gets a slash at its end. -/
def ofUrl (url : Url) (secret : String) : Candidate :=
  ⟨url.withTrailingSlash, secret⟩

/-- What is shown of a candidate to people. -/
def text (c : Candidate) : String :=
  c.url.text

/-- What is shown of a candidate in logs. -/
def logText (c : Candidate) : String :=
  "Candidate \x7b url: " ++ quoted c.url.text ++ ", secret: " ++ quoted "<redacted>" ++ " \x7d"

end Candidate

/-- **A header against forged requests**, valid for a short time. -/
structure Crumb where
  name : String
  value : String
deriving DecidableEq, Repr, Inhabited

namespace Crumb

/-- Reads a crumb: a name and a value around the first colon, neither blank. -/
def parse? (body : String) : Option Crumb :=
  match splitAtFirst (· == ':') (trimChars body.toList) with
  | none => none
  | some (name, value) =>
    let crumb : Crumb := ⟨String.ofList (trimChars name), String.ofList (trimChars value)⟩
    if crumb.name.isEmpty || crumb.value.isEmpty then none else some crumb

/-- What is shown of a crumb in logs. -/
def logText (c : Crumb) : String :=
  "Crumb \x7b header_name: " ++ quoted c.name ++ ", .. \x7d"

end Crumb

/-- **Which jobs a node gets.** -/
inductive NodeMode
  /-- As many as possible. -/
  | normal
  /-- Only jobs that ask for one of its labels. -/
  | exclusive
deriving DecidableEq, Repr, Inhabited

namespace NodeMode

/-- The name of a mode. -/
def name : NodeMode → String
  | normal => "normal"
  | exclusive => "exclusive"

/-- The mode of a name. -/
def ofName? : String → Option NodeMode
  | "normal" => some normal
  | "exclusive" => some exclusive
  | _ => none

end NodeMode

end NodeAgent
