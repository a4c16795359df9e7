import NodeAgent.Url.Host

/-!
# URLs

A URL is kept as its parts, each already in its encoded form, so that writing it is putting the parts
together.

## Main definitions

* `isSpecialScheme`, `defaultPort?`: special schemes have default ports and treat a backslash as a slash.
* `Url`: the parts of a URL, with `Url.text`, its written form.
* `Url.withoutUserinfo`, `Url.appendQuery`, `Url.wireText`: the URL as a request carries it.
-/

namespace NodeAgent

open Text

/-- The default port of a special scheme that is not `file`. -/
def defaultPort? : String → Option UInt16
  | "http" => some 80
  | "ws" => some 80
  | "https" => some 443
  | "wss" => some 443
  | "ftp" => some 21
  | _ => none

/-- Whether a scheme names a file. -/
def isFileScheme (scheme : String) : Bool :=
  scheme == "file"

/-- Whether a scheme is special. -/
def isSpecialScheme (scheme : String) : Bool :=
  isFileScheme scheme || (defaultPort? scheme).isSome

/-- **Who is addressed**: a host, with the user name, password and port that go with it.  The password is
not empty and the port is not the default one. -/
structure Authority where
  username : String := ""
  password : Option String := none
  host : Host
  port : Option UInt16 := none
deriving DecidableEq, Repr, Inhabited

/-- **A URL.** -/
structure Url where
  /-- The scheme, in lower case. -/
  scheme : String
  /-- What follows `//`. -/
  authority : Option Authority := none
  /-- The path with its slashes; without a leading slash it is opaque, or empty. -/
  path : String
  query : Option String := none
  fragment : Option String := none
deriving DecidableEq, Repr, Inhabited

/-- The written form of an authority. -/
def Authority.text (a : Authority) : String :=
  let userinfo :=
    match a.username, a.password with
    | "", none => ""
    | user, none => user ++ "@"
    | user, some password => user ++ ":" ++ password ++ "@"
  let port :=
    match a.port with
    | none => ""
    | some p => ":" ++ toString p.toNat
  userinfo ++ a.host.text ++ port

namespace Url

/-- Whether the path is a text without structure. -/
def isOpaque (u : Url) : Bool :=
  u.authority.isNone && !u.path.startsWith "/"

/-- What stands between the scheme and the query. -/
def hierarchy (u : Url) : String :=
  match u.authority with
  | some a => "//" ++ a.text ++ u.path
  | none => if u.path.startsWith "//" then "/." ++ u.path else u.path

/-- **The written form of a URL.** -/
def text (u : Url) : String :=
  let query := u.query.elim "" ("?" ++ ·)
  let fragment := u.fragment.elim "" ("#" ++ ·)
  u.scheme ++ ":" ++ u.hierarchy ++ query ++ fragment

instance : ToString Url := ⟨text⟩

/-- The host, unless there is none or it is empty. -/
def host? (u : Url) : Option Host :=
  match u.authority with
  | some { host := .name "", .. } => none
  | some a => some a.host
  | none => none

/-- Whether the scheme is one for web servers. -/
def isWeb (u : Url) : Bool :=
  u.scheme == "http" || u.scheme == "https"

/-- The URL without user name and password. -/
def withoutUserinfo (u : Url) : Url :=
  { u with authority := u.authority.map fun a => { a with username := "", password := none } }

/-- The user name and password, with percent escapes resolved; `none` if there is neither. -/
def userinfo? (u : Url) : Option (String × Option String) := do
  let a ← u.authority
  let username ← decodeUtf8? (percentDecode a.username.toList)
  let password := a.password.bind fun p => decodeUtf8? (percentDecode p.toList)
  if username.isEmpty && password.isNone then none else some (username, password)

/-- The URL with fields added to its query. -/
def appendQuery (u : Url) (fields : List (String × String)) : Url :=
  if fields.isEmpty then u
  else
    let added := formQuery fields
    let query :=
      match u.query with
      | none | some "" => added
      | some q => q ++ "&" ++ added
    { u with query := some query }

/-- What a request carries of a URL: everything but the user and the fragment. -/
def wireText (u : Url) : String :=
  { u.withoutUserinfo with fragment := none : Url }.text

end Url

end NodeAgent
