import NodeAgent.Dialogue
import NodeAgent.Http.Message
import NodeAgent.Http.Trust
import NodeAgent.Url.Parser

/-!
# The HTTP client

The client knows the user name and password of the agent and puts them on every request.  It names
itself, and it follows a redirection to another place, up to a number of times.

## Main definitions

* `base64`: three bytes as four characters, each for six bits.
* `HttpDialogue`: a dialogue with servers.
* `HttpClient`, `HttpClient.request`: the client, and the requests it makes.
* `send`: sends a request and follows redirections.
* `HttpDialogue.onWire`: a dialogue with every request that goes over the wire for it.
-/

namespace NodeAgent

open Text

/-! ## Credentials as text -/

/-- The character for six bits. -/
def base64Char (n : Nat) : Char :=
  if n < 26 then Char.ofNat (0x41 + n)
  else if n < 52 then Char.ofNat (0x61 + (n - 26))
  else if n < 62 then Char.ofNat (0x30 + (n - 52))
  else if n = 62 then '+' else '/'

/-- The characters of a sequence of bytes. -/
def base64Chars : Bytes → List Char
  | [] => []
  | [a] =>
    let n := a.toNat * 0x10000
    [base64Char (n / 0x40000), base64Char (n / 0x1000 % 64), '=', '=']
  | [a, b] =>
    let n := a.toNat * 0x10000 + b.toNat * 0x100
    [base64Char (n / 0x40000), base64Char (n / 0x1000 % 64), base64Char (n / 0x40 % 64), '=']
  | a :: b :: c :: rest =>
    let n := a.toNat * 0x10000 + b.toNat * 0x100 + c.toNat
    [base64Char (n / 0x40000), base64Char (n / 0x1000 % 64), base64Char (n / 0x40 % 64),
      base64Char (n % 64)] ++ base64Chars rest

/-- **The text of a sequence of bytes.** -/
def base64 (bytes : Bytes) : String :=
  String.ofList (base64Chars bytes)

/-! ## Requests -/

/-- **A dialogue with servers**: requests, and what finally comes back to each. -/
abbrev HttpDialogue := Dialogue Request (Except HttpError Response)

/-- **The client**, with the user name and password of the agent if they are set. -/
structure HttpClient where
  credentials : Option Credentials := none
deriving DecidableEq, Repr, Inhabited

/-- The header that tells who sends a request. -/
def basicAuthorization (username : String) (password : Option String) : Header :=
  ("authorization", "Basic " ++ base64 (encodeUtf8 (username ++ ":" ++ password.getD "")))

/-- The header with the user name and password of a URL. -/
def userinfoAuthorization (url : Url) : List Header :=
  (url.userinfo?.map fun (username, password) => basicAuthorization username password).toList

/-- The header with credentials. -/
def Credentials.authorization (c : Credentials) : Header :=
  basicAuthorization c.username (some c.password)

/-- **A request for a URL.**  User name and password of the URL come before those of the agent. -/
def HttpClient.request (client : HttpClient) (method : Method) (url : Url) : Request where
  method := method
  url := if url.userinfo?.isSome then url.withoutUserinfo else url
  headers := userinfoAuthorization url ++ (client.credentials.map (·.authorization)).toList

/-- The headers that every request has, unless it has others of their names. -/
def standardHeaders : List Header :=
  [("accept", "*/*"), ("user-agent", "sl-agent/0.1.0")]

/-- The number of redirections that are followed. -/
def redirectLimit : Nat := 10

/-- The method with which a redirection is followed, if the status means one. -/
def redirectMethod? (status : UInt16) (method : Method) : Option Method :=
  if status = 301 ∨ status = 302 ∨ status = 303 then some .get
  else if status = 307 ∨ status = 308 then some method
  else none

/-- The URL that a request is redirected to. -/
def redirectTarget? (request : Request) (response : Response) : Option Url := do
  let location ← headerValue? "location" response.headers
  (request.url.join location).toOption

/-- The header that names the URL before, which is not told to a server that is asked openly after one
that was not. -/
def referer (before after : Url) : List Header :=
  if before.scheme = "https" ∧ after.scheme = "http" then []
  else [("referer", { before.withoutUserinfo with fragment := none : Url }.text)]

/-- The port of a URL, or the one its scheme stands for. -/
def Url.effectivePort (u : Url) : Option UInt16 :=
  (u.authority.bind (·.port)) <|> defaultPort? u.scheme

/-- Whether two URLs lead to the same server. -/
def Url.sameServer (u v : Url) : Bool :=
  u.host? == v.host? && u.effectivePort == v.effectivePort

/-- The headers that are not told to another server. -/
def sensitiveHeaders : List String :=
  ["authorization", "cookie", "cookie2", "proxy-authorization", "www-authenticate"]

/-- The headers of a request that is redirected. -/
def redirectHeaders (request : Request) (target : Url) : List Header :=
  let kept := request.headers.filter fun h =>
    request.url.sameServer target || !sensitiveHeaders.contains h.1
  kept.filter (fun h => h.1 ≠ "referer" || (referer request.url target).isEmpty)
    ++ referer request.url target

/-- The request that follows a response, if the response is a redirection. -/
def redirected? (request : Request) (response : Response) : Option Request := do
  let method ← redirectMethod? response.status request.method
  let target ← redirectTarget? request response
  some { method, url := target, headers := redirectHeaders request target }

/-- Sends a request and follows at most so many redirections. -/
def sendFollowing : Nat → Request → HttpDialogue (Except HttpError Response)
  | followed, request =>
    .ask request fun
      | .error cause => .done (.error cause)
      | .ok response =>
        match redirected? request response, followed with
        | none, _ => .done (.ok response)
        | some _, 0 => .done (.error .tooManyRedirects)
        | some next, followed + 1 =>
          if next.url.isWeb then sendFollowing followed next else .done (.error .badRequest)

/-- **Sends a request** and follows redirections. -/
def send (request : Request) : HttpDialogue (Except HttpError Response) :=
  sendFollowing redirectLimit (standardHeaders.foldl Request.withDefault request)

/-- **A dialogue as it goes over the wire**, with the redirections that are followed. -/
def HttpDialogue.onWire {α : Type} (d : HttpDialogue α) : HttpDialogue α :=
  d.holdWith send

end NodeAgent
