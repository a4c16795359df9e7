import NodeAgent.Backoff.Uniform
import NodeAgent.Coordinator.Candidate
import NodeAgent.Error.Agent
import NodeAgent.Text.Utf8
import NodeAgent.Xml.Document

/-!
# The discovery window

After the broadcast the agent reads responses until a deadline.  A coordinator that hears the broadcast
answers with a small XML document: its address in an element `url` and its secret in an element `swarm`.
An agent that was told the address needs only the secret.

A read may fail; the agent then pauses a little and reads again, but not after several failures in a row.
All responses are read into one buffer, each over the one before.  Time is in milliseconds.

## Main definitions

* `Rejection`: why a response is of no use.
* `Candidate.ofResponse`: the candidate that a response announces.
* `Arrival`: what a read gives, and after how long.
* `ReadBuffer`: the buffer into which responses are read.
* `Collection`: what was collected so far, and the clock.
* `collect`: reading until the deadline.
* `Collection.outcome`: the candidate that the collected responses lead to.
-/

namespace NodeAgent

open Text Xml

/-! ## Responses -/

/-- **Why a response is of no use.** -/
inductive Rejection
  | notText
  | malformed (cause : XmlError)
  | noSecret
  | blankSecret
  | noUrl
  | badUrl (raw : String) (cause : UrlError)
  | otherScheme (raw : String)
deriving DecidableEq, Repr

/-- What is said about a response that is of no use. -/
def Rejection.message : Rejection → String
  | notText => "response is not UTF-8"
  | malformed cause => "malformed XML: " ++ cause.message
  | noSecret => "responder does not support swarm nodes"
  | blankSecret => "responder sent a blank secret"
  | noUrl => "responder did not advertise its URL"
  | badUrl raw cause => "invalid URL '" ++ raw ++ "': " ++ cause.message
  | otherScheme raw => "invalid URL '" ++ raw ++ "': not http(s)"

/-- The text of an element of a response. -/
def responseField (name source : String) : Except Rejection (Option String) :=
  (elementText? name source).mapError .malformed

/-- The address that a response announces. -/
def announcedUrl (source : String) : Except Rejection Url := do
  let raw := (← responseField "url" source).getD ""
  if raw.isEmpty then throw .noUrl
  let url ← (Url.parse raw).mapError (.badUrl raw)
  if !url.isWeb then throw (.otherScheme raw)
  return url

/-- **The candidate that a response announces.**  The address is the pinned one if there is one. -/
def Candidate.ofResponse (pinned : Option Url) (payload : Bytes) : Except Rejection Candidate := do
  let some source := decodeUtf8? payload | throw .notText
  let some secret ← responseField "swarm" source | throw .noSecret
  if secret.isEmpty then throw .blankSecret
  let url ←
    match pinned with
    | some url => pure url
    | none => announcedUrl source
  return .ofUrl url secret

/-! ## Reading until the deadline -/

/-- What a read gives. -/
inductive Received
  | datagram (payload : Bytes)
  | failure (cause : SystemError)
deriving DecidableEq, Repr

/-- **What a read gives, and after how long.** -/
structure Arrival where
  after : Nat
  what : Received
deriving DecidableEq, Repr

/-- The number of bytes of a response that are read. -/
def responseLimit : Nat := 8192

/-- The number of failed reads in a row after which no more are tried. -/
def failureLimit : Nat := 5

/-- The pause after a failed read. -/
def failurePause : Nat := 50

/-- **The buffer into which responses are read.** -/
structure ReadBuffer where
  bytes : Bytes
  length_bytes : bytes.length = responseLimit
deriving DecidableEq, Repr

namespace ReadBuffer

/-- The buffer before the first response. -/
def blank : ReadBuffer := ⟨List.replicate responseLimit 0, List.length_replicate⟩

instance : Inhabited ReadBuffer := ⟨blank⟩

/-- The number of bytes of a response that the buffer takes. -/
def room (payload : Bytes) : Nat :=
  min payload.length responseLimit

/-- **Reads a response into the buffer.**  It goes to the front; what the buffer does not take is lost,
and what is behind it in the buffer stays there. -/
def write (b : ReadBuffer) (payload : Bytes) : ReadBuffer where
  bytes := payload.take responseLimit ++ b.bytes.drop (room payload)
  length_bytes := by
    rw [List.length_append, List.length_take, List.length_drop, b.length_bytes, room]
    omega

/-- The bytes at the front. -/
def front (b : ReadBuffer) (n : Nat) : Bytes :=
  b.bytes.take n

/-- **What is read back is the response alone**, whatever was in the buffer before. -/
@[simp] theorem front_write (b : ReadBuffer) (payload : Bytes) :
    (b.write payload).front (room payload) = payload.take responseLimit := by
  have hlength : (payload.take responseLimit).length = room payload := by
    rw [List.length_take, room, Nat.min_comm]
  rw [front, write, List.take_left' hlength]

end ReadBuffer

/-- **What was collected so far.** -/
structure Collection where
  clock : Nat := 0
  /-- It holds the last response, and behind it what is left of those before. -/
  buffer : ReadBuffer := .blank
  /-- The failed reads since the last response. -/
  failures : Nat := 0
  /-- The reads that were started. -/
  reads : Nat := 0
  responses : Nat := 0
  /-- The usable responses, in order. -/
  candidates : List Candidate := []
deriving DecidableEq, Repr, Inhabited

namespace Collection

/-- A response comes in.  It ends a row of failures whether it is of use or not. -/
def receive (c : Collection) (pinned : Option Url) (payload : Bytes) : Collection :=
  let buffer := c.buffer.write payload
  { c with
    buffer
    failures := 0
    responses := c.responses + 1
    candidates :=
      match Candidate.ofResponse pinned (buffer.front (ReadBuffer.room payload)) with
      | .ok candidate => c.candidates ++ [candidate]
      | .error _ => c.candidates }

/-- A usable response is kept behind those before it, and another one leaves nothing. -/
theorem candidates_receive (c : Collection) (pinned : Option Url) (payload : Bytes) :
    (c.receive pinned payload).candidates =
      c.candidates ++ (Candidate.ofResponse pinned (payload.take responseLimit)).toOption.toList := by
  simp only [receive, ReadBuffer.front_write]
  cases Candidate.ofResponse pinned (payload.take responseLimit) with
  | ok candidate => rfl
  | error cause => exact (List.append_nil _).symm

end Collection

/-- **Reads responses until the deadline.**  Behind the last arrival a read waits for ever. -/
def collect (pinned : Option Url) (deadline : Nat) : List Arrival → Collection → Collection
  | [], c =>
    if deadline ≤ c.clock then c else { c with clock := deadline, reads := c.reads + 1 }
  | arrival :: later, c =>
    let remaining := deadline - c.clock
    if remaining = 0 then c
    else
      let reading := { c with reads := c.reads + 1 }
      -- An arrival at the very end of the window still counts.
      if remaining < arrival.after then { reading with clock := deadline }
      else
        let here := { reading with clock := c.clock + arrival.after }
        match arrival.what with
        | .datagram payload => collect pinned deadline later (here.receive pinned payload)
        | .failure _ =>
          let failed := { here with failures := c.failures + 1 }
          if failureLimit ≤ failed.failures then failed
          else
            collect pinned deadline later
              { failed with clock := failed.clock + min failurePause remaining }

/-- **The candidate that the collected responses lead to**: one of the usable ones, at random. -/
def Collection.outcome (c : Collection) (address : String) (source : Words) (words : source.State) :
    Except ProtocolError Candidate :=
  if c.responses = 0 then .error (.noResponse address)
  else
    match (source.choose c.candidates words).1 with
    | some candidate => .ok candidate
    | none =>
      .error <| .malformed .discovery <|
        "none of the " ++ toString c.responses ++ " responses were usable"

end NodeAgent
