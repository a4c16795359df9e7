import NodeAgent.Digest.Sha256
import NodeAgent.Error.Agent
import NodeAgent.Text.LowerCase
import NodeAgent.Text.Sorted
import NodeAgent.Text.Split

/-!
# Which servers are trusted

A server shows a certificate.  By default the store of the system decides about it.  A list of
fingerprints takes its place and accepts exactly the certificates whose digest is listed; or any
certificate is accepted.

## Main definitions

* `fingerprint?`: the digest that an entry of the list names.
* `TrustPolicy`: who decides about a certificate.
* `TrustPolicy.pinning`: the policy of a list of fingerprints.
* `TrustPolicy.judge`: the decision.
-/

namespace NodeAgent

open Text Digest

/-- **The digest that an entry names**, in lower-case hexadecimal.  Blanks around the entry, colons and
the case of digits do not matter. -/
def fingerprint? (entry : String) : Option String :=
  let digits := (trimChars entry.toList).filter (· ≠ ':')
  if digits.length = 64 ∧ digits.all fun c => (hexValue? c).isSome then
    some (toLowerAscii (String.ofList digits))
  else none

/-- **Who decides about a certificate.** -/
inductive TrustPolicy
  /-- The store of the system. -/
  | systemStore
  /-- The list of the digests of the accepted certificates, sorted. -/
  | pinned (fingerprints : List String)
  /-- Nobody: all are accepted. -/
  | anything
deriving DecidableEq, Repr, Inhabited

namespace TrustPolicy

/-- The digests that a list of entries names, or the first entry that names none. -/
def digests (entries : List String) : Except ConfigError (List String) :=
  entries.mapM fun entry =>
    match fingerprint? entry with
    | some digest => .ok digest
    | none => .error (.invalid ("'" ++ entry ++ "' is not a SHA-256 certificate fingerprint"))

/-- **The policy of a list of fingerprints.**  An empty list leaves the decision to the system. -/
def pinning (entries : List String) : Except ConfigError TrustPolicy :=
  (digests entries).map fun found => if found.isEmpty then systemStore else pinned (sortedSet found)

/-- The digests of the accepted certificates, if there is a list. -/
def fingerprints : TrustPolicy → List String
  | pinned list => list
  | _ => []

/-- **The decision about a certificate**, given that of the store of the system. -/
def judge (policy : TrustPolicy) (systemAccepts : Bool) (certificate : Bytes) :
    Except HttpError Unit :=
  match policy with
  | anything => .ok ()
  | systemStore => if systemAccepts then .ok () else .error .noConnection
  | pinned list =>
    let digest := sha256Hex certificate
    if list.contains digest then .ok () else .error (.untrusted digest)

end TrustPolicy

/-- **A user name and password** that the coordinator knows. -/
structure Credentials where
  username : String
  password : String
deriving DecidableEq, Repr, Inhabited

/-- What is shown of credentials in logs. -/
def Credentials.logText (c : Credentials) : String :=
  "Credentials \x7b username: " ++ quoted c.username ++ ", .. \x7d"

end NodeAgent
