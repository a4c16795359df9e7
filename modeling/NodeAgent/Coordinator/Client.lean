import NodeAgent.Coordinator.Exchange
import NodeAgent.Label.Chunk
import NodeAgent.Label.Update
import NodeAgent.Xml.Document

/-!
# Registration at the coordinator

The coordinator creates nodes and keeps their labels.  A request that changes something is preceded by
one for a fresh crumb, which goes into its header; a coordinator that issues none is asked without.
Labels are sent in chunks, and the first refusal ends a change.

## Main definitions

* `HttpClient.fetchCrumb`: the crumb for the next change.
* `HttpClient.createNode`: registers a node.
* `HttpClient.getLabels`, `HttpClient.addLabels`, `HttpClient.removeLabels`: the labels of a node.
* `HttpClient.labelCall`, `HttpClient.softUpdate`: a change of labels over the wire.
-/

namespace NodeAgent

open Xml

/-- The expression that makes the issuer answer with a name and a value around a colon. -/
def crumbExpression : String :=
  "concat(//crumbRequestField,\":\",//crumb)"

/-- The crumb in an answer of the issuer. -/
def Response.crumb? (r : Response) : Option Crumb :=
  if r.isOk then r.text.toOption.bind Crumb.parse? else none

/-- Adds the header of a crumb, if there is one.  A crumb that cannot be a header spoils the request. -/
def Request.withCrumb (r : Request) : Option Crumb → Except HttpError Request
  | none => .ok r
  | some crumb =>
    match header? crumb.name crumb.value with
    | some header => .ok (r.withHeader header)
    | none => .error .badRequest

/-- The fields of the query that registers a node, without the deferred labels. -/
def Registration.fields (r : Registration) (secret inlineLabels : String) : List (String × String) :=
  [("name", r.name), ("executors", toString r.executors.toNat), ("remoteFsRoot", r.fsRoot),
    ("description", r.description.getD ""), ("labels", inlineLabels), ("secret", secret),
    ("mode", r.mode.name),
    ("deleteExistingClients", if r.deleteExistingClients then "true" else "false")]
    ++ r.toolLocations.map (fun (tool, location) => ("toolLocation", tool ++ ":" ++ location))
    ++ (r.hash.map fun hash => ("hash", hash)).toList

namespace HttpClient

/-- **Fetches a crumb** for the next change.  Whatever goes wrong, there just is none. -/
def fetchCrumb (client : HttpClient) (base : Url) : HttpDialogue (Option Crumb) :=
  match Endpoint.crumb.on base with
  | .error _ => .done none
  | .ok url => do
    let response ←
      Dialogue.question ((client.request .get url).withQuery [("xpath", crumbExpression)])
    return response.toOption.bind Response.crumb?

/-- Sends a request that changes something, with a fresh crumb. -/
def sendChange (client : HttpClient) (base : Url) (request : Request) : Exchange Response := do
  -- A crumb is good for one change only.
  let crumb? ← client.fetchCrumb base
  let request ← Exchange.ofExcept ((request.withCrumb crumb?).mapError .http)
  Exchange.send request

/-- Sends one chunk of labels. -/
def sendChunk (client : HttpClient) (candidate : Candidate) (url : Url) (change : LabelChange)
    (name chunk : String) : Exchange Unit := do
  let request := (client.request .post url).withQuery
    [("name", name), ("secret", candidate.secret), ("labels", chunk)]
  let response ← client.sendChange candidate.url request
  if !response.isOk then
    Exchange.fail (.badStatus change.operation response.status (response.text.toOption.getD ""))

/-- Sends chunks of labels, up to the first that is refused. -/
def sendChunks (client : HttpClient) (candidate : Candidate) (url : Url) (change : LabelChange)
    (name : String) : List String → Exchange Unit
  | [] => pure ()
  | chunk :: rest => do
    client.sendChunk candidate url change name chunk
    client.sendChunks candidate url change name rest

/-- Changes the labels of a node. -/
def changeLabels (client : HttpClient) (candidate : Candidate) (change : LabelChange) (name : String)
    (labels : LabelSet) : Exchange Unit := do
  let url ← Exchange.ofExcept (change.endpoint.on candidate.url)
  client.sendChunks candidate url change name labels.chunks

/-- **Gives labels to a node.** -/
def addLabels (client : HttpClient) (candidate : Candidate) (name : String) (labels : LabelSet) :
    Exchange Unit :=
  client.changeLabels candidate .adding name labels

/-- **Takes labels from a node.** -/
def removeLabels (client : HttpClient) (candidate : Candidate) (name : String) (labels : LabelSet) :
    Exchange Unit :=
  client.changeLabels candidate .removing name labels

/-- Asks for an element of the document that a request is answered with. -/
def askElement (request : Request) (operation : Operation) (element : String) : Exchange String := do
  let response ← Exchange.send request
  let body ← Exchange.body response
  if !response.isOk then
    Exchange.fail (.badStatus operation response.status body)
  else
    match elementText? element body with
    | .error cause => Exchange.fail (.malformed operation cause.message)
    | .ok none => Exchange.fail (.malformed operation ("no " ++ element ++ " element"))
    | .ok (some text) => pure text

/-- **Asks for the labels of a node.** -/
def getLabels (client : HttpClient) (candidate : Candidate) (name : String) : Exchange LabelSet := do
  let url ← Exchange.ofExcept (Endpoint.getLabels.on candidate.url)
  let request := (client.request .get url).withQuery [("name", name), ("secret", candidate.secret)]
  return .parse (← askElement request .getLabels "labels")

/-- **Registers a node**; the result is the name that the coordinator settled on. -/
def createNode (client : HttpClient) (candidate : Candidate) (r : Registration) : Exchange String := do
  let url ← Exchange.ofExcept (Endpoint.createNode.on candidate.url)
  -- Labels that are too many for one request follow in chunks, under the final name.
  let inlineLabels := if r.defersLabels then "" else r.labels.joined
  let request := (client.request .post url).withQuery (r.fields candidate.secret inlineLabels)
  let response ← client.sendChange candidate.url request
  let body ← Exchange.body response
  if !response.isOk then
    Exchange.fail (.badStatus .createNode response.status body)
  else
    let name := (announcedName? body).getD r.name
    if r.defersLabels then
      client.addLabels candidate name r.labels
    return name

/-- The call of a change of labels as an exchange. -/
def labelCall (client : HttpClient) (candidate : Candidate) (name : String) :
    LabelCall → Exchange LabelSet
  | .get => client.getLabels candidate name
  | .add labels => do
    client.addLabels candidate name labels
    return labels
  | .remove labels => do
    client.removeLabels candidate name labels
    return labels

/-- **A change of labels over the wire.** -/
def softUpdate (client : HttpClient) (candidate : Candidate) (name : String) (static : LabelSet)
    (contents : String) : HttpDialogue (Except LabelUpdateError Unit) :=
  (NodeAgent.softUpdate static contents).holdWith fun call => (client.labelCall candidate name call).run

end HttpClient

end NodeAgent
