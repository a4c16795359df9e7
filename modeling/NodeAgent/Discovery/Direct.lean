import NodeAgent.Coordinator.Client

/-!
# Asking a coordinator directly

A coordinator whose address is known hands out its secret at its status page.  Whether the address is
one of a coordinator can be seen from the headers of its front page.

## Main definitions

* `HttpClient.discover`: the candidate at an address.
* `HttpClient.verify`: whether a coordinator answers at an address.
-/

namespace NodeAgent

/-- The headers that only a coordinator sends. -/
def coordinatorHeaders : List String :=
  ["x-jenkins", "x-hudson"]

/-- Whether a response comes from a coordinator. -/
def Response.isFromCoordinator (r : Response) : Bool :=
  coordinatorHeaders.any fun name => (headerValue? name r.headers).isSome

namespace HttpClient

/-- **The candidate at an address**, with the secret from its status page. -/
def discover (client : HttpClient) (url : Url) : Exchange Candidate := do
  let place ← Exchange.ofExcept (Endpoint.status.on url)
  let secret ← askElement (client.request .get place) .statusProbe "swarmSecret"
  return .ofUrl url secret

/-- **Checks that a coordinator answers at an address.**  The body of the answer is not looked at. -/
def verify (client : HttpClient) (url : Url) : Exchange Unit := do
  let response ← Exchange.send (client.request .get url)
  if response.status = 403 then
    Exchange.fail (.authenticationRequired url.text)
  else if !response.isFromCoordinator then
    Exchange.fail (.notACoordinator url.text)

end HttpClient

end NodeAgent
