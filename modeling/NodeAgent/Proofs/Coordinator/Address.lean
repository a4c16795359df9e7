import NodeAgent.Config.Node
import NodeAgent.Proofs.Coordinator.Endpoint
import NodeAgent.Proofs.Discovery.Secret

/-!
# The address of a coordinator

An address is read once, from the configuration or from a response to a broadcast, and gets a slash at
the end of its path.  It is the same address in every mode of discovery, and the places of the
coordinator lie beneath it.

## Main definitions

* `Url.IsBase`: a web address with a settled path that ends with a slash.
* `Url.IsTakenAs`: an address as it was read, and what it is taken for.
* `DiscoveryMode.address?`: the address that a mode of discovery tells.

## Main results

* `isBase_withTrailingSlash`: a web address becomes a base by a slash at the end of its path.
* `Endpoint.on_of_isBase`: the address of a place beneath a base.
* `Url.IsTakenAs.eq`: an address is taken as it was read, with a slash at the end of its path.
* `url_of_finds`: a coordinator is found at the address that was configured.
* `coordinator_address_settled`: an address is settled once it was taken.
-/

namespace NodeAgent

open Text Url

/-! ## Places beneath an address -/

/-- **A web address with a slash at the end of its path**, which is settled. -/
structure Url.IsBase (b : Url) : Prop where
  isWeb : b.isWeb = true
  authority : b.authority.isSome = true
  isSettledPath : IsSettledPath b.path
  endsWith_slash : b.path.endsWith "/" = true

/-- Another slash is not put there. -/
theorem Url.IsBase.withTrailingSlash_eq {b : Url} (h : b.IsBase) : b.withTrailingSlash = b :=
  if_pos h.endsWith_slash

/-- **The address of a place** has the path of the place behind all of the path of the coordinator. -/
theorem Endpoint.on_of_isBase (e : Endpoint) {b : Url} (h : b.IsBase) :
    e.on b = .ok { b with path := b.path ++ e.path, query := none, fragment := none } := by
  obtain ⟨front, hfront, hpath⟩ := exists_front_of_endsWith_slash h.isSettledPath h.endsWith_slash
  -- The directory is the path without the empty segment at its end, which the place takes over.
  have hread : readPath b.scheme (directory b.path) e.path.toList = b.path ++ e.path := by
    rw [directory_of_settled hfront hpath, readPath, e.encoded_segments,
      resolve_of_isPlain _ e.isPlain_of_mem, List.reverse_reverse, writePath,
      isFileScheme_of_isWeb h.isWeb, ← String.toList_inj]
    simp [hpath, e.flatMap_segments]
  rw [e.on_of_isOpaque_eq_false (isOpaque_of_authority h.authority), hread]

/-- **A web address becomes a base** by a slash at the end of its path, unless it is one. -/
theorem isBase_withTrailingSlash {raw : String} {u : Url} (h : Url.parse raw = .ok u)
    (hw : u.isWeb = true) :
    (u.withTrailingSlash = u ∨ u.withTrailingSlash = { u with path := u.path ++ "/" }) ∧
      u.withTrailingSlash.IsBase := by
  obtain ⟨hpath, ha⟩ := isSettledPath_of_parse h hw
  rw [withTrailingSlash_of_settled hw ha hpath]
  split
  · next hends => exact ⟨.inl rfl, hw, ha, hpath, hends⟩
  · refine ⟨.inr rfl, hw, ha, isSettledPath_append_slash hpath, ?_⟩
    rw [endsWith_slash_iff, String.toList_append]
    exact List.suffix_append _ _

/-! ## Addresses that are taken -/

/-- **An address as it was read, and what it is taken for.** -/
inductive Url.IsTakenAs (u : Url) : Url → Prop
  /-- It was configured. -/
  | configured {c : NodeConfig} {raw : String} {b : Url} (hraw : c.url = some raw)
      (hread : Url.parse raw = .ok u) (h : c.coordinatorUrl = .ok (some b)) : u.IsTakenAs b
  /-- It stands in a response to a broadcast. -/
  | announced {payload : Bytes} {source : String} {candidate : Candidate}
      (hsource : decodeUtf8? payload = some source) (hread : announcedUrl source = .ok u)
      (h : Candidate.ofResponse none payload = .ok candidate) : u.IsTakenAs candidate.url

variable {u b : Url}

/-- A configured address is taken as it was read, with a slash at the end of its path. -/
theorem coordinatorUrl_eq_ok {c : NodeConfig} {url? : Option Url} (h : c.coordinatorUrl = .ok url?) :
    c.url = none ∧ url? = none ∨
      ∃ raw u, c.url = some raw ∧ Url.parse raw = .ok u ∧ u.isWeb = true ∧
        url? = some u.withTrailingSlash := by
  unfold NodeConfig.coordinatorUrl at h
  split at h
  · next hnone =>
    cases h
    exact .inl ⟨hnone, rfl⟩
  next raw hraw =>
  split at h
  · cases h
  next u hread =>
  split at h
  · cases h
  next hweb =>
  split at h
  · cases h
  · cases h
    exact .inr ⟨raw, u, hraw, hread, by simpa using hweb, rfl⟩

/-- The address that a response announces is the text of an element. -/
theorem announcedUrl_eq_ok {source : String} (h : announcedUrl source = .ok u) :
    u.isWeb = true ∧ ∃ raw, Xml.elementText? "url" source = .ok (some raw) ∧ Url.parse raw = .ok u := by
  unfold announcedUrl at h
  simp only [bind, Except.bind] at h
  split at h
  · cases h
  next raw? hfield =>
  split at h
  · cases h
  next hraw =>
  split at h
  · cases h
  next url hread =>
  split at h
  · cases h
  next hweb =>
  obtain rfl : url = u := Except.ok.inj h
  -- Without an element there would be an empty text, which is no address.
  obtain ⟨raw, rfl⟩ : ∃ raw, raw? = some raw := by
    cases raw? with
    | none => exact absurd rfl hraw
    | some raw => exact ⟨raw, rfl⟩
  exact ⟨by simpa using hweb, raw, mapError_eq_ok.mp hfield, mapError_eq_ok.mp hread⟩

/-- **An address is taken as it was read**, with a slash at the end of its path. -/
theorem Url.IsTakenAs.eq (h : u.IsTakenAs b) :
    u.isWeb = true ∧ (∃ raw, Url.parse raw = .ok u) ∧ b = u.withTrailingSlash := by
  cases h with
  | configured hraw hread h =>
    rcases coordinatorUrl_eq_ok h with ⟨-, hnone⟩ | ⟨raw', u', hraw', hread', hweb, hb⟩
    · cases hnone
    · obtain rfl := Option.some.inj (hraw.symm.trans hraw')
      obtain rfl := Except.ok.inj (hread.symm.trans hread')
      exact ⟨hweb, ⟨_, hread⟩, Option.some.inj hb⟩
  | announced hsource hread h =>
    obtain ⟨source', secret, u', hsource', -, -, hread', rfl⟩ := ofResponse_eq_ok h
    obtain rfl := Option.some.inj (hsource.symm.trans hsource')
    obtain rfl := Except.ok.inj (hread.symm.trans hread')
    obtain ⟨hweb, raw, -, hparsed⟩ := announcedUrl_eq_ok hread
    exact ⟨hweb, ⟨raw, hparsed⟩, rfl⟩

/-! ## Modes of discovery -/

/-- The address that a mode of discovery tells; responses to a broadcast may have to tell it instead. -/
def DiscoveryMode.address? : DiscoveryMode → Option Url
  | direct url => some url
  | broadcast _ _ _ pinned => pinned

/-- The mode of discovery tells the address that is configured. -/
theorem coordinatorUrl_of_discovery {c : NodeConfig} {mode : DiscoveryMode}
    (h : c.discovery = .ok mode) : c.coordinatorUrl = .ok mode.address? := by
  unfold NodeConfig.discovery at h
  cases hurl : c.coordinatorUrl with
  | error e =>
    rw [hurl] at h
    cases h
  | ok url? =>
    rw [hurl] at h
    cases url? with
    | none =>
      cases h
      rfl
    | some url =>
      change Except.ok (if c.broadcast = true then _ else _) = _ at h
      split at h
      · cases h
        rfl
      · cases h
        rfl

/-- **A coordinator is found at the address that the mode tells**, asked or not. -/
theorem url_of_finds {State : Type} {n : Neighbourhood State} {client : HttpClient}
    {candidate : Candidate} {mode : DiscoveryMode} {before after : State}
    (h : mode.Finds n client candidate before after) {url : Url} (hurl : mode.address? = some url) :
    candidate.url = url.withTrailingSlash := by
  cases h with
  | asked h =>
    cases hurl
    obtain ⟨place, response, element, -, -, -, rfl⟩ := held_discover_ok.mp h
    rfl
  | announced hb h =>
    cases mode with
    | direct url => cases hb
    | broadcast address port window pinned =>
      cases hb
      obtain ⟨arrivals, -, arrival, -, payload, -, hresponse⟩ := ofResponse_of_discover h
      obtain ⟨source, secret, pinnedUrl, -, -, -, hpinned, rfl⟩ := ofResponse_eq_ok hresponse
      obtain rfl : pinned = some url := hurl
      cases hpinned
      rfl

/-- **An address is settled once it was taken.**  It differs from what was read at most by a slash at
the end of its path, and no other slash is put there later.  The places of the coordinator lie beneath
it, whatever query or fragment was read with it.  A coordinator is found there in every mode of discovery
for which the address is configured. -/
theorem coordinator_address_settled (h : u.IsTakenAs b) :
    b = u.withTrailingSlash ∧ (b = u ∨ b = { u with path := u.path ++ "/" }) ∧
      b.withTrailingSlash = b ∧
      (∀ e : Endpoint,
        e.on b = .ok { b with path := b.path ++ e.path, query := none, fragment := none }) ∧
      ∀ (c : NodeConfig) (raw : String) (mode : DiscoveryMode), c.url = some raw →
        Url.parse raw = .ok u → c.discovery = .ok mode →
        ∀ (State : Type) (n : Neighbourhood State) (client : HttpClient) (candidate : Candidate)
          (before after : State), mode.Finds n client candidate before after → candidate.url = b := by
  obtain ⟨hweb, ⟨read, hread⟩, hb⟩ := h.eq
  obtain ⟨hkept, hbase⟩ := isBase_withTrailingSlash hread hweb
  rw [← hb] at hkept hbase
  refine ⟨hb, hkept, hbase.withTrailingSlash_eq, fun e => e.on_of_isBase hbase, ?_⟩
  intro c raw mode hraw hparse hmode State n client candidate before after hfinds
  -- The mode tells the address that is read from this configuration, which has its slash already.
  have hurl := coordinatorUrl_of_discovery hmode
  rcases coordinatorUrl_eq_ok hurl with ⟨hnone, -⟩ | ⟨raw', u', hraw', hparse', -, haddress⟩
  · cases hraw.symm.trans hnone
  · obtain rfl := Option.some.inj (hraw.symm.trans hraw')
    obtain rfl := Except.ok.inj (hparse.symm.trans hparse')
    rw [url_of_finds hfinds haddress, ← hb, hbase.withTrailingSlash_eq]

/-- **An address with all its parts** takes a slash; the places beneath it drop query and fragment. -/
theorem coordinator_address_settled_of_query :
    let c : NodeConfig :=
      { url := some "HTTP://user:pw@CI:8080/a/../ci%20x?q=1#top"
        discoveryPort := wellKnownPort
        executors := 1
        fsRoot := "/" }
    let b : Url :=
      { scheme := "http"
        authority := some
          { username := "user", password := some "pw", host := .name "ci", port := some 8080 }
        path := "/ci%20x/"
        query := some "q=1"
        fragment := some "top" }
    c.coordinatorUrl = .ok (some b) ∧ Endpoint.status.on b =
      .ok { b with path := "/ci%20x/plugin/swarm/slaveInfo", query := none, fragment := none } := by
  intro c b
  have hread : Url.parse "HTTP://user:pw@CI:8080/a/../ci%20x?q=1#top" =
      .ok { b with path := "/ci%20x" } := by decide +kernel
  have htaken : c.coordinatorUrl = .ok (some b) := by decide +kernel
  obtain ⟨-, -, -, hplaces, -⟩ := coordinator_address_settled (.configured rfl hread htaken)
  exact ⟨htaken, hplaces .status⟩

end NodeAgent
