import NodeAgent.Discovery.Broadcast
import NodeAgent.Discovery.Direct
import NodeAgent.Proofs.Backoff.Uniform
import NodeAgent.Proofs.Coordinator.Exchange
import NodeAgent.Proofs.Text.Words

/-!
# The secret of a coordinator that was found

A coordinator hands out its secret in an element of a document.  Blanks around the secret do not count.
A coordinator that answers a broadcast with a blank secret is passed over.  One that is asked directly is
taken as it is, and a blank secret of it is the empty one.

## Main definitions

* `IsUsableSecret`: a text without blanks at its ends that is not empty.
* `HasElement`: the first element of a name in a document.
* `Announces`, `HandsOut`: a response to a broadcast, and to a request, that has a secret.
* `DiscoveryMode.Finds`: whether a candidate may be found, in either way.

## Main results

* `isUsableSecret_trim_iff`: a text is a usable secret exactly if it is not blank.
* `ofResponse_eq_ok`: what a response announces.
* `ofResponse_of_discover`, `announces_of_discover`: where a candidate that answers a broadcast comes
  from.
* `held_discover_ok`: where a candidate that is asked comes from.
* `discovered_secret_usable_iff`: which secrets are usable.
-/

namespace NodeAgent

open Text Xml Dialogue

/-! ## Secrets in documents -/

/-- **A usable secret**: it is not empty, and it neither starts nor ends with a blank. -/
def IsUsableSecret (secret : String) : Prop :=
  secret ≠ "" ∧ (∀ c ∈ secret.toList.head?, isBlank c = false) ∧
    ∀ c ∈ secret.toList.getLast?, isBlank c = false

instance (secret : String) : Decidable (IsUsableSecret secret) :=
  inferInstanceAs (Decidable (_ ∧ _ ∧ _))

/-- **The first element of a name** in a document. -/
def HasElement (name source : String) (element : XmlNode) : Prop :=
  ∃ root, parseXml source = .ok root ∧ root.find? name = some element

/-- **Without the blanks around it, a text is a usable secret** exactly if it is not blank. -/
theorem isUsableSecret_trim_iff {text : String} :
    IsUsableSecret (trim text) ↔ isBlankText text = false := by
  have hempty : trim text ≠ "" ↔ isBlankText text = false := by
    rw [← isEmpty_trim, Ne, ← String.isEmpty_iff, Bool.not_eq_true]
  have hends : (∀ c ∈ (trim text).toList.head?, isBlank c = false) ∧
      ∀ c ∈ (trim text).toList.getLast?, isBlank c = false := by
    rw [trim, String.toList_ofList]
    exact isBlank_ends_trimChars text.toList
  exact (and_iff_left hends).trans hempty

theorem elementText?_eq_some_iff {name source text : String} :
    elementText? name source = .ok (some text) ↔
      ∃ element, HasElement name source element ∧ text = trim element.leadingText := by
  unfold elementText?
  cases hroot : parseXml source with
  | error cause =>
    refine iff_of_false nofun ?_
    rintro ⟨element, ⟨root, hroot', -⟩, -⟩
    cases hroot.symm.trans hroot'
  | ok root =>
    change Except.ok ((root.find? name).map fun e => trim e.leadingText) = _ ↔ _
    rw [Except.ok.injEq, Option.map_eq_some_iff]
    constructor
    · rintro ⟨element, hfind, rfl⟩
      exact ⟨element, ⟨root, hroot, hfind⟩, rfl⟩
    · rintro ⟨element, ⟨root', hroot', hfind⟩, rfl⟩
      obtain rfl : root = root' := Except.ok.inj (hroot.symm.trans hroot')
      exact ⟨element, hfind, rfl⟩

/-! ## Responses to a broadcast -/

/-- **A response to a broadcast that announces a secret**, which is not blank. -/
def Announces (payload : Bytes) (secret : String) : Prop :=
  ∃ source element, decodeUtf8? payload = some source ∧ HasElement "swarm" source element ∧
    isBlankText element.leadingText = false ∧ secret = trim element.leadingText

theorem Announces.isUsableSecret {payload : Bytes} {secret : String} (h : Announces payload secret) :
    IsUsableSecret secret := by
  obtain ⟨source, element, -, -, hblank, rfl⟩ := h
  exact isUsableSecret_trim_iff.mpr hblank

/-- **What a usable response announces**: a secret that is not empty, and an address unless one is
pinned. -/
theorem ofResponse_eq_ok {pinned : Option Url} {payload : Bytes} {candidate : Candidate}
    (h : Candidate.ofResponse pinned payload = .ok candidate) :
    ∃ source secret url, decodeUtf8? payload = some source ∧
      responseField "swarm" source = .ok (some secret) ∧ secret.isEmpty = false ∧
      pinned.elim (announcedUrl source) .ok = .ok url ∧ candidate = .ofUrl url secret := by
  unfold Candidate.ofResponse at h
  cases hsource : decodeUtf8? payload with
  | none => rw [hsource] at h; cases h
  | some source =>
    simp only [hsource] at h
    cases hfield : responseField "swarm" source with
    | error cause => rw [hfield] at h; cases h
    | ok secret? =>
      rw [hfield] at h
      cases secret? with
      | none => cases h
      | some secret =>
        change (if secret.isEmpty = true then _ else _) = _ at h
        cases hempty : secret.isEmpty with
        | true => rw [hempty] at h; cases h
        | false =>
          rw [hempty] at h
          cases pinned with
          | some url => cases h; exact ⟨source, secret, url, rfl, hfield, hempty, rfl, rfl⟩
          | none =>
            cases hurl : announcedUrl source with
            | error cause => rw [hurl] at h; cases h
            | ok url =>
              rw [hurl] at h
              cases h
              exact ⟨source, secret, url, rfl, hfield, hempty, hurl, rfl⟩

theorem announces_of_ofResponse {pinned : Option Url} {payload : Bytes} {candidate : Candidate}
    (h : Candidate.ofResponse pinned payload = .ok candidate) :
    Announces payload candidate.secret := by
  obtain ⟨source, secret, url, hsource, hfield, hempty, -, rfl⟩ := ofResponse_eq_ok h
  obtain ⟨element, helement, rfl⟩ := elementText?_eq_some_iff.mp (mapError_eq_ok.mp hfield)
  rw [isEmpty_trim] at hempty
  exact ⟨source, element, hsource, helement, hempty, rfl⟩

theorem toOption_eq_some_iff {ε α : Type} {x : Except ε α} {a : α} :
    x.toOption = some a ↔ x = .ok a := by
  cases x with
  | ok b =>
    change some b = some a ↔ _
    rw [Option.some.injEq, Except.ok.injEq]
  | error cause => exact iff_of_false nofun nofun

theorem ofResponse_of_mem_receive {c : Collection} {pinned : Option Url} {payload : Bytes}
    {candidate : Candidate} (h : candidate ∈ (c.receive pinned payload).candidates) :
    candidate ∈ c.candidates ∨
      Candidate.ofResponse pinned (payload.take responseLimit) = .ok candidate := by
  rw [Collection.candidates_receive, List.mem_append, Option.mem_toList, toOption_eq_some_iff] at h
  exact h

/-- What is collected was announced by a response, or it was there before. -/
theorem ofResponse_of_mem_collect {pinned : Option Url} {deadline : Nat} {arrivals : List Arrival}
    {c : Collection} {candidate : Candidate}
    (h : candidate ∈ (collect pinned deadline arrivals c).candidates) :
    candidate ∈ c.candidates ∨ ∃ arrival ∈ arrivals, ∃ payload, arrival.what = .datagram payload ∧
      Candidate.ofResponse pinned (payload.take responseLimit) = .ok candidate := by
  induction arrivals generalizing c with
  | nil =>
    unfold collect at h
    split at h <;> exact .inl h
  | cons arrival later ih =>
    have hlater : ∀ {c'}, candidate ∈ (collect pinned deadline later c').candidates →
        candidate ∈ c'.candidates ∨ ∃ other ∈ arrival :: later, ∃ payload,
          other.what = .datagram payload ∧
            Candidate.ofResponse pinned (payload.take responseLimit) = .ok candidate := by
      intro c' hc
      rcases ih hc with hc | ⟨other, hother, hpayload⟩
      · exact .inl hc
      · exact .inr ⟨other, List.mem_cons_of_mem _ hother, hpayload⟩
    -- A read at the end of the window, or one that lasts until then, collects nothing.
    by_cases hover : deadline - c.clock = 0
    · rw [collect, if_pos hover] at h
      exact .inl h
    by_cases hlate : deadline - c.clock < arrival.after
    · rw [collect, if_neg hover] at h
      simp only [if_pos hlate] at h
      exact .inl h
    rw [collect, if_neg hover] at h
    simp only [if_neg hlate] at h
    cases hwhat : arrival.what with
    | datagram payload =>
      rw [hwhat] at h
      rcases hlater h with hc | hother
      · rcases ofResponse_of_mem_receive hc with hc | hresponse
        · exact .inl hc
        · exact .inr ⟨arrival, List.mem_cons_self, payload, hwhat, hresponse⟩
      · exact .inr hother
    | failure cause =>
      simp only [hwhat] at h
      split at h
      · exact .inl h
      · have hc := hlater h
        exact hc

/-- A candidate that answers a broadcast comes from a response to it. -/
theorem ofResponse_of_discover {b : Broadcast} {now : Nat}
    {network : Except SystemError (List Arrival)} {source : Words} {words : source.State}
    {candidate : Candidate} (h : b.discover now network source words = some (.ok candidate)) :
    ∃ arrivals, network = .ok arrivals ∧ ∃ arrival ∈ arrivals, ∃ payload,
      arrival.what = .datagram payload ∧
      Candidate.ofResponse b.pinned (payload.take responseLimit) = .ok candidate := by
  cases network with
  | error cause => cases h
  | ok arrivals =>
    refine ⟨arrivals, rfl, ?_⟩
    obtain ⟨deadline, -, houtcome⟩ := Option.map_eq_some_iff.mp h
    unfold Collection.outcome at houtcome
    split at houtcome
    · cases houtcome
    split at houtcome
    · next chosen hchoose =>
      obtain rfl := Except.ok.inj houtcome
      rcases ofResponse_of_mem_collect (Words.mem_of_choose hchoose) with hnone | hresponse
      · cases hnone
      · exact hresponse
    · cases houtcome

/-- **A candidate that answers a broadcast was announced** by a response to it. -/
theorem announces_of_discover {b : Broadcast} {now : Nat}
    {network : Except SystemError (List Arrival)} {source : Words} {words : source.State}
    {candidate : Candidate} (h : b.discover now network source words = some (.ok candidate)) :
    ∃ arrivals, network = .ok arrivals ∧ ∃ arrival ∈ arrivals, ∃ payload,
      arrival.what = .datagram payload ∧ Announces (payload.take responseLimit) candidate.secret := by
  obtain ⟨arrivals, hnetwork, arrival, hmem, payload, hwhat, hresponse⟩ := ofResponse_of_discover h
  exact ⟨arrivals, hnetwork, arrival, hmem, payload, hwhat, announces_of_ofResponse hresponse⟩

/-! ## A coordinator that is asked -/

/-- **An answer that hands out a secret**, blank or not, in an element of its document. -/
def HandsOut (response : Response) (element : XmlNode) : Prop :=
  response.isOk = true ∧ ∃ body, response.text = .ok body ∧ HasElement "swarmSecret" body element

/-- **A coordinator that is asked is taken** exactly if its answer hands out a secret. -/
theorem held_discover_ok {State : Type}
    {R : State → Request → Except HttpError Response → State → Prop} {before after : State}
    {client : HttpClient} {url : Url} {candidate : Candidate} :
    Held R before (client.discover url).run (.ok candidate) after ↔
      ∃ place response element, Endpoint.status.on url = .ok place ∧
        R before (client.request .get place) (.ok response) after ∧ HandsOut response element ∧
        candidate = .ofUrl url (trim element.leadingText) := by
  constructor
  · intro h
    obtain ⟨place, between, hx, hrest⟩ := Exchange.held_bind_ok.mp h
    obtain ⟨hplace, rfl⟩ := Exchange.held_ofExcept_ok.mp hx
    obtain ⟨secret, between', hask, hend⟩ := Exchange.held_bind_ok.mp hrest
    obtain ⟨rfl, rfl⟩ := Exchange.held_pure_ok.mp hend
    obtain ⟨response, body, hanswer, hok, hbody, htext⟩ := Exchange.held_askElement_ok.mp hask
    obtain ⟨element, helement, rfl⟩ := elementText?_eq_some_iff.mp htext
    exact ⟨place, response, element, hplace, hanswer, ⟨hok, body, hbody, helement⟩, rfl⟩
  · rintro ⟨place, response, element, hplace, hanswer, ⟨hok, body, hbody, helement⟩, rfl⟩
    have htext := elementText?_eq_some_iff.mpr ⟨element, helement, rfl⟩
    refine Exchange.held_bind_ok.mpr ⟨place, before, Exchange.held_ofExcept_ok.mpr ⟨hplace, rfl⟩, ?_⟩
    refine Exchange.held_bind_ok.mpr ⟨trim element.leadingText, after, ?_, ?_⟩
    · exact Exchange.held_askElement_ok.mpr ⟨response, body, hanswer, hok, hbody, htext⟩
    · exact Exchange.held_pure_ok.mpr ⟨rfl, rfl⟩

/-! ## Both ways of discovery -/

/-- **What discovery meets**: coordinators that are asked, and others that answer a broadcast. -/
structure Neighbourhood (State : Type) where
  /-- How requests are answered. -/
  answers : State → Request → Except HttpError Response → State → Prop
  /-- The time of the broadcast. -/
  now : Nat
  /-- What is read behind the broadcast, if it can be sent. -/
  network : Except SystemError (List Arrival)
  /-- Where random words come from. -/
  source : Words
  /-- The state of that source. -/
  words : source.State

/-- **Whether a mode of discovery may find a candidate.** -/
inductive DiscoveryMode.Finds {State : Type} (n : Neighbourhood State) (client : HttpClient)
    (candidate : Candidate) : DiscoveryMode → State → State → Prop
  | asked {url : Url} {before after : State}
      (h : Held n.answers before (client.discover url).run (.ok candidate) after) :
      Finds n client candidate (.direct url) before after
  | announced {mode : DiscoveryMode} {b : Broadcast} {state : State} (hb : mode.broadcast? = some b)
      (h : b.discover n.now n.network n.source n.words = some (.ok candidate)) :
      Finds n client candidate mode state state

/-- **Which secrets are usable.**  A coordinator that answers a broadcast has announced a usable secret.
One that is asked is taken exactly if its answer hands out a secret, and that secret is usable exactly
if it is not blank. -/
theorem discovered_secret_usable_iff {State : Type} (n : Neighbourhood State) (client : HttpClient)
    (mode : DiscoveryMode) (candidate : Candidate) (before after : State) :
    mode.Finds n client candidate before after ↔
      (∃ b, mode.broadcast? = some b ∧ after = before ∧
        b.discover n.now n.network n.source n.words = some (.ok candidate) ∧
        IsUsableSecret candidate.secret ∧
        ∃ arrivals, n.network = .ok arrivals ∧ ∃ arrival ∈ arrivals, ∃ payload,
          arrival.what = .datagram payload ∧
          Announces (payload.take responseLimit) candidate.secret) ∨
      ∃ url, mode = .direct url ∧ ∃ place response element, Endpoint.status.on url = .ok place ∧
        n.answers before (client.request .get place) (.ok response) after ∧
        HandsOut response element ∧ candidate = .ofUrl url (trim element.leadingText) ∧
        (IsUsableSecret candidate.secret ↔ isBlankText element.leadingText = false) := by
  constructor
  · intro h
    cases h with
    | @asked url _ _ h =>
      obtain ⟨place, response, element, hplace, hanswer, hhands, rfl⟩ := held_discover_ok.mp h
      exact .inr ⟨url, rfl, place, response, element, hplace, hanswer, hhands, rfl,
        isUsableSecret_trim_iff⟩
    | @announced _ b _ hb h =>
      obtain ⟨arrivals, hnetwork, arrival, hmem, payload, hwhat, hannounces⟩ :=
        announces_of_discover h
      exact .inl ⟨b, hb, rfl, h, hannounces.isUsableSecret, arrivals, hnetwork, arrival, hmem,
        payload, hwhat, hannounces⟩
  · rintro (⟨b, hb, rfl, h, -⟩ | ⟨url, rfl, place, response, element, hplace, hanswer, hhands, hc, -⟩)
    · exact .announced hb h
    · exact .asked (held_discover_ok.mpr ⟨place, response, element, hplace, hanswer, hhands, hc⟩)

/-- **A blank secret is taken from a coordinator that is asked**, and refused from one that answers a
broadcast. -/
theorem blank_secret_of_asked_coordinator :
    let url : Url := { scheme := "http", authority := some { host := .name "ci" }, path := "/" }
    let page : Except HttpError Response :=
      .ok { status := 200
            body := .ok (encodeUtf8 "<slaveInfo><swarmSecret></swarmSecret></slaveInfo>") }
    ((({} : HttpClient).discover url).run.transcript [page]).2 = some (.ok ⟨url, ""⟩) ∧
      ¬ IsUsableSecret "" ∧
      Candidate.ofResponse (some url) (encodeUtf8 "<hudson><swarm></swarm></hudson>") =
        .error .blankSecret := by
  decide +kernel

end NodeAgent
