import NodeAgent.Proofs.Coordinator.Address
import NodeAgent.Proofs.Discovery.Responses
import NodeAgent.Proofs.Url.Slash

/-!
# What comes of a broadcast

The responses that are heard settle what comes of a broadcast.  Without a response there is no
coordinator, without a usable one there is no coordinator of use, and otherwise one of the usable
responses is taken, at random.

The address of the candidate gets a slash at the end of its path.  An address that a response announces
always takes one.  A pinned one is taken as it is, and it takes a slash unless its path is opaque and
empty.

## Main definitions

* `Broadcast.Hears`: what is heard from the start of the window to the end of listening.
* `Broadcast.IsAnswer`: a response with the candidate that it announces.
* `Broadcast.IsOutcome`: what the responses lead to.

## Main results

* `isAnswer_of_ofResponse`: what is known of a candidate that a response announces.
* `isOutcome_outcome`: what is collected leads to an outcome of this kind.
* `broadcast_settled_by_responses`: what comes of a broadcast.
* `opaque_address_without_slash`: a pinned address whose path does not end with a slash.
-/

namespace NodeAgent

open Text Xml Listening

namespace Broadcast

/-- **What is heard** from the start of the window to the end of listening. -/
def Hears (b : Broadcast) (now : Nat) (arrivals : List Arrival) (heard : List Received) : Prop :=
  HearsUntilEnd b.pinned (now + b.window) (fun i => arrivals[i]?) (turning { clock := now }) heard

/-- Whether a response is of use. -/
def Uses (b : Broadcast) (payload : Bytes) : Prop :=
  ∃ candidate, Candidate.ofResponse b.pinned (payload.take responseLimit) = .ok candidate

/-- **A response with the candidate that it announces.** -/
structure IsAnswer (b : Broadcast) (payload : Bytes) (candidate : Candidate) : Prop where
  announces : Candidate.ofResponse b.pinned (payload.take responseLimit) = .ok candidate
  isUsableSecret : IsUsableSecret candidate.secret
  /-- A pinned address is taken whatever the response says. -/
  url_of_pinned : ∀ url, b.pinned = some url → candidate.url = url.withTrailingSlash
  /-- Otherwise the address is a web address in an element of the response. -/
  url_of_response : b.pinned = none →
    ∃ source element url, decodeUtf8? (payload.take responseLimit) = some source ∧
      HasElement "url" source element ∧ Url.parse (trim element.leadingText) = .ok url ∧
      candidate.url = url.withTrailingSlash ∧ candidate.url.isWeb = true
  endsWith_slash_iff : candidate.url.path.endsWith "/" = true ↔
    ∀ url, b.pinned = some url → url.TakesSlash

/-- **What the responses that were heard lead to.** -/
structure IsOutcome (b : Broadcast) (payloads : List Bytes) (result : Except ProtocolError Candidate) :
    Prop where
  noResponse_iff : result = .error (.noResponse b.target) ↔ payloads = []
  malformed_iff :
    result = .error (.malformed .discovery
        ("none of the " ++ toString payloads.length ++ " responses were usable")) ↔
      payloads ≠ [] ∧ ∀ payload ∈ payloads, ¬ b.Uses payload
  found_iff : (∃ candidate, result = .ok candidate) ↔ ∃ payload ∈ payloads, b.Uses payload
  isAnswer : ∀ candidate, result = .ok candidate → ∃ payload ∈ payloads, b.IsAnswer payload candidate

/-! ## Candidates -/

/-- **What is known of a candidate** that a response announces. -/
theorem isAnswer_of_ofResponse {b : Broadcast} {payload : Bytes} {candidate : Candidate}
    (h : Candidate.ofResponse b.pinned (payload.take responseLimit) = .ok candidate) :
    b.IsAnswer payload candidate := by
  have hsecret := (announces_of_ofResponse h).isUsableSecret
  obtain ⟨source, secret, url, hsource, -, -, hurl, rfl⟩ := ofResponse_eq_ok h
  cases hpinned : b.pinned with
  | some pinned =>
    rw [hpinned] at hurl
    obtain rfl : pinned = url := Except.ok.inj hurl
    refine ⟨h, hsecret, fun other hother => ?_, fun hnone => ?_, ?_⟩
    · obtain rfl := Option.some.inj (hpinned.symm.trans hother)
      rfl
    · cases hpinned.symm.trans hnone
    · refine Url.endsWith_slash_withTrailingSlash_iff.trans
        ⟨fun htakes other hother => ?_, fun htakes => htakes pinned hpinned⟩
      obtain rfl := Option.some.inj (hpinned.symm.trans hother)
      exact htakes
  | none =>
    rw [hpinned] at hurl
    obtain ⟨hweb, raw, hraw, hread⟩ := announcedUrl_eq_ok hurl
    obtain ⟨element, helement, rfl⟩ := elementText?_eq_some_iff.mp hraw
    have hbase := (isBase_withTrailingSlash hread hweb).2
    have hnotPinned : ∀ {other : Url}, b.pinned ≠ some other := by
      intro other hother
      cases hpinned.symm.trans hother
    exact ⟨h, hsecret, fun other hother => absurd hother hnotPinned,
      fun _ => ⟨source, element, url, hsource, helement, hread, rfl, hbase.isWeb⟩,
      iff_of_true hbase.endsWith_slash fun other hother => absurd hother hnotPinned⟩

theorem mem_announced_iff {b : Broadcast} {payloads : List Bytes} {candidate : Candidate} :
    candidate ∈ announced b.pinned payloads ↔ ∃ payload ∈ payloads,
      Candidate.ofResponse b.pinned (payload.take responseLimit) = .ok candidate := by
  rw [announced, List.mem_filterMap]
  simp only [toOption_eq_some_iff]

theorem announced_eq_nil_iff {b : Broadcast} {payloads : List Bytes} :
    announced b.pinned payloads = [] ↔ ∀ payload ∈ payloads, ¬ b.Uses payload := by
  rw [List.eq_nil_iff_forall_not_mem]
  constructor
  · rintro hnone payload hmem ⟨candidate, hcandidate⟩
    exact hnone candidate (mem_announced_iff.mpr ⟨payload, hmem, hcandidate⟩)
  · intro hnone candidate hmem
    obtain ⟨payload, hpayload, hcandidate⟩ := mem_announced_iff.mp hmem
    exact hnone payload hpayload ⟨candidate, hcandidate⟩

/-! ## Outcomes -/

/-- **What is collected leads to an outcome** that the responses settle. -/
theorem isOutcome_outcome {b : Broadcast} {payloads : List Bytes} {c : Collection}
    (hresponses : c.responses = payloads.length)
    (hcandidates : c.candidates = announced b.pinned payloads) (source : Words)
    (words : source.State) : b.IsOutcome payloads (c.outcome b.target source words) := by
  rw [Collection.outcome, hresponses, hcandidates]
  -- Either nothing was heard, or nothing of use, or a usable response is chosen.
  by_cases hnil : payloads = []
  · subst hnil
    exact ⟨iff_of_true rfl rfl, iff_of_false nofun nofun, iff_of_false nofun nofun, nofun⟩
  rw [if_neg (by simpa using hnil)]
  by_cases hnone : announced b.pinned payloads = []
  · have huseless := announced_eq_nil_iff.mp hnone
    rw [hnone]
    refine ⟨iff_of_false nofun hnil, iff_of_true rfl ⟨hnil, huseless⟩, iff_of_false nofun ?_, nofun⟩
    rintro ⟨payload, hmem, huses⟩
    exact huseless payload hmem huses
  · obtain ⟨candidate, hmem, hchoose⟩ := source.exists_mem_choose hnone words
    obtain ⟨payload, hpayload, hcandidate⟩ := mem_announced_iff.mp hmem
    have huses : ∃ payload ∈ payloads, b.Uses payload := ⟨payload, hpayload, candidate, hcandidate⟩
    rw [hchoose]
    refine ⟨iff_of_false nofun hnil, iff_of_false nofun ?_, iff_of_true ⟨candidate, rfl⟩ huses, ?_⟩
    · rintro ⟨-, huseless⟩
      exact huseless payload hpayload ⟨candidate, hcandidate⟩
    · rintro _ ⟨⟩
      exact ⟨payload, hpayload, isAnswer_of_ofResponse hcandidate⟩

/-- **What comes of a broadcast** whose window has an end that the clock can tell.  What is heard until
listening ends is determined by what arrives, and it settles the result, whatever words the choice is
made with. -/
theorem broadcast_settled_by_responses (b : Broadcast) (now : Nat) (arrivals : List Arrival)
    (source : Words) (words : source.State) (h : now + b.window < endOfTime) :
    ∃ heard result, b.Hears now arrivals heard ∧
      (∀ other, b.Hears now arrivals other → other = heard) ∧
      b.discover now (.ok arrivals) source words = some result ∧
      b.IsOutcome (payloads heard) result := by
  obtain ⟨heard, hheard, haccounts⟩ :=
    accounts_collect b.pinned now (now + b.window) .blank arrivals
  have hdeadline : deadline? now b.window = some (now + b.window) := if_pos h
  refine ⟨heard, _, hheard, fun other hother => HearsUntilEnd.unique hheard hother, ?_,
    isOutcome_outcome haccounts.responses haccounts.candidates source words⟩
  simp only [discover, hdeadline, Option.map_some]
  rfl

/-- **A usable response among others** is taken with the pinned address. -/
theorem broadcast_settled_by_responses_of_pinned :
    let web : Url := { scheme := "http", authority := some { host := .name "ci" }, path := "/ci" }
    let b : Broadcast :=
      { address := "255.255.255.255", port := 33848, window := 100, pinned := some web }
    let usable := encodeUtf8 "<hudson><url>ftp://x</url><swarm> s </swarm></hudson>"
    let arrivals : List Arrival :=
      [⟨1, .datagram []⟩, ⟨2, .failure ⟨.connectionRefused, .plain⟩⟩, ⟨3, .datagram usable⟩]
    0 + b.window < endOfTime ∧ ∃ heard, b.Hears 0 arrivals heard ∧
      ∃ payload ∈ payloads heard, b.IsAnswer payload ⟨{ web with path := "/ci/" }, "s"⟩ := by
  intro web b usable arrivals
  have hwindow : 0 + b.window < endOfTime := by decide +kernel
  have hfound : b.discover 0 (.ok arrivals) (.progression 1) (0 : UInt64) =
      some (.ok ⟨{ web with path := "/ci/" }, "s"⟩) := by decide +kernel
  obtain ⟨heard, result, hheard, -, hresult, houtcome⟩ :=
    broadcast_settled_by_responses b 0 arrivals (.progression 1) (0 : UInt64) hwindow
  have heq : result = .ok ⟨{ web with path := "/ci/" }, "s"⟩ :=
    Option.some.inj (hresult.symm.trans hfound)
  exact ⟨hwindow, heard, hheard, houtcome.isAnswer _ heq⟩

/-- **A pinned address whose path is opaque and empty** does not get a slash: the one that would stand
at the start of its path is escaped. -/
theorem opaque_address_without_slash :
    let mail : Url := { scheme := "mailto", path := "" }
    let b : Broadcast :=
      { address := "255.255.255.255", port := 33848, window := 100, pinned := some mail }
    let usable := encodeUtf8 "<hudson><swarm>s</swarm></hudson>"
    Url.parse "mailto:" = .ok mail ∧
      b.discover 0 (.ok [⟨1, .datagram usable⟩]) (.progression 1) (0 : UInt64) =
        some (.ok ⟨{ mail with path := "%2F" }, "s"⟩) ∧
      "%2F".endsWith "/" = false := by
  decide +kernel

end Broadcast

end NodeAgent
