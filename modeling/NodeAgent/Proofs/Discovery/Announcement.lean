import NodeAgent.Discovery.Window
import NodeAgent.Proofs.Text.Utf8
import NodeAgent.Proofs.Xml.Plain

/-!
# Announcements that are read back

A coordinator announces its address and its secret in a document.  It may write the document as it likes,
and escape the characters as it likes.

## Main results

* `responseField_text`: the text of an element of a response is read back.
* `announcement_read_back`: the candidate that a document announces.
* `unbound_prefix_spoils_announcement`: a document with a prefix that is not bound announces nothing.
-/

namespace NodeAgent

open Text Xml

variable {d : WrittenDocument} {inner : Content} {text : String}

/-- **The text of an element of a response** is read back. -/
theorem responseField_text (hd : d.IsWellFormed) (hb : d.IsBound) {name : String}
    (hfirst : d.root.elements.lookup name = some inner) (hholds : inner.Holds text.toList)
    (hr : '\r' ∉ text.toList) : responseField name d.text = .ok (some (trim text)) := by
  rw [responseField, elementText?_text hd hb hfirst hholds hr, String.ofList_toList]
  rfl

/-- A text that is an address is not empty. -/
theorem isEmpty_eq_false_of_parse {url : Url} (h : Url.parse text = .ok url) : text.isEmpty = false := by
  refine Bool.eq_false_iff.mpr fun hempty => ?_
  have hnone : (Url.parse "").isOk = false := by decide
  rw [← String.isEmpty_iff.mp hempty, h] at hnone
  cases hnone

/-- **The address that a response announces.** -/
theorem announcedUrl_text (hd : d.IsWellFormed) (hb : d.IsBound)
    (hfirst : d.root.elements.lookup "url" = some inner) (hholds : inner.Holds text.toList)
    (hr : '\r' ∉ text.toList) (htrim : trim text = text) {url : Url} (hurl : Url.parse text = .ok url)
    (hweb : url.isWeb = true) : announcedUrl d.text = .ok url := by
  rw [announcedUrl, responseField_text hd hb hfirst hholds hr, htrim]
  change (if text.isEmpty = true then _ else _) = _
  rw [isEmpty_eq_false_of_parse hurl, if_neg Bool.false_ne_true, Option.getD_some, hurl]
  change (if (!url.isWeb) = true then _ else _) = _
  rw [hweb]
  rfl

/-- **The candidate of a response** whose secret is not blank. -/
theorem ofResponse_encodeUtf8 {source secret : String} {pinned : Option Url} {url : Url}
    (hfield : responseField "swarm" source = .ok (some secret)) (hne : secret.isEmpty = false)
    (hurl : pinned.elim (announcedUrl source) .ok = .ok url) :
    Candidate.ofResponse pinned (encodeUtf8 source) = .ok (.ofUrl url secret) := by
  rw [Candidate.ofResponse, decodeUtf8?_encodeUtf8]
  dsimp only
  rw [hfield]
  change (if secret.isEmpty = true then _ else _) = _
  rw [hne, if_neg Bool.false_ne_true]
  cases pinned with
  | none =>
    rw [Option.elim_none] at hurl
    dsimp only
    rw [hurl]
    rfl
  | some own =>
    rw [Option.elim_some] at hurl
    obtain rfl := Except.ok.inj hurl
    rfl

/-- **Announcements are read back.**  In a document that is well-formed and in which every prefix is bound,
let the first element `swarm` hold a secret that is not blank, and nothing else, be it escaped by references
or written verbatim.  An agent that was told an address takes that address and the trimmed secret, whatever
the document says about addresses.  Another agent takes the address that the first element `url` holds, if
it is one of a web server. -/
theorem announcement_read_back (d : WrittenDocument) (hd : d.IsWellFormed) (hb : d.IsBound)
    (swarm : Content) (secret : String) (hfirst : d.root.elements.lookup "swarm" = some swarm)
    (hholds : swarm.Holds secret.toList) (hr : '\r' ∉ secret.toList) (hblank : trim secret ≠ "") :
    (∀ pinned, Candidate.ofResponse (some pinned) (encodeUtf8 d.text) =
      .ok (.ofUrl pinned (trim secret))) ∧
    ∀ (element : Content) (address : String) (url : Url),
      d.root.elements.lookup "url" = some element → element.Holds address.toList →
      '\r' ∉ address.toList → trim address = address → Url.parse address = .ok url → url.isWeb = true →
      Candidate.ofResponse none (encodeUtf8 d.text) = .ok (.ofUrl url (trim secret)) := by
  have hfield := responseField_text hd hb hfirst hholds hr
  have hsecret : (trim secret).isEmpty = false :=
    Bool.eq_false_iff.mpr (mt String.isEmpty_iff.mp hblank)
  refine ⟨fun pinned => ofResponse_encodeUtf8 hfield hsecret rfl, ?_⟩
  intro element address url helement haddress hreturn htrim hurl hweb
  exact ofResponse_encodeUtf8 hfield hsecret
    (announcedUrl_text hd hb helement haddress hreturn htrim hurl hweb)

namespace Announcement

/-- Characters that are written as themselves. -/
def plainData (text : String) : List DataChar :=
  text.toList.map .plain

theorem isWellFormed_plainData
    (h : ∀ c ∈ text.toList, isXmlChar c = true ∧ c ≠ '<' ∧ c ≠ '&') :
    ∀ d ∈ plainData text, d.IsWellFormed := by
  intro d hd
  obtain ⟨c, hc, rfl⟩ := List.mem_map.mp hd
  obtain ⟨hxml, hless, hamp⟩ := h c hc
  exact .plain hxml hless hamp

/-- The tag of a root that binds a prefix for its own name. -/
def hub : WrittenTag where
  name := ⟨"h", "hub"⟩
  attributes := [{ name := ⟨"xmlns", "h"⟩, value := plainData "urn:hub" }]

/-- A secret that is escaped in several ways. -/
def escapedSecret : Content :=
  .run [.plain 's', .reference "#x33".toList '3', .reference "amp".toList '&'] (.verbatim ['<'] .nil)

/-- A document with a comment in front, and a comment between the elements that matter. -/
def scattered : WrittenDocument where
  before := { asides := [([], .comment " a hub ".toList)], space := ['\n'] }
  root := .element hub
    (plainElement "where" (plainElement "url" (.verbatim "http://ci.example.com/x".toList .nil) .nil)
      (.aside (.comment "url, swarm".toList) (plainElement "swarm" escapedSecret .nil))) [' '] .nil

example : scattered.text = "<!-- a hub -->\n<h:hub xmlns:h=\"urn:hub\"><where><url>" ++
    "<![CDATA[http://ci.example.com/x]]></url></where><!--url, swarm--><swarm>s&#x33;&amp;<![CDATA[<]]>" ++
    "</swarm></h:hub >" := by
  decide +kernel

theorem isWellFormed_scattered : scattered.IsWellFormed where
  declaration := fun _ hd => absurd hd (by simp [scattered])
  before := by
    refine ⟨fun a ha => ?_, by decide⟩
    obtain rfl := List.mem_singleton.mp ha
    exact ⟨by decide, .comment (by decide) (by decide)⟩
  isRoot := trivial
  root := by
    have hurn : ∀ d ∈ plainData "urn:hub", d.IsWellFormed ∧ d ≠ .plain '"' := by
      have hquote : ∀ d ∈ plainData "urn:hub", d ≠ .plain '"' := by decide
      exact fun d hd => ⟨isWellFormed_plainData (by decide) d hd, hquote d hd⟩
    have hhub : hub.IsWellFormed := by
      refine ⟨⟨.inr (by decide), by decide⟩, fun a ha => ?_, by decide, by decide⟩
      obtain rfl := List.mem_singleton.mp ha
      exact ⟨by decide, by decide, by decide, by decide, ⟨.inr (by decide), by decide⟩, .inl rfl, hurn⟩
    have hthree : IsNumeral 16 ['3', '3'] '3'.toNat := ⟨[3, 3], by decide, by decide, by decide, by decide⟩
    have hsecret : escapedSecret.IsWellFormed := by
      refine ⟨by decide, fun d hd => ?_, by decide, not_false, by decide, by decide, trivial⟩
      simp only [List.mem_cons, List.not_mem_nil, or_false] at hd
      rcases hd with rfl | rfl | rfl
      · exact .plain (by decide) (by decide) (by decide)
      · exact .reference (.hexadecimal hthree (by decide))
      · exact .reference .amp
    have hnone : IsSpace [] := by decide
    exact ⟨hhub,
      ⟨isWellFormed_plainTag (by decide),
        ⟨isWellFormed_plainTag (by decide), ⟨by decide, by decide, trivial⟩, hnone, trivial⟩, hnone,
        .comment (by decide) (by decide), isWellFormed_plainTag (by decide), hsecret, hnone, trivial⟩,
      by decide, trivial⟩
  behind := ⟨fun _ ha => absurd ha List.not_mem_nil, by decide⟩

theorem isBound_scattered : scattered.IsBound := by
  have hhub : hub.IsBound [] := by
    refine ⟨⟨?_, ?_, ?_, by decide⟩, .inr (by decide)⟩ <;> decide
  exact ⟨hhub, ⟨isBound_plainTag _ _, ⟨isBound_plainTag _ _, trivial, trivial⟩, isBound_plainTag _ _,
    trivial, trivial⟩, trivial⟩

/-- The address in it. -/
def address : Url where
  scheme := "http"
  authority := some { host := .name "ci.example.com" }
  path := "/x"

end Announcement

/-- The address and the secret of a document in which they are far apart and escaped. -/
theorem announcement_read_back_of_scattered :
    Candidate.ofResponse none (encodeUtf8 Announcement.scattered.text) =
      .ok (.ofUrl Announcement.address "s3&<") := by
  have hsecret : Announcement.escapedSecret.Holds "s3&<".toList := .run _ (.verbatim ['<'] .nil)
  have hurl : Url.parse "http://ci.example.com/x" = .ok Announcement.address := by decide +kernel
  exact (announcement_read_back Announcement.scattered Announcement.isWellFormed_scattered
    Announcement.isBound_scattered Announcement.escapedSecret "s3&<" rfl hsecret (by decide)
    (by decide)).2 _ "http://ci.example.com/x" Announcement.address rfl (.verbatim _ .nil) (by decide)
    (by decide) hurl (by decide)

namespace Announcement

/-- A document in which an element has a prefix that is not bound. -/
def unbound : WrittenDocument where
  root := plainElement "hudson"
    (.empty { name := ⟨"n", "x"⟩ }
      (plainElement "url" (.run (plainData "http://ci.example.com") .nil)
        (plainElement "swarm" (.run (plainData "s3") .nil) .nil))) .nil

theorem isWellFormed_unbound : unbound.IsWellFormed where
  declaration := fun _ hd => absurd hd (by simp [unbound])
  before := ⟨fun _ ha => absurd ha List.not_mem_nil, by decide⟩
  isRoot := trivial
  root := by
    have hnone : IsSpace [] := by decide
    have hempty : WrittenTag.IsWellFormed { name := ⟨"n", "x"⟩ } :=
      ⟨⟨.inr (by decide), by decide⟩, fun _ ha => absurd ha List.not_mem_nil, List.nodup_nil, hnone⟩
    exact ⟨isWellFormed_plainTag (by decide),
      ⟨hempty, isWellFormed_plainTag (by decide),
        ⟨by decide, isWellFormed_plainData (by decide), by decide, not_false, trivial⟩, hnone,
        isWellFormed_plainTag (by decide),
        ⟨by decide, isWellFormed_plainData (by decide), by decide, not_false, trivial⟩, hnone, trivial⟩,
      hnone, trivial⟩
  behind := ⟨fun _ ha => absurd ha List.not_mem_nil, by decide⟩

end Announcement

/-- **A prefix that is not bound spoils an announcement**, wherever it stands.  The document is well-formed
otherwise, its first elements `url` and `swarm` hold an address and a secret, and yet it announces
nothing. -/
theorem unbound_prefix_spoils_announcement :
    Announcement.unbound.text = "<hudson><n:x/><url>http://ci.example.com</url><swarm>s3</swarm></hudson>" ∧
      Announcement.unbound.IsWellFormed ∧
      (∃ element swarm, Announcement.unbound.root.elements.lookup "url" = some element ∧
        element.Holds "http://ci.example.com".toList ∧
        Announcement.unbound.root.elements.lookup "swarm" = some swarm ∧ swarm.Holds "s3".toList) ∧
      trim "s3" ≠ "" ∧ trim "http://ci.example.com" = "http://ci.example.com" ∧
      (∃ url, Url.parse "http://ci.example.com" = .ok url ∧ url.isWeb = true) ∧
      Candidate.ofResponse none (encodeUtf8 Announcement.unbound.text) =
        .error (.malformed .unboundName) := by
  have hurl : Url.parse "http://ci.example.com" =
      .ok { scheme := "http", authority := some { host := .name "ci.example.com" }, path := "/" } := by
    decide +kernel
  refine ⟨by decide +kernel, Announcement.isWellFormed_unbound, ⟨_, _, rfl, ?_, rfl, ?_⟩, by decide,
    by decide, ⟨_, hurl, by decide⟩, by decide +kernel⟩
  · exact .run (Announcement.plainData "http://ci.example.com") .nil
  · exact .run (Announcement.plainData "s3") .nil

end NodeAgent
