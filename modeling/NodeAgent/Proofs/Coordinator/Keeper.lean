import NodeAgent.Proofs.Coordinator.Keeping
import NodeAgent.Proofs.Text.Utf8
import NodeAgent.Proofs.Xml.Plain

/-!
# A coordinator as a program

A coordinator that does what it has to do with requests is given as a program.  It reports labels in a
plain document, and what it answers is what may come back to the agent.

## Main definitions

* `labelReport`: the document in which the labels of a node are reported.
* `Nodes.serve`: what the coordinator answers, and the labels then.

## Main results

* `reports_labelReport`: the document is a report of the labels.
* `keeps_serve`, `held_serve`: the program is a coordinator that keeps labels.
-/

namespace NodeAgent

open Text Xml Dialogue

/-! ## Reports -/

namespace LabelSet

/-- Whether labels can be written in a document. -/
def IsWritable (labels : LabelSet) : Prop :=
  ∀ l ∈ labels.toList, ∀ c ∈ l.toList, isXmlChar c = true

instance (labels : LabelSet) : Decidable labels.IsWritable :=
  decidable_of_iff ((labels.toList.all fun l => l.toList.all isXmlChar) = true)
    (by simp [IsWritable])

variable {labels : LabelSet}

theorem mem_joined {c : Char} (h : c ∈ labels.joined.toList) :
    c = ' ' ∨ ∃ l ∈ labels.toList, c ∈ l.toList := by
  have hparts : ∀ parts : List (List Char), c ∈ [' '].intercalate parts →
      c = ' ' ∨ ∃ part ∈ parts, c ∈ part := by
    intro parts
    induction parts with
    | nil => exact fun hc => nomatch hc
    | cons part parts ih =>
      intro hc
      cases parts with
      | nil => exact .inr ⟨part, List.mem_cons_self, by simpa using hc⟩
      | cons next parts =>
        rw [List.intercalate_cons_cons, List.mem_append, List.mem_append, List.mem_singleton] at hc
        rcases hc with (hc | hc) | hc
        · exact .inr ⟨part, List.mem_cons_self, hc⟩
        · exact .inl hc
        · rcases ih hc with hc | ⟨other, ho, hc⟩
          · exact .inl hc
          · exact .inr ⟨other, List.mem_cons_of_mem _ ho, hc⟩
  -- The written form is cut into its parts, which are the labels and the spaces between them.
  rw [joined, String.toList_intercalate] at h
  rcases hparts _ h with hc | ⟨part, hp, hc⟩
  · exact .inl hc
  · obtain ⟨l, hl, rfl⟩ := List.mem_map.mp hp
    exact .inr ⟨l, hl, hc⟩

theorem joined_eq_empty (h : labels.joined = "") : labels.toList = [] := by
  rw [← words_joined, h]
  rfl

theorem isPlainText_joined (hw : labels.IsWritable) (hne : labels.toList ≠ []) :
    IsPlainText labels.joined := by
  refine ⟨fun h => hne (joined_eq_empty h), fun c hc => ?_⟩
  rcases mem_joined hc with rfl | ⟨l, hl, hc⟩
  · decide
  · refine ⟨hw l hl c hc, ?_⟩
    rintro rfl
    exact absurd ((labels.areLabels l hl).2 _ hc) (by decide)

end LabelSet

/-- **The document in which labels are reported.** -/
def labelReport (labels : LabelSet) : String :=
  String.ofList (tagged "labelResponse" (tagged "labels" (escape labels.joined.toList)))

/-- **The document is a report of the labels.** -/
theorem reports_labelReport {labels : LabelSet} (hw : labels.IsWritable) {response : Response}
    (ht : response.text = .ok (labelReport labels)) : response.Reports labels := by
  have houter : IsPlainName "labelResponse" := by decide
  have hinner : IsPlainName "labels" := by decide
  -- Without labels the element is empty, and an empty element holds no text at all.
  have hwritten : ∃ children, IsWritten (.element "labels" children)
      (tagged "labels" (escape labels.joined.toList)) ∧
      (children = [.text labels.joined] ∨ children = [] ∧ labels.toList = []) := by
    by_cases hne : labels.toList = []
    · have hempty : labels.joined = "" := by rw [LabelSet.joined, hne, String.intercalate_nil]
      refine ⟨[], ?_, .inr ⟨rfl, hne⟩⟩
      rw [hempty]
      exact @IsWritten.elements "labels" [] hinner fun _ hp => absurd hp List.not_mem_nil
    · exact ⟨_, .text hinner (LabelSet.isPlainText_joined hw hne), .inl rfl⟩
  obtain ⟨children, hlabels, hchildren⟩ := hwritten
  have hdocument : IsWritten (.element "labelResponse" [.element "labels" children])
      (tagged "labelResponse" (tagged "labels" (escape labels.joined.toList))) := by
    have hparts := @IsWritten.elements "labelResponse" [(_, _)] houter fun part hp => by
      rw [List.mem_singleton.mp hp]
      exact hlabels
    rwa [List.flatMap_singleton] at hparts
  exact ⟨_, _, labels.toList, children, ht, parseXml_of_isWritten hdocument, rfl, fun _ => Iff.rfl,
    hchildren⟩

/-! ## The program -/

/-- The place where a path leads, if it is one of those that are about labels. -/
def Endpoint.reached? (path : String) : Option Endpoint :=
  [createNode, getLabels, addLabels, removeLabels].find? (isAt · path)

theorem Endpoint.reached?_eq {e : Endpoint} {path : String} (h : e.isAt path = true)
    (he : e ∈ [createNode, getLabels, addLabels, removeLabels]) : reached? path = some e := by
  rw [reached?]
  cases hr : List.find? (isAt · path) [createNode, getLabels, addLabels, removeLabels] with
  | none => exact absurd h (List.find?_eq_none.mp hr e he)
  | some f =>
    have hf : f.isAt path = true := @List.find?_some _ (isAt · path) f _ hr
    rw [eq_of_isAt hf h]

/-- The response that is given with a text. -/
def Response.ofText (text : String) : Response :=
  { status := 200, body := .ok (encodeUtf8 text) }

/-- The nodes with other labels for one of them. -/
def Nodes.setLabels (nodes : Nodes) (name : String) (labels : LabelSet) : Nodes :=
  fun n => if n = name then labels else nodes n

/-- What the coordinator answers at a place, and the labels then. -/
def serveAt (place : Option Endpoint) (q : Request) : StateM Nodes (Except HttpError Response) :=
  fun nodes =>
    let name := q.field "name"
    let held := nodes name
    let labels := LabelSet.parse (q.field "labels")
    match place with
    | some .getLabels =>
      (.ok (if held.IsWritable then .ofText (labelReport held) else { status := 500 }), nodes)
    | some .addLabels => (.ok (.ofText ""), nodes.setLabels name (held.union labels))
    | some .removeLabels => (.ok (.ofText ""), nodes.setLabels name (held.diff labels))
    | some .createNode => (.ok (.ofText ""), nodes.setLabels name labels)
    | _ => (.ok { status := 404 }, nodes)

/-- **What the coordinator answers**, and the labels then. -/
def serve (q : Request) : StateM Nodes (Except HttpError Response) :=
  serveAt (Endpoint.reached? q.url.path) q

theorem Nodes.setLabels_self (nodes : Nodes) (name : String) (labels : LabelSet) :
    nodes.setLabels name labels name = labels := if_pos rfl

theorem text_ofText_labelReport (labels : LabelSet) :
    (Response.ofText (labelReport labels)).text = .ok (labelReport labels) := by
  -- The document starts with an angle bracket, which is no byte order mark.
  have hunmarked : ∀ rest : List Char,
      decodeMarked .utf8 (encodeUtf8 (String.ofList ('<' :: rest))) =
        decodeUtf8Lossy (encodeUtf8 (String.ofList ('<' :: rest))) := by
    intro rest
    have hbytes : encodeUtf8 (String.ofList ('<' :: rest)) =
        0x3C :: rest.flatMap String.utf8EncodeChar := by
      rw [encodeUtf8, String.toList_ofList]
      rfl
    rw [hbytes]
    rfl
  change Except.ok (decodeMarked .utf8 (encodeUtf8 (labelReport labels))) = _
  rw [labelReport, tagged, hunmarked, decodeUtf8Lossy_encodeUtf8]

variable {free : String → Prop}

theorem serve_eq {q : Request} {e : Endpoint} (h : e.isAt q.url.path = true)
    (he : e ∈ [Endpoint.createNode, .getLabels, .addLabels, .removeLabels]) :
    serve q = serveAt (some e) q := by
  rw [serve, Endpoint.reached?_eq h he]

/-- **The program is a coordinator that keeps labels.** -/
theorem keeps_serve (nodes : Nodes) (q : Request) :
    Keeps free nodes q ((serve q).run nodes).1 ((serve q).run nodes).2 := by
  constructor
  · intro hc ha hr name
    have hsame : ((serve q).run nodes).2 = nodes := by
      rw [serve]
      -- Only the three places that change labels lead to other nodes.
      cases hplace : Endpoint.reached? q.url.path with
      | none => rfl
      | some e =>
        have he : e.isAt q.url.path = true := @List.find?_some _ (Endpoint.isAt · _) e _ hplace
        cases e with
        | createNode => exact absurd he (by simp [hc])
        | addLabels => exact absurd he (by simp [ha])
        | removeLabels => exact absurd he (by simp [hr])
        | _ => rfl
    rw [hsame]
    exact .refl _
  · intro hg response hresponse hok
    refine ⟨nodes (q.field "name"), .refl _, ?_⟩
    rw [serve_eq hg (by decide)] at hresponse
    by_cases hw : (nodes (q.field "name")).IsWritable
    · have hreport : response = .ofText (labelReport (nodes (q.field "name"))) :=
        (Except.ok.inj hresponse).symm.trans (if_pos hw)
      rw [hreport]
      exact reports_labelReport hw (text_ofText_labelReport _)
    · have hrefusal : response = { status := 500 } :=
        (Except.ok.inj hresponse).symm.trans (if_neg hw)
      rw [hrefusal] at hok
      cases hok
  · intro ha response _ _
    rw [serve_eq ha (by decide)]
    change ((nodes.setLabels _ _) _).AgreeBut free _
    rw [Nodes.setLabels_self]
    exact .refl _
  · intro hr response _ _
    rw [serve_eq hr (by decide)]
    change ((nodes.setLabels _ _) _).AgreeBut free _
    rw [Nodes.setLabels_self]
    exact .refl _
  · intro hc response hresponse _
    rw [serve_eq hc (by decide)] at hresponse ⊢
    cases hresponse
    change ((nodes.setLabels _ _) (q.field "name")).AgreeBut free _
    rw [Nodes.setLabels_self]
    exact .refl _

/-- **What comes of a dialogue with the program** may come of one with such a coordinator. -/
theorem held_serve {α : Type} (d : HttpDialogue α) (nodes : Nodes) :
    Held (Keeps free) nodes d ((d.holdWith serve).run nodes).1 ((d.holdWith serve).run nodes).2 :=
  held_run keeps_serve d nodes

end NodeAgent
