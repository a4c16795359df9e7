import NodeAgent.Proofs.Coordinator.Calls

/-!
# How long the labels in a request are

A request carries labels as one text.  Chunks of labels are cut so that they stay shorter than the limit.
The labels that go along with the request for a node are held back only when they are longer than the
limit, and one length is left: exactly the limit.

## Main definitions

* `Request.Fits`: a request whose labels stay shorter than the limit, or are a single one.
* `Exchange.StaysShort`: a call whose requests all do.
* `Registration.FillsRequest`: a registration whose labels have the length that is left.

## Main results

* `Exchange.Alternates.exists_posting`: the labels in the requests of a call are those of its changes.
* `staysShort_changeLabels`: the calls that change labels stay short.
* `payloads_stay_short_iff`: which registrations stay short.
-/

namespace NodeAgent

open Text Dialogue

/-! ## Requests that fit -/

/-- **A text of labels that fits into a request**: it is shorter than the limit, or a single label. -/
def LabelSet.Fits (labels : LabelSet) (payload : String) : Prop :=
  payload.utf8ByteSize < chunkLimit ∨ payload ∈ labels

/-- **A request that fits**: so does each of its fields with labels. -/
def Request.Fits (q : Request) (labels : LabelSet) : Prop :=
  ∀ payload, ("labels", payload) ∈ q.fields → labels.Fits payload

/-- **A call that stays short**: its requests fit, whatever comes back to them. -/
def Exchange.StaysShort {α : Type} (e : Exchange α) (labels : LabelSet) : Prop :=
  ∀ answers, ∀ q ∈ e.run.questions answers, q.Fits labels

/-- **A registration whose labels fill a request** to the limit, and are several. -/
def Registration.FillsRequest (r : Registration) : Prop :=
  r.labels.joined.utf8ByteSize = chunkLimit ∧ 1 < r.labels.size

section Alternates

variable {α : Type} {own : List Header} {postings : List HttpAnswer → List Posting} {e : Exchange α}

/-- **The requests of a call** are for crumbs and for its changes. -/
theorem Exchange.Alternates.forall_requests (h : e.Alternates own postings) (answers : List HttpAnswer) :
    ∀ q ∈ e.run.questions answers, q.AsksForCrumb own ∨
      ∃ p ∈ postings answers, q.IsFor p.endpoint p.fields := by
  intro q hq
  obtain ⟨i, hi, rfl⟩ := List.getElem_of_mem hq
  have hget := List.getElem?_eq_getElem hi
  rcases Nat.even_or_odd' i with ⟨j, rfl | rfl⟩
  · exact .inl (h.crumb_request answers j _ hget)
  · obtain ⟨p, crumbs, hp, -, hasks⟩ := h.change_request answers j _ hget
    exact .inr ⟨p, List.mem_of_getElem? hp, hasks.isFor⟩

/-- Labels in a request of a call are those of a change: a request for a crumb has none. -/
theorem Exchange.Alternates.exists_posting (h : e.Alternates own postings) {answers : List HttpAnswer}
    {q : Request} (hq : q ∈ e.run.questions answers) {payload : String}
    (hpayload : ("labels", payload) ∈ q.fields) :
    ∃ p ∈ postings answers, ("labels", payload) ∈ p.fields := by
  rcases h.forall_requests answers q hq with hcrumb | ⟨p, hp, hfor⟩
  · rw [hcrumb.isFor.fields_eq] at hpayload
    simp at hpayload
  · rw [hfor.fields_eq] at hpayload
    exact ⟨p, hp, hpayload⟩

/-- A call stays short when its changes do. -/
theorem Exchange.Alternates.staysShort (h : e.Alternates own postings) {labels : LabelSet}
    (hp : ∀ answers, ∀ p ∈ postings answers, ∀ payload, ("labels", payload) ∈ p.fields →
      labels.Fits payload) : e.StaysShort labels := by
  intro answers q hq payload hpayload
  obtain ⟨p, hmem, hfields⟩ := h.exists_posting hq hpayload
  exact hp answers p hmem payload hfields

end Alternates

/-! ## The calls -/

section Client

variable (client : HttpClient) (candidate : Candidate)

/-- The chunks of labels fit. -/
theorem fits_of_mem_postings {change : LabelChange} {secret name payload : String} {labels : LabelSet}
    {p : Posting} (hp : p ∈ change.postings secret name labels)
    (h : ("labels", payload) ∈ p.fields) : labels.Fits payload := by
  obtain ⟨chunk, hchunk, rfl⟩ := List.mem_map.mp hp
  have hpayload : payload = chunk := by simpa using h
  rw [hpayload]
  exact fits_of_mem_chunks hchunk

/-- **The calls that change labels stay short.** -/
theorem staysShort_changeLabels (change : LabelChange) (name : String) (labels : LabelSet) :
    (client.changeLabels candidate change name labels).StaysShort labels :=
  (alternates_changeLabels client candidate change name labels).staysShort
    fun _ _ hp _ hpayload => fits_of_mem_postings hp hpayload

/-- A registration has one field with labels. -/
theorem labels_mem_fields_iff {r : Registration} {secret inlineLabels payload : String} :
    ("labels", payload) ∈ r.fields secret inlineLabels ↔ payload = inlineLabels := by
  cases hhash : r.hash <;> simp [Registration.fields, hhash]

/-- **The labels that go along with the request for a node** are no longer than the limit. -/
theorem inlineLabels_le (r : Registration) : r.inlineLabels.utf8ByteSize ≤ chunkLimit := by
  unfold Registration.inlineLabels
  cases hdefers : r.defersLabels with
  | true => exact Nat.zero_le _
  | false => exact Nat.le_of_not_lt (of_decide_eq_false hdefers)

/-- **They fit** unless they fill the request. -/
theorem fits_inlineLabels_iff {r : Registration} :
    r.labels.Fits r.inlineLabels ↔ ¬ r.FillsRequest := by
  unfold Registration.FillsRequest LabelSet.Fits Registration.inlineLabels
  cases hdefers : r.defersLabels with
  | true =>
    have hlong : chunkLimit < r.labels.joined.utf8ByteSize := of_decide_eq_true hdefers
    refine iff_of_true (.inl ?_) fun hfills => ?_
    · rw [if_pos rfl]
      decide
    · exact Nat.lt_irrefl _ (hfills.1 ▸ hlong)
  | false =>
    have hshort : ¬ chunkLimit < r.labels.joined.utf8ByteSize := of_decide_eq_false hdefers
    -- Without labels there is nothing that could be as long as the limit.
    have hnone : r.labels.size = 0 → r.labels.joined.utf8ByteSize < chunkLimit := by
      intro hsize
      rw [LabelSet.joined, List.length_eq_zero_iff.mp hsize]
      decide
    rw [if_neg (by simp), LabelSet.joined_mem_iff]
    omega

/-- What goes along with the request for a node, or follows it, is among the changes of the call. -/
theorem fits_of_mem_registration_postings {r : Registration} {secret payload : String}
    {answers : List HttpAnswer} {p : Posting} (hp : p ∈ r.postings secret answers)
    (h : ("labels", payload) ∈ p.fields) : payload = r.inlineLabels ∨ r.labels.Fits payload := by
  rcases List.mem_cons.mp hp with rfl | hdeferred
  · exact .inl (labels_mem_fields_iff.mp h)
  · right
    unfold Registration.deferred at hdeferred
    split at hdeferred
    · exact fits_of_mem_postings hdeferred h
    · cases hdeferred

/-- A coordinator that issues no crumb is asked for the node right away. -/
theorem exists_isFor_createNode (h : candidate.url.isOpaque = false) (r : Registration) :
    ∃ answers, ∃ q ∈ (client.createNode candidate r).run.questions answers,
      q.IsFor .createNode (r.fields candidate.secret r.inlineLabels) := by
  -- The answer to the request for a crumb says that there is none.
  let answer : HttpAnswer := .ok { status := 404 }
  have hgood : HasNoBadCrumb answer := fun _ hcrumb => nomatch hcrumb
  have hrounds := @rounds_createNode client candidate _
    (Endpoint.createNode.on_of_isOpaque_eq_false h) r [answer]
  have hstarts := List.length_pos_iff.mpr (hrounds.ne_nil (List.cons_ne_nil _ _))
  have hasked := @Rounds.lt_of_hasNoBadCrumb _ _ _ _ _ _ _ hrounds 0 answer hstarts rfl hgood
  obtain ⟨p, crumbs, hp, -, -, hasks⟩ := hrounds.change_request (List.getElem?_eq_getElem hasked)
  obtain rfl := Option.some.inj hp
  exact ⟨[answer], _, List.getElem_mem hasked, hasks.isFor⟩

theorem exists_request_of_createNode (h : candidate.url.isOpaque = false) (r : Registration) :
    ∃ answers, ∃ q ∈ (client.createNode candidate r).run.questions answers,
      ("labels", r.inlineLabels) ∈ q.fields := by
  obtain ⟨answers, q, hq, hfor⟩ := exists_isFor_createNode client candidate h r
  refine ⟨answers, q, hq, ?_⟩
  rw [hfor.fields_eq]
  exact labels_mem_fields_iff.mpr rfl

/-- **A registration stays short** unless its labels fill the request. -/
theorem staysShort_createNode_iff (h : candidate.url.isOpaque = false) {r : Registration} :
    (client.createNode candidate r).StaysShort r.labels ↔ ¬ r.FillsRequest := by
  constructor
  · intro hshort
    obtain ⟨answers, q, hq, hpayload⟩ := exists_request_of_createNode client candidate h r
    exact fits_inlineLabels_iff.mp (hshort answers q hq _ hpayload)
  · intro hfills
    refine (alternates_createNode client candidate r).staysShort fun answers p hp payload hpayload => ?_
    rcases fits_of_mem_registration_postings hp hpayload with rfl | hfits
    · exact fits_inlineLabels_iff.mpr hfills
    · exact hfits

/-- **How long the labels in a request are.**  The calls that change labels stay short, and so does the
registration of a node unless its labels fill the request.  They are never longer than the limit. -/
theorem payloads_stay_short_iff (h : candidate.url.isOpaque = false) :
    (∀ name labels, (client.addLabels candidate name labels).StaysShort labels) ∧
    (∀ name labels, (client.removeLabels candidate name labels).StaysShort labels) ∧
    ∀ r : Registration,
      ((client.createNode candidate r).StaysShort r.labels ↔ ¬ r.FillsRequest) ∧
      ∀ answers, ∀ q ∈ (client.createNode candidate r).run.questions answers, ∀ payload,
        ("labels", payload) ∈ q.fields →
          payload.utf8ByteSize ≤ chunkLimit ∨ payload ∈ r.labels := by
  refine ⟨staysShort_changeLabels client candidate .adding,
    staysShort_changeLabels client candidate .removing,
    fun r => ⟨staysShort_createNode_iff client candidate h, ?_⟩⟩
  intro answers q hq payload hpayload
  obtain ⟨p, hp, hfields⟩ := (alternates_createNode client candidate r).exists_posting hq hpayload
  rcases fits_of_mem_registration_postings hp hfields with rfl | hfits
  · exact .inl (inlineLabels_le r)
  · exact hfits.imp_left Nat.le_of_lt

end Client

/-- Two short labels are far from filling a request. -/
theorem payloads_stay_short_of_two :
    let candidate : Candidate :=
      ⟨{ scheme := "http", authority := some { host := .name "ci" }, path := "/" }, "key"⟩
    let r : Registration :=
      { name := "builder", executors := 1, fsRoot := "/", labels := .parse "docker linux" }
    candidate.url.isOpaque = false ∧ ¬ r.FillsRequest ∧
      (({} : HttpClient).createNode candidate r).StaysShort r.labels := by
  intro candidate r
  have hbase : candidate.url.isOpaque = false := by decide
  have hfills : ¬ r.FillsRequest := by
    intro hfills
    have hsize : r.labels.joined.utf8ByteSize = 12 := by decide +kernel
    exact absurd (hsize.symm.trans hfills.1) (by decide)
  obtain ⟨-, -, hcreate⟩ := payloads_stay_short_iff {} candidate hbase
  exact ⟨hbase, hfills, (hcreate r).1.mpr hfills⟩

/-! ## Labels that fill a request -/

/-- A letter over and over. -/
def letters (n : Nat) (c : Char) : String :=
  String.ofList (List.replicate n c)

theorem utf8ByteSize_letters (n : Nat) (c : Char) : (letters n c).utf8ByteSize = n * c.utf8Size := by
  unfold letters
  induction n with
  | zero => simp
  | succ n ih =>
    rw [List.replicate_succ', String.ofList_append, String.utf8ByteSize_append, ih, Nat.succ_mul]
    simp

theorem isLabel_letters {n : Nat} {c : Char} (hn : n ≠ 0) (hc : isBlank c = false) :
    IsLabel (letters n c) := by
  constructor
  · rw [letters, Ne, ← String.toList_eq_nil_iff, String.toList_ofList, List.replicate_eq_nil_iff]
    exact hn
  · intro d hd
    rw [letters, String.toList_ofList] at hd
    rw [List.eq_of_mem_replicate hd]
    exact hc

theorem letters_lt {m n : Nat} {c d : Char} (hm : m ≠ 0) (hn : n ≠ 0) (h : c < d) :
    letters m c < letters n d := by
  obtain ⟨m, rfl⟩ := Nat.exists_eq_succ_of_ne_zero hm
  obtain ⟨n, rfl⟩ := Nat.exists_eq_succ_of_ne_zero hn
  rw [String.lt_iff, letters, letters, String.toList_ofList, String.toList_ofList]
  exact List.cons_lt_cons_iff.mpr (.inl h)

/-- Two labels of 499 and 500 letters. -/
def twoLongLabels : LabelSet where
  toList := [letters 499 'a', letters 500 'b']
  sorted := by simpa using letters_lt (by decide) (by decide) (by decide)
  areLabels := by
    intro l hl
    rcases List.mem_cons.mp hl with rfl | hl
    · exact isLabel_letters (by decide) (by decide)
    · rw [List.mem_singleton.mp hl]
      exact isLabel_letters (by decide) (by decide)

/-- **Two labels that fill a request** go along with the request for the node, although they are as long
as the limit. -/
theorem two_labels_fill_request :
    let candidate : Candidate :=
      ⟨{ scheme := "http", authority := some { host := .name "ci" }, path := "/" }, "key"⟩
    let r : Registration :=
      { name := "builder", executors := 1, fsRoot := "/", labels := twoLongLabels }
    twoLongLabels.joined.utf8ByteSize = 1000 ∧ twoLongLabels.size = 2 ∧
      (∃ answers, ∃ q ∈ (({} : HttpClient).createNode candidate r).run.questions answers,
        ("labels", twoLongLabels.joined) ∈ q.fields) ∧
      ¬ (({} : HttpClient).createNode candidate r).StaysShort r.labels := by
  intro candidate r
  have hbase : candidate.url.isOpaque = false := by decide
  have hsize : twoLongLabels.joined.utf8ByteSize = 1000 := by
    have hjoined : twoLongLabels.joined = letters 499 'a' ++ " " ++ letters 500 'b' := rfl
    rw [hjoined, String.utf8ByteSize_append, String.utf8ByteSize_append, utf8ByteSize_letters,
      utf8ByteSize_letters]
    decide
  have hinline : r.inlineLabels = twoLongLabels.joined := by
    have hdefers : r.defersLabels = false := decide_eq_false (by rw [hsize]; decide)
    rw [Registration.inlineLabels, hdefers]
    rfl
  have hfills : r.FillsRequest := ⟨hsize, by decide⟩
  obtain ⟨answers, q, hq, hpayload⟩ := exists_request_of_createNode {} candidate hbase r
  rw [hinline] at hpayload
  refine ⟨hsize, rfl, ⟨answers, q, hq, hpayload⟩, fun hshort => ?_⟩
  exact (staysShort_createNode_iff {} candidate hbase).mp hshort hfills

end NodeAgent
