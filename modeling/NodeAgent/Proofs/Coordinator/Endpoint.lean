import NodeAgent.Coordinator.Client
import NodeAgent.Proofs.Url.Form
import NodeAgent.Proofs.Url.Path

/-!
# Where requests arrive

The places of a coordinator lie beneath its address, and a server tells them apart by the ends of their
paths.  It reads the fields of a request as they were given.

## Main definitions

* `Endpoint.isAt`: whether a path leads to a place.
* `Request.fields`: the fields of a request, as a server reads them.
* `Request.IsFor`: a request for a place with certain fields.

## Main results

* `Endpoint.isAt_on`: the address of a place leads there.
* `Endpoint.eq_of_isAt`: a path does not lead to two places.
* `IsFor.of_request`, `IsFor.withCrumb`: a request arrives where it was meant to, with its fields.
-/

namespace NodeAgent

open Text

/-! ## Segments of a path -/

namespace Url

/-- Whether a segment has no special meaning. -/
def IsPlain (segment : List Char) : Prop :=
  isDoubleDot segment = false ∧ isSingleDot segment = false ∧ isDrive segment = false ∧ segment ≠ []

instance (segment : List Char) : Decidable (IsPlain segment) :=
  inferInstanceAs (Decidable (_ ∧ _))

/-- Plain segments go behind the others. -/
theorem resolve_of_isPlain (file : Bool) {segments : List (List Char)}
    (h : ∀ segment ∈ segments, IsPlain segment) (behind : List (List Char)) :
    resolve file behind segments = behind.reverse ++ segments := by
  refine resolve_of_forall (fun segment hm => ?_) behind
  obtain ⟨hd, hs, hr, -⟩ := h segment hm
  exact ⟨hd, hs, by rw [hr, Bool.and_false]⟩

theorem suffix_writePath (file : Bool) (front : List (List Char)) {segments : List (List Char)}
    (h : ∀ segment ∈ segments, IsPlain segment) (hne : segments ≠ []) :
    segments.flatMap ('/' :: ·) <:+ (writePath file (front ++ segments)).toList := by
  -- The first segment is not empty, so that none is dropped for a file.
  have hk : segments.dropWhile List.isEmpty = segments := by
    obtain ⟨first, rest, rfl⟩ := List.exists_cons_of_ne_nil hne
    refine List.dropWhile_cons_of_neg ?_
    simpa using (h first List.mem_cons_self).2.2.2
  have hs : ∀ kept : List (List Char),
      segments.flatMap ('/' :: ·) <:+ (kept ++ segments).flatMap ('/' :: ·) := by
    intro kept
    rw [List.flatMap_append]
    exact List.suffix_append _ _
  unfold writePath
  rw [String.toList_ofList]
  cases file with
  | false => exact hs front
  | true =>
    have hd : ∃ kept, (front ++ segments).dropWhile List.isEmpty = kept ++ segments := by
      rw [List.dropWhile_append]
      split
      · exact ⟨[], hk⟩
      · exact ⟨_, rfl⟩
    obtain ⟨kept, hd⟩ := hd
    rw [if_pos rfl, hd]
    split
    · next he => exact absurd (List.append_eq_nil_iff.mp he).2 hne
    · exact hs kept

end Url

/-! ## Places -/

namespace Endpoint

open Url

/-- The segments of the path of a place. -/
def segments (e : Endpoint) : List (List Char) :=
  splitOnChar '/' e.path.toList

theorem isPlain_of_mem (e : Endpoint) : ∀ segment ∈ e.segments, IsPlain segment := by
  cases e <;> decide

theorem segments_ne_nil (e : Endpoint) : e.segments ≠ [] := splitOnChar_ne_nil _ _

theorem flatMap_segments (e : Endpoint) : e.segments.flatMap ('/' :: ·) = '/' :: e.path.toList := by
  cases e <;> rfl

/-- The path of a place is read as its segments. -/
theorem encoded_segments (e : Endpoint) (special : Bool) :
    (Url.segments special e.path.toList).map (percentEncode inPath) = e.segments := by
  cases e <;> cases special <;> rfl

/-- **The address of a place** has the path of the place behind the directory of the base.  Only an
opaque base has no places beneath it. -/
theorem on_of_isOpaque_eq_false (e : Endpoint) {base : Url} (h : base.isOpaque = false) :
    e.on base = .ok { base with
      path := readPath base.scheme (directory base.path) e.path.toList
      query := none
      fragment := none } := by
  -- The path of a place is a relative reference without query, fragment or leading slash.
  have hs : strip e.path = e.path.toList := by cases e <;> rfl
  have hn : scheme? e.path.toList = none := by cases e <;> rfl
  have ht : splitTail e.path.toList = (e.path.toList, none, none) := by cases e <;> rfl
  have hp : ∃ a b rest, e.path.toList = a :: b :: rest ∧ a ≠ '#' ∧ a ≠ '/' ∧ a ≠ '\\' := by
    cases e <;> exact ⟨_, _, _, rfl, by decide, by decide, by decide⟩
  obtain ⟨a, b, rest, hp, hash, hslash, hback⟩ := hp
  have ha : isSlash (isSpecialScheme base.scheme) a = false := by simp [isSlash, hslash, hback]
  unfold on join
  simp only [hs, hn, readRelative, ht]
  rw [hp, if_neg (by simpa using hash), if_neg (by simp [h])]
  simp only [ha]
  rfl

theorem isOpaque_of_on {e : Endpoint} {base u : Url} (h : e.on base = .ok u) :
    base.isOpaque = false := by
  have hs : strip e.path = e.path.toList := by cases e <;> rfl
  have hn : scheme? e.path.toList = none := by cases e <;> rfl
  have hash : (e.path.toList.head? == some '#') = false := by cases e <;> rfl
  by_contra hbase
  simp only [Bool.not_eq_false] at hbase
  unfold on join at h
  simp only [hs, hn, hash, hbase] at h
  cases h

/-- An opaque base has no places beneath it. -/
theorem exists_on_eq_error (e : Endpoint) {base : Url} (h : base.isOpaque = true) :
    ∃ detail, e.on base = .error (.malformed .address detail) := by
  cases hjoin : base.join e.path with
  | error cause => exact ⟨_, by rw [on, hjoin]; rfl⟩
  | ok u =>
    have hon : e.on base = .ok u := by rw [on, hjoin]; rfl
    cases h.symm.trans (isOpaque_of_on hon)

theorem on_eq {e : Endpoint} {base u : Url} (h : e.on base = .ok u) :
    u = { base with
      path := readPath base.scheme (directory base.path) e.path.toList
      query := none
      fragment := none } := by
  rw [e.on_of_isOpaque_eq_false (isOpaque_of_on h)] at h
  exact (Except.ok.inj h).symm

/-- Whether a path leads to a place. -/
def isAt (e : Endpoint) (path : String) : Bool :=
  ('/' :: e.path.toList).isSuffixOf path.toList

/-- **The address of a place leads there.** -/
theorem isAt_on {e : Endpoint} {base u : Url} (h : e.on base = .ok u) :
    e.isAt u.path = true ∧ u.query = none := by
  rw [on_eq h]
  refine ⟨?_, rfl⟩
  rw [isAt, List.isSuffixOf_iff_suffix, ← flatMap_segments]
  simp only [readPath]
  rw [encoded_segments, resolve_of_isPlain _ e.isPlain_of_mem]
  exact suffix_writePath _ _ e.isPlain_of_mem e.segments_ne_nil

/-- **A path does not lead to two places.** -/
theorem eq_of_isAt {e f : Endpoint} {path : String} (he : e.isAt path = true)
    (hf : f.isAt path = true) : e = f := by
  -- Two suffixes of one path are suffixes of one another, and no path of a place ends like another's.
  have hd : ∀ e f : Endpoint,
      ('/' :: e.path.toList).isSuffixOf ('/' :: f.path.toList) = true → e = f := by
    intro e f
    cases e <;> cases f <;> decide
  rw [isAt, List.isSuffixOf_iff_suffix] at he hf
  rcases List.suffix_or_suffix_of_suffix he hf with h | h
  · exact hd e f (List.isSuffixOf_iff_suffix.mpr h)
  · exact (hd f e (List.isSuffixOf_iff_suffix.mpr h)).symm

end Endpoint

/-! ## Requests -/

namespace Request

/-- **The fields of a request**, as a server reads them. -/
def fields (r : Request) : List (String × String) :=
  formFields (r.url.query.getD "")

/-- A field of a request; one that is missing is empty. -/
def field (r : Request) (name : String) : String :=
  (r.fields.lookup name).getD ""

/-- **A request for a place** with certain fields. -/
structure IsFor (r : Request) (e : Endpoint) (fields : List (String × String)) : Prop where
  isAt : e.isAt r.url.path = true
  fields_eq : r.fields = fields

variable {r : Request} {e : Endpoint} {fields : List (String × String)}

theorem IsFor.field_eq (h : r.IsFor e fields) (name : String) :
    r.field name = (fields.lookup name).getD "" := by
  rw [Request.field, h.fields_eq]

theorem IsFor.of_request {base u : Url} (h : e.on base = .ok u) (client : HttpClient)
    (method : Method) (fields : List (String × String)) (hne : fields ≠ []) :
    ((client.request method u).withQuery fields).IsFor e fields := by
  obtain ⟨hp, hq⟩ := Endpoint.isAt_on h
  -- The user name goes into a header, but path and query stay.
  have hu : ∃ v : Url, (client.request method u).url = v ∧ v.path = u.path ∧ v.query = none := by
    unfold HttpClient.request
    split
    · exact ⟨_, rfl, rfl, hq⟩
    · exact ⟨_, rfl, rfl, hq⟩
  obtain ⟨v, hv, hpath, hquery⟩ := hu
  have hadd : v.appendQuery fields = { v with query := some (formQuery fields) } := by
    rw [Url.appendQuery, if_neg (by simpa using hne), hquery]
  constructor
  · change e.isAt ((client.request method u).url.appendQuery fields).path = true
    rw [hv, hadd, hpath]
    exact hp
  · change formFields ((((client.request method u).url.appendQuery fields).query).getD "") = fields
    rw [hv, hadd]
    exact formFields_formQuery fields

/-- A crumb does not change where a request goes. -/
theorem IsFor.withCrumb (h : r.IsFor e fields) {crumb? : Option Crumb} {r' : Request}
    (hc : r.withCrumb crumb? = .ok r') : r'.IsFor e fields := by
  unfold Request.withCrumb at hc
  split at hc
  · cases hc; exact h
  · split at hc
    · cases hc; exact ⟨h.isAt, h.fields_eq⟩
    · cases hc

end Request

end NodeAgent
