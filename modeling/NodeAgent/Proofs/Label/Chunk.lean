import NodeAgent.Label.Chunk
import NodeAgent.Proofs.Label.Set

/-!
# Chunks keep all labels

A list of labels is cut into runs, in order, and the labels of each run are joined by spaces.  No chunk
reaches the limit unless it is a single label.

## Main definitions

* `FitsRequest`: labels that may be sent in one request.
* `IsCut`: labels that are cut into runs of this kind.

## Main results

* `exists_runs`: the runs of a list of labels.
* `fits_of_mem_chunks`: the size of a chunk.
* `LabelSet.words_chunks`: the words of the chunks of a set are its labels, in order.
-/

namespace NodeAgent

open Text

/-- **Labels that fit into one request**: their joined text is shorter than the limit, or there is a
single one. -/
def FitsRequest (limit : Nat) (run : List String) : Prop :=
  (" ".intercalate run).utf8ByteSize < limit ∨ ∃ label, run = [label]

/-- **A cut of labels** into consecutive runs, each of which fits into one request. -/
structure IsCut (limit : Nat) (labels : List String) (runs : List (List String)) : Prop where
  flatten_eq : runs.flatten = labels
  fits : ∀ run ∈ runs, FitsRequest limit run

theorem fitsRequest_singleton (limit : Nat) (label : String) : FitsRequest limit [label] :=
  .inr ⟨label, rfl⟩

theorem utf8ByteSize_intercalate_append {front back : List String} (hf : front ≠ [])
    (hb : back ≠ []) :
    (" ".intercalate (front ++ back)).utf8ByteSize =
      (" ".intercalate front).utf8ByteSize + 1 + (" ".intercalate back).utf8ByteSize := by
  rw [String.intercalate_append_of_ne_nil hf hb, String.utf8ByteSize_append,
    String.utf8ByteSize_append]
  rfl

/-- The runs of labels behind an open one. -/
theorem exists_runs_behind {limit : Nat} (labels : List String) {run : List String}
    (hne : run ≠ []) (hfits : FitsRequest limit run) :
    ∃ runs : List (List String),
      packBehind limit (" ".intercalate run) labels = runs.map (" ".intercalate ·) ∧
        IsCut limit (run ++ labels.filter (!·.isEmpty)) runs ∧ [] ∉ runs := by
  induction labels generalizing run with
  | nil =>
    refine ⟨[run], rfl, ⟨by simp, ?_⟩, ?_⟩
    · rintro _ (_ | ⟨_, ⟨⟩⟩)
      exact hfits
    · rintro (_ | ⟨_, ⟨⟩⟩)
      exact hne rfl
  | cons label rest ih =>
    unfold packBehind
    split
    · next he =>
      obtain ⟨runs, hr, hcut, hruns⟩ := ih hne hfits
      exact ⟨runs, hr, by simpa [he] using hcut, hruns⟩
    · next he =>
      simp only [Bool.not_eq_true] at he
      split
      -- Either the label starts a run, or it is put behind the open one.
      · obtain ⟨runs, hr, hcut, hruns⟩ := ih (List.cons_ne_nil label [])
          (fitsRequest_singleton limit label)
        rw [String.intercalate_singleton] at hr
        refine ⟨run :: runs, by rw [hr]; rfl, ⟨?_, ?_⟩, ?_⟩
        · simp [hcut.flatten_eq, he]
        · exact List.forall_mem_cons.mpr ⟨hfits, hcut.fits⟩
        · exact List.not_mem_cons_of_ne_of_not_mem hne.symm hruns
      · next hroom =>
        have hsize := utf8ByteSize_intercalate_append hne (List.cons_ne_nil label [])
        rw [String.intercalate_singleton] at hsize
        obtain ⟨runs, hr, hcut, hruns⟩ := ih (List.append_ne_nil_of_left_ne_nil hne [label])
          (.inl (by omega))
        rw [String.intercalate_append_of_ne_nil hne (List.cons_ne_nil _ _),
          String.intercalate_singleton] at hr
        exact ⟨runs, hr, by simpa [he] using hcut, hruns⟩

/-- **The runs of a list of labels.**  Empty entries are in none of them. -/
theorem exists_runs (limit : Nat) (labels : List String) :
    ∃ runs : List (List String), chunks limit labels = runs.map (" ".intercalate ·) ∧
      IsCut limit (labels.filter (!·.isEmpty)) runs ∧ [] ∉ runs := by
  induction labels with
  | nil => exact ⟨[], rfl, ⟨rfl, nofun⟩, nofun⟩
  | cons label rest ih =>
    unfold chunks
    split
    · next he =>
      obtain ⟨runs, hr, hcut, hruns⟩ := ih
      exact ⟨runs, hr, by simpa [he] using hcut, hruns⟩
    · next he =>
      obtain ⟨runs, hr, hcut, hruns⟩ := exists_runs_behind rest (List.cons_ne_nil label [])
        (fitsRequest_singleton limit label)
      rw [String.intercalate_singleton] at hr
      exact ⟨runs, hr, by simpa [he] using hcut, hruns⟩

/-- **A chunk is shorter than the limit**, or it is a single label. -/
theorem fits_of_mem_chunks {limit : Nat} {labels : List String} {chunk : String}
    (h : chunk ∈ chunks limit labels) : chunk.utf8ByteSize < limit ∨ chunk ∈ labels := by
  obtain ⟨runs, hr, hcut, -⟩ := exists_runs limit labels
  rw [hr] at h
  obtain ⟨run, hrun, rfl⟩ := List.mem_map.mp h
  rcases hcut.fits run hrun with hfits | ⟨label, rfl⟩
  · exact .inl hfits
  · right
    have hlabel : label ∈ labels.filter (!·.isEmpty) := by
      rw [← hcut.flatten_eq]
      exact List.mem_flatten_of_mem hrun List.mem_cons_self
    rw [String.intercalate_singleton]
    exact (List.mem_filter.mp hlabel).1

/-! ## The labels in chunks -/

/-- **A way of cutting that undoes joining finds the labels again**, in order, if it does so for each
run. -/
theorem flatMap_chunks {limit : Nat} {labels : List String} {cut : String → List String}
    (h : ∀ run : List String, run ≠ [] → (∀ label ∈ run, label ∈ labels ∧ label ≠ "") →
      cut (" ".intercalate run) = run) :
    (chunks limit labels).flatMap cut = labels.filter (!·.isEmpty) := by
  obtain ⟨runs, hr, hcut, hruns⟩ := exists_runs limit labels
  have hrun : ∀ run ∈ runs, cut (" ".intercalate run) = run := by
    intro run hmem
    refine h run (fun hnil => hruns (hnil ▸ hmem)) fun label hlabel => ?_
    have hkept : label ∈ labels.filter (!·.isEmpty) := by
      rw [← hcut.flatten_eq]
      exact List.mem_flatten_of_mem hmem hlabel
    simpa using hkept
  rw [hr, List.flatMap_map, List.flatMap_congr hrun, List.flatMap_id', hcut.flatten_eq]

/-- **The words of chunks** are the labels, in order, if these are free of blanks. -/
theorem flatMap_words_chunks {limit : Nat} {labels : List String}
    (h : ∀ label ∈ labels, ∀ c ∈ label.toList, isBlank c = false) :
    (chunks limit labels).flatMap words = labels.filter (!·.isEmpty) := by
  refine flatMap_chunks fun run _ hrun => words_intercalate fun label hlabel => ?_
  obtain ⟨hmem, hne⟩ := hrun label hlabel
  exact isLabel_iff_isWord.mp ⟨hne, h label hmem⟩

/-- **The words of the chunks of a set are its labels**, in order. -/
theorem LabelSet.words_chunks (s : LabelSet) : s.chunks.flatMap words = s.toList := by
  rw [LabelSet.chunks, flatMap_words_chunks fun l hl => (s.areLabels l hl).2]
  -- Labels are never empty, so that packing leaves none out.
  refine List.filter_eq_self.mpr fun l hl => ?_
  simpa using (s.areLabels l hl).1

end NodeAgent
