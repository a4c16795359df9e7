import NodeAgent.Proofs.Label.Chunk
import NodeAgent.Proofs.Text.Split

/-!
# No other cut has fewer chunks

Packing is greedy: a run of labels is closed only when the next label does not fit behind it.  Whatever
other cut is made of the same labels, each run of it ends at the latest where the greedy run of the same
number ends.  Greedy packing therefore never needs more requests than any other cut.

## Main results

* `length_packBehind_le`: another cut may have started its open run earlier, but it has no fewer runs.
* `length_chunks_le`: the chunks are as few as the runs of any cut.
* `chunks_pack_optimally`: chunks keep all labels, fit into requests, and are as few as possible.
-/

namespace NodeAgent

open Text

/-- More labels have a longer text. -/
theorem utf8ByteSize_intercalate_le_append (front back : List String) :
    (" ".intercalate front).utf8ByteSize ≤ (" ".intercalate (front ++ back)).utf8ByteSize ∧
      (" ".intercalate back).utf8ByteSize ≤ (" ".intercalate (front ++ back)).utf8ByteSize := by
  by_cases hf : front = []
  · subst hf
    exact ⟨Nat.zero_le _, Nat.le_refl _⟩
  by_cases hb : back = []
  · subst hb
    rw [List.append_nil]
    exact ⟨Nat.le_refl _, Nat.zero_le _⟩
  rw [utf8ByteSize_intercalate_append hf hb]
  omega

theorem utf8ByteSize_intercalate_mono {run other : List String} (h : run <:+: other) :
    (" ".intercalate run).utf8ByteSize ≤ (" ".intercalate other).utf8ByteSize := by
  obtain ⟨before, behind, rfl⟩ := h
  calc (" ".intercalate run).utf8ByteSize
      ≤ (" ".intercalate (before ++ run)).utf8ByteSize :=
        (utf8ByteSize_intercalate_le_append before run).2
    _ ≤ (" ".intercalate (before ++ run ++ behind)).utf8ByteSize :=
        (utf8ByteSize_intercalate_le_append (before ++ run) behind).1

/-- A run that does not fit is no part of one that fits. -/
theorem not_fitsRequest_of_full {limit : Nat} {run : List String} {label : String}
    (hne : run ≠ []) (hfull : limit ≤ (" ".intercalate (run ++ [label])).utf8ByteSize)
    {other : List String} (h : run ++ [label] <:+: other) : ¬ FitsRequest limit other := by
  rintro (hfits | ⟨single, rfl⟩)
  · have hle := utf8ByteSize_intercalate_mono h
    omega
  · -- A single label has no room for two.
    have hlength := h.length_le
    have hpos := List.length_pos_of_ne_nil hne
    simp only [List.length_append, List.length_singleton] at hlength
    omega

/-- **Another cut has no fewer runs behind an open one.**  It covers at least the labels of the open run
and those to come, and it may cover labels before them too. -/
theorem length_packBehind_le {limit : Nat} {labels run : List String} (before : List String)
    {cut : List (List String)} (hne : run ≠ [])
    (hcut : IsCut limit (before ++ run ++ labels.filter (!·.isEmpty)) cut) :
    (packBehind limit (" ".intercalate run) labels).length ≤ cut.length := by
  have hcovers : cut ≠ [] := by
    rintro rfl
    have hnil := hcut.flatten_eq
    simp [hne] at hnil
  -- The induction is on the labels to come.  The invariant is that the other cut is not ahead.
  induction labels generalizing before run cut with
  | nil => exact List.length_pos_of_ne_nil hcovers
  | cons label rest ih =>
    unfold packBehind
    split
    · next he => exact ih before hne (by simpa [he] using hcut) hcovers
    next he =>
    simp only [Bool.not_eq_true] at he
    have hlabels : cut.flatten = before ++ run ++ label :: rest.filter (!·.isEmpty) := by
      simpa [he] using hcut.flatten_eq
    have hsize := utf8ByteSize_intercalate_append hne (List.cons_ne_nil label [])
    rw [String.intercalate_singleton] at hsize
    split
    · next hfull =>
      obtain ⟨first, others, rfl⟩ := List.exists_cons_of_ne_nil hcovers
      have hothers : ∃ before', others.flatten = before' ++ [label] ++ rest.filter (!·.isEmpty) := by
        rw [List.flatten_cons] at hlabels
        rcases List.append_eq_append_iff.mp hlabels with ⟨part, hpart, hrest⟩ | ⟨more, rfl, hmore⟩
        · exact ⟨part, by simpa using hrest⟩
        cases more with
        | nil => exact ⟨[], hmore.symm⟩
        | cons label' more =>
          -- The first run would hold the open one and the label that does not fit behind it.
          obtain rfl : label = label' := (List.cons.inj hmore).1
          refine absurd (hcut.fits _ List.mem_cons_self)
            (not_fitsRequest_of_full hne (hfull.trans_eq hsize.symm) ⟨before, more, ?_⟩)
          simp
      obtain ⟨before', hflatten⟩ := hothers
      have hfits : ∀ other ∈ others, FitsRequest limit other :=
        fun other hother => hcut.fits other (List.mem_cons_of_mem _ hother)
      have hne' : others ≠ [] := by
        rintro rfl
        simp at hflatten
      have hle := ih before' (List.cons_ne_nil label []) ⟨hflatten, hfits⟩ hne'
      rw [String.intercalate_singleton] at hle
      exact Nat.succ_le_succ hle
    · rw [← String.intercalate_singleton (s := " ") (t := label),
        ← String.intercalate_append_of_ne_nil hne (List.cons_ne_nil _ _)]
      refine ih before (by simp) ⟨?_, hcut.fits⟩ hcovers
      simpa using hlabels

/-- **The chunks are as few as the runs of any cut.** -/
theorem length_chunks_le {limit : Nat} {labels : List String} {cut : List (List String)}
    (hcut : IsCut limit (labels.filter (!·.isEmpty)) cut) :
    (chunks limit labels).length ≤ cut.length := by
  induction labels with
  | nil => exact Nat.zero_le _
  | cons label rest ih =>
    unfold chunks
    split
    · next he => exact ih (by simpa [he] using hcut)
    · next he =>
      rw [← String.intercalate_singleton (s := " ") (t := label)]
      exact length_packBehind_le [] (List.cons_ne_nil _ _) (by simpa [he] using hcut)

/-- The pieces between the spaces of chunks are the labels, in order, if these are free of spaces. -/
theorem flatMap_split_chunks {limit : Nat} {labels : List String}
    (h : ∀ label ∈ labels, ' ' ∉ label.toList) :
    (chunks limit labels).flatMap (fun chunk => (splitOnChar ' ' chunk.toList).map String.ofList) =
      labels.filter (!·.isEmpty) := by
  refine flatMap_chunks fun run hne hrun => ?_
  have hpieces : ∀ piece ∈ run.map String.toList, ' ' ∉ piece := by
    intro piece hpiece
    obtain ⟨label, hlabel, rfl⟩ := List.mem_map.mp hpiece
    exact h label (hrun label hlabel).1
  have hjoined : (" ".intercalate run).toList = [' '].intercalate (run.map String.toList) :=
    String.toList_intercalate ..
  rw [hjoined, splitOnChar_intercalate hpieces (by simpa using hne), List.map_map]
  simp [Function.comp_def]

/-- **Chunks lose nothing, fit into requests, and are as few as possible.**  The labels that are not
empty are cut into runs, in order, and each run is sent as one chunk.  No cut of these labels into runs
that fit has fewer runs.  Whoever splits the chunks at spaces or at blanks finds the labels again, in
order, if they are free of these. -/
theorem chunks_pack_optimally (limit : Nat) (labels : List String) :
    (∃ runs : List (List String), IsCut limit (labels.filter (!·.isEmpty)) runs ∧ [] ∉ runs ∧
      chunks limit labels = runs.map (" ".intercalate ·) ∧
      ∀ other, IsCut limit (labels.filter (!·.isEmpty)) other → runs.length ≤ other.length) ∧
    ((∀ label ∈ labels, ' ' ∉ label.toList) →
      (chunks limit labels).flatMap (fun chunk => (splitOnChar ' ' chunk.toList).map String.ofList) =
        labels.filter (!·.isEmpty)) ∧
    ((∀ label ∈ labels, ∀ c ∈ label.toList, isBlank c = false) →
      (chunks limit labels).flatMap words = labels.filter (!·.isEmpty)) := by
  obtain ⟨runs, hr, hcut, hruns⟩ := exists_runs limit labels
  refine ⟨⟨runs, hcut, hruns, hr, fun other hother => ?_⟩, flatMap_split_chunks, flatMap_words_chunks⟩
  have hle := length_chunks_le hother
  rwa [hr, List.length_map] at hle

/-- Two labels that fill the limit exactly are sent apart, and a longer label is sent by itself. -/
example : chunks 9 ["aaaa", "bbbb", "", "c", "a label beyond it", "c"] =
    ["aaaa", "bbbb c", "a label beyond it", "c"] := by
  decide +kernel

end NodeAgent
