/-!
# Sorted lists of texts

Sets of texts and tables keyed by texts are kept as lists in strictly increasing order, so that equal
contents are equal lists.  Texts are ordered character by character, which is also the order of their
UTF-8 bytes.

## Main definitions

* `insertSorted`, `sortedSet`: adding a text, and the set of the entries of a list.
* `putSorted`: adding an entry to a table; an entry with the same key is replaced.

## Main results

* `mem_insertSorted`, `pairwise_insertSorted`: inserting adds one text and keeps the order.
-/

namespace NodeAgent.Text

/-- Inserts a text into a strictly increasing list. -/
def insertSorted (l : String) : List String → List String
  | [] => [l]
  | x :: rest => if l < x then l :: x :: rest else if l = x then x :: rest else x :: insertSorted l rest

theorem mem_insertSorted {l x : String} {xs : List String} :
    x ∈ insertSorted l xs ↔ x = l ∨ x ∈ xs := by
  induction xs with
  | nil => simp [insertSorted]
  | cons y rest ih =>
    unfold insertSorted
    split
    · simp
    · split
      · next h => subst h; simp
      · simp only [List.mem_cons, ih]; grind

theorem pairwise_insertSorted {l : String} {xs : List String} (h : xs.Pairwise (· < ·)) :
    (insertSorted l xs).Pairwise (· < ·) := by
  induction xs with
  | nil => simp [insertSorted]
  | cons y rest ih =>
    obtain ⟨hy, hrest⟩ := List.pairwise_cons.mp h
    unfold insertSorted
    split
    · next hlt =>
      refine List.pairwise_cons.mpr ⟨fun z hz => ?_, h⟩
      rcases List.mem_cons.mp hz with rfl | hz
      · exact hlt
      · exact String.lt_trans hlt (hy z hz)
    · split
      · exact h
      · next hnlt hne =>
        have hlt : y < l := Std.lt_of_le_of_ne (String.not_lt.mp hnlt) (Ne.symm hne)
        refine List.pairwise_cons.mpr ⟨fun z hz => ?_, ih hrest⟩
        rcases mem_insertSorted.mp hz with rfl | hz
        · exact hlt
        · exact hy z hz

/-- **The set of the entries of a list.** -/
def sortedSet (xs : List String) : List String :=
  xs.foldl (fun set x => insertSorted x set) []

/-- Puts an entry into a table with strictly increasing keys, in place of one with the same key. -/
def putSorted {α : Type} (key : String) (value : α) : List (String × α) → List (String × α)
  | [] => [(key, value)]
  | (k, v) :: rest =>
    if key < k then (key, value) :: (k, v) :: rest
    else if key = k then (key, value) :: rest
    else (k, v) :: putSorted key value rest

/-- **The table of the entries of a list**; of two with the same key the later one counts. -/
def sortedTable {α : Type} (xs : List (String × α)) : List (String × α) :=
  xs.foldl (fun table (k, v) => putSorted k v table) []

end NodeAgent.Text
