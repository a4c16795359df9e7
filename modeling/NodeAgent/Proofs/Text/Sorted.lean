import Mathlib.Data.List.Sort
import NodeAgent.Text.Sorted

/-!
# What sorted lists and tables hold

Sorted lists of texts stand for sets, and a set has one of them.  Tables keyed by texts are lists of
entries with increasing keys.  What is looked up in a table is the entry that was put in last, and a table
is settled by its entries.

## Main definitions

* `IsTable`: entries with increasing keys.

## Main results

* `eq_of_sorted`: sorted lists that hold the same texts are equal.
* `mem_sortedSet`, `sortedSet_eq_iff`: the sorted list of the entries of a list.
* `lookup_putSorted`, `lookup_foldl_putSorted`: what is looked up behind entries that were put in.
* `IsTable.putSorted`, `isTable_foldl_putSorted`, `isTable_sortedTable`: tables stay tables.
* `IsTable.eq_of_mem_iff`: tables with the same entries are equal.
-/

namespace NodeAgent.Text

/-! ## Sorted lists -/

/-- **Sorted lists that hold the same texts are equal.** -/
theorem eq_of_sorted {xs ys : List String} (hx : xs.Pairwise (· < ·)) (hy : ys.Pairwise (· < ·))
    (h : ∀ x, x ∈ xs ↔ x ∈ ys) : xs = ys := by
  have : Std.Irrefl (α := String) (· < ·) := ⟨String.lt_irrefl⟩
  have : Std.Antisymm (α := String) (· < ·) := ⟨fun _ _ h h' => absurd h' (String.lt_asymm h)⟩
  exact hx.eq_of_mem_iff hy h

/-- Entries are put in one after the other. -/
theorem foldl_insertSorted (xs : List String) {set : List String} (h : set.Pairwise (· < ·)) :
    (xs.foldl (fun set x => insertSorted x set) set).Pairwise (· < ·) ∧
      ∀ x, x ∈ xs.foldl (fun set x => insertSorted x set) set ↔ x ∈ xs ∨ x ∈ set := by
  induction xs generalizing set with
  | nil => exact ⟨h, by simp⟩
  | cons y xs ih =>
    obtain ⟨hsorted, hmem⟩ := ih (pairwise_insertSorted h)
    refine ⟨hsorted, fun x => ?_⟩
    rw [List.foldl_cons, hmem, mem_insertSorted, List.mem_cons]
    tauto

theorem pairwise_sortedSet (xs : List String) : (sortedSet xs).Pairwise (· < ·) :=
  (foldl_insertSorted xs .nil).1

@[simp] theorem mem_sortedSet {xs : List String} {x : String} : x ∈ sortedSet xs ↔ x ∈ xs := by
  rw [sortedSet, (foldl_insertSorted xs .nil).2]
  simp

/-- **The sorted list of the entries** depends on nothing but what the entries are. -/
theorem sortedSet_eq_iff {xs ys : List String} :
    sortedSet xs = sortedSet ys ↔ ∀ x, x ∈ xs ↔ x ∈ ys := by
  constructor
  · intro h x
    rw [← mem_sortedSet, h, mem_sortedSet]
  · intro h
    refine eq_of_sorted (pairwise_sortedSet xs) (pairwise_sortedSet ys) fun x => ?_
    rw [mem_sortedSet, mem_sortedSet, h]

/-! ## Tables -/

variable {α : Type} {key : String} {value : α} {table : List (String × α)}

/-- **A table**: its keys increase. -/
def IsTable (table : List (String × α)) : Prop :=
  table.Pairwise (·.1 < ·.1)

instance (table : List (String × α)) : Decidable (IsTable table) :=
  inferInstanceAs (Decidable (table.Pairwise _))

theorem isTable_nil : IsTable ([] : List (String × α)) := List.Pairwise.nil

/-- No key of a table occurs twice. -/
theorem IsTable.nodup_keys (h : IsTable table) : (table.map (·.1)).Nodup := by
  refine List.pairwise_map.mpr (h.imp ?_)
  intro entry other hlt heq
  rw [heq] at hlt
  exact String.lt_irrefl _ hlt

/-- **Tables with the same entries are equal.** -/
theorem IsTable.eq_of_mem_iff {other : List (String × α)} (h : IsTable table) (hother : IsTable other)
    (hmem : ∀ entry, entry ∈ table ↔ entry ∈ other) : table = other := by
  have : Std.Irrefl (α := String × α) (·.1 < ·.1) := ⟨fun entry => String.lt_irrefl entry.1⟩
  have : Std.Antisymm (α := String × α) (·.1 < ·.1) := ⟨fun _ _ h h' => absurd h' (String.lt_asymm h)⟩
  exact List.Pairwise.eq_of_mem_iff h hother hmem

/-! ## Putting entries in -/

theorem lookup_cons_eq_ite (key : String) (value : α) (table : List (String × α)) (wanted : String) :
    ((key, value) :: table).lookup wanted =
      if wanted = key then some value else table.lookup wanted := by
  rw [List.lookup_cons]
  by_cases h : wanted = key
  · rw [beq_iff_eq.mpr h, if_pos h]
  · rw [beq_eq_false_iff_ne.mpr h, if_neg h]

/-- What is looked up is what was put in last. -/
theorem lookup_putSorted (key : String) (value : α) (table : List (String × α)) (wanted : String) :
    (putSorted key value table).lookup wanted =
      if wanted = key then some value else table.lookup wanted := by
  induction table with
  | nil => exact lookup_cons_eq_ite key value [] wanted
  | cons entry table ih =>
    obtain ⟨k, v⟩ := entry
    unfold putSorted
    split
    · exact lookup_cons_eq_ite _ _ _ _
    · split
      · next heq =>
        subst heq
        rw [lookup_cons_eq_ite, lookup_cons_eq_ite]
        split <;> rfl
      · next hne =>
        rw [lookup_cons_eq_ite, lookup_cons_eq_ite, ih]
        -- The keys differ, so that the order of the two tests does not matter.
        by_cases hkey : wanted = key
        · rw [if_pos hkey, if_pos hkey, if_neg fun heq => hne (hkey.symm.trans heq)]
        · rw [if_neg hkey, if_neg hkey]

theorem eq_or_mem_of_mem_putSorted {entry : String × α} (h : entry ∈ putSorted key value table) :
    entry = (key, value) ∨ entry ∈ table := by
  induction table with
  | nil => exact .inl (List.mem_singleton.mp h)
  | cons first table ih =>
    obtain ⟨k, v⟩ := first
    unfold putSorted at h
    split at h
    · exact List.mem_cons.mp h
    · split at h
      · exact (List.mem_cons.mp h).imp_right (List.mem_cons_of_mem _)
      · rcases List.mem_cons.mp h with rfl | h
        · exact .inr List.mem_cons_self
        · exact (ih h).imp_right (List.mem_cons_of_mem _)

/-- **A table stays one** when an entry is put in. -/
theorem IsTable.putSorted (h : IsTable table) (key : String) (value : α) :
    IsTable (putSorted key value table) := by
  induction table with
  | nil => exact List.pairwise_singleton _ _
  | cons first table ih =>
    obtain ⟨k, v⟩ := first
    obtain ⟨hfirst, htable⟩ := List.pairwise_cons.mp h
    unfold Text.putSorted
    split
    · next hlt =>
      refine List.pairwise_cons.mpr ⟨?_, h⟩
      intro entry hentry
      rcases List.mem_cons.mp hentry with rfl | hentry
      · exact hlt
      · exact String.lt_trans hlt (hfirst entry hentry)
    · split
      · next heq =>
        subst heq
        exact List.pairwise_cons.mpr ⟨hfirst, htable⟩
      · next hnlt hne =>
        have hlt : k < key := Std.lt_of_le_of_ne (String.not_lt.mp hnlt) (Ne.symm hne)
        refine List.pairwise_cons.mpr ⟨?_, ih htable⟩
        intro entry hentry
        rcases eq_or_mem_of_mem_putSorted hentry with rfl | hentry
        · exact hlt
        · exact hfirst entry hentry

/-! ## Putting lists of entries in -/

theorem isTable_foldl_putSorted (entries : List (String × α)) (h : IsTable table) :
    IsTable (entries.foldl (fun table (k, v) => putSorted k v table) table) := by
  induction entries generalizing table with
  | nil => exact h
  | cons entry entries ih => exact ih (h.putSorted entry.1 entry.2)

/-- **Of two entries with one key the later one counts**, and an entry that was there before counts when
no entry with its key is put in. -/
theorem lookup_foldl_putSorted (entries table : List (String × α)) (wanted : String) :
    (entries.foldl (fun table (k, v) => putSorted k v table) table).lookup wanted =
      (entries.reverse.lookup wanted).or (table.lookup wanted) := by
  induction entries generalizing table with
  | nil => rfl
  | cons entry entries ih =>
    obtain ⟨k, v⟩ := entry
    rw [List.foldl_cons, ih, lookup_putSorted, List.reverse_cons, List.lookup_append,
      Option.or_assoc, lookup_cons_eq_ite, List.lookup_nil]
    congr 1
    split <;> rfl

theorem isTable_sortedTable (entries : List (String × α)) : IsTable (sortedTable entries) :=
  isTable_foldl_putSorted entries isTable_nil

end NodeAgent.Text
