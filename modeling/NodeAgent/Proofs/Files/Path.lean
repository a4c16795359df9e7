import NodeAgent.Files.Tree
import NodeAgent.Proofs.Text.Split

/-!
# The components of a path

A path is put together from its components, and they are found in it again.

## Main definitions

* `IsComponents`: lists of names that can be the components of a path.
* `pathNames`: the names on the way along a path.

## Main results

* `isComponents_pathComponents`: the components of a path are such a list.
* `pathComponents_pathOf`: the components that a path is put together from are found again.
* `pathNames_eq`: the names on the way along a path are its components, a leading dot aside.
* `pathNames_parent`: those on the way to the parent of a path are the ones before the last.
-/

namespace NodeAgent

open Text

/-- **Lists of names that can be the components of a path.**  A dot means something only at the start of
a relative path. -/
structure IsComponents (absolute : Bool) (components : List String) : Prop where
  isName : ∀ name ∈ components, name ≠ "" ∧ '/' ∉ name.toList
  isNoDot : ∀ name ∈ if absolute then components else components.tail, name ≠ "."

/-- The names on the way along a path. -/
def pathNames (path : String) : List String :=
  (pathPieces path).filter fun name => name ≠ "" && name ≠ "."

variable {absolute : Bool} {components : List String} {path name : String}

theorem not_slash_of_mem_pathPieces (h : name ∈ pathPieces path) : '/' ∉ name.toList := by
  obtain ⟨piece, hpiece, rfl⟩ := List.mem_map.mp h
  rw [String.toList_ofList]
  exact not_mem_of_mem_splitOnChar hpiece

theorem mem_of_mem_pathPieces (h : name ∈ pathPieces path) {c : Char} (hc : c ∈ name.toList) :
    c ∈ path.toList := by
  obtain ⟨piece, hpiece, rfl⟩ := List.mem_map.mp h
  rw [String.toList_ofList] at hc
  exact mem_of_mem_splitOnChar hpiece hc

theorem mem_pathPieces_of_mem_pathComponents (h : name ∈ pathComponents path) :
    name ∈ pathPieces path ∧ name ≠ "" := by
  have hpiece : name ∈ (pathPieces path).filter (· ≠ "") := by
    unfold pathComponents at h
    dsimp only at h
    split at h
    · exact (List.mem_filter.mp h).1
    · split at h
      · cases h
      · next first rest heq =>
        rw [heq]
        rcases List.mem_cons.mp h with rfl | h
        · exact List.mem_cons_self
        · exact List.mem_cons_of_mem _ (List.mem_filter.mp h).1
  simpa using hpiece

/-- **The components of a path** are such a list. -/
theorem isComponents_pathComponents (path : String) :
    IsComponents (isAbsolutePath path) (pathComponents path) := by
  refine ⟨fun name h => ?_, fun name h => ?_⟩
  · obtain ⟨hpiece, hne⟩ := mem_pathPieces_of_mem_pathComponents h
    exact ⟨hne, not_slash_of_mem_pathPieces hpiece⟩
  · unfold pathComponents at h
    dsimp only at h
    split at h
    · simpa using (List.mem_filter.mp h).2
    · split at h
      · cases h
      · simpa using (List.mem_filter.mp h).2

theorem IsComponents.dropLast (h : IsComponents absolute components) :
    IsComponents absolute components.dropLast := by
  have hsub : ∀ {names : List String} {name}, name ∈ names.dropLast → name ∈ names :=
    fun hname => (List.dropLast_sublist _).subset hname
  refine ⟨fun name hname => h.isName name (hsub hname), fun name hname => h.isNoDot name ?_⟩
  cases absolute with
  | true => exact hsub hname
  | false =>
    refine hsub ?_
    simpa [List.tail_dropLast] using hname

/-! ## Putting a path together -/

theorem toList_pathOf (absolute : Bool) (components : List String) :
    (pathOf absolute components).toList =
      (if absolute then ['/'] else []) ++ ['/'].intercalate (components.map String.toList) := by
  rw [pathOf, String.toList_append, String.toList_intercalate]
  cases absolute <;> rfl

theorem pathPieces_pathOf (h : IsComponents absolute components) (hne : components ≠ []) :
    pathPieces (pathOf absolute components) = (if absolute then [""] else []) ++ components := by
  have hpieces : splitOnChar '/' (['/'].intercalate (components.map String.toList)) =
      components.map String.toList := by
    refine splitOnChar_intercalate (fun piece hpiece => ?_) (by simpa using hne)
    obtain ⟨name, hname, rfl⟩ := List.mem_map.mp hpiece
    exact (h.isName name hname).2
  have hback : (components.map String.toList).map String.ofList = components := by
    simp [Function.comp_def]
  rw [pathPieces, toList_pathOf]
  cases absolute with
  | true =>
    have hroot : ∀ cs, splitOnChar '/' ('/' :: cs) = [] :: splitOnChar '/' cs :=
      fun cs => splitOnChar_append List.not_mem_nil cs
    simp only [if_true, List.singleton_append]
    rw [hroot, hpieces, List.map_cons, hback]
  | false => simp [hpieces, Function.comp_def]

/-- A path is absolute if it was put together as one. -/
theorem isAbsolutePath_pathOf (h : IsComponents absolute components) (hne : components ≠ []) :
    isAbsolutePath (pathOf absolute components) = absolute := by
  rw [Bool.eq_iff_iff, isAbsolutePath, String.startsWith_string_iff, toList_pathOf]
  cases absolute with
  | true => simp
  | false =>
    obtain ⟨first, rest, rfl⟩ := List.exists_cons_of_ne_nil hne
    obtain ⟨hfirst, hslash⟩ := h.isName first List.mem_cons_self
    obtain ⟨c, more, hc⟩ := List.exists_cons_of_ne_nil (mt String.toList_eq_nil_iff.mp hfirst)
    -- The first name has a first character, which is no slash.
    have hhead : ∃ tail, ['/'].intercalate ((first :: rest).map String.toList) = c :: tail := by
      rw [List.map_cons, hc]
      cases rest with
      | nil => exact ⟨more, by simp⟩
      | cons next rest => exact ⟨_, by rw [List.map_cons, List.intercalate_cons_cons]; rfl⟩
    obtain ⟨tail, htail⟩ := hhead
    rw [htail]
    refine iff_of_false ?_ Bool.false_ne_true
    rintro ⟨tail, htail⟩
    obtain rfl : '/' = c := (List.cons.inj htail).1
    rw [hc] at hslash
    exact hslash List.mem_cons_self

/-- **The components that a path is put together from** are found again. -/
theorem pathComponents_pathOf (h : IsComponents absolute components) :
    pathComponents (pathOf absolute components) = components := by
  by_cases hne : components = []
  · subst hne
    cases absolute <;> decide +kernel
  have hnames : components.filter (· ≠ "") = components :=
    List.filter_eq_self.mpr fun name hname => by simpa using (h.isName name hname).1
  rw [pathComponents, isAbsolutePath_pathOf h hne, pathPieces_pathOf h hne]
  cases absolute with
  | true =>
    have hdots : components.filter (· ≠ ".") = components :=
      List.filter_eq_self.mpr fun name hname => by simpa using h.isNoDot name hname
    simp only [if_true, List.singleton_append]
    rw [List.filter_cons_of_neg (by decide), hnames, hdots]
  | false =>
    obtain ⟨first, rest, rfl⟩ := List.exists_cons_of_ne_nil hne
    have hdots : rest.filter (· ≠ ".") = rest :=
      List.filter_eq_self.mpr fun name hname => by simpa using h.isNoDot name hname
    simp only [Bool.false_eq_true, if_false, List.nil_append, hnames, hdots]

/-- What is put together is not empty, and holds no character that its components do not hold. -/
theorem pathOf_ne_empty (h : IsComponents absolute components) (hne : components ≠ []) :
    pathOf absolute components ≠ "" := by
  intro hempty
  have hnone : pathComponents "" = [] := by decide +kernel
  rw [← hempty, pathComponents_pathOf h] at hnone
  exact hne hnone

theorem mem_pathOf {c : Char} (h : c ∈ (pathOf absolute components).toList) :
    c = '/' ∨ ∃ name ∈ components, c ∈ name.toList := by
  rw [toList_pathOf, List.mem_append] at h
  rcases h with h | h
  · cases absolute with
    | true => exact .inl (List.mem_singleton.mp h)
    | false => cases h
  · rcases mem_intercalate h with h | ⟨piece, hpiece, h⟩
    · exact .inl h
    · obtain ⟨name, hname, rfl⟩ := List.mem_map.mp hpiece
      exact .inr ⟨name, hname, h⟩

theorem parentPath?_eq_some {parent : String} (h : parentPath? path = some parent) :
    pathOf (isAbsolutePath path) (pathComponents path).dropLast = parent := by
  unfold parentPath? at h
  split at h
  · cases h
  · exact Option.some.inj h

/-- **The names on the way along a path** are its components, a leading dot aside. -/
theorem pathNames_eq (path : String) :
    pathNames path = (pathComponents path).filter (· ≠ ".") := by
  have hnames : pathNames path = ((pathPieces path).filter (· ≠ "")).filter (· ≠ ".") := by
    rw [List.filter_filter, pathNames]
    refine List.filter_congr fun name _ => ?_
    rw [Bool.and_comm]
  rw [hnames, pathComponents]
  split
  · rw [List.filter_filter]
    simp
  · split
    · next heq => rw [heq]
    · next first rest heq =>
      rw [heq, List.filter_cons, List.filter_cons, List.filter_filter]
      simp

/-- **The names on the way to the parent** of a path are those before the last one. -/
theorem pathNames_parent {names : List String} (hnames : pathNames path = names ++ [name])
    (hne : (pathComponents path).dropLast ≠ []) :
    pathNames (pathOf (isAbsolutePath path) (pathComponents path).dropLast) = names := by
  have hcomponents := isComponents_pathComponents path
  rw [pathNames_eq, pathComponents_pathOf hcomponents.dropLast]
  rw [pathNames_eq] at hnames
  generalize isAbsolutePath path = absolute at hcomponents
  rcases List.eq_nil_or_concat (pathComponents path) with hnil | ⟨before, last, hlast⟩
  · rw [hnil] at hne
    exact absurd rfl hne
  rw [hlast, List.concat_eq_append] at hcomponents hnames hne ⊢
  rw [List.dropLast_concat] at hne ⊢
  -- The last component is not the first one, so that it is no dot.
  have hdot : last ≠ "." := by
    refine hcomponents.isNoDot last ?_
    cases absolute with
    | true => simp
    | false =>
      obtain ⟨first, rest, rfl⟩ := List.exists_cons_of_ne_nil hne
      simp
  have hkept : [last].filter (· ≠ ".") = [last] := by simp [hdot]
  rw [List.filter_append, hkept] at hnames
  exact (List.append_inj' hnames rfl).1

end NodeAgent
