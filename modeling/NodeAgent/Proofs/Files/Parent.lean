import Mathlib.Data.List.Basic
import NodeAgent.Proofs.Files.Path
import NodeAgent.Proofs.Files.Tree

/-!
# The directory of a file

A file that is there stands in a directory, to which the path without its last component leads.  So there
is no directory to make before the file is written again.

## Main definitions

* `FileTree.IsConnected`: trees in which every entry stands in a directory.

## Main results

* `FileTree.entry?_of_walk`: a walk leads from a directory to a directory.
* `FileTree.find_parent`: the path without its last component leads to a directory.
* `run_makeDirectories_parent`: no directory has to be made for a file that is there.
* `run_writeFile_of_find`: a file that is there is written.
-/

namespace NodeAgent

open Text

theorem FileAction.run_tryCatch {α : Type} (a : FileAction α) (f : SystemError → FileAction α)
    (t : FileTree) :
    (tryCatch a f).run.run t =
      match a.run.run t with
      | (.ok x, t') => (.ok x, t')
      | (.error e, t') => (f e).run.run t' := by
  unfold ExceptT.run StateT.run
  simp only [tryCatch, tryCatchThe, MonadExceptOf.tryCatch, ExceptT.tryCatch, ExceptT.mk, bind, StateT.bind]
  rcases a t with ⟨result, t'⟩
  cases result <;> rfl

namespace FileTree

/-- **A tree that hangs together**: the working directory is there, and every entry stands in a
directory. -/
structure IsConnected (t : FileTree) : Prop where
  workingDirectory : t.entry? t.workingDirectory = some .directory
  parent : ∀ e ∈ t.entries, t.entry? e.1.dropLast = some .directory

instance (t : FileTree) : Decidable t.IsConnected :=
  decidable_of_iff (t.entry? t.workingDirectory = some .directory ∧
    ∀ e ∈ t.entries, t.entry? e.1.dropLast = some .directory) ⟨fun h => ⟨h.1, h.2⟩, fun h => ⟨h.1, h.2⟩⟩

variable {t : FileTree} {place there : Place} {names : List String} {path : String}

/-- Where a path starts. -/
def start (t : FileTree) (path : String) : Place :=
  if isAbsolutePath path then [] else t.workingDirectory

theorem IsConnected.start (h : t.IsConnected) (path : String) :
    t.entry? (t.start path) = some .directory := by
  unfold FileTree.start
  split
  · rfl
  · exact h.workingDirectory

theorem IsConnected.entry?_dropLast (h : t.IsConnected) {entry : FileEntry}
    (he : t.entry? place = some entry) : t.entry? place.dropLast = some .directory := by
  by_cases hroot : place = []
  · subst hroot
    rfl
  · rw [ entry?, if_neg hroot] at he
    obtain ⟨before, after, hsplit, -⟩ := List.lookup_eq_some_iff.mp he
    exact h.parent (place, entry) (hsplit ▸ List.mem_append_right _ List.mem_cons_self)

/-- **A walk leads from a directory to a directory.** -/
theorem entry?_of_walk (h : t.IsConnected) (hp : t.entry? place = some .directory)
    (hw : t.walk place names = .ok there) : t.entry? there = some .directory := by
  fun_induction walk t place names with
  | case1 place =>
    obtain rfl := Except.ok.inj hw
    exact hp
  | case2 place rest ih => exact ih (h.entry?_dropLast hp) hw
  | case3 => cases hw
  | case4 => cases hw
  | case5 place name rest _ hentry ih => exact ih hentry hw

/-- A walk whose last step goes down ends right below where it came to before. -/
theorem exists_of_walk_concat {name : String} (hname : name ≠ "..")
    (hw : t.walk place (names ++ [name]) = .ok there) :
    ∃ above, t.walk place names = .ok above ∧ there = above ++ [name] := by
  fun_induction walk t place names with
  | case1 place =>
    rw [List.nil_append, walk] at hw
    · split at hw
      · cases hw
      · cases hw
      · obtain rfl := Except.ok.inj hw
        exact ⟨place, rfl, rfl⟩
    · exact hname
  | case2 place rest ih => exact ih hw
  | case3 place other rest hne hentry =>
    rw [List.cons_append, walk, hentry] at hw
    · cases hw
    · exact hne
  | case4 place other rest hne content executable hentry =>
    rw [List.cons_append, walk, hentry] at hw
    · cases hw
    · exact hne
  | case5 place other rest hne hentry ih =>
    rw [List.cons_append, walk, hentry] at hw
    · exact ih hw
    · exact hne

/-! ## Where paths lead -/

theorem locate_eq (t : FileTree) (path : String) :
    t.locate path =
      if path.isEmpty then .error .noSuchFile
      else if path.toList.contains '\x00' then .error .nulInName
      else
        match (pathNames path).getLast? with
        | none => .ok ⟨t.start path, true⟩
        | some ".." => (t.walk (t.start path) (pathNames path)).map (⟨·, true⟩)
        | some name => (t.walk (t.start path) (pathNames path).dropLast).map fun d =>
            ⟨d ++ [name], path.endsWith "/" || path.endsWith "/." || path == "."⟩ := rfl

/-- **A path leads to a directory** if its names lead there. -/
theorem find_of_walk (hne : path ≠ "") (hnul : '\x00' ∉ path.toList)
    (hw : t.walk (t.start path) (pathNames path) = .ok there)
    (hd : t.entry? there = some .directory) : t.find path = .ok (there, .directory) := by
  have hlocate : ∃ wants, t.locate path = .ok ⟨there, wants⟩ := by
    rw [locate_eq, if_neg (by simpa using hne), if_neg (by simpa using hnul)]
    rcases List.eq_nil_or_concat (pathNames path) with hnil | ⟨names, name, hnames⟩
    · rw [hnil] at hw ⊢
      obtain rfl := Except.ok.inj hw
      exact ⟨true, rfl⟩
    · rw [hnames, List.concat_eq_append] at hw ⊢
      rw [List.getLast?_concat, List.dropLast_concat]
      split
      · next heq => cases heq
      · rw [hw]
        exact ⟨true, rfl⟩
      · next last hlast heq =>
        obtain rfl := Option.some.inj heq
        obtain ⟨above, habove, rfl⟩ := exists_of_walk_concat hlast hw
        rw [habove]
        exact ⟨_, rfl⟩
  obtain ⟨wants, hlocate⟩ := hlocate
  rw [find, hlocate]
  simp only [bind, Except.bind, hd]

/-- The way to a place where not only a directory will do: its last name leads down. -/
theorem exists_walk_of_locate (h : t.locate path = .ok ⟨place, false⟩) :
    path ≠ "" ∧ '\x00' ∉ path.toList ∧
      ∃ names name there, pathNames path = names ++ [name] ∧
        t.walk (t.start path) names = .ok there := by
  rw [locate_eq] at h
  split at h
  · cases h
  split at h
  · cases h
  next hne hnul =>
  refine ⟨by simpa using hne, by simpa using hnul, ?_⟩
  rcases List.eq_nil_or_concat (pathNames path) with hnil | ⟨names, name, hnames⟩
  · rw [hnil] at h
    cases h
  rw [List.concat_eq_append] at hnames
  rw [hnames, List.getLast?_concat, List.dropLast_concat] at h
  split at h
  · cases h
  · cases hw : t.walk (t.start path) (names ++ [name]) with
    | error e =>
      rw [hw] at h
      cases h
    | ok there =>
      rw [hw] at h
      cases h
  · cases hw : t.walk (t.start path) names with
    | error e =>
      rw [hw] at h
      cases h
    | ok there => exact ⟨names, name, there, hnames, hw⟩

/-- The place of a file that is there. -/
theorem locate_of_find {content : Bytes} {executable : Bool}
    (h : t.find path = .ok (place, .file content executable)) :
    t.locate path = .ok ⟨place, false⟩ ∧ t.entry? place = some (.file content executable) := by
  unfold find at h
  cases hl : t.locate path with
  | error e =>
    rw [hl] at h
    cases h
  | ok found =>
    obtain ⟨place', wants⟩ := found
    rw [hl] at h
    simp only [bind, Except.bind] at h
    split at h
    · cases h
    · next hentry =>
      cases wants with
      | true => cases h
      | false =>
        cases h
        exact ⟨rfl, hentry⟩
    · cases h

/-- What is read is a file. -/
theorem exists_find_of_readBytes {content : Bytes} (h : t.readBytes path = .ok content) :
    ∃ place executable, t.find path = .ok (place, .file content executable) := by
  unfold readBytes at h
  cases hfind : t.find path with
  | error e =>
    rw [hfind] at h
    cases h
  | ok found =>
    obtain ⟨place, entry⟩ := found
    rw [hfind] at h
    cases entry with
    | directory => cases h
    | file found executable =>
      cases h
      exact ⟨place, executable, rfl⟩

theorem locate_of_find_directory (h : t.find path = .ok (place, .directory)) :
    ∃ wants, t.locate path = .ok ⟨place, wants⟩ ∧ t.entry? place = some .directory := by
  unfold find at h
  cases hl : t.locate path with
  | error e =>
    rw [hl] at h
    cases h
  | ok found =>
    obtain ⟨place', wants⟩ := found
    rw [hl] at h
    simp only [bind, Except.bind] at h
    split at h
    · cases h
    · split at h <;> cases h
    · next hentry =>
      cases h
      exact ⟨wants, rfl, hentry⟩

/-- **The path without its last component** leads to a directory, if the path leads to a file. -/
theorem find_parent (ht : t.IsConnected) {parent : String} (h : t.locate path = .ok ⟨place, false⟩)
    (hp : parentPath? path = some parent) (hne : pathComponents parent ≠ []) :
    ∃ there, t.find parent = .ok (there, .directory) := by
  obtain ⟨-, hnul, names, name, there, hnames, hw⟩ := exists_walk_of_locate h
  obtain rfl := parentPath?_eq_some hp
  have hcomponents := (isComponents_pathComponents path).dropLast
  rw [pathComponents_pathOf hcomponents] at hne
  refine ⟨there, find_of_walk (pathOf_ne_empty hcomponents hne) ?_ ?_ ?_⟩
  · intro hmem
    rcases mem_pathOf hmem with hslash | ⟨component, hcomponent, hmem⟩
    · cases hslash
    · have hpiece := mem_pathPieces_of_mem_pathComponents ((List.dropLast_sublist _).subset hcomponent)
      exact hnul (mem_of_mem_pathPieces hpiece.1 hmem)
  · rw [pathNames_parent hnames hne, start, isAbsolutePath_pathOf hcomponents hne]
    exact hw
  · exact entry?_of_walk ht (ht.start path) hw

end FileTree

/-! ## Making directories, and writing -/

section Writing

variable {t : FileTree} {path parent : String} {place : Place} {content old : Bytes} {executable : Bool}

/-- A directory that is there need not be made. -/
theorem run_ensureDirectory {there : Place} (h : t.find path = .ok (there, .directory)) :
    (ensureDirectory path).run.run t = (.ok (), t) := by
  obtain ⟨wants, hlocate, hentry⟩ := FileTree.locate_of_find_directory h
  have hmade : (makeDirectory path).run.run t = (.error .alreadyThere, t) := by
    rw [makeDirectory, FileAction.run_bind, FileAction.run_look, hlocate]
    simp only [FileAction.run_bind, FileAction.run_get, hentry]
    rfl
  rw [ensureDirectory, FileAction.run_tryCatch, hmade]
  simp only [FileAction.run_bind, FileAction.run_get, h]
  rfl

/-- **No directory has to be made** for a file that is there. -/
theorem run_makeDirectories_parent (ht : t.IsConnected) (h : t.locate path = .ok ⟨place, false⟩)
    (hp : parentPath? path = some parent) : (makeDirectories parent).run.run t = (.ok (), t) := by
  rw [makeDirectories]
  cases hlength : (pathComponents parent).length with
  | zero => rfl
  | succ n =>
    have hne : pathComponents parent ≠ [] := List.ne_nil_of_length_eq_add_one hlength
    obtain ⟨there, hthere⟩ := FileTree.find_parent ht h hp hne
    -- The parent was put together from its components.
    have hself : pathOf (isAbsolutePath parent) (pathComponents parent) = parent := by
      obtain rfl := parentPath?_eq_some hp
      have hcomponents := (isComponents_pathComponents path).dropLast
      rw [pathComponents_pathOf hcomponents] at hne ⊢
      rw [isAbsolutePath_pathOf hcomponents hne]
    simp only [makeDirectoriesTo]
    rw [← hlength, List.take_length, hself, FileAction.run_tryCatch, run_ensureDirectory hthere]

/-- **A file that is there is written.** -/
theorem run_writeFile_of_find (h : t.find path = .ok (place, .file old executable)) :
    (writeFile path content).run.run t = (.ok (), t.put place (.file content executable)) := by
  obtain ⟨hlocate, hentry⟩ := FileTree.locate_of_find h
  rw [writeFile, FileAction.run_bind, FileAction.run_look, hlocate]
  simp only [FileAction.run_bind, FileAction.run_get, hentry]
  rfl

end Writing

end NodeAgent
