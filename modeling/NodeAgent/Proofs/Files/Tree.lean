import NodeAgent.Files.Tree
import NodeAgent.Proofs.Text.Utf8

/-!
# What is read behind a write

A file that was written holds what was written into it.  The write changes one place, at which no
directory stands, so that the path still leads to that place.

## Main definitions

* `FileTree.KeepsDirectories`: directories stay when a tree changes.

## Main results

* `FileTree.locate_of_keepsDirectories`: a path leads to its place as long as the directories stay.
* `writeFile_eq_ok`: what a write that succeeds has done.
* `readText_of_writeFile`: the text of a file that was written.
-/

namespace NodeAgent

open Text

/-- One action after the other. -/
theorem FileAction.run_bind {α β : Type} (a : FileAction α) (f : α → FileAction β) (t : FileTree) :
    (a >>= f).run.run t =
      match a.run.run t with
      | (.ok x, t') => (f x).run.run t'
      | (.error e, t') => (.error e, t') := by
  unfold ExceptT.run StateT.run
  simp only [bind, ExceptT.bind, ExceptT.mk, StateT.bind, ExceptT.bindCont]
  rcases a t with ⟨result, t'⟩
  cases result <;> rfl

@[simp] theorem FileAction.run_look {α : Type} (f : FileTree → Except SystemError α) (t : FileTree) :
    (FileAction.look f).run.run t = (f t, t) := rfl

@[simp] theorem FileAction.run_get (t : FileTree) :
    (get : FileAction FileTree).run.run t = (.ok t, t) := rfl

namespace FileTree

variable {t t' : FileTree} {place other : Place} {entry : FileEntry} {path : String}

theorem entry?_put (h : place ≠ []) :
    FileTree.entry? (t.put place entry) place = some entry := by
  rw [ entry?, if_neg h, put]
  simp

theorem entry?_put_of_ne (h : other ≠ place) :
    FileTree.entry? (t.put place entry) other = t.entry? other := by
  unfold entry?
  split
  · rfl
  · simp only [put]
    rw [List.lookup_cons, beq_false_of_ne h]
    -- What was filtered out was another place.
    induction t.entries with
    | nil => rfl
    | cons e entries ih =>
      obtain ⟨p, e⟩ := e
      by_cases hp : p = place
      · subst hp
        simpa [List.lookup_cons, beq_false_of_ne h] using ih
      · by_cases ho : other = p
        · subst ho
          simp [hp]
        · simpa [hp, List.lookup_cons, beq_false_of_ne ho] using ih

/-! ## Paths -/

/-- **Directories that stay** when a tree changes. -/
structure KeepsDirectories (t t' : FileTree) : Prop where
  workingDirectory_eq : t'.workingDirectory = t.workingDirectory
  directory : ∀ place, t.entry? place = some .directory → t'.entry? place = some .directory

/-- Directories stay when something is put in a place without one. -/
theorem keepsDirectories_put (h : t.entry? place ≠ some .directory) (entry : FileEntry) :
    t.KeepsDirectories (t.put place entry) where
  workingDirectory_eq := rfl
  directory other ho := by
    have hne : other ≠ place := by
      rintro rfl
      exact h ho
    rw [ entry?_put_of_ne hne, ho]

theorem walk_of_keepsDirectories (h : t.KeepsDirectories t') {names : List String} {there : Place}
    (hw : t.walk place names = .ok there) : t'.walk place names = .ok there := by
  fun_induction walk t place names with
  | case1 place => exact hw
  | case2 place rest ih => exact ih hw
  | case3 => cases hw
  | case4 => cases hw
  | case5 place name rest hne hentry ih =>
    rw [walk, h.directory _ hentry]
    · exact ih hw
    · exact hne

/-- **A path leads to its place** as long as the directories stay. -/
theorem locate_of_keepsDirectories (h : t.KeepsDirectories t') {there : Location}
    (hl : t.locate path = .ok there) : t'.locate path = .ok there := by
  have hwalk : ∀ {start names} (f : Place → Location), (t.walk start names).map f = .ok there →
      (t'.walk start names).map f = .ok there := by
    intro start names f hf
    cases hw : t.walk start names with
    | error e =>
      rw [hw] at hf
      cases hf
    | ok place => rwa [walk_of_keepsDirectories h hw, ← hw]
  -- Only the walk to the last name depends on the tree.
  unfold locate at hl ⊢
  rw [h.workingDirectory_eq]
  by_cases hempty : path.isEmpty = true
  · simp only [if_pos hempty] at hl
    cases hl
  by_cases hnul : path.toList.contains '\x00' = true
  · simp only [if_neg hempty, if_pos hnul] at hl
    cases hl
  simp only [if_neg hempty, if_neg hnul] at hl ⊢
  split at hl
  · exact hl
  · exact hwalk _ hl
  · exact hwalk _ hl

end FileTree

/-! ## Writing -/

section Writing

variable {t t' : FileTree} {path : String} {content : Bytes}

/-- **What a write that succeeds has done.** -/
theorem writeFile_eq_ok (h : (writeFile path content).run.run t = (.ok (), t')) :
    ∃ place executable, t.locate path = .ok ⟨place, false⟩ ∧ t.entry? place ≠ some .directory ∧
      t' = t.put place (.file content executable) := by
  unfold writeFile at h
  simp only [FileAction.run_bind, FileAction.run_look, FileAction.run_get] at h
  cases hl : t.locate path with
  | error e =>
    rw [hl] at h
    cases h
  | ok there =>
    obtain ⟨place, wants⟩ := there
    simp only [hl] at h
    cases hentry : t.entry? place with
    | none =>
      rw [hentry] at h
      cases wants with
      | true => cases h
      | false =>
        cases h
        exact ⟨place, false, rfl, by simp [hentry], rfl⟩
    | some entry =>
      rw [hentry] at h
      cases entry with
      | directory => cases wants <;> cases h
      | file old executable =>
        cases wants with
        | true => cases h
        | false =>
          cases h
          exact ⟨place, executable, rfl, by simp [hentry], rfl⟩

/-- **The bytes of a file that was written.** -/
theorem readBytes_of_writeFile (h : (writeFile path content).run.run t = (.ok (), t')) :
    t'.readBytes path = .ok content := by
  obtain ⟨place, executable, hl, hentry, rfl⟩ := writeFile_eq_ok h
  have hplace : place ≠ [] := by
    rintro rfl
    exact hentry rfl
  have hl' := FileTree.locate_of_keepsDirectories
    (FileTree.keepsDirectories_put hentry (.file content executable)) hl
  rw [FileTree.readBytes, FileTree.find, hl']
  simp only [FileTree.entry?_put hplace, bind, Except.bind]
  rfl

/-- **The text of a file that was written.** -/
theorem readText_of_writeFile {text : String}
    (h : (writeFile path (encodeUtf8 text)).run.run t = (.ok (), t')) :
    t'.readText path = .ok text := by
  rw [FileTree.readText, readBytes_of_writeFile h]
  simp only [bind, Except.bind, decodeUtf8?_encodeUtf8]

end Writing

end NodeAgent
