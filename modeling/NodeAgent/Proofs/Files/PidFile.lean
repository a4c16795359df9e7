import NodeAgent.Files.PidFile
import NodeAgent.Proofs.Files.Tree
import NodeAgent.Proofs.Text.Number
import NodeAgent.Proofs.Text.Words

/-!
# Who holds a pid file

Processes claim a pid file, give it up, crash while they hold it, and are replaced by fresh programs of
the same number.  A number may be given to a new process once the old one is gone.  Whoever holds the
file is named in it, and that keeps the others away.

## Main definitions

* `PidFile.Scene`, `PidFile.Event`: processes around a pid file, and what they do.
* `PidFile.Scene.after`, `PidFile.run`: the scene after one event, and after several.
* `PidFile.Scene.Admits`, `PidFile.Admissible`: what may happen.
* `PidFile.Guarded`: whoever holds the file is alone and named in it.
* `MayTake`: what a process may take over.

## Main results

* `readPidFile_of_writePidFile`: the number that was written is read back.
* `claimPidFile_of_names`, `claimPidFile_of_mayTake`, `claimPidFile_eq_ok`: claims that are refused, and
  those that succeed.
* `guarded_after`, `guarded_run`: one event keeps the file guarded, and so do all of them.
* `pid_file_held_by_one`: at most one process holds the file at any time.
-/

namespace NodeAgent

open Text

/-! ## Numbers of processes -/

/-- **The number of a single process.** -/
def IsProcessId (pid : UInt32) : Prop :=
  0 < pid.toNat ∧ pid.toNat < 2 ^ 31

instance (pid : UInt32) : Decidable (IsProcessId pid) :=
  inferInstanceAs (Decidable (_ ∧ _))

/-- The number of a single process is probed as it is. -/
theorem Processes.isAlive_of_isProcessId {p : Processes} {pid : UInt32} (h : IsProcessId pid) :
    p.isAlive pid = p.running.contains pid.toNat := by
  obtain ⟨hpos, hlt⟩ := h
  have hsigned : Int.bmod pid.toNat UInt32.size = pid.toNat := by
    rw [Int.bmod_eq_of_le_mul_two]
    · change -(4294967296 : Int) ≤ _
      omega
    · change _ < (4294967296 : Int)
      omega
  rw [isAlive, hsigned, answers, if_pos (by omega), Int.toNat_natCast]

/-! ## Reading and writing -/

section Files

variable {t t' : FileTree} {path : String} {pid named : UInt32} {p : Processes}

theorem isBlank_of_isDigit {c : Char} (h : c.isDigit = true) : isBlank c = false := by
  rw [Char.isDigit, Bool.and_eq_true, decide_eq_true_eq, decide_eq_true_eq] at h
  have hlow : 48 ≤ c.toNat := h.1
  have hhigh : c.toNat ≤ 57 := h.2
  simp only [isBlank, Bool.or_eq_false_iff, Bool.and_eq_false_iff, decide_eq_false_iff_not,
    beq_eq_false_iff_ne]
  omega

/-- The number that stands in the text of a pid file. -/
theorem readPid_toString (pid : UInt32) : readPid (toString pid.toNat ++ "\n") = .ok pid := by
  have hdigits : ∀ c ∈ (toString pid.toNat).toList, isBlank c = false := by
    intro c hc
    rw [Nat.toString_eq_repr, Nat.toList_repr] at hc
    exact isBlank_of_isDigit (Nat.isDigit_of_mem_toDigits (by decide) (by decide) hc)
  have hbreak : ∀ c ∈ "\n".toList, isBlank c = true := by
    intro c hc
    obtain rfl : c = '\n' := List.mem_singleton.mp hc
    rfl
  have htrim : trim (toString pid.toNat ++ "\n") = toString pid.toNat := by
    rw [trim, String.toList_append, trimChars_append_blanks hdigits hbreak, String.ofList_toList]
  rw [readPid, htrim, readUInt32_toString]
  rfl

/-- To write a pid file ends with a write. -/
theorem exists_writeFile_of_writePidFile (h : (writePidFile path pid).run.run t = (.ok (), t')) :
    ∃ t₁, (writeFile path (encodeUtf8 (toString pid.toNat ++ "\n"))).run.run t₁ = (.ok (), t') := by
  unfold writePidFile at h
  split at h
  · rw [FileAction.run_bind] at h
    split at h
    · exact ⟨_, h⟩
    · cases h
  · exact ⟨_, h⟩

/-- **The number that was written is read back.** -/
theorem readPidFile_of_writePidFile (h : (writePidFile path pid).run.run t = (.ok (), t')) :
    readPidFile t' path = .ok (some pid) := by
  obtain ⟨t₁, hwrite⟩ := exists_writeFile_of_writePidFile h
  rw [readPidFile, readText_of_writeFile hwrite]
  simp only [readPid_toString]
  rfl

/-- The number in a pid file depends on nothing but the bytes of the file. -/
theorem readPidFile_congr (h : t'.readBytes path = t.readBytes path) :
    readPidFile t' path = readPidFile t path := by
  have htext : t'.readText path = t.readText path := by
    rw [FileTree.readText, FileTree.readText, h]
  rw [readPidFile, readPidFile, htext]

/-! ## Claims -/

/-- A claim is refused and changes nothing, or it writes the file. -/
theorem run_claimPidFile (p : Processes) (path : String) (pid : UInt32) (t : FileTree) :
    (claimPidFile p path pid).run.run t =
      match claimRefusal? p path pid (readPidFile t path) with
      | some refusal => (.error refusal, t)
      | none => (writePidFile path pid).run.run t := by
  rw [claimPidFile, FileAction.run_bind, FileAction.run_get]
  dsimp only
  cases claimRefusal? p path pid (readPidFile t path) <;> rfl

/-- **A claim is refused** while the file names another process that is alive; it changes nothing. -/
theorem claimPidFile_of_names (h : readPidFile t path = .ok (some named)) (hne : named ≠ pid)
    (ha : p.isAlive named = true) :
    (claimPidFile p path pid).run.run t = (.error (ownedBy path named), t) := by
  rw [run_claimPidFile, h, claimRefusal?, if_pos ⟨hne, ha⟩]

/-- **What a process may take over**: nothing, what is no number, its own number, or the number of a
process that is gone. -/
inductive MayTake (p : Processes) (pid : UInt32) : Except SystemError (Option UInt32) → Prop
  | absent : MayTake p pid (.ok none)
  | garbled {e : SystemError} (h : e.kind = .invalidData) : MayTake p pid (.error e)
  | own : MayTake p pid (.ok (some pid))
  | stale {named : UInt32} (h : p.isAlive named = false) : MayTake p pid (.ok (some named))

/-- **A claim on what may be taken over** just writes the file. -/
theorem claimPidFile_of_mayTake (h : MayTake p pid (readPidFile t path)) :
    (claimPidFile p path pid).run.run t = (writePidFile path pid).run.run t := by
  rw [run_claimPidFile]
  generalize readPidFile t path = found at h
  cases h with
  | absent => rfl
  | garbled he => rw [claimRefusal?, if_pos he]
  | own => rw [claimRefusal?, if_neg fun hother => hother.1 rfl]
  | stale hgone => rw [claimRefusal?, if_neg (by simp [hgone])]

/-- **A claim that succeeds** found no other process that is alive in the file, and has put its own in. -/
theorem claimPidFile_eq_ok (h : (claimPidFile p path pid).run.run t = (.ok (), t')) :
    (∀ named, readPidFile t path = .ok (some named) → named ≠ pid → p.isAlive named = false) ∧
      readPidFile t' path = .ok (some pid) := by
  constructor
  · intro named hnamed hne
    by_contra ha
    rw [claimPidFile_of_names hnamed hne (by simpa using ha)] at h
    cases h
  · rw [run_claimPidFile] at h
    split at h
    · cases h
    · exact readPidFile_of_writePidFile h

end Files

/-! ## Processes around a pid file -/

namespace PidFile

/-- **Processes around a pid file.** -/
structure Scene where
  tree : FileTree
  /-- The processes that are running. -/
  running : List UInt32
  /-- The processes that hold the file. -/
  holders : List UInt32 := []
deriving DecidableEq

/-- **What happens around a pid file.** -/
inductive Event
  /-- A process claims the file, which is one step.  There are process groups besides. -/
  | claim (pid : UInt32) (groups : List Nat)
  /-- A process gives up the file that it holds. -/
  | giveUp (pid : UInt32)
  /-- A process ends and leaves the file behind. -/
  | crash (pid : UInt32)
  /-- A fresh program takes the place of a process, with the same number.  It does not know whether the
  file was held. -/
  | renew (pid : UInt32)
  /-- A process starts. -/
  | birth (pid : UInt32)
  /-- Something else happens in the file tree. -/
  | elsewhere (tree : FileTree)

namespace Scene

/-- What a probe of a process can reach. -/
def processes (s : Scene) (groups : List Nat) (pid : UInt32) : Processes where
  running := s.running.map UInt32.toNat
  groups := groups
  own := pid

/-- **The scene after an event.** -/
def after (path : String) (s : Scene) : Event → Scene
  | .claim pid groups =>
    match (claimPidFile (s.processes groups pid) path pid).run.run s.tree with
    | (.ok (), tree) => { s with tree, holders := pid :: s.holders }
    | (.error _, tree) => { s with tree }
  | .giveUp pid =>
    { s with tree := dropPidFile path s.tree, holders := s.holders.filter (· ≠ pid) }
  | .crash pid =>
    { s with running := s.running.filter (· ≠ pid), holders := s.holders.filter (· ≠ pid) }
  | .renew pid => { s with holders := s.holders.filter (· ≠ pid) }
  | .birth pid => { s with running := pid :: s.running }
  | .elsewhere tree => { s with tree }

/-- **What may happen in a scene.**  A process claims the file when it does not hold it yet, and the
file can be written then.  A number is given to one process at a time.  Nothing else writes the file. -/
def Admits (path : String) (s : Scene) : Event → Prop
  | .claim pid _ => pid ∈ s.running ∧ pid ∉ s.holders ∧
      ((writePidFile path pid).run.run s.tree).1 = .ok ()
  | .giveUp pid => pid ∈ s.holders
  | .crash pid => pid ∈ s.running
  | .renew pid => pid ∈ s.running
  | .birth pid => pid ∉ s.running ∧ IsProcessId pid
  | .elsewhere tree => tree.readBytes path = s.tree.readBytes path

end Scene

/-- **The scene after several events.** -/
def run (path : String) (s : Scene) (events : List Event) : Scene :=
  events.foldl (Scene.after path) s

/-- **Events that may happen** one after the other. -/
def Admissible (path : String) : Scene → List Event → Prop
  | _, [] => True
  | s, event :: later => s.Admits path event ∧ Admissible path (s.after path event) later

/-- **A guarded file**: at most one process holds it, which is running and named in it. -/
structure Guarded (path : String) (s : Scene) : Prop where
  isProcessId : ∀ pid ∈ s.running, IsProcessId pid
  runs : ∀ pid ∈ s.holders, pid ∈ s.running
  named : ∀ pid ∈ s.holders, readPidFile s.tree path = .ok (some pid)
  alone : s.holders.length ≤ 1

variable {path : String} {s : Scene}

/-- A file that nobody holds is guarded, whatever stands in it. -/
theorem guarded_of_holders_eq_nil (hpids : ∀ pid ∈ s.running, IsProcessId pid)
    (hfree : s.holders = []) : Guarded path s := by
  refine ⟨hpids, ?_, ?_, ?_⟩ <;> simp [hfree]

/-- A process that is running is found by a probe. -/
theorem isAlive_of_mem_running (h : Guarded path s) {pid : UInt32} (hp : pid ∈ s.running)
    (groups : List Nat) (own : UInt32) : (s.processes groups own).isAlive pid = true := by
  rw [Processes.isAlive_of_isProcessId (h.isProcessId pid hp), List.contains_iff_mem]
  exact List.mem_map_of_mem hp

/-- Nobody else holds the file when a claim succeeds. -/
theorem holders_eq_nil_of_claim (h : Guarded path s) {pid : UInt32} {groups : List Nat}
    {tree : FileTree} (hfree : pid ∉ s.holders)
    (hclaim : (claimPidFile (s.processes groups pid) path pid).run.run s.tree = (.ok (), tree)) :
    s.holders = [] := by
  refine List.eq_nil_iff_forall_not_mem.mpr fun holder hholder => ?_
  -- A holder would be named in the file, and its number answers a probe.
  have hne : holder ≠ pid := by
    rintro rfl
    exact hfree hholder
  have hdead := (claimPidFile_eq_ok hclaim).1 holder (h.named holder hholder) hne
  rw [isAlive_of_mem_running h (h.runs holder hholder)] at hdead
  cases hdead

/-- When a holder leaves, nobody is left. -/
theorem Guarded.filter_holders (h : Guarded path s) {pid : UInt32} (hp : pid ∈ s.holders) :
    s.holders.filter (· ≠ pid) = [] := by
  obtain ⟨only, honly⟩ := List.length_eq_one_iff.mp
    (Nat.le_antisymm h.alone (List.length_pos_of_mem hp))
  rw [honly, List.mem_singleton] at hp
  simp [honly, hp]

/-- A claim in a scene leaves the tree as it was, or its process is the only holder. -/
theorem guarded_after_claim (h : Guarded path s) {pid : UInt32} {groups : List Nat}
    (ha : s.Admits path (.claim pid groups)) : Guarded path (s.after path (.claim pid groups)) := by
  obtain ⟨hruns, hfree, hwrites⟩ := ha
  rw [Scene.after]
  split
  next tree hclaim =>
    have hnone := holders_eq_nil_of_claim h hfree hclaim
    have hnamed := (claimPidFile_eq_ok hclaim).2
    refine ⟨h.isProcessId, ?_, ?_, ?_⟩ <;> simp [hnone, hruns, hnamed]
  next e tree hclaim =>
    -- The write cannot have failed, so the claim was refused.
    have hsame : tree = s.tree := by
      rw [run_claimPidFile] at hclaim
      split at hclaim
      · cases hclaim
        rfl
      · rw [hclaim] at hwrites
        cases hwrites
    subst hsame
    exact ⟨h.isProcessId, h.runs, h.named, h.alone⟩

/-- A process that forgets the file or ends leaves a guarded file to the others. -/
theorem Guarded.without (h : Guarded path s) (pid : UInt32) {running : List UInt32}
    (hkept : ∀ p ∈ running, p ∈ s.running) (hothers : ∀ p ∈ s.running, p ≠ pid → p ∈ running) :
    Guarded path { s with running, holders := s.holders.filter (· ≠ pid) } where
  isProcessId p hp := h.isProcessId p (hkept p hp)
  runs p hp := by
    obtain ⟨hholds, hne⟩ := List.mem_filter.mp hp
    exact hothers p (h.runs p hholds) (by simpa using hne)
  named p hp := h.named p (List.mem_filter.mp hp).1
  alone := (List.length_filter_le _ _).trans h.alone

/-- **An event keeps the file guarded.** -/
theorem guarded_after (h : Guarded path s) {event : Event} (ha : s.Admits path event) :
    Guarded path (s.after path event) := by
  cases event with
  | claim pid groups => exact guarded_after_claim h ha
  | giveUp pid => exact guarded_of_holders_eq_nil h.isProcessId (h.filter_holders ha)
  | crash pid =>
    refine h.without pid (fun p hp => (List.mem_filter.mp hp).1) fun p hp hne => ?_
    exact List.mem_filter.mpr ⟨hp, by simpa using hne⟩
  | renew pid => exact h.without pid (fun _ hp => hp) fun _ hp _ => hp
  | birth pid =>
    obtain ⟨-, hpid⟩ := ha
    refine ⟨?_, fun p hp => List.mem_cons_of_mem _ (h.runs p hp), h.named, h.alone⟩
    intro p hp
    cases List.mem_cons.mp hp with
    | inl heq => exact heq ▸ hpid
    | inr hruns => exact h.isProcessId p hruns
  | elsewhere tree =>
    exact ⟨h.isProcessId, h.runs, fun p hp => (readPidFile_congr ha).trans (h.named p hp), h.alone⟩

/-- **Events that may happen keep the file guarded.** -/
theorem guarded_run (h : Guarded path s) {events : List Event} (ha : Admissible path s events) :
    Guarded path (run path s events) := by
  induction events generalizing s with
  | nil => exact h
  | cons event later ih =>
    obtain ⟨hevent, hlater⟩ := ha
    exact ih (guarded_after h hevent) hlater

end PidFile

/-- **At most one process holds a pid file at any time**, and while it does the file reads as its number.
Whatever stands in the file at the start, processes may claim it, give it up, crash, be renewed and be
born in any order.  A claim that finds another process in the file that is alive is refused and leaves
the file tree as it is; any other number in the file does not stand in the way. -/
theorem pid_file_held_by_one (path : String) (start : PidFile.Scene) (events : List PidFile.Event)
    (hfree : start.holders = []) (hpids : ∀ pid ∈ start.running, IsProcessId pid)
    (h : PidFile.Admissible path start events) :
    let s := PidFile.run path start events
    s.holders.length ≤ 1 ∧
      (∀ pid ∈ s.holders, pid ∈ s.running ∧ readPidFile s.tree path = .ok (some pid)) ∧
      ∀ pid groups,
        (∀ named ∈ s.running, (s.processes groups pid).isAlive named = true) ∧
        (∀ named, readPidFile s.tree path = .ok (some named) → named ≠ pid →
          (s.processes groups pid).isAlive named = true →
          (claimPidFile (s.processes groups pid) path pid).run.run s.tree =
            (.error (ownedBy path named), s.tree)) ∧
        (MayTake (s.processes groups pid) pid (readPidFile s.tree path) →
          (claimPidFile (s.processes groups pid) path pid).run.run s.tree =
            (writePidFile path pid).run.run s.tree) := by
  intro s
  have hguarded : PidFile.Guarded path s :=
    PidFile.guarded_run (PidFile.guarded_of_holders_eq_nil hpids hfree) h
  refine ⟨hguarded.alone, fun pid hp => ⟨hguarded.runs pid hp, hguarded.named pid hp⟩, ?_⟩
  intro pid groups
  refine ⟨?_, ?_, claimPidFile_of_mayTake⟩
  · intro named hruns
    exact PidFile.isAlive_of_mem_running hguarded hruns groups pid
  · intro named hnamed hne halive
    exact claimPidFile_of_names hnamed hne halive

namespace PidFile

/-- A file that a process left behind which is long gone. -/
def leftBehind : Scene where
  tree :=
    { entries :=
        [(["run"], .directory), (["run", "node.pid"], .file (encodeUtf8 "4711\n") false)] }
  running := [1, 7, 9]

/-- Two processes that want the same file.  One of them crashes while it holds it, its number is given
to a new process, and the new process is renewed. -/
def rivals : List Event :=
  [.claim 7 [], .claim 9 [], .crash 7, .birth 7, .claim 7 [], .renew 7, .claim 9 [], .claim 7 [],
    .giveUp 7, .claim 9 []]

end PidFile

/-- In the end the other process holds the file. -/
theorem pid_file_held_by_rival :
    (PidFile.run "/run/node.pid" PidFile.leftBehind PidFile.rivals).holders = [9] ∧
      readPidFile (PidFile.run "/run/node.pid" PidFile.leftBehind PidFile.rivals).tree "/run/node.pid" =
        .ok (some 9) := by
  have hpids : ∀ pid ∈ PidFile.leftBehind.running, IsProcessId pid := by
    intro pid hpid
    simp only [PidFile.leftBehind, List.mem_cons, List.not_mem_nil, or_false] at hpid
    rcases hpid with rfl | rfl | rfl <;> decide
  have hrivals : PidFile.Admissible "/run/node.pid" PidFile.leftBehind PidFile.rivals := by
    simp only [PidFile.rivals, PidFile.Admissible, PidFile.Scene.Admits]
    decide +kernel
  have hholders : (PidFile.run "/run/node.pid" PidFile.leftBehind PidFile.rivals).holders = [9] := by
    decide +kernel
  obtain ⟨-, hnamed, -⟩ :=
    pid_file_held_by_one "/run/node.pid" PidFile.leftBehind PidFile.rivals rfl hpids hrivals
  refine ⟨hholders, (hnamed 9 ?_).2⟩
  rw [hholders]
  exact List.mem_singleton_self 9

end NodeAgent
