import NodeAgent.Proofs.Files.Parent
import NodeAgent.Proofs.Files.PidFile

/-!
# When a pid file blocks a start

A pid file holds some bytes, and a process wants to put its own number there.  If the bytes are a number,
it is probed as a signed number of 32 bits.  So it may reach more than a process: zero is the group of the
process that asks, and the upper half of the numbers are groups as well.

## Main definitions

* `NamesNumber`: the number that the bytes of a pid file are.
* `Processes.Reaches`: what the probe of a number reaches.
* `IsBlocked`: whether the bytes of a pid file stand in the way of a process.

## Main results

* `Processes.isAlive_iff`: a number is alive exactly if its probe reaches something.
* `Processes.Reaches.mem_running_iff`: what is reached is the process of that number, if it is the number
  of a single process at all.
* `claimPidFile_of_isBlocked`, `claimPidFile_of_not_isBlocked`: a claim fails or puts the number in.
* `pid_file_blocks_exactly`: when a pid file blocks a start, and when only another running process does.
* `zero_blocks_start`: a file with a zero blocks a start although no process has that number.
-/

namespace NodeAgent

open Text

/-- **The number that the bytes of a pid file are**, with white space around it. -/
def NamesNumber (content : Bytes) (named : UInt32) : Prop :=
  ∃ text, decodeUtf8? content = some text ∧ readUInt32 (trim text) = .ok named

theorem NamesNumber.unique {content : Bytes} {named other : UInt32} (h : NamesNumber content named)
    (ho : NamesNumber content other) : named = other := by
  obtain ⟨text, htext, hread⟩ := h
  obtain ⟨text', htext', hread'⟩ := ho
  obtain rfl := Option.some.inj (htext.symm.trans htext')
  exact Except.ok.inj (hread.symm.trans hread')

/-! ## Probes -/

namespace Processes

variable {p : Processes} {pid : UInt32}

/-- **What the probe of a number reaches.** -/
inductive Reaches (p : Processes) (pid : UInt32) : Prop
  /-- A process of that number. -/
  | process (h : pid.toNat ∈ p.running)
  /-- The group of the process that asks. -/
  | ownGroup (h : pid = 0)
  /-- Any process other than the first and the one that asks. -/
  | anyOther (h : pid.toNat = 2 ^ 32 - 1) (id : Nat) (hid : id ∈ p.running) (hfirst : id ≠ 1)
      (hown : id ≠ p.own.toNat)
  /-- A group. -/
  | group (hlow : 2 ^ 31 ≤ pid.toNat) (hhigh : pid.toNat < 2 ^ 32 - 1)
      (h : 2 ^ 32 - pid.toNat ∈ p.groups)

/-- The upper half of the numbers are negative to a probe. -/
theorem bmod_of_le (h : 2 ^ 31 ≤ pid.toNat) :
    Int.bmod pid.toNat UInt32.size = -((2 ^ 32 - pid.toNat : Nat) : Int) := by
  have hlt : pid.toNat < 2 ^ 32 := pid.toNat_lt
  have hsize : (UInt32.size : Int) = 2 ^ 32 := rfl
  rw [Int.bmod_def, hsize, Int.emod_eq_of_lt (by omega) (by omega), if_neg (by omega)]
  omega

/-- **A number is alive exactly if its probe reaches something.** -/
theorem isAlive_iff (hids : ∀ id ∈ p.running, 0 < id ∧ id < 2 ^ 31) :
    p.isAlive pid = true ↔ p.Reaches pid := by
  have hlt : pid.toNat < 2 ^ 32 := pid.toNat_lt
  rcases Nat.eq_zero_or_pos pid.toNat with hzero | hpos
  · obtain rfl : pid = 0 := UInt32.toNat_inj.mp hzero
    exact iff_of_true (by simp [isAlive, answers]) (.ownGroup rfl)
  have hne : pid ≠ 0 := by
    rintro rfl
    exact absurd hpos (by decide)
  by_cases hhalf : pid.toNat < 2 ^ 31
  · rw [isAlive_of_isProcessId ⟨hpos, hhalf⟩, List.contains_iff_mem]
    refine ⟨.process, fun h => ?_⟩
    cases h with
    | process h => exact h
    | ownGroup h => exact absurd h hne
    | anyOther h => omega
    | group hlow => omega
  have hnone : pid.toNat ∉ p.running := fun h => hhalf (hids _ h).2
  rw [isAlive, bmod_of_le (by omega), answers, if_neg (by omega), if_neg (by omega)]
  by_cases hlast : pid.toNat = 2 ^ 32 - 1
  · rw [if_pos (by omega), List.any_eq_true]
    constructor
    · rintro ⟨id, hid, hother⟩
      obtain ⟨hfirst, hown⟩ := of_decide_eq_true hother
      exact .anyOther hlast id hid hfirst hown
    · intro h
      cases h with
      | process h => exact absurd h hnone
      | ownGroup h => exact absurd h hne
      | anyOther _ id hid hfirst hown => exact ⟨id, hid, decide_eq_true ⟨hfirst, hown⟩⟩
      | group _ hhigh => omega
  · rw [if_neg (by omega), Int.neg_neg, Int.toNat_natCast, List.contains_iff_mem]
    refine ⟨.group (by omega) (by omega), fun h => ?_⟩
    cases h with
    | process h => exact absurd h hnone
    | ownGroup h => exact absurd h hne
    | anyOther h => exact absurd h hlast
    | group _ _ h => exact h

/-- **What is reached is the process of that number** exactly if it is the number of a single process. -/
theorem Reaches.mem_running_iff (hids : ∀ id ∈ p.running, 0 < id ∧ id < 2 ^ 31) (h : p.Reaches pid) :
    pid.toNat ∈ p.running ↔ IsProcessId pid := by
  refine ⟨hids _, fun hpid => ?_⟩
  obtain ⟨hpos, hlt⟩ := hpid
  cases h with
  | process h => exact h
  | ownGroup h =>
    subst h
    exact absurd hpos (by decide)
  | anyOther h => omega
  | group hlow => omega

end Processes

/-! ## Claims -/

section Claims

variable {t : FileTree} {path : String} {pid named : UInt32} {p : Processes} {content : Bytes}

/-- **Bytes that stand in the way of a process**: another number whose probe reaches something. -/
def IsBlocked (p : Processes) (pid : UInt32) (content : Bytes) : Prop :=
  ∃ named, NamesNumber content named ∧ named ≠ pid ∧ p.Reaches named

/-- What the bytes of a pid file are read as. -/
theorem readPidFile_of_readBytes (h : t.readBytes path = .ok content) :
    (∃ named, NamesNumber content named ∧ readPidFile t path = .ok (some named)) ∨
      (∀ named, ¬NamesNumber content named) ∧
        ∃ e, readPidFile t path = .error e ∧ e.kind = .invalidData := by
  have htext : t.readText path = (decodeUtf8? content).elim (.error .notText) .ok := by
    simp only [FileTree.readText, h, bind, Except.bind]
    cases decodeUtf8? content <;> rfl
  rw [readPidFile, htext]
  cases hdecode : decodeUtf8? content with
  | none =>
    refine .inr ⟨?_, .notText, rfl, rfl⟩
    rintro named ⟨text, htext, -⟩
    cases hdecode.symm.trans htext
  | some text =>
    cases hread : readUInt32 (trim text) with
    | ok named => exact .inl ⟨named, ⟨text, hdecode, hread⟩, by simp [readPid, hread]; rfl⟩
    | error e =>
      refine .inr ⟨?_, ⟨.invalidData, .agent e.message⟩, by simp [readPid, hread]; rfl, rfl⟩
      rintro named ⟨text', htext', hread'⟩
      obtain rfl := Option.some.inj (hdecode.symm.trans htext')
      cases hread.symm.trans hread'

/-- **A number is put into a pid file** that is there. -/
theorem exists_run_writePidFile (ht : t.IsConnected) (h : t.readBytes path = .ok content)
    (pid : UInt32) :
    ∃ t', (writePidFile path pid).run.run t = (.ok (), t') := by
  obtain ⟨place, executable, hfind⟩ := FileTree.exists_find_of_readBytes h
  have hwrite : ∀ new, (writeFile path new).run.run t = (.ok (), t.put place (.file new executable)) :=
    fun _ => run_writeFile_of_find hfind
  rw [writePidFile]
  split
  · next parent hparent =>
    rw [FileAction.run_bind, run_makeDirectories_parent ht (FileTree.locate_of_find hfind).1 hparent]
    exact ⟨_, hwrite _⟩
  · exact ⟨_, hwrite _⟩

/-- **A claim fails** on bytes that stand in the way; it changes nothing. -/
theorem claimPidFile_of_isBlocked (hids : ∀ id ∈ p.running, 0 < id ∧ id < 2 ^ 31)
    (h : t.readBytes path = .ok content) (hb : IsBlocked p pid content) :
    ∃ named, NamesNumber content named ∧
      (claimPidFile p path pid).run.run t = (.error (ownedBy path named), t) := by
  obtain ⟨named, hnamed, hne, hreaches⟩ := hb
  refine ⟨named, hnamed, ?_⟩
  rcases readPidFile_of_readBytes h with ⟨other, hother, hread⟩ | ⟨hnone, -⟩
  · obtain rfl := hnamed.unique hother
    exact claimPidFile_of_names hread hne ((Processes.isAlive_iff hids).mpr hreaches)
  · exact absurd hnamed (hnone named)

/-- **A claim puts the number in** if the bytes do not stand in the way. -/
theorem claimPidFile_of_not_isBlocked (hids : ∀ id ∈ p.running, 0 < id ∧ id < 2 ^ 31)
    (ht : t.IsConnected) (h : t.readBytes path = .ok content) (hb : ¬IsBlocked p pid content) :
    ∃ t', (claimPidFile p path pid).run.run t = (.ok (), t') ∧ readPidFile t' path = .ok (some pid) := by
  have htake : MayTake p pid (readPidFile t path) := by
    rcases readPidFile_of_readBytes h with ⟨named, hnamed, hread⟩ | ⟨-, e, hread, he⟩
    · rw [hread]
      by_cases hown : named = pid
      · subst hown
        exact .own
      · refine .stale (Bool.eq_false_iff.mpr fun halive => hb ?_)
        exact ⟨named, hnamed, hown, (Processes.isAlive_iff hids).mp halive⟩
    · rw [hread]
      exact .garbled he
  obtain ⟨t', hwrite⟩ := exists_run_writePidFile ht h pid
  exact ⟨t', (claimPidFile_of_mayTake htake).trans hwrite, readPidFile_of_writePidFile hwrite⟩

end Claims

/-- **When a pid file blocks a start.**  The claim of a process fails because of the file, which it leaves
as it is, exactly if the bytes of the file are another number whose probe reaches something; whatever else
the file holds is replaced by the number of the process.  A number is alive exactly if its probe reaches
something.

That this means another running process is so exactly as long as the probe does not reach a group: the file
is never in the way of a start but for another running process if and only if it does not hold another
number that is not the number of a single process and whose probe reaches something all the same. -/
theorem pid_file_blocks_exactly (p : Processes) (path : String) (pid : UInt32) (t : FileTree)
    (content : Bytes) (hids : ∀ id ∈ p.running, 0 < id ∧ id < 2 ^ 31) (ht : t.IsConnected)
    (h : t.readBytes path = .ok content) :
    let claimed := (claimPidFile p path pid).run.run t
    let namesOther := ∃ named, NamesNumber content named ∧ named ≠ pid ∧ named.toNat ∈ p.running
    ((∃ refusal, refusal.kind = .alreadyExists ∧ claimed = (.error refusal, t)) ↔
      IsBlocked p pid content) ∧
    (¬IsBlocked p pid content →
      ∃ t', claimed = (.ok (), t') ∧ readPidFile t' path = .ok (some pid)) ∧
    (∀ named, p.isAlive named = true ↔ p.Reaches named) ∧
    (∀ named, (p.isAlive named = true → named.toNat ∈ p.running) ↔
      (p.Reaches named → IsProcessId named)) ∧
    ((IsBlocked p pid content ↔ namesOther) ↔
      ∀ named, NamesNumber content named → named ≠ pid → p.Reaches named → IsProcessId named) := by
  intro claimed namesOther
  refine ⟨⟨?_, ?_⟩, claimPidFile_of_not_isBlocked hids ht h, fun _ => Processes.isAlive_iff hids, ?_, ?_⟩
  · rintro ⟨refusal, -, hrefused⟩
    by_contra hb
    obtain ⟨t', htaken, -⟩ := claimPidFile_of_not_isBlocked hids ht h hb
    cases hrefused.symm.trans htaken
  · intro hb
    obtain ⟨named, -, hrefused⟩ := claimPidFile_of_isBlocked hids h hb
    exact ⟨ownedBy path named, rfl, hrefused⟩
  · intro named
    rw [Processes.isAlive_iff hids]
    exact forall_congr' fun hreaches => hreaches.mem_running_iff hids
  · constructor
    · -- The only number in the file is then the one of a running process.
      intro hiff named hnamed hne hreaches
      obtain ⟨other, hother, -, hruns⟩ := hiff.mp ⟨named, hnamed, hne, hreaches⟩
      obtain rfl := hnamed.unique hother
      exact hids _ hruns
    · intro hsingle
      constructor
      · rintro ⟨named, hnamed, hne, hreaches⟩
        exact ⟨named, hnamed, hne, (hreaches.mem_running_iff hids).mpr (hsingle named hnamed hne hreaches)⟩
      · rintro ⟨named, hnamed, hne, hruns⟩
        exact ⟨named, hnamed, hne, .process hruns⟩

namespace PidFile

/-- A file tree with a pid file in it. -/
def treeHolding (text : String) : FileTree where
  entries := [(["run"], .directory), (["run", "node.pid"], .file (encodeUtf8 text) false)]

/-- A few processes, the last of which asks. -/
def aFew : Processes where
  running := [1, 77, 4242]
  own := 4242

end PidFile

/-- A file that names a running process is in the way of another one. -/
theorem pid_file_blocks_rival :
    ∃ refusal : SystemError, refusal.kind = .alreadyExists ∧
      (claimPidFile PidFile.aFew "/run/node.pid" 4242).run.run (PidFile.treeHolding " 77\n") =
        (.error refusal, PidFile.treeHolding " 77\n") := by
  have hids : ∀ id ∈ PidFile.aFew.running, 0 < id ∧ id < 2 ^ 31 := by decide
  have ht : (PidFile.treeHolding " 77\n").IsConnected := by decide +kernel
  have hbytes : (PidFile.treeHolding " 77\n").readBytes "/run/node.pid" = .ok (encodeUtf8 " 77\n") := by
    decide +kernel
  have hnames : NamesNumber (encodeUtf8 " 77\n") 77 := ⟨" 77\n", by decide +kernel, by decide +kernel⟩
  refine (pid_file_blocks_exactly PidFile.aFew "/run/node.pid" 4242 _ _ hids ht hbytes).1.mpr ?_
  exact ⟨77, hnames, by decide, .process (by decide)⟩

/-- **A file with a zero blocks a start**, and so it would with any processes around: a zero is the group of
the process that asks.  No process has that number. -/
theorem zero_blocks_start :
    NamesNumber (encodeUtf8 "0") 0 ∧ PidFile.aFew.isAlive 0 = true ∧ 0 ∉ PidFile.aFew.running ∧
      (ownedBy "/run/node.pid" 0).kind = .alreadyExists ∧
      (claimPidFile PidFile.aFew "/run/node.pid" 4242).run.run (PidFile.treeHolding "0") =
        (.error (ownedBy "/run/node.pid" 0), PidFile.treeHolding "0") := by
  have halive : PidFile.aFew.isAlive 0 = true := by decide +kernel
  have hread : readPidFile (PidFile.treeHolding "0") "/run/node.pid" = .ok (some 0) := by decide +kernel
  refine ⟨⟨"0", ?_, ?_⟩, halive, ?_, rfl, claimPidFile_of_names hread ?_ halive⟩ <;> decide +kernel

end NodeAgent
