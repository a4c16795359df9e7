import NodeAgent.Proofs.CommandLine.Grammar
import NodeAgent.Proofs.Result
import NodeAgent.Proofs.Text.Split

/-!
# How a command line is read

Reading a command line comes down to the options that it is written with, one after the other.  A value
that is a word of its own is looked at late, so what is read so far may hold an option whose occurrence is
still to come; an option that waits for its value stands for the words that may follow.

## Main definitions

* `Reading.waiting`, `Reading.held`: the option that waits for its value, or that has it.
* `Reading.settled`: what is read so far while no value is held.

## Main results

* `Reading.read_eq`, `Reading.readAll_eq`: a command line sets what its options set.
* `Reading.exists_commandLine_of_readAll`: a command line that is read is written in the grammar.
* `parseArguments_eq_ok_iff`: which command lines are read, and what they set.
-/

namespace NodeAgent

open Text

namespace Reading

/-! ## What is held, and what waits -/

variable {r next : Reading} {cs : List Char} {word : String} {occurrences : List Occurrence}
  {w : Option CommandOption} {o : CommandOption}

/-- The option that waits for its value. -/
def waiting (r : Reading) : Option CommandOption :=
  match r.pending with
  | .awaiting o => some o
  | _ => none

/-- The option that has its value, which is not looked at yet. -/
def held (r : Reading) : List Occurrence :=
  match r.pending with
  | .holding o value => [⟨o, some value⟩]
  | _ => []

/-- What is read so far while no value is held. -/
def settled (w : Option CommandOption) (a : Arguments) : Reading :=
  ⟨a, w.elim .none .awaiting⟩

@[simp]
theorem waiting_settled (a : Arguments) : (settled w a).waiting = w := by
  cases w <;> rfl

@[simp]
theorem held_settled (a : Arguments) : (settled w a).held = [] := by
  cases w <;> rfl

theorem eq_settled (h : r.waiting = some o) : r = settled (some o) r.arguments := by
  obtain ⟨a, _ | o | ⟨o, value⟩⟩ := r
  · cases h
  · obtain rfl := Option.some.inj h
    rfl
  · cases h

theorem takesAnything_of_waiting (h : r.waiting = none) : r.takesAnything = false := by
  obtain ⟨a, _ | o | ⟨o, value⟩⟩ := r
  · rfl
  · cases h
  · rfl

theorem resolve_eq (h : r.waiting = none) : r.resolve = occurAll r.held r.arguments := by
  obtain ⟨a, _ | o | ⟨o, value⟩⟩ := r
  · rfl
  · cases h
  · exact (occurAll_singleton o (some value) a).symm

/-- An option with its value, or without one if it takes none, occurs. -/
theorem occur_eq (h : r.waiting = none) {value : Option String}
    (ho : o.takesValue = value.isSome) :
    r.occur o value = (occurAll (r.held ++ [⟨o, value⟩]) r.arguments).map (settled none) := by
  have hgiven : (o.takesValue && value.isNone) = false := by
    rw [ho]
    cases value <;> rfl
  rw [occur, resolve_eq h, occurAll_append, hgiven]
  cases occurAll r.held r.arguments with
  | error stop => rfl
  | ok a =>
    change (o.occur value a >>= _) = (occurAll [⟨o, value⟩] a).map _
    rw [occurAll_singleton]
    cases o.occur value a <;> rfl

/-- An option without its value waits for it. -/
theorem occur_none_eq (h : r.waiting = none) (ho : o.takesValue = true) :
    r.occur o none = (occurAll r.held r.arguments).map (settled (some o)) := by
  rw [occur, resolve_eq h, ho]
  cases occurAll r.held r.arguments <;> rfl

/-! ## What is written is read -/

theorem readShort_eq (h : r.waiting = none) (hcs : ShortOptions cs occurrences w) :
    r.readShort cs = (occurAll (r.held ++ occurrences) r.arguments).map (settled w) := by
  induction hcs generalizing r with
  | last ho hc htakes =>
    rw [readShort, find_short _ ho hc]
    dsimp only
    rw [htakes, if_neg Bool.false_ne_true, occur_eq h htakes]
    cases occurAll (r.held ++ [⟨_, none⟩]) r.arguments <;> rfl
  | @cons o c cs occurrences waiting ho hc htakes hcs ih =>
    rw [readShort, find_short _ ho hc]
    dsimp only
    rw [htakes, if_neg Bool.false_ne_true, occur_eq h htakes,
      List.append_cons r.held _ occurrences, occurAll_append _ occurrences]
    cases occurAll (r.held ++ [⟨o, none⟩]) r.arguments with
    | error stop => rfl
    | ok a => exact ih (waiting_settled a)
  | waiting ho hc htakes =>
    rw [readShort, find_short _ ho hc]
    dsimp only
    rw [htakes, if_pos rfl, List.append_nil]
    exact occur_none_eq h htakes
  | signed text ho hc htakes =>
    rw [readShort, find_short _ ho hc]
    dsimp only
    rw [htakes, if_pos rfl]
    exact occur_eq h htakes
  | attached text ho hc htakes hd =>
    rw [readShort, find_short _ ho hc]
    dsimp only
    rw [htakes, if_pos rfl]
    split
    · next heq => cases heq
    · next heq => exact absurd (List.cons.inj heq).1 hd
    · exact occur_eq h htakes

/-- A long option occurs, unless it has a value that it does not take. -/
theorem readLong_eq (ho : o ∈ commandOptions) {value : Option String}
    (hvalue : o.takesValue = true ∨ value = none) : r.readLong o.long value = r.occur o value := by
  rw [readLong, find_long o ho]
  dsimp only
  split
  · next htakes =>
    rcases hvalue with h | h
    · rw [htakes] at h
      cases h
    · cases h
  · rfl

theorem splitAtFirst_long (ho : o ∈ commandOptions) :
    splitAtFirst (· == '=') o.long.toList = none ∧
      ∀ text, splitAtFirst (· == '=') (o.long.toList ++ '=' :: text) = some (o.long.toList, text) := by
  have hname : ∀ c ∈ o.long.toList, (c == '=') = false := by
    intro c hc
    exact beq_eq_false_iff_ne.mpr fun heq => (long_isName o ho).2 (heq ▸ hc)
  exact ⟨splitAtFirst_of_not hname, fun text => splitAtFirst_append hname rfl⟩

theorem read_long (h : r.waiting = none) (ho : o ∈ commandOptions) :
    r.read ("--" ++ o.long) = r.readLong o.long none := by
  have hword : ("--" ++ o.long).toList = '-' :: '-' :: o.long.toList := by simp
  rw [read, takesAnything_of_waiting h, if_neg Bool.false_ne_true, hword]
  split
  · next body hbody =>
    obtain rfl := (List.cons.inj (List.cons.inj hbody).2).2
    rw [(splitAtFirst_long ho).1, String.ofList_toList]
  · next hno heq => exact (hno (List.cons.inj (List.cons.inj heq).2).1.symm).elim
  · next hno _ => exact (hno _ rfl).elim

theorem read_signed (h : r.waiting = none) (ho : o ∈ commandOptions) (text : String) :
    r.read ("--" ++ o.long ++ "=" ++ text) = r.readLong o.long (some text) := by
  have hword : ("--" ++ o.long ++ "=" ++ text).toList =
      '-' :: '-' :: (o.long.toList ++ '=' :: text.toList) := by simp
  rw [read, takesAnything_of_waiting h, if_neg Bool.false_ne_true, hword]
  split
  · next body hbody =>
    obtain rfl := (List.cons.inj (List.cons.inj hbody).2).2
    rw [(splitAtFirst_long ho).2]
    dsimp only
    rw [String.ofList_toList, String.ofList_toList]
  · next hno heq => exact (hno (List.cons.inj (List.cons.inj heq).2).1.symm).elim
  · next hno _ => exact (hno _ rfl).elim

/-- **A word of options is read** as what occurs in it. -/
theorem read_eq (h : r.waiting = none) (hword : OptionWord word occurrences w) :
    r.read word = (occurAll (r.held ++ occurrences) r.arguments).map (settled w) := by
  cases hword with
  | switch ho htakes =>
    rw [read_long h ho, readLong_eq ho (.inr rfl)]
    exact occur_eq h htakes
  | waiting ho htakes =>
    rw [read_long h ho, readLong_eq ho (.inr rfl), List.append_nil]
    exact occur_none_eq h htakes
  | signed text ho htakes =>
    rw [read_signed h ho, readLong_eq ho (.inl htakes)]
    exact occur_eq h htakes
  | short hcs =>
    obtain ⟨c, rest, rfl, hc⟩ := hcs.exists_cons
    rw [read, takesAnything_of_waiting h, if_neg Bool.false_ne_true, String.toList_ofList]
    split
    · next heq => exact absurd (List.cons.inj (List.cons.inj heq).2).1 hc
    · next heq =>
      obtain ⟨rfl, rfl⟩ := List.cons.inj (List.cons.inj heq).2
      exact readShort_eq h hcs
    · next hno => exact absurd rfl (hno c rest)

/-- The option that waits takes the word. -/
theorem read_value {a : Arguments} (hword : o.TakesWord word) :
    (settled (some o) a).read word = .ok ⟨a, .holding o word⟩ := by
  rw [read]
  split
  · rfl
  · next hany =>
    rcases hword with hword | rfl | hword
    · exact absurd hword hany
    · rfl
    · split
      · next heq => exact absurd (by rw [heq]; rfl) hword
      · next heq => exact absurd (by rw [heq]; rfl) hword
      · rfl

/-- What a command line sets with what follows the two hyphens. -/
def withCommand (command : Option (List String)) (a : Arguments) : Arguments :=
  { a with transportCommand := command.getD a.transportCommand }

/-- **A command line sets what its options set.** -/
theorem readAll_eq {words : List String} {command : Option (List String)}
    (h : CommandLine r.waiting words occurrences command) :
    r.readAll words = (occurAll (r.held ++ occurrences) r.arguments).map (withCommand command) := by
  generalize hw : r.waiting = w at h
  induction h generalizing r with
  | nil =>
    rw [readAll, resolve_eq hw, List.append_nil]
    cases occurAll r.held r.arguments <;> rfl
  | command words =>
    rw [readAll, takesAnything_of_waiting hw, if_pos ⟨rfl, rfl⟩, resolve_eq hw, List.append_nil]
    cases occurAll r.held r.arguments <;> rfl
  | @option w word words occurrences further command hword hwords ih =>
    rw [readAll, if_neg fun h => hword.ne_hyphens h.1, read_eq hw hword, ← List.append_assoc,
      occurAll_append _ further]
    cases occurAll (r.held ++ occurrences) r.arguments with
    | error stop => rfl
    | ok a =>
      change (settled w a).readAll words = _
      rw [ih (waiting_settled a), held_settled]
      rfl
  | @value o word words occurrences command hword hwords ih =>
    have htakes : ¬ (word = "--" ∧ !r.takesAnything) := by
      rintro ⟨rfl, hany⟩
      rw [eq_settled hw] at hany
      rcases hword with hword | hword | hword
      · simp [takesAnything, settled, hword] at hany
      · exact absurd hword (by decide)
      · exact hword rfl
    rw [readAll, if_neg htakes, eq_settled hw, read_value hword]
    exact ih (r := ⟨r.arguments, .holding o word⟩) rfl

/-! ## What is read is written -/

section Written

variable (hr : ∀ o, r.waiting = some o → o.takesValue = true)
include hr

/-- When the next option comes, none waits for its value. -/
theorem waiting_of_resolve {a : Arguments} (h : r.resolve = .ok a) : r.waiting = none := by
  obtain ⟨a', _ | o | ⟨o, value⟩⟩ := r
  · rfl
  · have hmissing := CommandOption.occur_none (hr o rfl) a'
    cases hmissing.symm.trans h
  · rfl

theorem waiting_of_occur {value : Option String} (h : r.occur o value = .ok next) : r.waiting = none := by
  obtain ⟨a, hresolve, -⟩ := bind_eq_ok.mp h
  exact waiting_of_resolve hr hresolve

theorem waiting_of_readLong {name : String} {value : Option String}
    (h : r.readLong name value = .ok next) : r.waiting = none := by
  unfold readLong at h
  split at h
  · cases h
  · split at h
    · cases h
    · exact waiting_of_occur hr h

theorem waiting_of_readShort {c : Char} (h : r.readShort (c :: cs) = .ok next) :
    r.waiting = none := by
  unfold readShort at h
  split at h
  · cases h
  · split at h
    · split at h <;> exact waiting_of_occur hr h
    · obtain ⟨r', hoccur, -⟩ := bind_eq_ok.mp h
      exact waiting_of_occur hr hoccur

omit hr in
/-- Short options that are read are written in the grammar. -/
theorem exists_shortOptions_of_readShort {c : Char} (h : r.readShort (c :: cs) = .ok next) :
    ∃ occurrences w, ShortOptions (c :: cs) occurrences w := by
  induction cs generalizing r c with
  | nil =>
    unfold readShort at h
    split at h
    · cases h
    · next o hfind =>
      have ho := List.mem_of_find?_eq_some hfind
      have hc : o.short = some c := by simpa using List.find?_some hfind
      cases htakes : o.takesValue with
      | false => exact ⟨_, _, .last ho hc htakes⟩
      | true => exact ⟨_, _, .waiting ho hc htakes⟩
  | cons d rest ih =>
    unfold readShort at h
    split at h
    · cases h
    · next o hfind =>
      have ho := List.mem_of_find?_eq_some hfind
      have hc : o.short = some c := by simpa using List.find?_some hfind
      cases htakes : o.takesValue with
      | false =>
        rw [htakes, if_neg Bool.false_ne_true] at h
        obtain ⟨r', -, h⟩ := bind_eq_ok.mp h
        obtain ⟨occurrences, w, hrest⟩ := ih h
        exact ⟨_, _, .cons ho hc htakes hrest⟩
      | true =>
        by_cases hd : d = '='
        · subst hd
          exact ⟨_, _, .signed rest ho hc htakes⟩
        · exact ⟨_, _, .attached rest ho hc htakes hd⟩

omit hr in
theorem exists_optionWord_of_readLong {name : String} {value : Option String}
    (h : r.readLong name value = .ok next) : ∃ occurrences w,
      OptionWord ("--" ++ name ++ value.elim "" ("=" ++ ·)) occurrences w := by
  unfold readLong at h
  split at h
  · cases h
  · next o hfind =>
    have ho := List.mem_of_find?_eq_some hfind
    obtain rfl : o.long = name := by simpa using List.find?_some hfind
    cases value with
    | none =>
      rw [Option.elim_none, String.append_empty]
      cases htakes : o.takesValue with
      | false => exact ⟨_, _, .switch ho htakes⟩
      | true => exact ⟨_, _, .waiting ho htakes⟩
    | some text =>
      cases htakes : o.takesValue with
      | false =>
        rw [htakes] at h
        cases h
      | true =>
        rw [Option.elim_some, ← String.append_assoc]
        exact ⟨_, _, .signed text ho htakes⟩

/-- **A word that is read** is a word of options, or the value that an option waits for. -/
theorem written_of_read (h : r.read word = .ok next) :
    (r.waiting = none ∧ ∃ occurrences w, OptionWord word occurrences w) ∨
      ∃ o, r.waiting = some o ∧ o.TakesWord word := by
  have hvalue : r.readWord word = .ok next → ∃ o, r.pending = .awaiting o := by
    intro h
    unfold readWord at h
    split at h
    · next o heq => exact ⟨o, heq⟩
    · cases h
  unfold read at h
  split at h
  · next hany =>
    obtain ⟨o, ho⟩ := hvalue h
    refine .inr ⟨o, by rw [waiting, ho], .inl ?_⟩
    rwa [takesAnything, ho] at hany
  · split at h
    · next body hbody =>
      left
      split at h
      · next name text hcut =>
        obtain ⟨c, hcut, hc, -⟩ := splitAtFirst_eq_some_iff.mp hcut
        obtain rfl := beq_iff_eq.mp hc
        have hword : word = "--" ++ String.ofList name ++ ("=" ++ String.ofList text) := by
          rw [← String.toList_inj, hbody, hcut]
          simp
        rw [hword]
        exact ⟨waiting_of_readLong hr h, exists_optionWord_of_readLong h⟩
      · have hword : word = "--" ++ String.ofList body ++ "" := by
          rw [← String.toList_inj, hbody]
          simp
        rw [hword]
        exact ⟨waiting_of_readLong hr h, exists_optionWord_of_readLong h⟩
    · next c rest _ hrest =>
      obtain ⟨occurrences, w, hcs⟩ := exists_shortOptions_of_readShort h
      have hword : word = String.ofList ('-' :: c :: rest) := by
        rw [← hrest, String.ofList_toList]
      rw [hword]
      exact .inl ⟨waiting_of_readShort hr h, occurrences, w, .short hcs⟩
    · next hlong hshort =>
      obtain ⟨o, ho⟩ := hvalue h
      refine .inr ⟨o, by rw [waiting, ho], .inr ?_⟩
      rcases hlist : word.toList with _ | ⟨c, _ | ⟨d, rest⟩⟩
      · exact .inr nofun
      · by_cases hc : c = '-'
        · left
          rw [← String.toList_inj, hlist, hc]
          rfl
        · exact .inr fun heq => hc (Option.some.inj heq)
      · refine .inr fun heq => ?_
        obtain rfl := Option.some.inj heq
        exact hshort d rest hlist

/-- **A command line that is read is written in the grammar.** -/
theorem exists_commandLine_of_readAll {words : List String} {a : Arguments}
    (h : r.readAll words = .ok a) :
    ∃ occurrences command, CommandLine r.waiting words occurrences command := by
  induction words generalizing r with
  | nil =>
    rw [waiting_of_resolve hr h]
    exact ⟨_, _, .nil⟩
  | cons word words ih =>
    unfold readAll at h
    split at h
    · next hhyphens =>
      obtain ⟨a', hresolve, -⟩ := bind_eq_ok.mp h
      obtain ⟨rfl, -⟩ := hhyphens
      rw [waiting_of_resolve hr hresolve]
      exact ⟨_, _, .command words⟩
    · obtain ⟨next, hread, h⟩ := bind_eq_ok.mp h
      rcases written_of_read hr hread with ⟨hwaiting, occurrences, w, hword⟩ | ⟨o, hwaiting, hword⟩
      · rw [read_eq hwaiting hword] at hread
        obtain ⟨a', -, rfl⟩ := map_eq_ok.mp hread
        have hnext : ∀ o, (settled w a').waiting = some o → o.takesValue = true := by
          intro o ho
          rw [waiting_settled] at ho
          exact (hword.mem.2 o ho).2
        obtain ⟨further, command, hwords⟩ := ih hnext h
        rw [waiting_settled] at hwords
        rw [hwaiting]
        exact ⟨_, _, .option hword hwords⟩
      · rw [eq_settled hwaiting, read_value hword] at hread
        obtain rfl := Except.ok.inj hread
        obtain ⟨occurrences, command, hwords⟩ := ih (r := ⟨r.arguments, .holding o word⟩) nofun h
        rw [hwaiting]
        exact ⟨_, _, .value hword hwords⟩

end Written

end Reading

/-- **Which command lines are read**, and what they set: what their options set one after the other. -/
theorem parseArguments_eq_ok_iff {password : Option String} {words : List String} {a : Arguments} :
    parseArguments password words = .ok a ↔ ∃ occurrences command changed,
      CommandLine none words occurrences command ∧ occurAll occurrences {} = .ok changed ∧
        a = { changed with
          transportCommand := command.getD changed.transportCommand
          password := changed.password <|> password } := by
  rw [parseArguments, bind_eq_ok]
  constructor
  · rintro ⟨a', hread, h⟩
    obtain rfl := Except.ok.inj h
    obtain ⟨occurrences, command, hwords⟩ := Reading.exists_commandLine_of_readAll (r := {}) nofun hread
    rw [Reading.readAll_eq (r := {}) hwords] at hread
    obtain ⟨changed, hoccur, rfl⟩ := map_eq_ok.mp hread
    exact ⟨occurrences, command, changed, hwords, hoccur, rfl⟩
  · rintro ⟨occurrences, command, changed, hwords, hoccur, rfl⟩
    refine ⟨Reading.withCommand command changed, ?_, rfl⟩
    rw [Reading.readAll_eq (r := {}) hwords]
    exact map_eq_ok.mpr ⟨changed, hoccur, rfl⟩

end NodeAgent
