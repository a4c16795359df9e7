import NodeAgent.CommandLine.Parser

/-!
# How a command line is written

The words of a command line are options, values of the options before them, and behind two hyphens the
transport command.  The grammar says which options with which values a command line is written with,
without a word about how it is read.

## Main definitions

* `Occurrence`, `occurAll`: options with their values, and what they set.
* `ShortOptions`, `OptionWord`, `CommandLine`: how options are written.

## Main results

* `find_long`, `find_short`: each option is found by its names.
* `CommandLine.mem`: what is written are options of the program.
-/

namespace NodeAgent

/-! ## Occurrences -/

/-- **An option that occurs**, with its value if it has one. -/
structure Occurrence where
  option : CommandOption
  value : Option String

/-- **Options occur** one after the other. -/
def occurAll (occurrences : List Occurrence) (a : Arguments) : Except Stop Arguments :=
  occurrences.foldlM (fun a occurrence => occurrence.option.occur occurrence.value a) a

theorem occurAll_cons (occurrence : Occurrence) (occurrences : List Occurrence) (a : Arguments) :
    occurAll (occurrence :: occurrences) a =
      occurrence.option.occur occurrence.value a >>= occurAll occurrences :=
  rfl

theorem occurAll_singleton (o : CommandOption) (value : Option String) (a : Arguments) :
    occurAll [⟨o, value⟩] a = o.occur value a := by
  rw [occurAll_cons]
  cases o.occur value a <;> rfl

theorem occurAll_append (occurrences further : List Occurrence) (a : Arguments) :
    occurAll (occurrences ++ further) a = occurAll occurrences a >>= occurAll further :=
  List.foldlM_append

/-! ## The grammar -/

/-- **Short options** behind one hyphen.  The last one may take the rest of the word for its value, or
wait for one. -/
inductive ShortOptions : List Char → List Occurrence → Option CommandOption → Prop
  | last {o : CommandOption} {c : Char} (ho : o ∈ commandOptions) (hc : o.short = some c)
      (htakes : o.takesValue = false) : ShortOptions [c] [⟨o, none⟩] none
  | cons {o : CommandOption} {c : Char} {cs : List Char} {occurrences : List Occurrence}
      {waiting : Option CommandOption} (ho : o ∈ commandOptions) (hc : o.short = some c)
      (htakes : o.takesValue = false) (hcs : ShortOptions cs occurrences waiting) :
      ShortOptions (c :: cs) (⟨o, none⟩ :: occurrences) waiting
  | waiting {o : CommandOption} {c : Char} (ho : o ∈ commandOptions) (hc : o.short = some c)
      (htakes : o.takesValue = true) : ShortOptions [c] [] (some o)
  | signed {o : CommandOption} {c : Char} (text : List Char) (ho : o ∈ commandOptions)
      (hc : o.short = some c) (htakes : o.takesValue = true) :
      ShortOptions (c :: '=' :: text) [⟨o, some (String.ofList text)⟩] none
  | attached {o : CommandOption} {c d : Char} (text : List Char) (ho : o ∈ commandOptions)
      (hc : o.short = some c) (htakes : o.takesValue = true) (hd : d ≠ '=') :
      ShortOptions (c :: d :: text) [⟨o, some (String.ofList (d :: text))⟩] none

/-- **A word of options**, with the options that occur in it and the one that waits for its value. -/
inductive OptionWord : String → List Occurrence → Option CommandOption → Prop
  | switch {o : CommandOption} (ho : o ∈ commandOptions) (htakes : o.takesValue = false) :
      OptionWord ("--" ++ o.long) [⟨o, none⟩] none
  | waiting {o : CommandOption} (ho : o ∈ commandOptions) (htakes : o.takesValue = true) :
      OptionWord ("--" ++ o.long) [] (some o)
  | signed {o : CommandOption} (text : String) (ho : o ∈ commandOptions)
      (htakes : o.takesValue = true) :
      OptionWord ("--" ++ o.long ++ "=" ++ text) [⟨o, some text⟩] none
  | short {cs : List Char} {occurrences : List Occurrence} {waiting : Option CommandOption}
      (hcs : ShortOptions cs occurrences waiting) :
      OptionWord (String.ofList ('-' :: cs)) occurrences waiting

/-- **An option takes a word** for its value.  Most options take no word that begins with a hyphen, unless
there is nothing else in it. -/
def CommandOption.TakesWord (o : CommandOption) (word : String) : Prop :=
  o.takesAnything = true ∨ word = "-" ∨ word.toList.head? ≠ some '-'

/-- **How a command line is written**: the option that waits for its value in front of it, its words, the
options that occur, and the transport command. -/
inductive CommandLine :
    Option CommandOption → List String → List Occurrence → Option (List String) → Prop
  | nil : CommandLine none [] [] none
  | command (words : List String) : CommandLine none ("--" :: words) [] (some words)
  | option {waiting : Option CommandOption} {word : String} {words : List String}
      {occurrences further : List Occurrence} {command : Option (List String)}
      (hword : OptionWord word occurrences waiting)
      (hwords : CommandLine waiting words further command) :
      CommandLine none (word :: words) (occurrences ++ further) command
  | value {o : CommandOption} {word : String} {words : List String} {occurrences : List Occurrence}
      {command : Option (List String)} (hword : o.TakesWord word)
      (hwords : CommandLine none words occurrences command) :
      CommandLine (some o) (word :: words) (⟨o, some word⟩ :: occurrences) command

/-! ## Names of options -/

/-- Each option is found by its long name. -/
theorem find_long : ∀ o ∈ commandOptions, commandOptions.find? (·.long == o.long) = some o := by
  unfold commandOptions
  simp only [List.forall_mem_cons]
  repeat' apply And.intro
  all_goals first
    | rfl
    | exact nofun

/-- Each option with a short name is found by it. -/
theorem find_short {c : Char} :
    ∀ o ∈ commandOptions, o.short = some c → commandOptions.find? (·.short == some c) = some o := by
  unfold commandOptions
  simp only [List.forall_mem_cons]
  repeat' apply And.intro
  all_goals first
    | (rintro ⟨⟩; rfl)
    | exact nofun

/-- There is no equals sign in a long name, which has a character at least. -/
theorem long_isName : ∀ o ∈ commandOptions, o.long ≠ "" ∧ '=' ∉ o.long.toList := by
  unfold commandOptions
  simp only [List.forall_mem_cons]
  repeat' apply And.intro
  all_goals decide

theorem short_ne_hyphen : ∀ o ∈ commandOptions, o.short ≠ some '-' := by
  unfold commandOptions
  simp only [List.forall_mem_cons]
  decide

/-- An option that takes a value cannot do without. -/
theorem CommandOption.occur_none {o : CommandOption} (htakes : o.takesValue = true) (a : Arguments) :
    o.occur none a = .error (.usage (.missingValue o.shown)) := by
  unfold CommandOption.takesValue at htakes
  unfold CommandOption.occur
  cases heffect : o.effect with
  | take => rfl
  | turnOn | showHelp | showVersion =>
    rw [heffect] at htakes
    cases htakes

/-! ## Grammatical words -/

section Words

variable {cs : List Char} {word : String} {words : List String} {occurrences : List Occurrence}
  {waiting : Option CommandOption} {command : Option (List String)} {o : CommandOption}

theorem ShortOptions.mem (h : ShortOptions cs occurrences waiting) :
    (∀ occurrence ∈ occurrences, occurrence.option ∈ commandOptions) ∧
      ∀ o, waiting = some o → o ∈ commandOptions ∧ o.takesValue = true := by
  induction h with
  | last ho | signed _ ho | attached _ ho => exact ⟨List.forall_mem_singleton.mpr ho, nofun⟩
  | cons ho _ _ _ ih => exact ⟨List.forall_mem_cons.mpr ⟨ho, ih.1⟩, ih.2⟩
  | waiting ho _ htakes =>
    refine ⟨nofun, ?_⟩
    rintro o ⟨⟩
    exact ⟨ho, htakes⟩

/-- The options of a word are options of the program. -/
theorem OptionWord.mem (h : OptionWord word occurrences waiting) :
    (∀ occurrence ∈ occurrences, occurrence.option ∈ commandOptions) ∧
      ∀ o, waiting = some o → o ∈ commandOptions ∧ o.takesValue = true := by
  cases h with
  | switch ho | signed _ ho => exact ⟨List.forall_mem_singleton.mpr ho, nofun⟩
  | waiting ho htakes =>
    refine ⟨nofun, ?_⟩
    rintro o ⟨⟩
    exact ⟨ho, htakes⟩
  | short hcs => exact hcs.mem

/-- The options of a command line are options of the program. -/
theorem CommandLine.mem (h : CommandLine waiting words occurrences command)
    (hwaiting : ∀ o, waiting = some o → o ∈ commandOptions) :
    ∀ occurrence ∈ occurrences, occurrence.option ∈ commandOptions := by
  induction h with
  | nil | command => exact nofun
  | option hword _ ih =>
    obtain ⟨hoccurrences, hnext⟩ := hword.mem
    exact List.forall_mem_append.mpr ⟨hoccurrences, ih fun o ho => (hnext o ho).1⟩
  | value _ _ ih => exact List.forall_mem_cons.mpr ⟨hwaiting _ rfl, ih nofun⟩

/-- Short options begin with a character that is no hyphen. -/
theorem ShortOptions.exists_cons (h : ShortOptions cs occurrences waiting) :
    ∃ c rest, cs = c :: rest ∧ c ≠ '-' := by
  have hname : ∀ {o : CommandOption} {c}, o ∈ commandOptions → o.short = some c → c ≠ '-' := by
    rintro o c ho hc rfl
    exact short_ne_hyphen o ho hc
  cases h with
  | last ho hc | cons ho hc | waiting ho hc | signed _ ho hc | attached _ ho hc =>
    exact ⟨_, _, rfl, hname ho hc⟩

/-- Two hyphens alone are no option. -/
theorem OptionWord.ne_hyphens (h : OptionWord word occurrences waiting) : word ≠ "--" := by
  rw [Ne, ← String.toList_inj]
  cases h with
  | switch ho | waiting ho =>
    simpa using (long_isName _ ho).1
  | signed text ho => simp
  | short hcs =>
    obtain ⟨c, rest, rfl, hc⟩ := hcs.exists_cons
    simp [hc]

end Words

end NodeAgent
