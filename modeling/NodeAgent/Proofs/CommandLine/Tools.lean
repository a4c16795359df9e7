import NodeAgent.Proofs.CommandLine.Reading

/-!
# The tools of a command line

What an option sets is a matter of its occurrences alone.  One option sets tools, each from a text that is
cut at its first equals sign, and the others do not touch them.

## Main definitions

* `Arguments.ToolsFrom`: the tools that a command line sets, with the texts that they come from.
* `toolTexts`: the texts that are given for tools.

## Main results

* `readToolLocation_eq_ok_iff`: the text that a tool comes from.
* `toolsFrom_of_parseArguments`: the tools of a command line come from its texts for tools.
* `parseArguments_tools`: whatever texts are tools can be given for tools.
-/

namespace NodeAgent

open Text

/-- **The tools that a command line sets** come from texts that were given for them, in their order. -/
def Arguments.ToolsFrom (a : Arguments) (texts : List String) : Prop :=
  texts.mapM readToolLocation = .ok a.toolLocations

/-- **The texts that are given for tools.** -/
def toolTexts (occurrences : List Occurrence) : List String :=
  (occurrences.filter (·.option.long = "tool-location")).filterMap (·.value)

theorem toolTexts_append (occurrences further : List Occurrence) :
    toolTexts (occurrences ++ further) = toolTexts occurrences ++ toolTexts further := by
  rw [toolTexts, List.filter_append, List.filterMap_append]
  rfl

/-- **The texts that a tool comes from**: its name, which holds no equals sign, such a sign and its
path. -/
theorem readToolLocation_eq_ok_iff {text name path : String} :
    readToolLocation text = .ok (name, path) ↔
      text = name ++ "=" ++ path ∧ name ≠ "" ∧ '=' ∉ name.toList ∧ path ≠ "" := by
  have hcut : splitAtFirst (· == '=') text.toList = some (name.toList, path.toList) ↔
      text = name ++ "=" ++ path ∧ '=' ∉ name.toList := by
    rw [splitAtFirst_eq_some_iff]
    constructor
    · rintro ⟨c, htext, hc, hname⟩
      obtain rfl := beq_iff_eq.mp hc
      refine ⟨String.toList_inj.mp ?_, fun hm => ?_⟩
      · simp [htext]
      · simpa using hname _ hm
    · rintro ⟨rfl, hname⟩
      refine ⟨'=', by simp, rfl, ?_⟩
      intro c hc
      exact beq_eq_false_iff_ne.mpr fun heq => hname (heq ▸ hc)
  unfold readToolLocation
  constructor
  · intro h
    split at h
    · next c front d back heq =>
      obtain ⟨rfl, rfl⟩ := Prod.mk.inj (Except.ok.inj h)
      obtain ⟨htext, hname⟩ := hcut.mp (by simpa using heq)
      exact ⟨htext, by simp [← String.toList_inj], hname, by simp [← String.toList_inj]⟩
    · cases h
  · rintro ⟨htext, hname, hequals, hpath⟩
    rw [hcut.mpr ⟨htext, hequals⟩]
    obtain ⟨c, front, hfront⟩ := List.exists_cons_of_ne_nil (mt String.toList_eq_nil_iff.mp hname)
    obtain ⟨d, back, hback⟩ := List.exists_cons_of_ne_nil (mt String.toList_eq_nil_iff.mp hpath)
    rw [hfront, hback]
    dsimp only
    rw [← hfront, ← hback, String.ofList_toList, String.ofList_toList]

/-- A further text sets a further tool. -/
theorem Arguments.ToolsFrom.add {a : Arguments} {texts : List String} (h : a.ToolsFrom texts)
    {text : String} {tool : String × String} (ht : readToolLocation text = .ok tool) :
    { a with toolLocations := a.toolLocations ++ [tool] }.ToolsFrom (texts ++ [text]) :=
  mapM_eq_ok.mpr (List.rel_append (mapM_eq_ok.mp h) (.cons ht .nil))

/-- **An option keeps the tools** when it occurs. -/
def OptionEffect.KeepsTools : OptionEffect → Prop
  | .turnOn _ set => ∀ a, (set a).toolLocations = a.toolLocations
  | .take _ _ set => ∀ text a changed, set text a = .ok changed →
      changed.toolLocations = a.toolLocations
  | .showHelp | .showVersion => True

section Tools

variable {a changed : Arguments} {o : CommandOption} {value : Option String} {texts : List String}
  {tools : List (String × String)} {occurrences : List Occurrence} {α : Type} {valueName : String}
  {read : String → Except ValueFault α}

theorem keepsTools_take {isSet : Arguments → Bool} {set : α → Arguments → Arguments}
    (h : ∀ x a, (set x a).toolLocations = a.toolLocations) :
    (OptionEffect.take valueName isSet fun text a => (read text).map (set · a)).KeepsTools := by
  intro text a changed hset
  obtain ⟨x, -, rfl⟩ := map_eq_ok.mp hset
  exact h x a

/-- One option is the one for tools. -/
theorem effect_of_eq : ∀ o ∈ commandOptions, o.long = "tool-location" →
    o.effect = takeEach "TOOL_LOCATIONS" (formed readToolLocation) fun tool a =>
      { a with toolLocations := a.toolLocations ++ [tool] } := by
  unfold commandOptions
  repeat' refine List.forall_mem_cons.mpr ⟨?_, ?_⟩
  all_goals first
    | exact fun _ => rfl
    | exact fun h => absurd h (by decide)
    | exact nofun

/-- The other options do not touch the tools. -/
theorem keepsTools_of_ne : ∀ o ∈ commandOptions, o.long ≠ "tool-location" → o.effect.KeepsTools := by
  unfold commandOptions
  repeat' refine List.forall_mem_cons.mpr ⟨?_, ?_⟩
  all_goals first
    | exact fun h => absurd rfl h
    | exact fun _ => keepsTools_take fun _ _ => rfl
    | exact fun _ _ => rfl
    | exact fun _ => trivial
    | exact nofun

theorem takesValue_of_eq (ho : o ∈ commandOptions) (hlong : o.long = "tool-location") :
    o.takesValue = true := by
  rw [CommandOption.takesValue, effect_of_eq o ho hlong]
  rfl

theorem toolLocations_of_occur (hkeeps : o.effect.KeepsTools) (h : o.occur value a = .ok changed) :
    changed.toolLocations = a.toolLocations := by
  unfold CommandOption.occur at h
  split at h
  · cases h
  · cases h
  · next isOn set heffect =>
    rw [heffect] at hkeeps
    split at h
    · cases h
    · obtain rfl := Except.ok.inj h
      exact hkeeps a
  · cases h
  · next isSet set text heffect =>
    rw [heffect] at hkeeps
    split at h
    · cases h
    · exact hkeeps text a changed (mapError_eq_ok.mp h)

theorem occur_tool (ho : o ∈ commandOptions) (hlong : o.long = "tool-location") (text : String)
    {tool : String × String} (hread : readToolLocation text = .ok tool) :
    o.occur (some text) a = .ok { a with toolLocations := a.toolLocations ++ [tool] } := by
  unfold CommandOption.occur
  rw [effect_of_eq o ho hlong]
  simp only [takeEach, formed, hread]
  rfl

theorem toolsFrom_of_occur (ho : o ∈ commandOptions) (h : o.occur value a = .ok changed)
    (ha : a.ToolsFrom texts) : changed.ToolsFrom (texts ++ toolTexts [⟨o, value⟩]) := by
  by_cases hlong : o.long = "tool-location"
  · cases value with
    | none =>
      rw [CommandOption.occur_none (takesValue_of_eq ho hlong)] at h
      cases h
    | some text =>
      have htexts : toolTexts [⟨o, some text⟩] = [text] := by simp [toolTexts, hlong]
      unfold CommandOption.occur at h
      rw [effect_of_eq o ho hlong] at h
      obtain ⟨tool, hread, rfl⟩ := map_eq_ok.mp (mapError_eq_ok.mp h)
      rw [htexts]
      exact ha.add (mapError_eq_ok.mp hread)
  · have htexts : toolTexts [⟨o, value⟩] = [] := by simp [toolTexts, hlong]
    have hsame := toolLocations_of_occur (keepsTools_of_ne o ho hlong) h
    rw [htexts, List.append_nil, Arguments.ToolsFrom, hsame]
    exact ha

theorem toolsFrom_of_occurAll (hmem : ∀ occurrence ∈ occurrences, occurrence.option ∈ commandOptions)
    (h : occurAll occurrences a = .ok changed) (ha : a.ToolsFrom texts) :
    changed.ToolsFrom (texts ++ toolTexts occurrences) := by
  induction occurrences generalizing a texts with
  | nil =>
    obtain rfl := Except.ok.inj h
    rw [toolTexts, List.filter_nil, List.filterMap_nil, List.append_nil]
    exact ha
  | cons occurrence occurrences ih =>
    obtain ⟨ho, hmem⟩ := List.forall_mem_cons.mp hmem
    obtain ⟨a', hoccur, h⟩ := bind_eq_ok.mp h
    have hnext := ih hmem h (toolsFrom_of_occur ho hoccur ha)
    rwa [List.append_assoc, ← toolTexts_append] at hnext

/-- **The tools of a command line come from its texts for tools**, in their order. -/
theorem toolsFrom_of_parseArguments {password : Option String} {words : List String}
    (h : parseArguments password words = .ok a) : ∃ occurrences command,
      CommandLine none words occurrences command ∧ a.ToolsFrom (toolTexts occurrences) := by
  obtain ⟨occurrences, command, changed, hwords, hoccur, rfl⟩ := parseArguments_eq_ok_iff.mp h
  have hnone : ({} : Arguments).ToolsFrom [] := rfl
  exact ⟨occurrences, command, hwords, toolsFrom_of_occurAll (hwords.mem nofun) hoccur hnone⟩

/-- Texts for tools set them one after the other. -/
theorem occurAll_tools (ho : o ∈ commandOptions) (hlong : o.long = "tool-location")
    (h : texts.mapM readToolLocation = .ok tools) :
    occurAll (texts.map fun text => ⟨o, some text⟩) a =
      .ok { a with toolLocations := a.toolLocations ++ tools } := by
  induction mapM_eq_ok.mp h generalizing a with
  | nil =>
    rw [List.append_nil]
    rfl
  | @cons text tool texts tools hread hrest ih =>
    rw [List.map_cons, occurAll_cons, occur_tool ho hlong text hread,
      List.append_cons a.toolLocations tool tools]
    exact ih (mapM_eq_ok.mpr hrest)

/-- **Whatever texts are tools** can be given for tools, and set those. -/
theorem parseArguments_tools {password : Option String} (h : texts.mapM readToolLocation = .ok tools) :
    parseArguments password (texts.map ("--tool-location=" ++ ·)) =
      .ok { toolLocations := tools, password := password } := by
  obtain ⟨o, ho, hlong⟩ : ∃ o ∈ commandOptions, o.long = "tool-location" := by
    have hfound : (commandOptions.find? (·.long == "tool-location")).isSome = true := rfl
    obtain ⟨o, ho, hlong⟩ := List.find?_isSome.mp hfound
    exact ⟨o, ho, beq_iff_eq.mp hlong⟩
  have hwords : ∀ texts : List String, CommandLine none (texts.map ("--tool-location=" ++ ·))
      (texts.map fun text => ⟨o, some text⟩) none := by
    intro texts
    induction texts with
    | nil => exact .nil
    | cons text texts ih =>
      have hword := OptionWord.signed text ho (takesValue_of_eq ho hlong)
      rw [hlong] at hword
      exact .option hword ih
  exact parseArguments_eq_ok_iff.mpr ⟨_, none, _, hwords texts, occurAll_tools ho hlong h, rfl⟩

end Tools

end NodeAgent
