import NodeAgent.Proofs.Coordinator.Delivery

/-!
# The announced name is read back

The answer to a registration is a list of properties, and the first entry for `name` announces the name of
the node.  The name is found whatever stands in front of that entry and behind it, and with any blanks
around its parts; it may hold the characters that mean something elsewhere in the list.  An answer without
such an entry, or with a blank one, announces nothing, and the node keeps the name that was asked for.

## Main definitions

* `IsNameEntry`: a line that is an entry for the name, with its value.
* `IsPassedOver`: a line that is none: a comment, a line without a separator, or an entry for another key.
* `LineEnd`, `NameLine`: the ends of lines, and the ways to write a name.

## Main results

* `passedOver_or_nameEntry`: a line is passed over, or it is an entry for the name.
* `announcedName?_of_passedOver`, `announcedName?_of_nameEntry`: the first entry is what counts.
* `announcedName?_write`: a name that is written in a list is found.
* `announced_name_read_back`: all of it at once, and the name of the node.
-/

namespace NodeAgent

open Text Dialogue

/-! ## Lines -/

/-- The characters that end a key. -/
def isPropertySeparator (c : Char) : Bool :=
  c == '=' || c == ':'

/-- A comment: behind blanks it starts with one of two marks. -/
def IsComment (line : List Char) : Prop :=
  ∃ c ∈ (trimChars line).head?, c = '#' ∨ c = '!'

/-- A line with a key in front of its first separator, and the rest behind it. -/
def IsKeyed (line key rest : List Char) : Prop :=
  ∃ separator, line = key ++ separator :: rest ∧ isPropertySeparator separator = true ∧
    ∀ c ∈ key, isPropertySeparator c = false

/-- **An entry for the name**, with its value. -/
def IsNameEntry (line value : List Char) : Prop :=
  ∃ key rest, IsKeyed line key rest ∧ trimChars key = "name".toList ∧ trimChars rest = value

/-- **A line that is passed over.** -/
inductive IsPassedOver (line : List Char) : Prop
  | comment (h : IsComment line)
  | bare (h : ∀ c ∈ line, isPropertySeparator c = false)
  | otherKey (key rest : List Char) (h : IsKeyed line key rest)
      (hkey : trimChars key ≠ "name".toList)

section Property

variable {line key rest value : List Char}

theorem isBlank_of_isPropertySeparator {c : Char} (h : isPropertySeparator c = true) :
    isBlank c = false := by
  rw [isPropertySeparator, Bool.or_eq_true, beq_iff_eq, beq_iff_eq] at h
  rcases h with rfl | rfl <;> decide

/-- Blanks at the ends of a line do not count. -/
theorem property?_congr {other : List Char} (h : trimChars line = trimChars other) :
    property? line = property? other := by
  rw [property?, property?, h]

theorem property?_of_comment (h : IsComment line) : property? line = none := by
  obtain ⟨c, hc, hmark⟩ := h
  obtain ⟨more, hline⟩ := List.head?_eq_some_iff.mp hc
  rw [property?, hline]
  rcases hmark with rfl | rfl <;> rfl

theorem property?_of_not_comment (h : ¬ IsComment line) :
    property? line = (splitAtFirst isPropertySeparator (trimChars line)).map fun (key, value) =>
      (trimChars key, trimChars value) := by
  unfold property?
  dsimp only
  split
  · next heq => exact absurd ⟨'#', by rw [heq]; rfl, .inl rfl⟩ h
  · next heq => exact absurd ⟨'!', by rw [heq]; rfl, .inr rfl⟩ h
  · rfl

theorem property?_of_bare (h : ∀ c ∈ line, isPropertySeparator c = false) : property? line = none := by
  by_cases hcomment : IsComment line
  · exact property?_of_comment hcomment
  · rw [property?_of_not_comment hcomment,
      splitAtFirst_of_not fun c hc => h c (mem_of_mem_trimChars hc)]
    rfl

/-- **A line that is no comment is read as what stands around its first separator.** -/
theorem property?_of_isKeyed (h : IsKeyed line key rest) (hcomment : ¬ IsComment line) :
    property? line = some (trimChars key, trimChars rest) := by
  rw [property?_of_not_comment hcomment]
  obtain ⟨separator, rfl, hseparator, hkey⟩ := h
  -- A separator is no blank, so that each side loses the blanks at its own end only.
  have hfront : ∀ c ∈ trimStart key, isPropertySeparator c = false :=
    fun c hc => hkey c ((List.dropWhile_suffix isBlank).subset hc)
  rw [trimChars_append_cons (isBlank_of_isPropertySeparator hseparator),
    splitAtFirst_append hfront hseparator, Option.map_some]
  dsimp only
  rw [trimChars_trimStart, trimChars_trimEnd]

/-- An entry for the name is no comment: behind blanks it starts with the key. -/
theorem IsNameEntry.not_isComment (h : IsNameEntry line value) : ¬ IsComment line := by
  obtain ⟨key, rest, ⟨separator, rfl, hseparator, -⟩, hname, -⟩ := h
  rintro ⟨c, hc, hmark⟩
  obtain ⟨more, hmore⟩ := trimEnd_isPrefix (trimStart key)
  rw [trimChars] at hname
  rw [trimChars_append_cons (isBlank_of_isPropertySeparator hseparator), ← hmore, hname] at hc
  obtain rfl : 'n' = c := Option.some.inj hc
  rcases hmark with hmark | hmark <;> exact absurd hmark (by decide)

theorem property?_of_isNameEntry (h : IsNameEntry line value) :
    property? line = some ("name".toList, value) := by
  have hcomment := h.not_isComment
  obtain ⟨key, rest, hkeyed, hname, rfl⟩ := h
  rw [property?_of_isKeyed hkeyed hcomment, hname]

theorem IsPassedOver.property?_ne (h : IsPassedOver line) (value : List Char) :
    property? line ≠ some ("name".toList, value) := by
  cases h with
  | comment h => rw [property?_of_comment h]; exact nofun
  | bare h => rw [property?_of_bare h]; exact nofun
  | otherKey key rest h hkey =>
    intro heq
    by_cases hcomment : IsComment line
    · rw [property?_of_comment hcomment] at heq
      cases heq
    · rw [property?_of_isKeyed h hcomment] at heq
      exact hkey (Prod.mk.inj (Option.some.inj heq)).1

/-- **A line is passed over, or it is an entry for the name.** -/
theorem passedOver_or_nameEntry (line : List Char) :
    IsPassedOver line ∨ ∃ value, IsNameEntry line value := by
  cases hcut : splitAtFirst isPropertySeparator line with
  | none => exact .inl (.bare (splitAtFirst_eq_none_iff.mp hcut))
  | some parts =>
    obtain ⟨key, rest⟩ := parts
    have hkeyed : IsKeyed line key rest := splitAtFirst_eq_some_iff.mp hcut
    by_cases hname : trimChars key = "name".toList
    · exact .inr ⟨trimChars rest, key, rest, hkeyed, hname, rfl⟩
    · exact .inl (.otherKey key rest hkeyed hname)

end Property

/-! ## The first entry -/

/-- The value of the first entry for the name among some lines. -/
def nameAmong? (ls : List (List Char)) : Option (List Char) :=
  (ls.filterMap property?).lookup "name".toList

section Lines

variable {line value : List Char} {before after : List (List Char)}

theorem nameAmong?_cons_of_ne (h : ∀ value, property? line ≠ some ("name".toList, value)) :
    nameAmong? (line :: after) = nameAmong? after := by
  rw [nameAmong?, nameAmong?, List.filterMap_cons]
  cases hp : property? line with
  | none => rfl
  | some entry =>
    obtain ⟨key, value⟩ := entry
    have hkey : ("name".toList == key) = false := by
      refine beq_eq_false_iff_ne.mpr ?_
      rintro rfl
      exact h value hp
    rw [List.lookup_cons, hkey]

theorem nameAmong?_cons_of_eq (h : property? line = some ("name".toList, value)) :
    nameAmong? (line :: after) = some value := by
  rw [nameAmong?, List.filterMap_cons, h, List.lookup_cons, beq_self_eq_true]

theorem nameAmong?_append (h : ∀ line ∈ before, IsPassedOver line) :
    nameAmong? (before ++ after) = nameAmong? after := by
  induction before with
  | nil => rfl
  | cons line before ih =>
    rw [List.cons_append, nameAmong?_cons_of_ne (h line List.mem_cons_self).property?_ne]
    exact ih fun l hl => h l (List.mem_cons_of_mem _ hl)

/-- **Of the entries for the name there is a first one**, unless there is none. -/
theorem exists_first_nameEntry (ls : List (List Char)) :
    (∀ line ∈ ls, IsPassedOver line) ∨
      ∃ before line value after, ls = before ++ line :: after ∧
        (∀ l ∈ before, IsPassedOver l) ∧ IsNameEntry line value := by
  induction ls with
  | nil => exact .inl nofun
  | cons line ls ih =>
    rcases passedOver_or_nameEntry line with hpassed | ⟨value, hentry⟩
    · rcases ih with hall | ⟨before, entry, value, after, rfl, hbefore, hentry⟩
      · exact .inl (List.forall_mem_cons.mpr ⟨hpassed, hall⟩)
      · exact .inr ⟨line :: before, entry, value, after, rfl,
          List.forall_mem_cons.mpr ⟨hpassed, hbefore⟩, hentry⟩
    · exact .inr ⟨[], line, value, ls, rfl, nofun, hentry⟩

end Lines

section Answer

variable {answer : String} {line value : List Char} {before after : List (List Char)}

/-- The name in an answer is the value of the first entry, unless that is blank. -/
theorem announcedName?_eq (answer : String) :
    announcedName? answer =
      ((nameAmong? (lines answer.toList)).filter (· ≠ [])).map String.ofList := by
  unfold announcedName? nameAmong?
  dsimp only
  cases ((lines answer.toList).filterMap property?).lookup "name".toList with
  | none => rfl
  | some value => cases value <;> rfl

/-- **Without an entry for the name nothing is announced.** -/
theorem announcedName?_of_passedOver (h : ∀ line ∈ lines answer.toList, IsPassedOver line) :
    announcedName? answer = none := by
  have hnone : nameAmong? (lines answer.toList ++ []) = none := nameAmong?_append h
  rw [List.append_nil] at hnone
  rw [announcedName?_eq, hnone]
  rfl

/-- **The first entry for the name announces its value**, unless that is blank. -/
theorem announcedName?_of_nameEntry (h : lines answer.toList = before ++ line :: after)
    (hbefore : ∀ l ∈ before, IsPassedOver l) (hentry : IsNameEntry line value) :
    announcedName? answer = if value = [] then none else some (String.ofList value) := by
  rw [announcedName?_eq, h, nameAmong?_append hbefore,
    nameAmong?_cons_of_eq (property?_of_isNameEntry hentry)]
  cases value <;> rfl

/-- **An answer announces nothing** exactly if it has no entry for the name, or a blank one comes
first. -/
theorem announcedName?_eq_none_iff :
    announcedName? answer = none ↔
      (∀ line ∈ lines answer.toList, IsPassedOver line) ∨
        ∃ before line after, lines answer.toList = before ++ line :: after ∧
          (∀ l ∈ before, IsPassedOver l) ∧ IsNameEntry line [] := by
  constructor
  · intro hnone
    rcases exists_first_nameEntry (lines answer.toList) with hall | hfirst
    · exact .inl hall
    · obtain ⟨before, line, value, after, hlines, hbefore, hentry⟩ := hfirst
      rw [announcedName?_of_nameEntry hlines hbefore hentry] at hnone
      split at hnone
      · next hblank => exact .inr ⟨before, line, after, hlines, hbefore, hblank ▸ hentry⟩
      · cases hnone
  · rintro (hall | ⟨before, line, after, hlines, hbefore, hentry⟩)
    · exact announcedName?_of_passedOver hall
    · rw [announcedName?_of_nameEntry hlines hbefore hentry, if_pos rfl]

end Answer

/-! ## Names that are written -/

/-- **The ends of lines.** -/
inductive LineEnd
  | feed
  | returnFeed

/-- The characters at the end of a line. -/
def LineEnd.write : LineEnd → List Char
  | feed => ['\n']
  | returnFeed => ['\r', '\n']

/-- Lines one after the other, each with its end. -/
def writeLines (ls : List (List Char × LineEnd)) : List Char :=
  ls.flatMap fun (line, lineEnd) => line ++ lineEnd.write

/-- **A way to write a name**: the key, a separator and the name, with blanks around each. -/
structure NameLine where
  indent : List Char := []
  gap : List Char := []
  separator : Char := '='
  margin : List Char := []
  name : List Char
  trailer : List Char := []

namespace NameLine

/-- The line that is written. -/
def write (w : NameLine) : List Char :=
  w.indent ++ "name".toList ++ w.gap ++ w.separator :: (w.margin ++ w.name ++ w.trailer)

/-- **A line that announces its name.** -/
structure IsWellFormed (w : NameLine) : Prop where
  isBlank : ∀ c ∈ w.indent ++ w.gap ++ w.margin ++ w.trailer, isBlank c = true ∧ c ≠ '\n'
  isPropertySeparator : isPropertySeparator w.separator = true
  name_ne_nil : w.name ≠ []
  feed_not_mem : '\n' ∉ w.name
  /-- No blanks stand at the ends of the name. -/
  head_not_blank : ∀ c ∈ w.name.head?, Text.isBlank c = false
  last_not_blank : ∀ c ∈ w.name.getLast?, Text.isBlank c = false

variable {w : NameLine}

/-- A line that is written is an entry with its name as the value. -/
theorem IsWellFormed.isNameEntry (h : w.IsWellFormed) : IsNameEntry w.write w.name := by
  have hblank := h.isBlank
  simp only [List.forall_mem_append] at hblank
  obtain ⟨⟨⟨hindent, hgap⟩, hmargin⟩, htrailer⟩ := hblank
  refine ⟨w.indent ++ "name".toList ++ w.gap, w.margin ++ w.name ++ w.trailer,
    ⟨w.separator, rfl, h.isPropertySeparator, ?_⟩, ?_, ?_⟩
  · have hquiet : ∀ c, Text.isBlank c = true → NodeAgent.isPropertySeparator c = false := by
      intro c hc
      by_contra hseparator
      rw [Bool.not_eq_false] at hseparator
      cases hc.symm.trans (isBlank_of_isPropertySeparator hseparator)
    simp only [List.forall_mem_append]
    exact ⟨⟨fun c hc => hquiet c (hindent c hc).1, by decide⟩, fun c hc => hquiet c (hgap c hc).1⟩
  · rw [trimChars_append_right fun c hc => (hgap c hc).1,
      trimChars_append_left fun c hc => (hindent c hc).1]
    decide
  · rw [trimChars_append_right fun c hc => (htrailer c hc).1,
      trimChars_append_left fun c hc => (hmargin c hc).1,
      trimChars_of_ends h.head_not_blank h.last_not_blank]

theorem IsWellFormed.feed_not_mem_write (h : w.IsWellFormed) : '\n' ∉ w.write := by
  have hblank := h.isBlank
  simp only [List.forall_mem_append] at hblank
  obtain ⟨⟨⟨hindent, hgap⟩, hmargin⟩, htrailer⟩ := hblank
  have hseparator : '\n' ≠ w.separator := by
    intro heq
    have hquiet := isBlank_of_isPropertySeparator h.isPropertySeparator
    rw [← heq] at hquiet
    cases hquiet
  simp only [write, List.mem_append, List.mem_cons, not_or]
  exact ⟨⟨⟨fun hm => (hindent _ hm).2 rfl, by decide⟩, fun hm => (hgap _ hm).2 rfl⟩, hseparator,
    ⟨fun hm => (hmargin _ hm).2 rfl, h.feed_not_mem⟩, fun hm => (htrailer _ hm).2 rfl⟩

end NameLine

/-- A line with an end is the first one, but for blanks at its end. -/
theorem exists_first_line {line : List Char} (h : '\n' ∉ line) (lineEnd : LineEnd) (rest : List Char) :
    ∃ first, lines (line ++ lineEnd.write ++ rest) = first :: lines rest ∧
      trimChars first = trimChars line := by
  have hreturn : ∀ c ∈ ['\r'], isBlank c = true := by decide
  cases lineEnd with
  | feed =>
    obtain ⟨first, hfirst, hline⟩ := lines_append_feed h rest
    refine ⟨first, by rw [← hfirst, List.append_assoc]; rfl, ?_⟩
    rcases hline with rfl | rfl
    · rfl
    · exact (trimChars_append_right hreturn).symm
  | returnFeed =>
    have hwhole : '\n' ∉ line ++ ['\r'] := by simpa using h
    obtain ⟨first, hfirst, hline⟩ := lines_append_feed hwhole rest
    have htrim : trimChars (line ++ ['\r']) = trimChars line := trimChars_append_right hreturn
    refine ⟨first, by rw [← hfirst, List.append_assoc, List.append_assoc]; rfl, ?_⟩
    rcases hline with rfl | heq
    · exact htrim
    · rw [← htrim, heq, trimChars_append_right hreturn]

/-- **Lines that are passed over do not count**, whatever their ends. -/
theorem nameAmong?_writeLines {before : List (List Char × LineEnd)}
    (h : ∀ l ∈ before, '\n' ∉ l.1 ∧ IsPassedOver l.1) (rest : List Char) :
    nameAmong? (lines (writeLines before ++ rest)) = nameAmong? (lines rest) := by
  induction before with
  | nil => rfl
  | cons l before ih =>
    obtain ⟨hline, hpassed⟩ := h l List.mem_cons_self
    obtain ⟨first, hfirst, htrim⟩ := exists_first_line hline l.2 (writeLines before ++ rest)
    have hne : ∀ value, property? first ≠ some ("name".toList, value) := by
      rw [property?_congr htrim]
      exact hpassed.property?_ne
    have hwrite : writeLines (l :: before) ++ rest =
        l.1 ++ l.2.write ++ (writeLines before ++ rest) := by
      rw [writeLines, List.flatMap_cons, ← writeLines, List.append_assoc]
    rw [hwrite, hfirst, nameAmong?_cons_of_ne hne]
    exact ih fun l hl => h l (List.mem_cons_of_mem _ hl)

/-- **A name that is written is found.**  Behind it the answer ends, or the line does and anything may
follow. -/
theorem announcedName?_write {before : List (List Char × LineEnd)} {w : NameLine} {after : List Char}
    (hbefore : ∀ l ∈ before, '\n' ∉ l.1 ∧ IsPassedOver l.1) (hw : w.IsWellFormed)
    (hafter : after = [] ∨ ∃ lineEnd rest, after = LineEnd.write lineEnd ++ rest) :
    announcedName? (String.ofList (writeLines before ++ (w.write ++ after))) =
      some (String.ofList w.name) := by
  have hproperty := property?_of_isNameEntry hw.isNameEntry
  have hfound : nameAmong? (lines (w.write ++ after)) = some w.name := by
    rcases hafter with rfl | ⟨lineEnd, rest, rfl⟩
    · have hne : w.write ≠ [] := by
        intro heq
        rw [heq] at hproperty
        cases hproperty
      rw [List.append_nil, lines_of_not_mem hw.feed_not_mem_write hne,
        nameAmong?_cons_of_eq hproperty]
    · obtain ⟨first, hfirst, htrim⟩ := exists_first_line hw.feed_not_mem_write lineEnd rest
      rw [← List.append_assoc, hfirst, nameAmong?_cons_of_eq ((property?_congr htrim).trans hproperty)]
  rw [announcedName?_eq, String.toList_ofList, nameAmong?_writeLines hbefore, hfound]
  have hname : w.name ≠ [] := hw.name_ne_nil
  simp [hname]

/-! ## The name of a node -/

section Call

variable {client : HttpClient} {candidate : Candidate} {r : Registration} {answers : List HttpAnswer}

/-- A registration that is granted succeeds. -/
theorem exists_name_of_grantsAll (h : candidate.url.isOpaque = false)
    (hall : GrantsAll (r.postings candidate.secret answers) answers) :
    ∃ name, ((client.createNode candidate r).run.transcript answers).2 = some (.ok name) := by
  have hrounds : (client.createNode candidate r).GoesInRounds _ _ _ answers :=
    rounds_createNode (Endpoint.createNode.on_of_isOpaque_eq_false h) r answers
  exact ⟨_, hrounds.ok_of_grantsAll hall⟩

/-- **The announced name is read back.**  A name that is written as the first entry for it is found, and
nothing is found exactly if there is no such entry or a blank one comes first.  The name of a node that is
registered is the one that is found in the answer to the request for it, or else the one that was asked
for. -/
theorem announced_name_read_back :
    (∀ (before : List (List Char × LineEnd)) (w : NameLine) (after : List Char),
      (∀ l ∈ before, '\n' ∉ l.1 ∧ IsPassedOver l.1) → w.IsWellFormed →
      (after = [] ∨ ∃ lineEnd rest, after = LineEnd.write lineEnd ++ rest) →
      announcedName? (String.ofList (writeLines before ++ (w.write ++ after))) =
        some (String.ofList w.name)) ∧
    (∀ answer, announcedName? answer = none ↔
      (∀ line ∈ lines answer.toList, IsPassedOver line) ∨
        ∃ before line after, lines answer.toList = before ++ line :: after ∧
          (∀ l ∈ before, IsPassedOver l) ∧ IsNameEntry line []) ∧
    (∀ (client : HttpClient) (candidate : Candidate) (r : Registration) (answers : List HttpAnswer),
      (∀ name, ((client.createNode candidate r).run.transcript answers).2 = some (.ok name) →
        ∃ response body, answers[1]? = some (.ok response) ∧ response.text = .ok body ∧
          name = (announcedName? body).getD r.name) ∧
      (candidate.url.isOpaque = false → GrantsAll (r.postings candidate.secret answers) answers →
        ∃ name, ((client.createNode candidate r).run.transcript answers).2 = some (.ok name))) := by
  refine ⟨?_, ?_, ?_⟩
  · intro before w after hbefore hw hafter
    exact announcedName?_write hbefore hw hafter
  · intro answer
    exact announcedName?_eq_none_iff
  · intro client candidate r answers
    constructor
    · intro name hr
      exact name_of_ok (goesInRounds_of_ok hr) hr
    · exact exists_name_of_grantsAll

end Call

/-- A name that looks like another entry is found behind a comment and an entry for another key.  A blank
name in front of another one counts, and the node is named as was asked for. -/
theorem announced_name_read_back_of_properties :
    let before := [("# name=x".toList, LineEnd.returnFeed), ("url: name=x".toList, LineEnd.feed)]
    let w : NameLine :=
      { indent := [' '], gap := ['\t'], separator := ':', margin := [' '], name := "#a = b".toList,
        trailer := ['\t'] }
    let candidate : Candidate :=
      ⟨{ scheme := "http", authority := some { host := .name "ci" }, path := "/" }, "key"⟩
    let r : Registration := { name := "builder", executors := 1, fsRoot := "/", labels := .parse "gpu" }
    let answers : List HttpAnswer :=
      [.ok { status := 404 }, .ok { status := 200, body := .ok (encodeUtf8 "name=\nname=x") }]
    w.IsWellFormed ∧ String.ofList (writeLines before ++ w.write) =
        "# name=x\r\nurl: name=x\n name\t: #a = b\t" ∧
      announcedName? "# name=x\r\nurl: name=x\n name\t: #a = b\t" = some "#a = b" ∧
      announcedName? "name=\nname=x" = none ∧
      ((({} : HttpClient).createNode candidate r).run.transcript answers).2 = some (.ok "builder") := by
  intro before w candidate r answers
  have hw : w.IsWellFormed := by
    refine ⟨by decide, by decide, by decide, by decide, ?_, ?_⟩
    · intro c hc
      obtain rfl : '#' = c := Option.some.inj hc
      decide
    · intro c hc
      obtain rfl : 'b' = c := Option.some.inj hc
      decide
  have hwritten : String.ofList (writeLines before ++ w.write) =
      "# name=x\r\nurl: name=x\n name\t: #a = b\t" := by
    decide
  have hbefore : ∀ l ∈ before, '\n' ∉ l.1 ∧ IsPassedOver l.1 := by
    intro l hl
    rcases List.mem_cons.mp hl with rfl | hl
    · exact ⟨by decide, .comment ⟨'#', by decide, .inl rfl⟩⟩
    · obtain rfl := List.mem_singleton.mp hl
      exact ⟨by decide, .otherKey "url".toList " name=x".toList
        ⟨':', by decide, by decide, by decide⟩ (by decide)⟩
  have hblank : IsNameEntry "name=".toList [] :=
    ⟨"name".toList, [], ⟨'=', by decide, by decide, by decide⟩, by decide, by decide⟩
  obtain ⟨hfound, hnone, hnode⟩ := announced_name_read_back
  have hnothing : announcedName? "name=\nname=x" = none :=
    (hnone _).mpr (.inr ⟨[], _, ["name=x".toList], by decide, nofun, hblank⟩)
  refine ⟨hw, hwritten, ?_, hnothing, ?_⟩
  · have hname := hfound before w [] hbefore hw (.inl rfl)
    rw [List.append_nil, hwritten] at hname
    exact hname
  · -- Both answers grant what they are for, so that there is a name.
    have hall : GrantsAll (r.postings candidate.secret answers) answers := by
      intro i p hp
      have hlength : (r.postings candidate.secret answers).length = 1 := by decide +kernel
      have hi := (List.getElem?_eq_some_iff.mp hp).1
      obtain rfl : i = 0 := by omega
      have hcrumbs : crumbIn? (.ok { status := 404 }) = none := by decide +kernel
      refine ⟨_, _, rfl, ?_, rfl, ?_⟩
      · intro crumb hcrumb
        cases hcrumbs.symm.trans hcrumb
      · obtain rfl := Option.some.inj hp
        decide +kernel
    obtain ⟨hkept, hexists⟩ := hnode {} candidate r answers
    obtain ⟨name, hname⟩ := hexists (by decide) hall
    obtain ⟨response, body, hanswer, hbody, rfl⟩ := hkept name hname
    obtain rfl := Except.ok.inj (Option.some.inj hanswer)
    have htext : ({ status := 200, body := .ok (encodeUtf8 "name=\nname=x") } : Response).text =
        .ok "name=\nname=x" := by
      decide +kernel
    obtain rfl := Except.ok.inj (htext.symm.trans hbody)
    rw [hname, hnothing]
    rfl

end NodeAgent
