import NodeAgent.Proofs.Text.Split
import NodeAgent.Proofs.Xml.Written

/-!
# Reading tags and asides

What is written in a tag, a comment or a processing instruction is read as what it means.

## Main results

* `run_qname`: names are read.
* `run_writtenAttribute`, `run_valuedAttribute`: attributes are read.
* `run_startTag`, `run_endTag`: tags are read.
* `run_comment`, `run_instruction`: asides are read.
-/

namespace NodeAgent.Xml

open Text

variable {name : String} {n : QName} {cs rest : List Char} {c d : Char}

/-! ## Names -/

/-- No other character starts a name. -/
theorem ne_of_isNameStart (hc : isNameStart c = true) (hd : isNameStart d = false) : c ≠ d := by
  rintro rfl
  rw [hc] at hd
  cases hd

theorem isNameChar_of_isXmlSpace (h : isXmlSpace c = true) : isNameChar c = false := by
  simp only [isXmlSpace, Bool.or_eq_true, beq_iff_eq] at h
  rcases h with ((rfl | rfl) | rfl) | rfl <;> decide

theorem isXmlSpace_of_isNameStart (h : isNameStart c = true) : isXmlSpace c = false := by
  refine Bool.eq_false_iff.mpr fun hspace => ?_
  simp only [isXmlSpace, Bool.or_eq_true, beq_iff_eq] at hspace
  rcases hspace with ((rfl | rfl) | rfl) | rfl <;> exact absurd h (by decide)

theorem IsPlainName.exists_cons (h : IsPlainName name) :
    ∃ c more, name.toList = c :: more ∧ isNameStart c = true := by
  obtain ⟨hstart, -⟩ := h
  cases hl : name.toList with
  | nil =>
    rw [hl] at hstart
    cases hstart
  | cons c more =>
    rw [hl] at hstart
    exact ⟨c, more, rfl, hstart⟩

theorem QName.IsWellFormed.exists_cons (h : n.IsWellFormed) :
    ∃ c more, n.write = c :: more ∧ isNameStart c = true := by
  rw [QName.write]
  split
  · exact h.localPart.exists_cons
  · next hpre =>
    obtain ⟨c, more, hl, hc⟩ := (h.pre.resolve_left hpre).exists_cons
    exact ⟨c, _, by rw [hl]; rfl, hc⟩

theorem QName.IsWellFormed.isNameChar (h : n.IsWellFormed) : ∀ c ∈ n.write, isNameChar c = true := by
  intro c hc
  rw [QName.write, List.mem_append] at hc
  rcases hc with hc | hc
  · split at hc
    · cases hc
    · next hpre =>
      rcases List.mem_append.mp hc with hc | hc
      · exact ((h.pre.resolve_left hpre).2 c hc).1
      · obtain rfl := List.mem_singleton.mp hc
        decide
  · exact (h.localPart.2 c hc).1

theorem qname?_write (h : n.IsWellFormed) : qname? n.write = some n := by
  have hcolon : ∀ {name}, IsPlainName name → ∀ c ∈ name.toList, (c == ':') = false := by
    intro name hname c hc
    simpa using (hname.2 c hc).2
  by_cases hpre : n.pre = ""
  · rw [qname?, QName.write, if_pos hpre, List.nil_append, splitAtFirst_of_not (hcolon h.localPart)]
    simp only [h.localPart.1, if_true, String.ofList_toList, ← hpre]
  · have hname := h.pre.resolve_left hpre
    have hpart : n.localPart.toList.contains ':' = false := by
      simpa using fun hm => (h.localPart.2 ':' hm).2 rfl
    rw [qname?, QName.write, if_neg hpre, List.append_assoc, List.singleton_append,
      splitAtFirst_append (hcolon hname) rfl]
    simp only [hpart, h.localPart.1, hname.1, String.ofList_toList]
    simp

/-- **A name is read** up to a character that belongs to no name. -/
theorem run_qname (h : n.IsWellFormed) (hr : ∀ c ∈ rest.head?, isNameChar c = false) :
    qname.run (n.write ++ rest) = .ok (n, rest) := by
  unfold qname StateT.run
  simp only [takeWhile_append h.isNameChar hr, qname?_write h, dropWhile_append h.isNameChar hr]

/-! ## Attributes -/

section Attributes

variable {a : WrittenAttribute}

/-- What does not belong to a name in front: white space and what stands behind it. -/
theorem head?_space_append {p : Char → Bool} {space : List Char} (hs : IsSpace space)
    (hp : ∀ c, isXmlSpace c = true → p c = false) (hd : p d = false) (rest : List Char) :
    ∀ c ∈ (space ++ d :: rest).head?, p c = false := by
  cases space with
  | nil => exact forall_head?_cons hd rest
  | cons x space => exact forall_head?_cons (hp x (hs x List.mem_cons_self)) _

/-- The value of an attribute is read up to its quote. -/
theorem run_charsUntil_value (h : a.IsWellFormed) (rest : List Char) :
    charsUntil (fun rest => rest.head? == some a.quote || rest.head? == some '<')
      (writeData a.value ++ a.quote :: rest) = .ok (writeData a.value, a.quote :: rest) := by
  have hquote : isXmlChar a.quote = true ∧ isQuiet a.quote = false ∧ a.quote ≠ '&' ∧ a.quote ≠ ';' := by
    rcases h.quote with hq | hq <;> rw [hq] <;> decide
  refine charsUntil_append_of_head (p := fun c => c == some a.quote || c == some '<') rest (fun x hx => ?_)
    hquote.1 (by simp)
  obtain ⟨d, hd, hx⟩ := List.mem_flatMap.mp hx
  obtain ⟨hwell, hplain⟩ := h.value d hd
  obtain ⟨hxml, hless, hother⟩ := hwell.mem_write hx
  -- The quote could only be written as itself.
  have hne : x ≠ a.quote := by
    rintro rfl
    obtain ⟨-, hquiet, hamp, hsemicolon⟩ := hquote
    rcases hother with hother | hother | hother | hother
    · exact hplain hother
    · exact hamp hother
    · exact hsemicolon hother
    · exact absurd hother (by simp [hquiet])
  exact ⟨hxml, by simp [hne, hless]⟩

/-- An attribute is read with its value as it is written. -/
theorem run_writtenAttribute (h : a.IsWellFormed) (rest : List Char) :
    writtenAttribute.run (a.writeBehindGap ++ rest) =
      .ok (⟨a.name, String.ofList (writeData a.value)⟩, rest) := by
  have hsplit : a.writeBehindGap ++ rest = a.name.write ++ (a.beforeSign ++ '=' ::
      (a.behindSign ++ a.quote :: (writeData a.value ++ a.quote :: rest))) := by
    simp [WrittenAttribute.writeBehindGap]
  have hspace : isXmlSpace a.quote = false := by
    rcases h.quote with hq | hq <;> rw [hq] <;> decide
  have hname : ∀ more, qname.run (a.name.write ++ (a.beforeSign ++ '=' :: more)) =
      .ok (a.name, a.beforeSign ++ '=' :: more) := fun more =>
    run_qname h.name (head?_space_append h.beforeSign (fun _ => isNameChar_of_isXmlSpace) (by decide) more)
  have hbefore : ∀ more, spaces.run (a.beforeSign ++ '=' :: more) = _ := fun more =>
    run_spaces h.beforeSign (forall_head?_cons (by decide) more)
  have hbehind : ∀ more, spaces.run (a.behindSign ++ a.quote :: more) = _ := fun more =>
    run_spaces h.behindSign (forall_head?_cons hspace more)
  have hsign : ∀ more, (expect "=").run ('=' :: more) = .ok ((), more) := run_expect "="
  have hexpect : ∀ more, (expect (String.singleton a.quote)).run (a.quote :: more) = .ok ((), more) :=
    fun more => by simpa using run_expect (String.singleton a.quote) more
  -- The kind of the quote is told from the quote itself.
  have hkind : ∀ more, ∃ single, (Reader.comesNext "'" : XmlReader Bool).run (a.quote :: more) =
      .ok (single, a.quote :: more) ∧ (if single = true then '\'' else '"') = a.quote := by
    intro more
    rcases h.quote with hq | hq <;> rw [hq]
    · exact ⟨false, rfl, rfl⟩
    · exact ⟨true, rfl, rfl⟩
  obtain ⟨single, hsingle, hchosen⟩ := hkind (writeData a.value ++ a.quote :: rest)
  rw [hsplit, writtenAttribute, run_bind_ok (hname _), run_bind_ok (hbefore _), run_bind_ok (hsign _),
    run_bind_ok (hbehind _), run_bind_ok hsingle]
  simp only [hchosen]
  rw [run_bind_ok (hexpect _), run_bind_ok (run_charsUntil_value h rest), run_bind_ok (hexpect _)]
  rfl

/-- **An attribute is read as what it means.** -/
theorem run_valuedAttribute (h : a.IsWellFormed) (rest : List Char) :
    valuedAttribute.run (a.writeBehindGap ++ rest) = .ok (a.meaning, rest) := by
  have hdata : attributeData (writeData a.value) = .ok (settleSpaces (a.value.map DataChar.unit)) := by
    rw [attributeData, dataUnits_writeData fun d hd => (h.value d hd).1]
    rfl
  rw [valuedAttribute, run_bind_ok (run_writtenAttribute h rest)]
  simp only [String.toList_ofList, hdata]
  rfl

theorem WrittenAttribute.IsWellFormed.exists_cons (h : a.IsWellFormed) :
    ∃ c more, a.writeBehindGap = c :: more ∧ isNameStart c = true := by
  obtain ⟨c, more, hname, hc⟩ := h.name.exists_cons
  exact ⟨c, _, by rw [writeBehindGap, hname]; rfl, hc⟩

end Attributes

/-! ## Tags -/

section Tags

variable {attributes : List WrittenAttribute} {tag : WrittenTag} {outer : Scope} {space : List Char}

theorem head?_closing (isEmpty : Bool) (rest : List Char) :
    ∃ c more, closing isEmpty ++ rest = c :: more ∧ isXmlSpace c = false ∧ isNameChar c = false := by
  cases isEmpty with
  | true => exact ⟨'/', _, rfl, by decide, by decide⟩
  | false => exact ⟨'>', _, rfl, by decide, by decide⟩

/-- **The attributes of a tag are read**, and its end. -/
theorem run_tagRest (h : ∀ a ∈ attributes, a.IsWellFormed) (hs : IsSpace space) (isEmpty : Bool)
    (rest : List Char) {fuel : Nat} (hf : attributes.length < fuel) :
    (tagRest fuel).run
        (attributes.flatMap WrittenAttribute.write ++ (space ++ (closing isEmpty ++ rest))) =
      .ok ((attributes.map WrittenAttribute.meaning, isEmpty), rest) := by
  obtain ⟨fuel, rfl⟩ := Nat.exists_eq_succ_of_ne_zero (Nat.ne_zero_of_lt hf)
  induction attributes generalizing fuel with
  | nil =>
    have hspaces : spaces.run (space ++ (closing isEmpty ++ rest)) =
        .ok (decide (space ≠ []), closing isEmpty ++ rest) := by
      obtain ⟨c, more, hclosing, hc, -⟩ := head?_closing isEmpty rest
      rw [hclosing]
      exact run_spaces hs (forall_head?_cons hc more)
    rw [List.flatMap_nil, List.nil_append, tagRest, run_bind_ok hspaces]
    cases isEmpty <;> rfl
  | cons a attributes ih =>
    have ha := h a List.mem_cons_self
    rw [List.length_cons, Nat.succ_lt_succ_iff] at hf
    obtain ⟨fuel, rfl⟩ := Nat.exists_eq_succ_of_ne_zero (Nat.ne_zero_of_lt hf)
    have ih := ih (fun b hb => h b (List.mem_cons_of_mem _ hb)) fuel hf
    have hvalued := run_valuedAttribute ha
      (attributes.flatMap WrittenAttribute.write ++ (space ++ (closing isEmpty ++ rest)))
    obtain ⟨c, more, hcons, hc⟩ := ha.exists_cons
    have hspace : isXmlSpace c = false := isXmlSpace_of_isNameStart hc
    rw [List.flatMap_cons, List.append_assoc, WrittenAttribute.write, List.append_assoc, tagRest]
    rw [hcons] at hvalued ⊢
    rw [List.cons_append] at hvalued ⊢
    rw [run_bind_ok (run_spaces ha.gap (forall_head?_cons hspace _)),
      run_bind_ok (run_comesNext_of_ne rfl (ne_of_isNameStart hc (by decide)).symm _)]
    rw [if_neg Bool.false_ne_true,
      run_bind_ok (run_comesNext_of_ne rfl (ne_of_isNameStart hc (by decide)).symm _)]
    rw [if_neg Bool.false_ne_true, if_neg (by simp [ha.gap_ne_nil]), run_bind_ok hvalued, run_bind_ok ih]
    rfl

theorem length_le_flatMap_write (h : ∀ a ∈ attributes, a.IsWellFormed) :
    attributes.length ≤ (attributes.flatMap WrittenAttribute.write).length := by
  induction attributes with
  | nil => exact Nat.le_refl _
  | cons a attributes ih =>
    have hgap := List.length_pos_iff.mpr (h a List.mem_cons_self).gap_ne_nil
    have ih := ih fun b hb => h b (List.mem_cons_of_mem _ hb)
    rw [List.flatMap_cons, List.length_append, List.length_cons, WrittenAttribute.write, List.length_append]
    omega

/-- Behind the name of a tag there is white space, or the end of the tag. -/
theorem head?_behind_name (h : tag.IsWellFormed) (isEmpty : Bool) (rest : List Char) :
    ∀ c ∈ (tag.attributes.flatMap WrittenAttribute.write ++
      (tag.space ++ (closing isEmpty ++ rest))).head?, isNameChar c = false := by
  cases hattributes : tag.attributes with
  | nil =>
    obtain ⟨c, more, hclosing, -, hc⟩ := head?_closing isEmpty rest
    rw [hclosing]
    exact head?_space_append h.space (fun _ => isNameChar_of_isXmlSpace) hc more
  | cons a attributes =>
    have ha := h.attributes a (hattributes ▸ List.mem_cons_self)
    obtain ⟨c, more, hgap⟩ := List.exists_cons_of_ne_nil ha.gap_ne_nil
    have hc : isXmlSpace c = true := ha.gap c (hgap ▸ List.mem_cons_self)
    rw [List.flatMap_cons, WrittenAttribute.write, hgap]
    exact forall_head?_cons (isNameChar_of_isXmlSpace hc) _

/-- The scope inside an element is that of its tag. -/
theorem innerScope_meanings (h : tag.IsWellFormed) (hb : tag.IsBound outer) :
    innerScope outer tag.meanings = .ok (tag.scope outer) := by
  refine innerScope_of_hasNamespaces ?_ (fun a ha hempty => ?_) hb.attributes
  · simpa [WrittenTag.meanings, WrittenAttribute.meaning, Function.comp_def] using h.distinct
  · obtain ⟨written, hwritten, rfl⟩ := List.mem_map.mp ha
    obtain ⟨c, more, hname, -⟩ := (h.attributes written hwritten).name.localPart.exists_cons
    rw [show written.name.localPart = "" from hempty] at hname
    cases hname

/-- **A start tag is read.** -/
theorem run_startTag (h : tag.IsWellFormed) (hb : tag.IsBound outer) (isEmpty : Bool)
    (rest : List Char) :
    (startTag outer).run (tag.write isEmpty ++ rest) =
      .ok ((⟨tag.name, tag.scope outer, []⟩, isEmpty), rest) := by
  have hsplit : tag.write isEmpty ++ rest = '<' :: (tag.name.write ++
      (tag.attributes.flatMap WrittenAttribute.write ++ (tag.space ++ (closing isEmpty ++ rest)))) := by
    simp [WrittenTag.write]
  have hless : ∀ more, (expect "<").run ('<' :: more) = .ok ((), more) := run_expect "<"
  have hxmlns : tag.name.pre ≠ "xmlns" := by
    rcases hb.name with hnone | ⟨hne, -⟩
    · rw [hnone]
      decide
    · exact hne
  have hscope : (innerScope outer tag.meanings : XmlReader Scope).run rest =
      .ok (tag.scope outer, rest) := by
    rw [innerScope_meanings h hb]
    rfl
  have hknown : (tag.name.pre ≠ "" && ((tag.scope outer).lookup tag.name.pre).isNone) = false := by
    rcases hb.name with hnone | ⟨-, hsome⟩
    · simp [hnone]
    · simp [Option.isNone_eq_false_iff.mpr hsome]
  -- The fuel is what is left to read, of which each attribute takes at least one character.
  have hfuel : tag.attributes.length < (tag.attributes.flatMap WrittenAttribute.write ++
      (tag.space ++ (closing isEmpty ++ rest))).length + 1 := by
    have hle := length_le_flatMap_write h.attributes
    rw [List.length_append]
    omega
  have htags := run_tagRest h.attributes h.space isEmpty rest hfuel
  rw [← WrittenTag.meanings] at htags
  have hname := run_qname h.name (head?_behind_name h isEmpty rest)
  rw [hsplit, startTag, run_bind_ok (hless _), run_bind_ok hname, if_neg hxmlns, run_bind_ok (run_get _),
    run_bind_ok htags]
  dsimp only
  rw [run_bind_ok hscope, hknown]
  rfl

/-- **An end tag is read.** -/
theorem run_endTag (h : tag.name.IsWellFormed) (hs : IsSpace space) (rest : List Char) :
    endTag.run (tag.writeEnd space ++ rest) = .ok (tag.name, rest) := by
  have hsplit : tag.writeEnd space ++ rest =
      "</".toList ++ (tag.name.write ++ (space ++ '>' :: rest)) := by
    simp [WrittenTag.writeEnd]
  have hname := run_qname h (head?_space_append hs (fun _ => isNameChar_of_isXmlSpace)
    (by decide : isNameChar '>' = false) rest)
  have hspaces : spaces.run (space ++ '>' :: rest) = _ :=
    run_spaces hs (forall_head?_cons (by decide) rest)
  have hend : (expect ">").run ('>' :: rest) = .ok ((), rest) := run_expect ">" rest
  rw [hsplit, endTag, run_bind_ok (run_expect "</" _), run_bind_ok hname, run_bind_ok hspaces,
    run_bind_ok hend]
  rfl

end Tags

/-! ## Asides -/

section Asides

variable {target gap : List Char}

theorem infix_of_hyphensTouch (h : hyphensTouch cs = true) : "--".toList <:+: cs ++ ['-'] := by
  fun_induction hyphensTouch cs with
  | case1 => cases h
  | case2 => exact List.infix_refl _
  | case3 rest => exact (List.prefix_append "--".toList (rest ++ ['-'])).isInfix
  | case4 c rest _ _ ih => exact (ih h).trans (List.suffix_cons c _).isInfix

/-- **A comment is read.** -/
theorem run_comment (hc : ∀ c ∈ cs, isXmlChar c = true) (hh : ¬"--".toList <:+: cs ++ ['-'])
    (rest : List Char) : comment.run ((Aside.comment cs).write ++ rest) = .ok ((), rest) := by
  have hsplit : (Aside.comment cs).write ++ rest = "<!--".toList ++ (cs ++ ("-->".toList ++ rest)) := by
    simp [Aside.write]
  -- The end of the comment starts with two hyphens.
  have hend : ¬"-->".toList <:+: cs := fun hm =>
    hh (((List.prefix_append "--".toList ['>']).isInfix.trans hm).trans (List.prefix_append cs ['-']).isInfix)
  have htouch : hyphensTouch cs = false := Bool.eq_false_iff.mpr (mt infix_of_hyphensTouch hh)
  have hthrough : (charsThrough "-->").run (cs ++ ("-->".toList ++ rest)) = .ok (cs, rest) :=
    run_charsThrough "-->" "--".toList rfl (by decide) (by decide) hc hend rest
  rw [hsplit, comment, run_bind_ok (run_expect "<!--" _), run_bind_ok hthrough, htouch]
  rfl

/-- What stands behind the target of an instruction. -/
theorem isNameChar_behind_target (hg : IsSpace gap) (hb : gap = [] → cs = []) (rest : List Char) :
    ∀ c ∈ (gap ++ (cs ++ ("?>".toList ++ rest))).head?, isNameChar c = false := by
  cases gap with
  | nil =>
    rw [hb rfl]
    exact forall_head?_cons (by decide) _
  | cons c gap => exact forall_head?_cons (isNameChar_of_isXmlSpace (hg c List.mem_cons_self)) _

/-- **A processing instruction is read**, unless it looks like a declaration. -/
theorem run_instruction (hs : (target.head?.map isNameStart).getD false = true)
    (ht : ∀ c ∈ target, isNameChar c = true)
    (hx : ¬"<?xml ".toList <+: (Aside.instruction target gap cs).write ++ rest) (hg : IsSpace gap)
    (hb : gap = [] → cs = []) (hc : ∀ c ∈ cs, isXmlChar c = true)
    (hf : ∀ c ∈ cs.head?, isXmlSpace c = false) (he : ¬"?>".toList <:+: cs) :
    instruction.run ((Aside.instruction target gap cs).write ++ rest) = .ok ((), rest) := by
  have hsplit : (Aside.instruction target gap cs).write ++ rest =
      "<?".toList ++ (target ++ (gap ++ (cs ++ ("?>".toList ++ rest)))) := by
    simp [Aside.write]
  have hname : plainName.run (target ++ (gap ++ (cs ++ ("?>".toList ++ rest)))) =
      .ok ((), gap ++ (cs ++ ("?>".toList ++ rest))) := by
    cases target with
    | nil => cases hs
    | cons c target =>
      have hc : isNameStart c = true := hs
      change (if isNameStart c = true then Except.ok ((), (target ++ _).dropWhile isNameChar) else _) = _
      rw [if_pos hc, dropWhile_append (fun x hx => ht x (List.mem_cons_of_mem _ hx))
        (isNameChar_behind_target hg hb rest)]
  have hspaces : spaces.run (gap ++ (cs ++ ("?>".toList ++ rest))) =
      .ok (decide (gap ≠ []), cs ++ ("?>".toList ++ rest)) := by
    refine run_spaces hg ?_
    cases cs with
    | nil => exact forall_head?_cons (by decide) _
    | cons c cs => exact forall_head?_cons (hf c rfl) _
  have hthrough : (charsThrough "?>").run (cs ++ ("?>".toList ++ rest)) = .ok (cs, rest) :=
    run_charsThrough "?>" "?".toList rfl (by decide) (by decide) hc he rest
  rw [instruction, run_bind_ok (run_comesNext_of_not_isPrefix hx), if_neg Bool.false_ne_true, hsplit,
    run_bind_ok (run_expect "<?" _), run_bind_ok hname, run_bind_ok hspaces, run_bind_ok hthrough]
  rfl

/-- Only an instruction with the target `xml` looks like a declaration. -/
theorem not_isPrefix_of_target (ht : ∀ c ∈ target, isNameChar c = true)
    (hx : target.map Char.toLower ≠ "xml".toList) (hg : IsSpace gap) (hb : gap = [] → cs = []) :
    ¬"<?xml ".toList <+: (Aside.instruction target gap cs).write ++ rest := by
  rintro ⟨more, hmore⟩
  have hsplit : "xml".toList ++ ' ' :: more = target ++ (gap ++ (cs ++ ("?>".toList ++ rest))) := by
    simpa [Aside.write] using hmore
  -- Both sides have the same name in front.
  have hname : "xml".toList = target := by
    have htake := congrArg (List.takeWhile isNameChar) hsplit
    rwa [takeWhile_append (by decide) (forall_head?_cons (by decide) more),
      takeWhile_append ht (isNameChar_behind_target hg hb rest)] at htake
  rw [← hname] at hx
  exact hx (by decide)

/-- The reader of an aside. -/
def Aside.reader : Aside → XmlReader Unit
  | comment _ => Xml.comment
  | instruction .. => Xml.instruction

/-- **An aside is read.** -/
theorem Aside.IsWellFormed.run_reader {a : Aside} (h : a.IsWellFormed) (rest : List Char) :
    a.reader.run (a.write ++ rest) = .ok ((), rest) := by
  cases h with
  | comment hc hh => exact run_comment hc hh rest
  | instruction hs ht hx hg hb hc hf he =>
    exact run_instruction hs ht (not_isPrefix_of_target ht hx hg hb) hg hb hc hf he

end Asides

end NodeAgent.Xml
