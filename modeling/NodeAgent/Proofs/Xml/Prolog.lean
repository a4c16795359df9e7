import NodeAgent.Proofs.Xml.Content

/-!
# Reading what stands around the root

There may be a declaration at the start of a document, and asides with white space on both sides of the
root.  A declaration with some other white space than a space behind its name is taken for an instruction.

## Main definitions

* `EndsMargin`: what may stand behind a margin.
* `ReadsBehindSpace`: what is read behind white space.

## Main results

* `run_margin`: a margin is read.
* `run_declaration`, `exists_aside_of_declaration`: a declaration is read, as what it is or as an
  instruction.
* `exists_run_front`: everything in front of the root is read.
-/

namespace NodeAgent.Xml

open Text

/-! ## Margins -/

section Margins

variable {fuel : Nat} {a : Aside} {space tail rest : List Char}

/-- One aside is read, and the white space in front of it. -/
theorem run_asides_succ (hs : IsSpace space) (hread : a.reader.run (a.write ++ tail) = .ok ((), tail)) :
    (asides (fuel + 1)).run (space ++ (a.write ++ tail)) = (asides fuel).run tail := by
  have hspaces : spaces.run (space ++ (a.write ++ tail)) = .ok (decide (space ≠ []), a.write ++ tail) := by
    refine run_spaces hs ?_
    cases a <;> exact forall_head?_cons (by decide) _
  rw [asides, run_bind_ok hspaces]
  cases a with
  | comment cs =>
    have hnext : "<!--".toList <+: (Aside.comment cs).write ++ tail := by
      rw [Aside.write, List.append_assoc]
      exact List.prefix_append _ _
    rw [run_bind_ok (run_comesNext_of_isPrefix hnext), if_pos rfl]
    exact run_bind_ok hread
  | instruction target gap cs =>
    have hnext : "<?".toList <+: (Aside.instruction target gap cs).write ++ tail := by
      rw [Aside.write, List.append_assoc]
      exact List.prefix_append _ _
    have hother : ¬"<!--".toList <+: (Aside.instruction target gap cs).write ++ tail := by
      rintro ⟨more, hmore⟩
      exact absurd (List.cons.inj (List.cons.inj hmore).2).1 (by decide)
    rw [run_bind_ok (run_comesNext_of_not_isPrefix hother), if_neg Bool.false_ne_true,
      run_bind_ok (run_comesNext_of_isPrefix hnext), if_pos rfl]
    exact run_bind_ok hread

/-- What stands behind a margin: a start tag, or nothing. -/
def EndsMargin (rest : List Char) : Prop :=
  rest = [] ∨ ∃ c more, rest = '<' :: c :: more ∧ isNameStart c = true

theorem EndsMargin.run_comesNext (h : EndsMargin rest) (text : String) {x : Char} {xs : List Char}
    (ht : text.toList = '<' :: x :: xs) (hx : isNameStart x = false) :
    (Reader.comesNext text : XmlReader Bool).run rest = .ok (false, rest) := by
  refine run_comesNext_of_not_isPrefix fun hnext => ?_
  rw [ht] at hnext
  rcases h with rfl | ⟨c, more, rfl, hc⟩
  · exact absurd hnext (by simp)
  · rw [List.cons_prefix_cons, List.cons_prefix_cons] at hnext
    exact ne_of_isNameStart hc hx hnext.2.1.symm

/-- Asides are read one after the other, and the white space behind them. -/
theorem run_asides {margin : List (List Char × Aside)} (h : ∀ a ∈ margin, IsSpace a.1 ∧ a.2.IsWellFormed)
    (hs : IsSpace space) (hr : EndsMargin rest) (hf : margin.length < fuel) :
    (asides fuel).run ((margin.flatMap fun a => a.1 ++ a.2.write) ++ (space ++ rest)) = .ok ((), rest) := by
  induction margin generalizing fuel with
  | nil =>
    obtain ⟨fuel, rfl⟩ := Nat.exists_eq_succ_of_ne_zero (Nat.ne_zero_of_lt hf)
    have hspaces : spaces.run (space ++ rest) = .ok (decide (space ≠ []), rest) := by
      refine run_spaces hs ?_
      rcases hr with rfl | ⟨c, more, rfl, -⟩
      · intro c hc
        cases hc
      · exact forall_head?_cons (by decide) _
    rw [List.flatMap_nil, List.nil_append, asides, run_bind_ok hspaces,
      run_bind_ok (hr.run_comesNext "<!--" rfl (by decide)), if_neg Bool.false_ne_true,
      run_bind_ok (hr.run_comesNext "<?" rfl (by decide))]
    rfl
  | cons a margin ih =>
    obtain ⟨hspace, ha⟩ := h a List.mem_cons_self
    obtain ⟨fuel, rfl⟩ := Nat.exists_eq_succ_of_ne_zero (Nat.ne_zero_of_lt hf)
    rw [List.flatMap_cons, List.append_assoc, List.append_assoc,
      run_asides_succ hspace (ha.run_reader _)]
    exact ih (fun b hb => h b (List.mem_cons_of_mem _ hb)) (Nat.lt_of_succ_lt_succ hf)

theorem Margin.length_asides_le (m : Margin) : m.asides.length ≤ m.write.length := by
  rw [write, List.length_append]
  refine Nat.le_add_right_of_le ?_
  induction m.asides with
  | nil => exact Nat.le_refl _
  | cons a asides ih =>
    have hpos := List.length_pos_iff.mpr a.2.write_ne_nil
    rw [List.flatMap_cons, List.length_append, List.length_append, List.length_cons]
    omega

/-- **A margin is read**, with as much fuel as there are characters. -/
theorem run_margin {m : Margin} (h : m.IsWellFormed) (hr : EndsMargin rest)
    (hf : m.write.length < fuel) : (asides fuel).run (m.write ++ rest) = .ok ((), rest) := by
  rw [Margin.write, List.append_assoc]
  exact run_asides h.asides h.space hr (m.length_asides_le.trans_lt hf)

end Margins

/-! ## Declarations -/

section Declarations

variable {name : String} {part : WrittenAttribute} {d : Declaration} {reader : XmlReader Unit}
  {x : Char} {cs space rest : List Char}

/-- What is read behind white space, which may be missing in front of the end.  The character behind the
white space is known. -/
def ReadsBehindSpace (reader : XmlReader Unit) (x : Char) (cs rest : List Char) : Prop :=
  ∃ space more, cs = space ++ x :: more ∧ IsSpace space ∧ isXmlSpace x = false ∧
    (space ≠ [] ∨ "?>".toList <+: x :: more) ∧ reader.run (x :: more) = .ok ((), rest)

/-- A part starts with its name. -/
theorem IsPart.isPrefix (h : Declaration.IsPart name part) : name.toList <+: part.writeBehindGap := by
  rw [WrittenAttribute.writeBehindGap, h.name]
  exact List.prefix_append _ _

theorem IsPart.exists_cons (h : Declaration.IsPart name part) :
    ∃ x more, part.writeBehindGap = x :: more ∧ name.toList.head? = some x ∧ isNameStart x = true := by
  obtain ⟨x, xs, hx, hstart⟩ := h.wellFormed.name.localPart.exists_cons
  rw [h.name] at hx
  obtain ⟨tail, htail⟩ := IsPart.isPrefix h
  exact ⟨x, xs ++ tail, by rw [← htail, hx]; rfl, by rw [hx]; rfl, hstart⟩

/-- **A part of the declaration is read**, with the white space behind it. -/
theorem run_declarationPart (h : Declaration.IsPart name part) (hs : IsSpace space)
    (hx : isXmlSpace x = false) (hn : space ≠ [] ∨ "?>".toList <+: x :: rest) :
    (declarationPart name).run (part.writeBehindGap ++ (space ++ x :: rest)) = .ok ((), x :: rest) := by
  have hnext : name.toList <+: part.writeBehindGap ++ (space ++ x :: rest) :=
    (IsPart.isPrefix h).trans (List.prefix_append _ _)
  have hgoes : (!decide (space ≠ []) && !(afterPrefix? "?>".toList (x :: rest)).isSome) = false := by
    rcases hn with hn | hn
    · simp [hn]
    · rw [isSome_afterPrefix?_iff.mpr hn, Bool.not_true, Bool.and_false]
  have hspaces := run_spaces hs (forall_head?_cons hx rest)
  rw [declarationPart, run_bind_ok (run_comesNext_of_isPrefix hnext), if_pos rfl,
    run_bind_ok (run_writtenAttribute h.wellFormed _), run_bind_ok hspaces,
    run_bind_ok (run_comesNext _ _), hgoes]
  rfl

/-- A part that is not there is not read. -/
theorem run_declarationPart_absent {y : Char} (hy : name.toList.head? = some y) (hne : y ≠ x)
    (rest : List Char) : (declarationPart name).run (x :: rest) = .ok ((), x :: rest) := by
  obtain ⟨ys, hys⟩ := List.head?_eq_some_iff.mp hy
  rw [declarationPart, run_bind_ok (run_comesNext_of_ne hys hne rest)]
  rfl

/-- One part more is read in front of others. -/
theorem ReadsBehindSpace.cons (h : ReadsBehindSpace reader x cs rest)
    (hpart : Declaration.IsPart name part) :
    ∃ y, name.toList.head? = some y ∧
      ReadsBehindSpace (do declarationPart name; reader) y (part.write ++ cs) rest := by
  obtain ⟨space, more, rfl, hspace, hx, hend, hread⟩ := h
  obtain ⟨y, tail, hy, hname, hstart⟩ := IsPart.exists_cons hpart
  refine ⟨y, hname, part.gap, tail ++ (space ++ x :: more), ?_, hpart.wellFormed.gap, ?_,
    .inl hpart.wellFormed.gap_ne_nil, ?_⟩
  · rw [WrittenAttribute.write, hy]
    simp
  · exact isXmlSpace_of_isNameStart hstart
  · have hfirst := run_declarationPart hpart hspace hx hend
    rw [hy, List.cons_append] at hfirst
    rw [run_bind_ok hfirst, hread]

/-- A part that is not there is passed over. -/
theorem ReadsBehindSpace.skip (h : ReadsBehindSpace reader x cs rest) {y : Char}
    (hy : name.toList.head? = some y) (hne : y ≠ x) :
    ReadsBehindSpace (do declarationPart name; reader) x cs rest := by
  obtain ⟨space, more, rfl, hspace, hx, hend, hread⟩ := h
  refine ⟨space, more, rfl, hspace, hx, hend, ?_⟩
  rw [run_bind_ok (run_declarationPart_absent hy hne more), hread]

/-- What stands behind the version is read. -/
theorem exists_readsBehindSpace (h : d.IsWellFormed) (rest : List Char) :
    ∃ x, ReadsBehindSpace (do declarationPart "encoding"; declarationPart "standalone"; expect "?>") x
      (Declaration.writePart d.encoding ++ (Declaration.writePart d.standalone ++
        (d.space ++ ("?>".toList ++ rest)))) rest := by
  have hend : ReadsBehindSpace (expect "?>") '?' (d.space ++ ("?>".toList ++ rest)) rest :=
    ⟨d.space, '>' :: rest, rfl, h.space, by decide, .inr (List.prefix_append "?>".toList rest),
      run_expect "?>" rest⟩
  have hstandalone : ∃ x, x ≠ 'e' ∧
      ReadsBehindSpace (do declarationPart "standalone"; expect "?>") x
        (Declaration.writePart d.standalone ++ (d.space ++ ("?>".toList ++ rest))) rest := by
    cases hpart : d.standalone with
    | none => exact ⟨'?', by decide, hend.skip (y := 's') rfl (by decide)⟩
    | some part =>
      obtain ⟨x, hx, hread⟩ := hend.cons (h.standalone part hpart)
      obtain rfl : 's' = x := Option.some.inj hx
      exact ⟨'s', by decide, hread⟩
  obtain ⟨x, hx, hread⟩ := hstandalone
  cases hpart : d.encoding with
  | none => exact ⟨x, hread.skip (y := 'e') rfl hx.symm⟩
  | some part =>
    obtain ⟨y, -, hread⟩ := hread.cons (h.encoding part hpart)
    exact ⟨y, hread⟩

/-- **A declaration is read** if a space stands behind its name. -/
theorem run_declaration (h : d.IsWellFormed) (hgap : d.version.gap.head? = some ' ') (rest : List Char) :
    declaration.run (d.write ++ rest) = .ok ((), rest) := by
  obtain ⟨x, space, more, hcs, hspace, hx, hend, hread⟩ := exists_readsBehindSpace h rest
  have hsplit : d.write ++ rest = "<?xml".toList ++ (d.version.gap ++ (d.version.writeBehindGap ++
      (space ++ x :: more))) := by
    rw [← hcs]
    unfold Declaration.write
    simp only [WrittenAttribute.write, List.append_assoc]
  obtain ⟨y, tail, hy, hname, hstart⟩ := IsPart.exists_cons h.version
  have hfirst : "<?xml ".toList <+: d.write ++ rest := by
    obtain ⟨gap, hgap⟩ := List.head?_eq_some_iff.mp hgap
    rw [hsplit, hgap]
    exact List.prefix_append "<?xml ".toList _
  have hspaces : spaces.run (d.version.gap ++ (d.version.writeBehindGap ++ (space ++ x :: more))) =
      .ok (decide (d.version.gap ≠ []), d.version.writeBehindGap ++ (space ++ x :: more)) := by
    refine run_spaces h.version.wellFormed.gap ?_
    rw [hy]
    exact forall_head?_cons (isXmlSpace_of_isNameStart hstart) _
  have hversion : "version".toList <+: d.version.writeBehindGap ++ (space ++ x :: more) :=
    (IsPart.isPrefix h.version).trans (List.prefix_append _ _)
  rw [declaration, run_bind_ok (run_comesNext_of_isPrefix hfirst), if_pos rfl, hsplit,
    run_bind_ok (run_expect "<?xml" _), run_bind_ok hspaces, run_bind_ok (run_comesNext_of_isPrefix hversion),
    if_neg (by decide), run_bind_ok (run_declarationPart h.version hspace hx hend)]
  exact hread

/-- A part of a declaration holds no question mark. -/
theorem mem_write_of_isPart (h : Declaration.IsPart name part)
    (hname : ∀ c ∈ name.toList, isXmlChar c = true ∧ c ≠ '?') :
    ∀ c ∈ part.write, isXmlChar c = true ∧ c ≠ '?' := by
  have hspace : ∀ {space : List Char}, IsSpace space → ∀ c ∈ space, isXmlChar c = true ∧ c ≠ '?' := by
    intro space hs c hc
    refine ⟨isXmlChar_of_isXmlSpace (hs c hc), ?_⟩
    rintro rfl
    exact absurd (hs '?' hc) (by decide)
  have hquote : isXmlChar part.quote = true ∧ part.quote ≠ '?' := by
    rcases h.wellFormed.quote with hq | hq <;> rw [hq] <;> decide
  have hvalue : ∀ c ∈ writeData part.value, isXmlChar c = true ∧ c ≠ '?' := by
    intro c hc
    obtain ⟨d, hd, hc⟩ := List.mem_flatMap.mp hc
    obtain ⟨x, rfl, hquiet, hne⟩ := h.value d hd
    obtain rfl := List.mem_singleton.mp hc
    exact ⟨(Bool.and_eq_true_iff.mp hquiet).1, hne⟩
  intro c hc
  rw [WrittenAttribute.write, WrittenAttribute.writeBehindGap, h.name, QName.write, if_pos rfl] at hc
  simp only [List.nil_append, List.mem_append, List.mem_cons, List.not_mem_nil, or_false] at hc
  rcases hc with hc | hc | hc | rfl | hc | rfl | hc | rfl
  · exact hspace h.wellFormed.gap c hc
  · exact hname c hc
  · exact hspace h.wellFormed.beforeSign c hc
  · decide
  · exact hspace h.wellFormed.behindSign c hc
  · exact hquote
  · exact hvalue c hc
  · exact hquote

/-- Behind the name of a declaration there is no question mark up to its end. -/
theorem mem_write_of_isWellFormed (h : d.IsWellFormed) :
    ∀ c ∈ d.version.writeBehindGap ++
      (Declaration.writePart d.encoding ++ (Declaration.writePart d.standalone ++ d.space)),
      isXmlChar c = true ∧ c ≠ '?' := by
  have hpart : ∀ {name part}, (∀ c ∈ name.toList, isXmlChar c = true ∧ c ≠ '?') →
      (∀ p ∈ part, Declaration.IsPart name p) →
        ∀ c ∈ Declaration.writePart part, isXmlChar c = true ∧ c ≠ '?' := by
    intro name part hname hpart
    cases part with
    | none => exact fun c hc => absurd hc List.not_mem_nil
    | some p => exact mem_write_of_isPart (hpart p rfl) hname
  intro c hc
  simp only [List.mem_append] at hc
  rcases hc with hc | hc | hc | hc
  · exact mem_write_of_isPart h.version (by decide) c (List.mem_append_right _ hc)
  · exact hpart (by decide) h.encoding c hc
  · exact hpart (by decide) h.standalone c hc
  · refine ⟨isXmlChar_of_isXmlSpace (h.space c hc), ?_⟩
    rintro rfl
    exact absurd (h.space '?' hc) (by decide)

/-- **A declaration is taken for an instruction** if another white space stands behind its name. -/
theorem exists_aside_of_declaration (h : d.IsWellFormed) (hgap : d.version.gap.head? ≠ some ' ')
    (rest : List Char) :
    ¬"<?xml ".toList <+: d.write ++ rest ∧
      ∃ a : Aside, d.write = a.write ∧ a.reader.run (a.write ++ rest) = .ok ((), rest) := by
  have hwrite : d.write = (Aside.instruction "xml".toList d.version.gap (d.version.writeBehindGap ++
      (Declaration.writePart d.encoding ++ (Declaration.writePart d.standalone ++ d.space)))).write := by
    unfold Declaration.write Aside.write
    simp only [WrittenAttribute.write, List.append_assoc]
    rfl
  have hother : ¬"<?xml ".toList <+: d.write ++ rest := by
    obtain ⟨c, gap, hcons⟩ := List.exists_cons_of_ne_nil h.version.wellFormed.gap_ne_nil
    rintro ⟨more, hmore⟩
    unfold Declaration.write at hmore
    rw [WrittenAttribute.write, hcons] at hmore
    -- Behind the name, which both sides have in front, there is a space or something else.
    have hc : ' ' = c := Option.some.inj (congrArg (fun cs : List Char => cs[5]?) hmore)
    rw [hcons, ← hc] at hgap
    exact hgap rfl
  have hall := mem_write_of_isWellFormed h
  obtain ⟨x, more, hx, -, hstart⟩ := IsPart.exists_cons h.version
  refine ⟨hother, _, hwrite, ?_⟩
  refine run_instruction (by decide) (by decide) (hwrite ▸ hother) h.version.wellFormed.gap
    (fun hnil => absurd hnil h.version.wellFormed.gap_ne_nil) (fun c hc => (hall c hc).1) ?_
    fun hend => (hall '?' (hend.subset (by decide))).2 rfl
  rw [hx]
  exact forall_head?_cons (isXmlSpace_of_isNameStart hstart) _

end Declarations

/-! ## The front of a document -/

section Front

variable {d : WrittenDocument} {m : Margin} {rest : List Char}

/-- A margin is not taken for a declaration. -/
theorem Margin.IsWellFormed.not_isPrefix (h : m.IsWellFormed) (hr : EndsMargin rest) :
    ¬"<?xml ".toList <+: m.write ++ rest := by
  have hspace : ∀ {space cs : List Char}, IsSpace space → space ≠ [] →
      ¬"<?xml ".toList <+: space ++ cs := by
    rintro space cs hs hne ⟨more, hmore⟩
    obtain ⟨c, space, rfl⟩ := List.exists_cons_of_ne_nil hne
    obtain rfl : '<' = c := (List.cons.inj hmore).1
    exact absurd (hs '<' List.mem_cons_self) (by decide)
  rw [Margin.write]
  cases hasides : m.asides with
  | nil =>
    rw [List.flatMap_nil, List.nil_append]
    by_cases hnone : m.space = []
    · rw [hnone, List.nil_append]
      rintro ⟨more, hmore⟩
      rcases hr with rfl | ⟨c, tail, rfl, hc⟩
      · cases hmore
      · exact ne_of_isNameStart hc (by decide) (List.cons.inj (List.cons.inj hmore).2).1.symm
    · exact hspace h.space hnone
  | cons a asides =>
    obtain ⟨hs, ha⟩ := h.asides a (hasides ▸ List.mem_cons_self)
    rw [List.flatMap_cons, List.append_assoc, List.append_assoc, List.append_assoc]
    by_cases hnone : a.1 = []
    · rw [hnone, List.nil_append]
      generalize a.2 = aside at ha
      cases ha with
      | comment hc hh =>
        rintro ⟨more, hmore⟩
        exact absurd (List.cons.inj (List.cons.inj hmore).2).1 (by decide)
      | instruction _ ht hx hg hb => exact not_isPrefix_of_target ht hx hg hb
    · exact hspace hs hnone

theorem run_declaration_absent (h : ¬"<?xml ".toList <+: rest) : declaration.run rest = .ok ((), rest) := by
  rw [declaration, run_bind_ok (run_comesNext_of_not_isPrefix h)]
  rfl

/-- **What stands in front of the root is read.** -/
theorem exists_run_front (hd : ∀ declaration ∈ d.declaration, declaration.IsWellFormed)
    (hm : d.before.IsWellFormed) (hr : EndsMargin rest) (fuel : Nat)
    (hf : (d.declaration.elim [] Declaration.write ++ (d.before.write ++ rest)).length < fuel) :
    ∃ cs, declaration.run (d.declaration.elim [] Declaration.write ++ (d.before.write ++ rest)) =
        .ok ((), cs) ∧ (asides fuel).run cs = .ok ((), rest) := by
  rw [List.length_append, List.length_append] at hf
  cases hdeclaration : d.declaration with
  | none =>
    rw [Option.elim_none, List.nil_append]
    exact ⟨_, run_declaration_absent (hm.not_isPrefix hr), run_margin hm hr (by omega)⟩
  | some own =>
    have hown := hd own hdeclaration
    rw [hdeclaration, Option.elim_some] at hf
    rw [Option.elim_some]
    by_cases hgap : own.version.gap.head? = some ' '
    · exact ⟨_, run_declaration hown hgap _, run_margin hm hr (by omega)⟩
    · -- It is the first aside of the margin then.
      obtain ⟨hother, a, hwrite, hread⟩ := exists_aside_of_declaration hown hgap (d.before.write ++ rest)
      have hpos := List.length_pos_iff.mpr a.write_ne_nil
      rw [← hwrite] at hpos hread
      obtain ⟨fuel, rfl⟩ := Nat.exists_eq_succ_of_ne_zero (Nat.ne_zero_of_lt hf)
      have hfirst : (asides (fuel + 1)).run ([] ++ (own.write ++ (d.before.write ++ rest))) =
          (asides fuel).run (d.before.write ++ rest) := by
        rw [hwrite] at hread ⊢
        exact run_asides_succ (fun c hc => absurd hc List.not_mem_nil) hread
      exact ⟨_, run_declaration_absent hother, hfirst.trans (run_margin hm hr (by omega))⟩

end Front

end NodeAgent.Xml
