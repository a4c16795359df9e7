import NodeAgent.Proofs.Xml.Tag

/-!
# Reading content

The content of an element is read part by part, up to the end tag.  An open element takes in what is read,
and becomes a child of the element around it at its end.

## Main definitions

* `Content.into`: what content adds to an element around it.
* `goOn`: how reading goes on behind an element.

## Main results

* `run_content_end`, `run_content_tag`, `run_content_aside`, `run_content_verbatim`, `run_content_run`: one
  round of reading for each kind of content.
* `run_content`: content is read.
-/

namespace NodeAgent.Xml

open Text

/-! ## Elements that are being read -/

section OpenElements

variable (e : OpenElement) (node : XmlNode)

@[simp] theorem OpenElement.name_add : (e.add node).name = e.name := by
  unfold add
  split <;> rfl

@[simp] theorem OpenElement.scope_add : (e.add node).scope = e.scope := by
  unfold add
  split <;> rfl

/-- **What content adds to an element around it**, part by part. -/
def Content.into : Content → OpenElement → OpenElement
  | nil, e => e
  | run data rest, e =>
    rest.into (e.add (.text (String.ofList (settleLines [] false (data.map DataChar.unit)))))
  | verbatim cs rest, e => rest.into (e.add (.text (String.ofList (verbatimData cs))))
  | aside _ rest, e => rest.into (e.add .aside)
  | element tag inner _ rest, e =>
    rest.into (e.add (inner.into ⟨tag.name, tag.scope e.scope, []⟩).node)
  | empty tag rest, e => rest.into (e.add (OpenElement.node ⟨tag.name, tag.scope e.scope, []⟩))

@[simp] theorem Content.name_into (c : Content) : (c.into e).name = e.name := by
  induction c generalizing e with
  | nil => rfl
  | run _ _ ih | verbatim _ _ ih | aside _ _ ih | empty _ _ ih => rw [into, ih, OpenElement.name_add]
  | element _ _ _ _ _ ih => rw [into, ih, OpenElement.name_add]

end OpenElements

/-! ## One round of reading -/

section Rounds

variable {current : OpenElement} {around : List OpenElement} {fuel : Nat} {rest : List Char}
  {tag : WrittenTag} {space cs : List Char}

/-- Goes on behind an element. -/
def goOn (fuel : Nat) (node : XmlNode) : List OpenElement → XmlReader XmlNode
  | [] => pure node
  | outer :: more => content fuel (outer.add node) more

/-- An end tag ends the innermost element. -/
theorem run_content_end (h : tag.name.IsWellFormed) (hs : IsSpace space) (hc : current.name = tag.name) :
    (content (fuel + 1) current around).run (tag.writeEnd space ++ rest) =
      (goOn fuel current.node around).run rest := by
  have hread := run_endTag h hs rest
  rw [content.eq_def, run_bind_ok (run_get _)]
  change StateT.run (endTag >>= _) _ = _
  rw [run_bind_ok hread, hc]
  cases around <;> simp [goOn]

/-- Behind the angle bracket of a start tag stands a letter, so that this is no other kind of markup. -/
theorem run_content_tag (h : tag.IsWellFormed) (hb : tag.IsBound current.scope) (isEmpty : Bool) :
    (content (fuel + 1) current around).run (tag.write isEmpty ++ rest) =
      (if isEmpty then content fuel (current.add (OpenElement.node ⟨tag.name, tag.scope current.scope, []⟩))
          around
        else content fuel ⟨tag.name, tag.scope current.scope, []⟩ (current :: around)).run rest := by
  have hread := run_startTag h hb isEmpty rest
  obtain ⟨c, more, hl, hc⟩ := h.name.exists_cons
  rw [content.eq_def, run_bind_ok (run_get _)]
  rw [WrittenTag.write, hl] at hread ⊢
  simp only [List.cons_append] at hread ⊢
  split
  · next heq => cases heq
  · next heq => exact absurd (List.cons.inj (List.cons.inj heq).2).1 (ne_of_isNameStart hc (by decide))
  · next heq => exact absurd (List.cons.inj (List.cons.inj heq).2).1 (ne_of_isNameStart hc (by decide))
  · next heq => exact absurd (List.cons.inj (List.cons.inj heq).2).1 (ne_of_isNameStart hc (by decide))
  · next heq => exact absurd (List.cons.inj (List.cons.inj heq).2).1 (ne_of_isNameStart hc (by decide))
  · rw [run_bind_ok hread]
  · next hne heq => exact (hne (List.cons.inj heq).1.symm).elim

/-- A comment or an instruction becomes a child. -/
theorem run_content_aside {a : Aside} (h : a.IsWellFormed) :
    (content (fuel + 1) current around).run (a.write ++ rest) =
      (content fuel (current.add .aside) around).run rest := by
  have hread := h.run_reader rest
  rw [content.eq_def, run_bind_ok (run_get _)]
  cases a with
  | comment cs =>
    change StateT.run (comment >>= _) _ = _
    exact run_bind_ok hread
  | instruction target gap cs =>
    change StateT.run (instruction >>= _) _ = _
    exact run_bind_ok hread

/-- Verbatim text becomes a child. -/
theorem run_content_verbatim (h : ∀ c ∈ cs, isXmlChar c = true) (he : ¬HoldsEnd cs) :
    (content (fuel + 1) current around).run (writeVerbatim cs ++ rest) =
      (content fuel (current.add (.text (String.ofList (verbatimData cs)))) around).run rest := by
  have hthrough : (charsThrough "]]>").run (cs ++ ("]]>".toList ++ rest)) = .ok (cs, rest) :=
    run_charsThrough "]]>" "]]".toList rfl (by decide) (by decide) h he rest
  unfold writeVerbatim
  rw [List.append_assoc, List.append_assoc, content.eq_def, run_bind_ok (run_get _)]
  change StateT.run (expect "<![CDATA[" >>= _) _ = _
  rw [run_bind_ok (run_expect _ _), run_bind_ok hthrough]

/-- Character data becomes a child. -/
theorem run_content_run {data : List DataChar} (hne : data ≠ []) (h : ∀ d ∈ data, d.IsWellFormed)
    (hm : ¬HoldsEnd (writeData data)) :
    (content (fuel + 1) current around).run (writeData data ++ '<' :: rest) =
      (content fuel (current.add (.text (String.ofList (settleLines [] false (data.map DataChar.unit)))))
        around).run ('<' :: rest) := by
  have hread := run_textRun h hm rest
  -- Character data does not start with an angle bracket.
  obtain ⟨x, more, hx, hless⟩ : ∃ x more, writeData data = x :: more ∧ x ≠ '<' := by
    obtain ⟨d, tail, rfl⟩ := List.exists_cons_of_ne_nil hne
    obtain ⟨x, more, hx⟩ := List.exists_cons_of_ne_nil d.write_ne_nil
    have hmem : x ∈ d.write := hx ▸ List.mem_cons_self
    exact ⟨x, more ++ writeData tail, by rw [writeData_cons, hx]; rfl,
      ((h d List.mem_cons_self).mem_write hmem).2.1⟩
  rw [content.eq_def, run_bind_ok (run_get _)]
  rw [hx] at hread ⊢
  simp only [List.cons_append] at hread ⊢
  split
  · next heq => cases heq
  · next heq => exact absurd (List.cons.inj heq).1 hless
  · next heq => exact absurd (List.cons.inj heq).1 hless
  · next heq => exact absurd (List.cons.inj heq).1 hless
  · next heq => exact absurd (List.cons.inj heq).1 hless
  · next heq => exact absurd (List.cons.inj heq).1 hless
  · rw [run_bind_ok hread]

end Rounds

/-! ## Content -/

section Contents

variable {c : Content} {e : OpenElement} {around : List OpenElement} {fuel : Nat}

/-- What is not character data starts with an angle bracket. -/
theorem Content.exists_write_eq_cons (h : ¬c.StartsWithRun) (rest : List Char) :
    ∃ tail, c.write ++ '<' :: rest = '<' :: tail := by
  cases c with
  | nil => exact ⟨rest, rfl⟩
  | run => exact absurd trivial h
  | verbatim | element | empty => exact ⟨_, rfl⟩
  | aside a => cases a <;> exact ⟨_, rfl⟩

/-- A round that reads something leaves enough fuel. -/
theorem length_lt_of_append {part rest : List Char} (hp : part ≠ [])
    (hf : (part ++ rest).length < fuel + 1) : rest.length < fuel := by
  have hpos := List.length_pos_iff.mpr hp
  rw [List.length_append] at hf
  omega

theorem Aside.write_ne_nil (a : Aside) : a.write ≠ [] := by
  cases a <;> exact List.cons_ne_nil _ _

/-- **Content is read** up to the end tag behind it, with enough fuel left for the rest. -/
theorem run_content (hw : c.IsWellFormed) (hb : c.IsBound e.scope) {rest : List Char}
    (hf : (c.write ++ '<' :: rest).length < fuel) :
    ∃ left, ('<' :: rest).length < left ∧
      (content fuel e around).run (c.write ++ '<' :: rest) =
        (content left (c.into e) around).run ('<' :: rest) := by
  induction c generalizing e around fuel rest with
  | nil => exact ⟨fuel, hf, rfl⟩
  | run data more ih =>
    obtain ⟨hne, hdata, hmark, hstart, hmore⟩ := hw
    obtain ⟨fuel, rfl⟩ := Nat.exists_eq_succ_of_ne_zero (Nat.ne_zero_of_lt hf)
    have hdata_ne : writeData data ≠ [] := by
      obtain ⟨d, tail, rfl⟩ := List.exists_cons_of_ne_nil hne
      exact List.append_ne_nil_of_left_ne_nil d.write_ne_nil _
    rw [Content.write, List.append_assoc] at hf ⊢
    obtain ⟨tail, htail⟩ := more.exists_write_eq_cons hstart rest
    rw [htail, run_content_run hne hdata hmark, ← htail]
    exact ih hmore ((OpenElement.scope_add _ _).symm ▸ hb) (length_lt_of_append hdata_ne hf)
  | verbatim cs more ih =>
    obtain ⟨hcs, hend, hmore⟩ := hw
    obtain ⟨fuel, rfl⟩ := Nat.exists_eq_succ_of_ne_zero (Nat.ne_zero_of_lt hf)
    rw [Content.write, List.append_assoc] at hf ⊢
    rw [run_content_verbatim hcs hend]
    exact ih hmore ((OpenElement.scope_add _ _).symm ▸ hb) (length_lt_of_append (List.cons_ne_nil _ _) hf)
  | aside a more ih =>
    obtain ⟨ha, hmore⟩ := hw
    obtain ⟨fuel, rfl⟩ := Nat.exists_eq_succ_of_ne_zero (Nat.ne_zero_of_lt hf)
    rw [Content.write, List.append_assoc] at hf ⊢
    rw [run_content_aside ha]
    exact ih hmore ((OpenElement.scope_add _ _).symm ▸ hb) (length_lt_of_append a.write_ne_nil hf)
  | element tag inner space more ihInner ihMore =>
    obtain ⟨htag, hinner, hspace, hmore⟩ := hw
    obtain ⟨hbTag, hbInner, hbMore⟩ := hb
    obtain ⟨fuel, rfl⟩ := Nat.exists_eq_succ_of_ne_zero (Nat.ne_zero_of_lt hf)
    rw [Content.write] at hf ⊢
    simp only [List.append_assoc] at hf ⊢
    -- The start tag opens an element, and what is in it is read up to the end tag.
    rw [run_content_tag htag hbTag, if_neg Bool.false_ne_true]
    obtain ⟨left, hleft, hread⟩ := ihInner hinner (e := ⟨tag.name, tag.scope e.scope, []⟩) hbInner
      (length_lt_of_append (List.cons_ne_nil _ _) hf)
    obtain ⟨left, rfl⟩ := Nat.exists_eq_succ_of_ne_zero (Nat.ne_zero_of_lt hleft)
    have hend : (content (left + 1) (inner.into ⟨tag.name, tag.scope e.scope, []⟩) (e :: around)).run
          (tag.writeEnd space ++ (more.write ++ '<' :: rest)) =
        (content left (e.add (inner.into ⟨tag.name, tag.scope e.scope, []⟩).node) around).run
          (more.write ++ '<' :: rest) :=
      run_content_end htag.name hspace (Content.name_into ⟨tag.name, tag.scope e.scope, []⟩ inner)
    -- It becomes a child of the element around it, whose content goes on.
    obtain ⟨last, hlast, hrest⟩ := ihMore hmore
      (e := e.add (inner.into ⟨tag.name, tag.scope e.scope, []⟩).node)
      ((OpenElement.scope_add _ _).symm ▸ hbMore) (length_lt_of_append (List.cons_ne_nil _ _) hleft)
    exact ⟨last, hlast, hread.trans (hend.trans hrest)⟩
  | empty tag more ih =>
    obtain ⟨htag, hmore⟩ := hw
    obtain ⟨hbTag, hbMore⟩ := hb
    obtain ⟨fuel, rfl⟩ := Nat.exists_eq_succ_of_ne_zero (Nat.ne_zero_of_lt hf)
    rw [Content.write, List.append_assoc] at hf ⊢
    rw [run_content_tag htag hbTag, if_pos rfl]
    exact ih hmore (by simpa using hbMore) (length_lt_of_append (List.cons_ne_nil _ _) hf)

end Contents

end NodeAgent.Xml
