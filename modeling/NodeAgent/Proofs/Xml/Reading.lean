import NodeAgent.Proofs.Xml.Prolog

/-!
# Reading documents

A document that is well-formed and in which every prefix is bound is read as the tree of its root.

## Main definitions

* `Content.tree`: the tree of content that is one element.

## Main results

* `exists_run_root`: the root is read.
* `parseXml_text`: a document is read.
-/

namespace NodeAgent.Xml

open Text

variable {d : WrittenDocument} {c : Content}

/-- The tree of content that is one element. -/
def Content.tree : Content → XmlNode
  | element tag inner _ _ => (inner.into ⟨tag.name, tag.scope [], []⟩).node
  | empty tag _ => OpenElement.node ⟨tag.name, tag.scope [], []⟩
  | _ => .aside

/-- **The root is read**: its start tag, and the rest of it. -/
theorem exists_run_root (hr : WrittenDocument.IsRoot c) (hw : c.IsWellFormed) (hb : c.IsBound [])
    (rest : List Char) :
    ∃ tag isEmpty tail, c.write ++ rest = WrittenTag.write tag isEmpty ++ tail ∧
      tag.IsWellFormed ∧ tag.IsBound [] ∧ ∀ fuel, tail.length < fuel →
        (if isEmpty then pure (OpenElement.node ⟨tag.name, tag.scope [], []⟩)
          else content fuel ⟨tag.name, tag.scope [], []⟩ []).run tail = .ok (c.tree, rest) := by
  cases c with
  | nil | run | verbatim | aside => exact hr.elim
  | element tag inner space more =>
    cases more with
    | run | verbatim | aside | element | empty => exact hr.elim
    | nil =>
      obtain ⟨htag, hinner, hspace, -⟩ := hw
      obtain ⟨hbTag, hbInner, -⟩ := hb
      refine ⟨tag, false, inner.write ++ (tag.writeEnd space ++ rest), ?_, htag, hbTag, fun fuel hf => ?_⟩
      · simp only [Content.write, List.append_assoc, List.nil_append]
      · obtain ⟨left, hleft, hread⟩ := run_content hinner (e := ⟨tag.name, tag.scope [], []⟩) hbInner hf
        obtain ⟨left, rfl⟩ := Nat.exists_eq_succ_of_ne_zero (Nat.ne_zero_of_lt hleft)
        have hend : (content (left + 1) (inner.into ⟨tag.name, tag.scope [], []⟩) []).run
            (tag.writeEnd space ++ rest) = .ok ((inner.into ⟨tag.name, tag.scope [], []⟩).node, rest) :=
          run_content_end htag.name hspace (Content.name_into ⟨tag.name, tag.scope [], []⟩ inner)
        exact hread.trans hend
  | empty tag more =>
    cases more with
    | run | verbatim | aside | element | empty => exact hr.elim
    | nil =>
      refine ⟨tag, true, rest, ?_, hw.1, hb.1, fun _ _ => rfl⟩
      simp only [Content.write, List.append_nil]

theorem WrittenTag.IsWellFormed.endsMargin {tag : WrittenTag} (h : tag.IsWellFormed) (isEmpty : Bool)
    (tail : List Char) : EndsMargin (tag.write isEmpty ++ tail) := by
  obtain ⟨x, more, hx, hstart⟩ := h.name.exists_cons
  rw [WrittenTag.write, hx]
  exact .inr ⟨x, _, rfl, hstart⟩

/-- **A document is read.** -/
theorem run_document (h : d.IsWellFormed) (hb : d.IsBound) :
    document.run (d.declaration.elim [] Declaration.write ++
      (d.before.write ++ (d.root.write ++ d.behind.write))) = .ok (d.root.tree, []) := by
  obtain ⟨tag, isEmpty, tail, hroot, htag, hbTag, hread⟩ :=
    exists_run_root h.isRoot h.root hb d.behind.write
  have hends : EndsMargin (d.root.write ++ d.behind.write) := hroot ▸ htag.endsMargin isEmpty tail
  have hless : (Reader.comesNext "<" : XmlReader Bool).run (d.root.write ++ d.behind.write) =
      .ok (true, d.root.write ++ d.behind.write) := by
    rw [hroot]
    rfl
  have hstart : (startTag []).run (d.root.write ++ d.behind.write) = _ :=
    hroot ▸ run_startTag htag hbTag isEmpty tail
  generalize hcs : d.declaration.elim [] Declaration.write ++
    (d.before.write ++ (d.root.write ++ d.behind.write)) = cs
  have hlength : tail.length < cs.length + 1 ∧ d.behind.write.length < cs.length + 1 := by
    have hboth := congrArg List.length hroot
    rw [← hcs]
    simp only [List.length_append] at hboth ⊢
    omega
  obtain ⟨mid, hdeclaration, hfront⟩ := exists_run_front h.declaration h.before hends (cs.length + 1)
    (hcs ▸ Nat.lt_succ_self cs.length)
  rw [hcs] at hdeclaration
  have hbehind : (asides (cs.length + 1)).run d.behind.write = .ok ((), []) := by
    have hmargin := run_margin h.behind (.inl rfl : EndsMargin []) hlength.2
    rwa [List.append_nil] at hmargin
  rw [document, run_bind_ok (run_get _), run_bind_ok hdeclaration, run_bind_ok hfront,
    run_bind_ok (hends.run_comesNext "<!DOCTYPE" rfl (by decide)), if_neg Bool.false_ne_true,
    run_bind_ok hless, if_neg (by decide), run_bind_ok hstart]
  have hnode := hread _ hlength.1
  cases isEmpty with
  | true =>
    rw [if_pos rfl] at hnode
    change StateT.run (pure (OpenElement.node ⟨tag.name, tag.scope [], []⟩) >>= _) _ = _
    rw [run_bind_ok hnode, run_bind_ok hbehind]
    rfl
  | false =>
    rw [if_neg Bool.false_ne_true] at hnode
    change StateT.run (content _ _ _ >>= _) _ = _
    rw [run_bind_ok hnode, run_bind_ok hbehind]
    rfl

/-- **A document is read** as the tree of its root, whether or not a byte order mark is in front. -/
theorem parseXml_text (h : d.IsWellFormed) (hb : d.IsBound) : parseXml d.text = .ok d.root.tree := by
  have hrun := run_document h hb
  generalize hcs : d.declaration.elim [] Declaration.write ++
    (d.before.write ++ (d.root.write ++ d.behind.write)) = cs at hrun
  rw [parseXml, WrittenDocument.text, String.toList_ofList, WrittenDocument.write, hcs]
  cases d.hasMark with
  | true =>
    change (document.run cs).map _ = _
    rw [hrun]
    rfl
  | false =>
    rw [if_neg Bool.false_ne_true, List.nil_append]
    split
    · next rest =>
      -- What was read does not start with a mark.
      have hnone : document.run ('\uFEFF' :: rest) = .error .noRoot := rfl
      cases hnone.symm.trans hrun
    · rw [hrun]
      rfl

end NodeAgent.Xml
