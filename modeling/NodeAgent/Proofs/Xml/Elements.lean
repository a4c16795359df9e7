import NodeAgent.Proofs.Xml.Reading

/-!
# Finding elements of a document

The first element of a name is found wherever it stands in a document, and the characters that it holds are
read back.

## Main definitions

* `Content.node`: the element of a name with certain content.

## Main results

* `find?_tree`: the first element of a name is found.
* `leadingText_node`: the characters that an element holds are its text.
* `elementText?_text`: the text of the first element of a name in a document.
-/

namespace NodeAgent.Xml

open Text XmlNode

variable {name : String} {e e' : OpenElement} {c inner : Content} {cs : List Char}

/-! ## Children -/

theorem children_add_congr (h : e.children = e'.children) (node : XmlNode) :
    (e.add node).children = (e'.add node).children := by
  unfold OpenElement.add
  rw [h]
  split <;> rfl

/-- The children that content adds do not depend on the element around it. -/
theorem children_into_congr (h : e.children = e'.children) :
    (c.into e).children = (c.into e').children := by
  induction c generalizing e e' with
  | nil => exact h
  | run _ _ ih | verbatim _ _ ih | aside _ _ ih => exact ih (children_add_congr h _)
  | element tag inner space rest ihInner ihRest =>
    -- The scope around an element matters to its names, but not to its node.
    have hchildren : (inner.into ⟨tag.name, tag.scope e.scope, []⟩).children =
        (inner.into ⟨tag.name, tag.scope e'.scope, []⟩).children := ihInner rfl
    have hnode : (inner.into ⟨tag.name, tag.scope e.scope, []⟩).node =
        (inner.into ⟨tag.name, tag.scope e'.scope, []⟩).node := by
      rw [OpenElement.node, OpenElement.node, Content.name_into, Content.name_into, hchildren]
    rw [Content.into, Content.into, hnode]
    exact ihRest (children_add_congr h _)
  | empty tag rest ih =>
    rw [Content.into, Content.into, OpenElement.node, OpenElement.node]
    exact ih (children_add_congr h _)

/-- **The element of a name with certain content.** -/
def Content.node (name : String) (inner : Content) : XmlNode :=
  .element name (inner.into ⟨⟨"", name⟩, [], []⟩).children.reverse

theorem node_into_eq (he : e.children = []) (c : Content) :
    (c.into e).node = c.node e.name.localPart := by
  have hchildren : (c.into e).children = (c.into ⟨⟨"", e.name.localPart⟩, [], []⟩).children :=
    children_into_congr he
  rw [OpenElement.node, Content.name_into, Content.node, hchildren]

/-! ## Finding elements -/

theorem findAmong?_append (xs ys : List XmlNode) :
    findAmong? name (xs ++ ys) = (findAmong? name xs).or (findAmong? name ys) := by
  induction xs with
  | nil => rfl
  | cons x xs ih => rw [List.cons_append, findAmong?, findAmong?, ih, Option.or_assoc]

theorem findAmong?_singleton (x : XmlNode) : findAmong? name [x] = find? name x := by
  rw [findAmong?, findAmong?, Option.or_none]

/-- A child is found if nothing before it is. -/
theorem findAmong?_add (e : OpenElement) (node : XmlNode) :
    findAmong? name (e.add node).children.reverse =
      (findAmong? name e.children.reverse).or (find? name node) := by
  unfold OpenElement.add
  split
  · next s t before hchildren =>
    -- Texts next to each other are one, but no text is an element.
    rw [hchildren, List.reverse_cons, List.reverse_cons, findAmong?_append, findAmong?_append,
      findAmong?_singleton, findAmong?_singleton, find?, find?, find?, Option.or_none, Option.or_none]
  · rw [List.reverse_cons, findAmong?_append, findAmong?_singleton]

/-- An element and what comes behind it, as found by name. -/
theorem find?_or_eq {part : String} (inner rest : Content)
    (h : findAmong? name (inner.into ⟨⟨"", part⟩, [], []⟩).children.reverse =
      (findAmong? name []).or ((inner.elements.lookup name).map (Content.node name))) :
    (find? name (inner.node part)).or ((rest.elements.lookup name).map (Content.node name)) =
      (((part, inner) :: (inner.elements ++ rest.elements)).lookup name).map (Content.node name) := by
  rw [Content.node, find?, List.lookup_cons]
  by_cases hname : part = name
  · subst hname
    rw [if_pos rfl, beq_self_eq_true]
    rfl
  · rw [if_neg hname, beq_false_of_ne (Ne.symm hname), h, findAmong?, Option.none_or]
    simp only [List.lookup_append, Option.map_or]

/-- **The first element of a name in content is found**, if nothing before the content is. -/
theorem findAmong?_into (c : Content) (e : OpenElement) :
    findAmong? name (c.into e).children.reverse =
      (findAmong? name e.children.reverse).or ((c.elements.lookup name).map (Content.node name)) := by
  induction c generalizing e with
  | nil => simp [Content.into, Content.elements]
  | run _ _ ih | verbatim _ _ ih | aside _ _ ih =>
    rw [Content.into, ih, findAmong?_add, find?, Option.or_none]
    rfl
  | element tag inner space rest ihInner ihRest =>
    rw [Content.into, ihRest, findAmong?_add, Option.or_assoc, node_into_eq rfl]
    exact congrArg _ (find?_or_eq inner rest (ihInner ⟨⟨"", tag.name.localPart⟩, [], []⟩))
  | empty tag rest ih =>
    rw [Content.into, ih, findAmong?_add, Option.or_assoc]
    exact congrArg _ (find?_or_eq .nil rest rfl)

/-- **The first element of a name in a document is found.** -/
theorem find?_tree (h : WrittenDocument.IsRoot c) (name : String) :
    c.tree.find? name = (c.elements.lookup name).map (Content.node name) := by
  -- The root is the only child that it adds to an element around it.
  have hchild : ∀ e : OpenElement, e.children = [] → e.scope = [] → (c.into e).children = [c.tree] := by
    rintro ⟨own, scope, children⟩ rfl rfl
    cases c with
    | nil | run | verbatim | aside => exact h.elim
    | element tag inner space more =>
      cases more with
      | run | verbatim | aside | element | empty => exact h.elim
      | nil => rfl
    | empty tag more =>
      cases more with
      | run | verbatim | aside | element | empty => exact h.elim
      | nil => rfl
  have hfind : findAmong? name (c.into ⟨⟨"", ""⟩, [], []⟩).children.reverse = _ := findAmong?_into c _
  rwa [hchild _ rfl rfl, List.reverse_singleton, findAmong?_singleton, List.reverse_nil, findAmong?,
    Option.none_or] at hfind

/-! ## Text -/

/-- Character data without carriage returns is read as its characters. -/
theorem settleLines_unit {data : List DataChar} (h : '\r' ∉ data.map DataChar.char) :
    settleLines [] false (data.map DataChar.unit) = data.map DataChar.char := by
  have hunits : ∀ u ∈ data.map DataChar.unit, u.char ≠ '\r' := by
    intro u hu he
    obtain ⟨d, hd, rfl⟩ := List.mem_map.mp hu
    rw [DataChar.char_unit] at he
    exact h (he ▸ List.mem_map_of_mem hd)
  rw [settleLines_of_forall hunits List.not_mem_nil, List.reverse_nil, List.nil_append, List.map_map]
  exact List.map_congr_left fun d _ => d.char_unit

theorem verbatimData_of_not_mem (h : '\r' ∉ cs) : verbatimData cs = cs := by
  have hunits : ∀ u ∈ cs.map DataUnit.written, u.char ≠ '\r' := by
    intro u hu he
    obtain ⟨c, hc, rfl⟩ := List.mem_map.mp hu
    exact h (he ▸ hc)
  rw [verbatimData, settleLines_of_forall hunits List.not_mem_nil, List.reverse_nil, List.nil_append,
    List.map_map]
  exact List.map_id' cs

/-- Characters are put behind the text in front of them. -/
theorem children_into_of_holds (h : inner.Holds cs) (hr : '\r' ∉ cs) {s : String}
    (he : e.children = [.text s]) : (inner.into e).children = [.text (s ++ String.ofList cs)] := by
  have hadd : ∀ (e : OpenElement) s t, e.children = [.text s] →
      (e.add (.text t)).children = [.text (s ++ t)] := by
    rintro ⟨own, scope, children⟩ s t rfl
    rfl
  induction h generalizing e s with
  | nil => rw [Content.into, he, String.ofList_nil, String.append_empty]
  | run data _ ih =>
    rw [List.mem_append, not_or] at hr
    rw [Content.into, settleLines_unit hr.1, ih hr.2 (hadd e s _ he), String.ofList_append,
      String.append_assoc]
  | verbatim verbatim _ ih =>
    rw [List.mem_append, not_or] at hr
    rw [Content.into, verbatimData_of_not_mem hr.1, ih hr.2 (hadd e s _ he), String.ofList_append,
      String.append_assoc]

/-- **The characters that an element holds** are its text. -/
theorem leadingText_node (h : inner.Holds cs) (hr : '\r' ∉ cs) (name : String) :
    (inner.node name).leadingText = String.ofList cs := by
  have hfirst : ∀ own scope t,
      ((⟨own, scope, []⟩ : OpenElement).add (.text t)).children = [.text t] := fun _ _ _ => rfl
  rw [Content.node]
  cases h with
  | nil => rfl
  | run data hrest =>
    rw [List.mem_append, not_or] at hr
    rw [Content.into, settleLines_unit hr.1, children_into_of_holds hrest hr.2 (hfirst _ _ _),
      ← String.ofList_append]
    rfl
  | verbatim verbatim hrest =>
    rw [List.mem_append, not_or] at hr
    rw [Content.into, verbatimData_of_not_mem hr.1, children_into_of_holds hrest hr.2 (hfirst _ _ _),
      ← String.ofList_append]
    rfl

/-- **The text of the first element of a name in a document** is what it holds. -/
theorem elementText?_text {d : WrittenDocument} (h : d.IsWellFormed) (hb : d.IsBound)
    (hfirst : d.root.elements.lookup name = some inner) (hholds : inner.Holds cs) (hr : '\r' ∉ cs) :
    elementText? name d.text = .ok (some (trim (String.ofList cs))) := by
  rw [elementText?, parseXml_text h hb]
  change Except.ok ((d.root.tree.find? name).map _) = _
  rw [find?_tree h.isRoot, hfirst, Option.map_some, Option.map_some, leadingText_node hholds hr]

end NodeAgent.Xml
