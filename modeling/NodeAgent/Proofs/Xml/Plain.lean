import NodeAgent.Proofs.Xml.Elements

/-!
# Plain documents

A plain document is made of elements without attributes that hold elements, or nothing but text.  In the
text, the characters that mean something to a reader are written as references.  Such a document is read
as it was written.

## Main definitions

* `escape`: a text as it is written in a document.
* `IsWritten`: plain documents, and how they are written.

## Main results

* `IsWritten.exists_isContent`: plain documents are documents as they are written otherwise.
* `parseXml_of_isWritten`: documents are read back.
-/

namespace NodeAgent.Xml

open Text

/-! ## Text -/

/-- A character as it is written in a document. -/
def escapeChar (c : Char) : List Char :=
  match c with
  | '&' => "&amp;".toList
  | '<' => "&lt;".toList
  | '>' => "&gt;".toList
  | c => [c]

/-- **A text as it is written in a document.** -/
def escape (cs : List Char) : List Char :=
  cs.flatMap escapeChar

/-- Whether a text can be written as the text of an element. -/
def IsPlainText (text : String) : Prop :=
  text ≠ "" ∧ ∀ c ∈ text.toList, isXmlChar c = true ∧ c ≠ '\r'

/-- What is written for a character, as a character or a reference. -/
def escapeData (c : Char) : DataChar :=
  match c with
  | '&' => .reference "amp".toList '&'
  | '<' => .reference "lt".toList '<'
  | '>' => .reference "gt".toList '>'
  | c => .plain c

variable {name text : String} {c : Char} {cs : List Char}

theorem escapeData_cases (c : Char) :
    (c = '&' ∨ c = '<' ∨ c = '>') ∨ escapeChar c = [c] ∧ escapeData c = .plain c ∧ c ≠ '&' ∧ c ≠ '<' ∧
      c ≠ '>' := by
  by_cases ha : c = '&'
  · exact .inl (.inl ha)
  · by_cases hl : c = '<'
    · exact .inl (.inr (.inl hl))
    · by_cases hg : c = '>'
      · exact .inl (.inr (.inr hg))
      · refine .inr ⟨?_, ?_, ha, hl, hg⟩
        · unfold escapeChar
          split <;> first | contradiction | rfl
        · unfold escapeData
          split <;> first | contradiction | rfl

theorem write_escapeData (c : Char) : (escapeData c).write = escapeChar c := by
  rcases escapeData_cases c with (rfl | rfl | rfl) | ⟨hc, hd, -⟩
  · rfl
  · rfl
  · rfl
  · rw [hc, hd, DataChar.write]

theorem char_escapeData (c : Char) : (escapeData c).char = c := by
  rcases escapeData_cases c with (rfl | rfl | rfl) | ⟨-, hd, -⟩
  · rfl
  · rfl
  · rfl
  · rw [hd, DataChar.char]

theorem writeData_escapeData (cs : List Char) : writeData (cs.map escapeData) = escape cs := by
  rw [writeData, escape, List.flatMap_map]
  exact List.flatMap_congr fun c _ => write_escapeData c

theorem isWellFormed_escapeData (hc : isXmlChar c = true) : (escapeData c).IsWellFormed := by
  rcases escapeData_cases c with (rfl | rfl | rfl) | ⟨-, hd, ha, hl, -⟩
  · exact .reference .amp
  · exact .reference .lt
  · exact .reference .gt
  · rw [hd]
    exact .plain hc hl ha

/-- An escaped text holds no angle bracket that would end something. -/
theorem not_mem_escape (cs : List Char) : '>' ∉ escape cs := by
  intro hm
  obtain ⟨c, -, hc⟩ := List.mem_flatMap.mp hm
  rcases escapeData_cases c with (rfl | rfl | rfl) | ⟨he, -, -, -, hg⟩
  · exact absurd hc (by decide)
  · exact absurd hc (by decide)
  · exact absurd hc (by decide)
  · rw [he, List.mem_singleton] at hc
    exact hg hc.symm

/-! ## Elements -/

/-- An element without attributes, as it is written. -/
def tagged (name : String) (inner : List Char) : List Char :=
  '<' :: (name.toList ++ '>' :: (inner ++ '<' :: '/' :: (name.toList ++ ['>'])))

/-- **Plain documents**, and how they are written. -/
inductive IsWritten : XmlNode → List Char → Prop
  | text {name text : String} (hn : IsPlainName name) (ht : IsPlainText text) :
      IsWritten (.element name [.text text]) (tagged name (escape text.toList))
  | elements {name : String} {parts : List (XmlNode × List Char)} (hn : IsPlainName name)
      (h : ∀ part ∈ parts, IsWritten part.1 part.2) :
      IsWritten (.element name (parts.map (·.1))) (tagged name (parts.flatMap (·.2)))

/-- A tag without attributes. -/
def plainTag (name : String) : WrittenTag where
  name := ⟨"", name⟩

theorem isWellFormed_plainTag (h : IsPlainName name) : (plainTag name).IsWellFormed where
  name := ⟨.inl rfl, h⟩
  attributes := fun _ ha => absurd ha List.not_mem_nil
  distinct := List.nodup_nil
  space := fun _ hc => absurd hc List.not_mem_nil

theorem isBound_plainTag (name : String) (outer : Scope) : (plainTag name).IsBound outer where
  attributes := by
    refine ⟨?_, ?_, ?_, List.nodup_nil⟩ <;> exact fun _ ha => absurd ha List.not_mem_nil
  name := .inl rfl

/-- A plain element around other content. -/
def plainElement (name : String) (inner rest : Content) : Content :=
  .element (plainTag name) inner [] rest

theorem write_plainElement (name : String) (inner rest : Content) :
    (plainElement name inner rest).write = tagged name inner.write ++ rest.write := by
  rw [plainElement, Content.write]
  simp [plainTag, WrittenTag.write, WrittenTag.writeEnd, QName.write, closing, tagged]

/-- **Content of certain nodes**, as it is written, without any attributes. -/
structure IsContent (nodes : List XmlNode) (cs : List Char) (c : Content) : Prop where
  write : c.write = cs
  isWellFormed : c.IsWellFormed
  isBound : ∀ scope, c.IsBound scope
  children : ∀ e : OpenElement, e.children = [] → (c.into e).children = nodes.reverse

/-- A text alone. -/
theorem exists_isContent_text (ht : IsPlainText text) :
    ∃ c, IsContent [.text text] (escape text.toList) c := by
  have hne : text.toList.map escapeData ≠ [] := by
    rw [Ne, List.map_eq_nil_iff, String.toList_eq_nil_iff]
    exact ht.1
  have hchars : (text.toList.map escapeData).map DataChar.char = text.toList := by
    rw [List.map_map]
    exact (List.map_congr_left fun c _ => char_escapeData c).trans (List.map_id _)
  have hreturn : '\r' ∉ (text.toList.map escapeData).map DataChar.char := by
    rw [hchars]
    exact fun hm => (ht.2 _ hm).2 rfl
  refine ⟨.run (text.toList.map escapeData) .nil, ?_, ?_, fun _ => trivial, ?_⟩
  · rw [Content.write, Content.write, List.append_nil, writeData_escapeData]
  · refine ⟨hne, ?_, fun hend => ?_, not_false, trivial⟩
    · intro d hd
      obtain ⟨c, hc, rfl⟩ := List.mem_map.mp hd
      exact isWellFormed_escapeData (ht.2 c hc).1
    · rw [writeData_escapeData] at hend
      exact not_mem_escape _ (hend.subset (by decide))
  · rintro ⟨own, scope, children⟩ rfl
    rw [Content.into, settleLines_unit hreturn, hchars, String.ofList_toList]
    rfl

/-- Elements one after the other. -/
theorem exists_isContent_elements {parts : List (XmlNode × List Char)}
    (h : ∀ part ∈ parts, ∃ name nodes inner c, part.1 = .element name nodes ∧
      part.2 = tagged name inner ∧ IsPlainName name ∧ IsContent nodes inner c) :
    ∃ c, IsContent (parts.map (·.1)) (parts.flatMap (·.2)) c := by
  -- Elements do not merge with what is in front of them.
  have hall : ∃ c : Content, c.write = parts.flatMap (·.2) ∧ c.IsWellFormed ∧
      (∀ scope, c.IsBound scope) ∧
      ∀ e : OpenElement, (c.into e).children = (parts.map (·.1)).reverse ++ e.children := by
    induction parts with
    | nil => exact ⟨.nil, rfl, trivial, fun _ => trivial, fun _ => rfl⟩
    | cons part parts ih =>
      obtain ⟨name, nodes, inner, c, hnode, htext, hn, hc⟩ := h part List.mem_cons_self
      obtain ⟨rest, hwrite, hwell, hbound, hinto⟩ := ih fun part hp => h part (List.mem_cons_of_mem _ hp)
      refine ⟨plainElement name c rest, ?_, ⟨isWellFormed_plainTag hn, hc.isWellFormed, ?_, hwell⟩,
        fun scope => ⟨isBound_plainTag name scope, hc.isBound _, hbound scope⟩, fun e => ?_⟩
      · rw [write_plainElement, hc.write, hwrite, List.flatMap_cons, htext]
      · exact fun _ hc => absurd hc List.not_mem_nil
      · rw [plainElement, Content.into, hinto, List.map_cons, List.reverse_cons, List.append_assoc, hnode,
          OpenElement.node, Content.name_into, hc.children _ rfl, List.reverse_reverse]
        rfl
  obtain ⟨c, hwrite, hwell, hbound, hinto⟩ := hall
  exact ⟨c, hwrite, hwell, hbound, fun e he => by rw [hinto, he, List.append_nil]⟩

/-- **Plain documents** are written as others are, without attributes. -/
theorem IsWritten.exists_isContent {node : XmlNode} (h : IsWritten node cs) :
    ∃ name nodes inner c, node = .element name nodes ∧ cs = tagged name inner ∧ IsPlainName name ∧
      IsContent nodes inner c := by
  induction h with
  | text hn ht =>
    obtain ⟨c, hc⟩ := exists_isContent_text ht
    exact ⟨_, _, _, c, rfl, rfl, hn, hc⟩
  | elements hn _ ih =>
    obtain ⟨c, hc⟩ := exists_isContent_elements ih
    exact ⟨_, _, _, c, rfl, rfl, hn, hc⟩

/-- **A plain document is read back.** -/
theorem parseXml_of_isWritten {node : XmlNode} (h : IsWritten node cs) :
    parseXml (String.ofList cs) = .ok node := by
  obtain ⟨name, nodes, inner, c, rfl, rfl, hn, hc⟩ := h.exists_isContent
  have hread : parseXml (WrittenDocument.text { root := plainElement name c .nil }) =
      .ok (plainElement name c .nil).tree := by
    refine parseXml_text ⟨?_, ?_, trivial, ⟨isWellFormed_plainTag hn, hc.isWellFormed, ?_, trivial⟩, ?_⟩
      ⟨isBound_plainTag name [], hc.isBound _, trivial⟩
    · exact fun _ hd => absurd hd (by simp)
    · exact ⟨fun _ ha => absurd ha List.not_mem_nil, fun _ hc => absurd hc List.not_mem_nil⟩
    · exact fun _ hc => absurd hc List.not_mem_nil
    · exact ⟨fun _ ha => absurd ha List.not_mem_nil, fun _ hc => absurd hc List.not_mem_nil⟩
  have htext : WrittenDocument.text { root := plainElement name c .nil } =
      String.ofList (tagged name inner) := by
    simp [WrittenDocument.text, WrittenDocument.write, write_plainElement, hc.write, Margin.write,
      Content.write]
  rw [← htext, hread, plainElement, Content.tree, OpenElement.node, Content.name_into, hc.children _ rfl,
    List.reverse_reverse]
  rfl

end NodeAgent.Xml
