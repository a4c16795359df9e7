import Mathlib.Data.List.Nodup
import NodeAgent.Proofs.Result
import NodeAgent.Xml.Document

/-!
# Namespaces of a tag

The attributes of a tag bind prefixes to namespaces, for the names of the element, its attributes and what
stands in it.

## Main definitions

* `Attribute.binding?`, `bindings`: what attributes bind.
* `expandedName`: a name with its namespace in place of its prefix.
* `HasNamespaces`: attributes with nothing wrong about namespaces.

## Main results

* `innerScope_of_hasNamespaces`: the scope inside an element has the bindings of its tag.
-/

namespace NodeAgent.Xml

/-- Whether an attribute is there to bind a prefix. -/
def Attribute.Declares (a : Attribute) : Prop :=
  a.name.pre = "xmlns" ∨ a.name.localPart = "xmlns"

instance (a : Attribute) : Decidable a.Declares :=
  inferInstanceAs (Decidable (_ ∨ _))

/-- What an attribute binds; the prefix `xml` is bound as it is. -/
def Attribute.binding? (a : Attribute) : Option (String × String) :=
  if a.name.pre = "xmlns" then
    if a.name.localPart = "xml" then none else some (a.name.localPart, a.value)
  else if a.name.localPart = "xmlns" then some ("", a.value)
  else none

/-- **What the attributes of a tag bind.** -/
def bindings (attributes : List Attribute) : Scope :=
  attributes.filterMap Attribute.binding?

/-- **A name with its namespace** in place of its prefix.  Without a prefix it has none. -/
def expandedName (scope : Scope) (name : QName) : Option String × String :=
  (if name.pre = "" then none
    else if name.pre = "xml" then some xmlNamespace
    else scope.lookup name.pre, name.localPart)

/-- Whether a prefix means something, be it that there is none. -/
def IsBound (scope : Scope) (pre : String) : Prop :=
  pre = "" ∨ pre = "xml" ∨ (scope.lookup pre).isSome = true

instance (scope : Scope) (pre : String) : Decidable (IsBound scope pre) :=
  inferInstanceAs (Decidable (_ ∨ _))

/-- **Attributes with nothing wrong about namespaces.** -/
structure HasNamespaces (outer : Scope) (attributes : List Attribute) : Prop where
  /-- The namespace of `xmlns` is not bound, and the one of `xml` to this prefix only. -/
  prefixed : ∀ a ∈ attributes, a.name.pre = "xmlns" →
    a.value ≠ xmlnsNamespace ∧ (a.value = xmlNamespace ↔ a.name.localPart = "xml")
  /-- Neither is bound for names without a prefix. -/
  unprefixed : ∀ a ∈ attributes, a.name.pre ≠ "xmlns" → a.name.localPart = "xmlns" →
    a.value ≠ xmlNamespace ∧ a.value ≠ xmlnsNamespace
  /-- The prefixes of other attributes are bound. -/
  bound : ∀ a ∈ attributes, ¬a.Declares → IsBound (bindings attributes ++ outer) a.name.pre
  /-- Other attributes differ in their names when namespaces stand in place of prefixes. -/
  distinct : ((attributes.filter fun a => ¬a.Declares).map fun a =>
    expandedName (bindings attributes ++ outer) a.name).Nodup

variable {outer scope : Scope} {attributes : List Attribute} {a : Attribute}

theorem bindings_cons_none (h : a.binding? = none) : bindings (a :: attributes) = bindings attributes :=
  List.filterMap_cons_none h

theorem bindings_cons_some {binding : String × String} (h : a.binding? = some binding) :
    bindings (a :: attributes) = binding :: bindings attributes :=
  List.filterMap_cons_some h

theorem attributeNamespace_of_isBound {name : QName} (h : IsBound scope name.pre) :
    attributeNamespace scope name = .ok (expandedName scope name).1 := by
  unfold attributeNamespace expandedName
  rcases h with h | h | h
  · simp [h]
  · simp [h]
  · obtain ⟨uri, huri⟩ := Option.isSome_iff_exists.mp h
    split
    · rfl
    split
    · rfl
    · simp only [huri]

/-- A prefix is bound by at most one attribute. -/
theorem any_bindings_eq_false (hnames : a.name ∉ attributes.map (·.name)) (hpre : a.name.pre = "xmlns")
    (hpart : a.name.localPart ≠ "") :
    ((bindings attributes).any fun b => b.1 == a.name.localPart) = false := by
  rw [List.any_eq_false]
  intro b hb hsame
  obtain ⟨other, hother, hbinding⟩ := List.mem_filterMap.mp hb
  rw [beq_iff_eq] at hsame
  unfold Attribute.binding? at hbinding
  split at hbinding
  · next hxmlns =>
    split at hbinding
    · cases hbinding
    · -- Both attributes would have the prefix `xmlns` and this local part.
      obtain rfl := Option.some.inj hbinding
      have hname : other.name = a.name := by
        cases ho : other.name
        cases ha : a.name
        simp_all
      exact hnames (hname ▸ List.mem_map_of_mem hother)
  · split at hbinding
    · obtain rfl := Option.some.inj hbinding
      exact hpart hsame.symm
    · cases hbinding

/-- **What attributes declare**: their bindings, and the attributes that bind nothing are left. -/
theorem declare_eq (hnames : (attributes.map (·.name)).Nodup)
    (hparts : ∀ a ∈ attributes, a.name.localPart ≠ "")
    (hprefixed : ∀ a ∈ attributes, a.name.pre = "xmlns" →
      a.value ≠ xmlnsNamespace ∧ (a.value = xmlNamespace ↔ a.name.localPart = "xml"))
    (hunprefixed : ∀ a ∈ attributes, a.name.pre ≠ "xmlns" → a.name.localPart = "xmlns" →
      a.value ≠ xmlNamespace ∧ a.value ≠ xmlnsNamespace) :
    declare attributes = .ok (bindings attributes, attributes.filter fun a => ¬a.Declares) := by
  induction attributes with
  | nil => rfl
  | cons a rest ih =>
    have hbehind : ∀ {P : Attribute → Prop}, (∀ b ∈ a :: rest, P b) → ∀ b ∈ rest, P b :=
      fun h b hb => h b (List.mem_cons_of_mem _ hb)
    obtain ⟨hfresh, hrest⟩ := List.nodup_cons.mp hnames
    have ih := ih hrest (hbehind hparts) (hbehind hprefixed) (hbehind hunprefixed)
    rw [declare, ih]
    simp only [bind, Except.bind]
    by_cases hpre : a.name.pre = "xmlns"
    · obtain ⟨hvalue, hxml⟩ := hprefixed a List.mem_cons_self hpre
      have hany := any_bindings_eq_false hfresh hpre (hparts a List.mem_cons_self)
      have hboth : (a.value == xmlNamespace) = (a.name.localPart == "xml") := by
        rw [Bool.eq_iff_iff, beq_iff_eq, beq_iff_eq]
        exact hxml
      rw [if_pos hpre, hany, hboth, if_neg (by simp [hvalue]),
        List.filter_cons_of_neg (by simp [Attribute.Declares, hpre])]
      by_cases hpart : a.name.localPart = "xml"
      · rw [if_pos (by simp [hpart]), bindings_cons_none (by simp [Attribute.binding?, hpre, hpart])]
        rfl
      · have hbinding : a.binding? = some (a.name.localPart, a.value) := by
          simp [Attribute.binding?, hpre, hpart]
        rw [if_neg (by simp [hpart]), bindings_cons_some hbinding]
        rfl
    · rw [if_neg hpre]
      by_cases hpart : a.name.localPart = "xmlns"
      · obtain ⟨hvalue, hvalue'⟩ := hunprefixed a List.mem_cons_self hpre hpart
        have hbinding : a.binding? = some ("", a.value) := by simp [Attribute.binding?, hpre, hpart]
        rw [if_pos hpart, if_neg (by simp [hvalue, hvalue']),
          List.filter_cons_of_neg (by simp [Attribute.Declares, hpart]), bindings_cons_some hbinding]
        rfl
      · rw [if_neg hpart, List.filter_cons_of_pos (by simp [Attribute.Declares, hpre, hpart]),
          bindings_cons_none (by simp [Attribute.binding?, hpre, hpart])]
        rfl

theorem eraseDups_of_nodup {α : Type} [BEq α] [LawfulBEq α] {xs : List α} (h : xs.Nodup) :
    xs.eraseDups = xs := by
  induction xs with
  | nil => rfl
  | cons x xs ih =>
    obtain ⟨hx, hxs⟩ := List.nodup_cons.mp h
    have hkept : (xs.filter fun y => !y == x) = xs :=
      List.filter_eq_self.mpr fun y hy => by
        have hne : y ≠ x := fun he => hx (he ▸ hy)
        simpa using hne
    rw [List.eraseDups_cons, hkept, ih hxs]

/-- **The scope inside an element** has the bindings of its tag in front of those around it. -/
theorem innerScope_of_hasNamespaces (hnames : (attributes.map (·.name)).Nodup)
    (hparts : ∀ a ∈ attributes, a.name.localPart ≠ "") (h : HasNamespaces outer attributes) :
    innerScope outer attributes = .ok (bindings attributes ++ outer) := by
  have hexpanded : ∀ a ∈ attributes.filter fun a => ¬a.Declares,
      (attributeNamespace (bindings attributes ++ outer) a.name).map (·, a.name.localPart) =
        .ok (expandedName (bindings attributes ++ outer) a.name) := by
    intro a ha
    obtain ⟨ha, hother⟩ := List.mem_filter.mp ha
    rw [attributeNamespace_of_isBound (h.bound a ha (by simpa using hother))]
    rfl
  rw [innerScope, declare_eq hnames hparts h.prefixed h.unprefixed]
  simp only [bind, Except.bind]
  rw [mapM_eq_ok_map hexpanded]
  simp only [eraseDups_of_nodup h.distinct]
  rw [if_neg (Nat.lt_irrefl _)]
  rfl

end NodeAgent.Xml
