import NodeAgent.Label.Set
import NodeAgent.Proofs.Text.Sorted
import NodeAgent.Proofs.Text.Words

/-!
# What a set of labels holds

Sets of labels are compared by what they hold.  A set has one written form, from which it is read back.

## Main definitions

* `LabelSet.AgreeBut`: sets that agree on all labels but some.

## Main results

* `LabelSet.ext`: sets that hold the same labels are equal.
* `mem_parse`: the set of a text holds the words of the text.
* `mem_union`, `mem_diff`, `mem_filter`, `mem_withoutManaged`: what the operations keep.
* `AgreeBut.union`, `AgreeBut.diff`, `AgreeBut.eq`: operations on sets that agree.
* `words_joined`, `parse_joined`: the written form is read back.
-/

namespace NodeAgent

open Text

theorem isLabel_iff_isWord {l : String} : IsLabel l ↔ IsWord l.toList := by
  rw [IsLabel, IsWord, Ne, Ne, String.toList_eq_nil_iff]

theorem label?_of_isLabel {l : String} (h : IsLabel l) : label? l = some ⟨l, h⟩ := by
  have ht : trim l = l := by rw [trim, trimChars_of_letters h.2, String.ofList_toList]
  have hl : IsLabel (trim l) := ht.symm ▸ h
  rw [label?, dif_pos hl]
  exact congrArg some (Subtype.ext ht)

namespace LabelSet

instance : Membership String LabelSet := ⟨fun s l => l ∈ s.toList⟩

variable {s t : LabelSet} {l text : String}

theorem mem_toList : l ∈ s.toList ↔ l ∈ s := Iff.rfl

theorem isLabel_of_mem (h : l ∈ s) : IsLabel l := s.areLabels l h

/-- **Sets that hold the same labels are equal.** -/
theorem ext (h : ∀ l, l ∈ s ↔ l ∈ t) : s = t := by
  obtain ⟨ls, hls, _⟩ := s
  obtain ⟨lt, hlt, _⟩ := t
  obtain rfl : ls = lt := eq_of_sorted hls hlt h
  rfl

@[simp] theorem not_mem_empty : l ∉ empty := List.not_mem_nil

theorem isEmpty_iff : s.isEmpty = true ↔ ∀ l, l ∉ s := by
  rw [isEmpty, List.isEmpty_iff]
  exact List.eq_nil_iff_forall_not_mem

@[simp] theorem contains_iff : s.contains l = true ↔ l ∈ s := List.contains_iff_mem

/-! ## Operations -/

@[simp] theorem mem_insert {x : { l : String // IsLabel l }} : l ∈ s.insert x ↔ l = x.val ∨ l ∈ s :=
  mem_insertSorted

theorem mem_add_of_isLabel {x : String} (h : IsLabel x) : l ∈ s.add x ↔ l = x ∨ l ∈ s := by
  rw [add, label?_of_isLabel h]
  exact mem_insert

theorem mem_foldl_add {texts : List String} (h : ∀ x ∈ texts, IsLabel x) :
    l ∈ texts.foldl add s ↔ l ∈ texts ∨ l ∈ s := by
  induction texts generalizing s with
  | nil => simp
  | cons x texts ih =>
    rw [List.foldl_cons, ih fun y hy => h y (List.mem_cons_of_mem _ hy),
      mem_add_of_isLabel (h x List.mem_cons_self), List.mem_cons]
    tauto

/-- **The set of a text holds the words of the text.** -/
@[simp] theorem mem_parse : l ∈ parse text ↔ l ∈ words text := by
  -- Every word is a label, so that none is left out.
  have h : ∀ w ∈ words text, IsLabel w := by
    intro w hw
    obtain ⟨cs, hcs, rfl⟩ := List.mem_map.mp hw
    rw [isLabel_iff_isWord, String.toList_ofList]
    exact isWord_of_mem hcs
  rw [parse, ofList, mem_foldl_add h]
  simp

@[simp] theorem mem_filter {p : String → Bool} : l ∈ s.filter p ↔ l ∈ s ∧ p l = true :=
  List.mem_filter

@[simp] theorem mem_union : l ∈ s.union t ↔ l ∈ s ∨ l ∈ t := by
  -- The union inserts one label after the other, so that the induction is on the list of those to come.
  have h : ∀ (ls : List { x // x ∈ t.toList }) (s : LabelSet),
      l ∈ ls.foldl (fun acc x => acc.insert ⟨x.val, t.areLabels x.val x.property⟩) s ↔
        l ∈ s ∨ ∃ h, ⟨l, h⟩ ∈ ls := by
    intro ls
    induction ls with
    | nil => simp
    | cons x ls ih =>
      intro s
      rw [List.foldl_cons, ih, mem_insert]
      obtain ⟨x, hx⟩ := x
      constructor
      · rintro ((rfl | h) | ⟨h, hl⟩)
        · exact .inr ⟨hx, List.mem_cons_self⟩
        · exact .inl h
        · exact .inr ⟨h, List.mem_cons_of_mem _ hl⟩
      · rintro (h | ⟨h, hl⟩)
        · exact .inl (.inr h)
        · rcases List.mem_cons.mp hl with heq | hl
          · exact .inl (.inl (congrArg Subtype.val heq))
          · exact .inr ⟨h, hl⟩
  rw [union, h]
  simp [mem_toList]

@[simp] theorem mem_diff : l ∈ s.diff t ↔ l ∈ s ∧ l ∉ t := by
  rw [diff, mem_filter, Bool.not_eq_true', ← Bool.not_eq_true, contains_iff]

@[simp] theorem mem_withoutManaged : l ∈ s.withoutManaged ↔ l ∈ s ∧ l ≠ managed := by
  simp [withoutManaged]

/-! ## Sets that agree -/

/-- **Sets that agree** on all labels that are not free. -/
def AgreeBut (free : String → Prop) (s t : LabelSet) : Prop :=
  ∀ l, ¬ free l → (l ∈ s ↔ l ∈ t)

variable {free : String → Prop} {s' t' u : LabelSet}

theorem AgreeBut.refl (s : LabelSet) : AgreeBut free s s := fun _ _ => Iff.rfl

theorem AgreeBut.symm (h : AgreeBut free s t) : AgreeBut free t s := fun l hl => (h l hl).symm

theorem AgreeBut.trans (h : AgreeBut free s t) (h' : AgreeBut free t u) : AgreeBut free s u :=
  fun l hl => (h l hl).trans (h' l hl)

theorem AgreeBut.union (h : AgreeBut free s s') (h' : AgreeBut free t t') :
    AgreeBut free (s.union t) (s'.union t') := fun l hl => by
  rw [mem_union, mem_union, h l hl, h' l hl]

theorem AgreeBut.diff (h : AgreeBut free s s') (h' : AgreeBut free t t') :
    AgreeBut free (s.diff t) (s'.diff t') := fun l hl => by
  rw [mem_diff, mem_diff, h l hl, h' l hl]

/-- Sets that agree on all labels are equal. -/
theorem AgreeBut.eq (h : AgreeBut (fun _ => False) s t) : s = t :=
  ext fun l => h l id

/-! ## The written form -/

/-- The words of the written form are the labels. -/
theorem words_joined (s : LabelSet) : words s.joined = s.toList :=
  words_intercalate fun l hl => isLabel_iff_isWord.mp (s.areLabels l hl)

/-- **The written form is read back.** -/
theorem parse_joined (s : LabelSet) : parse s.joined = s :=
  ext fun l => by rw [mem_parse, words_joined, mem_toList]

/-- **The written form is a label itself** exactly if there is one label. -/
theorem joined_mem_iff {s : LabelSet} : s.joined ∈ s ↔ s.size = 1 := by
  constructor
  · intro h
    have hword : words s.joined = [s.joined] := by
      rw [words, wordsChars_of_isWord (isLabel_iff_isWord.mp (isLabel_of_mem h)), List.map_singleton,
        String.ofList_toList]
    rw [size, ← words_joined, hword]
    rfl
  · intro h
    obtain ⟨l, hl⟩ := List.length_eq_one_iff.mp h
    rw [joined, ← mem_toList, hl, String.intercalate_singleton]
    exact List.mem_singleton_self l

end LabelSet

end NodeAgent
