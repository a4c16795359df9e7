import NodeAgent.Config.Node
import NodeAgent.Proofs.Label.Set
import NodeAgent.Proofs.Text.Utf8

/-!
# The one list of a set of labels

However a set of labels is made, it lists the labels that it should hold, each once, in the order of
their bytes.  So the written form stands for the set: it is read back, and sets with the same written
form are equal.

## Main definitions

* `LabelSet.Recipe`: how a set of labels is made.
* `LabelSet.Recipe.Names`: the labels that a set made this way should hold.
* `LabelSet.Lists`: a set that lists the labels that it should hold.
* `JoinedByBlanks`: texts with white space between them.

## Main results

* `LabelSet.mem_make_iff`: a set holds the labels that its recipe names.
* `LabelSet.parse_append`, `words_of_joinedByBlanks`: reading texts one after the other.
* `label_sets_are_canonical`: the list of a set, its written form, and the labels of a configuration.
-/

namespace NodeAgent

open Text

/-! ## Recipes -/

namespace LabelSet

/-- **How a set of labels is made.** -/
inductive Recipe
  /-- The set without labels. -/
  | nothing
  /-- Every word of a text is a label. -/
  | parsed (text : String)
  /-- Each text is put in that is a single label. -/
  | collected (texts : List String)
  /-- A text is put in if it is a single label. -/
  | added (r : Recipe) (text : String)
  | extended (r s : Recipe)
  | withoutManaged (r : Recipe)

namespace Recipe

/-- **The set that is made.** -/
def make : Recipe → LabelSet
  | nothing => empty
  | parsed text => parse text
  | collected texts => ofList texts
  | added r text => r.make.add text
  | extended r s => r.make.union s.make
  | withoutManaged r => r.make.withoutManaged

/-- **The labels that a set should hold.**  A word of a text stands alone in it, and a text is put in
without the blanks around it. -/
def Names (l : String) : Recipe → Prop
  | nothing => False
  | parsed text => StandsAlone l.toList text.toList
  | collected texts => IsLabel l ∧ ∃ text ∈ texts, trim text = l
  | added r text => (IsLabel l ∧ trim text = l) ∨ Names l r
  | extended r s => Names l r ∨ Names l s
  | withoutManaged r => Names l r ∧ l ≠ managed

end Recipe

variable {s t : LabelSet} {l text : String}

theorem mem_add : l ∈ s.add text ↔ (IsLabel l ∧ trim text = l) ∨ l ∈ s := by
  rw [add, label?]
  by_cases hlabel : IsLabel (trim text)
  · rw [dif_pos hlabel]
    refine mem_insert.trans (or_congr ?_ Iff.rfl)
    exact ⟨fun h => ⟨h ▸ hlabel, h.symm⟩, fun h => h.2.symm⟩
  · rw [dif_neg hlabel]
    refine ⟨.inr, ?_⟩
    rintro (⟨h, rfl⟩ | h)
    · exact absurd h hlabel
    · exact h

theorem mem_ofList {texts : List String} :
    l ∈ ofList texts ↔ IsLabel l ∧ ∃ text ∈ texts, trim text = l := by
  -- Texts are put in one after the other, behind those that are in already.
  have h : ∀ s : LabelSet, l ∈ texts.foldl add s ↔
      (IsLabel l ∧ ∃ text ∈ texts, trim text = l) ∨ l ∈ s := by
    induction texts with
    | nil => simp
    | cons text texts ih =>
      intro s
      rw [List.foldl_cons, ih, mem_add, ← or_assoc, ← and_or_left]
      simp only [List.mem_cons, exists_eq_or_imp, or_comm]
  rw [ofList, h]
  simp

theorem mem_words_iff : l ∈ words text ↔ StandsAlone l.toList text.toList := by
  rw [words, ← mem_wordsChars_iff, List.mem_map]
  constructor
  · rintro ⟨cs, hcs, rfl⟩
    rwa [String.toList_ofList]
  · exact fun h => ⟨_, h, String.ofList_toList⟩

/-- **A set holds the labels that its recipe names.** -/
theorem mem_make_iff (r : Recipe) : l ∈ r.make ↔ r.Names l := by
  induction r with
  | nothing => exact iff_of_false not_mem_empty id
  | parsed text => exact mem_parse.trans mem_words_iff
  | collected texts => exact mem_ofList
  | added r text ih => exact mem_add.trans (or_congr Iff.rfl ih)
  | extended r s ihr ihs => exact mem_union.trans (or_congr ihr ihs)
  | withoutManaged r ih => exact mem_withoutManaged.trans (and_congr ih Iff.rfl)

/-- **A set that lists the labels that it should hold**, each once and in the order of their bytes. -/
structure Lists (s : LabelSet) (names : String → Prop) : Prop where
  mem_iff : ∀ l, l ∈ s.toList ↔ names l
  increasing : (s.toList.map encodeUtf8).Pairwise (· < ·)
  /-- A label is not empty and holds no white space. -/
  isLabel : ∀ l ∈ s.toList, l ≠ "" ∧ ∀ c ∈ l.toList, isBlank c = false

theorem increasing_bytes (s : LabelSet) : (s.toList.map encodeUtf8).Pairwise (· < ·) :=
  List.pairwise_map.mpr (s.sorted.imp encodeUtf8_lt_iff.mpr)

theorem lists_make (r : Recipe) : r.make.Lists fun l => r.Names l :=
  ⟨fun _ => mem_make_iff r, increasing_bytes _, r.make.areLabels⟩

/-- **Sets with the same written form are equal.** -/
theorem joined_inj : s.joined = t.joined ↔ s = t := by
  constructor
  · intro h
    rw [← parse_joined s, h, parse_joined]
  · exact congrArg joined

/-! ## Texts one after the other -/

/-- Whether a text is white space that keeps words apart. -/
def IsGap (gap : String) : Prop :=
  gap ≠ "" ∧ ∀ c ∈ gap.toList, isBlank c = true

instance (gap : String) : Decidable (IsGap gap) :=
  decidable_of_iff (gap ≠ "" ∧ gap.toList.all isBlank = true) (by simp [IsGap])

theorem words_append {gap a b : String} (h : IsGap gap) :
    words (a ++ gap ++ b) = words a ++ words b := by
  have hne : gap.toList ≠ [] := by
    rw [Ne, String.toList_eq_nil_iff]
    exact h.1
  rw [words, String.toList_append, String.toList_append, List.append_assoc,
    wordsChars_append_blanks_append hne h.2, List.map_append]
  rfl

/-- **Texts with white space between them** hold the labels of both. -/
theorem parse_append {gap a b : String} (h : IsGap gap) :
    parse (a ++ gap ++ b) = (parse a).union (parse b) :=
  ext fun l => by rw [mem_union, mem_parse, mem_parse, mem_parse, words_append h, List.mem_append]

end LabelSet

/-- **Texts with white space between them**, which may differ from place to place. -/
inductive JoinedByBlanks : List String → String → Prop
  | nothing : JoinedByBlanks [] ""
  | single (entry : String) : JoinedByBlanks [entry] entry
  | next {entry gap text : String} {entries : List String} (h : LabelSet.IsGap gap)
      (hrest : JoinedByBlanks entries text) : JoinedByBlanks (entry :: entries) (entry ++ gap ++ text)

theorem words_of_joinedByBlanks {entries : List String} {text : String}
    (h : JoinedByBlanks entries text) : words text = entries.flatMap words := by
  induction h with
  | nothing => rfl
  | single entry => simp
  | next h _ ih => rw [LabelSet.words_append h, ih, List.flatMap_cons]

/-- **The labels of a configuration** are those of its entries, in any order, read as one text. -/
theorem staticLabels_eq_parse {c : NodeConfig} {entries : List String} {text : String}
    (hperm : entries.Perm c.labels) (h : JoinedByBlanks entries text) :
    c.staticLabels = LabelSet.parse text := by
  refine LabelSet.ext fun l => ?_
  have hword : ∀ w ∈ c.labels.flatMap words, IsLabel w := by
    intro w hw
    obtain ⟨entry, -, hw⟩ := List.mem_flatMap.mp hw
    exact isLabel_iff_isWord.mpr (LabelSet.mem_words_iff.mp hw).1
  rw [NodeConfig.staticLabels, LabelSet.ofList, LabelSet.mem_foldl_add hword, LabelSet.mem_parse,
    words_of_joinedByBlanks h, (hperm.flatMap_right words).mem_iff]
  simp

/-- **The list of a set of labels** holds what its recipe names, in the order of the bytes.  The written
form is read back, and stands for the set.  Texts are read one after the other, and so are the entries of
a configuration. -/
theorem label_sets_are_canonical :
    (∀ r : LabelSet.Recipe, (r.make.Lists fun l => r.Names l) ∧
      LabelSet.parse r.make.joined = r.make) ∧
    (∀ r r' : LabelSet.Recipe, r.make = r'.make ↔ r.make.joined = r'.make.joined) ∧
    (∀ a gap b, LabelSet.IsGap gap →
      LabelSet.parse (a ++ gap ++ b) = (LabelSet.parse a).union (LabelSet.parse b)) ∧
    ∀ (c : NodeConfig) (entries : List String) (text : String), entries.Perm c.labels →
      JoinedByBlanks entries text → c.staticLabels = LabelSet.parse text := by
  refine ⟨fun r => ⟨LabelSet.lists_make r, LabelSet.parse_joined _⟩,
    fun r r' => LabelSet.joined_inj.symm, ?_, ?_⟩
  · exact fun a gap b h => LabelSet.parse_append h
  · exact fun c entries text hperm h => staticLabels_eq_parse hperm h

/-- **Entries in another order**, with an ideographic space between them. -/
theorem label_sets_are_canonical_of_entries :
    let c : NodeConfig :=
      { discoveryPort := 33848, executors := 2, fsRoot := "/ci", labels := ["zoo ärger", "\tapt zoo"] }
    let entries := ["\tapt zoo", "zoo ärger"]
    let text := "\tapt zoo" ++ "\u3000" ++ "zoo ärger"
    entries.Perm c.labels ∧ LabelSet.IsGap "\u3000" ∧ JoinedByBlanks entries text ∧
      c.staticLabels = (LabelSet.parse "\tapt zoo").union (LabelSet.parse "zoo ärger") ∧
      c.staticLabels.toList = ["apt", "zoo", "ärger"] := by
  intro c entries text
  have hperm : entries.Perm c.labels := .swap _ _ _
  have hgap : LabelSet.IsGap "\u3000" := by decide
  have hjoined : JoinedByBlanks entries text := .next hgap (.single _)
  obtain ⟨-, -, happend, hconfig⟩ := label_sets_are_canonical
  have hstatic := hconfig c entries text hperm hjoined
  refine ⟨hperm, hgap, hjoined, hstatic.trans (happend _ _ _ hgap), ?_⟩
  decide +kernel

end NodeAgent
