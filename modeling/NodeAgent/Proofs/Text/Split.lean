import NodeAgent.Text.Split

/-!
# Pieces that are put together

## Main results

* `splitAtFirst_append`: the parts around a separator are found again.
* `splitAtFirst_eq_some_iff`, `splitAtFirst_eq_none_iff`: where a text is cut.
* `lines_append_feed`, `lines_of_not_mem`: a line feed ends a line.
* `splitOnChar_append`, `splitOnChar_intercalate`: so are the pieces between separators.
* `not_mem_of_mem_splitOnChar`, `mem_of_mem_splitOnChar`: what pieces are made of.
* `flatMap_cons_eq_intercalate`: pieces with a separator in front of each.
-/

namespace NodeAgent.Text

/-- What all characters of a list have to be is checked along the list.  Going through all characters that
there are would take too long. -/
scoped instance (priority := 2000) decidableForallMem (p : Char → Prop) [DecidablePred p]
    (cs : List Char) : Decidable (∀ c ∈ cs, p c) :=
  List.decidableBAll p cs

theorem splitAtFirst_append {p : Char → Bool} {before after : List Char} {c : Char}
    (h : ∀ d ∈ before, p d = false) (hc : p c = true) :
    splitAtFirst p (before ++ c :: after) = some (before, after) := by
  induction before with
  | nil => rw [List.nil_append, splitAtFirst, if_pos hc]
  | cons d before ih =>
    rw [List.cons_append, splitAtFirst, h d List.mem_cons_self,
      ih fun d hd => h d (List.mem_cons_of_mem _ hd)]
    rfl

theorem splitAtFirst_of_not {p : Char → Bool} {cs : List Char} (h : ∀ c ∈ cs, p c = false) :
    splitAtFirst p cs = none := by
  induction cs with
  | nil => rfl
  | cons c cs ih =>
    rw [splitAtFirst, if_neg (by simp [h c List.mem_cons_self]),
      ih fun x hx => h x (List.mem_cons_of_mem _ hx)]
    rfl

/-- **A text is cut around its first separator**, if it holds one. -/
theorem splitAtFirst_eq_some_iff {p : Char → Bool} {cs before after : List Char} :
    splitAtFirst p cs = some (before, after) ↔
      ∃ c, cs = before ++ c :: after ∧ p c = true ∧ ∀ d ∈ before, p d = false := by
  constructor
  · intro h
    induction cs generalizing before with
    | nil => cases h
    | cons c cs ih =>
      rw [splitAtFirst] at h
      split at h
      · next hc =>
        cases h
        exact ⟨c, rfl, hc, nofun⟩
      · next hc =>
        obtain ⟨⟨front, back⟩, hcut, heq⟩ := Option.map_eq_some_iff.mp h
        cases heq
        obtain ⟨d, rfl, hd, hfront⟩ := ih hcut
        exact ⟨d, rfl, hd, List.forall_mem_cons.mpr ⟨Bool.eq_false_iff.mpr hc, hfront⟩⟩
  · rintro ⟨c, rfl, hc, hbefore⟩
    exact splitAtFirst_append hbefore hc

theorem splitAtFirst_eq_none_iff {p : Char → Bool} {cs : List Char} :
    splitAtFirst p cs = none ↔ ∀ c ∈ cs, p c = false := by
  constructor
  · intro h
    induction cs with
    | nil => exact nofun
    | cons c cs ih =>
      rw [splitAtFirst] at h
      split at h
      · cases h
      · next hc =>
        exact List.forall_mem_cons.mpr ⟨Bool.eq_false_iff.mpr hc, ih (Option.map_eq_none_iff.mp h)⟩
  · exact splitAtFirst_of_not

/-! ## Lines -/

/-- A character that ends no line goes in front of the first line. -/
theorem lines_cons {c : Char} {cs line : List Char} {more : List (List Char)} (hc : c ≠ '\n')
    (hr : c = '\r' → cs.head? ≠ some '\n') (h : lines cs = line :: more) :
    lines (c :: cs) = (c :: line) :: more := by
  rw [lines.eq_def]
  split
  · next heq => cases heq
  · next heq => exact absurd (List.cons.inj heq).1 hc
  · next heq =>
    obtain ⟨rfl, rfl⟩ := List.cons.inj heq
    exact absurd rfl (hr rfl)
  · next heq =>
    obtain ⟨rfl, rfl⟩ := List.cons.inj heq
    rw [h]

/-- **A line feed ends a line**, and takes a carriage return in front of it away. -/
theorem lines_append_feed {line : List Char} (h : '\n' ∉ line) (rest : List Char) :
    ∃ first, lines (line ++ '\n' :: rest) = first :: lines rest ∧
      (line = first ∨ line = first ++ ['\r']) := by
  induction line with
  | nil => exact ⟨[], rfl, .inl rfl⟩
  | cons c line ih =>
    obtain ⟨first, hfirst, hline⟩ := ih fun hm => h (List.mem_cons_of_mem _ hm)
    have hc : c ≠ '\n' := fun he => h (he ▸ List.mem_cons_self)
    -- Only a carriage return right in front of the line feed is not put in front of the line.
    by_cases hr : c = '\r' ∧ line = []
    · obtain ⟨rfl, rfl⟩ := hr
      exact ⟨[], rfl, .inr rfl⟩
    · refine ⟨c :: first, lines_cons hc ?_ hfirst, ?_⟩
      · intro hreturn
        cases line with
        | nil => exact absurd ⟨hreturn, rfl⟩ hr
        | cons d line =>
          intro hd
          exact h (List.mem_cons_of_mem _ (Option.some.inj hd ▸ List.mem_cons_self))
      · exact hline.imp (congrArg (c :: ·)) (congrArg (c :: ·))

/-- A text without line feeds is a line of its own. -/
theorem lines_of_not_mem {line : List Char} (h : '\n' ∉ line) (hne : line ≠ []) :
    lines line = [line] := by
  induction line with
  | nil => exact absurd rfl hne
  | cons c line ih =>
    have hline : '\n' ∉ line := fun hm => h (List.mem_cons_of_mem _ hm)
    cases line with
    | nil =>
      have hc : c ≠ '\n' := fun he => h (he ▸ List.mem_cons_self)
      rw [lines.eq_def]
      split
      · next heq => cases heq
      · next heq => exact absurd (List.cons.inj heq).1 hc
      · next heq => cases heq
      · next heq =>
        obtain ⟨rfl, rfl⟩ := List.cons.inj heq
        rfl
    | cons d line =>
      refine lines_cons (fun he => h (he ▸ List.mem_cons_self)) ?_ (ih hline (List.cons_ne_nil _ _))
      intro _ hd
      exact hline (Option.some.inj hd ▸ List.mem_cons_self)

/-! ## Pieces -/

theorem splitOnChar_ne_nil (separator : Char) (cs : List Char) :
    splitOnChar separator cs ≠ [] := by
  cases cs with
  | nil => exact List.cons_ne_nil _ _
  | cons c cs =>
    rw [splitOnChar]
    split
    · exact List.cons_ne_nil _ _
    · split <;> exact List.cons_ne_nil _ _

/-- **A separator ends a piece.** -/
theorem splitOnChar_append {separator : Char} {piece : List Char} (h : separator ∉ piece)
    (rest : List Char) :
    splitOnChar separator (piece ++ separator :: rest) = piece :: splitOnChar separator rest := by
  induction piece with
  | nil =>
    obtain ⟨first, more, hs⟩ := List.exists_cons_of_ne_nil (splitOnChar_ne_nil separator rest)
    rw [List.nil_append, splitOnChar, hs]
    simp
  | cons c piece ih =>
    have hc : ¬ (c == separator) = true := by
      rintro he
      exact h (beq_iff_eq.mp he ▸ List.mem_cons_self)
    rw [List.cons_append, splitOnChar, ih fun hm => h (List.mem_cons_of_mem _ hm)]
    simp only [if_neg hc]

theorem splitOnChar_of_not_mem {separator : Char} {piece : List Char} (h : separator ∉ piece) :
    splitOnChar separator piece = [piece] := by
  induction piece with
  | nil => rfl
  | cons c piece ih =>
    have hc : ¬ (c == separator) = true := by
      rintro he
      exact h (beq_iff_eq.mp he ▸ List.mem_cons_self)
    rw [splitOnChar, ih fun hm => h (List.mem_cons_of_mem _ hm)]
    simp only [if_neg hc]

/-- No piece holds the separator. -/
theorem not_mem_of_mem_splitOnChar {separator : Char} {piece cs : List Char}
    (h : piece ∈ splitOnChar separator cs) : separator ∉ piece := by
  induction cs generalizing piece with
  | nil =>
    obtain rfl := List.mem_singleton.mp h
    exact List.not_mem_nil
  | cons c cs ih =>
    obtain ⟨first, more, hs⟩ := List.exists_cons_of_ne_nil (splitOnChar_ne_nil separator cs)
    rw [splitOnChar, hs] at h
    rw [hs] at ih
    dsimp only at h
    split at h
    · rcases List.mem_cons.mp h with rfl | h
      · exact List.not_mem_nil
      · exact ih h
    · next hc =>
      rcases List.mem_cons.mp h with rfl | h
      · simp only [List.mem_cons, not_or]
        exact ⟨fun he => hc (beq_iff_eq.mpr he.symm), ih List.mem_cons_self⟩
      · exact ih (List.mem_cons_of_mem _ h)

/-- The pieces are made of the characters of the text. -/
theorem mem_of_mem_splitOnChar {separator c : Char} {piece cs : List Char}
    (h : piece ∈ splitOnChar separator cs) (hc : c ∈ piece) : c ∈ cs := by
  induction cs generalizing piece with
  | nil =>
    obtain rfl := List.mem_singleton.mp h
    exact hc
  | cons d cs ih =>
    obtain ⟨first, more, hs⟩ := List.exists_cons_of_ne_nil (splitOnChar_ne_nil separator cs)
    rw [splitOnChar, hs] at h
    rw [hs] at ih
    dsimp only at h
    split at h
    · rcases List.mem_cons.mp h with rfl | h
      · cases hc
      · exact List.mem_cons_of_mem _ (ih h hc)
    · rcases List.mem_cons.mp h with rfl | h
      · rcases List.mem_cons.mp hc with rfl | hc
        · exact List.mem_cons_self
        · exact List.mem_cons_of_mem _ (ih List.mem_cons_self hc)
      · exact List.mem_cons_of_mem _ (ih (List.mem_cons_of_mem _ h) hc)

/-- **The pieces that are joined by separators.** -/
theorem splitOnChar_intercalate {separator : Char} {pieces : List (List Char)}
    (h : ∀ piece ∈ pieces, separator ∉ piece) (hne : pieces ≠ []) :
    splitOnChar separator ([separator].intercalate pieces) = pieces := by
  induction pieces with
  | nil => exact absurd rfl hne
  | cons piece pieces ih =>
    have hp : separator ∉ piece := h piece List.mem_cons_self
    cases pieces with
    | nil => simpa using splitOnChar_of_not_mem hp
    | cons next pieces =>
      rw [List.intercalate_cons_cons, List.append_assoc, List.singleton_append,
        splitOnChar_append hp, ih (fun p hm => h p (List.mem_cons_of_mem _ hm)) (List.cons_ne_nil _ _)]

theorem mem_intercalate {separator c : Char} {pieces : List (List Char)}
    (h : c ∈ [separator].intercalate pieces) : c = separator ∨ ∃ piece ∈ pieces, c ∈ piece := by
  induction pieces with
  | nil => cases h
  | cons piece pieces ih =>
    cases pieces with
    | nil => exact .inr ⟨piece, List.mem_cons_self, by simpa using h⟩
    | cons next pieces =>
      rw [List.intercalate_cons_cons, List.append_assoc, List.mem_append, List.mem_append,
        List.mem_singleton] at h
      rcases h with h | h | h
      · exact .inr ⟨piece, List.mem_cons_self, h⟩
      · exact .inl h
      · rcases ih h with h | ⟨other, hother, h⟩
        · exact .inl h
        · exact .inr ⟨other, List.mem_cons_of_mem _ hother, h⟩

/-- Pieces with a separator in front of each. -/
theorem flatMap_cons_eq_intercalate (separator : Char) {pieces : List (List Char)} (h : pieces ≠ []) :
    pieces.flatMap (separator :: ·) = separator :: [separator].intercalate pieces := by
  induction pieces with
  | nil => exact absurd rfl h
  | cons piece pieces ih =>
    cases pieces with
    | nil => simp
    | cons next pieces =>
      rw [List.flatMap_cons, ih (List.cons_ne_nil _ _), List.intercalate_cons_cons]
      simp

end NodeAgent.Text
