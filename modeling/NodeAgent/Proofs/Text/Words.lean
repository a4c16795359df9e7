import Mathlib.Data.List.TakeWhile
import NodeAgent.Text.Split

/-!
# The words of a text

A blank ends a word wherever it stands, and everything else about words follows from that.

## Main results

* `wordsChars_append_blank`: the words on both sides of a blank.
* `wordsChars_of_isWord`: a text without blanks is one word.
* `wordsChars_trim`, `words_trim`: blanks around a text do not count.
* `isBlank_ends_trimChars`, `isEmpty_trim`: what is left of a text without the blanks around it.
* `trimChars_append_left`, `trimChars_append_right`, `trimChars_append_cons`: which blanks are dropped.
* `words_intercalate`: the words that are joined by single spaces.
* `wordsChars_append_blanks_append`: the words on both sides of several blanks.
* `mem_wordsChars_iff`: the words of a text are the pieces that stand alone in it.
-/

namespace NodeAgent.Text

/-- A word: it is not empty and holds no blank. -/
def IsWord (w : List Char) : Prop :=
  w ≠ [] ∧ ∀ c ∈ w, isBlank c = false

variable {c d : Char} {cs rest : List Char}

theorem wordsChars_cons (c : Char) (rest : List Char) :
    wordsChars (c :: rest) =
      if isBlank c then wordsChars rest
      else match rest, wordsChars rest with
        | d :: _, w :: ws => if isBlank d then [c] :: w :: ws else (c :: w) :: ws
        | _, ws => [c] :: ws := rfl

theorem wordsChars_cons_of_blank (h : isBlank c = true) :
    wordsChars (c :: rest) = wordsChars rest := by
  rw [wordsChars_cons, if_pos h]

/-- A letter in front of a blank, or of nothing, is a word of its own. -/
theorem wordsChars_cons_of_end (hc : isBlank c = false)
    (h : ∀ d ∈ rest.head?, isBlank d = true) :
    wordsChars (c :: rest) = [c] :: wordsChars rest := by
  rw [wordsChars_cons, if_neg (by simp [hc])]
  cases rest with
  | nil => rfl
  | cons d rest =>
    have hd : isBlank d = true := h d rfl
    cases hw : wordsChars (d :: rest) with
    | nil => rfl
    | cons w ws => simp [hd]

/-- A letter in front of another one begins its word. -/
theorem wordsChars_cons_cons (rest : List Char) (hc : isBlank c = false) (hd : isBlank d = false) :
    ∃ w ws, wordsChars (d :: rest) = w :: ws ∧ wordsChars (c :: d :: rest) = (c :: w) :: ws := by
  have hne : ∃ w ws, wordsChars (d :: rest) = w :: ws := by
    rw [wordsChars_cons, if_neg (by simp [hd])]
    split
    · split <;> exact ⟨_, _, rfl⟩
    · exact ⟨_, _, rfl⟩
  obtain ⟨w, ws, hw⟩ := hne
  refine ⟨w, ws, hw, ?_⟩
  rw [wordsChars_cons, if_neg (by simp [hc]), hw]
  simp [hd]

/-- What follows a letter is a blank or nothing, or another letter. -/
theorem end_or_letter (cs : List Char) :
    (∀ d ∈ cs.head?, isBlank d = true) ∨ ∃ d rest, cs = d :: rest ∧ isBlank d = false := by
  cases cs with
  | nil => exact .inl fun _ h => nomatch h
  | cons d rest =>
    cases hd : isBlank d with
    | true =>
      left
      rintro _ ⟨⟩
      exact hd
    | false => exact .inr ⟨d, rest, rfl, hd⟩

/-- **The words on both sides of a blank.** -/
theorem wordsChars_append_blank {b : Char} (hb : isBlank b = true) (cs rest : List Char) :
    wordsChars (cs ++ b :: rest) = wordsChars cs ++ wordsChars rest := by
  induction cs with
  | nil => exact wordsChars_cons_of_blank hb
  | cons c cs ih =>
    by_cases hc : isBlank c = true
    · rw [List.cons_append, wordsChars_cons_of_blank hc, wordsChars_cons_of_blank hc, ih]
    · simp only [Bool.not_eq_true] at hc
      rcases end_or_letter cs with hh | ⟨d, cs, rfl, hd⟩
      · have hh' : ∀ d ∈ (cs ++ b :: rest).head?, isBlank d = true := by
          cases cs with
          | nil => simpa using hb
          | cons d cs => exact hh
        rw [List.cons_append, wordsChars_cons_of_end hc hh', wordsChars_cons_of_end hc hh, ih]
        rfl
      · -- The letter goes in front of the first word of the rest, with the blank and without it.
        obtain ⟨w, ws, hw, hcw⟩ := wordsChars_cons_cons cs hc hd
        obtain ⟨w', ws', hw', hcw'⟩ := wordsChars_cons_cons (cs ++ b :: rest) hc hd
        have heq : w' :: ws' = w :: (ws ++ wordsChars rest) := by
          rw [← hw', ← List.cons_append, ih, hw]
          rfl
        obtain ⟨rfl, rfl⟩ := List.cons.inj heq
        rw [List.cons_append, List.cons_append, hcw', hcw]
        rfl

/-- A text without blanks is one word. -/
theorem wordsChars_of_isWord (h : IsWord cs) : wordsChars cs = [cs] := by
  induction cs with
  | nil => exact absurd rfl h.1
  | cons c cs ih =>
    have hc : isBlank c = false := h.2 c List.mem_cons_self
    cases cs with
    | nil => exact wordsChars_cons_of_end hc fun _ h => nomatch h
    | cons d cs =>
      have hcs : IsWord (d :: cs) :=
        ⟨List.cons_ne_nil _ _, fun c hc => h.2 c (List.mem_cons_of_mem _ hc)⟩
      obtain ⟨w, ws, hw, hcw⟩ := wordsChars_cons_cons cs hc (hcs.2 d List.mem_cons_self)
      rw [ih hcs] at hw
      obtain ⟨rfl, rfl⟩ := List.cons.inj hw
      exact hcw

theorem isWord_of_mem {w : List Char} (h : w ∈ wordsChars cs) : IsWord w := by
  induction cs generalizing w with
  | nil => cases h
  | cons c cs ih =>
    by_cases hc : isBlank c = true
    · rw [wordsChars_cons_of_blank hc] at h
      exact ih h
    · simp only [Bool.not_eq_true] at hc
      rcases end_or_letter cs with hh | ⟨d, cs, rfl, hd⟩
      · rw [wordsChars_cons_of_end hc hh] at h
        rcases List.mem_cons.mp h with rfl | h
        · exact ⟨List.cons_ne_nil _ _, by simpa using hc⟩
        · exact ih h
      · -- Only the first word is longer by the letter; the others are those of the rest.
        obtain ⟨v, ws, hv, hcv⟩ := wordsChars_cons_cons cs hc hd
        rw [hcv] at h
        rw [hv] at ih
        rcases List.mem_cons.mp h with rfl | h
        · have hiv : IsWord v := ih List.mem_cons_self
          exact ⟨List.cons_ne_nil _ _, List.forall_mem_cons.mpr ⟨hc, hiv.2⟩⟩
        · exact ih (List.mem_cons_of_mem _ h)

/-! ## Blanks around a text -/

theorem wordsChars_of_blanks (h : ∀ c ∈ cs, isBlank c = true) : wordsChars cs = [] := by
  induction cs with
  | nil => rfl
  | cons c cs ih =>
    rw [wordsChars_cons_of_blank (h c List.mem_cons_self)]
    exact ih fun c hc => h c (List.mem_cons_of_mem _ hc)

theorem wordsChars_append_blanks (h : ∀ c ∈ rest, isBlank c = true) :
    wordsChars (cs ++ rest) = wordsChars cs := by
  cases rest with
  | nil => rw [List.append_nil]
  | cons b rest =>
    rw [wordsChars_append_blank (h b List.mem_cons_self),
      wordsChars_of_blanks fun c hc => h c (List.mem_cons_of_mem _ hc), List.append_nil]

theorem wordsChars_trimStart (cs : List Char) : wordsChars (trimStart cs) = wordsChars cs := by
  induction cs with
  | nil => rfl
  | cons c cs ih =>
    by_cases hc : isBlank c = true
    · rw [wordsChars_cons_of_blank hc, ← ih, trimStart, trimStart, List.dropWhile_cons_of_pos hc]
    · rw [trimStart, List.dropWhile_cons_of_neg hc]

/-- What is dropped at the end is a run of blanks. -/
theorem exists_trimEnd_append (cs : List Char) :
    ∃ rest, cs = trimEnd cs ++ rest ∧ ∀ c ∈ rest, isBlank c = true := by
  refine ⟨(cs.reverse.takeWhile isBlank).reverse, ?_, fun c hc => ?_⟩
  · rw [trimEnd, ← List.reverse_append, List.takeWhile_append_dropWhile, List.reverse_reverse]
  · exact List.all_eq_true.mp List.all_takeWhile c (List.mem_reverse.mp hc)

theorem wordsChars_trimEnd (cs : List Char) : wordsChars (trimEnd cs) = wordsChars cs := by
  obtain ⟨rest, hrest, hb⟩ := exists_trimEnd_append cs
  conv => rhs; rw [hrest]
  rw [wordsChars_append_blanks hb]

/-- **Blanks around a text do not count.** -/
theorem wordsChars_trim (cs : List Char) : wordsChars (trimChars cs) = wordsChars cs := by
  rw [trimChars, wordsChars_trimEnd, wordsChars_trimStart]

theorem words_trim (s : String) : words (trim s) = words s := by
  rw [words, words, trim, String.toList_ofList, wordsChars_trim]

theorem dropWhile_of_letters (h : ∀ c ∈ cs, isBlank c = false) : cs.dropWhile isBlank = cs := by
  cases cs with
  | nil => rfl
  | cons c cs => exact List.dropWhile_cons_of_neg (by simp [h c List.mem_cons_self])

/-- A text without blanks has none to drop. -/
theorem trimChars_of_letters (h : ∀ c ∈ cs, isBlank c = false) : trimChars cs = cs := by
  have hr : ∀ c ∈ cs.reverse, isBlank c = false := fun c hc => h c (List.mem_reverse.mp hc)
  rw [trimChars, trimStart, dropWhile_of_letters h, trimEnd, dropWhile_of_letters hr,
    List.reverse_reverse]

/-- What is left starts with a letter, if anything is left. -/
theorem isBlank_head?_trimStart (cs : List Char) : ∀ c ∈ (trimStart cs).head?, isBlank c = false := by
  intro c hc
  have h := List.head?_dropWhile_not isBlank cs
  rw [← trimStart, hc] at h
  exact h

theorem isBlank_getLast?_trimEnd (cs : List Char) : ∀ c ∈ (trimEnd cs).getLast?, isBlank c = false := by
  intro c hc
  rw [trimEnd, List.getLast?_reverse] at hc
  exact isBlank_head?_trimStart cs.reverse c hc

theorem trimEnd_isPrefix (cs : List Char) : trimEnd cs <+: cs := by
  rw [trimEnd, ← List.reverse_suffix, List.reverse_reverse]
  exact List.dropWhile_suffix isBlank

/-- **What is left of a text has no blanks at its ends.** -/
theorem isBlank_ends_trimChars (cs : List Char) :
    (∀ c ∈ (trimChars cs).head?, isBlank c = false) ∧
      ∀ c ∈ (trimChars cs).getLast?, isBlank c = false := by
  refine ⟨fun c hc => ?_, isBlank_getLast?_trimEnd (trimStart cs)⟩
  apply isBlank_head?_trimStart cs
  -- The text is cut at its end, so that its first character stays.
  obtain ⟨rest, hrest⟩ := trimEnd_isPrefix (trimStart cs)
  rw [← hrest, List.head?_append, show (trimEnd (trimStart cs)).head? = some c from hc]
  rfl

/-- **Nothing is left of a text** that has no letter, and of no other. -/
theorem trimChars_eq_nil_iff : trimChars cs = [] ↔ ∀ c ∈ cs, isBlank c = true := by
  have hstart : trimStart cs = [] ↔ ∀ c ∈ cs, isBlank c = true := List.dropWhile_eq_nil_iff
  rw [← hstart]
  constructor
  · intro h
    rw [trimChars, trimEnd, List.reverse_eq_nil_iff, List.dropWhile_eq_nil_iff] at h
    cases hrest : trimStart cs with
    | nil => rfl
    | cons c rest =>
      have hblank : isBlank c = true := h c (by simp [hrest])
      have hletter : isBlank c = false := isBlank_head?_trimStart cs c (by rw [hrest]; rfl)
      rw [hblank] at hletter
      cases hletter
  · intro h
    rw [trimChars, h]
    rfl

/-- **Blanks behind a text are dropped.** -/
theorem trimChars_append_right (hb : ∀ c ∈ rest, isBlank c = true) :
    trimChars (cs ++ rest) = trimChars cs := by
  have hend : ∀ front, trimEnd (front ++ rest) = trimEnd front := by
    intro front
    rw [trimEnd, trimEnd, List.reverse_append,
      List.dropWhile_append_of_pos fun c hc => hb c (List.mem_reverse.mp hc)]
  rw [trimChars, trimStart, List.dropWhile_append, trimChars, trimStart]
  cases hstart : cs.dropWhile isBlank with
  | nil => rw [if_pos List.isEmpty_nil, List.dropWhile_eq_nil_iff.mpr hb]
  | cons c front => exact hend (c :: front)

/-- **Blanks in front of a text are dropped.** -/
theorem trimChars_append_left (hb : ∀ c ∈ cs, isBlank c = true) :
    trimChars (cs ++ rest) = trimChars rest := by
  rw [trimChars, trimStart, List.dropWhile_append_of_pos hb]
  rfl

/-- Letters are what is left of a text in which they stand in front of blanks. -/
theorem trimChars_append_blanks (h : ∀ c ∈ cs, isBlank c = false)
    (hb : ∀ c ∈ rest, isBlank c = true) : trimChars (cs ++ rest) = cs := by
  rw [trimChars_append_right hb, trimChars_of_letters h]

theorem dropWhile_of_head (h : ∀ c ∈ cs.head?, isBlank c = false) : cs.dropWhile isBlank = cs := by
  cases cs with
  | nil => rfl
  | cons c cs => exact List.dropWhile_cons_of_neg (by simp [h c rfl])

/-- A text without blanks at its ends stays. -/
theorem trimChars_of_ends (hh : ∀ c ∈ cs.head?, isBlank c = false)
    (hl : ∀ c ∈ cs.getLast?, isBlank c = false) : trimChars cs = cs := by
  rw [← List.head?_reverse] at hl
  rw [trimChars, trimStart, dropWhile_of_head hh, trimEnd, dropWhile_of_head hl, List.reverse_reverse]

theorem trimChars_trimStart (cs : List Char) : trimChars (trimStart cs) = trimChars cs := by
  rw [trimChars, trimStart, dropWhile_of_head (isBlank_head?_trimStart cs)]
  rfl

theorem trimChars_trimEnd (cs : List Char) : trimChars (trimEnd cs) = trimChars cs := by
  obtain ⟨rest, hrest, hb⟩ := exists_trimEnd_append cs
  conv => rhs; rw [hrest, trimChars_append_right hb]

theorem trimStart_append_cons (hd : isBlank d = false) (cs rest : List Char) :
    trimStart (cs ++ d :: rest) = trimStart cs ++ d :: rest := by
  rw [trimStart, trimStart, List.dropWhile_append]
  cases cs.dropWhile isBlank with
  | nil => exact List.dropWhile_cons_of_neg (by simp [hd])
  | cons c cs => rfl

/-- **Around a letter, each side is trimmed at its own end.** -/
theorem trimChars_append_cons (hd : isBlank d = false) (cs rest : List Char) :
    trimChars (cs ++ d :: rest) = trimStart cs ++ d :: trimEnd rest := by
  have hend := trimStart_append_cons hd rest.reverse (trimStart cs).reverse
  rw [trimChars, trimStart_append_cons hd, trimEnd, trimEnd, List.reverse_append, List.reverse_cons,
    List.append_assoc, List.singleton_append, ← trimStart, hend, ← trimStart]
  simp

theorem mem_of_mem_trimChars (h : c ∈ trimChars cs) : c ∈ cs :=
  (List.dropWhile_suffix isBlank).subset ((trimEnd_isPrefix _).subset h)

/-- Nothing is left of a blank text, and of no other. -/
theorem isEmpty_trim (s : String) : (trim s).isEmpty = isBlankText s := by
  rw [Bool.eq_iff_iff, String.isEmpty_iff, ← String.toList_eq_nil_iff, trim, String.toList_ofList,
    trimChars_eq_nil_iff, isBlankText, List.all_eq_true]

/-! ## Words that are joined -/

/-- **The words that are joined by single spaces.** -/
theorem wordsChars_intercalate {ws : List (List Char)} (h : ∀ w ∈ ws, IsWord w) :
    wordsChars ([' '].intercalate ws) = ws := by
  induction ws with
  | nil => rfl
  | cons w ws ih =>
    have hw : wordsChars w = [w] := wordsChars_of_isWord (h w List.mem_cons_self)
    cases ws with
    | nil => simpa using hw
    | cons v ws =>
      have hi := ih fun w hw => h w (List.mem_cons_of_mem _ hw)
      rw [List.intercalate_cons_cons, List.append_assoc, List.singleton_append,
        wordsChars_append_blank (by decide), hw, hi]
      rfl

theorem words_intercalate {ws : List String} (h : ∀ w ∈ ws, IsWord w.toList) :
    words (" ".intercalate ws) = ws := by
  have hw : ∀ w ∈ ws.map String.toList, IsWord w := by simpa using h
  rw [words, String.toList_intercalate]
  -- The separator is unfolded to the single space that the characters are joined by.
  change (wordsChars ([' '].intercalate (ws.map String.toList))).map String.ofList = ws
  rw [wordsChars_intercalate hw, List.map_map]
  simp [Function.comp_def]

/-! ## Where words stand -/

/-- Blanks in front of a text do not count. -/
theorem wordsChars_blanks_append (h : ∀ c ∈ cs, isBlank c = true) :
    wordsChars (cs ++ rest) = wordsChars rest := by
  induction cs with
  | nil => rfl
  | cons c cs ih =>
    rw [List.cons_append, wordsChars_cons_of_blank (h c List.mem_cons_self)]
    exact ih fun c hc => h c (List.mem_cons_of_mem _ hc)

/-- **The words on both sides of blanks.** -/
theorem wordsChars_append_blanks_append {gap : List Char} (hne : gap ≠ [])
    (hgap : ∀ c ∈ gap, isBlank c = true) :
    wordsChars (cs ++ (gap ++ rest)) = wordsChars cs ++ wordsChars rest := by
  obtain ⟨b, gap, rfl⟩ := List.exists_cons_of_ne_nil hne
  rw [List.cons_append, wordsChars_append_blank (hgap b List.mem_cons_self),
    wordsChars_blanks_append fun c hc => hgap c (List.mem_cons_of_mem _ hc)]

/-- A word in front of a blank, or of nothing, is the first one. -/
theorem wordsChars_append_of_end (h : IsWord cs) (he : ∀ d ∈ rest.head?, isBlank d = true) :
    wordsChars (cs ++ rest) = cs :: wordsChars rest := by
  cases rest with
  | nil =>
    rw [List.append_nil, wordsChars_of_isWord h]
    rfl
  | cons b rest =>
    have hb : isBlank b = true := he b rfl
    rw [wordsChars_append_blank hb, wordsChars_of_isWord h, wordsChars_cons_of_blank hb]
    rfl

/-- **A piece of a text that is one of its words**: blanks, or an end of the text, stand on both sides
of it. -/
def StandsAlone (w cs : List Char) : Prop :=
  IsWord w ∧ ∃ before after, cs = before ++ (w ++ after) ∧
    (∀ c ∈ before.getLast?, isBlank c = true) ∧ ∀ c ∈ after.head?, isBlank c = true

/-- What stands alone behind something is a word of the whole if that is no letter. -/
theorem StandsAlone.append_left {w : List Char} (h : StandsAlone w rest)
    (hb : (∀ c ∈ cs.getLast?, isBlank c = true) ∨ ∀ c ∈ rest.head?, isBlank c = true) :
    StandsAlone w (cs ++ rest) := by
  obtain ⟨hw, before, after, rfl, hbefore, hafter⟩ := h
  refine ⟨hw, cs ++ before, after, by rw [List.append_assoc], fun c hc => ?_, hafter⟩
  rcases List.eq_nil_or_concat before with rfl | ⟨before, b, rfl⟩
  · rw [List.append_nil] at hc
    obtain ⟨x, w, rfl⟩ := List.exists_cons_of_ne_nil hw.1
    -- The word starts with a letter, so that a blank stands in front of it.
    rcases hb with hb | hb
    · exact hb c hc
    · have hx : isBlank x = true := hb x rfl
      rw [hw.2 x List.mem_cons_self] at hx
      cases hx
  · refine hbefore c ?_
    rw [List.concat_eq_append, ← List.append_assoc, List.getLast?_concat] at hc
    rwa [List.concat_eq_append, List.getLast?_concat]

/-- The first word of a text that starts with a letter ends where the first blank stands. -/
theorem exists_first_word (hc : isBlank c = false) (rest : List Char) :
    ∃ w later, c :: rest = w ++ later ∧ IsWord w ∧ (∀ d ∈ later.head?, isBlank d = true) ∧
      later.length < (c :: rest).length ∧ wordsChars (c :: rest) = w :: wordsChars later := by
  have hsplit := List.takeWhile_append_dropWhile (p := fun c => !isBlank c) (l := c :: rest)
  have hword : IsWord ((c :: rest).takeWhile fun c => !isBlank c) := by
    refine ⟨by simp [hc], fun x hx => ?_⟩
    simpa using List.mem_takeWhile_imp hx
  have hend : ∀ x ∈ ((c :: rest).dropWhile fun c => !isBlank c).head?, isBlank x = true := by
    intro x hx
    have hnot := List.head?_dropWhile_not (fun c => !isBlank c) (c :: rest)
    rw [hx] at hnot
    simpa using hnot
  refine ⟨_, _, hsplit.symm, hword, hend, ?_, ?_⟩
  · rw [List.dropWhile_cons_of_pos (by simpa using hc)]
    exact Nat.lt_succ_of_le (List.length_dropWhile_le _ _)
  · rw [← wordsChars_append_of_end hword hend, hsplit]

/-- **The words of a text** are the pieces that stand alone. -/
theorem mem_wordsChars_iff {w : List Char} : w ∈ wordsChars cs ↔ StandsAlone w cs := by
  constructor
  · intro h
    induction hn : cs.length using Nat.strong_induction_on generalizing cs with
    | _ n ih =>
    subst hn
    cases cs with
    | nil => cases h
    | cons c rest =>
      by_cases hc : isBlank c = true
      · rw [wordsChars_cons_of_blank hc] at h
        have hrest : StandsAlone w rest := ih _ (Nat.lt_succ_self _) h rfl
        have hblank : ∀ x ∈ [c].getLast?, isBlank x = true := by simpa using hc
        exact hrest.append_left (.inl hblank)
      · obtain ⟨first, later, hsplit, hword, hend, hshort, hwords⟩ :=
          exists_first_word (by simpa using hc) rest
        rw [hwords] at h
        rw [hsplit]
        rcases List.mem_cons.mp h with rfl | h
        · exact ⟨hword, [], later, rfl, nofun, hend⟩
        · exact (ih _ hshort h rfl).append_left (.inr hend)
  · rintro ⟨hw, before, after, rfl, hbefore, hafter⟩
    have hmem : w ∈ wordsChars (w ++ after) := by
      rw [wordsChars_append_of_end hw hafter]
      exact List.mem_cons_self
    rcases List.eq_nil_or_concat before with rfl | ⟨before, b, rfl⟩
    · exact hmem
    · have hb : isBlank b = true := hbefore b (by simp)
      rw [List.concat_eq_append, List.append_assoc, List.singleton_append,
        wordsChars_append_blank hb]
      exact List.mem_append_right _ hmem

end NodeAgent.Text
