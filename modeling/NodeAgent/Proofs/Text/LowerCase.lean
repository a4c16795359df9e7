import NodeAgent.Proofs.Text.Split
import NodeAgent.Proofs.Text.Words
import NodeAgent.Text.LowerCase

/-!
# Lower case goes word by word

A blank has no case, and a letter does not become one.  What comes after a final sigma matters only up to
the next blank, and what comes before it only back to the last one.  The words of a text in lower case
are therefore its words, each in lower case.

## Main results

* `toLowerChars_append_blank`: the lower-case form on both sides of a blank.
* `words_toLower`: the words of a text in lower case.
-/

namespace NodeAgent.Text

/-! ## Blanks in the tables -/

/-- The code points of the blanks. -/
def blankCodes : List Nat :=
  [9, 10, 11, 12, 13, 0x20, 0x85, 0xA0, 0x1680, 0x2000, 0x2001, 0x2002, 0x2003, 0x2004, 0x2005, 0x2006,
    0x2007, 0x2008, 0x2009, 0x200A, 0x2028, 0x2029, 0x202F, 0x205F, 0x3000]

theorem mem_blankCodes {c : Char} (h : isBlank c = true) : c.toNat ∈ blankCodes := by
  simp only [isBlank, Bool.or_eq_true, Bool.and_eq_true, decide_eq_true_eq, beq_iff_eq] at h
  simp only [blankCodes, List.mem_cons, List.not_mem_nil, or_false]
  omega

theorem blankCodes_uncased :
    ∀ n ∈ blankCodes, inRanges casedRanges n = false ∧ inRanges caseIgnorableRanges n = false := by
  decide +kernel

theorem blankCodes_unchanged : ∀ n ∈ blankCodes,
    lowerChar (Char.ofNat n) = Char.ofNat n ∧ Char.ofNat n ≠ 'Σ' ∧ Char.ofNat n ≠ 'İ' := by
  decide +kernel

/-- No run of upper-case letters has a blank among the partners of its letters. -/
theorem lowerRuns_not_blank : ∀ run ∈ lowerRuns, ∀ n ∈ blankCodes,
    (n : Int) < run.1 + run.2.2.2 ∨ run.2.1 + run.2.2.2 < (n : Int) := by
  decide +kernel

theorem ascii_not_blank : ∀ n < 0x80, isBlank (Char.ofNat n) = false →
    isBlank (Char.ofNat n).toLower = false := by
  decide +kernel

variable {b c : Char} {cs rest before : List Char}

theorem isCased_of_blank (h : isBlank b = true) : isCased b = false :=
  (blankCodes_uncased _ (mem_blankCodes h)).1

theorem isCaseIgnorable_of_blank (h : isBlank b = true) : isCaseIgnorable b = false :=
  (blankCodes_uncased _ (mem_blankCodes h)).2

theorem lowerChar_of_blank (h : isBlank b = true) : lowerChar b = b ∧ b ≠ 'Σ' ∧ b ≠ 'İ' := by
  have hb := blankCodes_unchanged _ (mem_blankCodes h)
  rwa [Char.ofNat_toNat] at hb

/-- The code point of the character of a number, or zero if there is no such character. -/
theorem toNat_ofNat_cases (n : Nat) : (Char.ofNat n).toNat = n ∨ (Char.ofNat n).toNat = 0 := by
  by_cases h : n.isValidChar
  · left
    rw [Char.ofNat, dif_pos h]
    rfl
  · right
    rw [Char.ofNat, dif_neg h]
    rfl

/-- **A letter does not become a blank.** -/
theorem lowerChar_of_letter (h : isBlank c = false) : isBlank (lowerChar c) = false := by
  unfold lowerChar
  dsimp only
  split
  · next hn =>
    have ha := ascii_not_blank c.toNat hn
    rw [Char.ofNat_toNat] at ha
    exact ha h
  · split
    · next low high step distance hf =>
      -- A blank among the partners of the run would lie between its ends, where the table has none.
      have hm := lowerRuns_not_blank _ (List.mem_of_find?_eq_some hf)
      have hr := List.find?_some hf
      simp only [Bool.and_eq_true, decide_eq_true_eq] at hr
      refine Bool.eq_false_iff.mpr fun hb => ?_
      have hcode := mem_blankCodes hb
      have hpos : 0 ∉ blankCodes := by decide
      rcases toNat_ofNat_cases (Int.toNat (c.toNat + distance)) with he | he <;>
        (rw [shift, he] at hcode)
      · have hne : Int.toNat (c.toNat + distance) ≠ 0 := fun h0 => hpos (h0 ▸ hcode)
        have hout := hm _ hcode
        dsimp only at hout
        omega
      · exact hpos hcode
    · exact h

/-! ## Contexts -/

/-- The context of a character does not reach over a blank. -/
theorem startsCased_append_blank (hb : isBlank b = true) (cs rest : List Char) :
    startsCased (cs ++ b :: rest) = startsCased cs := by
  unfold startsCased
  rw [List.dropWhile_append]
  -- A blank is not ignored, so that the search stops there at the latest, and it has no case.
  cases hd : cs.dropWhile isCaseIgnorable with
  | nil =>
    rw [if_pos List.isEmpty_nil,
      List.dropWhile_cons_of_neg (by simp [isCaseIgnorable_of_blank hb])]
    exact isCased_of_blank hb
  | cons c cs => rfl

/-- The lower-case form of a character in its context. -/
def lowered (before : List Char) (c : Char) (rest : List Char) : List Char :=
  if c == 'Σ' then (if isFinalSigma before rest then ['ς'] else ['σ'])
  else if c == 'İ' then ['i', '\u0307']
  else [lowerChar c]

theorem toLowerChars_cons (before : List Char) (c : Char) (rest : List Char) :
    toLowerChars before (c :: rest) = lowered before c rest ++ toLowerChars (c :: before) rest :=
  rfl

theorem lowered_of_blank (hb : isBlank b = true) (before rest : List Char) :
    lowered before b rest = [b] := by
  obtain ⟨hl, hs, hi⟩ := lowerChar_of_blank hb
  rw [lowered, if_neg (by simpa using hs), if_neg (by simpa using hi), hl]

/-- A letter becomes a word. -/
theorem isWord_lowered (hc : isBlank c = false) (before rest : List Char) :
    IsWord (lowered before c rest) := by
  have hword : ∀ cs : List Char, cs ≠ [] → (cs.all fun x => !isBlank x) = true → IsWord cs := by
    intro cs hne hall
    refine ⟨hne, fun x hx => ?_⟩
    simpa using List.all_eq_true.mp hall x hx
  unfold lowered
  split
  · split <;> exact hword _ (List.cons_ne_nil _ _) (by decide)
  split
  · exact hword _ (List.cons_ne_nil _ _) (by decide)
  · exact ⟨List.cons_ne_nil _ _, by simpa using lowerChar_of_letter hc⟩

theorem lowered_congr {before' rest' : List Char} (hb : startsCased before = startsCased before')
    (hr : startsCased rest = startsCased rest') (c : Char) :
    lowered before c rest = lowered before' c rest' := by
  unfold lowered isFinalSigma
  rw [hb, hr]

/-- What comes before a blank does not matter behind it. -/
theorem toLowerChars_behind_blank (hb : isBlank b = true) (before junk cs : List Char) :
    toLowerChars (before ++ b :: junk) cs = toLowerChars before cs := by
  induction cs generalizing before with
  | nil => rfl
  | cons c cs ih =>
    rw [toLowerChars_cons, toLowerChars_cons,
      lowered_congr (startsCased_append_blank hb before junk) rfl, ← List.cons_append, ih]

/-- **The lower-case form on both sides of a blank.** -/
theorem toLowerChars_append_blank (hb : isBlank b = true) (before cs rest : List Char) :
    toLowerChars before (cs ++ b :: rest) = toLowerChars before cs ++ b :: toLowerChars [] rest := by
  induction cs generalizing before with
  | nil =>
    -- The text behind the blank forgets what came before it.
    rw [List.nil_append, toLowerChars_cons, lowered_of_blank hb,
      show b :: before = [] ++ b :: before from rfl, toLowerChars_behind_blank hb]
    rfl
  | cons c cs ih =>
    rw [List.cons_append, toLowerChars_cons, toLowerChars_cons, ih,
      lowered_congr rfl (startsCased_append_blank hb cs rest), List.append_assoc]

theorem isWord_toLowerChars (h : IsWord cs) (before : List Char) :
    IsWord (toLowerChars before cs) := by
  -- Each letter becomes letters; the text in front may be any, since it grows on the way.
  have hl : ∀ cs before, (∀ c ∈ cs, isBlank c = false) →
      ∀ d ∈ toLowerChars before cs, isBlank d = false := by
    intro cs
    induction cs with
    | nil => exact fun _ _ _ hd => nomatch hd
    | cons c cs ih =>
      intro before hc d hd
      rw [toLowerChars_cons] at hd
      rcases List.mem_append.mp hd with hd | hd
      · exact (isWord_lowered (hc c List.mem_cons_self) before cs).2 d hd
      · exact ih _ (fun c hm => hc c (List.mem_cons_of_mem _ hm)) d hd
  refine ⟨?_, hl cs before h.2⟩
  obtain ⟨c, cs, rfl⟩ := List.exists_cons_of_ne_nil h.1
  rw [toLowerChars_cons]
  exact List.append_ne_nil_of_left_ne_nil (isWord_lowered (h.2 c List.mem_cons_self) before cs).1 _

/-! ## Words -/

/-- A text is one word or nothing, or it goes on behind a blank. -/
theorem letters_or_blank (cs : List Char) :
    (∀ c ∈ cs, isBlank c = false) ∨
      ∃ front b rest, cs = front ++ b :: rest ∧ isBlank b = true ∧ ∀ c ∈ front, isBlank c = false := by
  cases hcut : splitAtFirst isBlank cs with
  | none => exact .inl (splitAtFirst_eq_none_iff.mp hcut)
  | some parts =>
    obtain ⟨front, rest⟩ := parts
    obtain ⟨b, hcs, hb, hfront⟩ := splitAtFirst_eq_some_iff.mp hcut
    exact .inr ⟨front, b, rest, hcs, hb, hfront⟩

theorem wordsChars_toLowerChars_of_letters (h : ∀ c ∈ cs, isBlank c = false) :
    wordsChars (toLowerChars [] cs) = (wordsChars cs).map (toLowerChars []) := by
  cases cs with
  | nil => rfl
  | cons c cs =>
    have hw : IsWord (c :: cs) := ⟨List.cons_ne_nil _ _, h⟩
    rw [wordsChars_of_isWord hw, wordsChars_of_isWord (isWord_toLowerChars hw [])]
    rfl

/-- **The words of a text in lower case.** -/
theorem wordsChars_toLowerChars (cs : List Char) :
    wordsChars (toLowerChars [] cs) = (wordsChars cs).map (toLowerChars []) := by
  -- The text is cut at its first blank, and the rest is shorter.
  rcases letters_or_blank cs with h | ⟨front, b, rest, he, hb, hf⟩
  · exact wordsChars_toLowerChars_of_letters h
  · rw [he, toLowerChars_append_blank hb, wordsChars_append_blank hb, wordsChars_append_blank hb,
      wordsChars_toLowerChars_of_letters hf, wordsChars_toLowerChars rest, List.map_append]
termination_by cs.length
decreasing_by
  rw [he, List.length_append, List.length_cons]
  omega

theorem words_toLower (s : String) : words (toLower s) = (words s).map toLower := by
  rw [words, words, toLower, String.toList_ofList, wordsChars_toLowerChars, List.map_map,
    List.map_map]
  refine List.map_congr_left fun cs _ => ?_
  rw [Function.comp_apply, Function.comp_apply, toLower, String.toList_ofList]

end NodeAgent.Text
