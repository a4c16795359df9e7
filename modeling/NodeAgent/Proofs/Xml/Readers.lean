import Mathlib.Data.List.Infix
import NodeAgent.Proofs.Text.Split
import NodeAgent.Xml.Document

/-!
# What the readers of XML read

The smallest readers read off what stands in front of them and leave the rest, whatever the rest is.

## Main results

* `run_expect`, `run_spaces`, `run_comesNext`: marks and white space.
* `charsUntil_append`: characters up to a stop.
* `run_charsThrough`: characters up to a mark that they do not hold.
-/

namespace NodeAgent.Xml

open Text

/-- A reader that succeeds hands over what is left. -/
theorem run_bind_ok {α β : Type} {x : XmlReader α} {f : α → XmlReader β} {a : α} {cs rest : List Char}
    (h : x.run cs = .ok (a, rest)) : (x >>= f).run cs = (f a).run rest := by
  rw [StateT.run_bind, h]
  rfl

theorem run_get (cs : List Char) : (get : XmlReader (List Char)).run cs = .ok (cs, cs) := rfl

/-! ## Marks -/

theorem afterPrefix?_append (cs rest : List Char) : afterPrefix? cs (cs ++ rest) = some rest := by
  induction cs with
  | nil => rfl
  | cons c cs ih => rwa [List.cons_append, afterPrefix?, if_pos rfl]

theorem isSome_afterPrefix?_iff {cs rest : List Char} :
    (afterPrefix? cs rest).isSome = true ↔ cs <+: rest := by
  induction cs generalizing rest with
  | nil => simp [afterPrefix?]
  | cons c cs ih =>
    cases rest with
    | nil => simp [afterPrefix?]
    | cons d rest =>
      rw [afterPrefix?, List.cons_prefix_cons]
      split
      · next h => simp [h, ih]
      · next h => simp [h]

/-- **A mark that has to come** is read. -/
theorem run_expect (text : String) (rest : List Char) :
    (expect text).run (text.toList ++ rest) = .ok ((), rest) := by
  change Reader.takeText text _ _ = _
  rw [Reader.takeText, afterPrefix?_append]

theorem run_comesNext (text : String) (cs : List Char) :
    (Reader.comesNext text : XmlReader Bool).run cs = .ok ((afterPrefix? text.toList cs).isSome, cs) :=
  rfl

theorem run_comesNext_of_isPrefix {text : String} {cs : List Char} (h : text.toList <+: cs) :
    (Reader.comesNext text : XmlReader Bool).run cs = .ok (true, cs) := by
  rw [run_comesNext, isSome_afterPrefix?_iff.mpr h]

theorem run_comesNext_of_not_isPrefix {text : String} {cs : List Char} (h : ¬text.toList <+: cs) :
    (Reader.comesNext text : XmlReader Bool).run cs = .ok (false, cs) := by
  rw [run_comesNext, Bool.eq_false_iff.mpr (mt isSome_afterPrefix?_iff.mp h)]

/-- A mark does not come if another character does. -/
theorem run_comesNext_of_ne {text : String} {x c : Char} {xs : List Char} (ht : text.toList = x :: xs)
    (hne : x ≠ c) (rest : List Char) :
    (Reader.comesNext text : XmlReader Bool).run (c :: rest) = .ok (false, c :: rest) := by
  refine run_comesNext_of_not_isPrefix fun h => ?_
  rw [ht, List.cons_prefix_cons] at h
  exact hne h.1

/-! ## Classes of characters -/

section Classes

variable {p : Char → Bool} {cs rest : List Char} {d : Char}

theorem forall_head?_cons (hd : p d = false) (rest : List Char) :
    ∀ c ∈ (d :: rest).head?, p c = false := by
  intro c hc
  obtain rfl := Option.some.inj hc
  exact hd

theorem takeWhile_append (h : ∀ c ∈ cs, p c = true) (hr : ∀ c ∈ rest.head?, p c = false) :
    (cs ++ rest).takeWhile p = cs := by
  rw [List.takeWhile_append_of_pos h]
  cases rest with
  | nil => simp
  | cons c rest => rw [List.takeWhile_cons_of_neg (by simp [hr c rfl]), List.append_nil]

theorem dropWhile_append (h : ∀ c ∈ cs, p c = true) (hr : ∀ c ∈ rest.head?, p c = false) :
    (cs ++ rest).dropWhile p = rest := by
  rw [List.dropWhile_append_of_pos h]
  cases rest with
  | nil => rfl
  | cons c rest => exact List.dropWhile_cons_of_neg (by simp [hr c rfl])

/-- **White space is read.** -/
theorem run_spaces (h : ∀ c ∈ cs, isXmlSpace c = true) (hr : ∀ c ∈ rest.head?, isXmlSpace c = false) :
    spaces.run (cs ++ rest) = .ok (decide (cs ≠ []), rest) := by
  change Except.ok (decide (((cs ++ rest).dropWhile isXmlSpace).length < _), _) = _
  rw [dropWhile_append h hr, List.length_append]
  cases cs <;> simp

end Classes

theorem isXmlChar_of_isXmlSpace {c : Char} (h : isXmlSpace c = true) : isXmlChar c = true := by
  simp only [isXmlSpace, Bool.or_eq_true, beq_iff_eq] at h
  rcases h with ((rfl | rfl) | rfl) | rfl <;> decide

/-! ## Characters up to a stop -/

/-- **Characters are read up to a stop.** -/
theorem charsUntil_append {stop : List Char → Bool} {cs rest : List Char}
    (h : ∀ c ∈ cs, isXmlChar c = true)
    (hs : ∀ before after, cs = before ++ after → after ≠ [] → stop (after ++ rest) = false)
    (hr : charsUntil stop rest = .ok ([], rest)) :
    charsUntil stop (cs ++ rest) = .ok (cs, rest) := by
  induction cs with
  | nil => exact hr
  | cons c cs ih =>
    have ih := ih (fun x hx => h x (List.mem_cons_of_mem _ hx))
      fun before after hsplit => hs (c :: before) after (congrArg (c :: ·) hsplit)
    have hgo : stop (c :: (cs ++ rest)) = false := hs [] (c :: cs) rfl (List.cons_ne_nil _ _)
    rw [List.cons_append, charsUntil, if_neg (by simp [h c List.mem_cons_self]), if_neg (by simp [hgo]), ih]

/-- A stop in front of certain characters is not met before one of them. -/
theorem charsUntil_append_of_head {p : Option Char → Bool} {cs : List Char} {d : Char} (rest : List Char)
    (h : ∀ c ∈ cs, isXmlChar c = true ∧ p (some c) = false) (hd : isXmlChar d = true)
    (hp : p (some d) = true) :
    charsUntil (fun rest => p rest.head?) (cs ++ d :: rest) = .ok (cs, d :: rest) := by
  refine charsUntil_append (fun c hc => (h c hc).1) (fun before after hsplit hne => ?_) ?_
  · obtain ⟨c, more, rfl⟩ := List.exists_cons_of_ne_nil hne
    exact (h c (hsplit ▸ List.mem_append_right _ List.mem_cons_self)).2
  · rw [charsUntil, if_neg (by simp [hd]), if_pos]
    exact hp

/-- A mark that ends with its only angle bracket stands in front of itself only if it stands in what is
before it. -/
theorem prefix_of_prefix_append {mark after rest : List Char} (hmark : '>' ∉ mark) (hne : after ≠ [])
    (h : mark ++ ['>'] <+: after ++ (mark ++ ['>'] ++ rest)) : mark ++ ['>'] <+: after := by
  rcases List.prefix_or_prefix_of_prefix h (List.prefix_append _ _) with h' | ⟨tail, htail⟩
  · exact h'
  rcases List.eq_nil_or_concat tail with rfl | ⟨front, last, rfl⟩
  · rw [List.append_nil] at htail
    rw [htail]
  -- What is left of the mark ends with the bracket, and would start the mark again.
  exfalso
  rw [List.concat_eq_append] at htail
  have hlast : last = '>' := by
    rw [← List.append_assoc] at htail
    exact List.singleton_inj.mp (List.append_inj' htail rfl).2
  subst hlast
  rw [← htail, List.append_assoc, List.prefix_append_right_inj, ← List.append_assoc, htail,
    List.append_assoc] at h
  have hshort : (front ++ ['>']).length ≤ mark.length := by
    have hlength := congrArg List.length htail
    have hpos := List.length_pos_iff.mpr hne
    simp only [List.length_append, List.length_singleton] at hlength ⊢
    omega
  exact hmark ((List.prefix_of_prefix_length_le h (List.prefix_append _ _) hshort).subset
    (List.mem_append_right _ (List.mem_singleton_self _)))

/-- **Characters are read through a mark** that does not stand among them. -/
theorem run_charsThrough (stop : String) (mark : List Char) {cs : List Char}
    (hstop : stop.toList = mark ++ ['>']) (hmark : '>' ∉ mark) (hchars : ∀ c ∈ mark, isXmlChar c = true)
    (h : ∀ c ∈ cs, isXmlChar c = true) (hnot : ¬stop.toList <:+: cs) (rest : List Char) :
    (charsThrough stop).run (cs ++ (stop.toList ++ rest)) = .ok (cs, rest) := by
  have huntil : charsUntil (fun rest => (afterPrefix? stop.toList rest).isSome)
      (cs ++ (stop.toList ++ rest)) = .ok (cs, stop.toList ++ rest) := by
    refine charsUntil_append h (fun before after hsplit hne => ?_) ?_
    · refine Bool.eq_false_iff.mpr fun hmet => hnot ?_
      rw [isSome_afterPrefix?_iff, hstop] at hmet
      rw [hstop, hsplit]
      exact (prefix_of_prefix_append hmark hne hmet).isInfix.trans (List.suffix_append _ _).isInfix
    · have hmet : (afterPrefix? stop.toList (stop.toList ++ rest)).isSome = true :=
        isSome_afterPrefix?_iff.mpr (List.prefix_append _ _)
      -- The mark starts with a character of a document.
      obtain ⟨c, more, hc, hxml⟩ : ∃ c more, stop.toList = c :: more ∧ isXmlChar c = true := by
        rw [hstop]
        cases mark with
        | nil => exact ⟨'>', [], rfl, by decide⟩
        | cons c more => exact ⟨c, more ++ ['>'], rfl, hchars c List.mem_cons_self⟩
      rw [hc, List.cons_append] at hmet ⊢
      rw [charsUntil, if_neg (by simp [hxml]), if_pos hmet]
  rw [charsThrough, run_bind_ok huntil, run_bind_ok (run_expect stop rest)]
  rfl

end NodeAgent.Xml
