import Mathlib.Data.Nat.Digits.Defs
import NodeAgent.Proofs.Text.Number
import NodeAgent.Proofs.Xml.Readers

/-!
# Character data that is written

Text of a document and values of attributes are written as characters and references.  Characters are
referred to by a name or by their number, in decimal or hexadecimal digits.

## Main definitions

* `IsNumeral`: the number that digits of a radix are.
* `Refers`: the character that a reference stands for.
* `DataChar`: a character as it is written.
* `writeData`: how character data is written.

## Main results

* `reference?_of_refers`: a reference is read as its character.
* `dataUnits_writeData`: character data is read back.
* `settleLines_of_forall`: without carriage returns, line ends stay as they are.
* `run_textRun`: text is read.
-/

namespace NodeAgent.Xml

open Text

/-! ## References -/

/-- **The number that digits of a radix are**, the first digit counting most. -/
def IsNumeral (radix : Nat) (digits : List Char) (n : Nat) : Prop :=
  ∃ values : List Nat, values ≠ [] ∧ digits.map hexValue? = values.map some ∧
    (∀ v ∈ values, v < radix) ∧ Nat.ofDigits radix values.reverse = n

/-- **The character that a reference stands for.** -/
inductive Refers : List Char → Char → Prop
  | quot : Refers "quot".toList '"'
  | amp : Refers "amp".toList '&'
  | apos : Refers "apos".toList '\''
  | lt : Refers "lt".toList '<'
  | gt : Refers "gt".toList '>'
  | decimal {digits : List Char} {c : Char} (hn : IsNumeral 10 digits c.toNat)
      (hc : isXmlChar c = true) : Refers ('#' :: digits) c
  | hexadecimal {digits : List Char} {c : Char} (hn : IsNumeral 16 digits c.toNat)
      (hc : isXmlChar c = true) : Refers ('#' :: 'x' :: digits) c

variable {radix n : Nat} {digits name : List Char} {c : Char}

theorem mapM_eq_of_map_eq {values : List Nat} (h : digits.map hexValue? = values.map some)
    (hv : ∀ v ∈ values, v < radix) :
    (digits.mapM fun d => (hexValue? d).filter (· < radix)) = some values := by
  induction digits generalizing values with
  | nil =>
    obtain rfl := List.map_eq_nil_iff.mp h.symm
    rfl
  | cons d digits ih =>
    cases values with
    | nil => cases h
    | cons v values =>
      obtain ⟨hd, hdigits⟩ := List.cons.inj h
      have hlt : v < radix := hv v List.mem_cons_self
      rw [List.mapM_cons, hd, ih hdigits fun w hw => hv w (List.mem_cons_of_mem _ hw)]
      simp [Option.filter, hlt]

/-- The value of digits is the number that they are. -/
theorem digitsValue?_of_isNumeral (h : IsNumeral radix digits n) (hn : n < UInt32.size) :
    digitsValue? radix digits = some n := by
  obtain ⟨values, hne, hdigits, hv, hvalue⟩ := h
  have hfold : values.foldl (fun n d => n * radix + d) 0 = n := by
    rw [← hvalue, Nat.ofDigits_eq_foldr, List.foldr_reverse]
    refine congrArg (fun f => values.foldl f 0) ?_
    funext n d
    rw [Nat.cast_id, Nat.add_comm, Nat.mul_comm]
  rw [digitsValue?, mapM_eq_of_map_eq hdigits hv]
  split
  · next heq => cases heq
  · next heq =>
    obtain rfl := Option.some.inj heq
    exact absurd rfl hne
  · next heq =>
    obtain rfl := Option.some.inj heq
    simp only [hfold]
    rw [if_pos hn]

theorem numberedChar?_toNat (hc : isXmlChar c = true) : numberedChar? c.toNat = some c := by
  have hvalid : c.toNat.isValidChar := c.valid
  rw [numberedChar?, if_pos hvalid]
  simp only [Char.ofNat_toNat, hc, if_true]

theorem IsNumeral.isSome_hexValue? (h : IsNumeral radix digits n) :
    ∀ d ∈ digits, (hexValue? d).isSome = true := by
  obtain ⟨values, -, hdigits, -⟩ := h
  intro d hd
  obtain ⟨v, -, hv⟩ := List.mem_map.mp (hdigits ▸ List.mem_map_of_mem hd : hexValue? d ∈ values.map some)
  rw [← hv]
  rfl

/-- **A reference is read as its character.** -/
theorem reference?_of_refers (h : Refers name c) : reference? name = some c := by
  have hsmall : c.toNat < UInt32.size := c.val.toNat_lt_size
  cases h with
  | quot | amp | apos | lt | gt => rfl
  | @decimal digits _ hn hc =>
    -- No digit is the letter that hexadecimal digits stand behind.
    have hx : ∀ more, digits = 'x' :: more → False := by
      rintro more rfl
      exact absurd (hn.isSome_hexValue? 'x' List.mem_cons_self) (by decide)
    rw [reference?, digitsValue?_of_isNumeral hn hsmall]
    · exact numberedChar?_toNat hc
    · exact hx
  | hexadecimal hn hc =>
    change (digitsValue? 16 _).bind numberedChar? = _
    rw [digitsValue?_of_isNumeral hn hsmall]
    exact numberedChar?_toNat hc

/-- Characters that mean nothing to a reader of character data. -/
def isQuiet (c : Char) : Bool :=
  isXmlChar c && ['&', ';', '<', '>', '"', '\''].all (· != c)

theorem isQuiet_of_hexValue? {v : Nat} (h : hexValue? c = some v) : isQuiet c = true := by
  -- All digits are among the first characters, which are checked one by one.
  have hall : ∀ n < 128, (hexValue? (Char.ofNat n)).isSome = true → isQuiet (Char.ofNat n) = true := by
    decide
  have hc := hall c.toNat (toNat_lt_of_hexValue? h)
  rw [Char.ofNat_toNat, h] at hc
  exact hc rfl

/-- What stands in a reference means nothing else. -/
theorem isQuiet_of_refers (h : Refers name c) : ∀ x ∈ name, isQuiet x = true := by
  have hdigits : ∀ {radix digits n}, IsNumeral radix digits n → ∀ x ∈ digits, isQuiet x = true := by
    intro radix digits n hn x hx
    obtain ⟨v, hv⟩ := Option.isSome_iff_exists.mp (hn.isSome_hexValue? x hx)
    exact isQuiet_of_hexValue? hv
  cases h with
  | quot | amp | apos | lt | gt => decide
  | decimal hn => exact List.forall_mem_cons.mpr ⟨by decide, hdigits hn⟩
  | hexadecimal hn =>
    exact List.forall_mem_cons.mpr ⟨by decide, List.forall_mem_cons.mpr ⟨by decide, hdigits hn⟩⟩

/-! ## Characters and references -/

/-- **A character as it is written.** -/
inductive DataChar
  | plain (c : Char)
  /-- A reference by its name or number. -/
  | reference (name : List Char) (c : Char)
deriving DecidableEq

namespace DataChar

/-- The character that is written. -/
def char : DataChar → Char
  | plain c | reference _ c => c

/-- How it is written. -/
def write : DataChar → List Char
  | plain c => [c]
  | reference name _ => '&' :: (name ++ [';'])

/-- How it is read. -/
def unit : DataChar → DataUnit
  | plain c => .written c
  | reference _ c => .referred c

/-- **Characters that are written well**: those that start markup are referred to. -/
inductive IsWellFormed : DataChar → Prop
  | plain {c : Char} (hc : isXmlChar c = true) (hl : c ≠ '<') (ha : c ≠ '&') : IsWellFormed (plain c)
  | reference {name : List Char} {c : Char} (h : Refers name c) : IsWellFormed (reference name c)

end DataChar

/-- **How character data is written.** -/
def writeData (data : List DataChar) : List Char :=
  data.flatMap DataChar.write

variable {data : List DataChar} {d : DataChar}

theorem writeData_cons (d : DataChar) (data : List DataChar) :
    writeData (d :: data) = d.write ++ writeData data := rfl

theorem DataChar.write_ne_nil (d : DataChar) : d.write ≠ [] := by
  cases d <;> simp [write]

/-- What is written for a character is that character, or means nothing to a reader of text. -/
theorem DataChar.IsWellFormed.mem_write (h : d.IsWellFormed) {x : Char} (hx : x ∈ d.write) :
    isXmlChar x = true ∧ x ≠ '<' ∧ (d = .plain x ∨ x = '&' ∨ x = ';' ∨ isQuiet x = true) := by
  cases h with
  | plain hc hl ha =>
    obtain rfl := List.mem_singleton.mp hx
    exact ⟨hc, hl, .inl rfl⟩
  | reference hr =>
    rcases List.mem_cons.mp hx with rfl | hx
    · exact ⟨by decide, by decide, .inr (.inl rfl)⟩
    rcases List.mem_append.mp hx with hx | hx
    · have hquiet := isQuiet_of_refers hr x hx
      obtain ⟨hchar, hall⟩ := Bool.and_eq_true_iff.mp hquiet
      have hl : '<' ≠ x := bne_iff_ne.mp (List.all_eq_true.mp hall '<' (by decide))
      exact ⟨hchar, hl.symm, .inr (.inr (.inr hquiet))⟩
    · obtain rfl := List.mem_singleton.mp hx
      exact ⟨by decide, by decide, .inr (.inr (.inl rfl))⟩

/-! ## Reading character data -/

/-- A reference is read through its semicolon. -/
theorem dataUnitsFrom_reference {pending : List Char} (h : ';' ∉ name)
    (hr : reference? (pending.reverse ++ name) = some c) (rest : List Char) :
    dataUnitsFrom (some pending) (name ++ ';' :: rest) =
      (dataUnitsFrom none rest).map (.referred c :: ·) := by
  induction name generalizing pending with
  | nil =>
    rw [List.append_nil] at hr
    rw [List.nil_append, dataUnitsFrom, if_pos rfl, hr]
  | cons x name ih =>
    rw [List.mem_cons, not_or] at h
    rw [List.cons_append, dataUnitsFrom, if_neg (Ne.symm h.1)]
    exact ih h.2 (by simpa using hr)

theorem dataUnitsFrom_write (h : d.IsWellFormed) (rest : List Char) :
    dataUnitsFrom none (d.write ++ rest) = (dataUnitsFrom none rest).map (d.unit :: ·) := by
  cases h with
  | @plain c hc hl ha =>
    change dataUnitsFrom none (c :: rest) = _
    rw [dataUnitsFrom, if_neg ha]
    rfl
  | @reference name c hr =>
    have hsemicolon : ';' ∉ name := fun hm => absurd (isQuiet_of_refers hr ';' hm) (by decide)
    change dataUnitsFrom none ('&' :: (name ++ [';']) ++ rest) = _
    have hread : reference? ([].reverse ++ name) = some c := reference?_of_refers hr
    rw [List.cons_append, List.append_assoc, List.singleton_append, dataUnitsFrom, if_pos rfl,
      dataUnitsFrom_reference hsemicolon hread]
    rfl

/-- **Character data is read back.** -/
theorem dataUnits_writeData (h : ∀ d ∈ data, d.IsWellFormed) :
    dataUnits (writeData data) = .ok (data.map DataChar.unit) := by
  induction data with
  | nil => rfl
  | cons d data ih =>
    have ih := ih fun e he => h e (List.mem_cons_of_mem _ he)
    rw [dataUnits] at ih ⊢
    rw [writeData_cons, dataUnitsFrom_write (h d List.mem_cons_self), ih]
    rfl

/-! ## Line ends -/

/-- The character of a unit of character data. -/
def DataUnit.char : DataUnit → Char
  | written c | referred c => c

theorem DataChar.char_unit (d : DataChar) : d.unit.char = d.char := by
  cases d <;> rfl

/-- **Without carriage returns, line ends stay as they are.** -/
theorem settleLines_of_forall {units : List DataUnit} (h : ∀ u ∈ units, u.char ≠ '\r')
    {before : List Char} (hb : '\r' ∉ before) (behind : Bool) :
    settleLines before behind units = before.reverse ++ units.map DataUnit.char := by
  induction units generalizing before behind with
  | nil => simp [settleLines]
  | cons u units ih =>
    have ih := fun behind => @ih (fun v hv => h v (List.mem_cons_of_mem _ hv)) (u.char :: before)
      (by simpa using ⟨(h u List.mem_cons_self).symm, hb⟩) behind
    rw [List.reverse_cons, List.append_assoc, List.singleton_append] at ih
    cases u with
    | referred c =>
      rw [settleLines]
      exact ih true
    | written c =>
      have hc : c ≠ '\r' := h (.written c) List.mem_cons_self
      -- No carriage return is pending, and none comes, so that the character just goes behind the text.
      have hput : ∀ atEnd, putWritten c atEnd before = c :: before := by
        intro atEnd
        unfold putWritten
        split
        · exact absurd List.mem_cons_self hb
        · simp [hc]
      rw [settleLines]
      split
      · exact ih false
      · rw [hput]
        exact ih false

/-! ## Text -/

theorem infix_of_holdsEndMark {cs : List Char} (h : holdsEndMark cs = true) : "]]>".toList <:+: cs := by
  fun_induction holdsEndMark cs with
  | case1 => cases h
  | case2 rest => exact (List.prefix_append ("]]>".toList) rest).isInfix
  | case3 c rest _ ih => exact (ih h).trans (List.suffix_cons c rest).isInfix

/-- **Text is read** up to the next markup. -/
theorem run_textRun (h : ∀ d ∈ data, d.IsWellFormed) (hmark : ¬"]]>".toList <:+: writeData data)
    (rest : List Char) :
    textRun.run (writeData data ++ '<' :: rest) =
      .ok (String.ofList (settleLines [] false (data.map DataChar.unit)), '<' :: rest) := by
  have huntil : charsUntil (fun rest => rest.head? == some '<') (writeData data ++ '<' :: rest) =
      .ok (writeData data, '<' :: rest) := by
    refine charsUntil_append_of_head (p := (· == some '<')) rest (fun x hx => ?_) (by decide) (by decide)
    obtain ⟨d, hd, hx⟩ := List.mem_flatMap.mp hx
    obtain ⟨hxml, hless, -⟩ := (h d hd).mem_write hx
    exact ⟨hxml, by simpa using hless⟩
  have hend : holdsEndMark (writeData data) = false :=
    Bool.eq_false_iff.mpr (mt infix_of_holdsEndMark hmark)
  rw [textRun, run_bind_ok huntil]
  simp only [hend, textData, dataUnits_writeData h]
  rfl

end NodeAgent.Xml
