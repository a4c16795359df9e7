import Mathlib.Tactic.IntervalCases
import NodeAgent.Text.LowerCase
import NodeAgent.Text.Number

/-!
# Numbers and bytes that are written and read

A number that is written in decimal digits is read back if the reader's range holds it.  Bytes have one
written form in hexadecimal, with small letters, and others with capital letters in places.  All of them
are read as the same bytes, and nothing else is.

## Main definitions

* `lowerAscii`: the small partner of a capital letter.
* `hexBytes?`: the bytes that hexadecimal digits stand for.

## Main results

* `readDigits_eq`: what a run of digits is read as.
* `readNat_toString`, `readUInt32_toString`: a written number is read back.
* `hexValue?_eq_some_iff`: a digit has a value exactly if its small partner is written for it.
* `hexBytes?_eq_some_iff`: the same for digits and bytes.
* `exists_hexBytes?`: digits in pairs stand for bytes.
-/

namespace NodeAgent.Text

/-! ## Decimal digits -/

theorem digit?_of_isDigit {c : Char} (h : c.isDigit = true) :
    digit? c = some (c.toNat - '0'.toNat) := by
  rw [Char.isDigit, Bool.and_eq_true, decide_eq_true_eq, decide_eq_true_eq] at h
  exact if_pos h

/-- A value grows with each digit that is read behind it. -/
theorem le_ofDigitChars (cs : List Char) (value : Nat) : value ≤ Nat.ofDigitChars 10 cs value := by
  induction cs generalizing value with
  | nil => exact Nat.le_refl value
  | cons c cs ih =>
    rw [Nat.ofDigitChars_cons]
    have hgrown := ih (10 * value + (c.toNat - '0'.toNat))
    omega

/-- **What a run of digits is read as**, if that is within the range. -/
theorem readDigits_eq {bound : Nat} {overflow : NumberError} {cs : List Char} {value : Nat}
    (hd : ∀ c ∈ cs, c.isDigit = true) (hb : Nat.ofDigitChars 10 cs value ≤ bound) :
    readDigits bound overflow value cs = .ok (Nat.ofDigitChars 10 cs value) := by
  induction cs generalizing value with
  | nil => rfl
  | cons c cs ih =>
    rw [Nat.ofDigitChars_cons, Nat.mul_comm] at hb ⊢
    -- The value so far is within the range, since it only grows.
    have hfits := Nat.le_trans (le_ofDigitChars cs _) hb
    rw [readDigits, digit?_of_isDigit (hd c List.mem_cons_self)]
    simp only [if_neg (Nat.not_lt.mpr hfits)]
    exact ih (fun d hm => hd d (List.mem_cons_of_mem _ hm)) hb

/-- A text that starts with a digit has no sign. -/
theorem readNat_ofList {bound : Nat} {cs : List Char} (hne : cs ≠ [])
    (hd : ∀ c ∈ cs, c.isDigit = true) :
    readNat bound (String.ofList cs) = readDigits bound .tooLarge 0 cs := by
  obtain ⟨c, rest, rfl⟩ := List.exists_cons_of_ne_nil hne
  have hc : c.isDigit = true := hd c List.mem_cons_self
  have hplus : c ≠ '+' := by
    rintro rfl
    cases hc
  have hminus : c ≠ '-' := by
    rintro rfl
    cases hc
  rw [readNat, String.toList_ofList]
  split
  · next h => cases h
  · next h => exact absurd (List.cons.inj h).1 hplus
  · next h => exact absurd (List.cons.inj h).1 hminus
  · next h => exact absurd (List.cons.inj h).1 hplus
  · rfl

/-- **A written number is read back.** -/
theorem readNat_toString {bound n : Nat} (h : n ≤ bound) : readNat bound (toString n) = .ok n := by
  have hd : ∀ c ∈ Nat.toDigits 10 n, c.isDigit = true :=
    fun c hc => Nat.isDigit_of_mem_toDigits (by decide) (by decide) hc
  rw [Nat.toString_eq_repr, Nat.repr_eq_ofList_toDigits, readNat_ofList Nat.toDigits_ne_nil hd,
    readDigits_eq hd, Nat.ofDigitChars_ten_toDigits]
  rwa [Nat.ofDigitChars_ten_toDigits]

/-- A written process id is read back. -/
theorem readUInt32_toString (n : UInt32) : readUInt32 (toString n.toNat) = .ok n := by
  have hfits : n.toNat ≤ UInt32.size - 1 := Nat.le_sub_one_of_lt n.toNat_lt_size
  rw [readUInt32, readNat_toString hfits]
  exact congrArg Except.ok UInt32.ofNat_toNat

/-! ## Hexadecimal digits -/

/-- The small partner of a capital letter; everything else stays. -/
def lowerAscii (c : Char) : Char :=
  if 'A' ≤ c ∧ c ≤ 'Z' then c.toLower else c

theorem toList_toLowerAscii (s : String) : (toLowerAscii s).toList = s.toList.map lowerAscii :=
  String.toList_map

/-! ## Digits -/

theorem toNat_lt_of_hexValue? {c : Char} {v : Nat} (h : hexValue? c = some v) : c.toNat < 128 := by
  have hle : ∀ {last : Char}, c ≤ last → c.toNat ≤ last.toNat := id
  unfold hexValue? at h
  split at h
  · next hc => exact Nat.lt_of_le_of_lt (hle hc.2) (by decide)
  split at h
  · next hc => exact Nat.lt_of_le_of_lt (hle hc.2) (by decide)
  split at h
  · next hc => exact Nat.lt_of_le_of_lt (hle hc.2) (by decide)
  · cases h

theorem toNat_lt_of_lowerAscii {c : Char} {v : Nat} (hv : v < 16)
    (h : lowerAscii c = Nat.digitChar v) : c.toNat < 128 := by
  unfold lowerAscii at h
  split at h
  · next hc =>
    have hle : c.toNat ≤ 'Z'.toNat := hc.2
    exact Nat.lt_of_le_of_lt hle (by decide)
  · rw [h]
    interval_cases v <;> decide

/-- **A digit has a value exactly if its small partner is written for it.** -/
theorem hexValue?_eq_some_iff {c : Char} {v : Nat} :
    hexValue? c = some v ↔ v < 16 ∧ lowerAscii c = Nat.digitChar v := by
  constructor
  · intro h
    -- All digits are among the first characters, which are checked one by one.
    have hall : ∀ n < 128, ∀ v ∈ hexValue? (Char.ofNat n),
        v < 16 ∧ lowerAscii (Char.ofNat n) = Nat.digitChar v := by
      decide
    have hc := hall c.toNat (toNat_lt_of_hexValue? h) v
    rw [Char.ofNat_toNat] at hc
    exact hc h
  · rintro ⟨hv, h⟩
    have hall : ∀ n < 128, ∀ v < 16, lowerAscii (Char.ofNat n) = Nat.digitChar v →
        hexValue? (Char.ofNat n) = some v := by
      decide +kernel
    have hc := hall c.toNat (toNat_lt_of_lowerAscii hv h) v hv
    rw [Char.ofNat_toNat] at hc
    exact hc h

/-! ## Bytes -/

/-- **The bytes that hexadecimal digits stand for**, two digits each and in either case. -/
def hexBytes? : List Char → Option Bytes
  | [] => some []
  | [_] => none
  | high :: low :: rest => do
    let h ← hexValue? high
    let l ← hexValue? low
    let bytes ← hexBytes? rest
    return (16 * h + l).toUInt8 :: bytes

theorem hexBytes?_cons_cons {high low : Char} {rest : List Char} {b : UInt8} {bytes : Bytes} :
    hexBytes? (high :: low :: rest) = some (b :: bytes) ↔
      hexValue? high = some (b.toNat / 16) ∧ hexValue? low = some (b.toNat % 16) ∧
        hexBytes? rest = some bytes := by
  have hb : b.toNat < 256 := b.toNat_lt
  constructor
  · intro h
    simp only [hexBytes?, Option.bind_eq_bind, Option.bind_eq_some_iff, Option.pure_def,
      Option.some.injEq, List.cons.injEq] at h
    obtain ⟨x, hx, y, hy, bytes', hrest, hxy, rfl⟩ := h
    -- Digits are less than sixteen, so that they are the quotient and the remainder.
    obtain ⟨hx16, -⟩ := hexValue?_eq_some_iff.mp hx
    obtain ⟨hy16, -⟩ := hexValue?_eq_some_iff.mp hy
    have hsum : b.toNat = 16 * x + y := by
      rw [← hxy]
      exact UInt8.toNat_ofNat_of_lt' (by change 16 * x + y < 256; omega)
    refine ⟨?_, ?_, hrest⟩
    · rw [hx, show b.toNat / 16 = x by omega]
    · rw [hy, show b.toNat % 16 = y by omega]
  · rintro ⟨hx, hy, hrest⟩
    have hsum : (16 * (b.toNat / 16) + b.toNat % 16).toUInt8 = b := by
      rw [show 16 * (b.toNat / 16) + b.toNat % 16 = b.toNat by omega]
      exact UInt8.ofNat_toNat
    simp only [hexBytes?, hx, hy, hrest, Option.bind_eq_bind, Option.bind_some, hsum]
    rfl

/-- **Digits stand for bytes exactly if their small partners are written for the bytes.** -/
theorem hexBytes?_eq_some_iff {digits : List Char} {bytes : Bytes} :
    hexBytes? digits = some bytes ↔ digits.map lowerAscii = bytes.flatMap byteHex := by
  induction bytes generalizing digits with
  | nil =>
    cases digits with
    | nil => exact iff_of_true rfl rfl
    | cons high digits =>
      cases digits with
      | nil => exact iff_of_false nofun nofun
      | cons low rest =>
        refine iff_of_false (fun h => ?_) nofun
        simp only [hexBytes?, Option.bind_eq_bind, Option.bind_eq_some_iff, Option.pure_def,
          Option.some.injEq, reduceCtorEq, and_false, exists_false] at h
  | cons b bytes ih =>
    have hb : b.toNat < 256 := b.toNat_lt
    rw [List.flatMap_cons, byteHex]
    cases digits with
    | nil => exact iff_of_false nofun nofun
    | cons high digits =>
      cases digits with
      | nil => exact iff_of_false nofun (fun h => by simp at h)
      | cons low rest =>
        rw [hexBytes?_cons_cons, ih, hexValue?_eq_some_iff, hexValue?_eq_some_iff]
        simp only [List.map_cons, List.cons_append, List.nil_append, List.cons.injEq]
        have hquotient : b.toNat / 16 < 16 := by omega
        have hremainder : b.toNat % 16 < 16 := by omega
        rw [and_iff_right hquotient, and_iff_right hremainder]

/-- **Digits in pairs stand for bytes.** -/
theorem exists_hexBytes? (n : Nat) {digits : List Char} (hlength : digits.length = 2 * n)
    (hdigits : ∀ d ∈ digits, (hexValue? d).isSome = true) :
    ∃ bytes, hexBytes? digits = some bytes := by
  induction n generalizing digits with
  | zero => exact ⟨[], by rw [List.length_eq_zero_iff.mp hlength]; rfl⟩
  | succ n ih =>
    match digits, hlength with
    | high :: low :: rest, hlength =>
      simp only [List.length_cons] at hlength
      simp only [List.forall_mem_cons] at hdigits
      obtain ⟨hhigh, hlow, hrest⟩ := hdigits
      obtain ⟨h, hh⟩ := Option.isSome_iff_exists.mp hhigh
      obtain ⟨l, hl⟩ := Option.isSome_iff_exists.mp hlow
      obtain ⟨bytes, hbytes⟩ := ih (by omega) hrest
      exact ⟨(16 * h + l).toUInt8 :: bytes, by simp [hexBytes?, hh, hl, hbytes]⟩

end NodeAgent.Text
