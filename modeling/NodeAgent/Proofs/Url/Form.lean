import Mathlib.Tactic.IntervalCases
import NodeAgent.Proofs.Text.Split
import NodeAgent.Proofs.Text.Utf8
import NodeAgent.Url.Percent

/-!
# Queries made of fields

A server reads the fields of a query back: it cuts the query at ampersands and equals signs, and it
resolves plus signs and percent escapes.

## Main definitions

* `formFields`: the fields that a server reads in a query.

## Main results

* `formDecode_formEncode`: a name or value is read back.
* `formFields_formQuery`: so are all fields of a query.
-/

namespace NodeAgent

open Text

/-- A plus sign stands for a space. -/
def plusToSpace (c : Char) : Char :=
  if c == '+' then ' ' else c

/-- The text that a name or value in a query stands for. -/
def formDecode (cs : List Char) : String :=
  decodeUtf8Lossy (percentDecode (cs.map plusToSpace))

/-- The field that a piece of a query stands for; without an equals sign it is a name. -/
def formField (piece : List Char) : String × String :=
  match splitAtFirst (· == '=') piece with
  | some (name, value) => (formDecode name, formDecode value)
  | none => (formDecode piece, "")

/-- **The fields that a server reads in a query.** -/
def formFields (query : String) : List (String × String) :=
  ((splitOnChar '&' query.toList).filter (!·.isEmpty)).map formField

/-! ## Escapes -/

theorem hexValue?_upperHexDigit {n : Nat} (h : n < 16) : hexValue? (upperHexDigit n) = some n := by
  interval_cases n <;> rfl

theorem plusToSpace_upperHexDigit {n : Nat} (h : n < 16) :
    plusToSpace (upperHexDigit n) = upperHexDigit n := by
  interval_cases n <;> rfl

/-- **An escaped byte is read back.** -/
theorem percentDecode_percentByte (b : UInt8) (rest : List Char) :
    percentDecode ((percentByte b).map plusToSpace ++ rest) = b :: percentDecode rest := by
  have hb : b.toNat < 256 := UInt8.toNat_lt_size b
  have hh : b.toNat / 16 < 16 := by omega
  have hl : b.toNat % 16 < 16 := by omega
  -- The two digits of an escape are the quotient and the remainder by sixteen.
  have hv : (b.toNat / 16 * 16 + b.toNat % 16).toUInt8 = b := by
    rw [show b.toNat / 16 * 16 + b.toNat % 16 = b.toNat by omega]
    exact UInt8.ofNat_toNat
  simp only [percentByte, List.map_cons, List.map_nil, plusToSpace_upperHexDigit hh,
    plusToSpace_upperHexDigit hl]
  change percentDecode ('%' :: upperHexDigit (b.toNat / 16) :: upperHexDigit (b.toNat % 16) :: rest)
    = b :: percentDecode rest
  simp only [percentDecode, hexValue?_upperHexDigit hh, hexValue?_upperHexDigit hl, hv]

theorem percentDecode_percentBytes (bytes : Bytes) (rest : List Char) :
    percentDecode ((bytes.flatMap percentByte).map plusToSpace ++ rest) =
      bytes ++ percentDecode rest := by
  induction bytes with
  | nil => rfl
  | cons b bytes ih =>
    rw [List.flatMap_cons, List.map_append, List.append_assoc, percentDecode_percentByte, ih]
    rfl

theorem percentDecode_cons {c : Char} (h : c ≠ '%') (rest : List Char) :
    percentDecode (c :: rest) = String.utf8EncodeChar c ++ percentDecode rest := by
  rw [percentDecode]
  rintro a b more rfl
  exact absurd rfl h

/-! ## Names and values -/

/-- A character as it stands in a query made of fields. -/
def formChar (c : Char) : List Char :=
  if isFormChar c then [c] else if c == ' ' then ['+'] else percentChar c

theorem toList_formEncode (s : String) : (formEncode s).toList = s.toList.flatMap formChar :=
  String.toList_ofList

theorem percentDecode_formChar (c : Char) (rest : List Char) :
    percentDecode ((formChar c).map plusToSpace ++ rest) =
      String.utf8EncodeChar c ++ percentDecode rest := by
  unfold formChar
  split
  · next h =>
    have hp : c ≠ '+' := by rintro rfl; exact absurd h (by decide)
    have hm : c ≠ '%' := by rintro rfl; exact absurd h (by decide)
    have hc : plusToSpace c = c := if_neg (by simpa using hp)
    rw [List.map_singleton, hc]
    exact percentDecode_cons hm rest
  split
  · next hs =>
    obtain rfl : c = ' ' := by simpa using hs
    exact percentDecode_cons (by decide) rest
  · exact percentDecode_percentBytes _ rest

/-- **A name or value is read back.** -/
theorem formDecode_formEncode (s : String) : formDecode (formEncode s).toList = s := by
  have h : percentDecode ((s.toList.flatMap formChar).map plusToSpace) = encodeUtf8 s := by
    rw [encodeUtf8]
    induction s.toList with
    | nil => rfl
    | cons c cs ih =>
      rw [List.flatMap_cons, List.map_append, percentDecode_formChar, ih, List.flatMap_cons]
  rw [formDecode, toList_formEncode, h, decodeUtf8Lossy_encodeUtf8]

theorem upperHexDigit_not_separator {n : Nat} (h : n < 16) :
    upperHexDigit n ≠ '&' ∧ upperHexDigit n ≠ '=' := by
  interval_cases n <;> decide

/-- A name or value holds no separator. -/
theorem not_separator_of_mem_formEncode {s : String} {d : Char} (h : d ∈ (formEncode s).toList) :
    d ≠ '&' ∧ d ≠ '=' := by
  rw [toList_formEncode] at h
  obtain ⟨c, -, hd⟩ := List.mem_flatMap.mp h
  unfold formChar at hd
  split at hd
  · next hc =>
    obtain rfl := List.mem_singleton.mp hd
    constructor <;> (rintro rfl; exact absurd hc (by decide))
  split at hd
  · obtain rfl := List.mem_singleton.mp hd
    decide
  · obtain ⟨b, -, hd⟩ := List.mem_flatMap.mp hd
    have hb : b.toNat < 256 := UInt8.toNat_lt_size b
    simp only [percentByte, List.mem_cons, List.not_mem_nil, or_false] at hd
    rcases hd with rfl | rfl | rfl
    · decide
    · exact upperHexDigit_not_separator (by omega)
    · exact upperHexDigit_not_separator (by omega)

/-! ## Fields -/

/-- A field as it stands in a query. -/
def formPiece (field : String × String) : List Char :=
  (formEncode field.1).toList ++ '=' :: (formEncode field.2).toList

theorem toList_formQuery (fields : List (String × String)) :
    (formQuery fields).toList = ['&'].intercalate (fields.map formPiece) := by
  have hs : "&".toList = ['&'] := rfl
  rw [formQuery, String.toList_intercalate, List.map_map, hs]
  refine congrArg _ (List.map_congr_left fun field _ => ?_)
  simp [formPiece]

theorem formField_formPiece (field : String × String) : formField (formPiece field) = field := by
  have h : splitAtFirst (· == '=') (formPiece field) =
      some ((formEncode field.1).toList, (formEncode field.2).toList) := by
    -- The first equals sign is the one between name and value, since the name has none.
    have hn : ∀ d ∈ (formEncode field.1).toList, (d == '=') = false := by
      intro d hd
      simpa using (not_separator_of_mem_formEncode hd).2
    exact splitAtFirst_append hn (beq_self_eq_true '=')
  rw [formField, h]
  simp only [formDecode_formEncode]

theorem not_mem_formPiece (field : String × String) : '&' ∉ formPiece field := by
  intro h
  rcases List.mem_append.mp h with h | h
  · exact (not_separator_of_mem_formEncode h).1 rfl
  · rcases List.mem_cons.mp h with h | h
    · exact absurd h (by decide)
    · exact (not_separator_of_mem_formEncode h).1 rfl

/-- **The fields of a query are read back.** -/
theorem formFields_formQuery (fields : List (String × String)) :
    formFields (formQuery fields) = fields := by
  -- No piece holds the separator, and each holds an equals sign, so that none is dropped as empty.
  have hm : ∀ piece ∈ fields.map formPiece, '&' ∉ piece ∧ (!piece.isEmpty) = true := by
    intro piece hp
    obtain ⟨f, -, rfl⟩ := List.mem_map.mp hp
    exact ⟨not_mem_formPiece f, by simp [formPiece]⟩
  rw [formFields, toList_formQuery]
  cases fields with
  | nil => rfl
  | cons field fields =>
    have hf : formField ∘ formPiece = id := by
      funext field
      rw [Function.comp_apply, formField_formPiece, id]
    rw [splitOnChar_intercalate (fun p hp => (hm p hp).1) (by simp),
      List.filter_eq_self.mpr fun p hp => (hm p hp).2, List.map_map, hf, List.map_id]

end NodeAgent
