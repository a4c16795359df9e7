import Mathlib.Data.Char
import Mathlib.Tactic.IntervalCases
import NodeAgent.Text.Utf8

/-!
# Text survives its encoding

The bytes of a text are read back as the text, whatever comes behind them.  Texts are compared character
by character, and their bytes are ordered as they are: the bytes of a character say which of two characters
is smaller, and the first byte says how many there are.

## Main results

* `decodeFrom_utf8EncodeChar`: the bytes of one character are read back.
* `decodeUtf8?_encodeUtf8`, `decodeUtf8Lossy_encodeUtf8`: the bytes of a text are read back.
* `encodeUtf8_inj`: texts are told apart by their bytes.
* `utf8EncodeChar_append_lt`: the bytes of a smaller character come first, whatever stands behind them.
* `encodeUtf8_lt_iff`: texts are ordered as their bytes are.
-/

namespace NodeAgent.Text

/-! ## One byte after another -/

/-- A byte behind the first one carries six bits. -/
def continuation (n : Nat) : UInt8 :=
  UInt8.ofNat (n % 64 + 0x80)

theorem toNat_continuation (n : Nat) : (continuation n).toNat = n % 64 + 0x80 := by
  rw [continuation, UInt8.toNat_ofNat']
  omega

/-- Whether a byte is in the range that is expected. -/
theorem continuation_expected {p : Pending} {n : Nat} (hl : p.lowest.toNat ≤ n % 64 + 0x80)
    (hh : n % 64 + 0x80 ≤ p.highest.toNat) :
    p.lowest ≤ continuation n ∧ continuation n ≤ p.highest := by
  rw [UInt8.le_iff_toNat_le, UInt8.le_iff_toNat_le, toNat_continuation]
  exact ⟨hl, hh⟩

theorem decodeFrom_last {p : Pending} {n : Nat} (hp : p.missing = 1)
    (hl : p.lowest.toNat ≤ n % 64 + 0x80) (hh : n % 64 + 0x80 ≤ p.highest.toNat) (rest : Bytes) :
    decodeFrom (some p) (continuation n :: rest) =
      some (Char.ofNat (p.bits * 64 + n % 64)) :: decodeFrom none rest := by
  have hb : (n % 64 + 0x80) % 64 = n % 64 := by omega
  rw [decodeFrom, if_pos (continuation_expected hl hh), if_pos (by omega), toNat_continuation, hb]

theorem decodeFrom_more {p : Pending} {n : Nat} (hp : 1 < p.missing)
    (hl : p.lowest.toNat ≤ n % 64 + 0x80) (hh : n % 64 + 0x80 ≤ p.highest.toNat) (rest : Bytes) :
    decodeFrom (some p) (continuation n :: rest) =
      decodeFrom (some { missing := p.missing - 1, bits := p.bits * 64 + n % 64 }) rest := by
  have hb : (n % 64 + 0x80) % 64 = n % 64 := by omega
  rw [decodeFrom, if_pos (continuation_expected hl hh), if_neg (by omega), toNat_continuation, hb]

/-! ## First bytes -/

theorem firstByte_one {n : Nat} (h : n ≤ 0x7F) :
    firstByte (UInt8.ofNat n) = some (.inl (Char.ofNat n)) := by
  have hn : (UInt8.ofNat n).toNat = n := by
    rw [UInt8.toNat_ofNat']
    omega
  rw [firstByte, if_pos, hn]
  rw [UInt8.lt_iff_toNat_lt, hn]
  change n < 0x80
  omega

theorem firstByte_two {k : Nat} (h : 2 ≤ k) (hk : k < 32) :
    firstByte (UInt8.ofNat (k + 0xC0)) = some (.inr { missing := 1, bits := k }) := by
  interval_cases k <;> rfl

/-- What the first of three bytes says; surrogates and overlong forms are left out. -/
theorem firstByte_three {k : Nat} (hk : k < 16) :
    ∃ p : Pending, firstByte (UInt8.ofNat (k + 0xE0)) = some (.inr p) ∧
      p.missing = 2 ∧ p.bits = k ∧ (p.lowest.toNat = if k = 0 then 0xA0 else 0x80) ∧
      p.highest.toNat = if k = 13 then 0x9F else 0xBF := by
  interval_cases k <;> exact ⟨_, rfl, rfl, rfl, rfl, rfl⟩

theorem firstByte_four {k : Nat} (hk : k < 5) :
    ∃ p : Pending, firstByte (UInt8.ofNat (k + 0xF0)) = some (.inr p) ∧
      p.missing = 3 ∧ p.bits = k ∧ (p.lowest.toNat = if k = 0 then 0x90 else 0x80) ∧
      p.highest.toNat = if k = 4 then 0x8F else 0xBF := by
  interval_cases k <;> exact ⟨_, rfl, rfl, rfl, rfl, rfl⟩

/-! ## Characters and texts -/

/-- **The bytes of one character are read back.** -/
theorem decodeFrom_utf8EncodeChar (c : Char) (rest : Bytes) :
    decodeFrom none (String.utf8EncodeChar c ++ rest) = some c :: decodeFrom none rest := by
  have hc : Char.ofNat c.val.toNat = c := Char.ofNat_toNat c
  have hv : c.val.toNat < 0xD800 ∨ 0xDFFF < c.val.toNat ∧ c.val.toNat < 0x110000 := c.valid
  unfold String.utf8EncodeChar
  -- From here on only the number of the character matters; the cases are the lengths of its encoding.
  generalize c.val.toNat = v at hc hv
  dsimp only
  split
  · next h₁ =>
    rw [List.singleton_append, decodeFrom, firstByte_one h₁, hc]
  split
  · next h₁ h₂ =>
    have hf := firstByte_two (k := v / 64 % 32) (by omega) (by omega)
    have hlast := decodeFrom_last (p := { missing := 1, bits := v / 64 % 32 }) (n := v) rfl
      (Nat.le_add_left _ _) (by change _ ≤ 0xBF; omega) rest
    have hbits : v / 64 % 32 * 64 + v % 64 = v := by omega
    rw [List.cons_append, decodeFrom, hf, List.singleton_append]
    rw [hbits, hc] at hlast
    exact hlast
  split
  · next h₁ h₂ h₃ =>
    obtain ⟨p, hf, hp, hb, hl, hh⟩ := firstByte_three (k := v / 4096 % 16) (by omega)
    have hsecond := decodeFrom_more (p := p) (n := v / 64) (by omega)
      (by rw [hl]; split <;> omega) (by rw [hh]; split <;> omega)
    have hlast := decodeFrom_last (n := v) (p := ⟨p.missing - 1, p.bits * 64 + v / 64 % 64, 0x80, 0xBF⟩)
      (by simp [hp]) (Nat.le_add_left _ _) (by change _ ≤ 0xBF; omega) rest
    have hbits : (p.bits * 64 + v / 64 % 64) * 64 + v % 64 = v := by rw [hb]; omega
    rw [hbits, hc] at hlast
    rw [List.cons_append, decodeFrom, hf]
    exact (hsecond _).trans hlast
  · next h₁ h₂ h₃ =>
    obtain ⟨p, hf, hp, hb, hl, hh⟩ := firstByte_four (k := v / 262144 % 8) (by omega)
    have hsecond := decodeFrom_more (p := p) (n := v / 4096) (by omega)
      (by rw [hl]; split <;> omega) (by rw [hh]; split <;> omega)
    have hthird := decodeFrom_more (n := v / 64)
      (p := ⟨p.missing - 1, p.bits * 64 + v / 4096 % 64, 0x80, 0xBF⟩)
      (by simp [hp]) (Nat.le_add_left _ _) (by change _ ≤ 0xBF; omega)
    have hlast := decodeFrom_last (n := v)
      (p := ⟨p.missing - 1 - 1, (p.bits * 64 + v / 4096 % 64) * 64 + v / 64 % 64, 0x80, 0xBF⟩)
      (by simp [hp]) (Nat.le_add_left _ _) (by change _ ≤ 0xBF; omega) rest
    have hbits : ((p.bits * 64 + v / 4096 % 64) * 64 + v / 64 % 64) * 64 + v % 64 = v := by
      rw [hb]; omega
    rw [hbits, hc] at hlast
    rw [List.cons_append, decodeFrom, hf]
    exact (hsecond _).trans ((hthird _).trans hlast)

theorem decodeUnits_encodeUtf8 (s : String) : decodeUnits (encodeUtf8 s) = s.toList.map some := by
  rw [decodeUnits, encodeUtf8]
  induction s.toList with
  | nil => rfl
  | cons c cs ih => rw [List.flatMap_cons, decodeFrom_utf8EncodeChar, ih, List.map_cons]

theorem decodeUtf8?_encodeUtf8 (s : String) : decodeUtf8? (encodeUtf8 s) = some s := by
  have hall : ∀ cs : List Char, (cs.map some).mapM id = some cs := by
    intro cs
    induction cs with
    | nil => rfl
    | cons c cs ih => rw [List.map_cons, List.mapM_cons, ih]; rfl
  rw [decodeUtf8?, decodeUnits_encodeUtf8, hall, Option.map_some, String.ofList_toList]

/-- Texts are told apart by their bytes. -/
theorem encodeUtf8_inj {s t : String} : encodeUtf8 s = encodeUtf8 t ↔ s = t := by
  constructor
  · intro h
    have hread := congrArg decodeUtf8? h
    rw [decodeUtf8?_encodeUtf8, decodeUtf8?_encodeUtf8] at hread
    exact Option.some.inj hread
  · exact congrArg encodeUtf8

/-- **The bytes of a text are read back.** -/
theorem decodeUtf8Lossy_encodeUtf8 (s : String) : decodeUtf8Lossy (encodeUtf8 s) = s := by
  rw [decodeUtf8Lossy, decodeUnits_encodeUtf8, List.map_map]
  simp [Function.comp_def]

/-! ## The order of bytes -/

/-- **The bytes of a smaller character come first**, whatever stands behind them. -/
theorem utf8EncodeChar_append_lt {c d : Char} (h : c < d) (s t : Bytes) :
    String.utf8EncodeChar c ++ s < String.utf8EncodeChar d ++ t := by
  have hlt : c.val.toNat < d.val.toNat := h
  have hd : d.val.toNat < 0xD800 ∨ 0xDFFF < d.val.toNat ∧ d.val.toNat < 0x110000 := d.valid
  unfold String.utf8EncodeChar
  -- Only the numbers of the characters matter.
  generalize c.val.toNat = v at hlt
  generalize d.val.toNat = w at hlt hd
  -- The first digit to the base 64 in which the numbers differ settles their order.
  have hlast : v / 64 < w / 64 ∨ v / 64 = w / 64 ∧ v % 64 < w % 64 := by omega
  have hmiddle : v / 4096 < w / 4096 ∨ v / 4096 = w / 4096 ∧ v / 64 % 64 < w / 64 % 64 ∨
      v / 64 = w / 64 := by omega
  have hfirst : v / 262144 < w / 262144 ∨
      v / 262144 = w / 262144 ∧ v / 4096 % 64 < w / 4096 % 64 ∨ v / 4096 = w / 4096 := by omega
  have hv : v / 262144 % 8 = v / 262144 := by omega
  have hw : w / 262144 % 8 = w / 262144 := by omega
  -- A digit and the mark of its place fit into a byte.
  have hbyte : ∀ n k m, 0 < m → m + k ≤ 256 → (n % m + k) % 2 ^ 8 = n % m + k :=
    fun n k m hm hk => Nat.mod_eq_of_lt (by have := Nat.mod_lt n hm; omega)
  dsimp only
  split_ifs <;>
    simp only [hv, hw, List.cons_append, List.nil_append, List.cons_lt_cons_iff,
      UInt8.lt_iff_toNat_lt, ← UInt8.toNat_inj, UInt8.toNat_ofNat',
      hbyte _ 128 64 (by decide) (by decide), hbyte _ 192 32 (by decide) (by decide),
      hbyte _ 224 16 (by decide) (by decide)] <;>
    omega

theorem utf8EncodeChar_ne_nil (c : Char) : String.utf8EncodeChar c ≠ [] := by
  unfold String.utf8EncodeChar
  dsimp only
  split_ifs <;> exact List.cons_ne_nil _ _

theorem append_lt_append_iff {u s t : Bytes} : u ++ s < u ++ t ↔ s < t := by
  induction u with
  | nil => rfl
  | cons x u ih => simp [ih]

/-- **Texts are ordered as their bytes are.** -/
theorem encodeUtf8_lt_iff {a b : String} : encodeUtf8 a < encodeUtf8 b ↔ a < b := by
  rw [encodeUtf8, encodeUtf8, String.lt_iff]
  generalize a.toList = cs
  generalize b.toList = ds
  induction cs generalizing ds with
  | nil =>
    cases ds with
    | nil => exact iff_of_false (List.not_lt_nil _) (List.not_lt_nil _)
    | cons d ds =>
      obtain ⟨x, rest, hx⟩ := List.exists_cons_of_ne_nil (utf8EncodeChar_ne_nil d)
      rw [List.flatMap_cons, hx]
      exact iff_of_true (List.nil_lt_cons _ _) (List.nil_lt_cons _ _)
  | cons c cs ih =>
    cases ds with
    | nil => exact iff_of_false (List.not_lt_nil _) (List.not_lt_nil _)
    | cons d ds =>
      rw [List.flatMap_cons, List.flatMap_cons, List.cons_lt_cons_iff]
      rcases lt_trichotomy c d with h | rfl | h
      · exact iff_of_true (utf8EncodeChar_append_lt h _ _) (.inl h)
      · rw [append_lt_append_iff, ih]
        simp
      · refine iff_of_false (List.lt_asymm (utf8EncodeChar_append_lt h _ _)) ?_
        rintro (hlt | ⟨rfl, -⟩)
        · exact lt_asymm h hlt
        · exact lt_irrefl _ h

end NodeAgent.Text
