import NodeAgent.Identity.Machine
import NodeAgent.Proofs.Text.Sorted
import NodeAgent.Proofs.Text.Split
import NodeAgent.Proofs.Text.Utf8

/-!
# What an identity mixes

An identity is made from the bytes of a text with the directory in its first line and one address in each
line behind it.  Which addresses there are matters, but neither their order nor how often they are listed.
Unless they hold line feeds themselves, the lines of the text are found again, so that two texts are the
same only for the same directory and the same addresses.

The directory may hold line feeds.  Then its end cannot be told from the text alone, but with the same
addresses behind it two directories still make different texts.

## Main definitions

* `identityBytes`: the bytes that are digested.
* `IsIdentity`: a text that can be an identity.

## Main results

* `length_sha256Hex`, `isIdentity_identityHash`: what a digest and an identity look like.
* `identityHash_congr`: the order of addresses does not matter.
* `identityBytes_right_inj`, `identityBytes_eq_iff`: what the bytes are made from.
* `identity_mixes_without_ambiguity`: all of it at once.
-/

namespace NodeAgent

open Text Digest

/-! ## Digests in hexadecimal -/

namespace Digest

theorem length_bigEndian (count n : Nat) : (bigEndian count n).length = count := by
  rw [bigEndian, List.length_map, List.length_range]

/-- A digest has 32 bytes. -/
theorem length_sha256 (message : Bytes) : (sha256 message).length = 32 := by
  rw [sha256, List.length_flatMap]
  simp only [length_bigEndian]
  rfl

end Digest

/-- The digits in which bytes are written. -/
def lowerHexDigits : List Char :=
  "0123456789abcdef".toList

theorem digitChar_mem_lowerHexDigits {n : Nat} (h : n < 16) : Nat.digitChar n ∈ lowerHexDigits := by
  have hall : ∀ n < 16, Nat.digitChar n ∈ lowerHexDigits := by decide
  exact hall n h

theorem mem_lowerHexDigits_of_mem_hexText {bytes : Bytes} {c : Char} (h : c ∈ (hexText bytes).toList) :
    c ∈ lowerHexDigits := by
  rw [hexText, String.toList_ofList, List.mem_flatMap] at h
  obtain ⟨b, -, hc⟩ := h
  have hb : b.toNat < 256 := b.toNat_lt
  rcases List.mem_pair.mp hc with rfl | rfl
  · exact digitChar_mem_lowerHexDigits (by omega)
  · exact digitChar_mem_lowerHexDigits (by omega)

/-- **A digest is written with 64 digits.** -/
theorem length_sha256Hex (message : Bytes) : (sha256Hex message).toList.length = 64 := by
  have hdigits : ∀ b : UInt8, (byteHex b).length = 2 := fun _ => rfl
  rw [sha256Hex, hexText, String.toList_ofList, List.length_flatMap]
  simp only [hdigits, List.map_const', List.sum_replicate_nat, length_sha256]

/-! ## Identities -/

/-- **The bytes that are digested** for a directory and addresses. -/
def identityBytes (root : String) (addresses : List String) : Bytes :=
  encodeUtf8 (identityText root addresses)

/-- **A text that can be an identity**: eight hexadecimal digits with small letters. -/
structure IsIdentity (text : String) : Prop where
  length_eq : text.length = 8
  mem_lowerHexDigits : ∀ c ∈ text.toList, c ∈ lowerHexDigits

variable {root other : String} {addresses others : List String}

/-- An identity is the front of the digest. -/
theorem toList_identityHash (root : String) (addresses : List String) :
    (identityHash root addresses).toList =
      (sha256Hex (identityBytes root addresses)).toList.take identityLength :=
  String.toList_ofList

theorem isIdentity_identityHash (root : String) (addresses : List String) :
    IsIdentity (identityHash root addresses) where
  length_eq := by
    rw [← String.length_toList, toList_identityHash, List.length_take, length_sha256Hex]
    rfl
  mem_lowerHexDigits c hc := by
    rw [toList_identityHash] at hc
    exact mem_lowerHexDigits_of_mem_hexText (List.mem_of_mem_take hc)

/-- **The order of addresses does not matter**, nor does it matter how often they are listed. -/
theorem identityText_congr (root : String) (h : ∀ a, a ∈ addresses ↔ a ∈ others) :
    identityText root addresses = identityText root others := by
  rw [identityText, identityText, sortedSet_eq_iff.mpr h]

theorem identityHash_congr (root : String) (h : ∀ a, a ∈ addresses ↔ a ∈ others) :
    identityHash root addresses = identityHash root others := by
  rw [identityHash, identityHash, identityText_congr root h]

/-! ## The lines of the text -/

/-- Behind the directory there is a line for each address. -/
theorem toList_identityText (root : String) (addresses : List String) :
    (identityText root addresses).toList =
      root.toList ++ ((sortedSet addresses).map String.toList).flatMap ('\n' :: ·) := by
  have hlines : ∀ xs : List String, (String.join (xs.map ("\n" ++ ·))).toList =
      (xs.map String.toList).flatMap ('\n' :: ·) := by
    intro xs
    induction xs with
    | nil => rfl
    | cons x xs ih => simp [ih]
  rw [identityText, String.join_cons, String.toList_append, hlines]

/-- The directory and the addresses are the lines of the text. -/
theorem toList_identityText_eq_intercalate (root : String) (addresses : List String) :
    (identityText root addresses).toList =
      ['\n'].intercalate (root.toList :: (sortedSet addresses).map String.toList) := by
  rw [toList_identityText]
  cases hlines : (sortedSet addresses).map String.toList with
  | nil => simp
  | cons line lines =>
    rw [flatMap_cons_eq_intercalate _ (List.cons_ne_nil _ _), List.intercalate_cons_cons,
      List.append_assoc, List.singleton_append]

theorem identityBytes_inj :
    identityBytes root addresses = identityBytes other others ↔
      (identityText root addresses).toList = (identityText other others).toList := by
  rw [identityBytes, identityBytes, encodeUtf8_inj, String.toList_inj]

/-- **With the same addresses, the bytes tell directories apart**, whatever characters these hold. -/
theorem identityBytes_right_inj :
    identityBytes root addresses = identityBytes other addresses ↔ root = other := by
  rw [identityBytes_inj, toList_identityText, toList_identityText, List.append_left_inj,
    String.toList_inj]

/-- **The lines are found again**, unless the directory or an address holds a line feed. -/
theorem splitOnChar_identityText (hroot : '\n' ∉ root.toList)
    (haddresses : ∀ a ∈ addresses, '\n' ∉ a.toList) :
    splitOnChar '\n' (identityText root addresses).toList =
      root.toList :: (sortedSet addresses).map String.toList := by
  rw [toList_identityText_eq_intercalate]
  refine splitOnChar_intercalate ?_ (List.cons_ne_nil _ _)
  simp only [List.forall_mem_cons, List.forall_mem_map, mem_sortedSet]
  exact ⟨hroot, haddresses⟩

/-- **The bytes are the same only for the same directory and the same addresses**, as long as these are
lines. -/
theorem identityBytes_eq_iff (hroot : '\n' ∉ root.toList) (hother : '\n' ∉ other.toList)
    (haddresses : ∀ a ∈ addresses, '\n' ∉ a.toList) (hothers : ∀ a ∈ others, '\n' ∉ a.toList) :
    identityBytes root addresses = identityBytes other others ↔
      root = other ∧ ∀ a, a ∈ addresses ↔ a ∈ others := by
  constructor
  · intro h
    have hlines := congrArg (splitOnChar '\n') (identityBytes_inj.mp h)
    rw [splitOnChar_identityText hroot haddresses, splitOnChar_identityText hother hothers] at hlines
    obtain ⟨hfirst, hrest⟩ := List.cons.inj hlines
    have hsets : sortedSet addresses = sortedSet others :=
      (List.map_inj_right fun _ _ => String.toList_inj.mp).mp hrest
    exact ⟨String.toList_inj.mp hfirst, sortedSet_eq_iff.mp hsets⟩
  · rintro ⟨rfl, h⟩
    rw [identityBytes, identityBytes, identityText_congr root h]

/-- **An identity mixes a directory and addresses without ambiguity.**  It depends on the directory and on
which addresses there are, it has eight digits, and it is the front of a digest of bytes that tell
directories apart, and addresses too as long as none of them holds a line feed. -/
theorem identity_mixes_without_ambiguity :
    (∀ (root : String) (addresses others : List String), (∀ a, a ∈ addresses ↔ a ∈ others) →
      identityHash root addresses = identityHash root others) ∧
    (∀ (root : String) (addresses : List String), IsIdentity (identityHash root addresses) ∧
      (identityHash root addresses).toList <+: (sha256Hex (identityBytes root addresses)).toList) ∧
    (∀ (root other : String) (addresses : List String), root ≠ other →
      identityBytes root addresses ≠ identityBytes other addresses) ∧
    ∀ (root other : String) (addresses others : List String),
      '\n' ∉ root.toList → '\n' ∉ other.toList →
      (∀ a ∈ addresses, '\n' ∉ a.toList) → (∀ a ∈ others, '\n' ∉ a.toList) →
      (identityBytes root addresses = identityBytes other others ↔
        root = other ∧ ∀ a, a ∈ addresses ↔ a ∈ others) := by
  refine ⟨?_, ?_, ?_, ?_⟩
  · intro root addresses others h
    exact identityHash_congr root h
  · intro root addresses
    refine ⟨isIdentity_identityHash root addresses, ?_⟩
    rw [toList_identityHash]
    exact List.take_prefix _ _
  · intro root other addresses hne h
    exact hne (identityBytes_right_inj.mp h)
  · intro root other addresses others hroot hother haddresses hothers
    exact identityBytes_eq_iff hroot hother haddresses hothers

/-- An address that is listed twice counts once, and a directory that ends like an address is not taken
for one with that address. -/
theorem identity_mixes_without_ambiguity_of_repeated :
    (∀ a, a ∈ ["10.0.0.5", "::1", "10.0.0.5"] ↔ a ∈ ["::1", "10.0.0.5"]) ∧
      identityHash "/srv" ["10.0.0.5", "::1", "10.0.0.5"] = identityHash "/srv" ["::1", "10.0.0.5"] ∧
      identityBytes "/srv\n::1" [] ≠ identityBytes "/srv" [] ∧
      identityBytes "/srv" ["::1"] ≠ identityBytes "/srv::1" [] := by
  obtain ⟨hsame, -, hroots, hbytes⟩ := identity_mixes_without_ambiguity
  have hset : ∀ a, a ∈ ["10.0.0.5", "::1", "10.0.0.5"] ↔ a ∈ ["::1", "10.0.0.5"] := by
    intro a
    simp only [List.mem_cons, List.not_mem_nil, or_false]
    tauto
  have hlines := hbytes "/srv" "/srv::1" ["::1"] [] (by decide) (by decide) (by decide) (by decide)
  refine ⟨hset, hsame "/srv" _ _ hset, hroots "/srv\n::1" "/srv" [] (by decide), ?_⟩
  rw [Ne, hlines]
  rintro ⟨hroot, -⟩
  revert hroot
  decide

end NodeAgent
