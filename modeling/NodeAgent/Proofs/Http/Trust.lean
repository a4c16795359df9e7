import NodeAgent.Proofs.Config.Validate
import NodeAgent.Proofs.Text.Number
import NodeAgent.Proofs.Text.Sorted

/-!
# Certificates that are accepted by their digests

A list of fingerprints says which certificates are accepted.  A fingerprint is the digest of a
certificate, spelled in hexadecimal with capital or small letters and with colons in any places.  A list
with an entry that is no fingerprint is refused as a whole, and no policy comes of it; otherwise exactly
the certificates whose digests are listed are accepted, however the digests are spelled.

## Main definitions

* `IsFingerprint`: whether an entry spells a digest.
* `Names`: whether an entry names a digest.
* `SpelledAlike`: lists whose entries differ in the case of letters and in colons only.
* `TrustPolicy.AcceptsExactly`: a policy that accepts the certificates of a list, and no others.

## Main results

* `pinning_eq`: the policy of a list of entries, or the entry it is refused for.
* `TrustPolicy.acceptsExactly_pinned`: the certificates that a list accepts.
* `spelledAlike_iff_names`: fingerprints are spelled alike exactly if they name the same digests.
* `pinned_certificates_exactly`: the policy of a configuration that lists fingerprints.
-/

namespace NodeAgent

open Text Digest

/-! ## Entries -/

/-- The digits of an entry: the entry without blanks around it and without colons. -/
def digitsOf (entry : String) : List Char :=
  (trimChars entry.toList).filter (· ≠ ':')

/-- **Whether an entry spells a digest**: it has 64 digits, all of them hexadecimal. -/
def IsFingerprint (entry : String) : Prop :=
  (digitsOf entry).length = 64 ∧ ∀ d ∈ digitsOf entry, (hexValue? d).isSome = true

/-- The check of the digits as it runs. -/
theorem length_eq_and_all_iff {entry : String} :
    (digitsOf entry).length = 64 ∧ (digitsOf entry).all (fun d => (hexValue? d).isSome) = true ↔
      IsFingerprint entry :=
  and_congr_right fun _ => List.all_eq_true

instance (entry : String) : Decidable (IsFingerprint entry) :=
  decidable_of_iff _ length_eq_and_all_iff

/-- **Whether an entry names a digest**: its digits, read as hexadecimal numbers, are the bytes of the
digest. -/
def Names (entry : String) (digest : Bytes) : Prop :=
  hexBytes? (digitsOf entry) = some digest

instance (entry : String) (digest : Bytes) : Decidable (Names entry digest) :=
  inferInstanceAs (Decidable (_ = _))

/-- The digits of an entry in small letters. -/
def spelling (entry : String) : String :=
  String.ofList ((digitsOf entry).map lowerAscii)

theorem fingerprint?_eq (entry : String) :
    fingerprint? entry = if IsFingerprint entry then some (spelling entry) else none := by
  have hspelling : toLowerAscii (String.ofList (digitsOf entry)) = spelling entry := by
    rw [← String.toList_inj, toList_toLowerAscii, spelling, String.toList_ofList,
      String.toList_ofList]
  rw [← hspelling, ← if_congr length_eq_and_all_iff rfl rfl]
  rfl

/-- **An entry names the digest that its spelling is written for.** -/
theorem names_iff {entry : String} {digest : Bytes} :
    Names entry digest ↔ spelling entry = hexText digest := by
  rw [Names, hexBytes?_eq_some_iff, spelling, hexText, String.ofList_inj]

theorem hexText_mem_iff {entries : List String} {digest : Bytes} :
    hexText digest ∈ entries.map spelling ↔ ∃ entry ∈ entries, Names entry digest := by
  rw [List.mem_map]
  exact exists_congr fun entry => and_congr_right fun _ => names_iff.symm

/-! ## Lists of entries -/

namespace TrustPolicy

/-- What is said about an entry that is no fingerprint. -/
def refusal (entry : String) : ConfigError :=
  .invalid ("'" ++ entry ++ "' is not a SHA-256 certificate fingerprint")

/-- **The digests of a list of entries**, or the first entry that spells none. -/
theorem digests_eq (entries : List String) :
    digests entries =
      match entries.find? (¬ IsFingerprint ·) with
      | some entry => .error (refusal entry)
      | none => .ok (entries.map spelling) := by
  induction entries with
  | nil => rfl
  | cons entry entries ih =>
    unfold digests at ih ⊢
    rw [List.mapM_cons, fingerprint?_eq, ih, List.find?_cons]
    by_cases h : IsFingerprint entry
    · simp only [h, if_true, not_true_eq_false, decide_false]
      cases entries.find? (¬ IsFingerprint ·) with
      | some bad => rfl
      | none => rfl
    · simp only [h, if_false, not_false_eq_true, decide_true]
      rfl

/-- **The policy of a list of entries.** -/
theorem pinning_eq {entries : List String} (hne : entries ≠ []) :
    pinning entries =
      match entries.find? (¬ IsFingerprint ·) with
      | some entry => .error (refusal entry)
      | none => .ok (pinned (sortedSet (entries.map spelling))) := by
  rw [pinning, digests_eq]
  cases entries.find? (¬ IsFingerprint ·) with
  | some entry => rfl
  | none =>
    have hfound : (entries.map spelling).isEmpty = false := by simpa using hne
    simp only [Except.map, hfound]
    rfl

/-- The policy of a list has every entry spelling a digest. -/
theorem pinning_eq_ok_iff {entries : List String} (hne : entries ≠ []) {policy : TrustPolicy} :
    pinning entries = .ok policy ↔
      (∀ entry ∈ entries, IsFingerprint entry) ∧
        policy = pinned (sortedSet (entries.map spelling)) := by
  rw [pinning_eq hne]
  cases hfind : entries.find? (¬ IsFingerprint ·) with
  | some entry =>
    have hbad : ¬ IsFingerprint entry := by simpa using List.find?_some hfind
    exact iff_of_false nofun fun h => hbad (h.1 entry (List.mem_of_find?_eq_some hfind))
  | none =>
    have hall : ∀ entry ∈ entries, IsFingerprint entry := by simpa using hfind
    rw [and_iff_right hall]
    exact ⟨fun h => (Except.ok.inj h).symm, fun h => congrArg Except.ok h.symm⟩

/-- A list without a policy has an entry that is reported. -/
theorem pinning_eq_error {entries : List String} (hne : entries ≠ [])
    (hbad : ¬ ∀ entry ∈ entries, IsFingerprint entry) :
    ∃ entry ∈ entries, ¬ IsFingerprint entry ∧ pinning entries = .error (refusal entry) := by
  rw [pinning_eq hne]
  cases hfind : entries.find? (¬ IsFingerprint ·) with
  | some entry =>
    exact ⟨entry, List.mem_of_find?_eq_some hfind, by simpa using List.find?_some hfind, rfl⟩
  | none => exact absurd (by simpa using hfind) hbad

theorem judge_pinned_eq (list : List String) (systemAccepts : Bool) (certificate : Bytes) :
    (pinned list).judge systemAccepts certificate =
      if sha256Hex certificate ∈ list then .ok ()
      else .error (.untrusted (sha256Hex certificate)) := by
  simp only [judge, List.contains_iff_mem]

/-- **The promise about a list of entries**: its policy accepts the certificates whose digests the
entries name, and no others. -/
structure AcceptsExactly (policy : TrustPolicy) (entries : List String) : Prop where
  /-- Somebody decides. -/
  ne_anything : policy ≠ anything
  /-- The system does not decide, -/
  ne_systemStore : policy ≠ systemStore
  /-- and the list that does holds something. -/
  fingerprints_ne_nil : policy.fingerprints ≠ []
  /-- Certificates are accepted for their digests, whatever the system says about them; -/
  judge_iff : ∀ systemAccepts certificate,
    policy.judge systemAccepts certificate = .ok () ↔
      ∃ entry ∈ entries, Names entry (sha256 certificate)
  /-- the others are refused, and it is said which they are. -/
  judge_of_not_named : ∀ systemAccepts certificate,
    (∀ entry ∈ entries, ¬ Names entry (sha256 certificate)) →
      policy.judge systemAccepts certificate = .error (.untrusted (sha256Hex certificate))

theorem acceptsExactly_pinned {entries : List String} (hne : entries ≠ []) :
    (pinned (sortedSet (entries.map spelling))).AcceptsExactly entries where
  ne_anything := nofun
  ne_systemStore := nofun
  fingerprints_ne_nil := by
    obtain ⟨entry, hentry⟩ := List.exists_mem_of_ne_nil entries hne
    apply List.ne_nil_of_mem (a := spelling entry)
    exact mem_sortedSet.mpr (List.mem_map_of_mem hentry)
  judge_iff systemAccepts certificate := by
    have hlisted : sha256Hex certificate ∈ sortedSet (entries.map spelling) ↔
        ∃ entry ∈ entries, Names entry (sha256 certificate) :=
      mem_sortedSet.trans hexText_mem_iff
    rw [← hlisted, judge_pinned_eq]
    split
    · next h => exact iff_of_true rfl h
    · next h => exact iff_of_false nofun h
  judge_of_not_named systemAccepts certificate hnamed := by
    rw [judge_pinned_eq]
    apply if_neg
    intro h
    obtain ⟨entry, hentry, hname⟩ := hexText_mem_iff.mp (mem_sortedSet.mp h)
    exact hnamed entry hentry hname

end TrustPolicy

/-! ## Lists that mean the same -/

/-- **Lists whose entries are spelled alike**: they have the same digits, but for the case of letters.
Colons and blanks around entries, the order of entries and repeated ones do not matter. -/
def SpelledAlike (entries others : List String) : Prop :=
  ∀ text, text ∈ entries.map spelling ↔ text ∈ others.map spelling

/-- Whether an entry spells a digest can be seen from its spelling. -/
theorem isFingerprint_iff_spelling {entry : String} :
    IsFingerprint entry ↔
      (spelling entry).toList.length = 64 ∧
        ∀ d ∈ (spelling entry).toList, ∃ v < 16, d = Nat.digitChar v := by
  rw [spelling, String.toList_ofList, List.length_map, List.forall_mem_map]
  refine and_congr_right fun _ => forall₂_congr fun d _ => ?_
  rw [Option.isSome_iff_exists]
  exact exists_congr fun v => hexValue?_eq_some_iff

theorem SpelledAlike.forall_isFingerprint {entries others : List String}
    (h : SpelledAlike entries others) (hall : ∀ entry ∈ entries, IsFingerprint entry) :
    ∀ other ∈ others, IsFingerprint other := by
  intro other hother
  obtain ⟨entry, hentry, heq⟩ := List.mem_map.mp ((h _).mpr (List.mem_map_of_mem hother))
  rw [isFingerprint_iff_spelling, ← heq, ← isFingerprint_iff_spelling]
  exact hall entry hentry

theorem SpelledAlike.symm {entries others : List String} (h : SpelledAlike entries others) :
    SpelledAlike others entries :=
  fun text => (h text).symm

theorem SpelledAlike.ne_nil {entries others : List String} (h : SpelledAlike entries others)
    (hne : entries ≠ []) : others ≠ [] := by
  obtain ⟨entry, hentry⟩ := List.exists_mem_of_ne_nil entries hne
  rintro rfl
  exact absurd ((h _).mp (List.mem_map_of_mem hentry)) List.not_mem_nil

/-- **Lists that are spelled alike have the same policy**, or both have none. -/
theorem SpelledAlike.pinning_eq_ok {entries others : List String} (h : SpelledAlike entries others)
    (hne : entries ≠ []) {policy : TrustPolicy} (hpolicy : TrustPolicy.pinning entries = .ok policy) :
    TrustPolicy.pinning others = .ok policy := by
  obtain ⟨hall, rfl⟩ := (TrustPolicy.pinning_eq_ok_iff hne).mp hpolicy
  refine (TrustPolicy.pinning_eq_ok_iff (h.ne_nil hne)).mpr ⟨h.forall_isFingerprint hall, ?_⟩
  rw [sortedSet_eq_iff.mpr h]

theorem IsFingerprint.exists_names {entry : String} (h : IsFingerprint entry) :
    ∃ digest, Names entry digest :=
  exists_hexBytes? 32 h.1 h.2

/-- **Fingerprints that name the same digests are spelled alike.** -/
theorem spelledAlike_iff_names {entries others : List String}
    (hentries : ∀ entry ∈ entries, IsFingerprint entry)
    (hothers : ∀ other ∈ others, IsFingerprint other) :
    SpelledAlike entries others ↔
      ∀ digest, (∃ entry ∈ entries, Names entry digest) ↔ ∃ other ∈ others, Names other digest := by
  have hnamed : ∀ {list : List String}, (∀ entry ∈ list, IsFingerprint entry) →
      ∀ text ∈ list.map spelling, ∃ digest, text = hexText digest := by
    intro list hlist text htext
    obtain ⟨entry, hentry, rfl⟩ := List.mem_map.mp htext
    obtain ⟨digest, hdigest⟩ := (hlist entry hentry).exists_names
    exact ⟨digest, names_iff.mp hdigest⟩
  constructor
  · intro h digest
    rw [← hexText_mem_iff, ← hexText_mem_iff]
    exact h (hexText digest)
  · intro h text
    constructor
    · intro htext
      obtain ⟨digest, rfl⟩ := hnamed hentries text htext
      exact hexText_mem_iff.mpr ((h digest).mp (hexText_mem_iff.mp htext))
    · intro htext
      obtain ⟨digest, rfl⟩ := hnamed hothers text htext
      exact hexText_mem_iff.mpr ((h digest).mpr (hexText_mem_iff.mp htext))

/-! ## Configurations -/

namespace NodeConfig

/-- **A configuration that lists fingerprints goes by the list.** -/
theorem trust_eq_pinning {c : NodeConfig} (hc : c.validate = .ok ()) (hne : c.sslFingerprints ≠ []) :
    c.trust = TrustPolicy.pinning c.sslFingerprints := by
  have hverify : c.disableSslVerification = false := by
    by_contra hoff
    exact hne ((validate_eq_ok_iff.mp hc).fingerprints (eq_true_of_ne_false hoff))
  rw [trust, hverify]
  rfl

/-- No configuration without a list goes by one. -/
theorem ne_nil_of_trust {c : NodeConfig} {list : List String} (h : c.trust = .ok (.pinned list)) :
    c.sslFingerprints ≠ [] := by
  intro hnil
  unfold trust at h
  split at h
  · cases h
  · rw [hnil] at h
    cases h

end NodeConfig

open TrustPolicy

/-- **A configuration that lists fingerprints accepts exactly the certificates whose digests are
listed.**  If an entry is no fingerprint, there is no policy and such an entry is reported.  The policy
depends on the listed digests alone: how they are spelled, in which order and how often does not
matter. -/
theorem pinned_certificates_exactly (c : NodeConfig) (hc : c.validate = .ok ())
    (hne : c.sslFingerprints ≠ []) :
    ((∃ entry ∈ c.sslFingerprints, ¬ IsFingerprint entry ∧ c.trust = .error (refusal entry)) ∨
      (∀ entry ∈ c.sslFingerprints, IsFingerprint entry) ∧
        ∃ policy, c.trust = .ok policy ∧ policy.AcceptsExactly c.sslFingerprints) ∧
    ∀ other : NodeConfig, other.validate = .ok () →
      (SpelledAlike c.sslFingerprints other.sslFingerprints →
        ∀ policy, other.trust = .ok policy ↔ c.trust = .ok policy) ∧
      (∀ policy, c.trust = .ok policy → (other.trust = .ok policy ↔
        (∀ entry ∈ other.sslFingerprints, IsFingerprint entry) ∧
          ∀ digest, (∃ entry ∈ c.sslFingerprints, Names entry digest) ↔
            ∃ entry ∈ other.sslFingerprints, Names entry digest)) := by
  refine ⟨?_, fun other hother => ⟨fun halike policy => ?_, fun policy hpolicy => ?_⟩⟩
  · rw [NodeConfig.trust_eq_pinning hc hne]
    by_cases hall : ∀ entry ∈ c.sslFingerprints, IsFingerprint entry
    · refine .inr ⟨hall, _, ?_, acceptsExactly_pinned hne⟩
      exact (pinning_eq_ok_iff hne).mpr ⟨hall, rfl⟩
    · exact .inl (pinning_eq_error hne hall)
  · rw [NodeConfig.trust_eq_pinning hc hne,
      NodeConfig.trust_eq_pinning hother (halike.ne_nil hne)]
    exact ⟨halike.symm.pinning_eq_ok (halike.ne_nil hne), halike.pinning_eq_ok hne⟩
  · rw [NodeConfig.trust_eq_pinning hc hne] at hpolicy
    obtain ⟨hall, rfl⟩ := (pinning_eq_ok_iff hne).mp hpolicy
    constructor
    · intro htrust
      have hne' := NodeConfig.ne_nil_of_trust htrust
      rw [NodeConfig.trust_eq_pinning hother hne', pinning_eq_ok_iff hne'] at htrust
      obtain ⟨hall', heq⟩ := htrust
      exact ⟨hall', (spelledAlike_iff_names hall hall').mp (sortedSet_eq_iff.mp (pinned.inj heq))⟩
    · rintro ⟨hall', hnames⟩
      have halike := (spelledAlike_iff_names hall hall').mpr hnames
      rw [NodeConfig.trust_eq_pinning hother (halike.ne_nil hne)]
      exact halike.pinning_eq_ok hne ((pinning_eq_ok_iff hne).mpr ⟨hall, rfl⟩)

/-- The digest of the certificate without content, with capital letters and colons. -/
theorem pinned_certificates_exactly_of_empty :
    ∃ c : NodeConfig, c.validate = .ok () ∧ c.sslFingerprints ≠ [] ∧
      (∀ entry ∈ c.sslFingerprints, IsFingerprint entry) ∧
      ∃ policy, c.trust = .ok policy ∧ policy.judge false [] = .ok () ∧
        policy.judge true [0] = .error (.untrusted (sha256Hex [0])) := by
  let c : NodeConfig := { NodeConfig.standard ⟨"node", 1, "/", 33848⟩ with
    sslFingerprints := [" E3:B0:C4:42:98FC1C149AFBF4C8996FB92427AE41E4649B934CA495991B7852B855"] }
  have hc : c.validate = .ok () := rfl
  have hne : c.sslFingerprints ≠ [] := List.cons_ne_nil _ _
  have hall : ∀ entry ∈ c.sslFingerprints, IsFingerprint entry := by decide +kernel
  refine ⟨c, hc, hne, hall, ?_⟩
  obtain ⟨⟨entry, hentry, hbad, -⟩ | ⟨-, policy, hpolicy, hexact⟩, -⟩ :=
    pinned_certificates_exactly c hc hne
  · exact absurd (hall entry hentry) hbad
  · exact ⟨policy, hpolicy, (hexact.judge_iff false []).mpr (by decide +kernel),
      hexact.judge_of_not_named true [0] (by decide +kernel)⟩

end NodeAgent
