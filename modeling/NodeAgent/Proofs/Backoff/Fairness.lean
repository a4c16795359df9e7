import Mathlib.Algebra.BigOperators.Group.Finset.Basic
import Mathlib.Data.FinEnum
import Mathlib.Order.Interval.Finset.Nat
import NodeAgent.Proofs.Backoff.Uniform

/-!
# Every result gets the same share of the words

A word of 64 bits stands for a result or for none, and a choice is made by the first word that stands for
a result.  Every result has the same number of words, so that none is favoured, and at least half of all
words stand for a result.

## Main definitions

* `IsFair`: a way to read words that gives every result the same share.
* `Words.Draws`: the result of the first word that stands for one.
* `waitOf?`: how a word is read as a wait.

## Main results

* `card_wordsFor_accepted?`: the number of words that stand for a number below a bound.
* `isFair_accepted?`, `isFair_waitOf?`: numbers below a bound and waits are read fairly.
* `Words.choose_of_draws`, `Words.upTo_of_draws`: choices and waits are made by the first accepted word.
* `random_choice_is_fair`: no member of a list and no wait is favoured.
-/

namespace NodeAgent

/-! ## Shares -/

/-- The words that stand for a result. -/
def wordsFor (read : UInt64 → Option Nat) (result : Nat) : Finset UInt64 :=
  {word | read word = some result}

/-- The words that stand for any result. -/
def wordsAccepted (read : UInt64 → Option Nat) : Finset UInt64 :=
  {word | (read word).isSome}

/-- **A fair way to read words**: every number below a bound has the same share of them, and at least
half of all words stand for a number. -/
structure IsFair (read : UInt64 → Option Nat) (bound share : Nat) : Prop where
  lt_of_read : ∀ word result, read word = some result → result < bound
  card_wordsFor : ∀ result < bound, (wordsFor read result).card = share
  half_le_card : UInt64.size ≤ 2 * (wordsAccepted read).card

section Shares

variable {n : Nat}

/-- The words that stand for any result are those of each result. -/
theorem card_wordsAccepted {read : UInt64 → Option Nat} {share : Nat}
    (hlt : ∀ word result, read word = some result → result < n)
    (hcard : ∀ result < n, (wordsFor read result).card = share) :
    (wordsAccepted read).card = n * share := by
  have hmaps : Set.MapsTo (fun word => (read word).getD 0) (wordsAccepted read) (Finset.range n) := by
    intro word hword
    obtain ⟨result, hresult⟩ := Option.isSome_iff_exists.mp (Finset.mem_filter.mp hword).2
    simpa [hresult] using hlt word result hresult
  have hfiber : ∀ result ∈ Finset.range n,
      ((wordsAccepted read).filter fun word => (read word).getD 0 = result).card = share := by
    intro result hresult
    rw [← hcard result (Finset.mem_range.mp hresult)]
    rw [wordsAccepted, wordsFor, Finset.filter_filter]
    refine congrArg Finset.card (Finset.filter_congr fun word _ => ?_)
    cases read word <;> simp
  rw [Finset.card_eq_sum_card_fiberwise hmaps, Finset.sum_congr rfl hfiber, Finset.sum_const,
    Finset.card_range, Nat.nsmul_eq_mul]

/-- The products by `n` that lie in an interval of `n * m` numbers are those of `m` numbers. -/
theorem mul_mem_interval_iff (hn : 0 < n) (start m v : Nat) :
    start ≤ v * n ∧ v * n < start + n * m ↔
      (start + n - 1) / n ≤ v ∧ v < (start + n - 1) / n + m := by
  have hceil : ∀ x, x ≤ v * n ↔ (x + n - 1) / n ≤ v := by
    intro x
    rw [Nat.div_le_iff_le_mul_add_pred hn, Nat.mul_comm n v]
    omega
  have hend : (start + n * m + n - 1) / n = (start + n - 1) / n + m := by
    rw [← Nat.add_mul_div_left _ _ hn]
    congr 1
    omega
  rw [hceil start, ← not_le, hceil (start + n * m), hend, not_le]

/-- The numbers from a start on are the words from there on, if they fit. -/
theorem card_filter_toNat {start m : Nat} (h : start + m ≤ UInt64.size) :
    ({word | start ≤ word.toNat ∧ word.toNat < start + m} : Finset UInt64).card = m := by
  have hbij : ({word | start ≤ word.toNat ∧ word.toNat < start + m} : Finset UInt64).card =
      (Finset.Ico start (start + m)).card := by
    refine Finset.card_nbij UInt64.toNat (fun word hword => ?_) (fun word _ other _ heq => ?_) ?_
    · simpa using hword
    · exact UInt64.toNat_inj.mp heq
    · intro v hv
      have hv := Finset.mem_Ico.mp hv
      have hfits : (UInt64.ofNat v).toNat = v := UInt64.toNat_ofNat_of_lt' (by omega)
      exact ⟨UInt64.ofNat v, by simpa [hfits] using hv, hfits⟩
  rw [hbij, Nat.card_Ico, Nat.add_sub_cancel_left]

end Shares

/-! ## Numbers below a bound -/

section Below

variable {n : Nat}

/-- The numbers from `0` to the zone are `n` shares of words, which is at least half of all words. -/
theorem zone_bounds (hn : 0 < n) (hsize : n < UInt64.size) :
    zone n + 1 = n * 2 ^ leadingZeros n ∧ n * 2 ^ leadingZeros n ≤ UInt64.size ∧
      UInt64.size ≤ 2 * (n * 2 ^ leadingZeros n) := by
  have hne : n ≠ 0 := hn.ne'
  have hlog : n.log2 < 64 := (Nat.log2_lt hne).mpr hsize
  have hlow : 2 ^ n.log2 ≤ n := Nat.log2_self_le hne
  have hhigh : n < 2 ^ (n.log2 + 1) := Nat.lt_log2_self
  have hzeros : leadingZeros n = 63 - n.log2 := if_neg hne
  have hpow : 2 ^ n.log2 * 2 ^ leadingZeros n = 2 ^ 63 := by
    rw [← Nat.pow_add, hzeros]
    congr 1
    omega
  have hpos : 0 < n * 2 ^ leadingZeros n := Nat.mul_pos hn (Nat.two_pow_pos _)
  have hsize' : UInt64.size = 2 ^ 63 + 2 ^ 63 := rfl
  have hmin := Nat.mul_le_mul_right (2 ^ leadingZeros n) hlow
  have hmax := Nat.mul_le_mul_right (2 ^ leadingZeros n) hhigh.le
  rw [pow_succ, Nat.mul_right_comm, hpow] at hmax
  rw [hpow] at hmin
  refine ⟨?_, by omega, by omega⟩
  rw [zone, Nat.shiftLeft_eq]
  omega

/-- **A word stands for a number** if its product by `n` lies in the share of the number. -/
theorem accepted?_eq_some_iff (hn : 0 < n) (hsize : n < UInt64.size) {word : UInt64} {result : Nat} :
    accepted? n word = some result ↔ result * UInt64.size ≤ word.toNat * n ∧
      word.toNat * n < result * UInt64.size + n * 2 ^ leadingZeros n := by
  obtain ⟨hzone, hfits, -⟩ := zone_bounds hn hsize
  have hparts := Nat.div_add_mod (word.toNat * n) UInt64.size
  have hmod := Nat.mod_lt (word.toNat * n) (show 0 < UInt64.size by decide)
  simp only [accepted?]
  constructor
  · intro h
    split at h
    · next haccepted =>
      obtain rfl := Option.some.inj h
      rw [Nat.mul_comm _ UInt64.size]
      omega
    · cases h
  · rintro ⟨hlow, hhigh⟩
    have hupper : word.toNat * n / UInt64.size = result :=
      Nat.div_eq_of_lt_le hlow (by rw [Nat.succ_mul]; omega)
    rw [hupper, Nat.mul_comm] at hparts
    rw [if_pos (by omega), hupper]

/-- **The number of words that stand for a number** below a bound. -/
theorem card_wordsFor_accepted? (hn : 0 < n) (hsize : n < UInt64.size) {result : Nat}
    (hresult : result < n) : (wordsFor (accepted? n) result).card = 2 ^ leadingZeros n := by
  obtain ⟨-, hfits, -⟩ := zone_bounds hn hsize
  -- The words are as many numbers in a row, the last of which is still a word.
  have hrow : ∀ word, accepted? n word = some result ↔
      (result * UInt64.size + n - 1) / n ≤ word.toNat ∧
        word.toNat < (result * UInt64.size + n - 1) / n + 2 ^ leadingZeros n := by
    intro word
    rw [accepted?_eq_some_iff hn hsize, mul_mem_interval_iff hn]
  have hlast : (result * UInt64.size + n - 1) / n + 2 ^ leadingZeros n ≤ UInt64.size := by
    rw [← Nat.add_mul_div_left _ _ hn]
    refine Nat.le_of_lt_succ ((Nat.div_lt_iff_lt_mul hn).mpr ?_)
    have hnext : (result + 1) * UInt64.size ≤ n * UInt64.size := Nat.mul_le_mul_right _ hresult
    rw [Nat.succ_mul] at hnext ⊢
    rw [Nat.mul_comm UInt64.size n]
    omega
  rw [wordsFor, Finset.filter_congr fun word _ => hrow word]
  exact card_filter_toNat hlast

/-- **Numbers below a bound are read fairly.** -/
theorem isFair_accepted? (hn : 0 < n) (hsize : n < UInt64.size) :
    IsFair (accepted? n) n (2 ^ leadingZeros n) := by
  have hlt : ∀ word result, accepted? n word = some result → result < n :=
    fun _ _ h => lt_of_accepted? hn h
  have hcard : ∀ result < n, (wordsFor (accepted? n) result).card = 2 ^ leadingZeros n :=
    fun _ h => card_wordsFor_accepted? hn hsize h
  refine ⟨hlt, hcard, ?_⟩
  rw [card_wordsAccepted hlt hcard]
  exact (zone_bounds hn hsize).2.2

end Below

/-! ## Waits -/

/-- **How a word is read as a wait** of up to `top` seconds.  A word that may be any number stands for
itself. -/
def waitOf? (top word : UInt64) : Option Nat :=
  if top.toNat + 1 = UInt64.size then some word.toNat else accepted? (top.toNat + 1) word

/-- The number of words that stand for each wait of up to `top` seconds. -/
def waitShare (top : UInt64) : Nat :=
  if top.toNat + 1 = UInt64.size then 1 else 2 ^ leadingZeros (top.toNat + 1)

/-- **Waits are read fairly.** -/
theorem isFair_waitOf? (top : UInt64) : IsFair (waitOf? top) (top.toNat + 1) (waitShare top) := by
  have htop : top.toNat < UInt64.size := top.toNat_lt
  by_cases hfull : top.toNat + 1 = UInt64.size
  · have hread : waitOf? top = fun word => some word.toNat := funext fun word => if_pos hfull
    have hlt : ∀ word result, waitOf? top word = some result → result < top.toNat + 1 := by
      intro word result h
      rw [hread] at h
      obtain rfl := Option.some.inj h
      exact hfull ▸ word.toNat_lt
    have hcard : ∀ result < top.toNat + 1, (wordsFor (waitOf? top) result).card = 1 := by
      intro result hresult
      have hword : ∀ word : UInt64, waitOf? top word = some result ↔
          result ≤ word.toNat ∧ word.toNat < result + 1 := by
        intro word
        rw [hread, Option.some.injEq]
        omega
      rw [wordsFor, Finset.filter_congr fun word _ => hword word]
      exact card_filter_toNat (by omega)
    rw [waitShare, if_pos hfull]
    refine ⟨hlt, hcard, ?_⟩
    rw [card_wordsAccepted hlt hcard, hfull]
    omega
  · have hread : waitOf? top = accepted? (top.toNat + 1) := funext fun word => if_neg hfull
    rw [hread, waitShare, if_neg hfull]
    exact isFair_accepted? (Nat.succ_pos _) (by omega)

/-! ## The first word that stands for a result -/

/-- **The result of the first word that stands for one**, behind a number of words that do not. -/
inductive Words.Draws (source : Words) (read : UInt64 → Option Nat) :
    Nat → source.State → Nat → source.State → Prop
  | accept {state result} (h : read (source.next state).1 = some result) :
      Draws source read 0 state result (source.next state).2
  | reject {rejected state result state'} (h : read (source.next state).1 = none)
      (later : Draws source read rejected (source.next state).2 result state') :
      Draws source read (rejected + 1) state result state'

section Draws

variable {source : Words} {read : UInt64 → Option Nat} {n rejected result : Nat}
  {state state' : source.State}

theorem Words.belowWithin_of_draws (h : source.Draws (accepted? n) rejected state result state')
    {tries : Nat} (ht : rejected < tries) : source.belowWithin n tries state = (result, state') := by
  induction h generalizing tries with
  | accept h =>
    obtain ⟨tries, rfl⟩ := Nat.exists_eq_succ_of_ne_zero (Nat.ne_zero_of_lt ht)
    simp only [belowWithin, h]
  | reject h _ ih =>
    obtain ⟨tries, rfl⟩ := Nat.exists_eq_succ_of_ne_zero (Nat.ne_zero_of_lt ht)
    simp only [belowWithin, h]
    exact ih (Nat.lt_of_succ_lt_succ ht)

/-- **A member of a list is chosen** by the first word that is accepted. -/
theorem Words.choose_of_draws {α : Type} {xs : List α} (hxs : xs ≠ [])
    (h : source.Draws (accepted? xs.length) rejected state result state')
    (hr : rejected < UInt64.size) : source.choose xs state = (xs[result]?, state') := by
  rw [choose, if_neg (by simpa using hxs), below, belowWithin_of_draws h hr]

/-- **A wait is chosen** by the first word that is accepted, if there is anything to choose. -/
theorem Words.upTo_of_draws {top : UInt64} (htop : top ≠ 0)
    (h : source.Draws (waitOf? top) rejected state result state') (hr : rejected < UInt64.size) :
    source.upTo top state = (result.toUInt64, state') := by
  rw [upTo, if_neg htop]
  by_cases hfull : top.toNat + 1 = UInt64.size
  · rw [if_pos hfull]
    -- Every word is accepted, so that the first one is taken.
    have hread : waitOf? top = fun word => some word.toNat := funext fun word => if_pos hfull
    rw [hread] at h
    cases h with
    | accept h =>
      obtain rfl := Option.some.inj h
      rw [Nat.toUInt64, UInt64.ofNat_toNat]
    | reject h => cases h
  · have hread : waitOf? top = accepted? (top.toNat + 1) := funext fun word => if_neg hfull
    rw [hread] at h
    rw [if_neg hfull, below, belowWithin_of_draws h hr]

end Draws

/-! ## Progressions -/

/-- The word that a source hands out behind a number of others. -/
def Words.word (source : Words) (state : source.State) : Nat → UInt64
  | 0 => (source.next state).1
  | i + 1 => source.word (source.next state).2 i

theorem Words.read_word_of_draws {source : Words} {read : UInt64 → Option Nat}
    {rejected result : Nat} {state state' : source.State}
    (h : source.Draws read rejected state result state') :
    (∀ i < rejected, read (source.word state i) = none) ∧
      read (source.word state rejected) = some result := by
  induction h with
  | accept h => exact ⟨fun i hi => absurd hi i.not_lt_zero, h⟩
  | reject h _ ih =>
    refine ⟨fun i hi => ?_, ih.2⟩
    cases i with
    | zero => exact h
    | succ i => exact ih.1 i (Nat.lt_of_succ_lt_succ hi)

theorem Words.word_progression (step first : UInt64) (i : Nat) :
    (Words.progression step).word first i = first + .ofNat i * step := by
  induction i generalizing first with
  | zero => simp [word, progression]
  | succ i ih =>
    change (Words.progression step).word (first + step) i = _
    have hone : UInt64.ofNat 1 * step = step := UInt64.one_mul step
    rw [ih, UInt64.ofNat_add, UInt64.add_mul, hone, UInt64.add_assoc, UInt64.add_comm step]

/-- **A progression comes back to its first word** after as many words as there are, so that a word is
accepted before that or never. -/
theorem Words.rejected_lt_of_draws {step first later : UInt64} {read : UInt64 → Option Nat}
    {rejected result : Nat} (h : (Words.progression step).Draws read rejected first result later) :
    rejected < UInt64.size := by
  obtain ⟨hnone, hsome⟩ := read_word_of_draws h
  by_contra hge
  have hpos : 0 < UInt64.size := by decide
  have hsame : UInt64.ofNat (rejected - UInt64.size) = .ofNat rejected := by
    rw [← UInt64.toNat_inj, UInt64.toNat_ofNat', UInt64.toNat_ofNat']
    exact (Nat.mod_eq_sub_mod (Nat.not_lt.mp hge)).symm
  have hearlier := hnone (rejected - UInt64.size) (by omega)
  rw [word_progression, hsame, ← word_progression, hsome] at hearlier
  cases hearlier

/-! ## No result is favoured -/

/-- **A choice that favours no member** of a list. -/
structure Words.ChoosesFairly {α : Type} (source : Words) (words : source.State) (xs : List α) :
    Prop where
  /-- The positions share the words. -/
  isFair : IsFair (accepted? xs.length) xs.length (2 ^ leadingZeros xs.length)
  exists_mem : ∃ x ∈ xs, (source.choose xs words).1 = some x
  /-- The first word that is accepted selects the position. -/
  of_draws : ∀ rejected position later, rejected < UInt64.size →
    source.Draws (accepted? xs.length) rejected words position later →
      source.choose xs words = (xs[position]?, later)

/-- **A wait of up to `top` seconds that favours none.** -/
structure Words.WaitsFairly (source : Words) (words : source.State) (top : UInt64) : Prop where
  /-- The waits share the words. -/
  isFair : IsFair (waitOf? top) (top.toNat + 1) (waitShare top)
  le_top : (source.upTo top words).1 ≤ top
  /-- The first word that is accepted is the wait, if there is anything to choose. -/
  of_draws : top ≠ 0 → ∀ rejected wait later, rejected < UInt64.size →
    source.Draws (waitOf? top) rejected words wait later →
      source.upTo top words = (wait.toUInt64, later)
  of_zero : top = 0 → source.upTo top words = (0, words)

/-- **No responder and no wait is favoured**, whatever words a source hands out.  The length of a list is
a number of 64 bits. -/
theorem random_choice_is_fair (source : Words) (words : source.State) :
    (∀ (α : Type) (xs : List α), xs ≠ [] → xs.length < UInt64.size →
      source.ChoosesFairly words xs) ∧
    ∀ top, source.WaitsFairly words top := by
  constructor
  · intro α xs hxs hsize
    have hfair := isFair_accepted? (List.length_pos_iff.mpr hxs) hsize
    refine ⟨hfair, source.exists_mem_choose hxs words, ?_⟩
    intro rejected position later hr hdraws
    exact Words.choose_of_draws hxs hdraws hr
  · intro top
    refine ⟨isFair_waitOf? top, source.upTo_le top words, ?_, ?_⟩
    · intro htop rejected wait later hr hdraws
      exact Words.upTo_of_draws htop hdraws hr
    · rintro rfl
      rfl

/-- **A choice behind a word that is rejected**: of three members, the first word would select the first
one, but its lower half is outside the zone. -/
theorem random_choice_is_fair_of_rejection :
    let source := Words.progression 1
    let words : source.State := (0x5555555555555555 : UInt64)
    ["a", "b", "c"] ≠ [] ∧ ["a", "b", "c"].length < UInt64.size ∧
      source.choose ["a", "b", "c"] words = (some "b", (0x5555555555555557 : UInt64)) ∧
      (wordsFor (accepted? 3) 1).card = 2 ^ 62 := by
  intro source words
  have hsize : ["a", "b", "c"].length < UInt64.size := by decide
  have hdraws : source.Draws (accepted? 3) 1 words 1 (0x5555555555555557 : UInt64) :=
    .reject (by decide +kernel) (.accept (by decide +kernel))
  have hfair := (random_choice_is_fair source words).1 _ ["a", "b", "c"] (by decide) hsize
  refine ⟨by decide, hsize, ?_, ?_⟩
  · exact hfair.of_draws _ _ _ (Words.rejected_lt_of_draws hdraws) hdraws
  · exact hfair.isFair.card_wordsFor 1 (by decide)

end NodeAgent
