import NodeAgent.Backoff.Uniform

/-!
# Random numbers stay within their bounds

Whatever words a source hands out, the number that is made from them is one of those that were asked for.

## Main results

* `Words.belowWithin_lt`, `Words.upTo_le`: a random number stays within its bound.
* `Words.exists_mem_choose`: of a list that is not empty, a member is chosen.
-/

namespace NodeAgent

/-- A word stands for a number below the bound. -/
theorem lt_of_accepted? {n result : Nat} {word : UInt64} (hn : 0 < n)
    (h : accepted? n word = some result) : result < n := by
  unfold accepted? at h
  dsimp only at h
  split at h
  · cases h
    -- The result is the upper half of the product of a word and `n`.
    have hword : word.toNat < UInt64.size := word.toNat_lt
    refine Nat.div_lt_of_lt_mul (Nat.mul_lt_mul_of_pos_right hword hn)
  · cases h

theorem Words.belowWithin_lt (source : Words) {n : Nat} (hn : 0 < n) (tries : Nat)
    (state : source.State) : (source.belowWithin n tries state).1 < n := by
  induction tries generalizing state with
  | zero => exact hn
  | succ tries ih =>
    rw [belowWithin]
    dsimp only
    split
    · next result h => exact lt_of_accepted? hn h
    · exact ih _

/-- **A random number stays within its bound.** -/
theorem Words.upTo_le (source : Words) (top : UInt64) (state : source.State) :
    (source.upTo top state).1 ≤ top := by
  rw [UInt64.le_iff_toNat_le]
  unfold upTo
  split
  · exact Nat.zero_le _
  split
  · next hfull =>
    -- Any word will do.
    have hword := (source.next state).1.toNat_lt
    have hsize : UInt64.size = 2 ^ 64 := rfl
    omega
  · have htop := top.toNat_lt
    have hsize : UInt64.size = 2 ^ 64 := rfl
    have hbelow : (source.below (top.toNat + 1) state).1 < top.toNat + 1 :=
      source.belowWithin_lt (Nat.succ_pos _) _ _
    dsimp only
    rw [Nat.toUInt64, UInt64.toNat_ofNat_of_lt' (by omega)]
    omega

/-- **Of a list that is not empty, a member is chosen.** -/
theorem Words.exists_mem_choose {α : Type} (source : Words) {xs : List α} (h : xs ≠ [])
    (words : source.State) : ∃ x ∈ xs, (source.choose xs words).1 = some x := by
  have hindex : (source.below xs.length words).1 < xs.length :=
    source.belowWithin_lt (List.length_pos_iff.mpr h) _ _
  refine ⟨xs[(source.below xs.length words).1], List.getElem_mem hindex, ?_⟩
  rw [choose, if_neg (by simpa using h)]
  exact List.getElem?_eq_getElem hindex

theorem Words.mem_of_choose {α : Type} {source : Words} {xs : List α} {words : source.State} {x : α}
    (h : (source.choose xs words).1 = some x) : x ∈ xs := by
  unfold choose at h
  split at h
  · cases h
  · exact List.mem_of_getElem? h

end NodeAgent
