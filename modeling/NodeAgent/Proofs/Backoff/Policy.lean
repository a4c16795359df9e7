import Mathlib.Algebra.Ring.Nat
import NodeAgent.Backoff.Policy

/-!
# Waits without bounds

The wait after a number of failures is computed with numbers of 64 bits that stop at the greatest one.
It is what unbounded numbers would give: a number that had to stop is beyond the bound of every wait.

## Main definitions

* `BackoffPolicy.unbounded`: the wait in unbounded numbers, and without a bound.

## Main results

* `toNat_waitFor`: the wait is the unbounded one, cut off at the bound.
* `waitFor_mono`, `waitFor_le`, `le_waitFor`: waits grow, and stay between the interval and the bound.
-/

namespace NodeAgent

/-- **The wait in unbounded numbers** after `attempt` earlier failures. -/
def BackoffPolicy.unbounded (attempt interval : Nat) : BackoffPolicy → Nat
  | .none => interval
  | .linear => interval * (attempt + 1)
  | .exponential => interval * 2 ^ attempt

variable {policy : BackoffPolicy} {attempt later : UInt32} {interval maxInterval : UInt64}

theorem toNat_saturate (n : Nat) : (saturate n).toNat = min n (UInt64.size - 1) := by
  unfold saturate
  split
  · next h =>
    rw [Nat.toUInt64, UInt64.toNat_ofNat_of_lt' h]
    omega
  · next h =>
    have hsize : UInt64.size - 1 < UInt64.size := by decide
    rw [Nat.toUInt64, UInt64.toNat_ofNat_of_lt' hsize]
    omega

theorem toNat_min (a b : UInt64) : (min a b).toNat = min a.toNat b.toNat := by
  rw [Nat.min_def]
  exact apply_ite UInt64.toNat (a ≤ b) a b

/-- A product that stops at the greatest number of 64 bits does so if the unbounded wait is at least as
great. -/
theorem min_factor (policy : BackoffPolicy) (attempt : UInt32) (interval : Nat) :
    min (interval * policy.factor attempt) (UInt64.size - 1) =
      min (policy.unbounded attempt.toNat interval) (UInt64.size - 1) := by
  cases policy with
  | none => rw [BackoffPolicy.factor, BackoffPolicy.unbounded, Nat.mul_one]
  | linear => rfl
  | exponential =>
    simp only [BackoffPolicy.factor, BackoffPolicy.unbounded]
    split
    · rw [Nat.one_shiftLeft]
    · next hmany =>
      -- The power has no place in 64 bits, so that any multiple of it but zero is too great.
      have hpow : UInt64.size - 1 ≤ 2 ^ attempt.toNat := by
        have hgrown : 2 ^ 64 ≤ 2 ^ attempt.toNat := Nat.pow_le_pow_right (by decide) (by omega)
        exact Nat.le_trans (Nat.sub_le _ _) hgrown
      rcases Nat.eq_zero_or_pos interval with rfl | hpos
      · rw [Nat.zero_mul, Nat.zero_mul]
      · rw [Nat.min_eq_right (Nat.le_mul_of_pos_left _ hpos),
          Nat.min_eq_right (Nat.le_trans hpow (Nat.le_mul_of_pos_left _ hpos))]

/-- **The wait is the unbounded one, cut off at the bound.** -/
theorem toNat_waitFor (policy : BackoffPolicy) (attempt : UInt32) (interval maxInterval : UInt64) :
    (waitFor policy attempt interval maxInterval).toNat =
      min (policy.unbounded attempt.toNat interval.toNat) maxInterval.toNat := by
  have hmax : maxInterval.toNat ≤ UInt64.size - 1 := Nat.le_pred_of_lt maxInterval.toNat_lt
  have hsaturated := toNat_saturate (interval.toNat * policy.factor attempt)
  rw [min_factor] at hsaturated
  rw [waitFor, toNat_min, hsaturated]
  omega

theorem unbounded_mono (policy : BackoffPolicy) (interval : Nat) {attempt later : Nat}
    (h : attempt ≤ later) : policy.unbounded attempt interval ≤ policy.unbounded later interval := by
  cases policy with
  | none => exact Nat.le_refl _
  | linear => exact Nat.mul_le_mul_left _ (Nat.succ_le_succ h)
  | exponential => exact Nat.mul_le_mul_left _ (Nat.pow_le_pow_right (by decide) h)

theorem le_unbounded (policy : BackoffPolicy) (attempt interval : Nat) :
    interval ≤ policy.unbounded attempt interval := by
  cases policy with
  | none => exact Nat.le_refl _
  | linear => exact Nat.le_mul_of_pos_right _ (Nat.succ_pos _)
  | exponential => exact Nat.le_mul_of_pos_right _ (Nat.two_pow_pos _)

/-- **Waits grow** with the number of failures. -/
theorem waitFor_mono (h : attempt ≤ later) :
    waitFor policy attempt interval maxInterval ≤ waitFor policy later interval maxInterval := by
  rw [UInt64.le_iff_toNat_le, toNat_waitFor, toNat_waitFor]
  have hgrown := unbounded_mono policy interval.toNat (UInt32.le_iff_toNat_le.mp h)
  omega

/-- **No wait is longer than the bound.** -/
theorem waitFor_le : waitFor policy attempt interval maxInterval ≤ maxInterval := by
  rw [UInt64.le_iff_toNat_le, toNat_waitFor]
  exact Nat.min_le_right _ _

/-- **No wait is shorter than the interval**, unless the bound is. -/
theorem le_waitFor (h : interval ≤ maxInterval) :
    interval ≤ waitFor policy attempt interval maxInterval := by
  rw [UInt64.le_iff_toNat_le] at h ⊢
  rw [toNat_waitFor]
  exact Nat.le_min.mpr ⟨le_unbounded _ _ _, h⟩

end NodeAgent
