/-
A rate of success with a neutral prior.

Until there are `m` attempts, each one that is missing counts as half a success.  One more success
never lowers the rate and one more failure never raises it, also where the prior wears off.
-/
import Mathlib.Algebra.Order.Field.Basic
import Mathlib.Data.Rat.Cast.Order
import Mathlib.Tactic.FieldSimp
import Mathlib.Tactic.Linarith
import Mathlib.Tactic.Positivity
import Mathlib.Tactic.Ring

namespace Lib

/-- The rate of `p` successes among `n` attempts, with a prior of `m` attempts. -/
def priorRate (m p n : ℕ) : ℚ := (p + ((m - n : ℕ) : ℚ) / 2) / (max m n : ℕ)

variable {m p n : ℕ}

/-- The plain rate, once there are enough attempts. -/
lemma priorRate_of_le (h : m ≤ n) : priorRate m p n = p / n := by
  rw [priorRate, Nat.sub_eq_zero_of_le h, max_eq_right h]
  simp

/-- The mean of the plain rate and a half, weighted by the number of the attempts. -/
lemma priorRate_of_lt (hn : 0 < n) (h : n < m) :
    priorRate m p n = p / n * (n / m) + 1 / 2 * (1 - n / m) := by
  have hn' : (n : ℚ) ≠ 0 := by positivity
  have hm' : (m : ℚ) ≠ 0 := by
    have hm : 0 < m := by omega
    positivity
  rw [priorRate, max_eq_left h.le, Nat.cast_sub h.le]
  field_simp

lemma priorRate_nonneg : 0 ≤ priorRate m p n := by
  unfold priorRate
  positivity

lemma priorRate_le_one (h : p ≤ n) : priorRate m p n ≤ 1 := by
  have hp : (p : ℚ) ≤ n := by exact_mod_cast h
  rw [priorRate]
  refine div_le_one_of_le₀ ?_ (by positivity)
  rcases le_total m n with hmn | hmn
  · rw [Nat.sub_eq_zero_of_le hmn, max_eq_right hmn, Nat.cast_zero]
    linarith
  · have hmn' : (n : ℚ) ≤ m := by exact_mod_cast hmn
    rw [Nat.cast_sub hmn, max_eq_left hmn]
    linarith

/-- More successes among as many attempts. -/
lemma priorRate_mono {p' : ℕ} (h : p ≤ p') : priorRate m p n ≤ priorRate m p' n := by
  have hp : (p : ℚ) ≤ p' := by exact_mod_cast h
  unfold priorRate
  gcongr

/-- **One more success never lowers the rate.** -/
theorem priorRate_le_success (h : p ≤ n) : priorRate m p n ≤ priorRate m (p + 1) (n + 1) := by
  rcases lt_or_ge n m with hmn | hmn
  · -- the success takes the place of half a one
    have hsub : m - n = m - (n + 1) + 1 := by omega
    rw [priorRate, priorRate, max_eq_left hmn.le, max_eq_left (by omega : n + 1 ≤ m), hsub]
    push_cast
    gcongr ?_ / _
    linarith
  · rw [priorRate_of_le hmn, priorRate_of_le (by omega)]
    rcases Nat.eq_zero_or_pos n with rfl | hn
    · simp
      positivity
    · have hn' : (0 : ℚ) < n := by exact_mod_cast hn
      have hp : (p : ℚ) ≤ n := by exact_mod_cast h
      rw [div_le_div_iff₀ hn' (by positivity)]
      push_cast
      linarith

/-- **One more failure never raises the rate.** -/
theorem priorRate_failure_le (h : p ≤ n) : priorRate m p (n + 1) ≤ priorRate m p n := by
  rcases lt_or_ge n m with hmn | hmn
  · have hsub : m - n = m - (n + 1) + 1 := by omega
    rw [priorRate, priorRate, max_eq_left hmn.le, max_eq_left (by omega : n + 1 ≤ m), hsub]
    push_cast
    gcongr ?_ / _
    linarith
  · rw [priorRate_of_le hmn, priorRate_of_le (by omega)]
    rcases Nat.eq_zero_or_pos n with rfl | hn
    · obtain rfl : p = 0 := by omega
      simp
    · gcongr
      omega

end Lib
