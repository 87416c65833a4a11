/-
Fixed-point decimals and the two roundings that meet in a money column.

A database column of type `DECIMAL(p, s)` holds the multiples of `10 ^ (-s)`; writing
any other number to it rounds half away from zero.  Program arithmetic on the numbers
read back is taken as exact.  The values of the columns form a subgroup of the rationals
(`Decimal.grid`), and the one fact the bounds of a ledger need is `Decimal.store_le`:
storing a number that lies below a value of the grid stays below that value.
-/
import Mathlib.Algebra.Order.Floor.Ring
import Mathlib.Data.Rat.Floor
import Mathlib.Algebra.Group.Subgroup.Defs
import Mathlib.Algebra.Group.Submonoid.BigOperators
import Mathlib.Tactic.Ring
import Mathlib.Tactic.Linarith
import Mathlib.Tactic.Positivity
import Mathlib.Tactic.FieldSimp

namespace Lib

/-- Rounding to the nearest integer, halves upwards. -/
def roundHalfUp (q : ℚ) : ℤ := ⌊q + 1 / 2⌋

/-- Rounding to the nearest integer, halves away from zero. -/
def roundHalfAway (q : ℚ) : ℤ := if 0 ≤ q then ⌊q + 1 / 2⌋ else -⌊-q + 1 / 2⌋

lemma roundHalfUp_intCast (n : ℤ) : roundHalfUp n = n := by
  rw [roundHalfUp, Int.floor_eq_iff]
  constructor <;> linarith

lemma roundHalfUp_mono {p q : ℚ} (h : p ≤ q) : roundHalfUp p ≤ roundHalfUp q :=
  Int.floor_mono (by linarith)

lemma roundHalfUp_intCast_add (n : ℤ) (q : ℚ) : roundHalfUp (n + q) = n + roundHalfUp q := by
  rw [roundHalfUp, roundHalfUp, add_assoc, Int.floor_intCast_add]

/-- **The two directions of a half**: rounding commutes with a change of sign except exactly
between two whole numbers. -/
theorem roundHalfUp_neg_iff (q : ℚ) :
    roundHalfUp (-q) = -roundHalfUp q ↔ ∀ n : ℤ, q ≠ n + 1 / 2 := by
  obtain ⟨f, hf⟩ : ∃ f, f = roundHalfUp q := ⟨_, rfl⟩
  have hbounds := Int.floor_eq_iff.mp hf.symm
  rw [← hf, roundHalfUp, Int.floor_eq_iff]
  push_cast
  constructor
  · rintro ⟨-, hlt⟩ n rfl
    have hfloor : f = n + 1 := by
      rw [hf, roundHalfUp, Int.floor_eq_iff]
      push_cast
      constructor <;> linarith
    rw [hfloor] at hlt
    push_cast at hlt
    linarith
  · intro hne
    have hne' : q ≠ f - 1 / 2 := by
      intro heq
      refine hne (f - 1) ?_
      push_cast
      linarith
    have hlt : (f : ℚ) - 1 / 2 < q := lt_of_le_of_ne (by linarith [hbounds.1]) (Ne.symm hne')
    constructor <;> linarith [hbounds.2]

lemma roundHalfAway_intCast (n : ℤ) : roundHalfAway n = n := by
  rw [roundHalfAway]
  split
  · exact roundHalfUp_intCast n
  · have h := roundHalfUp_intCast (-n)
    rw [roundHalfUp, Int.cast_neg] at h
    rw [h, neg_neg]

lemma roundHalfAway_mono {p q : ℚ} (h : p ≤ q) : roundHalfAway p ≤ roundHalfAway q := by
  rw [roundHalfAway, roundHalfAway]
  split_ifs with hp hq hq
  · exact Int.floor_mono (by linarith)
  · exact absurd (le_trans hp h) hq
  · have h₁ : 0 ≤ ⌊-p + 1 / 2⌋ := Int.floor_nonneg.mpr (by linarith)
    have h₂ : 0 ≤ ⌊q + 1 / 2⌋ := Int.floor_nonneg.mpr (by linarith)
    omega
  · exact neg_le_neg (Int.floor_mono (by linarith))

lemma roundHalfAway_nonneg_iff (q : ℚ) : 0 ≤ roundHalfAway q ↔ -(1 / 2) < q := by
  rw [roundHalfAway]
  split_ifs with h
  · exact iff_of_true (Int.floor_nonneg.mpr (by linarith)) (by linarith)
  · rw [Left.nonneg_neg_iff, ← Int.lt_add_one_iff, Int.floor_lt]
    push_cast
    constructor <;> intro h' <;> linarith

/-- A decimal with `scale` digits after the point, as the number of its smallest units. -/
@[ext] structure Decimal (scale : ℕ) where
  units : ℤ
deriving DecidableEq, Repr

namespace Decimal

variable {scale : ℕ}

/-- The number a decimal stands for. -/
def toRat (d : Decimal scale) : ℚ := d.units / 10 ^ scale

/-- What a column of this scale holds after the number `q` has been written to it. -/
def store (scale : ℕ) (q : ℚ) : Decimal scale := ⟨roundHalfAway (q * 10 ^ scale)⟩

/-- The whole number `n` as a decimal. -/
def ofInt (n : ℤ) : Decimal scale := ⟨n * 10 ^ scale⟩

lemma toRat_mul (d : Decimal scale) : d.toRat * 10 ^ scale = d.units := by
  rw [toRat, div_mul_cancel₀]
  positivity

lemma toRat_le_iff {d e : Decimal scale} : d.toRat ≤ e.toRat ↔ d.units ≤ e.units := by
  have h : (0 : ℚ) < 10 ^ scale := by positivity
  rw [toRat, toRat, div_le_div_iff_of_pos_right h, Int.cast_le]

/-- Writing back a number that was read leaves the column as it is. -/
@[simp] lemma store_toRat (d : Decimal scale) : store scale d.toRat = d := by
  rw [store, toRat_mul, roundHalfAway_intCast]

/-- A stored number is negative only from half a unit below zero on. -/
lemma store_nonneg_iff {q : ℚ} :
    0 ≤ (store scale q).toRat ↔ -(1 / 2) < q * 10 ^ scale := by
  have h : (0 : ℚ) < 10 ^ scale := by positivity
  rw [toRat, le_div_iff₀ h, zero_mul, Int.cast_nonneg_iff]
  exact roundHalfAway_nonneg_iff _

lemma store_mono {p q : ℚ} (h : p ≤ q) : (store scale p).toRat ≤ (store scale q).toRat := by
  rw [toRat_le_iff]
  exact roundHalfAway_mono (by gcongr)

/-- The numbers a column of this scale can hold. -/
def grid (scale : ℕ) : AddSubgroup ℚ where
  carrier := Set.range (toRat : Decimal scale → ℚ)
  zero_mem' := ⟨⟨0⟩, by simp [toRat]⟩
  add_mem' := by
    rintro _ _ ⟨d, rfl⟩ ⟨e, rfl⟩
    exact ⟨⟨d.units + e.units⟩, by simp [toRat, add_div]⟩
  neg_mem' := by
    rintro _ ⟨d, rfl⟩
    exact ⟨⟨-d.units⟩, by simp [toRat, neg_div]⟩

lemma intCast_mem_grid (n : ℤ) : (n : ℚ) ∈ grid scale := ⟨ofInt n, by simp [ofInt, toRat]⟩

lemma toRat_mem_grid (d : Decimal scale) : d.toRat ∈ grid scale := ⟨d, rfl⟩

lemma store_toRat_of_mem {q : ℚ} (h : q ∈ grid scale) : (store scale q).toRat = q := by
  obtain ⟨d, rfl⟩ := h
  rw [store_toRat]

/-- **Rounding cannot cross a value of the grid**: a number at most `r`, stored, is at
most `r` when `r` itself can be stored exactly. -/
theorem store_le {q r : ℚ} (hr : r ∈ grid scale) (h : q ≤ r) : (store scale q).toRat ≤ r :=
  (store_mono h).trans_eq (store_toRat_of_mem hr)

theorem le_store {q r : ℚ} (hr : r ∈ grid scale) (h : r ≤ q) : r ≤ (store scale q).toRat :=
  (store_toRat_of_mem hr).symm.trans_le (store_mono h)

end Decimal

end Lib
