/-
Graduated charges.

A schedule consists of bands, each with a width and a rate; a band without a width has no end.  An
amount fills the bands from the first on, and each band is charged at its own rate for what falls
into it.  `charge` is the charge as a function of the amount, which is piecewise linear, and `fill`
the amounts that fall into the bands.

What a schedule is for is `charge_le_charge` and `charge_sub_le`: a greater amount is charged no
less, and of what is added no more than the highest rate is charged.
-/
import Mathlib.Algebra.Order.Ring.Defs
import Mathlib.Tactic.Linarith
import Mathlib.Tactic.Ring

namespace Lib

/-! ### The amounts in the bands -/

section Fill

variable {α : Type} [AddCommGroup α] [LinearOrder α]

/-- The part of an amount that falls into a band of this width. -/
def inBand (width : Option α) (x : α) : α :=
  match width with
  | none => x
  | some w => min x w

/-- The amounts that fall into the bands, until nothing is left. -/
def fill : List (Option α) → α → List α
  | [], _ => []
  | w :: ws, x => if x ≤ 0 then [] else inBand w x :: fill ws (x - inBand w x)

lemma fill_of_nonpos (ws : List (Option α)) {x : α} (h : x ≤ 0) : fill ws x = [] := by
  cases ws with
  | nil => rfl
  | cons w ws => rw [fill, if_pos h]

lemma fill_cons_of_pos (w : Option α) (ws : List (Option α)) {x : α} (h : 0 < x) :
    fill (w :: ws) x = inBand w x :: fill ws (x - inBand w x) := by
  rw [fill, if_neg (not_le.mpr h)]

variable [IsOrderedAddMonoid α]

lemma sub_inBand_nonneg (w : Option α) (x : α) : 0 ≤ x - inBand w x := by
  cases w with
  | none => exact (sub_self x).ge
  | some w => exact sub_nonneg.mpr (min_le_left x w)

omit [IsOrderedAddMonoid α] in
/-- A band that leaves something is full. -/
lemma inBand_of_lt {w : Option α} {x : α} (h : 0 < x - inBand w x) : w = some (inBand w x) := by
  cases w with
  | none =>
    rw [inBand, sub_self] at h
    exact absurd h (lt_irrefl 0)
  | some w =>
    rcases le_total x w with hle | hle
    · rw [inBand, min_eq_left hle, sub_self] at h
      exact absurd h (lt_irrefl 0)
    · rw [inBand, min_eq_right hle]

/-- **Nothing is lost**: the amounts in the bands add up to the whole, if a band has no end. -/
theorem sum_fill {ws : List (Option α)} (hws : none ∈ ws) {x : α} (hx : 0 ≤ x) :
    (fill ws x).sum = x := by
  induction ws generalizing x with
  | nil => exact absurd hws List.not_mem_nil
  | cons w ws ih =>
    rcases hx.eq_or_lt with rfl | hpos
    · rw [fill_of_nonpos _ (le_refl 0)]
      rfl
    · rw [fill_cons_of_pos w ws hpos, List.sum_cons]
      rcases List.mem_cons.mp hws with rfl | hmem
      · rw [inBand, sub_self, fill_of_nonpos _ (le_refl 0), List.sum_nil, add_zero]
      · rw [ih hmem (sub_inBand_nonneg w x), add_sub_cancel]

omit [IsOrderedAddMonoid α] in
/-- **The bands before the last one are full.** -/
theorem fill_full {ws : List (Option α)} {x : α} {i : ℕ} (hi : i + 1 < (fill ws x).length) :
    ws[i]? = ((fill ws x)[i]?).map some := by
  induction ws generalizing x i with
  | nil => exact absurd hi (Nat.not_lt_zero _)
  | cons w ws ih =>
    rcases le_or_gt x 0 with hx | hx
    · rw [fill_of_nonpos _ hx] at hi
      exact absurd hi (Nat.not_lt_zero _)
    · rw [fill_cons_of_pos w ws hx] at hi ⊢
      cases i with
      | zero =>
        -- Something falls into the next band.
        have hrest : 0 < x - inBand w x := by
          by_contra hnot
          rw [fill_of_nonpos ws (not_lt.mp hnot)] at hi
          exact absurd hi (lt_irrefl 1)
        simp only [List.getElem?_cons_zero, Option.map_some]
        exact congrArg some (inBand_of_lt hrest)
      | succ i =>
        simp only [List.getElem?_cons_succ]
        exact ih (Nat.lt_of_succ_lt_succ hi)

end Fill

/-! ### The charge -/

section Charge

variable {K : Type} [CommRing K] [LinearOrder K] [IsStrictOrderedRing K]

/-- A band of a schedule of charges. -/
structure RateBand (K : Type) where
  width : Option K
  rate : K

/-- The charge on an amount.  What lies above a band with a width is left to the next ones. -/
def charge : List (RateBand K) → K → K
  | [], _ => 0
  | ⟨none, rate⟩ :: _, x => rate * max 0 x
  | ⟨some w, rate⟩ :: bs, x => rate * max 0 (min x w) + charge bs (x - w)

lemma max_zero_split {w : K} (hw : 0 ≤ w) (x : K) :
    max 0 (min x w) + max 0 (x - w) = max 0 x := by
  rcases le_total x w with hx | hx
  · rw [min_eq_left hx, max_eq_left (sub_nonpos.mpr hx), add_zero]
  · rw [min_eq_right hx, max_eq_right hw, max_eq_right (sub_nonneg.mpr hx),
      max_eq_right (hw.trans hx), add_sub_cancel]

/-- The widths of the bands are not negative, and their rates are between zero and `r`. -/
def RatesWithin (r : K) (bs : List (RateBand K)) : Prop :=
  ∀ b ∈ bs, (∀ w, b.width = some w → 0 ≤ w) ∧ 0 ≤ b.rate ∧ b.rate ≤ r

omit [IsStrictOrderedRing K] in
lemma RatesWithin.tail {r : K} {b : RateBand K} {bs : List (RateBand K)}
    (h : RatesWithin r (b :: bs)) : RatesWithin r bs :=
  fun b' hb' => h b' (List.mem_cons_of_mem b hb')

lemma charge_of_nonpos {r : K} {bs : List (RateBand K)} (h : RatesWithin r bs) {x : K}
    (hx : x ≤ 0) : charge bs x = 0 := by
  induction bs generalizing x with
  | nil => rfl
  | cons b bs ih =>
    obtain ⟨width, rate⟩ := b
    obtain ⟨hwidth, -, -⟩ := h _ (List.mem_cons_self ..)
    cases width with
    | none => rw [charge, max_eq_left hx, mul_zero]
    | some w =>
      have hw : 0 ≤ w := hwidth w rfl
      rw [charge, max_eq_left ((min_le_left x w).trans hx), mul_zero, zero_add]
      exact ih h.tail (by linarith)

/-- **A greater amount is charged no less.** -/
theorem charge_le_charge {r : K} {bs : List (RateBand K)} (h : RatesWithin r bs) {x y : K}
    (hxy : x ≤ y) : charge bs x ≤ charge bs y := by
  induction bs generalizing x y with
  | nil => exact le_refl 0
  | cons b bs ih =>
    obtain ⟨width, rate⟩ := b
    obtain ⟨-, hrate, -⟩ := h _ (List.mem_cons_self ..)
    cases width with
    | none => exact mul_le_mul_of_nonneg_left (max_le_max le_rfl hxy) hrate
    | some w =>
      have hfirst : rate * max 0 (min x w) ≤ rate * max 0 (min y w) :=
        mul_le_mul_of_nonneg_left (max_le_max le_rfl (min_le_min hxy le_rfl)) hrate
      have hrest : charge bs (x - w) ≤ charge bs (y - w) := ih h.tail (sub_le_sub_right hxy w)
      exact add_le_add hfirst hrest

/-- The charge on what is added, in terms of what of it is positive. -/
lemma charge_sub_le_max {r : K} {bs : List (RateBand K)} (h : RatesWithin r bs) (hr : 0 ≤ r)
    {x y : K} (hxy : x ≤ y) : charge bs y - charge bs x ≤ r * (max 0 y - max 0 x) := by
  induction bs generalizing x y with
  | nil =>
    rw [charge, charge, sub_zero]
    exact mul_nonneg hr (sub_nonneg.mpr (max_le_max le_rfl hxy))
  | cons b bs ih =>
    obtain ⟨width, rate⟩ := b
    obtain ⟨hwidth, -, hle⟩ := h _ (List.mem_cons_self ..)
    cases width with
    | none =>
      rw [charge, charge, ← mul_sub]
      exact mul_le_mul_of_nonneg_right hle (sub_nonneg.mpr (max_le_max le_rfl hxy))
    | some w =>
      have hgrow : 0 ≤ max 0 (min y w) - max 0 (min x w) :=
        sub_nonneg.mpr (max_le_max le_rfl (min_le_min hxy le_rfl))
      have hfirst : rate * (max 0 (min y w) - max 0 (min x w)) ≤
          r * (max 0 (min y w) - max 0 (min x w)) := mul_le_mul_of_nonneg_right hle hgrow
      have hrest := ih h.tail (sub_le_sub_right hxy w)
      calc charge (⟨some w, rate⟩ :: bs) y - charge (⟨some w, rate⟩ :: bs) x
          = rate * (max 0 (min y w) - max 0 (min x w)) +
              (charge bs (y - w) - charge bs (x - w)) := by rw [charge, charge]; ring
        _ ≤ r * (max 0 (min y w) - max 0 (min x w)) +
              r * (max 0 (y - w) - max 0 (x - w)) := add_le_add hfirst hrest
        _ = r * (max 0 (min y w) + max 0 (y - w) - (max 0 (min x w) + max 0 (x - w))) := by ring
        _ = r * (max 0 y - max 0 x) := by
          rw [max_zero_split (hwidth w rfl) y, max_zero_split (hwidth w rfl) x]

/-- **Of what is added no more than the highest rate is charged.** -/
theorem charge_sub_le {r : K} {bs : List (RateBand K)} (h : RatesWithin r bs) (hr : 0 ≤ r)
    {x y : K} (hxy : x ≤ y) : charge bs y - charge bs x ≤ r * (y - x) := by
  refine (charge_sub_le_max h hr hxy).trans (mul_le_mul_of_nonneg_left ?_ hr)
  rcases le_total x 0 with hx | hx
  · rw [max_eq_left hx, sub_zero]
    exact max_le (sub_nonneg.mpr hxy) (by linarith)
  · rw [max_eq_right hx, max_eq_right (hx.trans hxy)]

end Charge

end Lib
