/-
Sums and counts over the rows of a table.

A sum over the rows changes by what is added to it under one key, and by what a new row brings; it
is that of one row if the others contribute nothing.  A count stays if no row becomes one that is
counted, or ceases to be one.
-/
import Asoju.Lib.Table
import Mathlib.Algebra.BigOperators.Group.List.Basic
import Mathlib.Algebra.Ring.Int.Defs

namespace Lib

namespace Table

variable {β : Type}

/-- The sum of a weight over the rows, each with its key. -/
def sum (t : Table β) (f : ℕ → β → ℤ) : ℤ := (t.rows.map fun q => f q.1 q.2).sum

lemma sum_congr {t : Table β} {f g : ℕ → β → ℤ} (h : ∀ i b, t.get? i = some b → f i b = g i b) :
    t.sum f = t.sum g := by
  rw [sum, sum]
  refine congrArg List.sum (List.map_congr_left fun q hq => ?_)
  exact h q.1 q.2 (t.mem_rows_iff.mp hq)

lemma sum_insert (t : Table β) (b : β) (f : ℕ → β → ℤ) :
    (t.insert b).sum f = t.sum f + f t.next b := by
  simp [sum, rows_insert]

/-- A change of a row that the weight does not see. -/
lemma sum_modify (t : Table β) (i : ℕ) {g : β → β} {f : ℕ → β → ℤ} (h : ∀ j b, f j (g b) = f j b) :
    (t.modify i g).sum f = t.sum f := by
  simp only [sum, modify, mapRows, List.map_map]
  refine congrArg List.sum (List.map_congr_left fun q _ => ?_)
  by_cases hq : q.1 = i <;> simp [hq, h]

/-- A weight that is larger under one key. -/
lemma sum_add_at {t : Table β} {i : ℕ} {b : β} (h : t.get? i = some b) (f : ℕ → β → ℤ)
    (x : β → ℤ) : (t.sum fun j c => f j c + if j = i then x c else 0) = t.sum f + x b := by
  have hmem := t.mem_rows_iff.mpr h
  have hnodup := t.nodup
  simp only [sum]
  generalize t.rows = rows at hmem hnodup
  induction rows with
  | nil => exact absurd hmem List.not_mem_nil
  | cons q rows ih =>
    rw [List.map_cons, List.nodup_cons] at hnodup
    simp only [List.map_cons, List.sum_cons]
    rcases List.mem_cons.mp hmem with rfl | hrows
    · -- The other rows have other keys.
      have hrest : ∀ q ∈ rows, (f q.1 q.2 + if q.1 = i then x q.2 else 0) = f q.1 q.2 := by
        intro q hq
        have hne : q.1 ≠ i := fun heq => hnodup.1 (List.mem_map.mpr ⟨q, hq, heq⟩)
        rw [if_neg hne, add_zero]
      rw [List.map_congr_left hrest, if_pos rfl]
      dsimp only
      omega
    · have hne : q.1 ≠ i := fun heq => hnodup.1 (List.mem_map.mpr ⟨_, hrows, heq.symm⟩)
      rw [ih hrows hnodup.2, if_neg hne]
      omega

/-- A sum to which only the row under one key contributes. -/
lemma sum_rows_eq_single {M : Type} [AddCommMonoid M] {t : Table β} {i : ℕ} {b : β}
    (h : t.get? i = some b) {f : ℕ × β → M}
    (hothers : ∀ j c, t.get? j = some c → j ≠ i → f (j, c) = 0) :
    (t.rows.map f).sum = f (i, b) := by
  have hmem := t.mem_rows_iff.mpr h
  have hothers' : ∀ q ∈ t.rows, q.1 ≠ i → f q = 0 := fun q hq =>
    hothers q.1 q.2 (t.mem_rows_iff.mp hq)
  have hnodup := t.nodup
  generalize t.rows = rows at hmem hothers' hnodup
  induction rows with
  | nil => exact absurd hmem List.not_mem_nil
  | cons q rows ih =>
    rw [List.map_cons, List.nodup_cons] at hnodup
    rw [List.map_cons, List.sum_cons]
    rcases List.mem_cons.mp hmem with rfl | hrows
    · -- The other rows have other keys.
      have hrest : (rows.map f).sum = 0 := by
        refine List.sum_eq_zero fun x hx => ?_
        obtain ⟨q, hq, rfl⟩ := List.mem_map.mp hx
        refine hothers' q (List.mem_cons_of_mem _ hq) fun heq => hnodup.1 ?_
        exact List.mem_map.mpr ⟨q, hq, heq⟩
      rw [hrest, add_zero]
    · have hne : q.1 ≠ i := fun heq => hnodup.1 (List.mem_map.mpr ⟨_, hrows, heq.symm⟩)
      rw [hothers' q List.mem_cons_self hne, zero_add]
      exact ih hrows (fun q hq => hothers' q (List.mem_cons_of_mem _ hq)) hnodup.2

/-! ### Counts -/

private lemma countP_eq_countP_iff {α : Type} {p q : α → Bool} {l : List α}
    (h : ∀ a ∈ l, q a = true → p a = true) :
    l.countP q = l.countP p ↔ ∀ a ∈ l, p a = true → q a = true := by
  induction l with
  | nil => simp
  | cons a l ih =>
    have hl := fun b hb => h b (List.mem_cons_of_mem a hb)
    have hle : l.countP q ≤ l.countP p := List.countP_mono_left hl
    rw [List.forall_mem_cons, ← ih hl, List.countP_cons, List.countP_cons]
    have ha := h a (List.mem_cons_self ..)
    by_cases hp : p a = true
    · by_cases hq : q a = true
      · simp [hp, hq]
      · -- One that is not counted any more cannot be made up for.
        simp only [hp, hq, if_true, Bool.false_eq_true, if_false, true_imp_iff, false_and,
          iff_false]
        omega
    · have hq : ¬ q a = true := fun hq => hp (ha hq)
      simp [hp, hq]

/-- Where a change of the rows makes no row one that is counted, the number stays exactly if it
makes none one that is not. -/
lemma countP_values_mapRows_eq_iff {t : Table β} {f : ℕ → β → β} {p : β → Bool}
    (h : ∀ i b, t.get? i = some b → p (f i b) = true → p b = true) :
    (t.mapRows f).values.countP p = t.values.countP p ↔
      ∀ i b, t.get? i = some b → p b = true → p (f i b) = true := by
  have hvalues : (t.mapRows f).values.countP p = t.rows.countP fun r => p (f r.1 r.2) := by
    simp [values, mapRows, List.countP_map, Function.comp_def]
  have hold : t.values.countP p = t.rows.countP fun r => p r.2 := by
    simp [values, List.countP_map, Function.comp_def]
  rw [hvalues, hold, countP_eq_countP_iff fun r hr => h r.1 r.2 (t.mem_rows_iff.mp hr)]
  simp only [Prod.forall, mem_rows_iff]

/-! ### Views -/

variable {γ : Type}

/-- The rows as a view shows them, each with its key. -/
def view (v : β → γ) (t : Table β) : List (ℕ × γ) := t.rows.map fun q => (q.1, v q.2)

lemma view_mapRows {v : β → γ} (t : Table β) {f : ℕ → β → β} (h : ∀ i b, v (f i b) = v b) :
    (t.mapRows f).view v = t.view v := by
  simp [view, mapRows, h]

/-- A change of a row that the view does not show. -/
lemma view_modify {v : β → γ} (t : Table β) (i : ℕ) {f : β → β} (h : ∀ b, v (f b) = v b) :
    (t.modify i f).view v = t.view v := by
  refine t.view_mapRows fun j b => ?_
  split
  · exact h b
  · rfl

lemma map_get?_of_view {v : β → γ} {t u : Table β} (h : t.view v = u.view v) (i : ℕ) :
    (t.get? i).map v = (u.get? i).map v := by
  have hview : ∀ t : Table β, (t.get? i).map v =
      ((t.view v).find? fun q => q.1 = i).map Prod.snd := by
    intro t
    rw [view, List.find?_map, get?, Option.map_map, Option.map_map]
    rfl
  rw [hview, hview, h]

lemma sum_of_view {v : β → γ} {t u : Table β} (h : t.view v = u.view v) (g : ℕ → γ → ℤ) :
    (t.sum fun i b => g i (v b)) = u.sum fun i b => g i (v b) := by
  have hview : ∀ t : Table β, (t.sum fun i b => g i (v b)) =
      ((t.view v).map fun q => g q.1 q.2).sum := by
    intro t
    rw [view, List.map_map, sum]
    rfl
  rw [hview, hview, h]

end Table

end Lib
