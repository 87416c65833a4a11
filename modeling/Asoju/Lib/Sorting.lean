/-
Rows in the order of a column.

The order is stable: rows with one value of the column stay as they were.  Hence choosing rows and
ordering them commute (`filter_sortDesc`), and what is shown of an ordered list
depends on the rows that are shown alone.
-/
import Mathlib.Data.List.Sort
import Mathlib.Tactic.Common
import Mathlib.Tactic.Lemma

namespace Lib

variable {α κ : Type}

section Relation

variable (r : α → α → Prop) [DecidableRel r] [IsTrans α r] (q : α → Bool)

/-- A row that is not chosen is not missed, and one that is goes to its place. -/
lemma filter_orderedInsert (a : α) {l : List α} (h : l.Pairwise r) :
    (l.orderedInsert r a).filter q =
      if q a then (l.filter q).orderedInsert r a else l.filter q := by
  induction l with
  | nil => cases ha : q a <;> simp [ha]
  | cons b l ih =>
    obtain ⟨hb, hl⟩ := List.pairwise_cons.mp h
    by_cases hab : r a b
    · rw [List.orderedInsert_cons_of_le r l hab]
      cases ha : q a with
      | false => simp [ha]
      | true =>
        rw [List.filter_cons_of_pos ha, if_pos rfl]
        -- whatever is left comes after `a`
        cases hfirst : (b :: l).filter q with
        | nil => rfl
        | cons c l' =>
          have hc : c ∈ b :: l := (List.mem_filter.mp (hfirst ▸ List.mem_cons_self ..)).1
          have hac : r a c := by
            rcases List.mem_cons.mp hc with rfl | hc
            · exact hab
            · exact IsTrans.trans a b c hab (hb c hc)
          rw [List.orderedInsert_cons_of_le r l' hac]
    · rw [List.orderedInsert_of_not_le r l hab]
      cases hqb : q b with
      | false =>
        have hnot : ¬ q b = true := by simp [hqb]
        rw [List.filter_cons_of_neg hnot, List.filter_cons_of_neg hnot, ih hl]
      | true =>
        rw [List.filter_cons_of_pos hqb, List.filter_cons_of_pos hqb, ih hl,
          List.orderedInsert_of_not_le r _ hab]
        split <;> rfl

lemma filter_insertionSort [Std.Total r] (l : List α) :
    (l.insertionSort r).filter q = (l.filter q).insertionSort r := by
  induction l with
  | nil => rfl
  | cons a l ih =>
    rw [List.insertionSort_cons, filter_orderedInsert r q a (List.pairwise_insertionSort r l), ih]
    cases ha : q a with
    | false => rw [if_neg (by simp), List.filter_cons_of_neg (by simp [ha])]
    | true => rw [if_pos rfl, List.filter_cons_of_pos ha, List.insertionSort_cons]

end Relation

variable [LinearOrder κ] (key : α → κ) (q : α → Bool)

/-- The rows with the smallest value first. -/
def sortAsc (l : List α) : List α := l.insertionSort fun a b => key a ≤ key b

/-- The rows with the largest value first. -/
def sortDesc (l : List α) : List α := l.insertionSort fun a b => key b ≤ key a

lemma mem_sortAsc {a : α} {l : List α} : a ∈ sortAsc key l ↔ a ∈ l :=
  List.mem_insertionSort _

lemma mem_sortDesc {a : α} {l : List α} : a ∈ sortDesc key l ↔ a ∈ l :=
  List.mem_insertionSort _

theorem filter_sortDesc (l : List α) :
    (sortDesc key l).filter q = sortDesc key (l.filter q) := by
  have : Std.Total fun a b => key b ≤ key a := ⟨fun a b => le_total (key b) (key a)⟩
  have : IsTrans α fun a b => key b ≤ key a := ⟨fun _ _ _ hab hbc => hbc.trans hab⟩
  exact filter_insertionSort _ q l

/-- The first of the rows has the largest value. -/
lemma le_of_head?_sortDesc {a b : α} {l : List α} (ha : a ∈ l)
    (hb : (sortDesc key l).head? = some b) : key a ≤ key b := by
  have : Std.Total fun a b => key b ≤ key a := ⟨fun a b => le_total (key b) (key a)⟩
  have : IsTrans α fun a b => key b ≤ key a := ⟨fun _ _ _ hab hbc => hbc.trans hab⟩
  have hsorted : (sortDesc key l).Pairwise fun a b => key b ≤ key a :=
    List.pairwise_insertionSort _ l
  have hmem : a ∈ sortDesc key l := (mem_sortDesc key).mpr ha
  cases hl : sortDesc key l with
  | nil =>
    rw [hl] at hmem
    exact absurd hmem List.not_mem_nil
  | cons c l' =>
    rw [hl] at hb hsorted hmem
    obtain rfl : c = b := Option.some.inj hb
    rcases List.mem_cons.mp hmem with rfl | hrest
    · exact le_rfl
    · exact (List.pairwise_cons.mp hsorted).1 a hrest

/-- Of the rows with the largest value the oldest comes first: another row takes its place if its
value is larger. -/
lemma head?_sortDesc_concat (l : List α) (a : α) :
    (sortDesc key (l ++ [a])).head? =
      some ((sortDesc key l).head?.elim a fun b => if key b < key a then a else b) := by
  -- What stands first is the new row, or what stood first before.
  have hcons : ∀ c l, (sortDesc key (c :: l)).head? =
      some ((sortDesc key l).head?.elim c fun b => if key b ≤ key c then c else b) := by
    intro c l
    rw [sortDesc, List.insertionSort_cons, ← sortDesc]
    cases sortDesc key l with
    | nil => rfl
    | cons b l' =>
      by_cases hbc : key b ≤ key c
      · rw [List.orderedInsert_cons_of_le _ l' hbc]
        simp [hbc]
      · rw [List.orderedInsert_of_not_le _ l' hbc]
        simp [hbc]
  induction l with
  | nil => rfl
  | cons c l ih =>
    rw [List.cons_append, hcons, hcons, ih]
    cases (sortDesc key l).head? with
    | none => by_cases hca : key a ≤ key c <;> simp [hca, not_lt.mpr, not_le.mp]
    | some b =>
      simp only [Option.elim_some, Option.some.injEq]
      by_cases hba : key b < key a <;> by_cases hbc : key b ≤ key c
      · by_cases hca : key a ≤ key c <;> simp [hba, hbc, hca, not_lt.mpr, not_le.mp]
      · have hca : ¬ key a ≤ key c := fun hac => hbc (hba.le.trans hac)
        simp [hba, hbc, hca]
      · have hca : ¬ key c < key a := fun hac => hba (hbc.trans_lt hac)
        simp [hba, hbc, hca]
      · simp [hba, hbc]

/-- Of rows whose values increase the last one has the largest. -/
lemma head?_sortDesc {l : List α} (h : l.Pairwise fun a b => key a < key b) :
    (sortDesc key l).head? = l.getLast? := by
  rcases List.eq_nil_or_concat l with rfl | ⟨l', c, rfl⟩
  · rfl
  · rw [List.concat_eq_append] at h ⊢
    rw [List.getLast?_concat]
    have hc : c ∈ l' ++ [c] := List.mem_append_right _ (List.mem_singleton_self c)
    cases hb : (sortDesc key (l' ++ [c])).head? with
    | none =>
      have hmem := (mem_sortDesc key).mpr hc
      rw [List.head?_eq_none_iff.mp hb] at hmem
      exact absurd hmem List.not_mem_nil
    | some b =>
      have hle : key c ≤ key b := le_of_head?_sortDesc key hc hb
      have hmem : b ∈ l' ++ [c] := (mem_sortDesc key).mp (List.mem_of_mem_head? hb)
      rcases List.mem_append.mp hmem with hold | hlast
      · have hlt := (List.pairwise_append.mp h).2.2 b hold c (List.mem_singleton_self c)
        exact absurd hle (not_le_of_gt hlt)
      · rw [List.mem_singleton.mp hlast]

/-- Rows whose values increase are in order. -/
lemma sortAsc_eq_self {l : List α} (h : l.Pairwise fun a b => key a < key b) :
    sortAsc key l = l :=
  (h.imp fun hab => hab.le).insertionSort_eq

end Lib
