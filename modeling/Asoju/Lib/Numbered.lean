/-
Lists whose elements are numbered in their order.

`Numbered f l` says that `f` gives the elements of `l` the numbers 1, 2, 3 and so on.  Then the last
element is the one with the greatest number, so that a search for the greatest number finds the
last element, and the next number is one more than the length.
-/
import Mathlib.Data.List.MinMax
import Mathlib.Data.List.Induction
import Mathlib.Tactic.Common
import Mathlib.Tactic.Lemma

namespace Lib

variable {α β : Type} {f : α → ℕ} {l : List α} {a b : α}

def Numbered (f : α → ℕ) (l : List α) : Prop := l.map f = List.range' 1 l.length

namespace Numbered

lemma nil : Numbered f [] := rfl

lemma concat_iff : Numbered f (l ++ [a]) ↔ Numbered f l ∧ f a = l.length + 1 := by
  rw [Numbered, Numbered, List.map_append, List.map_singleton, List.length_append,
    List.length_singleton, List.range'_1_concat]
  constructor
  · intro h
    obtain ⟨hl, ha⟩ := List.append_inj' h rfl
    exact ⟨hl, by simpa [Nat.add_comm] using ha⟩
  · rintro ⟨hl, ha⟩
    rw [hl, ha, Nat.add_comm]

/-- The numbers are those from 1 to the length. -/
lemma perm (h : Numbered f l) : (l.map f).Perm (List.range' 1 l.length) := List.Perm.of_eq h

lemma le_length (h : Numbered f l) (ha : a ∈ l) : f a ≤ l.length := by
  have hmem : f a ∈ List.range' 1 l.length := h ▸ List.mem_map_of_mem ha
  rw [List.mem_range'_1] at hmem
  omega

/-- The greatest number is that of the last element. -/
lemma argmax (h : Numbered f l) : l.argmax f = l.getLast? := by
  induction l using List.reverseRecOn with
  | nil => rfl
  | append_singleton l a ih =>
    obtain ⟨hl, ha⟩ := concat_iff.mp h
    rw [List.argmax_concat, ih hl, List.getLast?_concat]
    cases hlast : l.getLast? with
    | none => rfl
    | some b =>
      have hlt : f b < f a := by
        rw [ha]
        exact Nat.lt_succ_of_le (hl.le_length (List.mem_of_getLast? hlast))
      simp only [if_pos hlt]

/-- The number after the last one. -/
lemma getLast?_succ (h : Numbered f l) : (l.getLast?.map f).getD 0 + 1 = l.length + 1 := by
  induction l using List.reverseRecOn with
  | nil => rfl
  | append_singleton l a ih =>
    rw [List.getLast?_concat, Option.map_some, Option.getD_some, (concat_iff.mp h).2,
      List.length_append, List.length_singleton]

/-- Another last element with the same number. -/
lemma replace (h : Numbered f (l ++ [a])) (hb : f b = f a) : Numbered f (l ++ [b]) := by
  obtain ⟨hl, ha⟩ := concat_iff.mp h
  exact concat_iff.mpr ⟨hl, hb.trans ha⟩

end Numbered

end Lib
