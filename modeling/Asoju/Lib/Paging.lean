/-
Paging with a cursor.

A list in descending order of a key is read page by page, and the next page begins with what is
smaller than the last key of the page before.  Elements that share their key with the end of a page
are passed over if they come after it.  `pages_spec` says that the paging ends, that it yields
nothing twice, and that it yields everything exactly if no page ends between two elements of one
key.
-/
import Mathlib.Data.List.Sort
import Mathlib.Tactic.Common
import Mathlib.Tactic.Lemma

namespace Lib

variable {α κ : Type} [LinearOrder κ] (key : α → κ) (limit : ℕ)

/-- The pages of a list, until an empty one; there are none when the fuel does not suffice. -/
def pages : ℕ → List α → Option (List (List α))
  | 0, _ => none
  | fuel + 1, l =>
      match (l.take limit).getLast? with
      | none => some []
      | some last =>
          (pages fuel (l.filter fun a => key a < key last)).map fun ps => l.take limit :: ps

/-- No page ends between two elements of one key. -/
def Separated (l : List α) : Prop :=
  ∀ i a b, limit ∣ i + 1 → l[i]? = some a → l[i + 1]? = some b → key b < key a

variable {key limit}

lemma separated_of_length_le {l : List α} (h : l.length ≤ limit) : Separated key limit l := by
  intro i a b hdvd _ hb
  have hlt := (List.getElem?_eq_some_iff.mp hb).1
  have hle := Nat.le_of_dvd (Nat.succ_pos i) hdvd
  omega

/-- The first page and what comes after it. -/
lemma separated_append_iff {page rest : List α} (hpage : page.length = limit) {last : α}
    (hlast : page.getLast? = some last) :
    Separated key limit (page ++ rest) ↔
      (∀ b ∈ rest.head?, key b < key last) ∧ Separated key limit rest := by
  have hpos : 0 < limit := hpage ▸ List.length_pos_iff.mpr fun hnil => by
    rw [hnil] at hlast
    cases hlast
  have hend : page[limit - 1]? = some last := by rw [← hpage, ← List.getLast?_eq_getElem?, hlast]
  have hafter : ∀ i, (page ++ rest)[limit + i]? = rest[i]? := by
    intro i
    rw [List.getElem?_append_right (by omega), ← hpage, Nat.add_sub_cancel_left]
  constructor
  · intro h
    refine ⟨fun b hb => ?_, fun i a b hdvd ha hb => ?_⟩
    · refine h (limit - 1) last b ⟨1, by omega⟩ ?_ ?_
      · rw [List.getElem?_append_left (by omega), hend]
      · rw [Nat.sub_add_cancel hpos, ← Nat.add_zero limit, hafter, ← List.head?_eq_getElem?]
        exact hb
    · refine h (limit + i) a b ?_ ?_ ?_
      · rw [Nat.add_assoc]
        exact (Nat.dvd_add_right (Nat.dvd_refl limit)).mpr hdvd
      · rw [hafter, ha]
      · rw [Nat.add_assoc, hafter, hb]
  · rintro ⟨hboundary, hrest⟩ i a b hdvd ha hb
    rcases Nat.lt_trichotomy (i + 1) limit with hlt | heq | hgt
    · exact absurd (Nat.le_of_dvd (Nat.succ_pos i) hdvd) (by omega)
    · -- The end of the first page.
      rw [List.getElem?_append_left (by omega), show i = limit - 1 by omega, hend] at ha
      rw [heq, ← Nat.add_zero limit, hafter, ← List.head?_eq_getElem?] at hb
      obtain rfl := Option.some.inj ha
      exact hboundary b hb
    · obtain ⟨j, rfl⟩ : ∃ j, i = limit + j := ⟨i - limit, by omega⟩
      rw [hafter] at ha
      rw [Nat.add_assoc, hafter] at hb
      rw [Nat.add_assoc] at hdvd
      exact hrest j a b ((Nat.dvd_add_right (Nat.dvd_refl limit)).mp hdvd) ha hb

/-- What is left after the first page of a list in descending order. -/
lemma filter_lt_last {l : List α} (hl : l.Pairwise fun a b => key b ≤ key a) {last : α}
    (hlast : (l.take limit).getLast? = some last) :
    (l.filter fun a => key a < key last) = (l.drop limit).filter fun a => key a < key last := by
  have hpage : (l.take limit).filter (fun a => decide (key a < key last)) = [] := by
    rw [List.filter_eq_nil_iff]
    intro a ha
    obtain ⟨init, hinit⟩ := List.getLast?_eq_some_iff.mp hlast
    rw [hinit] at ha
    have hsorted : (init ++ [last]).Pairwise fun a b => key b ≤ key a :=
      hinit ▸ hl.sublist (List.take_sublist limit l)
    rw [decide_eq_true_eq, not_lt]
    rcases List.mem_append.mp ha with ha | ha
    · exact (List.pairwise_append.mp hsorted).2.2 a ha last (List.mem_singleton_self last)
    · rw [List.mem_singleton.mp ha]
  conv_lhs => rw [← List.take_append_drop limit l]
  rw [List.filter_append, hpage, List.nil_append]

/-- Nothing is passed over after the first page exactly if it does not end within one key. -/
lemma filter_lt_eq_self_iff {rest : List α} (hrest : rest.Pairwise fun a b => key b ≤ key a)
    (last : α) : (rest.filter fun a => key a < key last) = rest ↔
      ∀ b ∈ rest.head?, key b < key last := by
  cases rest with
  | nil => simp
  | cons b rest =>
    rw [List.filter_eq_self]
    constructor
    · intro h c hc
      obtain rfl := Option.some.inj hc
      exact of_decide_eq_true (h b (List.mem_cons_self ..))
    · intro h c hc
      have hb : key b < key last := h b rfl
      refine decide_eq_true ?_
      rcases List.mem_cons.mp hc with rfl | hc
      · exact hb
      · exact lt_of_le_of_lt ((List.pairwise_cons.mp hrest).1 c hc) hb

/-- **The pages of a list in descending order** come to an end; together they are a part of the list
in its order, and the whole list exactly if no page ends within one key. -/
theorem pages_spec (hlimit : 0 < limit) {l : List α} (hl : l.Pairwise fun a b => key b ≤ key a) :
    ∃ ps, (∀ fuel, l.length < fuel → pages key limit fuel l = some ps) ∧ ps.flatten.Sublist l ∧
      (ps.flatten = l ↔ Separated key limit l) := by
  induction hn : l.length using Nat.strong_induction_on generalizing l with
  | h n ih =>
    subst hn
    cases hlast : (l.take limit).getLast? with
    | none =>
      have hnil : l = [] := by
        rcases List.take_eq_nil_iff.mp (List.getLast?_eq_none_iff.mp hlast) with hzero | hnil
        · omega
        · exact hnil
      subst hnil
      refine ⟨[], fun fuel hfuel => ?_, List.Sublist.refl _,
        iff_of_true rfl (separated_of_length_le (Nat.zero_le _))⟩
      obtain ⟨fuel, rfl⟩ : ∃ n, fuel = n + 1 := ⟨fuel - 1, by omega⟩
      rw [pages, hlast]
    | some last =>
      have hdrop : (l.drop limit).Pairwise fun a b => key b ≤ key a :=
        hl.sublist (List.drop_sublist limit l)
      set rest := (l.drop limit).filter fun a => key a < key last with hrest
      have hsublist : rest.Sublist (l.drop limit) := List.filter_sublist
      have hshorter : rest.length < l.length := by
        have hnonempty : 0 < l.length := List.length_pos_iff.mpr fun hnil => by
          rw [hnil, List.take_nil] at hlast
          cases hlast
        have hle := hsublist.length_le
        rw [List.length_drop] at hle
        omega
      obtain ⟨ps, hps, hsub, hiff⟩ := ih rest.length hshorter (hdrop.sublist hsublist) rfl
      refine ⟨l.take limit :: ps, fun fuel hfuel => ?_, ?_, ?_⟩
      · obtain ⟨fuel, rfl⟩ : ∃ n, fuel = n + 1 := ⟨fuel - 1, by omega⟩
        rw [pages, hlast]
        dsimp only
        rw [filter_lt_last hl hlast, hps fuel (by omega), Option.map_some]
      · rw [List.flatten_cons]
        conv_rhs => rw [← List.take_append_drop limit l]
        exact (List.Sublist.refl _).append (hsub.trans hsublist)
      · have hwhole : (l.take limit :: ps).flatten = l ↔
            rest = l.drop limit ∧ ps.flatten = rest := by
          rw [List.flatten_cons]
          conv_lhs =>
            rhs
            rw [← List.take_append_drop limit l]
          rw [List.append_cancel_left_eq]
          constructor
          · intro hflatten
            have heq : rest = l.drop limit :=
              hsublist.eq_of_length_le (hflatten ▸ hsub.length_le)
            exact ⟨heq, hflatten.trans heq.symm⟩
          · rintro ⟨heq, hflatten⟩
            exact hflatten.trans heq
        rw [hwhole, hiff, hrest, filter_lt_eq_self_iff hdrop]
        by_cases hlong : limit ≤ l.length
        · have hlength : (l.take limit).length = limit := List.length_take_of_le hlong
          conv_rhs => rw [← List.take_append_drop limit l]
          rw [separated_append_iff hlength hlast]
          refine and_congr_right fun hboundary => ?_
          rw [(filter_lt_eq_self_iff hdrop last).mpr hboundary]
        · have hnil : l.drop limit = [] := List.drop_eq_nil_of_le (by omega)
          refine iff_of_true ⟨?_, ?_⟩ (separated_of_length_le (by omega))
          · rw [hnil]
            intro b hb
            cases hb
          · rw [hnil, List.filter_nil]
            exact separated_of_length_le (Nat.zero_le _)

end Lib
