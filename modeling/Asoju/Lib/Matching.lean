/-
One-to-one correspondences.

A correspondence between the elements that satisfy `A` and those that satisfy `B` is given
as a list of pairs: every such element is in exactly one of them, and the two elements of a
pair are related by `R`.  As a list it can be carried along while elements are added on both
sides; `Matching.exists_equiv` turns it into an equivalence of types.
-/
import Mathlib.Data.List.Nodup
import Mathlib.Logic.Equiv.Basic
import Mathlib.Tactic.Common
import Mathlib.Tactic.Lemma

namespace Lib

variable {α β : Type}

/-- `pairs` matches the elements of `A` with those of `B`, one to one, along `R`. -/
structure Matching (A : α → Prop) (B : β → Prop) (R : α → β → Prop) (pairs : List (α × β)) :
    Prop where
  nodup_left : (pairs.map Prod.fst).Nodup
  nodup_right : (pairs.map Prod.snd).Nodup
  mem_left : ∀ a, a ∈ pairs.map Prod.fst ↔ A a
  mem_right : ∀ b, b ∈ pairs.map Prod.snd ↔ B b
  related : ∀ p ∈ pairs, R p.1 p.2

namespace Matching

variable {A A' : α → Prop} {B B' : β → Prop} {R R' : α → β → Prop} {pairs : List (α × β)}

/-- Where there is nothing to match. -/
lemma nil (hA : ∀ a, ¬ A a) (hB : ∀ b, ¬ B b) : Matching A B R [] where
  nodup_left := List.nodup_nil
  nodup_right := List.nodup_nil
  mem_left a := iff_of_false List.not_mem_nil (hA a)
  mem_right b := iff_of_false List.not_mem_nil (hB b)
  related _ hp := absurd hp List.not_mem_nil

/-- The same elements, related in another way. -/
lemma congr (h : Matching A B R pairs) (hA : ∀ a, A' a ↔ A a) (hB : ∀ b, B' b ↔ B b)
    (hR : ∀ a b, A a → B b → R a b → R' a b) : Matching A' B' R' pairs where
  nodup_left := h.nodup_left
  nodup_right := h.nodup_right
  mem_left a := (h.mem_left a).trans (hA a).symm
  mem_right b := (h.mem_right b).trans (hB b).symm
  related p hp := by
    refine hR p.1 p.2 ((h.mem_left _).mp ?_) ((h.mem_right _).mp ?_) (h.related p hp)
    · exact List.mem_map_of_mem hp
    · exact List.mem_map_of_mem hp

/-- One more element on each side. -/
lemma cons (h : Matching A B R pairs) {a : α} {b : β} (ha : ¬ A a) (hb : ¬ B b)
    (hab : R a b) :
    Matching (fun x => x = a ∨ A x) (fun y => y = b ∨ B y) R ((a, b) :: pairs) where
  nodup_left := List.nodup_cons.mpr ⟨fun hmem => ha ((h.mem_left a).mp hmem), h.nodup_left⟩
  nodup_right := List.nodup_cons.mpr ⟨fun hmem => hb ((h.mem_right b).mp hmem), h.nodup_right⟩
  mem_left x := by rw [List.map_cons, List.mem_cons, h.mem_left]
  mem_right y := by rw [List.map_cons, List.mem_cons, h.mem_right]
  related p hp := by
    rcases List.mem_cons.mp hp with rfl | hp
    · exact hab
    · exact h.related p hp

/-- Two pairs with the same first element are the same. -/
lemma eq_of_fst_eq (h : Matching A B R pairs) {p q : α × β} (hp : p ∈ pairs) (hq : q ∈ pairs)
    (heq : p.1 = q.1) : p = q := List.inj_on_of_nodup_map h.nodup_left hp hq heq

/-- Two pairs with the same second element are the same. -/
lemma eq_of_snd_eq (h : Matching A B R pairs) {p q : α × β} (hp : p ∈ pairs) (hq : q ∈ pairs)
    (heq : p.2 = q.2) : p = q := List.inj_on_of_nodup_map h.nodup_right hp hq heq

/-- **A matching is an equivalence** between the elements of the two sides. -/
theorem exists_equiv (h : Matching A B R pairs) :
    ∃ e : {a // A a} ≃ {b // B b}, ∀ a, R a.1 (e a).1 := by
  have hpair : ∀ a : {a // A a}, ∃ b : {b // B b}, (a.1, b.1) ∈ pairs := by
    rintro ⟨a, ha⟩
    obtain ⟨⟨a', b⟩, hmem, rfl⟩ := List.mem_map.mp ((h.mem_left a).mpr ha)
    exact ⟨⟨b, (h.mem_right b).mp (List.mem_map_of_mem hmem)⟩, hmem⟩
  choose f hf using hpair
  have hbij : Function.Bijective f := by
    constructor
    · intro a a' heq
      have hsame := h.eq_of_snd_eq (hf a) (hf a') (congrArg Subtype.val heq)
      exact Subtype.ext (congrArg Prod.fst hsame)
    · rintro ⟨b, hb⟩
      obtain ⟨⟨a, b'⟩, hmem, rfl⟩ := List.mem_map.mp ((h.mem_right b).mpr hb)
      refine ⟨⟨a, (h.mem_left a).mp (List.mem_map_of_mem hmem)⟩, Subtype.ext ?_⟩
      exact congrArg Prod.snd (h.eq_of_fst_eq (hf _) hmem rfl)
  exact ⟨Equiv.ofBijective f hbij, fun a => h.related _ (hf a)⟩

end Matching

end Lib
