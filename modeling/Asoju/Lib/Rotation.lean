/-
Tokens that are exchanged for a successor, and the revocation of all the tokens of an owner.

A token is issued to an owner and is live until it is revoked.  An exchange revokes the token it
is given and issues a successor some time later; in between the token is pending.  `Vault.Step`
says what may happen at a time: a revoked token does not come back, only a live token is taken
for an exchange, which revokes it, and only a pending one gets a successor, which is new and has
the same owner.

Two things follow for every sequence of such steps.  A token is taken at most once
(`Vault.Sound.single`), and once nothing of an owner is live or pending, nothing that descends
from what he had is ever live again (`Vault.Extinct.step`).
-/
import Mathlib.Data.Set.Basic
import Mathlib.Logic.Relation
import Mathlib.Tactic.Lemma

namespace Lib

/-- What is known of a set of tokens `κ` that are issued to owners `υ`. -/
structure Vault (κ υ : Type) where
  /-- Who the token has been issued to, if it has been issued. -/
  owner : κ → Option υ
  Live : κ → Prop
  /-- The token has been taken for an exchange, which has not issued the successor. -/
  Pending : κ → Prop
  /-- How many exchanges have taken the token. -/
  taken : κ → ℕ
  /-- The second token has been issued in exchange for the first. -/
  Child : κ → κ → Prop

namespace Vault

variable {κ υ : Type} {a b : Vault κ υ} {S : Set κ} {u : υ} {j k : κ}

/-- What may happen to a vault. -/
structure Step (a b : Vault κ υ) : Prop where
  owner : ∀ {j u}, a.owner j = some u → b.owner j = some u
  live : ∀ {j}, b.Live j → a.Live j ∨ (a.owner j = none ∧ b.owner j ≠ none)
  pending : ∀ {j}, b.Pending j → a.Pending j ∨ a.Live j
  taken : ∀ j, b.taken j ≤ a.taken j ∨ (b.taken j = a.taken j + 1 ∧ a.Live j ∧ ¬ b.Live j)
  child : ∀ {j k}, b.Child j k →
    a.Child j k ∨ (a.Pending j ∧ a.owner k = none ∧ b.owner k = a.owner j)

/-- What holds of a vault at every moment. -/
structure Sound (a : Vault κ υ) : Prop where
  live : ∀ {j}, a.Live j → a.owner j ≠ none
  pending : ∀ {j}, a.Pending j → a.owner j ≠ none
  unissued : ∀ {j}, a.owner j = none → a.taken j = 0
  single : ∀ j, a.taken j ≤ 1
  unused : ∀ {j}, a.Live j → a.taken j = 0
  child : ∀ {j k}, a.Child j k → ∃ u, a.owner j = some u ∧ a.owner k = some u

lemma Step.owner_ne_none (h : Step a b) (hj : a.owner j ≠ none) : b.owner j ≠ none := by
  obtain ⟨u, hu⟩ := Option.ne_none_iff_exists'.mp hj
  rw [h.owner hu]
  exact Option.some_ne_none u

/-- **The step rule.** -/
theorem Sound.step (ha : a.Sound) (h : Step a b) : b.Sound where
  live hj := by
    rcases h.live hj with hj | ⟨-, hissued⟩
    · exact h.owner_ne_none (ha.live hj)
    · exact hissued
  pending hj := by
    rcases h.pending hj with hj | hj
    · exact h.owner_ne_none (ha.pending hj)
    · exact h.owner_ne_none (ha.live hj)
  unissued {j} hj := by
    have hnone : a.owner j = none := by
      by_contra hissued
      exact h.owner_ne_none hissued hj
    rcases h.taken j with hle | ⟨-, hlive, -⟩
    · rw [ha.unissued hnone] at hle
      omega
    · exact absurd hnone (ha.live hlive)
  single j := by
    rcases h.taken j with hle | ⟨heq, hlive, -⟩
    · exact hle.trans (ha.single j)
    · rw [heq, ha.unused hlive]
  unused {j} hj := by
    have hzero : a.taken j = 0 := by
      rcases h.live hj with hlive | ⟨hnone, -⟩
      · exact ha.unused hlive
      · exact ha.unissued hnone
    rcases h.taken j with hle | ⟨-, -, hdead⟩
    · omega
    · exact absurd hj hdead
  child {j k} hjk := by
    rcases h.child hjk with hjk | ⟨hpending, -, hk⟩
    · obtain ⟨u, hj, hk⟩ := ha.child hjk
      exact ⟨u, h.owner hj, h.owner hk⟩
    · obtain ⟨u, hj⟩ := Option.ne_none_iff_exists'.mp (ha.pending hpending)
      exact ⟨u, h.owner hj, hk.trans hj⟩

/-! ### Revocation -/

/-- No token of the owner is live or about to get a successor. -/
def Revoked (a : Vault κ υ) (u : υ) : Prop := ∀ j, a.owner j = some u → ¬ a.Live j ∧ ¬ a.Pending j

/-- The token descends from one of `S`. -/
def Descends (a : Vault κ υ) (S : Set κ) (k : κ) : Prop :=
  ∃ j ∈ S, Relation.ReflTransGen a.Child j k

/-- Whatever descends from `S` is a token of the owner that is neither live nor about to get a
successor. -/
def Extinct (a : Vault κ υ) (S : Set κ) (u : υ) : Prop :=
  ∀ k, a.Descends S k → a.owner k = some u ∧ ¬ a.Live k ∧ ¬ a.Pending k

lemma Sound.owner_of_descends (ha : a.Sound) (hS : ∀ j ∈ S, a.owner j = some u)
    (hk : a.Descends S k) : a.owner k = some u := by
  obtain ⟨j, hj, hjk⟩ := hk
  induction hjk with
  | refl => exact hS j hj
  | tail _ hchild ih =>
    obtain ⟨v, hm, hk⟩ := ha.child hchild
    rw [hk, ← hm]
    exact ih

/-- The tokens of an owner are extinct once all of them are revoked. -/
theorem Revoked.extinct (h : a.Revoked u) (ha : a.Sound) (hS : ∀ j ∈ S, a.owner j = some u) :
    a.Extinct S u :=
  fun k hk => ⟨ha.owner_of_descends hS hk, h k (ha.owner_of_descends hS hk)⟩

/-- A step adds no descendants to what is extinct. -/
lemma Extinct.descends (h : a.Extinct S u) (hstep : Step a b) (hk : b.Descends S k) :
    a.Descends S k := by
  obtain ⟨j, hj, hjk⟩ := hk
  induction hjk with
  | refl => exact ⟨j, hj, .refl⟩
  | tail _ hchild ih =>
    obtain ⟨i, hi, him⟩ := ih
    rcases hstep.child hchild with hold | ⟨hpending, -⟩
    · exact ⟨i, hi, him.tail hold⟩
    · exact absurd hpending (h _ ⟨i, hi, him⟩).2.2

/-- **What is extinct stays extinct.** -/
theorem Extinct.step (h : a.Extinct S u) (hstep : Step a b) : b.Extinct S u := by
  intro k hk
  obtain ⟨howner, hlive, hpending⟩ := h k (h.descends hstep hk)
  refine ⟨hstep.owner howner, fun hk => ?_, fun hk => ?_⟩
  · rcases hstep.live hk with hk | ⟨hnone, -⟩
    · exact hlive hk
    · rw [howner] at hnone
      cases hnone
  · rcases hstep.pending hk with hk | hk
    · exact hpending hk
    · exact hlive hk

end Vault

end Lib
