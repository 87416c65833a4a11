/-
Keys that can be used once within a window of time.

A store remembers keys, each up to some time.  `use` first forgets what has expired; it then
refuses a key that is still remembered, and records any other one.  All that matters about a store
is which keys are alive from now on, and `alive_use` says what a use makes of that.
-/
import Mathlib.Data.List.Basic
import Mathlib.Order.Lattice
import Mathlib.Tactic.Common
import Mathlib.Tactic.Lemma

namespace Lib

namespace Expiring

variable {κ τ : Type} [LinearOrder τ]

/-- The store without the entries that have expired. -/
def purge (now : τ) (store : List (κ × τ)) : List (κ × τ) := store.filter fun p => ¬ p.2 < now

/-- The store remembers the key at the time `t`. -/
def Alive (store : List (κ × τ)) (t : τ) (key : κ) : Prop := ∃ p ∈ store, p.1 = key ∧ t ≤ p.2

variable {store : List (κ × τ)} {now t t' expiry : τ} {key k : κ}

lemma Alive.of_le (h : Alive store t key) (hle : t' ≤ t) : Alive store t' key := by
  obtain ⟨p, hp, hkey, ht⟩ := h
  exact ⟨p, hp, hkey, le_trans hle ht⟩

lemma alive_append {store' : List (κ × τ)} :
    Alive (store ++ store') t key ↔ Alive store t key ∨ Alive store' t key := by
  simp only [Alive, List.mem_append, or_and_right, exists_or]

lemma alive_singleton : Alive [(k, expiry)] t key ↔ k = key ∧ t ≤ expiry := by simp [Alive]

/-- What has expired was not alive any more. -/
lemma alive_purge (hle : now ≤ t) : Alive (purge now store) t key ↔ Alive store t key := by
  constructor
  · rintro ⟨p, hp, hkey, ht⟩
    exact ⟨p, (List.mem_filter.mp hp).1, hkey, ht⟩
  · rintro ⟨p, hp, hkey, ht⟩
    have hlive : ¬ p.2 < now := not_lt.mpr (le_trans hle ht)
    exact ⟨p, List.mem_filter.mpr ⟨hp, by simpa using hlive⟩, hkey, ht⟩

variable [DecidableEq κ]

/-- Whether the key can be used, and the store afterwards. -/
def use (now expiry : τ) (key : κ) (store : List (κ × τ)) : Bool × List (κ × τ) :=
  let live := purge now store
  if live.any fun p => p.1 = key then (false, live) else (true, live ++ [(key, expiry)])

/-- What is left after the expired entries have been forgotten is alive. -/
lemma any_purge (store : List (κ × τ)) (now : τ) (key : κ) :
    ((purge now store).any fun p => p.1 = key) = true ↔ Alive store now key := by
  rw [← alive_purge le_rfl]
  simp only [List.any_eq_true, decide_eq_true_eq]
  constructor
  · rintro ⟨p, hp, hkey⟩
    have hlive : ¬ p.2 < now := by simpa using (List.mem_filter.mp hp).2
    exact ⟨p, hp, hkey, not_lt.mp hlive⟩
  · rintro ⟨p, hp, hkey, -⟩
    exact ⟨p, hp, hkey⟩

/-- A key can be used if it is not alive. -/
lemma use_fst : (use now expiry key store).1 = true ↔ ¬ Alive store now key := by
  rw [← any_purge, use]
  by_cases h : ((purge now store).any fun p => p.1 = key) = true <;> simp [h]

/-- **What a use makes of a store**: from now on the same keys are alive, and the key that has been
used, up to its expiry. -/
theorem alive_use (hle : now ≤ t) :
    Alive (use now expiry key store).2 t k ↔
      Alive store t k ∨ (¬ Alive store now key ∧ key = k ∧ t ≤ expiry) := by
  have hused := any_purge store now key
  rw [use]
  by_cases h : ((purge now store).any fun p => p.1 = key) = true
  · have halive : Alive store now key := hused.mp h
    simp [h, alive_purge hle, halive]
  · have hfree : ¬ Alive store now key := fun halive => h (hused.mpr halive)
    simp [h, alive_append, alive_purge hle, alive_singleton, hfree]

end Expiring

end Lib
