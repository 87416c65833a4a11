/-
Calls under way in a timed run, and the log of the run.

A call is in flight from the time it is started to the time it settles, and no longer than a limit
(`Timely`).  So whatever is in flight when a pause longer than the limit ends has been started
during the pause (`Timely.drained`).

The log of a run has its newest moment first.  A moment has the state the system leaves and the one
it reaches, and the call that was started then, if there was one.  The period the system is in
consists of the moments from the last change of the state on (`period`).
-/
import Mathlib.Algebra.Order.Group.Defs
import Mathlib.Tactic.Common
import Mathlib.Tactic.Lemma

namespace Lib

/-! ### Calls in flight -/

/-- A call that has been started and has not settled. -/
structure Flight (κ τ : Type) where
  call : κ
  startedAt : τ
deriving DecidableEq, Repr

section Timely

variable {κ τ : Type} [AddCommGroup τ] [LinearOrder τ]
  {limit pause now opened : τ} {fs : List (Flight κ τ)}

/-- The calls have been started by now, and none of them has been under way for longer than the
limit. -/
def Timely (limit now : τ) (fs : List (Flight κ τ)) : Prop :=
  ∀ f ∈ fs, f.startedAt ≤ now ∧ now ≤ f.startedAt + limit

/-- The calls allow the time to pass until `later`. -/
def MayWait (limit later : τ) (fs : List (Flight κ τ)) : Prop :=
  ∀ f ∈ fs, later ≤ f.startedAt + limit

instance (limit later : τ) (fs : List (Flight κ τ)) : Decidable (MayWait limit later fs) :=
  inferInstanceAs (Decidable (∀ f ∈ fs, later ≤ f.startedAt + limit))

lemma timely_nil : Timely limit now ([] : List (Flight κ τ)) := by simp [Timely]

lemma Timely.filter (h : Timely limit now fs) (p : Flight κ τ → Bool) :
    Timely limit now (fs.filter p) := fun f hf => h f (List.mem_filter.mp hf).1

lemma Timely.advance {later : τ} (h : Timely limit now fs) (hle : now ≤ later)
    (hmay : MayWait limit later fs) : Timely limit later fs :=
  fun f hf => ⟨(h f hf).1.trans hle, hmay f hf⟩

variable [IsOrderedAddMonoid τ]

lemma Timely.start (h : Timely limit now fs) (hlimit : 0 ≤ limit) (k : κ) :
    Timely limit now (⟨k, now⟩ :: fs) := by
  rintro f hf
  rcases List.mem_cons.mp hf with rfl | hf
  · exact ⟨le_rfl, le_add_of_nonneg_right hlimit⟩
  · exact h f hf

/-- **A pause longer than the limit** outlasts every call started before it. -/
theorem Timely.drained (h : Timely limit now fs) (hbefore : ∀ f ∈ fs, f.startedAt ≤ opened)
    (hlimit : limit < pause) (hpause : opened + pause ≤ now) : fs = [] := by
  refine List.eq_nil_iff_forall_not_mem.mpr fun f hf => ?_
  have hlate : now < now :=
    calc now ≤ f.startedAt + limit := (h f hf).2
      _ ≤ opened + limit := add_le_add_left (hbefore f hf) limit
      _ < opened + pause := add_lt_add_right hlimit opened
      _ ≤ now := hpause
  exact lt_irrefl _ hlate

end Timely

/-! ### Periods -/

/-- A moment of a run. -/
structure Moment (κ τ S : Type) where
  time : τ
  source : S
  target : S
  started : Option κ
deriving DecidableEq, Repr

variable {κ τ S : Type} [DecidableEq S] {m : Moment κ τ S} {log : List (Moment κ τ S)}

/-- The moments of the period a log ends in: those from the last change of the state on. -/
def period : List (Moment κ τ S) → List (Moment κ τ S)
  | [] => []
  | m :: log => if m.source = m.target then m :: period log else [m]

lemma period_cons_of_eq (h : m.source = m.target) : period (m :: log) = m :: period log := by
  simp [period, h]

lemma period_cons_of_ne (h : m.source ≠ m.target) : period (m :: log) = [m] := by
  simp [period, h]

/-- The calls that were started at the moments of a list. -/
def startedAmong (log : List (Moment κ τ S)) : List κ := log.filterMap (·.started)

end Lib
