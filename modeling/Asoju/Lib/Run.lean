/-
Runs of a deterministic labelled system.

A system is a step function `σ → ι → σ`: in the state `s` the label `o` leads to
`step s o`.  Nondeterminism, of a scheduler or of callers, is in the choice of the
labels, so that a property of every list of labels is a property of every run.

`AllStates Q` says that every state of a run satisfies `Q`, the first one included, and
`AllSteps P` that every step of it is taken in a state and under a label that satisfy
`P`.  The rules below derive the first from the second, and, where each single step
decides, show the two to be equivalent.  `Once Q` says that some state of a run satisfies `Q`.
-/
import Mathlib.Data.List.Basic
import Mathlib.Data.List.Induction
import Mathlib.Tactic.Common
import Mathlib.Tactic.Lemma

namespace Lib

variable {σ ι : Type} (step : σ → ι → σ)

/-- The state a run ends in. -/
def runFrom (s : σ) (os : List ι) : σ := os.foldl step s

/-- Every state of the run satisfies `Q`. -/
def AllStates (Q : σ → Prop) : σ → List ι → Prop
  | s, [] => Q s
  | s, o :: os => Q s ∧ AllStates Q (step s o) os

/-- Every step of the run is taken in a state and under a label that satisfy `P`. -/
def AllSteps (P : σ → ι → Prop) : σ → List ι → Prop
  | _, [] => True
  | s, o :: os => P s o ∧ AllSteps P (step s o) os

variable {step}

instance allStepsDecidable {P : σ → ι → Prop} [∀ s o, Decidable (P s o)] :
    ∀ s os, Decidable (AllSteps step P s os)
  | _, [] => inferInstanceAs (Decidable True)
  | s, o :: os =>
      have := allStepsDecidable (P := P) (step s o) os
      inferInstanceAs (Decidable (P s o ∧ AllSteps step P (step s o) os))

@[simp] lemma runFrom_nil (s : σ) : runFrom step s [] = s := rfl

@[simp] lemma runFrom_cons (s : σ) (o : ι) (os : List ι) :
    runFrom step s (o :: os) = runFrom step (step s o) os := rfl

lemma runFrom_append (s : σ) (os₁ os₂ : List ι) :
    runFrom step s (os₁ ++ os₂) = runFrom step (runFrom step s os₁) os₂ :=
  List.foldl_append

lemma AllSteps.append_iff {P : σ → ι → Prop} {s : σ} {os₁ os₂ : List ι} :
    AllSteps step P s (os₁ ++ os₂) ↔
      AllSteps step P s os₁ ∧ AllSteps step P (runFrom step s os₁) os₂ := by
  induction os₁ generalizing s with
  | nil => simp [AllSteps]
  | cons o os₁ ih => simp [AllSteps, ih, and_assoc]

/-- A condition on the labels of the run alone. -/
lemma AllSteps.of_forall_mem {P : σ → ι → Prop} {os : List ι} (h : ∀ s, ∀ o ∈ os, P s o)
    (s : σ) : AllSteps step P s os := by
  induction os generalizing s with
  | nil => trivial
  | cons o os ih =>
    refine ⟨h s o (List.mem_cons_self ..), ih (fun s o' ho' => ?_) _⟩
    exact h s o' (List.mem_cons_of_mem _ ho')

lemma AllStates.first {Q : σ → Prop} {s : σ} {os : List ι} (h : AllStates step Q s os) :
    Q s := by
  cases os with
  | nil => exact h
  | cons o os => exact h.1

lemma AllStates.last {Q : σ → Prop} {s : σ} {os : List ι} (h : AllStates step Q s os) :
    Q (runFrom step s os) := by
  induction os generalizing s with
  | nil => exact h
  | cons o os ih => exact ih h.2

lemma AllStates.mono {Q Q' : σ → Prop} (hq : ∀ s, Q s → Q' s) {s : σ} {os : List ι}
    (h : AllStates step Q s os) : AllStates step Q' s os := by
  induction os generalizing s with
  | nil => exact hq s h
  | cons o os ih => exact ⟨hq s h.1, ih h.2⟩

/-- The states of a run are the ends of its initial segments. -/
lemma allStates_iff_prefix {Q : σ → Prop} {s : σ} {os : List ι} :
    AllStates step Q s os ↔ ∀ pre, pre <+: os → Q (runFrom step s pre) := by
  induction os generalizing s with
  | nil => simp [AllStates]
  | cons o os ih =>
    constructor
    · rintro ⟨hs, hos⟩ pre hpre
      rcases List.prefix_cons_iff.mp hpre with rfl | ⟨pre', rfl, hpre'⟩
      · exact hs
      · exact ih.mp hos pre' hpre'
    · intro h
      refine ⟨h [] (List.nil_prefix), ih.mpr fun pre hpre => ?_⟩
      exact h (o :: pre) (List.prefix_cons_inj o |>.mpr hpre)

/-- **The invariant rule.**  What holds at the start and is preserved by each step that
meets `P` holds in every state of a run all of whose steps meet `P`. -/
theorem AllSteps.invariant {P : σ → ι → Prop} {I : σ → Prop}
    (hstep : ∀ s o, I s → P s o → I (step s o)) {s : σ} {os : List ι}
    (hs : I s) (h : AllSteps step P s os) : AllStates step I s os := by
  induction os generalizing s with
  | nil => exact hs
  | cons o os ih => exact ⟨hs, ih (hstep s o hs h.1) h.2⟩

/-- The invariant rule for what the steps do: a step that meets `P` in a state of the invariant does
as `P'` says. -/
theorem AllSteps.of_invariant {P P' : σ → ι → Prop} {I : σ → Prop}
    (hstep : ∀ s o, I s → P s o → I (step s o)) (h : ∀ s o, I s → P s o → P' s o) {s : σ}
    {os : List ι} (hs : I s) (hos : AllSteps step P s os) : AllSteps step P' s os := by
  induction os generalizing s with
  | nil => trivial
  | cons o os ih => exact ⟨h s o hs hos.1, ih (hstep s o hs hos.1) hos.2⟩

/-- The invariant rule for steps that meet no condition. -/
theorem invariant {I : σ → Prop} (hstep : ∀ s o, I s → I (step s o)) {s : σ} (hs : I s)
    (os : List ι) : AllStates step I s os :=
  AllSteps.invariant (P := fun _ _ => True) (fun s o h _ => hstep s o h) hs
    (AllSteps.of_forall_mem (fun _ _ _ => trivial) s)

/-- **The exact rule.**  An invariant `I` is preserved by the steps that meet `P` and implies
`Q`, while a step that does not meet `P` leaves `Q` behind.  Then a run stays in `Q` exactly
when all of its steps meet `P`. -/
theorem allStates_iff_allSteps_of_invariant {P : σ → ι → Prop} {I Q : σ → Prop}
    (hI : ∀ s, I s → Q s) (hstep : ∀ s o, I s → P s o → I (step s o))
    (hback : ∀ s o, I s → Q (step s o) → P s o) {s : σ} (hs : I s) (os : List ι) :
    AllStates step Q s os ↔ AllSteps step P s os := by
  refine ⟨fun h => ?_, fun h => (h.invariant hstep hs).mono hI⟩
  induction os generalizing s with
  | nil => trivial
  | cons o os ih =>
    have hp : P s o := hback s o hs h.2.first
    exact ⟨hp, ih (hstep s o hs hp) h.2⟩

/-- **The rule of the last state.**  A step that does not meet `P` breaks the invariant `I` for
good.  Then a run whose last state is not broken has met `P` at every step. -/
theorem AllSteps.of_not_last {P : σ → ι → Prop} {I B : σ → Prop}
    (hstep : ∀ s o, I s → P s o → I (step s o)) (hbreak : ∀ s o, I s → ¬ P s o → B (step s o))
    (hstable : ∀ s o, B s → B (step s o)) {s : σ} (hs : I s) {os : List ι}
    (h : ¬ B (runFrom step s os)) : AllSteps step P s os := by
  induction os generalizing s with
  | nil => trivial
  | cons o os ih =>
    have hp : P s o := by
      by_contra hp
      exact h (Lib.invariant hstable (hbreak s o hs hp) os).last
    exact ⟨hp, ih (hstep s o hs hp) h⟩

/-- The exact rule for a property that is itself the invariant: from each state satisfying
`Q` a step leads to `Q` exactly when it meets `P`. -/
theorem allStates_iff_allSteps {P : σ → ι → Prop} {Q : σ → Prop}
    (hstep : ∀ s o, Q s → (Q (step s o) ↔ P s o)) {s : σ} (hs : Q s) (os : List ι) :
    AllStates step Q s os ↔ AllSteps step P s os :=
  allStates_iff_allSteps_of_invariant (I := Q) (fun _ h => h)
    (fun s o hq => (hstep s o hq).mpr) (fun s o hq => (hstep s o hq).mp) hs os

/-- Two conditions on steps that agree wherever an invariant holds. -/
theorem allSteps_congr_of_invariant {P P' : σ → ι → Prop} {I : σ → Prop}
    (hI : ∀ s o, I s → I (step s o)) (h : ∀ s o, I s → (P s o ↔ P' s o)) {s : σ} (hs : I s)
    (os : List ι) : AllSteps step P s os ↔ AllSteps step P' s os := by
  induction os generalizing s with
  | nil => exact Iff.rfl
  | cons o os ih => exact and_congr (h s o hs) (ih (hI s o hs))

/-- Two conditions on steps that agree wherever an invariant holds, which the steps that meet one of
them preserve. -/
theorem allSteps_congr {P P' : σ → ι → Prop} {I : σ → Prop}
    (hI : ∀ s o, I s → P s o → I (step s o)) (h : ∀ s o, I s → (P s o ↔ P' s o)) {s : σ} (hs : I s)
    (os : List ι) : AllSteps step P s os ↔ AllSteps step P' s os := by
  induction os generalizing s with
  | nil => exact Iff.rfl
  | cons o os ih =>
    constructor
    · rintro ⟨ho, hos⟩
      exact ⟨(h s o hs).mp ho, (ih (hI s o hs ho)).mp hos⟩
    · rintro ⟨ho, hos⟩
      have hp : P s o := (h s o hs).mpr ho
      exact ⟨hp, (ih (hI s o hs hp)).mpr hos⟩

/-- The exact rule for a property of the states together with one of the steps. -/
theorem allStates_and_allSteps_iff {P R : σ → ι → Prop} {I Q : σ → Prop}
    (hI : ∀ s o, I s → I (step s o)) (h : ∀ s o, I s → Q s → (Q (step s o) ∧ R s o ↔ P s o)) {s : σ}
    (hs : I s) (hq : Q s) (os : List ι) :
    AllStates step Q s os ∧ AllSteps step R s os ↔ AllSteps step P s os := by
  induction os generalizing s with
  | nil => exact iff_of_true ⟨hq, trivial⟩ trivial
  | cons o os ih =>
    constructor
    · rintro ⟨⟨-, hstates⟩, hr, hsteps⟩
      have hq' : Q (step s o) := hstates.first
      exact ⟨(h s o hs hq).mp ⟨hq', hr⟩, (ih (hI s o hs) hq').mp ⟨hstates, hsteps⟩⟩
    · rintro ⟨hp, hsteps⟩
      obtain ⟨hq', hr⟩ := (h s o hs hq).mpr hp
      obtain ⟨hstates, hrest⟩ := (ih (hI s o hs) hq').mpr hsteps
      exact ⟨⟨hq, hstates⟩, hr, hrest⟩

/-- The exact rule for a property of the states together with one of the steps, and an invariant
that the steps that meet `P` preserve. -/
theorem allStates_and_allSteps_iff_of_invariant {P R : σ → ι → Prop} {I Q : σ → Prop}
    (hI : ∀ s, I s → Q s) (hstep : ∀ s o, I s → P s o → I (step s o) ∧ R s o)
    (hback : ∀ s o, I s → Q (step s o) → R s o → P s o) {s : σ} (hs : I s) (os : List ι) :
    AllStates step Q s os ∧ AllSteps step R s os ↔ AllSteps step P s os := by
  induction os generalizing s with
  | nil => exact iff_of_true ⟨hI s hs, trivial⟩ trivial
  | cons o os ih =>
    constructor
    · rintro ⟨⟨-, hstates⟩, hr, hsteps⟩
      have hp : P s o := hback s o hs hstates.first hr
      exact ⟨hp, (ih (hstep s o hs hp).1).mp ⟨hstates, hsteps⟩⟩
    · rintro ⟨hp, hsteps⟩
      obtain ⟨hs', hr⟩ := hstep s o hs hp
      obtain ⟨hstates, hrest⟩ := (ih hs').mpr hsteps
      exact ⟨⟨hI s hs, hstates⟩, hr, hrest⟩

/-! ### The past of a run -/

variable (step) in
/-- Some state of the run satisfies `Q`. -/
def Once (Q : σ → Prop) (s : σ) (os : List ι) : Prop := ∃ pre, pre <+: os ∧ Q (runFrom step s pre)

lemma once_nil {Q : σ → Prop} {s : σ} : Once step Q s [] ↔ Q s := by
  constructor
  · rintro ⟨pre, hpre, hq⟩
    rw [List.prefix_nil.mp hpre] at hq
    exact hq
  · intro hq
    exact ⟨[], List.prefix_refl [], hq⟩

lemma once_concat {Q : σ → Prop} {s : σ} {os : List ι} {o : ι} :
    Once step Q s (os ++ [o]) ↔ Once step Q s os ∨ Q (step (runFrom step s os) o) := by
  constructor
  · rintro ⟨pre, hpre, hq⟩
    rcases List.prefix_concat_iff.mp hpre with rfl | hpre
    · rw [runFrom_append] at hq
      exact Or.inr hq
    · exact Or.inl ⟨pre, hpre, hq⟩
  · rintro (⟨pre, hpre, hq⟩ | hq)
    · exact ⟨pre, hpre.trans (List.prefix_append os [o]), hq⟩
    · refine ⟨os ++ [o], List.prefix_refl _, ?_⟩
      rw [runFrom_append]
      exact hq

/-- **The rule of records.**  The states that satisfy `R` are those that a state satisfying `Q` has
led to, or the start has, if a step makes `R` true exactly where it leads to `Q`, and nothing makes
it false. -/
theorem record_iff_start_or_once {I R Q : σ → Prop} (hI : ∀ s o, I s → I (step s o))
    (hR : ∀ s o, I s → (R (step s o) ↔ R s ∨ Q (step s o))) {s : σ} (hs : I s)
    (hinit : Q s → R s) (os : List ι) : R (runFrom step s os) ↔ R s ∨ Once step Q s os := by
  induction os using List.reverseRecOn with
  | nil => rw [runFrom_nil, once_nil, or_iff_left_of_imp hinit]
  | append_singleton os o ih =>
    have hlast : I (runFrom step s os) := (invariant hI hs os).last
    rw [runFrom_append, once_concat, ← or_assoc, ← ih]
    exact hR _ o hlast

/-- The rule of records for a start that is one of the states with `Q` if it has `R`. -/
theorem record_iff_once {I R Q : σ → Prop} (hI : ∀ s o, I s → I (step s o))
    (hR : ∀ s o, I s → (R (step s o) ↔ R s ∨ Q (step s o))) {s : σ} (hs : I s)
    (hinit : R s ↔ Q s) (os : List ι) : R (runFrom step s os) ↔ Once step Q s os := by
  rw [record_iff_start_or_once hI hR hs hinit.mpr os, hinit]
  exact or_iff_right_of_imp fun hq => ⟨[], List.nil_prefix, hq⟩

variable (step) in
/-- Some step of the run is taken in a state and under a label that satisfy `P`. -/
def Did (P : σ → ι → Prop) (s : σ) (os : List ι) : Prop :=
  ∃ pre o, pre ++ [o] <+: os ∧ P (runFrom step s pre) o

lemma Did.concat {P : σ → ι → Prop} {s : σ} {os : List ι} (h : Did step P s os) (o : ι) :
    Did step P s (os ++ [o]) := by
  obtain ⟨pre, o', hpre, hp⟩ := h
  exact ⟨pre, o', hpre.trans (List.prefix_append os [o]), hp⟩

lemma did_last {P : σ → ι → Prop} {s : σ} {os : List ι} {o : ι} (h : P (runFrom step s os) o) :
    Did step P s (os ++ [o]) :=
  ⟨os, o, List.prefix_refl _, h⟩

/-- **The rule of provenance.**  If only a step that meets `P` makes `R` true, then a run that ends
with `R` and does not start with it has taken such a step. -/
theorem did_of_record {I R : σ → Prop} {P : σ → ι → Prop} (hI : ∀ s o, I s → I (step s o))
    (hR : ∀ s o, I s → R (step s o) → R s ∨ P s o) {s : σ} (hs : I s) (hinit : ¬ R s)
    {os : List ι} (h : R (runFrom step s os)) : Did step P s os := by
  induction os using List.reverseRecOn with
  | nil => exact absurd h hinit
  | append_singleton os o ih =>
    have hlast : I (runFrom step s os) := (invariant hI hs os).last
    rw [runFrom_append] at h
    rcases hR _ o hlast h with hbefore | hnow
    · exact (ih hbefore).concat o
    · exact did_last hnow

end Lib
