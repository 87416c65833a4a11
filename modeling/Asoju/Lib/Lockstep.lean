/-
Two executions side by side.

`Together R Q m m'` says of two programs that, from states that `R` relates, they end alike: in
states that `R` relates, both by a failure, or both with results that `Q` relates.  The rules follow
the structure of the programs, so that two executions of one program are compared action by action,
and `Together.bind_left` is the rule for an action that only the first of them performs.

`AllSteps.related` carries a relation of two systems along their runs under the same labels.
`Lacks` is a relation of tables for that: one of them does not get some of the rows that the other
gets.
-/
import Asoju.Lib.Prog
import Asoju.Lib.Run
import Asoju.Lib.Table

namespace Lib

variable {σ ℓ ε α α' β β' : Type}

/-- The two executions end alike: both by a failure, or with results that `Q` relates. -/
inductive Alike (Q : α → β → Prop) : Except ε α → Except ε β → Prop
  | ok {a : α} {b : β} (h : Q a b) : Alike Q (.ok a) (.ok b)
  | error (e e' : ε) : Alike Q (.error e) (.error e')

/-- From related states the programs end alike, in related states. -/
def Together (R : σ → σ → Prop) (Q : α → β → Prop) (m : Prog σ ℓ ε α) (m' : Prog σ ℓ ε β) : Prop :=
  ∀ s s', R s s' → Alike Q (m.run s).1 (m'.run s').1 ∧ R (m.exec s) (m'.exec s')

namespace Together

variable {R : σ → σ → Prop} {Q : α → β → Prop} {P : α' → β' → Prop}

lemma exec {m : Prog σ ℓ ε α} {m' : Prog σ ℓ ε β} (h : Together R Q m m') {s s' : σ} (hs : R s s') :
    R (m.exec s) (m'.exec s') := (h s s' hs).2

/-- Executions whose outcomes are known. -/
lemma of_run {m : Prog σ ℓ ε α} {m' : Prog σ ℓ ε β}
    (h : ∀ s s', R s s' → ∃ x y t t', m.run s = (x, t) ∧ m'.run s' = (y, t') ∧ Alike Q x y ∧
      R t t') :
    Together R Q m m' := by
  intro s s' hs
  obtain ⟨x, y, t, t', hrun, hrun', halike, ht⟩ := h s s' hs
  rw [Prog.exec, Prog.exec, hrun, hrun']
  exact ⟨halike, ht⟩

lemma pure {a : α} {b : β} (h : Q a b) :
    Together R Q (Pure.pure a : Prog σ ℓ ε α) (Pure.pure b) :=
  fun _ _ hs => ⟨.ok h, hs⟩

lemma throw (e e' : ε) :
    Together R Q (MonadExcept.throw e : Prog σ ℓ ε α) (MonadExcept.throw e') :=
  fun _ _ hs => ⟨.error e e', hs⟩

/-- Whatever would have come after a failure. -/
lemma throw_bind (e e' : ε) (f : α' → Prog σ ℓ ε α) (f' : β' → Prog σ ℓ ε β) :
    Together R Q ((MonadExcept.throw e : Prog σ ℓ ε α') >>= f)
      ((MonadExcept.throw e' : Prog σ ℓ ε β') >>= f') :=
  fun _ _ hs => ⟨.error e e', hs⟩

lemma read {l l' : ℓ} {f : σ → α} {f' : σ → β} (h : ∀ s s', R s s' → Q (f s) (f' s')) :
    Together R Q (Prog.read l f : Prog σ ℓ ε α) (Prog.read l' f') :=
  fun s s' hs => ⟨.ok (h s s' hs), hs⟩

/-- The rule of composition. -/
lemma bind {m : Prog σ ℓ ε α'} {m' : Prog σ ℓ ε β'} {f : α' → Prog σ ℓ ε α} {f' : β' → Prog σ ℓ ε β}
    (hm : Together R P m m') (hf : ∀ a b, P a b → Together R Q (f a) (f' b)) :
    Together R Q (m >>= f) (m' >>= f') := by
  intro s s' hs
  obtain ⟨halike, ht⟩ := hm s s' hs
  rw [Prog.exec, Prog.exec] at ht
  rw [Prog.exec, Prog.exec, Prog.run_bind, Prog.run_bind]
  rcases hrun : m.run s with ⟨x, t⟩
  rcases hrun' : m'.run s' with ⟨y, t'⟩
  rw [hrun, hrun'] at halike ht
  cases halike with
  | ok h => exact hf _ _ h t t' ht
  | error e e' => exact ⟨.error e e', ht⟩

/-- An action that only the first execution performs. -/
lemma bind_left {m : Prog σ ℓ ε α'} {f : α' → Prog σ ℓ ε α} {m' : Prog σ ℓ ε β}
    (hm : ∀ s s', R s s' → ∃ a t, m.run s = (.ok a, t) ∧ R t s')
    (hf : ∀ a, Together R Q (f a) m') : Together R Q (m >>= f) m' := by
  intro s s' hs
  obtain ⟨a, t, hrun, ht⟩ := hm s s' hs
  rw [Prog.exec, Prog.run_bind_ok hrun]
  exact hf a t s' ht

end Together

/-- **The rule of two runs**: what each pair of steps under a label that meets `P` keeps of two
systems, their runs keep. -/
theorem AllSteps.related {τ ι : Type} {step : σ → ι → σ} {step' : τ → ι → τ} {P : σ → ι → Prop}
    {R : σ → τ → Prop} (hstep : ∀ s t o, R s t → P s o → R (step s o) (step' t o)) {s : σ} {t : τ}
    {os : List ι} (h : AllSteps step P s os) (hst : R s t) :
    R (runFrom step s os) (runFrom step' t os) := by
  induction os generalizing s t with
  | nil => exact hst
  | cons o os ih => exact ih h.2 (hstep s t o hst h.1)

/-! ### Rows that only one of two tables gets -/

namespace Table

variable {γ : Type}

/-- `t'` is `t` without some of the rows with the property `q`. -/
structure Lacks (q : γ → Bool) (t' t : Table γ) : Prop where
  le : t'.next ≤ t.next
  same : t'.next = t.next → t' = t
  /-- A row that is missing is one with the property. -/
  reason : t'.next < t.next → ∃ b ∈ t.values, q b = true
  others : (t'.values.filter fun b => !q b) = t.values.filter fun b => !q b

namespace Lacks

variable {q : γ → Bool} {t' t : Table γ}

lemma refl (t : Table γ) : Lacks q t t :=
  ⟨Nat.le_refl _, fun _ => rfl, fun h => absurd h (Nat.lt_irrefl _), rfl⟩

/-- Both get a row. -/
lemma insert (h : Lacks q t' t) (b : γ) : Lacks q (t'.insert b) (t.insert b) where
  le := Nat.succ_le_succ h.le
  same := fun heq => by rw [h.same (Nat.succ.inj heq)]
  reason := by
    intro hlt
    obtain ⟨c, hc, hqc⟩ := h.reason (Nat.lt_of_succ_lt_succ hlt)
    rw [values_insert]
    exact ⟨c, List.mem_append_left _ hc, hqc⟩
  others := by rw [values_insert, values_insert, List.filter_append, List.filter_append, h.others]

/-- Only one of them gets a row with the property. -/
lemma insert_left (h : Lacks q t' t) {b : γ} (hb : q b = true) : Lacks q t' (t.insert b) where
  le := Nat.le_succ_of_le h.le
  same := fun heq => absurd heq (Nat.ne_of_lt (Nat.lt_succ_of_le h.le))
  reason := fun _ => ⟨b, by simp, hb⟩
  others := by simp [h.others, hb]

/-- What rows without the property are found does not depend on the others. -/
lemma filter_eq (h : Lacks q t' t) {p : γ → Bool} (hp : ∀ b, p b = true → q b = false) :
    t'.values.filter p = t.values.filter p := by
  have hboth : ∀ u : Table γ, u.values.filter p = (u.values.filter fun b => !q b).filter p := by
    intro u
    rw [List.filter_filter]
    refine List.filter_congr fun b _ => ?_
    cases hpb : p b with
    | false => rfl
    | true => rw [hp b hpb]; rfl
  rw [hboth t', hboth t, h.others]

lemma any_eq (h : Lacks q t' t) {p : γ → Bool} (hp : ∀ b, p b = true → q b = false) :
    t'.values.any p = t.values.any p := by
  have hboth : ∀ u : Table γ, u.values.any p = (u.values.filter p).any fun _ => true := by
    intro u
    simp [List.any_filter]
  rw [hboth t', hboth t, h.filter_eq hp]

end Lacks

end Table

end Lib
