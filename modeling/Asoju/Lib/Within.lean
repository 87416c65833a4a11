/-
Programs on a part of the state.

A program over a component can be run over the whole: it reads and writes the component, and the
rest stays as it is.  What has been shown of its steps holds of the component.
-/
import Asoju.Lib.Rely

namespace Lib

variable {σ τ ℓ ε α β : Type}

/-- A component of a state, with the laws of reading and writing it. -/
structure Part (τ σ : Type) where
  get : τ → σ
  put : σ → τ → τ
  get_put : ∀ s t, get (put s t) = s
  put_get : ∀ t, put (get t) t = t

namespace Prog

/-- The program, run over the whole state. -/
def within (p : Part τ σ) : Prog σ ℓ ε α → Prog τ ℓ ε α
  | .ret a => .ret a
  | .fail e => .fail e
  | .atom l w k => .atom l (fun t => p.put (w (p.get t)) t) fun t => (k (p.get t)).within p

variable {p : Part τ σ}

@[simp] lemma within_pure (a : α) : (pure a : Prog σ ℓ ε α).within p = pure a := rfl

@[simp] lemma within_throw (e : ε) : (throw e : Prog σ ℓ ε α).within p = throw e := rfl

@[simp] lemma within_bind (m : Prog σ ℓ ε β) (f : β → Prog σ ℓ ε α) :
    (m >>= f).within p = m.within p >>= fun b => (f b).within p := by
  induction m with
  | ret b => rfl
  | fail e => rfl
  | atom l w k ih =>
    show Prog.atom l _ (fun t => ((k (p.get t)) >>= f).within p) = Prog.atom l _ _
    exact congrArg _ (funext fun t => ih (p.get t))

/-- A look at the component is a look at the state. -/
@[simp] lemma within_read (l : ℓ) (v : σ → α) :
    (Prog.read l v : Prog σ ℓ ε α).within p = Prog.read l fun t => v (p.get t) := by
  show Prog.atom l _ _ = Prog.atom l id _
  congr 1
  exact funext fun t => p.put_get t

/-- The steps do to the component what they did, and nothing else. -/
lemma EachStep.within {R : ℓ → σ → σ → Prop} {m : Prog σ ℓ ε α} (h : m.EachStep R) :
    (m.within p).EachStep fun l t t' => R l (p.get t) (p.get t') ∧ t' = p.put (p.get t') t := by
  induction m with
  | ret a => trivial
  | fail e => trivial
  | atom l w k ih =>
    intro t
    refine ⟨⟨?_, ?_⟩, ih _ (h (p.get t)).2⟩
    · rw [p.get_put]
      exact (h (p.get t)).1
    · rw [p.get_put]

lemma Yields.within {φ : α → Prop} {m : Prog σ ℓ ε α} (h : m.Yields φ) :
    (m.within p).Yields φ := by
  induction m with
  | ret a => exact h
  | fail e => trivial
  | atom l w k ih => exact fun t => ih _ (h (p.get t))

end Prog

end Lib
