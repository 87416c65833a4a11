/-
What each call of a client does at its one step.

A relation that holds of the write of a call, under the label of the call, holds of every step of
the call; with `EachStep.bind` this carries over to the programs made of such calls.
-/
import Asoju.Lib.Client
import Asoju.Lib.Faults

namespace Lib

variable {σ μ ε α β : Type} {R : Access μ → σ → σ → Prop}

namespace Prog

lemma EachStep.pure (a : α) : (Pure.pure a : Prog σ (Access μ) ε α).EachStep R := trivial

lemma EachStep.throw (e : ε) : (MonadExcept.throw e : Prog σ (Access μ) ε α).EachStep R := trivial

lemma EachStep.tryCatch {m : Prog σ (Access μ) ε α} {g : ε → Prog σ (Access μ) ε α}
    (h : m.EachStep R) (hg : ∀ e, (g e).EachStep R) :
    (MonadExcept.tryCatch m g).EachStep R := by
  induction m with
  | ret a => trivial
  | fail e => exact hg e
  | atom l w k ih => exact fun s => ⟨(h s).1, ih s (h s).2⟩

/-- A handler that answers at once. -/
lemma EachStep.tryCatch_pure {m : Prog σ (Access μ) ε α} (h : m.EachStep R) (f : ε → α) :
    (MonadExcept.tryCatch m fun e => Pure.pure (f e)).EachStep R := h.tryCatch fun _ => trivial

end Prog

namespace Client

open Prog

lemma eachStep_query {m : μ} {f : σ → α} (h : ∀ s, R (.find m) s s) :
    (query m f : Prog σ (Access μ) ε α).EachStep R := fun s => ⟨h s, trivial⟩

variable {r : TableOf σ μ β}

lemma eachStep_create {b : β} (h : ∀ s, R (.create r.model) s (r.insert b s)) :
    (create r b : Prog σ (Access μ) ε ℕ).EachStep R := fun s => ⟨h s, trivial⟩

lemma eachStep_createUnique {taken : β → Bool} {e : ε} {b : β}
    (hsame : ∀ s, R (.create r.model) s s) (h : ∀ s, R (.create r.model) s (r.insert b s)) :
    (createUnique r taken e b).EachStep R := by
  intro s
  constructor
  · beta_reduce
    split
    · exact hsame s
    · exact h s
  · beta_reduce
    split <;> trivial

lemma eachStep_update {e : ε} {i : ℕ} {f : β → β}
    (h : ∀ s, R (.update r.model) s (r.modify i f s)) : (update r e i f).EachStep R := by
  intro s
  refine ⟨h s, ?_⟩
  beta_reduce
  split <;> trivial

lemma eachStep_updateMany {q : β → Bool} {f : β → β}
    (h : ∀ s, R (.update r.model) s (r.modifyWhere q f s)) :
    (updateMany r q f : Prog σ (Access μ) ε ℕ).EachStep R := fun s => ⟨h s, trivial⟩

lemma eachStep_updateIf {i : ℕ} {q : β → Bool} {f : β → β}
    (hsame : ∀ s, R (.update r.model) s s)
    (h : ∀ s b, (r.get s).get? i = some b → q b = true → R (.update r.model) s (r.modify i f s)) :
    (updateIf r i q f : Prog σ (Access μ) ε ℕ).EachStep R := by
  intro s
  refine ⟨?_, trivial⟩
  rw [TableOf.modifyIf]
  split
  · rename_i hany
    obtain ⟨b, hb, hq⟩ := (Option.any_eq_true _ _).mp hany
    exact h s b hb hq
  · exact hsame s

lemma eachStep_updateUnique {q : β → Bool} {e : ε} {f : β → β}
    (hsame : ∀ s, R (.update r.model) s s) (h : ∀ i s, R (.update r.model) s (r.modify i f s)) :
    (updateUnique r q e f).EachStep R := by
  intro s
  constructor
  · beta_reduce
    split
    · exact h _ s
    · exact hsame s
  · beta_reduce
    split <;> trivial

lemma eachStep_upsert {q : β → Bool} {b : β} {f : β → β}
    (hmodify : ∀ i s, R (.update r.model) s (r.modify i f s))
    (hinsert : ∀ s, R (.update r.model) s (r.insert b s)) :
    (upsert r q b f : Prog σ (Access μ) ε Unit).EachStep R := by
  intro s
  refine ⟨?_, trivial⟩
  beta_reduce
  split
  · exact hmodify _ s
  · exact hinsert s

/-- A transaction is one step, and comes to what its program comes to, or to nothing. -/
lemma eachStep_transaction {m : Prog σ (Access μ) ε α} (hsame : ∀ s, R .transaction s s)
    (h : ∀ s, R .transaction s (m.exec s)) : (transaction m).EachStep R := by
  intro s
  constructor
  · rw [committed]
    have hexec := h s
    rw [exec] at hexec
    split
    · rename_i hrun
      rwa [hrun] at hexec
    · exact hsame s
  · beta_reduce
    split <;> trivial

/-! ### Composition -/

/-- An update of a row that is there, and what follows. -/
lemma returns_update_bind {e : ε} {i : ℕ} {f : β → β} {b : β} {s : σ}
    {g : Unit → Prog σ (Access μ) ε α} {Q : α → σ → Prop} (h : (r.get s).get? i = some b)
    (hg : (g ()).Returns (r.modify i f s) Q) :
    (update r e i f >>= g).Returns s Q :=
  .bind_run (run_update_of_some h e f) hg

/-! ### The first step of a composition -/

section After

variable {g : α → Prog σ (Access μ) ε β} (n : ℕ) (s : σ)

lemma after_query_bind (m : μ) (f : σ → α) :
    (query m f >>= g).after (n + 1) s = (g (f s)).after n s := rfl

lemma after_updateMany_bind {g : ℕ → Prog σ (Access μ) ε α} (q : β → Bool) (f : β → β) :
    (updateMany r q f >>= g).after (n + 1) s =
      (g ((r.get s).values.countP q)).after n (r.modifyWhere q f s) := rfl

lemma after_create_bind {g : ℕ → Prog σ (Access μ) ε α} (b : β) :
    (create r b >>= g).after (n + 1) s = (g (r.get s).next).after n (r.insert b s) := rfl

lemma after_upsert_bind {g : Unit → Prog σ (Access μ) ε α} (q : β → Bool) (b : β) (f : β → β) :
    (upsert r q b f >>= g).after (n + 1) s = (g ()).after n
      (match r.find q s with
        | some (i, _) => r.modify i f s
        | none => r.insert b s) := rfl

/-- An update of a row that is there. -/
lemma after_update_bind {e : ε} {i : ℕ} {f : β → β} {b : β} {g : Unit → Prog σ (Access μ) ε α}
    (h : (r.get s).get? i = some b) :
    (update r e i f >>= g).after (n + 1) s = (g ()).after n (r.modify i f s) := by
  change ((if ((r.get s).get? i).isSome then Prog.ret () else Prog.fail e) >>= g).after n _ = _
  rw [h, Option.isSome_some, if_pos rfl]
  rfl

end After

/-! ### Calls that may fail -/

lemma update_failsOr (r : TableOf σ μ β) (e : ε) (i : ℕ) (f : β → β) (s : σ) :
    (update r e i f).FailsOr s fun _ s' => s' = r.modify i f s := by
  rw [FailsOr, run_update]
  by_cases hrow : ((r.get s).get? i).isSome = true
  · rw [if_pos hrow]
    exact Or.inr ⟨(), r.modify i f s, by rw [run_update, if_pos hrow], rfl⟩
  · rw [if_neg hrow]
    exact Or.inl ⟨e, _, rfl⟩

lemma createUnique_failsOr (r : TableOf σ μ β) (taken : β → Bool) (e : ε) (b : β) (s : σ) :
    (createUnique r taken e b).FailsOr s fun i s' =>
      r.find taken s = none ∧ i = (r.get s).next ∧ s' = r.insert b s := by
  rw [FailsOr, run_createUnique]
  by_cases htaken : (r.find taken s).isSome = true
  · rw [if_pos htaken]
    exact Or.inl ⟨e, _, rfl⟩
  · refine Or.inr ⟨(r.get s).next, r.insert b s, by rw [run_createUnique, if_neg htaken], ?_⟩
    exact ⟨Option.not_isSome_iff_eq_none.mp htaken, rfl, rfl⟩

end Client

end Lib
