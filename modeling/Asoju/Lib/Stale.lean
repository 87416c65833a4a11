/-
Transactions whose reads may be stale.

A transaction reads while other ones commit: a read sees some state that has been committed by then,
which need not be the last one.  What the transaction writes nobody else sees before it commits;
then its writes take effect all at once, on the state that has been committed last, or none of them
does.  So a transaction of a schedule is given by its place in the order of the commits and by the
states that its reads have seen.

`Prog.stale` is a program whose reads see the states of a list.  A `History` consists of the states
that have been committed, and `History.commit` is what a transaction adds to it.
-/
import Asoju.Lib.Client
import Asoju.Lib.Faults

namespace Lib

variable {σ ℓ ε α β μ : Type}

namespace Prog

variable (isRead : ℓ → Bool)

/-- The program whose reads see one state of the list after the other, and the present state when
there is none left. -/
def stale : Prog σ ℓ ε α → Prog (σ × List σ) ℓ ε α
  | ret a => ret a
  | fail e => fail e
  | atom l w k =>
      if isRead l then atom l (fun x => (x.1, x.2.tail)) fun x => stale (k (x.2.headD x.1))
      else atom l (fun x => (w x.1, x.2)) fun x => stale (k x.1)

lemma stale_bind (m : Prog σ ℓ ε α) (f : α → Prog σ ℓ ε β) :
    (m >>= f).stale isRead = m.stale isRead >>= fun a => (f a).stale isRead := by
  induction m with
  | ret a => rfl
  | fail e => rfl
  | atom l w k ih =>
    have hk : ∀ s, (Prog.bind (k s) f).stale isRead =
        Prog.bind ((k s).stale isRead) fun a => (f a).stale isRead := ih
    show (atom l w fun s => Prog.bind (k s) f).stale isRead = _
    rw [stale, stale]
    split
    · simp only [hk]
      rfl
    · simp only [hk]
      rfl

variable {isRead}

/-- A read sees the first state of the list. -/
lemma run_stale_read {l : ℓ} (hl : isRead l = true) (f : σ → α) (s : σ) (views : List σ) :
    ((read l f : Prog σ ℓ ε α).stale isRead).run (s, views) =
      (.ok (f (views.headD s)), (s, views.tail)) := by
  rw [read, stale, if_pos hl]
  rfl

/-- A program that only writes sees none of the states. -/
lemma run_stale_of_writes {m : Prog σ ℓ ε α} (h : m.EachStep fun l _ _ => isRead l = false)
    (s : σ) (views : List σ) :
    (m.stale isRead).run (s, views) = ((m.run s).1, ((m.run s).2, views)) := by
  induction m generalizing s with
  | ret a => rfl
  | fail e => rfl
  | atom l w k ih =>
    rw [stale, if_neg (by simp [(h s).1])]
    exact ih s (h s).2 (w s)

lemma FailsOr.stale_of_writes {m : Prog σ ℓ ε α} {s : σ} {views : List σ}
    {Q : α → σ × List σ → Prop} (hm : m.EachStep fun l _ _ => isRead l = false)
    (h : m.FailsOr s fun a s' => Q a (s', views)) : (m.stale isRead).FailsOr (s, views) Q := by
  rcases h with ⟨e, s', hrun⟩ | ⟨a, s', hrun, hQ⟩
  · have hfail : (m.stale isRead).run (s, views) = (.error e, (s', views)) := by
      rw [run_stale_of_writes hm, hrun]
    exact .fail hfail
  · exact Or.inr ⟨a, (s', views), by rw [run_stale_of_writes hm, hrun], hQ⟩

/-- A write that succeeds, and what follows. -/
lemma FailsOr.bind_write {m : Prog σ ℓ ε α} {f : α → Prog σ ℓ ε β} {s s' : σ} {views : List σ}
    {a : α} {Q : β → σ × List σ → Prop} (hm : m.EachStep fun l _ _ => isRead l = false)
    (h : m.run s = (.ok a, s')) (hf : ((f a).stale isRead).FailsOr (s', views) Q) :
    ((m >>= f).stale isRead).FailsOr (s, views) Q := by
  have hrun : (m.stale isRead).run (s, views) = (.ok a, (s', views)) := by
    rw [run_stale_of_writes hm, h]
  rw [stale_bind]
  exact .bind_run hrun hf

/-- A write that may fail, and what follows. -/
lemma FailsOr.bind_writes {m : Prog σ ℓ ε α} {f : α → Prog σ ℓ ε β} {s : σ} {views : List σ}
    {Q : β → σ × List σ → Prop} (hm : m.EachStep fun l _ _ => isRead l = false)
    (h : m.FailsOr s fun a s' => ((f a).stale isRead).FailsOr (s', views) Q) :
    ((m >>= f).stale isRead).FailsOr (s, views) Q := by
  rw [stale_bind]
  exact .bind (.stale_of_writes hm h)

/-- A read, and what follows. -/
lemma FailsOr.bind_read {l : ℓ} (hl : isRead l = true) {v : σ → α} {f : α → Prog σ ℓ ε β} {s : σ}
    {views : List σ} {Q : β → σ × List σ → Prop}
    (hf : ((f (v (views.headD s))).stale isRead).FailsOr (s, views.tail) Q) :
    ((read l v >>= f).stale isRead).FailsOr (s, views) Q := by
  rw [stale_bind]
  exact .bind_run (run_stale_read hl v s views) hf

end Prog

/-- The action is a read. -/
def Access.isFind : Access μ → Bool
  | .find _ => true
  | _ => false

/-! ### The committed states -/

/-- The states that have been committed, oldest first, and the last one of them. -/
structure History (σ : Type) where
  past : List σ := []
  current : σ

namespace History

variable (h : History σ)

/-- The committed state of a number. -/
def seen (n : ℕ) : σ := (h.past[n]?).getD h.current

/-- A transaction comes to its end, whose reads have seen the states of the given numbers. -/
def commit (isRead : ℓ → Bool) (m : Prog σ ℓ ε α) (views : List ℕ) : History σ :=
  match (m.stale isRead).run (h.current, views.map h.seen) with
  | (.ok _, s) => ⟨h.past ++ [h.current], s.1⟩
  | (.error _, _) => h

variable {h} {isRead : ℓ → Bool} {m : Prog σ ℓ ε α} {views : List ℕ}

/-- **What a transaction does**: nothing, or it commits. -/
lemma commit_cases {Q : α → σ × List σ → Prop}
    (hm : (m.stale isRead).FailsOr (h.current, views.map h.seen) Q) :
    h.commit isRead m views = h ∨
      ∃ a s, Q a s ∧ h.commit isRead m views = ⟨h.past ++ [h.current], s.1⟩ := by
  rw [commit]
  rcases hm with ⟨e, s, hrun⟩ | ⟨a, s, hrun, hQ⟩
  · exact Or.inl (by rw [hrun])
  · exact Or.inr ⟨a, s, hQ, by rw [hrun]⟩

/-- As long as nothing has been committed, every read sees the first state. -/
lemma seen_of_past (hpast : h.past = []) (n : ℕ) : h.seen n = h.current := by
  rw [seen, hpast]
  rfl

end History

end Lib
