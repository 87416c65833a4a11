/-
Programs made of atomic steps.

A service method that talks to a database is a sequence of atomic actions with
ordinary computation in between.  `Prog σ ℓ ε α` is such a program over a shared
state `σ`: it returns, it fails, or it performs one atomic action carrying a label
`ℓ`.  The same program has two readings: `Prog.run` executes it alone, from one
state to the next, and `Lib/Pool.lean` interleaves the actions of many of them.

A failure does not undo the actions performed before it: there is no rollback
unless the program asks for one by putting several writes into one action.
-/
import Mathlib.Tactic.Common
import Mathlib.Tactic.Lemma

namespace Lib

/-- A program over a state `σ`, with actions labelled in `ℓ`, errors in `ε` and results
in `α`.  An action sees the state `s`, leaves `w s` behind and goes on as `k s`. -/
inductive Prog (σ ℓ ε α : Type) : Type
  | ret (a : α)
  | fail (e : ε)
  | atom (l : ℓ) (w : σ → σ) (k : σ → Prog σ ℓ ε α)

namespace Prog

variable {σ ℓ ε α β : Type}

/-- Sequential composition: a failure of the first part is the failure of the whole. -/
def bind (m : Prog σ ℓ ε α) (f : α → Prog σ ℓ ε β) : Prog σ ℓ ε β :=
  match m with
  | ret a => f a
  | fail e => fail e
  | atom l w k => atom l w fun s => (k s).bind f

/-- `try … catch`: a failure is handed to `h`; the actions already performed stay. -/
def handle (m : Prog σ ℓ ε α) (h : ε → Prog σ ℓ ε α) : Prog σ ℓ ε α :=
  match m with
  | ret a => ret a
  | fail e => h e
  | atom l w k => atom l w fun s => (k s).handle h

instance : Monad (Prog σ ℓ ε) where
  pure := ret
  bind := bind

instance : MonadExceptOf ε (Prog σ ℓ ε) where
  throw := fail
  tryCatch := handle

lemma pure_bind (a : α) (f : α → Prog σ ℓ ε β) : (pure a : Prog σ ℓ ε α) >>= f = f a := rfl

lemma bind_assoc {γ : Type} (m : Prog σ ℓ ε α) (f : α → Prog σ ℓ ε β)
    (g : β → Prog σ ℓ ε γ) : m >>= f >>= g = m >>= fun a => f a >>= g := by
  induction m with
  | ret a => rfl
  | fail e => rfl
  | atom l w k ih => exact congrArg (atom l w) (funext fun s => ih s)

/-- An action that only looks at the state. -/
def read (l : ℓ) (f : σ → α) : Prog σ ℓ ε α := atom l id fun s => ret (f s)

/-- An action that only changes the state. -/
def write (l : ℓ) (w : σ → σ) : Prog σ ℓ ε Unit := atom l w fun _ => ret ()

/-! ### Running a program alone -/

/-- The execution of a program with nothing else going on. -/
def run : Prog σ ℓ ε α → σ → Except ε α × σ
  | ret a, s => (.ok a, s)
  | fail e, s => (.error e, s)
  | atom _ w k, s => (k s).run (w s)

/-- The state in which the execution of a program ends, normally or by a failure. -/
def exec (m : Prog σ ℓ ε α) (s : σ) : σ := (m.run s).2

@[simp] lemma run_pure (a : α) (s : σ) :
    (pure a : Prog σ ℓ ε α).run s = (.ok a, s) := rfl

@[simp] lemma run_throw (e : ε) (s : σ) :
    (throw e : Prog σ ℓ ε α).run s = (.error e, s) := rfl

@[simp] lemma run_atom (l : ℓ) (w : σ → σ) (k : σ → Prog σ ℓ ε α) (s : σ) :
    (atom l w k).run s = (k s).run (w s) := rfl

@[simp] lemma run_read (l : ℓ) (f : σ → α) (s : σ) :
    (read l f : Prog σ ℓ ε α).run s = (.ok (f s), s) := rfl

@[simp] lemma run_write (l : ℓ) (w : σ → σ) (s : σ) :
    (write l w : Prog σ ℓ ε Unit).run s = (.ok (), w s) := rfl

lemma run_bind (m : Prog σ ℓ ε α) (f : α → Prog σ ℓ ε β) (s : σ) :
    (m >>= f).run s = match m.run s with
      | (.ok a, s') => (f a).run s'
      | (.error e, s') => (.error e, s') := by
  induction m generalizing s with
  | ret a => rfl
  | fail e => rfl
  | atom l w k ih => exact ih s (w s)

lemma run_tryCatch (m : Prog σ ℓ ε α) (h : ε → Prog σ ℓ ε α) (s : σ) :
    (tryCatch m h).run s = match m.run s with
      | (.ok a, s') => (.ok a, s')
      | (.error e, s') => (h e).run s' := by
  induction m generalizing s with
  | ret a => rfl
  | fail e => rfl
  | atom l w k ih => exact ih s (w s)

/-- The state after a composition, when the outcome of its first part is known. -/
lemma run_bind_ok {m : Prog σ ℓ ε α} {f : α → Prog σ ℓ ε β} {s s' : σ} {a : α}
    (h : m.run s = (.ok a, s')) : (m >>= f).run s = (f a).run s' := by
  rw [run_bind, h]

/-- A program that only drops the result of another one does the same. -/
@[simp] lemma exec_bind_pure (m : Prog σ ℓ ε α) (f : α → β) (s : σ) :
    (m >>= fun a => pure (f a)).exec s = m.exec s := by
  rw [exec, exec, run_bind]
  rcases m.run s with ⟨_ | a, s'⟩ <;> rfl

/-- A program whose failures are ignored does the same. -/
@[simp] lemma exec_tryCatch_pure (m : Prog σ ℓ ε α) (f : ε → α) (s : σ) :
    (tryCatch m fun e => pure (f e)).exec s = m.exec s := by
  rw [exec, exec, run_tryCatch]
  rcases m.run s with ⟨_ | a, s'⟩ <;> rfl

/-- A failure of `m` in the state `s` leaves what `v` shows of the state as it was. -/
def FailsCleanly {ν : Type} (v : σ → ν) (m : Prog σ ℓ ε α) (s : σ) : Prop :=
  ∀ e s', m.run s = (.error e, s') → v s' = v s

/-! ### Executions that succeed -/

/-- The program returns from `s`, and the result and the state it leaves are as `Q` says. -/
def Returns (m : Prog σ ℓ ε α) (s : σ) (Q : α → σ → Prop) : Prop :=
  ∃ a s', m.run s = (.ok a, s') ∧ Q a s'

lemma Returns.of_run {m : Prog σ ℓ ε α} {s s' : σ} {a : α} {Q : α → σ → Prop}
    (h : m.run s = (.ok a, s')) (hQ : Q a s') : m.Returns s Q := ⟨a, s', h, hQ⟩

lemma Returns.mono {m : Prog σ ℓ ε α} {s : σ} {Q Q' : α → σ → Prop} (h : m.Returns s Q)
    (hQ : ∀ a s', Q a s' → Q' a s') : m.Returns s Q' := by
  obtain ⟨a, s', hrun, hq⟩ := h
  exact ⟨a, s', hrun, hQ a s' hq⟩

/-- The rule of composition. -/
lemma Returns.bind {m : Prog σ ℓ ε α} {f : α → Prog σ ℓ ε β} {s : σ} {Q : β → σ → Prop}
    (h : m.Returns s fun a s' => (f a).Returns s' Q) : (m >>= f).Returns s Q := by
  obtain ⟨a, s', hrun, b, s'', hrun', hQ⟩ := h
  exact ⟨b, s'', (run_bind_ok hrun).trans hrun', hQ⟩

/-- The rule of composition, when the outcome of the first part is known. -/
lemma Returns.bind_run {m : Prog σ ℓ ε α} {f : α → Prog σ ℓ ε β} {s s' : σ} {a : α}
    {Q : β → σ → Prop} (h : m.run s = (.ok a, s')) (hf : (f a).Returns s' Q) :
    (m >>= f).Returns s Q := .bind (.of_run h hf)

/-- A program that returns is not concerned by a handler. -/
lemma Returns.tryCatch {m : Prog σ ℓ ε α} {h : ε → Prog σ ℓ ε α} {s : σ} {Q : α → σ → Prop}
    (hm : m.Returns s Q) : (tryCatch m h).Returns s Q := by
  obtain ⟨a, s', hrun, hQ⟩ := hm
  exact ⟨a, s', by rw [run_tryCatch, hrun], hQ⟩

/-- What a program that returns has done. -/
lemma Returns.exec {m : Prog σ ℓ ε α} {s : σ} {Q : σ → Prop} (h : m.Returns s fun _ => Q) :
    Q (m.exec s) := by
  obtain ⟨a, s', hrun, hQ⟩ := h
  rwa [Prog.exec, hrun]

/-! ### Executions that are undone when they fail -/

/-- The execution from `s` fails, or it returns and is as `Q` says. -/
def FailsOr (m : Prog σ ℓ ε α) (s : σ) (Q : α → σ → Prop) : Prop :=
  (∃ e s', m.run s = (.error e, s')) ∨ m.Returns s Q

lemma FailsOr.fail {m : Prog σ ℓ ε α} {s s' : σ} {e : ε} {Q : α → σ → Prop}
    (h : m.run s = (.error e, s')) : m.FailsOr s Q := Or.inl ⟨e, s', h⟩

/-- The rule of composition. -/
lemma FailsOr.bind {m : Prog σ ℓ ε α} {f : α → Prog σ ℓ ε β} {s : σ} {Q : β → σ → Prop}
    (h : m.FailsOr s fun a s' => (f a).FailsOr s' Q) : (m >>= f).FailsOr s Q := by
  rcases h with ⟨e, s', hrun⟩ | ⟨a, s', hrun, hf⟩
  · exact Or.inl ⟨e, s', by rw [run_bind, hrun]⟩
  · rcases hf with ⟨e, s'', hrun'⟩ | hf
    · exact .fail ((run_bind_ok hrun).trans hrun')
    · exact Or.inr (.bind_run hrun hf)

/-- The rule of composition, when the outcome of the first part is known. -/
lemma FailsOr.bind_run {m : Prog σ ℓ ε α} {f : α → Prog σ ℓ ε β} {s s' : σ} {a : α}
    {Q : β → σ → Prop} (h : m.run s = (.ok a, s')) (hf : (f a).FailsOr s' Q) :
    (m >>= f).FailsOr s Q := .bind (Or.inr (.of_run h hf))

/-! ### Executions that may fail at last -/

/-- The execution from `s` ends, normally or by a failure, in a state as `Q` says. -/
def Leaves (m : Prog σ ℓ ε α) (s : σ) (Q : σ → Prop) : Prop := Q (m.exec s)

lemma Leaves.mono {m : Prog σ ℓ ε α} {s : σ} {Q R : σ → Prop} (h : m.Leaves s Q)
    (hQ : ∀ s', Q s' → R s') : m.Leaves s R := hQ _ h

lemma Leaves.of_run {m : Prog σ ℓ ε α} {s s' : σ} {x : Except ε α} {Q : σ → Prop}
    (h : m.run s = (x, s')) (hQ : Q s') : m.Leaves s Q := by
  rwa [Leaves, exec, h]

/-- The rule of composition for a first part that returns. -/
lemma Leaves.bind {m : Prog σ ℓ ε α} {f : α → Prog σ ℓ ε β} {s : σ} {Q : σ → Prop}
    (h : m.Returns s fun a s' => (f a).Leaves s' Q) : (m >>= f).Leaves s Q := by
  obtain ⟨a, s', hrun, hQ⟩ := h
  rwa [Leaves, exec, run_bind_ok hrun]

/-- The rule of composition, when the outcome of the first part is known. -/
lemma Leaves.bind_run {m : Prog σ ℓ ε α} {f : α → Prog σ ℓ ε β} {s s' : σ} {a : α}
    {Q : σ → Prop} (h : m.run s = (.ok a, s')) (hf : (f a).Leaves s' Q) :
    (m >>= f).Leaves s Q := .bind (.of_run h hf)

/-- The rule of composition for a second part that makes no difference to `Q`. -/
lemma Leaves.bind_keeps {m : Prog σ ℓ ε α} {f : α → Prog σ ℓ ε β} {s : σ} {Q : σ → Prop}
    (h : m.Leaves s Q) (hf : ∀ a s', Q s' → (f a).Leaves s' Q) : (m >>= f).Leaves s Q := by
  rw [Leaves, exec] at h ⊢
  rw [run_bind]
  rcases hrun : m.run s with ⟨e | a, s'⟩
  · rwa [hrun] at h
  · rw [hrun] at h
    exact hf a s' h

/-! ### Relations kept by every execution

`Keeps R m` says that every execution of `m` relates its two ends by `R`.  For a
reflexive and transitive `R` it can be read off the parts of `m` one by one, with no look
at the values read in between; this is how loops are dealt with. -/

/-- Every execution of `m` relates the state it starts in to the state it ends in. -/
def Keeps (R : σ → σ → Prop) (m : Prog σ ℓ ε α) : Prop := ∀ s, R s (m.exec s)

variable {R : σ → σ → Prop}

lemma Keeps.pure (hr : ∀ s, R s s) (a : α) : Keeps R (pure a : Prog σ ℓ ε α) :=
  fun s => hr s

lemma Keeps.bind (ht : ∀ a b c, R a b → R b c → R a c) {m : Prog σ ℓ ε α}
    {f : α → Prog σ ℓ ε β} (hm : Keeps R m) (hf : ∀ a, Keeps R (f a)) :
    Keeps R (m >>= f) := by
  intro s
  have h₁ := hm s
  rw [exec] at h₁ ⊢
  rw [run_bind]
  rcases hrun : m.run s with ⟨_ | a, s'⟩
  · rw [hrun] at h₁
    exact h₁
  · rw [hrun] at h₁
    exact ht _ _ _ h₁ (hf a s')

/-- **The rule of loops**: what each round keeps, the loop keeps, also when a round fails
and ends it. -/
theorem Keeps.forM (hr : ∀ s, R s s) (ht : ∀ a b c, R a b → R b c → R a c) {β : Type}
    {f : β → Prog σ ℓ ε Unit} {bs : List β} (hf : ∀ b ∈ bs, Keeps R (f b)) :
    Keeps R (bs.forM f) := by
  induction bs with
  | nil => exact Keeps.pure hr _
  | cons b bs ih =>
    refine Keeps.bind ht (hf b (List.mem_cons_self ..)) fun _ => ih fun b' hb' => ?_
    exact hf b' (List.mem_cons_of_mem _ hb')

/-- A composition of programs that only read only reads. -/
lemma Keeps.bind_reads {m : Prog σ ℓ ε α} {f : α → Prog σ ℓ ε β} (hm : Keeps Eq m)
    (hf : ∀ a, Keeps Eq (f a)) : Keeps Eq (m >>= f) :=
  Keeps.bind (R := Eq) (fun _ _ _ hab hbc => hab.trans hbc) hm hf

/-- A composition whose first part only reads ends where it started, or goes on from there. -/
lemma exec_bind_of_reads {m : Prog σ ℓ ε α} (hm : Keeps Eq m) {f : α → Prog σ ℓ ε β} {s : σ}
    {P : σ → Prop} (hstop : P s) (hgo : ∀ a, P ((f a).exec s)) : P ((m >>= f).exec s) := by
  have hs := hm s
  rw [exec] at hs
  rw [exec, run_bind]
  rcases hrun : m.run s with ⟨e | a, s'⟩
  · rw [hrun] at hs
    obtain rfl : s = s' := hs
    exact hstop
  · rw [hrun] at hs
    obtain rfl : s = s' := hs
    exact hgo a

/-- A loop none of whose rounds fails runs them all, one after the other. -/
theorem run_forM {β : Type} {f : β → Prog σ ℓ ε Unit}
    (hf : ∀ b s, ((f b).run s).1 = .ok ()) (bs : List β) (s : σ) :
    (bs.forM f).run s = (.ok (), bs.foldl (fun s b => (f b).exec s) s) := by
  induction bs generalizing s with
  | nil => rfl
  | cons b bs ih =>
    have hb : (f b).run s = (.ok (), (f b).exec s) := Prod.ext (hf b s) rfl
    show (f b >>= fun _ => bs.forM f).run s = _
    rw [run_bind_ok hb, ih, List.foldl_cons]

end Prog

end Lib
