/-
Programs that fail at one of their steps.

A process may be cut off, or its database may refuse a write, at any step.  `failAt n e m` is the
program `m` whose step number `n` fails with `e` instead of being performed; the steps before it
have been performed.  What each single step of a program does holds of such a cut-off run as
well, and a run that the fault comes too late for is the run of the program itself.

`Total P m Q` says that from a state that satisfies `P` the program succeeds, and what it returns
and leaves behind satisfy `Q`.
-/
import Asoju.Lib.Pool

namespace Lib

namespace Prog

variable {σ ℓ ε α β : Type}

/-! ### Faults -/

/-- The number of steps that a run takes. -/
def steps : Prog σ ℓ ε α → σ → ℕ
  | ret _, _ => 0
  | fail _, _ => 0
  | atom _ w k, s => (k s).steps (w s) + 1

lemma steps_atom {l : ℓ} {w : σ → σ} {k : σ → Prog σ ℓ ε α} {s : σ} :
    (atom l w k).steps s = (k s).steps (w s) + 1 := rfl

/-- The program has failed. -/
def failed : Prog σ ℓ ε α → Bool
  | fail _ => true
  | _ => false

/-- The program whose step number `n` fails. -/
def failAt : ℕ → ε → Prog σ ℓ ε α → Prog σ ℓ ε α
  | _, _, ret a => ret a
  | _, _, fail e => fail e
  | 0, e, atom _ _ _ => fail e
  | n + 1, e, atom l w k => atom l w fun s => failAt n e (k s)

/-- The program with a fault, or without. -/
def withFault : Option (ℕ × ε) → Prog σ ℓ ε α → Prog σ ℓ ε α
  | none, m => m
  | some (n, e), m => m.failAt n e

/-- A fault after the last step is none. -/
lemma run_failAt_of_le {m : Prog σ ℓ ε α} {n : ℕ} {s : σ} (h : m.steps s ≤ n) (e : ε) :
    (m.failAt n e).run s = m.run s := by
  induction m generalizing n s with
  | ret a => cases n <;> rfl
  | fail e' => cases n <;> rfl
  | atom l w k ih =>
    rw [steps_atom] at h
    obtain ⟨n, rfl⟩ : ∃ n', n = n' + 1 := ⟨n - 1, by omega⟩
    exact ih s (by omega)

/-- A fault at one of the steps ends the run. -/
lemma run_failAt_of_lt {m : Prog σ ℓ ε α} {n : ℕ} {s : σ} (h : n < m.steps s) (e : ε) :
    (m.failAt n e).run s = (.error e, (m.failAt n e).exec s) := by
  induction m generalizing n s with
  | ret a => cases h
  | fail e' => cases h
  | atom l w k ih =>
    cases n with
    | zero => rfl
    | succ n =>
      rw [steps_atom] at h
      exact ih s (by omega)

/-- A run that succeeds has met no fault. -/
lemma run_of_withFault {m : Prog σ ℓ ε α} {fault : Option (ℕ × ε)} {s s' : σ} {a : α}
    (h : (m.withFault fault).run s = (.ok a, s')) : m.run s = (.ok a, s') := by
  cases fault with
  | none => exact h
  | some x =>
    obtain ⟨n, e⟩ := x
    change (m.failAt n e).run s = _ at h
    rcases Nat.lt_or_ge n (m.steps s) with hn | hn
    · rw [run_failAt_of_lt hn] at h
      cases h
    · rwa [run_failAt_of_le hn] at h

/-- A fault in the first part of a composition. -/
lemma failAt_bind_of_lt {m : Prog σ ℓ ε α} {f : α → Prog σ ℓ ε β} {n : ℕ} {s : σ}
    (h : n < m.steps s) (e : ε) :
    ((m >>= f).failAt n e).run s = (.error e, (m.failAt n e).exec s) := by
  induction m generalizing n s with
  | ret a => cases h
  | fail e' => cases h
  | atom l w k ih =>
    cases n with
    | zero => rfl
    | succ n =>
      rw [steps_atom] at h
      exact ih s (by omega)

/-- A fault in the second part of a composition. -/
lemma failAt_bind_of_le {m : Prog σ ℓ ε α} {f : α → Prog σ ℓ ε β} {n : ℕ} {s : σ}
    (h : m.steps s ≤ n) (e : ε) :
    ((m >>= f).failAt n e).run s = match m.run s with
      | (.ok a, s') => ((f a).failAt (n - m.steps s) e).run s'
      | (.error e', s') => (.error e', s') := by
  induction m generalizing n s with
  | ret a => rfl
  | fail e' => cases n <;> rfl
  | atom l w k ih =>
    rw [steps_atom] at h
    obtain ⟨n, rfl⟩ : ∃ n', n = n' + 1 := ⟨n - 1, by omega⟩
    have hrec := ih s (n := n) (s := w s) (by omega)
    rw [steps_atom, Nat.add_sub_add_right]
    exact hrec

lemma steps_bind (m : Prog σ ℓ ε α) (f : α → Prog σ ℓ ε β) (s : σ) :
    (m >>= f).steps s = m.steps s + match m.run s with
      | (.ok a, s') => (f a).steps s'
      | (.error _, _) => 0 := by
  induction m generalizing s with
  | ret a => exact (Nat.zero_add _).symm
  | fail e => rfl
  | atom l w k ih =>
    have hrec := ih s (w s)
    show (k s >>= f).steps (w s) + 1 = _
    rw [hrec, steps]
    simp only [run_atom]
    omega

/-- A fault at the first step leaves nothing behind. -/
lemma exec_failAt_zero (m : Prog σ ℓ ε α) (e : ε) (s : σ) : (m.failAt 0 e).exec s = s := by
  cases m <;> rfl

/-- A fault in a composition whose first part is one step: nothing is done, or that step is. -/
lemma failAt_bind_step {m : Prog σ ℓ ε α} {f : α → Prog σ ℓ ε β} {n : ℕ} {s s' : σ} {a : α}
    (hm : m.steps s = 1) (hrun : m.run s = (.ok a, s')) (hn : n < (m >>= f).steps s) (e : ε) :
    ((m >>= f).failAt n e).exec s = s ∨
      ∃ k, k < (f a).steps s' ∧ ((m >>= f).failAt n e).exec s = ((f a).failAt k e).exec s' := by
  rw [steps_bind, hm, hrun] at hn
  cases n with
  | zero =>
    rw [exec, failAt_bind_of_lt (by omega)]
    exact Or.inl (exec_failAt_zero m e s)
  | succ k =>
    have hk : k + 1 < 1 + (f a).steps s' := hn
    refine Or.inr ⟨k, by omega, ?_⟩
    rw [exec, failAt_bind_of_le (by omega), hrun, hm]
    rfl

/-- The fault, one step later. -/
def later : Option (ℕ × ε) → Option (ℕ × ε) := Option.map fun x => (x.1 - 1, x.2)

/-- The fault leaves the next `k` steps alone. -/
def Sparing (k : ℕ) (fault : Option (ℕ × ε)) : Prop := ∀ n e, fault = some (n, e) → k ≤ n

/-- A fault that leaves all the steps alone is none. -/
lemma run_withFault_of_sparing {m : Prog σ ℓ ε α} {fault : Option (ℕ × ε)} {s : σ}
    (h : Sparing (m.steps s) fault) : (m.withFault fault).run s = m.run s := by
  cases fault with
  | none => rfl
  | some x => exact run_failAt_of_le (h x.1 x.2 rfl) x.2

lemma not_sparing_iff {k : ℕ} {fault : Option (ℕ × ε)} :
    ¬ Sparing k fault ↔ ∃ n e, fault = some (n, e) ∧ n < k := by
  simp only [Sparing, not_forall, not_le, exists_prop]

lemma Sparing.later {k : ℕ} {fault : Option (ℕ × ε)} (h : Sparing (k + 1) fault) :
    Sparing k (later fault) := by
  intro n e heq
  obtain ⟨⟨m, e'⟩, hfault, hm⟩ := Option.map_eq_some_iff.mp heq
  have hk := h m e' hfault
  cases hm
  exact Nat.le_sub_one_of_lt hk

lemma Sparing.not_now {k : ℕ} {fault : Option (ℕ × ε)} (h : Sparing (k + 1) fault) (e : ε) :
    fault ≠ some (0, e) := fun heq => absurd (h 0 e heq) (by omega)

/-- The fault is at none of the `m` steps that come after the first `k`. -/
def Outside (k m : ℕ) (fault : Option (ℕ × ε)) : Prop := ∀ x ∈ fault, x.1 < k ∨ k + m ≤ x.1

instance outsideDecidable (k m : ℕ) (fault : Option (ℕ × ε)) : Decidable (Outside k m fault) :=
  inferInstanceAs (Decidable (∀ x ∈ fault, x.1 < k ∨ k + m ≤ x.1))

lemma Outside.later {k m : ℕ} {fault : Option (ℕ × ε)} (h : Outside (k + 1) m fault)
    (hnow : ∀ e, fault ≠ some (0, e)) : Outside k m (later fault) := by
  intro x hx
  obtain ⟨⟨i, e⟩, hfault, rfl⟩ := Option.map_eq_some_iff.mp hx
  have hne : i ≠ 0 := fun hzero => hnow e (hzero ▸ hfault)
  have hout := h (i, e) hfault
  dsimp only at hout ⊢
  omega

lemma Outside.sparing {m : ℕ} {fault : Option (ℕ × ε)} (h : Outside 0 m fault) :
    Sparing m fault := by
  intro n e heq
  have hout := h (n, e) heq
  dsimp only at hout
  omega

lemma withFault_ret (fault : Option (ℕ × ε)) (a : α) :
    (ret a : Prog σ ℓ ε α).withFault fault = ret a := by
  rcases fault with _ | ⟨_ | n, e⟩ <;> rfl

lemma withFault_fail (fault : Option (ℕ × ε)) (e : ε) :
    (fail e : Prog σ ℓ ε α).withFault fault = fail e := by
  rcases fault with _ | ⟨_ | n, e⟩ <;> rfl

/-- A program with a fault follows a protocol, if it may end where the fault is and its next step
and the rest, with the fault one step later, follow the protocol. -/
lemma follows_withFault_atom {φ : Type} {P : Protocol σ ℓ φ} {p : φ} {l : ℓ} {w : σ → σ}
    {k : σ → Prog σ ℓ ε α} {fault : Option (ℕ × ε)} (hnow : ∀ e, fault = some (0, e) → P.final p)
    (h : ∀ s, P.relies s → P.allows p l s (w s) ∧
      P.Follows (P.next p l s) ((k s).withFault (later fault))) :
    P.Follows p ((atom l w k).withFault fault) := by
  rcases fault with _ | ⟨_ | n, e⟩
  · exact h
  · exact hnow e rfl
  · exact h

/-! ### Where a program may fail -/

section Endures

variable {φ : Type} {P : Protocol σ ℓ φ} {may : φ → Prop} {p : φ}

/-- The program keeps to the protocol, and fails only in phases that `may` allows. -/
def Endures (P : Protocol σ ℓ φ) (may : φ → Prop) : φ → Prog σ ℓ ε α → Prop
  | _, ret _ => True
  | p, fail _ => may p
  | p, atom l w k =>
      ∀ s, P.relies s → P.allows p l s (w s) ∧ Endures P may (P.next p l s) (k s)

lemma Endures.follows {m : Prog σ ℓ ε α} (h : Endures P may p m) (hfinal : ∀ p, P.final p) :
    P.Follows p m := by
  induction m generalizing p with
  | ret a => exact hfinal p
  | fail e => exact hfinal p
  | atom l w k ih => exact fun s hs => ⟨(h s hs).1, ih s (h s hs).2⟩

lemma endures_ret (fault : Option (ℕ × ε)) (a : α) :
    Endures P may p ((ret a : Prog σ ℓ ε α).withFault fault) := by
  rw [withFault_ret]
  trivial

lemma endures_fail (hmay : may p) (fault : Option (ℕ × ε)) (e : ε) :
    Endures P may p ((fail e : Prog σ ℓ ε α).withFault fault) := by
  rw [withFault_fail]
  exact hmay

/-- The first action of a composition with a fault, which may be that action. -/
lemma endures_withFault_bind {l : ℓ} {w : σ → σ} {k : σ → Prog σ ℓ ε β} {f : β → Prog σ ℓ ε α}
    {fault : Option (ℕ × ε)} (hnow : ∀ e, fault = some (0, e) → may p)
    (h : (∀ e, fault ≠ some (0, e)) → ∀ s, P.relies s → P.allows p l s (w s) ∧
      Endures P may (P.next p l s) ((k s >>= f).withFault (later fault))) :
    Endures P may p ((atom l w k >>= f).withFault fault) := by
  rcases fault with _ | ⟨_ | n, e⟩
  · exact h fun _ heq => by cases heq
  · exact hnow e rfl
  · exact h fun _ heq => by cases heq

/-- A composition with a fault whose first action does not fail by itself. -/
lemma endures_withFault_act {l : ℓ} {w : σ → σ} {v : σ → β} {f : β → Prog σ ℓ ε α}
    {fault : Option (ℕ × ε)} (hnow : ∀ e, fault = some (0, e) → may p)
    (h : (∀ e, fault ≠ some (0, e)) → ∀ s, P.relies s → P.allows p l s (w s) ∧
      Endures P may (P.next p l s) ((f (v s)).withFault (later fault))) :
    Endures P may p ((atom l w (fun s => ret (v s)) >>= f).withFault fault) :=
  endures_withFault_bind hnow h

end Endures

/-! ### What every step does -/

/-- Every step of the program, with its label, relates the two states it connects by `R`. -/
def EachStep (R : ℓ → σ → σ → Prop) : Prog σ ℓ ε α → Prop
  | ret _ => True
  | fail _ => True
  | atom l w k => ∀ s, R l s (w s) ∧ EachStep R (k s)

variable {R : ℓ → σ → σ → Prop}

lemma EachStep.bind {m : Prog σ ℓ ε α} {f : α → Prog σ ℓ ε β} (hm : EachStep R m)
    (hf : ∀ a, EachStep R (f a)) : EachStep R (m >>= f) := by
  induction m with
  | ret a => exact hf a
  | fail e => trivial
  | atom l w k ih => exact fun s => ⟨(hm s).1, ih s (hm s).2⟩

/-- What the rounds of a loop do at each step, the loop does. -/
lemma EachStep.forM {β : Type} {f : β → Prog σ ℓ ε Unit} {bs : List β}
    (hf : ∀ b ∈ bs, EachStep R (f b)) : EachStep R (bs.forM f) := by
  induction bs with
  | nil => trivial
  | cons b bs ih =>
    exact EachStep.bind (hf b (List.mem_cons_self ..)) fun _ =>
      ih fun b' hb' => hf b' (List.mem_cons_of_mem _ hb')

lemma EachStep.failAt {m : Prog σ ℓ ε α} (h : EachStep R m) (n : ℕ) (e : ε) :
    EachStep R (m.failAt n e) := by
  induction m generalizing n with
  | ret a => cases n <;> trivial
  | fail e' => cases n <;> trivial
  | atom l w k ih =>
    cases n with
    | zero => trivial
    | succ n => exact fun s => ⟨(h s).1, ih s (h s).2 n⟩

lemma EachStep.withFault {m : Prog σ ℓ ε α} (h : EachStep R m) (fault : Option (ℕ × ε)) :
    EachStep R (m.withFault fault) := by
  cases fault with
  | none => exact h
  | some x => exact h.failAt x.1 x.2

lemma EachStep.mono {R' : ℓ → σ → σ → Prop} (hR : ∀ l s s', R l s s' → R' l s s')
    {m : Prog σ ℓ ε α} (h : EachStep R m) : EachStep R' m := by
  induction m with
  | ret a => trivial
  | fail e => trivial
  | atom l w k ih => exact fun s => ⟨hR _ _ _ (h s).1, ih s (h s).2⟩

/-- What every step keeps, the run keeps. -/
theorem EachStep.keeps {S : σ → σ → Prop} (hr : ∀ s, S s s) (ht : ∀ a b c, S a b → S b c → S a c)
    {m : Prog σ ℓ ε α} (h : EachStep (fun _ => S) m) : Keeps S m := by
  induction m with
  | ret a => exact hr
  | fail e => exact hr
  | atom l w k ih => exact fun s => ht _ _ _ (h s).1 (ih s (h s).2 (w s))

/-- What no step changes, the run does not change. -/
lemma EachStep.exec_eq {ν : Type} {v : σ → ν} {m : Prog σ ℓ ε α}
    (h : EachStep (fun _ s s' => v s' = v s) m) (s : σ) : v (m.exec s) = v s :=
  h.keeps (S := fun s s' => v s' = v s) (fun _ => rfl) (fun _ _ _ hab hbc => hbc.trans hab) s

/-- What a protocol allows in every phase and every state, every step of a program that follows
it does. -/
lemma EachStep.of_follows {φ : Type} {P : Protocol σ ℓ φ} (hrely : ∀ s, P.relies s)
    (hR : ∀ p l s s', P.allows p l s s' → R l s s') {p : φ} {m : Prog σ ℓ ε α}
    (h : P.Follows p m) : EachStep R m := by
  induction m generalizing p with
  | ret a => trivial
  | fail e => trivial
  | atom l w k ih => exact fun s => ⟨hR _ _ _ _ (h s (hrely s)).1, ih s (h s (hrely s)).2⟩

/-! ### How far a run has come -/

/-- The state after the first `n` steps of a run. -/
def after : ℕ → Prog σ ℓ ε α → σ → σ
  | _, ret _, s => s
  | _, fail _, s => s
  | 0, atom _ _ _, s => s
  | n + 1, atom _ w k, s => after n (k s) (w s)

@[simp] lemma after_zero (m : Prog σ ℓ ε α) (s : σ) : m.after 0 s = s := by
  cases m <;> rfl

@[simp] lemma after_pure (n : ℕ) (a : α) (s : σ) : (pure a : Prog σ ℓ ε α).after n s = s := by
  cases n <;> rfl

/-- A fault leaves behind what has been done before. -/
lemma exec_failAt (m : Prog σ ℓ ε α) (n : ℕ) (e : ε) (s : σ) :
    (m.failAt n e).exec s = m.after n s := by
  induction m generalizing n s with
  | ret a => cases n <;> rfl
  | fail e' => cases n <;> rfl
  | atom l w k ih =>
    cases n with
    | zero => rfl
    | succ n => exact ih s n (w s)

/-- A run that is not cut off has come to its end. -/
lemma exec_eq_after {m : Prog σ ℓ ε α} {n : ℕ} {s : σ} (h : m.steps s ≤ n) :
    m.exec s = m.after n s := by
  induction m generalizing n s with
  | ret a => cases n <;> rfl
  | fail e => cases n <;> rfl
  | atom l w k ih =>
    rw [steps_atom] at h
    obtain ⟨n, rfl⟩ : ∃ n', n = n' + 1 := ⟨n - 1, by omega⟩
    exact ih s (by omega)

/-- How far a run with a fault comes is what the fault leaves, or any number of steps from `k` on
that reaches the end. -/
lemma exists_exec_withFault (m : Prog σ ℓ ε α) (fault : Option (ℕ × ε)) (k : ℕ) (s : σ) :
    ∃ n, (m.withFault fault).exec s = m.after n s ∧
      (∀ x, fault = some x → n = x.1) ∧ (fault = none → k ≤ n) := by
  cases fault with
  | none =>
    refine ⟨k + m.steps s, exec_eq_after (m := m) (Nat.le_add_left _ _), fun x h => ?_,
      fun _ => Nat.le_add_right _ _⟩
    cases h
  | some x =>
    refine ⟨x.1, exec_failAt m x.1 x.2 s, fun y h => ?_, fun h => ?_⟩
    · cases h
      rfl
    · cases h

/-- A handler that answers at once has no steps. -/
lemma after_tryCatch_pure (m : Prog σ ℓ ε α) (f : ε → α) (n : ℕ) (s : σ) :
    (tryCatch m fun e => pure (f e)).after n s = m.after n s := by
  induction m generalizing n s with
  | ret a => rfl
  | fail e => cases n <;> rfl
  | atom l w k ih =>
    cases n with
    | zero => rfl
    | succ n => exact ih s n (w s)

/-- What no step changes is unchanged however far the run has come. -/
lemma EachStep.after_eq {ν : Type} {v : σ → ν} {m : Prog σ ℓ ε α}
    (h : EachStep (fun _ s s' => v s' = v s) m) (n : ℕ) (s : σ) : v (m.after n s) = v s := by
  induction m generalizing n s with
  | ret a => cases n <;> rfl
  | fail e => cases n <;> rfl
  | atom l w k ih =>
    cases n with
    | zero => rfl
    | succ n => exact (ih s (h s).2 n (w s)).trans (h s).1

/-- A second part that leaves something alone does not change it, however far the run has come. -/
lemma after_bind_of_eachStep {ν : Type} {v : σ → ν} (m : Prog σ ℓ ε α) {f : α → Prog σ ℓ ε β}
    (hf : ∀ a, EachStep (fun _ s s' => v s' = v s) (f a)) (n : ℕ) (s : σ) :
    v ((m >>= f).after n s) = v (m.after n s) := by
  induction m generalizing n s with
  | ret a =>
    have hsame : (ret a : Prog σ ℓ ε α).after n s = s := by cases n <;> rfl
    rw [hsame]
    exact (hf a).after_eq n s
  | fail e => cases n <;> rfl
  | atom l w k ih =>
    cases n with
    | zero => rfl
    | succ n => exact ih s n (w s)

/-! ### What holds at every moment of a run -/

/-- `Q` holds at every moment of the run from `s`. -/
def Throughout (Q : σ → Prop) : Prog σ ℓ ε α → σ → Prop
  | ret _, s => Q s
  | fail _, s => Q s
  | atom _ w k, s => Q s ∧ Throughout Q (k s) (w s)

section Throughout

variable {Q : σ → Prop} {m : Prog σ ℓ ε α} {s : σ}

lemma Throughout.start (h : m.Throughout Q s) : Q s := by
  cases m with
  | ret a => exact h
  | fail e => exact h
  | atom l w k => exact h.1

lemma Throughout.after (h : m.Throughout Q s) (n : ℕ) : Q (m.after n s) := by
  induction m generalizing n s with
  | ret a => cases n <;> exact h
  | fail e => cases n <;> exact h
  | atom l w k ih =>
    cases n with
    | zero => exact h.1
    | succ n => exact ih s h.2 n

/-- A run that is cut off ends at one of its moments. -/
lemma Throughout.exec_withFault (h : m.Throughout Q s) (fault : Option (ℕ × ε)) :
    Q ((m.withFault fault).exec s) := by
  obtain ⟨n, hn, -, -⟩ := exists_exec_withFault m fault 0 s
  rw [hn]
  exact h.after n

/-- The second part of a composition is run from where the first one ends. -/
lemma Throughout.bind {f : α → Prog σ ℓ ε β} (hm : m.Throughout Q s)
    (hf : ∀ a s', m.run s = (.ok a, s') → Q s' → (f a).Throughout Q s') :
    (m >>= f).Throughout Q s := by
  induction m generalizing s with
  | ret a => exact hf a s rfl hm
  | fail e => exact hm
  | atom l w k ih => exact ⟨hm.1, ih s hm.2 hf⟩

/-- What every step keeps holds at every moment. -/
lemma EachStep.throughout {S : σ → σ → Prop} (h : m.EachStep fun _ => S)
    (hQ : ∀ s s', S s s' → Q s → Q s') (hs : Q s) : m.Throughout Q s := by
  induction m generalizing s with
  | ret a => exact hs
  | fail e => exact hs
  | atom l w k ih => exact ⟨hs, ih s (h s).2 (hQ _ _ (h s).1 hs)⟩

end Throughout

/-! ### A last write -/

/-- Only the last step of the program writes. -/
def WritesLast : Prog σ ℓ ε α → Prop
  | ret _ => True
  | fail _ => True
  | atom _ w k => (∀ s, w s = s ∧ (k s).WritesLast) ∨ ∀ s t, (k s).steps t = 0

/-- A program of which only the last step writes has written nothing when it fails. -/
lemma WritesLast.exec_failAt {m : Prog σ ℓ ε α} (h : m.WritesLast) {n : ℕ} {s : σ}
    (hn : n < m.steps s) (e : ε) : (m.failAt n e).exec s = s := by
  induction m generalizing n s with
  | ret a => cases hn
  | fail e' => cases hn
  | atom l w k ih =>
    rw [steps_atom] at hn
    cases n with
    | zero => rfl
    | succ n =>
      rcases h with hreads | hlast
      · obtain ⟨hw, hk⟩ := hreads s
        have hrec := ih s hk (n := n) (s := w s) (by omega)
        exact hrec.trans hw
      · rw [hlast s (w s)] at hn
        omega

/-- Reads come before a last write. -/
lemma WritesLast.bind {m : Prog σ ℓ ε α} {f : α → Prog σ ℓ ε β}
    (hm : m.EachStep fun _ s s' => s' = s) (hf : ∀ a, (f a).WritesLast) :
    (m >>= f).WritesLast := by
  induction m with
  | ret a => exact hf a
  | fail e => trivial
  | atom l w k ih => exact .inl fun s => ⟨(hm s).1, ih s (hm s).2⟩

/-! ### Success -/

/-- From a state that satisfies `P` the program succeeds, and `Q` holds of what it returns. -/
def Total (P : σ → Prop) (m : Prog σ ℓ ε α) (Q : α → σ → Prop) : Prop :=
  ∀ s, P s → ∃ a s', m.run s = (.ok a, s') ∧ Q a s'

lemma Total.bind {P : σ → Prop} {Q : α → σ → Prop} {S : β → σ → Prop} {m : Prog σ ℓ ε α}
    {f : α → Prog σ ℓ ε β} (hm : Total P m Q) (hf : ∀ a, Total (Q a) (f a) S) :
    Total P (m >>= f) S := by
  intro s hs
  obtain ⟨a, s', hrun, ha⟩ := hm s hs
  obtain ⟨b, s'', hrun', hb⟩ := hf a s' ha
  exact ⟨b, s'', by rw [run_bind_ok hrun, hrun'], hb⟩

lemma Total.pure {P : σ → Prop} {Q : α → σ → Prop} {a : α} (h : ∀ s, P s → Q a s) :
    Total P (pure a : Prog σ ℓ ε α) Q :=
  fun s hs => ⟨a, s, rfl, h s hs⟩

end Prog

/-! ### Pools of programs that may fail -/

namespace Pool

variable {σ ℓ ε α κ φ : Type} {code : κ → Prog σ ℓ ε α} {P : κ → Protocol σ ℓ φ}
  {may : φ → Prop} {q : κ → Prop} {p : Pool σ ℓ ε α κ}

/-- Every call of the pool is as `q` says, keeps to its protocol and fails only where it may. -/
def Enduring (P : κ → Protocol σ ℓ φ) (may : φ → Prop) (q : κ → Prop) (p : Pool σ ℓ ε α κ) : Prop :=
  ∀ t ∈ p.threads, q t.call ∧ Prog.Endures (P t.call) may ((P t.call).phase t.done) t.rest

lemma Enduring.tracked (h : Enduring P may q p) (hfinal : ∀ c a, (P c).final a) : Tracked P p :=
  fun t ht => (h t ht).2.follows (hfinal t.call)

/-- A thread that has failed has done so where it may. -/
lemma Enduring.may_of_failed (h : Enduring P may q p) {t : Thread σ ℓ ε α κ} (ht : t ∈ p.threads)
    (hrest : t.rest.failed = true) : may ((P t.call).phase t.done) := by
  have hendures := (h t ht).2
  cases hprog : t.rest with
  | fail e => rwa [hprog] at hendures
  | ret a => rw [hprog] at hrest; cases hrest
  | atom l w k => rw [hprog] at hrest; cases hrest

variable (code) in
lemma Enduring.preserved (hcode : ∀ c, q c → Prog.Endures (P c) may (P c).init (code c))
    (h : Enduring P may q p) (hrely : ∀ c, (P c).relies p.shared) (e : Event κ)
    (he : ∀ c, e = .start c → q c) : Enduring P may q (p.step code e) := by
  have hcalls := forall_call_step code (fun t ht => (h t ht).1) he
  have hendures := forall_thread_step code
    (X := fun c done m => q c → Prog.Endures (P c) may ((P c).phase done) m) hcode
    (fun c done l w k hrest hc => by
      rw [Protocol.phase_concat]
      exact (hrest hc p.shared (hrely c)).2)
    (fun t ht _ => (h t ht).2) e
  exact fun t ht => ⟨hcalls t ht, hendures t ht (hcalls t ht)⟩

end Pool

end Lib
