/-
Interleavings of programs.

A pool is a shared state together with the programs that are working on it.  It moves in
two ways: a new call enters it, with its whole program still to do, or one of the
programs performs its next atomic action.  A list of such events is a schedule, and
every schedule is allowed, so that a property of all lists of events is a property of
every interleaving of any number of calls.

Reasoning about a pool needs to know, of each program, what its next action can do.
A `Protocol` says this in phases: which phase an action leads to and what it may do to
the shared state, as long as that state satisfies what the protocol relies on.
`Protocol.Follows` checks one program against it, alone and once; `Pool.Tracked.step` then
gives the step of the pool.
-/
import Asoju.Lib.Prog
import Asoju.Lib.Run
import Mathlib.Algebra.Ring.Nat
import Mathlib.Data.List.Basic

namespace Lib

/-- A program in a pool: the call it belongs to, the actions it has performed, each with
the state it was performed in, and what is left of it. -/
structure Thread (σ ℓ ε α κ : Type) where
  call : κ
  done : List (ℓ × σ)
  rest : Prog σ ℓ ε α

/-- A shared state and the programs working on it. -/
structure Pool (σ ℓ ε α κ : Type) where
  shared : σ
  threads : List (Thread σ ℓ ε α κ)

/-- What can happen to a pool: a call starts, or the program number `i` goes on. -/
inductive Event (κ : Type)
  | start (c : κ)
  | sched (i : ℕ)
deriving DecidableEq, Repr

variable {σ ℓ ε α κ φ : Type}

/-- The label of the next action of a program. -/
def Prog.next? : Prog σ ℓ ε α → Option ℓ
  | .ret _ => none
  | .fail _ => none
  | .atom l _ _ => some l

namespace Thread

/-- The thread has returned or failed. -/
def Finished (t : Thread σ ℓ ε α κ) : Prop := t.rest.next? = none

end Thread

namespace Pool

/-- One step of a pool in which the call `c` runs the program `code c`.  Scheduling a
program that is finished, or that is not there, changes nothing. -/
def step (code : κ → Prog σ ℓ ε α) (p : Pool σ ℓ ε α κ) : Event κ → Pool σ ℓ ε α κ
  | .start c => { p with threads := p.threads ++ [⟨c, [], code c⟩] }
  | .sched i =>
      match p.threads[i]? with
      | some ⟨c, done, .atom l w k⟩ =>
          { shared := w p.shared
            threads := p.threads.set i ⟨c, done ++ [(l, p.shared)], k p.shared⟩ }
      | _ => p

/-- Every program of the pool is finished. -/
def Quiet (p : Pool σ ℓ ε α κ) : Prop := ∀ t ∈ p.threads, t.Finished

instance quietDecidable [DecidableEq ℓ] (p : Pool σ ℓ ε α κ) : Decidable p.Quiet :=
  inferInstanceAs (Decidable (∀ t ∈ p.threads, t.rest.next? = none))

/-- A pool in which no call has started. -/
def idle (s : σ) : Pool σ ℓ ε α κ := ⟨s, []⟩

end Pool

/-! ### Protocols -/

/-- A protocol for programs: what it relies on of every state, the first phase, the phase an
action leads to, what an action may do to the shared state, and the phases in which a program
may end. -/
structure Protocol (σ ℓ φ : Type) where
  relies : σ → Prop
  init : φ
  next : φ → ℓ → σ → φ
  allows : φ → ℓ → σ → σ → Prop
  final : φ → Prop

namespace Protocol

variable (P : Protocol σ ℓ φ)

/-- The program keeps to the protocol from the phase `p` on, whatever states it meets that
satisfy what the protocol relies on. -/
def Follows : φ → Prog σ ℓ ε α → Prop
  | p, .ret _ => P.final p
  | p, .fail _ => P.final p
  | p, .atom l w k =>
      ∀ s, P.relies s → P.allows p l s (w s) ∧ Follows (P.next p l s) (k s)

/-- The first action of a composition: what it may do, and the rest from there. -/
lemma Follows.atom_bind {p : φ} {β : Type} {l : ℓ} {w : σ → σ} {k : σ → Prog σ ℓ ε β}
    {f : β → Prog σ ℓ ε α}
    (h : ∀ s, P.relies s → P.allows p l s (w s) ∧ P.Follows (P.next p l s) (k s >>= f)) :
    P.Follows p (Prog.atom l w k >>= f) := h

/-- A composition that begins with a look at the state. -/
lemma Follows.read_bind {p : φ} {β : Type} {l : ℓ} {v : σ → β} {f : β → Prog σ ℓ ε α}
    (h : ∀ s, P.relies s → P.allows p l s s ∧ P.Follows (P.next p l s) (f (v s))) :
    P.Follows p (Prog.read l v >>= f) := h

/-- A composition within a phase that no action leaves. -/
lemma Follows.bind {p : φ} (hstay : ∀ l s, P.next p l s = p) {β : Type} {m : Prog σ ℓ ε β}
    {f : β → Prog σ ℓ ε α} (hm : P.Follows p m) (hf : ∀ b, P.Follows p (f b))
    (hfinal : P.final p) : P.Follows p (m >>= f) := by
  induction m with
  | ret b => exact hf b
  | fail e => exact hfinal
  | atom l w k ih =>
    intro s hs
    obtain ⟨hallows, hrest⟩ := hm s hs
    rw [hstay] at hrest
    refine ⟨hallows, ?_⟩
    rw [hstay]
    exact ih s hrest

/-- The phase reached by a list of actions. -/
def phase (done : List (ℓ × σ)) : φ := done.foldl (fun p x => P.next p x.1 x.2) P.init

@[simp] lemma phase_nil : P.phase [] = P.init := rfl

@[simp] lemma phase_concat (done : List (ℓ × σ)) (l : ℓ) (s : σ) :
    P.phase (done ++ [(l, s)]) = P.next (P.phase done) l s := by
  simp [phase]

end Protocol

namespace Protocol

variable (P : Protocol σ ℓ φ)

/-- Whenever the program returns `a` right after the action `l`, performed in the phase `p`, the
two states that the action connects are related by `Q`. -/
def Reports (Q : φ → ℓ → σ → σ → α → Prop) : φ → Prog σ ℓ ε α → Prop
  | _, .ret _ => True
  | _, .fail _ => True
  | p, .atom l w k =>
      ∀ s, P.relies s → (∀ a, k s = .ret a → Q p l s (w s) a) ∧ Reports Q (P.next p l s) (k s)

/-- The program keeps to the protocol, and what it returns is as `Q` says. -/
def Governs (Q : φ → ℓ → σ → σ → α → Prop) (p : φ) (m : Prog σ ℓ ε α) : Prop :=
  P.Follows p m ∧ P.Reports Q p m

variable {P}

lemma Governs.fail {Q : φ → ℓ → σ → σ → α → Prop} {p : φ} (h : P.final p) (e : ε) :
    P.Governs Q p (.fail e : Prog σ ℓ ε α) := ⟨h, trivial⟩

lemma Governs.ret {Q : φ → ℓ → σ → σ → α → Prop} {p : φ} (h : P.final p) (a : α) :
    P.Governs Q p (.ret a : Prog σ ℓ ε α) := ⟨h, trivial⟩

lemma Governs.atom {Q : φ → ℓ → σ → σ → α → Prop} {p : φ} {l : ℓ} {w : σ → σ}
    {k : σ → Prog σ ℓ ε α}
    (h : ∀ s, P.relies s → P.allows p l s (w s) ∧ (∀ a, k s = .ret a → Q p l s (w s) a) ∧
      P.Governs Q (P.next p l s) (k s)) : P.Governs Q p (.atom l w k) :=
  ⟨fun s hs => ⟨(h s hs).1, (h s hs).2.2.1⟩, fun s hs => ⟨(h s hs).2.1, (h s hs).2.2.2⟩⟩

variable (P) in
/-- The program keeps to the protocol, and it has not returned yet. -/
def Underway (Q : φ → ℓ → σ → σ → α → Prop) (p : φ) (m : Prog σ ℓ ε α) : Prop :=
  P.Governs Q p m ∧ ∀ a, m ≠ .ret a

lemma Underway.fail {Q : φ → ℓ → σ → σ → α → Prop} {p : φ} (h : P.final p) (e : ε) :
    P.Underway Q p (.fail e : Prog σ ℓ ε α) :=
  ⟨.fail h e, fun _ h => by cases h⟩

/-- An action after which the program has not returned either. -/
lemma Underway.atom {Q : φ → ℓ → σ → σ → α → Prop} {p : φ} {l : ℓ} {w : σ → σ}
    {k : σ → Prog σ ℓ ε α}
    (h : ∀ s, P.relies s → P.allows p l s (w s) ∧ P.Underway Q (P.next p l s) (k s)) :
    P.Underway Q p (.atom l w k) :=
  ⟨.atom fun s hs => ⟨(h s hs).1, fun a ha => absurd ha ((h s hs).2.2 a), (h s hs).2.1⟩,
    fun _ h => by cases h⟩

/-- A look at the state. -/
lemma Underway.read_bind {Q : φ → ℓ → σ → σ → α → Prop} {p : φ} {β : Type} {l : ℓ} {v : σ → β}
    {f : β → Prog σ ℓ ε α}
    (h : ∀ s, P.relies s → P.allows p l s s ∧ P.Underway Q (P.next p l s) (f (v s))) :
    P.Underway Q p (Prog.read l v >>= f) :=
  Underway.atom h

end Protocol

namespace Pool

variable (code : κ → Prog σ ℓ ε α) (P : κ → Protocol σ ℓ φ)

/-- Every program of the pool keeps to the protocol of its call. -/
def Tracked (p : Pool σ ℓ ε α κ) : Prop :=
  ∀ t ∈ p.threads, (P t.call).Follows ((P t.call).phase t.done) t.rest

lemma tracked_idle (s : σ) : Tracked P (idle s : Pool σ ℓ ε α κ) := by
  intro t ht
  exact absurd ht List.not_mem_nil

variable {P}

/-- **What a step of a tracked pool can be.**  Nothing, when the program that is scheduled is
finished or not there; the start of a call; or one action that the protocol allows to the
thread that performs it. -/
theorem Tracked.step {p : Pool σ ℓ ε α κ} (h : Tracked P p)
    (hrely : ∀ c, (P c).relies p.shared) (e : Event κ) :
    (∃ i, e = .sched i ∧ (∀ t, p.threads[i]? = some t → t.Finished) ∧ p.step code e = p) ∨
    (∃ c, e = .start c ∧
      p.step code e = { p with threads := p.threads ++ [⟨c, [], code c⟩] }) ∨
    (∃ i t l w k, e = .sched i ∧ p.threads[i]? = some t ∧ t.rest = .atom l w k ∧
      (P t.call).allows ((P t.call).phase t.done) l p.shared (w p.shared) ∧
      p.step code e =
        ⟨w p.shared, p.threads.set i ⟨t.call, t.done ++ [(l, p.shared)], k p.shared⟩⟩) := by
  cases e with
  | start c => exact Or.inr (Or.inl ⟨c, rfl, rfl⟩)
  | sched i =>
    rcases hi : p.threads[i]? with _ | ⟨c, done, rest⟩
    · refine Or.inl ⟨i, rfl, fun t ht => ?_, by simp [Pool.step, hi]⟩
      rw [hi] at ht
      cases ht
    · -- A thread that is finished is the one that was scheduled.
      have hthread : ∀ t, p.threads[i]? = some t → t = ⟨c, done, rest⟩ := fun t ht =>
        Option.some.inj (ht.symm.trans hi)
      cases rest with
      | ret a =>
        exact Or.inl ⟨i, rfl, fun t ht => by rw [hthread t ht]; rfl, by simp [Pool.step, hi]⟩
      | fail e =>
        exact Or.inl ⟨i, rfl, fun t ht => by rw [hthread t ht]; rfl, by simp [Pool.step, hi]⟩
      | atom l w k =>
        refine Or.inr (Or.inr ⟨i, ⟨c, done, .atom l w k⟩, l, w, k, rfl, hi, rfl, ?_, ?_⟩)
        · exact (h _ (List.mem_of_getElem? hi) p.shared (hrely c)).1
        · simp [Pool.step, hi]

/-- What is known of a program from its call and from what it has performed is known after a
step, if an action hands it on to the rest of the program. -/
lemma forall_thread_step {X : κ → List (ℓ × σ) → Prog σ ℓ ε α → Prop}
    (hcode : ∀ c, X c [] (code c)) {p : Pool σ ℓ ε α κ}
    (hX : ∀ c done l w k, X c done (.atom l w k) → X c (done ++ [(l, p.shared)]) (k p.shared))
    (h : ∀ t ∈ p.threads, X t.call t.done t.rest) (e : Event κ) :
    ∀ t ∈ (p.step code e).threads, X t.call t.done t.rest := by
  cases e with
  | start c =>
    intro t ht
    rcases List.mem_append.mp ht with ht | ht
    · exact h t ht
    · rw [List.mem_singleton.mp ht]
      exact hcode c
  | sched i =>
    rcases hi : p.threads[i]? with _ | ⟨c, done, rest⟩
    · simpa [Pool.step, hi] using h
    · have hthread : X c done rest := h _ (List.mem_of_getElem? hi)
      cases rest with
      | ret a => simpa [Pool.step, hi] using h
      | fail e => simpa [Pool.step, hi] using h
      | atom l w k =>
        simp only [Pool.step, hi]
        intro t ht
        rcases List.mem_or_eq_of_mem_set ht with ht | rfl
        · exact h t ht
        · exact hX c done l w k hthread

/-- A pool stays tracked when every call runs a program that follows its protocol. -/
lemma Tracked.preserved (hcode : ∀ c, (P c).Follows (P c).init (code c))
    {p : Pool σ ℓ ε α κ} (h : Tracked P p) (hrely : ∀ c, (P c).relies p.shared)
    (e : Event κ) : Tracked P (p.step code e) := by
  refine forall_thread_step code (X := fun c done m => (P c).Follows ((P c).phase done) m)
    hcode (fun c done l w k hfollows => ?_) h e
  rw [Protocol.phase_concat]
  exact (hfollows p.shared (hrely c)).2

/-- What the programs of the pool will return is as `Q` says. -/
def Reporting (Q : κ → φ → ℓ → σ → σ → α → Prop) (p : Pool σ ℓ ε α κ) : Prop :=
  ∀ t ∈ p.threads, (P t.call).Reports (Q t.call) ((P t.call).phase t.done) t.rest

variable {code} in
lemma Reporting.preserved {Q : κ → φ → ℓ → σ → σ → α → Prop}
    (hcode : ∀ c, (P c).Reports (Q c) (P c).init (code c)) {p : Pool σ ℓ ε α κ}
    (h : Reporting (P := P) Q p) (hrely : ∀ c, (P c).relies p.shared) (e : Event κ) :
    Reporting (P := P) Q (p.step code e) := by
  refine forall_thread_step code (X := fun c done m => (P c).Reports (Q c) ((P c).phase done) m)
    hcode (fun c done l w k hreports => ?_) h e
  rw [Protocol.phase_concat]
  exact (hreports p.shared (hrely c)).2

/-- A thread that is finished has ended in a phase that allows it. -/
lemma Tracked.final {p : Pool σ ℓ ε α κ} (h : Tracked P p) {t : Thread σ ℓ ε α κ}
    (ht : t ∈ p.threads) (hfinished : t.Finished) :
    (P t.call).final ((P t.call).phase t.done) := by
  have hfollows := h t ht
  rw [Thread.Finished] at hfinished
  cases hrest : t.rest with
  | ret a => rwa [hrest] at hfollows
  | fail e => rwa [hrest] at hfollows
  | atom l w k => rw [hrest] at hfinished; cases hfinished

/-- What holds of every call of a pool holds after a step, if it holds of a call that starts. -/
lemma forall_call_step {q : κ → Prop} {p : Pool σ ℓ ε α κ} (h : ∀ t ∈ p.threads, q t.call)
    {e : Event κ} (he : ∀ c, e = .start c → q c) : ∀ t ∈ (p.step code e).threads, q t.call := by
  cases e with
  | start c =>
    intro t ht
    rcases List.mem_append.mp ht with ht | ht
    · exact h t ht
    · rw [List.mem_singleton.mp ht]
      exact he c rfl
  | sched i =>
    rcases hi : p.threads[i]? with _ | ⟨c, done, rest⟩
    · simpa [Pool.step, hi] using h
    · have hc : q c := h _ (List.mem_of_getElem? hi)
      cases rest with
      | ret a => simpa [Pool.step, hi] using h
      | fail e => simpa [Pool.step, hi] using h
      | atom l w k =>
        simp only [Pool.step, hi]
        intro t ht
        rcases List.mem_or_eq_of_mem_set ht with ht | rfl
        · exact h t ht
        · exact hc

/-- A program that has performed nothing is the whole program of its call. -/
def Unstarted (p : Pool σ ℓ ε α κ) : Prop :=
  ∀ t ∈ p.threads, t.done = [] → t.rest = code t.call

lemma Unstarted.preserved {p : Pool σ ℓ ε α κ} (h : Unstarted code p) (e : Event κ) :
    Unstarted code (p.step code e) :=
  forall_thread_step code (X := fun c done m => done = [] → m = code c) (fun _ _ => rfl)
    (fun _ _ _ _ _ _ hnil => absurd hnil (List.append_ne_nil_of_right_ne_nil _ (by simp))) h e

/-- The threads of a pool one of which has moved on: the new one, or one of the others. -/
lemma getElem?_set_cases {ts : List (Thread σ ℓ ε α κ)} {i j : ℕ} {t u : Thread σ ℓ ε α κ}
    (h : (ts.set i t)[j]? = some u) : (j = i ∧ u = t) ∨ (j ≠ i ∧ ts[j]? = some u) := by
  rw [List.getElem?_set] at h
  by_cases hij : i = j
  · rw [if_pos hij] at h
    split_ifs at h
    exact Or.inl ⟨hij.symm, (Option.some.inj h).symm⟩
  · rw [if_neg hij] at h
    exact Or.inr ⟨Ne.symm hij, h⟩

/-- The threads of a pool in which a call has started: one of the old ones, or the new one. -/
lemma getElem?_concat_cases {ts : List (Thread σ ℓ ε α κ)} {j : ℕ} {t u : Thread σ ℓ ε α κ}
    (h : (ts ++ [t])[j]? = some u) : ts[j]? = some u ∨ (j = ts.length ∧ u = t) := by
  rcases Nat.lt_trichotomy j ts.length with hj | rfl | hj
  · rw [List.getElem?_append_left hj] at h
    exact Or.inl h
  · rw [List.getElem?_concat_length] at h
    exact Or.inr ⟨rfl, (Option.some.inj h).symm⟩
  · rw [List.getElem?_eq_none (by simp; omega)] at h
    cases h

/-- How counting the threads with a property changes when one of them moves on. -/
lemma countP_set {ts : List (Thread σ ℓ ε α κ)} {i : ℕ} {t : Thread σ ℓ ε α κ}
    (hi : ts[i]? = some t) (q : Thread σ ℓ ε α κ → Bool) (t' : Thread σ ℓ ε α κ) :
    (ts.set i t').countP q + (if q t then 1 else 0) =
      ts.countP q + (if q t' then 1 else 0) := by
  obtain ⟨hlt, rfl⟩ := List.getElem?_eq_some_iff.mp hi
  have hle : (if q ts[i] then 1 else 0) ≤ ts.countP q := by
    split_ifs with hq
    · exact List.countP_pos_iff.mpr ⟨ts[i], List.getElem_mem hlt, hq⟩
    · exact Nat.zero_le _
  rw [List.countP_set hlt]
  omega

/-- How a sum over the threads changes when one of them moves on. -/
lemma sum_map_set {ts : List (Thread σ ℓ ε α κ)} {i : ℕ} {t : Thread σ ℓ ε α κ}
    (hi : ts[i]? = some t) (f : Thread σ ℓ ε α κ → ℕ) (t' : Thread σ ℓ ε α κ) :
    ((ts.set i t').map f).sum + f t = (ts.map f).sum + f t' := by
  induction ts generalizing i with
  | nil => cases hi
  | cons u ts ih =>
    cases i with
    | zero =>
      obtain rfl : u = t := Option.some.inj hi
      simp only [List.set_cons_zero, List.map_cons, List.sum_cons]
      omega
    | succ i =>
      have hrec := ih (i := i) (by simpa using hi)
      simp only [List.set_cons_succ, List.map_cons, List.sum_cons]
      omega

/-! ### The past of a pool -/

/-- Every state that a thread has acted in is related to the present one. -/
def Seen (R : σ → σ → Prop) (p : Pool σ ℓ ε α κ) : Prop :=
  ∀ t ∈ p.threads, ∀ x ∈ t.done, R x.2 p.shared

lemma seen_idle (R : σ → σ → Prop) (s : σ) : Seen R (idle s : Pool σ ℓ ε α κ) := by
  intro t ht
  exact absurd ht List.not_mem_nil

/-- **The past stays related to the present** when every step relates the two states that it
connects by a transitive relation. -/
theorem Seen.preserved {R : σ → σ → Prop}
    (ht : ∀ a b c, R a b → R b c → R a c) {p : Pool σ ℓ ε α κ} (h : Seen R p) (e : Event κ)
    (hR : R p.shared (p.step code e).shared) : Seen R (p.step code e) := by
  cases e with
  | start c =>
    intro t hmem x hx
    rcases List.mem_append.mp hmem with hmem | hmem
    · exact h t hmem x hx
    · rw [List.mem_singleton.mp hmem] at hx
      exact absurd hx List.not_mem_nil
  | sched i =>
    rcases hi : p.threads[i]? with _ | ⟨c, done, rest⟩
    · simpa [Pool.step, hi] using h
    · have hold : ∀ x ∈ done, R x.2 p.shared := h _ (List.mem_of_getElem? hi)
      cases rest with
      | ret a => simpa [Pool.step, hi] using h
      | fail e => simpa [Pool.step, hi] using h
      | atom l w k =>
        simp only [Pool.step, hi] at hR ⊢
        intro t hmem x hx
        rcases List.mem_or_eq_of_mem_set hmem with hmem | rfl
        · exact ht _ _ _ (h t hmem x hx) hR
        · rcases List.mem_append.mp hx with hx | hx
          · exact ht _ _ _ (hold x hx) hR
          · rw [List.mem_singleton.mp hx]
            exact hR

end Pool

end Lib
