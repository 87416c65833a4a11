/-
Rely and guarantee, for pools of programs.

The programs of a pool share a state that develops in one direction: what is logged stays logged,
what is stored stays stored.  An invariant `I` holds of every state, and a relation `R`, reflexive
and transitive, leads from every state to those that may follow.  `Prog.Upholds` says of one program
that each of its actions keeps the invariant and goes along the relation, and that its outcome is as
`Q` says, whatever the others do meanwhile, as long as they do the same.  What a program has learnt
of an earlier state it may use only as far as the relation hands it on.

`Pool.upheld` is the rule: if every program upholds its part alone, all of them do together.
-/
import Asoju.Lib.Faults

namespace Lib

variable {σ ℓ ε α β κ : Type}

/-! ### One program -/

namespace Prog

/-- The program keeps the invariant and goes along `R` when it starts in a state as `K` says and
the state develops along `R` between its actions.  Whenever it ends, its outcome is as `Q` says. -/
def Upholds (I : σ → Prop) (R : σ → σ → Prop) (Q : Except ε α → σ → Prop) :
    (σ → Prop) → Prog σ ℓ ε α → Prop
  | K, .ret a => ∀ s, I s → K s → Q (.ok a) s
  | K, .fail e => ∀ s, I s → K s → Q (.error e) s
  | K, .atom _ w k => ∀ s, I s → K s → (I (w s) ∧ R s (w s)) ∧ Upholds I R Q (R (w s)) (k s)

variable {I : σ → Prop} {R : σ → σ → Prop} {K K' : σ → Prop}

/-- Who knows more can do the same. -/
lemma Upholds.weaken {Q : Except ε α → σ → Prop} {m : Prog σ ℓ ε α} (h : m.Upholds I R Q K)
    (hK : ∀ s, I s → K' s → K s) : m.Upholds I R Q K' := by
  cases m with
  | ret a => exact fun s hI hs => h s hI (hK s hI hs)
  | fail e => exact fun s hI hs => h s hI (hK s hI hs)
  | atom l w k => exact fun s hI hs => h s hI (hK s hI hs)

/-- A program may rely on something that is only known to exist. -/
lemma Upholds.of_exists {ι : Type} {P : ι → σ → Prop} {Q : Except ε α → σ → Prop}
    {m : Prog σ ℓ ε α} (h : ∀ x, m.Upholds I R Q (P x)) : m.Upholds I R Q fun s => ∃ x, P x s := by
  cases m with
  | ret a => exact fun s hI ⟨x, hx⟩ => h x s hI hx
  | fail e => exact fun s hI ⟨x, hx⟩ => h x s hI hx
  | atom l w k => exact fun s hI ⟨x, hx⟩ => h x s hI hx

/-- What is never run does no harm. -/
lemma Upholds.of_not {Q : Except ε α → σ → Prop} {m : Prog σ ℓ ε α} (h : ∀ s, ¬ K s) :
    m.Upholds I R Q K := by
  cases m with
  | ret a => exact fun s _ hs => absurd hs (h s)
  | fail e => exact fun s _ hs => absurd hs (h s)
  | atom l w k => exact fun s _ hs => absurd hs (h s)

/-- Less may be said of the outcome. -/
lemma Upholds.conseq {Q Q' : Except ε α → σ → Prop} {m : Prog σ ℓ ε α} (h : m.Upholds I R Q K)
    (hQ : ∀ r s, I s → Q r s → Q' r s) : m.Upholds I R Q' K := by
  induction m generalizing K with
  | ret a => exact fun s hI hs => hQ _ s hI (h s hI hs)
  | fail e => exact fun s hI hs => hQ _ s hI (h s hI hs)
  | atom l w k ih => exact fun s hI hs => ⟨(h s hI hs).1, ih s (h s hI hs).2⟩

/-- The rule of composition: the second part starts with what is said of the outcome of the
first. -/
lemma Upholds.bind {Q : Except ε α → σ → Prop} {Qm : Except ε β → σ → Prop} {m : Prog σ ℓ ε β}
    {f : β → Prog σ ℓ ε α} (hm : m.Upholds I R Qm K)
    (hok : ∀ b, (f b).Upholds I R Q (Qm (.ok b)))
    (herror : ∀ e s, I s → Qm (.error e) s → Q (.error e) s) : (m >>= f).Upholds I R Q K := by
  induction m generalizing K with
  | ret b => exact (hok b).weaken hm
  | fail e => exact fun s hI hs => herror e s hI (hm s hI hs)
  | atom l w k ih => exact fun s hI hs => ⟨(hm s hI hs).1, ih s (hm s hI hs).2⟩

/-- A program whose actions all keep the invariant and go along `R` hands on what it starts with. -/
lemma Upholds.of_eachStep {m : Prog σ ℓ ε α} (hK : ∀ s s', K s → R s s' → K s')
    (hm : m.EachStep fun _ s s' => I s → I s' ∧ R s s') :
    m.Upholds I R (fun _ s => K s) K := by
  suffices h : ∀ K' : σ → Prop, (∀ s, K' s → K s) → m.Upholds I R (fun _ s => K s) K' from
    h K fun _ hs => hs
  induction m with
  | ret a => exact fun K' hK' s _ hs => hK' s hs
  | fail e => exact fun K' hK' s _ hs => hK' s hs
  | atom l w k ih =>
    exact fun K' hK' s hI hs => ⟨(hm s).1 hI, ih s (hm s).2 _ fun s' hR =>
      hK _ _ (hK _ _ (hK' s hs) ((hm s).1 hI).2) hR⟩

/-- Whatever the program returns is as `φ` says, in whatever states its actions are taken. -/
def Yields (φ : α → Prop) : Prog σ ℓ ε α → Prop
  | .ret a => φ a
  | .fail _ => True
  | .atom _ _ k => ∀ s, Yields φ (k s)

lemma Upholds.and_yields {Q : Except ε α → σ → Prop} {φ : α → Prop} {m : Prog σ ℓ ε α}
    (h : m.Upholds I R Q K) (hm : m.Yields φ) :
    m.Upholds I R (fun r s => Q r s ∧ ∀ a, r = .ok a → φ a) K := by
  induction m generalizing K with
  | ret a =>
    refine fun s hI hs => ⟨h s hI hs, fun b hb => ?_⟩
    cases hb
    exact hm
  | fail e => exact fun s hI hs => ⟨h s hI hs, fun a ha => nomatch ha⟩
  | atom l w k ih => exact fun s hI hs => ⟨(h s hI hs).1, ih s (h s hI hs).2 (hm s)⟩

/-- A program that is cut off has done its part so far. -/
lemma Upholds.withFault {Q : Except ε α → σ → Prop} {m : Prog σ ℓ ε α}
    (h : m.Upholds I R Q K) (herror : ∀ e s, Q (.error e) s) (fault : Option (ℕ × ε)) :
    (m.withFault fault).Upholds I R Q K := by
  rcases fault with _ | ⟨n, e⟩
  · exact h
  · show (m.failAt n e).Upholds I R Q K
    induction m generalizing n K with
    | ret a => cases n <;> exact h
    | fail e' => cases n <;> exact h
    | atom l w k ih =>
      cases n with
      | zero => exact fun s _ _ => herror e s
      | succ n => exact fun s hI hs => ⟨(h s hI hs).1, ih s (h s hI hs).2 n⟩

/-- A look at the state, of which the program then knows what the relation hands on. -/
lemma Upholds.read_bind (hrefl : ∀ s, R s s) {Q : Except ε α → σ → Prop} {l : ℓ} {v : σ → β}
    {f : β → Prog σ ℓ ε α} (h : ∀ s, I s → K s → (f (v s)).Upholds I R Q (R s)) :
    (Prog.read l v >>= f).Upholds I R Q K :=
  fun s hI hs => ⟨⟨hI, hrefl s⟩, h s hI hs⟩

end Prog

/-! ### Pools -/

namespace Pool

variable (I : σ → Prop) (R : σ → σ → Prop) (Q : κ → Except ε α → σ → Prop)

/-- The invariant holds, and what is left of each program upholds its part, with a knowledge that
the others do not take away. -/
def Upheld (p : Pool σ ℓ ε α κ) : Prop :=
  I p.shared ∧ ∀ t ∈ p.threads, ∃ K : σ → Prop, (∀ s s', K s → R s s' → K s') ∧ K p.shared ∧
    t.rest.Upholds I R (Q t.call) K

variable {I R Q} {code : κ → Prog σ ℓ ε α}

lemma Upheld.step (hrefl : ∀ s, R s s) (htrans : ∀ a b c, R a b → R b c → R a c)
    {p : Pool σ ℓ ε α κ} (hp : Upheld I R Q p) (e : Event κ)
    (hcode : ∀ c, e = .start c → (code c).Upholds I R (Q c) fun _ => True) :
    Upheld I R Q (p.step code e) ∧ R p.shared (p.step code e).shared := by
  obtain ⟨hI, hthreads⟩ := hp
  cases e with
  | start c =>
    refine ⟨⟨hI, fun t ht => ?_⟩, hrefl _⟩
    rcases List.mem_append.mp ht with ht | ht
    · exact hthreads t ht
    · rw [List.mem_singleton.mp ht]
      exact ⟨fun _ => True, fun _ _ _ _ => trivial, trivial, hcode c rfl⟩
  | sched i =>
    rcases hi : p.threads[i]? with _ | ⟨c, done, rest⟩
    · simpa [Pool.step, hi] using ⟨⟨hI, hthreads⟩, hrefl p.shared⟩
    · cases rest with
      | ret a => simpa [Pool.step, hi] using ⟨⟨hI, hthreads⟩, hrefl p.shared⟩
      | fail e => simpa [Pool.step, hi] using ⟨⟨hI, hthreads⟩, hrefl p.shared⟩
      | atom l w k =>
        obtain ⟨K, -, hK, hrest⟩ := hthreads _ (List.mem_of_getElem? hi)
        obtain ⟨⟨hI', hR⟩, hrest'⟩ := hrest p.shared hI hK
        simp only [Pool.step, hi]
        refine ⟨⟨hI', fun t ht => ?_⟩, hR⟩
        rcases List.mem_or_eq_of_mem_set ht with ht | rfl
        · -- What the others know is handed on.
          obtain ⟨K', hstable, hK', hrest''⟩ := hthreads t ht
          exact ⟨K', hstable, hstable _ _ hK' hR, hrest''⟩
        · exact ⟨R (w p.shared), htrans _, hrefl _, hrest'⟩

/-- **The rule of rely and guarantee.**  If every program that a run starts upholds its part alone,
the invariant holds after the run, the run has gone along the relation, and so does what is left. -/
theorem upheld (hrefl : ∀ s, R s s) (htrans : ∀ a b c, R a b → R b c → R a c) {s : σ} (hs : I s)
    (es : List (Event κ))
    (hcode : ∀ c, .start c ∈ es → (code c).Upholds I R (Q c) fun _ => True) :
    Upheld I R Q (runFrom (step code) (idle s) es) ∧
      R s (runFrom (step code) (idle s) es).shared := by
  induction es using List.reverseRecOn with
  | nil => exact ⟨⟨hs, fun t ht => absurd ht List.not_mem_nil⟩, hrefl s⟩
  | append_singleton es e ih =>
    rw [runFrom_append]
    obtain ⟨hp, hR⟩ := ih fun c hc => hcode c (List.mem_append_left _ hc)
    obtain ⟨hp', hR'⟩ := hp.step hrefl htrans e fun c hc =>
      hcode c (List.mem_append_right _ (hc ▸ List.mem_singleton_self e))
    exact ⟨hp', htrans _ _ _ hR hR'⟩

/-- What a program has returned is as it says, also in the present state. -/
lemma Upheld.returned {p : Pool σ ℓ ε α κ} (hp : Upheld I R Q p) {t : Thread σ ℓ ε α κ}
    (ht : t ∈ p.threads) {a : α} (ha : t.rest = .ret a) : Q t.call (.ok a) p.shared := by
  obtain ⟨hI, hthreads⟩ := hp
  obtain ⟨K, -, hK, hrest⟩ := hthreads t ht
  rw [ha] at hrest
  exact hrest p.shared hI hK

/-- What a program has failed with is as it says, also in the present state. -/
lemma Upheld.failed {p : Pool σ ℓ ε α κ} (hp : Upheld I R Q p) {t : Thread σ ℓ ε α κ}
    (ht : t ∈ p.threads) {e : ε} (he : t.rest = .fail e) : Q t.call (.error e) p.shared := by
  obtain ⟨hI, hthreads⟩ := hp
  obtain ⟨K, -, hK, hrest⟩ := hthreads t ht
  rw [he] at hrest
  exact hrest p.shared hI hK

end Pool

end Lib
