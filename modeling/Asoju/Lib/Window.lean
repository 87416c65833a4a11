/-
The window between a look and the act it leads to.

A program that looks at the shared state and acts on what it has seen is exposed in between: it is
inside a window.  Where nobody enters the window while somebody is inside, at most one program is
(`AtMostOne`).  `Ends` says what is known of the result of a program from the phase it ends in.
-/
import Asoju.Lib.Faults

namespace Lib

variable {σ ℓ ε α κ φ : Type}

namespace Protocol

variable (P : Protocol σ ℓ φ)

/-- Wherever the program ends, its result is as `Q` says of the phase it ends in. -/
def Ends (Q : φ → Except ε α → Prop) : φ → Prog σ ℓ ε α → Prop
  | p, .ret a => Q p (.ok a)
  | p, .fail e => Q p (.error e)
  | p, .atom l _ k => ∀ s, P.relies s → Ends Q (P.next p l s) (k s)

/-- The program keeps to the protocol, and its result is as `Q` says. -/
def Leads (Q : φ → Except ε α → Prop) (p : φ) (m : Prog σ ℓ ε α) : Prop :=
  P.Follows p m ∧ P.Ends Q p m

variable {P} {Q : φ → Except ε α → Prop} {p : φ}

lemma Leads.ret {a : α} (hfinal : P.final p) (h : Q p (.ok a)) :
    P.Leads Q p (.ret a : Prog σ ℓ ε α) := ⟨hfinal, h⟩

lemma Leads.fail {e : ε} (hfinal : P.final p) (h : Q p (.error e)) :
    P.Leads Q p (.fail e : Prog σ ℓ ε α) := ⟨hfinal, h⟩

lemma Leads.atom {l : ℓ} {w : σ → σ} {k : σ → Prog σ ℓ ε α}
    (h : ∀ s, P.relies s → P.allows p l s (w s) ∧ P.Leads Q (P.next p l s) (k s)) :
    P.Leads Q p (.atom l w k) :=
  ⟨fun s hs => ⟨(h s hs).1, (h s hs).2.1⟩, fun s hs => (h s hs).2.2⟩

/-- The first action of a composition, and the rest from there. -/
lemma Leads.atom_bind {β : Type} {l : ℓ} {w : σ → σ} {k : σ → Prog σ ℓ ε β}
    {f : β → Prog σ ℓ ε α}
    (h : ∀ s, P.relies s → P.allows p l s (w s) ∧ P.Leads Q (P.next p l s) (k s >>= f)) :
    P.Leads Q p (Prog.atom l w k >>= f) := Leads.atom h

/-- The rule of composition: the second part goes on in the phase in which the first one ends. -/
lemma Leads.bind {β : Type} {S : φ → Except ε β → Prop} {m : Prog σ ℓ ε β}
    {f : β → Prog σ ℓ ε α} (hm : P.Leads S p m)
    (hfail : ∀ p e, S p (.error e) → Q p (.error e))
    (hf : ∀ p b, S p (.ok b) → P.Leads Q p (f b)) : P.Leads Q p (m >>= f) := by
  induction m generalizing p with
  | ret b => exact hf p b hm.2
  | fail e => exact .fail hm.1 (hfail p e hm.2)
  | atom l w k ih =>
    exact Leads.atom fun s hs => ⟨(hm.1 s hs).1, ih s ⟨(hm.1 s hs).2, hm.2 s hs⟩⟩

/-- A program all of whose steps belong to a phase that it does not leave. -/
lemma Leads.of_eachStep {R : ℓ → σ → σ → Prop} {m : Prog σ ℓ ε α} (hm : m.EachStep R)
    (hR : ∀ l s s', R l s s' → P.allows p l s s' ∧ P.next p l s = p) (hfinal : P.final p)
    (hQ : ∀ r, Q p r) : P.Leads Q p m := by
  induction m with
  | ret b => exact .ret hfinal (hQ _)
  | fail e => exact .fail hfinal (hQ _)
  | atom l w k ih =>
    refine Leads.atom fun s _ => ?_
    obtain ⟨hallows, hnext⟩ := hR _ _ _ (hm s).1
    exact ⟨hallows, hnext.symm ▸ ih s (hm s).2⟩

/-- What every step of a program does within a phase that it does not leave, it may do first. -/
lemma Leads.bind_eachStep {β : Type} {R : ℓ → σ → σ → Prop} {m : Prog σ ℓ ε β}
    {f : β → Prog σ ℓ ε α} (hm : m.EachStep R)
    (hR : ∀ l s s', R l s s' → P.allows p l s s' ∧ P.next p l s = p) (hfinal : P.final p)
    (hfail : ∀ e, Q p (.error e)) (hf : ∀ b, P.Leads Q p (f b)) : P.Leads Q p (m >>= f) := by
  induction m with
  | ret b => exact hf b
  | fail e => exact .fail hfinal (hfail e)
  | atom l w k ih =>
    refine Leads.atom fun s _ => ?_
    obtain ⟨hallows, hnext⟩ := hR _ _ _ (hm s).1
    exact ⟨hallows, hnext.symm ▸ ih s (hm s).2⟩

/-- The rule of handlers: a handler goes on in the phase in which the program fails. -/
lemma Leads.tryCatch {m : Prog σ ℓ ε α} {g : ε → Prog σ ℓ ε α} {S : φ → Except ε α → Prop}
    (hm : P.Leads S p m) (hok : ∀ p a, S p (.ok a) → Q p (.ok a))
    (herror : ∀ p e, P.final p → S p (.error e) → P.Leads Q p (g e)) :
    P.Leads Q p (MonadExcept.tryCatch m g) := by
  induction m generalizing p with
  | ret a => exact .ret hm.1 (hok _ _ hm.2)
  | fail e => exact herror _ _ hm.1 hm.2
  | atom l w k ih =>
    exact Leads.atom fun s hs => ⟨(hm.1 s hs).1, ih s ⟨(hm.1 s hs).2, hm.2 s hs⟩⟩

/-- A handler that answers at once. -/
lemma Leads.tryCatch_pure {m : Prog σ ℓ ε α} {h : ε → α} {S : φ → Except ε α → Prop}
    (hm : P.Leads S p m) (hok : ∀ p a, S p (.ok a) → Q p (.ok a))
    (herror : ∀ p e, S p (.error e) → Q p (.ok (h e))) :
    P.Leads Q p (MonadExcept.tryCatch m fun e => pure (h e)) :=
  hm.tryCatch hok fun p e hfinal h => .ret hfinal (herror p e h)

end Protocol

instance finishedDecidable [DecidableEq ℓ] (t : Thread σ ℓ ε α κ) : Decidable t.Finished :=
  inferInstanceAs (Decidable (t.rest.next? = none))

namespace Pool

variable {code : κ → Prog σ ℓ ε α} {P : κ → Protocol σ ℓ φ}

/-- Every call of the pool is as `q` says, keeps to its protocol and has a result as `Q` says. -/
def Leading (P : κ → Protocol σ ℓ φ) (Q : κ → φ → Except ε α → Prop) (q : κ → Prop)
    (p : Pool σ ℓ ε α κ) : Prop :=
  ∀ t ∈ p.threads, q t.call ∧ (P t.call).Leads (Q t.call) ((P t.call).phase t.done) t.rest

variable {Q : κ → φ → Except ε α → Prop} {q : κ → Prop} {p : Pool σ ℓ ε α κ}

lemma Leading.tracked (h : Leading P Q q p) : Tracked P p := fun t ht => (h t ht).2.1

variable (code) in
lemma Leading.preserved (hcode : ∀ c, q c → (P c).Leads (Q c) (P c).init (code c))
    (h : Leading P Q q p) (hrely : ∀ c, (P c).relies p.shared) (e : Event κ)
    (he : ∀ c, e = .start c → q c) : Leading P Q q (p.step code e) := by
  have hcalls := forall_call_step code (fun t ht => (h t ht).1) he
  have hleads := forall_thread_step code
    (X := fun c done m => q c → (P c).Leads (Q c) ((P c).phase done) m) hcode
    (fun c done l w k hleads hc => by
      rw [Protocol.phase_concat]
      exact ⟨((hleads hc).1 p.shared (hrely c)).2, (hleads hc).2 p.shared (hrely c)⟩)
    (fun t ht _ => (h t ht).2) e
  exact fun t ht => ⟨hcalls t ht, hleads t ht (hcalls t ht)⟩

variable {inside : Thread σ ℓ ε α κ → Prop} {ts : List (Thread σ ℓ ε α κ)}
  {t t' : Thread σ ℓ ε α κ} {i : ℕ}

/-- No two threads are inside. -/
def AtMostOne (inside : Thread σ ℓ ε α κ → Prop) (ts : List (Thread σ ℓ ε α κ)) : Prop :=
  ∀ (i j : ℕ) (t u : Thread σ ℓ ε α κ), ts[i]? = some t → ts[j]? = some u →
    inside t → inside u → i = j

lemma atMostOne_nil : AtMostOne inside [] := by
  intro i j t u hi
  cases hi

/-- If one of the threads is inside, it is the only one. -/
lemma AtMostOne.not_inside (h : AtMostOne inside ts) (hi : ts[i]? = some t) (ht : inside t)
    {j : ℕ} {u : Thread σ ℓ ε α κ} (hj : ts[j]? = some u) (hne : j ≠ i) : ¬ inside u :=
  fun hu => hne (h j i u t hj hi hu ht)

lemma AtMostOne.concat (h : AtMostOne inside ts) (ht : ¬ inside t) :
    AtMostOne inside (ts ++ [t]) := by
  intro i j u v hi hj hu hv
  rcases getElem?_concat_cases hi with hi | ⟨-, rfl⟩
  · rcases getElem?_concat_cases hj with hj | ⟨-, rfl⟩
    · exact h i j u v hi hj hu hv
    · exact absurd hv ht
  · exact absurd hu ht

/-- Where one thread is inside, it is the only one that is counted. -/
lemma AtMostOne.countP_eq_one (h : AtMostOne inside ts) {q : Thread σ ℓ ε α κ → Bool}
    (hq : ∀ u, q u = true → inside u) (ht : t ∈ ts) (htq : q t = true) : ts.countP q = 1 := by
  induction ts with
  | nil => cases ht
  | cons u ts ih =>
    have htail : AtMostOne inside ts := fun i j v w hi hj hv hw =>
      Nat.succ_injective (h (i + 1) (j + 1) v w hi hj hv hw)
    rw [List.countP_cons]
    by_cases hu : q u = true
    · have hnone : ts.countP q = 0 := by
        rw [List.countP_eq_zero]
        intro v hv hqv
        obtain ⟨j, hj⟩ := List.mem_iff_getElem?.mp hv
        have hzero := h 0 (j + 1) u v rfl hj (hq u hu) (hq v hqv)
        omega
      rw [hnone, if_pos hu]
    · rw [if_neg hu]
      rcases List.mem_cons.mp ht with rfl | ht
      · exact absurd htq hu
      · exact ih htail ht

/-- A thread is still there after another one has moved on. -/
lemma eq_or_mem_set (hi : ts[i]? = some t) (t' : Thread σ ℓ ε α κ) {u : Thread σ ℓ ε α κ}
    (hu : u ∈ ts) : u = t ∨ u ∈ ts.set i t' := by
  obtain ⟨j, hj⟩ := List.mem_iff_getElem?.mp hu
  by_cases hji : j = i
  · subst hji
    exact Or.inl (Option.some.inj (hj.symm.trans hi))
  · refine Or.inr (List.mem_iff_getElem?.mpr ⟨j, ?_⟩)
    rw [List.getElem?_set_ne (Ne.symm hji)]
    exact hj

/-- **A thread that moves on** does not make it two, if it was inside already or nobody was. -/
lemma AtMostOne.set (h : AtMostOne inside ts) (hi : ts[i]? = some t)
    (hnew : inside t' → inside t ∨ ∀ u ∈ ts, ¬ inside u) : AtMostOne inside (ts.set i t') := by
  intro a b u v ha hb hu hv
  rcases getElem?_set_cases ha with ⟨hai, hat⟩ | ⟨-, hat⟩ <;>
    rcases getElem?_set_cases hb with ⟨hbi, hbt⟩ | ⟨-, hbt⟩
  · rw [hai, hbi]
  · rw [hat] at hu
    rw [hai]
    rcases hnew hu with ht | hnone
    · exact (h b i v t hbt hi hv ht).symm
    · exact absurd hv (hnone v (List.mem_of_getElem? hbt))
  · rw [hbt] at hv
    rw [hbi]
    rcases hnew hv with ht | hnone
    · exact h a i u t hat hi hu ht
    · exact absurd hu (hnone u (List.mem_of_getElem? hat))
  · exact h a b u v hat hbt hu hv

end Pool

end Lib
