/-
What calls write, from what they have seen.

A call that reads a value, thinks about it and writes it may write what is long out of date.  But it
never writes out of nothing: what it leaves comes from some value that it has seen.
`Prog.Informed` says this of one program.  `Pool.grounded` is the rule for a pool of such programs:
it carries a property of a value along with the list of the values that the pool has shown so far.

The property that this is about is `WalkTo`: among the values shown there is a legal walk, in their
order, to the present one.  `WalkTo.milestones` says what such a walk has to pass.
-/
import Asoju.Lib.Faults
import Mathlib.Data.List.Chain
import Mathlib.Data.List.Range

namespace Lib

variable {σ ℓ ε α β κ ι V : Type}

/-! ### Programs that write what comes of what they have seen -/

namespace Prog

variable (view : σ → V) (E : V → V → V → Prop)

/-- Every action leaves the value as it is, or as `E` says of a value that the program has seen, of
the present value and of the new one.  The program has seen the values in `seen`. -/
def Informed : List V → Prog σ ℓ ε α → Prop
  | _, .ret _ => True
  | _, .fail _ => True
  | seen, .atom _ w k => ∀ s,
      (view (w s) = view s ∨ ∃ x ∈ seen ++ [view s], E x (view s) (view (w s))) ∧
        Informed (seen ++ [view s]) (k s)

variable {view E}

/-- Who has seen more may write more. -/
lemma Informed.mono {m : Prog σ ℓ ε α} {seen seen' : List V} (h : m.Informed view E seen)
    (hsub : seen ⊆ seen') : m.Informed view E seen' := by
  induction m generalizing seen seen' with
  | ret a => trivial
  | fail e => trivial
  | atom l w k ih =>
    intro s
    have hsub' : seen ++ [view s] ⊆ seen' ++ [view s] :=
      List.append_subset.mpr ⟨List.subset_append_of_subset_left _ hsub, List.subset_append_right _ _⟩
    obtain ⟨hstep, hrest⟩ := h s
    refine ⟨?_, ih s hrest hsub'⟩
    rcases hstep with hsame | ⟨x, hx, hE⟩
    · exact Or.inl hsame
    · exact Or.inr ⟨x, hsub' hx, hE⟩

/-- The rule of composition: the second part may use what it had seen before. -/
lemma Informed.bind {m : Prog σ ℓ ε α} {f : α → Prog σ ℓ ε β} {seen : List V}
    (hm : m.Informed view E seen) (hf : ∀ a, (f a).Informed view E seen) :
    (m >>= f).Informed view E seen := by
  induction m generalizing seen with
  | ret a => exact hf a
  | fail e => trivial
  | atom l w k ih =>
    intro s
    refine ⟨(hm s).1, ih s (hm s).2 fun a => (hf a).mono ?_⟩
    exact List.subset_append_left _ _

/-- A look at the state, after which the program has seen the present value. -/
lemma Informed.read_bind {l : ℓ} {v : σ → β} {f : β → Prog σ ℓ ε α} {seen : List V}
    (h : ∀ s, (f (v s)).Informed view E (seen ++ [view s])) :
    (Prog.read l v >>= f).Informed view E seen := fun s => ⟨Or.inl rfl, h s⟩

/-- A program that does not touch the value. -/
lemma Informed.of_eachStep {m : Prog σ ℓ ε α} (h : m.EachStep fun _ s s' => view s' = view s)
    (seen : List V) : m.Informed view E seen := by
  induction m generalizing seen with
  | ret a => trivial
  | fail e => trivial
  | atom l w k ih =>
    intro s
    exact ⟨Or.inl (h s).1, ih s (h s).2 _⟩

end Prog

/-! ### What a run shows -/

/-- The values that a run shows, from its first state to its last. -/
def shows (step : σ → ι → σ) (view : σ → V) : σ → List ι → List V
  | s, [] => [view s]
  | s, o :: os => view s :: shows step view (step s o) os

section Shows

variable {step : σ → ι → σ} {view : σ → V}

@[simp] lemma shows_nil (s : σ) : shows step view s [] = [view s] := rfl

lemma shows_concat (s : σ) (os : List ι) (o : ι) :
    shows step view s (os ++ [o]) =
      shows step view s os ++ [view (step (runFrom step s os) o)] := by
  induction os generalizing s with
  | nil => rfl
  | cons o' os ih => exact congrArg (view s :: ·) (ih (step s o'))

lemma head?_shows (s : σ) (os : List ι) : (shows step view s os).head? = some (view s) := by
  cases os <;> rfl

end Shows

/-! ### Pools of informed programs -/

/-- A property of a value and of the values shown so far that grows with them, and that every write
hands on from what has been seen and from the present value to the new one. -/
structure Grounds (E : V → V → V → Prop) (I : List V → V → Prop) : Prop where
  mono : ∀ h v x, I h x → I (h ++ [v]) x
  step : ∀ h x y z, E x y z → I h x → I h y → I (h ++ [z]) z

namespace Pool

variable {code : κ → Prog σ ℓ ε α} {view : σ → V} {E : V → V → V → Prop} {I : List V → V → Prop}

/-- What is known of a pool at the end of a run that has shown `h`: the rest of each program is
informed by the values that the program has seen, and these and the present one are as `I` says. -/
structure Grounded (view : σ → V) (E : V → V → V → Prop) (I : List V → V → Prop) (h : List V)
    (p : Pool σ ℓ ε α κ) : Prop where
  informed : ∀ t ∈ p.threads, t.rest.Informed view E (t.done.map fun x => view x.2)
  seen : ∀ t ∈ p.threads, ∀ x ∈ t.done, I h (view x.2)
  present : I h (view p.shared)

lemma Grounded.step (hcode : ∀ c, (code c).Informed view E []) (hI : Grounds E I) {h : List V}
    {p : Pool σ ℓ ε α κ} (hp : Grounded view E I h p) (e : Event κ) :
    Grounded view E I (h ++ [view (p.step code e).shared]) (p.step code e) := by
  have hinformed : ∀ t ∈ (p.step code e).threads,
      t.rest.Informed view E (t.done.map fun x => view x.2) := by
    refine forall_thread_step code
      (X := fun _ done m => m.Informed view E (done.map fun x => view x.2)) hcode
      (fun c done l w k hinformed => ?_) hp.informed e
    rw [List.map_append]
    exact (hinformed p.shared).2
  have hseen : ∀ t ∈ (p.step code e).threads, ∀ x ∈ t.done, I h (view x.2) := by
    refine forall_thread_step code (X := fun _ done _ => ∀ x ∈ done, I h (view x.2))
      (fun c x hx => absurd hx List.not_mem_nil) (fun c done l w k hdone x hx => ?_) hp.seen e
    rcases List.mem_append.mp hx with hx | hx
    · exact hdone x hx
    · rw [List.mem_singleton.mp hx]
      exact hp.present
  refine ⟨hinformed, fun t ht x hx => hI.mono _ _ _ (hseen t ht x hx), ?_⟩
  cases e with
  | start c => exact hI.mono _ _ _ hp.present
  | sched i =>
    rcases hi : p.threads[i]? with _ | ⟨c, done, rest⟩
    · simpa [Pool.step, hi] using hI.mono _ _ _ hp.present
    · cases rest with
      | ret a => simpa [Pool.step, hi] using hI.mono _ _ _ hp.present
      | fail e => simpa [Pool.step, hi] using hI.mono _ _ _ hp.present
      | atom l w k =>
        have hmem := List.mem_of_getElem? hi
        have hshared : (p.step code (.sched i)).shared = w p.shared := by simp [Pool.step, hi]
        rw [hshared]
        -- The action leaves the value alone, or makes something of one that the program has seen.
        rcases (hp.informed _ hmem p.shared).1 with hsame | ⟨x, hx, hE⟩
        · rw [hsame]
          exact hI.mono _ _ _ hp.present
        · refine hI.step h x _ _ hE ?_ hp.present
          rcases List.mem_append.mp hx with hx | hx
          · obtain ⟨y, hy, rfl⟩ := List.mem_map.mp hx
            exact hp.seen _ hmem y hy
          · rw [List.mem_singleton.mp hx]
            exact hp.present

/-- **The rule of informed programs.**  What every write hands on from the values that it comes from
holds of the last value of every run. -/
theorem grounded (hcode : ∀ c, (code c).Informed view E []) (hI : Grounds E I) {s : σ}
    (hs : I [view s] (view s)) (es : List (Event κ)) :
    I (shows (step code) (fun p => view p.shared) (idle s) es)
      (view (runFrom (step code) (idle s) es).shared) := by
  have hall : Grounded view E I (shows (step code) (fun p => view p.shared) (idle s) es)
      (runFrom (step code) (idle s) es) := by
    induction es using List.reverseRecOn with
    | nil =>
      exact ⟨fun t ht => absurd ht List.not_mem_nil, fun t ht => absurd ht List.not_mem_nil, hs⟩
    | append_singleton es e ih =>
      rw [shows_concat, runFrom_append]
      exact ih.step hcode hI e
  exact hall.present

end Pool

/-! ### Walks -/

/-- There is a walk along `R` from the first value of `h` to `x`, through values of `h` in their
order. -/
def WalkTo (R : V → V → Prop) (h : List V) (x : V) : Prop :=
  ∃ w : List V, w.Sublist h ∧ w.head? = h.head? ∧ w.IsChain R ∧ w.getLast? = some x

namespace WalkTo

variable {R : V → V → Prop} {h : List V} {x z : V}

lemma start (R : V → V → Prop) (x : V) : WalkTo R [x] x :=
  ⟨[x], List.Sublist.refl _, rfl, List.isChain_singleton x, rfl⟩

lemma head?_append (hx : WalkTo R h x) (l : List V) : (h ++ l).head? = h.head? := by
  obtain ⟨w, hsub, -, -, hlast⟩ := hx
  cases h with
  | nil =>
    rw [List.sublist_nil.mp hsub] at hlast
    cases hlast
  | cons v h => rfl

lemma mono (hx : WalkTo R h x) (l : List V) : WalkTo R (h ++ l) x := by
  have hhead := hx.head?_append l
  obtain ⟨w, hsub, hw, hchain, hlast⟩ := hx
  exact ⟨w, hsub.trans (List.sublist_append_left h l), hw.trans hhead.symm, hchain, hlast⟩

/-- One more move. -/
lemma move (hx : WalkTo R h x) (hR : R x z) : WalkTo R (h ++ [z]) z := by
  have hhead := hx.head?_append [z]
  obtain ⟨w, hsub, hw, hchain, hlast⟩ := hx
  refine ⟨w ++ [z], hsub.append (List.Sublist.refl _), ?_, ?_, List.getLast?_concat⟩
  · rw [hhead, ← hw]
    cases w with
    | nil => cases hlast
    | cons v w => rfl
  · refine List.isChain_append.mpr ⟨hchain, List.isChain_singleton z, ?_⟩
    rintro a ha b hb
    rw [hlast] at ha
    obtain rfl := Option.mem_some.mp ha
    obtain rfl := Option.mem_some.mp hb
    exact hR

/-- A walk that climbs from `m 0`, only one step at a time, and only to the next of the milestones
`m 1`, `m 2`, …, passes all of them up to where it is. -/
theorem milestones {m : ℕ → V} {rank : V → ℕ} (hstart : h.head? = some (m 0))
    (hzero : rank (m 0) = 0)
    (hR : ∀ x z, R x z → rank z ≤ rank x ∨ (rank z = rank x + 1 ∧ z = m (rank z)))
    (hx : WalkTo R h x) : ((List.range (rank x + 1)).map m).Sublist h := by
  obtain ⟨w, hsub, hw, hchain, hlast⟩ := hx
  rw [hstart] at hw
  refine List.Sublist.trans ?_ hsub
  clear hsub
  induction w using List.reverseRecOn generalizing x with
  | nil => cases hlast
  | append_singleton w z ih =>
    obtain rfl : z = x := Option.some.inj (List.getLast?_concat.symm.trans hlast)
    cases hprev : w.getLast? with
    | none =>
      -- The walk is its start.
      obtain rfl := List.getLast?_eq_none_iff.mp hprev
      obtain rfl : z = m 0 := Option.some.inj hw
      rw [hzero]
      exact List.Sublist.refl _
    | some y =>
      obtain ⟨hchain', -, hmove⟩ := List.isChain_append.mp hchain
      have hhead : w.head? = some (m 0) := by
        cases w with
        | nil => cases hprev
        | cons v w => exact hw
      have hbefore := ih hhead hchain' hprev
      rcases hR y z (hmove y hprev z rfl) with hle | ⟨hnext, hz⟩
      · refine List.Sublist.trans ?_ (hbefore.trans (List.sublist_append_left w [z]))
        exact (List.range_sublist.mpr (Nat.succ_le_succ hle)).map m
      · rw [List.range_succ, List.map_append, hnext]
        refine hbefore.append ?_
        rw [List.map_singleton, ← hnext, ← hz]

end WalkTo

end Lib
