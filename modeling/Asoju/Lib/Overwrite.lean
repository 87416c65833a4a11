/-
Calls that read a value, and overwrite it with what they make of it.

Between the read and the write of a call other ones may write.  An `Overwriting` says what the calls
look at: the value, which actions read and write it, what a call has to have read in order to go on,
and what the value is after its write, in terms of what it has read and of the present value.  Its
protocol is that of `Lib/Pool.lean` with what a call holds of the value for a phase (`Grip`).

`Tracked.step_cases` is what a step of a pool of such calls can do to the value.  `runs_iff` is the
rule for what holds of the value and of the writes so far: it holds at every moment of a run exactly
if each write keeps it.
-/
import Asoju.Lib.Pool

namespace Lib

/-- What a call holds of a value that it is to overwrite. -/
inductive Grip (V : Type)
  | begun
  | holds (x : V)
  | ended
deriving DecidableEq, Repr

/-- The call has returned. -/
def Thread.hasReturned {σ ℓ ε α κ : Type} (t : Thread σ ℓ ε α κ) : Bool :=
  match t.rest with
  | .ret _ => true
  | _ => false

/-- The call has overwritten the value. -/
def Grip.hasEnded {V : Type} : Grip V → Bool
  | .ended => true
  | _ => false

/-- Calls `κ` that read and overwrite a value `V` of a state `σ`. -/
structure Overwriting (σ ℓ κ V : Type) where
  view : σ → V
  relies : σ → Prop
  reads : ℓ → Bool
  writes : ℓ → Bool
  /-- The call goes on with what it has read. -/
  ready : κ → V → Prop
  /-- The value after the write of a call, from what it has read and from the present value. -/
  result : κ → V → V → V

variable {σ ℓ ε α κ V : Type}

namespace Overwriting

variable (O : Overwriting σ ℓ κ V)

/-- What an action leads to. -/
def next (g : Grip V) (l : ℓ) (s : σ) : Grip V :=
  match g with
  | .begun => if O.reads l then .holds (O.view s) else .begun
  | .holds x => if O.writes l then .ended else .holds x
  | .ended => .ended

/-- What an action of the call may do to the value. -/
def allows (c : κ) (g : Grip V) (l : ℓ) (s s' : σ) : Prop :=
  match g with
  | .holds x =>
      if O.writes l then O.ready c x ∧ O.view s' = O.result c x (O.view s)
      else O.view s' = O.view s
  | _ => O.writes l = false ∧ O.view s' = O.view s

/-- The protocol of a call. -/
def protocol (c : κ) : Protocol σ ℓ (Grip V) where
  relies := O.relies
  init := .begun
  next := O.next
  allows := O.allows c
  final := fun _ => True

/-- What a call holds after some actions. -/
def grip (done : List (ℓ × σ)) : Grip V := done.foldl (fun g x => O.next g x.1 x.2) .begun

@[simp] lemma grip_nil : O.grip [] = .begun := rfl

@[simp] lemma grip_concat (done : List (ℓ × σ)) (l : ℓ) (s : σ) :
    O.grip (done ++ [(l, s)]) = O.next (O.grip done) l s := by
  simp [grip]

/-! ### What a step does -/

/-- The call whose write is the next action of a pool under an event. -/
def writer (p : Pool σ ℓ ε α κ) : Event κ → Option (Thread σ ℓ ε α κ)
  | .start _ => none
  | .sched i => (p.threads[i]?).filter fun t => t.rest.next?.any O.writes

/-- The pool keeps to the protocols of its calls. -/
def Tracked (p : Pool σ ℓ ε α κ) : Prop := Pool.Tracked O.protocol p

variable {O} {code : κ → Prog σ ℓ ε α}

lemma Tracked.preserved (hcode : ∀ c, (O.protocol c).Follows .begun (code c))
    {p : Pool σ ℓ ε α κ} (h : O.Tracked p) (hrely : O.relies p.shared) (e : Event κ) :
    O.Tracked (p.step code e) :=
  Pool.Tracked.preserved code (P := O.protocol) hcode h (fun _ => hrely) e

variable (O) in
/-- How many calls with a property have overwritten the value. -/
def written (q : κ → Bool) (p : Pool σ ℓ ε α κ) : ℕ :=
  p.threads.countP fun t => (O.grip t.done).hasEnded && q t.call

variable (O) in
/-- A step that leaves the value as it is, and the calls that have written it. -/
structure Leaves (p p' : Pool σ ℓ ε α κ) : Prop where
  view : O.view p'.shared = O.view p.shared
  written : ∀ q, O.written q p' = O.written q p
  /-- What a call holds then it held before, or it has just read it. -/
  holds : ∀ t ∈ p'.threads, ∀ x, O.grip t.done = .holds x →
    (∃ u ∈ p.threads, u.call = t.call ∧ O.grip u.done = .holds x) ∨ x = O.view p.shared

variable (O) in
/-- A write of the call `c` that holds `x`. -/
structure Writes (c : κ) (x : V) (p p' : Pool σ ℓ ε α κ) : Prop where
  ready : O.ready c x
  view : O.view p'.shared = O.result c x (O.view p.shared)
  written : ∀ q, O.written q p' = O.written q p + if q c then 1 else 0
  holds : ∀ t ∈ p'.threads, ∀ y, O.grip t.done = .holds y →
    ∃ u ∈ p.threads, u.call = t.call ∧ O.grip u.done = .holds y

variable (O) in
/-- How the counts change when a thread moves on. -/
lemma written_set {p : Pool σ ℓ ε α κ} {i : ℕ} {t : Thread σ ℓ ε α κ} (hi : p.threads[i]? = some t)
    (s : σ) (t' : Thread σ ℓ ε α κ) (hcall : t'.call = t.call) (q : κ → Bool) :
    O.written q ⟨s, p.threads.set i t'⟩ +
        (if (O.grip t.done).hasEnded && q t.call then 1 else 0) =
      O.written q p + if (O.grip t'.done).hasEnded && q t.call then 1 else 0 := by
  have h := Pool.countP_set hi (fun u => (O.grip u.done).hasEnded && q u.call) t'
  rw [hcall] at h
  exact h

variable (code) in
/-- **What a step can do to the value.** -/
theorem Tracked.step_cases {p : Pool σ ℓ ε α κ} (h : O.Tracked p) (hrely : O.relies p.shared)
    (e : Event κ) :
    (O.writer p e = none ∧ O.Leaves p (p.step code e)) ∨
      ∃ t x, O.writer p e = some t ∧ t ∈ p.threads ∧ O.grip t.done = .holds x ∧
        O.Writes t.call x p (p.step code e) := by
  rcases Pool.Tracked.step code h (fun _ => hrely) e with
    ⟨i, rfl, hfinished, heq⟩ | ⟨c, rfl, heq⟩ | ⟨i, t, l, w, k, rfl, hi, hrest, hallows, heq⟩
  · refine Or.inl ⟨?_, ?_⟩
    · rw [writer, Option.filter_eq_none_iff]
      intro t ht
      rw [hfinished t ht]
      exact Bool.false_ne_true
    · rw [heq]
      exact ⟨rfl, fun _ => rfl, fun t ht x hx => Or.inl ⟨t, ht, rfl, hx⟩⟩
  · refine Or.inl ⟨rfl, ?_⟩
    rw [heq]
    refine ⟨rfl, fun q => ?_, fun t ht x hx => ?_⟩
    · rw [written, List.countP_append]
      exact Nat.add_zero _
    · rcases List.mem_append.mp ht with ht | ht
      · exact Or.inl ⟨t, ht, rfl, hx⟩
      · rw [List.mem_singleton.mp ht] at hx
        cases hx
  · have hmem : t ∈ p.threads := List.mem_of_getElem? hi
    have hnext : t.rest.next? = some l := by rw [hrest]; rfl
    have hallows' : O.allows t.call (O.grip t.done) l p.shared (w p.shared) := hallows
    -- A thread that has not moved holds what it held.
    have hothers : ∀ u ∈ p.threads.set i ⟨t.call, t.done ++ [(l, p.shared)], k p.shared⟩, ∀ y,
        O.grip u.done = .holds y →
          (∃ u' ∈ p.threads, u'.call = u.call ∧ O.grip u'.done = .holds y) ∨
            u = ⟨t.call, t.done ++ [(l, p.shared)], k p.shared⟩ := by
      intro u hu y hy
      rcases List.mem_or_eq_of_mem_set hu with hu | rfl
      · exact Or.inl ⟨u, hu, rfl, hy⟩
      · exact Or.inr rfl
    -- The counts change with what the thread holds.
    have hcount := O.written_set hi (w p.shared)
      ⟨t.call, t.done ++ [(l, p.shared)], k p.shared⟩ rfl
    simp only [grip_concat] at hcount
    rw [heq]
    cases hgrip : O.grip t.done with
    | begun =>
      rw [hgrip] at hallows'
      refine Or.inl ⟨?_, hallows'.2, fun q => ?_, fun u hu y hy => ?_⟩
      · rw [writer, hi, Option.filter_some, hnext, Option.any_some, hallows'.1]
        rfl
      · have hq := hcount q
        rw [hgrip, next] at hq
        cases hreads : O.reads l with
        | true =>
          rw [hreads] at hq
          exact hq
        | false =>
          rw [hreads] at hq
          exact hq
      · rcases hothers u hu y hy with hold | rfl
        · exact Or.inl hold
        · rw [grip_concat, hgrip, next] at hy
          split at hy
          · exact Or.inr (Grip.holds.inj hy).symm
          · cases hy
    | holds x =>
      rw [hgrip, allows] at hallows'
      cases hwrites : O.writes l with
      | true =>
        rw [hwrites, if_pos rfl] at hallows'
        refine Or.inr ⟨t, x, ?_, hmem, hgrip, hallows'.1, hallows'.2, fun q => ?_,
          fun u hu y hy => ?_⟩
        · rw [writer, hi, Option.filter_some, hnext, Option.any_some, hwrites]
          rfl
        · have hq := hcount q
          rw [hgrip, next, hwrites] at hq
          exact hq
        · rcases hothers u hu y hy with hold | rfl
          · exact hold
          · rw [grip_concat, hgrip, next, hwrites] at hy
            cases hy
      | false =>
        rw [hwrites, if_neg Bool.false_ne_true] at hallows'
        refine Or.inl ⟨?_, hallows', fun q => ?_, fun u hu y hy => ?_⟩
        · rw [writer, hi, Option.filter_some, hnext, Option.any_some, hwrites]
          rfl
        · have hq := hcount q
          rw [hgrip, next, hwrites] at hq
          exact hq
        · rcases hothers u hu y hy with hold | rfl
          · exact Or.inl hold
          · rw [grip_concat, hgrip, next, hwrites] at hy
            exact Or.inl ⟨t, hmem, rfl, hgrip.trans hy⟩
    | ended =>
      rw [hgrip] at hallows'
      refine Or.inl ⟨?_, hallows'.2, fun q => ?_, fun u hu y hy => ?_⟩
      · rw [writer, hi, Option.filter_some, hnext, Option.any_some, hallows'.1]
        rfl
      · have hq := hcount q
        rw [hgrip, next] at hq
        exact Nat.add_right_cancel hq
      · rcases hothers u hu y hy with hold | rfl
        · exact Or.inl hold
        · rw [grip_concat, hgrip, next] at hy
          cases hy

/-! ### What the calls hold, and the value -/

variable (O) in
/-- What a call holds is related to the present value. -/
def Held (K : κ → V → V → Prop) (p : Pool σ ℓ ε α κ) : Prop :=
  ∀ t ∈ p.threads, ∀ x, O.grip t.done = .holds x → K t.call x (O.view p.shared)

lemma Leaves.held {K : κ → V → V → Prop} (hrefl : ∀ c x, K c x x) {p p' : Pool σ ℓ ε α κ}
    (h : O.Leaves p p') (hheld : O.Held K p) : O.Held K p' := by
  intro t ht x hx
  rw [h.view]
  rcases h.holds t ht x hx with ⟨u, hu, hcall, hold⟩ | rfl
  · rw [← hcall]
    exact hheld u hu x hold
  · exact hrefl t.call _

lemma Writes.held {K : κ → V → V → Prop} {c : κ} {x : V} {p p' : Pool σ ℓ ε α κ}
    (h : O.Writes c x p p') (hheld : O.Held K p)
    (hstep : ∀ c' y, K c' y (O.view p.shared) → K c' y (O.view p'.shared)) : O.Held K p' := by
  intro t ht y hy
  obtain ⟨u, hu, hcall, hold⟩ := h.holds t ht y hy
  rw [← hcall]
  exact hstep u.call y (hheld u hu y hold)

/-! ### How the calls end -/

variable (O) in
/-- The program returns exactly where it has overwritten the value. -/
def Returns : Grip V → Prog σ ℓ ε α → Prop
  | g, .ret _ => g.hasEnded = true
  | g, .fail _ => g.hasEnded = false
  | g, .atom l _ k => g.hasEnded = false ∧ ∀ s, O.relies s → Returns (O.next g l s) (k s)

variable (O) in
/-- The calls of the pool have returned exactly if they have overwritten the value. -/
def Settled (p : Pool σ ℓ ε α κ) : Prop := ∀ t ∈ p.threads, O.Returns (O.grip t.done) t.rest

lemma Settled.preserved (hcode : ∀ c, O.Returns .begun (code c)) {p : Pool σ ℓ ε α κ}
    (h : O.Settled p) (hrely : O.relies p.shared) (e : Event κ) : O.Settled (p.step code e) := by
  refine Pool.forall_thread_step code (X := fun _ done m => O.Returns (O.grip done) m) hcode
    (fun c done l w k hreturns => ?_) h e
  rw [grip_concat]
  exact hreturns.2 p.shared hrely

lemma Settled.hasEnded_eq {p : Pool σ ℓ ε α κ} (h : O.Settled p) {t : Thread σ ℓ ε α κ}
    (ht : t ∈ p.threads) : (O.grip t.done).hasEnded = t.hasReturned := by
  have hreturns := h t ht
  rw [Thread.hasReturned]
  cases hrest : t.rest with
  | ret a => rwa [hrest] at hreturns
  | fail e => rwa [hrest] at hreturns
  | atom l w k =>
    rw [hrest] at hreturns
    exact hreturns.1

lemma Settled.written_eq {p : Pool σ ℓ ε α κ} (h : O.Settled p) (q : κ → Bool) :
    O.written q p = p.threads.countP fun t => t.hasReturned && q t.call :=
  List.countP_congr fun t ht => by rw [h.hasEnded_eq ht]

/-! ### The writes of a run -/

variable (O code) in
/-- The calls in the order of their writes. -/
def writeLog : Pool σ ℓ ε α κ → List (Event κ) → List κ
  | _, [] => []
  | p, e :: es => ((O.writer p e).map Thread.call).toList ++ writeLog (p.step code e) es

variable (O) in
/-- The write that comes next, if one does, is of a call for which what it has read and the present
value are as `K` says. -/
def Fresh (K : κ → V → V → Prop) (p : Pool σ ℓ ε α κ) (e : Event κ) : Prop :=
  ∀ t x, O.writer p e = some t → O.grip t.done = .holds x → K t.call x (O.view p.shared)

/-- What the calls hold of the value keeps a relation to it. -/
structure Trailing (O : Overwriting σ ℓ κ V) (K : κ → V → V → Prop) : Prop where
  refl : ∀ c v, K c v v
  step : ∀ c x v, O.ready c x → K c x v → ∀ c' y, K c' y v → K c' y (O.result c x v)

variable (O) in
/-- What holds of a pool at every moment of a run. -/
structure Invariant (K : κ → V → V → Prop) (p : Pool σ ℓ ε α κ) : Prop where
  tracked : O.Tracked p
  relies : O.relies p.shared
  held : O.Held K p

lemma Invariant.idle {K : κ → V → V → Prop} {s : σ} (hs : O.relies s) :
    O.Invariant K (Pool.idle s : Pool σ ℓ ε α κ) :=
  ⟨Pool.tracked_idle _ s, hs, fun _ ht => absurd ht List.not_mem_nil⟩

lemma Invariant.preserved (hcode : ∀ c, (O.protocol c).Follows .begun (code c))
    {K : κ → V → V → Prop} (hK : O.Trailing K) {p : Pool σ ℓ ε α κ} (h : O.Invariant K p)
    {e : Event κ} (hrely : O.relies (p.step code e).shared) : O.Invariant K (p.step code e) := by
  refine ⟨h.tracked.preserved hcode h.relies e, hrely, ?_⟩
  rcases h.tracked.step_cases code h.relies e with ⟨-, hleaves⟩ | ⟨t, x, -, ht, hgrip, hwrites⟩
  · exact hleaves.held hK.refl h.held
  · refine hwrites.held h.held fun c' y hy => ?_
    rw [hwrites.view]
    exact hK.step _ x _ hwrites.ready (h.held t ht x hgrip) c' y hy

/-- The calls that have written are those of the log. -/
lemma written_run (hcode : ∀ c, (O.protocol c).Follows .begun (code c)) {K : κ → V → V → Prop}
    (hK : O.Trailing K)
    (hrely : ∀ (p : Pool σ ℓ ε α κ) e, O.Invariant K p → O.relies (p.step code e).shared)
    {p : Pool σ ℓ ε α κ} (hp : O.Invariant K p) (q : κ → Bool) (es : List (Event κ)) :
    O.written q (runFrom (Pool.step code) p es) =
      O.written q p + (O.writeLog code p es).countP q := by
  induction es generalizing p with
  | nil => rfl
  | cons e es ih =>
    rw [runFrom_cons, ih (hp.preserved hcode hK (hrely p e hp)), writeLog, List.countP_append]
    rcases hp.tracked.step_cases code hp.relies e with
      ⟨hnone, hleaves⟩ | ⟨t, x, hsome, -, -, hwrites⟩
    · rw [hnone, hleaves.written]
      simp
    · rw [hsome, hwrites.written]
      simp only [Option.map_some, Option.toList_some, List.countP_singleton]
      omega

/-- **The rule of the log.**  A property of the value and of the writes so far holds in every state
of a run exactly if each write keeps it, where what decides is what the call has read and the value
that it overwrites. -/
theorem runs_iff (hcode : ∀ c, (O.protocol c).Follows .begun (code c)) {K F : κ → V → V → Prop}
    (hK : O.Trailing K) {Q : V → List κ → Prop}
    (hrely : ∀ (p : Pool σ ℓ ε α κ) e, O.Invariant K p → O.relies (p.step code e).shared)
    (hQ : ∀ c x v log, O.ready c x → K c x v → Q v log →
      (Q (O.result c x v) (log ++ [c]) ↔ F c x v))
    {p : Pool σ ℓ ε α κ} (hp : O.Invariant K p) {log : List κ} (hlog : Q (O.view p.shared) log)
    (es : List (Event κ)) :
    (∀ pre, pre <+: es →
        Q (O.view (runFrom (Pool.step code) p pre).shared) (log ++ O.writeLog code p pre)) ↔
      AllSteps (Pool.step code) (O.Fresh F) p es := by
  induction es generalizing p log with
  | nil =>
    refine iff_of_true (fun pre hpre => ?_) trivial
    rw [List.prefix_nil.mp hpre, writeLog, List.append_nil]
    exact hlog
  | cons e es ih =>
    have hp' : O.Invariant K (p.step code e) := hp.preserved hcode hK (hrely p e hp)
    -- The log after the first step.
    obtain ⟨log', hlog', hstep⟩ : ∃ log',
        (∀ pre, log ++ O.writeLog code p (e :: pre) =
          log' ++ O.writeLog code (p.step code e) pre) ∧
        (Q (O.view (p.step code e).shared) log' ↔ O.Fresh F p e) := by
      rcases hp.tracked.step_cases code hp.relies e with
        ⟨hnone, hleaves⟩ | ⟨t, x, hsome, ht, hgrip, hwrites⟩
      · refine ⟨log, fun pre => ?_, ?_⟩
        · rw [writeLog, hnone]
          rfl
        · rw [hleaves.view]
          refine iff_of_true hlog fun t x ht => ?_
          rw [hnone] at ht
          cases ht
      · refine ⟨log ++ [t.call], fun pre => ?_, ?_⟩
        · rw [writeLog, hsome, List.append_assoc]
          rfl
        · rw [hwrites.view, hQ t.call x _ log hwrites.ready (hp.held t ht x hgrip) hlog]
          constructor
          · intro hF t' x' ht' hx'
            obtain rfl := Option.some.inj (hsome.symm.trans ht')
            obtain rfl := Grip.holds.inj (hgrip.symm.trans hx')
            exact hF
          · intro hfresh
            exact hfresh t x hsome hgrip
    constructor
    · intro hall
      have hfirst : Q (O.view (p.step code e).shared) log' := by
        have h := hall [e] ⟨es, rfl⟩
        rw [hlog', writeLog, List.append_nil] at h
        exact h
      refine ⟨hstep.mp hfirst, (ih hp' hfirst).mp fun pre hpre => ?_⟩
      rw [← hlog']
      exact hall (e :: pre) (List.prefix_cons_inj e |>.mpr hpre)
    · rintro ⟨hfresh, hrest⟩ pre hpre
      rcases List.prefix_cons_iff.mp hpre with rfl | ⟨pre', rfl, hpre'⟩
      · rw [writeLog, List.append_nil]
        exact hlog
      · rw [hlog']
        exact (ih hp' (hstep.mpr hfresh)).mpr hrest pre' hpre'

end Overwriting

end Lib
