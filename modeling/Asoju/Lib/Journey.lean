/-
State machines that can be suspended, and their logs.

A `Machine` has a graph of ordinary moves and one further state, `hold`, that lies outside
the graph: a machine in a state that allows it may be suspended, and then returns to the
state it was suspended in.  Every move is logged with the state it leaves and the state it
reaches.  `Machine.Journey log s held` says that `log` is the log of such a machine from its
creation on, that it is now in the state `s`, and that `held` is where it returns to.

The results below say what a log looks like: it is a chain, and once each suspension is
deleted together with the return from it, only moves of the graph are left.
-/
import Mathlib.Data.List.Basic
import Mathlib.Data.List.Chain
import Mathlib.Tactic.Common
import Mathlib.Tactic.Lemma

namespace Lib

variable {S : Type}

/-- A logged move.  The first one, the creation, leaves no state. -/
@[ext] structure Move (S : Type) where
  source : Option S
  target : S
deriving DecidableEq, Repr

/-- A state machine with a graph of moves and a state of suspension outside of it. -/
structure Machine (S : Type) where
  start : S
  hold : S
  Edge : S → S → Prop
  MayHold : S → Prop
  start_ne_hold : start ≠ hold
  source_ne_hold : ∀ {s t}, Edge s t → s ≠ hold
  target_ne_hold : ∀ {s t}, Edge s t → t ≠ hold
  mayHold_ne_hold : ∀ {s}, MayHold s → s ≠ hold

namespace Machine

variable (M : Machine S)

/-- The logs of the machine, with the state they lead to and, while it is suspended, the
state it returns to. -/
inductive Journey : List (Move S) → S → Option S → Prop
  | start : Journey [⟨none, M.start⟩] M.start none
  | advance {log : List (Move S)} {s t : S} : Journey log s none → M.Edge s t →
      Journey (log ++ [⟨some s, t⟩]) t none
  | suspend {log : List (Move S)} {s : S} : Journey log s none → M.MayHold s →
      Journey (log ++ [⟨some s, M.hold⟩]) M.hold (some s)
  | resume {log : List (Move S)} {s t : S} : Journey log s (some t) →
      Journey (log ++ [⟨some M.hold, t⟩]) t none

/-- A move of the graph, or the creation. -/
def Proper (m : Move S) : Prop :=
  match m.source with
  | none => m.target = M.start
  | some s => M.Edge s m.target

/-- Consecutive moves fit together: each leaves the state that the one before reached. -/
def Linked (log : List (Move S)) : Prop :=
  log.IsChain fun m n => n.source = some m.target

namespace Journey

variable {M} {log : List (Move S)} {s : S} {held : Option S}

/-- A suspended machine was suspended by its last move, from a state that allows it. -/
lemma of_held (h : M.Journey log s held) {t : S} (ht : held = some t) :
    s = M.hold ∧ M.MayHold t ∧
      ∃ pre, log = pre ++ [⟨some t, M.hold⟩] ∧ M.Journey pre t none := by
  cases h with
  | start => cases ht
  | advance => cases ht
  | suspend hpre hmay =>
    obtain rfl := Option.some.inj ht
    exact ⟨rfl, hmay, _, rfl, hpre⟩
  | resume => cases ht

lemma ne_hold_of_none (h : M.Journey log s held) (hn : held = none) : s ≠ M.hold := by
  cases h with
  | start => exact M.start_ne_hold
  | advance _ hedge => exact M.target_ne_hold hedge
  | suspend => cases hn
  | resume hpre => exact M.mayHold_ne_hold (hpre.of_held rfl).2.1

/-- **The way back is known exactly while the machine is suspended.** -/
theorem eq_hold_iff (h : M.Journey log s held) : s = M.hold ↔ held.isSome := by
  cases held with
  | none => simpa using h.ne_hold_of_none rfl
  | some t => simpa using (h.of_held rfl).1

lemma held_eq_none (h : M.Journey log s held) (hs : s ≠ M.hold) : held = none := by
  rw [Ne, h.eq_hold_iff] at hs
  simpa using hs

lemma getLast? (h : M.Journey log s held) : log.getLast?.map Move.target = some s := by
  cases h <;> simp

lemma linked_append {log : List (Move S)} {m : Move S} (hlog : Linked log) {s : S}
    (hlast : log.getLast?.map Move.target = some s) (hm : m.source = some s) :
    Linked (log ++ [m]) := by
  refine List.IsChain.append hlog (List.isChain_singleton m) ?_
  intro x hx y hy
  obtain rfl : m = y := by simpa using hy
  rw [hm, ← hlast, Option.mem_def.mp hx, Option.map_some]

/-- **The log is a chain.** -/
theorem linked (h : M.Journey log s held) : Linked log := by
  induction h with
  | start => exact List.isChain_singleton _
  | advance hpre _ ih => exact linked_append ih hpre.getLast? rfl
  | suspend hpre _ ih => exact linked_append ih hpre.getLast? rfl
  | resume hpre ih =>
    refine linked_append ih hpre.getLast? ?_
    rw [(hpre.of_held rfl).1]

end Journey

/-! ### Deleting the detours -/

variable [DecidableEq S]

/-- The log without its detours: each suspension that is followed by the return from it to
the state it left is deleted together with that return. -/
def dropDetours (hold : S) : List (Move S) → List (Move S)
  | m :: n :: log =>
      if m.target = hold ∧ n.source = some hold ∧ m.source = some n.target
      then dropDetours hold log
      else m :: dropDetours hold (n :: log)
  | log => log

lemma dropDetours_cons {hold : S} {m : Move S} (hm : m.target ≠ hold) (log : List (Move S)) :
    dropDetours hold (m :: log) = m :: dropDetours hold log := by
  cases log with
  | nil => rfl
  | cons n log => rw [dropDetours, if_neg fun h => hm h.1]

lemma dropDetours_detour (hold s : S) (log : List (Move S)) :
    dropDetours hold (⟨some s, hold⟩ :: ⟨some hold, s⟩ :: log) = dropDetours hold log := by
  rw [dropDetours, if_pos ⟨rfl, rfl, rfl⟩]

namespace Journey

variable {M} {log : List (Move S)} {s : S} {held : Option S}

/-- Without its detours the log of a machine that is not suspended is the log of a machine
that never was.  The statement is about every continuation of the log, because a detour is
deleted only when its second move has come. -/
lemma exists_core (h : M.Journey log s held) (hn : held = none) :
    ∃ core, M.Journey core s none ∧ (∀ m ∈ core, M.Proper m) ∧
      ∀ rest, dropDetours M.hold (log ++ rest) = core ++ dropDetours M.hold rest := by
  -- The return from a detour needs the log before the suspension, which is shorter than
  -- the log of the suspended machine: the induction is on the length.
  induction hlen : log.length using Nat.strong_induction_on generalizing log s held with
  | _ n ih =>
    cases h with
    | start =>
      refine ⟨[⟨none, M.start⟩], .start, by simp [Proper], fun rest => ?_⟩
      exact dropDetours_cons M.start_ne_hold rest
    | @advance pre s₀ _ hpre hedge =>
      obtain ⟨core, hcore, hproper, hdrop⟩ := ih pre.length (by simp [← hlen]) hpre rfl rfl
      refine ⟨core ++ [⟨some s₀, s⟩], hcore.advance hedge, ?_, fun rest => ?_⟩
      · intro m hm
        rcases List.mem_append.mp hm with hm | hm
        · exact hproper m hm
        · rw [List.mem_singleton.mp hm]
          exact hedge
      · rw [List.append_assoc, hdrop, List.singleton_append,
          dropDetours_cons (M.target_ne_hold hedge), List.append_assoc, List.singleton_append]
    | suspend => cases hn
    | resume hpre =>
      obtain ⟨-, -, pre', rfl, hpre'⟩ := hpre.of_held rfl
      obtain ⟨core, hcore, hproper, hdrop⟩ :=
        ih pre'.length (by simp [← hlen]) hpre' rfl rfl
      refine ⟨core, hcore, hproper, fun rest => ?_⟩
      rw [List.append_assoc, List.append_assoc, hdrop, List.singleton_append,
        List.singleton_append, dropDetours_detour]

/-- **Only moves of the graph are left.**  Every move that survives the deletion of the
detours is a proper one, or the suspension that has not ended yet. -/
theorem proper_of_mem_dropDetours (h : M.Journey log s held) {m : Move S}
    (hm : m ∈ dropDetours M.hold log) :
    M.Proper m ∨ (s = M.hold ∧ m = ⟨held, M.hold⟩) := by
  cases held with
  | none =>
    obtain ⟨core, -, hproper, hdrop⟩ := h.exists_core rfl
    rw [← List.append_nil log, hdrop] at hm
    exact Or.inl (hproper m (by simpa [dropDetours] using hm))
  | some t =>
    obtain ⟨rfl, -, pre, rfl, hpre⟩ := h.of_held rfl
    obtain ⟨core, -, hproper, hdrop⟩ := hpre.exists_core rfl
    rw [hdrop] at hm
    rcases List.mem_append.mp hm with hm | hm
    · exact Or.inl (hproper m hm)
    · exact Or.inr ⟨rfl, by simpa [dropDetours] using hm⟩

end Journey

end Machine

end Lib
