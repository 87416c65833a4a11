/-
Milestones of a machine that can be suspended, and what backs them.

A milestone is a state that a machine is meant to enter for a reason: a cause has to have come
before, and since the last move that makes earlier causes stale.  Some entries are excused from
that, and then a waiver takes the place of the cause.  A suspension in between, and the return from
it, changes nothing, but the return enters the state once more.

`Record` is what a system has to keep for this to be a question: the log of the machine with the
time of each move, where the machine is, and the times of the causes and of the waivers.
`Record.Step` says what may happen next.  A cause is asked for in the one step that leads into the
span of the milestone; `Step.sound` shows that this backs every entry there ever is.
-/
import Asoju.Lib.Journey
import Mathlib.Data.Set.Basic
import Mathlib.Logic.Relation
import Mathlib.Order.Defs.LinearOrder

namespace Lib

variable {S τ : Type}

/-- A milestone of the machine: the state `entry`, which is entered from `source`. -/
structure Machine.Milestone (M : Machine S) where
  source : S
  entry : S
  /-- Where a machine that has reached the milestone still benefits from what backed it. -/
  Span : S → Prop
  /-- The moves that make earlier causes stale. -/
  Stale : Move S → Prop
  span_entry : Span entry
  not_span_start : ¬ Span M.start
  entry_ne_hold : entry ≠ M.hold
  fresh_start : ¬ Stale ⟨none, M.start⟩
  fresh_entry : ¬ Stale ⟨some source, entry⟩
  fresh_suspend : ∀ {s}, Span s → ¬ Stale ⟨some s, M.hold⟩
  fresh_resume : ∀ {s}, Span s → ¬ Stale ⟨some M.hold, s⟩
  /-- The span is entered by the edge of the milestone only, and no edge within it is stale. -/
  edge : ∀ {s t}, M.Edge s t → Span t → (Span s ∧ ¬ Stale ⟨some s, t⟩) ∨ (s = source ∧ t = entry)

/-- What is known of a machine at one moment. -/
structure Record (S τ : Type) where
  now : τ
  log : List (τ × Move S)
  /-- Where the machine is, or where it returns to while it is suspended. -/
  place : S
  causes : Set τ
  waivers : Set τ

variable [LinearOrder τ] {M : Machine S} {m : M.Milestone} {a a' : Record S τ}

namespace Machine.Milestone

variable (m) (a)

/-- Nothing between the times `s` and `t` makes stale what happened at `s`. -/
def Fresh (s t : τ) : Prop := ∀ x ∈ a.log, m.Stale x.2 → x.1 < t → x.1 < s

/-- There is a cause for an entry at the time `t`. -/
def Caused (t : τ) : Prop := ∃ s ∈ a.causes, s < t ∧ m.Fresh a s t

/-- An entry at the time `t` is excused by a waiver, at that time or before. -/
def Waived (t : τ) : Prop := ∃ s ∈ a.waivers, s ≤ t ∧ m.Fresh a s t

def Backed (t : τ) : Prop := m.Caused a t ∨ m.Waived a t

/-- Every entry of the milestone is backed, and so is the place of the machine within its span. -/
structure Sound : Prop where
  past : ∀ x ∈ a.log, m.Stale x.2 ∨ x.2.target = m.entry → x.1 < a.now
  entries : ∀ x ∈ a.log, x.2.target = m.entry → m.Backed a x.1
  place : m.Span a.place → m.Backed a a.now

end Machine.Milestone

namespace Record

/-- Time goes on, and no cause or waiver is taken back. -/
structure Grows (a a' : Record S τ) : Prop where
  now : a.now ≤ a'.now
  causes : a.causes ⊆ a'.causes
  waivers : a.waivers ⊆ a'.waivers

/-- What may happen to the record. -/
inductive Step (m : M.Milestone) (a a' : Record S τ) : Prop
  | quiet (h : a.Grows a') (hlog : a'.log = a.log) (hplace : a'.place = a.place)
  | advance (h : a.Grows a') {u : τ} (hu : a.now ≤ u) (hu' : u < a'.now)
      (hlog : a'.log = a.log ++ [(u, ⟨some a.place, a'.place⟩)]) (hedge : M.Edge a.place a'.place)
      (hdue : a.place = m.source → a'.place = m.entry →
        u ∈ a'.waivers ∨ ∃ s ∈ a'.causes, a.now ≤ s ∧ s < u)
  | suspend (h : a.Grows a') {u : τ} (hu : a.now ≤ u) (hu' : u < a'.now)
      (hlog : a'.log = a.log ++ [(u, ⟨some a.place, M.hold⟩)]) (hplace : a'.place = a.place)
  | resume (h : a.Grows a') {u : τ} (hu : a.now ≤ u) (hu' : u < a'.now)
      (hlog : a'.log = a.log ++ [(u, ⟨some M.hold, a.place⟩)]) (hplace : a'.place = a.place)

end Record

namespace Machine.Milestone

/-! ### Backing as time goes on -/

/-- What was backed stays so while the log grows by later moves. -/
lemma Backed.grow {t : τ} (h : m.Backed a t) (hgrow : a.Grows a')
    (hlog : ∀ x ∈ a'.log, x ∈ a.log ∨ t ≤ x.1) : m.Backed a' t := by
  have hfresh : ∀ s, m.Fresh a s t → m.Fresh a' s t := by
    intro s hs x hx hstale hlt
    rcases hlog x hx with hx | hle
    · exact hs x hx hstale hlt
    · exact absurd hlt (not_lt.mpr hle)
  rcases h with ⟨s, hs, hlt, hfr⟩ | ⟨s, hs, hle, hfr⟩
  · exact Or.inl ⟨s, hgrow.causes hs, hlt, hfresh s hfr⟩
  · exact Or.inr ⟨s, hgrow.waivers hs, hle, hfresh s hfr⟩

/-- What was backed stays so until the next move that makes it stale. -/
lemma Backed.later {t t' : τ} (h : m.Backed a t) (hle : t ≤ t')
    (hnone : ∀ x ∈ a.log, m.Stale x.2 → t' ≤ x.1 ∨ x.1 < t) : m.Backed a t' := by
  have hfresh : ∀ s, m.Fresh a s t → m.Fresh a s t' := by
    intro s hs x hx hstale hlt
    rcases hnone x hx hstale with hge | hlt'
    · exact absurd hlt (not_lt.mpr hge)
    · exact hs x hx hstale hlt'
  rcases h with ⟨s, hs, hlt, hfr⟩ | ⟨s, hs, hle', hfr⟩
  · exact Or.inl ⟨s, hs, lt_of_lt_of_le hlt hle, hfresh s hfr⟩
  · exact Or.inr ⟨s, hs, hle'.trans hle, hfresh s hfr⟩

/-! ### One step -/

/-- Within the span, a move that is not stale is backed by what backed the place. -/
lemma Sound.inherit (h : m.Sound a) (hspan : m.Span a.place) (hgrow : a.Grows a') {u : τ}
    {mv : Move S} (hu : a.now ≤ u) (hlog : a'.log = a.log ++ [(u, mv)]) (hfresh : ¬ m.Stale mv)
    {t : τ} (ht : a.now ≤ t) : m.Backed a' t := by
  have hnow : m.Backed a' a.now := by
    refine (h.place hspan).grow hgrow fun x hx => ?_
    rw [hlog] at hx
    rcases List.mem_append.mp hx with hx | hx
    · exact Or.inl hx
    · rw [List.mem_singleton.mp hx]
      exact Or.inr hu
  refine hnow.later ht fun x hx hstale => ?_
  rw [hlog] at hx
  rcases List.mem_append.mp hx with hx | hx
  · exact Or.inr (h.past x hx (Or.inl hstale))
  · rw [List.mem_singleton.mp hx] at hstale
    exact absurd hstale hfresh

/-- The entry of the milestone is backed by its own cause or waiver, then and later. -/
lemma Sound.enter (h : m.Sound a) {u : τ} (hu : a.now ≤ u)
    (hlog : a'.log = a.log ++ [(u, ⟨some m.source, m.entry⟩)])
    (hdue : u ∈ a'.waivers ∨ ∃ s ∈ a'.causes, a.now ≤ s ∧ s < u) {t : τ} (ht : u ≤ t) :
    m.Backed a' t := by
  have hold : ∀ x ∈ a'.log, m.Stale x.2 → x.1 < a.now := by
    intro x hx hstale
    rw [hlog] at hx
    rcases List.mem_append.mp hx with hx | hx
    · exact h.past x hx (Or.inl hstale)
    · rw [List.mem_singleton.mp hx] at hstale
      exact absurd hstale m.fresh_entry
  rcases hdue with hwaived | ⟨s, hs, hnow, hlt⟩
  · exact Or.inr ⟨u, hwaived, ht, fun x hx hstale _ => lt_of_lt_of_le (hold x hx hstale) hu⟩
  · exact Or.inl ⟨s, hs, lt_of_lt_of_le hlt ht,
      fun x hx hstale _ => lt_of_lt_of_le (hold x hx hstale) hnow⟩

/-- A step that logs a move is sound if the move is, where it enters the milestone, and the new
place is, within the span. -/
lemma Sound.move (h : m.Sound a) (hgrow : a.Grows a') {u : τ} {mv : Move S} (hu : a.now ≤ u)
    (hu' : u < a'.now) (hlog : a'.log = a.log ++ [(u, mv)])
    (hentry : mv.target = m.entry → m.Backed a' u)
    (hplace : m.Span a'.place → m.Backed a' a'.now) : m.Sound a' := by
  have hmem : ∀ x ∈ a'.log, x ∈ a.log ∨ x = (u, mv) := by
    intro x hx
    rw [hlog] at hx
    rcases List.mem_append.mp hx with hx | hx
    · exact Or.inl hx
    · exact Or.inr (List.mem_singleton.mp hx)
  refine ⟨fun x hx hmatters => ?_, fun x hx htarget => ?_, hplace⟩
  · rcases hmem x hx with hx | rfl
    · exact lt_of_lt_of_le (h.past x hx hmatters) hgrow.now
    · exact hu'
  · rcases hmem x hx with hx | rfl
    · refine (h.entries x hx htarget).grow hgrow fun y hy => ?_
      rcases hmem y hy with hy | rfl
      · exact Or.inl hy
      · exact Or.inr ((h.past x hx (Or.inr htarget)).le.trans hu)
    · exact hentry htarget

/-- **Every step keeps the entries backed.** -/
theorem Sound.step (h : m.Sound a) (hstep : Record.Step m a a') : m.Sound a' := by
  cases hstep with
  | quiet hgrow hlog hplace =>
    have hold : ∀ x ∈ a'.log, x ∈ a.log := fun x hx => hlog ▸ hx
    refine ⟨fun x hx hmatters => ?_, fun x hx htarget => ?_, fun hspan => ?_⟩
    · exact lt_of_lt_of_le (h.past x (hold x hx) hmatters) hgrow.now
    · exact (h.entries x (hold x hx) htarget).grow hgrow fun y hy => Or.inl (hold y hy)
    · rw [hplace] at hspan
      have hnow : m.Backed a' a.now :=
        (h.place hspan).grow hgrow fun y hy => Or.inl (hold y hy)
      exact hnow.later hgrow.now fun y hy hstale => Or.inr (h.past y (hold y hy) (Or.inl hstale))
  | @advance hgrow u hu hu' hlog hedge hdue =>
    have hbacked : m.Span a'.place → ∀ t, u ≤ t → m.Backed a' t := by
      intro hspan t ht
      rcases m.edge hedge hspan with ⟨hplace, hfresh⟩ | ⟨hsource, hentry⟩
      · exact h.inherit hplace hgrow hu hlog hfresh (hu.trans ht)
      · have hdue := hdue hsource hentry
        rw [hsource, hentry] at hlog
        exact h.enter hu hlog hdue ht
    refine h.move hgrow hu hu' hlog (fun htarget => ?_) fun hspan => hbacked hspan _ hu'.le
    have hspan : m.Span a'.place := by
      have hplace : a'.place = m.entry := htarget
      rw [hplace]
      exact m.span_entry
    exact hbacked hspan u le_rfl
  | @suspend hgrow u hu hu' hlog hplace =>
    refine h.move hgrow hu hu' hlog (fun htarget => absurd htarget.symm m.entry_ne_hold)
      fun hspan => ?_
    rw [hplace] at hspan
    exact h.inherit hspan hgrow hu hlog (m.fresh_suspend hspan) hgrow.now
  | @resume hgrow u hu hu' hlog hplace =>
    have hbacked : m.Span a.place → ∀ t, a.now ≤ t → m.Backed a' t := fun hspan t ht =>
      h.inherit hspan hgrow hu hlog (m.fresh_resume hspan) ht
    refine h.move hgrow hu hu' hlog (fun htarget => ?_) fun hspan => ?_
    · have hspan : m.Span a.place := by
        have hplace : a.place = m.entry := htarget
        rw [hplace]
        exact m.span_entry
      exact hbacked hspan u hu
    · rw [hplace] at hspan
      exact hbacked hspan a'.now hgrow.now

/-- **And so does every run of steps.** -/
theorem Sound.steps (h : m.Sound a) (hsteps : Relation.ReflTransGen (Record.Step m) a a') :
    m.Sound a' := by
  induction hsteps with
  | refl => exact h
  | tail _ hstep ih => exact ih.step hstep

/-- A machine that has just been created has entered no milestone. -/
lemma Sound.start {t : τ} (hlog : a.log = [(t, ⟨none, M.start⟩)]) (hplace : a.place = M.start) :
    m.Sound a := by
  have hmem : ∀ x ∈ a.log, x = (t, ⟨none, M.start⟩) := by
    intro x hx
    rw [hlog] at hx
    exact List.mem_singleton.mp hx
  have hstart : M.start ≠ m.entry := fun heq => m.not_span_start (heq ▸ m.span_entry)
  refine ⟨fun x hx hmatters => ?_, fun x hx htarget => ?_, fun hspan => ?_⟩
  · rw [hmem x hx] at hmatters
    rcases hmatters with hstale | htarget
    · exact absurd hstale m.fresh_start
    · exact absurd htarget hstart
  · rw [hmem x hx] at htarget
    exact absurd htarget hstart
  · rw [hplace] at hspan
    exact absurd hspan m.not_span_start

end Machine.Milestone

end Lib
