/-
A stopwatch, and a countdown that is kept as a deadline.

A stopwatch shows for how long it has been running.  A countdown for a length of time needs to store
no such reading: it has the time at which it will be over, and while it is paused the time of the
pause.  When it goes on, the deadline is put off by what was left.  `Counts` says that the countdown
is over exactly when the stopwatch shows the length, and every operation keeps it, also those on a
countdown that was over when it was paused.
-/
import Mathlib.Algebra.Order.Group.Int
import Mathlib.Order.Lattice

namespace Lib

/-- What the stopwatch showed at the time `since`, from which on it has been running or not. -/
structure Stopwatch where
  running : Bool
  since : ℤ
  shown : ℤ
deriving DecidableEq, Repr

namespace Stopwatch

variable (w : Stopwatch) (t : ℤ)

/-- What the stopwatch shows. -/
def read : ℤ := if w.running then w.shown + (t - w.since) else w.shown

/-- A stopwatch that is running since the time `t`. -/
def started : Stopwatch := ⟨true, t, 0⟩

/-- The stopwatch runs, or does not run, from `t` on. -/
def turn (running : Bool) : Stopwatch := ⟨running, t, w.read t⟩

/-- The stopwatch begins anew. -/
def reset : Stopwatch := ⟨w.running, t, 0⟩

variable {w t}

@[simp] lemma running_started : (started t).running = true := rfl

@[simp] lemma running_turn (running : Bool) : (w.turn t running).running = running := rfl

@[simp] lemma since_turn (running : Bool) : (w.turn t running).since = t := rfl

@[simp] lemma running_reset : (w.reset t).running = w.running := rfl

@[simp] lemma since_reset : (w.reset t).since = t := rfl

lemma read_of_running (h : w.running = true) : w.read t = w.shown + (t - w.since) := by
  rw [read, if_pos h]

lemma read_of_not_running (h : w.running = false) : w.read t = w.shown := by
  rw [read, if_neg (by simp [h])]

/-- To look at a stopwatch does not change what it shows. -/
lemma read_turn_running (u : ℤ) : (w.turn t w.running).read u = w.read u := by
  cases h : w.running with
  | true =>
    rw [read_of_running rfl, read_of_running h, turn, read_of_running h]
    show w.shown + (t - w.since) + (u - t) = w.shown + (u - w.since)
    omega
  | false =>
    rw [read_of_not_running rfl, read_of_not_running h, turn, read_of_not_running h]

end Stopwatch

/-- A countdown: when it will be over, and the time of the pause, if it is paused. -/
structure Countdown where
  deadline : ℤ
  pausedAt : Option ℤ
deriving DecidableEq, Repr

namespace Countdown

variable (c : Countdown) (t : ℤ)

/-- How much is left. -/
def left : ℤ := c.deadline - c.pausedAt.getD t

def Over : Prop := c.pausedAt = none ∧ c.deadline ≤ t

def pause : Countdown := { c with pausedAt := some t }

/-- The countdown goes on with what was left, if anything was. -/
def resume : Countdown := ⟨t + max 0 (c.left t), none⟩

end Countdown

/-- The countdown goes on while the stopwatch runs, and as much is left of it as the stopwatch lacks
of the length. -/
structure Counts (length : ℤ) (w : Stopwatch) (c : Countdown) : Prop where
  running : w.running = c.pausedAt.isNone
  left : ∀ t, w.since ≤ t → max 0 (c.left t) = max 0 (length - w.read t)

namespace Counts

variable {length t : ℤ} {w : Stopwatch} {c : Countdown}

lemma started : Counts length (.started t) ⟨t + length, none⟩ := by
  refine ⟨rfl, fun u _ => ?_⟩
  rw [Stopwatch.read_of_running rfl]
  simp only [Countdown.left, Option.getD_none, Stopwatch.started]
  congr 1
  omega

/-- **The countdown is over exactly when the stopwatch shows the length.** -/
theorem over_iff (h : Counts length w c) (ht : w.since ≤ t) :
    c.Over t ↔ w.running = true ∧ length ≤ w.read t := by
  have hleft := h.left t ht
  rw [h.running, Countdown.Over, Option.isNone_iff_eq_none]
  refine and_congr_right fun hnone => ?_
  rw [Countdown.left, hnone, Option.getD_none] at hleft
  omega

lemma pause (h : Counts length w c) (ht : w.since ≤ t) (hrunning : c.pausedAt = none) :
    Counts length (w.turn t false) (c.pause t) := by
  refine ⟨rfl, fun u _ => ?_⟩
  rw [Stopwatch.read_of_not_running rfl, Stopwatch.turn, ← h.left t ht]
  simp [Countdown.left, Countdown.pause, hrunning]

lemma resume (h : Counts length w c) (ht : w.since ≤ t) :
    Counts length (w.turn t true) (c.resume t) := by
  refine ⟨rfl, fun u hu => ?_⟩
  have hleft := h.left t ht
  rw [Stopwatch.since_turn] at hu
  rw [Stopwatch.read_of_running rfl, Stopwatch.turn]
  simp only [Countdown.left, Countdown.resume, Option.getD_none] at hleft ⊢
  omega

/-- The countdown begins anew. -/
lemma reset (hrunning : w.running = true) :
    Counts length (w.reset t) ⟨t + length, none⟩ := by
  have hreset : w.reset t = .started t := by rw [Stopwatch.reset, hrunning]; rfl
  rw [hreset]
  exact started

/-- Nothing happens to the countdown. -/
lemma turn_running (h : Counts length w c) (ht : w.since ≤ t) :
    Counts length (w.turn t w.running) c := by
  refine ⟨h.running, fun u hu => ?_⟩
  rw [Stopwatch.read_turn_running]
  exact h.left u (ht.trans hu)

end Counts

end Lib
