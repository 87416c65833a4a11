/-
Timed runs of the circuit breaker.

Calls arrive, functions that have been started settle, and the time passes, in any order; the time
does not pass beyond the timeout of a call under way.

While the circuit is open nothing is started.  As a call takes less time than the cool-down, whatever
is in flight when the circuit becomes half-open has been started since: it is one of the test
calls, and the first of them to settle ends the period.  So the test calls of the period are the
calls in flight, and as many as the breaker has counted.
-/
import Asoju.CircuitBreaker
import Asoju.Lib.Run
import Asoju.Lib.Timed

namespace Asoju

open Lib (Flight Moment Timely MayWait period startedAmong runFrom)

/-- A breaker with the calls under way and what has happened so far. -/
structure Traffic where
  breaker : CircuitBreaker
  now : Time
  inFlight : List (Flight ℕ Time) := []
  /-- The newest moment is the first one. -/
  log : List (Moment ℕ Time CircuitState) := []
deriving DecidableEq, Repr

inductive BreakerEvent
  /-- `execute` is called. -/
  | execute
  /-- The function of a call settles, or its timeout does. -/
  | settle (call : ℕ) (succeeded : Bool)
  /-- Time passes. -/
  | advance (ms : ℕ)
deriving DecidableEq, Repr

namespace Traffic

/-- A moment at which the breaker changes, and perhaps starts a call. -/
def record (traffic : Traffic) (breaker : CircuitBreaker) (started : Option ℕ) : Traffic where
  breaker := breaker
  now := traffic.now
  inFlight := started.toList.map (⟨·, traffic.now⟩) ++ traffic.inFlight
  log := ⟨traffic.now, traffic.breaker.state, breaker.state, started⟩ :: traffic.log

/-- The call is no longer under way. -/
def land (traffic : Traffic) (call : ℕ) : Traffic :=
  { traffic with inFlight := traffic.inFlight.filter (·.call ≠ call) }

/-- Calls are known by their number.  Only a call under way settles, and time passes only as far as
the calls under way allow. -/
def step (traffic : Traffic) : BreakerEvent → Traffic
  | .execute =>
      let (breaker, admitted) := traffic.breaker.execute traffic.now
      traffic.record breaker (admitted.toOption.map fun _ => breaker.totalCalls)
  | .settle call succeeded =>
      if call ∈ traffic.inFlight.map (·.call) then
        (traffic.land call).record
          (if succeeded then traffic.breaker.recordSuccess traffic.now
            else traffic.breaker.recordFailure traffic.now) none
      else traffic
  | .advance ms =>
      if MayWait (traffic.breaker.timeoutMs : Time) (traffic.now + ms) traffic.inFlight then
        { traffic with now := traffic.now + ms }
      else traffic

/-- The circuit opens at the moment. -/
def Opens (m : Moment ℕ Time CircuitState) : Prop := m.source ≠ .opened ∧ m.target = .opened

variable {traffic : Traffic} {breaker : CircuitBreaker} {started : Option ℕ}

/-! ### What is known of the times -/

/-- The times of the calls under way, of the openings and of the starts. -/
structure Timed (traffic : Traffic) : Prop where
  timely : Timely (traffic.breaker.timeoutMs : Time) traffic.now traffic.inFlight
  past : ∀ openedAt ∈ traffic.breaker.openedAt, openedAt ≤ traffic.now
  /-- Nothing under way has been started since the circuit opened. -/
  opened : traffic.breaker.state = .opened →
    ∃ openedAt ∈ traffic.breaker.openedAt, ∀ f ∈ traffic.inFlight, f.startedAt ≤ openedAt
  last : ∀ m ∈ traffic.log, Opens m → ∃ openedAt ∈ traffic.breaker.openedAt, m.time ≤ openedAt
  spaced : traffic.log.Pairwise fun later earlier =>
    later.started ≠ none → Opens earlier →
      earlier.time + traffic.breaker.resetTimeoutMs ≤ later.time

/-- What the breaker makes of the openings: it stays as it is, or opens now. -/
def Dated (traffic : Traffic) (breaker : CircuitBreaker) (started : Option ℕ) : Prop :=
  (breaker.openedAt = traffic.breaker.openedAt ∧
      (breaker.state = .opened → traffic.breaker.state = .opened ∧ started = none)) ∨
    (breaker.openedAt = some traffic.now ∧ breaker.state = .opened ∧ started = none)

lemma Timed.land (h : traffic.Timed) (call : ℕ) : (traffic.land call).Timed where
  timely := h.timely.filter _
  past := h.past
  opened hstate := by
    obtain ⟨openedAt, ho, hf⟩ := h.opened hstate
    exact ⟨openedAt, ho, fun f hmem => hf f (List.mem_filter.mp hmem).1⟩
  last := h.last
  spaced := h.spaced

lemma Timed.record (h : traffic.Timed) (hconfig : breaker.config = traffic.breaker.config)
    (hdated : traffic.Dated breaker started)
    (hstart : started ≠ none → ∀ openedAt ∈ traffic.breaker.openedAt,
      openedAt + traffic.breaker.resetTimeoutMs ≤ traffic.now) :
    (traffic.record breaker started).Timed := by
  have htimeout : breaker.timeoutMs = traffic.breaker.timeoutMs := by
    rw [CircuitBreaker.timeoutMs, hconfig, CircuitBreaker.timeoutMs]
  have hreset : breaker.resetTimeoutMs = traffic.breaker.resetTimeoutMs := by
    rw [CircuitBreaker.resetTimeoutMs, hconfig, CircuitBreaker.resetTimeoutMs]
  refine ⟨?timely, ?past, ?opened, ?last, ?spaced⟩
  case timely =>
    cases started with
    | none => simpa [Traffic.record, htimeout] using h.timely
    | some call =>
      simpa [Traffic.record, htimeout] using h.timely.start (Int.natCast_nonneg _) call
  case past =>
    rcases hdated with ⟨hopened, -⟩ | ⟨hopened, -⟩
    · simpa [Traffic.record, hopened] using h.past
    · simp [Traffic.record, hopened]
  case opened =>
    intro hstate
    rcases hdated with ⟨hopened, hold⟩ | ⟨hopened, -, rfl⟩
    · obtain ⟨hwas, rfl⟩ := hold hstate
      simpa [Traffic.record, hopened] using h.opened hwas
    · exact ⟨traffic.now, by simp [Traffic.record, hopened], fun f hf => (h.timely f hf).1⟩
  case last =>
    rintro m hm hopens
    rcases List.mem_cons.mp hm with rfl | hm
    · -- the circuit opens now
      rcases hdated with ⟨-, hold⟩ | ⟨hopened, -, -⟩
      · exact absurd (hold hopens.2).1 hopens.1
      · exact ⟨traffic.now, by simp [Traffic.record, hopened], le_rfl⟩
    · obtain ⟨openedAt, ho, hle⟩ := h.last m hm hopens
      rcases hdated with ⟨hopened, -⟩ | ⟨hopened, -, -⟩
      · exact ⟨openedAt, by simpa [Traffic.record, hopened] using ho, hle⟩
      · exact ⟨traffic.now, by simp [Traffic.record, hopened], hle.trans (h.past openedAt ho)⟩
  case spaced =>
    refine List.pairwise_cons.mpr ⟨fun m hm hstarted hopens => ?_, ?_⟩
    · obtain ⟨openedAt, ho, hle⟩ := h.last m hm hopens
      calc m.time + (breaker.resetTimeoutMs : Time)
          ≤ openedAt + breaker.resetTimeoutMs := add_le_add_left hle _
        _ = openedAt + traffic.breaker.resetTimeoutMs := by rw [hreset]
        _ ≤ traffic.now := hstart hstarted openedAt ho
    · simpa [Traffic.record, hreset] using h.spaced

/-! ### What is known of the breaker -/

/-- What holds at every moment of a run. -/
structure Orderly (traffic : Traffic) : Prop extends traffic.Timed where
  uncounted : traffic.breaker.state ≠ .halfOpen → traffic.breaker.halfOpenAttempts = 0
  cooled : traffic.breaker.state ≠ .opened → ∀ openedAt ∈ traffic.breaker.openedAt,
    openedAt + traffic.breaker.resetTimeoutMs ≤ traffic.now
  /-- The calls under way are the test calls of the period. -/
  tests : traffic.breaker.state = .halfOpen →
    traffic.inFlight.map (·.call) = startedAmong (period traffic.log) ∧
      (startedAmong (period traffic.log)).length = traffic.breaker.halfOpenAttempts ∧
      traffic.breaker.halfOpenAttempts ≤ traffic.breaker.halfOpenMaxCalls

lemma orderly_start (config : CircuitBreakerConfig) (now : Time) :
    Orderly { breaker := { config := config }, now := now } where
  timely := Lib.timely_nil
  past := by simp
  opened := by simp
  last := by simp
  spaced := List.Pairwise.nil
  uncounted _ := rfl
  cooled := by simp
  tests := by simp

/-- A call is rejected. -/
lemma Orderly.rejected (h : traffic.Orderly) :
    (traffic.record traffic.breaker.counted none).Orderly where
  toTimed := h.toTimed.record rfl (Or.inl ⟨rfl, fun hstate => ⟨hstate, rfl⟩⟩) (absurd rfl)
  uncounted := h.uncounted
  cooled := h.cooled
  tests hstate := by
    rw [Traffic.record, Lib.period_cons_of_eq rfl]
    simpa [startedAmong] using h.tests hstate

/-- A call is let through by a closed circuit. -/
lemma Orderly.started_closed (h : traffic.Orderly) (hstate : traffic.breaker.state = .closed)
    (call : ℕ) : (traffic.record traffic.breaker.counted (some call)).Orderly where
  toTimed := h.toTimed.record rfl (Or.inl ⟨rfl, fun hopened => by simp [hstate] at hopened⟩)
    fun _ => h.cooled (by simp [hstate])
  uncounted := h.uncounted
  cooled := h.cooled
  tests hopen := by simp [Traffic.record, hstate] at hopen

/-- A test call is let through. -/
lemma Orderly.started_halfOpen (h : traffic.Orderly)
    (hstate : traffic.breaker.state = .halfOpen)
    (hfree : ¬ traffic.breaker.halfOpenMaxCalls ≤ traffic.breaker.halfOpenAttempts) (call : ℕ) :
    (traffic.record { traffic.breaker.counted with
      halfOpenAttempts := traffic.breaker.halfOpenAttempts + 1 } (some call)).Orderly where
  toTimed := h.toTimed.record rfl (Or.inl ⟨rfl, fun hopened => by simp [hstate] at hopened⟩)
    fun _ => h.cooled (by simp [hstate])
  uncounted hne := absurd hstate hne
  cooled := h.cooled
  tests _ := by
    obtain ⟨hcalls, hlength, -⟩ := h.tests hstate
    rw [Traffic.record, Lib.period_cons_of_eq rfl]
    refine ⟨by simpa [startedAmong] using hcalls, by simpa [startedAmong] using hlength, ?_⟩
    exact Nat.lt_of_not_le hfree

/-- **The pause outlasts the calls.**  Nothing is under way when the cool-down of an open circuit
has passed. -/
lemma Orderly.drained (h : traffic.Orderly) (hstate : traffic.breaker.state = .opened)
    (hcool : traffic.breaker.CooledDown traffic.now)
    (htimeout : traffic.breaker.timeoutMs < traffic.breaker.resetTimeoutMs) :
    traffic.inFlight = [] := by
  obtain ⟨openedAt, hopened, hbefore⟩ := h.opened hstate
  obtain ⟨openedAt', hopened', hle⟩ := hcool
  obtain rfl := Option.mem_unique hopened hopened'
  exact h.timely.drained hbefore (Int.ofNat_lt.mpr htimeout) (by linarith)

/-- The circuit becomes half-open, and lets the first test call through if it lets any. -/
lemma Orderly.halfOpened (h : traffic.Orderly) (hstate : traffic.breaker.state = .opened)
    (hcool : traffic.breaker.CooledDown traffic.now)
    (htimeout : traffic.breaker.timeoutMs < traffic.breaker.resetTimeoutMs) {breaker}
    {started : Option ℕ} (hconfig : breaker.config = traffic.breaker.config)
    (hopened : breaker.openedAt = traffic.breaker.openedAt) (hhalf : breaker.state = .halfOpen)
    (hattempts : breaker.halfOpenAttempts = started.toList.length)
    (hmax : breaker.halfOpenAttempts ≤ breaker.halfOpenMaxCalls) :
    (traffic.record breaker started).Orderly := by
  have hcooled : ∀ openedAt ∈ traffic.breaker.openedAt,
      openedAt + traffic.breaker.resetTimeoutMs ≤ traffic.now := by
    intro openedAt ho
    obtain ⟨openedAt', ho', hle⟩ := hcool
    obtain rfl := Option.mem_unique ho ho'
    linarith
  refine { toTimed := ?_, uncounted := fun hne => absurd hhalf hne, cooled := ?_, tests := ?_ }
  · exact h.toTimed.record hconfig (Or.inl ⟨hopened, fun ho => by simp [hhalf] at ho⟩)
      fun _ => hcooled
  · intro _ openedAt ho
    have hreset : breaker.resetTimeoutMs = traffic.breaker.resetTimeoutMs := by
      rw [CircuitBreaker.resetTimeoutMs, hconfig, CircuitBreaker.resetTimeoutMs]
    have ho' : openedAt ∈ traffic.breaker.openedAt := hopened ▸ ho
    simpa [Traffic.record, hreset] using hcooled openedAt ho'
  · intro _
    rw [Traffic.record, Lib.period_cons_of_ne (by simp [hstate, hhalf]),
      h.drained hstate hcool htimeout]
    cases started <;> simp_all [startedAmong]

/-- A call. -/
lemma Orderly.execute (h : traffic.Orderly)
    (htimeout : traffic.breaker.timeoutMs < traffic.breaker.resetTimeoutMs) :
    (traffic.step .execute).Orderly := by
  rw [Traffic.step]
  cases hstate : traffic.breaker.state with
  | closed =>
    rw [CircuitBreaker.execute_of_closed hstate]
    exact h.started_closed hstate _
  | opened =>
    by_cases hcool : traffic.breaker.CooledDown traffic.now
    · rw [CircuitBreaker.execute_of_cooledDown hstate hcool]
      have hzero : traffic.breaker.halfOpenAttempts = 0 := h.uncounted (by simp [hstate])
      by_cases hmax : traffic.breaker.halfOpenMaxCalls ≤ traffic.breaker.halfOpenAttempts
      · obtain ⟨e, he⟩ := CircuitBreaker.checkHalfOpen_of_full
          (traffic.breaker.counted.transitionTo traffic.now .halfOpen) rfl hmax
        rw [he]
        exact h.halfOpened hstate hcool htimeout rfl rfl rfl hzero
          (hzero.le.trans (Nat.zero_le _))
      · rw [CircuitBreaker.checkHalfOpen_of_free
          (traffic.breaker.counted.transitionTo traffic.now .halfOpen) rfl hmax]
        exact h.halfOpened hstate hcool htimeout rfl rfl rfl (congrArg (· + 1) hzero)
          (Nat.lt_of_not_le hmax)
    · obtain ⟨e, he⟩ := CircuitBreaker.execute_of_opened hstate hcool
      rw [he]
      exact h.rejected
  | halfOpen =>
    rw [CircuitBreaker.execute_of_halfOpen hstate]
    by_cases hfull : traffic.breaker.halfOpenMaxCalls ≤ traffic.breaker.halfOpenAttempts
    · obtain ⟨e, he⟩ :=
        CircuitBreaker.checkHalfOpen_of_full traffic.breaker.counted hstate hfull
      rw [he]
      exact h.rejected
    · rw [CircuitBreaker.checkHalfOpen_of_free traffic.breaker.counted hstate hfull]
      exact h.started_halfOpen hstate hfull _

/-- A settlement. -/
lemma Orderly.settle (h : traffic.Orderly) (call : ℕ)
    (hsettles : traffic.breaker.Settles traffic.now breaker)
    (hconfig : breaker.config = traffic.breaker.config) :
    ((traffic.land call).record breaker none).Orderly := by
  have hreset : breaker.resetTimeoutMs = traffic.breaker.resetTimeoutMs := by
    rw [CircuitBreaker.resetTimeoutMs, hconfig, CircuitBreaker.resetTimeoutMs]
  have htimed : (traffic.land call).Timed := h.toTimed.land call
  rcases hsettles with ⟨hhalf, hstate, hopened, hzero⟩ | ⟨hne, hstate, hopened, hzero⟩ |
    ⟨hne, hstate, hopened, hzero⟩
  · refine { toTimed := ?_, uncounted := fun _ => hzero, cooled := fun _ => ?_, tests := ?_ }
    · exact htimed.record hconfig (Or.inl ⟨hopened, fun ho => by simp [hstate] at ho⟩) (absurd rfl)
    · simpa [Traffic.record, Traffic.land, hopened, hreset] using h.cooled (by simp [hhalf])
    · intro ho
      simp [Traffic.record, hstate] at ho
  · refine { toTimed := ?_, uncounted := fun _ => hzero, cooled := ?_, tests := ?_ }
    · exact htimed.record hconfig (Or.inr ⟨hopened, hstate, rfl⟩) (absurd rfl)
    · exact fun ho => absurd hstate ho
    · intro ho
      simp [Traffic.record, hstate] at ho
  · refine { toTimed := ?_, uncounted := fun _ => hzero, cooled := ?_, tests := ?_ }
    · exact htimed.record hconfig (Or.inl ⟨hopened, fun ho => ⟨hstate ▸ ho, rfl⟩⟩) (absurd rfl)
    · intro ho
      simpa [Traffic.record, Traffic.land, hopened, hreset] using h.cooled (hstate ▸ ho)
    · exact fun ho => absurd (hstate ▸ ho) hne

/-- Time passes. -/
lemma Orderly.advance (h : traffic.Orderly) (ms : ℕ)
    (hmay : MayWait (traffic.breaker.timeoutMs : Time) (traffic.now + ms) traffic.inFlight) :
    Orderly { traffic with now := traffic.now + ms } := by
  have hle : traffic.now ≤ traffic.now + ms := le_add_of_nonneg_right (Int.natCast_nonneg ms)
  exact
    { timely := h.timely.advance hle hmay
      past := fun openedAt ho => (h.past openedAt ho).trans hle
      opened := h.opened
      last := h.last
      spaced := h.spaced
      uncounted := h.uncounted
      cooled := fun hstate openedAt ho => (h.cooled hstate openedAt ho).trans hle
      tests := h.tests }

/-- **The step rule.** -/
theorem Orderly.step (h : traffic.Orderly)
    (htimeout : traffic.breaker.timeoutMs < traffic.breaker.resetTimeoutMs)
    (event : BreakerEvent) : (traffic.step event).Orderly := by
  cases event with
  | execute => exact h.execute htimeout
  | settle call succeeded =>
    rw [Traffic.step]
    split
    case isTrue =>
      cases succeeded with
      | true =>
        obtain ⟨hsettles, hconfig⟩ := CircuitBreaker.settles_recordSuccess h.uncounted
        exact h.settle call hsettles hconfig
      | false =>
        obtain ⟨hsettles, hconfig⟩ := CircuitBreaker.settles_recordFailure h.uncounted
        exact h.settle call hsettles hconfig
    case isFalse => exact h
  | advance ms =>
    rw [Traffic.step]
    split
    case isTrue hmay => exact h.advance ms hmay
    case isFalse => exact h

/-! ### Every run -/

lemma execute_config (breaker : CircuitBreaker) (now : Time) :
    (breaker.execute now).1.config = breaker.config := by
  unfold CircuitBreaker.execute CircuitBreaker.checkHalfOpen
  grind [CircuitBreaker.counted, CircuitBreaker.transitionTo]

lemma step_config (h : traffic.Orderly) (event : BreakerEvent) :
    (traffic.step event).breaker.config = traffic.breaker.config := by
  cases event with
  | execute => exact execute_config traffic.breaker traffic.now
  | settle call succeeded =>
    rw [Traffic.step]
    split
    case isTrue =>
      cases succeeded with
      | true => exact (CircuitBreaker.settles_recordSuccess h.uncounted).2
      | false => exact (CircuitBreaker.settles_recordFailure h.uncounted).2
    case isFalse => rfl
  | advance ms =>
    rw [Traffic.step]
    split <;> rfl

/-- The next call is rejected. -/
def Rejects (traffic : Traffic) : Prop :=
  (traffic.breaker.execute traffic.now).2.toOption = none

instance (traffic : Traffic) : Decidable traffic.Rejects :=
  inferInstanceAs (Decidable ((traffic.breaker.execute traffic.now).2.toOption = none))

/-- What the breaker guarantees. -/
structure Safe (traffic : Traffic) : Prop where
  /-- Nothing is started until the cool-down has passed since the circuit opened. -/
  spaced : traffic.log.Pairwise fun later earlier =>
    later.started ≠ none → Opens earlier →
      earlier.time + traffic.breaker.resetTimeoutMs ≤ later.time
  /-- A half-open period starts no more calls than it may. -/
  bounded : traffic.breaker.state = .halfOpen →
    (startedAmong (period traffic.log)).length ≤ traffic.breaker.halfOpenMaxCalls
  /-- Only the settlement of a call that was started in it ends a half-open period. -/
  decided : ∀ event, traffic.breaker.state = .halfOpen →
    (traffic.step event).breaker.state ≠ .halfOpen →
      ∃ call succeeded, event = .settle call succeeded ∧ call ∈ startedAmong (period traffic.log)
  /-- A half-open circuit that rejects calls has a test call under way. -/
  tested : traffic.breaker.state = .halfOpen → traffic.Rejects →
    ∃ f ∈ traffic.inFlight, f.call ∈ startedAmong (period traffic.log)

lemma Orderly.decided (h : traffic.Orderly) (event : BreakerEvent)
    (hstate : traffic.breaker.state = .halfOpen)
    (hleaves : (traffic.step event).breaker.state ≠ .halfOpen) :
    ∃ call succeeded, event = .settle call succeeded ∧
      call ∈ startedAmong (period traffic.log) := by
  cases event with
  | execute =>
    -- a call finds the circuit half-open and leaves it so
    refine absurd ?_ hleaves
    rw [Traffic.step, CircuitBreaker.execute_of_halfOpen hstate, CircuitBreaker.checkHalfOpen]
    grind [Traffic.record, CircuitBreaker.counted_state]
  | settle call succeeded =>
    refine ⟨call, succeeded, rfl, ?_⟩
    rw [← (h.tests hstate).1]
    by_contra hcall
    rw [Traffic.step, if_neg hcall] at hleaves
    exact hleaves hstate
  | advance ms =>
    refine absurd ?_ hleaves
    rw [Traffic.step]
    split <;> exact hstate

lemma Orderly.tested (h : traffic.Orderly) (hcalls : 1 ≤ traffic.breaker.halfOpenMaxCalls)
    (hstate : traffic.breaker.state = .halfOpen) (hrejects : traffic.Rejects) :
    ∃ f ∈ traffic.inFlight, f.call ∈ startedAmong (period traffic.log) := by
  obtain ⟨htests, hlength, -⟩ := h.tests hstate
  have hfull : traffic.breaker.halfOpenMaxCalls ≤ traffic.breaker.halfOpenAttempts := by
    by_contra hfree
    rw [Rejects, CircuitBreaker.execute_of_halfOpen hstate,
      CircuitBreaker.checkHalfOpen_of_free traffic.breaker.counted hstate hfree] at hrejects
    exact Option.some_ne_none _ hrejects
  have hpos : 0 < (traffic.inFlight.map (·.call)).length := by
    rw [htests, hlength]
    omega
  rw [List.length_map] at hpos
  obtain ⟨f, hf⟩ := List.exists_mem_of_length_pos hpos
  exact ⟨f, hf, htests ▸ List.mem_map_of_mem hf⟩

lemma Orderly.safe (h : traffic.Orderly) (hcalls : 1 ≤ traffic.breaker.halfOpenMaxCalls) :
    traffic.Safe where
  spaced := h.spaced
  bounded hstate := by
    obtain ⟨-, hlength, hmax⟩ := h.tests hstate
    exact hlength.trans_le hmax
  decided := h.decided
  tested := h.tested hcalls

/-- **The breaker is safe.**  Let a call take less time than the cool-down.  Then in every run of a
new breaker nothing is started before the cool-down has passed since the circuit opened; a half-open
period starts no more calls than it may and ends by the settlement of one of them; and while it
rejects calls, one of them is under way. -/
theorem breaker_safe (config : CircuitBreakerConfig) (now : Time)
    (hcalls : 1 ≤ CircuitBreaker.halfOpenMaxCalls { config := config })
    (htimeout : CircuitBreaker.timeoutMs { config := config } <
      CircuitBreaker.resetTimeoutMs { config := config }) (events : List BreakerEvent) :
    Safe (runFrom step { breaker := { config := config }, now := now } events) := by
  have hrun : Lib.AllStates step (fun traffic => traffic.Orderly ∧ traffic.breaker.config = config)
      { breaker := { config := config }, now := now } events := by
    refine Lib.invariant (fun traffic event h => ?_) ⟨orderly_start config now, rfl⟩ events
    obtain ⟨h, hconfig⟩ := h
    refine ⟨h.step ?_ event, (step_config h event).trans hconfig⟩
    simpa only [CircuitBreaker.timeoutMs, CircuitBreaker.resetTimeoutMs, hconfig] using htimeout
  obtain ⟨h, hconfig⟩ := hrun.last
  refine h.safe ?_
  simpa only [CircuitBreaker.halfOpenMaxCalls, hconfig] using hcalls

/-- Around the calls to the payment provider. -/
def paystackConfig : CircuitBreakerConfig where
  name := "paystack"
  failureThreshold := some 3
  resetTimeoutMs := some 30000
  timeoutMs := some 15000

/-- Three failures, the cool-down, and a test call that has not settled when the next one comes. -/
def outage : List BreakerEvent :=
  [.execute, .execute, .execute, .settle 1 false, .advance 15000, .settle 2 false,
    .settle 3 false, .execute, .advance 30000, .execute]

theorem breaker_safe_outage :
    let traffic := runFrom step { breaker := { config := paystackConfig }, now := 0 } outage
    traffic.breaker.state = .halfOpen ∧ traffic.Rejects ∧
      ∃ f ∈ traffic.inFlight, f.call ∈ startedAmong (period traffic.log) :=
  ⟨by decide, by decide,
    (breaker_safe paystackConfig 0 (by decide) (by decide) outage).tested (by decide) (by decide)⟩

end Traffic

end Asoju
