/-
The circuit breaker around the calls to outside services.

It is closed in normal operation, opens after a number of failures, and then rejects calls until a
cool-down has passed; from then on it is half-open, and lets a number of test calls through, the
first of which to settle decides whether it closes or opens again.

A call runs up to the start of the wrapped function in one piece (`execute`), and again from the
settlement on (`recordSuccess`, `recordFailure`).  Between the two the breaker is free.
-/
import Asoju.Schema

namespace Asoju

inductive CircuitState
  | closed
  | opened
  | halfOpen
deriving DecidableEq, Repr

structure CircuitBreakerConfig where
  name : String
  failureThreshold : Option ℕ := none
  resetTimeoutMs : Option ℕ := none
  halfOpenMaxCalls : Option ℕ := none
  timeoutMs : Option ℕ := none
deriving DecidableEq, Repr

structure CircuitBreakerStats where
  state : CircuitState
  failures : ℕ
  successes : ℕ
  totalCalls : ℕ
  lastFailureAt : Option Time
  lastSuccessAt : Option Time
  openedAt : Option Time
  halfOpenAttempts : ℕ
deriving DecidableEq, Repr

structure CircuitBreakerError where
  message : String
  stats : CircuitBreakerStats
deriving DecidableEq, Repr

structure CircuitBreaker where
  config : CircuitBreakerConfig
  state : CircuitState := .closed
  failures : ℕ := 0
  successes : ℕ := 0
  totalCalls : ℕ := 0
  lastFailureAt : Option Time := none
  lastSuccessAt : Option Time := none
  openedAt : Option Time := none
  halfOpenAttempts : ℕ := 0
deriving DecidableEq, Repr

namespace CircuitBreaker

variable (breaker : CircuitBreaker) (now : Time)

/-- How many failures open the circuit. -/
def failureThreshold : ℕ := breaker.config.failureThreshold.getD 5

/-- How long the circuit stays open before a test call. -/
def resetTimeoutMs : ℕ := breaker.config.resetTimeoutMs.getD 30000

/-- How many test calls the half-open circuit lets through. -/
def halfOpenMaxCalls : ℕ := breaker.config.halfOpenMaxCalls.getD 1

/-- How long a call may take. -/
def timeoutMs : ℕ := breaker.config.timeoutMs.getD 10000

def getStats : CircuitBreakerStats where
  state := breaker.state
  failures := breaker.failures
  successes := breaker.successes
  totalCalls := breaker.totalCalls
  lastFailureAt := breaker.lastFailureAt
  lastSuccessAt := breaker.lastSuccessAt
  openedAt := breaker.openedAt
  halfOpenAttempts := breaker.halfOpenAttempts

def transitionTo (newState : CircuitState) : CircuitBreaker :=
  { breaker with
    state := newState
    openedAt := if newState = .opened then some now else breaker.openedAt }

def recordSuccess : CircuitBreaker :=
  let breaker := { breaker with successes := breaker.successes + 1, lastSuccessAt := some now }
  if breaker.state = .halfOpen then
    { breaker.transitionTo now .closed with failures := 0, halfOpenAttempts := 0 }
  else breaker

def recordFailure : CircuitBreaker :=
  let breaker := { breaker with failures := breaker.failures + 1, lastFailureAt := some now }
  if breaker.state = .halfOpen then
    { breaker.transitionTo now .opened with halfOpenAttempts := 0 }
  else if breaker.state = .closed ∧ breaker.failureThreshold ≤ breaker.failures then
    breaker.transitionTo now .opened
  else breaker

/-- The circuit has been open for as long as it is to be. -/
def CooledDown : Prop := ∃ openedAt ∈ breaker.openedAt, (breaker.resetTimeoutMs : ℤ) ≤ now - openedAt

instance : Decidable (breaker.CooledDown now) :=
  inferInstanceAs (Decidable (∃ openedAt ∈ breaker.openedAt, _))

/-- Lets a call through, unless the circuit is half-open and has let through as many as it may. -/
def checkHalfOpen : CircuitBreaker × Except CircuitBreakerError Unit :=
  if breaker.state = .halfOpen then
    if breaker.halfOpenMaxCalls ≤ breaker.halfOpenAttempts then
      (breaker, .error
        ⟨s!"Circuit \"{breaker.config.name}\" is HALF_OPEN — max test calls reached",
          breaker.getStats⟩)
    else ({ breaker with halfOpenAttempts := breaker.halfOpenAttempts + 1 }, .ok ())
  else (breaker, .ok ())

/-- The breaker after the call has been counted. -/
def counted : CircuitBreaker := { breaker with totalCalls := breaker.totalCalls + 1 }

/-- A call up to the start of the wrapped function, or to its rejection. -/
def execute : CircuitBreaker × Except CircuitBreakerError Unit :=
  let breaker := breaker.counted
  if breaker.state = .opened then
    if breaker.CooledDown now then (breaker.transitionTo now .halfOpen).checkHalfOpen
    else (breaker, .error
      ⟨s!"Circuit \"{breaker.config.name}\" is OPEN — call rejected", breaker.getStats⟩)
  else breaker.checkHalfOpen

/-! ### What a call does -/

variable {breaker : CircuitBreaker} {now : Time}

@[simp] lemma counted_state : breaker.counted.state = breaker.state := rfl

@[simp] lemma counted_halfOpenAttempts :
    breaker.counted.halfOpenAttempts = breaker.halfOpenAttempts := rfl

@[simp] lemma counted_halfOpenMaxCalls :
    breaker.counted.halfOpenMaxCalls = breaker.halfOpenMaxCalls := rfl

@[simp] lemma counted_cooledDown : breaker.counted.CooledDown now ↔ breaker.CooledDown now :=
  Iff.rfl

/-- A call of a closed circuit starts its function. -/
lemma execute_of_closed (h : breaker.state = .closed) :
    breaker.execute now = (breaker.counted, .ok ()) := by
  simp [execute, checkHalfOpen, h]

/-- A call of an open circuit before the cool-down has passed is rejected. -/
lemma execute_of_opened (h : breaker.state = .opened) (hcool : ¬ breaker.CooledDown now) :
    ∃ e, breaker.execute now = (breaker.counted, .error e) := by
  simp [execute, h, hcool]

/-- A half-open circuit that has let through as many calls as it may rejects the next one. -/
lemma checkHalfOpen_of_full (breaker : CircuitBreaker)
    (h : breaker.state = .halfOpen) (hfull : breaker.halfOpenMaxCalls ≤ breaker.halfOpenAttempts) :
    ∃ e, breaker.checkHalfOpen = (breaker, .error e) := by
  simp [checkHalfOpen, h, hfull]

/-- Otherwise it counts the call and lets it through. -/
lemma checkHalfOpen_of_free (breaker : CircuitBreaker)
    (h : breaker.state = .halfOpen) (hfree : ¬ breaker.halfOpenMaxCalls ≤ breaker.halfOpenAttempts) : breaker.checkHalfOpen =
      ({ breaker with halfOpenAttempts := breaker.halfOpenAttempts + 1 }, .ok ()) := by
  simp [checkHalfOpen, h, hfree]

lemma execute_of_halfOpen (h : breaker.state = .halfOpen) :
    breaker.execute now = breaker.counted.checkHalfOpen := by
  simp [execute, h]

/-- A call of an open circuit after the cool-down finds it half-open. -/
lemma execute_of_cooledDown (h : breaker.state = .opened) (hcool : breaker.CooledDown now) :
    breaker.execute now = (breaker.counted.transitionTo now .halfOpen).checkHalfOpen := by
  simp [execute, h, hcool]

/-! ### What a settlement does -/

lemma recordSuccess_of_halfOpen (h : breaker.state = .halfOpen) : breaker.recordSuccess now =
    { breaker with
      state := .closed
      failures := 0
      successes := breaker.successes + 1
      lastSuccessAt := some now
      halfOpenAttempts := 0 } := by
  simp [recordSuccess, transitionTo, h]

lemma recordSuccess_of_ne (h : breaker.state ≠ .halfOpen) : breaker.recordSuccess now =
    { breaker with successes := breaker.successes + 1, lastSuccessAt := some now } := by
  simp [recordSuccess, h]

lemma recordFailure_of_halfOpen (h : breaker.state = .halfOpen) : breaker.recordFailure now =
    { breaker with
      state := .opened
      failures := breaker.failures + 1
      lastFailureAt := some now
      openedAt := some now
      halfOpenAttempts := 0 } := by
  simp [recordFailure, transitionTo, h]

lemma recordFailure_of_threshold (h : breaker.state = .closed)
    (hfull : breaker.failureThreshold ≤ breaker.failures + 1) : breaker.recordFailure now =
    { breaker with
      state := .opened
      failures := breaker.failures + 1
      lastFailureAt := some now
      openedAt := some now } := by
  rw [failureThreshold] at hfull
  simp [recordFailure, transitionTo, failureThreshold, h, hfull]

lemma recordFailure_of_ne (h : breaker.state ≠ .halfOpen)
    (hfew : ¬ (breaker.state = .closed ∧ breaker.failureThreshold ≤ breaker.failures + 1)) :
    breaker.recordFailure now =
      { breaker with failures := breaker.failures + 1, lastFailureAt := some now } := by
  rw [failureThreshold] at hfew
  simp [recordFailure, failureThreshold, h, hfew]

/-- What a settlement does to the breaker at a time, but for its counters: a half-open circuit
closes or opens, a closed one may open, and any other stays as it is. -/
inductive Settles (breaker : CircuitBreaker) (now : Time) (settled : CircuitBreaker) : Prop
  | closes (from_halfOpen : breaker.state = .halfOpen) (state : settled.state = .closed)
      (openedAt : settled.openedAt = breaker.openedAt) (attempts : settled.halfOpenAttempts = 0)
  | opens (from_ne : breaker.state ≠ .opened) (state : settled.state = .opened)
      (openedAt : settled.openedAt = some now) (attempts : settled.halfOpenAttempts = 0)
  | stays (from_ne : breaker.state ≠ .halfOpen) (state : settled.state = breaker.state)
      (openedAt : settled.openedAt = breaker.openedAt) (attempts : settled.halfOpenAttempts = 0)

variable (h : breaker.state ≠ .halfOpen → breaker.halfOpenAttempts = 0)
include h

lemma settles_recordSuccess : breaker.Settles now (breaker.recordSuccess now) ∧
    (breaker.recordSuccess now).config = breaker.config := by
  by_cases hstate : breaker.state = .halfOpen
  · rw [recordSuccess_of_halfOpen hstate]
    exact ⟨.closes hstate rfl rfl rfl, rfl⟩
  · rw [recordSuccess_of_ne hstate]
    exact ⟨.stays hstate rfl rfl (h hstate), rfl⟩

lemma settles_recordFailure : breaker.Settles now (breaker.recordFailure now) ∧
    (breaker.recordFailure now).config = breaker.config := by
  by_cases hstate : breaker.state = .halfOpen
  · rw [recordFailure_of_halfOpen hstate]
    exact ⟨.opens (by simp [hstate]) rfl rfl rfl, rfl⟩
  · by_cases hfull : breaker.state = .closed ∧ breaker.failureThreshold ≤ breaker.failures + 1
    · rw [recordFailure_of_threshold hfull.1 hfull.2]
      exact ⟨.opens (by simp [hfull.1]) rfl rfl (h hstate), rfl⟩
    · rw [recordFailure_of_ne hstate hfull]
      exact ⟨.stays hstate rfl rfl (h hstate), rfl⟩

end CircuitBreaker

end Asoju
