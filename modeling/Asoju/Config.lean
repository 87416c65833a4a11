/-
The configuration of the services.

Each number is read from the environment when it is needed; one that is unset, is not a
number or is not positive is replaced by a default.
-/
import Asoju.Schema

namespace Asoju

open Lib

/-- The environment variables, as the numbers they parse to. -/
structure Env where
  paymentExpiryHours : Option ℚ := none
  paymentVerificationMinAgeMinutes : Option ℚ := none
  quoteValidityHours : Option ℚ := none
  fxLockHours : Option ℚ := none
  usdToNgnRate : Option ℚ := none
  refundApprovalThresholdNgn : Option ℚ := none

/-- The configured number if it is positive, and the default otherwise. -/
def positiveOr (configured : Option ℚ) (default : ℚ) : ℚ :=
  match configured with
  | some parsed => if 0 < parsed then parsed else default
  | none => default

lemma positiveOr_pos {default : ℚ} (h : 0 < default) (configured : Option ℚ) :
    0 < positiveOr configured default := by
  cases configured with
  | none => exact h
  | some parsed =>
    rw [positiveOr]
    split
    · assumption
    · exact h

variable (env : Env)

def paymentExpiryHours : ℚ := positiveOr env.paymentExpiryHours 24

def paymentVerificationMinAgeMinutes : ℚ := positiveOr env.paymentVerificationMinAgeMinutes 5

def quoteValidityHours : ℚ := positiveOr env.quoteValidityHours (24 * 7)

def fxLockHours : ℚ := positiveOr env.fxLockHours 48

def usdToNgnRate : ℚ := positiveOr env.usdToNgnRate 1600

def refundApprovalThresholdNgn : ℚ := positiveOr env.refundApprovalThresholdNgn 200000

/-- The amount above which a refund needs a second actor is positive. -/
lemma refundApprovalThresholdNgn_pos : 0 < refundApprovalThresholdNgn env :=
  positiveOr_pos (by norm_num) _

/-- The date that a number of milliseconds stands for: fractions are cut off. -/
def dateOf (ms : ℚ) : Time := if 0 ≤ ms then ⌊ms⌋ else ⌈ms⌉

/-- A number of hours in milliseconds. -/
def hoursMs (hours : ℚ) : ℚ := hours * 60 * 60 * 1000

end Asoju
