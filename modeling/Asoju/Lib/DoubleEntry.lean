/-
Double-entry bookkeeping.

A journal is a list of lines, each of which debits or credits one account by an amount.  It
balances when it debits as much as it credits; balanced postings keep it so.  A trial balance
lists the two totals of every account of a chart, and `trialBalance` says that its two columns
add up to the same for a balanced journal whose lines are all about accounts of the chart.
-/
import Mathlib.Algebra.BigOperators.Group.List.Basic
import Mathlib.Algebra.Order.Ring.Rat
import Mathlib.Data.List.Nodup
import Mathlib.Tactic.Ring
import Mathlib.Tactic.Lemma

namespace Lib

namespace Ledger

/-- A line of a journal: what it debits and what it credits to its account. -/
structure Line (κ : Type) where
  account : κ
  debit : ℚ
  credit : ℚ

variable {κ α : Type} [DecidableEq κ]

/-- The journal debits as much as it credits. -/
def Balanced (journal : List (Line κ)) : Prop :=
  (journal.map Line.debit).sum = (journal.map Line.credit).sum

/-- What the journal debits to an account. -/
def debits (journal : List (Line κ)) (account : κ) : ℚ :=
  ((journal.filter fun l => l.account = account).map Line.debit).sum

/-- What the journal credits to an account. -/
def credits (journal : List (Line κ)) (account : κ) : ℚ :=
  ((journal.filter fun l => l.account = account).map Line.credit).sum

omit [DecidableEq κ] in
@[simp] lemma balanced_nil : Balanced ([] : List (Line κ)) := rfl

omit [DecidableEq κ] in
lemma Balanced.append {j₁ j₂ : List (Line κ)} (h₁ : Balanced j₁) (h₂ : Balanced j₂) :
    Balanced (j₁ ++ j₂) := by
  rw [Balanced] at h₁ h₂ ⊢
  rw [List.map_append, List.map_append, List.sum_append, List.sum_append, h₁, h₂]

/-- A sum over a list, sorted by a key first. -/
lemma sum_by_key {keys : List κ} (hkeys : keys.Nodup) (key : α → κ) (f : α → ℚ) {xs : List α}
    (hxs : ∀ x ∈ xs, key x ∈ keys) :
    (keys.map fun k => ((xs.filter fun x => key x = k).map f).sum).sum = (xs.map f).sum := by
  induction xs with
  | nil => simp
  | cons x xs ih =>
    have hx : (keys.map fun k => if key x = k then f x else 0).sum = f x := by
      simp only [eq_comm (a := key x)]
      rw [List.sum_map_ite_eq, List.count_eq_one_of_mem hkeys (hxs x (List.mem_cons_self ..))]
      simp
    have hsplit : ∀ k, (((x :: xs).filter fun x => key x = k).map f).sum =
        (if key x = k then f x else 0) + ((xs.filter fun x => key x = k).map f).sum := by
      intro k
      by_cases hk : key x = k <;> simp [hk]
    simp only [hsplit, List.sum_map_add, hx, List.map_cons, List.sum_cons]
    rw [ih fun x' hx' => hxs x' (List.mem_cons_of_mem _ hx')]

/-- **The trial balance**: the debits of the accounts add up to their credits. -/
theorem trialBalance {accounts : List κ} (haccounts : accounts.Nodup) {journal : List (Line κ)}
    (hjournal : ∀ l ∈ journal, l.account ∈ accounts) (hbalanced : Balanced journal) :
    (accounts.map (debits journal)).sum = (accounts.map (credits journal)).sum := by
  have hdebits := sum_by_key haccounts Line.account Line.debit hjournal
  have hcredits := sum_by_key haccounts Line.account Line.credit hjournal
  exact hdebits.trans (hbalanced.trans hcredits.symm)

end Ledger

end Lib
