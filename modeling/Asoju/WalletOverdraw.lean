/-
No wallet is overdrawn, as long as every payout is still covered when it commits.

A payout is checked against a balance that it reads before its transaction, and the transaction
subtracts without looking.  `no_overdraw_iff` says what every interleaving of earnings and
payouts has to meet for no balance to become negative, and that this is exact.  The balance is
a number of kobo, and half a kobo is rounded away from zero, which is where the 1/200 comes
from; for a payout of whole kobo it makes no difference (`coveredPayout_iff`).
-/
import Asoju.WalletCalls

namespace Asoju

open Lib

/-- No wallet has a negative balance. -/
def NonNegative (d : Db) : Prop :=
  ∀ i w, d.walletAccount.get? i = some w → 0 ≤ w.availableBalance.toRat

/-- The event makes the transaction of a payout of this amount to the agent run. -/
def PaysOut (p : WalletPool) (e : Event WalletCall) (agentId : Id) (amount : ℚ) : Prop :=
  ∃ i t actor note, e = .sched i ∧ p.threads[i]? = some t ∧
    t.rest.next? = some .transaction ∧ t.call = .recordPayout actor agentId ⟨amount, note⟩

/-- A payout whose transaction runs now is less than half a kobo above the balance as it is
now. -/
def CoveredPayout (p : WalletPool) (e : Event WalletCall) : Prop :=
  ∀ agentId amount, PaysOut p e agentId amount →
    ∀ i w, p.shared.walletByAgent agentId = some (i, w) →
      amount < w.availableBalance.toRat + 1 / 200

/-- An amount of whole kobo is covered when it is at most the balance. -/
lemma coveredPayout_iff {amount : ℚ} (h : amount ∈ Decimal.grid 2) (balance : Money) :
    amount < balance.toRat + 1 / 200 ↔ amount ≤ balance.toRat := by
  constructor
  · intro hlt
    obtain ⟨a, rfl⟩ := h
    rw [Decimal.toRat_le_iff]
    rw [Decimal.toRat, Decimal.toRat] at hlt
    have hunits : (a.units : ℚ) < balance.units + 1 := by linarith
    exact Int.lt_add_one_iff.mp (by exact_mod_cast hunits)
  · intro hle
    linarith

lemma NonNegative.modify {a b : Db} (h : NonNegative a) {i : Id} {w : WalletAccount}
    {f : WalletAccount → WalletAccount} (hw : a.walletAccount.get? i = some w)
    (hb : b.walletAccount = a.walletAccount.modify i f) :
    NonNegative b ↔ 0 ≤ (f w).availableBalance.toRat := by
  constructor
  · intro hnonneg
    refine hnonneg i (f w) ?_
    rw [hb, Table.get?_modify_self, hw, Option.map_some]
  · intro hnonneg j w' hw'
    rw [hb, Table.get?_modify] at hw'
    split_ifs at hw' with hj
    · subst hj
      rw [hw, Option.map_some, Option.some.injEq] at hw'
      rwa [← hw']
    · exact h j w' hw'

/-- A balance stays at or above zero exactly when what is taken from it is covered. -/
lemma money_sub_nonneg_iff (balance : Money) (amount : ℚ) :
    0 ≤ (money (balance.toRat - amount)).toRat ↔ amount < balance.toRat + 1 / 200 := by
  rw [Decimal.store_nonneg_iff]
  constructor <;> intro h <;> linarith

/-- What one step does to the balances. -/
lemma OrderlyWallets.nonNegative_step_iff {p : WalletPool} (h : OrderlyWallets p)
    (hnonneg : NonNegative p.shared) (e : Event WalletCall) :
    NonNegative (p.step WalletCall.code e).shared ↔ CoveredPayout p e := by
  rcases h.step_cases e with ⟨heq, hnone⟩ | ⟨i, t, l, rfl, ht, hl, heffect⟩
  · rw [heq]
    refine iff_of_true hnonneg ?_
    rintro agentId amount ⟨i, t, actor, note, rfl, ht, hl, -⟩
    rw [hnone i t rfl ht] at hl
    cases hl
  · have hpays : ∀ agentId amount, PaysOut p (.sched i) agentId amount →
        l = .transaction ∧ ∃ actor note, t.call = .recordPayout actor agentId ⟨amount, note⟩ := by
      rintro agentId amount ⟨j, t', actor, note, hj, ht', hl', hcall⟩
      cases hj
      obtain rfl := Option.some.inj (ht.symm.trans ht')
      exact ⟨Option.some.inj (hl.symm.trans hl'), actor, note, hcall⟩
    generalize (p.step WalletCall.code (.sched i)).shared = s' at heffect
    cases heffect with
    | same hle =>
      refine iff_of_true hnonneg fun agentId amount hpay j w hw => ?_
      obtain ⟨rfl, actor, note, hcall⟩ := hpays agentId amount hpay
      have hbalance := hnonneg j w (Db.get?_of_walletByAgent hw).1
      have hamount := hle actor agentId _ hcall rfl
      dsimp only at hamount
      linarith
    | wallet agentId hl' hw =>
      refine iff_of_true (fun j w hw => ?_) fun agentId amount hpay => ?_
      · -- A new wallet is empty.
        change (p.shared.walletAccount.insert _).get? j = some w at hw
        rw [Table.get?_insert] at hw
        split_ifs at hw with hj
        · cases hw
          simp [Decimal.toRat]
        · exact hnonneg j w hw
      · obtain ⟨rfl, -⟩ := hpays agentId amount hpay
        cases hl'
    | earning actor caseId agentId j w dto hc hpos hw =>
      have hrow := (Db.get?_of_walletByAgent hw).1
      rw [hnonneg.modify hrow (p.shared.earning_walletAccount actor caseId agentId j dto)]
      refine iff_of_true ?_ fun agentId amount hpay => ?_
      · have hbalance := hnonneg j w hrow
        exact Decimal.le_store (AddSubgroup.zero_mem _) (by linarith)
      · obtain ⟨-, actor', note, hcall⟩ := hpays agentId amount hpay
        cases hc.symm.trans hcall
    | payout actor agentId j w dto hc hl' hpos hw =>
      have hrow := (Db.get?_of_walletByAgent hw).1
      rw [hnonneg.modify hrow (p.shared.payingOut_walletAccount actor agentId j dto)]
      refine (money_sub_nonneg_iff w.availableBalance dto.amount).trans ⟨fun hlt => ?_, fun h => ?_⟩
      · intro agentId' amount hpay j' w' hw'
        obtain ⟨-, actor', note, hcall⟩ := hpays agentId' amount hpay
        cases hc.symm.trans hcall
        cases hw.symm.trans hw'
        exact hlt
      · exact h agentId dto.amount ⟨i, t, actor, dto.note, rfl, ht, hl' ▸ hl, hc⟩ j w hw

/-- **No wallet is overdrawn** exactly when every payout is covered by the balance at the
moment its transaction runs, for every interleaving of any number of earnings and payouts. -/
theorem no_overdraw_iff (d : Db) (hd : NonNegative d) (es : List (Event WalletCall)) :
    AllStates (Pool.step WalletCall.code) (fun p => NonNegative p.shared) (Pool.idle d) es ↔
      AllSteps (Pool.step WalletCall.code) CoveredPayout (Pool.idle d) es :=
  allStates_iff_allSteps_of_invariant
    (I := fun p => OrderlyWallets p ∧ NonNegative p.shared)
    (fun _ h => h.2)
    (fun _ e h he => ⟨h.1.step e, (h.1.nonNegative_step_iff h.2 e).mpr he⟩)
    (fun _ e h => (h.1.nonNegative_step_iff h.2 e).mp)
    ⟨OrderlyWallets.idle d, hd⟩ es

/-- An agent with 1000 naira in the wallet. -/
def earnedDb : Db where
  clock := 100
  agent := Table.empty.insert { userId := 8, isActive := true }
  walletAccount := Table.empty.insert
    { agentId := 0, availableBalance := ⟨100000⟩, totalEarnings := ⟨100000⟩ }

lemma earnedDb_nonNegative : NonNegative earnedDb := by
  intro i w hw
  have hw' := (Table.mem_values_iff _).mpr ⟨i, hw⟩
  obtain rfl := List.mem_singleton.mp hw'
  simp only [Decimal.toRat]
  norm_num

/-- A payout of all of it. -/
def payAll : WalletCall := .recordPayout ⟨1, .finance⟩ 0 ⟨1000, none⟩

theorem no_overdraw_iff_earnedDb :
    AllStates (Pool.step WalletCall.code) (fun p => NonNegative p.shared) (Pool.idle earnedDb)
        (.start payAll :: List.replicate 3 (.sched 0)) ↔
      AllSteps (Pool.step WalletCall.code) CoveredPayout (Pool.idle earnedDb)
        (.start payAll :: List.replicate 3 (.sched 0)) :=
  no_overdraw_iff earnedDb earnedDb_nonNegative _

/-- Two payouts that have both read the balance before either of them commits. -/
def paidTwice : List (Event WalletCall) :=
  [.start payAll, .start payAll, .sched 0, .sched 1, .sched 0, .sched 1, .sched 0, .sched 1]

/-- Both commit, and the wallet is left with 1000 naira less than nothing. -/
theorem overdraw_paidTwice :
    ¬ AllStates (Pool.step WalletCall.code) (fun p => NonNegative p.shared)
      (Pool.idle earnedDb) paidTwice := by
  intro hall
  have hbalance : ((runFrom (Pool.step WalletCall.code) (Pool.idle earnedDb)
      paidTwice).shared.walletAccount.get? 0).map (·.availableBalance) = some ⟨-100000⟩ := by
    decide +kernel
  obtain ⟨w, hw, hunits⟩ := Option.map_eq_some_iff.mp hbalance
  have hnonneg := hall.last 0 w hw
  rw [hunits, Decimal.toRat] at hnonneg
  norm_num at hnonneg

end Asoju
