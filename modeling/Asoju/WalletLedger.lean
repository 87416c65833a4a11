/-
The wallets and the double-entry ledger agree.

A wallet is a projection: its balance and its totals are the sums of the agent's entries, and
what the ledger says the agent is owed.  The invariant is in three parts, the journal alone
(`JournalOk`), the wallets against the entries and the journal (`WalletsOk`), and the vouchers,
one posting for each earning and each payout (`VouchersOk`).  An earning and a payout differ in
what they write; what they do to the three parts is one lemma for each part.
-/
import Asoju.WalletCalls
import Asoju.Lib.DoubleEntry

namespace Asoju

open Lib LedgerService

/-! ## What is compared -/

namespace Db

variable (d : Db)

/-- What the agent's entries of one type add up to. -/
def entrySum (type : WalletEntryType) (agentId : Id) : ℚ :=
  ((d.walletEntry.values.filter fun e => e.type = type ∧ e.agentId = agentId).map
    (·.amount.toRat)).sum

/-- The lines of the journal entries that carry the agent. -/
def agentLines (agentId : Id) : List JournalLine :=
  (d.journalEntry.values.filter fun e => e.agentId = some agentId).flatMap (·.lines)

end Db

/-- What a line adds to the credit side. -/
def JournalLine.net (l : JournalLine) : ℚ :=
  match l.direction with
  | .credit => l.amount.toRat
  | .debit => -l.amount.toRat

namespace Db

variable (d : Db)

/-- The agent's net credit on the account with this code. -/
def netCredit (code : AccountCode) (agentId : Id) : ℚ :=
  (((d.agentLines agentId).filter fun l => d.accountCode l.accountId = some code).map
    JournalLine.net).sum

/-- The journal entries for a row of another table. -/
def postingsOf (entityType : String) (entityId : Id) : List JournalEntry :=
  d.journalEntry.values.filter fun e => e.entityType = entityType ∧ e.entityId = some entityId

end Db

/-- **The read model and the ledger agree.** -/
structure Reconciled (d : Db) : Prop where
  balance : ∀ i w, d.walletAccount.get? i = some w →
    w.availableBalance.toRat = d.entrySum .earning w.agentId - d.entrySum .payoutDebit w.agentId
  totals : ∀ i w, d.walletAccount.get? i = some w →
    d.entrySum .earning w.agentId - d.entrySum .payoutDebit w.agentId =
      w.totalEarnings.toRat - w.totalPaid.toRat
  payable : ∀ i w, d.walletAccount.get? i = some w →
    w.totalEarnings.toRat - w.totalPaid.toRat = d.netCredit .agentPayoutPayable w.agentId
  earning : ∀ i e, d.walletEntry.get? i = some e → e.type = .earning →
    (d.postingsOf "WalletEntry" i).length = 1
  payoutDebit : ∀ i e, d.walletEntry.get? i = some e → e.type = .payoutDebit →
    ∃ payoutId, e.payoutId = some payoutId ∧ (d.postingsOf "Payout" payoutId).length = 1
  payout : ∀ i x, d.payout.get? i = some x → (d.postingsOf "Payout" i).length = 1
  trialBalance :
    ((trialBalance d).map TrialBalanceRow.totalDebits).sum =
      ((trialBalance d).map TrialBalanceRow.totalCredits).sum

/-! ## The journal -/

/-- The line as one of double-entry bookkeeping. -/
def JournalLine.line (l : JournalLine) : Ledger.Line Id :=
  { account := l.accountId
    debit := if l.direction = .debit then l.amount.toRat else 0
    credit := if l.direction = .credit then l.amount.toRat else 0 }

/-- The kind and the key of the row that a posting is for. -/
def JournalKey.entity : JournalKey → String × Id
  | .earning walletEntryId => ("WalletEntry", walletEntryId)
  | .payout payoutId => ("Payout", payoutId)

namespace Db

variable (d : Db)

/-- All lines of the journal. -/
def journal : List (Ledger.Line Id) :=
  (d.journalEntry.values.flatMap (·.lines)).map JournalLine.line

end Db

/-- The journal balances, its lines are on accounts of the chart, and its entries carry the
rows that their keys name. -/
structure JournalOk (d : Db) : Prop where
  balanced : Ledger.Balanced d.journal
  charted : ∀ e ∈ d.journalEntry.values, ∀ l ∈ e.lines, (d.accountCode l.accountId).isSome
  keyed : ∀ e ∈ d.journalEntry.values,
    e.entityType = e.idempotencyKey.entity.1 ∧ e.entityId = some e.idempotencyKey.entity.2

/-- A sum over the lines that pass a test. -/
lemma sum_filter_eq {α : Type} (xs : List α) (q : α → Prop) [DecidablePred q] (f : α → ℚ) :
    ((xs.filter fun x => q x).map f).sum = (xs.map fun x => if q x then f x else 0).sum := by
  induction xs with
  | nil => rfl
  | cons x xs ih => by_cases hx : q x <;> simp [hx, ih]

/-- The two columns of the trial balance are those of double-entry bookkeeping. -/
lemma accountTotal_eq (d : Db) (i : Id) :
    accountTotal d.journalEntry.values i .debit = Ledger.debits d.journal i ∧
      accountTotal d.journalEntry.values i .credit = Ledger.credits d.journal i := by
  constructor
  · rw [accountTotal, sum_filter_eq, Ledger.debits, Db.journal, List.filter_map, List.map_map]
    rfl
  · rw [accountTotal, sum_filter_eq, Ledger.credits, Db.journal, List.filter_map, List.map_map]
    rfl

lemma JournalOk.trialBalance {d : Db} (h : JournalOk d) :
    ((trialBalance d).map TrialBalanceRow.totalDebits).sum =
      ((trialBalance d).map TrialBalanceRow.totalCredits).sum := by
  have hcharted : ∀ l ∈ d.journal, l.account ∈ d.ledgerAccount.rows.map Prod.fst := by
    intro l hl
    obtain ⟨x, hx, rfl⟩ := List.mem_map.mp hl
    obtain ⟨e, he, hxe⟩ := List.mem_flatMap.mp hx
    obtain ⟨code, hcode⟩ := Option.isSome_iff_exists.mp (h.charted e he x hxe)
    obtain ⟨a, ha, -⟩ := Option.map_eq_some_iff.mp hcode
    exact List.mem_map.mpr ⟨(x.accountId, a), d.ledgerAccount.mem_rows_iff.mpr ha, rfl⟩
  have hsum := Ledger.trialBalance d.ledgerAccount.nodup hcharted h.balanced
  rw [List.map_map, List.map_map] at hsum
  rw [LedgerService.trialBalance, List.map_map, List.map_map]
  simpa [Function.comp_def, trialBalanceRow, accountTotal_eq] using hsum

/-- A posting of one debit and one credit of the same amount. -/
structure Posting (a b : Db) (params : JournalEntryInput) (debited credited : AccountCode)
    (amount : Money) (l₁ l₂ : JournalLine) : Prop where
  accounts : ∀ i code, a.accountCode i = some code → b.accountCode i = some code
  journalEntry : b.journalEntry = a.journalEntry.insert
    { idempotencyKey := params.idempotencyKey, entityType := params.entityType
      entityId := params.entityId, agentId := params.agentId, description := params.description
      lines := [l₁, l₂] }
  debit : b.accountCode l₁.accountId = some debited ∧ l₁.direction = .debit ∧ l₁.amount = amount
  credit : b.accountCode l₂.accountId = some credited ∧ l₂.direction = .credit ∧ l₂.amount = amount

lemma Db.posted_posting (d : Db) (params : JournalEntryInput) {debited credited : AccountCode}
    {amount : ℚ} (hlines : params.lines = [{ accountCode := debited, direction := .debit, amount },
      { accountCode := credited, direction := .credit, amount }])
    (hkey : d.journalEntryByKey params.idempotencyKey = none) :
    (∃ l₁ l₂, Posting d (d.posted params) params debited credited (money amount) l₁ l₂) ∧
      (d.posted params).walletEntry = d.walletEntry ∧ (d.posted params).payout = d.payout := by
  obtain ⟨ls, hls, hforall⟩ := d.journalLines_charted params.lines
  rw [hlines] at hforall
  rcases hforall with _ | @⟨_, l₁, _, _, hdebit, hrest⟩
  rcases hrest with _ | @⟨_, l₂, _, _, hcredit, hrest⟩
  cases hrest
  have hposted : d.posted params = d.charted.insertRow .journalEntry (d.journalEntryOf params) := by
    rw [Db.posted, hkey]
  rw [hposted]
  have hgrows := d.charted_grows
  refine ⟨⟨l₁, l₂, fun i code hi => hgrows.accountCode hi, ?_, hdebit, hcredit⟩,
    hgrows.walletEntry, hgrows.payout⟩
  show d.charted.journalEntry.insert (d.journalEntryOf params) = _
  rw [hgrows.journalEntry, Db.journalEntryOf, hls, Option.getD_some]

section

variable {a b : Db} {params : JournalEntryInput} {debited credited : AccountCode}
  {amount : Money} {l₁ l₂ : JournalLine}

lemma Posting.journalOk (h : Posting a b params debited credited amount l₁ l₂)
    (ha : JournalOk a) (hparams : params.entityType = params.idempotencyKey.entity.1 ∧
      params.entityId = some params.idempotencyKey.entity.2) : JournalOk b where
  balanced := by
    have hjournal : b.journal = a.journal ++ [l₁.line, l₂.line] := by
      simp [Db.journal, h.journalEntry]
    rw [hjournal]
    refine ha.balanced.append ?_
    simp [Ledger.Balanced, JournalLine.line, h.debit.2.1, h.debit.2.2, h.credit.2.1, h.credit.2.2]
  charted := by
    intro e he l hl
    rw [h.journalEntry, Table.values_insert, List.mem_append, List.mem_singleton] at he
    rcases he with he | rfl
    · obtain ⟨code, hcode⟩ := Option.isSome_iff_exists.mp (ha.charted e he l hl)
      rw [h.accounts _ _ hcode]
      rfl
    · simp only [List.mem_cons, List.not_mem_nil, or_false] at hl
      rcases hl with rfl | rfl
      · rw [h.debit.1]
        rfl
      · rw [h.credit.1]
        rfl
  keyed := by
    intro e he
    rw [h.journalEntry, Table.values_insert, List.mem_append, List.mem_singleton] at he
    rcases he with he | rfl
    · exact ha.keyed e he
    · exact hparams

/-- What the posting adds to an agent's net credit on an account. -/
lemma Posting.netCredit (h : Posting a b params debited credited amount l₁ l₂)
    (ha : JournalOk a) (code : AccountCode) (agentId : Id) :
    b.netCredit code agentId = a.netCredit code agentId +
      if params.agentId = some agentId then
        (if credited = code then amount.toRat else 0) - (if debited = code then amount.toRat else 0)
      else 0 := by
  have hold : (a.agentLines agentId).filter (fun l => b.accountCode l.accountId = some code) =
      (a.agentLines agentId).filter fun l => a.accountCode l.accountId = some code := by
    refine List.filter_congr fun l hl => ?_
    obtain ⟨e, he, hle⟩ := List.mem_flatMap.mp hl
    obtain ⟨code', hcode'⟩ := Option.isSome_iff_exists.mp
      (ha.charted e (List.mem_of_mem_filter he) l hle)
    rw [h.accounts _ _ hcode', hcode']
  have hlines : b.agentLines agentId = a.agentLines agentId ++
      if params.agentId = some agentId then [l₁, l₂] else [] := by
    by_cases hagent : params.agentId = some agentId <;>
      simp [Db.agentLines, h.journalEntry, List.filter_append, hagent]
  rw [Db.netCredit, hlines, List.filter_append, hold, List.map_append, List.sum_append, Db.netCredit]
  congr 1
  by_cases hagent : params.agentId = some agentId
  · rw [if_pos hagent, if_pos hagent]
    by_cases hc : credited = code <;> by_cases hd : debited = code <;>
      simp [h.debit.1, h.credit.1, hc, hd, JournalLine.net, h.debit.2.1, h.debit.2.2,
        h.credit.2.1, h.credit.2.2]
  · rw [if_neg hagent, if_neg hagent]
    rfl

/-- The posting is one more for its own row, and none for any other. -/
lemma Posting.postingsOf (h : Posting a b params debited credited amount l₁ l₂)
    (entityType : String) (entityId : Id) :
    (b.postingsOf entityType entityId).length = (a.postingsOf entityType entityId).length +
      if params.entityType = entityType ∧ params.entityId = some entityId then 1 else 0 := by
  rw [Db.postingsOf, h.journalEntry, Table.values_insert, List.filter_append, List.length_append]
  congr 1
  split_ifs with hentity <;> simp [hentity]

end

/-! ## The wallets -/

/-- An agent has one wallet, entries are about agents that have one, and the wallet, the
entries and the ledger say the same about an agent. -/
structure WalletsOk (d : Db) : Prop where
  unique : ∀ i w, d.walletAccount.get? i = some w → d.walletByAgent w.agentId = some (i, w)
  owner : ∀ e ∈ d.walletEntry.values, (d.walletByAgent e.agentId).isSome
  balance : ∀ i w, d.walletAccount.get? i = some w →
    w.availableBalance.toRat = d.entrySum .earning w.agentId - d.entrySum .payoutDebit w.agentId
  earnings : ∀ i w, d.walletAccount.get? i = some w →
    w.totalEarnings.toRat = d.entrySum .earning w.agentId
  paid : ∀ i w, d.walletAccount.get? i = some w →
    w.totalPaid.toRat = d.entrySum .payoutDebit w.agentId
  payable : ∀ agentId, d.netCredit .agentPayoutPayable agentId =
    d.entrySum .earning agentId - d.entrySum .payoutDebit agentId

/-- An agent without entries has neither earned nor been paid anything. -/
lemma Db.entrySum_eq_zero {d : Db} {agentId : Id}
    (h : ∀ e ∈ d.walletEntry.values, e.agentId ≠ agentId) (type : WalletEntryType) :
    d.entrySum type agentId = 0 := by
  have hnone : d.walletEntry.values.filter
      (fun e => decide (e.type = type ∧ e.agentId = agentId)) = [] := by
    rw [List.filter_eq_nil_iff]
    intro e he hboth
    exact h e he (of_decide_eq_true hboth).2
  rw [Db.entrySum, hnone]
  rfl

lemma Db.entrySum_insert {a b : Db} {e : WalletEntry}
    (h : b.walletEntry = a.walletEntry.insert e) (type : WalletEntryType) (agentId : Id) :
    b.entrySum type agentId = a.entrySum type agentId +
      if e.type = type ∧ e.agentId = agentId then e.amount.toRat else 0 := by
  rw [Db.entrySum, h, Table.values_insert, List.filter_append, List.map_append, List.sum_append]
  by_cases he : e.type = type ∧ e.agentId = agentId
  · rw [if_pos he]
    simp [Db.entrySum, he]
  · rw [if_neg he]
    simp [Db.entrySum, he]

/-- A new, empty wallet for an agent that has none. -/
lemma WalletsOk.insertWallet {d : Db} (h : WalletsOk d) {agentId : Id}
    (hnone : d.walletByAgent agentId = none) :
    WalletsOk (d.insertRow .walletAccount { agentId }) := by
  have hfind : ∀ agentId', (d.insertRow .walletAccount { agentId }).walletByAgent agentId' =
      (d.walletByAgent agentId').or
        (if agentId = agentId' then some (d.walletAccount.next, { agentId }) else none) := by
    intro agentId'
    show (d.walletAccount.insert _).rows.find? _ = _
    rw [Table.rows_insert, List.find?_append]
    by_cases hagent : agentId = agentId' <;> simp [Db.walletByAgent, hagent]
  have hrow : ∀ i w, (d.walletAccount.insert { agentId }).get? i = some w →
      d.walletAccount.get? i = some w ∨ (i = d.walletAccount.next ∧ w = { agentId }) := by
    intro i w hw
    rw [Table.get?_insert] at hw
    split_ifs at hw with hi
    · exact Or.inr ⟨hi, (Option.some.inj hw).symm⟩
    · exact Or.inl hw
  -- Nobody has recorded anything for the agent.
  have hempty : ∀ type, d.entrySum type agentId = 0 := by
    refine Db.entrySum_eq_zero fun e he heq => ?_
    have hsome := h.owner e he
    rw [heq, hnone] at hsome
    cases hsome
  have hzero : (⟨0⟩ : Money).toRat = 0 := by simp [Decimal.toRat]
  refine ⟨fun i w hw => ?_, fun e he => ?_, fun i w hw => ?_, fun i w hw => ?_, fun i w hw => ?_,
    h.payable⟩
  · rw [hfind]
    rcases hrow i w hw with hw | ⟨rfl, rfl⟩
    · rw [h.unique i w hw, Option.some_or]
    · rw [hnone, Option.none_or, if_pos rfl]
  · obtain ⟨x, hx⟩ := Option.isSome_iff_exists.mp (h.owner e he)
    rw [hfind, hx]
    rfl
  · rcases hrow i w hw with hw | ⟨-, rfl⟩
    · exact h.balance i w hw
    · show (⟨0⟩ : Money).toRat = d.entrySum .earning agentId - d.entrySum .payoutDebit agentId
      rw [hempty, hempty, hzero, sub_zero]
  · rcases hrow i w hw with hw | ⟨-, rfl⟩
    · exact h.earnings i w hw
    · exact hzero.trans (hempty _).symm
  · rcases hrow i w hw with hw | ⟨-, rfl⟩
    · exact h.paid i w hw
    · exact hzero.trans (hempty _).symm

/-- What an earning, or a payout, does to a database: it changes one wallet by what is earned
and what is paid, writes one entry, and posts once. -/
structure Recorded (a b : Db) (agentId i : Id) (earned paid : ℚ) (entry : WalletEntry) :
    Prop where
  wallet : ∃ f : WalletAccount → WalletAccount,
    b.walletAccount = a.walletAccount.modify i f ∧ ∀ w, (f w).agentId = w.agentId ∧
      (f w).availableBalance.toRat = w.availableBalance.toRat + (earned - paid) ∧
      (f w).totalEarnings.toRat = w.totalEarnings.toRat + earned ∧
      (f w).totalPaid.toRat = w.totalPaid.toRat + paid
  walletEntry : b.walletEntry = a.walletEntry.insert entry
  agent : entry.agentId = agentId
  earnedAmount : (if entry.type = .earning then entry.amount.toRat else 0) = earned
  paidAmount : (if entry.type = .payoutDebit then entry.amount.toRat else 0) = paid
  payable : ∀ agentId', b.netCredit .agentPayoutPayable agentId' =
    a.netCredit .agentPayoutPayable agentId' + if agentId = agentId' then earned - paid else 0

/-- The agreement of the wallets survives an earning or a payout. -/
lemma WalletsOk.record {a b : Db} (h : WalletsOk a) {agentId i : Id} {w : WalletAccount}
    {earned paid : ℚ} {entry : WalletEntry} (hw : a.walletByAgent agentId = some (i, w))
    (hrec : Recorded a b agentId i earned paid entry) : WalletsOk b := by
  obtain ⟨⟨f, hwallet, hf⟩, hentry, hagent, hearned, hpaid, hnet⟩ := hrec
  have hearning : ∀ agentId', b.entrySum .earning agentId' = a.entrySum .earning agentId' +
      if agentId = agentId' then earned else 0 := by
    intro agentId'
    rw [Db.entrySum_insert hentry, hagent, ← hearned, ite_and]
    split_ifs <;> rfl
  have hdebit : ∀ agentId', b.entrySum .payoutDebit agentId' =
      a.entrySum .payoutDebit agentId' + if agentId = agentId' then paid else 0 := by
    intro agentId'
    rw [Db.entrySum_insert hentry, hagent, ← hpaid, ite_and]
    split_ifs <;> rfl
  have hfind : ∀ agentId', b.walletByAgent agentId' = (a.walletByAgent agentId').map fun x =>
      (x.1, if x.1 = i then f x.2 else x.2) := by
    intro agentId'
    rw [Db.walletByAgent, hwallet]
    refine a.walletAccount.find?_mapRows (q := fun x => x.agentId = agentId') fun j x => ?_
    split_ifs
    · rw [(hf x).1]
    · rfl
  -- Each wallet of `b` is one of `a`, and has changed if it is the one of the agent.
  have hrow : ∀ j x, b.walletAccount.get? j = some x → ∃ y, a.walletAccount.get? j = some y ∧
      x = (if j = i then f y else y) ∧ x.agentId = y.agentId ∧
      x.availableBalance.toRat = y.availableBalance.toRat +
        (if agentId = y.agentId then earned - paid else 0) ∧
      x.totalEarnings.toRat = y.totalEarnings.toRat + (if agentId = y.agentId then earned else 0) ∧
      x.totalPaid.toRat = y.totalPaid.toRat + (if agentId = y.agentId then paid else 0) := by
    intro j x hx
    rw [hwallet, Table.get?_modify] at hx
    split_ifs at hx with hj
    · subst hj
      obtain ⟨y, hy, rfl⟩ := Option.map_eq_some_iff.mp hx
      have howner : agentId = y.agentId := by
        obtain rfl := Option.some.inj ((Db.get?_of_walletByAgent hw).1.symm.trans hy)
        exact (Db.get?_of_walletByAgent hw).2.symm
      refine ⟨y, hy, by rw [if_pos rfl], ?_⟩
      rw [if_pos howner, if_pos howner, if_pos howner]
      exact hf y
    · have hother : agentId ≠ x.agentId := by
        rintro rfl
        cases hw.symm.trans (h.unique j x hx)
        exact hj rfl
      refine ⟨x, hx, by rw [if_neg hj], rfl, ?_⟩
      rw [if_neg hother, if_neg hother, if_neg hother]
      exact ⟨(add_zero _).symm, (add_zero _).symm, (add_zero _).symm⟩
  refine ⟨fun j x hx => ?_, fun e he => ?_, fun j x hx => ?_, fun j x hx => ?_, fun j x hx => ?_,
    fun agentId' => ?_⟩
  · obtain ⟨y, hy, hxy, hsame, -⟩ := hrow j x hx
    rw [hsame, hfind, h.unique j y hy, hxy]
    rfl
  · rw [hfind, Option.isSome_map]
    rw [hentry, Table.values_insert, List.mem_append, List.mem_singleton] at he
    rcases he with he | rfl
    · exact h.owner e he
    · rw [hagent, hw]
      rfl
  · obtain ⟨y, hy, -, hsame, hbalance, -⟩ := hrow j x hx
    rw [hbalance, hsame, hearning, hdebit, h.balance j y hy]
    split_ifs <;> ring
  · obtain ⟨y, hy, -, hsame, -, hearnings, -⟩ := hrow j x hx
    rw [hearnings, hsame, hearning, h.earnings j y hy]
  · obtain ⟨y, hy, -, hsame, -, -, hpaid⟩ := hrow j x hx
    rw [hpaid, hsame, hdebit, h.paid j y hy]
  · rw [hnet, h.payable, hearning, hdebit]
    split_ifs <;> ring

/-! ## The vouchers -/

/-- Each earning and each payout has one posting, and there are no others; each payout debit
is about a payout. -/
structure VouchersOk (d : Db) : Prop where
  earnings : ∀ i, (d.postingsOf "WalletEntry" i).length =
    if ((d.walletEntry.get? i).filter fun e => e.type = .earning).isSome then 1 else 0
  payouts : ∀ i, (d.postingsOf "Payout" i).length = if (d.payout.get? i).isSome then 1 else 0
  debits : ∀ i e, d.walletEntry.get? i = some e → e.type = .payoutDebit →
    ∃ payoutId, e.payoutId = some payoutId ∧ (d.payout.get? payoutId).isSome

/-- The key of a row without postings is not taken. -/
lemma journalEntryByKey_eq_none {d : Db} (h : JournalOk d) (key : JournalKey)
    (hnone : (d.postingsOf key.entity.1 key.entity.2).length = 0) :
    d.journalEntryByKey key = none := by
  rw [Db.journalEntryByKey, List.find?_eq_none]
  rintro ⟨i, e⟩ hmem hkey
  have hkey' : e.idempotencyKey = key := of_decide_eq_true hkey
  have he : e ∈ d.journalEntry.values := List.mem_map.mpr ⟨_, hmem, rfl⟩
  obtain ⟨htype, hid⟩ := h.keyed e he
  have hposting : e ∈ d.postingsOf key.entity.1 key.entity.2 := by
    rw [← hkey']
    exact List.mem_filter.mpr ⟨he, by simp [htype, hid]⟩
  rw [List.length_eq_zero_iff.mp hnone] at hposting
  exact absurd hposting List.not_mem_nil

lemma VouchersOk.earning {a b : Db} (h : VouchersOk a) {e : WalletEntry}
    (htype : e.type = .earning) (hentry : b.walletEntry = a.walletEntry.insert e)
    (hpayout : b.payout = a.payout)
    (hearnings : ∀ i, (b.postingsOf "WalletEntry" i).length =
      (a.postingsOf "WalletEntry" i).length + if a.walletEntry.next = i then 1 else 0)
    (hpayouts : ∀ i, (b.postingsOf "Payout" i).length = (a.postingsOf "Payout" i).length) :
    VouchersOk b where
  earnings i := by
    rw [hearnings, h.earnings, hentry, Table.get?_insert]
    by_cases hi : i = a.walletEntry.next
    · subst hi
      simp [htype]
    · simp [hi, Ne.symm hi]
  payouts i := by rw [hpayouts, h.payouts, hpayout]
  debits i e' he' htype' := by
    rw [hentry, Table.get?_insert] at he'
    rw [hpayout]
    split_ifs at he' with hi
    · cases he'
      rw [htype] at htype'
      cases htype'
    · exact h.debits i e' he' htype'

lemma VouchersOk.payingOut {a b : Db} (h : VouchersOk a) {e : WalletEntry} {x : Payout}
    (htype : e.type = .payoutDebit) (hid : e.payoutId = some a.payout.next)
    (hentry : b.walletEntry = a.walletEntry.insert e) (hpayout : b.payout = a.payout.insert x)
    (hearnings : ∀ i, (b.postingsOf "WalletEntry" i).length =
      (a.postingsOf "WalletEntry" i).length)
    (hpayouts : ∀ i, (b.postingsOf "Payout" i).length =
      (a.postingsOf "Payout" i).length + if a.payout.next = i then 1 else 0) :
    VouchersOk b where
  earnings i := by
    rw [hearnings, h.earnings, hentry, Table.get?_insert]
    by_cases hi : i = a.walletEntry.next
    · subst hi
      simp [htype]
    · simp [hi]
  payouts i := by
    rw [hpayouts, h.payouts, hpayout, Table.get?_insert]
    by_cases hi : i = a.payout.next
    · subst hi
      simp
    · simp [hi, Ne.symm hi]
  debits i e' he' htype' := by
    rw [hentry, Table.get?_insert] at he'
    rw [hpayout]
    split_ifs at he' with hi
    · cases he'
      exact ⟨_, hid, by rw [Table.get?_insert_self]; rfl⟩
    · obtain ⟨payoutId, hpayoutId, hsome⟩ := h.debits i e' he' htype'
      obtain ⟨y, hy⟩ := Option.isSome_iff_exists.mp hsome
      exact ⟨payoutId, hpayoutId, by rw [Table.get?_insert_of_some hy]; rfl⟩

/-! ## The books -/

/-- **The invariant**: the books are in order. -/
structure Books (d : Db) : Prop where
  journal : JournalOk d
  wallets : WalletsOk d
  vouchers : VouchersOk d

lemma Books.reconciled {d : Db} (h : Books d) : Reconciled d where
  balance := h.wallets.balance
  totals i w hw := by rw [h.wallets.earnings i w hw, h.wallets.paid i w hw]
  payable i w hw := by
    rw [h.wallets.payable, h.wallets.earnings i w hw, h.wallets.paid i w hw]
  earning i e he htype := by rw [h.vouchers.earnings, he]; simp [htype]
  payoutDebit i e he htype := by
    obtain ⟨payoutId, hid, hsome⟩ := h.vouchers.debits i e he htype
    exact ⟨payoutId, hid, by rw [h.vouchers.payouts, if_pos hsome]⟩
  payout i x hx := by rw [h.vouchers.payouts, hx]; rfl
  trialBalance := h.journal.trialBalance

/-- A sum of whole kobo is stored as it is. -/
lemma money_add (balance : Money) {amount : ℚ} (h : amount ∈ Decimal.grid 2) :
    (money (balance.toRat + amount)).toRat = balance.toRat + amount :=
  Decimal.store_toRat_of_mem (AddSubgroup.add_mem _ (Decimal.toRat_mem_grid _) h)

/-- The books after an earning. -/
lemma Books.earning {d : Db} (h : Books d) (actor : AuthenticatedUser) (caseId : Id)
    {agentId i : Id} {w : WalletAccount} (hw : d.walletByAgent agentId = some (i, w))
    {dto : AgentWalletService.RecordEarningDto} (hdto : dto.amount ∈ Decimal.grid 2) :
    Books (d.earning actor caseId agentId i dto) := by
  have hamount : (money dto.amount).toRat = dto.amount := Decimal.store_toRat_of_mem hdto
  have hkey : (d.credited actor caseId agentId i dto).journalEntryByKey
      (.earning d.walletEntry.next) = none := by
    refine journalEntryByKey_eq_none h.journal (.earning d.walletEntry.next) ?_
    show (d.postingsOf "WalletEntry" d.walletEntry.next).length = 0
    rw [h.vouchers.earnings, Table.get?_next]
    rfl
  obtain ⟨⟨l₁, l₂, hp⟩, hentry, hpayout⟩ :=
    (d.credited actor caseId agentId i dto).posted_posting
      (earningInput d.walletEntry.next agentId dto.amount caseId) rfl hkey
  have hposting : Posting d (d.earning actor caseId agentId i dto)
      (earningInput d.walletEntry.next agentId dto.amount caseId) .agentCompensationExpense
      .agentPayoutPayable (money dto.amount) l₁ l₂ :=
    ⟨hp.accounts, hp.journalEntry, hp.debit, hp.credit⟩
  have hrec : Recorded d (d.earning actor caseId agentId i dto) agentId i dto.amount 0
      (AgentWalletService.earningEntry actor caseId agentId i dto) := by
    refine ⟨⟨_, d.earning_walletAccount actor caseId agentId i dto, fun x => ⟨rfl, ?_, ?_, ?_⟩⟩,
      hentry, rfl, hamount, rfl, fun agentId' => ?_⟩
    · rw [sub_zero]
      exact money_add _ hdto
    · exact money_add _ hdto
    · exact (add_zero _).symm
    · have hnet := hposting.netCredit h.journal .agentPayoutPayable agentId'
      rw [hamount] at hnet
      simpa [earningInput] using hnet
  refine ⟨hposting.journalOk h.journal ⟨rfl, rfl⟩, h.wallets.record hw hrec,
    h.vouchers.earning rfl hentry hpayout (fun j => ?_) fun j => ?_⟩
  · have hnew := hposting.postingsOf "WalletEntry" j
    simpa [earningInput] using hnew
  · have hnew := hposting.postingsOf "Payout" j
    simpa [earningInput] using hnew

/-- The books after a payout. -/
lemma Books.payingOut {d : Db} (h : Books d) (actor : AuthenticatedUser)
    {agentId i : Id} {w : WalletAccount} (hw : d.walletByAgent agentId = some (i, w))
    {dto : AgentWalletService.RecordPayoutDto} (hdto : dto.amount ∈ Decimal.grid 2) :
    Books (d.payingOut actor agentId i dto) := by
  have hamount : (money dto.amount).toRat = dto.amount := Decimal.store_toRat_of_mem hdto
  have hkey : (d.debited actor agentId i dto).journalEntryByKey (.payout d.payout.next) =
      none := by
    refine journalEntryByKey_eq_none h.journal (.payout d.payout.next) ?_
    show (d.postingsOf "Payout" d.payout.next).length = 0
    rw [h.vouchers.payouts, Table.get?_next]
    rfl
  obtain ⟨⟨l₁, l₂, hp⟩, hentry, hpayout⟩ :=
    (d.debited actor agentId i dto).posted_posting
      (payoutInput d.payout.next agentId dto.amount) rfl hkey
  have hposting : Posting d (d.payingOut actor agentId i dto)
      (payoutInput d.payout.next agentId dto.amount) .agentPayoutPayable .operatingCash
      (money dto.amount) l₁ l₂ :=
    ⟨hp.accounts, hp.journalEntry, hp.debit, hp.credit⟩
  have hrec : Recorded d (d.payingOut actor agentId i dto) agentId i 0 dto.amount
      (AgentWalletService.payoutEntry actor agentId i d.payout.next dto) := by
    refine ⟨⟨_, d.payingOut_walletAccount actor agentId i dto, fun x => ⟨rfl, ?_, ?_, ?_⟩⟩,
      hentry, rfl, rfl, hamount, fun agentId' => ?_⟩
    · have hneg := money_add x.availableBalance (AddSubgroup.neg_mem _ hdto)
      rw [zero_sub, ← hneg, ← sub_eq_add_neg]
    · exact (add_zero _).symm
    · exact money_add _ hdto
    · have hnet := hposting.netCredit h.journal .agentPayoutPayable agentId'
      rw [hamount] at hnet
      simpa [payoutInput] using hnet
  refine ⟨hposting.journalOk h.journal ⟨rfl, rfl⟩, h.wallets.record hw hrec,
    h.vouchers.payingOut rfl rfl hentry hpayout (fun j => ?_) fun j => ?_⟩
  · have hnew := hposting.postingsOf "WalletEntry" j
    simpa [payoutInput] using hnew
  · have hnew := hposting.postingsOf "Payout" j
    simpa [payoutInput] using hnew

/-! ## Every interleaving -/

/-- The amount of a call. -/
def WalletCall.amount : WalletCall → ℚ
  | .recordEarning _ _ dto => dto.amount
  | .recordPayout _ _ dto => dto.amount

/-- The books stay in order. -/
lemma OrderlyWallets.books_step {p : WalletPool} (h : OrderlyWallets p) (hbooks : Books p.shared)
    (hamounts : ∀ t ∈ p.threads, t.call.amount ∈ Decimal.grid 2) (e : Event WalletCall) :
    Books (p.step WalletCall.code e).shared := by
  rcases h.step_cases e with ⟨heq, -⟩ | ⟨i, t, l, rfl, ht, -, heffect⟩
  · rw [heq]
    exact hbooks
  · have hamount := hamounts t (List.mem_of_getElem? ht)
    generalize (p.step WalletCall.code (.sched i)).shared = s' at heffect
    cases heffect with
    | same hle => exact hbooks
    | wallet agentId hl hw =>
      refine ⟨⟨hbooks.journal.balanced, hbooks.journal.charted, hbooks.journal.keyed⟩,
        hbooks.wallets.insertWallet hw, ?_⟩
      exact ⟨hbooks.vouchers.earnings, hbooks.vouchers.payouts, hbooks.vouchers.debits⟩
    | earning actor caseId agentId j w dto hc hpos hw =>
      rw [hc] at hamount
      exact hbooks.earning actor caseId hw hamount
    | payout actor agentId j w dto hc hl hpos hw =>
      rw [hc] at hamount
      exact hbooks.payingOut actor hw hamount

/-- No wallet, no entry, no payout and no posting exists yet. -/
structure NoBooks (d : Db) : Prop where
  walletAccount : d.walletAccount = .empty
  walletEntry : d.walletEntry = .empty
  payout : d.payout = .empty
  journalEntry : d.journalEntry = .empty

lemma NoBooks.books {d : Db} (h : NoBooks d) : Books d := by
  obtain ⟨hwallet, hentry, hpayout, hjournal⟩ := h
  have hpostings : ∀ entityType i, d.postingsOf entityType i = [] := by
    intro entityType i
    rw [Db.postingsOf, hjournal]
    rfl
  have hnone : ∀ i w, d.walletAccount.get? i ≠ some w := by
    intro i w
    rw [hwallet]
    simp
  refine ⟨⟨?_, ?_, ?_⟩, ⟨fun i w hw => absurd hw (hnone i w), ?_, fun i w hw => absurd hw (hnone i w),
    fun i w hw => absurd hw (hnone i w), fun i w hw => absurd hw (hnone i w), fun agentId => ?_⟩,
    fun i => ?_, fun i => ?_, fun i e he => ?_⟩
  · rw [Db.journal, hjournal]
    rfl
  · rw [hjournal]
    exact fun e he => absurd he List.not_mem_nil
  · rw [hjournal]
    exact fun e he => absurd he List.not_mem_nil
  · rw [hentry]
    exact fun e he => absurd he List.not_mem_nil
  · rw [Db.netCredit, Db.agentLines, hjournal, Db.entrySum, Db.entrySum, hentry]
    simp
  · rw [hpostings, hentry]
    rfl
  · rw [hpostings, hpayout]
    rfl
  · rw [hentry] at he
    cases he

/-- **Wallets and ledger agree** in every state of every interleaving of earnings and payouts
of whole kobo. -/
theorem wallet_ledger_agree (d : Db) (hd : NoBooks d) (es : List (Event WalletCall))
    (hes : ∀ c, Event.start c ∈ es → c.amount ∈ Decimal.grid 2) :
    AllStates (Pool.step WalletCall.code) (fun p => Reconciled p.shared) (Pool.idle d) es := by
  have hsteps : AllSteps (Pool.step WalletCall.code)
      (fun _ e => ∀ c, e = .start c → c.amount ∈ Decimal.grid 2) (Pool.idle d) es := by
    refine AllSteps.of_forall_mem (fun _ e he c hc => ?_) _
    rw [hc] at he
    exact hes c he
  have hall := AllSteps.invariant
    (I := fun p => OrderlyWallets p ∧ Books p.shared ∧
      ∀ t ∈ p.threads, t.call.amount ∈ Decimal.grid 2)
    (fun p e h he => ⟨h.1.step e, h.1.books_step h.2.1 h.2.2 e,
      Pool.forall_call_step WalletCall.code h.2.2 he⟩)
    ⟨.idle d, hd.books, fun _ ht => absurd ht List.not_mem_nil⟩ hsteps
  exact hall.mono fun _ h => h.2.1.reconciled

/-- A case that has passed quality control, with the assignment of its agent. -/
def passedDb : Db where
  clock := 100
  agent := Table.empty.insert { userId := 8, isActive := true }
  serviceCase := Table.empty.insert
    { customerId := 0, serviceType := .propertyInspection, description := "Site visit"
      location := "Lekki", status := .approved }
  assignment := Table.empty.insert
    { caseId := 0, role := .fieldAgent, agentId := some 0, providerId := none
      scheduledFor := none, status := .completed }

/-- Finance records 1000 naira for the case while it records a payout of 400 naira. -/
def earnAndPay : List (Event WalletCall) :=
  .start (.recordEarning ⟨1, .finance⟩ 0 ⟨1000, none⟩) ::
    .start (.recordPayout ⟨1, .finance⟩ 0 ⟨400, none⟩) :: .sched 1 ::
      List.replicate 5 (.sched 0) ++ List.replicate 2 (.sched 1)

theorem wallet_ledger_agree_passedDb :
    AllStates (Pool.step WalletCall.code) (fun p => Reconciled p.shared) (Pool.idle passedDb)
      earnAndPay :=
  wallet_ledger_agree passedDb ⟨rfl, rfl, rfl, rfl⟩ earnAndPay (by
    intro c hc
    simp only [earnAndPay, List.cons_append, List.mem_cons, Event.start.injEq, List.mem_append,
      List.mem_replicate, reduceCtorEq, and_false, or_false] at hc
    rcases hc with rfl | rfl
    · exact Decimal.intCast_mem_grid 1000
    · exact Decimal.intCast_mem_grid 400)

/-- Both go through. -/
example : (runFrom (Pool.step WalletCall.code) (Pool.idle passedDb)
    earnAndPay).shared.walletAccount.values = [⟨0, ⟨60000⟩, ⟨100000⟩, ⟨40000⟩⟩] := by
  decide +kernel

end Asoju
