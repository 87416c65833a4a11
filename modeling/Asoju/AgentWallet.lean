/-
The wallets of the field agents, and the double-entry ledger under them.

Finance records what an agent has earned on a case, and what an agent has been paid.  Each of
the two writes a row, changes the wallet and posts a journal entry, in one transaction.  The
wallet itself is looked up before, outside of it, and so is the balance that a payout is
checked against.

`recordEarningTx_run` and `recordPayoutTx_run` say what the two transactions leave behind.
-/
import Asoju.Cases

namespace Asoju

open Lib

namespace LedgerService

/-! ## The ledger -/

/-- The chart of accounts. -/
def accounts : List LedgerAccount :=
  [ { code := .agentCompensationExpense
      name := "Agent Compensation Expense"
      type := .expense
      description := some "Cost recognized when a field agent earns on a QC-passed case" },
    { code := .agentPayoutPayable
      name := "Agent Payout Payable"
      type := .liability
      description := some "Amount owed to field agents that has not yet been paid out" },
    { code := .operatingCash
      name := "Operating Cash"
      type := .asset
      description := some "Cash actually disbursed to agents on payout" } ]

structure JournalLineInput where
  accountCode : AccountCode
  direction : JournalLineDirection
  amount : ℚ
  description : Option String := none
deriving DecidableEq, Repr

/-- What is posted. -/
structure JournalEntryInput where
  idempotencyKey : JournalKey
  entityType : String
  entityId : Option Id := none
  agentId : Option Id := none
  description : Option String := none
  lines : List JournalLineInput
deriving DecidableEq, Repr

end LedgerService

open LedgerService

namespace Db

variable (d : Db)

/-- The account with this code; a code is unique. -/
def accountIdByCode (code : AccountCode) : Option Id :=
  (d.ledgerAccount.rows.find? fun p => p.2.code = code).map Prod.fst

/-- The journal entry under this key, which is unique. -/
def journalEntryByKey (key : JournalKey) : Option (Id × JournalEntry) :=
  d.journalEntry.rows.find? fun p => p.2.idempotencyKey = key

/-- The lines with the keys of their accounts, if these all exist. -/
def journalLines (lines : List JournalLineInput) : Option (List JournalLine) :=
  lines.mapM fun l => (d.accountIdByCode l.accountCode).map fun accountId =>
    { accountId, direction := l.direction, amount := money l.amount, description := l.description }

/-- The wallet of an agent; there is at most one. -/
def walletByAgent (agentId : Id) : Option (Id × WalletAccount) :=
  d.walletAccount.rows.find? fun p => p.2.agentId = agentId

/-- The newest assignment of a field agent to the case. -/
def latestFieldAssignment (caseId : Id) : Option Assignment :=
  (d.assignment.values.filter fun a => a.caseId = caseId ∧ a.role = .fieldAgent).getLast?

end Db

namespace LedgerService

/-- Creates an account if it is missing; one that is there stays as it is. -/
def ensureAccount (account : LedgerAccount) : Svc Unit := do
  let _ ← Prisma.upsert .ledgerAccount (·.accountIdByCode account.code) (fun _ => account)
    fun _ a => a

def ensureChartOfAccounts : Svc Unit := accounts.forM ensureAccount

/-- What the lines of one direction add up to. -/
def lineTotal (lines : List JournalLineInput) (direction : JournalLineDirection) : ℚ :=
  ((lines.filter fun l => l.direction = direction).map (·.amount)).sum

/-- Posts a balanced journal entry, once for each key. -/
def postJournalEntry (params : JournalEntryInput) : Svc Id := do
  let key := params.idempotencyKey.text
  let lines := params.lines
  if lines.length < 2 then
    throw (.internal s!"Journal entry {key} needs at least 2 lines, got {lines.length}")
  if lines.any fun l => l.amount ≤ 0 then
    throw (.internal s!"Journal entry {key} has a non-positive line amount")
  let totalDebits := lineTotal lines .debit
  let totalCredits := lineTotal lines .credit
  if totalDebits = 0 ∨ totalCredits = 0 then
    throw (.internal s!"Journal entry {key} must have at least one debit line and one credit line")
  if totalDebits ≠ totalCredits then
    throw (.internal (s!"Journal entry {key} does not balance: debits={nairaText totalDebits}, " ++
      s!"credits={nairaText totalCredits}"))
  if let some (i, _) ← Prisma.query .journalEntry (·.journalEntryByKey params.idempotencyKey) then
    return i
  ensureChartOfAccounts
  let some lines ← Prisma.query .ledgerAccount (·.journalLines lines)
    | throw (.internal "Argument accountId is missing")
  Prisma.create .journalEntry fun _ =>
    { idempotencyKey := params.idempotencyKey, entityType := params.entityType
      entityId := params.entityId, agentId := params.agentId, description := params.description
      lines }

/-- The posting of an earning: the company incurs a cost and owes it to the agent. -/
def earningInput (walletEntryId agentId : Id) (amount : ℚ) (caseId : Id) : JournalEntryInput :=
  { idempotencyKey := .earning walletEntryId
    entityType := "WalletEntry"
    entityId := some walletEntryId
    agentId := some agentId
    description := some s!"Agent earning recorded on case {caseId}"
    lines := [{ accountCode := .agentCompensationExpense, direction := .debit, amount },
      { accountCode := .agentPayoutPayable, direction := .credit, amount }] }

/-- The posting of a payout: the debt to the agent is cleared and cash leaves the account. -/
def payoutInput (payoutId agentId : Id) (amount : ℚ) : JournalEntryInput :=
  { idempotencyKey := .payout payoutId
    entityType := "Payout"
    entityId := some payoutId
    agentId := some agentId
    description := some s!"Agent payout {payoutId}"
    lines := [{ accountCode := .agentPayoutPayable, direction := .debit, amount },
      { accountCode := .operatingCash, direction := .credit, amount }] }

def postEarning (walletEntryId agentId : Id) (amount : ℚ) (caseId : Id) : Svc Id :=
  postJournalEntry (earningInput walletEntryId agentId amount caseId)

def postPayout (payoutId agentId : Id) (amount : ℚ) : Svc Id :=
  postJournalEntry (payoutInput payoutId agentId amount)

/-! ## The trial balance -/

structure TrialBalanceRow where
  code : AccountCode
  name : String
  type : LedgerAccountType
  totalDebits : ℚ
  totalCredits : ℚ
  balance : ℚ
deriving DecidableEq, Repr

/-- What the lines of one direction on an account add up to. -/
def accountTotal (journal : List JournalEntry) (accountId : Id)
    (direction : JournalLineDirection) : ℚ :=
  (((journal.flatMap (·.lines)).filter fun l => l.accountId = accountId).filter
    fun l => l.direction = direction).map (·.amount.toRat) |>.sum

/-- The row of an account. -/
def trialBalanceRow (journal : List JournalEntry) (accountId : Id) (account : LedgerAccount) :
    TrialBalanceRow :=
  let debits := accountTotal journal accountId .debit
  let credits := accountTotal journal accountId .credit
  let normalBalanceIsDebit := account.type = .asset ∨ account.type = .expense
  { code := account.code
    name := account.name
    type := account.type
    totalDebits := debits
    totalCredits := credits
    balance := if normalBalanceIsDebit then debits - credits else credits - debits }

/-- The trial balance of the database.  The order of its rows does not matter here. -/
def trialBalance (d : Db) : List TrialBalanceRow :=
  d.ledgerAccount.rows.map fun p => trialBalanceRow d.journalEntry.values p.1 p.2

def getTrialBalance : Svc (List TrialBalanceRow) := Prisma.query .ledgerAccount trialBalance

end LedgerService

namespace AgentWalletService

/-! ## Earnings and payouts -/

def qcPassedStatuses : List CaseStatus := [.approved, .completed, .closed]

structure RecordEarningDto where
  amount : ℚ
  description : Option String := none
deriving DecidableEq, Repr

structure RecordPayoutDto where
  amount : ℚ
  note : Option String := none
deriving DecidableEq, Repr

def getOrCreateWallet (agentId : Id) : Svc Id := do
  if let some (i, _) ← Prisma.query .walletAccount (·.walletByAgent agentId) then return i
  Prisma.createUnique .walletAccount (fun d => (d.walletByAgent agentId).isSome) fun _ => { agentId }

/-- The entry of an earning. -/
def earningEntry (actor : AuthenticatedUser) (caseId agentId walletId : Id)
    (dto : RecordEarningDto) : WalletEntry :=
  { agentId, walletAccountId := walletId, type := .earning, amount := money dto.amount
    caseId := some caseId, description := dto.description, actorId := some actor.id }

/-- The transaction of an earning. -/
def recordEarningTx (actor : AuthenticatedUser) (caseId agentId walletId : Id)
    (dto : RecordEarningDto) : Svc Id := do
  let created ← Prisma.create .walletEntry fun _ => earningEntry actor caseId agentId walletId dto
  let _ ← Prisma.update .walletAccount walletId fun _ w =>
    { w with
      availableBalance := money (w.availableBalance.toRat + dto.amount)
      totalEarnings := money (w.totalEarnings.toRat + dto.amount) }
  let _ ← postEarning created agentId dto.amount caseId
  return created

/-- Finance records what an agent has earned on a case that has passed quality control. -/
def recordEarning (actor : AuthenticatedUser) (caseId : Id) (dto : RecordEarningDto) :
    Svc Id := do
  let some serviceCase ← Prisma.findUnique .serviceCase caseId
    | throw (.notFound "Case not found")
  if serviceCase.status ∉ qcPassedStatuses then
    throw (.badRequest (s!"Cannot record agent earnings for a case in status " ++
      s!"{serviceCase.status.name} — the case must have passed QC first"))
  let assignment ← Prisma.query .assignment (·.latestFieldAssignment caseId)
  let some agentId := assignment.bind Assignment.agentId
    | throw (.badRequest "This case has no field agent assignment to credit earnings against")
  let wallet ← getOrCreateWallet agentId
  Prisma.atomically (recordEarningTx actor caseId agentId wallet dto)

/-- The row of a payout. -/
def payoutRow (agentId : Id) (dto : RecordPayoutDto) : Payout :=
  { recipientType := .fieldAgent, agentId := some agentId, amount := money dto.amount
    status := .paid, note := dto.note }

/-- The entry of a payout. -/
def payoutEntry (actor : AuthenticatedUser) (agentId walletId payoutId : Id)
    (dto : RecordPayoutDto) : WalletEntry :=
  { agentId, walletAccountId := walletId, type := .payoutDebit, amount := money dto.amount
    payoutId := some payoutId, description := dto.note, actorId := some actor.id }

/-- The transaction of a payout. -/
def recordPayoutTx (actor : AuthenticatedUser) (agentId : Id) (wallet : Option Id)
    (dto : RecordPayoutDto) : Svc Id := do
  let created ← Prisma.create .payout fun _ => payoutRow agentId dto
  let some walletId := wallet
    | throw (.internal "Cannot read properties of null (reading 'id')")
  let _ ← Prisma.update .walletAccount walletId fun _ w =>
    { w with
      availableBalance := money (w.availableBalance.toRat - dto.amount)
      totalPaid := money (w.totalPaid.toRat + dto.amount) }
  let _ ← Prisma.create .walletEntry fun _ => payoutEntry actor agentId walletId created dto
  let _ ← postPayout created agentId dto.amount
  return created

/-- Finance records that an agent has been paid; the balance it is checked against is read
before the transaction. -/
def recordPayout (actor : AuthenticatedUser) (agentId : Id) (dto : RecordPayoutDto) :
    Svc Id := do
  let some _ ← Prisma.query .agent (·.agent.get? agentId)
    | throw (.notFound "Agent not found")
  let wallet ← Prisma.query .walletAccount (·.walletByAgent agentId)
  let available := match wallet with
    | some (_, w) => w.availableBalance.toRat
    | none => 0
  if available < dto.amount then
    throw (.badRequest (s!"Payout of {nairaText dto.amount} exceeds available balance of " ++
      s!"{nairaText available} — nothing was recorded"))
  Prisma.atomically (recordPayoutTx actor agentId (wallet.map Prod.fst) dto)

end AgentWalletService

/-! ## What a posting leaves behind -/

namespace Db

variable (d : Db)

/-- The database with a complete chart of accounts. -/
def charted : Db := ensureChartOfAccounts.exec d

/-- The journal entry of a posting. -/
def journalEntryOf (params : JournalEntryInput) : JournalEntry :=
  { idempotencyKey := params.idempotencyKey, entityType := params.entityType
    entityId := params.entityId, agentId := params.agentId, description := params.description
    lines := (d.charted.journalLines params.lines).getD [] }

/-- The database after a posting, which happens once for each key. -/
def posted (params : JournalEntryInput) : Db :=
  match d.journalEntryByKey params.idempotencyKey with
  | some _ => d
  | none => d.charted.insertRow .journalEntry (d.journalEntryOf params)

end Db

/-- Nothing has changed but that accounts were added to the chart. -/
structure ChartGrows (a b : Db) : Prop where
  ledgerAccount : ∀ i x, a.ledgerAccount.get? i = some x → b.ledgerAccount.get? i = some x
  walletAccount : b.walletAccount = a.walletAccount
  walletEntry : b.walletEntry = a.walletEntry
  payout : b.payout = a.payout
  journalEntry : b.journalEntry = a.journalEntry

lemma ChartGrows.refl (d : Db) : ChartGrows d d := ⟨fun _ _ h => h, rfl, rfl, rfl, rfl⟩

lemma ChartGrows.trans (a b c : Db) (h₁ : ChartGrows a b) (h₂ : ChartGrows b c) :
    ChartGrows a c where
  ledgerAccount i x h := h₂.ledgerAccount i x (h₁.ledgerAccount i x h)
  walletAccount := h₂.walletAccount.trans h₁.walletAccount
  walletEntry := h₂.walletEntry.trans h₁.walletEntry
  payout := h₂.payout.trans h₁.payout
  journalEntry := h₂.journalEntry.trans h₁.journalEntry

/-- The code of the account under this key. -/
def Db.accountCode (d : Db) (i : Id) : Option AccountCode := (d.ledgerAccount.get? i).map (·.code)

lemma Db.accountCode_of_find {d : Db} {code : AccountCode} {i : Id}
    (h : d.accountIdByCode code = some i) : d.accountCode i = some code := by
  obtain ⟨⟨j, a⟩, hfind, rfl⟩ := Option.map_eq_some_iff.mp h
  have hrow := d.ledgerAccount.mem_rows_iff.mp (List.mem_of_find?_eq_some hfind)
  have hcode : a.code = code := by simpa using List.find?_some hfind
  rw [Db.accountCode, hrow, Option.map_some, hcode]

lemma ChartGrows.accountCode {a b : Db} (h : ChartGrows a b) {i : Id} {code : AccountCode}
    (hi : a.accountCode i = some code) : b.accountCode i = some code := by
  obtain ⟨x, hx, hcode⟩ := Option.map_eq_some_iff.mp hi
  rw [Db.accountCode, h.ledgerAccount i x hx, Option.map_some, hcode]

/-- There is an account with this code. -/
def Db.HasAccount (d : Db) (code : AccountCode) : Prop := (d.accountIdByCode code).isSome

lemma Db.hasAccount_of_code {d : Db} {i : Id} {code : AccountCode}
    (h : d.accountCode i = some code) : d.HasAccount code := by
  obtain ⟨x, hx, hcode⟩ := Option.map_eq_some_iff.mp h
  rw [Db.HasAccount, Db.accountIdByCode, Option.isSome_map, List.find?_isSome]
  exact ⟨(i, x), d.ledgerAccount.mem_rows_iff.mpr hx, by simpa using hcode⟩

lemma ChartGrows.hasAccount {a b : Db} (h : ChartGrows a b) {code : AccountCode}
    (hcode : a.HasAccount code) : b.HasAccount code := by
  obtain ⟨i, hi⟩ := Option.isSome_iff_exists.mp hcode
  exact Db.hasAccount_of_code (h.accountCode (Db.accountCode_of_find hi))

namespace LedgerService

/-- What ensuring an account does: nothing fails, and the account is there in the end. -/
lemma ensureAccount_run (d : Db) (account : LedgerAccount) :
    ((ensureAccount account).run d).1 = .ok () ∧
      ChartGrows d ((ensureAccount account).exec d) ∧
      ((ensureAccount account).exec d).HasAccount account.code := by
  have hrun : (ensureAccount account).run d = (.ok (), (d.accountIdByCode account.code).elim
      (d.insertRow .ledgerAccount account) fun i => d.modifyRow .ledgerAccount i fun a => a) := by
    rw [ensureAccount, Prog.run_bind, Prisma.run_upsert]
    cases (d.accountIdByCode account.code).bind (Rel.ledgerAccount.get d).get? <;>
      cases d.accountIdByCode account.code <;> rfl
  rw [Prog.exec, hrun]
  refine ⟨rfl, ?_⟩
  cases hfind : d.accountIdByCode account.code with
  | none =>
    have hnew : (d.insertRow .ledgerAccount account).accountCode d.ledgerAccount.next =
        some account.code := by
      show ((d.ledgerAccount.insert account).get? _).map _ = _
      rw [Table.get?_insert_self, Option.map_some]
    refine ⟨⟨fun i x hx => ?_, rfl, rfl, rfl, rfl⟩, Db.hasAccount_of_code hnew⟩
    exact Table.get?_insert_of_some hx _
  | some j =>
    have hgrows : ChartGrows d (d.modifyRow .ledgerAccount j fun a => a) := by
      refine ⟨fun i x hx => ?_, rfl, rfl, rfl, rfl⟩
      show (d.ledgerAccount.modify j _).get? i = some x
      by_cases hi : i = j
      · subst hi
        rw [Table.get?_modify_self, hx, Option.map_some]
      · rw [Table.get?_modify_of_ne _ hi, hx]
    exact ⟨hgrows, hgrows.hasAccount (by rw [Db.HasAccount, hfind]; rfl)⟩

/-- The accounts of a chart are all there in the end, and nothing else has changed. -/
lemma ensureAccounts_run (chart : List LedgerAccount) (d : Db) :
    ((chart.forM ensureAccount).run d).1 = .ok () ∧
      ChartGrows d ((chart.forM ensureAccount).exec d) ∧
      ∀ account ∈ chart, ((chart.forM ensureAccount).exec d).HasAccount account.code := by
  induction chart generalizing d with
  | nil => exact ⟨rfl, .refl d, fun _ h => absurd h List.not_mem_nil⟩
  | cons account chart ih =>
    obtain ⟨hok, hgrows, hthere⟩ := ensureAccount_run d account
    obtain ⟨hok', hgrows', hthere'⟩ := ih ((ensureAccount account).exec d)
    have hrun : ((account :: chart).forM ensureAccount).run d =
        (chart.forM ensureAccount).run ((ensureAccount account).exec d) :=
      Prog.run_bind_ok (Prod.ext hok rfl)
    rw [Prog.exec, hrun]
    refine ⟨hok', .trans _ _ _ hgrows hgrows', fun account' hmem => ?_⟩
    rcases List.mem_cons.mp hmem with rfl | hmem
    · exact hgrows'.hasAccount hthere
    · exact hthere' account' hmem

lemma ensureChartOfAccounts_run (d : Db) :
    ensureChartOfAccounts.run d = (.ok (), d.charted) :=
  Prod.ext (ensureAccounts_run accounts d).1 rfl

end LedgerService

lemma Db.charted_grows (d : Db) : ChartGrows d d.charted := (ensureAccounts_run accounts d).2.1

lemma Db.charted_hasAccount (d : Db) (code : AccountCode) : d.charted.HasAccount code := by
  have hall := (ensureAccounts_run accounts d).2.2
  cases code with
  | agentCompensationExpense => exact hall _ (List.mem_cons_self ..)
  | agentPayoutPayable => exact hall _ (List.mem_cons_of_mem _ (List.mem_cons_self ..))
  | operatingCash =>
    exact hall _ (List.mem_cons_of_mem _ (List.mem_cons_of_mem _ (List.mem_cons_self ..)))

/-- The lines of a posting, on a complete chart: one for each line that was asked for, on an
account with its code. -/
lemma Db.journalLines_charted (d : Db) (lines : List JournalLineInput) :
    ∃ ls, d.charted.journalLines lines = some ls ∧
      List.Forall₂ (fun (l : JournalLineInput) (l' : JournalLine) =>
        d.charted.accountCode l'.accountId = some l.accountCode ∧ l'.direction = l.direction ∧
          l'.amount = money l.amount) lines ls := by
  induction lines with
  | nil => exact ⟨[], rfl, .nil⟩
  | cons l lines ih =>
    obtain ⟨ls, hls, hforall⟩ := ih
    obtain ⟨i, hi⟩ := Option.isSome_iff_exists.mp (d.charted_hasAccount l.accountCode)
    refine ⟨⟨i, l.direction, money l.amount, l.description⟩ :: ls, ?_, ?_⟩
    · rw [Db.journalLines] at hls ⊢
      simp [hi, hls]
    · exact .cons ⟨Db.accountCode_of_find hi, rfl, rfl⟩ hforall

/-- A posting of one debit and one credit of the same amount goes through when the amount is
positive, and writes nothing otherwise. -/
lemma LedgerService.postJournalEntry_run (d : Db) (params : JournalEntryInput)
    {debited credited : AccountCode} {amount : ℚ}
    (hlines : params.lines = [{ accountCode := debited, direction := .debit, amount },
      { accountCode := credited, direction := .credit, amount }]) :
    (0 < amount → ∃ i, (postJournalEntry params).run d = (.ok i, d.posted params)) ∧
      (amount ≤ 0 → ∃ e, (postJournalEntry params).run d = (.error e, d)) := by
  have hdebit : lineTotal params.lines .debit = amount := by simp [lineTotal, hlines]
  have hcredit : lineTotal params.lines .credit = amount := by simp [lineTotal, hlines]
  have hlength : ¬ params.lines.length < 2 := by simp [hlines]
  have hany : (params.lines.any fun l => decide (l.amount ≤ 0)) = decide (amount ≤ 0) := by
    simp [hlines]
  constructor
  · intro hpos
    have hne : ¬ (amount = 0 ∨ amount = 0) := by simp [hpos.ne']
    cases hkey : d.journalEntryByKey params.idempotencyKey with
    | some x =>
      refine ⟨x.1, ?_⟩
      rw [postJournalEntry, Db.posted, hkey]
      simp [Prog.run_bind, hlength, hany, not_le.mpr hpos, hdebit, hcredit, hpos.ne', hkey]
    | none =>
      obtain ⟨ls, hls, -⟩ := d.journalLines_charted params.lines
      refine ⟨d.charted.journalEntry.next, ?_⟩
      rw [postJournalEntry, Db.posted, hkey]
      simp [Prog.run_bind, hlength, hany, not_le.mpr hpos, hdebit, hcredit, hpos.ne', hkey,
        ensureChartOfAccounts_run, hls, Db.journalEntryOf]
  · intro hneg
    refine ⟨.internal s!"Journal entry {params.idempotencyKey.text} has a non-positive line amount", ?_⟩
    rw [postJournalEntry]
    simp [Prog.run_bind, hlength, hany, hneg]

namespace Db

variable (d : Db)

/-- The entry of an earning and the credit to the wallet `walletId`. -/
def credited (actor : AuthenticatedUser) (caseId agentId walletId : Id)
    (dto : AgentWalletService.RecordEarningDto) : Db :=
  (d.insertRow .walletEntry
      (AgentWalletService.earningEntry actor caseId agentId walletId dto)).modifyRow
    .walletAccount walletId fun w =>
      { w with
        availableBalance := money (w.availableBalance.toRat + dto.amount)
        totalEarnings := money (w.totalEarnings.toRat + dto.amount) }

/-- The database after an earning. -/
def earning (actor : AuthenticatedUser) (caseId agentId walletId : Id)
    (dto : AgentWalletService.RecordEarningDto) : Db :=
  (d.credited actor caseId agentId walletId dto).posted
    (earningInput d.walletEntry.next agentId dto.amount caseId)

/-- The payout, its entry and the debit of the wallet `walletId`. -/
def debited (actor : AuthenticatedUser) (agentId walletId : Id)
    (dto : AgentWalletService.RecordPayoutDto) : Db :=
  ((d.insertRow .payout (AgentWalletService.payoutRow agentId dto)).modifyRow
    .walletAccount walletId fun w =>
      { w with
        availableBalance := money (w.availableBalance.toRat - dto.amount)
        totalPaid := money (w.totalPaid.toRat + dto.amount) }).insertRow
    .walletEntry (AgentWalletService.payoutEntry actor agentId walletId d.payout.next dto)

/-- The database after a payout. -/
def payingOut (actor : AuthenticatedUser) (agentId walletId : Id)
    (dto : AgentWalletService.RecordPayoutDto) : Db :=
  (d.debited actor agentId walletId dto).posted (payoutInput d.payout.next agentId dto.amount)

end Db

namespace AgentWalletService

variable (d : Db) (actor : AuthenticatedUser) {walletId : Id} {w : WalletAccount}

/-- The transaction of an earning on a wallet that is there: a positive amount is committed,
and any other one is undone. -/
lemma committed_recordEarningTx (caseId agentId : Id)
    (hw : d.walletAccount.get? walletId = some w) (dto : RecordEarningDto) :
    Prisma.committed (recordEarningTx actor caseId agentId walletId dto) d =
      if 0 < dto.amount then d.earning actor caseId agentId walletId dto else d := by
  have hrun : (recordEarningTx actor caseId agentId walletId dto).run d =
      ((postEarning d.walletEntry.next agentId dto.amount caseId >>= fun _ =>
        pure d.walletEntry.next).run (d.credited actor caseId agentId walletId dto)) := by
    refine (Prog.run_bind_ok (Prisma.run_create ..)).trans ?_
    refine (Prog.run_bind_ok (Prisma.run_update_of_some (b := w) ?_ _)).trans rfl
    exact hw
  obtain ⟨hok, herror⟩ := postJournalEntry_run (d.credited actor caseId agentId walletId dto)
    (earningInput d.walletEntry.next agentId dto.amount caseId) rfl
  rw [Prisma.committed, hrun, postEarning, Prog.run_bind]
  split_ifs with hpos
  · obtain ⟨i, hi⟩ := hok hpos
    rw [hi]
    rfl
  · obtain ⟨e, he⟩ := herror (not_lt.mp hpos)
    rw [he]

/-- The transaction of a payout from a wallet that is there. -/
lemma committed_recordPayoutTx (agentId : Id)
    (hw : d.walletAccount.get? walletId = some w) (dto : RecordPayoutDto) :
    Prisma.committed (recordPayoutTx actor agentId (some walletId) dto) d =
      if 0 < dto.amount then d.payingOut actor agentId walletId dto else d := by
  have hrun : (recordPayoutTx actor agentId (some walletId) dto).run d =
      ((postPayout d.payout.next agentId dto.amount >>= fun _ =>
        pure d.payout.next).run (d.debited actor agentId walletId dto)) := by
    refine (Prog.run_bind_ok (Prisma.run_create ..)).trans ?_
    dsimp only
    refine (Prog.run_bind_ok (Prisma.run_update_of_some (b := w) ?_ _)).trans rfl
    exact hw
  obtain ⟨hok, herror⟩ := postJournalEntry_run (d.debited actor agentId walletId dto)
    (payoutInput d.payout.next agentId dto.amount) rfl
  rw [Prisma.committed, hrun, postPayout, Prog.run_bind]
  split_ifs with hpos
  · obtain ⟨i, hi⟩ := hok hpos
    rw [hi]
    rfl
  · obtain ⟨e, he⟩ := herror (not_lt.mp hpos)
    rw [he]

/-- Without a wallet a payout fails after it has written its first row, and is undone. -/
lemma committed_recordPayoutTx_none (agentId : Id) (dto : RecordPayoutDto) :
    Prisma.committed (recordPayoutTx actor agentId none dto) d = d := rfl

end AgentWalletService

end Asoju
