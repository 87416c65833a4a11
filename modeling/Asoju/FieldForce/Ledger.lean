/-
The ledger of FieldForce: postings of balanced journal entries.

Every movement of money is a journal entry with an idempotency key of its own.  A posting checks
its lines, makes sure that the chart of accounts is there, resolves the accounts of its lines, and
answers a repeat of a key with the entry that has been posted under it.  `run_postJournalEntry`
says what a posting of valid lines does when it runs alone.
-/
import Asoju.FieldForce.Schema
import Asoju.Lib.ClientSteps

namespace Asoju.FieldForce

open Lib

/-! ## The chart of accounts -/

def AccountCode.text : AccountCode → String
  | .agentPendingEarnings => "AGENT_PENDING_EARNINGS"
  | .agentAvailableBalance => "AGENT_AVAILABLE_BALANCE"
  | .asojuFeesRevenue => "ASOJU_FEES_REVENUE"
  | .payoutEscrow => "PAYOUT_ESCROW"
  | .payoutPayable => "PAYOUT_PAYABLE"
  | .customerPayments => "CUSTOMER_PAYMENTS"
  | .customerPayable => "CUSTOMER_PAYABLE"
  | .adjustment => "ADJUSTMENT"

def accountDefinitions : List AccountCode :=
  [.agentPendingEarnings, .agentAvailableBalance, .asojuFeesRevenue, .payoutEscrow,
    .payoutPayable, .customerPayments, .customerPayable, .adjustment]

def isAccount (code : AccountCode) (a : LedgerAccount) : Bool := a.code = code

def seedChartOfAccounts : Svc Unit :=
  accountDefinitions.forM fun code =>
    Client.upsert Db.ledgerAccounts (isAccount code) ⟨code⟩ id

def resolveAccountId (code : AccountCode) : Svc Id := do
  match ← Client.findFirst Db.ledgerAccounts (isAccount code) with
  | some (id, _) => return id
  | none => throw (.thrown s!"LedgerAccount not found: {code.text}")

/-! ## Postings -/

structure JournalPostResult where
  success : Bool
  journalEntryId : Option Id := none
  error : Option String := none
  code : Option String := none
deriving DecidableEq, Repr

def JournalPostResult.rejected (error code : String) : JournalPostResult :=
  { success := false, error := some error, code := some code }

def totalOf (direction : Direction) (lines : List JournalLine) : ℤ :=
  ((lines.filter fun l => l.direction = direction).map JournalLine.amount).sum

/-- What is wrong with the lines of a posting, if anything is. -/
def checkLines (lines : List JournalLine) : Option JournalPostResult :=
  let totalDebits := totalOf .debit lines
  let totalCredits := totalOf .credit lines
  if lines.length < 2 then
    some (.rejected "Journal entry must have at least 2 lines" "INSUFFICIENT_LINES")
  else if lines.any fun l => l.amount ≤ 0 then
    some (.rejected "All line amounts must be positive" "INVALID_AMOUNT")
  else if ¬ ((lines.any fun l => l.direction = .debit) ∧
      lines.any fun l => l.direction = .credit) then
    some (.rejected "Journal entry must have both debits and credits" "UNBALANCED_TYPE")
  else if totalDebits ≠ totalCredits then
    let delta := totalDebits - totalCredits
    some (.rejected
      s!"Journal entry does not balance: debits={totalDebits}, credits={totalCredits}, delta={delta}"
      "UNBALANCED_ENTRY")
  else
    none

/-- What a posting under the key is about. -/
def PostingKey.entity : PostingKey → PostingEntity
  | .earnings missionId => .mission missionId
  | .qcRelease missionId => .mission missionId
  | .payoutRequest payoutId => .payout payoutId
  | .payoutSuccess payoutId => .payout payoutId
  | .payoutReversal payoutId => .payout payoutId

/-- The entry has the idempotency key. -/
def hasKey (key : PostingKey) (e : JournalEntry) : Bool := e.idempotencyKey = key

def resolveAccountIds : List JournalLine → Svc Unit
  | [] => return ()
  | line :: lines => do
      let _ ← resolveAccountId line.account
      resolveAccountIds lines

def postJournalEntry (idempotencyKey : PostingKey) (entity : PostingEntity) (agentId : Id)
    (lines : List JournalLine) : Svc JournalPostResult :=
  match checkLines lines with
  | some rejected => return rejected
  | none => do
      seedChartOfAccounts
      resolveAccountIds lines
      match ← Client.findFirst Db.journalEntries (hasKey idempotencyKey) with
      | some (existing, _) =>
          return {
            success := true
            journalEntryId := some existing
            error := some "IDEMPOTENT"
            code := some "ALREADY_POSTED" }
      | none =>
          let journalEntry ← Client.createUnique Db.journalEntries (hasKey idempotencyKey)
            .uniqueConstraint { idempotencyKey, entity, agentId, lines }
          return { success := true, journalEntryId := some journalEntry }

/-! ### The postings of missions and payouts -/

def earningsLines (payoutAmount asojuFee netPayout : ℤ) : List JournalLine :=
  [⟨.agentPendingEarnings, .debit, netPayout⟩, ⟨.asojuFeesRevenue, .debit, asojuFee⟩,
    ⟨.adjustment, .credit, payoutAmount⟩]

def postEarnings (missionId agentId : Id) (payoutAmount asojuFee netPayout : ℤ) :
    Svc JournalPostResult :=
  postJournalEntry (.earnings missionId) (.mission missionId) agentId
    (earningsLines payoutAmount asojuFee netPayout)

def qcReleaseLines (netPayout : ℤ) : List JournalLine :=
  [⟨.agentAvailableBalance, .debit, netPayout⟩, ⟨.agentPendingEarnings, .credit, netPayout⟩]

def postQcEarningsRelease (missionId agentId : Id) (netPayout : ℤ) : Svc JournalPostResult :=
  postJournalEntry (.qcRelease missionId) (.mission missionId) agentId (qcReleaseLines netPayout)

def payoutRequestLines (amount : ℤ) : List JournalLine :=
  [⟨.payoutEscrow, .debit, amount⟩, ⟨.agentAvailableBalance, .credit, amount⟩]

def postPayoutRequest (payoutId agentId : Id) (amount : ℤ) : Svc JournalPostResult :=
  postJournalEntry (.payoutRequest payoutId) (.payout payoutId) agentId (payoutRequestLines amount)

def payoutSuccessLines (amount asojuFee netAmount : ℤ) : List JournalLine :=
  [⟨.payoutPayable, .debit, netAmount⟩, ⟨.asojuFeesRevenue, .debit, asojuFee⟩,
    ⟨.payoutEscrow, .credit, amount⟩]

def postPayoutSuccess (payoutId agentId : Id) (amount asojuFee netAmount : ℤ) :
    Svc JournalPostResult :=
  postJournalEntry (.payoutSuccess payoutId) (.payout payoutId) agentId
    (payoutSuccessLines amount asojuFee netAmount)

def payoutReversalLines (amount : ℤ) : List JournalLine :=
  [⟨.agentAvailableBalance, .debit, amount⟩, ⟨.payoutEscrow, .credit, amount⟩]

def postPayoutReversal (payoutId agentId : Id) (amount : ℤ) : Svc JournalPostResult :=
  postJournalEntry (.payoutReversal payoutId) (.payout payoutId) agentId
    (payoutReversalLines amount)

/-- The lines that are accepted. -/
lemma checkLines_eq_none_iff (lines : List JournalLine) : checkLines lines = none ↔
    2 ≤ lines.length ∧ (∀ l ∈ lines, 0 < l.amount) ∧
      ((∃ l ∈ lines, l.direction = .debit) ∧ ∃ l ∈ lines, l.direction = .credit) ∧
      totalOf .debit lines = totalOf .credit lines := by
  have hany : ∀ direction, (lines.any fun l => l.direction = direction) = true ↔
      ∃ l ∈ lines, l.direction = direction := by simp
  have hpositive : (lines.any fun l => l.amount ≤ 0) = true ↔ ¬ ∀ l ∈ lines, 0 < l.amount := by
    simp
  simp only [checkLines, hany, hpositive]
  by_cases hlength : lines.length < 2
  · rw [if_pos hlength]
    exact iff_of_false (Option.some_ne_none _) fun h => absurd h.1 (by omega)
  rw [if_neg hlength]
  by_cases hamounts : ∀ l ∈ lines, 0 < l.amount
  swap
  · rw [if_pos hamounts]
    exact iff_of_false (Option.some_ne_none _) fun h => hamounts h.2.1
  rw [if_neg (not_not.mpr hamounts)]
  by_cases hdirections : (∃ l ∈ lines, l.direction = .debit) ∧ ∃ l ∈ lines, l.direction = .credit
  swap
  · rw [if_pos hdirections]
    exact iff_of_false (Option.some_ne_none _) fun h => hdirections h.2.2.1
  rw [if_neg (not_not.mpr hdirections)]
  by_cases hbalance : totalOf .debit lines = totalOf .credit lines
  · rw [if_neg (not_not.mpr hbalance)]
    exact iff_of_true rfl ⟨by omega, hamounts, hdirections, hbalance⟩
  · rw [if_pos hbalance]
    exact iff_of_false (Option.some_ne_none _) fun h => hbalance h.2.2.2

section Valid

variable (amount fee net : ℤ)

lemma checkLines_earningsLines : checkLines (earningsLines amount fee net) = none ↔
    (0 < net ∧ 0 < fee ∧ 0 < amount) ∧ net + fee = amount := by
  simp [checkLines_eq_none_iff, earningsLines, totalOf]

lemma checkLines_qcReleaseLines : checkLines (qcReleaseLines net) = none ↔ 0 < net := by
  simp [checkLines_eq_none_iff, qcReleaseLines, totalOf]

lemma checkLines_payoutRequestLines :
    checkLines (payoutRequestLines amount) = none ↔ 0 < amount := by
  simp [checkLines_eq_none_iff, payoutRequestLines, totalOf]

lemma checkLines_payoutReversalLines :
    checkLines (payoutReversalLines amount) = none ↔ 0 < amount := by
  simp [checkLines_eq_none_iff, payoutReversalLines, totalOf]

lemma checkLines_payoutSuccessLines : checkLines (payoutSuccessLines amount fee net) = none ↔
    (0 < net ∧ 0 < fee ∧ 0 < amount) ∧ net + fee = amount := by
  simp [checkLines_eq_none_iff, payoutSuccessLines, totalOf]

end Valid

/-! ## Balances -/

def JournalLine.signedAmount (l : JournalLine) : ℤ :=
  match l.direction with
  | .debit => l.amount
  | .credit => -l.amount

structure AgentBalances where
  pendingEarnings : ℤ := 0
  availableBalance : ℤ := 0
  inEscrow : ℤ := 0
deriving DecidableEq, Repr

def AgentBalances.add (b : AgentBalances) (l : JournalLine) : AgentBalances :=
  match l.account with
  | .agentPendingEarnings => { b with pendingEarnings := b.pendingEarnings + l.signedAmount }
  | .agentAvailableBalance => { b with availableBalance := b.availableBalance + l.signedAmount }
  | .payoutEscrow => { b with inEscrow := b.inEscrow + l.signedAmount }
  | _ => b

def getAgentLedgerBalances (agentId : Id) : Svc AgentBalances := do
  let entries ← Client.query .journalEntry fun d : Db =>
    d.journalEntry.values.filter fun e => e.agentId = some agentId ∧ e.status = .posted
  entries.foldlM (fun balances entry =>
    entry.lines.foldlM (fun balances line => do
      match ← Client.findFirst Db.ledgerAccounts (isAccount line.account) with
      | some _ => return balances.add line
      | none => return balances) balances) {}

/-- What the lines come to on an account. -/
def netOn (code : AccountCode) (lines : List JournalLine) : ℤ :=
  ((lines.filter fun l => l.account = code).map JournalLine.signedAmount).sum

/-! ## What a posting does alone -/

/-- The chart after an account has been seeded. -/
def seedAccount (t : Table LedgerAccount) (code : AccountCode) : Table LedgerAccount :=
  match t.rows.find? fun p => isAccount code p.2 with
  | some (i, _) => t.modify i id
  | none => t.insert ⟨code⟩

/-- The chart after it has been seeded. -/
def seedAccounts (t : Table LedgerAccount) : Table LedgerAccount :=
  accountDefinitions.foldl seedAccount t

def Db.seeded (d : Db) : Db := { d with ledgerAccount := seedAccounts d.ledgerAccount }

lemma run_seedChartOfAccounts (d : Db) : seedChartOfAccounts.run d = (.ok (), d.seeded) := by
  have hfold : ∀ (codes : List AccountCode) (d : Db),
      codes.foldl (fun d code => (Client.upsert Db.ledgerAccounts (isAccount code) ⟨code⟩ id :
        Svc Unit).exec d) d =
      { d with ledgerAccount := codes.foldl seedAccount d.ledgerAccount } := by
    intro codes
    induction codes with
    | nil => exact fun d => rfl
    | cons code codes ih =>
      intro d
      rw [List.foldl_cons, List.foldl_cons, ih, Prog.exec, Client.run_upsert]
      simp only [TableOf.find, Db.ledgerAccounts, seedAccount]
      cases d.ledgerAccount.rows.find? fun p => isAccount code p.2 <;> rfl
  rw [seedChartOfAccounts, Prog.run_forM (fun _ _ => rfl), hfold]
  rfl

/-- The account is there. -/
def HasAccount (t : Table LedgerAccount) (code : AccountCode) : Prop :=
  (t.rows.find? fun p => isAccount code p.2).isSome

/-- Seeding an account makes it be there, and keeps the others. -/
lemma hasAccount_seedAccount {t : Table LedgerAccount} {code c : AccountCode}
    (hc : c = code ∨ HasAccount t c) : HasAccount (seedAccount t code) c := by
  rw [HasAccount, seedAccount]
  cases hfind : t.rows.find? fun p => isAccount code p.2 with
  | some p =>
    have hkeep := Table.find?_mapRows t (q := isAccount c)
      (f := fun j (b : LedgerAccount) => if j = p.1 then id b else b) (fun j b => by split <;> rfl)
    simp only [Table.modify, hkeep, Option.isSome_map]
    rcases hc with rfl | hc
    · rw [hfind, Option.isSome_some]
    · exact hc
  | none =>
    simp only [Table.find?_insert, Option.isSome_or, Bool.or_eq_true]
    rcases hc with rfl | hc
    · exact Or.inr (by simp [isAccount])
    · exact Or.inl hc

/-- After the seeding the whole chart is there. -/
lemma hasAccount_seedAccounts (t : Table LedgerAccount) (code : AccountCode) :
    HasAccount (seedAccounts t) code := by
  have hfold : ∀ (codes : List AccountCode) (t : Table LedgerAccount),
      code ∈ codes ∨ HasAccount t code → HasAccount (codes.foldl seedAccount t) code := by
    intro codes
    induction codes with
    | nil => exact fun t h => h.resolve_left List.not_mem_nil
    | cons c codes ih =>
      intro t h
      rw [List.mem_cons, or_assoc] at h
      refine ih _ ?_
      rcases h with h | h | h
      · exact Or.inr (hasAccount_seedAccount (Or.inl h))
      · exact Or.inl h
      · exact Or.inr (hasAccount_seedAccount (Or.inr h))
  refine hfold accountDefinitions t (Or.inl ?_)
  cases code <;> decide

/-- The accounts of the lines are resolved where the chart is there. -/
lemma run_resolveAccountIds {d : Db} (h : ∀ code, HasAccount d.ledgerAccount code)
    (lines : List JournalLine) : (resolveAccountIds lines).run d = (.ok (), d) := by
  have hline : ∀ code, ∃ id, (resolveAccountId code).run d = (.ok id, d) := by
    intro code
    obtain ⟨p, hp⟩ := Option.isSome_iff_exists.mp (h code)
    refine ⟨p.1, ?_⟩
    rw [resolveAccountId, Prog.run_bind, Client.run_findFirst]
    simp only [TableOf.find, Db.ledgerAccounts, hp, Prog.run_pure]
  induction lines with
  | nil => rfl
  | cons line lines ih =>
    obtain ⟨id, hid⟩ := hline line.account
    rw [resolveAccountIds, Prog.run_bind_ok hid, ih]

/-- The entry that is posted under the key. -/
def Db.entryUnder (key : PostingKey) (d : Db) : Option Id :=
  (Db.journalEntries.find (hasKey key) d).map Prod.fst

/-- The entry that a posting under the key is answered with. -/
def Db.entryFor (key : PostingKey) (d : Db) : Id := (d.entryUnder key).getD d.journalEntry.next

/-- The database after a posting. -/
def Db.posted (key : PostingKey) (entity : PostingEntity) (agentId : Id)
    (lines : List JournalLine) (d : Db) : Db :=
  if (checkLines lines).isSome then d
  else if (d.entryUnder key).isSome then d.seeded
  else Db.journalEntries.insert
    { idempotencyKey := key, entity, agentId := some agentId, lines } d.seeded

/-- The answer to a posting. -/
def Db.postAnswer (key : PostingKey) (lines : List JournalLine) (d : Db) : JournalPostResult :=
  match checkLines lines, d.entryUnder key with
  | some rejected, _ => rejected
  | none, some existing =>
      { success := true
        journalEntryId := some existing
        error := some "IDEMPOTENT"
        code := some "ALREADY_POSTED" }
  | none, none => { success := true, journalEntryId := some d.journalEntry.next }

/-- A rejection names no entry. -/
lemma checkLines_eq_some {lines : List JournalLine} {rejected : JournalPostResult}
    (h : checkLines lines = some rejected) :
    rejected.success = false ∧ rejected.journalEntryId = none := by
  simp only [checkLines] at h
  split_ifs at h <;> cases h <;> exact ⟨rfl, rfl⟩

lemma success_postAnswer (key : PostingKey) (lines : List JournalLine) (d : Db) :
    (d.postAnswer key lines).success = (checkLines lines).isNone := by
  rw [Db.postAnswer]
  cases hcheck : checkLines lines with
  | some rejected => exact (checkLines_eq_some hcheck).1
  | none => cases d.entryUnder key <;> rfl

lemma journalEntryId_postAnswer (key : PostingKey) (lines : List JournalLine) (d : Db) :
    (d.postAnswer key lines).journalEntryId =
      if (checkLines lines).isNone then some (d.entryFor key) else none := by
  rw [Db.postAnswer, Db.entryFor]
  cases hcheck : checkLines lines with
  | some rejected => exact (checkLines_eq_some hcheck).2
  | none => cases d.entryUnder key <;> rfl

/-- **A posting** does nothing if its lines are invalid.  Else it is answered with an entry, and
posts it unless its key is taken. -/
theorem run_postJournalEntry (key : PostingKey) (entity : PostingEntity) (agentId : Id)
    (lines : List JournalLine) (d : Db) :
    (postJournalEntry key entity agentId lines).run d =
      (.ok (d.postAnswer key lines), d.posted key entity agentId lines) := by
  have hsame : Db.journalEntries.find (hasKey key) d.seeded =
      Db.journalEntries.find (hasKey key) d := rfl
  have hresolve := run_resolveAccountIds (d := d.seeded)
    (hasAccount_seedAccounts d.ledgerAccount) lines
  rw [postJournalEntry, Db.posted, Db.postAnswer, Db.entryUnder]
  cases checkLines lines with
  | some rejected => rfl
  | none =>
    dsimp only
    rw [Prog.run_bind_ok (run_seedChartOfAccounts d), Prog.run_bind_ok hresolve, Prog.run_bind,
      Client.run_findFirst, hsame]
    cases hfind : Db.journalEntries.find (hasKey key) d with
    | some p => rfl
    | none =>
      simp only [Option.map_none, Option.isSome_none, Bool.false_eq_true, if_false]
      rw [Prog.run_bind, Client.run_createUnique, hsame, hfind]
      rfl

/-! ## The steps of a posting -/

section Steps

variable {R : Access Model → Db → Db → Prop}
  (hread : ∀ m d, R (.find m) d d)
  (hchart : ∀ d t, R (.update .ledgerAccount) d { d with ledgerAccount := t })
  (hjournal : ∀ d t, R (.create .journalEntry) d { d with journalEntry := t })

include hchart in
lemma eachStep_seedChartOfAccounts : seedChartOfAccounts.EachStep R :=
  Prog.EachStep.forM fun _ _ =>
    Client.eachStep_upsert (fun _ d => hchart d _) fun d => hchart d _

include hread in
lemma eachStep_resolveAccountIds (lines : List JournalLine) :
    (resolveAccountIds lines).EachStep R := by
  induction lines with
  | nil => exact .pure ()
  | cons line lines ih =>
    refine .bind (.bind (Client.eachStep_query (hread _)) fun found => ?_) fun _ => ih
    cases found with
    | none => exact .throw _
    | some q => exact .pure _

include hread hchart hjournal in
/-- A posting reads, and writes to the chart of accounts and to the journal. -/
lemma eachStep_postJournalEntry (key : PostingKey) (entity : PostingEntity) (agentId : Id)
    (lines : List JournalLine) : (postJournalEntry key entity agentId lines).EachStep R := by
  rw [postJournalEntry]
  cases checkLines lines with
  | some rejected => exact .pure _
  | none =>
    refine .bind (eachStep_seedChartOfAccounts hchart) fun _ =>
      .bind (eachStep_resolveAccountIds hread lines) fun _ =>
        .bind (Client.eachStep_query (hread _)) fun found => ?_
    cases found with
    | some existing => exact .pure _
    | none =>
      exact .bind (Client.eachStep_createUnique (fun d => hjournal d d.journalEntry)
        fun d => hjournal d _) fun _ => .pure _

end Steps

end Asoju.FieldForce
