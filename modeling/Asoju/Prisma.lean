/-
The database client, and the errors the services throw.

A service is a program whose atomic actions are the calls of the Prisma client.  Each call
is one action: a lookup, a query, the creation of a row, the change of a row, or an array
transaction, whose writes are committed together.  A lookup with joined rows is one
action as well; it finds nothing when a row it joins is missing, which the foreign keys of
the database exclude.  Nothing is rolled back when a service throws.
-/
import Asoju.Lib.Prog
import Asoju.Schema
import Mathlib.Tactic.Simps.Basic

namespace Asoju

open Lib

/-! ## Errors -/

/-- What a service throws: one of the exceptions of the framework, with its message, or an
error of the client or of a provider. -/
inductive HttpError
  | notFound (message : String)
  | badRequest (message : String)
  | forbidden (message : String)
  | conflict (message : String)
  | unauthorized (message : String)
  | internal (message : String)
deriving DecidableEq, Repr

/-- A number of naira in a message, with two decimals at most. -/
def nairaText (q : ℚ) : String :=
  let n := roundHalfAway (q * 100)
  let sign := if n < 0 then "-" else ""
  let whole := toString (n.natAbs / 100)
  let tenths := toString (n.natAbs % 100 / 10)
  let hundredths := n.natAbs % 10
  if n.natAbs % 100 = 0 then sign ++ whole
  else if hundredths = 0 then sign ++ whole ++ "." ++ tenths
  else sign ++ whole ++ "." ++ tenths ++ toString hundredths

example : nairaText 1250 = "1250" ∧ nairaText (1 / 10) = "0.1" ∧
    nairaText (-1234 / 100) = "-12.34" := by decide +kernel

/-- A character that `String.prototype.trim` removes. -/
def isJsSpace (c : Char) : Bool :=
  c.val ∈ [0x09, 0x0A, 0x0B, 0x0C, 0x0D, 0x20, 0xA0, 0x1680, 0x2028, 0x2029, 0x202F, 0x205F,
    0x3000, 0xFEFF] ∨ (0x2000 ≤ c.val ∧ c.val ≤ 0x200A)

/-- The text is missing, or nothing is left of it after trimming. -/
def isBlank : Option String → Bool
  | none => true
  | some s => s.toList.all isJsSpace

/-! ## Tables and actions -/

/-- The models of the schema that the services touch. -/
inductive Model
  | user | refreshToken | passwordResetToken | document | priceBook | priceRule | multiplierRule
  | customer | partner | beneficiary | beneficiaryInvite | whatsAppThread | agent | provider
  | property | asset | verifiedAsset | serviceRequest | automationCapability | automationDecision
  | escalation | caseCollaborator | serviceCase | recurringSchedule | caseStatusHistory | caseTask
  | caseRiskFlag | riskAssessment | incident | sosAlert
  | approval | dispute | assignment | evidence | qcReview | rating | report | caseScope | quote
  | invoice | payment | refund | refundRequest | reconciliation | subscription
  | subscriptionInvoice | scLedgerEntry | membershipPlanConfig | walletAccount | walletEntry
  | payout | ledgerAccount | journalEntry | idempotencyRecord | auditEvent | notification
deriving DecidableEq, Repr

/-- What an atomic action does. -/
inductive Act
  | find (m : Model)
  | create (m : Model)
  | update (m : Model)
  | delete (m : Model)
  | transaction
  /-- The server's clock is read. -/
  | now
  /-- The payment provider is called; the database is not involved. -/
  | provider
deriving DecidableEq, Repr

/-- A service: a program over the database. -/
abbrev Svc (α : Type) := Prog Db Act HttpError α

/-- A table of the database: which model it holds and how it is read and replaced. -/
structure Rel (β : Type) where
  model : Model
  get : Db → Table β
  set : Db → Table β → Db

namespace Rel

@[simps] def user : Rel User :=
  ⟨.user, Db.user, fun d t => { d with user := t }⟩

@[simps] def refreshToken : Rel RefreshToken :=
  ⟨.refreshToken, Db.refreshToken, fun d t => { d with refreshToken := t }⟩

@[simps] def passwordResetToken : Rel PasswordResetToken :=
  ⟨.passwordResetToken, Db.passwordResetToken, fun d t => { d with passwordResetToken := t }⟩

@[simps] def customer : Rel Customer :=
  ⟨.customer, Db.customer, fun d t => { d with customer := t }⟩

@[simps] def beneficiary : Rel Beneficiary :=
  ⟨.beneficiary, Db.beneficiary, fun d t => { d with beneficiary := t }⟩

@[simps] def beneficiaryInvite : Rel BeneficiaryInvite :=
  ⟨.beneficiaryInvite, Db.beneficiaryInvite, fun d t => { d with beneficiaryInvite := t }⟩

@[simps] def whatsAppThread : Rel WhatsAppThread :=
  ⟨.whatsAppThread, Db.whatsAppThread, fun d t => { d with whatsAppThread := t }⟩

@[simps] def agent : Rel Agent := ⟨.agent, Db.agent, fun d t => { d with agent := t }⟩

@[simps] def provider : Rel Provider :=
  ⟨.provider, Db.provider, fun d t => { d with provider := t }⟩

@[simps] def serviceRequest : Rel ServiceRequest :=
  ⟨.serviceRequest, Db.serviceRequest, fun d t => { d with serviceRequest := t }⟩

@[simps] def automationDecision : Rel AutomationDecision :=
  ⟨.automationDecision, Db.automationDecision, fun d t => { d with automationDecision := t }⟩

@[simps] def escalation : Rel Escalation :=
  ⟨.escalation, Db.escalation, fun d t => { d with escalation := t }⟩

@[simps] def caseCollaborator : Rel CaseCollaborator :=
  ⟨.caseCollaborator, Db.caseCollaborator, fun d t => { d with caseCollaborator := t }⟩

@[simps] def serviceCase : Rel ServiceCase :=
  ⟨.serviceCase, Db.serviceCase, fun d t => { d with serviceCase := t }⟩

@[simps] def recurringSchedule : Rel RecurringSchedule :=
  ⟨.recurringSchedule, Db.recurringSchedule, fun d t => { d with recurringSchedule := t }⟩

@[simps] def caseStatusHistory : Rel CaseStatusHistory :=
  ⟨.caseStatusHistory, Db.caseStatusHistory, fun d t => { d with caseStatusHistory := t }⟩

@[simps] def caseTask : Rel CaseTask :=
  ⟨.caseTask, Db.caseTask, fun d t => { d with caseTask := t }⟩

@[simps] def caseRiskFlag : Rel CaseRiskFlag :=
  ⟨.caseRiskFlag, Db.caseRiskFlag, fun d t => { d with caseRiskFlag := t }⟩

@[simps] def riskAssessment : Rel RiskAssessment :=
  ⟨.riskAssessment, Db.riskAssessment, fun d t => { d with riskAssessment := t }⟩

@[simps] def incident : Rel Incident :=
  ⟨.incident, Db.incident, fun d t => { d with incident := t }⟩

@[simps] def approval : Rel Approval :=
  ⟨.approval, Db.approval, fun d t => { d with approval := t }⟩

@[simps] def dispute : Rel Dispute :=
  ⟨.dispute, Db.dispute, fun d t => { d with dispute := t }⟩

@[simps] def assignment : Rel Assignment :=
  ⟨.assignment, Db.assignment, fun d t => { d with assignment := t }⟩

@[simps] def sosAlert : Rel SosAlert :=
  ⟨.sosAlert, Db.sosAlert, fun d t => { d with sosAlert := t }⟩

@[simps] def qcReview : Rel QcReview :=
  ⟨.qcReview, Db.qcReview, fun d t => { d with qcReview := t }⟩

@[simps] def rating : Rel Rating := ⟨.rating, Db.rating, fun d t => { d with rating := t }⟩

@[simps] def report : Rel Report :=
  ⟨.report, Db.report, fun d t => { d with report := t }⟩

@[simps] def caseScope : Rel CaseScope :=
  ⟨.caseScope, Db.caseScope, fun d t => { d with caseScope := t }⟩

@[simps] def priceBook : Rel PriceBook :=
  ⟨.priceBook, Db.priceBook, fun d t => { d with priceBook := t }⟩

@[simps] def priceRule : Rel PriceRule :=
  ⟨.priceRule, Db.priceRule, fun d t => { d with priceRule := t }⟩

@[simps] def multiplierRule : Rel MultiplierRule :=
  ⟨.multiplierRule, Db.multiplierRule, fun d t => { d with multiplierRule := t }⟩

@[simps] def quote : Rel Quote :=
  ⟨.quote, Db.quote, fun d t => { d with quote := t }⟩

@[simps] def invoice : Rel Invoice :=
  ⟨.invoice, Db.invoice, fun d t => { d with invoice := t }⟩

@[simps] def payment : Rel Payment :=
  ⟨.payment, Db.payment, fun d t => { d with payment := t }⟩

@[simps] def refund : Rel Refund :=
  ⟨.refund, Db.refund, fun d t => { d with refund := t }⟩

@[simps] def refundRequest : Rel RefundRequest :=
  ⟨.refundRequest, Db.refundRequest, fun d t => { d with refundRequest := t }⟩

@[simps] def reconciliation : Rel Reconciliation :=
  ⟨.reconciliation, Db.reconciliation, fun d t => { d with reconciliation := t }⟩

@[simps] def subscription : Rel Subscription :=
  ⟨.subscription, Db.subscription, fun d t => { d with subscription := t }⟩

@[simps] def subscriptionInvoice : Rel SubscriptionInvoice :=
  ⟨.subscriptionInvoice, Db.subscriptionInvoice, fun d t => { d with subscriptionInvoice := t }⟩

@[simps] def scLedgerEntry : Rel ScLedgerEntry :=
  ⟨.scLedgerEntry, Db.scLedgerEntry, fun d t => { d with scLedgerEntry := t }⟩

@[simps] def walletAccount : Rel WalletAccount :=
  ⟨.walletAccount, Db.walletAccount, fun d t => { d with walletAccount := t }⟩

@[simps] def walletEntry : Rel WalletEntry :=
  ⟨.walletEntry, Db.walletEntry, fun d t => { d with walletEntry := t }⟩

@[simps] def payout : Rel Payout :=
  ⟨.payout, Db.payout, fun d t => { d with payout := t }⟩

@[simps] def ledgerAccount : Rel LedgerAccount :=
  ⟨.ledgerAccount, Db.ledgerAccount, fun d t => { d with ledgerAccount := t }⟩

@[simps] def journalEntry : Rel JournalEntry :=
  ⟨.journalEntry, Db.journalEntry, fun d t => { d with journalEntry := t }⟩

@[simps] def idempotencyRecord : Rel IdempotencyRecord :=
  ⟨.idempotencyRecord, Db.idempotencyRecord, fun d t => { d with idempotencyRecord := t }⟩

end Rel

variable {β γ : Type}

/-! ## What the writes do to the database -/

namespace Db

/-- The clock moves on. -/
def tick (d : Db) : Db := { d with clock := d.clock + 1 }

lemma le_tick (d : Db) : d.clock ≤ d.tick.clock := (Int.lt_succ d.clock).le

/-- The database after the creation of a row. -/
def insertRow (d : Db) (r : Rel β) (b : β) : Db := (r.set d ((r.get d).insert b)).tick

/-- The database after a change of the row under the key `i`. -/
def modifyRow (d : Db) (r : Rel β) (i : Id) (f : β → β) : Db :=
  (r.set d ((r.get d).modify i f)).tick

/-- The database after a change of all the rows that pass the test `q`. -/
def modifyRows (d : Db) (r : Rel β) (q : Id → β → Bool) (f : β → β) : Db :=
  (r.set d ((r.get d).modifyWhere q f)).tick

/-- The database after the removal of the row under the key `i`. -/
def eraseRow (d : Db) (r : Rel β) (i : Id) : Db := (r.set d ((r.get d).erase i)).tick

end Db

/-! ## The client -/

namespace Prisma

/-- A query: anything that only reads the database. -/
def query (m : Model) (q : Db → γ) : Svc γ := .read (.find m) q

/-- `findUnique` by key. -/
def findUnique (r : Rel β) (i : Id) : Svc (Option β) := query r.model fun d => (r.get d).get? i

/-- What the client throws when a row that has to be there is missing. -/
def recordNotFound : HttpError := .internal "No record was found for a query"

/-- `findUniqueOrThrow` by key. -/
def findUniqueOrThrow (r : Rel β) (i : Id) : Svc β := do
  match ← findUnique r i with
  | some b => pure b
  | none => throw recordNotFound

/-- `create`: the row may carry the time of its creation. -/
def create (r : Rel β) (b : Time → β) : Svc Id :=
  .atom (.create r.model) (fun d => d.insertRow r (b d.clock)) fun d => .ret (r.get d).next

/-- What the client throws when a value of a unique column is taken: its code is `P2002`. -/
def uniqueViolation : HttpError := .internal "Unique constraint failed"

/-- `create` of a row with a column marked unique: it fails when the value is taken. -/
def createUnique (r : Rel β) (taken : Db → Bool) (b : Time → β) : Svc Id :=
  .atom (.create r.model)
    (fun d => if taken d then d else d.insertRow r (b d.clock))
    fun d => if taken d then .fail uniqueViolation else .ret (r.get d).next

/-- `update` by key: it fails when there is no such row, and returns the row as changed. -/
def update (r : Rel β) (i : Id) (f : Time → β → β) : Svc β :=
  .atom (.update r.model) (fun d => d.modifyRow r i (f d.clock)) fun d =>
    match (r.get d).get? i with
    | some b => .ret (f d.clock b)
    | none => .fail (.internal "Record to update not found")

/-- `updateMany`. -/
def updateMany (r : Rel β) (q : Id → β → Bool) (f : β → β) : Svc Unit :=
  .write (.update r.model) fun d => d.modifyRows r q f

/-- `createMany`: the rows are written together. -/
def createMany (r : Rel β) (bs : List β) : Svc Unit :=
  .write (.create r.model) fun d => bs.foldl (fun d b => d.insertRow r b) d

/-- `upsert` by a unique column: the row that `i` finds is changed, or a row is created.  It
returns the row. -/
def upsert (r : Rel β) (i : Db → Option Id) (b : Time → β) (f : Time → β → β) : Svc β :=
  .atom (.update r.model)
    (fun d => match i d with
      | some i => d.modifyRow r i (f d.clock)
      | none => d.insertRow r (b d.clock))
    fun d => match (i d).bind (r.get d).get? with
      | some row => .ret (f d.clock row)
      | none => .ret (b d.clock)

/-- `delete` by key: it fails when there is no such row. -/
def delete (r : Rel β) (i : Id) : Svc Unit :=
  .atom (.delete r.model) (fun d => d.eraseRow r i) fun d =>
    if ((r.get d).get? i).isSome then .ret ()
    else .fail (.internal "Record to delete does not exist")

/-- `$transaction` with an array of writes: they are committed together. -/
def transaction (w : Db → Db) (k : Db → γ) : Svc γ :=
  .atom .transaction w fun d => .ret (k d)

/-- The database after a program that is undone when it fails. -/
def committed (m : Svc γ) (d : Db) : Db :=
  match m.run d with
  | (.ok _, d') => d'
  | (.error _, _) => d

/-- `$transaction` with a program: it runs with nothing in between, and a failure of it undoes
what it has done. -/
def atomically (m : Svc γ) : Svc γ :=
  .atom .transaction (committed m) fun d =>
    match (m.run d).1 with
    | .ok a => .ret a
    | .error e => .fail e

/-- The server's clock. -/
def now : Svc Time := .read .now Db.clock

/-- A call of the payment provider, which answers or throws. -/
def callProvider (answer : Except String γ) : Svc γ :=
  .atom .provider id fun _ => match answer with
    | .ok a => .ret a
    | .error e => .fail (.internal e)

/-- `AuditService.record`: an event goes to a log that no service here reads. -/
def audit : Svc Unit := .write (.create .auditEvent) id

/-- `NotificationsService.notify`: a message goes to the inbox of a user. -/
def notify : Svc Unit := .write (.create .notification) id

/-! ### Each call run alone -/

variable (r : Rel β) (i : Id) (d : Db)

@[simp] lemma run_query (m : Model) (q : Db → γ) : (query m q).run d = (.ok (q d), d) := rfl

@[simp] lemma run_findUnique : (findUnique r i).run d = (.ok ((r.get d).get? i), d) := rfl

lemma run_findUniqueOrThrow :
    (findUniqueOrThrow r i).run d =
      match (r.get d).get? i with
      | some b => (.ok b, d)
      | none => (.error recordNotFound, d) := by
  rw [findUniqueOrThrow, Prog.run_bind, run_findUnique]
  cases (r.get d).get? i <;> rfl

@[simp] lemma run_create (b : Time → β) :
    (create r b).run d = (.ok (r.get d).next, d.insertRow r (b d.clock)) := rfl

@[simp] lemma run_createUnique (taken : Db → Bool) (b : Time → β) :
    (createUnique r taken b).run d =
      if taken d then (.error uniqueViolation, d)
      else (.ok (r.get d).next, d.insertRow r (b d.clock)) := by
  rw [createUnique, Prog.run_atom]
  split <;> rfl

@[simp] lemma run_update (f : Time → β → β) :
    (update r i f).run d =
      match (r.get d).get? i with
      | some b => (.ok (f d.clock b), d.modifyRow r i (f d.clock))
      | none =>
          (.error (.internal "Record to update not found"), d.modifyRow r i (f d.clock)) := by
  rw [update, Prog.run_atom]
  cases (r.get d).get? i <;> rfl

lemma run_update_of_some {r : Rel β} {i : Id} {d : Db} {b : β} (h : (r.get d).get? i = some b)
    (f : Time → β → β) :
    (update r i f).run d = (.ok (f d.clock b), d.modifyRow r i (f d.clock)) := by
  rw [run_update, h]

@[simp] lemma run_updateMany (q : Id → β → Bool) (f : β → β) :
    (updateMany r q f).run d = (.ok (), d.modifyRows r q f) := rfl

@[simp] lemma run_createMany (bs : List β) :
    (createMany r bs).run d = (.ok (), bs.foldl (fun d b => d.insertRow r b) d) := rfl

@[simp] lemma run_transaction (w : Db → Db) (k : Db → γ) :
    (transaction w k).run d = (.ok (k d), w d) := rfl

@[simp] lemma run_delete :
    (delete r i).run d =
      (if ((r.get d).get? i).isSome then .ok ()
        else .error (.internal "Record to delete does not exist"), d.eraseRow r i) := by
  rw [delete, Prog.run_atom]
  split <;> rfl

lemma run_upsert (find : Db → Option Id) (b : Time → β) (f : Time → β → β) :
    (upsert r find b f).run d =
      (match (find d).bind (r.get d).get? with
        | some row => .ok (f d.clock row)
        | none => .ok (b d.clock),
      match find d with
        | some i => d.modifyRow r i (f d.clock)
        | none => d.insertRow r (b d.clock)) := by
  rw [upsert, Prog.run_atom]
  cases (find d).bind (r.get d).get? <;> rfl

@[simp] lemma run_audit : (audit).run d = (.ok (), d) := rfl

@[simp] lemma run_notify : (notify).run d = (.ok (), d) := rfl

@[simp] lemma run_now : (now).run d = (.ok d.clock, d) := rfl

@[simp] lemma run_callProvider (answer : Except String γ) :
    (callProvider answer).run d = (answer.mapError HttpError.internal, d) := by
  cases answer <;> rfl

end Prisma

end Asoju
