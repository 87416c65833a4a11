/-
Conversations over WhatsApp.

A message from a number is answered by the concierge, with the conversation so far.  The first
message from a number creates a user, a customer and a thread for it; a tapped button on a report goes
to the case instead.  The concierge and the provider of the messages are outside: what they answer is
an argument of a call.

The thread is read before the concierge is asked, and its history is overwritten afterwards.
`conversation_iff` shows that the messages of a run end up in the history, each with its reply, exactly
if no message is answered while another one of the same thread is.
-/
import Asoju.Cases
import Asoju.Lib.Overwrite
import Asoju.Lib.Window
import Asoju.Registration

namespace Asoju

open Lib

/-! ## Numbers -/

/-- A text without the spaces at its ends, as `String.prototype.trim` leaves it. -/
def jsTrim (s : String) : String :=
  String.ofList ((s.toList.dropWhile isJsSpace).reverse.dropWhile isJsSpace).reverse

/-- The thread with this number, with its user. -/
def Db.threadByPhone (d : Db) (phone : String) : Option (Id × WhatsAppThread × User) :=
  (d.whatsAppThread.rows.find? fun p => p.2.phone = phone).bind fun p =>
    (d.user.get? p.2.userId).map fun user => (p.1, p.2, user)

namespace WhatsappService

def normalizePhone (raw : String) : String :=
  let prefixed := (raw.toList.take 9).map Char.toLower = "whatsapp:".toList
  jsTrim (if prefixed then String.ofList (raw.toList.drop 9) else raw)

example : normalizePhone "WhatsApp:+2348012345678 " = "+2348012345678" := by decide +kernel

/-! ## The messages -/

/-- What the concierge answers. -/
structure ConciergeTurn where
  reply : String
  escalate : String
  conversationComplete : Bool
deriving DecidableEq, Repr

/-- What becomes of a message that is sent. -/
structure SendResult where
  sent : Bool
  dryRun : Bool
deriving DecidableEq, Repr

/-- What the webhook answers. -/
structure Handled where
  reply : Option String
  result : SendResult
deriving DecidableEq, Repr

/-- An inbound message, with the random bytes for the code of a new customer and what the services
outside answer. -/
structure InboundMessage where
  rawFrom : String
  body : String
  /-- The action and the case of a button that is recognised. -/
  button : Option (ApprovalAction × Id) := none
  draw : ℕ → List UInt8 := fun _ => []
  answer : Except String ConciergeTurn
  result : SendResult

/-- `audit.record`, and the message that is sent. -/
def answerWith (reply : String) (result : SendResult) : Svc Handled := do
  Prisma.audit
  return ⟨some reply, result⟩

/-- The user that is created for a number. -/
def whatsAppUser (phone : String) : User where
  email := none
  phone := some phone
  role := .customer
  preferredChannel := some "whatsapp"

/-- A user with a customer, in one write. -/
def createCustomer (phone referralCode : String) : Svc Id :=
  createCustomerUser
    (fun d => (d.userByPhone phone).isSome ∨ (d.customerByReferralCode referralCode).isSome)
    (whatsAppUser phone) fun userId => { userId, fullName := "WhatsApp Customer", referralCode }

/-- The thread of a number and its user.  The first message creates them. -/
def resolveThread (phone : String) (draw : ℕ → List UInt8) :
    Svc (Id × WhatsAppThread × Id) := do
  match ← Prisma.query .whatsAppThread (·.threadByPhone phone) with
  | some (threadId, thread, _) => return (threadId, thread, thread.userId)
  | none =>
      let referralCode ← generateUniqueReferralCode draw
      let userId ← createCustomer phone referralCode
      let thread : WhatsAppThread := { phone, userId }
      let threadId ← Prisma.createUnique .whatsAppThread
        (fun d => d.whatsAppThread.values.any fun t => t.phone = phone ∨ t.userId = userId)
        fun _ => thread
      Prisma.audit
      return (threadId, thread, userId)

/-- The text that confirms a tapped button. -/
def confirmationText (action : ApprovalAction) (caseNumber : String) : String :=
  if action = .approved then
    "Thanks — you've approved the report for " ++ caseNumber ++ ". We'll take it from here."
  else
    "Got it — we've flagged " ++ caseNumber ++
      " for additional work. A team member will follow up."

def handleCaseApprovalReply (userId : Id) (action : ApprovalAction) (caseId : Id)
    (result : SendResult) : Svc Handled := do
  let found ← Prisma.query .serviceCase fun d =>
    (d.serviceCase.get? caseId).map fun c => (c, (d.customer.get? c.customerId).map Customer.userId)
  match found with
  | some (serviceCase, some owner) =>
      if owner ≠ userId then return ⟨none, result⟩
      else do
        let _ ← CasesService.recordApproval ⟨userId, .customer⟩ caseId action none
        answerWith (confirmationText action (serviceCase.caseNumber.getD "")) result
  | _ => return ⟨none, result⟩

def userTurn (body : String) : ConversationTurn := ⟨"user", body⟩

def assistantTurn (reply : String) : ConversationTurn := ⟨"assistant", reply⟩

/-- The concierge is asked, and the history is written with its reply. -/
def converse (m : InboundMessage) (threadId : Id) (thread : WhatsAppThread) : Svc Handled := do
  let turn ← Prisma.callProvider m.answer
  let _ ← Prisma.update .whatsAppThread threadId fun _ t =>
    { t with history := thread.history ++ [userTurn m.body, assistantTurn turn.reply] }
  answerWith turn.reply m.result

def handleInboundMessage (m : InboundMessage) : Svc Handled := do
  let (threadId, thread, userId) ← resolveThread (normalizePhone m.rawFrom) m.draw
  match m.button with
  | some (action, caseId) => handleCaseApprovalReply userId action caseId m.result
  | none => converse m threadId thread

end WhatsappService

end Asoju
