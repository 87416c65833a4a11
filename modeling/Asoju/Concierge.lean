/-
The concierge.

A language model talks to a customer, over the web or over WhatsApp, and answers each message with a
reply and with what it has understood.  When it says that the conversation is complete, a service
request is made of this, the lead is scored, and the automatic decision about the request is looked
at.  What the model answers is an argument of a call: nothing that holds of the calls depends on it.
-/
import Asoju.Lib.Decimal
import Asoju.Lib.Within
import Asoju.ServiceRequests
import Asoju.WhatsApp

namespace Asoju

open Lib

/-! ## The score of a lead -/

inductive LeadTag
  | hot | warm | cold
deriving DecidableEq, Repr

structure ScoringInput where
  statedValue : Option ℚ
  servicePriceBand : ℚ
  timeline : Option String
  engagementSubscore : ℚ

structure ScoringResult where
  score : ℤ
  tag : LeadTag
deriving DecidableEq, Repr

/-- How the stated value fits the price band. -/
def budgetPoints (statedValue : Option ℚ) (servicePriceBand : ℚ) : ℤ :=
  match statedValue with
  | none => 6
  | some value =>
      if servicePriceBand ≤ value then 45 else if servicePriceBand * (8 / 10) ≤ value then 26 else 6

def urgencyPoints (timeline : Option String) : ℤ :=
  if timeline = some "immediate" then 40 else if timeline = some "near_term" then 24 else 7

def engagementPoints (engagementSubscore : ℚ) : ℤ :=
  max 0 (min 15 (roundHalfUp engagementSubscore))

def leadTag (score : ℤ) : LeadTag :=
  if 75 ≤ score then .hot else if 45 ≤ score then .warm else .cold

def scoreLead (input : ScoringInput) : ScoringResult :=
  let score := budgetPoints input.statedValue input.servicePriceBand +
    urgencyPoints input.timeline + engagementPoints input.engagementSubscore
  ⟨score, leadTag score⟩

/-! ## What the model answers -/

structure DataCollected where
  serviceType : Option String := none
  location : Option String := none
  scopeDetail : Option String := none
  timeline : Option String := none
deriving DecidableEq, Repr

/-- A turn, as the model submits it.  Nothing of it has been checked. -/
structure ConciergeTurnResult where
  replyText : String
  dataCollected : DataCollected := {}
  escalate : String := "none"
  conversationComplete : Bool := false
  engagementSubscore : ℚ := 0
deriving DecidableEq, Repr

inductive AiEscalation
  | none | humanRequested | vip | frustration | legalQuestion
deriving DecidableEq, Repr

/-- What is not in the map is no escalation. -/
def escalationMap : String → AiEscalation
  | "human_requested" => .humanRequested
  | "vip" => .vip
  | "frustration" => .frustration
  | "legal_question" => .legalQuestion
  | _ => .none

def ServiceType.values : List ServiceType :=
  [.propertyInspection, .constructionSupervision, .assetInspection, .familySupport, .procurement,
    .businessVerification, .investmentSupport, .agricultureSupport, .bereavementSupport,
    .arrivalSupport, .legalDocumentServices, .healthcareCoordination]

/-- The service type with the name, if there is one. -/
def ServiceType.ofName (name : String) : Option ServiceType :=
  ServiceType.values.find? fun t => t.name = name

/-! ## The methods -/

structure AiInteraction where
  dataCollected : DataCollected
  engagementSubscore : ℤ
  escalation : AiEscalation
  conversationComplete : Bool
deriving DecidableEq, Repr

/-- What a request says about its lead. -/
structure Lead where
  score : ℤ
  tag : LeadTag
  aiInteractionId : Id
deriving DecidableEq, Repr

/-- The database, with the turns and with the columns of the requests that are about leads. -/
structure Intake where
  db : Db
  aiInteraction : Table AiInteraction := .empty
  lead : Id → Option Lead := fun _ => none

abbrev IntakeSvc (α : Type) := Prog Intake Act HttpError α

/-- The database as a part of the intake. -/
def Intake.part : Part Intake Db where
  get := Intake.db
  put := fun d s => { s with db := d }
  get_put := fun _ _ => rfl
  put_get := fun _ => rfl

/-- A service over the database alone. -/
def inDb {α : Type} (m : Svc α) : IntakeSvc α := m.within Intake.part

namespace AiService

/-- The price band that leads are scored against, in naira. -/
def defaultServicePriceBandNgn : ℚ := 150000

/-- The record of a turn. -/
def interactionOf (turn : ConciergeTurnResult) : AiInteraction where
  dataCollected := turn.dataCollected
  engagementSubscore := turn.engagementSubscore.num
  escalation := escalationMap turn.escalate
  conversationComplete := turn.conversationComplete

/-- The column of the subscore is an integer; the client refuses anything else. -/
def createInteraction (turn : ConciergeTurnResult) : IntakeSvc Id :=
  .atom (.create .auditEvent)
    (fun s =>
      if turn.engagementSubscore.den = 1 then
        { s with aiInteraction := s.aiInteraction.insert (interactionOf turn) }
      else s)
    fun s =>
      if turn.engagementSubscore.den = 1 then .ret s.aiInteraction.next
      else .fail (.internal "Invalid value for engagementSubscore")

/-- The request that is made of a turn. -/
def intakeRequest (customerId : Id) (turn : ConciergeTurnResult) : ServiceRequest where
  customerId := customerId
  rawDescription := turn.dataCollected.scopeDetail.getD turn.replyText
  location := turn.dataCollected.location
  channel := "web"
  serviceType := turn.dataCollected.serviceType.bind ServiceType.ofName
  objective := turn.dataCollected.scopeDetail
  timing := turn.dataCollected.timeline

/-- The lead of a turn. -/
def leadOf (turn : ConciergeTurnResult) (aiInteractionId : Id) : Lead :=
  let result := scoreLead
    { statedValue := none
      servicePriceBand := defaultServicePriceBandNgn
      timeline := turn.dataCollected.timeline
      engagementSubscore := turn.engagementSubscore }
  ⟨result.score, result.tag, aiInteractionId⟩

def createRequest (request : ServiceRequest) (lead : Lead) : IntakeSvc Id :=
  .atom (.create .serviceRequest)
    (fun s => { s with
      db := s.db.insertRow .serviceRequest request
      lead := Function.update s.lead s.db.serviceRequest.next (some lead) })
    fun s => .ret s.db.serviceRequest.next

variable (toLowerCase : String → String)

/-- A complete conversation becomes a request. -/
def completeIntake (user : AuthenticatedUser) (turn : ConciergeTurnResult)
    (aiInteractionId : Id) : IntakeSvc Id := do
  match ← inDb (Prisma.query .customer (CasesService.customerProfile · user.id)) with
  | none => throw (.internal "No customer profile for this user")
  | some (customerId, _) =>
      let requestId ← createRequest (intakeRequest customerId turn) (leadOf turn aiInteractionId)
      inDb Prisma.audit
      let _ ← inDb (CasesService.evaluateAutomationAndMaybeConvert toLowerCase requestId)
      return requestId

/-- The request of a turn, if the conversation is complete. -/
def requestOf (user : AuthenticatedUser) (turn : ConciergeTurnResult) (aiInteractionId : Id) :
    IntakeSvc (Option Id) :=
  if turn.conversationComplete then do
    let requestId ← completeIntake toLowerCase user turn aiInteractionId
    return some requestId
  else return none

structure ConverseResult where
  reply : String
  escalate : String
  conversationComplete : Bool
  serviceRequestId : Option Id
deriving DecidableEq, Repr

def converse (user : AuthenticatedUser) (answer : Except String ConciergeTurnResult) :
    IntakeSvc ConverseResult :=
  if user.role ≠ .customer then throw (.internal "AI Concierge is customer-facing only.")
  else do
    let turn ← inDb (Prisma.callProvider answer)
    let interactionId ← createInteraction turn
    inDb Prisma.audit
    let serviceRequestId ← requestOf toLowerCase user turn interactionId
    return ⟨turn.replyText, turn.escalate, turn.conversationComplete, serviceRequestId⟩

/-- The preview on the landing page. -/
def demoConverse (answer : Except String ConciergeTurnResult) : IntakeSvc ConverseResult := do
  let turn ← inDb (Prisma.callProvider answer)
  return ⟨turn.replyText, turn.escalate, turn.conversationComplete, none⟩

/-- The assistant answers a customer about what is his; `none` is an answer without a text. -/
def assistantReply (user : AuthenticatedUser) (answer : Except String (Option String)) :
    IntakeSvc String :=
  if user.role ≠ .customer then throw (.internal "AI Assistant is customer-facing only.")
  else do
    match ← inDb (Prisma.query .customer (CasesService.customerProfile · user.id)) with
    | none => throw (.internal "No customer profile for this user")
    | some _ =>
        let text ← inDb (Prisma.callProvider answer)
        inDb Prisma.audit
        return text.getD "Sorry, I couldn't put together a reply — please try again."

end AiService

namespace WhatsappService

/-- A message without a button, with what the services outside answer. -/
structure TextMessage where
  rawFrom : String
  body : String
  draw : ℕ → List UInt8 := fun _ => []
  answer : Except String ConciergeTurnResult
  result : SendResult

/-- The message is answered by the concierge, and the history is written with its reply. -/
def handleTextMessage (toLowerCase : String → String) (m : TextMessage) : IntakeSvc Handled := do
  let (threadId, thread, userId) ← inDb (resolveThread (normalizePhone m.rawFrom) m.draw)
  let turn ← AiService.converse toLowerCase ⟨userId, .customer⟩ m.answer
  let _ ← inDb (Prisma.update .whatsAppThread threadId fun _ t =>
    { t with history := thread.history ++ [userTurn m.body, assistantTurn turn.reply] })
  inDb (answerWith turn.reply m.result)

end WhatsappService

end Asoju
