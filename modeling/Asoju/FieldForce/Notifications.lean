/-
The WhatsApp gateway of FieldForce: notifications are queued in the database, and workers process
them.

A worker selects what is PENDING or QUEUED, the oldest first.  It marks each notification QUEUED,
sends it by the API, and writes the result; after a failure the notification is PENDING again, and
FAILED once its retries are exhausted.  The mark and the result are plain updates, and the number of
retries is that of the selection.  The requests to the API are kept as rows of the world outside:
one is created when it is sent, and gets its result when it is answered.
-/
import Asoju.FieldForce.Payouts
import Asoju.Lib.Sorting

namespace Asoju.FieldForce

open Lib

namespace WhatsAppGateway

inductive WhatsAppNotificationStatus
  | pending | queued | sent | delivered | read | failed
deriving DecidableEq, Repr

inductive WhatsAppMediaType
  | image | document | video | audio
deriving DecidableEq, Repr

/-- The name of the type in lower case. -/
def WhatsAppMediaType.text : WhatsAppMediaType → String
  | image => "image"
  | document => "document"
  | video => "video"
  | audio => "audio"

structure WhatsAppNotification where
  recipientPhone : String
  templateId : Option String := none
  /-- Kept as a JSON array. -/
  templateParams : Option (List String) := none
  messageText : Option String := none
  mediaUrl : Option String := none
  mediaType : Option WhatsAppMediaType := none
  status : WhatsAppNotificationStatus := .pending
  whatsappMessageId : Option String := none
  errorCode : Option String := none
  /-- The error whose message is kept. -/
  errorMessage : Option Failure := none
  retryCount : ℕ := 0
  maxRetries : ℕ := 3
  nextRetryAt : Option Time := none
  sentAt : Option Time := none
  deliveredAt : Option Time := none
  failedAt : Option Time := none
  createdAt : Time
deriving DecidableEq, Repr

/-- The body of a request to the API. -/
inductive Payload
  | template (phone name : String) (parameters : List String)
  | media (phone type link : String) (caption : Option String)
  | text (phone body : String)
deriving DecidableEq, Repr

/-- A request to the API, and whether it has succeeded, once it is answered. -/
structure ApiCall where
  notificationId : Id
  payload : Payload
  success : Option Bool := none
deriving DecidableEq, Repr

structure Store where
  whatsAppNotification : Table WhatsAppNotification := .empty
  apiCall : Table ApiCall := .empty

inductive Model
  | whatsAppNotification | apiCall
deriving DecidableEq, Repr

def notifications : TableOf Store Model WhatsAppNotification :=
  ⟨.whatsAppNotification, Store.whatsAppNotification,
    fun t s => { s with whatsAppNotification := t }, fun _ _ => rfl⟩

def apiCalls : TableOf Store Model ApiCall :=
  ⟨.apiCall, Store.apiCall, fun t s => { s with apiCall := t }, fun _ _ => rfl⟩

/-- A program over the notifications. -/
abbrev Work (α : Type) := Prog Store (Access Model) Failure α

def MAX_RETRIES_DEFAULT : ℕ := 3

def RETRY_BACKOFF_BASE_MS : Time := 5000

def RETRY_BACKOFF_MAX_MS : Time := 15 * 60 * 1000

/-! ## The queue -/

structure SendWhatsAppMessageInput where
  recipientPhone : String
  templateId : Option String := none
  templateParams : Option (List String) := none
  messageText : Option String := none
  mediaUrl : Option String := none
  mediaType : Option WhatsAppMediaType := none
deriving DecidableEq, Repr

/-- The notification that is queued. -/
def newNotification (input : SendWhatsAppMessageInput) (now : Time) : WhatsAppNotification where
  recipientPhone := input.recipientPhone
  templateId := nonEmpty input.templateId
  templateParams := input.templateParams
  messageText := nonEmpty input.messageText
  mediaUrl := nonEmpty input.mediaUrl
  mediaType := input.mediaType
  status := .pending
  maxRetries := MAX_RETRIES_DEFAULT
  createdAt := now

def sendWhatsAppMessage (input : SendWhatsAppMessageInput) (now : Time) : Work Id :=
  Client.create notifications (newNotification input now)

/-! ## The API -/

def buildWhatsAppPayload (notif : WhatsAppNotification) : Payload :=
  match nonEmpty notif.templateId, nonEmpty notif.mediaUrl, notif.mediaType with
  | some templateId, _, _ =>
      .template notif.recipientPhone templateId (notif.templateParams.getD [])
  | none, some mediaUrl, some mediaType =>
      .media notif.recipientPhone mediaType.text mediaUrl (nonEmpty notif.messageText)
  | none, _, _ => .text notif.recipientPhone (notif.messageText.getD "")

/-- What comes of a request: an answer, with the id of the message if there is one, an answer with
the status of an error, or an exception. -/
inductive Response
  | ok (messageId : Option String)
  | error (status : ℕ) (errorBody : String)
  | thrown (errorMessage : String)
deriving DecidableEq, Repr

structure WhatsAppDeliveryResult where
  success : Bool
  status : Option WhatsAppNotificationStatus := none
  messageId : Option String := none
  error : Option String := none
deriving DecidableEq, Repr

def resultOf : Response → WhatsAppDeliveryResult
  | .thrown errorMessage => { success := false, error := some errorMessage }
  | .error status errorBody =>
      { success := false, error := some s!"WhatsApp API {status}: {errorBody}" }
  | .ok messageId =>
      match nonEmpty messageId with
      | none => { success := false, error := some "No message ID in WhatsApp response" }
      | some messageId => { success := true, status := some .sent, messageId := some messageId }

/-- The request is answered. -/
def answer (response : Response) (c : ApiCall) : ApiCall :=
  { c with success := some (resultOf response).success }

def deliverToWhatsAppApi (notificationId : Id) (notification : WhatsAppNotification)
    (response : Response) : Work WhatsAppDeliveryResult := do
  let callId ← Client.create apiCalls
    { notificationId, payload := buildWhatsAppPayload notification }
  let _ ← Client.updateIf apiCalls callId (fun _ => true) (answer response)
  return resultOf response

/-! ## The workers -/

/-- Whether a worker that starts at `now` may select the notification.  The bound on the retries is
the default one, whatever that of the notification is. -/
def isPending (now : Time) (n : WhatsAppNotification) : Bool :=
  n.status ∈ [WhatsAppNotificationStatus.pending, .queued] &&
    (n.nextRetryAt.all fun nextRetryAt => nextRetryAt ≤ now) &&
    n.retryCount < MAX_RETRIES_DEFAULT

/-- The notifications that are selected, the oldest first. -/
def pending (now : Time) (limit : ℕ) (s : Store) : List (Id × WhatsAppNotification) :=
  (sortAsc (fun p => p.2.createdAt)
    (s.whatsAppNotification.rows.filter fun p => isPending now p.2)).take limit

/-- What is selected is there, and may be. -/
lemma get?_of_mem_pending {now : Time} {limit : ℕ} {s : Store} {p : Id × WhatsAppNotification}
    (h : p ∈ pending now limit s) :
    s.whatsAppNotification.get? p.1 = some p.2 ∧ isPending now p.2 = true := by
  have hmem := mem_sortAsc _ |>.mp (List.mem_of_mem_take h)
  rw [List.mem_filter] at hmem
  exact ⟨(Table.mem_rows_iff _).mp hmem.1, hmem.2⟩

/-- A run of a worker: when it starts, how many notifications it selects at most, what comes of the
request for each of them, and the time at which a failure of it is written. -/
structure Batch where
  now : Time
  limit : ℕ := 20
  response : Id → Response
  clock : Id → Time

/-- The notification is about to be sent. -/
def markQueued (n : WhatsAppNotification) : WhatsAppNotification := { n with status := .queued }

/-- The notification after a request that has succeeded.  What the result does not say stays. -/
def markSent (now : Time) (deliveryResult : WhatsAppDeliveryResult) (n : WhatsAppNotification) :
    WhatsAppNotification :=
  { n with
    status := deliveryResult.status.getD n.status
    sentAt := some now
    deliveredAt := if deliveryResult.status = some .delivered then some (now + 1000) else none
    whatsappMessageId := deliveryResult.messageId.or n.whatsappMessageId }

/-- The notification after an attempt that has failed, by what was selected. -/
def markFailed (notification : WhatsAppNotification) (error : Failure) (now : Time)
    (n : WhatsAppNotification) : WhatsAppNotification :=
  let newRetryCount := notification.retryCount + 1
  let isExhausted : Bool := newRetryCount ≥ notification.maxRetries
  let backoffMs := min (RETRY_BACKOFF_BASE_MS * 2 ^ notification.retryCount) RETRY_BACKOFF_MAX_MS
  { n with
    status := if isExhausted then .failed else .pending
    retryCount := newRetryCount
    nextRetryAt := if isExhausted then none else some (now + backoffMs)
    errorCode := some (if isExhausted then "MAX_RETRIES_EXCEEDED" else "RETRY_SCHEDULED")
    errorMessage := some error
    failedAt := if isExhausted then some now else none }

def handleDeliveryFailure (notificationId : Id) (notification : WhatsAppNotification)
    (error : Failure) (now : Time) : Work Unit :=
  Client.update notifications .recordNotFound notificationId (markFailed notification error now)

/-- One notification is sent, and the result is written. -/
def processOne (b : Batch) (notificationId : Id) (notification : WhatsAppNotification) :
    Work Bool :=
  tryCatch
    (do
      Client.update notifications .recordNotFound notificationId markQueued
      let deliveryResult ←
        deliverToWhatsAppApi notificationId notification (b.response notificationId)
      if deliveryResult.success then do
        Client.update notifications .recordNotFound notificationId (markSent b.now deliveryResult)
        return true
      else do
        handleDeliveryFailure notificationId notification
          (.thrown (deliveryResult.error.getD "")) (b.clock notificationId)
        return false)
    fun error => do
      handleDeliveryFailure notificationId notification error (b.clock notificationId)
      return false

structure ProcessResult where
  processed : ℕ := 0
  delivered : ℕ := 0
  failed : ℕ := 0
  skipped : ℕ := 0
deriving DecidableEq, Repr

def processAll (b : Batch) : List (Id × WhatsAppNotification) → ProcessResult → Work ProcessResult
  | [], result => return result
  | (notificationId, notification) :: rest, result => do
      let delivered ← processOne b notificationId notification
      let result := { result with processed := result.processed + 1 }
      processAll b rest
        (if delivered then { result with delivered := result.delivered + 1 }
        else { result with failed := result.failed + 1 })

def processPendingNotifications (b : Batch) : Work ProcessResult := do
  let selected ← Client.query .whatsAppNotification (pending b.now b.limit)
  processAll b selected {}

end WhatsAppGateway

end Asoju.FieldForce
