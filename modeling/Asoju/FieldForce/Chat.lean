/-
The chat service of FieldForce: its sockets, threads and messages.

A socket is authenticated when it connects, and the handlers of its events keep the user of that
moment.  An `auth` event authenticates the socket again; it changes the record of the socket among
those that are online, and the handlers keep the old user.  Each handler runs from its beginning to
its end with nothing in between, so an event is one step.  A token is given by what its verification
comes to.
-/
import Asoju.FieldForce.Schema
import Asoju.Lib.Sorting

namespace Asoju.FieldForce

open Lib

namespace Chat

inductive Role
  | agent | admin | customer
deriving DecidableEq, Repr

def Role.text : Role → String
  | agent => "AGENT"
  | admin => "ADMIN"
  | customer => "CUSTOMER"

/-- What a token says, when it is valid. -/
structure AuthUser where
  userId : String
  role : Role
  displayName : String
deriving DecidableEq, Repr

structure Participant where
  id : String
  /-- Any text: the second participant of a thread is named by the first one. -/
  role : String
  name : String
deriving DecidableEq, Repr

structure Thread where
  participantA : Participant
  participantB : Participant
  unreadCountA : ℕ := 0
  unreadCountB : ℕ := 0
deriving DecidableEq, Repr

inductive MessageStatus
  | sent | delivered | read
deriving DecidableEq, Repr

/-- The place of a status in the order SENT, DELIVERED, READ. -/
def MessageStatus.rank : MessageStatus → ℕ
  | sent => 0
  | delivered => 1
  | read => 2

structure Message where
  threadId : Id
  senderId : String
  senderRole : Role
  senderName : String
  /-- `TEXT`, `FILE`, `LOCATION`, or what the client has sent. -/
  type : String
  content : Option String := none
  fileUrl : Option String := none
  fileName : Option String := none
  fileSize : Option ℕ := none
  fileType : Option String := none
  replyToId : Option Id := none
  relayed : Bool := false
  originalSenderId : Option String := none
  relayedToId : Option String := none
  status : MessageStatus := .sent
  deleted : Bool := false
  createdAt : Time
deriving DecidableEq, Repr

/-- A socket: the user that its handlers keep, and the one that has been authenticated last. -/
structure Connection where
  user : AuthUser
  authenticated : AuthUser
deriving DecidableEq, Repr

structure Service where
  thread : Table Thread := .empty
  message : Table Message := .empty
  socket : Table Connection := .empty

/-- The answer to an event. -/
structure Response where
  success : Bool
  error : Option String := none
  messageId : Option Id := none
deriving DecidableEq, Repr

def Response.failed (error : String) : Response := ⟨false, some error, none⟩

/-! ## The messages -/

/-- The last messages of a thread that are not deleted, the oldest first. -/
def getMessages (threadId : Id) (limit : ℕ) (s : Service) : List (Id × Message) :=
  ((sortDesc (fun p => p.2.createdAt) (s.message.rows.filter fun p =>
    p.2.threadId = threadId ∧ p.2.deleted = false)).take limit).reverse

/-- Change the messages that pass a test. -/
def Service.updateMessages (q : Id → Message → Bool) (f : Message → Message) (s : Service) :
    Service :=
  { s with message := s.message.modifyWhere q f }

def updateMessageStatus (messageIds : List Id) (status : MessageStatus) (s : Service) : Service :=
  s.updateMessages (fun i m => i ∈ messageIds ∧ m.deleted = false) fun m => { m with status }

/-- The messages of a thread that others have sent are READ. -/
def readOthers (threadId : Id) (userId : String) (s : Service) : Service :=
  s.updateMessages
    (fun _ m => m.threadId = threadId ∧ m.senderId ≠ userId ∧ m.status ≠ .read ∧ m.deleted = false)
    fun m => { m with status := .read }

def markAsRead (threadId : Id) (userId : String) (s : Service) : Service :=
  match s.thread.get? threadId with
  | none => s
  | some thread =>
      if thread.participantA.id = userId then
        readOthers threadId userId
          { s with thread := s.thread.modify threadId fun t => { t with unreadCountA := 0 } }
      else if thread.participantB.id = userId then
        readOthers threadId userId
          { s with thread := s.thread.modify threadId fun t => { t with unreadCountB := 0 } }
      else s

def softDeleteMessage (messageId : Id) (userId : String) (s : Service) :
    Except String Service :=
  match s.message.get? messageId with
  | none => .error "Message not found"
  | some message =>
      if message.senderId ≠ userId then .error "Only the sender can delete this message"
      else .ok { s with message := s.message.modify messageId fun m => { m with deleted := true } }

/-- Store a message, and count it as unread by the one who has not sent it. -/
def addMessage (m : Message) (s : Service) : Service :=
  { s with
    message := s.message.insert m
    thread := s.thread.modify m.threadId fun t =>
      if t.participantA.id = m.senderId then { t with unreadCountB := t.unreadCountB + 1 }
      else { t with unreadCountA := t.unreadCountA + 1 } }

/-! ## Routing -/

/-- The other participant of the thread. -/
def getRecipient (thread : Thread) (senderId : String) : Option Participant :=
  if thread.participantA.id = senderId then some thread.participantB
  else if thread.participantB.id = senderId then some thread.participantA
  else none

inductive RouteDecision
  | allowed | blocked | relayed
deriving DecidableEq, Repr

def decideRouting (s r messageType : String) : RouteDecision :=
  if (s = "AGENT" ∧ r = "CUSTOMER") ∨ (s = "CUSTOMER" ∧ r = "AGENT") then
    if messageType = "TEXT" then .blocked else .relayed
  else if s = "AGENT" ∧ r = "AGENT" then .blocked
  else if s = "CUSTOMER" ∧ r = "CUSTOMER" then .blocked
  else if s = "ADMIN" ∨ r = "ADMIN" then .allowed
  else .blocked

def blockedError (user : AuthUser) (recipient : Participant) : String :=
  if (user.role = .agent ∧ recipient.role = "CUSTOMER") ∨
      (user.role = .customer ∧ recipient.role = "AGENT") then
    "Direct text chat between agents and customers is not allowed"
  else
    let role := user.role.text.toLower
    s!"Direct messaging between {role}s is not allowed"

/-! ## The handlers -/

/-- The participant is the user, in the same role. -/
def Participant.isUser (p : Participant) (user : AuthUser) : Bool :=
  p.id = user.userId ∧ p.role = user.role.text

def isParticipant (thread : Thread) (user : AuthUser) : Bool :=
  thread.participantA.isUser user || thread.participantB.isUser user

/-- What is done in a thread by one of its participants. -/
def asParticipant (user : AuthUser) (threadId : Id) (s : Service)
    (act : Thread → Response × Service) : Response × Service :=
  match s.thread.get? threadId with
  | none => (.failed "Thread not found", s)
  | some thread =>
      if ¬ isParticipant thread user then (.failed "Not a participant", s) else act thread

def threadJoin (user : AuthUser) (threadId : Id) (s : Service) : Response × Service :=
  asParticipant user threadId s fun thread =>
    match getRecipient thread user.userId with
    | none => (⟨true, none, none⟩, s)
    | some _ =>
        let sentMessageIds := ((getMessages threadId 200 s).filter fun p =>
          p.2.senderId ≠ user.userId ∧ p.2.status = .sent).map Prod.fst
        (⟨true, none, none⟩, updateMessageStatus sentMessageIds .delivered s)

/-- The data of a message to be sent; a type that is missing is the empty text. -/
structure SendData where
  threadId : Id
  content : Option String := none
  type : String := ""
  fileUrl : Option String := none
  fileName : Option String := none
  fileSize : Option ℕ := none
  fileType : Option String := none
  replyToId : Option Id := none
deriving DecidableEq, Repr

/-- The message that is replied to is one of the thread. -/
def replyIsValid (data : SendData) (s : Service) : Bool :=
  match data.replyToId with
  | none => true
  | some replyToId => (s.message.get? replyToId).any fun m => m.threadId = data.threadId

/-- An empty text is stored as null. -/
def orNull (text : Option String) : Option String := text.filter (· ≠ "")

/-- The message that is stored. -/
def newMessage (user : AuthUser) (recipient : Participant) (data : SendData) (now : Time) :
    Message :=
  let isRelayed := decideRouting user.role.text recipient.role data.type = .relayed
  { threadId := data.threadId
    senderId := user.userId
    senderRole := user.role
    senderName := user.displayName
    type := if data.type = "" then "TEXT" else data.type
    content := if data.type = "FILE" then none else orNull data.content
    fileUrl := orNull data.fileUrl
    fileName := orNull data.fileName
    fileSize := data.fileSize.filter (· ≠ 0)
    fileType := orNull data.fileType
    replyToId := data.replyToId
    relayed := isRelayed
    originalSenderId := if isRelayed then some user.userId else none
    relayedToId := if isRelayed then some recipient.id else none
    createdAt := now }

/-- Somebody is online with the id. -/
def isOnline (userId : String) (s : Service) : Bool :=
  s.socket.values.any fun c => c.authenticated.userId = userId

def messageSend (user : AuthUser) (data : SendData) (now : Time) (s : Service) :
    Response × Service :=
  match s.thread.get? data.threadId with
  | none => (.failed "Thread not found", s)
  | some thread =>
      match getRecipient thread user.userId with
      | none => (.failed "Not a participant", s)
      | some recipient =>
          if ¬ replyIsValid data s then (.failed "Invalid reply target", s)
          else if decideRouting user.role.text recipient.role data.type = .blocked then
            (.failed (blockedError user recipient), s)
          else
            let messageId := s.message.next
            let stored := addMessage (newMessage user recipient data now) s
            (⟨true, none, some messageId⟩,
              if isOnline recipient.id s then updateMessageStatus [messageId] .delivered stored
              else stored)

def messageDelete (user : AuthUser) (messageId threadId : Id) (s : Service) :
    Response × Service :=
  asParticipant user threadId s fun _ =>
    match softDeleteMessage messageId user.userId s with
    | .error e => (.failed e, s)
    | .ok s' => (⟨true, none, none⟩, s')

def messageRead (user : AuthUser) (threadId : Id) (messageIds : List Id) (s : Service) :
    Response × Service :=
  asParticipant user threadId s fun _ =>
    let named := if messageIds = [] then s else updateMessageStatus messageIds .read s
    (⟨true, none, none⟩, markAsRead threadId user.userId named)

def messageDelivered (user : AuthUser) (threadId : Id) (messageIds : List Id) (s : Service) :
    Response × Service :=
  asParticipant user threadId s fun _ =>
    let sentIds := ((getMessages threadId 200 s).filter fun p =>
      p.1 ∈ messageIds ∧ p.2.status = .sent ∧ p.2.senderId ≠ user.userId).map Prod.fst
    (⟨true, none, none⟩, updateMessageStatus sentIds .delivered s)

/-! ## Runs -/

inductive Event
  | connect (user : AuthUser)
  /-- The socket is authenticated again, if the token is valid. -/
  | auth (socketId : Id) (verifiedUser : Option AuthUser)
  | threadJoin (socketId threadId : Id)
  | messageSend (socketId : Id) (data : SendData) (now : Time)
  | messageDelete (socketId messageId threadId : Id)
  | messageRead (socketId threadId : Id) (messageIds : List Id)
  | messageDelivered (socketId threadId : Id) (messageIds : List Id)
  | disconnect (socketId : Id)
deriving DecidableEq, Repr

/-- What the handler of a socket does, if the socket is connected. -/
def Service.handle (s : Service) (socketId : Id)
    (handler : AuthUser → Service → Response × Service) : Service :=
  match s.socket.get? socketId with
  | none => s
  | some c => (handler c.user s).2

def step (s : Service) : Event → Service
  | .connect user => { s with socket := s.socket.insert ⟨user, user⟩ }
  | .auth socketId verifiedUser =>
      match verifiedUser with
      | none => s
      | some user =>
          { s with socket := s.socket.modify socketId fun c => { c with authenticated := user } }
  | .threadJoin socketId threadId => s.handle socketId fun user => Chat.threadJoin user threadId
  | .messageSend socketId data now =>
      s.handle socketId fun user => Chat.messageSend user data now
  | .messageDelete socketId messageId threadId =>
      s.handle socketId fun user => Chat.messageDelete user messageId threadId
  | .messageRead socketId threadId messageIds =>
      s.handle socketId fun user => Chat.messageRead user threadId messageIds
  | .messageDelivered socketId threadId messageIds =>
      s.handle socketId fun user => Chat.messageDelivered user threadId messageIds
  | .disconnect socketId => { s with socket := s.socket.erase socketId }

end Chat

end Asoju.FieldForce
