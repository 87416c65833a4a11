/-
The chat of FieldForce between its service and the tabs in which it is shown.

What a handler sends to a socket waits there until the tab takes it, one push after the other.  A
page of messages that the tab has asked for over HTTP can arrive at any time, and replaces what is
shown of the thread.  So a tab may be behind the service, and `views_faithful` says in which way:
what it shows are messages that the service has, each once, in a thread of somebody who has used the
tab, and with statuses that have been reached.  `heard_in_order` says that nothing is lost on the
way, as long as no page comes in between.

The service sends a `message:deleted` without the thread, and the tab, which looks for the thread,
lets it go: a deletion is seen when the page is loaded again.
-/
import Asoju.FieldForce.ChatHistory
import Asoju.FieldForce.ChatUnread

namespace Asoju.FieldForce

open Lib

namespace Chat

/-! ## What the service sends -/

/-- What a socket is sent, as far as it is about messages. -/
inductive Push
  | messageNew (p : Id × Message)
  | messageStatus (threadId : Id) (messageIds : List Id) (status : MessageStatus)
  | messageDeleted (threadId : Option Id) (messageId : Id)
deriving DecidableEq, Repr

/-- The sockets that are authenticated with the id. -/
def getSocketsForUser (userId : String) (s : Service) : List Id :=
  (s.socket.rows.filter fun p => p.2.authenticated.userId = userId).map Prod.fst

def getOnlineAdminSockets (s : Service) : List Id :=
  (s.socket.rows.filter fun p => p.2.authenticated.role = .admin).map Prod.fst

/-- Each sender is told which of his messages have been delivered. -/
def tellSenders (threadId : Id) (sent : List (Id × Message)) (s : Service) : List (Id × Push) :=
  (sent.map fun p => p.2.senderId).eraseDups.flatMap fun senderId =>
    (getSocketsForUser senderId s).map fun socketId =>
      (socketId, .messageStatus threadId
        ((sent.filter fun p => p.2.senderId = senderId).map Prod.fst) .delivered)

/-- What is sent in a thread on behalf of one of its participants. -/
def pushesAsParticipant (user : AuthUser) (threadId : Id) (s : Service)
    (pushes : Thread → List (Id × Push)) : List (Id × Push) :=
  match s.thread.get? threadId with
  | none => []
  | some thread => if isParticipant thread user then pushes thread else []

def threadJoinPushes (user : AuthUser) (threadId : Id) (s : Service) : List (Id × Push) :=
  pushesAsParticipant user threadId s fun thread =>
    match getRecipient thread user.userId with
    | none => []
    | some _ => tellSenders threadId ((getMessages threadId 200 s).filter fun p =>
        p.2.senderId ≠ user.userId ∧ p.2.status = .sent) s

/-- The recipient's sockets get the message before they are counted as having it, and the socket of
the sender gets it last; the other sockets of the sender do not get it. -/
def messageSendPushes (socketId : Id) (user : AuthUser) (data : SendData) (now : Time)
    (s : Service) : List (Id × Push) :=
  match s.thread.get? data.threadId with
  | none => []
  | some thread =>
      match getRecipient thread user.userId with
      | none => []
      | some recipient =>
          if ¬ replyIsValid data s then []
          else if decideRouting user.role.text recipient.role data.type = .blocked then []
          else
            let message := (s.message.next, newMessage user recipient data now)
            let recipientSockets := getSocketsForUser recipient.id s
            recipientSockets.map (·, .messageNew message) ++
              (if recipientSockets = [] then []
                else [(socketId, .messageStatus data.threadId [message.1] .delivered)]) ++
              [(socketId, .messageNew message)] ++
              (if message.2.relayed then (getOnlineAdminSockets s).map (·, .messageNew message)
                else [])

def messageReadPushes (user : AuthUser) (threadId : Id) (messageIds : List Id) (s : Service) :
    List (Id × Push) :=
  pushesAsParticipant user threadId s fun thread =>
    match getRecipient thread user.userId with
    | none => []
    | some recipient =>
        let statusChangeIds := ((getMessages threadId 200 s).filter fun p =>
          p.1 ∈ messageIds ∧ p.2.status ≠ .read ∧ p.2.senderId ≠ user.userId).map Prod.fst
        if statusChangeIds = [] then []
        else (getSocketsForUser recipient.id s).map
          (·, .messageStatus threadId statusChangeIds .read)

def messageDeliveredPushes (user : AuthUser) (threadId : Id) (messageIds : List Id)
    (s : Service) : List (Id × Push) :=
  pushesAsParticipant user threadId s fun _ =>
    tellSenders threadId ((getMessages threadId 200 s).filter fun p =>
      p.1 ∈ messageIds ∧ p.2.status = .sent ∧ p.2.senderId ≠ user.userId) s

/-- `rooms` are the sockets that have joined a thread, with the thread. -/
def messageDeletePushes (rooms : List (Id × Id)) (user : AuthUser) (messageId threadId : Id)
    (s : Service) : List (Id × Push) :=
  pushesAsParticipant user threadId s fun _ =>
    match softDeleteMessage messageId user.userId s with
    | .error _ => []
    | .ok _ => (rooms.filter fun r => r.2 = threadId).map (·.1, .messageDeleted none messageId)

/-- What a handler of the socket sends, if the socket is connected. -/
def handledPushes (s : Service) (socketId : Id) (handler : AuthUser → List (Id × Push)) :
    List (Id × Push) :=
  match s.socket.get? socketId with
  | none => []
  | some c => handler c.user

def pushes (rooms : List (Id × Id)) (s : Service) : Event → List (Id × Push)
  | .threadJoin socketId threadId => handledPushes s socketId (threadJoinPushes · threadId s)
  | .messageSend socketId data now =>
      handledPushes s socketId (messageSendPushes socketId · data now s)
  | .messageDelete socketId messageId threadId =>
      handledPushes s socketId (messageDeletePushes rooms · messageId threadId s)
  | .messageRead socketId threadId messageIds =>
      handledPushes s socketId (messageReadPushes · threadId messageIds s)
  | .messageDelivered socketId threadId messageIds =>
      handledPushes s socketId (messageDeliveredPushes · threadId messageIds s)
  | .connect _ | .auth _ _ | .disconnect _ => []

/-! ## What a tab does with it -/

/-- The messages that a tab has, by thread. -/
abbrev View := Id → List (Id × Message)

def View.receive (view : View) : Push → View
  | .messageNew p =>
      if (view p.2.threadId).any fun q => q.1 = p.1 then view
      else Function.update view p.2.threadId (view p.2.threadId ++ [p])
  | .messageStatus threadId messageIds status =>
      Function.update view threadId ((view threadId).map fun p =>
        if p.1 ∈ messageIds then (p.1, { p.2 with status }) else p)
  | .messageDeleted none _ => view
  | .messageDeleted (some threadId) messageId =>
      Function.update view threadId ((view threadId).map fun p =>
        if p.1 = messageId then
          (p.1, { p.2 with deleted := true, content := none, fileUrl := none })
        else p)

/-- A tab, with what is on the way to it. -/
structure Tab where
  view : View := fun _ => []
  /-- What its socket has been sent, the oldest first. -/
  inbox : List Push := []
  /-- The pages that it has asked for, each with its thread. -/
  pages : List (Id × List (Id × Message)) := []
  /-- Whoever has used it. -/
  users : List AuthUser := []

/-- The tab takes the next push. -/
def Tab.receive (t : Tab) : Tab :=
  match t.inbox with
  | [] => t
  | push :: inbox => { t with inbox, view := t.view.receive push }

/-- A page arrives, and replaces what is shown of its thread. -/
def Tab.loadMessages (k : ℕ) (t : Tab) : Tab :=
  match t.pages[k]? with
  | none => t
  | some (threadId, page) =>
      { t with view := Function.update t.view threadId page, pages := t.pages.eraseIdx k }

/-- The service and the tabs, by their sockets. -/
structure Network where
  service : Service
  rooms : List (Id × Id) := []
  tab : Id → Tab := fun _ => {}

/-- What a tab asks the service for. -/
inductive Request
  | auth (verifiedUser : Option AuthUser)
  | threadJoin (threadId : Id)
  | messageSend (data : SendData) (now : Time)
  | messageDelete (messageId threadId : Id)
  | messageRead (threadId : Id) (messageIds : List Id)
  | messageDelivered (threadId : Id) (messageIds : List Id)
deriving DecidableEq, Repr

/-- The event of the tab's socket. -/
def Request.event (socketId : Id) : Request → Event
  | auth verifiedUser => .auth socketId verifiedUser
  | threadJoin threadId => .threadJoin socketId threadId
  | messageSend data now => .messageSend socketId data now
  | messageDelete messageId threadId => .messageDelete socketId messageId threadId
  | messageRead threadId messageIds => .messageRead socketId threadId messageIds
  | messageDelivered threadId messageIds => .messageDelivered socketId threadId messageIds

/-- Whom a request shows to use the tab. -/
def Request.users : Request → List AuthUser
  | auth verifiedUser => verifiedUser.toList
  | _ => []

inductive Action
  /-- A tab connects; if it has had a socket, it goes on with what it shows. -/
  | connect (previous : Option Id) (user : AuthUser)
  | disconnect (i : Id)
  | request (i : Id) (r : Request)
  | receive (i : Id)
  /-- The service is asked for a page, over HTTP. -/
  | getMessages (i : Id) (user : AuthUser) (threadId : Id) (before : Option Time) (limit : ℕ)
  | loadMessages (i : Id) (k : ℕ)
  /-- What the service does for anybody over HTTP. -/
  | createThread (user : AuthUser) (participantB : Participant)
  | markAsRead (threadId : Id) (userId : String)
  | deleteMessage (messageId : Id) (userId : String)

namespace Network

variable (n : Network)

/-- The tab is changed. -/
def updateTab (i : Id) (f : Tab → Tab) : Network :=
  { n with tab := Function.update n.tab i (f (n.tab i)) }

/-- What the service sends is put where it is addressed to. -/
def send (ps : List (Id × Push)) : Id → Tab := fun i =>
  { n.tab i with inbox := (n.tab i).inbox ++ (ps.filter fun p => p.1 = i).map Prod.snd }

/-- The room that an event lets its socket into. -/
def joined (e : Event) : List (Id × Id) :=
  match e with
  | .threadJoin socketId threadId =>
      match n.service.socket.get? socketId with
      | none => []
      | some c =>
          if (Chat.threadJoin c.user threadId n.service).1.success then [(socketId, threadId)]
          else []
  | _ => []

/-- The service handles an event. -/
def handle (e : Event) : Network where
  service := step n.service e
  rooms := n.rooms ++ n.joined e
  tab := n.send (pushes n.rooms n.service e)

def act : Action → Network
  | .connect previous user =>
      let i := n.service.socket.next
      let before := (previous.map n.tab).getD {}
      { service := step n.service (.connect user), rooms := n.rooms
        tab := Function.update n.tab i
          { before with inbox := [], users := before.users ++ [user] } }
  | .disconnect i =>
      { service := step n.service (.disconnect i), rooms := n.rooms.filter fun r => r.1 ≠ i
        tab := Function.update n.tab i { n.tab i with inbox := [] } }
  | .request i r =>
      (n.updateTab i fun t => { t with users := t.users ++ r.users }).handle (r.event i)
  | .receive i => n.updateTab i Tab.receive
  | .getMessages i user threadId before limit =>
      match n.service.thread.get? threadId with
      | none => n
      | some thread =>
          if isParticipant thread user ∨ user.role = .admin then
            n.updateTab i fun t => { t with
              users := t.users ++ [user]
              pages := t.pages ++ [(threadId, getMessagesBefore threadId before limit n.service)] }
          else n
  | .loadMessages i k => n.updateTab i (Tab.loadMessages k)
  | .createThread user participantB =>
      if participantB.id = "" ∨ participantB.role = "" ∨ participantB.name = "" then n
      else { n with service := { n.service with
          thread := n.service.thread.insert
            { participantA := ⟨user.userId, user.role.text, user.displayName⟩, participantB } } }
  | .markAsRead threadId userId =>
      { n with service := store n.service (.markAsRead threadId userId) }
  | .deleteMessage messageId userId =>
      { n with service := store n.service (.softDeleteMessage messageId userId) }

end Network

end Chat

end Asoju.FieldForce
