/-
Who has sent a message, and what an agent and a customer may tell each other.

The handlers of a socket keep the user of its connection, so that a message carries the identity of
that moment, whoever has been authenticated since.  Whether the user takes part in the thread is
asked of the id alone.  And free text is kept out of the threads of an agent and a customer by the
type that the client sends, while the content is stored beside it.  `authentic_iff` says exactly what
has to be avoided.
-/
import Asoju.FieldForce.ChatReceipts

namespace Asoju.FieldForce

open Lib

namespace Chat

/-! ## The property -/

/-- The thread is one of an agent and a customer. -/
def Crosses (thread : Thread) : Prop :=
  (thread.participantA.role = "AGENT" ∧ thread.participantB.role = "CUSTOMER") ∨
    (thread.participantA.role = "CUSTOMER" ∧ thread.participantB.role = "AGENT")

/-- A message of a socket carries the identity that has been authenticated last, which takes part in
the thread; and between an agent and a customer it carries no free text. -/
structure Proper (s : Service) (c : Connection) (m : Message) : Prop where
  senderId : m.senderId = c.authenticated.userId
  senderRole : m.senderRole = c.authenticated.role
  thread : ∃ thread, s.thread.get? m.threadId = some thread ∧
    isParticipant thread c.authenticated = true ∧
    (Crosses thread → m.type ≠ "TEXT" ∧ m.content = none)

/-- **Messages are authentic**: what the event stores is proper, and it changes nothing of what is
stored but statuses and deletions. -/
structure Authentic (s : Service) (e : Event) : Prop where
  kept : ∀ i m, s.message.get? i = some m → ∃ status deleted,
    (step s e).message.get? i = some { m with status, deleted }
  stored : ∀ i m, (step s e).message.get? i = some m → s.message.get? i = none →
    ∃ socketId data now c, e = .messageSend socketId data now ∧
      s.socket.get? socketId = some c ∧ Proper s c m

/-! ## The condition -/

/-- The user is the one that has been authenticated last. -/
def Connection.Current (c : Connection) : Prop :=
  c.authenticated.userId = c.user.userId ∧ c.authenticated.role = c.user.role

/-- The data bring no free text. -/
def SendData.Textless (data : SendData) : Prop :=
  data.type ≠ "" ∧ (data.type = "FILE" ∨ orNull data.content = none)

/-- If a message is accepted, the socket has not been authenticated as anybody else, the user takes
part in the thread in his own role, and between an agent and a customer the message is textless. -/
def Upright (s : Service) : Event → Prop
  | .messageSend socketId data _ =>
      ∀ c ∈ s.socket.get? socketId, ∀ thread recipient, Accepted s c.user data thread recipient →
        c.Current ∧ isParticipant thread c.user = true ∧ (Crosses thread → data.Textless)
  | _ => True

/-! ## One message -/

section Message

variable {s : Service} {c : Connection} {data : SendData} {thread : Thread}
  {recipient : Participant} {now : Time}

/-- Whether a user takes part in a thread depends on his id and his role. -/
lemma Connection.Current.isParticipant_eq (h : c.Current) (thread : Thread) :
    isParticipant thread c.authenticated = isParticipant thread c.user := by
  simp only [isParticipant, Participant.isUser, h.1, h.2]

/-- Between an agent and a customer, a text of one of them is blocked. -/
lemma blocked_of_crosses {user : AuthUser} (hcrosses : Crosses thread)
    (hparticipant : isParticipant thread user = true)
    (hrecipient : getRecipient thread user.userId = some recipient) :
    decideRouting user.role.text recipient.role "TEXT" = .blocked := by
  have hrole : (thread.participantA.id = user.userId ∧
        thread.participantA.role = user.role.text) ∨
      (thread.participantB.id = user.userId ∧ thread.participantB.role = user.role.text) := by
    simpa [isParticipant, Participant.isUser] using hparticipant
  rw [getRecipient] at hrecipient
  by_cases hid : thread.participantA.id = user.userId
  · rw [if_pos hid, Option.some.injEq] at hrecipient
    subst hrecipient
    rcases hrole with ⟨-, hrole⟩ | ⟨-, hrole⟩
    · rw [← hrole]
      rcases hcrosses with ⟨ha, hb⟩ | ⟨ha, hb⟩ <;> rw [ha, hb] <;> decide
    · -- Both participants have the same id: the message would go to the user himself.
      rw [← hrole]
      rcases hcrosses with ⟨-, hb⟩ | ⟨-, hb⟩ <;> rw [hb] <;> decide
  · rw [if_neg hid] at hrecipient
    split_ifs at hrecipient
    obtain rfl := Option.some.inj hrecipient
    rcases hrole with ⟨ha, -⟩ | ⟨-, hrole⟩
    · exact absurd ha hid
    · rw [← hrole]
      rcases hcrosses with ⟨ha, hb⟩ | ⟨ha, hb⟩ <;> rw [ha, hb] <;> decide

/-- What is stored has no content exactly if it is a file or comes without one. -/
lemma newMessage_content_eq_none {user : AuthUser} :
    (newMessage user recipient data now).content = none ↔
      data.type = "FILE" ∨ orNull data.content = none := by
  show (if data.type = "FILE" then none else orNull data.content) = none ↔ _
  split_ifs with hfile
  · simp [hfile]
  · simp [hfile]

/-- What is stored is a text if it is sent as one, or without a type. -/
lemma newMessage_type_eq {user : AuthUser} :
    (newMessage user recipient data now).type = "TEXT" ↔ data.type = "" ∨ data.type = "TEXT" := by
  show (if data.type = "" then "TEXT" else data.type) = "TEXT" ↔ _
  split_ifs with htype
  · simp [htype]
  · simp [htype]

/-- Whether a message is proper does not depend on its status. -/
lemma proper_status_iff {m : Message} (status : MessageStatus) :
    Proper s c { m with status } ↔ Proper s c m := by
  constructor
  · rintro ⟨hsenderId, hsenderRole, hthread⟩
    exact ⟨hsenderId, hsenderRole, hthread⟩
  · rintro ⟨hsenderId, hsenderRole, hthread⟩
    exact ⟨hsenderId, hsenderRole, hthread⟩

/-- **A message that is accepted** is proper exactly under the condition. -/
lemma proper_iff (h : Accepted s c.user data thread recipient) :
    Proper s c (newMessage c.user recipient data now) ↔
      c.Current ∧ isParticipant thread c.user = true ∧ (Crosses thread → data.Textless) := by
  constructor
  · rintro ⟨hsenderId, hsenderRole, thread', hthread, hparticipant, htextless⟩
    obtain rfl : thread = thread' := Option.some.inj (h.found.symm.trans hthread)
    have hcurrent : c.Current := ⟨hsenderId.symm, hsenderRole.symm⟩
    refine ⟨hcurrent, hcurrent.isParticipant_eq thread ▸ hparticipant, fun hcrosses => ?_⟩
    obtain ⟨htype, hcontent⟩ := htextless hcrosses
    refine ⟨fun hempty => htype (newMessage_type_eq.mpr (Or.inl hempty)), ?_⟩
    exact newMessage_content_eq_none.mp hcontent
  · rintro ⟨hcurrent, hparticipant, htextless⟩
    refine ⟨hcurrent.1.symm, hcurrent.2.symm, thread, h.found, ?_, fun hcrosses => ⟨?_, ?_⟩⟩
    · rwa [hcurrent.isParticipant_eq]
    · intro htext
      rcases newMessage_type_eq.mp htext with hempty | htext
      · exact (htextless hcrosses).1 hempty
      · -- A text has been blocked.
        refine h.routed ?_
        rw [htext]
        exact blocked_of_crosses hcrosses hparticipant h.addressed
    · exact newMessage_content_eq_none.mpr (htextless hcrosses).2

end Message

/-! ## Runs -/

section Authentic

variable {s : Service} {e : Event}

/-- An event that stores nothing. -/
lemma authentic_of_marks (h : Marks (fun _ => True) s (step s e)) : Authentic s e := by
  refine ⟨fun i m hm => ?_, fun i m hm hnone => ?_⟩
  · obtain ⟨status, deleted, hm', -⟩ := h.kept i m hm
    exact ⟨status, deleted, hm'⟩
  · rw [h.none i hnone] at hm
    cases hm

lemma authentic_of_handle {socketId : Id} {f : AuthUser → Service → Response × Service}
    (hstep : step s e = s.handle socketId f)
    (h : ∀ c ∈ s.socket.get? socketId, Marks (fun _ => True) s (f c.user s).2) :
    Authentic s e := by
  refine authentic_of_marks ?_
  rw [hstep, Service.handle]
  cases hsocket : s.socket.get? socketId with
  | none => exact marks_of_eq rfl
  | some c => exact h c hsocket

/-- **Each event but one** stores nothing, and what `message:send` stores is proper exactly under the
condition. -/
lemma authentic_step_iff : Authentic s e ↔ Upright s e := by
  cases e with
  | connect user => exact iff_of_true (authentic_of_marks (marks_of_eq rfl)) trivial
  | auth socketId verifiedUser =>
    refine iff_of_true (authentic_of_marks (marks_of_eq ?_)) trivial
    cases verifiedUser <;> rfl
  | disconnect socketId =>
    exact iff_of_true (authentic_of_marks (marks_of_eq rfl)) trivial
  | threadJoin socketId threadId =>
    refine iff_of_true ?_ trivial
    exact authentic_of_handle (f := fun user => threadJoin user threadId) rfl
      fun _ _ => marks_threadJoin
  | messageDelete socketId messageId threadId =>
    refine iff_of_true ?_ trivial
    exact authentic_of_handle (f := fun user => messageDelete user messageId threadId) rfl
      fun _ _ => marks_messageDelete messageId
  | messageRead socketId threadId messageIds =>
    refine iff_of_true ?_ trivial
    exact authentic_of_handle (f := fun user => messageRead user threadId messageIds) rfl
      fun _ _ => marks_messageRead (fun _ _ _ _ => trivial) (fun _ _ _ _ _ _ => trivial)
        fun _ _ _ _ _ _ _ _ _ => trivial
  | messageDelivered socketId threadId messageIds =>
    refine iff_of_true ?_ trivial
    exact authentic_of_handle (f := fun user => messageDelivered user threadId messageIds) rfl
      fun _ _ => marks_messageDelivered messageIds
  | messageSend socketId data now =>
    constructor
    · intro hauthentic c hc thread recipient haccepted
      obtain ⟨status, -, hget⟩ := messageSend_of_accepted now haccepted
      have hstep : step s (.messageSend socketId data now) = (messageSend c.user data now s).2 := by
        rw [step, Service.handle, Option.mem_def.mp hc]
      have hnew := hget s.message.next
      rw [if_pos rfl, ← hstep] at hnew
      obtain ⟨socketId', data', now', c', heq, hc', hproper⟩ :=
        hauthentic.stored _ _ hnew (Table.get?_next _)
      obtain ⟨rfl, rfl, rfl⟩ := Event.messageSend.inj heq
      obtain rfl : c = c' := Option.some.inj ((Option.mem_def.mp hc).symm.trans hc')
      exact (proper_iff haccepted).mp ((proper_status_iff status).mp hproper)
    · intro hupright
      cases hsocket : s.socket.get? socketId with
      | none =>
        refine authentic_of_handle (f := fun user => messageSend user data now) rfl fun c hc => ?_
        rw [hsocket] at hc
        cases hc
      | some c =>
        by_cases haccepted : ∃ thread recipient, Accepted s c.user data thread recipient
        · obtain ⟨thread, recipient, haccepted⟩ := haccepted
          have hstep : step s (.messageSend socketId data now) =
              (messageSend c.user data now s).2 := by
            rw [step, Service.handle, hsocket]
          obtain ⟨status, -, hget⟩ := messageSend_of_accepted now haccepted
          rw [← hstep] at hget
          refine ⟨fun i m hm => ⟨m.status, m.deleted, ?_⟩, fun i m hm hnone => ?_⟩
          · rw [hget, if_neg (Nat.ne_of_lt (s.message.lt_next_of_get? hm)), hm]
          · rw [hget, hnone] at hm
            split_ifs at hm
            obtain rfl := Option.some.inj hm
            refine ⟨socketId, data, now, c, rfl, hsocket, (proper_status_iff status).mpr ?_⟩
            exact (proper_iff haccepted).mpr (hupright c hsocket thread recipient haccepted)
        · refine authentic_of_handle (f := fun user => messageSend user data now) rfl
            fun c' hc' => marks_of_eq (congrArg Service.message (messageSend_of_not_accepted ?_))
          obtain rfl : c = c' := Option.some.inj (hsocket.symm.trans hc')
          exact fun thread recipient hnot => haccepted ⟨thread, recipient, hnot⟩

/-- **Messages are authentic** throughout a run exactly if the run meets the condition. -/
theorem authentic_iff (s : Service) (es : List Event) :
    AllSteps step Authentic s es ↔ AllSteps step Upright s es :=
  allSteps_congr_of_invariant (I := fun _ => True) (s := s) (fun _ _ _ => trivial)
    (fun _ _ _ => authentic_step_iff) trivial es

end Authentic

/-- A thread of an agent and a customer. -/
def crossing : Service where
  thread := Table.empty.insert ⟨⟨"a", "AGENT", "Ada"⟩, ⟨"c", "CUSTOMER", "Cem"⟩, 0, 0⟩

/-- A socket that has been authenticated as a customer sends in the name of the agent of before; and
a message without a type reaches the customer as a text. -/
theorem not_authentic :
    ¬ AllSteps step Authentic oneThread
      [.connect ⟨"a", .agent, "Ada"⟩, .auth 0 (some ⟨"c", .customer, "Cem"⟩),
        .messageSend 0 { threadId := 0, content := some "hello", type := "TEXT" } 1] ∧
    ¬ AllSteps step Authentic crossing
      [.connect ⟨"a", .agent, "Ada"⟩,
        .messageSend 0 { threadId := 0, content := some "hello" } 1] := by
  constructor
  · rintro ⟨-, -, h, -⟩
    obtain ⟨socketId, data, now, c, heq, hc, hproper⟩ := h.stored 0 _ rfl rfl
    obtain ⟨rfl, -, -⟩ := Event.messageSend.inj heq
    obtain rfl := Option.some.inj hc
    exact absurd hproper.senderId (by decide)
  · rintro ⟨-, h, -⟩
    obtain ⟨socketId, data, now, c, heq, hc, hproper⟩ := h.stored 0 _ rfl rfl
    obtain ⟨thread, hthread, -, htextless⟩ := hproper.thread
    obtain rfl := Option.some.inj hthread
    exact (htextless (Or.inl ⟨rfl, rfl⟩)).1 rfl

end Chat

end Asoju.FieldForce
