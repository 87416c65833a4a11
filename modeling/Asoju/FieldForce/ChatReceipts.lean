/-
What the events of the chat service do to the messages, and the receipts of the messages.

An event changes nothing of a message but its status and its deletion, or stores one new message
(`messageSend_does`, and the lemmas before it).  A status goes forward only.  A `message:read` event
may name messages; the handler filters them when it tells the senders, and not when it writes.  So
whoever takes part in some thread can mark any message as READ; `genuine_iff` says that this is the
only way to forge a receipt.
-/
import Asoju.FieldForce.Chat
import Asoju.Lib.Run

namespace Asoju.FieldForce

open Lib

namespace Chat

/-! ## Changes of status -/

/-- Of each message nothing changes but its status and its deletion; the status goes forward, and to
READ only where `may` allows it.  No message is stored. -/
structure Marks (may : Message → Prop) (s s' : Service) : Prop where
  kept : ∀ i m, s.message.get? i = some m → ∃ status deleted,
    s'.message.get? i = some { m with status, deleted } ∧ m.status.rank ≤ status.rank ∧
    (m.status ≠ .read → status = .read → may m)
  none : ∀ i, s.message.get? i = none → s'.message.get? i = none

/-- The permission does not depend on what changes. -/
def Steady (may : Message → Prop) : Prop :=
  ∀ m status deleted, may { m with status, deleted } → may m

section Marks

variable {may : Message → Prop} {s s' s'' : Service}

lemma marks_of_eq (h : s'.message = s.message) : Marks may s s' where
  kept := fun i m hm => ⟨m.status, m.deleted, by rw [h, hm], le_rfl, fun hne h => absurd h hne⟩
  none := fun i hi => by rw [h, hi]

lemma Marks.trans (hmay : Steady may) (h : Marks may s s') (h' : Marks may s' s'') :
    Marks may s s'' := by
  refine ⟨fun i m hm => ?_, fun i hi => h'.none i (h.none i hi)⟩
  obtain ⟨status, deleted, hm', hle, hread⟩ := h.kept i m hm
  obtain ⟨status', deleted', hm'', hle', hread'⟩ := h'.kept i _ hm'
  refine ⟨status', deleted', hm'', hle.trans hle', fun hne heq => ?_⟩
  by_cases hmiddle : status = .read
  · exact hread hne hmiddle
  · exact hmay m status deleted (hread' hmiddle heq)

/-- A change of the statuses of some messages. -/
lemma marks_updateMessages {q : Id → Message → Bool} {status : MessageStatus}
    (h : ∀ i m, s.message.get? i = some m → q i m = true →
      m.status.rank ≤ status.rank ∧ (m.status ≠ .read → status = .read → may m)) :
    Marks may s (s.updateMessages q fun m => { m with status }) := by
  have hget : ∀ i, (s.updateMessages q fun m => { m with status }).message.get? i = _ :=
    fun i => s.message.get?_modifyWhere q (fun m => { m with status }) i
  refine ⟨fun i m hm => ?_, fun i hi => by rw [hget, hi, Option.map_none]⟩
  rw [hget, hm, Option.map_some]
  by_cases hq : q i m = true
  · obtain ⟨hle, hread⟩ := h i m hm hq
    exact ⟨status, m.deleted, by rw [if_pos hq], hle, hread⟩
  · exact ⟨m.status, m.deleted, by rw [if_neg hq], le_rfl, fun hne h => absurd h hne⟩

lemma marks_updateMessageStatus {messageIds : List Id} {status : MessageStatus}
    (h : ∀ i ∈ messageIds, ∀ m, s.message.get? i = some m → m.deleted = false →
      m.status.rank ≤ status.rank ∧ (m.status ≠ .read → status = .read → may m)) :
    Marks may s (updateMessageStatus messageIds status s) :=
  marks_updateMessages fun i m hm hq =>
    h i (of_decide_eq_true hq).1 m hm (of_decide_eq_true hq).2

/-- The messages that a handler picks from a thread are as it has tested them. -/
lemma of_mem_getMessages {q : Id × Message → Bool} {threadId : Id} {limit : ℕ} {i : Id} {m : Message}
    (hi : i ∈ ((getMessages threadId limit s).filter q).map Prod.fst)
    (hm : s.message.get? i = some m) : q (i, m) = true := by
  obtain ⟨p, hp, rfl⟩ := List.mem_map.mp hi
  obtain ⟨hmem, hq⟩ := List.mem_filter.mp hp
  have hrow : p ∈ s.message.rows := by
    have htaken := List.mem_of_mem_take (List.mem_reverse.mp hmem)
    exact List.mem_of_mem_filter ((mem_sortDesc _).mp htaken)
  obtain rfl : p.2 = m := Option.some.inj (((Table.mem_rows_iff _).mp hrow).symm.trans hm)
  exact hq

/-- What is delivered had been SENT. -/
lemma marks_delivered {q : Id × Message → Bool} (hq : ∀ p, q p = true → p.2.status = .sent)
    (threadId : Id) (limit : ℕ) :
    Marks may s (updateMessageStatus (((getMessages threadId limit s).filter q).map Prod.fst)
      .delivered s) := by
  refine marks_updateMessageStatus fun i hi m hm _ => ⟨?_, fun _ h => by cases h⟩
  rw [hq (i, m) (of_mem_getMessages hi hm)]
  decide

lemma marks_markAsRead {threadId : Id} {userId : String}
    (h : ∀ m, m.threadId = threadId → m.senderId ≠ userId → may m) :
    Marks may s (markAsRead threadId userId s) := by
  have hothers : ∀ s₁ : Service, s₁.message = s.message →
      Marks may s (readOthers threadId userId s₁) := by
    intro s₁ hs₁
    have hmarks : Marks may s₁ (readOthers threadId userId s₁) := by
      refine marks_updateMessages fun i m _ hq => ⟨?_, fun _ _ => ?_⟩
      · cases m.status <;> decide
      · exact h m (of_decide_eq_true hq).1 (of_decide_eq_true hq).2.1
    exact ⟨fun i m hm => hmarks.kept i m (hs₁ ▸ hm), fun i hi => hmarks.none i (hs₁ ▸ hi)⟩
  rw [markAsRead]
  cases s.thread.get? threadId with
  | none => exact marks_of_eq rfl
  | some thread =>
    dsimp only
    split_ifs
    · exact hothers _ rfl
    · exact hothers _ rfl
    · exact marks_of_eq rfl

end Marks

/-! ## The handlers -/

section Handlers

variable {may : Message → Prop} {s : Service} {user : AuthUser} {threadId : Id}

/-- What a participant does, or nothing. -/
lemma marks_asParticipant {act : Thread → Response × Service}
    (h : ∀ thread, s.thread.get? threadId = some thread → isParticipant thread user = true →
      Marks may s (act thread).2) : Marks may s (asParticipant user threadId s act).2 := by
  rw [asParticipant]
  cases hthread : s.thread.get? threadId with
  | none => exact marks_of_eq rfl
  | some thread =>
    dsimp only
    by_cases hparticipant : isParticipant thread user = true
    · rw [if_neg (not_not.mpr hparticipant)]
      exact h thread hthread hparticipant
    · rw [if_pos hparticipant]
      exact marks_of_eq rfl

lemma marks_threadJoin : Marks may s (threadJoin user threadId s).2 := by
  refine marks_asParticipant fun thread _ _ => ?_
  cases getRecipient thread user.userId with
  | none => exact marks_of_eq rfl
  | some _ => exact marks_delivered (fun _ hp => (of_decide_eq_true hp).2) threadId 200

lemma marks_messageDelivered (messageIds : List Id) :
    Marks may s (messageDelivered user threadId messageIds s).2 :=
  marks_asParticipant fun _ _ _ =>
    marks_delivered (fun _ hp => (of_decide_eq_true hp).2.1) threadId 200

lemma marks_messageDelete (messageId : Id) :
    Marks may s (messageDelete user messageId threadId s).2 := by
  refine marks_asParticipant fun _ _ _ => ?_
  rw [softDeleteMessage]
  cases s.message.get? messageId with
  | none => exact marks_of_eq rfl
  | some message =>
    dsimp only
    by_cases hsender : message.senderId ≠ user.userId
    · rw [if_pos hsender]
      exact marks_of_eq rfl
    · rw [if_neg hsender]
      constructor
      · intro i m hm
        show ∃ status deleted, (s.message.modify messageId _).get? i = _ ∧ _
        rw [Table.get?_modify, hm]
        split_ifs
        · exact ⟨m.status, true, rfl, le_rfl, fun hne h => absurd h hne⟩
        · exact ⟨m.status, m.deleted, rfl, le_rfl, fun hne h => absurd h hne⟩
      · intro i hi
        show (s.message.modify messageId _).get? i = _
        rw [Table.get?_modify, hi]
        split_ifs <;> rfl

/-- A `message:read` event reads what it names, and what others have sent in the thread. -/
lemma marks_messageRead (hmay : Steady may) {messageIds : List Id}
    (hothers : ∀ thread, s.thread.get? threadId = some thread →
      isParticipant thread user = true →
      ∀ m, m.threadId = threadId → m.senderId ≠ user.userId → may m)
    (hnamed : ∀ thread, s.thread.get? threadId = some thread → isParticipant thread user = true →
      ∀ i ∈ messageIds, ∀ m, s.message.get? i = some m → m.deleted = false → m.status ≠ .read →
      may m) : Marks may s (messageRead user threadId messageIds s).2 := by
  refine marks_asParticipant fun thread hthread hparticipant => ?_
  refine Marks.trans hmay ?_ (marks_markAsRead (hothers thread hthread hparticipant))
  split_ifs
  · exact marks_of_eq rfl
  · refine marks_updateMessageStatus fun i hi m hm hdeleted => ⟨?_, fun hne _ => ?_⟩
    · cases m.status <;> decide
    · exact hnamed thread hthread hparticipant i hi m hm hdeleted hne

end Handlers

/-! ### A message that is sent -/

/-- A `message:send` event gets past all checks. -/
structure Accepted (s : Service) (user : AuthUser) (data : SendData) (thread : Thread)
    (recipient : Participant) : Prop where
  found : s.thread.get? data.threadId = some thread
  addressed : getRecipient thread user.userId = some recipient
  reply : replyIsValid data s = true
  routed : decideRouting user.role.text recipient.role data.type ≠ .blocked

/-- The message is stored beside the old ones, SENT or DELIVERED. -/
def Stores (m : Message) (s s' : Service) : Prop :=
  ∃ status, status ≠ .read ∧ ∀ i, s'.message.get? i =
    if i = s.message.next then some { m with status } else s.message.get? i

section Send

variable {s : Service} {user : AuthUser} {data : SendData} {thread : Thread}
  {recipient : Participant} {now : Time}

variable (now) in
lemma messageSend_of_accepted (h : Accepted s user data thread recipient) :
    Stores (newMessage user recipient data now) s (messageSend user data now s).2 := by
  have hsend : (messageSend user data now s).2 =
      if isOnline recipient.id s then
        updateMessageStatus [s.message.next] .delivered
          (addMessage (newMessage user recipient data now) s)
      else addMessage (newMessage user recipient data now) s := by
    rw [messageSend, h.found]
    dsimp only
    rw [h.addressed]
    dsimp only
    rw [if_neg (not_not.mpr h.reply), if_neg h.routed]
  rw [hsend]
  split
  · refine ⟨.delivered, by decide, fun i => ?_⟩
    show ((s.message.insert _).modifyWhere _ _).get? i = _
    rw [Table.get?_modifyWhere, Table.get?_insert]
    by_cases hi : i = s.message.next
    · simp [hi, newMessage]
    · simp only [List.mem_singleton, hi, false_and, decide_false, Bool.false_eq_true, if_false,
        Option.map_id']
  · exact ⟨.sent, by decide, fun i => Table.get?_insert _ _ i⟩

lemma messageSend_of_not_accepted
    (h : ∀ thread recipient, ¬ Accepted s user data thread recipient) :
    (messageSend user data now s).2 = s := by
  rw [messageSend]
  cases hthread : s.thread.get? data.threadId with
  | none => rfl
  | some thread =>
    dsimp only
    cases hrecipient : getRecipient thread user.userId with
    | none => rfl
    | some recipient =>
      dsimp only
      by_cases hreply : replyIsValid data s = true
      · have hblocked : decideRouting user.role.text recipient.role data.type = .blocked := by
          by_contra hrouted
          exact h thread recipient ⟨hthread, hrecipient, hreply, hrouted⟩
        rw [if_neg (not_not.mpr hreply), if_pos hblocked]
      · rw [if_pos hreply]

end Send

/-! ## Receipts -/

/-- The user whose handler the event runs. -/
def actor (s : Service) : Event → Option AuthUser
  | .connect _ => none
  | .auth _ _ => none
  | .threadJoin socketId _ => (s.socket.get? socketId).map Connection.user
  | .messageSend socketId _ _ => (s.socket.get? socketId).map Connection.user
  | .messageDelete socketId _ _ => (s.socket.get? socketId).map Connection.user
  | .messageRead socketId _ _ => (s.socket.get? socketId).map Connection.user
  | .messageDelivered socketId _ _ => (s.socket.get? socketId).map Connection.user
  | .disconnect _ => none

/-- The user takes part in the thread of the message, and has not sent it. -/
def MayRead (s : Service) (user : AuthUser) (m : Message) : Prop :=
  m.senderId ≠ user.userId ∧
    ∃ thread, s.thread.get? m.threadId = some thread ∧ isParticipant thread user = true

/-- **Receipts are genuine**: no status goes back, a message becomes READ only through an event of
one who may read it, and what is stored is not READ yet. -/
structure Genuine (s : Service) (e : Event) : Prop where
  forward : ∀ i m, s.message.get? i = some m →
    ∃ m', (step s e).message.get? i = some m' ∧ m.status.rank ≤ m'.status.rank
  read : ∀ i m m', s.message.get? i = some m → (step s e).message.get? i = some m' →
    m.status ≠ .read → m'.status = .read → ∃ user, actor s e = some user ∧ MayRead s user m
  stored : ∀ i m', (step s e).message.get? i = some m' → s.message.get? i = none →
    m'.status ≠ .read

/-- What a `message:read` event names, and what is neither deleted nor READ, the user may read. -/
def NamesReadable (s : Service) : Event → Prop
  | .messageRead socketId threadId messageIds =>
      ∀ c ∈ s.socket.get? socketId, ∀ thread ∈ s.thread.get? threadId,
        isParticipant thread c.user = true → ∀ i ∈ messageIds, ∀ m ∈ s.message.get? i,
        m.deleted = false → m.status ≠ .read → MayRead s c.user m
  | _ => True

section Genuine

variable {s : Service} {e : Event} {user : AuthUser}

lemma steady_mayRead : Steady (MayRead s user) := fun _ _ _ h => h

/-- An event whose user may read whatever it marks as READ. -/
lemma Marks.genuine (hactor : actor s e = some user) (h : Marks (MayRead s user) s (step s e)) :
    Genuine s e := by
  refine ⟨fun i m hm => ?_, fun i m m' hm hm' hne hread => ?_, fun i m' hm' hnone => ?_⟩
  · obtain ⟨status, deleted, hm', hle, -⟩ := h.kept i m hm
    exact ⟨_, hm', hle⟩
  · obtain ⟨status, deleted, hget, -, hmay⟩ := h.kept i m hm
    obtain rfl := Option.some.inj (hget.symm.trans hm')
    exact ⟨user, hactor, hmay hne hread⟩
  · rw [h.none i hnone] at hm'
    cases hm'

/-- An event that leaves the messages alone. -/
lemma genuine_of_eq (h : (step s e).message = s.message) : Genuine s e := by
  refine ⟨fun i m hm => ⟨m, h ▸ hm, le_rfl⟩, fun i m m' hm hm' hne hread => ?_,
    fun i m' hm' hnone => ?_⟩
  · rw [h, hm] at hm'
    obtain rfl := Option.some.inj hm'
    exact absurd hread hne
  · rw [h, hnone] at hm'
    cases hm'

/-- An event that stores a message. -/
lemma Stores.genuine {m : Message} (h : Stores m s (step s e)) : Genuine s e := by
  obtain ⟨status, hstatus, hget⟩ := h
  have hold : ∀ i n, s.message.get? i = some n → (step s e).message.get? i = some n := by
    intro i n hn
    rw [hget, if_neg (Nat.ne_of_lt (s.message.lt_next_of_get? hn)), hn]
  refine ⟨fun i n hn => ⟨n, hold i n hn, le_rfl⟩, fun i n n' hn hn' hne hread => ?_,
    fun i n' hn' hnone => ?_⟩
  · obtain rfl := Option.some.inj ((hold i n hn).symm.trans hn')
    exact absurd hread hne
  · rw [hget, hnone] at hn'
    split_ifs at hn'
    obtain rfl := Option.some.inj hn'
    exact hstatus

/-- An event of a socket: nothing happens if the socket is not connected. -/
lemma genuine_of_handle {socketId : Id} {f : AuthUser → Service → Response × Service}
    (hstep : step s e = s.handle socketId f)
    (hactor : actor s e = (s.socket.get? socketId).map Connection.user)
    (h : ∀ c ∈ s.socket.get? socketId, Marks (MayRead s c.user) s (f c.user s).2 ∨
      ∃ m, Stores m s (f c.user s).2) : Genuine s e := by
  rw [Service.handle] at hstep
  cases hsocket : s.socket.get? socketId with
  | none =>
    rw [hsocket] at hstep
    exact genuine_of_eq (congrArg Service.message hstep)
  | some c =>
    rw [hsocket] at hstep hactor
    dsimp only at hstep
    rw [Option.map_some] at hactor
    rcases h c hsocket with hmarks | ⟨m, hstores⟩
    · rw [← hstep] at hmarks
      exact hmarks.genuine hactor
    · rw [← hstep] at hstores
      exact hstores.genuine

/-- What `message:read` names is READ afterwards. -/
lemma read_of_named {threadId : Id} {thread : Thread} {messageIds : List Id} {i : Id} {m : Message}
    (hthread : s.thread.get? threadId = some thread)
    (hparticipant : isParticipant thread user = true) (hi : i ∈ messageIds)
    (hm : s.message.get? i = some m) (hdeleted : m.deleted = false) :
    ∃ m', (messageRead user threadId messageIds s).2.message.get? i = some m' ∧
      m'.status = .read := by
  have hread : (messageRead user threadId messageIds s).2 =
      markAsRead threadId user.userId (updateMessageStatus messageIds .read s) := by
    rw [messageRead, asParticipant, hthread]
    dsimp only
    rw [if_neg (not_not.mpr hparticipant), if_neg (List.ne_nil_of_mem hi)]
  have hnamed : (updateMessageStatus messageIds .read s).message.get? i =
      some { m with status := .read } := by
    show (s.message.modifyWhere _ _).get? i = _
    rw [Table.get?_modifyWhere, hm, Option.map_some, if_pos (decide_eq_true ⟨hi, hdeleted⟩)]
  -- What is READ stays READ.
  have hmarks : Marks (fun _ => True) (updateMessageStatus messageIds .read s)
      (markAsRead threadId user.userId (updateMessageStatus messageIds .read s)) :=
    marks_markAsRead fun _ _ _ => trivial
  obtain ⟨status, deleted, hget, hle, -⟩ := hmarks.kept i _ hnamed
  rw [hread]
  refine ⟨_, hget, ?_⟩
  cases status with
  | sent => exact absurd (show 2 ≤ 0 from hle) (by decide)
  | delivered => exact absurd (show 2 ≤ 1 from hle) (by decide)
  | read => rfl

/-- **Each event but one** keeps the receipts genuine, and `message:read` does exactly if it names
only what its user may read. -/
lemma genuine_step_iff : Genuine s e ↔ NamesReadable s e := by
  cases e with
  | connect user => exact iff_of_true (genuine_of_eq rfl) trivial
  | auth socketId verifiedUser =>
    refine iff_of_true (genuine_of_eq ?_) trivial
    cases verifiedUser <;> rfl
  | disconnect socketId => exact iff_of_true (genuine_of_eq rfl) trivial
  | threadJoin socketId threadId =>
    refine iff_of_true ?_ trivial
    exact genuine_of_handle (f := fun user => threadJoin user threadId) rfl rfl
      fun _ _ => Or.inl marks_threadJoin
  | messageSend socketId data now =>
    refine iff_of_true ?_ trivial
    refine genuine_of_handle (f := fun user => messageSend user data now) rfl rfl fun c _ => ?_
    by_cases haccepted : ∃ thread recipient, Accepted s c.user data thread recipient
    · obtain ⟨thread, recipient, haccepted⟩ := haccepted
      exact Or.inr ⟨_, messageSend_of_accepted now haccepted⟩
    · refine Or.inl (marks_of_eq (congrArg Service.message (messageSend_of_not_accepted ?_)))
      exact fun thread recipient hnot => haccepted ⟨thread, recipient, hnot⟩
  | messageDelete socketId messageId threadId =>
    refine iff_of_true ?_ trivial
    exact genuine_of_handle (f := fun user => messageDelete user messageId threadId) rfl rfl
      fun _ _ => Or.inl (marks_messageDelete messageId)
  | messageDelivered socketId threadId messageIds =>
    refine iff_of_true ?_ trivial
    exact genuine_of_handle (f := fun user => messageDelivered user threadId messageIds) rfl rfl
      fun _ _ => Or.inl (marks_messageDelivered messageIds)
  | messageRead socketId threadId messageIds =>
    constructor
    · intro hgenuine c hc thread hthread hparticipant i hi m hm hdeleted hne
      obtain ⟨m', hm', hread⟩ := read_of_named hthread hparticipant hi hm hdeleted
      have hstep : step s (.messageRead socketId threadId messageIds) =
          (messageRead c.user threadId messageIds s).2 := by
        rw [step, Service.handle, Option.mem_def.mp hc]
      obtain ⟨user, hactor, hmay⟩ := hgenuine.read i m m' hm (hstep ▸ hm') hne hread
      rw [actor, Option.mem_def.mp hc, Option.map_some, Option.some.injEq] at hactor
      exact hactor ▸ hmay
    · intro hnames
      refine genuine_of_handle (f := fun user => messageRead user threadId messageIds) rfl rfl
        fun c hc => Or.inl ?_
      refine marks_messageRead steady_mayRead (fun thread hthread hparticipant m hm hne => ?_)
        fun thread hthread hparticipant => hnames c hc thread hthread hparticipant
      exact ⟨hne, thread, hm ▸ hthread, hparticipant⟩

/-- **Receipts are genuine** throughout a run exactly if no `message:read` event of it names what its
user may not read. -/
theorem genuine_iff (s : Service) (es : List Event) :
    AllSteps step Genuine s es ↔ AllSteps step NamesReadable s es :=
  allSteps_congr_of_invariant (I := fun _ => True) (s := s) (fun _ _ _ => trivial)
    (fun _ _ _ => genuine_step_iff) trivial es

end Genuine

/-- A thread of an agent and an administrator. -/
def oneThread : Service where
  thread := Table.empty.insert ⟨⟨"a", "AGENT", "Ada"⟩, ⟨"b", "ADMIN", "Ben"⟩, 0, 0⟩

/-- An agent sends a message, and marks it as READ. -/
theorem not_genuine :
    ¬ AllSteps step Genuine oneThread
      [.connect ⟨"a", .agent, "Ada"⟩, .messageSend 0 { threadId := 0, type := "TEXT" } 1,
        .messageRead 0 0 [0]] := by
  rintro ⟨-, -, h, -⟩
  obtain ⟨user, hactor, hsender, -⟩ := h.read 0 _ _ rfl rfl (by decide) rfl
  obtain rfl := Option.some.inj hactor
  exact hsender rfl

end Chat

end Asoju.FieldForce
