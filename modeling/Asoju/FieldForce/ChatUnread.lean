/-
The counters of unread messages.

A thread counts, for each of its two participants, the messages that wait for him.  What stores a
message counts it, and reading a thread resets the counter of the reader; but a message that is
deleted before it is read stays counted, and so does one that `message:read` names and that is of
another thread, or that the reader has sent himself.  `exact_iff` says that the counters are exact
as long as nothing of this happens.
-/
import Asoju.FieldForce.ChatReceipts
import Asoju.Lib.TableSum

namespace Asoju.FieldForce

open Lib

namespace Chat

/-! ## The operations -/

inductive StoreOp
  | addMessage (m : Message)
  | markAsRead (threadId : Id) (userId : String)
  | softDeleteMessage (messageId : Id) (userId : String)
  | threadJoin (user : AuthUser) (threadId : Id)
  | messageRead (user : AuthUser) (threadId : Id) (messageIds : List Id)
deriving DecidableEq, Repr

/-- What an operation leaves behind; one that throws changes nothing.  A message is stored as one
that is not deleted. -/
def store (s : Service) : StoreOp → Service
  | .addMessage m =>
      if (s.thread.get? m.threadId).isSome then addMessage { m with deleted := false } s else s
  | .markAsRead threadId userId => markAsRead threadId userId s
  | .softDeleteMessage messageId userId =>
      match softDeleteMessage messageId userId s with
      | .ok s' => s'
      | .error _ => s
  | .threadJoin user threadId => (threadJoin user threadId s).2
  | .messageRead user threadId messageIds => (messageRead user threadId messageIds s).2

/-! ## The property -/

/-- The message is one of the thread, of this sender, neither deleted nor READ. -/
def isUnread (threadId : Id) (senderId : String) (m : Message) : Bool :=
  m.threadId = threadId ∧ m.senderId = senderId ∧ m.status ≠ .read ∧ m.deleted = false

/-- The number of unread messages of a sender in a thread. -/
def unread (threadId : Id) (senderId : String) (s : Service) : ℕ :=
  s.message.values.countP (isUnread threadId senderId)

def Thread.Distinct (t : Thread) : Prop := t.participantA.id ≠ t.participantB.id

instance distinctDecidable (t : Thread) : Decidable t.Distinct :=
  inferInstanceAs (Decidable (_ ≠ _))

/-- **The counters are exact**: that of each participant is the number of unread messages of the
other one. -/
structure Exact (s : Service) : Prop where
  a : ∀ k t, s.thread.get? k = some t → t.Distinct →
    t.unreadCountA = unread k t.participantB.id s
  b : ∀ k t, s.thread.get? k = some t → t.Distinct →
    t.unreadCountB = unread k t.participantA.id s

/-! ## The condition -/

/-- The message is one that a counter counts. -/
def Counted (s : Service) (m : Message) : Prop :=
  m.status ≠ .read ∧ m.deleted = false ∧ ∃ t, s.thread.get? m.threadId = some t ∧ t.Distinct ∧
    (m.senderId = t.participantA.id ∨ m.senderId = t.participantB.id)

/-- A message is stored by one of the participants, and not as READ; no message is deleted that is
counted; and whoever reads a thread names no counted message but those that wait for him. -/
def Careful (s : Service) : StoreOp → Prop
  | .addMessage m => ∀ t ∈ s.thread.get? m.threadId, t.Distinct →
      (m.senderId = t.participantA.id ∨ m.senderId = t.participantB.id) ∧ m.status ≠ .read
  | .softDeleteMessage messageId userId =>
      ∀ m ∈ s.message.get? messageId, m.senderId = userId → ¬ Counted s m
  | .messageRead user threadId messageIds =>
      ∀ thread ∈ s.thread.get? threadId, isParticipant thread user = true →
        ∀ i ∈ messageIds, ∀ m ∈ s.message.get? i, Counted s m →
        m.threadId = threadId ∧ m.senderId ≠ user.userId
  | _ => True

/-! ## The two sides of a thread -/

inductive Side
  | a | b
deriving DecidableEq, Repr

namespace Thread

/-- The counter of a side. -/
def count (t : Thread) : Side → ℕ
  | .a => t.unreadCountA
  | .b => t.unreadCountB

/-- Who reads what the counter counts. -/
def reader (t : Thread) : Side → String
  | .a => t.participantA.id
  | .b => t.participantB.id

/-- Who sends it. -/
def author (t : Thread) : Side → String
  | .a => t.participantB.id
  | .b => t.participantA.id

variable {t : Thread}

/-- Of the two participants, each is the author of what the other one reads. -/
lemma Distinct.reader_eq_iff (h : t.Distinct) {userId : String}
    (huser : t.participantA.id = userId ∨ t.participantB.id = userId) (side : Side) :
    t.reader side = userId ↔ t.author side ≠ userId := by
  have hne : t.participantA.id ≠ t.participantB.id := h
  cases side with
  | a => rcases huser with rfl | rfl <;> simp [reader, author, hne, hne.symm]
  | b => rcases huser with rfl | rfl <;> simp [reader, author, hne, hne.symm]

end Thread

lemma exact_iff_sides {s : Service} : Exact s ↔ ∀ k t side, s.thread.get? k = some t →
    t.Distinct → t.count side = unread k (t.author side) s := by
  constructor
  · intro h k t side ht hdistinct
    cases side with
    | a => exact h.a k t ht hdistinct
    | b => exact h.b k t ht hdistinct
  · intro h
    exact ⟨fun k t => h k t .a, fun k t => h k t .b⟩

lemma counted_iff_sides {s : Service} {m : Message} : Counted s m ↔
    ∃ k t side, s.thread.get? k = some t ∧ t.Distinct ∧ isUnread k (t.author side) m = true := by
  constructor
  · rintro ⟨hread, hdeleted, t, ht, hdistinct, hsender | hsender⟩
    · exact ⟨m.threadId, t, .b, ht, hdistinct, decide_eq_true ⟨rfl, hsender, hread, hdeleted⟩⟩
    · exact ⟨m.threadId, t, .a, ht, hdistinct, decide_eq_true ⟨rfl, hsender, hread, hdeleted⟩⟩
  · rintro ⟨k, t, side, ht, hdistinct, hunread⟩
    obtain ⟨rfl, hsender, hread, hdeleted⟩ := of_decide_eq_true hunread
    refine ⟨hread, hdeleted, t, ht, hdistinct, ?_⟩
    cases side with
    | a => exact Or.inr hsender
    | b => exact Or.inl hsender

/-! ## What changes the messages -/

section Unread

variable {s : Service} {k : Id} {senderId : String}

/-- Messages that become READ are not unread any more; the number stays if none was. -/
lemma unread_read_eq_iff {q : Id → Message → Bool} :
    unread k senderId (s.updateMessages q fun m => { m with status := .read }) =
        unread k senderId s ↔
      ∀ i m, s.message.get? i = some m → q i m = true → isUnread k senderId m = false := by
  have hread : ∀ m : Message, isUnread k senderId { m with status := .read } = false := fun m =>
    decide_eq_false fun h => h.2.2.1 rfl
  rw [unread, unread, Service.updateMessages, Table.modifyWhere,
    Table.countP_values_mapRows_eq_iff fun i m _ h => ?_]
  · refine forall₃_congr fun i m _ => ?_
    by_cases hq : q i m = true
    · simp only [hq, if_true, hread, Bool.false_eq_true, true_imp_iff, imp_false,
        Bool.not_eq_true]
    · simp only [hq, Bool.false_eq_true, if_false, imp_self, false_imp_iff]
  · by_cases hq : q i m = true
    · rw [if_pos hq, hread] at h
      cases h
    · rwa [if_neg hq] at h

/-- Messages that are delivered stay unread. -/
lemma unread_delivered {messageIds : List Id}
    (h : ∀ i ∈ messageIds, ∀ m, s.message.get? i = some m → m.status = .sent) :
    unread k senderId (updateMessageStatus messageIds .delivered s) = unread k senderId s := by
  have hsame : ∀ i m, s.message.get? i = some m →
      isUnread k senderId (if decide (i ∈ messageIds ∧ m.deleted = false) = true then
        { m with status := .delivered } else m) = isUnread k senderId m := by
    intro i m hm
    split
    · rename_i hq
      have hsent := h i (of_decide_eq_true hq).1 m hm
      simp [isUnread, hsent]
    · rfl
  refine (Table.countP_values_mapRows_eq_iff fun i m hm h => ?_).mpr fun i m hm h => ?_
  · exact (hsame i m hm).symm.trans h
  · exact (hsame i m hm).trans h

/-- What is read of a thread by one of its participants. -/
lemma unread_readOthers {threadId : Id} {userId : String} :
    unread k senderId (readOthers threadId userId s) =
      if k = threadId ∧ senderId ≠ userId then 0 else unread k senderId s := by
  by_cases hread : k = threadId ∧ senderId ≠ userId
  · obtain ⟨rfl, hne⟩ := hread
    rw [if_pos ⟨rfl, hne⟩, unread, List.countP_eq_zero]
    intro m hm
    obtain ⟨i, hi⟩ := (Table.mem_values_iff _).mp hm
    have hget := s.message.get?_modifyWhere (fun _ m => decide (m.threadId = k ∧
      m.senderId ≠ userId ∧ m.status ≠ .read ∧ m.deleted = false))
      (fun m => { m with status := .read }) i
    obtain ⟨m₀, -, rfl⟩ := Option.map_eq_some_iff.mp (hget.symm.trans hi)
    intro hunread
    split at hunread
    · exact (of_decide_eq_true hunread).2.2.1 rfl
    · rename_i hq
      obtain ⟨hthread, hsender, hstatus⟩ := of_decide_eq_true hunread
      exact hq (decide_eq_true ⟨hthread, hsender ▸ hne, hstatus⟩)
  · rw [if_neg hread]
    refine unread_read_eq_iff.mpr fun i m _ hq => decide_eq_false fun hunread => hread ?_
    obtain ⟨hthread, hsender, -⟩ := of_decide_eq_true hq
    exact ⟨hunread.1.symm.trans hthread, hunread.2.1 ▸ hsender⟩

end Unread

/-! ## The operations, one by one -/

section Ops

variable {s s' : Service}

/-- An operation that leaves the threads alone and changes no number. -/
lemma Exact.of_unread (h : Exact s) (hthread : s'.thread = s.thread)
    (hunread : ∀ k t side, s.thread.get? k = some t → t.Distinct →
      unread k (t.author side) s' = unread k (t.author side) s) : Exact s' := by
  rw [exact_iff_sides] at h ⊢
  intro k t side ht hdistinct
  rw [hthread] at ht
  rw [hunread k t side ht hdistinct]
  exact h k t side ht hdistinct

/-- The thread as its reader leaves it. -/
def readThread (userId : String) (t : Thread) : Thread :=
  if t.participantA.id = userId then { t with unreadCountA := 0 }
  else if t.participantB.id = userId then { t with unreadCountB := 0 }
  else t

lemma readThread_same (userId : String) (t : Thread) :
    (readThread userId t).participantA = t.participantA ∧
      (readThread userId t).participantB = t.participantB := by
  rw [readThread]
  split_ifs <;> exact ⟨rfl, rfl⟩

lemma author_readThread (userId : String) (t : Thread) (side : Side) :
    (readThread userId t).author side = t.author side := by
  obtain ⟨ha, hb⟩ := readThread_same userId t
  cases side with
  | a => rw [Thread.author, hb, Thread.author]
  | b => rw [Thread.author, ha, Thread.author]

lemma count_readThread {userId : String} {t : Thread} (hdistinct : t.Distinct) (side : Side) :
    (readThread userId t).count side = if t.reader side = userId then 0 else t.count side := by
  rw [readThread]
  by_cases ha : t.participantA.id = userId
  · have hb : t.participantB.id ≠ userId := fun hb => hdistinct (ha.trans hb.symm)
    rw [if_pos ha]
    cases side <;> simp [Thread.count, Thread.reader, ha, hb]
  · rw [if_neg ha]
    by_cases hb : t.participantB.id = userId
    · rw [if_pos hb]
      cases side <;> simp [Thread.count, Thread.reader, ha, hb]
    · rw [if_neg hb]
      cases side <;> simp [Thread.reader, ha, hb]

/-- What `markAsRead` does for one of the participants. -/
lemma markAsRead_eq {threadId : Id} {userId : String} {t : Thread}
    (ht : s.thread.get? threadId = some t)
    (huser : t.participantA.id = userId ∨ t.participantB.id = userId) :
    markAsRead threadId userId s = readOthers threadId userId
      { s with thread := s.thread.modify threadId (readThread userId) } := by
  have hmodify : ∀ f : Thread → Thread, readThread userId t = f t →
      s.thread.modify threadId f = s.thread.modify threadId (readThread userId) :=
    fun f hf => Table.modify_congr ht hf.symm
  rw [markAsRead, ht]
  dsimp only
  by_cases ha : t.participantA.id = userId
  · rw [if_pos ha, hmodify _ (by rw [readThread, if_pos ha])]
  · have hb : t.participantB.id = userId := huser.resolve_left ha
    rw [if_neg ha, if_pos hb, hmodify _ (by rw [readThread, if_neg ha, if_pos hb])]

/-- **Reading a thread** settles what has happened to its messages for the reader, and nothing
else. -/
lemma exact_markAsRead_iff {threadId : Id} {userId : String} {t : Thread} (h : Exact s)
    (hthread : s'.thread = s.thread) (ht : s.thread.get? threadId = some t)
    (huser : t.participantA.id = userId ∨ t.participantB.id = userId) :
    Exact (markAsRead threadId userId s') ↔ ∀ k u side, s.thread.get? k = some u → u.Distinct →
      ¬ (k = threadId ∧ u.reader side = userId) →
      unread k (u.author side) s' = unread k (u.author side) s := by
  rw [exact_iff_sides] at h
  rw [markAsRead_eq (hthread ▸ ht) huser, exact_iff_sides]
  have hget : ∀ k, (readOthers threadId userId { s' with
      thread := s'.thread.modify threadId (readThread userId) }).thread.get? k =
      if k = threadId then (s.thread.get? k).map (readThread userId) else s.thread.get? k := by
    intro k
    rw [← hthread]
    exact s'.thread.get?_modify threadId (readThread userId) k
  have hunread : ∀ k senderId, unread k senderId (readOthers threadId userId { s' with
      thread := s'.thread.modify threadId (readThread userId) }) =
      if k = threadId ∧ senderId ≠ userId then 0 else unread k senderId s' :=
    fun k senderId => unread_readOthers
  constructor
  · intro hexact k u side hu hdistinct hother
    by_cases hk : k = threadId
    · subst hk
      obtain rfl := Option.some.inj (ht.symm.trans hu)
      have hread : (readThread userId t).Distinct := by
        obtain ⟨ha, hb⟩ := readThread_same userId t
        rw [Thread.Distinct, ha, hb]
        exact hdistinct
      have hcount := hexact k _ side (by rw [hget, if_pos rfl, ht, Option.map_some]) hread
      have hreader : t.reader side ≠ userId := fun hreader => hother ⟨rfl, hreader⟩
      have hauthor : ¬ (k = k ∧ t.author side ≠ userId) := fun hauthor =>
        hreader ((hdistinct.reader_eq_iff huser side).mpr hauthor.2)
      rw [count_readThread hdistinct, if_neg hreader, author_readThread, hunread, if_neg hauthor,
        h k t side ht hdistinct] at hcount
      exact hcount.symm
    · have hcount := hexact k u side (by rw [hget, if_neg hk, hu]) hdistinct
      rw [hunread, if_neg fun hboth => hk hboth.1, h k u side hu hdistinct] at hcount
      exact hcount.symm
  · intro hsame k u' side hu' hdistinct
    rw [hget] at hu'
    rw [hunread]
    split_ifs at hu' with hk
    · obtain ⟨u, hu, rfl⟩ := Option.map_eq_some_iff.mp hu'
      subst hk
      obtain rfl := Option.some.inj (ht.symm.trans hu)
      have hold : t.Distinct := by
        obtain ⟨ha, hb⟩ := readThread_same userId t
        rwa [Thread.Distinct, ha, hb] at hdistinct
      rw [count_readThread hold, author_readThread]
      by_cases hreader : t.reader side = userId
      · rw [if_pos hreader, if_pos ⟨rfl, (hold.reader_eq_iff huser side).mp hreader⟩]
      · have hauthor : ¬ (k = k ∧ t.author side ≠ userId) := fun hauthor =>
          hreader ((hold.reader_eq_iff huser side).mpr hauthor.2)
        rw [if_neg hreader, if_neg hauthor, h k t side ht hold]
        exact (hsame k t side ht hold fun hboth => hreader hboth.2).symm
    · rw [if_neg fun hboth => hk hboth.1, h k u' side hu' hdistinct]
      exact (hsame k u' side hu' hdistinct fun hboth => hk hboth.1).symm

lemma exact_markAsRead {threadId : Id} {userId : String} (h : Exact s) :
    Exact (markAsRead threadId userId s) := by
  cases ht : s.thread.get? threadId with
  | none => simpa only [markAsRead, ht] using h
  | some t =>
    by_cases huser : t.participantA.id = userId ∨ t.participantB.id = userId
    · exact (exact_markAsRead_iff h rfl ht huser).mpr fun _ _ _ _ _ _ => rfl
    · obtain ⟨ha, hb⟩ := not_or.mp huser
      simpa only [markAsRead, ht, ha, hb, if_false] using h

/-- The thread with a new message of a sender. -/
def countMessage (senderId : String) (t : Thread) : Thread :=
  if t.participantA.id = senderId then { t with unreadCountB := t.unreadCountB + 1 }
  else { t with unreadCountA := t.unreadCountA + 1 }

lemma countMessage_same (senderId : String) (t : Thread) :
    (countMessage senderId t).participantA = t.participantA ∧
      (countMessage senderId t).participantB = t.participantB := by
  rw [countMessage]
  split_ifs <;> exact ⟨rfl, rfl⟩

lemma author_countMessage (senderId : String) (t : Thread) (side : Side) :
    (countMessage senderId t).author side = t.author side := by
  obtain ⟨ha, hb⟩ := countMessage_same senderId t
  cases side with
  | a => rw [Thread.author, hb, Thread.author]
  | b => rw [Thread.author, ha, Thread.author]

lemma count_countMessage (senderId : String) (t : Thread) (side : Side) :
    (countMessage senderId t).count side =
      t.count side + if side = .b ↔ t.participantA.id = senderId then 1 else 0 := by
  rw [countMessage]
  by_cases ha : t.participantA.id = senderId
  · rw [if_pos ha]
    cases side <;> simp [Thread.count, ha]
  · rw [if_neg ha]
    cases side <;> simp [Thread.count, ha]

/-- The side whose counter goes up is the one that waits for the message. -/
lemma counts_iff {m : Message} {t : Thread} (hdistinct : t.Distinct)
    (hdeleted : m.deleted = false) : (∀ side, ((side = .b ↔ t.participantA.id = m.senderId) ↔
      isUnread m.threadId (t.author side) m = true)) ↔
      (m.senderId = t.participantA.id ∨ m.senderId = t.participantB.id) ∧ m.status ≠ .read := by
  have hunread : ∀ side, isUnread m.threadId (t.author side) m = true ↔
      m.senderId = t.author side ∧ m.status ≠ .read := fun side => by
    simp [isUnread, hdeleted]
  have hne : t.participantA.id ≠ t.participantB.id := hdistinct
  simp only [hunread]
  constructor
  · intro h
    by_cases ha : t.participantA.id = m.senderId
    · exact ⟨Or.inl ha.symm, ((h .b).mp ⟨fun _ => ha, fun _ => rfl⟩).2⟩
    · have hboth := (h .a).mp ⟨fun hside => absurd hside (by decide), fun hid => absurd hid ha⟩
      exact ⟨Or.inr hboth.1, hboth.2⟩
  · rintro ⟨ha | hb, hread⟩ side
    · cases side with
      | a => simp [Thread.author, ha, hne]
      | b => simp [Thread.author, ha, hread]
    · cases side with
      | a => simp [Thread.author, hb, hread, hne]
      | b => simp [Thread.author, hb, hne, hne.symm]

/-- **A message that is stored** is counted exactly if a participant has sent it and it is not READ
already. -/
lemma exact_addMessage_iff {m : Message} {t : Thread} (h : Exact s) (hdeleted : m.deleted = false)
    (ht : s.thread.get? m.threadId = some t) :
    Exact (addMessage m s) ↔ (t.Distinct →
      (m.senderId = t.participantA.id ∨ m.senderId = t.participantB.id) ∧ m.status ≠ .read) := by
  have hunread : ∀ k senderId, unread k senderId (addMessage m s) =
      unread k senderId s + if isUnread k senderId m = true then 1 else 0 :=
    fun k senderId => s.message.countP_values_insert m _
  have hget : ∀ k, (addMessage m s).thread.get? k = if k = m.threadId then
      (s.thread.get? k).map (countMessage m.senderId) else s.thread.get? k :=
    s.thread.get?_modify m.threadId (countMessage m.senderId)
  rw [exact_iff_sides] at h ⊢
  constructor
  · intro hexact hdistinct
    refine (counts_iff hdistinct hdeleted).mp fun side => ?_
    have hnew : (countMessage m.senderId t).Distinct := by
      obtain ⟨ha, hb⟩ := countMessage_same m.senderId t
      rw [Thread.Distinct, ha, hb]
      exact hdistinct
    have hcount := hexact m.threadId _ side (by rw [hget, if_pos rfl, ht, Option.map_some]) hnew
    rw [count_countMessage, author_countMessage, hunread,
      h m.threadId t side ht hdistinct] at hcount
    split_ifs at hcount with hup hwaits hwaits
    · exact iff_of_true hup hwaits
    · omega
    · omega
    · exact iff_of_false hup hwaits
  · intro hcareful k u' side hu' hdistinct
    rw [hget] at hu'
    rw [hunread]
    split_ifs at hu' with hk
    · subst hk
      rw [ht, Option.map_some, Option.some.injEq] at hu'
      subst hu'
      have hold : t.Distinct := by
        obtain ⟨ha, hb⟩ := countMessage_same m.senderId t
        rwa [Thread.Distinct, ha, hb] at hdistinct
      have hup := (counts_iff hold hdeleted).mpr (hcareful hold) side
      rw [count_countMessage, author_countMessage, h m.threadId t side ht hold]
      by_cases hwaits : isUnread m.threadId (t.author side) m = true
      · rw [if_pos hwaits, if_pos (hup.mpr hwaits)]
      · rw [if_neg hwaits, if_neg (mt hup.mp hwaits)]
    · -- The message is of another thread.
      have hother : ¬ isUnread k (u'.author side) m = true := fun hwaits =>
        hk (of_decide_eq_true hwaits).1.symm
      rw [if_neg hother, add_zero]
      exact h k u' side hu' hdistinct

/-- **A message that is deleted** is missed exactly if it was counted. -/
lemma exact_delete_iff {messageId : Id} {m : Message} (h : Exact s)
    (hm : s.message.get? messageId = some m) :
    Exact { s with message := s.message.modify messageId fun m => { m with deleted := true } } ↔
      ¬ Counted s m := by
  have hgone : ∀ k senderId (m : Message), isUnread k senderId { m with deleted := true } = false :=
    fun k senderId m => decide_eq_false fun h => by cases h.2.2.2
  have hunread : ∀ k senderId, unread k senderId
      { s with message := s.message.modify messageId fun m => { m with deleted := true } } +
        (if isUnread k senderId m = true then 1 else 0) = unread k senderId s := by
    intro k senderId
    have hcount := Table.countP_values_modify hm (fun m => { m with deleted := true })
      (isUnread k senderId)
    rw [hgone, if_neg Bool.false_ne_true, add_zero] at hcount
    exact hcount
  rw [counted_iff_sides]
  constructor
  · rintro hexact ⟨k, t, side, ht, hdistinct, hwaits⟩
    have hafter := exact_iff_sides.mp hexact k t side ht hdistinct
    have hbefore := exact_iff_sides.mp h k t side ht hdistinct
    have hsum := hunread k (t.author side)
    rw [if_pos hwaits] at hsum
    omega
  · intro hnot
    refine h.of_unread rfl fun k t side ht hdistinct => ?_
    have hsum := hunread k (t.author side)
    rwa [if_neg fun hwaits => hnot ⟨k, t, side, ht, hdistinct, hwaits⟩, add_zero] at hsum

lemma exact_threadJoin {user : AuthUser} {threadId : Id} (h : Exact s) :
    Exact (threadJoin user threadId s).2 := by
  rw [threadJoin, asParticipant]
  cases s.thread.get? threadId with
  | none => exact h
  | some t =>
    dsimp only
    by_cases huser : isParticipant t user = true
    · rw [if_neg (not_not.mpr huser)]
      cases getRecipient t user.userId with
      | none => exact h
      | some recipient =>
        refine h.of_unread rfl fun k u side _ _ => unread_delivered fun i hi m hm => ?_
        exact (of_decide_eq_true (of_mem_getMessages hi hm)).2
    · rw [if_pos huser]
      exact h

lemma id_of_isParticipant {t : Thread} {user : AuthUser} (h : isParticipant t user = true) :
    t.participantA.id = user.userId ∨ t.participantB.id = user.userId := by
  rcases Bool.or_eq_true_iff.mp h with h | h
  · exact Or.inl (of_decide_eq_true h).1
  · exact Or.inr (of_decide_eq_true h).1

/-- **Naming messages** is harmless exactly if the counted ones among them wait for the reader. -/
lemma exact_messageRead_iff {user : AuthUser} {threadId : Id} {messageIds : List Id} {t : Thread}
    (h : Exact s) (ht : s.thread.get? threadId = some t) (huser : isParticipant t user = true) :
    Exact (messageRead user threadId messageIds s).2 ↔ ∀ i ∈ messageIds,
      ∀ m ∈ s.message.get? i, Counted s m → m.threadId = threadId ∧ m.senderId ≠ user.userId := by
  have hid := id_of_isParticipant huser
  have hread : (messageRead user threadId messageIds s).2 = markAsRead threadId user.userId
      (updateMessageStatus messageIds .read s) := by
    have hnone : updateMessageStatus [] .read s = s := by
      have hmessage : s.message.modifyWhere (fun i m => decide (i ∈ [] ∧ m.deleted = false))
          (fun m => { m with status := .read }) = s.message :=
        Table.ext_rows (by simp [Table.modifyWhere, Table.mapRows]) rfl
      rw [updateMessageStatus, Service.updateMessages, hmessage]
    rw [messageRead, asParticipant, ht]
    dsimp only
    rw [if_neg (not_not.mpr huser)]
    split_ifs with hnil
    · rw [hnil, hnone]
    · rfl
  have hthread : (updateMessageStatus messageIds .read s).thread = s.thread := rfl
  rw [hread, exact_markAsRead_iff h hthread ht hid]
  simp only [updateMessageStatus, unread_read_eq_iff, decide_eq_true_eq]
  constructor
  · intro hsame i hi m hm hcounted
    obtain ⟨k, u, side, hu, hdistinct, hwaits⟩ := counted_iff_sides.mp hcounted
    obtain ⟨rfl, hsender, -, hdeleted⟩ := of_decide_eq_true hwaits
    by_contra hnot
    have hother : ¬ (m.threadId = threadId ∧ u.reader side = user.userId) := by
      rintro ⟨hthread, hreader⟩
      obtain rfl : t = u := Option.some.inj (ht.symm.trans (hthread ▸ hu))
      exact hnot ⟨hthread, hsender ▸ (hdistinct.reader_eq_iff hid side).mp hreader⟩
    rw [hsame m.threadId u side hu hdistinct hother i m hm ⟨hi, hdeleted⟩] at hwaits
    cases hwaits
  · intro hnamed k u side hu hdistinct hother i m hm hi
    by_contra hwaits
    rw [Bool.not_eq_false] at hwaits
    have hcounted : Counted s m := counted_iff_sides.mpr ⟨k, u, side, hu, hdistinct, hwaits⟩
    obtain ⟨hthread, hsender⟩ := hnamed i hi.1 m hm hcounted
    obtain ⟨rfl, hauthor, -⟩ := of_decide_eq_true hwaits
    obtain rfl : t = u := Option.some.inj (ht.symm.trans (hthread ▸ hu))
    exact hother ⟨hthread, (hdistinct.reader_eq_iff hid side).mpr (hauthor ▸ hsender)⟩

end Ops

/-! ## Runs -/

/-- **One operation** keeps the counters exact exactly if it is careful. -/
lemma exact_step_iff {s : Service} {o : StoreOp} (h : Exact s) :
    Exact (store s o) ↔ Careful s o := by
  cases o with
  | addMessage m =>
    rw [store, Careful]
    cases ht : s.thread.get? m.threadId with
    | none => simpa using h
    | some t =>
      rw [Option.isSome_some, if_pos rfl]
      exact (exact_addMessage_iff (m := { m with deleted := false }) h rfl ht).trans (by simp)
  | markAsRead threadId userId => exact iff_of_true (exact_markAsRead h) trivial
  | softDeleteMessage messageId userId =>
    rw [store, softDeleteMessage, Careful]
    cases hm : s.message.get? messageId with
    | none => simpa using h
    | some m =>
      dsimp only
      by_cases hsender : m.senderId = userId
      · rw [if_neg (not_not.mpr hsender)]
        simpa [hsender] using exact_delete_iff h hm
      · rw [if_pos hsender]
        simpa [hsender] using h
  | threadJoin user threadId => exact iff_of_true (exact_threadJoin h) trivial
  | messageRead user threadId messageIds =>
    rw [store, Careful]
    cases ht : s.thread.get? threadId with
    | none => simpa [messageRead, asParticipant, ht] using h
    | some t =>
      by_cases huser : isParticipant t user = true
      · rw [exact_messageRead_iff h ht huser]
        simp [huser]
      · have hnot : Exact (messageRead user threadId messageIds s).2 := by
          simpa [messageRead, asParticipant, ht, huser] using h
        exact iff_of_true hnot fun u hu hread => by
          obtain rfl := Option.some.inj hu
          exact absurd hread huser

/-- **The counters stay exact** throughout a run exactly if each of its operations is careful. -/
theorem exact_iff {s : Service} (h : Exact s) (os : List StoreOp) :
    AllStates store Exact s os ↔ AllSteps store Careful s os :=
  allStates_iff_allSteps (fun _ _ h => exact_step_iff h) h os

lemma exact_oneThread : Exact oneThread := by
  refine ⟨fun k t ht _ => ?_, fun k t ht _ => ?_⟩
  · rcases Table.get?_insert_cases ht with ht | ⟨-, rfl⟩
    · cases ht
    · rfl
  · rcases Table.get?_insert_cases ht with ht | ⟨-, rfl⟩
    · cases ht
    · rfl

/-- A message of the agent. -/
def greeting : Message where
  threadId := 0
  senderId := "a"
  senderRole := .agent
  senderName := "Ada"
  type := "TEXT"
  createdAt := 1

/-- A message is sent, and read by the other participant. -/
theorem exact_read :
    AllStates store Exact oneThread [.addMessage greeting, .markAsRead 0 "b"] := by
  refine (exact_iff exact_oneThread _).mpr ⟨fun t ht _ => ?_, trivial, trivial⟩
  obtain rfl := Option.some.inj ht
  exact ⟨Or.inl rfl, by decide⟩

/-- A message that is deleted before it is read stays counted, and so does one that its sender marks
as READ. -/
theorem not_exact :
    ¬ AllStates store Exact oneThread [.addMessage greeting, .softDeleteMessage 0 "a"] ∧
    ¬ AllStates store Exact oneThread
      [.addMessage greeting, .messageRead ⟨"a", .agent, "Ada"⟩ 0 [0]] := by
  constructor
  · rintro ⟨-, -, h⟩
    exact absurd (h.b 0 _ rfl (by decide)) (by decide)
  · rintro ⟨-, -, h⟩
    exact absurd (h.b 0 _ rfl (by decide)) (by decide)

end Chat

end Asoju.FieldForce
