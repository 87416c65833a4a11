/-
What a tab shows of the chat.

Messages never change but for their statuses, which go forward, and their deletions, and threads
keep their participants (`Service.Leads`).  So whatever has been true of a push when it was sent
stays true while it is on the way (`Push.Sound.later`), and the tab keeps it true when it takes it.
-/
import Asoju.FieldForce.ChatClients

namespace Asoju.FieldForce

open Lib

namespace Chat

/-! ## How the service develops -/

def Thread.parties (t : Thread) : Participant × Participant := (t.participantA, t.participantB)

/-- Messages stay as they are, but for their statuses, which go forward, and their deletions.
Threads keep their participants. -/
structure Service.Leads (s s' : Service) : Prop where
  message : ∀ i m, s.message.get? i = some m → ∃ status deleted,
    s'.message.get? i = some { m with status, deleted } ∧ m.status.rank ≤ status.rank
  thread : ∀ i t, s.thread.get? i = some t →
    ∃ t', s'.thread.get? i = some t' ∧ t'.parties = t.parties

/-- Threads stay, with their participants. -/
def SameParties (s s' : Service) : Prop :=
  ∀ i, (s'.thread.get? i).map Thread.parties = (s.thread.get? i).map Thread.parties

section Leads

variable {s s' s'' : Service}

lemma SameParties.of_eq (h : s'.thread = s.thread) : SameParties s s' := fun i => by rw [h]

lemma SameParties.trans (h : SameParties s s') (h' : SameParties s' s'') : SameParties s s'' :=
  fun i => (h' i).trans (h i)

/-- Counters are no participants. -/
lemma sameParties_modify (s : Service) (i : Id) {f : Thread → Thread}
    (hf : ∀ t, (f t).parties = t.parties) :
    SameParties s { s with thread := s.thread.modify i f } :=
  fun j => s.thread.map_get?_modify i hf j

lemma SameParties.get? (h : SameParties s s') {i : Id} {t : Thread}
    (ht : s.thread.get? i = some t) :
    ∃ t', s'.thread.get? i = some t' ∧ t'.parties = t.parties := by
  have hi := h i
  rw [ht, Option.map_some] at hi
  exact Option.map_eq_some_iff.mp hi

lemma sameParties_addMessage (m : Message) (s : Service) : SameParties s (addMessage m s) := by
  refine SameParties.trans (sameParties_modify s m.threadId (f := fun t =>
    if t.participantA.id = m.senderId then { t with unreadCountB := t.unreadCountB + 1 }
    else { t with unreadCountA := t.unreadCountA + 1 }) fun t => ?_) (.of_eq rfl)
  split_ifs <;> rfl

lemma sameParties_markAsRead (threadId : Id) (userId : String) (s : Service) :
    SameParties s (markAsRead threadId userId s) := by
  rw [markAsRead]
  cases s.thread.get? threadId with
  | none => exact .of_eq rfl
  | some thread =>
    dsimp only
    split_ifs
    · exact .trans (sameParties_modify s threadId (f := fun t => { t with unreadCountA := 0 })
        fun _ => rfl) (.of_eq rfl)
    · exact .trans (sameParties_modify s threadId (f := fun t => { t with unreadCountB := 0 })
        fun _ => rfl) (.of_eq rfl)
    · exact .of_eq rfl

lemma sameParties_asParticipant {user : AuthUser} {threadId : Id}
    {act : Thread → Response × Service} (h : ∀ thread, SameParties s (act thread).2) :
    SameParties s (asParticipant user threadId s act).2 := by
  rw [asParticipant]
  cases s.thread.get? threadId with
  | none => exact .of_eq rfl
  | some thread =>
    dsimp only
    split
    · exact .of_eq rfl
    · exact h thread

lemma Service.Leads.refl (s : Service) : s.Leads s :=
  ⟨fun _ m hm => ⟨m.status, m.deleted, hm, le_rfl⟩, fun _ t ht => ⟨t, ht, rfl⟩⟩

lemma Service.Leads.trans (h : s.Leads s') (h' : s'.Leads s'') : s.Leads s'' := by
  refine ⟨fun i m hm => ?_, fun i t ht => ?_⟩
  · obtain ⟨status, deleted, hm', hle⟩ := h.message i m hm
    obtain ⟨status', deleted', hm'', hle'⟩ := h'.message i _ hm'
    exact ⟨status', deleted', hm'', hle.trans hle'⟩
  · obtain ⟨t', ht', hparties⟩ := h.thread i t ht
    obtain ⟨t'', ht'', hparties'⟩ := h'.thread i t' ht'
    exact ⟨t'', ht'', hparties'.trans hparties⟩

lemma Marks.leads (h : Marks (fun _ => True) s s') (hparties : SameParties s s') :
    s.Leads s' := by
  refine ⟨fun i m hm => ?_, fun i t ht => hparties.get? ht⟩
  obtain ⟨status, deleted, hm', hle, -⟩ := h.kept i m hm
  exact ⟨status, deleted, hm', hle⟩

lemma Stores.leads {m : Message} (h : Stores m s s') (hparties : SameParties s s') :
    s.Leads s' := by
  refine ⟨fun i x hx => ?_, fun i t ht => hparties.get? ht⟩
  obtain ⟨status, -, hget⟩ := h
  refine ⟨x.status, x.deleted, ?_, le_rfl⟩
  rw [hget, if_neg (Nat.ne_of_lt (s.message.lt_next_of_get? hx)), hx]

lemma leads_insertThread (s : Service) (t : Thread) :
    s.Leads { s with thread := s.thread.insert t } :=
  ⟨fun _ m hm => ⟨m.status, m.deleted, hm, le_rfl⟩,
    fun _ _ ht => ⟨_, Table.get?_insert_of_some ht _, rfl⟩⟩

lemma steady_true : Steady fun _ => True := fun _ _ _ _ => trivial

lemma leads_markAsRead (threadId : Id) (userId : String) (s : Service) :
    s.Leads (markAsRead threadId userId s) :=
  Marks.leads (marks_markAsRead fun _ _ _ => trivial)
    (sameParties_markAsRead threadId userId s)

/-- A message is stored, or nothing happens. -/
lemma messageSend_cases (user : AuthUser) (data : SendData) (now : Time) (s : Service) :
    (messageSend user data now s).2 = s ∨ ∃ thread recipient,
      Accepted s user data thread recipient ∧
        Stores (newMessage user recipient data now) s (messageSend user data now s).2 := by
  by_cases h : ∃ thread recipient, Accepted s user data thread recipient
  · obtain ⟨thread, recipient, haccepted⟩ := h
    exact Or.inr ⟨thread, recipient, haccepted, messageSend_of_accepted now haccepted⟩
  · exact Or.inl (messageSend_of_not_accepted fun thread recipient hnot =>
      h ⟨thread, recipient, hnot⟩)

lemma sameParties_messageSend (user : AuthUser) (data : SendData) (now : Time) (s : Service) :
    SameParties s (messageSend user data now s).2 := by
  rw [messageSend]
  cases s.thread.get? data.threadId with
  | none => exact .of_eq rfl
  | some thread =>
    dsimp only
    cases getRecipient thread user.userId with
    | none => exact .of_eq rfl
    | some recipient =>
      dsimp only
      split
      · exact .of_eq rfl
      split
      · exact .of_eq rfl
      · dsimp only
        split
        · exact sameParties_addMessage _ s
        · exact sameParties_addMessage _ s

lemma leads_messageSend (user : AuthUser) (data : SendData) (now : Time) (s : Service) :
    s.Leads (messageSend user data now s).2 := by
  rcases messageSend_cases user data now s with h | ⟨thread, recipient, -, hstores⟩
  · rw [h]
    exact .refl s
  · exact hstores.leads (sameParties_messageSend user data now s)

lemma leads_softDelete {messageId : Id} {userId : String}
    (h : softDeleteMessage messageId userId s = .ok s') : s.Leads s' := by
  rw [softDeleteMessage] at h
  cases hm : s.message.get? messageId with
  | none =>
    rw [hm] at h
    cases h
  | some x =>
    rw [hm] at h
    dsimp only at h
    split_ifs at h
    cases h
    refine ⟨fun i m hi => ?_, fun i t ht => ⟨t, ht, rfl⟩⟩
    show ∃ status deleted, (s.message.modify messageId _).get? i = _ ∧ _
    rw [Table.get?_modify, hi]
    split_ifs
    · exact ⟨m.status, true, rfl, le_rfl⟩
    · exact ⟨m.status, m.deleted, rfl, le_rfl⟩

lemma leads_asParticipant {user : AuthUser} {threadId : Id}
    {act : Thread → Response × Service} (h : ∀ thread, s.Leads (act thread).2) :
    s.Leads (asParticipant user threadId s act).2 := by
  rw [asParticipant]
  cases s.thread.get? threadId with
  | none => exact .refl s
  | some thread =>
    dsimp only
    split
    · exact .refl s
    · exact h thread

lemma leads_messageDelete (user : AuthUser) (messageId threadId : Id) (s : Service) :
    s.Leads (messageDelete user messageId threadId s).2 := by
  refine leads_asParticipant fun _ => ?_
  rcases h : softDeleteMessage messageId user.userId s with e | s'
  · exact .refl s
  · exact leads_softDelete h

lemma leads_messageRead (user : AuthUser) (threadId : Id) (messageIds : List Id) (s : Service) :
    s.Leads (messageRead user threadId messageIds s).2 := by
  refine Marks.leads (marks_messageRead steady_true (fun _ _ _ _ _ _ => trivial)
    fun _ _ _ _ _ _ _ _ _ => trivial) ?_
  refine sameParties_asParticipant fun thread => ?_
  refine .trans (.of_eq ?_) (sameParties_markAsRead threadId user.userId _)
  split_ifs <;> rfl

lemma leads_handle {socketId : Id} {f : AuthUser → Service → Response × Service}
    (h : ∀ user, s.Leads (f user s).2) : s.Leads (s.handle socketId f) := by
  rw [Service.handle]
  cases s.socket.get? socketId with
  | none => exact .refl s
  | some c => exact h c.user

/-- **The service goes forward.** -/
lemma leads_step (s : Service) (e : Event) : s.Leads (step s e) := by
  have hsame : ∀ s' : Service, s'.message = s.message → s'.thread = s.thread → s.Leads s' := by
    intro s' hm ht
    have hmarks : Marks (fun _ => True) s s' := marks_of_eq hm
    exact hmarks.leads (.of_eq ht)
  cases e with
  | connect user => exact hsame _ rfl rfl
  | auth socketId verifiedUser => cases verifiedUser <;> exact hsame _ rfl rfl
  | disconnect socketId => exact hsame _ rfl rfl
  | threadJoin socketId threadId =>
    refine leads_handle (f := fun user => threadJoin user threadId) fun user =>
      Marks.leads marks_threadJoin ?_
    refine sameParties_asParticipant fun thread => .of_eq ?_
    cases getRecipient thread user.userId <;> rfl
  | messageSend socketId data now =>
    exact leads_handle fun user => leads_messageSend user data now s
  | messageDelete socketId messageId threadId =>
    exact leads_handle fun user => leads_messageDelete user messageId threadId s
  | messageRead socketId threadId messageIds =>
    exact leads_handle fun user => leads_messageRead user threadId messageIds s
  | messageDelivered socketId threadId messageIds =>
    exact leads_handle (f := fun user => messageDelivered user threadId messageIds) fun user =>
      Marks.leads (marks_messageDelivered messageIds)
      (sameParties_asParticipant fun _ => .of_eq rfl)

end Leads

/-! ## What may be on the way -/

/-- The message is one of the service, with a status that it has reached. -/
def IsCopy (s : Service) (p : Id × Message) : Prop :=
  ∃ status deleted, s.message.get? p.1 = some { p.2 with status, deleted } ∧
    p.2.status.rank ≤ status.rank

/-- One of the users takes part in the thread, or is an administrator. -/
def MaySee (s : Service) (users : List AuthUser) (threadId : Id) : Prop :=
  ∃ thread, s.thread.get? threadId = some thread ∧ ∃ u ∈ users, u.role = .admin ∨
    thread.participantA.id = u.userId ∨ thread.participantB.id = u.userId

/-- The messages are of the thread and have reached the status. -/
def Reached (s : Service) (threadId : Id) (messageIds : List Id) (status : MessageStatus) : Prop :=
  ∀ i ∈ messageIds, ∃ m, s.message.get? i = some m ∧ m.threadId = threadId ∧
    status.rank ≤ m.status.rank

def Push.Sound (s : Service) (users : List AuthUser) : Push → Prop
  | .messageNew p => IsCopy s p ∧ MaySee s users p.2.threadId
  | .messageStatus threadId messageIds status => Reached s threadId messageIds status
  | .messageDeleted threadId _ => threadId = none

/-- Messages of a thread, each once. -/
structure Listed (s : Service) (users : List AuthUser) (threadId : Id)
    (messages : List (Id × Message)) : Prop where
  once : (messages.map Prod.fst).Nodup
  copies : ∀ p ∈ messages, p.2.threadId = threadId ∧ IsCopy s p
  seen : messages ≠ [] → MaySee s users threadId

/-- What a tab shows, and what is on the way to it. -/
structure Tab.Sound (s : Service) (t : Tab) : Prop where
  view : ∀ threadId, Listed s t.users threadId (t.view threadId)
  inbox : ∀ push ∈ t.inbox, push.Sound s t.users
  pages : ∀ page ∈ t.pages, Listed s t.users page.1 page.2

section Sound

variable {s s' : Service} {users users' : List AuthUser} {threadId : Id}

lemma IsCopy.later {p : Id × Message} (h : IsCopy s p) (hs : s.Leads s') : IsCopy s' p := by
  obtain ⟨status, deleted, hp, hle⟩ := h
  obtain ⟨status', deleted', hp', hle'⟩ := hs.message _ _ hp
  exact ⟨status', deleted', hp', hle.trans hle'⟩

lemma MaySee.later (h : MaySee s users threadId) (hs : s.Leads s') (husers : users ⊆ users') :
    MaySee s' users' threadId := by
  obtain ⟨thread, hthread, u, hu, hmay⟩ := h
  obtain ⟨thread', hthread', hparties⟩ := hs.thread _ _ hthread
  rw [Thread.parties, Thread.parties, Prod.mk.injEq] at hparties
  refine ⟨thread', hthread', u, husers hu, ?_⟩
  rwa [hparties.1, hparties.2]

lemma Reached.later {messageIds : List Id} {status : MessageStatus}
    (h : Reached s threadId messageIds status) (hs : s.Leads s') :
    Reached s' threadId messageIds status := by
  intro i hi
  obtain ⟨m, hm, hthread, hle⟩ := h i hi
  obtain ⟨status', deleted', hm', hle'⟩ := hs.message _ _ hm
  exact ⟨_, hm', hthread, hle.trans hle'⟩

lemma Push.Sound.later {push : Push} (h : push.Sound s users) (hs : s.Leads s')
    (husers : users ⊆ users') : push.Sound s' users' := by
  cases push with
  | messageNew p => exact ⟨h.1.later hs, h.2.later hs husers⟩
  | messageStatus threadId messageIds status => exact Reached.later h hs
  | messageDeleted threadId messageId => exact h

lemma Listed.later {messages : List (Id × Message)} (h : Listed s users threadId messages)
    (hs : s.Leads s') (husers : users ⊆ users') : Listed s' users' threadId messages :=
  ⟨h.once, fun p hp => ⟨(h.copies p hp).1, (h.copies p hp).2.later hs⟩,
    fun hne => (h.seen hne).later hs husers⟩

lemma Listed.nil : Listed s users threadId [] :=
  ⟨List.nodup_nil, fun _ hp => absurd hp List.not_mem_nil, fun h => absurd rfl h⟩

lemma Tab.Sound.later {t t' : Tab} (h : t.Sound s) (hs : s.Leads s') (husers : t.users ⊆ t'.users)
    (hview : t'.view = t.view) (hinbox : t'.inbox = t.inbox) (hpages : t'.pages = t.pages) :
    t'.Sound s' :=
  ⟨fun threadId => hview ▸ (h.view threadId).later hs husers,
    fun push hpush => (h.inbox push (hinbox ▸ hpush)).later hs husers,
    fun page hpage => (h.pages page (hpages ▸ hpage)).later hs husers⟩

/-! ### What a tab takes -/

lemma listed_append {messages : List (Id × Message)} {p : Id × Message}
    (h : Listed s users p.2.threadId messages) (hp : (Push.messageNew p).Sound s users)
    (hnew : ¬ messages.any fun q => q.1 = p.1) :
    Listed s users p.2.threadId (messages ++ [p]) := by
  refine ⟨?_, fun q hq => ?_, fun _ => hp.2⟩
  · rw [List.map_append, List.nodup_append]
    refine ⟨h.once, List.nodup_singleton _, fun i hi j hj hij => hnew ?_⟩
    obtain ⟨q, hq, rfl⟩ := List.mem_map.mp hi
    rw [List.map_singleton, List.mem_singleton] at hj
    exact List.any_eq_true.mpr ⟨q, hq, decide_eq_true (hij.trans hj)⟩
  · rcases List.mem_append.mp hq with hq | hq
    · exact h.copies q hq
    · rw [List.mem_singleton.mp hq]
      exact ⟨rfl, hp.1⟩

lemma listed_status {messages : List (Id × Message)} {messageIds : List Id}
    {status : MessageStatus} (h : Listed s users threadId messages)
    (hreached : Reached s threadId messageIds status) :
    Listed s users threadId (messages.map fun p =>
      if p.1 ∈ messageIds then (p.1, { p.2 with status }) else p) := by
  refine ⟨?_, fun q hq => ?_, fun hne => h.seen fun hnil => hne (by rw [hnil, List.map_nil])⟩
  · rw [List.map_map]
    have hfst : (Prod.fst ∘ fun p : Id × Message =>
        if p.1 ∈ messageIds then (p.1, { p.2 with status }) else p) = Prod.fst := by
      funext p
      rw [Function.comp_apply]
      split_ifs <;> rfl
    rw [hfst]
    exact h.once
  · obtain ⟨p, hp, rfl⟩ := List.mem_map.mp hq
    obtain ⟨hthread, hcopy⟩ := h.copies p hp
    split_ifs with hi
    · obtain ⟨m, hm, -, hle⟩ := hreached p.1 hi
      obtain ⟨status', deleted', hp', -⟩ := hcopy
      rw [hm, Option.some.injEq] at hp'
      refine ⟨hthread, status', deleted', ?_, ?_⟩
      · rw [hm, hp']
      · rw [hp'] at hle
        exact hle
    · exact ⟨hthread, hcopy⟩

lemma Tab.Sound.receive_push {t : Tab} {push : Push} (h : t.Sound s)
    (hpush : push.Sound s t.users) (threadId : Id) :
    Listed s t.users threadId (t.view.receive push threadId) := by
  cases push with
  | messageNew p =>
    rw [View.receive]
    split_ifs with hknown
    · exact h.view threadId
    · rcases eq_or_ne threadId p.2.threadId with rfl | hne
      · rw [Function.update_self]
        exact listed_append (h.view _) hpush hknown
      · rw [Function.update_of_ne hne]
        exact h.view threadId
  | messageStatus threadId' messageIds status =>
    rw [View.receive]
    rcases eq_or_ne threadId threadId' with rfl | hne
    · rw [Function.update_self]
      exact listed_status (h.view _) hpush
    · rw [Function.update_of_ne hne]
      exact h.view threadId
  | messageDeleted threadId' messageId =>
    obtain rfl : threadId' = none := hpush
    exact h.view threadId

lemma Tab.users_receive (t : Tab) : t.receive.users = t.users := by
  rw [Tab.receive]
  cases t.inbox <;> rfl

lemma Tab.Sound.receive {t : Tab} (h : t.Sound s) : t.receive.Sound s := by
  rw [Tab.receive]
  cases hinbox : t.inbox with
  | nil => exact h
  | cons push inbox =>
    have hrest : ∀ push' ∈ push :: inbox, push'.Sound s t.users :=
      fun push' hpush' => h.inbox push' (hinbox ▸ hpush')
    exact ⟨fun threadId => h.receive_push (hrest push List.mem_cons_self) threadId,
      fun push' hpush' => hrest push' (List.mem_cons_of_mem _ hpush'), h.pages⟩

lemma Tab.users_loadMessages (t : Tab) (k : ℕ) : (t.loadMessages k).users = t.users := by
  rw [Tab.loadMessages]
  cases t.pages[k]? <;> rfl

lemma Tab.Sound.loadMessages {t : Tab} (h : t.Sound s) (k : ℕ) : (t.loadMessages k).Sound s := by
  rw [Tab.loadMessages]
  rcases hk : t.pages[k]? with _ | ⟨threadId, page⟩
  · exact h
  · have hpage := h.pages _ (List.mem_of_getElem? hk)
    refine ⟨fun threadId' => ?_, h.inbox,
      fun page' hpage' => h.pages page' (List.mem_of_mem_eraseIdx hpage')⟩
    show Listed _ _ _ (Function.update t.view threadId page threadId')
    rcases eq_or_ne threadId' threadId with rfl | hne
    · rw [Function.update_self]
      exact hpage
    · rw [Function.update_of_ne hne]
      exact h.view threadId'

end Sound

/-! ## What is sent -/

/-- Whom a socket belongs to has used its tab. -/
def Wired (s : Service) (users : Id → List AuthUser) : Prop :=
  ∀ i c, s.socket.get? i = some c → c.user ∈ users i ∧ c.authenticated ∈ users i

section Pushes

variable {s : Service} {user : AuthUser} {threadId : Id} {users : Id → List AuthUser}

lemma mem_getMessages {limit : ℕ} {p : Id × Message} (hp : p ∈ getMessages threadId limit s) :
    s.message.get? p.1 = some p.2 ∧ p.2.threadId = threadId ∧ p.2.deleted = false := by
  have htaken := List.mem_of_mem_take (List.mem_reverse.mp hp)
  obtain ⟨hrow, hq⟩ := List.mem_filter.mp ((mem_sortDesc _).mp htaken)
  exact ⟨s.message.mem_rows_iff.mp hrow, of_decide_eq_true hq⟩

lemma mem_getSocketsForUser {userId : String} {i : Id} : i ∈ getSocketsForUser userId s ↔
    ∃ c, s.socket.get? i = some c ∧ c.authenticated.userId = userId := by
  constructor
  · intro hi
    obtain ⟨⟨j, c⟩, hc, rfl⟩ := List.mem_map.mp hi
    obtain ⟨hrow, huser⟩ := List.mem_filter.mp hc
    exact ⟨c, s.socket.mem_rows_iff.mp hrow, of_decide_eq_true huser⟩
  · rintro ⟨c, hc, huser⟩
    have hrow := s.socket.mem_rows_iff.mpr hc
    exact List.mem_map.mpr ⟨_, List.mem_filter.mpr ⟨hrow, decide_eq_true huser⟩, rfl⟩

lemma of_mem_getOnlineAdminSockets {i : Id} (h : i ∈ getOnlineAdminSockets s) :
    ∃ c, s.socket.get? i = some c ∧ c.authenticated.role = .admin := by
  obtain ⟨⟨j, c⟩, hc, rfl⟩ := List.mem_map.mp h
  obtain ⟨hrow, hrole⟩ := List.mem_filter.mp hc
  exact ⟨c, s.socket.mem_rows_iff.mp hrow, of_decide_eq_true hrole⟩

lemma of_mem_tellSenders {sent : List (Id × Message)} {q : Id × Push}
    (hq : q ∈ tellSenders threadId sent s) :
    ∃ ids, ids ⊆ sent.map Prod.fst ∧ q.2 = .messageStatus threadId ids .delivered := by
  obtain ⟨senderId, -, hq⟩ := List.mem_flatMap.mp hq
  obtain ⟨socketId, -, rfl⟩ := List.mem_map.mp hq
  exact ⟨_, fun i hi => List.map_subset _ (List.filter_subset_self _) hi, rfl⟩

lemma of_mem_pushesAsParticipant {f : Thread → List (Id × Push)} {q : Id × Push}
    (hq : q ∈ pushesAsParticipant user threadId s f) : ∃ thread,
      s.thread.get? threadId = some thread ∧ isParticipant thread user = true ∧ q ∈ f thread := by
  rw [pushesAsParticipant] at hq
  cases hthread : s.thread.get? threadId with
  | none =>
    rw [hthread] at hq
    exact absurd hq List.not_mem_nil
  | some thread =>
    rw [hthread] at hq
    dsimp only at hq
    split_ifs at hq with hparticipant
    · exact ⟨thread, rfl, hparticipant, hq⟩
    · exact absurd hq List.not_mem_nil

lemma asParticipant_eq {act : Thread → Response × Service} {thread : Thread}
    (hthread : s.thread.get? threadId = some thread)
    (hparticipant : isParticipant thread user = true) :
    asParticipant user threadId s act = act thread := by
  rw [asParticipant, hthread]
  dsimp only
  rw [if_neg (not_not.mpr hparticipant)]

/-- What has been marked as delivered has been delivered. -/
lemma reached_delivered {sent : List (Id × Message)} {ids : List Id}
    (hsent : ∀ p ∈ sent, s.message.get? p.1 = some p.2 ∧ p.2.threadId = threadId ∧
      p.2.deleted = false) (hids : ids ⊆ sent.map Prod.fst) :
    Reached (updateMessageStatus (sent.map Prod.fst) .delivered s) threadId ids .delivered := by
  intro i hi
  obtain ⟨p, hp, rfl⟩ := List.mem_map.mp (hids hi)
  obtain ⟨hget, hthread, hdeleted⟩ := hsent p hp
  refine ⟨{ p.2 with status := .delivered }, ?_, hthread, le_rfl⟩
  show (s.message.modifyWhere _ _).get? p.1 = _
  rw [Table.get?_modifyWhere, hget, Option.map_some, if_pos (decide_eq_true ⟨hids hi, hdeleted⟩)]

lemma sound_tellSenders {q : Id × Message → Bool} {limit : ℕ} {push : Id × Push}
    (hpush : push ∈ tellSenders threadId ((getMessages threadId limit s).filter q) s) :
    push.2.Sound (updateMessageStatus (((getMessages threadId limit s).filter q).map Prod.fst)
      .delivered s) (users push.1) := by
  obtain ⟨ids, hids, heq⟩ := of_mem_tellSenders hpush
  rw [heq]
  exact reached_delivered (fun p hp => mem_getMessages (List.mem_of_mem_filter hp)) hids

lemma sound_threadJoinPushes {q : Id × Push} (hq : q ∈ threadJoinPushes user threadId s) :
    q.2.Sound (threadJoin user threadId s).2 (users q.1) := by
  obtain ⟨thread, hthread, hparticipant, hq⟩ := of_mem_pushesAsParticipant hq
  rw [threadJoin, asParticipant_eq hthread hparticipant]
  cases hrecipient : getRecipient thread user.userId with
  | none =>
    rw [hrecipient] at hq
    exact absurd hq List.not_mem_nil
  | some recipient =>
    rw [hrecipient] at hq
    exact sound_tellSenders hq

lemma sound_messageDeliveredPushes {messageIds : List Id} {q : Id × Push}
    (hq : q ∈ messageDeliveredPushes user threadId messageIds s) :
    q.2.Sound (messageDelivered user threadId messageIds s).2 (users q.1) := by
  obtain ⟨thread, hthread, hparticipant, hq⟩ := of_mem_pushesAsParticipant hq
  rw [messageDelivered, asParticipant_eq hthread hparticipant]
  exact sound_tellSenders hq

lemma sound_messageDeletePushes {rooms : List (Id × Id)} {messageId : Id} {s' : Service}
    {q : Id × Push} (hq : q ∈ messageDeletePushes rooms user messageId threadId s) :
    q.2.Sound s' (users q.1) := by
  obtain ⟨thread, -, -, hq⟩ := of_mem_pushesAsParticipant hq
  rcases hdelete : softDeleteMessage messageId user.userId s with e | s''
  · rw [hdelete] at hq
    exact absurd hq List.not_mem_nil
  · rw [hdelete] at hq
    obtain ⟨r, -, rfl⟩ := List.mem_map.mp hq
    rfl

lemma sound_messageReadPushes {messageIds : List Id} {q : Id × Push}
    (hq : q ∈ messageReadPushes user threadId messageIds s) :
    q.2.Sound (messageRead user threadId messageIds s).2 (users q.1) := by
  have hleads : s.Leads (messageRead user threadId messageIds s).2 := leads_messageRead ..
  obtain ⟨thread, hthread, hparticipant, hq⟩ := of_mem_pushesAsParticipant hq
  cases hrecipient : getRecipient thread user.userId with
  | none =>
    rw [hrecipient] at hq
    exact absurd hq List.not_mem_nil
  | some recipient =>
    rw [hrecipient] at hq
    dsimp only at hq
    split_ifs at hq
    · exact absurd hq List.not_mem_nil
    · obtain ⟨socketId, -, rfl⟩ := List.mem_map.mp hq
      intro i hi
      obtain ⟨p, hp, rfl⟩ := List.mem_map.mp hi
      obtain ⟨hp, htest⟩ := List.mem_filter.mp hp
      obtain ⟨hget, hthreadId, hdeleted⟩ := mem_getMessages hp
      -- It is READ afterwards, and it is still the same message.
      obtain ⟨m, hm, hread⟩ := read_of_named hthread hparticipant (of_decide_eq_true htest).1 hget
        hdeleted
      obtain ⟨status, deleted, hget', -⟩ := hleads.message _ _ hget
      rw [hm, Option.some.injEq] at hget'
      refine ⟨m, hm, ?_, ?_⟩
      · rw [hget']
        exact hthreadId
      · rw [hread]

/-! ### A message that is sent -/

section Send

variable {socketId : Id} {data : SendData} {now : Time} {thread : Thread}
  {recipient : Participant}

/-- The sockets that the message is sent to. -/
def Addressees (s : Service) (socketId : Id) (recipient : Participant) (relayed : Bool) (i : Id) :
    Prop :=
  i ∈ getSocketsForUser recipient.id s ∨ i = socketId ∨
    relayed = true ∧ i ∈ getOnlineAdminSockets s

lemma messageSendPushes_of_accepted (h : Accepted s user data thread recipient) (q : Id × Push) :
    q ∈ messageSendPushes socketId user data now s ↔
      (q.2 = .messageNew (s.message.next, newMessage user recipient data now) ∧
        Addressees s socketId recipient (newMessage user recipient data now).relayed q.1) ∨
      (q = (socketId, .messageStatus data.threadId [s.message.next] .delivered) ∧
        getSocketsForUser recipient.id s ≠ []) := by
  obtain ⟨i, push⟩ := q
  rw [messageSendPushes, h.found]
  dsimp only
  rw [h.addressed]
  dsimp only
  rw [if_neg (not_not.mpr h.reply), if_neg h.routed]
  simp only [List.mem_append, List.mem_map, Prod.mk.injEq, List.mem_singleton, Addressees]
  constructor
  · rintro (((⟨j, hj, rfl, rfl⟩ | hstatus) | ⟨rfl, rfl⟩) | hadmin)
    · exact Or.inl ⟨rfl, Or.inl hj⟩
    · split_ifs at hstatus with hnone
      · exact absurd hstatus List.not_mem_nil
      · rw [List.mem_singleton, Prod.mk.injEq] at hstatus
        exact Or.inr ⟨hstatus, hnone⟩
    · exact Or.inl ⟨rfl, Or.inr (Or.inl rfl)⟩
    · split_ifs at hadmin with hrelayed
      · obtain ⟨j, hj, hpair⟩ := List.mem_map.mp hadmin
        rw [Prod.mk.injEq] at hpair
        exact Or.inl ⟨hpair.2.symm, Or.inr (Or.inr ⟨hrelayed, hpair.1 ▸ hj⟩)⟩
      · exact absurd hadmin List.not_mem_nil
  · rintro (⟨rfl, hi | rfl | ⟨hrelayed, hi⟩⟩ | ⟨hstatus, hsome⟩)
    · exact Or.inl (Or.inl (Or.inl ⟨i, hi, rfl, rfl⟩))
    · exact Or.inl (Or.inr ⟨rfl, rfl⟩)
    · rw [if_pos hrelayed]
      exact Or.inr (List.mem_map.mpr ⟨i, hi, rfl⟩)
    · rw [if_neg hsome, List.mem_singleton, Prod.mk.injEq]
      exact Or.inl (Or.inl (Or.inr hstatus))

/-- Nothing is sent of a message that is not accepted. -/
lemma accepted_of_mem {q : Id × Push} (hq : q ∈ messageSendPushes socketId user data now s) :
    ∃ thread recipient, Accepted s user data thread recipient := by
  rw [messageSendPushes] at hq
  rcases hthread : s.thread.get? data.threadId with _ | thread
  · rw [hthread] at hq
    exact absurd hq List.not_mem_nil
  rcases hrecipient : getRecipient thread user.userId with _ | recipient
  · rw [hthread] at hq
    dsimp only at hq
    rw [hrecipient] at hq
    exact absurd hq List.not_mem_nil
  rw [hthread] at hq
  dsimp only at hq
  rw [hrecipient] at hq
  dsimp only at hq
  split at hq
  · exact absurd hq List.not_mem_nil
  split at hq
  · exact absurd hq List.not_mem_nil
  · rename_i hreply hrouted
    exact ⟨thread, recipient, hthread, hrecipient, not_not.mp hreply, hrouted⟩

/-- A message is sent to somebody who takes part in its thread. -/
lemma party_of_getRecipient {userId : String} (h : getRecipient thread userId = some recipient) :
    (thread.participantA.id = userId ∨ thread.participantB.id = userId) ∧
      (thread.participantA.id = recipient.id ∨ thread.participantB.id = recipient.id) := by
  rw [getRecipient] at h
  split_ifs at h with hA hB
  · cases h
    exact ⟨Or.inl hA, Or.inr rfl⟩
  · cases h
    exact ⟨Or.inr hB, Or.inl rfl⟩

lemma maySee_addressee (hwired : Wired s users) {c : Connection}
    (hc : s.socket.get? socketId = some c) (h : Accepted s c.user data thread recipient)
    {relayed : Bool} {i : Id} (hi : Addressees s socketId recipient relayed i) :
    MaySee s (users i) data.threadId := by
  obtain ⟨hsender, hparty⟩ := party_of_getRecipient h.addressed
  refine ⟨thread, h.found, ?_⟩
  rcases hi with hi | rfl | ⟨-, hi⟩
  · obtain ⟨c', hc', huser⟩ := mem_getSocketsForUser.mp hi
    exact ⟨c'.authenticated, (hwired i c' hc').2, Or.inr (huser ▸ hparty)⟩
  · exact ⟨c.user, (hwired i c hc).1, Or.inr hsender⟩
  · obtain ⟨c', hc', hadmin⟩ := of_mem_getOnlineAdminSockets hi
    exact ⟨c'.authenticated, (hwired i c' hc').2, Or.inl hadmin⟩

/-- A message whose recipient is online has been delivered. -/
lemma delivered_of_online (h : Accepted s user data thread recipient)
    (honline : getSocketsForUser recipient.id s ≠ []) :
    (messageSend user data now s).2.message.get? s.message.next =
      some { newMessage user recipient data now with status := .delivered } := by
  have hany : isOnline recipient.id s = true := by
    obtain ⟨i, hi⟩ := List.exists_mem_of_ne_nil _ honline
    obtain ⟨c, hc, huser⟩ := mem_getSocketsForUser.mp hi
    exact List.any_eq_true.mpr ⟨c, s.socket.mem_values_iff.mpr ⟨i, hc⟩, decide_eq_true huser⟩
  rw [messageSend, h.found]
  dsimp only
  rw [h.addressed]
  dsimp only
  rw [if_neg (not_not.mpr h.reply), if_neg h.routed, if_pos hany]
  show ((s.message.insert _).modifyWhere _ _).get? s.message.next = _
  rw [Table.get?_modifyWhere, Table.get?_insert_self, Option.map_some,
    if_pos (decide_eq_true ⟨List.mem_singleton_self _, rfl⟩)]

lemma sound_messageSendPushes (hwired : Wired s users) {c : Connection}
    (hc : s.socket.get? socketId = some c) {q : Id × Push}
    (hq : q ∈ messageSendPushes socketId c.user data now s) :
    q.2.Sound (messageSend c.user data now s).2 (users q.1) := by
  obtain ⟨thread, recipient, h⟩ := accepted_of_mem hq
  have hleads := leads_messageSend c.user data now s
  rcases (messageSendPushes_of_accepted h q).mp hq with ⟨heq, hi⟩ | ⟨rfl, honline⟩
  · obtain ⟨status, -, hget⟩ := messageSend_of_accepted now h
    rw [heq]
    refine ⟨⟨status, false, ?_, Nat.zero_le _⟩, ?_⟩
    · rw [hget, if_pos rfl]
      rfl
    · exact (maySee_addressee hwired hc h hi).later hleads (List.Subset.refl _)
  · intro i hi
    rw [List.mem_singleton.mp hi]
    exact ⟨_, delivered_of_online h honline, rfl, le_rfl⟩

end Send

lemma of_mem_handledPushes {i : Id} {handler : AuthUser → List (Id × Push)} {q : Id × Push}
    (hq : q ∈ handledPushes s i handler) :
    ∃ c, s.socket.get? i = some c ∧ q ∈ handler c.user := by
  rw [handledPushes] at hq
  cases hc : s.socket.get? i with
  | none =>
    rw [hc] at hq
    exact absurd hq List.not_mem_nil
  | some c =>
    rw [hc] at hq
    exact ⟨c, rfl, hq⟩

/-- **What the service sends is sound**, in the state in which it is sent. -/
lemma sound_pushes (hwired : Wired s users) {rooms : List (Id × Id)} {e : Event} {q : Id × Push}
    (hq : q ∈ pushes rooms s e) : q.2.Sound (step s e) (users q.1) := by
  cases e with
  | connect user => exact absurd hq List.not_mem_nil
  | auth socketId verifiedUser => exact absurd hq List.not_mem_nil
  | disconnect socketId => exact absurd hq List.not_mem_nil
  | threadJoin socketId threadId =>
    rw [pushes] at hq
    obtain ⟨c, hc, hq⟩ := of_mem_handledPushes hq
    rw [step, Service.handle, hc]
    exact sound_threadJoinPushes hq
  | messageSend socketId data now =>
    rw [pushes] at hq
    obtain ⟨c, hc, hq⟩ := of_mem_handledPushes hq
    rw [step, Service.handle, hc]
    exact sound_messageSendPushes hwired hc hq
  | messageDelete socketId messageId threadId =>
    rw [pushes] at hq
    obtain ⟨c, hc, hq⟩ := of_mem_handledPushes hq
    exact sound_messageDeletePushes hq
  | messageRead socketId threadId messageIds =>
    rw [pushes] at hq
    obtain ⟨c, hc, hq⟩ := of_mem_handledPushes hq
    rw [step, Service.handle, hc]
    exact sound_messageReadPushes hq
  | messageDelivered socketId threadId messageIds =>
    rw [pushes] at hq
    obtain ⟨c, hc, hq⟩ := of_mem_handledPushes hq
    rw [step, Service.handle, hc]
    exact sound_messageDeliveredPushes hq

end Pushes

/-! ## The network -/

/-- The tabs of the connected sockets are wired, and every tab is sound. -/
structure Network.Sound (n : Network) : Prop where
  wired : Wired n.service fun i => (n.tab i).users
  tabs : ∀ i, (n.tab i).Sound n.service

section Network

variable {s : Service} {n : Network}

/-- The handlers leave the sockets alone. -/
lemma socket_asParticipant {user : AuthUser} {threadId : Id} {act : Thread → Response × Service}
    (h : ∀ thread, (act thread).2.socket = s.socket) :
    (asParticipant user threadId s act).2.socket = s.socket := by
  rw [asParticipant]
  cases s.thread.get? threadId with
  | none => rfl
  | some thread =>
    dsimp only
    split
    · rfl
    · exact h thread

lemma socket_markAsRead (threadId : Id) (userId : String) (s : Service) :
    (markAsRead threadId userId s).socket = s.socket := by
  rw [markAsRead]
  cases s.thread.get? threadId with
  | none => rfl
  | some thread =>
    dsimp only
    split_ifs <;> rfl

lemma socket_softDelete {messageId : Id} {userId : String} {s' : Service}
    (h : softDeleteMessage messageId userId s = .ok s') : s'.socket = s.socket := by
  rw [softDeleteMessage] at h
  cases hm : s.message.get? messageId with
  | none =>
    rw [hm] at h
    cases h
  | some m =>
    rw [hm] at h
    dsimp only at h
    split_ifs at h
    cases h
    rfl

lemma socket_messageSend (user : AuthUser) (data : SendData) (now : Time) (s : Service) :
    (messageSend user data now s).2.socket = s.socket := by
  rw [messageSend]
  cases s.thread.get? data.threadId with
  | none => rfl
  | some thread =>
    dsimp only
    cases getRecipient thread user.userId with
    | none => rfl
    | some recipient =>
      dsimp only
      split
      · rfl
      split
      · rfl
      · dsimp only
        split <;> rfl

lemma socket_handle {socketId : Id} {f : AuthUser → Service → Response × Service}
    (h : ∀ user, (f user s).2.socket = s.socket) : (s.handle socketId f).socket = s.socket := by
  rw [Service.handle]
  cases s.socket.get? socketId with
  | none => rfl
  | some c => exact h c.user

/-- A request that authenticates nobody leaves the sockets alone. -/
lemma socket_request (i : Id) {r : Request} (hr : r.users = []) :
    (step s (r.event i)).socket = s.socket := by
  cases r with
  | auth verifiedUser =>
    cases verifiedUser with
    | none => rfl
    | some user => exact absurd hr (List.cons_ne_nil _ _)
  | threadJoin threadId =>
    refine socket_handle fun user => socket_asParticipant fun thread => ?_
    cases getRecipient thread user.userId <;> rfl
  | messageSend data now => exact socket_handle fun user => socket_messageSend user data now s
  | messageDelete messageId threadId =>
    refine socket_handle fun user => socket_asParticipant fun _ => ?_
    rcases h : softDeleteMessage messageId user.userId s with e | s'
    · rfl
    · exact socket_softDelete h
  | messageRead threadId messageIds =>
    refine socket_handle fun user => socket_asParticipant fun _ => ?_
    refine (socket_markAsRead threadId user.userId _).trans ?_
    split_ifs <;> rfl
  | messageDelivered threadId messageIds =>
    exact socket_handle fun user => socket_asParticipant fun _ => rfl

lemma Wired.mono {users users' : Id → List AuthUser} (h : Wired s users)
    (husers : ∀ i, users i ⊆ users' i) : Wired s users' :=
  fun i c hc => ⟨husers i (h i c hc).1, husers i (h i c hc).2⟩

lemma exists_of_users_ne {r : Request} (h : r.users ≠ []) : ∃ user, r = .auth (some user) := by
  rcases r with (_ | user) | _ | _ | _ | _ | _
  · exact absurd rfl h
  · exact ⟨user, rfl⟩
  all_goals exact absurd rfl h

/-- Whoever is authenticated anew has used the tab. -/
lemma wired_request {users : Id → List AuthUser} (h : Wired s users) (i : Id) {r : Request}
    (hr : r.users ⊆ users i) : Wired (step s (r.event i)) users := by
  by_cases hnobody : r.users = []
  · intro j c hc
    rw [socket_request i hnobody] at hc
    exact h j c hc
  · obtain ⟨user, rfl⟩ := exists_of_users_ne hnobody
    intro j c hc
    change (s.socket.modify i _).get? j = some c at hc
    rw [Table.get?_modify] at hc
    split_ifs at hc with hj
    · obtain ⟨c', hc', rfl⟩ := Option.map_eq_some_iff.mp hc
      exact ⟨(h j c' hc').1, hj ▸ hr (List.mem_singleton_self user)⟩
    · exact h j c hc

/-- The answers of the service, page by page, are copies. -/
lemma listed_getMessagesBefore {users : List AuthUser} {threadId : Id} (before : Option Time)
    (limit : ℕ) (h : MaySee s users threadId) :
    Listed s users threadId (getMessagesBefore threadId before limit s) := by
  have hrow : ∀ p ∈ getMessagesBefore threadId before limit s,
      p ∈ s.message.rows ∧ p.2.threadId = threadId := by
    intro p hp
    have htaken := List.mem_of_mem_take (List.mem_reverse.mp hp)
    obtain ⟨hrow, hq⟩ := List.mem_filter.mp ((mem_sortDesc _).mp htaken)
    exact ⟨hrow, (of_decide_eq_true hq).1⟩
  refine ⟨?_, fun p hp => ⟨(hrow p hp).2, ?_⟩, fun _ => h⟩
  · rw [getMessagesBefore, List.map_reverse, List.nodup_reverse, List.map_take]
    refine List.Nodup.sublist (List.take_sublist _ _) ?_
    have hperm := List.perm_insertionSort (fun a b : Id × Message => createdAt b ≤ createdAt a)
      (s.message.rows.filter fun p => p.2.threadId = threadId ∧ p.2.deleted = false ∧
        before.all fun before => p.2.createdAt < before)
    exact ((hperm.map Prod.fst).nodup_iff).mpr
      (s.message.nodup.sublist (List.filter_sublist.map Prod.fst))
  · exact ⟨p.2.status, p.2.deleted, s.message.mem_rows_iff.mp (hrow p hp).1, le_rfl⟩

/-- A tab changes, and nobody who has used it is forgotten. -/
lemma Network.Sound.updateTab (h : n.Sound) (i : Id) {f : Tab → Tab}
    (hf : (f (n.tab i)).Sound n.service) (husers : (n.tab i).users ⊆ (f (n.tab i)).users) :
    (n.updateTab i f).Sound := by
  refine ⟨h.wired.mono fun j => ?_, fun j => ?_⟩
  · show (n.tab j).users ⊆ (Function.update n.tab i _ j).users
    rcases eq_or_ne j i with rfl | hne
    · rw [Function.update_self]
      exact husers
    · rw [Function.update_of_ne hne]
      exact List.Subset.refl _
  · show (Function.update n.tab i _ j).Sound n.service
    rcases eq_or_ne j i with rfl | hne
    · rw [Function.update_self]
      exact hf
    · rw [Function.update_of_ne hne]
      exact h.tabs j

/-- The service goes forward, and the tabs stay as they are. -/
lemma Network.Sound.advance (h : n.Sound) {s' : Service} (hs : n.service.Leads s')
    (hsocket : s'.socket = n.service.socket) : ({ n with service := s' } : Network).Sound where
  wired i c hc := h.wired i c (hsocket ▸ hc)
  tabs i := (h.tabs i).later hs (List.Subset.refl _) rfl rfl rfl

lemma Network.Sound.handle (h : n.Sound) {e : Event}
    (hwired : Wired (step n.service e) fun i => (n.tab i).users) : (n.handle e).Sound := by
  refine ⟨hwired, fun i => ?_⟩
  have hleads := leads_step n.service e
  have husers := List.Subset.refl (n.tab i).users
  refine ⟨fun threadId => ((h.tabs i).view threadId).later hleads husers, fun push hpush => ?_,
    fun page hpage => ((h.tabs i).pages page hpage).later hleads husers⟩
  rcases List.mem_append.mp hpush with hold | hnew
  · exact ((h.tabs i).inbox push hold).later hleads husers
  · obtain ⟨q, hq, rfl⟩ := List.mem_map.mp hnew
    obtain ⟨hq, hi⟩ := List.mem_filter.mp hq
    have hsound := sound_pushes h.wired hq
    rwa [of_decide_eq_true hi] at hsound

lemma sound_default (s : Service) : ({} : Tab).Sound s :=
  ⟨fun _ => .nil, fun _ h => absurd h List.not_mem_nil, fun _ h => absurd h List.not_mem_nil⟩

lemma Network.Sound.connect (h : n.Sound) (previous : Option Id) (user : AuthUser) :
    (n.act (.connect previous user)).Sound := by
  have hbefore : ((previous.map n.tab).getD {}).Sound n.service := by
    cases previous with
    | none => exact sound_default _
    | some j => exact h.tabs j
  have hleads := leads_step n.service (.connect user)
  refine ⟨fun j c hc => ?_, fun j => ?_⟩
  · change (n.service.socket.insert _).get? j = some c at hc
    show c.user ∈ (Function.update n.tab n.service.socket.next _ j).users ∧
      c.authenticated ∈ (Function.update n.tab n.service.socket.next _ j).users
    rw [Table.get?_insert] at hc
    split_ifs at hc with hj
    · cases hc
      rw [hj, Function.update_self]
      have hmem := List.mem_append_right ((previous.map n.tab).getD {}).users
        (List.mem_singleton_self user)
      exact ⟨hmem, hmem⟩
    · rw [Function.update_of_ne hj]
      exact h.wired j c hc
  · show (Function.update n.tab n.service.socket.next _ j).Sound (step n.service (.connect user))
    rcases eq_or_ne j n.service.socket.next with rfl | hne
    · rw [Function.update_self]
      have husers := List.subset_append_left ((previous.map n.tab).getD {}).users [user]
      exact ⟨fun threadId => (hbefore.view threadId).later hleads husers,
        fun _ hpush => absurd hpush List.not_mem_nil,
        fun page hpage => (hbefore.pages page hpage).later hleads husers⟩
    · rw [Function.update_of_ne hne]
      exact (h.tabs j).later hleads (List.Subset.refl _) rfl rfl rfl

lemma Network.Sound.disconnect (h : n.Sound) (i : Id) : (n.act (.disconnect i)).Sound := by
  have hleads := leads_step n.service (.disconnect i)
  refine ⟨fun j c hc => ?_, fun j => ?_⟩
  · change (n.service.socket.erase i).get? j = some c at hc
    rw [Table.get?_erase] at hc
    split_ifs at hc with hj
    show c.user ∈ (Function.update n.tab i _ j).users ∧
      c.authenticated ∈ (Function.update n.tab i _ j).users
    rw [Function.update_of_ne hj]
    exact h.wired j c hc
  · show (Function.update n.tab i _ j).Sound (step n.service (.disconnect i))
    have htab := (h.tabs j).later hleads (List.Subset.refl _) rfl rfl rfl
    rcases eq_or_ne j i with rfl | hne
    · rw [Function.update_self]
      exact ⟨htab.view, fun _ hpush => absurd hpush List.not_mem_nil, htab.pages⟩
    · rw [Function.update_of_ne hne]
      exact htab

/-- **Every action keeps the network sound.** -/
theorem Network.Sound.act (h : n.Sound) (a : Action) : (n.act a).Sound := by
  cases a with
  | connect previous user => exact h.connect previous user
  | disconnect i => exact h.disconnect i
  | request i r =>
    have husers := List.subset_append_left (n.tab i).users r.users
    have hupdated := h.updateTab i (f := fun t => { t with users := t.users ++ r.users })
      ((h.tabs i).later (.refl _) husers rfl rfl rfl) husers
    refine hupdated.handle (wired_request hupdated.wired i ?_)
    show r.users ⊆ (Function.update n.tab i _ i).users
    rw [Function.update_self]
    exact List.subset_append_right (n.tab i).users r.users
  | receive i =>
    refine h.updateTab i (f := Tab.receive) (h.tabs i).receive ?_
    rw [Tab.users_receive]
    exact List.Subset.refl _
  | getMessages i user threadId before limit =>
    rw [Network.act]
    rcases hthread : n.service.thread.get? threadId with _ | thread
    · exact h
    dsimp only
    split_ifs with hallowed
    · have husers := List.subset_append_left (n.tab i).users [user]
      have htab : ({ n.tab i with users := (n.tab i).users ++ [user] } : Tab).Sound n.service :=
        (h.tabs i).later (.refl n.service) husers rfl rfl rfl
      refine h.updateTab i ⟨htab.view, htab.inbox, fun page hpage => ?_⟩ husers
      rcases List.mem_append.mp hpage with hold | hnew
      · exact htab.pages page hold
      · rw [List.mem_singleton.mp hnew]
        refine listed_getMessagesBefore before limit ⟨thread, hthread, user,
          List.mem_append_right _ (List.mem_singleton_self user), ?_⟩
        rcases hallowed with hparticipant | hadmin
        · rw [isParticipant, Bool.or_eq_true] at hparticipant
          exact Or.inr (hparticipant.imp (fun hA => (of_decide_eq_true hA).1)
            fun hB => (of_decide_eq_true hB).1)
        · exact Or.inl hadmin
    · exact h
  | loadMessages i k =>
    refine h.updateTab i (f := Tab.loadMessages k) ((h.tabs i).loadMessages k) ?_
    rw [Tab.users_loadMessages]
    exact List.Subset.refl _
  | createThread user participantB =>
    rw [Network.act]
    split_ifs
    · exact h
    · exact h.advance (leads_insertThread _ _) rfl
  | markAsRead threadId userId =>
    exact h.advance (leads_markAsRead threadId userId n.service)
      (socket_markAsRead threadId userId n.service)
  | deleteMessage messageId userId =>
    rw [Network.act, store]
    rcases hdelete : softDeleteMessage messageId userId n.service with e | s'
    · exact h.advance (.refl _) rfl
    · exact h.advance (leads_softDelete hdelete) (socket_softDelete hdelete)

/-- The service before anybody has connected. -/
def Network.start (s : Service) : Network := { service := { s with socket := .empty } }

lemma sound_start (s : Service) : (Network.start s).Sound :=
  ⟨fun _ _ hc => (nomatch hc), fun _ => sound_default _⟩

/-- **What a tab shows is faithful**, whatever is on the way and however late it arrives: it shows
each message once and under its thread; the service has the message, with a status that is no
earlier; and somebody who has used the tab takes part in the thread, or is an administrator. -/
theorem views_faithful (s : Service) (as : List Action) (i threadId : Id) :
    (((runFrom Network.act (.start s) as).tab i).view threadId |>.map Prod.fst).Nodup ∧
    ∀ p ∈ ((runFrom Network.act (.start s) as).tab i).view threadId,
      p.2.threadId = threadId ∧ IsCopy (runFrom Network.act (.start s) as).service p ∧
      MaySee (runFrom Network.act (.start s) as).service
        ((runFrom Network.act (.start s) as).tab i).users threadId := by
  have hsound : (runFrom Network.act (.start s) as).Sound :=
    (invariant (fun _ a h => h.act a) (sound_start s) as).last
  have hview := (hsound.tabs i).view threadId
  exact ⟨hview.once, fun p hp => ⟨(hview.copies p hp).1, (hview.copies p hp).2,
    hview.seen (List.ne_nil_of_mem hp)⟩⟩

end Network

end Chat

end Asoju.FieldForce
