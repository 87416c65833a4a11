/-
What a tab hears of.

The service stores a message and sends it to the sockets of the recipient in one step, and a tab
takes what its socket has been sent in order.  So from the moment in which it connects, a tab has
heard of every message that is addressed to its user, in the order in which they were stored:
either it shows the message, or the message is on the way.  This holds as long as the tab is left
alone: a page that arrives late takes back what has come in between.
-/
import Asoju.FieldForce.ChatCopies

namespace Asoju.FieldForce

open Lib

namespace Chat

/-! ## What has been heard of -/

/-- The message that a push brings to the thread. -/
def Push.news (threadId : Id) : Push → Option Id
  | .messageNew p => if p.2.threadId = threadId then some p.1 else none
  | _ => none

/-- The messages of a thread that a tab shows, and then those that are on the way to it. -/
def Tab.heard (t : Tab) (threadId : Id) : List Id :=
  (t.view threadId).map Prod.fst ++ t.inbox.filterMap (Push.news threadId)

/-- The action neither disconnects the tab nor lets a page arrive in it, and authenticates nobody
there. -/
def LeavesAlone (i : Id) : Action → Prop
  | .disconnect j => j ≠ i
  | .request j r => j = i → r.users = []
  | .loadMessages j _ => j ≠ i
  | _ => True

/-- The tab is connected for the user and has heard of his messages from `first` on, in order. -/
structure Hears (first : Id) (userId : String) (i : Id) (n : Network) : Prop where
  sound : n.Sound
  online : ∃ c, n.service.socket.get? i = some c ∧ c.authenticated.userId = userId
  order : ∀ threadId, ((n.tab i).heard threadId).Pairwise (· ≤ ·)
  once : ∀ threadId, (((n.tab i).view threadId).map Prod.fst).Pairwise (· < ·)
  complete : ∀ j m, first ≤ j → n.service.message.get? j = some m → ∃ thread,
    n.service.thread.get? m.threadId = some thread ∧ ∀ recipient,
      getRecipient thread m.senderId = some recipient → recipient.id = userId →
      j ∈ (n.tab i).heard m.threadId

section Hears

variable {s s' : Service} {n n' : Network} {first i : Id} {userId : String}

lemma getRecipient_congr {thread thread' : Thread} (h : thread'.parties = thread.parties)
    (senderId : String) : getRecipient thread' senderId = getRecipient thread senderId := by
  rw [Thread.parties, Thread.parties, Prod.mk.injEq] at h
  rw [getRecipient, getRecipient, h.1, h.2]

/-- What a tab has heard of is stored. -/
lemma Tab.Sound.lt_next {t : Tab} (h : t.Sound s) {threadId j : Id}
    (hj : j ∈ t.heard threadId) : j < s.message.next := by
  have hcopy : ∀ p, IsCopy s p → p.1 < s.message.next := by
    rintro p ⟨_, _, hp, -⟩
    exact s.message.lt_next_of_get? hp
  rcases List.mem_append.mp hj with hview | hinbox
  · obtain ⟨p, hp, rfl⟩ := List.mem_map.mp hview
    exact hcopy p ((h.view threadId).copies p hp).2
  · obtain ⟨push, hpush, hnews⟩ := List.mem_filterMap.mp hinbox
    have hsound := h.inbox push hpush
    cases push with
    | messageNew p =>
      rw [Push.news] at hnews
      split_ifs at hnews
      cases hnews
      exact hcopy p hsound.1
    | messageStatus _ _ _ => cases hnews
    | messageDeleted _ _ => cases hnews

/-! ### Taking a push -/

lemma Tab.receive_nil {t : Tab} (hinbox : t.inbox = []) : t.receive = t := by
  rw [Tab.receive, hinbox]

lemma Tab.receive_cons {t : Tab} {push : Push} {inbox : List Push}
    (hinbox : t.inbox = push :: inbox) :
    t.receive = { t with inbox, view := t.view.receive push } := by
  rw [Tab.receive, hinbox]

lemma view_receive_map (view : View) {push : Push} (hpush : ∀ p, push ≠ .messageNew p)
    (threadId : Id) : (view.receive push threadId).map Prod.fst = (view threadId).map Prod.fst := by
  have hmap : ∀ (f : Id × Message → Id × Message) (t : Id), (∀ p, (f p).1 = p.1) →
      (Function.update view t ((view t).map f) threadId).map Prod.fst =
        (view threadId).map Prod.fst := by
    intro f t hf
    rcases eq_or_ne threadId t with rfl | hne
    · rw [Function.update_self, List.map_map]
      exact List.map_congr_left fun p _ => hf p
    · rw [Function.update_of_ne hne]
  cases push with
  | messageNew p => exact absurd rfl (hpush p)
  | messageStatus t messageIds status =>
    refine hmap _ t fun p => ?_
    split_ifs <;> rfl
  | messageDeleted t messageId =>
    cases t with
    | none => rfl
    | some t =>
      refine hmap _ t fun p => ?_
      split_ifs <;> rfl

/-- The list of a thread after a message has come, which is shown if it is not there yet. -/
lemma view_receive_messageNew (view : View) (p : Id × Message) :
    (p.1 ∈ (view p.2.threadId).map Prod.fst ∧ view.receive (.messageNew p) = view) ∨
      (p.1 ∉ (view p.2.threadId).map Prod.fst ∧ view.receive (.messageNew p) =
        Function.update view p.2.threadId (view p.2.threadId ++ [p])) := by
  rw [View.receive]
  split_ifs with hknown
  · obtain ⟨q, hq, hid⟩ := List.any_eq_true.mp hknown
    exact Or.inl ⟨of_decide_eq_true hid ▸ List.mem_map_of_mem hq, rfl⟩
  · refine Or.inr ⟨fun hmem => hknown ?_, rfl⟩
    obtain ⟨q, hq, hid⟩ := List.mem_map.mp hmem
    exact List.any_eq_true.mpr ⟨q, hq, decide_eq_true hid⟩

/-- What holds of a tab that has taken a push. -/
structure Takes (t t' : Tab) (threadId : Id) : Prop where
  sublist : (t'.heard threadId).Sublist (t.heard threadId)
  subset : t.heard threadId ⊆ t'.heard threadId
  once : ((t'.view threadId).map Prod.fst).Pairwise (· < ·)

lemma Takes.of_eq {t t' : Tab} {threadId : Id}
    (honce : ((t.view threadId).map Prod.fst).Pairwise (· < ·))
    (hview : (t'.view threadId).map Prod.fst = (t.view threadId).map Prod.fst)
    (hnews : t'.inbox.filterMap (Push.news threadId) = t.inbox.filterMap (Push.news threadId)) :
    Takes t t' threadId := by
  have hheard : t'.heard threadId = t.heard threadId := by rw [Tab.heard, Tab.heard, hview, hnews]
  exact ⟨hheard ▸ List.Sublist.refl _, hheard ▸ List.Subset.refl _, hview ▸ honce⟩

/-- A tab that takes a push hears of nothing new, and shows each message once. -/
lemma takes_receive {t : Tab} {threadId : Id} (horder : (t.heard threadId).Pairwise (· ≤ ·))
    (honce : ((t.view threadId).map Prod.fst).Pairwise (· < ·)) :
    Takes t t.receive threadId := by
  cases hinbox : t.inbox with
  | nil =>
    rw [Tab.receive_nil hinbox]
    exact .of_eq honce rfl rfl
  | cons push inbox =>
    rw [Tab.receive_cons hinbox]
    by_cases hnew : ∀ p, push ≠ .messageNew p
    · have hnews : push.news threadId = none := by
        cases push with
        | messageNew p => exact absurd rfl (hnew p)
        | messageStatus _ _ _ => rfl
        | messageDeleted _ _ => rfl
      refine .of_eq honce (view_receive_map t.view hnew threadId) ?_
      rw [hinbox, List.filterMap_cons_none hnews]
    · push Not at hnew
      obtain ⟨p, rfl⟩ := hnew
      by_cases hthread : p.2.threadId = threadId
      · subst hthread
        have hnews : (Push.messageNew p).news p.2.threadId = some p.1 := if_pos rfl
        have hheard : t.heard p.2.threadId = (t.view p.2.threadId).map Prod.fst ++
            p.1 :: inbox.filterMap (Push.news p.2.threadId) := by
          rw [Tab.heard, hinbox, List.filterMap_cons_some hnews]
        rcases view_receive_messageNew t.view p with ⟨hknown, hview⟩ | ⟨hknown, hview⟩
        · -- It has been there already.
          rw [hview]
          refine ⟨?_, fun j hj => ?_, honce⟩
          · rw [hheard]
            exact List.Sublist.append_left (List.sublist_cons_self _ _) _
          · rw [hheard] at hj
            rcases List.mem_append.mp hj with hj | hj
            · exact List.mem_append_left _ hj
            · rcases List.mem_cons.mp hj with rfl | hj
              · exact List.mem_append_left _ hknown
              · exact List.mem_append_right _ hj
        · -- It comes last, as it has been stored last.
          have hview' : (t.view.receive (.messageNew p) p.2.threadId).map Prod.fst =
              (t.view p.2.threadId).map Prod.fst ++ [p.1] := by
            rw [hview, Function.update_self, List.map_append, List.map_singleton]
          have hheard' : Tab.heard { t with inbox, view := t.view.receive (.messageNew p) }
              p.2.threadId = t.heard p.2.threadId := by
            rw [hheard, Tab.heard]
            show (t.view.receive (.messageNew p) p.2.threadId).map Prod.fst ++ _ = _
            rw [hview', List.append_assoc, List.singleton_append]
          refine ⟨hheard' ▸ List.Sublist.refl _, hheard' ▸ List.Subset.refl _, ?_⟩
          show ((t.view.receive (.messageNew p) p.2.threadId).map Prod.fst).Pairwise (· < ·)
          rw [hview', List.pairwise_append]
          refine ⟨honce, List.pairwise_singleton _ _, fun j hj k hk => ?_⟩
          rw [List.mem_singleton] at hk
          rw [hheard, List.pairwise_append] at horder
          have hle : j ≤ p.1 := horder.2.2 j hj p.1 List.mem_cons_self
          rw [hk]
          exact lt_of_le_of_ne hle fun heq => hknown (heq ▸ hj)
      · have hnews : (Push.messageNew p).news threadId = none := if_neg hthread
        refine .of_eq honce ?_ ?_
        · show (t.view.receive (.messageNew p) threadId).map Prod.fst = _
          rcases view_receive_messageNew t.view p with ⟨-, hview⟩ | ⟨-, hview⟩
          · rw [hview]
          · rw [hview, Function.update_of_ne fun heq => hthread heq.symm]
        · rw [hinbox, List.filterMap_cons_none hnews]

/-- Nothing is stored, and the tab takes what it has heard of. -/
lemma Hears.of_takes (h : Hears first userId i n) (hsound : n'.Sound)
    (hleads : n.service.Leads n'.service)
    (hnone : ∀ j, n.service.message.get? j = none → n'.service.message.get? j = none)
    (honline : ∃ c, n'.service.socket.get? i = some c ∧ c.authenticated.userId = userId)
    (htakes : ∀ threadId, Takes (n.tab i) (n'.tab i) threadId) : Hears first userId i n' := by
  refine ⟨hsound, honline, fun t => (h.order t).sublist (htakes t).sublist,
    fun t => (htakes t).once, fun j m hj hm => ?_⟩
  cases hold : n.service.message.get? j with
  | none =>
    rw [hnone j hold] at hm
    cases hm
  | some m₀ =>
    obtain ⟨status, deleted, hm', -⟩ := hleads.message j m₀ hold
    rw [hm, Option.some.injEq] at hm'
    obtain ⟨thread, hthread, hheard⟩ := h.complete j m₀ hj hold
    obtain ⟨thread', hthread', hparties⟩ := hleads.thread _ _ hthread
    rw [hm']
    refine ⟨thread', hthread', fun recipient hrecipient huser => ?_⟩
    rw [getRecipient_congr hparties] at hrecipient
    exact (htakes _).subset (hheard recipient hrecipient huser)

/-- The tab has stayed as it was. -/
lemma Hears.of_eq (h : Hears first userId i n) (hsound : n'.Sound)
    (hleads : n.service.Leads n'.service)
    (hnone : ∀ j, n.service.message.get? j = none → n'.service.message.get? j = none)
    (honline : ∃ c, n'.service.socket.get? i = some c ∧ c.authenticated.userId = userId)
    (hview : (n'.tab i).view = (n.tab i).view) (hinbox : (n'.tab i).inbox = (n.tab i).inbox) :
    Hears first userId i n' :=
  h.of_takes hsound hleads hnone honline fun t =>
    .of_eq (h.once t) (by rw [hview]) (by rw [hinbox])

/-! ### Sending a message -/

/-- The event sends a message that is stored. -/
structure Sends (s : Service) (e : Event) (c : Connection) (socketId : Id) (data : SendData)
    (now : Time) (thread : Thread) (recipient : Participant) : Prop where
  event : e = .messageSend socketId data now
  connected : s.socket.get? socketId = some c
  accepted : Accepted s c.user data thread recipient

/-- No other event stores one. -/
lemma none_step {e : Event} (h : ∀ c socketId data now thread recipient,
      ¬ Sends s e c socketId data now thread recipient) {j : Id}
    (hj : s.message.get? j = none) : (step s e).message.get? j = none := by
  have hhandle : ∀ {socketId : Id} {f : AuthUser → Service → Response × Service},
      (∀ user, Marks (fun _ => True) s (f user s).2) →
        (s.handle socketId f).message.get? j = none := by
    intro socketId f hf
    rw [Service.handle]
    cases s.socket.get? socketId with
    | none => exact hj
    | some c => exact (hf c.user).none j hj
  cases e with
  | connect user => exact hj
  | auth socketId verifiedUser => cases verifiedUser <;> exact hj
  | disconnect socketId => exact hj
  | threadJoin socketId threadId =>
    exact hhandle (f := fun user => threadJoin user threadId) fun _ => marks_threadJoin
  | messageSend socketId data now =>
    rw [step, Service.handle]
    cases hc : s.socket.get? socketId with
    | none => exact hj
    | some c =>
      show (messageSend c.user data now s).2.message.get? j = none
      rcases messageSend_cases c.user data now s with hsame | ⟨thread, recipient, haccepted, -⟩
      · rw [hsame]
        exact hj
      · exact absurd ⟨rfl, hc, haccepted⟩ (h c socketId data now thread recipient)
  | messageDelete socketId messageId threadId =>
    exact hhandle (f := fun user => messageDelete user messageId threadId)
      fun _ => marks_messageDelete messageId
  | messageRead socketId threadId messageIds =>
    refine hhandle (f := fun user => messageRead user threadId messageIds) fun user => ?_
    exact marks_messageRead steady_true (fun _ _ _ _ _ _ => trivial)
      fun _ _ _ _ _ _ _ _ _ => trivial
  | messageDelivered socketId threadId messageIds =>
    exact hhandle (f := fun user => messageDelivered user threadId messageIds)
      fun _ => marks_messageDelivered messageIds

/-- The only message that can be news is the one that is being stored. -/
lemma sends_of_news {rooms : List (Id × Id)} {e : Event} {q : Id × Push}
    (hq : q ∈ pushes rooms s e) {threadId j : Id} (hnews : q.2.news threadId = some j) :
    ∃ c socketId data now thread recipient, Sends s e c socketId data now thread recipient ∧
      q.2 = .messageNew (s.message.next, newMessage c.user recipient data now) := by
  have htell : ∀ {t : Id} {sent : List (Id × Message)}, q ∉ tellSenders t sent s := by
    intro t sent hq
    obtain ⟨ids, -, heq⟩ := of_mem_tellSenders hq
    rw [heq] at hnews
    cases hnews
  cases e with
  | connect user => exact absurd hq List.not_mem_nil
  | auth socketId verifiedUser => exact absurd hq List.not_mem_nil
  | disconnect socketId => exact absurd hq List.not_mem_nil
  | threadJoin socketId t =>
    rw [pushes] at hq
    obtain ⟨c, -, hq⟩ := of_mem_handledPushes hq
    obtain ⟨thread, -, -, hq⟩ := of_mem_pushesAsParticipant hq
    cases hrecipient : getRecipient thread c.user.userId with
    | none =>
      rw [hrecipient] at hq
      exact absurd hq List.not_mem_nil
    | some recipient =>
      rw [hrecipient] at hq
      exact absurd hq htell
  | messageSend socketId data now =>
    rw [pushes] at hq
    obtain ⟨c, hc, hq⟩ := of_mem_handledPushes hq
    obtain ⟨thread, recipient, haccepted⟩ := accepted_of_mem hq
    refine ⟨c, socketId, data, now, thread, recipient, ⟨rfl, hc, haccepted⟩, ?_⟩
    rcases (messageSendPushes_of_accepted haccepted q).mp hq with ⟨heq, -⟩ | ⟨rfl, -⟩
    · exact heq
    · cases hnews
  | messageDelete socketId messageId t =>
    rw [pushes] at hq
    obtain ⟨c, -, hq⟩ := of_mem_handledPushes hq
    obtain ⟨thread, -, -, hq⟩ := of_mem_pushesAsParticipant hq
    rcases hdelete : softDeleteMessage messageId c.user.userId s with e | s'
    · rw [hdelete] at hq
      exact absurd hq List.not_mem_nil
    · rw [hdelete] at hq
      obtain ⟨_, -, rfl⟩ := List.mem_map.mp hq
      cases hnews
  | messageRead socketId t messageIds =>
    rw [pushes] at hq
    obtain ⟨c, -, hq⟩ := of_mem_handledPushes hq
    obtain ⟨thread, -, -, hq⟩ := of_mem_pushesAsParticipant hq
    cases hrecipient : getRecipient thread c.user.userId with
    | none =>
      rw [hrecipient] at hq
      exact absurd hq List.not_mem_nil
    | some recipient =>
      rw [hrecipient] at hq
      dsimp only at hq
      split_ifs at hq
      · exact absurd hq List.not_mem_nil
      · obtain ⟨_, -, rfl⟩ := List.mem_map.mp hq
        cases hnews
  | messageDelivered socketId t messageIds =>
    rw [pushes] at hq
    obtain ⟨c, -, hq⟩ := of_mem_handledPushes hq
    obtain ⟨thread, -, -, hq⟩ := of_mem_pushesAsParticipant hq
    exact absurd hq htell

/-- The news that an event adds to what a tab has heard of a thread. -/
def news (n : Network) (e : Event) (i threadId : Id) : List Id :=
  (((pushes n.rooms n.service e).filter fun q => q.1 = i).map Prod.snd).filterMap
    (Push.news threadId)

lemma heard_handle (e : Event) (threadId : Id) :
    ((n.handle e).tab i).heard threadId = (n.tab i).heard threadId ++ news n e i threadId := by
  show List.map _ _ ++ List.filterMap _ (_ ++ _) = _
  rw [List.filterMap_append, ← List.append_assoc]
  rfl

lemma mem_news {e : Event} {threadId j : Id} : j ∈ news n e i threadId ↔
    ∃ push, (i, push) ∈ pushes n.rooms n.service e ∧ push.news threadId = some j := by
  rw [news, List.mem_filterMap]
  constructor
  · rintro ⟨_, hpush, hj⟩
    obtain ⟨⟨k, push⟩, hq, rfl⟩ := List.mem_map.mp hpush
    obtain ⟨hsent, hk⟩ := List.mem_filter.mp hq
    obtain rfl : k = i := of_decide_eq_true hk
    exact ⟨push, hsent, hj⟩
  · rintro ⟨push, hpush, hj⟩
    exact ⟨push, List.mem_map.mpr ⟨_, List.mem_filter.mpr ⟨hpush, decide_eq_true rfl⟩, rfl⟩, hj⟩

/-- An event that stores nothing brings no news. -/
lemma Hears.handle_quiet (h : Hears first userId i n) {e : Event} (hsound : (n.handle e).Sound)
    (honline : ∃ c, (step n.service e).socket.get? i = some c ∧
      c.authenticated.userId = userId)
    (hquiet : ∀ c socketId data now thread recipient,
      ¬ Sends n.service e c socketId data now thread recipient) :
    Hears first userId i (n.handle e) := by
  refine h.of_takes hsound (leads_step n.service e) (fun j => none_step hquiet) honline
    fun threadId => ?_
  have hnone : news n e i threadId = [] := by
    rw [List.eq_nil_iff_forall_not_mem]
    intro j hj
    obtain ⟨push, hpush, hnews⟩ := mem_news.mp hj
    obtain ⟨c, socketId, data, now, thread, recipient, hsends, -⟩ := sends_of_news hpush hnews
    exact hquiet c socketId data now thread recipient hsends
  have hheard := heard_handle (n := n) (i := i) e threadId
  rw [hnone, List.append_nil] at hheard
  exact ⟨hheard ▸ List.Sublist.refl _, hheard ▸ List.Subset.refl _, h.once threadId⟩

/-- A message that is stored is the last one that the tab has heard of, if it is addressed to the
user. -/
lemma Hears.handle_sends (h : Hears first userId i n) {e : Event} (hsound : (n.handle e).Sound)
    (honline : ∃ c, (step n.service e).socket.get? i = some c ∧
      c.authenticated.userId = userId)
    {c : Connection} {socketId : Id} {data : SendData} {now : Time} {thread : Thread}
    {recipient : Participant} (hsends : Sends n.service e c socketId data now thread recipient) :
    Hears first userId i (n.handle e) := by
  obtain ⟨rfl, hc, haccepted⟩ := hsends
  have hleads := leads_step n.service (.messageSend socketId data now)
  obtain ⟨status, -, hget⟩ : Stores (newMessage c.user recipient data now) n.service
      (n.handle (.messageSend socketId data now)).service := by
    show Stores _ _ (n.service.handle socketId _)
    rw [Service.handle, hc]
    exact messageSend_of_accepted now haccepted
  refine ⟨hsound, honline, fun t => ?_, h.once, fun j m hj hm => ?_⟩
  · rw [heard_handle, List.pairwise_append]
    have hnext : ∀ k ∈ news n (.messageSend socketId data now) i t,
        k = n.service.message.next := by
      intro k hk
      obtain ⟨push, hpush, hnews⟩ := mem_news.mp hk
      obtain ⟨_, _, _, _, _, _, -, rfl⟩ := sends_of_news hpush hnews
      rw [Push.news] at hnews
      split_ifs at hnews
      exact (Option.some.inj hnews).symm
    refine ⟨h.order t, ?_, fun j hj k hk => ?_⟩
    · refine List.pairwise_of_forall_mem_list fun k hk l hl => ?_
      rw [hnext k hk, hnext l hl]
    · rw [hnext k hk]
      exact ((h.sound.tabs i).lt_next hj).le
  · rw [hget] at hm
    split_ifs at hm with hnew
    · -- The message is the new one.
      cases hm
      obtain ⟨thread', hthread', hparties⟩ := hleads.thread _ _ haccepted.found
      refine ⟨thread', hthread', fun recipient' hrecipient huser => ?_⟩
      rw [getRecipient_congr hparties] at hrecipient
      obtain rfl : recipient = recipient' := by
        have haddressed := haccepted.addressed
        rw [show c.user.userId = (newMessage c.user recipient data now).senderId from rfl,
          hrecipient] at haddressed
        exact (Option.some.inj haddressed).symm
      obtain ⟨d, hd, hdu⟩ := h.online
      rw [heard_handle, hnew]
      refine List.mem_append_right _ (mem_news.mpr ⟨.messageNew (n.service.message.next,
        newMessage c.user recipient data now), ?_, if_pos rfl⟩)
      rw [pushes, handledPushes, hc]
      refine (messageSendPushes_of_accepted haccepted _).mpr (Or.inl ⟨rfl, Or.inl ?_⟩)
      exact mem_getSocketsForUser.mpr ⟨d, hd, hdu.trans huser.symm⟩
    · obtain ⟨thread₀, hthread, hheard⟩ := h.complete j m hj hm
      obtain ⟨thread', hthread', hparties⟩ := hleads.thread _ _ hthread
      refine ⟨thread', hthread', fun recipient' hrecipient huser => ?_⟩
      rw [getRecipient_congr hparties] at hrecipient
      rw [heard_handle]
      exact List.mem_append_left _ (hheard recipient' hrecipient huser)

lemma Hears.handle (h : Hears first userId i n) {e : Event} (hsound : (n.handle e).Sound)
    (honline : ∃ c, (step n.service e).socket.get? i = some c ∧
      c.authenticated.userId = userId) : Hears first userId i (n.handle e) := by
  by_cases hsends : ∃ c socketId data now thread recipient,
      Sends n.service e c socketId data now thread recipient
  · obtain ⟨c, socketId, data, now, thread, recipient, hsends⟩ := hsends
    exact h.handle_sends hsound honline hsends
  · push Not at hsends
    exact h.handle_quiet hsound honline hsends

/-! ### Runs -/

/-- A request that authenticates nobody at a socket leaves it as it is. -/
lemma get?_socket_request {i j : Id} {r : Request} (hr : j = i → r.users = []) (s : Service) :
    (step s (r.event j)).socket.get? i = s.socket.get? i := by
  by_cases hnobody : r.users = []
  · rw [socket_request j hnobody]
  · obtain ⟨user, rfl⟩ := exists_of_users_ne hnobody
    exact (Table.get?_modify ..).trans (if_neg fun heq => hnobody (hr heq.symm))

lemma none_softDelete {messageId : Id} {sender : String} {j : Id}
    (h : softDeleteMessage messageId sender s = .ok s') (hj : s.message.get? j = none) :
    s'.message.get? j = none := by
  rw [softDeleteMessage] at h
  cases hm : s.message.get? messageId with
  | none =>
    rw [hm] at h
    cases h
  | some m =>
    rw [hm] at h
    dsimp only at h
    split_ifs at h
    cases h
    show (s.message.modify messageId _).get? j = none
    rw [Table.get?_modify, hj, Option.map_none, ite_self]

/-- **A tab that is left alone goes on to hear of everything.** -/
theorem Hears.act (h : Hears first userId i n) {a : Action} (ha : LeavesAlone i a) :
    Hears first userId i (n.act a) := by
  have hsound := h.sound.act a
  obtain ⟨c, hc, huser⟩ := h.online
  have hne : i ≠ n.service.socket.next := Nat.ne_of_lt (n.service.socket.lt_next_of_get? hc)
  cases a with
  | connect previous user =>
    refine h.of_eq hsound (leads_step n.service (.connect user)) (fun _ hj => hj)
      ⟨c, Table.get?_insert_of_some hc _, huser⟩ ?_ ?_
    · exact congrArg Tab.view (Function.update_of_ne hne _ _)
    · exact congrArg Tab.inbox (Function.update_of_ne hne _ _)
  | disconnect j =>
    have hij : i ≠ j := Ne.symm ha
    refine h.of_eq hsound (leads_step n.service (.disconnect j)) (fun _ hj => hj)
      ⟨c, ?_, huser⟩ ?_ ?_
    · exact (Table.get?_erase ..).trans ((if_neg hij).trans hc)
    · exact congrArg Tab.view (Function.update_of_ne hij _ _)
    · exact congrArg Tab.inbox (Function.update_of_ne hij _ _)
  | request j r =>
    -- Whoever the request names, the tab shows what it has shown, and its socket is the same.
    let n' := n.updateTab j fun t => { t with users := t.users ++ r.users }
    have htab : (n'.tab i).view = (n.tab i).view ∧ (n'.tab i).inbox = (n.tab i).inbox := by
      show (Function.update n.tab j _ i).view = _ ∧ (Function.update n.tab j _ i).inbox = _
      rcases eq_or_ne i j with rfl | hij
      · rw [Function.update_self]
        exact ⟨rfl, rfl⟩
      · rw [Function.update_of_ne hij]
        exact ⟨rfl, rfl⟩
    have husers := List.subset_append_left (n.tab j).users r.users
    have hsound' : n'.Sound := h.sound.updateTab j
      ((h.sound.tabs j).later (.refl _) husers rfl rfl rfl) husers
    have hn' : Hears first userId i n' :=
      h.of_eq hsound' (.refl _) (fun _ hj => hj) h.online htab.1 htab.2
    exact hn'.handle hsound ⟨c, (get?_socket_request ha n.service).trans hc, huser⟩
  | receive j =>
    refine h.of_takes hsound (.refl _) (fun _ hj => hj) h.online fun threadId => ?_
    show Takes (n.tab i) (Function.update n.tab j _ i) threadId
    rcases eq_or_ne i j with rfl | hij
    · rw [Function.update_self]
      exact takes_receive (h.order threadId) (h.once threadId)
    · rw [Function.update_of_ne hij]
      exact .of_eq (h.once threadId) rfl rfl
  | getMessages j user threadId before limit =>
    revert hsound
    rw [Network.act]
    rcases n.service.thread.get? threadId with _ | thread
    · exact fun _ => h
    dsimp only
    split_ifs
    · intro hsound
      refine h.of_takes hsound (.refl _) (fun _ hj => hj) h.online fun t => ?_
      show Takes (n.tab i) (Function.update n.tab j _ i) t
      rcases eq_or_ne i j with rfl | hij
      · rw [Function.update_self]
        exact .of_eq (h.once t) rfl rfl
      · rw [Function.update_of_ne hij]
        exact .of_eq (h.once t) rfl rfl
    · exact fun _ => h
  | loadMessages j k =>
    have hij : i ≠ j := Ne.symm ha
    refine h.of_eq hsound (.refl _) (fun _ hj => hj) ⟨c, hc, huser⟩ ?_ ?_
    · exact congrArg Tab.view (Function.update_of_ne hij _ _)
    · exact congrArg Tab.inbox (Function.update_of_ne hij _ _)
  | createThread user participantB =>
    revert hsound
    rw [Network.act]
    split_ifs
    · exact fun _ => h
    · exact fun hsound => h.of_eq hsound (leads_insertThread _ _) (fun _ hj => hj) h.online rfl rfl
  | markAsRead threadId reader =>
    refine h.of_eq hsound (leads_markAsRead threadId reader n.service) (fun j hj => ?_)
      ⟨c, ?_, huser⟩ rfl rfl
    · have hmarks : Marks (fun _ => True) n.service (markAsRead threadId reader n.service) :=
        marks_markAsRead fun _ _ _ => trivial
      exact hmarks.none j hj
    · exact (congrArg (·.get? i) (socket_markAsRead threadId reader n.service)).trans hc
  | deleteMessage messageId sender =>
    revert hsound
    rw [Network.act, store]
    rcases hdelete : softDeleteMessage messageId sender n.service with e | s'
    · exact fun hsound => h.of_eq hsound (.refl _) (fun _ hj => hj) h.online rfl rfl
    · refine fun hsound => h.of_eq hsound (leads_softDelete hdelete) (fun j hj => ?_)
        ⟨c, (congrArg (·.get? i) (socket_softDelete hdelete)).trans hc, huser⟩ rfl rfl
      exact none_softDelete hdelete hj

/-- A tab that has just connected has nothing to hear of yet. -/
lemma hears_connect (hsound : n.Sound) (user : AuthUser) :
    Hears n.service.message.next user.userId n.service.socket.next
      (n.act (.connect none user)) := by
  have htab : (n.act (.connect none user)).tab n.service.socket.next = { users := [user] } :=
    Function.update_self ..
  refine ⟨hsound.act _, ⟨⟨user, user⟩, Table.get?_insert_self .., rfl⟩, fun t => ?_, fun t => ?_,
    fun j m hj hm => ?_⟩
  · rw [htab]
    exact List.Pairwise.nil
  · rw [htab]
    exact List.Pairwise.nil
  · exact absurd (n.service.message.lt_next_of_get? hm) (not_lt.mpr hj)

/-- **Nothing is lost on the way, and nothing overtakes.**  A tab that has connected, and is left
alone since, has heard of all messages that have been stored since and are addressed to its user: it
shows them, or they are on the way.  It has heard of them in the order in which they were stored,
and shows none twice. -/
theorem heard_in_order (s : Service) (before after : List Action) (user : AuthUser)
    (hn : runFrom Network.act (.start s) before = n)
    (hafter : ∀ a ∈ after, LeavesAlone n.service.socket.next a)
    (hn' : runFrom Network.act (n.act (.connect none user)) after = n') (threadId : Id) :
    ((n'.tab n.service.socket.next).heard threadId).Pairwise (· ≤ ·) ∧
    (((n'.tab n.service.socket.next).view threadId).map Prod.fst).Pairwise (· < ·) ∧
    ∀ j m, n.service.message.next ≤ j → n'.service.message.get? j = some m →
      m.threadId = threadId → ∃ thread, n'.service.thread.get? threadId = some thread ∧
        ∀ recipient, getRecipient thread m.senderId = some recipient →
          recipient.id = user.userId → j ∈ (n'.tab n.service.socket.next).heard threadId := by
  have hsound : n.Sound := by
    rw [← hn]
    exact (invariant (fun _ a h => h.act a) (sound_start s) before).last
  have hhears : Hears n.service.message.next user.userId n.service.socket.next n' := by
    rw [← hn']
    exact (AllSteps.invariant (fun _ _ h ha => h.act ha) (hears_connect hsound user)
      (AllSteps.of_forall_mem (P := fun _ a => LeavesAlone n.service.socket.next a)
        (fun _ => hafter) _)).last
  refine ⟨hhears.order threadId, hhears.once threadId, fun j m hj hm hthread => ?_⟩
  subst hthread
  exact hhears.complete j m hj hm

end Hears

/-- An agent connects after the administrator, and sends a message. -/
def agentSends : List Action :=
  [.connect none ⟨"a", .agent, "Ada"⟩,
    .request 1 (.messageSend { threadId := 0, content := some "Hello" } 1)]

theorem agentSends_heard : 0 ∈
    ((runFrom Network.act ((Network.start oneThread).act (.connect none ⟨"b", .admin, "Ben"⟩))
      agentSends).tab 0).heard 0 := by
  have hafter : ∀ a ∈ agentSends, LeavesAlone 0 a := by
    rintro a (_ | ⟨_, _ | ⟨_, ha⟩⟩)
    · trivial
    · exact fun _ => rfl
    · cases ha
  obtain ⟨-, -, h⟩ :=
    heard_in_order oneThread [] agentSends ⟨"b", .admin, "Ben"⟩ rfl hafter rfl 0
  obtain ⟨thread, hthread, hheard⟩ := h 0 _ (Nat.zero_le _) rfl rfl
  cases hthread
  exact hheard _ rfl rfl

end Chat

end Asoju.FieldForce
