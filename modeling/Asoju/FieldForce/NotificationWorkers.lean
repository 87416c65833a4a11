/-
Many workers on the notifications.

A worker marks a notification QUEUED and writes the result of its request by plain updates, and what
is QUEUED may be selected again.  So two workers that have selected the same notification both send
it, and the later result overwrites the earlier one.  `not_resent` says that nothing of this happens
as long as each mark finds the notification as the worker has selected it, and in no other worker's
hands: then a notification is accepted once at most, it stays SENT, and its retries count the
attempts that have failed and are bounded, as the requests are.
-/
import Asoju.FieldForce.Notifications
import Asoju.Lib.ClientSteps
import Asoju.Lib.Window

namespace Asoju.FieldForce

open Lib

namespace WhatsAppGateway

/-! ## The calls -/

inductive Call
  | sendWhatsAppMessage (input : SendWhatsAppMessageInput) (now : Time)
  | processPendingNotifications (b : Batch)

/-- The program of a call, whose answer does not matter. -/
def code : Call → Work Unit
  | .sendWhatsAppMessage input now => do
      let _ ← WhatsAppGateway.sendWhatsAppMessage input now
  | .processPendingNotifications b => do
      let _ ← WhatsAppGateway.processPendingNotifications b

/-- What the request for a notification comes to in a call. -/
def Call.succeeds : Call → Id → Bool
  | .sendWhatsAppMessage _ _, _ => false
  | .processPendingNotifications b, i => (resultOf (b.response i)).success

/-- How far an attempt to send a notification has come. -/
inductive Attempt
  | marked
  | calling (callId : Id)
  | answered (success : Bool)
deriving DecidableEq, Repr

/-- How far a call has come.  A worker holds the notifications that it has selected and not yet
attempted to send. -/
inductive Stage
  | queueing
  | selecting (now : Time) (limit : ℕ)
  | holding (rows : List (Id × WhatsAppNotification))
  | attempting (a : Attempt) (i : Id) (n : WhatsAppNotification)
      (rows : List (Id × WhatsAppNotification))
  /-- The notification was not there. -/
  | lost

namespace Stage

/-- What a worker has selected, as it was then. -/
def held : Stage → List (Id × WhatsAppNotification)
  | holding rows => rows
  | attempting _ i n rows => (i, n) :: rows
  | _ => []

/-- The notification that a worker attempts to send. -/
def attempted : Stage → Option Id
  | attempting _ i _ _ => some i
  | _ => none

/-- The notification that a worker is about to mark. -/
def marks : Stage → Option (Id × WhatsAppNotification)
  | holding (q :: _) => some q
  | _ => none

/-- The stage that an action leads to. -/
def next (c : Call) (stage : Stage) (s : Store) : Stage :=
  match stage with
  | queueing => queueing
  | selecting now limit => holding (pending now limit s)
  | holding [] => holding []
  | holding ((i, n) :: rows) =>
      if (s.whatsAppNotification.get? i).isSome then attempting .marked i n rows else lost
  | attempting .marked i n rows => attempting (.calling s.apiCall.next) i n rows
  | attempting (.calling _) i n rows => attempting (.answered (c.succeeds i)) i n rows
  | attempting (.answered _) i _ rows =>
      if (s.whatsAppNotification.get? i).isSome then holding rows else lost
  | lost => lost

/-- What an action may do. -/
def allows (c : Call) (stage : Stage) (s s' : Store) : Prop :=
  match stage with
  | queueing => ∃ input now, s' = notifications.insert (newNotification input now) s
  | selecting _ _ => s' = s
  | holding [] => False
  | holding ((i, _) :: _) => s' = notifications.modify i markQueued s
  | attempting .marked i n _ =>
      s' = apiCalls.insert { notificationId := i, payload := buildWhatsAppPayload n } s
  | attempting (.calling callId) i _ _ =>
      ∃ response, (resultOf response).success = c.succeeds i ∧
        s' = apiCalls.modifyIf callId (fun _ => true) (answer response) s
  | attempting (.answered true) i _ _ =>
      ∃ now response, (resultOf response).success = true ∧
        s' = notifications.modify i (markSent now (resultOf response)) s
  | attempting (.answered false) i n _ =>
      ∃ error now, s' = notifications.modify i (markFailed n error now) s
  | lost => True

end Stage

def protocol (c : Call) : Protocol Store (Access Model) Stage where
  relies _ := True
  init := match c with
    | .sendWhatsAppMessage _ _ => .queueing
    | .processPendingNotifications b => .selecting b.now b.limit
  next stage _ := Stage.next c stage
  allows stage _ := Stage.allows c stage
  final _ := True

/-- The result of a call does not matter. -/
def Any {α : Type} (_ : Stage) (_ : Except Failure α) : Prop := True

lemma leads_lost {α : Type} {c : Call} {Q : Stage → Except Failure α → Prop} (hQ : ∀ r, Q .lost r)
    (m : Work α) : (protocol c).Leads Q .lost m := by
  induction m with
  | ret a => exact .ret trivial (hQ _)
  | fail e => exact .fail trivial (hQ _)
  | atom l w k ih => exact .atom fun s _ => ⟨trivial, ih s⟩

section Worker

variable {b : Batch} {i : Id} {n : WhatsAppNotification} {rows : List (Id × WhatsAppNotification)}

/-- The attempt is over, unless the notification was not there. -/
def Over {α : Type} (rows : List (Id × WhatsAppNotification)) (stage : Stage)
    (_ : Except Failure α) : Prop := stage = .lost ∨ stage = .holding rows

/-- An update of the notification, whose result the stage after it tells. -/
lemma leads_update {α : Type} {c : Call} {stage stage' : Stage}
    {f : WhatsAppNotification → WhatsAppNotification} {g : Unit → Work α}
    {Q : Stage → Except Failure α → Prop}
    (hallows : ∀ s, Stage.allows c stage s (notifications.modify i f s))
    (hnext : ∀ s : Store, Stage.next c stage s =
      if (s.whatsAppNotification.get? i).isSome then stage' else .lost)
    (hlost : Q .lost (.error .recordNotFound)) (hg : (protocol c).Leads Q stage' (g ())) :
    (protocol c).Leads Q stage (Client.update notifications .recordNotFound i f >>= g) := by
  refine Protocol.Leads.atom_bind fun s _ => ⟨hallows s, ?_⟩
  change (protocol c).Leads Q (Stage.next c stage s)
    ((if (s.whatsAppNotification.get? i).isSome then .ret () else .fail Failure.recordNotFound :
      Work Unit) >>= g)
  rw [hnext s]
  split
  · exact hg
  · exact .fail trivial hlost

lemma leads_deliver {α : Type} {Q : Stage → Except Failure α → Prop}
    {g : WhatsAppDeliveryResult → Work α}
    (hg : (protocol (.processPendingNotifications b)).Leads Q
      (.attempting (.answered (resultOf (b.response i)).success) i n rows)
      (g (resultOf (b.response i)))) :
    (protocol (.processPendingNotifications b)).Leads Q (.attempting .marked i n rows)
      (deliverToWhatsAppApi i n (b.response i) >>= g) := by
  refine Protocol.Leads.atom_bind fun s _ => ⟨rfl, ?_⟩
  exact Protocol.Leads.atom_bind fun s' _ => ⟨⟨b.response i, rfl, rfl⟩, hg⟩

lemma leads_processOne :
    (protocol (.processPendingNotifications b)).Leads (Over rows) (.holding ((i, n) :: rows))
      (processOne b i n) := by
  refine .tryCatch (S := fun stage r => Over rows stage r ∧ (r.isOk = false → stage = .lost)) ?_
    (fun _ _ h => h.1) fun stage e _ h => ?_
  · refine leads_update (fun _ => rfl) (fun _ => rfl) ⟨Or.inl rfl, fun _ => rfl⟩ ?_
    refine leads_deliver ?_
    cases hsuccess : (resultOf (b.response i)).success with
    | true =>
      rw [if_pos rfl]
      refine leads_update (fun _ => ⟨b.now, b.response i, hsuccess, rfl⟩) (fun _ => rfl)
        ⟨Or.inl rfl, fun _ => rfl⟩ ?_
      exact .ret trivial ⟨Or.inr rfl, fun h => by cases h⟩
    | false =>
      rw [if_neg Bool.false_ne_true]
      refine leads_update (fun _ => ⟨_, _, rfl⟩) (fun _ => rfl) ⟨Or.inl rfl, fun _ => rfl⟩ ?_
      exact .ret trivial ⟨Or.inr rfl, fun h => by cases h⟩
  · obtain rfl : stage = .lost := h.2 rfl
    exact leads_lost (fun _ => Or.inl rfl) _

lemma leads_processAll (result : ProcessResult) :
    (protocol (.processPendingNotifications b)).Leads Any (.holding rows)
      (processAll b rows result) := by
  induction rows generalizing result with
  | nil => exact .ret trivial trivial
  | cons p rows ih =>
    refine .bind leads_processOne (fun _ _ _ => trivial) fun stage delivered h => ?_
    rcases h with rfl | rfl
    · exact leads_lost (fun _ => trivial) _
    · exact ih _

end Worker

/-- **What a call does at each stage.** -/
lemma leads_code (c : Call) : (protocol c).Leads Any (protocol c).init (code c) := by
  cases c with
  | sendWhatsAppMessage input now =>
    exact Protocol.Leads.atom_bind fun s _ => ⟨⟨input, now, rfl⟩, .ret trivial trivial⟩
  | processPendingNotifications b =>
    refine Protocol.Leads.bind (S := Any) ?_ (fun _ _ _ => trivial) fun _ _ _ => ?_
    · exact Protocol.Leads.atom_bind fun s _ => ⟨rfl, leads_processAll {}⟩
    · exact .ret trivial trivial

/-! ## Many calls -/

abbrev Worker := Thread Store (Access Model) Failure Unit Call

abbrev Workers := Pool Store (Access Model) Failure Unit Call

def stageOf (t : Worker) : Stage := (protocol t.call).phase t.done

/-- The worker has marked the notification, and not yet written the result. -/
def Busy (i : Id) (t : Worker) : Prop := (stageOf t).attempted = some i

instance busyDecidable (i : Id) (t : Worker) : Decidable (Busy i t) :=
  inferInstanceAs (Decidable ((stageOf t).attempted = some i))

/-- The notification may be selected. -/
def isOpen (n : WhatsAppNotification) : Bool :=
  n.status ∈ [WhatsAppNotificationStatus.pending, .queued]

def isSent (n : WhatsAppNotification) : Bool :=
  n.status ∈ [WhatsAppNotificationStatus.sent, .delivered]

/-- A mark finds the notification as the worker has selected it, and in no worker's hands. -/
def Undisturbed (p : Workers) : Event Call → Prop
  | .start _ => True
  | .sched k => ∀ t ∈ p.threads[k]?, ∀ q ∈ (stageOf t).marks,
      (∀ u ∈ p.threads, ¬ Busy q.1 u) ∧
        ∃ m ∈ p.shared.whatsAppNotification.get? q.1, isOpen m ∧ m.retryCount = q.2.retryCount

instance undisturbedDecidable (p : Workers) : ∀ e, Decidable (Undisturbed p e)
  | .start _ => inferInstanceAs (Decidable True)
  | .sched k => inferInstanceAs (Decidable (∀ t ∈ p.threads[k]?, ∀ q ∈ (stageOf t).marks,
      (∀ u ∈ p.threads, ¬ Busy q.1 u) ∧
        ∃ m ∈ p.shared.whatsAppNotification.get? q.1, isOpen m ∧ m.retryCount = q.2.retryCount))

/-! ### The requests for a notification -/

/-- How many requests have succeeded, how many have failed, and how many there are. -/
@[ext] structure Account where
  accepted : ℕ
  failed : ℕ
  calls : ℕ
deriving DecidableEq, Repr

def account (s : Store) (i : Id) : Account where
  accepted := s.apiCall.values.countP fun c => c.notificationId = i && c.success = some true
  failed := s.apiCall.values.countP fun c => c.notificationId = i && c.success = some false
  calls := s.apiCall.values.countP fun c => c.notificationId = i

/-- The requests for a notification that is not being sent. -/
def WhatsAppNotification.account (n : WhatsAppNotification) : Account :=
  if isSent n then ⟨1, n.retryCount, n.retryCount + 1⟩ else ⟨0, n.retryCount, n.retryCount⟩

/-- The requests for a notification during an attempt to send it. -/
def Attempt.account (retryCount : ℕ) : Attempt → Account
  | marked => ⟨0, retryCount, retryCount⟩
  | calling _ => ⟨0, retryCount, retryCount + 1⟩
  | answered true => ⟨1, retryCount, retryCount + 1⟩
  | answered false => ⟨0, retryCount + 1, retryCount + 1⟩

section Account

variable {s : Store} {i j callId : Id} {c : ApiCall} {payload : Payload} {response : Response}

/-- A new request. -/
lemma account_insert (s : Store) (i : Id) (payload : Payload) :
    account (apiCalls.insert { notificationId := i, payload } s) i =
      { account s i with calls := (account s i).calls + 1 } := by
  ext <;> simp [account, apiCalls, TableOf.insert]

lemma account_insert_of_ne (h : j ≠ i) :
    account (apiCalls.insert { notificationId := i, payload } s) j = account s j := by
  have hne : ¬ i = j := Ne.symm h
  ext <;> simp [account, apiCalls, TableOf.insert, hne]

lemma modifyIf_answer (h : s.apiCall.get? callId = some c) :
    apiCalls.modifyIf callId (fun _ => true) (answer response) s =
      apiCalls.modify callId (answer response) s := by
  have hget : (apiCalls.get s).get? callId = some c := h
  rw [TableOf.modifyIf, hget]
  rfl

/-- How a count of the requests changes when one of them is answered. -/
lemma countP_answer (h : s.apiCall.get? callId = some c) (r : Response) (q : ApiCall → Bool) :
    (apiCalls.modify callId (answer r) s).apiCall.values.countP q + (if q c then 1 else 0) =
      s.apiCall.values.countP q + if q (answer r c) then 1 else 0 :=
  Table.countP_values_modify h (answer r) q

/-- A request is answered. -/
lemma account_answer (h : s.apiCall.get? callId = some c) (hi : c.notificationId = i)
    (hopen : c.success = none) :
    account (apiCalls.modify callId (answer response) s) i =
      ⟨(account s i).accepted + (if (resultOf response).success then 1 else 0),
        (account s i).failed + (if (resultOf response).success then 0 else 1),
        (account s i).calls⟩ := by
  have haccepted := countP_answer h response fun c =>
    c.notificationId = i && c.success = some true
  have hfailed := countP_answer h response fun c =>
    c.notificationId = i && c.success = some false
  have hcalls := countP_answer h response fun c => c.notificationId = i
  simp only [hi, hopen, answer] at haccepted hfailed hcalls
  ext
  · simpa [account] using haccepted
  · cases hsuccess : (resultOf response).success <;> simpa [account, hsuccess] using hfailed
  · simpa [account] using hcalls

lemma account_answer_of_ne (h : s.apiCall.get? callId = some c) (hj : c.notificationId ≠ j) :
    account (apiCalls.modify callId (answer response) s) j = account s j := by
  have haccepted := countP_answer h response fun c =>
    c.notificationId = j && c.success = some true
  have hfailed := countP_answer h response fun c =>
    c.notificationId = j && c.success = some false
  have hcalls := countP_answer h response fun c => c.notificationId = j
  simp only [hj, answer] at haccepted hfailed hcalls
  ext
  · simpa [account] using haccepted
  · simpa [account] using hfailed
  · simpa [account] using hcalls

end Account

/-! ### The invariant -/

/-- What a worker holds is there, and was selected with retries left. -/
structure Selected (s : Store) (q : Id × WhatsAppNotification) : Prop where
  present : (s.whatsAppNotification.get? q.1).isSome
  maxRetries : q.2.maxRetries = MAX_RETRIES_DEFAULT
  retryCount : q.2.retryCount < MAX_RETRIES_DEFAULT

/-- The notification is being sent. -/
structure Attempting (s : Store) (a : Attempt) (i : Id) (n : WhatsAppNotification) : Prop where
  row : ∃ m, s.whatsAppNotification.get? i = some m ∧ m.status = .queued ∧
    m.retryCount = n.retryCount ∧ m.maxRetries = MAX_RETRIES_DEFAULT
  account : account s i = a.account n.retryCount
  call : ∀ callId, a = .calling callId →
    ∃ c, s.apiCall.get? callId = some c ∧ c.notificationId = i ∧ c.success = none

/-- The notification is not being sent. -/
structure Resting (s : Store) (i : Id) (m : WhatsAppNotification) : Prop where
  maxRetries : m.maxRetries = MAX_RETRIES_DEFAULT
  account : account s i = m.account
  bounded : m.account.calls ≤ MAX_RETRIES_DEFAULT

/-- What holds in every state: no two workers attempt to send the same notification, and the
requests for it are those that its retries and the attempt in progress account for. -/
structure Accounted (p : Workers) : Prop where
  tracked : p.Tracked protocol
  alone : ∀ i, Pool.AtMostOne (Busy i) p.threads
  found : ∀ t ∈ p.threads, stageOf t ≠ .lost
  selected : ∀ t ∈ p.threads, ∀ q ∈ (stageOf t).held, Selected p.shared q
  attempting : ∀ t ∈ p.threads, ∀ a i n rows, stageOf t = .attempting a i n rows →
    Attempting p.shared a i n
  resting : ∀ i m, p.shared.whatsAppNotification.get? i = some m → (∀ t ∈ p.threads, ¬ Busy i t) →
    Resting p.shared i m
  unborn : ∀ i, p.shared.whatsAppNotification.get? i = none → account p.shared i = ⟨0, 0, 0⟩

/-- No request has been sent, and the notifications are as they are queued. -/
structure Fresh (s : Store) : Prop where
  account : ∀ i, account s i = ⟨0, 0, 0⟩
  notification : ∀ i m, s.whatsAppNotification.get? i = some m →
    m.status = .pending ∧ m.retryCount = 0 ∧ m.maxRetries = MAX_RETRIES_DEFAULT

lemma accounted_idle {s : Store} (hs : Fresh s) : Accounted (Pool.idle s) where
  tracked := Pool.tracked_idle protocol s
  alone := fun i => Pool.atMostOne_nil
  found := fun t ht => absurd ht List.not_mem_nil
  selected := fun t ht => absurd ht List.not_mem_nil
  attempting := fun t ht => absurd ht List.not_mem_nil
  resting := fun i m hm _ => by
    obtain ⟨hstatus, hcount, hmax⟩ := hs.notification i m hm
    have hzero : m.account = ⟨0, 0, 0⟩ := by
      simp [WhatsAppNotification.account, isSent, hstatus, hcount]
    exact ⟨hmax, (hs.account i).trans hzero.symm, by simp [hzero]⟩
  unborn := fun i _ => hs.account i

/-- The notifications and the requests other than those under `i` are as they were. -/
structure Elsewhere (i : Id) (s s' : Store) : Prop where
  row : ∀ j, j ≠ i → s'.whatsAppNotification.get? j = s.whatsAppNotification.get? j
  account : ∀ j, j ≠ i → account s' j = account s j
  call : ∀ callId c, s.apiCall.get? callId = some c → c.notificationId ≠ i →
    s'.apiCall.get? callId = some c
  present : (s.whatsAppNotification.get? i).isSome → (s'.whatsAppNotification.get? i).isSome

section Elsewhere

variable {i : Id} {s s' : Store}

lemma Selected.elsewhere {q : Id × WhatsAppNotification} (h : Selected s q)
    (hframe : Elsewhere i s s') : Selected s' q := by
  refine ⟨?_, h.maxRetries, h.retryCount⟩
  by_cases hq : q.1 = i
  · rw [hq]
    exact hframe.present (hq ▸ h.present)
  · rw [hframe.row q.1 hq]
    exact h.present

lemma Attempting.elsewhere {a : Attempt} {j : Id} {n : WhatsAppNotification}
    (h : Attempting s a j n) (hframe : Elsewhere i s s') (hj : j ≠ i) : Attempting s' a j n := by
  refine ⟨?_, (hframe.account j hj).trans h.account, fun callId ha => ?_⟩
  · rw [hframe.row j hj]
    exact h.row
  · obtain ⟨c, hc, hcj, hopen⟩ := h.call callId ha
    exact ⟨c, hframe.call callId c hc (hcj ▸ hj), hcj, hopen⟩

lemma get?_write {m : WhatsAppNotification} (h : s.whatsAppNotification.get? i = some m)
    (f : WhatsAppNotification → WhatsAppNotification) :
    (notifications.modify i f s).whatsAppNotification.get? i = some (f m) :=
  (Table.get?_modify_self _ i f).trans (congrArg (Option.map f) h)

/-- A write of the notification. -/
lemma elsewhere_modify (f : WhatsAppNotification → WhatsAppNotification) :
    Elsewhere i s (notifications.modify i f s) where
  row := fun _ hj => Table.get?_modify_of_ne _ hj f
  account := fun _ _ => rfl
  call := fun _ _ hc _ => hc
  present := fun h => by
    obtain ⟨m, hm⟩ := Option.isSome_iff_exists.mp h
    rw [get?_write hm f]
    rfl

lemma elsewhere_insert (payload : Payload) :
    Elsewhere i s (apiCalls.insert { notificationId := i, payload } s) where
  row := fun _ _ => rfl
  account := fun _ hj => account_insert_of_ne hj
  call := fun _ _ hc _ => Table.get?_insert_of_some hc _
  present := id

lemma elsewhere_answer {callId : Id} {c : ApiCall} (hc : s.apiCall.get? callId = some c)
    (hi : c.notificationId = i) (response : Response) :
    Elsewhere i s (apiCalls.modify callId (answer response) s) where
  row := fun _ _ => rfl
  account := fun _ hj => account_answer_of_ne hc (hi ▸ Ne.symm hj)
  call := fun k c' hc' hne => by
    have hk : k ≠ callId := by
      rintro rfl
      exact hne (Option.some.inj (hc'.symm.trans hc) ▸ hi)
    exact (Table.get?_modify_of_ne _ hk _).trans hc'
  present := id

end Elsewhere

/-! ### One step -/

section Step

variable {p : Workers} {k : ℕ} {t t' : Worker} {s' : Store} {i : Id} {n : WhatsAppNotification}
  {rows : List (Id × WhatsAppNotification)}

/-- A thread has moved on, with whatever it has to do with the notification `i`. -/
lemma Accounted.moves (h : Accounted p) (hk : p.threads[k]? = some t)
    (htracked : Pool.Tracked protocol ⟨s', p.threads.set k t'⟩) (hframe : Elsewhere i p.shared s')
    (hsole : ∀ j u, p.threads[j]? = some u → j ≠ k → ¬ Busy i u)
    (honly : ∀ j, Busy j t → j = i) (honly' : ∀ j, Busy j t' → j = i)
    (hfound : stageOf t' ≠ .lost) (hselected : ∀ q ∈ (stageOf t').held, Selected s' q)
    (hattempting : ∀ a n rows, stageOf t' = .attempting a i n rows → Attempting s' a i n)
    (hresting : ∀ m, s'.whatsAppNotification.get? i = some m → ¬ Busy i t' → Resting s' i m)
    (hunborn : s'.whatsAppNotification.get? i = none → account s' i = ⟨0, 0, 0⟩) :
    Accounted ⟨s', p.threads.set k t'⟩ where
  tracked := htracked
  alone := fun j => (h.alone j).set hk fun hbusy => by
    obtain rfl := honly' j hbusy
    by_cases ht : Busy j t
    · exact Or.inl ht
    · refine Or.inr fun u hu => ?_
      obtain ⟨l, hl⟩ := List.mem_iff_getElem?.mp hu
      by_cases hlk : l = k
      · subst hlk
        obtain rfl := Option.some.inj (hl.symm.trans hk)
        exact ht
      · exact hsole l u hl hlk
  found := fun u hu => by
    rcases List.mem_or_eq_of_mem_set hu with hu | rfl
    · exact h.found u hu
    · exact hfound
  selected := fun u hu => by
    rcases List.mem_or_eq_of_mem_set hu with hu | rfl
    · exact fun q hq => (h.selected u hu q hq).elsewhere hframe
    · exact hselected
  attempting := fun u hu a j n rows hstage => by
    obtain ⟨l, hl⟩ := List.mem_iff_getElem?.mp hu
    have hbusy : Busy j u := congrArg Stage.attempted hstage
    rcases Pool.getElem?_set_cases hl with ⟨-, rfl⟩ | ⟨hne, hl⟩
    · obtain rfl := honly' j hbusy
      exact hattempting a n rows hstage
    · refine (h.attempting u (List.mem_of_getElem? hl) a j n rows hstage).elsewhere hframe ?_
      rintro rfl
      exact hsole l u hl hne hbusy
  resting := fun j m hm hnobody => by
    have hmem : t' ∈ p.threads.set k t' := List.mem_set (List.getElem?_eq_some_iff.mp hk).1 t'
    by_cases hj : j = i
    · subst hj
      exact hresting m hm (hnobody t' hmem)
    · rw [hframe.row j hj] at hm
      have hrest := h.resting j m hm fun u hu hbusy => by
        rcases Pool.eq_or_mem_set hk t' hu with rfl | hu
        · exact hj (honly j hbusy)
        · exact hnobody u hu hbusy
      exact ⟨hrest.maxRetries, (hframe.account j hj).trans hrest.account, hrest.bounded⟩
  unborn := fun j hj => by
    by_cases hji : j = i
    · subst hji
      exact hunborn hj
    · rw [hframe.row j hji] at hj
      exact (hframe.account j hji).trans (h.unborn j hj)

lemma stage_of_busy (h : Busy i t) : ∃ a n rows, stageOf t = .attempting a i n rows := by
  rw [Busy] at h
  cases hstage : stageOf t with
  | attempting a j n rows =>
    rw [hstage] at h
    obtain rfl := Option.some.inj h
    exact ⟨a, n, rows, rfl⟩
  | _ =>
    rw [hstage] at h
    cases h

/-- What is being sent is there. -/
lemma Accounted.row (h : Accounted p) (ht : t ∈ p.threads) (hbusy : Busy i t) :
    ∃ m, p.shared.whatsAppNotification.get? i = some m ∧ m.status = .queued ∧
      m.maxRetries = MAX_RETRIES_DEFAULT := by
  obtain ⟨a, n, rows, hstage⟩ := stage_of_busy hbusy
  obtain ⟨m, hm, hstatus, -, hmax⟩ := (h.attempting t ht a i n rows hstage).row
  exact ⟨m, hm, hstatus, hmax⟩

/-- Every notification has the default number of retries. -/
lemma Accounted.maxRetries (h : Accounted p) {m : WhatsAppNotification}
    (hm : p.shared.whatsAppNotification.get? i = some m) : m.maxRetries = MAX_RETRIES_DEFAULT := by
  by_cases hbusy : ∃ t ∈ p.threads, Busy i t
  · obtain ⟨t, ht, hbusy⟩ := hbusy
    obtain ⟨m', hm', -, hmax⟩ := h.row ht hbusy
    obtain rfl := Option.some.inj (hm.symm.trans hm')
    exact hmax
  · exact (h.resting i m hm fun t ht hb => hbusy ⟨t, ht, hb⟩).maxRetries

/-- Nobody is sending what is not there. -/
lemma Accounted.not_busy (h : Accounted p) (hnone : p.shared.whatsAppNotification.get? i = none)
    (ht : t ∈ p.threads) : ¬ Busy i t := by
  intro hbusy
  obtain ⟨m, hm, -⟩ := h.row ht hbusy
  rw [hnone] at hm
  cases hm

lemma Accounted.selected_pending (h : Accounted p) (now : Time) (limit : ℕ) :
    ∀ q ∈ pending now limit p.shared, Selected p.shared q := by
  intro q hq
  obtain ⟨hget, hpending⟩ := get?_of_mem_pending hq
  simp only [isPending, Bool.and_eq_true, decide_eq_true_eq] at hpending
  exact ⟨by rw [hget]; rfl, h.maxRetries hget, hpending.2⟩

/-- A step of a worker that is not sending anything, and that leaves the notifications alone. -/
lemma Accounted.idles (h : Accounted p) (hk : p.threads[k]? = some t)
    (htracked : Pool.Tracked protocol ⟨p.shared, p.threads.set k t'⟩)
    (hidle : ∀ j, ¬ Busy j t) (hidle' : ∀ j, ¬ Busy j t') (hfound : stageOf t' ≠ .lost)
    (hselected : ∀ q ∈ (stageOf t').held, Selected p.shared q) :
    Accounted ⟨p.shared, p.threads.set k t'⟩ := by
  have hnone := p.shared.whatsAppNotification.get?_next
  refine h.moves hk htracked ⟨fun _ _ => rfl, fun _ _ => rfl, fun _ _ hc _ => hc, id⟩
    (fun j u hu _ => h.not_busy hnone (List.mem_of_getElem? hu)) (fun j hj => absurd hj (hidle j))
    (fun j hj => absurd hj (hidle' j)) hfound hselected (fun a n rows hstage => ?_)
    (fun m hm => ?_) (h.unborn _)
  · exact absurd (congrArg Stage.attempted hstage) (hidle' _)
  · rw [hnone] at hm
    cases hm

/-- A notification is queued. -/
lemma Accounted.queues (h : Accounted p) (hk : p.threads[k]? = some t)
    {input : SendWhatsAppMessageInput} {now : Time}
    (htracked : Pool.Tracked protocol
      ⟨notifications.insert (newNotification input now) p.shared, p.threads.set k t'⟩)
    (hstage : stageOf t = .queueing) (hstage' : stageOf t' = .queueing) :
    Accounted ⟨notifications.insert (newNotification input now) p.shared,
      p.threads.set k t'⟩ := by
  have hnone := p.shared.whatsAppNotification.get?_next
  have hself : (notifications.insert (newNotification input now) p.shared).whatsAppNotification.get?
      p.shared.whatsAppNotification.next = some (newNotification input now) :=
    Table.get?_insert_self _ _
  refine h.moves (i := p.shared.whatsAppNotification.next) hk htracked
    ⟨fun j hj => ?_, fun _ _ => rfl, fun _ _ hc _ => hc, fun hsome => ?_⟩
    (fun j u hu _ => h.not_busy hnone (List.mem_of_getElem? hu)) (fun j hj => ?_) (fun j hj => ?_)
    (by simp [hstage']) (by simp [hstage', Stage.held]) (by simp [hstage']) (fun m hm _ => ?_)
    fun hm => ?_
  · exact (Table.get?_insert _ _ _).trans (if_neg hj)
  · rw [hnone] at hsome
    cases hsome
  · rw [Busy, hstage] at hj
    cases hj
  · rw [Busy, hstage'] at hj
    cases hj
  · obtain rfl := Option.some.inj (hself.symm.trans hm)
    exact ⟨rfl, h.unborn _ hnone, Nat.zero_le _⟩
  · rw [hself] at hm
    cases hm

lemma busy_only {a : Attempt} (hstage : stageOf t = .attempting a i n rows) (j : Id)
    (hj : Busy j t) : j = i := by
  rw [Busy, hstage] at hj
  exact (Option.some.inj hj).symm

lemma not_busy_of_holding (hstage : stageOf t = .holding rows) (j : Id) : ¬ Busy j t := by
  rw [Busy, hstage]
  exact nofun

/-- A mark of a notification that is as it was selected, and that nobody is sending. -/
lemma Accounted.begins (h : Accounted p) (hk : p.threads[k]? = some t)
    (htracked : Pool.Tracked protocol
      ⟨notifications.modify i markQueued p.shared, p.threads.set k t'⟩)
    (hstage : stageOf t = .holding ((i, n) :: rows))
    (hstage' : stageOf t' = .attempting .marked i n rows)
    (hnobody : ∀ u ∈ p.threads, ¬ Busy i u)
    (hsame : ∃ m ∈ p.shared.whatsAppNotification.get? i, isOpen m ∧ m.retryCount = n.retryCount) :
    Accounted ⟨notifications.modify i markQueued p.shared, p.threads.set k t'⟩ := by
  obtain ⟨m, hm, hopen, hcount⟩ := hsame
  have hrest := h.resting i m hm hnobody
  have hselected := h.selected t (List.mem_of_getElem? hk)
  rw [hstage] at hselected
  have hsent : isSent m = false := by
    rw [isOpen] at hopen
    cases hstatus : m.status <;> simp [hstatus, isSent] at hopen ⊢
  refine h.moves hk htracked (elsewhere_modify _)
    (fun j u hu _ => hnobody u (List.mem_of_getElem? hu))
    (fun j hj => absurd hj (not_busy_of_holding hstage j)) (busy_only hstage')
    (by simp [hstage']) (fun q hq => ?_) (fun a n' rows' hstage'' => ?_) (fun m' _ hnot => ?_)
    fun hnone => ?_
  · rw [hstage'] at hq
    exact (hselected q hq).elsewhere (elsewhere_modify _)
  · rw [hstage', Stage.attempting.injEq] at hstage''
    obtain ⟨rfl, -, rfl, -⟩ := hstage''
    refine ⟨⟨markQueued m, get?_write hm _, rfl, hcount, hrest.maxRetries⟩, ?_, nofun⟩
    change account p.shared i = _
    rw [hrest.account, WhatsAppNotification.account, hsent, if_neg Bool.false_ne_true, hcount]
    rfl
  · exact absurd (congrArg Stage.attempted hstage') hnot
  · rw [get?_write hm] at hnone
    cases hnone

/-- An attempt goes on. -/
lemma Accounted.goesOn (h : Accounted p) (hk : p.threads[k]? = some t)
    (htracked : Pool.Tracked protocol ⟨s', p.threads.set k t'⟩) {a a' : Attempt}
    (hstage : stageOf t = .attempting a i n rows) (hstage' : stageOf t' = .attempting a' i n rows)
    (hframe : Elsewhere i p.shared s') (hattempting : Attempting s' a' i n) :
    Accounted ⟨s', p.threads.set k t'⟩ := by
  have hbusy : Busy i t := congrArg Stage.attempted hstage
  have hselected := h.selected t (List.mem_of_getElem? hk)
  rw [hstage] at hselected
  refine h.moves hk htracked hframe
    (fun j u hu hne => (h.alone i).not_inside hk hbusy hu hne) (busy_only hstage)
    (busy_only hstage') (by simp [hstage']) (fun q hq => ?_) (fun a n' rows' hstage'' => ?_)
    (fun m' _ hnot => ?_) fun hnone => ?_
  · rw [hstage'] at hq
    exact (hselected q hq).elsewhere hframe
  · rw [hstage', Stage.attempting.injEq] at hstage''
    obtain ⟨rfl, -, rfl, -⟩ := hstage''
    exact hattempting
  · exact absurd (congrArg Stage.attempted hstage') hnot
  · obtain ⟨m, hm, -⟩ := hattempting.row
    rw [hm] at hnone
    cases hnone

/-- An attempt ends with a write of its result. -/
lemma Accounted.ends (h : Accounted p) (hk : p.threads[k]? = some t)
    {f : WhatsAppNotification → WhatsAppNotification}
    (htracked : Pool.Tracked protocol ⟨notifications.modify i f p.shared, p.threads.set k t'⟩)
    {a : Attempt} (hstage : stageOf t = .attempting a i n rows)
    (hstage' : stageOf t' = .holding rows)
    (hwrite : ∀ m, m.retryCount = n.retryCount → m.maxRetries = MAX_RETRIES_DEFAULT →
      (f m).maxRetries = MAX_RETRIES_DEFAULT ∧ (f m).account = a.account n.retryCount ∧
        (f m).account.calls ≤ MAX_RETRIES_DEFAULT) :
    Accounted ⟨notifications.modify i f p.shared, p.threads.set k t'⟩ := by
  have hbusy : Busy i t := congrArg Stage.attempted hstage
  have hmem := List.mem_of_getElem? hk
  have hselected := h.selected t hmem
  rw [hstage] at hselected
  obtain ⟨⟨m, hm, -, hcount, hmax⟩, haccount, -⟩ := h.attempting t hmem a i n rows hstage
  refine h.moves hk htracked (elsewhere_modify f)
    (fun j u hu hne => (h.alone i).not_inside hk hbusy hu hne) (busy_only hstage)
    (fun j hj => absurd hj (not_busy_of_holding hstage' j)) (by simp [hstage']) (fun q hq => ?_)
    (fun a n' rows' hstage'' => ?_) (fun m' hm' _ => ?_) fun hnone => ?_
  · rw [hstage'] at hq
    exact (hselected q (List.mem_cons_of_mem _ hq)).elsewhere (elsewhere_modify f)
  · rw [hstage'] at hstage''
    cases hstage''
  · obtain rfl := Option.some.inj ((get?_write hm f).symm.trans hm')
    obtain ⟨hmax', haccount', hbounded⟩ := hwrite m hcount hmax
    exact ⟨hmax', haccount.trans haccount'.symm, hbounded⟩
  · rw [get?_write hm] at hnone
    cases hnone

/-- The result of a request that has succeeded. -/
lemma account_markSent {response : Response} (hsuccess : (resultOf response).success = true)
    (now : Time) (m : WhatsAppNotification) :
    (markSent now (resultOf response) m).account = ⟨1, m.retryCount, m.retryCount + 1⟩ := by
  have hstatus : (resultOf response).status = some .sent := by
    cases response with
    | thrown errorMessage => cases hsuccess
    | error status errorBody => cases hsuccess
    | ok messageId =>
      rw [resultOf] at hsuccess ⊢
      split at hsuccess
      · cases hsuccess
      · rfl
  rw [WhatsAppNotification.account, if_pos]
  · rfl
  · simp [isSent, markSent, hstatus]

lemma account_markFailed (error : Failure) (now : Time) (m : WhatsAppNotification) :
    (markFailed n error now m).account = ⟨0, n.retryCount + 1, n.retryCount + 1⟩ := by
  rw [WhatsAppNotification.account, if_neg]
  · rfl
  · simp only [isSent, markFailed]
    split <;> simp

/-- **One action** of a worker keeps the account, if a mark is undisturbed. -/
lemma Accounted.action (h : Accounted p) (hk : p.threads[k]? = some t)
    (hundisturbed : ∀ q ∈ (stageOf t).marks, (∀ u ∈ p.threads, ¬ Busy q.1 u) ∧
      ∃ m ∈ p.shared.whatsAppNotification.get? q.1, isOpen m ∧ m.retryCount = q.2.retryCount)
    (hallows : (stageOf t).allows t.call p.shared s')
    (hnext : stageOf t' = (stageOf t).next t.call p.shared)
    (htracked : Pool.Tracked protocol ⟨s', p.threads.set k t'⟩) :
    Accounted ⟨s', p.threads.set k t'⟩ := by
  have hmem := List.mem_of_getElem? hk
  cases hstage : stageOf t with
  | queueing =>
    rw [hstage] at hallows hnext
    obtain ⟨input, now, rfl⟩ := hallows
    exact h.queues hk htracked hstage hnext
  | selecting now limit =>
    rw [hstage] at hallows hnext
    obtain rfl : s' = p.shared := hallows
    have hstage' : stageOf t' = .holding (pending now limit p.shared) := hnext
    refine h.idles hk htracked (fun j => ?_) (not_busy_of_holding hstage') (by simp [hstage']) ?_
    · rw [Busy, hstage]
      exact nofun
    · rw [hstage']
      exact h.selected_pending now limit
  | holding rows =>
    rw [hstage] at hallows hnext hundisturbed
    cases rows with
    | nil => exact absurd hallows id
    | cons q rows =>
      obtain ⟨i, n⟩ := q
      obtain rfl : s' = notifications.modify i markQueued p.shared := hallows
      obtain ⟨hnobody, hsame⟩ := hundisturbed (i, n) rfl
      have hpresent := (h.selected t hmem (i, n) (by rw [hstage]; exact List.mem_cons_self)).present
      rw [Stage.next, if_pos hpresent] at hnext
      exact h.begins hk htracked hstage hnext hnobody hsame
  | attempting a i n rows =>
    have hselected := h.selected t hmem (i, n) (by rw [hstage]; exact List.mem_cons_self)
    obtain ⟨hrow, haccount, hcall⟩ := h.attempting t hmem a i n rows hstage
    rw [hstage] at hallows hnext
    have hlt := hselected.retryCount
    cases a with
    | marked =>
      obtain rfl : s' = apiCalls.insert { notificationId := i, payload := buildWhatsAppPayload n }
        p.shared := hallows
      refine h.goesOn hk htracked hstage hnext (elsewhere_insert _) ⟨hrow, ?_, ?_⟩
      · rw [account_insert, haccount]
        rfl
      · intro callId hcallId
        obtain rfl := Attempt.calling.inj hcallId
        exact ⟨_, Table.get?_insert_self _ _, rfl, rfl⟩
    | calling callId =>
      obtain ⟨response, hsuccess, rfl⟩ := hallows
      obtain ⟨c, hc, hci, hopen⟩ := hcall callId rfl
      rw [modifyIf_answer hc] at htracked ⊢
      refine h.goesOn hk htracked hstage hnext (elsewhere_answer hc hci response)
        ⟨hrow, ?_, nofun⟩
      rw [account_answer hc hci hopen, haccount, hsuccess]
      cases t.call.succeeds i <;> rfl
    | answered success =>
      have hpresent : (p.shared.whatsAppNotification.get? i).isSome := hselected.present
      rw [Stage.next, if_pos hpresent] at hnext
      cases success with
      | true =>
        obtain ⟨now, response, hsuccess, rfl⟩ := hallows
        refine h.ends hk htracked hstage hnext fun m hcount hmax => ⟨hmax, ?_, ?_⟩
        · rw [account_markSent hsuccess, hcount]
          rfl
        · rw [account_markSent hsuccess, hcount]
          exact hlt
      | false =>
        obtain ⟨error, now, rfl⟩ := hallows
        refine h.ends hk htracked hstage hnext fun m hcount hmax => ⟨hmax, ?_, ?_⟩
        · exact account_markFailed error now m
        · rw [account_markFailed]
          exact hlt
  | lost => exact absurd hstage (h.found t hmem)

end Step

/-- A call starts. -/
lemma Accounted.starts {p : Workers} (h : Accounted p) (c : Call)
    (htracked : Pool.Tracked protocol ⟨p.shared, p.threads ++ [⟨c, [], code c⟩]⟩) :
    Accounted ⟨p.shared, p.threads ++ [⟨c, [], code c⟩]⟩ := by
  have hinit : ∀ stage, stageOf ⟨c, [], code c⟩ = stage →
      stage ≠ .lost ∧ stage.held = [] ∧ stage.attempted = none := by
    rintro stage rfl
    cases c <;> exact ⟨nofun, rfl, rfl⟩
  have hidle : ∀ i, ¬ Busy i ⟨c, [], code c⟩ := fun i => by
    rw [Busy, (hinit _ rfl).2.2]
    exact nofun
  have hthread : ∀ t ∈ p.threads ++ [⟨c, [], code c⟩], t ∈ p.threads ∨ t = ⟨c, [], code c⟩ := by
    simp
  refine ⟨htracked, fun i => (h.alone i).concat (hidle i), fun t ht => ?_, fun t ht q hq => ?_,
    fun t ht a i n rows hstage => ?_, fun i m hm hnobody => ?_, h.unborn⟩
  · rcases hthread t ht with ht | rfl
    · exact h.found t ht
    · exact (hinit _ rfl).1
  · rcases hthread t ht with ht | rfl
    · exact h.selected t ht q hq
    · rw [(hinit _ rfl).2.1] at hq
      cases hq
  · rcases hthread t ht with ht | rfl
    · exact h.attempting t ht a i n rows hstage
    · exact absurd (congrArg Stage.attempted hstage) (hidle i)
  · exact h.resting i m hm fun t ht => hnobody t (List.mem_append_left _ ht)

lemma Accounted.step {p : Workers} (h : Accounted p) (e : Event Call) (he : Undisturbed p e) :
    Accounted (p.step code e) := by
  have htracked := h.tracked.preserved code (fun c => (leads_code c).1) (fun _ => trivial) e
  rcases h.tracked.step code (fun _ => trivial) e with ⟨k, rfl, -, hstep⟩ | ⟨c, rfl, hstep⟩ |
    ⟨k, t, l, w, rest, rfl, hk, -, hallows, hstep⟩ <;> rw [hstep] at htracked ⊢
  · exact h
  · exact h.starts c htracked
  · exact h.action hk (he t hk) hallows (Protocol.phase_concat _ _ _ _) htracked

/-! ## Notifications are not sent again -/

/-- The worker is about to write that its attempt to send the notification has failed. -/
def records (i : Id) (t : Worker) : Bool :=
  match stageOf t with
  | .attempting (.answered false) j _ _ => j = i
  | _ => false

lemma busy_of_records {i : Id} {t : Worker} (h : records i t = true) :
    Busy i t ∧ ∃ n rows, stageOf t = .attempting (.answered false) i n rows := by
  rw [records] at h
  split at h
  · rename_i j n rows hstage
    obtain rfl := of_decide_eq_true h
    exact ⟨congrArg Stage.attempted hstage, n, rows, hstage⟩
  · cases h

/-- A notification is accepted once at most, its retries are the attempts that have failed, but for
those whose failure is yet to be written, and they and the requests are bounded. -/
structure Counted (p : Workers) (i : Id) (m : WhatsAppNotification) : Prop where
  accepted : (account p.shared i).accepted ≤ 1
  failed : m.retryCount + p.threads.countP (records i) = (account p.shared i).failed
  retryCount : m.retryCount ≤ m.maxRetries
  calls : (account p.shared i).calls ≤ m.maxRetries

def AllCounted (p : Workers) : Prop :=
  ∀ i m, p.shared.whatsAppNotification.get? i = some m → Counted p i m

lemma Accounted.allCounted {p : Workers} (h : Accounted p) : AllCounted p := by
  intro i m hm
  by_cases hbusy : ∃ t ∈ p.threads, Busy i t
  · obtain ⟨t, ht, hbusy⟩ := hbusy
    obtain ⟨a, n, rows, hstage⟩ := stage_of_busy hbusy
    obtain ⟨⟨m', hm', -, hcount, hmax⟩, haccount, -⟩ := h.attempting t ht a i n rows hstage
    obtain rfl := Option.some.inj (hm.symm.trans hm')
    have hselected := h.selected t ht (i, n) (by rw [hstage]; exact List.mem_cons_self)
    have hlt : n.retryCount < 3 := hselected.retryCount
    have hthree : m.maxRetries = 3 := hmax
    -- Only this worker may be about to write a failure.
    have hrecords : p.threads.countP (records i) = if a = .answered false then 1 else 0 := by
      split
      · rename_i ha
        refine (h.alone i).countP_eq_one (fun u hu => (busy_of_records hu).1) ht ?_
        rw [records, hstage, ha]
        exact decide_eq_true rfl
      · rename_i ha
        rw [List.countP_eq_zero]
        intro u hu hrecords
        obtain ⟨hbusy', n', rows', hstage'⟩ := busy_of_records hrecords
        obtain ⟨j, hj⟩ := List.mem_iff_getElem?.mp ht
        obtain ⟨l, hl⟩ := List.mem_iff_getElem?.mp hu
        obtain rfl : j = l := h.alone i j l t u hj hl hbusy hbusy'
        obtain rfl := Option.some.inj (hj.symm.trans hl)
        rw [hstage, Stage.attempting.injEq] at hstage'
        exact ha hstage'.1
    constructor
    · rw [haccount]
      cases a with
      | marked => exact Nat.zero_le _
      | calling callId => exact Nat.zero_le _
      | answered success => cases success <;> simp [Attempt.account]
    · rw [haccount, hrecords, hcount]
      cases a with
      | marked => rfl
      | calling callId => rfl
      | answered success => cases success <;> rfl
    · omega
    · rw [haccount]
      cases a with
      | marked => simp only [Attempt.account]; omega
      | calling callId => simp only [Attempt.account]; omega
      | answered success => cases success <;> simp only [Attempt.account] <;> omega
  · have hnobody : ∀ t ∈ p.threads, ¬ Busy i t := fun t ht hb => hbusy ⟨t, ht, hb⟩
    obtain ⟨hmax, haccount, hbounded⟩ := h.resting i m hm hnobody
    have hnone : p.threads.countP (records i) = 0 :=
      List.countP_eq_zero.mpr fun t ht hrecords => hnobody t ht (busy_of_records hrecords).1
    rw [← hmax] at hbounded
    rw [WhatsAppNotification.account] at haccount hbounded
    constructor
    · rw [haccount]
      split <;> simp
    · rw [haccount, hnone]
      split <;> rfl
    · split at hbounded
      · exact Nat.le_of_succ_le hbounded
      · exact hbounded
    · rw [haccount]
      exact hbounded

/-- What is SENT or DELIVERED in the one state is so in the other one. -/
def StaysSent (s s' : Store) : Prop :=
  ∀ i m, s.whatsAppNotification.get? i = some m → isSent m →
    ∃ m', s'.whatsAppNotification.get? i = some m' ∧ isSent m'

lemma StaysSent.refl (s : Store) : StaysSent s s := fun _ m hm hsent => ⟨m, hm, hsent⟩

lemma StaysSent.trans {s s' s'' : Store} (h : StaysSent s s') (h' : StaysSent s' s'') :
    StaysSent s s'' := by
  intro i m hm hsent
  obtain ⟨m', hm', hsent'⟩ := h i m hm hsent
  exact h' i m' hm' hsent'

/-- A write of a notification that is not SENT or DELIVERED. -/
lemma staysSent_modify {s : Store} {i : Id} {m : WhatsAppNotification}
    (hm : s.whatsAppNotification.get? i = some m) (hnot : isSent m = false)
    (f : WhatsAppNotification → WhatsAppNotification) :
    StaysSent s (notifications.modify i f s) := by
  intro j n hn hsent
  have hne : j ≠ i := by
    rintro rfl
    obtain rfl := Option.some.inj (hm.symm.trans hn)
    rw [hnot] at hsent
    cases hsent
  exact ⟨n, (Table.get?_modify_of_ne _ hne f).trans hn, hsent⟩

lemma Accounted.staysSent {p : Workers} (h : Accounted p) (e : Event Call)
    (he : Undisturbed p e) : StaysSent p.shared (p.step code e).shared := by
  rcases h.tracked.step code (fun _ => trivial) e with ⟨k, rfl, -, hstep⟩ | ⟨c, rfl, hstep⟩ |
    ⟨k, t, l, w, rest, rfl, hk, -, hallows, hstep⟩ <;> rw [hstep]
  · exact StaysSent.refl _
  · exact StaysSent.refl _
  have hallows' : (stageOf t).allows t.call p.shared (w p.shared) := hallows
  have hmem := List.mem_of_getElem? hk
  change StaysSent p.shared (w p.shared)
  cases hstage : stageOf t with
  | queueing =>
    rw [hstage] at hallows'
    obtain ⟨input, now, hw⟩ := hallows'
    rw [hw]
    exact fun i m hm hsent => ⟨m, Table.get?_insert_of_some hm _, hsent⟩
  | selecting now limit =>
    rw [hstage] at hallows'
    rw [show w p.shared = p.shared from hallows']
    exact StaysSent.refl _
  | holding rows =>
    cases rows with
    | nil =>
      rw [hstage] at hallows'
      exact absurd hallows' id
    | cons q rows =>
      obtain ⟨-, m, hm, hopen, -⟩ := he t hk q (by rw [hstage]; rfl)
      rw [hstage] at hallows'
      rw [show w p.shared = notifications.modify q.1 markQueued p.shared from hallows']
      refine staysSent_modify hm ?_ _
      rw [isOpen] at hopen
      cases hstatus : m.status <;> simp [hstatus, isSent] at hopen ⊢
  | attempting a i n rows =>
    obtain ⟨⟨m, hm, hstatus, -⟩, -, hcall⟩ := h.attempting t hmem a i n rows hstage
    have hnot : isSent m = false := by simp [isSent, hstatus]
    rw [hstage] at hallows'
    cases a with
    | marked =>
      rw [show w p.shared = apiCalls.insert _ p.shared from hallows']
      exact fun i m hm hsent => ⟨m, hm, hsent⟩
    | calling callId =>
      obtain ⟨response, -, hw⟩ := hallows'
      obtain ⟨c, hc, -⟩ := hcall callId rfl
      rw [hw, modifyIf_answer hc]
      exact fun i m hm hsent => ⟨m, hm, hsent⟩
    | answered success =>
      cases success with
      | true =>
        obtain ⟨now, response, -, hw⟩ := hallows'
        rw [hw]
        exact staysSent_modify hm hnot _
      | false =>
        obtain ⟨error, now, hw⟩ := hallows'
        rw [hw]
        exact staysSent_modify hm hnot _
  | lost => exact absurd hstage (h.found t hmem)

/-- **Workers that do not disturb each other do not resend.** -/
theorem not_resent {s : Store} (hs : Fresh s) {es es' : List (Event Call)}
    (h : AllSteps (Pool.step code) Undisturbed (Pool.idle s) (es ++ es')) :
    AllCounted (runFrom (Pool.step code) (Pool.idle s) es) ∧
      StaysSent (runFrom (Pool.step code) (Pool.idle s) es).shared
        (runFrom (Pool.step code) (Pool.idle s) (es ++ es')).shared := by
  obtain ⟨hbefore, hafter⟩ := AllSteps.append_iff.mp h
  have haccounted :=
    (hbefore.invariant (I := Accounted) (fun _ e hp => hp.step e) (accounted_idle hs)).last
  rw [runFrom_append]
  generalize runFrom (Pool.step code) (Pool.idle s) es = p at haccounted hafter
  refine ⟨haccounted.allCounted, ?_⟩
  have hlast := (hafter.invariant (I := fun q => Accounted q ∧ StaysSent p.shared q.shared)
    (fun q e hq he => ⟨hq.1.step e he, hq.2.trans (hq.1.staysSent e he)⟩)
    ⟨haccounted, StaysSent.refl _⟩).last
  exact hlast.2

lemma fresh_empty : Fresh {} where
  account := fun i => rfl
  notification := fun i m hm => by cases hm

/-- A message is queued. -/
def queued : List (Event Call) :=
  [.start (.sendWhatsAppMessage { recipientPhone := "234", messageText := some "Hi" } 0), .sched 0]

/-- A worker that starts at `now`, and what the API answers to it. -/
def worker (now : Time) (response : Response) : Event Call :=
  .start (.processPendingNotifications
    { now, response := fun _ => response, clock := fun _ => now })

/-- An attempt that is refused. -/
def refused : List (Event Call) := worker 1 (.error 500 "") :: List.replicate 5 (.sched 1)

/-- A later attempt of another worker, which succeeds. -/
def accepted : List (Event Call) := worker 9000 (.ok (some "wamid")) :: List.replicate 5 (.sched 2)

/-- A message is sent by the second of two workers. -/
theorem not_resent_retried :
    AllCounted (runFrom (Pool.step code) (Pool.idle {}) (queued ++ refused)) ∧
      StaysSent (runFrom (Pool.step code) (Pool.idle {}) (queued ++ refused)).shared
        (runFrom (Pool.step code) (Pool.idle {}) (queued ++ refused ++ accepted)).shared :=
  not_resent fresh_empty (by decide +kernel)

/-- Two workers that select the message before either has sent it. -/
def contending : List (Event Call) :=
  queued ++ [worker 1 (.ok (some "wamid")), worker 1 (.ok (some "wamid")), .sched 1, .sched 2] ++
    List.replicate 4 (.sched 1) ++ List.replicate 4 (.sched 2)

/-- It is accepted twice. -/
theorem resent :
    ¬ ∀ (s : Store) (es : List (Event Call)), Fresh s →
      AllCounted (runFrom (Pool.step code) (Pool.idle s) es) := by
  intro h
  have hpresent : ((runFrom (Pool.step code) (Pool.idle {})
      contending).shared.whatsAppNotification.get? 0).isSome := by
    decide +kernel
  have htwo : (account (runFrom (Pool.step code) (Pool.idle {}) contending).shared 0).accepted =
      2 := by
    decide +kernel
  obtain ⟨m, hm⟩ := Option.isSome_iff_exists.mp hpresent
  have hone := (h {} contending fresh_empty 0 m hm).accepted
  omega

end WhatsAppGateway

end Asoju.FieldForce
