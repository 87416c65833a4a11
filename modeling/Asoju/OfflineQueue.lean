/-
The offline queue of the field agent's portal.

Actions wait in the browser's storage until they can be sent.  `flushQueue` takes a snapshot of the
actions of one case and sends them one after the other; between two sends other flushes run and
other actions are queued.  What does not wait for an answer is one step: a flush up to its first
send, and an answer with all that follows it up to the next send.

An action leaves the queue when the server has answered with any HTTP error, also with one that
settles nothing.  `lossless_iff` says that this is the only way to lose an action, and that the
order of the first sends and the actions of other cases are safe in any case.
-/
import Asoju.Lib.Run
import Asoju.Lib.Table
import Asoju.Schema

namespace Asoju

open Lib

namespace OfflineQueue

/-! ### `apiFetch` -/

/-- What is read of the body of a response. -/
inductive Body where
  | empty
  /-- Not JSON, or cut off on the way. -/
  | invalid
  | null
  | json (message : Option String)
deriving DecidableEq

/-- A response of the server. -/
structure Response where
  status : ℕ
  body : Body
deriving DecidableEq

namespace Response

/-- `res.ok` -/
def ok (res : Response) : Bool := 200 ≤ res.status ∧ res.status < 300

end Response

/-- What a rejected promise of `apiFetch` carries. -/
inductive FetchError where
  | apiError (message : String) (status : ℕ)
  /-- Every other error: of the network, of the JSON parser, of the code. -/
  | other
deriving DecidableEq

/-- All that the network and the server answer to one call of `apiFetch`. -/
structure Exchange where
  /-- The first answer, unless the network fails. -/
  first : Option Response
  /-- `getRefreshToken()` finds a token. -/
  hasRefreshToken : Bool
  /-- The result of `refreshPromise`. -/
  refreshed : Bool
  /-- The answer to the second try, unless the network fails. -/
  second : Option Response
deriving DecidableEq

/-- The end of `apiFetch`: what becomes of a response. -/
def readResponse (res : Response) : Except FetchError Unit :=
  if res.ok then
    match res.body with
    | .invalid => if res.status = 204 then .ok () else .error .other
    | _ => .ok ()
  else
    match res.body with
    -- The message of `null` is looked up, which is a TypeError.
    | .null => .error .other
    | .json (some message) => .error (.apiError message res.status)
    | _ => .error (.apiError s!"Request failed with status {res.status}" res.status)

/-- `apiFetch` -/
def apiFetch (x : Exchange) : Except FetchError Unit :=
  match x.first with
  | none => .error .other
  | some res =>
      if res.status = 401 ∧ x.hasRefreshToken then
        if x.refreshed then
          match x.second with
          | none => .error .other
          | some res => readResponse res
        else
          .error (.apiError "Session expired — please sign in again." 401)
      else
        readResponse res

/-- `isNetworkFailure` -/
def isNetworkFailure : FetchError → Bool
  | .apiError _ _ => false
  | .other => true

/-- The response that the server has left it at. -/
def Exchange.last (x : Exchange) : Option Response :=
  x.first.bind fun res =>
    if res.status = 401 ∧ x.hasRefreshToken ∧ x.refreshed then x.second else some res

/-- A status with which the server rejects a request for good. -/
def permanent (status : ℕ) : Bool :=
  400 ≤ status ∧ status < 500 ∧ status ∉ [401, 408, 409, 429]

/-- The server has accepted the request, or rejected it for good. -/
def Exchange.concludes (x : Exchange) : Bool :=
  x.last.any fun res => res.ok || permanent res.status

/-! ### The queue -/

inductive QueuedActionKind where
  | task
  | evidence
  | location
deriving DecidableEq

/-- A queued action.  Its `id` is the key of its row. -/
structure QueuedAction where
  kind : QueuedActionKind
  caseId : Id
  path : String
  body : String
  createdAt : Time
  taskId : Option Id
deriving DecidableEq

/-- The stored queue: actions in the order in which they were queued. -/
structure Queue extends Table QueuedAction where
  ordered : rows.Pairwise fun p q => p.1 < q.1

namespace Queue

/-- The queue without actions. -/
def empty : Queue where
  toTable := Table.empty
  ordered := List.Pairwise.nil

/-- `getQueue` -/
def getQueue (caseId : Id) (queue : Queue) : List (Id × QueuedAction) :=
  queue.rows.filter fun p => p.2.caseId = caseId

/-- `enqueue`.  The new action gets an `id` of its own. -/
def enqueue (action : QueuedAction) (now : Time) (queue : Queue) : Queue where
  toTable := queue.toTable.insert { action with createdAt := now }
  ordered := by
    rw [Table.rows_insert, List.pairwise_append]
    refine ⟨queue.ordered, List.pairwise_singleton _ _, fun p hp q hq => ?_⟩
    rw [List.mem_singleton.mp hq]
    exact queue.fresh p hp

/-- `removeFromQueue` -/
def removeFromQueue (id : Id) (queue : Queue) : Queue where
  toTable := queue.toTable.erase id
  ordered := queue.ordered.filter _

end Queue

/-! ### Flushes -/

/-- A run of `flushQueue` that waits for the answer to the first action of `rest`, or that has
returned, when there is none. -/
structure Flush where
  caseId : Id
  rest : List (Id × QueuedAction)
  flushed : ℕ

/-- The portal: what is stored, the flushes, and what has been sent to the server. -/
structure App where
  queue : Queue
  flushes : List Flush := []
  /-- Everything that has been sent, in this order. -/
  sent : List (Id × QueuedAction) := []
  /-- The actions that the server has accepted or rejected for good. -/
  concluded : List Id := []

inductive Event where
  | enqueue (action : QueuedAction) (now : Time)
  | flushQueue (caseId : Id) (onLine : Bool)
  /-- The answer to what the flush at a position has sent. -/
  | answer (i : ℕ) (x : Exchange)
deriving DecidableEq

namespace App

/-- A flush goes on with the next action, which it sends. -/
def goOn (i : ℕ) (f : Flush) (s : App) : App :=
  { s with flushes := s.flushes.set i f, sent := s.sent ++ f.rest.head?.toList }

/-- `removeFromQueue` on what is stored. -/
def remove (id : Id) (s : App) : App := { s with queue := s.queue.removeFromQueue id }

/-- What the server has done with an action. -/
def record (id : Id) (x : Exchange) (s : App) : App :=
  if x.concludes then { s with concluded := id :: s.concluded } else s

/-- `flushQueue` up to its first send. -/
def flushQueue (caseId : Id) (onLine : Bool) (s : App) : App :=
  if onLine then
    let snapshot := s.queue.getQueue caseId
    { s with
      flushes := s.flushes ++ [⟨caseId, snapshot, 0⟩]
      sent := s.sent ++ snapshot.head?.toList }
  else
    s

/-- The body of the loop of `flushQueue` from the answer on. -/
def answered (i : ℕ) (f : Flush) (id : Id) (rest : List (Id × QueuedAction)) (x : Exchange)
    (s : App) : App :=
  match apiFetch x with
  | .ok () => (s.remove id).goOn i { f with rest, flushed := f.flushed + 1 }
  | .error err =>
      if isNetworkFailure err then
        { s with flushes := s.flushes.set i { f with rest := [] } }
      else
        (s.remove id).goOn i { f with rest }

end App

/-- One step of the portal. -/
def step (s : App) : Event → App
  | .enqueue action now => { s with queue := s.queue.enqueue action now }
  | .flushQueue caseId onLine => s.flushQueue caseId onLine
  | .answer i x =>
      match s.flushes[i]? with
      | none => s
      | some f =>
          match f.rest with
          | [] => s
          | (id, _) :: rest => (s.record id x).answered i f id rest x

/-! ### What is promised of the queue -/

/-- The case whose actions an event flushes. -/
def flushedCase (s : App) : Event → Option Id
  | .enqueue _ _ => none
  | .flushQueue caseId _ => some caseId
  | .answer i _ => s.flushes[i]?.map Flush.caseId

/-- The first send of each action. -/
def firstSends (sent : List (Id × QueuedAction)) : List (Id × QueuedAction) :=
  sent.foldl (fun first p => if p.1 ∈ first.map Prod.fst then first else first ++ [p]) []

/-- Of two actions of one case, the one that was queued first is sent first. -/
def InOrder (sent : List (Id × QueuedAction)) : Prop :=
  (firstSends sent).Pairwise fun p q => p.2.caseId = q.2.caseId → p.1 < q.1

/-- **A step loses nothing**: an action only leaves the queue when the server has accepted it or
rejected it for good, the first sends are in order, and the actions of other cases stay as they
are. -/
structure Lossless (s : App) (e : Event) : Prop where
  leaves : ∀ id action, s.queue.get? id = some action →
    (step s e).queue.get? id = some action ∨ id ∈ (step s e).concluded
  others : ∀ caseId, flushedCase s e = some caseId → ∀ id action, action.caseId ≠ caseId →
    ((step s e).queue.get? id = some action ↔ s.queue.get? id = some action)
  ordered : InOrder (step s e).sent

/-- The action that the flush at a position has sent and that is not answered yet. -/
def App.inFlight (i : ℕ) (s : App) : Option Id :=
  s.flushes[i]?.bind fun f => f.rest.head?.map Prod.fst

/-- The server does not answer an action with an HTTP error that leaves it open, unless the action
has left the queue or has been decided on before. -/
def Conclusive (s : App) : Event → Prop
  | .answer i x => ∀ id, s.inFlight i = some id → ∀ message status,
      apiFetch x = .error (.apiError message status) →
        permanent status ∨ s.queue.get? id = none ∨ id ∈ s.concluded
  | _ => True

/-! ### Answers -/

lemma readResponse_ok {res : Response} (h : readResponse res = .ok ()) : res.ok := by
  by_contra hok
  rw [readResponse, if_neg hok] at h
  split at h <;> cases h

lemma readResponse_apiError {res : Response} {message : String} {status : ℕ}
    (h : readResponse res = .error (.apiError message status)) :
    res.ok = false ∧ res.status = status := by
  rw [readResponse] at h
  by_cases hok : res.ok
  · rw [if_pos hok] at h
    split at h
    · by_cases hempty : res.status = 204
      · rw [if_pos hempty] at h
        cases h
      · rw [if_neg hempty] at h
        cases h
    · cases h
  · rw [if_neg hok] at h
    refine ⟨Bool.eq_false_iff.mpr hok, ?_⟩
    split at h <;> cases h <;> rfl

/-- `apiFetch` either reads the last response, or gives up a session that is over. -/
lemma apiFetch_cases (x : Exchange) :
    (x.last = none ∧ apiFetch x = .error .other) ∨
    (∃ res, x.last = some res ∧ apiFetch x = readResponse res) ∨
    (∃ res message, x.last = some res ∧ res.status = 401 ∧
      apiFetch x = .error (.apiError message 401)) := by
  rw [Exchange.last, apiFetch]
  cases x.first with
  | none => exact .inl ⟨rfl, rfl⟩
  | some res =>
    dsimp only [Option.bind_some]
    by_cases h : res.status = 401 ∧ x.hasRefreshToken
    · rw [if_pos h]
      by_cases hrefreshed : x.refreshed
      · rw [if_pos ⟨h.1, h.2, hrefreshed⟩, if_pos hrefreshed]
        cases x.second with
        | none => exact .inl ⟨rfl, rfl⟩
        | some res' => exact .inr (.inl ⟨res', rfl, rfl⟩)
      · rw [if_neg fun h' => hrefreshed h'.2.2, if_neg hrefreshed]
        exact .inr (.inr ⟨res, _, rfl, h.1, rfl⟩)
    · rw [if_neg h, if_neg fun h' => h ⟨h'.1, h'.2.1⟩]
      exact .inr (.inl ⟨res, rfl, rfl⟩)

/-- What `apiFetch` takes for a success, the server has accepted. -/
lemma concludes_of_ok {x : Exchange} (h : apiFetch x = .ok ()) : x.concludes := by
  rcases apiFetch_cases x with ⟨-, hx⟩ | ⟨res, hlast, hx⟩ | ⟨res, message, -, -, hx⟩
  · rw [hx] at h
    cases h
  · rw [hx] at h
    simp [Exchange.concludes, hlast, readResponse_ok h]
  · rw [hx] at h
    cases h

/-- An HTTP error decides on the request only if its status is one of those that do. -/
lemma concludes_of_apiError {x : Exchange} {message : String} {status : ℕ}
    (h : apiFetch x = .error (.apiError message status)) : x.concludes = permanent status := by
  rcases apiFetch_cases x with ⟨-, hx⟩ | ⟨res, hlast, hx⟩ | ⟨res, message', hlast, hstatus, hx⟩
  · rw [hx] at h
    cases h
  · rw [hx] at h
    obtain ⟨hok, rfl⟩ := readResponse_apiError h
    simp [Exchange.concludes, hlast, hok]
  · rw [hx] at h
    cases h
    simp [Exchange.concludes, hlast, hstatus, Response.ok]

/-! ### What a step does -/

/-- The actions whose rows a removal leaves. -/
lemma get?_removeFromQueue (queue : Queue) (id j : Id) :
    (queue.removeFromQueue id).get? j = if j = id then none else queue.get? j :=
  Table.get?_erase _ _ _

/-- **The steps of the portal.**  An action is queued; a flush begins; the answer of a flush is of
no account, ends the flush, or takes the action off the queue and sends the next one. -/
inductive Moves (s : App) : Event → App → Prop
  | enqueue (action now) : Moves s (.enqueue action now)
      { s with queue := s.queue.enqueue action now }
  | offLine (caseId) : Moves s (.flushQueue caseId false) s
  | begin (caseId) : Moves s (.flushQueue caseId true)
      { s with
        flushes := s.flushes ++ [⟨caseId, s.queue.getQueue caseId, 0⟩]
        sent := s.sent ++ (s.queue.getQueue caseId).head?.toList }
  | stray (i x) (hidle : s.inFlight i = none) : Moves s (.answer i x) s
  | stop (i x f id action rest) (hf : s.flushes[i]? = some f)
      (hrest : f.rest = (id, action) :: rest) (hx : apiFetch x = .error .other) : Moves s (.answer i x)
      { s.record id x with flushes := s.flushes.set i { f with rest := [] } }
  | take (i x f id action rest flushed) (hf : s.flushes[i]? = some f)
      (hrest : f.rest = (id, action) :: rest)
      (hx : apiFetch x = .ok () ∨
        ∃ message status, apiFetch x = .error (.apiError message status)) :
      Moves s (.answer i x) (((s.record id x).remove id).goOn i { f with rest, flushed })

lemma record_flushes (s : App) (id : Id) (x : Exchange) : (s.record id x).flushes = s.flushes := by
  rw [App.record]
  split_ifs <;> rfl

lemma record_sent (s : App) (id : Id) (x : Exchange) : (s.record id x).sent = s.sent := by
  rw [App.record]
  split_ifs <;> rfl

lemma record_queue (s : App) (id : Id) (x : Exchange) : (s.record id x).queue = s.queue := by
  rw [App.record]
  split_ifs <;> rfl

lemma mem_record_concluded {s : App} {id j : Id} {x : Exchange} :
    j ∈ (s.record id x).concluded ↔ (x.concludes ∧ j = id) ∨ j ∈ s.concluded := by
  rw [App.record]
  split_ifs with h
  · simp [h]
  · simp [h]

lemma moves_step (s : App) (e : Event) : Moves s e (step s e) := by
  cases e with
  | enqueue action now => exact .enqueue action now
  | flushQueue caseId onLine =>
    cases onLine with
    | false => exact .offLine caseId
    | true => exact .begin caseId
  | answer i x =>
    rw [step]
    cases hf : s.flushes[i]? with
    | none => exact .stray i x (by rw [App.inFlight, hf]; rfl)
    | some f =>
      dsimp only
      cases hrest : f.rest with
      | nil => exact .stray i x (by rw [App.inFlight, hf, Option.bind_some, hrest]; rfl)
      | cons p rest =>
        obtain ⟨id, action⟩ := p
        dsimp only
        rw [App.answered]
        cases hx : apiFetch x with
        | ok =>
          exact .take i x f id action rest (f.flushed + 1) hf hrest (.inl hx)
        | error err =>
          cases err with
          | apiError message status =>
            exact .take i x f id action rest f.flushed hf hrest (.inr ⟨message, status, hx⟩)
          | other =>
            dsimp only
            rw [if_pos (show isNetworkFailure .other = true from rfl), record_flushes]
            exact .stop i x f id action rest hf hrest hx

/-! ### The order of the sends -/

lemma firstSends_concat (sent : List (Id × QueuedAction)) (p : Id × QueuedAction) :
    firstSends (sent ++ [p]) =
      if p.1 ∈ (firstSends sent).map Prod.fst then firstSends sent else firstSends sent ++ [p] := by
  rw [firstSends, List.foldl_append]
  rfl

lemma mem_map_firstSends {sent : List (Id × QueuedAction)} {id : Id} :
    id ∈ (firstSends sent).map Prod.fst ↔ id ∈ sent.map Prod.fst := by
  induction sent using List.reverseRecOn with
  | nil => rfl
  | append_singleton sent p ih =>
    rw [firstSends_concat, List.map_append, List.mem_append, ← ih]
    split_ifs with hp
    · constructor
      · exact Or.inl
      · rintro (h | h)
        · exact h
        · rw [List.map_cons, List.map_nil, List.mem_singleton] at h
          rwa [h]
    · rw [List.map_append, List.mem_append]

lemma mem_of_mem_firstSends {sent : List (Id × QueuedAction)} {p : Id × QueuedAction}
    (h : p ∈ firstSends sent) : p ∈ sent := by
  induction sent using List.reverseRecOn with
  | nil => exact h
  | append_singleton sent q ih =>
    rw [firstSends_concat] at h
    split_ifs at h
    · exact List.mem_append_left _ (ih h)
    · rcases List.mem_append.mp h with h | h
      · exact List.mem_append_left _ (ih h)
      · exact List.mem_append_right _ h

/-- The order is kept by a send of an action, sent before or queued after what was sent of its
case. -/
lemma InOrder.concat {sent : List (Id × QueuedAction)} (h : InOrder sent) {p : Id × QueuedAction}
    (hp : p.1 ∉ sent.map Prod.fst → ∀ q ∈ sent, q.2.caseId = p.2.caseId → q.1 < p.1) :
    InOrder (sent ++ [p]) := by
  rw [InOrder, firstSends_concat]
  split_ifs with hbefore
  · exact h
  · rw [List.pairwise_append]
    refine ⟨h, List.pairwise_singleton _ _, fun q hq r hr hcase => ?_⟩
    rw [List.mem_singleton.mp hr] at hcase ⊢
    exact hp (fun h => hbefore (mem_map_firstSends.mpr h)) q (mem_of_mem_firstSends hq) hcase

/-- An action has been sent. -/
def App.Sent (s : App) (id : Id) : Prop := id ∈ s.sent.map Prod.fst

/-- What a flush still has to send is in the order of the queue.  Each of these actions is still
stored or has been sent, and what is queued before one of them has been sent or is among them. -/
structure Pending (s : App) (f : Flush) : Prop where
  sorted : f.rest.Pairwise fun p q => p.1 < q.1
  ofCase : ∀ p ∈ f.rest, p.2.caseId = f.caseId
  known : ∀ p ∈ f.rest, p.1 < s.queue.next
  stored : ∀ p ∈ f.rest, p ∈ s.queue.rows ∨ s.Sent p.1
  same : ∀ p ∈ f.rest, ∀ q ∈ s.queue.rows, q.1 = p.1 → q = p
  covers : ∀ p ∈ f.rest, ∀ q ∈ s.queue.rows, q.2.caseId = f.caseId → q.1 < p.1 →
    s.Sent q.1 ∨ q ∈ f.rest

/-- A flush between two steps: it has sent the first of its actions. -/
structure Flushing (s : App) (f : Flush) : Prop extends Pending s f where
  inFlight : ∀ p ∈ f.rest.head?, s.Sent p.1

/-- **The invariant of the order**: what is queued before a sent action of its case has been sent
as well. -/
structure Orderly (s : App) : Prop where
  flushing : ∀ f ∈ s.flushes, Flushing s f
  known : ∀ p ∈ s.sent, p.1 < s.queue.next
  before : ∀ p ∈ s.sent, ∀ q ∈ s.queue.rows, q.2.caseId = p.2.caseId → q.1 < p.1 → s.Sent q.1
  ordered : InOrder s.sent

/-- The stored actions become fewer or later ones, and what is sent stays so. -/
structure Extends (s t : App) : Prop where
  sent : ∀ p ∈ s.sent, p ∈ t.sent
  next : s.queue.next ≤ t.queue.next
  rows : ∀ p ∈ t.queue.rows, p ∈ s.queue.rows ∨ s.queue.next ≤ p.1
  gone : ∀ p ∈ s.queue.rows, p ∈ t.queue.rows ∨ t.Sent p.1

lemma Extends.sentId {s t : App} (h : Extends s t) {id : Id} (hid : s.Sent id) : t.Sent id := by
  obtain ⟨p, hp, rfl⟩ := List.mem_map.mp hid
  exact List.mem_map_of_mem (h.sent p hp)

/-- What a flush has to send is not disturbed by what others do. -/
lemma Pending.of_extends {s t : App} {f : Flush} (h : Pending s f) (hst : Extends s t) :
    Pending t f where
  sorted := h.sorted
  ofCase := h.ofCase
  known p hp := (h.known p hp).trans_le hst.next
  stored p hp := by
    rcases h.stored p hp with hrow | hsent
    · exact hst.gone p hrow
    · exact .inr (hst.sentId hsent)
  same p hp q hq hid := by
    rcases hst.rows q hq with hrow | hnew
    · exact h.same p hp q hrow hid
    · exact absurd (h.known p hp) (not_lt.mpr (hnew.trans hid.le))
  covers p hp q hq hcase hlt := by
    rcases hst.rows q hq with hrow | hnew
    · exact (h.covers p hp q hrow hcase hlt).imp_left hst.sentId
    · exact absurd (hlt.trans (h.known p hp)) (not_lt.mpr hnew)

lemma Flushing.of_extends {s t : App} {f : Flush} (h : Flushing s f) (hst : Extends s t) :
    Flushing t f where
  toPending := h.toPending.of_extends hst
  inFlight p hp := hst.sentId (h.inFlight p hp)

/-- A flush that has returned. -/
lemma flushing_returned (s : App) (f : Flush) : Flushing s { f with rest := [] } where
  sorted := List.Pairwise.nil
  ofCase _ hp := absurd hp List.not_mem_nil
  known _ hp := absurd hp List.not_mem_nil
  stored _ hp := absurd hp List.not_mem_nil
  same _ hp := absurd hp List.not_mem_nil
  covers _ hp := absurd hp List.not_mem_nil
  inFlight _ hp := by cases hp

/-- Without a send the order is kept. -/
lemma Orderly.of_extends {s t : App} (h : Orderly s) (hst : Extends s t) (hsent : t.sent = s.sent)
    (hflushes : ∀ f ∈ t.flushes, Flushing s f) : Orderly t where
  flushing f hf := (hflushes f hf).of_extends hst
  known p hp := by
    rw [hsent] at hp
    exact (h.known p hp).trans_le hst.next
  before p hp q hq hcase hlt := by
    rw [hsent] at hp
    rcases hst.rows q hq with hrow | hnew
    · exact hst.sentId (h.before p hp q hrow hcase hlt)
    · exact absurd (hlt.trans (h.known p hp)) (not_lt.mpr hnew)
  ordered := by
    rw [hsent]
    exact h.ordered

/-- **A send keeps the order.** -/
lemma Orderly.send {s t : App} (h : Orderly s) {f : Flush} (hf : Pending s f)
    (hqueue : t.queue = s.queue) (hsent : t.sent = s.sent ++ f.rest.head?.toList)
    (hflushes : ∀ g ∈ t.flushes, g = f ∨ g ∈ s.flushes) : Orderly t := by
  have hst : Extends s t := by
    refine ⟨fun p hp => ?_, le_of_eq (by rw [hqueue]), fun p hp => .inl ?_, fun p hp => .inl ?_⟩
    · rw [hsent]
      exact List.mem_append_left _ hp
    · rwa [hqueue] at hp
    · rwa [hqueue]
  have hflushing : ∀ g ∈ t.flushes, Flushing t g := by
    intro g hg
    rcases hflushes g hg with rfl | hold
    · refine ⟨hf.of_extends hst, fun p hp => ?_⟩
      rw [App.Sent, hsent, List.map_append, List.mem_append]
      exact .inr (List.mem_map_of_mem (Option.mem_toList.mpr hp))
    · exact (h.flushing g hold).of_extends hst
  cases hrest : f.rest with
  | nil =>
    rw [hrest, List.head?_nil, Option.toList_none, List.append_nil] at hsent
    exact h.of_extends hst hsent fun g hg => by
      rcases hflushes g hg with rfl | hold
      · have : g = { g with rest := [] } := by rw [← hrest]
        rw [this]
        exact flushing_returned s g
      · exact h.flushing g hold
  | cons p rest =>
    have hp : p ∈ f.rest := by
      rw [hrest]
      exact List.mem_cons_self
    rw [hrest, List.head?_cons, Option.toList_some] at hsent
    -- What is queued before the new action is not among those that still wait, so it is sent.
    have hfirst : ∀ q ∈ s.queue.rows, q.2.caseId = f.caseId → q.1 < p.1 → s.Sent q.1 := by
      intro q hq hcase hlt
      refine (hf.covers p hp q hq hcase hlt).resolve_right fun hmem => ?_
      have hsorted := hf.sorted
      rw [hrest] at hmem hsorted
      rcases List.mem_cons.mp hmem with rfl | hmem
      · exact lt_irrefl _ hlt
      · exact lt_asymm hlt (List.rel_of_pairwise_cons hsorted hmem)
    refine ⟨hflushing, fun q hq => ?_, fun q hq r hr hcase hlt => ?_, ?_⟩
    · rw [hsent] at hq
      rw [hqueue]
      rcases List.mem_append.mp hq with hq | hq
      · exact h.known q hq
      · rw [List.mem_singleton.mp hq]
        exact hf.known p hp
    · rw [hsent] at hq
      rw [hqueue] at hr
      rcases List.mem_append.mp hq with hq | hq
      · exact hst.sentId (h.before q hq r hr hcase hlt)
      · rw [List.mem_singleton.mp hq] at hcase hlt
        exact hst.sentId (hfirst r hr (hcase.trans (hf.ofCase p hp)) hlt)
    · rw [hsent]
      refine h.ordered.concat fun hnew q hq hcase => ?_
      -- An action that has not been sent is still stored.
      have hrow : p ∈ s.queue.rows := (hf.stored p hp).resolve_right hnew
      rcases lt_trichotomy q.1 p.1 with hlt | heq | hlt
      · exact hlt
      · exact absurd (List.mem_map.mpr ⟨q, hq, heq⟩) hnew
      · exact absurd (h.before q hq p hrow hcase.symm hlt) hnew

lemma mem_erase_rows {queue : Queue} {id : Id} {p : Id × QueuedAction} :
    p ∈ (queue.removeFromQueue id).rows ↔ p ∈ queue.rows ∧ p.1 ≠ id := by
  exact List.mem_filter.trans (and_congr_right fun _ => decide_eq_true_iff)

/-- The snapshot of a flush is all it has to send. -/
lemma pending_snapshot (s : App) (caseId : Id) :
    Pending s ⟨caseId, s.queue.getQueue caseId, 0⟩ where
  sorted := s.queue.ordered.filter _
  ofCase _ hp := of_decide_eq_true (List.mem_filter.mp hp).2
  known p hp := s.queue.fresh p (List.mem_filter.mp hp).1
  stored _ hp := .inl (List.mem_filter.mp hp).1
  same p hp q hq hid := by
    have hget : s.queue.get? p.1 = some p.2 := s.queue.mem_rows_iff.mp (List.mem_filter.mp hp).1
    have hget' : s.queue.get? q.1 = some q.2 := s.queue.mem_rows_iff.mp hq
    rw [hid, hget, Option.some_inj] at hget'
    exact Prod.ext hid hget'.symm
  covers _ _ q hq hcase _ := .inr (List.mem_filter.mpr ⟨hq, decide_eq_true hcase⟩)

/-- **Each step keeps the order.** -/
lemma orderly_step {s : App} (h : Orderly s) (e : Event) : Orderly (step s e) := by
  have hmoves : Moves s e (step s e) := moves_step s e
  generalize step s e = t at hmoves
  cases hmoves with
  | enqueue action now =>
    refine h.of_extends ⟨fun p hp => hp, Nat.le_succ _, fun p hp => ?_, fun p hp => .inl ?_⟩ rfl
      h.flushing
    · rcases List.mem_append.mp hp with hp | hp
      · exact .inl hp
      · rw [List.mem_singleton.mp hp]
        exact .inr le_rfl
    · exact List.mem_append_left _ hp
  | offLine caseId => exact h
  | begin caseId =>
    refine h.send (pending_snapshot s caseId) rfl rfl fun g hg => ?_
    rcases List.mem_append.mp hg with hg | hg
    · exact .inr hg
    · exact .inl (List.mem_singleton.mp hg)
  | stray i x hidle => exact h
  | stop i x f id action rest hf hrest hx =>
    refine h.of_extends ⟨fun p hp => ?_, le_of_eq ?_, fun p hp => .inl ?_, fun p hp => .inl ?_⟩
      (record_sent s id x) fun g hg => ?_
    · rwa [record_sent]
    · rw [record_queue]
    · rwa [record_queue] at hp
    · rwa [record_queue]
    · rcases List.mem_or_eq_of_mem_set hg with hg | rfl
      · exact h.flushing g hg
      · exact flushing_returned s f
  | take i x f id action rest flushed hf hrest hx =>
    have hflush : Flushing s f := h.flushing f (List.mem_of_getElem? hf)
    have hsent : s.Sent id := by
      refine hflush.inFlight (id, action) ?_
      rw [hrest, List.head?_cons]
      rfl
    -- The action is taken off the queue, and nothing else changes before the next send.
    have hqueue : ((s.record id x).remove id).queue = s.queue.removeFromQueue id := by
      rw [App.remove, record_queue]
    have hst : Extends s ((s.record id x).remove id) := by
      refine ⟨fun p hp => ?_, le_of_eq ?_, fun p hp => .inl ?_, fun p hp => ?_⟩
      · rwa [App.remove, record_sent]
      · rw [hqueue]
        rfl
      · rw [hqueue] at hp
        exact (mem_erase_rows.mp hp).1
      · rw [hqueue, mem_erase_rows]
        by_cases hid : p.1 = id
        · rw [hid, App.Sent, App.remove, record_sent]
          exact .inr hsent
        · exact .inl ⟨hp, hid⟩
    have horderly : Orderly ((s.record id x).remove id) := by
      refine h.of_extends hst (record_sent s id x) fun g hg => ?_
      rw [App.remove, record_flushes] at hg
      exact h.flushing g hg
    have hpending : Pending ((s.record id x).remove id) { f with rest, flushed } := by
      have hall : Pending ((s.record id x).remove id) f := hflush.toPending.of_extends hst
      obtain ⟨hsorted, hcase, hknown, hstored, hsame, hcovers⟩ := hall
      rw [hrest] at hsorted hcase hknown hstored hsame hcovers
      refine ⟨List.Pairwise.of_cons hsorted, fun p hp => hcase p (List.mem_cons_of_mem _ hp),
        fun p hp => hknown p (List.mem_cons_of_mem _ hp),
        fun p hp => hstored p (List.mem_cons_of_mem _ hp),
        fun p hp => hsame p (List.mem_cons_of_mem _ hp), fun p hp q hq hqcase hlt => ?_⟩
      rcases hcovers p (List.mem_cons_of_mem _ hp) q hq hqcase hlt with hq' | hq'
      · exact .inl hq'
      · refine (List.mem_cons.mp hq').imp_left fun heq => ?_
        rw [heq]
        exact hst.sentId hsent
    refine horderly.send hpending rfl rfl fun g hg => ?_
    exact (List.mem_or_eq_of_mem_set hg).symm

lemma orderly_start (queue : Queue) : Orderly { queue } where
  flushing _ hf := absurd hf List.not_mem_nil
  known _ hp := absurd hp List.not_mem_nil
  before _ hp := absurd hp List.not_mem_nil
  ordered := List.Pairwise.nil

/-! ### What leaves the queue -/

/-- A flush touches the actions of its case only. -/
lemma others_step {s : App} (h : Orderly s) {e : Event} {caseId : Id}
    (hcase : flushedCase s e = some caseId) {id : Id} {action : QueuedAction}
    (hne : action.caseId ≠ caseId) :
    (step s e).queue.get? id = some action ↔ s.queue.get? id = some action := by
  have hmoves : Moves s e (step s e) := moves_step s e
  generalize step s e = t at hmoves
  cases hmoves with
  | enqueue action now => cases hcase
  | offLine caseId => exact Iff.rfl
  | begin caseId => exact Iff.rfl
  | stray i x hidle => exact Iff.rfl
  | stop i x f id action rest hf hrest hx => rw [record_queue]
  | take i x f taken action' rest flushed hf hrest hx =>
    rw [flushedCase, hf, Option.map_some, Option.some_inj] at hcase
    have hqueue : ((s.record taken x).remove taken).queue = s.queue.removeFromQueue taken := by
      rw [App.remove, record_queue]
    rw [App.goOn, hqueue, get?_removeFromQueue]
    split_ifs with hid
    · -- The action that is taken is of the case of the flush.
      constructor
      · rintro ⟨⟩
      · intro hget
        have hflush : Flushing s f := h.flushing f (List.mem_of_getElem? hf)
        have hhead : (taken, action') ∈ f.rest := by
          rw [hrest]
          exact List.mem_cons_self
        have heq : (id, action) = (taken, action') :=
          hflush.same _ hhead (id, action) (s.queue.mem_rows_iff.mpr hget) hid
        have hof : action'.caseId = f.caseId := hflush.ofCase _ hhead
        rw [← (Prod.mk.inj heq).2, hcase] at hof
        exact absurd hof hne
    · exact Iff.rfl

lemma inFlight_of_rest {s : App} {i : ℕ} {f : Flush} {id : Id} {action : QueuedAction}
    {rest : List (Id × QueuedAction)} (hf : s.flushes[i]? = some f)
    (hrest : f.rest = (id, action) :: rest) : s.inFlight i = some id := by
  rw [App.inFlight, hf, Option.bind_some, hrest]
  rfl

/-- **An action is lost** by the answers that are not conclusive, and by nothing else. -/
lemma leaves_iff (s : App) (e : Event) :
    (∀ id action, s.queue.get? id = some action →
      (step s e).queue.get? id = some action ∨ id ∈ (step s e).concluded) ↔ Conclusive s e := by
  have hmoves : Moves s e (step s e) := moves_step s e
  generalize step s e = t at hmoves
  cases hmoves with
  | enqueue action now =>
    refine iff_of_true (fun id action' hget => .inl ?_) trivial
    exact Table.get?_insert_of_some hget _
  | offLine caseId => exact iff_of_true (fun _ _ hget => .inl hget) trivial
  | begin caseId => exact iff_of_true (fun _ _ hget => .inl hget) trivial
  | stray i x hidle =>
    refine iff_of_true (fun _ _ hget => .inl hget) fun id hid => ?_
    rw [hidle] at hid
    cases hid
  | stop i x f id action rest hf hrest hx =>
    refine iff_of_true (fun j action' hget => .inl ?_) fun j _ message status hx' => ?_
    · rwa [record_queue]
    · rw [hx] at hx'
      cases hx'
  | take i x f id action rest flushed hf hrest hx =>
    have hin : s.inFlight i = some id := inFlight_of_rest hf hrest
    have hget : ∀ j, (((s.record id x).remove id).goOn i { f with rest, flushed }).queue.get? j =
        if j = id then none else s.queue.get? j := by
      intro j
      rw [App.goOn, App.remove, record_queue]
      exact get?_removeFromQueue _ _ _
    have hconcluded : ∀ j,
        j ∈ (((s.record id x).remove id).goOn i { f with rest, flushed }).concluded ↔
          (x.concludes ∧ j = id) ∨ j ∈ s.concluded := fun _ => mem_record_concluded
    constructor
    · intro hleaves j hj message status hx'
      rw [hin, Option.some_inj] at hj
      subst hj
      cases hstored : s.queue.get? id with
      | none => exact .inr (.inl rfl)
      | some action' =>
        have h := hleaves id action' hstored
        rw [hget, if_pos rfl, hconcluded, concludes_of_apiError hx'] at h
        rcases h with h | ⟨hpermanent, -⟩ | hbefore
        · cases h
        · exact .inl hpermanent
        · exact .inr (.inr hbefore)
    · intro hconclusive j action' hstored
      rw [hget, hconcluded]
      by_cases hj : j = id
      · rw [if_pos hj]
        subst hj
        rcases hx with hok | ⟨message, status, herror⟩
        · exact .inr (.inl ⟨concludes_of_ok hok, rfl⟩)
        · rcases hconclusive j hin message status herror with hpermanent | hgone | hbefore
          · exact .inr (.inl ⟨by rwa [concludes_of_apiError herror], rfl⟩)
          · rw [hgone] at hstored
            cases hstored
          · exact .inr (.inr hbefore)
      · rw [if_neg hj]
        exact .inl hstored

/-- **The offline queue** loses nothing, from any queue on and however its flushes interleave,
exactly if the server never leaves a queued action open with an HTTP error. -/
theorem lossless_iff (queue : Queue) (es : List Event) :
    AllSteps step Lossless { queue } es ↔ AllSteps step Conclusive { queue } es := by
  refine allSteps_congr_of_invariant (I := Orderly) (fun s e h => orderly_step h e)
    (fun s e h => ?_) (orderly_start queue) es
  rw [← leaves_iff]
  constructor
  · exact Lossless.leaves
  · intro hleaves
    exact ⟨hleaves, fun caseId hcase id action hne => others_step h hcase hne,
      (orderly_step h e).ordered⟩

/-- A ticked item of a checklist. -/
def tick : QueuedAction where
  kind := .task
  caseId := 0
  path := "/assignments/0/tasks/0/complete"
  body := "\x7b\x7d"
  createdAt := 0
  taskId := some 0

/-- The server is down for a moment. -/
def unavailable : Exchange where
  first := some ⟨503, .empty⟩
  hasRefreshToken := true
  refreshed := false
  second := none

/-- A server that is down for a moment takes an action off the queue that it has not seen. -/
theorem not_lossless :
    ¬ AllSteps step Lossless { queue := Queue.empty.enqueue tick 0 }
      [.flushQueue 0 true, .answer 0 unavailable] := by
  rintro ⟨-, h, -⟩
  exact absurd (h.leaves 0 tick rfl) (by decide)

end OfflineQueue

end Asoju
