/-
The attempts at the delivery of a message.

A claim counts the attempt that is about to be made, and the result of the delivery is written with
the count that the worker has read.  With a single worker nothing comes in between, so the count is
the number of calls since the message was published or replayed, the current one included.
`disciplined` is the retry discipline that follows.
-/
import Asoju.FieldForce.OutboxRuns

namespace Asoju.FieldForce

open Lib

namespace Outbox

/-- An attempt at a delivery: a call of the function that delivers. -/
structure Attempt where
  success : Bool
  /-- The time until the message is ready again. -/
  delay : Option Time
deriving DecidableEq, Repr

/-- The store, and the attempts at the delivery of each message since it was published or
replayed. -/
structure RetryLog where
  store : Store
  attempts : Id → List Attempt := fun _ => []

def Outcome.success : Outcome → Bool
  | .answered success _ => success
  | .thrown _ => false

/-- The time from the last attempt to the next one. -/
def retryDelay (m : OutboxMessage) : Option Time :=
  if m.status = .failed then
    m.nextRetryAt.bind fun nextRetryAt => m.lastAttemptAt.map fun last => nextRetryAt - last
  else none

/-- The messages for which the function that delivers has been called between two states. -/
def called (s s' : Store) : List Id :=
  (s'.delivery.values.map Delivery.messageId).drop s.delivery.values.length

/-- The attempt of a batch at a message, by the state that it leaves. -/
def Batch.attempt (b : Batch) (s' : Store) (i : Id) : Attempt where
  success := (b.outcome i).success
  delay := (s'.outboxMessage.get? i).bind retryDelay

namespace Operation

/-- The operation publishes the message anew or replays it. -/
def renews (s : Store) (i : Id) : Operation → Bool
  | .publishEvent _ _ => (s.outboxMessage.get? i).isNone
  | .replayDeadLetter messageId _ _ =>
      messageId = i && (s.outboxMessage.get? i).any fun m => m.status = .deadLetter
  | _ => false

/-- The attempts that an operation makes. -/
def attempted (s : Store) (i : Id) : Operation → List Attempt
  | .processClaimedMessages b =>
      let s' := (Operation.processClaimedMessages b).perform s
      ((called s s').filter fun j => j = i).map (b.attempt s')
  | _ => []

/-- A replay allows an attempt at least. -/
def Replays : Operation → Prop
  | .replayDeadLetter _ newMaxAttempts _ => ∀ n, newMaxAttempts = some n → 1 ≤ n
  | _ => True

end Operation

/-- One call of the worker, a publisher or an administrator. -/
def RetryLog.step (w : RetryLog) (o : Operation) : RetryLog where
  store := o.perform w.store
  attempts i := (if o.renews w.store i then [] else w.attempts i) ++ o.attempted w.store i

/-! ## The discipline -/

/-- **The retry discipline** of a message and the attempts that were made at it. -/
structure Disciplined (m : OutboxMessage) (attempts : List Attempt) : Prop where
  counted : m.attempts ≤ m.maxAttempts
  called : attempts.length ≤ m.maxAttempts
  deadLetter : m.status = .deadLetter ↔
    attempts.length = m.maxAttempts ∧ ∀ a ∈ attempts, a.success = false
  /-- No call follows a success. -/
  succeeded : ∀ a ∈ attempts.dropLast, a.success = false
  /-- What is tried again has waited. -/
  delayed : ∀ a ∈ attempts.dropLast, a.delay.isSome
  delays : (attempts.filterMap Attempt.delay).Pairwise fun d d' => d ≤ d'
  bounded : ∀ a ∈ attempts, ∀ d, a.delay = some d → d ≤ 5 * 60 * 1000

/-- Every message is disciplined. -/
def AllDisciplined (w : RetryLog) : Prop :=
  ∀ i m, w.store.outboxMessage.get? i = some m → Disciplined m (w.attempts i)

/-- A message as it is published or replayed, whenever it is to be delivered. -/
structure Renewed (m : OutboxMessage) : Prop where
  status : m.status = .pending
  attempts : m.attempts = 0
  maxAttempts : 1 ≤ m.maxAttempts

/-! ## What the counter counts -/

/-- An attempt with its number, at a message with a bound. -/
def Numbered (maxAttempts k : ℕ) (a : Attempt) : Prop :=
  a.delay = if a.success ∨ maxAttempts ≤ k then none else some (backoff k)

/-- Attempts with their numbers. -/
def AllNumbered (maxAttempts : ℕ) (attempts : List Attempt) : Prop :=
  ∀ k a, attempts[k]? = some a → Numbered maxAttempts (k + 1) a

/-- How far the delivery of a message has come, by its status. -/
inductive Progress (m : OutboxMessage) (attempts : List Attempt) : Prop
  | pending (hstatus : m.status = .pending) (hcount : m.attempts = 0) (hnone : attempts = [])
  | processing (hstatus : m.status = .processing) (hcount : m.attempts = attempts.length + 1)
      (hfailed : ∀ a ∈ attempts, a.success = false)
  | failed (hstatus : m.status = .failed) (hcount : m.attempts = attempts.length)
      (hfailed : ∀ a ∈ attempts, a.success = false) (hopen : m.attempts < m.maxAttempts)
  | deadLetter (hstatus : m.status = .deadLetter) (hcount : attempts.length = m.maxAttempts)
      (hattempts : m.attempts = m.maxAttempts) (hfailed : ∀ a ∈ attempts, a.success = false)
  | delivered (a : Attempt) (before : List Attempt) (hstatus : m.status = .delivered)
      (hcount : m.attempts = attempts.length) (hlast : attempts = before ++ [a])
      (hsuccess : a.success = true) (hfailed : ∀ b ∈ before, b.success = false)

/-- **The invariant**: the counter of a message is the number of the attempt that was made last, or
that is to be made now. -/
structure Counted (m : OutboxMessage) (attempts : List Attempt) : Prop where
  positive : 1 ≤ m.maxAttempts
  counted : m.attempts ≤ m.maxAttempts
  numbered : AllNumbered m.maxAttempts attempts
  progress : Progress m attempts

lemma backoff_mono {k l : ℕ} (h : k ≤ l) : backoff k ≤ backoff l := by
  have hpow : (2 : ℤ) ^ k ≤ 2 ^ l := pow_le_pow_right₀ (by decide) h
  exact min_le_min_right _ (Int.ediv_le_ediv (by decide) (by omega))

lemma backoff_le (k : ℕ) : backoff k ≤ 5 * 60 * 1000 := min_le_right _ _

lemma AllNumbered.concat {maxAttempts : ℕ} {attempts : List Attempt}
    (h : AllNumbered maxAttempts attempts) {a : Attempt}
    (ha : Numbered maxAttempts (attempts.length + 1) a) :
    AllNumbered maxAttempts (attempts ++ [a]) := by
  intro k b hb
  rw [List.getElem?_append] at hb
  split_ifs at hb with hk
  · exact h k b hb
  · obtain ⟨hk', rfl⟩ := List.getElem?_eq_some_iff.mp hb
    have hlen : k - attempts.length < 1 := hk'
    have hk0 : k = attempts.length := by omega
    subst hk0
    simpa using ha

/-- The delays of numbered attempts grow. -/
lemma AllNumbered.delays {maxAttempts : ℕ} {attempts : List Attempt}
    (h : AllNumbered maxAttempts attempts) :
    (attempts.filterMap Attempt.delay).Pairwise fun d d' => d ≤ d' := by
  rw [List.pairwise_filterMap, List.pairwise_iff_getElem]
  intro k l hk hl hlt d hd d' hd'
  have hdelay : Numbered maxAttempts (k + 1) attempts[k] := h k _ (List.getElem?_eq_getElem hk)
  have hdelay' : Numbered maxAttempts (l + 1) attempts[l] := h l _ (List.getElem?_eq_getElem hl)
  rw [Numbered, hd] at hdelay
  rw [Numbered, hd'] at hdelay'
  split_ifs at hdelay hdelay'
  rw [Option.some.inj hdelay, Option.some.inj hdelay']
  exact backoff_mono (by omega)

lemma AllNumbered.bounded {maxAttempts : ℕ} {attempts : List Attempt}
    (h : AllNumbered maxAttempts attempts) {a : Attempt} (ha : a ∈ attempts) {d : Time}
    (hd : a.delay = some d) : d ≤ 5 * 60 * 1000 := by
  obtain ⟨k, hk, rfl⟩ := List.getElem_of_mem ha
  have hdelay : Numbered maxAttempts (k + 1) attempts[k] := h k _ (List.getElem?_eq_getElem hk)
  rw [Numbered, hd] at hdelay
  split_ifs at hdelay
  rw [Option.some.inj hdelay]
  exact backoff_le _

/-- Attempts that have failed, below the bound, are those that a delay follows. -/
lemma AllNumbered.delayed {maxAttempts : ℕ} {attempts : List Attempt}
    (h : AllNumbered maxAttempts attempts) (hlength : attempts.length ≤ maxAttempts)
    (hfailed : ∀ a ∈ attempts.dropLast, a.success = false) {a : Attempt}
    (ha : a ∈ attempts.dropLast) : a.delay.isSome := by
  obtain ⟨k, hk, rfl⟩ := List.getElem_of_mem ha
  rw [List.length_dropLast] at hk
  have hfail := hfailed _ ha
  rw [List.getElem_dropLast] at hfail ⊢
  have hdelay : Numbered maxAttempts (k + 1) attempts[k] := h k _ (List.getElem?_eq_getElem _)
  rw [Numbered, hfail, if_neg (by simp; omega)] at hdelay
  rw [hdelay]
  rfl

lemma Progress.length_le {m : OutboxMessage} {attempts : List Attempt} (h : Progress m attempts)
    (hcounted : m.attempts ≤ m.maxAttempts) : attempts.length ≤ m.maxAttempts := by
  cases h with
  | pending _ _ hnone =>
    rw [hnone]
    exact Nat.zero_le _
  | processing _ hcount _ => omega
  | failed _ hcount _ _ => omega
  | deadLetter _ hcount _ _ => omega
  | delivered _ _ _ hcount _ _ _ => omega

/-- Only the last attempt can have succeeded. -/
lemma Progress.succeeded {m : OutboxMessage} {attempts : List Attempt} (h : Progress m attempts)
    {a : Attempt} (ha : a ∈ attempts.dropLast) : a.success = false := by
  cases h with
  | pending _ _ hnone =>
    rw [hnone] at ha
    cases ha
  | processing _ _ hfailed => exact hfailed a (List.dropLast_subset _ ha)
  | failed _ _ hfailed _ => exact hfailed a (List.dropLast_subset _ ha)
  | deadLetter _ _ _ hfailed => exact hfailed a (List.dropLast_subset _ ha)
  | delivered b before _ _ hlast _ hfailed =>
    rw [hlast, List.dropLast_concat] at ha
    exact hfailed a ha

/-- **A dead letter** is a message all of whose attempts have been made and failed. -/
lemma Counted.deadLetter_iff {m : OutboxMessage} {attempts : List Attempt}
    (h : Counted m attempts) : m.status = .deadLetter ↔
      attempts.length = m.maxAttempts ∧ ∀ a ∈ attempts, a.success = false := by
  have hpositive : 1 ≤ m.maxAttempts := h.positive
  have hcounted : m.attempts ≤ m.maxAttempts := h.counted
  cases h.progress with
  | pending hstatus _ hnone =>
    refine iff_of_false (by simp [hstatus]) fun ⟨hlength, _⟩ => ?_
    rw [hnone, List.length_nil] at hlength
    omega
  | processing hstatus hcount _ =>
    refine iff_of_false (by simp [hstatus]) fun ⟨hlength, _⟩ => ?_
    omega
  | failed hstatus hcount _ hopen =>
    refine iff_of_false (by simp [hstatus]) fun ⟨hlength, _⟩ => ?_
    omega
  | deadLetter hstatus hcount _ hfailed => exact iff_of_true hstatus ⟨hcount, hfailed⟩
  | delivered a before hstatus _ hlast hsuccess _ =>
    refine iff_of_false (by simp [hstatus]) fun ⟨_, hfailed⟩ => ?_
    rw [hfailed a (by simp [hlast])] at hsuccess
    cases hsuccess

/-- What is counted is disciplined. -/
lemma Counted.discipline {m : OutboxMessage} {attempts : List Attempt} (h : Counted m attempts) :
    Disciplined m attempts where
  counted := h.counted
  called := h.progress.length_le h.counted
  deadLetter := h.deadLetter_iff
  succeeded _ ha := h.progress.succeeded ha
  delayed _ ha := h.numbered.delayed (h.progress.length_le h.counted)
    (fun _ hb => h.progress.succeeded hb) ha
  delays := h.numbered.delays
  bounded _ ha _ hd := h.numbered.bounded ha hd

lemma Renewed.counted {m : OutboxMessage} (h : Renewed m) : Counted m [] where
  positive := h.maxAttempts
  counted := by
    rw [h.attempts]
    exact Nat.zero_le _
  numbered _ _ ha := by cases ha
  progress := .pending h.status h.attempts rfl

/-! ## Claims -/

/-- A claim counts the attempt that is to be made. -/
lemma Counted.claim {m : OutboxMessage} {attempts : List Attempt} (h : Counted m attempts)
    (hopen : isOpen m = true) (now : Time) :
    Counted { m with status := .processing, claimedAt := some now, attempts := m.attempts + 1 }
      attempts := by
  have hpositive : 1 ≤ m.maxAttempts := h.positive
  have hnumbered : AllNumbered m.maxAttempts attempts := h.numbered
  cases h.progress with
  | pending _ hcount hnone =>
    refine ⟨hpositive, ?_, hnumbered, .processing rfl ?_ ?_⟩
    · show m.attempts + 1 ≤ m.maxAttempts
      omega
    · show m.attempts + 1 = attempts.length + 1
      rw [hcount, hnone, List.length_nil]
    · rw [hnone]
      exact fun _ ha => by cases ha
  | failed _ hcount hfailed hbelow =>
    refine ⟨hpositive, ?_, hnumbered, .processing rfl ?_ hfailed⟩
    · exact hbelow
    · exact congrArg (· + 1) hcount
  | processing hstatus _ _ => simp [isOpen, hstatus] at hopen
  | deadLetter hstatus _ _ _ => simp [isOpen, hstatus] at hopen
  | delivered _ _ hstatus _ _ _ _ => simp [isOpen, hstatus] at hopen

/-- Every message stays counted, for given attempts. -/
def KeepsCount (attempts : Id → List Attempt) (s s' : Store) : Prop :=
  (∀ i m, s.outboxMessage.get? i = some m → Counted m (attempts i)) →
    ∀ i m, s'.outboxMessage.get? i = some m → Counted m (attempts i)

variable {attempts : Id → List Attempt}

lemma keepsCount_claimPendingMessages (limit : ℕ) (now : Time) :
    (claimPendingMessages limit now).EachStep fun _ => KeepsCount attempts := by
  have hclaimAll : ∀ messages claimedCount,
      (claimAll now messages claimedCount).EachStep fun _ => KeepsCount attempts := by
    intro messages
    induction messages with
    | nil => exact fun _ => trivial
    | cons p messages ih =>
      intro claimedCount
      refine .bind (Client.eachStep_updateIf (fun _ hs => hs) fun s m hm hopen => ?_) fun _ => ih _
      intro hs i m' hm'
      rcases Table.get?_modify_cases hm hm' with hm' | ⟨rfl, rfl⟩
      · exact hs i m' hm'
      · exact (hs _ m hm).claim hopen now
  refine .tryCatch_pure (.bind (Client.eachStep_query fun _ hs => hs) fun messages => ?_) _
  exact .bind (hclaimAll messages 0) fun _ => trivial

/-! ## Deliveries -/

/-- What the delivery of a message writes. -/
def settled (b : Batch) (i : Id) (msg : OutboxMessage) : OutboxMessage → OutboxMessage :=
  match b.outcome i with
  | .answered true _ => markDelivered (b.now i)
  | .answered false error => markFailed msg.attempts msg.maxAttempts error (b.now i)
  | .thrown e => markFailed msg.attempts msg.maxAttempts (some e) (b.now i)

/-- The store after the delivery of a message. -/
def deliveredTo (b : Batch) (i : Id) (msg : OutboxMessage) (s : Store) : Store :=
  outboxMessages.modify i (settled b i msg)
    (deliveries.modify s.delivery.next finish (deliveries.insert { messageId := i } s))

lemma run_deliver (i : Id) (outcome : Outcome) (s : Store) :
    (deliver i outcome).run s =
      (match outcome with
        | .answered success error => .ok (success, error)
        | .thrown e => .error e,
      deliveries.modify s.delivery.next finish (deliveries.insert { messageId := i } s)) := by
  have hnew : (deliveries.get (deliveries.insert { messageId := i } s)).get?
      (deliveries.get s).next = some { messageId := i } := Table.get?_insert_self _ _
  unfold deliver
  rw [Prog.run_bind_ok (Client.run_create _ _ _),
    Prog.run_bind_ok (Client.run_updateIf _ _ _ _ _), TableOf.modifyIf, hnew]
  cases outcome <;> rfl

/-- **The delivery of a message** that is there. -/
lemma run_deliverOne {b : Batch} {i : Id} {msg m : OutboxMessage} {s : Store}
    (hm : s.outboxMessage.get? i = some m) :
    ∃ delivered, (deliverOne b i msg).run s = (.ok delivered, deliveredTo b i msg s) := by
  have hdeliver := run_deliver i (b.outcome i) s
  -- The messages are as they were when the delivery is over.
  have hget : (outboxMessages.get (deliveries.modify s.delivery.next finish
      (deliveries.insert { messageId := i } s))).get? i = some m := hm
  have hupdate : ∀ f, (Client.update outboxMessages Failure.recordNotFound i f).run
      (deliveries.modify s.delivery.next finish (deliveries.insert { messageId := i } s)) =
      (.ok (), outboxMessages.modify i f (deliveries.modify s.delivery.next finish
        (deliveries.insert { messageId := i } s))) :=
    fun f => Client.run_update_of_some hget _ f
  unfold deliverOne deliveredTo settled
  cases houtcome : b.outcome i with
  | answered success error =>
    rw [houtcome] at hdeliver
    rw [Prog.run_tryCatch, Prog.run_bind_ok hdeliver]
    cases success with
    | true =>
      refine ⟨true, ?_⟩
      simp only [if_true]
      rw [Prog.run_bind_ok (hupdate _)]
      rfl
    | false =>
      refine ⟨false, ?_⟩
      simp only [Bool.false_eq_true, if_false]
      rw [markMessageFailed, Prog.run_bind_ok (hupdate _)]
      rfl
  | thrown e =>
    rw [houtcome] at hdeliver
    refine ⟨false, ?_⟩
    rw [Prog.run_tryCatch, Prog.run_bind, hdeliver]
    simp only
    rw [markMessageFailed, Prog.run_bind_ok (hupdate _)]
    rfl

/-- What the delivery of some messages does: each is delivered once, in their order. -/
structure Batched (b : Batch) (messages : List (Id × OutboxMessage)) (s s' : Store) : Prop where
  get? : ∀ j, s'.outboxMessage.get? j =
    if j ∈ messages.map Prod.fst then (s.outboxMessage.get? j).map fun m => settled b j m m
    else s.outboxMessage.get? j
  called : s'.delivery.values.map Delivery.messageId =
    s.delivery.values.map Delivery.messageId ++ messages.map Prod.fst

lemma batched_deliveredTo (b : Batch) {i : Id} {m : OutboxMessage} {s : Store}
    (hm : s.outboxMessage.get? i = some m) : Batched b [(i, m)] s (deliveredTo b i m s) where
  get? j := by
    show (s.outboxMessage.modify i (settled b i m)).get? j = _
    rw [Table.get?_modify, List.map_singleton]
    by_cases hj : j = i
    · subst hj
      rw [if_pos rfl, if_pos (List.mem_singleton_self j), hm]
      rfl
    · rw [if_neg hj, if_neg (fun h => hj (List.mem_singleton.mp h))]
  called := by
    have hfinish : ∀ t : Table Delivery, (t.modify s.delivery.next finish).values.map
        Delivery.messageId = t.values.map Delivery.messageId :=
      fun t => Table.map_values_modify t _ _ _ fun _ _ => rfl
    have hinsert : (s.delivery.insert { messageId := i }).values.map Delivery.messageId =
        s.delivery.values.map Delivery.messageId ++ [i] := by
      rw [Table.values_insert, List.map_append]
      rfl
    exact (hfinish _).trans hinsert

lemma Batched.cons {b : Batch} {p : Id × OutboxMessage} {messages : List (Id × OutboxMessage)}
    {s s' s'' : Store} (h : Batched b [p] s s') (h' : Batched b messages s' s'')
    (hp : p.1 ∉ messages.map Prod.fst) : Batched b (p :: messages) s s'' where
  get? j := by
    rw [h'.get?, h.get?, List.map_singleton, List.map_cons]
    by_cases hj : j = p.1
    · subst hj
      rw [if_neg hp, if_pos (List.mem_singleton_self _), if_pos List.mem_cons_self]
    · rw [if_neg (fun h => hj (List.mem_singleton.mp h))]
      simp only [List.mem_cons, hj, false_or]
  called := by
    rw [h'.called, h.called, List.append_assoc]
    rfl

/-- **The loop of a batch.** -/
lemma run_deliverAll (b : Batch) {messages : List (Id × OutboxMessage)}
    (hnodup : (messages.map Prod.fst).Nodup) {s : Store}
    (hget : ∀ p ∈ messages, s.outboxMessage.get? p.1 = some p.2) (result : DeliveryResult) :
    ∃ r s', (deliverAll b messages result).run s = (.ok r, s') ∧ Batched b messages s s' := by
  induction messages generalizing s result with
  | nil => exact ⟨result, s, rfl, fun j => rfl, (List.append_nil _).symm⟩
  | cons p messages ih =>
    rw [List.map_cons, List.nodup_cons] at hnodup
    have hp : s.outboxMessage.get? p.1 = some p.2 := hget p List.mem_cons_self
    obtain ⟨delivered, hrun⟩ : ∃ delivered,
        (deliverOne b p.1 p.2).run s = (.ok delivered, deliveredTo b p.1 p.2 s) :=
      run_deliverOne hp
    have hfirst : Batched b [p] s (deliveredTo b p.1 p.2 s) := batched_deliveredTo b hp
    have hothers : ∀ q ∈ messages,
        (deliveredTo b p.1 p.2 s).outboxMessage.get? q.1 = some q.2 := by
      intro q hq
      have hne : q.1 ≠ p.1 := fun h => hnodup.1 (h ▸ List.mem_map_of_mem hq)
      rw [hfirst.get?, if_neg (by simpa using hne)]
      exact hget q (List.mem_cons_of_mem _ hq)
    obtain ⟨r, s', hrun', hrest⟩ := ih hnodup.2 hothers
      (if delivered then { result with delivered := result.delivered + 1 }
      else { result with failed := result.failed + 1 })
    refine ⟨r, s', ?_, hfirst.cons hrest hnodup.1⟩
    rw [← hrun']
    exact Prog.run_bind_ok hrun

/-- **A batch** delivers each of the messages that are selected once. -/
lemma batched_processClaimedMessages (b : Batch) (s : Store) :
    Batched b (claimed s) s ((processClaimedMessages b).exec s) := by
  obtain ⟨r, s', hrun, hbatched⟩ := run_deliverAll b (claimed_nodup s)
    (fun p hp => (get?_of_mem_claimed hp).1) {}
  have hexec : (processClaimedMessages b).exec s = s' := by
    rw [Prog.exec, processClaimedMessages, Prog.run_bind_ok (Client.run_query _ _ _), hrun]
  rwa [hexec]

lemma called_processClaimedMessages (b : Batch) (s : Store) :
    called s ((processClaimedMessages b).exec s) = (claimed s).map Prod.fst := by
  rw [called, (batched_processClaimedMessages b s).called]
  exact List.drop_left' (List.length_map _)

lemma settled_of_success {b : Batch} {i : Id} (h : (b.outcome i).success = true)
    (m : OutboxMessage) : settled b i m m = markDelivered (b.now i) m := by
  rw [settled]
  cases houtcome : b.outcome i with
  | answered success error =>
    rw [houtcome] at h
    cases success with
    | true => rfl
    | false => cases h
  | thrown e =>
    rw [houtcome] at h
    cases h

lemma settled_of_failure {b : Batch} {i : Id} (h : (b.outcome i).success = false)
    (m : OutboxMessage) :
    ∃ error, settled b i m m = markFailed m.attempts m.maxAttempts error (b.now i) m := by
  rw [settled]
  cases houtcome : b.outcome i with
  | answered success error =>
    rw [houtcome] at h
    cases success with
    | true => cases h
    | false => exact ⟨error, rfl⟩
  | thrown e => exact ⟨some e, rfl⟩

/-- **A delivery** is the attempt that the claim has counted. -/
lemma Counted.settle {m : OutboxMessage} {attempts : List Attempt} (h : Counted m attempts)
    (hstatus : m.status = .processing) (b : Batch) (i : Id) :
    Counted (settled b i m m)
      (attempts ++ [⟨(b.outcome i).success, retryDelay (settled b i m m)⟩]) := by
  have hpositive : 1 ≤ m.maxAttempts := h.positive
  have hcounted : m.attempts ≤ m.maxAttempts := h.counted
  -- The message was claimed, so that the attempt is the one after those that have failed.
  obtain ⟨hcount, hfailed⟩ :
      m.attempts = attempts.length + 1 ∧ ∀ a ∈ attempts, a.success = false := by
    cases h.progress with
    | processing _ hcount hfailed => exact ⟨hcount, hfailed⟩
    | pending hpending _ _ => simp [hpending] at hstatus
    | failed hfail _ _ _ => simp [hfail] at hstatus
    | deadLetter hdead _ _ _ => simp [hdead] at hstatus
    | delivered _ _ hdelivered _ _ _ _ => simp [hdelivered] at hstatus
  have hlength : ∀ a : Attempt, (attempts ++ [a]).length = m.attempts := fun a => by
    rw [List.length_append, List.length_singleton, hcount]
  cases hsuccess : (b.outcome i).success with
  | true =>
    rw [settled_of_success hsuccess]
    refine ⟨hpositive, hcounted, h.numbered.concat ?_, .delivered _ attempts rfl ?_ rfl rfl hfailed⟩
    · simp [Numbered, retryDelay, markDelivered]
    · exact (hlength _).symm
  | false =>
    obtain ⟨error, hsettled⟩ := settled_of_failure hsuccess m
    have hall : ∀ d, ∀ a ∈ attempts ++ [⟨false, d⟩], a.success = false := by
      intro d a ha
      rcases List.mem_append.mp ha with ha | ha
      · exact hfailed a ha
      · rw [List.mem_singleton.mp ha]
    rw [hsettled, markFailed]
    by_cases hlast : m.attempts ≥ m.maxAttempts
    · rw [if_pos hlast]
      refine ⟨hpositive, hcounted, h.numbered.concat ?_, .deadLetter rfl ?_ ?_ (hall _)⟩
      · have hbound : m.maxAttempts ≤ attempts.length + 1 := hcount ▸ hlast
        simp [Numbered, retryDelay, hbound]
      · exact (hlength _).trans (le_antisymm hcounted hlast)
      · exact le_antisymm hcounted hlast
    · rw [if_neg hlast]
      refine ⟨hpositive, hcounted, h.numbered.concat ?_, .failed rfl ?_ (hall _) ?_⟩
      · have hbound : ¬ m.maxAttempts ≤ attempts.length + 1 := hcount ▸ hlast
        simp [Numbered, retryDelay, hbound, hcount]
      · exact (hlength _).symm
      · exact not_le.mp hlast

/-! ## Every call -/

/-- A replay renews a dead letter, and leaves any other message as it is. -/
lemma exec_replayDeadLetter (messageId : Id) (newMaxAttempts : Option ℕ) (now : Time) (s : Store) :
    (∃ message, s.outboxMessage.get? messageId = some message ∧ message.status = .deadLetter ∧
      (replayDeadLetter messageId newMaxAttempts now).exec s =
        outboxMessages.modify messageId (replayed message newMaxAttempts now) s) ∨
    ((s.outboxMessage.get? messageId).any fun m => m.status = .deadLetter) = false ∧
      (replayDeadLetter messageId newMaxAttempts now).exec s = s := by
  unfold replayDeadLetter
  rw [Prog.exec, Prog.run_bind_ok (Client.run_findUnique outboxMessages messageId s)]
  cases hm : (outboxMessages.get s).get? messageId with
  | none =>
    have hget : s.outboxMessage.get? messageId = none := hm
    exact .inr ⟨by rw [hget]; rfl, rfl⟩
  | some message =>
    have hget : s.outboxMessage.get? messageId = some message := hm
    dsimp only
    by_cases hstatus : message.status = .deadLetter
    · refine .inl ⟨message, hget, hstatus, ?_⟩
      rw [if_neg (not_not.mpr hstatus), Prog.run_bind_ok (Client.run_update_of_some hm _ _)]
      rfl
    · refine .inr ⟨?_, ?_⟩
      · rw [hget]
        exact decide_eq_false hstatus
      · rw [if_pos hstatus]
        rfl

/-- Every message is counted. -/
def Counting (w : RetryLog) : Prop :=
  ∀ i m, w.store.outboxMessage.get? i = some m → Counted m (w.attempts i)

lemma renewed_newMessage (input : PublishEventInput) (now : Time) :
    Renewed (newMessage input now) := ⟨rfl, rfl, show 1 ≤ 5 by decide⟩

lemma renewed_replayed {message : OutboxMessage} (hmax : 1 ≤ message.maxAttempts)
    {newMaxAttempts : Option ℕ} (hnew : ∀ n, newMaxAttempts = some n → 1 ≤ n) (now : Time)
    (m : OutboxMessage) : Renewed (replayed message newMaxAttempts now m) where
  status := rfl
  attempts := rfl
  maxAttempts := by
    cases newMaxAttempts with
    | none => exact hmax
    | some n => exact hnew n rfl

/-- **One call** keeps the count of every message. -/
lemma counting_step {w : RetryLog} (hw : Counting w) {o : Operation} (ho : o.Replays) :
    Counting (w.step o) := by
  cases o with
  | publishEvent input now =>
    intro i m hm
    have hstore : (w.step (.publishEvent input now)).store =
        if (outboxMessages.find (hasEventKey (eventKey input now)) w.store).isSome then w.store
        else outboxMessages.insert (newMessage input now) w.store :=
      exec_publishEvent input now w.store
    have hattempts : (w.step (.publishEvent input now)).attempts i =
        if (w.store.outboxMessage.get? i).isNone then [] else w.attempts i := List.append_nil _
    have hold : ∀ m', w.store.outboxMessage.get? i = some m' →
        Counted m' ((w.step (.publishEvent input now)).attempts i) := by
      intro m' hm'
      rw [hattempts, hm']
      exact hw i m' hm'
    rw [hstore] at hm
    split_ifs at hm with htaken
    · exact hold m hm
    · rcases Table.get?_insert_cases hm with hm | ⟨rfl, rfl⟩
      · exact hold m hm
      · have hfree : w.store.outboxMessage.get? (outboxMessages.get w.store).next = none :=
          Table.get?_next _
        rw [hattempts, hfree]
        exact (renewed_newMessage input now).counted
  | claimPendingMessages limit now =>
    intro i m hm
    have hattempts : (w.step (.claimPendingMessages limit now)).attempts i = w.attempts i :=
      List.append_nil _
    rw [hattempts]
    exact (keepsCount_claimPendingMessages limit now).keeps (fun _ hs => hs)
      (fun _ _ _ hab hbc hs => hbc (hab hs)) w.store hw i m hm
  | processClaimedMessages b =>
    intro i m hm
    set s' := (processClaimedMessages b).exec w.store with hs'
    have hbatched : Batched b (claimed w.store) w.store s' :=
      batched_processClaimedMessages b w.store
    have hattempts : (w.step (.processClaimedMessages b)).attempts i = w.attempts i ++
        (((claimed w.store).map Prod.fst).filter fun j => j = i).map (b.attempt s') := by
      rw [← called_processClaimedMessages b]
      rfl
    have hget : s'.outboxMessage.get? i = some m := hm
    rw [hattempts]
    by_cases hi : i ∈ (claimed w.store).map Prod.fst
    · obtain ⟨p, hp, rfl⟩ := List.mem_map.mp hi
      obtain ⟨hp', hstatus⟩ := get?_of_mem_claimed hp
      have honce : ((claimed w.store).map Prod.fst).filter (fun j => j = p.1) = [p.1] := by
        rw [List.filter_eq, List.count_eq_one_of_mem (claimed_nodup w.store) hi]
        rfl
      have hsettled : s'.outboxMessage.get? p.1 = some (settled b p.1 p.2 p.2) := by
        rw [hbatched.get?, if_pos hi, hp']
        rfl
      obtain rfl : settled b p.1 p.2 p.2 = m := Option.some.inj (hsettled.symm.trans hget)
      rw [honce, List.map_singleton, Batch.attempt, hsettled]
      exact (hw p.1 p.2 hp').settle hstatus b p.1
    · have hnone : ((claimed w.store).map Prod.fst).filter (fun j => j = i) = [] := by
        refine List.filter_eq_nil_iff.mpr fun j hj => ?_
        rw [decide_eq_true_iff]
        rintro rfl
        exact hi hj
      rw [hbatched.get?, if_neg hi] at hget
      rw [hnone, List.map_nil, List.append_nil]
      exact hw i m hget
  | replayDeadLetter messageId newMaxAttempts now =>
    intro i m hm
    have hattempts : (w.step (.replayDeadLetter messageId newMaxAttempts now)).attempts i =
        if messageId = i && (w.store.outboxMessage.get? i).any fun m => m.status = .deadLetter
        then [] else w.attempts i := List.append_nil _
    have hget : ((replayDeadLetter messageId newMaxAttempts now).exec
        w.store).outboxMessage.get? i = some m := hm
    rw [hattempts]
    rcases exec_replayDeadLetter messageId newMaxAttempts now w.store with
      ⟨message, hmessage, hstatus, hexec⟩ | ⟨hnot, hexec⟩
    · have hmodify : (w.store.outboxMessage.modify messageId
          (replayed message newMaxAttempts now)).get? i = some m := by
        rw [hexec] at hget
        exact hget
      by_cases hi : messageId = i
      · subst hi
        rw [Table.get?_modify, if_pos rfl, hmessage] at hmodify
        obtain rfl : replayed message newMaxAttempts now message = m := Option.some.inj hmodify
        have hpositive : 1 ≤ message.maxAttempts := (hw messageId message hmessage).positive
        rw [hmessage, Option.any_some, decide_eq_true hstatus, decide_eq_true rfl]
        exact (renewed_replayed hpositive ho now message).counted
      · rw [Table.get?_modify_of_ne _ (Ne.symm hi)] at hmodify
        rw [decide_eq_false hi]
        exact hw i m hmodify
    · rw [hexec] at hget
      by_cases hi : messageId = i
      · subst hi
        rw [hnot]
        simp only [Bool.and_false, Bool.false_eq_true, if_false]
        exact hw messageId m hget
      · rw [decide_eq_false hi]
        exact hw i m hget

/-- **The retry discipline** holds in every state of every run of a single worker, from messages
that have just been published or replayed. -/
theorem disciplined {s : Store} (hs : ∀ i m, s.outboxMessage.get? i = some m → Renewed m)
    {os : List Operation} (hos : ∀ o ∈ os, o.Replays) :
    AllStates RetryLog.step AllDisciplined { store := s } os := by
  have hstart : Counting { store := s } := fun i m hm => (hs i m hm).counted
  have hsteps : AllSteps RetryLog.step (fun _ o => o.Replays) { store := s } os :=
    AllSteps.of_forall_mem (fun _ o ho => hos o ho) _
  have hall : AllStates RetryLog.step Counting { store := s } os :=
    hsteps.invariant (fun _ _ hw ho => counting_step hw ho) hstart
  exact hall.mono fun w hw i m hm => (hw i m hm).discipline

/-- A message that is to be tried twice. -/
def twoTries : OutboxMessage where
  aggregateType := "Mission"
  aggregateId := "m1"
  eventType := .missionAssigned
  payload := ""
  maxAttempts := 2
  nextRetryAt := some 0
  idempotencyKey := "evt"
  createdAt := 0

/-- Two deliveries fail, the message is replayed, and the third one succeeds. -/
theorem disciplined_replayed :
    AllStates RetryLog.step AllDisciplined { store := outboxMessages.insert twoTries {} }
      [.claimPendingMessages 20 1,
        .processClaimedMessages ⟨fun _ => .thrown (.thrown "timeout"), fun _ => 2⟩,
        .claimPendingMessages 20 2002,
        .processClaimedMessages ⟨fun _ => .answered false none, fun _ => 2003⟩,
        .replayDeadLetter 0 (some 1) 5000, .claimPendingMessages 20 5001,
        .processClaimedMessages ⟨fun _ => .answered true none, fun _ => 5002⟩] := by
  refine disciplined (fun i m hm => ?_) fun o ho => ?_
  · rcases Table.get?_insert_cases (t := Table.empty) hm with hm | ⟨-, rfl⟩
    · cases hm
    · exact ⟨rfl, rfl, by decide⟩
  · simp only [List.mem_cons, List.not_mem_nil, or_false] at ho
    rcases ho with rfl | rfl | rfl | rfl | rfl | rfl | rfl
    · trivial
    · trivial
    · trivial
    · trivial
    · rintro n ⟨⟩
      exact le_rfl
    · trivial
    · trivial

end Outbox

end Asoju.FieldForce
