/-
What the outbox has to deliver, and what a worker selects.

A message is due when it is PENDING, or when it has FAILED and its backoff time has passed.  A claim
compares `nextRetryAt` with the time, and a comparison with null does not hold.  Whatever makes a
message PENDING or FAILED again writes that time; the publication of a message leaves it null.  So a
run of the outbox in which every due message can be claimed is one that publishes nothing
(`claimable_iff`).
-/
import Asoju.FieldForce.Outbox
import Asoju.Lib.ClientSteps
import Mathlib.Data.List.MinMax

namespace Asoju.FieldForce

open Lib

namespace Outbox

/-! ## Runs -/

/-- The store, and a time that nothing before has happened after. -/
structure World where
  store : Store := {}
  clock : Time := 0

inductive Operation
  | publishEvent (input : PublishEventInput) (now : Time)
  | claimPendingMessages (limit : ℕ) (now : Time)
  | processClaimedMessages (b : Batch)
  | replayDeadLetter (messageId : Id) (newMaxAttempts : Option ℕ) (now : Time)

namespace Operation

/-- The times that a call reads. -/
def times (s : Store) : Operation → List Time
  | .publishEvent _ now => [now]
  | .claimPendingMessages _ now => [now]
  | .processClaimedMessages b => (claimed s).map fun p => b.now p.1
  | .replayDeadLetter _ _ now => [now]

def perform (s : Store) : Operation → Store
  | .publishEvent input now => (Outbox.publishEvent input now).exec s
  | .claimPendingMessages limit now => (Outbox.claimPendingMessages limit now).exec s
  | .processClaimedMessages b => (Outbox.processClaimedMessages b).exec s
  | .replayDeadLetter messageId newMaxAttempts now =>
      (Outbox.replayDeadLetter messageId newMaxAttempts now).exec s

end Operation

def step (w : World) (o : Operation) : World where
  store := o.perform w.store
  clock := (o.times w.store).foldr max w.clock

lemma clock_le_step (w : World) (o : Operation) : w.clock ≤ (step w o).clock := by
  show w.clock ≤ (o.times w.store).foldr max w.clock
  induction o.times w.store with
  | nil => exact le_rfl
  | cons t ts ih => exact ih.trans (le_max_right _ _)

lemma le_clock_step {w : World} {o : Operation} {t : Time} (h : t ∈ o.times w.store) :
    t ≤ (step w o).clock := List.le_max_of_le' _ h le_rfl

/-! ## What is due -/

/-- The message is to be delivered at the time `t`. -/
def Due (t : Time) (m : OutboxMessage) : Prop :=
  m.status = .pending ∨
    m.status = .failed ∧ ∀ nextRetryAt, m.nextRetryAt = some nextRetryAt → nextRetryAt ≤ t

/-- Whatever is due, now or later, is ready to be claimed then, and a claim with a limit that is
large enough selects it. -/
def Claimable (w : World) : Prop :=
  ∀ i m, w.store.outboxMessage.get? i = some m → ∀ t, w.clock ≤ t → Due t m →
    isReady t m = true ∧ ∃ n, ∀ limit, n ≤ limit → (i, m) ∈ ready t limit w.store

/-- The message has a time from which it is to be delivered; if it is PENDING, that time has come. -/
structure Timed (clock : Time) (m : OutboxMessage) : Prop where
  pending : m.status = .pending → ∃ nextRetryAt, m.nextRetryAt = some nextRetryAt ∧
    nextRetryAt ≤ clock
  failed : m.status = .failed → m.nextRetryAt.isSome

lemma Timed.mono {clock clock' : Time} {m : OutboxMessage} (h : Timed clock m)
    (hle : clock ≤ clock') : Timed clock' m where
  pending := fun hpending => by
    obtain ⟨nextRetryAt, hsome, ht⟩ := h.pending hpending
    exact ⟨nextRetryAt, hsome, ht.trans hle⟩
  failed := h.failed

/-- What is neither PENDING nor FAILED needs no time. -/
lemma timed_of_not_open {clock : Time} {m : OutboxMessage} (h : isOpen m = false) :
    Timed clock m := by
  have hstatus : m.status ≠ .pending ∧ m.status ≠ .failed := by simpa [isOpen] using h
  exact ⟨fun hpending => absurd hpending hstatus.1, fun hfailed => absurd hfailed hstatus.2⟩

/-- A message that is ready is among those that a claim without a limit selects. -/
lemma mem_ready {s : Store} {i : Id} {m : OutboxMessage} {t : Time}
    (h : s.outboxMessage.get? i = some m) (hready : isReady t m = true) {limit : ℕ}
    (hlimit : s.outboxMessage.rows.length ≤ limit) : (i, m) ∈ ready t limit s := by
  rw [ready, List.take_of_length_le, mem_sortAsc, List.mem_filter]
  · exact ⟨(Table.mem_rows_iff _).mpr h, hready⟩
  · rw [sortAsc, List.length_insertionSort]
    exact (List.length_filter_le _ _).trans hlimit

/-- **What can be claimed** can be told from each message alone. -/
lemma claimable_iff_timed {w : World} :
    Claimable w ↔ ∀ i m, w.store.outboxMessage.get? i = some m → Timed w.clock m := by
  constructor
  · intro h i m hm
    constructor
    · intro hpending
      have hready := (h i m hm w.clock le_rfl (Or.inl hpending)).1
      simpa [isReady, isOpen, hpending, Option.any_eq_true] using hready
    · intro hfailed
      by_contra hnone
      rw [Option.not_isSome_iff_eq_none] at hnone
      have hready := (h i m hm w.clock le_rfl (Or.inr ⟨hfailed, by simp [hnone]⟩)).1
      simp [isReady, hnone] at hready
  · intro h i m hm t ht hdue
    have hready : isReady t m = true := by
      rcases hdue with hpending | ⟨hfailed, hpassed⟩
      · obtain ⟨nextRetryAt, hsome, hle⟩ := (h i m hm).pending hpending
        simp [isReady, isOpen, hpending, hsome, hle.trans ht]
      · obtain ⟨nextRetryAt, hsome⟩ := Option.isSome_iff_exists.mp ((h i m hm).failed hfailed)
        simp [isReady, isOpen, hfailed, hsome, hpassed nextRetryAt hsome]
    exact ⟨hready, _, fun limit hlimit => mem_ready hm hready hlimit⟩

/-! ## What the calls do to the times -/

/-- Every message that had its time by `clock` still has it. -/
def KeepsTimes (clock : Time) (s s' : Store) : Prop :=
  (∀ i m, s.outboxMessage.get? i = some m → Timed clock m) →
    ∀ i m, s'.outboxMessage.get? i = some m → Timed clock m

variable {clock : Time}

lemma keepsTimes_modify {i : Id} {f : OutboxMessage → OutboxMessage}
    (hf : ∀ m, Timed clock m → Timed clock (f m)) (s : Store) :
    KeepsTimes clock s (outboxMessages.modify i f s) := by
  intro h j m hm
  have hget : (s.outboxMessage.modify i f).get? j = some m := hm
  rw [Table.get?_modify] at hget
  split at hget
  · obtain ⟨m', hm', rfl⟩ := Option.map_eq_some_iff.mp hget
    exact hf m' (h j m' hm')
  · exact h j m hget

lemma keepsTimes_deliveries {s s' : Store} (h : s'.outboxMessage = s.outboxMessage) :
    KeepsTimes clock s s' := by
  intro hs
  rwa [h]

/-- A call each step of which keeps the times keeps them. -/
lemma keepsTimes_exec {α : Type} {m : Work α} (h : m.EachStep fun _ => KeepsTimes clock)
    (s : Store) : KeepsTimes clock s (m.exec s) :=
  h.keeps (fun _ hs => hs) (fun _ _ _ hab hbc hs => hbc (hab hs)) s

/-- A delivery that has failed leaves the message FAILED with a time, or a DEAD_LETTER. -/
lemma timed_markFailed (currentAttempt maxAttempts : ℕ) (error : Option Failure) (now : Time)
    (m : OutboxMessage) : Timed clock (markFailed currentAttempt maxAttempts error now m) := by
  rw [markFailed]
  split
  · exact timed_of_not_open rfl
  · exact ⟨fun h => (by cases h), fun _ => rfl⟩

lemma keepsTimes_claimPendingMessages (limit : ℕ) (now : Time) :
    (claimPendingMessages limit now).EachStep fun _ => KeepsTimes clock := by
  have hclaimAll : ∀ messages claimedCount,
      (claimAll now messages claimedCount).EachStep fun _ => KeepsTimes clock := by
    intro messages
    induction messages with
    | nil => exact fun _ => trivial
    | cons p messages ih =>
      intro claimedCount
      refine .bind (Client.eachStep_updateIf (fun _ hs => hs) fun s m _ _ => ?_) fun _ => ih _
      exact keepsTimes_modify (fun _ _ => timed_of_not_open rfl) s
  refine .tryCatch_pure (.bind (Client.eachStep_query fun _ hs => hs) fun messages => ?_) _
  exact .bind (hclaimAll messages 0) fun _ => trivial

lemma keepsTimes_markMessageFailed (messageId : Id) (currentAttempt maxAttempts : ℕ)
    (error : Option Failure) (now : Time) :
    (markMessageFailed messageId currentAttempt maxAttempts error now).EachStep
      fun _ => KeepsTimes clock :=
  Client.eachStep_update (keepsTimes_modify fun m _ => timed_markFailed _ _ _ _ m)

lemma keepsTimes_deliverOne (b : Batch) (messageId : Id) (msg : OutboxMessage) :
    (deliverOne b messageId msg).EachStep fun _ => KeepsTimes clock := by
  refine .tryCatch ?_ fun e => .bind (keepsTimes_markMessageFailed _ _ _ _ _) fun _ => trivial
  refine .bind ?_ fun answer => ?_
  · -- The delivery itself touches no message.
    refine .bind (Client.eachStep_create fun _ => keepsTimes_deliveries rfl) fun _ => ?_
    refine .bind (Client.eachStep_updateIf (fun _ hs => hs) fun _ _ _ _ =>
      keepsTimes_deliveries rfl) fun _ => ?_
    cases b.outcome messageId <;> trivial
  · obtain ⟨success, error⟩ := answer
    cases success with
    | true =>
      refine .bind (Client.eachStep_update (keepsTimes_modify fun _ _ => ?_)) fun _ => trivial
      exact timed_of_not_open rfl
    | false => exact .bind (keepsTimes_markMessageFailed _ _ _ _ _) fun _ => trivial

lemma keepsTimes_processClaimedMessages (b : Batch) :
    (processClaimedMessages b).EachStep fun _ => KeepsTimes clock := by
  refine .bind (Client.eachStep_query fun _ hs => hs) fun messages => ?_
  generalize ({} : DeliveryResult) = result
  induction messages generalizing result with
  | nil => trivial
  | cons p messages ih => exact .bind (keepsTimes_deliverOne b p.1 p.2) fun _ => ih _

/-- A message that is replayed is to be delivered from then on. -/
lemma keepsTimes_replayDeadLetter (messageId : Id) (newMaxAttempts : Option ℕ) {now : Time}
    (hnow : now ≤ clock) :
    (replayDeadLetter messageId newMaxAttempts now).EachStep fun _ => KeepsTimes clock := by
  refine .bind (Client.eachStep_query fun _ hs => hs) fun found => ?_
  cases found with
  | none => trivial
  | some message =>
    dsimp only
    split
    · trivial
    · refine .bind (Client.eachStep_update (keepsTimes_modify fun m _ => ?_)) fun _ => trivial
      exact ⟨fun _ => ⟨now, rfl, hnow⟩, fun h => by cases h⟩

/-! ## Publications -/

/-- The operation creates no message: if it publishes an event, the key of the event is taken. -/
def PublishesNothing (w : World) (o : Operation) : Prop :=
  ∀ input now, o = .publishEvent input now →
    (outboxMessages.find (hasEventKey (eventKey input now)) w.store).isSome

lemma exec_publishEvent (input : PublishEventInput) (now : Time) (s : Store) :
    (publishEvent input now).exec s =
      if (outboxMessages.find (hasEventKey (eventKey input now)) s).isSome then s
      else outboxMessages.insert (newMessage input now) s := by
  rw [Prog.exec, publishEvent, Client.run_createUnique]
  split <;> rfl

/-- A message that is published has no time. -/
lemma not_timed_newMessage (input : PublishEventInput) (now : Time) :
    ¬ Timed clock (newMessage input now) := by
  intro h
  obtain ⟨nextRetryAt, hsome, -⟩ := h.pending rfl
  cases hsome

/-- **One operation** leaves everything claimable exactly if it creates no message. -/
lemma claimable_step_iff {w : World} (hw : Claimable w) (o : Operation) :
    Claimable (step w o) ↔ PublishesNothing w o := by
  rw [claimable_iff_timed] at hw ⊢
  have htimed : ∀ i m, w.store.outboxMessage.get? i = some m → Timed (step w o).clock m :=
    fun i m hm => (hw i m hm).mono (clock_le_step w o)
  cases o with
  | publishEvent input now =>
    have hstore : (step w (.publishEvent input now)).store =
        if (outboxMessages.find (hasEventKey (eventKey input now)) w.store).isSome then w.store
        else outboxMessages.insert (newMessage input now) w.store :=
      exec_publishEvent input now w.store
    constructor
    · rintro h input' now' ⟨⟩
      by_contra hfree
      rw [hstore, if_neg hfree] at h
      exact not_timed_newMessage input now
        (h w.store.outboxMessage.next _ (Table.get?_insert_self _ _))
    · intro h
      rw [hstore, if_pos (h input now rfl)]
      exact htimed
  | claimPendingMessages limit now =>
    refine iff_of_true ?_ fun _ _ h => by cases h
    exact keepsTimes_exec (keepsTimes_claimPendingMessages limit now) w.store htimed
  | processClaimedMessages b =>
    refine iff_of_true ?_ fun _ _ h => by cases h
    exact keepsTimes_exec (keepsTimes_processClaimedMessages b) w.store htimed
  | replayDeadLetter messageId newMaxAttempts now =>
    refine iff_of_true ?_ fun _ _ h => by cases h
    have hnow : now ≤ (step w (.replayDeadLetter messageId newMaxAttempts now)).clock :=
      le_clock_step (List.mem_singleton_self now)
    exact keepsTimes_exec (keepsTimes_replayDeadLetter messageId newMaxAttempts hnow) w.store htimed

/-- **Whatever is due can be claimed** throughout a run exactly if the run creates no message. -/
theorem claimable_iff {w : World} (hw : Claimable w) (os : List Operation) :
    AllStates step Claimable w os ↔ AllSteps step PublishesNothing w os :=
  allStates_iff_allSteps (Q := Claimable) (fun _ o hclaimable => claimable_step_iff hclaimable o)
    hw os

/-- A message whose deliveries have failed too often. -/
def deadLetters : World where
  store := outboxMessages.insert
    { aggregateType := "Mission", aggregateId := "m1", eventType := .missionAssigned, payload := "",
      status := .deadLetter, attempts := 5, idempotencyKey := "evt", createdAt := 0 } {}

lemma claimable_deadLetters : Claimable deadLetters := by
  refine claimable_iff_timed.mpr fun i m hm => ?_
  rcases Table.get?_insert_cases (t := Table.empty) hm with hm | ⟨-, rfl⟩
  · cases hm
  · exact timed_of_not_open rfl

/-- A dead letter that is replayed can be claimed and delivered. -/
theorem claimable_iff_replayed :
    AllStates step Claimable deadLetters
      [.replayDeadLetter 0 none 10, .claimPendingMessages 20 11,
        .processClaimedMessages ⟨fun _ => .answered true none, fun _ => 12⟩] :=
  (claimable_iff claimable_deadLetters _).mpr
    (AllSteps.of_forall_mem (by rintro _ o ho _ _ rfl; simp at ho) _)

/-- An event that is published is PENDING, and no claim selects it. -/
theorem not_claimable :
    ¬ AllStates step Claimable {}
      [.publishEvent ⟨"Mission", "m1", .missionAssigned, none, "", none, none, none, none⟩ 0] := by
  rintro ⟨-, h⟩
  have hready := (h 0 _ rfl 0 le_rfl (Or.inl rfl)).1
  simp [isReady, newMessage] at hready

end Outbox

end Asoju.FieldForce
