/-
Many workers on one outbox.

A claim is a conditional update, and finds a message open at most once.  But a worker delivers
whatever is PROCESSING, whoever has claimed it, and writes the result without a condition.  So two
workers that select at about the same time deliver the same messages, and the later result
overwrites the earlier one.  `exclusive` says that nothing of this happens as long as no worker
selects a message that another one has selected and not yet written the result of.
-/
import Asoju.FieldForce.Outbox
import Asoju.Lib.ClientSteps
import Asoju.Lib.Window

namespace Asoju.FieldForce

open Lib

namespace Outbox

/-! ## The calls -/

inductive Call
  | publishEvent (input : PublishEventInput) (now : Time)
  | claimPendingMessages (limit : ℕ) (now : Time)
  | processClaimedMessages (b : Batch)

/-- The program of a call, whose answer does not matter. -/
def code : Call → Work Unit
  | .publishEvent input now => do
      let _ ← Outbox.publishEvent input now
  | .claimPendingMessages limit now => do
      let _ ← Outbox.claimPendingMessages limit now
  | .processClaimedMessages b => do
      let _ ← Outbox.processClaimedMessages b

/-- How far a call has come.  A worker holds the messages that it has selected and that it has not
yet written the result of. -/
inductive Stage
  /-- The call delivers nothing. -/
  | outside
  | selecting
  | holding (messageIds : List Id)
  /-- A delivery of the first of the messages is in progress. -/
  | delivering (deliveryId : Id) (messageIds : List Id)
deriving DecidableEq, Repr

/-- Messages change only by being claimed. -/
structure Claims (s s' : Store) : Prop where
  delivery : s'.delivery = s.delivery
  message : ∀ i m, s.outboxMessage.get? i = some m →
    s'.outboxMessage.get? i = some m ∨ isOpen m = true

namespace Stage

def held : Stage → List Id
  | outside => []
  | selecting => []
  | holding messageIds => messageIds
  | delivering _ messageIds => messageIds

/-- The stage that an action leads to.  A result that is written for a message that is not there
fails, and is written again. -/
def next (stage : Stage) (l : Access Model) (s : Store) : Stage :=
  match stage with
  | outside => outside
  | selecting => holding ((claimed s).map Prod.fst)
  | holding messageIds =>
      if l = .create .delivery then delivering s.delivery.next messageIds
      else match messageIds with
        | messageId :: rest =>
            if (s.outboxMessage.get? messageId).isSome then holding rest
            else holding (messageId :: rest)
        | [] => holding []
  | delivering _ messageIds => holding messageIds

/-- What an action may do. -/
def allows (stage : Stage) (l : Access Model) (s s' : Store) : Prop :=
  match stage with
  | outside => Claims s s'
  | selecting => s' = s
  | holding messageIds =>
      ∃ messageId rest, messageIds = messageId :: rest ∧
        if l = .create .delivery then s' = deliveries.insert { messageId } s
        else ∃ f, s' = outboxMessages.modify messageId f s
  | delivering deliveryId _ => s' = deliveries.modifyIf deliveryId (fun _ => true) finish s

end Stage

def protocol (c : Call) : Protocol Store (Access Model) Stage where
  relies _ := True
  init := match c with
    | .processClaimedMessages _ => .selecting
    | _ => .outside
  next := Stage.next
  allows := Stage.allows
  final _ := True

/-- The result of a call does not matter. -/
def Any {α : Type} (_ : Stage) (_ : Except Failure α) : Prop := True

/-! ### Calls that deliver nothing -/

lemma Claims.refl (s : Store) : Claims s s := ⟨rfl, fun _ _ hm => Or.inl hm⟩

lemma leads_outside {α : Type} {c : Call} {m : Work α} (h : m.EachStep fun _ => Claims) :
    (protocol c).Leads Any .outside m :=
  .of_eachStep h (fun _ _ _ h => ⟨h, rfl⟩) trivial fun _ => trivial

lemma eachStep_publishEvent (input : PublishEventInput) (now : Time) :
    (publishEvent input now).EachStep fun _ => Claims :=
  Client.eachStep_createUnique Claims.refl fun _ =>
    ⟨rfl, fun _ _ hm => Or.inl (Table.get?_insert_of_some hm _)⟩

/-- A message that is claimed was open. -/
lemma claims_modify {i : Id} {m : OutboxMessage} {f : OutboxMessage → OutboxMessage} {s : Store}
    (hm : s.outboxMessage.get? i = some m) (hopen : isOpen m = true) :
    Claims s (outboxMessages.modify i f s) := by
  refine ⟨rfl, fun j n hn => ?_⟩
  by_cases hj : j = i
  · subst hj
    obtain rfl : m = n := Option.some.inj (hm.symm.trans hn)
    exact Or.inr hopen
  · exact Or.inl ((Table.get?_modify_of_ne _ hj f).trans hn)

lemma eachStep_claimPendingMessages (limit : ℕ) (now : Time) :
    (claimPendingMessages limit now).EachStep fun _ => Claims := by
  have hclaimAll : ∀ messages claimedCount,
      (claimAll now messages claimedCount).EachStep fun _ => Claims := by
    intro messages
    induction messages with
    | nil => exact fun _ => trivial
    | cons p messages ih =>
      intro claimedCount
      refine .bind (Client.eachStep_updateIf Claims.refl fun s m hm hopen => ?_) fun _ => ih _
      exact claims_modify hm hopen
  refine .tryCatch_pure (.bind (Client.eachStep_query Claims.refl) fun messages => ?_) _
  exact .bind (hclaimAll messages 0) fun _ => trivial

/-! ### Deliveries -/

section Deliveries

variable {c : Call} {b : Batch} {messageId : Id} {rest : List Id}

/-- While the worker holds the message, nothing of it is written. -/
def Holds {α : Type} (messageIds : List Id) (stage : Stage) (_ : Except Failure α) : Prop :=
  stage = .holding messageIds

/-- The result is written, or the worker still holds the message. -/
def Writes {α : Type} (messageId : Id) (rest : List Id) (stage : Stage) : Except Failure α → Prop
  | .ok _ => stage = .holding rest
  | .error _ => stage = .holding (messageId :: rest)

lemma leads_deliver (outcome : Outcome) :
    (protocol c).Leads (Holds (messageId :: rest)) (.holding (messageId :: rest))
      (deliver messageId outcome) := by
  refine Protocol.Leads.atom_bind fun s _ => ⟨⟨messageId, rest, rfl, rfl⟩, ?_⟩
  refine Protocol.Leads.atom_bind fun s' _ => ⟨rfl, ?_⟩
  cases outcome with
  | answered success error => exact .ret trivial rfl
  | thrown e => exact .fail trivial rfl

/-- A write of the result of the message. -/
lemma leads_write (f : OutboxMessage → OutboxMessage) :
    (protocol c).Leads (Writes messageId rest) (.holding (messageId :: rest))
      (Client.update outboxMessages .recordNotFound messageId f) := by
  refine Protocol.Leads.atom fun s _ => ⟨⟨messageId, rest, rfl, f, rfl⟩, ?_⟩
  change (protocol c).Leads (Writes messageId rest)
    (if (s.outboxMessage.get? messageId).isSome then .holding rest
      else .holding (messageId :: rest))
    (if (s.outboxMessage.get? messageId).isSome then .ret ()
      else .fail Failure.recordNotFound : Work Unit)
  split
  · exact .ret trivial rfl
  · exact .fail trivial rfl

/-- A write of the result, and the answer. -/
lemma leads_write_pure {α : Type} (f : OutboxMessage → OutboxMessage) (a : α) :
    (protocol c).Leads (Writes messageId rest) (.holding (messageId :: rest))
      (Client.update outboxMessages .recordNotFound messageId f >>= fun _ => pure a) :=
  .bind (leads_write f) (fun _ _ h => h) fun _ _ h => .ret trivial h

lemma leads_deliverOne (msg : OutboxMessage) :
    (protocol c).Leads (Writes messageId rest) (.holding (messageId :: rest))
      (deliverOne b messageId msg) := by
  refine .tryCatch (S := Writes messageId rest) ?_ (fun _ _ h => h) fun stage e _ h => ?_
  · refine .bind (leads_deliver _) (fun _ _ h => h) fun stage answer h => ?_
    obtain rfl : stage = .holding (messageId :: rest) := h
    obtain ⟨success, error⟩ := answer
    cases success with
    | true => exact leads_write_pure _ true
    | false => exact leads_write_pure _ false
  · obtain rfl : stage = .holding (messageId :: rest) := h
    exact leads_write_pure _ false

lemma leads_deliverAll (messages : List (Id × OutboxMessage)) (result : DeliveryResult) :
    (protocol c).Leads Any (.holding (messages.map Prod.fst)) (deliverAll b messages result) := by
  induction messages generalizing result with
  | nil => exact .ret trivial trivial
  | cons p messages ih =>
    refine .bind (leads_deliverOne p.2) (fun _ _ _ => trivial) fun stage delivered h => ?_
    obtain rfl : stage = .holding (messages.map Prod.fst) := h
    exact ih _

end Deliveries

/-- **What a call does at each stage.** -/
lemma leads_code (c : Call) : (protocol c).Leads Any (protocol c).init (code c) := by
  cases c with
  | publishEvent input now =>
    exact leads_outside (.bind (eachStep_publishEvent input now) fun _ => trivial)
  | claimPendingMessages limit now =>
    exact leads_outside (.bind (eachStep_claimPendingMessages limit now) fun _ => trivial)
  | processClaimedMessages b =>
    refine Protocol.Leads.bind (S := Any) ?_ (fun _ _ _ => trivial) fun _ _ _ => .ret trivial trivial
    exact Protocol.Leads.atom_bind fun s _ => ⟨rfl, leads_deliverAll (claimed s) {}⟩

/-! ## Many calls -/

abbrev Worker := Thread Store (Access Model) Failure Unit Call

abbrev Workers := Pool Store (Access Model) Failure Unit Call

def stageOf (t : Worker) : Stage := (protocol t.call).phase t.done

def held (t : Worker) : List Id := (stageOf t).held

/-- No worker selects a message that another one holds. -/
def Apart (p : Workers) : Event Call → Prop
  | .start _ => True
  | .sched k => ∀ t ∈ p.threads[k]?, stageOf t = .selecting →
      ∀ q ∈ claimed p.shared, ∀ u ∈ p.threads, q.1 ∉ held u

instance apartDecidable (p : Workers) : ∀ e, Decidable (Apart p e)
  | .start _ => inferInstanceAs (Decidable True)
  | .sched k => inferInstanceAs (Decidable (∀ t ∈ p.threads[k]?, stageOf t = .selecting →
      ∀ q ∈ claimed p.shared, ∀ u ∈ p.threads, q.1 ∉ held u))

/-- The message is there, and has been claimed. -/
def Processing (s : Store) (i : Id) : Prop :=
  ∃ m, s.outboxMessage.get? i = some m ∧ m.status = .processing

/-- What holds in every state: no two workers hold the same message, what they hold is PROCESSING,
and whatever delivery is in progress is that of a worker. -/
structure Held (p : Workers) : Prop where
  tracked : p.Tracked protocol
  apart : ∀ i, Pool.AtMostOne (fun t => i ∈ held t) p.threads
  nodup : ∀ t ∈ p.threads, (held t).Nodup
  processing : ∀ t ∈ p.threads, ∀ i ∈ held t, Processing p.shared i
  delivering : ∀ k d, p.shared.delivery.get? k = some d → d.finished = false →
    ∃ t ∈ p.threads, ∃ rest, stageOf t = .delivering k (d.messageId :: rest)

/-- No delivery is in progress. -/
def AtRest (s : Store) : Prop := ∀ k d, s.delivery.get? k = some d → d.finished = true

lemma held_idle {s : Store} (hs : AtRest s) : Held (Pool.idle s) where
  tracked := Pool.tracked_idle protocol s
  apart := fun _ => Pool.atMostOne_nil
  nodup := fun t ht => absurd ht List.not_mem_nil
  processing := fun t ht => absurd ht List.not_mem_nil
  delivering := fun k d hd hunfinished => by
    rw [hs k d hd] at hunfinished
    cases hunfinished

/-! ### What is selected -/

lemma processing_of_claimed {s : Store} {i : Id} (h : i ∈ (claimed s).map Prod.fst) :
    Processing s i := by
  obtain ⟨q, hq, rfl⟩ := List.mem_map.mp h
  exact ⟨q.2, get?_of_mem_claimed hq⟩

/-- What is PROCESSING is not open to a claim. -/
lemma Claims.processing {s s' : Store} (h : Claims s s') {i : Id} (hi : Processing s i) :
    Processing s' i := by
  obtain ⟨m, hm, hstatus⟩ := hi
  rcases h.message i m hm with hm' | hopen
  · exact ⟨m, hm', hstatus⟩
  · simp [isOpen, hstatus] at hopen

/-! ### One step -/

section Step

variable {p : Workers} {k : ℕ} {t t' : Worker} {s' : Store} {messageId deliveryId : Id}
  {rest messageIds : List Id}

lemma held_of_stage {stage : Stage} (h : stageOf t = stage) : held t = stage.held := by
  rw [held, h]

/-- A thread that has moved on, and the threads beside it. -/
lemma held_set (h : Held p) (hk : p.threads[k]? = some t)
    (htracked : Pool.Tracked protocol ⟨s', p.threads.set k t'⟩)
    (hheld : ∀ i ∈ held t', i ∈ held t ∨ ∀ u ∈ p.threads, i ∉ held u)
    (hnodup : (held t').Nodup) (hmine : ∀ i ∈ held t', Processing s' i)
    (hothers : ∀ j u, p.threads[j]? = some u → j ≠ k → ∀ i ∈ held u, Processing s' i)
    (hdelivering : ∀ k' d, s'.delivery.get? k' = some d → d.finished = false →
      ∃ u ∈ p.threads.set k t', ∃ rest, stageOf u = .delivering k' (d.messageId :: rest)) :
    Held ⟨s', p.threads.set k t'⟩ where
  tracked := htracked
  apart := fun i => (h.apart i).set hk (hheld i)
  nodup := fun u hu => by
    rcases List.mem_or_eq_of_mem_set hu with hu | rfl
    · exact h.nodup u hu
    · exact hnodup
  processing := fun u hu => by
    obtain ⟨j, hj⟩ := List.mem_iff_getElem?.mp hu
    rcases Pool.getElem?_set_cases hj with ⟨-, rfl⟩ | ⟨hne, hj⟩
    · exact hmine
    · exact hothers j u hj hne
  delivering := hdelivering

/-- The worker of a delivery in progress is still there when another thread has moved on. -/
lemma delivering_of_set (h : Held p) (hk : p.threads[k]? = some t) {k' : Id} {d : Delivery}
    (hd : p.shared.delivery.get? k' = some d) (hunfinished : d.finished = false)
    (ht : ∀ rest, stageOf t ≠ .delivering k' (d.messageId :: rest)) :
    ∃ u ∈ p.threads.set k t', ∃ rest, stageOf u = .delivering k' (d.messageId :: rest) := by
  obtain ⟨u, hu, rest, hstage⟩ := h.delivering k' d hd hunfinished
  rcases Pool.eq_or_mem_set hk t' hu with rfl | hu
  · exact absurd hstage (ht rest)
  · exact ⟨u, hu, rest, hstage⟩

lemma Held.others (h : Held p) (j : ℕ) (u : Worker) (hj : p.threads[j]? = some u) (_ : j ≠ k) :
    ∀ i ∈ held u, Processing p.shared i := h.processing u (List.mem_of_getElem? hj)

/-- A claim. -/
lemma Held.claims (h : Held p) (hk : p.threads[k]? = some t)
    (htracked : Pool.Tracked protocol ⟨s', p.threads.set k t'⟩) (hstage : stageOf t = .outside)
    (hstage' : stageOf t' = .outside) (hclaims : Claims p.shared s') :
    Held ⟨s', p.threads.set k t'⟩ := by
  have hnone : held t' = [] := held_of_stage hstage'
  refine held_set h hk htracked (by simp [hnone]) (by simp [hnone]) (by simp [hnone])
    (fun j u hj hne i hi => ?_) fun k' d hd hd' => ?_
  · exact hclaims.processing (h.others j u hj hne i hi)
  · rw [hclaims.delivery] at hd
    exact delivering_of_set h hk hd hd' (by simp [hstage])

/-- The selection of messages that nobody holds. -/
lemma Held.selects (h : Held p) (hk : p.threads[k]? = some t)
    (htracked : Pool.Tracked protocol ⟨p.shared, p.threads.set k t'⟩)
    (hstage : stageOf t = .selecting)
    (hstage' : stageOf t' = .holding ((claimed p.shared).map Prod.fst))
    (happart : ∀ q ∈ claimed p.shared, ∀ u ∈ p.threads, q.1 ∉ held u) :
    Held ⟨p.shared, p.threads.set k t'⟩ := by
  have hselected : held t' = (claimed p.shared).map Prod.fst := held_of_stage hstage'
  refine held_set h hk htracked (fun i hi => Or.inr ?_) (hselected ▸ claimed_nodup p.shared)
    (fun i hi => processing_of_claimed (hselected ▸ hi)) h.others
    fun k' d hd hd' => delivering_of_set h hk hd hd' (by simp [hstage])
  rw [hselected] at hi
  obtain ⟨q, hq, rfl⟩ := List.mem_map.mp hi
  exact happart q hq

/-- The beginning of a delivery. -/
lemma Held.begins (h : Held p) (hk : p.threads[k]? = some t)
    (htracked : Pool.Tracked protocol
      ⟨deliveries.insert { messageId } p.shared, p.threads.set k t'⟩)
    (hstage : stageOf t = .holding (messageId :: rest))
    (hstage' : stageOf t' = .delivering p.shared.delivery.next (messageId :: rest)) :
    Held ⟨deliveries.insert { messageId } p.shared, p.threads.set k t'⟩ := by
  have hsame : held t' = held t := (held_of_stage hstage').trans (held_of_stage hstage).symm
  have hmem : t ∈ p.threads := List.mem_of_getElem? hk
  refine held_set h hk htracked (fun i hi => Or.inl (hsame ▸ hi)) (hsame ▸ h.nodup t hmem)
    (hsame ▸ h.processing t hmem) h.others fun k' d hd hd' => ?_
  rcases Table.get?_insert_cases hd with hd | ⟨rfl, rfl⟩
  · exact delivering_of_set h hk hd hd' (by simp [hstage])
  · exact ⟨t', List.mem_set (List.getElem?_eq_some_iff.mp hk).1 t', rest, hstage'⟩

/-- A result is written.  The message is no longer held, and nobody else has held it. -/
lemma Held.writes (h : Held p) (hk : p.threads[k]? = some t)
    {f : OutboxMessage → OutboxMessage}
    (htracked : Pool.Tracked protocol
      ⟨outboxMessages.modify messageId f p.shared, p.threads.set k t'⟩)
    (hstage : stageOf t = .holding (messageId :: rest)) (hstage' : stageOf t' = .holding rest) :
    Held ⟨outboxMessages.modify messageId f p.shared, p.threads.set k t'⟩ := by
  have hheld : held t = messageId :: rest := held_of_stage hstage
  have hheld' : held t' = rest := held_of_stage hstage'
  have hmem : t ∈ p.threads := List.mem_of_getElem? hk
  have hsub : ∀ i ∈ held t', i ∈ held t := by
    intro i hi
    rw [hheld, ← hheld']
    exact List.mem_cons_of_mem _ hi
  obtain ⟨hfirst, hnodup⟩ := List.nodup_cons.mp (hheld ▸ h.nodup t hmem)
  have hkeep : ∀ i, i ≠ messageId → Processing p.shared i →
      Processing (outboxMessages.modify messageId f p.shared) i := by
    rintro i hne ⟨m, hm, hstatus⟩
    exact ⟨m, (Table.get?_modify_of_ne _ hne f).trans hm, hstatus⟩
  refine held_set h hk htracked (fun i hi => Or.inl (hsub i hi)) (hheld' ▸ hnodup)
    (fun i hi => ?_) (fun j u hj hne i hi => ?_)
    fun k' d hd hd' => delivering_of_set h hk hd hd' (by simp [hstage])
  · refine hkeep i ?_ (h.processing t hmem i (hsub i hi))
    rintro rfl
    exact hfirst (hheld' ▸ hi)
  · refine hkeep i ?_ (h.others j u hj hne i hi)
    rintro rfl
    exact (h.apart i).not_inside hk (hheld ▸ List.mem_cons_self) hj hne hi

lemma outboxMessage_finish (s : Store) :
    (deliveries.modifyIf deliveryId (fun _ => true) finish s).outboxMessage = s.outboxMessage := by
  rw [TableOf.modifyIf]
  split <;> rfl

/-- The deliveries after the end of one of them. -/
lemma get?_finish {s : Store} {k' : Id} {d : Delivery}
    (h : (deliveries.modifyIf deliveryId (fun _ => true) finish s).delivery.get? k' = some d) :
    (k' ≠ deliveryId ∧ s.delivery.get? k' = some d) ∨
      (k' = deliveryId ∧ ∃ d₀, s.delivery.get? k' = some d₀ ∧ d = finish d₀) := by
  have hget : (s.delivery.modify deliveryId finish).get? k' = some d := by
    rw [TableOf.modifyIf] at h
    split at h
    · exact h
    · rename_i habsent
      have hnone : s.delivery.get? deliveryId = none := by
        cases hd : s.delivery.get? deliveryId with
        | none => rfl
        | some d₀ =>
          have hget : (deliveries.get s).get? deliveryId = some d₀ := hd
          simp [hget] at habsent
      rw [Table.get?_modify]
      split
      · rename_i heq
        rw [heq, hnone] at h
        cases h
      · exact h
  rw [Table.get?_modify] at hget
  split at hget
  · obtain ⟨d₀, hd₀, rfl⟩ := Option.map_eq_some_iff.mp hget
    exact Or.inr ⟨‹_›, d₀, hd₀, rfl⟩
  · exact Or.inl ⟨‹_›, hget⟩

/-- The end of a delivery. -/
lemma Held.finishes (h : Held p) (hk : p.threads[k]? = some t)
    (htracked : Pool.Tracked protocol
      ⟨deliveries.modifyIf deliveryId (fun _ => true) finish p.shared, p.threads.set k t'⟩)
    (hstage : stageOf t = .delivering deliveryId messageIds)
    (hstage' : stageOf t' = .holding messageIds) :
    Held ⟨deliveries.modifyIf deliveryId (fun _ => true) finish p.shared,
      p.threads.set k t'⟩ := by
  have hsame : held t' = held t := (held_of_stage hstage').trans (held_of_stage hstage).symm
  have hmem : t ∈ p.threads := List.mem_of_getElem? hk
  have hkeep : ∀ i, Processing p.shared i →
      Processing (deliveries.modifyIf deliveryId (fun _ => true) finish p.shared) i := by
    intro i hi
    rwa [Processing, outboxMessage_finish]
  refine held_set h hk htracked (fun i hi => Or.inl (hsame ▸ hi)) (hsame ▸ h.nodup t hmem)
    (fun i hi => hkeep i (h.processing t hmem i (hsame ▸ hi)))
    (fun j u hj hne i hi => hkeep i (h.others j u hj hne i hi)) fun k' d hd hd' => ?_
  rcases get?_finish hd with ⟨hne, hd⟩ | ⟨-, d₀, -, rfl⟩
  · refine delivering_of_set h hk hd hd' fun rest heq => ?_
    rw [hstage, Stage.delivering.injEq] at heq
    exact hne heq.1.symm
  · cases hd'

/-- **One action** of a worker keeps the invariant. -/
lemma Held.action (h : Held p) (hk : p.threads[k]? = some t) {l : Access Model}
    (happart : stageOf t = .selecting →
      ∀ q ∈ claimed p.shared, ∀ u ∈ p.threads, q.1 ∉ held u)
    (hallows : (stageOf t).allows l p.shared s')
    (hnext : stageOf t' = (stageOf t).next l p.shared)
    (htracked : Pool.Tracked protocol ⟨s', p.threads.set k t'⟩) :
    Held ⟨s', p.threads.set k t'⟩ := by
  cases hstage : stageOf t with
  | outside =>
    rw [hstage] at hallows hnext
    exact h.claims hk htracked hstage hnext hallows
  | selecting =>
    rw [hstage] at hallows hnext
    obtain rfl : s' = p.shared := hallows
    exact h.selects hk htracked hstage hnext (happart hstage)
  | holding messageIds =>
    rw [hstage] at hallows hnext
    obtain ⟨messageId, rest, rfl, hwrite⟩ := hallows
    rw [Stage.next] at hnext
    by_cases hl : l = .create .delivery
    · rw [if_pos hl] at hwrite hnext
      subst hwrite
      exact h.begins hk htracked hstage hnext
    · rw [if_neg hl] at hwrite hnext
      obtain ⟨f, rfl⟩ := hwrite
      -- The message is there, since it is held.
      obtain ⟨m, hm, -⟩ := h.processing t (List.mem_of_getElem? hk) messageId
        (held_of_stage hstage ▸ List.mem_cons_self)
      rw [hm, Option.isSome_some, if_pos rfl] at hnext
      exact h.writes hk htracked hstage hnext
  | delivering deliveryId messageIds =>
    rw [hstage] at hallows hnext
    obtain rfl : s' = deliveries.modifyIf deliveryId (fun _ => true) finish p.shared := hallows
    exact h.finishes hk htracked hstage hnext

end Step

/-- A call that starts holds nothing. -/
lemma held_start (c : Call) : held ⟨c, [], code c⟩ = [] := by
  cases c <;> rfl

/-- A call starts. -/
lemma Held.starts {p : Workers} (h : Held p) (c : Call)
    (htracked : Pool.Tracked protocol ⟨p.shared, p.threads ++ [⟨c, [], code c⟩]⟩) :
    Held ⟨p.shared, p.threads ++ [⟨c, [], code c⟩]⟩ := by
  have hthread : ∀ t ∈ p.threads ++ [⟨c, [], code c⟩], t ∈ p.threads ∨ held t = [] := by
    intro t ht
    rcases List.mem_append.mp ht with ht | ht
    · exact Or.inl ht
    · exact Or.inr (List.mem_singleton.mp ht ▸ held_start c)
  refine ⟨htracked, fun i => (h.apart i).concat ?_, fun t ht => ?_, fun t ht => ?_,
    fun k d hd hd' => ?_⟩
  · simp [held_start]
  · rcases hthread t ht with ht | hnone
    · exact h.nodup t ht
    · simp [hnone]
  · rcases hthread t ht with ht | hnone
    · exact h.processing t ht
    · simp [hnone]
  · obtain ⟨t, ht, hstage⟩ := h.delivering k d hd hd'
    exact ⟨t, List.mem_append_left _ ht, hstage⟩

lemma Held.step {p : Workers} (h : Held p) (e : Event Call) (happart : Apart p e) :
    Held (p.step code e) := by
  have htracked := h.tracked.preserved code (fun c => (leads_code c).1) (fun _ => trivial) e
  rcases h.tracked.step code (fun _ => trivial) e with ⟨k, rfl, -, hstep⟩ | ⟨c, rfl, hstep⟩ |
    ⟨k, t, l, w, rest, rfl, hk, -, hallows, hstep⟩ <;> rw [hstep] at htracked ⊢
  · exact h
  · exact h.starts c htracked
  · exact h.action hk (happart t hk) hallows (Protocol.phase_concat _ _ _ _) htracked

/-! ## Collisions -/

/-- At most one delivery of a message is in progress. -/
def OneInProgress (s : Store) : Prop :=
  ∀ k k' d d', s.delivery.get? k = some d → s.delivery.get? k' = some d' → d.finished = false →
    d'.finished = false → d.messageId = d'.messageId → k = k'

/-- What is DELIVERED in the one state is DELIVERED in the other one, and no other delivery of it
has begun. -/
def Settled (s s' : Store) : Prop :=
  ∀ i m, s.outboxMessage.get? i = some m → m.status = .delivered →
    (∃ m', s'.outboxMessage.get? i = some m' ∧ m'.status = .delivered) ∧
    ∀ k d, s'.delivery.get? k = some d → d.messageId = i →
      ∃ d₀, s.delivery.get? k = some d₀ ∧ d₀.messageId = i

lemma Settled.refl (s : Store) : Settled s s :=
  fun _ m hm hstatus => ⟨⟨m, hm, hstatus⟩, fun _ d hd hi => ⟨d, hd, hi⟩⟩

lemma Settled.trans {s s' s'' : Store} (h : Settled s s') (h' : Settled s' s'') :
    Settled s s'' := by
  intro i m hm hstatus
  obtain ⟨⟨m', hm', hstatus'⟩, hdeliveries⟩ := h i m hm hstatus
  obtain ⟨hmessage, hdeliveries'⟩ := h' i m' hm' hstatus'
  refine ⟨hmessage, fun k d hd hi => ?_⟩
  obtain ⟨d', hd', hi'⟩ := hdeliveries' k d hd hi
  exact hdeliveries k d' hd' hi'

/-- The workers of two deliveries of one message are the same. -/
lemma Held.oneInProgress {p : Workers} (h : Held p) : OneInProgress p.shared := by
  intro k k' d d' hd hd' hunfinished hunfinished' heq
  obtain ⟨t, ht, rest, hstage⟩ := h.delivering k d hd hunfinished
  obtain ⟨t', ht', rest', hstage'⟩ := h.delivering k' d' hd' hunfinished'
  obtain ⟨j, hj⟩ := List.mem_iff_getElem?.mp ht
  obtain ⟨j', hj'⟩ := List.mem_iff_getElem?.mp ht'
  have hheld : d.messageId ∈ held t := by
    rw [held_of_stage hstage]
    exact List.mem_cons_self
  have hheld' : d.messageId ∈ held t' := by
    rw [held_of_stage hstage', heq]
    exact List.mem_cons_self
  obtain rfl : j = j' := h.apart d.messageId j j' t t' hj hj' hheld hheld'
  obtain rfl : t = t' := Option.some.inj (hj.symm.trans hj')
  rw [hstage, Stage.delivering.injEq] at hstage'
  exact hstage'.1

/-- An action of a worker who holds only what is PROCESSING leaves alone what is DELIVERED. -/
lemma settled_of_allows {stage : Stage} {l : Access Model} {s s' : Store}
    (hallows : stage.allows l s s') (hheld : ∀ i ∈ stage.held, Processing s i) :
    Settled s s' := by
  intro i m hm hdelivered
  have hnot : ∀ j ∈ stage.held, i ≠ j := by
    rintro j hj rfl
    obtain ⟨m', hm', hstatus⟩ := hheld i hj
    obtain rfl : m = m' := Option.some.inj (hm.symm.trans hm')
    rw [hdelivered] at hstatus
    cases hstatus
  cases stage with
  | outside =>
    have hclaims : Claims s s' := hallows
    refine ⟨⟨m, ?_, hdelivered⟩, fun k d hd hi => ⟨d, hclaims.delivery ▸ hd, hi⟩⟩
    rcases hclaims.message i m hm with hm' | hopen
    · exact hm'
    · simp [isOpen, hdelivered] at hopen
  | selecting =>
    obtain rfl : s' = s := hallows
    exact Settled.refl s' i m hm hdelivered
  | holding messageIds =>
    obtain ⟨messageId, rest, rfl, hwrite⟩ := hallows
    have hne : i ≠ messageId := hnot messageId List.mem_cons_self
    split at hwrite
    · subst hwrite
      refine ⟨⟨m, hm, hdelivered⟩, fun k d hd hi => ?_⟩
      rcases Table.get?_insert_cases hd with hd | ⟨-, rfl⟩
      · exact ⟨d, hd, hi⟩
      · exact absurd hi.symm hne
    · obtain ⟨f, rfl⟩ := hwrite
      exact ⟨⟨m, (Table.get?_modify_of_ne _ hne f).trans hm, hdelivered⟩,
        fun k d hd hi => ⟨d, hd, hi⟩⟩
  | delivering deliveryId messageIds =>
    obtain rfl : s' = deliveries.modifyIf deliveryId (fun _ => true) finish s := hallows
    refine ⟨⟨m, (outboxMessage_finish s).symm ▸ hm, hdelivered⟩, fun k d hd hi => ?_⟩
    rcases get?_finish hd with ⟨-, hd⟩ | ⟨-, d₀, hd₀, rfl⟩
    · exact ⟨d, hd, hi⟩
    · exact ⟨d₀, hd₀, hi⟩

lemma Held.settled {p : Workers} (h : Held p) (e : Event Call) :
    Settled p.shared (p.step code e).shared := by
  rcases h.tracked.step code (fun _ => trivial) e with ⟨k, rfl, -, hstep⟩ | ⟨c, rfl, hstep⟩ |
    ⟨k, t, l, w, rest, rfl, hk, -, hallows, hstep⟩ <;> rw [hstep]
  · exact Settled.refl _
  · exact Settled.refl _
  · exact settled_of_allows hallows (h.processing t (List.mem_of_getElem? hk))

/-- **Workers that keep apart do not collide**: at most one delivery of a message is in progress at
any time, and what has become DELIVERED stays so and is not delivered again. -/
theorem exclusive {s : Store} (hs : AtRest s) {es es' : List (Event Call)}
    (h : AllSteps (Pool.step code) Apart (Pool.idle s) (es ++ es')) :
    OneInProgress (runFrom (Pool.step code) (Pool.idle s) es).shared ∧
      Settled (runFrom (Pool.step code) (Pool.idle s) es).shared
        (runFrom (Pool.step code) (Pool.idle s) (es ++ es')).shared := by
  obtain ⟨hbefore, hafter⟩ := AllSteps.append_iff.mp h
  have hheld := (hbefore.invariant (I := Held) (fun _ e hp => hp.step e) (held_idle hs)).last
  rw [runFrom_append]
  generalize runFrom (Pool.step code) (Pool.idle s) es = p at hheld hafter
  refine ⟨hheld.oneInProgress, ?_⟩
  have hlast := (hafter.invariant (I := fun q => Held q ∧ Settled p.shared q.shared)
    (fun q e hq happart => ⟨hq.1.step e happart, hq.2.trans (hq.1.settled e)⟩)
    ⟨hheld, Settled.refl _⟩).last
  exact hlast.2

/-- A message that is to be delivered. -/
def waiting (aggregateId : String) : OutboxMessage :=
  { aggregateType := "Mission", aggregateId, eventType := .missionAssigned, payload := "",
    nextRetryAt := some 0, idempotencyKey := aggregateId, createdAt := 0 }

/-- Two messages that are to be delivered. -/
def twoWaiting : Store :=
  outboxMessages.insert (waiting "m2") (outboxMessages.insert (waiting "m1") {})

/-- A worker that claims one message, and delivers it while another one claims the rest. -/
def handOver : List (Event Call) :=
  [.start (.claimPendingMessages 1 1), .sched 0, .sched 0,
    .start (.processClaimedMessages ⟨fun _ => .answered true none, fun _ => 2⟩), .sched 1,
    .start (.claimPendingMessages 20 2), .sched 2, .sched 1, .sched 2, .sched 1, .sched 1]

/-- The other worker delivers what it has claimed. -/
def takeOver : List (Event Call) :=
  [.start (.processClaimedMessages ⟨fun _ => .answered false none, fun _ => 3⟩), .sched 3, .sched 3,
    .sched 3, .sched 3]

/-- Two workers one of which goes on where the other one has ended. -/
theorem exclusive_handOver :
    OneInProgress (runFrom (Pool.step code) (Pool.idle twoWaiting) handOver).shared ∧
      Settled (runFrom (Pool.step code) (Pool.idle twoWaiting) handOver).shared
        (runFrom (Pool.step code) (Pool.idle twoWaiting) (handOver ++ takeOver)).shared :=
  exclusive (fun _ _ h => by cases h) (by decide +kernel)

/-- Two workers that select the same message. -/
def contend : List (Event Call) :=
  [.start (.claimPendingMessages 1 1), .sched 0, .sched 0,
    .start (.processClaimedMessages ⟨fun _ => .answered true none, fun _ => 2⟩),
    .start (.processClaimedMessages ⟨fun _ => .answered false none, fun _ => 3⟩),
    .sched 1, .sched 2, .sched 1, .sched 2]

/-- Both deliveries are in progress at once; and when the one has succeeded and the other one fails,
the message that has been DELIVERED is FAILED. -/
theorem not_exclusive :
    ¬ OneInProgress (runFrom (Pool.step code) (Pool.idle twoWaiting) contend).shared ∧
      ¬ Settled
        (runFrom (Pool.step code) (Pool.idle twoWaiting) (contend ++ [.sched 1, .sched 1])).shared
        (runFrom (Pool.step code) (Pool.idle twoWaiting)
          (contend ++ [.sched 1, .sched 1, .sched 2, .sched 2])).shared := by
  constructor
  · intro h
    have heq : 0 = 1 := h 0 1 _ _ rfl rfl rfl rfl rfl
    cases heq
  · intro h
    obtain ⟨⟨m, hm, hdelivered⟩, -⟩ := h 0 _ rfl rfl
    obtain rfl := Option.some.inj hm
    cases hdelivered

end Outbox

end Asoju.FieldForce
