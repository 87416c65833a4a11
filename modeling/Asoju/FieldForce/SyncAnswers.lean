/-
What the synchronisation answers, and what it stores.

`processSyncMutation` answers with a status of the operation, and it writes a status to the item of
the queue.  The two differ after a conflict in which the server wins, as the item is left UPLOADING,
and after a failure that is to be tried again, as the item is QUEUED.  A failure also counts beyond
the last retry, and it takes an item back that was SYNCED.  `answers_iff` says that these are the
only ways in which an answer goes wrong.
-/
import Asoju.FieldForce.Sync
import Asoju.Lib.ClientSteps
import Asoju.Lib.Run

namespace Asoju.FieldForce

open Lib

namespace Sync

/-! ## Calls with failing steps -/

/-- A call, and the accesses to the database that fail in it: one before the operation is finished,
and one while its failure is written down. -/
structure Call where
  envelope : SyncEnvelope
  fault : Option (ℕ × Failure) := none
  faultAfter : Option (ℕ × Failure) := none

/-- `processSyncMutation` with failing steps. -/
def attempt (c : Call) : Svc SyncResult :=
  tryCatch ((process c.envelope).withFault c.fault) fun e => do
    (markQueueItemFailed c.envelope.idempotencyKey).withFault c.faultAfter
    return { status := .failed, error := some e }

/-- Where no step fails, this is the function of the source. -/
lemma attempt_eq (envelope : SyncEnvelope) :
    attempt { envelope } = processSyncMutation envelope := rfl

def step (d : Db) (c : Call) : Db := (attempt c).exec d

/-- The item of the queue under a key. -/
def itemOf (key : String) (d : Db) : Option OfflineQueueItem :=
  (Db.offlineQueueItems.find (hasQueueKey key) d).map Prod.snd

/-- No item has been tried again too often. -/
def Bounded (d : Db) : Prop :=
  ∀ key item, itemOf key d = some item → item.retryCount ≤ item.maxRetries

/-- **An answer matches the queue**: the status that is returned is the one that is stored, no item
has been tried again too often, and what was SYNCED is so afterwards. -/
structure Answers (d : Db) (c : Call) : Prop where
  status : ∀ result, ((attempt c).run d).1 = .ok result → ∀ item,
    itemOf c.envelope.idempotencyKey (step d c) = some item → result.status = item.status
  bounded : Bounded (step d c)
  synced : ∀ key item, itemOf key d = some item → item.status = .synced →
    ∃ item', itemOf key (step d c) = some item' ∧ item'.status = .synced

/-! ## When the answers are right -/

/-- The state of the mission is not the one that the client expects. -/
def conflicts (envelope : SyncEnvelope) (d : Db) : Bool :=
  envelope.resourceType = some "Mission" && envelope.operationType = "MISSION_TRANSITION" &&
    match envelope.resourceId.bind d.mission.get?, nonEmpty envelope.workflowState with
    | some m, some clientExpectedState => m.workflowState.text ≠ clientExpectedState
    | _, _ => false

namespace Call

/-- One of the accesses to the database fails before the operation is finished. -/
def Fails (c : Call) (d : Db) : Prop :=
  ¬ Prog.Sparing ((process c.envelope).steps d) c.fault

/-- The failure is written down. -/
def Records (c : Call) : Prop := Prog.Sparing 2 c.faultAfter

end Call

/-- The operation of an item that is there is not given up in favour of the server, unless it is
SYNCED already; and a failure that is written down is the last one, of an item that is not
SYNCED. -/
structure Settles (d : Db) (c : Call) : Prop where
  conflict : ¬ c.Fails d → ∀ item, itemOf c.envelope.idempotencyKey d = some item →
    item.status ≠ .synced → conflicts c.envelope d = false
  failure : c.Fails d → c.Records → ∀ item, itemOf c.envelope.idempotencyKey d = some item →
    item.status ≠ .synced ∧ item.retryCount + 1 = item.maxRetries

/-! ## What the writes do to the items -/

/-- The item under a key is changed, and nothing else of the queue. -/
def Changes (key : String) (f : OfflineQueueItem → OfflineQueueItem) (d d' : Db) : Prop :=
  ∀ key', itemOf key' d' = if key' = key then (itemOf key d).map f else itemOf key' d

variable {key : String} {f : OfflineQueueItem → OfflineQueueItem} {d : Db}

lemma changes_modify (hkey : ∀ item, (f item).idempotencyKey = item.idempotencyKey) {i : Id}
    {item : OfflineQueueItem}
    (hfind : Db.offlineQueueItems.find (hasQueueKey key) d = some (i, item)) :
    Changes key f d (Db.offlineQueueItems.modify i f d) := by
  intro key'
  have hmapped : (d.offlineQueue.modify i f).rows.find? (fun p => hasQueueKey key' p.2) =
      (d.offlineQueue.rows.find? fun p => hasQueueKey key' p.2).map
        fun p => (p.1, if p.1 = i then f p.2 else p.2) :=
    Table.find?_mapRows d.offlineQueue (q := hasQueueKey key') fun j item => by
      split
      · rw [hasQueueKey, hkey, hasQueueKey]
      · rfl
  have hitem : itemOf key' (Db.offlineQueueItems.modify i f d) =
      (Db.offlineQueueItems.find (hasQueueKey key') d).map
        fun p => if p.1 = i then f p.2 else p.2 := by
    refine (congrArg (Option.map Prod.snd) hmapped).trans ?_
    rw [Option.map_map]
    rfl
  rw [hitem]
  by_cases hk : key' = key
  · subst hk
    rw [if_pos rfl, itemOf, hfind]
    simp
  · rw [if_neg hk, itemOf]
    cases hfound : Db.offlineQueueItems.find (hasQueueKey key') d with
    | none => rfl
    | some p =>
      obtain ⟨j, other⟩ := p
      obtain ⟨hget, hother⟩ := TableOf.find_eq_some hfound
      obtain ⟨hget', hthis⟩ := TableOf.find_eq_some hfind
      have hne : j ≠ i := by
        rintro rfl
        obtain rfl := Option.some.inj (hget.symm.trans hget')
        exact hk ((of_decide_eq_true hother).symm.trans (of_decide_eq_true hthis))
      rw [Option.map_some, Option.map_some, if_neg hne]

lemma changes_modifyWhere (hkey : ∀ item, (f item).idempotencyKey = item.idempotencyKey) :
    Changes key f d (Db.offlineQueueItems.modifyWhere (hasQueueKey key) f d) := by
  intro key'
  have hmapped : (d.offlineQueue.modifyWhere (fun _ item => hasQueueKey key item) f).rows.find?
        (fun p => hasQueueKey key' p.2) =
      (d.offlineQueue.rows.find? fun p => hasQueueKey key' p.2).map
        fun p => (p.1, if hasQueueKey key p.2 then f p.2 else p.2) :=
    Table.find?_mapRows d.offlineQueue (q := hasQueueKey key') fun j item => by
      split
      · rw [hasQueueKey, hkey, hasQueueKey]
      · rfl
  have hitem : itemOf key' (Db.offlineQueueItems.modifyWhere (hasQueueKey key) f d) =
      (Db.offlineQueueItems.find (hasQueueKey key') d).map
        fun p => if hasQueueKey key p.2 then f p.2 else p.2 := by
    refine (congrArg (Option.map Prod.snd) hmapped).trans ?_
    rw [Option.map_map]
    rfl
  rw [hitem]
  by_cases hk : key' = key
  · subst hk
    rw [if_pos rfl, itemOf, Option.map_map]
    cases hfound : Db.offlineQueueItems.find (hasQueueKey key') d with
    | none => rfl
    | some p =>
      rw [Option.map_some, Option.map_some, if_pos (TableOf.find_eq_some hfound).2]
      rfl
  · rw [if_neg hk, itemOf]
    cases hfound : Db.offlineQueueItems.find (hasQueueKey key') d with
    | none => rfl
    | some p =>
      have hother : p.2.idempotencyKey = key' :=
        of_decide_eq_true (TableOf.find_eq_some hfound).2
      rw [Option.map_some, Option.map_some, if_neg]
      rw [hasQueueKey, hother]
      exact fun h => hk (of_decide_eq_true h)

lemma Changes.congr {g : OfflineQueueItem → OfflineQueueItem} {d' : Db} (h : Changes key f d d')
    (hfg : ∀ item, itemOf key d = some item → f item = g item) : Changes key g d d' := by
  intro key'
  rw [h key']
  split
  · cases hitem : itemOf key d with
    | none => rfl
    | some item => exact congrArg some (hfg item hitem)
  · rfl

lemma Changes.of_eq (h : ∀ item, itemOf key d = some item → f item = item) : Changes key f d d := by
  have hid : Changes key id d d := by
    intro key'
    split
    · rename_i hk
      rw [hk, Option.map_id_fun, id]
    · rfl
  exact hid.congr fun item hitem => (h item hitem).symm

lemma Changes.trans {g : OfflineQueueItem → OfflineQueueItem} {d₁ d₂ d₃ : Db}
    (h : Changes key f d₁ d₂) (h' : Changes key g d₂ d₃) :
    Changes key (fun item => g (f item)) d₁ d₃ := by
  intro key'
  rw [h' key']
  split
  · rw [h key, if_pos rfl, Option.map_map]
    rfl
  · rw [h key', if_neg (by assumption)]

/-! ## Runs of the steps -/

def uploading (item : OfflineQueueItem) : OfflineQueueItem := { item with status := .uploading }

def synced (item : OfflineQueueItem) : OfflineQueueItem := { item with status := .synced }

/-- What becomes of an item when no step fails. -/
def settle (envelope : SyncEnvelope) (d : Db) (item : OfflineQueueItem) : OfflineQueueItem :=
  if item.status = .synced then item
  else if conflicts envelope d then uploading item
  else synced item

/-- What follows when it is known whether there is a conflict. -/
def conclude (envelope : SyncEnvelope) (resourceType : String) (hasConflict : Bool) :
    Svc SyncResult :=
  match hasConflict, getConflictPolicy resourceType with
  | true, .serverWins => return { success := true }
  | true, .manualReview => return { status := .conflict }
  | _, _ => finish envelope

/-- What follows the first write. -/
def rest (envelope : SyncEnvelope) : Svc SyncResult :=
  match nonEmpty envelope.resourceType, envelope.resourceId with
  | some resourceType, some resourceId => do
      let hasConflict ← detectConflict envelope resourceType resourceId
      conclude envelope resourceType hasConflict
  | _, _ => finish envelope

lemma writesLast_finish (envelope : SyncEnvelope) : (finish envelope).WritesLast :=
  .inr fun _ _ => rfl

lemma writesLast_conclude (envelope : SyncEnvelope) (resourceType : String) (hasConflict : Bool) :
    (conclude envelope resourceType hasConflict).WritesLast := by
  unfold conclude
  split
  · trivial
  · trivial
  · exact writesLast_finish envelope

lemma eachStep_detectConflict (envelope : SyncEnvelope) (resourceType : String) (resourceId : Id) :
    (detectConflict envelope resourceType resourceId).EachStep fun _ d d' => d' = d := by
  unfold detectConflict
  split_ifs
  · exact .bind (Client.eachStep_query fun _ => rfl) fun _ => trivial
  · trivial

lemma writesLast_rest (envelope : SyncEnvelope) : (rest envelope).WritesLast := by
  unfold rest
  split
  · exact .bind (eachStep_detectConflict _ _ _) fun _ => writesLast_conclude _ _ _
  · exact writesLast_finish envelope

lemma run_finish (envelope : SyncEnvelope) (d : Db) :
    (finish envelope).run d = (.ok { success := true },
      Db.offlineQueueItems.modifyWhere (hasQueueKey envelope.idempotencyKey) synced d) := rfl

/-- A conflict about a mission is decided for the server. -/
lemma run_conclude_mission (envelope : SyncEnvelope) (hasConflict : Bool) (d : Db) :
    (conclude envelope "Mission" hasConflict).run d = (.ok { success := true },
      if hasConflict then d
      else Db.offlineQueueItems.modifyWhere (hasQueueKey envelope.idempotencyKey) synced d) := by
  have hpolicy : getConflictPolicy "Mission" = .serverWins := by decide
  unfold conclude
  rw [hpolicy]
  cases hasConflict <;> rfl

/-- The run of what follows the first write. -/
lemma run_rest (envelope : SyncEnvelope) (d : Db) :
    (rest envelope).run d = (.ok { success := true },
      if conflicts envelope d then d
      else Db.offlineQueueItems.modifyWhere (hasQueueKey envelope.idempotencyKey) synced d) := by
  unfold rest
  cases hid : envelope.resourceId with
  | none =>
    have hnone : conflicts envelope d = false := by
      rw [conflicts, hid]
      simp
    rw [hnone]
    cases nonEmpty envelope.resourceType <;> exact run_finish envelope d
  | some resourceId =>
    cases htype : nonEmpty envelope.resourceType with
    | none =>
      have hnone : conflicts envelope d = false := by
        rw [conflicts, decide_eq_false]
        · rfl
        · intro h
          rw [h] at htype
          cases htype
      rw [hnone]
      exact run_finish envelope d
    | some resourceType =>
      have hsome : envelope.resourceType = some resourceType :=
        (Option.filter_eq_some_iff.mp htype).1
      dsimp only
      unfold detectConflict
      by_cases hmission : resourceType = "Mission" ∧ envelope.operationType = "MISSION_TRANSITION"
      · obtain ⟨rfl, hoperation⟩ := hmission
        have hconflicts : conflicts envelope d =
            match d.mission.get? resourceId, nonEmpty envelope.workflowState with
            | some m, some clientExpectedState => m.workflowState.text ≠ clientExpectedState
            | _, _ => false := by
          rw [conflicts, hsome, hoperation, hid]
          simp
        rw [if_pos ⟨rfl, hoperation⟩, Prog.bind_assoc,
          Prog.run_bind_ok (Client.run_findUnique _ _ _), hconflicts]
        exact run_conclude_mission envelope _ d
      · have hnone : conflicts envelope d = false := by
          rw [conflicts, hsome, Bool.and_eq_false_iff]
          refine .inl (Bool.eq_false_iff.mpr fun h => hmission ?_)
          simpa using h
        rw [if_neg hmission, hnone]
        show (conclude envelope resourceType false).run d = _
        unfold conclude
        cases getConflictPolicy resourceType <;> rfl

lemma run_rest_ok (envelope : SyncEnvelope) (d : Db) :
    (rest envelope).run d = (.ok { success := true }, (rest envelope).exec d) := by
  rw [Prog.exec, run_rest]

/-- What follows the first write, as a change of the item. -/
lemma changes_rest (envelope : SyncEnvelope) (d : Db) :
    Changes envelope.idempotencyKey (fun item => if conflicts envelope d then item else synced item)
      d ((rest envelope).exec d) := by
  have hexec : (rest envelope).exec d = if conflicts envelope d then d
      else Db.offlineQueueItems.modifyWhere (hasQueueKey envelope.idempotencyKey) synced d :=
    congrArg Prod.snd (run_rest envelope d)
  rw [hexec]
  by_cases hconflict : conflicts envelope d = true
  · simp only [if_pos hconflict]
    exact .of_eq fun _ _ => rfl
  · simp only [if_neg hconflict]
    exact changes_modifyWhere fun _ => rfl

/-- What follows when it is known whether there is an item. -/
def uploadUnless (envelope : SyncEnvelope) (existing : Option (Id × OfflineQueueItem)) :
    Svc SyncResult :=
  if (existing.map fun p => p.2.status) = some .synced then return { success := true }
  else upload envelope existing.isSome

lemma process_eq (envelope : SyncEnvelope) :
    process envelope =
      (Client.findFirst Db.offlineQueueItems (hasQueueKey envelope.idempotencyKey) >>=
        uploadUnless envelope) := rfl

lemma uploadUnless_none (envelope : SyncEnvelope) :
    uploadUnless envelope none = rest envelope := rfl

lemma uploadUnless_synced {envelope : SyncEnvelope} {p : Id × OfflineQueueItem}
    (h : p.2.status = .synced) :
    uploadUnless envelope (some p) = return { success := true } :=
  if_pos (congrArg some h)

lemma uploadUnless_some {envelope : SyncEnvelope} {p : Id × OfflineQueueItem}
    (h : p.2.status ≠ .synced) :
    uploadUnless envelope (some p) =
      (markQueueItemUploading envelope.idempotencyKey true >>= fun _ => rest envelope) :=
  if_neg fun h' => h (Option.some.inj h')

lemma run_markQueueItemUploading {d : Db} {key : String} {p : Id × OfflineQueueItem}
    (hfind : Db.offlineQueueItems.find (hasQueueKey key) d = some p) :
    (markQueueItemUploading key true).run d =
      (.ok (), Db.offlineQueueItems.modify p.1 uploading d) :=
  Client.run_updateUnique_of_some hfind _ _

lemma steps_markQueueItemUploading {d : Db} {key : String} {p : Id × OfflineQueueItem}
    (hfind : Db.offlineQueueItems.find (hasQueueKey key) d = some p) :
    (markQueueItemUploading key true).steps d = 1 := by
  rw [markQueueItemUploading, if_pos rfl, Client.updateUnique, Prog.steps, hfind]
  rfl

/-- **A call without failing steps** answers SYNCED. -/
lemma run_process (envelope : SyncEnvelope) (d : Db) :
    ∃ d', (process envelope).run d = (.ok { success := true }, d') ∧
      Changes envelope.idempotencyKey (settle envelope d) d d' := by
  rw [process_eq, Prog.run_bind_ok (Client.run_findFirst _ _ _)]
  cases hfind : Db.offlineQueueItems.find (hasQueueKey envelope.idempotencyKey) d with
  | none =>
    have hitem : itemOf envelope.idempotencyKey d = none := by
      rw [itemOf, hfind]
      rfl
    refine ⟨_, run_rest_ok envelope d, (changes_rest envelope d).congr fun item h => ?_⟩
    rw [hitem] at h
    cases h
  | some p =>
    have hitem : itemOf envelope.idempotencyKey d = some p.2 := by
      rw [itemOf, hfind]
      rfl
    by_cases hstatus : p.2.status = .synced
    · rw [uploadUnless_synced hstatus]
      refine ⟨d, rfl, .of_eq fun item h => ?_⟩
      obtain rfl := Option.some.inj (hitem.symm.trans h)
      exact if_pos hstatus
    · rw [uploadUnless_some hstatus, Prog.run_bind_ok (run_markQueueItemUploading hfind)]
      refine ⟨_, run_rest_ok envelope _, ?_⟩
      have hfirst : Changes envelope.idempotencyKey uploading d
          (Db.offlineQueueItems.modify p.1 uploading d) :=
        changes_modify (f := uploading) (fun _ => rfl) hfind
      refine (hfirst.trans (changes_rest envelope _)).congr fun item h => ?_
      obtain rfl := Option.some.inj (hitem.symm.trans h)
      -- The conflict does not depend on the queue.
      show (if conflicts envelope d then uploading p.2 else synced (uploading p.2)) = _
      rw [settle, if_neg hstatus]
      rfl

/-- **A call one of whose steps fails** has marked its item as being uploaded, or has done
nothing. -/
lemma failAt_process {envelope : SyncEnvelope} {n : ℕ} {d : Db}
    (hn : n < (process envelope).steps d) (e : Failure) :
    ∃ d', ((process envelope).failAt n e).run d = (.error e, d') ∧
      (d' = d ∨ (∀ item, itemOf envelope.idempotencyKey d = some item → item.status ≠ .synced) ∧
        Changes envelope.idempotencyKey uploading d d') := by
  refine ⟨_, Prog.run_failAt_of_lt hn e, ?_⟩
  rw [process_eq] at hn ⊢
  rcases Prog.failAt_bind_step rfl (Client.run_findFirst _ _ _) hn e with h | ⟨k, hk, h⟩
  · exact .inl h
  rw [h]
  cases hfind : Db.offlineQueueItems.find (hasQueueKey envelope.idempotencyKey) d with
  | none =>
    rw [hfind, uploadUnless_none] at hk
    rw [uploadUnless_none]
    exact .inl ((writesLast_rest envelope).exec_failAt hk e)
  | some p =>
    rw [hfind] at hk
    by_cases hstatus : p.2.status = .synced
    · rw [uploadUnless_synced hstatus] at hk
      cases hk
    · rw [uploadUnless_some hstatus] at hk ⊢
      rcases Prog.failAt_bind_step (steps_markQueueItemUploading hfind)
        (run_markQueueItemUploading hfind) hk e with h' | ⟨l, hl, h'⟩
      · exact .inl h'
      · rw [h', (writesLast_rest envelope).exec_failAt hl e]
        refine .inr ⟨fun item hitem => ?_, changes_modify (f := uploading) (fun _ => rfl) hfind⟩
        rw [itemOf, hfind] at hitem
        obtain rfl := Option.some.inj hitem
        exact hstatus

/-! ## Failures -/

/-- The item after a failure that is written down. -/
def failedOnce (item : OfflineQueueItem) : OfflineQueueItem :=
  { item with
    status := if item.retryCount + 1 ≥ item.maxRetries then .failed else .queued
    retryCount := item.retryCount + 1 }

/-- What follows when it is known whether there is an item whose failure is to be written down. -/
def record (key : String) : Option (Id × OfflineQueueItem) → Svc Unit
  | none => return ()
  | some p => Client.updateUnique Db.offlineQueueItems (hasQueueKey key) .recordNotFound fun item =>
      { item with
        status := if p.2.retryCount + 1 ≥ item.maxRetries then .failed else .queued
        retryCount := p.2.retryCount + 1 }

lemma markQueueItemFailed_eq (key : String) :
    markQueueItemFailed key =
      (Client.findFirst Db.offlineQueueItems (hasQueueKey key) >>= record key) := by
  unfold markQueueItemFailed
  congr 1
  funext found
  cases found <;> rfl

lemma writesLast_record (key : String) (found : Option (Id × OfflineQueueItem)) :
    (record key found).WritesLast := by
  cases found with
  | none => trivial
  | some p =>
    refine .inr fun d d' => ?_
    beta_reduce
    split <;> rfl

/-- A failure that cannot be written down changes nothing. -/
lemma exec_failAt_markQueueItemFailed {key : String} {n : ℕ} {d : Db}
    (hn : n < (markQueueItemFailed key).steps d) (e : Failure) :
    ((markQueueItemFailed key).failAt n e).exec d = d := by
  rw [markQueueItemFailed_eq] at hn ⊢
  rcases Prog.failAt_bind_step rfl (Client.run_findFirst _ _ _) hn e with h | ⟨k, hk, h⟩
  · exact h
  · rw [h]
    exact (writesLast_record key _).exec_failAt hk e

/-- Where there is no item, a failure is not written down. -/
lemma exec_markQueueItemFailed_none {d : Db} {key : String} (hitem : itemOf key d = none)
    (fault : Option (ℕ × Failure)) : ((markQueueItemFailed key).withFault fault).exec d = d := by
  have hfind : Db.offlineQueueItems.find (hasQueueKey key) d = none := by
    rwa [itemOf, Option.map_eq_none_iff] at hitem
  by_cases hfault : Prog.Sparing ((markQueueItemFailed key).steps d) fault
  · rw [Prog.exec, Prog.run_withFault_of_sparing hfault, markQueueItemFailed_eq,
      Prog.run_bind_ok (Client.run_findFirst _ _ _), hfind]
    rfl
  · obtain ⟨n, e, rfl, hn⟩ := Prog.not_sparing_iff.mp hfault
    exact exec_failAt_markQueueItemFailed hn e

/-- **A failure** of an item that is there is written down, unless that fails as well. -/
lemma run_markQueueItemFailed {d : Db} {key : String} {item : OfflineQueueItem}
    (hitem : itemOf key d = some item) (fault : Option (ℕ × Failure)) :
    (Prog.Sparing 2 fault ∧ ∃ d', ((markQueueItemFailed key).withFault fault).run d = (.ok (), d') ∧
      Changes key failedOnce d d') ∨
    (¬ Prog.Sparing 2 fault ∧ ∃ e, ((markQueueItemFailed key).withFault fault).run d =
      (.error e, d)) := by
  obtain ⟨p, hfind, rfl⟩ := Option.map_eq_some_iff.mp hitem
  have hsteps : (markQueueItemFailed key).steps d = 2 := by
    rw [markQueueItemFailed_eq, Prog.steps_bind, Client.run_findFirst, hfind]
    have hone : (record key (some p)).steps d = 1 := by
      rw [record, Client.updateUnique, Prog.steps, hfind]
      rfl
    show 1 + (record key (some p)).steps d = 2
    rw [hone]
  by_cases hfault : Prog.Sparing 2 fault
  · refine .inl ⟨hfault, ?_⟩
    rw [Prog.run_withFault_of_sparing (by rwa [hsteps]), markQueueItemFailed_eq,
      Prog.run_bind_ok (Client.run_findFirst _ _ _), hfind]
    refine ⟨_, Client.run_updateUnique_of_some hfind _ _, ?_⟩
    refine (changes_modify (f := fun item => { item with
      status := if p.2.retryCount + 1 ≥ item.maxRetries then .failed else .queued
      retryCount := p.2.retryCount + 1 }) (fun _ => rfl) hfind).congr fun item h => ?_
    obtain rfl := Option.some.inj (hitem.symm.trans h)
    rfl
  · obtain ⟨n, e, rfl, hn⟩ := Prog.not_sparing_iff.mp hfault
    rw [← hsteps] at hn
    have hexec := exec_failAt_markQueueItemFailed hn e
    refine .inr ⟨hfault, e, ?_⟩
    rw [Prog.withFault, Prog.run_failAt_of_lt hn, hexec]

/-! ## Every call -/

/-- Without a failing step, a call answers SYNCED. -/
lemma run_attempt {c : Call} {d : Db} (h : ¬ c.Fails d) :
    ∃ d', (attempt c).run d = (.ok { success := true }, d') ∧
      Changes c.envelope.idempotencyKey (settle c.envelope d) d d' := by
  obtain ⟨d', hrun, hchanges⟩ := run_process c.envelope d
  refine ⟨d', ?_, hchanges⟩
  rw [attempt, Prog.run_tryCatch, Prog.run_withFault_of_sparing (not_not.mp h), hrun]

/-- A failing step takes a call to the handler, with its item marked as being uploaded or not. -/
lemma run_attempt_fails {c : Call} {d : Db} (h : c.Fails d) :
    ∃ e d', (attempt c).run d = (do
        (markQueueItemFailed c.envelope.idempotencyKey).withFault c.faultAfter
        return { status := .failed, error := some e } : Svc SyncResult).run d' ∧
      (d' = d ∨ (∀ item, itemOf c.envelope.idempotencyKey d = some item →
        item.status ≠ .synced) ∧ Changes c.envelope.idempotencyKey uploading d d') := by
  obtain ⟨n, e, hfault, hn⟩ := Prog.not_sparing_iff.mp h
  obtain ⟨d', hrun, hd'⟩ := failAt_process hn e
  refine ⟨e, d', ?_, hd'⟩
  have hfailed : ((process c.envelope).withFault c.fault).run d = (.error e, d') := by
    rw [hfault, Prog.withFault, hrun]
  rw [attempt, Prog.run_tryCatch, hfailed]

/-- **The outcomes of a call.** -/
inductive Outcome (d : Db) (c : Call) : Prop
  /-- There is no item, and none is there afterwards. -/
  | absent (hitem : itemOf c.envelope.idempotencyKey d = none)
      (hsame : ∀ key, itemOf key (step d c) = itemOf key d)
  | answered (hfails : ¬ c.Fails d) (hrun : ((attempt c).run d).1 = .ok { success := true })
      (hchanges : Changes c.envelope.idempotencyKey (settle c.envelope d) d (step d c))
  | recorded (e : Failure) (hfails : c.Fails d) (hrecords : c.Records)
      (hrun : ((attempt c).run d).1 = .ok { status := .failed, error := some e })
      (hchanges : Changes c.envelope.idempotencyKey failedOnce d (step d c))
  | thrown (e : Failure) (hfails : c.Fails d) (hrecords : ¬ c.Records)
      (hrun : ((attempt c).run d).1 = .error e)
      (hchanges : Changes c.envelope.idempotencyKey
        (fun item => if item.status = .synced then item else uploading item) d (step d c) ∨
        step d c = d)

lemma outcome (d : Db) (c : Call) : Outcome d c := by
  by_cases hfails : c.Fails d
  · obtain ⟨e, d₁, hrun, hd₁⟩ := run_attempt_fails hfails
    cases hitem : itemOf c.envelope.idempotencyKey d with
    | none =>
      have hsame : ∀ key, itemOf key d₁ = itemOf key d := by
        rcases hd₁ with rfl | ⟨-, hchanges⟩
        · exact fun _ => rfl
        · intro key
          rw [hchanges key]
          split
          · rename_i hkey
            rw [hkey, hitem]
            rfl
          · rfl
      have hexec : step d c = d₁ := by
        rw [step, Prog.exec, hrun]
        exact (Prog.exec_bind_pure _ _ _).trans
          (exec_markQueueItemFailed_none ((hsame _).trans hitem) _)
      exact .absent hitem fun key => by rw [hexec, hsame key]
    | some item =>
      obtain ⟨item₁, hitem₁⟩ : ∃ item₁, itemOf c.envelope.idempotencyKey d₁ = some item₁ := by
        rcases hd₁ with rfl | ⟨-, hchanges⟩
        · exact ⟨item, hitem⟩
        · exact ⟨uploading item, by rw [hchanges, if_pos rfl, hitem]; rfl⟩
      rcases run_markQueueItemFailed hitem₁ c.faultAfter with
        ⟨hrecords, d₂, hrun₂, hchanges₂⟩ | ⟨hrecords, e', hrun₂⟩
      · have hattempt : (attempt c).run d = (.ok { status := .failed, error := some e }, d₂) := by
          rw [hrun, Prog.run_bind_ok hrun₂]
          rfl
        refine .recorded e hfails hrecords (by rw [hattempt]) ?_
        rw [step, Prog.exec, hattempt]
        rcases hd₁ with rfl | ⟨-, hchanges⟩
        · exact hchanges₂
        · exact hchanges.trans hchanges₂
      · have hattempt : (attempt c).run d = (.error e', d₁) := by
          rw [hrun, Prog.run_bind, hrun₂]
        refine .thrown e' hfails hrecords (by rw [hattempt]) ?_
        rw [step, Prog.exec, hattempt]
        rcases hd₁ with rfl | ⟨hstatus, hchanges⟩
        · exact .inr rfl
        · exact .inl (hchanges.congr fun item h => (if_neg (hstatus item h)).symm)
  · obtain ⟨d', hrun, hchanges⟩ := run_attempt hfails
    refine .answered hfails (by rw [hrun]) ?_
    rwa [step, Prog.exec, hrun]

/-- What becomes of the items when that of the call is changed in one way. -/
lemma Changes.cases {key : String} {f : OfflineQueueItem → OfflineQueueItem} {d d' : Db}
    (h : Changes key f d d') {key' : String} {item' : OfflineQueueItem}
    (hitem : itemOf key' d' = some item') :
    itemOf key' d = some item' ∨
      ∃ item, key' = key ∧ itemOf key d = some item ∧ item' = f item := by
  rw [h key'] at hitem
  split at hitem
  · rename_i hkey
    obtain ⟨item, hbefore, rfl⟩ := Option.map_eq_some_iff.mp hitem
    exact .inr ⟨item, hkey, hbefore, rfl⟩
  · exact .inl hitem

lemma Changes.of_some {key : String} {f : OfflineQueueItem → OfflineQueueItem} {d d' : Db}
    (h : Changes key f d d') {item' : OfflineQueueItem} (hitem : itemOf key d' = some item') :
    ∃ item, itemOf key d = some item ∧ f item = item' := by
  rw [h, if_pos rfl] at hitem
  exact Option.map_eq_some_iff.mp hitem

/-- A change that keeps the counters keeps the bound. -/
lemma Changes.bounded {key : String} {f : OfflineQueueItem → OfflineQueueItem} {d d' : Db}
    (h : Changes key f d d') (hd : Bounded d)
    (hf : ∀ item, (f item).retryCount = item.retryCount ∧ (f item).maxRetries = item.maxRetries) :
    Bounded d' := by
  intro key' item' hitem'
  rcases h.cases hitem' with hbefore | ⟨item, -, hbefore, rfl⟩
  · exact hd key' item' hbefore
  · rw [(hf item).1, (hf item).2]
    exact hd key item hbefore

/-- A change that leaves what is SYNCED leaves it SYNCED. -/
lemma Changes.synced {key : String} {f : OfflineQueueItem → OfflineQueueItem} {d d' : Db}
    (h : Changes key f d d')
    (hf : ∀ item, itemOf key d = some item → item.status = .synced → (f item).status = .synced)
    {key' : String} {item : OfflineQueueItem} (hitem : itemOf key' d = some item)
    (hstatus : item.status = .synced) :
    ∃ item', itemOf key' d' = some item' ∧ item'.status = .synced := by
  rw [h key']
  split
  · rename_i hkey
    rw [hkey] at hitem
    exact ⟨f item, by rw [hitem]; rfl, hf item hitem hstatus⟩
  · exact ⟨item, hitem, hstatus⟩

/-- **One call** answers as the queue is exactly if it settles. -/
lemma answers_step_iff {d : Db} (hd : Bounded d) (c : Call) : Answers d c ↔ Settles d c := by
  cases outcome d c with
  | absent hitem hsame =>
    have hnone : ∀ item, itemOf c.envelope.idempotencyKey d ≠ some item := fun item h => by
      rw [hitem] at h
      cases h
    refine iff_of_true ⟨fun result _ item h => ?_, fun key item h => ?_, fun key item h hs => ?_⟩
      ⟨fun _ item h => absurd h (hnone item), fun _ _ item h => absurd h (hnone item)⟩
    · rw [hsame] at h
      exact absurd h (hnone item)
    · rw [hsame] at h
      exact hd key item h
    · exact ⟨item, (hsame key).trans h, hs⟩
  | answered hfails hrun hchanges =>
    have hafter : ∀ item, itemOf c.envelope.idempotencyKey d = some item →
        itemOf c.envelope.idempotencyKey (step d c) = some (settle c.envelope d item) := by
      intro item hitem
      rw [hchanges, if_pos rfl, hitem]
      rfl
    constructor
    · intro h
      refine ⟨fun _ item hitem hstatus => ?_, fun h' => absurd h' hfails⟩
      have hsame := h.status _ hrun _ (hafter item hitem)
      rw [settle, if_neg hstatus] at hsame
      by_contra hconflict
      rw [if_pos (Bool.eq_true_of_not_eq_false hconflict)] at hsame
      cases hsame
    · intro h
      refine ⟨fun result hresult item' hitem' => ?_, hchanges.bounded hd fun item => ?_,
        fun key item hitem hstatus => hchanges.synced (fun item' _ hstatus' => ?_) hitem hstatus⟩
      · obtain rfl := Except.ok.inj (hrun.symm.trans hresult)
        obtain ⟨item, hitem, rfl⟩ := hchanges.of_some hitem'
        rw [settle]
        by_cases hstatus : item.status = .synced
        · rw [if_pos hstatus, hstatus]
        · rw [if_neg hstatus, h.conflict hfails item hitem hstatus]
          rfl
      · rw [settle]
        split_ifs <;> exact ⟨rfl, rfl⟩
      · rw [settle, if_pos hstatus', hstatus']
  | recorded e hfails hrecords hrun hchanges =>
    constructor
    · intro h
      refine ⟨fun h' => absurd hfails h', fun _ _ item hitem => ?_⟩
      have hafter : itemOf c.envelope.idempotencyKey (step d c) = some (failedOnce item) := by
        rw [hchanges, if_pos rfl, hitem]
        rfl
      constructor
      · -- The item is FAILED or QUEUED afterwards.
        intro hstatus
        obtain ⟨item', hitem', hsynced⟩ := h.synced _ item hitem hstatus
        obtain rfl := Option.some.inj (hafter.symm.trans hitem')
        rw [failedOnce] at hsynced
        dsimp only at hsynced
        split_ifs at hsynced
      · have hbound : item.retryCount + 1 ≤ item.maxRetries := h.bounded _ _ hafter
        have hlast : item.retryCount + 1 ≥ item.maxRetries := by
          have hsame := h.status _ hrun _ hafter
          rw [failedOnce] at hsame
          dsimp only at hsame
          split_ifs at hsame with hlast
          exact hlast
        exact le_antisymm hbound hlast
    · intro h
      refine ⟨fun result hresult item' hitem' => ?_, fun key item' hitem' => ?_,
        fun key item hitem hstatus => hchanges.synced (fun item' hitem' hstatus' => ?_) hitem
          hstatus⟩
      · obtain rfl := Except.ok.inj (hrun.symm.trans hresult)
        obtain ⟨item, hitem, rfl⟩ := hchanges.of_some hitem'
        exact (if_pos (h.failure hfails hrecords item hitem).2.ge).symm
      · rcases hchanges.cases hitem' with hbefore | ⟨item, -, hbefore, rfl⟩
        · exact hd key item' hbefore
        · exact (h.failure hfails hrecords item hbefore).2.le
      · exact absurd hstatus' (h.failure hfails hrecords item' hitem').1
  | thrown e hfails hrecords hrun hchanges =>
    have hnot : ∀ result, ((attempt c).run d).1 ≠ .ok result := fun result h => by
      rw [hrun] at h
      cases h
    refine iff_of_true ?_ ⟨fun h => absurd hfails h, fun _ h => absurd h hrecords⟩
    refine ⟨fun result h => absurd h (hnot result), ?_, fun key item hitem hstatus => ?_⟩
    · rcases hchanges with hchanges | hsame
      · exact hchanges.bounded hd fun item => by split_ifs <;> exact ⟨rfl, rfl⟩
      · rwa [hsame]
    · rcases hchanges with hchanges | hsame
      · exact hchanges.synced (fun item' _ h => by rw [if_pos h, h]) hitem hstatus
      · exact ⟨item, by rw [hsame, hitem], hstatus⟩

/-- A mission that has been accepted, and a transition of it that has been queued. -/
def oneQueued : Db where
  mission := Table.empty.insert
    { caseId := 0, agentId := 0, payoutAmount := 5000, netPayout := 4500 }
  offlineQueue := Table.empty.insert { agentId := 0, idempotencyKey := "k1", maxRetries := 1 }

/-- The transition of the mission, from the state that the client expects. -/
def transition (workflowState : String) : SyncEnvelope where
  operationType := "MISSION_TRANSITION"
  resourceType := some "Mission"
  resourceId := some 0
  workflowState := some workflowState
  idempotencyKey := "k1"

end Sync

end Asoju.FieldForce
