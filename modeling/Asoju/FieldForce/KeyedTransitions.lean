/-
A transition with an idempotency key, sent again.

A request whose key is marked as synced is answered at once.  The key stays marked whatever comes in
between (`synced_later`), so that the request can be sent again at any time; but a submission is
answered before its key is marked, and is refused when it is sent again (`harmless_iff`).
-/
import Asoju.FieldForce.MissionMoves
import Asoju.FieldForce.Sync
import Asoju.Lib.Run

namespace Asoju.FieldForce

open Lib

namespace KeyedTransitions

open Transitions

/-! ## The status of a key -/

def statusOf (key : String) (queue : Table OfflineQueueItem) : Option SyncQueueStatus :=
  (queue.rows.find? fun p => hasQueueKey key p.2).map fun p => p.2.status

lemma synced_iff {key : String} {d : Db} :
    synced (some key) d = true ↔ statusOf key d.offlineQueue = some .synced := decide_eq_true_iff

/-- A key that is marked as synced stays so. -/
def Stays (key : String) (d d' : Db) : Prop :=
  statusOf key d.offlineQueue = some .synced → statusOf key d'.offlineQueue = some .synced

section Queue

variable {key : String} {queue : Table OfflineQueueItem} {i : Id}
  {f : OfflineQueueItem → OfflineQueueItem}

lemma statusOf_modify (hkey : ∀ item, (f item).idempotencyKey = item.idempotencyKey) :
    statusOf key (queue.modify i f) = (queue.rows.find? fun p => hasQueueKey key p.2).map
      fun p => if p.1 = i then (f p.2).status else p.2.status := by
  have hfind := Table.find?_mapRows queue (f := fun j item => if j = i then f item else item)
    (q := hasQueueKey key) fun j item => by
      split
      · rw [hasQueueKey, hkey, hasQueueKey]
      · rfl
  rw [statusOf, Table.modify, hfind, Option.map_map]
  congr 1
  funext p
  simp only [Function.comp_apply]
  split <;> rfl

/-- To mark an item as synced does no harm. -/
lemma synced_modify (hkey : ∀ item, (f item).idempotencyKey = item.idempotencyKey)
    (hsynced : ∀ item, (f item).status = .synced) (h : statusOf key queue = some .synced) :
    statusOf key (queue.modify i f) = some .synced := by
  rw [statusOf_modify hkey]
  obtain ⟨p, hp, hstatus⟩ := Option.map_eq_some_iff.mp h
  rw [hp, Option.map_some]
  split
  · rw [hsynced]
  · rw [hstatus]

/-- A change of an item that is not synced leaves those that are. -/
lemma synced_modify_of_not_synced {item : OfflineQueueItem} (hget : queue.get? i = some item)
    (hitem : item.status ≠ .synced)
    (hkey : ∀ item, (f item).idempotencyKey = item.idempotencyKey)
    (h : statusOf key queue = some .synced) : statusOf key (queue.modify i f) = some .synced := by
  rw [statusOf_modify hkey]
  obtain ⟨p, hp, hstatus⟩ := Option.map_eq_some_iff.mp h
  rw [hp, Option.map_some, if_neg, hstatus]
  rintro rfl
  have hrow := (queue.mem_rows_iff (i := p.1) (b := p.2)).mp (List.mem_of_find?_eq_some hp)
  obtain rfl := Option.some.inj (hrow.symm.trans hget)
  exact hitem hstatus

lemma synced_insert (item : OfflineQueueItem) (h : statusOf key queue = some .synced) :
    statusOf key (queue.insert item) = some .synced := by
  obtain ⟨p, hp, hstatus⟩ := Option.map_eq_some_iff.mp h
  rw [statusOf, Table.find?_insert, hp, Option.some_or, Option.map_some, hstatus]

lemma synced_modifyWhere {q : OfflineQueueItem → Bool}
    (hkey : ∀ item, (f item).idempotencyKey = item.idempotencyKey)
    (hsynced : ∀ item, (f item).status = .synced) (h : statusOf key queue = some .synced) :
    statusOf key (queue.modifyWhere (fun _ item => q item) f) = some .synced := by
  have hfind := Table.find?_mapRows queue (f := fun _ item => if q item then f item else item)
    (q := hasQueueKey key) fun _ item => by
      split
      · rw [hasQueueKey, hkey, hasQueueKey]
      · rfl
  obtain ⟨p, hp, hstatus⟩ := Option.map_eq_some_iff.mp h
  rw [statusOf, Table.modifyWhere, hfind, hp, Option.map_some, Option.map_some]
  split
  · rw [hsynced]
  · rw [hstatus]

end Queue

/-! ## A key that is marked stays marked -/

section Stays

variable {key : String}

lemma Stays.refl (d : Db) : Stays key d d := id

lemma Stays.trans {d₁ d₂ d₃ : Db} (h : Stays key d₁ d₂) (h' : Stays key d₂ d₃) :
    Stays key d₁ d₃ := fun hd => h' (h hd)

/-- A program whose steps all leave the key marked leaves it marked. -/
lemma keeps_of_eachStep {α : Type} {m : Svc α} (h : m.EachStep fun _ => Stays key) :
    m.Keeps (Stays key) :=
  h.keeps Stays.refl fun _ _ _ => Stays.trans

lemma Keeps.bind {α β : Type} {m : Svc α} {f : α → Svc β} (hm : m.Keeps (Stays key))
    (hf : ∀ a, (f a).Keeps (Stays key)) : (m >>= f).Keeps (Stays key) :=
  Prog.Keeps.bind (R := Stays key) (fun _ _ _ => Stays.trans) hm hf

lemma eachStep_record {β : Type} {t : Db.Of β} {b : β} (h : ∀ d, Stays key d (t.insert b d)) :
    (record t b).EachStep fun _ => Stays key :=
  .bind (Client.eachStep_create h) fun _ => .pure ()

lemma eachStep_endSync (k : Option String) : (endSync k).EachStep fun _ => Stays key := by
  cases k with
  | none => exact .pure ()
  | some k =>
    exact Client.eachStep_updateUnique Stays.refl fun i d =>
      synced_modify (fun _ => rfl) fun _ => rfl

/-- An operation that begins to be synced was not. -/
lemma keeps_beginSync (agentId caseId : Id) (k : Option String) :
    (beginSync agentId caseId k).Keeps (Stays key) := by
  intro d hd
  rw [Prog.exec, run_beginSync]
  change statusOf key (begun agentId caseId k d) = _
  cases k with
  | none => exact hd
  | some k =>
    rw [begun]
    split
    · exact hd
    · rename_i hsynced
      cases hfind : Db.offlineQueueItems.find (hasQueueKey k) d with
      | none => exact synced_insert _ hd
      | some q =>
        refine synced_modify_of_not_synced (TableOf.find_eq_some hfind).1 ?_ (fun _ => rfl) hd
        intro hstatus
        refine hsynced (decide_eq_true ?_)
        rw [hfind, Option.map_some, hstatus]

lemma eachStep_enterQc (caseId missionId : Id) (previousState : WorkflowState) :
    (enterQc caseId missionId previousState).EachStep fun _ => Stays key := by
  refine .bind (Client.eachStep_update .refl) fun _ => .bind (Client.eachStep_query .refl) ?_
  intro lastQcReview
  refine .bind (eachStep_record .refl) fun _ => .bind (Client.eachStep_update .refl) fun _ => ?_
  exact .bind (eachStep_record .refl) fun _ => .bind (Client.eachStep_query .refl) fun _ => .pure _

lemma eachStep_move (caseId missionId : Id) (mission : Mission) (action : MissionAction)
    (newState : WorkflowState) (r : TransitionRequest) :
    (move caseId missionId mission action newState r).EachStep fun _ => Stays key := by
  refine .bind (Client.eachStep_updateMany .refl) fun count => ?_
  split
  · exact .pure _
  refine .bind (Client.eachStep_query .refl) fun _ => .bind (eachStep_record .refl) fun _ => ?_
  split
  · exact eachStep_enterQc caseId missionId mission.workflowState
  · exact .bind (eachStep_endSync _) fun _ => .pure _

lemma eachStep_transition (agentId caseId : Id) (action : MissionAction) (r : TransitionRequest) :
    (transition agentId caseId action r).EachStep fun _ => Stays key := by
  refine .bind (Client.eachStep_query .refl) fun found => ?_
  cases found with
  | none => exact .pure _
  | some q =>
    dsimp only
    split_ifs
    · exact .pure _
    · exact .pure _
    · cases validateTransition q.2.workflowState action .agent r.reason with
      | error refusal => exact .pure _
      | ok newState => exact eachStep_move caseId q.1 q.2 action newState r

lemma stays_transition (agentId : Id) (r : TransitionRequest) (d : Db) :
    Stays key d ((Transitions.POST agentId r).exec d) := by
  rw [Transitions.POST, Prog.exec_tryCatch_pure]
  revert d
  change (Transitions.process agentId r).Keeps (Stays key)
  rw [Transitions.process]
  split
  · refine Keeps.bind (keeps_beginSync _ _ _) fun alreadySynced => ?_
    split
    · exact .pure .refl _
    · exact keeps_of_eachStep (eachStep_transition _ _ _ _)
  · exact .pure .refl _

lemma stays_checklist (agentId : Id) (r : Checklist.Update) (d : Db) :
    Stays key d ((Checklist.PATCH agentId r).exec d) := by
  rw [Checklist.PATCH, Prog.exec_tryCatch_pure]
  revert d
  change (Checklist.process agentId r).Keeps (Stays key)
  rw [Checklist.process]
  split
  · exact .pure .refl _
  refine Keeps.bind (keeps_beginSync _ _ _) fun alreadySynced => ?_
  split
  · exact .pure .refl _
  refine keeps_of_eachStep (.bind (Client.eachStep_query .refl) fun found => ?_)
  cases found with
  | none => exact .pure _
  | some q =>
    dsimp only
    split
    · exact .pure _
    split
    · exact .pure _
    · exact .bind (Client.eachStep_update .refl) fun _ => .bind (eachStep_record .refl) fun _ =>
        .bind (eachStep_endSync _) fun _ => .pure _

lemma stays_checkIn (agentId : Id) (r : CheckIn.CheckInRequest) (d : Db) :
    Stays key d ((CheckIn.POST agentId r).exec d) := by
  rw [CheckIn.POST, Prog.exec_tryCatch_pure]
  revert d
  change (CheckIn.process agentId r).Keeps (Stays key)
  rw [CheckIn.process]
  split
  · exact .pure .refl _
  refine keeps_of_eachStep (.bind (Client.eachStep_query .refl) fun found => ?_)
  cases found with
  | none => exact .pure _
  | some q =>
    dsimp only
    split
    · exact .pure _
    split
    · exact .pure _
    refine .bind (eachStep_record .refl) fun _ => ?_
    split
    · exact .bind (eachStep_record .refl) fun _ => .pure _
    rw [CheckIn.arrive]
    split
    · exact .pure _
    refine .bind (Client.eachStep_updateMany .refl) fun count => ?_
    split
    · exact .pure _
    refine .bind (Client.eachStep_query .refl) fun _ => .bind ?_ fun _ =>
      .bind (eachStep_record .refl) fun _ => .pure _
    exact Client.eachStep_upsert (fun i d => synced_modify (fun _ => rfl) fun _ => rfl)
      fun d => synced_insert _

lemma run_detectConflict (envelope : Sync.SyncEnvelope) (resourceType : String) (resourceId : Id)
    (d : Db) : ∃ hasConflict,
      (Sync.detectConflict envelope resourceType resourceId).run d = (.ok hasConflict, d) := by
  rw [Sync.detectConflict]
  split
  · exact ⟨_, rfl⟩
  · exact ⟨_, rfl⟩

lemma finish_returns (envelope : Sync.SyncEnvelope) (d : Db) :
    (Sync.finish envelope).Returns d fun _ => Stays key d :=
  .bind_run (Prog.run_bind_ok (Client.run_updateMany _ _ _ _))
    (.of_run (Prog.run_pure _ _) (synced_modifyWhere (fun _ => rfl) fun _ => rfl))

variable (key) in
/-- The item that is being uploaded was not synced. -/
lemma uploading_returns {k : String} {d : Db} (hd : statusOf k d.offlineQueue ≠ some .synced) :
    (Sync.markQueueItemUploading k (Db.offlineQueueItems.find (hasQueueKey k) d).isSome).Returns d
      fun _ => Stays key d := by
  rw [Sync.markQueueItemUploading]
  cases hfind : Db.offlineQueueItems.find (hasQueueKey k) d with
  | none => exact .of_run (Prog.run_pure _ _) (Stays.refl d)
  | some q =>
    rw [Option.isSome_some, if_pos rfl]
    refine .of_run (Client.run_updateUnique_of_some hfind _ _) ?_
    refine synced_modify_of_not_synced (TableOf.find_eq_some hfind).1 ?_ fun _ => rfl
    intro hstatus
    have hrow : (d.offlineQueue.rows.find? fun p => hasQueueKey k p.2) = some q := hfind
    exact hd (by rw [statusOf, hrow, Option.map_some, hstatus])

lemma upload_returns {envelope : Sync.SyncEnvelope} {d : Db}
    (hd : statusOf envelope.idempotencyKey d.offlineQueue ≠ some .synced) :
    (Sync.upload envelope
      (Db.offlineQueueItems.find (hasQueueKey envelope.idempotencyKey) d).isSome).Returns d
        fun _ => Stays key d := by
  obtain ⟨_, d₁, hrun, hstays⟩ := uploading_returns key hd
  refine .bind_run hrun ?_
  split
  · rename_i resourceType resourceId _ _
    obtain ⟨hasConflict, hconflict⟩ := run_detectConflict envelope resourceType resourceId d₁
    refine .bind_run hconflict ?_
    split
    · exact .of_run (Prog.run_pure _ _) hstays
    · exact .of_run (Prog.run_pure _ _) hstays
    · exact (finish_returns envelope d₁).mono fun _ _ => hstays.trans
  · exact (finish_returns envelope d₁).mono fun _ _ => hstays.trans

variable (key) in
lemma processSyncMutation_returns (envelope : Sync.SyncEnvelope) (d : Db) :
    (Sync.processSyncMutation envelope).Returns d fun _ => Stays key d := by
  refine .tryCatch (.bind_run (Client.run_findFirst _ _ _) ?_)
  split
  · exact .of_run (Prog.run_pure _ _) (Stays.refl d)
  · rename_i hsynced
    exact upload_returns hsynced

variable (key) in
lemma enqueue_returns (agentId : Id) (mutation : Sync.SyncEnvelope) (d : Db) :
    (Sync.enqueue agentId mutation).Returns d fun _ => Stays key d := by
  refine .bind_run (Client.run_findFirst _ _ _) ?_
  split
  · exact .of_run (Prog.run_pure _ _) (Stays.refl d)
  obtain ⟨d₁, hrun, hstays⟩ : ∃ d₁, (Sync.createQueueItem agentId mutation
      (Db.offlineQueueItems.find (hasQueueKey mutation.idempotencyKey) d).isSome).run d =
        (.ok (), d₁) ∧ Stays key d d₁ := by
    rw [Sync.createQueueItem]
    cases hfind : Db.offlineQueueItems.find (hasQueueKey mutation.idempotencyKey) d with
    | some q => exact ⟨d, rfl, Stays.refl d⟩
    | none =>
      have hcreate := Client.run_createUnique Db.offlineQueueItems d
        (hasQueueKey mutation.idempotencyKey) Failure.uniqueConstraint
        { agentId, missionId := mutation.missionId, idempotencyKey := mutation.idempotencyKey }
      rw [hfind] at hcreate
      exact ⟨_, Prog.run_bind_ok hcreate, synced_insert _⟩
  refine .bind_run hrun ?_
  obtain ⟨result, d₂, hprocess, hstays'⟩ := processSyncMutation_returns key mutation d₁
  exact .bind_run hprocess (.of_run (Prog.run_pure _ _) (hstays.trans hstays'))

variable (key) in
lemma enqueueAll_returns (agentId : Id) (mutations : List Sync.SyncEnvelope) (d : Db) :
    (Sync.enqueueAll agentId mutations).Returns d fun _ => Stays key d := by
  induction mutations generalizing d with
  | nil => exact .of_run (Prog.run_pure _ _) (Stays.refl d)
  | cons mutation mutations ih =>
    obtain ⟨entry, d₁, hrun, hstays⟩ := enqueue_returns key agentId mutation d
    obtain ⟨entries, d₂, hrest, hstays'⟩ := ih d₁
    exact .bind_run hrun (.bind_run hrest (.of_run (Prog.run_pure _ _) (hstays.trans hstays')))

lemma stays_sync (agentId : Id) (mutations : List Sync.SyncEnvelope) (d : Db) :
    Stays key d ((Sync.POST agentId mutations).exec d) := by
  rw [Sync.POST, Prog.exec_tryCatch_pure]
  refine Prog.Returns.exec (Q := Stays key d) ?_
  rw [Sync.syncAll]
  split
  · exact .of_run (Prog.run_pure _ _) (Stays.refl d)
  split
  · exact .of_run (Prog.run_pure _ _) (Stays.refl d)
  · obtain ⟨entries, d₁, hrun, hstays⟩ := enqueueAll_returns key agentId mutations d
    exact .bind_run hrun (.of_run (Prog.run_pure _ _) hstays)

end Stays

/-! ## What may come later -/

/-- A request that comes later. -/
inductive Later
  | transition (agentId : Id) (r : TransitionRequest)
  | checkIn (agentId : Id) (r : CheckIn.CheckInRequest)
  | checklist (agentId : Id) (r : Checklist.Update)
  | sync (agentId : Id) (mutations : List Sync.SyncEnvelope)
  /-- Any other one: it leaves the queue alone. -/
  | elsewhere (f : Db → Db) (h : ∀ d, (f d).offlineQueue = d.offlineQueue)

def step (d : Db) : Later → Db
  | .transition agentId r => (Transitions.POST agentId r).exec d
  | .checkIn agentId r => (CheckIn.POST agentId r).exec d
  | .checklist agentId r => (Checklist.PATCH agentId r).exec d
  | .sync agentId mutations => (Sync.POST agentId mutations).exec d
  | .elsewhere f _ => f d

lemma stays_step (key : String) (d : Db) (o : Later) : Stays key d (step d o) := by
  cases o with
  | transition agentId r => exact stays_transition agentId r d
  | checkIn agentId r => exact stays_checkIn agentId r d
  | checklist agentId r => exact stays_checklist agentId r d
  | sync agentId mutations => exact stays_sync agentId mutations d
  | elsewhere f h =>
    intro hd
    rwa [step, h]

/-- A key that is marked as synced is so at any later time. -/
lemma synced_later {key : Option String} {d : Db} (h : synced key d = true) (os : List Later) :
    synced key (runFrom step d os) = true := by
  cases key with
  | none => exact h
  | some k =>
    have hstays : ∀ d o, statusOf k (Db.offlineQueue d) = some .synced →
        statusOf k (step d o).offlineQueue = some .synced := fun d o => stays_step k d o
    exact synced_iff.mpr (invariant hstays (synced_iff.mp h) os).last

/-! ## The same request again -/

/-- The request succeeds and leaves the missions, their reviews and the audit as they are. -/
def Harmless (agentId : Id) (r : TransitionRequest) (d : Db) : Prop :=
  (Transitions.POST agentId r).Returns d fun reply d' => reply.Success ∧
    d'.mission = d.mission ∧ d'.qcReview = d.qcReview ∧ d'.auditEvent = d.auditEvent

/-- The request succeeds. -/
def Succeeds (agentId : Id) (r : TransitionRequest) (d : Db) : Prop :=
  (Transitions.POST agentId r).Returns d fun reply _ => reply.Success

/-- The request has a key, and it does not submit the mission. -/
def Marks (agentId : Id) (r : TransitionRequest) (d : Db) : Prop :=
  (nonEmpty r.idempotencyKey).isSome ∧ ∀ q ∈ moves agentId r d, q.2.2.2 ≠ .submitted

/-- An action of an agent cannot be taken again right after it has been taken. -/
lemma not_again {s t : WorkflowState} {action : MissionAction} {reason : Option String}
    (h : validateTransition s action .agent reason = .ok t) (reason' : Option String) :
    ∃ refusal, validateTransition (settled t) action .agent reason' = .error refusal := by
  have htable : ∀ x ∈ missionTransitions, .agent ∈ x.allowedRoles → ∀ y ∈ missionTransitions,
      y.action = x.action → .agent ∈ y.allowedRoles → y.src ≠ settled x.dst := by
    decide +kernel
  obtain ⟨x, hx, haction, -, hdst, hrole⟩ := validateTransition_eq_ok h
  cases hagain : validateTransition (settled t) action .agent reason' with
  | error refusal => exact ⟨refusal, rfl⟩
  | ok t' =>
    obtain ⟨y, hy, haction', hsrc, -, hrole'⟩ := validateTransition_eq_ok hagain
    subst hdst
    exact absurd hsrc (htable x hx hrole y hy (haction'.trans haction.symm) hrole')

/-- After a move, the same request makes no other one. -/
lemma moves_again {agentId : Id} {r : TransitionRequest} {d d' : Db}
    (hdistinct : CasesDistinct d'.mission) {action : MissionAction} {missionId : Id}
    {mission : Mission} {newState : WorkflowState}
    (hmoves : moves agentId r d = some (action, missionId, mission, newState))
    (hsite : d'.site = moved r missionId mission action newState d.site) :
    moves agentId r d' = none := by
  obtain ⟨caseId, hcase, haction, -, htarget⟩ := moves_eq_some hmoves
  obtain ⟨hget, hmissionCase, hvalid⟩ := target_eq_some htarget
  obtain ⟨m, hm, hmcase, hmstate⟩ := get?_moved r action newState (x := d.site) hget
  rw [← hsite] at hm
  rw [Option.eq_none_iff_forall_not_mem]
  rintro ⟨action', missionId', mission', newState'⟩ hagain
  obtain ⟨caseId', hcase', haction', -, htarget'⟩ := moves_eq_some hagain
  obtain ⟨hget', hmissionCase', hvalid'⟩ := target_eq_some htarget'
  obtain rfl := Option.some.inj (hcase.symm.trans hcase')
  obtain rfl := Option.some.inj (haction.symm.trans haction')
  -- The mission of the case is the one that has been moved.
  obtain rfl := hdistinct missionId missionId' m mission' hm hget'
    (by rw [hmcase, hmissionCase, hmissionCase'])
  obtain rfl := Option.some.inj (hm.symm.trans hget')
  obtain ⟨refusal, hrefusal⟩ := not_again hvalid r.reason
  rw [hmstate, hrefusal] at hvalid'
  cases hvalid'

lemma statusOf_begun {agentId caseId : Id} {key : String} {d : Db}
    (h : synced (some key) d = false) :
    statusOf key (begun agentId caseId (some key) d) = some .syncing := by
  rw [begun, h]
  simp only [Bool.false_eq_true, if_false]
  cases hfind : Db.offlineQueueItems.find (hasQueueKey key) d with
  | some q =>
    have hrow : (d.offlineQueue.rows.find? fun p => hasQueueKey key p.2) = some q := hfind
    refine Eq.trans (statusOf_modify ?_) ?_
    · exact fun _ => rfl
    · rw [hrow, Option.map_some, if_pos rfl]
  | none =>
    have hrow : (d.offlineQueue.rows.find? fun p => hasQueueKey key p.2) = none := hfind
    simp only
    rw [statusOf, Table.find?_insert, hrow, Option.none_or]
    simp [hasQueueKey]

lemma statusOf_ended {key : String} {queue : Table OfflineQueueItem}
    (h : Queued (some key) queue) : statusOf key (ended (some key) queue) = some .synced := by
  obtain ⟨q, hq⟩ := Option.isSome_iff_exists.mp (h key rfl)
  simp only [ended, hq]
  refine Eq.trans (statusOf_modify ?_) ?_
  · exact fun _ => rfl
  · rw [hq, Option.map_some, if_pos rfl]

/-- A move marks its key, if it has one, unless it submits the mission. -/
lemma synced_left {agentId caseId : Id} {key : Option String} {d d' : Db}
    {newState : WorkflowState} (hsynced : synced key d = false)
    (hqueue : d'.offlineQueue = left newState key (begun agentId caseId key d)) :
    synced key d' = true ↔ key.isSome ∧ newState ≠ .submitted := by
  cases key with
  | none => simp [synced]
  | some k =>
    rw [synced_iff, hqueue, left]
    split
    · rename_i hsubmitted
      rw [statusOf_begun hsynced]
      simp [hsubmitted]
    · rename_i hsubmitted
      rw [statusOf_ended (queued_begun agentId caseId (some k) d)]
      simp [hsubmitted]

/-- A request that succeeds names a case and an action. -/
lemma named_of_succeeds {agentId : Id} {r : TransitionRequest} {d : Db}
    (h : Succeeds agentId r d) :
    ∃ caseId action, r.caseId = some caseId ∧ r.action = some action := by
  obtain ⟨reply, d', hrun, hsuccess⟩ := h
  rw [Transitions.POST, Prog.run_tryCatch, Transitions.process] at hrun
  cases hcase : r.caseId with
  | none =>
    rw [hcase] at hrun
    obtain rfl := Except.ok.inj (congrArg Prod.fst hrun)
    exact absurd hsuccess (Reply.not_success_error _ _)
  | some caseId =>
    cases haction : r.action with
    | none =>
      rw [hcase, haction] at hrun
      obtain rfl := Except.ok.inj (congrArg Prod.fst hrun)
      exact absurd hsuccess (Reply.not_success_error _ _)
    | some action => exact ⟨caseId, action, rfl, rfl⟩

/-- A request whose key is marked does nothing. -/
lemma harmless_of_synced {agentId : Id} {r : TransitionRequest} {d d' : Db}
    (hr : Succeeds agentId r d) (h : synced (nonEmpty r.idempotencyKey) d' = true) :
    Harmless agentId r d' := by
  obtain ⟨caseId, action, hcase, haction⟩ := named_of_succeeds hr
  refine .tryCatch ?_
  rw [Transitions.process, hcase, haction]
  refine .bind_run (run_beginSync agentId caseId _ d') ?_
  rw [h]
  exact .of_run (Prog.run_pure _ _) ⟨rfl, rfl, rfl, rfl⟩

/-- A request that succeeds without a move has been marked before. -/
lemma synced_of_succeeds {agentId : Id} {r : TransitionRequest} {d : Db}
    (hdistinct : CasesDistinct d.mission) (hmoves : moves agentId r d = none)
    (h : Succeeds agentId r d) : synced (nonEmpty r.idempotencyKey) d = true := by
  have hreturns := POST_returns agentId r hdistinct
  rw [hmoves] at hreturns
  obtain ⟨reply, d', hrun, -, hsynced⟩ := hreturns
  obtain ⟨reply', d'', hrun', hsuccess⟩ := h
  obtain ⟨hreply, -⟩ := Prod.mk.inj (hrun.symm.trans hrun')
  exact (hsynced (Except.ok.inj hreply ▸ hsuccess)).1

lemma isSome_of_synced {key : Option String} {d : Db} (h : synced key d = true) : key.isSome := by
  cases key with
  | none => cases h
  | some k => rfl

/-- After a request that succeeds, its key is marked when the request `Marks` it. -/
lemma synced_after {agentId : Id} {r : TransitionRequest} {d : Db}
    (hdistinct : CasesDistinct d.mission) (hr : Succeeds agentId r d) :
    synced (nonEmpty r.idempotencyKey) ((Transitions.POST agentId r).exec d) = true ↔
      Marks agentId r d := by
  obtain ⟨reply, d', hrun, hd'⟩ := POST_returns agentId r hdistinct
  have hexec : (Transitions.POST agentId r).exec d = d' := by rw [Prog.exec, hrun]
  rw [hexec, Marks]
  cases hmoves : moves agentId r d with
  | none =>
    -- The key was marked before, and stays so.
    have hsynced := synced_of_succeeds hdistinct hmoves hr
    have hmarked : synced (nonEmpty r.idempotencyKey) d' = true := by
      rw [← hexec]
      exact synced_later hsynced [.transition agentId r]
    simp [hmarked, isSome_of_synced hsynced]
  | some q =>
    obtain ⟨action, missionId, mission, newState⟩ := q
    rw [hmoves] at hd'
    obtain ⟨-, -, caseId, hqueue⟩ := hd'
    obtain ⟨-, -, -, hsynced, -⟩ := moves_eq_some hmoves
    simpa using synced_left hsynced hqueue

/-- **A request that has succeeded can be sent again at any later time**, succeeds and does nothing,
when it has a key and does not submit the mission, and only then. -/
theorem harmless_iff (agentId : Id) (r : TransitionRequest) (d : Db)
    (hdistinct : CasesDistinct d.mission) (hr : Succeeds agentId r d) :
    (∀ os, Harmless agentId r (runFrom step ((Transitions.POST agentId r).exec d) os)) ↔
      Marks agentId r d := by
  constructor
  · intro h
    cases hmoves : moves agentId r d with
    | none => exact ⟨isSome_of_synced (synced_of_succeeds hdistinct hmoves hr), by simp [hmoves]⟩
    | some q =>
      -- Sent again at once, the request makes no move: it succeeds because its key is marked.
      obtain ⟨action, missionId, mission, newState⟩ := q
      have hdistinct' := casesDistinct_POST agentId r hdistinct
      have hsite := site_POST agentId r hdistinct
      rw [hmoves] at hsite
      have hagain : Succeeds agentId r ((Transitions.POST agentId r).exec d) :=
        (h []).mono fun _ _ h => h.1
      exact (synced_after hdistinct hr).mp
        (synced_of_succeeds hdistinct' (moves_again hdistinct' hmoves hsite) hagain)
  · exact fun h os => harmless_of_synced hr (synced_later ((synced_after hdistinct hr).mpr h) os)

def onSite : Db where
  mission := Table.empty.insert
    { caseId := 0, agentId := 0, payoutAmount := 100, netPayout := 90, workflowState := .onSite }

def submitting : Db where
  mission := Table.empty.insert
    { caseId := 0, agentId := 0, payoutAmount := 100, netPayout := 90
      workflowState := .submitting }

lemma succeeds_of_isOk {agentId : Id} {r : TransitionRequest} {d : Db}
    (h : (((Transitions.POST agentId r).run d).1.toOption.map fun reply => reply.body.isOk) =
      some true) :
    Succeeds agentId r d := by
  obtain ⟨reply, hreply, hok⟩ := Option.map_eq_some_iff.mp h
  refine ⟨reply, ((Transitions.POST agentId r).run d).2, Prod.ext ?_ rfl, hok⟩
  cases hrun : ((Transitions.POST agentId r).run d).1 with
  | error e => rw [hrun] at hreply; cases hreply
  | ok a => rw [hrun] at hreply; exact congrArg _ (Option.some.inj hreply)

/-- The execution begins; sent again when the mission is SUBMITTING, the request does nothing. -/
theorem harmless_iff_begun :
    Harmless 0 { caseId := some 0, action := some .beginExecution, idempotencyKey := some "k" }
      (runFrom step ((Transitions.POST 0 { caseId := some 0, action := some .beginExecution
                                           idempotencyKey := some "k" }).exec onSite)
        [.transition 0 { caseId := some 0, action := some .prepareSubmit }]) :=
  (harmless_iff 0 _ onSite casesDistinct_singleton (succeeds_of_isOk (by decide +kernel))).mpr
    ⟨by decide +kernel, by decide +kernel⟩ _

/-- A submission that is sent again is refused. -/
theorem not_harmless :
    ¬ ∀ (agentId : Id) (r : TransitionRequest) (d : Db) (os : List Later),
      CasesDistinct d.mission → nonEmpty r.idempotencyKey ≠ none → Succeeds agentId r d →
        Harmless agentId r (runFrom step ((Transitions.POST agentId r).exec d) os) := by
  intro h
  let r : TransitionRequest :=
    { caseId := some 0, action := some .submit, idempotencyKey := some "k" }
  obtain ⟨reply, d', hrun, hsuccess, -⟩ := h 0 r submitting [] casesDistinct_singleton
    (by decide +kernel) (succeeds_of_isOk (by decide +kernel))
  have hrefused : (((Transitions.POST 0 r).run
      ((Transitions.POST 0 r).exec submitting)).1.toOption.map
      fun reply => reply.body.isOk) = some false := by
    decide +kernel
  rw [runFrom_nil] at hrun
  rw [hrun] at hrefused
  exact absurd (hsuccess.symm.trans (Option.some.inj hrefused)) (by decide)

end KeyedTransitions

end Asoju.FieldForce
