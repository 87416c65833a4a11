/-
What the routes of an agent do to the site.

The site is what tells how far a mission has come: the missions, their reviews, the evidence and the
checks on site.  `Transitions.site_POST`, `CheckIn.site_POST`, `Checklist.site_PATCH` and
`Evidence.site_POST` say what each route does to it when it runs alone.
-/
import Asoju.FieldForce.Missions
import Asoju.Lib.ClientSteps

namespace Asoju.FieldForce

open Lib

namespace Reply

variable {β : Type}

lemma not_success_error (status : ℕ) (message : String) :
    ¬ (Reply.error status message : Reply β).Success := Bool.false_ne_true

lemma not_success_refused (status : ℕ) (code message : String) :
    ¬ (Reply.refused status code message : Reply β).Success := Bool.false_ne_true

end Reply

structure Site where
  missions : Table Mission
  reviews : Table QcReview
  evidence : Table EvidenceItem
  checks : Table GpsCheck

def Db.site (d : Db) : Site := ⟨d.mission, d.qcReview, d.evidenceItem, d.gpsCheck⟩

namespace Site

def changeMission (missionId : Id) (f : Mission → Mission) (x : Site) : Site :=
  { x with missions := x.missions.modify missionId f }

def addCheck (c : GpsCheck) (x : Site) : Site := { x with checks := x.checks.insert c }

def addReview (r : QcReview) (x : Site) : Site := { x with reviews := x.reviews.insert r }

end Site

/-- Each case has one mission. -/
def CasesDistinct (t : Table Mission) : Prop :=
  ∀ i j m n, t.get? i = some m → t.get? j = some n → m.caseId = n.caseId → i = j

/-- A change of a mission leaves it with its case. -/
lemma CasesDistinct.modify {t : Table Mission} (h : CasesDistinct t) (missionId : Id)
    {f : Mission → Mission} (hf : ∀ m, (f m).caseId = m.caseId) :
    CasesDistinct (t.modify missionId f) := by
  have hcase : ∀ i m, (t.modify missionId f).get? i = some m →
      ∃ m', t.get? i = some m' ∧ m'.caseId = m.caseId := by
    intro i m hm
    have hview := Table.map_get?_modify t missionId (g := Mission.caseId) hf i
    rw [hm, Option.map_some] at hview
    exact Option.map_eq_some_iff.mp hview.symm
  intro i j m n hm hn hmn
  obtain ⟨m', hm', hmcase⟩ := hcase i m hm
  obtain ⟨n', hn', hncase⟩ := hcase j n hn
  exact h i j m' n' hm' hn' (by rw [hmcase, hncase, hmn])

lemma casesDistinct_singleton {m : Mission} : CasesDistinct (Table.empty.insert m) := by
  intro i j m' n hm hn _
  rcases Table.get?_insert_cases hm with hi | ⟨rfl, -⟩
  · cases hi
  rcases Table.get?_insert_cases hn with hj | ⟨rfl, -⟩
  · cases hj
  · rfl

section Client

variable (d : Db)

@[simp] lemma site_modify_missions (i : Id) (f : Mission → Mission) :
    (Db.missions.modify i f d).site = d.site.changeMission i f := rfl

@[simp] lemma site_insert_qcReviews (x : QcReview) :
    (Db.qcReviews.insert x d).site = d.site.addReview x := rfl

@[simp] lemma site_insert_gpsChecks (x : GpsCheck) :
    (Db.gpsChecks.insert x d).site = d.site.addCheck x := rfl

@[simp] lemma site_insert_auditEvents (x : AuditEvent) :
    (Db.auditEvents.insert x d).site = d.site := rfl

/-- The mission that has been read is the only one in its case and state. -/
lemma modifyWhere_isMissionIn {d : Db} {missionId : Id} {mission : Mission}
    (hdistinct : CasesDistinct d.mission) (hget : d.mission.get? missionId = some mission)
    (f : Mission → Mission) :
    Db.missions.modifyWhere (isMissionIn mission.caseId mission.workflowState) f d =
      Db.missions.modify missionId f d := by
  have hrow : ∀ j b, d.mission.get? j = some b →
      (isMissionIn mission.caseId mission.workflowState b = true ↔ j = missionId) := by
    intro j b hb
    rw [isMissionIn, decide_eq_true_eq]
    constructor
    · exact fun h => hdistinct j missionId b mission hb hget h.1
    · rintro rfl
      obtain rfl := Option.some.inj (hb.symm.trans hget)
      exact ⟨rfl, rfl⟩
  exact congrArg (Db.missions.put · d) (Table.modifyWhere_eq_modify hrow f)

lemma countP_isMissionIn_ne_zero {d : Db} {missionId : Id} {mission : Mission}
    (hget : d.mission.get? missionId = some mission) :
    d.mission.values.countP (isMissionIn mission.caseId mission.workflowState) ≠ 0 := by
  refine Nat.pos_iff_ne_zero.mp (List.countP_pos_iff.mpr ⟨mission, ?_, ?_⟩)
  · exact d.mission.mem_values_iff.mpr ⟨missionId, hget⟩
  · simp [isMissionIn]

end Client

/-! ## Transitions -/

namespace Transitions

/-- The operation has been synced. -/
def synced (key : Option String) (d : Db) : Bool :=
  match key with
  | some k => (Db.offlineQueueItems.find (hasQueueKey k) d).map (fun p => p.2.status) = some .synced
  | none => false

/-- The queue once the operation is being synced. -/
def begun (agentId caseId : Id) (key : Option String) (d : Db) : Table OfflineQueueItem :=
  match key with
  | some k =>
      if synced (some k) d then d.offlineQueue
      else
        match Db.offlineQueueItems.find (hasQueueKey k) d with
        | some (i, _) => d.offlineQueue.modify i fun item => { item with status := .syncing }
        | none => d.offlineQueue.insert
            { agentId, missionId := some caseId, idempotencyKey := k, status := .syncing }
  | none => d.offlineQueue

lemma run_beginSync (agentId caseId : Id) (key : Option String) (d : Db) :
    (beginSync agentId caseId key).run d =
      (.ok (synced key d), { d with offlineQueue := begun agentId caseId key d }) := by
  cases key with
  | none => rfl
  | some k =>
    have hfound : synced (some k) d = decide ((Db.offlineQueueItems.find (hasQueueKey k) d).map
        (fun p => p.2.status) = some .synced) := rfl
    rw [beginSync]
    refine (Prog.run_bind_ok (Client.run_findFirst _ _ _)).trans ?_
    by_cases hsynced : (Db.offlineQueueItems.find (hasQueueKey k) d).map (fun p => p.2.status) =
        some .synced
    · simp only [hsynced, if_true, begun, hfound, decide_true]
      rfl
    · simp only [hsynced, if_false, begun, hfound, decide_false, Bool.false_eq_true]
      refine (Prog.run_bind_ok (Client.run_upsert _ _ _ _ _)).trans ?_
      cases hfind : Db.offlineQueueItems.find (hasQueueKey k) d with
      | some q => rfl
      | none => rfl

/-- The mission that an action of the agent concerns, and the state that it leads to. -/
def target (agentId caseId : Id) (action : MissionAction) (reason : Option String) (d : Db) :
    Option (Id × Mission × WorkflowState) :=
  match Db.missions.find (isMissionOf caseId) d with
  | some (missionId, mission) =>
      if mission.agentId ≠ agentId then none
      else
        match validateTransition mission.workflowState action .agent reason with
        | .ok newState => some (missionId, mission, newState)
        | .error _ => none
  | none => none

/-- The move that a request makes: the action, the mission, and the state that it leads to. -/
def moves (agentId : Id) (r : TransitionRequest) (d : Db) :
    Option (MissionAction × Id × Mission × WorkflowState) :=
  match r.caseId, r.action with
  | some caseId, some action =>
      if synced (nonEmpty r.idempotencyKey) d then none
      else (target agentId caseId action r.reason d).map (action, ·)
  | _, _ => none

/-- The site when a submitted mission has entered its review. -/
def entered (missionId : Id) (x : Site) : Site :=
  let cycleNumber := nextCycle (lastReview missionId x.reviews)
  ((x.changeMission missionId fun m => { m with workflowState := .qcReview }).addReview
    { missionId, cycleNumber, state := .pending }).changeMission missionId
      fun m => { m with qcReviewCount := cycleNumber }

/-- The site after a move. -/
def moved (r : TransitionRequest) (missionId : Id) (mission : Mission) (action : MissionAction)
    (newState : WorkflowState) (x : Site) : Site :=
  let y := x.changeMission missionId (advance action newState r.reason mission r.now)
  if newState = .submitted then entered missionId y else y

lemma enterQc_returns {caseId missionId : Id} {mission : Mission} (previousState : WorkflowState)
    {d : Db} (hget : d.mission.get? missionId = some mission) :
    (enterQc caseId missionId previousState).Returns d fun reply d' => reply.Success ∧
      d'.site = entered missionId d.site ∧ d'.offlineQueue = d.offlineQueue := by
  rw [enterQc]
  refine .bind_run (Client.run_update_of_some (r := Db.missions) hget _ _)
    (.bind_run (Client.run_query _ _ _) (.bind_run (run_record _ _ _) ?_))
  have hrow : (Db.missions.modify missionId (fun m => { m with workflowState := .qcReview })
      d).mission.get? missionId = some { mission with workflowState := .qcReview } :=
    (Table.get?_modify_self _ _ _).trans (congrArg _ hget)
  refine Client.returns_update_bind hrow (.bind_run (run_record _ _ _)
    (.bind_run (Client.run_findFirst _ _ _) (.of_run (Prog.run_pure _ _) ⟨rfl, ?_, rfl⟩)))
  rfl

/-- The queue once the operation has been synced. -/
def ended (key : Option String) (queue : Table OfflineQueueItem) : Table OfflineQueueItem :=
  match key with
  | some k =>
      match queue.rows.find? fun p => hasQueueKey k p.2 with
      | some (i, _) => queue.modify i fun item => { item with status := .synced }
      | none => queue
  | none => queue

/-- The queue after a move: a submission leaves its operation in the queue as one that is being
synced. -/
def left (newState : WorkflowState) (key : Option String) (queue : Table OfflineQueueItem) :
    Table OfflineQueueItem :=
  if newState = .submitted then queue else ended key queue

/-- An operation that is being synced is in the queue. -/
def Queued (key : Option String) (queue : Table OfflineQueueItem) : Prop :=
  ∀ k ∈ key, (queue.rows.find? fun p => hasQueueKey k p.2).isSome

lemma run_endSync {key : Option String} {d : Db} (h : Queued key d.offlineQueue) :
    (endSync key).run d = (.ok (), { d with offlineQueue := ended key d.offlineQueue }) := by
  cases key with
  | none => rfl
  | some k =>
    obtain ⟨q, hq⟩ := Option.isSome_iff_exists.mp (h k rfl)
    have hfind : Db.offlineQueueItems.find (hasQueueKey k) d = some q := hq
    rw [endSync, Client.updateUnique, Prog.run_atom]
    simp only [hfind, Option.isSome_some, if_true, ended, hq]
    rfl

/-- The conditional update, and what follows from it. -/
lemma move_returns {caseId missionId : Id} {mission : Mission} (action : MissionAction)
    (newState : WorkflowState) (r : TransitionRequest) {d : Db}
    (hdistinct : CasesDistinct d.mission) (hget : d.mission.get? missionId = some mission)
    (hcase : mission.caseId = caseId)
    (hqueued : Queued (nonEmpty r.idempotencyKey) d.offlineQueue) :
    (move caseId missionId mission action newState r).Returns d fun reply d' => reply.Success ∧
      d'.site = moved r missionId mission action newState d.site ∧
      d'.offlineQueue = left newState (nonEmpty r.idempotencyKey) d.offlineQueue := by
  subst hcase
  rw [move, moved, left]
  refine .bind_run (Client.run_updateMany _ _ _ _) ?_
  rw [show (Db.missions.get d).values = d.mission.values from rfl,
    if_neg (countP_isMissionIn_ne_zero hget), modifyWhere_isMissionIn hdistinct hget]
  refine .bind_run (Client.run_findFirst _ _ _) (.bind_run (run_record _ _ _) ?_)
  by_cases hsubmitted : newState = .submitted
  · rw [if_pos hsubmitted, if_pos hsubmitted, if_pos hsubmitted]
    have hrow : (Db.auditEvents.insert ⟨"MISSION_" ++ action.text, some missionId⟩
        (Db.missions.modify missionId (advance action newState r.reason mission r.now)
          d)).mission.get? missionId =
            some (advance action newState r.reason mission r.now mission) :=
      (Table.get?_modify_self _ _ _).trans (congrArg _ hget)
    exact enterQc_returns mission.workflowState hrow
  · rw [if_neg hsubmitted, if_neg hsubmitted, if_neg hsubmitted]
    exact .bind_run (run_endSync hqueued) (.of_run (Prog.run_pure _ _) ⟨rfl, rfl, rfl⟩)

/-- The map refuses each action in a terminal state with the same code. -/
lemma validateTransition_of_terminal {state : WorkflowState} (h : state ∈ terminalStates)
    (action : MissionAction) (role : ActorRole) (reason : Option String) :
    ∃ message, validateTransition state action role reason =
      .error ⟨.invalidTransition, message⟩ := by
  rw [validateTransition]
  simp only [if_pos h]
  exact ⟨_, rfl⟩

/-- An escalation does not lead to SUBMITTED. -/
lemma ne_submitted_of_escalate {state newState : WorkflowState} {reason : Option String}
    (h : validateTransition state .escalate .agent reason = .ok newState) :
    newState ≠ .submitted := by
  have htable : ∀ t ∈ missionTransitions, t.action = .escalate → t.dst ≠ .submitted := by decide
  obtain ⟨t, ht, haction, -, rfl, -⟩ := validateTransition_eq_ok h
  exact htable t ht haction

/-- What an action does once it is being synced. -/
lemma transition_returns (agentId caseId : Id) (action : MissionAction) (r : TransitionRequest)
    {d : Db} (hdistinct : CasesDistinct d.mission)
    (hqueued : Queued (nonEmpty r.idempotencyKey) d.offlineQueue) :
    (transition agentId caseId action r).Returns d fun reply d' =>
      match target agentId caseId action r.reason d with
      | some (missionId, mission, newState) =>
          reply.Success ∧ d'.site = moved r missionId mission action newState d.site ∧
            d'.offlineQueue = left newState (nonEmpty r.idempotencyKey) d.offlineQueue
      | none => ¬ reply.Success ∧ d' = d := by
  rw [transition, target]
  refine .bind_run (Client.run_findFirst _ _ _) ?_
  cases hfind : Db.missions.find (isMissionOf caseId) d with
  | none => exact .of_run (Prog.run_pure _ _) ⟨Reply.not_success_refused _ _ _, rfl⟩
  | some q =>
    obtain ⟨missionId, mission⟩ := q
    obtain ⟨hget, hcase⟩ := TableOf.find_eq_some hfind
    dsimp only
    by_cases hagent : mission.agentId ≠ agentId
    · rw [if_pos hagent, if_pos hagent]
      exact .of_run (Prog.run_pure _ _) ⟨Reply.not_success_refused _ _ _, rfl⟩
    rw [if_neg hagent, if_neg hagent]
    by_cases hterminal : mission.workflowState ∈ terminalStates
    · -- The check of the terminal states comes first; the map refuses them as well.
      obtain ⟨refusal, hrefusal⟩ := validateTransition_of_terminal hterminal action .agent r.reason
      rw [if_pos hterminal, hrefusal]
      exact .of_run (Prog.run_pure _ _) ⟨Reply.not_success_refused _ _ _, rfl⟩
    rw [if_neg hterminal]
    cases validateTransition mission.workflowState action .agent r.reason with
    | error refusal =>
      exact .of_run (Prog.run_pure _ _) ⟨Reply.not_success_refused _ _ _, rfl⟩
    | ok newState =>
      exact move_returns action newState r hdistinct hget (of_decide_eq_true hcase) hqueued

/-- An operation that is being synced is in the queue. -/
lemma queued_begun (agentId caseId : Id) (key : Option String) (d : Db) :
    Queued key (begun agentId caseId key d) := by
  rintro k hk
  obtain rfl : key = some k := hk
  rw [begun]
  split
  · rename_i hsynced
    cases hfind : Db.offlineQueueItems.find (hasQueueKey k) d with
    | some q =>
      have hrow : (d.offlineQueue.rows.find? fun p => hasQueueKey k p.2) = some q := hfind
      rw [hrow, Option.isSome_some]
    | none => simp [synced, hfind] at hsynced
  · cases hfind : Db.offlineQueueItems.find (hasQueueKey k) d with
    | some q =>
      have hrow : (d.offlineQueue.rows.find? fun p => hasQueueKey k p.2) = some q := hfind
      simp only [Table.modify]
      rw [Table.find?_mapRows _ fun i b => by split <;> rfl, Option.isSome_map, hrow,
        Option.isSome_some]
    | none =>
      simp only
      rw [Table.find?_insert, Option.isSome_or, Bool.or_eq_true]
      exact Or.inr (by simp [hasQueueKey])

/-- **What a request does.** -/
theorem POST_returns (agentId : Id) (r : TransitionRequest) {d : Db}
    (hdistinct : CasesDistinct d.mission) : (POST agentId r).Returns d fun reply d' =>
      match moves agentId r d with
      | some (action, missionId, mission, newState) =>
          reply.Success ∧ d'.site = moved r missionId mission action newState d.site ∧
            ∃ caseId, d'.offlineQueue = left newState (nonEmpty r.idempotencyKey)
              (begun agentId caseId (nonEmpty r.idempotencyKey) d)
      | none => d'.site = d.site ∧
          (reply.Success → synced (nonEmpty r.idempotencyKey) d = true ∧ d' = d) := by
  refine .tryCatch ?_
  rw [process, moves]
  cases r.caseId with
  | none =>
    exact .of_run (Prog.run_pure _ _) ⟨rfl, fun h => absurd h (Reply.not_success_error _ _)⟩
  | some caseId =>
    cases r.action with
    | none =>
      exact .of_run (Prog.run_pure _ _) ⟨rfl, fun h => absurd h (Reply.not_success_error _ _)⟩
    | some action =>
      refine .bind_run (run_beginSync agentId caseId _ d) ?_
      cases hsynced : synced (nonEmpty r.idempotencyKey) d with
      | true =>
        have hsame : begun agentId caseId (nonEmpty r.idempotencyKey) d = d.offlineQueue := by
          cases hkey : nonEmpty r.idempotencyKey with
          | none => rfl
          | some k => rw [begun, if_pos (by rwa [← hkey])]
        rw [hsame]
        exact .of_run (Prog.run_pure _ _) ⟨rfl, fun _ => ⟨rfl, rfl⟩⟩
      | false =>
        have htransition := transition_returns agentId caseId action r
          (d := { d with offlineQueue := begun agentId caseId (nonEmpty r.idempotencyKey) d })
          hdistinct (queued_begun agentId caseId _ d)
        refine htransition.mono fun reply d' h => ?_
        have hsame : target agentId caseId action r.reason
            { d with offlineQueue := begun agentId caseId (nonEmpty r.idempotencyKey) d } =
          target agentId caseId action r.reason d := rfl
        rw [hsame] at h
        simp only [Bool.false_eq_true, if_false]
        cases htarget : target agentId caseId action r.reason d with
        | none =>
          rw [htarget] at h
          exact ⟨by rw [h.2]; rfl, fun hsuccess => absurd hsuccess h.1⟩
        | some q =>
          rw [htarget] at h
          exact ⟨h.1, h.2.1, caseId, h.2.2⟩

/-- What a request does to the site. -/
theorem site_POST (agentId : Id) (r : TransitionRequest) {d : Db}
    (hdistinct : CasesDistinct d.mission) : ((POST agentId r).exec d).site =
      match moves agentId r d with
      | some (action, missionId, mission, newState) =>
          moved r missionId mission action newState d.site
      | none => d.site := by
  have hreturns := POST_returns agentId r hdistinct
  cases hmoves : moves agentId r d with
  | none =>
    rw [hmoves] at hreturns
    exact (hreturns.mono fun _ _ h => h.1).exec (Q := fun d' : Db => d'.site = d.site)
  | some q =>
    obtain ⟨action, missionId, mission, newState⟩ := q
    rw [hmoves] at hreturns
    exact (hreturns.mono fun _ _ h => h.2.1).exec
      (Q := fun d' : Db => d'.site = moved r missionId mission action newState d.site)

lemma caseId_advance (action : MissionAction) (newState : WorkflowState) (reason : Option String)
    (mission : Mission) (now : Time) (m : Mission) :
    (advance action newState reason mission now m).caseId = m.caseId := by
  cases action <;> rfl

lemma casesDistinct_entered (missionId : Id) {x : Site} (h : CasesDistinct x.missions) :
    CasesDistinct (entered missionId x).missions := by
  refine CasesDistinct.modify ?_ missionId fun m => ?_
  · exact CasesDistinct.modify h missionId fun m => rfl
  · rfl

lemma casesDistinct_POST (agentId : Id) (r : TransitionRequest) {d : Db}
    (hdistinct : CasesDistinct d.mission) : CasesDistinct ((POST agentId r).exec d).mission := by
  change CasesDistinct ((POST agentId r).exec d).site.missions
  rw [site_POST agentId r hdistinct]
  cases moves agentId r d with
  | none => exact hdistinct
  | some q =>
    obtain ⟨action, missionId, m, newState⟩ := q
    have hadvanced : CasesDistinct (d.site.changeMission missionId
        (advance action newState r.reason m r.now)).missions :=
      hdistinct.modify missionId (caseId_advance action newState r.reason m r.now)
    simp only [moved]
    split
    · exact casesDistinct_entered missionId hadvanced
    · exact hadvanced

/-- The state in which a move of an agent leaves a mission. -/
def settled (newState : WorkflowState) : WorkflowState :=
  if newState = .submitted then .qcReview else newState

/-- The mission after a move. -/
lemma get?_moved (r : TransitionRequest) {missionId : Id} {mission : Mission}
    (action : MissionAction) (newState : WorkflowState) {x : Site}
    (hget : x.missions.get? missionId = some mission) :
    ∃ m, (moved r missionId mission action newState x).missions.get? missionId = some m ∧
      m.caseId = mission.caseId ∧ m.workflowState = settled newState := by
  have hadvance : (advance action newState r.reason mission r.now mission).workflowState =
      newState := by
    cases action <;> rfl
  simp only [moved, settled]
  split
  · simp only [entered, Site.changeMission, Site.addReview, Table.get?_modify_self, hget,
      Option.map_some, Option.some.injEq, exists_eq_left']
    exact ⟨caseId_advance action newState r.reason mission r.now mission, trivial⟩
  · refine ⟨_, ?_, caseId_advance action newState r.reason mission r.now mission, hadvance⟩
    simp only [Site.changeMission, Table.get?_modify_self, hget, Option.map_some]

/-- A move changes one mission. -/
lemma get?_moved_of_ne (r : TransitionRequest) {missionId i : Id} (hi : i ≠ missionId)
    (mission : Mission) (action : MissionAction) (newState : WorkflowState) (x : Site) :
    (moved r missionId mission action newState x).missions.get? i = x.missions.get? i := by
  have hchange : ∀ (f : Mission → Mission) (t : Table Mission),
      (t.modify missionId f).get? i = t.get? i := fun f t => t.get?_modify_of_ne hi f
  simp only [moved]
  split
  · simp only [entered, Site.changeMission, Site.addReview, hchange]
  · exact hchange _ _

lemma moves_eq_some {agentId : Id} {r : TransitionRequest} {d : Db} {action : MissionAction}
    {missionId : Id} {mission : Mission} {newState : WorkflowState}
    (h : moves agentId r d = some (action, missionId, mission, newState)) :
    ∃ caseId, r.caseId = some caseId ∧ r.action = some action ∧
      synced (nonEmpty r.idempotencyKey) d = false ∧
      target agentId caseId action r.reason d = some (missionId, mission, newState) := by
  rw [moves] at h
  split at h
  · rename_i caseId action' hcase haction
    split at h
    · cases h
    · rename_i hsynced
      obtain ⟨q, hq, hqh⟩ := Option.map_eq_some_iff.mp h
      obtain ⟨rfl, rfl⟩ := Prod.mk.inj hqh
      exact ⟨caseId, hcase, haction, Bool.not_eq_true _ ▸ hsynced, hq⟩
  · cases h

lemma target_eq_some {agentId caseId : Id} {action : MissionAction} {reason : Option String}
    {d : Db} {missionId : Id} {mission : Mission} {newState : WorkflowState}
    (h : target agentId caseId action reason d = some (missionId, mission, newState)) :
    d.mission.get? missionId = some mission ∧ mission.caseId = caseId ∧
      validateTransition mission.workflowState action .agent reason = .ok newState := by
  rw [target] at h
  split at h
  · rename_i i m hfind
    obtain ⟨hget, hcase⟩ := TableOf.find_eq_some hfind
    split at h
    · cases h
    · split at h
      · rename_i hvalid
        obtain ⟨rfl, rfl, rfl⟩ : i = missionId ∧ m = mission ∧ _ = newState := by simpa using h
        exact ⟨hget, of_decide_eq_true hcase, hvalid⟩
      · cases h
  · cases h

end Transitions

/-! ## Check-in -/

namespace CheckIn

/-- The mission that a check-in concerns, if it is looked at. -/
def arrives (agentId : Id) (r : CheckInRequest) (d : Db) : Option (Id × Mission) :=
  match r.caseId with
  | some caseId =>
      match Db.missions.find (isMissionOf caseId) d with
      | some (missionId, mission) =>
          if mission.agentId ≠ agentId ∨ mission.workflowState ∉ checkInStates then none
          else some (missionId, mission)
      | none => none
  | none => none

/-- The site after a check-in. -/
def checked (agentId : Id) (r : CheckInRequest) (missionId : Id) (mission : Mission) (x : Site) :
    Site :=
  let y := x.addCheck
    { missionId, agentId, result := if r.rejection.isNone then .pass else .fail }
  match r.rejection, validateTransition mission.workflowState .checkIn .agent none with
  | none, .ok newState => y.changeMission missionId fun m => { m with workflowState := newState }
  | _, _ => y

lemma arrive_leaves (agentId : Id) {caseId missionId : Id} {mission : Mission} {d : Db}
    (hdistinct : CasesDistinct d.mission) (hget : d.mission.get? missionId = some mission)
    (hcase : mission.caseId = caseId) :
    (arrive agentId caseId missionId mission).Leaves d fun d' => d'.site =
      match validateTransition mission.workflowState .checkIn .agent none with
      | .ok newState => d.site.changeMission missionId fun m => { m with workflowState := newState }
      | .error _ => d.site := by
  subst hcase
  rw [arrive]
  cases validateTransition mission.workflowState .checkIn .agent none with
  | error refusal => exact .of_run (Prog.run_pure _ _) rfl
  | ok newState =>
    refine .bind_run (Client.run_updateMany _ _ _ _) ?_
    rw [show (Db.missions.get d).values = d.mission.values from rfl,
      if_neg (countP_isMissionIn_ne_zero hget), modifyWhere_isMissionIn hdistinct hget]
    refine .bind_run (Client.run_findFirst _ _ _) (.bind_run (Client.run_upsert _ _ _ _ _)
      (.bind_run (run_record _ _ _) (.of_run (Prog.run_pure _ _) ?_)))
    rw [site_insert_auditEvents]
    split <;> rfl

/-- What a check-in does to the site. -/
theorem site_POST (agentId : Id) (r : CheckInRequest) {d : Db}
    (hdistinct : CasesDistinct d.mission) : ((POST agentId r).exec d).site =
      match arrives agentId r d with
      | some (missionId, mission) => checked agentId r missionId mission d.site
      | none => d.site := by
  rw [POST, Prog.exec_tryCatch_pure]
  change (process agentId r).Leaves d fun d' => d'.site = _
  rw [process, arrives]
  cases r.caseId with
  | none => exact .of_run (Prog.run_pure _ _) rfl
  | some caseId =>
    dsimp only
    refine .bind_run (Client.run_findFirst _ _ _) ?_
    cases hfind : Db.missions.find (isMissionOf caseId) d with
    | none => exact .of_run (Prog.run_pure _ _) rfl
    | some q =>
      obtain ⟨missionId, mission⟩ := q
      obtain ⟨hget, hcase⟩ := TableOf.find_eq_some hfind
      dsimp only
      by_cases hagent : mission.agentId ≠ agentId
      · rw [if_pos hagent, if_pos (Or.inl hagent)]
        exact .of_run (Prog.run_pure _ _) rfl
      by_cases hstate : mission.workflowState ∉ checkInStates
      · rw [if_neg hagent, if_pos hstate, if_pos (Or.inr hstate)]
        exact .of_run (Prog.run_pure _ _) rfl
      rw [if_neg hagent, if_neg hstate, if_neg (not_or.mpr ⟨hagent, hstate⟩)]
      unfold check
      refine .bind_run (run_record _ _ _) ?_
      cases hrejection : r.rejection with
      | some reason =>
        refine .bind_run (run_record _ _ _) (.of_run (Prog.run_pure _ _) ?_)
        simp only [checked, hrejection]
        rfl
      | none =>
        refine (arrive_leaves agentId (d := Db.gpsChecks.insert _ d) hdistinct hget
          (of_decide_eq_true hcase)).mono fun d' h => h.trans ?_
        simp only [checked, hrejection]
        cases validateTransition mission.workflowState .checkIn .agent none <;> rfl

lemma casesDistinct_POST (agentId : Id) (r : CheckInRequest) {d : Db}
    (hdistinct : CasesDistinct d.mission) : CasesDistinct ((POST agentId r).exec d).mission := by
  change CasesDistinct ((POST agentId r).exec d).site.missions
  rw [site_POST agentId r hdistinct]
  cases arrives agentId r d with
  | none => exact hdistinct
  | some q =>
    simp only [checked]
    split
    · exact CasesDistinct.modify hdistinct q.1 fun _ => rfl
    · exact hdistinct

end CheckIn

/-! ## The checklist -/

namespace Checklist

/-- The mission that an update concerns, if it is made. -/
def updates (agentId : Id) (r : Update) (d : Db) : Option (Id × Mission) :=
  match r.caseId with
  | some caseId =>
      if Transitions.synced (nonEmpty r.idempotencyKey) d then none
      else
        match Db.missions.find (isMissionOf caseId) d with
        | some (missionId, mission) =>
            if mission.agentId ≠ agentId ∨ mission.workflowState ∉ activeStates then none
            else some (missionId, mission)
        | none => none
  | none => none

lemma update_leaves (agentId caseId : Id) (r : Update) {d : Db}
    (hqueued : Transitions.Queued (nonEmpty r.idempotencyKey) d.offlineQueue) :
    (update agentId caseId r).Leaves d fun d' => d'.site =
      match Db.missions.find (isMissionOf caseId) d with
      | some (missionId, mission) =>
          if mission.agentId ≠ agentId ∨ mission.workflowState ∉ activeStates then d.site
          else d.site.changeMission missionId (progress r mission)
      | none => d.site := by
  rw [update]
  refine .bind_run (Client.run_findFirst _ _ _) ?_
  cases hfind : Db.missions.find (isMissionOf caseId) d with
  | none => exact .of_run (Prog.run_pure _ _) rfl
  | some q =>
    obtain ⟨missionId, mission⟩ := q
    obtain ⟨hget, -⟩ := TableOf.find_eq_some hfind
    dsimp only
    by_cases hagent : mission.agentId ≠ agentId
    · rw [if_pos hagent, if_pos (Or.inl hagent)]
      exact .of_run (Prog.run_pure _ _) rfl
    by_cases hstate : mission.workflowState ∉ activeStates
    · rw [if_neg hagent, if_pos hstate, if_pos (Or.inr hstate)]
      exact .of_run (Prog.run_pure _ _) rfl
    rw [if_neg hagent, if_neg hstate, if_neg (not_or.mpr ⟨hagent, hstate⟩)]
    exact .bind_run (Client.run_update_of_some hget _ _) (.bind_run (run_record _ _ _)
      (.bind_run (Transitions.run_endSync hqueued) (.of_run (Prog.run_pure _ _) rfl)))

/-- What an update does to the site. -/
theorem site_PATCH (agentId : Id) (r : Update) (d : Db) : ((PATCH agentId r).exec d).site =
    match updates agentId r d with
    | some (missionId, mission) => d.site.changeMission missionId (progress r mission)
    | none => d.site := by
  rw [PATCH, Prog.exec_tryCatch_pure]
  change (process agentId r).Leaves d fun d' => d'.site = _
  rw [process, updates]
  cases r.caseId with
  | none => exact .of_run (Prog.run_pure _ _) rfl
  | some caseId =>
    dsimp only
    refine .bind_run (Transitions.run_beginSync agentId caseId _ d) ?_
    cases hsynced : Transitions.synced (nonEmpty r.idempotencyKey) d with
    | true => exact .of_run (Prog.run_pure _ _) rfl
    | false =>
      simp only [Bool.false_eq_true, if_false]
      refine (update_leaves agentId caseId r (d := { d with offlineQueue := _ })
        (Transitions.queued_begun agentId caseId _ d)).mono fun d' h => h.trans ?_
      have hsame : ∀ queue, Db.missions.find (isMissionOf caseId) { d with offlineQueue := queue } =
          Db.missions.find (isMissionOf caseId) d := fun _ => rfl
      rw [hsame]
      cases Db.missions.find (isMissionOf caseId) d with
      | none => rfl
      | some q =>
        obtain ⟨missionId, mission⟩ := q
        dsimp only
        split <;> rfl

lemma casesDistinct_PATCH (agentId : Id) (r : Update) {d : Db}
    (hdistinct : CasesDistinct d.mission) : CasesDistinct ((PATCH agentId r).exec d).mission := by
  change CasesDistinct ((PATCH agentId r).exec d).site.missions
  rw [site_PATCH]
  cases updates agentId r d with
  | none => exact hdistinct
  | some q => exact CasesDistinct.modify hdistinct q.1 fun _ => rfl

end Checklist

/-! ## Evidence -/

namespace Evidence

/-- The mission that an upload concerns, if it is taken in. -/
def stores (r : Upload) (d : Db) : Option (Id × Mission) :=
  match r.caseId, r.file with
  | some caseId, some file =>
      match Db.missions.find (isMissionOf caseId) d, r.bolaCheck with
      | some (missionId, mission), none =>
          if (validateMedia file).isSome then none else some (missionId, mission)
      | _, _ => none
  | _, _ => none

lemma get?_of_stores {r : Upload} {d : Db} {missionId : Id} {m : Mission}
    (h : stores r d = some (missionId, m)) : d.mission.get? missionId = some m := by
  rw [stores] at h
  split at h
  · split at h
    · rename_i hfind _
      split_ifs at h
      cases h
      exact (TableOf.find_eq_some hfind).1
    · cases h
  · cases h

/-- The site after an upload. -/
def stored (agentId : Id) (r : Upload) (missionId : Id) (mission : Mission) (x : Site) : Site :=
  let known := (nonEmpty r.idempotencyKey).bind fun key =>
    x.evidence.rows.find? fun p => hasEvidenceKey key p.2
  let evidence :=
    if known.isSome then x.evidence
    else x.evidence.insert { missionId, agentId, idempotencyKey := r.idempotencyKey }
  Site.changeMission missionId (count mission) { x with evidence }

lemma store_leaves (agentId : Id) {missionId : Id} {mission : Mission} {d : Db}
    (hget : d.mission.get? missionId = some mission) (file : File) (r : Upload) :
    (store agentId missionId mission file r.idempotencyKey).Leaves d fun d' => d'.site =
      match (if (validateMedia file).isSome then none else some (missionId, mission)) with
      | some (missionId, mission) => stored agentId r missionId mission d.site
      | none => d.site := by
  rw [store]
  cases validateMedia file with
  | some error => exact .of_run (Prog.run_pure _ _) rfl
  | none =>
    simp only [Option.isSome_none, Bool.false_eq_true, if_false]
    rw [intakeEvidence, stored]
    refine .bind (.bind_run (Client.run_query _ _ _) ?_)
    have hknown : ((nonEmpty r.idempotencyKey).bind fun key =>
        d.site.evidence.rows.find? fun p => hasEvidenceKey key p.2) =
      (nonEmpty r.idempotencyKey).bind fun key =>
        Db.evidenceItems.find (hasEvidenceKey key) d := rfl
    rw [hknown]
    cases (nonEmpty r.idempotencyKey).bind fun key =>
        Db.evidenceItems.find (hasEvidenceKey key) d with
    | some q =>
      exact .of_run (Prog.run_pure _ _) (.bind_run (Client.run_update_of_some hget _ _)
        (.bind_run (run_record _ _ _) (.of_run (Prog.run_pure _ _) rfl)))
    | none =>
      exact .of_run (Client.run_transaction _ _) (.bind_run (Client.run_update_of_some hget _ _)
        (.bind_run (run_record _ _ _) (.of_run (Prog.run_pure _ _) rfl)))

/-- What an upload does to the site. -/
theorem site_POST (agentId : Id) (r : Upload) (d : Db) : ((POST agentId r).exec d).site =
    match stores r d with
    | some (missionId, mission) => stored agentId r missionId mission d.site
    | none => d.site := by
  rw [POST, Prog.exec_tryCatch_pure]
  change (process agentId r).Leaves d fun d' => d'.site = _
  rw [process, stores]
  cases r.caseId with
  | none => exact .of_run (Prog.run_pure _ _) rfl
  | some caseId =>
    cases r.file with
    | none => exact .of_run (Prog.run_pure _ _) rfl
    | some file =>
      dsimp only
      refine .bind_run (Client.run_findFirst _ _ _) ?_
      cases hfind : Db.missions.find (isMissionOf caseId) d with
      | none => exact .of_run (Prog.run_pure _ _) rfl
      | some q =>
        obtain ⟨missionId, mission⟩ := q
        obtain ⟨hget, -⟩ := TableOf.find_eq_some hfind
        cases r.bolaCheck with
        | some refusal => exact .of_run (Prog.run_pure _ _) rfl
        | none => exact store_leaves agentId hget file r

lemma casesDistinct_POST (agentId : Id) (r : Upload) {d : Db}
    (hdistinct : CasesDistinct d.mission) : CasesDistinct ((POST agentId r).exec d).mission := by
  change CasesDistinct ((POST agentId r).exec d).site.missions
  rw [site_POST]
  cases stores r d with
  | none => exact hdistinct
  | some q => exact CasesDistinct.modify hdistinct q.1 fun _ => rfl

end Evidence

end Asoju.FieldForce
