/-
The workflow of a mission under concurrent calls.

A transition is made by a conditional update, which finds the mission in the state that has been
read, and so follows the map.  Two writes of the state are not conditional: the entry of a submitted
mission into QC_REVIEW, and the move to SUBMITTING with the last evidence.  `refines_iff` says that
the workflow follows the map in every interleaving in which these two find the mission in the state
they have been decided on, and in no other one.
-/
import Asoju.FieldForce.MissionMoves
import Asoju.Lib.Window

namespace Asoju.FieldForce

open Lib

namespace WorkflowPool

/-! ## The states of the missions -/

/-- The missions keep their states. -/
def Same (d d' : Db) : Prop :=
  ∀ i, (d'.mission.get? i).map Mission.workflowState = (d.mission.get? i).map Mission.workflowState

/-- Each mission that changes its state follows the map. -/
def Along (d d' : Db) : Prop :=
  ∀ i m m', d.mission.get? i = some m → d'.mission.get? i = some m' →
    m'.workflowState ≠ m.workflowState → Edge m.workflowState m'.workflowState

/-- A mission has been put into a state. -/
def Puts (i : Id) (state : WorkflowState) (d d' : Db) : Prop :=
  ∃ f : Mission → Mission, (∀ m, (f m).workflowState = state) ∧ d'.mission = d.mission.modify i f

lemma Same.refl (d : Db) : Same d d := fun _ => rfl

lemma same_of_eq {d d' : Db} (h : d'.mission = d.mission) : Same d d' := fun i => by rw [h]

lemma same_modify {f : Mission → Mission} (hf : ∀ m, (f m).workflowState = m.workflowState) (i : Id)
    (d : Db) : Same d (Db.missions.modify i f d) := d.mission.map_get?_modify i hf

lemma Same.along {d d' : Db} (h : Same d d') : Along d d' := by
  intro i m m' hm hm' hne
  have hsame := h i
  rw [hm, hm'] at hsame
  exact absurd (Option.some.inj hsame) hne

/-- A conditional update along the map. -/
lemma along_modifyWhere {s t : WorkflowState} (hedge : Edge s t) {q : Mission → Bool}
    (hq : ∀ m, q m = true → m.workflowState = s) {f : Mission → Mission}
    (hf : ∀ m, (f m).workflowState = t) (d : Db) : Along d (Db.missions.modifyWhere q f d) := by
  intro i m m' hm hm' hne
  have hrow : (Db.missions.modifyWhere q f d).mission.get? i = _ :=
    d.mission.get?_modifyWhere (fun _ b => q b) f i
  rw [hm', hm, Option.map_some, Option.some.injEq] at hrow
  subst hrow
  by_cases hqm : q m = true
  · rw [if_pos hqm, hf, hq m hqm]
    exact hedge
  · rw [if_neg hqm] at hne
    exact absurd rfl hne

/-- A plain write follows the map exactly when the mission is where it should be, or is there
already. -/
lemma Puts.along_iff {i : Id} {s t : WorkflowState} (hmap : ∀ x, Edge x t ↔ x = s) {d d' : Db}
    (h : Puts i t d d') :
    Along d d' ↔ ∀ m ∈ d.mission.get? i, m.workflowState = s ∨ m.workflowState = t := by
  obtain ⟨f, hf, hput⟩ := h
  constructor
  · intro halong m hm
    by_cases ht : m.workflowState = t
    · exact Or.inr ht
    · have hafter : d'.mission.get? i = some (f m) := by
        rw [hput, Table.get?_modify_self, Option.mem_def.mp hm, Option.map_some]
      have hedge := halong i m (f m) hm hafter (by rw [hf]; exact Ne.symm ht)
      rw [hf, hmap] at hedge
      exact Or.inl hedge
  · intro hstate j m m' hm hm' hne
    rw [hput, Table.get?_modify, hm] at hm'
    split_ifs at hm' with hj
    · subst hj
      obtain rfl := Option.some.inj hm'
      rw [hf] at hne ⊢
      rcases hstate m hm with h | h
      · exact (hmap _).mpr h
      · exact absurd h.symm hne
    · obtain rfl := Option.some.inj hm'
      exact absurd rfl hne

/-! ## The calls -/

/-- A request, or a move of an administrator along the map. -/
inductive Call
  | transition (agentId : Id) (r : Transitions.TransitionRequest)
  | evidence (agentId : Id) (r : Evidence.Upload)
  | admin (caseId : Id) (x : { x : TransitionDef // x ∈ missionTransitions })

/-- The program of a call, whose answer does not matter. -/
def code : Call → Svc Unit
  | .transition agentId r => do
      let _ ← Transitions.POST agentId r
  | .evidence agentId r => do
      let _ ← Evidence.POST agentId r
  | .admin caseId x => do
      let _ ← Client.updateMany Db.missions (isMissionIn caseId x.1.src) fun m =>
        { m with workflowState := x.1.dst }

/-- How far a call has come. -/
inductive Stage
  | start
  /-- The conditional update comes next; the mission, if it is submitted by it. -/
  | moving (submits : Option Id)
  /-- A plain write is to come: the mission, the state that the write has been decided on, and the
  one that it puts the mission into. -/
  | writing (missionId : Id) (s t : WorkflowState)
  | ended
deriving DecidableEq, Repr

namespace Stage

/-- What a call is about to do, by what it has read. -/
def decided (c : Call) (d : Db) : Stage :=
  match c with
  | .transition agentId r =>
      match r.caseId, r.action with
      | some caseId, some action =>
          match Transitions.target agentId caseId action r.reason d with
          | some (missionId, _, newState) =>
              moving (if newState = .submitted then some missionId else none)
          | none => ended
      | _, _ => ended
  | .evidence _ r =>
      match Evidence.stores r d with
      | some (missionId, mission) =>
          if Evidence.completes mission then writing missionId .executing .submitting else ended
      | none => ended
  | .admin _ _ => ended

/-- The stage that an action leads to. -/
def next (c : Call) (stage : Stage) (l : Access Model) (d : Db) : Stage :=
  match stage with
  | start => if l = .find .mission then decided c d else start
  | moving submits =>
      if l = .update .mission then
        match submits with
        | some missionId => writing missionId .submitted .qcReview
        | none => ended
      else moving submits
  | writing missionId s t => if l = .update .mission then ended else writing missionId s t
  | ended => ended

/-- What an action may do to the states of the missions. -/
def allows (stage : Stage) (l : Access Model) (d d' : Db) : Prop :=
  match stage with
  | moving _ => Along d d'
  | writing missionId s t =>
      if l = .update .mission then Puts missionId t d d' ∧ ∀ x, Edge x t ↔ x = s else Same d d'
  | _ => Same d d'

end Stage

def protocol (c : Call) : Protocol Db (Access Model) Stage where
  relies _ := True
  init := match c with
    | .admin _ _ => .moving none
    | _ => .start
  next := Stage.next c
  allows := Stage.allows
  final _ := True

/-- The result of a call does not matter. -/
def Any {α : Type} (_ : Stage) (_ : Except Failure α) : Prop := True

/-! ### Programs that leave the states alone -/

/-- A step that leaves the states alone, and that is not the one that the call waits for. -/
def Quietly (awaited : Access Model) (l : Access Model) (d d' : Db) : Prop :=
  Same d d' ∧ l ≠ awaited

section Quietly

variable {awaited : Access Model} {α β : Type} {t : Db.Of β} {b : β}

lemma eachStep_record (hmodel : ∀ d, (t.insert b d).mission = d.mission)
    (hl : .create t.model ≠ awaited) : (record t b).EachStep (Quietly awaited) :=
  .bind (Client.eachStep_create fun d => ⟨same_of_eq (hmodel d), hl⟩) fun _ => .pure ()

lemma eachStep_record_same (hmodel : ∀ d, (t.insert b d).mission = d.mission) :
    (record t b).EachStep fun _ => Same :=
  .bind (Client.eachStep_create fun d => same_of_eq (hmodel d)) fun _ => .pure ()

lemma eachStep_query {m : Model} {f : Db → α} (hl : .find m ≠ awaited) :
    (Client.query m f : Svc α).EachStep (Quietly awaited) :=
  Client.eachStep_query fun d => ⟨Same.refl d, hl⟩

lemma eachStep_beginSync (agentId caseId : Id) (key : Option String) :
    (Transitions.beginSync agentId caseId key).EachStep (Quietly (.find .mission)) := by
  cases key with
  | none => exact .pure false
  | some k =>
    refine .bind (eachStep_query (by decide)) fun existing => ?_
    split
    · exact .pure true
    · refine .bind (Client.eachStep_upsert (fun i d => ?_) fun d => ?_) fun _ => .pure false
      · exact ⟨same_of_eq rfl, by decide⟩
      · exact ⟨same_of_eq rfl, by decide⟩

lemma eachStep_endSync (key : Option String) :
    (Transitions.endSync key).EachStep fun _ => Same := by
  cases key with
  | none => exact .pure ()
  | some k => exact Client.eachStep_updateUnique Same.refl fun i d => same_of_eq rfl

end Quietly

/-! ### Transitions -/

section Transition

variable {agentId : Id} {r : Transitions.TransitionRequest} {α : Type}

/-- A call that leaves the states alone from now on. -/
lemma leads_over {c : Call} {m : Svc α} (h : m.EachStep fun _ => Same) :
    (protocol c).Leads Any .ended m :=
  .of_eachStep h (fun _ _ _ h => ⟨h, rfl⟩) trivial fun _ => trivial

/-- What leaves the states alone may come before the plain write. -/
lemma leads_writing_bind {c : Call} {missionId : Id} {s t : WorkflowState} {β : Type} {m : Svc β}
    {f : β → Svc α} (hm : m.EachStep (Quietly (.update .mission)))
    (hf : ∀ b, (protocol c).Leads Any (.writing missionId s t) (f b)) :
    (protocol c).Leads Any (.writing missionId s t) (m >>= f) := by
  refine .bind_eachStep hm (fun l d d' h => ⟨?_, ?_⟩) trivial (fun _ => trivial) hf
  · change if l = .update .mission then _ else _
    rw [if_neg h.2]
    exact h.1
  · exact if_neg h.2

/-- The plain write. -/
lemma leads_write {c : Call} {missionId : Id} {s t : WorkflowState}
    (hmap : ∀ x, Edge x t ↔ x = s) {f : Mission → Mission} (hf : ∀ m, (f m).workflowState = t)
    {g : Unit → Svc α} (hg : (g ()).EachStep fun _ => Same) :
    (protocol c).Leads Any (.writing missionId s t)
      (Client.update Db.missions .recordNotFound missionId f >>= g) := by
  refine Protocol.Leads.atom_bind fun d _ => ⟨?_, ?_⟩
  · exact ⟨⟨f, hf, rfl⟩, hmap⟩
  · change (protocol c).Leads Any .ended ((if ((Db.missions.get d).get? missionId).isSome then
      Prog.ret () else Prog.fail Failure.recordNotFound) >>= g)
    split
    · exact leads_over hg
    · exact .fail trivial trivial

lemma edge_qcReview_iff (x : WorkflowState) : Edge x .qcReview ↔ x = .submitted := by
  cases x <;> decide

lemma edge_submitting_iff (x : WorkflowState) : Edge x .submitting ↔ x = .executing := by
  cases x <;> decide

/-- The entry into the review. -/
lemma leads_enterQc (caseId missionId : Id) (previousState : WorkflowState) :
    (protocol (.transition agentId r)).Leads Any (.writing missionId .submitted .qcReview)
      (Transitions.enterQc caseId missionId previousState) := by
  refine leads_write edge_qcReview_iff (fun _ => rfl) ?_
  refine .bind (Client.eachStep_query Same.refl) fun lastQcReview => ?_
  refine .bind (eachStep_record_same fun _ => rfl) fun _ => ?_
  refine .bind (Client.eachStep_update fun d =>
    same_modify (f := fun m => { m with qcReviewCount := nextCycle lastQcReview }) (fun _ => rfl)
      missionId d) fun _ => ?_
  refine .bind (eachStep_record_same fun _ => rfl) fun _ => ?_
  exact .bind (Client.eachStep_query Same.refl) fun _ => .pure _

/-- The conditional update, and what follows from it. -/
lemma leads_move (caseId missionId : Id) {mission : Mission} {action : MissionAction}
    {newState : WorkflowState} (hedge : Edge mission.workflowState newState) :
    (protocol (.transition agentId r)).Leads Any
      (.moving (if newState = .submitted then some missionId else none))
      (Transitions.move caseId missionId mission action newState r) := by
  rw [Transitions.move]
  have hadvance : ∀ m,
      (Transitions.advance action newState r.reason mission r.now m).workflowState = newState :=
    fun m => by cases action <;> rfl
  refine Protocol.Leads.atom_bind fun d _ => ⟨?_, ?_⟩
  · exact along_modifyWhere hedge (fun m hm => (of_decide_eq_true hm).2) hadvance d
  · by_cases hsubmitted : newState = .submitted
    · simp only [hsubmitted, if_true]
      change (protocol (.transition agentId r)).Leads Any (.writing missionId .submitted .qcReview)
        (ite _ _ _)
      split
      · exact .ret trivial trivial
      · refine leads_writing_bind (eachStep_query (by decide)) fun updatedMission => ?_
        exact leads_writing_bind (eachStep_record (fun _ => rfl) (by decide)) fun _ =>
          leads_enterQc caseId missionId mission.workflowState
    · simp only [hsubmitted, if_false]
      change (protocol (.transition agentId r)).Leads Any .ended (ite _ _ _)
      refine leads_over ?_
      split
      · exact .pure _
      · refine .bind (Client.eachStep_query Same.refl) fun updatedMission => ?_
        refine .bind (eachStep_record_same fun _ => rfl) fun _ => ?_
        exact .bind (eachStep_endSync _) fun _ => .pure _

/-- What an action reads, and what follows from it. -/
lemma leads_transition (caseId : Id) (action : MissionAction) (hcase : r.caseId = some caseId)
    (haction : r.action = some action) :
    (protocol (.transition agentId r)).Leads Any .start
      (Transitions.transition agentId caseId action r) := by
  rw [Transitions.transition]
  refine Protocol.Leads.atom_bind fun d _ => ⟨Same.refl d, ?_⟩
  change (protocol (.transition agentId r)).Leads Any (Stage.decided (.transition agentId r) d) _
  simp only [Stage.decided, hcase, haction, Transitions.target]
  cases hfind : Db.missions.find (isMissionOf caseId) d with
  | none => exact .ret trivial trivial
  | some q =>
    change (protocol (.transition agentId r)).Leads Any _ (ite (q.2.agentId ≠ agentId) _ _)
    dsimp only
    by_cases hagent : q.2.agentId ≠ agentId
    · rw [if_pos hagent, if_pos hagent]
      exact .ret trivial trivial
    rw [if_neg hagent, if_neg hagent]
    by_cases hterminal : q.2.workflowState ∈ terminalStates
    · rw [if_pos hterminal]
      exact .ret trivial trivial
    rw [if_neg hterminal]
    cases hvalid : validateTransition q.2.workflowState action .agent r.reason with
    | error refusal => exact .ret trivial trivial
    | ok newState => exact leads_move caseId q.1 (edge_of_validateTransition hvalid)

lemma leads_POST : (protocol (.transition agentId r)).Leads Any .start
    (Transitions.POST agentId r) := by
  refine Protocol.Leads.tryCatch_pure (S := Any) ?_ (fun _ _ _ => trivial) fun _ _ _ => trivial
  rw [Transitions.process]
  split
  · rename_i caseId action hcase haction
    refine .bind_eachStep (eachStep_beginSync agentId caseId _) (fun l d d' h => ⟨h.1, ?_⟩) trivial
      (fun _ => trivial) fun alreadySynced => ?_
    · exact if_neg h.2
    split
    · exact .ret trivial trivial
    · exact leads_transition caseId action hcase haction
  · exact .ret trivial trivial

end Transition

/-! ### Evidence -/

section Evidence

variable {agentId : Id} {r : Evidence.Upload}

lemma eachStep_intakeEvidence (missionId : Id) (idempotencyKey : Option String) :
    (Evidence.intakeEvidence missionId agentId idempotencyKey).EachStep
      (Quietly (.update .mission)) := by
  refine .bind (eachStep_query (by decide)) fun existing => ?_
  cases existing with
  | some q => exact .pure _
  | none =>
    refine Client.eachStep_transaction (fun d => ⟨Same.refl d, by decide⟩) fun d => ⟨?_, by decide⟩
    exact same_of_eq rfl

/-- The upload, and the plain update that counts it. -/
lemma leads_store {missionId : Id} {mission : Mission} {file : Evidence.File}
    (hvalid : Evidence.validateMedia file = none) :
    (protocol (.evidence agentId r)).Leads Any
      (if Evidence.completes mission then .writing missionId .executing .submitting else .ended)
      (Evidence.store agentId missionId mission file r.idempotencyKey) := by
  rw [Evidence.store, hvalid]
  dsimp only
  by_cases hcompletes : Evidence.completes mission = true
  · rw [if_pos hcompletes]
    refine leads_writing_bind (eachStep_intakeEvidence missionId r.idempotencyKey) ?_
    refine fun evidenceId => leads_write edge_submitting_iff (fun m => if_pos hcompletes) ?_
    exact .bind (eachStep_record_same fun _ => rfl) fun _ => .pure _
  · rw [if_neg hcompletes]
    refine leads_over (.bind ((eachStep_intakeEvidence missionId r.idempotencyKey).mono
      fun _ _ _ h => h.1) fun evidenceId => ?_)
    refine .bind (Client.eachStep_update fun d => same_modify (f := Evidence.count mission)
      (fun m => if_neg hcompletes) missionId d) fun _ => ?_
    exact .bind (eachStep_record_same fun _ => rfl) fun _ => .pure _

lemma leads_evidence : (protocol (.evidence agentId r)).Leads Any .start
    (Evidence.POST agentId r) := by
  refine Protocol.Leads.tryCatch_pure (S := Any) ?_ (fun _ _ _ => trivial) fun _ _ _ => trivial
  rw [Evidence.process]
  split
  · rename_i caseId file hcase hfile
    refine Protocol.Leads.atom_bind fun d _ => ⟨Same.refl d, ?_⟩
    change (protocol (.evidence agentId r)).Leads Any (Stage.decided (.evidence agentId r) d) _
    simp only [Stage.decided, Evidence.stores, hcase, hfile]
    cases hfind : Db.missions.find (isMissionOf caseId) d with
    | none => exact .ret trivial trivial
    | some q =>
      cases hcheck : r.bolaCheck with
      | some refusal => exact .ret trivial trivial
      | none =>
        change (protocol (.evidence agentId r)).Leads Any _
          (Evidence.store agentId q.1 q.2 file r.idempotencyKey)
        dsimp only
        cases hvalid : Evidence.validateMedia file with
        | some error =>
          rw [Evidence.store, hvalid]
          exact .ret trivial trivial
        | none => exact leads_store hvalid
  · exact .ret trivial trivial

end Evidence

/-- **What a call does at each stage.** -/
lemma leads_code (c : Call) : (protocol c).Leads Any (protocol c).init (code c) := by
  cases c with
  | transition agentId r =>
    exact Protocol.Leads.bind (S := Any) leads_POST (fun _ _ _ => trivial)
      fun _ _ _ => .ret trivial trivial
  | evidence agentId r =>
    exact Protocol.Leads.bind (S := Any) leads_evidence (fun _ _ _ => trivial)
      fun _ _ _ => .ret trivial trivial
  | admin caseId x =>
    refine Protocol.Leads.atom_bind fun d _ => ⟨?_, .ret trivial trivial⟩
    exact along_modifyWhere ⟨x.1, x.2, rfl, rfl⟩ (fun m hm => (of_decide_eq_true hm).2)
      (fun _ => rfl) d

/-! ## Many calls -/

abbrev Calls := Pool Db (Access Model) Failure Unit Call

def stageOf (t : Thread Db (Access Model) Failure Unit Call) : Stage :=
  (protocol t.call).phase t.done

/-- The step from one state to the next follows the map: each mission that changes its state goes
along an edge, and none leaves a terminal state. -/
structure Refines (d d' : Db) : Prop where
  edge : ∀ i m m', d.mission.get? i = some m → d'.mission.get? i = some m' →
    m'.workflowState ≠ m.workflowState → Edge m.workflowState m'.workflowState
  terminal : ∀ i m m', d.mission.get? i = some m → d'.mission.get? i = some m' →
    m.workflowState ∈ terminalStates → m'.workflowState = m.workflowState

lemma refines_iff_along {d d' : Db} : Refines d d' ↔ Along d d' := by
  refine ⟨Refines.edge, fun h => ⟨h, fun i m m' hm hm' hterminal => ?_⟩⟩
  by_contra hne
  exact (h i m m' hm hm' hne).not_terminal hterminal

/-- A plain write of a state finds the mission in the state that it has been decided on, or in the
one that it puts the mission into. -/
def Timely (p : Calls) : Event Call → Prop
  | .start _ => True
  | .sched k => ∀ th ∈ p.threads[k]?, th.rest.next? = some (.update .mission) →
      match stageOf th with
      | .writing i s t =>
          ∀ m ∈ p.shared.mission.get? i, m.workflowState = s ∨ m.workflowState = t
      | _ => True

/-- A step of the pool follows the map exactly when it is timely. -/
lemma refines_step_iff {p : Calls} (h : p.Tracked protocol) (e : Event Call) :
    Refines p.shared (p.step code e).shared ↔ Timely p e := by
  rw [refines_iff_along]
  rcases h.step code (fun _ => trivial) e with ⟨k, rfl, hfinished, hstep⟩ | ⟨c, rfl, hstep⟩ |
    ⟨k, th, l, w, rest, rfl, hth, hrest, hallows, hstep⟩ <;> rw [hstep]
  · refine iff_of_true (Same.refl _).along fun th hth hnext => ?_
    rw [hfinished th hth] at hnext
    cases hnext
  · exact iff_of_true (Same.refl _).along trivial
  · have htimely : Timely p (.sched k) ↔ (l = .update .mission → match stageOf th with
        | .writing i s t =>
            ∀ m ∈ p.shared.mission.get? i, m.workflowState = s ∨ m.workflowState = t
        | _ => True) := by
      simp only [Timely, hth, Option.mem_def, Option.some.injEq, forall_eq', hrest, Prog.next?]
    rw [htimely]
    have hstage : Stage.allows (stageOf th) l p.shared (w p.shared) := hallows
    cases hphase : stageOf th with
    | start =>
      rw [hphase] at hstage
      exact iff_of_true (Same.along hstage) fun _ => trivial
    | moving submits =>
      rw [hphase] at hstage
      exact iff_of_true hstage fun _ => trivial
    | ended =>
      rw [hphase] at hstage
      exact iff_of_true (Same.along hstage) fun _ => trivial
    | writing i s t =>
      rw [hphase] at hstage
      by_cases hl : l = .update .mission
      · obtain ⟨hputs, hmap⟩ := (if_pos hl).mp hstage
        simp only [hl, true_imp_iff]
        exact hputs.along_iff hmap
      · exact iff_of_true (Same.along ((if_neg hl).mp hstage)) fun h => absurd h hl

/-- **The workflow follows the map** in the interleavings in which the plain writes are timely, and
in no others. -/
theorem refines_iff (d : Db) (es : List (Event Call)) :
    AllSteps (Pool.step code) (fun p e => Refines p.shared (p.step code e).shared)
        (Pool.idle d) es ↔
      AllSteps (Pool.step code) Timely (Pool.idle d) es :=
  allSteps_congr_of_invariant (I := Pool.Tracked protocol) (s := Pool.idle d)
    (fun _ e h => h.preserved code (fun c => (leads_code c).1) (fun _ => trivial) e)
    (fun _ e h => refines_step_iff h e) (Pool.tracked_idle protocol d) es

/-- A mission that is about to be submitted. -/
def submitting : Db where
  mission := Table.empty.insert
    { caseId := 0, agentId := 0, payoutAmount := 100, netPayout := 90
      workflowState := .submitting }

/-- The agent submits the mission, an administrator cancels it, and it enters QC_REVIEW. -/
theorem not_refines :
    ¬ ∀ (d : Db) (es : List (Event Call)),
      AllSteps (Pool.step code) (fun p e => Refines p.shared (p.step code e).shared)
        (Pool.idle d) es := by
  intro h
  have hrun := h submitting
    ([.start (.transition 0 { caseId := some 0, action := some .submit }),
      .start (.admin 0 ⟨⟨.cancel, .submitted, .cancelled, [.admin, .operations], true⟩, by decide⟩),
      .sched 0, .sched 0, .sched 1, .sched 0, .sched 0] ++ [.sched 0])
  have hlast := (AllSteps.append_iff.mp hrun).2.1
  generalize hp : runFrom (Pool.step code) (Pool.idle submitting) _ = p at hlast
  have hbefore : (p.shared.mission.get? 0).map Mission.workflowState = some .cancelled := by
    rw [← hp]
    decide +kernel
  have hafter : ((p.step code (.sched 0)).shared.mission.get? 0).map Mission.workflowState =
      some .qcReview := by
    rw [← hp]
    decide +kernel
  obtain ⟨m, hm, hmstate⟩ := Option.map_eq_some_iff.mp hbefore
  obtain ⟨m', hm', hmstate'⟩ := Option.map_eq_some_iff.mp hafter
  have hstate := hlast.terminal 0 m m' hm hm' (by rw [hmstate]; decide)
  rw [hmstate, hmstate'] at hstate
  cases hstate

end WorkflowPool

end Asoju.FieldForce
