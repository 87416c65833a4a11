/-
The guards of the workflow, and what an agent can do without them.

The map of the workflow names a guard for each transition: a check on site that has passed for
CHECK_IN, a checklist that is complete for PREPARE_SUBMIT, evidence for SUBMIT.  The route of the
check-in evaluates its guard; the route of the transitions evaluates none.  `allGuarded_iff` says
which calls of an agent keep the missions guarded: those that would have passed the guards.
-/
import Asoju.FieldForce.MissionMoves
import Asoju.Lib.Run

namespace Asoju.FieldForce

open Lib

namespace MissionGuards

/-! ## The guards -/

/-- ON_SITE and what comes after it. -/
def onSiteStates : List WorkflowState :=
  [.onSite, .executing, .submitting, .submitted, .qcReview, .completed]

/-- SUBMITTING and what comes after it. -/
def submittingStates : List WorkflowState := [.submitting, .submitted, .qcReview, .completed]

/-- SUBMITTED and what comes after it. -/
def submittedStates : List WorkflowState := [.submitted, .qcReview, .completed]

/-- A check on site has passed. -/
def Passed (missionId : Id) (x : Site) : Prop :=
  ∃ c ∈ x.checks.values, c.missionId = missionId ∧ c.result = .pass

/-- The checklist is complete. -/
def Complete (m : Mission) : Prop := m.checklistTotal ≤ m.checklistProgress ∧ 0 < m.checklistTotal

/-- There is evidence. -/
def Evidenced (missionId : Id) (x : Site) : Prop :=
  ∃ e ∈ x.evidence.values, e.missionId = missionId

instance (missionId : Id) (x : Site) : Decidable (Passed missionId x) :=
  inferInstanceAs (Decidable (∃ c ∈ x.checks.values, _))

instance (m : Mission) : Decidable (Complete m) := inferInstanceAs (Decidable (_ ∧ _))

instance (missionId : Id) (x : Site) : Decidable (Evidenced missionId x) :=
  inferInstanceAs (Decidable (∃ e ∈ x.evidence.values, _))

/-- A mission has what its state asks for. -/
structure Guarded (missionId : Id) (m : Mission) (x : Site) : Prop where
  onSite : m.workflowState ∈ onSiteStates → Passed missionId x
  submitting : m.workflowState ∈ submittingStates → Complete m
  submitted : m.workflowState ∈ submittedStates → Evidenced missionId x

def AllGuarded (x : Site) : Prop :=
  ∀ missionId m, x.missions.get? missionId = some m → Guarded missionId m x

/-- The guard of an action, as the map of the workflow describes it. -/
def Guard (missionId : Id) (m : Mission) (x : Site) : MissionAction → Prop
  | .checkIn => Passed missionId x
  | .prepareSubmit => Complete m
  | .submit => Evidenced missionId x
  | .resubmit => Passed missionId x ∧ Complete m ∧ Evidenced missionId x
  | _ => True

instance guardDecidable (missionId : Id) (m : Mission) (x : Site) :
    ∀ action, Decidable (Guard missionId m x action)
  | .checkIn => inferInstanceAs (Decidable (Passed missionId x))
  | .prepareSubmit => inferInstanceAs (Decidable (Complete m))
  | .submit => inferInstanceAs (Decidable (Evidenced missionId x))
  | .resubmit =>
      inferInstanceAs (Decidable (Passed missionId x ∧ Complete m ∧ Evidenced missionId x))
  | .offer | .assign | .startTravel | .beginExecution | .enterQc | .approve | .reject
  | .requestRework | .escalate | .pause | .cancel | .fail | .reassigned | .other _ =>
      inferInstanceAs (Decidable True)

/-- The transitions of an agent. -/
def agentMoves : List (MissionAction × WorkflowState × WorkflowState) :=
  [(.startTravel, .accepted, .enRoute), (.checkIn, .enRoute, .onSite),
    (.beginExecution, .onSite, .executing), (.prepareSubmit, .executing, .submitting),
    (.submit, .submitting, .submitted), (.resubmit, .rework, .submitted),
    (.escalate, .enRoute, .escalated), (.escalate, .onSite, .escalated),
    (.escalate, .executing, .escalated), (.escalate, .submitting, .escalated)]

lemma mem_agentMoves {s t : WorkflowState} {action : MissionAction} {reason : Option String}
    (h : validateTransition s action .agent reason = .ok t) : (action, s, t) ∈ agentMoves := by
  have htable : ∀ x ∈ missionTransitions, ActorRole.agent ∈ x.allowedRoles →
      (x.action, x.src, x.dst) ∈ agentMoves := by decide
  obtain ⟨x, hx, rfl, rfl, rfl, hrole⟩ := validateTransition_eq_ok h
  exact htable x hx hrole

/-! ## The missions after a change of one of them -/

section Change

variable {missionId : Id} {m : Mission} {x : Site}

/-- What a change of a mission has to see to is that mission. -/
lemma allGuarded_changeMission_iff (hx : AllGuarded x)
    (hget : x.missions.get? missionId = some m) (f : Mission → Mission) :
    AllGuarded (x.changeMission missionId f) ↔ Guarded missionId (f m) x := by
  constructor
  · intro h
    have hguarded := h missionId (f m)
      ((Table.get?_modify_self _ _ _).trans (congrArg (Option.map f) hget))
    exact ⟨hguarded.onSite, hguarded.submitting, hguarded.submitted⟩
  · intro h i n hn
    rcases Table.get?_modify_cases hget hn with hn | ⟨rfl, rfl⟩
    · have hguarded := hx i n hn
      exact ⟨hguarded.onSite, hguarded.submitting, hguarded.submitted⟩
    · exact ⟨h.onSite, h.submitting, h.submitted⟩

/-- The guards look at the state, the checklist, and what is there about the mission. -/
lemma Guarded.congr {n : Mission} {y : Site} (h : Guarded missionId m x)
    (hstate : n.workflowState = m.workflowState) (hchecks : Passed missionId x → Passed missionId y)
    (hcomplete : Complete m → Complete n)
    (hevidence : Evidenced missionId x → Evidenced missionId y) :
    Guarded missionId n y := by
  refine ⟨fun hn => ?_, fun hn => ?_, fun hn => ?_⟩
  · exact hchecks (h.onSite (hstate ▸ hn))
  · exact hcomplete (h.submitting (hstate ▸ hn))
  · exact hevidence (h.submitted (hstate ▸ hn))

lemma AllGuarded.addCheck (hx : AllGuarded x) (c : GpsCheck) : AllGuarded (x.addCheck c) := by
  intro i n hn
  refine (hx i n hn).congr rfl (fun hpassed => ?_) id id
  obtain ⟨c', hc', hpass⟩ := hpassed
  exact ⟨c', by simp [Site.addCheck, hc'], hpass⟩

lemma allGuarded_addReview_iff (r : QcReview) : AllGuarded (x.addReview r) ↔ AllGuarded x :=
  ⟨fun h i n hn => (h i n hn).congr rfl id id id, fun h i n hn => (h i n hn).congr rfl id id id⟩

/-- In QC_REVIEW a mission needs what it needs when it is SUBMITTED. -/
lemma guarded_qcReview_iff (hstate : m.workflowState = .submitted) :
    Guarded missionId { m with workflowState := .qcReview } x ↔ Guarded missionId m x := by
  constructor
  · intro h
    exact ⟨fun _ => h.onSite (show WorkflowState.qcReview ∈ onSiteStates by decide),
      fun _ => h.submitting (show WorkflowState.qcReview ∈ submittingStates by decide),
      fun _ => h.submitted (show WorkflowState.qcReview ∈ submittedStates by decide)⟩
  · intro h
    exact ⟨fun _ => h.onSite (by rw [hstate]; decide),
      fun _ => h.submitting (by rw [hstate]; decide),
      fun _ => h.submitted (by rw [hstate]; decide)⟩

/-- A change that the guards do not see. -/
lemma allGuarded_changeMission_congr {f : Mission → Mission}
    (hstate : ∀ m, (f m).workflowState = m.workflowState)
    (hcomplete : ∀ m, Complete (f m) ↔ Complete m) :
    AllGuarded (x.changeMission missionId f) ↔ AllGuarded x := by
  have hrow : ∀ i, (x.changeMission missionId f).missions.get? i =
      if i = missionId then (x.missions.get? i).map f else x.missions.get? i :=
    x.missions.get?_modify missionId f
  constructor
  · intro h i n hn
    by_cases hi : i = missionId
    · have hguarded := h i (f n) (by rw [hrow, if_pos hi, hn, Option.map_some])
      exact hguarded.congr (hstate n).symm id (hcomplete n).mp id
    · have hguarded := h i n (by rw [hrow, if_neg hi, hn])
      exact hguarded.congr rfl id id id
  · intro h i n hn
    rw [hrow] at hn
    split_ifs at hn
    · obtain ⟨n', hn', rfl⟩ := Option.map_eq_some_iff.mp hn
      exact (h i n' hn').congr (hstate n') id (hcomplete n').mpr id
    · exact (h i n hn).congr rfl id id id

end Change

/-! ## A transition -/

/-- What a mission needs after a move is the guard of the move. -/
lemma guarded_advance_iff {missionId : Id} {m n : Mission} {x : Site} {action : MissionAction}
    {newState : WorkflowState} {reason : Option String}
    (hvalid : validateTransition m.workflowState action .agent reason = .ok newState)
    (h : Guarded missionId m x) (hstate : n.workflowState = newState)
    (hcomplete : Complete n ↔ Complete m) :
    Guarded missionId n x ↔ Guard missionId m x action := by
  have hmove := mem_agentMoves hvalid
  have honSite := h.onSite
  have hsubmitting := h.submitting
  have hguarded : Guarded missionId n x ↔ (newState ∈ onSiteStates → Passed missionId x) ∧
      (newState ∈ submittingStates → Complete m) ∧
        (newState ∈ submittedStates → Evidenced missionId x) := by
    rw [← hstate, ← hcomplete]
    exact ⟨fun h => ⟨h.onSite, h.submitting, h.submitted⟩, fun h => ⟨h.1, h.2.1, h.2.2⟩⟩
  rw [hguarded]
  generalize m.workflowState = s at hmove honSite hsubmitting
  simp only [agentMoves, List.mem_cons, Prod.mk.injEq, List.not_mem_nil, or_false] at hmove
  rcases hmove with ⟨rfl, rfl, rfl⟩ | ⟨rfl, rfl, rfl⟩ | ⟨rfl, rfl, rfl⟩ | ⟨rfl, rfl, rfl⟩ |
    ⟨rfl, rfl, rfl⟩ | ⟨rfl, rfl, rfl⟩ | ⟨rfl, rfl, rfl⟩ | ⟨rfl, rfl, rfl⟩ | ⟨rfl, rfl, rfl⟩ |
      ⟨rfl, rfl, rfl⟩ <;>
    simp [onSiteStates, submittingStates, submittedStates, Guard] at honSite hsubmitting ⊢ <;>
      grind

lemma advance_fields (action : MissionAction) (newState : WorkflowState) (reason : Option String)
    (mission : Mission) (now : Time) (m : Mission) :
    (Transitions.advance action newState reason mission now m).workflowState = newState ∧
      (Complete (Transitions.advance action newState reason mission now m) ↔ Complete m) := by
  cases action <;> exact ⟨rfl, Iff.rfl⟩

/-- **A transition keeps the missions guarded** exactly when its guard passes. -/
lemma allGuarded_moved_iff {x : Site} (hx : AllGuarded x) {missionId : Id} {m : Mission}
    (hget : x.missions.get? missionId = some m) {action : MissionAction}
    {newState : WorkflowState} {r : Transitions.TransitionRequest}
    (hvalid : validateTransition m.workflowState action .agent r.reason = .ok newState) :
    AllGuarded (Transitions.moved r missionId m action newState x) ↔
      Guard missionId m x action := by
  have hguarded := hx missionId m hget
  obtain ⟨hstate, hcomplete⟩ := advance_fields action newState r.reason m r.now m
  have hadvanced := guarded_advance_iff hvalid hguarded hstate hcomplete
  rw [Transitions.moved]
  by_cases hsubmitted : newState = .submitted
  · rw [if_pos hsubmitted, Transitions.entered]
    rw [← hadvanced]
    refine (allGuarded_changeMission_congr ?_ ?_).trans ?_
    · exact fun _ => rfl
    · exact fun _ => Iff.rfl
    rw [allGuarded_addReview_iff, ← guarded_qcReview_iff (hstate.trans hsubmitted),
      ← allGuarded_changeMission_iff hx hget fun n =>
        { Transitions.advance action newState r.reason m r.now n with workflowState := .qcReview }]
    simp only [Site.changeMission, Table.modify_modify]
  · rw [if_neg hsubmitted, allGuarded_changeMission_iff hx hget, hadvanced]

/-! ## The other routes -/

/-- A check-in keeps the missions guarded. -/
lemma AllGuarded.checked {x : Site} (hx : AllGuarded x) {missionId : Id} {m : Mission}
    (hget : x.missions.get? missionId = some m) (agentId : Id) (r : CheckIn.CheckInRequest) :
    AllGuarded (CheckIn.checked agentId r missionId m x) := by
  rw [CheckIn.checked]
  have hchecked := hx.addCheck
    { missionId, agentId, result := if r.rejection.isNone then .pass else .fail }
  split
  · rename_i newState hrejection hvalid
    refine (allGuarded_changeMission_iff hchecked hget _).mpr ?_
    refine (guarded_advance_iff (n := { m with workflowState := newState }) hvalid
      (hchecked missionId m hget) rfl Iff.rfl).mpr ?_
    exact ⟨{ missionId, agentId, result := .pass }, by simp [Site.addCheck, hrejection], rfl, rfl⟩
  · exact hchecked

/-- An upload keeps the missions guarded. -/
lemma AllGuarded.stored {x : Site} (hx : AllGuarded x) {missionId : Id} {m : Mission}
    (hget : x.missions.get? missionId = some m) (agentId : Id) (r : Evidence.Upload) :
    AllGuarded (Evidence.stored agentId r missionId m x) := by
  rw [Evidence.stored]
  -- Whatever becomes of the evidence, nothing is lost.
  have hkeep : ∀ evidence : Table EvidenceItem, (∀ e ∈ x.evidence.values, e ∈ evidence.values) →
      AllGuarded (Site.changeMission missionId (Evidence.count m) { x with evidence }) := by
    intro evidence hevidence
    have hmore : AllGuarded { x with evidence } := by
      intro i n hn
      refine (hx i n hn).congr rfl id id ?_
      rintro ⟨e, he, h⟩
      exact ⟨e, hevidence e he, h⟩
    refine (allGuarded_changeMission_iff hmore hget _).mpr ?_
    have hguarded := hmore missionId m hget
    by_cases hcompletes : Evidence.completes m = true
    · obtain ⟨hprogress, htotal, hexecuting⟩ := of_decide_eq_true hcompletes
      have hstate : (Evidence.count m m).workflowState = .submitting := if_pos hcompletes
      refine ⟨fun _ => hguarded.onSite (by rw [hexecuting]; decide), fun _ => ⟨hprogress, htotal⟩,
        fun h => absurd h (by rw [hstate]; decide)⟩
    · exact hguarded.congr (if_neg hcompletes) id id id
  refine hkeep _ fun e he => ?_
  split
  · exact he
  · rw [Table.values_insert]
    exact List.mem_append_left _ he

/-- An update of the checklist keeps the missions guarded, unless it leaves a mission in SUBMITTING
with a checklist that is not complete. -/
lemma allGuarded_progress_iff {x : Site} (hx : AllGuarded x) {missionId : Id} {m : Mission}
    (hget : x.missions.get? missionId = some m) {r : Checklist.Update}
    (hactive : m.workflowState ∈ Checklist.activeStates) :
    AllGuarded (x.changeMission missionId (Checklist.progress r m)) ↔
      (m.workflowState = .submitting → Complete (Checklist.progress r m m)) := by
  have hguarded := hx missionId m hget
  have hstate : (Checklist.progress r m m).workflowState = m.workflowState := rfl
  rw [allGuarded_changeMission_iff hx hget]
  constructor
  · intro h hsubmitting
    exact h.submitting (by rw [hstate, hsubmitting]; decide)
  · intro h
    refine ⟨hguarded.onSite, fun hn => h ?_, hguarded.submitted⟩
    rw [hstate] at hn
    generalize m.workflowState = s at hactive hn
    have htable : ∀ s ∈ Checklist.activeStates, s ∈ submittingStates → s = .submitting := by decide
    exact htable s hactive hn

/-! ## Runs -/

/-- A call of an agent. -/
inductive Operation
  | transition (agentId : Id) (r : Transitions.TransitionRequest)
  | checkIn (agentId : Id) (r : CheckIn.CheckInRequest)
  | checklist (agentId : Id) (r : Checklist.Update)
  | evidence (agentId : Id) (r : Evidence.Upload)

def step (d : Db) : Operation → Db
  | .transition agentId r => (Transitions.POST agentId r).exec d
  | .checkIn agentId r => (CheckIn.POST agentId r).exec d
  | .checklist agentId r => (Checklist.PATCH agentId r).exec d
  | .evidence agentId r => (Evidence.POST agentId r).exec d

/-- The transition that is made passes its guard, and an update of the checklist of a mission in
SUBMITTING leaves it complete. -/
def PassesGuard (d : Db) : Operation → Prop
  | .transition agentId r =>
      ∀ q ∈ Transitions.moves agentId r d, Guard q.2.1 q.2.2.1 d.site q.1
  | .checklist agentId r => ∀ q ∈ Checklist.updates agentId r d,
      q.2.workflowState = .submitting → Complete (Checklist.progress r q.2 q.2)
  | _ => True

instance passesGuardDecidable (d : Db) : ∀ o, Decidable (PassesGuard d o)
  | .transition agentId r => inferInstanceAs (Decidable
      (∀ q ∈ Transitions.moves agentId r d, Guard q.2.1 q.2.2.1 d.site q.1))
  | .checklist agentId r => inferInstanceAs (Decidable (∀ q ∈ Checklist.updates agentId r d,
      q.2.workflowState = .submitting → Complete (Checklist.progress r q.2 q.2)))
  | .checkIn _ _ => inferInstanceAs (Decidable True)
  | .evidence _ _ => inferInstanceAs (Decidable True)

lemma get?_of_moves {agentId : Id} {r : Transitions.TransitionRequest} {d : Db}
    {action : MissionAction} {missionId : Id} {m : Mission} {newState : WorkflowState}
    (h : Transitions.moves agentId r d = some (action, missionId, m, newState)) :
    d.mission.get? missionId = some m ∧
      validateTransition m.workflowState action .agent r.reason = .ok newState := by
  obtain ⟨caseId, -, -, -, htarget⟩ := Transitions.moves_eq_some h
  obtain ⟨hget, -, hvalid⟩ := Transitions.target_eq_some htarget
  exact ⟨hget, hvalid⟩

lemma get?_of_arrives {agentId : Id} {r : CheckIn.CheckInRequest} {d : Db} {missionId : Id}
    {m : Mission} (h : CheckIn.arrives agentId r d = some (missionId, m)) :
    d.mission.get? missionId = some m ∧ m.workflowState ∈ CheckIn.checkInStates := by
  rw [CheckIn.arrives] at h
  split at h
  · split at h
    · rename_i hfind
      split_ifs at h with hrefused
      cases h
      exact ⟨(TableOf.find_eq_some hfind).1, not_not.mp (not_or.mp hrefused).2⟩
    · cases h
  · cases h

lemma get?_of_updates {agentId : Id} {r : Checklist.Update} {d : Db} {missionId : Id}
    {m : Mission} (h : Checklist.updates agentId r d = some (missionId, m)) :
    d.mission.get? missionId = some m ∧ m.workflowState ∈ Checklist.activeStates := by
  rw [Checklist.updates] at h
  split at h
  · split_ifs at h
    split at h
    · rename_i hfind
      split_ifs at h with hrefused
      cases h
      exact ⟨(TableOf.find_eq_some hfind).1, not_not.mp (not_or.mp hrefused).2⟩
    · cases h
  · cases h

/-- A call keeps the missions guarded exactly when it passes the guard. -/
lemma allGuarded_step_iff {d : Db} (hdistinct : CasesDistinct d.mission)
    (hd : AllGuarded d.site) (o : Operation) :
    AllGuarded (step d o).site ↔ PassesGuard d o := by
  cases o with
  | transition agentId r =>
    rw [step, Transitions.site_POST agentId r hdistinct, PassesGuard]
    cases hmoves : Transitions.moves agentId r d with
    | none => simp [hd]
    | some q =>
      obtain ⟨action, missionId, m, newState⟩ := q
      obtain ⟨hget, hvalid⟩ := get?_of_moves hmoves
      simp only [Option.mem_def, Option.some.injEq, forall_eq']
      exact allGuarded_moved_iff hd hget hvalid
  | checkIn agentId r =>
    rw [step, CheckIn.site_POST agentId r hdistinct]
    refine iff_of_true ?_ trivial
    cases harrives : CheckIn.arrives agentId r d with
    | none => exact hd
    | some q => exact hd.checked (get?_of_arrives harrives).1 agentId r
  | checklist agentId r =>
    rw [step, Checklist.site_PATCH, PassesGuard]
    cases hupdates : Checklist.updates agentId r d with
    | none => simp [hd]
    | some q =>
      obtain ⟨hget, hactive⟩ := get?_of_updates hupdates
      simp only [Option.mem_def, Option.some.injEq, forall_eq']
      exact allGuarded_progress_iff hd hget hactive
  | evidence agentId r =>
    rw [step, Evidence.site_POST]
    refine iff_of_true ?_ trivial
    cases hstores : Evidence.stores r d with
    | none => exact hd
    | some q => exact hd.stored (Evidence.get?_of_stores hstores) agentId r

/-- A call leaves each mission with its case. -/
lemma casesDistinct_step {d : Db} (hdistinct : CasesDistinct d.mission) (o : Operation) :
    CasesDistinct (step d o).mission := by
  cases o with
  | transition agentId r => exact Transitions.casesDistinct_POST agentId r hdistinct
  | checkIn agentId r => exact CheckIn.casesDistinct_POST agentId r hdistinct
  | checklist agentId r => exact Checklist.casesDistinct_PATCH agentId r hdistinct
  | evidence agentId r => exact Evidence.casesDistinct_POST agentId r hdistinct

/-- **The missions stay guarded** in the runs in which every transition that is made passes its
guard, and no checklist is taken back in SUBMITTING, and in no others. -/
theorem allGuarded_iff (d : Db) (hdistinct : CasesDistinct d.mission) (hd : AllGuarded d.site)
    (os : List Operation) :
    AllStates step (fun d => AllGuarded d.site) d os ↔ AllSteps step PassesGuard d os :=
  allStates_iff_allSteps_of_invariant
    (I := fun d : Db => CasesDistinct d.mission ∧ AllGuarded d.site) (fun _ h => h.2)
    (fun _ o h ho => ⟨casesDistinct_step h.1 o, (allGuarded_step_iff h.1 h.2 o).mpr ho⟩)
    (fun _ o h => (allGuarded_step_iff h.1 h.2 o).mp) ⟨hdistinct, hd⟩ os

/-- A mission that has been accepted, with an item on its checklist. -/
def acceptedMission : Db where
  mission := Table.empty.insert
    { caseId := 0, agentId := 0, payoutAmount := 100, netPayout := 90, workflowState := .enRoute
      scopeSnapshot := [{ id := "a" }], checklistTotal := 1 }

lemma get?_acceptedMission {missionId : Id} {m : Mission}
    (h : acceptedMission.mission.get? missionId = some m) :
    missionId = 0 ∧ m.workflowState = .enRoute := by
  rcases Table.get?_insert_cases h with h | ⟨rfl, rfl⟩
  · cases h
  · exact ⟨rfl, rfl⟩

lemma allGuarded_acceptedMission : AllGuarded acceptedMission.site := by
  intro i m hm
  have hstate := (get?_acceptedMission hm).2
  refine ⟨fun h => ?_, fun h => ?_, fun h => ?_⟩ <;> rw [hstate] at h <;> exact absurd h (by decide)

/-- An agent checks in, ticks off the checklist and begins to submit. -/
theorem allGuarded_iff_checkedIn :
    AllStates step (fun d => AllGuarded d.site) acceptedMission
      [.checkIn 0 { caseId := some 0 },
        .transition 0 { caseId := some 0, action := some .beginExecution },
        .checklist 0 { caseId := some 0, checklistId := some "a", completed := true },
        .transition 0 { caseId := some 0, action := some .prepareSubmit }] :=
  (allGuarded_iff acceptedMission casesDistinct_singleton allGuarded_acceptedMission _).mpr
    (by decide +kernel)

/-- An agent says CHECK_IN to the route of the transitions: the mission is ON_SITE without a check
on site. -/
theorem not_allGuarded :
    ¬ ∀ (d : Db) (os : List Operation), CasesDistinct d.mission → AllGuarded d.site →
      AllStates step (fun d => AllGuarded d.site) d os := by
  intro h
  have hlast := (h acceptedMission [.transition 0 { caseId := some 0, action := some .checkIn }]
    casesDistinct_singleton allGuarded_acceptedMission).last
  generalize hs : runFrom step acceptedMission _ = d at hlast
  have hstate : (d.mission.get? 0).map Mission.workflowState = some .onSite := by
    rw [← hs]
    decide +kernel
  obtain ⟨m, hget, hm⟩ := Option.map_eq_some_iff.mp hstate
  have hpassed := (hlast 0 m hget).onSite (by rw [hm]; decide)
  rw [← hs] at hpassed
  exact absurd hpassed (by decide +kernel)

end MissionGuards

end Asoju.FieldForce
