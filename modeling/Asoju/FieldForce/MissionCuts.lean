/-
How far the calls on a mission come.

A call that is cut off leaves behind what its first steps have done.  `Transitions.site_after_POST`,
`AgentActions.site_after_PUT` and `QualityControl.work_after_POST` say what is on the site after the
first `n` steps of a transition, of a submission or an escalation beside it, and of a command of an
administrator.  A submission writes the mission three times: by the conditional update, at the entry
into the review, and with the number of the review, which is created in between.
-/
import Asoju.FieldForce.Completion
import Asoju.FieldForce.SubmitPaths

namespace Asoju.FieldForce

open Lib

lemma after_record_bind {α β : Type} {t : Db.Of β} {b : β} {g : Unit → Svc α} (n : ℕ) (d : Db) :
    (record t b >>= g).after (n + 1) d = (g ()).after n (t.insert b d) := rfl

lemma eachStep_record {β : Type} {R : Access Model → Db → Db → Prop} {t : Db.Of β} {b : β}
    (h : ∀ d, R (.create t.model) d (t.insert b d)) : (record t b).EachStep R :=
  .bind (Client.eachStep_create h) fun _ => .pure ()

/-- A step that leaves the site alone. -/
def Aloof (_ : Access Model) (d d' : Db) : Prop := d'.site = d.site

lemma aloof_query {α : Type} {m : Model} {f : Db → α} :
    (Client.query m f : Svc α).EachStep Aloof := Client.eachStep_query fun _ => rfl

/-! ## The entry into the review -/

/-- The site after `n` steps of the entry. -/
def enteredAfter (missionId : Id) (n : ℕ) (x : Site) : Site :=
  let y := x.changeMission missionId fun m => { m with workflowState := .qcReview }
  let cycleNumber := nextCycle (lastReview missionId x.reviews)
  let z := y.addReview { missionId, cycleNumber, state := .pending }
  if n = 0 then x
  else if n ≤ 2 then y
  else if n = 3 then z
  else z.changeMission missionId fun m => { m with qcReviewCount := cycleNumber }

section Enter

variable {d : Db} {caseId missionId : Id} {mission : Mission}

/-- What either route writes at the entry: the state, the review, and its number. -/
lemma site_after_entry {α : Type} (rest : ℕ → Svc α) (hrest : ∀ k, (rest k).EachStep Aloof) (n : ℕ)
    (hget : d.mission.get? missionId = some mission) :
    ((do
      Client.update Db.missions .recordNotFound missionId fun m =>
        { m with workflowState := .qcReview }
      let lastQcReview ← findLastReview missionId
      record Db.qcReviews
        { missionId, cycleNumber := nextCycle lastQcReview, state := .pending }
      Client.update Db.missions .recordNotFound missionId fun m =>
        { m with qcReviewCount := nextCycle lastQcReview }
      rest (nextCycle lastQcReview) : Svc α).after n d).site = enteredAfter missionId n d.site := by
  rcases n with _ | n
  · rw [Prog.after_zero]
    rfl
  rw [Client.after_update_bind n d hget]
  rcases n with _ | n
  · rw [Prog.after_zero]
    rfl
  rw [findLastReview, Client.after_query_bind]
  rcases n with _ | n
  · rw [Prog.after_zero]
    rfl
  rw [after_record_bind]
  rcases n with _ | n
  · rw [Prog.after_zero]
    rfl
  refine (congrArg Db.site (Client.after_update_bind (r := Db.missions)
    (b := { mission with workflowState := .qcReview }) n _ ?_)).trans ?_
  · exact (Table.get?_modify_self _ _ _).trans (congrArg _ hget)
  exact (Prog.EachStep.after_eq (v := Db.site) (hrest _) n _).trans rfl

lemma Transitions.site_after_enterQc (previousState : WorkflowState) (n : ℕ)
    (hget : d.mission.get? missionId = some mission) :
    ((Transitions.enterQc caseId missionId previousState).after n d).site =
      enteredAfter missionId n d.site := by
  have hentry := site_after_entry (fun cycleNumber => (do
    record Db.auditEvents ⟨"MISSION_ENTER_QC", some missionId⟩
    let finalMission ← Client.findFirst Db.missions (isMissionOf caseId)
    return .ok {
      message := s!"Mission transitioned to QC_REVIEW (cycle #{cycleNumber})"
      mission := finalMission.map Prod.snd
      previousState := some previousState
      currentState := some .qcReview } : Svc (Reply Transitioned))) (fun cycleNumber => ?_) n hget
  · exact hentry
  · exact .bind (eachStep_record fun _ => rfl) fun _ => .bind aloof_query fun _ => .pure _

lemma AgentActions.site_after_enterQc (n : ℕ) (hget : d.mission.get? missionId = some mission) :
    ((AgentActions.enterQc caseId missionId).after n d).site = enteredAfter missionId n d.site := by
  have hentry := site_after_entry (fun cycleNumber => (do
    let finalMission ← Client.findFirst Db.missions (isMissionOf caseId)
    record Db.auditEvents ⟨"MISSION_SUBMITTED", some missionId⟩
    record Db.auditEvents ⟨"MISSION_ENTER_QC", some missionId⟩
    return .ok { mission := finalMission.map Prod.snd, qcCycleNumber := some cycleNumber } :
      Svc (Reply Answered))) (fun cycleNumber => ?_) n hget
  · exact hentry
  exact .bind aloof_query fun _ => .bind (eachStep_record fun _ => rfl) fun _ =>
    .bind (eachStep_record fun _ => rfl) fun _ => .pure _

end Enter

/-! ## The moves of an agent -/

/-- A move of an agent, and where it is in the call. -/
structure AgentMove where
  missionId : Id
  mission : Mission
  newState : WorkflowState
  write : Mission → Mission
  /-- The steps before the conditional update. -/
  before : ℕ
  /-- The steps before the entry into the review. -/
  entry : ℕ

namespace AgentMove

/-- The site after `n` steps of the call. -/
def after (v : AgentMove) (n : ℕ) (x : Site) : Site :=
  let y := x.changeMission v.missionId v.write
  if n ≤ v.before then x
  else if v.newState = .submitted then enteredAfter v.missionId (n - v.entry) y
  else y

/-- The move in a call that has `k` more steps before it. -/
def later (k : ℕ) (v : AgentMove) : AgentMove :=
  { v with before := v.before + k, entry := v.entry + k }

lemma after_later (v : AgentMove) (k n : ℕ) (x : Site) :
    (later k v).after (n + k) x = v.after n x := by
  simp only [after, later, Nat.add_le_add_iff_right, Nat.add_sub_add_right]

lemma after_succ {v : AgentMove} (h : v.before = 0) (n : ℕ) (x : Site) :
    v.after (n + 1) x =
      if v.newState = .submitted then
        enteredAfter v.missionId (n + 1 - v.entry) (x.changeMission v.missionId v.write)
      else x.changeMission v.missionId v.write := by
  rw [after, h, if_neg (Nat.not_succ_le_zero n)]

/-- The site after `n` steps of a call that may make a move. -/
def siteAfter (v : Option AgentMove) (n : ℕ) (x : Site) : Site :=
  match v with
  | some v => v.after n x
  | none => x

lemma siteAfter_later (v : Option AgentMove) (k n : ℕ) (x : Site) :
    siteAfter (v.map (later k)) (n + k) x = siteAfter v n x := by
  cases v with
  | none => rfl
  | some v => exact v.after_later k n x

/-- The steps before a move leave the site alone. -/
lemma siteAfter_early (v : Option AgentMove) {k n : ℕ} (h : n ≤ k) (x : Site) :
    siteAfter (v.map (later k)) n x = x := by
  cases v with
  | none => rfl
  | some v => exact if_pos (h.trans (Nat.le_add_left k v.before))

end AgentMove

namespace Transitions

/-- The move that an action comes to, counted from the conditional update. -/
def moving (action : MissionAction) (r : TransitionRequest) (missionId : Id) (mission : Mission)
    (newState : WorkflowState) : AgentMove where
  missionId
  mission
  newState
  write := advance action newState r.reason mission r.now
  before := 0
  entry := 3

lemma aloof_endSync (key : Option String) : (endSync key).EachStep Aloof := by
  cases key with
  | none => exact .pure ()
  | some k => exact Client.eachStep_updateUnique (fun _ => rfl) fun _ _ => rfl

lemma site_after_move {caseId missionId : Id} {mission : Mission} (action : MissionAction)
    (newState : WorkflowState) (r : TransitionRequest) (n : ℕ) {d : Db}
    (hdistinct : CasesDistinct d.mission) (hget : d.mission.get? missionId = some mission)
    (hcase : mission.caseId = caseId) :
    ((move caseId missionId mission action newState r).after n d).site =
      (moving action r missionId mission newState).after n d.site := by
  subst hcase
  rw [move]
  rcases n with _ | n
  · rw [Prog.after_zero]
    rfl
  rw [Client.after_updateMany_bind, show (Db.missions.get d).values = d.mission.values from rfl,
    if_neg (countP_isMissionIn_ne_zero hget), modifyWhere_isMissionIn hdistinct hget]
  have hrow : (Db.auditEvents.insert ⟨"MISSION_" ++ action.text, some missionId⟩
      (Db.missions.modify missionId (advance action newState r.reason mission r.now)
        d)).mission.get? missionId =
      some (advance action newState r.reason mission r.now mission) :=
    (Table.get?_modify_self _ _ _).trans (congrArg _ hget)
  rw [AgentMove.after_succ rfl]
  change _ = if newState = .submitted then enteredAfter missionId (n + 1 - 3) _ else _
  rcases n with _ | n
  · rw [Prog.after_zero]
    split <;> rfl
  rw [Client.findFirst, Client.after_query_bind]
  rcases n with _ | n
  · rw [Prog.after_zero]
    split <;> rfl
  rw [after_record_bind]
  by_cases hsubmitted : newState = .submitted
  · rw [if_pos hsubmitted, if_pos hsubmitted]
    exact site_after_enterQc mission.workflowState n hrow
  · rw [if_neg hsubmitted, if_neg hsubmitted]
    exact Prog.EachStep.after_eq (v := Db.site)
      (.bind (aloof_endSync _) fun _ => .pure _) n _

/-- The move of an action, if it makes one. -/
def movingOf (agentId caseId : Id) (action : MissionAction) (r : TransitionRequest) (d : Db) :
    Option AgentMove :=
  (target agentId caseId action r.reason d).map fun q => moving action r q.1 q.2.1 q.2.2

lemma site_after_transition (agentId caseId : Id) (action : MissionAction) (r : TransitionRequest)
    (n : ℕ) {d : Db} (hdistinct : CasesDistinct d.mission) :
    ((transition agentId caseId action r).after n d).site =
      AgentMove.siteAfter ((movingOf agentId caseId action r d).map (AgentMove.later 1)) n
        d.site := by
  rcases n with _ | n
  · rw [Prog.after_zero, AgentMove.siteAfter_early _ (Nat.zero_le 1)]
  rw [transition, movingOf, target, AgentMove.siteAfter_later, Client.findFirst,
    Client.after_query_bind]
  cases hfind : Db.missions.find (isMissionOf caseId) d with
  | none => exact congrArg Db.site (Prog.after_pure _ _ _)
  | some q =>
    obtain ⟨missionId, mission⟩ := q
    obtain ⟨hget, hof⟩ := TableOf.find_eq_some hfind
    dsimp only
    by_cases hagent : mission.agentId ≠ agentId
    · rw [if_pos hagent, if_pos hagent]
      exact congrArg Db.site (Prog.after_pure _ _ _)
    rw [if_neg hagent, if_neg hagent]
    by_cases hterminal : mission.workflowState ∈ terminalStates
    · obtain ⟨refusal, hrefusal⟩ := validateTransition_of_terminal hterminal action .agent r.reason
      rw [if_pos hterminal, hrefusal]
      exact congrArg Db.site (Prog.after_pure _ _ _)
    rw [if_neg hterminal]
    cases validateTransition mission.workflowState action .agent r.reason with
    | error refusal => exact congrArg Db.site (Prog.after_pure _ _ _)
    | ok newState =>
      exact site_after_move action newState r n hdistinct hget (of_decide_eq_true hof)

/-- The steps of a request with a key before the mission is read. -/
def syncSteps (r : TransitionRequest) : ℕ := if (nonEmpty r.idempotencyKey).isSome then 2 else 0

/-- The move that a request makes. -/
def moveOf (agentId : Id) (r : TransitionRequest) (d : Db) : Option AgentMove :=
  match r.caseId, r.action with
  | some caseId, some action =>
      if synced (nonEmpty r.idempotencyKey) d then none
      else ((movingOf agentId caseId action r d).map (AgentMove.later 1)).map
        (AgentMove.later (syncSteps r))
  | _, _ => none

/-- **How far a request comes.** -/
theorem site_after_POST (agentId : Id) (r : TransitionRequest) (n : ℕ) {d : Db}
    (hdistinct : CasesDistinct d.mission) :
    ((POST agentId r).after n d).site = AgentMove.siteAfter (moveOf agentId r d) n d.site := by
  rw [POST, Prog.after_tryCatch_pure, process, moveOf]
  cases r.caseId with
  | none => exact congrArg Db.site (Prog.after_pure _ _ _)
  | some caseId =>
  cases r.action with
  | none => exact congrArg Db.site (Prog.after_pure _ _ _)
  | some action =>
  dsimp only
  cases hkey : nonEmpty r.idempotencyKey with
  | none =>
    have hsteps : syncSteps r = 0 := by rw [syncSteps, hkey]; rfl
    rw [hsteps, synced, if_neg Bool.false_ne_true]
    exact (site_after_transition agentId caseId action r n hdistinct).trans
      (AgentMove.siteAfter_later _ 0 n d.site).symm
  | some k =>
    have hsteps : syncSteps r = 2 := by rw [syncSteps, hkey]; rfl
    rw [hsteps, beginSync]
    rcases n with _ | n
    · rw [Prog.after_zero]
      split
      · rfl
      · rw [AgentMove.siteAfter_early _ (Nat.zero_le 2)]
    rw [Prog.bind_assoc, Client.findFirst, Client.after_query_bind]
    by_cases hsynced : (Db.offlineQueueItems.find (hasQueueKey k) d).map (fun p => p.2.status) =
        some .synced
    · have hfound : synced (some k) d = true := decide_eq_true hsynced
      rw [if_pos hsynced, if_pos hfound]
      exact congrArg Db.site (Prog.after_pure _ _ _)
    · have hfound : ¬ synced (some k) d = true := fun h => hsynced (of_decide_eq_true h)
      rw [if_neg hsynced, if_neg hfound, Prog.bind_assoc]
      rcases n with _ | n
      · rw [Prog.after_zero, AgentMove.siteAfter_early _ (Nat.le_succ 1)]
      rw [Client.after_upsert_bind, AgentMove.siteAfter_later _ 2 n]
      -- What is written into the queue does not concern the missions.
      cases hfind : Db.offlineQueueItems.find (hasQueueKey k) d with
      | none => exact site_after_transition agentId caseId action r n hdistinct
      | some q => exact site_after_transition agentId caseId action r n hdistinct

end Transitions

/-! ## Submission and escalation beside the transitions -/

namespace AgentActions

/-- The move of a conditional update, counted from it. -/
def moving (f : WorkflowState → Mission → Mission) (missionId : Id) (mission : Mission)
    (newState : WorkflowState) : AgentMove where
  missionId
  mission
  newState
  write := f newState
  before := 0
  entry := 2

lemma site_after_move {f : WorkflowState → Mission → Mission}
    {follow : Id × Mission → Svc (Reply Answered)} {caseId missionId : Id} {mission : Mission}
    {newState : WorkflowState} {d : Db} (hdistinct : CasesDistinct d.mission)
    (hfind : Db.missions.find (isMissionOf caseId) d = some (missionId, mission))
    (hf : ∀ m, (f newState m).caseId = m.caseId)
    (hfollow : ∀ n, ((follow (missionId, f newState mission)).after n
      (Db.missions.modify missionId (f newState) d)).site =
        if newState = .submitted then
          enteredAfter missionId n (d.site.changeMission missionId (f newState))
        else d.site.changeMission missionId (f newState)) (n : ℕ) :
    ((move caseId mission (f newState) follow).after n d).site =
      (moving f missionId mission newState).after n d.site := by
  obtain ⟨hget, hof⟩ := TableOf.find_eq_some hfind
  obtain rfl : mission.caseId = caseId := of_decide_eq_true hof
  rw [move]
  rcases n with _ | n
  · rw [Prog.after_zero]
    rfl
  rw [Client.after_updateMany_bind, show (Db.missions.get d).values = d.mission.values from rfl,
    if_neg (countP_isMissionIn_ne_zero hget), modifyWhere_isMissionIn hdistinct hget,
    AgentMove.after_succ rfl]
  change _ = if newState = .submitted then enteredAfter missionId (n + 1 - 2) _ else _
  rcases n with _ | n
  · rw [Prog.after_zero]
    split <;> rfl
  rw [Client.findFirst, Client.after_query_bind, SubmitPaths.find_modify hfind hf]
  exact hfollow n

/-- The move that an action comes to. -/
def movingOf (missionId : Id) (mission : Mission) (c : Command) : Option AgentMove :=
  match c.asks with
  | .escalate reason =>
      (validateTransition mission.workflowState .escalate .agent (some reason)).toOption.map
        (moving (escalated c reason) missionId mission)
  | .submit =>
      (validateTransition mission.workflowState .submit .agent none).toOption.map
        (moving (submitted c.now) missionId mission)
  | .nothing => none

lemma site_after_act {caseId missionId : Id} {mission : Mission} {d : Db}
    (hdistinct : CasesDistinct d.mission)
    (hfind : Db.missions.find (isMissionOf caseId) d = some (missionId, mission)) (c : Command)
    (n : ℕ) :
    ((act caseId mission c).after n d).site =
      AgentMove.siteAfter (movingOf missionId mission c) n d.site := by
  have hget := (TableOf.find_eq_some hfind).1
  rw [act, movingOf]
  cases c.asks with
  | escalate reason =>
    dsimp only
    rw [escalate]
    cases hvalid : validateTransition mission.workflowState .escalate .agent (some reason) with
    | error refused => exact congrArg Db.site (Prog.after_pure _ _ _)
    | ok newState =>
      refine site_after_move (f := escalated c reason) hdistinct hfind (fun _ => rfl)
        (fun n => ?_) n
      rw [if_neg (Transitions.ne_submitted_of_escalate hvalid)]
      refine (Prog.EachStep.after_eq (v := Db.site) ?_ n _).trans rfl
      exact .bind (eachStep_record fun _ => rfl) fun _ => .pure _
  | submit =>
    dsimp only
    rw [submit]
    cases validateTransition mission.workflowState .submit .agent none with
    | error refused => exact congrArg Db.site (Prog.after_pure _ _ _)
    | ok newState =>
      refine site_after_move (f := submitted c.now) hdistinct hfind (fun _ => rfl) (fun n => ?_) n
      have hrow : (Db.missions.modify missionId (submitted c.now newState) d).mission.get?
          missionId = some (submitted c.now newState mission) :=
        (Table.get?_modify_self _ _ _).trans (congrArg _ hget)
      dsimp only
      by_cases hsubmitted : newState = .submitted
      · rw [if_pos hsubmitted, if_pos hsubmitted]
        exact site_after_enterQc n hrow
      · rw [if_neg hsubmitted, if_neg hsubmitted]
        refine (Prog.EachStep.after_eq (v := Db.site) ?_ n _).trans rfl
        exact .bind (eachStep_record fun _ => rfl) fun _ => .pure _
  | nothing => exact congrArg Db.site (Prog.after_pure _ _ _)

/-- The move that a command makes. -/
def moveOf (agentId : Id) (c : Command) (d : Db) : Option AgentMove :=
  match c.caseId with
  | none => none
  | some caseId =>
      match Db.missions.find (isMissionOf caseId) d with
      | none => none
      | some (missionId, mission) =>
          if mission.agentId ≠ agentId then none
          else (movingOf missionId mission c).map (AgentMove.later 1)

/-- **How far a command comes.** -/
theorem site_after_PUT (agentId : Id) (c : Command) (n : ℕ) {d : Db}
    (hdistinct : CasesDistinct d.mission) :
    ((PUT agentId c).after n d).site = AgentMove.siteAfter (moveOf agentId c d) n d.site := by
  rw [PUT, Prog.after_tryCatch_pure, process, moveOf]
  cases c.caseId with
  | none => cases n <;> rfl
  | some caseId =>
    dsimp only
    rcases n with _ | n
    · rw [Prog.after_zero]
      cases Db.missions.find (isMissionOf caseId) d with
      | none => rfl
      | some q =>
        dsimp only
        split
        · rfl
        · rw [AgentMove.siteAfter_early _ (Nat.zero_le 1)]
    rw [Client.findFirst, Client.after_query_bind]
    cases hfind : Db.missions.find (isMissionOf caseId) d with
    | none => exact congrArg Db.site (Prog.after_pure _ _ _)
    | some q =>
      dsimp only
      by_cases hagent : q.2.agentId ≠ agentId
      · rw [if_pos hagent, if_pos hagent]
        exact congrArg Db.site (Prog.after_pure _ _ _)
      · rw [if_neg hagent, if_neg hagent, AgentMove.siteAfter_later]
        exact site_after_act hdistinct hfind c n

end AgentActions

/-! ## The commands of an administrator -/

def Site.changeReview (reviewId : Id) (f : QcReview → QcReview) (x : Site) : Site :=
  { x with reviews := x.reviews.modify reviewId f }

namespace QualityControl

open Completion

lemma aloof_addEarnings (missionId : Id) (mission : Mission) :
    (addEarnings missionId mission).EachStep Aloof := by
  refine .bind aloof_query fun found => ?_
  cases found with
  | none =>
    exact .bind (Client.eachStep_createUnique (fun _ => rfl) fun _ => rfl) fun _ => .pure _
  | some q =>
    exact .bind (Client.eachStep_update fun _ => rfl) fun _ => eachStep_record fun _ => rfl

lemma aloof_payEarnings (missionId : Id) (mission : Mission) :
    (payEarnings missionId mission).EachStep Aloof := by
  refine .bind (eachStep_seedChartOfAccounts fun _ _ => rfl) fun _ =>
    .bind (eachStep_postJournalEntry (fun _ _ => rfl) (fun _ _ => rfl) (fun _ _ => rfl) _ _ _ _)
      fun result => .bind (eachStep_postJournalEntry (fun _ _ => rfl) (fun _ _ => rfl)
        (fun _ _ => rfl) _ _ _ _) fun _ => .bind ?_ fun _ => Client.eachStep_update fun _ => rfl
  cases result.success with
  | true => exact aloof_addEarnings missionId mission
  | false => exact .pure _

/-- The site after `n` steps of what an action asks for beside the review. -/
def followedAfter (action : QcAction) (missionId reviewId : Id) (now : Time) (gate : CompletionGate)
    (n : ℕ) (x : Site) : Site :=
  match action with
  | .approve =>
      let y := x.changeReview reviewId fun r => { r with gateResults := some gate }
      if n ≤ 2 then x
      else if n = 3 then y
      else y.changeMission missionId (concluded .approve now)
  | .requestRework =>
      if n = 0 then x else x.changeMission missionId (concluded .requestRework now)
  | .reject => if n = 0 then x else x.changeMission missionId (concluded .reject now)
  | _ => x

section Follow

variable {caseId missionId reviewId : Id} {mission : Mission} {now : Time} {d : Db}

lemma site_after_approve (n : ℕ) (hget : d.mission.get? missionId = some mission)
    (hreview : (d.qcReview.get? reviewId).isSome) :
    ((approve caseId missionId mission reviewId now).after n d).site =
      followedAfter .approve missionId reviewId now (gate missionId mission d) n d.site := by
  obtain ⟨review, hreview⟩ := Option.isSome_iff_exists.mp hreview
  rw [approve]
  rcases n with _ | n
  · rw [Prog.after_zero]
    rfl
  rw [Client.after_query_bind]
  rcases n with _ | n
  · rw [Prog.after_zero]
    rfl
  rw [Client.after_query_bind]
  rcases n with _ | n
  · rw [Prog.after_zero]
    rfl
  rw [Client.after_update_bind (r := Db.qcReviews) n d hreview]
  rcases n with _ | n
  · rw [Prog.after_zero]
    rfl
  rw [complete, Prog.bind_assoc]
  refine (congrArg Db.site (Client.after_update_bind (r := Db.missions) (b := mission) n _
    ?_)).trans ?_
  · exact hget
  refine (Prog.EachStep.after_eq (v := Db.site) ?_ n _).trans rfl
  refine .bind (Client.eachStep_update fun _ => rfl) fun _ => ?_
  split
  · exact .bind (aloof_payEarnings missionId mission) fun _ => .pure _
  · exact .pure _

lemma site_after_conclude (state : WorkflowState) (f : Case → Case) (n : ℕ)
    (hget : d.mission.get? missionId = some mission) :
    ((conclude caseId missionId state f).after n d).site =
      if n = 0 then d.site
      else d.site.changeMission missionId fun m => { m with workflowState := state } := by
  rw [conclude]
  rcases n with _ | n
  · rw [Prog.after_zero, if_pos rfl]
  rw [Client.after_update_bind n d hget, if_neg (Nat.succ_ne_zero n)]
  exact (Prog.EachStep.after_eq (v := Db.site)
    (.bind (Client.eachStep_update fun _ => rfl) fun _ => .pure _) n _).trans rfl

lemma site_after_follow (action : QcAction) (n : ℕ)
    (hget : d.mission.get? missionId = some mission)
    (hreview : (d.qcReview.get? reviewId).isSome) :
    ((follow action caseId missionId mission reviewId now).after n d).site =
      followedAfter action missionId reviewId now (gate missionId mission d) n d.site := by
  cases action with
  | approve => exact site_after_approve n hget hreview
  | requestRework => exact site_after_conclude _ _ n hget
  | reject => exact site_after_conclude _ _ n hget
  | startReview => exact congrArg Db.site (Prog.after_pure _ _ _)
  | resubmit => exact congrArg Db.site (Prog.after_pure _ _ _)
  | other text => exact congrArg Db.site (Prog.after_pure _ _ _)

end Follow

/-- The site after `n` steps of an action on the current review. -/
def actedAfter (c : Command) (action : QcAction) (missionId reviewId : Id) (current : QcReview)
    (gate : CompletionGate) (n : ℕ) (x : Site) : Site :=
  match validateQcTransition current.state action .operations c.reason with
  | .error _ => x
  | .ok newState =>
      if n = 0 then x
      else followedAfter action missionId reviewId c.now gate (n - 1)
        (x.changeReview reviewId (reviewed c action newState))

lemma site_after_act (c : Command) (action : QcAction) {missionId reviewId : Id} {mission : Mission}
    {current : QcReview} {d : Db} (n : ℕ) (hget : d.mission.get? missionId = some mission)
    (hreview : d.qcReview.get? reviewId = some current) :
    ((act c action missionId mission reviewId current).after n d).site =
      actedAfter c action missionId reviewId current (gate missionId mission d) n d.site := by
  rw [act, actedAfter]
  cases validateQcTransition current.state action .operations c.reason with
  | error refusal => exact congrArg Db.site (Prog.after_pure _ _ _)
  | ok newState =>
    dsimp only
    rcases n with _ | n
    · rw [Prog.after_zero, if_pos rfl]
    rw [Client.after_update_bind (r := Db.qcReviews) n d hreview, if_neg (Nat.succ_ne_zero n)]
    -- The record of the action comes last.
    refine (Prog.after_bind_of_eachStep (v := Db.site) _ (fun _ => ?_) n _).trans ?_
    · exact .bind (eachStep_record fun _ => rfl) fun _ => .pure _
    refine site_after_follow action n hget ?_
    have hrow : (Db.qcReviews.modify reviewId (reviewed c action newState) d).qcReview.get?
        reviewId = some (reviewed c action newState current) :=
      (Table.get?_modify_self _ _ _).trans (congrArg _ hreview)
    rw [hrow, Option.isSome_some]

lemma actedAfter_zero (c : Command) (action : QcAction) (missionId reviewId : Id)
    (current : QcReview) (gate : CompletionGate) (x : Site) :
    actedAfter c action missionId reviewId current gate 0 x = x := by
  rw [actedAfter]
  split <;> rfl

/-- The first review of a mission, which a command creates if there is none. -/
def firstReview (missionId : Id) : QcReview := { missionId, cycleNumber := 1, state := .pending }

/-- The site after `n` steps of an action on a mission. -/
def takenAfter (c : Command) (action : QcAction) (missionId : Id) (mission : Mission) (d : Db)
    (n : ℕ) : Site :=
  match lastReview missionId d.qcReview with
  | some (reviewId, current) =>
      actedAfter c action missionId reviewId current (gate missionId mission d) (n - 2) d.site
  | none =>
      if n ≤ 3 then d.site
      else actedAfter c action missionId d.qcReview.next (firstReview missionId)
        (gate missionId mission d) (n - 4) (d.site.addReview (firstReview missionId))

/-- **How far a command comes.** -/
theorem site_after_POST (c : Command) (n : ℕ) (d : Db) :
    ((POST c).after n d).site =
      match c.action, missionOf c.caseId d with
      | some action, some (missionId, mission) => takenAfter c action missionId mission d n
      | _, _ => d.site := by
  rw [POST, Prog.after_tryCatch_pure, process]
  cases c.action with
  | none => exact congrArg Db.site (Prog.after_pure _ _ _)
  | some action =>
    dsimp only
    cases hmission : missionOf c.caseId d with
    | none =>
      rcases n with _ | n
      · rw [Prog.after_zero]
      · rw [Client.after_query_bind, hmission]
        exact congrArg Db.site (Prog.after_pure _ _ _)
    | some q =>
      obtain ⟨missionId, mission⟩ := q
      have hget := (missionOf_eq_some hmission).2
      dsimp only
      rw [takenAfter]
      rcases n with _ | n
      · rw [Prog.after_zero]
        split
        · rw [actedAfter_zero]
        · rfl
      rw [Client.after_query_bind, hmission]
      dsimp only
      rw [openReview, Prog.bind_assoc, findLastReview]
      rcases n with _ | n
      · rw [Prog.after_zero]
        split
        · rw [actedAfter_zero]
        · rfl
      rw [Client.after_query_bind]
      cases hlast : lastReview missionId d.qcReview with
      | some p =>
        have hreview := (missionId_of_lastReview hlast).1
        exact site_after_act c action n hget hreview
      | none =>
        dsimp only
        rw [Prog.bind_assoc]
        rcases n with _ | n
        · rw [Prog.after_zero, if_pos (by decide)]
        rw [Client.after_query_bind, Prog.bind_assoc]
        rcases n with _ | n
        · rw [Prog.after_zero, if_pos (by decide)]
        rw [Client.after_create_bind, hlast, if_neg (by omega)]
        exact site_after_act c action (d := Db.qcReviews.insert (firstReview missionId) d) n hget
          (Table.get?_insert_self _ _)

end QualityControl

end Asoju.FieldForce
