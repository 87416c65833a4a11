/-
Two ways to submit a mission and to escalate it.

`PUT /api/missions` checks and moves a mission by code of its own, beside the route of the
transitions.  Both answer as `verdict` says: what the mission, its owner and the map of the workflow
make of the action.  `paths_agree` says that the two succeed together or fail with the same code,
and that they leave the same course of the mission and the same reviews.
-/
import Asoju.FieldForce.MissionMoves
import Mathlib.Data.List.TakeWhile

namespace Asoju.FieldForce

open Lib

namespace Reply

variable {β : Type}

/-- The code of an error: its text up to the first colon. -/
def errorCode (r : Reply β) : Option String :=
  match r.body with
  | .ok _ => none
  | .error text => some (String.ofList (text.toList.takeWhile (· ≠ ':')))

variable {code : String}

lemma errorCode_error (h : ∀ c ∈ code.toList, c ≠ ':') (status : ℕ) :
    (Reply.error status code : Reply β).errorCode = some code := by
  have hwhole : code.toList.takeWhile (· ≠ ':') = code.toList :=
    List.takeWhile_eq_self_iff.mpr fun c hc => decide_eq_true (h c hc)
  change some (String.ofList (code.toList.takeWhile (· ≠ ':'))) = some code
  rw [hwhole, String.ofList_toList]

lemma errorCode_refused (h : ∀ c ∈ code.toList, c ≠ ':') (status : ℕ) (message : String) :
    (Reply.refused status code message : Reply β).errorCode = some code := by
  have htext : (s!"{code}: {message}").toList = code.toList ++ ':' :: ' ' :: message.toList := by
    simp [toString]
  have hcode : (s!"{code}: {message}").toList.takeWhile (· ≠ ':') = code.toList := by
    rw [htext, List.takeWhile_append_of_pos fun c hc => decide_eq_true (h c hc)]
    simp
  change some (String.ofList ((s!"{code}: {message}").toList.takeWhile (· ≠ ':'))) = some code
  rw [hcode, String.ofList_toList]

end Reply

/-- No code has a colon. -/
lemma MissionTransitionError.ne_colon (e : MissionTransitionError) :
    ∀ c ∈ e.text.toList, c ≠ ':' := by
  cases e <;> simp [MissionTransitionError.text]

namespace SubmitPaths

/-! ## The verdict -/

/-- What the map makes of an action in the state of the mission. -/
def allowed (missionId : Id) (mission : Mission) (action : MissionAction)
    (reason : Option String) : Except MissionTransitionError (Id × Mission × WorkflowState) :=
  match validateTransition mission.workflowState action .agent reason with
  | .ok newState => .ok (missionId, mission, newState)
  | .error refused => .error refused.error

/-- What the mission, its owner and the map make of an action: the mission and the state that the
action leads to, or the code of the refusal. -/
def verdict (agentId caseId : Id) (action : MissionAction) (reason : Option String) (d : Db) :
    Except MissionTransitionError (Id × Mission × WorkflowState) :=
  match Db.missions.find (isMissionOf caseId) d with
  | none => .error .missionNotFound
  | some (missionId, mission) =>
      if mission.agentId ≠ agentId then .error .agentOwnershipRequired
      else allowed missionId mission action reason

/-- A call answers as the verdict says, and a refusal leaves the site as it is. -/
def Answers {β : Type} (v : Except MissionTransitionError (Id × Mission × WorkflowState))
    (moved : Id × Mission × WorkflowState → Site → Site) (d : Db) (reply : Reply β) (d' : Db) :
    Prop :=
  match v with
  | .ok x => reply.errorCode = none ∧ d'.site = moved x d.site
  | .error e => reply.errorCode = some e.text ∧ d'.site = d.site

section Refused

variable {β : Type} {e : MissionTransitionError}
  {moved : Id × Mission × WorkflowState → Site → Site} {d : Db}

lemma answers_refused (status : ℕ) (message : String) :
    Answers (.error e) moved d (.refused status e.text message : Reply β) d :=
  ⟨Reply.errorCode_refused e.ne_colon status message, rfl⟩

lemma answers_error (status : ℕ) :
    Answers (.error e) moved d (.error status e.text : Reply β) d :=
  ⟨Reply.errorCode_error e.ne_colon status, rfl⟩

end Refused

/-! ## The route of the transitions -/

section Transitions

open Transitions

lemma errorCode_of_success {β : Type} {reply : Reply β} (h : reply.Success) :
    reply.errorCode = none := by
  rw [Reply.errorCode]
  rw [Reply.Success] at h
  cases hbody : reply.body with
  | ok body => rfl
  | error text =>
    rw [hbody] at h
    cases h

/-- A request without a key answers as the verdict says. -/
lemma POST_answers (agentId : Id) {caseId : Id} {action : MissionAction} {r : TransitionRequest}
    {d : Db} (hdistinct : CasesDistinct d.mission) (hcase : r.caseId = some caseId)
    (haction : r.action = some action) (hkey : r.idempotencyKey = none) :
    (POST agentId r).Returns d (Answers (verdict agentId caseId action r.reason d)
      (fun x => moved r x.1 x.2.1 action x.2.2) d) := by
  refine .tryCatch ?_
  rw [process, hcase, haction, hkey]
  have hunkeyed : (pure false : Svc Bool).run d = (.ok false, d) := Prog.run_pure _ _
  refine .bind_run hunkeyed ?_
  change (transition agentId caseId action r).Returns d _
  rw [transition, verdict]
  refine .bind_run (Client.run_findFirst _ _ _) ?_
  cases hfind : Db.missions.find (isMissionOf caseId) d with
  | none => exact .of_run (Prog.run_pure _ _) (answers_refused _ _)
  | some q =>
    obtain ⟨missionId, mission⟩ := q
    obtain ⟨hget, hof⟩ := TableOf.find_eq_some hfind
    dsimp only
    by_cases hagent : mission.agentId ≠ agentId
    · rw [if_pos hagent, if_pos hagent]
      exact .of_run (Prog.run_pure _ _) (answers_refused _ _)
    rw [if_neg hagent, if_neg hagent]
    by_cases hterminal : mission.workflowState ∈ terminalStates
    · -- The check of the terminal states comes first, with the code of the map.
      obtain ⟨message, hrefused⟩ := validateTransition_of_terminal hterminal action .agent r.reason
      rw [if_pos hterminal, allowed, hrefused]
      exact .of_run (Prog.run_pure _ _) (answers_refused _ _)
    rw [if_neg hterminal, allowed]
    cases validateTransition mission.workflowState action .agent r.reason with
    | error refused => exact .of_run (Prog.run_pure _ _) (answers_refused _ _)
    | ok newState =>
      have hqueued : Queued (nonEmpty r.idempotencyKey) d.offlineQueue := by
        rw [hkey]
        rintro k ⟨⟩
      refine (move_returns action newState r hdistinct hget (of_decide_eq_true hof) hqueued).mono ?_
      intro reply d' h
      exact ⟨errorCode_of_success h.1, h.2.1⟩

end Transitions

/-! ## The other route -/

section Actions

open AgentActions

/-- A mission is found by its case after a change that leaves it with its case. -/
lemma find_modify {d : Db} {caseId missionId : Id} {mission : Mission}
    (hfind : Db.missions.find (isMissionOf caseId) d = some (missionId, mission))
    {f : Mission → Mission} (hf : ∀ m, (f m).caseId = m.caseId) :
    Db.missions.find (isMissionOf caseId) (Db.missions.modify missionId f d) =
      some (missionId, f mission) := by
  have hsearch := Table.find?_mapRows d.mission (q := isMissionOf caseId)
    (f := fun j m => if j = missionId then f m else m) fun j m => by
      split
      · rw [isMissionOf, hf, isMissionOf]
      · rfl
  have hrow : (d.mission.rows.find? fun p => isMissionOf caseId p.2) = some (missionId, mission) :=
    hfind
  rw [hrow, Option.map_some, if_pos rfl] at hsearch
  exact hsearch

/-- The conditional update finds the mission that has been read, and only that. -/
lemma move_returns {d : Db} {caseId missionId : Id} {mission : Mission} {f : Mission → Mission}
    {follow : Id × Mission → Svc (Reply Answered)} {Q : Reply Answered → Db → Prop}
    (hdistinct : CasesDistinct d.mission)
    (hfind : Db.missions.find (isMissionOf caseId) d = some (missionId, mission))
    (hf : ∀ m, (f m).caseId = m.caseId)
    (h : (follow (missionId, f mission)).Returns (Db.missions.modify missionId f d) Q) :
    (move caseId mission f follow).Returns d Q := by
  obtain ⟨hget, hof⟩ := TableOf.find_eq_some hfind
  obtain rfl : mission.caseId = caseId := of_decide_eq_true hof
  rw [move]
  refine .bind_run (Client.run_updateMany _ _ _ _) ?_
  rw [show (Db.missions.get d).values = d.mission.values from rfl,
    if_neg (countP_isMissionIn_ne_zero hget), modifyWhere_isMissionIn hdistinct hget]
  refine .bind_run (Client.run_findFirst _ _ _) ?_
  rw [find_modify hfind hf]
  exact h

lemma enterQc_returns {d : Db} {caseId missionId : Id} {mission : Mission}
    (hget : d.mission.get? missionId = some mission) :
    (enterQc caseId missionId).Returns d fun reply d' =>
      reply.errorCode = none ∧ d'.site = Transitions.entered missionId d.site := by
  rw [enterQc]
  refine .bind_run (Client.run_update_of_some (r := Db.missions) hget _ _)
    (.bind_run (Client.run_query _ _ _) (.bind_run (run_record _ _ _) ?_))
  have hrow : (Db.missions.modify missionId (fun m => { m with workflowState := .qcReview })
      d).mission.get? missionId = some { mission with workflowState := .qcReview } :=
    (Table.get?_modify_self _ _ _).trans (congrArg _ hget)
  refine Client.returns_update_bind hrow (.bind_run (Client.run_findFirst _ _ _)
    (.bind_run (run_record _ _ _) (.bind_run (run_record _ _ _) ?_)))
  exact .of_run (Prog.run_pure _ _) ⟨rfl, rfl⟩

/-- The site after a submission. -/
def submittedSite (now : Time) (x : Id × Mission × WorkflowState) (site : Site) : Site :=
  let next := site.changeMission x.1 (submitted now x.2.2)
  if x.2.2 = .submitted then Transitions.entered x.1 next else next

/-- The lookup of the mission and the check of its owner come first. -/
lemma PUT_answers {agentId caseId : Id} {c : Command} {action : MissionAction}
    {reason : Option String} {d : Db} {moved : Id × Mission × WorkflowState → Site → Site}
    (hcase : c.caseId = some caseId)
    (hact : ∀ missionId mission,
      Db.missions.find (isMissionOf caseId) d = some (missionId, mission) →
      (act caseId mission c).Returns d
        (Answers (allowed missionId mission action reason) moved d)) :
    (PUT agentId c).Returns d (Answers (verdict agentId caseId action reason d) moved d) := by
  refine .tryCatch ?_
  rw [process, hcase, verdict]
  refine .bind_run (Client.run_findFirst _ _ _) ?_
  cases hfind : Db.missions.find (isMissionOf caseId) d with
  | none => exact .of_run (Prog.run_pure _ _) (answers_error _)
  | some q =>
    obtain ⟨missionId, mission⟩ := q
    dsimp only
    by_cases hagent : mission.agentId ≠ agentId
    · rw [if_pos hagent, if_pos hagent]
      exact .of_run (Prog.run_pure _ _) (answers_error _)
    rw [if_neg hagent, if_neg hagent]
    exact hact missionId mission hfind

/-- A submission answers as the verdict says. -/
lemma PUT_submit_answers (agentId : Id) {caseId : Id} {c : Command} {d : Db}
    (hdistinct : CasesDistinct d.mission) (hcase : c.caseId = some caseId)
    (haction : c.action = "submit") :
    (PUT agentId c).Returns d
      (Answers (verdict agentId caseId .submit none d) (submittedSite c.now) d) := by
  refine PUT_answers hcase fun missionId mission hfind => ?_
  have hact : act caseId mission c = submit caseId mission c := by
    rw [act, Command.asks, haction]
    rfl
  rw [hact, submit, allowed]
  cases validateTransition mission.workflowState .submit .agent none with
  | error refused => exact .of_run (Prog.run_pure _ _) (answers_refused _ _)
  | ok newState =>
    refine move_returns hdistinct hfind (fun _ => rfl) ?_
    have hget := (TableOf.find_eq_some hfind).1
    dsimp only
    by_cases hsubmitted : newState = .submitted
    · rw [if_pos hsubmitted]
      have hrow : (Db.missions.modify missionId (submitted c.now newState) d).mission.get?
          missionId = some (submitted c.now newState mission) :=
        (Table.get?_modify_self _ _ _).trans (congrArg _ hget)
      refine (enterQc_returns hrow).mono fun reply d' h => ⟨h.1, h.2.trans ?_⟩
      exact (if_pos hsubmitted).symm
    · rw [if_neg hsubmitted]
      refine .bind_run (run_record _ _ _) (.of_run (Prog.run_pure _ _) ⟨rfl, ?_⟩)
      exact (if_neg hsubmitted).symm

/-- An escalation with a reason answers as the verdict says. -/
lemma PUT_escalate_answers (agentId : Id) {caseId : Id} {c : Command} {reason : String} {d : Db}
    (hdistinct : CasesDistinct d.mission) (hcase : c.caseId = some caseId)
    (haction : c.action = "escalate") (hreason : nonEmpty c.reason = some reason) :
    (PUT agentId c).Returns d (Answers (verdict agentId caseId .escalate (some reason) d)
      (fun x => Site.changeMission x.1 (escalated c reason x.2.2)) d) := by
  refine PUT_answers hcase fun missionId mission hfind => ?_
  have hact : act caseId mission c = escalate caseId mission reason c := by
    rw [act, Command.asks, haction, hreason]
    rfl
  rw [hact, escalate, allowed]
  cases validateTransition mission.workflowState .escalate .agent (some reason) with
  | error refused => exact .of_run (Prog.run_pure _ _) (answers_refused _ _)
  | ok newState =>
    refine move_returns hdistinct hfind (fun _ => rfl) ?_
    exact .bind_run (run_record _ _ _) (.of_run (Prog.run_pure _ _) ⟨rfl, rfl⟩)

end Actions

/-! ## The two routes -/

/-- What an agent asks of either route. -/
inductive Order
  | submit
  | escalate (reason : String)

namespace Order

/-- The order as a command to `PUT /api/missions`. -/
def command (o : Order) (caseId : Id) (escalationType severity : Option String) (now : Time) :
    AgentActions.Command :=
  match o with
  | submit => { caseId := some caseId, action := "submit", escalationType, severity, now }
  | escalate reason =>
      { caseId := some caseId, action := "escalate", reason := some reason, escalationType,
        severity, now }

/-- The order as a request to `POST /api/missions/transition`. -/
def request (o : Order) (caseId : Id) (now : Time) : Transitions.TransitionRequest :=
  match o with
  | submit => { caseId := some caseId, action := some .submit, now }
  | escalate reason =>
      { caseId := some caseId, action := some .escalate, reason := some reason, now }

end Order

/-- What either route says of the course of a mission. -/
structure Course where
  workflowState : WorkflowState
  submittedAt : Option Time
  escalated : Bool
  escalationReason : Option String
  escalatedAt : Option Time
  qcReviewCount : ℕ

def Course.of (m : Mission) : Course where
  workflowState := m.workflowState
  submittedAt := m.submittedAt
  escalated := m.escalated
  escalationReason := m.escalationReason
  escalatedAt := m.escalatedAt
  qcReviewCount := m.qcReviewCount

/-- Two sites with the same reviews, and the same courses of the missions. -/
def SameCourse (x y : Site) : Prop :=
  x.reviews = y.reviews ∧
    ∀ i, (x.missions.get? i).map Course.of = (y.missions.get? i).map Course.of

lemma SameCourse.refl (x : Site) : SameCourse x x := ⟨rfl, fun _ => rfl⟩

/-- Changes that write the same course. -/
lemma sameCourse_changeMission (x : Site) (i : Id) {f g : Mission → Mission}
    (h : ∀ m, Course.of (f m) = Course.of (g m)) :
    SameCourse (x.changeMission i f) (x.changeMission i g) := by
  refine ⟨rfl, fun j => ?_⟩
  simp only [Site.changeMission, Table.get?_modify]
  split
  · cases x.missions.get? j with
    | none => rfl
    | some m => exact congrArg some (h m)
  · rfl

/-- Answers to one verdict, with moves that write the same course. -/
lemma answers_agree {β γ : Type} {v : Except MissionTransitionError (Id × Mission × WorkflowState)}
    {moved moved' : Id × Mission × WorkflowState → Site → Site} {d d₁ d₂ : Db} {reply : Reply β}
    {reply' : Reply γ} (h : Answers v moved d reply d₁) (h' : Answers v moved' d reply' d₂)
    (hmoved : ∀ x, v = .ok x → SameCourse (moved x d.site) (moved' x d.site)) :
    reply.errorCode = reply'.errorCode ∧ SameCourse d₁.site d₂.site := by
  cases v with
  | ok x =>
    refine ⟨h.1.trans h'.1.symm, ?_⟩
    rw [h.2, h'.2]
    exact hmoved x rfl
  | error e =>
    refine ⟨h.1.trans h'.1.symm, ?_⟩
    rw [h.2, h'.2]
    exact SameCourse.refl d.site

/-- An escalation does not submit. -/
lemma verdict_escalate_ne_submitted {agentId caseId : Id} {reason : Option String} {d : Db}
    {x : Id × Mission × WorkflowState} (h : verdict agentId caseId .escalate reason d = .ok x) :
    x.2.2 ≠ .submitted := by
  rw [verdict] at h
  split at h
  · cases h
  · split_ifs at h with hagent
    rw [allowed] at h
    split at h
    · rename_i hvalid
      cases h
      exact Transitions.ne_submitted_of_escalate hvalid
    · cases h

/-- **The two routes agree**: whoever asks for a submission, or for an escalation with a reason, and
whatever the mission has been through, both succeed or fail with one code, and they leave the same
course of the missions and the same reviews. -/
theorem paths_agree {d : Db} (hdistinct : CasesDistinct d.mission) (agentId caseId : Id) (o : Order)
    (hreason : o ≠ .escalate "") (escalationType severity : Option String) (now : Time) :
    ∃ reply d₁ reply' d₂,
      (AgentActions.PUT agentId (o.command caseId escalationType severity now)).run d =
        (.ok reply, d₁) ∧
      (Transitions.POST agentId (o.request caseId now)).run d = (.ok reply', d₂) ∧
      reply.errorCode = reply'.errorCode ∧ SameCourse d₁.site d₂.site := by
  cases o with
  | submit =>
    obtain ⟨reply, d₁, hput, hanswers⟩ := PUT_submit_answers agentId
      (c := Order.submit.command caseId escalationType severity now) hdistinct rfl rfl
    obtain ⟨reply', d₂, hpost, hanswers'⟩ := POST_answers agentId
      (r := Order.submit.request caseId now) hdistinct rfl rfl rfl
    refine ⟨reply, d₁, reply', d₂, hput, hpost, answers_agree hanswers hanswers' fun x _ => ?_⟩
    exact SameCourse.refl _
  | escalate reason =>
    have hne : nonEmpty (some reason) = some reason := by
      have htext : reason ≠ "" := fun h => hreason (congrArg _ h)
      simp [nonEmpty, htext]
    obtain ⟨reply, d₁, hput, hanswers⟩ := PUT_escalate_answers agentId
      (c := (Order.escalate reason).command caseId escalationType severity now) hdistinct rfl rfl
      hne
    obtain ⟨reply', d₂, hpost, hanswers'⟩ := POST_answers agentId
      (r := (Order.escalate reason).request caseId now) hdistinct rfl rfl rfl
    refine ⟨reply, d₁, reply', d₂, hput, hpost, answers_agree hanswers hanswers' fun x hx => ?_⟩
    simp only [Transitions.moved, if_neg (verdict_escalate_ne_submitted hx)]
    refine sameCourse_changeMission d.site x.1 fun m => ?_
    simp only [Course.of, AgentActions.escalated, Transitions.advance, Order.request,
      Order.command, hne]

/-- A mission that has been sent back once and is about to be submitted again. -/
def reworked : Db where
  mission := Table.empty.insert
    { caseId := 0, agentId := 0, payoutAmount := 100, netPayout := 90
      workflowState := .submitting, qcReviewCount := 1 }
  qcReview := Table.empty.insert { missionId := 0, state := .rejected }

/-- The two routes submit it to its second review. -/
theorem paths_agree_reworked :
    ∃ reply d₁ reply' d₂,
      (AgentActions.PUT 0 (Order.submit.command 0 none none 5)).run reworked = (.ok reply, d₁) ∧
      (Transitions.POST 0 (Order.submit.request 0 5)).run reworked = (.ok reply', d₂) ∧
      reply.errorCode = reply'.errorCode ∧ SameCourse d₁.site d₂.site :=
  paths_agree casesDistinct_singleton 0 0 .submit nofun none none 5

end SubmitPaths

end Asoju.FieldForce
