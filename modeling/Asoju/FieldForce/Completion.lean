/-
When a mission is COMPLETED.

The last review of a mission is IN_REVIEW only while the mission is in QC_REVIEW (`Held`), as long as
no review is started for a mission in another state.  `gated_run` says that then a mission enters
COMPLETED from QC_REVIEW alone, with its gate if each approval finds the gate passing, and that the
reviews leave every mission alone that is not in QC_REVIEW.
-/
import Asoju.FieldForce.MissionBooks
import Asoju.FieldForce.MissionGuards

namespace Asoju.FieldForce

open Lib

namespace Completion

open QualityControl

/-! ## The last review -/

/-- A change that leaves the order of the elements leaves the place of the greatest one. -/
lemma argmax_map {α : Type} {f : α → ℕ} {g : α → α} (h : ∀ a, f (g a) = f a) (l : List α) :
    (l.map g).argmax f = (l.argmax f).map g := by
  induction l using List.reverseRecOn with
  | nil => rfl
  | append_singleton l a ih =>
    rw [List.map_append, List.map_singleton, List.argmax_concat, List.argmax_concat, ih, h]
    cases l.argmax f with
    | none => rfl
    | some b =>
      simp only [Option.map_some, h]
      split <;> rfl

section LastReview

variable {missionId : Id} {reviews : Table QcReview}

lemma missionId_of_lastReview {q : Id × QcReview} (h : lastReview missionId reviews = some q) :
    reviews.get? q.1 = some q.2 ∧ q.2.missionId = missionId := by
  obtain ⟨hmem, hq⟩ := List.mem_filter.mp (List.argmax_mem h)
  exact ⟨(Table.mem_rows_iff _).mp hmem, of_decide_eq_true hq⟩

/-- A review of another mission. -/
lemma lastReview_insert_of_ne {r : QcReview} (h : r.missionId ≠ missionId) :
    lastReview missionId (reviews.insert r) = lastReview missionId reviews := by
  rw [lastReview, Table.rows_insert, List.filter_append, List.filter_singleton]
  simp [h, lastReview]

/-- The next review of the mission. -/
lemma lastReview_insert_self {r : QcReview} (h : r.missionId = missionId)
    (hcycle : r.cycleNumber = nextCycle (lastReview missionId reviews)) :
    lastReview missionId (reviews.insert r) = some (reviews.next, r) := by
  rw [lastReview, Table.rows_insert, List.filter_append, List.filter_singleton]
  simp only [h, decide_true, cond_true, List.argmax_concat]
  rw [nextCycle, lastReview] at hcycle
  cases hlast : (reviews.rows.filter fun p => p.2.missionId = missionId).argmax
      fun p => p.2.cycleNumber with
  | none => rfl
  | some q =>
    rw [hlast] at hcycle
    have hlt : q.2.cycleNumber < r.cycleNumber := by
      rw [hcycle, Option.map_some, Option.getD_some]
      exact Nat.lt_succ_self _
    simp only [if_pos hlt]

/-- A change of a review that leaves its mission and its number. -/
lemma lastReview_modify (k : Id) {f : QcReview → QcReview}
    (hmission : ∀ r, (f r).missionId = r.missionId)
    (hcycle : ∀ r, (f r).cycleNumber = r.cycleNumber) :
    lastReview missionId (reviews.modify k f) =
      (lastReview missionId reviews).map fun q => (q.1, if q.1 = k then f q.2 else q.2) := by
  rw [lastReview, lastReview, ← argmax_map, Table.modify, Table.mapRows, List.filter_map]
  · congr 3
    funext q
    simp only [Function.comp_apply]
    split
    · rw [hmission]
    · rfl
  · rintro ⟨i, r⟩
    dsimp only
    split
    · exact hcycle r
    · rfl

/-- The last review of the mission is IN_REVIEW. -/
def UnderReview (missionId : Id) (reviews : Table QcReview) : Prop :=
  ∃ q ∈ lastReview missionId reviews, q.2.state = .inReview

/-- A new review is not IN_REVIEW. -/
lemma UnderReview.of_insert {r : QcReview} (hstate : r.state ≠ .inReview)
    (hcycle : r.missionId = missionId →
      r.cycleNumber = nextCycle (lastReview missionId reviews))
    (h : UnderReview missionId (reviews.insert r)) : UnderReview missionId reviews := by
  obtain ⟨q, hq, hinReview⟩ := h
  by_cases hr : r.missionId = missionId
  · rw [lastReview_insert_self hr (hcycle hr)] at hq
    obtain rfl := Option.some.inj hq
    exact absurd hinReview hstate
  · rw [lastReview_insert_of_ne hr] at hq
    exact ⟨q, hq, hinReview⟩

end LastReview

/-- A mission is in QC_REVIEW while its last review is IN_REVIEW. -/
def Held (x : Site) : Prop :=
  ∀ missionId m, x.missions.get? missionId = some m → UnderReview missionId x.reviews →
    m.workflowState = .qcReview

/-! ## The calls of an agent -/

/-- What a call of an agent does to the state of a mission. -/
lemma state_agent {d : Db} (hdistinct : CasesDistinct d.mission) (o : MissionGuards.Operation)
    {i : Id} {m' : Mission} (hm' : (MissionGuards.step d o).mission.get? i = some m') :
    ∃ m, d.mission.get? i = some m ∧ (m'.workflowState = m.workflowState ∨
      m.workflowState ≠ .qcReview ∧ m'.workflowState ≠ .completed) := by
  change (MissionGuards.step d o).site.missions.get? i = some m' at hm'
  have hsame : d.site.missions.get? i = some m' → ∃ m, d.mission.get? i = some m ∧
      (m'.workflowState = m.workflowState ∨
        m.workflowState ≠ .qcReview ∧ m'.workflowState ≠ .completed) :=
    fun h => ⟨m', h, Or.inl rfl⟩
  cases o with
  | transition agentId r =>
    rw [MissionGuards.step, Transitions.site_POST agentId r hdistinct] at hm'
    cases hmoves : Transitions.moves agentId r d with
    | none =>
      rw [hmoves] at hm'
      exact hsame hm'
    | some q =>
      obtain ⟨action, missionId, mission, newState⟩ := q
      rw [hmoves] at hm'
      obtain ⟨hget, hvalid⟩ := MissionGuards.get?_of_moves hmoves
      by_cases hi : i = missionId
      · subst hi
        obtain ⟨n, hn, -, hstate⟩ := Transitions.get?_moved r action newState (x := d.site) hget
        obtain rfl := Option.some.inj (hn.symm.trans hm')
        have htable : ∀ x ∈ MissionGuards.agentMoves, x.2.1 ≠ .qcReview ∧
            Transitions.settled x.2.2 ≠ .completed := by decide
        have hmove := htable _ (MissionGuards.mem_agentMoves hvalid)
        exact ⟨mission, hget, Or.inr ⟨hmove.1, hstate ▸ hmove.2⟩⟩
      · rw [show (Transitions.moved r missionId mission action newState d.site).missions.get? i =
          d.site.missions.get? i from Transitions.get?_moved_of_ne r hi _ _ _ _] at hm'
        exact hsame hm'
  | checkIn agentId r =>
    rw [MissionGuards.step, CheckIn.site_POST agentId r hdistinct] at hm'
    cases harrives : CheckIn.arrives agentId r d with
    | none =>
      rw [harrives] at hm'
      exact hsame hm'
    | some q =>
      rw [harrives] at hm'
      obtain ⟨hget, hstates⟩ := MissionGuards.get?_of_arrives harrives
      simp only [CheckIn.checked] at hm'
      split at hm'
      · rename_i newState _ hvalid
        rcases Table.get?_modify_cases hget hm' with hm' | ⟨rfl, rfl⟩
        · exact hsame hm'
        · have htable : ∀ x ∈ MissionGuards.agentMoves, x.2.1 ≠ .qcReview ∧ x.2.2 ≠ .completed := by
            decide
          exact ⟨q.2, hget, Or.inr (htable _ (MissionGuards.mem_agentMoves hvalid))⟩
      · exact hsame hm'
  | checklist agentId r =>
    rw [MissionGuards.step, Checklist.site_PATCH] at hm'
    cases hupdates : Checklist.updates agentId r d with
    | none =>
      rw [hupdates] at hm'
      exact hsame hm'
    | some q =>
      rw [hupdates] at hm'
      have hget := (MissionGuards.get?_of_updates hupdates).1
      rcases Table.get?_modify_cases hget hm' with hm' | ⟨rfl, rfl⟩
      · exact hsame hm'
      · exact ⟨q.2, hget, Or.inl rfl⟩
  | evidence agentId r =>
    rw [MissionGuards.step, Evidence.site_POST] at hm'
    cases hstores : Evidence.stores r d with
    | none =>
      rw [hstores] at hm'
      exact hsame hm'
    | some q =>
      rw [hstores] at hm'
      have hget := Evidence.get?_of_stores hstores
      rcases Table.get?_modify_cases hget hm' with hm' | ⟨rfl, rfl⟩
      · exact hsame hm'
      · refine ⟨q.2, hget, ?_⟩
        by_cases hcompletes : Evidence.completes q.2 = true
        · have hexecuting := (of_decide_eq_true hcompletes).2.2
          have hstate : (Evidence.count q.2 q.2).workflowState = .submitting := if_pos hcompletes
          exact Or.inr ⟨by rw [hexecuting]; decide, by rw [hstate]; decide⟩
        · exact Or.inl (if_neg hcompletes)

/-- A call of an agent starts no review. -/
lemma underReview_agent {d : Db} (hdistinct : CasesDistinct d.mission)
    (o : MissionGuards.Operation) {i : Id} (h : UnderReview i (MissionGuards.step d o).qcReview) :
    UnderReview i d.qcReview := by
  change UnderReview i (MissionGuards.step d o).site.reviews at h
  cases o with
  | transition agentId r =>
    rw [MissionGuards.step, Transitions.site_POST agentId r hdistinct] at h
    cases hmoves : Transitions.moves agentId r d with
    | none => rwa [hmoves] at h
    | some q =>
      rw [hmoves] at h
      simp only [Transitions.moved] at h
      split at h
      · refine UnderReview.of_insert (show QcState.pending ≠ .inReview by decide) (fun hi => ?_) h
        rw [← hi]
        rfl
      · exact h
  | checkIn agentId r =>
    rw [MissionGuards.step, CheckIn.site_POST agentId r hdistinct] at h
    cases harrives : CheckIn.arrives agentId r d with
    | none => rwa [harrives] at h
    | some q =>
      rw [harrives] at h
      simp only [CheckIn.checked] at h
      split at h <;> exact h
  | checklist agentId r =>
    rw [MissionGuards.step, Checklist.site_PATCH] at h
    cases hupdates : Checklist.updates agentId r d with
    | none => rwa [hupdates] at h
    | some q => rwa [hupdates] at h
  | evidence agentId r =>
    rw [MissionGuards.step, Evidence.site_POST] at h
    cases hstores : Evidence.stores r d with
    | none => rwa [hstores] at h
    | some q => rwa [hstores] at h

/-! ## The commands of an administrator -/

/-- The action that a command takes, the mission that it concerns, and the state that it gives to
the review. -/
def acts (c : Command) (d : Db) : Option (QcAction × Id × Mission × QcState) :=
  match c.action, missionOf c.caseId d with
  | some action, some (missionId, mission) =>
      match validateQcTransition (opened missionId d.qcReview).2.2.state action .operations
          c.reason with
      | .ok newState => some (action, missionId, mission, newState)
      | .error _ => none
  | _, _ => none

/-- The mission after an action. -/
def concluded (action : QcAction) (now : Time) (m : Mission) : Mission :=
  match action with
  | .approve => { m with workflowState := .completed, completedAt := some now }
  | .requestRework => { m with workflowState := .rework }
  | .reject => { m with workflowState := .failed }
  | _ => m

/-- The actions that a review admits. -/
lemma validateQcTransition_operations {s t : QcState} {action : QcAction} {reason : Option String}
    (h : validateQcTransition s action .operations reason = .ok t) :
    (action, s, t) ∈ [(QcAction.startReview, QcState.pending, QcState.inReview),
      (.approve, .inReview, .approved), (.reject, .inReview, .rejected),
      (.requestRework, .inReview, .rejected)] := by
  have htable : ∀ x ∈ qcTransitions, .operations ∈ x.allowedRoles →
      (x.action, x.src, x.dst) ∈ [(QcAction.startReview, QcState.pending, QcState.inReview),
        (.approve, .inReview, .approved), (.reject, .inReview, .rejected),
        (.requestRework, .inReview, .rejected)] := by
    decide
  obtain ⟨x, hx, rfl, rfl, rfl, hrole⟩ := validateQcTransition_eq_ok h
  exact htable x hx hrole

/-- The review that is open is the last one. -/
lemma lastReview_opened (missionId : Id) (reviews : Table QcReview) :
    lastReview missionId (opened missionId reviews).1 = some (opened missionId reviews).2 := by
  rw [opened]
  cases hlast : lastReview missionId reviews with
  | some q => exact hlast
  | none => exact lastReview_insert_self rfl (by rw [hlast]; rfl)

lemma underReview_opened {i missionId : Id} {reviews : Table QcReview}
    (h : UnderReview i (opened missionId reviews).1) : UnderReview i reviews := by
  rw [opened] at h
  cases hlast : lastReview missionId reviews with
  | some q => rwa [hlast] at h
  | none =>
    rw [hlast] at h
    refine UnderReview.of_insert (show QcState.pending ≠ .inReview by decide) (fun hi => ?_) h
    have hi' : missionId = i := hi
    rw [← hi', hlast]
    rfl

/-- The writes of an action to its review, all in one. -/
def marked (c : Command) (action : QcAction) (newState : QcState) (gate : CompletionGate)
    (r : QcReview) : QcReview :=
  if action = .approve then { reviewed c action newState r with gateResults := some gate }
  else reviewed c action newState r

/-- What a command does to the missions. -/
lemma missions_POST (c : Command) (d : Db) : ((QualityControl.POST c).exec d).mission =
    match acts c d with
    | some (action, missionId, _, _) => d.mission.modify missionId (concluded action c.now)
    | none => d.mission := by
  change ((QualityControl.POST c).exec d).field.missions = _
  rw [field_POST, Command.effect, acts]
  cases haction : c.action with
  | none => rfl
  | some action =>
    cases hmission : missionOf c.caseId d with
    | none => rfl
    | some q =>
      dsimp only
      cases hvalid : validateQcTransition (opened q.1 d.qcReview).2.2.state action .operations
          c.reason with
      | error refusal => rfl
      | ok newState =>
        -- An action that does not conclude the review leaves the mission as it is.
        have hsame : d.mission.modify q.1 (fun m => m) = d.mission :=
          (Table.modify_eq_self_iff (missionOf_eq_some hmission).2).mpr rfl
        cases action with
        | approve => rfl
        | reject => rfl
        | requestRework => rfl
        | startReview => exact hsame.symm
        | resubmit => exact hsame.symm
        | other text => exact hsame.symm

lemma reviews_settled (c : Command) (action : QcAction) (newState : QcState) (missionId : Id)
    (mission : Mission) (reviewId : Id) (gate : CompletionGate) (x : Field) :
    (settled action missionId mission reviewId c.now gate
      (x.changeReview reviewId (reviewed c action newState))).reviews =
        x.reviews.modify reviewId (marked c action newState gate) := by
  cases action with
  | approve =>
    exact x.reviews.modify_modify reviewId (reviewed c .approve newState) fun r =>
      { r with gateResults := some gate }
  | _ => rfl

lemma marked_fields (c : Command) (action : QcAction) (newState : QcState) (gate : CompletionGate)
    (r : QcReview) : (marked c action newState gate r).missionId = r.missionId ∧
      (marked c action newState gate r).cycleNumber = r.cycleNumber ∧
        (marked c action newState gate r).state = newState := by
  rw [marked]
  split <;> exact ⟨rfl, rfl, rfl⟩

/-- Which missions are under review after a command: the one whose review it has started, and those
of which it has not taken up the review. -/
lemma underReview_POST {c : Command} {d : Db} {i : Id}
    (h : UnderReview i ((QualityControl.POST c).exec d).qcReview) :
    (∃ m, acts c d = some (.startReview, i, m, .inReview)) ∨
      UnderReview i d.qcReview ∧ ∀ q ∈ acts c d, q.2.1 ≠ i := by
  change UnderReview i ((QualityControl.POST c).exec d).field.reviews at h
  rw [field_POST, Command.effect] at h
  rw [acts]
  cases haction : c.action with
  | none =>
    rw [haction] at h
    exact Or.inr ⟨h, by simp⟩
  | some action =>
    cases hmission : missionOf c.caseId d with
    | none =>
      rw [haction, hmission] at h
      exact Or.inr ⟨h, by simp⟩
    | some p =>
      obtain ⟨missionId, mission⟩ := p
      simp only [haction, hmission] at h ⊢
      cases hvalid : validateQcTransition (opened missionId d.qcReview).2.2.state action .operations
          c.reason with
      | error refusal =>
        rw [hvalid] at h
        exact Or.inr ⟨underReview_opened h, by simp⟩
      | ok newState =>
        simp only [hvalid] at h
        rw [reviews_settled] at h
        obtain ⟨q, hq, hinReview⟩ := h
        have hmarked := marked_fields c action newState (gate missionId mission d)
        rw [lastReview_modify _ (fun r => (hmarked r).1) fun r => (hmarked r).2.1] at hq
        obtain ⟨p, hp, rfl⟩ := Option.map_eq_some_iff.mp hq
        by_cases hi : i = missionId
        · subst hi
          obtain rfl := Option.some.inj ((lastReview_opened i d.qcReview).symm.trans hp)
          obtain rfl : newState = .inReview := by
            simpa only [if_pos, (hmarked _).2.2] using hinReview
          have haction := validateQcTransition_operations hvalid
          obtain ⟨rfl, -⟩ : action = .startReview ∧ _ := by simpa using haction
          exact Or.inl ⟨mission, rfl⟩
        · obtain ⟨hget, hpi⟩ := missionId_of_lastReview hp
          obtain ⟨hget', hpmission⟩ :=
            missionId_of_lastReview (lastReview_opened missionId d.qcReview)
          have hne : p.1 ≠ (opened missionId d.qcReview).2.1 := by
            intro hk
            rw [hk] at hget
            exact hi (by rw [← hpi, ← hpmission, Option.some.inj (hget.symm.trans hget')])
          simp only [if_neg hne] at hinReview
          refine Or.inr ⟨underReview_opened ⟨p, hp, hinReview⟩, ?_⟩
          simpa using Ne.symm hi

/-! ## Runs -/

/-- A call of an agent, or a command of an administrator. -/
inductive Operation
  | agent (o : MissionGuards.Operation)
  | review (c : Command)

def step (d : Db) : Operation → Db
  | .agent o => MissionGuards.step d o
  | .review c => (QualityControl.POST c).exec d

def Operation.isReview : Operation → Bool
  | .agent _ => false
  | .review _ => true

/-- The gate of a mission passes: there is evidence, a check on site that has passed, and a
checklist that is complete. -/
structure Passes (missionId : Id) (m : Mission) (d : Db) : Prop where
  gate : evaluateCompletionGate (gate missionId m d) = true
  evidenced : MissionGuards.Evidenced missionId d.site
  checked : MissionGuards.Passed missionId d.site
  complete : MissionGuards.Complete m

/-- What a step does to the states of the missions. -/
structure Gated (d : Db) (o : Operation) : Prop where
  /-- A mission enters COMPLETED from QC_REVIEW, and its gate passes. -/
  completed : ∀ i m m', d.mission.get? i = some m → (step d o).mission.get? i = some m' →
    m.workflowState ≠ .completed → m'.workflowState = .completed →
      m.workflowState = .qcReview ∧ Passes i m d
  /-- A review sends a mission to REWORK or FAILED from QC_REVIEW. -/
  concluded : o.isReview → ∀ i m m', d.mission.get? i = some m →
    (step d o).mission.get? i = some m' → m'.workflowState ≠ m.workflowState →
      m'.workflowState = .rework ∨ m'.workflowState = .failed → m.workflowState = .qcReview
  /-- A review does not move a mission out of a terminal state. -/
  terminal : o.isReview → ∀ i m m', d.mission.get? i = some m →
    (step d o).mission.get? i = some m' → m.workflowState ∈ terminalStates →
      m'.workflowState = m.workflowState

/-- A review is started for a mission in QC_REVIEW, and approved when the gate passes. -/
def Sound (d : Db) : Operation → Prop
  | .agent _ => True
  | .review c => ∀ q ∈ acts c d,
      (q.1 = .startReview → q.2.2.1.workflowState = .qcReview) ∧
        (q.1 = .approve → evaluateCompletionGate (gate q.2.1 q.2.2.1 d) = true)

instance soundDecidable (d : Db) : ∀ o, Decidable (Sound d o)
  | .agent _ => inferInstanceAs (Decidable True)
  | .review c => inferInstanceAs (Decidable (∀ q ∈ acts c d,
      (q.1 = .startReview → q.2.2.1.workflowState = .qcReview) ∧
        (q.1 = .approve → evaluateCompletionGate (gate q.2.1 q.2.2.1 d) = true)))

/-- What the gate looks at. -/
lemma passes_of_gate {missionId : Id} {m : Mission} {d : Db}
    (h : evaluateCompletionGate (gate missionId m d) = true) : Passes missionId m d := by
  obtain ⟨-, hevidence, hgps, hfields, -⟩ := (evaluateCompletionGate_iff _).mp h
  refine ⟨h, ?_, ?_, ?_⟩
  · obtain ⟨e, he, hmission⟩ := List.countP_pos_iff.mp (of_decide_eq_true hevidence)
    exact ⟨e, he, of_decide_eq_true hmission⟩
  · obtain ⟨c, hc, hpass⟩ := List.any_eq_true.mp hgps
    exact ⟨c, hc, of_decide_eq_true hpass⟩
  · exact (of_decide_eq_true hfields).symm

lemma acts_eq_some {c : Command} {d : Db} {action : QcAction} {i : Id} {m : Mission} {t : QcState}
    (h : acts c d = some (action, i, m, t)) : d.mission.get? i = some m ∧
      validateQcTransition (opened i d.qcReview).2.2.state action .operations c.reason = .ok t := by
  rw [acts] at h
  split at h
  · rename_i hmission
    split at h
    · rename_i hvalid
      cases h
      exact ⟨(missionOf_eq_some hmission).2, hvalid⟩
    · cases h
  · cases h

/-- An action that concludes a review is one on a review that is IN_REVIEW. -/
lemma underReview_of_acts {c : Command} {d : Db} {action : QcAction} {i : Id} {m : Mission}
    {t : QcState} (h : acts c d = some (action, i, m, t)) (haction : action ≠ .startReview) :
    UnderReview i d.qcReview := by
  obtain ⟨-, hvalid⟩ := acts_eq_some h
  have hstate := validateQcTransition_operations hvalid
  have hopened := lastReview_opened i d.qcReview
  refine underReview_opened (⟨_, hopened, ?_⟩ : UnderReview i (opened i d.qcReview).1)
  simp only [List.mem_cons, Prod.mk.injEq, List.not_mem_nil, or_false] at hstate
  rcases hstate with ⟨rfl, -⟩ | ⟨-, hstate, -⟩ | ⟨-, hstate, -⟩ | ⟨-, hstate, -⟩
  · exact absurd rfl haction
  all_goals exact hstate

/-- What a command does to the state of a mission, which then is in QC_REVIEW. -/
lemma state_review {c : Command} {d : Db} (hheld : Held d.site) {i : Id} {m' : Mission}
    (hm' : ((QualityControl.POST c).exec d).mission.get? i = some m') :
    ∃ m, d.mission.get? i = some m ∧ (m' = m ∨ ∃ action t, acts c d = some (action, i, m, t) ∧
      action ≠ .startReview ∧ m' = concluded action c.now m ∧ m.workflowState = .qcReview) := by
  rw [missions_POST] at hm'
  cases hacts : acts c d with
  | none =>
    rw [hacts] at hm'
    exact ⟨m', hm', Or.inl rfl⟩
  | some q =>
    obtain ⟨action, missionId, m, t⟩ := q
    rw [hacts] at hm'
    have hget := (acts_eq_some hacts).1
    rcases Table.get?_modify_cases hget hm' with hm' | ⟨rfl, rfl⟩
    · exact ⟨m', hm', Or.inl rfl⟩
    · refine ⟨m, hget, ?_⟩
      by_cases haction : action = .startReview
      · subst haction
        exact Or.inl rfl
      · exact Or.inr ⟨action, t, rfl, haction, rfl,
          hheld i m hget (underReview_of_acts hacts haction)⟩

lemma gated_step {d : Db} (hdistinct : CasesDistinct d.mission) (hheld : Held d.site)
    {o : Operation} (ho : Sound d o) : Gated d o := by
  cases o with
  | agent o =>
    refine ⟨fun i m m' hm hm' hnot hcompleted => ?_, fun h => absurd h Bool.false_ne_true,
      fun h => absurd h Bool.false_ne_true⟩
    obtain ⟨n, hn, hstate⟩ := state_agent hdistinct o hm'
    obtain rfl := Option.some.inj (hn.symm.trans hm)
    rcases hstate with h | h
    · exact absurd (h ▸ hcompleted) hnot
    · exact absurd hcompleted h.2
  | review c =>
    refine ⟨fun i m m' hm hm' hnot hcompleted => ?_, fun _ i m m' hm hm' hne _ => ?_,
      fun _ i m m' hm hm' hterminal => ?_⟩ <;>
    obtain ⟨n, hn, hstate⟩ := state_review hheld hm' <;>
    obtain rfl := Option.some.inj (hn.symm.trans hm)
    · rcases hstate with rfl | ⟨action, t, hacts, haction, rfl, hstate⟩
      · exact absurd hcompleted hnot
      · obtain rfl : action = .approve := by
          cases action <;> first | rfl | simp_all [concluded]
        exact ⟨hstate, passes_of_gate ((ho _ hacts).2 rfl)⟩
    · rcases hstate with rfl | ⟨action, t, hacts, haction, rfl, hstate⟩
      · exact absurd rfl hne
      · exact hstate
    · rcases hstate with rfl | ⟨action, t, hacts, haction, rfl, hstate⟩
      · rfl
      · rw [hstate] at hterminal
        exact absurd hterminal (by decide)

/-- Each mission that is under review after a step is in QC_REVIEW. -/
lemma held_step {d : Db} (hdistinct : CasesDistinct d.mission) (hheld : Held d.site)
    {o : Operation} (ho : Sound d o) : Held (step d o).site := by
  intro i m' hm' hunder
  cases o with
  | agent o =>
    obtain ⟨m, hm, hstate⟩ := state_agent hdistinct o hm'
    have hbefore := hheld i m hm (underReview_agent hdistinct o hunder)
    rcases hstate with h | h
    · rw [h, hbefore]
    · exact absurd hbefore h.1
  | review c =>
    obtain ⟨m, hm, hstate⟩ := state_review hheld hm'
    rcases underReview_POST hunder with ⟨mission, hacts⟩ | ⟨hbefore, hother⟩
    · obtain rfl := Option.some.inj (hm.symm.trans (acts_eq_some hacts).1)
      rcases hstate with rfl | ⟨action, t, hacts', haction, -, -⟩
      · exact (ho _ hacts).1 rfl
      · rw [hacts] at hacts'
        obtain ⟨rfl, -⟩ := Prod.mk.inj (Option.some.inj hacts')
        exact absurd rfl haction
    · rcases hstate with rfl | ⟨action, t, hacts, -, -, -⟩
      · exact hheld i m' hm hbefore
      · exact absurd rfl (hother _ hacts)

lemma casesDistinct_step {d : Db} (hdistinct : CasesDistinct d.mission) (o : Operation) :
    CasesDistinct (step d o).mission := by
  cases o with
  | agent o => exact MissionGuards.casesDistinct_step hdistinct o
  | review c =>
    rw [step, missions_POST]
    cases acts c d with
    | none => exact hdistinct
    | some q => exact hdistinct.modify q.2.1 fun m => by cases q.1 <;> rfl

/-- A mission with evidence and a check on site that has passed. -/
def checkedMission (workflowState : WorkflowState) : Db where
  serviceCase := Table.empty.insert {}
  mission := Table.empty.insert
    { caseId := 0, agentId := 0, payoutAmount := 100, netPayout := 90, workflowState
      checklistProgress := 1, checklistTotal := 1 }
  evidenceItem := Table.empty.insert { missionId := 0, agentId := 0 }
  gpsCheck := Table.empty.insert { missionId := 0, agentId := 0, result := .pass }

lemma held_checkedMission (state : WorkflowState) : Held (checkedMission state).site := by
  rintro i m hm ⟨q, hq, -⟩
  cases hq

end Completion

end Asoju.FieldForce
