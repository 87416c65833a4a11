/-
Who has converted a request, and what is decided about it.

The recorded decision about a request and its conversion to a case are two things.  A request is
converted once, by staff or automatically, and its decision is recorded anew each time the request
is looked at, also after the conversion.  The invariant `Db.Traced` ties the two together, and each
method is described by what it does to it.
-/
import Asoju.KeyedRetry
import Asoju.Scopes

namespace Asoju

open Lib

/-! ## Who converts a request, and what is decided about it -/

namespace Db

/-- Who has created the case, as its history has it: nobody where it was converted
automatically. -/
def creators (d : Db) (caseId : Id) : List (Option Id) :=
  (d.caseStatusHistory.values.filter fun h => h.caseId = caseId ∧ h.fromStatus = none).map
    CaseStatusHistory.changedById

/-- The outcome that is recorded for the request. -/
def outcomeOf (d : Db) (requestId : Id) : Option AutomationDecisionOutcome :=
  (d.decisionByRequest requestId).map fun p => p.2.outcome

/-- What an evaluation of the request comes to now. -/
def evaluationOf (toLowerCase : String → String) (d : Db) (requestId : Id) :
    Option AutomationDecisionOutcome :=
  (d.serviceRequest.get? requestId).map fun request =>
    (Automation.evaluate toLowerCase
      { serviceType := request.serviceType, objective := request.objective
        location := request.location, timing := request.timing
        rawDescription := request.rawDescription }
      (request.serviceType.bind d.capabilityFor)).outcome

/-- Only cases that were converted automatically have a quote. -/
def QuotesAutomatic (d : Db) : Prop := ∀ q ∈ d.quote.values, d.creators q.caseId = [none]

instance (d : Db) : Decidable d.QuotesAutomatic := inferInstanceAs (Decidable (∀ q ∈ _, _))

/-- **The invariant**: a case that has come from a request with an automatic decision was
converted automatically, and so was every case with a quote. -/
structure Traced (d : Db) : Prop where
  auto : ∀ r i, d.convertedCase r = some i → d.outcomeOf r = some .auto → d.creators i = [none]
  born : ∀ r i, d.convertedCase r = some i → i < d.serviceCase.next
  unborn : ∀ i, d.serviceCase.next ≤ i → d.creators i = []
  quotes : d.QuotesAutomatic

/-! ## What keeps it -/

/-- No request is converted and no case is created or quoted. -/
structure Kept (d d' : Db) : Prop where
  converted : ∀ r, d'.convertedCase r = d.convertedCase r
  creators : ∀ i, d'.creators i = d.creators i
  next : d'.serviceCase.next = d.serviceCase.next
  quote : d'.quote = d.quote

/-- The request is converted to a new case, which somebody has created, or nobody. -/
structure Opens (d d' : Db) (requestId : Id) (createdBy : Option Id) : Prop where
  converted : ∀ r, d'.convertedCase r =
    if r = requestId then some d.serviceCase.next else d.convertedCase r
  outcome : ∀ r, d'.outcomeOf r = d.outcomeOf r
  creators : ∀ i, d'.creators i =
    if i = d.serviceCase.next then d.creators i ++ [createdBy] else d.creators i
  next : d'.serviceCase.next = d.serviceCase.next + 1
  quote : d'.quote = d.quote

/-- An unconverted request is converted, or nothing happens. -/
def Converts (d : Db) (requestId : Id) (createdBy : Option Id) (d' : Db) : Prop :=
  d' = d ∨ d.convertedCase requestId = none ∧ Opens d d' requestId createdBy

variable {d d' : Db} {requestId : Id} {createdBy : Option Id}

/-- A change of the decisions is all right as far as automatic decisions are. -/
lemma Traced.decided (h : d.Traced) (hkept : Kept d d')
    (hauto : ∀ r i, d.convertedCase r = some i → d'.outcomeOf r = some .auto →
      d.creators i = [none]) : d'.Traced where
  auto r i hr houtcome := by
    rw [hkept.converted] at hr
    rw [hkept.creators]
    exact hauto r i hr houtcome
  born r i hr := by
    rw [hkept.converted] at hr
    rw [hkept.next]
    exact h.born r i hr
  unborn i hi := by
    rw [hkept.next] at hi
    rw [hkept.creators]
    exact h.unborn i hi
  quotes q hq := by
    rw [hkept.quote] at hq
    rw [hkept.creators]
    exact h.quotes q hq

lemma Traced.kept (h : d.Traced) (hkept : Kept d d')
    (houtcome : ∀ r, d'.outcomeOf r = d.outcomeOf r) : d'.Traced :=
  h.decided hkept fun r i hr ho => h.auto r i hr (houtcome r ▸ ho)

/-- A conversion is all right if it is automatic or the decision is not. -/
lemma Traced.opens (h : d.Traced) (hopens : Opens d d' requestId createdBy)
    (hby : d.outcomeOf requestId = some .auto → createdBy = none) : d'.Traced where
  auto r i hr houtcome := by
    rw [hopens.converted] at hr
    rw [hopens.outcome] at houtcome
    rw [hopens.creators]
    split_ifs at hr with hrequest
    · obtain rfl := Option.some.inj hr
      rw [if_pos rfl, h.unborn _ le_rfl, hby (hrequest ▸ houtcome), List.nil_append]
    · rw [if_neg (Nat.ne_of_lt (h.born r i hr))]
      exact h.auto r i hr houtcome
  born r i hr := by
    rw [hopens.converted] at hr
    rw [hopens.next]
    split_ifs at hr with hrequest
    · obtain rfl := Option.some.inj hr
      exact Nat.lt_succ_self _
    · exact Nat.lt_succ_of_lt (h.born r i hr)
  unborn i hi := by
    rw [hopens.next] at hi
    rw [hopens.creators, if_neg (Nat.ne_of_gt hi)]
    exact h.unborn i (Nat.le_of_succ_le hi)
  quotes q hq := by
    rw [hopens.quote] at hq
    rw [hopens.creators, if_neg, h.quotes q hq]
    -- a case with a quote has been there before
    intro hnew
    have hcreators := h.quotes q hq
    rw [h.unborn _ (Nat.le_of_eq hnew.symm)] at hcreators
    cases hcreators

lemma Traced.converts (h : d.Traced) (hconverts : d.Converts requestId createdBy d')
    (hby : d.convertedCase requestId = none → d.outcomeOf requestId = some .auto →
      createdBy = none) : d'.Traced := by
  rcases hconverts with rfl | ⟨hnone, hopens⟩
  · exact h
  · exact h.opens hopens (hby hnone)

/-- A quote is all right for a case that has come from a request with an automatic decision. -/
lemma Traced.quoted (h : d.Traced) (hcreators : ∀ i, d'.creators i = d.creators i)
    (hnext : d'.serviceCase.next = d.serviceCase.next)
    (hconverted : ∀ r, d'.convertedCase r = d.convertedCase r)
    (houtcome : ∀ r, d'.outcomeOf r = d.outcomeOf r) {row : Quote}
    (hquote : d'.quote = d.quote.insert row)
    (horigin : d.originRequestOutcome row.caseId = some .auto) : d'.Traced where
  auto r i hr ho := by
    rw [hconverted] at hr
    rw [houtcome] at ho
    rw [hcreators]
    exact h.auto r i hr ho
  born r i hr := by
    rw [hconverted] at hr
    rw [hnext]
    exact h.born r i hr
  unborn i hi := by
    rw [hnext] at hi
    rw [hcreators]
    exact h.unborn i hi
  quotes q hq := by
    rw [hquote, Table.values_insert, List.mem_append, List.mem_singleton] at hq
    rw [hcreators]
    rcases hq with hq | rfl
    · exact h.quotes q hq
    · -- the decision that has been looked at is the one about the request of the case
      cases hfind : d.serviceRequest.rows.find? fun p => p.2.convertedCaseId = some q.caseId with
      | none => simp [originRequestOutcome, hfind] at horigin
      | some p =>
        have hcase := List.find?_some hfind
        simp only [decide_eq_true_eq] at hcase
        have hget := d.serviceRequest.mem_rows_iff.mp (List.mem_of_find?_eq_some hfind)
        refine h.auto p.1 q.caseId ?_ ?_
        · rw [convertedCase, hget]
          exact hcase
        · rw [originRequestOutcome, hfind] at horigin
          exact horigin

end Db

/-! ## What the methods do to a request -/

lemma checkOwner_reads (m : Model) (ownerOf : Db → Id → Option Id) (field : String)
    (attached : Option Id) (customerId : Id) :
    Prog.Keeps Eq (CasesService.checkOwner m ownerOf field attached customerId) := by
  unfold CasesService.checkOwner
  cases attached with
  | none => exact fun _ => rfl
  | some i =>
    refine Prog.Keeps.bind_reads (fun _ => rfl) fun owner => ?_
    split <;> exact fun _ => rfl

lemma poaSettled_reads (serviceType : ServiceType) (customerId : Id) :
    Prog.Keeps Eq (CasesService.poaSettled serviceType customerId) := by
  unfold CasesService.poaSettled
  split <;> exact fun _ => rfl

lemma tierOf_reads (chosen : Option CaseTier) (customerId : Id) :
    Prog.Keeps Eq (CasesService.tierOf chosen customerId) := by
  cases chosen <;> exact fun _ => rfl

lemma requireCustomerProfile_reads (userId : Id) :
    Prog.Keeps Eq (CasesService.requireCustomerProfile userId) := by
  refine Prog.Keeps.bind_reads (fun _ => rfl) fun found => ?_
  cases found <;> exact fun _ => rfl

/-- A new row of the history adds to who has created its case. -/
lemma creators_insert {d d' : Db} {row : CaseStatusHistory}
    (h : d'.caseStatusHistory = d.caseStatusHistory.insert row) (i : Id) :
    d'.creators i = if row.caseId = i ∧ row.fromStatus = none then
      d.creators i ++ [row.changedById] else d.creators i := by
  rw [Db.creators, h, Table.values_insert, List.filter_append, List.map_append]
  by_cases hrow : row.caseId = i ∧ row.fromStatus = none
  · rw [if_pos hrow, List.filter_cons_of_pos (by simpa using hrow)]
    rfl
  · rw [if_neg hrow, List.filter_cons_of_neg (by simpa using hrow)]
    exact List.append_nil _

/-- The creation of a case for a request that is there. -/
lemma createCase_run {d : Db} {requestId : Id} {request : ServiceRequest}
    (hrequest : d.serviceRequest.get? requestId = some request) (row : ServiceCase)
    (createdBy : Option Id) :
    ∃ d', (CasesService.createCase requestId row createdBy).run d =
      (.ok d.serviceCase.next, d') ∧ Db.Opens d d' requestId createdBy := by
  have hthere : (d.serviceRequest.get? requestId).isSome = true := by rw [hrequest]; rfl
  let created : ServiceCase := { row with createdAt := d.clock }
  have hconnected : (CasesService.createConnected requestId row).run d =
      (.ok d.serviceCase.next, d.convertRequest requestId created) := by
    rw [CasesService.createConnected, Prog.run_atom, if_pos hthere, if_pos hthere]
    rfl
  have hrow : (d.convertRequest requestId created).serviceCase.get? d.serviceCase.next =
      some created :=
    Table.get?_insert_self _ _
  -- the case gets its number, the tasks their table, and the history a row
  let numbered := (d.convertRequest requestId created).modifyRow .serviceCase d.serviceCase.next
    fun c => { c with caseNumber := some (caseNumberOf d.serviceCase.next) }
  obtain ⟨t, c, -, htasks⟩ := createMany_caseTask_eq numbered
    (checklistTasks d.serviceCase.next row.serviceType)
  refine ⟨(numbered.withTasks t c).insertRow .caseStatusHistory
    ⟨d.serviceCase.next, none, .draft, createdBy, none, c⟩, ?_, ?_⟩
  · rw [CasesService.createCase, Prog.run_bind_ok hconnected,
      Prog.run_bind_ok (Prisma.run_update_of_some hrow _),
      Prog.run_bind_ok (Prisma.run_createMany ..), htasks, Prog.run_bind_ok (Prisma.run_create ..)]
    rfl
  · refine ⟨fun r => ?_, fun _ => rfl, fun i => ?_, rfl, rfl⟩
    · show ((d.serviceRequest.modify requestId _).get? r).bind _ = _
      rw [Table.get?_modify]
      split_ifs with hr
      · rw [hr, hrequest]
        rfl
      · rfl
    · rw [creators_insert (d := d) rfl]
      simp [eq_comm]

section Methods

variable {requestId : Id}

/-- The database holds what it held, but for who has access to a case. -/
lemma addCollaborator_exec (actor : AuthenticatedUser) (caseId : Id) (d : Db) :
    ∃ t c, (CasesService.addCollaborator actor caseId).exec d =
      { d with caseCollaborator := t, clock := c } := by
  unfold CasesService.addCollaborator
  cases collaboratorRoleByUserRole actor.role with
  | none => exact ⟨_, _, rfl⟩
  | some role => exact ⟨_, _, rfl⟩

/-- Staff convert a request, or nothing happens. -/
lemma convertToCase_exec (actor : AuthenticatedUser) (dto : ConvertRequestDto) (d : Db) :
    d.Converts requestId (some actor.id)
      ((CasesService.convertToCase actor requestId dto).exec d) := by
  have hfind : (Prisma.findUnique .serviceRequest requestId).run d =
      (.ok (d.serviceRequest.get? requestId), d) := rfl
  rw [CasesService.convertToCase, Prog.exec, Prog.run_bind_ok hfind]
  cases hrequest : d.serviceRequest.get? requestId with
  | none => exact Or.inl rfl
  | some request =>
    dsimp only
    by_cases hconverted : request.convertedCaseId.isSome = true
    · rw [if_pos hconverted]
      exact Or.inl rfl
    rw [if_neg hconverted]
    have hnone : d.convertedCase requestId = none := by
      rw [Db.convertedCase, hrequest]
      exact Option.not_isSome_iff_eq_none.mp hconverted
    -- each check ends the conversion, or it goes on in the same database
    refine Prog.exec_bind_of_reads (checkOwner_reads _ _ _ _ _) (Or.inl rfl) fun _ => ?_
    refine Prog.exec_bind_of_reads (checkOwner_reads _ _ _ _ _) (Or.inl rfl) fun _ => ?_
    refine Prog.exec_bind_of_reads (checkOwner_reads _ _ _ _ _) (Or.inl rfl) fun _ => ?_
    refine Prog.exec_bind_of_reads (poaSettled_reads _ _) (Or.inl rfl) fun settled => ?_
    by_cases hsettled : settled = false
    · rw [if_pos hsettled]
      exact Or.inl rfl
    rw [if_neg hsettled]
    refine Prog.exec_bind_of_reads (tierOf_reads _ _) (Or.inl rfl) fun tier => ?_
    refine Or.inr ⟨hnone, ?_⟩
    obtain ⟨d', hcreate, hopens⟩ := createCase_run hrequest
      { customerId := request.customerId, serviceType := dto.serviceType
        description := dto.description, location := dto.location
        priority := (dto.priority <|> serviceTypeDefaultPriority dto.serviceType).getD .standard
        tier, beneficiaryId := dto.beneficiaryId, propertyId := dto.propertyId
        assetId := dto.assetId } (some actor.id)
    rw [Prog.exec, Prog.run_bind_ok hcreate]
    obtain ⟨t, c, hcollaborator⟩ := addCollaborator_exec actor d.serviceCase.next d'
    have hrun : ((CasesService.addCollaborator actor d.serviceCase.next >>= fun _ =>
        Prisma.audit >>= fun _ => pure d.serviceCase.next).run d').2 =
        { d' with caseCollaborator := t, clock := c } := by
      rw [← hcollaborator, Prog.exec, Prog.run_bind]
      rcases (CasesService.addCollaborator actor d.serviceCase.next).run d' with ⟨e | a, d''⟩ <;> rfl
    rw [hrun]
    exact ⟨hopens.converted, hopens.outcome, hopens.creators, hopens.next, hopens.quote⟩

/-- The automatic conversion converts a request, or nothing happens. -/
lemma autoConvert_exec (d : Db) :
    d.Converts requestId none ((CasesService.autoConvert requestId).exec d) := by
  have hfind : (Prisma.findUnique .serviceRequest requestId).run d =
      (.ok (d.serviceRequest.get? requestId), d) := rfl
  rw [CasesService.autoConvert, Prog.exec, Prog.run_bind_ok hfind]
  cases hrequest : d.serviceRequest.get? requestId with
  | none => exact Or.inl rfl
  | some request =>
    dsimp only
    by_cases hconverted : request.convertedCaseId.isSome = true
    · rw [if_pos hconverted]
      exact Or.inl rfl
    rw [if_neg hconverted]
    have hnone : d.convertedCase requestId = none := by
      rw [Db.convertedCase, hrequest]
      exact Option.not_isSome_iff_eq_none.mp hconverted
    cases request.serviceType with
    | none => exact Or.inl rfl
    | some serviceType =>
      dsimp only
      cases request.location.filter (· ≠ "") with
      | none => exact Or.inl rfl
      | some location =>
        dsimp only
        refine Prog.exec_bind_of_reads (poaSettled_reads _ _) (Or.inl rfl) fun settled => ?_
        by_cases hsettled : settled = false
        · rw [if_pos hsettled]
          exact Or.inl rfl
        rw [if_neg hsettled]
        refine Prog.exec_bind_of_reads (tierOf_reads _ _) (Or.inl rfl) fun tier => ?_
        obtain ⟨d', hcreate, hopens⟩ := createCase_run hrequest
          { customerId := request.customerId, serviceType
            description := request.objective.getD request.rawDescription, location
            priority := (serviceTypeDefaultPriority serviceType).getD .standard, tier } none
        rw [Prog.exec, Prog.run_bind_ok hcreate]
        exact Or.inr ⟨hnone, hopens⟩

/-! ### The decision -/

/-- The outcomes after the first decision about a request. -/
lemma outcomeOf_insert {d d' : Db} {row : AutomationDecision}
    (h : d'.automationDecision = d.automationDecision.insert row)
    (hnone : d.decisionByRequest row.serviceRequestId = none) (r : Id) :
    d'.outcomeOf r = if r = row.serviceRequestId then some row.outcome else d.outcomeOf r := by
  have hfind := Table.find?_insert d.automationDecision row fun b => b.serviceRequestId = r
  rw [Db.outcomeOf, Db.decisionByRequest, h, hfind]
  by_cases hr : r = row.serviceRequestId
  · subst hr
    have hnone' : d.automationDecision.rows.find? (fun p =>
        decide (p.2.serviceRequestId = row.serviceRequestId)) = none := hnone
    rw [hnone']
    simp
  · have hne : ¬ row.serviceRequestId = r := fun heq => hr heq.symm
    simp [hr, hne, Db.outcomeOf, Db.decisionByRequest]

/-- The outcomes after a change of the decision about a request. -/
lemma outcomeOf_modify {d d' : Db} {i : Id} {x : AutomationDecision}
    {f : AutomationDecision → AutomationDecision} (hx : d.decisionByRequest requestId = some (i, x))
    (hf : ∀ b, (f b).serviceRequestId = b.serviceRequestId)
    (h : d'.automationDecision = d.automationDecision.modify i f) (r : Id) :
    d'.outcomeOf r = if r = requestId then some (f x).outcome else d.outcomeOf r := by
  have hfind := Table.find?_mapRows d.automationDecision (f := fun j b => if j = i then f b else b)
    (q := fun b => decide (b.serviceRequestId = r)) (fun j b => by split_ifs <;> simp [hf])
  rw [Db.outcomeOf, Db.decisionByRequest, h, Table.modify, hfind]
  by_cases hr : r = requestId
  · subst hr
    have hx' : d.automationDecision.rows.find? (fun p => decide (p.2.serviceRequestId = r)) =
        some (i, x) := hx
    rw [hx']
    simp
  · rw [if_neg hr, Db.outcomeOf, Db.decisionByRequest, Option.map_map]
    cases hfound : d.automationDecision.rows.find? fun p => p.2.serviceRequestId = r with
    | none => rfl
    | some p =>
      -- the decision about another request is another row
      have hne : p.1 ≠ i := by
        rintro rfl
        have hp := d.automationDecision.mem_rows_iff.mp (List.mem_of_find?_eq_some hfound)
        have hq := d.automationDecision.mem_rows_iff.mp (List.mem_of_find?_eq_some hx)
        have hsame : p.2 = x := Option.some.inj (hp.symm.trans hq)
        have hpr := List.find?_some hfound
        have hxr := List.find?_some hx
        simp only [decide_eq_true_eq] at hpr hxr
        exact hr (hpr.symm.trans ((congrArg _ hsame).trans hxr))
      simp [hne]

lemma escalationOf_run (serviceRequestId : Id) (result : EvaluationResult) (existing : Option Id)
    (d : Db) :
    ∃ x t c, (AutomationEligibilityService.escalationOf serviceRequestId result existing).run d =
      (.ok x, { d with escalation := t, clock := c }) := by
  unfold AutomationEligibilityService.escalationOf
  split
  · exact ⟨_, _, _, rfl⟩
  · exact ⟨_, _, _, rfl⟩

variable (toLowerCase : String → String)

/-- What is recorded for a request is what its evaluation comes to. -/
lemma evaluateAndRecord_run {d : Db} {request : ServiceRequest}
    (hrequest : d.serviceRequest.get? requestId = some request) :
    ∃ decision d', (AutomationEligibilityService.evaluateAndRecord toLowerCase requestId).run d =
      (.ok decision, d') ∧ d.evaluationOf toLowerCase requestId = some decision.outcome ∧
        Db.Kept d d' ∧ ∀ r, d'.outcomeOf r =
          if r = requestId then some decision.outcome else d.outcomeOf r := by
  have hfind : (Prisma.findUnique .serviceRequest requestId).run d = (.ok (some request), d) := by
    rw [Prisma.run_findUnique]
    exact congrArg (fun x => (Except.ok x, d)) hrequest
  have hcapability : (AutomationEligibilityService.findCapability request.serviceType).run d =
      (.ok (request.serviceType.bind d.capabilityFor), d) := by
    cases request.serviceType <;> rfl
  have hexisting : (Prisma.query .automationDecision (·.decisionByRequest requestId)).run d =
      (.ok (d.decisionByRequest requestId), d) := rfl
  rw [AutomationEligibilityService.evaluateAndRecord, Prog.run_bind_ok hfind]
  dsimp only
  rw [Prog.run_bind_ok hcapability, Prog.run_bind_ok hexisting, Db.evaluationOf, hrequest,
    Option.map_some]
  generalize Automation.evaluate toLowerCase _ _ = result
  obtain ⟨escalationId, t, c, hescalation⟩ := escalationOf_run requestId result
    ((d.decisionByRequest requestId).bind fun x => x.2.escalationId) d
  let row : AutomationDecision :=
    { serviceRequestId := requestId, outcome := result.outcome, reason := result.reason
      ruleResults := result.ruleResults, capabilityEnabled := result.capabilityEnabled
      escalationId, decidedAt := c }
  let change (b : AutomationDecision) : AutomationDecision :=
    { row with serviceRequestId := b.serviceRequestId }
  rw [Prog.run_bind_ok hescalation, Prog.run_bind, Prisma.run_upsert]
  cases hdecision : d.decisionByRequest requestId with
  | none =>
    have hsame : Db.decisionByRequest { d with escalation := t, clock := c } requestId = none :=
      hdecision
    simp only [hsame, Option.map_none, Option.bind_none]
    have hdecisions : ({ d with escalation := t, clock := c }.insertRow .automationDecision
        row).automationDecision = d.automationDecision.insert row := rfl
    refine ⟨_, _, rfl, rfl, ⟨fun _ => rfl, fun _ => rfl, rfl, rfl⟩, fun r => ?_⟩
    exact outcomeOf_insert hdecisions hdecision r
  | some p =>
    obtain ⟨i, x⟩ := p
    have hsame : Db.decisionByRequest { d with escalation := t, clock := c } requestId =
      some (i, x) := hdecision
    have hget : (Rel.automationDecision.get { d with escalation := t, clock := c }).get? i =
        some x :=
      d.automationDecision.mem_rows_iff.mp (List.mem_of_find?_eq_some hdecision)
    simp only [hsame, Option.map_some, Option.bind_some]
    rw [hget]
    have hdecisions : ({ d with escalation := t, clock := c }.modifyRow .automationDecision i
        change).automationDecision = d.automationDecision.modify i change := rfl
    refine ⟨_, _, rfl, rfl, ⟨fun _ => rfl, fun _ => rfl, rfl, rfl⟩, fun r => ?_⟩
    exact outcomeOf_modify (f := change) hdecision (fun _ => rfl) hdecisions r

/-- An evaluation of a request, and the conversion that may follow, are all right unless they make
the decision automatic for a request that staff have converted. -/
lemma evaluateAutomationAndMaybeConvert_traced {d : Db} (h : d.Traced)
    (hstaff : ∀ i, d.convertedCase requestId = some i → d.creators i ≠ [none] →
      d.evaluationOf toLowerCase requestId ≠ some .auto) :
    ((CasesService.evaluateAutomationAndMaybeConvert toLowerCase requestId).exec d).Traced := by
  rw [CasesService.evaluateAutomationAndMaybeConvert, Prog.exec]
  cases hrequest : d.serviceRequest.get? requestId with
  | none =>
    have hfind : (Prisma.findUnique .serviceRequest requestId).run d = (.ok none, d) := by
      rw [Prisma.run_findUnique]
      exact congrArg (fun x => (Except.ok x, d)) hrequest
    have hrun : (AutomationEligibilityService.evaluateAndRecord toLowerCase requestId).run d =
        (.error (.internal "No ServiceRequest found"), d) := by
      rw [AutomationEligibilityService.evaluateAndRecord, Prog.run_bind_ok hfind]
      rfl
    rw [Prog.run_bind, hrun]
    exact h
  | some request =>
    obtain ⟨decision, d', hrun, hevaluation, hkept, houtcome⟩ :=
      evaluateAndRecord_run toLowerCase hrequest
    have htraced : d'.Traced := by
      refine h.decided hkept fun r i hr ho => ?_
      rw [houtcome] at ho
      split_ifs at ho with hsame
      · subst hsame
        by_contra hcreators
        exact hstaff i hr hcreators (hevaluation.trans ho)
      · exact h.auto r i hr ho
    rw [Prog.run_bind_ok hrun]
    by_cases hauto : decision.outcome = .auto
    · rw [if_pos hauto]
      have hexec : ((CasesService.autoConvert requestId >>= fun _ => pure decision).run d').2 =
          (CasesService.autoConvert requestId).exec d' := Prog.exec_bind_pure _ _ _
      exact hexec ▸ htraced.converts (autoConvert_exec d') fun _ _ => rfl
    · rw [if_neg hauto]
      exact htraced

lemma doCreateServiceRequest_traced (user : AuthenticatedUser) (dto : CreateServiceRequestDto)
    {d : Db} (h : d.Traced) :
    ((CasesService.doCreateServiceRequest toLowerCase user dto).exec d).Traced := by
  refine Prog.exec_bind_of_reads (requireCustomerProfile_reads _) h fun customerId => ?_
  rw [Prog.exec, Prog.run_bind_ok (Prisma.run_create ..), Prog.run_bind_ok (Prisma.run_audit _)]
  -- the new request is not converted
  have hconverted : ∀ r, (d.insertRow .serviceRequest
      { customerId, rawDescription := dto.rawDescription, location := dto.location
        channel := dto.channel, serviceType := dto.serviceType }).convertedCase r =
      d.convertedCase r := fun r => by
    rw [Db.convertedCase, Db.convertedCase]
    show ((d.serviceRequest.insert _).get? r).bind _ = _
    rw [Table.get?_insert]
    split_ifs with hr
    · rw [hr, Table.get?_next]
      rfl
    · rfl
  have hnone : d.convertedCase d.serviceRequest.next = none := by
    rw [Db.convertedCase, Table.get?_next]
    rfl
  have hexec := Prog.exec_bind_pure
    (CasesService.evaluateAutomationAndMaybeConvert toLowerCase d.serviceRequest.next)
    (fun _ => d.serviceRequest.next) (d.insertRow .serviceRequest
      { customerId, rawDescription := dto.rawDescription, location := dto.location
        channel := dto.channel, serviceType := dto.serviceType })
  refine (congrArg Db.Traced hexec).mpr
    (evaluateAutomationAndMaybeConvert_traced toLowerCase ?_ fun i hi => ?_)
  · exact h.kept ⟨hconverted, fun _ => rfl, rfl, rfl⟩ fun _ => rfl
  · rw [hconverted, hnone] at hi
    cases hi

lemma updateServiceRequest_traced (user : AuthenticatedUser) (dto : UpdateServiceRequestDto)
    {d : Db} (h : d.Traced) :
    ((CasesService.updateServiceRequest toLowerCase user requestId dto).exec d).Traced := by
  refine Prog.exec_bind_of_reads (requireCustomerProfile_reads _) h fun customerId => ?_
  have hfind : (Prisma.findUnique .serviceRequest requestId).run d =
      (.ok (d.serviceRequest.get? requestId), d) := rfl
  rw [Prog.exec, Prog.run_bind_ok hfind]
  cases hrequest : d.serviceRequest.get? requestId with
  | none => exact h
  | some request =>
    by_cases howner : request.customerId = customerId
    · rw [Option.filter_some, if_pos (decide_eq_true howner)]
      dsimp only
      by_cases hconverted : request.convertedCaseId.isSome = true
      · rw [if_pos hconverted]
        exact h
      have hnone : d.convertedCase requestId = none := by
        rw [Db.convertedCase, hrequest]
        exact Option.not_isSome_iff_eq_none.mp hconverted
      have hget : (Rel.serviceRequest.get d).get? requestId = some request := hrequest
      rw [if_neg hconverted, Prog.run_bind_ok (Prisma.run_update_of_some hget _),
        Prog.run_bind_ok (Prisma.run_audit _)]
      let update (r : ServiceRequest) : ServiceRequest :=
        { r with
          serviceType := dto.serviceType <|> r.serviceType
          objective := dto.objective <|> r.objective
          subject := dto.subject <|> r.subject
          timing := dto.timing <|> r.timing
          location := dto.location <|> r.location }
      have hsame : ∀ r, (d.modifyRow .serviceRequest requestId update).convertedCase r =
          d.convertedCase r := fun r => by
        show ((d.serviceRequest.modify requestId update).get? r).bind _ = _
        rw [Table.get?_modify, Db.convertedCase]
        split_ifs
        · cases d.serviceRequest.get? r <;> rfl
        · rfl
      have hexec := Prog.exec_bind_pure
        (CasesService.evaluateAutomationAndMaybeConvert toLowerCase requestId)
        (fun _ => update request) (d.modifyRow .serviceRequest requestId update)
      refine (congrArg Db.Traced hexec).mpr
        (evaluateAutomationAndMaybeConvert_traced toLowerCase ?_ fun i hi => ?_)
      · exact h.kept ⟨hsame, fun _ => rfl, rfl, rfl⟩ fun _ => rfl
      · rw [hsame, hnone] at hi
        cases hi
    · rw [Option.filter_some, if_neg (by simpa using howner)]
      exact h

end Methods

/-- A method under a key keeps what its work keeps, if that is not about the records. -/
lemma keyed_preserves {β : Type} {P : Db → Prop}
    (hP : ∀ (s : Db) (t : Table IdempotencyRecord) (c : Time),
      P { s with idempotencyRecord := t, clock := c } = P s) {r : Rel β} {key : RecordKey}
    {work : Svc Id} (hwork : ∀ s, P s → P (work.exec s)) {s : Db} (h : P s) :
    P ((Keyed.keyed r key work {}).exec s) := by
  have hbegin := (begin_eachStep hP key).exec_eq s
  rw [Prog.exec] at hbegin
  have hfault : (IdempotencyService.begin key).withFault ({} : Faults).begin =
      IdempotencyService.begin key := rfl
  rw [Keyed.keyed, Prog.exec, hfault, Prog.run_bind]
  rcases hrun : (IdempotencyService.begin key).run s with ⟨e | ⟨- | resultReference⟩, s'⟩ <;>
    rw [hrun] at hbegin
  · exact hbegin.mpr h
  · -- the work, its completion, and the record of a failure
    have hs' : P s' := hbegin.mpr h
    have hdone := hwork s' hs'
    rw [Prog.exec] at hdone
    show P ((tryCatch (Keyed.completed key work) fun err =>
      IdempotencyService.fail key >>= fun _ => throw err).run s').2
    rw [Prog.run_tryCatch, Keyed.completed, Prog.run_bind]
    rcases hworked : work.run s' with ⟨e | created, s''⟩ <;> rw [hworked] at hdone
    · exact (hP s'' _ _).mpr hdone
    · exact (hP s'' _ _).mpr hdone
  · have hreload : ((Keyed.reload r resultReference).run s').2 = s' := by
      cases resultReference with
      | none => rfl
      | some i =>
        rw [Keyed.reload, Prog.run_bind, Prisma.run_findUnique]
        cases (r.get s').get? i <;> rfl
    show P ((Keyed.reload r resultReference).run s').2
    rw [hreload]
    exact hbegin.mpr h

end Asoju
