/-
Cases that staff have triaged are quoted by staff, as long as nothing makes their requests
automatic.

A confirmed scope is quoted on the spot when the recorded decision about the request that the case
has come from is automatic.  That is meant for the cases that have been converted automatically,
but staff can convert a request whose decision is automatic, where the automatic conversion has
declined, and they can have the decision looked at again after they have converted the request.
`auto_quotes_automatic` says that there is no third way.
-/
import Asoju.Lib.Run
import Asoju.Triage

namespace Asoju

open Lib

/-! ## The machine -/

/-- A call, or a change of what is open to automation: any change at all. -/
inductive IntakeOp
  | createServiceRequest (user : AuthenticatedUser) (dto : CreateServiceRequestDto)
      (idempotencyKey : Option String)
  | updateServiceRequest (user : AuthenticatedUser) (requestId : Id) (dto : UpdateServiceRequestDto)
  | recomputeAutomationDecision (requestId : Id)
  | changeCapabilities (capabilities : Table AutomationCapability)
  | convertToCase (actor : AuthenticatedUser) (requestId : Id) (dto : ConvertRequestDto)
  | createOrRevise (actor : AuthenticatedUser) (caseId : Id) (dto : CreateScopeDto)
  | transitionCase (actor : AuthenticatedUser) (caseId : Id) (toStatus : CaseStatus)
      (reason : Option String)
  | confirmScope (actor : AuthenticatedUser) (caseId : Id)

namespace IntakeOp

variable (env : Env) (toLowerCase : String → String)

def step (d : Db) : IntakeOp → Db
  | createServiceRequest user dto key =>
      (Keyed.createServiceRequest toLowerCase user dto key {}).exec d
  | updateServiceRequest user i dto =>
      (CasesService.updateServiceRequest toLowerCase user i dto).exec d
  | recomputeAutomationDecision i => (CasesService.recomputeAutomationDecision toLowerCase i).exec d
  | changeCapabilities capabilities => { d with automationCapability := capabilities }
  | convertToCase actor i dto => (CasesService.convertToCase actor i dto).exec d
  | createOrRevise actor i dto => (ScopeService.createOrRevise toLowerCase actor i dto).exec d
  | transitionCase actor i toStatus reason =>
      (CasesService.transitionCase actor i toStatus reason).exec d
  | confirmScope actor i => (Asoju.confirmScope env actor i).exec d

/-- Staff convert no request whose decision is automatic, and have no decision looked at again
that would now be automatic for a request that staff have converted. -/
def KeepsTriage (d : Db) : IntakeOp → Prop
  | convertToCase _ i _ => d.convertedCase i = none → d.outcomeOf i ≠ some .auto
  | recomputeAutomationDecision i => ∀ caseId, d.convertedCase i = some caseId →
      d.creators caseId ≠ [none] → d.evaluationOf toLowerCase i ≠ some .auto
  | _ => True

variable {env toLowerCase}

/-- The rows that the invariant looks at are where they were. -/
lemma traced_congr {d d' : Db} (h : d.Traced) (hrequests : d'.serviceRequest = d.serviceRequest)
    (hdecisions : d'.automationDecision = d.automationDecision)
    (hcreators : ∀ i, d'.creators i = d.creators i)
    (hnext : d'.serviceCase.next = d.serviceCase.next) (hquotes : d'.quote = d.quote) :
    d'.Traced := by
  refine h.kept ⟨fun r => ?_, hcreators, hnext, hquotes⟩ fun r => ?_
  · rw [Db.convertedCase, hrequests, Db.convertedCase]
  · rw [Db.outcomeOf, Db.decisionByRequest, hdecisions, Db.outcomeOf, Db.decisionByRequest]

/-- A status change is not the creation of a case. -/
lemma creators_moveCase {d d' : Db} {i : Id} {c : ServiceCase} {toStatus : CaseStatus}
    {held : Option CaseStatus} {actorId : Option Id} {reason : Option String}
    (h : d' = d.moveCase i c toStatus held actorId reason) (j : Id) :
    d'.creators j = d.creators j := by
  rw [creators_insert (d := d) (congrArg Db.caseStatusHistory h), if_neg (by simp)]

lemma confirmScope_traced {d : Db} (h : d.Traced) (actor : AuthenticatedUser) (i : Id) :
    ((Asoju.confirmScope env actor i).exec d).Traced := by
  have hconfirmed : ((ScopeService.confirm actor i).exec d).Traced := by
    rcases ScopeService.confirm_exec actor i d with heq | ⟨c, scopeId, scope, -, -, -, -, heq⟩
    · rw [heq]
      exact h
    · rw [heq]
      exact traced_congr h rfl rfl (fun _ => rfl) rfl rfl
  rw [Prog.exec] at hconfirmed
  rw [Asoju.confirmScope, Prog.exec, Prog.run_bind]
  rcases hrun : (ScopeService.confirm actor i).run d with ⟨e | confirmed, s⟩ <;>
    rw [hrun] at hconfirmed
  · exact hconfirmed
  · have hexec := Prog.exec_bind_pure (CommerceService.autoQuoteIfEligible env i)
      (fun _ => confirmed) s
    refine (congrArg Db.Traced hexec).mpr ?_
    rcases CommerceService.autoQuoteIfEligible_exec env i s with
      heq | ⟨c, scopeId, scope, pricing, hc, -, horigin, -, -, -, heq⟩
    · rw [heq]
      exact hconfirmed
    · rw [heq]
      have hcreators : ∀ j, ((s.insertRow .quote (CommerceService.autoQuoteRow env i scopeId
          pricing s.clock)).moveCase i c .quoted c.heldFromStatus none
            (some "Quote auto-generated")).creators j = s.creators j := fun j =>
        creators_moveCase rfl j
      exact Db.Traced.quoted hconfirmed hcreators rfl (fun _ => rfl) (fun _ => rfl) rfl horigin

/-- **The step lemma.** -/
theorem step_traced (d : Db) (o : IntakeOp) (h : d.Traced) (hkeeps : KeepsTriage toLowerCase d o) :
    (step env toLowerCase d o).Traced := by
  cases o with
  | createServiceRequest user dto key =>
    have hwork : ∀ s : Db, s.Traced →
        ((CasesService.doCreateServiceRequest toLowerCase user dto).exec s).Traced :=
      fun s hs => doCreateServiceRequest_traced toLowerCase user dto hs
    rw [step, Keyed.createServiceRequest]
    dsimp only
    split
    · refine keyed_preserves (fun s t c => propext ⟨fun hs => ?_, fun hs => ?_⟩) hwork h
      · exact traced_congr hs rfl rfl (fun _ => rfl) rfl rfl
      · exact traced_congr hs rfl rfl (fun _ => rfl) rfl rfl
    · exact hwork d h
  | updateServiceRequest user i dto => exact updateServiceRequest_traced toLowerCase user dto h
  | recomputeAutomationDecision i =>
    have hfind : (Prisma.findUnique .serviceRequest i).run d =
        (.ok (d.serviceRequest.get? i), d) := rfl
    rw [step, CasesService.recomputeAutomationDecision, Prog.exec, Prog.run_bind_ok hfind]
    cases hrequest : d.serviceRequest.get? i with
    | none => exact h
    | some request => exact evaluateAutomationAndMaybeConvert_traced toLowerCase h hkeeps
  | changeCapabilities capabilities => exact traced_congr h rfl rfl (fun _ => rfl) rfl rfl
  | convertToCase actor i dto =>
    exact h.converts (convertToCase_exec actor dto d) fun hnone hauto =>
      absurd hauto (hkeeps hnone)
  | createOrRevise actor i dto =>
    rcases ScopeService.createOrRevise_exec toLowerCase actor i dto d with heq | ⟨c, -, heq⟩
    · rw [step, heq]
      exact h
    · rw [step, heq]
      exact traced_congr h rfl rfl (fun _ => rfl) rfl rfl
  | transitionCase actor i toStatus reason =>
    rcases CasesService.applyTransition_exec d i toStatus reason (some actor.id) with
      heq | ⟨c, -, -, heq⟩
    · rw [step, CasesService.transitionCase, heq]
      exact h
    · rw [step, CasesService.transitionCase, heq]
      exact traced_congr h rfl rfl (creators_moveCase rfl) rfl rfl
  | confirmScope actor i => exact confirmScope_traced h actor i

end IntakeOp

/-! ## Every run -/

/-- **Only automatically converted cases are quoted automatically**, in every run from a database
without converted requests, cases and quotes in which staff keep to the triage. -/
theorem auto_quotes_automatic (env : Env) (toLowerCase : String → String) (d : Db)
    (hrequests : ∀ i, d.convertedCase i = none) (hhistory : d.caseStatusHistory.rows = [])
    (hquotes : d.quote.rows = []) (os : List IntakeOp)
    (hkeeps : AllSteps (IntakeOp.step env toLowerCase) (IntakeOp.KeepsTriage toLowerCase) d os) :
    AllStates (IntakeOp.step env toLowerCase) Db.QuotesAutomatic d os := by
  have hstart : d.Traced := by
    refine ⟨fun r i hr => ?_, fun r i hr => ?_, fun i _ => ?_, fun q hq => ?_⟩
    · rw [hrequests] at hr
      cases hr
    · rw [hrequests] at hr
      cases hr
    · simp [Db.creators, Table.values, hhistory]
    · simp [Table.values, hquotes] at hq
  exact (hkeeps.invariant (I := Db.Traced) IntakeOp.step_traced hstart).mono fun _ h => h.quotes

/-- A customer, and a price for procurement in Lagos. -/
def pricedDb : Db where
  customer := Table.empty.insert { userId := 5 }
  priceBook := Table.empty.insert { active := true }
  priceRule := Table.empty.insert
    { priceBookId := 0, serviceType := .procurement, zone := .lagos, label := "Procurement",
      value := money 100 }

/-- Procurement is open to automation without any rule. -/
def procurementOpen : Table AutomationCapability :=
  Table.empty.insert { serviceType := .procurement, enabled := true }

/-- The customer asks for a procurement in Lagos. -/
def askForGenerator : IntakeOp :=
  .createServiceRequest ⟨5, .customer⟩ ⟨"A generator", some "lagos", "web", some .procurement⟩ none

/-- A case manager converts the request. -/
def convertGenerator (requestId : Id) : IntakeOp :=
  .convertToCase ⟨7, .caseManager⟩ requestId ⟨.procurement, "A generator", "lagos", none, none,
    none, none, none⟩

/-- A case manager reviews the case and proposes a scope, which the customer confirms. -/
def reviewAndConfirm (caseId : Id) : List IntakeOp :=
  [.transitionCase ⟨7, .caseManager⟩ caseId .submitted none,
   .transitionCase ⟨7, .caseManager⟩ caseId .underReview none,
   .createOrRevise ⟨7, .caseManager⟩ caseId { objective := "Buy", tasks := ["Buy"] },
   .confirmScope ⟨5, .customer⟩ caseId]

/-- A request that staff have converted is quoted automatically once its decision is looked at
again. -/
theorem staff_case_auto_quoted :
    ¬ AllStates (IntakeOp.step {} id) Db.QuotesAutomatic pricedDb
      ([askForGenerator, convertGenerator 0, .changeCapabilities procurementOpen,
        .recomputeAutomationDecision 0] ++ reviewAndConfirm 0) :=
  fun h => absurd h.last (by decide +kernel)

/-- A request that staff convert, and one that is converted automatically. -/
theorem auto_quotes_automatic_two :
    AllStates (IntakeOp.step {} id) Db.QuotesAutomatic pricedDb
      ([askForGenerator, convertGenerator 0, .changeCapabilities procurementOpen,
        askForGenerator] ++ reviewAndConfirm 1) := by
  refine auto_quotes_automatic {} id pricedDb (fun _ => rfl) rfl rfl _ ?_
  refine ⟨trivial, fun _ => ?_, trivial, trivial, trivial, trivial, trivial, trivial, trivial⟩
  decide +kernel

example : (runFrom (IntakeOp.step {} id) pricedDb ([askForGenerator, convertGenerator 0,
    .changeCapabilities procurementOpen, askForGenerator] ++ reviewAndConfirm 1)).quote.values.map
      Quote.caseId = [1] := by decide +kernel

end Asoju
