/-
Who may act on a case.

A request passes two guards: `RolesGuard` compares the user's role with the roles of the endpoint,
and `CaseAccessGuard` asks for a relation of the user to the case in the route.  Neither writes
anything.
-/
import Asoju.Cases

namespace Asoju

/-! ## The roles of the endpoints -/

def staffTransitionRoles : List Role := [.caseManager, .qualityControl, .admin, .superAdmin]

def opsRoles : List Role :=
  [.caseManager, .relationshipManager, .qualityControl, .finance, .complianceRisk, .admin,
    .superAdmin]

def staffAssignRoles : List Role := [.caseManager, .admin, .superAdmin]

def fieldRoles : List Role := [.fieldAgent, .provider]

def qcRoles : List Role := [.qualityControl, .admin, .superAdmin]

def staffQuoteRoles : List Role := [.caseManager, .finance, .admin, .superAdmin]

def financeRoles : List Role := [.finance, .admin, .superAdmin]

/-! ## The relation to the case -/

namespace Db

variable (d : Db)

/-- The user is the agent, or the provider, of the assignment. -/
def holdsAssignment (userId : Id) (a : Assignment) : Bool :=
  ((a.agentId.bind d.agent.get?).any fun x => x.userId = userId) ||
    (a.providerId.bind d.provider.get?).any fun x => x.userId = userId

/-- The beneficiary record of a user of the portal. -/
def beneficiaryOf (userId : Id) : Option (Id × Beneficiary) :=
  d.beneficiary.rows.find? fun p => p.2.userId = some userId

end Db

namespace CaseAccessGuard

/-- The guard lets the request through, or throws. -/
def canActivate (d : Db) (user : AuthenticatedUser) (caseId : Id) : Except HttpError Unit :=
  if user.role = .admin ∨ user.role = .superAdmin then .ok ()
  else match d.serviceCase.get? caseId with
    | none => .error (.notFound "Case not found")
    | some serviceCase =>
        match user.role with
        | .customer =>
            if (d.customer.get? serviceCase.customerId).any fun c => c.userId = user.id then .ok ()
            else .error (.forbidden "Not authorised for this case")
        | .beneficiary =>
            if (d.beneficiaryOf user.id).any fun p => serviceCase.beneficiaryId = some p.1 then .ok ()
            else .error (.forbidden "Not authorised for this case")
        | .fieldAgent | .provider =>
            if d.assignment.values.any fun a => a.caseId = caseId ∧ d.holdsAssignment user.id a then
              .ok ()
            else .error (.forbidden "Not assigned to this case")
        | _ =>
            if d.caseCollaborator.values.any fun c => c.caseId = caseId ∧ c.userId = user.id then
              .ok ()
            else .error (.forbidden "Not authorised for this case")

/-- A customer who is let through owns the case. -/
lemma customer_of_canActivate {d : Db} {user : AuthenticatedUser} {caseId : Id}
    (hrole : user.role = .customer) (h : (canActivate d user caseId).isOk = true) :
    ∃ serviceCase c, d.serviceCase.get? caseId = some serviceCase ∧
      d.customer.get? serviceCase.customerId = some c ∧ c.userId = user.id := by
  rw [canActivate, hrole, if_neg (by simp)] at h
  cases hc : d.serviceCase.get? caseId with
  | none =>
    rw [hc] at h
    cases h
  | some serviceCase =>
    rw [hc] at h
    dsimp only at h
    split_ifs at h with howner
    · cases hcustomer : d.customer.get? serviceCase.customerId with
      | none =>
        rw [hcustomer] at howner
        cases howner
      | some c =>
        rw [hcustomer] at howner
        exact ⟨serviceCase, c, rfl, hcustomer, of_decide_eq_true howner⟩
    · cases h

end CaseAccessGuard

end Asoju
