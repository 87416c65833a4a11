/-
Missions that are created by an external system: `POST /api/v1/integration/missions`.

The request names the mission by an external id of the client's own.  The route looks the id up in
the mapping table, and creates a case, a mission and the mapping if it finds nothing; each of these
is a step of its own.  Whatever the route asks for, an insert may be refused: `Refusals` says which
steps of a request fail, and how.
-/
import Asoju.FieldForce.Schema

namespace Asoju.FieldForce

open Lib

/-- The steps of a request that fail, each with its error. -/
structure Refusals where
  lookup : Option Failure := none
  existing : Option Failure := none
  case : Option Failure := none
  mission : Option Failure := none
  mapping : Option Failure := none
  audit : Option Failure := none
deriving DecidableEq, Repr

namespace Refusals

/-- A request that gets as far as to create a mission is not refused its mapping. -/
def Maps (r : Refusals) : Prop := r.case = none → r.mission = none → r.mapping = none

instance (r : Refusals) : Decidable r.Maps := inferInstanceAs (Decidable (_ → _ → _))

end Refusals

/-- A step that fails if it is refused. -/
def attempt {α : Type} (refusal : Option Failure) (m : Svc α) : Svc α :=
  match refusal with
  | some e => throw e
  | none => m

namespace ExternalMissions

/-- The mapping of a client's external id. -/
def isMapping (clientId externalId : String) (m : ExternalMissionMapping) : Bool :=
  m.clientId = clientId ∧ m.externalId = externalId

def resolveExternalMission (clientId externalId : String) : Svc (Option Id) := do
  let mapping ← Client.findFirst Db.externalMissionMappings (isMapping clientId externalId)
  return mapping.map fun p => p.2.missionId

/-- Whether the mapping is there now, as far as the caller can tell: a conflict counts as one. -/
def createExternalMapping (clientId externalId : String) (missionId : Id)
    (refusal : Option Failure) : Svc Bool :=
  tryCatch
    (do
      let _ ← attempt refusal <| Client.createUnique Db.externalMissionMappings
        (isMapping clientId externalId) .uniqueConstraint { clientId, externalId, missionId }
      return true)
    fun e => pure (e = .uniqueConstraint)

/-- The body of a request.  The columns of the case and of the mission are those that the request
gives and, for the others, whatever the database puts there. -/
structure CreateRequest where
  externalId : Option String
  caseData : Option Case
  missionData : Option Mission
  refusals : Refusals := {}
deriving DecidableEq, Repr

/-- The body of an answer. -/
structure CreatedMission where
  missionId : Id
  idempotent : Bool
  workflowState : Option WorkflowState
deriving DecidableEq, Repr

/-- The case, the mission, the mapping and the audit event of a new external id. -/
def createMission (clientId externalId : String) (caseData : Case) (missionData : Mission)
    (refusals : Refusals) : Svc (Reply CreatedMission) := do
  let caseId ← attempt refusals.case <|
    Client.create Db.cases { caseData with status := .accepted }
  let missionId ← attempt refusals.mission <|
    Client.create Db.missions { missionData with caseId, workflowState := .accepted }
  -- What becomes of the mapping is ignored.
  let _ ← createExternalMapping clientId externalId missionId refusals.mapping
  let _ ← attempt refusals.audit <|
    Client.create Db.adminAuditEvents ⟨"INTEGRATION_MISSION_CREATED", some missionId⟩
  return .created ⟨missionId, false, some .accepted⟩

/-- The route, after the authentication of the client. -/
def POST (clientId : String) (r : CreateRequest) : Svc (Reply CreatedMission) :=
  match r.externalId.filter (· ≠ ""), r.caseData, r.missionData with
  | some externalId, some caseData, some missionData => do
      match ← attempt r.refusals.lookup (resolveExternalMission clientId externalId) with
      | some missionId =>
          let existing ← attempt r.refusals.existing (Client.findUnique Db.missions missionId)
          return .ok ⟨missionId, true, existing.map Mission.workflowState⟩
      | none =>
          tryCatch (createMission clientId externalId caseData missionData r.refusals) fun _ =>
            pure (.error 500 "Failed to create mission")
  | _, _, _ => pure (.error 400 "externalId, caseData, and missionData are required")

end ExternalMissions

end Asoju.FieldForce
