/-
Arrivals: the transport and the accommodation that staff arrange for a customer who travels.

An arrangement goes from REQUESTED to CONFIRMED and on; a change of a confirmed one takes it back to
wait for its confirmation.  `arrangementTransitions` is the table, and a cancellation or a change
has to carry a note.  The customer must never read that something is confirmed before it is, and
`ArrangementCall.confirms` shows that no interleaving of the calls makes it so.  The profile of the
traveller is left out, and the audit events.
-/
import Asoju.Lib.Client
import Asoju.Lib.Walks
import Asoju.Cases

namespace Asoju

open Lib

namespace Arrival

/-! ## The arrangements -/

inductive ArrivalArrangementType
  | airportTransport | accommodation
deriving DecidableEq, Repr

inductive ArrivalArrangementStatus
  | requested | beingSourced | awaitingConfirmation | confirmed | changed | cancelled | completed
deriving DecidableEq, Repr

def ArrivalArrangementStatus.name : ArrivalArrangementStatus → String
  | requested => "REQUESTED"
  | beingSourced => "BEING_SOURCED"
  | awaitingConfirmation => "AWAITING_CONFIRMATION"
  | confirmed => "CONFIRMED"
  | changed => "CHANGED"
  | cancelled => "CANCELLED"
  | completed => "COMPLETED"

structure ArrivalArrangement where
  caseId : Id
  type : ArrivalArrangementType
  status : ArrivalArrangementStatus := .requested
  detail : Option String := none
  note : Option String := none
  updatedById : Option Id := none
deriving DecidableEq, Repr

structure Store where
  serviceCase : Table ServiceCase := .empty
  arrivalArrangement : Table ArrivalArrangement := .empty

inductive Model
  | serviceCase | arrivalArrangement | auditEvent
deriving DecidableEq, Repr

def cases : TableOf Store Model ServiceCase :=
  ⟨.serviceCase, Store.serviceCase, fun t s => { s with serviceCase := t }, fun _ _ => rfl⟩

def arrangements : TableOf Store Model ArrivalArrangement :=
  ⟨.arrivalArrangement, Store.arrivalArrangement, fun t s => { s with arrivalArrangement := t },
    fun _ _ => rfl⟩

abbrev Work (α : Type) := Prog Store (Access Model) HttpError α

/-! ## The state machine -/

def arrangementTransitions : ArrivalArrangementStatus → List ArrivalArrangementStatus
  | .requested => [.beingSourced, .cancelled]
  | .beingSourced => [.awaitingConfirmation, .cancelled]
  | .awaitingConfirmation => [.confirmed, .cancelled]
  | .confirmed => [.changed, .cancelled, .completed]
  | .changed => [.awaitingConfirmation, .cancelled]
  | .cancelled => []
  | .completed => []

def noteRequiredStatuses : List ArrivalArrangementStatus := [.cancelled, .changed]

/-- The error of a transition that the table does not have. -/
def invalidArrangementTransition (src dst : ArrivalArrangementStatus) : HttpError :=
  let allowed := ", ".intercalate ((arrangementTransitions src).map ArrivalArrangementStatus.name)
  let shown := if allowed = "" then "(none — terminal state)" else allowed
  .badRequest (s!"Invalid arrival arrangement transition: {src.name} -> {dst.name}. " ++
    s!"Allowed from {src.name}: {shown}")

def assertValidArrangementTransition (src dst : ArrivalArrangementStatus) (note : Option String) :
    Work Unit := do
  if dst ∉ arrangementTransitions src then throw (invalidArrangementTransition src dst)
  if dst ∈ noteRequiredStatuses ∧ isBlank note then
    throw (.badRequest s!"note is required moving an arrangement to {dst.name}")

/-! ## The service -/

def recordNotFound : HttpError := .internal "Record to update not found"

/-- `AuditService.record`. -/
def record : Work Unit := .write (.create .auditEvent) id

def requireArrivalCase (caseId : Id) : Work ServiceCase := do
  let some serviceCase ← Client.findUnique cases caseId | throw (.notFound "Case not found")
  if serviceCase.serviceType ≠ .arrivalSupport then
    throw (.badRequest "This case is not an ASOJU Arrival case")
  return serviceCase

/-- The arrangements of a case, in the order of their creation. -/
def listArrangements (caseId : Id) : Work (List (Id × ArrivalArrangement)) := do
  let _ ← requireArrivalCase caseId
  Client.query .arrivalArrangement fun s =>
    s.arrivalArrangement.rows.filter fun p => p.2.caseId = caseId

def createArrangement (actor : AuthenticatedUser) (caseId : Id) (type : ArrivalArrangementType)
    (detail : Option String) : Work Id := do
  let _ ← requireArrivalCase caseId
  let arrangement ← Client.create arrangements
    { caseId, type, detail, updatedById := some actor.id }
  record
  return arrangement

/-- What a transition writes: a detail that is not given stays. -/
def transition (actor : AuthenticatedUser) (status : ArrivalArrangementStatus)
    (detail note : Option String) (a : ArrivalArrangement) : ArrivalArrangement :=
  { a with status, detail := detail.or a.detail, note, updatedById := some actor.id }

def transitionArrangement (actor : AuthenticatedUser) (caseId arrangementId : Id)
    (status : ArrivalArrangementStatus) (detail note : Option String) :
    Work ArrivalArrangement := do
  let _ ← requireArrivalCase caseId
  let found ← Client.findUnique arrangements arrangementId
  let some arrangement := found.filter fun a => a.caseId = caseId
    | throw (.notFound "Arrival arrangement not found on this case")
  assertValidArrangementTransition arrangement.status status note
  let updated ← Client.updateRow arrangements recordNotFound arrangementId
    (transition actor status detail note)
  record
  return updated

/-! ## What is seen of an arrangement -/

/-- The status of an arrangement, with its note. -/
structure Progress where
  status : ArrivalArrangementStatus
  note : Option String
deriving DecidableEq, Repr

/-- How far an arrangement is.  One that is not there yet is requested, as it will be. -/
def progress (arrangementId : Id) (s : Store) : Progress :=
  match s.arrivalArrangement.get? arrangementId with
  | some a => ⟨a.status, a.note⟩
  | none => ⟨.requested, none⟩

/-- An edge of the table. -/
def ArrangementEdge (src dst : ArrivalArrangementStatus) : Prop := dst ∈ arrangementTransitions src

/-- The note that a status asks for is there. -/
def Progress.Noted (x : Progress) : Prop := x.status ∈ noteRequiredStatuses → isBlank x.note = false

/-- A call that has seen `x` moves on from there, with a note if one is asked for. -/
def ProgressWrites (x _y z : Progress) : Prop := ArrangementEdge x.status z.status ∧ z.Noted

abbrev ProgressInformed {α : Type} (arrangementId : Id) (seen : List Progress) (m : Work α) :
    Prop := m.Informed (progress arrangementId) ProgressWrites seen

section Informed

variable {α β : Type} {arrangementId : Id} {seen : List Progress}

variable (arrangementId) in
lemma progress_modify (f : ArrivalArrangement → ArrivalArrangement) (i : Id) (s : Store) :
    progress arrangementId (arrangements.modify i f s) = progress arrangementId s ∨
      i = arrangementId ∧ ∃ a, s.arrivalArrangement.get? i = some a ∧
        progress arrangementId (arrangements.modify i f s) = ⟨(f a).status, (f a).note⟩ := by
  have hget : (arrangements.modify i f s).arrivalArrangement.get? arrangementId =
      (s.arrivalArrangement.modify i f).get? arrangementId := rfl
  by_cases hi : i = arrangementId
  · subst hi
    rw [Table.get?_modify_self] at hget
    cases hrow : s.arrivalArrangement.get? i with
    | none =>
      rw [hrow, Option.map_none] at hget
      refine Or.inl ?_
      simp only [progress, hget, hrow]
    | some a =>
      rw [hrow, Option.map_some] at hget
      refine Or.inr ⟨rfl, a, rfl, ?_⟩
      simp only [progress, hget]
  · rw [Table.get?_modify_of_ne _ (Ne.symm hi)] at hget
    refine Or.inl ?_
    simp only [progress, hget]

/-- A new arrangement is requested, as it was before it was there. -/
lemma progress_insert {a : ArrivalArrangement} (hstatus : a.status = .requested)
    (hnote : a.note = none) (s : Store) :
    progress arrangementId (arrangements.insert a s) = progress arrangementId s := by
  have hget : (arrangements.insert a s).arrivalArrangement.get? arrangementId =
      (s.arrivalArrangement.insert a).get? arrangementId := rfl
  rw [Table.get?_insert] at hget
  by_cases h : arrangementId = s.arrivalArrangement.next
  · rw [if_pos h] at hget
    have hnone : s.arrivalArrangement.get? arrangementId = none := h ▸ Table.get?_next _
    simp only [progress, hget, hstatus, hnote, hnone]
  · rw [if_neg h] at hget
    simp only [progress, hget]

lemma informed_record_bind {f : Unit → Work α} (hf : ProgressInformed arrangementId seen (f ())) :
    ProgressInformed arrangementId seen (record >>= f) :=
  fun _ => ⟨Or.inl rfl, hf.mono (List.subset_append_left _ _)⟩

lemma informed_requireArrivalCase (caseId : Id) :
    ProgressInformed arrangementId seen (requireArrivalCase caseId) := by
  refine .read_bind fun s => ?_
  cases (cases.get s).get? caseId with
  | none => exact trivial
  | some serviceCase =>
    dsimp only
    split <;> exact trivial

lemma informed_createArrangement (actor : AuthenticatedUser) (caseId : Id)
    (type : ArrivalArrangementType) (detail : Option String) :
    ProgressInformed arrangementId seen (createArrangement actor caseId type detail) := by
  refine .bind (informed_requireArrivalCase caseId) fun _ => fun s => ⟨Or.inl ?_, ?_⟩
  · exact progress_insert rfl rfl s
  · exact informed_record_bind trivial

/-- A transition goes on from the status that it has read. -/
lemma informed_transitionArrangement (actor : AuthenticatedUser) (caseId i : Id)
    (status : ArrivalArrangementStatus) (detail note : Option String) :
    ProgressInformed arrangementId seen
      (transitionArrangement actor caseId i status detail note) := by
  refine .bind (informed_requireArrivalCase caseId) fun _ => .read_bind fun s => ?_
  cases hfound : ((arrangements.get s).get? i).filter fun a => a.caseId = caseId with
  | none => exact trivial
  | some arrangement =>
    dsimp only
    have hrow : s.arrivalArrangement.get? i = some arrangement :=
      (Option.filter_eq_some_iff.mp hfound).1
    rw [assertValidArrangementTransition]
    by_cases hedge : status ∉ arrangementTransitions arrangement.status
    · simp only [if_pos hedge]
      exact trivial
    by_cases hnote : status ∈ noteRequiredStatuses ∧ isBlank note
    · simp only [if_neg hedge, if_pos hnote]
      exact trivial
    simp only [if_neg hedge, if_neg hnote]
    rw [not_not] at hedge
    refine fun s' => ⟨?_, ?_⟩
    · rcases progress_modify arrangementId (transition actor status detail note) i s' with hsame | ⟨rfl, a, -, hmoved⟩
      · exact Or.inl hsame
      · refine Or.inr ⟨progress i s, by simp, ?_, ?_⟩
        · have hread : (progress i s).status = arrangement.status := by simp only [progress, hrow]
          rw [ArrangementEdge, hread, hmoved]
          exact hedge
        · rw [hmoved]
          intro hrequired
          rw [not_and, Bool.not_eq_true] at hnote
          exact hnote hrequired
    · beta_reduce
      cases (arrangements.get s').get? i with
      | none => exact trivial
      | some a => exact informed_record_bind trivial

end Informed

/-! ## The stages of an arrangement -/

/-- The statuses that lead to a confirmed arrangement. -/
def confirmationStages : List ArrivalArrangementStatus :=
  [.requested, .beingSourced, .awaitingConfirmation, .confirmed]

/-- How far an arrangement has come: a change and the completion follow the confirmation. -/
def ArrivalArrangementStatus.stage : ArrivalArrangementStatus → ℕ
  | requested => 0
  | beingSourced => 1
  | awaitingConfirmation => 2
  | confirmed => 3
  | changed => 3
  | completed => 3
  | cancelled => 0

/-- A transition goes no further, or to the next stage. -/
lemma ArrangementEdge.stage_cases {src dst : ArrivalArrangementStatus}
    (h : ArrangementEdge src dst) :
    dst.stage ≤ src.stage ∨
      (dst.stage = src.stage + 1 ∧ dst = confirmationStages.getD dst.stage .requested) := by
  have htable : ∀ dst ∈ arrangementTransitions src, dst.stage ≤ src.stage ∨
      (dst.stage = src.stage + 1 ∧ dst = confirmationStages.getD dst.stage .requested) := by
    cases src <;> decide
  exact htable dst h

lemma take_confirmationStages (status : ArrivalArrangementStatus) :
    (List.range (status.stage + 1)).map (confirmationStages.getD · .requested) =
      confirmationStages.take (status.stage + 1) := by
  cases status <;> decide

/-- A walk leads to the status, and the note that it asks for is there. -/
def Arranged (h : List Progress) (x : Progress) : Prop :=
  WalkTo ArrangementEdge (h.map Progress.status) x.status ∧ x.Noted

lemma arranged_grounds : Grounds ProgressWrites Arranged where
  mono := by
    rintro h v x ⟨hwalk, hnoted⟩
    rw [Arranged, List.map_append]
    exact ⟨hwalk.mono _, hnoted⟩
  step := by
    rintro h x y z ⟨hedge, hnoted⟩ ⟨hwalk, -⟩ -
    rw [Arranged, List.map_append]
    exact ⟨hwalk.move hedge, hnoted⟩

/-! ## Calls that run concurrently -/

/-- A call that concerns the arrangements. -/
inductive ArrangementCall
  | list (caseId : Id)
  | create (actor : AuthenticatedUser) (caseId : Id) (type : ArrivalArrangementType)
      (detail : Option String)
  | transition (actor : AuthenticatedUser) (caseId arrangementId : Id)
      (status : ArrivalArrangementStatus) (detail note : Option String)
deriving DecidableEq, Repr

namespace ArrangementCall

/-- The call as a program. -/
def code : ArrangementCall → Work Unit
  | list caseId => listArrangements caseId >>= fun _ => pure ()
  | create actor caseId type detail =>
      createArrangement actor caseId type detail >>= fun _ => pure ()
  | transition actor caseId i status detail note =>
      transitionArrangement actor caseId i status detail note >>= fun _ => pure ()

lemma informed (arrangementId : Id) (c : ArrangementCall) :
    ProgressInformed arrangementId [] c.code := by
  cases c with
  | list caseId =>
    refine .bind (.bind (informed_requireArrivalCase _) fun _ => ?_) fun _ => trivial
    exact fun s => ⟨Or.inl rfl, trivial⟩
  | create actor caseId type detail =>
    exact .bind (informed_createArrangement _ _ _ _) fun _ => trivial
  | transition actor caseId i status detail note =>
    exact .bind (informed_transitionArrangement _ _ _ _ _ _) fun _ => trivial

/-- The store after calls have run concurrently, from `s` on. -/
def after (s : Store) (es : List (Event ArrangementCall)) : Store :=
  (runFrom (Pool.step code) (Pool.idle s) es).shared

/-- The statuses that an arrangement shows meanwhile. -/
def shownStatuses (arrangementId : Id) (s : Store) (es : List (Event ArrangementCall)) :
    List ArrivalArrangementStatus :=
  (shows (Pool.step code) (fun p => progress arrangementId p.shared) (Pool.idle s) es).map
    Progress.status

/-- **Nothing is confirmed, changed or completed that has not gone the way to its confirmation**,
however the calls are interleaved; and what is cancelled or changed says why.  The arrangement is
one that has just been requested, or that is yet to be. -/
theorem confirms {s : Store} {arrangementId : Id}
    (hnew : ∀ a, s.arrivalArrangement.get? arrangementId = some a →
      a.status = .requested ∧ a.note = none)
    (es : List (Event ArrangementCall)) {a : ArrivalArrangement}
    (ha : (after s es).arrivalArrangement.get? arrangementId = some a) :
    WalkTo ArrangementEdge (shownStatuses arrangementId s es) a.status ∧
      (confirmationStages.take (a.status.stage + 1)).Sublist (shownStatuses arrangementId s es) ∧
      (a.status ∈ noteRequiredStatuses → isBlank a.note = false) := by
  have hfirst : progress arrangementId s = ⟨.requested, none⟩ := by
    cases hrow : s.arrivalArrangement.get? arrangementId with
    | none => simp only [progress, hrow]
    | some b => simp only [progress, hrow, hnew b hrow]
  have hstart : Arranged [progress arrangementId s] (progress arrangementId s) := by
    rw [hfirst]
    exact ⟨WalkTo.start _ _, fun h => absurd h (by decide)⟩
  have hend : Arranged _ (progress arrangementId (after s es)) :=
    Pool.grounded (informed arrangementId) arranged_grounds hstart es
  have hlast : progress arrangementId (after s es) = ⟨a.status, a.note⟩ := by
    simp only [progress, ha]
  rw [hlast] at hend
  refine ⟨hend.1, ?_, hend.2⟩
  have hhead : (shownStatuses arrangementId s es).head? = some .requested := by
    rw [shownStatuses, List.head?_map, head?_shows, Option.map_some]
    exact congrArg (fun x => some x.status) hfirst
  rw [← take_confirmationStages]
  exact hend.1.milestones hhead rfl fun _ _ hedge => hedge.stage_cases

/-- An arrangement that has just been requested. -/
def requestedStore : Store where
  serviceCase := Table.empty.insert
    { customerId := 0, serviceType := .arrivalSupport, description := "Pickup in Lagos"
      location := "Ikeja", status := .inProgress }
  arrivalArrangement := Table.empty.insert { caseId := 0, type := .airportTransport }

/-- A cancellation runs into the sourcing. -/
def lateSourcing : List (Event ArrangementCall) :=
  [.start (.transition ⟨1, .admin⟩ 0 0 .beingSourced (some "Camry") none),
    .start (.transition ⟨2, .admin⟩ 0 0 .cancelled none (some "flight cancelled")), .sched 0,
    .sched 0, .sched 1, .sched 1, .sched 1, .sched 0]

theorem confirms_requestedStore :
    WalkTo ArrangementEdge (shownStatuses 0 requestedStore lateSourcing) .beingSourced ∧
      (confirmationStages.take 2).Sublist (shownStatuses 0 requestedStore lateSourcing) ∧
      (ArrivalArrangementStatus.beingSourced ∈ noteRequiredStatuses → isBlank none = false) := by
  refine confirms (s := requestedStore) (fun a ha => ?_) lateSourcing
    (a := ⟨0, .airportTransport, .beingSourced, some "Camry", none, some 1⟩) rfl
  cases ha
  exact ⟨rfl, rfl⟩

end ArrangementCall

end Arrival

end Asoju
