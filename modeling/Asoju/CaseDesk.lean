/-
Which cases a user is shown, which he may open, and how the staff come by theirs.

`listCasesForUser` shows a customer, a beneficiary, an agent or a provider his cases, and
`CaseAccessGuard` lets him open one.  The two ask the database in different ways, and
`listed_iff_admitted` says that they agree.

The staff are shown all the cases and can open those that they work on.  They are put on a case by
`addCollaborator`, put themselves on it by `claimCase`, or are made its owner by `assignOwner`,
which writes the owner first and lets him in afterwards.  `seated` is about any number of such calls
at once.
-/
import Asoju.CaseAccess
import Asoju.CredentialRuns
import Asoju.Lib.Sorting
import Asoju.ServiceRequests

namespace Asoju

open Lib

/-! ## The list -/

/-- A case of the list, with the user's own assignments where he has the case by them. -/
structure ListedCase where
  id : Id
  serviceCase : ServiceCase
  assignments : List (Id × Assignment) := []
deriving DecidableEq, Repr

namespace CasesService

variable (updatedAt : Id → Time)

/-- The cases that pass the test, with what goes with each. -/
def listCases (d : Db) (q : Id → ServiceCase → Bool) (assignments : Id → List (Id × Assignment)) :
    List ListedCase :=
  (d.serviceCase.rows.filter fun p => q p.1 p.2).map fun p => ⟨p.1, p.2, assignments p.1⟩

/-- The user's own assignments on the case. -/
def ownAssignments (d : Db) (userId caseId : Id) : List (Id × Assignment) :=
  d.assignment.rows.filter fun p => p.2.caseId = caseId ∧ d.holdsAssignment userId p.2

/-- `updatedAt` is when a case was last written. -/
def listCasesForUser (user : AuthenticatedUser) : Svc (List ListedCase) :=
  match user.role with
  | .customer => do
      let customerId ← requireCustomerProfile user.id
      Prisma.query .serviceCase fun d =>
        sortDesc (·.serviceCase.createdAt) (listCases d (fun _ c => c.customerId = customerId)
          fun _ => [])
  | .beneficiary => do
      match ← Prisma.query .beneficiary (·.beneficiaryOf user.id) with
      | none => return []
      | some (beneficiaryId, _) =>
          Prisma.query .serviceCase fun d =>
            sortDesc (·.serviceCase.createdAt)
              (listCases d (fun _ c => c.beneficiaryId = some beneficiaryId) fun _ => [])
  | .fieldAgent | .provider =>
      Prisma.query .serviceCase fun d =>
        sortDesc (fun c => updatedAt c.id)
          (listCases d (fun i _ => ownAssignments d user.id i ≠ []) (ownAssignments d user.id))
  | .partner => return []
  | _ =>
      Prisma.query .serviceCase fun d =>
        (sortDesc (fun c => updatedAt c.id) (listCases d (fun _ _ => true) fun _ => [])).take 200

variable {updatedAt} {d : Db}

lemma mem_listCases {q : Id → ServiceCase → Bool} {assignments : Id → List (Id × Assignment)}
    {caseId : Id} : (∃ c ∈ listCases d q assignments, c.id = caseId) ↔
      ∃ serviceCase, d.serviceCase.get? caseId = some serviceCase ∧ q caseId serviceCase := by
  constructor
  · rintro ⟨c, hc, rfl⟩
    obtain ⟨p, hp, rfl⟩ := List.mem_map.mp hc
    obtain ⟨hrow, hq⟩ := List.mem_filter.mp hp
    exact ⟨p.2, d.serviceCase.mem_rows_iff.mp hrow, hq⟩
  · rintro ⟨serviceCase, hget, hq⟩
    have hrow := d.serviceCase.mem_rows_iff.mpr hget
    exact ⟨_, List.mem_map_of_mem (List.mem_filter.mpr ⟨hrow, hq⟩), rfl⟩

lemma mem_sorted {cases : List ListedCase} {key : ListedCase → Time} {caseId : Id} :
    (∃ c ∈ sortDesc key cases, c.id = caseId) ↔ ∃ c ∈ cases, c.id = caseId := by
  simp only [mem_sortDesc]

end CasesService

/-! ## What is shown can be opened -/

/-- No two customers are the same user. -/
def Db.OneCustomerPerUser (d : Db) : Prop :=
  ∀ i j c c', d.customer.get? i = some c → d.customer.get? j = some c' → c.userId = c'.userId →
    i = j

/-- The roles of those who are shown only their own cases. -/
def ownCaseRoles : List Role := [.customer, .beneficiary, .fieldAgent, .provider]

namespace CaseAccessGuard

variable {d : Db} {user : AuthenticatedUser} {caseId : Id}

lemma ok_of_if {p : Prop} [Decidable p] {e : HttpError} :
    (if p then Except.ok () else Except.error e : Except HttpError Unit) = .ok () ↔ p := by
  split_ifs with hp <;> simp [hp]

lemma customer_iff (hrole : user.role = .customer) :
    canActivate d user caseId = .ok () ↔ ∃ serviceCase c,
      d.serviceCase.get? caseId = some serviceCase ∧
      d.customer.get? serviceCase.customerId = some c ∧ c.userId = user.id := by
  rw [canActivate, hrole, if_neg (by simp)]
  cases hcase : d.serviceCase.get? caseId with
  | none => simp
  | some serviceCase =>
    dsimp only
    rw [ok_of_if]
    cases hcustomer : d.customer.get? serviceCase.customerId <;> simp [hcustomer]

lemma beneficiary_iff (hrole : user.role = .beneficiary) :
    canActivate d user caseId = .ok () ↔ ∃ serviceCase p,
      d.serviceCase.get? caseId = some serviceCase ∧ d.beneficiaryOf user.id = some p ∧
      serviceCase.beneficiaryId = some p.1 := by
  rw [canActivate, hrole, if_neg (by simp)]
  cases hcase : d.serviceCase.get? caseId with
  | none => simp
  | some serviceCase =>
    dsimp only
    rw [ok_of_if]
    cases hbeneficiary : d.beneficiaryOf user.id <;> simp

lemma assigned_iff (hrole : user.role = .fieldAgent ∨ user.role = .provider) :
    canActivate d user caseId = .ok () ↔ ∃ serviceCase,
      d.serviceCase.get? caseId = some serviceCase ∧
      CasesService.ownAssignments d user.id caseId ≠ [] := by
  have hany : (d.assignment.values.any fun a =>
      a.caseId = caseId ∧ d.holdsAssignment user.id a) = true ↔
        CasesService.ownAssignments d user.id caseId ≠ [] := by
    rw [CasesService.ownAssignments, ne_eq, List.filter_eq_nil_iff]
    simp only [Table.values, List.any_map, List.any_eq_true, Function.comp_apply]
    push Not
    rfl
  rcases hrole with hrole | hrole
  all_goals
    rw [canActivate, hrole, if_neg (by simp)]
    cases hcase : d.serviceCase.get? caseId with
    | none => simp
    | some serviceCase =>
      dsimp only
      rw [ok_of_if, hany]
      simp

end CaseAccessGuard

namespace CasesService

variable {updatedAt : Id → Time} {d : Db} {user : AuthenticatedUser}

/-- The case is on the list that the user gets. -/
def Listed (updatedAt : Id → Time) (d : Db) (user : AuthenticatedUser) (caseId : Id) : Prop :=
  ∃ cases, ((listCasesForUser updatedAt user).run d).1 = .ok cases ∧ ∃ c ∈ cases, c.id = caseId

lemma listed_customer (hrole : user.role = .customer) (caseId : Id) :
    Listed updatedAt d user caseId ↔ ∃ p serviceCase, customerProfile d user.id = some p ∧
      d.serviceCase.get? caseId = some serviceCase ∧ serviceCase.customerId = p.1 := by
  rw [Listed, listCasesForUser, hrole]
  dsimp only
  rw [requireCustomerProfile, Prog.bind_assoc, Prog.run_bind_ok (Prisma.run_query d _ _)]
  cases hprofile : customerProfile d user.id with
  | none => simp [Prog.run_bind]
  | some p =>
    obtain ⟨customerId, customer⟩ := p
    dsimp only
    rw [Prog.pure_bind, Prisma.run_query]
    simp [mem_sorted, mem_listCases]

lemma listed_beneficiary (hrole : user.role = .beneficiary) (caseId : Id) :
    Listed updatedAt d user caseId ↔ ∃ p serviceCase, d.beneficiaryOf user.id = some p ∧
      d.serviceCase.get? caseId = some serviceCase ∧ serviceCase.beneficiaryId = some p.1 := by
  rw [Listed, listCasesForUser, hrole]
  dsimp only
  rw [Prog.run_bind_ok (Prisma.run_query d _ _)]
  cases hbeneficiary : d.beneficiaryOf user.id with
  | none => simp
  | some p =>
    obtain ⟨beneficiaryId, beneficiary⟩ := p
    dsimp only
    rw [Prisma.run_query]
    simp [mem_sorted, mem_listCases]

lemma listed_assigned (hrole : user.role = .fieldAgent ∨ user.role = .provider) (caseId : Id) :
    Listed updatedAt d user caseId ↔ ∃ serviceCase,
      d.serviceCase.get? caseId = some serviceCase ∧ ownAssignments d user.id caseId ≠ [] := by
  rcases hrole with hrole | hrole
  all_goals
    rw [Listed, listCasesForUser, hrole]
    dsimp only
    rw [Prisma.run_query]
    simp [mem_sorted, mem_listCases]

/-- **What is shown can be opened, and the other way round**: the list of a customer, a beneficiary,
an agent or a provider has exactly the cases that the guard lets him in to. -/
theorem listed_iff_admitted (hunique : d.OneCustomerPerUser) (hrole : user.role ∈ ownCaseRoles)
    (caseId : Id) :
    Listed updatedAt d user caseId ↔ CaseAccessGuard.canActivate d user caseId = .ok () := by
  simp only [ownCaseRoles, List.mem_cons, List.not_mem_nil, or_false] at hrole
  rcases hrole with hrole | hrole | hrole
  · rw [listed_customer hrole, CaseAccessGuard.customer_iff hrole]
    constructor
    · rintro ⟨⟨customerId, c⟩, serviceCase, hprofile, hcase, rfl⟩
      have huser := List.find?_some hprofile
      have hget := d.customer.mem_rows_iff.mp (List.mem_of_find?_eq_some hprofile)
      exact ⟨serviceCase, c, hcase, hget, of_decide_eq_true huser⟩
    · rintro ⟨serviceCase, c, hcase, hget, huser⟩
      have hsome : (customerProfile d user.id).isSome := by
        rw [customerProfile, List.find?_isSome]
        exact ⟨_, d.customer.mem_rows_iff.mpr hget, decide_eq_true huser⟩
      obtain ⟨⟨j, c'⟩, hprofile⟩ := Option.isSome_iff_exists.mp hsome
      have huser' := List.find?_some hprofile
      have hget' := d.customer.mem_rows_iff.mp (List.mem_of_find?_eq_some hprofile)
      -- It is the customer of the case, as the user is only one.
      have hid := hunique _ _ _ _ hget hget' (huser.trans (of_decide_eq_true huser').symm)
      exact ⟨(j, c'), serviceCase, hprofile, hcase, hid⟩
  · rw [listed_beneficiary hrole, CaseAccessGuard.beneficiary_iff hrole]
    constructor
    · rintro ⟨p, serviceCase, hp, hcase, hid⟩
      exact ⟨serviceCase, p, hcase, hp, hid⟩
    · rintro ⟨serviceCase, p, hcase, hp, hid⟩
      exact ⟨p, serviceCase, hp, hcase, hid⟩
  · rw [listed_assigned hrole, CaseAccessGuard.assigned_iff hrole]

/-- A beneficiary with a case of his own among two, which an agent works on as well. -/
def twoCasesDb : Db where
  customer := Table.empty.insert { userId := 1 }
  beneficiary := Table.empty.insert { customerId := 0, userId := some 2 }
  agent := Table.empty.insert { userId := 3, isActive := true }
  assignment := Table.empty.insert
    { caseId := 1, role := .fieldAgent, agentId := some 0, providerId := none
      scheduledFor := none }
  serviceCase := (Table.empty.insert
    { customerId := 0, serviceType := .familySupport, description := "", location := "" }).insert
    { customerId := 0, serviceType := .familySupport, description := "", location := ""
      beneficiaryId := some 0 }

lemma oneCustomerPerUser_twoCasesDb : twoCasesDb.OneCustomerPerUser := by
  intro i j c c' hi hj _
  have hi' := Table.lt_next_of_get? _ hi
  have hj' := Table.lt_next_of_get? _ hj
  change i < 1 at hi'
  change j < 1 at hj'
  omega

theorem listed_iff_admitted_twoCases :
    (Listed (fun _ => 0) twoCasesDb ⟨2, .beneficiary⟩ 1 ↔
      CaseAccessGuard.canActivate twoCasesDb ⟨2, .beneficiary⟩ 1 = .ok ()) ∧
    (Listed (fun _ => 0) twoCasesDb ⟨3, .fieldAgent⟩ 0 ↔
      CaseAccessGuard.canActivate twoCasesDb ⟨3, .fieldAgent⟩ 0 = .ok ()) :=
  ⟨listed_iff_admitted oneCustomerPerUser_twoCasesDb (by decide) 1,
    listed_iff_admitted oneCustomerPerUser_twoCasesDb (by decide) 0⟩

end CasesService

/-! ## How the staff come by their cases -/

/-- The database, with the column of the cases that says who owns them. -/
structure Desk where
  db : Db
  ownerUserId : Id → Option Id

abbrev DeskSvc (α : Type) := Prog Desk Act HttpError α

/-- What the client throws when a row refers to one that is not there. -/
def foreignKeyViolation : HttpError := .internal "Foreign key constraint violated"

namespace DeskService

def query {γ : Type} (m : Model) (q : Db → γ) : DeskSvc γ := .read (.find m) fun s => q s.db

def audit : DeskSvc Unit := .write (.create .auditEvent) id

/-- The row refers to a case and a user that are there. -/
def refers (d : Db) (row : CaseCollaborator) : Bool :=
  (d.serviceCase.get? row.caseId).isSome && (d.user.get? row.userId).isSome

/-- `caseCollaborator.upsert`: a row that is there stays as it is. -/
def upsertCollaborator (row : CaseCollaborator) : DeskSvc CaseCollaborator :=
  .atom (.update .caseCollaborator)
    (fun s => if row ∈ s.db.caseCollaborator.values then s
      else if refers s.db row then { s with db := s.db.insertRow .caseCollaborator row }
      else s)
    fun s => if row ∈ s.db.caseCollaborator.values ∨ refers s.db row then .ret row
      else .fail foreignKeyViolation

/-- `serviceCase.update` of the owner. -/
def updateOwner (caseId ownerUserId : Id) : DeskSvc ServiceCase :=
  .atom (.update .serviceCase)
    (fun s => if (s.db.serviceCase.get? caseId).isNone then s
      else { s with ownerUserId := Function.update s.ownerUserId caseId (some ownerUserId) })
    fun s => match s.db.serviceCase.get? caseId with
      | some serviceCase => .ret serviceCase
      | none => .fail ProfileService.rowToUpdateNotFound

def addCollaborator (caseId userId : Id) (role : CollaboratorRole) : DeskSvc CaseCollaborator := do
  let serviceCase ← query .serviceCase (·.serviceCase.get? caseId)
  match serviceCase with
  | none => throw (.notFound "Case not found")
  | some _ =>
      let collaborator ← upsertCollaborator ⟨caseId, userId, role⟩
      audit
      return collaborator

def claimCase (actor : AuthenticatedUser) (caseId : Id) : DeskSvc CaseCollaborator :=
  match collaboratorRoleByUserRole actor.role with
  | none => throw (.badRequest "This role cannot claim cases")
  | some role => addCollaborator caseId actor.id role

/-- The owner has been written: he is let in, unless he is let in anyway. -/
def admitOwner (caseId : Id) (ownerUserId : Id) (role : Role) : DeskSvc Unit :=
  match collaboratorRoleByUserRole role with
  | none => pure ()
  | some role => do
      let _ ← upsertCollaborator ⟨caseId, ownerUserId, role⟩
      return ()

def assignOwner (caseId ownerUserId : Id) : DeskSvc ServiceCase := do
  let serviceCase ← query .serviceCase (·.serviceCase.get? caseId)
  match serviceCase with
  | none => throw (.notFound "Case not found")
  | some _ =>
      let owner ← query .user (·.user.get? ownerUserId)
      match owner with
      | none => throw (.badRequest "Case owner must be an operational staff member")
      | some owner =>
          if owner.role ∉ opsRoles then
            throw (.badRequest "Case owner must be an operational staff member")
          else
            let updated ← updateOwner caseId ownerUserId
            admitOwner caseId ownerUserId owner.role
            audit
            return updated

end DeskService

/-! ### What stays -/

/-- Nobody becomes somebody else, no case goes away, and nobody is taken off a case. -/
structure Db.KeepsAccess (d d' : Db) : Prop where
  identities : d.KeepsIdentities d'
  cases : ∀ i, (d.serviceCase.get? i).isSome → (d'.serviceCase.get? i).isSome
  collaborators : ∀ row ∈ d.caseCollaborator.values, row ∈ d'.caseCollaborator.values

lemma Db.KeepsAccess.refl (d : Db) : d.KeepsAccess d := ⟨.refl d, fun _ h => h, fun _ h => h⟩

lemma Db.KeepsAccess.trans {a b c : Db} (hab : a.KeepsAccess b) (hbc : b.KeepsAccess c) :
    a.KeepsAccess c :=
  ⟨hab.identities.trans hbc.identities, fun i h => hbc.cases i (hab.cases i h),
    fun row h => hbc.collaborators row (hab.collaborators row h)⟩

lemma Db.keepsAccess_insertCollaborator (d : Db) (row : CaseCollaborator) :
    d.KeepsAccess (d.insertRow .caseCollaborator row) where
  identities := fun _ _ h => h
  cases := fun _ h => h
  collaborators := by
    intro row' h
    change row' ∈ (d.caseCollaborator.insert row).values
    rw [Table.values_insert]
    exact List.mem_append_left _ h

/-- The user is on the case: as one of its collaborators, or as an administrator. -/
def Db.OnCase (d : Db) (userId caseId : Id) : Prop :=
  (d.serviceCase.get? caseId).isSome ∧
    ((∃ role, ⟨caseId, userId, role⟩ ∈ d.caseCollaborator.values) ∨
      ∃ x, d.identity userId = some x ∧ x.role ∈ accountAdminRoles)

lemma Db.OnCase.later {d d' : Db} {userId caseId : Id} (h : d.OnCase userId caseId)
    (hkeeps : d.KeepsAccess d') : d'.OnCase userId caseId := by
  obtain ⟨hcase, ⟨role, hrow⟩ | ⟨x, hx, hadmin⟩⟩ := h
  · exact ⟨hkeeps.cases _ hcase, Or.inl ⟨role, hkeeps.collaborators _ hrow⟩⟩
  · exact ⟨hkeeps.cases _ hcase, Or.inr ⟨x, hkeeps.identities _ _ hx, hadmin⟩⟩

/-- A member of the staff who is on the case is let in. -/
lemma Db.OnCase.canActivate {d : Db} {userId caseId : Id} (h : d.OnCase userId caseId) {user : User}
    (huser : d.user.get? userId = some user) (hops : user.role ∈ opsRoles) :
    CaseAccessGuard.canActivate d ⟨userId, user.role⟩ caseId = .ok () := by
  obtain ⟨hcase, haccess⟩ := h
  obtain ⟨serviceCase, hcase⟩ := Option.isSome_iff_exists.mp hcase
  rw [CaseAccessGuard.canActivate]
  by_cases hadmin : user.role = .admin ∨ user.role = .superAdmin
  · rw [if_pos hadmin]
  · have hrow : (d.caseCollaborator.values.any fun c =>
        c.caseId = caseId ∧ c.userId = userId) = true := by
      rcases haccess with ⟨role, hrow⟩ | ⟨x, hx, hadmin'⟩
      · exact List.any_eq_true.mpr ⟨_, hrow, by simp⟩
      · rw [Db.identity_of_get? huser] at hx
        cases hx
        change user.role ∈ accountAdminRoles at hadmin'
        simp only [accountAdminRoles, List.mem_cons, List.not_mem_nil, or_false] at hadmin'
        exact absurd hadmin' hadmin
    rw [if_neg hadmin, hcase]
    dsimp only
    -- The roles of the staff are those that the guard does not name.
    cases hrole : user.role
    all_goals first
      | exact CaseAccessGuard.ok_of_if.mpr hrow
      | exact absurd (hrole ▸ hops) (by decide)

/-! ### The calls -/

/-- Anything else that the platform does: it takes nobody off a case. -/
structure OtherDeskWrite where
  act : Act
  write : Db → Db
  keeps : ∀ d : Db, d.KeepsAccess (write d)

inductive DeskOp
  | addCollaborator (caseId userId : Id) (role : CollaboratorRole)
  | claimCase (actor : AuthenticatedUser) (caseId : Id)
  | assignOwner (caseId ownerUserId : Id)
  | other (w : OtherDeskWrite)

namespace DeskOp

def code : DeskOp → DeskSvc Unit
  | addCollaborator caseId userId role => do
      let _ ← DeskService.addCollaborator caseId userId role
      return ()
  | claimCase actor caseId => do
      let _ ← DeskService.claimCase actor caseId
      return ()
  | assignOwner caseId ownerUserId => do
      let _ ← DeskService.assignOwner caseId ownerUserId
      return ()
  | other w => .write w.act fun s => { s with db := w.write s.db }

/-- Whom the call puts on which case. -/
def seats : DeskOp → Option (Id × Id)
  | addCollaborator caseId userId _ => some (userId, caseId)
  | claimCase actor caseId => some (actor.id, caseId)
  | assignOwner caseId ownerUserId => some (ownerUserId, caseId)
  | other _ => none

end DeskOp

/-- A call, with the step at which it fails, if it does. -/
structure DeskCall where
  op : DeskOp
  fault : Option (ℕ × HttpError) := none

def DeskCall.code (c : DeskCall) : DeskSvc Unit := c.op.code.withFault c.fault

/-- The run of a pool that is idle in the beginning. -/
abbrev deskRun (s : Desk) (es : List (Event DeskCall)) : Pool Desk Act HttpError Unit DeskCall :=
  runFrom (Pool.step DeskCall.code) (Pool.idle s) es

/-! ### What they rely on -/

/-- The owner was the owner in the beginning, or is a member of the staff. -/
def Desk.OwnersAreStaff (s₀ s : Desk) : Prop :=
  ∀ caseId i, s.ownerUserId caseId = some i → s₀.ownerUserId caseId = some i ∨
    ∃ x, s.db.identity i = some x ∧ x.role ∈ opsRoles

/-- The part of one program: its answer is that somebody is on a case. -/
abbrev Seats {α : Type} (s₀ : Desk) (Q : Db → Prop) (K : Desk → Prop) (m : DeskSvc α) : Prop :=
  m.Upholds s₀.OwnersAreStaff (fun s s' => s.db.KeepsAccess s'.db)
    (fun r s => r.isOk = true → Q s.db) K

section Desks

variable {s₀ s : Desk} {caseId userId : Id}

lemma Desk.OwnersAreStaff.later (h : s₀.OwnersAreStaff s) {d : Db} (hkeeps : s.db.KeepsAccess d) :
    s₀.OwnersAreStaff { s with db := d } := by
  intro c i hi
  rcases h c i hi with hstart | ⟨x, hx, hops⟩
  · exact Or.inl hstart
  · exact Or.inr ⟨x, hkeeps.identities _ _ hx, hops⟩

lemma seats_throw {α : Type} {Q : Db → Prop} {K : Desk → Prop} (e : HttpError) :
    Seats s₀ Q K (throw e : DeskSvc α) := fun _ _ _ hr => nomatch hr

/-- What comes after the work does not undo it. -/
lemma Seats.andThen {α β : Type} {Q : Db → Prop} {K : Desk → Prop} {m : DeskSvc α}
    {f : α → DeskSvc β} (hm : Seats s₀ Q K m) (hf : ∀ a, Seats s₀ Q (fun s => Q s.db) (f a)) :
    Seats s₀ Q K (m >>= f) :=
  .bind hm (fun a => (hf a).weaken fun _ _ h => h rfl) fun _ _ _ _ hr => nomatch hr

/-- The answer that somebody is on the case. -/
lemma seats_pure {α : Type} (a : α) :
    Seats s₀ (Db.OnCase · userId caseId) (fun s => s.db.OnCase userId caseId)
      (pure a : DeskSvc α) := fun _ _ hs _ => hs

lemma seats_audit :
    Seats s₀ (Db.OnCase · userId caseId) (fun s => s.db.OnCase userId caseId)
      DeskService.audit :=
  fun s hI hs => ⟨⟨hI, .refl s.db⟩, fun _ _ hR _ => hs.later hR⟩

/-- After `upsert` the row is there. -/
lemma seats_upsertCollaborator (role : CollaboratorRole) :
    Seats s₀ (Db.OnCase · userId caseId) (fun s => (s.db.serviceCase.get? caseId).isSome)
      (DeskService.upsertCollaborator ⟨caseId, userId, role⟩) := by
  intro s hI hcase
  dsimp only
  by_cases hthere : ⟨caseId, userId, role⟩ ∈ s.db.caseCollaborator.values
  · rw [if_pos hthere, if_pos (Or.inl hthere)]
    have hon : s.db.OnCase userId caseId := ⟨hcase, Or.inl ⟨role, hthere⟩⟩
    exact ⟨⟨hI, .refl _⟩, fun s' _ hR _ => hon.later hR⟩
  by_cases hrefers : DeskService.refers s.db ⟨caseId, userId, role⟩
  · rw [if_neg hthere, if_pos hrefers, if_pos (Or.inr hrefers)]
    have hkeeps := s.db.keepsAccess_insertCollaborator ⟨caseId, userId, role⟩
    have hrow : ⟨caseId, userId, role⟩ ∈
        (s.db.insertRow .caseCollaborator ⟨caseId, userId, role⟩).caseCollaborator.values := by
      change _ ∈ (s.db.caseCollaborator.insert _).values
      rw [Table.values_insert]
      exact List.mem_append_right _ (List.mem_singleton_self _)
    refine ⟨⟨hI.later hkeeps, hkeeps⟩, fun s' _ hR _ => ?_⟩
    exact ⟨hR.cases _ (hkeeps.cases _ hcase), Or.inl ⟨role, hR.collaborators _ hrow⟩⟩
  · rw [if_neg hthere, if_neg hrefers, if_neg (not_or.mpr ⟨hthere, hrefers⟩)]
    exact ⟨⟨hI, .refl _⟩, fun _ _ _ hr => nomatch hr⟩

/-- A look at the database. -/
lemma seats_query {α γ : Type} {Q : Db → Prop} {K : Desk → Prop} {m : Model} {q : Db → γ}
    {f : γ → DeskSvc α}
    (h : ∀ s, K s → Seats s₀ Q (fun s' => s.db.KeepsAccess s'.db) (f (q s.db))) :
    Seats s₀ Q K (DeskService.query m q >>= f) :=
  Prog.Upholds.read_bind (fun s => .refl s.db) fun s _ hs => h s hs

lemma seats_addCollaborator (caseId userId : Id) (role : CollaboratorRole) :
    Seats s₀ (Db.OnCase · userId caseId) (fun _ => True)
      (DeskService.addCollaborator caseId userId role) := by
  refine seats_query fun s _ => ?_
  rcases hcase : s.db.serviceCase.get? caseId with _ | serviceCase
  · exact seats_throw _
  have hthere : (s.db.serviceCase.get? caseId).isSome := by rw [hcase, Option.isSome_some]
  refine Prog.Upholds.weaken ?_ fun _ _ hR => hR.cases _ hthere
  exact (seats_upsertCollaborator role).andThen fun _ => seats_audit.andThen fun _ => seats_pure _

lemma seats_claimCase (actor : AuthenticatedUser) (caseId : Id) :
    Seats s₀ (Db.OnCase · actor.id caseId) (fun _ => True)
      (DeskService.claimCase actor caseId) := by
  rw [DeskService.claimCase]
  cases collaboratorRoleByUserRole actor.role with
  | none => exact seats_throw _
  | some role => exact seats_addCollaborator caseId actor.id role

/-- Of the staff, only the administrators are not let in as collaborators. -/
lemma admin_of_no_collaboratorRole {role : Role} (hops : role ∈ opsRoles)
    (hnone : collaboratorRoleByUserRole role = none) : role ∈ accountAdminRoles := by
  revert hops hnone
  cases role <;> decide

/-- An owner of the staff is let in. -/
lemma seats_admitOwner {owner : User} (hops : owner.role ∈ opsRoles) :
    Seats s₀ (Db.OnCase · userId caseId)
      (fun s => (s.db.serviceCase.get? caseId).isSome ∧ s.db.identity userId = some owner.identity)
      (DeskService.admitOwner caseId userId owner.role) := by
  rw [DeskService.admitOwner]
  cases hrole : collaboratorRoleByUserRole owner.role with
  | none =>
    have hadmin := admin_of_no_collaboratorRole hops hrole
    exact fun s _ hs _ => ⟨hs.1, Or.inr ⟨_, hs.2, hadmin⟩⟩
  | some role =>
    refine Seats.andThen (Prog.Upholds.weaken (seats_upsertCollaborator role) ?_) fun _ =>
      seats_pure _
    exact fun _ _ hs => hs.1

/-- The owner is written when he has been seen to be of the staff. -/
lemma seats_updateOwner {α : Type} {Q : Db → Prop} {owner : User} (hops : owner.role ∈ opsRoles)
    {f : ServiceCase → DeskSvc α}
    (hf : ∀ c, Seats s₀ Q (fun s => (s.db.serviceCase.get? caseId).isSome ∧
      s.db.identity userId = some owner.identity) (f c)) :
    Seats s₀ Q (fun s => s.db.identity userId = some owner.identity)
      (DeskService.updateOwner caseId userId >>= f) := by
  intro s hI hidentity
  dsimp only
  cases hcase : s.db.serviceCase.get? caseId with
  | none => exact ⟨⟨hI, .refl _⟩, fun _ _ _ hr => nomatch hr⟩
  | some serviceCase =>
    refine ⟨⟨fun c i hi => ?_, .refl _⟩, (hf serviceCase).weaken fun s' _ hR => ?_⟩
    · change Function.update s.ownerUserId caseId (some userId) c = some i at hi
      rw [Function.update_apply] at hi
      split_ifs at hi
      · cases hi
        exact Or.inr ⟨_, hidentity, hops⟩
      · exact hI c i hi
    · have hthere : (s.db.serviceCase.get? caseId).isSome := by rw [hcase, Option.isSome_some]
      exact ⟨hR.cases _ hthere, hR.identities _ _ hidentity⟩

lemma seats_assignOwner (caseId userId : Id) :
    Seats s₀ (Db.OnCase · userId caseId) (fun _ => True)
      (DeskService.assignOwner caseId userId) := by
  refine seats_query fun s _ => ?_
  rcases s.db.serviceCase.get? caseId with _ | serviceCase
  · exact seats_throw _
  refine seats_query fun s hs => ?_
  rcases howner : s.db.user.get? userId with _ | owner
  · exact seats_throw _
  dsimp only
  split_ifs with hrole
  swap
  · exact seats_throw _
  have hidentity := Db.identity_of_get? howner
  refine Prog.Upholds.weaken (K := fun s => s.db.identity userId = some owner.identity) ?_
    fun _ _ hR => hR.identities _ _ hidentity
  refine seats_updateOwner (Q := (Db.OnCase · userId caseId)) hrole fun updated => ?_
  exact (seats_admitOwner hrole).andThen fun _ => seats_audit.andThen fun _ => seats_pure _

/-- **Every call does its part**, wherever it fails. -/
theorem DeskCall.seats_code (c : DeskCall) :
    Seats s₀ (fun d => ∀ p, c.op.seats = some p → d.OnCase p.1 p.2) (fun _ => True) c.code := by
  obtain ⟨op, fault⟩ := c
  refine .withFault ?_ (fun _ _ hr => nomatch hr) fault
  cases op with
  | addCollaborator caseId userId role =>
    refine ((seats_addCollaborator caseId userId role).andThen fun _ => seats_pure _).conseq ?_
    rintro r s _ h hr p ⟨⟩
    exact h hr
  | claimCase actor caseId =>
    refine ((seats_claimCase actor caseId).andThen fun _ => seats_pure _).conseq ?_
    rintro r s _ h hr p ⟨⟩
    exact h hr
  | assignOwner caseId ownerUserId =>
    refine ((seats_assignOwner caseId ownerUserId).andThen fun _ => seats_pure _).conseq ?_
    rintro r s _ h hr p ⟨⟩
    exact h hr
  | other w =>
    intro s hI _
    have hkeeps := w.keeps s.db
    exact ⟨⟨hI.later hkeeps, hkeeps⟩, fun _ _ _ _ p hp => nomatch hp⟩

end Desks

/-! ### Every run -/

section Runs

variable (s₀ : Desk) (es : List (Event DeskCall))

lemma upheld_deskRun :
    Pool.Upheld s₀.OwnersAreStaff (fun s s' => s.db.KeepsAccess s'.db)
      (fun c r s => r.isOk = true → ∀ p, c.op.seats = some p → s.db.OnCase p.1 p.2)
      (deskRun s₀ es) :=
  (Pool.upheld (fun _ => .refl _) (fun _ _ _ => .trans)
    (fun _ _ h => Or.inl h) es fun c _ => c.seats_code).1

/-- **Who has been put on a case can open it**, and goes on to be able to: after every run, whatever
failed in it, a member of the staff whom a call has put on a case is let in.  The owner of a case is
the one of the beginning or is a member of the staff. -/
theorem seated :
    (∀ t ∈ (deskRun s₀ es).threads, t.rest = .ret () → ∀ userId caseId user,
      t.call.op.seats = some (userId, caseId) →
      (deskRun s₀ es).shared.db.user.get? userId = some user → user.role ∈ opsRoles →
      CaseAccessGuard.canActivate (deskRun s₀ es).shared.db ⟨userId, user.role⟩ caseId = .ok ()) ∧
    ∀ caseId i, (deskRun s₀ es).shared.ownerUserId caseId = some i →
      s₀.ownerUserId caseId = some i ∨
        ∃ user, (deskRun s₀ es).shared.db.user.get? i = some user ∧ user.role ∈ opsRoles := by
  have hupheld := upheld_deskRun s₀ es
  refine ⟨fun t ht hrest userId caseId user hseats huser hops => ?_, fun caseId i hi => ?_⟩
  · have hon := hupheld.returned ht hrest rfl _ hseats
    exact hon.canActivate huser hops
  · rcases hupheld.1 caseId i hi with hstart | ⟨x, hx, hops⟩
    · exact Or.inl hstart
    · obtain ⟨user, huser, rfl⟩ := Option.map_eq_some_iff.mp hx
      exact Or.inr ⟨user, huser, hops⟩

end Runs

/-- A case, with a case manager and somebody of the finance department, who have nothing to do with
it yet. -/
def deskStart : Desk where
  db := { serviceCase := Table.empty.insert
            { customerId := 0, serviceType := .familySupport, description := "", location := "" }
          user := (Table.empty.insert { email := some "m@b.c", role := .caseManager }).insert
            { email := some "f@b.c", role := .finance } }
  ownerUserId := fun _ => none

/-- The case is given to the case manager while the other one claims it. -/
def handover : List (Event DeskCall) :=
  [.start ⟨.assignOwner 0 0, none⟩, .start ⟨.claimCase ⟨1, .finance⟩ 0, none⟩,
    .sched 0, .sched 1, .sched 0, .sched 1, .sched 0, .sched 0, .sched 1, .sched 0]

theorem seated_handover :
    CaseAccessGuard.canActivate (deskRun deskStart handover).shared.db ⟨0, .caseManager⟩ 0 =
        .ok () ∧
      CaseAccessGuard.canActivate (deskRun deskStart handover).shared.db ⟨1, .finance⟩ 0 = .ok () :=
  ⟨(seated deskStart handover).1 ((deskRun deskStart handover).threads.head (by decide))
      (List.head_mem _) rfl 0 0 { email := some "m@b.c", role := .caseManager }
      rfl rfl (by decide),
    (seated deskStart handover).1 ((deskRun deskStart handover).threads.getLast (by decide))
      (List.getLast_mem _) rfl 1 0 { email := some "f@b.c", role := .finance }
      rfl rfl (by decide)⟩

end Asoju
