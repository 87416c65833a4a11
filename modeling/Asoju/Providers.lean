/-
Providers: how a professional comes to be trusted with the customers' cases.

A provider is reviewed and verified before he is active.  `providerTransitions` is the table of the
statuses, `updateStatus` the one method that writes them, and an assignment may go to a provider who
is verified or active.  Each of these methods reads the status, checks it and writes later.

`ProviderCall.vetted` is about any number of such calls at once: whatever the interleaving, nobody
is assigned who has not been under review and verified before.  The names and the places of the
providers are left out, and so are their credentials.
-/
import Asoju.Lib.Walks
import Asoju.Ratings
import Asoju.Registration

namespace Asoju

open Lib

/-! ## The statuses -/

def ProviderStatus.name : ProviderStatus → String
  | .pending => "PENDING"
  | .underReview => "UNDER_REVIEW"
  | .verified => "VERIFIED"
  | .active => "ACTIVE"
  | .restricted => "RESTRICTED"
  | .suspended => "SUSPENDED"
  | .removed => "REMOVED"

def providerTransitions : ProviderStatus → List ProviderStatus
  | .pending => [.underReview, .removed]
  | .underReview => [.verified, .removed]
  | .verified => [.active, .restricted, .suspended]
  | .active => [.restricted, .suspended]
  | .restricted => [.active, .suspended, .removed]
  | .suspended => [.active, .restricted, .removed]
  | .removed => []

/-- The error of a transition that the table does not have. -/
def invalidProviderTransition (src dst : ProviderStatus) : HttpError :=
  let allowed := ", ".intercalate ((providerTransitions src).map ProviderStatus.name)
  let shown := if allowed = "" then "(none — terminal state)" else allowed
  .badRequest (s!"Invalid provider status transition: {src.name} -> {dst.name}. " ++
    s!"Allowed from {src.name}: {shown}")

def assertValidProviderTransition (src dst : ProviderStatus) : Svc Unit :=
  if dst ∈ providerTransitions src then pure ()
  else throw (invalidProviderTransition src dst)

/-! ## The service -/

structure CreateProviderDto where
  email : String
  phone : Option String := none
  password : String
deriving DecidableEq, Repr

/-- `user.create` with its provider, in one write.  E-mail addresses and phone numbers of users are
unique. -/
def createProviderUser (taken : Db → Bool) (user : User) (provider : Id → Provider) : Svc Id :=
  .atom (.create .user)
    (fun d => if taken d then d
      else (d.insertRow .user user).insertRow .provider (provider d.user.next))
    fun d => if taken d then .fail Prisma.uniqueViolation else .ret d.provider.next

namespace ProvidersService

/-- `argon2Hash` makes the hash of a password under a salt, and `salt` is the one drawn here. -/
def createProvider (argon2Hash : String → String → String) (salt : String)
    (dto : CreateProviderDto) : Svc Id := do
  let existing ← Prisma.query .user (·.userByEmail dto.email)
  if existing.isSome then throw (.conflict "An account with this email already exists")
  let providerId ← createProviderUser (·.userTaken dto.email dto.phone)
    { email := some dto.email, phone := dto.phone
      passwordHash := some (argon2Hash salt dto.password), role := .provider }
    fun userId => { userId, status := .pending }
  Prisma.audit
  return providerId

def updateStatus (providerId : Id) (status : ProviderStatus) : Svc Provider := do
  let some provider ← Prisma.findUnique .provider providerId
    | throw (.notFound "Provider not found")
  assertValidProviderTransition provider.status status
  let updated ← Prisma.update .provider providerId fun _ p => { p with status }
  Prisma.audit
  return updated

end ProvidersService

/-! ## What is seen of a provider -/

/-- The status of a provider, and whether there is an assignment for him. -/
structure Standing where
  status : ProviderStatus
  assigned : Bool
deriving DecidableEq, Repr

/-- How a provider stands.  One who is not there yet is pending, as he will be. -/
def standing (providerId : Id) (d : Db) : Standing where
  status := ((d.provider.get? providerId).map Provider.status).getD .pending
  assigned := decide (some providerId ∈ d.assignment.values.map Assignment.providerId)

/-- What a call that has seen `x` makes of `y`: it moves the status, or it assigns the provider. -/
inductive StandingWrites (x y : Standing) : Standing → Prop
  | move {dst : ProviderStatus} (h : dst ∈ providerTransitions x.status) :
      StandingWrites x y { y with status := dst }
  | assign (h : x.status = .verified ∨ x.status = .active) :
      StandingWrites x y { y with assigned := true }

/-- A program that leaves the providers' statuses alone, and whom the assignments are for. -/
def KeepsStanding {α : Type} (providerId : Id) (m : Svc α) : Prop :=
  m.EachStep fun _ d d' => standing providerId d' = standing providerId d

abbrev StandingInformed {α : Type} (providerId : Id) (seen : List Standing) (m : Svc α) : Prop :=
  m.Informed (standing providerId) StandingWrites seen

section Standing

variable {providerId : Id} {d d' : Db}

lemma standing_congr (hprovider : d'.provider = d.provider)
    (hassignment : d'.assignment = d.assignment) :
    standing providerId d' = standing providerId d := by
  rw [standing, standing, hprovider, hassignment]

/-- A change of a provider that keeps the status. -/
lemma standing_modify_provider {f : Provider → Provider} (hf : ∀ p, (f p).status = p.status)
    (i : Id) : standing providerId (d.modifyRow .provider i f) = standing providerId d := by
  have hget : (d.modifyRow .provider i f).provider.get? providerId =
      (d.provider.modify i f).get? providerId := rfl
  simp only [standing, hget, d.provider.map_get?_modify i hf]
  rfl

/-- A change of an assignment that keeps the person. -/
lemma standing_modify_assignment {f : Assignment → Assignment}
    (hf : ∀ a, (f a).providerId = a.providerId) (i : Id) :
    standing providerId (d.modifyRow .assignment i f) = standing providerId d := by
  have hvalues : (d.modifyRow .assignment i f).assignment.values.map Assignment.providerId =
      (d.assignment.modify i f).values.map Assignment.providerId := rfl
  simp only [standing, hvalues, d.assignment.map_values_modify i f _ fun a _ => hf a]
  rfl

/-- A new provider is pending, as he was before he was there. -/
lemma standing_insert_provider {p : Provider} (hp : p.status = .pending) :
    standing providerId (d.insertRow .provider p) = standing providerId d := by
  have hget : (d.insertRow .provider p).provider.get? providerId =
      (d.provider.insert p).get? providerId := rfl
  have hstatus : (((d.provider.insert p).get? providerId).map Provider.status).getD .pending =
      ((d.provider.get? providerId).map Provider.status).getD .pending := by
    rw [Table.get?_insert]
    by_cases h : providerId = d.provider.next
    · rw [if_pos h, h, Table.get?_next, Option.map_some, Option.getD_some, hp]
      rfl
    · rw [if_neg h]
  simp only [standing, hget, hstatus]
  rfl

variable (providerId d) in
/-- A new assignment. -/
lemma standing_insert_assignment (a : Assignment) :
    standing providerId (d.insertRow .assignment a) =
      { standing providerId d with
        assigned := (standing providerId d).assigned ||
          decide (a.providerId = some providerId) } := by
  have hvalues : (d.insertRow .assignment a).assignment.values = d.assignment.values ++ [a] :=
    Table.values_insert d.assignment a
  simp only [standing, hvalues, List.map_append, List.map_cons, List.map_nil, List.mem_append,
    List.mem_singleton, Bool.decide_or, eq_comm (a := some providerId)]
  rfl

end Standing

/-! ## What the methods may do to it -/

section Keeps

variable {providerId : Id}

lemma keeps_query {γ : Type} (m : Model) (q : Db → γ) :
    KeepsStanding providerId (Prisma.query m q) := fun _ => ⟨rfl, trivial⟩

/-- A new row of another table. -/
lemma keeps_create {β : Type} {r : Rel β} (hprovider : ∀ d t, (r.set d t).provider = d.provider)
    (hassignment : ∀ d t, (r.set d t).assignment = d.assignment) (b : Time → β) :
    KeepsStanding providerId (Prisma.create r b) :=
  fun _ => ⟨standing_congr (hprovider _ _) (hassignment _ _), trivial⟩

/-- A change of a row, which may be missing. -/
lemma keeps_update {β : Type} {r : Rel β} {i : Id} {f : Time → β → β}
    (h : ∀ d, standing providerId (d.modifyRow r i (f d.clock)) = standing providerId d) :
    KeepsStanding providerId (Prisma.update r i f) := by
  refine fun d => ⟨h d, ?_⟩
  beta_reduce
  cases (r.get d).get? i <;> exact trivial

lemma keeps_transitionCase (actor : AuthenticatedUser) (i : Id) (toStatus : CaseStatus)
    (reason : Option String) :
    KeepsStanding providerId (CasesService.transitionCase actor i toStatus reason) := by
  rw [CasesService.transitionCase, CasesService.applyTransition]
  refine .bind (keeps_query _ _) fun c => ?_
  cases c with
  | none => exact trivial
  | some c =>
    dsimp only
    refine .bind ?_ fun _ => ?_
    · rw [assertValidTransition]
      split_ifs <;> exact trivial
    · refine .bind (keeps_update fun d => standing_congr rfl rfl) fun updated => ?_
      exact .bind (keeps_create (r := .caseStatusHistory) (fun _ _ => rfl) (fun _ _ => rfl) _)
        fun _ => trivial

/-- An answer to an assignment does not change whom it is for. -/
lemma keeps_answer (actor : AuthenticatedUser) (assignmentId : Id) (x : AssignmentDetail)
    {mark : Time → Assignment → Assignment} (hmark : ∀ t a, (mark t a).providerId = a.providerId)
    (toStatus : CaseStatus) (reason : String) :
    KeepsStanding providerId
      (AssignmentsService.answer actor assignmentId x mark toStatus reason) := by
  refine .bind (keeps_update fun d => standing_modify_assignment (hmark d.clock) _) fun a => ?_
  split_ifs
  · exact .bind (keeps_transitionCase _ _ _ _) fun _ => trivial
  · exact trivial

lemma keeps_requireOwned (actor : AuthenticatedUser) (assignmentId : Id) :
    KeepsStanding providerId
      (AssignmentsService.requireOwnedAssignment actor assignmentId) := by
  refine .bind (keeps_query _ _) fun x => ?_
  cases x with
  | none => exact trivial
  | some x =>
    dsimp only
    split_ifs <;> exact trivial

lemma keeps_accept (actor : AuthenticatedUser) (assignmentId : Id) :
    KeepsStanding providerId (AssignmentsService.acceptAssignment actor assignmentId) := by
  refine .bind (keeps_requireOwned _ _) fun x => ?_
  split_ifs
  · exact trivial
  · refine keeps_answer _ _ x (fun t a => ?_) _ _
    rfl

lemma keeps_decline (actor : AuthenticatedUser) (assignmentId : Id) :
    KeepsStanding providerId (AssignmentsService.declineAssignment actor assignmentId) := by
  refine .bind (keeps_requireOwned _ _) fun x => keeps_answer _ _ x (fun t a => ?_) _ _
  rfl

lemma keeps_recomputeAgentTier (agentId : Id) :
    KeepsStanding providerId (AgentTieringService.recomputeAgentTier agentId) := by
  refine .bind (keeps_query _ _) fun agent => ?_
  cases agent with
  | none => exact trivial
  | some agent =>
    exact .bind (keeps_query _ _) fun result => keeps_update fun d => standing_congr rfl rfl

/-- A rating goes into the scores, not into the statuses. -/
lemma keeps_rollInto (a : Assignment) : KeepsStanding providerId (RatingsService.rollInto a) := by
  rw [RatingsService.rollInto]
  split
  · refine .bind (keeps_query _ _) fun score => ?_
    refine .bind (keeps_update fun d => standing_congr rfl rfl) fun _ => ?_
    exact .bind (keeps_recomputeAgentTier _) fun _ => trivial
  · refine .bind (keeps_query _ _) fun score => ?_
    refine .bind (keeps_update fun d => ?_) fun _ => trivial
    refine standing_modify_provider (fun p => ?_) _
    rfl
  · exact trivial

lemma keeps_rollUp (assignments : List Assignment) :
    KeepsStanding providerId (RatingsService.rollUp assignments) := by
  induction assignments with
  | nil => exact trivial
  | cons a assignments ih => exact .bind (keeps_rollInto a) fun _ => ih

lemma keeps_rateCase (actor : AuthenticatedUser) (caseId : Id) (stars : ℤ)
    (comment : Option String) :
    KeepsStanding providerId (RatingsService.rateCase actor caseId stars comment) := by
  refine .bind (keeps_query _ _) fun x => ?_
  cases x with
  | none => exact trivial
  | some x =>
    dsimp only
    split
    · exact trivial
    split
    · exact trivial
    refine .bind (fun d => ⟨?_, ?_⟩) fun rating => .bind (keeps_rollUp _) fun _ => trivial
    · beta_reduce
      split
      · rfl
      · exact standing_congr rfl rfl
    · beta_reduce
      split <;> exact trivial

lemma keeps_createProvider (argon2Hash : String → String → String) (salt : String)
    (dto : CreateProviderDto) :
    KeepsStanding providerId (ProvidersService.createProvider argon2Hash salt dto) := by
  refine .bind (keeps_query _ _) fun existing => ?_
  split_ifs
  · exact trivial
  refine .bind (fun d => ⟨?_, ?_⟩) fun _ => fun d => ⟨standing_congr rfl rfl, trivial⟩
  · dsimp only
    split_ifs
    · rfl
    · exact (standing_insert_provider rfl).trans (standing_congr rfl rfl)
  · dsimp only
    split_ifs <;> exact trivial

end Keeps

/-! ## What the methods write of it -/

section Informed

variable {providerId : Id} {seen : List Standing}

lemma KeepsStanding.informed {α : Type} {m : Svc α} (h : KeepsStanding providerId m) :
    StandingInformed providerId seen m := .of_eachStep h seen

variable (providerId) in
/-- A change of the status of a provider is seen if it is his, and if he is there. -/
lemma standing_modify_status (i : Id) (status : ProviderStatus) (d : Db) :
    standing providerId (d.modifyRow .provider i fun p => { p with status }) =
        standing providerId d ∨
      (i = providerId ∧ standing providerId (d.modifyRow .provider i fun p => { p with status }) =
        { standing providerId d with status }) := by
  have hget : (d.modifyRow .provider i fun p => { p with status }).provider.get? providerId =
      (d.provider.modify i fun p => { p with status }).get? providerId := rfl
  by_cases hi : i = providerId
  · subst hi
    rw [Table.get?_modify_self] at hget
    cases hrow : d.provider.get? i with
    | none =>
      rw [hrow, Option.map_none] at hget
      refine Or.inl ?_
      simp only [standing, hget, hrow]
      rfl
    | some provider =>
      rw [hrow, Option.map_some] at hget
      refine Or.inr ⟨rfl, ?_⟩
      simp only [standing, hget]
      rfl
  · rw [Table.get?_modify_of_ne _ (Ne.symm hi)] at hget
    refine Or.inl ?_
    simp only [standing, hget]
    rfl

/-- A transition is one from the status that has been read. -/
lemma informed_updateStatus (i : Id) (status : ProviderStatus) :
    StandingInformed providerId seen (ProvidersService.updateStatus i status) := by
  refine .read_bind fun d => ?_
  cases hget : (Rel.provider.get d).get? i with
  | none => exact trivial
  | some provider =>
    dsimp only
    rw [assertValidProviderTransition]
    by_cases hmem : status ∈ providerTransitions provider.status
    · rw [if_pos hmem]
      refine fun d' => ⟨?_, ?_⟩
      · rcases standing_modify_status providerId i status d' with
          hsame | ⟨rfl, hmoved⟩
        · exact Or.inl hsame
        · -- The provider that has been read is this one.
          refine Or.inr ⟨standing i d, by simp, ?_⟩
          have hread : (standing i d).status = provider.status := by
            have hrow : d.provider.get? i = some provider := hget
            simp only [standing, hrow, Option.map_some, Option.getD_some]
          rw [← hread] at hmem
          rw [hmoved]
          exact .move hmem
      · beta_reduce
        cases (Rel.provider.get d').get? i with
        | none => exact trivial
        | some updated => exact fun d => ⟨Or.inl (standing_congr rfl rfl), trivial⟩
    · rw [if_neg hmem]
      exact trivial

/-- After the check of the assignee a provider has been seen verified or active. -/
lemma informed_checkAssignee_bind {α : Type} (dto : AssignmentsService.CreateAssignmentDto)
    {f : Unit → Svc α}
    (hf : ∀ seen', (dto.role = .provider → dto.providerId = some providerId →
      ∃ x ∈ seen', x.status = .verified ∨ x.status = .active) →
        StandingInformed providerId seen' (f ())) :
    StandingInformed providerId seen (AssignmentsService.checkAssignee dto >>= f) := by
  rw [AssignmentsService.checkAssignee]
  cases hrole : dto.role with
  | provider =>
    dsimp only
    rw [Prog.bind_assoc]
    refine .read_bind fun d => ?_
    cases hprovider : dto.providerId.bind d.provider.get? with
    | none => exact trivial
    | some provider =>
      dsimp only
      split_ifs with hstatus
      · exact trivial
      · refine hf _ fun _ hid => ⟨standing providerId d, by simp, ?_⟩
        rw [hid, Option.bind_some] at hprovider
        simp only [standing, hprovider, Option.map_some, Option.getD_some]
        rwa [not_and_or, not_not, not_not] at hstatus
  | fieldAgent =>
    dsimp only
    rw [Prog.bind_assoc]
    refine .read_bind fun d => ?_
    split_ifs
    · exact trivial
    · refine hf _ fun hprovider => ?_
      rw [hrole] at hprovider
      cases hprovider

/-- An assignment of a provider is one of a provider that has been seen verified or active. -/
lemma informed_createAssignment (actor : AuthenticatedUser) (caseId : Id)
    (dto : AssignmentsService.CreateAssignmentDto) :
    StandingInformed providerId seen (AssignmentsService.createAssignment actor caseId dto) := by
  refine .bind (keeps_query _ _).informed fun c => ?_
  cases c with
  | none => exact trivial
  | some c =>
    dsimp only
    split
    · exact trivial
    refine informed_checkAssignee_bind dto fun seen' hvetted => fun d => ⟨?_, ?_⟩
    · have hinsert := standing_insert_assignment providerId d
        (AssignmentsService.newAssignment caseId dto)
      by_cases hfor : (AssignmentsService.newAssignment caseId dto).providerId = some providerId
      · -- It is an assignment of this provider.
        have hgiven := hfor
        simp only [AssignmentsService.newAssignment] at hgiven
        split_ifs at hgiven with hrole
        obtain ⟨x, hx, hstatus⟩ := hvetted hrole hgiven
        refine Or.inr ⟨x, List.mem_append_left _ hx, ?_⟩
        rw [hinsert, hfor, decide_eq_true rfl, Bool.or_true]
        exact .assign hstatus
      · rw [decide_eq_false hfor, Bool.or_false] at hinsert
        exact Or.inl hinsert
    · beta_reduce
      dsimp only [bind, Prog.bind]
      split
      · exact .bind (keeps_transitionCase _ _ _ _).informed fun _ => trivial
      · exact trivial

end Informed

/-! ## Calls that run concurrently -/

/-- A call that concerns the providers. -/
inductive ProviderCall
  | createProvider (salt : String) (dto : CreateProviderDto)
  | updateStatus (providerId : Id) (status : ProviderStatus)
  | createAssignment (actor : AuthenticatedUser) (caseId : Id)
      (dto : AssignmentsService.CreateAssignmentDto)
  | acceptAssignment (actor : AuthenticatedUser) (assignmentId : Id)
  | declineAssignment (actor : AuthenticatedUser) (assignmentId : Id)
  | rateCase (actor : AuthenticatedUser) (caseId : Id) (stars : ℤ) (comment : Option String)
deriving DecidableEq, Repr

/-- The statuses that lead to the trust in a provider. -/
def vettingStages : List ProviderStatus := [.pending, .underReview, .verified]

/-- How far a provider has come. -/
def ProviderStatus.vetting : ProviderStatus → ℕ
  | .pending => 0
  | .underReview => 1
  | .removed => 0
  | _ => 2

def ProviderEdge (src dst : ProviderStatus) : Prop := dst ∈ providerTransitions src

/-- A transition goes no further, or to the next stage. -/
lemma ProviderEdge.vetting_cases {src dst : ProviderStatus} (h : ProviderEdge src dst) :
    dst.vetting ≤ src.vetting ∨
      (dst.vetting = src.vetting + 1 ∧ dst = vettingStages.getD dst.vetting .pending) := by
  have htable : ∀ dst ∈ providerTransitions src, dst.vetting ≤ src.vetting ∨
      (dst.vetting = src.vetting + 1 ∧ dst = vettingStages.getD dst.vetting .pending) := by
    cases src <;> decide
  exact htable dst h

lemma take_vettingStages (s : ProviderStatus) :
    (List.range (s.vetting + 1)).map (vettingStages.getD · .pending) =
      vettingStages.take (s.vetting + 1) := by
  cases s <;> decide

/-- A walk leads to the status, and an assigned provider has been vetted. -/
def Vetted (h : List Standing) (x : Standing) : Prop :=
  (h.map Standing.status).head? = some .pending ∧
    WalkTo ProviderEdge (h.map Standing.status) x.status ∧
    (x.assigned = true → vettingStages.Sublist (h.map Standing.status))

/-- The stages up to the status that a walk leads to. -/
lemma Vetted.stages {h : List Standing} {x : Standing} (hx : Vetted h x) :
    (vettingStages.take (x.status.vetting + 1)).Sublist (h.map Standing.status) := by
  rw [← take_vettingStages]
  exact hx.2.1.milestones hx.1 rfl fun _ _ hedge => hedge.vetting_cases

lemma vetted_grounds : Grounds StandingWrites Vetted where
  mono := by
    rintro h v x ⟨hfirst, hwalk, hassigned⟩
    rw [Vetted, List.map_append]
    refine ⟨(hwalk.head?_append _).trans hfirst, hwalk.mono _, fun ha => ?_⟩
    exact (hassigned ha).trans (List.sublist_append_left _ _)
  step := by
    rintro h x y z hwrites hx hy
    rw [Vetted, List.map_append]
    have hfirst := (hx.2.1.head?_append ([z].map Standing.status)).trans hx.1
    cases hwrites with
    | @move dst hedge =>
      refine ⟨hfirst, hx.2.1.move hedge, fun ha => ?_⟩
      exact (hy.2.2 ha).trans (List.sublist_append_left _ _)
    | assign hstatus =>
      refine ⟨hfirst, hy.2.1.mono _, fun _ => ?_⟩
      have hstages := hx.stages
      have hall : vettingStages.take (x.status.vetting + 1) = vettingStages := by
        rcases hstatus with h | h <;> rw [h] <;> rfl
      rw [hall] at hstages
      exact hstages.trans (List.sublist_append_left _ _)

namespace ProviderCall

variable (argon2Hash : String → String → String)

/-- The call as a program. -/
def code : ProviderCall → Svc Unit
  | createProvider salt dto =>
      ProvidersService.createProvider argon2Hash salt dto >>= fun _ => pure ()
  | updateStatus i status => ProvidersService.updateStatus i status >>= fun _ => pure ()
  | createAssignment actor i dto =>
      AssignmentsService.createAssignment actor i dto >>= fun _ => pure ()
  | acceptAssignment actor i => AssignmentsService.acceptAssignment actor i >>= fun _ => pure ()
  | declineAssignment actor i => AssignmentsService.declineAssignment actor i >>= fun _ => pure ()
  | rateCase actor i stars comment =>
      RatingsService.rateCase actor i stars comment >>= fun _ => pure ()

lemma informed (providerId : Id) (c : ProviderCall) :
    StandingInformed providerId [] (c.code argon2Hash) := by
  cases c with
  | createProvider salt dto => exact .bind (keeps_createProvider _ _ _).informed fun _ => trivial
  | updateStatus i status => exact .bind (informed_updateStatus _ _) fun _ => trivial
  | createAssignment actor i dto =>
    exact .bind (informed_createAssignment _ _ _) fun _ => trivial
  | acceptAssignment actor i => exact .bind (keeps_accept _ _).informed fun _ => trivial
  | declineAssignment actor i => exact .bind (keeps_decline _ _).informed fun _ => trivial
  | rateCase actor i stars comment =>
    exact .bind (keeps_rateCase _ _ _ _).informed fun _ => trivial

/-- The database after calls have run concurrently, from `d` on. -/
def after (d : Db) (es : List (Event ProviderCall)) : Db :=
  (runFrom (Pool.step (code argon2Hash)) (Pool.idle d) es).shared

/-- The statuses that a provider shows meanwhile. -/
def shownStatuses (providerId : Id) (d : Db) (es : List (Event ProviderCall)) :
    List ProviderStatus :=
  (shows (Pool.step (code argon2Hash)) (fun p => standing providerId p.shared) (Pool.idle d) es).map
    Standing.status

/-- **Nobody is trusted who has not been vetted**, however the calls are interleaved.  From a
database in which a provider is pending, or not there yet, and has no assignment: whatever his
status is in the end, he has got there along the transitions of the table and shown all stages up
to it, and if there is an assignment for him, then he has been pending, under review and verified,
in this order. -/
theorem vetted {d : Db} {providerId : Id}
    (hpending : ∀ p, d.provider.get? providerId = some p → p.status = .pending)
    (hnone : ∀ i a, d.assignment.get? i = some a → a.providerId ≠ some providerId)
    (es : List (Event ProviderCall)) :
    (∀ p, (after argon2Hash d es).provider.get? providerId = some p →
      WalkTo ProviderEdge (shownStatuses argon2Hash providerId d es) p.status ∧
        (vettingStages.take (p.status.vetting + 1)).Sublist
          (shownStatuses argon2Hash providerId d es)) ∧
    ∀ i a, (after argon2Hash d es).assignment.get? i = some a → a.providerId = some providerId →
      vettingStages.Sublist (shownStatuses argon2Hash providerId d es) := by
  have hstatus : (standing providerId d).status = .pending := by
    cases hrow : d.provider.get? providerId with
    | none => simp only [standing, hrow, Option.map_none, Option.getD_none]
    | some p => simp only [standing, hrow, Option.map_some, Option.getD_some, hpending p hrow]
  have hunassigned : (standing providerId d).assigned = false := by
    rw [standing, decide_eq_false_iff_not, List.mem_map]
    rintro ⟨a, ha, hfor⟩
    obtain ⟨i, hi⟩ := (Table.mem_values_iff _).mp ha
    exact hnone i a hi hfor
  have hstart : Vetted [standing providerId d] (standing providerId d) := by
    refine ⟨?_, WalkTo.start _ _, fun ha => ?_⟩
    · rw [List.map_singleton, List.head?_cons, hstatus]
    · rw [hunassigned] at ha
      cases ha
  have hend : Vetted _ (standing providerId (after argon2Hash d es)) :=
    Pool.grounded (informed argon2Hash providerId) vetted_grounds hstart es
  refine ⟨fun p hp => ?_, fun i a ha hfor => hend.2.2 ?_⟩
  · have hlast : (standing providerId (after argon2Hash d es)).status = p.status := by
      simp only [standing, hp, Option.map_some, Option.getD_some]
    rw [← hlast]
    exact ⟨hend.2.1, hend.stages⟩
  · rw [standing, decide_eq_true_eq]
    exact List.mem_map.mpr ⟨a, (Table.mem_values_iff _).mpr ⟨i, ha⟩, hfor⟩

/-- A database with one provider, who has just been created. -/
def newProvider : Db where
  provider := Table.empty.insert { userId := 0, status := .pending }

/-- Two calls have seen a pending provider: one removes him, the other takes him to review. -/
def lateReview : List (Event ProviderCall) :=
  [.start (.updateStatus 0 .underReview), .start (.updateStatus 0 .removed), .sched 0, .sched 1,
    .sched 1, .sched 0]

theorem vetted_newProvider :
    (∀ p, (after (· ++ ·) newProvider lateReview).provider.get? 0 = some p →
      WalkTo ProviderEdge (shownStatuses (· ++ ·) 0 newProvider lateReview) p.status ∧
        (vettingStages.take (p.status.vetting + 1)).Sublist
          (shownStatuses (· ++ ·) 0 newProvider lateReview)) ∧
    ∀ i a, (after (· ++ ·) newProvider lateReview).assignment.get? i = some a →
      a.providerId = some 0 →
        vettingStages.Sublist (shownStatuses (· ++ ·) 0 newProvider lateReview) := by
  refine vetted _ (fun p hp => ?_) (fun i a ha => by cases ha) _
  cases hp
  rfl

end ProviderCall

end Asoju
