/-
One case for each service request, as long as no conversion overtakes another.

Staff and the automatic decision convert requests side by side.  Each conversion checks that the
request is not converted before it creates the case, and nothing checks it again when the case is
created.  `one_case_iff` says what every interleaving has to meet for a request never to become
two cases, and that this is exact.
-/
import Asoju.ServiceRequests
import Asoju.Protocols

namespace Asoju

open Lib

/-! ## The calls -/

inductive ConversionCall
  | convertToCase (actor : AuthenticatedUser) (requestId : Id) (dto : ConvertRequestDto)
  | updateServiceRequest (user : AuthenticatedUser) (requestId : Id) (dto : UpdateServiceRequestDto)
  | recomputeAutomationDecision (requestId : Id)

namespace ConversionCall

/-- The request that the call is about. -/
def requestId : ConversionCall → Id
  | convertToCase _ requestId _ => requestId
  | updateServiceRequest _ requestId _ => requestId
  | recomputeAutomationDecision requestId => requestId

/-- The program of the call. -/
def code (toLowerCase : String → String) : ConversionCall → Svc Unit
  | convertToCase actor requestId dto => do
      let _ ← CasesService.convertToCase actor requestId dto
  | updateServiceRequest user requestId dto => do
      let _ ← CasesService.updateServiceRequest toLowerCase user requestId dto
  | recomputeAutomationDecision requestId => do
      let _ ← CasesService.recomputeAutomationDecision toLowerCase requestId

end ConversionCall

/-! ## What their actions do -/

/-- The case that the request has become. -/
def Db.convertedCase (d : Db) (requestId : Id) : Option Id :=
  (d.serviceRequest.get? requestId).bind ServiceRequest.convertedCaseId

/-- The database after the creation of a case for the request; without the request there is
none. -/
def Db.connected (d : Db) (requestId : Id) (serviceCase : ServiceCase) : Db :=
  if (d.serviceRequest.get? requestId).isSome then d.convertRequest requestId serviceCase else d

/-- No request is created, and the idempotency records stay as they are. -/
def Aside (s s' : Db) : Prop :=
  s'.idempotencyRecord = s.idempotencyRecord ∧ s'.serviceRequest.next = s.serviceRequest.next

/-- A call creates cases for one request, and connects requests in no other way.  It creates no
request and leaves the idempotency records alone. -/
def conversions (requestId : Id) : Protocol Db Act Unit where
  relies _ := True
  init := ()
  next _ _ _ := ()
  allows _ l s s' :=
    l ≠ .update .idempotencyRecord ∧ Aside s s' ∧
      if l = .create .serviceCase then ∃ row, s' = s.connected requestId row
      else ∀ i, s'.convertedCase i = s.convertedCase i
  final _ := True

section Follows

variable {requestId : Id}

lemma follows_conversions_bind {α β : Type} {m : Svc β} {f : β → Svc α}
    (hm : (conversions requestId).Follows () m) (hf : ∀ b, (conversions requestId).Follows () (f b)) :
    (conversions requestId).Follows () (m >>= f) :=
  Protocol.Follows.bind _ (fun _ _ => rfl) hm hf trivial

/-- An action on another table. -/
lemma follows_conversions_atom {α : Type} {l : Act} {w : Db → Db} {k : Db → Svc α}
    (hl : l ≠ .create .serviceCase ∧ l ≠ .update .idempotencyRecord) (haside : ∀ s, Aside s (w s))
    (hw : ∀ s i, (w s).convertedCase i = s.convertedCase i)
    (hk : ∀ s, (conversions requestId).Follows () (k s)) :
    (conversions requestId).Follows () (.atom l w k) := by
  intro s _
  refine ⟨⟨hl.2, haside s, ?_⟩, hk s⟩
  rw [if_neg hl.1]
  exact hw s

@[simp] lemma follows_conversions_pure {α : Type} (a : α) :
    (conversions requestId).Follows () (pure a : Svc α) := trivial

@[simp] lemma follows_conversions_throw {α : Type} (e : HttpError) :
    (conversions requestId).Follows () (throw e : Svc α) := trivial

@[simp] lemma follows_conversions_query {γ : Type} (m : Model) (q : Db → γ) :
    (conversions requestId).Follows () (Prisma.query m q) :=
  follows_conversions_atom (by simp) (fun _ => ⟨rfl, rfl⟩) (fun _ _ => rfl) fun _ => trivial

@[simp] lemma follows_conversions_audit : (conversions requestId).Follows () Prisma.audit :=
  follows_conversions_atom (by simp) (fun _ => ⟨rfl, rfl⟩) (fun _ _ => rfl) fun _ => trivial

lemma follows_checkOwner (m : Model) (ownerOf : Db → Id → Option Id) (field : String)
    (attached : Option Id) (customerId : Id) :
    (conversions requestId).Follows ()
      (CasesService.checkOwner m ownerOf field attached customerId) := by
  unfold CasesService.checkOwner
  cases attached with
  | none => simp
  | some i =>
    refine follows_conversions_bind (by simp) fun owner => ?_
    split <;> simp

lemma follows_poaSettled (serviceType : ServiceType) (customerId : Id) :
    (conversions requestId).Follows () (CasesService.poaSettled serviceType customerId) := by
  unfold CasesService.poaSettled
  split <;> simp

lemma follows_tierOf (chosen : Option CaseTier) (customerId : Id) :
    (conversions requestId).Follows () (CasesService.tierOf chosen customerId) := by
  cases chosen with
  | none => exact follows_conversions_bind (by simp) fun _ => by simp
  | some tier => trivial

/-- The creation of the case, and what is written for it. -/
lemma follows_createCase (serviceCase : ServiceCase) (changedById : Option Id) :
    (conversions requestId).Follows ()
      (CasesService.createCase requestId serviceCase changedById) := by
  refine follows_conversions_bind ?_ fun caseId => ?_
  · intro s _
    refine ⟨⟨by simp, ?_, { serviceCase with createdAt := s.clock }, rfl⟩, ?_⟩
    · dsimp only
      split <;> exact ⟨rfl, rfl⟩
    · dsimp only
      split <;> trivial
  · refine follows_conversions_bind ?_ fun _ => ?_
    · refine follows_conversions_atom (by simp) (fun _ => ⟨rfl, rfl⟩) (fun _ _ => rfl) fun s => ?_
      dsimp only
      split <;> trivial
    · refine follows_conversions_bind ?_ fun _ => ?_
      · refine follows_conversions_atom (by simp) (fun s => ?_) (fun s i => ?_) fun _ => trivial
        · obtain ⟨t, c, -, heq⟩ := createMany_caseTask_eq s
            (checklistTasks caseId serviceCase.serviceType)
          rw [heq]
          exact ⟨rfl, rfl⟩
        · obtain ⟨t, c, -, heq⟩ := createMany_caseTask_eq s
            (checklistTasks caseId serviceCase.serviceType)
          rw [heq]
          rfl
      · refine follows_conversions_bind ?_ fun _ => by simp
        exact follows_conversions_atom (by simp) (fun _ => ⟨rfl, rfl⟩) (fun _ _ => rfl) fun _ => trivial

lemma follows_convertToCase (actor : AuthenticatedUser) (dto : ConvertRequestDto) :
    (conversions requestId).Follows () (CasesService.convertToCase actor requestId dto) := by
  refine follows_conversions_bind (by simp [Prisma.findUnique]) fun found => ?_
  cases found with
  | none => simp
  | some request =>
    dsimp only
    split
    · trivial
    · refine follows_conversions_bind (follows_checkOwner ..) fun _ => ?_
      refine follows_conversions_bind (follows_checkOwner ..) fun _ => ?_
      refine follows_conversions_bind (follows_checkOwner ..) fun _ => ?_
      refine follows_conversions_bind (follows_poaSettled ..) fun settled => ?_
      split
      · trivial
      · refine follows_conversions_bind (follows_tierOf ..) fun tier => ?_
        refine follows_conversions_bind (follows_createCase _ _) fun caseId => ?_
        refine follows_conversions_bind ?_ fun _ => by
          exact follows_conversions_bind (by simp) fun _ => by simp
        unfold CasesService.addCollaborator
        split
        · exact follows_conversions_bind
            (follows_conversions_atom (by simp) (fun _ => ⟨rfl, rfl⟩) (fun _ _ => rfl) fun _ => trivial) fun _ => by simp
        · trivial

lemma follows_autoConvert :
    (conversions requestId).Follows () (CasesService.autoConvert requestId) := by
  refine follows_conversions_bind (by simp [Prisma.findUnique]) fun found => ?_
  cases found with
  | none => trivial
  | some request =>
    dsimp only
    split
    · trivial
    · cases request.serviceType with
      | none => trivial
      | some serviceType =>
        cases request.location.filter (· ≠ "") with
        | none => trivial
        | some location =>
          refine follows_conversions_bind (follows_poaSettled ..) fun settled => ?_
          split
          · trivial
          · refine follows_conversions_bind (follows_tierOf ..) fun tier => ?_
            exact follows_conversions_bind (follows_createCase _ _) fun _ => by simp

variable (toLowerCase : String → String)

lemma follows_evaluateAndRecord (i : Id) :
    (conversions requestId).Follows ()
      (AutomationEligibilityService.evaluateAndRecord toLowerCase i) := by
  refine follows_conversions_bind (by simp [Prisma.findUnique]) fun found => ?_
  cases found with
  | none => trivial
  | some request =>
    refine follows_conversions_bind ?_ fun capability => ?_
    · unfold AutomationEligibilityService.findCapability
      split <;> simp
    · refine follows_conversions_bind (by simp) fun existing => ?_
      refine follows_conversions_bind ?_ fun escalationId => ?_
      · unfold AutomationEligibilityService.escalationOf
        split
        · refine follows_conversions_bind ?_ fun _ => by simp
          refine follows_conversions_bind ?_ fun _ => follows_conversions_bind (by simp) (by simp)
          exact follows_conversions_atom (by simp) (fun _ => ⟨rfl, rfl⟩) (fun _ _ => rfl) fun _ => trivial
        · simp
      · refine follows_conversions_bind ?_ fun decision => follows_conversions_bind (by simp) (by simp)
        refine follows_conversions_atom (by simp) (fun s => ?_) (fun s i => ?_) fun s => ?_
        · dsimp only
          split <;> exact ⟨rfl, rfl⟩
        · dsimp only
          split <;> rfl
        · dsimp only
          split <;> trivial

lemma follows_evaluateAutomationAndMaybeConvert :
    (conversions requestId).Follows ()
      (CasesService.evaluateAutomationAndMaybeConvert toLowerCase requestId) := by
  refine follows_conversions_bind (follows_evaluateAndRecord _ _) fun decision => ?_
  split
  · exact follows_conversions_bind follows_autoConvert (by simp)
  · trivial

end Follows

namespace ConversionCall

variable (toLowerCase : String → String)

/-- The protocol of a call. -/
def protocol (c : ConversionCall) : Protocol Db Act Unit := conversions c.requestId

lemma follows (c : ConversionCall) : c.protocol.Follows () (c.code toLowerCase) := by
  cases c with
  | convertToCase actor requestId dto =>
    exact follows_conversions_bind (follows_convertToCase _ _) (by simp)
  | updateServiceRequest user requestId dto =>
    refine follows_conversions_bind ?_ (by simp)
    refine follows_conversions_bind ?_ fun customerId => ?_
    · refine follows_conversions_bind (by simp) fun found => ?_
      split <;> simp
    · refine follows_conversions_bind (by simp [Prisma.findUnique]) fun found => ?_
      cases found.filter fun r => r.customerId = customerId with
      | none => trivial
      | some request =>
        dsimp only
        split
        · trivial
        · refine follows_conversions_bind ?_ fun updated => ?_
          · -- The change leaves the case of the request alone.
            refine follows_conversions_atom (by simp) (fun _ => ⟨rfl, rfl⟩) (fun s i => ?_)
              fun s => ?_
            · show ((s.serviceRequest.modify requestId _).get? i).bind _ = _
              rw [Table.get?_modify, Db.convertedCase]
              split_ifs
              · cases s.serviceRequest.get? i <;> rfl
              · rfl
            · dsimp only
              split <;> trivial
          · refine follows_conversions_bind (by simp) fun _ => ?_
            exact follows_conversions_bind (follows_evaluateAutomationAndMaybeConvert _) (by simp)
  | recomputeAutomationDecision requestId =>
    refine follows_conversions_bind ?_ (by simp)
    refine follows_conversions_bind (by simp [Prisma.findUnique]) fun found => ?_
    cases found with
    | none => trivial
    | some request => exact follows_evaluateAutomationAndMaybeConvert _

end ConversionCall

/-! ## Counting cases -/

/-- Any number of conversions at work. -/
abbrev ConversionPool := Pool Db Act HttpError Unit ConversionCall

/-- The action creates a case for the request. -/
def CreatesCase (requestId : Id) (x : Act × Db) : Prop :=
  x.1 = .create .serviceCase ∧ (x.2.serviceRequest.get? requestId).isSome

instance (requestId : Id) : DecidablePred (CreatesCase requestId) := fun _ =>
  inferInstanceAs (Decidable (_ ∧ _))

/-- The cases that a call has created for the request. -/
def casesOf (requestId : Id) (t : Thread Db Act HttpError Unit ConversionCall) : ℕ :=
  if t.call.requestId = requestId then t.done.countP fun x => CreatesCase requestId x else 0

/-- The cases that the calls have created for the request. -/
def casesFrom (requestId : Id) (p : ConversionPool) : ℕ :=
  (p.threads.map (casesOf requestId)).sum

/-- One if the request has become a case. -/
def converted (requestId : Id) (d : Db) : ℕ := if (d.convertedCase requestId).isSome then 1 else 0

/-- No request has become two cases since the database was `d`. -/
def OneCase (d : Db) (p : ConversionPool) : Prop :=
  ∀ requestId, converted requestId d + casesFrom requestId p ≤ 1

/-- A call that creates a case now finds its request unconverted, as it was when the call
checked. -/
def StillUnconverted (p : ConversionPool) (e : Event ConversionCall) : Prop :=
  ∀ i t, e = .sched i → p.threads[i]? = some t → t.rest.next? = some (.create .serviceCase) →
    p.shared.convertedCase t.call.requestId = none

/-- **The invariant**: a request is converted exactly when a case has been created for it. -/
structure Counted (d : Db) (p : ConversionPool) : Prop where
  tracked : Pool.Tracked ConversionCall.protocol p
  count : ∀ requestId, converted requestId p.shared = converted requestId d + casesFrom requestId p

lemma converted_le_one (requestId : Id) (d : Db) : converted requestId d ≤ 1 := by
  rw [converted]
  split <;> omega

lemma Counted.oneCase {d : Db} {p : ConversionPool} (h : Counted d p) : OneCase d p := by
  intro requestId
  rw [← h.count]
  exact converted_le_one requestId p.shared

/-- How the count changes when a call moves on. -/
lemma casesFrom_set {p : ConversionPool} {i : ℕ} {t : Thread Db Act HttpError Unit ConversionCall}
    (hi : p.threads[i]? = some t) (requestId : Id) (l : Act) (s' : Db) (m : Svc Unit) :
    casesFrom requestId ⟨s', p.threads.set i ⟨t.call, t.done ++ [(l, p.shared)], m⟩⟩ =
      casesFrom requestId p +
        if t.call.requestId = requestId ∧ CreatesCase requestId (l, p.shared) then 1 else 0 := by
  have hsum := Pool.sum_map_set hi (casesOf requestId) ⟨t.call, t.done ++ [(l, p.shared)], m⟩
  have hthread : casesOf requestId ⟨t.call, t.done ++ [(l, p.shared)], m⟩ =
      casesOf requestId t +
        if t.call.requestId = requestId ∧ CreatesCase requestId (l, p.shared) then 1 else 0 := by
    rw [casesOf, casesOf]
    by_cases hrequest : t.call.requestId = requestId
    · rw [if_pos hrequest, if_pos hrequest, List.countP_append]
      simp [hrequest, List.countP_cons]
    · rw [if_neg hrequest, if_neg hrequest, if_neg (fun h => hrequest h.1)]
  rw [hthread] at hsum
  simp only [casesFrom]
  omega

/-- What the creation of a case does to the requests. -/
lemma converted_connected (requestId : Id) (row : ServiceCase) (s : Db) (i : Id) :
    converted i (s.connected requestId row) =
      if i = requestId ∧ (s.serviceRequest.get? requestId).isSome then 1 else converted i s := by
  rw [Db.connected]
  by_cases hthere : (s.serviceRequest.get? requestId).isSome
  · rw [if_pos hthere]
    obtain ⟨request, hrequest⟩ := Option.isSome_iff_exists.mp hthere
    have hget : (s.convertRequest requestId row).convertedCase i =
        ((s.serviceRequest.modify requestId fun r =>
          { r with convertedCaseId := some s.serviceCase.next }).get? i).bind
            ServiceRequest.convertedCaseId := rfl
    rw [converted, hget, Table.get?_modify]
    by_cases hi : i = requestId
    · subst hi
      simp [hrequest]
    · simp only [hi, if_false, false_and]
      rfl
  · rw [if_neg hthere, if_neg (fun h => hthere h.2)]

variable (toLowerCase : String → String)

/-- One step of any number of conversions. -/
lemma Counted.step_iff {d : Db} {p : ConversionPool} (h : Counted d p)
    (e : Event ConversionCall) :
    (StillUnconverted p e → Counted d (p.step (ConversionCall.code toLowerCase) e)) ∧
      (OneCase d (p.step (ConversionCall.code toLowerCase) e) → StillUnconverted p e) := by
  have htracked := h.tracked.preserved (ConversionCall.code toLowerCase)
    (ConversionCall.follows toLowerCase) (fun _ => trivial) e
  rcases h.tracked.step (ConversionCall.code toLowerCase) (fun _ => trivial) e with
    ⟨i, rfl, hfinished, heq⟩ | ⟨c, rfl, heq⟩ | ⟨i, t, l, w, k, rfl, hi, hrest, hallows, heq⟩
  · rw [heq] at htracked ⊢
    refine ⟨fun _ => h, fun _ j t hj ht hnext => ?_⟩
    cases hj
    rw [hfinished t ht] at hnext
    cases hnext
  · rw [heq] at htracked ⊢
    refine ⟨fun _ => ⟨htracked, fun requestId => ?_⟩, fun _ j t hj => by cases hj⟩
    rw [h.count, casesFrom, casesFrom, List.map_append, List.sum_append]
    simp [casesOf]
  · rw [heq] at htracked ⊢
    have hstill : StillUnconverted p (.sched i) ↔
        (l = .create .serviceCase → p.shared.convertedCase t.call.requestId = none) := by
      have hnext : t.rest.next? = some l := by rw [hrest, Prog.next?]
      constructor
      · rintro hstill rfl
        exact hstill i t rfl hi hnext
      · rintro hnone j u hj hu hcreate
        cases hj
        obtain rfl := Option.some.inj (hi.symm.trans hu)
        exact hnone (Option.some.inj (hnext.symm.trans hcreate))
    replace hallows := hallows.2.2
    by_cases hl : l = .create .serviceCase
    · rw [if_pos hl] at hallows
      obtain ⟨row, hw⟩ := hallows
      have hcreates : ∀ requestId, CreatesCase requestId (l, p.shared) ↔
          (p.shared.serviceRequest.get? requestId).isSome := fun requestId => by
        simp [CreatesCase, hl]
      refine ⟨fun hp => ⟨htracked, fun requestId => ?_⟩, fun hone => ?_⟩
      · -- The request was unconverted, and one case is created for it, if it is there.
        have hnone := hstill.mp hp hl
        rw [casesFrom_set hi, hw, converted_connected, ← Nat.add_assoc, ← h.count]
        by_cases hcase : requestId = t.call.requestId
        · subst hcase
          have hzero : converted t.call.requestId p.shared = 0 := by simp [converted, hnone]
          simp [hcreates, hzero]
        · simp [hcase, Ne.symm hcase]
      · refine hstill.mpr fun _ => ?_
        by_contra hsome
        have hcount := hone t.call.requestId
        rw [casesFrom_set hi, ← Nat.add_assoc, ← h.count] at hcount
        have hthere : (p.shared.serviceRequest.get? t.call.requestId).isSome := by
          cases hget : p.shared.serviceRequest.get? t.call.requestId with
          | none => simp [Db.convertedCase, hget] at hsome
          | some request => rfl
        have hone : converted t.call.requestId p.shared = 1 := by
          rw [converted, if_pos (Option.isSome_iff_ne_none.mpr hsome)]
        rw [hone, if_pos ⟨rfl, (hcreates _).mpr hthere⟩] at hcount
        omega
    · rw [if_neg hl] at hallows
      have hsame : ∀ requestId, converted requestId (w p.shared) = converted requestId p.shared :=
        fun requestId => by rw [converted, hallows, converted]
      refine ⟨fun _ => ⟨htracked, fun requestId => ?_⟩, fun _ => hstill.mpr fun h => absurd h hl⟩
      rw [casesFrom_set hi, hsame, h.count]
      simp [CreatesCase, hl]

/-- **One case for each request**: no request becomes two cases exactly when every call that
creates a case finds its request still unconverted. -/
theorem one_case_iff (d : Db) (es : List (Event ConversionCall)) :
    AllStates (Pool.step (ConversionCall.code toLowerCase)) (OneCase d) (Pool.idle d) es ↔
      AllSteps (Pool.step (ConversionCall.code toLowerCase)) StillUnconverted (Pool.idle d) es :=
  allStates_iff_allSteps_of_invariant (I := Counted d) (fun _ h => h.oneCase)
    (fun _ e h => (h.step_iff toLowerCase e).1) (fun _ e h => (h.step_iff toLowerCase e).2)
    ⟨Pool.tracked_idle _ d, fun _ => rfl⟩ es

/-- A request for procurement, which is open to automation without any rule. -/
def openRequestDb : Db where
  customer := Table.empty.insert { userId := 5 }
  serviceRequest := Table.empty.insert
    { customerId := 0, serviceType := some .procurement, rawDescription := "A generator"
      location := some "Lagos", channel := "web" }
  automationCapability := Table.empty.insert { serviceType := .procurement, enabled := true }

/-- A case manager has read the request when the automatic decision converts it, and goes on. -/
def convertedTwice : List (Event ConversionCall) :=
  .start (.convertToCase ⟨7, .caseManager⟩ 0 ⟨.procurement, "A generator", "Lagos", none,
    some .essential, none, none, none⟩) :: .start (.recomputeAutomationDecision 0) :: .sched 0 ::
      List.replicate 9 (.sched 1) ++ [.sched 0]

/-- The request becomes two cases. -/
theorem converted_twice :
    ¬ AllStates (Pool.step (ConversionCall.code id)) (OneCase openRequestDb) (Pool.idle openRequestDb)
      convertedTwice :=
  fun h => absurd (h.last 0) (by decide +kernel)

end Asoju
