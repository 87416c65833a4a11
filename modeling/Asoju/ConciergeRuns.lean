/-
What the concierge can do, whatever the model answers.

Any number of conversations go on at once, over the web and over WhatsApp, and each of their steps
may fail.  `concierge_confined` says what they may leave behind: requests of the customers that they
are held with, made of turns that were complete, and cases for such requests that the rules decide
to be automatic.  Whatever was there before stays as it was, and no table but those of the intake is
written at all.

`leads_never_hot` is about the scores: as the stated value is never asked for, no conversation can
make a lead HOT.
-/
import Asoju.Concierge
import Asoju.WhatsAppNumbers

namespace Asoju

open Lib

/-! ## The conversations -/

inductive Conversation
  | web (user : AuthenticatedUser) (answer : Except String ConciergeTurnResult)
  | whatsApp (m : WhatsappService.TextMessage)
  | demo (answer : Except String ConciergeTurnResult)
  | assistant (user : AuthenticatedUser) (answer : Except String (Option String))

namespace Conversation

def code (toLowerCase : String → String) : Conversation → IntakeSvc Unit
  | web user answer => do
      let _ ← AiService.converse toLowerCase user answer
  | whatsApp m => do
      let _ ← WhatsappService.handleTextMessage toLowerCase m
  | demo answer => do
      let _ ← AiService.demoConverse answer
  | assistant user answer => do
      let _ ← AiService.assistantReply user answer

/-- The model answers with a turn that completes the conversation. -/
def Completes (turn : ConciergeTurnResult) : Conversation → Prop
  | web _ answer => answer = .ok turn ∧ turn.conversationComplete = true
  | whatsApp m => m.answer = .ok turn ∧ turn.conversationComplete = true
  | demo _ => False
  | assistant _ _ => False

/-- The conversation is held with the user: he is signed in, or it is his number. -/
def HeldWith (d : Db) (userId : Id) : Conversation → Prop
  | web user _ => user = ⟨userId, .customer⟩
  | whatsApp m => ∃ i t, d.whatsAppThread.get? i = some t ∧
      t.phone = WhatsappService.normalizePhone m.rawFrom ∧ t.userId = userId
  | demo _ => False
  | assistant _ _ => False

end Conversation

/-- A conversation, with the step at which it fails, if it does. -/
structure ConversationCall where
  conversation : Conversation
  fault : Option (ℕ × HttpError) := none

def ConversationCall.code (toLowerCase : String → String) (c : ConversationCall) :
    IntakeSvc Unit :=
  (c.conversation.code toLowerCase).withFault c.fault

/-! ## What they may leave behind -/

/-- The tables that no conversation writes. -/
def Db.elsewhere (d : Db) : Db :=
  { d with
    clock := 0, user := .empty, customer := .empty, whatsAppThread := .empty
    serviceRequest := .empty, automationDecision := .empty, escalation := .empty
    serviceCase := .empty, caseStatusHistory := .empty, caseTask := .empty }

def ServiceRequest.evaluable (r : ServiceRequest) : EvaluableRequest where
  serviceType := r.serviceType
  objective := r.objective
  location := r.location
  timing := r.timing
  rawDescription := r.rawDescription

section Confined

variable (toLowerCase : String → String) (s₀ : Intake) (es : List (Event ConversationCall))

/-- The rules decide that the request is automatic. -/
def DecidedAuto (r : ServiceRequest) : Prop :=
  (Automation.evaluate toLowerCase r.evaluable (r.serviceType.bind s₀.db.capabilityFor)).outcome =
    .auto

/-- The request was made of a complete conversation with its customer. -/
def Intaken (s : Intake) (i : Id) (r : ServiceRequest) : Prop :=
  ∃ call turn customer, .start call ∈ es ∧ call.conversation.Completes turn ∧
    s.db.customer.get? r.customerId = some customer ∧
    call.conversation.HeldWith s.db customer.userId ∧
    (∃ caseId, r =
      { AiService.intakeRequest r.customerId turn with convertedCaseId := caseId }) ∧
    ∃ interactionId, s.lead i = some (AiService.leadOf turn interactionId)

/-- The case is that of a new request which is decided to be automatic. -/
def Converted (s : Intake) (c : ServiceCase) : Prop :=
  ∃ j r, s₀.db.serviceRequest.get? j = none ∧ s.db.serviceRequest.get? j = some r ∧
    c.customerId = r.customerId ∧ r.serviceType = some c.serviceType ∧
    r.location = some c.location ∧ DecidedAuto toLowerCase s₀ r

/-- **What any number of conversations may leave behind.** -/
structure Confined (s : Intake) : Prop where
  elsewhere : s.db.elsewhere = s₀.db.elsewhere
  requests : ∀ i r, s₀.db.serviceRequest.get? i = some r → s.db.serviceRequest.get? i = some r
  cases : ∀ i c, s₀.db.serviceCase.get? i = some c → s.db.serviceCase.get? i = some c
  intaken : ∀ i r, s₀.db.serviceRequest.get? i = none → s.db.serviceRequest.get? i = some r →
    Intaken es s i r
  converted : ∀ i c, s₀.db.serviceCase.get? i = none → s.db.serviceCase.get? i = some c →
    Converted toLowerCase s₀ s c

end Confined

/-- How the intake develops. -/
structure Intake.Later (s s' : Intake) : Prop where
  customer : ∀ i c, s.db.customer.get? i = some c → s'.db.customer.get? i = some c
  thread : ∀ i t, s.db.whatsAppThread.get? i = some t →
    ∃ history, s'.db.whatsAppThread.get? i = some { t with history }
  request : ∀ i r, s.db.serviceRequest.get? i = some r →
    ∃ caseId, s'.db.serviceRequest.get? i = some { r with convertedCaseId := caseId } ∧
      s'.lead i = s.lead i

section Steps

variable {toLowerCase : String → String} {s₀ : Intake} {es : List (Event ConversationCall)}
  {s s' s'' : Intake}

lemma Intake.Later.refl (s : Intake) : s.Later s :=
  ⟨fun _ _ h => h, fun _ t h => ⟨t.history, h⟩, fun _ r h => ⟨r.convertedCaseId, h, rfl⟩⟩

lemma Intake.Later.trans (h : s.Later s') (h' : s'.Later s'') : s.Later s'' := by
  refine ⟨fun i c hc => h'.customer i c (h.customer i c hc), fun i t ht => ?_, fun i r hr => ?_⟩
  · obtain ⟨history, ht'⟩ := h.thread i t ht
    obtain ⟨history', ht''⟩ := h'.thread i _ ht'
    exact ⟨history', ht''⟩
  · obtain ⟨caseId, hr', hlead⟩ := h.request i r hr
    obtain ⟨caseId', hr'', hlead'⟩ := h'.request i _ hr'
    exact ⟨caseId', hr'', hlead'.trans hlead⟩

lemma Conversation.HeldWith.later {c : Conversation} {userId : Id}
    (h : c.HeldWith s.db userId) (hs : s.Later s') : c.HeldWith s'.db userId := by
  cases c with
  | web user answer => exact h
  | demo answer => exact h
  | assistant user answer => exact h
  | whatsApp m =>
    obtain ⟨i, t, ht, hphone, huser⟩ := h
    obtain ⟨history, ht'⟩ := hs.thread i t ht
    exact ⟨i, _, ht', hphone, huser⟩

/-- A request stays one that was made of a conversation, also when it becomes a case. -/
lemma Intaken.later {i : Id} {r : ServiceRequest} (h : Intaken es s i r) (hs : s.Later s')
    (hlead : s'.lead i = s.lead i) (caseId : Option Id) :
    Intaken es s' i { r with convertedCaseId := caseId } := by
  obtain ⟨call, turn, customer, hcall, hturn, hcustomer, hheld, ⟨_, hr⟩, interactionId, hl⟩ := h
  refine ⟨call, turn, customer, hcall, hturn, hs.customer _ _ hcustomer, hheld.later hs,
    ⟨caseId, ?_⟩, interactionId, hlead.trans hl⟩
  rw [hr]
  rfl

lemma Converted.later {c : ServiceCase} (h : Converted toLowerCase s₀ s c) (hs : s.Later s') :
    Converted toLowerCase s₀ s' c := by
  obtain ⟨j, r, hnew, hr, hcustomer, htype, hlocation, hauto⟩ := h
  obtain ⟨caseId, hr', -⟩ := hs.request j r hr
  exact ⟨j, _, hnew, hr', hcustomer, htype, hlocation, hauto⟩

lemma confined_start : Confined toLowerCase s₀ es s₀ where
  elsewhere := rfl
  requests _ _ h := h
  cases _ _ h := h
  intaken _ _ hnone h := nomatch hnone.symm.trans h
  converted _ _ hnone h := nomatch hnone.symm.trans h

/-! ### One step -/

/-- A step beside the requests and the cases, which keeps the customers and whose the threads
are. -/
structure Db.Beside (d d' : Db) : Prop where
  elsewhere : d'.elsewhere = d.elsewhere
  request : d'.serviceRequest = d.serviceRequest
  serviceCase : d'.serviceCase = d.serviceCase
  customer : ∀ i c, d.customer.get? i = some c → d'.customer.get? i = some c
  thread : ∀ i t, d.whatsAppThread.get? i = some t →
    ∃ history, d'.whatsAppThread.get? i = some { t with history }

lemma Db.Beside.of_eq {d d' : Db} (helsewhere : d'.elsewhere = d.elsewhere)
    (hrequest : d'.serviceRequest = d.serviceRequest) (hcase : d'.serviceCase = d.serviceCase)
    (hcustomer : d'.customer = d.customer) (hthread : d'.whatsAppThread = d.whatsAppThread) :
    d.Beside d' :=
  ⟨helsewhere, hrequest, hcase, fun _ _ h => hcustomer ▸ h, fun _ t h => ⟨t.history, hthread ▸ h⟩⟩

lemma Db.Beside.refl (d : Db) : d.Beside d := .of_eq rfl rfl rfl rfl rfl

lemma confined_beside (h : Confined toLowerCase s₀ es s) (hs : s.db.Beside s'.db)
    (hlead : s'.lead = s.lead) : Confined toLowerCase s₀ es s' ∧ s.Later s' := by
  have hlater : s.Later s' :=
    ⟨hs.customer, hs.thread, fun i r hr => ⟨r.convertedCaseId, hs.request ▸ hr, by rw [hlead]⟩⟩
  refine ⟨⟨hs.elsewhere.trans h.elsewhere, fun i r hr => hs.request ▸ h.requests i r hr,
    fun i c hc => hs.serviceCase ▸ h.cases i c hc, fun i r hnone hr => ?_,
    fun i c hnone hc => ?_⟩, hlater⟩
  · rw [hs.request] at hr
    exact (h.intaken i r hnone hr).later hlater (by rw [hlead]) r.convertedCaseId
  · rw [hs.serviceCase] at hc
    exact (h.converted i c hnone hc).later hlater

/-- What is not there now was not there in the beginning. -/
lemma Confined.none_of_none (h : Confined toLowerCase s₀ es s) {i : Id}
    (hi : s.db.serviceRequest.get? i = none) : s₀.db.serviceRequest.get? i = none := by
  cases hold : s₀.db.serviceRequest.get? i with
  | none => rfl
  | some r => exact nomatch hi.symm.trans (h.requests i r hold)

/-! ### Programs -/

/-- The program does its part, and what it returns is as `P` says. -/
abbrev Confines (toLowerCase : String → String) (s₀ : Intake) (es : List (Event ConversationCall))
    {α : Type} (P : α → Intake → Prop) (K : Intake → Prop) (m : IntakeSvc α) : Prop :=
  m.Upholds (Confined toLowerCase s₀ es) Intake.Later (fun r s => ∀ a, r = .ok a → P a s) K

/-- What is known stays known. -/
def Stable (K : Intake → Prop) : Prop := ∀ s s', K s → Intake.Later s s' → K s'

section Programs

variable {α β : Type} {P : α → Intake → Prop} {K : Intake → Prop}

lemma stable_any : Stable fun _ => True := fun _ _ _ _ => trivial

lemma confines_pure {a : α} (h : ∀ s, K s → P a s) :
    Confines toLowerCase s₀ es P K (pure a) := by
  intro s _ hs b hb
  cases hb
  exact h s hs

lemma confines_throw (e : HttpError) : Confines toLowerCase s₀ es P K (throw e : IntakeSvc α) :=
  fun _ _ _ _ ha => nomatch ha

lemma confines_bind {M : β → Intake → Prop} {m : IntakeSvc β} {f : β → IntakeSvc α}
    (hm : Confines toLowerCase s₀ es M K m)
    (hf : ∀ b, Confines toLowerCase s₀ es P (M b) (f b)) :
    Confines toLowerCase s₀ es P K (m >>= f) :=
  .bind hm (fun b => (hf b).weaken fun _ _ h => h b rfl) fun _ _ _ _ _ ha => nomatch ha

lemma inDb_bind (m : Svc β) (f : β → Svc α) : inDb (m >>= f) = inDb m >>= fun b => inDb (f b) :=
  Prog.within_bind m f

/-- A look at the database. -/
lemma confines_read {l : Act} {v : Db → β} {f : β → IntakeSvc α}
    (h : ∀ s, Confined toLowerCase s₀ es s → K s →
      Confines toLowerCase s₀ es P s.Later (f (v s.db))) :
    Confines toLowerCase s₀ es P K (inDb (.read l v) >>= f) := by
  rw [inDb, Prog.within_read]
  exact .read_bind Intake.Later.refl h

/-- A part that writes beside the requests and the cases takes nothing away of what is known. -/
lemma confines_of_beside {m : Svc α} (hm : m.EachStep fun _ => Db.Beside) (hK : Stable K) :
    Confines toLowerCase s₀ es (fun _ => K) K (inDb m) := by
  refine .conseq (.of_eachStep hK (.mono (fun _ s s' h hI => ?_) hm.within))
    fun _ _ _ hK' _ _ => hK'
  exact confined_beside hI h.1 ((congrArg Intake.lead h.2).trans rfl)

lemma confines_beside {m : Svc β} {f : β → IntakeSvc α} (hm : m.EachStep fun _ => Db.Beside)
    (hK : Stable K) (hf : ∀ b, Confines toLowerCase s₀ es P K (f b)) :
    Confines toLowerCase s₀ es P K (inDb m >>= f) :=
  confines_bind (confines_of_beside hm hK) hf

lemma confines_beside_yields {m : Svc β} {f : β → IntakeSvc α} {φ : β → Prop}
    (hm : m.EachStep fun _ => Db.Beside) (hyields : m.Yields φ) (hK : Stable K)
    (hf : ∀ b, Confines toLowerCase s₀ es P (fun s => K s ∧ φ b) (f b)) :
    Confines toLowerCase s₀ es P K (inDb m >>= f) := by
  refine confines_bind (M := fun b s => K s ∧ φ b) ?_ hf
  refine .conseq (Prog.Upholds.and_yields (confines_of_beside hm hK) hyields.within) ?_
  exact fun _ _ _ h a ha => ⟨h.1 a ha, h.2 a ha⟩

lemma beside_read (l : Act) (v : Db → α) : (Prog.read l v : Svc α).EachStep fun _ => Db.Beside :=
  fun s => ⟨.refl s, trivial⟩

lemma beside_audit : Prisma.audit.EachStep fun _ => Db.Beside := fun s => ⟨.refl s, trivial⟩

lemma beside_callProvider (answer : Except String α) :
    (Prisma.callProvider answer).EachStep fun _ => Db.Beside := by
  refine fun s => ⟨.refl s, ?_⟩
  cases answer <;> trivial

end Programs

/-! ### The decision -/

/-- The request is new, and as it was made, but that it may have become a case. -/
def Made (s₀ : Intake) (j : Id) (row : ServiceRequest) (s : Intake) : Prop :=
  s₀.db.serviceRequest.get? j = none ∧ ∃ caseId,
    s.db.serviceRequest.get? j = some { row with convertedCaseId := caseId }

lemma stable_made (j : Id) (row : ServiceRequest) : Stable (Made s₀ j row) := by
  rintro s s' ⟨hnew, caseId, hr⟩ hs
  obtain ⟨caseId', hr', -⟩ := hs.request _ _ hr
  exact ⟨hnew, caseId', hr'⟩

lemma Confined.capabilityFor (h : Confined toLowerCase s₀ es s) (serviceType : ServiceType) :
    s.db.capabilityFor serviceType = s₀.db.capabilityFor serviceType := by
  have htable : s.db.elsewhere.automationCapability = s₀.db.elsewhere.automationCapability :=
    congrArg Db.automationCapability h.elsewhere
  change s.db.automationCapability = s₀.db.automationCapability at htable
  rw [Db.capabilityFor, Db.capabilityFor, htable]

lemma beside_escalationOf (j : Id) (result : EvaluationResult) (existing : Option Id) :
    (AutomationEligibilityService.escalationOf j result existing).EachStep fun _ => Db.Beside := by
  rw [AutomationEligibilityService.escalationOf]
  split_ifs
  · refine .bind ?_ fun _ => trivial
    refine .bind (fun s => ⟨.of_eq rfl rfl rfl rfl rfl, trivial⟩) fun _ => ?_
    exact .bind beside_audit fun _ => trivial
  · trivial

/-- The rules, as they are applied to a request that was made. -/
lemma decidedAuto_of_evaluate (hI : Confined toLowerCase s₀ es s) {row : ServiceRequest}
    (h : (Automation.evaluate toLowerCase row.evaluable
      (row.serviceType.bind s.db.capabilityFor)).outcome = .auto) :
    DecidedAuto toLowerCase s₀ row := by
  have hcapability : row.serviceType.bind s.db.capabilityFor =
      row.serviceType.bind s₀.db.capabilityFor :=
    congrArg _ (funext fun t => hI.capabilityFor t)
  rwa [hcapability] at h

/-- The rules that are looked up for a request. -/
lemma confines_findCapability (row : ServiceRequest) {j : Id} :
    Confines toLowerCase s₀ es
      (fun capability s => Made s₀ j row s ∧
        ((Automation.evaluate toLowerCase row.evaluable capability).outcome = .auto →
          DecidedAuto toLowerCase s₀ row))
      (Made s₀ j row) (inDb (AutomationEligibilityService.findCapability row.serviceType)) := by
  cases htype : row.serviceType with
  | none =>
    refine confines_pure fun s hs => ⟨hs, fun h => ?_⟩
    rwa [DecidedAuto, htype]
  | some serviceType =>
    intro s hI hs
    refine ⟨confined_beside hI (.refl s.db) rfl, fun s' _ hs' capability hcapability => ?_⟩
    cases hcapability
    refine ⟨stable_made j row _ _ hs hs', fun h => decidedAuto_of_evaluate hI ?_⟩
    rwa [htype]

lemma beside_upsertDecision (find : Db → Option Id) (b : Time → AutomationDecision)
    (f : Time → AutomationDecision → AutomationDecision) :
    (Prisma.upsert .automationDecision find b f).EachStep fun _ => Db.Beside := by
  intro s
  beta_reduce
  constructor
  · cases find s <;> exact .of_eq rfl rfl rfl rfl rfl
  · cases (find s).bind (Rel.automationDecision.get s).get? <;> trivial

/-- Both ways of recording a decision record its outcome. -/
lemma yields_upsertDecision {outcome : AutomationDecisionOutcome} (find : Db → Option Id)
    {b : Time → AutomationDecision} {f : Time → AutomationDecision → AutomationDecision}
    (hb : ∀ t, (b t).outcome = outcome) (hf : ∀ t x, (f t x).outcome = outcome) :
    (Prisma.upsert .automationDecision find b f).Yields fun decision =>
      decision.outcome = outcome := by
  intro s
  beta_reduce
  cases (find s).bind (Rel.automationDecision.get s).get? with
  | none => exact hb s.clock
  | some row => exact hf s.clock row

/-- The decision is what the rules come to. -/
lemma confines_evaluateAndRecord {j : Id} {row : ServiceRequest} :
    Confines toLowerCase s₀ es
      (fun decision s => Made s₀ j row s ∧
        (decision.outcome = .auto → DecidedAuto toLowerCase s₀ row))
      (Made s₀ j row) (inDb (AutomationEligibilityService.evaluateAndRecord toLowerCase j)) := by
  rw [AutomationEligibilityService.evaluateAndRecord, inDb_bind]
  refine confines_read fun s _ hs => ?_
  obtain ⟨caseId, hr⟩ := hs.2
  have hfind : (Rel.serviceRequest.get s.db).get? j =
      some { row with convertedCaseId := caseId } := hr
  rw [hfind]
  refine Prog.Upholds.weaken (K := Made s₀ j row) ?_ fun s' _ hs' => stable_made j row _ _ hs hs'
  dsimp only
  rw [inDb_bind]
  refine confines_bind (confines_findCapability row) fun capability => ?_
  rw [inDb_bind]
  have hstable : Stable fun s => Made s₀ j row s ∧
      ((Automation.evaluate toLowerCase row.evaluable capability).outcome = .auto →
        DecidedAuto toLowerCase s₀ row) := by
    rintro s s' ⟨hmade, hauto⟩ hs'
    exact ⟨stable_made j row _ _ hmade hs', hauto⟩
  refine confines_beside (beside_read _ _) hstable fun existing => ?_
  rw [inDb_bind]
  refine confines_beside (beside_escalationOf ..) hstable fun escalationId => ?_
  rw [inDb_bind]
  refine confines_beside_yields (beside_upsertDecision _ _ _)
    (yields_upsertDecision _ (fun _ => rfl) fun _ _ => rfl) hstable fun decision => ?_
  rw [inDb_bind]
  refine confines_beside beside_audit ?_ fun _ => confines_pure ?_
  · rintro s s' ⟨hmade, heq⟩ hs'
    exact ⟨hstable _ _ hmade hs', heq⟩
  · rintro s ⟨⟨hmade, hauto⟩, heq⟩
    exact ⟨hmade, fun h => hauto (heq.symm.trans h)⟩

/-! ### The case -/

/-- The case is made of the request. -/
structure CaseOf (row : ServiceRequest) (c : ServiceCase) : Prop where
  customer : c.customerId = row.customerId
  serviceType : row.serviceType = some c.serviceType
  location : row.location = some c.location

lemma Confined.none_of_none_case (h : Confined toLowerCase s₀ es s) {i : Id}
    (hi : s.db.serviceCase.get? i = none) : s₀.db.serviceCase.get? i = none := by
  cases hold : s₀.db.serviceCase.get? i with
  | none => rfl
  | some c => exact nomatch hi.symm.trans (h.cases i c hold)

/-- A case is created, and the request is connected to it. -/
lemma confined_convert (hI : Confined toLowerCase s₀ es s) {j : Id} {row : ServiceRequest}
    (hs : Made s₀ j row s) (hauto : DecidedAuto toLowerCase s₀ row) {c : ServiceCase}
    (hc : CaseOf row c) :
    Confined toLowerCase s₀ es { s with db := s.db.convertRequest j c } ∧
      s.Later { s with db := s.db.convertRequest j c } := by
  obtain ⟨hnew, caseId, hr⟩ := hs
  have hrequest : ∀ i, (s.db.convertRequest j c).serviceRequest.get? i =
      if i = j then (s.db.serviceRequest.get? i).map fun r =>
        { r with convertedCaseId := some s.db.serviceCase.next }
      else s.db.serviceRequest.get? i := fun i => Table.get?_modify ..
  have hlater : s.Later { s with db := s.db.convertRequest j c } := by
    refine ⟨fun _ _ h => h, fun _ t h => ⟨t.history, h⟩, fun i r hi => ?_⟩
    show ∃ caseId, (s.db.convertRequest j c).serviceRequest.get? i = _ ∧ _
    rw [hrequest, hi]
    split_ifs
    · exact ⟨_, rfl, rfl⟩
    · exact ⟨r.convertedCaseId, rfl, rfl⟩
  refine ⟨⟨hI.elsewhere, fun i r hi => ?_, fun i x hi => ?_, fun i r hnone hi => ?_,
    fun i x hnone hi => ?_⟩, hlater⟩
  · show (s.db.convertRequest j c).serviceRequest.get? i = some r
    rw [hrequest, if_neg]
    · exact hI.requests i r hi
    · rintro rfl
      exact nomatch hnew.symm.trans hi
  · exact Table.get?_insert_of_some (hI.cases i x hi) c
  · change (s.db.convertRequest j c).serviceRequest.get? i = some r at hi
    rw [hrequest] at hi
    split_ifs at hi
    · obtain ⟨r', hr', rfl⟩ := Option.map_eq_some_iff.mp hi
      exact (hI.intaken i r' hnone hr').later hlater rfl _
    · exact (hI.intaken i r hnone hi).later hlater rfl r.convertedCaseId
  · change (s.db.serviceCase.insert c).get? i = some x at hi
    rcases Table.get?_insert_cases hi with hi | ⟨-, rfl⟩
    · exact (hI.converted i x hnone hi).later hlater
    · refine ⟨j, { row with convertedCaseId := some s.db.serviceCase.next }, hnew, ?_, hc.customer,
        hc.serviceType, hc.location, hauto⟩
      show (s.db.convertRequest j x).serviceRequest.get? j = _
      rw [hrequest, if_pos rfl, hr]
      rfl

/-- The number of a new case is written. -/
lemma confined_number (hI : Confined toLowerCase s₀ es s) {caseId : Id}
    (hnew : s₀.db.serviceCase.get? caseId = none) (number : String) :
    Confined toLowerCase s₀ es { s with db := s.db.modifyRow .serviceCase caseId fun c =>
      { c with caseNumber := some number } } ∧
    s.Later { s with db := s.db.modifyRow .serviceCase caseId fun c =>
      { c with caseNumber := some number } } := by
  have hlater : s.Later { s with db := s.db.modifyRow .serviceCase caseId fun c =>
      { c with caseNumber := some number } } :=
    ⟨fun _ _ h => h, fun _ t h => ⟨t.history, h⟩, fun _ r h => ⟨r.convertedCaseId, h, rfl⟩⟩
  refine ⟨⟨hI.elsewhere, hI.requests, fun i c hi => ?_,
    fun i r hnone hi => (hI.intaken i r hnone hi).later hlater rfl r.convertedCaseId,
    fun i c hnone hi => ?_⟩, hlater⟩
  · show (s.db.serviceCase.modify caseId _).get? i = some c
    rw [Table.get?_modify_of_ne]
    · exact hI.cases i c hi
    · rintro rfl
      exact nomatch hnew.symm.trans hi
  · change (s.db.serviceCase.modify caseId _).get? i = some c at hi
    rw [Table.get?_modify] at hi
    split_ifs at hi
    · obtain ⟨x, hx, rfl⟩ := Option.map_eq_some_iff.mp hi
      exact (hI.converted i x hnone hx).later hlater
    · exact (hI.converted i c hnone hi).later hlater

lemma beside_createMany_caseTask (tasks : List CaseTask) :
    (Prisma.createMany .caseTask tasks).EachStep fun _ => Db.Beside := by
  refine fun s => ⟨?_, trivial⟩
  obtain ⟨t, c, -, heq⟩ := createMany_caseTask_eq s tasks
  show s.Beside (tasks.foldl _ s)
  rw [heq]
  exact .of_eq rfl rfl rfl rfl rfl

/-- The case of a request that is decided to be automatic. -/
lemma confines_createCase {j : Id} {row : ServiceRequest}
    (hauto : DecidedAuto toLowerCase s₀ row) {c : ServiceCase} (hc : CaseOf row c)
    (changedById : Option Id) :
    Confines toLowerCase s₀ es (fun _ _ => True) (Made s₀ j row)
      (inDb (CasesService.createCase j c changedById)) := by
  rw [CasesService.createCase, inDb_bind]
  refine confines_bind (M := fun caseId _ => s₀.db.serviceCase.get? caseId = none) ?_
    fun caseId => ?_
  · intro s hI hs
    beta_reduce
    obtain ⟨_, hr⟩ := hs.2
    have hsome : ((Intake.part.get s).serviceRequest.get? j).isSome = true := by
      show (s.db.serviceRequest.get? j).isSome = true
      rw [hr]
      rfl
    rw [if_pos hsome, if_pos hsome]
    refine ⟨confined_convert hI hs hauto ⟨hc.customer, hc.serviceType, hc.location⟩, ?_⟩
    intro s' _ _ i hi
    cases hi
    exact hI.none_of_none_case (Table.get?_next _)
  have hstable : Stable fun _ => s₀.db.serviceCase.get? caseId = none := fun _ _ h _ => h
  rw [inDb_bind]
  refine confines_bind (M := fun _ _ => True) ?_ fun _ => ?_
  · intro s hI hnew
    refine ⟨confined_number hI hnew (caseNumberOf caseId), ?_⟩
    beta_reduce
    cases (Rel.serviceCase.get (Intake.part.get s)).get? caseId with
    | none => exact fun _ _ _ _ ha => nomatch ha
    | some x => exact fun _ _ _ _ _ => trivial
  rw [inDb_bind]
  refine confines_beside (beside_createMany_caseTask _) stable_any fun _ => ?_
  rw [inDb_bind]
  exact confines_beside (fun s => ⟨.of_eq rfl rfl rfl rfl rfl, trivial⟩) stable_any
    fun _ => confines_pure fun _ _ => trivial

lemma beside_poaSettled (serviceType : ServiceType) (customerId : Id) :
    (CasesService.poaSettled serviceType customerId).EachStep fun _ => Db.Beside := by
  rw [CasesService.poaSettled]
  split_ifs
  · exact beside_read _ _
  · trivial

lemma beside_tierOf (chosen : Option CaseTier) (customerId : Id) :
    (CasesService.tierOf chosen customerId).EachStep fun _ => Db.Beside := by
  cases chosen with
  | some tier => trivial
  | none => exact .bind (beside_read _ _) fun _ => trivial

lemma confines_autoConvert {j : Id} {row : ServiceRequest}
    (hauto : DecidedAuto toLowerCase s₀ row) :
    Confines toLowerCase s₀ es (fun _ _ => True) (Made s₀ j row)
      (inDb (CasesService.autoConvert j)) := by
  rw [CasesService.autoConvert, inDb_bind]
  refine confines_read fun s _ hs => ?_
  obtain ⟨caseId, hr⟩ := hs.2
  have hfind : (Rel.serviceRequest.get s.db).get? j =
      some { row with convertedCaseId := caseId } := hr
  rw [hfind]
  refine Prog.Upholds.weaken (K := Made s₀ j row) ?_ fun s' _ hs' => stable_made j row _ _ hs hs'
  dsimp only
  have hdone : Confines toLowerCase s₀ es (fun _ _ => True) (Made s₀ j row)
      (inDb (pure () : Svc Unit)) := confines_pure fun _ _ => trivial
  split
  · exact hdone
  cases htype : row.serviceType with
  | none => exact hdone
  | some serviceType =>
    cases hlocation : row.location.filter (· ≠ "") with
    | none => exact hdone
    | some location =>
      have hrow : row.location = some location := (Option.filter_eq_some_iff.mp hlocation).1
      dsimp only
      rw [inDb_bind]
      refine confines_beside (beside_poaSettled _ _) (stable_made j row) fun settled => ?_
      split
      · exact hdone
      rw [inDb_bind]
      refine confines_beside (beside_tierOf _ _) (stable_made j row) fun tier => ?_
      rw [inDb_bind]
      refine confines_bind (confines_createCase hauto ⟨rfl, htype, hrow⟩ none) fun _ => ?_
      exact (confines_of_beside beside_audit stable_any)

lemma confines_evaluateAutomation {j : Id} {row : ServiceRequest} :
    Confines toLowerCase s₀ es (fun _ _ => True) (Made s₀ j row)
      (inDb (CasesService.evaluateAutomationAndMaybeConvert toLowerCase j)) := by
  rw [CasesService.evaluateAutomationAndMaybeConvert, inDb_bind]
  refine confines_bind confines_evaluateAndRecord fun decision => ?_
  have hdone : Confines toLowerCase s₀ es (fun _ _ => True) (fun _ => True)
      (inDb (pure decision : Svc AutomationDecision)) := confines_pure fun _ _ => trivial
  dsimp only
  split
  · rename_i houtcome
    by_cases hauto : DecidedAuto toLowerCase s₀ row
    · rw [inDb_bind]
      exact confines_bind ((confines_autoConvert hauto).weaken fun s _ h => h.1) fun _ => hdone
    · exact .of_not fun s h => hauto (h.2 houtcome)
  · exact hdone.weaken fun _ _ _ => trivial

/-! ### The conversations -/

section Conversations

variable {call : ConversationCall} {user : AuthenticatedUser} {turn : ConciergeTurnResult}

/-- A request is made for the customer that the conversation is held with. -/
lemma confines_createRequest (hcall : .start call ∈ es) (hturn : call.conversation.Completes turn)
    {customerId interactionId : Id} {customer : Customer} {K : Intake → Prop}
    (hK : ∀ s, K s → s.db.customer.get? customerId = some customer ∧
      call.conversation.HeldWith s.db customer.userId) :
    Confines toLowerCase s₀ es (fun j => Made s₀ j (AiService.intakeRequest customerId turn)) K
      (AiService.createRequest (AiService.intakeRequest customerId turn)
        (AiService.leadOf turn interactionId)) := by
  intro s hI hs
  beta_reduce
  obtain ⟨hcustomer, hheld⟩ := hK s hs
  have hlead : ∀ i r, s.db.serviceRequest.get? i = some r →
      Function.update s.lead s.db.serviceRequest.next
        (some (AiService.leadOf turn interactionId)) i = s.lead i := fun i r hi =>
    Function.update_of_ne (Nat.ne_of_lt (Table.lt_next_of_get? _ hi)) _ _
  have hlater : s.Later { s with
      db := s.db.insertRow .serviceRequest (AiService.intakeRequest customerId turn)
      lead := Function.update s.lead s.db.serviceRequest.next
        (some (AiService.leadOf turn interactionId)) } :=
    ⟨fun _ _ h => h, fun _ t h => ⟨t.history, h⟩, fun i r hi =>
      ⟨r.convertedCaseId, Table.get?_insert_of_some hi _, hlead i r hi⟩⟩
  refine ⟨⟨⟨hI.elsewhere, fun i r hi => Table.get?_insert_of_some (hI.requests i r hi) _,
    hI.cases, fun i r hnone hi => ?_,
    fun i c hnone hi => (hI.converted i c hnone hi).later hlater⟩, hlater⟩, ?_⟩
  · change (s.db.serviceRequest.insert _).get? i = some r at hi
    rcases Table.get?_insert_cases hi with hold | ⟨rfl, rfl⟩
    · exact (hI.intaken i r hnone hold).later hlater (hlead i r hold) r.convertedCaseId
    · exact ⟨call, turn, customer, hcall, hturn, hcustomer, hheld, ⟨none, rfl⟩, interactionId,
        Function.update_self ..⟩
  · intro s' _ hs' j hj
    cases hj
    refine ⟨hI.none_of_none (Table.get?_next _), ?_⟩
    obtain ⟨caseId, hr, -⟩ := hs'.request _ _ (Table.get?_insert_self ..)
    exact ⟨caseId, hr⟩

/-- A complete conversation becomes a request of the one that it is held with. -/
lemma confines_completeIntake (hcall : .start call ∈ es)
    (hturn : call.conversation.Completes turn) (interactionId : Id) :
    Confines toLowerCase s₀ es (fun _ _ => True)
      (fun s => call.conversation.HeldWith s.db user.id)
      (AiService.completeIntake toLowerCase user turn interactionId) := by
  rw [AiService.completeIntake]
  refine confines_read fun s _ hheld => ?_
  cases hprofile : CasesService.customerProfile s.db user.id with
  | none => exact confines_throw _
  | some p =>
    obtain ⟨customerId, customer⟩ := p
    have hget : s.db.customer.get? customerId = some customer :=
      s.db.customer.mem_rows_iff.mp (List.mem_of_find?_eq_some hprofile)
    have hfound := List.find?_some hprofile
    have huser : customer.userId = user.id := of_decide_eq_true hfound
    refine confines_bind (confines_createRequest hcall hturn fun s' hs' =>
      ⟨hs'.customer _ _ hget, ?_⟩) fun requestId => ?_
    · rw [huser]
      exact hheld.later hs'
    refine confines_beside beside_audit (stable_made _ _) fun _ => ?_
    exact confines_bind confines_evaluateAutomation fun _ => confines_pure fun _ _ => trivial

lemma confines_createInteraction {K : Intake → Prop} (hK : Stable K) :
    Confines toLowerCase s₀ es (fun _ => K) K (AiService.createInteraction turn) := by
  intro s hI hs
  beta_reduce
  split_ifs
  · have hgoes : Confined toLowerCase s₀ es
        { s with aiInteraction := s.aiInteraction.insert (AiService.interactionOf turn) } ∧
        s.Later { s with
          aiInteraction := s.aiInteraction.insert (AiService.interactionOf turn) } :=
      confined_beside hI (.refl s.db) rfl
    exact ⟨hgoes, fun s' _ hs' _ _ => hK _ _ hs (hgoes.2.trans hs')⟩
  · exact ⟨⟨hI, .refl s⟩, fun _ _ _ _ ha => nomatch ha⟩

/-- Whatever the model answers, a conversation stays within its bounds. -/
lemma confines_converse (hcall : .start call ∈ es) {answer : Except String ConciergeTurnResult}
    (hturn : ∀ turn, answer = .ok turn → turn.conversationComplete = true →
      call.conversation.Completes turn) :
    Confines toLowerCase s₀ es (fun _ _ => True)
      (fun s => user.role = .customer → call.conversation.HeldWith s.db user.id)
      (AiService.converse toLowerCase user answer) := by
  rw [AiService.converse]
  split_ifs with hrole
  · exact confines_throw _
  rw [not_not] at hrole
  refine Prog.Upholds.weaken (K := fun s => call.conversation.HeldWith s.db user.id) ?_
    fun s _ h => h hrole
  have hstable : Stable fun s => call.conversation.HeldWith s.db user.id := fun _ _ h => h.later
  have hyields : (Prisma.callProvider answer).Yields fun turn => answer = .ok turn := by
    intro s
    cases answer with
    | error e => trivial
    | ok turn => exact rfl
  refine confines_beside_yields (beside_callProvider answer) hyields hstable fun turn => ?_
  by_cases hanswer : answer = .ok turn
  · refine Prog.Upholds.weaken (K := fun s => call.conversation.HeldWith s.db user.id) ?_
      fun s _ h => h.1
    refine confines_bind (confines_createInteraction hstable) fun interactionId => ?_
    refine confines_beside beside_audit hstable fun _ => ?_
    refine confines_bind (M := fun _ _ => True) ?_ fun _ => confines_pure fun _ _ => trivial
    rw [AiService.requestOf]
    split_ifs with hcomplete
    · exact confines_bind (confines_completeIntake hcall (hturn turn hanswer hcomplete) _)
        fun _ => confines_pure fun _ _ => trivial
    · exact confines_pure fun _ _ => trivial
  · exact .of_not fun s h => hanswer h.2

/-! ### Over WhatsApp -/

/-- The thread is the one of the number, and its user is the one of the answer. -/
def Resolves (phone : String) (x : Id × WhatsAppThread × Id) (s : Intake) : Prop :=
  ∃ t, s.db.whatsAppThread.get? x.1 = some t ∧ t.phone = phone ∧ t.userId = x.2.2

lemma stable_resolves (phone : String) (x : Id × WhatsAppThread × Id) :
    Stable (Resolves phone x) := by
  rintro s s' ⟨t, ht, hphone, huser⟩ hs
  obtain ⟨history, ht'⟩ := hs.thread _ _ ht
  exact ⟨_, ht', hphone, huser⟩

lemma beside_insertCustomer (d : Db) (user : User) (customer : Id → Customer) :
    d.Beside (d.insertCustomer user customer) :=
  ⟨rfl, rfl, rfl, fun _ _ h => Table.get?_insert_of_some h _, fun _ t h => ⟨t.history, h⟩⟩

lemma beside_insertThread (d : Db) (t : WhatsAppThread) :
    d.Beside (d.insertRow .whatsAppThread t) :=
  ⟨rfl, rfl, rfl, fun _ _ h => h, fun _ t h => ⟨t.history, Table.get?_insert_of_some h _⟩⟩

lemma beside_modifyThread (d : Db) (i : Id) (history : List ConversationTurn) :
    d.Beside (d.modifyRow .whatsAppThread i fun t => { t with history }) := by
  refine ⟨rfl, rfl, rfl, fun _ _ h => h, fun j t h => ?_⟩
  show ∃ history', (d.whatsAppThread.modify i _).get? j = _
  rw [Table.get?_modify, h]
  split_ifs
  · exact ⟨history, rfl⟩
  · exact ⟨t.history, rfl⟩

/-- The first message of a number creates its thread. -/
lemma confines_createThread (phone : String) (userId : Id) :
    Confines toLowerCase s₀ es
      (fun threadId => Resolves phone (threadId, { phone, userId }, userId)) (fun _ => True)
      (inDb (Prisma.createUnique .whatsAppThread
        (fun d => d.whatsAppThread.values.any fun t => t.phone = phone ∨ t.userId = userId)
        fun _ => { phone, userId })) := by
  intro s hI _
  beta_reduce
  split_ifs
  · exact ⟨⟨hI, .refl s⟩, fun _ _ _ _ ha => nomatch ha⟩
  · have hgoes : Confined toLowerCase s₀ es
        { s with db := s.db.insertRow .whatsAppThread { phone, userId } } ∧
        s.Later { s with db := s.db.insertRow .whatsAppThread { phone, userId } } :=
      confined_beside hI (beside_insertThread s.db _) rfl
    refine ⟨hgoes, fun s' _ hs' i hi => ?_⟩
    cases hi
    exact stable_resolves phone _ _ _ ⟨_, Table.get?_insert_self .., rfl, rfl⟩ hs'

lemma confines_resolveThread (phone : String) (draw : ℕ → List UInt8) :
    Confines toLowerCase s₀ es (Resolves phone) (fun _ => True)
      (inDb (WhatsappService.resolveThread phone draw)) := by
  rw [WhatsappService.resolveThread, inDb_bind]
  refine confines_read fun s _ _ => ?_
  cases hfound : s.db.threadByPhone phone with
  | some x =>
    obtain ⟨threadId, thread, user⟩ := x
    obtain ⟨p, hp, hpair⟩ := Option.bind_eq_some_iff.mp hfound
    obtain ⟨user', -, heq⟩ := Option.map_eq_some_iff.mp hpair
    rw [Prod.mk.injEq, Prod.mk.injEq] at heq
    obtain ⟨rfl, rfl, rfl⟩ := heq
    have hget := s.db.whatsAppThread.mem_rows_iff.mp (List.mem_of_find?_eq_some hp)
    have hphone := List.find?_some hp
    refine confines_pure fun s' hs' => stable_resolves phone _ s s' ?_ hs'
    exact ⟨p.2, hget, of_decide_eq_true hphone, rfl⟩
  | none =>
    refine Prog.Upholds.weaken (K := fun _ => True) ?_ fun _ _ _ => trivial
    dsimp only
    rw [inDb_bind]
    refine confines_beside (.mono (fun _ s s' heq => heq ▸ .refl s) (eachStep_attemptCodes _ _))
      stable_any fun referralCode => ?_
    rw [inDb_bind]
    refine confines_beside (m := WhatsappService.createCustomer phone referralCode) (fun s => ?_)
      stable_any fun userId => ?_
    · beta_reduce
      split_ifs
      · exact ⟨.refl s, trivial⟩
      · exact ⟨beside_insertCustomer s _ _, trivial⟩
    rw [inDb_bind]
    refine confines_bind (confines_createThread phone userId) fun threadId => ?_
    rw [inDb_bind]
    exact confines_beside beside_audit (stable_resolves phone _) fun _ =>
      confines_pure fun _ hs => hs

/-- A message over WhatsApp stays within its bounds, whatever the model answers. -/
lemma confines_handleTextMessage {m : WhatsappService.TextMessage} (hcall : .start call ∈ es)
    (hm : call.conversation = .whatsApp m) :
    Confines toLowerCase s₀ es (fun _ _ => True) (fun _ => True)
      (WhatsappService.handleTextMessage toLowerCase m) := by
  rw [WhatsappService.handleTextMessage]
  refine confines_bind (confines_resolveThread _ _) fun x => ?_
  obtain ⟨threadId, thread, userId⟩ := x
  dsimp only
  refine confines_bind (M := fun _ _ => True) ?_ fun turn => ?_
  · refine (confines_converse hcall fun turn hanswer hcomplete => ?_).weaken fun s _ hs _ => ?_
    · rw [hm]
      exact ⟨hanswer, hcomplete⟩
    · rw [hm]
      obtain ⟨t, ht, hphone, huser⟩ := hs
      exact ⟨threadId, t, ht, hphone, huser⟩
  refine confines_beside (m := Prisma.update .whatsAppThread threadId _) (fun s => ?_) stable_any
    fun _ => ?_
  · refine ⟨beside_modifyThread s threadId _, ?_⟩
    beta_reduce
    cases (Rel.whatsAppThread.get s).get? threadId <;> trivial
  · refine confines_of_beside ?_ stable_any
    exact .bind beside_audit fun _ => trivial

end Conversations

/-- A call stays within its bounds, also when it is cut off. -/
lemma confines_code {call : ConversationCall} (hcall : .start call ∈ es) :
    Confines toLowerCase s₀ es (fun _ _ => True) (fun _ => True) (call.code toLowerCase) := by
  refine Prog.Upholds.withFault ?_ (fun e s a ha => nomatch ha) call.fault
  obtain ⟨conversation, fault⟩ := call
  cases conversation with
  | web user answer =>
    refine confines_bind (M := fun _ _ => True) ?_ fun _ => confines_pure fun _ _ => trivial
    refine (confines_converse hcall fun turn hanswer hcomplete => ⟨hanswer, hcomplete⟩).weaken
      fun s _ _ hrole => ?_
    show user = ⟨user.id, .customer⟩
    rw [← hrole]
  | whatsApp m =>
    exact confines_bind (confines_handleTextMessage hcall rfl)
      fun _ => confines_pure fun _ _ => trivial
  | demo answer =>
    refine confines_bind (M := fun _ _ => True) ?_ fun _ => confines_pure fun _ _ => trivial
    exact confines_beside (beside_callProvider answer) stable_any
      fun _ => confines_pure fun _ _ => trivial
  | assistant user answer =>
    refine confines_bind (M := fun _ _ => True) ?_ fun _ => confines_pure fun _ _ => trivial
    rw [AiService.assistantReply]
    split_ifs
    · exact confines_throw _
    refine confines_beside (beside_read _ _) stable_any fun customer => ?_
    cases customer with
    | none => exact confines_throw _
    | some p =>
      refine confines_beside (beside_callProvider answer) stable_any fun text => ?_
      exact confines_beside beside_audit stable_any fun _ => confines_pure fun _ _ => trivial

end Steps

/-- **The concierge stays within its bounds**, whatever the model answers, however the conversations
interleave and wherever they fail. -/
theorem concierge_confined (toLowerCase : String → String) (s₀ : Intake)
    (es : List (Event ConversationCall)) :
    Confined toLowerCase s₀ es
      (runFrom (Pool.step (ConversationCall.code toLowerCase)) (Pool.idle s₀) es).shared :=
  (Pool.upheld (Q := fun _ r _ => ∀ a, r = .ok a → True) Intake.Later.refl
    (fun _ _ _ => .trans) confined_start es fun _ hcall => confines_code hcall).1.1

/-! ## The leads -/

lemma engagementPoints_bounds (q : ℚ) : 0 ≤ engagementPoints q ∧ engagementPoints q ≤ 15 := by
  rw [engagementPoints]
  omega

/-- Without a stated value, the points for the budget are the least. -/
lemma leadOf_score (turn : ConciergeTurnResult) (interactionId : Id) :
    (AiService.leadOf turn interactionId).score = 6 + urgencyPoints turn.dataCollected.timeline +
      engagementPoints turn.engagementSubscore := rfl

lemma leadOf_tag (turn : ConciergeTurnResult) (interactionId : Id) :
    (AiService.leadOf turn interactionId).tag =
      leadTag (AiService.leadOf turn interactionId).score := rfl

/-- **No conversation makes a lead HOT**, however urgent and engaged it is: the value of the request
is never asked for.  A lead is WARM if the request is immediate, or if it is to be soon and scores
the full points for engagement. -/
theorem leads_never_hot (toLowerCase : String → String) (s₀ : Intake)
    (es : List (Event ConversationCall)) {s : Intake}
    (hs : (runFrom (Pool.step (ConversationCall.code toLowerCase)) (Pool.idle s₀) es).shared = s)
    (i : Id) (r : ServiceRequest) (hnew : s₀.db.serviceRequest.get? i = none)
    (hr : s.db.serviceRequest.get? i = some r) :
    ∃ lead, s.lead i = some lead ∧ 13 ≤ lead.score ∧ lead.score ≤ 61 ∧ lead.tag ≠ .hot ∧
      (lead.tag = .warm ↔ r.timing = some "immediate" ∨
        r.timing = some "near_term" ∧ lead.score = 45) := by
  have hconfined : Confined toLowerCase s₀ es s := hs ▸ concierge_confined toLowerCase s₀ es
  obtain ⟨call, turn, customer, -, -, -, -, ⟨caseId, hrow⟩, interactionId, hlead⟩ :=
    hconfined.intaken i r hnew hr
  have htiming : r.timing = turn.dataCollected.timeline := by
    rw [hrow]
    rfl
  obtain ⟨hpos, hle⟩ := engagementPoints_bounds turn.engagementSubscore
  have hscore := leadOf_score turn interactionId
  refine ⟨_, hlead, ?_⟩
  rw [leadOf_tag, htiming]
  rw [urgencyPoints] at hscore
  generalize (AiService.leadOf turn interactionId).score = score at hscore ⊢
  generalize turn.dataCollected.timeline = timeline at hscore ⊢
  by_cases himmediate : timeline = some "immediate"
  · rw [if_pos himmediate] at hscore
    have hwarm : leadTag score = .warm := by
      rw [leadTag, if_neg (by omega), if_pos (by omega)]
    rw [hwarm]
    exact ⟨by omega, by omega, by decide, iff_of_true rfl (Or.inl himmediate)⟩
  rw [if_neg himmediate] at hscore
  by_cases hsoon : timeline = some "near_term"
  · rw [if_pos hsoon] at hscore
    rw [leadTag, if_neg (by omega)]
    refine ⟨by omega, by omega, ?_, ?_⟩
    · split_ifs <;> decide
    · split_ifs with hfull
      · exact iff_of_true rfl (Or.inr ⟨hsoon, by omega⟩)
      · exact iff_of_false (by decide) fun h => h.elim himmediate fun h => hfull (by omega)
  · rw [if_neg hsoon] at hscore
    rw [leadTag, if_neg (by omega), if_neg (by omega)]
    exact ⟨by omega, by omega, by decide,
      iff_of_false (by decide) fun h => h.elim himmediate fun h => hsoon h.1⟩

/-- A customer, and a service that is automatic. -/
def visitIntake : Intake where
  db :=
    { customer := Table.empty.insert { userId := 4 }
      automationCapability := Table.empty.insert
        { serviceType := .familySupport, enabled := true, rules := [] } }

/-- The model completes a conversation with a request that is urgent. -/
def urgentVisit : ConversationCall where
  conversation := .web ⟨4, .customer⟩ (.ok
    { replyText := "Thank you.", conversationComplete := true, engagementSubscore := 15
      dataCollected :=
        { serviceType := some "FAMILY_SUPPORT", location := some "Enugu"
          scopeDetail := some "A visit to my mother", timeline := some "immediate" } })

def urgentVisitRun : List (Event ConversationCall) :=
  .start urgentVisit :: List.replicate 20 (.sched 0)

theorem leads_never_hot_urgentVisit :
    ∃ lead, (runFrom (Pool.step (ConversationCall.code id)) (Pool.idle visitIntake)
      urgentVisitRun).shared.lead 0 = some lead ∧ lead.tag ≠ .hot := by
  have hsome : ((runFrom (Pool.step (ConversationCall.code id)) (Pool.idle visitIntake)
      urgentVisitRun).shared.db.serviceRequest.get? 0).isSome = true := by decide +kernel
  obtain ⟨r, hr⟩ := Option.isSome_iff_exists.mp hsome
  obtain ⟨lead, hlead, -, -, htag, -⟩ :=
    leads_never_hot id visitIntake urgentVisitRun rfl 0 r rfl hr
  exact ⟨lead, hlead, htag⟩

/-- The request has become a case. -/
example : ((runFrom (Pool.step (ConversationCall.code id)) (Pool.idle visitIntake)
    urgentVisitRun).shared.db.serviceRequest.get? 0).bind ServiceRequest.convertedCaseId =
      some 0 := by decide +kernel

end Asoju
