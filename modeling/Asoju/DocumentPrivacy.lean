/-
Which documents of a case leave the two endpoints.

For an actor in the field both endpoints show the documents of the case that are for everyone or for
an assignment of his on the case.  What is shown is a choice of rows of the document table followed
by the stable order by date, so it depends on the chosen rows alone.

A beneficiary is to be shown documents for everyone only, which the endpoint of the case does.  The
endpoint of the documents narrows nothing down for him.
-/
import Asoju.Documents

namespace Asoju

open Lib (sortDesc)

/-- The document is not for the user: it is for staff, or for an assignment that is not his, or he
is a beneficiary and it is not for everyone. -/
def Db.hides (d : Db) (user : AuthenticatedUser) (doc : Document) : Bool :=
  match doc.visibility with
  | .all => false
  | .staffOnly => true
  | .assignee => user.role = .beneficiary ∨ ¬ doc.restrictedToAssignmentId.any fun id =>
      (d.assignment.get? id).any (d.holdsAssignment user.id)

/-- The row is a document of the case that the user may see. -/
def Db.mayShow (d : Db) (user : AuthenticatedUser) (caseId : Id) (p : Row Document) : Bool :=
  p.2.caseId = caseId ∧ d.hides user p.2 = false

variable (getViewUrl : String → String) (d : Db) (actor : AuthenticatedUser) (caseId : Id)

/-- Documents that are not for the user do not leak through either endpoint. -/
structure HidesDocuments : Prop where
  detail : ∀ response, getCase getViewUrl d actor caseId = .ok response →
    ∀ i ∈ response.documentIds, ∃ doc, (i, doc) ∈ d.document.rows ∧ d.mayShow actor caseId (i, doc)
  list : ∀ response, getDocuments getViewUrl d actor caseId = .ok response →
    ∀ v ∈ response, (v.id, v.document) ∈ d.document.rows ∧
      d.mayShow actor caseId (v.id, v.document)
  /-- The two responses show the same documents. -/
  same : ∀ response documents, getCase getViewUrl d actor caseId = .ok response →
    getDocuments getViewUrl d actor caseId = .ok documents →
      ∀ i, i ∈ response.documentIds ↔ i ∈ documents.map (·.id)
  /-- Neither response changes with the documents that are not for the user. -/
  blind : ∀ t : Lib.Table Document,
    t.rows.filter (d.mayShow actor caseId) = d.document.rows.filter (d.mayShow actor caseId) →
      getCase getViewUrl { d with document := t } actor caseId =
          getCase getViewUrl d actor caseId ∧
        getDocuments getViewUrl { d with document := t } actor caseId =
          getDocuments getViewUrl d actor caseId

/-! ### What is shown -/

variable {getViewUrl d actor caseId}

/-- The documents that an endpoint shows: a choice of rows, the newest first. -/
def shown (t : Lib.Table Document) (q : Row Document → Bool) : List (Row Document) :=
  sortDesc (fun p => p.2.createdAt) (t.rows.filter q)

lemma mem_shown {t : Lib.Table Document} {q : Row Document → Bool} {p : Row Document} :
    p ∈ shown t q ↔ p ∈ t.rows ∧ q p := by
  rw [shown, Lib.mem_sortDesc, List.mem_filter]

/-- What is shown depends on the rows that may be shown. -/
lemma shown_congr {t u : Lib.Table Document} {p q : Row Document → Bool}
    (hq : ∀ x, q x = true → p x = true) (h : t.rows.filter p = u.rows.filter p) :
    shown t q = shown u q := by
  have hnarrow : ∀ l : List (Row Document), l.filter q = (l.filter p).filter q := by
    intro l
    rw [List.filter_filter]
    refine List.filter_congr fun x _ => ?_
    cases hx : q x with
    | false => simp
    | true => simp [hq x hx]
  rw [shown, shown, hnarrow, h, ← hnarrow]

/-- What an actor in the field is shown. -/
def fieldChoice (d : Db) (actor : AuthenticatedUser) (caseId : Id) (p : Row Document) : Bool :=
  visibleToFieldActor (d.ownAssignmentIds caseId actor.id) p.2 && decide (p.2.caseId = caseId)

/-- What a beneficiary is shown by the endpoint of the case. -/
def beneficiaryChoice (caseId : Id) (p : Row Document) : Bool :=
  decide (p.2.visibility = .all) && decide (p.2.caseId = caseId)

lemma filterDocumentsForFieldActor_eq :
    filterDocumentsForFieldActor (d.documentsOf caseId) (d.ownAssignmentIds caseId actor.id) =
      shown d.document (fieldChoice d actor caseId) := by
  rw [filterDocumentsForFieldActor, Db.documentsOf, Lib.filter_sortDesc, Db.rowsOf,
    List.filter_filter]
  rfl

lemma visibleDocuments_eq (h : actor.role = .fieldAgent ∨ actor.role = .provider) :
    CasesService.visibleDocuments d actor caseId =
      shown d.document (fieldChoice d actor caseId) := by
  rw [CasesService.visibleDocuments, if_pos h]
  exact filterDocumentsForFieldActor_eq

lemma listForCase_eq (h : actor.role = .fieldAgent ∨ actor.role = .provider) :
    DocumentsService.listForCase getViewUrl d actor caseId =
      (shown d.document (fieldChoice d actor caseId)).map (withView getViewUrl) := by
  have hmem : actor.role ∈ fieldRoles := by simpa [fieldRoles] using h
  rw [DocumentsService.listForCase, if_pos hmem]
  exact congrArg (List.map (withView getViewUrl)) filterDocumentsForFieldActor_eq

lemma beneficiaryDocuments_eq : CasesService.beneficiaryDocuments d caseId =
    shown d.document (beneficiaryChoice caseId) := by
  rw [CasesService.beneficiaryDocuments, Db.rowsOf, List.filter_filter]
  rfl

/-- An actor in the field is shown only what is for him. -/
lemma mayShow_of_fieldChoice (h : actor.role = .fieldAgent ∨ actor.role = .provider)
    {p : Row Document} (hp : fieldChoice d actor caseId p = true) :
    d.mayShow actor caseId p = true := by
  obtain ⟨hvisible, hcase⟩ := Bool.and_eq_true_iff.mp hp
  refine decide_eq_true ⟨of_decide_eq_true hcase, ?_⟩
  rw [visibleToFieldActor] at hvisible
  rw [Db.hides]
  cases hv : p.2.visibility with
  | all => rfl
  | staffOnly => simp [hv] at hvisible
  | assignee =>
    rw [hv] at hvisible
    obtain ⟨id, hid, hown⟩ := (Option.any_eq_true _ _).mp hvisible
    -- the assignment is among those of the actor on this case
    obtain ⟨⟨id', a⟩, ha, rfl⟩ := List.mem_map.mp (of_decide_eq_true hown)
    obtain ⟨hrow, hholds⟩ := List.mem_filter.mp ha
    have hget : d.assignment.get? id' = some a :=
      (d.assignment.mem_rows_iff).mp (List.mem_filter.mp hrow).1
    have hrole : actor.role ≠ .beneficiary := by rcases h with h | h <;> simp [h]
    simp [hid, hget, hholds, hrole]

/-- The endpoint of the case shows a beneficiary only what is for him. -/
lemma mayShow_of_beneficiaryChoice {p : Row Document} (hp : beneficiaryChoice caseId p = true) :
    d.mayShow actor caseId p = true := by
  obtain ⟨hall, hcase⟩ := Bool.and_eq_true_iff.mp hp
  refine decide_eq_true ⟨of_decide_eq_true hcase, ?_⟩
  rw [Db.hides, of_decide_eq_true hall]

/-! ### The two endpoints -/

/-- The rows of the documents that the endpoint of the case shows. -/
def detailChoice (d : Db) (actor : AuthenticatedUser) (caseId : Id) : Row Document → Bool :=
  if actor.role = .beneficiary then beneficiaryChoice caseId else fieldChoice d actor caseId

section Detail

variable (h : (actor.role = .fieldAgent ∨ actor.role = .provider) ∨ actor.role = .beneficiary)
include h

lemma mayShow_of_detailChoice {p : Row Document} (hp : detailChoice d actor caseId p = true) :
    d.mayShow actor caseId p = true := by
  rcases h with h | h
  · have hne : actor.role ≠ .beneficiary := by rcases h with h | h <;> simp [h]
    rw [detailChoice, if_neg hne] at hp
    exact mayShow_of_fieldChoice h hp
  · rw [detailChoice, if_pos h] at hp
    exact mayShow_of_beneficiaryChoice hp

/-- The response for a case, by what is shown of the documents. -/
lemma getCaseDetail_documentIds {response : CaseResponse}
    (hok : CasesService.getCaseDetail getViewUrl d actor caseId = .ok response) :
    response.documentIds = (shown d.document (detailChoice d actor caseId)).map Prod.fst := by
  unfold CasesService.getCaseDetail at hok
  split at hok
  case h_1 => cases hok
  case h_2 serviceCase _ =>
    rcases h with h | h
    · have hne : actor.role ≠ .beneficiary := by rcases h with h | h <;> simp [h]
      rw [if_neg hne] at hok
      cases hok
      simp [CaseResponse.documentIds, CasesService.toCaseDetail, visibleDocuments_eq h, withView,
        detailChoice, hne]
    · rw [if_pos h] at hok
      cases hok
      simp [CaseResponse.documentIds, CasesService.toBeneficiaryCaseDetail,
        beneficiaryDocuments_eq, detailChoice, h]

/-- Whatever the role, the response for a case depends on the documents the user may see. -/
lemma getCaseDetail_congr {t : Lib.Table Document}
    (ht : t.rows.filter (d.mayShow actor caseId) =
      d.document.rows.filter (d.mayShow actor caseId)) :
    CasesService.getCaseDetail getViewUrl { d with document := t } actor caseId =
      CasesService.getCaseDetail getViewUrl d actor caseId := by
  have hshown := shown_congr (fun p => mayShow_of_detailChoice h) ht
  unfold CasesService.getCaseDetail
  dsimp only
  split
  case h_1 => rfl
  case h_2 serviceCase _ =>
    rcases h with h | h
    · have hne : actor.role ≠ .beneficiary := by rcases h with h | h <;> simp [h]
      rw [if_neg hne, if_neg hne]
      rw [detailChoice, if_neg hne] at hshown
      simp only [CasesService.toCaseDetail, visibleDocuments_eq h]
      exact congrArg _ (congrArg _ (by rw [← hshown]; rfl))
    · rw [if_pos h, if_pos h]
      rw [detailChoice, if_pos h] at hshown
      simp only [CasesService.toBeneficiaryCaseDetail, beneficiaryDocuments_eq, hshown]

end Detail

lemma getCase_eq (hguard : CaseAccessGuard.canActivate d actor caseId = .ok ()) :
    getCase getViewUrl d actor caseId =
      CasesService.getCaseDetail getViewUrl d actor caseId := by
  rw [getCase, hguard]
  rfl

lemma getDocuments_eq (hguard : CaseAccessGuard.canActivate d actor caseId = .ok ()) :
    getDocuments getViewUrl d actor caseId =
      .ok (DocumentsService.listForCase getViewUrl d actor caseId) := by
  rw [getDocuments, hguard]
  rfl

/-- The guard does not look at the documents. -/
lemma canActivate_document (t : Lib.Table Document) :
    CaseAccessGuard.canActivate { d with document := t } actor caseId =
      CaseAccessGuard.canActivate d actor caseId := rfl

/-- The endpoint of the documents is right for an actor in the field. -/
lemma hidesDocuments_of_field (hguard : CaseAccessGuard.canActivate d actor caseId = .ok ())
    (h : actor.role = .fieldAgent ∨ actor.role = .provider) :
    HidesDocuments getViewUrl d actor caseId := by
  have hne : actor.role ≠ .beneficiary := by rcases h with h | h <;> simp [h]
  have hchoice : detailChoice d actor caseId = fieldChoice d actor caseId := if_neg hne
  refine ⟨fun response hok i hi => ?_, fun response hok v hv => ?_,
    fun response documents hok hdocuments i => ?_, fun t ht => ⟨?_, ?_⟩⟩
  · rw [getCase_eq hguard] at hok
    rw [getCaseDetail_documentIds (Or.inl h) hok, hchoice] at hi
    obtain ⟨p, hp, rfl⟩ := List.mem_map.mp hi
    obtain ⟨hrow, hq⟩ := mem_shown.mp hp
    exact ⟨p.2, hrow, mayShow_of_fieldChoice h hq⟩
  · rw [getDocuments_eq hguard, listForCase_eq h] at hok
    cases hok
    obtain ⟨p, hp, rfl⟩ := List.mem_map.mp hv
    obtain ⟨hrow, hq⟩ := mem_shown.mp hp
    exact ⟨hrow, mayShow_of_fieldChoice h hq⟩
  · rw [getCase_eq hguard] at hok
    rw [getDocuments_eq hguard, listForCase_eq h] at hdocuments
    cases hdocuments
    rw [getCaseDetail_documentIds (Or.inl h) hok, hchoice, List.map_map]
    rfl
  · rw [getCase_eq hguard, getCase_eq ((canActivate_document t).trans hguard),
      getCaseDetail_congr (Or.inl h) ht]
  · rw [getDocuments_eq hguard, getDocuments_eq ((canActivate_document t).trans hguard),
      listForCase_eq h, listForCase_eq h]
    exact congrArg (fun l => Except.ok (List.map (withView getViewUrl) l))
      (shown_congr (fun p => mayShow_of_fieldChoice h) ht)

/-- A document for staff on the case. -/
def staffDocument (caseId : Id) : Document where
  caseId := caseId
  label := "Title deed"
  storageKey := "documents/0/title-deed.pdf"
  uploadedById := none
  createdAt := 0
  visibility := .staffOnly

/-- One more document for staff makes the list of a beneficiary longer. -/
lemma not_hidesDocuments_of_beneficiary
    (hguard : CaseAccessGuard.canActivate d actor caseId = .ok ())
    (h : actor.role = .beneficiary) : ¬ HidesDocuments getViewUrl d actor caseId := by
  intro hides
  have hhidden : d.mayShow actor caseId (d.document.next, staffDocument caseId) = false := by
    simp [Db.mayShow, Db.hides, staffDocument]
  have hlist := (hides.blind (d.document.insert (staffDocument caseId))
    (by rw [Lib.Table.rows_insert, List.filter_append]; simp [hhidden])).2
  rw [getDocuments_eq hguard, getDocuments_eq ((canActivate_document _).trans hguard)] at hlist
  have hrole : actor.role ∉ fieldRoles := by simp [fieldRoles, h]
  rw [DocumentsService.listForCase, DocumentsService.listForCase, if_neg hrole, if_neg hrole]
    at hlist
  have hlength := congrArg List.length (Except.ok.inj hlist)
  simp only [List.length_map, Db.documentsOf, sortDesc, List.length_insertionSort, Db.rowsOf,
    Lib.Table.rows_insert, List.filter_append, List.length_append] at hlength
  simp [staffDocument] at hlength

/-- **Documents leak to beneficiaries, and to nobody else outside.**  Of the users in the field and
the beneficiaries that the guard lets through to a case, those in the field are shown nothing by
either endpoint that is not for them, the same documents by both, and nothing of a change of the
others.  For a beneficiary this is false, whatever is on the case. -/
theorem hidesDocuments_iff
    (hrole : (actor.role = .fieldAgent ∨ actor.role = .provider) ∨ actor.role = .beneficiary)
    (hguard : CaseAccessGuard.canActivate d actor caseId = .ok ()) :
    HidesDocuments getViewUrl d actor caseId ↔
      (actor.role = .fieldAgent ∨ actor.role = .provider) := by
  constructor
  · intro hides
    rcases hrole with h | h
    · exact h
    · exact absurd hides (not_hidesDocuments_of_beneficiary hguard h)
  · exact hidesDocuments_of_field hguard

/-! ### A case with a document for staff -/

/-- A case with its beneficiary, who has access to the portal, an agent, and a document for staff. -/
def caseWithTitleDeed : Db where
  customer := Lib.Table.empty.insert { userId := 7 }
  beneficiary := Lib.Table.empty.insert { customerId := 0, userId := some 9 }
  agent := Lib.Table.empty.insert { userId := 8, isActive := true }
  serviceCase := Lib.Table.empty.insert
    { customerId := 0, serviceType := .propertyInspection, description := "Inspect the house",
      location := "Lagos", beneficiaryId := some 0 }
  assignment := Lib.Table.empty.insert
    { caseId := 0, role := .fieldAgent, agentId := some 0, providerId := none, scheduledFor := none }
  document := Lib.Table.empty.insert (staffDocument 0)

theorem hidesDocuments_iff_agent :
    HidesDocuments id caseWithTitleDeed ⟨8, .fieldAgent⟩ 0 :=
  (hidesDocuments_iff (Or.inl (Or.inl rfl)) (by decide)).mpr (Or.inl rfl)

/-- The beneficiary reads the title deed that is for staff. -/
theorem beneficiary_reads_title_deed :
    CaseAccessGuard.canActivate caseWithTitleDeed ⟨9, .beneficiary⟩ 0 = .ok () ∧
      getDocuments id caseWithTitleDeed ⟨9, .beneficiary⟩ 0 =
        .ok [⟨0, staffDocument 0, "documents/0/title-deed.pdf"⟩] ∧
      ¬ HidesDocuments id caseWithTitleDeed ⟨9, .beneficiary⟩ 0 := by
  refine ⟨by decide, by decide, fun hides => ?_⟩
  have hshown := hides.list [⟨0, staffDocument 0, "documents/0/title-deed.pdf"⟩] (by decide) _
    (List.mem_singleton_self _)
  exact absurd hshown.2 (by decide)

end Asoju
