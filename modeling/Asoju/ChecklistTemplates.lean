/-
The field checklists.

Every service type has its own version of the standard checklist, which is written to the case
when it is created.  Only construction supervision groups its items by milestone.
-/
import Asoju.Schema

namespace Asoju

structure ChecklistItemTemplate where
  label : String
  milestoneGroup : Option MilestoneGroup
deriving DecidableEq, Repr

def checklistTemplates : ServiceType → List ChecklistItemTemplate
  | .propertyInspection =>
      [⟨"Confirm location", none⟩, ⟨"Photograph entrance / access road", none⟩,
        ⟨"Photograph surrounding development", none⟩, ⟨"Photograph the property", none⟩,
        ⟨"Capture site video", none⟩, ⟨"Record observations", none⟩,
        ⟨"Collect available documents", none⟩, ⟨"Identify exceptions", none⟩,
        ⟨"Complete inspection submission", none⟩]
  | .constructionSupervision =>
      [⟨"Confirm site location", none⟩,
        ⟨"Verify foundation/footing works against approved plan", some .foundation⟩,
        ⟨"Photograph foundation/footing progress (all angles)", some .foundation⟩,
        ⟨"Verify damp-proof course (DPC) / ground floor slab", some .dpc⟩,
        ⟨"Photograph DPC / ground floor slab progress", some .dpc⟩,
        ⟨"Verify superstructure/walling matches approved plan", some .superstructure⟩,
        ⟨"Photograph superstructure progress (all angles)", some .superstructure⟩,
        ⟨"Verify roofing structure and covering", some .roofing⟩,
        ⟨"Photograph roofing progress (all angles)", some .roofing⟩,
        ⟨"Verify finishing works (plastering, fittings, painting)", some .finishing⟩,
        ⟨"Photograph finishing progress (all angles)", some .finishing⟩,
        ⟨"Record contractor observations", none⟩, ⟨"Verify materials on site", none⟩,
        ⟨"Capture progress video", none⟩, ⟨"Record observations", none⟩,
        ⟨"Identify exceptions", none⟩, ⟨"Complete supervision submission", none⟩]
  | .assetInspection =>
      [⟨"Confirm asset location", none⟩, ⟨"Photograph the asset (all angles)", none⟩,
        ⟨"Capture asset video", none⟩, ⟨"Record condition observations", none⟩,
        ⟨"Collect available documents", none⟩, ⟨"Identify exceptions", none⟩,
        ⟨"Complete inspection submission", none⟩]
  | .familySupport =>
      [⟨"Confirm beneficiary details and location", none⟩,
        ⟨"Make contact / confirm welfare", none⟩, ⟨"Photograph relevant documentation", none⟩,
        ⟨"Record observations", none⟩, ⟨"Identify exceptions", none⟩,
        ⟨"Complete visit submission", none⟩]
  | .procurement =>
      [⟨"Confirm item specification and budget", none⟩,
        ⟨"Source and compare at least two quotes", none⟩,
        ⟨"Photograph the item(s) before purchase", none⟩,
        ⟨"Complete purchase and collect receipt", none⟩,
        ⟨"Photograph item(s) and receipt after purchase", none⟩,
        ⟨"Arrange delivery / handoff", none⟩, ⟨"Identify exceptions", none⟩,
        ⟨"Complete procurement submission", none⟩]
  | .businessVerification =>
      [⟨"Confirm business name and registered address", none⟩,
        ⟨"Photograph business premises", none⟩, ⟨"Collect CAC / registration documents", none⟩,
        ⟨"Record observations on business activity", none⟩, ⟨"Identify exceptions", none⟩,
        ⟨"Complete verification submission", none⟩]
  | .investmentSupport =>
      [⟨"Confirm investment site / instrument details", none⟩,
        ⟨"Photograph site or supporting documents", none⟩, ⟨"Record observations", none⟩,
        ⟨"Collect available documents", none⟩, ⟨"Identify exceptions", none⟩,
        ⟨"Complete review submission", none⟩]
  | .agricultureSupport =>
      [⟨"Confirm farm / site location", none⟩, ⟨"Photograph the farm (all sections)", none⟩,
        ⟨"Capture site video", none⟩, ⟨"Record crop/livestock condition observations", none⟩,
        ⟨"Collect available documents", none⟩, ⟨"Identify exceptions", none⟩,
        ⟨"Complete inspection submission", none⟩]
  | .bereavementSupport =>
      [⟨"Confirm next of kin / family point of contact", none⟩,
        ⟨"Confirm mortuary — location, hold status, and release requirements", none⟩,
        ⟨"Confirm burial/venue booking and date", none⟩,
        ⟨"Confirm permits and documentation required (death certificate, burial permit)", none⟩,
        ⟨"Coordinate with officiant / clergy if requested", none⟩, ⟨"Record observations", none⟩,
        ⟨"Identify exceptions", none⟩, ⟨"Complete coordination submission", none⟩]
  | .arrivalSupport =>
      [⟨"Confirm arrival date, flight, and accommodation address against the Arrival Profile", none⟩,
        ⟨"Verify accommodation condition and readiness (photos)", none⟩,
        ⟨"Confirm utilities / internet active at accommodation", none⟩,
        ⟨"Confirm groceries and essentials stocked, if requested", none⟩,
        ⟨"Confirm driver / vehicle arranged for airport pickup, if requested", none⟩,
        ⟨"Complete airport pickup and meet-and-greet, if requested", none⟩,
        ⟨"Record observations", none⟩, ⟨"Identify exceptions", none⟩,
        ⟨"Complete arrival coordination submission", none⟩]
  | .legalDocumentServices =>
      [⟨"Confirm the document(s)/title requested and the issuing registry", none⟩,
        ⟨"Confirm any reference numbers, file numbers, or prior correspondence needed for retrieval", none⟩,
        ⟨"Visit the registry / government office", none⟩,
        ⟨"Photograph the retrieved or verified document(s)", none⟩,
        ⟨"Confirm document authenticity markers (seal, signature, watermark) where applicable", none⟩,
        ⟨"Collect certified copies / receipts of any fees paid", none⟩,
        ⟨"Record observations", none⟩, ⟨"Identify exceptions", none⟩,
        ⟨"Complete legal/document services submission", none⟩]
  | .healthcareCoordination =>
      [⟨"Confirm beneficiary details and hospital/clinic location", none⟩,
        ⟨"Confirm appointment time and attending doctor, if scheduled", none⟩,
        ⟨"Accompany or facilitate beneficiary at the hospital visit", none⟩,
        ⟨"Photograph relevant documentation (admission, prescriptions, receipts)", none⟩,
        ⟨"Collect the medical report / doctor's notes", none⟩,
        ⟨"Confirm signed doctor's notes are present and legible", none⟩,
        ⟨"Record observations", none⟩, ⟨"Identify exceptions", none⟩,
        ⟨"Complete healthcare coordination submission", none⟩]

/-- Every checklist has an item, and milestones are for construction supervision only. -/
lemma checklistTemplates_spec (serviceType : ServiceType) :
    checklistTemplates serviceType ≠ [] ∧
      (serviceType ≠ .constructionSupervision →
        ∀ item ∈ checklistTemplates serviceType, item.milestoneGroup = none) := by
  cases serviceType <;> simp [checklistTemplates]

/-- The tasks of a new case. -/
def checklistTasks (caseId : Id) (serviceType : ServiceType) : List CaseTask :=
  (checklistTemplates serviceType).zipIdx.map fun p =>
    { caseId, label := p.1.label, milestoneGroup := p.1.milestoneGroup, sortOrder := p.2 }

end Asoju
