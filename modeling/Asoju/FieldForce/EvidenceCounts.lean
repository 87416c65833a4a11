/-
The counter of a mission's evidence.

An upload adds one to the counter that the route has read, whether the intake has created an item or
has found the one of an earlier upload with the same key.  So where an upload is taken in, the
counter is right afterwards exactly if its key was not known (`counts_iff_fresh`).  But the route
does not wait for the check of the ownership: it answers with the promise of its result, and no
upload is taken in.  `counts_posted` is what follows for the route as it stands.
-/
import Asoju.FieldForce.MissionMoves
import Asoju.FieldForce.QualityControl
import Asoju.Lib.Run

namespace Asoju.FieldForce

open Lib

open QualityControl (evidenceCount)

namespace Evidence

/-- An upload by an agent. -/
structure Call where
  agentId : Id
  upload : Upload

def step (d : Db) (c : Call) : Db := (POST c.agentId c.upload).exec d

/-- **The counters count**: that of each mission is the number of its items. -/
def Counts (d : Db) : Prop :=
  ∀ i m, d.mission.get? i = some m → m.evidenceCount = evidenceCount i d

/-- An item has been stored under the key of the upload. -/
def known (r : Upload) (d : Db) : Bool :=
  ((nonEmpty r.idempotencyKey).bind fun key => Db.evidenceItems.find (hasEvidenceKey key) d).isSome

/-- A retry changes neither a counter nor the number of the items. -/
def RetryNeutral (d : Db) (c : Call) : Prop :=
  known c.upload d → ∀ i,
    ((step d c).mission.get? i).map Mission.evidenceCount =
      (d.mission.get? i).map Mission.evidenceCount ∧
    evidenceCount i (step d c) = evidenceCount i d

/-! ### What an upload does to the counters -/

/-- An upload that is not taken in leaves the missions and the items as they are. -/
lemma step_of_not_stores {d : Db} {c : Call} (h : stores c.upload d = none) :
    (step d c).mission = d.mission ∧ (step d c).evidenceItem = d.evidenceItem := by
  have hsite : (step d c).site = d.site := by
    rw [step, site_POST, h]
  exact ⟨congrArg Site.missions hsite, congrArg Site.evidence hsite⟩

/-- An upload that is taken in counts, and creates an item unless its key is known. -/
lemma step_of_stores {d : Db} {c : Call} {missionId : Id} {mission : Mission}
    (h : stores c.upload d = some (missionId, mission)) :
    (step d c).mission = d.mission.modify missionId (count mission) ∧
      (step d c).evidenceItem = if known c.upload d then d.evidenceItem else
        d.evidenceItem.insert ⟨missionId, c.agentId, c.upload.idempotencyKey⟩ := by
  have hsite : (step d c).site = stored c.agentId c.upload missionId mission d.site := by
    rw [step, site_POST, h]
  exact ⟨congrArg Site.missions hsite, congrArg Site.evidence hsite⟩

/-- **One upload** leaves the counters right exactly if it is not taken in or its key is new. -/
lemma counts_step_iff {d : Db} (hd : Counts d) (c : Call) :
    Counts (step d c) ↔ stores c.upload d = none ∨ known c.upload d = false := by
  cases hstores : stores c.upload d with
  | none =>
    obtain ⟨hmission, hitems⟩ := step_of_not_stores hstores
    refine iff_of_true (fun i m hm => ?_) (.inl rfl)
    rw [hmission] at hm
    rw [evidenceCount, hitems]
    exact hd i m hm
  | some q =>
    obtain ⟨missionId, mission⟩ := q
    obtain ⟨hmission, hitems⟩ := step_of_stores hstores
    have hget : d.mission.get? missionId = some mission := get?_of_stores hstores
    have hread : mission.evidenceCount = evidenceCount missionId d := hd missionId mission hget
    cases hknown : known c.upload d with
    | true =>
      rw [hknown, if_pos rfl] at hitems
      refine iff_of_false (fun h => ?_) (by simp)
      -- The mission of the upload is counted once more than it has items.
      have hcounted : (step d c).mission.get? missionId = some (count mission mission) := by
        rw [hmission, Table.get?_modify, if_pos rfl, hget]
        rfl
      have hright := h missionId _ hcounted
      rw [evidenceCount, hitems] at hright
      have hcount : (count mission mission).evidenceCount = mission.evidenceCount + 1 := rfl
      rw [hcount, hread, evidenceCount] at hright
      omega
    | false =>
      rw [hknown] at hitems
      refine iff_of_true (fun i m hm => ?_) (.inr rfl)
      have hitems' : evidenceCount i (step d c) =
          evidenceCount i d + if missionId = i then 1 else 0 := by
        rw [evidenceCount, hitems, if_neg (by decide), Table.countP_values_insert, evidenceCount]
        simp only [decide_eq_true_eq]
      rw [hmission] at hm
      by_cases hi : i = missionId
      · subst hi
        rw [Table.get?_modify, if_pos rfl, hget] at hm
        obtain rfl : count mission mission = m := Option.some.inj hm
        rw [hitems', if_pos rfl]
        show mission.evidenceCount + 1 = _
        rw [hread]
        exact (Nat.cast_succ _).symm
      · rw [Table.get?_modify_of_ne _ hi] at hm
        rw [hitems', if_neg (Ne.symm hi)]
        exact hd i m hm

/-- **The counters** are right throughout a sequence of uploads exactly if no upload that is taken
in has a known key. -/
theorem counts_iff_fresh {d : Db} (hd : Counts d) (cs : List Call) :
    AllStates step Counts d cs ↔
      AllSteps step (fun d c => stores c.upload d = none ∨ known c.upload d = false) d cs :=
  allStates_iff_allSteps (Q := Counts) (fun _ c h => counts_step_iff h c) hd cs

/-! ### The route as it stands -/

/-- A request to the route.  `verifyMissionOwnership` answers with a promise, of which the route
asks only whether it is there. -/
structure Posted where
  agentId : Id
  caseId : Option Id
  file : Option File
  idempotencyKey : Option String := none
  /-- What the promise comes to. -/
  ownership : Reply Id

def Posted.call (r : Posted) : Call where
  agentId := r.agentId
  upload :=
    { caseId := r.caseId
      file := r.file
      idempotencyKey := r.idempotencyKey
      bolaCheck := some r.ownership }

lemma stores_posted (r : Posted) (d : Db) : stores r.call.upload d = none := by
  rw [Posted.call, stores]
  cases r.caseId with
  | none => rfl
  | some caseId =>
    cases r.file with
    | none => rfl
    | some file =>
      dsimp only
      cases Db.missions.find (isMissionOf caseId) d <;> rfl

/-- **The evidence counter counts evidence**, throughout every sequence of requests, and a retry
changes neither. -/
theorem counts_posted {d : Db} (hd : Counts d) (rs : List Posted) :
    AllStates step Counts d (rs.map Posted.call) ∧
      AllSteps step RetryNeutral d (rs.map Posted.call) := by
  have hnone : ∀ d, ∀ c ∈ rs.map Posted.call, stores c.upload d = none := by
    intro d c hc
    obtain ⟨r, -, rfl⟩ := List.mem_map.mp hc
    exact stores_posted r d
  constructor
  · refine (counts_iff_fresh hd _).mpr (AllSteps.of_forall_mem (fun d c hc => ?_) d)
    exact .inl (hnone d c hc)
  · refine AllSteps.of_forall_mem (fun d c hc => ?_) d
    intro _ i
    obtain ⟨hmission, hitems⟩ := step_of_not_stores (hnone d c hc)
    rw [hmission, evidenceCount, hitems]
    exact ⟨rfl, rfl⟩

/-- A mission with a photo. -/
def photographed : Db where
  mission := Table.empty.insert
    { caseId := 0, agentId := 0, payoutAmount := 5000, netPayout := 4500, evidenceCount := 1 }
  evidenceItem := Table.empty.insert ⟨0, 0, some "photo-1"⟩

/-- The photo is sent again, and then another one. -/
theorem counts_posted_retried :
    AllStates step Counts photographed
        ([⟨0, some 0, some ⟨"image/jpeg", 1024⟩, some "photo-1", .error 500 ""⟩,
          ⟨0, some 0, some ⟨"image/jpeg", 2048⟩, some "photo-2", .error 500 ""⟩].map Posted.call) ∧
      AllSteps step RetryNeutral photographed
        ([⟨0, some 0, some ⟨"image/jpeg", 1024⟩, some "photo-1", .error 500 ""⟩,
          ⟨0, some 0, some ⟨"image/jpeg", 2048⟩, some "photo-2", .error 500 ""⟩].map
            Posted.call) := by
  refine counts_posted (fun i m hm => ?_) _
  rcases Table.get?_insert_cases (t := Table.empty) hm with hm | ⟨rfl, rfl⟩
  · cases hm
  · rfl

end Evidence

end Asoju.FieldForce
