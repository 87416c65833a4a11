/-
A care plan with its visits, as a machine of its own.

An operation on plans and visits changes one plan with its visits at most.  `Care` is what a store
holds of one plan, `Change` what an operation can mean for it, and `careOf_step` says that the
operations do to every plan what the changes do to its `Care`.  What holds of every plan in every
run is then shown for one plan and its changes.
-/
import Asoju.FieldForce.CarePlans
import Asoju.Lib.Run

namespace Asoju.FieldForce

open Lib

namespace CarePlans

/-- What a store holds of a plan: its row, if there is one, and its visits. -/
@[ext] structure Care where
  plan : Option CarePlan
  visits : List CareVisit
deriving DecidableEq, Repr

def careOf (s : Store) (planId : Id) : Care where
  plan := s.carePlan.get? planId
  visits := visitsOf s planId

/-! ## The changes -/

/-- What an operation can mean for a plan.  Visits are named by their places. -/
inductive Change
  | create (input : CreateCarePlanInput) (now : Time)
  | generate (weeks : ℤ) (now : Time)
  | scheduleNext
  | dispatch (k : ℕ) (agentId : Id) (now : Time)
  | complete (k : ℕ) (now : Time)
  | miss (k : ℕ)
  | pause
  | activate
  | cancel
deriving DecidableEq, Repr

section Changes

variable (loc : Locale)

/-- The dates of the visits that the loop generates from `currentDate` on. -/
def upcoming (plan : CarePlan) (cutoff currentDate : Time) (made : ℕ) : List Time :=
  if h : goesOn plan cutoff currentDate made = true then
    currentDate :: upcoming plan cutoff (nextDate loc plan currentDate) (made + 1)
  else []
termination_by (cutoff + 1 - currentDate).toNat
decreasing_by exact toNat_sub_lt (of_decide_eq_true h).1 (lt_nextDate loc plan currentDate)

/-- Visits on the given dates, numbered from `visitNumber + 1` on. -/
def numbered (planId : Id) (plan : CarePlan) : ℤ → List Time → List CareVisit
  | _, [] => []
  | visitNumber, date :: dates =>
      newVisit planId plan date (visitNumber + 1) :: numbered planId plan (visitNumber + 1) dates

/-- The visits that are generated for a plan that has `visits`. -/
def newVisits (planId : Id) (plan : CarePlan) (weeks : ℤ) (now : Time) (visits : List CareVisit) :
    List CareVisit :=
  numbered planId plan (lastNumber visits)
    (upcoming loc plan (effectiveCutoff plan weeks now)
      (nextDate loc plan (fromDate plan visits)) 0)

lemma status_of_mem_numbered {planId : Id} {plan : CarePlan} {n : ℤ} {dates : List Time}
    {v : CareVisit} (h : v ∈ numbered planId plan n dates) : v.status = .scheduled := by
  induction dates generalizing n with
  | nil => exact absurd h List.not_mem_nil
  | cons date dates ih =>
    rcases List.mem_cons.mp h with rfl | hmem
    · rfl
    · exact ih hmem

/-- Visits are generated exactly if the first of them is early enough. -/
lemma newVisits_eq_nil_iff {planId : Id} {plan : CarePlan} {weeks : ℤ} {now : Time}
    {visits : List CareVisit} :
    newVisits loc planId plan weeks now visits = [] ↔
      goesOn plan (effectiveCutoff plan weeks now)
        (nextDate loc plan (fromDate plan visits)) 0 = false := by
  rw [newVisits, upcoming]
  split
  next h =>
    constructor
    · intro hnil
      exact absurd hnil (List.cons_ne_nil _ _)
    · intro hfalse
      rw [h] at hfalse
      cases hfalse
  next h =>
    constructor
    · intro _
      exact eq_false_of_ne_true h
    · intro _
      rfl

namespace Care

def mapPlan (f : CarePlan → CarePlan) (c : Care) : Care := ⟨c.plan.map f, c.visits⟩

def addVisits (visits : List CareVisit) (c : Care) : Care := ⟨c.plan, c.visits ++ visits⟩

def setVisit (k : ℕ) (v : CareVisit) (c : Care) : Care := ⟨c.plan, c.visits.set k v⟩

/-- The visit in the place `k`, if it passes the test `q`, is changed, and the plan with it. -/
def changeVisit (k : ℕ) (q : CareVisit → Bool) (f : CareVisit → CareVisit) (after : Care → Care)
    (c : Care) : Care :=
  match c.visits[k]? with
  | none => c
  | some v => if q v then after (c.setVisit k (f v)) else c

def generate (planId : Id) (weeks : ℤ) (now : Time) (c : Care) : Care :=
  match c.plan with
  | none => c
  | some plan =>
      if newVisits loc planId plan weeks now c.visits = [] then c
      else
        (c.addVisits (newVisits loc planId plan weeks now c.visits)).mapPlan
          (generated (newVisits loc planId plan weeks now c.visits))

def scheduleNext (planId : Id) (c : Care) : Care :=
  match c.plan with
  | none => c
  | some plan =>
      if plan.status ≠ .active then c
      else if reachedLimit plan plan.totalVisits then c
      else
        let date := nextDate loc plan (fromDate plan c.visits)
        if isPastEnd plan date then c.mapPlan expire
        else
          (c.addVisits [newVisit planId plan date (lastNumber c.visits + 1)]).mapPlan (extend date)

/-- The plan after one more completion, and the next visit with it. -/
def afterCompletion (planId : Id) (now : Time) (c : Care) : Care :=
  (c.mapPlan fun plan => countCompleted loc now plan plan).scheduleNext loc planId

def afterMiss (planId : Id) (c : Care) : Care := (c.mapPlan countMissed).scheduleNext loc planId

/-- A plan whose status is one of `src` gets the status `dst`. -/
def setStatus (src : List CarePlanStatus) (dst : CarePlanStatus) (c : Care) : Care :=
  if c.plan.any fun plan => plan.status ∈ src then c.mapPlan fun plan => { plan with status := dst }
  else c

/-- What is cancelled with the plan. -/
def cancelScheduled (v : CareVisit) : CareVisit :=
  if v.status = .scheduled then cancelVisit v else v

def apply (planId : Id) (c : Care) : Change → Care
  | .create input now =>
      let begunCare := generate loc planId 4 now ⟨some (newPlan input), []⟩
      begunCare.mapPlan (begun begunCare.visits)
  | .generate weeks now => c.generate loc planId weeks now
  | .scheduleNext => c.scheduleNext loc planId
  | .dispatch k agentId now =>
      c.changeVisit k (fun v => v.status = .scheduled) (dispatchVisit agentId now) id
  | .complete k now =>
      c.changeVisit k (fun v => v.status ≠ .completed ∧ v.status ≠ .cancelled) (completeVisit now)
        (afterCompletion loc planId now)
  | .miss k =>
      c.changeVisit k (fun v => v.status = .scheduled ∨ v.status = .dispatched) missVisit
        (afterMiss loc planId)
  | .pause => c.setStatus [.active] .paused
  | .activate => c.setStatus [.paused] .active
  | .cancel =>
      if c.plan.any fun plan => plan.status ∈ [.active, .paused] then
        Care.mapPlan (fun plan => { plan with status := .cancelled })
          ⟨c.plan, c.visits.map cancelScheduled⟩
      else c

end Care

end Changes

/-! ## The operations -/

/-- A call of an operation. -/
inductive CareOp
  | createCarePlan (input : CreateCarePlanInput) (now : Time)
  | generateUpcomingVisits (planId : Id) (weeks : ℤ) (now : Time)
  | scheduleNextVisit (planId : Id)
  | dispatchCareVisit (visitId agentId : Id) (now : Time)
  | completeCareVisit (visitId : Id) (now : Time)
  | markVisitMissed (visitId : Id)
  | pauseCarePlan (planId : Id)
  | activateCarePlan (planId : Id)
  | cancelCarePlan (planId : Id)
deriving DecidableEq, Repr

/-- The store after a call, which may fail. -/
def CareOp.step (loc : Locale) (s : Store) : CareOp → Store
  | .createCarePlan input now => (CarePlans.createCarePlan loc input now).exec s
  | .generateUpcomingVisits planId weeks now =>
      (CarePlans.generateUpcomingVisits loc planId weeks now).exec s
  | .scheduleNextVisit planId => (CarePlans.scheduleNextVisit loc planId).exec s
  | .dispatchCareVisit visitId agentId now =>
      (CarePlans.dispatchCareVisit visitId agentId now).exec s
  | .completeCareVisit visitId now => (CarePlans.completeCareVisit loc visitId now).exec s
  | .markVisitMissed visitId => (CarePlans.markVisitMissed loc visitId).exec s
  | .pauseCarePlan planId => (CarePlans.pauseCarePlan planId).exec s
  | .activateCarePlan planId => (CarePlans.activateCarePlan planId).exec s
  | .cancelCarePlan planId => (CarePlans.cancelCarePlan planId).exec s

/-- The place of a visit among those of the plan, if it is one of them. -/
def placeOf (s : Store) (planId visitId : Id) : Option ℕ :=
  if (s.careVisit.get? visitId).any fun v => v.carePlanId = planId then
    some (s.careVisit.place CareVisit.carePlanId planId visitId)
  else none

/-- What a call means for a plan. -/
def CareOp.changeOf (s : Store) (planId : Id) : CareOp → Option Change
  | .createCarePlan input now => if planId = s.carePlan.next then some (.create input now) else none
  | .generateUpcomingVisits i weeks now => if i = planId then some (.generate weeks now) else none
  | .scheduleNextVisit i => if i = planId then some .scheduleNext else none
  | .dispatchCareVisit visitId agentId now =>
      (placeOf s planId visitId).map fun k => .dispatch k agentId now
  | .completeCareVisit visitId now => (placeOf s planId visitId).map fun k => .complete k now
  | .markVisitMissed visitId => (placeOf s planId visitId).map .miss
  | .pauseCarePlan i => if i = planId then some .pause else none
  | .activateCarePlan i => if i = planId then some .activate else none
  | .cancelCarePlan i => if i = planId then some .cancel else none

/-! ## What the writes do to a plan -/

lemma careOf_modifyPlan (i : Id) (f : CarePlan → CarePlan) (s : Store) (planId : Id) :
    careOf (carePlans.modify i f s) planId =
      if i = planId then (careOf s planId).mapPlan f else careOf s planId := by
  by_cases h : i = planId
  · subst h
    rw [if_pos rfl]
    exact Care.ext (Table.get?_modify_self ..) rfl
  · rw [if_neg h]
    exact Care.ext (Table.get?_modify_of_ne _ (Ne.symm h) f) rfl

lemma careOf_insertVisit {v : CareVisit} {planId : Id} (h : v.carePlanId = planId) (s : Store) :
    careOf (careVisits.insert v s) planId = (careOf s planId).addVisits [v] :=
  Care.ext rfl ((Table.group_insert s.careVisit v planId).trans (if_pos h))

lemma careOf_insertVisit_of_ne {v : CareVisit} {planId : Id} (h : v.carePlanId ≠ planId)
    (s : Store) : careOf (careVisits.insert v s) planId = careOf s planId :=
  Care.ext rfl ((Table.group_insert s.careVisit v planId).trans (if_neg h))

lemma careOf_modifyVisit {s : Store} {visitId : Id} {v : CareVisit}
    (h : s.careVisit.get? visitId = some v) {f : CareVisit → CareVisit}
    (hf : ∀ v, (f v).carePlanId = v.carePlanId) (planId : Id) :
    careOf (careVisits.modify visitId f s) planId =
      match placeOf s planId visitId with
      | none => careOf s planId
      | some k => (careOf s planId).setVisit k (f v) := by
  rw [placeOf, h, Option.any_some]
  by_cases hv : v.carePlanId = planId
  · rw [if_pos (decide_eq_true hv)]
    exact Care.ext rfl (Table.group_modify h hv hf)
  · rw [if_neg (by simp [hv])]
    exact Care.ext rfl (Table.group_modify_of_ne h hv hf)

/-- The visit that a place stands for. -/
lemma visits_getElem? {s : Store} {visitId planId : Id} {v : CareVisit} {k : ℕ}
    (h : s.careVisit.get? visitId = some v) (hk : placeOf s planId visitId = some k) :
    (careOf s planId).visits[k]? = some v ∧ v.carePlanId = planId := by
  rw [placeOf, h, Option.any_some] at hk
  by_cases hv : v.carePlanId = planId
  · rw [if_pos (decide_eq_true hv), Option.some.injEq] at hk
    subst hk
    exact ⟨Table.getElem?_place h hv, hv⟩
  · rw [if_neg (by simp [hv])] at hk
    cases hk

lemma placeOf_eq_none {s : Store} {visitId planId : Id} {v : CareVisit}
    (h : s.careVisit.get? visitId = some v) (hk : placeOf s planId visitId = none) :
    v.carePlanId ≠ planId := by
  intro hv
  rw [placeOf, h, Option.any_some, if_pos (decide_eq_true hv)] at hk
  cases hk

/-! ## The operations, for each plan -/

section Operations

variable (loc : Locale) (s : Store) (planId : Id)

/-- What `scheduleNextVisit` does for a plan that it has read. -/
def nextScheduled (plan : CarePlan) (date : Time) : Store :=
  if isPastEnd plan date then carePlans.modify planId expire s
  else carePlans.modify planId (extend date)
    (careVisits.insert (newVisit planId plan date (lastNumber (visitsOf s planId) + 1)) s)

lemma exec_scheduleNextVisit :
    (scheduleNextVisit loc planId).exec s =
      match s.carePlan.get? planId with
      | none => s
      | some plan =>
          if plan.status ≠ .active then s
          else if reachedLimit plan plan.totalVisits then s
          else
            nextScheduled s planId plan
              (nextDate loc plan (fromDate plan (visitsOf s planId))) := by
  rw [Prog.exec, scheduleNextVisit]
  cases hplan : s.carePlan.get? planId with
  | none => simp [Prog.run_bind, carePlans, hplan]
  | some plan =>
    have hget : (carePlans.get s).get? planId = some plan := hplan
    by_cases hactive : plan.status = .active
    · by_cases hreached : reachedLimit plan plan.totalVisits = true
      · simp [Prog.run_bind, hget, hactive, hreached]
      · by_cases hend :
            isPastEnd plan (nextDate loc plan (fromDate plan (visitsOf s planId))) = true
        · simp [Prog.run_bind, hget, hactive, hreached, hend, nextScheduled,
            Client.run_update_of_some hget]
        · have hget' : (carePlans.get (careVisits.insert (newVisit planId plan
              (nextDate loc plan (fromDate plan (visitsOf s planId)))
              (lastNumber (visitsOf s planId) + 1)) s)).get? planId = some plan := hplan
          simp [Prog.run_bind, hget, hactive, hreached, hend, nextScheduled,
            Client.run_update_of_some hget']
    · simp [Prog.run_bind, hget, hactive]

lemma careOf_scheduleNextVisit (i : Id) :
    careOf ((scheduleNextVisit loc i).exec s) planId =
      if i = planId then (careOf s planId).scheduleNext loc planId else careOf s planId := by
  rw [exec_scheduleNextVisit]
  by_cases hi : i = planId
  · subst hi
    rw [if_pos rfl, Care.scheduleNext]
    have hcare : (careOf s i).plan = s.carePlan.get? i := rfl
    have hvisits : (careOf s i).visits = visitsOf s i := rfl
    rw [hcare, hvisits]
    cases hplan : s.carePlan.get? i with
    | none => rfl
    | some plan =>
      dsimp only
      by_cases hactive : plan.status ≠ .active
      · rw [if_pos hactive, if_pos hactive]
      · rw [if_neg hactive, if_neg hactive]
        by_cases hreached : reachedLimit plan plan.totalVisits = true
        · rw [if_pos hreached, if_pos hreached]
        · rw [if_neg hreached, if_neg hreached, nextScheduled]
          split
          · rw [careOf_modifyPlan, if_pos rfl]
          · rw [careOf_modifyPlan, if_pos rfl]
            exact congrArg _ (careOf_insertVisit rfl s)
  · rw [if_neg hi]
    cases hplan : s.carePlan.get? i with
    | none => rfl
    | some plan =>
      dsimp only
      split
      · rfl
      · split
        · rfl
        · rw [nextScheduled]
          split
          · rw [careOf_modifyPlan, if_neg hi]
          · rw [careOf_modifyPlan, if_neg hi, careOf_insertVisit_of_ne hi]

/-- A failure of the next visit is not one of the operation. -/
lemma run_tryScheduleNext (i : Id) :
    (tryScheduleNext loc i).run s = (.ok (), (scheduleNextVisit loc i).exec s) := by
  rw [tryScheduleNext, Prog.run_tryCatch, Prog.run_bind, Prog.exec]
  rcases (scheduleNextVisit loc i).run s with ⟨_ | a, s'⟩ <;> rfl

/-! ### The loop -/

/-- The newest visit has the latest date. -/
lemma le_fromDate {plan : CarePlan} {visits : List CareVisit} {v : CareVisit} (h : v ∈ visits) :
    v.scheduledDate ≤ fromDate plan visits := by
  rw [fromDate, lastVisit]
  cases hlast : (sortDesc CareVisit.scheduledDate visits).head? with
  | none =>
    have hmem := (mem_sortDesc CareVisit.scheduledDate).mpr h
    rw [List.head?_eq_none_iff.mp hlast] at hmem
    exact absurd hmem List.not_mem_nil
  | some w => exact le_of_head?_sortDesc CareVisit.scheduledDate h hlast

/-- The store after visits have been created. -/
def addVisits (visits : List CareVisit) (s : Store) : Store :=
  visits.foldl (fun s v => careVisits.insert v s) s

lemma careOf_addVisits {visits : List CareVisit} (h : ∀ v ∈ visits, v.carePlanId = planId) :
    careOf (addVisits visits s) planId = (careOf s planId).addVisits visits := by
  induction visits generalizing s with
  | nil => exact Care.ext rfl (List.append_nil _).symm
  | cons v visits ih =>
    rw [addVisits, List.foldl_cons, ← addVisits, ih _ fun w hw => h w (List.mem_cons_of_mem _ hw),
      careOf_insertVisit (h v (List.mem_cons_self ..))]
    exact Care.ext rfl (List.append_assoc ..)

lemma careOf_addVisits_of_ne {visits : List CareVisit} (h : ∀ v ∈ visits, v.carePlanId ≠ planId) :
    careOf (addVisits visits s) planId = careOf s planId := by
  induction visits generalizing s with
  | nil => rfl
  | cons v visits ih =>
    rw [addVisits, List.foldl_cons, ← addVisits, ih _ fun w hw => h w (List.mem_cons_of_mem _ hw),
      careOf_insertVisit_of_ne (h v (List.mem_cons_self ..))]

lemma carePlanId_of_mem_numbered {plan : CarePlan} {n : ℤ} {dates : List Time} {v : CareVisit}
    (h : v ∈ numbered planId plan n dates) : v.carePlanId = planId := by
  induction dates generalizing n with
  | nil => exact absurd h List.not_mem_nil
  | cons date dates ih =>
    rcases List.mem_cons.mp h with rfl | hmem
    · rfl
    · exact ih hmem

lemma mem_visitsOf {s : Store} {planId : Id} {v : CareVisit} :
    v ∈ visitsOf s planId ↔ v ∈ s.careVisit.values ∧ v.carePlanId = planId :=
  Table.mem_group

/-- **The loop.**  No visit is found in its way, as all of them are older. -/
lemma run_generateLoop (s : Store) (plan : CarePlan) (cutoff currentDate : Time) (n : ℤ)
    (visits : List CareVisit) (hold : ∀ v ∈ visitsOf s planId, v.scheduledDate < currentDate) :
    (generateLoop loc planId plan cutoff currentDate n visits).run s =
      (.ok (visits ++ numbered planId plan n (upcoming loc plan cutoff currentDate visits.length)),
        addVisits (numbered planId plan n (upcoming loc plan cutoff currentDate visits.length))
          s) := by
  rw [generateLoop, upcoming]
  by_cases h : goesOn plan cutoff currentDate visits.length = true
  · rw [dif_pos h, dif_pos h]
    have hfree : careVisits.find (fun v => v.carePlanId = planId ∧ v.scheduledDate = currentDate)
        s = none := by
      rw [TableOf.find_eq_none_iff]
      intro i v hv
      rw [decide_eq_false_iff_not]
      rintro ⟨hplan, hdate⟩
      have hmem : v ∈ visitsOf s planId :=
        mem_visitsOf.mpr ⟨(Table.mem_values_iff _).mpr ⟨i, hv⟩, hplan⟩
      exact absurd hdate (hold v hmem).ne
    have hlater := lt_nextDate loc plan currentDate
    let visit := newVisit planId plan currentDate (n + 1)
    have hvisits : visitsOf (careVisits.insert visit s) planId = visitsOf s planId ++ [visit] :=
      congrArg Care.visits (careOf_insertVisit rfl s)
    have hnew : ∀ v ∈ visitsOf (careVisits.insert visit s) planId,
        v.scheduledDate < nextDate loc plan currentDate := by
      intro v hv
      rw [hvisits] at hv
      rcases List.mem_append.mp hv with hv | hv
      · exact (hold v hv).trans hlater
      · rw [List.mem_singleton.mp hv]
        exact hlater
    have hrest := run_generateLoop (careVisits.insert visit s) plan cutoff
      (nextDate loc plan currentDate) (n + 1) (visits ++ [visit]) hnew
    rw [List.length_append, List.length_singleton, List.append_assoc] at hrest
    simp only [Prog.run_bind, Client.run_findFirst, hfree, Option.isNone_none, if_true,
      Client.run_create, Prog.run_pure]
    exact hrest
  · rw [dif_neg h, dif_neg h]
    exact Prod.ext (congrArg Except.ok (List.append_nil _).symm) rfl
termination_by (cutoff + 1 - currentDate).toNat
decreasing_by exact toNat_sub_lt (of_decide_eq_true h).1 (lt_nextDate loc plan currentDate)

lemma carePlan_addVisits (visits : List CareVisit) (s : Store) :
    (addVisits visits s).carePlan = s.carePlan := by
  induction visits generalizing s with
  | nil => rfl
  | cons v visits ih => exact ih (careVisits.insert v s)

/-! ### The operations of plans -/

/-- The store after visits have been generated for a plan that is there. -/
def generatedFor (plan : CarePlan) (weeks : ℤ) (now : Time) : Store :=
  if newVisits loc planId plan weeks now (visitsOf s planId) = [] then s
  else carePlans.modify planId
    (generated (newVisits loc planId plan weeks now (visitsOf s planId)))
    (addVisits (newVisits loc planId plan weeks now (visitsOf s planId)) s)

lemma run_generateUpcomingVisits {plan : CarePlan} (h : s.carePlan.get? planId = some plan)
    (weeks : ℤ) (now : Time) :
    (generateUpcomingVisits loc planId weeks now).run s =
      (.ok (newVisits loc planId plan weeks now (visitsOf s planId)),
        generatedFor loc s planId plan weeks now) := by
  have hget : (carePlans.get s).get? planId = some plan := h
  have hloop := run_generateLoop loc planId s plan (effectiveCutoff plan weeks now)
    (nextDate loc plan (fromDate plan (visitsOf s planId))) (lastNumber (visitsOf s planId)) []
    fun v hv => (le_fromDate hv).trans_lt (lt_nextDate loc plan _)
  rw [List.nil_append, List.length_nil, ← newVisits] at hloop
  rw [generateUpcomingVisits, generatedFor]
  simp only [Prog.run_bind, Client.run_findUnique, hget, Client.run_query, hloop]
  by_cases hnew : newVisits loc planId plan weeks now (visitsOf s planId) = []
  · simp only [hnew, ne_eq, not_true_eq_false, if_false, if_true, Prog.run_pure]
    rfl
  · have hget' : (carePlans.get (addVisits (newVisits loc planId plan weeks now
        (visitsOf s planId)) s)).get? planId = some plan := by
      change (addVisits _ s).carePlan.get? planId = some plan
      rw [carePlan_addVisits, h]
    simp only [hnew, ne_eq, not_false_eq_true, if_true, if_false, Prog.run_bind,
      Client.run_update_of_some hget', Prog.run_pure]

lemma careOf_generatedFor {plan : CarePlan} {i : Id} (h : s.carePlan.get? i = some plan)
    (weeks : ℤ) (now : Time) :
    careOf (generatedFor loc s i plan weeks now) planId =
      if i = planId then (careOf s planId).generate loc planId weeks now else careOf s planId := by
  rw [generatedFor]
  by_cases hi : i = planId
  · subst hi
    have hplan : (careOf s i).plan = some plan := h
    have hvisits : (careOf s i).visits = visitsOf s i := rfl
    rw [if_pos rfl, Care.generate, hplan, hvisits]
    dsimp only
    split
    · rfl
    · have hall : ∀ v ∈ newVisits loc i plan weeks now (visitsOf s i), v.carePlanId = i :=
        fun v hv => carePlanId_of_mem_numbered i hv
      rw [careOf_modifyPlan, if_pos rfl, careOf_addVisits s i hall]
  · rw [if_neg hi]
    split
    · rfl
    · have hother : ∀ v ∈ newVisits loc i plan weeks now (visitsOf s i), v.carePlanId ≠ planId := by
        intro v hv
        rw [carePlanId_of_mem_numbered i hv]
        exact hi
      rw [careOf_modifyPlan, if_neg hi, careOf_addVisits_of_ne s planId hother]

lemma careOf_generateUpcomingVisits (i : Id) (weeks : ℤ) (now : Time) :
    careOf ((generateUpcomingVisits loc i weeks now).exec s) planId =
      if i = planId then (careOf s planId).generate loc planId weeks now else careOf s planId := by
  cases h : s.carePlan.get? i with
  | none =>
    have hexec : (generateUpcomingVisits loc i weeks now).exec s = s := by
      rw [Prog.exec, generateUpcomingVisits]
      simp [Prog.run_bind, carePlans, h]
    rw [hexec]
    split
    next hi =>
      subst hi
      have hplan : (careOf s i).plan = none := h
      rw [Care.generate, hplan]
    next => rfl
  | some plan =>
    rw [Prog.exec, run_generateUpcomingVisits loc s i h, careOf_generatedFor loc s planId h]

/-- No visit belongs to a plan that is not there. -/
def Linked (s : Store) : Prop := ∀ planId, s.carePlan.get? planId = none → visitsOf s planId = []

lemma visits_generate (plan : CarePlan) (visits : List CareVisit) (weeks : ℤ) (now : Time) :
    (Care.generate loc planId weeks now ⟨some plan, visits⟩).visits =
      visits ++ newVisits loc planId plan weeks now visits := by
  rw [Care.generate]
  dsimp only
  split
  next h => rw [h, List.append_nil]
  next => rfl

lemma careOf_createCarePlan (hlinked : Linked s) (input : CreateCarePlanInput) (now : Time) :
    careOf ((createCarePlan loc input now).exec s) planId =
      if planId = s.carePlan.next then
        (careOf s planId).apply loc planId (.create input now)
      else careOf s planId := by
  let s₁ := carePlans.insert (newPlan input) s
  have hget : s₁.carePlan.get? s.carePlan.next = some (newPlan input) := Table.get?_insert_self ..
  have hvisits : visitsOf s₁ s.carePlan.next = [] := hlinked _ (Table.get?_next _)
  have hcare : careOf s₁ s.carePlan.next = ⟨some (newPlan input), []⟩ := Care.ext hget hvisits
  let new := newVisits loc s.carePlan.next (newPlan input) 4 now []
  have hrun := run_generateUpcomingVisits loc s₁ s.carePlan.next hget 4 now
  rw [hvisits] at hrun
  have hgenerated := fun planId => careOf_generatedFor loc s₁ planId hget 4 now
  have hplan :
      (generatedFor loc s₁ s.carePlan.next (newPlan input) 4 now).carePlan.get? s.carePlan.next =
        (Care.generate loc s.carePlan.next 4 now ⟨some (newPlan input), []⟩).plan := by
    rw [← hcare]
    exact congrArg Care.plan ((hgenerated _).trans (if_pos rfl))
  have hexec : (createCarePlan loc input now).exec s =
      carePlans.modify s.carePlan.next (begun new)
        (generatedFor loc s₁ s.carePlan.next (newPlan input) 4 now) := by
    obtain ⟨p, hp⟩ : ∃ p, (Care.generate loc s.carePlan.next 4 now
        ⟨some (newPlan input), []⟩).plan = some p := by
      rw [Care.generate]
      dsimp only
      split
      · exact ⟨_, rfl⟩
      · exact ⟨_, rfl⟩
    rw [Prog.exec, createCarePlan, Prog.run_bind_ok (Client.run_create carePlans s (newPlan input))]
    change ((generateUpcomingVisits loc s.carePlan.next 4 now >>= fun visits =>
      Client.updateRow carePlans .recordNotFound s.carePlan.next (begun visits)).run s₁).2 = _
    rw [Prog.run_bind_ok hrun, Client.run_updateRow_of_some (hplan.trans hp)]
  rw [hexec, careOf_modifyPlan, hgenerated]
  by_cases hi : planId = s.carePlan.next
  · subst hi
    rw [if_pos rfl, if_pos rfl, if_pos rfl, hcare, Care.apply, visits_generate, List.nil_append]
  · rw [if_neg (Ne.symm hi), if_neg (Ne.symm hi), if_neg hi]
    exact Care.ext ((Table.get?_insert ..).trans (if_neg hi)) rfl

/-- A call that gives a plan in the status `src` the status `dst`, and otherwise fails. -/
lemma careOf_of_setsStatus {m : Work CarePlan} {i : Id} {src dst : CarePlanStatus}
    (hset : ∀ plan, s.carePlan.get? i = some plan → plan.status = src →
      m.exec s = carePlans.modify i (fun p => { p with status := dst }) s)
    (hkeep : (∀ plan, s.carePlan.get? i = some plan → plan.status ≠ src) → m.exec s = s) :
    careOf (m.exec s) planId =
      if i = planId then (careOf s planId).setStatus [src] dst else careOf s planId := by
  by_cases h : ∃ plan, s.carePlan.get? i = some plan ∧ plan.status = src
  · obtain ⟨plan, hplan, hsrc⟩ := h
    rw [hset plan hplan hsrc, careOf_modifyPlan]
    by_cases hi : i = planId
    · subst hi
      have hcare : (careOf s i).plan = some plan := hplan
      rw [if_pos rfl, if_pos rfl, Care.setStatus, hcare, Option.any_some, if_pos (by simp [hsrc])]
    · rw [if_neg hi, if_neg hi]
  · have hno : ∀ plan, s.carePlan.get? i = some plan → plan.status ≠ src :=
      fun plan hplan hsrc => h ⟨plan, hplan, hsrc⟩
    rw [hkeep hno]
    by_cases hi : i = planId
    · subst hi
      rw [if_pos rfl, Care.setStatus, if_neg]
      intro hany
      obtain ⟨plan, hplan, hsrc⟩ := (Option.any_eq_true ..).mp hany
      exact hno plan hplan (List.mem_singleton.mp (of_decide_eq_true hsrc))
    · rw [if_neg hi]

lemma careOf_activateCarePlan (i : Id) :
    careOf ((activateCarePlan i).exec s) planId =
      if i = planId then (careOf s planId).setStatus [.paused] .active else careOf s planId := by
  refine careOf_of_setsStatus s planId (fun plan h hstatus => ?_) fun hno => ?_
  · have hget : (carePlans.get s).get? i = some plan := h
    rw [Prog.exec, activateCarePlan]
    simp [Prog.run_bind, hget, hstatus, Client.run_updateRow_of_some hget]
  · rw [Prog.exec, activateCarePlan]
    cases h : s.carePlan.get? i with
    | none => simp [Prog.run_bind, carePlans, h]
    | some plan => simp [Prog.run_bind, carePlans, h, hno plan h]

lemma careOf_pauseCarePlan (i : Id) :
    careOf ((pauseCarePlan i).exec s) planId =
      if i = planId then (careOf s planId).setStatus [.active] .paused else careOf s planId := by
  refine careOf_of_setsStatus s planId (fun plan h hstatus => ?_) fun hno => ?_
  · have hget : (carePlans.get s).get? i = some plan := h
    rw [Prog.exec, pauseCarePlan]
    simp [Prog.run_bind, hget, hstatus, Client.run_updateRow_of_some hget]
  · rw [Prog.exec, pauseCarePlan]
    cases h : s.carePlan.get? i with
    | none => simp [Prog.run_bind, carePlans, h]
    | some plan => simp [Prog.run_bind, carePlans, h, hno plan h]

/-- The visits of a plan after those of the plan `i` that nobody has been sent to are cancelled. -/
lemma careOf_cancelVisits (i : Id) :
    careOf (careVisits.modifyWhere (isScheduled i) cancelVisit s) planId =
      if i = planId then ⟨(careOf s planId).plan, (careOf s planId).visits.map Care.cancelScheduled⟩
      else careOf s planId := by
  have hgroup : (s.careVisit.modifyWhere (fun _ v => isScheduled i v) cancelVisit).group
      CareVisit.carePlanId planId =
        (s.careVisit.group CareVisit.carePlanId planId).map fun v =>
          if isScheduled i v then cancelVisit v else v :=
    Table.group_modifyWhere (f := cancelVisit) s.careVisit (isScheduled i) (fun _ => rfl) planId
  have hplans : ∀ v ∈ s.careVisit.group CareVisit.carePlanId planId, v.carePlanId = planId :=
    fun v hv => (Table.mem_group.mp hv).2
  split
  next hi =>
    subst hi
    refine Care.ext rfl (hgroup.trans (List.map_congr_left fun v hv => ?_))
    simp [isScheduled, Care.cancelScheduled, hplans v hv]
  next hi =>
    refine Care.ext rfl (hgroup.trans ?_)
    refine (List.map_congr_left fun v hv => ?_).trans (List.map_id _)
    simp [isScheduled, hplans v hv, Ne.symm hi]

lemma careOf_cancelCarePlan (i : Id) :
    careOf ((cancelCarePlan i).exec s) planId =
      if i = planId then (careOf s planId).apply loc planId .cancel else careOf s planId := by
  have hexec (plan : CarePlan) (h : s.carePlan.get? i = some plan) :
      (cancelCarePlan i).exec s =
        if plan.status ∈ [CarePlanStatus.active, .paused] then
          carePlans.modify i (fun p => { p with status := .cancelled })
            (careVisits.modifyWhere (isScheduled i) cancelVisit s)
        else s := by
    have hget : (carePlans.get s).get? i = some plan := h
    have hget' : (carePlans.get (careVisits.modifyWhere (isScheduled i) cancelVisit s)).get? i =
        some plan := h
    rw [Prog.exec, cancelCarePlan]
    cases hstatus : plan.status with
    | active => simp [Prog.run_bind, hget, hstatus, Client.run_updateRow_of_some hget']
    | paused => simp [Prog.run_bind, hget, hstatus, Client.run_updateRow_of_some hget']
    | cancelled => simp [Prog.run_bind, hget, hstatus]
    | expired => simp [Prog.run_bind, hget, hstatus]
  cases h : s.carePlan.get? i with
  | none =>
    have hnone : (cancelCarePlan i).exec s = s := by
      rw [Prog.exec, cancelCarePlan]
      simp [Prog.run_bind, carePlans, h]
    rw [hnone]
    split
    next hi =>
      subst hi
      have hplan : (careOf s i).plan = none := h
      rw [Care.apply, hplan]
      rfl
    next => rfl
  | some plan =>
    rw [hexec plan h]
    by_cases hi : i = planId
    · subst hi
      have hplan : (careOf s i).plan = some plan := h
      rw [if_pos rfl, Care.apply, hplan, Option.any_some]
      by_cases hstatus : plan.status ∈ [CarePlanStatus.active, .paused]
      · rw [if_pos hstatus, if_pos (decide_eq_true hstatus), careOf_modifyPlan, if_pos rfl,
          careOf_cancelVisits, if_pos rfl, hplan]
      · rw [if_neg hstatus, if_neg (by simpa using hstatus)]
    · rw [if_neg hi]
      split
      · rw [careOf_modifyPlan, if_neg hi, careOf_cancelVisits, if_neg hi]
      · rfl

/-! ### The operations of visits -/

/-- A call that changes a visit which passes the test `q`, and then its plan. -/
lemma careOf_of_changesVisit {α : Type} {m : Work α} {visitId : Id} {q : CareVisit → Bool}
    {f : CareVisit → CareVisit} {after : Care → Care} (hf : ∀ v, (f v).carePlanId = v.carePlanId)
    (hnone : s.careVisit.get? visitId = none → m.exec s = s)
    (hkeep : ∀ v, s.careVisit.get? visitId = some v → q v = false → m.exec s = s)
    (hset : ∀ v, s.careVisit.get? visitId = some v → q v = true →
      careOf (m.exec s) planId =
        if v.carePlanId = planId then after (careOf (careVisits.modify visitId f s) planId)
        else careOf (careVisits.modify visitId f s) planId) :
    careOf (m.exec s) planId =
      match placeOf s planId visitId with
      | none => careOf s planId
      | some k => (careOf s planId).changeVisit k q f after := by
  cases h : s.careVisit.get? visitId with
  | none =>
    have hplace : placeOf s planId visitId = none := by
      rw [placeOf, h]
      rfl
    rw [hnone h, hplace]
  | some v =>
    cases hq : q v with
    | false =>
      rw [hkeep v h hq]
      cases hk : placeOf s planId visitId with
      | none => rfl
      | some k =>
        dsimp only
        rw [Care.changeVisit, (visits_getElem? h hk).1]
        dsimp only
        rw [hq, if_neg Bool.false_ne_true]
    | true =>
      rw [hset v h hq, careOf_modifyVisit h hf]
      cases hk : placeOf s planId visitId with
      | none => exact if_neg (placeOf_eq_none h hk)
      | some k =>
        dsimp only
        rw [if_pos (visits_getElem? h hk).2, Care.changeVisit, (visits_getElem? h hk).1]
        dsimp only
        rw [hq, if_pos rfl]

lemma careOf_dispatchCareVisit (visitId agentId : Id) (now : Time) :
    careOf ((dispatchCareVisit visitId agentId now).exec s) planId =
      match placeOf s planId visitId with
      | none => careOf s planId
      | some k => (careOf s planId).apply loc planId (.dispatch k agentId now) := by
  refine careOf_of_changesVisit s planId (fun _ => rfl) (fun h => ?_) (fun v h hq => ?_)
    fun v h hq => ?_
  · rw [Prog.exec, dispatchCareVisit]
    simp [Prog.run_bind, careVisits, h]
  · have hstatus : v.status ≠ .scheduled := of_decide_eq_false hq
    rw [Prog.exec, dispatchCareVisit]
    simp [Prog.run_bind, careVisits, h, hstatus]
  · have hstatus : v.status = .scheduled := of_decide_eq_true hq
    have hget : (careVisits.get s).get? visitId = some v := h
    have hexec : (dispatchCareVisit visitId agentId now).exec s =
        careVisits.modify visitId (dispatchVisit agentId now) s := by
      rw [Prog.exec, dispatchCareVisit]
      simp [Prog.run_bind, hget, hstatus, Client.run_updateRow_of_some hget]
    rw [hexec]
    exact (ite_self _).symm

/-- The plan of a visit is there. -/
lemma Linked.exists_plan {s : Store} (hlinked : Linked s) {visitId : Id} {v : CareVisit}
    (h : s.careVisit.get? visitId = some v) :
    ∃ plan, s.carePlan.get? v.carePlanId = some plan := by
  by_contra hno
  have hplan : s.carePlan.get? v.carePlanId = none :=
    Option.eq_none_iff_forall_ne_some.mpr fun plan hplan => hno ⟨plan, hplan⟩
  have hmem : v ∈ visitsOf s v.carePlanId :=
    mem_visitsOf.mpr ⟨(Table.mem_values_iff _).mpr ⟨visitId, h⟩, rfl⟩
  rw [hlinked _ hplan] at hmem
  exact List.not_mem_nil hmem

/-- A plan that is not active gets no further visit. -/
lemma scheduleNext_of_not_active {c : Care} {plan : CarePlan} (h : c.plan = some plan)
    (hstatus : plan.status ≠ .active) : c.scheduleNext loc planId = c := by
  rw [Care.scheduleNext, h]
  exact if_pos hstatus

/-- What the scheduling of one more visit can be. -/
lemma scheduleNext_cases (plan : CarePlan) (visits : List CareVisit) :
    (plan.status ≠ .active ∨ reachedLimit plan plan.totalVisits) ∧
        Care.scheduleNext loc planId ⟨some plan, visits⟩ = ⟨some plan, visits⟩ ∨
      plan.status = .active ∧ ¬ reachedLimit plan plan.totalVisits ∧
        (isPastEnd plan (nextDate loc plan (fromDate plan visits)) ∧
            Care.scheduleNext loc planId ⟨some plan, visits⟩ = ⟨some (expire plan), visits⟩ ∨
          ¬ isPastEnd plan (nextDate loc plan (fromDate plan visits)) ∧
            Care.scheduleNext loc planId ⟨some plan, visits⟩ =
              ⟨some (extend (nextDate loc plan (fromDate plan visits)) plan),
                visits ++ [newVisit planId plan (nextDate loc plan (fromDate plan visits))
                  (lastNumber visits + 1)]⟩) := by
  rw [Care.scheduleNext]
  dsimp only
  by_cases hactive : plan.status = .active
  · rw [if_neg (not_not.mpr hactive)]
    by_cases hreached : reachedLimit plan plan.totalVisits = true
    · rw [if_pos hreached]
      exact Or.inl ⟨Or.inr hreached, rfl⟩
    · rw [if_neg hreached]
      refine Or.inr ⟨hactive, hreached, ?_⟩
      by_cases hend : isPastEnd plan (nextDate loc plan (fromDate plan visits)) = true
      · rw [if_pos hend]
        exact Or.inl ⟨hend, rfl⟩
      · rw [if_neg hend]
        exact Or.inr ⟨hend, rfl⟩
  · rw [if_pos hactive]
    exact Or.inl ⟨Or.inl hactive, rfl⟩

lemma careOf_modifyPlan_scheduleNext (i : Id) (g : CarePlan → CarePlan) :
    careOf ((scheduleNextVisit loc i).exec (carePlans.modify i g s)) planId =
      if i = planId then ((careOf s planId).mapPlan g).scheduleNext loc planId
      else careOf s planId := by
  rw [careOf_scheduleNextVisit, careOf_modifyPlan]
  by_cases hi : i = planId
  · rw [if_pos hi, if_pos hi, if_pos hi]
  · rw [if_neg hi, if_neg hi, if_neg hi]

lemma mapPlan_congr {c : Care} {plan : CarePlan} (h : c.plan = some plan)
    {f g : CarePlan → CarePlan} (hfg : f plan = g plan) : c.mapPlan f = c.mapPlan g := by
  rw [Care.mapPlan, Care.mapPlan, h, Option.map_some, Option.map_some, hfg]

lemma visitWithPlan_eq_none {s : Store} {visitId : Id} (h : s.careVisit.get? visitId = none) :
    visitWithPlan visitId s = none := by
  rw [visitWithPlan, h]
  rfl

lemma visitWithPlan_eq_some {s : Store} {visitId : Id} {v : CareVisit} {plan : CarePlan}
    (h : s.careVisit.get? visitId = some v) (hplan : s.carePlan.get? v.carePlanId = some plan) :
    visitWithPlan visitId s = some (v, plan) := by
  rw [visitWithPlan, h]
  change (s.carePlan.get? v.carePlanId).bind _ = _
  rw [hplan]
  rfl

lemma careOf_completeCareVisit (hlinked : Linked s) (visitId : Id) (now : Time) :
    careOf ((completeCareVisit loc visitId now).exec s) planId =
      match placeOf s planId visitId with
      | none => careOf s planId
      | some k => (careOf s planId).apply loc planId (.complete k now) := by
  refine careOf_of_changesVisit s planId (fun _ => rfl) (fun h => ?_) (fun v h hq => ?_)
    fun v h hq => ?_
  · rw [Prog.exec, completeCareVisit]
    simp [Prog.run_bind, visitWithPlan_eq_none h]
  · obtain ⟨plan, hplan⟩ := hlinked.exists_plan h
    have hstatus : v.status = .completed ∨ v.status = .cancelled := by
      have hnot := of_decide_eq_false hq
      rw [not_and_or, not_not, not_not] at hnot
      exact hnot
    rw [Prog.exec, completeCareVisit]
    simp [Prog.run_bind, visitWithPlan_eq_some h hplan, hstatus]
  · obtain ⟨plan, hplan⟩ := hlinked.exists_plan h
    have hstatus : v.status ≠ .completed ∧ v.status ≠ .cancelled := of_decide_eq_true hq
    have hget : (careVisits.get s).get? visitId = some v := h
    obtain ⟨s₁, hs₁⟩ : ∃ s₁, s₁ = careVisits.modify visitId (completeVisit now) s := ⟨_, rfl⟩
    have hplan₁ : s₁.carePlan.get? v.carePlanId = some plan := by rw [hs₁]; exact hplan
    have hget₁ : (carePlans.get s₁).get? v.carePlanId = some plan := hplan₁
    have hexec : (completeCareVisit loc visitId now).exec s =
        if statusAfter loc now plan = .active then
          (scheduleNextVisit loc v.carePlanId).exec
            (carePlans.modify v.carePlanId (countCompleted loc now plan) s₁)
        else carePlans.modify v.carePlanId (countCompleted loc now plan) s₁ := by
      rw [Prog.exec, completeCareVisit]
      simp only [Prog.run_bind, Client.run_query, visitWithPlan_eq_some h hplan, hstatus.1,
        hstatus.2, or_self, if_false, Client.run_updateRow_of_some hget, ← hs₁,
        Client.run_update_of_some hget₁]
      split
      · simp only [Prog.run_bind, run_tryScheduleNext, Prog.run_pure]
      · rfl
    rw [hexec, ← hs₁]
    by_cases hi : v.carePlanId = planId
    · have hcare : (careOf s₁ planId).plan = some plan := by rw [← hi]; exact hplan₁
      have hsame : ((careOf s₁ planId).mapPlan fun plan => countCompleted loc now plan plan) =
          (careOf s₁ planId).mapPlan (countCompleted loc now plan) := mapPlan_congr hcare rfl
      rw [if_pos hi, Care.afterCompletion, hsame]
      split
      · rw [careOf_modifyPlan_scheduleNext, if_pos hi]
      next hactive =>
        rw [careOf_modifyPlan, if_pos hi]
        exact (scheduleNext_of_not_active loc planId (congrArg (Option.map _) hcare) hactive).symm
    · rw [if_neg hi]
      split
      · rw [careOf_modifyPlan_scheduleNext, if_neg hi]
      · rw [careOf_modifyPlan, if_neg hi]

lemma careOf_markVisitMissed (hlinked : Linked s) (visitId : Id) :
    careOf ((markVisitMissed loc visitId).exec s) planId =
      match placeOf s planId visitId with
      | none => careOf s planId
      | some k => (careOf s planId).apply loc planId (.miss k) := by
  refine careOf_of_changesVisit s planId (fun _ => rfl) (fun h => ?_) (fun v h hq => ?_)
    fun v h hq => ?_
  · rw [Prog.exec, markVisitMissed]
    simp [Prog.run_bind, visitWithPlan_eq_none h]
  · obtain ⟨plan, hplan⟩ := hlinked.exists_plan h
    have hstatus : v.status ≠ .scheduled ∧ v.status ≠ .dispatched :=
      not_or.mp (of_decide_eq_false hq)
    rw [Prog.exec, markVisitMissed]
    simp [Prog.run_bind, visitWithPlan_eq_some h hplan, hstatus]
  · obtain ⟨plan, hplan⟩ := hlinked.exists_plan h
    have hstatus : ¬ (v.status ≠ .scheduled ∧ v.status ≠ .dispatched) := by
      rw [not_and_or, not_not, not_not]
      exact of_decide_eq_true hq
    have hget : (careVisits.get s).get? visitId = some v := h
    have hget₁ : (carePlans.get (careVisits.modify visitId missVisit s)).get? v.carePlanId =
        some plan := hplan
    have hexec : (markVisitMissed loc visitId).exec s =
        (scheduleNextVisit loc v.carePlanId).exec
          (carePlans.modify v.carePlanId countMissed (careVisits.modify visitId missVisit s)) := by
      rw [Prog.exec, markVisitMissed]
      simp only [Prog.run_bind, Client.run_query, visitWithPlan_eq_some h hplan, hstatus, if_false,
        Client.run_updateRow_of_some hget, Client.run_update_of_some hget₁, run_tryScheduleNext,
        Prog.run_pure]
    rw [hexec, careOf_modifyPlan_scheduleNext]
    rfl

/-- **The operations are changes.**  A call does to a plan what it means for it. -/
theorem careOf_step (hlinked : Linked s) (o : CareOp) :
    careOf (o.step loc s) planId =
      match o.changeOf s planId with
      | none => careOf s planId
      | some change => (careOf s planId).apply loc planId change := by
  cases o with
  | createCarePlan input now =>
    rw [CareOp.step, careOf_createCarePlan loc s planId hlinked, CareOp.changeOf]
    split <;> rfl
  | generateUpcomingVisits i weeks now =>
    rw [CareOp.step, careOf_generateUpcomingVisits, CareOp.changeOf]
    split <;> rfl
  | scheduleNextVisit i =>
    rw [CareOp.step, careOf_scheduleNextVisit, CareOp.changeOf]
    split <;> rfl
  | dispatchCareVisit visitId agentId now =>
    rw [CareOp.step, careOf_dispatchCareVisit loc, CareOp.changeOf]
    cases placeOf s planId visitId <;> rfl
  | completeCareVisit visitId now =>
    rw [CareOp.step, careOf_completeCareVisit loc s planId hlinked, CareOp.changeOf]
    cases placeOf s planId visitId <;> rfl
  | markVisitMissed visitId =>
    rw [CareOp.step, careOf_markVisitMissed loc s planId hlinked, CareOp.changeOf]
    cases placeOf s planId visitId <;> rfl
  | pauseCarePlan i =>
    rw [CareOp.step, careOf_pauseCarePlan, CareOp.changeOf]
    split <;> rfl
  | activateCarePlan i =>
    rw [CareOp.step, careOf_activateCarePlan, CareOp.changeOf]
    split <;> rfl
  | cancelCarePlan i =>
    rw [CareOp.step, careOf_cancelCarePlan loc, CareOp.changeOf]
    split <;> rfl

end Operations

/-! ## Runs -/

/-- There are no visits without a plan. -/
def Care.Linked (c : Care) : Prop := c.plan = none → c.visits = []

section Runs

variable {loc : Locale}

/-- A change keeps the plan. -/
lemma isSome_plan_apply {planId : Id} {c : Care} (h : c.plan.isSome) (change : Change) :
    (c.apply loc planId change).plan.isSome := by
  have hmap : ∀ (c : Care) (f : CarePlan → CarePlan), c.plan.isSome →
      (c.mapPlan f).plan.isSome := by
    intro c f hc
    rwa [Care.mapPlan, Option.isSome_map]
  have hgenerate : ∀ (c : Care) (weeks : ℤ) (now : Time), c.plan.isSome →
      (c.generate loc planId weeks now).plan.isSome := by
    intro c weeks now hc
    obtain ⟨plan, hplan⟩ := Option.isSome_iff_exists.mp hc
    rw [Care.generate, hplan]
    dsimp only
    split
    · exact hc
    · exact hmap _ _ hc
  have hnext : ∀ c : Care, c.plan.isSome → (c.scheduleNext loc planId).plan.isSome := by
    intro c hc
    obtain ⟨plan, hplan⟩ := Option.isSome_iff_exists.mp hc
    rw [Care.scheduleNext, hplan]
    dsimp only
    split_ifs
    · exact hc
    · exact hc
    · exact hmap _ _ hc
    · exact hmap _ _ hc
  have hvisit : ∀ (k : ℕ) (q : CareVisit → Bool) (f : CareVisit → CareVisit) (after : Care → Care),
      (∀ c : Care, c.plan.isSome → (after c).plan.isSome) →
        (c.changeVisit k q f after).plan.isSome := by
    intro k q f after hafter
    rw [Care.changeVisit]
    split
    · exact h
    · split
      · exact hafter _ h
      · exact h
  have hstatus : ∀ src dst, (c.setStatus src dst).plan.isSome := by
    intro src dst
    rw [Care.setStatus]
    split
    · exact hmap _ _ h
    · exact h
  cases change with
  | create input now => exact hmap _ _ (hgenerate _ _ _ rfl)
  | generate weeks now => exact hgenerate c weeks now h
  | scheduleNext => exact hnext c h
  | dispatch k agentId now => exact hvisit _ _ _ _ fun _ hc => hc
  | complete k now => exact hvisit _ _ _ _ fun c hc => hnext _ (hmap c _ hc)
  | miss k => exact hvisit _ _ _ _ fun c hc => hnext _ (hmap c _ hc)
  | pause => exact hstatus _ _
  | activate => exact hstatus _ _
  | cancel =>
    rw [Care.apply]
    split
    · exact hmap _ _ h
    · exact h

/-- Where there is no plan, nothing but its creation does anything. -/
lemma apply_of_none {planId : Id} {c : Care} (hplan : c.plan = none) (hvisits : c.visits = [])
    (change : Change) :
    c.apply loc planId change = c ∨ (c.apply loc planId change).plan.isSome := by
  have hc : c = ⟨none, []⟩ := Care.ext hplan hvisits
  subst hc
  cases change with
  | create input now =>
    refine Or.inr ?_
    rw [Care.apply, Care.mapPlan, Option.isSome_map, Care.generate]
    dsimp only
    split <;> rfl
  | generate weeks now => exact Or.inl rfl
  | scheduleNext => exact Or.inl rfl
  | dispatch k agentId now => exact Or.inl rfl
  | complete k now => exact Or.inl rfl
  | miss k => exact Or.inl rfl
  | pause => exact Or.inl rfl
  | activate => exact Or.inl rfl
  | cancel => exact Or.inl rfl

lemma Care.Linked.apply {planId : Id} {c : Care} (h : c.Linked) (change : Change) :
    (c.apply loc planId change).Linked := by
  intro hnone
  cases hplan : c.plan with
  | none =>
    rcases apply_of_none hplan (h hplan) change with heq | hsome
    · rw [heq]
      exact h hplan
    · rw [hnone] at hsome
      exact absurd hsome Bool.false_ne_true
  | some plan =>
    have hsome : (c.apply loc planId change).plan.isSome :=
      isSome_plan_apply (by rw [hplan]; rfl) change
    rw [hnone] at hsome
    exact absurd hsome Bool.false_ne_true

lemma Linked.step {s : Store} (h : Linked s) (o : CareOp) : Linked (o.step loc s) := by
  intro planId
  have hcare : (careOf s planId).Linked := h planId
  have hstep : (careOf (o.step loc s) planId).Linked := by
    rw [careOf_step loc s planId h]
    cases o.changeOf s planId with
    | none => exact hcare
    | some change => exact hcare.apply change
  exact hstep

/-- Every plan is as `I` says. -/
def Every (I : Care → Prop) (s : Store) : Prop := ∀ planId, I (careOf s planId)

/-- Every change that a call means for a plan meets `C`. -/
def EveryChange (C : Care → Change → Prop) (s : Store) (o : CareOp) : Prop :=
  ∀ planId change, o.changeOf s planId = some change → C (careOf s planId) change

lemma every_step_iff {s : Store} (hlinked : Linked s) (o : CareOp) {Q : Care → Prop}
    (hQ : Every Q s) :
    Every Q (o.step loc s) ↔
      ∀ planId change, o.changeOf s planId = some change →
        Q ((careOf s planId).apply loc planId change) := by
  constructor
  · intro h planId change hchange
    have hstep := h planId
    rwa [careOf_step loc s planId hlinked, hchange] at hstep
  · intro h planId
    rw [careOf_step loc s planId hlinked]
    cases hchange : o.changeOf s planId with
    | none => exact hQ planId
    | some change => exact h planId change hchange

/-- **The invariant rule for plans.**  What every change preserves holds of every plan in every
run. -/
theorem every_of_changes {I : Care → Prop}
    (hI : ∀ planId c change, I c → I (c.apply loc planId change)) {s : Store} (hlinked : Linked s)
    (hs : Every I s) (os : List CareOp) :
    AllStates (CareOp.step loc) (fun s => Linked s ∧ Every I s) s os := by
  refine invariant (I := fun s => Linked s ∧ Every I s) (fun s o h => ?_) ⟨hlinked, hs⟩ os
  refine ⟨h.1.step o, (every_step_iff h.1 o h.2).mpr fun planId change _ => ?_⟩
  exact hI planId _ change (h.2 planId)

/-- A plan is created where there is none. -/
def Change.Fits (c : Care) : Change → Prop
  | .create .. => c.plan = none
  | _ => True

lemma fits_of_changeOf {s : Store} {planId : Id} {o : CareOp} {change : Change}
    (h : o.changeOf s planId = some change) : change.Fits (careOf s planId) := by
  cases change with
  | create input now =>
    cases o with
    | createCarePlan input' now' =>
      rw [CareOp.changeOf] at h
      split at h
      next heq =>
        rw [heq]
        exact Table.get?_next _
      next => cases h
    | generateUpcomingVisits i weeks now' =>
      rw [CareOp.changeOf] at h
      split at h <;> cases h
    | scheduleNextVisit i =>
      rw [CareOp.changeOf] at h
      split at h <;> cases h
    | dispatchCareVisit visitId agentId now' =>
      obtain ⟨k, -, hk⟩ := Option.map_eq_some_iff.mp h
      cases hk
    | completeCareVisit visitId now' =>
      obtain ⟨k, -, hk⟩ := Option.map_eq_some_iff.mp h
      cases hk
    | markVisitMissed visitId =>
      obtain ⟨k, -, hk⟩ := Option.map_eq_some_iff.mp h
      cases hk
    | pauseCarePlan i =>
      rw [CareOp.changeOf] at h
      split at h <;> cases h
    | activateCarePlan i =>
      rw [CareOp.changeOf] at h
      split at h <;> cases h
    | cancelCarePlan i =>
      rw [CareOp.changeOf] at h
      split at h <;> cases h
  | _ => trivial

/-- **The exact rule for plans.**  A property of every plan in every state, and one of what each
call does to every plan, hold in a run exactly if all the changes meet the condition that is exact
for one change. -/
theorem every_iff_of_changes {I Q : Care → Prop} {R : Care → Care → Prop}
    {C : Care → Change → Prop} (hI : ∀ planId c change, I c → I (c.apply loc planId change))
    (hR : ∀ c, R c c)
    (h : ∀ planId c change, I c → Q c → change.Fits c →
      (Q (c.apply loc planId change) ∧ R c (c.apply loc planId change) ↔ C c change))
    {s : Store} (hlinked : Linked s) (hs : Every I s) (hq : Every Q s) (os : List CareOp) :
    AllStates (CareOp.step loc) (Every Q) s os ∧
        AllSteps (CareOp.step loc)
          (fun s o => ∀ planId, R (careOf s planId) (careOf (o.step loc s) planId)) s os ↔
      AllSteps (CareOp.step loc) (EveryChange C) s os := by
  refine allStates_and_allSteps_iff (I := fun s => Linked s ∧ Every I s) (fun s o hs => ?_)
    (fun s o hs hq => ?_) ⟨hlinked, hs⟩ hq os
  · refine ⟨hs.1.step o, (every_step_iff hs.1 o hs.2).mpr fun planId change _ => ?_⟩
    exact hI planId _ change (hs.2 planId)
  · rw [every_step_iff hs.1 o hq]
    constructor
    · rintro ⟨hQ, hRel⟩ planId change hchange
      refine (h planId _ change (hs.2 planId) (hq planId) (fits_of_changeOf hchange)).mp
        ⟨hQ planId change hchange, ?_⟩
      have hrel := hRel planId
      rwa [careOf_step loc s planId hs.1, hchange] at hrel
    · intro hC
      have hboth := fun planId change hchange =>
        (h planId _ change (hs.2 planId) (hq planId) (fits_of_changeOf hchange)).mpr
          (hC planId change hchange)
      refine ⟨fun planId change hchange => (hboth planId change hchange).1, fun planId => ?_⟩
      rw [careOf_step loc s planId hs.1]
      cases hchange : o.changeOf s planId with
      | none => exact hR _
      | some change => exact (hboth planId change hchange).2

/-! ### What the changes of a call are -/

section Calls

variable {C : Care → Change → Prop} {s : Store} {o : CareOp}

/-- A call about one plan. -/
lemma everyChange_plan_iff (i : Id) (change : Change)
    (h : ∀ planId, o.changeOf s planId = if i = planId then some change else none) :
    EveryChange C s o ↔ C (careOf s i) change := by
  constructor
  · intro hC
    exact hC i change ((h i).trans (if_pos rfl))
  · intro hC planId change' hchange
    rw [h] at hchange
    split at hchange
    next hi =>
      cases hchange
      exact hi ▸ hC
    next => cases hchange

/-- Where a visit stands among those of its plan. -/
def ownPlace (s : Store) (visitId : Id) (v : CareVisit) : ℕ :=
  s.careVisit.place CareVisit.carePlanId v.carePlanId visitId

lemma visits_ownPlace {visitId : Id} {v : CareVisit} (h : s.careVisit.get? visitId = some v) :
    (careOf s v.carePlanId).visits[ownPlace s visitId v]? = some v :=
  Table.getElem?_place h rfl

/-- A call about one visit. -/
lemma everyChange_visit_iff (visitId : Id) (change : ℕ → Change)
    (h : ∀ planId, o.changeOf s planId = (placeOf s planId visitId).map change) :
    EveryChange C s o ↔
      ∀ v, s.careVisit.get? visitId = some v →
        C (careOf s v.carePlanId) (change (ownPlace s visitId v)) := by
  constructor
  · intro hC v hv
    have hplace : placeOf s v.carePlanId visitId = some (ownPlace s visitId v) := by
      rw [placeOf, hv, Option.any_some]
      exact if_pos (decide_eq_true rfl)
    exact hC v.carePlanId _ (by rw [h, hplace]; rfl)
  · intro hC planId change' hchange
    rw [h] at hchange
    obtain ⟨k, hk, rfl⟩ := Option.map_eq_some_iff.mp hchange
    cases hv : s.careVisit.get? visitId with
    | none =>
      rw [placeOf, hv] at hk
      cases hk
    | some v =>
      obtain ⟨-, rfl⟩ := visits_getElem? hv hk
      rw [placeOf, hv, Option.any_some, if_pos (decide_eq_true rfl), Option.some.injEq] at hk
      subst hk
      exact hC v hv

end Calls

end Runs

end CarePlans

end Asoju.FieldForce
