/-
When a care plan expires, and which visit of it is said to be the next.

A plan has visits to come for weeks ahead, while its end and its next visit are decided from the
newest visit or from the time of a completion.  So a plan can expire with visits to come, and a
visit other than the earliest can be said to be the next.  `expiry_iff` says for every operation
when neither happens.
-/
import Asoju.FieldForce.CareSchedules

namespace Asoju.FieldForce

open Lib

namespace CarePlans

/-! ## Visits to come -/

/-- Somebody is to be sent, or on the way. -/
def outstanding (v : CareVisit) : Bool := v.status = .scheduled ∨ v.status = .dispatched

/-- The dates of the visits to come. -/
def due (visits : List CareVisit) : List Time :=
  (visits.filter outstanding).map CareVisit.scheduledDate

/-- A plan that has expired has no visit to come on or before its end, which is every date if it
has none.  While it is active, its next visit is the earliest of those to come. -/
structure Timely (plan : CarePlan) (visits : List CareVisit) : Prop where
  done : plan.status = .expired → ∀ v ∈ visits, outstanding v → isPastEnd plan v.scheduledDate
  next : plan.status = .active → ∀ v ∈ visits, outstanding v →
    (∀ w ∈ visits, outstanding w → v.scheduledDate ≤ w.scheduledDate) →
      plan.nextVisitDate = some v.scheduledDate

def Care.Timely (c : Care) : Prop := ∀ plan, c.plan = some plan → CarePlans.Timely plan c.visits

/-- The same of a schedule, whose dates increase and are not past the end. -/
def OnTime (status : CarePlanStatus) (nextVisitDate : Option Time) (due : List Time) : Prop :=
  (status = .expired → due = []) ∧ (status = .active → due = [] ∨ nextVisitDate = due.head?)

lemma due_eq_nil_iff {visits : List CareVisit} :
    due visits = [] ↔ ∀ v ∈ visits, ¬ outstanding v = true := by
  rw [due, List.map_eq_nil_iff, List.filter_eq_nil_iff]

lemma mem_due {visits : List CareVisit} {v : CareVisit} (hv : v ∈ visits) (h : outstanding v) :
    v.scheduledDate ∈ due visits :=
  List.mem_map.mpr ⟨v, List.mem_filter.mpr ⟨hv, h⟩, rfl⟩

lemma exists_of_mem_due {visits : List CareVisit} {date : Time} (h : date ∈ due visits) :
    ∃ v ∈ visits, outstanding v ∧ v.scheduledDate = date := by
  obtain ⟨v, hv, rfl⟩ := List.mem_map.mp h
  obtain ⟨hmem, hout⟩ := List.mem_filter.mp hv
  exact ⟨v, hmem, hout, rfl⟩

lemma due_append (visits new : List CareVisit) : due (visits ++ new) = due visits ++ due new := by
  rw [due, List.filter_append, List.map_append]
  rfl

/-- Visits as they are generated are all to come. -/
lemma due_of_scheduled {visits : List CareVisit} (h : ∀ v ∈ visits, v.status = .scheduled) :
    due visits = visits.map CareVisit.scheduledDate := by
  have hall : visits.filter outstanding = visits := by
    refine List.filter_eq_self.mpr fun v hv => decide_eq_true (Or.inl (h v hv))
  rw [due, hall]

/-- The earliest date to come is the first. -/
lemma le_of_head?_due {visits : List CareVisit}
    (h : visits.Pairwise fun v w => v.scheduledDate < w.scheduledDate) {first date : Time}
    (hfirst : (due visits).head? = some first) (hdate : date ∈ due visits) : first ≤ date := by
  have hsorted : (due visits).Pairwise (· < ·) := List.pairwise_map.mpr (h.filter _)
  cases hdue : due visits with
  | nil =>
    rw [hdue] at hdate
    exact absurd hdate List.not_mem_nil
  | cons d ds =>
    rw [hdue] at hfirst hdate hsorted
    obtain rfl : d = first := Option.some.inj hfirst
    rcases List.mem_cons.mp hdate with rfl | hmem
    · exact le_rfl
    · exact (List.rel_of_pairwise_cons hsorted hmem).le

/-- What it means for a schedule. -/
lemma timely_iff {plan : CarePlan} {visits : List CareVisit}
    (h : Planned plan.terms (slots visits)) :
    Timely plan visits ↔ OnTime plan.status plan.nextVisitDate (due visits) := by
  have hsorted := pairwise_slots.mp h.1.increasing
  have hend : ∀ v ∈ visits, ¬ isPastEnd plan v.scheduledDate = true := by
    intro v hv
    have hbefore := h.1.before _ (List.mem_map.mpr ⟨v, hv, rfl⟩)
    rw [isPastEnd, Option.any_eq_true]
    rintro ⟨e, he, hlt⟩
    exact not_le_of_gt (of_decide_eq_true hlt) (hbefore e he)
  constructor
  · rintro ⟨hdone, hnext⟩
    refine ⟨fun hexpired => due_eq_nil_iff.mpr fun v hv hout => ?_, fun hactive => ?_⟩
    · exact hend v hv (hdone hexpired v hv hout)
    · cases hdue : (due visits).head? with
      | none => exact Or.inl (List.head?_eq_none_iff.mp hdue)
      | some first =>
        refine Or.inr ?_
        obtain ⟨v, hv, hout, rfl⟩ := exists_of_mem_due (List.mem_of_mem_head? hdue)
        exact hnext hactive v hv hout fun w hw hout' =>
          le_of_head?_due hsorted hdue (mem_due hw hout')
  · rintro ⟨hdone, hnext⟩
    refine ⟨fun hexpired v hv hout => ?_, fun hactive v hv hout hleast => ?_⟩
    · exact absurd hout (due_eq_nil_iff.mp (hdone hexpired) v hv)
    · have hmem := mem_due hv hout
      rcases hnext hactive with hnil | hhead
      · rw [hnil] at hmem
        exact absurd hmem List.not_mem_nil
      · cases hdue : (due visits).head? with
        | none =>
          rw [List.head?_eq_none_iff.mp hdue] at hmem
          exact absurd hmem List.not_mem_nil
        | some first =>
          obtain ⟨w, hw, hout', rfl⟩ := exists_of_mem_due (List.mem_of_mem_head? hdue)
          have hle := le_of_head?_due hsorted hdue hmem
          rw [hhead, hdue, le_antisymm hle (hleast w hw hout')]

/-! ## The changes -/

/-- Dates that are later than those to come. -/
lemma onTime_append_iff {status : CarePlanStatus} {dates more : List Time} {date : Time}
    (h : ∀ d ∈ dates, d < date) :
    OnTime status (some date) (dates ++ date :: more) ↔
      status ≠ .expired ∧ (status = .active → dates = []) := by
  have hne : dates ++ date :: more ≠ [] := List.append_ne_nil_of_right_ne_nil _ (by simp)
  refine and_congr (forall_congr' fun _ => iff_of_false hne id) (forall_congr' fun _ => ?_)
  rw [or_iff_right hne]
  constructor
  · intro hhead
    cases dates with
    | nil => rfl
    | cons d ds =>
      have hlt := h d (List.mem_cons_self ..)
      rw [List.cons_append, List.head?_cons, Option.some.injEq] at hhead
      exact absurd hhead hlt.ne'
  · rintro rfl
    rfl

def Care.OnTime (c : Care) : Prop :=
  ∀ plan, c.plan = some plan → CarePlans.OnTime plan.status plan.nextVisitDate (due c.visits)

lemma onTime_iff_of_some {plan : CarePlan} {visits : List CareVisit} :
    (⟨some plan, visits⟩ : Care).OnTime ↔
      OnTime plan.status plan.nextVisitDate (due visits) := by
  constructor
  · intro h
    exact h plan rfl
  · intro h plan' hplan'
    obtain rfl : plan = plan' := Option.some.inj hplan'
    exact h

lemma Care.Scheduled.timely_iff {c : Care} (h : c.Scheduled) : c.Timely ↔ c.OnTime :=
  forall₂_congr fun plan hplan => CarePlans.timely_iff (h plan hplan)

section Changes

variable {loc : Locale} {planId : Id}

/-- The dates to come are not after the newest. -/
lemma lt_of_mem_due {plan : CarePlan} {visits : List CareVisit} {date : Time}
    (h : date ∈ due visits) : date < nextDate loc plan (fromDate plan visits) := by
  obtain ⟨v, hv, -, rfl⟩ := exists_of_mem_due h
  exact (le_fromDate hv).trans_lt (lt_nextDate loc plan _)

/-- One more visit, or the end of the plan. -/
lemma onTime_scheduleNext_iff (plan : CarePlan) (visits : List CareVisit) :
    (Care.scheduleNext loc planId ⟨some plan, visits⟩).OnTime ↔
      if plan.status = .active ∧ ¬ reachedLimit plan plan.totalVisits then due visits = []
      else OnTime plan.status plan.nextVisitDate (due visits) := by
  rcases scheduleNext_cases loc planId plan visits with
    ⟨hsame, heq⟩ | ⟨hactive, hreached, ⟨-, heq⟩ | ⟨-, heq⟩⟩
  · have hnot : ¬ (plan.status = .active ∧ ¬ reachedLimit plan plan.totalVisits = true) := by
      rintro ⟨hactive, hreached⟩
      exact hsame.elim (fun h => h hactive) hreached
    rw [heq, onTime_iff_of_some, if_neg hnot]
  · rw [heq, onTime_iff_of_some, if_pos ⟨hactive, hreached⟩]
    refine ⟨fun h => h.1 rfl, fun h => ⟨fun _ => h, fun hstatus => ?_⟩⟩
    cases hstatus
  · rw [heq, onTime_iff_of_some, if_pos ⟨hactive, hreached⟩, due_append]
    refine (onTime_append_iff fun d hd => lt_of_mem_due hd).trans ?_
    refine ⟨fun h => h.2 hactive, fun h => ⟨fun hstatus => ?_, fun _ => h⟩⟩
    exact absurd (hactive.symm.trans hstatus) (by decide)

/-- The condition under which a change is in time. -/
def Change.InTime (loc : Locale) (c : Care) : Change → Prop
  | .generate weeks now =>
      ∀ plan, c.plan = some plan →
        goesOn plan (effectiveCutoff plan weeks now)
            (nextDate loc plan (fromDate plan c.visits)) 0 = true →
          plan.status ≠ .expired ∧ (plan.status = .active → due c.visits = [])
  | .scheduleNext =>
      ∀ plan, c.plan = some plan → plan.status = .active →
        ¬ reachedLimit plan plan.totalVisits → due c.visits = []
  | .complete k now =>
      ∀ v, c.visits[k]? = some v → v.status ≠ .completed → v.status ≠ .cancelled →
        ∀ plan, c.plan = some plan →
          if reachedLimit plan (plan.completedVisits + 1) ∨ isPastEnd plan (nextDate loc plan now)
          then due (c.visits.eraseIdx k) = []
          else plan.status = .active → due (c.visits.eraseIdx k) = [] ∨
            reachedLimit plan plan.totalVisits ∧
              some (nextDate loc plan now) = (due (c.visits.eraseIdx k)).head?
  | .miss k =>
      ∀ v, c.visits[k]? = some v → v.status = .scheduled ∨ v.status = .dispatched →
        ∀ plan, c.plan = some plan → plan.status = .active → due (c.visits.eraseIdx k) = [] ∨
          reachedLimit plan plan.totalVisits ∧
            plan.nextVisitDate = (due (c.visits.eraseIdx k)).head?
  | .activate =>
      ∀ plan, c.plan = some plan → plan.status = .paused →
        due c.visits = [] ∨ plan.nextVisitDate = (due c.visits).head?
  | _ => True

section Visits

variable {plan : CarePlan} {visits : List CareVisit} {k : ℕ} {v : CareVisit}

lemma due_set_of_not {w : CareVisit} (h : outstanding w = false) :
    due (visits.set k w) = due (visits.eraseIdx k) := by
  rw [due, filter_set_of_not h, due]

/-- A change of a visit to come that leaves it one. -/
lemma due_set {w : CareVisit} (hk : visits[k]? = some v) (hv : outstanding v = true)
    (hw : outstanding w = true) (hdate : w.scheduledDate = v.scheduledDate) :
    due (visits.set k w) = due visits := by
  obtain ⟨pre, post, hvisits, hset⟩ := exists_split_set hk
  rw [hset, hvisits, due, due, List.filter_append, List.filter_append,
    List.filter_cons_of_pos hv, List.filter_cons_of_pos hw, List.map_append, List.map_append,
    List.map_cons, List.map_cons, hdate]

/-- Without visits to come there are none but for one. -/
lemma due_eraseIdx_eq_nil (h : due visits = []) : due (visits.eraseIdx k) = [] := by
  rw [due_eq_nil_iff] at h ⊢
  intro w hw
  exact h w (List.mem_of_mem_eraseIdx hw)

/-- One more visit for a plan that has none to come if it has expired. -/
lemma onTime_scheduleNext_iff_of_expired (hq : plan.status = .expired → due visits = []) :
    (Care.scheduleNext loc planId ⟨some plan, visits⟩).OnTime ↔
      (plan.status = .active → due visits = [] ∨
        reachedLimit plan plan.totalVisits ∧ plan.nextVisitDate = (due visits).head?) := by
  rw [onTime_scheduleNext_iff]
  by_cases hactive : plan.status = .active
  · rw [forall_prop_of_true hactive]
    by_cases hreached : reachedLimit plan plan.totalVisits = true
    · rw [if_neg (not_and_not_right.mpr fun _ => hreached), and_iff_right hreached]
      exact ⟨fun h => h.2 hactive, fun h => ⟨hq, fun _ => h⟩⟩
    · rw [if_pos ⟨hactive, hreached⟩]
      exact ⟨Or.inl, fun h => h.elim id fun hboth => absurd hboth.1 hreached⟩
  · rw [if_neg (not_and.mpr fun h => absurd h hactive)]
    exact iff_of_true ⟨hq, fun h => absurd h hactive⟩ fun h => absurd h hactive

lemma onTime_complete_iff (hq : (⟨some plan, visits⟩ : Care).OnTime) (now : Time) :
    (Care.afterCompletion loc planId now
        ⟨some plan, visits.set k (completeVisit now v)⟩).OnTime ↔
      if reachedLimit plan (plan.completedVisits + 1) ∨ isPastEnd plan (nextDate loc plan now)
      then due (visits.eraseIdx k) = []
      else plan.status = .active → due (visits.eraseIdx k) = [] ∨
        reachedLimit plan plan.totalVisits ∧
          some (nextDate loc plan now) = (due (visits.eraseIdx k)).head? := by
  obtain ⟨p, hp⟩ : ∃ p, p = countCompleted loc now plan plan := ⟨_, rfl⟩
  have hcare : Care.afterCompletion loc planId now
      ⟨some plan, visits.set k (completeVisit now v)⟩ =
        Care.scheduleNext loc planId ⟨some p, visits.set k (completeVisit now v)⟩ := by
    rw [hp]
    rfl
  have hdue : due (visits.set k (completeVisit now v)) = due (visits.eraseIdx k) :=
    due_set_of_not rfl
  have hstatus : p.status = statusAfter loc now plan := by rw [hp]; rfl
  rw [hcare]
  split
  next hended =>
    -- The plan expires, and no more visit is scheduled.
    have hexpired : p.status = .expired := by
      rw [hstatus, statusAfter]
      rcases hended with hreached | hend
      · exact if_pos hreached
      · rw [if_pos hend]
        exact ite_self _
    rw [onTime_scheduleNext_iff, hexpired, if_neg (fun h => CarePlanStatus.noConfusion h.1), hdue]
    refine ⟨fun h => h.1 rfl, fun h => ⟨fun _ => h, fun hactive => ?_⟩⟩
    cases hactive
  next hended =>
    have hkept : p.status = plan.status := by
      rw [hstatus, statusAfter, if_neg (not_or.mp hended).1, if_neg (not_or.mp hended).2]
    have hexpired : p.status = .expired → due (visits.set k (completeVisit now v)) = [] := by
      intro h
      rw [hdue]
      exact due_eraseIdx_eq_nil ((onTime_iff_of_some.mp hq).1 (hkept.symm.trans h))
    rw [onTime_scheduleNext_iff_of_expired hexpired, hkept, hdue]
    refine forall_congr' fun hactive => ?_
    have hnext : p.nextVisitDate = some (nextDate loc plan now) := by
      have hafter : statusAfter loc now plan = .active := by rw [← hstatus, hkept, hactive]
      rw [hp]
      exact if_pos hafter
    have htotal : reachedLimit p p.totalVisits = reachedLimit plan plan.totalVisits := by
      rw [hp]
      rfl
    rw [hnext, htotal]

lemma onTime_miss_iff (hq : (⟨some plan, visits⟩ : Care).OnTime) :
    (Care.afterMiss loc planId ⟨some plan, visits.set k (missVisit v)⟩).OnTime ↔
      (plan.status = .active → due (visits.eraseIdx k) = [] ∨
        reachedLimit plan plan.totalVisits ∧
          plan.nextVisitDate = (due (visits.eraseIdx k)).head?) := by
  have hdue : due (visits.set k (missVisit v)) = due (visits.eraseIdx k) := due_set_of_not rfl
  have hexpired : (countMissed plan).status = .expired →
      due (visits.set k (missVisit v)) = [] := by
    intro h
    rw [hdue]
    exact due_eraseIdx_eq_nil ((onTime_iff_of_some.mp hq).1 h)
  have hiff : (Care.scheduleNext loc planId
      ⟨some (countMissed plan), visits.set k (missVisit v)⟩).OnTime ↔ _ :=
    onTime_scheduleNext_iff_of_expired hexpired
  rw [hdue] at hiff
  exact hiff

end Visits

/-! ### The exact condition of a change -/

lemma onTime_generate_iff {plan : CarePlan} {visits : List CareVisit}
    (hq : (⟨some plan, visits⟩ : Care).OnTime) (weeks : ℤ) (now : Time) :
    (Care.generate loc planId weeks now ⟨some plan, visits⟩).OnTime ↔
      (goesOn plan (effectiveCutoff plan weeks now)
          (nextDate loc plan (fromDate plan visits)) 0 = true →
        plan.status ≠ .expired ∧ (plan.status = .active → due visits = [])) := by
  rw [Care.generate]
  dsimp only
  by_cases hgo : goesOn plan (effectiveCutoff plan weeks now)
      (nextDate loc plan (fromDate plan visits)) 0 = true
  · -- The first of the new visits is the next one from now on.
    obtain ⟨more, hmore⟩ : ∃ more, newVisits loc planId plan weeks now visits =
        newVisit planId plan (nextDate loc plan (fromDate plan visits)) (lastNumber visits + 1) ::
          more := by
      rw [newVisits, upcoming, dif_pos hgo]
      exact ⟨_, rfl⟩
    have hscheduled : ∀ v ∈ newVisits loc planId plan weeks now visits, v.status = .scheduled :=
      fun v hv => status_of_mem_numbered hv
    have hdue := due_of_scheduled hscheduled
    rw [if_neg (by rw [hmore]; exact List.cons_ne_nil _ _), forall_prop_of_true hgo]
    have hafter : due (visits ++ newVisits loc planId plan weeks now visits) =
        due visits ++ nextDate loc plan (fromDate plan visits) ::
          more.map CareVisit.scheduledDate := by
      rw [due_append, hdue, hmore]
      rfl
    have hnext : (generated (newVisits loc planId plan weeks now visits) plan).nextVisitDate =
        some (nextDate loc plan (fromDate plan visits)) := by
      rw [hmore]
      rfl
    have hvisits : (Care.addVisits (newVisits loc planId plan weeks now visits)
        ⟨some plan, visits⟩).visits = visits ++ newVisits loc planId plan weeks now visits := rfl
    refine onTime_iff_of_some.trans ?_
    rw [hnext, hvisits, hafter]
    exact onTime_append_iff fun d hd => lt_of_mem_due hd
  · rw [if_pos ((newVisits_eq_nil_iff loc).mpr (eq_false_of_ne_true hgo))]
    exact iff_of_true hq fun h => absurd h hgo

/-- A plan as it is created. -/
lemma onTime_create {c : Care} (input : CreateCarePlanInput) (now : Time) :
    (c.apply loc planId (.create input now)).OnTime := by
  obtain ⟨b, hb⟩ : ∃ b, b = Care.generate loc planId 4 now ⟨some (newPlan input), []⟩ := ⟨_, rfl⟩
  have hbegun : (∀ v ∈ b.visits, v.status = .scheduled) ∧
      ∀ p, b.plan = some p → p.status = .active := by
    rw [hb, Care.generate]
    dsimp only
    split
    · refine ⟨fun v hv => absurd hv List.not_mem_nil, fun p hp => ?_⟩
      rw [← Option.some.inj hp]
      rfl
    · refine ⟨fun v hv => status_of_mem_numbered hv, fun p hp => ?_⟩
      rw [← Option.some.inj hp]
      rfl
  have happly : c.apply loc planId (.create input now) = b.mapPlan (begun b.visits) := by
    rw [hb]
    rfl
  rw [happly]
  intro plan hplan
  obtain ⟨p, hp, rfl⟩ := Option.map_eq_some_iff.mp hplan
  refine ⟨fun hexpired => ?_, fun _ => Or.inr ?_⟩
  · exact absurd ((hbegun.2 p hp).symm.trans hexpired) (by decide)
  · have hdue : due b.visits = b.visits.map CareVisit.scheduledDate := due_of_scheduled hbegun.1
    exact (List.head?_map ..).symm.trans (congrArg List.head? hdue.symm)

/-- **The exact condition of a change.** -/
lemma onTime_apply_iff {c : Care} (hlinked : c.Linked) (hq : c.OnTime) {change : Change}
    (hfits : change.Fits c) :
    (c.apply loc planId change).OnTime ↔ change.InTime loc c := by
  rcases c with ⟨_ | plan, visits⟩
  · -- Without a plan there are no visits, and nothing but a plan can be created.
    have hvisits : visits = [] := hlinked rfl
    subst hvisits
    cases change with
    | create input now => exact iff_of_true (onTime_create input now) trivial
    | generate weeks now => exact iff_of_true hq fun p hp => by cases hp
    | scheduleNext => exact iff_of_true hq fun p hp => by cases hp
    | complete k now => exact iff_of_true hq fun v hv => by cases hv
    | miss k => exact iff_of_true hq fun v hv => by cases hv
    | activate => exact iff_of_true hq fun p hp => by cases hp
    | _ => exact iff_of_true hq trivial
  · rw [Change.InTime.eq_def]
    simp only [Option.some.injEq, forall_eq']
    cases change with
    | create input now => cases hfits
    | generate weeks now => exact onTime_generate_iff hq weeks now
    | scheduleNext =>
      refine (onTime_scheduleNext_iff plan visits).trans ?_
      split
      next h => exact ⟨fun hdue _ _ => hdue, fun hdue => hdue h.1 h.2⟩
      next h =>
        refine iff_of_true (onTime_iff_of_some.mp hq) fun hactive hreached => ?_
        exact absurd ⟨hactive, hreached⟩ h
    | dispatch k agentId now =>
      refine iff_of_true ?_ trivial
      rw [Care.apply, Care.changeVisit]
      dsimp only
      split
      · exact hq
      next v hk =>
        split
        next hstatus =>
          have hdue : due (visits.set k (dispatchVisit agentId now v)) = due visits :=
            due_set hk (decide_eq_true (Or.inl (of_decide_eq_true hstatus)))
              (decide_eq_true (Or.inr rfl)) rfl
          intro p hp
          obtain rfl : plan = p := Option.some.inj hp
          exact hdue.symm ▸ hq plan rfl
        next => exact hq
    | complete k now =>
      rw [Care.apply, Care.changeVisit]
      dsimp only
      cases hk : visits[k]? with
      | none => exact iff_of_true hq fun v hv => by cases hv
      | some v =>
        dsimp only
        simp only [Option.some.injEq, forall_eq']
        split
        next hstatus =>
          have hopen := of_decide_eq_true hstatus
          rw [forall_prop_of_true hopen.1, forall_prop_of_true hopen.2]
          exact onTime_complete_iff hq now
        next hstatus =>
          refine iff_of_true hq fun hcompleted hcancelled => ?_
          exact absurd (decide_eq_true ⟨hcompleted, hcancelled⟩) hstatus
    | miss k =>
      rw [Care.apply, Care.changeVisit]
      dsimp only
      cases hk : visits[k]? with
      | none => exact iff_of_true hq fun v hv => by cases hv
      | some v =>
        simp only [Option.some.injEq, forall_eq']
        split
        next hstatus =>
          rw [forall_prop_of_true (of_decide_eq_true hstatus)]
          exact onTime_miss_iff hq
        next hstatus => exact iff_of_true hq fun h => absurd (decide_eq_true h) hstatus
    | pause =>
      refine iff_of_true ?_ trivial
      rw [Care.apply, Care.setStatus]
      split
      · refine onTime_iff_of_some.mpr ⟨fun h => ?_, fun h => ?_⟩
        · cases h
        · cases h
      · exact hq
    | activate =>
      rw [Care.apply, Care.setStatus, Option.any_some]
      split
      next hstatus =>
        have hpaused : plan.status = .paused := List.mem_singleton.mp (of_decide_eq_true hstatus)
        rw [forall_prop_of_true hpaused]
        refine onTime_iff_of_some.trans ⟨fun h => h.2 rfl, fun h => ?_⟩
        refine ⟨fun hexpired => ?_, fun _ => h⟩
        cases hexpired
      next hstatus =>
        refine iff_of_true hq fun hpaused => ?_
        exact absurd (decide_eq_true (List.mem_singleton.mpr hpaused)) hstatus
    | cancel =>
      refine iff_of_true ?_ trivial
      rw [Care.apply]
      split
      · refine onTime_iff_of_some.mpr ⟨fun h => ?_, fun h => ?_⟩
        · cases h
        · cases h
      · exact hq

end Changes

/-! ## Runs -/

/-- The dates of the visits to come of a visit's plan, but for the visit itself. -/
def othersDue (s : Store) (visitId : Id) (v : CareVisit) : List Time :=
  due (s.careVisit.groupOthers CareVisit.carePlanId v.carePlanId visitId)

/-- The condition under which a call is in time.  New visits, and the end of a plan, find none to
come.  When a visit is completed or missed, none else is to come, or no more are scheduled and the
next visit is the earliest of the others.  A plan that is resumed has its earliest visit as the
next. -/
def InTime (loc : Locale) (s : Store) : CareOp → Prop
  | .generateUpcomingVisits planId weeks now =>
      ∀ plan, s.carePlan.get? planId = some plan →
        goesOn plan (effectiveCutoff plan weeks now)
            (nextDate loc plan (fromDate plan (visitsOf s planId))) 0 = true →
          plan.status ≠ .expired ∧ (plan.status = .active → due (visitsOf s planId) = [])
  | .scheduleNextVisit planId =>
      ∀ plan, s.carePlan.get? planId = some plan → plan.status = .active →
        ¬ reachedLimit plan plan.totalVisits → due (visitsOf s planId) = []
  | .completeCareVisit visitId now =>
      ∀ v, s.careVisit.get? visitId = some v → v.status ≠ .completed → v.status ≠ .cancelled →
        ∀ plan, s.carePlan.get? v.carePlanId = some plan →
          if reachedLimit plan (plan.completedVisits + 1) ∨ isPastEnd plan (nextDate loc plan now)
          then othersDue s visitId v = []
          else plan.status = .active → othersDue s visitId v = [] ∨
            reachedLimit plan plan.totalVisits ∧
              some (nextDate loc plan now) = (othersDue s visitId v).head?
  | .markVisitMissed visitId =>
      ∀ v, s.careVisit.get? visitId = some v → v.status = .scheduled ∨ v.status = .dispatched →
        ∀ plan, s.carePlan.get? v.carePlanId = some plan → plan.status = .active →
          othersDue s visitId v = [] ∨
            reachedLimit plan plan.totalVisits ∧
              plan.nextVisitDate = (othersDue s visitId v).head?
  | .activateCarePlan planId =>
      ∀ plan, s.carePlan.get? planId = some plan → plan.status = .paused →
        due (visitsOf s planId) = [] ∨ plan.nextVisitDate = (due (visitsOf s planId)).head?
  | _ => True

lemma due_eraseIdx_ownPlace (s : Store) (visitId : Id) (v : CareVisit) :
    due ((careOf s v.carePlanId).visits.eraseIdx (ownPlace s visitId v)) =
      othersDue s visitId v :=
  congrArg due (Table.eraseIdx_place s.careVisit v.carePlanId visitId)

lemma everyChange_inTime_iff (loc : Locale) (s : Store) (o : CareOp) :
    EveryChange (fun c change => change.InTime loc c) s o ↔ InTime loc s o := by
  cases o with
  | createCarePlan input now =>
    exact everyChange_plan_iff _ (.create input now) fun _ => if_congr eq_comm rfl rfl
  | generateUpcomingVisits i weeks now =>
    exact everyChange_plan_iff i (.generate weeks now) fun _ => rfl
  | scheduleNextVisit i => exact everyChange_plan_iff i .scheduleNext fun _ => rfl
  | dispatchCareVisit visitId agentId now =>
    refine (everyChange_visit_iff visitId (.dispatch · agentId now) fun _ => rfl).trans ?_
    exact iff_of_true (fun _ _ => trivial) trivial
  | completeCareVisit visitId now =>
    refine (everyChange_visit_iff visitId (.complete · now) fun _ => rfl).trans ?_
    refine forall₂_congr fun v hv => ?_
    rw [Change.InTime, visits_ownPlace hv]
    simp only [Option.some.injEq, forall_eq', due_eraseIdx_ownPlace]
    rfl
  | markVisitMissed visitId =>
    refine (everyChange_visit_iff visitId .miss fun _ => rfl).trans ?_
    refine forall₂_congr fun v hv => ?_
    rw [Change.InTime, visits_ownPlace hv]
    simp only [Option.some.injEq, forall_eq', due_eraseIdx_ownPlace]
    rfl
  | pauseCarePlan i => exact everyChange_plan_iff i .pause fun _ => rfl
  | activateCarePlan i => exact everyChange_plan_iff i .activate fun _ => rfl
  | cancelCarePlan i => exact everyChange_plan_iff i .cancel fun _ => rfl

/-- **Expiry and next visits.**  In every state of a run no plan that has expired has visits to come
and the next visit of every active plan is the earliest of them, exactly if all calls are in
time. -/
theorem expiry_iff (loc : Locale) (os : List CareOp) :
    AllStates (CareOp.step loc) (Every Care.Timely) {} os ↔
      AllSteps (CareOp.step loc) (InTime loc) {} os := by
  have hscheduled : Every (fun c => c.Linked ∧ c.Scheduled) {} := by
    refine fun planId => ⟨fun _ => rfl, fun plan hplan => ?_⟩
    cases hplan
  have htimely : Every Care.Timely {} := by
    intro planId plan hplan
    cases hplan
  have hexact := every_iff_of_changes (I := fun c => c.Linked ∧ c.Scheduled) (Q := Care.Timely)
    (R := fun _ _ => True) (C := fun c change => change.InTime loc c)
    (fun _ _ change h => ⟨h.1.apply change, h.2.apply change⟩) (fun _ => trivial)
    (fun _ _ change h hq hfits => (and_iff_left trivial).trans
      ((h.2.apply change).timely_iff.trans
        (onTime_apply_iff h.1 (h.2.timely_iff.mp hq) hfits)))
    (fun _ _ => rfl) hscheduled htimely os
  have hsteps : AllSteps (CareOp.step loc) (fun s o => ∀ planId : Id, True) {} os :=
    AllSteps.of_forall_mem (fun _ _ _ _ => trivial) _
  refine ((and_iff_left hsteps).symm.trans hexact).trans ?_
  exact allSteps_congr_of_invariant (I := fun _ => True) (fun _ _ _ => trivial)
    (fun s o _ => everyChange_inTime_iff loc s o) trivial os

/-- The first weekly visit of a plan is completed after a week, the day it was to take place. -/
def firstCompleted (endDate : Option Time) : List CareOp :=
  [.createCarePlan
    { customerId := 0, frequency := .weekly, startDate := 0, endDate := endDate
      costPerVisit := 100 } 0,
    .completeCareVisit 0 (7 * msPerDay)]

/-- A plan with an end after four weeks expires then, with three visits to come.  One without an end
has a visit after two weeks, while the next is said to be after five. -/
theorem not_timely :
    ¬ AllStates (CareOp.step ⟨3600000, id⟩) (Every Care.Timely) {}
        (firstCompleted (some (28 * msPerDay))) ∧
      ¬ AllStates (CareOp.step ⟨3600000, id⟩) (Every Care.Timely) {} (firstCompleted none) := by
  constructor
  · rintro ⟨-, -, h⟩
    obtain ⟨c, hc⟩ : ∃ c, c = careOf (runFrom (CareOp.step ⟨3600000, id⟩) {}
        (firstCompleted (some (28 * msPerDay)))) 0 := ⟨_, rfl⟩
    have hlast : c.plan.map (fun p => (p.status, p.endDate)) =
        some (.expired, some (28 * msPerDay)) ∧
          c.visits.any fun v => outstanding v ∧ v.scheduledDate = 14 * msPerDay := by
      rw [hc]
      decide +kernel
    have htimely : c.Timely := by
      rw [hc]
      exact h 0
    obtain ⟨plan, hplan, heq⟩ := Option.map_eq_some_iff.mp hlast.1
    obtain ⟨hstatus, hend⟩ := Prod.mk.inj heq
    obtain ⟨v, hv, hboth⟩ := List.any_eq_true.mp hlast.2
    obtain ⟨hout, hdate⟩ := of_decide_eq_true hboth
    have hpast := (htimely plan hplan).done hstatus v hv hout
    rw [isPastEnd, hend, hdate] at hpast
    exact absurd hpast (by decide)
  · rintro ⟨-, -, h⟩
    obtain ⟨c, hc⟩ : ∃ c, c = careOf (runFrom (CareOp.step ⟨3600000, id⟩) {}
        (firstCompleted none)) 0 := ⟨_, rfl⟩
    have hlast : c.plan.map (fun p => (p.status, p.nextVisitDate)) =
        some (.active, some (35 * msPerDay)) ∧
          (c.visits.any fun v => outstanding v ∧ v.scheduledDate = 14 * msPerDay) ∧
            c.visits.all fun v => outstanding v → 14 * msPerDay ≤ v.scheduledDate := by
      rw [hc]
      decide +kernel
    have htimely : c.Timely := by
      rw [hc]
      exact h 0
    obtain ⟨plan, hplan, heq⟩ := Option.map_eq_some_iff.mp hlast.1
    obtain ⟨hstatus, hnext⟩ := Prod.mk.inj heq
    obtain ⟨v, hv, hboth⟩ := List.any_eq_true.mp hlast.2.1
    obtain ⟨hout, hdate⟩ := of_decide_eq_true hboth
    have hleast : ∀ w ∈ c.visits, outstanding w → v.scheduledDate ≤ w.scheduledDate := by
      intro w hw
      rw [hdate]
      exact of_decide_eq_true (List.all_eq_true.mp hlast.2.2 w hw)
    have hearliest := (htimely plan hplan).next hstatus v hv hout hleast
    rw [hnext, hdate] at hearliest
    exact absurd hearliest (by decide)

end CarePlans

end Asoju.FieldForce
