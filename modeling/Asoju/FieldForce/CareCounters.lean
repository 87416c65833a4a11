/-
The counters of a care plan, and what is final about a plan that has been cancelled.

The counters follow the visits as long as no visit that has been missed is completed afterwards: the
completion counts it, and it stays counted as missed.  A cancelled plan has no scheduled visit as
long as no visits are generated for it, and stays cancelled as long as the completion of a visit
does not make it expire.  `counters_iff` says that these are all the conditions.
-/
import Asoju.FieldForce.CareSteps

namespace Asoju.FieldForce

open Lib

namespace CarePlans

/-! ## Counters -/

/-- How many visits have the status. -/
def countOf (status : CareVisitStatus) (visits : List CareVisit) : ℕ :=
  visits.countP fun v => v.status = status

/-- The plan counts its visits, and what has been billed is for those that were completed. -/
structure Tallied (plan : CarePlan) (visits : List CareVisit) : Prop where
  completed : plan.completedVisits = countOf .completed visits
  missed : plan.missedVisits = countOf .missed visits
  billed : plan.totalBilled = plan.completedVisits * plan.costPerVisit

/-- Nobody is to be sent for a plan that is cancelled. -/
def Closed (plan : CarePlan) (visits : List CareVisit) : Prop :=
  plan.status = .cancelled → ∀ v ∈ visits, v.status ≠ .scheduled

def Care.Counted (c : Care) : Prop :=
  ∀ plan, c.plan = some plan → Tallied plan c.visits ∧ Closed plan c.visits

/-- A plan that is cancelled still is afterwards. -/
def Care.StaysCancelled (c c' : Care) : Prop :=
  ∀ plan, c.plan = some plan → plan.status = .cancelled →
    ∃ plan', c'.plan = some plan' ∧ plan'.status = .cancelled

lemma counted_iff_of_some {plan : CarePlan} {visits : List CareVisit} :
    (⟨some plan, visits⟩ : Care).Counted ↔ Tallied plan visits ∧ Closed plan visits := by
  constructor
  · intro h
    exact h plan rfl
  · intro h plan' hplan'
    obtain rfl : plan = plan' := Option.some.inj hplan'
    exact h

lemma staysCancelled_iff_of_some {plan plan' : CarePlan} {visits visits' : List CareVisit} :
    Care.StaysCancelled ⟨some plan, visits⟩ ⟨some plan', visits'⟩ ↔
      (plan.status = .cancelled → plan'.status = .cancelled) := by
  constructor
  · intro h hstatus
    obtain ⟨q, hq, hcancelled⟩ := h plan rfl hstatus
    rw [Option.some.inj hq]
    exact hcancelled
  · intro h p hp hstatus
    obtain rfl : plan = p := Option.some.inj hp
    exact ⟨plan', rfl, h hstatus⟩

lemma Care.StaysCancelled.refl (c : Care) : c.StaysCancelled c :=
  fun plan hplan hstatus => ⟨plan, hplan, hstatus⟩

/-- Counters depend on what they count only. -/
lemma Tallied.congr {plan plan' : CarePlan} {visits visits' : List CareVisit}
    (h : Tallied plan visits) (hcompleted : plan'.completedVisits = plan.completedVisits)
    (hmissed : plan'.missedVisits = plan.missedVisits)
    (hbilled : plan'.totalBilled = plan.totalBilled)
    (hcost : plan'.costPerVisit = plan.costPerVisit)
    (hcompleted' : countOf .completed visits' = countOf .completed visits)
    (hmissed' : countOf .missed visits' = countOf .missed visits) : Tallied plan' visits' where
  completed := by rw [hcompleted, hcompleted', h.completed]
  missed := by rw [hmissed, hmissed', h.missed]
  billed := by rw [hbilled, hcompleted, hcost, h.billed]

/-- Visits of another status are not counted. -/
lemma countOf_append {status other : CareVisitStatus} (h : other ≠ status)
    (visits : List CareVisit) {new : List CareVisit} (hnew : ∀ v ∈ new, v.status = other) :
    countOf status (visits ++ new) = countOf status visits := by
  have hzero : new.countP (fun v => v.status = status) = 0 := by
    refine List.countP_eq_zero.mpr fun v hv => ?_
    rw [hnew v hv, decide_eq_true_eq]
    exact h
  rw [countOf, countOf, List.countP_append, hzero, add_zero]

/-- More visits to come are not counted. -/
lemma Tallied.append {plan plan' : CarePlan} {visits new : List CareVisit}
    (h : Tallied plan visits) (hnew : ∀ v ∈ new, v.status = .scheduled)
    (hcompleted : plan'.completedVisits = plan.completedVisits)
    (hmissed : plan'.missedVisits = plan.missedVisits)
    (hbilled : plan'.totalBilled = plan.totalBilled)
    (hcost : plan'.costPerVisit = plan.costPerVisit) : Tallied plan' (visits ++ new) :=
  h.congr hcompleted hmissed hbilled hcost (countOf_append (by decide) visits hnew)
    (countOf_append (by decide) visits hnew)

/-! ## Visits to come -/

section Changes

variable {loc : Locale} {planId : Id}

/-- One more visit, or the end of the plan, concern no counter. -/
lemma counted_scheduleNext_iff {plan : CarePlan} {visits : List CareVisit} :
    (Care.scheduleNext loc planId ⟨some plan, visits⟩).Counted ↔
      (⟨some plan, visits⟩ : Care).Counted := by
  rcases scheduleNext_cases loc planId plan visits with
    ⟨-, heq⟩ | ⟨hactive, -, ⟨-, heq⟩ | ⟨-, heq⟩⟩
  · rw [heq]
  all_goals
    rw [heq, counted_iff_of_some, counted_iff_of_some]
    have hold : Closed plan visits := by
      intro hcancelled
      rw [hactive] at hcancelled
      cases hcancelled
  · constructor
    · rintro ⟨h, -⟩
      exact ⟨h.congr rfl rfl rfl rfl rfl rfl, hold⟩
    · rintro ⟨h, -⟩
      refine ⟨h.congr rfl rfl rfl rfl rfl rfl, fun hcancelled => ?_⟩
      cases hcancelled
  · constructor
    · rintro ⟨h, -⟩
      have hnew : ∀ v ∈ [newVisit planId plan (nextDate loc plan (fromDate plan visits))
          (lastNumber visits + 1)], v.status = .scheduled := by
        intro v hv
        rw [List.mem_singleton.mp hv]
        rfl
      refine ⟨h.congr rfl rfl rfl rfl ?_ ?_, hold⟩
      · exact (countOf_append (by decide) visits hnew).symm
      · exact (countOf_append (by decide) visits hnew).symm
    · rintro ⟨h, -⟩
      refine ⟨h.append (fun v hv => ?_) rfl rfl rfl rfl, fun hcancelled => ?_⟩
      · rw [List.mem_singleton.mp hv]
        rfl
      · exact absurd (hactive.symm.trans hcancelled) (by decide)

/-- The scheduling of one more visit cancels nothing and revives nothing. -/
lemma exists_scheduleNext (loc : Locale) (planId : Id) (plan : CarePlan)
    (visits : List CareVisit) :
    ∃ plan' visits', Care.scheduleNext loc planId ⟨some plan, visits⟩ = ⟨some plan', visits'⟩ ∧
      (plan'.status = .cancelled ↔ plan.status = .cancelled) := by
  rcases scheduleNext_cases loc planId plan visits with
    ⟨-, heq⟩ | ⟨hactive, -, ⟨-, heq⟩ | ⟨-, heq⟩⟩
  · exact ⟨plan, visits, heq, Iff.rfl⟩
  · refine ⟨expire plan, visits, heq, ?_⟩
    rw [hactive]
    exact ⟨fun h => CarePlanStatus.noConfusion h, fun h => CarePlanStatus.noConfusion h⟩
  · exact ⟨_, _, heq, Iff.rfl⟩

lemma staysCancelled_scheduleNext_iff {c : Care} {plan : CarePlan} {visits : List CareVisit} :
    c.StaysCancelled (Care.scheduleNext loc planId ⟨some plan, visits⟩) ↔
      c.StaysCancelled ⟨some plan, visits⟩ := by
  obtain ⟨plan', visits', heq, hstatus⟩ := exists_scheduleNext loc planId plan visits
  rw [heq]
  constructor
  · intro h p hp hcancelled
    obtain ⟨q, hq, hq'⟩ := h p hp hcancelled
    obtain rfl : plan' = q := Option.some.inj hq
    exact ⟨plan, rfl, hstatus.mp hq'⟩
  · intro h p hp hcancelled
    obtain ⟨q, hq, hq'⟩ := h p hp hcancelled
    obtain rfl : plan = q := Option.some.inj hq
    exact ⟨plan', rfl, hstatus.mpr hq'⟩

/-! ## The changes -/

/-- The condition under which a change keeps the counters and what is final. -/
def Change.KeepsCounters (loc : Locale) (c : Care) : Change → Prop
  | .generate weeks now =>
      ∀ plan, c.plan = some plan → plan.status = .cancelled →
        goesOn plan (effectiveCutoff plan weeks now)
          (nextDate loc plan (fromDate plan c.visits)) 0 = false
  | .complete k now =>
      ∀ v, c.visits[k]? = some v → v.status ≠ .completed → v.status ≠ .cancelled →
        v.status ≠ .missed ∧
          ∀ plan, c.plan = some plan → plan.status = .cancelled →
            ¬ reachedLimit plan (plan.completedVisits + 1) ∧
              ¬ isPastEnd plan (nextDate loc plan now)
  | _ => True

/-- A visit that is neither completed nor missed before or after. -/
lemma countOf_set {visits : List CareVisit} {k : ℕ} {v w : CareVisit} (h : visits[k]? = some v)
    (status : CareVisitStatus) :
    countOf status (visits.set k w) + (if v.status = status then 1 else 0) =
      countOf status visits + if w.status = status then 1 else 0 := by
  have hset := countP_set_add h (fun v => decide (v.status = status)) w
  simp only [decide_eq_true_eq] at hset
  exact hset

/-- A visit that nobody is to be sent for is changed. -/
lemma Closed.set {plan : CarePlan} {visits : List CareVisit} (h : Closed plan visits) {k : ℕ}
    {w : CareVisit} (hw : w.status ≠ .scheduled) : Closed plan (visits.set k w) := by
  intro hcancelled v hv
  rcases List.mem_or_eq_of_mem_set hv with hv | rfl
  · exact h hcancelled v hv
  · exact hw

section Visits

variable {plan : CarePlan} {visits : List CareVisit} {k : ℕ} {v : CareVisit}

lemma counted_dispatch (h : (⟨some plan, visits⟩ : Care).Counted) (hk : visits[k]? = some v)
    (hstatus : v.status = .scheduled) (agentId : Id) (now : Time) :
    (⟨some plan, visits.set k (dispatchVisit agentId now v)⟩ : Care).Counted := by
  rw [counted_iff_of_some] at h ⊢
  have hcompleted := countOf_set (w := dispatchVisit agentId now v) hk .completed
  have hmissed := countOf_set (w := dispatchVisit agentId now v) hk .missed
  rw [hstatus] at hcompleted hmissed
  refine ⟨h.1.congr rfl rfl rfl rfl hcompleted hmissed, h.2.set fun hs => ?_⟩
  cases hs

lemma counted_miss (h : (⟨some plan, visits⟩ : Care).Counted) (hk : visits[k]? = some v)
    (hstatus : v.status = .scheduled ∨ v.status = .dispatched) :
    (⟨some (countMissed plan), visits.set k (missVisit v)⟩ : Care).Counted := by
  rw [counted_iff_of_some] at h ⊢
  have hcompleted := countOf_set (w := missVisit v) hk .completed
  have hmissed := countOf_set (w := missVisit v) hk .missed
  have hne : v.status ≠ .completed ∧ v.status ≠ .missed := by
    rcases hstatus with hs | hs
    · rw [hs]
      decide
    · rw [hs]
      decide
  rw [if_neg hne.1] at hcompleted
  rw [if_neg hne.2] at hmissed
  have hmissed' : countOf .missed (visits.set k (missVisit v)) = countOf .missed visits + 1 :=
    hmissed
  refine ⟨⟨?_, ?_, h.1.billed⟩, h.2.set fun hs => ?_⟩
  · exact h.1.completed.trans (congrArg _ hcompleted.symm)
  · rw [hmissed', Nat.cast_add, Nat.cast_one, ← h.1.missed]
    rfl
  · cases hs

/-- A completion keeps the counters exactly if the visit was not counted as missed. -/
lemma counted_complete_iff (h : (⟨some plan, visits⟩ : Care).Counted) (hk : visits[k]? = some v)
    (hstatus : v.status ≠ .completed) (loc : Locale) (now : Time) :
    (⟨some (countCompleted loc now plan plan), visits.set k (completeVisit now v)⟩ : Care).Counted ↔
      v.status ≠ .missed := by
  rw [counted_iff_of_some] at h ⊢
  have hcompleted := countOf_set (w := completeVisit now v) hk .completed
  have hmissed := countOf_set (w := completeVisit now v) hk .missed
  rw [if_neg hstatus] at hcompleted
  have hcompleted' : countOf .completed (visits.set k (completeVisit now v)) =
      countOf .completed visits + 1 := hcompleted
  have hmissed' : countOf .missed (visits.set k (completeVisit now v)) +
      (if v.status = .missed then 1 else 0) = countOf .missed visits := hmissed
  constructor
  · rintro ⟨hnew, -⟩ hmiss
    rw [if_pos hmiss] at hmissed'
    have hold : plan.missedVisits = countOf .missed visits := h.1.missed
    have hafter : plan.missedVisits = countOf .missed (visits.set k (completeVisit now v)) :=
      hnew.missed
    omega
  · intro hmiss
    rw [if_neg hmiss, add_zero] at hmissed'
    refine ⟨⟨?_, ?_, rfl⟩, fun hcancelled => ?_⟩
    · rw [hcompleted', Nat.cast_add, Nat.cast_one, ← h.1.completed]
      rfl
    · exact h.1.missed.trans (congrArg _ hmissed'.symm)
    · have hold : plan.status = .cancelled := by
        have hafter : statusAfter loc now plan = .cancelled := hcancelled
        rw [statusAfter] at hafter
        split at hafter
        · cases hafter
        · split at hafter
          · cases hafter
          · exact hafter
      exact h.2.set (by intro hs; cases hs) hold

end Visits

/-- A completion leaves a cancelled plan cancelled exactly if it does not end it. -/
lemma statusAfter_eq_cancelled_iff {plan : CarePlan} (h : plan.status = .cancelled) (loc : Locale)
    (now : Time) :
    statusAfter loc now plan = .cancelled ↔
      ¬ reachedLimit plan (plan.completedVisits + 1) ∧
        ¬ isPastEnd plan (nextDate loc plan now) := by
  rw [statusAfter]
  by_cases hreached : reachedLimit plan (plan.completedVisits + 1) = true
  · rw [if_pos hreached]
    exact ⟨fun hs => CarePlanStatus.noConfusion hs, fun hs => absurd hreached hs.1⟩
  · rw [if_neg hreached]
    by_cases hend : isPastEnd plan (nextDate loc plan now) = true
    · rw [if_pos hend]
      exact ⟨fun hs => CarePlanStatus.noConfusion hs, fun hs => absurd hend hs.2⟩
    · rw [if_neg hend]
      exact ⟨fun _ => ⟨hreached, hend⟩, fun _ => h⟩

/-! ### The exact condition of a change -/

variable {c : Care}

lemma exact_generate {plan : CarePlan} {visits : List CareVisit}
    (hq : (⟨some plan, visits⟩ : Care).Counted) (weeks : ℤ) (now : Time) :
    (Care.generate loc planId weeks now ⟨some plan, visits⟩).Counted ∧
        Care.StaysCancelled ⟨some plan, visits⟩
          (Care.generate loc planId weeks now ⟨some plan, visits⟩) ↔
      Change.KeepsCounters loc ⟨some plan, visits⟩ (.generate weeks now) := by
  have hscheduled : ∀ v ∈ newVisits loc planId plan weeks now visits, v.status = .scheduled :=
    fun v hv => status_of_mem_numbered hv
  rw [Care.generate]
  dsimp only
  by_cases hnew : newVisits loc planId plan weeks now visits = []
  · rw [if_pos hnew]
    refine ⟨fun _ p hp _ => ?_, fun _ => ⟨hq, .refl _⟩⟩
    obtain rfl : plan = p := Option.some.inj hp
    exact (newVisits_eq_nil_iff loc).mp hnew
  · rw [if_neg hnew]
    have hkept : Care.StaysCancelled ⟨some plan, visits⟩
        ⟨some (generated (newVisits loc planId plan weeks now visits) plan),
          visits ++ newVisits loc planId plan weeks now visits⟩ :=
      staysCancelled_iff_of_some.mpr id
    have htallied := (counted_iff_of_some.mp hq).1
    constructor
    · rintro ⟨hcounted, -⟩ p hp hcancelled
      obtain rfl : plan = p := Option.some.inj hp
      -- The first of the new visits would be scheduled for a plan that is cancelled.
      obtain ⟨v, hv⟩ := List.exists_mem_of_ne_nil _ hnew
      have hclosed := (counted_iff_of_some.mp hcounted).2 hcancelled v (List.mem_append_right _ hv)
      exact absurd (hscheduled v hv) hclosed
    · intro h
      refine ⟨counted_iff_of_some.mpr ⟨?_, fun hcancelled => ?_⟩, hkept⟩
      · exact htallied.append hscheduled rfl rfl rfl rfl
      · exact absurd ((newVisits_eq_nil_iff loc).mpr (h plan rfl hcancelled)) hnew

lemma exact_complete {plan : CarePlan} {visits : List CareVisit}
    (hq : (⟨some plan, visits⟩ : Care).Counted) (k : ℕ) (now : Time) :
    (Care.apply loc planId ⟨some plan, visits⟩ (.complete k now)).Counted ∧
        Care.StaysCancelled ⟨some plan, visits⟩
          (Care.apply loc planId ⟨some plan, visits⟩ (.complete k now)) ↔
      Change.KeepsCounters loc ⟨some plan, visits⟩ (.complete k now) := by
  rw [Care.apply, Care.changeVisit, Change.KeepsCounters]
  dsimp only
  cases hk : visits[k]? with
  | none =>
    refine ⟨fun _ v hv => ?_, fun _ => ⟨hq, .refl _⟩⟩
    cases hv
  | some v =>
    dsimp only
    by_cases hstatus : v.status ≠ .completed ∧ v.status ≠ .cancelled
    · rw [if_pos (decide_eq_true hstatus), Care.afterCompletion]
      have hcounted := counted_complete_iff hq hk hstatus.1 loc now
      have hkept : Care.StaysCancelled ⟨some plan, visits⟩
          ⟨some (countCompleted loc now plan plan), visits.set k (completeVisit now v)⟩ ↔
            (plan.status = .cancelled → ¬ reachedLimit plan (plan.completedVisits + 1) ∧
              ¬ isPastEnd plan (nextDate loc plan now)) :=
        staysCancelled_iff_of_some.trans
          (forall_congr' fun hcancelled => statusAfter_eq_cancelled_iff hcancelled loc now)
      refine ((and_congr counted_scheduleNext_iff staysCancelled_scheduleNext_iff).trans
        (and_congr hcounted hkept)).trans ⟨fun h w hw _ _ => ?_, fun h => ?_⟩
      · obtain rfl : v = w := Option.some.inj hw
        refine ⟨h.1, fun p hp => ?_⟩
        obtain rfl : plan = p := Option.some.inj hp
        exact h.2
      · obtain ⟨hmissed, hplan⟩ := h v rfl hstatus.1 hstatus.2
        exact ⟨hmissed, hplan plan rfl⟩
    · rw [if_neg (by rw [decide_eq_true_eq]; exact hstatus)]
      refine ⟨fun _ w hw hcompleted hcancelled => ?_, fun _ => ⟨hq, .refl _⟩⟩
      obtain rfl : v = w := Option.some.inj hw
      exact absurd ⟨hcompleted, hcancelled⟩ hstatus

/-- A status that is neither taken from cancelled plans nor cancels one. -/
lemma counted_setStatus {plan : CarePlan} {visits : List CareVisit}
    (hq : (⟨some plan, visits⟩ : Care).Counted) {src : List CarePlanStatus} {dst : CarePlanStatus}
    (hsrc : .cancelled ∉ src) (hdst : dst ≠ .cancelled) :
    (Care.setStatus src dst ⟨some plan, visits⟩).Counted ∧
      Care.StaysCancelled ⟨some plan, visits⟩ (Care.setStatus src dst ⟨some plan, visits⟩) := by
  rw [Care.setStatus, Option.any_some]
  split
  next h =>
    have hmem : plan.status ∈ src := of_decide_eq_true h
    constructor
    · refine counted_iff_of_some.mpr ⟨?_, fun hcancelled => absurd hcancelled hdst⟩
      exact (counted_iff_of_some.mp hq).1.congr rfl rfl rfl rfl rfl rfl
    · refine staysCancelled_iff_of_some.mpr fun hcancelled => ?_
      rw [hcancelled] at hmem
      exact absurd hmem hsrc
  next => exact ⟨hq, .refl _⟩

/-- Nothing is scheduled any more after a cancellation. -/
lemma counted_cancel {plan : CarePlan} {visits : List CareVisit} (h : Tallied plan visits) :
    (⟨some { plan with status := .cancelled },
      visits.map Care.cancelScheduled⟩ : Care).Counted := by
  have hcount : ∀ status, status ≠ .scheduled → status ≠ .cancelled →
      countOf status (visits.map Care.cancelScheduled) = countOf status visits := by
    intro status hscheduled hcancelled
    rw [countOf, countOf, List.countP_map]
    refine List.countP_congr fun v _ => ?_
    rw [Function.comp_apply, decide_eq_true_eq, decide_eq_true_eq, Care.cancelScheduled]
    split
    next hs =>
      rw [hs]
      exact iff_of_false hcancelled.symm hscheduled.symm
    next => rfl
  refine counted_iff_of_some.mpr ⟨?_, fun _ v hv => ?_⟩
  · exact h.congr rfl rfl rfl rfl (hcount _ (by decide) (by decide))
      (hcount _ (by decide) (by decide))
  · obtain ⟨w, -, rfl⟩ := List.mem_map.mp hv
    rw [Care.cancelScheduled]
    split
    next => exact fun hs => CareVisitStatus.noConfusion hs
    next hs => exact hs

/-- A plan as it is created. -/
lemma counted_create (input : CreateCarePlanInput) (now : Time) :
    (c.apply loc planId (.create input now)).Counted := by
  have hnew : (⟨some (newPlan input), []⟩ : Care).Counted := by
    refine counted_iff_of_some.mpr ⟨⟨rfl, rfl, ?_⟩, fun _ v hv => absurd hv List.not_mem_nil⟩
    exact (zero_mul _).symm
  have hgenerated : (Care.generate loc planId 4 now ⟨some (newPlan input), []⟩).Counted := by
    refine ((exact_generate hnew 4 now).mpr fun plan hplan hcancelled => ?_).1
    obtain rfl : newPlan input = plan := Option.some.inj hplan
    cases hcancelled
  intro plan hplan
  obtain ⟨p, hp, rfl⟩ := Option.map_eq_some_iff.mp hplan
  obtain ⟨htallied, hclosed⟩ := hgenerated p hp
  exact ⟨htallied.congr rfl rfl rfl rfl rfl rfl, hclosed⟩

/-- **The exact condition of a change.** -/
lemma exact_change (hlinked : c.Linked) (hq : c.Counted) {change : Change} (hfits : change.Fits c) :
    (c.apply loc planId change).Counted ∧ c.StaysCancelled (c.apply loc planId change) ↔
      change.KeepsCounters loc c := by
  rcases c with ⟨_ | plan, visits⟩
  · -- Without a plan there are no visits, and nothing but a plan can be created.
    have hvisits : visits = [] := hlinked rfl
    subst hvisits
    have hkept : ∀ c', Care.StaysCancelled ⟨none, []⟩ c' := fun c' p hp => by cases hp
    cases change with
    | create input now => exact iff_of_true ⟨counted_create input now, hkept _⟩ trivial
    | generate weeks now => exact iff_of_true ⟨hq, hkept _⟩ fun p hp => by cases hp
    | complete k now => exact iff_of_true ⟨hq, hkept _⟩ fun v hv => by cases hv
    | _ => exact iff_of_true ⟨hq, hkept _⟩ trivial
  · cases change with
    | create input now => cases hfits
    | generate weeks now => exact exact_generate hq weeks now
    | scheduleNext =>
      refine iff_of_true ⟨counted_scheduleNext_iff.mpr hq, ?_⟩ trivial
      exact staysCancelled_scheduleNext_iff.mpr (.refl _)
    | dispatch k agentId now =>
      refine iff_of_true ?_ trivial
      rw [Care.apply, Care.changeVisit]
      dsimp only
      split
      · exact ⟨hq, .refl _⟩
      next v hk =>
        split
        next hstatus =>
          exact ⟨counted_dispatch hq hk (of_decide_eq_true hstatus) agentId now,
            staysCancelled_iff_of_some.mpr id⟩
        next => exact ⟨hq, .refl _⟩
    | complete k now => exact exact_complete hq k now
    | miss k =>
      refine iff_of_true ?_ trivial
      rw [Care.apply, Care.changeVisit]
      dsimp only
      split
      · exact ⟨hq, .refl _⟩
      next v hk =>
        split
        next hstatus =>
          refine ⟨counted_scheduleNext_iff.mpr (counted_miss hq hk (of_decide_eq_true hstatus)), ?_⟩
          exact staysCancelled_scheduleNext_iff.mpr (staysCancelled_iff_of_some.mpr id)
        next => exact ⟨hq, .refl _⟩
    | pause => exact iff_of_true (counted_setStatus hq (by decide) (by decide)) trivial
    | activate => exact iff_of_true (counted_setStatus hq (by decide) (by decide)) trivial
    | cancel =>
      refine iff_of_true ?_ trivial
      rw [Care.apply]
      split
      · exact ⟨counted_cancel (counted_iff_of_some.mp hq).1,
          staysCancelled_iff_of_some.mpr fun _ => rfl⟩
      · exact ⟨hq, .refl _⟩

end Changes

/-! ## Runs -/

/-- The condition under which a call keeps the counters of all plans and what is final about them.
Generation of visits is for a plan that is not cancelled, or finds no date.  A visit that is
completed was not missed, and if its plan is cancelled, neither the limit nor the end of it is
reached. -/
def KeepsCounters (loc : Locale) (s : Store) : CareOp → Prop
  | .generateUpcomingVisits planId weeks now =>
      ∀ plan, s.carePlan.get? planId = some plan → plan.status = .cancelled →
        goesOn plan (effectiveCutoff plan weeks now)
          (nextDate loc plan (fromDate plan (visitsOf s planId))) 0 = false
  | .completeCareVisit visitId now =>
      ∀ v, s.careVisit.get? visitId = some v → v.status ≠ .completed → v.status ≠ .cancelled →
        v.status ≠ .missed ∧
          ∀ plan, s.carePlan.get? v.carePlanId = some plan → plan.status = .cancelled →
            ¬ reachedLimit plan (plan.completedVisits + 1) ∧
              ¬ isPastEnd plan (nextDate loc plan now)
  | _ => True

lemma everyChange_keepsCounters_iff (loc : Locale) (s : Store) (o : CareOp) :
    EveryChange (fun c change => change.KeepsCounters loc c) s o ↔ KeepsCounters loc s o := by
  cases o with
  | createCarePlan input now =>
    exact everyChange_plan_iff _ (.create input now) fun _ => if_congr eq_comm rfl rfl
  | generateUpcomingVisits i weeks now =>
    exact everyChange_plan_iff i (.generate weeks now) fun _ => rfl
  | scheduleNextVisit i => exact everyChange_plan_iff i .scheduleNext fun _ => rfl
  | dispatchCareVisit visitId agentId now =>
    refine (everyChange_visit_iff visitId (.dispatch · agentId now) fun _ => rfl).trans ?_
    exact iff_of_true (fun _ _ => trivial) trivial
  | completeCareVisit visitId now =>
    refine (everyChange_visit_iff visitId (.complete · now) fun _ => rfl).trans ?_
    refine forall₂_congr fun v hv => ?_
    constructor
    · intro h
      exact h v (visits_ownPlace hv)
    · intro h w hw
      obtain rfl : v = w := Option.some.inj ((visits_ownPlace hv).symm.trans hw)
      exact h
  | markVisitMissed visitId =>
    refine (everyChange_visit_iff visitId .miss fun _ => rfl).trans ?_
    exact iff_of_true (fun _ _ => trivial) trivial
  | pauseCarePlan i => exact everyChange_plan_iff i .pause fun _ => rfl
  | activateCarePlan i => exact everyChange_plan_iff i .activate fun _ => rfl
  | cancelCarePlan i => exact everyChange_plan_iff i .cancel fun _ => rfl

/-- In every state of a run every plan counts its visits and has no scheduled visit if it is
cancelled, and no step of the run changes that a plan is cancelled. -/
def CountersKept (loc : Locale) (os : List CareOp) : Prop :=
  AllStates (CareOp.step loc) (Every Care.Counted) {} os ∧
    AllSteps (CareOp.step loc)
      (fun s o => ∀ planId, (careOf s planId).StaysCancelled (careOf (o.step loc s) planId)) {} os

/-- **Counters and final states** are kept in a run exactly if all its calls meet the condition. -/
theorem counters_iff (loc : Locale) (os : List CareOp) :
    CountersKept loc os ↔ AllSteps (CareOp.step loc) (KeepsCounters loc) {} os := by
  have hempty : Every Care.Counted {} := by
    intro planId plan hplan
    cases hplan
  rw [CountersKept]
  refine (every_iff_of_changes (I := Care.Linked) (C := fun c change => change.KeepsCounters loc c)
    (fun _ _ change h => h.apply change) Care.StaysCancelled.refl
    (fun _ _ _ hlinked hq hfits => exact_change hlinked hq hfits) (fun _ _ => rfl)
    (fun _ _ => rfl) hempty os).trans ?_
  exact allSteps_congr_of_invariant (I := fun _ => True) (fun _ _ _ => trivial)
    (fun s o _ => everyChange_keepsCounters_iff loc s o) trivial os

/-- The first visit of a plan is missed, and completed after all. -/
def missedThenCompleted : List CareOp :=
  [.createCarePlan { customerId := 0, frequency := .weekly, startDate := 0, costPerVisit := 100 } 0,
    .markVisitMissed 0, .completeCareVisit 0 0]

/-- The visit is still counted as missed. -/
theorem not_counters : ¬ CountersKept ⟨3600000, id⟩ missedThenCompleted := by
  rintro ⟨⟨-, -, -, h⟩, -⟩
  obtain ⟨c, hc⟩ : ∃ c, c = careOf (runFrom (CareOp.step ⟨3600000, id⟩) {} missedThenCompleted) 0 :=
    ⟨_, rfl⟩
  have hlast : c.plan.map CarePlan.missedVisits = some 1 ∧ countOf .missed c.visits = 0 := by
    rw [hc]
    decide +kernel
  obtain ⟨plan, hplan, hmissed⟩ := Option.map_eq_some_iff.mp hlast.1
  have hcounted : c.Counted := by
    rw [hc]
    exact h 0
  have hcount := (hcounted plan hplan).1.missed
  rw [hmissed, hlast.2] at hcount
  exact absurd hcount (by decide)

end CarePlans

end Asoju.FieldForce
