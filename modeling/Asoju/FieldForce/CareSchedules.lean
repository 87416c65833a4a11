/-
The schedule of a care plan: the dates and the numbers of its visits.

Both ways of generating visits append to the schedule, after its last date and within the end and
the limit of the plan.  No other operation changes a date or a number.  `schedules_sound` is the
result, in every state of every run.  The limit is one if it is not negative: a plan with a negative
limit gets no visit, and no number of visits is within it (`not_within_limit`).
-/
import Asoju.FieldForce.CareSteps

namespace Asoju.FieldForce

open Lib

namespace CarePlans

/-! ## Schedules -/

/-- The date and the number of each visit. -/
def slots (visits : List CareVisit) : List (Time × ℤ) :=
  visits.map fun v => (v.scheduledDate, v.visitNumber)

lemma pairwise_slots {visits : List CareVisit} :
    ((slots visits).Pairwise fun p q => p.1 < q.1) ↔
      visits.Pairwise fun v w => v.scheduledDate < w.scheduledDate := by
  rw [slots, List.pairwise_map]

/-- The numbers from one to `n`. -/
def countingUp (n : ℕ) : List ℤ := (List.range n).map fun i : ℕ => (i : ℤ) + 1

lemma countingUp_succ (n : ℕ) : countingUp (n + 1) = countingUp n ++ [(n : ℤ) + 1] := by
  rw [countingUp, List.range_succ, List.map_append, ← countingUp]
  rfl

lemma getLast?_countingUp (n : ℕ) : (countingUp n).getLast?.getD 0 = n := by
  cases n with
  | zero => rfl
  | succ n =>
    rw [countingUp_succ, List.getLast?_concat, Option.getD_some]
    omega

/-- Dates that increase, after the start and not after the end, with the numbers from one on. -/
structure Spaced (startDate : Time) (endDate : Option Time) (l : List (Time × ℤ)) : Prop where
  increasing : l.Pairwise fun p q => p.1 < q.1
  after : ∀ p ∈ l, startDate < p.1
  before : ∀ p ∈ l, ∀ e, endDate = some e → p.1 ≤ e
  numbers : l.map Prod.snd = countingUp l.length

lemma Spaced.nil (startDate : Time) (endDate : Option Time) : Spaced startDate endDate [] :=
  ⟨List.Pairwise.nil, by simp, by simp, rfl⟩

/-- One more date, later than the others. -/
lemma Spaced.concat {startDate date : Time} {endDate : Option Time} {l : List (Time × ℤ)}
    (h : Spaced startDate endDate l) (hlast : ∀ p ∈ l, p.1 < date) (hstart : startDate < date)
    (hend : ∀ e, endDate = some e → date ≤ e) :
    Spaced startDate endDate (l ++ [(date, (l.length : ℤ) + 1)]) where
  increasing := by
    refine List.pairwise_append.mpr ⟨h.increasing, List.pairwise_singleton .., fun p hp q hq => ?_⟩
    rw [List.mem_singleton.mp hq]
    exact hlast p hp
  after := by
    intro p hp
    rcases List.mem_append.mp hp with hp | hp
    · exact h.after p hp
    · rw [List.mem_singleton.mp hp]
      exact hstart
  before := by
    intro p hp e he
    rcases List.mem_append.mp hp with hp | hp
    · exact h.before p hp e he
    · rw [List.mem_singleton.mp hp]
      exact hend e he
  numbers := by
    rw [List.map_append, h.numbers, List.length_append, List.length_singleton, countingUp_succ]
    rfl

/-- The last number is the number of the dates. -/
lemma Spaced.lastNumber {startDate : Time} {endDate : Option Time} {visits : List CareVisit}
    (h : Spaced startDate endDate (slots visits)) : lastNumber visits = visits.length := by
  have hsorted : visits.Pairwise fun v w => v.scheduledDate < w.scheduledDate :=
    pairwise_slots.mp h.increasing
  have hnumbers : visits.map CareVisit.visitNumber = countingUp visits.length := by
    have hn := h.numbers
    rw [slots, List.map_map, List.length_map] at hn
    exact hn
  have hlast : (visits.getLast?.map CareVisit.visitNumber).getD 0 = visits.length := by
    rw [← List.getLast?_map, hnumbers, getLast?_countingUp]
  rw [CarePlans.lastNumber, lastVisit, head?_sortDesc CareVisit.scheduledDate hsorted, ← hlast]
  cases visits.getLast? <;> rfl

/-! ## What a schedule depends on -/

/-- What of a plan its schedule depends on. -/
structure Terms where
  startDate : Time
  endDate : Option Time
  maxVisits : Option ℤ
  totalVisits : ℤ

def CarePlan.terms (p : CarePlan) : Terms := ⟨p.startDate, p.endDate, p.maxVisits, p.totalVisits⟩

/-- The schedule of a plan. -/
def Planned (t : Terms) (l : List (Time × ℤ)) : Prop :=
  Spaced t.startDate t.endDate l ∧ t.totalVisits = l.length ∧
    ∀ m, t.maxVisits = some m → m ≠ 0 ∧ (l.length : ℤ) ≤ max m 0

def Care.Scheduled (c : Care) : Prop :=
  ∀ plan, c.plan = some plan → Planned plan.terms (slots c.visits)

section Changes

variable {loc : Locale} {planId : Id} {c : Care}

/-- A change of the plan that leaves what the schedule depends on. -/
lemma Care.Scheduled.mapPlan (h : c.Scheduled) {f : CarePlan → CarePlan}
    (hf : ∀ p, (f p).terms = p.terms) : (c.mapPlan f).Scheduled := by
  intro plan hplan
  obtain ⟨plan', hplan', rfl⟩ := Option.map_eq_some_iff.mp hplan
  rw [hf]
  exact h plan' hplan'

/-- A change of a visit that leaves its date and its number. -/
lemma Care.Scheduled.setVisit (h : c.Scheduled) {k : ℕ} {v w : CareVisit}
    (hk : c.visits[k]? = some v) (hdate : w.scheduledDate = v.scheduledDate)
    (hnumber : w.visitNumber = v.visitNumber) :
    (c.setVisit k w).Scheduled := by
  have hslots : slots (c.setVisit k w).visits = slots c.visits := by
    obtain ⟨pre, post, hvisits, hset⟩ := exists_split_set hk
    rw [Care.setVisit, hset, hvisits, slots, slots, List.map_append, List.map_append, List.map_cons,
      List.map_cons, hdate, hnumber]
  intro plan hplan
  rw [hslots]
  exact h plan hplan

lemma Care.Scheduled.changeVisit (h : c.Scheduled) (k : ℕ) (q : CareVisit → Bool)
    {f : CareVisit → CareVisit} (hdate : ∀ v, (f v).scheduledDate = v.scheduledDate)
    (hnumber : ∀ v, (f v).visitNumber = v.visitNumber) {after : Care → Care}
    (hafter : ∀ c : Care, c.Scheduled → (after c).Scheduled) :
    (c.changeVisit k q f after).Scheduled := by
  rw [Care.changeVisit]
  split
  · exact h
  next v hk =>
    split
    · exact hafter _ (h.setVisit hk (hdate v) (hnumber v))
    · exact h

/-! ### One more visit -/

lemma slots_append (visits more : List CareVisit) :
    slots (visits ++ more) = slots visits ++ slots more := List.map_append ..

lemma length_slots (visits : List CareVisit) : (slots visits).length = visits.length :=
  List.length_map ..

/-- The generation goes on from a date that no visit is after. -/
lemma Spaced.le_fromDate {plan : CarePlan} {visits : List CareVisit}
    (h : Spaced plan.startDate plan.endDate (slots visits)) :
    plan.startDate ≤ fromDate plan visits ∧ ∀ p ∈ slots visits, p.1 ≤ fromDate plan visits := by
  constructor
  · rw [fromDate]
    cases hlast : lastVisit visits with
    | none => exact le_rfl
    | some v =>
      have hmem : v ∈ visits := (mem_sortDesc _).mp (List.mem_of_mem_head? hlast)
      exact (h.after _ (List.mem_map.mpr ⟨v, hmem, rfl⟩)).le
  · intro p hp
    obtain ⟨v, hv, rfl⟩ := List.mem_map.mp hp
    exact CarePlans.le_fromDate hv

/-- What a limit leaves room for. -/
lemma lt_of_not_reachedLimit {plan : CarePlan} {n m : ℤ} (h : ¬ reachedLimit plan n = true)
    (hm : plan.maxVisits = some m) (hne : m ≠ 0) : n < m := by
  rw [reachedLimit, visitLimit, hm, Option.filter_some, decide_eq_true hne, if_pos rfl,
    Option.any_some, decide_eq_true_eq, not_le] at h
  exact h

lemma le_of_not_isPastEnd {plan : CarePlan} {date : Time} (h : ¬ isPastEnd plan date = true) :
    ∀ e, plan.endDate = some e → date ≤ e := by
  intro e he
  rw [isPastEnd, he, Option.any_some, decide_eq_true_eq] at h
  exact le_of_not_gt h

/-- More visits within the limit, which the plan counts. -/
lemma Care.Scheduled.addVisits (h : c.Scheduled) {plan : CarePlan} (hplan : c.plan = some plan)
    {new : List CareVisit} {f : CarePlan → CarePlan}
    (hspaced : Spaced plan.startDate plan.endDate (slots (c.visits ++ new)))
    (hlimit : ∀ m, plan.maxVisits = some m → m ≠ 0 →
      new = [] ∨ (c.visits.length : ℤ) + new.length ≤ m)
    (hf : (f plan).terms = { plan.terms with totalVisits := plan.totalVisits + new.length }) :
    ((c.addVisits new).mapPlan f).Scheduled := by
  intro plan' hplan'
  obtain ⟨p, hp, rfl⟩ := Option.map_eq_some_iff.mp hplan'
  obtain rfl : plan = p := Option.some.inj (hplan.symm.trans hp)
  obtain ⟨-, htotal, hold⟩ := h plan hplan
  have htotal' : plan.totalVisits = c.visits.length := by
    rw [length_slots] at htotal
    exact htotal
  have hlength : ((slots (c.visits ++ new)).length : ℤ) = c.visits.length + new.length := by
    rw [length_slots, List.length_append, Nat.cast_add]
  rw [hf]
  refine ⟨hspaced, ?_, fun m hm => ⟨(hold m hm).1, ?_⟩⟩
  · exact (congrArg (fun n : ℤ => n + new.length) htotal').trans hlength.symm
  · refine hlength.trans_le ?_
    have hle := (hold m hm).2
    rw [length_slots] at hle
    rcases hlimit m hm (hold m hm).1 with rfl | hnew
    · rw [List.length_nil, Nat.cast_zero, add_zero]
      exact hle
    · exact hnew.trans (le_max_left ..)

lemma Care.Scheduled.scheduleNext (h : c.Scheduled) : (c.scheduleNext loc planId).Scheduled := by
  rw [Care.scheduleNext]
  cases hplan : c.plan with
  | none => exact h
  | some plan =>
    obtain ⟨hspaced, htotal, hlimit⟩ := h plan hplan
    have htotal' : plan.totalVisits = c.visits.length := by
      rw [length_slots] at htotal
      exact htotal
    dsimp only
    split
    · exact h
    · split
      · exact h
      next hreached =>
        split
        · exact h.mapPlan fun _ => rfl
        next hend =>
          have hlater := lt_nextDate loc plan (fromDate plan c.visits)
          refine h.addVisits hplan ?_ (fun m hm hne => Or.inr ?_) rfl
          · have hconcat := hspaced.concat
              (fun p hp => (hspaced.le_fromDate.2 p hp).trans_lt hlater)
              (hspaced.le_fromDate.1.trans_lt hlater) (le_of_not_isPastEnd hend)
            rw [length_slots] at hconcat
            rw [slots_append, hspaced.lastNumber]
            exact hconcat
          · have hlt := lt_of_not_reachedLimit hreached hm hne
            rw [htotal'] at hlt
            rw [List.length_singleton, Nat.cast_one]
            exact hlt

/-! ### Visits for some weeks -/

lemma spaced_upcoming (loc : Locale) (planId : Id) {startDate cutoff currentDate : Time}
    {endDate : Option Time} (plan : CarePlan) (made : ℕ) {l : List (Time × ℤ)}
    (h : Spaced startDate endDate l)
    (hlast : ∀ p ∈ l, p.1 < currentDate) (hstart : startDate < currentDate)
    (hend : ∀ e, endDate = some e → cutoff ≤ e) :
    Spaced startDate endDate
      (l ++ slots (numbered planId plan l.length (upcoming loc plan cutoff currentDate made))) := by
  fun_induction upcoming loc plan cutoff currentDate made generalizing l with
  | case1 currentDate made hgo ih =>
    have hlater := lt_nextDate loc plan currentDate
    have hle : currentDate ≤ cutoff := (of_decide_eq_true hgo).1
    have hone := h.concat hlast hstart fun e he => hle.trans (hend e he)
    have hold : ∀ p ∈ l ++ [(currentDate, (l.length : ℤ) + 1)],
        p.1 < nextDate loc plan currentDate := by
      intro p hp
      rcases List.mem_append.mp hp with hp | hp
      · exact (hlast p hp).trans hlater
      · rw [List.mem_singleton.mp hp]
        exact hlater
    have hrest := ih hone hold (hstart.trans hlater)
    rw [List.length_append, List.length_singleton, Nat.cast_add, Nat.cast_one,
      List.append_assoc] at hrest
    exact hrest
  | case2 currentDate made hgo =>
    rw [numbered]
    exact (List.append_nil l).symm ▸ h

lemma length_numbered (plan : CarePlan) (n : ℤ) (dates : List Time) :
    (numbered planId plan n dates).length = dates.length := by
  induction dates generalizing n with
  | nil => rfl
  | cons date dates ih => rw [numbered, List.length_cons, List.length_cons, ih]

/-- The loop generates no more visits than remain. -/
lemma length_upcoming {plan : CarePlan} {cutoff currentDate : Time} {made : ℕ} {remaining : ℤ}
    (hremaining : remainingVisits plan = some remaining) :
    upcoming loc plan cutoff currentDate made = [] ∨
      (made : ℤ) + (upcoming loc plan cutoff currentDate made).length ≤ remaining := by
  fun_induction upcoming loc plan cutoff currentDate made with
  | case1 currentDate made hgo ih =>
    refine Or.inr ?_
    have hlt : (made : ℤ) < remaining := by
      have hall := (of_decide_eq_true hgo).2
      rw [hremaining] at hall
      exact of_decide_eq_true hall
    rw [List.length_cons, Nat.cast_add, Nat.cast_one]
    rcases ih with hnil | hle
    · rw [hnil, List.length_nil]
      omega
    · rw [Nat.cast_add, Nat.cast_one] at hle
      omega
  | case2 => exact Or.inl rfl

lemma Care.Scheduled.generate (h : c.Scheduled) (weeks : ℤ) (now : Time) :
    (c.generate loc planId weeks now).Scheduled := by
  rw [Care.generate]
  cases hplan : c.plan with
  | none => exact h
  | some plan =>
    obtain ⟨hspaced, htotal, -⟩ := h plan hplan
    have htotal' : plan.totalVisits = c.visits.length := by
      rw [length_slots] at htotal
      exact htotal
    dsimp only
    split
    · exact h
    next hnew =>
      have hlater := lt_nextDate loc plan (fromDate plan c.visits)
      refine h.addVisits hplan ?_ (fun m hm hne => Or.inr ?_) rfl
      · have hcut : ∀ e, plan.endDate = some e → effectiveCutoff plan weeks now ≤ e := by
          intro e he
          rw [effectiveCutoff, he]
          exact min_le_right ..
        have hall := spaced_upcoming loc planId plan 0 hspaced
          (fun p hp => (hspaced.le_fromDate.2 p hp).trans_lt hlater)
          (hspaced.le_fromDate.1.trans_lt hlater) hcut
        rw [slots_append, newVisits, hspaced.lastNumber]
        rw [length_slots] at hall
        exact hall
      · have hremaining : remainingVisits plan = some (m - plan.totalVisits) := by
          rw [remainingVisits, visitLimit, hm, Option.filter_some, decide_eq_true hne, if_pos rfl]
          rfl
        rw [newVisits, length_numbered]
        rcases length_upcoming hremaining with hnil | hle
        · refine absurd ?_ hnew
          rw [newVisits, hnil]
          rfl
        · rw [Nat.cast_zero, zero_add] at hle
          exact htotal' ▸ le_sub_iff_add_le'.mp hle

/-- A plan as it is created. -/
lemma Care.Scheduled.create (input : CreateCarePlanInput) (now : Time) :
    (c.apply loc planId (.create input now)).Scheduled := by
  have hnew : (⟨some (newPlan input), []⟩ : Care).Scheduled := by
    intro plan hplan
    obtain rfl : newPlan input = plan := Option.some.inj hplan
    refine ⟨Spaced.nil _ _, rfl, fun m hm => ⟨?_, le_max_right ..⟩⟩
    exact of_decide_eq_true (Option.filter_eq_some_iff.mp hm).2
  have hgenerated : (Care.generate loc planId 4 now ⟨some (newPlan input), []⟩).Scheduled :=
    hnew.generate 4 now
  intro plan hplan
  obtain ⟨p, hp, rfl⟩ := Option.map_eq_some_iff.mp hplan
  obtain ⟨hspaced, htotal, hlimit⟩ := hgenerated p hp
  refine ⟨hspaced, ?_, hlimit⟩
  rw [length_slots]
  rfl

/-- **What a change preserves.** -/
lemma Care.Scheduled.apply (h : c.Scheduled) (change : Change) :
    (c.apply loc planId change).Scheduled := by
  have hstatus : ∀ src dst, (c.setStatus src dst).Scheduled := by
    intro src dst
    rw [Care.setStatus]
    split
    · exact h.mapPlan fun _ => rfl
    · exact h
  cases change with
  | create input now => exact .create input now
  | generate weeks now => exact h.generate weeks now
  | scheduleNext => exact h.scheduleNext
  | dispatch k agentId now =>
    exact h.changeVisit (f := dispatchVisit agentId now) k _ (fun _ => rfl) (fun _ => rfl)
      fun _ hc => hc
  | complete k now =>
    refine h.changeVisit (f := completeVisit now) k _ (fun _ => rfl) (fun _ => rfl) fun c hc => ?_
    exact (hc.mapPlan (f := fun plan => countCompleted loc now plan plan) fun _ => rfl).scheduleNext
  | miss k =>
    refine h.changeVisit (f := missVisit) k _ (fun _ => rfl) (fun _ => rfl) fun c hc => ?_
    exact (hc.mapPlan (f := countMissed) fun _ => rfl).scheduleNext
  | pause => exact hstatus _ _
  | activate => exact hstatus _ _
  | cancel =>
    rw [Care.apply]
    split
    · have hslots : slots (c.visits.map Care.cancelScheduled) = slots c.visits := by
        rw [slots, slots, List.map_map]
        refine List.map_congr_left fun v _ => ?_
        rw [Function.comp_apply, Care.cancelScheduled]
        split <;> rfl
      have hsame : (⟨c.plan, c.visits.map Care.cancelScheduled⟩ : Care).Scheduled := by
        intro plan hplan
        rw [hslots]
        exact h plan hplan
      exact hsame.mapPlan fun _ => rfl
    · exact h

end Changes

/-! ## Runs -/

/-- The schedule of a plan whose visits in the order of their dates are `visits`. -/
structure SoundSchedule (plan : CarePlan) (visits : List CareVisit) : Prop where
  increasing : visits.Pairwise fun v w => v.scheduledDate < w.scheduledDate
  afterStart : ∀ v ∈ visits, plan.startDate < v.scheduledDate
  beforeEnd : ∀ v ∈ visits, ∀ endDate, plan.endDate = some endDate → v.scheduledDate ≤ endDate
  numbers : visits.map CareVisit.visitNumber = countingUp visits.length
  total : plan.totalVisits = visits.length

/-- The visits of a plan in the order of their dates. -/
def visitsByDate (s : Store) (planId : Id) : List CareVisit :=
  sortAsc CareVisit.scheduledDate (visitsOf s planId)

/-- Every plan has a sound schedule with at most as many visits as `cap` makes of its limit, and
more visits can be generated for it, which are appended. -/
def SoundSchedules (loc : Locale) (cap : ℤ → ℤ) (s : Store) : Prop :=
  ∀ planId plan, s.carePlan.get? planId = some plan →
    SoundSchedule plan (visitsByDate s planId) ∧
      (∀ m, plan.maxVisits = some m → ((visitsByDate s planId).length : ℤ) ≤ cap m) ∧
      ∀ weeks now, (generateUpcomingVisits loc planId weeks now).Returns s fun visits s' =>
        visitsOf s' planId = visitsOf s planId ++ visits

lemma Planned.sound {plan : CarePlan} {visits : List CareVisit}
    (h : Planned plan.terms (slots visits)) :
    sortAsc CareVisit.scheduledDate visits = visits ∧ SoundSchedule plan visits ∧
      ∀ m, plan.maxVisits = some m → (visits.length : ℤ) ≤ max m 0 := by
  obtain ⟨hspaced, htotal, hlimit⟩ := h
  have hsorted := pairwise_slots.mp hspaced.increasing
  have hmem : ∀ v ∈ visits, (v.scheduledDate, v.visitNumber) ∈ slots visits :=
    fun v hv => List.mem_map.mpr ⟨v, hv, rfl⟩
  have hnumbers := hspaced.numbers
  rw [slots, List.map_map, List.length_map] at hnumbers
  rw [length_slots] at htotal
  refine ⟨sortAsc_eq_self _ hsorted, ⟨hsorted, fun v hv => hspaced.after _ (hmem v hv),
    fun v hv => hspaced.before _ (hmem v hv), hnumbers, htotal⟩, fun m hm => ?_⟩
  have hle := (hlimit m hm).2
  rwa [length_slots] at hle

lemma returns_generate (loc : Locale) {s : Store} {planId : Id} {plan : CarePlan}
    (h : s.carePlan.get? planId = some plan) (weeks : ℤ) (now : Time) :
    (generateUpcomingVisits loc planId weeks now).Returns s fun visits s' =>
      visitsOf s' planId = visitsOf s planId ++ visits := by
  refine ⟨_, _, run_generateUpcomingVisits loc s planId h weeks now, ?_⟩
  have hcare := careOf_generatedFor loc s planId h weeks now
  rw [if_pos rfl] at hcare
  have hplan : careOf s planId = ⟨some plan, visitsOf s planId⟩ := Care.ext h rfl
  have hvisits := congrArg Care.visits hcare
  rw [hplan, visits_generate] at hvisits
  exact hvisits

/-- **The schedules of all plans** are sound in every state of every run.  A limit that is negative
allows no visit. -/
theorem schedules_sound (loc : Locale) (os : List CareOp) :
    AllStates (CareOp.step loc) (SoundSchedules loc fun m => max m 0) {} os := by
  have hempty : Every Care.Scheduled {} := by
    intro planId plan hplan
    cases hplan
  have hall : AllStates (CareOp.step loc) (fun s => Linked s ∧ Every Care.Scheduled s) {} os :=
    every_of_changes (fun _ _ change h => h.apply change) (fun _ _ => rfl) hempty os
  refine hall.mono fun s hs planId plan hplan => ?_
  obtain ⟨hsort, hsound, hlimit⟩ := (hs.2 planId plan hplan).sound
  have hsort' : visitsByDate s planId = visitsOf s planId := hsort
  rw [hsort']
  exact ⟨hsound, hlimit, returns_generate loc hplan⟩

/-- A plan with a negative limit has no visit, which are more than the limit. -/
theorem not_within_limit :
    ¬ AllStates (CareOp.step ⟨3600000, id⟩) (SoundSchedules ⟨3600000, id⟩ id) {}
      [.createCarePlan
        { customerId := 0, frequency := .weekly, startDate := 0, maxVisits := some (-1)
          costPerVisit := 100 } 0] := by
  rintro ⟨-, h⟩
  have hplan : ((createCarePlan ⟨3600000, id⟩
      { customerId := 0, frequency := .weekly, startDate := 0, maxVisits := some (-1)
        costPerVisit := 100 } 0).exec {}).carePlan.get? 0 =
      some { customerId := 0, frequency := .weekly, startDate := 0, maxVisits := some (-1)
             costPerVisit := 100 } := by decide +kernel
  have hlength := (h 0 _ hplan).2.1 (-1) rfl
  exact absurd (Int.natCast_nonneg _) (not_le_of_gt (hlength.trans_lt (by decide)))

end CarePlans

end Asoju.FieldForce
