/-
Recurring services: schedules, and the cases that come from them.

A schedule stores when its next visit is due.  A sweep opens a case for each schedule that is due
and puts it forward by its cadence.  A pause leaves the time of the next visit as it is and stores
that of the pause; what was left is added again when the schedule goes on.  So a schedule is a
countdown, and `due_iff_active_long_enough` says that it is due exactly when it has been active for
its cadence.

The programs take the way to read the server's clock as an argument: here every call takes place at
one time.
-/
import Asoju.ServiceRequests
import Asoju.Lib.Run
import Asoju.Lib.Stopwatch

namespace Asoju

open Lib

namespace RecurringSchedule

/-- The time from one visit to the next, in milliseconds. -/
def cadence (s : RecurringSchedule) : ℤ := s.cadenceDays * 24 * 60 * 60 * 1000

def isDue (s : RecurringSchedule) (t : Time) : Bool := s.active ∧ s.nextRunAt ≤ t

/-- When the next visit is due once the schedule is switched on or off: resuming restores what was
left when it was paused. -/
def switchedRunAt (s : RecurringSchedule) (active : Bool) (now : Time) : Time :=
  match active, s.pausedAt with
  | true, some pausedAt => now + max 0 (s.nextRunAt - pausedAt)
  | _, _ => s.nextRunAt

/-- The schedule when it is switched on or off by a call that has read `schedule`. -/
def switched (schedule : RecurringSchedule) (active : Bool) (now : Time) (s : RecurringSchedule) :
    RecurringSchedule :=
  { s with active, nextRunAt := schedule.switchedRunAt active now
           pausedAt := if active then none else some now }

/-- The schedule put forward at `now` by a sweep that has read `schedule`. -/
def putForward (schedule : RecurringSchedule) (now : Time) (s : RecurringSchedule) :
    RecurringSchedule :=
  { s with nextRunAt := now + schedule.cadence }

end RecurringSchedule

namespace Db

variable (d : Db)

/-- The schedule that has been set up from the case. -/
def scheduleOf (originCaseId : Id) : Option (Id × RecurringSchedule) :=
  d.recurringSchedule.rows.find? fun p => p.2.originCaseId = originCaseId

/-- The schedules that a sweep finds due. -/
def dueSchedules (t : Time) : List (Id × RecurringSchedule) :=
  d.recurringSchedule.rows.filter fun p => p.2.isDue t

end Db

namespace CasesService

/-- The automatic counterpart of `convertToCase`: a case without a request and without an actor. -/
def spawnCaseFromSchedule (scheduleId : Id) (schedule : RecurringSchedule) : Svc Id := do
  let caseId ← Prisma.create .serviceCase fun t =>
    { customerId := schedule.customerId, serviceType := schedule.serviceType
      description := schedule.description, location := schedule.location
      beneficiaryId := schedule.beneficiaryId, propertyId := schedule.propertyId
      assetId := schedule.assetId, status := .draft
      spawnedFromScheduleId := some scheduleId, createdAt := t }
  let _ ← Prisma.update .serviceCase caseId fun _ c =>
    { c with caseNumber := some (caseNumberOf caseId) }
  Prisma.createMany .caseTask (checklistTasks caseId schedule.serviceType)
  let _ ← Prisma.create .caseStatusHistory fun t =>
    { caseId, fromStatus := none, toStatus := .draft, changedById := none, reason := none
      createdAt := t }
  Prisma.audit
  return caseId

end CasesService

namespace RecurringService

variable (date : Svc Time)

def eligibleStatuses : List CaseStatus := [.completed, .closed]

/-- A schedule for further visits, set up from a case that is done. -/
def setup (caseId : Id) (cadenceDays : ℕ) : Svc Id := do
  let some (serviceCase, recurringSchedule) ← Prisma.query .serviceCase fun d =>
      (d.serviceCase.get? caseId).map fun c => (c, d.scheduleOf caseId)
    | throw (.notFound "Case not found")
  if serviceCase.status ∉ eligibleStatuses then
    throw (.badRequest "A recurring schedule can only be set up from a completed case")
  if recurringSchedule.isSome then
    throw (.badRequest ("This case already has a recurring schedule — use the reactivate/cancel "
      ++ "actions instead"))
  let now ← date
  let schedule ← Prisma.createUnique .recurringSchedule (fun d => (d.scheduleOf caseId).isSome)
    fun _ =>
      { originCaseId := caseId, customerId := serviceCase.customerId
        serviceType := serviceCase.serviceType, description := serviceCase.description
        location := serviceCase.location, beneficiaryId := serviceCase.beneficiaryId
        propertyId := serviceCase.propertyId, assetId := serviceCase.assetId, cadenceDays
        nextRunAt := now + cadenceDays * 24 * 60 * 60 * 1000 }
  Prisma.audit
  return schedule

/-- The schedule of the case is paused, or goes on. -/
def setActive (caseId : Id) (active : Bool) : Svc RecurringSchedule := do
  let some (scheduleId, schedule) ← Prisma.query .recurringSchedule (·.scheduleOf caseId)
    | throw (.notFound "No recurring schedule on this case")
  if active = schedule.active then
    throw (.badRequest
      (if active then "This schedule is already active" else "This schedule is already paused"))
  let now ← date
  let updated ← Prisma.update .recurringSchedule scheduleId fun _ =>
    schedule.switched active now
  Prisma.audit
  return updated

/-- One visit of a schedule that is due. -/
def visit (due : Id × RecurringSchedule) : Svc Unit := do
  let _ ← CasesService.spawnCaseFromSchedule due.1 due.2
  let now ← date
  let _ ← Prisma.update .recurringSchedule due.1 fun _ => due.2.putForward now
  Prisma.notify

def processDueSchedules : Svc ℕ := do
  let now ← date
  let due ← Prisma.query .recurringSchedule (·.dueSchedules now)
  due.forM (visit date)
  return due.length

end RecurringService

/-! ## The calls at one time -/

/-- How many cases have come from the schedule. -/
def Db.visitCount (d : Db) (scheduleId : Id) : ℕ :=
  d.serviceCase.values.countP fun c => c.spawnedFromScheduleId = some scheduleId

/-- A case is opened, and nothing is done to the schedules. -/
lemma CasesService.spawnCaseFromSchedule_run (d : Db) (scheduleId : Id)
    (schedule : RecurringSchedule) :
    ∃ d', (spawnCaseFromSchedule scheduleId schedule).run d = (.ok d.serviceCase.next, d') ∧
      d'.recurringSchedule = d.recurringSchedule ∧
      ∀ i, d'.visitCount i = d.visitCount i + if scheduleId = i then 1 else 0 := by
  let row : ServiceCase :=
    { customerId := schedule.customerId, serviceType := schedule.serviceType
      description := schedule.description, location := schedule.location
      beneficiaryId := schedule.beneficiaryId, propertyId := schedule.propertyId
      assetId := schedule.assetId, spawnedFromScheduleId := some scheduleId, createdAt := d.clock }
  have hcreate : (Prisma.create .serviceCase fun t => { row with createdAt := t }).run d =
      (.ok d.serviceCase.next, d.insertRow .serviceCase row) := rfl
  have hrow : (d.insertRow .serviceCase row).serviceCase.get? d.serviceCase.next = some row :=
    Table.get?_insert_self _ _
  let numbered := (d.insertRow .serviceCase row).modifyRow .serviceCase d.serviceCase.next
    fun c => { c with caseNumber := some (caseNumberOf d.serviceCase.next) }
  obtain ⟨tasks, c, -, htasks⟩ := createMany_caseTask_eq numbered
    (checklistTasks d.serviceCase.next schedule.serviceType)
  refine ⟨(numbered.withTasks tasks c).insertRow .caseStatusHistory
    ⟨d.serviceCase.next, none, .draft, none, none, c⟩, ?_, rfl, fun i => ?_⟩
  · rw [spawnCaseFromSchedule, Prog.run_bind_ok hcreate,
      Prog.run_bind_ok (Prisma.run_update_of_some hrow _),
      Prog.run_bind_ok (Prisma.run_createMany ..), htasks, Prog.run_bind_ok (Prisma.run_create ..)]
    rfl
  · -- the number of a case has nothing to do with where it comes from
    have hnumbered := Table.countP_values_modify hrow
      (fun c => { c with caseNumber := some (caseNumberOf d.serviceCase.next) })
      (fun c => c.spawnedFromScheduleId = some i)
    have hopened := Table.countP_values_insert d.serviceCase row
      (fun c => c.spawnedFromScheduleId = some i)
    refine ((Nat.add_right_cancel hnumbered).trans hopened).trans ?_
    simp [row, Db.visitCount]

namespace RecurringService

variable (d : Db) (t : Time)

/-- A schedule is set up active, and due after its cadence. -/
lemma setup_run (caseId : Id) (cadenceDays : ℕ) :
    (∃ e, (setup (pure t) caseId cadenceDays).run d = (.error e, d)) ∨
      ∃ s : RecurringSchedule, s.cadenceDays = cadenceDays ∧ s.active = true ∧
        s.nextRunAt = t + s.cadence ∧ s.pausedAt = none ∧
        (setup (pure t) caseId cadenceDays).run d =
          (.ok d.recurringSchedule.next, d.insertRow .recurringSchedule s) := by
  rw [setup, Prog.run_bind_ok (Prisma.run_query d _ _)]
  cases hc : d.serviceCase.get? caseId with
  | none => exact Or.inl ⟨_, rfl⟩
  | some c =>
    dsimp only [Option.map_some]
    by_cases hstatus : c.status ∈ eligibleStatuses
    · rw [if_neg (not_not.mpr hstatus)]
      by_cases hthere : (d.scheduleOf caseId).isSome = true
      · rw [if_pos hthere]
        exact Or.inl ⟨_, rfl⟩
      · rw [if_neg hthere, Prog.pure_bind, Prog.run_bind, Prisma.run_createUnique, if_neg hthere]
        exact Or.inr ⟨_, rfl, rfl, rfl, rfl, rfl⟩
    · rw [if_pos hstatus]
      exact Or.inl ⟨_, rfl⟩

/-- A schedule is switched over, or nothing happens. -/
lemma setActive_run (caseId : Id) (active : Bool) :
    (∃ e, (setActive (pure t) caseId active).run d = (.error e, d)) ∨
      ∃ i s r, d.recurringSchedule.get? i = some s ∧ active ≠ s.active ∧
        (setActive (pure t) caseId active).run d =
          (.ok r, d.modifyRow .recurringSchedule i (s.switched active t)) := by
  rw [setActive, Prog.run_bind_ok (Prisma.run_query d _ _)]
  cases hfind : d.scheduleOf caseId with
  | none => exact Or.inl ⟨_, rfl⟩
  | some p =>
    have hs : d.recurringSchedule.get? p.1 = some p.2 :=
      d.recurringSchedule.mem_rows_iff.mp (List.mem_of_find?_eq_some hfind)
    dsimp only
    by_cases hsame : active = p.2.active
    · rw [if_pos hsame]
      exact Or.inl ⟨_, rfl⟩
    · rw [if_neg hsame, Prog.pure_bind, Prog.run_bind_ok (Prisma.run_update_of_some hs _)]
      exact Or.inr ⟨p.1, p.2, _, hs, hsame, rfl⟩

/-- A visit opens one case, and puts the schedule forward. -/
lemma visit_run {due : Id × RecurringSchedule} {s : RecurringSchedule}
    (hs : d.recurringSchedule.get? due.1 = some s) :
    ∃ d', (visit (pure t) due).run d = (.ok (), d') ∧
      d'.recurringSchedule = d.recurringSchedule.modify due.1 (due.2.putForward t) ∧
      ∀ i, d'.visitCount i = d.visitCount i + if due.1 = i then 1 else 0 := by
  obtain ⟨d₁, hspawn, hsame, hcount⟩ := CasesService.spawnCaseFromSchedule_run d due.1 due.2
  have hs₁ : d₁.recurringSchedule.get? due.1 = some s := by rw [hsame, hs]
  refine ⟨d₁.modifyRow .recurringSchedule due.1 (due.2.putForward t), ?_, ?_, hcount⟩
  · rw [visit, Prog.run_bind_ok hspawn, Prog.pure_bind,
      Prog.run_bind_ok (Prisma.run_update_of_some hs₁ _)]
    rfl
  · rw [← hsame]
    rfl

/-- The visits of schedules that are as they have been read. -/
lemma visits_run {due : List (Id × RecurringSchedule)} (hnodup : (due.map Prod.fst).Nodup)
    (hthere : ∀ p ∈ due, d.recurringSchedule.get? p.1 = some p.2) :
    ∃ d', (due.forM (visit (pure t))).run d = (.ok (), d') ∧
      (∀ i, d'.recurringSchedule.get? i = (d.recurringSchedule.get? i).map fun s =>
        if i ∈ due.map Prod.fst then s.putForward t s else s) ∧
      ∀ i, d'.visitCount i = d.visitCount i + if i ∈ due.map Prod.fst then 1 else 0 := by
  induction due generalizing d with
  | nil => exact ⟨d, rfl, by simp, by simp⟩
  | cons p due ih =>
    have hs := hthere p List.mem_cons_self
    obtain ⟨d₁, hvisit, htable, hcount⟩ := visit_run d t hs
    rw [List.map_cons, List.nodup_cons] at hnodup
    have hthere₁ : ∀ q ∈ due, d₁.recurringSchedule.get? q.1 = some q.2 := by
      intro q hq
      have hne : q.1 ≠ p.1 := fun h => hnodup.1 (h ▸ List.mem_map_of_mem hq)
      rw [htable, Table.get?_modify_of_ne _ hne, hthere q (List.mem_cons_of_mem _ hq)]
    obtain ⟨d', hrest, hrows, hcounts⟩ := ih d₁ hnodup.2 hthere₁
    refine ⟨d', ?_, fun i => ?_, fun i => ?_⟩
    · show (visit (pure t) p >>= fun _ => due.forM (visit (pure t))).run d = _
      rw [Prog.run_bind_ok hvisit, hrest]
    · rw [hrows, htable]
      by_cases hi : i = p.1
      · rw [hi, Table.get?_modify_self, hs, Option.map_some, Option.map_some, Option.map_some,
          if_neg hnodup.1, if_pos (by simp)]
      · have hmem : i ∈ due.map Prod.fst ↔ i ∈ (p :: due).map Prod.fst := by
          rw [List.map_cons, List.mem_cons, or_iff_right hi]
        rw [Table.get?_modify_of_ne _ hi]
        exact congrArg (Option.map · _) (funext fun s => if_congr hmem rfl rfl)
    · rw [hcounts, hcount]
      by_cases hi : p.1 = i
      · rw [← hi, if_neg hnodup.1, if_pos rfl, if_pos (by simp)]
      · have hmem : i ∈ due.map Prod.fst ↔ i ∈ (p :: due).map Prod.fst := by
          rw [List.map_cons, List.mem_cons, or_iff_right (Ne.symm hi)]
        rw [if_neg hi, Nat.add_zero]
        exact congrArg _ (if_congr hmem rfl rfl)

/-- A sweep visits the schedules that are due, each once. -/
lemma processDueSchedules_run :
    ∃ n d', (processDueSchedules (pure t)).run d = (.ok n, d') ∧
      (∀ i, d'.recurringSchedule.get? i = (d.recurringSchedule.get? i).map fun s =>
        if s.isDue t then s.putForward t s else s) ∧
      ∀ i, d'.visitCount i =
        d.visitCount i + if (d.recurringSchedule.get? i).any (·.isDue t) then 1 else 0 := by
  have hnodup : ((d.dueSchedules t).map Prod.fst).Nodup :=
    d.recurringSchedule.nodup.sublist (List.filter_sublist.map _)
  have hthere : ∀ p ∈ d.dueSchedules t, d.recurringSchedule.get? p.1 = some p.2 := fun p hp =>
    d.recurringSchedule.mem_rows_iff.mp (List.mem_of_mem_filter hp)
  have hmem : ∀ i, i ∈ (d.dueSchedules t).map Prod.fst ↔
      (d.recurringSchedule.get? i).any (·.isDue t) = true := by
    intro i
    rw [List.mem_map, Option.any_eq_true]
    constructor
    · rintro ⟨p, hp, rfl⟩
      exact ⟨p.2, hthere p hp, (List.mem_filter.mp hp).2⟩
    · rintro ⟨s, hs, hdue⟩
      exact ⟨(i, s), List.mem_filter.mpr ⟨d.recurringSchedule.mem_rows_iff.mpr hs, hdue⟩, rfl⟩
  obtain ⟨d', hvisits, hrows, hcounts⟩ := visits_run d t hnodup hthere
  refine ⟨(d.dueSchedules t).length, d', ?_, fun i => ?_, fun i => ?_⟩
  · rw [processDueSchedules, Prog.pure_bind, Prog.run_bind_ok (Prisma.run_query d _ _),
      Prog.run_bind_ok hvisits]
    rfl
  · rw [hrows]
    cases hs : d.recurringSchedule.get? i with
    | none => rfl
    | some s =>
      rw [Option.map_some, Option.map_some]
      refine congrArg some (if_congr ?_ rfl rfl)
      rw [hmem, hs]
      rfl
  · rw [hcounts]
    exact congrArg _ (if_congr (hmem i) rfl rfl)

end RecurringService

/-! ## Every run -/

/-- A call; each one takes place at one time. -/
inductive RecurringOp
  | setup (caseId : Id) (cadenceDays : ℕ)
  | setActive (caseId : Id) (active : Bool)
  | processDueSchedules
deriving DecidableEq, Repr

namespace RecurringOp

def step (d : Db) (o : Time × RecurringOp) : Db :=
  match o.2 with
  | setup caseId cadenceDays => (RecurringService.setup (pure o.1) caseId cadenceDays).exec d
  | setActive caseId active => (RecurringService.setActive (pure o.1) caseId active).exec d
  | processDueSchedules => (RecurringService.processDueSchedules (pure o.1)).exec d

end RecurringOp

/-- A stopwatch for the schedule after a call at `t`: a case that has come from the schedule puts it
back, and it runs while the schedule is active. -/
def timed (i : Id) (t : Time) (d d' : Db) (w : Stopwatch) : Stopwatch :=
  (if d.visitCount i < d'.visitCount i then w.reset t else w).turn t
    ((d'.recurringSchedule.get? i).any RecurringSchedule.active)

/-- The stopwatch for the schedule after a run. -/
def activeTime (i : Id) : Db → Stopwatch → List (Time × RecurringOp) → Stopwatch
  | _, w, [] => w
  | d, w, o :: os =>
      activeTime i (RecurringOp.step d o) (timed i o.1 d (RecurringOp.step d o) w) os

section Paced

variable {i : Id} {n : ℕ} {t u : Time} {w : Stopwatch} {d d' : Db} {s : RecurringSchedule}

/-- The schedule is there with its cadence, as a countdown that goes with the stopwatch. -/
structure Paced (i : Id) (n : ℕ) (t : Time) (w : Stopwatch) (d : Db) (s : RecurringSchedule) :
    Prop where
  row : d.recurringSchedule.get? i = some s
  cadenceDays : s.cadenceDays = n
  active : s.active = s.pausedAt.isNone
  counts : Counts s.cadence w ⟨s.nextRunAt, s.pausedAt⟩
  since : w.since ≤ t

/-- A call that leaves the schedule alone. -/
lemma Paced.of_same (h : Paced i n t w d s) (htu : t ≤ u)
    (hrow : d'.recurringSchedule.get? i = d.recurringSchedule.get? i)
    (hcount : d'.visitCount i = d.visitCount i) : Paced i n u (timed i u d d' w) d' s := by
  have hrow' : d'.recurringSchedule.get? i = some s := hrow.trans h.row
  have htimed : timed i u d d' w = w.turn u w.running := by
    rw [timed, hcount, if_neg (lt_irrefl _), hrow', Option.any_some, h.active, h.counts.running]
  rw [htimed]
  exact ⟨hrow', h.cadenceDays, h.active, h.counts.turn_running (h.since.trans htu), le_rfl⟩

/-- The schedule is paused, or goes on with what was left. -/
lemma Paced.switched (h : Paced i n t w d s) (htu : t ≤ u) {active : Bool}
    (hactive : active ≠ s.active)
    (hrow : d'.recurringSchedule.get? i = some (s.switched active u s))
    (hcount : d'.visitCount i = d.visitCount i) :
    Paced i n u (timed i u d d' w) d' (s.switched active u s) := by
  have htimed : timed i u d d' w = w.turn u active := by
    rw [timed, hcount, if_neg (lt_irrefl _), hrow, Option.any_some]
    rfl
  have hsince : w.since ≤ u := h.since.trans htu
  have hpaused := h.active
  refine ⟨hrow, h.cadenceDays, by cases active <;> rfl, ?_, by rw [htimed]; exact le_rfl⟩
  rw [htimed]
  cases active with
  | false =>
    rw [Bool.eq_true_of_not_eq_false (Ne.symm hactive), eq_comm, Option.isNone_iff_eq_none]
      at hpaused
    exact h.counts.pause hsince hpaused
  | true =>
    rw [Bool.eq_false_of_not_eq_true (Ne.symm hactive), eq_comm, Option.isNone_eq_false_iff,
      Option.isSome_iff_exists] at hpaused
    obtain ⟨pausedAt, hpausedAt⟩ := hpaused
    have hresume := h.counts.resume hsince
    have hnext : s.switchedRunAt true u = u + max 0 (s.nextRunAt - pausedAt) := by
      simp only [RecurringSchedule.switchedRunAt, hpausedAt]
    rw [Countdown.resume, Countdown.left, hpausedAt] at hresume
    show Counts s.cadence _ ⟨s.switchedRunAt true u, none⟩
    rw [hnext]
    exact hresume

/-- The schedule has been visited. -/
lemma Paced.visited (h : Paced i n t w d s) (hdue : s.isDue u = true)
    (hrow : d'.recurringSchedule.get? i = some (s.putForward u s))
    (hcount : d'.visitCount i = d.visitCount i + 1) :
    Paced i n u (timed i u d d' w) d' (s.putForward u s) := by
  have hactive : s.active = true := (of_decide_eq_true hdue).1
  have hpaused := h.active
  have hrunning : w.running = true := by rw [h.counts.running, ← h.active, hactive]
  have htimed : timed i u d d' w = (w.reset u).turn u (w.reset u).running := by
    rw [timed, hcount, if_pos (Nat.lt_succ_self _), hrow, Option.any_some]
    congr 1
    rw [Stopwatch.running_reset, hrunning]
    exact hactive
  rw [hactive, eq_comm, Option.isNone_iff_eq_none] at hpaused
  rw [htimed]
  refine ⟨hrow, h.cadenceDays, h.active, ?_, le_rfl⟩
  have hreset : Counts s.cadence (w.reset u) ⟨u + s.cadence, none⟩ := Counts.reset hrunning
  show Counts s.cadence _ ⟨u + s.cadence, s.pausedAt⟩
  rw [hpaused]
  exact hreset.turn_running le_rfl

/-- What a call makes of the schedule. -/
lemma Paced.step (h : Paced i n t w d s) (htu : t ≤ u) (o : RecurringOp) :
    ∃ s', Paced i n u (timed i u d (RecurringOp.step d (u, o)) w)
      (RecurringOp.step d (u, o)) s' := by
  cases o with
  | setup caseId cadenceDays =>
    rcases RecurringService.setup_run d u caseId cadenceDays with
      ⟨e, hrun⟩ | ⟨new, -, -, -, -, hrun⟩
    · have hstep : RecurringOp.step d (u, .setup caseId cadenceDays) = d := congrArg Prod.snd hrun
      rw [hstep]
      exact ⟨s, h.of_same htu rfl rfl⟩
    · have hstep : RecurringOp.step d (u, .setup caseId cadenceDays) =
          d.insertRow .recurringSchedule new := congrArg Prod.snd hrun
      rw [hstep]
      refine ⟨s, h.of_same htu ?_ rfl⟩
      exact (Table.get?_insert_of_some h.row new).trans h.row.symm
  | setActive caseId active =>
    rcases RecurringService.setActive_run d u caseId active with
      ⟨e, hrun⟩ | ⟨j, r, out, hr, hactive, hrun⟩
    · have hstep : RecurringOp.step d (u, .setActive caseId active) = d := congrArg Prod.snd hrun
      rw [hstep]
      exact ⟨s, h.of_same htu rfl rfl⟩
    · have hstep : RecurringOp.step d (u, .setActive caseId active) =
          d.modifyRow .recurringSchedule j (r.switched active u) := congrArg Prod.snd hrun
      rw [hstep]
      by_cases hij : i = j
      · subst hij
        obtain rfl : s = r := Option.some.inj (h.row.symm.trans hr)
        refine ⟨_, h.switched htu hactive ?_ rfl⟩
        show (d.recurringSchedule.modify i _).get? i = _
        rw [Table.get?_modify_self, h.row, Option.map_some]
      · exact ⟨s, h.of_same htu (Table.get?_modify_of_ne _ hij _) rfl⟩
  | processDueSchedules =>
    obtain ⟨m, d', hrun, hrows, hcounts⟩ := RecurringService.processDueSchedules_run d u
    have hstep : RecurringOp.step d (u, .processDueSchedules) = d' := congrArg Prod.snd hrun
    have hrow := hrows i
    have hcount := hcounts i
    rw [h.row, Option.map_some] at hrow
    rw [h.row, Option.any_some] at hcount
    rw [hstep]
    by_cases hdue : s.isDue u = true
    · rw [if_pos hdue] at hrow hcount
      exact ⟨_, h.visited hdue hrow hcount⟩
    · rw [if_neg hdue] at hrow hcount
      exact ⟨s, h.of_same htu (hrow.trans h.row.symm) hcount⟩

lemma Paced.run (h : Paced i n t w d s) {os : List (Time × RecurringOp)}
    (htimes : (t :: (os.map Prod.fst ++ [u])).Pairwise (· ≤ ·)) :
    ∃ s', Paced i n u (activeTime i d w os) (runFrom RecurringOp.step d os) s' := by
  induction os generalizing t w d s with
  | nil =>
    have htu : t ≤ u := (List.pairwise_cons.mp htimes).1 u (by simp)
    exact ⟨s, h.row, h.cadenceDays, h.active, h.counts, h.since.trans htu⟩
  | cons o os ih =>
    rw [List.map_cons, List.cons_append, List.pairwise_cons] at htimes
    obtain ⟨s', h'⟩ := h.step (htimes.1 o.1 List.mem_cons_self) o.2
    exact ih h' htimes.2

/-- The countdown is over when the sweep finds the schedule due. -/
lemma Paced.due_iff (h : Paced i n t w d s) :
    (i, s) ∈ d.dueSchedules t ↔ s.active = true ∧ s.cadence ≤ w.read t := by
  have hdue : (i, s) ∈ d.dueSchedules t ↔ s.isDue t = true := by
    rw [Db.dueSchedules, List.mem_filter, d.recurringSchedule.mem_rows_iff]
    exact and_iff_right h.row
  have hover := h.counts.over_iff h.since
  rw [h.counts.running, ← h.active] at hover
  rw [hdue, ← hover, RecurringSchedule.isDue, decide_eq_true_eq, h.active,
    Option.isNone_iff_eq_none]
  rfl

end Paced

/-- **A pause preserves what is left.**  After every run of calls at times that do not go back, the
next sweep finds a schedule due exactly if it is active and has been for its cadence, since it was
set up or since a case last came from it. -/
theorem due_iff_active_long_enough {d d' : Db} {caseId i : Id} {cadenceDays : ℕ} {t₀ t : Time}
    (hsetup : (RecurringService.setup (pure t₀) caseId cadenceDays).run d = (.ok i, d'))
    (os : List (Time × RecurringOp))
    (htimes : (t₀ :: (os.map Prod.fst ++ [t])).Pairwise (· ≤ ·)) :
    ∃ s, (runFrom RecurringOp.step d' os).recurringSchedule.get? i = some s ∧
      s.cadenceDays = cadenceDays ∧
      ((i, s) ∈ (runFrom RecurringOp.step d' os).dueSchedules t ↔
        s.active = true ∧ s.cadence ≤ (activeTime i d' (.started t₀) os).read t) := by
  rcases RecurringService.setup_run d t₀ caseId cadenceDays with
    ⟨e, hrun⟩ | ⟨s, hcadence, hactive, hnext, hpaused, hrun⟩
  · rw [hrun] at hsetup
    cases hsetup
  · rw [hrun] at hsetup
    cases hsetup
    have hpaced : Paced d.recurringSchedule.next cadenceDays t₀ (.started t₀)
        (d.insertRow .recurringSchedule s) s := by
      refine ⟨Table.get?_insert_self _ _, hcadence, by rw [hactive, hpaused]; rfl, ?_, le_rfl⟩
      rw [hnext, hpaused]
      exact Counts.started
    obtain ⟨s', h⟩ := hpaced.run htimes
    exact ⟨s', h.row, h.cadenceDays, h.due_iff⟩

/-- A case that is done. -/
def completedDb : Db where
  serviceCase := Table.empty.insert
    { customerId := 0, serviceType := .constructionSupervision, description := "Monthly visit"
      location := "Epe", status := .completed }

/-- A week's schedule is paused after four days, for ten days, and visited when it is due. -/
def pausedRun : List (Time × RecurringOp) :=
  [(345600000, .setActive 0 false), (1209600000, .setActive 0 true),
    (1400000000, .processDueSchedules), (1468800000, .processDueSchedules)]

theorem due_iff_active_long_enough_paused :
    ∃ s, (runFrom RecurringOp.step ((RecurringService.setup (pure 0) 0 7).exec completedDb)
        pausedRun).recurringSchedule.get? 0 = some s ∧ s.cadenceDays = 7 ∧
      ((0, s) ∈ (runFrom RecurringOp.step
          ((RecurringService.setup (pure 0) 0 7).exec completedDb) pausedRun).dueSchedules
            2073600000 ↔
        s.active = true ∧ s.cadence ≤ (activeTime 0
          ((RecurringService.setup (pure 0) 0 7).exec completedDb) (.started 0) pausedRun).read
            2073600000) :=
  due_iff_active_long_enough
    (show (RecurringService.setup (pure 0) 0 7).run completedDb =
      (.ok 0, (RecurringService.setup (pure 0) 0 7).exec completedDb) from
        Prod.ext (by decide +kernel) rfl)
    pausedRun (by decide)

end Asoju
