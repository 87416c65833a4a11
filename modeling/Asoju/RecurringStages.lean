/-
What the calls on recurring schedules do to the cases that come from them, step by step.

A sweep opens the cases of the schedules that it has found due one after the other, and puts each
schedule forward after its case; a pause reads the schedule and writes it back.  `RecurringMove`
says what each action may do, and `follows_recurring` that every call keeps to it.

Audit events and notifications write no schedule and no case.
-/
import Asoju.Protocols
import Asoju.Recurring

namespace Asoju

open Lib

/-- A call, or the passing of time. -/
inductive RecurringCall
  | processDueSchedules
  | setActive (caseId : Id) (active : Bool)
  | elapse (ms : ℕ)
deriving DecidableEq, Repr

def RecurringCall.code : RecurringCall → Svc Unit
  | processDueSchedules => do let _ ← RecurringService.processDueSchedules Prisma.now
  | setActive caseId active => do let _ ← RecurringService.setActive Prisma.now caseId active
  | elapse ms => .write .now fun d => { d with clock := d.clock + ms }

abbrev RecurringThread := Thread Db Act HttpError Unit RecurringCall

abbrev RecurringPool := Pool Db Act HttpError Unit RecurringCall

/-! ## Visits -/

namespace Db

variable (d d' : Db)

/-- The schedule that the case has come from, and when. -/
def visitOf (caseId : Id) : Option (Id × Time) :=
  (d.serviceCase.get? caseId).bind fun c => c.spawnedFromScheduleId.map fun i => (i, c.createdAt)

/-- Two cases that come from one schedule are at least its cadence apart. -/
def Spaced : Prop :=
  ∀ i s, d.recurringSchedule.get? i = some s → ∀ j k t u, d.visitOf j = some (i, t) →
    d.visitOf k = some (i, u) → j ≠ k → s.cadence ≤ |t - u|

/-- The next visit of the schedule is at least its cadence after all earlier ones. -/
def Covered (i : Id) : Prop :=
  ∀ s, d.recurringSchedule.get? i = some s → ∀ k t, d.visitOf k = some (i, t) →
    t + s.cadence ≤ s.nextRunAt

/-- Visits keep their distance, and no visit and no pause lies in the future. -/
structure Regular : Prop where
  spaced : d.Spaced
  visited : ∀ k i t, d.visitOf k = some (i, t) → t ≤ d.clock
  paused : ∀ i s, d.recurringSchedule.get? i = some s → ∀ t ∈ s.pausedAt, t ≤ d.clock

/-- A database on which no call is working: every schedule has been put forward after its last
visit. -/
structure Rested : Prop extends d.Regular where
  covered : ∀ i, d.Covered i

/-- Time has not gone back, and the schedules have the cadences that they had. -/
structure Later : Prop where
  clock : d.clock ≤ d'.clock
  cadence : ∀ i s', d'.recurringSchedule.get? i = some s' →
    ∃ s, d.recurringSchedule.get? i = some s ∧ s'.cadence = s.cadence

/-- No case comes from a schedule or leaves it. -/
def SameVisits : Prop := ∀ k, d'.visitOf k = d.visitOf k

/-- A case is opened for the schedule, and nothing is done to the schedules. -/
structure OpensVisit (i : Id) : Prop where
  schedules : d'.recurringSchedule = d.recurringSchedule
  visits : ∀ k, d'.visitOf k =
    if k = d.serviceCase.next then some (i, d.clock) else d.visitOf k
  clock : d.clock ≤ d'.clock

/-- The schedule is changed, and nothing is done to the cases. -/
structure ChangesSchedule (i : Id) (f : RecurringSchedule → RecurringSchedule) : Prop where
  schedules : d'.recurringSchedule = d.recurringSchedule.modify i f
  visits : d.SameVisits d'
  clock : d.clock ≤ d'.clock

/-- Nothing is done to the schedules or to the cases that come from them. -/
structure LeavesVisits : Prop where
  schedules : d'.recurringSchedule = d.recurringSchedule
  visits : d.SameVisits d'
  clock : d.clock ≤ d'.clock

variable {d d'}

lemma LeavesVisits.refl : d.LeavesVisits d := ⟨rfl, fun _ => rfl, le_rfl⟩

/-- A change of a case that leaves where it comes from alone. -/
lemma leavesVisits_modifyCase (i : Id) {f : ServiceCase → ServiceCase}
    (hf : ∀ c, (f c).spawnedFromScheduleId = c.spawnedFromScheduleId ∧
      (f c).createdAt = c.createdAt) : d.LeavesVisits (d.modifyRow .serviceCase i f) := by
  refine ⟨rfl, fun k => ?_, d.le_tick⟩
  show ((d.serviceCase.modify i f).get? k).bind _ = (d.serviceCase.get? k).bind _
  rw [Table.get?_modify]
  by_cases hk : k = i
  · subst hk
    rw [if_pos rfl]
    cases d.serviceCase.get? k with
    | none => rfl
    | some c => simp only [Option.map_some, Option.bind_some, (hf c).1, (hf c).2]
  · rw [if_neg hk]

/-- The opening of a case that comes from a schedule. -/
lemma opensVisit_insertCase {i : Id} {c : ServiceCase} (hc : c.spawnedFromScheduleId = some i)
    (hcreated : c.createdAt = d.clock) : d.OpensVisit (d.insertRow .serviceCase c) i := by
  refine ⟨rfl, fun k => ?_, d.le_tick⟩
  show ((d.serviceCase.insert c).get? k).bind _ = _
  rw [Table.get?_insert]
  by_cases hk : k = d.serviceCase.next
  · rw [if_pos hk, if_pos hk, Option.bind_some, hc, hcreated, Option.map_some]
  · rw [if_neg hk, if_neg hk]
    rfl

variable {i : Id} {s : RecurringSchedule} {f : RecurringSchedule → RecurringSchedule}

lemma LeavesVisits.later (h : d.LeavesVisits d') : d.Later d' :=
  ⟨h.clock, fun _ s' hs' => ⟨s', h.schedules ▸ hs', rfl⟩⟩

lemma OpensVisit.later (h : d.OpensVisit d' i) : d.Later d' :=
  ⟨h.clock, fun _ s' hs' => ⟨s', h.schedules ▸ hs', rfl⟩⟩

lemma ChangesSchedule.later (h : d.ChangesSchedule d' i f)
    (hf : ∀ s, (f s).cadence = s.cadence) : d.Later d' := by
  refine ⟨h.clock, fun j s' hs' => ?_⟩
  rw [h.schedules, Table.get?_modify] at hs'
  by_cases hj : j = i
  · rw [if_pos hj, Option.map_eq_some_iff] at hs'
    obtain ⟨s, hs, rfl⟩ := hs'
    exact ⟨s, hs, hf s⟩
  · rw [if_neg hj] at hs'
    exact ⟨s', hs', rfl⟩

/-- Where no case is opened, the visits are as far apart as they were. -/
lemma Spaced.of_same (h : d.Spaced) (hlater : d.Later d') (hvisits : d.SameVisits d') :
    d'.Spaced := by
  intro j s' hs' k l t u hk hl hne
  obtain ⟨s, hs, hcadence⟩ := hlater.cadence j s' hs'
  rw [hvisits] at hk hl
  rw [hcadence]
  exact h j s hs k l t u hk hl hne

/-- A visit of a schedule that is due is far enough from all earlier ones. -/
lemma Spaced.opened (h : d.Spaced) (hcovered : d.Covered i) (hopens : d.OpensVisit d' i)
    (hs : d.recurringSchedule.get? i = some s) (hdue : s.nextRunAt ≤ d.clock) : d'.Spaced := by
  -- the earlier visits are over by the time that the schedule is due
  have hfar : ∀ k u, d.visitOf k = some (i, u) → s.cadence ≤ d.clock - u := by
    intro k u hk
    have hnext := hcovered s hs k u hk
    linarith
  intro j s' hs' k l t u hk hl hne
  rw [hopens.schedules] at hs'
  rw [hopens.visits] at hk hl
  by_cases hknew : k = d.serviceCase.next
  · rw [if_pos hknew] at hk
    rw [if_neg fun hlnew => hne (hknew.trans hlnew.symm)] at hl
    obtain ⟨rfl, rfl⟩ := Prod.mk.inj (Option.some.inj hk)
    obtain rfl := Option.some.inj (hs.symm.trans hs')
    exact (hfar l u hl).trans (le_abs_self _)
  · rw [if_neg hknew] at hk
    by_cases hlnew : l = d.serviceCase.next
    · rw [if_pos hlnew] at hl
      obtain ⟨rfl, rfl⟩ := Prod.mk.inj (Option.some.inj hl)
      obtain rfl := Option.some.inj (hs.symm.trans hs')
      rw [abs_sub_comm]
      exact (hfar k t hk).trans (le_abs_self _)
    · rw [if_neg hlnew] at hl
      exact h j s' hs' k l t u hk hl hne

/-- A schedule that is left alone, with its visits. -/
lemma Covered.of_same (h : d.Covered i)
    (hrow : d'.recurringSchedule.get? i = d.recurringSchedule.get? i)
    (hvisits : ∀ k t, d'.visitOf k = some (i, t) → d.visitOf k = some (i, t)) :
    d'.Covered i := by
  intro s hs k t hk
  rw [hrow] at hs
  exact h s hs k t (hvisits k t hk)

/-- A change of a schedule that does not put the next visit back. -/
lemma Covered.changed (h : d.Covered i) {j : Id} (hchange : d.ChangesSchedule d' j f)
    (hf : ∀ s, d.recurringSchedule.get? j = some s →
      (f s).cadence = s.cadence ∧ s.nextRunAt ≤ (f s).nextRunAt) : d'.Covered i := by
  intro s' hs' k t hk
  rw [hchange.visits] at hk
  rw [hchange.schedules, Table.get?_modify] at hs'
  by_cases hij : i = j
  · subst hij
    rw [if_pos rfl, Option.map_eq_some_iff] at hs'
    obtain ⟨s, hs, rfl⟩ := hs'
    have hcovered := h s hs k t hk
    obtain ⟨hcadence, hnext⟩ := hf s hs
    linarith
  · rw [if_neg hij] at hs'
    exact h s' hs' k t hk

namespace Regular

lemma leaves (h : d.Regular) (hleaves : d.LeavesVisits d') : d'.Regular where
  spaced := h.spaced.of_same hleaves.later hleaves.visits
  visited k i t hk := (h.visited k i t (hleaves.visits k ▸ hk)).trans hleaves.clock
  paused i s hs t ht := (h.paused i s (hleaves.schedules ▸ hs) t ht).trans hleaves.clock

lemma opens (h : d.Regular) (hcovered : d.Covered i) (hopens : d.OpensVisit d' i)
    (hs : d.recurringSchedule.get? i = some s) (hdue : s.nextRunAt ≤ d.clock) : d'.Regular where
  spaced := h.spaced.opened hcovered hopens hs hdue
  visited k j t hk := by
    rw [hopens.visits] at hk
    split_ifs at hk
    · obtain ⟨rfl, rfl⟩ := Prod.mk.inj (Option.some.inj hk)
      exact hopens.clock
    · exact (h.visited k j t hk).trans hopens.clock
  paused j s hs t ht := (h.paused j s (hopens.schedules ▸ hs) t ht).trans hopens.clock

lemma changes (h : d.Regular) (hchange : d.ChangesSchedule d' i f)
    (hcadence : ∀ s, (f s).cadence = s.cadence)
    (hpaused : ∀ s, d.recurringSchedule.get? i = some s → ∀ t ∈ (f s).pausedAt, t ≤ d.clock) :
    d'.Regular where
  spaced := h.spaced.of_same (hchange.later hcadence) hchange.visits
  visited k j t hk := (h.visited k j t (hchange.visits k ▸ hk)).trans hchange.clock
  paused j s' hs' t ht := by
    rw [hchange.schedules, Table.get?_modify] at hs'
    refine le_trans ?_ hchange.clock
    by_cases hj : j = i
    · subst hj
      rw [if_pos rfl, Option.map_eq_some_iff] at hs'
      obtain ⟨s, hs, rfl⟩ := hs'
      exact hpaused s hs t ht
    · rw [if_neg hj] at hs'
      exact h.paused j s' hs' t ht

end Regular

end Db

/-! ## The stages of a call -/

/-- Where a call stands. -/
inductive RecurringStage
  | sweeping
  /-- The clock has been read. -/
  | timed (now : Time)
  /-- These schedules have been found due, and are still to be visited. -/
  | visiting (due : List (Id × RecurringSchedule))
  /-- The case of a schedule has been opened. -/
  | opened (q : Id × RecurringSchedule) (due : List (Id × RecurringSchedule))
  /-- The schedule is going to be put forward from this time on. -/
  | forwarding (q : Id × RecurringSchedule) (now : Time) (due : List (Id × RecurringSchedule))
  | asking (caseId : Id) (active : Bool)
  /-- The schedule has been read. -/
  | holding (q : Id × RecurringSchedule) (active : Bool)
  /-- The schedule is going to be switched on or off at this time. -/
  | switching (q : Id × RecurringSchedule) (active : Bool) (now : Time)
  | ended
deriving DecidableEq

namespace RecurringStage

def init : RecurringCall → RecurringStage
  | .processDueSchedules => sweeping
  | .setActive caseId active => asking caseId active
  | .elapse _ => ended

/-- The stage that an action leads to. -/
def next : RecurringStage → Act → Db → RecurringStage
  | sweeping, .now, s => timed s.clock
  | timed now, .find _, s => visiting (s.dueSchedules now)
  | visiting due, .create .serviceCase, _ =>
      match due with
      | [] => visiting []
      | q :: due => opened q due
  | opened q due, .now, s => forwarding q s.clock due
  | forwarding _ _ due, .update .recurringSchedule, _ => visiting due
  | asking caseId active, .find _, s => ((s.scheduleOf caseId).map (holding · active)).getD ended
  | holding q active, .now, s => switching q active s.clock
  | switching .., .update .recurringSchedule, _ => ended
  | stage, _, _ => stage

/-- The schedule that a visit is under way of. -/
def underway : RecurringStage → Option Id
  | opened q _ | forwarding q _ _ => some q.1
  | _ => none

/-- The schedule that the next action opens a case for, as it has been read. -/
def opening : RecurringStage → Option Act → Option (Id × RecurringSchedule)
  | visiting (q :: _), some (.create .serviceCase) => some q
  | _, _ => none

/-- The schedule that the next action switches on or off, as it has been read. -/
def rewriting : RecurringStage → Option Act → Option (Id × RecurringSchedule)
  | switching q _ _, some (.update .recurringSchedule) => some q
  | _, _ => none

end RecurringStage

/-- What an action may do, and the stages that it connects. -/
inductive RecurringMove (s s' : Db) : RecurringStage → Act → RecurringStage → Prop
  | stays {stage : RecurringStage} {l : Act} (h : s.LeavesVisits s') :
      RecurringMove s s' stage l stage
  | timed {l : Act} (h : s.LeavesVisits s') : RecurringMove s s' .sweeping l (.timed s.clock)
  | found {now : Time} {l : Act} (h : s.LeavesVisits s') :
      RecurringMove s s' (.timed now) l (.visiting (s.dueSchedules now))
  | opened {q : Id × RecurringSchedule} {due : List (Id × RecurringSchedule)}
      (h : s.OpensVisit s' q.1) :
      RecurringMove s s' (.visiting (q :: due)) (.create .serviceCase) (.opened q due)
  | dated {q : Id × RecurringSchedule} {due : List (Id × RecurringSchedule)} {l : Act}
      (h : s.LeavesVisits s') :
      RecurringMove s s' (.opened q due) l (.forwarding q s.clock due)
  | forwarded {q : Id × RecurringSchedule} {now : Time} {due : List (Id × RecurringSchedule)}
      {l : Act} (h : s.ChangesSchedule s' q.1 (q.2.putForward now)) :
      RecurringMove s s' (.forwarding q now due) l (.visiting due)
  | asked {caseId : Id} {active : Bool} {q : Id × RecurringSchedule} {l : Act}
      (h : s.LeavesVisits s') (hq : s.scheduleOf caseId = some q) :
      RecurringMove s s' (.asking caseId active) l (.holding q active)
  | missing {caseId : Id} {active : Bool} {l : Act} (h : s.LeavesVisits s') :
      RecurringMove s s' (.asking caseId active) l .ended
  | held {q : Id × RecurringSchedule} {active : Bool} {l : Act} (h : s.LeavesVisits s') :
      RecurringMove s s' (.holding q active) l (.switching q active s.clock)
  | switched {q : Id × RecurringSchedule} {active : Bool} {now : Time}
      (h : s.ChangesSchedule s' q.1 (q.2.switched active now)) :
      RecurringMove s s' (.switching q active now) (.update .recurringSchedule) .ended

/-- The protocol of a call. -/
def RecurringCall.protocol (c : RecurringCall) : Protocol Db Act RecurringStage where
  relies _ := True
  init := .init c
  next := .next
  allows stage l s s' := RecurringMove s s' stage l (stage.next l s)
  final _ := True

/-! ## Every call keeps to its protocol -/

section Follows

variable {c : RecurringCall} {q : Id × RecurringSchedule} {due : List (Id × RecurringSchedule)}

/-- The tasks of a case belong to no schedule. -/
lemma leavesVisits_createTasks (s : Db) (tasks : List CaseTask) :
    s.LeavesVisits (tasks.foldl (fun d task => d.insertRow .caseTask task) s) := by
  obtain ⟨t, u, hclock, heq⟩ := createMany_caseTask_eq s tasks
  rw [heq]
  exact ⟨rfl, fun _ => rfl, hclock⟩

/-- A visit opens a case, and then puts the schedule forward. -/
lemma follows_visit {k : Unit → Svc Unit} (hk : c.protocol.Follows (.visiting due) (k ())) :
    c.protocol.Follows (.visiting (q :: due)) (RecurringService.visit Prisma.now q >>= k) := by
  rw [RecurringService.visit, CasesService.spawnCaseFromSchedule]
  simp only [Prog.bind_assoc, Prog.pure_bind]
  refine Prisma.follows_create_bind fun s _ => ⟨.opened (Db.opensVisit_insertCase rfl rfl), ?_⟩
  -- what is left to do about the case does not say where it comes from
  refine Prisma.follows_update_or_fail_bind fun s _ => ⟨.stays ?_, trivial, fun _ => ?_⟩
  · exact Db.leavesVisits_modifyCase _ fun _ => ⟨rfl, rfl⟩
  refine Protocol.Follows.atom_bind _ fun s _ => ⟨.stays (leavesVisits_createTasks s _), ?_⟩
  refine Prisma.follows_create_bind fun s _ => ⟨.stays ⟨rfl, fun _ => rfl, s.le_tick⟩, ?_⟩
  refine Protocol.Follows.atom_bind _ fun s _ => ⟨.stays .refl, ?_⟩
  refine Protocol.Follows.read_bind _ fun s _ => ⟨.dated .refl, ?_⟩
  refine Prisma.follows_update_or_fail_bind fun s _ => ⟨.forwarded ?_, trivial, fun _ => ?_⟩
  · exact ⟨rfl, fun _ => rfl, s.le_tick⟩
  · refine Protocol.Follows.atom_bind _ fun s _ => ⟨.stays .refl, ?_⟩
    exact hk

/-- The visits of a sweep. -/
lemma follows_visits {k : Unit → Svc Unit} (hk : c.protocol.Follows (.visiting []) (k ()))
    (due : List (Id × RecurringSchedule)) :
    c.protocol.Follows (.visiting due)
      (due.forM (RecurringService.visit Prisma.now) >>= k) := by
  induction due with
  | nil => exact hk
  | cons q due ih =>
    show Protocol.Follows _ _ ((RecurringService.visit Prisma.now q >>= fun _ =>
      due.forM (RecurringService.visit Prisma.now)) >>= k)
    rw [Prog.bind_assoc]
    exact follows_visit ih

lemma follows_setActive (caseId : Id) (active : Bool) :
    c.protocol.Follows (.asking caseId active) (RecurringCall.code (.setActive caseId active)) := by
  rw [RecurringCall.code, RecurringService.setActive]
  simp only [Prog.bind_assoc]
  refine Prisma.follows_query_bind fun s _ => ?_
  cases hq : s.scheduleOf caseId with
  | none =>
    refine ⟨?_, ?_⟩
    · show RecurringMove s s _ _ (((s.scheduleOf caseId).map _).getD _)
      rw [hq]
      exact .missing .refl
    · trivial
  | some q =>
    have hnext : RecurringStage.next (.asking caseId active) (.find .recurringSchedule) s =
        .holding q active := by
      show ((s.scheduleOf caseId).map _).getD _ = _
      rw [hq]
      rfl
    refine ⟨?_, ?_⟩
    · show RecurringMove s s _ _ (RecurringStage.next _ _ _)
      rw [hnext]
      exact .asked .refl hq
    · show c.protocol.Follows (.next (.asking caseId active) (.find .recurringSchedule) s) _
      rw [hnext]
      dsimp only
      by_cases hsame : active = q.2.active
      · rw [if_pos hsame]
        trivial
      · rw [if_neg hsame]
        simp only [Prog.bind_assoc]
        refine Protocol.Follows.read_bind _ fun s _ => ⟨.held .refl, ?_⟩
        refine Prisma.follows_update_or_fail_bind fun s _ => ⟨.switched ?_, trivial, fun _ => ?_⟩
        · exact ⟨rfl, fun _ => rfl, s.le_tick⟩
        · exact Protocol.Follows.atom_bind _ fun s _ => ⟨.stays .refl, trivial⟩

lemma follows_recurring (c : RecurringCall) : c.protocol.Follows c.protocol.init c.code := by
  cases c with
  | processDueSchedules =>
    show (RecurringCall.protocol .processDueSchedules).Follows .sweeping _
    rw [RecurringCall.code, RecurringService.processDueSchedules]
    simp only [Prog.bind_assoc]
    refine Protocol.Follows.read_bind _ fun s _ => ⟨.timed .refl, ?_⟩
    refine Prisma.follows_query_bind fun s _ => ⟨.found .refl, ?_⟩
    refine follows_visits ?_ _
    trivial
  | setActive caseId active => exact follows_setActive caseId active
  | elapse ms => exact fun s _ => ⟨.stays ⟨rfl, fun _ => rfl, by simp⟩, trivial⟩

end Follows

end Asoju
