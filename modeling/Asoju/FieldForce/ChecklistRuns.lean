/-
Checklist updates of one mission, interleaved.

`PATCH /api/missions` reads the mission of a case and writes the whole checklist back, with the item
that it names ticked or not, and the counters of what it writes.  An update that has read the mission
before another one wrote it puts the items of the other one back to what they were.

`kept_iff`: at every moment the items are as the updates say in the order of their writes, exactly if
at each write the items that it does not name are still ticked as the update has read them.
-/
import Asoju.FieldForce.Missions
import Asoju.Lib.ClientSteps
import Asoju.Lib.Overwrite
import Asoju.Lib.Window

namespace Asoju.FieldForce

open Lib

namespace Checklist

/-! ## The checklist after an update -/

/-- Whether the item with this id is completed, if there is one. -/
def flag (id : String) (checklist : List ChecklistItem) : Option Bool :=
  (checklist.find? fun item => item.id = id).map ChecklistItem.completed

lemma flag_cons (id : String) (item : ChecklistItem) (items : List ChecklistItem) :
    flag id (item :: items) = if item.id = id then some item.completed else flag id items := by
  rw [flag, List.find?_cons]
  by_cases h : item.id = id
  · simp [h]
  · simp [h, flag]

/-- What an update makes of the flag of an item. -/
def Update.mark (r : Update) (id : String) (completed : Bool) : Bool :=
  if nonEmpty r.checklistId = some id then r.completed else completed

lemma map_id_tickFirst (r : Update) (id : String) (checklist : List ChecklistItem) :
    (tickFirst r id checklist).map ChecklistItem.id = checklist.map ChecklistItem.id := by
  induction checklist with
  | nil => rfl
  | cons item items ih =>
    rw [tickFirst]
    split
    · rfl
    · rw [List.map_cons, ih, List.map_cons]

lemma map_id_ticked (r : Update) (checklist : List ChecklistItem) :
    (ticked r checklist).map ChecklistItem.id = checklist.map ChecklistItem.id := by
  rw [ticked]
  split
  · exact map_id_tickFirst r _ checklist
  · rfl

lemma flag_tickFirst (r : Update) (id other : String) (checklist : List ChecklistItem) :
    flag other (tickFirst r id checklist) =
      (flag other checklist).map fun b => if id = other then r.completed else b := by
  induction checklist with
  | nil => rfl
  | cons item items ih =>
    rw [tickFirst, flag_cons]
    by_cases hid : item.id = id
    · rw [if_pos hid, flag_cons]
      have htick : (tick r item).id = item.id := rfl
      rw [htick, hid]
      by_cases hother : id = other
      · rw [if_pos hother, if_pos hother]
        simp only [Option.map_some, if_pos hother]
        rfl
      · rw [if_neg hother, if_neg hother]
        simp [hother]
    · rw [if_neg hid, flag_cons, ih]
      by_cases hother : item.id = other
      · -- The item in question is not the one that is ticked.
        have hne : ¬ id = other := fun h => hid (hother.trans h.symm)
        rw [if_pos hother, if_pos hother, Option.map_some, if_neg hne]
      · rw [if_neg hother, if_neg hother]

/-- **An update ticks the item that it names, and no other one.** -/
lemma flag_ticked (r : Update) (id : String) (checklist : List ChecklistItem) :
    flag id (ticked r checklist) = (flag id checklist).map (r.mark id) := by
  rw [ticked]
  cases hname : nonEmpty r.checklistId with
  | none =>
    have hmark : r.mark id = fun b => b := funext fun b => by rw [Update.mark, hname]; rfl
    rw [hmark, Option.map_id']
  | some name =>
    have hmark : r.mark id = fun b => if name = id then r.completed else b :=
      funext fun b => by rw [Update.mark, hname]; simp only [Option.some.injEq]
    rw [hmark]
    exact flag_tickFirst r name id checklist

/-! ## The calls -/

/-- An update of the mission of a case. -/
structure TickCall where
  agentId : Id
  update : Update
deriving DecidableEq, Repr

/-- The request of a call. -/
def TickCall.request (caseId : Id) (c : TickCall) : Update :=
  { c.update with caseId := some caseId }

def TickCall.code (caseId : Id) (c : TickCall) : Svc (Reply Updated) :=
  PATCH c.agentId (c.request caseId)

/-- What an update makes of the mission that is there, having read `read`. -/
def overwrite (r : Update) (read mission : Option (Id × Mission)) : Option (Id × Mission) :=
  match read with
  | some (missionId, m) =>
      mission.map fun q => (q.1, if q.1 = missionId then progress r m q.2 else q.2)
  | none => mission

/-- The updates as calls that overwrite the mission of a case. -/
def overwriting (caseId : Id) : Overwriting Db (Access Model) TickCall (Option (Id × Mission)) where
  view := Db.missions.find (isMissionOf caseId)
  relies := fun _ => True
  reads := fun l => l = .find .mission
  writes := fun l => l = .update .mission
  ready := fun c read => ∃ missionId m, read = some (missionId, m) ∧ m.agentId = c.agentId ∧
    m.workflowState ∈ activeStates
  result := fun c => overwrite (c.request caseId)

/-- A step that leaves the missions alone. -/
def Aside (l : Access Model) (d d' : Db) : Prop :=
  d'.mission = d.mission ∧ l ≠ .find .mission ∧ l ≠ .update .mission

section Protocol

variable {caseId : Id} {c : TickCall} {α : Type}

lemma aside_allows {g : Grip (Option (Id × Mission))} {l : Access Model} {d d' : Db}
    (h : Aside l d d') :
    ((overwriting caseId).protocol c).allows g l d d' ∧
      ((overwriting caseId).protocol c).next g l d = g := by
  obtain ⟨hsame, hfind, hupdate⟩ := h
  have hview : (overwriting caseId).view d' = (overwriting caseId).view d := by
    change (d'.mission.rows.find? _) = d.mission.rows.find? _
    rw [hsame]
  have hwrites : (overwriting caseId).writes l = false := decide_eq_false hupdate
  have hreads : (overwriting caseId).reads l = false := decide_eq_false hfind
  cases g with
  | begun => exact ⟨⟨hwrites, hview⟩, by simp [Overwriting.protocol, Overwriting.next, hreads]⟩
  | holds x =>
    refine ⟨?_, by simp [Overwriting.protocol, Overwriting.next, hwrites]⟩
    change if (overwriting caseId).writes l then _ else _
    rw [hwrites, if_neg Bool.false_ne_true]
    exact hview
  | ended => exact ⟨⟨hwrites, hview⟩, rfl⟩

/-- How a call ends does not matter. -/
def Whatever {β : Type} (_ : Grip (Option (Id × Mission))) (_ : Except Failure β) : Prop := True

lemma leads_aside {g : Grip (Option (Id × Mission))} {m : Svc α} (h : m.EachStep Aside) :
    ((overwriting caseId).protocol c).Leads Whatever g m :=
  .of_eachStep h (fun _ _ _ => aside_allows) trivial fun _ => trivial

lemma eachStep_beginSync (agentId : Id) (key : Option String) :
    (Transitions.beginSync agentId caseId key).EachStep Aside := by
  cases key with
  | none => exact .pure false
  | some k =>
    refine .bind (Client.eachStep_query fun d => ⟨rfl, by decide, by decide⟩) fun existing => ?_
    split
    · exact .pure true
    · exact .bind (Client.eachStep_upsert (fun i d => ⟨rfl, by decide, by decide⟩)
        fun d => ⟨rfl, by decide, by decide⟩) fun _ => .pure false

lemma eachStep_endSync (key : Option String) : (Transitions.endSync key).EachStep Aside := by
  cases key with
  | none => exact .pure ()
  | some k =>
    exact Client.eachStep_updateUnique (fun d => ⟨rfl, by decide, by decide⟩)
      fun i d => ⟨rfl, by decide, by decide⟩

/-- What a write does to the mission. -/
lemma view_modify (missionId : Id) (r : Update) (m : Mission) (d : Db) :
    (overwriting caseId).view (Db.missions.modify missionId (progress r m) d) =
      overwrite r (some (missionId, m)) ((overwriting caseId).view d) :=
  Table.find?_mapRows d.mission fun j b => by
    split
    · rfl
    · rfl

/-- The write of a call that has found the mission, and what follows. -/
lemma leads_write {missionId : Id} {m : Mission} (hagent : m.agentId = c.agentId)
    (hactive : m.workflowState ∈ activeStates) {f : Unit → Svc α} (hf : (f ()).EachStep Aside) :
    ((overwriting caseId).protocol c).Leads Whatever (.holds (some (missionId, m)))
      (Client.update Db.missions .recordNotFound missionId (progress (c.request caseId) m) >>=
        f) := by
  refine Protocol.Leads.atom_bind fun d _ => ⟨?_, ?_⟩
  · exact ⟨⟨missionId, m, rfl, hagent, hactive⟩, view_modify missionId _ m d⟩
  · change ((overwriting caseId).protocol c).Leads Whatever .ended
      ((if ((Db.missions.get d).get? missionId).isSome then Prog.ret ()
        else Prog.fail Failure.recordNotFound) >>= f)
    split
    · exact leads_aside hf
    · exact .fail trivial trivial

lemma leads_update :
    ((overwriting caseId).protocol c).Leads Whatever .begun
      (update c.agentId caseId (c.request caseId)) := by
  rw [update]
  refine Protocol.Leads.atom_bind fun d _ => ⟨⟨rfl, rfl⟩, ?_⟩
  change ((overwriting caseId).protocol c).Leads Whatever
    (.holds (Db.missions.find (isMissionOf caseId) d)) _
  cases hfind : Db.missions.find (isMissionOf caseId) d with
  | none => exact .ret trivial trivial
  | some q =>
    change ((overwriting caseId).protocol c).Leads Whatever (.holds (some q))
      (ite (q.2.agentId ≠ c.agentId) _ _)
    by_cases hagent : q.2.agentId ≠ c.agentId
    · rw [if_pos hagent]
      exact .ret trivial trivial
    rw [if_neg hagent]
    by_cases hactive : q.2.workflowState ∉ activeStates
    · rw [if_pos hactive]
      exact .ret trivial trivial
    rw [if_neg hactive]
    refine leads_write (not_not.mp hagent) (not_not.mp hactive) ?_
    refine .bind (.bind (Client.eachStep_create fun d => ⟨rfl, by decide, by decide⟩)
      fun _ => .pure ()) fun _ => ?_
    exact .bind (eachStep_endSync _) fun _ => .pure _

lemma code_follows (c : TickCall) :
    ((overwriting caseId).protocol c).Follows .begun (c.code caseId) := by
  have hprocess : ((overwriting caseId).protocol c).Leads Whatever .begun
      (process c.agentId (c.request caseId)) := by
    refine Protocol.Leads.bind_eachStep (eachStep_beginSync _ _) (fun _ _ _ => aside_allows)
      trivial (fun _ => trivial) fun alreadySynced => ?_
    cases alreadySynced with
    | true => exact .ret trivial trivial
    | false => exact leads_update
  exact (Protocol.Leads.tryCatch_pure (Q := Whatever) hprocess (fun _ _ _ => trivial)
    fun _ _ _ => trivial).1

end Protocol

/-! ## What the calls hold, and the mission -/

/-- What has been read is the same row, with the same items. -/
def SameItems (_ : TickCall) (read mission : Option (Id × Mission)) : Prop :=
  read.map (fun q => (q.1, q.2.scopeSnapshot.map ChecklistItem.id)) =
    mission.map fun q => (q.1, q.2.scopeSnapshot.map ChecklistItem.id)

/-- At the write of an update, every other item is still ticked as the update has read it. -/
def OthersKept (c : TickCall) (read mission : Option (Id × Mission)) : Prop :=
  ∀ q q', read = some q → mission = some q' → ∀ id, nonEmpty c.update.checklistId ≠ some id →
    flag id q.2.scopeSnapshot = flag id q'.2.scopeSnapshot

/-- What the last update that names the item says, and what it was at first if none does. -/
def lastMark (id : String) (initial : Bool) (log : List TickCall) : Bool :=
  log.foldl (fun b c => c.update.mark id b) initial

/-- The mission under its key is as the updates say in the order of their writes: the items are the
same, each of them is ticked as the last update says that names it, and the counter is their number
if it was so at first or something has been written. -/
def Kept (missionId : Id) (initial : Mission) (mission : Option (Id × Mission))
    (log : List TickCall) : Prop :=
  ∃ m, mission = some (missionId, m) ∧
    m.scopeSnapshot.map ChecklistItem.id = initial.scopeSnapshot.map ChecklistItem.id ∧
    (∀ id, flag id m.scopeSnapshot =
      (flag id initial.scopeSnapshot).map fun b => lastMark id b log) ∧
    (initial.checklistProgress = initial.scopeSnapshot.countP ChecklistItem.completed ∨ log ≠ [] →
      m.checklistProgress = m.scopeSnapshot.countP ChecklistItem.completed)

lemma lastMark_concat (id : String) (initial : Bool) (log : List TickCall) (c : TickCall) :
    lastMark id initial (log ++ [c]) = c.update.mark id (lastMark id initial log) := by
  rw [lastMark, List.foldl_append]
  rfl

lemma mark_of_ne {r : Update} {id : String} (h : nonEmpty r.checklistId ≠ some id) :
    r.mark id = fun b => b := funext fun _ => if_neg h

lemma mark_of_eq {r : Update} {id : String} (h : nonEmpty r.checklistId = some id) :
    r.mark id = fun _ => r.completed := funext fun _ => if_pos h

/-- Which items there are depends on the ids alone. -/
lemma isSome_flag (id : String) (checklist : List ChecklistItem) :
    (flag id checklist).isSome = decide (id ∈ checklist.map ChecklistItem.id) := by
  induction checklist with
  | nil => rfl
  | cons item items ih =>
    rw [flag_cons]
    by_cases h : item.id = id
    · simp [h]
    · rw [if_neg h, ih]
      simp [Ne.symm h]

lemma map_const_eq {a b : Option Bool} (h : a.isSome = b.isSome) (k : Bool) :
    a.map (fun _ => k) = b.map fun _ => k := by
  cases a with
  | none =>
    cases b with
    | none => rfl
    | some b => cases h
  | some a =>
    cases b with
    | none => cases h
    | some b => rfl

section Runs

variable {caseId : Id}

/-- What a call writes where the mission is the one that it has read. -/
lemma result_same (c : TickCall) (missionId : Id) (m b : Mission) :
    (overwriting caseId).result c (some (missionId, m)) (some (missionId, b)) =
      some (missionId, progress (c.request caseId) m b) := by
  simp [overwriting, overwrite]

lemma sameItems_cases {c : TickCall} {missionId : Id} {m : Mission} {v : Option (Id × Mission)}
    (h : SameItems c (some (missionId, m)) v) :
    ∃ b, v = some (missionId, b) ∧
      m.scopeSnapshot.map ChecklistItem.id = b.scopeSnapshot.map ChecklistItem.id := by
  cases v with
  | none => cases h
  | some q =>
    obtain ⟨i, b⟩ := q
    have heq := Option.some.inj h
    obtain rfl : missionId = i := congrArg Prod.fst heq
    exact ⟨b, rfl, congrArg Prod.snd heq⟩

lemma trailing : (overwriting caseId).Trailing SameItems where
  refl _ _ := rfl
  step := by
    rintro c _ v ⟨missionId, m, rfl, -, -⟩ hsame c' y hy
    obtain ⟨b, rfl, hids⟩ := sameItems_cases hsame
    rw [result_same]
    refine Eq.trans hy ?_
    have hnew : (progress (c.request caseId) m b).scopeSnapshot.map ChecklistItem.id =
        b.scopeSnapshot.map ChecklistItem.id := (map_id_ticked _ _).trans hids
    rw [Option.map_some, Option.map_some, hnew]

/-- **What one write comes to**: the log is kept exactly if the other items are. -/
lemma kept_overwrite_iff {missionId : Id} {initial : Mission} {c : TickCall}
    {x v : Option (Id × Mission)} {log : List TickCall} (hready : (overwriting caseId).ready c x)
    (hsame : SameItems c x v) (hkept : Kept missionId initial v log) :
    Kept missionId initial ((overwriting caseId).result c x v) (log ++ [c]) ↔
      OthersKept c x v := by
  obtain ⟨i, m, rfl, -, -⟩ := hready
  obtain ⟨b, rfl, hids⟩ := sameItems_cases hsame
  obtain ⟨b', hb', hinitial, hflags, -⟩ := hkept
  obtain ⟨rfl, rfl⟩ := Prod.mk.inj (Option.some.inj hb')
  -- The flags of the checklist that is written.
  have hnew : ∀ id, flag id (progress (c.request caseId) m b).scopeSnapshot =
      (flag id m.scopeSnapshot).map (c.update.mark id) :=
    fun id => flag_ticked (c.request caseId) id m.scopeSnapshot
  rw [result_same]
  constructor
  · rintro ⟨m', hm', -, hflags', -⟩ q q' ⟨⟩ ⟨⟩ id hid
    obtain ⟨-, rfl⟩ := Prod.mk.inj (Option.some.inj hm')
    have h := hflags' id
    simp only [hnew, lastMark_concat, mark_of_ne hid, Option.map_id'] at h
    rw [h, hflags]
  · intro hothers
    refine ⟨_, rfl, (map_id_ticked _ _).trans (hids.trans hinitial), fun id => ?_, fun _ => rfl⟩
    simp only [hnew, lastMark_concat]
    by_cases hid : nonEmpty c.update.checklistId = some id
    · -- The item that is ticked: it is there in both checklists, or in none.
      rw [mark_of_eq hid]
      refine map_const_eq ?_ _
      rw [isSome_flag, isSome_flag, hids, hinitial]
    · simp only [mark_of_ne hid, Option.map_id']
      rw [hothers _ _ rfl rfl id hid, hflags]

/-- **No update is lost**, exactly if every update finds the items that it does not name as it has
read them. -/
theorem kept_iff {missionId : Id} {initial : Mission} {d : Db}
    (h : Db.missions.find (isMissionOf caseId) d = some (missionId, initial))
    (es : List (Event TickCall)) :
    (∀ pre, pre <+: es →
        Kept missionId initial
          (Db.missions.find (isMissionOf caseId)
            (runFrom (Pool.step (TickCall.code caseId)) (Pool.idle d) pre).shared)
          ((overwriting caseId).writeLog (TickCall.code caseId) (Pool.idle d) pre)) ↔
      AllSteps (Pool.step (TickCall.code caseId)) ((overwriting caseId).Fresh OthersKept)
        (Pool.idle d) es := by
  have hkept : Kept missionId initial ((overwriting caseId).view d) [] := by
    refine ⟨initial, h, rfl, fun id => ?_, fun hcounted => ?_⟩
    · exact Option.map_id'.symm
    · exact hcounted.resolve_right fun hne => hne rfl
  exact Overwriting.runs_iff (O := overwriting caseId) (Q := Kept missionId initial) code_follows
    trailing (fun _ _ _ => trivial) (fun _ _ _ _ => kept_overwrite_iff)
    (Overwriting.Invariant.idle trivial) hkept es

end Runs

/-! ## Two items ticked at the same time -/

/-- A mission on site with two items to tick. -/
def twoItems : Mission where
  caseId := 7
  agentId := 1
  payoutAmount := 5000
  netPayout := 4500
  workflowState := .onSite
  scopeSnapshot := [{ id := "a" }, { id := "b" }]
  checklistTotal := 2

def onSiteDb : Db := { mission := Table.empty.insert twoItems }

def tickItem (id : String) : TickCall :=
  ⟨1, { caseId := none, checklistId := some id, completed := true }⟩

theorem kept_ticked :
    Db.missions.find (isMissionOf 7) onSiteDb = some (0, twoItems) ∧
      ∀ pre, pre <+: [.start (tickItem "a"), .sched 0, .sched 0, .sched 0] →
        Kept 0 twoItems
          (Db.missions.find (isMissionOf 7)
            (runFrom (Pool.step (TickCall.code 7)) (Pool.idle onSiteDb) pre).shared)
          ((overwriting 7).writeLog (TickCall.code 7) (Pool.idle onSiteDb) pre) := by
  refine ⟨rfl, (kept_iff rfl _).mpr ⟨?_, ?_, ?_, ?_, trivial⟩⟩
  · intro t x hwriter
    cases hwriter
  · intro t x hwriter
    cases hwriter
  · intro t x hwriter hgrip
    cases hwriter
    cases hgrip
    rintro q q' ⟨⟩ ⟨⟩ id -
    rfl
  · intro t x hwriter
    cases hwriter

/-- The first write puts an item down as ticked, the second one puts it back. -/
theorem not_kept :
    (runFrom (Pool.step (TickCall.code 7)) (Pool.idle onSiteDb)
        [.start (tickItem "a"), .start (tickItem "b"), .sched 0, .sched 1, .sched 0, .sched 1,
          .sched 0, .sched 1]).Quiet ∧
      ¬ Kept 0 twoItems
        (Db.missions.find (isMissionOf 7)
          (runFrom (Pool.step (TickCall.code 7)) (Pool.idle onSiteDb)
            [.start (tickItem "a"), .start (tickItem "b"), .sched 0, .sched 1, .sched 0, .sched 1,
              .sched 0, .sched 1]).shared)
        ((overwriting 7).writeLog (TickCall.code 7) (Pool.idle onSiteDb)
          [.start (tickItem "a"), .start (tickItem "b"), .sched 0, .sched 1, .sched 0, .sched 1,
            .sched 0, .sched 1]) := by
  refine ⟨by decide +kernel, ?_⟩
  rintro ⟨m, hm, -, hflags, -⟩
  have hflag := hflags "a"
  cases hm
  revert hflag
  decide +kernel

end Checklist

end Asoju.FieldForce
