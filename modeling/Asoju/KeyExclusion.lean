/-
One caller at a time works under an idempotency key, and at most one completes.

A caller begins, works when `begin` lets it proceed, and completes or fails.  Any number of
them run, interleaved, under any keys.  The record of a key tells how its callers stand: while
one of them is working there is a record in process, which neither a stale clean-up nor a second
insertion can touch, and once one has completed the record stays as it is.
-/
import Asoju.Idempotency
import Asoju.Lib.Faults
import Asoju.Protocols

namespace Asoju

open Lib

/-! ## Callers -/

/-- The program leaves the idempotency records alone. -/
def LeavesRecords (work : Svc Id) : Prop :=
  work.EachStep fun l s s' =>
    l ≠ .update .idempotencyRecord ∧ s'.idempotencyRecord = s.idempotencyRecord

/-- A caller of the service: its key, and what it does under the key. -/
structure Caller where
  key : RecordKey
  work : Svc Id
  leaves : LeavesRecords work

/-- How a caller returns: with the result that `begin` has replayed, or with its own. -/
inductive Outcome
  | replayed (resultReference : Option Id)
  | completed (resultReference : Id)
deriving DecidableEq, Repr

namespace Caller

/-- The work under the key, and its completion; a failure of it is recorded and passed on. -/
def guarded (key : RecordKey) (work : Svc Id) : Svc Outcome := do
  try
    let created ← work
    IdempotencyService.complete key created
    pure (.completed created)
  catch err =>
    IdempotencyService.fail key
    throw err

/-- What a caller does once `begin` has answered. -/
def proceed (c : Caller) : IdempotencyService.BeginResult → Svc Outcome
  | .replay resultReference => return .replayed resultReference
  | .shouldProceed => guarded c.key c.work

/-- The program of a caller. -/
def code (c : Caller) : Svc Outcome := do
  c.proceed (← IdempotencyService.begin c.key)

/-- How far a caller has come. -/
inductive Phase
  | start
  /-- `begin` is about to delete the failed record `i`. -/
  | clearing (i : Id)
  /-- `begin` is about to create a record. -/
  | creating
  /-- `begin` has returned that the caller should proceed, and the caller has neither completed
  nor failed. -/
  | inside
  | finished
deriving DecidableEq

/-- The phase that an action leads to. -/
def next (key : RecordKey) (p : Phase) (l : Act) (s : Db) : Phase :=
  match p with
  | .start =>
      match s.recordByKey key with
      | some (i, record) => if record.status = .failed then .clearing i else .finished
      | none => .creating
  | .clearing _ => .creating
  | .creating => if (s.recordByKey key).isSome then .finished else .inside
  | .inside => if l = .update .idempotencyRecord then .finished else .inside
  | .finished => .finished

/-- A record in process. -/
def processingRecord (key : RecordKey) : IdempotencyRecord :=
  { operation := key.operation, idempotencyKey := key.idempotencyKey
    actorId := key.actorId, status := .processing }

/-- What a caller does to the records. -/
def protocol (c : Caller) : Protocol Db Act Phase where
  relies _ := True
  init := .start
  next := next c.key
  allows p l s s' :=
    match p with
    | .start => s' = s
    | .clearing i => s' = s.eraseRow .idempotencyRecord i
    | .creating =>
        s' = if (s.recordByKey c.key).isSome then s
          else s.insertRow .idempotencyRecord (processingRecord c.key)
    | .inside =>
        if l = .update .idempotencyRecord then
          ∃ f : IdempotencyRecord → IdempotencyRecord, (∀ r, (f r).key = r.key) ∧
            s' = s.modifyRows .idempotencyRecord (fun _ r => r.key = c.key) f
        else s'.idempotencyRecord = s.idempotencyRecord
    | .finished => False
  final _ := True

/-- The database after the completion of a caller. -/
def completedDb (key : RecordKey) (resultReference : Id) (s : Db) : Db :=
  s.modifyRows .idempotencyRecord (fun _ r => r.key = key) fun r =>
    { r with status := .succeeded, resultReference := some resultReference }

/-- A caller that returns its own result has just completed with it. -/
def Completes (c : Caller) (p : Phase) (_ : Act) (s s' : Db) (a : Outcome) : Prop :=
  ∀ created, a = .completed created → p = .inside ∧ s' = completedDb c.key created s

/-- What `begin` does with the record that it has found. -/
def answer (key : RecordKey) : Option (Id × IdempotencyRecord) →
    Svc IdempotencyService.BeginResult
  | none => IdempotencyService.createRecord key
  | some (i, record) =>
      match record.status with
      | .succeeded => pure (.replay record.resultReference)
      | .processing => throw IdempotencyService.alreadyProcessing
      | .failed => IdempotencyService.clearRecord i >>= fun _ => IdempotencyService.createRecord key

lemma begin_eq (key : RecordKey) :
    IdempotencyService.begin key =
      Prisma.query .idempotencyRecord (·.recordByKey key) >>= answer key := by
  refine congrArg (Prog.atom _ _) (funext fun s => ?_)
  dsimp only
  generalize s.recordByKey key = found
  cases found with
  | none => rfl
  | some x =>
    obtain ⟨i, ⟨operation, idempotencyKey, actorId, resultReference, status⟩⟩ := x
    cases status <;> rfl

lemma code_eq (c : Caller) :
    c.code = Prisma.query .idempotencyRecord (·.recordByKey c.key) >>= fun found =>
      answer c.key found >>= c.proceed := by
  rw [code, begin_eq, Prog.bind_assoc]

variable (c : Caller)

/-- The work is always followed by its completion, or by the record of its failure. -/
lemma guarded_ne_ret (m : Svc Id) (a : Outcome) : guarded c.key m ≠ .ret a := by
  intro h
  cases m <;> cases h

lemma governs_guarded {m : Svc Id} (h : LeavesRecords m) :
    c.protocol.Governs c.Completes .inside (guarded c.key m) := by
  induction m with
  | ret created =>
    refine Protocol.Governs.atom fun s _ => ⟨?_, ?_, Protocol.Governs.ret trivial _⟩
    · exact ⟨fun r => { r with status := .succeeded, resultReference := some created },
        fun _ => rfl, rfl⟩
    · rintro a ha created' rfl
      cases ha
      exact ⟨rfl, rfl⟩
  | fail err =>
    refine Protocol.Governs.atom fun s _ => ⟨?_, fun a ha => ?_, Protocol.Governs.fail trivial _⟩
    · exact ⟨fun r => { r with status := .failed }, fun _ => rfl, rfl⟩
    · cases ha
  | atom l w k ih =>
    refine Protocol.Governs.atom fun s _ => ?_
    obtain ⟨⟨hl, hrecords⟩, hrest⟩ := h s
    refine ⟨?_, fun a ha => absurd ha (c.guarded_ne_ret (k s) a), ?_⟩
    · show if l = _ then _ else _
      rw [if_neg hl]
      exact hrecords
    · have hphase : c.protocol.next .inside l s = .inside := if_neg hl
      rw [hphase]
      exact ih s hrest

lemma governs_creating :
    c.protocol.Governs c.Completes .creating
      (IdempotencyService.createRecord c.key >>= c.proceed) := by
  refine Protocol.Governs.atom fun s _ => ⟨rfl, ?_⟩
  show _ ∧ c.protocol.Governs c.Completes
    (if (s.recordByKey c.key).isSome then .finished else .inside) _
  by_cases htaken : (s.recordByKey c.key).isSome
  · simp only [if_pos htaken]
    refine ⟨fun a ha => ?_, Protocol.Governs.fail trivial _⟩
    cases ha
  · simp only [if_neg htaken]
    exact ⟨fun a ha => absurd ha (c.guarded_ne_ret c.work a), c.governs_guarded c.leaves⟩

/-- Whether the failed record is still there or not, a new one is created next. -/
lemma governs_clearing (i : Id) :
    c.protocol.Governs c.Completes (.clearing i)
      ((IdempotencyService.clearRecord i >>= fun _ => IdempotencyService.createRecord c.key) >>=
        c.proceed) := by
  refine Protocol.Governs.atom fun s _ => ⟨rfl, ?_⟩
  show _ ∧ c.protocol.Governs c.Completes .creating _
  by_cases hthere : ((Rel.idempotencyRecord.get s).get? i).isSome
  · simp only [if_pos hthere]
    refine ⟨fun a ha => ?_, c.governs_creating⟩
    cases ha
  · simp only [if_neg hthere]
    refine ⟨fun a ha => ?_, c.governs_creating⟩
    cases ha

lemma governs : c.protocol.Governs c.Completes c.protocol.init c.code := by
  rw [code_eq]
  refine Protocol.Governs.atom fun s _ => ⟨rfl, ?_⟩
  show (∀ a, answer c.key (s.recordByKey c.key) >>= c.proceed = .ret a → _) ∧
    c.protocol.Governs c.Completes (next c.key .start (.find .idempotencyRecord) s)
      (answer c.key (s.recordByKey c.key) >>= c.proceed)
  rw [next]
  cases s.recordByKey c.key with
  | none =>
    refine ⟨fun a ha => ?_, c.governs_creating⟩
    cases ha
  | some x =>
    obtain ⟨i, ⟨operation, idempotencyKey, actorId, resultReference, status⟩⟩ := x
    cases status with
    | processing =>
      refine ⟨fun a ha => ?_, Protocol.Governs.fail trivial _⟩
      cases ha
    | succeeded =>
      refine ⟨fun a ha => ?_, Protocol.Governs.ret trivial _⟩
      cases ha
      rintro created ⟨⟩
    | failed =>
      refine ⟨fun a ha => ?_, c.governs_clearing i⟩
      cases ha

end Caller

/-! ## What the records say -/

/-- The unique constraint: there is one record for each key. -/
def KeysUnique (t : Table IdempotencyRecord) : Prop :=
  ∀ i j r r', t.get? i = some r → t.get? j = some r' → r.key = r'.key → i = j

/-- There is a record of the key in process. -/
def Held (t : Table IdempotencyRecord) (key : RecordKey) : Prop :=
  ∃ i r, t.get? i = some r ∧ r.key = key ∧ r.status = .processing

/-- There is a record of the key that has succeeded with this result. -/
def Settled (t : Table IdempotencyRecord) (key : RecordKey) (resultReference : Id) : Prop :=
  ∃ i r, t.get? i = some r ∧ r.key = key ∧ r.status = .succeeded ∧
    r.resultReference = some resultReference

/-- The record `i` is a failed one of the key, unless it is gone. -/
def Stale (t : Table IdempotencyRecord) (key : RecordKey) (i : Id) : Prop :=
  i < t.next ∧ ∀ r, t.get? i = some r → r.key = key ∧ r.status = .failed

section Records

variable {t : Table IdempotencyRecord} {key key' : RecordKey} {i x : Id}

lemma Db.recordByKey_eq_some {d : Db} {r : IdempotencyRecord}
    (h : d.recordByKey key = some (i, r)) : d.idempotencyRecord.get? i = some r ∧ r.key = key :=
  ⟨d.idempotencyRecord.mem_rows_iff.mp (List.mem_of_find?_eq_some h), by
    simpa using List.find?_some h⟩

lemma Db.recordByKey_eq_none_iff {d : Db} :
    d.recordByKey key = none ↔ ∀ i r, d.idempotencyRecord.get? i = some r → r.key ≠ key := by
  rw [Db.recordByKey, List.find?_eq_none]
  constructor
  · intro h i r hr
    simpa using h (i, r) (d.idempotencyRecord.mem_rows_iff.mpr hr)
  · rintro h ⟨i, r⟩ hr
    simpa using h i r (d.idempotencyRecord.mem_rows_iff.mp hr)

/-- With unique keys the record is the one that is found. -/
lemma KeysUnique.recordByKey {d : Db} (h : KeysUnique d.idempotencyRecord)
    {r : IdempotencyRecord} (hr : d.idempotencyRecord.get? i = some r) :
    d.recordByKey r.key = some (i, r) := by
  cases hfound : d.recordByKey r.key with
  | none => exact absurd rfl (Db.recordByKey_eq_none_iff.mp hfound i r hr)
  | some y =>
    obtain ⟨j, r'⟩ := y
    obtain ⟨hr', hkey⟩ := Db.recordByKey_eq_some hfound
    obtain rfl := h j i r' r hr' hr hkey
    rw [hr, Option.some.injEq] at hr'
    rw [hr']

/-- A key is held or settled, not both. -/
lemma Settled.not_held (h : Settled t key x) (hunique : KeysUnique t) : ¬ Held t key := by
  rintro ⟨j, r', hr', hkey', hstatus'⟩
  obtain ⟨i, r, hr, hkey, hstatus, -⟩ := h
  obtain rfl := hunique i j r r' hr hr' (hkey.trans hkey'.symm)
  rw [hr, Option.some.injEq] at hr'
  rw [hr', hstatus'] at hstatus
  cases hstatus

/-! The deletion of a stale record. -/

lemma KeysUnique.erase (h : KeysUnique t) (i : Id) : KeysUnique (t.erase i) := by
  intro a b r r' hr hr'
  rw [Table.get?_erase] at hr hr'
  split_ifs at hr hr'
  exact h a b r r' hr hr'

/-- A record that is not failed survives. -/
lemma Stale.get?_erase (h : Stale t key i) {j : Id} {r : IdempotencyRecord}
    (hr : t.get? j = some r) (hstatus : r.status ≠ .failed) : (t.erase i).get? j = some r := by
  rw [Table.get?_erase, if_neg, hr]
  rintro rfl
  exact hstatus (h.2 r hr).2

lemma Stale.erase (h : Stale t key' i) (j : Id) : Stale (t.erase j) key' i := by
  refine ⟨h.1, fun r hr => ?_⟩
  rw [Table.get?_erase] at hr
  split_ifs at hr
  exact h.2 r hr

lemma Held.erase (h : Held t key') (hstale : Stale t key i) : Held (t.erase i) key' := by
  obtain ⟨j, r, hr, hkey, hstatus⟩ := h
  exact ⟨j, r, hstale.get?_erase hr (by rw [hstatus]; decide), hkey, hstatus⟩

lemma Settled.erase (h : Settled t key' x) (hstale : Stale t key i) :
    Settled (t.erase i) key' x := by
  obtain ⟨j, r, hr, hkey, hstatus, href⟩ := h
  exact ⟨j, r, hstale.get?_erase hr (by rw [hstatus]; decide), hkey, hstatus, href⟩

/-! The creation of a record. -/

lemma KeysUnique.insert (h : KeysUnique t) {r : IdempotencyRecord}
    (hfree : ∀ i r', t.get? i = some r' → r'.key ≠ r.key) : KeysUnique (t.insert r) := by
  intro a b ra rb ha hb hkey
  rw [Table.get?_insert] at ha hb
  split_ifs at ha hb with h₁ h₂ h₂
  · rw [h₁, h₂]
  · cases ha
    exact absurd hkey.symm (hfree b rb hb)
  · cases hb
    exact absurd hkey (hfree a ra ha)
  · exact h a b ra rb ha hb hkey

lemma Held.insert (h : Held t key) (r : IdempotencyRecord) : Held (t.insert r) key := by
  obtain ⟨j, r', hr', hrest⟩ := h
  exact ⟨j, r', Table.get?_insert_of_some hr' r, hrest⟩

lemma Settled.insert (h : Settled t key x) (r : IdempotencyRecord) :
    Settled (t.insert r) key x := by
  obtain ⟨j, r', hr', hrest⟩ := h
  exact ⟨j, r', Table.get?_insert_of_some hr' r, hrest⟩

lemma Stale.insert (h : Stale t key i) (r : IdempotencyRecord) : Stale (t.insert r) key i := by
  refine ⟨Nat.lt_succ_of_lt h.1, fun r' hr' => ?_⟩
  rw [Table.get?_insert, if_neg (Nat.ne_of_lt h.1)] at hr'
  exact h.2 r' hr'

/-! The outcome of the caller that holds the key. -/

variable {f : IdempotencyRecord → IdempotencyRecord}

lemma KeysUnique.modifyWhere (h : KeysUnique t) (hf : ∀ r, (f r).key = r.key) (key : RecordKey) :
    KeysUnique (t.modifyWhere (fun _ r => r.key = key) f) := by
  have hkeys : ∀ r : IdempotencyRecord, (if r.key = key then f r else r).key = r.key := by
    intro r
    split_ifs
    · exact hf r
    · rfl
  intro a b ra rb ha hb heq
  rw [Table.get?_modifyWhere, Option.map_eq_some_iff] at ha hb
  obtain ⟨ra', ha, rfl⟩ := ha
  obtain ⟨rb', hb, rfl⟩ := hb
  simp only [decide_eq_true_eq, hkeys] at heq
  exact h a b ra' rb' ha hb heq

/-- The records of other keys stay. -/
lemma get?_modifyWhere_of_ne {r : IdempotencyRecord} (hr : t.get? i = some r)
    (hne : r.key ≠ key) : (t.modifyWhere (fun _ r => r.key = key) f).get? i = some r := by
  rw [Table.get?_modifyWhere, hr, Option.map_some, if_neg (by simpa using hne)]

lemma Held.modifyWhere (h : Held t key') (hne : key' ≠ key) :
    Held (t.modifyWhere (fun _ r => r.key = key) f) key' := by
  obtain ⟨j, r, hr, rfl, hstatus⟩ := h
  exact ⟨j, r, get?_modifyWhere_of_ne hr hne, rfl, hstatus⟩

lemma Settled.modifyWhere (h : Settled t key' x) (hne : key' ≠ key) :
    Settled (t.modifyWhere (fun _ r => r.key = key) f) key' x := by
  obtain ⟨j, r, hr, rfl, hrest⟩ := h
  exact ⟨j, r, get?_modifyWhere_of_ne hr hne, rfl, hrest⟩

/-- The only record of a key that is held is not a stale one. -/
lemma Stale.modifyWhere (h : Stale t key' i) (hunique : KeysUnique t) (hheld : Held t key) :
    Stale (t.modifyWhere (fun _ r => r.key = key) f) key' i := by
  refine ⟨h.1, fun r hr => ?_⟩
  rw [Table.get?_modifyWhere, Option.map_eq_some_iff] at hr
  obtain ⟨r', hr', rfl⟩ := hr
  obtain ⟨hkey', hfailed⟩ := h.2 r' hr'
  rw [if_neg]
  · exact ⟨hkey', hfailed⟩
  · -- Else the stale record would be the one in process.
    simp only [decide_eq_true_eq]
    intro hkey
    obtain ⟨j, r, hr, hkeyr, hstatus⟩ := hheld
    obtain rfl := hunique i j r' r hr' hr (hkey.trans hkeyr.symm)
    rw [hr', Option.some.injEq] at hr
    rw [← hr, hfailed] at hstatus
    cases hstatus

lemma Held.settles (h : Held t key) (x : Id) :
    Settled (t.modifyWhere (fun _ r => r.key = key) fun r =>
      { r with status := .succeeded, resultReference := some x }) key x := by
  obtain ⟨j, r, hr, hkey, -⟩ := h
  refine ⟨j, { r with status := .succeeded, resultReference := some x }, ?_, hkey, rfl, rfl⟩
  rw [Table.get?_modifyWhere, hr, Option.map_some, if_pos (by simpa using hkey)]

end Records

/-! ## Every interleaving -/

/-- Any number of callers at work. -/
abbrev CallerPool := Pool Db Act HttpError Outcome Caller

abbrev CallerThread := Thread Db Act HttpError Outcome Caller

/-- How far the caller has come. -/
def CallerThread.phase (t : CallerThread) : Caller.Phase := t.call.protocol.phase t.done

/-- The caller is between the answer of `begin` that it should proceed and its completion or
failure. -/
def CallerThread.Inside (t : CallerThread) : Prop := t.phase = .inside

/-- The caller has completed with this result. -/
def CallerThread.Completed (t : CallerThread) (resultReference : Id) : Prop :=
  t.rest = .ret (.completed resultReference)

/-- The caller is inside under the key. -/
def CallerThread.Holds (t : CallerThread) (key : RecordKey) : Prop :=
  t.call.key = key ∧ t.Inside

/-- At most one caller is inside under each key. -/
def OneInside (p : CallerPool) : Prop :=
  ∀ (i j : ℕ) (t t' : CallerThread) (key : RecordKey), p.threads[i]? = some t →
    p.threads[j]? = some t' → t.Holds key → t'.Holds key → i = j

/-- **The invariant**: the records tell how the callers stand. -/
structure Guarded (p : CallerPool) : Prop where
  tracked : Pool.Tracked Caller.protocol p
  reporting : Pool.Reporting (P := Caller.protocol) Caller.Completes p
  unique : KeysUnique p.shared.idempotencyRecord
  stale : ∀ t ∈ p.threads, ∀ i, CallerThread.phase t = .clearing i →
    Stale p.shared.idempotencyRecord t.call.key i
  held : ∀ t ∈ p.threads, CallerThread.Inside t → Held p.shared.idempotencyRecord t.call.key
  settled : ∀ t ∈ p.threads, ∀ x, CallerThread.Completed t x →
    Settled p.shared.idempotencyRecord t.call.key x
  exclusive : OneInside p

lemma Guarded.idle {d : Db} (hd : KeysUnique d.idempotencyRecord) : Guarded (Pool.idle d) where
  tracked := Pool.tracked_idle _ d
  reporting t ht := absurd ht List.not_mem_nil
  unique := hd
  stale t ht := absurd ht List.not_mem_nil
  held t ht := absurd ht List.not_mem_nil
  settled t ht := absurd ht List.not_mem_nil
  exclusive i j t t' key ht := absurd ht (by simp [Pool.idle])

/-- What an action of the caller number `i` has to do to the records for the invariant to go
on. -/
structure Moves (p : CallerPool) (i : ℕ) (s' : Db) (t' : CallerThread) : Prop where
  unique : KeysUnique s'.idempotencyRecord
  /-- The stale records and the settled ones are as they were. -/
  stale : ∀ key j, Stale p.shared.idempotencyRecord key j → Stale s'.idempotencyRecord key j
  settled : ∀ key x, Settled p.shared.idempotencyRecord key x →
    Settled s'.idempotencyRecord key x
  /-- The other callers that are inside keep their records. -/
  held : ∀ (j : ℕ) (u : CallerThread), p.threads[j]? = some u → j ≠ i → u.Inside →
    Held p.shared.idempotencyRecord u.call.key → Held s'.idempotencyRecord u.call.key
  /-- The caller itself stands as the records say. -/
  stale_self : ∀ j, t'.phase = .clearing j → Stale s'.idempotencyRecord t'.call.key j
  held_self : t'.Inside → Held s'.idempotencyRecord t'.call.key
  settled_self : ∀ x, t'.Completed x → Settled s'.idempotencyRecord t'.call.key x
  /-- It does not join another caller of its key. -/
  alone : t'.Inside → ∀ (j : ℕ) (u : CallerThread), p.threads[j]? = some u → j ≠ i →
    ¬ u.Holds t'.call.key

/-- The invariant after an action. -/
lemma Guarded.set {p : CallerPool} (h : Guarded p) {i : ℕ} {s' : Db} {t' : CallerThread}
    (hmoves : Moves p i s' t') (htracked : Pool.Tracked Caller.protocol ⟨s', p.threads.set i t'⟩)
    (hreporting : Pool.Reporting (P := Caller.protocol) Caller.Completes
      ⟨s', p.threads.set i t'⟩) : Guarded ⟨s', p.threads.set i t'⟩ where
  tracked := htracked
  reporting := hreporting
  unique := hmoves.unique
  stale u hu j hphase := by
    rcases List.mem_or_eq_of_mem_set hu with hu | rfl
    · exact hmoves.stale _ j (h.stale u hu j hphase)
    · exact hmoves.stale_self j hphase
  held u hu hinside := by
    obtain ⟨j, hj⟩ := List.getElem?_of_mem hu
    rcases Pool.getElem?_set_cases hj with ⟨-, rfl⟩ | ⟨hij, hj⟩
    · exact hmoves.held_self hinside
    · exact hmoves.held j u hj hij hinside (h.held u (List.mem_of_getElem? hj) hinside)
  settled u hu x hcompleted := by
    rcases List.mem_or_eq_of_mem_set hu with hu | rfl
    · exact hmoves.settled _ x (h.settled u hu x hcompleted)
    · exact hmoves.settled_self x hcompleted
  exclusive a b u v key ha hb hu hv := by
    rcases Pool.getElem?_set_cases ha with ⟨rfl, rfl⟩ | ⟨hai, ha'⟩
    · rcases Pool.getElem?_set_cases hb with ⟨rfl, rfl⟩ | ⟨hbi, hb'⟩
      · rfl
      · exact absurd (hu.1 ▸ hv) (hmoves.alone hu.2 b v hb' hbi)
    · rcases Pool.getElem?_set_cases hb with ⟨rfl, rfl⟩ | ⟨hbi, hb'⟩
      · exact absurd (hv.1 ▸ hu) (hmoves.alone hv.2 a u ha' hai)
      · exact h.exclusive a b u v key ha' hb' hu hv

section Step

variable {p : CallerPool} {i : ℕ} {t : CallerThread} {l : Act} {w : Db → Db}
  {k : Db → Svc Outcome}

/-- The caller after the action. -/
def CallerThread.after (t : CallerThread) (l : Act) (s : Db) (k : Db → Svc Outcome) :
    CallerThread := ⟨t.call, t.done ++ [(l, s)], k s⟩

@[simp] lemma CallerThread.after_call (t : CallerThread) (l : Act) (s : Db)
    (k : Db → Svc Outcome) : (t.after l s k).call = t.call := rfl

@[simp] lemma CallerThread.after_phase (t : CallerThread) (l : Act) (s : Db)
    (k : Db → Svc Outcome) :
    (t.after l s k).phase = Caller.next t.call.key t.phase l s :=
  Protocol.phase_concat _ _ _ _

/-- **The step**: whatever the caller does, the records go on telling how the callers stand. -/
lemma Guarded.moves (h : Guarded p) (hi : p.threads[i]? = some t) (hrest : t.rest = .atom l w k) :
    Moves p i (w p.shared) (t.after l p.shared k) := by
  have hmem : t ∈ p.threads := List.mem_of_getElem? hi
  have hfollows := h.tracked t hmem
  have hreports := h.reporting t hmem
  rw [hrest] at hfollows hreports
  have hallows := (hfollows p.shared trivial).1
  have hcompletes : ∀ x, (t.after l p.shared k).Completed x →
      t.phase = .inside ∧ w p.shared = Caller.completedDb t.call.key x p.shared :=
    fun x hx => (hreports p.shared trivial).1 _ hx x rfl
  change (Caller.protocol t.call).allows t.phase l p.shared (w p.shared) at hallows
  have hnext : (t.after l p.shared k).phase = Caller.next t.call.key t.phase l p.shared :=
    t.after_phase l p.shared k
  cases hphase : t.phase with
  | start =>
    rw [hphase] at hallows hnext hcompletes
    have hs : w p.shared = p.shared := hallows
    rw [hs]
    have hinside : ¬ (t.after l p.shared k).Inside := by
      rw [CallerThread.Inside, hnext, Caller.next]
      split
      · split_ifs <;> simp
      · simp
    refine ⟨h.unique, fun _ _ => id, fun _ _ => id, fun _ _ _ _ _ => id, fun j hj => ?_,
      fun hx => absurd hx hinside, fun x hx => ?_, fun hx => absurd hx hinside⟩
    · rw [hnext, Caller.next] at hj
      split at hj
      · rename_i i' record hrecord
        split_ifs at hj with hfailed
        cases hj
        obtain ⟨hrow, hkey⟩ := Db.recordByKey_eq_some hrecord
        refine ⟨p.shared.idempotencyRecord.lt_next_of_get? hrow, fun r hr => ?_⟩
        rw [hrow, Option.some.injEq] at hr
        rw [← hr]
        exact ⟨hkey, hfailed⟩
      · cases hj
    · cases (hcompletes x hx).1
  | clearing j =>
    rw [hphase] at hallows hnext hcompletes
    have hstale := h.stale t hmem j hphase
    have hs : w p.shared = p.shared.eraseRow .idempotencyRecord j := hallows
    have htable : (w p.shared).idempotencyRecord = p.shared.idempotencyRecord.erase j := by
      rw [hs]
      rfl
    have hinside : ¬ (t.after l p.shared k).Inside := by
      rw [CallerThread.Inside, hnext]
      simp [Caller.next]
    refine ⟨?_, fun key j' hj' => ?_, fun key x hx => ?_, fun _ u _ _ _ hheld => ?_,
      fun j' hj' => ?_, fun hx => absurd hx hinside, fun x hx => ?_, fun hx => absurd hx hinside⟩
    · rw [htable]
      exact h.unique.erase j
    · rw [htable]
      exact hj'.erase j
    · rw [htable]
      exact hx.erase hstale
    · rw [htable]
      exact hheld.erase hstale
    · rw [hnext] at hj'
      cases hj'
    · cases (hcompletes x hx).1
  | creating =>
    rw [hphase] at hallows hnext hcompletes
    by_cases htaken : (p.shared.recordByKey t.call.key).isSome
    · -- Another caller was faster.
      have hs : w p.shared = p.shared := by
        have hw : w p.shared = if _ then _ else _ := hallows
        rwa [if_pos htaken] at hw
      have hfinished : (t.after l p.shared k).phase = .finished := by
        rw [hnext, Caller.next, if_pos htaken]
      have hinside : ¬ (t.after l p.shared k).Inside := by
        rw [CallerThread.Inside, hfinished]
        simp
      rw [hs]
      refine ⟨h.unique, fun _ _ => id, fun _ _ => id, fun _ _ _ _ _ => id, fun j hj => ?_,
        fun hx => absurd hx hinside, fun x hx => ?_, fun hx => absurd hx hinside⟩
      · rw [hfinished] at hj
        cases hj
      · cases (hcompletes x hx).1
    · have hs : w p.shared = p.shared.insertRow .idempotencyRecord
          (Caller.processingRecord t.call.key) := by
        have hw : w p.shared = if _ then _ else _ := hallows
        rwa [if_neg htaken] at hw
      have htable : (w p.shared).idempotencyRecord =
          p.shared.idempotencyRecord.insert (Caller.processingRecord t.call.key) := by
        rw [hs]
        rfl
      have hfree := Db.recordByKey_eq_none_iff.mp (Option.not_isSome_iff_eq_none.mp htaken)
      have hinside : (t.after l p.shared k).phase = .inside := by
        rw [hnext, Caller.next, if_neg htaken]
      refine ⟨?_, fun key j' hj' => ?_, fun key x hx => ?_, fun _ u _ _ _ hheld => ?_,
        fun j' hj' => ?_, fun _ => ?_, fun x hx => ?_, fun _ j u hj _ hholds => ?_⟩
      · rw [htable]
        exact h.unique.insert hfree
      · rw [htable]
        exact hj'.insert _
      · rw [htable]
        exact hx.insert _
      · rw [htable]
        exact hheld.insert _
      · rw [hinside] at hj'
        cases hj'
      · rw [htable]
        exact ⟨_, _, Table.get?_insert_self _ _, rfl, rfl⟩
      · cases (hcompletes x hx).1
      · -- Another caller inside would have its record.
        obtain ⟨hkey, hu⟩ := hholds
        obtain ⟨j', r, hr, hkeyr, -⟩ := h.held u (List.mem_of_getElem? hj) hu
        exact hfree j' r hr (hkeyr.trans hkey)
  | inside =>
    rw [hphase] at hallows hnext hcompletes
    have hheld := h.held t hmem hphase
    by_cases hl : l = .update .idempotencyRecord
    · obtain ⟨f, hf, hs⟩ : ∃ f : IdempotencyRecord → IdempotencyRecord,
          (∀ r, (f r).key = r.key) ∧ w p.shared =
            p.shared.modifyRows .idempotencyRecord (fun _ r => r.key = t.call.key) f := by
        have hw : if _ then _ else _ := hallows
        rwa [if_pos hl] at hw
      have htable : (w p.shared).idempotencyRecord =
          p.shared.idempotencyRecord.modifyWhere (fun _ r => r.key = t.call.key) f := by
        rw [hs]
        rfl
      have hfinished : (t.after l p.shared k).phase = .finished := by
        rw [hnext, Caller.next, if_pos hl]
      have hinside : ¬ (t.after l p.shared k).Inside := by
        rw [CallerThread.Inside, hfinished]
        simp
      refine ⟨?_, fun key j' hj' => ?_, fun key x hx => ?_, fun j u hj hji hu hheldu => ?_,
        fun j' hj' => ?_, fun hx => absurd hx hinside, fun x hx => ?_,
        fun hx => absurd hx hinside⟩
      · rw [htable]
        exact h.unique.modifyWhere hf _
      · rw [htable]
        exact hj'.modifyWhere h.unique hheld
      · rw [htable]
        refine hx.modifyWhere ?_
        rintro rfl
        exact hx.not_held h.unique hheld
      · rw [htable]
        refine hheldu.modifyWhere fun hkey => hji ?_
        exact h.exclusive j i u t t.call.key hj hi ⟨hkey, hu⟩ ⟨rfl, hphase⟩
      · rw [hfinished] at hj'
        cases hj'
      · rw [(hcompletes x hx).2]
        exact hheld.settles x
    · have htable : (w p.shared).idempotencyRecord = p.shared.idempotencyRecord := by
        have hw : if _ then _ else _ := hallows
        rwa [if_neg hl] at hw
      have hinside : (t.after l p.shared k).phase = .inside := by
        rw [hnext, Caller.next, if_neg hl]
      refine ⟨?_, fun key j' hj' => ?_, fun key x hx => ?_, fun _ u _ _ _ hheldu => ?_,
        fun j' hj' => ?_, fun _ => ?_, fun x hx => ?_, fun _ j u hj hji hholds => ?_⟩
      · rw [htable]
        exact h.unique
      · rw [htable]
        exact hj'
      · rw [htable]
        exact hx
      · rw [htable]
        exact hheldu
      · rw [hinside] at hj'
        cases hj'
      · rw [htable]
        exact hheld
      · rw [(hcompletes x hx).2]
        exact hheld.settles x
      · exact hji (h.exclusive j i u t t.call.key hj hi hholds ⟨rfl, hphase⟩)
  | finished =>
    rw [hphase] at hallows
    exact hallows.elim

/-- One step of any number of callers keeps the invariant. -/
lemma Guarded.step (h : Guarded p) (e : Event Caller) :
    Guarded (p.step Caller.code e) := by
  have htracked := h.tracked.preserved Caller.code (fun c => c.governs.1) (fun _ => trivial) e
  have hreporting := h.reporting.preserved (fun c => c.governs.2) (fun _ => trivial) e
  rcases h.tracked.step Caller.code (fun _ => trivial) e with ⟨i, -, -, heq⟩ | ⟨c, -, heq⟩ |
    ⟨i, t, l, w, k, -, hi, hrest, -, heq⟩
  · rwa [heq]
  · -- A caller that starts is not inside, and has returned nothing.
    rw [heq] at htracked hreporting ⊢
    have hstart : ∀ j (u : CallerThread), (p.threads ++ [⟨c, [], c.code⟩])[j]? = some u →
        p.threads[j]? = some u ∨ u = ⟨c, [], c.code⟩ := fun j u hu =>
      (Pool.getElem?_concat_cases hu).imp id And.right
    have hmem : ∀ u : CallerThread, u ∈ p.threads ++ [⟨c, [], c.code⟩] →
        u ∈ p.threads ∨ u = ⟨c, [], c.code⟩ := fun u hu =>
      (List.mem_append.mp hu).imp id List.mem_singleton.mp
    refine ⟨htracked, hreporting, h.unique, fun u hu j hphase => ?_, fun u hu hinside => ?_,
      fun u hu x hcompleted => ?_, fun a b u v key ha hb hu hv => ?_⟩
    · rcases hmem u hu with hu | rfl
      · exact h.stale u hu j hphase
      · cases hphase
    · rcases hmem u hu with hu | rfl
      · exact h.held u hu hinside
      · cases hinside
    · rcases hmem u hu with hu | rfl
      · exact h.settled u hu x hcompleted
      · rw [CallerThread.Completed, Caller.code_eq] at hcompleted
        cases hcompleted
    · rcases hstart a u ha with ha | rfl
      · rcases hstart b v hb with hb | rfl
        · exact h.exclusive a b u v key ha hb hu hv
        · cases hv.2
      · cases hu.2
  · rw [heq] at htracked hreporting ⊢
    exact h.set (h.moves hi hrest) htracked hreporting

end Step

/-! ## After a completion -/

/-- Whoever is at the place `j` of the pool now has not begun in the pool `p`. -/
def BeginsAfter (p : CallerPool) (j : ℕ) : Prop := ∀ t, p.threads[j]? = some t → t.done = []

/-- Nobody works under the key any more, and whoever has begun after `p₁` has been answered with
the result. -/
structure Answered (p₁ : CallerPool) (key : RecordKey) (x : Id) (p : CallerPool) : Prop where
  nobody : ∀ u ∈ p.threads, ¬ CallerThread.Holds u key
  replayed : ∀ (j : ℕ) (u : CallerThread), p.threads[j]? = some u → u.call.key = key →
    BeginsAfter p₁ j → u.done = [] ∨ u.rest = .ret (.replayed (some x))

/-- A caller that begins when the key is settled is answered at once. -/
lemma replayed_of_settled {s : Db} (hunique : KeysUnique s.idempotencyRecord) {c : Caller} {x : Id}
    (h : Settled s.idempotencyRecord c.key x) {l : Act} {w : Db → Db} {k : Db → Svc Outcome}
    (hcode : c.code = .atom l w k) : k s = .ret (.replayed (some x)) := by
  obtain ⟨i, r, hr, hkey, hstatus, href⟩ := h
  rw [Caller.code_eq] at hcode
  cases hcode
  have hfound : s.recordByKey c.key = some (i, r) := hkey ▸ hunique.recordByKey hr
  show Caller.answer c.key (s.recordByKey c.key) >>= c.proceed = _
  rw [hfound, Caller.answer, hstatus, href]
  rfl

/-- The invariant of a key that is settled. -/
structure Closed (p₁ : CallerPool) (key : RecordKey) (x : Id) (p : CallerPool) : Prop where
  guarded : Guarded p
  unstarted : Pool.Unstarted Caller.code p
  settled : Settled p.shared.idempotencyRecord key x
  replayed : ∀ (j : ℕ) (u : CallerThread), p.threads[j]? = some u → u.call.key = key →
    BeginsAfter p₁ j → u.done = [] ∨ u.rest = .ret (.replayed (some x))

lemma Closed.answered {p₁ p : CallerPool} {key : RecordKey} {x : Id} (h : Closed p₁ key x p) :
    Answered p₁ key x p where
  nobody u hu := by
    rintro ⟨rfl, hinside⟩
    exact h.settled.not_held h.guarded.unique (h.guarded.held u hu hinside)
  replayed := h.replayed

lemma Closed.step {p₁ p : CallerPool} {key : RecordKey} {x : Id} (h : Closed p₁ key x p)
    (e : Event Caller) : Closed p₁ key x (p.step Caller.code e) := by
  have hguarded := h.guarded.step e
  have hunstarted := h.unstarted.preserved Caller.code e
  rcases h.guarded.tracked.step Caller.code (fun _ => trivial) e with ⟨i, -, -, heq⟩ |
    ⟨c, -, heq⟩ | ⟨i, t, l, w, k, -, hi, hrest, -, heq⟩
  · rwa [heq]
  · rw [heq] at hguarded hunstarted ⊢
    refine ⟨hguarded, hunstarted, h.settled, fun j u hu hkey hafter => ?_⟩
    rcases Pool.getElem?_concat_cases hu with hu | ⟨-, rfl⟩
    · exact h.replayed j u hu hkey hafter
    · exact Or.inl rfl
  · have hsettled := (h.guarded.moves hi hrest).settled key x h.settled
    rw [heq] at hguarded hunstarted ⊢
    refine ⟨hguarded, hunstarted, hsettled, fun j u hu hkey hafter => ?_⟩
    rcases Pool.getElem?_set_cases hu with ⟨rfl, rfl⟩ | ⟨-, hu⟩
    · -- The caller has just begun: one that has been answered does not move.
      right
      have hcode : t.call.code = .atom l w k := by
        rcases h.replayed j t hi hkey hafter with hnil | hret
        · rw [← h.unstarted t (List.mem_of_getElem? hi) hnil, hrest]
        · rw [hrest] at hret
          cases hret
      exact replayed_of_settled h.guarded.unique (hkey ▸ h.settled) hcode
    · exact h.replayed j u hu hkey hafter

/-- **One at a time, and once.**  In every interleaving of any number of callers at most one is
inside under each key; and once a caller has completed, none is inside under its key ever again,
and each that begins is answered with its result. -/
theorem key_exclusion (d : Db) (hd : KeysUnique d.idempotencyRecord) (es : List (Event Caller)) :
    AllStates (Pool.step Caller.code) OneInside (Pool.idle d) es ∧
      ∀ t ∈ (runFrom (Pool.step Caller.code) (Pool.idle d) es).threads, ∀ x,
        CallerThread.Completed t x → ∀ later,
          AllStates (Pool.step Caller.code)
            (Answered (runFrom (Pool.step Caller.code) (Pool.idle d) es) t.call.key x)
            (runFrom (Pool.step Caller.code) (Pool.idle d) es) later := by
  have hguarded : AllStates (Pool.step Caller.code)
      (fun p => Guarded p ∧ Pool.Unstarted Caller.code p) (Pool.idle d) es :=
    Lib.invariant (fun p e h => ⟨h.1.step e, h.2.preserved Caller.code e⟩)
      ⟨.idle hd, fun t ht => absurd ht List.not_mem_nil⟩ es
  refine ⟨hguarded.mono fun _ h => h.1.exclusive, fun t ht x hcompleted later => ?_⟩
  obtain ⟨hlast, hunstarted⟩ := hguarded.last
  have hclosed := Lib.invariant (I := Closed _ t.call.key x) (fun p e h => h.step e)
    ⟨hlast, hunstarted, hlast.settled t ht x hcompleted, fun j u hu _ hafter =>
      Or.inl (hafter u hu)⟩ later
  exact hclosed.mono fun _ h => h.answered

/-- A payment that has failed once under its key. -/
def failedKey : RecordKey := ⟨.paymentInitiate, "retry-1", 0⟩

def failedKeyDb : Db where
  idempotencyRecord := Table.empty.insert { Caller.processingRecord failedKey with status := .failed }

lemma failedKeyDb_unique : KeysUnique failedKeyDb.idempotencyRecord :=
  KeysUnique.insert (fun i j r r' h => by cases h) fun i r' h => by cases h

/-- A caller whose work is done at once. -/
def retry (created : Id) : Caller := ⟨failedKey, pure created, trivial⟩

/-- Two retries find the failed record, both delete it and both try to create a new one. -/
def retries : List (Event Caller) :=
  [.start (retry 10), .start (retry 11), .sched 0, .sched 1, .sched 0, .sched 1, .sched 1,
    .sched 0, .sched 1]

theorem key_exclusion_retries :
    AllStates (Pool.step Caller.code) OneInside (Pool.idle failedKeyDb) retries ∧
      ∀ later, AllStates (Pool.step Caller.code)
        (Answered (runFrom (Pool.step Caller.code) (Pool.idle failedKeyDb) retries) failedKey 11)
        (runFrom (Pool.step Caller.code) (Pool.idle failedKeyDb) retries) later :=
  ⟨(key_exclusion failedKeyDb failedKeyDb_unique retries).1,
    (key_exclusion failedKeyDb failedKeyDb_unique retries).2 _
      (List.mem_of_getElem? (i := 1) rfl) 11 rfl⟩

/-- The second retry has won, and the first one is told to wait. -/
example : (runFrom (Pool.step Caller.code) (Pool.idle failedKeyDb)
    retries).shared.idempotencyRecord.values.map IdempotencyRecord.status = [.succeeded] := by
  decide +kernel

end Asoju
