/-
Retries under an idempotency key.

A method that takes an idempotency key works between `begin` and `complete`, and a failure of it
is recorded by `fail`, so that the client may try again.  The resource is created in the middle of
the work: an attempt that fails after that leaves the resource behind and the key free, and the
next attempt creates a second one.  `keyed_retry_once` says that this is the only way: as long as
no attempt fails after it has created the resource, there is at most one.
-/
import Asoju.CaseConversion
import Asoju.KeyExclusion
import Asoju.Operations
import Asoju.Lib.Faults

namespace Asoju

open Lib

/-! ## The methods -/

/-- The steps at which an attempt fails, if it does: a step of `begin`, of the answer to a
request that has succeeded before, of the work and its completion, and of the record of a
failure. -/
structure Faults where
  begin : Option (ℕ × HttpError) := none
  reload : Option (ℕ × HttpError) := none
  work : Option (ℕ × HttpError) := none
  fail : Option (ℕ × HttpError) := none
deriving DecidableEq, Repr

namespace Keyed

variable {β : Type}

/-- The answer to a request that has succeeded before. -/
def reload (r : Rel β) (resultReference : Option Id) : Svc Id := do
  let some i := resultReference | throw (.internal "No record to look for")
  let some _ ← Prisma.findUnique r i | throw (.internal "No record found")
  return i

/-- The work and its completion. -/
def completed (key : RecordKey) (work : Svc Id) : Svc Id := do
  let created ← work
  IdempotencyService.complete key created
  return created

/-- What a method does once it may proceed. -/
def attempt (key : RecordKey) (work : Svc Id) (faults : Faults) : Svc Id := do
  try (completed key work).withFault faults.work
  catch err =>
    (IdempotencyService.fail key).withFault faults.fail
    throw err

/-- A method under a key. -/
def keyed (r : Rel β) (key : RecordKey) (work : Svc Id) (faults : Faults) : Svc Id := do
  match ← (IdempotencyService.begin key).withFault faults.begin with
  | .replay resultReference => (reload r resultReference).withFault faults.reload
  | .shouldProceed => attempt key work faults

/-- The key of a request; an empty one counts as none. -/
def recordKey (operation : IdempotencyOperation) (actorId : Id) (idempotencyKey : Option String) :
    Option RecordKey :=
  (idempotencyKey.filter (· ≠ "")).map fun key => ⟨operation, key, actorId⟩

def createServiceRequest (toLowerCase : String → String) (user : AuthenticatedUser)
    (dto : CreateServiceRequestDto) (idempotencyKey : Option String) (faults : Faults) : Svc Id :=
  let work := CasesService.doCreateServiceRequest toLowerCase user dto
  match recordKey .serviceRequestCreate user.id idempotencyKey with
  | some key => keyed .serviceRequest key work faults
  | none => work.withFault faults.work

/-- The work of `initiatePayment`. -/
def doInitiatePayment (actor : AuthenticatedUser) (invoiceId : Id) (nonce : Fin (2 ^ 32))
    (checkout : Except String Unit) : Svc Id := do
  let paymentId ← CommerceService.initiatePayment actor invoiceId nonce checkout
  Prisma.audit
  return paymentId

def initiatePayment (actor : AuthenticatedUser) (invoiceId : Id) (nonce : Fin (2 ^ 32))
    (checkout : Except String Unit) (idempotencyKey : Option String) (faults : Faults) : Svc Id :=
  let work := doInitiatePayment actor invoiceId nonce checkout
  match recordKey .paymentInitiate actor.id idempotencyKey with
  | some key => keyed .payment key work faults
  | none => work.withFault faults.work

end Keyed

/-! ## Work that creates one row -/

/-- The program creates at most one row of the table, in its step number `k`; it does not fail
after that on its own, and it leaves the idempotency records alone. -/
structure InsertsAt {β : Type} (r : Rel β) (k : ℕ) (work : Svc Id) : Prop where
  records : LeavesRecords work
  bounded : ∀ fault s, (r.get ((work.withFault fault).exec s)).next ≤ (r.get s).next + 1
  early : ∀ n e s, n ≤ k → (r.get ((work.failAt n e).exec s)).next = (r.get s).next
  clean : ∀ s e s', work.run s = (.error e, s') → (r.get s').next = (r.get s).next

section Counting

variable {β : Type} (r : Rel β) (k : ℕ)

/-- Programs that leave the idempotency records alone and create a row of the table in their
step number `k` at most.  The phase is the number of steps. -/
def counting : Protocol Db Act ℕ where
  relies _ := True
  init := 0
  next p _ _ := p + 1
  allows p l s s' :=
    (l ≠ .update .idempotencyRecord ∧ s'.idempotencyRecord = s.idempotencyRecord) ∧
    (r.get s').next ≤ (r.get s).next + (if p = k then 1 else 0) ∧
      (p ≠ k → (r.get s').next = (r.get s).next)
  final _ := True

variable {r k} {α : Type} {m : Svc α} {p : ℕ}

/-- After the step number `k` no row is created. -/
lemma counting_of_eachStep (hp : k < p)
    (h : m.EachStep fun l s s' =>
      (l ≠ .update .idempotencyRecord ∧ s'.idempotencyRecord = s.idempotencyRecord) ∧
        (r.get s').next = (r.get s).next) : (counting r k).Follows p m := by
  induction m generalizing p with
  | ret a => trivial
  | fail e => trivial
  | atom l w kont ih =>
    intro s _
    obtain ⟨⟨hrecord, hnext⟩, hrest⟩ := h s
    have hlater : k < (counting r k).next p l s := Nat.lt_succ_of_lt hp
    exact ⟨⟨hrecord, by rw [hnext]; exact Nat.le_add_right _ _, fun _ => hnext⟩, ih s hlater hrest⟩

/-- The step that creates the row. -/
lemma counting_creates {l : Act} {s s' : Db} (hl : l ≠ .update .idempotencyRecord)
    (hrecord : s'.idempotencyRecord = s.idempotencyRecord) (hnext : (r.get s').next = (r.get s).next + 1) : (counting r k).allows k l s s' :=
  ⟨⟨hl, hrecord⟩, by rw [if_pos rfl, hnext], fun h => absurd rfl h⟩

/-- A step that leaves the two tables alone. -/
lemma counting_skips {l : Act} {s s' : Db} (hl : l ≠ .update .idempotencyRecord)
    (hrecord : s'.idempotencyRecord = s.idempotencyRecord) (hnext : (r.get s').next = (r.get s).next) : (counting r k).allows p l s s' :=
  ⟨⟨hl, hrecord⟩, by rw [hnext]; exact Nat.le_add_right _ _, fun _ => hnext⟩

lemma counting_bounded (h : (counting r k).Follows p m) (s : Db) :
    (r.get (m.exec s)).next ≤ (r.get s).next + if p ≤ k then 1 else 0 := by
  induction m generalizing p s with
  | ret a => exact Nat.le_add_right _ _
  | fail e => exact Nat.le_add_right _ _
  | atom l w kont ih =>
    obtain ⟨⟨-, hle, hsame⟩, hrest⟩ := h s trivial
    have hrec := ih s hrest (w s)
    show (r.get ((kont s).exec (w s))).next ≤ _
    change _ ≤ _ + if p + 1 ≤ k then 1 else 0 at hrec
    rcases Nat.lt_trichotomy p k with hlt | heq | hgt
    · have hw := hsame (by omega)
      rw [if_pos (by omega)] at hrec ⊢
      omega
    · rw [if_pos heq] at hle
      rw [if_neg (by omega)] at hrec
      rw [if_pos (by omega)]
      omega
    · have hw := hsame (by omega)
      rw [if_neg (by omega)] at hrec ⊢
      omega

lemma counting_failAt (h : (counting r k).Follows p m) (n : ℕ) (e : HttpError) :
    (counting r k).Follows p (m.failAt n e) := by
  induction m generalizing p n with
  | ret a => cases n <;> trivial
  | fail e' => cases n <;> trivial
  | atom l w kont ih =>
    cases n with
    | zero => trivial
    | succ n => exact fun s hs => ⟨(h s hs).1, ih s (h s hs).2 n⟩

lemma counting_early (h : (counting r k).Follows p m) {n : ℕ} (hn : p + n ≤ k) (e : HttpError)
    (s : Db) : (r.get ((m.failAt n e).exec s)).next = (r.get s).next := by
  induction m generalizing p n s with
  | ret a => cases n <;> rfl
  | fail e' => cases n <;> rfl
  | atom l w kont ih =>
    cases n with
    | zero => rfl
    | succ n =>
      obtain ⟨⟨-, -, hsame⟩, hrest⟩ := h s trivial
      have hlater : (counting r k).next p l s + n ≤ k := by
        show p + 1 + n ≤ k
        omega
      exact (ih s hrest hlater (w s)).trans (hsame (by omega))

/-- What is left to show is that a failure of the program on its own leaves no row behind. -/
lemma InsertsAt.of_counting {work : Svc Id} (h : (counting r k).Follows 0 work)
    (hclean : ∀ s e s', work.run s = (.error e, s') → (r.get s').next = (r.get s).next) :
    InsertsAt r k work where
  records := Prog.EachStep.of_follows (P := counting r k) (fun _ => trivial)
    (fun _ _ _ _ h => h.1) h
  bounded fault s := by
    have hfollows : (counting r k).Follows 0 (work.withFault fault) := by
      cases fault with
      | none => exact h
      | some x => exact counting_failAt h x.1 x.2
    have hle := counting_bounded hfollows s
    rwa [if_pos (Nat.zero_le k)] at hle
  early n e s hn := counting_early h (by omega) e s
  clean := hclean

end Counting

section Attempts

open Keyed

variable {β : Type} {r : Rel β} {k : ℕ} {work : Svc Id} {key : RecordKey}

lemma InsertsAt.records_withFault (h : InsertsAt r k work) (fault : Option (ℕ × HttpError))
    (s : Db) : ((work.withFault fault).exec s).idempotencyRecord = s.idempotencyRecord :=
  ((h.records.mono fun _ _ _ h => h.2).withFault fault).exec_eq s

/-- The database after the completion of the work. -/
lemma completed_ok {fault : Option (ℕ × HttpError)} {s s' : Db} {i : Id}
    (h : ((completed key work).withFault fault).run s = (.ok i, s')) :
    work.run s = (.ok i, work.exec s) ∧ s' = Caller.completedDb key i (work.exec s) := by
  have hrun := Prog.run_of_withFault h
  rw [completed, Prog.run_bind] at hrun
  rcases hwork : work.run s with ⟨e | j, s''⟩
  · rw [hwork] at hrun
    cases hrun
  · rw [hwork] at hrun
    cases hrun
    rw [Prog.exec, hwork]
    exact ⟨rfl, rfl⟩

/-- An attempt that fails leaves behind what the work, with its fault, has done. -/
lemma completed_error {fault : Option (ℕ × HttpError)} {s s' : Db} {e : HttpError}
    (h : ((completed key work).withFault fault).run s = (.error e, s')) :
    s' = (work.withFault fault).exec s := by
  cases fault with
  | none =>
    change (completed key work).run s = _ at h
    show s' = work.exec s
    rw [completed, Prog.run_bind] at h
    rw [Prog.exec]
    rcases hwork : work.run s with ⟨e' | i, s''⟩ <;> rw [hwork] at h <;> cases h
    rfl
  | some x =>
    obtain ⟨n, e'⟩ := x
    change ((completed key work).failAt n e').run s = _ at h
    show s' = (work.failAt n e').exec s
    rcases Nat.lt_or_ge n (work.steps s) with hn | hn
    · rw [completed, Prog.failAt_bind_of_lt hn] at h
      cases h
      rfl
    · rw [completed, Prog.failAt_bind_of_le hn] at h
      rw [Prog.exec, Prog.run_failAt_of_le hn]
      rcases hwork : work.run s with ⟨e'' | i, s''⟩
      · rw [hwork] at h
        cases h
        rfl
      · rw [hwork] at h
        -- The fault is at the completion, which is not performed.
        cases hm : n - work.steps s with
        | zero =>
          rw [hm] at h
          cases h
          rfl
        | succ m =>
          rw [hm] at h
          cases m <;> cases h

/-- The first record of the key has not failed. -/
def KeyClosed (key : RecordKey) (t : Table IdempotencyRecord) : Prop :=
  ∃ x, t.rows.find? (fun p => p.2.key = key) = some x ∧ x.2.status ≠ .failed

/-- Under a closed key `begin` does nothing and does not let the caller proceed. -/
lemma begin_of_closed {s : Db} (h : KeyClosed key s.idempotencyRecord)
    (fault : Option (ℕ × HttpError)) :
    ∃ a, ((IdempotencyService.begin key).withFault fault).run s = (a, s) ∧
      a ≠ .ok .shouldProceed := by
  obtain ⟨⟨i, record⟩, hfound, hstatus⟩ := h
  have hrun : ∃ a, (IdempotencyService.begin key).run s = (a, s) ∧ a ≠ .ok .shouldProceed ∧
      (IdempotencyService.begin key).steps s = 1 := by
    have hanswer : Caller.answer key (s.recordByKey key) = Caller.answer key (some (i, record)) := by
      rw [Db.recordByKey, hfound]
    obtain ⟨operation, idempotencyKey, actorId, resultReference, status⟩ := record
    rw [Caller.begin_eq, Prog.steps_bind, Prog.run_bind_ok (Prisma.run_query ..),
      Prisma.run_query]
    dsimp only
    rw [hanswer]
    cases status with
    | failed => exact absurd rfl hstatus
    | processing => exact ⟨_, rfl, by simp, rfl⟩
    | succeeded => exact ⟨_, rfl, by simp, rfl⟩
  obtain ⟨a, hrun, ha, hsteps⟩ := hrun
  cases fault with
  | none => exact ⟨a, hrun, ha⟩
  | some x =>
    obtain ⟨n, e⟩ := x
    show ∃ a, ((IdempotencyService.begin key).failAt n e).run s = (a, s) ∧ _
    cases n with
    | zero =>
      refine ⟨.error e, ?_, by simp⟩
      rw [Caller.begin_eq]
      rfl
    | succ n => exact ⟨a, by rw [Prog.run_failAt_of_le (by omega), hrun], ha⟩

/-- `begin` touches the records and nothing else. -/
lemma begin_eachStep {ν : Type} {v : Db → ν}
    (hv : ∀ (s : Db) (t : Table IdempotencyRecord) (c : Time),
      v { s with idempotencyRecord := t, clock := c } = v s) (key : RecordKey) :
    (IdempotencyService.begin key).EachStep fun _ s s' => v s' = v s := by
  have hcreate : (IdempotencyService.createRecord key).EachStep fun _ s s' => v s' = v s := by
    intro s
    refine ⟨?_, ?_⟩
    · dsimp only
      split
      · rfl
      · exact hv s _ _
    · dsimp only
      split <;> trivial
  rw [Caller.begin_eq]
  refine Prog.EachStep.bind (fun s => ⟨rfl, trivial⟩) fun found => ?_
  unfold Caller.answer
  split
  · exact hcreate
  · split
    · trivial
    · trivial
    · refine Prog.EachStep.bind (fun s => ⟨hv s _ _, ?_⟩) fun _ => hcreate
      dsimp only
      split <;> trivial

lemma clearRecord_run (i : Id) (s : Db) :
    (IdempotencyService.clearRecord i).run s = (.ok (), s.eraseRow .idempotencyRecord i) := by
  rw [IdempotencyService.clearRecord, Prog.run_tryCatch, Prisma.run_delete]
  cases ((Rel.idempotencyRecord.get s).get? i).isSome <;> rfl

/-- A new record in process closes the key. -/
lemma closed_of_createRecord {s s' : Db}
    (h : (IdempotencyService.createRecord key).run s = (.ok .shouldProceed, s')) :
    KeyClosed key s'.idempotencyRecord := by
  cases hfound : s.recordByKey key with
  | some x =>
    simp [IdempotencyService.createRecord, Prog.run_bind, Prog.run_tryCatch, hfound] at h
  | none =>
    simp only [IdempotencyService.createRecord, Prog.run_tryCatch, Prog.run_bind,
      Prisma.run_createUnique, hfound, Option.isSome_none, Bool.false_eq_true, if_false,
      Prog.run_pure] at h
    cases h
    refine ⟨(s.idempotencyRecord.next, Caller.processingRecord key), ?_, by
      simp [Caller.processingRecord]⟩
    show (s.idempotencyRecord.insert _).rows.find? _ = _
    rw [Db.recordByKey] at hfound
    rw [Table.rows_insert, List.find?_append, hfound]
    simp [Caller.processingRecord, IdempotencyRecord.key]

/-- A caller that may proceed has closed the key. -/
lemma closed_of_begin {fault : Option (ℕ × HttpError)} {s s' : Db}
    (h : ((IdempotencyService.begin key).withFault fault).run s = (.ok .shouldProceed, s')) :
    KeyClosed key s'.idempotencyRecord := by
  have hrun := Prog.run_of_withFault h
  rw [Caller.begin_eq, Prog.run_bind_ok (Prisma.run_query ..)] at hrun
  unfold Caller.answer at hrun
  split at hrun
  · exact closed_of_createRecord hrun
  · split at hrun
    · cases hrun
    · cases hrun
    · rw [Prog.run_bind_ok (clearRecord_run ..)] at hrun
      exact closed_of_createRecord hrun

/-- The outcome of the caller that has closed the key leaves it closed, if it has completed. -/
lemma KeyClosed.completed {s : Db} (h : KeyClosed key s.idempotencyRecord) (i : Id) :
    KeyClosed key (Caller.completedDb key i s).idempotencyRecord := by
  obtain ⟨⟨j, record⟩, hfound, -⟩ := h
  have hkey : record.key = key := by simpa using List.find?_some hfound
  refine ⟨(j, { record with status := .succeeded, resultReference := some i }), ?_, by simp⟩
  -- The completion changes the record, and its key stays.
  have hkeys : ∀ r : IdempotencyRecord, (if r.key = key then
      { r with status := .succeeded, resultReference := some i } else r).key = r.key := by
    intro r
    split_ifs <;> rfl
  show (s.idempotencyRecord.modifyWhere _ _).rows.find? _ = _
  simp only [Table.modifyWhere, Table.mapRows, List.find?_map, Function.comp_def,
    decide_eq_true_eq, hkeys, hfound, Option.map_some, hkey, if_true]

/-- The attempt does not fail after it has created the resource, or its failure cannot be
recorded either.  The work is done in the state that `begin` leaves behind; the resource is
created in its step number `k`. -/
def Harmless (k : ℕ) (key : RecordKey) (work : Svc Id) (faults : Faults) (s : Db) : Prop :=
  ∀ n e, faults.work = some (n, e) →
    n ≤ k ∨ (completed key work).steps ((IdempotencyService.begin key).exec s) ≤ n ∨
      ∃ e', faults.fail = some (0, e')

/-- The table is not the one of the idempotency records. -/
def Apart (r : Rel β) : Prop :=
  ∀ (s : Db) (t : Table IdempotencyRecord) (c : Time),
    (r.get { s with idempotencyRecord := t, clock := c }).next = (r.get s).next

/-- The state after the work has failed. -/
lemma InsertsAt.failed (h : InsertsAt r k work) {faults : Faults} {s s' s'' : Db} {e : HttpError}
    (hs' : s' = (IdempotencyService.begin key).exec s) (hsafe : Harmless k key work faults s)
    (hrun : ((completed key work).withFault faults.work).run s' = (.error e, s'')) :
    (r.get s'').next = (r.get s').next ∨ ∃ e', faults.fail = some (0, e') := by
  have hexec := completed_error hrun
  have hclean : (completed key work).run s' = (.error e, s'') →
      (r.get s'').next = (r.get s').next := by
    intro hbody
    rw [completed, Prog.run_bind] at hbody
    rcases hwork : work.run s' with ⟨e' | i, t⟩ <;> rw [hwork] at hbody <;> cases hbody
    exact h.clean s' e s'' hwork
  cases hfault : faults.work with
  | none =>
    rw [hfault] at hrun
    exact Or.inl (hclean hrun)
  | some x =>
    obtain ⟨n, e'⟩ := x
    rcases hsafe n e' hfault with hn | hn | hn
    · rw [hexec, hfault]
      exact Or.inl (h.early n e' s' hn)
    · rw [hfault] at hrun
      rw [← hs'] at hn
      change ((completed key work).failAt n e').run s' = _ at hrun
      rw [Prog.run_failAt_of_le hn] at hrun
      exact Or.inl (hclean hrun)
    · exact Or.inr hn

/-- The state after the failure of an attempt has been recorded, or could not be. -/
lemma attempt_exec_error {faults : Faults} {s s' : Db} {e : HttpError}
    (h : ((completed key work).withFault faults.work).run s = (.error e, s')) :
    (attempt key work faults).exec s =
      ((IdempotencyService.fail key).withFault faults.fail).exec s' := by
  rw [Prog.exec, attempt, Prog.run_tryCatch, h]
  dsimp only
  rw [Prog.run_bind, Prog.exec]
  rcases ((IdempotencyService.fail key).withFault faults.fail).run s' with ⟨_ | _, _⟩ <;> rfl

lemma attempt_exec_ok {faults : Faults} {s s' : Db} {i : Id}
    (h : ((completed key work).withFault faults.work).run s = (.ok i, s')) :
    (attempt key work faults).exec s = s' := by
  rw [Prog.exec, attempt, Prog.run_tryCatch, h]

/-- What an attempt that may proceed creates. -/
lemma attempt_spec (hr : Apart r) (h : InsertsAt r k work) {faults : Faults} {s s' : Db}
    (hs' : s' = (IdempotencyService.begin key).exec s) (hsafe : Harmless k key work faults s)
    (hclosed : KeyClosed key s'.idempotencyRecord) :
    (r.get ((attempt key work faults).exec s')).next = (r.get s').next ∨
      (r.get ((attempt key work faults).exec s')).next ≤ (r.get s').next + 1 ∧
        KeyClosed key ((attempt key work faults).exec s').idempotencyRecord := by
  rcases hbody : ((completed key work).withFault faults.work).run s' with ⟨e | i, s₂⟩
  · rw [attempt_exec_error hbody]
    have hs₂ := completed_error hbody
    have hfail : (r.get (((IdempotencyService.fail key).withFault faults.fail).exec s₂)).next =
        (r.get s₂).next := by
      refine (Prog.EachStep.withFault ?_ faults.fail).exec_eq (v := fun s => (r.get s).next) s₂
      exact fun s => ⟨hr s _ _, trivial⟩
    rcases h.failed hs' hsafe hbody with hsame | ⟨e', hfault⟩
    · exact Or.inl (hfail.trans hsame)
    · -- The resource may be there, but the record stays in process.
      right
      refine ⟨?_, ?_⟩
      · rw [hfail, hs₂]
        exact h.bounded faults.work s'
      · have hs₃ : ((IdempotencyService.fail key).withFault faults.fail).exec s₂ = s₂ := by
          rw [hfault]
          rfl
        rw [hs₃, hs₂, h.records_withFault]
        exact hclosed
  · right
    rw [attempt_exec_ok hbody]
    obtain ⟨-, rfl⟩ := completed_ok hbody
    refine ⟨?_, ?_⟩
    · refine (le_of_eq (hr (work.exec s') _ _)).trans ?_
      exact h.bounded none s'
    · refine KeyClosed.completed ?_ i
      rw [← h.records_withFault none s'] at hclosed
      exact hclosed

/-- **One attempt**: it creates nothing, or it leaves the key closed; under a closed key it does
nothing. -/
lemma keyed_spec (hr : Apart r) (h : InsertsAt r k work) {faults : Faults} {s : Db}
    (hsafe : Harmless k key work faults s) :
    (KeyClosed key s.idempotencyRecord → (keyed r key work faults).exec s = s) ∧
      ((r.get ((keyed r key work faults).exec s)).next = (r.get s).next ∨
        (r.get ((keyed r key work faults).exec s)).next ≤ (r.get s).next + 1 ∧
          KeyClosed key ((keyed r key work faults).exec s).idempotencyRecord) := by
  have hreload : ∀ ref s', ((reload r ref).withFault faults.reload).exec s' = s' := by
    intro ref s'
    refine (Prog.EachStep.withFault ?_ faults.reload).exec_eq (v := id) s'
    cases ref with
    | none => trivial
    | some i =>
      refine Prog.EachStep.bind (fun _ => ⟨rfl, trivial⟩) fun found => ?_
      cases found <;> trivial
  have hbegin : ∀ a s', ((IdempotencyService.begin key).withFault faults.begin).run s = (a, s') →
      (r.get s').next = (r.get s).next := by
    intro a s' hrun
    have hview := ((begin_eachStep (v := fun s => (r.get s).next) hr key).withFault
      faults.begin).exec_eq s
    rw [Prog.exec, hrun] at hview
    exact hview
  constructor
  · intro hclosed
    obtain ⟨a, hrun, ha⟩ := begin_of_closed hclosed faults.begin
    rw [Prog.exec, keyed, Prog.run_bind, hrun]
    cases a with
    | error e => rfl
    | ok x =>
      cases x with
      | shouldProceed => exact absurd rfl ha
      | replay ref => exact hreload ref s
  · rcases hrun : ((IdempotencyService.begin key).withFault faults.begin).run s with ⟨a, s₁⟩
    have hrows := hbegin a s₁ hrun
    rw [← hrows]
    rcases a with e | ⟨_ | ref⟩
    · have hexec : (keyed r key work faults).exec s = s₁ := by
        rw [Prog.exec, keyed, Prog.run_bind, hrun]
      rw [hexec]
      exact Or.inl rfl
    · have hexec : (keyed r key work faults).exec s = (attempt key work faults).exec s₁ := by
        rw [Prog.exec, keyed, Prog.run_bind, hrun]
        rfl
      have hs₁ : s₁ = (IdempotencyService.begin key).exec s := by
        rw [Prog.exec, Prog.run_of_withFault hrun]
      rw [hexec]
      exact attempt_spec hr h hs₁ hsafe (closed_of_begin hrun)
    · have hexec : (keyed r key work faults).exec s =
          ((reload r ref).withFault faults.reload).exec s₁ := by
        rw [Prog.exec, keyed, Prog.run_bind, hrun]
        rfl
      rw [hexec, hreload]
      exact Or.inl rfl

/-- **Any number of attempts** under one key, none of which fails after it has created the
resource, create it at most once. -/
theorem keyed_at_most_once {ι : Type} (hr : Apart r) {work : ι → Svc Id} {faults : ι → Faults}
    (h : ∀ a, InsertsAt r k (work a)) {d : Db} {as : List ι}
    (hsafe : AllSteps (fun s a => (keyed r key (work a) (faults a)).exec s)
      (fun s a => Harmless k key (work a) (faults a) s) d as) :
    AllStates (fun s a => (keyed r key (work a) (faults a)).exec s)
      (fun s => (r.get s).next ≤ (r.get d).next + 1) d as := by
  have hall := hsafe.invariant
    (I := fun s => (r.get s).next = (r.get d).next ∨
      (r.get s).next ≤ (r.get d).next + 1 ∧ KeyClosed key s.idempotencyRecord)
    (fun s a hs hsafe => ?_) (Or.inl rfl)
  · refine hall.mono fun s hs => ?_
    rcases hs with hs | hs
    · omega
    · exact hs.1
  · obtain ⟨hclosed, hopen⟩ := keyed_spec hr (h a) hsafe
    rcases hs with hs | hs
    · rw [hs] at hopen
      exact hopen
    · rw [hclosed hs.2]
      exact Or.inr hs

end Attempts

/-! ## The work of the two methods -/

section Work

/-- The request is there. -/
def RequestThere (i : Id) (s : Db) : Prop := (s.serviceRequest.get? i).isSome

variable {i : Id}

/-- What succeeds and leaves the requests alone. -/
lemma total_of_frame {α : Type} {m : Svc α}
    (h : ∀ s, ∃ a s', m.run s = (.ok a, s') ∧ s'.serviceRequest = s.serviceRequest) :
    m.Total (RequestThere i) fun _ => RequestThere i := by
  intro s hs
  obtain ⟨a, s', hrun, hframe⟩ := h s
  refine ⟨a, s', hrun, ?_⟩
  show (s'.serviceRequest.get? i).isSome
  rw [hframe]
  exact hs

lemma total_query {γ : Type} (m : Model) (q : Db → γ) :
    (Prisma.query m q).Total (RequestThere i) fun _ => RequestThere i :=
  total_of_frame fun s => ⟨q s, s, rfl, rfl⟩

lemma total_audit : Prisma.audit.Total (RequestThere i) fun _ => RequestThere i :=
  total_of_frame fun s => ⟨(), s, rfl, rfl⟩

lemma total_poaSettled (serviceType : ServiceType) (customerId : Id) :
    (CasesService.poaSettled serviceType customerId).Total (RequestThere i)
      fun _ => RequestThere i := by
  unfold CasesService.poaSettled
  split
  · exact total_query _ _
  · exact Prog.Total.pure fun _ => id

lemma total_tierOf (chosen : Option CaseTier) (customerId : Id) :
    (CasesService.tierOf chosen customerId).Total (RequestThere i) fun _ => RequestThere i := by
  cases chosen with
  | none => exact (total_query _ _).bind fun _ => Prog.Total.pure fun _ => id
  | some tier => exact Prog.Total.pure fun _ => id

lemma total_createCase (serviceCase : ServiceCase) (changedById : Option Id) :
    (CasesService.createCase i serviceCase changedById).Total (RequestThere i)
      fun _ _ => True := by
  refine Prog.Total.bind (Q := fun caseId s => (s.serviceCase.get? caseId).isSome) ?_
    fun caseId => ?_
  · intro s hs
    let created : ServiceCase := { serviceCase with createdAt := s.clock }
    refine ⟨s.serviceCase.next, s.convertRequest i created, ?_, ?_⟩
    · have hthere : (s.serviceRequest.get? i).isSome := hs
      rw [CasesService.createConnected, Prog.run_atom, if_pos hthere, if_pos hthere]
      rfl
    · show ((s.serviceCase.insert created).get? s.serviceCase.next).isSome
      rw [Table.get?_insert_self]
      rfl
  · intro s hs
    obtain ⟨c, hc⟩ := Option.isSome_iff_exists.mp hs
    have hrow : (Rel.serviceCase.get s).get? caseId = some c := hc
    exact ⟨caseId, _, Prog.run_bind_ok (Prisma.run_update_of_some hrow _), trivial⟩

lemma total_autoConvert :
    (CasesService.autoConvert i).Total (RequestThere i) fun _ _ => True := by
  refine Prog.Total.bind (total_query _ _) fun found => ?_
  cases found with
  | none => exact Prog.Total.pure fun _ _ => trivial
  | some request =>
    dsimp only
    split
    · exact Prog.Total.pure fun _ _ => trivial
    · cases request.serviceType with
      | none => exact Prog.Total.pure fun _ _ => trivial
      | some serviceType =>
        cases request.location.filter (· ≠ "") with
        | none => exact Prog.Total.pure fun _ _ => trivial
        | some location =>
          refine Prog.Total.bind (total_poaSettled _ _) fun settled => ?_
          split
          · exact Prog.Total.pure fun _ _ => trivial
          · refine Prog.Total.bind (total_tierOf _ _) fun tier => ?_
            refine Prog.Total.bind (total_createCase _ _) fun caseId => ?_
            exact fun s _ => ⟨(), s, rfl, trivial⟩

variable (toLowerCase : String → String)

lemma total_evaluateAndRecord :
    (AutomationEligibilityService.evaluateAndRecord toLowerCase i).Total (RequestThere i)
      fun _ => RequestThere i := by
  intro s hs
  obtain ⟨request, hrequest⟩ := Option.isSome_iff_exists.mp hs
  have hrow : (Rel.serviceRequest.get s).get? i = some request := hrequest
  rw [AutomationEligibilityService.evaluateAndRecord, Prog.run_bind_ok (Prisma.run_findUnique ..),
    hrow]
  refine Prog.Total.bind (P := RequestThere i) (Q := fun _ => RequestThere i) ?_
    (fun capability => ?_) s hs
  · unfold AutomationEligibilityService.findCapability
    split
    · exact total_query _ _
    · exact Prog.Total.pure fun _ => id
  · refine Prog.Total.bind (total_query _ _) fun existing => ?_
    refine Prog.Total.bind (Q := fun _ => RequestThere i) ?_ fun escalationId => ?_
    · unfold AutomationEligibilityService.escalationOf
      split
      · exact total_of_frame fun s => ⟨_, _, rfl, rfl⟩
      · exact Prog.Total.pure fun _ => id
    · refine Prog.Total.bind (Q := fun _ => RequestThere i) (total_of_frame fun s => ?_)
        fun decision => total_audit.bind fun _ => Prog.Total.pure fun _ => id
      rw [Prisma.run_upsert]
      cases ((s.decisionByRequest i).map Prod.fst).bind (Rel.automationDecision.get s).get? <;>
        cases (s.decisionByRequest i).map Prod.fst <;> exact ⟨_, _, rfl, rfl⟩

/-- What is done for a request after it has been created never fails. -/
lemma total_afterCreation :
    (Prisma.audit >>= fun _ => CasesService.evaluateAutomationAndMaybeConvert toLowerCase i >>=
      fun _ => (pure i : Svc Id)).Total (RequestThere i) fun _ _ => True := by
  refine Prog.Total.bind total_audit fun _ => Prog.Total.bind (Q := fun _ _ => True) ?_
    fun _ => Prog.Total.pure fun _ => id
  refine Prog.Total.bind (total_evaluateAndRecord toLowerCase) fun decision => ?_
  dsimp only
  split
  · exact total_autoConvert.bind fun _ => Prog.Total.pure fun _ => id
  · exact Prog.Total.pure fun _ _ => trivial

/-- What is done for a request after it has been created creates no request. -/
lemma aside_afterCreation :
    (Prisma.audit >>= fun _ => CasesService.evaluateAutomationAndMaybeConvert toLowerCase i >>=
      fun _ => (pure i : Svc Id)).EachStep fun l s s' =>
        (l ≠ .update .idempotencyRecord ∧ s'.idempotencyRecord = s.idempotencyRecord) ∧
          (Rel.serviceRequest.get s').next = (Rel.serviceRequest.get s).next := by
  refine Prog.EachStep.of_follows (P := conversions i) (p := ()) (fun _ => trivial)
    (fun _ _ _ _ h => ⟨⟨h.1, h.2.1.1⟩, h.2.1.2⟩) ?_
  refine follows_conversions_bind (by simp) fun _ => ?_
  exact follows_conversions_bind (follows_evaluateAutomationAndMaybeConvert _) (by simp)

/-- The creation of a request is its step number 1. -/
lemma insertsAt_doCreateServiceRequest (user : AuthenticatedUser) (dto : CreateServiceRequestDto) :
    InsertsAt .serviceRequest 1 (CasesService.doCreateServiceRequest toLowerCase user dto) := by
  refine InsertsAt.of_counting ?_ fun s e s' hrun => ?_
  · rw [CasesService.doCreateServiceRequest, CasesService.requireCustomerProfile, Prog.bind_assoc]
    refine Prisma.follows_query_bind fun s _ => ⟨counting_skips (by simp) rfl rfl, ?_⟩
    cases CasesService.customerProfile s user.id with
    | none => trivial
    | some x =>
      dsimp only
      rw [Prog.pure_bind]
      refine Prisma.follows_create_bind fun s' _ => ⟨counting_creates (by simp) rfl rfl, ?_⟩
      exact counting_of_eachStep (Nat.lt_succ_self 1) (aside_afterCreation toLowerCase)
  · rw [CasesService.doCreateServiceRequest, CasesService.requireCustomerProfile, Prog.bind_assoc,
      Prog.run_bind_ok (Prisma.run_query ..)] at hrun
    cases hcustomer : CasesService.customerProfile s user.id with
    | none =>
      rw [hcustomer] at hrun
      cases hrun
      rfl
    | some x =>
      -- With a customer the request is created, and nothing fails after that.
      rw [hcustomer] at hrun
      dsimp only at hrun
      rw [Prog.pure_bind, Prog.run_bind_ok (Prisma.run_create ..)] at hrun
      have hthere : ∀ row, RequestThere s.serviceRequest.next (s.insertRow .serviceRequest row) := by
        intro row
        show ((s.serviceRequest.insert row).get? s.serviceRequest.next).isSome
        rw [Table.get?_insert_self]
        rfl
      obtain ⟨a, s'', hok, -⟩ := total_afterCreation toLowerCase _ (hthere
        { customerId := x.1, rawDescription := dto.rawDescription, location := dto.location
          channel := dto.channel, serviceType := dto.serviceType })
      cases hok.symm.trans hrun

/-- A checkout that is refused writes nothing. -/
lemma initiatePayment_error {actor : AuthenticatedUser} {invoiceId : Id} {nonce : Fin (2 ^ 32)}
    {checkout : Except String Unit} {s s' : Db} {e : HttpError}
    (h : (CommerceService.initiatePayment actor invoiceId nonce checkout).run s = (.error e, s')) :
    s' = s := by
  rw [CommerceService.initiatePayment] at h
  cases hdetail : s.invoiceDetail invoiceId with
  | none => simp_all [Prog.run_bind]
  | some detail =>
    by_cases hu : detail.userId = actor.id
    · cases hp : detail.alreadyPaid with
      | true => simp_all [Prog.run_bind]
      | false =>
        cases checkout with
        | error e => simp_all [Prog.run_bind, Except.mapError]
        | ok _ =>
          cases hc : s.referenceTaken (.caseInvoice invoiceId nonce) <;>
            simp_all [Prog.run_bind, Except.mapError]
    · simp_all [Prog.run_bind]

/-- The creation of a payment is its step number 2. -/
lemma insertsAt_doInitiatePayment (actor : AuthenticatedUser) (invoiceId : Id)
    (nonce : Fin (2 ^ 32)) (checkout : Except String Unit) :
    InsertsAt .payment 2 (Keyed.doInitiatePayment actor invoiceId nonce checkout) := by
  refine InsertsAt.of_counting ?_ fun s e s' hrun => ?_
  · rw [Keyed.doInitiatePayment, CommerceService.initiatePayment, Prog.bind_assoc]
    refine Prisma.follows_query_bind fun s _ => ⟨counting_skips (by simp) rfl rfl, ?_⟩
    cases s.invoiceDetail invoiceId with
    | none => trivial
    | some detail =>
      dsimp only
      split
      · trivial
      · split
        · trivial
        · rw [Prog.bind_assoc]
          refine Prisma.follows_callProvider_bind fun s' _ =>
            ⟨counting_skips (by simp) rfl rfl, trivial, fun _ => ?_⟩
          refine Prisma.follows_createUnique_bind (P := counting .payment 2) (p := 2)
            (fun _ _ _ => ⟨counting_skips (by simp) rfl rfl, trivial⟩) fun _ _ _ =>
              ⟨counting_creates (by simp) rfl rfl, fun _ _ => ⟨counting_skips (by simp) rfl rfl, trivial⟩⟩
  · rw [Keyed.doInitiatePayment, Prog.run_bind] at hrun
    rcases hwork : (CommerceService.initiatePayment actor invoiceId nonce checkout).run s with
      ⟨e' | i, t⟩
    · rw [hwork] at hrun
      cases hrun
      rw [initiatePayment_error hwork]
    · rw [hwork] at hrun
      cases hrun

end Work

/-! ## Sequences of attempts -/

/-- A customer sends a request with a key; the request may change from one attempt to the next. -/
structure CreateAttempt where
  dto : CreateServiceRequestDto
  faults : Faults

/-- A customer starts a checkout with a key. -/
structure PayAttempt where
  invoiceId : Id
  nonce : Fin (2 ^ 32)
  checkout : Except String Unit
  faults : Faults

namespace CreateAttempt

variable (toLowerCase : String → String) (user : AuthenticatedUser) (idempotencyKey : String)

def work (a : CreateAttempt) : Svc Id :=
  CasesService.doCreateServiceRequest toLowerCase user a.dto

/-- One attempt after another. -/
def step (s : Db) (a : CreateAttempt) : Db :=
  (Keyed.createServiceRequest toLowerCase user a.dto (some idempotencyKey) a.faults).exec s

/-- The attempt does not fail after it has created the request. -/
def Safe (s : Db) (a : CreateAttempt) : Prop :=
  Harmless 1 ⟨.serviceRequestCreate, idempotencyKey, user.id⟩ (a.work toLowerCase user) a.faults s

end CreateAttempt

namespace PayAttempt

variable (actor : AuthenticatedUser) (idempotencyKey : String)

def work (a : PayAttempt) : Svc Id :=
  Keyed.doInitiatePayment actor a.invoiceId a.nonce a.checkout

/-- One attempt after another. -/
def step (s : Db) (a : PayAttempt) : Db :=
  (Keyed.initiatePayment actor a.invoiceId a.nonce a.checkout (some idempotencyKey)
    a.faults).exec s

/-- The attempt does not fail after it has created the payment. -/
def Safe (s : Db) (a : PayAttempt) : Prop :=
  Harmless 2 ⟨.paymentInitiate, idempotencyKey, actor.id⟩ (a.work actor) a.faults s

end PayAttempt

/-- The number of rows of the table that have been created since the database was `d`. -/
def created {β : Type} (r : Rel β) (d d' : Db) : ℕ := (r.get d').next - (r.get d).next

/-- **A keyed retry creates the resource at most once**, a request and a payment alike, as long
as no attempt fails after it has created it. -/
theorem keyed_retry_once (toLowerCase : String → String) (user : AuthenticatedUser)
    (idempotencyKey : String) (hkey : idempotencyKey ≠ "") (d : Db) :
    (∀ attempts, AllSteps (CreateAttempt.step toLowerCase user idempotencyKey)
        (CreateAttempt.Safe toLowerCase user idempotencyKey) d attempts →
      AllStates (CreateAttempt.step toLowerCase user idempotencyKey)
        (fun d' => created .serviceRequest d d' ≤ 1) d attempts) ∧
    ∀ attempts, AllSteps (PayAttempt.step user idempotencyKey)
        (PayAttempt.Safe user idempotencyKey) d attempts →
      AllStates (PayAttempt.step user idempotencyKey) (fun d' => created .payment d d' ≤ 1) d
        attempts := by
  have hrecordKey : ∀ operation, Keyed.recordKey operation user.id (some idempotencyKey) =
      some ⟨operation, idempotencyKey, user.id⟩ := fun operation => by
    simp [Keyed.recordKey, hkey]
  constructor
  · intro attempts hsafe
    have hstep : CreateAttempt.step toLowerCase user idempotencyKey = fun s a =>
        (Keyed.keyed .serviceRequest ⟨.serviceRequestCreate, idempotencyKey, user.id⟩
          (a.work toLowerCase user) a.faults).exec s := by
      funext s a
      rw [CreateAttempt.step, Keyed.createServiceRequest, hrecordKey]
      rfl
    have hinserts : ∀ a : CreateAttempt, InsertsAt .serviceRequest 1 (a.work toLowerCase user) :=
      fun a => insertsAt_doCreateServiceRequest toLowerCase user a.dto
    have hapart : Apart .serviceRequest := fun _ _ _ => rfl
    rw [hstep] at hsafe ⊢
    have hall := keyed_at_most_once hapart hinserts hsafe
    refine hall.mono fun s hs => ?_
    rw [created]
    omega
  · intro attempts hsafe
    have hstep : PayAttempt.step user idempotencyKey = fun s a =>
        (Keyed.keyed .payment ⟨.paymentInitiate, idempotencyKey, user.id⟩ (a.work user)
          a.faults).exec s := by
      funext s a
      rw [PayAttempt.step, Keyed.initiatePayment, hrecordKey]
      rfl
    have hinserts : ∀ a : PayAttempt, InsertsAt .payment 2 (a.work user) := fun a =>
      insertsAt_doInitiatePayment user a.invoiceId a.nonce a.checkout
    have hapart : Apart .payment := fun _ _ _ => rfl
    rw [hstep] at hsafe ⊢
    have hall := keyed_at_most_once hapart hinserts hsafe
    refine hall.mono fun s hs => ?_
    rw [created]
    omega

/-- A request that is not open to automation. -/
def generatorDto : CreateServiceRequestDto := ⟨"A generator", some "Lagos", "web", none⟩

/-- An attempt that does not reach its creation, and two that do not fail. -/
def harmlessRequests : List CreateAttempt :=
  [⟨generatorDto, { work := some (1, .internal "connection lost") }⟩, ⟨generatorDto, {}⟩,
    ⟨generatorDto, {}⟩]

def harmlessPayments : List PayAttempt :=
  [⟨0, 0, .ok (), { work := some (2, .internal "connection lost") }⟩, ⟨0, 1, .ok (), {}⟩,
    ⟨0, 2, .ok (), {}⟩]

theorem keyed_retry_once_harmless :
    AllStates (CreateAttempt.step id ⟨5, .customer⟩ "retry-1")
      (fun d' => created .serviceRequest openRequestDb d' ≤ 1) openRequestDb harmlessRequests ∧
    AllStates (PayAttempt.step ⟨7, .customer⟩ "retry-1")
      (fun d' => created .payment invoicedDb d' ≤ 1) invoicedDb harmlessPayments := by
  refine ⟨(keyed_retry_once id ⟨5, .customer⟩ "retry-1" (by decide) openRequestDb).1 _ ?_,
    (keyed_retry_once id ⟨7, .customer⟩ "retry-1" (by decide) invoicedDb).2 _ ?_⟩
  · refine ⟨?_, ?_, ?_, trivial⟩ <;> rintro n e ⟨⟩
    exact Or.inl (le_refl 1)
  · refine ⟨?_, ?_, ?_, trivial⟩ <;> rintro n e ⟨⟩
    exact Or.inl (le_refl 2)

/-- The first attempt fails when it records its audit event, and the second one succeeds. -/
def failsAtAudit : List CreateAttempt :=
  [⟨generatorDto, { work := some (2, .internal "connection lost") }⟩, ⟨generatorDto, {}⟩]

def paymentFailsAtAudit : List PayAttempt :=
  [⟨0, 0, .ok (), { work := some (3, .internal "connection lost") }⟩, ⟨0, 1, .ok (), {}⟩]

/-- The key has created the request, and the payment, twice. -/
theorem keyed_retry_twice :
    (¬ AllStates (CreateAttempt.step id ⟨5, .customer⟩ "retry-1")
      (fun d' => created .serviceRequest openRequestDb d' ≤ 1) openRequestDb failsAtAudit) ∧
    ¬ AllStates (PayAttempt.step ⟨7, .customer⟩ "retry-1")
      (fun d' => created .payment invoicedDb d' ≤ 1) invoicedDb paymentFailsAtAudit :=
  ⟨fun h => absurd h.last (by decide +kernel), fun h => absurd h.last (by decide +kernel)⟩

end Asoju
