/-
The sweeps over open payments, and the events that arrive in between.

Each sweep reads the open payments first and then writes them one after the other, whatever they
have become in the meantime: an event of a success can arrive between two of its writes, or while
the provider is asked about one of the payments.  `sweeps_spare_paid_iff` says when a payment that
has been PAID is never set to EXPIRED or PROCESSING afterwards: exactly when no write of a sweep
finds on its payment the time of a verification.

Audit events and notifications are left out; they write no payment.
-/
import Asoju.Payments
import Asoju.Lib.Faults
import Asoju.Lib.Pool

namespace Asoju

open Lib CommerceService

/-- A sweep, with the answers of the provider if it asks for them, or a verified event. -/
inductive PaymentCall
  | expirySweep
  | verificationSweep (verify : Reference → Except String VerifyTransactionResult)
  | chargeSuccess (reference : Reference) (amountKobo : ℚ)
  | chargeFailed (reference : Reference)

def PaymentCall.code (env : Env) : PaymentCall → Svc Unit
  | expirySweep => do let _ ← runPaymentExpirySweep env
  | verificationSweep verify => do let _ ← runPaymentVerificationSweep env verify
  | chargeSuccess r a => do let _ ← handleVerifiedCasePayment r a
  | chargeFailed r => do let _ ← handleFailedCasePayment r

abbrev PaymentThread := Thread Db Act HttpError Unit PaymentCall

abbrev PaymentPool := Pool Db Act HttpError Unit PaymentCall

/-! ## The stages of a sweep -/

/-- Where a call stands.  An event stays at the start. -/
inductive SweepStage
  | start
  /-- The clock has been read. -/
  | timed (now : Time)
  /-- These payments are still to be expired. -/
  | expiring (ids : List Id)
  /-- The provider has been asked about the first one, and will be about the others. -/
  | polling (asked : Option (Id × Payment)) (rest : List (Id × Payment))
deriving DecidableEq

namespace SweepStage

variable (env : Env)

def nextExpiring : SweepStage → Act → Db → SweepStage
  | start, _, s => timed s.clock
  | timed now, _, s => expiring ((stalePayments env now s).map Prod.fst)
  | expiring ids, _, _ => expiring ids.tail
  | polling asked rest, _, _ => polling asked rest

def nextPolling : SweepStage → Act → Db → SweepStage
  | start, _, s => timed s.clock
  | timed now, _, s => polling none (verificationCandidates env now s)
  | polling asked rest, l, _ =>
      if l = .provider then polling rest.head? rest.tail else polling asked rest
  | expiring ids, _, _ => expiring ids

/-- The stage that an action leads to. -/
def next : PaymentCall → SweepStage → Act → Db → SweepStage
  | .expirySweep => nextExpiring env
  | .verificationSweep _ => nextPolling env
  | .chargeSuccess .. | .chargeFailed .. => fun st _ _ => st

end SweepStage

/-- The provider reports the transaction as still in flight. -/
def inFlight : Except String VerifyTransactionResult → Bool
  | .ok (.reported .pending _) | .ok (.reported .ongoing _) | .ok (.reported .queued _) => true
  | _ => false

/-- The payment that the sweep writes by itself in its next action, and the status it sets. -/
def SweepStage.target : PaymentCall → SweepStage → Act → Option (Id × PaymentStatus)
  | .expirySweep, .expiring (i :: _), _ => some (i, .expired)
  | .verificationSweep verify, .polling (some (i, p)) _, l =>
      if l = .update .payment ∧ inFlight (verify p.providerReference) = true ∧
        p.status ≠ .processing then some (i, .processing)
      else none
  | _, _, _ => none

/-- What the events may do to the payments. -/
inductive EventWrite (s s' : Db) : Prop
  | none (h : s'.payment = s.payment)
  | paid (i : Id) (h : s'.payment = s.payment.modify i fun p =>
      { p with status := .paid, providerWebhookVerifiedAt := some s.clock })
  | closed (i : Id) (status : PaymentStatus)
      (hstatus : status = .reconciliationRequired ∨ status = .failed)
      (h : s'.payment = s.payment.modify i fun p => { p with status })

/-- What the next action may do to the payments. -/
def SweepStage.Allows (c : PaymentCall) (st : SweepStage) (l : Act) (s s' : Db) : Prop :=
  match st.target c l with
  | some (i, status) => s'.payment = s.payment.modify i fun p => { p with status }
  | none => EventWrite s s'

/-- The protocol of a call. -/
def PaymentCall.protocol (env : Env) (c : PaymentCall) : Protocol Db Act SweepStage where
  relies _ := True
  init := .start
  next := SweepStage.next env c
  allows st l s s' := st.Allows c l s s'
  final _ := True

/-! ## The handlers of the events -/

section Events

/-- A step that asks the provider nothing and writes what an event may write. -/
def EventStep (l : Act) (s s' : Db) : Prop := l ≠ .provider ∧ EventWrite s s'

lemma eachStep_query {γ : Type} (m : Model) (q : Db → γ) :
    (Prisma.query m q).EachStep EventStep :=
  fun _ => ⟨⟨by simp, .none rfl⟩, trivial⟩

lemma eachStep_create {β : Type} {r : Rel β} (hr : ∀ d t, (r.set d t).payment = d.payment)
    (b : Time → β) : (Prisma.create r b).EachStep EventStep :=
  fun s => ⟨⟨by simp, .none (hr s _)⟩, trivial⟩

/-- A change of a row, which may be missing. -/
lemma eachStep_update {β : Type} {r : Rel β} {i : Id} {f : Time → β → β}
    (h : ∀ s, EventWrite s (s.modifyRow r i (f s.clock))) :
    (Prisma.update r i f).EachStep EventStep := by
  refine fun s => ⟨⟨by simp, h s⟩, ?_⟩
  dsimp only
  cases (r.get s).get? i <;> trivial

lemma eachStep_updateCase (i : Id) (f : Time → ServiceCase → ServiceCase) :
    (Prisma.update .serviceCase i f).EachStep EventStep :=
  eachStep_update fun _ => .none rfl

lemma eachStep_transition (i : Id) (toStatus : CaseStatus) (reason : Option String) :
    (CasesService.systemTransitionCase i toStatus reason).EachStep EventStep := by
  rw [CasesService.systemTransitionCase, CasesService.applyTransition]
  refine .bind (eachStep_query _ _) fun c => ?_
  cases c with
  | none => trivial
  | some c =>
    dsimp only
    refine .bind ?_ fun _ => ?_
    · rw [assertValidTransition]
      split_ifs <;> trivial
    · refine .bind (eachStep_updateCase i _) fun updated => ?_
      exact .bind (eachStep_create (r := .caseStatusHistory) (fun _ _ => rfl) _) fun _ => trivial

lemma eachStep_chargeSuccess (reference : Reference) (amountKobo : ℚ) :
    (handleVerifiedCasePayment reference amountKobo).EachStep EventStep := by
  rw [handleVerifiedCasePayment]
  refine .bind (eachStep_query _ _) fun x => ?_
  cases x with
  | none => trivial
  | some x =>
    dsimp only
    by_cases hamount : (x.payment.expectedKobo : ℚ) ≠ amountKobo
    · rw [if_pos hamount]
      by_cases hpaid : x.payment.status ≠ .paid
      · rw [if_pos hpaid]
        refine .bind (eachStep_update fun s => ?_) fun _ => ?_
        · exact .closed x.id .reconciliationRequired (Or.inl rfl) rfl
        · exact .bind (eachStep_updateCase _ _) fun _ => trivial
      · rw [if_neg hpaid]
        trivial
    · rw [if_neg hamount]
      by_cases hpaid : x.payment.status = .paid
      · rw [if_pos hpaid]
        trivial
      · rw [if_neg hpaid]
        refine .bind (eachStep_update fun s => ?_) fun _ => ?_
        · exact .paid x.id rfl
        · refine .bind (eachStep_updateCase _ _) fun c => ?_
          split_ifs
          · exact .bind (eachStep_transition _ _ _) fun _ => trivial
          · trivial

lemma eachStep_chargeFailed (reference : Reference) :
    (handleFailedCasePayment reference).EachStep EventStep := by
  rw [handleFailedCasePayment]
  refine .bind (eachStep_query _ _) fun x => ?_
  cases x with
  | none => trivial
  | some x =>
    dsimp only
    split_ifs
    · trivial
    · trivial
    · exact eachStep_update fun s => .closed x.id .failed (Or.inr rfl) rfl

end Events

/-! ## Every call keeps to its protocol -/

section Follows

variable {env : Env}

/-- A program whose failures are skipped, none of whose steps leaves the stage. -/
lemma follows_skipped {P : Protocol Db Act SweepStage} {st : SweepStage} {m : Svc Unit}
    {k : Unit → Svc Unit}
    (hm : m.EachStep fun l s s' => P.next st l s = st ∧ P.allows st l s s')
    (hk : P.Follows st (k ())) : P.Follows st (tryCatch m (fun _ => pure ()) >>= k) := by
  induction m with
  | ret a => exact hk
  | fail e => exact hk
  | atom l w m ih =>
    intro s _
    obtain ⟨⟨hnext, hallows⟩, hrest⟩ := hm s
    refine ⟨hallows, ?_⟩
    rw [hnext]
    exact ih s hrest

lemma follows_event {c : PaymentCall} (hnext : ∀ st l s, SweepStage.next env c st l s = st)
    (htarget : ∀ st l, SweepStage.target c st l = none) {m : Svc Unit}
    (hm : m.EachStep EventStep) (st : SweepStage) : (c.protocol env).Follows st m := by
  induction m with
  | ret a => trivial
  | fail e => trivial
  | atom l w m ih =>
    intro s _
    obtain ⟨⟨-, hwrite⟩, hrest⟩ := hm s
    refine ⟨?_, ?_⟩
    · show SweepStage.Allows c st l s (w s)
      rw [SweepStage.Allows, htarget]
      exact hwrite
    · show (c.protocol env).Follows (SweepStage.next env c st l s) (m s)
      rw [hnext]
      exact ih s hrest

/-- The writes of the expiry sweep. -/
lemma follows_expiring (ps : List (Id × Payment)) (k : Unit → Svc Unit)
    (hk : (PaymentCall.expirySweep.protocol env).Follows (.expiring []) (k ())) :
    (PaymentCall.expirySweep.protocol env).Follows (.expiring (ps.map Prod.fst))
      (ps.forM (fun p => do
        let _ ← Prisma.update .payment p.1 fun _ q => { q with status := .expired }) >>= k) := by
  induction ps with
  | nil => exact hk
  | cons p ps ih =>
    intro s _
    refine ⟨rfl, ?_⟩
    dsimp only
    cases (Rel.payment.get s).get? p.1 with
    | none => trivial
    | some q => exact ih

/-- What the answer about a payment leads to. -/
lemma eachStep_applyVerification {verify : Reference → Except String VerifyTransactionResult}
    {i : Id} {p : Payment} {a : VerifyTransactionResult}
    (ha : verify p.providerReference = .ok a) (rest : List (Id × Payment)) :
    (applyVerification i p a).EachStep fun l s s' =>
      SweepStage.next env (.verificationSweep verify) (.polling (some (i, p)) rest) l s =
        .polling (some (i, p)) rest ∧
      SweepStage.Allows (.verificationSweep verify) (.polling (some (i, p)) rest) l s s' := by
  -- Unless the transaction is in flight, the sweep writes nothing by itself.
  have hevent : inFlight (.ok a) = false → ∀ {m : Svc Unit}, m.EachStep EventStep →
      m.EachStep fun l s s' =>
        SweepStage.next env (.verificationSweep verify) (.polling (some (i, p)) rest) l s =
          .polling (some (i, p)) rest ∧
        SweepStage.Allows (.verificationSweep verify) (.polling (some (i, p)) rest) l s s' := by
    intro hflight m hm
    refine hm.mono ?_
    rintro l s s' ⟨hl, hwrite⟩
    refine ⟨if_neg hl, ?_⟩
    rw [SweepStage.Allows, SweepStage.target, ha, hflight, if_neg (by simp)]
    exact hwrite
  have hprocessing : inFlight (.ok a) = true → (do
      if p.status ≠ .processing then
        let _ ← Prisma.update .payment i fun _ p => { p with status := .processing } :
          Svc Unit).EachStep fun l s s' =>
        SweepStage.next env (.verificationSweep verify) (.polling (some (i, p)) rest) l s =
          .polling (some (i, p)) rest ∧
        SweepStage.Allows (.verificationSweep verify) (.polling (some (i, p)) rest) l s s' := by
    intro hflight
    split_ifs with hstatus
    · intro s
      refine ⟨⟨rfl, ?_⟩, ?_⟩
      · rw [SweepStage.Allows, SweepStage.target, ha, hflight, if_pos ⟨rfl, rfl, hstatus⟩]
        rfl
      · dsimp only
        cases (Rel.payment.get s).get? i <;> trivial
    · trivial
  cases a with
  | dryRun => trivial
  | reported status amountKobo =>
    cases status with
    | success =>
      exact hevent rfl (.bind (eachStep_chargeSuccess _ amountKobo) fun _ => trivial)
    | failed => exact hevent rfl (.bind (eachStep_chargeFailed _) fun _ => trivial)
    | abandoned => exact hevent rfl (.bind (eachStep_chargeFailed _) fun _ => trivial)
    | reversed => exact hevent rfl (.bind (eachStep_chargeFailed _) fun _ => trivial)
    | pending => exact hprocessing rfl
    | ongoing => exact hprocessing rfl
    | queued => exact hprocessing rfl

/-- The rounds of the verification sweep. -/
lemma follows_polling (verify : Reference → Except String VerifyTransactionResult)
    (asked : Option (Id × Payment)) (ps : List (Id × Payment)) (k : Unit → Svc Unit)
    (hk : ∀ st, ((PaymentCall.verificationSweep verify).protocol env).Follows st (k ())) :
    ((PaymentCall.verificationSweep verify).protocol env).Follows (.polling asked ps)
      (ps.forM (fun p => verifyPayment verify p.1 p.2) >>= k) := by
  induction ps generalizing asked with
  | nil => exact hk _
  | cons p ps ih =>
    show Protocol.Follows _ _ ((verifyPayment verify p.1 p.2 >>= fun _ =>
      ps.forM fun p => verifyPayment verify p.1 p.2) >>= k)
    rw [Prog.bind_assoc]
    intro s _
    refine ⟨?_, ?_⟩
    · show SweepStage.Allows _ (.polling asked (p :: ps)) .provider s s
      have htarget : SweepStage.target (.verificationSweep verify) (.polling asked (p :: ps))
          .provider = none := by
        rcases asked with _ | ⟨i, q⟩
        · rfl
        · rw [SweepStage.target, if_neg fun h => by cases h.1]
      rw [SweepStage.Allows, htarget]
      exact .none rfl
    · dsimp only
      cases hanswer : verify p.2.providerReference with
      | error e => exact ih (some p)
      | ok a =>
        have hsteps : (applyVerification p.1 p.2 a).EachStep fun l s s' =>
            SweepStage.next env (.verificationSweep verify) (.polling (some p) ps) l s =
              .polling (some p) ps ∧
            SweepStage.Allows (.verificationSweep verify) (.polling (some p) ps) l s s' :=
          eachStep_applyVerification hanswer ps
        exact follows_skipped hsteps (ih (some p))

/-- **Every call keeps to its protocol.** -/
theorem PaymentCall.follows (c : PaymentCall) : (c.protocol env).Follows .start (c.code env) := by
  cases c with
  | expirySweep =>
    rw [code, runPaymentExpirySweep, Prog.bind_assoc]
    refine Protocol.Follows.read_bind _ fun s _ => ⟨.none rfl, ?_⟩
    rw [Prog.bind_assoc]
    refine Protocol.Follows.read_bind _ fun s₁ _ => ⟨.none rfl, ?_⟩
    rw [Prog.bind_assoc]
    exact follows_expiring (stalePayments env s.clock s₁) _ trivial
  | verificationSweep verify =>
    rw [code, runPaymentVerificationSweep, Prog.bind_assoc]
    refine Protocol.Follows.read_bind _ fun s _ => ⟨.none rfl, ?_⟩
    rw [Prog.bind_assoc]
    refine Protocol.Follows.read_bind _ fun s₁ _ => ⟨.none rfl, ?_⟩
    rw [Prog.bind_assoc]
    exact follows_polling verify none (verificationCandidates env s.clock s₁) _ fun _ => trivial
  | chargeSuccess r a =>
    have hsteps : (code env (.chargeSuccess r a)).EachStep EventStep :=
      (eachStep_chargeSuccess r a).bind fun _ => trivial
    exact follows_event (fun _ _ _ => rfl) (fun _ _ => rfl) hsteps _
  | chargeFailed r =>
    have hsteps : (code env (.chargeFailed r)).EachStep EventStep :=
      (eachStep_chargeFailed r).bind fun _ => trivial
    exact follows_event (fun _ _ _ => rfl) (fun _ _ => rfl) hsteps _

end Follows

/-! ## What has been paid -/

namespace Db

variable (d : Db) (i : Id)

/-- The payment carries the time of its verification. -/
def Verified : Prop := ∃ p, d.payment.get? i = some p ∧ p.providerWebhookVerifiedAt.isSome = true

def IsPaid : Prop := ∃ p, d.payment.get? i = some p ∧ p.status = .paid

/-- The payment has a status that only a sweep sets. -/
def Swept : Prop :=
  ∃ p, d.payment.get? i = some p ∧ (p.status = .expired ∨ p.status = .processing)

/-- The PAID payments carry the time of their verification. -/
def PaidVerified : Prop := ∀ i, d.IsPaid i → d.Verified i

/-- No payment that has been verified is EXPIRED or PROCESSING. -/
def VerifiedKept : Prop := ∀ i, d.Verified i → ¬ d.Swept i

instance verifiedDecidable : Decidable (d.Verified i) :=
  decidable_of_iff
    ((d.payment.get? i).any fun p => p.providerWebhookVerifiedAt.isSome)
    (by cases h : d.payment.get? i <;> simp [Verified, h])

end Db

section Writes

variable {s s' : Db} {i j : Id} {f : Payment → Payment}

/-- The rows of the payments after a change of one of them. -/
lemma payment_cases (h : s'.payment = s.payment.modify j f) {p : Payment}
    (hp : s'.payment.get? i = some p) :
    (i ≠ j ∧ s.payment.get? i = some p) ∨ (i = j ∧ ∃ q, s.payment.get? j = some q ∧ p = f q) := by
  rw [h] at hp
  by_cases hij : i = j
  · subst hij
    rw [Table.get?_modify_self] at hp
    obtain ⟨q, hq, rfl⟩ := Option.map_eq_some_iff.mp hp
    exact Or.inr ⟨rfl, q, hq, rfl⟩
  · rw [Table.get?_modify_of_ne _ hij] at hp
    exact Or.inl ⟨hij, hp⟩

lemma payment_get (h : s'.payment = s.payment.modify j f) {p : Payment}
    (hp : s.payment.get? i = some p) :
    s'.payment.get? i = some (if i = j then f p else p) := by
  rw [h]
  by_cases hij : i = j
  · subst hij
    rw [Table.get?_modify_self, hp, if_pos rfl, Option.map_some]
  · rw [Table.get?_modify_of_ne _ hij, hp, if_neg hij]

/-- A change that keeps the time of the verification. -/
lemma verified_iff_of_modify (h : s'.payment = s.payment.modify j f)
    (hf : ∀ p, (f p).providerWebhookVerifiedAt = p.providerWebhookVerifiedAt) :
    s'.Verified i ↔ s.Verified i := by
  constructor
  · rintro ⟨p, hp, hverified⟩
    rcases payment_cases h hp with ⟨-, hp⟩ | ⟨rfl, q, hq, rfl⟩
    · exact ⟨p, hp, hverified⟩
    · exact ⟨q, hq, hf q ▸ hverified⟩
  · rintro ⟨p, hp, hverified⟩
    refine ⟨_, payment_get h hp, ?_⟩
    split_ifs
    · rwa [hf]
    · exact hverified

/-- The payments that a change with another status than PAID leaves PAID. -/
lemma isPaid_of_modify (h : s'.payment = s.payment.modify j f) (hf : ∀ p, (f p).status ≠ .paid)
    (hpaid : s'.IsPaid i) : s.IsPaid i := by
  obtain ⟨p, hp, hstatus⟩ := hpaid
  rcases payment_cases h hp with ⟨-, hp⟩ | ⟨-, q, -, rfl⟩
  · exact ⟨p, hp, hstatus⟩
  · exact absurd hstatus (hf q)

/-- The payments that a change with another status leaves EXPIRED or PROCESSING. -/
lemma swept_of_modify (h : s'.payment = s.payment.modify j f)
    (hf : ∀ p, (f p).status ≠ .expired ∧ (f p).status ≠ .processing) (hswept : s'.Swept i) :
    s.Swept i ∧ i ≠ j := by
  obtain ⟨p, hp, hstatus⟩ := hswept
  rcases payment_cases h hp with ⟨hij, hp⟩ | ⟨-, q, -, rfl⟩
  · exact ⟨⟨p, hp, hstatus⟩, hij⟩
  · rcases hstatus with hstatus | hstatus
    · exact absurd hstatus (hf q).1
    · exact absurd hstatus (hf q).2

/-- What an event writes verifies exactly the payments it sets to PAID. -/
lemma EventWrite.verified_iff (h : EventWrite s s') (hpaid : s.PaidVerified) :
    s'.Verified i ↔ s.Verified i ∨ s'.IsPaid i := by
  cases h with
  | none h =>
    rw [Db.Verified, Db.IsPaid, h]
    exact (or_iff_left_of_imp (hpaid i)).symm
  | closed j status hstatus h =>
    rw [verified_iff_of_modify h fun _ => rfl]
    refine (or_iff_left_of_imp fun hnow => hpaid i (isPaid_of_modify h (fun _ => ?_) hnow)).symm
    rcases hstatus with rfl | rfl <;> simp
  | paid j h =>
    constructor
    · rintro ⟨p, hp, hverified⟩
      rcases payment_cases h hp with ⟨-, hp⟩ | ⟨rfl, q, hq, rfl⟩
      · exact Or.inl ⟨p, hp, hverified⟩
      · exact Or.inr ⟨_, hp, rfl⟩
    · rintro (⟨p, hp, hverified⟩ | ⟨p, hp, hstatus⟩)
      · refine ⟨_, payment_get h hp, ?_⟩
        split_ifs
        · rfl
        · exact hverified
      · rcases payment_cases h hp with ⟨hij, hp'⟩ | ⟨rfl, q, hq, rfl⟩
        · obtain ⟨q, hq, hverified⟩ := hpaid i ⟨p, hp', hstatus⟩
          cases hp'.symm.trans hq
          exact ⟨p, hp, hverified⟩
        · exact ⟨_, hp, rfl⟩

/-- What an event writes sets no payment to EXPIRED or PROCESSING. -/
lemma EventWrite.verifiedKept (h : EventWrite s s') (hkept : s.VerifiedKept) :
    s'.VerifiedKept := by
  intro i hverified hswept
  cases h with
  | none h =>
    refine hkept i ?_ ?_
    · rwa [Db.Verified, h] at hverified
    · rwa [Db.Swept, h] at hswept
  | closed j status hstatus h =>
    rw [verified_iff_of_modify h fun _ => rfl] at hverified
    refine hkept i hverified (swept_of_modify h (fun _ => ?_) hswept).1
    rcases hstatus with rfl | rfl <;> simp
  | paid j h =>
    obtain ⟨hswept, hij⟩ := swept_of_modify h (fun _ => by simp) hswept
    obtain ⟨p, hp, hstamp⟩ := hverified
    rcases payment_cases h hp with ⟨-, hp⟩ | ⟨rfl, -⟩
    · exact hkept i ⟨p, hp, hstamp⟩ hswept
    · exact hij rfl

/-- A sweep sets no other status. -/
lemma SweepStage.target_status {c : PaymentCall} {st : SweepStage} {l : Act}
    {status : PaymentStatus} (h : st.target c l = some (i, status)) :
    status = .expired ∨ status = .processing := by
  rw [SweepStage.target.eq_def] at h
  split at h
  · cases h
    exact Or.inl rfl
  · split_ifs at h
    cases h
    exact Or.inr rfl
  · cases h

/-- The payments that an action verifies are those that it sets to PAID. -/
lemma SweepStage.Allows.verified_iff {c : PaymentCall} {st : SweepStage} {l : Act}
    (h : st.Allows c l s s') (hpaid : s.PaidVerified) :
    s'.Verified i ↔ s.Verified i ∨ s'.IsPaid i := by
  rw [SweepStage.Allows] at h
  cases htarget : st.target c l with
  | none =>
    rw [htarget] at h
    exact EventWrite.verified_iff h hpaid
  | some x =>
    rw [htarget] at h
    rw [verified_iff_of_modify h fun _ => rfl]
    refine (or_iff_left_of_imp fun hnow => hpaid i (isPaid_of_modify h (fun _ => ?_) hnow)).symm
    rcases SweepStage.target_status htarget with hstatus | hstatus <;>
    · show x.2 ≠ .paid
      rw [hstatus]
      decide

/-- **An action keeps what has been verified** exactly when it is no write of a sweep to such a
payment. -/
lemma SweepStage.Allows.verifiedKept_iff {c : PaymentCall} {st : SweepStage} {l : Act}
    (h : st.Allows c l s s') (hkept : s.VerifiedKept) :
    s'.VerifiedKept ↔ ∀ x ∈ st.target c l, ¬ s.Verified x.1 := by
  rw [SweepStage.Allows] at h
  cases htarget : st.target c l with
  | none =>
    rw [htarget] at h
    exact iff_of_true (EventWrite.verifiedKept h hkept) (by simp)
  | some x =>
    rw [htarget] at h
    have hverified : ∀ {i}, s'.Verified i ↔ s.Verified i := verified_iff_of_modify h fun _ => rfl
    simp only [Option.mem_def, Option.some.injEq, forall_eq']
    constructor
    · rintro hkept' ⟨p, hp, hstamp⟩
      refine hkept' x.1 (hverified.mpr ⟨p, hp, hstamp⟩) ⟨_, payment_get h hp, ?_⟩
      rw [if_pos rfl]
      exact SweepStage.target_status htarget
    · rintro hnot i hi ⟨p, hp, hstatus⟩
      rw [hverified] at hi
      rcases payment_cases h hp with ⟨-, hp⟩ | ⟨rfl, -⟩
      · exact hkept i hi ⟨p, hp, hstatus⟩
      · exact hnot hi

end Writes

/-! ## Every interleaving -/

section Runs

variable (env : Env)

/-- The payment that a sweep writes by itself in its next step. -/
def sweepTarget (t : PaymentThread) : Option Id :=
  t.rest.next?.bind fun l =>
    (((t.call.protocol env).phase t.done).target t.call l).map Prod.fst

/-- A sweep that writes a payment by itself finds no time of a verification on it. -/
def WritesUnverified (p : PaymentPool) : Event PaymentCall → Prop
  | .start _ => True
  | .sched k => ∀ t ∈ p.threads[k]?, ∀ i ∈ sweepTarget env t, ¬ p.shared.Verified i

instance writesUnverifiedDecidable (p : PaymentPool) : ∀ e, Decidable (WritesUnverified env p e)
  | .start _ => inferInstanceAs (Decidable True)
  | .sched k => inferInstanceAs (Decidable (∀ t ∈ p.threads[k]?, ∀ i ∈ sweepTarget env t,
      ¬ p.shared.Verified i))

/-- The payment has been PAID: it was verified before the run, or it is PAID at some point of
it. -/
def BeenPaid (d : Db) (es : List (Event PaymentCall)) (i : Id) : Prop :=
  d.Verified i ∨
    Once (Pool.step (PaymentCall.code env)) (fun p => p.shared.IsPaid i) (Pool.idle d) es

/-- What is known of a pool at every moment. -/
structure SweepsOk (p : PaymentPool) : Prop where
  tracked : Pool.Tracked (PaymentCall.protocol env) p
  paid : p.shared.PaidVerified

variable {env}

lemma SweepsOk.idle {d : Db} (hpaid : d.PaidVerified) : SweepsOk env (Pool.idle d) :=
  ⟨Pool.tracked_idle _ d, hpaid⟩

/-- What a step does to the payments: nothing, or what the stage of its thread allows. -/
lemma SweepsOk.step_cases {p : PaymentPool} (h : SweepsOk env p) (e : Event PaymentCall) :
    ((p.step (PaymentCall.code env) e).shared = p.shared ∧ WritesUnverified env p e) ∨
      ∃ c st l, SweepStage.Allows c st l p.shared (p.step (PaymentCall.code env) e).shared ∧
        (WritesUnverified env p e ↔ ∀ x ∈ st.target c l, ¬ p.shared.Verified x.1) := by
  rcases h.tracked.step (PaymentCall.code env) (fun _ => trivial) e with
    ⟨k, rfl, hfinished, hstep⟩ | ⟨c, rfl, hstep⟩ | ⟨k, t, l, w, m, rfl, ht, hrest, hallows, hstep⟩
  · refine Or.inl ⟨by rw [hstep], fun t ht i hi => ?_⟩
    have hnext := hfinished t ht
    rw [Thread.Finished] at hnext
    rw [sweepTarget, hnext] at hi
    cases hi
  · exact Or.inl ⟨by rw [hstep], trivial⟩
  · refine Or.inr ⟨t.call, (t.call.protocol env).phase t.done, l, by rw [hstep]; exact hallows, ?_⟩
    have htarget : sweepTarget env t =
        (((t.call.protocol env).phase t.done).target t.call l).map Prod.fst := by
      rw [sweepTarget, hrest]
      rfl
    simp [WritesUnverified, ht, htarget]

lemma SweepsOk.verified_iff {p : PaymentPool} (h : SweepsOk env p) (e : Event PaymentCall)
    (i : Id) : (p.step (PaymentCall.code env) e).shared.Verified i ↔
      p.shared.Verified i ∨ (p.step (PaymentCall.code env) e).shared.IsPaid i := by
  rcases h.step_cases e with ⟨heq, -⟩ | ⟨c, st, l, hallows, -⟩
  · rw [heq]
    exact (or_iff_left_of_imp (h.paid i)).symm
  · exact hallows.verified_iff h.paid

lemma SweepsOk.step {p : PaymentPool} (h : SweepsOk env p) (e : Event PaymentCall) :
    SweepsOk env (p.step (PaymentCall.code env) e) where
  tracked := h.tracked.preserved _ (fun c => c.follows) (fun _ => trivial) e
  paid i hpaid := (h.verified_iff e i).mpr (Or.inr hpaid)

/-- The payments that have been PAID are those that carry the time of their verification. -/
lemma verified_iff_beenPaid {d : Db} (hpaid : d.PaidVerified) (es : List (Event PaymentCall))
    (i : Id) : (runFrom (Pool.step (PaymentCall.code env)) (Pool.idle d) es).shared.Verified i ↔
      BeenPaid env d es i :=
  record_iff_start_or_once (I := SweepsOk env) (R := fun p => p.shared.Verified i)
    (Q := fun p => p.shared.IsPaid i) (fun _ e h => h.step e)
    (fun _ e h => h.verified_iff e i) (.idle hpaid) (hpaid i) es

variable (env)

/-- **The sweeps spare what has been PAID**: in an interleaving of any sweeps and events no payment
that has been PAID is ever set to EXPIRED or PROCESSING, exactly when no sweep writes to a payment
that carries the time of a verification. -/
theorem sweeps_spare_paid_iff {d : Db} (hpaid : d.PaidVerified) (hkept : d.VerifiedKept)
    (es : List (Event PaymentCall)) :
    (∀ pre, pre <+: es → ∀ i, BeenPaid env d pre i →
      ¬ (runFrom (Pool.step (PaymentCall.code env)) (Pool.idle d) pre).shared.Swept i) ↔
    AllSteps (Pool.step (PaymentCall.code env)) (WritesUnverified env) (Pool.idle d) es := by
  rw [← allStates_iff_allSteps_of_invariant (I := fun p => SweepsOk env p ∧ p.shared.VerifiedKept)
    (Q := fun p => p.shared.VerifiedKept) (fun _ h => h.2) ?_ ?_ ⟨.idle hpaid, hkept⟩,
    allStates_iff_prefix]
  · refine forall₂_congr fun pre _ => forall_congr' fun i => ?_
    rw [verified_iff_beenPaid hpaid]
  · rintro p e ⟨hok, hkept⟩ hwrites
    refine ⟨hok.step e, ?_⟩
    rcases hok.step_cases e with ⟨heq, -⟩ | ⟨c, st, l, hallows, hiff⟩
    · rwa [heq]
    · exact (hallows.verifiedKept_iff hkept).mpr (hiff.mp hwrites)
  · rintro p e ⟨hok, hkept⟩ hkept'
    rcases hok.step_cases e with ⟨-, hwrites⟩ | ⟨c, st, l, hallows, hiff⟩
    · exact hwrites
    · exact hiff.mpr ((hallows.verifiedKept_iff hkept).mp hkept')

end Runs

/-- One open payment of 1000 naira, which is `age` milliseconds old. -/
def openPaymentDb (age : Time) : Db where
  clock := age
  customer := Table.empty.insert { userId := 7 }
  serviceCase := Table.empty.insert
    { customerId := 0, serviceType := .propertyInspection, description := "Site visit"
      location := "Lekki", status := .awaitingPayment }
  invoice := Table.empty.insert ⟨0, none, ⟨100000⟩, "NGN"⟩
  payment := Table.empty.insert
    { invoiceId := 0, amount := ⟨100000⟩, providerReference := .caseInvoice 0 0, createdAt := 0 }

lemma openPaymentDb_payment {age : Time} {i : Id} {p : Payment}
    (h : (openPaymentDb age).payment.get? i = some p) :
    p.status = .pending ∧ p.providerWebhookVerifiedAt = none := by
  have hmem := (Table.mem_values_iff _).mpr ⟨i, h⟩
  obtain rfl := List.mem_singleton.mp hmem
  exact ⟨rfl, rfl⟩

lemma openPaymentDb_not_verified (age : Time) (i : Id) : ¬ (openPaymentDb age).Verified i := by
  rintro ⟨p, hp, hstamp⟩
  rw [(openPaymentDb_payment hp).2] at hstamp
  cases hstamp

lemma openPaymentDb_paidVerified (age : Time) : (openPaymentDb age).PaidVerified := by
  rintro i ⟨p, hp, hstatus⟩
  rw [(openPaymentDb_payment hp).1] at hstatus
  cases hstatus

/-- The success arrives before the sweep reads. -/
def successThenSweep : List (Event PaymentCall) :=
  [.start (.chargeSuccess (.caseInvoice 0 0) 100000), .start .expirySweep, .sched 0, .sched 0,
    .sched 1, .sched 1, .sched 1]

theorem sweeps_spare_paid_iff_successThenSweep :
    AllSteps (Pool.step (PaymentCall.code {})) (WritesUnverified {})
      (Pool.idle (openPaymentDb 90000000)) successThenSweep ∧
    ∀ pre, pre <+: successThenSweep → ∀ i, BeenPaid {} (openPaymentDb 90000000) pre i →
      ¬ (runFrom (Pool.step (PaymentCall.code {})) (Pool.idle (openPaymentDb 90000000)) pre
        ).shared.Swept i := by
  have hwrites : AllSteps (Pool.step (PaymentCall.code {})) (WritesUnverified {})
      (Pool.idle (openPaymentDb 90000000)) successThenSweep := by decide +kernel
  exact ⟨hwrites, (sweeps_spare_paid_iff {} (openPaymentDb_paidVerified _)
    (fun i h => absurd h (openPaymentDb_not_verified _ i)) _).mpr hwrites⟩

/-- The sweep has read the payment when its success arrives, and writes it after that. -/
def successInBetween (sweep : PaymentCall) (reads : ℕ) : List (Event PaymentCall) :=
  [.start sweep, .start (.chargeSuccess (.caseInvoice 0 0) 100000)] ++
    List.replicate reads (.sched 0) ++ [.sched 1, .sched 1] ++ [.sched 0]

/-- The provider still reports the transaction as pending. -/
def stillPending : PaymentCall := .verificationSweep fun _ => .ok (.reported .pending 0)

/-- A payment that is a day old is PAID and then EXPIRED, and one that is ten minutes old is PAID
and then PROCESSING. -/
theorem paid_then_swept :
    (¬ ∀ pre, pre <+: successInBetween .expirySweep 2 → ∀ i,
      BeenPaid {} (openPaymentDb 90000000) pre i →
      ¬ (runFrom (Pool.step (PaymentCall.code {})) (Pool.idle (openPaymentDb 90000000)) pre
        ).shared.Swept i) ∧
    ¬ ∀ pre, pre <+: successInBetween stillPending 3 → ∀ i,
      BeenPaid {} (openPaymentDb 600000) pre i →
      ¬ (runFrom (Pool.step (PaymentCall.code {})) (Pool.idle (openPaymentDb 600000)) pre
        ).shared.Swept i := by
  constructor
  · intro hall
    have hswept : ((runFrom (Pool.step (PaymentCall.code {})) (Pool.idle (openPaymentDb 90000000))
        (successInBetween .expirySweep 2)).shared.payment.get? 0).map
          (fun p => (p.status, p.providerWebhookVerifiedAt.isSome)) = some (.expired, true) := by
      decide +kernel
    obtain ⟨p, hp, hstatus⟩ := Option.map_eq_some_iff.mp hswept
    have hbeen := (verified_iff_beenPaid (openPaymentDb_paidVerified _) _ 0).mp
      ⟨p, hp, congrArg Prod.snd hstatus⟩
    exact hall _ (List.prefix_refl _) 0 hbeen ⟨p, hp, Or.inl (congrArg Prod.fst hstatus)⟩
  · intro hall
    have hswept : ((runFrom (Pool.step (PaymentCall.code {})) (Pool.idle (openPaymentDb 600000))
        (successInBetween stillPending 3)).shared.payment.get? 0).map
          (fun p => (p.status, p.providerWebhookVerifiedAt.isSome)) = some (.processing, true) := by
      decide +kernel
    obtain ⟨p, hp, hstatus⟩ := Option.map_eq_some_iff.mp hswept
    have hbeen := (verified_iff_beenPaid (openPaymentDb_paidVerified _) _ 0).mp
      ⟨p, hp, congrArg Prod.snd hstatus⟩
    exact hall _ (List.prefix_refl _) 0 hbeen ⟨p, hp, Or.inr (congrArg Prod.fst hstatus)⟩

end Asoju
