/-
Invites and their acceptance, any number of calls at once, each of which may fail at any step.

A beneficiary is to have one account at most, and one live invite at most, and an acceptance that
throws is to have created no account.  `invites_single_use` says what that takes: no account is
created for a beneficiary who has one, or for whom another acceptance has created one just now; no
invite is created when another one has been since the call has used up the earlier ones; and an
acceptance does not fail once its account is created.
-/
import Asoju.InviteStages
import Asoju.Lib.Window

namespace Asoju

open Lib AuthService

abbrev InviteThread := Thread Db Act HttpError Unit InviteCall

abbrev InvitePool := Pool Db Act HttpError Unit InviteCall

/-! ## What is to hold -/

/-- The invite can be accepted at the time `t`. -/
def BeneficiaryInvite.Live (t : Time) (v : BeneficiaryInvite) : Prop :=
  v.usedAt = none ∧ t ≤ v.expiresAt

namespace Db

variable (d : Db)

/-- No beneficiary has two live invites. -/
def OneLiveInvite : Prop :=
  ∀ i j v w, d.beneficiaryInvite.get? i = some v → d.beneficiaryInvite.get? j = some w →
    v.beneficiaryId = w.beneficiaryId → v.Live d.clock → w.Live d.clock → i = j

/-- The beneficiary has an account. -/
def Linked (beneficiaryId : Id) : Prop :=
  (d.beneficiary.get? beneficiaryId).any (·.userId.isSome) = true

instance linkedDecidable (beneficiaryId : Id) : Decidable (d.Linked beneficiaryId) :=
  inferInstanceAs (Decidable ((d.beneficiary.get? beneficiaryId).any (·.userId.isSome) = true))

end Db

section Runs

variable (env : AuthEnv)

/-- Where a thread stands. -/
def inviteStageOf (t : InviteThread) : InviteStage := (t.call.protocol env).phase t.done

/-- The thread has created an account. -/
def hasAccount (t : InviteThread) : Bool := (inviteStageOf env t).accountOf.isSome

/-- The thread has created an account for the beneficiary. -/
def CreatedFor (beneficiaryId : Id) (t : InviteThread) : Prop :=
  (inviteStageOf env t).accountOf = some beneficiaryId

instance createdForDecidable (beneficiaryId : Id) (t : InviteThread) :
    Decidable (CreatedFor env beneficiaryId t) :=
  inferInstanceAs (Decidable ((inviteStageOf env t).accountOf = some beneficiaryId))

/-- The users that have been created are accounts of beneficiaries, at most one for each, and none
for a beneficiary who has had an account from the start. -/
structure SingleAccounts (d : Db) (p : InvitePool) : Prop where
  users : p.shared.user.next = d.user.next + p.threads.countP (hasAccount env)
  alone : ∀ b, Pool.AtMostOne (CreatedFor env b) p.threads
  fresh : ∀ b, d.Linked b → ∀ t ∈ p.threads, ¬ CreatedFor env b t

/-- A call that has thrown has created no account. -/
def NoOrphan (p : InvitePool) : Prop :=
  ∀ t ∈ p.threads, t.rest.failed = true → (inviteStageOf env t).accountOf = none

instance noOrphanDecidable (p : InvitePool) : Decidable (NoOrphan env p) :=
  inferInstanceAs (Decidable (∀ t ∈ p.threads, t.rest.failed = true →
    (inviteStageOf env t).accountOf = none))

/-- No account is created for a beneficiary who has one, or for whom another acceptance has created
one that is not the beneficiary's yet; no invite is created for a beneficiary for whom one has been
since the call has used up the earlier ones; no refresh token is created that is taken; and an
acceptance does not fail once it has created an account. -/
def OneByOne (p : InvitePool) : Event InviteCall → Prop
  | .start c => c.FailsEarly
  | .sched i => ∀ t ∈ p.threads[i]?,
      (∀ b ∈ (inviteStageOf env t).creating t.rest.next?,
        ¬ p.shared.Linked b ∧ ∀ u ∈ p.threads, (inviteStageOf env u).pending ≠ some b) ∧
      (∀ x ∈ (inviteStageOf env t).issuing t.rest.next?,
        ∀ v ∈ p.shared.beneficiaryInvite.rows, v.2.beneficiaryId = x.1 → v.1 < x.2) ∧
      ∀ x ∈ (inviteStageOf env t).signingIn t.rest.next?,
        t.call.op.tokenTaken env x.1 x.2 p.shared = false

instance failsEarlyDecidable : ∀ c : InviteCall, Decidable c.FailsEarly
  | ⟨.acceptBeneficiaryInvite .., fault⟩ => inferInstanceAs (Decidable (Prog.Outside 5 4 fault))
  | ⟨.inviteBeneficiary .., _⟩ => isTrue trivial
  | ⟨.elapse _, _⟩ => isTrue trivial

instance oneByOneDecidable (p : InvitePool) : ∀ e, Decidable (OneByOne env p e)
  | .start c => inferInstanceAs (Decidable c.FailsEarly)
  | .sched i => inferInstanceAs (Decidable (∀ t ∈ p.threads[i]?,
      (∀ b ∈ (inviteStageOf env t).creating t.rest.next?,
        ¬ p.shared.Linked b ∧ ∀ u ∈ p.threads, (inviteStageOf env u).pending ≠ some b) ∧
      (∀ x ∈ (inviteStageOf env t).issuing t.rest.next?,
        ∀ v ∈ p.shared.beneficiaryInvite.rows, v.2.beneficiaryId = x.1 → v.1 < x.2) ∧
      ∀ x ∈ (inviteStageOf env t).signingIn t.rest.next?,
        t.call.op.tokenTaken env x.1 x.2 p.shared = false))

end Runs

/-! ## Invites and accounts after a step -/

namespace Db

variable {d d' : Db} {b : Id}

/-- Accounts stay, and invites are used or left as they are, but for new ones. -/
structure Grown (d d' : Db) : Prop where
  clock : d.clock ≤ d'.clock
  rows : ∀ b, (d.beneficiary.get? b).isSome → (d'.beneficiary.get? b).isSome
  linked : ∀ b, d.Linked b → d'.Linked b
  next : d.beneficiaryInvite.next ≤ d'.beneficiaryInvite.next
  invites : ∀ i v', d'.beneficiaryInvite.get? i = some v' → i < d.beneficiaryInvite.next →
    ∃ v, d.beneficiaryInvite.get? i = some v ∧ v'.beneficiaryId = v.beneficiaryId ∧
      (v' = v ∨ v'.usedAt.isSome)

lemma KeepsInvites.linked_iff (h : d.KeepsInvites d') : d'.Linked b ↔ d.Linked b := by
  rw [Linked, Linked, h.beneficiaries]

lemma KeepsInvites.grown (h : d.KeepsInvites d') : d.Grown d' where
  clock := h.clock
  rows b hb := by rwa [h.beneficiaries]
  linked b hb := h.linked_iff.mpr hb
  next := by rw [h.invites]
  invites i v' hv' _ := ⟨v', h.invites ▸ hv', rfl, Or.inl rfl⟩

lemma CreatesAccount.grown {u : Id} (h : d.CreatesAccount d' u) : d.Grown d' where
  clock := h.clock
  rows b hb := by rwa [h.beneficiaries]
  linked b hb := by rwa [Linked, h.beneficiaries]
  next := by rw [h.invites]
  invites i v' hv' _ := ⟨v', h.invites ▸ hv', rfl, Or.inl rfl⟩

lemma LinksAccount.grown {i u : Id} (h : d.LinksAccount d' i b u) : d.Grown d' := by
  obtain ⟨-, hrows, ⟨now, hinvites⟩, hclock⟩ := h
  refine ⟨hclock, fun c hc => ?_, fun c hc => ?_, ?_, fun j v' hv' _ => ?_⟩
  · rw [hrows, Table.get?_modify]
    split_ifs
    · rwa [Option.isSome_map]
    · exact hc
  · rw [Linked, hrows, Table.get?_modify]
    rw [Linked] at hc
    split_ifs
    · cases hrow : d.beneficiary.get? c with
      | none => rw [hrow] at hc; cases hc
      | some x => rfl
    · exact hc
  · rw [hinvites]
    exact le_rfl
  · rw [hinvites, Table.get?_modify] at hv'
    split_ifs at hv'
    · obtain ⟨v, hv, rfl⟩ := Option.map_eq_some_iff.mp hv'
      exact ⟨v, hv, rfl, Or.inr rfl⟩
    · exact ⟨v', hv', rfl, Or.inl rfl⟩

/-- The account has become the beneficiary's. -/
lemma LinksAccount.linked {i u : Id} (h : d.LinksAccount d' i b u)
    (hrow : (d.beneficiary.get? b).isSome = true) : d'.Linked b := by
  obtain ⟨x, hx⟩ := Option.isSome_iff_exists.mp hrow
  rw [Linked, h.beneficiaries, Table.get?_modify_self, hx]
  rfl

lemma ClosesInvites.grown (h : d.ClosesInvites d' b) : d.Grown d' := by
  obtain ⟨-, hrows, ⟨now, hinvites⟩, hclock⟩ := h
  refine ⟨hclock, fun c hc => by rwa [hrows], fun c hc => by rwa [Linked, hrows], ?_, ?_⟩
  · rw [hinvites]
    exact le_rfl
  · intro j v' hv' _
    rw [hinvites, Table.get?_modifyWhere] at hv'
    obtain ⟨v, hv, rfl⟩ := Option.map_eq_some_iff.mp hv'
    refine ⟨v, hv, ?_, ?_⟩
    · split_ifs <;> rfl
    · split_ifs
      · exact Or.inr rfl
      · exact Or.inl rfl

/-- The invites of the beneficiary have been used up. -/
lemma ClosesInvites.used (h : d.ClosesInvites d' b) {j : Id} {v : BeneficiaryInvite}
    (hv : d'.beneficiaryInvite.get? j = some v) (hb : v.beneficiaryId = b) :
    v.usedAt.isSome = true := by
  obtain ⟨-, -, ⟨now, hinvites⟩, -⟩ := h
  rw [hinvites, Table.get?_modifyWhere] at hv
  obtain ⟨w, -, rfl⟩ := Option.map_eq_some_iff.mp hv
  split_ifs at hb ⊢ with hopen
  · rfl
  · rw [BeneficiaryInvite.openOf, decide_eq_true_eq, not_and] at hopen
    exact Option.isSome_iff_ne_none.mpr (hopen hb)

lemma CreatesInvite.grown (h : d.CreatesInvite d' b) : d.Grown d' := by
  obtain ⟨-, hrows, ⟨v, -, hinvites⟩, hclock⟩ := h
  refine ⟨hclock, fun c hc => by rwa [hrows], fun c hc => by rwa [Linked, hrows], ?_, ?_⟩
  · rw [hinvites, Table.next_insert]
    exact Nat.le_succ _
  · intro j v' hv' hj
    rw [hinvites, Table.get?_insert, if_neg hj.ne] at hv'
    exact ⟨v', hv', rfl, Or.inl rfl⟩

/-- An invite that is live has been. -/
lemma Grown.live (h : d.Grown d') {i : Id} {v' : BeneficiaryInvite}
    (hv' : d'.beneficiaryInvite.get? i = some v') (hi : i < d.beneficiaryInvite.next)
    (hlive : v'.Live d'.clock) :
    d.beneficiaryInvite.get? i = some v' ∧ v'.Live d.clock := by
  obtain ⟨v, hv, -, rfl | hused⟩ := h.invites i v' hv' hi
  · exact ⟨hv, hlive.1, h.clock.trans hlive.2⟩
  · rw [hlive.1] at hused
    cases hused

/-- Where no invite is created, there is still one live invite at most. -/
lemma OneLiveInvite.of_same (h : d.OneLiveInvite) (hgrown : d.Grown d')
    (hnext : d'.beneficiaryInvite.next = d.beneficiaryInvite.next) : d'.OneLiveInvite := by
  intro i j v w hv hw hsame hlive hlive'
  have hi := hnext ▸ d'.beneficiaryInvite.lt_next_of_get? hv
  have hj := hnext ▸ d'.beneficiaryInvite.lt_next_of_get? hw
  obtain ⟨hv₀, hvlive⟩ := hgrown.live hv hi hlive
  obtain ⟨hw₀, hwlive⟩ := hgrown.live hw hj hlive'
  exact h i j v w hv₀ hw₀ hsame hvlive hwlive

/-- An invite is created when all earlier ones of the beneficiary are used. -/
lemma OneLiveInvite.created (h : d.OneLiveInvite) (hcreates : d.CreatesInvite d' b)
    (hused : ∀ j v, d.beneficiaryInvite.get? j = some v → v.beneficiaryId = b →
      v.usedAt.isSome = true) : d'.OneLiveInvite := by
  obtain ⟨-, -, ⟨new, hnew, hinvites⟩, hclock⟩ := hcreates
  have hdead : ∀ j v t, d.beneficiaryInvite.get? j = some v → v.beneficiaryId = b →
      ¬ v.Live t := by
    intro j v t hv hb hlive
    have hsome := hused j v hv hb
    rw [hlive.1] at hsome
    cases hsome
  intro i j v w hv hw hsame hlive hlive'
  rw [hinvites] at hv hw
  rcases Table.get?_insert_cases hv with hv₀ | ⟨hi, rfl⟩
  · rcases Table.get?_insert_cases hw with hw₀ | ⟨hj, rfl⟩
    · exact h i j v w hv₀ hw₀ hsame ⟨hlive.1, hclock.trans hlive.2⟩
        ⟨hlive'.1, hclock.trans hlive'.2⟩
    · exact absurd hlive (hdead i v _ hv₀ (hsame.trans hnew))
  · rcases Table.get?_insert_cases hw with hw₀ | ⟨hj, rfl⟩
    · exact absurd hlive' (hdead j w _ hw₀ (hsame.symm.trans hnew))
    · exact hi.trans hj.symm

end Db

/-! ## The invariant -/

/-- What a call knows at its stage. -/
def InviteStage.Knows (d : Db) : InviteStage → Prop
  | cleared _ b _ | created _ b _ => (d.beneficiary.get? b).isSome = true
  | linked b _ | signing b _ _ | signed b => d.Linked b
  | refused _ => False
  | closed b n => n ≤ d.beneficiaryInvite.next ∧
      ∀ j v, d.beneficiaryInvite.get? j = some v → v.beneficiaryId = b → j < n →
        v.usedAt.isSome = true
  | accepting | holding .. | inviting _ | ended => True

lemma InviteStage.Knows.mono {stage : InviteStage} {d d' : Db} (h : stage.Knows d)
    (hgrown : d.Grown d') : stage.Knows d' := by
  cases stage with
  | accepting => trivial
  | holding i b => trivial
  | cleared i b x => exact hgrown.rows b h
  | created i b u => exact hgrown.rows b h
  | linked b u => exact hgrown.linked b h
  | signing b u now => exact hgrown.linked b h
  | refused b => exact h
  | signed b => exact hgrown.linked b h
  | inviting b => trivial
  | closed b n =>
    refine ⟨h.1.trans hgrown.next, fun j v' hv' hb hj => ?_⟩
    obtain ⟨v, hv, hsame, rfl | hused⟩ := hgrown.invites j v' hv' (hj.trans_le h.1)
    · exact h.2 j _ hv hb hj
    · exact hused
  | ended => trivial

section Step

variable {env : AuthEnv} {d₀ : Db}

/-- Whoever has an account has one only, and an acceptance that has created one goes on. -/
structure Sole (env : AuthEnv) (d₀ : Db) (p : InvitePool) : Prop where
  enduring : Pool.Enduring (InviteCall.protocol env) InviteStage.MayFail InviteCall.FailsEarly p
  oneLive : p.shared.OneLiveInvite
  linked : ∀ b, d₀.Linked b → p.shared.Linked b
  accounts : SingleAccounts env d₀ p
  knows : ∀ t ∈ p.threads, (inviteStageOf env t).Knows p.shared

lemma sole_idle (h : d₀.OneLiveInvite) : Sole env d₀ (Pool.idle d₀) where
  enduring _ ht := absurd ht List.not_mem_nil
  oneLive := h
  linked _ hb := hb
  accounts := ⟨rfl, fun _ => Pool.atMostOne_nil, fun _ _ _ ht => absurd ht List.not_mem_nil⟩
  knows _ ht := absurd ht List.not_mem_nil

variable {p : InvitePool}

lemma Sole.start (h : Sole env d₀ p) {c : InviteCall} (hc : c.FailsEarly) :
    Sole env d₀ (p.step (InviteCall.code env) (.start c)) where
  enduring := h.enduring.preserved _ (fun _ => endures_invite) (fun _ => trivial) _ fun c' hc' => by
    cases hc'
    exact hc
  oneLive := h.oneLive
  linked := h.linked
  accounts := by
    have hnobody : (inviteStageOf env ⟨c, [], c.code env⟩).accountOf = none := by
      obtain ⟨op, fault⟩ := c
      cases op <;> rfl
    have hnew : ∀ b, ¬ CreatedFor env b ⟨c, [], c.code env⟩ := by
      intro b hb
      rw [CreatedFor, hnobody] at hb
      cases hb
    refine ⟨?_, fun b => (h.accounts.alone b).concat (hnew b), fun b hb t ht => ?_⟩
    · show p.shared.user.next = _ + List.countP _ (p.threads ++ [⟨c, [], c.code env⟩])
      rw [List.countP_append, List.countP_singleton, hasAccount, hnobody]
      exact h.accounts.users
    rcases List.mem_append.mp ht with ht | ht
    · exact h.accounts.fresh b hb t ht
    · rw [List.mem_singleton.mp ht]
      exact hnew b
  knows t ht := by
    rcases List.mem_append.mp ht with ht | ht
    · exact h.knows t ht
    · rw [List.mem_singleton.mp ht]
      obtain ⟨op, fault⟩ := c
      cases op <;> trivial

variable {i : ℕ} {t t' : InviteThread} {s' : Db}

/-- What one action has to do for the others. -/
lemma Sole.moves (h : Sole env d₀ p) (hi : p.threads[i]? = some t)
    (henduring : Pool.Enduring (InviteCall.protocol env) InviteStage.MayFail InviteCall.FailsEarly
      (⟨s', p.threads.set i t'⟩ : InvitePool))
    (hone : s'.OneLiveInvite) (hgrown : p.shared.Grown s')
    (husers : s'.user.next + (if hasAccount env t then 1 else 0) =
      p.shared.user.next + (if hasAccount env t' then 1 else 0))
    (haccount : ∀ b, CreatedFor env b t' → CreatedFor env b t ∨
      ¬ d₀.Linked b ∧ ∀ u ∈ p.threads, ¬ CreatedFor env b u)
    (hknows : (inviteStageOf env t').Knows s') : Sole env d₀ ⟨s', p.threads.set i t'⟩ where
  enduring := henduring
  oneLive := hone
  linked b hb := hgrown.linked b (h.linked b hb)
  accounts := by
    refine ⟨?_, fun b => (h.accounts.alone b).set hi fun hb => (haccount b hb).imp_right And.right,
      fun b hb u hu hcreated => ?_⟩
    · have hcount := Pool.countP_set hi (hasAccount env) t'
      have hbefore := h.accounts.users
      show s'.user.next = d₀.user.next + (p.threads.set i t').countP (hasAccount env)
      omega
    rcases List.mem_or_eq_of_mem_set hu with hu | rfl
    · exact h.accounts.fresh b hb u hu hcreated
    · rcases haccount b hcreated with hold | ⟨hnot, -⟩
      · exact h.accounts.fresh b hb t (List.mem_of_getElem? hi) hold
      · exact hnot hb
  knows u hu := by
    rcases List.mem_or_eq_of_mem_set hu with hu | rfl
    · exact (h.knows u hu).mono hgrown
    · exact hknows

/-- Nobody has created an account for a beneficiary who has none, unless it is about to become the
beneficiary's. -/
lemma Sole.none_created (h : Sole env d₀ p) {b : Id} (hnot : ¬ p.shared.Linked b)
    (hpending : ∀ u ∈ p.threads, (inviteStageOf env u).pending ≠ some b) :
    ∀ u ∈ p.threads, ¬ CreatedFor env b u := by
  intro u hu hcreated
  have hknows := h.knows u hu
  have hpend := hpending u hu
  rw [CreatedFor] at hcreated
  generalize inviteStageOf env u = stage at hcreated hknows hpend
  cases stage with
  | created i b' u' => exact hpend hcreated
  | linked b' u' =>
    obtain rfl := Option.some.inj hcreated
    exact hnot hknows
  | signing b' u' now =>
    obtain rfl := Option.some.inj hcreated
    exact hnot hknows
  | signed b' =>
    obtain rfl := Option.some.inj hcreated
    exact hnot hknows
  | refused b' => exact hknows
  | accepting => cases hcreated
  | holding i b' => cases hcreated
  | cleared i b' x => cases hcreated
  | inviting b' => cases hcreated
  | closed b' n => cases hcreated
  | ended => cases hcreated

/-- An action that creates no account. -/
lemma Sole.leaves (h : Sole env d₀ p) (hi : p.threads[i]? = some t)
    (henduring : Pool.Enduring (InviteCall.protocol env) InviteStage.MayFail InviteCall.FailsEarly
      (⟨s', p.threads.set i t'⟩ : InvitePool))
    (hone : s'.OneLiveInvite) (hgrown : p.shared.Grown s') (husers : s'.user = p.shared.user)
    (hsame : (inviteStageOf env t').accountOf = (inviteStageOf env t).accountOf)
    (hknows : (inviteStageOf env t').Knows s') : Sole env d₀ ⟨s', p.threads.set i t'⟩ := by
  refine h.moves hi henduring hone hgrown ?_ (fun b hb => Or.inl ?_) hknows
  · rw [hasAccount, hasAccount, hsame, husers]
  · rwa [CreatedFor, ← hsame]

/-- An action that does nothing to users, beneficiaries and invites. -/
lemma Sole.keeps (h : Sole env d₀ p) (hi : p.threads[i]? = some t)
    (henduring : Pool.Enduring (InviteCall.protocol env) InviteStage.MayFail InviteCall.FailsEarly
      (⟨s', p.threads.set i t'⟩ : InvitePool))
    (hkeeps : p.shared.KeepsInvites s')
    (hsame : (inviteStageOf env t').accountOf = (inviteStageOf env t).accountOf)
    (hknows : (inviteStageOf env t').Knows s') : Sole env d₀ ⟨s', p.threads.set i t'⟩ :=
  h.leaves hi henduring (h.oneLive.of_same hkeeps.grown (by rw [hkeeps.invites])) hkeeps.grown
    hkeeps.users hsame hknows

/-- The creation of an account for a beneficiary who has none. -/
lemma Sole.creates (h : Sole env d₀ p) (hi : p.threads[i]? = some t)
    (henduring : Pool.Enduring (InviteCall.protocol env) InviteStage.MayFail InviteCall.FailsEarly
      (⟨s', p.threads.set i t'⟩ : InvitePool))
    {inviteId b u : Id} {x : Beneficiary} (hold : inviteStageOf env t = .cleared inviteId b x)
    (hnew : inviteStageOf env t' = .created inviteId b u) (hcreates : p.shared.CreatesAccount s' u)
    (hnot : ¬ p.shared.Linked b)
    (hpending : ∀ v ∈ p.threads, (inviteStageOf env v).pending ≠ some b) :
    Sole env d₀ ⟨s', p.threads.set i t'⟩ := by
  have hknown := h.knows t (List.mem_of_getElem? hi)
  have hone : s'.OneLiveInvite := h.oneLive.of_same hcreates.grown (by rw [hcreates.invites])
  rw [hold] at hknown
  refine h.moves hi henduring hone hcreates.grown ?_ (fun b' hb' => Or.inr ?_) ?_
  · obtain ⟨user, -, husers⟩ := hcreates.users
    rw [hasAccount, hasAccount, hold, hnew, husers]
    rfl
  · rw [CreatedFor, hnew] at hb'
    obtain rfl : b = b' := Option.some.inj hb'
    exact ⟨fun hlinked => hnot (h.linked b hlinked), h.none_created hnot hpending⟩
  · rw [hnew]
    exact hcreates.grown.rows b hknown

/-- What an orderly action does, by the stage that it is taken at. -/
lemma Sole.move (h : Sole env d₀ p) (hi : p.threads[i]? = some t) {l : Act}
    (henduring : Pool.Enduring (InviteCall.protocol env) InviteStage.MayFail InviteCall.FailsEarly
      (⟨s', p.threads.set i t'⟩ : InvitePool))
    (hmove : InviteMove env t.call.op p.shared s' (inviteStageOf env t) l (inviteStageOf env t'))
    (hcreating : ∀ b ∈ (inviteStageOf env t).creating (some l),
      ¬ p.shared.Linked b ∧ ∀ u ∈ p.threads, (inviteStageOf env u).pending ≠ some b)
    (hissuing : ∀ x ∈ (inviteStageOf env t).issuing (some l),
      ∀ v ∈ p.shared.beneficiaryInvite.rows, v.2.beneficiaryId = x.1 → v.1 < x.2)
    (hsigning : ∀ x ∈ (inviteStageOf env t).signingIn (some l),
      t.call.op.tokenTaken env x.1 x.2 p.shared = false) :
    Sole env d₀ ⟨s', p.threads.set i t'⟩ := by
  have hknown := h.knows t (List.mem_of_getElem? hi)
  generalize hold : inviteStageOf env t = stage at hmove hcreating hissuing hsigning hknown
  generalize hnew : inviteStageOf env t' = stage' at hmove
  cases hmove with
  | stays hkeeps =>
    refine h.keeps hi henduring hkeeps (by rw [hold, hnew]) ?_
    rw [hnew]
    exact hknown.mono hkeeps.grown
  | gone hkeeps hnone =>
    refine h.keeps hi henduring hkeeps (by rw [hold, hnew, hnone]; rfl) ?_
    rw [hnew]
    trivial
  | found hkeeps =>
    refine h.keeps hi henduring hkeeps (by rw [hold, hnew]; rfl) ?_
    rw [hnew]
    trivial
  | cleared hkeeps hx =>
    refine h.keeps hi henduring hkeeps (by rw [hold, hnew]; rfl) ?_
    rw [hnew]
    exact hkeeps.grown.rows _ (by rw [hx]; rfl)
  | created hcreates =>
    obtain ⟨hnot, hpending⟩ := hcreating _ rfl
    exact h.creates hi henduring hold hnew hcreates hnot hpending
  | linked hlinks =>
    have hnext : s'.beneficiaryInvite.next = p.shared.beneficiaryInvite.next := by
      obtain ⟨now, hinvites⟩ := hlinks.invites
      rw [hinvites]
      rfl
    refine h.leaves hi henduring (h.oneLive.of_same hlinks.grown hnext) hlinks.grown hlinks.users
      (by rw [hold, hnew]; rfl) ?_
    rw [hnew]
    exact hlinks.linked hknown
  | dated hkeeps =>
    refine h.keeps hi henduring hkeeps (by rw [hold, hnew]; rfl) ?_
    rw [hnew]
    exact hkeeps.grown.linked _ hknown
  | refused hkeeps htaken =>
    rw [hsigning _ rfl] at htaken
    cases htaken
  | signed hkeeps =>
    refine h.keeps hi henduring hkeeps (by rw [hold, hnew]; rfl) ?_
    rw [hnew]
    exact hkeeps.grown.linked _ hknown
  | closed hcloses =>
    have hnext : s'.beneficiaryInvite.next = p.shared.beneficiaryInvite.next := by
      obtain ⟨now, hinvites⟩ := hcloses.invites
      rw [hinvites]
      rfl
    refine h.leaves hi henduring (h.oneLive.of_same hcloses.grown hnext) hcloses.grown hcloses.users
      (by rw [hold, hnew]; rfl) ?_
    rw [hnew]
    exact ⟨hcloses.grown.next, fun j v hv hb _ => hcloses.used hv hb⟩
  | @issued b n hcreates =>
    -- every invite of the beneficiary is from before the call has used them up
    have hused : ∀ j v, p.shared.beneficiaryInvite.get? j = some v → v.beneficiaryId = b →
        v.usedAt.isSome = true := by
      intro j v hv hb
      have hj := hissuing (b, n) rfl (j, v) (p.shared.beneficiaryInvite.mem_rows_iff.mpr hv) hb
      exact hknown.2 j v hv hb hj
    refine h.leaves hi henduring (h.oneLive.created hcreates hused) hcreates.grown hcreates.users
      (by rw [hold, hnew]; rfl) ?_
    rw [hnew]
    trivial

/-- **The step lemma.** -/
theorem Sole.step (h : Sole env d₀ p) {e : Event InviteCall} (he : OneByOne env p e) :
    Sole env d₀ (p.step (InviteCall.code env) e) := by
  have hrely : ∀ c, (InviteCall.protocol env c).relies p.shared := fun _ => trivial
  have htracked := h.enduring.tracked fun _ _ => trivial
  rcases htracked.step (InviteCall.code env) hrely e with
    ⟨i, -, -, hsame⟩ | ⟨c, rfl, -⟩ | ⟨i, t, l, w, k, rfl, hi, hrest, hallows, hstep⟩
  · rw [hsame]
    exact h
  · exact h.start he
  · have henduring := h.enduring.preserved (InviteCall.code env) (fun _ => endures_invite) hrely
      (.sched i) fun _ hc => by cases hc
    rw [hstep] at henduring ⊢
    obtain ⟨hcreating, hissuing, hsigning⟩ := he t hi
    have hnext : t.rest.next? = some l := by rw [hrest]; rfl
    rw [hnext] at hcreating hissuing hsigning
    refine h.move hi henduring ?_ hcreating hissuing hsigning
    have hstage : inviteStageOf env ⟨t.call, t.done ++ [(l, p.shared)], k p.shared⟩ =
        (inviteStageOf env t).next env t.call.op l p.shared := Protocol.phase_concat _ _ _ _
    rw [hstage]
    exact hallows

/-- A call that has thrown has not got as far as its account. -/
lemma Sole.noOrphan (h : Sole env d₀ p) : NoOrphan env p := by
  intro t ht hrest
  have hknows := h.knows t ht
  rcases h.enduring.may_of_failed ht hrest with hnone | ⟨b, hrefused⟩
  · exact hnone
  · have hstage : inviteStageOf env t = .refused b := hrefused
    rw [hstage] at hknows
    exact absurd hknows id

end Step

/-! ## Every run -/

/-- **Invites are single-use.**  In every run of calls that keep order, each beneficiary has one
account at most and one live invite at most, and a call that throws has created no account. -/
theorem invites_single_use (env : AuthEnv) {d : Db} (hd : d.OneLiveInvite)
    (es : List (Event InviteCall))
    (h : AllSteps (Pool.step (InviteCall.code env)) (OneByOne env) (Pool.idle d) es) :
    AllStates (Pool.step (InviteCall.code env))
      (fun p => p.shared.OneLiveInvite ∧ SingleAccounts env d p ∧ NoOrphan env p) (Pool.idle d)
      es := by
  refine (h.invariant (I := Sole env d) ?_ (sole_idle hd)).mono fun p hp => ?_
  · exact fun p e hp he => hp.step he
  · exact ⟨hp.oneLive, hp.accounts, hp.noOrphan⟩

/-- SHA-256 where the runs below need it. -/
def inviteSha256 (text : String) : String :=
  (List.lookup text [
    ("north",
      "dc365e79d41cfae1c3c0d969319ae62165b81b1815a86c32bbc6c64cbdf2311b"),
    ("south",
      "2daa8d4a05dfc643abb44c5d5966430ca30c976e437e0f786de55ffc864b9a98"),
    ("0:1005:0.5",
      "84dd94f120433061bd333e0af8fe57bb2f570c98d6c223cb1944bed322e17984"),
    ("84dd94f120433061bd333e0af8fe57bb2f570c98d6c223cb1944bed322e17984",
      "efa079466afef63f14a0ba655af22ba8438c9112f209dc9446e63663a985ac14")]).getD ""

def inviteEnv : AuthEnv where
  sha256 := inviteSha256
  argon2Hash salt password := salt ++ password
  argon2Verify hash password := hash.endsWith password
  hmacSha1 _ message := message

/-- A customer with a beneficiary. -/
def familyDb : Db where
  clock := 1000
  customer := Table.empty.insert { userId := 5 }
  beneficiary := Table.empty.insert { customerId := 0, userId := none }

def sendInvite (token : String) : InviteOp :=
  .inviteBeneficiary "https://asoju.example" true token (.ok ()) ⟨5, .customer⟩ 0

def acceptAs (email : String) : InviteOp :=
  .acceptBeneficiaryInvite "salt" "0.5" "north" email "secret"

def connectionLost : HttpError := .internal "Connection lost"

/-- Two acceptances of one invite, with two addresses. -/
def acceptTwice : List (Event InviteCall) :=
  [.start { op := sendInvite "north" }] ++ List.replicate 6 (.sched 0) ++
    [.start { op := acceptAs "a@b.c" }, .start { op := acceptAs "d@e.f" }] ++
    List.replicate 4 (.sched 1) ++ List.replicate 5 (.sched 2) ++ [.sched 1]

/-- The beneficiary is invited twice at once. -/
def inviteTwice : List (Event InviteCall) :=
  [.start { op := sendInvite "north" }, .start { op := sendInvite "south" }] ++
    List.replicate 4 (.sched 0) ++ List.replicate 6 (.sched 1) ++ [.sched 0]

/-- The connection is lost between the account and its link to the beneficiary. -/
def acceptHalfway : List (Event InviteCall) :=
  [.start { op := sendInvite "north" }] ++ List.replicate 6 (.sched 0) ++
    [.start { op := acceptAs "a@b.c", fault := some (5, connectionLost) }] ++
    List.replicate 5 (.sched 1)

lemma oneLiveInvite_familyDb : familyDb.OneLiveInvite := by
  intro i j v w hv
  cases hv

/-- Two accounts, two live invites, and an account that is nobody's. -/
theorem invites_not_single_use :
    familyDb.OneLiveInvite ∧
      ¬ AllStates (Pool.step (InviteCall.code inviteEnv))
        (fun p => SingleAccounts inviteEnv familyDb p) (Pool.idle familyDb) acceptTwice ∧
      ¬ AllStates (Pool.step (InviteCall.code inviteEnv)) (fun p => p.shared.OneLiveInvite)
        (Pool.idle familyDb) inviteTwice ∧
      ¬ AllStates (Pool.step (InviteCall.code inviteEnv)) (NoOrphan inviteEnv)
        (Pool.idle familyDb) acceptHalfway := by
  refine ⟨oneLiveInvite_familyDb, fun h => ?_, fun h => ?_, fun h => ?_⟩
  · have hboth := h.last.alone 0 1 2 _ _ (List.getElem?_eq_getElem (by decide +kernel))
      (List.getElem?_eq_getElem (by decide +kernel)) (by decide +kernel) (by decide +kernel)
    exact absurd hboth (by decide)
  · have hboth := h.last 0 1
      { beneficiaryId := 0, tokenHash := inviteSha256 "south", expiresAt := 604801002 }
      { beneficiaryId := 0, tokenHash := inviteSha256 "north", expiresAt := 604801003 }
      (by decide +kernel) (by decide +kernel) rfl ⟨rfl, by decide +kernel⟩ ⟨rfl, by decide +kernel⟩
    exact absurd hboth (by decide)
  · exact absurd h.last (by decide +kernel)

/-- An invite, an acceptance that fails before its account, the one that goes through, and one that
comes too late. -/
def acceptOnce : List (Event InviteCall) :=
  [.start { op := sendInvite "north" }] ++ List.replicate 6 (.sched 0) ++
    [.start { op := acceptAs "a@b.c", fault := some (4, connectionLost) }] ++
    List.replicate 4 (.sched 1) ++ [.start { op := acceptAs "a@b.c" }] ++
    List.replicate 9 (.sched 2) ++ [.start { op := acceptAs "d@e.f" }, .sched 3]

theorem invites_single_use_once :
    AllStates (Pool.step (InviteCall.code inviteEnv))
      (fun p => p.shared.OneLiveInvite ∧ SingleAccounts inviteEnv familyDb p ∧
        NoOrphan inviteEnv p) (Pool.idle familyDb) acceptOnce :=
  invites_single_use inviteEnv oneLiveInvite_familyDb acceptOnce (by decide +kernel)

example : ((runFrom (Pool.step (InviteCall.code inviteEnv)) (Pool.idle familyDb)
    acceptOnce).threads.map fun t => t.rest.failed) = [false, true, false, true] := by
  decide +kernel

end Asoju
