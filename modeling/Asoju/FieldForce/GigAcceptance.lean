/-
One gig, and many agents who accept it.

An acceptance looks whether the gig is AVAILABLE, and marks it as claimed by a plain update.  Of two
transactions that have both seen it AVAILABLE the second one overwrites the claim of the first one;
but it goes on to create a mission of the same case, and the unique column fails it and undoes all
that it has written.  So `one_mission_per_gig` holds whatever the reads have seen.
-/
import Asoju.FieldForce.Missions
import Asoju.Lib.ClientSteps
import Asoju.Lib.Run
import Asoju.Lib.Stale

namespace Asoju.FieldForce

open Lib

namespace Gigs

/-! ## One transaction -/

/-- A transaction that accepts the gig: who accepts it and when, and which committed states its
reads see. -/
structure Acceptance where
  agentId : Id
  now : Time
  views : List ℕ
deriving DecidableEq, Repr

/-- The gig after its acceptance. -/
def claim (agentId : Id) (now : Time) (g : CachedGig) : CachedGig :=
  { g with
    status := .claimed
    claimedBy := some agentId
    claimedAt := some now
    agentId := some agentId }

/-- The wallets after an acceptance: that of the agent, as it has been seen, gets a pending earning,
or is created. -/
def Credits (agentId : Id) (seen t t' : Table WalletAccount) : Prop :=
  (∃ (walletAccountId : Id) (w : WalletAccount) (f : WalletAccount → WalletAccount),
    seen.get? walletAccountId = some w ∧ w.agentId = agentId ∧ (∀ v, (f v).agentId = v.agentId) ∧
    t' = t.modify walletAccountId f) ∨
  ∃ w : WalletAccount, w.agentId = agentId ∧ t' = t.insert w

/-- The entries after an acceptance. -/
def Enters (agentId : Id) (t t' : Table WalletEntry) : Prop :=
  ∃ e : WalletEntry, e.agentId = agentId ∧ t' = t.insert e

/-- What an acceptance that commits has read, and what it leaves behind. -/
structure Accepts (agentId caseId : Id) (now : Time) (seenGigs : Table CachedGig)
    (seenWallets : Table WalletAccount) (d d' : Db) (gigId : Id) (gig : CachedGig) : Prop where
  found : seenGigs.rows.find? (fun p => isGigOf caseId p.2) = some (gigId, gig)
  available : gig.status = .available
  free : Db.missions.find (isMissionOf gig.caseId) d = none
  mission : d'.mission = d.mission.insert (newMission agentId gig now)
  cachedGig : d'.cachedGig = d.cachedGig.modify gigId (claim agentId now)
  wallet : Credits agentId seenWallets d.walletAccount d'.walletAccount
  entry : Enters agentId d.walletEntry d'.walletEntry

section Accept

variable {agentId caseId : Id} {now : Time} {d : Db} {views : List Db}

/-- An action that writes. -/
def Writes (l : Access Model) (_ _ : Db) : Prop := l.isFind = false

lemma eachStep_record {β : Type} (r : Db.Of β) (b : β) : (record r b).EachStep Writes :=
  .bind (Client.eachStep_create fun _ => rfl) fun _ => trivial

/-- What the pending earning leaves alone. -/
structure Beside (d d' : Db) : Prop where
  mission : d'.mission = d.mission
  cachedGig : d'.cachedGig = d.cachedGig
  entry : d'.walletEntry = d.walletEntry

/-- The wallet after a pending earning. -/
def addition (netPayout : ℤ) (w : WalletAccount) : WalletAccount :=
  { w with
    pendingBalance := w.pendingBalance + netPayout
    totalEarnings := w.totalEarnings + netPayout }

/-- The wallet is credited as it has been seen. -/
lemma addPending_stale (netPayout : ℤ) :
    ((addPending agentId netPayout).stale Access.isFind).FailsOr (d, views) fun _ x =>
      Beside d x.1 ∧
        Credits agentId (views.headD d).walletAccount d.walletAccount x.1.walletAccount := by
  rw [addPending]
  refine .bind_read rfl ?_
  cases hfind : Db.walletAccounts.find (isWalletOf agentId) (views.headD d) with
  | some q =>
    obtain ⟨walletAccountId, w⟩ := q
    obtain ⟨hw, hagent⟩ := TableOf.find_eq_some hfind
    refine .bind_writes (Client.eachStep_update fun _ => rfl) ?_
    refine (Client.update_failsOr ..).imp_right fun h => h.mono fun _ d' hd' => ?_
    subst hd'
    refine Or.inr (.of_run rfl ⟨⟨rfl, rfl, rfl⟩, Or.inl ?_⟩)
    exact ⟨walletAccountId, w, addition netPayout, hw, of_decide_eq_true hagent, fun _ => rfl, rfl⟩
  | none =>
    refine Prog.FailsOr.stale_of_writes (Client.eachStep_createUnique (fun _ => rfl) fun _ => rfl) ?_
    refine (Client.createUnique_failsOr ..).imp_right fun h => h.mono fun _ d' hd' => ?_
    obtain ⟨-, -, rfl⟩ := hd'
    exact ⟨⟨rfl, rfl, rfl⟩, Or.inr ⟨_, rfl, rfl⟩⟩

/-- The mission is created if the case has none, and its earning is added to the wallet. -/
lemma createMission_stale (gig : CachedGig) :
    ((createMission agentId gig now).stale Access.isFind).FailsOr (d, views) fun _ x =>
      Db.missions.find (isMissionOf gig.caseId) d = none ∧
        x.1.mission = d.mission.insert (newMission agentId gig now) ∧
        x.1.cachedGig = d.cachedGig ∧
        Credits agentId (views.headD d).walletAccount d.walletAccount x.1.walletAccount ∧
        Enters agentId d.walletEntry x.1.walletEntry := by
  rw [createMission]
  refine .bind_writes (Client.eachStep_createUnique (fun _ => rfl) fun _ => rfl) ?_
  refine (Client.createUnique_failsOr ..).imp_right fun h => h.mono fun missionId d₁ hd₁ => ?_
  obtain ⟨hfree, -, rfl⟩ := hd₁
  refine .bind_write (eachStep_record _ _) (run_record _ _ _) ?_
  rw [Prog.stale_bind]
  refine .bind ((addPending_stale _).imp_right fun h => h.mono fun walletAccountId x hx => ?_)
  obtain ⟨hbeside, hcredits⟩ := hx
  refine .bind_write (eachStep_record _ _) (run_record _ _ _) ?_
  refine .bind_write (eachStep_record _ _) (run_record _ _ _) (Or.inr (.of_run rfl ?_))
  refine ⟨hfree, hbeside.mission, hbeside.cachedGig, ?_, ⟨_, rfl, congrArg (Table.insert · _) hbeside.entry⟩⟩
  cases views <;> exact hcredits

variable (agentId caseId now d views) in
/-- **One acceptance** fails, or it has found no mission of the case, and does what it says. -/
lemma accept_stale :
    ((accept agentId caseId now).stale Access.isFind).FailsOr (d, views) fun _ x =>
      ∃ gigId gig, Accepts agentId caseId now (views.headD d).cachedGig
        (views.tail.tail.headD d).walletAccount d x.1 gigId gig := by
  rw [accept]
  refine .bind_read rfl ?_
  cases hfind : Db.cachedGigs.find (isGigOf caseId) (views.headD d) with
  | none => exact .fail rfl
  | some q =>
    obtain ⟨gigId, gig⟩ := q
    dsimp only
    by_cases havailable : gig.status ≠ .available
    · rw [if_pos havailable]
      exact .fail rfl
    rw [if_neg havailable]
    refine .bind_writes (Client.eachStep_update fun _ => rfl) ?_
    refine (Client.update_failsOr ..).imp_right fun h => h.mono fun _ d₁ hd₁ => ?_
    subst hd₁
    refine .bind_read rfl ?_
    split
    · exact .fail rfl
    · refine (createMission_stale gig).imp_right fun h => h.mono fun _ x hx => ?_
      obtain ⟨hfree, hmission, hgig, hcredits, henters⟩ := hx
      refine ⟨gigId, gig, hfind, not_not.mp havailable, hfree, hmission, hgig, ?_, henters⟩
      generalize views.tail.tail = left at hcredits ⊢
      cases left <;> exact hcredits

end Accept

/-! ## Many transactions -/

/-- What a transaction adds to the committed states. -/
def step (caseId : Id) (h : History Db) (a : Acceptance) : History Db :=
  h.commit Access.isFind (accept a.agentId caseId a.now) a.views

/-- The committed states when no transaction has committed. -/
def start (d : Db) : History Db := ⟨[], d⟩

/-- Either nothing has been committed, or one acceptance. -/
def AtMostOnce (caseId : Id) (d : Db) (h : History Db) : Prop :=
  h = start d ∨ h.past = [d] ∧ ∃ agentId now gigId gig,
    Accepts agentId caseId now d.cachedGig d.walletAccount d h.current gigId gig

section Accepts

variable {agentId caseId : Id} {now : Time} {seenGigs : Table CachedGig}
  {seenWallets : Table WalletAccount} {d d' : Db} {gigId : Id} {gig : CachedGig}

lemma Accepts.caseId_eq (h : Accepts agentId caseId now seenGigs seenWallets d d' gigId gig) :
    gig.caseId = caseId := by
  have hgig : isGigOf caseId gig = true := by simpa using List.find?_some h.found
  exact of_decide_eq_true hgig

/-- Where a gig has been accepted, no second acceptance commits. -/
lemma Accepts.excludes {agentId' : Id} {now' : Time} {seenGigs' : Table CachedGig}
    {seenWallets' : Table WalletAccount} {d'' : Db} {gigId' : Id} {gig' : CachedGig}
    (h : Accepts agentId caseId now seenGigs seenWallets d d' gigId gig)
    (h' : Accepts agentId' caseId now' seenGigs' seenWallets' d' d'' gigId' gig') : False := by
  have hmission : (Db.missions.get d').get? d.mission.next = some (newMission agentId gig now) := by
    show d'.mission.get? _ = _
    rw [h.mission, Table.get?_insert_self]
  have hother := TableOf.find_eq_none_iff.mp h'.free _ _ hmission
  rw [h'.caseId_eq, ← h.caseId_eq] at hother
  exact of_decide_eq_false hother rfl

end Accepts

lemma AtMostOnce.step {caseId : Id} {d : Db} {h : History Db} (hh : AtMostOnce caseId d h)
    (a : Acceptance) : AtMostOnce caseId d (step caseId h a) := by
  rcases History.commit_cases (accept_stale a.agentId caseId a.now h.current
    (a.views.map h.seen)) with hstep | ⟨x, y, hy, hstep⟩
  · rw [Gigs.step, hstep]
    exact hh
  · obtain ⟨gigId, gig, haccepts⟩ := hy
    rcases hh with rfl | ⟨-, agentId, now, gigId', gig', hbefore⟩
    · -- Nothing has been committed, so the reads have seen the first state.
      rw [Gigs.step, hstep]
      have hseen : ∀ l : List ℕ, (l.map (start d).seen).headD (start d).current = d := by
        intro l
        cases l with
        | nil => rfl
        | cons n l => exact History.seen_of_past rfl n
      rw [← List.map_tail, ← List.map_tail, hseen, hseen] at haccepts
      exact Or.inr ⟨rfl, a.agentId, a.now, gigId, gig, haccepts⟩
    · exact (hbefore.excludes haccepts).elim

/-- The mission is new. -/
def Created (d d' : Db) (i : Id) (m : Mission) : Prop :=
  d'.mission.get? i = some m ∧ d.mission.get? i = none

/-- **One mission per gig**: at most one mission has been created, whose agent is the one that has
claimed the gig, and the only one whose wallet has been touched; and if there is none, everything is
as before. -/
structure OneMission (caseId : Id) (d d' : Db) : Prop where
  once : ∀ i j m n, Created d d' i m → Created d d' j n → i = j
  gig : ∀ i m, Created d d' i m → m.caseId = caseId ∧ ∃ gigId gig,
    Db.cachedGigs.find (isGigOf caseId) d' = some (gigId, gig) ∧ gig.status = .claimed ∧
    gig.claimedBy = some m.agentId
  wallet : ∀ k w, d'.walletAccount.get? k = some w →
    d.walletAccount.get? k = some w ∨ ∃ i m, Created d d' i m ∧ w.agentId = m.agentId
  entry : ∀ k e, d'.walletEntry.get? k = some e →
    d.walletEntry.get? k = some e ∨ ∃ i m, Created d d' i m ∧ e.agentId = m.agentId
  untouched : (∀ i m, ¬ Created d d' i m) → d' = d

lemma oneMission_refl (caseId : Id) (d : Db) : OneMission caseId d d := by
  have hnone : ∀ i m, ¬ Created d d i m := by
    rintro i m ⟨hm, hfree⟩
    rw [hm] at hfree
    cases hfree
  exact ⟨fun i _ m _ hm _ => absurd hm (hnone i m), fun i m hm => absurd hm (hnone i m),
    fun _ _ => Or.inl, fun _ _ => Or.inl, fun _ => rfl⟩

/-- The wallets of the others are as before. -/
lemma Credits.others {agentId : Id} {t t' : Table WalletAccount} (h : Credits agentId t t t')
    {k : Id} {w : WalletAccount} (hw : t'.get? k = some w) :
    t.get? k = some w ∨ w.agentId = agentId := by
  rcases h with ⟨walletAccountId, v, f, hv, hagent, hf, rfl⟩ | ⟨v, hagent, rfl⟩
  · rcases Table.get?_modify_cases hv hw with hw | ⟨-, rfl⟩
    · exact Or.inl hw
    · exact Or.inr ((hf v).trans hagent)
  · rcases Table.get?_insert_cases hw with hw | ⟨-, rfl⟩
    · exact Or.inl hw
    · exact Or.inr hagent

lemma Accepts.oneMission {agentId caseId : Id} {now : Time} {d d' : Db} {gigId : Id}
    {gig : CachedGig}
    (h : Accepts agentId caseId now d.cachedGig d.walletAccount d d' gigId gig) :
    OneMission caseId d d' := by
  have hnew : Created d d' d.mission.next (newMission agentId gig now) := by
    refine ⟨?_, Table.get?_next _⟩
    rw [h.mission, Table.get?_insert_self]
  have honly : ∀ i m, Created d d' i m → i = d.mission.next ∧ m = newMission agentId gig now := by
    rintro i m ⟨hm, hfree⟩
    rw [h.mission] at hm
    rcases Table.get?_insert_cases hm with hm | hm
    · rw [hm] at hfree
      cases hfree
    · exact hm
  refine ⟨?_, fun i m hm => ?_, fun k w hw => ?_, fun k e he => ?_, fun hnone => ?_⟩
  · intro i j m n hm hn
    rw [(honly i m hm).1, (honly j n hn).1]
  · obtain ⟨-, rfl⟩ := honly i m hm
    refine ⟨h.caseId_eq, gigId, claim agentId now gig, ?_, rfl, rfl⟩
    show d'.cachedGig.rows.find? _ = _
    rw [h.cachedGig, Table.modify, Table.find?_mapRows, h.found]
    · simp
    · intro j g
      split <;> rfl
  · exact (h.wallet.others hw).imp_right fun hagent => ⟨_, _, hnew, hagent⟩
  · obtain ⟨v, hagent, hentry⟩ := h.entry
    rw [hentry] at he
    rcases Table.get?_insert_cases he with he | ⟨-, rfl⟩
    · exact Or.inl he
    · exact Or.inr ⟨_, _, hnew, hagent⟩
  · exact absurd hnew (hnone _ _)

/-- Two agents who have both seen the gig AVAILABLE: the transaction of the second one is undone. -/
example :
    let d : Db := Db.agents.insert {} (Db.agents.insert {}
      (Db.cachedGigs.insert { caseId := 7, estimatedPayout := 1000 } {}))
    let d' := (runFrom (step 7) (start d) [⟨0, 1, [0, 0, 0]⟩, ⟨1, 2, [0, 0, 0]⟩]).current
    d'.mission.rows.length = 1 ∧ d'.walletAccount.rows.map (fun p => p.2.agentId) = [0] ∧
      d'.cachedGig.rows.map (fun p => p.2.claimedBy) = [some 0] := by
  decide +kernel

end Gigs

end Asoju.FieldForce
