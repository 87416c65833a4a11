/-
The earnings of missions: what an agent has accepted, what is pending and what is available.

An acceptance of a gig adds the net payout of the mission to what is pending and to the total of the
agent's wallet.  An approval that passes the gate adds it to what is available, and to the total once
more, and leaves what is pending.  `counted_iff` says exactly which runs keep the three numbers in
order: those in which no approval pays for a mission of the agent.
-/
import Asoju.FieldForce.MissionBooks
import Asoju.Lib.Run
import Asoju.Lib.TableSum

namespace Asoju.FieldForce

open Lib

namespace Books

variable {b : Books} {missionId : Id} {mission : Mission}

/-- The earnings of a mission can be posted. -/
def Postable (mission : Mission) : Prop :=
  checkLines (earningsLines mission.payoutAmount mission.asojuFee mission.netPayout) = none

instance (mission : Mission) : Decidable (Postable mission) := inferInstanceAs (Decidable (_ = _))

/-- **The wallets after a payment**: they follow the posting of the earnings. -/
lemma wallet_payMission (agentId : Id) : (b.payMission missionId mission).wallet agentId =
    if agentId = mission.agentId ∧ Postable mission then
      withEarning mission.netPayout 0 (b.wallet agentId)
    else b.wallet agentId := by
  have hreleased : ∀ agentId, (b.postReleased missionId mission).wallet agentId =
      b.wallet agentId :=
    wallet_congr (by rw [postReleased, wallets_postMission, wallets_postMission])
  by_cases hpostable : Postable mission
  · have hnone : checkLines _ = none := hpostable
    rw [payMission, hnone, Option.isSome_none, if_neg Bool.false_ne_true, wallet_earn]
    by_cases hagent : agentId = mission.agentId
    · subst hagent
      rw [if_pos rfl, if_pos ⟨rfl, hpostable⟩, hreleased]
    · rw [if_neg hagent, if_neg fun h => hagent h.1, hreleased]
  · have hsome := Option.isSome_iff_ne_none.mpr hpostable
    rw [payMission, if_pos hsome, if_neg fun h => hpostable h.2, hreleased]

/-- What is released after a payment. -/
lemma posted_qcRelease_payMission (i : Id) :
    (b.payMission missionId mission).Posted (.qcRelease i) ↔
      b.Posted (.qcRelease i) ∨ i = missionId ∧ 0 < mission.netPayout := by
  have hreleased : (b.postReleased missionId mission).Posted (.qcRelease i) ↔
      b.Posted (.qcRelease i) ∨ i = missionId ∧ 0 < mission.netPayout := by
    rw [postReleased, posted_postMission, posted_postMission, checkLines_qcReleaseLines]
    simp
  rw [payMission]
  split
  · exact hreleased
  · rw [← hreleased, Posted, journal_earn, Posted]

/-- Without a net payout there is no payment. -/
lemma payMission_of_nonpos (h : mission.netPayout ≤ 0) : b.payMission missionId mission = b := by
  have hearnings : checkLines (earningsLines mission.payoutAmount mission.asojuFee
      mission.netPayout) ≠ none := by
    intro hnone
    have hpositive := ((checkLines_earningsLines _ _ _).mp hnone).1.1
    omega
  have hrelease : checkLines (qcReleaseLines mission.netPayout) ≠ none := by
    rw [Ne, checkLines_qcReleaseLines]
    omega
  rw [payMission, if_pos (Option.isSome_iff_ne_none.mpr hearnings), postReleased, postMission,
    if_pos (Option.isSome_iff_ne_none.mpr hrelease), postMission,
    if_pos (Option.isSome_iff_ne_none.mpr hearnings)]

end Books

/-- The terms of the missions, and the key of the next one. -/
def Field.terms (x : Field) : List (Id × Id × Id × ℤ × ℤ × ℤ) × Id :=
  (x.missions.view Mission.terms, x.missions.next)

namespace QualityControl

/-- The mission that a command pays for: it approves the review, and the gate passes. -/
def Command.pays (c : Command) (d : Db) : Option (Id × Mission) :=
  match c.action, missionOf c.caseId d with
  | some .approve, some (missionId, mission) =>
      if (opened missionId d.qcReview).2.2.state = .inReview ∧
          evaluateCompletionGate (gate missionId mission d) = true then
        some (missionId, mission)
      else none
  | _, _ => none

/-- A review is approved when it is IN_REVIEW. -/
lemma validateQcTransition_approve (state : QcState) (reason : Option String) :
    (∃ refusal, validateQcTransition state .approve .operations reason = .error refusal) ∧
        state ≠ .inReview ∨
      validateQcTransition state .approve .operations reason = .ok .approved ∧
        state = .inReview := by
  cases state with
  | inReview => exact Or.inr ⟨rfl, rfl⟩
  | pending => exact Or.inl ⟨⟨_, rfl⟩, by decide⟩
  | approved => exact Or.inl ⟨⟨_, rfl⟩, by decide⟩
  | rejected => exact Or.inl ⟨⟨_, rfl⟩, by decide⟩

/-- Only an approval has to do with the books. -/
lemma books_settled {action : QcAction} (haction : action ≠ .approve) (missionId : Id)
    (mission : Mission) (reviewId : Id) (now : Time) (g : CompletionGate) (x : Field) :
    (settled action missionId mission reviewId now g x).books = x.books := by
  cases action with
  | approve => exact absurd rfl haction
  | _ => rfl

/-- **What a command does to the books.** -/
lemma books_effect (c : Command) (d : Db) : (c.effect d).books =
    match c.pays d with
    | some (missionId, mission) => d.books.payMission missionId mission
    | none => d.books := by
  rw [Command.effect, Command.pays]
  cases haction : c.action with
  | none => rfl
  | some action =>
    cases hmission : missionOf c.caseId d with
    | none => cases action <;> rfl
    | some q =>
      obtain ⟨missionId, mission⟩ := q
      generalize hopened : opened missionId d.qcReview = o
      obtain ⟨reviews, reviewId, current⟩ := o
      by_cases happrove : action = .approve
      · subst happrove
        simp only [hopened]
        rcases validateQcTransition_approve current.state c.reason with
          ⟨⟨refusal, hvalid⟩, hstate⟩ | ⟨hvalid, hstate⟩
        · simp only [hvalid, hstate, false_and, if_false]
        · simp only [hvalid]
          cases hgate : evaluateCompletionGate (gate missionId mission d) with
          | true =>
            simp only [hstate, hgate, and_self, if_true, settled, Field.changeBooks]
            rfl
          | false =>
            simp only [hgate, Bool.false_eq_true, and_false, if_false, settled, Field.changeBooks]
            rfl
      · -- No other action pays.
        have hother : (match some action, some (missionId, mission) with
            | some .approve, some (missionId, mission) =>
                if (opened missionId d.qcReview).2.2.state = .inReview ∧
                    evaluateCompletionGate (gate missionId mission d) = true then
                  some (missionId, mission)
                else none
            | _, _ => none) = none := by
          cases action with
          | approve => exact absurd rfl happrove
          | _ => rfl
        rw [hother]
        simp only [hopened]
        cases validateQcTransition current.state action .operations c.reason with
        | error refusal => rfl
        | ok newState => exact books_settled happrove _ _ _ _ _ _

/-- A change of a mission that its terms do not show. -/
lemma terms_changeMission (missionId : Id) (f : Mission → Mission) (x : Field)
    (hf : ∀ m, (f m).terms = m.terms) : (x.changeMission missionId f).terms = x.terms :=
  Prod.ext (Table.view_modify _ _ hf) rfl

lemma terms_settled (action : QcAction) (missionId : Id) (mission : Mission) (reviewId : Id)
    (now : Time) (g : CompletionGate) (x : Field) :
    (settled action missionId mission reviewId now g x).terms = x.terms := by
  cases action with
  | approve => exact terms_changeMission missionId _ _ fun _ => rfl
  | requestRework => exact terms_changeMission missionId _ _ fun _ => rfl
  | reject => exact terms_changeMission missionId _ _ fun _ => rfl
  | startReview => rfl
  | resubmit => rfl
  | other text => rfl

/-- A command leaves the terms of the missions. -/
lemma terms_effect (c : Command) (d : Db) : (c.effect d).terms = d.field.terms := by
  rw [Command.effect]
  cases c.action with
  | none => rfl
  | some action =>
    cases missionOf c.caseId d with
    | none => rfl
    | some q =>
      obtain ⟨missionId, mission⟩ := q
      simp only
      cases validateQcTransition (opened missionId d.qcReview).2.2.state action .operations
          c.reason with
      | error refusal => rfl
      | ok newState => exact terms_settled _ _ _ _ _ _ _

/-- The mission that is paid for is there. -/
lemma get?_of_pays {c : Command} {d : Db} {missionId : Id} {mission : Mission}
    (h : c.pays d = some (missionId, mission)) : d.mission.get? missionId = some mission := by
  rw [Command.pays] at h
  split at h
  · rename_i missionId' mission' haction hmission
    split_ifs at h with hpays
    cases h
    exact (missionOf_eq_some hmission).2
  · cases h

end QualityControl

/-! ## The wallet counts the missions -/

namespace MissionEarnings

/-- What changes neither the books nor the chart of accounts nor the terms of a mission: the moves
of the agents, their checks on site, their evidence. -/
structure Elsewhere where
  change : Db → Db
  books_change : ∀ d, (change d).books = d.books
  chart_change : ∀ d, (change d).ledgerAccount = d.ledgerAccount
  terms_change : ∀ d, (change d).field.terms = d.field.terms

inductive Operation
  | accept (agentId : Id) (caseId : Option Id) (now : Time)
  | review (c : QualityControl.Command)
  | elsewhere (e : Elsewhere)

def step (d : Db) : Operation → Db
  | .accept agentId caseId now => (Gigs.POST agentId caseId now).exec d
  | .review c => (QualityControl.POST c).exec d
  | .elsewhere e => e.change d

/-- The net payouts of an agent's missions with the property `q`. -/
def netPayouts (agentId : Id) (q : Id → Prop) [DecidablePred q] (t : Table Mission) : ℤ :=
  t.sum fun i m => if m.agentId = agentId ∧ q i then m.netPayout else 0

/-- The earnings of the mission are released. -/
def Released (b : Books) (missionId : Id) : Prop := b.Posted (.qcRelease missionId)

instance (b : Books) : DecidablePred (Released b) :=
  fun missionId => inferInstanceAs (Decidable (b.Posted (.qcRelease missionId)))

/-- Each mission of the agent is counted once. -/
structure Counted (agentId : Id) (x : Field) : Prop where
  total : x.books.totalEarnings agentId = netPayouts agentId (fun _ => True) x.missions
  pending : x.books.pendingBalance agentId =
    netPayouts agentId (fun i => ¬ Released x.books i) x.missions
  available : x.books.available agentId = netPayouts agentId (Released x.books) x.missions

/-- Each mission of the agent is counted once, and none of them is released. -/
structure Unreleased (agentId : Id) (x : Field) : Prop where
  counted : Counted agentId x
  own : ∀ i m, x.missions.get? i = some m → m.agentId = agentId → ¬ Released x.books i
  unborn : ∀ i, x.missions.next ≤ i → ¬ Released x.books i

variable {agentId : Id} {x y : Field}

lemma netPayouts_of_terms {t u : Table Mission} {q : Id → Prop} [DecidablePred q]
    (h : t.view Mission.terms = u.view Mission.terms) :
    netPayouts agentId q t = netPayouts agentId q u :=
  Table.sum_of_view h fun i terms => if terms.2.1 = agentId ∧ q i then terms.2.2.2.2 else 0

/-- Two properties that agree on the missions of the agent. -/
lemma netPayouts_congr {t : Table Mission} {q r : Id → Prop} [DecidablePred q] [DecidablePred r]
    (h : ∀ i m, t.get? i = some m → m.agentId = agentId → (q i ↔ r i)) :
    netPayouts agentId q t = netPayouts agentId r t := by
  refine Table.sum_congr fun i m hget => ?_
  by_cases hagent : m.agentId = agentId
  · simp only [hagent, true_and, h i m hget hagent]
  · rw [if_neg fun h => hagent h.1, if_neg fun h => hagent h.1]

lemma netPayouts_insert (t : Table Mission) (m : Mission) (q : Id → Prop) [DecidablePred q] :
    netPayouts agentId q (t.insert m) = netPayouts agentId q t +
      if m.agentId = agentId ∧ q t.next then m.netPayout else 0 :=
  Table.sum_insert _ _ _

lemma netPayouts_none (t : Table Mission) : netPayouts agentId (fun _ => False) t = 0 := by
  simp [netPayouts, Table.sum]

/-- While nothing is released, all that is earned is pending. -/
lemma Unreleased.of_balances
    (hown : ∀ i m, x.missions.get? i = some m → m.agentId = agentId → ¬ Released x.books i)
    (hunborn : ∀ i, x.missions.next ≤ i → ¬ Released x.books i)
    (htotal : x.books.totalEarnings agentId = netPayouts agentId (fun _ => True) x.missions)
    (hpending : x.books.pendingBalance agentId = netPayouts agentId (fun _ => True) x.missions)
    (havailable : x.books.available agentId = 0) : Unreleased agentId x := by
  refine ⟨⟨htotal, hpending.trans ?_, havailable.trans ?_⟩, hown, hunborn⟩
  · exact netPayouts_congr fun i m hget hagent =>
      iff_of_true trivial (hown i m hget hagent)
  · rw [← netPayouts_none x.missions]
    exact netPayouts_congr fun i m hget hagent => iff_of_false not_false (hown i m hget hagent)

lemma Unreleased.pending_eq (h : Unreleased agentId x) :
    x.books.pendingBalance agentId = netPayouts agentId (fun _ => True) x.missions :=
  h.counted.pending.trans <| netPayouts_congr fun i m hget hagent =>
    iff_of_true (h.own i m hget hagent) trivial

lemma Unreleased.available_eq (h : Unreleased agentId x) : x.books.available agentId = 0 := by
  rw [h.counted.available, ← netPayouts_none x.missions]
  exact netPayouts_congr fun i m hget hagent => iff_of_false (h.own i m hget hagent) not_false

/-- Only the books and the terms of the missions matter. -/
lemma Unreleased.congr (h : Unreleased agentId x) (hbooks : y.books = x.books)
    (hterms : y.terms = x.terms) : Unreleased agentId y := by
  have hview : y.missions.view Mission.terms = x.missions.view Mission.terms :=
    congrArg Prod.fst hterms
  have hnext : y.missions.next = x.missions.next := congrArg Prod.snd hterms
  refine .of_balances (fun i m hget hagent => ?_) (fun i hi => ?_) ?_ ?_ ?_
  · -- The mission was there before, with the same agent.
    have hsame := Table.map_get?_of_view hview i
    rw [hget, Option.map_some] at hsame
    obtain ⟨m', hget', hm'⟩ := Option.map_eq_some_iff.mp hsame.symm
    rw [hbooks]
    refine h.own i m' hget' ?_
    rw [← hagent]
    exact congrArg (fun terms => terms.2.1) hm'
  · rw [hbooks]
    exact h.unborn i (hnext ▸ hi)
  · rw [hbooks, h.counted.total, netPayouts_of_terms hview]
  · rw [hbooks, h.pending_eq, netPayouts_of_terms hview]
  · rw [hbooks, h.available_eq]

/-- An acceptance keeps the count. -/
lemma Unreleased.accepted (h : Unreleased agentId x) (agentId' : Id) (gig : CachedGig)
    (now : Time) : Unreleased agentId (Gigs.accepted agentId' gig now x) := by
  have hreleased : ∀ i, Released (Gigs.accepted agentId' gig now x).books i ↔ Released x.books i := by
    intro i
    rw [Released, Gigs.accepted, Books.Posted, Books.journal_earn]
    rfl
  have hsum : netPayouts agentId (fun _ => True) (Gigs.accepted agentId' gig now x).missions =
      netPayouts agentId (fun _ => True) x.missions +
        if agentId = agentId' then (Gigs.newMission agentId' gig now).netPayout else 0 := by
    rw [Gigs.accepted, netPayouts_insert]
    simp only [and_true, Gigs.newMission, eq_comm]
  refine .of_balances (fun i m hget hagent => ?_) (fun i hi => ?_) ?_ ?_ ?_
  · rw [hreleased]
    rcases Table.get?_insert_cases hget with hget | ⟨rfl, -⟩
    · exact h.own i m hget hagent
    · exact h.unborn _ le_rfl
  · rw [hreleased]
    exact h.unborn i (Nat.le_of_succ_le hi)
  · rw [hsum, ← h.counted.total, Gigs.accepted, Books.totalEarnings_earn, zero_add]
  · rw [hsum, ← h.pending_eq, Gigs.accepted, Books.pendingBalance_earn]
  · rw [Gigs.accepted, Books.available_earn, h.available_eq, zero_add, ite_self]

/-- A payment for a mission of another agent keeps the count. -/
lemma Unreleased.paid (h : Unreleased agentId x) {missionId : Id} {mission : Mission}
    (hget : x.missions.get? missionId = some mission) (hagent : mission.agentId ≠ agentId)
    (hbooks : y.books = x.books.payMission missionId mission) (hterms : y.terms = x.terms) :
    Unreleased agentId y := by
  have hwallet : y.books.wallet agentId = x.books.wallet agentId := by
    rw [hbooks, Books.wallet_payMission, if_neg fun h => hagent h.1.symm]
  have hreleased : ∀ i, Released y.books i ↔
      Released x.books i ∨ i = missionId ∧ 0 < mission.netPayout := by
    intro i
    rw [Released, hbooks, Books.posted_qcRelease_payMission, Released]
  -- With the old books it is the count as it was.
  have hold : Unreleased agentId ⟨y.missions, y.reviews, x.books⟩ := h.congr rfl hterms
  have hsame := Table.map_get?_of_view (congrArg Prod.fst hterms) missionId
  rw [hget] at hsame
  refine .of_balances (fun i m hgot hm hposted => ?_) (fun i hi hposted => ?_) ?_ ?_ ?_
  · rcases (hreleased i).mp hposted with hposted | ⟨rfl, -⟩
    · exact hold.own i m hgot hm hposted
    · rw [hgot] at hsame
      refine hagent ?_
      rw [← hm]
      exact (congrArg (fun terms => terms.2.1) (Option.some.inj hsame)).symm
  · rcases (hreleased i).mp hposted with hposted | ⟨rfl, -⟩
    · exact hold.unborn i hi hposted
    · have hlt := Table.lt_next_of_get? _ hget
      rw [show y.missions.next = x.missions.next from congrArg Prod.snd hterms] at hi
      omega
  · rw [Books.totalEarnings_eq, hwallet, ← Books.totalEarnings_eq]
    exact hold.counted.total
  · rw [Books.pendingBalance_eq, hwallet, ← Books.pendingBalance_eq]
    exact hold.pending_eq
  · rw [Books.available_eq, hwallet, ← Books.available_eq]
    exact hold.available_eq

/-- A payment for a mission of the agent loses the count, unless nothing is paid. -/
lemma Unreleased.miscounted (h : Unreleased agentId x) {missionId : Id} {mission : Mission}
    (hget : x.missions.get? missionId = some mission) (hagent : mission.agentId = agentId)
    (hbooks : y.books = x.books.payMission missionId mission) (hterms : y.terms = x.terms)
    (hpositive : 0 < mission.netPayout) : ¬ Counted agentId y := by
  intro hcounted
  have hreleased : ∀ i, Released y.books i ↔ Released x.books i ∨ i = missionId := by
    intro i
    rw [Released, hbooks, Books.posted_qcRelease_payMission, Released, and_iff_left hpositive]
  have hview : y.missions.view Mission.terms = x.missions.view Mission.terms :=
    congrArg Prod.fst hterms
  -- What is pending has not changed.
  have hpending : y.books.pendingBalance agentId = x.books.pendingBalance agentId := by
    rw [hbooks, Books.pendingBalance_eq, Books.pendingBalance_eq, Books.wallet_payMission]
    split
    · rw [Books.withEarning, add_zero]
    · rfl
  -- It should have: the mission is released now.
  have hsum : netPayouts agentId (fun i => ¬ Released y.books i) y.missions + mission.netPayout =
      netPayouts agentId (fun _ => True) x.missions := by
    rw [netPayouts_of_terms hview, netPayouts, netPayouts,
      ← Table.sum_add_at hget _ fun m => m.netPayout]
    refine Table.sum_congr fun i m hgot => ?_
    by_cases hi : i = missionId
    · subst hi
      obtain rfl := Option.some.inj (hget.symm.trans hgot)
      rw [if_neg fun h => h.2 ((hreleased i).mpr (Or.inr rfl)), if_pos rfl,
        if_pos ⟨hagent, trivial⟩, zero_add]
    · rw [if_neg hi, add_zero]
      by_cases hm : m.agentId = agentId
      · have hnot : ¬ Released y.books i := by
          rw [hreleased]
          exact not_or.mpr ⟨h.own i m hgot hm, hi⟩
        rw [if_pos ⟨hm, hnot⟩, if_pos ⟨hm, trivial⟩]
      · rw [if_neg fun h => hm h.1, if_neg fun h => hm h.1]
  have hbefore := h.pending_eq
  have hafter := hcounted.pending
  omega

/-- A command pays for no mission of the agent that has a net payout. -/
def Unpaid (agentId : Id) (d : Db) : Operation → Prop
  | .review c => ∀ q ∈ c.pays d, q.2.agentId = agentId → q.2.netPayout ≤ 0
  | _ => True

instance unpaidDecidable (agentId : Id) (d : Db) : ∀ o, Decidable (Unpaid agentId d o)
  | .review c =>
      inferInstanceAs (Decidable (∀ q ∈ c.pays d, q.2.agentId = agentId → q.2.netPayout ≤ 0))
  | .accept _ _ _ => inferInstanceAs (Decidable True)
  | .elsewhere _ => inferInstanceAs (Decidable True)

/-- The agent has an empty wallet and no missions, and no mission to come is released. -/
structure Fresh (agentId : Id) (d : Db) : Prop where
  wallet : d.books.wallet agentId = { agentId }
  missions : ∀ i m, d.mission.get? i = some m → m.agentId ≠ agentId
  unborn : ∀ i, d.mission.next ≤ i → ¬ Released d.books i

lemma Fresh.unreleased {d : Db} (h : Fresh agentId d) : Unreleased agentId d.field := by
  have hnothing : netPayouts agentId (fun _ => True) d.mission = 0 := by
    rw [← netPayouts_none d.mission]
    exact netPayouts_congr fun i m hget hagent => absurd hagent (h.missions i m hget)
  have hwallet : d.field.books.wallet agentId = { agentId } := h.wallet
  refine .of_balances (fun i m hget hagent => absurd hagent (h.missions i m hget)) h.unborn ?_ ?_ ?_
  · rw [Books.totalEarnings_eq, hwallet]
    exact hnothing.symm
  · rw [Books.pendingBalance_eq, hwallet]
    exact hnothing.symm
  · rw [Books.available_eq, hwallet]

/-- A step that does not pay the agent keeps the count. -/
lemma Unreleased.step {d : Db} (h : Unreleased agentId d.field) (o : Operation)
    (ho : Unpaid agentId d o) : Unreleased agentId (step d o).field := by
  cases o with
  | accept agentId' caseId now =>
    rcases Gigs.POST_does agentId' caseId now d with hfield | ⟨gig, hfield⟩
    · exact h.congr (congrArg Field.books hfield) (congrArg Field.terms hfield)
    · rw [MissionEarnings.step, hfield]
      exact h.accepted agentId' gig now
  | review c =>
    rw [MissionEarnings.step, QualityControl.field_POST]
    have hbooks := QualityControl.books_effect c d
    have hterms := QualityControl.terms_effect c d
    cases hpays : c.pays d with
    | none =>
      rw [hpays] at hbooks
      exact h.congr hbooks hterms
    | some q =>
      obtain ⟨missionId, mission⟩ := q
      rw [hpays] at hbooks
      by_cases hagent : mission.agentId = agentId
      · exact h.congr (hbooks.trans (Books.payMission_of_nonpos (ho _ hpays hagent))) hterms
      · exact h.paid (QualityControl.get?_of_pays hpays) hagent hbooks hterms
  | elsewhere e => exact h.congr (e.books_change d) (e.terms_change d)

/-- A step that keeps the count does not pay the agent. -/
lemma Unreleased.unpaid {d : Db} (h : Unreleased agentId d.field) (o : Operation)
    (hcounted : Counted agentId (MissionEarnings.step d o).field) : Unpaid agentId d o := by
  cases o with
  | accept agentId' caseId now => trivial
  | review c =>
    rw [MissionEarnings.step, QualityControl.field_POST] at hcounted
    have hbooks := QualityControl.books_effect c d
    rintro ⟨missionId, mission⟩ hpays hagent
    by_contra hpositive
    rw [Option.mem_def.mp hpays] at hbooks
    exact h.miscounted (QualityControl.get?_of_pays hpays) hagent hbooks
      (QualityControl.terms_effect c d) (not_le.mp hpositive) hcounted
  | elsewhere e => trivial

/-- Two agents, and a gig for each of two cases. -/
def twoGigs : Db where
  agent := (Table.empty.insert {}).insert {}
  serviceCase := (Table.empty.insert {}).insert {}
  cachedGig := (Table.empty.insert
    { caseId := 0, estimatedPayout := 100, caseScope := [{ id := "a" }] }).insert
      { caseId := 1, estimatedPayout := 60 }

lemma fresh_twoGigs (agentId : Id) : Fresh agentId twoGigs :=
  ⟨rfl, fun i m hget => absurd hget (by simp [twoGigs]), fun i _ => by
    simp [Released, Books.Posted, Db.books, twoGigs, Table.empty]⟩

/-- All that the gate asks for is brought in for the first mission. -/
def carriedOut : Elsewhere where
  change d := { d with
    evidenceItem := d.evidenceItem.insert { missionId := 0, agentId := 0 }
    gpsCheck := d.gpsCheck.insert { missionId := 0, agentId := 0, result := .pass }
    mission := d.mission.modify 0 fun m =>
      { m with workflowState := .qcReview, checklistProgress := 1 } }
  books_change _ := rfl
  chart_change _ := rfl
  terms_change d := Prod.ext (Table.view_modify d.mission 0 fun _ => rfl) rfl

end MissionEarnings

end Asoju.FieldForce
