/-
The wallet of an agent and the ledger: whether they agree on what is available.

An approval that passes the gate posts the earnings of the mission, then their release, and credits
the wallet if the first of the two postings has succeeded.  The earnings of a payout of less than five
have no fee and are rejected, while their release is posted: the ledger has them, and the wallet has
not.  `agrees_iff` says that this, or a release that had been posted before, is the only way in which
the two can come to differ.
-/
import Asoju.FieldForce.MissionEarnings
import Asoju.Lib.ClientSteps

namespace Asoju.FieldForce

open Lib

/-! ## The chart of accounts is there before an entry is -/

/-- No account is lost, and where the journal changes the whole chart is there; the terms of the
missions stay. -/
structure Charting (d d' : Db) : Prop where
  keeps : ∀ code, HasAccount d.ledgerAccount code → HasAccount d'.ledgerAccount code
  posts : d'.journalEntry = d.journalEntry ∨ ∀ code, HasAccount d'.ledgerAccount code
  terms : d'.field.terms = d.field.terms

/-- The step leaves the chart, the journal and the terms of the missions. -/
def BesideLedger (_ : Access Model) (d d' : Db) : Prop :=
  d'.ledgerAccount = d.ledgerAccount ∧ d'.journalEntry = d.journalEntry ∧
    d'.field.terms = d.field.terms

namespace Charting

lemma refl (d : Db) : Charting d d := ⟨fun _ h => h, Or.inl rfl, rfl⟩

lemma trans {a b c : Db} (hab : Charting a b) (hbc : Charting b c) : Charting a c := by
  refine ⟨fun code h => hbc.keeps code (hab.keeps code h), ?_, hbc.terms.trans hab.terms⟩
  rcases hbc.posts with hsame | hall
  · rcases hab.posts with hsame' | hall
    · exact Or.inl (hsame.trans hsame')
    · exact Or.inr fun code => hbc.keeps code (hall code)
  · exact Or.inr hall

lemma of_beside {l : Access Model} {d d' : Db} (h : BesideLedger l d d') : Charting d d' :=
  ⟨fun _ hcode => by rwa [h.1], Or.inl h.2.1, h.2.2⟩

lemma seeded (d : Db) : Charting d d.seeded := by
  have hall : ∀ code, HasAccount d.seeded.ledgerAccount code := by
    intro code
    rw [Db.seeded]
    exact hasAccount_seedAccounts d.ledgerAccount code
  exact ⟨fun code _ => hall code, Or.inr hall, rfl⟩

/-- An entry that is posted where the whole chart is there. -/
lemma insert (e : JournalEntry) {d : Db} (hall : ∀ code, HasAccount d.ledgerAccount code) :
    Charting d (Db.journalEntries.insert e d) := ⟨fun _ h => h, Or.inr hall, rfl⟩

lemma posted (key : PostingKey) (entity : PostingEntity) (agentId : Id)
    (lines : List JournalLine) (d : Db) : Charting d (d.posted key entity agentId lines) := by
  rw [Db.posted]
  split
  · exact refl d
  · split
    · exact seeded d
    · refine (seeded d).trans (insert _ fun code => ?_)
      rw [Db.seeded]
      exact hasAccount_seedAccounts d.ledgerAccount code

end Charting

/-- The program keeps the chart. -/
def Charts {α : Type} (m : Svc α) : Prop := m.Keeps Charting

namespace Charts

variable {α β : Type} {m : Svc α}

lemma pure (a : α) : Charts (Pure.pure a) := Prog.Keeps.pure Charting.refl a

lemma bind {f : α → Svc β} (hm : Charts m) (hf : ∀ a, Charts (f a)) : Charts (m >>= f) :=
  Prog.Keeps.bind (R := Charting) (fun _ _ _ hab hbc => hab.trans hbc) hm hf

lemma of_beside (h : m.EachStep BesideLedger) : Charts m :=
  (h.mono fun _ _ _ => Charting.of_beside).keeps Charting.refl fun _ _ _ hab hbc => hab.trans hbc

lemma query {m : Model} {f : Db → α} : Charts (Client.query m f) :=
  of_beside (Client.eachStep_query fun _ => ⟨rfl, rfl, rfl⟩)

lemma tryCatch_pure (h : Charts m) (f : Failure → α) :
    Charts (tryCatch m fun e => Pure.pure (f e)) := by
  intro d
  rw [Prog.exec_tryCatch_pure]
  exact h d

lemma seedChartOfAccounts : Charts seedChartOfAccounts := by
  intro d
  rw [Prog.exec, run_seedChartOfAccounts]
  exact .seeded d

lemma postJournalEntry (key : PostingKey) (entity : PostingEntity) (agentId : Id)
    (lines : List JournalLine) : Charts (postJournalEntry key entity agentId lines) := by
  intro d
  rw [Prog.exec, run_postJournalEntry]
  exact .posted key entity agentId lines d

end Charts

namespace QualityControl

lemma charts_complete (caseId missionId : Id) (now : Time) :
    Charts (complete caseId missionId now) :=
  .of_beside <| .bind (Client.eachStep_update fun d =>
    ⟨rfl, rfl, terms_changeMission missionId _ d.field fun _ => rfl⟩) fun _ =>
      Client.eachStep_update fun _ => ⟨rfl, rfl, rfl⟩

lemma charts_addEarnings (missionId : Id) (mission : Mission) :
    Charts (addEarnings missionId mission) := by
  refine .bind .query fun found => .of_beside ?_
  rcases found with _ | ⟨walletAccountId, w⟩
  · exact .bind (Client.eachStep_createUnique (fun _ => ⟨rfl, rfl, rfl⟩) fun _ => ⟨rfl, rfl, rfl⟩)
      fun _ => .pure _
  · exact .bind (Client.eachStep_update fun _ => ⟨rfl, rfl, rfl⟩) fun _ =>
      .bind (Client.eachStep_create fun _ => ⟨rfl, rfl, rfl⟩) fun _ => .pure _

lemma charts_payEarnings (missionId : Id) (mission : Mission) :
    Charts (payEarnings missionId mission) := by
  refine .bind .seedChartOfAccounts fun _ => .bind (.postJournalEntry _ _ _ _) fun result =>
    .bind (.postJournalEntry _ _ _ _) fun _ => .bind ?_ fun _ =>
      .of_beside (Client.eachStep_update fun _ => ⟨rfl, rfl, rfl⟩)
  cases result.success with
  | true => exact charts_addEarnings missionId mission
  | false => exact .pure _

lemma charts_approve (caseId missionId : Id) (mission : Mission) (reviewId : Id) (now : Time) :
    Charts (approve caseId missionId mission reviewId now) := by
  refine .bind .query fun count => .bind .query fun passed => .bind
    (.of_beside (Client.eachStep_update fun _ => ⟨rfl, rfl, rfl⟩)) fun _ =>
      .bind (charts_complete caseId missionId now) fun _ => ?_
  cases evaluateCompletionGate (gateOf mission count passed) with
  | true => exact .bind (charts_payEarnings missionId mission) fun _ => .pure _
  | false => exact .pure _

lemma charts_conclude (caseId missionId : Id) (state : WorkflowState) (f : Case → Case) :
    Charts (conclude caseId missionId state f) :=
  .of_beside <| .bind (Client.eachStep_update fun d =>
    ⟨rfl, rfl, terms_changeMission missionId _ d.field fun _ => rfl⟩) fun _ =>
      .bind (Client.eachStep_update fun _ => ⟨rfl, rfl, rfl⟩) fun _ => .pure _

lemma charts_follow (action : QcAction) (caseId missionId : Id) (mission : Mission)
    (reviewId : Id) (now : Time) :
    Charts (follow action caseId missionId mission reviewId now) := by
  cases action with
  | approve => exact charts_approve caseId missionId mission reviewId now
  | requestRework => exact charts_conclude _ _ _ _
  | reject => exact charts_conclude _ _ _ _
  | startReview => exact .pure _
  | resubmit => exact .pure _
  | other text => exact .pure _

/-- A command keeps the chart. -/
lemma charts_POST (c : Command) : Charts (POST c) := by
  refine .tryCatch_pure ?_ _
  rw [process]
  cases c.action with
  | none => exact .pure _
  | some action =>
    refine .bind .query fun found => ?_
    rcases found with _ | ⟨missionId, mission⟩
    · exact .pure _
    · refine .bind ?_ fun q => ?_
      · refine .bind .query fun found => ?_
        rcases found with _ | current
        · exact .bind .query fun _ => .bind
            (.of_beside (Client.eachStep_create fun _ => ⟨rfl, rfl, rfl⟩)) fun _ => .pure _
        · exact .pure _
      · obtain ⟨reviewId, current⟩ := q
        change Charts (act c action missionId mission reviewId current)
        rw [act]
        cases validateQcTransition current.state action .operations c.reason with
        | error refusal => exact .pure _
        | ok newState =>
          exact .bind (.of_beside (Client.eachStep_update fun _ => ⟨rfl, rfl, rfl⟩)) fun _ =>
            .bind (charts_follow _ _ _ _ _ _) fun _ => .bind
              (.of_beside (.bind (Client.eachStep_create fun _ => ⟨rfl, rfl, rfl⟩) fun _ => .pure _))
                fun _ => .pure _

end QualityControl

namespace Earnings

lemma charts_createPayout (agentId : Id) (wallet : Option (Id × WalletAccount))
    (r : PayoutRequest) : Charts (createPayout agentId wallet r) := by
  refine .bind .query fun found => ?_
  rcases found with _ | existingPayout
  · refine .bind (.of_beside (Client.eachStep_createUnique (fun _ => ⟨rfl, rfl, rfl⟩)
      fun _ => ⟨rfl, rfl, rfl⟩)) fun payoutId => .bind .seedChartOfAccounts fun _ =>
        .bind (.postJournalEntry _ _ _ _) fun result => .bind ?_ fun _ => .bind ?_ fun _ => .bind
          (.of_beside (.bind (Client.eachStep_create fun _ => ⟨rfl, rfl, rfl⟩) fun _ => .pure _))
            fun _ => .pure _
    · cases result.success with
      | true =>
        change Charts (linkJournalEntry payoutId result)
        rw [linkJournalEntry]
        cases result.journalEntryId with
        | some entry => exact .of_beside (Client.eachStep_update fun _ => ⟨rfl, rfl, rfl⟩)
        | none => exact .pure _
      | false => exact .pure _
    · rcases wallet with _ | ⟨walletAccountId, w⟩
      · exact .pure _
      · exact .of_beside (.bind (Client.eachStep_update fun _ => ⟨rfl, rfl, rfl⟩) fun _ =>
          .bind (Client.eachStep_create fun _ => ⟨rfl, rfl, rfl⟩) fun _ => .pure _)
  · exact .pure _

/-- A request for a payout keeps the chart. -/
lemma charts_POST (agentId : Id) (r : PayoutRequest) : Charts (POST agentId r) := by
  refine .tryCatch_pure ?_ _
  rw [requestPayout]
  split
  · exact .pure _
  · refine .bind .query fun agent => ?_
    cases agent with
    | none => exact .pure _
    | some agent =>
      refine .bind .query fun wallet => ?_
      dsimp only
      split
      · exact .pure _
      · exact charts_createPayout agentId wallet r

end Earnings

/-! ## The balance of the ledger -/

/-- What the entries of an agent come to on the account of the available balance. -/
def Books.ledgerAvailable (agentId : Id) (b : Books) : ℤ :=
  ((b.journal.values.filter fun e => e.agentId = some agentId ∧ e.status = .posted).map fun e =>
    netOn .agentAvailableBalance e.lines).sum

lemma availableBalance_add (b : AgentBalances) (l : JournalLine) :
    (b.add l).availableBalance = b.availableBalance + netOn .agentAvailableBalance [l] := by
  obtain ⟨account, direction, amount⟩ := l
  cases account <;> simp [AgentBalances.add, netOn]

lemma netOn_cons (code : AccountCode) (l : JournalLine) (lines : List JournalLine) :
    netOn code (l :: lines) = netOn code [l] + netOn code lines := by
  by_cases hl : l.account = code <;> simp [netOn, hl]

lemma availableBalance_foldl (lines : List JournalLine) (b : AgentBalances) :
    (lines.foldl AgentBalances.add b).availableBalance =
      b.availableBalance + netOn .agentAvailableBalance lines := by
  induction lines generalizing b with
  | nil => simp [netOn]
  | cons l lines ih => rw [List.foldl_cons, ih, availableBalance_add, netOn_cons _ l lines, add_assoc]

/-- The balances with the lines of an entry. -/
def addLines (balances : AgentBalances) (entry : JournalEntry) : Svc AgentBalances :=
  entry.lines.foldlM (fun balances line => do
    match ← Client.findFirst Db.ledgerAccounts (isAccount line.account) with
    | some _ => return balances.add line
    | none => return balances) balances

lemma run_addLines {d : Db} (h : ∀ code, HasAccount d.ledgerAccount code)
    (balances : AgentBalances) (entry : JournalEntry) :
    (addLines balances entry).run d = (.ok (entry.lines.foldl AgentBalances.add balances), d) := by
  rw [addLines]
  induction entry.lines generalizing balances with
  | nil => rfl
  | cons line lines ih =>
    obtain ⟨p, hp⟩ := Option.isSome_iff_exists.mp (h line.account)
    have hfind : Db.ledgerAccounts.find (isAccount line.account) d = some p := hp
    rw [List.foldlM_cons, List.foldl_cons, ← ih]
    refine Prog.run_bind_ok ((Prog.run_bind_ok (Client.run_findFirst _ _ _)).trans ?_)
    rw [hfind]
    rfl

/-- The balances over several entries. -/
lemma run_foldlM_addLines {d : Db} (h : ∀ code, HasAccount d.ledgerAccount code)
    (entries : List JournalEntry) (balances : AgentBalances) :
    ∃ total, (entries.foldlM addLines balances).run d = (.ok total, d) ∧
      total.availableBalance = balances.availableBalance +
        (entries.map fun e => netOn .agentAvailableBalance e.lines).sum := by
  induction entries generalizing balances with
  | nil => exact ⟨balances, rfl, by simp⟩
  | cons entry entries ih =>
    obtain ⟨total, hrun, htotal⟩ := ih (entry.lines.foldl AgentBalances.add balances)
    refine ⟨total, ?_, ?_⟩
    · rw [List.foldlM_cons]
      exact (Prog.run_bind_ok (run_addLines h balances entry)).trans hrun
    · rw [htotal, availableBalance_foldl, List.map_cons, List.sum_cons, add_assoc]

/-- The chart is there, unless nothing is posted yet. -/
def Charted (d : Db) : Prop :=
  d.journalEntry.values = [] ∨ ∀ code, HasAccount d.ledgerAccount code

lemma Charted.after {d d' : Db} (h : Charted d) (hcharting : Charting d d') : Charted d' := by
  rcases hcharting.posts with hsame | hall
  · rw [Charted, hsame]
    exact h.imp_right fun hall code => hcharting.keeps code (hall code)
  · exact Or.inr hall

/-- **What the ledger says is available.** -/
lemma run_getAgentLedgerBalances {d : Db} (h : Charted d) (agentId : Id) :
    ∃ balances, (getAgentLedgerBalances agentId).run d = (.ok balances, d) ∧
      balances.availableBalance = d.books.ledgerAvailable agentId := by
  rcases h with hempty | hall
  · refine ⟨{}, ?_, ?_⟩
    · rw [getAgentLedgerBalances]
      refine (Prog.run_bind_ok (Client.run_query _ _ _)).trans ?_
      rw [hempty]
      rfl
    · rw [Books.ledgerAvailable, show d.books.journal = d.journalEntry from rfl, hempty]
      rfl
  · obtain ⟨total, hrun, htotal⟩ := run_foldlM_addLines hall
      (d.journalEntry.values.filter fun e => e.agentId = some agentId ∧ e.status = .posted) {}
    refine ⟨total, ?_, ?_⟩
    · rw [getAgentLedgerBalances]
      exact (Prog.run_bind_ok (Client.run_query _ _ _)).trans hrun
    · rw [htotal]
      exact zero_add _

/-! ## What the operations do to the balance of the ledger -/

namespace Books

variable {b : Books} {agentId : Id}

/-- The balance of the ledger after one more entry. -/
lemma ledgerAvailable_insert {b' : Books} {e : JournalEntry} (h : b'.journal = b.journal.insert e)
    (he : e.status = .posted) : b'.ledgerAvailable agentId = b.ledgerAvailable agentId +
      if e.agentId = some agentId then netOn .agentAvailableBalance e.lines else 0 := by
  rw [ledgerAvailable, h, Table.values_insert, List.filter_append, List.map_append,
    List.sum_append, ledgerAvailable]
  by_cases hagent : e.agentId = some agentId <;> simp [hagent, he]

lemma ledgerAvailable_congr {b' : Books} (h : b'.journal = b.journal) :
    b'.ledgerAvailable agentId = b.ledgerAvailable agentId := by
  rw [ledgerAvailable, h, ledgerAvailable]

/-- The balance of the ledger after a posting about a mission. -/
lemma ledgerAvailable_postMission (key : PostingKey) (missionId agentId' : Id)
    (lines : List JournalLine) :
    (b.postMission key missionId agentId' lines).ledgerAvailable agentId =
      b.ledgerAvailable agentId +
        if checkLines lines = none ∧ ¬ b.Posted key ∧ agentId' = agentId then
          netOn .agentAvailableBalance lines
        else 0 := by
  rw [postMission]
  cases hcheck : checkLines lines with
  | some rejected => simp
  | none =>
    simp only [Option.isSome_none, Bool.false_eq_true, if_false, true_and, post]
    by_cases hposted : b.Posted key
    · simp [hposted]
    · rw [if_neg hposted, ledgerAvailable_insert (b := b) rfl rfl]
      simp [hposted]

variable {missionId : Id} {mission : Mission}

/-- **The balance of the ledger after a payment**: it follows the release. -/
lemma ledgerAvailable_payMission : (b.payMission missionId mission).ledgerAvailable agentId =
    b.ledgerAvailable agentId +
      if 0 < mission.netPayout ∧ ¬ b.Posted (.qcRelease missionId) ∧ mission.agentId = agentId then
        mission.netPayout
      else 0 := by
  have hearnings : netOn .agentAvailableBalance (earningsLines mission.payoutAmount
      mission.asojuFee mission.netPayout) = 0 := by simp [netOn, earningsLines]
  have hrelease : netOn .agentAvailableBalance (qcReleaseLines mission.netPayout) =
      mission.netPayout := by simp [netOn, qcReleaseLines, JournalLine.signedAmount]
  have hposted : (b.postReleased missionId mission).ledgerAvailable agentId =
      b.ledgerAvailable agentId +
        if 0 < mission.netPayout ∧ ¬ b.Posted (.qcRelease missionId) ∧
            mission.agentId = agentId then
          mission.netPayout
        else 0 := by
    rw [postReleased, ledgerAvailable_postMission, ledgerAvailable_postMission, hearnings, hrelease,
      ite_self, add_zero]
    simp only [checkLines_qcReleaseLines, posted_postMission, reduceCtorEq, false_and, or_false]
  rw [← hposted, payMission]
  split
  · rfl
  · exact ledgerAvailable_congr (journal_earn _ _)

lemma available_payMission : (b.payMission missionId mission).available agentId =
    b.available agentId +
      if agentId = mission.agentId ∧ Postable mission then mission.netPayout else 0 := by
  rw [available_eq, available_eq, wallet_payMission]
  split
  · rfl
  · rw [add_zero]

/-- The payouts have nothing to do with a payment. -/
lemma posted_payoutRequest_payMission (p : Id) :
    (b.payMission missionId mission).Posted (.payoutRequest p) ↔ b.Posted (.payoutRequest p) := by
  have hreleased : (b.postReleased missionId mission).Posted (.payoutRequest p) ↔
      b.Posted (.payoutRequest p) := by
    rw [postReleased, posted_postMission, posted_postMission]
    simp
  rw [payMission]
  split
  · exact hreleased
  · rw [← hreleased, Posted, journal_earn, Posted]

lemma payouts_payMission : (b.payMission missionId mission).payouts = b.payouts := by
  rw [payMission]
  split <;> simp [postReleased]

end Books

/-! ## Agreement -/

namespace WalletAgreement

open MissionEarnings (Elsewhere)

inductive Operation
  | review (c : QualityControl.Command)
  | request (agentId : Id) (r : Earnings.PayoutRequest)
  | elsewhere (e : Elsewhere)

def step (d : Db) : Operation → Db
  | .review c => (QualityControl.POST c).exec d
  | .request agentId r => (Earnings.POST agentId r).exec d
  | .elsewhere e => e.change d

/-- The wallet of the agent agrees with the ledger. -/
def Agrees (agentId : Id) (d : Db) : Prop :=
  (((getAgentLedgerBalances agentId).run d).1.toOption.map AgentBalances.availableBalance) =
    some (d.books.available agentId)

instance (agentId : Id) (d : Db) : Decidable (Agrees agentId d) := inferInstanceAs (Decidable (_ = _))

/-- What is earned by a mission with a positive amount: a tenth goes to the platform. -/
def Regular (terms : Id × Id × ℤ × ℤ × ℤ) : Prop :=
  0 < terms.2.2.1 ∧ terms.2.2.2.1 = roundTenth terms.2.2.1 ∧
    terms.2.2.2.2 = terms.2.2.1 - terms.2.2.2.1

instance (terms : Id × Id × ℤ × ℤ × ℤ) : Decidable (Regular terms) :=
  inferInstanceAs (Decidable (_ ∧ _))

/-- A mission with a positive amount has a net payout, and a fee from five on. -/
lemma Regular.postable_iff {m : Mission} (h : Regular m.terms) :
    0 < m.netPayout ∧ (Books.Postable m ↔ 5 ≤ m.payoutAmount) := by
  obtain ⟨hamount, hfee, hnet⟩ : 0 < m.payoutAmount ∧ m.asojuFee = roundTenth m.payoutAmount ∧
    m.netPayout = m.payoutAmount - m.asojuFee := h
  rw [roundTenth] at hfee
  rw [Books.Postable, checkLines_earningsLines]
  omega

/-- What keeps the wallet of the agent in step with the ledger. -/
structure InOrder (agentId : Id) (d : Db) : Prop where
  agree : d.books.available agentId = d.books.ledgerAvailable agentId
  charted : Charted d
  regular : ∀ i m, d.mission.get? i = some m → Regular m.terms
  /-- Nothing is posted for a payout that is not there yet. -/
  unborn : ∀ p, d.payout.next ≤ p → ¬ d.books.Posted (.payoutRequest p)

variable {agentId : Id} {d d' : Db}

lemma agrees_iff (h : Charted d) :
    Agrees agentId d ↔ d.books.available agentId = d.books.ledgerAvailable agentId := by
  obtain ⟨balances, hrun, hbalances⟩ := run_getAgentLedgerBalances h agentId
  rw [Agrees, hrun, ← hbalances]
  exact Option.some_inj.trans eq_comm

lemma regular_of_terms (h : ∀ i m, d.mission.get? i = some m → Regular m.terms)
    (hterms : d'.field.terms = d.field.terms) :
    ∀ i m, d'.mission.get? i = some m → Regular m.terms := by
  intro i m hget
  have hsame := Table.map_get?_of_view (t := d'.mission) (u := d.mission)
    (congrArg Prod.fst hterms) i
  rw [hget, Option.map_some] at hsame
  obtain ⟨m', hget', hm'⟩ := Option.map_eq_some_iff.mp hsame.symm
  rw [← hm']
  exact h i m' hget'

/-- Nothing has happened to the books. -/
lemma InOrder.congr (h : InOrder agentId d) (hbooks : d'.books = d.books)
    (hterms : d'.field.terms = d.field.terms) (hcharted : Charted d') : InOrder agentId d' := by
  refine ⟨?_, hcharted, regular_of_terms h.regular hterms, fun p hp => ?_⟩
  · rw [hbooks]
    exact h.agree
  · rw [hbooks]
    exact h.unborn p (by rwa [← show d'.payout = d.payout from congrArg Books.payouts hbooks])

/-- A payment keeps the agreement exactly when the earnings can be posted and the release is new, or
neither. -/
lemma agree_payMission_iff {b : Books} (missionId : Id) {mission : Mission}
    (hregular : Regular mission.terms) (hagree : b.available agentId = b.ledgerAvailable agentId) :
    (b.payMission missionId mission).available agentId =
        (b.payMission missionId mission).ledgerAvailable agentId ↔
      (mission.agentId = agentId →
        (5 ≤ mission.payoutAmount ↔ ¬ b.Posted (.qcRelease missionId))) := by
  obtain ⟨hnet, hpostable⟩ := hregular.postable_iff
  rw [Books.available_payMission, Books.ledgerAvailable_payMission, hagree]
  simp only [hpostable, hnet, true_and]
  by_cases hagent : mission.agentId = agentId
  · subst hagent
    by_cases hfive : 5 ≤ mission.payoutAmount <;>
      by_cases hposted : b.Posted (.qcRelease missionId) <;> simp [hfive, hposted] <;> omega
  · simp [hagent, Ne.symm hagent]

/-- A payment that is asked for with five at least, and whose release is new. -/
def Covered (agentId : Id) (d : Db) : Operation → Prop
  | .review c => ∀ q ∈ c.pays d, q.2.agentId = agentId →
      (5 ≤ q.2.payoutAmount ↔ ¬ d.books.Posted (.qcRelease q.1))
  | _ => True

instance coveredDecidable (agentId : Id) (d : Db) : ∀ o, Decidable (Covered agentId d o)
  | .review c => inferInstanceAs (Decidable (∀ q ∈ c.pays d, q.2.agentId = agentId →
      (5 ≤ q.2.payoutAmount ↔ ¬ d.books.Posted (.qcRelease q.1))))
  | .request _ _ => inferInstanceAs (Decidable True)
  | .elsewhere _ => inferInstanceAs (Decidable True)

/-- A request takes the same from the wallet and from the ledger. -/
lemma InOrder.request (h : InOrder agentId d) {agentId' : Id} {r : Earnings.PayoutRequest}
    (hamount : 0 < r.amount) (havailable : r.amount ≤ d.books.available agentId')
    {entry : Option Id} (hbooks : d'.books = (d.books.addPayout (Earnings.newPayout agentId' r)).make
      d.payout.next agentId' (Earnings.requestMove d.payout.next r.amount entry))
    (hterms : d'.field.terms = d.field.terms) (hcharted : Charted d') : InOrder agentId d' := by
  have hvalid : checkLines (payoutRequestLines r.amount) = none :=
    (checkLines_payoutRequestLines _).mpr hamount
  have hnew : ¬ d.books.Posted (.payoutRequest d.payout.next) := h.unborn _ le_rfl
  have hjournal : d'.books.journal = d.books.journal.insert
      { idempotencyKey := .payoutRequest d.payout.next, entity := .payout d.payout.next
        agentId := some agentId', lines := payoutRequestLines r.amount } := by
    rw [hbooks, Books.journal_make]
    simp only [Earnings.requestMove, validPosting, hvalid, Option.isSome_none, Bool.false_eq_true,
      if_false]
    exact if_neg hnew
  have hwallet : (d.books.walletOf agentId').isSome := by
    by_contra hnone
    rw [Books.available, Option.not_isSome_iff_eq_none.mp hnone] at havailable
    simp at havailable
    omega
  have hnext : d'.payout.next = d.payout.next + 1 := by
    rw [show d'.payout = _ from (congrArg Books.payouts hbooks).trans Books.payouts_make]
    rfl
  refine ⟨?_, hcharted, regular_of_terms h.regular hterms, fun p hp hposted => ?_⟩
  · have hsame : (d.books.addPayout (Earnings.newPayout agentId' r)).walletOf agentId =
        d.books.walletOf agentId := rfl
    rw [Books.ledgerAvailable_insert hjournal rfl, ← h.agree, hbooks, Books.available_make]
    refine congrArg₂ (· + ·) rfl ?_
    by_cases hagent : agentId = agentId'
    · subst hagent
      rw [if_pos ⟨rfl, hwallet⟩, if_pos rfl]
      simp [Earnings.requestMove, netOn, payoutRequestLines, JournalLine.signedAmount]
    · rw [if_neg fun h => hagent h.1, if_neg fun h => hagent (Option.some.inj h).symm]
  · rw [Books.Posted, hjournal, Table.find?_insert, Option.isSome_or, Bool.or_eq_true] at hposted
    rcases hposted with hposted | hposted
    · exact h.unborn p (by omega) hposted
    · rw [Option.isSome_ite] at hposted
      have hkey := of_decide_eq_true hposted
      cases hkey
      omega

/-- The steps that keep the agreement are those that are covered. -/
lemma InOrder.step_iff (h : InOrder agentId d) (o : Operation) :
    (Covered agentId d o → InOrder agentId (step d o)) ∧
      (Agrees agentId (step d o) → Covered agentId d o) := by
  cases o with
  | review c =>
    have hcharted : Charted (step d (.review c)) :=
      h.charted.after (QualityControl.charts_POST c d)
    have hfield : (step d (.review c)).field = c.effect d := QualityControl.field_POST c d
    have hbooks : (step d (.review c)).books = _ :=
      (congrArg Field.books hfield).trans (QualityControl.books_effect c d)
    have hterms : (step d (.review c)).field.terms = d.field.terms :=
      (congrArg Field.terms hfield).trans (QualityControl.terms_effect c d)
    rw [agrees_iff hcharted]
    cases hpays : c.pays d with
    | none =>
      rw [hpays] at hbooks
      refine ⟨fun _ => h.congr hbooks hterms hcharted, fun _ q hq => ?_⟩
      rw [hpays] at hq
      cases hq
    | some q =>
      obtain ⟨missionId, mission⟩ := q
      rw [hpays] at hbooks
      have hregular := h.regular missionId mission (QualityControl.get?_of_pays hpays)
      have hiff := agree_payMission_iff missionId hregular h.agree
      rw [← show _ = d.books.payMission missionId mission from hbooks] at hiff
      constructor
      · intro hcovered
        refine ⟨hiff.mpr (hcovered _ hpays), hcharted, regular_of_terms h.regular hterms,
          fun p hp => ?_⟩
        rw [hbooks, Books.posted_payoutRequest_payMission]
        refine h.unborn p ?_
        rwa [show (step d (.review c)).payout = d.payout from
          (congrArg Books.payouts hbooks).trans Books.payouts_payMission] at hp
      · intro hagrees q hq
        obtain rfl : (missionId, mission) = q := Option.some.inj (hpays.symm.trans hq)
        exact hiff.mp hagrees
  | request agentId' r =>
    refine ⟨fun _ => ?_, fun _ => trivial⟩
    have hcharting := Earnings.charts_POST agentId' r d
    have hcharted := h.charted.after hcharting
    rcases Earnings.POST_does agentId' r d with hbooks | ⟨hamount, havailable, entry, hbooks⟩
    · exact h.congr hbooks hcharting.terms hcharted
    · exact h.request hamount havailable hbooks hcharting.terms hcharted
  | elsewhere e =>
    refine ⟨fun _ => h.congr (e.books_change d) (e.terms_change d) ?_, fun _ => trivial⟩
    refine h.charted.after ⟨fun code hcode => ?_, Or.inl ?_, e.terms_change d⟩
    · rwa [show (step d (.elsewhere e)).ledgerAccount = d.ledgerAccount from e.chart_change d]
    · exact congrArg Books.journal (e.books_change d)

/-- The missions of the agents have positive amounts, nothing is posted, and the wallet is empty. -/
structure Fresh (agentId : Id) (d : Db) : Prop where
  wallet : d.books.available agentId = 0
  journal : d.journalEntry.values = []
  regular : ∀ i m, d.mission.get? i = some m → Regular m.terms

lemma Fresh.inOrder (h : Fresh agentId d) : InOrder agentId d := by
  refine ⟨?_, Or.inl h.journal, h.regular, fun p _ hposted => ?_⟩
  · rw [h.wallet, Books.ledgerAvailable, show d.books.journal = d.journalEntry from rfl, h.journal]
    rfl
  · obtain ⟨q, hq⟩ := Option.isSome_iff_exists.mp hposted
    have hmem : q.2 ∈ d.journalEntry.values :=
      List.mem_map_of_mem (List.mem_of_find?_eq_some hq)
    rw [h.journal] at hmem
    exact absurd hmem List.not_mem_nil

/-- A mission on the given amount, with all that the gate asks for. -/
def carriedOut (payoutAmount : ℤ) : Db where
  agent := Table.empty.insert {}
  serviceCase := Table.empty.insert {}
  mission := Table.empty.insert
    { caseId := 0, agentId := 0, payoutAmount, asojuFee := roundTenth payoutAmount
      netPayout := payoutAmount - roundTenth payoutAmount, workflowState := .qcReview
      checklistProgress := 1, checklistTotal := 1 }
  evidenceItem := Table.empty.insert { missionId := 0, agentId := 0 }
  gpsCheck := Table.empty.insert { missionId := 0, agentId := 0, result := .pass }

lemma fresh_carriedOut {payoutAmount : ℤ} (h : 0 < payoutAmount) (agentId : Id) :
    Fresh agentId (carriedOut payoutAmount) := by
  refine ⟨rfl, rfl, fun i m hget => ?_⟩
  rcases Table.get?_insert_cases hget with hget | ⟨-, rfl⟩
  · cases hget
  · exact ⟨h, rfl, rfl⟩

def startReview : Operation := .review { adminId := 7, caseId := 0, action := some .startReview }

def approve : Operation := .review { adminId := 7, caseId := 0, action := some .approve }

end WalletAgreement

end Asoju.FieldForce
