/-
The reports about one payout, in every interleaving.

A report looks for a mark on the payout, and leaves its own in a later step.  Another report that
looks in the meantime finds none either; the ledger answers its posting as a repeat, which counts as
a success, and the wallet is credited once more.  `restored_once` says that the wallet is credited
once at most, as long as nobody looks between the look and the mark of another report.
-/
import Asoju.FieldForce.WebhookRuns
import Asoju.Lib.Window

namespace Asoju.FieldForce

open Lib

/-! ## The steps beside the payouts and the wallets -/

/-- The step neither reports on a payout nor changes a wallet. -/
def Aside (l : Access Model) (d d' : Db) : Prop :=
  (l ≠ .update .payout ∧ l ≠ .update .walletAccount) ∧
    d'.payout = d.payout ∧ d'.walletAccount = d.walletAccount

lemma aside_find (m : Model) (d : Db) : Aside (.find m) d d := by simp [Aside]

lemma aside_seedChartOfAccounts : seedChartOfAccounts.EachStep Aside :=
  eachStep_seedChartOfAccounts fun _ _ => ⟨by decide, rfl, rfl⟩

/-- A posting is about the journal and the chart of accounts alone. -/
lemma aside_postJournalEntry (key : PostingKey) (entity : PostingEntity) (agentId : Id)
    (lines : List JournalLine) : (postJournalEntry key entity agentId lines).EachStep Aside :=
  eachStep_postJournalEntry aside_find (fun _ _ => ⟨by decide, rfl, rfl⟩)
    (fun _ _ => ⟨by decide, rfl, rfl⟩) key entity agentId lines

lemma aside_exception (x : FinanceException) :
    (record Db.financeExceptions x).EachStep Aside :=
  fun d => ⟨⟨by decide, rfl, rfl⟩, trivial⟩

lemma aside_adminAuditEvent (x : AuditEvent) :
    (record Db.adminAuditEvents x).EachStep Aside :=
  fun d => ⟨⟨by decide, rfl, rfl⟩, trivial⟩

namespace PaystackWebhook

/-! ## The stages of a delivery -/

/-- There is a payout with the reference, and it has had no report. -/
def unreported (reference : String) (d : Db) : Bool :=
  (payoutWith reference d).any fun p => p.2.webhookReceivedAt.isNone

/-- How far a delivery has come. -/
inductive Stage
  | start
  /-- It has found no payout, or one that has had a report. -/
  | ignored
  /-- It has found the payout without a report. -/
  | passed
  /-- It has left its mark on the payout. -/
  | marked
  /-- It has changed the wallet. -/
  | credited
deriving DecidableEq, Repr

/-- The stage that an action leads to. -/
def Stage.next (reference : String) (stage : Stage) (l : Access Model) (d : Db) : Stage :=
  match stage with
  | start => if unreported reference d then passed else ignored
  | passed => if l = .update .payout then marked else passed
  | marked => if l = .update .walletAccount then credited else marked
  | stage => stage

/-- Between the look at the payout and the end of what follows from it. -/
def Stage.Active : Stage → Prop
  | passed | marked | credited => True
  | _ => False

/-- What an event adds to the available balance, and to the total paid. -/
def changeOf (payout : Payout) : EventType → ℤ × ℤ
  | .transferSuccess => (0, payout.netAmount)
  | .transferFailed => (payout.amount, 0)
  | .transferReversed => (payout.amount, -payout.netAmount)
  | .unknown => (0, 0)

/-- The payout's row is rewritten: its reference and its terms stay, and its mark becomes as `mark`
says. -/
def Rewrites (payoutId : Id) (mark : Option Time → Option Time → Prop) (d d' : Db) : Prop :=
  ∃ f : Payout → Payout, d' = Db.payouts.modify payoutId f d ∧
    ∀ p, (f p).providerReference = p.providerReference ∧ (f p).terms = p.terms ∧
      mark p.webhookReceivedAt (f p).webhookReceivedAt

/-- The wallet with what an event adds. -/
def plus (change : ℤ × ℤ) (w : WalletAccount) : WalletAccount :=
  { w with
    availableBalance := w.availableBalance + change.1
    totalPaid := w.totalPaid + change.2 }

/-- A wallet gets what an event adds. -/
def Adds (change : ℤ × ℤ) (d d' : Db) : Prop :=
  ∃ walletId, d' = Db.walletAccounts.modify walletId (plus change) d

/-- What a delivery does at each stage, to a payout on the given terms. -/
def protocol (reference : String) (payoutId : Id) (payout : Payout) (kind : EventType) :
    Protocol Db (Access Model) Stage where
  relies d := ∃ p, payoutWith reference d = some (payoutId, p) ∧ p.terms = payout.terms
  init := .start
  next := Stage.next reference
  allows stage l d d' :=
    match stage with
    | .start => d' = d
    | .passed =>
        if l = .update .payout then Rewrites payoutId (fun _ mark => mark.isSome) d d'
        else Aside l d d'
    | .marked =>
        if l = .update .walletAccount then Adds (changeOf payout kind) d d'
        else Aside l d d' ∨ l = .update .payout ∧ Rewrites payoutId (fun old new => new = old) d d'
    | _ => Aside l d d'
  final _ := True

/-- The delivery has looked for the payout. -/
def Underway (stage : Stage) (_ : Except Failure Unit) : Prop := stage ≠ .start

section Leads

variable {reference : String} {payoutId : Id} {payout : Payout} {kind : EventType} {stage : Stage}

/-- What is aside is allowed once the payout has been looked for, and leads nowhere else. -/
lemma allows_aside (hstage : stage ≠ .start) (l : Access Model) (d d' : Db) (h : Aside l d d') :
    (protocol reference payoutId payout kind).allows stage l d d' ∧
      (protocol reference payoutId payout kind).next stage l d = stage := by
  obtain ⟨⟨hpayout, hwallet⟩, -⟩ := id h
  cases stage with
  | start => exact absurd rfl hstage
  | ignored => exact ⟨h, rfl⟩
  | passed => exact ⟨by simpa [protocol, hpayout] using h, if_neg hpayout⟩
  | marked => exact ⟨by simpa [protocol, hwallet] using Or.inl h, if_neg hwallet⟩
  | credited => exact ⟨h, rfl⟩

/-- The payout is marked. -/
lemma leads_mark {e : Failure} {f : Payout → Payout} {g : Unit → Svc Unit}
    (hf : ∀ p, (f p).providerReference = p.providerReference ∧ (f p).terms = p.terms ∧
      (f p).webhookReceivedAt.isSome)
    (hg : (protocol reference payoutId payout kind).Leads Underway .marked (g ())) :
    (protocol reference payoutId payout kind).Leads Underway .passed
      (Client.update Db.payouts e payoutId f >>= g) := by
  refine Protocol.Leads.atom_bind fun d _ => ⟨⟨f, rfl, hf⟩, ?_⟩
  split
  · exact hg
  · exact .fail trivial (by simp [Underway, protocol, Stage.next, Db.payouts])

/-- The journal entry of a posting is linked to the payout, or there is none. -/
lemma leads_linkJournalEntry (ledgerResult : JournalPostResult) :
    (protocol reference payoutId payout kind).Leads (fun stage _ => stage = .marked) .marked
      (linkJournalEntry payoutId ledgerResult) := by
  rw [linkJournalEntry]
  cases ledgerResult.journalEntryId with
  | none => exact .ret trivial rfl
  | some journalEntryId =>
    refine Protocol.Leads.atom fun d _ =>
      ⟨Or.inr ⟨rfl, fun p => { p with journalEntryId := some journalEntryId }, rfl, fun _ =>
        ⟨rfl, rfl, rfl⟩⟩, ?_⟩
    split
    · exact .ret trivial rfl
    · exact .fail trivial rfl

/-- The wallet is changed, if there is one. -/
lemma leads_changeWallet (agentId : Id) {f : WalletAccount → WalletAccount}
    (hf : ∀ w, f w = plus (changeOf payout kind) w) :
    (protocol reference payoutId payout kind).Leads Underway .marked (changeWallet agentId f) := by
  obtain rfl : f = _ := funext hf
  rw [changeWallet]
  refine Protocol.Leads.atom_bind fun d _ => ⟨Or.inl (aside_find _ d), ?_⟩
  cases Db.walletAccounts.find (isWalletOf agentId) d with
  | none => exact .ret trivial Stage.noConfusion
  | some wallet =>
    refine Protocol.Leads.atom fun d' _ => ⟨⟨wallet.1, rfl⟩, ?_⟩
    split
    · exact .ret trivial Stage.noConfusion
    · exact .fail trivial Stage.noConfusion

/-- The chart of accounts is seeded and an entry is posted, and what follows. -/
lemma leads_post {key : PostingKey} {entity : PostingEntity} {agentId : Id}
    {lines : List JournalLine} {g : JournalPostResult → Svc Unit}
    (hg : ∀ result, (protocol reference payoutId payout kind).Leads Underway .marked (g result)) :
    (protocol reference payoutId payout kind).Leads Underway .marked (do
      seedChartOfAccounts
      let result ← postJournalEntry key entity agentId lines
      g result) := by
  refine Protocol.Leads.bind_eachStep aside_seedChartOfAccounts (allows_aside Stage.noConfusion)
    trivial (fun _ => Stage.noConfusion) fun _ => ?_
  exact Protocol.Leads.bind_eachStep (aside_postJournalEntry _ _ _ _)
    (allows_aside Stage.noConfusion) trivial (fun _ => Stage.noConfusion) hg

variable {p : Payout} {payload : PaystackWebhookEvent} {now : Time}

lemma leads_transferSuccess (hterms : p.terms = payout.terms) (payoutStatus : PayoutStatus) :
    (protocol reference payoutId payout .transferSuccess).Leads Underway .passed
      (transferSuccess payload payoutStatus payoutId p now) := by
  simp only [Payout.terms, Prod.mk.injEq] at hterms
  refine leads_mark (fun _ => ⟨rfl, rfl, rfl⟩) (leads_post fun ledgerResult => ?_)
  refine Protocol.Leads.bind_eachStep (R := Aside) (by split; exacts [aside_exception _, trivial])
    (allows_aside Stage.noConfusion) trivial (fun _ => Stage.noConfusion) fun _ => ?_
  refine (leads_linkJournalEntry ledgerResult).bind
    (fun stage _ hstage => by rw [Underway, hstage]; exact Stage.noConfusion) fun stage _ hstage => ?_
  rw [hstage]
  exact leads_changeWallet _ fun w => by simp [plus, changeOf, hterms.2.2.2]

lemma leads_transferFailed (hterms : p.terms = payout.terms) :
    (protocol reference payoutId payout .transferFailed).Leads Underway .passed
      (transferFailed payload payoutId p now) := by
  simp only [Payout.terms, Prod.mk.injEq] at hterms
  refine leads_mark (fun _ => ⟨rfl, rfl, rfl⟩) (leads_post fun reversalResult => ?_)
  refine Protocol.Leads.bind (S := Underway) ?_ (fun _ _ h => h) fun stage _ hstage =>
    .of_eachStep (aside_exception _) (allows_aside hstage) trivial fun _ => hstage
  split
  · exact leads_changeWallet _ fun w => by simp [plus, changeOf, hterms.2.1]
  · exact .ret trivial Stage.noConfusion

lemma leads_transferReversed (hterms : p.terms = payout.terms) :
    (protocol reference payoutId payout .transferReversed).Leads Underway .passed
      (transferReversed payload payoutId p now) := by
  simp only [Payout.terms, Prod.mk.injEq] at hterms
  refine leads_mark (fun _ => ⟨rfl, rfl, rfl⟩) (leads_post fun _ => ?_)
  exact leads_changeWallet _ fun w => by
    simp [plus, changeOf, hterms.2.1, hterms.2.2.2, sub_eq_add_neg]

/-- What the kind of the event asks for. -/
lemma leads_settle (hterms : p.terms = payout.terms) (event : WebhookEvent) :
    (protocol reference payoutId payout event.eventType).Leads Underway .passed
      (settle payload event payoutId p now) := by
  rw [settle]
  cases event.eventType with
  | transferSuccess => exact leads_transferSuccess hterms _
  | transferFailed => exact leads_transferFailed hterms
  | transferReversed => exact leads_transferReversed hterms
  | unknown => exact .ret trivial Stage.noConfusion

lemma leads_processEvent (hterms : p.terms = payout.terms) (event : WebhookEvent) :
    (protocol reference payoutId payout event.eventType).Leads (fun _ _ => True) .passed
      (processEvent payload event payoutId p now) := by
  rw [processEvent]
  refine Protocol.Leads.bind_eachStep (R := Aside) (by split; exacts [aside_exception _, trivial])
    (allows_aside Stage.noConfusion) trivial (fun _ => trivial) fun _ => ?_
  refine (leads_settle hterms event).bind (fun _ _ _ => trivial) fun stage _ hstage => ?_
  exact Protocol.Leads.bind_eachStep (aside_adminAuditEvent _) (allows_aside hstage) trivial
    (fun _ => trivial) fun _ => .ret trivial trivial

variable (reference payoutId payout payload now) in
/-- The look at the payout, and what follows from it. -/
lemma leads_deliver :
    (protocol reference payoutId payout (parseWebhookEvent payload).eventType).Leads
      (fun _ _ => True) .start (deliver payload reference now) := by
  rw [deliver]
  refine Protocol.Leads.atom_bind fun d hd => ⟨rfl, ?_⟩
  obtain ⟨p, hp, hterms⟩ := hd
  have hfind : Db.payouts.find (hasProviderReference reference) d = some (payoutId, p) := hp
  have hnext : (protocol reference payoutId payout (parseWebhookEvent payload).eventType).next .start
      (.find .payout) d = if p.webhookReceivedAt.isNone then .passed else .ignored := by
    simp [protocol, Stage.next, unreported, hp]
  rw [show Db.payouts.model = Model.payout from rfl, hnext]
  simp only [hfind]
  change (protocol reference payoutId payout _).Leads _ _
    (if p.webhookReceivedAt.isSome = true then _ else processEvent _ _ payoutId p now)
  cases p.webhookReceivedAt with
  | none => exact leads_processEvent hterms _
  | some reportedAt =>
    exact Protocol.Leads.bind_eachStep (aside_exception _) (allows_aside Stage.noConfusion) trivial
      (fun _ => trivial) fun _ => .ret trivial trivial

end Leads

/-! ## Many deliveries -/

/-- The deliveries of events about the transfer with the reference. -/
def code (reference : String) (e : Delivery) : Svc (Reply Receipt) :=
  POST { e.1 with reference := some reference } e.2

/-- What the delivery does at each stage. -/
def protocolOf (reference : String) (payoutId : Id) (payout : Payout) (e : Delivery) :
    Protocol Db (Access Model) Stage :=
  protocol reference payoutId payout (parseWebhookEvent e.1).eventType

/-- **What a delivery does.** -/
lemma leads_code (reference : String) (payoutId : Id) (payout : Payout) (e : Delivery) :
    (protocolOf reference payoutId payout e).Leads (fun _ _ => True) .start (code reference e) := by
  refine Protocol.Leads.tryCatch_pure (S := fun _ _ => True) ?_ (fun _ _ h => h) fun _ _ h => h
  have hreference : (parseWebhookEvent { e.1 with reference := some reference }).providerReference =
      nonEmpty (some reference) := rfl
  have hkind : (parseWebhookEvent { e.1 with reference := some reference }).eventType =
      (parseWebhookEvent e.1).eventType := rfl
  have hdeliver := leads_deliver reference payoutId payout
    { e.1 with reference := some reference } e.2
  rw [receive, hreference, hkind]
  rw [hkind] at hdeliver
  by_cases hempty : reference = ""
  · simp only [hempty, nonEmpty]
    cases (parseWebhookEvent e.1).eventType <;> exact .ret trivial trivial
  · have hsome : nonEmpty (some reference) = some reference := by simp [nonEmpty, hempty]
    rw [hsome, protocolOf]
    cases hevent : (parseWebhookEvent e.1).eventType with
    | unknown => exact .ret trivial trivial
    | transferSuccess =>
      rw [hevent] at hdeliver
      exact hdeliver
    | transferFailed =>
      rw [hevent] at hdeliver
      exact hdeliver
    | transferReversed =>
      rw [hevent] at hdeliver
      exact hdeliver

abbrev Report := Thread Db (Access Model) Failure (Reply Receipt) Delivery

abbrev Reports := Pool Db (Access Model) Failure (Reply Receipt) Delivery

/-- How far a delivery has come. -/
def stageOf (reference : String) (t : Report) : Stage :=
  t.done.foldl (fun stage x => stage.next reference x.1 x.2) .start

/-- Nobody looks for the mark of a report while another delivery that has found none is about to
leave its own. -/
def Orderly (reference : String) (p : Reports) : Event Delivery → Prop
  | .start _ => True
  | .sched i => ∀ t ∈ p.threads[i]?, stageOf reference t = .start → ¬ t.Finished →
      unreported reference p.shared = true → ∀ u ∈ p.threads, stageOf reference u ≠ .passed

instance orderlyDecidable (reference : String) (p : Reports) :
    ∀ e, Decidable (Orderly reference p e)
  | .start _ => isTrue trivial
  | .sched i => inferInstanceAs (Decidable (∀ t ∈ p.threads[i]?, _ → _ → _ → ∀ u ∈ p.threads, _))

/-! ## The wallet -/

/-- What has been added to the wallet of the agent since `d₀`. -/
def Gained (agentId : Id) (d₀ d : Db) (change : ℤ × ℤ) : Prop :=
  d.books.available agentId = d₀.books.available agentId + change.1 ∧
    d.books.totalPaid agentId = d₀.books.totalPaid agentId + change.2

/-- A wallet that gets what an event adds is the agent's, or it is another one's. -/
lemma Gained.adds {agentId : Id} {d₀ d d' : Db} {change : ℤ × ℤ} (h : Gained agentId d₀ d (0, 0))
    (hadds : Adds change d d') : Gained agentId d₀ d' change ∨ Gained agentId d₀ d' (0, 0) := by
  obtain ⟨walletId, rfl⟩ := hadds
  have hwallet : (Db.walletAccounts.modify walletId (plus change) d).books.walletOf agentId =
      (d.books.walletOf agentId).map fun q =>
        (q.1, if q.1 = walletId then plus change q.2 else q.2) :=
    d.books.walletOf_modify walletId (f := plus change) (fun _ => rfl) agentId
  obtain ⟨havailable, hpaid⟩ := h
  rw [Books.available] at havailable
  rw [Books.totalPaid] at hpaid
  rw [Gained, Gained]
  rw [Books.available, Books.totalPaid, hwallet]
  cases hfind : d.books.walletOf agentId with
  | none =>
    rw [hfind] at havailable hpaid
    exact Or.inr ⟨havailable, hpaid⟩
  | some q =>
    rw [hfind] at havailable hpaid
    simp only [Option.map_some, Option.getD_some] at havailable hpaid ⊢
    by_cases hid : q.1 = walletId
    · simp only [if_pos hid, plus]
      exact Or.inl ⟨by omega, by omega⟩
    · simp only [if_neg hid]
      exact Or.inr ⟨havailable, hpaid⟩

lemma Gained.congr {agentId : Id} {d₀ d d' : Db} {change : ℤ × ℤ} (h : Gained agentId d₀ d change)
    (hwallet : d'.walletAccount = d.walletAccount) : Gained agentId d₀ d' change := by
  have hsame : d'.books.walletOf agentId = d.books.walletOf agentId := Books.walletOf_congr hwallet
  rw [Gained, Books.available, Books.totalPaid, hsame]
  exact h

/-- The change that an event makes is within the terms of the payout. -/
lemma changeOf_le {payout : Payout} (hamount : 0 ≤ payout.amount) (hnet : 0 ≤ payout.netAmount)
    (kind : EventType) :
    (changeOf payout kind).1 ≤ payout.amount ∧ (changeOf payout kind).2 ≤ payout.netAmount := by
  cases kind <;> simp [changeOf] <;> omega

/-! ## The invariant -/

/-- The payout is marked by one delivery at most, and what the wallet has gained is what one
delivery adds. -/
structure Single (reference : String) (payoutId : Id) (payout : Payout) (d₀ d : Db)
    (ts : List Report) : Prop where
  known : ∃ p, payoutWith reference d = some (payoutId, p) ∧ p.terms = payout.terms
  alone : Pool.AtMostOne (fun t => (stageOf reference t).Active) ts
  unmarked : unreported reference d = true → ∀ t ∈ ts,
    stageOf reference t ≠ .marked ∧ stageOf reference t ≠ .credited
  gained : Gained payout.agentId d₀ d (0, 0) ∨ (∃ t ∈ ts, stageOf reference t = .credited) ∧
    ∃ kind, Gained payout.agentId d₀ d (changeOf payout kind)

namespace Single

variable {reference : String} {payoutId : Id} {payout : Payout} {d₀ d d' : Db} {ts : List Report}
  {t t' : Report} {i : ℕ}

/-- A delivery comes in. -/
lemma start (h : Single reference payoutId payout d₀ d ts) (ht : stageOf reference t = .start) :
    Single reference payoutId payout d₀ d (ts ++ [t]) := by
  refine ⟨h.known, h.alone.concat (by rw [ht]; exact id), fun hmark => ?_,
    h.gained.imp_right fun hcredited => ⟨?_, hcredited.2⟩⟩
  · rw [List.forall_mem_append, List.forall_mem_singleton, ht]
    exact ⟨h.unmarked hmark, Stage.noConfusion, Stage.noConfusion⟩
  · obtain ⟨u, hu, hstage⟩ := hcredited.1
    exact ⟨u, List.mem_append_left _ hu, hstage⟩

/-- The payout that is found is rewritten. -/
lemma known_of_rewrites {mark : Option Time → Option Time → Prop}
    (hknown : ∃ p, payoutWith reference d = some (payoutId, p) ∧ p.terms = payout.terms)
    (h : Rewrites payoutId mark d d') :
    ∃ p p', payoutWith reference d = some (payoutId, p) ∧
      payoutWith reference d' = some (payoutId, p') ∧ p'.terms = payout.terms ∧
        mark p.webhookReceivedAt p'.webhookReceivedAt := by
  obtain ⟨p, hp, hterms⟩ := hknown
  obtain ⟨f, rfl, hf⟩ := h
  exact ⟨p, f p, hp, payoutWith_modify hp fun p => (hf p).1, (hf p).2.1.trans hterms, (hf p).2.2⟩

/-- Nobody has credited the wallet before a delivery that has marked the payout does. -/
lemma not_credited (h : Single reference payoutId payout d₀ d ts) (hi : ts[i]? = some t)
    (hstage : stageOf reference t = .marked) : Gained payout.agentId d₀ d (0, 0) := by
  refine h.gained.resolve_right fun hcredited => ?_
  obtain ⟨u, hu, hcredit⟩ := hcredited.1
  obtain ⟨j, hj⟩ := List.mem_iff_getElem?.mp hu
  have hu' : (stageOf reference u).Active := by rw [hcredit]; trivial
  have ht : (stageOf reference t).Active := by rw [hstage]; trivial
  have hij := h.alone j i u t hj hi hu' ht
  subst hij
  rw [Option.some.inj (hj.symm.trans hi), hstage] at hcredit
  cases hcredit

/-- A delivery moves on and leaves the wallets alone. -/
lemma move (h : Single reference payoutId payout d₀ d ts) (hi : ts[i]? = some t)
    (hwallet : d'.walletAccount = d.walletAccount)
    (hknown : ∃ p, payoutWith reference d' = some (payoutId, p) ∧ p.terms = payout.terms)
    (hactive : (stageOf reference t').Active →
      (stageOf reference t).Active ∨ ∀ u ∈ ts, ¬ (stageOf reference u).Active)
    (hunmarked : unreported reference d' = true → unreported reference d = true ∧
      stageOf reference t' ≠ .marked ∧ stageOf reference t' ≠ .credited)
    (hcredited : stageOf reference t = .credited → stageOf reference t' = .credited) :
    Single reference payoutId payout d₀ d' (ts.set i t') := by
  refine ⟨hknown, h.alone.set hi hactive, fun hmark u hu => ?_, ?_⟩
  · rcases List.mem_or_eq_of_mem_set hu with hu | rfl
    · exact h.unmarked (hunmarked hmark).1 u hu
    · exact (hunmarked hmark).2
  · rcases h.gained with hnone | ⟨⟨u, hu, hstage⟩, kind, hgained⟩
    · exact Or.inl (hnone.congr hwallet)
    · refine Or.inr ⟨?_, kind, hgained.congr hwallet⟩
      rcases Pool.eq_or_mem_set hi t' hu with rfl | hu
      · exact ⟨t', List.mem_set (List.getElem?_eq_some_iff.mp hi).1 t', hcredited hstage⟩
      · exact ⟨u, hu, hstage⟩

/-- What is aside leaves the invariant alone. -/
lemma rest {l : Access Model} (h : Single reference payoutId payout d₀ d ts)
    (hi : ts[i]? = some t) (haside : Aside l d d')
    (hsame : stageOf reference t' = stageOf reference t) :
    Single reference payoutId payout d₀ d' (ts.set i t') := by
  have hfound : payoutWith reference d' = payoutWith reference d :=
    payoutWith_congr haside.2.1 reference
  refine h.move hi haside.2.2 (by rw [hfound]; exact h.known) (fun hactive => Or.inl ?_)
    (fun hmark => ?_) fun hstage => hsame.trans hstage
  · rwa [hsame] at hactive
  · rw [unreported, hfound, ← unreported] at hmark
    rw [hsame]
    exact ⟨hmark, h.unmarked hmark t (List.mem_of_getElem? hi)⟩

/-- **A delivery takes a step.** -/
lemma step {l : Access Model} {kind : EventType} (h : Single reference payoutId payout d₀ d ts)
    (hi : ts[i]? = some t)
    (hallows : (protocol reference payoutId payout kind).allows (stageOf reference t) l d d')
    (ht' : stageOf reference t' = (stageOf reference t).next reference l d)
    (horderly : stageOf reference t = .start → unreported reference d = true →
      ∀ u ∈ ts, stageOf reference u ≠ .passed) :
    Single reference payoutId payout d₀ d' (ts.set i t') := by
  cases hstage : stageOf reference t with
  | start =>
    rw [hstage] at hallows ht'
    obtain rfl : d' = d := hallows
    by_cases hmark : unreported reference d' = true
    · -- The delivery is the only one that has found the payout without a mark.
      have hpassed : stageOf reference t' = .passed := by rw [ht', Stage.next, if_pos hmark]
      refine h.move hi rfl h.known (fun _ => Or.inr fun u hu hactive => ?_)
        (fun _ => ⟨hmark, ?_⟩) (by simp [hstage])
      · have hnot := h.unmarked hmark u hu
        have hnobody := horderly hstage hmark u hu
        cases hu' : stageOf reference u <;> simp_all [Stage.Active]
      · rw [hpassed]
        exact ⟨Stage.noConfusion, Stage.noConfusion⟩
    · have hignored : stageOf reference t' = .ignored := by rw [ht', Stage.next, if_neg hmark]
      exact h.move hi rfl h.known (by rw [hignored]; exact False.elim) (fun hcontra =>
        absurd hcontra hmark) (by simp [hstage])
  | passed =>
    rw [hstage] at hallows ht'
    by_cases hl : l = .update .payout
    · rw [Stage.next, if_pos hl] at ht'
      simp only [protocol, if_pos hl] at hallows
      obtain ⟨p, p', -, hp', hterms, hmark⟩ := known_of_rewrites h.known hallows
      obtain ⟨f, rfl, -⟩ := hallows
      refine h.move hi rfl ⟨p', hp', hterms⟩ (fun _ => Or.inl (by rw [hstage]; trivial))
        (fun hcontra => ?_) (by simp [hstage])
      rw [unreported, hp', Option.any_some, Option.isNone_iff_eq_none] at hcontra
      rw [hcontra] at hmark
      cases hmark
    · rw [Stage.next, if_neg hl] at ht'
      simp only [protocol, if_neg hl] at hallows
      exact h.rest hi hallows (ht'.trans hstage.symm)
  | marked =>
    rw [hstage] at hallows ht'
    by_cases hl : l = .update .walletAccount
    · rw [Stage.next, if_pos hl] at ht'
      simp only [protocol, if_pos hl] at hallows
      have hgained := (h.not_credited hi hstage).adds hallows
      obtain ⟨walletId, rfl⟩ := hallows
      have hactive : (stageOf reference t).Active := by rw [hstage]; trivial
      refine ⟨h.known, h.alone.set hi fun _ => Or.inl hactive, fun hcontra => ?_, ?_⟩
      · exact absurd hstage (h.unmarked hcontra t (List.mem_of_getElem? hi)).1
      · exact hgained.symm.imp_right fun hgained =>
          ⟨⟨t', List.mem_set (List.getElem?_eq_some_iff.mp hi).1 t', ht'⟩, kind, hgained⟩
    · rw [Stage.next, if_neg hl] at ht'
      simp only [protocol, if_neg hl] at hallows
      rcases hallows with haside | ⟨-, hrewrites⟩
      · exact h.rest hi haside (ht'.trans hstage.symm)
      · obtain ⟨p, p', hp, hp', hterms, hmark⟩ := known_of_rewrites h.known hrewrites
        obtain ⟨f, rfl, -⟩ := hrewrites
        refine h.move hi rfl ⟨p', hp', hterms⟩ (fun _ => Or.inl (by rw [hstage]; trivial))
          (fun hcontra => ?_) (by simp [hstage])
        have hsame : unreported reference (Db.payouts.modify payoutId f d) =
            unreported reference d := by
          rw [unreported, unreported, hp, hp', Option.any_some, Option.any_some, hmark]
        rw [hsame] at hcontra
        exact absurd hstage (h.unmarked hcontra t (List.mem_of_getElem? hi)).1
  | ignored =>
    rw [hstage] at hallows ht'
    exact h.rest hi hallows (ht'.trans hstage.symm)
  | credited =>
    rw [hstage] at hallows ht'
    exact h.rest hi hallows (ht'.trans hstage.symm)

end Single

/-! ## Runs -/

/-- Everything that is known of a pool of deliveries. -/
structure Settled (reference : String) (payoutId : Id) (payout : Payout) (d₀ : Db) (p : Reports) :
    Prop where
  leading : p.Leading (protocolOf reference payoutId payout) (fun _ _ _ => True) fun _ => True
  single : Single reference payoutId payout d₀ p.shared p.threads

/-- **What a step of the pool preserves.** -/
lemma Settled.step {reference : String} {payoutId : Id} {payout : Payout} {d₀ : Db} {p : Reports}
    (h : Settled reference payoutId payout d₀ p) {e : Event Delivery}
    (horderly : Orderly reference p e) :
    Settled reference payoutId payout d₀ (p.step (code reference) e) := by
  refine ⟨h.leading.preserved (code reference) (fun e _ => leads_code reference payoutId payout e)
    (fun _ => h.single.known) e (fun _ _ => trivial), ?_⟩
  rcases h.leading.tracked.step (code reference) (fun _ => h.single.known) e with
    ⟨i, -, -, hstep⟩ | ⟨c, rfl, hstep⟩ | ⟨i, t, l, w, k, rfl, hi, hrest, hallows, hstep⟩
  · rw [hstep]
    exact h.single
  · rw [hstep]
    exact h.single.start rfl
  · have hunfinished : ¬ t.Finished := by
      rw [Thread.Finished, hrest]
      exact Option.some_ne_none _
    rw [hstep]
    exact h.single.step hi hallows (Protocol.phase_concat (protocolOf reference payoutId payout t.call)
      t.done l p.shared) fun hstart => horderly t hi hstart hunfinished

/-- **A payout is restored at most once**, and paid at most once. -/
theorem restored_once (reference : String) (payoutId : Id) (payout : Payout) (d : Db)
    (hpayout : payoutWith reference d = some (payoutId, payout)) (hamount : 0 ≤ payout.amount)
    (hnet : 0 ≤ payout.netAmount) (es : List (Event Delivery))
    (h : AllSteps (Pool.step (code reference)) (Orderly reference) (Pool.idle d) es) :
    AllStates (Pool.step (code reference)) (fun p =>
      p.shared.books.available payout.agentId ≤ d.books.available payout.agentId + payout.amount ∧
        p.shared.books.totalPaid payout.agentId ≤
          d.books.totalPaid payout.agentId + payout.netAmount) (Pool.idle d) es := by
  have hidle : Settled reference payoutId payout d (Pool.idle d) := by
    refine ⟨by simp [Pool.Leading, Pool.idle], ⟨payout, hpayout, rfl⟩, Pool.atMostOne_nil, ?_, ?_⟩
    · simp [Pool.idle]
    · exact Or.inl ⟨by simp [Pool.idle], by simp [Pool.idle]⟩
  refine (AllSteps.invariant (fun p e hp he => hp.step he) hidle h).mono fun p hp => ?_
  rcases hp.single.gained with hgained | ⟨-, kind, hgained⟩
  · obtain ⟨havailable, hpaid⟩ := hgained
    exact ⟨by omega, by omega⟩
  · obtain ⟨havailable, hpaid⟩ := hgained
    have hle := changeOf_le hamount hnet kind
    exact ⟨by omega, by omega⟩

/-- A reversal and its redelivery, one after the other. -/
theorem restored_once_reversed :
    AllStates (Pool.step (code "t-1")) (fun p =>
      p.shared.books.available 0 ≤ processing.books.available 0 + 60 ∧
        p.shared.books.totalPaid 0 ≤ processing.books.totalPaid 0 + 54) (Pool.idle processing)
      (.start reverses :: List.replicate 25 (.sched 0) ++
        .start reverses :: List.replicate 2 (.sched 1)) :=
  restored_once "t-1" 0 sixty processing (by decide +kernel) (by decide) (by decide) _
    (by decide +kernel)

/-- A reversal and its redelivery both look before either leaves its mark. -/
theorem restored_twice :
    ¬ ∀ (reference : String) (payoutId : Id) (payout : Payout) (d : Db)
        (es : List (Event Delivery)), payoutWith reference d = some (payoutId, payout) →
      0 ≤ payout.amount → 0 ≤ payout.netAmount →
      AllStates (Pool.step (code reference)) (fun p =>
        p.shared.books.available payout.agentId ≤ d.books.available payout.agentId + payout.amount ∧
          p.shared.books.totalPaid payout.agentId ≤
            d.books.totalPaid payout.agentId + payout.netAmount) (Pool.idle d) es := by
  intro h
  have hlast := (h "t-1" 0 sixty processing (.start reverses :: .start reverses :: .sched 0 ::
    .sched 1 :: List.replicate 24 (.sched 0) ++ List.replicate 23 (.sched 1)) (by decide +kernel)
    (by decide) (by decide)).last
  exact absurd hlast.1 (by decide +kernel)

end PaystackWebhook

end Asoju.FieldForce
