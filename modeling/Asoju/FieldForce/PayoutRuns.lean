/-
Payouts over whole runs: the wallet and the ledger against the status.

A run is a sequence of requests of agents, commands of administrators and reports of the provider.
Along with the database it keeps, for each payout, by how much the operations about it have changed
the wallet of its agent; `available_step` says that these changes are all that ever happens to the
balance of a wallet.

The routes move the status of a payout without its money in three places.  A release that the
provider refuses leaves the payout FAILED and its amount in escrow; a retry takes a FAILED payout
back to PROCESSING when its amount has been restored; and a report of success writes whatever status
the report maps to, while its posting is rejected for a payout without a fee.  `payouts_follow` says
that there is no fourth.
-/
import Asoju.FieldForce.PayoutBooks
import Asoju.Lib.Run
import Asoju.Lib.TableSum

namespace Asoju.FieldForce

open Lib

namespace Payouts

/-! ## Runs -/

inductive Operation
  | request (agentId : Id) (r : Earnings.PayoutRequest)
  | command (c : AdminPayouts.Command)
  | report (payload : PaystackWebhookEvent) (now : Time)
deriving DecidableEq, Repr

namespace Operation

def exec : Operation → Db → Db
  | request agentId r => (Earnings.POST agentId r).exec
  | command c => (AdminPayouts.POST c).exec
  | report payload now => (PaystackWebhook.POST payload now).exec

/-- The payout that an operation is about. -/
def subject : Operation → Db → Option Id
  | request _ _, d => some d.payout.next
  | command c, _ => some c.payoutId
  | report payload _, d => (PaystackWebhook.subject payload d.books).map Prod.fst

end Operation

/-- By how much the wallet of the payout's agent has changed. -/
def movement (payoutId : Id) (d d' : Db) : ℤ :=
  match d'.payout.get? payoutId with
  | some payout => d'.books.available payout.agentId - d.books.available payout.agentId
  | none => 0

/-- A database, and by how much the operations about each payout have changed the wallet of its
agent. -/
structure Account where
  db : Db
  moved : Id → ℤ

namespace Account

def start (d : Db) : Account := ⟨d, fun _ => 0⟩

def step (s : Account) (o : Operation) : Account where
  db := o.exec s.db
  moved p := s.moved p + if o.subject s.db = some p then movement p s.db (o.exec s.db) else 0

/-- What the entries about a payout come to on an account of the ledger. -/
def onLedger (s : Account) (code : AccountCode) (payoutId : Id) : ℤ :=
  netOn code (((s.db.books.entriesOf payoutId).filter fun e => e.status = .posted).flatMap
    JournalEntry.lines)

/-- The amount has been taken from the wallet and is in escrow. -/
def Held (s : Account) (payoutId : Id) (payout : Payout) : Prop :=
  s.moved payoutId = -payout.amount ∧ s.onLedger .payoutEscrow payoutId = payout.amount

/-- The amount is in the available balance, of the wallet and of the ledger. -/
def Restored (s : Account) (payoutId : Id) : Prop :=
  s.moved payoutId = 0 ∧ s.onLedger .agentAvailableBalance payoutId = 0

/-- The money is where the status says. -/
def Follows (s : Account) (payoutId : Id) (payout : Payout) : Prop :=
  (payout.status = .requested ∨ payout.status = .processing ↔ s.Held payoutId payout) ∧
    (payout.status = .failed ∨ payout.status = .reversed ↔ s.Restored payoutId)

end Account

/-! ## The conditions -/

/-- What a report of success writes agrees with what its posting does. -/
def Agrees (payload : PaystackWebhookEvent) (payout : Payout) : Prop :=
  mapPaystackStatusToPayout (parseWebhookEvent payload).status =
    if payout.asojuFee = 0 then .processing else .success

instance (payload : PaystackWebhookEvent) (payout : Payout) : Decidable (Agrees payload payout) :=
  inferInstanceAs (Decidable (_ = _))

/-- No release is refused, no failed payout is retried, and a report of success that is processed
agrees with its posting. -/
def Regular (s : Account) : Operation → Prop
  | .request _ _ => True
  | .command c => ∀ payout ∈ s.db.payout.get? c.payoutId,
      (c.action = .release → payout.status = .requested → ¬ c.Refused) ∧
        (c.action = .retry → payout.status ≠ .failed)
  | .report payload _ => (parseWebhookEvent payload).eventType = .transferSuccess →
      ∀ q ∈ PaystackWebhook.subject payload s.db.books, q.2.webhookReceivedAt = none →
        Agrees payload q.2

instance regularDecidable (s : Account) : ∀ o, Decidable (Regular s o)
  | .request _ _ => inferInstanceAs (Decidable True)
  | .command c => inferInstanceAs (Decidable (∀ payout ∈ s.db.payout.get? c.payoutId, _ ∧ _))
  | .report payload _ => inferInstanceAs (Decidable (_ → ∀ q ∈ PaystackWebhook.subject payload
      s.db.books, _ → _))

/-! ## What an operation does -/

/-- Why a move is made about a payout. -/
inductive Why (d : Db) : Operation → Id → Payout → Move → Prop
  | release (c : AdminPayouts.Command) (payout : Payout) (entry : Option Id)
      (hget : d.payout.get? c.payoutId = some payout) (haction : c.action = .release)
      (hstatus : payout.status = .requested) :
      Why d (.command c) c.payoutId payout (AdminPayouts.releaseMove c payout entry)
  | retry (c : AdminPayouts.Command) (payout : Payout)
      (hget : d.payout.get? c.payoutId = some payout) (haction : c.action = .retry)
      (hstatus : payout.status = .failed) :
      Why d (.command c) c.payoutId payout AdminPayouts.retryMove
  | report (payload : PaystackWebhookEvent) (now : Time) (payoutId : Id) (payout : Payout)
      (m : Move) (hsubject : PaystackWebhook.subject payload d.books = some (payoutId, payout))
      (hflag : payout.webhookReceivedAt = none)
      (hmakes : PaystackWebhook.Makes payload payoutId payout now m) :
      Why d (.report payload now) payoutId payout m

namespace Why

variable {d : Db} {o : Operation} {payoutId : Id} {payout : Payout} {m : Move}

lemma get (h : Why d o payoutId payout m) : d.payout.get? payoutId = some payout := by
  cases h with
  | release c payout entry hget => exact hget
  | retry c payout hget => exact hget
  | report payload now payoutId payout m hsubject =>
    rw [PaystackWebhook.subject] at hsubject
    split at hsubject
    · cases hsubject
    · cases hsubject
    · exact d.payout.mem_rows_iff.mp (List.mem_of_find?_eq_some hsubject)

lemma subject (h : Why d o payoutId payout m) : o.subject d = some payoutId := by
  cases h with
  | release c payout entry hget => rfl
  | retry c payout hget => rfl
  | report payload now payoutId payout m hsubject =>
    rw [Operation.subject, hsubject, Option.map_some]

/-- The terms of a payout are never changed. -/
lemma terms (h : Why d o payoutId payout m) (p : Payout) : (m.row p).terms = p.terms := by
  cases h with
  | release c payout entry =>
    simp only [AdminPayouts.releaseMove, AdminPayouts.transferred]
    split <;> rfl
  | retry c payout => rfl
  | report payload now payoutId payout m hsubject hflag hmakes => cases hmakes <;> rfl

lemma entity_posting (h : Why d o payoutId payout m) {key : PostingKey} {lines : List JournalLine}
    (hposting : m.posting = some (key, lines)) : key.entity = .payout payoutId := by
  have hvalid : ∀ {key' : PostingKey} {lines' : List JournalLine},
      validPosting key' lines' = some (key, lines) → key = key' := by
    intro key' lines' hkey
    rw [validPosting] at hkey
    split_ifs at hkey
    exact (congrArg Prod.fst (Option.some.inj hkey)).symm
  cases h with
  | release c payout entry => rw [hvalid hposting, PostingKey.entity]
  | retry c payout => cases hposting
  | report payload now payoutId payout m hsubject hflag hmakes =>
    cases hmakes <;> rw [hvalid hposting, PostingKey.entity]

end Why

/-- **What an operation does to the books**: nothing, a new payout, or a move. -/
theorem Operation.does (o : Operation) (d : Db) :
    (o.exec d).books = d.books ∨
    (∃ agentId r entry, o = .request agentId r ∧ 0 < r.amount ∧
      r.amount ≤ d.books.available agentId ∧
      (o.exec d).books = (d.books.addPayout (Earnings.newPayout agentId r)).make d.payout.next
        agentId (Earnings.requestMove d.payout.next r.amount entry)) ∨
    ∃ payoutId payout m, Why d o payoutId payout m ∧
      (o.exec d).books = d.books.make payoutId payout.agentId m := by
  cases o with
  | request agentId r =>
    rcases Earnings.POST_does agentId r d with h | ⟨hamount, havailable, entry, h⟩
    · exact Or.inl h
    · exact Or.inr (Or.inl ⟨agentId, r, entry, rfl, hamount, havailable, h⟩)
  | command c =>
    have h := AdminPayouts.POST_does c d
    cases hget : d.books.payouts.get? c.payoutId with
    | none =>
      rw [hget] at h
      exact Or.inl h
    | some payout =>
      rw [hget] at h
      simp only [AdminPayouts.Does] at h
      cases haction : c.action with
      | release =>
        simp only [haction] at h
        rcases h with h | ⟨hstatus, entry, h⟩
        · exact Or.inl h
        · exact Or.inr (Or.inr ⟨_, payout, _, .release c payout entry hget haction hstatus, h⟩)
      | retry =>
        simp only [haction] at h
        rcases h with h | ⟨hstatus, h⟩
        · exact Or.inl h
        · exact Or.inr (Or.inr ⟨_, payout, _, .retry c payout hget haction hstatus, h⟩)
      | other =>
        simp only [haction] at h
        exact Or.inl h
  | report payload now =>
    have h := PaystackWebhook.POST_does payload now d
    cases hsubject : PaystackWebhook.subject payload d.books with
    | none =>
      rw [hsubject] at h
      exact Or.inl h
    | some q =>
      obtain ⟨payoutId, payout⟩ := q
      rw [hsubject, PaystackWebhook.Does] at h
      split_ifs at h with hflag
      · exact Or.inl h
      · obtain ⟨m, hmakes, h⟩ := h
        have hnone := Option.not_isSome_iff_eq_none.mp hflag
        exact Or.inr (Or.inr ⟨payoutId, payout, m, .report payload now payoutId payout m hsubject
          hnone hmakes, h⟩)

/-! ## The invariant -/

section Entries

variable (payoutId : Id) (payout : Payout)

/-- An entry of the ledger about a payout. -/
def entry (key : PostingKey) (lines : List JournalLine) : JournalEntry :=
  { idempotencyKey := key
    entity := .payout payoutId
    agentId := some payout.agentId
    lines }

def requestEntry : JournalEntry :=
  entry payoutId payout (.payoutRequest payoutId) (payoutRequestLines payout.amount)

def successEntry : JournalEntry :=
  entry payoutId payout (.payoutSuccess payoutId)
    (payoutSuccessLines payout.amount payout.asojuFee payout.netAmount)

def reversalEntry : JournalEntry :=
  entry payoutId payout (.payoutReversal payoutId) (payoutReversalLines payout.amount)

end Entries

/-- Where a payout is: its status, the change of the wallet, and its entries. -/
inductive Stage (moved : ℤ) (entries : List JournalEntry) (payoutId : Id) (payout : Payout) : Prop
  /-- The amount is in escrow. -/
  | out (hstatus : payout.status = .requested ∨ payout.status = .processing)
      (hmoved : moved = -payout.amount) (hentries : entries = [requestEntry payoutId payout])
  /-- The amount has been paid. -/
  | paid (hstatus : payout.status = .success) (hflag : payout.webhookReceivedAt ≠ none)
      (hmoved : moved = -payout.amount)
      (hentries : entries = [requestEntry payoutId payout, successEntry payoutId payout])
  /-- The amount is back. -/
  | back (hstatus : payout.status = .failed ∨ payout.status = .reversed)
      (hflag : payout.webhookReceivedAt ≠ none) (hmoved : moved = 0)
      (hentries : entries = [requestEntry payoutId payout, reversalEntry payoutId payout])

/-- A payout is as it was agreed, and is at one of the stages. -/
structure InOrder (moved : ℤ) (b : Books) (payoutId : Id) (payout : Payout) : Prop where
  positive : 0 < payout.amount
  fee : payout.asojuFee = roundTenth payout.amount
  net : payout.netAmount = payout.amount - roundTenth payout.amount
  wallet : (b.walletOf payout.agentId).isSome
  stage : Stage moved (b.entriesOf payoutId) payoutId payout

/-- The invariant about the payouts from `n` on. -/
structure Sound (n : Id) (moved : Id → ℤ) (b : Books) : Prop where
  keyed : ∀ e ∈ b.journal.values, ∀ p, n ≤ p →
    (e.idempotencyKey.entity = .payout p ↔ e.entity = .payout p)
  unborn : ∀ e ∈ b.journal.values, ∀ p, b.payouts.next ≤ p → e.entity ≠ .payout p
  unmoved : ∀ p, b.payouts.next ≤ p → moved p = 0
  le : n ≤ b.payouts.next
  each : ∀ p payout, n ≤ p → b.payouts.get? p = some payout → InOrder (moved p) b p payout

/-! ### What the stages mean -/

lemma follows_of_inOrder {s : Account} {payoutId : Id} {payout : Payout}
    (h : InOrder (s.moved payoutId) s.db.books payoutId payout) : s.Follows payoutId payout := by
  have hpositive := h.positive
  have hsum : payout.asojuFee + payout.netAmount = payout.amount := by
    rw [h.fee, h.net]
    omega
  have hledger : ∀ code, s.onLedger code payoutId = netOn code
      (((s.db.books.entriesOf payoutId).filter fun e => e.status = .posted).flatMap
        JournalEntry.lines) := fun _ => rfl
  simp only [Account.Follows, Account.Held, Account.Restored, hledger]
  cases h.stage with
  | out hstatus hmoved hentries =>
    have hback : ¬ (payout.status = .failed ∨ payout.status = .reversed) := by
      rcases hstatus with h | h <;> simp [h]
    simp only [hstatus, hback, hmoved, hentries, true_iff, false_iff]
    refine ⟨⟨trivial, ?_⟩, fun hrestored => ?_⟩
    · simp [requestEntry, entry, payoutRequestLines, netOn, JournalLine.signedAmount]
    · omega
  | paid hstatus hflag hmoved hentries =>
    simp only [hstatus, hmoved, hentries, reduceCtorEq, or_self, false_iff]
    refine ⟨fun hheld => ?_, fun hrestored => ?_⟩
    · have hescrow := hheld.2
      simp [requestEntry, successEntry, entry, payoutRequestLines, payoutSuccessLines, netOn,
        JournalLine.signedAmount] at hescrow
      omega
    · omega
  | back hstatus hflag hmoved hentries =>
    have hout : ¬ (payout.status = .requested ∨ payout.status = .processing) := by
      rcases hstatus with h | h <;> simp [h]
    simp only [hstatus, hout, hmoved, hentries, true_iff, false_iff]
    refine ⟨fun hheld => ?_, trivial, ?_⟩
    · omega
    · simp [requestEntry, reversalEntry, entry, payoutRequestLines, payoutReversalLines, netOn,
        JournalLine.signedAmount]

/-! ### What a move does to the stage -/

/-- Whether a posting about a payout has been made can be seen from the entries about it. -/
lemma Sound.posted_iff {n : Id} {moved : Id → ℤ} {b : Books} (h : Sound n moved b) {p : Id}
    (hp : n ≤ p) (key : PostingKey) (hkey : key.entity = .payout p) :
    b.Posted key ↔ ∃ e ∈ b.entriesOf p, e.idempotencyKey = key := by
  rw [Books.Posted, List.find?_isSome]
  simp only [hasKey, decide_eq_true_eq, Books.entriesOf, List.mem_filter, Table.values,
    List.mem_map]
  constructor
  · rintro ⟨q, hq, hqkey⟩
    have hentity := (h.keyed q.2 (List.mem_map.mpr ⟨q, hq, rfl⟩) p hp).mp (by rw [hqkey, hkey])
    exact ⟨q.2, ⟨⟨q, hq, rfl⟩, hentity⟩, hqkey⟩
  · rintro ⟨e, ⟨⟨q, hq, rfl⟩, -⟩, hqkey⟩
    exact ⟨q, hq, hqkey⟩

section Congr

variable {payoutId : Id} {p q : Payout}

lemma requestEntry_congr (h : p.terms = q.terms) :
    requestEntry payoutId p = requestEntry payoutId q := by
  simp only [Payout.terms, Prod.mk.injEq] at h
  rw [requestEntry, requestEntry, entry, entry, h.1, h.2.1]

end Congr

/-- The entries after the posting of valid lines under a new key. -/
lemma entriesOf_make_new {b : Books} {payoutId agentId : Id} {m : Move} {key : PostingKey}
    {lines : List JournalLine} (hposting : m.posting = validPosting key lines)
    (hvalid : checkLines lines = none) (hnew : ¬ b.Posted key) :
    (b.make payoutId agentId m).entriesOf payoutId = b.entriesOf payoutId ++
      [{ idempotencyKey := key, entity := .payout payoutId, agentId := some agentId, lines }] := by
  have hsome : validPosting key lines = some (key, lines) := if_neg (by simp [hvalid])
  rw [Books.entriesOf_make_self, hposting, hsome]
  exact if_neg hnew

/-- The entries after a posting under a key that is taken, or of invalid lines. -/
lemma entriesOf_make_old {b : Books} {payoutId agentId : Id} {m : Move} {key : PostingKey}
    {lines : List JournalLine} (hposting : m.posting = validPosting key lines)
    (hold : (checkLines lines).isSome ∨ b.Posted key) :
    (b.make payoutId agentId m).entriesOf payoutId = b.entriesOf payoutId := by
  rw [Books.entriesOf_make_self, hposting, validPosting]
  by_cases hcheck : (checkLines lines).isSome = true
  · rw [if_pos hcheck]
  · rw [if_neg hcheck]
    exact if_pos (hold.resolve_left hcheck)

variable {n : Id} {moved : Id → ℤ} {d : Db}

/-- A report about a payout in escrow. -/
lemma Stage.report {payload : PaystackWebhookEvent} {now : Time} {payoutId : Id} {payout : Payout}
    {m : Move} (hsound : Sound n moved d.books) (hp : n ≤ payoutId)
    (h : InOrder (moved payoutId) d.books payoutId payout)
    (hmoved : moved payoutId = -payout.amount)
    (hentries : d.books.entriesOf payoutId = [requestEntry payoutId payout])
    (hmakes : PaystackWebhook.Makes payload payoutId payout now m)
    (hagrees : (parseWebhookEvent payload).eventType = .transferSuccess → Agrees payload payout) :
    Stage (moved payoutId + m.credit) ((d.books.make payoutId payout.agentId m).entriesOf payoutId)
      payoutId (m.row payout) := by
  have hnew : ∀ key, key.entity = .payout payoutId → key ≠ .payoutRequest payoutId →
      ¬ d.books.Posted key := by
    intro key hkey hne hposted
    obtain ⟨e, he, hekey⟩ := (hsound.posted_iff hp key hkey).mp hposted
    rw [hentries, List.mem_singleton] at he
    exact hne (by rw [← hekey, he, requestEntry, entry])
  have hpositive := h.positive
  have hfee := h.fee
  have hnet := h.net
  cases hmakes with
  | success journalEntry htype =>
    have hstatus := hagrees htype
    rw [Agrees] at hstatus
    by_cases hzero : payout.asojuFee = 0
    · -- Without a fee the posting is rejected.
      have hold : (checkLines (payoutSuccessLines payout.amount payout.asojuFee
          payout.netAmount)).isSome ∨ d.books.Posted (.payoutSuccess payoutId) := by
        refine Or.inl (Option.isSome_iff_ne_none.mpr fun hnone => ?_)
        have hvalid := (checkLines_payoutSuccessLines _ _ _).mp hnone
        omega
      rw [if_pos hzero] at hstatus
      refine .out (Or.inr hstatus) ?_ ?_
      · rw [hmoved]
        exact add_zero _
      · rw [entriesOf_make_old rfl hold, hentries]
        rfl
    · have hvalid : checkLines (payoutSuccessLines payout.amount payout.asojuFee
          payout.netAmount) = none := by
        rw [checkLines_payoutSuccessLines]
        simp only [roundTenth] at hfee hnet
        omega
      rw [if_neg hzero] at hstatus
      refine .paid hstatus (Option.some_ne_none _) ?_ ?_
      · rw [hmoved]
        exact add_zero _
      · rw [entriesOf_make_new rfl hvalid (hnew _ rfl (by simp)), hentries]
        rfl
  | failed htype =>
    have hvalid := (checkLines_payoutReversalLines payout.amount).mpr hpositive
    refine .back (Or.inl rfl) (Option.some_ne_none _) ?_ ?_
    · rw [hmoved, PaystackWebhook.failedMove, hvalid]
      simp
    · rw [entriesOf_make_new rfl hvalid (hnew _ rfl (by simp)), hentries]
      rfl
  | reversed htype =>
    have hvalid := (checkLines_payoutReversalLines payout.amount).mpr hpositive
    refine .back (Or.inr rfl) (Option.some_ne_none _) ?_ ?_
    · rw [hmoved, PaystackWebhook.reversedMove]
      simp
    · rw [entriesOf_make_new rfl hvalid (hnew _ rfl (by simp)), hentries]
      rfl

/-- **A move about a payout** that is in order leaves it in order. -/
lemma InOrder.make {o : Operation} {payoutId : Id} {payout : Payout} {m : Move}
    (hsound : Sound n moved d.books) (hp : n ≤ payoutId)
    (h : InOrder (moved payoutId) d.books payoutId payout) (hwhy : Why d o payoutId payout m)
    (hregular : Regular ⟨d, moved⟩ o) :
    InOrder (moved payoutId + m.credit) (d.books.make payoutId payout.agentId m) payoutId
      (m.row payout) := by
  have hterms := hwhy.terms payout
  have hparts := hterms
  simp only [Payout.terms, Prod.mk.injEq] at hparts
  obtain ⟨hagent, hamount, hfee, hnet⟩ := hparts
  refine ⟨by rw [hamount]; exact h.positive, by rw [hfee, hamount]; exact h.fee,
    by rw [hnet, hamount]; exact h.net, ?_, ?_⟩
  · rw [hagent, Books.isSome_walletOf_make]
    exact h.wallet
  cases hwhy with
  | release c payout journalEntry hget haction hstatus =>
    have hrefused := (hregular payout hget).1 haction hstatus
    cases h.stage with
    | out _ hmoved hentries =>
      have hposted := (hsound.posted_iff hp (.payoutRequest c.payoutId) rfl).mpr
        ⟨_, by rw [hentries]; exact List.mem_singleton_self _, rfl⟩
      refine .out (Or.inr ?_) ?_ ?_
      · simp only [AdminPayouts.releaseMove, AdminPayouts.transferred, if_neg hrefused]
        rfl
      · rw [hamount, hmoved]
        exact add_zero _
      · rw [entriesOf_make_old rfl (Or.inr hposted), hentries, requestEntry_congr hterms]
    | paid hstatus' => rw [hstatus] at hstatus'; cases hstatus'
    | back hstatus' => rw [hstatus] at hstatus'; simp at hstatus'
  | retry c payout hget haction hstatus =>
    exact absurd hstatus ((hregular payout hget).2 haction)
  | report payload now payoutId payout m hsubject hflag hmakes =>
    cases h.stage with
    | out _ hmoved hentries =>
      exact Stage.report hsound hp h hmoved hentries hmakes fun htype =>
        hregular htype _ hsubject hflag
    | paid _ hflag' => exact absurd hflag hflag'
    | back _ hflag' => exact absurd hflag hflag'

/-- A payout that an operation is not about. -/
lemma InOrder.make_of_ne {payoutId agentId p : Id} {payout : Payout} {m : Move} {amount : ℤ}
    {b : Books} (h : InOrder amount b p payout) (hne : p ≠ payoutId) :
    InOrder amount (b.make payoutId agentId m) p payout := by
  refine ⟨h.positive, h.fee, h.net, ?_, ?_⟩
  · rw [Books.isSome_walletOf_make]
    exact h.wallet
  · rw [Books.entriesOf_make_of_ne hne]
    exact h.stage

/-- The entries stay about what their keys say, and about payouts that there are. -/
lemma Sound.entries_make {b b₁ : Books} (h : Sound n moved b) (payoutId agentId : Id) {m : Move}
    (hjournal : b₁.journal = b.journal)
    (hentity : ∀ key lines, m.posting = some (key, lines) → key.entity = .payout payoutId)
    {e : JournalEntry} (he : e ∈ (b₁.make payoutId agentId m).journal.values) :
    (∀ p, n ≤ p → (e.idempotencyKey.entity = .payout p ↔ e.entity = .payout p)) ∧
      ∀ p, b.payouts.next ≤ p → p ≠ payoutId → e.entity ≠ .payout p := by
  rcases Books.mem_journal_make he with he | ⟨key, lines, hposting, rfl⟩
  · rw [hjournal] at he
    exact ⟨h.keyed e he, fun p hp _ => h.unborn e he p hp⟩
  · have hkey := hentity key lines hposting
    refine ⟨fun p _ => by rw [hkey], fun p _ hne heq => hne ?_⟩
    simpa [eq_comm] using heq

/-- **A move about a payout that there is.** -/
lemma Sound.make {o : Operation} {payoutId : Id} {payout : Payout} {m : Move}
    {moved' : Id → ℤ} (h : Sound n moved d.books) (hwhy : Why d o payoutId payout m)
    (hregular : Regular ⟨d, moved⟩ o) (hself : n ≤ payoutId → moved' payoutId =
      moved payoutId + m.credit) (hothers : ∀ p, p ≠ payoutId → moved' p = moved p) :
    Sound n moved' (d.books.make payoutId payout.agentId m) := by
  have hnext : (d.books.make payoutId payout.agentId m).payouts.next = d.books.payouts.next := by
    rw [Books.payouts_make]
    rfl
  have hne : ∀ p, d.books.payouts.next ≤ p → p ≠ payoutId := fun p hp heq =>
    absurd (Table.lt_next_of_get? _ hwhy.get) (Nat.not_lt.mpr (heq ▸ hp))
  have hentries := fun e he => h.entries_make (e := e) payoutId payout.agentId rfl
    (fun key lines => hwhy.entity_posting) he
  refine ⟨fun e he => (hentries e he).1, fun e he p hp => ?_, fun p hp => ?_, ?_, ?_⟩
  · rw [hnext] at hp
    exact (hentries e he).2 p hp (hne p hp)
  · rw [hnext] at hp
    rw [hothers p (hne p hp), h.unmoved p hp]
  · rw [hnext]
    exact h.le
  · intro p q hp hget
    rw [Books.payouts_make] at hget
    by_cases hpid : p = payoutId
    · subst hpid
      rw [Table.get?_modify_self, show d.books.payouts.get? p = some payout from hwhy.get] at hget
      obtain rfl : m.row payout = q := Option.some.inj hget
      rw [hself hp]
      exact InOrder.make h hp (h.each _ _ hp hwhy.get) hwhy hregular
    · rw [Table.get?_modify_of_ne _ hpid] at hget
      rw [hothers p hpid]
      exact (h.each p q hp hget).make_of_ne hpid

/-- **A payout is requested.** -/
lemma Sound.request {agentId : Id} {r : Earnings.PayoutRequest} {journalEntry : Option Id}
    {moved' : Id → ℤ} {b : Books} (h : Sound n moved b) (hamount : 0 < r.amount)
    (hwallet : (b.walletOf agentId).isSome) (hself : moved' b.payouts.next = -r.amount)
    (hothers : ∀ p, p ≠ b.payouts.next → moved' p = moved p) :
    Sound n moved' ((b.addPayout (Earnings.newPayout agentId r)).make b.payouts.next agentId
      (Earnings.requestMove b.payouts.next r.amount journalEntry)) := by
  have hvalid := (checkLines_payoutRequestLines r.amount).mpr hamount
  have hnext : ((b.addPayout (Earnings.newPayout agentId r)).make b.payouts.next agentId
      (Earnings.requestMove b.payouts.next r.amount journalEntry)).payouts.next =
        b.payouts.next + 1 := by
    rw [Books.payouts_make]
    rfl
  -- Nothing has been posted about the payout before.
  have hnone : b.entriesOf b.payouts.next = [] := by
    rw [Books.entriesOf, List.filter_eq_nil_iff]
    intro e he
    simpa using h.unborn e he _ le_rfl
  have hnew : ¬ b.Posted (.payoutRequest b.payouts.next) := by
    rw [h.posted_iff h.le _ rfl, hnone]
    simp
  have hentity : ∀ key lines, (Earnings.requestMove b.payouts.next r.amount
      journalEntry).posting = some (key, lines) → key.entity = .payout b.payouts.next := by
    intro key lines hposting
    simp only [Earnings.requestMove, validPosting, hvalid, Option.isSome_none,
      Bool.false_eq_true, if_false, Option.some.injEq, Prod.mk.injEq] at hposting
    rw [← hposting.1, PostingKey.entity]
  have hjournal : (b.addPayout (Earnings.newPayout agentId r)).journal = b.journal := rfl
  have hentries := fun e he => h.entries_make (e := e) b.payouts.next agentId hjournal hentity he
  refine ⟨fun e he => (hentries e he).1, fun e he p hp => ?_, fun p hp => ?_, ?_, ?_⟩
  · rw [hnext] at hp
    exact (hentries e he).2 p (Nat.le_of_succ_le hp) (Nat.ne_of_gt hp)
  · rw [hnext] at hp
    rw [hothers p (Nat.ne_of_gt hp), h.unmoved p (Nat.le_of_succ_le hp)]
  · rw [hnext]
    exact Nat.le_succ_of_le h.le
  · intro p q hp hget
    rw [Books.payouts_make, Books.addPayout] at hget
    by_cases hpid : p = b.payouts.next
    · subst hpid
      rw [Table.get?_modify_self, Table.get?_insert_self] at hget
      obtain rfl := Option.some.inj hget
      rw [hself]
      refine ⟨hamount, rfl, rfl, ?_, .out (Or.inl rfl) rfl ?_⟩
      · rw [Books.isSome_walletOf_make]
        exact hwallet
      · exact (entriesOf_make_new (b := b.addPayout (Earnings.newPayout agentId r)) rfl hvalid
          hnew).trans (congrArg (· ++ [_]) hnone)
    · rw [Table.get?_modify_of_ne _ hpid] at hget
      rcases Table.get?_insert_cases hget with hget | ⟨rfl, -⟩
      · rw [hothers p hpid]
        obtain ⟨hpositive, hfee, hnet, hwallet', hstage⟩ := h.each p q hp hget
        exact InOrder.make_of_ne ⟨hpositive, hfee, hnet, hwallet', hstage⟩ hpid
      · exact absurd rfl hpid

/-! ## The wallet and the ghost -/

lemma movement_of_books_eq {d d' : Db} (h : d'.books = d.books) (p : Id) : movement p d d' = 0 := by
  rw [movement, h]
  cases d'.payout.get? p <;> simp

/-- What a move changes in the wallet of the payout's agent. -/
lemma movement_make {d d' : Db} {o : Operation} {payoutId : Id} {payout : Payout} {m : Move}
    (hwhy : Why d o payoutId payout m)
    (hbooks : d'.books = d.books.make payoutId payout.agentId m) :
    movement payoutId d d' = if (d.books.walletOf payout.agentId).isSome then m.credit else 0 := by
  have hget : d'.payout.get? payoutId = some (m.row payout) := by
    rw [show d'.payout = _ from (congrArg Books.payouts hbooks).trans Books.payouts_make,
      Table.get?_modify_self, show d.books.payouts.get? payoutId = _ from hwhy.get, Option.map_some]
  have hagent : (m.row payout).agentId = payout.agentId :=
    congrArg Prod.fst (hwhy.terms payout)
  rw [movement, hget, hbooks]
  simp only [hagent, Books.available_make, true_and]
  omega

/-- What a request changes in the wallet of its agent. -/
lemma movement_request {d d' : Db} {agentId : Id} {r : Earnings.PayoutRequest}
    {journalEntry : Option Id} (hwallet : (d.books.walletOf agentId).isSome)
    (hbooks : d'.books = (d.books.addPayout (Earnings.newPayout agentId r)).make d.payout.next
      agentId (Earnings.requestMove d.payout.next r.amount journalEntry)) :
    movement d.payout.next d d' = -r.amount := by
  have hget : d'.payout.get? d.payout.next =
      some (Payout.linked journalEntry (Earnings.newPayout agentId r)) := by
    rw [show d'.payout = _ from (congrArg Books.payouts hbooks).trans Books.payouts_make,
      Table.get?_modify_self]
    exact congrArg (Option.map _) (Table.get?_insert_self _ _)
  have hsame : (d.books.addPayout (Earnings.newPayout agentId r)).walletOf agentId =
      d.books.walletOf agentId := rfl
  have havailable : (d.books.addPayout (Earnings.newPayout agentId r)).available agentId =
      d.books.available agentId := rfl
  rw [movement, hget, hbooks]
  show Books.available agentId _ - _ = _
  rw [Books.available_make, hsame, havailable, if_pos ⟨rfl, hwallet⟩]
  show _ + -r.amount - d.books.available agentId = -r.amount
  omega

/-- What an operation leaves of the changes that have been counted. -/
lemma moved_step_of_ne {s : Account} {o : Operation} {payoutId p : Id}
    (hsubject : o.subject s.db = some payoutId) (hne : p ≠ payoutId) :
    (s.step o).moved p = s.moved p := by
  simp only [Account.step, hsubject, Option.some.injEq, if_neg hne.symm, add_zero]

lemma moved_step_self {s : Account} {o : Operation} {payoutId : Id}
    (hsubject : o.subject s.db = some payoutId) :
    (s.step o).moved payoutId = s.moved payoutId + movement payoutId s.db (o.exec s.db) := by
  simp only [Account.step, hsubject, if_true]

/-- An operation that leaves the books alone leaves the changes alone. -/
lemma moved_step_of_books_eq {s : Account} {o : Operation}
    (h : (o.exec s.db).books = s.db.books) : (s.step o).moved = s.moved := by
  funext p
  simp only [Account.step, movement_of_books_eq h, ite_self, add_zero]

/-- What is available needs a wallet. -/
lemma isSome_walletOf_of_available {b : Books} {agentId : Id} (h : 0 < b.available agentId) :
    (b.walletOf agentId).isSome := by
  rw [Books.available] at h
  cases hwallet : b.walletOf agentId with
  | some q => rfl
  | none =>
    rw [hwallet] at h
    exact absurd h (by decide)

/-- **The invariant is preserved.** -/
lemma Sound.step {s : Account} {o : Operation} (h : Sound n s.moved s.db.books)
    (hregular : Regular s o) : Sound n (s.step o).moved (s.step o).db.books := by
  rcases o.does s.db with hbooks | ⟨agentId, r, journalEntry, rfl, hamount, havailable, hbooks⟩ |
    ⟨payoutId, payout, m, hwhy, hbooks⟩
  · rw [moved_step_of_books_eq hbooks, show (s.step o).db.books = s.db.books from hbooks]
    exact h
  · have hwallet := isSome_walletOf_of_available (Int.lt_of_lt_of_le hamount havailable)
    have hmove := movement_request hwallet hbooks
    rw [show (s.step (.request agentId r)).db.books = _ from hbooks]
    refine h.request hamount hwallet ?_ fun p hp => moved_step_of_ne rfl hp
    have hnone : s.moved s.db.payout.next = 0 := h.unmoved _ le_rfl
    refine (moved_step_self rfl).trans ?_
    show s.moved s.db.payout.next + movement s.db.payout.next _ _ = _
    rw [hmove, hnone, zero_add]
  · rw [show (s.step o).db.books = _ from hbooks]
    refine h.make hwhy hregular (fun hp => ?_) fun p hp => moved_step_of_ne hwhy.subject hp
    have hwallet := (h.each payoutId payout hp hwhy.get).wallet
    rw [moved_step_self hwhy.subject, movement_make hwhy hbooks, if_pos hwallet]

/-! ### All that happens to a wallet -/

/-- The changes of a wallet that the payouts of its agent account for. -/
def Account.total (s : Account) (agentId : Id) : ℤ :=
  s.db.payout.sum fun p payout => if payout.agentId = agentId then s.moved p else 0

/-- The sum after a move. -/
lemma total_make {s : Account} {o : Operation} {payoutId : Id} {payout : Payout} {m : Move}
    (hwhy : Why s.db o payoutId payout m)
    (hbooks : (o.exec s.db).books = s.db.books.make payoutId payout.agentId m) (agentId : Id) :
    (s.step o).total agentId = s.total agentId +
      if payout.agentId = agentId then movement payoutId s.db (o.exec s.db) else 0 := by
  have htable : (s.step o).db.payout = s.db.payout.modify payoutId m.row :=
    (congrArg Books.payouts hbooks).trans Books.payouts_make
  rw [Account.total, htable, Table.sum_modify _ _ fun p q => by
    rw [show (m.row q).agentId = q.agentId from congrArg Prod.fst (hwhy.terms q)]]
  rw [Account.total, ← Table.sum_add_at hwhy.get _ fun q =>
    if q.agentId = agentId then movement payoutId s.db (o.exec s.db) else 0]
  refine Table.sum_congr fun p q _ => ?_
  by_cases hp : p = payoutId
  · subst hp
    rw [moved_step_self hwhy.subject, if_pos rfl]
    split_ifs <;> simp
  · rw [moved_step_of_ne hwhy.subject hp, if_neg hp, add_zero]

/-- The sum after a request. -/
lemma total_request {s : Account} (hunmoved : s.moved s.db.payout.next = 0) {agentId : Id}
    {r : Earnings.PayoutRequest} {journalEntry : Option Id}
    (hbooks : ((Operation.request agentId r).exec s.db).books =
      (s.db.books.addPayout (Earnings.newPayout agentId r)).make s.db.payout.next agentId
        (Earnings.requestMove s.db.payout.next r.amount journalEntry)) (agentId' : Id) :
    (s.step (.request agentId r)).total agentId' = s.total agentId' +
      if agentId = agentId' then
        movement s.db.payout.next s.db ((Operation.request agentId r).exec s.db)
      else 0 := by
  have htable : (s.step (.request agentId r)).db.payout =
      (s.db.payout.insert (Earnings.newPayout agentId r)).modify s.db.payout.next
        (Payout.linked journalEntry) :=
    (congrArg Books.payouts hbooks).trans Books.payouts_make
  have hself : (s.step (.request agentId r)).moved s.db.payout.next =
      movement s.db.payout.next s.db ((Operation.request agentId r).exec s.db) := by
    refine (moved_step_self rfl).trans ?_
    rw [hunmoved, zero_add]
  rw [Account.total, htable, Table.sum_modify (g := Payout.linked journalEntry) _ _ fun p q => rfl,
    Table.sum_insert, hself, Account.total]
  refine congrArg₂ (· + ·) (Table.sum_congr fun p q hget => ?_) rfl
  rw [moved_step_of_ne rfl (Nat.ne_of_lt (Table.lt_next_of_get? _ hget))]

/-- An operation changes the wallet of an agent as it changes the sum. -/
lemma available_step {s : Account} (hunmoved : s.moved s.db.payout.next = 0) (o : Operation)
    (agentId' : Id) :
    (s.step o).db.books.available agentId' - (s.step o).total agentId' =
      s.db.books.available agentId' - s.total agentId' := by
  rcases o.does s.db with hbooks | ⟨agentId, r, journalEntry, rfl, hamount, havailable, hbooks⟩ |
    ⟨payoutId, payout, m, hwhy, hbooks⟩
  · have htable : (s.step o).db.payout = s.db.payout := congrArg Books.payouts hbooks
    rw [Account.total, moved_step_of_books_eq hbooks, htable,
      show (s.step o).db.books = s.db.books from hbooks, Account.total]
  · have hwallet := isSome_walletOf_of_available (Int.lt_of_lt_of_le hamount havailable)
    have hsum : ((s.db.books.addPayout (Earnings.newPayout agentId r)).make s.db.payout.next agentId
        (Earnings.requestMove s.db.payout.next r.amount journalEntry)).available agentId' =
      s.db.books.available agentId' +
        if agentId' = agentId ∧ (s.db.books.walletOf agentId').isSome then -r.amount else 0 :=
      Books.available_make _
    rw [total_request hunmoved hbooks, movement_request hwallet hbooks,
      show (s.step (.request agentId r)).db.books = _ from hbooks, hsum]
    by_cases hagent : agentId' = agentId
    · subst hagent
      rw [if_pos ⟨rfl, hwallet⟩, if_pos rfl]
      omega
    · rw [if_neg fun h => hagent h.1, if_neg (Ne.symm hagent)]
      omega
  · rw [total_make hwhy hbooks, movement_make hwhy hbooks,
      show (s.step o).db.books = _ from hbooks, Books.available_make]
    by_cases hagent : agentId' = payout.agentId
    · subst hagent
      simp only [true_and, if_true]
      omega
    · rw [if_neg fun h => hagent h.1, if_neg (Ne.symm hagent)]
      omega

/-! ## The whole run -/

/-- The journal knows nothing of payouts that are not there yet. -/
def Unposted (d : Db) : Prop :=
  ∀ e ∈ d.journalEntry.values, ∀ p, d.payout.next ≤ p →
    e.entity ≠ .payout p ∧ e.idempotencyKey.entity ≠ .payout p

lemma sound_start {d : Db} (hd : Unposted d) :
    Sound d.payout.next (Account.start d).moved (Account.start d).db.books := by
  refine ⟨fun e he p hp => ?_, fun e he p hp => (hd e he p hp).1, fun p _ => rfl, le_rfl,
    fun p payout hp hget => ?_⟩
  · exact iff_of_false (hd e he p hp).2 (hd e he p hp).1
  · exact absurd (Table.lt_next_of_get? _ hget) (Nat.not_lt.mpr hp)

/-- **The money follows the status**: in a run with no refused release, no retry of a failed payout
and no report of success that disagrees with its posting. -/
theorem payouts_follow (d : Db) (hd : Unposted d) (os : List Operation)
    (h : AllSteps Account.step Regular (.start d) os) :
    AllStates Account.step (fun s =>
      (∀ p payout, d.payout.next ≤ p → s.db.payout.get? p = some payout → s.Follows p payout) ∧
        ∀ agentId, s.db.books.available agentId = d.books.available agentId + s.total agentId)
      (.start d) os := by
  have hinvariant := AllSteps.invariant (I := fun s : Account =>
    Sound d.payout.next s.moved s.db.books ∧ ∀ agentId,
      s.db.books.available agentId = d.books.available agentId + s.total agentId)
    (fun s o hs hregular => ⟨hs.1.step hregular, fun agentId => ?_⟩) ⟨sound_start hd, ?_⟩ h
  · refine hinvariant.mono fun s hs => ⟨fun p payout hp hget => ?_, hs.2⟩
    exact follows_of_inOrder (hs.1.each p payout hp hget)
  · have hstep := available_step (hs.1.unmoved _ le_rfl) o agentId
    have hbefore := hs.2 agentId
    omega
  · intro agentId
    have hzero : (Account.start d).total agentId = 0 := by
      simp [Account.total, Account.start, Table.sum]
    rw [hzero, add_zero]
    rfl

/-- An agent with a hundred naira. -/
def hundred : Db where
  agent := Table.empty.insert {}
  walletAccount := Table.empty.insert { agentId := 0, availableBalance := 100 }

lemma unposted_hundred : Unposted hundred := by
  simp [Unposted, hundred]

/-- A payout that is requested, released and reported as paid. -/
theorem payouts_follow_paid :
    AllStates Account.step (fun s =>
      (∀ p payout, 0 ≤ p → s.db.payout.get? p = some payout → s.Follows p payout) ∧
        ∀ agentId, s.db.books.available agentId = hundred.books.available agentId + s.total agentId)
      (.start hundred)
      [.request 0 { amount := 60, now := 1, random := "a" },
        .command { payoutId := 0, action := .release, now := 2, random := "b" },
        .report { event := "transfer.success", reference := some "ASOJU_PAYOUT_0_2"
                  status := some "success" } 3] :=
  payouts_follow hundred unposted_hundred _ (by decide +kernel)

/-- The provider refuses a transfer: the payout has failed, and its amount is not restored. -/
theorem not_payouts_follow :
    ¬ ∀ (d : Db) (os : List Operation), Unposted d →
      AllStates Account.step (fun s => ∀ p payout, d.payout.next ≤ p →
        s.db.payout.get? p = some payout → s.Follows p payout) (.start d) os := by
  intro h
  have hlast := (h hundred
    [.request 0 { amount := 60, now := 1, random := "a" },
      .command { payoutId := 0, action := .release, now := 2, random := "b"
                 paystack := { configured := true, answer := { success := false } } }]
    unposted_hundred).last
  generalize hs : runFrom Account.step (Account.start hundred) _ = s at hlast
  have hstatus : (s.db.payout.get? 0).map Payout.status = some .failed := by
    rw [← hs]
    decide +kernel
  obtain ⟨payout, hget, hfailed⟩ := Option.map_eq_some_iff.mp hstatus
  have hmoved := ((hlast 0 payout le_rfl hget).2.mp (Or.inl hfailed)).1
  rw [← hs] at hmoved
  exact absurd hmoved (by decide +kernel)

end Payouts

end Asoju.FieldForce
