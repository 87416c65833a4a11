/-
What the routes of a payout do to the books.

The books are the payouts, the wallets and the journal.  Whatever a route does with a payout comes
down to one move: what becomes of its row, one posting about it at most, and what is added to the
wallet of its agent.  `Earnings.exec_POST`, `AdminPayouts.exec_POST` and `PaystackWebhook.exec_POST`
say which move each route makes, and when it makes one.
-/
import Asoju.FieldForce.Payouts

namespace Asoju.FieldForce

open Lib

structure Books where
  payouts : Table Payout
  wallets : Table WalletAccount
  journal : Table JournalEntry

def Db.books (d : Db) : Books := ⟨d.payout, d.walletAccount, d.journalEntry⟩

/-- What is done about a payout. -/
structure Move where
  row : Payout → Payout := id
  posting : Option (PostingKey × List JournalLine) := none
  /-- What is added to the available balance. -/
  credit : ℤ := 0
  /-- What is added to the total paid. -/
  paid : ℤ := 0

/-- The posting of valid lines. -/
def validPosting (key : PostingKey) (lines : List JournalLine) :
    Option (PostingKey × List JournalLine) :=
  if (checkLines lines).isSome then none else some (key, lines)

/-- What is agreed when a payout is requested. -/
def Payout.terms (p : Payout) : Id × ℤ × ℤ × ℤ := (p.agentId, p.amount, p.asojuFee, p.netAmount)

/-- The payout with the journal entry of a posting, if there is one. -/
def Payout.linked (entry : Option Id) (p : Payout) : Payout :=
  { p with journalEntryId := entry.or p.journalEntryId }

namespace Books

def walletOf (agentId : Id) (b : Books) : Option (Id × WalletAccount) :=
  b.wallets.rows.find? fun p => isWalletOf agentId p.2

def available (agentId : Id) (b : Books) : ℤ :=
  ((b.walletOf agentId).map fun p => p.2.availableBalance).getD 0

def totalPaid (agentId : Id) (b : Books) : ℤ :=
  ((b.walletOf agentId).map fun p => p.2.totalPaid).getD 0

/-- An entry is posted under the key. -/
def Posted (key : PostingKey) (b : Books) : Prop :=
  (b.journal.rows.find? fun p => hasKey key p.2).isSome

instance (key : PostingKey) (b : Books) : Decidable (b.Posted key) :=
  inferInstanceAs (Decidable (_ = _))

/-- The entries about a payout. -/
def entriesOf (payoutId : Id) (b : Books) : List JournalEntry :=
  b.journal.values.filter fun e => e.entity = .payout payoutId

/-- Post the entry, unless its key is taken. -/
def post (e : JournalEntry) (b : Books) : Books :=
  if b.Posted e.idempotencyKey then b else { b with journal := b.journal.insert e }

/-- Add to the wallet of an agent, if there is one. -/
def credit (agentId : Id) (credit paid : ℤ) (b : Books) : Books :=
  match b.walletOf agentId with
  | some (walletId, _) =>
      { b with wallets := b.wallets.modify walletId fun w =>
          { w with
            availableBalance := w.availableBalance + credit
            totalPaid := w.totalPaid + paid } }
  | none => b

def addPayout (p : Payout) (b : Books) : Books := { b with payouts := b.payouts.insert p }

def changePayout (payoutId : Id) (f : Payout → Payout) (b : Books) : Books :=
  { b with payouts := b.payouts.modify payoutId f }

/-- A posting about a payout, if there is one. -/
def postAbout (payoutId agentId : Id) (posting : Option (PostingKey × List JournalLine))
    (b : Books) : Books :=
  match posting with
  | some (key, lines) =>
      b.post { idempotencyKey := key, entity := .payout payoutId, agentId := some agentId, lines }
  | none => b

/-- Make a move about a payout of an agent. -/
def make (payoutId agentId : Id) (m : Move) (b : Books) : Books :=
  ((b.postAbout payoutId agentId m.posting).changePayout payoutId m.row).credit agentId m.credit
    m.paid

/-! ### What a move leaves alone -/

variable {b : Books} {payoutId agentId : Id} {m : Move}

@[simp] lemma payouts_post (e : JournalEntry) : (b.post e).payouts = b.payouts := by
  rw [post]
  split <;> rfl

@[simp] lemma wallets_post (e : JournalEntry) : (b.post e).wallets = b.wallets := by
  rw [post]
  split <;> rfl

@[simp] lemma payouts_credit (c p : ℤ) : (b.credit agentId c p).payouts = b.payouts := by
  rw [credit]
  split <;> rfl

@[simp] lemma journal_credit (c p : ℤ) : (b.credit agentId c p).journal = b.journal := by
  rw [credit]
  split <;> rfl

lemma payouts_make :
    (b.make payoutId agentId m).payouts = b.payouts.modify payoutId m.row := by
  rw [make, payouts_credit, changePayout]
  cases m.posting <;> simp [postAbout]

lemma wallets_make : (b.make payoutId agentId m).wallets =
    (b.credit agentId m.credit m.paid).wallets := by
  have hsame : ∀ b' : Books, b'.wallets = b.wallets →
      ((b'.changePayout payoutId m.row).credit agentId m.credit m.paid).wallets =
        (b.credit agentId m.credit m.paid).wallets := by
    intro b' hb'
    simp only [credit, walletOf, changePayout, hb']
    cases b.wallets.rows.find? fun p => isWalletOf agentId p.2 <;> simp
  rw [make]
  cases m.posting with
  | none => exact hsame b rfl
  | some p => exact hsame _ (wallets_post _)

@[simp] lemma wallets_postAbout (posting : Option (PostingKey × List JournalLine)) :
    (b.postAbout payoutId agentId posting).wallets = b.wallets := by
  cases posting <;> simp [postAbout]

/-- The wallets of other books. -/
lemma walletOf_congr {b b' : Books} (h : b'.wallets = b.wallets) :
    b'.walletOf agentId = b.walletOf agentId := by
  rw [walletOf, h, walletOf]

/-- The wallet that is found is there, and is the agent's. -/
lemma walletOf_eq_some {walletId : Id} {w : WalletAccount}
    (h : b.walletOf agentId = some (walletId, w)) :
    b.wallets.get? walletId = some w ∧ w.agentId = agentId :=
  ⟨b.wallets.mem_rows_iff.mp (List.mem_of_find?_eq_some h), by
    simpa [isWalletOf] using List.find?_some h⟩

/-- The wallets after a change of one of them. -/
lemma walletOf_modify (walletId : Id) {f : WalletAccount → WalletAccount}
    (hf : ∀ w, (f w).agentId = w.agentId) (agentId : Id) :
    ({ b with wallets := b.wallets.modify walletId f } : Books).walletOf agentId =
      (b.walletOf agentId).map fun q => (q.1, if q.1 = walletId then f q.2 else q.2) := by
  simp only [walletOf, Table.modify]
  refine Table.find?_mapRows _ fun i w => ?_
  split
  · rw [isWalletOf, hf, isWalletOf]
  · rfl

/-- **The wallets after a credit**: only that of the agent has changed. -/
lemma walletOf_credit (c p : ℤ) (agentId' : Id) : (b.credit agentId c p).walletOf agentId' =
    (b.walletOf agentId').map fun q =>
      (q.1, if agentId' = agentId then
        { q.2 with
          availableBalance := q.2.availableBalance + c
          totalPaid := q.2.totalPaid + p }
        else q.2) := by
  rw [credit]
  cases hfind : b.walletOf agentId with
  | none =>
    by_cases hagent : agentId' = agentId
    · subst hagent
      rw [hfind]
      rfl
    · simp [hagent]
  | some q =>
    obtain ⟨walletId, w⟩ := q
    obtain ⟨hget, hw⟩ := walletOf_eq_some hfind
    dsimp only
    rw [walletOf_modify]
    swap
    · exact fun _ => rfl
    cases hfind' : b.walletOf agentId' with
    | none => rfl
    | some q' =>
      obtain ⟨walletId', w'⟩ := q'
      obtain ⟨hget', hw'⟩ := walletOf_eq_some hfind'
      have hiff : walletId' = walletId ↔ agentId' = agentId := by
        constructor
        · rintro rfl
          rw [← hw, ← hw', Option.some.inj (hget'.symm.trans hget)]
        · rintro rfl
          exact congrArg Prod.fst (Option.some.inj (hfind'.symm.trans hfind))
      simp only [Option.map_some, hiff]

lemma available_credit (c p : ℤ) (agentId' : Id) : (b.credit agentId c p).available agentId' =
    b.available agentId' +
      if agentId' = agentId ∧ (b.walletOf agentId').isSome then c else 0 := by
  rw [available, available, walletOf_credit]
  cases b.walletOf agentId' with
  | none => simp
  | some q => by_cases hagent : agentId' = agentId <;> simp [hagent]

/-- What is about the wallets alone can be read off the credit of a move. -/
lemma walletOf_make (agentId' : Id) : (b.make payoutId agentId m).walletOf agentId' =
    (b.credit agentId m.credit m.paid).walletOf agentId' := by
  rw [walletOf, wallets_make, walletOf]

lemma available_make (agentId' : Id) : (b.make payoutId agentId m).available agentId' =
    b.available agentId' +
      if agentId' = agentId ∧ (b.walletOf agentId').isSome then m.credit else 0 := by
  rw [available, walletOf_make, ← available, available_credit]

lemma isSome_walletOf_make (agentId' : Id) :
    ((b.make payoutId agentId m).walletOf agentId').isSome = (b.walletOf agentId').isSome := by
  rw [walletOf_make, walletOf_credit, Option.isSome_map]

/-- The entries after a move. -/
lemma journal_make : (b.make payoutId agentId m).journal =
    match m.posting with
    | some (key, lines) =>
        if b.Posted key then b.journal
        else b.journal.insert
          { idempotencyKey := key, entity := .payout payoutId, agentId := some agentId, lines }
    | none => b.journal := by
  rw [make, journal_credit, changePayout]
  cases m.posting with
  | none => rfl
  | some p =>
    simp only [postAbout, post]
    split <;> rfl

/-- Where an entry comes from. -/
lemma mem_journal_make {e : JournalEntry} (h : e ∈ (b.make payoutId agentId m).journal.values) :
    e ∈ b.journal.values ∨ ∃ key lines, m.posting = some (key, lines) ∧
      e = { idempotencyKey := key, entity := .payout payoutId, agentId := some agentId, lines } := by
  rw [journal_make] at h
  cases hposting : m.posting with
  | none =>
    rw [hposting] at h
    exact Or.inl h
  | some q =>
    obtain ⟨key, lines⟩ := q
    simp only [hposting] at h
    split_ifs at h
    · exact Or.inl h
    · rw [Table.values_insert] at h
      rcases List.mem_append.mp h with h | h
      · exact Or.inl h
      · exact Or.inr ⟨key, lines, rfl, List.mem_singleton.mp h⟩

/-- The entries about the payout of a move. -/
lemma entriesOf_make_self : (b.make payoutId agentId m).entriesOf payoutId =
    match m.posting with
    | some (key, lines) =>
        if b.Posted key then b.entriesOf payoutId
        else b.entriesOf payoutId ++
          [{ idempotencyKey := key, entity := .payout payoutId, agentId := some agentId, lines }]
    | none => b.entriesOf payoutId := by
  rw [entriesOf, journal_make]
  cases m.posting with
  | none => rfl
  | some q =>
    simp only
    split_ifs
    · rfl
    · simp [entriesOf, Table.values_insert]

/-- The entries about the other payouts. -/
lemma entriesOf_make_of_ne {p : Id} (hne : p ≠ payoutId) :
    (b.make payoutId agentId m).entriesOf p = b.entriesOf p := by
  rw [entriesOf, journal_make]
  cases m.posting with
  | none => rfl
  | some q =>
    simp only
    split_ifs
    · rfl
    · simp [entriesOf, Table.values_insert, hne.symm]

/-- Nothing is added. -/
lemma credit_zero : b.credit agentId 0 0 = b := by
  rw [credit]
  cases hfind : b.walletOf agentId with
  | none => rfl
  | some q =>
    obtain ⟨walletId, w⟩ := q
    have hsame := (Table.modify_eq_self_iff (walletOf_eq_some hfind).1 (f := fun w : WalletAccount =>
      { w with
        availableBalance := w.availableBalance + 0
        totalPaid := w.totalPaid + 0 })).mpr (by simp)
    simp only [hsame]

/-! ### Several changes at once -/

lemma changePayout_changePayout (f g : Payout → Payout) :
    (b.changePayout payoutId f).changePayout payoutId g =
      b.changePayout payoutId fun p => g (f p) := by
  simp only [changePayout, Table.modify_modify]

@[simp] lemma get?_payouts_changePayout (f : Payout → Payout) :
    (b.changePayout payoutId f).payouts.get? payoutId = (b.payouts.get? payoutId).map f :=
  Table.get?_modify_self _ _ _

@[simp] lemma payouts_postAbout (posting : Option (PostingKey × List JournalLine)) :
    (b.postAbout payoutId agentId posting).payouts = b.payouts := by
  cases posting <;> simp [postAbout]

lemma post_changePayout (e : JournalEntry) (f : Payout → Payout) :
    (b.changePayout payoutId f).post e = (b.post e).changePayout payoutId f := by
  have hposted : (b.changePayout payoutId f).Posted e.idempotencyKey ↔ b.Posted e.idempotencyKey :=
    Iff.rfl
  simp only [post, hposted]
  split <;> rfl

lemma postAbout_changePayout (posting : Option (PostingKey × List JournalLine))
    (f : Payout → Payout) : (b.changePayout payoutId f).postAbout payoutId agentId posting =
      (b.postAbout payoutId agentId posting).changePayout payoutId f := by
  cases posting with
  | none => rfl
  | some p => exact post_changePayout _ _

end Books

/-! ## What the calls of the client do to the books -/

section Client

variable (d : Db)

@[simp] lemma books_seeded : d.seeded.books = d.books := rfl

@[simp] lemma books_modify_payouts (i : Id) (f : Payout → Payout) :
    (Db.payouts.modify i f d).books = d.books.changePayout i f := rfl

@[simp] lemma books_insert_financeExceptions (x : FinanceException) :
    (Db.financeExceptions.insert x d).books = d.books := rfl

@[simp] lemma books_insert_adminAuditEvents (x : AuditEvent) :
    (Db.adminAuditEvents.insert x d).books = d.books := rfl

@[simp] lemma books_insert_auditEvents (x : AuditEvent) :
    (Db.auditEvents.insert x d).books = d.books := rfl

@[simp] lemma books_insert_walletEntries (x : WalletEntry) :
    (Db.walletEntries.insert x d).books = d.books := rfl

lemma books_posted (key : PostingKey) (payoutId agentId : Id) (lines : List JournalLine) :
    (d.posted key (.payout payoutId) agentId lines).books =
      d.books.postAbout payoutId agentId (validPosting key lines) := by
  have hposted : (d.entryUnder key).isSome = true ↔ d.books.Posted key := by
    rw [Db.entryUnder, Option.isSome_map]
    rfl
  rw [Db.posted, validPosting]
  by_cases hcheck : (checkLines lines).isSome = true
  · rw [if_pos hcheck, if_pos hcheck]
    rfl
  · rw [if_neg hcheck, if_neg hcheck]
    simp only [Books.postAbout, Books.post, hposted]
    exact apply_ite Db.books _ _ _

/-- A change of a payout, and a posting about it. -/
lemma books_modify_posted (key : PostingKey) (payoutId agentId : Id) (lines : List JournalLine)
    (f : Payout → Payout) :
    (Db.posted key (.payout payoutId) agentId lines (Db.payouts.modify payoutId f d).seeded).books =
      (d.books.postAbout payoutId agentId (validPosting key lines)).changePayout payoutId f := by
  rw [books_posted, books_seeded, books_modify_payouts, Books.postAbout_changePayout]

/-- An exception that is recorded or not leaves the books alone. -/
lemma exceptionIf_returns (c : Prop) [Decidable c] (x : FinanceException) (d : Db) {Q : Db → Prop}
    (hQ : ∀ d', d'.books = d.books → Q d') :
    (if c then record Db.financeExceptions x else pure () : Svc Unit).Returns d fun _ => Q := by
  split
  · exact .of_run (run_record _ _ _) (hQ _ rfl)
  · exact .of_run (Prog.run_pure _ _) (hQ _ rfl)

/-- The journal entry of a posting is linked to the payout. -/
lemma linkJournalEntry_returns {payoutId : Id} {p : Payout} {d : Db}
    (h : d.books.payouts.get? payoutId = some p) (ledgerResult : JournalPostResult) :
    (linkJournalEntry payoutId ledgerResult).Returns d fun _ d' =>
      d'.books = d.books.changePayout payoutId (Payout.linked ledgerResult.journalEntryId) := by
  rw [linkJournalEntry]
  cases ledgerResult.journalEntryId with
  | some entry => exact .of_run (Client.run_update_of_some (r := Db.payouts) h _ _) rfl
  | none =>
    have hsame : d.books.payouts.modify payoutId (Payout.linked none) = d.books.payouts :=
      (Table.modify_eq_self_iff h).mpr rfl
    exact .of_run rfl (by rw [Books.changePayout, hsame])

/-- The same after a posting, which has an entry when it has succeeded. -/
lemma linkIfPosted_returns {payoutId : Id} {p : Payout} {d : Db}
    (h : d.books.payouts.get? payoutId = some p) (key : PostingKey) (lines : List JournalLine)
    (d₀ : Db) :
    (if (d₀.postAnswer key lines).success then linkJournalEntry payoutId (d₀.postAnswer key lines)
      else pure () : Svc Unit).Returns d fun _ d' => d'.books = d.books.changePayout payoutId
        (Payout.linked (d₀.postAnswer key lines).journalEntryId) := by
  have hlink := linkJournalEntry_returns h (d₀.postAnswer key lines)
  by_cases hsuccess : (d₀.postAnswer key lines).success = true
  · rw [if_pos hsuccess]
    exact hlink
  · have hnone : (d₀.postAnswer key lines).journalEntryId = none := by
      rw [success_postAnswer] at hsuccess
      rw [journalEntryId_postAnswer, if_neg hsuccess]
    rw [if_neg hsuccess]
    rw [linkJournalEntry, hnone] at hlink
    rw [hnone]
    exact hlink

end Client

/-! ## The reports of the provider -/

namespace PaystackWebhook

/-- The wallet of an agent is changed. -/
lemma changeWallet_returns {agentId : Id} {f : WalletAccount → WalletAccount} {c p : ℤ}
    (hf : ∀ w, f w = { w with
      availableBalance := w.availableBalance + c
      totalPaid := w.totalPaid + p }) (d : Db) :
    (changeWallet agentId f).Returns d fun _ d' => d'.books = d.books.credit agentId c p := by
  obtain rfl : f = _ := funext hf
  have hwallet : d.books.walletOf agentId = Db.walletAccounts.find (isWalletOf agentId) d := rfl
  rw [changeWallet, Books.credit, hwallet]
  refine .bind_run (Client.run_findFirst _ _ _) ?_
  cases hfind : Db.walletAccounts.find (isWalletOf agentId) d with
  | none => exact .of_run rfl rfl
  | some q =>
    exact .of_run (Client.run_update_of_some (TableOf.find_eq_some hfind).1 _ _) rfl

/-- What a report of success comes to. -/
def successMove (payload : PaystackWebhookEvent) (payoutStatus : PayoutStatus) (payoutId : Id)
    (payout : Payout) (now : Time) (entry : Option Id) : Move where
  row p := Payout.linked entry { p with
    status := payoutStatus
    paystackReference := paystackReference payload payout
    webhookReceivedAt := some now
    paidAt := payout.paidAt.or (some now) }
  posting := validPosting (.payoutSuccess payoutId)
    (payoutSuccessLines payout.amount payout.asojuFee payout.netAmount)
  paid := payout.netAmount

lemma transferSuccess_returns (payload : PaystackWebhookEvent) (payoutStatus : PayoutStatus)
    {payoutId : Id} {payout : Payout} (now : Time) {d : Db}
    (h : d.payout.get? payoutId = some payout) :
    ∃ entry, (transferSuccess payload payoutStatus payoutId payout now).Returns d fun _ d' =>
      d'.books = d.books.make payoutId payout.agentId
        (successMove payload payoutStatus payoutId payout now entry) := by
  have hbooks : d.books.payouts.get? payoutId = some payout := h
  refine ⟨(d.postAnswer (.payoutSuccess payoutId) (payoutSuccessLines payout.amount
    payout.asojuFee payout.netAmount)).journalEntryId, ?_⟩
  rw [transferSuccess]
  refine .bind_run (Client.run_update_of_some (r := Db.payouts) h _ _)
    (.bind_run (run_seedChartOfAccounts _) (.bind_run (run_postJournalEntry _ _ _ _ _) ?_))
  refine .bind (exceptionIf_returns _ _ _ fun d₁ h₁ => ?_)
  rw [books_modify_posted] at h₁
  refine .bind ((linkJournalEntry_returns (by
    rw [h₁, Books.get?_payouts_changePayout, Books.payouts_postAbout, hbooks, Option.map_some])
      _).mono fun _ d₂ h₂ => ?_)
  refine (changeWallet_returns (c := 0) (p := payout.netAmount) (by simp) d₂).mono fun _ d₃ h₃ => ?_
  rw [h₃, h₂, h₁, Books.changePayout_changePayout]
  rfl

/-- What a report of failure comes to. -/
def failedMove (payload : PaystackWebhookEvent) (payoutId : Id) (payout : Payout) (now : Time) :
    Move where
  row p := { p with
    status := .failed
    paystackReference := paystackReference payload payout
    failureReason := some (failureReason payload)
    failureCode := some "TRANSFER_FAILED"
    webhookReceivedAt := some now
    failedAt := some now }
  posting := validPosting (.payoutReversal payoutId) (payoutReversalLines payout.amount)
  credit := if (checkLines (payoutReversalLines payout.amount)).isSome then 0 else payout.amount

lemma transferFailed_returns (payload : PaystackWebhookEvent) {payoutId : Id} {payout : Payout}
    (now : Time) {d : Db} (h : d.payout.get? payoutId = some payout) :
    (transferFailed payload payoutId payout now).Returns d fun _ d' =>
      d'.books = d.books.make payoutId payout.agentId
        (failedMove payload payoutId payout now) := by
  rw [transferFailed]
  refine .bind_run (Client.run_update_of_some (r := Db.payouts) h _ _)
    (.bind_run (run_seedChartOfAccounts _) (.bind_run (run_postJournalEntry _ _ _ _ _) ?_))
  rw [success_postAnswer, Books.make, failedMove]
  refine .bind ?_
  cases hcheck : checkLines (payoutReversalLines payout.amount) with
  | some rejected =>
    refine .of_run (Prog.run_pure _ _) (.of_run (run_record _ _ _) ?_)
    rw [books_insert_financeExceptions, books_modify_posted]
    exact Books.credit_zero.symm
  | none =>
    refine (changeWallet_returns (c := payout.amount) (p := 0) (by simp) _).mono
      fun _ d₁ h₁ => .of_run (run_record _ _ _) ?_
    rw [books_insert_financeExceptions, h₁, books_modify_posted]
    rfl

/-- What a report of a reversal comes to. -/
def reversedMove (payload : PaystackWebhookEvent) (payoutId : Id) (payout : Payout) (now : Time) :
    Move where
  row p := { p with
    status := .reversed
    paystackReference := paystackReference payload payout
    webhookReceivedAt := some now
    reversedAt := some now
    failureReason := some "Transfer reversed by provider" }
  posting := validPosting (.payoutReversal payoutId) (payoutReversalLines payout.amount)
  credit := payout.amount
  paid := -payout.netAmount

lemma transferReversed_returns (payload : PaystackWebhookEvent) {payoutId : Id} {payout : Payout}
    (now : Time) {d : Db} (h : d.payout.get? payoutId = some payout) :
    (transferReversed payload payoutId payout now).Returns d fun _ d' =>
      d'.books = d.books.make payoutId payout.agentId
        (reversedMove payload payoutId payout now) := by
  rw [transferReversed]
  refine .bind_run (Client.run_update_of_some (r := Db.payouts) h _ _)
    (.bind_run (run_seedChartOfAccounts _) (.bind_run (run_postJournalEntry _ _ _ _ _) ?_))
  refine (changeWallet_returns (c := payout.amount) (p := -payout.netAmount)
    (fun w => by rw [sub_eq_add_neg]) _).mono fun _ d₁ h₁ => ?_
  rw [h₁, books_modify_posted]
  rfl

/-- The moves that a report of the provider can make. -/
inductive Makes (payload : PaystackWebhookEvent) (payoutId : Id) (payout : Payout) (now : Time) :
    Move → Prop
  | success (entry : Option Id) (h : (parseWebhookEvent payload).eventType = .transferSuccess) :
      Makes payload payoutId payout now (successMove payload
        (mapPaystackStatusToPayout (parseWebhookEvent payload).status) payoutId payout now entry)
  | failed (h : (parseWebhookEvent payload).eventType = .transferFailed) :
      Makes payload payoutId payout now (failedMove payload payoutId payout now)
  | reversed (h : (parseWebhookEvent payload).eventType = .transferReversed) :
      Makes payload payoutId payout now (reversedMove payload payoutId payout now)

lemma settle_returns {payload : PaystackWebhookEvent} {payoutId : Id} {payout : Payout}
    (now : Time) {d : Db} (h : d.payout.get? payoutId = some payout)
    (hknown : (parseWebhookEvent payload).eventType ≠ .unknown) :
    ∃ m, Makes payload payoutId payout now m ∧
      (settle payload (parseWebhookEvent payload) payoutId payout now).Returns d fun _ d' =>
        d'.books = d.books.make payoutId payout.agentId m := by
  rw [settle]
  cases htype : (parseWebhookEvent payload).eventType with
  | transferSuccess =>
    obtain ⟨entry, hreturns⟩ := transferSuccess_returns payload
      (mapPaystackStatusToPayout (parseWebhookEvent payload).status) now h
    exact ⟨_, .success entry htype, hreturns⟩
  | transferFailed => exact ⟨_, .failed htype, transferFailed_returns payload now h⟩
  | transferReversed => exact ⟨_, .reversed htype, transferReversed_returns payload now h⟩
  | unknown => exact absurd htype hknown

lemma processEvent_returns {payload : PaystackWebhookEvent} {payoutId : Id} {payout : Payout}
    (now : Time) {d : Db} (h : d.payout.get? payoutId = some payout)
    (hknown : (parseWebhookEvent payload).eventType ≠ .unknown) :
    ∃ m, Makes payload payoutId payout now m ∧
      (processEvent payload (parseWebhookEvent payload) payoutId payout now).Returns d fun _ d' =>
        d'.books = d.books.make payoutId payout.agentId m := by
  -- The exception about the amounts comes first, if there is one.
  have hrest : ∀ d₁ : Db, d₁.books = d.books → ∃ m, Makes payload payoutId payout now m ∧
      (do
        settle payload (parseWebhookEvent payload) payoutId payout now
        record Db.adminAuditEvents
          ⟨auditAction (parseWebhookEvent payload).eventType, some payoutId⟩
        return Reply.ok { processed := true } : Svc (Reply Receipt)).Returns d₁ fun _ d' =>
          d'.books = d.books.make payoutId payout.agentId m := by
    intro d₁ h₁
    have hrow : d₁.payout.get? payoutId = some payout := by
      rw [← h, show d₁.payout = d.payout from congrArg Books.payouts h₁]
    obtain ⟨m, hm, hsettle⟩ := settle_returns now hrow hknown
    refine ⟨m, hm, .bind (hsettle.mono fun _ d₂ h₂ => .bind_run (run_record _ _ _)
      (.of_run (Prog.run_pure _ _) ?_))⟩
    rw [books_insert_adminAuditEvents, h₂, h₁]
  rw [processEvent]
  split
  · obtain ⟨m, hm, hreturns⟩ := hrest _ (books_insert_financeExceptions d ⟨.amountMismatch⟩)
    exact ⟨m, hm, .bind_run (run_record _ _ _) hreturns⟩
  · obtain ⟨m, hm, hreturns⟩ := hrest d rfl
    exact ⟨m, hm, .bind_run (Prog.run_pure _ _) hreturns⟩

/-- The payout that an event is about, if the event is one to be processed. -/
def subject (payload : PaystackWebhookEvent) (b : Books) : Option (Id × Payout) :=
  match (parseWebhookEvent payload).eventType, (parseWebhookEvent payload).providerReference with
  | .unknown, _ => none
  | _, none => none
  | _, some reference => b.payouts.rows.find? fun p => hasProviderReference reference p.2

/-- What a report has done to the books. -/
def Does (payload : PaystackWebhookEvent) (now : Time) (b : Books) :
    Option (Id × Payout) → Books → Prop
  | some (payoutId, payout), b' =>
      if payout.webhookReceivedAt.isSome then b' = b
      else ∃ m, Makes payload payoutId payout now m ∧ b' = b.make payoutId payout.agentId m
  | none, b' => b' = b

lemma deliver_does (payload : PaystackWebhookEvent) (providerReference : String) (now : Time)
    (d : Db) (hknown : (parseWebhookEvent payload).eventType ≠ .unknown) :
    Does payload now d.books (Db.payouts.find (hasProviderReference providerReference) d)
      ((deliver payload providerReference now).exec d).books := by
  refine Prog.Returns.exec (Q := fun d' : Db => Does payload now d.books _ d'.books) ?_
  rw [deliver]
  refine .bind_run (Client.run_findFirst _ _ _) ?_
  cases hfind : Db.payouts.find (hasProviderReference providerReference) d with
  | none => exact .bind_run (run_record _ _ _) (.of_run (Prog.run_pure _ _) rfl)
  | some q =>
    obtain ⟨payoutId, payout⟩ := q
    simp only [Does]
    split
    · exact .bind_run (run_record _ _ _) (.of_run (Prog.run_pure _ _) rfl)
    · obtain ⟨m, hm, hreturns⟩ :=
        processEvent_returns now (TableOf.find_eq_some hfind).1 hknown
      exact hreturns.mono fun _ d' hd' => ⟨m, hm, hd'⟩

/-- **What a report does**: a move, if it is the first report about a payout that there is. -/
theorem POST_does (payload : PaystackWebhookEvent) (now : Time) (d : Db) :
    Does payload now d.books (subject payload d.books) ((POST payload now).exec d).books := by
  have hdeliver := fun reference => deliver_does payload reference now d
  rw [POST, Prog.exec_tryCatch_pure, receive, subject]
  cases htype : (parseWebhookEvent payload).eventType with
  | unknown => exact rfl
  | transferSuccess =>
    cases (parseWebhookEvent payload).providerReference with
    | none => exact rfl
    | some reference => exact hdeliver reference (by simp [htype])
  | transferFailed =>
    cases (parseWebhookEvent payload).providerReference with
    | none => exact rfl
    | some reference => exact hdeliver reference (by simp [htype])
  | transferReversed =>
    cases (parseWebhookEvent payload).providerReference with
    | none => exact rfl
    | some reference => exact hdeliver reference (by simp [htype])

end PaystackWebhook

/-! ## The release by an administrator -/

namespace AdminPayouts

/-- The answer to the transfer. -/
def Command.transferResult (c : Command) : TransferResult :=
  initiatePaystackTransfer c.paystack (generateProviderReference (toString c.payoutId) c.now)

/-- The provider refuses the transfer. -/
def Command.Refused (c : Command) : Prop := ¬ c.transferResult.success ∧ c.paystack.configured

instance (c : Command) : Decidable c.Refused := inferInstanceAs (Decidable (_ ∧ _))

/-- The payout after the transfer. -/
def transferred (c : Command) (p : Payout) : Payout :=
  if c.Refused then
    { p with
      status := .failed
      failureReason := c.transferResult.error
      failureCode := some "TRANSFER_INITIATION_FAILED"
      failedAt := some c.now }
  else
    { p with paystackReference := (nonEmpty c.transferResult.reference).or p.paystackReference }

/-- What a release comes to. -/
def releaseMove (c : Command) (payout : Payout) (entry : Option Id) : Move where
  row p := transferred c (Payout.linked entry { p with
    status := .processing
    providerReference := some (generateProviderReference (toString c.payoutId) c.now)
    idempotencyKey := some (generatePayoutIdempotencyKey payout.agentId c.now c.random) })
  posting := validPosting (.payoutRequest c.payoutId) (payoutRequestLines payout.amount)

/-- What a retry comes to. -/
def retryMove : Move where
  row p := { p with status := .processing, failureReason := none, failureCode := none }

/-- What a command has done to the books. -/
def Does (c : Command) (b : Books) : Option Payout → Books → Prop
  | some payout, b' =>
      match c.action with
      | .release => b' = b ∨ payout.status = .requested ∧
          ∃ entry, b' = b.make c.payoutId payout.agentId (releaseMove c payout entry)
      | .retry => b' = b ∨ payout.status = .failed ∧
          b' = b.make c.payoutId payout.agentId retryMove
      | .other => b' = b
  | none, b' => b' = b

lemma recordTransfer_returns {c : Command} {p : Payout} {d : Db}
    (h : d.books.payouts.get? c.payoutId = some p) :
    (recordTransfer c.payoutId c.paystack c.transferResult c.now).Returns d fun _ d' =>
      d'.books = d.books.changePayout c.payoutId (transferred c) := by
  rw [recordTransfer]
  by_cases hrefused : ¬ c.transferResult.success ∧ c.paystack.configured
  · have hrow : transferred c = fun p => { p with
        status := .failed
        failureReason := c.transferResult.error
        failureCode := some "TRANSFER_INITIATION_FAILED"
        failedAt := some c.now } := funext fun p => if_pos (show c.Refused from hrefused)
    rw [if_pos hrefused, hrow]
    exact .bind_run (Client.run_update_of_some (r := Db.payouts) h _ _)
      (.bind_run (run_record _ _ _) (.of_run (Prog.run_pure _ _) rfl))
  · have hrow : transferred c = fun p => { p with
        paystackReference := (nonEmpty c.transferResult.reference).or p.paystackReference } :=
      funext fun p => if_neg (show ¬ c.Refused from hrefused)
    rw [if_neg hrefused, hrow]
    cases nonEmpty c.transferResult.reference with
    | some reference =>
      exact .bind_run (Client.run_update_of_some (r := Db.payouts) h _ _)
        (.bind_run (run_record _ _ _) (.bind_run (Client.run_findUnique _ _ _)
          (.of_run (Prog.run_pure _ _) rfl)))
    | none =>
      refine .bind_run (Prog.run_pure _ _) (.bind_run (run_record _ _ _)
        (.bind_run (Client.run_findUnique _ _ _) (.of_run (Prog.run_pure _ _) ?_)))
      rw [books_insert_adminAuditEvents, Books.changePayout,
        (Table.modify_eq_self_iff h).mpr (by simp)]

lemma release_returns {c : Command} {payout : Payout} {d : Db}
    (h : d.payout.get? c.payoutId = some payout) (hstatus : payout.status = .requested) :
    (release payout c).Returns d fun _ d' => d'.books = d.books ∨
      ∃ entry, d'.books = d.books.make c.payoutId payout.agentId (releaseMove c payout entry) := by
  have hbooks : d.books.payouts.get? c.payoutId = some payout := h
  rw [release, if_neg (not_not.mpr hstatus)]
  refine .bind_run (Client.run_findFirst _ _ _) ?_
  split
  · exact .of_run (Prog.run_pure _ _) (Or.inl rfl)
  · refine .bind_run (Client.run_update_of_some (r := Db.payouts) h _ _)
      (.bind_run (run_seedChartOfAccounts _) (.bind_run (run_postJournalEntry _ _ _ _ _) ?_))
    have hrow : ∀ f, ((d.books.postAbout c.payoutId payout.agentId (validPosting
        (.payoutRequest c.payoutId) (payoutRequestLines payout.amount))).changePayout c.payoutId
          f).payouts.get? c.payoutId = some (f payout) := by
      intro f
      rw [Books.get?_payouts_changePayout, Books.payouts_postAbout, hbooks, Option.map_some]
    refine .bind ((linkIfPosted_returns (by rw [books_modify_posted, hrow]) _ _ _).mono
      fun _ d₁ h₁ => ?_)
    rw [books_modify_posted, Books.changePayout_changePayout] at h₁
    refine (recordTransfer_returns (by rw [h₁, hrow])).mono fun _ d₂ h₂ => Or.inr
      ⟨(d.postAnswer (.payoutRequest c.payoutId)
        (payoutRequestLines payout.amount)).journalEntryId, ?_⟩
    rw [h₂, h₁, Books.changePayout_changePayout, Books.make, releaseMove]
    exact Books.credit_zero.symm

lemma retry_returns {c : Command} {payout : Payout} {d : Db}
    (h : d.payout.get? c.payoutId = some payout) (hstatus : payout.status = .failed) :
    (retry payout c).Returns d fun _ d' =>
      d'.books = d.books.make c.payoutId payout.agentId retryMove := by
  rw [retry, if_neg (not_not.mpr hstatus)]
  refine .bind_run (Client.run_update_of_some (r := Db.payouts) h _ _)
    (.bind_run (run_record _ _ _) (.bind_run (Client.run_findUnique _ _ _)
      (.of_run (Prog.run_pure _ _) ?_)))
  exact Books.credit_zero.symm

/-- **What a command does.** -/
theorem POST_does (c : Command) (d : Db) :
    Does c d.books (d.books.payouts.get? c.payoutId) ((POST c).exec d).books := by
  refine Prog.Returns.exec (Q := fun d' : Db => Does c d.books _ d'.books) (.tryCatch ?_)
  rw [process]
  refine .bind_run (Client.run_findUnique _ _ _) ?_
  have hsame : (Db.payouts.get d).get? c.payoutId = d.books.payouts.get? c.payoutId := rfl
  rw [hsame]
  cases hget : d.books.payouts.get? c.payoutId with
  | none => exact .of_run (Prog.run_pure _ _) rfl
  | some payout =>
    simp only [Does]
    cases c.action with
    | release =>
      by_cases hstatus : payout.status = .requested
      · exact (release_returns hget hstatus).mono fun _ d' hd' =>
          hd'.imp_right fun h => ⟨hstatus, h⟩
      · show (release payout c).Returns d _
        rw [release, if_pos hstatus]
        exact .of_run (Prog.run_pure _ _) (Or.inl rfl)
    | retry =>
      by_cases hstatus : payout.status = .failed
      · exact (retry_returns hget hstatus).mono fun _ d' hd' => Or.inr ⟨hstatus, hd'⟩
      · show (retry payout c).Returns d _
        rw [retry, if_pos hstatus]
        exact .of_run (Prog.run_pure _ _) (Or.inl rfl)
    | other => exact .of_run (Prog.run_pure _ _) rfl

end AdminPayouts

/-! ## The request of an agent -/

namespace Earnings

/-- What a request comes to, once the payout has been created. -/
def requestMove (payoutId : Id) (amount : ℤ) (entry : Option Id) : Move where
  row := Payout.linked entry
  posting := validPosting (.payoutRequest payoutId) (payoutRequestLines amount)
  credit := -amount

/-- What a request has done to the books. -/
def Does (agentId : Id) (r : PayoutRequest) (b b' : Books) : Prop :=
  b' = b ∨ 0 < r.amount ∧ r.amount ≤ b.available agentId ∧ ∃ entry,
    b' = (b.addPayout (newPayout agentId r)).make b.payouts.next agentId
      (requestMove b.payouts.next r.amount entry)

lemma deduct_returns {agentId : Id} {wallet : Id × WalletAccount} {d : Db}
    (h : d.books.walletOf agentId = some wallet) (amount : ℤ) (payoutId : Id) :
    (deduct agentId (some wallet) amount payoutId).Returns d fun _ d' =>
      d'.books = d.books.credit agentId (-amount) 0 := by
  obtain ⟨walletId, w⟩ := wallet
  rw [deduct]
  refine .bind_run (Client.run_update_of_some (r := Db.walletAccounts)
    (Books.walletOf_eq_some h).1 _ _) (.of_run (run_record _ _ _) ?_)
  simp only [books_insert_walletEntries, Books.credit, h, sub_eq_add_neg, add_zero]
  rfl

lemma createPayout_returns {agentId : Id} {r : PayoutRequest} {wallet : Id × WalletAccount}
    {d : Db} (hwallet : d.books.walletOf agentId = some wallet) (hamount : 0 < r.amount)
    (havailable : r.amount ≤ d.books.available agentId) :
    (createPayout agentId (some wallet) r).Returns d fun _ d' =>
      Does agentId r d.books d'.books := by
  rw [createPayout]
  refine .bind_run (Client.run_findFirst _ _ _) ?_
  cases hfind : Db.payouts.find (hasIdempotencyKey
      (generatePayoutIdempotencyKey agentId r.now r.random)) d with
  | some q => exact .of_run (Prog.run_pure _ _) (Or.inl rfl)
  | none =>
    have hcreate := Client.run_createUnique Db.payouts d (hasIdempotencyKey
      (generatePayoutIdempotencyKey agentId r.now r.random)) Failure.uniqueConstraint
        (newPayout agentId r)
    simp only [hfind, Option.isSome_none, Bool.false_eq_true, if_false] at hcreate
    have hrow : (d.books.payouts.insert (newPayout agentId r)).get? d.books.payouts.next =
        some (newPayout agentId r) := Table.get?_insert_self _ _
    refine .bind_run hcreate (.bind_run (run_seedChartOfAccounts _)
      (.bind_run (run_postJournalEntry _ _ _ _ _) ?_))
    refine .bind ((linkIfPosted_returns (p := newPayout agentId r) ?_ _ _ _).mono
      fun _ d₁ h₁ => ?_)
    · rw [books_posted, Books.payouts_postAbout]
      exact hrow
    rw [books_posted] at h₁
    have hsame : d₁.books.walletOf agentId = some wallet := by
      rw [h₁, ← hwallet]
      exact Books.walletOf_congr (Books.wallets_postAbout _)
    refine .bind ((deduct_returns hsame _ _).mono fun _ d₂ h₂ => ?_)
    refine .bind_run (run_record _ _ _) (.of_run (Prog.run_pure _ _)
      (Or.inr ⟨hamount, havailable, (d.postAnswer (.payoutRequest d.payout.next)
        (payoutRequestLines r.amount)).journalEntryId, ?_⟩))
    rw [books_insert_auditEvents, h₂, h₁]
    rfl

/-- **What a request does.** -/
theorem POST_does (agentId : Id) (r : PayoutRequest) (d : Db) :
    Does agentId r d.books ((POST agentId r).exec d).books := by
  refine Prog.Returns.exec (Q := fun d' : Db => Does agentId r d.books d'.books) (.tryCatch ?_)
  rw [requestPayout]
  split
  · exact .of_run (Prog.run_pure _ _) (Or.inl rfl)
  · rename_i hamount
    refine .bind_run (Client.run_findUnique _ _ _) ?_
    split
    · exact .of_run (Prog.run_pure _ _) (Or.inl rfl)
    · refine .bind_run (Client.run_findFirst _ _ _) ?_
      show Prog.Returns (if r.amount > d.books.available agentId then _ else
        createPayout agentId (d.books.walletOf agentId) r) _ _
      by_cases hshort : r.amount > d.books.available agentId
      · rw [if_pos hshort]
        exact .of_run (Prog.run_pure _ _) (Or.inl rfl)
      · rw [if_neg hshort]
        cases hwallet : d.books.walletOf agentId with
        | some wallet => exact createPayout_returns hwallet (by omega) (by omega)
        | none =>
          -- Without a wallet nothing is available.
          have hzero : d.books.available agentId = 0 := by simp [Books.available, hwallet]
          omega

end Earnings

end Asoju.FieldForce
