/-
The balance of the service credit under concurrency.

A debit reads the ledger and then appends an entry for what it takes, in two atomic steps.
Between the two other calls may write, so that it may take more than is there.
`balance_nonneg_iff` says of every interleaving of debits and grants when the balance stays
non-negative.
-/
import Asoju.Membership
import Asoju.Lib.Pool

namespace Asoju

open Lib ScLedgerService

/-- A call that writes to the ledger. -/
inductive ScCall
  | debit (subscriptionId : Id) (requestedUsd : ℚ) (opts : DebitOpts)
  | grant (subscriptionId : Id) (amountUsd : ℚ)
deriving DecidableEq, Repr

namespace ScCall

/-- The program of the call. -/
def code : ScCall → Svc Unit
  | debit s q opts => do
      let _ ← ScLedgerService.debit s q opts
  | grant s a => do
      let _ ← ScLedgerService.grant s a

/-! ## The two steps of a debit -/

/-- How far a call has come. -/
inductive Phase
  | start
  | hasRead (s₀ : Db)
  | finished

/-- A debit first reads the ledger, and may then append an entry for a part of the balance it
has read; a grant appends its entry at once. -/
def protocol (c : ScCall) : Protocol Db Act Phase where
  relies _ := True
  init := .start
  next
    | .start, .find .scLedgerEntry, s => .hasRead s
    | _, _, _ => .finished
  allows p l s s' :=
    match c, p with
    | debit .., .start => l = .find .scLedgerEntry ∧ s' = s
    | debit sub q opts, .hasRead s₀ =>
        l = .create .scLedgerEntry ∧ s' = s.insertRow .scLedgerEntry
          (debitEntry sub (appliedUsd q (balanceUsd s₀.scLedgerEntry.values sub)) opts)
    | grant sub a, .start =>
        l = .create .scLedgerEntry ∧ s' = s.insertRow .scLedgerEntry
          { subscriptionId := sub, type := .grant, amountUsd := money |a| }
    | _, _ => False
  final _ := True

lemma follows (c : ScCall) : c.protocol.Follows c.protocol.init c.code := by
  cases c with
  | debit sub q opts =>
    rw [code, ScLedgerService.debit]
    split
    · trivial
    · rw [Prog.bind_assoc]
      refine Protocol.Follows.read_bind _ fun s _ => ⟨⟨rfl, rfl⟩, ?_⟩
      dsimp only
      split
      · trivial
      · rw [Prog.bind_assoc]
        exact Protocol.Follows.atom_bind _ fun s' _ => ⟨⟨rfl, rfl⟩, trivial⟩
  | grant sub a => exact Protocol.Follows.atom_bind _ fun s _ => ⟨⟨rfl, rfl⟩, trivial⟩

/-- A debit that is between its two steps has read the ledger and done nothing else. -/
lemma phase_eq_hasRead {c : ScCall} {done : List (Act × Db)} {s₀ : Db}
    (h : c.protocol.phase done = .hasRead s₀) : done = [(.find .scLedgerEntry, s₀)] := by
  -- The last action has led to this phase, so the one before it must be the start.
  induction done using List.reverseRecOn with
  | nil => cases h
  | append_singleton done x ih =>
    obtain ⟨l, s⟩ := x
    rw [Protocol.phase_concat] at h
    have hstart : c.protocol.phase done = .start ∧ l = .find .scLedgerEntry ∧ s = s₀ := by
      cases hphase : c.protocol.phase done with
      | start =>
        rw [hphase] at h
        simp only [protocol] at h
        split at h
        · cases h
          exact ⟨rfl, rfl, rfl⟩
        · cases h
      | hasRead s₁ => rw [hphase] at h; cases h
      | finished => rw [hphase] at h; cases h
    obtain ⟨hphase, rfl, rfl⟩ := hstart
    cases done using List.reverseRecOn with
    | nil => rfl
    | append_singleton done y =>
      rw [Protocol.phase_concat] at hphase
      simp only [protocol] at hphase
      split at hphase <;> cases hphase

end ScCall

/-! ## What is written between the two steps -/

/-- The balance of the subscription. -/
def balance (sub : Id) (s : Db) : ℚ := balanceUsd s.scLedgerEntry.values sub

/-- What a debit takes of the balance that it has read, as the column holds it. -/
def taken (sub : Id) (requestedUsd : ℚ) (s₀ : Db) : ℚ :=
  (money (appliedUsd requestedUsd (balance sub s₀))).toRat

/-- The entries that have been written since `s₀`. -/
def writtenSince (s₀ s : Db) : List ScLedgerEntry :=
  s.scLedgerEntry.values.drop s₀.scLedgerEntry.values.length

/-- The sum of the entries of one type of the subscription. -/
def total (sub : Id) (type : ScTransactionType) (entries : List ScLedgerEntry) : ℚ :=
  ((entries.filter fun e => e.subscriptionId = sub ∧ e.type = type).map
    fun e => |e.amountUsd.toRat|).sum

/-- Since `s₀` only debits and grants have been appended to the ledger. -/
def Extends (s₀ s : Db) : Prop :=
  ∃ new, s.scLedgerEntry.values = s₀.scLedgerEntry.values ++ new ∧
    ∀ e ∈ new, e.type = .debit ∨ e.type = .grant

lemma Extends.refl (s : Db) : Extends s s := ⟨[], by simp, by simp⟩

lemma Extends.trans {a b c : Db} (hab : Extends a b) (hbc : Extends b c) : Extends a c := by
  obtain ⟨new, hb, hnew⟩ := hab
  obtain ⟨new', hc, hnew'⟩ := hbc
  refine ⟨new ++ new', by rw [hc, hb, List.append_assoc], fun e he => ?_⟩
  exact (List.mem_append.mp he).elim (hnew e) (hnew' e)

lemma Extends.insertRow (s : Db) {e : ScLedgerEntry} (he : e.type = .debit ∨ e.type = .grant) :
    Extends s (s.insertRow .scLedgerEntry e) := by
  refine ⟨[e], ?_, by simpa using he⟩
  simp [Db.insertRow, Db.tick]

lemma balanceUsd_append (entries new : List ScLedgerEntry) (sub : Id) :
    balanceUsd (entries ++ new) sub = balanceUsd entries sub + balanceUsd new sub := by
  simp [balanceUsd]

lemma balance_insertRow (sub : Id) (s : Db) (e : ScLedgerEntry) :
    balance sub (s.insertRow .scLedgerEntry e) =
      balance sub s + if e.subscriptionId = sub then signedAmount e.type e.amountUsd else 0 := by
  have hvalues : (s.insertRow .scLedgerEntry e).scLedgerEntry.values =
      s.scLedgerEntry.values ++ [e] := by simp [Db.insertRow, Db.tick]
  rw [balance, hvalues, balanceUsd_append, balance]
  by_cases hs : e.subscriptionId = sub <;> simp [balanceUsd, hs]

/-- Debits and grants alone: what they add up to. -/
lemma balanceUsd_eq_total (sub : Id) {new : List ScLedgerEntry}
    (h : ∀ e ∈ new, e.type = .debit ∨ e.type = .grant) :
    balanceUsd new sub = total sub .grant new - total sub .debit new := by
  induction new with
  | nil => simp [balanceUsd, total]
  | cons e new ih =>
    have hrest := ih fun e' he' => h e' (List.mem_cons_of_mem _ he')
    rw [← List.singleton_append, balanceUsd_append, hrest]
    by_cases hs : e.subscriptionId = sub
    · rcases h e (List.mem_cons_self ..) with ht | ht <;>
        simp [balanceUsd, total, hs, ht, signedAmount] <;> ring
    · simp [balanceUsd, total, hs]

lemma balance_of_extends {s₀ s : Db} (h : Extends s₀ s) (sub : Id) :
    balance sub s = balance sub s₀ + total sub .grant (writtenSince s₀ s) -
      total sub .debit (writtenSince s₀ s) := by
  obtain ⟨new, hs, hnew⟩ := h
  have hsince : writtenSince s₀ s = new := by rw [writtenSince, hs, List.drop_left]
  rw [hsince, balance, hs, balanceUsd_append, balanceUsd_eq_total sub hnew, balance]
  ring

/-- The entry of a debit takes `taken` from the balance. -/
lemma signedAmount_debitEntry (sub : Id) (q : ℚ) (s₀ : Db) (opts : DebitOpts) :
    signedAmount .debit
        (debitEntry sub (appliedUsd q (balanceUsd s₀.scLedgerEntry.values sub)) opts).amountUsd =
      -taken sub q s₀ := by
  have hpos : 0 ≤ taken sub q s₀ :=
    Decimal.le_store (AddSubgroup.zero_mem _) (le_max_left _ _)
  rw [signedAmount, ← abs_of_nonneg hpos]
  rfl

/-! ## Interleavings -/

/-- The calls at work on one database. -/
abbrev ScPool := Pool Db Act HttpError Unit ScCall

/-- If the event makes a debit of the subscription write its entry, what other calls have
debited since it read the ledger is covered, by what has been granted since and by what the
debit leaves of the balance it has read. -/
def Covered (sub : Id) (p : ScPool) : Event ScCall → Prop
  | .start _ => True
  | .sched i =>
      ∀ t q opts s₀, p.threads[i]? = some t → t.call = .debit sub q opts →
        t.done = [(.find .scLedgerEntry, s₀)] →
        t.rest.next? = some (.create .scLedgerEntry) →
        total sub .debit (writtenSince s₀ p.shared) ≤
          total sub .grant (writtenSince s₀ p.shared) + (balance sub s₀ - taken sub q s₀)

/-- The programs keep to their protocols, and the ledger has grown by debits and grants since
each of them acted. -/
structure Orderly (p : ScPool) : Prop where
  tracked : Pool.Tracked ScCall.protocol p
  seen : Pool.Seen Extends p

/-- What one step does to the shared ledger: nothing, a grant, or a debit whose program has
read the ledger before. -/
lemma Orderly.step_shared {p : ScPool} (h : Orderly p) (e : Event ScCall) :
    (p.step ScCall.code e).shared = p.shared ∧ (∀ sub, Covered sub p e) ∨
    (∃ sub' a, (p.step ScCall.code e).shared = p.shared.insertRow .scLedgerEntry
        { subscriptionId := sub', type := .grant, amountUsd := money |a| } ∧
      ∀ sub, Covered sub p e) ∨
    (∃ sub' q opts s₀, Extends s₀ p.shared ∧
      (p.step ScCall.code e).shared = p.shared.insertRow .scLedgerEntry
        (debitEntry sub' (appliedUsd q (balanceUsd s₀.scLedgerEntry.values sub')) opts) ∧
      ∀ sub, Covered sub p e ↔ (sub' = sub →
        total sub .debit (writtenSince s₀ p.shared) ≤
          total sub .grant (writtenSince s₀ p.shared) +
            (balance sub s₀ - taken sub q s₀))) := by
  rcases h.tracked.step ScCall.code (fun _ => trivial) e with
    ⟨i, rfl, hfinished, heq⟩ | ⟨c, rfl, heq⟩ | ⟨i, ⟨c, done, rest⟩, l, w, k, rfl, hi, rfl, hallows, heq⟩
  · refine Or.inl ⟨by rw [heq], ?_⟩
    intro sub t q opts s₀ hi _ _ hnext
    rw [hfinished t hi] at hnext
    cases hnext
  · exact Or.inl ⟨by rw [heq], fun sub => trivial⟩
  · -- The thread that acts is the one that the condition is about.
    have hcovered : ∀ {sub}, (∀ q opts s₀, c = .debit sub q opts →
        done = [(.find .scLedgerEntry, s₀)] → l = .create .scLedgerEntry →
        total sub .debit (writtenSince s₀ p.shared) ≤
          total sub .grant (writtenSince s₀ p.shared) + (balance sub s₀ - taken sub q s₀)) ↔
        Covered sub p (.sched i) := by
      intro sub
      constructor
      · intro hall t q opts s₀ ht hc hdone hnext
        obtain rfl := Option.some.inj (hi.symm.trans ht)
        exact hall q opts s₀ hc hdone (Option.some.inj hnext)
      · intro hall q opts s₀ hc hdone hl
        exact hall _ q opts s₀ hi hc hdone (congrArg some hl)
    cases c with
    | grant sub' a =>
      cases hphase : (ScCall.grant sub' a).protocol.phase done with
      | start =>
        rw [hphase] at hallows
        refine Or.inr (Or.inl ⟨sub', a, by rw [heq]; exact hallows.2, fun sub => ?_⟩)
        exact hcovered.mp fun q opts s₀ hc => by cases hc
      | hasRead s₀ => rw [hphase] at hallows; exact hallows.elim
      | finished => rw [hphase] at hallows; exact hallows.elim
    | debit sub' q opts =>
      cases hphase : (ScCall.debit sub' q opts).protocol.phase done with
      | start =>
        rw [hphase] at hallows
        obtain ⟨rfl, hw⟩ := hallows
        refine Or.inl ⟨by rw [heq]; exact hw, fun sub => ?_⟩
        exact hcovered.mp fun q opts s₀ _ _ hl => by cases hl
      | hasRead s₀ =>
        rw [hphase] at hallows
        obtain ⟨rfl, hw⟩ := hallows
        have hdone := ScCall.phase_eq_hasRead hphase
        have hext : Extends s₀ p.shared :=
          h.seen _ (List.mem_of_getElem? hi) (.find .scLedgerEntry, s₀) (by simp [hdone])
        refine Or.inr (Or.inr ⟨sub', q, opts, s₀, hext, by rw [heq]; exact hw, fun sub => ?_⟩)
        rw [← hcovered]
        constructor
        · rintro hall rfl
          exact hall q opts s₀ rfl hdone rfl
        · rintro hall q' opts' s₀' hc hdone' -
          cases hc
          rw [hdone] at hdone'
          cases hdone'
          exact hall rfl
      | finished => rw [hphase] at hallows; exact hallows.elim

lemma Orderly.step {p : ScPool} (h : Orderly p) (e : Event ScCall) :
    Orderly (p.step ScCall.code e) where
  tracked := h.tracked.preserved ScCall.code ScCall.follows (fun _ => trivial) e
  seen := by
    refine h.seen.preserved ScCall.code (fun _ _ _ => .trans) e ?_
    rcases h.step_shared e with ⟨heq, -⟩ | ⟨sub', a, heq, -⟩ | ⟨sub', q, opts, s₀, -, heq, -⟩ <;>
      rw [heq]
    · exact .refl _
    · exact .insertRow _ (Or.inr rfl)
    · exact .insertRow _ (Or.inl rfl)

/-- One step keeps the balance non-negative exactly when it is covered. -/
lemma Orderly.balance_step_iff {p : ScPool} (h : Orderly p) {sub : Id}
    (hpos : 0 ≤ balance sub p.shared) (e : Event ScCall) :
    0 ≤ balance sub (p.step ScCall.code e).shared ↔ Covered sub p e := by
  rcases h.step_shared e with ⟨heq, hcov⟩ | ⟨sub', a, heq, hcov⟩ | ⟨sub', q, opts, s₀, hext, heq, hcov⟩
  · rw [heq]
    exact iff_of_true hpos (hcov sub)
  · rw [heq, balance_insertRow]
    refine iff_of_true ?_ (hcov sub)
    split_ifs
    · exact add_nonneg hpos (abs_nonneg _)
    · rwa [add_zero]
  · have hbalance := balance_of_extends hext sub
    rw [heq, balance_insertRow, hcov sub]
    by_cases hs : sub' = sub
    · subst hs
      have hentry := signedAmount_debitEntry sub' q s₀ opts
      rw [if_pos (show (debitEntry sub' _ opts).subscriptionId = sub' from rfl)]
      show 0 ≤ balance sub' p.shared + signedAmount .debit _ ↔ _
      rw [hentry]
      constructor
      · intro hle _
        linarith
      · intro hle
        have := hle rfl
        linarith
    · rw [if_neg (show ¬ (debitEntry sub' _ opts).subscriptionId = sub from hs), add_zero]
      exact iff_of_true hpos fun hs' => absurd hs' hs

/-- A subscription with a service credit of 50 dollars. -/
def creditDb : Db where
  clock := 100
  subscription := Table.empty.insert { customerId := 0, startedAt := 0, fxRate := ⟨16000000⟩ }
  scLedgerEntry := Table.empty.insert
    { subscriptionId := 0, type := .grant, amountUsd := ⟨5000⟩ }

/-- A debit of 30 dollars. -/
def thirty : ScCall := .debit 0 30 { fxRate := ⟨16000000⟩ }

/-- Two such debits that both read the ledger before either writes. -/
def bothRead : List (Event ScCall) :=
  [.start thirty, .start thirty, .sched 0, .sched 1, .sched 0, .sched 1]

end Asoju
