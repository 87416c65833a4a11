/-
Earnings and payouts under concurrency.

A call looks up what it needs, the wallet last, and then runs its transaction.  Wallets are
only ever added, so that the wallet a call has found is still there when its transaction runs;
its balance may have changed.  `WalletPool.step_cases` lists what one step of any number of
such calls can do to the database.
-/
import Asoju.AgentWallet
import Asoju.Protocols

namespace Asoju

open Lib AgentWalletService

/-! ## Wallets stay -/

lemma Db.get?_of_walletByAgent {d : Db} {agentId i : Id} {w : WalletAccount}
    (h : d.walletByAgent agentId = some (i, w)) :
    d.walletAccount.get? i = some w ∧ w.agentId = agentId :=
  ⟨d.walletAccount.mem_rows_iff.mp (List.mem_of_find?_eq_some h), by
    simpa using List.find?_some h⟩

/-- A wallet that is found in `a` is found in `b`, under the same key. -/
def KeepsWallets (a b : Db) : Prop :=
  ∀ agentId, (a.walletByAgent agentId).isSome →
    (b.walletByAgent agentId).map Prod.fst = (a.walletByAgent agentId).map Prod.fst

lemma KeepsWallets.of_eq {a b : Db} (h : b.walletAccount = a.walletAccount) :
    KeepsWallets a b := by
  intro agentId _
  rw [Db.walletByAgent, h, Db.walletByAgent]

lemma KeepsWallets.of_insert {a b : Db} {w : WalletAccount}
    (h : b.walletAccount = a.walletAccount.insert w) : KeepsWallets a b := by
  intro agentId hsome
  obtain ⟨x, hx⟩ := Option.isSome_iff_exists.mp hsome
  rw [Db.walletByAgent] at hx ⊢
  rw [h, Table.rows_insert, List.find?_append, hx, Option.some_or, Db.walletByAgent, hx]

lemma KeepsWallets.of_modify {a b : Db} {i : Id} {f : WalletAccount → WalletAccount}
    (h : b.walletAccount = a.walletAccount.modify i f) (hf : ∀ w, (f w).agentId = w.agentId) :
    KeepsWallets a b := by
  intro agentId _
  have hagent : ∀ (j : Id) (w : WalletAccount),
      (if j = i then f w else w).agentId = w.agentId := by
    intro j w
    split_ifs
    · exact hf w
    · rfl
  rw [Db.walletByAgent, h, Table.modify, Table.mapRows, List.find?_map, Option.map_map,
    Db.walletByAgent]
  simp [Function.comp_def, hagent]

/-- A posting does not touch the wallets. -/
lemma Db.posted_walletAccount (d : Db) (params : LedgerService.JournalEntryInput) :
    (d.posted params).walletAccount = d.walletAccount := by
  rw [Db.posted]
  cases d.journalEntryByKey params.idempotencyKey with
  | some x => rfl
  | none => exact d.charted_grows.walletAccount

lemma Db.earning_walletAccount (d : Db) (actor : AuthenticatedUser) (caseId agentId walletId : Id)
    (dto : RecordEarningDto) :
    (d.earning actor caseId agentId walletId dto).walletAccount =
      d.walletAccount.modify walletId fun w =>
        { w with
          availableBalance := money (w.availableBalance.toRat + dto.amount)
          totalEarnings := money (w.totalEarnings.toRat + dto.amount) } :=
  (d.credited actor caseId agentId walletId dto).posted_walletAccount _

lemma Db.payingOut_walletAccount (d : Db) (actor : AuthenticatedUser) (agentId walletId : Id)
    (dto : RecordPayoutDto) :
    (d.payingOut actor agentId walletId dto).walletAccount =
      d.walletAccount.modify walletId fun w =>
        { w with
          availableBalance := money (w.availableBalance.toRat - dto.amount)
          totalPaid := money (w.totalPaid.toRat + dto.amount) } :=
  (d.debited actor agentId walletId dto).posted_walletAccount _

/-! ## The steps of a call -/

inductive WalletCall
  | recordEarning (actor : AuthenticatedUser) (caseId : Id) (dto : RecordEarningDto)
  | recordPayout (actor : AuthenticatedUser) (agentId : Id) (dto : RecordPayoutDto)

namespace WalletCall

/-- The program of the call. -/
def code : WalletCall → Svc Id
  | recordEarning actor caseId dto => AgentWalletService.recordEarning actor caseId dto
  | recordPayout actor agentId dto => AgentWalletService.recordPayout actor agentId dto

/-- How far a call has come. -/
inductive Phase
  | start
  /-- It is about the agent `agentId`, whose wallet it has not found yet. -/
  | lookingUp (agentId : Id)
  /-- It is about to run its transaction, with the wallet that it has found. -/
  | ready (agentId : Id) (walletId : Option Id)
  | finished
deriving DecidableEq

/-- The phase that an action leads to. -/
def next (c : WalletCall) (p : Phase) (l : Act) (s : Db) : Phase :=
  match c, p, l with
  | recordEarning _ caseId _, .start, .find .assignment =>
      match (s.latestFieldAssignment caseId).bind Assignment.agentId with
      | some agentId => .lookingUp agentId
      | none => .finished
  | recordEarning .., .lookingUp agentId, .find .walletAccount =>
      match s.walletByAgent agentId with
      | some x => .ready agentId (some x.1)
      | none => .lookingUp agentId
  | recordEarning .., .lookingUp agentId, .create .walletAccount =>
      if (s.walletByAgent agentId).isSome then .finished
      else .ready agentId (some s.walletAccount.next)
  | recordPayout _ agentId _, .start, .find .walletAccount =>
      .ready agentId ((s.walletByAgent agentId).map Prod.fst)
  | _, _, .transaction => .finished
  | _, p, _ => p

/-- A call reads, may create a wallet, and runs its transaction; a payout without a wallet is
not a positive one. -/
def protocol (c : WalletCall) : Protocol Db Act Phase where
  relies _ := True
  init := .start
  next := c.next
  allows p l s s' :=
    (s' = s ∧ ∃ m, l = .find m) ∨
      match c, p with
      | recordEarning .., .lookingUp agentId =>
          l = .create .walletAccount ∧
            s' = if (s.walletByAgent agentId).isSome then s
              else s.insertRow .walletAccount { agentId }
      | recordEarning actor caseId dto, .ready agentId walletId =>
          l = .transaction ∧ ∃ i, walletId = some i ∧
            s' = Prisma.committed (recordEarningTx actor caseId agentId i dto) s
      | recordPayout actor agentId dto, .ready agentId' walletId =>
          agentId' = agentId ∧ l = .transaction ∧ (walletId = none → dto.amount ≤ 0) ∧
            s' = Prisma.committed (recordPayoutTx actor agentId walletId dto) s
      | _, _ => False
  final _ := True

lemma follows (c : WalletCall) : c.protocol.Follows c.protocol.init c.code := by
  cases c with
  | recordEarning actor caseId dto =>
    refine Prisma.follows_query_bind fun s _ => ⟨Or.inl ⟨rfl, _, rfl⟩, ?_⟩
    show (protocol _).Follows .start _
    cases (Rel.serviceCase.get s).get? caseId with
    | none => exact trivial
    | some serviceCase =>
      dsimp only
      split
      · exact trivial
      · refine Prisma.follows_query_bind fun s _ => ⟨Or.inl ⟨rfl, _, rfl⟩, ?_⟩
        cases hagent : (s.latestFieldAssignment caseId).bind Assignment.agentId with
        | none => exact trivial
        | some agentId =>
          have hphase : (recordEarning actor caseId dto).protocol.next .start
              (.find .assignment) s = .lookingUp agentId := by
            simp only [protocol, next, hagent]
          rw [hphase]
          simp only [getOrCreateWallet, Prog.bind_assoc]
          refine Prisma.follows_query_bind fun s _ => ⟨Or.inl ⟨rfl, _, rfl⟩, ?_⟩
          cases hwallet : s.walletByAgent agentId with
          | some x =>
            have hphase : (recordEarning actor caseId dto).protocol.next (.lookingUp agentId)
                (.find .walletAccount) s = .ready agentId (some x.1) := by
              simp only [protocol, next, hwallet]
            rw [hphase]
            exact Prisma.follows_atomically fun s _ => ⟨Or.inr ⟨rfl, x.1, rfl, rfl⟩, trivial⟩
          | none =>
            have hphase : (recordEarning actor caseId dto).protocol.next (.lookingUp agentId)
                (.find .walletAccount) s = .lookingUp agentId := by
              simp only [protocol, next, hwallet]
            rw [hphase]
            refine Prisma.follows_createUnique_bind (r := .walletAccount)
              (fun s _ htaken => ⟨Or.inr ⟨rfl, (if_pos htaken).symm⟩, trivial⟩)
              fun s _ hfree => ⟨Or.inr ⟨rfl, (if_neg (Bool.eq_false_iff.mp hfree)).symm⟩, ?_⟩
            have hphase : (recordEarning actor caseId dto).protocol.next (.lookingUp agentId)
                (.create .walletAccount) s = .ready agentId (some s.walletAccount.next) := by
              simp [protocol, next, hfree]
            show (protocol _).Follows ((protocol _).next _ (Act.create .walletAccount) s) _
            rw [hphase]
            exact Prisma.follows_atomically fun s _ => ⟨Or.inr ⟨rfl, _, rfl, rfl⟩, trivial⟩
  | recordPayout actor agentId dto =>
    refine Prisma.follows_query_bind fun s _ => ⟨Or.inl ⟨rfl, _, rfl⟩, ?_⟩
    show (protocol _).Follows .start _
    cases s.agent.get? agentId with
    | none => exact trivial
    | some agent =>
      refine Prisma.follows_query_bind fun s _ => ⟨Or.inl ⟨rfl, _, rfl⟩, ?_⟩
      show (protocol _).Follows (.ready agentId ((s.walletByAgent agentId).map Prod.fst)) _
      cases s.walletByAgent agentId with
      | some x =>
        dsimp only
        split
        · exact trivial
        · exact Prisma.follows_atomically fun s' _ =>
            ⟨Or.inr ⟨rfl, rfl, fun hnone => (by cases hnone), rfl⟩, trivial⟩
      | none =>
        -- Without a wallet nothing is available.
        dsimp only
        split
        · exact trivial
        · rename_i hle
          exact Prisma.follows_atomically fun s' _ =>
            ⟨Or.inr ⟨rfl, rfl, fun _ => not_lt.mp hle, rfl⟩, trivial⟩

/-! ## What one action does -/

/-- What the action `l` of the call `c` can do to the database `s`. -/
inductive Effect (c : WalletCall) (l : Act) (s : Db) : Db → Prop
  /-- Nothing; if it is the transaction of a payout, then not of a positive one. -/
  | same (h : ∀ actor agentId dto, c = recordPayout actor agentId dto → l = .transaction →
      dto.amount ≤ 0) : Effect c l s s
  | wallet (agentId : Id) (hl : l = .create .walletAccount) (hw : s.walletByAgent agentId = none) :
      Effect c l s (s.insertRow .walletAccount { agentId })
  | earning (actor : AuthenticatedUser) (caseId agentId i : Id) (w : WalletAccount)
      (dto : RecordEarningDto) (hc : c = recordEarning actor caseId dto) (hpos : 0 < dto.amount)
      (hw : s.walletByAgent agentId = some (i, w)) :
      Effect c l s (s.earning actor caseId agentId i dto)
  | payout (actor : AuthenticatedUser) (agentId i : Id) (w : WalletAccount) (dto : RecordPayoutDto)
      (hc : c = recordPayout actor agentId dto) (hl : l = .transaction) (hpos : 0 < dto.amount)
      (hw : s.walletByAgent agentId = some (i, w)) :
      Effect c l s (s.payingOut actor agentId i dto)

/-- The wallet of a call that is ready is the one of its agent. -/
def Found (s : Db) (p : Phase) : Prop :=
  ∀ agentId i, p = .ready agentId (some i) → ∃ w, s.walletByAgent agentId = some (i, w)

variable {c : WalletCall} {p : Phase} {l : Act} {s s' : Db}

lemma effect_of_allows (hfound : Found s p) (h : c.protocol.allows p l s s') :
    Effect c l s s' := by
  rcases h with ⟨rfl, m, rfl⟩ | h
  · exact .same fun _ _ _ _ hl => by cases hl
  · cases c with
    | recordEarning actor caseId dto =>
      cases p with
      | start => exact h.elim
      | finished => exact h.elim
      | lookingUp agentId =>
        obtain ⟨rfl, rfl⟩ := h
        split_ifs with hsome
        · exact .same fun _ _ _ hc => by cases hc
        · exact .wallet agentId rfl (Option.not_isSome_iff_eq_none.mp hsome)
      | ready agentId walletId =>
        obtain ⟨rfl, i, rfl, rfl⟩ := h
        obtain ⟨w, hw⟩ := hfound agentId i rfl
        rw [committed_recordEarningTx s actor caseId agentId (Db.get?_of_walletByAgent hw).1]
        split_ifs with hpos
        · exact .earning actor caseId agentId i w dto rfl hpos hw
        · exact .same fun _ _ _ hc => by cases hc
    | recordPayout actor agentId dto =>
      cases p with
      | start => exact h.elim
      | finished => exact h.elim
      | lookingUp agentId => exact h.elim
      | ready agentId walletId =>
        obtain ⟨rfl, rfl, hnone, rfl⟩ := h
        cases walletId with
        | none =>
          rw [committed_recordPayoutTx_none]
          refine .same fun _ _ _ hc _ => ?_
          cases hc
          exact hnone rfl
        | some i =>
          obtain ⟨w, hw⟩ := hfound agentId i rfl
          rw [committed_recordPayoutTx s actor agentId (Db.get?_of_walletByAgent hw).1]
          split_ifs with hpos
          · exact .payout actor agentId i w dto rfl rfl hpos hw
          · refine .same fun _ _ _ hc _ => ?_
            cases hc
            exact not_lt.mp hpos

lemma Effect.keepsWallets (h : Effect c l s s') : KeepsWallets s s' := by
  cases h with
  | same h => exact .of_eq rfl
  | wallet agentId hl hw => exact .of_insert rfl
  | earning actor caseId agentId i w dto hc hpos hw =>
    exact .of_modify (s.earning_walletAccount actor caseId agentId i dto) fun _ => rfl
  | payout actor agentId i w dto hc hl hpos hw =>
    exact .of_modify (s.payingOut_walletAccount actor agentId i dto) fun _ => rfl

lemma Found.mono (h : Found s p) (hkeeps : KeepsWallets s s') : Found s' p := by
  intro agentId i hp
  obtain ⟨w, hw⟩ := h agentId i hp
  have hmap := hkeeps agentId (by rw [hw]; rfl)
  rw [hw, Option.map_some, Option.map_eq_some_iff] at hmap
  obtain ⟨⟨j, w'⟩, hw', rfl⟩ := hmap
  exact ⟨w', hw'⟩

/-- The phase that an action leads to knows the wallet again. -/
lemma Found.next (h : Found s p) (hallows : c.protocol.allows p l s s') :
    Found s' (c.next p l s) := by
  have hmono := h.mono (effect_of_allows h hallows).keepsWallets
  intro agentId i heq
  unfold WalletCall.next at heq
  split at heq
  · -- The assignment has been read, and the wallet not yet.
    split at heq <;> cases heq
  · rename_i agentId'
    have hs : s' = s := by
      rcases hallows with ⟨rfl, -⟩ | ⟨hl, -⟩
      · rfl
      · cases hl
    cases hwallet : s.walletByAgent agentId' with
    | none =>
      rw [hwallet] at heq
      cases heq
    | some x =>
      rw [hwallet] at heq
      cases heq
      exact ⟨x.2, by rw [hs, hwallet]⟩
  · rename_i agentId'
    have hs : s' = if (s.walletByAgent agentId').isSome then s
        else s.insertRow .walletAccount { agentId := agentId' } := by
      rcases hallows with ⟨-, m, hl⟩ | ⟨-, rfl⟩
      · cases hl
      · rfl
    split_ifs at heq with hsome
    cases heq
    rw [if_neg hsome] at hs
    have hnone : s.walletAccount.rows.find? (fun p => decide (p.2.agentId = agentId)) = none :=
      Option.not_isSome_iff_eq_none.mp hsome
    refine ⟨{ agentId }, ?_⟩
    rw [hs]
    show ((s.walletAccount.insert _).rows.find? _) = _
    rw [Table.rows_insert, List.find?_append, hnone]
    simp
  · have hs : s' = s := by
      rcases hallows with ⟨rfl, -⟩ | h
      · rfl
      · exact h.elim
    obtain ⟨rfl, hmap⟩ := Phase.ready.inj heq
    obtain ⟨⟨j, w⟩, hw, rfl⟩ := Option.map_eq_some_iff.mp hmap
    exact ⟨w, by rw [hs, hw]⟩
  · cases heq
  · exact hmono agentId i heq

end WalletCall

/-! ## Interleavings -/

/-- The calls at work on one database. -/
abbrev WalletPool := Pool Db Act HttpError Id WalletCall

/-- The calls keep to their protocols, and those that are ready know the wallet of their
agent. -/
structure OrderlyWallets (p : WalletPool) : Prop where
  tracked : Pool.Tracked WalletCall.protocol p
  found : ∀ t ∈ p.threads, WalletCall.Found p.shared (t.call.protocol.phase t.done)

namespace OrderlyWallets

variable {p : WalletPool}

lemma idle (d : Db) : OrderlyWallets (Pool.idle d) :=
  ⟨Pool.tracked_idle _ d, fun _ ht => absurd ht List.not_mem_nil⟩

/-- **What one step can do**: nothing, or the effect of one action of a call. -/
theorem step_cases (h : OrderlyWallets p) (e : Event WalletCall) :
    ((p.step WalletCall.code e).shared = p.shared ∧
      ∀ i t, e = .sched i → p.threads[i]? = some t → t.rest.next? = none) ∨
    ∃ i t l, e = .sched i ∧ p.threads[i]? = some t ∧ t.rest.next? = some l ∧
      t.call.Effect l p.shared (p.step WalletCall.code e).shared := by
  rcases h.tracked.step WalletCall.code (fun _ => trivial) e with
    ⟨j, rfl, hfinished, heq⟩ | ⟨c, rfl, heq⟩ | ⟨j, t, l, w, k, rfl, hj, hrest, hallows, heq⟩
  · refine Or.inl ⟨by rw [heq], fun i t hi ht => ?_⟩
    cases hi
    exact hfinished t ht
  · exact Or.inl ⟨by rw [heq], fun i t hi => by cases hi⟩
  · refine Or.inr ⟨j, t, l, rfl, hj, by rw [hrest]; rfl, ?_⟩
    rw [heq]
    exact WalletCall.effect_of_allows (h.found t (List.mem_of_getElem? hj)) hallows

lemma step (h : OrderlyWallets p) (e : Event WalletCall) :
    OrderlyWallets (p.step WalletCall.code e) where
  tracked := h.tracked.preserved _ WalletCall.follows (fun _ => trivial) e
  found := by
    rcases h.tracked.step WalletCall.code (fun _ => trivial) e with
      ⟨j, -, -, heq⟩ | ⟨c, -, heq⟩ | ⟨j, t, l, w, k, -, hj, -, hallows, heq⟩ <;> rw [heq]
    · exact h.found
    · intro t ht
      rcases List.mem_append.mp ht with ht | ht
      · exact h.found t ht
      · rw [List.mem_singleton.mp ht]
        intro agentId i hphase
        cases hphase
    · have hfound := h.found t (List.mem_of_getElem? hj)
      intro t' ht'
      rcases List.mem_or_eq_of_mem_set ht' with ht' | rfl
      · exact (h.found t' ht').mono (WalletCall.effect_of_allows hfound hallows).keepsWallets
      · rw [Protocol.phase_concat]
        exact hfound.next hallows

end OrderlyWallets

end Asoju
