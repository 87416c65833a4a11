/-
What the routes of a mission do to the field.

The field is what these routes have in common: the missions, their reviews, and the books.  An
acceptance adds a mission and a pending earning (`Gigs.POST_does`); a command of an administrator
moves the review and the mission, and pays when an approval passes the gate
(`QualityControl.field_POST`).
-/
import Asoju.FieldForce.PayoutBooks
import Asoju.FieldForce.QualityControl

namespace Asoju.FieldForce

open Lib

/-! ## Earnings in the books -/

/-- What is agreed when a mission is accepted. -/
def Mission.terms (m : Mission) : Id × Id × ℤ × ℤ × ℤ :=
  (m.caseId, m.agentId, m.payoutAmount, m.asojuFee, m.netPayout)

namespace Books

def pendingBalance (agentId : Id) (b : Books) : ℤ :=
  ((b.walletOf agentId).map fun p => p.2.pendingBalance).getD 0

def totalEarnings (agentId : Id) (b : Books) : ℤ :=
  ((b.walletOf agentId).map fun p => p.2.totalEarnings).getD 0

/-- The wallet with an earning added. -/
def withEarning (available pending : ℤ) (w : WalletAccount) : WalletAccount :=
  { w with
    pendingBalance := w.pendingBalance + pending
    availableBalance := w.availableBalance + available
    totalEarnings := w.totalEarnings + (available + pending) }

/-- Add an earning to the wallet of an agent, which is created if there is none. -/
def earn (agentId : Id) (available pending : ℤ) (b : Books) : Books :=
  match b.walletOf agentId with
  | some (walletId, _) =>
      { b with wallets := b.wallets.modify walletId (withEarning available pending) }
  | none => { b with wallets := b.wallets.insert (withEarning available pending { agentId }) }

/-- A posting about a mission, if its lines are valid. -/
def postMission (key : PostingKey) (missionId agentId : Id) (lines : List JournalLine)
    (b : Books) : Books :=
  if (checkLines lines).isSome then b
  else b.post
    { idempotencyKey := key, entity := .mission missionId, agentId := some agentId, lines }

/-- The earnings of a mission are posted, and released. -/
def postReleased (missionId : Id) (mission : Mission) (b : Books) : Books :=
  (b.postMission (.earnings missionId) missionId mission.agentId
    (earningsLines mission.payoutAmount mission.asojuFee mission.netPayout)).postMission
      (.qcRelease missionId) missionId mission.agentId (qcReleaseLines mission.netPayout)

/-- The earnings are posted and released, and the wallet follows the first of the two postings. -/
def payMission (missionId : Id) (mission : Mission) (b : Books) : Books :=
  if (checkLines (earningsLines mission.payoutAmount mission.asojuFee mission.netPayout)).isSome then
    b.postReleased missionId mission
  else
    (b.postReleased missionId mission).earn mission.agentId mission.netPayout 0

variable {b : Books} {agentId missionId : Id}

@[simp] lemma wallets_postMission (key : PostingKey) (lines : List JournalLine) :
    (b.postMission key missionId agentId lines).wallets = b.wallets := by
  rw [postMission]
  split <;> simp

@[simp] lemma payouts_postMission (key : PostingKey) (lines : List JournalLine) :
    (b.postMission key missionId agentId lines).payouts = b.payouts := by
  rw [postMission]
  split <;> simp

@[simp] lemma journal_earn (x y : ℤ) : (b.earn agentId x y).journal = b.journal := by
  rw [earn]
  split <;> rfl

@[simp] lemma payouts_earn (x y : ℤ) : (b.earn agentId x y).payouts = b.payouts := by
  rw [earn]
  split <;> rfl

/-- The wallet of an agent, or an empty one. -/
def wallet (agentId : Id) (b : Books) : WalletAccount :=
  ((b.walletOf agentId).map Prod.snd).getD { agentId }

lemma available_eq (agentId : Id) : b.available agentId = (b.wallet agentId).availableBalance := by
  rw [available, wallet]
  cases b.walletOf agentId <;> rfl

lemma pendingBalance_eq (agentId : Id) :
    b.pendingBalance agentId = (b.wallet agentId).pendingBalance := by
  rw [pendingBalance, wallet]
  cases b.walletOf agentId <;> rfl

lemma totalEarnings_eq (agentId : Id) :
    b.totalEarnings agentId = (b.wallet agentId).totalEarnings := by
  rw [totalEarnings, wallet]
  cases b.walletOf agentId <;> rfl

/-- **The wallets after an earning**: only that of the agent has changed. -/
lemma wallet_earn (x y : ℤ) (agentId' : Id) : (b.earn agentId x y).wallet agentId' =
    if agentId' = agentId then withEarning x y (b.wallet agentId) else b.wallet agentId' := by
  rw [earn]
  cases hfind : b.walletOf agentId with
  | some q =>
    obtain ⟨walletId, w⟩ := q
    have hmodify : ({ b with wallets := b.wallets.modify walletId (withEarning x y) } :
        Books).walletOf agentId' = (b.walletOf agentId').map fun q =>
          (q.1, if q.1 = walletId then withEarning x y q.2 else q.2) :=
      b.walletOf_modify walletId (f := withEarning x y) (fun _ => rfl) agentId'
    simp only [wallet, hmodify, hfind]
    by_cases hagent : agentId' = agentId
    · subst hagent
      simp [hfind]
    · rw [if_neg hagent]
      cases hfind' : b.walletOf agentId' with
      | none => rfl
      | some q' =>
        obtain ⟨walletId', w'⟩ := q'
        have hne : walletId' ≠ walletId := by
          rintro rfl
          obtain ⟨hget, hw⟩ := walletOf_eq_some hfind
          obtain ⟨hget', hw'⟩ := walletOf_eq_some hfind'
          exact hagent (by rw [← hw, ← hw', Option.some.inj (hget'.symm.trans hget)])
        simp [hne]
  | none =>
    have hinsert : ∀ w : WalletAccount, ({ b with wallets := b.wallets.insert w } :
        Books).walletOf agentId' = (b.walletOf agentId').or
          (if w.agentId = agentId' then some (b.wallets.next, w) else none) := by
      intro w
      rw [walletOf, Table.find?_insert, ← walletOf]
      simp [isWalletOf]
    simp only [wallet, hinsert, hfind]
    by_cases hagent : agentId' = agentId
    · subst hagent
      simp [hfind, withEarning]
    · have hne : ¬ agentId = agentId' := fun h => hagent h.symm
      simp [withEarning, hne, hagent]

lemma available_earn (x y : ℤ) (agentId' : Id) : (b.earn agentId x y).available agentId' =
    b.available agentId' + if agentId' = agentId then x else 0 := by
  rw [available_eq, available_eq, wallet_earn]
  by_cases hagent : agentId' = agentId
  · subst hagent
    simp [withEarning]
  · simp [hagent]

lemma pendingBalance_earn (x y : ℤ) (agentId' : Id) :
    (b.earn agentId x y).pendingBalance agentId' =
      b.pendingBalance agentId' + if agentId' = agentId then y else 0 := by
  rw [pendingBalance_eq, pendingBalance_eq, wallet_earn]
  by_cases hagent : agentId' = agentId
  · subst hagent
    simp [withEarning]
  · simp [hagent]

lemma totalEarnings_earn (x y : ℤ) (agentId' : Id) :
    (b.earn agentId x y).totalEarnings agentId' =
      b.totalEarnings agentId' + if agentId' = agentId then x + y else 0 := by
  rw [totalEarnings_eq, totalEarnings_eq, wallet_earn]
  by_cases hagent : agentId' = agentId
  · subst hagent
    simp [withEarning]
  · simp [hagent]

/-- The balances of a wallet depend on the wallets alone. -/
lemma wallet_congr {b b' : Books} (h : b'.wallets = b.wallets) (agentId : Id) :
    b'.wallet agentId = b.wallet agentId := by
  rw [wallet, walletOf_congr h, wallet]

/-- What is posted after a posting. -/
lemma posted_post (e : JournalEntry) (key : PostingKey) :
    (b.post e).Posted key ↔ b.Posted key ∨ key = e.idempotencyKey := by
  rw [post]
  by_cases hposted : b.Posted e.idempotencyKey
  · rw [if_pos hposted]
    refine ⟨Or.inl, ?_⟩
    rintro (h | rfl)
    · exact h
    · exact hposted
  · rw [if_neg hposted, Posted, Posted, Table.find?_insert, Option.isSome_or, Bool.or_eq_true]
    refine or_congr Iff.rfl ?_
    by_cases hkey : key = e.idempotencyKey
    · simp [hkey, hasKey]
    · simp [hkey, hasKey, Ne.symm hkey]

lemma posted_postMission (key : PostingKey) (lines : List JournalLine) (key' : PostingKey) :
    (b.postMission key missionId agentId lines).Posted key' ↔
      b.Posted key' ∨ key' = key ∧ checkLines lines = none := by
  rw [postMission]
  cases hcheck : checkLines lines with
  | some rejected => simp
  | none => simp [posted_post]

end Books

lemma books_postedMission (key : PostingKey) (missionId agentId : Id) (lines : List JournalLine)
    (d : Db) : (d.posted key (.mission missionId) agentId lines).books =
      d.books.postMission key missionId agentId lines := by
  have hposted : (d.entryUnder key).isSome = true ↔ d.books.Posted key := by
    rw [Db.entryUnder, Option.isSome_map]
    rfl
  rw [Db.posted, Books.postMission]
  by_cases hcheck : (checkLines lines).isSome = true
  · rw [if_pos hcheck, if_pos hcheck]
  · rw [if_neg hcheck, if_neg hcheck]
    simp only [Books.post, hposted]
    exact apply_ite Db.books _ _ _

/-! ## The field -/

/-- The missions, their reviews, and the books. -/
structure Field where
  missions : Table Mission
  reviews : Table QcReview
  books : Books

def Db.field (d : Db) : Field := ⟨d.mission, d.qcReview, d.books⟩

namespace Field

def changeMission (missionId : Id) (f : Mission → Mission) (x : Field) : Field :=
  ⟨x.missions.modify missionId f, x.reviews, x.books⟩

def changeReview (reviewId : Id) (f : QcReview → QcReview) (x : Field) : Field :=
  ⟨x.missions, x.reviews.modify reviewId f, x.books⟩

def changeBooks (f : Books → Books) (x : Field) : Field := ⟨x.missions, x.reviews, f x.books⟩

end Field

section Client

variable (d : Db)

@[simp] lemma field_seeded : d.seeded.field = d.field := rfl

@[simp] lemma field_modify_missions (i : Id) (f : Mission → Mission) :
    (Db.missions.modify i f d).field = d.field.changeMission i f := rfl

@[simp] lemma field_modify_qcReviews (i : Id) (f : QcReview → QcReview) :
    (Db.qcReviews.modify i f d).field = d.field.changeReview i f := rfl

@[simp] lemma field_modify_cases (i : Id) (f : Case → Case) :
    (Db.cases.modify i f d).field = d.field := rfl

@[simp] lemma field_modify_agents (i : Id) (f : Agent → Agent) :
    (Db.agents.modify i f d).field = d.field := rfl

@[simp] lemma field_insert_adminAuditEvents (x : AuditEvent) :
    (Db.adminAuditEvents.insert x d).field = d.field := rfl

@[simp] lemma field_insert_walletEntries (x : WalletEntry) :
    (Db.walletEntries.insert x d).field = d.field := rfl

lemma field_postedMission (key : PostingKey) (missionId agentId : Id)
    (lines : List JournalLine) : (d.posted key (.mission missionId) agentId lines).field =
      d.field.changeBooks (Books.postMission key missionId agentId lines) := by
  rw [Field.changeBooks, show d.field.books = d.books from rfl, ← books_postedMission, Db.posted]
  split
  · rfl
  · split <;> rfl

end Client

/-! ## What a command of an administrator does -/

namespace QualityControl

/-- The reviews once the last review of a mission is open, and that review. -/
def opened (missionId : Id) (reviews : Table QcReview) : Table QcReview × Id × QcReview :=
  match lastReview missionId reviews with
  | some current => (reviews, current)
  | none =>
      let first : QcReview := { missionId, cycleNumber := 1, state := .pending }
      (reviews.insert first, reviews.next, first)

/-- The gate of a mission. -/
def gate (missionId : Id) (mission : Mission) (d : Db) : CompletionGate :=
  gateOf mission (evidenceCount missionId d) (passedGpsCheck missionId d)

/-- What an action does beside the move of the review. -/
def settled (action : QcAction) (missionId : Id) (mission : Mission) (reviewId : Id) (now : Time)
    (gate : CompletionGate) (x : Field) : Field :=
  match action with
  | .approve =>
      ((x.changeReview reviewId fun r => { r with gateResults := some gate }).changeMission missionId
        fun m => { m with workflowState := .completed, completedAt := some now }).changeBooks
          fun b => if evaluateCompletionGate gate then b.payMission missionId mission else b
  | .requestRework => x.changeMission missionId fun m => { m with workflowState := .rework }
  | .reject => x.changeMission missionId fun m => { m with workflowState := .failed }
  | _ => x

/-- What a command does to the field. -/
def Command.effect (c : Command) (d : Db) : Field :=
  match c.action, missionOf c.caseId d with
  | some action, some (missionId, mission) =>
      let (reviews, reviewId, current) := opened missionId d.qcReview
      match validateQcTransition current.state action .operations c.reason with
      | .error _ => ⟨d.mission, reviews, d.books⟩
      | .ok newState =>
          settled action missionId mission reviewId c.now (gate missionId mission d)
            (Field.changeReview reviewId (reviewed c action newState) ⟨d.mission, reviews, d.books⟩)
  | _, _ => d.field

lemma run_openReview (missionId : Id) (d : Db) : (openReview missionId).run d =
    (.ok (opened missionId d.qcReview).2, { d with qcReview := (opened missionId d.qcReview).1 }) := by
  rw [openReview, opened]
  refine (Prog.run_bind_ok (Client.run_query _ _ _)).trans ?_
  cases hlast : lastReview missionId d.qcReview with
  | some current => rfl
  | none =>
    refine (Prog.run_bind_ok (Client.run_query _ _ _)).trans ?_
    rw [hlast]
    rfl

/-- The wallet gets the earnings of a mission. -/
lemma addEarnings_returns (missionId : Id) (mission : Mission) (d : Db) :
    (addEarnings missionId mission).Returns d fun _ d' =>
      d'.field = d.field.changeBooks (Books.earn mission.agentId mission.netPayout 0) := by
  have hwallet : d.books.walletOf mission.agentId =
      Db.walletAccounts.find (isWalletOf mission.agentId) d := rfl
  rw [addEarnings, Field.changeBooks, Books.earn, show d.field.books = d.books from rfl, hwallet]
  refine .bind_run (Client.run_findFirst _ _ _) ?_
  cases hfind : Db.walletAccounts.find (isWalletOf mission.agentId) d with
  | some q =>
    refine .bind_run (Client.run_update_of_some (TableOf.find_eq_some hfind).1 _ _)
      (.of_run (run_record _ _ _) ?_)
    have hrow : Books.withEarning mission.netPayout 0 = fun w : WalletAccount =>
        { w with
          totalEarnings := w.totalEarnings + mission.netPayout
          availableBalance := w.availableBalance + mission.netPayout } := by
      funext w
      simp [Books.withEarning]
    rw [field_insert_walletEntries, hrow]
    rfl
  | none =>
    have hcreate := Client.run_createUnique Db.walletAccounts d (isWalletOf mission.agentId)
      Failure.uniqueConstraint
      { agentId := mission.agentId
        totalEarnings := mission.netPayout
        availableBalance := mission.netPayout }
    simp only [hfind, Option.isSome_none, Bool.false_eq_true, if_false] at hcreate
    refine .bind_run hcreate (.of_run (Prog.run_pure _ _) ?_)
    simp only [Books.withEarning, zero_add, add_zero]
    rfl

/-- The earnings of a mission are paid. -/
lemma payEarnings_leaves (missionId : Id) (mission : Mission) (d : Db) :
    (payEarnings missionId mission).Leaves d fun d' =>
      d'.field = d.field.changeBooks (Books.payMission missionId mission) := by
  rw [payEarnings, postEarnings, postQcEarningsRelease]
  refine .bind_run (run_seedChartOfAccounts d) (.bind_run (run_postJournalEntry _ _ _ _ _)
    (.bind_run (run_postJournalEntry _ _ _ _ _) ?_))
  -- The totals of the agent come last, whether there is an agent or not.
  refine .bind_keeps ?_ fun _ d' hd' => .of_run (Client.run_update _ _ _ _ _) hd'
  generalize hd₁ : Db.posted (.qcRelease missionId) (.mission missionId) mission.agentId
    (qcReleaseLines mission.netPayout) _ = d₁
  have hposted : d₁.field = d.field.changeBooks (Books.postReleased missionId mission) := by
    rw [← hd₁, field_postedMission, field_postedMission]
    rfl
  rw [success_postAnswer]
  cases hcheck : checkLines (earningsLines mission.payoutAmount mission.asojuFee
      mission.netPayout) with
  | some rejected =>
    refine .of_run (Prog.run_pure _ _) (hposted.trans ?_)
    simp only [Field.changeBooks, Books.payMission, hcheck, Option.isSome_some, if_true]
  | none =>
    obtain ⟨_, d₂, hrun, hd₂⟩ := addEarnings_returns missionId mission d₁
    refine .of_run hrun (hd₂.trans ?_)
    simp only [hposted, Field.changeBooks, Books.payMission, hcheck, Option.isSome_none,
      Bool.false_eq_true, if_false]

/-- The mission and the case are completed. -/
lemma complete_returns {caseId missionId : Id} {case : Case} {mission : Mission} (now : Time)
    {d : Db} (hcase : d.serviceCase.get? caseId = some case)
    (hmission : d.mission.get? missionId = some mission) :
    (complete caseId missionId now).Returns d fun _ d' =>
      d'.field = d.field.changeMission missionId fun m =>
        { m with workflowState := .completed, completedAt := some now } := by
  rw [complete]
  refine .bind_run (Client.run_update_of_some (r := Db.missions) hmission _ _)
    (.of_run (Client.run_update_of_some (r := Db.cases) (s := Db.missions.modify missionId _ d) hcase _ _) ?_)
  rfl

/-- What an action does beside the move of the review. -/
lemma follow_leaves (action : QcAction) {caseId missionId : Id} {case : Case} {mission : Mission}
    {reviewId : Id} {review : QcReview} (now : Time) {d : Db}
    (hcase : d.serviceCase.get? caseId = some case)
    (hmission : d.mission.get? missionId = some mission)
    (hreview : d.qcReview.get? reviewId = some review) :
    (follow action caseId missionId mission reviewId now).Leaves d fun d' =>
      d'.field = settled action missionId mission reviewId now (gate missionId mission d) d.field := by
  have hconclude : ∀ (state : WorkflowState) (f : Case → Case),
      (conclude caseId missionId state f).Leaves d fun d' => d'.field =
        d.field.changeMission missionId fun m => { m with workflowState := state } := by
    intro state f
    rw [conclude]
    refine .bind_run (Client.run_update_of_some (r := Db.missions) hmission _ _)
      (.bind_run (Client.run_update_of_some (r := Db.cases) (s := Db.missions.modify missionId _ d) hcase _ _)
        (.of_run (Prog.run_pure _ _) ?_))
    rfl
  cases action with
  | approve =>
    rw [follow, approve, settled]
    refine .bind_run (Client.run_query _ _ _) (.bind_run (Client.run_query _ _ _)
      (.bind_run (Client.run_update_of_some (r := Db.qcReviews) hreview _ _)
        (.bind ((complete_returns (d := Db.qcReviews.modify reviewId _ d) now hcase hmission).mono
          fun _ d₁ hd₁ => ?_))))
    change Prog.Leaves (if evaluateCompletionGate (gate missionId mission d) = true then _ else _) _ _
    by_cases hgate : evaluateCompletionGate (gate missionId mission d) = true
    · rw [if_pos hgate]
      simp only [if_pos hgate]
      refine .bind_keeps ((payEarnings_leaves missionId mission d₁).mono fun d₂ hd₂ => ?_)
        fun _ d' hd' => .of_run (Prog.run_pure _ _) hd'
      rw [hd₂, hd₁]
      rfl
    · rw [if_neg hgate]
      simp only [if_neg hgate]
      exact .of_run (Prog.run_pure _ _) hd₁
  | requestRework => exact hconclude _ _
  | reject => exact hconclude _ _
  | startReview => exact .of_run (Prog.run_pure _ _) rfl
  | resubmit => exact .of_run (Prog.run_pure _ _) rfl
  | other text => exact .of_run (Prog.run_pure _ _) rfl

/-- The review that is open is there. -/
lemma get?_opened (missionId : Id) (reviews : Table QcReview) :
    (opened missionId reviews).1.get? (opened missionId reviews).2.1 =
      some (opened missionId reviews).2.2 := by
  rw [opened]
  cases hlast : lastReview missionId reviews with
  | some current =>
    obtain ⟨reviewId, review⟩ := current
    have hmem := List.mem_of_mem_filter (List.argmax_mem hlast)
    exact (Table.mem_rows_iff _).mp hmem
  | none => exact Table.get?_insert_self _ _

lemma missionOf_eq_some {caseId missionId : Id} {mission : Mission} {d : Db}
    (h : missionOf caseId d = some (missionId, mission)) :
    (∃ case, d.serviceCase.get? caseId = some case) ∧ d.mission.get? missionId = some mission := by
  rw [missionOf] at h
  cases hcase : d.serviceCase.get? caseId with
  | none =>
    rw [hcase] at h
    cases h
  | some case =>
    rw [hcase] at h
    exact ⟨⟨case, rfl⟩, (TableOf.find_eq_some h).1⟩

/-- What an action on a mission does to the field. -/
lemma act_leaves (c : Command) (action : QcAction) {case : Case} {missionId : Id}
    {mission : Mission} {reviews : Table QcReview} {reviewId : Id} {current : QcReview} {d : Db}
    (hcase : d.serviceCase.get? c.caseId = some case)
    (hmission : d.mission.get? missionId = some mission)
    (hreview : reviews.get? reviewId = some current) :
    (act c action missionId mission reviewId current).Leaves { d with qcReview := reviews }
      fun d' => d'.field =
        match validateQcTransition current.state action .operations c.reason with
        | .error _ => ⟨d.mission, reviews, d.books⟩
        | .ok newState =>
            settled action missionId mission reviewId c.now (gate missionId mission d)
              (Field.changeReview reviewId (reviewed c action newState)
                ⟨d.mission, reviews, d.books⟩) := by
  rw [act]
  cases validateQcTransition current.state action .operations c.reason with
  | error refusal => exact .of_run (Prog.run_pure _ _) rfl
  | ok newState =>
    refine .bind_run (Client.run_update_of_some (r := Db.qcReviews)
      (s := { d with qcReview := reviews }) hreview _ _) ?_
    refine .bind_keeps ((follow_leaves action c.now (d := Db.qcReviews.modify reviewId _
      { d with qcReview := reviews }) hcase hmission
        ((Table.get?_modify_self _ _ _).trans (congrArg _ hreview))).mono fun d₁ hd₁ => ?_)
      fun _ d₁ hd₁ => .bind_run (run_record _ _ _) (.of_run (Prog.run_pure _ _) ?_)
    · rw [hd₁]
      rfl
    · rwa [field_insert_adminAuditEvents]

/-- **What a command does to the field.** -/
theorem field_POST (c : Command) (d : Db) : ((POST c).exec d).field = c.effect d := by
  rw [POST, Prog.exec_tryCatch_pure]
  change (process c).Leaves d fun d' => d'.field = c.effect d
  rw [process]
  cases haction : c.action with
  | none => exact .of_run (Prog.run_pure _ _) (by rw [Command.effect, haction])
  | some action =>
    refine .bind_run (Client.run_query _ _ _) ?_
    cases hmission : missionOf c.caseId d with
    | none => exact .of_run (Prog.run_pure _ _) (by rw [Command.effect, haction, hmission])
    | some q =>
      obtain ⟨missionId, mission⟩ := q
      obtain ⟨⟨case, hcase⟩, hget⟩ := missionOf_eq_some hmission
      refine .bind_run (run_openReview missionId d) ((act_leaves c action hcase hget
        (get?_opened missionId d.qcReview)).mono fun d' hd' => ?_)
      rw [hd', Command.effect, haction, hmission]

end QualityControl

/-! ## The acceptance of a gig -/

namespace Gigs

/-- The wallet gets a pending earning. -/
lemma addPending_returns (agentId : Id) (netPayout : ℤ) (d : Db) :
    (addPending agentId netPayout).Returns d fun _ d' =>
      d'.field = d.field.changeBooks (Books.earn agentId 0 netPayout) := by
  have hwallet : d.books.walletOf agentId = Db.walletAccounts.find (isWalletOf agentId) d := rfl
  rw [addPending, Field.changeBooks, Books.earn, show d.field.books = d.books from rfl, hwallet]
  refine .bind_run (Client.run_findFirst _ _ _) ?_
  cases hfind : Db.walletAccounts.find (isWalletOf agentId) d with
  | some q =>
    refine .bind_run (Client.run_update_of_some (TableOf.find_eq_some hfind).1 _ _)
      (.of_run (Prog.run_pure _ _) ?_)
    have hrow : Books.withEarning 0 netPayout = fun w : WalletAccount =>
        { w with
          pendingBalance := w.pendingBalance + netPayout
          totalEarnings := w.totalEarnings + netPayout } := by
      funext w
      simp [Books.withEarning]
    rw [hrow]
    rfl
  | none =>
    have hcreate := Client.run_createUnique Db.walletAccounts d (isWalletOf agentId)
      Failure.uniqueConstraint { agentId, pendingBalance := netPayout, totalEarnings := netPayout }
    simp only [hfind, Option.isSome_none, Bool.false_eq_true, if_false] at hcreate
    refine .of_run hcreate ?_
    simp only [Books.withEarning, zero_add]
    rfl

/-- The field after the acceptance of a gig. -/
def accepted (agentId : Id) (gig : CachedGig) (now : Time) (x : Field) : Field :=
  ⟨x.missions.insert (newMission agentId gig now), x.reviews,
    x.books.earn agentId 0 (newMission agentId gig now).netPayout⟩

lemma createMission_failsOr (agentId : Id) (gig : CachedGig) (now : Time) (d : Db) :
    (createMission agentId gig now).FailsOr d fun _ d' =>
      d'.field = accepted agentId gig now d.field := by
  rw [createMission]
  have hcreate := Client.run_createUnique Db.missions d (isMissionOf gig.caseId)
    Failure.uniqueConstraint (newMission agentId gig now)
  split_ifs at hcreate
  · exact .bind (.fail hcreate)
  · refine .bind_run hcreate (.bind_run (run_record _ _ _) (.bind (Or.inr
      ((addPending_returns agentId _ _).mono fun walletAccountId d₁ hd₁ => ?_))))
    refine .bind_run (run_record _ _ _) (.bind_run (run_record _ _ _)
      (Or.inr (.of_run (Prog.run_pure _ _) ?_)))
    exact hd₁

lemma accept_failsOr (agentId caseId : Id) (now : Time) (d : Db) :
    (accept agentId caseId now).FailsOr d fun _ d' =>
      ∃ gig, d'.field = accepted agentId gig now d.field := by
  rw [accept]
  refine .bind_run (Client.run_findFirst _ _ _) ?_
  cases hfind : Db.cachedGigs.find (isGigOf caseId) d with
  | none => exact .fail (Prog.run_throw _ _)
  | some q =>
    obtain ⟨gigId, gig⟩ := q
    dsimp only
    split_ifs
    · exact .fail (Prog.run_throw _ _)
    · refine .bind_run (Client.run_update_of_some (TableOf.find_eq_some hfind).1 _ _)
        (.bind_run (Client.run_findUnique _ _ _) ?_)
      split
      · exact .fail (Prog.run_throw _ _)
      · exact (createMission_failsOr agentId gig now _).imp_right fun h =>
          h.mono fun _ d' hd' => ⟨gig, hd'⟩

/-- **What an acceptance does to the field**: nothing, or it adds the mission and its earning. -/
theorem POST_does (agentId : Id) (caseId : Option Id) (now : Time) (d : Db) :
    ((POST agentId caseId now).exec d).field = d.field ∨
      ∃ gig, ((POST agentId caseId now).exec d).field = accepted agentId gig now d.field := by
  cases caseId with
  | none => exact Or.inl rfl
  | some caseId =>
    rw [POST, Prog.exec_tryCatch_pure, Prog.exec_bind_pure]
    rcases Client.exec_transaction (accept_failsOr agentId caseId now d) with h | ⟨_, gig, h⟩
    · exact Or.inl (congrArg Db.field h)
    · exact Or.inr ⟨gig, h⟩

end Gigs

end Asoju.FieldForce
