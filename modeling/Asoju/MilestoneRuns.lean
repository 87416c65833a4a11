/-
Every entry of a milestone is backed, in every run of the case API.

`CaseChange` says what an operation can do to the cases in one go: nothing, one move that has its
cause if it leads into a milestone, or the suspension of a case and the return from it.  Each
request but a transition is a chain of such changes, and a transition is one move without a cause.
-/
import Asoju.Milestones

namespace Asoju

open Lib Relation

/-! ## Changes of the cases -/

/-- The moves that lead into a milestone. -/
def milestoneEdges : List (CaseStatus × CaseStatus) := milestones.map fun m => (m.source, m.entry)

/-- If the move leads into a milestone, then its cause has come about between the two databases. -/
def Db.Due (d d₁ : Db) (i : Id) (src dst : CaseStatus) : Prop :=
  ∀ m ∈ milestones, src = m.source → dst = m.entry → ∃ t, m.Cause d₁ i t ∧ d.clock ≤ t ∧ t ≤ d₁.clock

lemma Db.due_of_not_mem {d d₁ : Db} {i : Id} {src dst : CaseStatus}
    (h : (src, dst) ∉ milestoneEdges) : d.Due d₁ i src dst := by
  rintro m hm rfl rfl
  exact absurd (List.mem_map.mpr ⟨m, hm, rfl⟩) h

/-- What an operation can do in one go. -/
inductive CaseChange (d : Db) : Db → Prop
  | quiet {d' : Db} (h : d.Quiet d') : CaseChange d d'
  | advance {d₁ : Db} {i : Id} {c : ServiceCase} {dst : CaseStatus} (h : d.Quiet d₁)
      (hc : d₁.serviceCase.get? i = some c) (hedge : CaseEdge c.status dst)
      (hdue : d.Due d₁ i c.status dst) (a : Option Id) (r : Option String) :
      CaseChange d (d₁.moveCase i c dst c.heldFromStatus a r)
  | suspend {i : Id} {c : ServiceCase} (hc : d.serviceCase.get? i = some c)
      (hs : c.status ≠ .onHold) (a : Option Id) (r : Option String) :
      CaseChange d (d.moveCase i c .onHold (some c.status) a r)
  | resume {i : Id} {c : ServiceCase} {back : CaseStatus} (hc : d.serviceCase.get? i = some c)
      (hs : c.status = .onHold) (hback : c.heldFromStatus = some back) (a : Option Id)
      (r : Option String) : CaseChange d (d.moveCase i c back none a r)

/-! ### The record of a case after a change -/

section Record

variable {m : CaseMilestone} {r s : CaseRun} {d₁ : Db} {i : Id} {c : ServiceCase}

lemma record_grows (h : r.db.Retains s.db) (hposted : r.posted ⊆ s.posted) (j : Id) :
    (m.record r j).Grows (m.record s j) where
  now := h.clock
  causes _ ht := m.cause_mono h ht
  waivers := by
    rintro t ⟨row, hrow, hrest⟩
    exact ⟨row, hposted hrow, hrest⟩

lemma record_quiet (h : r.db.Quiet s.db) (hposted : r.posted ⊆ s.posted) (j : Id) :
    Record.Step m.toMilestone (m.record r j) (m.record s j) :=
  .quiet (record_grows h.toRetains hposted j) (h.timeline j) (h.place j)

/-- For the other cases a move is no news. -/
lemma record_other (h : r.db.Quiet d₁) (hc : d₁.serviceCase.get? i = some c) {dst : CaseStatus}
    {held : Option CaseStatus} {a : Option Id} {reason : Option String}
    (hdb : s.db = d₁.moveCase i c dst held a reason) (hposted : r.posted ⊆ s.posted) {j : Id}
    (hj : i ≠ j) : Record.Step m.toMilestone (m.record r j) (m.record s j) := by
  refine .quiet (record_grows ?_ hposted j) ?_ ?_
  · rw [hdb]
    exact h.toRetains.trans (Db.retains_moveCase hc ..)
  · show s.db.timeline j = _
    rw [hdb, Db.timeline_moveCase, if_neg hj]
    exact h.timeline j
  · show s.db.place j = _
    rw [hdb, Db.place_moveCase hc, if_neg hj]
    exact h.place j

/-- The times of a move. -/
lemma move_times (h : r.db.Retains d₁) (dst : CaseStatus) (held : Option CaseStatus)
    (a : Option Id) (reason : Option String) :
    r.db.clock ≤ d₁.clock + 1 ∧ d₁.clock + 1 < (d₁.moveCase i c dst held a reason).clock :=
  ⟨h.clock.trans (Int.lt_succ d₁.clock).le, Int.lt_succ (d₁.clock + 1)⟩

lemma place_of_get? (hc : d₁.serviceCase.get? i = some c) : d₁.place i = c.place := by
  rw [Db.place, hc]
  rfl

lemma place_of_ne_onHold (hs : c.status ≠ .onHold) : c.place = c.status := by
  rw [ServiceCase.place, if_neg hs]

/-- A move along an edge, with its cause or a waiver. -/
lemma record_advance (h : r.db.Quiet d₁) (hc : d₁.serviceCase.get? i = some c) {dst : CaseStatus}
    (hedge : CaseEdge c.status dst) {a : Option Id} {reason : Option String}
    (hdb : s.db = d₁.moveCase i c dst c.heldFromStatus a reason)
    (hposted : r.posted ⊆ s.posted)
    (hdue : c.status = m.source → dst = m.entry →
      d₁.clock + 1 ∈ (m.record s i).waivers ∨
        ∃ t, m.Cause d₁ i t ∧ r.db.clock ≤ t ∧ t ≤ d₁.clock) (j : Id) :
    Record.Step m.toMilestone (m.record r j) (m.record s j) := by
  by_cases hj : i = j
  · subst hj
    have hretains : d₁.Retains s.db := hdb ▸ Db.retains_moveCase hc ..
    obtain ⟨hu, hu'⟩ := move_times h.toRetains dst c.heldFromStatus a reason
    have hplace : (m.record r i).place = c.status := by
      show r.db.place i = c.status
      rw [← h.place, place_of_get? hc, place_of_ne_onHold (caseMachine.source_ne_hold hedge)]
    have hplace' : (m.record s i).place = dst := by
      show s.db.place i = dst
      rw [hdb, Db.place_moveCase hc, if_pos rfl]
      exact place_of_ne_onHold (caseMachine.target_ne_hold hedge)
    refine .advance (record_grows (h.toRetains.trans hretains) hposted i) hu ?_ ?_ ?_
      fun hsource hentry => ?_
    · show _ < s.db.clock
      rw [hdb]
      exact hu'
    · show s.db.timeline i = r.db.timeline i ++ _
      rw [hplace, hplace', hdb, Db.timeline_moveCase, if_pos rfl, h.timeline]
    · rw [hplace, hplace']
      exact hedge
    · rw [hplace] at hsource
      rw [hplace'] at hentry
      rcases hdue hsource hentry with hwaived | ⟨t, ht, hle, hle'⟩
      · exact Or.inl hwaived
      · exact Or.inr ⟨t, m.cause_mono hretains ht, hle, lt_of_le_of_lt hle' (Int.lt_succ _)⟩
  · exact record_other h hc hdb hposted hj

/-- **A change is a step of the record of every case.** -/
lemma CaseChange.record {d d' : Db} (h : CaseChange d d') (hm : m ∈ milestones)
    (posted : List CaseStatusHistory) (j : Id) :
    Record.Step m.toMilestone (m.record ⟨d, posted⟩ j) (m.record ⟨d', posted⟩ j) := by
  cases h with
  | quiet hquiet =>
    exact record_quiet (r := ⟨d, posted⟩) (s := ⟨_, posted⟩) hquiet (List.Subset.refl _) j
  | advance hquiet hc hedge hdue a reason =>
    exact record_advance (r := ⟨d, posted⟩) (s := ⟨_, posted⟩) hquiet hc hedge rfl (List.Subset.refl _)
      (fun hsource hentry => Or.inr (hdue m hm hsource hentry)) j
  | @suspend i c hc hs a reason =>
    by_cases hj : i = j
    · subst hj
      obtain ⟨hu, hu'⟩ :=
        move_times (r := ⟨d, posted⟩) (.refl d) .onHold (some c.status) a reason
      have hplace : (m.record ⟨d, posted⟩ i).place = c.status :=
        (place_of_get? hc).trans (place_of_ne_onHold hs)
      have hretains : d.Retains (d.moveCase i c .onHold (some c.status) a reason) :=
        Db.retains_moveCase hc ..
      refine .suspend (record_grows (r := ⟨d, posted⟩) (s := ⟨_, posted⟩) hretains (List.Subset.refl _) i) hu hu' ?_ ?_
      · rw [hplace]
        exact (Db.timeline_moveCase ..).trans (if_pos rfl)
      · rw [hplace]
        exact (Db.place_moveCase hc ..).trans (if_pos rfl)
    · exact record_other (r := ⟨d, posted⟩) (s := ⟨_, posted⟩) (.refl d) hc rfl (List.Subset.refl _) hj
  | @resume i c back hc hs hback a reason =>
    by_cases hj : i = j
    · subst hj
      obtain ⟨hu, hu'⟩ :=
        move_times (r := ⟨d, posted⟩) (.refl d) back none a reason
      have hplace : (m.record ⟨d, posted⟩ i).place = back := by
        refine (place_of_get? hc).trans ?_
        rw [ServiceCase.place, if_pos hs, hback]
        rfl
      have hretains : d.Retains (d.moveCase i c back none a reason) := Db.retains_moveCase hc ..
      refine .resume (record_grows (r := ⟨d, posted⟩) (s := ⟨_, posted⟩) hretains (List.Subset.refl _) i) hu hu' ?_ ?_
      · have hhold : caseMachine.hold = c.status := hs.symm
        rw [hplace, hhold]
        exact (Db.timeline_moveCase ..).trans (if_pos rfl)
      · rw [hplace]
        refine (Db.place_moveCase hc ..).trans ((if_pos rfl).trans ?_)
        rw [ServiceCase.place]
        split_ifs with hb
        · exact hb.symm
        · rfl
    · exact record_other (r := ⟨d, posted⟩) (s := ⟨_, posted⟩) (.refl d) hc rfl (List.Subset.refl _) hj

end Record

/-! ## Changes that move no case -/

namespace Db

variable (d : Db)

/-- What writes neither a case nor its history, and keeps what the causes rest on. -/
lemma Quiet.of_kept {d d' : Db} (hclock : d.clock ≤ d'.clock)
    (hpayment : ∀ j p, d.payment.get? j = some p → p.status = .paid → d'.payment.get? j = some p)
    (hinvoice : ∀ j v, d.invoice.get? j = some v → d'.invoice.get? j = some v)
    (hreport : ∀ j r, d.report.get? j = some r → d'.report.get? j = some r)
    (happroval : ∀ j a, d.approval.get? j = some a → d'.approval.get? j = some a)
    (hcustomer : d'.customer = d.customer) (hcase : d'.serviceCase = d.serviceCase)
    (hhistory : d'.caseStatusHistory = d.caseStatusHistory) : d.Quiet d' where
  clock := hclock
  payment := hpayment
  invoice := hinvoice
  report := hreport
  approval := happroval
  customer := hcustomer
  owner j := by rw [hcase]
  history := hhistory
  place j := by rw [Db.place, hcase, Db.place]

/-- A write to a table that the record does not look at. -/
lemma Quiet.of_eq {d d' : Db} (hclock : d.clock ≤ d'.clock) (hpayment : d'.payment = d.payment)
    (hinvoice : d'.invoice = d.invoice) (hreport : d'.report = d.report)
    (happroval : d'.approval = d.approval) (hcustomer : d'.customer = d.customer)
    (hcase : d'.serviceCase = d.serviceCase)
    (hhistory : d'.caseStatusHistory = d.caseStatusHistory) : d.Quiet d' :=
  .of_kept hclock (fun _ _ h _ => hpayment ▸ h) (fun _ _ h => hinvoice ▸ h)
    (fun _ _ h => hreport ▸ h) (fun _ _ h => happroval ▸ h) hcustomer hcase hhistory

lemma quiet_elapse (ms : ℕ) : d.Quiet { d with clock := d.clock + ms } :=
  .of_eq (Int.le_add_of_nonneg_right (Int.natCast_nonneg ms)) rfl rfl rfl rfl rfl rfl rfl

lemma quiet_insertPayment (p : Payment) : d.Quiet (d.insertRow .payment p) :=
  .of_kept d.le_tick (fun _ _ h _ => Table.get?_insert_of_some h p) (fun _ _ h => h)
    (fun _ _ h => h) (fun _ _ h => h) rfl rfl rfl

lemma quiet_insertReport (r : Report) : d.Quiet (d.insertRow .report r) :=
  .of_kept d.le_tick (fun _ _ h _ => h) (fun _ _ h => h)
    (fun _ _ h => Table.get?_insert_of_some h r) (fun _ _ h => h) rfl rfl rfl

lemma quiet_insertApproval (a : Approval) : d.Quiet (d.insertRow .approval a) :=
  .of_kept d.le_tick (fun _ _ h _ => h) (fun _ _ h => h) (fun _ _ h => h)
    (fun _ _ h => Table.get?_insert_of_some h a) rfl rfl rfl

/-- A payment that is not PAID may change. -/
lemma quiet_modifyPayment {i : Id} {p : Payment} (hp : d.payment.get? i = some p)
    (hopen : p.status ≠ .paid) (f : Payment → Payment) : d.Quiet (d.modifyRow .payment i f) := by
  refine .of_kept d.le_tick (fun j q hq hpaid => ?_) (fun _ _ h => h) (fun _ _ h => h)
    (fun _ _ h => h) rfl rfl rfl
  have hne : j ≠ i := by
    rintro rfl
    obtain rfl := Option.some.inj (hp.symm.trans hq)
    exact hopen hpaid
  exact (Table.get?_modify_of_ne _ hne f).trans hq

/-- The payment status of a case may change. -/
lemma quiet_paymentStatus (i : Id) (s : PaymentStatus) :
    d.Quiet (d.modifyRow .serviceCase i fun c => { c with paymentStatus := s }) where
  clock := d.le_tick
  payment _ _ h _ := h
  invoice _ _ h := h
  report _ _ h := h
  approval _ _ h := h
  customer := rfl
  owner j := Table.map_get?_modify (g := ServiceCase.customerId)
    (f := fun c => { c with paymentStatus := s }) d.serviceCase i (fun _ => rfl) j
  history := rfl
  place j := congrArg (·.getD .onHold) (Table.map_get?_modify (g := ServiceCase.place)
    (f := fun c => { c with paymentStatus := s }) d.serviceCase i (fun _ => rfl) j)

end Db

/-! ## The requests -/

section Requests

variable (d : Db)

/-- A move along an edge that leads into no milestone. -/
lemma changes_move {d d₁ : Db} {i : Id} {c : ServiceCase} {dst : CaseStatus} (h : d.Quiet d₁)
    (hc : d₁.serviceCase.get? i = some c) (hedge : CaseEdge c.status dst)
    (hnot : (c.status, dst) ∉ milestoneEdges) (a : Option Id) (r : Option String) :
    ReflTransGen CaseChange d (d₁.moveCase i c dst c.heldFromStatus a r) :=
  .single (.advance h hc hedge (Db.due_of_not_mem hnot) a r)

lemma changes_of_quiet {d d₁ : Db} (h : d.Quiet d₁) : ReflTransGen CaseChange d d₁ :=
  .single (.quiet h)

/-! ### Quotes -/

lemma createQuote_changes (env : Env) (user : AuthenticatedUser) (i : Id)
    (dto : CommerceService.CreateQuoteDto) :
    ReflTransGen CaseChange d ((CommerceService.createQuote env user i dto).exec d) := by
  rcases CommerceService.createQuote_run env user i dto d with
    ⟨e, he⟩ | ⟨c, scopeId, scope, benefit, hc, hs, -, -, -, hrun⟩
  · rw [Prog.exec, he]
  · have hquiet : d.Quiet (d.insertRow .quote
        (CommerceService.quoteRow env i scopeId dto benefit d.clock)) :=
      .of_eq d.le_tick rfl rfl rfl rfl rfl rfl rfl
    rw [Prog.exec, hrun]
    refine changes_move hquiet hc (Or.inl ?_) ?_ _ _ <;>
    · rw [hs]
      decide

lemma quiet_acceptWrites (quoteId : Id) (quote : Quote) (r : MembershipService.CommitResult) :
    d.Quiet (CommerceService.acceptWrites quoteId quote r d) :=
  .of_kept (d.le_tick.trans (Db.le_tick _)) (fun _ _ h _ => h)
    (fun _ _ h => Table.get?_insert_of_some h _) (fun _ _ h => h) (fun _ _ h => h) rfl rfl rfl

lemma acceptQuote_changes (user : AuthenticatedUser) (quoteId : Id) :
    ReflTransGen CaseChange d ((CommerceService.acceptQuote user quoteId).exec d) := by
  rcases CommerceService.acceptQuote_exec d user quoteId with
    heq | ⟨x, r, d₁, hx, hd₁, hcases⟩
  · rw [heq]
  · have hquiet₁ : d.Quiet d₁ := by
      rcases hd₁ with rfl | ⟨e, rfl⟩
      · exact .refl _
      · exact .of_eq d.le_tick rfl rfl rfl rfl rfl rfl rfl
    have hquiet := hquiet₁.trans (quiet_acceptWrites d₁ quoteId x.quote r)
    have hcase : d₁.serviceCase = d.serviceCase := by
      rcases hd₁ with rfl | ⟨e, rfl⟩ <;> rfl
    rcases hcases with ⟨hs, heq⟩ | ⟨-, heq⟩
    · rw [heq]
      have hc : d₁.serviceCase.get? x.quote.caseId = some x.serviceCase := hcase ▸ hx.rows.2
      refine changes_move hquiet hc (Or.inl ?_) ?_ _ _ <;>
      · rw [hs]
        decide
    · rw [heq]
      exact changes_of_quiet hquiet

/-! ### Payments -/

lemma initiatePayment_changes (user : AuthenticatedUser) (i : Id) (n : Fin (2 ^ 32))
    (checkout : Except String Unit) :
    ReflTransGen CaseChange d ((CommerceService.initiatePayment user i n checkout).exec d) := by
  rcases CommerceService.initiatePayment_exec d user i n checkout with heq | ⟨x, -, -, -, -, heq⟩
  · rw [heq]
  · rw [heq]
    exact changes_of_quiet (d.quiet_insertPayment _)

variable {d} {x : PaymentDetail}

lemma quiet_flagPayment (hx : d.Joined x) (hopen : x.payment.status ≠ .paid) :
    d.Quiet (d.flagPayment x) :=
  (d.quiet_modifyPayment hx.payment hopen _).trans (Db.quiet_paymentStatus _ _ _)

lemma quiet_markPaid (hx : d.Joined x) (hopen : x.payment.status ≠ .paid) :
    d.Quiet (d.markPaid x) :=
  (d.quiet_modifyPayment hx.payment hopen _).trans (Db.quiet_paymentStatus _ _ _)

lemma quiet_reconcilePayment (hx : d.Joined x) (hopen : x.payment.status ≠ .paid)
    (dto : CommerceService.ResolveReconciliationDto) (actorId : Id) :
    d.Quiet (d.reconcilePayment x dto actorId) := by
  have hmarked := (d.quiet_modifyPayment hx.payment hopen
    (CommerceService.reconciled dto d.clock)).trans
      (Db.quiet_paymentStatus _ x.invoice.caseId dto.newPaymentStatus)
  exact hmarked.trans (.of_eq (Db.le_tick _) rfl rfl rfl rfl rfl rfl rfl)

/-- The payment that is marked is a payment of the case, verified now. -/
lemma paidAt_markPaid (hx : d.Joined x) : (d.markPaid x).PaidAt x.invoice.caseId d.clock := by
  refine ⟨x.id, { x.payment with status := .paid, providerWebhookVerifiedAt := some d.clock },
    x.invoice, ?_, rfl, rfl, hx.invoice, rfl⟩
  show (d.payment.modify x.id _).get? x.id = _
  rw [Table.get?_modify_self, hx.payment]
  rfl

/-- A payment that is marked schedules a case that waits for it, and is the cause of that. -/
lemma verifyPayment_changes (hx : d.Joined x) (hopen : x.payment.status ≠ .paid) :
    ReflTransGen CaseChange d (d.verifyPayment x) := by
  have hquiet := quiet_markPaid hx hopen
  rw [Db.verifyPayment]
  split
  · rename_i c hc
    split_ifs with hs
    · have hc₁ : (d.markPaid x).serviceCase.get? x.invoice.caseId =
          some { c with paymentStatus := .paid } := by
        show (d.serviceCase.modify _ _).get? _ = _
        rw [Table.get?_modify_self, hc]
        rfl
      refine .single (.advance hquiet hc₁ (Or.inl ?_) (fun m hm hsource hentry => ?_) _ _)
      · show .scheduled ∈ transitions c.status
        rw [hs]
        decide
      · simp only [milestones, List.mem_cons, List.not_mem_nil, or_false] at hm
        rcases hm with rfl | rfl | rfl
        · exact ⟨d.clock, paidAt_markPaid hx, le_refl _, hquiet.clock⟩
        · cases hentry
        · cases hentry
    · exact changes_of_quiet hquiet
  · exact changes_of_quiet hquiet

variable (d)

lemma chargeSuccess_changes (reference : Reference) (amountKobo : ℚ) :
    ReflTransGen CaseChange d
      ((CommerceService.handleVerifiedCasePayment reference amountKobo).exec d) := by
  rw [CommerceService.handleVerifiedCasePayment_exec]
  split
  · exact .refl
  · rename_i x hx
    have hjoined := (d.joined_of_paymentByReference hx).1
    split_ifs with hpaid
    · exact .refl
    · exact changes_of_quiet (quiet_flagPayment hjoined hpaid)
    · exact verifyPayment_changes hjoined hpaid

lemma chargeFailed_changes (reference : Reference) :
    ReflTransGen CaseChange d ((CommerceService.handleFailedCasePayment reference).exec d) := by
  rw [CommerceService.handleFailedCasePayment_exec]
  split
  · exact .refl
  · rename_i x hx
    have hp := (d.joined_of_paymentByReference hx).1.payment
    split_ifs with hs
    · exact .refl
    · exact changes_of_quiet (d.quiet_modifyPayment hp (fun hpaid => hs (Or.inl hpaid)) _)

lemma resolveReconciliation_changes (user : AuthenticatedUser) (i : Id)
    (dto : CommerceService.ResolveReconciliationDto) :
    ReflTransGen CaseChange d ((CommerceService.resolveReconciliation user i dto).exec d) := by
  rw [CommerceService.resolveReconciliation_exec]
  split
  · exact .refl
  · rename_i x hx
    split_ifs with hs
    · have hopen : x.payment.status ≠ .paid := by
        rw [hs]
        decide
      exact changes_of_quiet
        (quiet_reconcilePayment (d.paymentDetail_eq_some_iff.mp hx).2 hopen dto user.id)
    · exact .refl

/-! ### Assignments -/

lemma createAssignment_changes (user : AuthenticatedUser) (i : Id)
    (dto : AssignmentsService.CreateAssignmentDto) :
    ReflTransGen CaseChange d ((AssignmentsService.createAssignment user i dto).exec d) := by
  have hquiet : d.Quiet (d.insertRow .assignment (AssignmentsService.newAssignment i dto)) :=
    .of_eq d.le_tick rfl rfl rfl rfl rfl rfl rfl
  rcases AssignmentsService.createAssignment_exec d user i dto with heq | ⟨c, hc, heq⟩
  · rw [heq]
  · rw [heq, AssignmentsService.offered]
    split_ifs with hs
    · refine changes_move hquiet hc (Or.inl ?_) ?_ _ _ <;>
      · rw [hs]
        decide
    · exact changes_of_quiet hquiet

/-- An answer moves an ASSIGNED case. -/
lemma answered_changes {user : AuthenticatedUser} {assignmentId : Id} {x : AssignmentDetail}
    (hx : AssignmentsService.Owns d user assignmentId x) (mark : Assignment → Assignment)
    {dst : CaseStatus} (hmem : dst ∈ transitions .assigned)
    (hnot : (.assigned, dst) ∉ milestoneEdges) (reason : String) :
    ReflTransGen CaseChange d
      (AssignmentsService.answered d user assignmentId x mark dst reason) := by
  have hquiet : d.Quiet (d.modifyRow .assignment assignmentId mark) :=
    .of_eq d.le_tick rfl rfl rfl rfl rfl rfl rfl
  rw [AssignmentsService.answered]
  split_ifs with hs
  · exact changes_move hquiet (Db.rows_of_assignmentDetail hx.1).2 (Or.inl (hs ▸ hmem))
      (hs ▸ hnot) _ _
  · exact changes_of_quiet hquiet

lemma acceptAssignment_changes (user : AuthenticatedUser) (i : Id) :
    ReflTransGen CaseChange d ((AssignmentsService.acceptAssignment user i).exec d) := by
  rcases AssignmentsService.acceptAssignment_exec d user i with heq | ⟨x, hx, -, heq⟩
  · rw [heq]
  · rw [heq]
    exact answered_changes d hx _ (by decide) (by decide) _

lemma declineAssignment_changes (user : AuthenticatedUser) (i : Id) :
    ReflTransGen CaseChange d ((AssignmentsService.declineAssignment user i).exec d) := by
  rcases AssignmentsService.declineAssignment_exec d user i with ⟨heq, -⟩ | ⟨x, hx, heq⟩
  · rw [heq]
  · rw [heq]
    exact answered_changes d hx _ (by decide) (by decide) _

/-! ### Quality control -/

lemma completeFieldwork_changes (user : AuthenticatedUser) (i : Id) :
    ReflTransGen CaseChange d ((EvidenceService.completeFieldwork user i).exec d) := by
  rcases EvidenceService.completeFieldwork_exec d user i with heq | ⟨c, hc, hmem, heq⟩
  · rw [heq]
  · rw [heq]
    refine changes_move (.refl d) hc (Or.inl hmem) ?_ _ _
    generalize c.status = src
    cases src <;> decide

variable {d} {i : Id} {c : ServiceCase}

/-- A pass hands the case to the customer, and its report is the cause of that. -/
lemma passCase_changes (hc : d.serviceCase.get? i = some c) (hs : c.status = .qualityControl)
    (user : AuthenticatedUser) {dto : EvidenceService.PerformQcDto}
    (hpass : dto.outcome = .approved ∨ dto.outcome = .passWithLimitation) (summary : String) :
    ReflTransGen CaseChange d (EvidenceService.passCase d user i c dto summary) := by
  have hquiet := d.quiet_insertReport (EvidenceService.newReport user i dto summary d.clock)
  refine .single (.advance hquiet hc (Or.inl ?_) (fun m hm hsource hentry => ?_) _ _)
  · rw [hs]
    decide
  · simp only [milestones, List.mem_cons, List.not_mem_nil, or_false] at hm
    rcases hm with rfl | rfl | rfl
    · cases hentry
    · refine ⟨d.clock, ⟨d.report.next, _, Table.get?_insert_self .., rfl, ?_, rfl⟩, le_refl _,
        hquiet.clock⟩
      simp only [Report.passes, EvidenceService.newReport, Option.some.injEq]
      exact decide_eq_true hpass
    · cases hentry

lemma followUp_changes (hc : d.serviceCase.get? i = some c) (hs : c.status = .qualityControl)
    (user : AuthenticatedUser) (dto : EvidenceService.PerformQcDto) :
    ReflTransGen CaseChange d ((EvidenceService.followUp user i dto).exec d) := by
  rcases EvidenceService.followUp_exec user hc hs dto with
    heq | ⟨summary, hpass, heq⟩ | ⟨d₁, reason, hd₁, heq⟩ | ⟨flag, incident, heq⟩
  · rw [heq]
  · rw [heq]
    exact passCase_changes hc hs user hpass summary
  · -- the case goes back to the field, with a new task or without
    have hquiet : d.Quiet d₁ := by
      rcases hd₁ with rfl | ⟨task, rfl⟩
      · exact .refl _
      · exact .of_eq d.le_tick rfl rfl rfl rfl rfl rfl rfl
    have hc₁ : d₁.serviceCase.get? i = some c := by
      rcases hd₁ with rfl | ⟨task, rfl⟩ <;> exact hc
    rw [heq]
    refine changes_move hquiet hc₁ (Or.inl ?_) ?_ _ _ <;>
    · rw [hs]
      decide
  · rw [heq]
    exact changes_of_quiet (.of_eq (d.le_tick.trans (Db.le_tick _)) rfl rfl rfl rfl rfl rfl rfl)

variable (d) (i)

lemma performQc_changes (user : AuthenticatedUser) (dto : EvidenceService.PerformQcDto) :
    ReflTransGen CaseChange d ((EvidenceService.performQc user i dto).exec d) := by
  rcases EvidenceService.performQc_exec d user i dto with
    heq | ⟨c, agents, t, hc, heligible, hc₁, hclock, hcases⟩
  · rw [heq]
  · -- The review is started and recorded first, and then followed up.
    have hstart : ReflTransGen CaseChange d (EvidenceService.reviewDb d user i c dto) := by
      have hrecord : ∀ d₁ : Db, d₁.Quiet (d₁.insertRow .qcReview ⟨i, dto.outcome, user.id⟩) :=
        fun d₁ => .of_eq d₁.le_tick rfl rfl rfl rfl rfl rfl rfl
      rw [EvidenceService.reviewDb]
      split_ifs with hs
      · refine (changes_move (.refl d) hc (Or.inl ?_) ?_ _ _).tail (.quiet (hrecord _)) <;>
        · rw [hs]
          decide
      · exact changes_of_quiet (hrecord d)
    have hc₂ : ((EvidenceService.reviewDb d user i c dto).withAgents agents t).serviceCase.get? i =
        some (EvidenceService.reviewed c) := hc₁
    have htiers : ReflTransGen CaseChange d
        ((EvidenceService.reviewDb d user i c dto).withAgents agents t) :=
      hstart.trans (changes_of_quiet (.of_eq hclock rfl rfl rfl rfl rfl rfl rfl))
    rcases hcases with heq | heq
    · rw [heq]
      exact htiers
    · rw [heq]
      exact htiers.trans (followUp_changes hc₂ rfl user dto)

/-! ### Approvals, holds and disputes -/

/-- An approval by the customer of the case is the cause of what follows from it. -/
lemma recordApproval_changes (user : AuthenticatedUser) (hrole : user.role = .customer)
    (haccess : (CaseAccessGuard.canActivate d user i).isOk = true) (action : ApprovalAction)
    (note : Option String) :
    ReflTransGen CaseChange d ((CasesService.recordApproval user i action note).exec d) := by
  rcases CasesService.recordApproval_exec d i user action note with heq | ⟨c, hc, hcases⟩
  · rw [heq]
  · have hquiet : d.Quiet (CasesService.approvalRow d i user action note) :=
      d.quiet_insertApproval _
    have hc₁ : (CasesService.approvalRow d i user action note).serviceCase.get? i = some c := hc
    rcases hcases with heq | ⟨rfl, hs, heq⟩ | ⟨-, hs, heq⟩
    · rw [heq]
      exact changes_of_quiet hquiet
    · have happroved : ReflTransGen CaseChange d ((CasesService.approvalRow d i user .approved
          note).moveCase i c .approved c.heldFromStatus (some user.id)
            (some "Customer approved")) := by
        refine .single (.advance hquiet hc₁ (Or.inl ?_) (fun m hm hsource hentry => ?_) _ _)
        · rw [hs]
          decide
        · simp only [milestones, List.mem_cons, List.not_mem_nil, or_false] at hm
          rcases hm with rfl | rfl | rfl
          · cases hentry
          · cases hentry
          · obtain ⟨c', customer, hc', hcustomer, huser⟩ :=
              CaseAccessGuard.customer_of_canActivate hrole haccess
            exact ⟨d.clock, ⟨d.approval.next, _, c', customer, Table.get?_insert_self .., rfl, rfl,
              rfl, hc', hcustomer, huser.symm⟩, le_refl _, hquiet.clock⟩
      rw [heq]
      refine happroved.trans (changes_move (c := { c with status := .approved }) (.refl _) ?_
        (Or.inl ?_) ?_ _ _)
      · rw [get?_moveCase _ hc₁, if_pos rfl]
      · show .completed ∈ transitions .approved
        decide
      · show (CaseStatus.approved, CaseStatus.completed) ∉ milestoneEdges
        decide
    · rw [heq]
      refine changes_move hquiet hc₁ (Or.inl ?_) ?_ _ _ <;>
      · rw [hs]
        decide

lemma hold_changes (user : AuthenticatedUser) (reason : String) :
    ReflTransGen CaseChange d ((CasesService.holdCase user i reason).exec d) := by
  rcases CasesService.holdCase_exec d i user reason with heq | ⟨c, hc, hs, -, -, heq⟩
  · rw [heq]
  · rw [heq]
    exact .single (.suspend hc hs _ _)

lemma resume_changes (user : AuthenticatedUser) (reason : Option String) :
    ReflTransGen CaseChange d ((CasesService.resumeCase user i reason).exec d) := by
  rcases CasesService.resumeCase_exec d i user reason with heq | ⟨c, back, hc, hs, hback, heq⟩
  · rw [heq]
  · rw [heq]
    exact .single (.resume hc hs hback _ _)

lemma raiseDispute_changes (user : AuthenticatedUser) (dto : CasesService.RaiseDisputeDto) :
    ReflTransGen CaseChange d ((CasesService.raiseDispute user i dto).exec d) := by
  rcases CasesService.raiseDispute_exec d i user dto with heq | ⟨c, customerId, hc, hs, heq⟩
  · rw [heq]
  · rw [heq]
    refine changes_move ?_ ?_ (Or.inr (Or.inl ⟨hs, rfl⟩)) ?_ _ _
    · exact .of_eq (d.le_tick.trans (Db.le_tick _)) rfl rfl rfl rfl rfl rfl rfl
    · exact hc
    · rw [hs]
      decide

lemma resolveDispute_changes (user : AuthenticatedUser) (note : Option String) :
    ReflTransGen CaseChange d ((CasesService.resolveDispute user i note).exec d) := by
  rcases CasesService.resolveDispute_exec d i user note with heq | ⟨c, d₁, hc, hs, hd₁, heq⟩
  · rw [heq]
  · have hquiet : d.Quiet d₁ := by
      rcases hd₁ with rfl | ⟨j, f, rfl⟩
      · exact .refl _
      · exact .of_eq d.le_tick rfl rfl rfl rfl rfl rfl rfl
    have hc₁ : d₁.serviceCase.get? i = some c := by
      rcases hd₁ with rfl | ⟨j, f, rfl⟩ <;> exact hc
    rw [heq]
    refine changes_move hquiet hc₁ (Or.inr (Or.inr ⟨hs, rfl⟩)) ?_ _ _
    rw [hs]
    decide

end Requests

/-! ## Every run -/

section Runs

variable {env : Env}

lemma CaseRequest.mayAct_iff {d : Db} {user : AuthenticatedUser} {roles : List Role} {i : Id} :
    mayAct d user roles i = true ↔
      user.role ∈ roles ∧ (CaseAccessGuard.canActivate d user i).isOk = true := by
  simp [mayAct]

/-- Every request but a transition is a chain of changes. -/
lemma CaseRequest.changes {d : Db} {o : CaseRequest} (hpermitted : o.permitted d = true)
    (ho : o.isTransition = false) : ReflTransGen CaseChange d (o.serve env d) := by
  cases o with
  | transition => cases ho
  | createQuote user i dto => exact createQuote_changes d env user i dto
  | acceptQuote user q => exact acceptQuote_changes d user q
  | initiatePayment user i n checkout => exact initiatePayment_changes d user i n checkout
  | chargeSuccess r a => exact chargeSuccess_changes d r a
  | chargeFailed r => exact chargeFailed_changes d r
  | resolveReconciliation user i dto => exact resolveReconciliation_changes d user i dto
  | createAssignment user i dto => exact createAssignment_changes d user i dto
  | acceptAssignment user i => exact acceptAssignment_changes d user i
  | declineAssignment user i => exact declineAssignment_changes d user i
  | completeFieldwork user i => exact completeFieldwork_changes d user i
  | performQc user i dto => exact performQc_changes d i user dto
  | recordApproval user i act n =>
    obtain ⟨hrole, haccess⟩ := mayAct_iff.mp hpermitted
    exact recordApproval_changes d i user (List.mem_singleton.mp hrole) haccess act n
  | hold user i r => exact hold_changes d i user r
  | resume user i r => exact resume_changes d i user r
  | raiseDispute user i dto => exact raiseDispute_changes d i user dto
  | resolveDispute user i n => exact resolveDispute_changes d i user n
  | elapse ms => exact changes_of_quiet (d.quiet_elapse ms)

/-- A transition is at most one move, and the endpoint has written its row. -/
lemma record_transition {m : CaseMilestone} (r : CaseRun) (user : AuthenticatedUser) (i : Id)
    (dst : CaseStatus) (reason : Option String) (j : Id) :
    Record.Step m.toMilestone (m.record r j)
      (m.record (r.step env (.transition user i dst reason)) j) := by
  have hsubset : r.posted ⊆ (r.step env (.transition user i dst reason)).posted :=
    List.subset_append_left _ _
  have hquiet (hdb : (CaseRequest.transition user i dst reason).step env r.db = r.db) :
      Record.Step m.toMilestone (m.record r j)
        (m.record (r.step env (.transition user i dst reason)) j) := by
    refine record_quiet ?_ hsubset j
    rw [CaseRun.step, hdb]
    exact .refl _
  by_cases hpermitted : (CaseRequest.transition user i dst reason).permitted r.db = true
  · have hstep : (CaseRequest.transition user i dst reason).step env r.db =
        (CasesService.applyTransition i dst reason (some user.id)).exec r.db := if_pos hpermitted
    rcases CasesService.applyTransition_exec r.db i dst reason (some user.id) with
      heq | ⟨c, hc, hmem, heq⟩
    · exact hquiet (hstep.trans heq)
    · refine record_advance (.refl r.db) hc (Or.inl hmem) (hstep.trans heq) hsubset
        (fun hsource hentry => Or.inl ?_) j
      refine ⟨⟨i, some c.status, dst, some user.id, reason, r.db.clock + 1⟩, ?_, rfl,
        congrArg some hsource, hentry, rfl⟩
      refine List.mem_append_right _ ?_
      rw [hstep, heq, newHistory]
      simp [Db.moveCase, Db.insertRow, Db.modifyRow, Db.tick]
  · exact hquiet (if_neg hpermitted)

/-- **One request keeps the record of a case sound.** -/
lemma sound_step {m : CaseMilestone} (hm : m ∈ milestones) {i : Id} {r : CaseRun}
    (h : m.toMilestone.Sound (m.record r i)) (o : CaseRequest) :
    m.toMilestone.Sound (m.record (r.step env o) i) := by
  cases ho : o.isTransition with
  | true =>
    cases o with
    | transition user j dst reason => exact h.step (record_transition r user j dst reason i)
    | _ => cases ho
  | false =>
    have hchain : ReflTransGen CaseChange r.db (o.step env r.db) := by
      rw [CaseRequest.step]
      split_ifs with hpermitted
      · exact CaseRequest.changes hpermitted ho
      · exact .refl
    have hlift := hchain.lift (fun d => m.record ⟨d, r.posted⟩ i)
      fun _ _ hchange => hchange.record hm r.posted i
    have hsound := h.steps hlift
    rwa [CaseRun.step, ho]

/-- A case that has just been created has reached no milestone. -/
lemma sound_justCreated (m : CaseMilestone) {d : Db} {i : Id} (hd : d.JustCreated i) :
    m.toMilestone.Sound (m.record ⟨d, []⟩ i) := by
  obtain ⟨c, hc, hs, -, hmoves⟩ := hd
  have htimeline : (d.timeline i).map Prod.snd = [⟨none, .draft⟩] := by
    rw [← hmoves, Db.timeline, Db.moves, List.map_map]
    rfl
  obtain ⟨x, hx, hmove⟩ := List.map_eq_singleton_iff.mp htimeline
  refine .start (t := x.1) ?_ ?_
  · show d.timeline i = _
    rw [hx]
    exact congrArg (fun mv => [(x.1, mv)]) hmove
  · show d.place i = .draft
    rw [place_of_get? hc, ServiceCase.place, hs, if_neg (by decide)]

/-- **The milestones of a case are backed.**  From its creation on, and after any requests, every
entry of SCHEDULED comes after a verified payment of an invoice of the case, every entry of
CUSTOMER_REVIEW after a report on a pass since the case last left IN_PROGRESS, and every entry of
APPROVED after an approval by its customer since it last entered CUSTOMER_REVIEW; or the endpoint
for transitions has taken the edge into the milestone, and nothing has made that stale since. -/
theorem milestones_backed (env : Env) (i : Id) (d : Db) (hd : d.JustCreated i)
    (os : List CaseRequest) :
    AllStates (CaseRun.step env)
      (fun r => ∀ m ∈ milestones, ∀ x ∈ r.db.timeline i, x.2.target = m.entry →
        m.toMilestone.Backed (m.record r i) x.1) ⟨d, []⟩ os := by
  have hrun : AllStates (CaseRun.step env)
      (fun r => ∀ m ∈ milestones, m.toMilestone.Sound (m.record r i)) ⟨d, []⟩ os :=
    invariant (I := fun r => ∀ m ∈ milestones, m.toMilestone.Sound (m.record r i))
      (fun _ o hsound m hm => sound_step hm (hsound m hm) o)
      (fun m _ => sound_justCreated m hd) os
  exact hrun.mono fun r hsound m hm => (hsound m hm).entries

theorem milestones_backed_newCaseDb :
    AllStates (CaseRun.step {})
      (fun r => ∀ m ∈ milestones, ∀ x ∈ r.db.timeline 0, x.2.target = m.entry →
        m.toMilestone.Backed (m.record r 0) x.1) ⟨newCaseDb, []⟩
      [.transition ⟨1, .admin⟩ 0 .submitted none, .hold ⟨1, .admin⟩ 0 "Waiting for a document"] :=
  milestones_backed _ 0 newCaseDb ⟨_, rfl, rfl, rfl, rfl⟩ _

/-- An admin posts one transition after the other. -/
def transitionsToApproved : List CaseRequest :=
  ([.submitted, .underReview, .quoted, .awaitingPayment, .scheduled, .assigned, .inProgress,
    .evidenceSubmitted, .qualityControl, .customerReview, .approved] : List CaseStatus).map
      fun s => .transition ⟨1, .admin⟩ 0 s none

/-- The causes alone do not back the milestones: a case gets to APPROVED by transitions, with no
payment, no report and no approval in the database. -/
theorem milestones_not_caused :
    newCaseDb.JustCreated 0 ∧
      ¬ AllStates (CaseRun.step {})
        (fun r => ∀ m ∈ milestones, ∀ x ∈ r.db.timeline 0, x.2.target = m.entry →
          m.toMilestone.Caused (m.record r 0) x.1) ⟨newCaseDb, []⟩ transitionsToApproved := by
  refine ⟨⟨_, rfl, rfl, rfl, rfl⟩, fun hall => ?_⟩
  have hlast := hall.last scheduling (by simp [milestones])
  set r := runFrom (CaseRun.step {}) ⟨newCaseDb, []⟩ transitionsToApproved with hr
  have hmem : ∃ x ∈ r.db.timeline 0, x.2.target = .scheduled := by
    rw [hr]
    decide +kernel
  obtain ⟨x, hx, htarget⟩ := hmem
  obtain ⟨t, ⟨j, p, v, hp, -⟩, -⟩ := hlast x hx htarget
  have hnone : r.db.payment.rows = [] := by
    rw [hr]
    decide +kernel
  have hrow := r.db.payment.mem_rows_iff.mpr hp
  rw [hnone] at hrow
  exact absurd hrow List.not_mem_nil

end Runs

end Asoju
