/-
Accepted quotes under concurrent calls.

A case is to have one accepted quote, whose amount it carries, and an acceptance is the start of its
payment.  The transaction of an acceptance writes what has been decided before, whatever has become
of the case and of its quotes: so a second quote of a case is accepted like the first one, a case
that is well on its way goes back to its payment, and a quote that has expired in between is
accepted all the same.  `settled_iff` says that these are the only ways to go wrong.
-/
import Asoju.FieldForce.CaseQuotes

namespace Asoju.FieldForce

open Lib

namespace CaseQuotes

/-! ## The property -/

/-- The states of a case whose payment is behind it. -/
def advanced : List CaseStatus :=
  [.accepted, .inProgress, .underReview, .completed, .cancelled, .failed]

/-- Each case has at most one accepted quote. -/
def Single (d : Db) : Prop :=
  ∀ i j q q', d.quote.get? i = some q → d.quote.get? j = some q' → q.status = .accepted →
    q'.status = .accepted → q.caseId = q'.caseId → i = j

/-- The case does not have the amount of the quote, which is accepted. -/
def Deviates (quoteId : Id) (d : Db) : Prop :=
  ∃ q c, d.quote.get? quoteId = some q ∧ q.status = .accepted ∧
    d.serviceCase.get? q.caseId = some c ∧ c.quoteAmount ≠ q.amount

/-- **A step leaves the quotes settled**, where `caller` is the call that takes it: there is one
accepted quote for a case, only an administrator takes an advanced case back to its payment, no
expired quote becomes accepted, and until an administrator changes the amount of a case it is that
of its accepted quote. -/
structure Settled (caller : Option Call) (d d' : Db) : Prop where
  single : Single d'
  forward : ∀ k c c', d.serviceCase.get? k = some c → d'.serviceCase.get? k = some c' →
    c.status ∈ advanced → c'.status = .paymentPending → ∃ admin u, caller = some (.update admin k u)
  expired : ∀ j q q', d.quote.get? j = some q → d'.quote.get? j = some q' →
    q.status = .expired → q'.status ≠ .accepted
  amount : ∀ j, Deviates j d' → Deviates j d ∨ ∃ admin u q, caller = some (.update admin q.caseId u) ∧
    d'.quote.get? j = some q ∧ u.quoteAmount.isSome

/-! ## The condition -/

/-- The case is not advanced and none of its other quotes is accepted, and the quote has not
expired. -/
structure Open (id quoteId : Id) (d : Db) : Prop where
  alone : ∀ j q, d.quote.get? j = some q → q.caseId = id → q.status = .accepted → j = quoteId
  early : ∀ c ∈ d.serviceCase.get? id, c.status ∉ advanced
  live : ∀ q ∈ d.quote.get? quoteId, q.status ≠ .expired

/-! ## What the writes do -/

section Writes

variable {caller : Option Call} {d d' : Db} {id quoteId : Id} {amount : ℤ} {acceptedAt : Time}

lemma settled_of_eq (h : Single d) (heq : d' = d) : Settled caller d d' := by
  subst heq
  refine ⟨h, fun k c c' hc hc' hadvanced hback => ?_, fun j q q' hq hq' hexpired => ?_,
    fun j => Or.inl⟩
  · obtain rfl := Option.some.inj (hc.symm.trans hc')
    rw [hback] at hadvanced
    exact absurd hadvanced (by decide)
  · obtain rfl := Option.some.inj (hq.symm.trans hq')
    rw [hexpired]
    decide

/-- A quote expires. -/
def expire (q : Quote) : Quote := { q with status := .expired }

/-- The quotes that are accepted after one has expired. -/
lemma get?_of_expire {j : Id} {q : Quote}
    (h : (Db.quotes.modify quoteId expire d).quote.get? j = some q) (hq : q.status = .accepted) :
    d.quote.get? j = some q := by
  have hget : (d.quote.modify quoteId expire).get? j = some q := h
  rw [Table.get?_modify] at hget
  split_ifs at hget with hj
  · -- The quote that has expired is not accepted.
    obtain ⟨q₀, -, rfl⟩ := Option.map_eq_some_iff.mp hget
    cases hq
  · exact hget

lemma settled_expire (h : Single d) :
    Settled caller d (Db.quotes.modify quoteId expire d) := by
  have hcases : Settled caller d d := settled_of_eq h rfl
  refine ⟨?_, hcases.forward, ?_, ?_⟩
  · intro i j q q' hq hq' haccepted haccepted'
    exact h i j q q' (get?_of_expire hq haccepted) (get?_of_expire hq' haccepted') haccepted
      haccepted'
  · intro j q q' hq hq' hexpired haccepted
    obtain rfl := Option.some.inj (hq.symm.trans (get?_of_expire hq' haccepted))
    rw [hexpired] at haccepted
    cases haccepted
  · rintro j ⟨q, c, hq, haccepted, hc, hne⟩
    exact Or.inl ⟨q, c, get?_of_expire hq haccepted, haccepted, hc, hne⟩

/-- An administrator changes a case, or only reads it. -/
lemma settled_update {admin : Option Id} {u : CaseUpdate} (h : Single d)
    (hquote : d'.quote = d.quote)
    (hcase : d'.serviceCase = d.serviceCase ∨
      ∃ existing, d'.serviceCase = d.serviceCase.modify id (updateData existing u)) :
    Settled (some (.update admin id u)) d d' := by
  have hrow : ∀ k c', d'.serviceCase.get? k = some c' → ∃ c, d.serviceCase.get? k = some c ∧
      (c' = c ∨ k = id ∧ ∃ existing, c' = updateData existing u c) := by
    intro k c' hc'
    rcases hcase with heq | ⟨existing, heq⟩
    · exact ⟨c', heq ▸ hc', Or.inl rfl⟩
    · rw [heq, Table.get?_modify] at hc'
      split_ifs at hc' with hk
      · obtain ⟨c, hc, rfl⟩ := Option.map_eq_some_iff.mp hc'
        exact ⟨c, hc, Or.inr ⟨hk, existing, rfl⟩⟩
      · exact ⟨c', hc', Or.inl rfl⟩
  refine ⟨?_, ?_, ?_, ?_⟩
  · intro i j q q' hq hq'
    rw [hquote] at hq hq'
    exact h i j q q' hq hq'
  · intro k c c' hc hc' hadvanced hback
    obtain ⟨c₀, hc₀, rfl | ⟨rfl, -⟩⟩ := hrow k c' hc'
    · obtain rfl := Option.some.inj (hc.symm.trans hc₀)
      rw [hback] at hadvanced
      exact absurd hadvanced (by decide)
    · exact ⟨admin, u, rfl⟩
  · intro j q q' hq hq' hexpired
    rw [hquote] at hq'
    obtain rfl := Option.some.inj (hq.symm.trans hq')
    rw [hexpired]
    decide
  · rintro j ⟨q, c', hq, haccepted, hc', hne⟩
    obtain ⟨c, hc, rfl | ⟨hid, existing, rfl⟩⟩ := hrow _ c' hc'
    · exact Or.inl ⟨q, c', hquote ▸ hq, haccepted, hc, hne⟩
    · cases hamount : u.quoteAmount with
      | none =>
        -- The amount is left as it is.
        have hsame : (updateData existing u c).quoteAmount = c.quoteAmount := by
          show u.quoteAmount.getD c.quoteAmount = c.quoteAmount
          rw [hamount]
          rfl
        rw [hsame] at hne
        exact Or.inl ⟨q, c, hquote ▸ hq, haccepted, hc, hne⟩
      | some amount =>
        exact Or.inr ⟨admin, u, q, by rw [hid], hq, by rw [hamount]; rfl⟩

/-- What the transaction comes to, when both rows are there. -/
lemma exec_accept {q : Quote} {c : Case} (hq : d.quote.get? quoteId = some q)
    (hc : d.serviceCase.get? id = some c) :
    (accept id quoteId amount acceptedAt).exec d =
      Db.cases.modify id (awaitPayment amount)
        (Db.quotes.modify quoteId (accepted acceptedAt) d) := by
  have hcase : (Db.cases.get (Db.quotes.modify quoteId (accepted acceptedAt) d)).get? id = some c := hc
  rw [Prog.exec, accept, Client.run_transaction, Client.committed, Prog.run_bind,
    Client.run_update_of_some (r := Db.quotes) hq]
  dsimp only
  rw [Client.run_update_of_some hcase]

/-- **An acceptance** settles the case exactly when it is open. -/
lemma settled_accept_iff {q : Quote} {c : Case} {auth : Option Id} {r : AcceptRequest}
    (h : Single d) (hq : d.quote.get? quoteId = some q) (hid : q.caseId = id)
    (hamount : q.amount = amount) (hc : d.serviceCase.get? id = some c) :
    Settled (some (.accept auth id r)) d ((accept id quoteId amount acceptedAt).exec d) ↔
      Open id quoteId d := by
  rw [exec_accept hq hc]
  set d' := Db.cases.modify id (awaitPayment amount)
    (Db.quotes.modify quoteId (accepted acceptedAt) d) with hd'
  have hquotes : ∀ j, d'.quote.get? j =
      if j = quoteId then (d.quote.get? j).map (accepted acceptedAt) else d.quote.get? j :=
    d.quote.get?_modify quoteId _
  have hcases : ∀ k, d'.serviceCase.get? k =
      if k = id then (d.serviceCase.get? k).map (awaitPayment amount) else d.serviceCase.get? k :=
    d.serviceCase.get?_modify id _
  have hnew : d'.quote.get? quoteId = some (accepted acceptedAt q) := by
    rw [hquotes, if_pos rfl, hq, Option.map_some]
  have hcase : d'.serviceCase.get? id = some (awaitPayment amount c) := by
    rw [hcases, if_pos rfl, hc, Option.map_some]
  have hother : ∀ j q', j ≠ quoteId → d'.quote.get? j = some q' → d.quote.get? j = some q' := by
    intro j q' hj hq'
    rwa [hquotes, if_neg hj] at hq'
  constructor
  · intro hsettled
    refine ⟨fun j q' hq' hid' haccepted => ?_, fun c' hc' hadvanced => ?_, fun q' hq' hexpired => ?_⟩
    · by_contra hj
      have hkept : d'.quote.get? j = some q' := by rw [hquotes, if_neg hj, hq']
      exact hj (hsettled.single j quoteId q' _ hkept hnew haccepted rfl (hid'.trans hid.symm))
    · obtain rfl := Option.some.inj (hc.symm.trans hc')
      obtain ⟨admin, u, hcaller⟩ := hsettled.forward id c _ hc hcase hadvanced rfl
      cases hcaller
    · exact hsettled.expired quoteId q' _ hq' hnew hexpired rfl
  · intro hopen
    -- Of the quotes of the case, the new one is the only one that is accepted.
    have halone : ∀ j q', d'.quote.get? j = some q' → q'.status = .accepted → q'.caseId = id →
        j = quoteId := by
      intro j q' hq' haccepted hid'
      by_contra hj
      exact hj (hopen.alone j q' (hother j q' hj hq') hid' haccepted)
    refine ⟨?_, ?_, ?_, ?_⟩
    · intro i j q₁ q₂ h₁ h₂ haccepted₁ haccepted₂ hsame
      by_cases hcaseId : q₁.caseId = id
      · rw [halone i q₁ h₁ haccepted₁ hcaseId,
          halone j q₂ h₂ haccepted₂ (hsame.symm.trans hcaseId)]
      · have hi : i ≠ quoteId := by
          rintro rfl
          obtain rfl := Option.some.inj (hnew.symm.trans h₁)
          exact hcaseId hid
        have hj : j ≠ quoteId := by
          rintro rfl
          obtain rfl := Option.some.inj (hnew.symm.trans h₂)
          exact hcaseId (hsame.trans hid)
        exact h i j q₁ q₂ (hother i q₁ hi h₁) (hother j q₂ hj h₂) haccepted₁ haccepted₂ hsame
    · intro k c₁ c' hc₁ hc' hadvanced hback
      by_cases hk : k = id
      · subst hk
        exact absurd hadvanced (hopen.early c₁ hc₁)
      · rw [hcases, if_neg hk] at hc'
        obtain rfl := Option.some.inj (hc₁.symm.trans hc')
        rw [hback] at hadvanced
        exact absurd hadvanced (by decide)
    · intro j q₁ q' hq₁ hq' hexpired haccepted
      by_cases hj : j = quoteId
      · subst hj
        exact hopen.live q₁ hq₁ hexpired
      · obtain rfl := Option.some.inj (hq₁.symm.trans (hother j q' hj hq'))
        rw [hexpired] at haccepted
        cases haccepted
    · rintro j ⟨q', c', hq', haccepted, hc', hne⟩
      refine Or.inl ?_
      by_cases hid' : q'.caseId = id
      · -- The case has the amount of its accepted quote.
        obtain rfl := halone j q' hq' haccepted hid'
        obtain rfl := Option.some.inj (hnew.symm.trans hq')
        rw [hid', hcase, Option.some.injEq] at hc'
        subst hc'
        exact absurd hamount.symm hne
      · have hj : j ≠ quoteId := by
          rintro rfl
          obtain rfl := Option.some.inj (hnew.symm.trans hq')
          exact hid' hid
        rw [hcases, if_neg hid'] at hc'
        exact ⟨q', c', hother j q' hj hq', haccepted, hc', hne⟩

end Writes

/-! ## How far a call has come -/

inductive Stage
  | start
  /-- The case is there, and the quote is read next. -/
  | owned
  | expiring (quoteId : Id)
  | accepting (quoteId : Id) (amount : ℤ)
  | ended
  /-- A call of an administrator. -/
  | updating
deriving DecidableEq, Repr

namespace Stage

/-- What a customer's call is about to do, by the quote that it reads. -/
def decided (id : Id) (r : AcceptRequest) (d : Db) : Stage :=
  match r.quoteId with
  | none => ended
  | some quoteId =>
      match d.quote.get? quoteId with
      | none => ended
      | some quote =>
          if quote.caseId ≠ id then ended
          else if quote.status ≠ .pending then ended
          else if quote.expiresAt.any fun expiresAt => r.now > expiresAt then expiring quoteId
          else accepting quoteId quote.amount

/-- The stage that an action leads to. -/
def next (c : Call) (stage : Stage) (d : Db) : Stage :=
  match c, stage with
  | .accept _ id _, start => if (d.serviceCase.get? id).isSome then owned else ended
  | .accept _ id r, owned => decided id r d
  | .accept _ _ _, _ => ended
  | .update _ _ _, _ => updating

/-- What an action may do. -/
def allows (c : Call) (stage : Stage) (l : Access Model) (d d' : Db) : Prop :=
  match c, stage with
  | .accept _ id r, accepting quoteId amount =>
      l = .transaction ∧ d' = (accept id quoteId amount r.acceptedAt).exec d
  | .accept _ _ _, expiring quoteId =>
      l ≠ .transaction ∧ d' = Db.quotes.modify quoteId expire d
  | .accept _ _ _, _ => l ≠ .transaction ∧ d' = d
  | .update _ id u, _ =>
      d'.quote = d.quote ∧ (d'.serviceCase = d.serviceCase ∨
        ∃ existing, d'.serviceCase = d.serviceCase.modify id (updateData existing u))

end Stage

def protocol (c : Call) : Protocol Db (Access Model) Stage where
  relies _ := True
  init := match c with
    | .accept _ _ _ => .start
    | .update _ _ _ => .updating
  next stage _ := Stage.next c stage
  allows := Stage.allows c
  final _ := True

/-- The result of a call does not matter. -/
def Any {α : Type} (_ : Stage) (_ : Except Failure α) : Prop := True

section Leads

variable {α : Type} {auth admin : Option Id} {id : Id} {r : AcceptRequest} {u : CaseUpdate}

/-- The quote has been read. -/
lemma leads_settle {quoteId : Id} {quote : Quote} {d : Db} (hr : r.quoteId = some quoteId)
    (hquote : d.quote.get? quoteId = some quote) :
    (protocol (.accept auth id r)).Leads Any (Stage.decided id r d)
      (settle id quoteId quote r) := by
  simp only [Stage.decided, hr, hquote, settle]
  by_cases hcase : quote.caseId ≠ id
  · rw [if_pos hcase, if_pos hcase]
    exact .ret trivial trivial
  rw [if_neg hcase, if_neg hcase]
  by_cases hpending : quote.status ≠ .pending
  · rw [if_pos hpending, if_pos hpending]
    exact .ret trivial trivial
  rw [if_neg hpending, if_neg hpending]
  split
  · refine Protocol.Leads.atom_bind fun d _ => ⟨⟨by decide, rfl⟩, ?_⟩
    split
    · exact .ret trivial trivial
    · exact .fail trivial trivial
  · refine Protocol.Leads.atom_bind fun d _ => ⟨⟨rfl, ?_⟩, ?_⟩
    · rw [Prog.exec, accept, Client.run_transaction]
    · split
      · exact .ret trivial trivial
      · exact .fail trivial trivial

lemma leads_process :
    (protocol (.accept auth id r)).Leads Any .start (process auth id r) := by
  unfold process
  split
  · exact .ret trivial trivial
  · exact .ret trivial trivial
  · rename_i customerId quoteId hr
    split
    · exact .ret trivial trivial
    refine Protocol.Leads.atom_bind fun d _ => ⟨⟨by decide, rfl⟩, ?_⟩
    change (protocol (.accept _ id r)).Leads Any
      (if (d.serviceCase.get? id).isSome then .owned else .ended) _
    have hsame : (Db.cases.get d).get? id = d.serviceCase.get? id := rfl
    simp only [hsame]
    cases hcase : d.serviceCase.get? id with
    | none => exact .ret trivial trivial
    | some caseData =>
      rw [Option.isSome_some, if_pos rfl]
      change (protocol (.accept _ id r)).Leads Any .owned (ite _ _ _)
      split
      · exact .ret trivial trivial
      refine Protocol.Leads.atom_bind fun d _ => ⟨⟨by decide, rfl⟩, ?_⟩
      change (protocol (.accept _ id r)).Leads Any (Stage.decided id r d) _
      have hsame' : (Db.quotes.get d).get? quoteId = d.quote.get? quoteId := rfl
      simp only [hsame']
      cases hquote : d.quote.get? quoteId with
      | none => exact .ret trivial trivial
      | some quote => exact leads_settle hr hquote

lemma leads_update :
    (protocol (.update admin id u)).Leads Any .updating (update admin id u) := by
  unfold update
  cases admin with
  | none => exact .ret trivial trivial
  | some adminId =>
    refine Protocol.Leads.atom_bind fun d _ => ⟨⟨rfl, Or.inl rfl⟩, ?_⟩
    have hsame : (Db.cases.get d).get? id = d.serviceCase.get? id := rfl
    simp only [hsame]
    cases d.serviceCase.get? id with
    | none => exact .ret trivial trivial
    | some existing =>
      refine Protocol.Leads.atom_bind fun d _ => ⟨⟨rfl, Or.inr ⟨existing, rfl⟩⟩, ?_⟩
      split
      · refine Protocol.Leads.atom_bind fun d _ => ⟨⟨rfl, Or.inl rfl⟩, ?_⟩
        exact .ret trivial trivial
      · exact .fail trivial trivial

/-- **What a call does at each stage.** -/
lemma leads_code (c : Call) : (protocol c).Leads Any (protocol c).init (code c) := by
  cases c with
  | accept auth id r =>
    refine Protocol.Leads.bind (S := Any) ?_ (fun _ _ _ => trivial) fun _ _ _ => .ret trivial trivial
    exact Protocol.Leads.tryCatch_pure (S := Any) leads_process (fun _ _ _ => trivial)
      fun _ _ _ => trivial
  | update admin id u =>
    refine Protocol.Leads.bind (S := Any) ?_ (fun _ _ _ => trivial) fun _ _ _ => .ret trivial trivial
    exact Protocol.Leads.tryCatch_pure (S := Any) leads_update (fun _ _ _ => trivial)
      fun _ _ _ => trivial

end Leads

/-! ## Many calls -/

abbrev Calls := Pool Db (Access Model) Failure Unit Call

def stageOf (t : Thread Db (Access Model) Failure Unit Call) : Stage :=
  (protocol t.call).phase t.done

/-- The call that takes a step. -/
def caller (p : Calls) : Event Call → Option Call
  | .start _ => none
  | .sched i => (p.threads[i]?).map Thread.call

/-- When the transaction of an acceptance comes, the case is open. -/
def Timely (p : Calls) : Event Call → Prop
  | .start _ => True
  | .sched i => ∀ t ∈ p.threads[i]?, ∀ auth id r, t.call = .accept auth id r →
      t.rest.next? = some .transaction → ∀ quoteId ∈ r.quoteId, Open id quoteId p.shared

/-- What a call knows: the case that it has read is there, and so is the quote, which belongs to
the case and has the amount that has been read. -/
def Knows (c : Call) (stage : Stage) (d : Db) : Prop :=
  match c, stage with
  | .accept _ id _, .owned => ∃ c, d.serviceCase.get? id = some c
  | .accept _ id r, .accepting quoteId amount =>
      r.quoteId = some quoteId ∧ (∃ c, d.serviceCase.get? id = some c) ∧
        ∃ q, d.quote.get? quoteId = some q ∧ q.caseId = id ∧ q.amount = amount
  | _, _ => True

/-- Cases stay where they are, and quotes do with what they are about. -/
structure Keeps (d d' : Db) : Prop where
  cases : ∀ k c, d.serviceCase.get? k = some c → ∃ c', d'.serviceCase.get? k = some c'
  quotes : ∀ j q, d.quote.get? j = some q →
    ∃ q', d'.quote.get? j = some q' ∧ q'.caseId = q.caseId ∧ q'.amount = q.amount

lemma Keeps.refl (d : Db) : Keeps d d :=
  ⟨fun _ c hc => ⟨c, hc⟩, fun _ q hq => ⟨q, hq, rfl, rfl⟩⟩

lemma Keeps.trans {d₁ d₂ d₃ : Db} (h : Keeps d₁ d₂) (h' : Keeps d₂ d₃) : Keeps d₁ d₃ := by
  refine ⟨fun k c hc => ?_, fun j q hq => ?_⟩
  · obtain ⟨c', hc'⟩ := h.cases k c hc
    exact h'.cases k c' hc'
  · obtain ⟨q', hq', hid, hamount⟩ := h.quotes j q hq
    obtain ⟨q'', hq'', hid', hamount'⟩ := h'.quotes j q' hq'
    exact ⟨q'', hq'', hid'.trans hid, hamount'.trans hamount⟩

lemma keeps_modify_cases (id : Id) (f : Case → Case) {d d' : Db} (hquote : d'.quote = d.quote)
    (hcase : d'.serviceCase = d.serviceCase.modify id f) : Keeps d d' := by
  refine ⟨fun k c hc => ?_, fun j q hq => ⟨q, hquote ▸ hq, rfl, rfl⟩⟩
  rw [hcase, Table.get?_modify, hc]
  split_ifs
  · exact ⟨f c, rfl⟩
  · exact ⟨c, rfl⟩

lemma keeps_modify_quotes (quoteId : Id) {f : Quote → Quote}
    (hf : ∀ q, (f q).caseId = q.caseId ∧ (f q).amount = q.amount) (d : Db) :
    Keeps d (Db.quotes.modify quoteId f d) := by
  refine ⟨fun k c hc => ⟨c, hc⟩, fun j q hq => ?_⟩
  have hget := d.quote.get?_modify quoteId f j
  rw [hq] at hget
  by_cases hj : j = quoteId
  · rw [if_pos hj] at hget
    exact ⟨f q, hget, hf q⟩
  · rw [if_neg hj] at hget
    exact ⟨q, hget, rfl, rfl⟩

lemma Knows.mono {c : Call} {stage : Stage} {d d' : Db} (hkeeps : Keeps d d')
    (h : Knows c stage d) : Knows c stage d' := by
  cases c with
  | update admin id u => trivial
  | accept auth id r =>
    cases stage with
    | owned =>
      obtain ⟨c, hc⟩ := h
      exact hkeeps.cases id c hc
    | accepting quoteId amount =>
      obtain ⟨hr, ⟨c, hc⟩, q, hq, hid, hamount⟩ := h
      obtain ⟨q', hq', hid', hamount'⟩ := hkeeps.quotes quoteId q hq
      exact ⟨hr, hkeeps.cases id c hc, q', hq', hid'.trans hid, hamount'.trans hamount⟩
    | start | expiring | ended | updating => trivial

/-- What a call learns from what it reads. -/
lemma Knows.next {c : Call} {stage : Stage} {d : Db} (h : Knows c stage d) :
    Knows c (Stage.next c stage d) d := by
  cases c with
  | update admin id u => trivial
  | accept auth id r =>
    cases stage with
    | start =>
      rw [Stage.next]
      split
      · rename_i hcase
        exact Option.isSome_iff_exists.mp hcase
      · trivial
    | owned =>
      rw [Stage.next, Stage.decided]
      split
      · trivial
      · rename_i quoteId hr
        split
        · trivial
        · rename_i quote hquote
          by_cases hcase : quote.caseId ≠ id
          · rw [if_pos hcase]
            trivial
          rw [if_neg hcase]
          by_cases hpending : quote.status ≠ .pending
          · rw [if_pos hpending]
            trivial
          rw [if_neg hpending]
          split
          · trivial
          · exact ⟨hr, h, quote, hquote, not_not.mp hcase, rfl⟩
    | expiring | accepting | ended | updating => trivial

/-- What an action does to what the calls know. -/
lemma Stage.allows.keeps {c : Call} {stage : Stage} {l : Access Model} {d d' : Db}
    (h : Stage.allows c stage l d d') (hknows : Knows c stage d) : Keeps d d' := by
  cases c with
  | update admin id u =>
    obtain ⟨hquote, heq | ⟨existing, heq⟩⟩ := h
    · exact ⟨fun k c hc => ⟨c, heq ▸ hc⟩, fun j q hq => ⟨q, hquote ▸ hq, rfl, rfl⟩⟩
    · exact keeps_modify_cases id _ hquote heq
  | accept auth id r =>
    cases stage with
    | expiring quoteId =>
      rw [h.2]
      exact keeps_modify_quotes quoteId (f := expire) (fun _ => ⟨rfl, rfl⟩) d
    | accepting quoteId amount =>
      obtain ⟨-, ⟨c, hc⟩, q, hq, -, -⟩ := hknows
      rw [h.2, exec_accept hq hc]
      exact (keeps_modify_quotes quoteId (f := accepted r.acceptedAt) (fun _ => ⟨rfl, rfl⟩) d).trans
        (keeps_modify_cases id _ rfl rfl)
    | start | owned | ended | updating =>
      rw [h.2]
      exact Keeps.refl d

/-- The invariant: the calls are as far as they know. -/
structure Sound (p : Calls) : Prop where
  tracked : p.Tracked protocol
  knows : ∀ t ∈ p.threads, Knows t.call (stageOf t) p.shared
  single : Single p.shared

/-- **One step** leaves the quotes settled exactly when it is timely. -/
lemma settled_step_iff {p : Calls} (h : Sound p) (e : Event Call) :
    Settled (caller p e) p.shared (p.step code e).shared ↔ Timely p e := by
  rcases h.tracked.step code (fun _ => trivial) e with ⟨i, rfl, hfinished, hstep⟩ |
    ⟨c, rfl, hstep⟩ | ⟨i, t, l, w, k, rfl, ht, hrest, hallows, hstep⟩ <;> rw [hstep]
  · refine iff_of_true (settled_of_eq h.single rfl) fun t ht auth id r _ hnext => ?_
    rw [hfinished t ht] at hnext
    cases hnext
  · exact iff_of_true (settled_of_eq h.single rfl) trivial
  · have hknows : Knows t.call (stageOf t) p.shared := h.knows t (List.mem_of_getElem? ht)
    have hstage : Stage.allows t.call (stageOf t) l p.shared (w p.shared) := hallows
    have hcaller : caller p (.sched i) = some t.call := by rw [caller, ht, Option.map_some]
    have htimely : Timely p (.sched i) ↔ ∀ auth id r, t.call = .accept auth id r →
        l = .transaction → ∀ quoteId ∈ r.quoteId, Open id quoteId p.shared := by
      simp only [Timely, ht, Option.mem_def, Option.some.injEq, forall_eq', hrest, Prog.next?]
    rw [htimely, hcaller]
    show Settled _ p.shared (w p.shared) ↔ _
    cases hc : t.call with
    | update admin id u =>
      rw [hc] at hstage
      refine iff_of_true (settled_update h.single hstage.1 hstage.2) fun auth id' r heq => ?_
      cases heq
    | accept auth id r =>
      rw [hc] at hstage hknows
      cases hphase : stageOf t with
      | accepting quoteId amount =>
        rw [hphase] at hstage hknows
        obtain ⟨hr, ⟨c, hcase⟩, q, hq, hid, hamount⟩ := hknows
        rw [hstage.2, settled_accept_iff h.single hq hid hamount hcase]
        constructor
        · intro hopen auth' id' r' heq _ quoteId' hr'
          obtain ⟨-, rfl, rfl⟩ := Call.accept.inj heq
          obtain rfl := Option.some.inj (hr.symm.trans hr')
          exact hopen
        · intro hall
          exact hall auth id r rfl hstage.1 quoteId hr
      | expiring quoteId =>
        rw [hphase] at hstage
        rw [hstage.2]
        exact iff_of_true (settled_expire h.single) fun _ _ _ _ hl => absurd hl hstage.1
      | start | owned | ended | updating =>
        rw [hphase] at hstage
        rw [hstage.2]
        exact iff_of_true (settled_of_eq h.single rfl) fun _ _ _ _ hl => absurd hl hstage.1

lemma Sound.step {p : Calls} (h : Sound p) {e : Event Call}
    (hsettled : Settled (caller p e) p.shared (p.step code e).shared) : Sound (p.step code e) := by
  refine ⟨h.tracked.preserved code (fun c => (leads_code c).1) (fun _ => trivial) e, ?_,
    hsettled.single⟩
  rcases h.tracked.step code (fun _ => trivial) e with ⟨i, rfl, -, hstep⟩ |
    ⟨c, rfl, hstep⟩ | ⟨i, t, l, w, k, rfl, ht, hrest, hallows, hstep⟩ <;> rw [hstep]
  · exact h.knows
  · intro t ht
    rcases List.mem_append.mp ht with ht | ht
    · exact h.knows t ht
    · -- A call that starts knows nothing yet.
      rw [List.mem_singleton.mp ht]
      cases c <;> trivial
  · have hknows : Knows t.call (stageOf t) p.shared := h.knows t (List.mem_of_getElem? ht)
    have hkeeps : Keeps p.shared (w p.shared) := Stage.allows.keeps hallows hknows
    intro u hu
    rcases List.mem_or_eq_of_mem_set hu with hu | rfl
    · exact (h.knows u hu).mono hkeeps
    · refine Knows.mono hkeeps ?_
      rw [stageOf, Protocol.phase_concat]
      exact hknows.next

/-- **The quotes stay settled** in the interleavings in which the acceptances are timely, and in no
others. -/
theorem settled_iff {d : Db} (h : Single d) (es : List (Event Call)) :
    AllSteps (Pool.step code)
        (fun p e => Settled (caller p e) p.shared (p.step code e).shared) (Pool.idle d) es ↔
      AllSteps (Pool.step code) Timely (Pool.idle d) es :=
  allSteps_congr (I := Sound) (fun _ _ h hsettled => h.step hsettled)
    (fun _ e h => settled_step_iff h e)
    ⟨Pool.tracked_idle protocol d, fun _ ht => absurd ht List.not_mem_nil, h⟩ es

/-- A case with two quotes, the first of which expires at the time 5. -/
def twoQuotes (status : CaseStatus) : Db where
  serviceCase := Table.empty.insert { customerId := 7, status }
  quote := (Table.empty.insert { caseId := 0, amount := 100, expiresAt := some 5 }).insert
    { caseId := 0, amount := 200 }

/-- The customer accepts a quote. -/
def acceptQuote (quoteId : Id) (now : Time) : Call :=
  .accept (some 7) 0 { quoteId := some quoteId, action := some "accept", now, acceptedAt := now }

lemma pending_of_twoQuotes {status : CaseStatus} {j : Id} {q : Quote}
    (h : (twoQuotes status).quote.get? j = some q) : q.status = .pending := by
  rcases Table.get?_insert_cases h with h | ⟨-, rfl⟩
  · rcases Table.get?_insert_cases h with h | ⟨-, rfl⟩
    · cases h
    · rfl
  · rfl

/-- The first quote is accepted. -/
theorem settled_accepted : AllSteps (Pool.step code)
    (fun p e => Settled (caller p e) p.shared (p.step code e).shared) (Pool.idle (twoQuotes .quoted))
    [.start (acceptQuote 0 1), .sched 0, .sched 0, .sched 0] := by
  have hpending : ∀ j q, (twoQuotes .quoted).quote.get? j = some q → q.status ≠ .accepted := by
    intro j q hq
    rw [pending_of_twoQuotes hq]
    decide
  have hsingle : Single (twoQuotes .quoted) := fun i j q q' hq _ haccepted =>
    absurd haccepted (hpending i q hq)
  refine (settled_iff hsingle _).mpr ⟨trivial, ?_, ?_, ?_, trivial⟩
  · intro t ht auth id r hcall hnext
    obtain rfl := Option.some.inj ht
    cases hnext
  · intro t ht auth id r hcall hnext
    obtain rfl := Option.some.inj ht
    cases hnext
  · intro t ht auth id r hcall hnext quoteId hr
    obtain rfl := Option.some.inj ht
    obtain ⟨-, rfl, rfl⟩ := Call.accept.inj hcall
    obtain rfl := Option.some.inj hr
    refine ⟨fun j q hq _ haccepted => absurd haccepted (hpending j q hq), ?_, ?_⟩
    · rintro c hc
      obtain rfl := Option.some.inj hc
      decide
    · rintro q hq
      obtain rfl := Option.some.inj hq
      decide

/-- Two quotes of a case are accepted one after the other; a quote of a case in progress is accepted;
and a quote is accepted that another request has found expired in between. -/
theorem not_settled :
    ¬ AllSteps (Pool.step code)
      (fun p e => Settled (caller p e) p.shared (p.step code e).shared) (Pool.idle (twoQuotes .quoted))
      ([.start (acceptQuote 0 1), .sched 0, .sched 0, .sched 0, .start (acceptQuote 1 2), .sched 1,
        .sched 1] ++ [.sched 1]) ∧
    ¬ AllSteps (Pool.step code)
      (fun p e => Settled (caller p e) p.shared (p.step code e).shared)
      (Pool.idle (twoQuotes .inProgress))
      ([.start (acceptQuote 0 1), .sched 0, .sched 0] ++ [.sched 0]) ∧
    ¬ AllSteps (Pool.step code)
      (fun p e => Settled (caller p e) p.shared (p.step code e).shared) (Pool.idle (twoQuotes .quoted))
      ([.start (acceptQuote 0 5), .sched 0, .sched 0, .start (acceptQuote 0 6), .sched 1, .sched 1,
        .sched 1] ++ [.sched 0]) := by
  refine ⟨fun hrun => ?_, fun hrun => ?_, fun hrun => ?_⟩
  · have hlast := (AllSteps.append_iff.mp hrun).2.1
    exact absurd (hlast.single 0 1 _ _ rfl rfl rfl rfl rfl) (by decide)
  · have hlast := (AllSteps.append_iff.mp hrun).2.1
    obtain ⟨admin, u, hcaller⟩ := hlast.forward 0 _ _ rfl rfl (by decide) rfl
    cases hcaller
  · have hlast := (AllSteps.append_iff.mp hrun).2.1
    exact hlast.expired 0 _ _ rfl rfl rfl rfl

end CaseQuotes

end Asoju.FieldForce
