/-
What is priced: a confirmed scope, which was the latest one when it was priced.

Four operations read the latest version of the scope of a case and act on it, and versions keep
being added.  Versions are numbered as they come, so the latest one is the one with the highest
number; only the latest one is ever changed, and only by being confirmed once.  What is said of a
confirmed version and of a quote is about the moment it was made, and no later step disturbs it.
-/
import Asoju.Lib.Run
import Asoju.Scopes

namespace Asoju

open Lib

/-! ## The latest version -/

/-- The first of the rows with the highest version. -/
private def best (init : Option (Id × CaseScope)) (l : List (Id × CaseScope)) :
    Option (Id × CaseScope) :=
  l.foldl (fun best p => match best with
    | some b => if b.2.version < p.2.version then some p else some b
    | none => some p) init

private lemma best_some (l : List (Id × CaseScope)) (init : Id × CaseScope) :
    ∃ b, best (some init) l = some b ∧ (b = init ∨ b ∈ l) ∧ init.2.version ≤ b.2.version ∧
      ∀ p ∈ l, p.2.version ≤ b.2.version := by
  induction l generalizing init with
  | nil => exact ⟨init, rfl, Or.inl rfl, le_rfl, by simp⟩
  | cons p l ih =>
    by_cases hlt : init.2.version < p.2.version
    · obtain ⟨b, hb, hmem, hle, hall⟩ := ih p
      refine ⟨b, ?_, ?_, hlt.le.trans hle, ?_⟩
      · rw [← hb]
        simp [best, hlt]
      · rcases hmem with rfl | hmem
        · exact Or.inr (List.mem_cons_self ..)
        · exact Or.inr (List.mem_cons_of_mem _ hmem)
      · rintro q hq
        rcases List.mem_cons.mp hq with rfl | hq
        · exact hle
        · exact hall q hq
    · obtain ⟨b, hb, hmem, hle, hall⟩ := ih init
      refine ⟨b, ?_, ?_, hle, ?_⟩
      · rw [← hb]
        simp [best, hlt]
      · rcases hmem with rfl | hmem
        · exact Or.inl rfl
        · exact Or.inr (List.mem_cons_of_mem _ hmem)
      · rintro q hq
        rcases List.mem_cons.mp hq with rfl | hq
        · exact (not_lt.mp hlt).trans hle
        · exact hall q hq

namespace Db

variable {d : Db} {caseId i j : Id} {x : CaseScope}

/-- The scope is the one with the highest version of its case. -/
structure Highest (d : Db) (i : Id) (x : CaseScope) : Prop where
  found : d.caseScope.get? i = some x
  le : ∀ y ∈ d.caseScope.values, y.caseId = x.caseId → y.version ≤ x.version

lemma latestScope_eq_best : d.latestScope caseId =
    best none (d.caseScope.rows.filter fun p => p.2.caseId = caseId) := rfl

lemma highest_of_latestScope (h : d.latestScope caseId = some (i, x)) :
    d.Highest i x ∧ x.caseId = caseId := by
  rw [latestScope_eq_best] at h
  cases hl : d.caseScope.rows.filter fun p => p.2.caseId = caseId with
  | nil =>
    rw [hl] at h
    cases h
  | cons p l =>
    obtain ⟨b, hb, hmem, hle, hall⟩ := best_some l p
    rw [hl] at h
    obtain rfl : b = (i, x) := Option.some.inj (hb.symm.trans h)
    have hrow : (i, x) ∈ d.caseScope.rows.filter fun p => p.2.caseId = caseId := by
      rw [hl]
      exact List.mem_cons.mpr hmem
    obtain ⟨hrow, hcase⟩ := List.mem_filter.mp hrow
    refine ⟨⟨d.caseScope.mem_rows_iff.mp hrow, fun y hy hyc => ?_⟩, of_decide_eq_true hcase⟩
    obtain ⟨⟨k, y⟩, hq, rfl⟩ := List.mem_map.mp hy
    have hq' : (k, y) ∈ p :: l := by
      rw [← hl]
      exact List.mem_filter.mpr ⟨hq, decide_eq_true (hyc.trans (of_decide_eq_true hcase))⟩
    rcases List.mem_cons.mp hq' with rfl | hq'
    · exact hle
    · exact hall _ hq'

lemma no_scope_of_latestScope (h : d.latestScope caseId = none) :
    ∀ y ∈ d.caseScope.values, y.caseId ≠ caseId := by
  rw [latestScope_eq_best] at h
  intro y hy hyc
  obtain ⟨p, hp, rfl⟩ := List.mem_map.mp hy
  have hmem : p ∈ d.caseScope.rows.filter fun p => p.2.caseId = caseId :=
    List.mem_filter.mpr ⟨hp, decide_eq_true hyc⟩
  cases hl : d.caseScope.rows.filter fun p => p.2.caseId = caseId with
  | nil =>
    rw [hl] at hmem
    cases hmem
  | cons q l =>
    obtain ⟨b, hb, -⟩ := best_some l q
    rw [hl] at h
    exact Option.some_ne_none b (hb.symm.trans h)

/-! ## The numbers of the versions -/

/-- The versions of the case, in the order of their creation. -/
def versionsOf (d : Db) (caseId : Id) : List ℕ :=
  ((d.caseScope.values.map fun s => (s.caseId, s.version)).filter fun p => p.1 = caseId).map
    Prod.snd

/-- The versions are the numbers from one on. -/
def Numbered (d : Db) : Prop := ∀ caseId, ∃ n, d.versionsOf caseId = List.range' 1 n

lemma mem_versionsOf {n : ℕ} : n ∈ d.versionsOf caseId ↔
    ∃ y ∈ d.caseScope.values, y.caseId = caseId ∧ y.version = n := by
  simp [versionsOf]

/-- The number of the latest version is how many there are. -/
lemma latestVersion_eq {n : ℕ} (h : d.versionsOf caseId = List.range' 1 n) :
    ((d.latestScope caseId).map fun p => p.2.version).getD 0 = n := by
  cases hlatest : d.latestScope caseId with
  | none =>
    have hempty : d.versionsOf caseId = [] := by
      refine List.eq_nil_iff_forall_not_mem.mpr fun k hk => ?_
      obtain ⟨y, hy, hyc, -⟩ := mem_versionsOf.mp hk
      exact no_scope_of_latestScope hlatest y hy hyc
    rw [hempty] at h
    have hlength := congrArg List.length h
    simpa using hlength
  | some p =>
    obtain ⟨i, x⟩ := p
    obtain ⟨⟨hfound, hle⟩, hcase⟩ := highest_of_latestScope hlatest
    have hx : x ∈ d.caseScope.values := d.caseScope.mem_values_iff.mpr ⟨i, hfound⟩
    have hmem : x.version ∈ List.range' 1 n := h ▸ mem_versionsOf.mpr ⟨x, hx, hcase, rfl⟩
    have hbounds := List.mem_range'_1.mp hmem
    -- the number `n` is taken by some version, which is not above the latest one
    have hn : n ∈ d.versionsOf caseId := by
      rw [h, List.mem_range'_1]
      omega
    obtain ⟨y, hy, hyc, hyn⟩ := mem_versionsOf.mp hn
    have hyle := hle y hy (hyc.trans hcase.symm)
    show x.version = n
    omega

lemma Numbered.congr {d' : Db} (h : d.Numbered) (hscopes : d'.caseScope = d.caseScope) :
    d'.Numbered := by
  intro caseId
  rw [versionsOf, hscopes]
  exact h caseId

/-- The next version has the next number. -/
lemma Numbered.insert {d' : Db} (h : d.Numbered) {row : CaseScope}
    (hscopes : d'.caseScope = d.caseScope.insert row)
    (hversion : row.version =
      ((d.latestScope row.caseId).map fun p => p.2.version).getD 0 + 1) : d'.Numbered := by
  intro caseId
  obtain ⟨n, hn⟩ := h caseId
  by_cases hcase : row.caseId = caseId
  · have hlatest : row.version = n + 1 := by
      rw [hversion, hcase, latestVersion_eq hn]
    refine ⟨n + 1, ?_⟩
    rw [List.range'_1_concat, ← hn, Nat.add_comm 1 n, ← hlatest]
    simp [versionsOf, hscopes, hcase]
  · refine ⟨n, ?_⟩
    rw [← hn]
    simp [versionsOf, hscopes, hcase]

/-- A change of a version leaves its number alone. -/
lemma Numbered.modify {d' : Db} (h : d.Numbered) {f : CaseScope → CaseScope}
    (hscopes : d'.caseScope = d.caseScope.modify i f)
    (hf : ∀ s, ((f s).caseId, (f s).version) = (s.caseId, s.version)) : d'.Numbered := by
  intro caseId
  have hmap : (d.caseScope.modify i f).values.map (fun s => (s.caseId, s.version)) =
      d.caseScope.values.map fun s => (s.caseId, s.version) :=
    Table.map_values_modify d.caseScope i f _ fun s _ => hf s
  rw [versionsOf, hscopes, hmap]
  exact h caseId

end Db

/-! ## What one operation does -/

/-- An operation, by any user and about any case.  The status of a case may be changed by others in
between. -/
inductive PricingOp
  | createOrRevise (actor : AuthenticatedUser) (caseId : Id) (dto : CreateScopeDto)
  | confirm (actor : AuthenticatedUser) (caseId : Id)
  | createQuote (actor : AuthenticatedUser) (caseId : Id) (dto : CommerceService.CreateQuoteDto)
  | autoQuoteIfEligible (caseId : Id)
  | transitionCase (actor : AuthenticatedUser) (caseId : Id) (toStatus : CaseStatus)
      (reason : Option String)

namespace PricingOp

variable (env : Env) (toLowerCase : String → String)

/-- The operation, run alone to its end. -/
def step (d : Db) : PricingOp → Db
  | createOrRevise actor i dto => (ScopeService.createOrRevise toLowerCase actor i dto).exec d
  | confirm actor i => (ScopeService.confirm actor i).exec d
  | createQuote actor i dto => (CommerceService.createQuote env actor i dto).exec d
  | autoQuoteIfEligible i => (CommerceService.autoQuoteIfEligible env i).exec d
  | transitionCase actor i s r => (CasesService.transitionCase actor i s r).exec d

/-- The operation is the confirmation of the scope by the customer of the case, at the time `t`. -/
def Confirms (i : Id) (x : CaseScope) (d : Db) (o : PricingOp) : Prop :=
  ∃ actor c y, o = .confirm actor x.caseId ∧ d.serviceCase.get? x.caseId = some c ∧
    ScopeService.isCaseOwner d actor c = true ∧ d.Highest i y ∧ y.confirmedAt = none ∧
    x = { y with confirmedById := some actor.id, confirmedAt := some d.clock }

/-- The operation writes the quote, for a scope that is the latest one and confirmed. -/
def Quotes (k : Id) (q : Quote) (d : Db) (o : PricingOp) : Prop :=
  d.quote.get? k = none ∧ (step env toLowerCase d o).quote.get? k = some q ∧
    ∃ i x, q.scopeId = some i ∧ d.Highest i x ∧ x.caseId = q.caseId ∧ x.confirmedAt.isSome = true

/-- What an operation can do to the scopes and the quotes. -/
inductive Does (d : Db) (o : PricingOp) (d' : Db) : Prop
  | nothing (scopes : d'.caseScope = d.caseScope) (quotes : d'.quote = d.quote)
  | revises (row : CaseScope) (scopes : d'.caseScope = d.caseScope.insert row)
      (quotes : d'.quote = d.quote) (unconfirmed : row.confirmedAt = none)
      (version : row.version =
        ((d.latestScope row.caseId).map fun p => p.2.version).getD 0 + 1)
  | confirms (actor : AuthenticatedUser) (c : ServiceCase) (i : Id) (x : CaseScope)
      (op : o = .confirm actor x.caseId) (found : d.serviceCase.get? x.caseId = some c)
      (owner : ScopeService.isCaseOwner d actor c = true) (latest : d.Highest i x)
      (unconfirmed : x.confirmedAt = none)
      (scopes : d'.caseScope = d.caseScope.modify i fun s =>
        { s with confirmedById := some actor.id, confirmedAt := some d.clock })
      (quotes : d'.quote = d.quote)
  | quotes (row : Quote) (i : Id) (x : CaseScope) (latest : d.Highest i x)
      (ofCase : x.caseId = row.caseId) (scope : row.scopeId = some i)
      (confirmed : x.confirmedAt.isSome = true) (scopes : d'.caseScope = d.caseScope)
      (quotes : d'.quote = d.quote.insert row)

variable {env toLowerCase}

/-- **The inversion of a step.** -/
theorem step_does (d : Db) (o : PricingOp) : Does d o (step env toLowerCase d o) := by
  cases o with
  | createOrRevise actor i dto =>
    rcases ScopeService.createOrRevise_exec toLowerCase actor i dto d with heq | ⟨c, -, heq⟩
    · rw [step, heq]
      exact .nothing rfl rfl
    · rw [step, heq]
      exact .revises _ rfl rfl rfl rfl
  | confirm actor i =>
    rcases ScopeService.confirm_exec actor i d with
      heq | ⟨c, scopeId, scope, hc, howner, hlatest, hnone, heq⟩
    · rw [step, heq]
      exact .nothing rfl rfl
    · obtain ⟨hhighest, rfl⟩ := Db.highest_of_latestScope hlatest
      rw [step, heq]
      exact .confirms actor c scopeId scope rfl hc howner hhighest hnone rfl rfl
  | createQuote actor i dto =>
    rcases CommerceService.createQuote_run env actor i dto d with
      ⟨e, he⟩ | ⟨c, scopeId, scope, benefit, -, -, hlatest, hconfirmed, -, hrun⟩
    · rw [step, Prog.exec, he]
      exact .nothing rfl rfl
    · obtain ⟨hhighest, hcase⟩ := Db.highest_of_latestScope hlatest
      rw [step, Prog.exec, hrun]
      exact .quotes _ scopeId scope hhighest hcase rfl hconfirmed rfl rfl
  | autoQuoteIfEligible i =>
    rcases CommerceService.autoQuoteIfEligible_exec env i d with
      heq | ⟨c, scopeId, scope, pricing, -, -, -, hlatest, hconfirmed, -, heq⟩
    · rw [step, heq]
      exact .nothing rfl rfl
    · obtain ⟨hhighest, hcase⟩ := Db.highest_of_latestScope hlatest
      rw [step, heq]
      exact .quotes _ scopeId scope hhighest hcase rfl hconfirmed rfl rfl
  | transitionCase actor i s r =>
    rcases CasesService.applyTransition_exec d i s r (some actor.id) with
      heq | ⟨c, -, -, heq⟩
    · rw [step, CasesService.transitionCase, heq]
      exact .nothing rfl rfl
    · rw [step, CasesService.transitionCase, heq]
      exact .nothing rfl rfl

/-! ## What it keeps, and where things come from -/

variable {d d' : Db} {o : PricingOp} {i j k : Id} {x : CaseScope} {q : Quote}

lemma Does.numbered (h : Does d o d') (hd : d.Numbered) : d'.Numbered := by
  cases h with
  | nothing scopes quotes => exact hd.congr scopes
  | revises row scopes quotes unconfirmed version => exact hd.insert scopes version
  | confirms actor c i x op found owner latest unconfirmed scopes quotes =>
    exact hd.modify scopes fun s => rfl
  | quotes row i x latest ofCase scope confirmed scopes quotes => exact hd.congr scopes

/-- A confirmed version does not change. -/
lemma Does.settled (h : Does d o d') (hx : d.caseScope.get? j = some x)
    (hconfirmed : x.confirmedAt.isSome = true) : d'.caseScope.get? j = some x := by
  cases h with
  | nothing scopes quotes => rw [scopes, hx]
  | revises row scopes quotes unconfirmed version =>
    rw [scopes]
    exact Table.get?_insert_of_some hx row
  | confirms actor c i y op found owner latest unconfirmed scopes quotes =>
    -- the version that is confirmed now was not confirmed before
    have hne : j ≠ i := by
      rintro rfl
      obtain rfl : x = y := Option.some.inj (hx.symm.trans latest.found)
      rw [unconfirmed] at hconfirmed
      cases hconfirmed
    rw [scopes, Table.get?_modify_of_ne _ hne, hx]
  | quotes row i y latest ofCase scope confirmed scopes quotes => rw [scopes, hx]

/-- A version becomes confirmed by its confirmation. -/
lemma Does.confirmed (h : Does d o d') (hconfirmed : x.confirmedAt.isSome = true)
    (hx : d'.caseScope.get? j = some x) :
    d.caseScope.get? j = some x ∨ Confirms j x d o := by
  cases h with
  | nothing scopes quotes => exact Or.inl (scopes ▸ hx)
  | revises row scopes quotes unconfirmed version =>
    rw [scopes] at hx
    rcases Table.get?_insert_cases hx with hx | ⟨-, rfl⟩
    · exact Or.inl hx
    · rw [unconfirmed] at hconfirmed
      cases hconfirmed
  | confirms actor c i y op found owner latest unconfirmed scopes quotes =>
    rw [scopes] at hx
    by_cases hj : j = i
    · subst hj
      rw [Table.get?_modify_self, latest.found] at hx
      obtain rfl := Option.some.inj hx
      exact Or.inr ⟨actor, c, y, op, found, owner, latest, unconfirmed, rfl⟩
    · rw [Table.get?_modify_of_ne _ hj] at hx
      exact Or.inl hx
  | quotes row i y latest ofCase scope confirmed scopes quotes => exact Or.inl (scopes ▸ hx)

/-- A quote is there because it has been issued. -/
lemma Does.quoted (h : Does d o (step env toLowerCase d o))
    (hq : (step env toLowerCase d o).quote.get? k = some q) :
    d.quote.get? k = some q ∨ Quotes env toLowerCase k q d o := by
  cases h with
  | nothing scopes quotes => exact Or.inl (quotes ▸ hq)
  | revises row scopes quotes unconfirmed version => exact Or.inl (quotes ▸ hq)
  | confirms actor c i y op found owner latest unconfirmed scopes quotes =>
    exact Or.inl (quotes ▸ hq)
  | quotes row i y latest ofCase scope confirmed scopes quotes =>
    have hnew := hq
    rw [quotes] at hnew
    rcases Table.get?_insert_cases hnew with hold | ⟨rfl, rfl⟩
    · exact Or.inl hold
    · exact Or.inr ⟨Table.get?_next _, hq, i, y, scope, latest, ofCase, confirmed⟩

end PricingOp

/-! ## Every run -/

/-- What is priced after a run: the versions of a case are numbered from one on; a confirmed version
never changes again and was confirmed by the customer of the case when it was the latest one; and
every quote was issued for a version that was then the latest one, and confirmed. -/
structure ScopesPriced (env : Env) (toLowerCase : String → String) (d : Db)
    (os : List PricingOp) : Prop where
  numbered : (runFrom (PricingOp.step env toLowerCase) d os).Numbered
  settled : ∀ i x, (runFrom (PricingOp.step env toLowerCase) d os).caseScope.get? i = some x →
    x.confirmedAt.isSome = true → ∀ os',
      (runFrom (PricingOp.step env toLowerCase) d (os ++ os')).caseScope.get? i = some x
  confirmed : ∀ i x, (runFrom (PricingOp.step env toLowerCase) d os).caseScope.get? i = some x →
    x.confirmedAt.isSome = true → Did (PricingOp.step env toLowerCase) (PricingOp.Confirms i x) d os
  quoted : ∀ k q, (runFrom (PricingOp.step env toLowerCase) d os).quote.get? k = some q →
    Did (PricingOp.step env toLowerCase) (PricingOp.Quotes env toLowerCase k q) d os

/-- **Only a confirmed, current scope is ever priced**, in every run from a database without scopes
and quotes. -/
theorem scopes_priced (env : Env) (toLowerCase : String → String) (d : Db)
    (hscopes : d.caseScope.rows = []) (hquotes : d.quote.rows = []) (os : List PricingOp) :
    ScopesPriced env toLowerCase d os := by
  have hdoes : ∀ s o, PricingOp.Does s o (PricingOp.step env toLowerCase s o) :=
    fun s o => PricingOp.step_does s o
  have htrue : ∀ s o, True → (fun _ : Db => True) (PricingOp.step env toLowerCase s o) :=
    fun _ _ h => h
  refine ⟨?_, fun i x hx hconfirmed os' => ?_, fun i x hx hconfirmed => ?_, fun k q hq => ?_⟩
  · have hstart : d.Numbered := fun caseId => ⟨0, by simp [Db.versionsOf, Table.values, hscopes]⟩
    exact (invariant (fun s o h => (hdoes s o).numbered h) hstart os).last
  · have hkept := invariant (I := fun s : Db => s.caseScope.get? i = some x)
      (fun s o h => (hdoes s o).settled h hconfirmed) hx os'
    rw [runFrom_append]
    exact hkept.last
  · have hinit : ¬ d.caseScope.get? i = some x := by simp [Table.get?, hscopes]
    exact did_of_record htrue (fun s o _ h => (hdoes s o).confirmed hconfirmed h) trivial hinit hx
  · have hinit : ¬ d.quote.get? k = some q := by simp [Table.get?, hquotes]
    exact did_of_record htrue (fun s o _ h => (hdoes s o).quoted h) trivial hinit hq

/-- A case under review, with its customer. -/
def reviewDb : Db where
  customer := Table.empty.insert { userId := 7 }
  serviceCase := Table.empty.insert
    { customerId := 0, serviceType := .propertyInspection, description := "Inspect the house",
      location := "Ikeja, Lagos", status := .underReview }

/-- A scope is confirmed and quoted, and revised afterwards. -/
def revisedAfterQuote : List PricingOp :=
  [.createOrRevise ⟨1, .caseManager⟩ 0 { objective := "Inspection", tasks := ["Visit"] },
   .confirm ⟨7, .customer⟩ 0,
   .createQuote ⟨1, .caseManager⟩ 0 { lines := [⟨.asojuServiceFee, "Inspection", 50000⟩] },
   .createOrRevise ⟨1, .caseManager⟩ 0 { objective := "Inspection", tasks := ["Visit", "Report"] }]

theorem scopes_priced_revised : ScopesPriced {} id reviewDb revisedAfterQuote :=
  scopes_priced {} id reviewDb rfl rfl revisedAfterQuote

example : (runFrom (PricingOp.step {} id) reviewDb revisedAfterQuote).versionsOf 0 = [1, 2] ∧
    (runFrom (PricingOp.step {} id) reviewDb revisedAfterQuote).quote.values.map Quote.scopeId =
      [some 0] := by decide +kernel

end Asoju
