/-
The precedence of the automatic decisions.

A blocked keyword is to come first, whatever else is the matter with the request and whether the
service type is open to automation or not; then the switch of the service type, and then what is
missing (`documentedOutcome`).  The evaluator looks at the switch before it looks at any rule, and
in a rule it sees only the first keyword that occurs, which counts as none if it is the empty text.
`evaluate_precedence_iff` says that these two are the only differences, and that the order of the
rules makes none.
-/
import Asoju.Automation

namespace Asoju.Automation

variable (toLowerCase : String → String) (request : EvaluableRequest)

/-- The keyword occurs in what the customer has written, in whatever case. -/
def occurs (keyword : String) : Bool :=
  let objective := request.objective.getD ""
  includes (toLowerCase s!"{request.rawDescription} {objective}") (toLowerCase keyword)

/-- Some keyword of a rule for blocked keywords occurs. -/
def Blocked (rules : List AutomationRule) : Prop :=
  ∃ rule ∈ rules, rule.kind = .blockedKeywords ∧
    ∃ keyword ∈ rule.config, occurs toLowerCase request keyword = true

/-- Some field that a rule requires is blank. -/
def Incomplete (rules : List AutomationRule) : Prop :=
  ∃ rule ∈ rules, rule.kind = .requiredFields ∧
    ∃ field ∈ rule.config, isBlank (fieldAccessors field request) = true

instance decidableBlocked (rules : List AutomationRule) :
    Decidable (Blocked toLowerCase request rules) :=
  inferInstanceAs (Decidable (∃ rule ∈ rules, _ ∧ ∃ keyword ∈ rule.config, _))

instance decidableIncomplete (rules : List AutomationRule) :
    Decidable (Incomplete request rules) :=
  inferInstanceAs (Decidable (∃ rule ∈ rules, _ ∧ ∃ field ∈ rule.config, _))

/-- The outcome by the documented precedence. -/
def documentedOutcome (capability : EvaluableCapability) : AutomationDecisionOutcome :=
  if Blocked toLowerCase request capability.rules then .blocked
  else if capability.enabled = false then .escalate
  else if Incomplete request capability.rules then .customerInput
  else .auto

/-- In some rule the first keyword that occurs is not the empty one. -/
def Noticed (rules : List AutomationRule) : Prop :=
  ∃ rule ∈ rules, rule.kind = .blockedKeywords ∧
    ∃ keyword, rule.config.find? (occurs toLowerCase request) = some keyword ∧ keyword ≠ ""

variable {toLowerCase request}

lemma Noticed.blocked {rules : List AutomationRule} (h : Noticed toLowerCase request rules) :
    Blocked toLowerCase request rules := by
  obtain ⟨rule, hrule, hkind, keyword, hfind, -⟩ := h
  exact ⟨rule, hrule, hkind, keyword, List.mem_of_find?_eq_some hfind, List.find?_some hfind⟩

/-! ### A rule -/

lemma kind_evaluateRule (rule : AutomationRule) :
    (evaluateRule toLowerCase request rule).kind = rule.kind := by
  rw [evaluateRule]
  split_ifs with h
  · exact h.symm
  · cases hkind : rule.kind with
    | requiredFields => rfl
    | blockedKeywords => exact absurd hkind h

/-- A rule for blocked keywords fails on the first keyword that occurs, if that has any text. -/
lemma fails_blockedKeywords_iff {rule : AutomationRule} (h : rule.kind = .blockedKeywords) :
    (evaluateRule toLowerCase request rule).passed = false ↔
      ∃ keyword, rule.config.find? (occurs toLowerCase request) = some keyword ∧
        keyword ≠ "" := by
  have hpassed : (evaluateRule toLowerCase request rule).passed =
      ((rule.config.find? (occurs toLowerCase request)).filter (· ≠ "")).isNone := by
    rw [evaluateRule, if_pos h]
    rfl
  rw [hpassed, Option.isNone_eq_false_iff, Option.isSome_iff_exists]
  simp only [Option.filter_eq_some_iff, decide_eq_true_eq]

/-- A rule for required fields fails on a blank one. -/
lemma fails_requiredFields_iff {rule : AutomationRule} (h : rule.kind = .requiredFields) :
    (evaluateRule toLowerCase request rule).passed = false ↔
      ∃ field ∈ rule.config, isBlank (fieldAccessors field request) = true := by
  have hpassed : (evaluateRule toLowerCase request rule).passed =
      (rule.config.filter fun f => isBlank (fieldAccessors f request)).isEmpty := by
    rw [evaluateRule, if_neg (by simp [h])]
    rfl
  rw [hpassed, Bool.eq_false_iff, ne_eq, List.isEmpty_iff, List.filter_eq_nil_iff]
  push Not
  rfl

variable (toLowerCase) (request) in
/-- A result of a kind that has not passed is that of a rule of this kind. -/
lemma find?_results_isSome_iff (rules : List AutomationRule) (kind : AutomationRuleKind) :
    ((rules.map (evaluateRule toLowerCase request)).find? fun r =>
        r.kind = kind ∧ ¬ r.passed).isSome ↔
      ∃ rule ∈ rules, rule.kind = kind ∧
        (evaluateRule toLowerCase request rule).passed = false := by
  rw [List.find?_isSome]
  constructor
  · rintro ⟨result, hresult, hfails⟩
    obtain ⟨rule, hrule, rfl⟩ := List.mem_map.mp hresult
    rw [decide_eq_true_eq, kind_evaluateRule, Bool.not_eq_true] at hfails
    exact ⟨rule, hrule, hfails⟩
  · rintro ⟨rule, hrule, hkind, hfails⟩
    refine ⟨_, List.mem_map_of_mem hrule, ?_⟩
    rw [decide_eq_true_eq, kind_evaluateRule, Bool.not_eq_true]
    exact ⟨hkind, hfails⟩

/-! ### All the rules -/

variable {serviceType : ServiceType} {capability : EvaluableCapability}

variable (toLowerCase) (capability) in
lemma outcome_of_disabled (hservice : request.serviceType = some serviceType)
    (h : capability.enabled = false) :
    (evaluate toLowerCase request (some capability)).outcome = .escalate := by
  unfold evaluate
  rw [hservice]
  dsimp only
  rw [if_pos h]

variable (toLowerCase) (capability) in
/-- What is decided where the service type is open to automation. -/
lemma outcome_of_enabled (hservice : request.serviceType = some serviceType)
    (h : capability.enabled = true) :
    ((evaluate toLowerCase request (some capability)).outcome = .blocked ∧
        Noticed toLowerCase request capability.rules) ∨
      ¬ Noticed toLowerCase request capability.rules ∧
        (evaluate toLowerCase request (some capability)).outcome =
          if Incomplete request capability.rules then .customerInput else .auto := by
  have hblocked := find?_results_isSome_iff toLowerCase request capability.rules
    .blockedKeywords
  have hmissing := find?_results_isSome_iff toLowerCase request capability.rules
    .requiredFields
  have hnoticed : (∃ rule ∈ capability.rules, rule.kind = .blockedKeywords ∧
      (evaluateRule toLowerCase request rule).passed = false) ↔
        Noticed toLowerCase request capability.rules :=
    exists_congr fun rule => and_congr_right fun _ => and_congr_right fails_blockedKeywords_iff
  have hincomplete : (∃ rule ∈ capability.rules, rule.kind = .requiredFields ∧
      (evaluateRule toLowerCase request rule).passed = false) ↔
        Incomplete request capability.rules :=
    exists_congr fun rule => and_congr_right fun _ => and_congr_right fails_requiredFields_iff
  rw [hnoticed] at hblocked
  rw [hincomplete] at hmissing
  unfold evaluate
  rw [hservice]
  dsimp only
  rw [if_neg (by simp [h])]
  split
  · -- a rule for blocked keywords has failed
    rename_i blocked hfind
    rw [hfind] at hblocked
    exact Or.inl ⟨rfl, hblocked.mp rfl⟩
  · rename_i hfind
    rw [hfind] at hblocked
    refine Or.inr ⟨fun hn => by simpa using hblocked.mpr hn, ?_⟩
    split
    · rename_i missing hfind'
      rw [hfind'] at hmissing
      rw [if_pos (hmissing.mp rfl)]
    · rename_i hfind'
      rw [hfind'] at hmissing
      rw [if_neg fun hi => by simpa using hmissing.mpr hi]

lemma noticed_congr {rules rules' : List AutomationRule} (h : rules'.Perm rules) :
    Noticed toLowerCase request rules' ↔ Noticed toLowerCase request rules :=
  exists_congr fun _ => and_congr_left fun _ => h.mem_iff

lemma incomplete_congr {rules rules' : List AutomationRule} (h : rules'.Perm rules) :
    Incomplete request rules' ↔ Incomplete request rules :=
  exists_congr fun _ => and_congr_left fun _ => h.mem_iff

/-- The order of the rules makes no difference. -/
lemma outcome_perm (hservice : request.serviceType = some serviceType)
    {rules : List AutomationRule} (h : rules.Perm capability.rules) :
    (evaluate toLowerCase request (some { capability with rules })).outcome =
      (evaluate toLowerCase request (some capability)).outcome := by
  by_cases henabled : capability.enabled = true
  · have h' := outcome_of_enabled toLowerCase { capability with rules } hservice henabled
    rw [noticed_congr h] at h'
    simp only [incomplete_congr h] at h'
    rcases h' with ⟨hout', hn⟩ | ⟨hn, hout'⟩ <;>
      rcases outcome_of_enabled toLowerCase capability hservice henabled with
        ⟨hout, hn'⟩ | ⟨hn', hout⟩
    · rw [hout', hout]
    · exact absurd hn hn'
    · exact absurd hn' hn
    · rw [hout', hout]
  · rw [Bool.not_eq_true] at henabled
    have hdisabled := outcome_of_disabled toLowerCase { capability with rules } hservice henabled
    rw [hdisabled, outcome_of_disabled toLowerCase capability hservice henabled]

/-- **The precedence of the decisions.**  The outcome is the documented one, and the same for every
order of the rules, exactly if no blocked keyword occurs, or the service type is open to automation
and in some rule the first keyword that occurs is not the empty one. -/
theorem evaluate_precedence_iff (toLowerCase : String → String) (request : EvaluableRequest)
    (serviceType : ServiceType) (hservice : request.serviceType = some serviceType)
    (capability : EvaluableCapability) :
    ((evaluate toLowerCase request (some capability)).outcome =
          documentedOutcome toLowerCase request capability ∧
        ∀ rules : List AutomationRule, rules.Perm capability.rules →
          (evaluate toLowerCase request (some { capability with rules })).outcome =
            (evaluate toLowerCase request (some capability)).outcome) ↔
      ¬ Blocked toLowerCase request capability.rules ∨
        (capability.enabled = true ∧ Noticed toLowerCase request capability.rules) := by
  rw [and_iff_left fun _ hperm => outcome_perm hservice hperm, documentedOutcome]
  by_cases hblocked : Blocked toLowerCase request capability.rules
  · rw [if_pos hblocked, or_iff_right (not_not.mpr hblocked)]
    cases henabled : capability.enabled with
    | false =>
      rw [outcome_of_disabled toLowerCase capability hservice henabled]
      simp
    | true =>
      rcases outcome_of_enabled toLowerCase capability hservice henabled with
        ⟨hout, hn⟩ | ⟨hn, hout⟩
      · exact iff_of_true hout ⟨rfl, hn⟩
      · refine iff_of_false ?_ fun h => hn h.2
        rw [hout]
        split_ifs <;> simp
  · rw [if_neg hblocked]
    refine iff_of_true ?_ (Or.inl hblocked)
    cases henabled : capability.enabled with
    | false => rw [outcome_of_disabled toLowerCase capability hservice henabled, if_pos rfl]
    | true =>
      rcases outcome_of_enabled toLowerCase capability hservice henabled with
        ⟨-, hn⟩ | ⟨-, hout⟩
      · exact absurd hn.blocked hblocked
      · rw [hout, if_neg Bool.true_eq_false.mp]

/-- A request with a blocked keyword, for a service type that is closed to automation. -/
def weaponRequest : EvaluableRequest :=
  ⟨some .procurement, some "Buy a Weapon", none, none, "Please procure this for me"⟩

def weaponRules : List AutomationRule :=
  [⟨0, .requiredFields, ["location"], 0⟩, ⟨1, .blockedKeywords, ["weapon"], 1⟩]

theorem evaluate_precedence_weapon :
    (evaluate String.toLower weaponRequest (some ⟨true, weaponRules⟩)).outcome =
        documentedOutcome String.toLower weaponRequest ⟨true, weaponRules⟩ ∧
      ∀ rules : List AutomationRule, rules.Perm weaponRules →
        (evaluate String.toLower weaponRequest (some ⟨true, rules⟩)).outcome =
          (evaluate String.toLower weaponRequest (some ⟨true, weaponRules⟩)).outcome := by
  refine (evaluate_precedence_iff String.toLower weaponRequest .procurement rfl
    ⟨true, weaponRules⟩).mpr (Or.inr ⟨rfl, ⟨1, .blockedKeywords, ["weapon"], 1⟩, ?_, rfl,
      "weapon", ?_, by decide⟩)
  · simp [weaponRules]
  · decide +kernel

/-- The switch is looked at before the keywords. -/
theorem evaluate_precedence_disabled :
    ¬ (evaluate String.toLower weaponRequest (some ⟨false, weaponRules⟩)).outcome =
        documentedOutcome String.toLower weaponRequest ⟨false, weaponRules⟩ := by
  decide +kernel

end Asoju.Automation
