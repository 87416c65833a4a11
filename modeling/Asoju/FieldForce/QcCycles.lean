/-
The cycles of quality control.

Each submission opens a review of the mission, with the next number, and the mission counts its
reviews.  The state of the mission, the review and the count are separate writes, and a command of
an administrator opens a review of its own, which nobody counts, if the mission has none.
`wellFormed_iff` says which calls keep the cycles well formed: those that are not cut off between
the writes of an entry or of a decision, and commands on missions that have a review.
-/
import Asoju.FieldForce.MissionCuts
import Asoju.Lib.Numbered

namespace Asoju.FieldForce

open Lib

namespace QcCycles

open Completion QualityControl

/-! ## The reviews of a mission -/

/-- The reviews of a mission, in the order of their creation. -/
def reviewsOf (missionId : Id) (t : Table QcReview) : List (Id × QcReview) :=
  t.rows.filter fun p => p.2.missionId = missionId

/-- The cycles of a mission are well formed. -/
structure WellFormed (missionId : Id) (m : Mission) (t : Table QcReview) : Prop where
  /-- The reviews have the numbers from 1 on. -/
  numbers : ((reviewsOf missionId t).map fun p => p.2.cycleNumber).Perm
    (List.range' 1 (reviewsOf missionId t).length)
  counted : m.qcReviewCount = (reviewsOf missionId t).length
  /-- Each review but the last one is decided. -/
  decided : ∀ p ∈ reviewsOf missionId t, lastReview missionId t ≠ some p →
    p.2.state = .approved ∨ p.2.state = .rejected
  /-- A mission in QC_REVIEW has a last review that can be decided. -/
  undecided : m.workflowState = .qcReview →
    ∃ p ∈ lastReview missionId t, p.2.state = .pending ∨ p.2.state = .inReview

def AllWellFormed (x : Site) : Prop :=
  ∀ missionId m, x.missions.get? missionId = some m → WellFormed missionId m x.reviews

/-- APPROVED or REJECTED. -/
def Decided (p : Id × QcReview) : Prop := p.2.state = .approved ∨ p.2.state = .rejected

lemma not_decided_iff {p : Id × QcReview} :
    ¬ Decided p ↔ p.2.state = .pending ∨ p.2.state = .inReview := by
  rw [Decided]
  cases p.2.state <;> simp

/-- What is behind it: the reviews are in the order of their numbers, and the last one is open just
while the mission is in QC_REVIEW. -/
structure Regular (m : Mission) (rs : List (Id × QcReview)) : Prop where
  numbers : Numbered (fun p => p.2.cycleNumber) rs
  counted : m.qcReviewCount = rs.length
  decided : ∀ p ∈ rs.dropLast, Decided p
  undecided_iff : (∃ p ∈ rs.getLast?, ¬ Decided p) ↔ m.workflowState = .qcReview

def AllRegular (x : Site) : Prop :=
  ∀ missionId m, x.missions.get? missionId = some m → Regular m (reviewsOf missionId x.reviews)

namespace Regular

variable {m m' : Mission} {rs : List (Id × QcReview)} {p p' : Id × QcReview}

lemma lastReview_eq {missionId : Id} {t : Table QcReview}
    (h : Regular m (reviewsOf missionId t)) :
    lastReview missionId t = (reviewsOf missionId t).getLast? := h.numbers.argmax

lemma nextCycle_eq {missionId : Id} {t : Table QcReview} (h : Regular m (reviewsOf missionId t)) :
    nextCycle (lastReview missionId t) = (reviewsOf missionId t).length + 1 := by
  rw [nextCycle, h.lastReview_eq]
  exact h.numbers.getLast?_succ

lemma wellFormed {missionId : Id} {t : Table QcReview} (h : Regular m (reviewsOf missionId t)) :
    WellFormed missionId m t := by
  refine ⟨h.numbers.perm, h.counted, fun p hp hne => ?_, fun hstate => ?_⟩
  · rw [h.lastReview_eq] at hne
    refine h.decided p ?_
    rcases List.eq_nil_or_concat (reviewsOf missionId t) with hnil | ⟨l, q, hconcat⟩
    · rw [hnil] at hp
      cases hp
    · rw [List.concat_eq_append] at hconcat
      rw [hconcat, List.getLast?_concat] at hne
      rw [hconcat] at hp ⊢
      rw [List.dropLast_concat]
      rcases List.mem_append.mp hp with hp | hp
      · exact hp
      · exact absurd (congrArg some (List.mem_singleton.mp hp)).symm hne
  · obtain ⟨p, hp, hopen⟩ := h.undecided_iff.mpr hstate
    rw [h.lastReview_eq]
    exact ⟨p, hp, not_decided_iff.mp hopen⟩

/-- A mission whose last review is decided, or which has none, is not in QC_REVIEW; then all its
reviews are decided. -/
lemma all_decided (h : Regular m rs) (hstate : m.workflowState ≠ .qcReview) :
    ∀ p ∈ rs, Decided p := by
  intro p hp
  rcases List.eq_nil_or_concat rs with rfl | ⟨l, q, rfl⟩
  · cases hp
  rw [List.concat_eq_append] at h hp
  rcases List.mem_append.mp hp with hp | hp
  · exact h.decided p (by rwa [List.dropLast_concat])
  · obtain rfl := List.mem_singleton.mp hp
    by_contra hopen
    exact hstate (h.undecided_iff.mp ⟨p, by simp, hopen⟩)

/-- A change of the mission that leaves its count, and whether it is in QC_REVIEW. -/
lemma congr (h : Regular m rs) (hcount : m'.qcReviewCount = m.qcReviewCount)
    (hstate : m'.workflowState = .qcReview ↔ m.workflowState = .qcReview) : Regular m' rs :=
  ⟨h.numbers, hcount.trans h.counted, h.decided, h.undecided_iff.trans hstate.symm⟩

/-- The next review, of a mission that enters QC_REVIEW. -/
lemma append (h : Regular m rs) (hne : m.workflowState ≠ .qcReview)
    (hnumber : p.2.cycleNumber = rs.length + 1) (hopen : ¬ Decided p)
    (hcount : m'.qcReviewCount = rs.length + 1) (hstate : m'.workflowState = .qcReview) :
    Regular m' (rs ++ [p]) := by
  refine ⟨Numbered.concat_iff.mpr ⟨h.numbers, hnumber⟩, by simpa using hcount, ?_, ?_⟩
  · rw [List.dropLast_concat]
    exact h.all_decided hne
  · exact iff_of_true ⟨p, by simp, hopen⟩ hstate

/-- A change of the last review, with the mission. -/
lemma replace (h : Regular m (rs ++ [p])) (hnumber : p'.2.cycleNumber = p.2.cycleNumber)
    (hcount : m'.qcReviewCount = m.qcReviewCount)
    (hopen : ¬ Decided p' ↔ m'.workflowState = .qcReview) : Regular m' (rs ++ [p']) := by
  refine ⟨h.numbers.replace hnumber, ?_, ?_, ?_⟩
  · rw [hcount, h.counted, List.length_append, List.length_append]
    rfl
  · have hdecided := h.decided
    rwa [List.dropLast_concat] at hdecided ⊢
  · rw [← hopen]
    simp

end Regular

/-! ## The reviews after a write -/

section Writes

variable {i j : Id} {t : Table QcReview}

lemma mem_reviewsOf {p : Id × QcReview} :
    p ∈ reviewsOf i t ↔ t.get? p.1 = some p.2 ∧ p.2.missionId = i := by
  rw [reviewsOf, List.mem_filter, Table.mem_rows_iff, decide_eq_true_eq]

lemma reviewsOf_insert_self {r : QcReview} (h : r.missionId = i) :
    reviewsOf i (t.insert r) = reviewsOf i t ++ [(t.next, r)] := by
  rw [reviewsOf, Table.rows_insert, List.filter_append, List.filter_singleton]
  simp [h, reviewsOf]

lemma reviewsOf_insert_of_ne {r : QcReview} (h : r.missionId ≠ i) :
    reviewsOf i (t.insert r) = reviewsOf i t := by
  rw [reviewsOf, Table.rows_insert, List.filter_append, List.filter_singleton]
  simp [h, reviewsOf]

variable {k : Id} {f : QcReview → QcReview} (hf : ∀ r, (f r).missionId = r.missionId)

include hf

lemma reviewsOf_modify : reviewsOf i (t.modify k f) =
    (reviewsOf i t).map fun p => (p.1, if p.1 = k then f p.2 else p.2) := by
  rw [reviewsOf, reviewsOf, Table.modify, Table.mapRows, List.filter_map]
  congr 2
  funext p
  simp only [Function.comp_apply]
  split
  · rw [hf]
  · rfl

/-- A change of a review of another mission. -/
lemma reviewsOf_modify_of_ne {r : QcReview} (hget : t.get? k = some r) (hne : r.missionId ≠ i) :
    reviewsOf i (t.modify k f) = reviewsOf i t := by
  rw [reviewsOf_modify hf]
  refine (List.map_congr_left fun p hp => ?_).trans (List.map_id _)
  obtain ⟨hp, hmission⟩ := mem_reviewsOf.mp hp
  have hk : p.1 ≠ k := by
    intro hk
    rw [hk] at hp
    exact hne (by rw [← hmission, Option.some.inj (hp.symm.trans hget)])
  rw [if_neg hk]
  rfl

/-- A change of the last review of a mission. -/
lemma reviewsOf_modify_last {l : List (Id × QcReview)} {r : QcReview}
    (hlast : reviewsOf i t = l ++ [(k, r)]) : reviewsOf i (t.modify k f) = l ++ [(k, f r)] := by
  have hnodup : ((reviewsOf i t).map Prod.fst).Nodup :=
    t.nodup.sublist ((List.filter_sublist).map _)
  rw [hlast, List.map_append, List.nodup_append] at hnodup
  rw [reviewsOf_modify hf, hlast, List.map_append, List.map_singleton, if_pos rfl]
  refine congrArg (· ++ _) ((List.map_congr_left fun p hp => ?_).trans (List.map_id _))
  have hk : p.1 ≠ k := hnodup.2.2 p.1 (List.mem_map_of_mem hp) k (by simp)
  rw [if_neg hk]
  rfl

lemma length_reviewsOf_modify :
    (reviewsOf i (t.modify k f)).length = (reviewsOf i t).length := by
  rw [reviewsOf_modify hf, List.length_map]

end Writes

/-- A write to a mission and to its reviews has to see to that mission. -/
lemma AllRegular.write {x y : Site} (h : AllRegular x) {i : Id} {m : Mission}
    (hget : x.missions.get? i = some m) {f : Mission → Mission}
    (hmissions : y.missions = x.missions.modify i f)
    (hother : ∀ j ≠ i, reviewsOf j y.reviews = reviewsOf j x.reviews)
    (hself : Regular (f m) (reviewsOf i y.reviews)) : AllRegular y := by
  intro j n hn
  rw [hmissions, Table.get?_modify] at hn
  split_ifs at hn with hj
  · subst hj
    rw [hget] at hn
    obtain rfl := Option.some.inj hn
    exact hself
  · rw [hother j hj]
    exact h j n hn

/-! ## The entry into the review -/

section Enter

variable {x : Site} {i : Id} {m : Mission}

lemma AllRegular.changeMission (h : AllRegular x) (hget : x.missions.get? i = some m)
    {f : Mission → Mission} (hcount : (f m).qcReviewCount = m.qcReviewCount)
    (hstate : (f m).workflowState = .qcReview ↔ m.workflowState = .qcReview) :
    AllRegular (x.changeMission i f) :=
  h.write hget rfl (fun _ _ => rfl) ((h i m hget).congr hcount hstate)

/-- The reviews with the one that an entry opens. -/
lemma reviewsOf_entered (x : Site) (i : Id) :
    reviewsOf i (x.reviews.insert
      { missionId := i, cycleNumber := nextCycle (lastReview i x.reviews), state := .pending }) =
        reviewsOf i x.reviews ++ [(x.reviews.next,
          { missionId := i, cycleNumber := nextCycle (lastReview i x.reviews)
            state := .pending })] :=
  reviewsOf_insert_self rfl

/-- The review that an entry opens is the next one. -/
lemma AllRegular.nextCycle_eq (h : AllRegular x) (hget : x.missions.get? i = some m) :
    nextCycle (lastReview i x.reviews) = (reviewsOf i x.reviews).length + 1 :=
  (h i m hget).nextCycle_eq

/-- An entry that has not begun, or that is complete. -/
lemma AllRegular.enteredAfter (h : AllRegular x) (hget : x.missions.get? i = some m)
    (hne : m.workflowState ≠ .qcReview) {n : ℕ} (hn : n = 0 ∨ 4 ≤ n) :
    AllRegular (enteredAfter i n x) := by
  have hcycle := h.nextCycle_eq hget
  rw [FieldForce.enteredAfter]
  rcases hn with rfl | hn
  · rw [if_pos rfl]
    exact h
  rw [if_neg (by omega), if_neg (by omega), if_neg (by omega)]
  refine h.write hget (x.missions.modify_modify i (fun m => { m with workflowState := .qcReview })
    fun m => { m with qcReviewCount := nextCycle (lastReview i x.reviews) }) (fun j hj => ?_) ?_
  · exact reviewsOf_insert_of_ne (Ne.symm hj)
  · refine (reviewsOf_entered x i).symm ▸ (h i m hget).append hne hcycle ?_ hcycle rfl
    rw [not_decided_iff]
    exact Or.inl rfl

/-- An entry that is cut off has left the mission in QC_REVIEW without a review, or with one that is
not counted. -/
lemma AllRegular.not_wellFormed_enteredAfter (h : AllRegular x) (hget : x.missions.get? i = some m)
    (hne : m.workflowState ≠ .qcReview) {n : ℕ} (hpos : 0 < n) (hn : n ≤ 3) :
    ¬ AllWellFormed (FieldForce.enteredAfter i n x) := by
  intro hafter
  have hregular := h i m hget
  rw [FieldForce.enteredAfter, if_neg (by omega)] at hafter
  have hrow : ∀ f : Mission → Mission, (x.missions.modify i f).get? i = some (f m) :=
    fun f => (Table.get?_modify_self _ _ _).trans (congrArg _ hget)
  by_cases htwo : n ≤ 2
  · rw [if_pos htwo] at hafter
    obtain ⟨p, hp, hopen⟩ := (hafter i _ (hrow _)).undecided rfl
    change p ∈ lastReview i x.reviews at hp
    rw [hregular.lastReview_eq] at hp
    exact not_decided_iff.mpr hopen
      (hregular.all_decided hne p (List.mem_of_getLast? hp))
  · rw [if_neg htwo, if_pos (by omega)] at hafter
    have hcounted := (hafter i _ (hrow _)).counted
    change m.qcReviewCount = (reviewsOf i (x.reviews.insert _)).length at hcounted
    rw [reviewsOf_entered, List.length_append, List.length_singleton, hregular.counted] at hcounted
    omega

end Enter

/-! ## A decision -/

section Decide

variable {x y : Site} {i k : Id} {m : Mission} {current : QcReview} {f : QcReview → QcReview}

/-- The last review of a mission, as the last of its reviews. -/
lemma AllRegular.exists_reviewsOf_eq (h : AllRegular x) (hget : x.missions.get? i = some m)
    (hlast : lastReview i x.reviews = some (k, current)) :
    ∃ l, reviewsOf i x.reviews = l ++ [(k, current)] := by
  rw [(h i m hget).lastReview_eq] at hlast
  exact List.getLast?_eq_some_iff.mp hlast

/-- A change of the last review, with its mission or without. -/
lemma AllRegular.changeLast (h : AllRegular x) (hget : x.missions.get? i = some m)
    (hlast : lastReview i x.reviews = some (k, current))
    (hmission : ∀ r, (f r).missionId = r.missionId)
    (hnumber : ∀ r, (f r).cycleNumber = r.cycleNumber) (hreviews : y.reviews = x.reviews.modify k f)
    {g : Mission → Mission} (hmissions : y.missions = x.missions.modify i g)
    (hcount : (g m).qcReviewCount = m.qcReviewCount)
    (hopen : ¬ Decided (k, f current) ↔ (g m).workflowState = .qcReview) : AllRegular y := by
  obtain ⟨l, hl⟩ := h.exists_reviewsOf_eq hget hlast
  obtain ⟨hrow, hof⟩ := missionId_of_lastReview hlast
  have hregular := h i m hget
  rw [hl] at hregular
  refine h.write hget hmissions (fun j hj => ?_) ?_
  · rw [hreviews]
    exact reviewsOf_modify_of_ne hmission hrow fun hj' => hj (hj'.symm.trans hof)
  · rw [hreviews, reviewsOf_modify_last hmission hl]
    exact hregular.replace (hnumber current) hcount hopen

/-- A decision that has not reached the mission leaves it in QC_REVIEW with nothing to decide. -/
lemma not_wellFormed_of_decided (hget : x.missions.get? i = some m)
    (hlast : lastReview i x.reviews = some (k, current))
    (hmission : ∀ r, (f r).missionId = r.missionId)
    (hnumber : ∀ r, (f r).cycleNumber = r.cycleNumber) (hreviews : y.reviews = x.reviews.modify k f)
    (hmissions : y.missions = x.missions) (hdecided : Decided (k, f current))
    (hstate : m.workflowState = .qcReview) : ¬ AllWellFormed y := by
  intro hy
  rw [← hmissions] at hget
  obtain ⟨p, hp, hopen⟩ := (hy i m hget).undecided hstate
  rw [hreviews, lastReview_modify k hmission hnumber, hlast, Option.map_some, if_pos rfl] at hp
  obtain rfl := Option.some.inj hp
  exact not_decided_iff.mpr hopen hdecided

/-- The steps between the write of the review and that of the mission, the first one included. -/
def lag : QcAction → ℕ
  | .approve => 4
  | .requestRework => 1
  | .reject => 1
  | _ => 0

/-- What an action that is cut off, or that is not, has written: the review, and the mission if it
has come so far. -/
structure Written (c : Command) (action : QcAction) (newState : QcState) (i k : Id) (n : ℕ)
    (x y : Site) (f : QcReview → QcReview) : Prop where
  missionId : ∀ r, (f r).missionId = r.missionId
  cycleNumber : ∀ r, (f r).cycleNumber = r.cycleNumber
  state : ∀ r, (f r).state = newState
  reviews : y.reviews = x.reviews.modify k f
  early : n ≤ lag action ∨ lag action = 0 → y.missions = x.missions
  late : lag action ≠ 0 → lag action < n →
    y.missions = x.missions.modify i (concluded action c.now)

lemma written_conclude {c : Command} {action : QcAction} {newState : QcState} {y : Site} {n : ℕ}
    (hlag : lag action = 1)
    (hy : y = if n = 0 then x.changeReview k (reviewed c action newState)
      else (x.changeReview k (reviewed c action newState)).changeMission i
        (concluded action c.now)) :
    Written c action newState i k (n + 1) x y (reviewed c action newState) := by
  have hreviews : y.reviews = x.reviews.modify k (reviewed c action newState) := by
    rw [hy]
    split <;> rfl
  refine ⟨fun _ => rfl, fun _ => rfl, fun _ => rfl, hreviews, fun h => ?_, fun _ h => ?_⟩
  · rw [hy, if_pos (by omega)]
    rfl
  · rw [hy, if_neg (by omega)]
    rfl

lemma written_keep {c : Command} {action : QcAction} {newState : QcState} {n : ℕ}
    (hlag : lag action = 0) :
    Written c action newState i k n x (x.changeReview k (reviewed c action newState))
      (reviewed c action newState) :=
  ⟨fun _ => rfl, fun _ => rfl, fun _ => rfl, rfl, fun _ => rfl, fun h => absurd hlag h⟩

lemma written_approve {c : Command} {newState : QcState} (gate : CompletionGate) (n : ℕ) :
    ∃ f, Written c .approve newState i k (n + 1) x
      (followedAfter .approve i k c.now gate n
        (x.changeReview k (reviewed c .approve newState))) f := by
  by_cases htwo : n ≤ 2
  · have hy : followedAfter .approve i k c.now gate n
        (x.changeReview k (reviewed c .approve newState)) =
          x.changeReview k (reviewed c .approve newState) := if_pos htwo
    rw [hy]
    exact ⟨reviewed c .approve newState, fun _ => rfl, fun _ => rfl, fun _ => rfl, rfl,
      fun _ => rfl, fun _ h => absurd h (by rw [lag]; omega)⟩
  -- The gate is written before the mission.
  have hreviews := x.reviews.modify_modify k (reviewed c .approve newState)
    fun r => { r with gateResults := some gate }
  refine ⟨fun r => { reviewed c .approve newState r with gateResults := some gate },
    fun _ => rfl, fun _ => rfl, fun _ => rfl, ?_, fun h => ?_, fun _ h => ?_⟩
  · simp only [followedAfter, if_neg htwo]
    split <;> exact hreviews
  · have hthree : n = 3 := by
      rcases h with h | h
      · rw [lag] at h
        omega
      · cases h
    simp only [followedAfter, if_neg htwo, if_pos hthree]
    rfl
  · have hthree : n ≠ 3 := by
      rw [lag] at h
      omega
    simp only [followedAfter, if_neg htwo, if_neg hthree]
    rfl

lemma exists_written {c : Command} {action : QcAction} {newState : QcState} (gate : CompletionGate)
    (hvalid : validateQcTransition current.state action .operations c.reason = .ok newState)
    {n : ℕ} (hn : 0 < n) :
    ∃ f, Written c action newState i k n x (actedAfter c action i k current gate n x) f := by
  obtain ⟨n, rfl⟩ : ∃ n', n = n' + 1 := ⟨n - 1, by omega⟩
  simp only [actedAfter, hvalid, if_neg (Nat.succ_ne_zero n), Nat.add_sub_cancel]
  cases action with
  | approve => exact written_approve gate n
  | requestRework => exact ⟨_, written_conclude rfl rfl⟩
  | reject => exact ⟨_, written_conclude rfl rfl⟩
  | startReview => exact ⟨_, written_keep rfl⟩
  | resubmit => exact ⟨_, written_keep rfl⟩
  | other text => exact ⟨_, written_keep rfl⟩

/-- The mission after a decision. -/
lemma concluded_fields (action : QcAction) (now : Time) (m : Mission) :
    (concluded action now m).qcReviewCount = m.qcReviewCount ∧
      (lag action ≠ 0 → (concluded action now m).workflowState ≠ .qcReview) := by
  cases action <;> exact ⟨rfl, by simp [lag, concluded]⟩

/-- The actions that decide are those that write the mission. -/
lemma decides_iff {s t : QcState} {action : QcAction} {reason : Option String}
    (h : validateQcTransition s action .operations reason = .ok t) :
    (s = .pending ∨ s = .inReview) ∧ (lag action ≠ 0 ↔ t = .approved ∨ t = .rejected) := by
  have hmem := validateQcTransition_operations h
  simp only [List.mem_cons, Prod.mk.injEq, List.not_mem_nil, or_false] at hmem
  rcases hmem with ⟨rfl, rfl, rfl⟩ | ⟨rfl, rfl, rfl⟩ | ⟨rfl, rfl, rfl⟩ | ⟨rfl, rfl, rfl⟩ <;>
    simp [lag]

section Acted

variable {c : Command} {action : QcAction} {gate : CompletionGate} (h : AllRegular x)
  (hget : x.missions.get? i = some m) (hlast : lastReview i x.reviews = some (k, current))

include h hget hlast

/-- The mission of a review that can be decided is in QC_REVIEW. -/
lemma AllRegular.state_of_undecided (hopen : ¬ Decided (k, current)) :
    m.workflowState = .qcReview := by
  refine (h i m hget).undecided_iff.mp ⟨(k, current), ?_, hopen⟩
  rwa [← (h i m hget).lastReview_eq]

/-- An action that is not cut off between its two writes. -/
lemma AllRegular.actedAfter {n : ℕ}
    (hwhole : (validateQcTransition current.state action .operations c.reason).isOk →
      ¬ (0 < n ∧ n ≤ lag action)) :
    AllRegular (actedAfter c action i k current gate n x) := by
  cases hvalid : validateQcTransition current.state action .operations c.reason with
  | error refusal =>
    rw [QualityControl.actedAfter, hvalid]
    exact h
  | ok newState =>
    rcases Nat.eq_zero_or_pos n with rfl | hpos
    · rw [actedAfter_zero]
      exact h
    obtain ⟨hopen, hdecides⟩ := decides_iff hvalid
    have hstate := h.state_of_undecided hget hlast (not_decided_iff.mpr hopen)
    obtain ⟨f, hf⟩ := exists_written (x := x) (i := i) (k := k) gate hvalid hpos
    have hafter : ¬ n ≤ lag action := fun hn => hwhole (by rw [hvalid]; rfl) ⟨hpos, hn⟩
    have hdecided : Decided (k, f current) ↔ lag action ≠ 0 := by
      rw [hdecides, Decided, hf.state]
    by_cases hlag : lag action = 0
    · have hsame : x.missions = x.missions.modify i id :=
        ((Table.modify_eq_self_iff hget).mpr rfl).symm
      refine h.changeLast hget hlast hf.missionId hf.cycleNumber hf.reviews
        ((hf.early (Or.inr hlag)).trans hsame) rfl (iff_of_true ?_ hstate)
      exact fun hd => hdecided.mp hd hlag
    · obtain ⟨hcount, hleaves⟩ := concluded_fields action c.now m
      refine h.changeLast hget hlast hf.missionId hf.cycleNumber hf.reviews
        (hf.late hlag (Nat.lt_of_not_le hafter)) hcount (iff_of_false ?_ (hleaves hlag))
      exact not_not.mpr (hdecided.mpr hlag)

/-- An action that is cut off between its two writes. -/
lemma AllRegular.not_wellFormed_actedAfter {n : ℕ}
    (hvalid : (validateQcTransition current.state action .operations c.reason).isOk)
    (hpos : 0 < n) (hn : n ≤ lag action) :
    ¬ AllWellFormed (QualityControl.actedAfter c action i k current gate n x) := by
  cases hstep : validateQcTransition current.state action .operations c.reason with
  | error refusal =>
    rw [hstep] at hvalid
    cases hvalid
  | ok newState =>
    obtain ⟨hopen, hdecides⟩ := decides_iff hstep
    have hstate := h.state_of_undecided hget hlast (not_decided_iff.mpr hopen)
    obtain ⟨f, hf⟩ := exists_written (x := x) (i := i) (k := k) gate hstep hpos
    refine not_wellFormed_of_decided hget hlast hf.missionId hf.cycleNumber hf.reviews
      (hf.early (Or.inl hn)) ?_ hstate
    rw [Decided, hf.state]
    exact hdecides.mp (by omega)

end Acted

end Decide

/-! ## A review that nobody counts -/

section First

variable {x : Site} {i : Id} {m : Mission}

lemma AllRegular.reviewsOf_eq_nil (h : AllRegular x) (hget : x.missions.get? i = some m)
    (hlast : lastReview i x.reviews = none) : reviewsOf i x.reviews = [] := by
  rw [(h i m hget).lastReview_eq] at hlast
  exact List.getLast?_eq_none_iff.mp hlast

/-- A command on a mission without a review leaves it with one that is not counted. -/
lemma AllRegular.not_wellFormed_first (h : AllRegular x) (hget : x.missions.get? i = some m)
    (hlast : lastReview i x.reviews = none) (c : Command) (action : QcAction)
    (gate : CompletionGate) (n : ℕ) :
    ¬ AllWellFormed (QualityControl.actedAfter c action i x.reviews.next (firstReview i) gate n
      (x.addReview (firstReview i))) := by
  have hnil := h.reviewsOf_eq_nil hget hlast
  have hlength : (reviewsOf i (x.addReview (firstReview i)).reviews).length = 1 := by
    rw [show (x.addReview (firstReview i)).reviews = x.reviews.insert (firstReview i) from rfl,
      reviewsOf_insert_self (i := i) (r := firstReview i) rfl, hnil]
    rfl
  have hcount : m.qcReviewCount = 0 := by rw [(h i m hget).counted, hnil]; rfl
  -- Whatever becomes of the review and of the mission, one review is there and none is counted.
  have huncounted : ∀ y : Site, (reviewsOf i y.reviews).length = 1 →
      (∃ m', y.missions.get? i = some m' ∧ m'.qcReviewCount = m.qcReviewCount) →
      ¬ AllWellFormed y := by
    rintro y hone ⟨m', hget', hcount'⟩ hy
    have hcounted := (hy i m' hget').counted
    omega
  cases hvalid : validateQcTransition (firstReview i).state action .operations c.reason with
  | error refusal =>
    rw [QualityControl.actedAfter, hvalid]
    exact huncounted _ hlength ⟨m, hget, rfl⟩
  | ok newState =>
    rcases Nat.eq_zero_or_pos n with rfl | hpos
    · rw [actedAfter_zero]
      exact huncounted _ hlength ⟨m, hget, rfl⟩
    obtain ⟨f, hf⟩ := exists_written (x := x.addReview (firstReview i)) (i := i)
      (k := x.reviews.next) gate hvalid hpos
    refine huncounted _ ?_ ?_
    · rw [hf.reviews, length_reviewsOf_modify hf.missionId, hlength]
    · by_cases hearly : n ≤ lag action ∨ lag action = 0
      · rw [hf.early hearly]
        exact ⟨m, hget, rfl⟩
      · obtain ⟨hlate, hlag⟩ := not_or.mp hearly
        rw [hf.late hlag (Nat.lt_of_not_le hlate)]
        refine ⟨concluded action c.now m, ?_, (concluded_fields action c.now m).1⟩
        exact (Table.get?_modify_self _ _ _).trans (congrArg _ hget)

end First

/-! ## The calls -/

/-- A move fits the site: it is about a mission that is there, along the map of an agent. -/
structure Fits (v : AgentMove) (x : Site) : Prop where
  get : x.missions.get? v.missionId = some v.mission
  leaves : v.mission.workflowState ≠ .qcReview
  arrives : v.newState ≠ .qcReview
  state : ∀ m, (v.write m).workflowState = v.newState
  count : ∀ m, (v.write m).qcReviewCount = m.qcReviewCount
  case : ∀ m, (v.write m).caseId = m.caseId
  order : v.before < v.entry

lemma Fits.later {v : AgentMove} {x : Site} (h : Fits v x) (k : ℕ) :
    Fits (AgentMove.later k v) x :=
  ⟨h.get, h.leaves, h.arrives, h.state, h.count, h.case, Nat.add_lt_add_right h.order k⟩

/-- No agent moves a mission out of QC_REVIEW, or into it. -/
lemma ne_qcReview_of_valid {s t : WorkflowState} {action : MissionAction} {reason : Option String}
    (h : validateTransition s action .agent reason = .ok t) : s ≠ .qcReview ∧ t ≠ .qcReview := by
  have htable : ∀ x ∈ MissionGuards.agentMoves, x.2.1 ≠ .qcReview ∧ x.2.2 ≠ .qcReview := by decide
  exact htable _ (MissionGuards.mem_agentMoves h)

lemma qcReviewCount_advance (action : MissionAction) (newState : WorkflowState)
    (reason : Option String) (mission : Mission) (now : Time) (m : Mission) :
    (Transitions.advance action newState reason mission now m).qcReviewCount = m.qcReviewCount := by
  cases action <;> rfl

lemma fits_transition {agentId : Id} {r : Transitions.TransitionRequest} {d : Db} {v : AgentMove}
    (h : v ∈ Transitions.moveOf agentId r d) : Fits v d.site := by
  rw [Transitions.moveOf] at h
  split at h
  · rename_i caseId action _ _
    split_ifs at h with hsynced
    · cases h
    obtain ⟨later, hlater, rfl⟩ := Option.map_eq_some_iff.mp h
    obtain ⟨w, hw, rfl⟩ := Option.map_eq_some_iff.mp hlater
    rw [Transitions.movingOf] at hw
    obtain ⟨q, hq, rfl⟩ := Option.map_eq_some_iff.mp hw
    obtain ⟨hget, -, hvalid⟩ := Transitions.target_eq_some hq
    obtain ⟨hleaves, harrives⟩ := ne_qcReview_of_valid hvalid
    refine Fits.later (Fits.later ⟨hget, hleaves, harrives, fun m => ?_, fun m => ?_, fun m => ?_,
      (by decide : 0 < 3)⟩ 1) _
    · exact (MissionGuards.advance_fields action q.2.2 r.reason q.2.1 r.now m).1
    · exact qcReviewCount_advance action q.2.2 r.reason q.2.1 r.now m
    · exact Transitions.caseId_advance action q.2.2 r.reason q.2.1 r.now m
  · cases h

lemma fits_moving {d : Db} {missionId : Id} {mission : Mission}
    (hget : d.mission.get? missionId = some mission) {f : WorkflowState → Mission → Mission}
    (hstate : ∀ s m, (f s m).workflowState = s)
    (hcount : ∀ s m, (f s m).qcReviewCount = m.qcReviewCount)
    (hcase : ∀ s m, (f s m).caseId = m.caseId) {action : MissionAction} {reason : Option String}
    {v : AgentMove} (h : (validateTransition mission.workflowState action .agent
      reason).toOption.map (AgentActions.moving f missionId mission) = some v) : Fits v d.site := by
  obtain ⟨newState, hvalid, rfl⟩ := Option.map_eq_some_iff.mp h
  cases hstep : validateTransition mission.workflowState action .agent reason with
  | error refused =>
    rw [hstep] at hvalid
    cases hvalid
  | ok t =>
    rw [hstep] at hvalid
    obtain rfl := Option.some.inj hvalid
    obtain ⟨hleaves, harrives⟩ := ne_qcReview_of_valid hstep
    exact ⟨hget, hleaves, harrives, hstate t, hcount t, hcase t, (by decide : 0 < 2)⟩

lemma fits_command {agentId : Id} {c : AgentActions.Command} {d : Db} {v : AgentMove}
    (h : v ∈ AgentActions.moveOf agentId c d) : Fits v d.site := by
  rw [AgentActions.moveOf] at h
  split at h
  · cases h
  split at h
  · cases h
  rename_i hfind
  have hget := (TableOf.find_eq_some hfind).1
  split at h
  · cases h
  obtain ⟨w, hw, rfl⟩ := Option.map_eq_some_iff.mp h
  rw [AgentActions.movingOf] at hw
  refine Fits.later ?_ 1
  split at hw
  · exact fits_moving (f := AgentActions.escalated c _) hget (fun _ _ => rfl) (fun _ _ => rfl)
      (fun _ _ => rfl) hw
  · exact fits_moving (f := AgentActions.submitted c.now) hget (fun _ _ => rfl) (fun _ _ => rfl)
      (fun _ _ => rfl) hw
  · cases hw

inductive Call
  | transition (agentId : Id) (r : Transitions.TransitionRequest)
  | command (agentId : Id) (c : AgentActions.Command)
  | review (c : Command)

/-- A call, and the fault that cuts it off, if there is one. -/
structure Operation where
  call : Call
  fault : Option (ℕ × Failure) := none

def step (d : Db) (o : Operation) : Db :=
  match o.call with
  | .transition agentId r => ((Transitions.POST agentId r).withFault o.fault).exec d
  | .command agentId c => ((AgentActions.PUT agentId c).withFault o.fault).exec d
  | .review c => ((QualityControl.POST c).withFault o.fault).exec d

/-- The call is cut off after more than `a` steps, and after `b` steps at most. -/
def CutWithin (a b : ℕ) (fault : Option (ℕ × Failure)) : Prop := ∃ x ∈ fault, a < x.1 ∧ x.1 ≤ b

/-- A submission is not cut off between the writes of its entry into the review. -/
def EntersWhole (v : Option AgentMove) (fault : Option (ℕ × Failure)) : Prop :=
  ∀ w ∈ v, w.newState = .submitted → ¬ CutWithin w.entry (w.entry + 3) fault

/-- A command finds a review, unless it is cut off before it creates one, and is not cut off between
the writes of a decision. -/
def TakesWhole (c : Command) (action : QcAction) (last : Option (Id × QcReview))
    (fault : Option (ℕ × Failure)) : Prop :=
  match last with
  | none => ∃ x ∈ fault, x.1 ≤ 3
  | some (_, current) =>
      (validateQcTransition current.state action .operations c.reason).isOk →
        ¬ CutWithin 2 (2 + lag action) fault

instance decidableCutWithin (a b : ℕ) (fault : Option (ℕ × Failure)) :
    Decidable (CutWithin a b fault) := by
  unfold CutWithin
  infer_instance

instance decidableEntersWhole (v : Option AgentMove) (fault : Option (ℕ × Failure)) :
    Decidable (EntersWhole v fault) := by
  unfold EntersWhole
  infer_instance

instance decidableTakesWhole (c : Command) (action : QcAction) (last : Option (Id × QcReview))
    (fault : Option (ℕ × Failure)) : Decidable (TakesWhole c action last fault) := by
  unfold TakesWhole
  cases last <;> infer_instance

/-- The mission that a command acts on. -/
def taken (c : Command) (d : Db) : Option (QcAction × Id × Mission) :=
  match c.action, missionOf c.caseId d with
  | some action, some (missionId, mission) => some (action, missionId, mission)
  | _, _ => none

/-- The calls that keep the cycles well formed. -/
def Kept (d : Db) (o : Operation) : Prop :=
  match o.call with
  | .transition agentId r => EntersWhole (Transitions.moveOf agentId r d) o.fault
  | .command agentId c => EntersWhole (AgentActions.moveOf agentId c d) o.fault
  | .review c => ∀ q ∈ taken c d, TakesWhole c q.1 (lastReview q.2.1 d.qcReview) o.fault

instance decidableKept (d : Db) (o : Operation) : Decidable (Kept d o) := by
  unfold Kept
  cases o.call <;> infer_instance

section Move

variable {v : AgentMove} {x : Site} {n : ℕ}

/-- The conditional update of a move. -/
lemma AllRegular.changed (h : AllRegular x) (hv : Fits v x) :
    AllRegular (x.changeMission v.missionId v.write) := by
  refine h.changeMission hv.get (hv.count _) (iff_of_false ?_ hv.leaves)
  rw [hv.state]
  exact hv.arrives

/-- A move that has not entered, or that has entered completely. -/
lemma AllRegular.after (h : AllRegular x) (hv : Fits v x)
    (hn : v.newState = .submitted → ¬ (v.entry < n ∧ n ≤ v.entry + 3)) :
    AllRegular (v.after n x) := by
  have hchanged := h.changed hv
  rw [AgentMove.after]
  split
  · exact h
  split
  · rename_i hsubmitted
    have hrow : (x.changeMission v.missionId v.write).missions.get? v.missionId =
        some (v.write v.mission) := (Table.get?_modify_self _ _ _).trans (congrArg _ hv.get)
    refine hchanged.enteredAfter hrow ?_ ?_
    · rw [hv.state]
      exact hv.arrives
    · have hwhole := hn hsubmitted
      omega
  · exact hchanged

lemma AllRegular.not_wellFormed_after (h : AllRegular x) (hv : Fits v x)
    (hsubmitted : v.newState = .submitted) (hentry : v.entry < n) (hn : n ≤ v.entry + 3) :
    ¬ AllWellFormed (v.after n x) := by
  have hchanged := h.changed hv
  have hrow : (x.changeMission v.missionId v.write).missions.get? v.missionId =
      some (v.write v.mission) := (Table.get?_modify_self _ _ _).trans (congrArg _ hv.get)
  have horder := hv.order
  rw [AgentMove.after]
  simp only [if_neg (show ¬ n ≤ v.before by omega), if_pos hsubmitted]
  refine hchanged.not_wellFormed_enteredAfter hrow ?_ (by omega) (by omega)
  rw [hv.state]
  exact hv.arrives

end Move

section Step

variable {fault : Option (ℕ × Failure)} {n k : ℕ} (hcut : ∀ x, fault = some x → n = x.1)
  (hwhole : fault = none → k ≤ n)

include hcut hwhole

lemma cutWithin_iff {a b : ℕ} (hb : b < k) : CutWithin a b fault ↔ a < n ∧ n ≤ b := by
  constructor
  · rintro ⟨x, hx, ha, hb'⟩
    rw [hcut x hx]
    exact ⟨ha, hb'⟩
  · rintro ⟨ha, hb'⟩
    cases hfault : fault with
    | none => exact absurd (hwhole hfault) (by omega)
    | some x =>
      rw [hcut x hfault] at ha hb'
      exact ⟨x, rfl, ha, hb'⟩

lemma cut_early_iff {b : ℕ} (hb : b < k) : (∃ x ∈ fault, x.1 ≤ b) ↔ n ≤ b := by
  constructor
  · rintro ⟨x, hx, hb'⟩
    rwa [hcut x hx]
  · intro hb'
    cases hfault : fault with
    | none => exact absurd (hwhole hfault) (by omega)
    | some x =>
      rw [hcut x hfault] at hb'
      exact ⟨x, rfl, hb'⟩

/-- A call that may make a move. -/
lemma AllRegular.siteAfter_iff {v : Option AgentMove} {x : Site} (h : AllRegular x)
    (hv : ∀ w ∈ v, Fits w x) (hk : ∀ w ∈ v, w.entry + 3 < k) :
    (EntersWhole v fault → AllRegular (AgentMove.siteAfter v n x)) ∧
      (AllWellFormed (AgentMove.siteAfter v n x) → EntersWhole v fault) := by
  cases v with
  | none => exact ⟨fun _ => h, fun _ w hw => absurd hw (by simp)⟩
  | some w =>
    have hfits := hv w rfl
    have hcutWithin := cutWithin_iff hcut hwhole (a := w.entry) (hk w rfl)
    constructor
    · intro henters
      refine h.after hfits fun hsubmitted => ?_
      rw [← hcutWithin]
      exact henters w rfl hsubmitted
    · rintro hwell w' hw' hsubmitted hbad
      obtain rfl := Option.some.inj hw'
      obtain ⟨hentry, hn⟩ := hcutWithin.mp hbad
      exact h.not_wellFormed_after hfits hsubmitted hentry hn hwell

/-- A command on a mission. -/
lemma AllRegular.takenAfter_iff {d : Db} (h : AllRegular d.site) {missionId : Id}
    {mission : Mission}
    (hget : d.mission.get? missionId = some mission) (c : Command) (action : QcAction)
    (hk : 6 < k) :
    (TakesWhole c action (lastReview missionId d.qcReview) fault →
        AllRegular (takenAfter c action missionId mission d n)) ∧
      (AllWellFormed (takenAfter c action missionId mission d n) →
        TakesWhole c action (lastReview missionId d.qcReview) fault) := by
  rw [takenAfter]
  cases hlast : lastReview missionId d.qcReview with
  | none =>
    have hearly := cut_early_iff hcut hwhole (b := 3) (by omega)
    simp only [TakesWhole, hearly]
    constructor
    · intro hn
      rw [if_pos hn]
      exact h
    · intro hwell
      by_contra hn
      rw [if_neg hn] at hwell
      exact h.not_wellFormed_first hget hlast c action _ _ hwell
  | some p =>
    obtain ⟨reviewId, current⟩ := p
    have hlag : 2 + lag action < k := by
      have hfour : lag action ≤ 4 := by cases action <;> simp [lag]
      omega
    have hcutWithin := cutWithin_iff hcut hwhole (a := 2) hlag
    simp only [TakesWhole, hcutWithin]
    constructor
    · intro htakes
      refine h.actedAfter hget hlast fun hvalid hn => htakes hvalid ?_
      omega
    · rintro hwell hvalid ⟨hpos, hn⟩
      exact h.not_wellFormed_actedAfter hget hlast hvalid (by omega) (by omega) hwell

end Step

/-! ### The missions keep their cases -/

lemma casesDistinct_siteAfter {v : Option AgentMove} {x : Site} (h : CasesDistinct x.missions)
    (hv : ∀ w ∈ v, Fits w x) (n : ℕ) : CasesDistinct (AgentMove.siteAfter v n x).missions := by
  cases v with
  | none => exact h
  | some w =>
    have hchanged : CasesDistinct (x.changeMission w.missionId w.write).missions :=
      h.modify w.missionId (hv w rfl).case
    change CasesDistinct (w.after n x).missions
    simp only [AgentMove.after]
    split
    · exact h
    split
    · simp only [enteredAfter]
      split
      · exact hchanged
      split
      · exact hchanged.modify _ fun _ => rfl
      split
      · exact hchanged.modify _ fun _ => rfl
      · refine CasesDistinct.modify ?_ w.missionId fun m => ?_
        · exact CasesDistinct.modify hchanged w.missionId fun m => rfl
        · rfl
    · exact hchanged

lemma casesDistinct_actedAfter {x : Site} (h : CasesDistinct x.missions) (c : Command)
    (action : QcAction) (i k : Id) (current : QcReview) (gate : CompletionGate) (n : ℕ) :
    CasesDistinct (actedAfter c action i k current gate n x).missions := by
  cases hvalid : validateQcTransition current.state action .operations c.reason with
  | error refusal =>
    rw [actedAfter, hvalid]
    exact h
  | ok newState =>
    rcases Nat.eq_zero_or_pos n with rfl | hpos
    · rw [actedAfter_zero]
      exact h
    obtain ⟨f, hf⟩ := exists_written (x := x) (i := i) (k := k) gate hvalid hpos
    by_cases hearly : n ≤ lag action ∨ lag action = 0
    · rw [hf.early hearly]
      exact h
    · obtain ⟨hlate, hlag⟩ := not_or.mp hearly
      rw [hf.late hlag (Nat.lt_of_not_le hlate)]
      exact h.modify i fun m => by cases action <;> rfl

/-! ## Runs -/

/-- The steps that a call is followed to. -/
def reach (v : Option AgentMove) : ℕ :=
  match v with
  | some w => w.entry + 4
  | none => 0

lemma lt_reach {v : Option AgentMove} {w : AgentMove} (hw : w ∈ v) : w.entry + 3 < reach v := by
  obtain rfl : v = some w := hw
  exact Nat.lt_succ_self _

/-- A step keeps the cycles regular if it is one of those, and else leaves them ill formed. -/
lemma step_iff {d : Db} (hdistinct : CasesDistinct d.mission) (h : AllRegular d.site)
    (o : Operation) :
    CasesDistinct (step d o).mission ∧ (Kept d o → AllRegular (step d o).site) ∧
      (AllWellFormed (step d o).site → Kept d o) := by
  obtain ⟨call, fault⟩ := o
  change CasesDistinct (step d ⟨call, fault⟩).site.missions ∧ _
  cases call with
  | transition agentId r =>
    obtain ⟨n, hn, hcut, hwhole⟩ := Prog.exists_exec_withFault (Transitions.POST agentId r) fault
      (reach (Transitions.moveOf agentId r d)) d
    simp only [step, Kept, hn, Transitions.site_after_POST agentId r n hdistinct]
    have hv := fun w (hw : w ∈ Transitions.moveOf agentId r d) => fits_transition hw
    exact ⟨casesDistinct_siteAfter hdistinct hv n,
      h.siteAfter_iff hcut hwhole hv fun w hw => lt_reach hw⟩
  | command agentId c =>
    obtain ⟨n, hn, hcut, hwhole⟩ := Prog.exists_exec_withFault (AgentActions.PUT agentId c) fault
      (reach (AgentActions.moveOf agentId c d)) d
    simp only [step, Kept, hn, AgentActions.site_after_PUT agentId c n hdistinct]
    have hv := fun w (hw : w ∈ AgentActions.moveOf agentId c d) => fits_command hw
    exact ⟨casesDistinct_siteAfter hdistinct hv n,
      h.siteAfter_iff hcut hwhole hv fun w hw => lt_reach hw⟩
  | review c =>
    obtain ⟨n, hn, hcut, hwhole⟩ := Prog.exists_exec_withFault (QualityControl.POST c) fault 7 d
    simp only [step, Kept, hn, QualityControl.site_after_POST, taken]
    cases c.action with
    | none => exact ⟨hdistinct, fun _ => h, fun _ q hq => absurd hq (by simp)⟩
    | some action =>
      cases hmission : missionOf c.caseId d with
      | none => exact ⟨hdistinct, fun _ => h, fun _ q hq => absurd hq (by simp)⟩
      | some q =>
        obtain ⟨missionId, mission⟩ := q
        have hget := (missionOf_eq_some hmission).2
        obtain ⟨hkept, hback⟩ := h.takenAfter_iff hcut hwhole hget c action (by decide)
        refine ⟨?_, fun htakes => hkept (htakes _ rfl), fun hwell q hq => ?_⟩
        · simp only [takenAfter]
          split
          · exact casesDistinct_actedAfter hdistinct c action _ _ _ _ _
          split
          · exact hdistinct
          · exact casesDistinct_actedAfter hdistinct c action _ _ _ _ _
        · obtain rfl := Option.some.inj hq
          exact hback hwell

/-- No mission has been submitted yet. -/
def Unreviewed (x : Site) : Prop :=
  ∀ missionId m, x.missions.get? missionId = some m →
    reviewsOf missionId x.reviews = [] ∧ m.qcReviewCount = 0 ∧ m.workflowState ≠ .qcReview

lemma Unreviewed.allRegular {x : Site} (h : Unreviewed x) : AllRegular x := by
  intro i m hm
  obtain ⟨hnil, hcount, hstate⟩ := h i m hm
  rw [hnil]
  refine ⟨Numbered.nil, hcount, fun p hp => absurd hp (by simp), iff_of_false ?_ hstate⟩
  rintro ⟨p, hp, -⟩
  cases hp

lemma unreviewed_checkedMission {state : WorkflowState} (h : state ≠ .qcReview) :
    Unreviewed (checkedMission state).site := by
  intro i m hm
  change (Table.empty.insert _).get? i = some m at hm
  rcases Table.get?_insert_cases hm with hm | ⟨-, rfl⟩
  · cases hm
  · exact ⟨rfl, rfl, h⟩

end QcCycles

end Asoju.FieldForce
