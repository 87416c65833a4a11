/-
Sweeps over the recurring schedules, and pauses, any number of them at once.

Between the look at the schedules that are due and the cases of a sweep, another sweep may find a
schedule due as well, and the schedule may be paused or go on.  `visits_spaced` says what is needed
for a schedule to be visited at most once in its cadence, and never while it is paused: no case is
opened and no pause is written once the schedule is no longer as it has been read, and no case is
opened while another sweep is about to put the schedule forward.
-/
import Asoju.Lib.Window
import Asoju.RecurringStages

namespace Asoju

open Lib

/-! ## The invariant -/

/-- Where a thread stands. -/
def stageOf (t : RecurringThread) : RecurringStage := t.call.protocol.phase t.done

/-- A visit of the schedule is under way in the thread. -/
def Visits (i : Id) (t : RecurringThread) : Prop := (stageOf t).underway = some i

instance visitsDecidable (i : Id) (t : RecurringThread) : Decidable (Visits i t) :=
  inferInstanceAs (Decidable ((stageOf t).underway = some i))

/-- A case is opened, and a schedule is switched on or off, while the schedule is as it has been
read; and a case is opened while no other visit of the schedule is under way. -/
def Undisturbed (p : RecurringPool) : Event RecurringCall → Prop
  | .start _ => True
  | .sched i => ∀ t ∈ p.threads[i]?,
      (∀ q ∈ (stageOf t).opening t.rest.next?,
        p.shared.recurringSchedule.get? q.1 = some q.2 ∧ ∀ u ∈ p.threads, ¬ Visits q.1 u) ∧
      ∀ q ∈ (stageOf t).rewriting t.rest.next?,
        p.shared.recurringSchedule.get? q.1 = some q.2

instance undisturbedDecidable (p : RecurringPool) : ∀ e, Decidable (Undisturbed p e)
  | .start _ => isTrue trivial
  | .sched i => inferInstanceAs (Decidable (∀ t ∈ p.threads[i]?,
      (∀ q ∈ (stageOf t).opening t.rest.next?,
        p.shared.recurringSchedule.get? q.1 = some q.2 ∧ ∀ u ∈ p.threads, ¬ Visits q.1 u) ∧
      ∀ q ∈ (stageOf t).rewriting t.rest.next?,
        p.shared.recurringSchedule.get? q.1 = some q.2))

/-- What a call knows at its stage. -/
def RecurringStage.Knows (d : Db) : RecurringStage → Prop
  | timed now => now ≤ d.clock
  | visiting due => ∀ q ∈ due, q.2.isDue d.clock = true
  | opened q due => (∀ q ∈ due, q.2.isDue d.clock = true) ∧
      ∀ s, d.recurringSchedule.get? q.1 = some s → s.cadence = q.2.cadence
  | forwarding q now due => (∀ q ∈ due, q.2.isDue d.clock = true) ∧
      (∀ s, d.recurringSchedule.get? q.1 = some s → s.cadence = q.2.cadence) ∧
      now ≤ d.clock ∧ ∀ k t, d.visitOf k = some (q.1, t) → t ≤ now
  | holding q _ => ∀ t ∈ q.2.pausedAt, t ≤ d.clock
  | switching q _ now => now ≤ d.clock ∧ ∀ t ∈ q.2.pausedAt, t ≤ now
  | sweeping | asking .. | ended => True

/-- A schedule that is due stays due. -/
lemma isDue_of_le {s : RecurringSchedule} {t u : Time} (htu : t ≤ u) (h : s.isDue t = true) :
    s.isDue u = true := by
  have hdue := of_decide_eq_true h
  exact decide_eq_true ⟨hdue.1, hdue.2.trans htu⟩

/-- What a call knows goes on to hold while nobody else opens a case for the schedule that it
visits. -/
lemma RecurringStage.Knows.mono {stage : RecurringStage} {d d' : Db} (h : stage.Knows d)
    (hlater : d.Later d')
    (hvisits : ∀ i, stage.underway = some i → ∀ k t, d'.visitOf k = some (i, t) →
      d.visitOf k = some (i, t)) : stage.Knows d' := by
  have hdue : ∀ due : List (Id × RecurringSchedule), (∀ q ∈ due, q.2.isDue d.clock = true) →
      ∀ q ∈ due, q.2.isDue d'.clock = true := fun due hdue q hq =>
    isDue_of_le hlater.clock (hdue q hq)
  have hcadence : ∀ q : Id × RecurringSchedule,
      (∀ s, d.recurringSchedule.get? q.1 = some s → s.cadence = q.2.cadence) →
      ∀ s, d'.recurringSchedule.get? q.1 = some s → s.cadence = q.2.cadence := by
    intro q hq s' hs'
    obtain ⟨s, hs, hsame⟩ := hlater.cadence q.1 s' hs'
    exact hsame.trans (hq s hs)
  cases stage with
  | sweeping => trivial
  | timed now => exact le_trans h hlater.clock
  | visiting due => exact hdue due h
  | opened q due => exact ⟨hdue due h.1, hcadence q h.2⟩
  | forwarding q now due =>
    obtain ⟨hrest, hq, hnow, hlast⟩ := h
    refine ⟨hdue due hrest, hcadence q hq, hnow.trans hlater.clock, fun k t hk => ?_⟩
    exact hlast k t (hvisits q.1 rfl k t hk)
  | asking caseId active => trivial
  | holding q active => exact fun t ht => (h t ht).trans hlater.clock
  | switching q active now => exact ⟨h.1.trans hlater.clock, h.2⟩
  | ended => trivial

/-- Every schedule is covered unless it is being visited, which happens in one thread at most. -/
structure Punctual (p : RecurringPool) : Prop where
  tracked : Pool.Tracked RecurringCall.protocol p
  regular : p.shared.Regular
  covered : ∀ i, (∀ t ∈ p.threads, ¬ Visits i t) → p.shared.Covered i
  alone : ∀ i, Pool.AtMostOne (Visits i) p.threads
  knows : ∀ t ∈ p.threads, (stageOf t).Knows p.shared

lemma punctual_idle {d : Db} (hd : d.Rested) : Punctual (Pool.idle d) where
  tracked := Pool.tracked_idle _ d
  regular := hd.toRegular
  covered i _ := hd.covered i
  alone _ := Pool.atMostOne_nil
  knows _ ht := absurd ht List.not_mem_nil

/-- A call that starts visits nothing. -/
lemma Punctual.start {p : RecurringPool} (h : Punctual p) (c : RecurringCall) :
    Punctual (p.step RecurringCall.code (.start c)) where
  tracked := h.tracked.preserved _ follows_recurring (fun _ => trivial) _
  regular := h.regular
  covered i hi := h.covered i fun t ht => hi t (List.mem_append_left _ ht)
  alone i := (h.alone i).concat (by cases c <;> exact fun h => by cases h)
  knows t ht := by
    rcases List.mem_append.mp ht with ht | ht
    · exact h.knows t ht
    · rw [List.mem_singleton.mp ht]
      cases c <;> trivial

/-! ## Every step -/

namespace RecurringSchedule

variable (schedule s : RecurringSchedule) (active : Bool) (now : Time)

lemma cadence_putForward : (schedule.putForward now s).cadence = s.cadence := rfl

lemma cadence_switched : (schedule.switched active now s).cadence = s.cadence := rfl

/-- A schedule that goes on is due no earlier than it was. -/
lemma le_switchedRunAt (h : ∀ t ∈ schedule.pausedAt, t ≤ now) :
    schedule.nextRunAt ≤ schedule.switchedRunAt active now := by
  cases active with
  | false => exact le_rfl
  | true =>
    cases hpaused : schedule.pausedAt with
    | none => simp only [switchedRunAt, hpaused, le_refl]
    | some pausedAt =>
      have hpast : pausedAt ≤ now := h pausedAt hpaused
      have hleft := le_max_right 0 (schedule.nextRunAt - pausedAt)
      simp only [switchedRunAt, hpaused]
      linarith

end RecurringSchedule

section Step

variable {p : RecurringPool} {i : ℕ} {t t' : RecurringThread} {s' : Db}

/-- What one action has to do for the others. -/
lemma Punctual.moves (h : Punctual p) (hi : p.threads[i]? = some t)
    (htracked : Pool.Tracked RecurringCall.protocol
      (⟨s', p.threads.set i t'⟩ : RecurringPool))
    (hregular : s'.Regular) (hlater : p.shared.Later s')
    (hvisits : ∀ j, (∃ u ∈ p.threads, Visits j u) → ∀ k v, s'.visitOf k = some (j, v) →
      p.shared.visitOf k = some (j, v))
    (hcovered : ∀ j, ¬ Visits j t' → (Visits j t ∨ p.shared.Covered j) → s'.Covered j)
    (halone : ∀ j, Visits j t' → Visits j t ∨ ∀ u ∈ p.threads, ¬ Visits j u)
    (hknows : (stageOf t').Knows s') : Punctual ⟨s', p.threads.set i t'⟩ where
  tracked := htracked
  regular := hregular
  covered j hj := by
    have ht' : t' ∈ p.threads.set i t' :=
      List.mem_set (List.getElem?_eq_some_iff.mp hi).1 t'
    refine hcovered j (hj t' ht') ?_
    by_cases hvisit : Visits j t
    · exact Or.inl hvisit
    · refine Or.inr (h.covered j fun u hu => ?_)
      rcases Pool.eq_or_mem_set hi t' hu with rfl | hu
      · exact hvisit
      · exact hj u hu
  alone j := (h.alone j).set hi (halone j)
  knows u hu := by
    rcases List.mem_or_eq_of_mem_set hu with hu | rfl
    · exact (h.knows u hu).mono hlater fun j hj => hvisits j ⟨u, hu, hj⟩
    · exact hknows

/-- An action that does nothing to schedules and visits. -/
lemma Punctual.leaves (h : Punctual p) (hi : p.threads[i]? = some t)
    (htracked : Pool.Tracked RecurringCall.protocol
      (⟨s', p.threads.set i t'⟩ : RecurringPool))
    (hleaves : p.shared.LeavesVisits s')
    (hunderway : (stageOf t').underway = (stageOf t).underway)
    (hknows : (stageOf t').Knows s') : Punctual ⟨s', p.threads.set i t'⟩ := by
  have hsame : ∀ j, Visits j t' ↔ Visits j t := fun j => by rw [Visits, hunderway, Visits]
  refine h.moves hi htracked (h.regular.leaves hleaves) hleaves.later ?_ ?_ ?_ hknows
  · intro j _ k v hk
    rwa [hleaves.visits] at hk
  · intro j hj hcovered
    refine (hcovered.resolve_left fun hvisit => hj ((hsame j).mpr hvisit)).of_same ?_ ?_
    · rw [hleaves.schedules]
    · intro k v hk
      rwa [hleaves.visits] at hk
  · exact fun j hj => Or.inl ((hsame j).mp hj)

/-- The opening of a case for a schedule that is due and that nobody visits. -/
lemma Punctual.opens (h : Punctual p) (hi : p.threads[i]? = some t)
    (htracked : Pool.Tracked RecurringCall.protocol
      (⟨s', p.threads.set i t'⟩ : RecurringPool))
    {q : Id × RecurringSchedule} {due : List (Id × RecurringSchedule)}
    (hold : stageOf t = .visiting (q :: due)) (hnew : stageOf t' = .opened q due)
    (hopens : p.shared.OpensVisit s' q.1)
    (hrow : p.shared.recurringSchedule.get? q.1 = some q.2)
    (hnobody : ∀ u ∈ p.threads, ¬ Visits q.1 u) : Punctual ⟨s', p.threads.set i t'⟩ := by
  have hknown : ∀ r ∈ q :: due, r.2.isDue p.shared.clock = true := by
    have hknown := h.knows t (List.mem_of_getElem? hi)
    rwa [hold] at hknown
  have hdue := of_decide_eq_true (hknown q List.mem_cons_self)
  have hcovered := h.covered q.1 hnobody
  have hother : ∀ j, j ≠ q.1 → ∀ k v, s'.visitOf k = some (j, v) →
      p.shared.visitOf k = some (j, v) := by
    intro j hj k v hk
    rw [hopens.visits] at hk
    split_ifs at hk
    · exact absurd (Prod.mk.inj (Option.some.inj hk)).1.symm hj
    · exact hk
  refine h.moves hi htracked (h.regular.opens hcovered hopens hrow hdue.2) hopens.later
    ?_ ?_ ?_ ?_
  · rintro j ⟨u, hu, hvisit⟩
    refine hother j fun hj => ?_
    subst hj
    exact hnobody u hu hvisit
  · intro j hj hcovered
    rw [Visits, hnew] at hj
    rw [Visits, hold] at hcovered
    refine (hcovered.resolve_left fun hvisit => by cases hvisit).of_same ?_ ?_
    · rw [hopens.schedules]
    · exact hother j fun hjq => hj (congrArg some hjq.symm)
  · intro j hj
    rw [Visits, hnew] at hj
    obtain rfl : q.1 = j := Option.some.inj hj
    exact Or.inr hnobody
  · rw [hnew]
    refine ⟨fun r hr => ?_, fun s hs => ?_⟩
    · exact isDue_of_le hopens.clock (hknown r (List.mem_cons_of_mem q hr))
    · rw [hopens.schedules, hrow] at hs
      rw [Option.some.inj hs]

/-- A schedule is put forward after its visit. -/
lemma Punctual.forwards (h : Punctual p) (hi : p.threads[i]? = some t)
    (htracked : Pool.Tracked RecurringCall.protocol
      (⟨s', p.threads.set i t'⟩ : RecurringPool))
    {q : Id × RecurringSchedule} {now : Time} {due : List (Id × RecurringSchedule)}
    (hold : stageOf t = .forwarding q now due) (hnew : stageOf t' = .visiting due)
    (hchange : p.shared.ChangesSchedule s' q.1 (q.2.putForward now)) :
    Punctual ⟨s', p.threads.set i t'⟩ := by
  have hknown : (RecurringStage.forwarding q now due).Knows p.shared :=
    hold ▸ h.knows t (List.mem_of_getElem? hi)
  obtain ⟨hdue, hcadence, hnow, hlast⟩ := hknown
  have hregular := h.regular.changes hchange (q.2.cadence_putForward · now)
    fun s hs => h.regular.paused q.1 s hs
  refine h.moves hi htracked hregular (hchange.later (q.2.cadence_putForward · now)) ?_ ?_ ?_ ?_
  · intro j _ k v hk
    rwa [hchange.visits] at hk
  · intro j _ hcovered
    by_cases hj : j = q.1
    · -- every visit of the schedule is over when it is put forward
      subst hj
      intro s hs k v hk
      rw [hchange.visits] at hk
      rw [hchange.schedules, Table.get?_modify_self, Option.map_eq_some_iff] at hs
      obtain ⟨r, hr, rfl⟩ := hs
      have hv := hlast k v hk
      have hr' := hcadence r hr
      show v + r.cadence ≤ now + q.2.cadence
      linarith
    · rw [Visits, hold] at hcovered
      refine (hcovered.resolve_left fun hvisit => hj (Option.some.inj hvisit).symm).of_same ?_ ?_
      · rw [hchange.schedules, Table.get?_modify_of_ne _ hj]
      · intro k v hk
        rwa [hchange.visits] at hk
  · intro j hj
    rw [Visits, hnew] at hj
    cases hj
  · rw [hnew]
    exact fun r hr => isDue_of_le hchange.clock (hdue r hr)

/-- A schedule that is as it has been read is switched on or off. -/
lemma Punctual.switches (h : Punctual p) (hi : p.threads[i]? = some t)
    (htracked : Pool.Tracked RecurringCall.protocol
      (⟨s', p.threads.set i t'⟩ : RecurringPool))
    {q : Id × RecurringSchedule} {active : Bool} {now : Time}
    (hold : stageOf t = .switching q active now) (hnew : stageOf t' = .ended)
    (hchange : p.shared.ChangesSchedule s' q.1 (q.2.switched active now))
    (hrow : p.shared.recurringSchedule.get? q.1 = some q.2) :
    Punctual ⟨s', p.threads.set i t'⟩ := by
  have hknown : (RecurringStage.switching q active now).Knows p.shared :=
    hold ▸ h.knows t (List.mem_of_getElem? hi)
  have hcadence := fun s => q.2.cadence_switched s active now
  have hregular : s'.Regular := by
    refine h.regular.changes hchange hcadence fun s _ u hu => ?_
    cases active with
    | true => cases hu
    | false => exact (Option.mem_some_iff.mp hu) ▸ hknown.1
  refine h.moves hi htracked hregular (hchange.later hcadence) ?_ ?_ ?_ ?_
  · intro j _ k v hk
    rwa [hchange.visits] at hk
  · intro j _ hcovered
    rw [Visits, hold] at hcovered
    refine (hcovered.resolve_left fun hvisit => by cases hvisit).changed hchange fun s hs => ?_
    obtain rfl := Option.some.inj (hrow.symm.trans hs)
    exact ⟨rfl, q.2.le_switchedRunAt active now hknown.2⟩
  · intro j hj
    rw [Visits, hnew] at hj
    cases hj
  · rw [hnew]
    trivial

/-- What an undisturbed action does, by the stage that it is taken at. -/
lemma Punctual.move (h : Punctual p) (hi : p.threads[i]? = some t) {l : Act}
    (htracked : Pool.Tracked RecurringCall.protocol
      (⟨s', p.threads.set i t'⟩ : RecurringPool))
    (hmove : RecurringMove p.shared s' (stageOf t) l (stageOf t'))
    (hopening : ∀ q ∈ (stageOf t).opening (some l),
      p.shared.recurringSchedule.get? q.1 = some q.2 ∧ ∀ u ∈ p.threads, ¬ Visits q.1 u)
    (hrewriting : ∀ q ∈ (stageOf t).rewriting (some l),
      p.shared.recurringSchedule.get? q.1 = some q.2) : Punctual ⟨s', p.threads.set i t'⟩ := by
  have hknown := h.knows t (List.mem_of_getElem? hi)
  generalize hold : stageOf t = stage at hmove hopening hrewriting hknown
  generalize hnew : stageOf t' = stage' at hmove
  cases hmove with
  | stays hleaves =>
    refine h.leaves hi htracked hleaves (by rw [hnew, hold]) ?_
    rw [hnew]
    exact hknown.mono hleaves.later fun j _ k v hk => hleaves.visits k ▸ hk
  | timed hleaves =>
    refine h.leaves hi htracked hleaves (by rw [hnew, hold]; rfl) ?_
    rw [hnew]
    exact hleaves.clock
  | found hleaves =>
    refine h.leaves hi htracked hleaves (by rw [hnew, hold]; rfl) ?_
    rw [hnew]
    exact fun q hq => isDue_of_le (hknown.trans hleaves.clock) (List.mem_filter.mp hq).2
  | opened hopens =>
    obtain ⟨hrow, hnobody⟩ := hopening _ rfl
    exact h.opens hi htracked hold hnew hopens hrow hnobody
  | dated hleaves =>
    refine h.leaves hi htracked hleaves (by rw [hnew, hold]; rfl) ?_
    obtain ⟨hdue, hcadence⟩ := hknown
    rw [hnew]
    refine ⟨fun r hr => isDue_of_le hleaves.clock (hdue r hr), ?_, hleaves.clock, ?_⟩
    · rwa [hleaves.schedules]
    · intro k v hk
      rw [hleaves.visits] at hk
      exact h.regular.visited k _ v hk
  | forwarded hchange => exact h.forwards hi htracked hold hnew hchange
  | @asked caseId _ q _ hleaves hq =>
    refine h.leaves hi htracked hleaves (by rw [hnew, hold]; rfl) ?_
    rw [hnew]
    have hrow : p.shared.recurringSchedule.get? q.1 = some q.2 :=
      p.shared.recurringSchedule.mem_rows_iff.mp (List.mem_of_find?_eq_some hq)
    exact fun v hv => (h.regular.paused q.1 q.2 hrow v hv).trans hleaves.clock
  | missing hleaves =>
    refine h.leaves hi htracked hleaves (by rw [hnew, hold]; rfl) ?_
    rw [hnew]
    trivial
  | held hleaves =>
    refine h.leaves hi htracked hleaves (by rw [hnew, hold]; rfl) ?_
    rw [hnew]
    exact ⟨hleaves.clock, hknown⟩
  | switched hchange => exact h.switches hi htracked hold hnew hchange (hrewriting _ rfl)

/-- **The step lemma.** -/
theorem Punctual.step (h : Punctual p) {e : Event RecurringCall} (he : Undisturbed p e) :
    Punctual (p.step RecurringCall.code e) := by
  have hrely : ∀ c : RecurringCall, c.protocol.relies p.shared := fun _ => trivial
  have htracked := h.tracked.preserved _ follows_recurring hrely e
  rcases h.tracked.step RecurringCall.code hrely e with
    ⟨i, -, -, hsame⟩ | ⟨c, rfl, -⟩ | ⟨i, t, l, w, k, rfl, hi, hrest, hallows, hstep⟩
  · rw [hsame]
    exact h
  · exact h.start c
  · rw [hstep] at htracked ⊢
    obtain ⟨hopening, hrewriting⟩ := he t hi
    have hnext : t.rest.next? = some l := by rw [hrest]; rfl
    rw [hnext] at hopening hrewriting
    refine h.move hi htracked ?_ hopening hrewriting
    have hstage : stageOf ⟨t.call, t.done ++ [(l, p.shared)], k p.shared⟩ =
        (stageOf t).next l p.shared := Protocol.phase_concat _ _ _ _
    rw [hstage]
    exact hallows

/-- A case that the step opens comes from a schedule that is active. -/
def OpensActive (p : RecurringPool) (e : Event RecurringCall) : Prop :=
  ∀ k i v, p.shared.visitOf k = none →
    (p.step RecurringCall.code e).shared.visitOf k = some (i, v) →
    (p.shared.recurringSchedule.get? i).any RecurringSchedule.active = true

/-- A step that does nothing to the visits opens no case. -/
lemma opensActive_of_same {e : Event RecurringCall}
    (h : p.shared.SameVisits (p.step RecurringCall.code e).shared) : OpensActive p e := by
  intro k j v hnone hk
  rw [h, hnone] at hk
  cases hk

lemma Punctual.opensActive (h : Punctual p) {e : Event RecurringCall} (he : Undisturbed p e) :
    OpensActive p e := by
  rcases h.tracked.step RecurringCall.code (fun _ => trivial) e with
    ⟨i, -, -, hsame⟩ | ⟨c, rfl, -⟩ | ⟨i, t, l, w, k, rfl, hi, hrest, hallows, hstep⟩
  · exact opensActive_of_same fun k => by rw [hsame]
  · exact opensActive_of_same fun k => rfl
  · have hnext : t.rest.next? = some l := by rw [hrest]; rfl
    have hshared : (p.step RecurringCall.code (.sched i)).shared = w p.shared := by rw [hstep]
    have hopening := (he t hi).1
    have hknown := h.knows t (List.mem_of_getElem? hi)
    have hmove : RecurringMove p.shared (w p.shared) (stageOf t) l
      ((stageOf t).next l p.shared) := hallows
    rw [hnext] at hopening
    generalize hold : stageOf t = stage at hmove hopening hknown
    generalize stage.next l p.shared = stage' at hmove
    rw [← hshared] at hmove
    cases hmove with
    | stays hleaves => exact opensActive_of_same hleaves.visits
    | timed hleaves => exact opensActive_of_same hleaves.visits
    | found hleaves => exact opensActive_of_same hleaves.visits
    | @opened q due hopens =>
      obtain ⟨hrow, -⟩ := hopening q rfl
      have hactive := (of_decide_eq_true (hknown q List.mem_cons_self)).1
      intro k j v hnone hk
      rw [hopens.visits] at hk
      split_ifs at hk
      · obtain ⟨rfl, -⟩ := Prod.mk.inj (Option.some.inj hk)
        rw [hrow]
        exact hactive
      · rw [hnone] at hk
        cases hk
    | dated hleaves => exact opensActive_of_same hleaves.visits
    | forwarded hchange => exact opensActive_of_same hchange.visits
    | asked hleaves => exact opensActive_of_same hleaves.visits
    | missing hleaves => exact opensActive_of_same hleaves.visits
    | held hleaves => exact opensActive_of_same hleaves.visits
    | switched hchange => exact opensActive_of_same hchange.visits

end Step

/-! ## Every run -/

/-- **One visit in a cadence.**  In every interleaving of sweeps and pauses none of which disturbs
another, the cases that come from one schedule are at least its cadence apart, and none is opened
while the schedule is paused. -/
theorem visits_spaced {d : Db} (hd : d.Rested) (es : List (Event RecurringCall))
    (h : AllSteps (Pool.step RecurringCall.code) Undisturbed (Pool.idle d) es) :
    AllStates (Pool.step RecurringCall.code) (fun p => p.shared.Spaced) (Pool.idle d) es ∧
      AllSteps (Pool.step RecurringCall.code) OpensActive (Pool.idle d) es := by
  constructor
  · refine (h.invariant (I := Punctual) ?_ (punctual_idle hd)).mono fun p hp => ?_
    · exact fun p e hp he => hp.step he
    · exact hp.regular.spaced
  · refine AllSteps.of_invariant (I := Punctual) ?_ ?_ (punctual_idle hd) h
    · exact fun p e hp he => hp.step he
    · exact fun p e hp he => hp.opensActive he

/-- A weekly schedule that is due. -/
def weeklySchedule : RecurringSchedule :=
  { originCaseId := 0, customerId := 0, serviceType := .constructionSupervision
    description := "Monthly visit", location := "Epe", cadenceDays := 7, nextRunAt := 0 }

def scheduledDb : Db :=
  { completedDb with recurringSchedule := Table.empty.insert weeklySchedule }

lemma rested_scheduledDb : scheduledDb.Rested := by
  have hnone : ∀ k, scheduledDb.visitOf k = none := by
    intro k
    show ((completedDb.serviceCase).get? k).bind _ = none
    rw [completedDb, Table.get?_insert]
    split_ifs <;> rfl
  have hrow : ∀ i s, scheduledDb.recurringSchedule.get? i = some s → s = weeklySchedule := by
    intro i s hs
    rcases Table.get?_insert_cases hs with hs | ⟨-, rfl⟩
    · cases hs
    · rfl
  refine ⟨⟨?_, ?_, ?_⟩, ?_⟩
  · intro i s _ j k t u hj
    rw [hnone] at hj
    cases hj
  · intro k i t hk
    rw [hnone] at hk
    cases hk
  · intro i s hs t ht
    rw [hrow i s hs] at ht
    cases ht
  · intro i s _ k t hk
    rw [hnone] at hk
    cases hk

/-- Two sweeps find the schedule due before either of them has put it forward. -/
def sweepTwice : List (Event RecurringCall) :=
  [.start .processDueSchedules, .start .processDueSchedules, .sched 0, .sched 0, .sched 1, .sched 1,
    .sched 0, .sched 1]

/-- A pause that has been asked for before a sweep is written after it, and so puts the schedule
back; as soon as it goes on it is visited again. -/
def pauseLate : List (Event RecurringCall) :=
  [.start (.setActive 0 false), .sched 0, .sched 0, .start .processDueSchedules] ++
    List.replicate 10 (.sched 1) ++ [.sched 0, .sched 0, .start (.setActive 0 true)] ++
    List.replicate 3 (.sched 2) ++ [.start .processDueSchedules] ++ List.replicate 3 (.sched 3)

/-- The schedule is paused once a sweep has found it due. -/
def pauseMeanwhile : List (Event RecurringCall) :=
  [.start .processDueSchedules, .sched 0, .sched 0, .start (.setActive 0 false), .sched 1, .sched 1,
    .sched 1, .sched 0]

/-- The schedule is visited once more on the same day, or while it is paused. -/
theorem visits_not_spaced :
    scheduledDb.Rested ∧
      ¬ AllStates (Pool.step RecurringCall.code) (fun p => p.shared.Spaced) (Pool.idle scheduledDb)
        sweepTwice ∧
      ¬ AllStates (Pool.step RecurringCall.code) (fun p => p.shared.Spaced) (Pool.idle scheduledDb)
        pauseLate ∧
      ¬ AllSteps (Pool.step RecurringCall.code) OpensActive (Pool.idle scheduledDb)
        pauseMeanwhile := by
  refine ⟨rested_scheduledDb, fun h => ?_, fun h => ?_, fun h => ?_⟩
  · have hspaced := h.last 0 weeklySchedule (by decide +kernel) 1 2 0 1 (by decide +kernel)
      (by decide +kernel) (by decide)
    exact absurd hspaced (by decide +kernel)
  · have hspaced := h.last 0 { weeklySchedule with nextRunAt := 22 } (by decide +kernel) 1 2 0 23
      (by decide +kernel) (by decide +kernel) (by decide)
    exact absurd hspaced (by decide +kernel)
  · obtain ⟨-, -, -, -, -, -, -, hlast, -⟩ := h
    exact absurd (hlast 1 0 1 (by decide +kernel) (by decide +kernel)) (by decide +kernel)

/-- A sweep, a pause and a week later another sweep, one after the other. -/
def onePerWeek : List (Event RecurringCall) :=
  [.start .processDueSchedules, .start (.setActive 0 false)] ++ List.replicate 10 (.sched 0) ++
    List.replicate 4 (.sched 1) ++ [.start (.setActive 0 true)] ++ List.replicate 4 (.sched 2) ++
    [.start (.elapse 604800000), .sched 3, .start .processDueSchedules] ++
    List.replicate 10 (.sched 4)

theorem visits_spaced_week :
    AllStates (Pool.step RecurringCall.code) (fun p => p.shared.Spaced) (Pool.idle scheduledDb)
        onePerWeek ∧
      AllSteps (Pool.step RecurringCall.code) OpensActive (Pool.idle scheduledDb) onePerWeek :=
  visits_spaced rested_scheduledDb onePerWeek (by decide +kernel)

example : (List.range 4).map
    (runFrom (Pool.step RecurringCall.code) (Pool.idle scheduledDb) onePerWeek).shared.visitOf =
      [none, some (0, 0), some (0, 604800023), none] := by decide +kernel

end Asoju
