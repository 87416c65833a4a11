/-
Emergency alerts of FieldForce agents.

An alert is acknowledged, escalated from one channel to the next and resolved.  Each of these calls
reads the alert, checks its status, and writes the alert back without another look at it.

`SosCall.code` is a call as a program of a read and a write, `exact_iff` what the calls come to
together: a resolved alert stays as it is and every escalation is counted, exactly if no write meets
an alert that has been resolved or escalated since it was read.  Audio, photos and the contacts of
an agent are left out, and the texts of the messages that are sent.
-/
import Asoju.FieldForce.Schema
import Asoju.Lib.Overwrite
import Mathlib.Data.Rat.Floor

namespace Asoju.FieldForce

open Lib

namespace Sos

/-! ## The alerts -/

inductive SosAlertType
  | general | medical | security | safety | lost
deriving DecidableEq, Repr

inductive SosSeverity
  | low | medium | high | critical
deriving DecidableEq, Repr

inductive SosStatus
  | active | acknowledged | resolved | escalated | falseAlarm
deriving DecidableEq, Repr

def SosStatus.text : SosStatus → String
  | active => "ACTIVE"
  | acknowledged => "ACKNOWLEDGED"
  | resolved => "RESOLVED"
  | escalated => "ESCALATED"
  | falseAlarm => "FALSE_ALARM"

inductive EscalationChannel
  | admin | whatsapp | emergencyContact | police
deriving DecidableEq, Repr

/-- `ESCALATION_CHANNELS`. -/
def escalationChannels : List EscalationChannel := [.admin, .whatsapp, .emergencyContact, .police]

def maxEscalationLevel : ℕ := escalationChannels.length

structure SosAlert where
  agentId : Id
  missionId : Option Id := none
  caseId : Option Id := none
  alertType : SosAlertType := .general
  severity : SosSeverity := .high
  message : Option String := none
  latitude : ℚ
  longitude : ℚ
  accuracy : Option ℚ := none
  address : Option String := none
  status : SosStatus := .active
  acknowledgedBy : Option String := none
  acknowledgedAt : Option Time := none
  resolvedBy : Option String := none
  resolvedAt : Option Time := none
  resolutionNotes : Option String := none
  escalationLevel : ℕ := 0
  /-- The channels of the JSON array; missing before the first escalation. -/
  escalatedChannels : Option (List EscalationChannel) := none
  evidenceLocked : Bool := true
deriving DecidableEq, Repr

structure Store where
  sosAlert : Table SosAlert := .empty

inductive Model
  | sosAlert
deriving DecidableEq, Repr

def sosAlerts : TableOf Store Model SosAlert :=
  ⟨.sosAlert, Store.sosAlert, fun t _ => ⟨t⟩, fun _ _ => rfl⟩

abbrev Work (α : Type) := Prog Store (Access Model) Failure α

structure TriggerSosInput where
  agentId : Id
  missionId : Option Id := none
  caseId : Option Id := none
  alertType : SosAlertType
  severity : SosSeverity
  message : Option String := none
  latitude : ℚ
  longitude : ℚ
  accuracy : Option ℚ := none
  address : Option String := none
deriving DecidableEq, Repr

/-- The row of a new alert, as the columns that are not given are filled in. -/
def newAlert (input : TriggerSosInput) : SosAlert where
  agentId := input.agentId
  missionId := input.missionId
  caseId := input.caseId
  alertType := input.alertType
  severity := input.severity
  message := input.message
  latitude := input.latitude
  longitude := input.longitude
  accuracy := input.accuracy
  address := input.address
  evidenceLocked := input.missionId.isSome

/-- An alert is raised.  The type and the severity are of their lists already. -/
def triggerSosAlert (input : TriggerSosInput) : Work Id := do
  if input.latitude < -90 ∨ 90 < input.latitude ∨ input.longitude < -180 ∨
      180 < input.longitude then
    throw (.thrown "Invalid GPS coordinates for SOS alert")
  Client.create sosAlerts (newAlert input)

/-! ## The calls -/

def findUniqueOrThrow (alertId : Id) : Work SosAlert := do
  let some alert ← Client.findUnique sosAlerts alertId | throw .recordNotFound
  return alert

def acknowledge (adminId : String) (now : Time) (alert : SosAlert) : SosAlert :=
  { alert with status := .acknowledged, acknowledgedBy := some adminId, acknowledgedAt := some now }

def acknowledgeSosAlert (alertId : Id) (adminId : String) (now : Time) : Work SosAlert := do
  let alert ← findUniqueOrThrow alertId
  if alert.status ≠ .active ∧ alert.status ≠ .escalated then
    throw (.thrown ("Cannot acknowledge SOS alert in status: " ++ alert.status.text ++
      ". Only ACTIVE or ESCALATED alerts can be acknowledged."))
  Client.updateRow sosAlerts .recordNotFound alertId (acknowledge adminId now)

def resolve (adminId resolutionNotes : String) (now : Time) (alert : SosAlert) : SosAlert :=
  { alert with
    status := .resolved
    resolvedBy := some adminId
    resolvedAt := some now
    resolutionNotes := some resolutionNotes }

def resolveSosAlert (alertId : Id) (adminId resolutionNotes : String) (now : Time) :
    Work SosAlert := do
  let alert ← findUniqueOrThrow alertId
  if alert.status = .resolved ∨ alert.status = .falseAlarm then
    throw (.thrown ("SOS alert is already in terminal status: " ++ alert.status.text))
  Client.updateRow sosAlerts .recordNotFound alertId (resolve adminId resolutionNotes now)

/-- The channels of an alert, none if there is no array. -/
def SosAlert.channels (alert : SosAlert) : List EscalationChannel :=
  alert.escalatedChannels.getD []

/-- The channels with one more, unless it is there. -/
def addChannel (channel : EscalationChannel) (channels : List EscalationChannel) :
    List EscalationChannel :=
  if channel ∈ channels then channels else channels ++ [channel]

/-- What an escalation writes, from the alert that it has read. -/
def escalate (read : SosAlert) (channel : EscalationChannel) (alert : SosAlert) : SosAlert :=
  { alert with
    status := .escalated
    escalationLevel := read.escalationLevel + 1
    escalatedChannels := some (addChannel channel read.channels) }

def escalateSosAlert (alertId : Id) (channel : EscalationChannel) : Work SosAlert := do
  let alert ← findUniqueOrThrow alertId
  if alert.status ≠ .active ∧ alert.status ≠ .acknowledged ∧ alert.status ≠ .escalated then
    throw (.thrown ("Cannot escalate SOS alert in status: " ++ alert.status.text))
  if maxEscalationLevel < alert.escalationLevel + 1 then
    throw (.thrown "SOS alert has already been escalated to the maximum level")
  Client.updateRow sosAlerts .recordNotFound alertId (escalate alert channel)

/-- A call that concerns an alert. -/
inductive SosCall
  | acknowledge (adminId : String) (now : Time)
  | resolve (adminId resolutionNotes : String) (now : Time)
  | escalate (channel : EscalationChannel)
deriving DecidableEq, Repr

def SosCall.code (alertId : Id) : SosCall → Work SosAlert
  | acknowledge adminId now => acknowledgeSosAlert alertId adminId now
  | resolve adminId notes now => resolveSosAlert alertId adminId notes now
  | escalate channel => escalateSosAlert alertId channel

/-! ## A call as a read and a write -/

/-- The call passes its checks, having read `alert`. -/
def SosCall.accepts (alert : SosAlert) : SosCall → Prop
  | acknowledge _ _ => alert.status = .active ∨ alert.status = .escalated
  | resolve _ _ _ => alert.status ≠ .resolved ∧ alert.status ≠ .falseAlarm
  | escalate _ =>
      (alert.status = .active ∨ alert.status = .acknowledged ∨ alert.status = .escalated) ∧
        alert.escalationLevel + 1 ≤ maxEscalationLevel

/-- What the call writes, having read `read`. -/
def SosCall.write (read : SosAlert) : SosCall → SosAlert → SosAlert
  | acknowledge adminId now => Sos.acknowledge adminId now
  | resolve adminId notes now => Sos.resolve adminId notes now
  | escalate channel => Sos.escalate read channel

/-- The calls as ones that overwrite the alert. -/
def overwriting (alertId : Id) : Overwriting Store (Access Model) SosCall (Option SosAlert) where
  view := fun s => s.sosAlert.get? alertId
  relies := fun s => (s.sosAlert.get? alertId).isSome
  reads := fun l => l = .find .sosAlert
  writes := fun l => l = .update .sosAlert
  ready := fun c x => ∃ alert, x = some alert ∧ c.accepts alert
  result := fun c x v => match x with
    | some read => v.map (c.write read)
    | none => v

/-- A call is a read, and then a failure or a write. -/
lemma SosCall.code_cases (c : SosCall) (alertId : Id) :
    ∃ f : SosAlert → Work SosAlert, c.code alertId = findUniqueOrThrow alertId >>= f ∧
      ∀ alert, (c.accepts alert ∧
          f alert = Client.updateRow sosAlerts .recordNotFound alertId (c.write alert)) ∨
        ¬ c.accepts alert ∧ ∃ e, f alert = .fail e := by
  cases c with
  | acknowledge adminId now =>
    refine ⟨_, rfl, fun alert => ?_⟩
    by_cases h : alert.status ≠ .active ∧ alert.status ≠ .escalated
    · refine Or.inr ⟨?_, _, if_pos h⟩
      rintro (hactive | hescalated)
      · exact h.1 hactive
      · exact h.2 hescalated
    · refine Or.inl ⟨?_, if_neg h⟩
      rw [accepts]
      by_contra hnot
      rw [not_or] at hnot
      exact h hnot
  | resolve adminId notes now =>
    refine ⟨_, rfl, fun alert => ?_⟩
    by_cases h : alert.status = .resolved ∨ alert.status = .falseAlarm
    · refine Or.inr ⟨?_, _, if_pos h⟩
      rintro ⟨hresolved, hfalse⟩
      exact h.elim hresolved hfalse
    · rw [not_or] at h
      exact Or.inl ⟨h, if_neg (not_or.mpr h)⟩
  | escalate channel =>
    refine ⟨_, rfl, fun alert => ?_⟩
    by_cases h : alert.status ≠ .active ∧ alert.status ≠ .acknowledged ∧ alert.status ≠ .escalated
    · refine Or.inr ⟨?_, _, if_pos h⟩
      rintro ⟨hactive | hacknowledged | hescalated, -⟩
      · exact h.1 hactive
      · exact h.2.1 hacknowledged
      · exact h.2.2 hescalated
    · by_cases hlevel : maxEscalationLevel < alert.escalationLevel + 1
      · refine Or.inr ⟨?_, _, (if_neg h).trans (if_pos hlevel)⟩
        rintro ⟨-, hle⟩
        exact absurd hlevel (not_lt.mpr hle)
      · refine Or.inl ⟨⟨?_, not_lt.mp hlevel⟩, (if_neg h).trans (if_neg hlevel)⟩
        by_contra hnot
        rw [not_or, not_or] at hnot
        exact h hnot

section Protocol

variable (c : SosCall) (alertId : Id)

/-- The read of a call, with what follows. -/
lemma find_bind (f : SosAlert → Work SosAlert) :
    findUniqueOrThrow alertId >>= f =
      .atom (Access.find .sosAlert) id fun s =>
        (s.sosAlert.get? alertId).elim (.fail .recordNotFound) f := by
  refine congrArg (Prog.atom (Access.find Model.sosAlert) id) (funext fun s => ?_)
  show Prog.bind (Prog.bind (.ret (s.sosAlert.get? alertId)) _) f = _
  cases s.sosAlert.get? alertId with
  | none => rfl
  | some alert => rfl

/-- The write of a call. -/
lemma updateRow_eq (f : SosAlert → SosAlert) :
    (Client.updateRow sosAlerts .recordNotFound alertId f : Work SosAlert) =
      .atom (Access.update .sosAlert) (sosAlerts.modify alertId f) fun s =>
        (s.sosAlert.get? alertId).elim (.fail .recordNotFound) fun alert => .ret (f alert) := by
  refine congrArg (Prog.atom (Access.update Model.sosAlert) _) (funext fun s => ?_)
  have hget : (sosAlerts.get s).get? alertId = s.sosAlert.get? alertId := rfl
  rw [hget]
  cases s.sosAlert.get? alertId with
  | none => rfl
  | some alert => rfl

/-- What a call goes through, and where it returns. -/
lemma code_eq :
    ∃ f : SosAlert → Work SosAlert,
      c.code alertId = .atom (Access.find .sosAlert) id (fun s =>
        (s.sosAlert.get? alertId).elim (.fail .recordNotFound) f) ∧
      ∀ alert, (∃ e, f alert = .fail e) ∨ c.accepts alert ∧
        f alert = .atom (.update .sosAlert) (sosAlerts.modify alertId (c.write alert)) fun s =>
          (s.sosAlert.get? alertId).elim (.fail .recordNotFound) fun b =>
            .ret (c.write alert b) := by
  obtain ⟨f, hcode, hf⟩ := c.code_cases alertId
  refine ⟨f, hcode.trans (find_bind alertId f), fun alert => ?_⟩
  rcases hf alert with ⟨haccepts, hwrite⟩ | ⟨-, hfail⟩
  · exact Or.inr ⟨haccepts, hwrite.trans (updateRow_eq alertId _)⟩
  · exact Or.inl hfail

/-- What the call holds of an alert that it has found. -/
lemma next_find {s : Store} {alert : SosAlert} (h : s.sosAlert.get? alertId = some alert) :
    (overwriting alertId).next .begun (.find .sosAlert) s = .holds (some alert) :=
  congrArg Grip.holds h

lemma view_modify (f : SosAlert → SosAlert) (s : Store) :
    (overwriting alertId).view (sosAlerts.modify alertId f s) =
      ((overwriting alertId).view s).map f :=
  Table.get?_modify_self s.sosAlert alertId f

lemma code_follows : ((overwriting alertId).protocol c).Follows .begun (c.code alertId) := by
  obtain ⟨f, hcode, hf⟩ := code_eq c alertId
  rw [hcode]
  intro s hs
  obtain ⟨alert, halert⟩ := Option.isSome_iff_exists.mp hs
  refine ⟨⟨rfl, rfl⟩, ?_⟩
  change ((overwriting alertId).protocol c).Follows
    ((overwriting alertId).next .begun (.find .sosAlert) s) _
  rw [next_find alertId halert]
  beta_reduce
  rw [halert, Option.elim_some]
  rcases hf alert with ⟨e, hfail⟩ | ⟨haccepts, hwrite⟩
  · rw [hfail]
    trivial
  · rw [hwrite]
    intro s' hs'
    obtain ⟨alert', halert'⟩ := Option.isSome_iff_exists.mp hs'
    refine ⟨⟨⟨alert, rfl, haccepts⟩, view_modify alertId _ s'⟩, ?_⟩
    beta_reduce
    rw [halert', Option.elim_some]
    trivial

/-- A call returns exactly when it has written. -/
lemma code_returns : (overwriting alertId).Returns .begun (c.code alertId) := by
  obtain ⟨f, hcode, hf⟩ := code_eq c alertId
  rw [hcode]
  refine ⟨rfl, fun s hs => ?_⟩
  obtain ⟨alert, halert⟩ := Option.isSome_iff_exists.mp hs
  rw [next_find alertId halert]
  beta_reduce
  rw [halert, Option.elim_some]
  rcases hf alert with ⟨e, hfail⟩ | ⟨haccepts, hwrite⟩
  · rw [hfail]
    rfl
  · rw [hwrite]
    refine ⟨rfl, fun s' hs' => ?_⟩
    obtain ⟨alert', halert'⟩ := Option.isSome_iff_exists.mp hs'
    beta_reduce
    rw [halert', Option.elim_some]
    rfl

end Protocol

/-! ## Pools of calls on one alert -/

/-- Calls on an alert, interleaved in some way. -/
abbrev SosPool := Pool Store (Access Model) Failure SosAlert SosCall

def SosCall.isEscalate : SosCall → Bool
  | escalate _ => true
  | _ => false

/-- What every alert that is raised satisfies. -/
structure SosAlert.Sound (alert : SosAlert) : Prop where
  level : alert.escalationLevel ≤ maxEscalationLevel
  nodup : alert.channels.Nodup

lemma sound_newAlert (input : TriggerSosInput) : (newAlert input).Sound :=
  ⟨Nat.zero_le _, List.nodup_nil⟩

section Pools

variable (alertId : Id)

/-- The alert counts the escalate calls that have returned, from what it was at first, and has the
channels of all of them. -/
def Escalated (initial : SosAlert) (p : SosPool) : Prop :=
  ∃ alert, p.shared.sosAlert.get? alertId = some alert ∧ alert.Sound ∧
    alert.escalationLevel = initial.escalationLevel +
      p.threads.countP (fun t => t.hasReturned && t.call.isEscalate) ∧
    ∀ t ∈ p.threads, ∀ channel, t.call = .escalate channel → t.hasReturned = true →
      channel ∈ alert.channels

/-- A resolved alert stays resolved, with its resolver and notes. -/
def StaysResolved (p : SosPool) (e : Event SosCall) : Prop :=
  ∀ alert, p.shared.sosAlert.get? alertId = some alert → alert.status = .resolved →
    ∃ alert', (p.step (SosCall.code alertId) e).shared.sosAlert.get? alertId = some alert' ∧
      alert'.status = .resolved ∧ alert'.resolvedBy = alert.resolvedBy ∧
      alert'.resolutionNotes = alert.resolutionNotes

/-- A write of a call that has read `read` is in time for the alert `alert`: that is not resolved,
unless the call resolves it in the same way again, and an escalation goes on from its level. -/
def SosCall.InTime (c : SosCall) (read alert : Option SosAlert) : Prop :=
  ∀ a b, read = some a → alert = some b →
    (b.status = .resolved → ∃ adminId notes now, c = .resolve adminId notes now ∧
      b.resolvedBy = some adminId ∧ b.resolutionNotes = some notes) ∧
    (c.isEscalate = true → a.escalationLevel = b.escalationLevel)

/-- What has been read of an alert is of a lower level, or has its channels. -/
def SosCall.Trails (_ : SosCall) (read alert : Option SosAlert) : Prop :=
  ∀ a b, read = some a → alert = some b → a.escalationLevel ≤ b.escalationLevel ∧
    (a.escalationLevel = b.escalationLevel → a.channels = b.channels)

lemma trails_refl (c : SosCall) (v : Option SosAlert) : c.Trails v v := by
  rintro a b rfl hb
  obtain rfl := Option.some.inj hb
  exact ⟨le_rfl, fun _ => rfl⟩

/-- What a call has read trails an alert that is of the same level with the same channels. -/
lemma SosCall.Trails.congr {c : SosCall} {read : Option SosAlert} {b b' : SosAlert}
    (h : c.Trails read (some b)) (hlevel : b'.escalationLevel = b.escalationLevel)
    (hchannels : b'.channels = b.channels) : c.Trails read (some b') := by
  rintro a _ ha ⟨⟩
  rw [hlevel, hchannels]
  exact h a b ha rfl

/-- What a call has read trails an alert of a higher level. -/
lemma SosCall.Trails.up {c : SosCall} {read : Option SosAlert} {b b' : SosAlert}
    (h : c.Trails read (some b)) (hlevel : b.escalationLevel < b'.escalationLevel) :
    c.Trails read (some b') := by
  rintro a _ ha ⟨⟩
  have hle := (h a b ha rfl).1
  exact ⟨by omega, fun heq => by omega⟩

/-- The counts in terms of the writes. -/
def Counted (initial : SosAlert) (p : SosPool) : Prop :=
  ∃ alert, p.shared.sosAlert.get? alertId = some alert ∧ alert.Sound ∧
    alert.escalationLevel = initial.escalationLevel +
      (overwriting alertId).written SosCall.isEscalate p ∧
    ∀ channel, (overwriting alertId).written (fun c => c = .escalate channel) p ≠ 0 →
      channel ∈ alert.channels

lemma escalated_iff_counted {initial : SosAlert} {p : SosPool}
    (h : (overwriting alertId).Settled p) :
    Escalated alertId initial p ↔ Counted alertId initial p := by
  refine exists_congr fun alert => and_congr_right fun _ => and_congr_right fun _ => ?_
  rw [h.written_eq]
  refine and_congr_right fun _ => ?_
  simp only [h.written_eq, ne_eq, List.countP_eq_zero, not_forall, not_not, Bool.and_eq_true,
    decide_eq_true_eq]
  constructor
  · rintro hall channel ⟨t, ht, hreturned, hcall⟩
    exact hall t ht channel hcall hreturned
  · intro hall t ht channel hcall hreturned
    exact hall channel ⟨t, ht, hreturned, hcall⟩

/-- What holds of the pool at every moment of an orderly run. -/
structure Orderly (initial : SosAlert) (p : SosPool) : Prop where
  tracked : (overwriting alertId).Tracked p
  settled : (overwriting alertId).Settled p
  counted : Counted alertId initial p
  held : (overwriting alertId).Held SosCall.Trails p

lemma Orderly.relies {initial : SosAlert} {p : SosPool} (h : Orderly alertId initial p) :
    (overwriting alertId).relies p.shared := by
  obtain ⟨alert, halert, -⟩ := h.counted
  exact Option.isSome_iff_exists.mpr ⟨alert, halert⟩

lemma mem_addChannel {channel other : EscalationChannel} {channels : List EscalationChannel} :
    other ∈ addChannel channel channels ↔ other ∈ channels ∨ other = channel := by
  rw [addChannel]
  split
  · rename_i hmem
    constructor
    · exact Or.inl
    · rintro (h | rfl)
      · exact h
      · exact hmem
  · rw [List.mem_append, List.mem_singleton]

lemma nodup_addChannel {channel : EscalationChannel} {channels : List EscalationChannel}
    (h : channels.Nodup) : (addChannel channel channels).Nodup := by
  rw [addChannel]
  split
  · exact h
  · rename_i hmem
    rw [List.nodup_append]
    refine ⟨h, List.nodup_singleton _, fun other hother c hc heq => ?_⟩
    rw [List.mem_singleton.mp hc] at heq
    exact hmem (heq ▸ hother)

/-- An orderly pool with the first alert. -/
lemma orderly_idle {initial : SosAlert} {s : Store} (h : s.sosAlert.get? alertId = some initial)
    (hinitial : initial.Sound) : Orderly alertId initial (Pool.idle s) where
  tracked := Pool.tracked_idle _ s
  settled := fun _ ht => absurd ht List.not_mem_nil
  counted := ⟨initial, h, hinitial, rfl, fun _ hne => absurd rfl hne⟩
  held := fun _ ht => absurd ht List.not_mem_nil

variable {alertId}

/-- What a write of a call does to an alert that it finds in time. -/
lemma SosCall.InTime.keeps {c : SosCall} {a b : SosAlert} (h : c.InTime (some a) (some b))
    (hb : b.status = .resolved) :
    (c.write a b).status = .resolved ∧ (c.write a b).resolvedBy = b.resolvedBy ∧
      (c.write a b).resolutionNotes = b.resolutionNotes := by
  obtain ⟨adminId, notes, now, rfl, hby, hnotes⟩ := (h a b rfl rfl).1 hb
  exact ⟨rfl, hby.symm, hnotes.symm⟩

lemma SosCall.eq_escalate {c : SosCall} (h : c.isEscalate = true) :
    ∃ channel, c = .escalate channel := by
  cases c with
  | acknowledge adminId now => cases h
  | resolve adminId notes now => cases h
  | escalate channel => exact ⟨channel, rfl⟩

/-- Acknowledging and resolving do not touch the level and the channels. -/
lemma SosCall.write_level {c : SosCall} (hc : c.isEscalate = false) (a b : SosAlert) :
    (c.write a b).escalationLevel = b.escalationLevel ∧ (c.write a b).channels = b.channels := by
  cases c with
  | acknowledge adminId now => exact ⟨rfl, rfl⟩
  | resolve adminId notes now => exact ⟨rfl, rfl⟩
  | escalate channel => cases hc

/-- **A step of an orderly pool** whose write is in time. -/
lemma Orderly.step {initial : SosAlert} {p : SosPool} (h : Orderly alertId initial p)
    {e : Event SosCall} (he : (overwriting alertId).Fresh SosCall.InTime p e) :
    Orderly alertId initial (p.step (SosCall.code alertId) e) ∧ StaysResolved alertId p e := by
  have htracked := h.tracked.preserved (code_follows · alertId) h.relies e
  have hsettled := h.settled.preserved (code_returns · alertId) h.relies e
  obtain ⟨b, hb, hsound, hlevel, hchannels⟩ := h.counted
  have hview : (overwriting alertId).view p.shared = some b := hb
  rcases h.tracked.step_cases (SosCall.code alertId) h.relies e with
    ⟨-, hleaves⟩ | ⟨t, x, hwriter, ht, hgrip, hwrites⟩
  · -- Nothing is written.
    have hsame : (p.step (SosCall.code alertId) e).shared.sosAlert.get? alertId = some b :=
      hleaves.view.trans hb
    refine ⟨⟨htracked, hsettled, ⟨b, hsame, hsound, ?_, fun channel hne => ?_⟩,
      hleaves.held trails_refl h.held⟩, fun alert halert hresolved => ?_⟩
    · rw [hleaves.written, hlevel]
    · rw [hleaves.written] at hne
      exact hchannels channel hne
    · obtain rfl := Option.some.inj (hb.symm.trans halert)
      exact ⟨b, hsame, hresolved, rfl, rfl⟩
  · -- The call `t.call` writes, which has read `a`.
    obtain ⟨a, rfl, haccepts⟩ := hwrites.ready
    have hintime : t.call.InTime (some a) (some b) := hview ▸ he t _ hwriter hgrip
    have htrails : t.call.Trails (some a) (some b) := hview ▸ h.held t ht _ hgrip
    have hafter : (p.step (SosCall.code alertId) e).shared.sosAlert.get? alertId =
        some (t.call.write a b) := by
      have hresult := hwrites.view
      rw [hview] at hresult
      exact hresult
    have hstays : StaysResolved alertId p e := by
      intro alert halert hresolved
      obtain rfl := Option.some.inj (hb.symm.trans halert)
      exact ⟨_, hafter, hintime.keeps hresolved⟩
    refine ⟨⟨htracked, hsettled, ?_, ?_⟩, hstays⟩
    · refine ⟨t.call.write a b, hafter, ?_⟩
      cases hcall : t.call.isEscalate with
      | false =>
        obtain ⟨hl, hc⟩ := SosCall.write_level hcall a b
        refine ⟨⟨?_, ?_⟩, ?_, fun channel hne => ?_⟩
        · rw [hl]
          exact hsound.level
        · rw [hc]
          exact hsound.nodup
        · rw [hl, hwrites.written, hcall, hlevel]
          rfl
        · have hother : t.call ≠ .escalate channel := by
            intro heq
            rw [heq] at hcall
            cases hcall
          rw [hwrites.written, if_neg (by simpa using hother)] at hne
          rw [hc]
          exact hchannels channel hne
      | true =>
        obtain ⟨channel, hchannel⟩ := SosCall.eq_escalate hcall
        have hsamelevel := (hintime a b rfl rfl).2 hcall
        have hsamechannels := (htrails a b rfl rfl).2 hsamelevel
        rw [hchannel] at haccepts ⊢
        have hnew : (SosCall.write a (.escalate channel) b).channels =
            addChannel channel b.channels := by rw [← hsamechannels]; rfl
        refine ⟨⟨haccepts.2, ?_⟩, ?_, fun other hne => ?_⟩
        · rw [hnew]
          exact nodup_addChannel hsound.nodup
        · rw [hwrites.written, hcall, if_pos rfl, ← add_assoc, ← hlevel, ← hsamelevel]
          rfl
        · rw [hnew, mem_addChannel]
          by_cases heq : other = channel
          · exact Or.inr heq
          · have hother : t.call ≠ .escalate other := by
              rw [hchannel]
              intro hcalls
              exact heq (SosCall.escalate.inj hcalls).symm
            rw [hwrites.written, if_neg (by simpa using hother)] at hne
            exact Or.inl (hchannels other hne)
    · refine hwrites.held h.held fun c' y hy => ?_
      have hafter' : (overwriting alertId).view (p.step (SosCall.code alertId) e).shared =
          some (t.call.write a b) := hafter
      rw [hview] at hy
      rw [hafter']
      cases hcall : t.call.isEscalate with
      | false =>
        obtain ⟨hl, hc⟩ := SosCall.write_level hcall a b
        exact hy.congr hl hc
      | true =>
        have hsamelevel := (hintime a b rfl rfl).2 hcall
        obtain ⟨channel, hchannel⟩ := SosCall.eq_escalate hcall
        refine hy.up ?_
        rw [hchannel]
        show b.escalationLevel < a.escalationLevel + 1
        omega

/-- A step after which the alert is as it has to be was in time. -/
lemma Orderly.inTime {initial : SosAlert} {p : SosPool} (h : Orderly alertId initial p)
    {e : Event SosCall} (hcounted : Counted alertId initial (p.step (SosCall.code alertId) e))
    (hstays : StaysResolved alertId p e) : (overwriting alertId).Fresh SosCall.InTime p e := by
  intro t x hwriter hgrip
  rcases h.tracked.step_cases (SosCall.code alertId) h.relies e with
    ⟨hnone, -⟩ | ⟨t', x', hwriter', -, hgrip', hwrites⟩
  · rw [hnone] at hwriter
    cases hwriter
  · obtain rfl := Option.some.inj (hwriter'.symm.trans hwriter)
    obtain rfl := Grip.holds.inj (hgrip'.symm.trans hgrip)
    intro a b ha hview
    subst ha
    obtain ⟨b', hb, -, hlevel, -⟩ := h.counted
    obtain rfl := Option.some.inj (hview.symm.trans hb)
    have hafter : (p.step (SosCall.code alertId) e).shared.sosAlert.get? alertId =
        some (t'.call.write a b) := by
      have hresult := hwrites.view
      rw [hview] at hresult
      exact hresult
    constructor
    · intro hresolved
      obtain ⟨c, hc, hstatus, hby, hnotes⟩ := hstays b hb hresolved
      obtain rfl := Option.some.inj (hafter.symm.trans hc)
      cases hcall : t'.call with
      | acknowledge adminId now => rw [hcall] at hstatus; cases hstatus
      | resolve adminId notes now =>
        rw [hcall] at hby hnotes
        exact ⟨adminId, notes, now, rfl, hby.symm, hnotes.symm⟩
      | escalate channel => rw [hcall] at hstatus; cases hstatus
    · intro hescalate
      obtain ⟨c, hc, -, hcount, -⟩ := hcounted
      obtain rfl := Option.some.inj (hafter.symm.trans hc)
      rw [hwrites.written, hescalate, if_pos rfl, ← add_assoc, ← hlevel] at hcount
      obtain ⟨channel, hchannel⟩ := SosCall.eq_escalate hescalate
      rw [hchannel] at hcount
      exact Nat.succ.inj hcount

/-- **A resolved alert stays as it is and every escalation is counted**, exactly if every write is
in time. -/
theorem orderly_iff {initial : SosAlert} {s : Store} (h : s.sosAlert.get? alertId = some initial)
    (hinitial : initial.Sound) (es : List (Event SosCall)) :
    AllStates (Pool.step (SosCall.code alertId)) (Escalated alertId initial) (Pool.idle s) es ∧
        AllSteps (Pool.step (SosCall.code alertId)) (StaysResolved alertId) (Pool.idle s) es ↔
      AllSteps (Pool.step (SosCall.code alertId)) ((overwriting alertId).Fresh SosCall.InTime)
        (Pool.idle s) es := by
  refine allStates_and_allSteps_iff_of_invariant (I := Orderly alertId initial)
    (fun p hp => (escalated_iff_counted alertId hp.settled).mpr hp.counted)
    (fun p e hp he => hp.step he) (fun p e hp hq hr => ?_) (orderly_idle alertId h hinitial) es
  have hsettled := hp.settled.preserved (code_returns · alertId) hp.relies e
  exact hp.inTime ((escalated_iff_counted alertId hsettled).mp hq) hr

end Pools

/-! ## An alert that is escalated while it is resolved -/

/-- An alert that has just been raised. -/
def raised : SosAlert :=
  newAlert
    { agentId := 1, alertType := .medical, severity := .critical, latitude := 6, longitude := 3 }

def oneAlert : Store := ⟨Table.empty.insert raised⟩

theorem orderly_escalated :
    AllStates (Pool.step (SosCall.code 0)) (Escalated 0 raised) (Pool.idle oneAlert)
        [.start (.escalate .admin), .sched 0, .sched 0] ∧
      AllSteps (Pool.step (SosCall.code 0)) (StaysResolved 0) (Pool.idle oneAlert)
        [.start (.escalate .admin), .sched 0, .sched 0] := by
  refine (orderly_iff rfl (sound_newAlert _) _).mpr ⟨?_, ?_, ?_, trivial⟩
  · rintro t x ⟨⟩ -
  · intro t x hwriter
    cases hwriter
  · intro t x hwriter hgrip a b ha hb
    cases hwriter
    cases hgrip
    cases ha
    cases hb
    exact ⟨fun hresolved => (by cases hresolved), fun _ => rfl⟩

/-- An escalation has read the alert, which is then resolved: the escalation opens it again. -/
theorem not_orderly :
    ¬ (AllStates (Pool.step (SosCall.code 0)) (Escalated 0 raised) (Pool.idle oneAlert)
          [.start (.escalate .police), .start (.resolve "adm" "found safe" 5), .sched 0, .sched 1,
            .sched 1, .sched 0] ∧
        AllSteps (Pool.step (SosCall.code 0)) (StaysResolved 0) (Pool.idle oneAlert)
          [.start (.escalate .police), .start (.resolve "adm" "found safe" 5), .sched 0, .sched 1,
            .sched 1, .sched 0]) := by
  rintro ⟨-, -, -, -, -, -, hstays, -⟩
  obtain ⟨alert, halert, hstatus, -⟩ := hstays _ rfl rfl
  cases halert
  cases hstatus

end Sos

end Asoju.FieldForce
