/-
Messages on one WhatsApp thread, interleaved.

While the concierge is asked about one message another one may be answered, and the history that the
first one writes then lacks the turns of the second.  A history that lacks turns never gets them back:
it is shorter than the messages that have written it would make it (`Short`).
-/
import Asoju.WhatsApp

namespace Asoju

open Lib

namespace WhatsappService

/-! ## Calls on one thread -/

/-- A message without a button from a number. -/
def FreeText (phone : String) : Type :=
  { m : InboundMessage // normalizePhone m.rawFrom = phone ∧ m.button = none }

section Calls

variable {phone : String}

def FreeText.code (c : FreeText phone) : Svc Handled := handleInboundMessage c.1

/-- The turns that a message adds to the history. -/
def FreeText.turns (c : FreeText phone) : List ConversationTurn :=
  match c.1.answer with
  | .ok turn => [userTurn c.1.body, assistantTurn turn.reply]
  | .error _ => []

/-- What a message makes of the thread that is there, having read `read`. -/
def extend (turns : List ConversationTurn) (read thread : Option (Id × WhatsAppThread × User)) :
    Option (Id × WhatsAppThread × User) :=
  match read with
  | some (threadId, t, _) =>
      thread.map fun q =>
        (q.1, if q.1 = threadId then { q.2.1 with history := t.history ++ turns } else q.2.1, q.2.2)
  | none => thread

variable (phone) in
/-- The messages as calls that overwrite the thread with this key. -/
def overwriting (threadId : Id) :
    Overwriting Db Act (FreeText phone) (Option (Id × WhatsAppThread × User)) where
  view := fun d => d.threadByPhone phone
  relies := fun d => ∃ t user, d.threadByPhone phone = some (threadId, t, user)
  reads := fun l => l = .find .whatsAppThread
  writes := fun l => l = .update .whatsAppThread
  ready := fun c read => read.isSome ∧ ∃ turn, c.1.answer = .ok turn
  result := fun c => extend c.turns

lemma result_eq (threadId : Id) (c : FreeText phone)
    (read thread : Option (Id × WhatsAppThread × User)) :
    (overwriting phone threadId).result c read thread = extend c.turns read thread := rfl

/-- A call returns where it has written two turns, and fails where it has not written. -/
def Answered (c : FreeText phone) (g : Grip (Option (Id × WhatsAppThread × User))) :
    Except HttpError Handled → Prop
  | .ok _ => g.hasEnded = true ∧ c.turns.length = 2
  | .error _ => g.hasEnded = false

variable {threadId : Id}

/-- What the write of a history does to the thread. -/
lemma view_modifyRow (history : List ConversationTurn) (d : Db) :
    (d.modifyRow .whatsAppThread threadId fun t =>
        { t with history := history }).threadByPhone phone =
      (d.threadByPhone phone).map fun q =>
        (q.1, if q.1 = threadId then { q.2.1 with history := history } else q.2.1, q.2.2) := by
  have hrows := Table.find?_mapRows d.whatsAppThread
    (f := fun j t => if j = threadId then { t with history := history } else t)
    (q := fun t => t.phone = phone) fun j t => by split <;> rfl
  change ((d.whatsAppThread.modify threadId _).rows.find? _).bind _ = Option.map _ (Option.bind _ _)
  rw [Table.modify, hrows]
  cases d.whatsAppThread.rows.find? fun p => decide (p.2.phone = phone) with
  | none => rfl
  | some p =>
    have huser : (if p.1 = threadId then { p.2 with history := history } else p.2).userId =
        p.2.userId := by split <;> rfl
    change Option.map _ (d.user.get? (ite _ _ _ : WhatsAppThread).userId) =
      Option.map _ (Option.map _ _)
    rw [huser, Option.map_map]
    rfl

/-- The thread that is found is there. -/
lemma get?_of_threadByPhone {d : Db} {t : WhatsAppThread} {user : User}
    (h : d.threadByPhone phone = some (threadId, t, user)) :
    d.whatsAppThread.get? threadId = some t := by
  obtain ⟨p, hp, huser⟩ := Option.bind_eq_some_iff.mp h
  obtain ⟨u, -, heq⟩ := Option.map_eq_some_iff.mp huser
  obtain ⟨rfl, hrest⟩ := Prod.mk.inj heq
  obtain ⟨rfl, -⟩ := Prod.mk.inj hrest
  exact (Table.mem_rows_iff _).mp (List.mem_of_find?_eq_some hp)

lemma FreeText.code_eq (c : FreeText phone) :
    c.code = resolveThread phone c.1.draw >>= fun x => converse c.1 x.1 x.2.1 := by
  rw [FreeText.code, handleInboundMessage, c.2.1, c.2.2]

/-- The concierge is asked with the history that has been read, and the thread is written. -/
lemma leads_converse (c : FreeText phone) (t : WhatsAppThread) (user : User) :
    ((overwriting phone threadId).protocol c).Leads (Answered c) (.holds (some (threadId, t, user)))
      (converse c.1 threadId t) := by
  rw [converse]
  refine Protocol.Leads.atom_bind fun d _ => ⟨rfl, ?_⟩
  cases hanswer : c.1.answer with
  | error e => exact .fail trivial rfl
  | ok turn =>
    have hturns : c.turns = [userTurn c.1.body, assistantTurn turn.reply] := by
      rw [FreeText.turns, hanswer]
    refine Protocol.Leads.atom_bind fun d' hd' => ⟨⟨⟨rfl, turn, hanswer⟩, ?_⟩, ?_⟩
    · rw [result_eq, hturns]
      exact view_modifyRow _ d'
    · obtain ⟨t', user', hfound⟩ := hd'
      have hget : (Rel.whatsAppThread.get d').get? threadId = some t' :=
        get?_of_threadByPhone hfound
      rw [hget]
      exact .atom fun d'' _ => ⟨⟨rfl, rfl⟩, .ret trivial ⟨rfl, congrArg List.length hturns⟩⟩

lemma leads_code (c : FreeText phone) :
    ((overwriting phone threadId).protocol c).Leads (Answered c) .begun c.code := by
  rw [c.code_eq]
  refine Protocol.Leads.atom fun d hd => ⟨⟨rfl, rfl⟩, ?_⟩
  obtain ⟨t, user, hfound⟩ := hd
  change ((overwriting phone threadId).protocol c).Leads (Answered c)
    (.holds (d.threadByPhone phone)) _
  beta_reduce
  rw [hfound]
  exact leads_converse c t user

end Calls

/-! ## What the history has of the messages -/

/-- A pool of messages of one number. -/
abbrev Talk (phone : String) := Pool Db Act HttpError Handled (FreeText phone)

def historyOf (thread : Option (Id × WhatsAppThread × User)) : List ConversationTurn :=
  (thread.map fun q => q.2.1.history).getD []

section Runs

variable {phone : String} {threadId : Id}

/-- The messages that have been handled without an error. -/
def handled (p : Talk phone) : List (FreeText phone) :=
  (p.threads.filter Thread.hasReturned).map Thread.call

/-- The history consists of what it was at first and, in some order, of the turns of the messages
that have been handled, each of them once. -/
def Complete (initial : List ConversationTurn) (p : Talk phone) : Prop :=
  ∃ l : List (FreeText phone), l.Perm (handled p) ∧
    historyOf (p.shared.threadByPhone phone) = initial ++ l.flatMap FreeText.turns

/-- What has been read has the key of the thread. -/
def SameKey (_ : FreeText phone) (read thread : Option (Id × WhatsAppThread × User)) : Prop :=
  read.map Prod.fst = thread.map Prod.fst

/-- The history is still the one that the call has read. -/
def SameHistory (_ : FreeText phone) (read thread : Option (Id × WhatsAppThread × User)) : Prop :=
  historyOf read = historyOf thread

/-- What a write of a message comes to. -/
lemma history_result {c : FreeText phone} {x v : Option (Id × WhatsAppThread × User)}
    (hready : (overwriting phone threadId).ready c x) (hkey : SameKey c x v) :
    historyOf ((overwriting phone threadId).result c x v) = historyOf x ++ c.turns ∧
      ((overwriting phone threadId).result c x v).map Prod.fst = v.map Prod.fst := by
  obtain ⟨q, rfl⟩ := Option.isSome_iff_exists.mp hready.1
  cases v with
  | none => cases hkey
  | some q' =>
    have hsame : q.1 = q'.1 := Option.some.inj hkey
    rw [result_eq]
    simp [extend, historyOf, hsame]

lemma length_turns {c : FreeText phone} {x : Option (Id × WhatsAppThread × User)}
    (hready : (overwriting phone threadId).ready c x) : c.turns.length = 2 := by
  obtain ⟨-, turn, hanswer⟩ := hready
  rw [FreeText.turns, hanswer]
  rfl

lemma trailing_sameKey : (overwriting phone threadId).Trailing SameKey where
  refl _ _ := rfl
  step := by
    intro c x v hready hkey c' y hy
    rw [SameKey, (history_result hready hkey).2]
    exact hy

/-- A step leaves the thread with its key and its user. -/
lemma relies_step (p : Talk phone) (e : Event (FreeText phone))
    (h : (overwriting phone threadId).Invariant SameKey p) :
    (overwriting phone threadId).relies (p.step FreeText.code e).shared := by
  have hmap : (((p.step FreeText.code e).shared.threadByPhone phone).map Prod.fst) =
      (p.shared.threadByPhone phone).map Prod.fst := by
    rcases h.tracked.step_cases FreeText.code h.relies e with
      ⟨-, hleaves⟩ | ⟨t, x, -, ht, hgrip, hwrites⟩
    · exact congrArg (Option.map Prod.fst) hleaves.view
    · exact (congrArg (Option.map Prod.fst) hwrites.view).trans
        (history_result hwrites.ready (h.held t ht x hgrip)).2
  obtain ⟨t, user, hfound⟩ := h.relies
  rw [hfound, Option.map_some, Option.map_eq_some_iff] at hmap
  obtain ⟨⟨i, t', user'⟩, hfound', rfl⟩ := hmap
  exact ⟨t', user', hfound'⟩

/-- How many messages have written. -/
def writes (threadId : Id) (p : Talk phone) : ℕ :=
  (overwriting phone threadId).written (fun _ => true) p

/-- What holds at every moment of every run: the history is at most as long as the messages that
have written it would make it, and so is what a call has read, by two turns less if it has been
overwritten since. -/
structure Bounded (threadId : Id) (initial : List ConversationTurn) (p : Talk phone) : Prop where
  invariant : (overwriting phone threadId).Invariant SameKey p
  le : (historyOf (p.shared.threadByPhone phone)).length ≤
    initial.length + 2 * writes threadId p
  behind : ∀ t ∈ p.threads, ∀ x, (overwriting phone threadId).grip t.done = .holds x →
    historyOf x = historyOf (p.shared.threadByPhone phone) ∨
      (historyOf x).length + 2 ≤ initial.length + 2 * writes threadId p

/-- The history lacks some of the turns that have been written. -/
def Short (threadId : Id) (initial : List ConversationTurn) (p : Talk phone) : Prop :=
  (historyOf (p.shared.threadByPhone phone)).length < initial.length + 2 * writes threadId p

lemma bounded_idle {d : Db} {t : WhatsAppThread} {user : User}
    (h : d.threadByPhone phone = some (threadId, t, user)) :
    Bounded threadId t.history (Pool.idle d : Talk phone) where
  invariant := .idle ⟨t, user, h⟩
  le := by
    rw [Pool.idle, h]
    exact Nat.le_add_right _ _
  behind := fun _ ht => absurd ht List.not_mem_nil

lemma code_follows (c : FreeText phone) :
    ((overwriting phone threadId).protocol c).Follows .begun c.code := (leads_code c).1

/-- **A step of the messages**: they stay within the bound, and a history that lacks turns, or that
is overwritten by a call that has read another one, lacks turns afterwards. -/
lemma Bounded.step {initial : List ConversationTurn} {p : Talk phone}
    (h : Bounded threadId initial p) (e : Event (FreeText phone)) :
    Bounded threadId initial (p.step FreeText.code e) ∧
      (Short threadId initial p ∨ ¬ (overwriting phone threadId).Fresh SameHistory p e →
        Short threadId initial (p.step FreeText.code e)) := by
  have hinvariant := h.invariant.preserved code_follows trailing_sameKey
    (relies_step p e h.invariant)
  rcases h.invariant.tracked.step_cases FreeText.code h.invariant.relies e with
    ⟨hnone, hleaves⟩ | ⟨t, x, hwriter, ht, hgrip, hwrites⟩
  · have hview : (p.step FreeText.code e).shared.threadByPhone phone =
        p.shared.threadByPhone phone := hleaves.view
    have hcount : writes threadId (p.step FreeText.code e) = writes threadId p :=
      hleaves.written _
    refine ⟨⟨hinvariant, ?_, fun u hu y hy => ?_⟩, ?_⟩
    · rw [hview, hcount]
      exact h.le
    · rw [hview, hcount]
      rcases hleaves.holds u hu y hy with ⟨u', hu', -, hold⟩ | rfl
      · exact h.behind u' hu' y hold
      · exact Or.inl rfl
    · rw [Short, Short, hview, hcount]
      rintro (hshort | hstale)
      · exact hshort
      · refine absurd (fun t x hsome _ => ?_) hstale
        rw [hnone] at hsome
        cases hsome
  · -- The message writes what it has read, and two turns more.
    have hkey : SameKey t.call x (p.shared.threadByPhone phone) :=
      h.invariant.held t ht x hgrip
    have hhistory : historyOf ((p.step FreeText.code e).shared.threadByPhone phone) =
        historyOf x ++ t.call.turns :=
      (congrArg historyOf hwrites.view).trans (history_result hwrites.ready hkey).1
    have hlength : (historyOf ((p.step FreeText.code e).shared.threadByPhone phone)).length =
        (historyOf x).length + 2 := by
      rw [hhistory, List.length_append, length_turns hwrites.ready]
    have hcount : writes threadId (p.step FreeText.code e) = writes threadId p + 1 :=
      hwrites.written _
    have hread : (historyOf x).length ≤ initial.length + 2 * writes threadId p := by
      rcases h.behind t ht x hgrip with heq | hle
      · rw [heq]
        exact h.le
      · omega
    refine ⟨⟨hinvariant, by omega, fun u hu y hy => Or.inr ?_⟩, ?_⟩
    · obtain ⟨u', hu', -, hold⟩ := hwrites.holds u hu y hy
      have hle : (historyOf y).length ≤ initial.length + 2 * writes threadId p := by
        rcases h.behind u' hu' y hold with heq | hle
        · rw [heq]
          exact h.le
        · omega
      omega
    · rw [Short, Short, hlength, hcount]
      rintro (hshort | hstale)
      · rcases h.behind t ht x hgrip with heq | hle
        · rw [heq]
          omega
        · omega
      · rcases h.behind t ht x hgrip with heq | hle
        · refine absurd (fun t' x' hsome hgrip' => ?_) hstale
          obtain rfl := Option.some.inj (hwriter.symm.trans hsome)
          obtain rfl := Grip.holds.inj (hgrip.symm.trans hgrip')
          exact heq
        · omega

/-! ## Runs that have come to an end -/

lemma leading_run {d : Db} {t : WhatsAppThread} {user : User}
    (h : d.threadByPhone phone = some (threadId, t, user)) (es : List (Event (FreeText phone))) :
    Bounded threadId t.history (runFrom (Pool.step FreeText.code) (Pool.idle d) es) ∧
      Pool.Leading (overwriting phone threadId).protocol Answered (fun _ => True)
        (runFrom (Pool.step FreeText.code) (Pool.idle d) es) := by
  refine (Lib.invariant (I := fun p => Bounded threadId t.history p ∧
    Pool.Leading (overwriting phone threadId).protocol Answered (fun _ => True) p)
    (fun p e hp => ?_) ⟨bounded_idle h, fun _ ht => absurd ht List.not_mem_nil⟩ es).last
  exact ⟨(hp.1.step e).1, hp.2.preserved FreeText.code (fun c _ => leads_code c)
    (fun _ => hp.1.invariant.relies) e fun _ _ => trivial⟩

/-- Of the calls that have come to an end those have written that have returned. -/
lemma written_of_quiet {p : Talk phone}
    (h : Pool.Leading (overwriting phone threadId).protocol Answered (fun _ => True) p)
    (hquiet : p.Quiet) (q : FreeText phone → Bool) :
    (overwriting phone threadId).written q p = (handled p).countP q := by
  rw [handled, List.countP_map, List.countP_filter]
  refine List.countP_congr fun t ht => ?_
  have hends := (h t ht).2.2
  have hended : ((overwriting phone threadId).grip t.done).hasEnded = t.hasReturned := by
    have hfinished := hquiet t ht
    rw [Thread.Finished] at hfinished
    rw [Thread.hasReturned]
    cases hrest : t.rest with
    | ret a =>
      rw [hrest] at hends
      exact hends.1
    | fail e =>
      rw [hrest] at hends
      exact hends
    | atom l w k =>
      rw [hrest] at hfinished
      cases hfinished
  rw [hended, Bool.and_comm]
  rfl

/-- Every message that has been handled has two turns. -/
lemma length_turns_of_handled {p : Talk phone}
    (h : Pool.Leading (overwriting phone threadId).protocol Answered (fun _ => True) p)
    {c : FreeText phone} (hc : c ∈ handled p) : c.turns.length = 2 := by
  obtain ⟨t, ht, rfl⟩ := List.mem_map.mp hc
  obtain ⟨hmem, hreturned⟩ := List.mem_filter.mp ht
  have hends := (h t hmem).2.2
  rw [Thread.hasReturned] at hreturned
  cases hrest : t.rest with
  | ret a =>
    rw [hrest] at hends
    exact hends.2
  | fail e => rw [hrest] at hreturned; cases hreturned
  | atom l w k => rw [hrest] at hreturned; cases hreturned

/-- The messages of a run none of which has overwritten another history than it had read. -/
lemma history_run {d : Db} {t : WhatsAppThread} {user : User}
    (h : d.threadByPhone phone = some (threadId, t, user)) {es : List (Event (FreeText phone))}
    (hfresh : AllSteps (Pool.step FreeText.code) ((overwriting phone threadId).Fresh SameHistory)
      (Pool.idle d) es) :
    historyOf ((runFrom (Pool.step FreeText.code) (Pool.idle d) es).shared.threadByPhone phone) =
      t.history ++ ((overwriting phone threadId).writeLog FreeText.code (Pool.idle d)
        es).flatMap FreeText.turns := by
  have hstart : historyOf ((overwriting phone threadId).view d) =
      t.history ++ ([] : List (FreeText phone)).flatMap FreeText.turns := by
    have hview : (overwriting phone threadId).view d = some (threadId, t, user) := h
    rw [hview, List.flatMap_nil, List.append_nil]
    rfl
  refine (Overwriting.runs_iff (O := overwriting phone threadId) (F := SameHistory)
    (Q := fun v log => historyOf v = t.history ++ log.flatMap FreeText.turns) code_follows
    trailing_sameKey relies_step (fun c x v log hready hkey hlog => ?_) (.idle ⟨t, user, h⟩) hstart es).mpr hfresh es
    (List.prefix_refl es)
  rw [(history_result hready hkey).1, List.flatMap_append, List.flatMap_singleton,
    ← List.append_assoc, ← hlog, List.append_cancel_right_eq]
  exact Iff.rfl

lemma sum_length_turns {l : List (FreeText phone)} (h : ∀ c ∈ l, c.turns.length = 2) :
    (l.flatMap FreeText.turns).length = 2 * l.length := by
  induction l with
  | nil => rfl
  | cons c l ih =>
    rw [List.flatMap_cons, List.length_append, h c (List.mem_cons_self ..),
      ih fun c' hc' => h c' (List.mem_cons_of_mem c hc'), List.length_cons]
    omega

/-- **No turn is lost**, exactly if every message finds the history as it has read it when it
overwrites it. -/
theorem conversation_iff {d : Db} {t : WhatsAppThread} {user : User}
    (h : d.threadByPhone phone = some (threadId, t, user)) {es : List (Event (FreeText phone))}
    (hquiet : (runFrom (Pool.step FreeText.code) (Pool.idle d) es).Quiet) :
    Complete t.history (runFrom (Pool.step FreeText.code) (Pool.idle d) es) ↔
      AllSteps (Pool.step FreeText.code) ((overwriting phone threadId).Fresh SameHistory)
        (Pool.idle d) es := by
  obtain ⟨hbounded, hleading⟩ := leading_run h es
  constructor
  · rintro ⟨l, hperm, hhistory⟩
    refine AllSteps.of_not_last (I := Bounded threadId t.history)
      (B := fun p => Bounded threadId t.history p ∧ Short threadId t.history p)
      (fun p e hp _ => (hp.step e).1) (fun p e hp hstale => ⟨(hp.step e).1,
        (hp.step e).2 (Or.inr hstale)⟩) (fun p e hp => ⟨(hp.1.step e).1,
        (hp.1.step e).2 (Or.inl hp.2)⟩) (bounded_idle h) ?_
    rintro ⟨-, hshort⟩
    have hlength : (l.flatMap FreeText.turns).length = 2 * l.length :=
      sum_length_turns fun c hc => length_turns_of_handled hleading (hperm.mem_iff.mp hc)
    have hwrites : writes threadId (runFrom (Pool.step FreeText.code) (Pool.idle d) es) =
        l.length := by
      rw [writes, written_of_quiet hleading hquiet, hperm.length_eq, List.countP_true]
    rw [Short, hhistory, List.length_append, hlength, hwrites] at hshort
    exact absurd hshort (lt_irrefl _)
  · intro hfresh
    refine ⟨_, ?_, history_run h hfresh⟩
    classical
    rw [List.perm_iff_count]
    intro c
    have hcount := Overwriting.written_run (O := overwriting phone threadId) code_follows
      trailing_sameKey relies_step (.idle ⟨t, user, h⟩) (fun c' => c' == c) es
    rw [List.count_eq_countP, List.count_eq_countP, ← written_of_quiet hleading hquiet, hcount]
    exact (Nat.zero_add _).symm

end Runs

/-! ## A message that comes while another one is answered -/

def talkUser : User := { email := none, phone := some "+2348012345678", role := .customer }

def talkThread : WhatsAppThread := { phone := "+2348012345678", userId := 0 }

/-- A customer with an empty thread. -/
def talkDb : Db :=
  { user := Table.empty.insert talkUser, whatsAppThread := Table.empty.insert talkThread }

lemma talkDb_thread : talkDb.threadByPhone "+2348012345678" = some (0, talkThread, talkUser) := rfl

lemma normalizePhone_talk : normalizePhone "+2348012345678" = "+2348012345678" := by
  decide +kernel

/-- A message from that number with its answer. -/
def asked (body reply : String) : FreeText "+2348012345678" :=
  ⟨{ rawFrom := "+2348012345678", body
     answer := .ok ⟨reply, "NONE", false⟩, result := ⟨true, false⟩ }, normalizePhone_talk, rfl⟩

theorem conversation_answered :
    Complete [] (runFrom (Pool.step FreeText.code) (Pool.idle talkDb)
      [.start (asked "Hello" "Hello! How can I help?"), .sched 0, .sched 0, .sched 0,
        .sched 0]) := by
  refine (conversation_iff talkDb_thread (by decide +kernel)).mpr ⟨?_, ?_, ?_, ?_, ?_, trivial⟩
  · intro t x hwriter
    cases hwriter
  · intro t x hwriter
    cases hwriter
  · intro t x hwriter
    cases hwriter
  · intro t x hwriter hgrip
    cases hwriter
    cases hgrip
    rfl
  · intro t x hwriter
    cases hwriter

/-- Two messages that are answered at the same time: both are read with the empty history. -/
def twoAtOnce : List (Event (FreeText "+2348012345678")) :=
  [.start (asked "My plot is in Ikeja" "Noted."), .start (asked "I need a survey" "Which plot?"),
    .sched 0, .sched 1, .sched 0, .sched 0, .sched 0, .sched 1, .sched 1, .sched 1]

/-- The second one to write drops the turns of the first. -/
theorem not_conversation :
    (runFrom (Pool.step FreeText.code) (Pool.idle talkDb) twoAtOnce).Quiet ∧
      ¬ Complete [] (runFrom (Pool.step FreeText.code) (Pool.idle talkDb) twoAtOnce) := by
  refine ⟨by decide +kernel, ?_⟩
  rintro ⟨l, hperm, hhistory⟩
  obtain ⟨-, hleading⟩ := leading_run talkDb_thread twoAtOnce
  -- Four turns have been written, and two are there.
  have hlength := congrArg List.length hhistory
  rw [List.nil_append, sum_length_turns fun c hc =>
    length_turns_of_handled hleading (hperm.mem_iff.mp hc), hperm.length_eq] at hlength
  revert hlength
  decide +kernel

end WhatsappService

end Asoju
