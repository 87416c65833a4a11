/-
The history of a thread, page by page.

A page holds the newest messages before a time, and the next page is asked for with the time of the
oldest message received.  The time is compared strictly: of messages that were created at the same
time, those that do not fit on a page are never shown.  `complete_iff` says that this is the only
way to miss a message.
-/
import Asoju.FieldForce.Chat
import Asoju.Lib.Paging

namespace Asoju.FieldForce

open Lib

namespace Chat

/-- The messages of a thread that are not deleted. -/
def visible (threadId : Id) (s : Service) : List (Id × Message) :=
  s.message.rows.filter fun p => p.2.threadId = threadId ∧ p.2.deleted = false

/-- The time of a message. -/
def createdAt (p : Id × Message) : Time := p.2.createdAt

/-- `options?.limit || 50` -/
def pageSize (limit : ℕ) : ℕ := if limit = 0 then 50 else limit

/-- `getMessages` with a time before which the messages are, or without one. -/
def getMessagesBefore (threadId : Id) (before : Option Time) (limit : ℕ) (s : Service) :
    List (Id × Message) :=
  ((sortDesc createdAt (s.message.rows.filter fun p => p.2.threadId = threadId ∧
    p.2.deleted = false ∧ before.all fun before => p.2.createdAt < before)).take
      (pageSize limit)).reverse

/-- All pages: each one is asked for with the time of the oldest message of the page before, until a
page is empty.  There are none when the fuel does not suffice. -/
def history (threadId : Id) (limit : ℕ) (s : Service) :
    ℕ → Option Time → Option (List (List (Id × Message)))
  | 0, _ => none
  | fuel + 1, before =>
      let page := getMessagesBefore threadId before limit s
      match page.head? with
      | none => some []
      | some oldest =>
          (history threadId limit s fuel (some (createdAt oldest))).map fun ps => page :: ps

/-- **The history is complete**: the pages, the oldest one first, show each message that is not
deleted once, in the order of their times. -/
structure Complete (threadId : Id) (s : Service) (ps : List (List (Id × Message))) : Prop where
  once : ps.reverse.flatten.Perm (visible threadId s)
  ordered : ps.reverse.flatten.Pairwise fun p q => createdAt p ≤ createdAt q

/-- The messages of a thread in the order in which they are paged. -/
def newestFirst (threadId : Id) (s : Service) : List (Id × Message) :=
  sortDesc createdAt (visible threadId s)

variable {threadId : Id} {limit : ℕ} {s : Service}

/-- Without a time, a page is what the handlers ask for. -/
lemma getMessagesBefore_none (hlimit : limit ≠ 0) :
    getMessagesBefore threadId none limit s = getMessages threadId limit s := by
  simp only [getMessagesBefore, getMessages, pageSize, hlimit, if_false, Option.all_none, and_true]
  rfl

lemma perm_newestFirst : (newestFirst threadId s).Perm (visible threadId s) :=
  List.perm_insertionSort _ _

lemma pairwise_newestFirst :
    (newestFirst threadId s).Pairwise fun p q => createdAt q ≤ createdAt p := by
  have : Std.Total fun p q : Id × Message => createdAt q ≤ createdAt p :=
    ⟨fun p q => le_total (createdAt q) (createdAt p)⟩
  have : IsTrans (Id × Message) fun p q => createdAt q ≤ createdAt p :=
    ⟨fun _ _ _ hpq hqr => hqr.trans hpq⟩
  exact List.pairwise_insertionSort _ _

/-- A page is read off the messages in their order. -/
lemma getMessagesBefore_eq (before : Option Time) :
    getMessagesBefore threadId before limit s = (((newestFirst threadId s).filter fun p =>
      before.all fun before => createdAt p < before).take (pageSize limit)).reverse := by
  rw [newestFirst, filter_sortDesc, visible, List.filter_filter, getMessagesBefore]
  congr 4
  funext p
  simp only [createdAt, Bool.decide_and, Bool.decide_eq_true]
  ac_rfl

/-- The history is the paging of the messages in their order. -/
lemma history_eq (fuel : ℕ) (before : Option Time) :
    history threadId limit s fuel before =
      (pages createdAt (pageSize limit) fuel ((newestFirst threadId s).filter fun p =>
        before.all fun before => createdAt p < before)).map (List.map List.reverse) := by
  induction fuel generalizing before with
  | zero => rfl
  | succ fuel ih =>
    rw [history, pages, getMessagesBefore_eq, List.head?_reverse]
    set l := (newestFirst threadId s).filter fun p =>
      before.all fun before => decide (createdAt p < before) with hl
    cases hlast : (l.take (pageSize limit)).getLast? with
    | none => rfl
    | some last =>
      have hmem : last ∈ l := List.mem_of_mem_take (List.mem_of_getLast? hlast)
      have hbefore : (before.all fun before => decide (createdAt last < before)) = true := by
        rw [hl] at hmem
        exact (List.mem_filter.mp hmem).2
      -- What comes before the last message of the page has come before the page.
      have hnext : ((newestFirst threadId s).filter fun p =>
          (some (createdAt last)).all fun before => decide (createdAt p < before)) =
          l.filter fun p => createdAt p < createdAt last := by
        rw [hl, List.filter_filter]
        refine List.filter_congr fun p _ => ?_
        cases before with
        | none => simp
        | some before =>
          have hlt : createdAt last < before := of_decide_eq_true hbefore
          by_cases hp : createdAt p < createdAt last
          · simp [hp, hp.trans hlt]
          · simp [hp]
      dsimp only
      rw [ih, hnext, Option.map_map, Option.map_map]
      rfl

/-- **The history of a thread** ends, and it is complete exactly if no page of it ends between two
messages of the same time. -/
theorem complete_iff (threadId : Id) (limit : ℕ) (s : Service) :
    ∃ ps, (∀ fuel, s.message.rows.length < fuel → history threadId limit s fuel none = some ps) ∧
      (Complete threadId s ps ↔
        Separated createdAt (pageSize limit) (newestFirst threadId s)) := by
  have hlimit : 0 < pageSize limit := by
    rw [pageSize]
    split_ifs <;> omega
  have hlength : (newestFirst threadId s).length ≤ s.message.rows.length :=
    perm_newestFirst.length_eq.trans_le (List.length_filter_le _ _)
  have hordered : (newestFirst threadId s).Pairwise fun p q => createdAt q ≤ createdAt p :=
    pairwise_newestFirst
  have hall : ((newestFirst threadId s).filter fun p =>
      (none : Option Time).all fun before => decide (createdAt p < before)) =
      newestFirst threadId s := List.filter_eq_self.mpr fun _ _ => rfl
  obtain ⟨qs, hqs, hsublist, hiff⟩ := pages_spec hlimit hordered
  refine ⟨qs.map List.reverse, fun fuel hfuel => ?_, ?_⟩
  · rw [history_eq, hall, hqs fuel (hlength.trans_lt hfuel), Option.map_some]
  have hflatten : (qs.map List.reverse).reverse.flatten = qs.flatten.reverse :=
    List.reverse_flatten.symm
  rw [← hiff]
  constructor
  · rintro ⟨honce, -⟩
    rw [hflatten] at honce
    refine hsublist.eq_of_length ?_
    rw [← List.length_reverse, honce.length_eq, perm_newestFirst.length_eq]
  · intro hwhole
    refine ⟨?_, ?_⟩
    · rw [hflatten, hwhole]
      exact (List.reverse_perm _).trans perm_newestFirst
    · rw [hflatten, hwhole, List.pairwise_reverse]
      exact pairwise_newestFirst

/-- A message of a thread. -/
def note (createdAt : Time) : Message where
  threadId := 0
  senderId := "a"
  senderRole := .agent
  senderName := "Ada"
  type := "TEXT"
  createdAt

/-- Two messages of the same time. -/
def twoNotes : Service where
  message := (Table.empty.insert (note 1)).insert (note 1)

/-- With pages of one message, one of two messages of the same time is never shown. -/
theorem not_complete :
    ∃ ps, history 0 1 twoNotes 3 none = some ps ∧ ¬ Complete 0 twoNotes ps := by
  refine ⟨_, rfl, fun h => ?_⟩
  exact absurd h.once.length_eq (by decide)

end Chat

end Asoju.FieldForce
