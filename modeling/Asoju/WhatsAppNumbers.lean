/-
One customer for one WhatsApp number.

A number is known twice: a user has it, and a thread has it, and the two are written by different
calls and in different steps.  `whatsAppNumbers_iff` follows the messages, the registrations and the
changes of preferences through any sequence of them, each of which may be cut off.  No two users
ever have the same number, and a thread is given to the user who has the number.  But a message from
a number is answered, and as the customer who has it, exactly if that customer has the thread of the
number, or no user has the number and there is no thread of it.
-/
import Asoju.WhatsApp
import Asoju.Lib.Faults

namespace Asoju

open Lib

/-! ## What is to hold -/

namespace Db

variable (d : Db)

/-- No two users have the same number. -/
def OneUserPerPhone : Prop :=
  ∀ i j u v phone, d.user.get? i = some u → d.user.get? j = some v → u.phone = some phone →
    v.phone = some phone → i = j

/-- The user of a thread is there: the column refers to the users. -/
def ThreadsOwned : Prop :=
  ∀ i t, d.whatsAppThread.get? i = some t → (d.user.get? t.userId).isSome = true

/-- A new thread belongs to the user who has its number, and the earlier ones belong to those they
have belonged to. -/
structure ThreadsToHolders (d d' : Db) : Prop where
  kept : ∀ i t', d'.whatsAppThread.get? i = some t' → i < d.whatsAppThread.next →
    ∃ t, d.whatsAppThread.get? i = some t ∧ t'.phone = t.phone ∧ t'.userId = t.userId
  created : ∀ i t', d'.whatsAppThread.get? i = some t' → d.whatsAppThread.next ≤ i →
    ∃ u, d'.user.get? t'.userId = some u ∧ u.phone = some t'.phone

/-- The first code that is drawn and not taken. -/
def freeReferralCode (draw : ℕ → List UInt8) : Option String :=
  ((List.range 5).map fun attempt => codeOfBytes (draw attempt)).find? fun code =>
    (d.customerByReferralCode code).isNone

/-- A message from the number, run alone, meets no taken value, and is handled as the customer who
has the number, if there is one. -/
def AnsweredAsCustomer (phone : String) (draw : ℕ → List UInt8) : Prop :=
  let answer := ((WhatsappService.resolveThread phone draw).run d).1
  answer ≠ .error Prisma.uniqueViolation ∧
    ∀ i u, d.user.get? i = some u → u.phone = some phone → u.role = .customer →
      ∃ threadId thread, answer = .ok (threadId, thread, i)

/-- A customer who has the number is the one of its thread.  If there is no thread, no user has the
number; or he is no customer, and none of the codes that are drawn is free, so that nothing is
created. -/
def NumberSettled (phone : String) (draw : ℕ → List UInt8) : Prop :=
  match d.threadByPhone phone with
  | some (_, thread, _) =>
      ∀ x ∈ d.userByPhone phone, x.2.role = .customer → x.1 = thread.userId
  | none => ∀ x ∈ d.userByPhone phone, x.2.role ≠ .customer ∧ d.freeReferralCode draw = none

instance numberSettledDecidable (phone : String) (draw : ℕ → List UInt8) :
    Decidable (d.NumberSettled phone draw) :=
  match hthread : d.threadByPhone phone with
  | some (_, thread, _) =>
      decidable_of_iff
        (∀ x ∈ d.userByPhone phone, x.2.role = .customer → x.1 = thread.userId)
        (by rw [NumberSettled, hthread])
  | none =>
      decidable_of_iff
        (∀ x ∈ d.userByPhone phone, x.2.role ≠ .customer ∧ d.freeReferralCode draw = none)
        (by rw [NumberSettled, hthread])

end Db

/-! ## Calls -/

/-- A message, a registration, or a change of preferences. -/
inductive NumberOp
  | handleInboundMessage (m : WhatsappService.InboundMessage)
  | register (salt random : String) (draw : ℕ → List UInt8) (dto : RegisterDto)
  | updatePreferences (user : AuthenticatedUser) (dto : UpdatePreferencesDto)

/-- A call that may fail at one of its steps. -/
structure NumberCall where
  op : NumberOp
  fault : Option (ℕ × HttpError) := none

/-- The database after a call. -/
def NumberCall.step (env : MfaEnv) (c : NumberCall) (d : Db) : Db :=
  match c.op with
  | .handleInboundMessage m =>
      ((WhatsappService.handleInboundMessage m).withFault c.fault).exec d
  | .register salt random draw dto =>
      ((AuthService.register env salt random draw dto).withFault c.fault).exec d
  | .updatePreferences user dto =>
      ((ProfileService.updatePreferences user dto).withFault c.fault).exec d

/-! ## Users and threads after a write -/

namespace Db

variable {d d' d'' : Db} {phone : String}

/-- What the tables promise: a number is one user's, and a thread is some user's. -/
structure Consistent (d : Db) : Prop where
  phones : d.OneUserPerPhone
  threads : d.ThreadsOwned

/-- The users are the same, and so are the numbers and the users of the threads. -/
structure SameNumbers (d d' : Db) : Prop where
  users : d'.user = d.user
  threads : ∀ i t', d'.whatsAppThread.get? i = some t' →
    ∃ t, d.whatsAppThread.get? i = some t ∧ t'.phone = t.phone ∧ t'.userId = t.userId

lemma SameNumbers.of_eq (husers : d'.user = d.user)
    (hthreads : d'.whatsAppThread = d.whatsAppThread) : d.SameNumbers d' where
  users := husers
  threads _ t' ht' := ⟨t', hthreads ▸ ht', rfl, rfl⟩

lemma SameNumbers.consistent (hsame : d.SameNumbers d') (h : d.Consistent) : d'.Consistent where
  phones i j u v := by
    rw [hsame.users]
    exact h.phones i j u v
  threads i t' ht' := by
    obtain ⟨t, ht, -, hid⟩ := hsame.threads i t' ht'
    rw [hsame.users, hid]
    exact h.threads i t ht

lemma ThreadsToHolders.of_eq (h : d'.whatsAppThread = d.whatsAppThread) :
    d.ThreadsToHolders d' where
  kept _ t' ht' _ := ⟨t', h ▸ ht', rfl, rfl⟩
  created i t' ht' hi := by
    rw [h] at ht'
    exact absurd (Table.lt_next_of_get? _ ht') (Nat.not_lt.mpr hi)

lemma ThreadsToHolders.trans_same (h : d.ThreadsToHolders d') (hsame : d'.SameNumbers d'') :
    d.ThreadsToHolders d'' where
  kept i t'' ht'' hi := by
    obtain ⟨t', ht', hphone, hid⟩ := hsame.threads i t'' ht''
    obtain ⟨t, ht, hphone', hid'⟩ := h.kept i t' ht' hi
    exact ⟨t, ht, hphone.trans hphone', hid.trans hid'⟩
  created i t'' ht'' hi := by
    obtain ⟨t', ht', hphone, hid⟩ := hsame.threads i t'' ht''
    rw [hsame.users, hphone, hid]
    exact h.created i t' ht' hi

/-! ### Who has a number -/

lemma userByPhone_eq_none_iff :
    d.userByPhone phone = none ↔ ∀ i u, d.user.get? i = some u → u.phone ≠ some phone := by
  rw [userByPhone, List.find?_eq_none]
  constructor
  · intro h i u hu hphone
    exact h (i, u) (d.user.mem_rows_iff.mpr hu) (decide_eq_true hphone)
  · intro h p hp hphone
    exact h p.1 p.2 (d.user.mem_rows_iff.mp hp) (of_decide_eq_true hphone)

lemma userByPhone_spec {i : Id} {u : User} (h : d.userByPhone phone = some (i, u)) :
    d.user.get? i = some u ∧ u.phone = some phone :=
  ⟨d.user.mem_rows_iff.mp (List.mem_of_find?_eq_some h),
    of_decide_eq_true (List.find?_some h :)⟩

lemma OneUserPerPhone.userByPhone_eq_some_iff (h : d.OneUserPerPhone) {i : Id} {u : User} :
    d.userByPhone phone = some (i, u) ↔ d.user.get? i = some u ∧ u.phone = some phone := by
  refine ⟨userByPhone_spec, fun ⟨hu, hphone⟩ => ?_⟩
  cases hfound : d.userByPhone phone with
  | none => exact absurd hphone (userByPhone_eq_none_iff.mp hfound i u hu)
  | some x =>
    obtain ⟨j, v⟩ := x
    obtain ⟨hv, hphone'⟩ := userByPhone_spec hfound
    obtain rfl := h i j u v phone hu hv hphone hphone'
    rw [Option.some.inj (hu.symm.trans hv)]

/-- No thread is found exactly if there is none. -/
lemma ThreadsOwned.threadByPhone_eq_none_iff (h : d.ThreadsOwned) :
    d.threadByPhone phone = none ↔
      ∀ i t, d.whatsAppThread.get? i = some t → t.phone ≠ phone := by
  rw [threadByPhone]
  cases hfound : d.whatsAppThread.rows.find? fun p => decide (p.2.phone = phone) with
  | none =>
    refine ⟨fun _ i t ht hphone => ?_, fun _ => rfl⟩
    have hnot := List.find?_eq_none.mp hfound (i, t) (d.whatsAppThread.mem_rows_iff.mpr ht)
    exact hnot (decide_eq_true hphone)
  | some p =>
    have hget := d.whatsAppThread.mem_rows_iff.mp (List.mem_of_find?_eq_some hfound)
    obtain ⟨user, huser⟩ := Option.isSome_iff_exists.mp (h p.1 p.2 hget)
    have hphone : p.2.phone = phone := of_decide_eq_true (List.find?_some hfound :)
    rw [Option.bind_some, huser]
    exact ⟨fun hnone => (Option.some_ne_none _ hnone).elim,
      fun hnot => absurd hphone (hnot p.1 p.2 hget)⟩

/-! ### The writes -/

/-- A new user whose number nobody has. -/
lemma Consistent.insertCustomer (h : d.Consistent) {user : User} {customer : Id → Customer}
    (hfree : ∀ p ∈ user.phone, d.userByPhone p = none) :
    (d.insertCustomer user customer).Consistent where
  phones i j u v p hu hv hup hvp := by
    change (d.user.insert user).get? i = some u at hu
    change (d.user.insert user).get? j = some v at hv
    rcases Table.get?_insert_cases hu with hold | ⟨rfl, rfl⟩ <;>
      rcases Table.get?_insert_cases hv with hold' | ⟨rfl, rfl⟩
    · exact h.phones i j u v p hold hold' hup hvp
    · exact absurd hup (userByPhone_eq_none_iff.mp (hfree p hvp) i u hold)
    · exact absurd hvp (userByPhone_eq_none_iff.mp (hfree p hup) j v hold')
    · rfl
  threads i t ht := by
    obtain ⟨u, hu⟩ := Option.isSome_iff_exists.mp (h.threads i t ht)
    change ((d.user.insert user).get? t.userId).isSome = true
    rw [Table.get?_insert_of_some hu]
    rfl

/-- A user changes, but not to a number that another one has. -/
lemma Consistent.modifyUser (h : d.Consistent) {i : Id} {f : User → User}
    (hfree : ∀ u, d.user.get? i = some u → ∀ p, (f u).phone = some p →
      ∀ j v, d.user.get? j = some v → v.phone = some p → j = i) :
    (d.modifyRow .user i f).Consistent where
  phones j k u v p hu hv hup hvp := by
    change (d.user.modify i f).get? j = some u at hu
    change (d.user.modify i f).get? k = some v at hv
    rw [Table.get?_modify] at hu hv
    split_ifs at hu hv with hj hk hk
    · exact hj.trans hk.symm
    · subst hj
      obtain ⟨w, hw, rfl⟩ := Option.map_eq_some_iff.mp hu
      exact (hfree w hw p hup k v hv hvp).symm
    · subst hk
      obtain ⟨w, hw, rfl⟩ := Option.map_eq_some_iff.mp hv
      exact hfree w hw p hvp j u hu hup
    · exact h.phones j k u v p hu hv hup hvp
  threads j t ht := by
    have hthere := h.threads j t ht
    change ((d.user.modify i f).get? t.userId).isSome = true
    rw [Table.get?_modify]
    split_ifs
    · rwa [Option.isSome_map]
    · exact hthere

end Db

/-! ## The calls -/

section Calls

variable {d : Db} {phone : String} {draw : ℕ → List UInt8}

/-- No step of the program writes users or threads. -/
def WritesElsewhere {γ : Type} (m : Svc γ) : Prop :=
  m.EachStep fun _ s s' => s'.user = s.user ∧ s'.whatsAppThread = s.whatsAppThread

/-- Every step of the program leaves the users, and the numbers and the users of the threads. -/
def LeavesNumbers {γ : Type} (m : Svc γ) : Prop := m.EachStep fun _ => Db.SameNumbers

lemma WritesElsewhere.leavesNumbers {γ : Type} {m : Svc γ} (h : WritesElsewhere m) :
    LeavesNumbers m :=
  Prog.EachStep.mono (fun _ _ _ hs => .of_eq hs.1 hs.2) h

/-! ### Codes -/

lemma run_attemptCodes (label : String) (attempts : List ℕ) :
    (attemptCodes referralCodeExists label draw attempts).run d =
      (match (attempts.map fun attempt => codeOfBytes (draw attempt)).find? fun code =>
          (d.customerByReferralCode code).isNone with
        | some code => .ok code
        | none => .error (.internal s!"Failed to generate a unique {label} code"), d) := by
  induction attempts with
  | nil => rfl
  | cons attempt rest ih =>
    rw [attemptCodes, referralCodeExists, Prog.run_bind_ok (Prisma.run_query d _ _), List.map_cons,
      List.find?_cons]
    cases d.customerByReferralCode (codeOfBytes (draw attempt)) with
    | none => rfl
    | some x => exact ih

/-- The first free code, if there is one. -/
lemma run_generateUniqueReferralCode :
    (generateUniqueReferralCode draw).run d =
      (match d.freeReferralCode draw with
        | some code => .ok code
        | none => .error (.internal "Failed to generate a unique referral code"), d) :=
  run_attemptCodes "referral" (List.range 5)

lemma eachStep_attemptCodes (label : String) (attempts : List ℕ) :
    (attemptCodes referralCodeExists label draw attempts).EachStep fun _ s s' => s' = s := by
  induction attempts with
  | nil => trivial
  | cons attempt rest ih =>
    refine fun s => ⟨rfl, ?_⟩
    change (if (s.customerByReferralCode (codeOfBytes (draw attempt))).isSome = true then _
      else pure _ : Svc String).EachStep _
    split_ifs
    · exact ih
    · trivial

/-! ### Messages -/

lemma elsewhere_audit : WritesElsewhere Prisma.audit :=
  fun _ => ⟨⟨rfl, rfl⟩, trivial⟩

lemma elsewhere_issueTokens (env : AuthEnv) (random : String) (userId : Id) (role : Role) :
    WritesElsewhere (AuthService.issueTokens env random userId role) := by
  rw [AuthService.issueTokens]
  refine .bind (fun s => ⟨⟨rfl, rfl⟩, trivial⟩) fun now => ?_
  refine .bind (fun s => ?_) fun _ => trivial
  dsimp only
  split_ifs <;> exact ⟨⟨rfl, rfl⟩, trivial⟩

lemma elsewhere_transitionCase (actor : AuthenticatedUser) (caseId : Id)
    (toStatus : CaseStatus) (reason : Option String) :
    WritesElsewhere (CasesService.transitionCase actor caseId toStatus reason) := by
  refine .bind (fun s => ⟨⟨rfl, rfl⟩, trivial⟩) fun found => ?_
  cases found with
  | none => trivial
  | some serviceCase =>
    refine .bind ?_ fun _ => ?_
    · rw [assertValidTransition]
      split_ifs <;> trivial
    · refine .bind (fun s => ⟨⟨rfl, rfl⟩, ?_⟩) fun _ =>
        .bind (fun s => ⟨⟨rfl, rfl⟩, trivial⟩) fun _ => trivial
      beta_reduce
      cases (Rel.serviceCase.get s).get? caseId <;> trivial

lemma elsewhere_recordApproval (actor : AuthenticatedUser) (caseId : Id)
    (action : ApprovalAction) (note : Option String) :
    WritesElsewhere (CasesService.recordApproval actor caseId action note) := by
  refine .bind (fun s => ⟨⟨rfl, rfl⟩, trivial⟩) fun found => ?_
  cases found with
  | none => trivial
  | some serviceCase =>
    refine .bind (fun s => ⟨⟨rfl, rfl⟩, trivial⟩) fun approval => ?_
    dsimp only
    split_ifs
    · exact .bind (elsewhere_transitionCase _ _ _ _) fun _ =>
        .bind (elsewhere_transitionCase _ _ _ _) fun _ => trivial
    · exact .bind (elsewhere_transitionCase _ _ _ _) fun _ => trivial
    · trivial

namespace WhatsappService

lemma elsewhere_answerWith (reply : String) (result : SendResult) :
    WritesElsewhere (answerWith reply result) :=
  .bind elsewhere_audit fun _ => trivial

lemma elsewhere_handleCaseApprovalReply (userId : Id) (action : ApprovalAction) (caseId : Id)
    (result : SendResult) :
    WritesElsewhere (handleCaseApprovalReply userId action caseId result) := by
  refine .bind (fun s => ⟨⟨rfl, rfl⟩, trivial⟩) fun found => ?_
  rcases found with _ | ⟨serviceCase, _ | owner⟩
  · trivial
  · trivial
  · dsimp only
    split_ifs
    · trivial
    · exact .bind (elsewhere_recordApproval _ _ _ _) fun _ => elsewhere_answerWith _ _

/-- A thread keeps its number and its user when its history is written. -/
lemma sameNumbers_modifyRow (threadId : Id) (history : List ConversationTurn) (d : Db) :
    d.SameNumbers (d.modifyRow .whatsAppThread threadId fun t => { t with history }) where
  users := rfl
  threads i t' ht' := by
    change (d.whatsAppThread.modify threadId _).get? i = some t' at ht'
    rw [Table.get?_modify] at ht'
    split_ifs at ht'
    · obtain ⟨t, ht, rfl⟩ := Option.map_eq_some_iff.mp ht'
      exact ⟨t, ht, rfl, rfl⟩
    · exact ⟨t', ht', rfl, rfl⟩

lemma leavesNumbers_converse (m : InboundMessage) (threadId : Id) (thread : WhatsAppThread) :
    LeavesNumbers (converse m threadId thread) := by
  refine .bind (fun s => ⟨.of_eq rfl rfl, ?_⟩) fun turn =>
    .bind (fun s => ⟨sameNumbers_modifyRow threadId _ s, ?_⟩) fun _ =>
      (elsewhere_answerWith _ _).leavesNumbers
  · beta_reduce
    cases m.answer <;> trivial
  · beta_reduce
    cases (Rel.whatsAppThread.get s).get? threadId <;> trivial

/-- The database with a user for the number, and no thread yet. -/
def withCustomer (d : Db) (phone code : String) : Db :=
  d.insertCustomer (whatsAppUser phone) fun userId =>
    { userId, fullName := "WhatsApp Customer", referralCode := code }

/-- The database with a user for the number and his thread. -/
def withThread (d : Db) (phone code : String) : Db :=
  (withCustomer d phone code).insertRow .whatsAppThread { phone, userId := d.user.next }

/-- What holds at every moment of a message that comes in when the database is as in `d`. -/
def Sound (d d' : Db) : Prop := d'.Consistent ∧ d.ThreadsToHolders d'

lemma Sound.refl (h : d.Consistent) : Sound d d := ⟨h, .of_eq rfl⟩

lemma Sound.trans_same {d' d'' : Db} (hsame : d'.SameNumbers d'') (h : Sound d d') : Sound d d'' :=
  ⟨hsame.consistent h.1, h.2.trans_same hsame⟩

lemma sound_withCustomer (h : d.Consistent) (hfree : d.userByPhone phone = none) (code : String) :
    Sound d (withCustomer d phone code) :=
  ⟨h.insertCustomer fun _ hp => Option.some.inj hp ▸ hfree, .of_eq rfl⟩

/-- The thread is given to the user who has been created with its number. -/
lemma sound_withThread (h : d.Consistent) (hfree : d.userByPhone phone = none) (code : String) :
    Sound d (withThread d phone code) := by
  have huser : (withThread d phone code).user.get? d.user.next = some (whatsAppUser phone) :=
    Table.get?_insert_self d.user (whatsAppUser phone)
  obtain ⟨hphones, hthreads⟩ := (sound_withCustomer h hfree code).1
  refine ⟨⟨hphones, fun i t ht => ?_⟩, ⟨fun i t' ht' hi => ?_, fun i t' ht' hi => ?_⟩⟩
  · change (d.whatsAppThread.insert _).get? i = some t at ht
    rcases Table.get?_insert_cases ht with hold | ⟨rfl, rfl⟩
    · exact hthreads i t hold
    · rw [huser]
      rfl
  · change (d.whatsAppThread.insert _).get? i = some t' at ht'
    rcases Table.get?_insert_cases ht' with hold | ⟨rfl, rfl⟩
    · exact ⟨t', hold, rfl, rfl⟩
    · exact absurd hi (Nat.lt_irrefl _)
  · change (d.whatsAppThread.insert _).get? i = some t' at ht'
    rcases Table.get?_insert_cases ht' with hold | ⟨rfl, rfl⟩
    · exact absurd (Table.lt_next_of_get? _ hold) (Nat.not_lt.mpr hi)
    · exact ⟨whatsAppUser phone, huser, rfl⟩

/-- A user is created if nobody has the number and nobody the code. -/
lemma createCustomer_cases (d : Db) (phone code : String) :
    ((d.userByPhone phone).isSome ∨ (d.customerByReferralCode code).isSome) ∧
        (createCustomer phone code).run d = (.error Prisma.uniqueViolation, d) ∨
      d.userByPhone phone = none ∧ d.customerByReferralCode code = none ∧
        (createCustomer phone code).run d = (.ok d.user.next, withCustomer d phone code) := by
  by_cases htaken : (d.userByPhone phone).isSome ∨ (d.customerByReferralCode code).isSome
  · refine Or.inl ⟨htaken, ?_⟩
    rw [createCustomer, createCustomerUser, Prog.run_atom]
    simp only [htaken, decide_true, if_true]
    rfl
  · have hfree := not_or.mp htaken
    refine Or.inr ⟨Option.not_isSome_iff_eq_none.mp hfree.1,
      Option.not_isSome_iff_eq_none.mp hfree.2, ?_⟩
    rw [createCustomer, createCustomerUser, Prog.run_atom]
    simp only [htaken, decide_false, Bool.false_eq_true, if_false]
    rfl

lemma throughout_createCustomer (h : d.Consistent) (code : String) :
    (createCustomer phone code).Throughout (Sound d) d := by
  refine ⟨.refl h, ?_⟩
  beta_reduce
  split_ifs with htaken
  · exact .refl h
  · have hfree := not_or.mp fun hor => htaken (decide_eq_true hor)
    exact sound_withCustomer h (Option.not_isSome_iff_eq_none.mp hfree.1) code

/-- The user is created with its thread. -/
lemma throughout_createThread (h : d.Consistent) (hfree : d.userByPhone phone = none)
    (code : String) (taken : Db → Bool) :
    (Prisma.createUnique .whatsAppThread taken fun _ =>
      ({ phone, userId := d.user.next } : WhatsAppThread)).Throughout (Sound d)
      (withCustomer d phone code) := by
  refine ⟨sound_withCustomer h hfree code, ?_⟩
  beta_reduce
  split_ifs
  · exact sound_withCustomer h hfree code
  · exact sound_withThread h hfree code

lemma throughout_resolveThread (h : d.Consistent) :
    (resolveThread phone draw).Throughout (Sound d) d := by
  refine .bind ⟨.refl h, .refl h⟩ fun found s' hrun _ => ?_
  obtain ⟨rfl, rfl⟩ : d.threadByPhone phone = found ∧ d = s' := by
    rw [Prisma.run_query] at hrun
    cases hrun
    exact ⟨rfl, rfl⟩
  cases d.threadByPhone phone with
  | some x => exact .refl h
  | none =>
    refine .bind ((eachStep_attemptCodes _ _).throughout (fun _ _ heq hs => heq ▸ hs) (.refl h))
      fun code s' hcode _ => ?_
    obtain rfl : d = s' := (congrArg Prod.snd (run_generateUniqueReferralCode.symm.trans hcode) :)
    refine .bind (throughout_createCustomer h code) fun userId s' hcreate _ => ?_
    rcases createCustomer_cases d phone code with ⟨-, htaken⟩ | ⟨hfree, -, hcreated⟩
    · rw [htaken] at hcreate
      cases hcreate
    · obtain ⟨rfl, rfl⟩ : d.user.next = userId ∧ withCustomer d phone code = s' := by
        rw [hcreated] at hcreate
        cases hcreate
        exact ⟨rfl, rfl⟩
      refine .bind (throughout_createThread h hfree code _) fun threadId s' _ hsound => ?_
      exact .bind (elsewhere_audit.leavesNumbers.throughout (fun _ _ => .trans_same) hsound)
        fun _ _ _ hlast => hlast

lemma throughout_handleInboundMessage (h : d.Consistent) (m : InboundMessage) :
    (handleInboundMessage m).Throughout (Sound d) d := by
  refine .bind (throughout_resolveThread h) fun x s' _ hsound => ?_
  obtain ⟨threadId, thread, userId⟩ := x
  dsimp only
  cases m.button with
  | none =>
    exact (leavesNumbers_converse m threadId thread).throughout (fun _ _ => .trans_same) hsound
  | some y =>
    exact (elsewhere_handleCaseApprovalReply userId y.1 y.2 m.result).leavesNumbers.throughout
      (fun _ _ => .trans_same) hsound

end WhatsappService

/-! ### Registrations -/

/-- Users may be added or changed; threads are not. -/
def KeepsThreads (d d' : Db) : Prop :=
  (d.Consistent → d'.Consistent) ∧ d'.whatsAppThread = d.whatsAppThread

lemma KeepsThreads.refl (d : Db) : KeepsThreads d d := ⟨id, rfl⟩

lemma WritesElsewhere.keepsThreads {γ : Type} {m : Svc γ} (h : WritesElsewhere m) :
    m.EachStep fun _ => KeepsThreads :=
  Prog.EachStep.mono (fun _ _ _ hs => ⟨(Db.SameNumbers.of_eq hs.1 hs.2).consistent, hs.2⟩) h

lemma keepsThreads_createCustomerUser {taken : Db → Bool} {user : User}
    {customer : Id → Customer}
    (h : ∀ s, taken s = false → ∀ p ∈ user.phone, s.userByPhone p = none) :
    (createCustomerUser taken user customer).EachStep fun _ => KeepsThreads := by
  intro s
  dsimp only
  split_ifs with htaken
  · exact ⟨.refl s, trivial⟩
  · exact ⟨⟨fun hs => hs.insertCustomer (h s (Bool.eq_false_iff.mpr htaken)), rfl⟩, trivial⟩

lemma keepsThreads_findReferrer (env : MfaEnv) (code : Option String) :
    (AuthService.findReferrer env code).EachStep fun _ => KeepsThreads := by
  rw [AuthService.findReferrer]
  cases nonEmpty code with
  | none => trivial
  | some code => exact fun s => ⟨.refl s, trivial⟩

lemma keepsThreads_findPartner (env : MfaEnv) (code : Option String) :
    (AuthService.findPartner env code).EachStep fun _ => KeepsThreads := by
  rw [AuthService.findPartner]
  cases nonEmpty code with
  | none => trivial
  | some code => exact fun s => ⟨.refl s, trivial⟩

lemma keepsThreads_register (env : MfaEnv) (salt random : String) (draw : ℕ → List UInt8)
    (dto : RegisterDto) :
    (AuthService.register env salt random draw dto).EachStep fun _ => KeepsThreads := by
  refine .bind (fun s => ⟨.refl s, trivial⟩) fun existing => ?_
  dsimp only
  split_ifs
  · trivial
  refine .bind (fun s => ⟨.refl s, trivial⟩) fun existingPhone => ?_
  split_ifs
  · trivial
  refine .bind (.mono (fun _ s s' heq => heq ▸ .refl s) (eachStep_attemptCodes _ _)) fun code => ?_
  refine .bind (keepsThreads_findReferrer env _) fun referrer => ?_
  refine .bind (keepsThreads_findPartner env _) fun partner => ?_
  refine .bind (keepsThreads_createCustomerUser fun s htaken p hp => ?_) fun userId => ?_
  · obtain rfl : dto.phone = p := Option.some.inj hp
    have hfree := not_or.mp (of_decide_eq_false htaken)
    have huser := not_or.mp (of_decide_eq_false (Bool.eq_false_iff.mpr hfree.1))
    exact Option.not_isSome_iff_eq_none.mp huser.2
  · exact .bind elsewhere_audit.keepsThreads fun _ =>
      .bind (elsewhere_issueTokens _ _ _ _).keepsThreads fun _ => trivial

/-! ### Preferences -/

lemma keepsThreads_updateUser (userId : Id) (dto : UpdatePreferencesDto) :
    (ProfileService.updateUser userId dto).EachStep fun _ => KeepsThreads := by
  intro s
  dsimp only
  refine ⟨?_, ?_⟩
  · split_ifs with htaken
    · exact .refl s
    · refine ⟨fun hs => hs.modifyUser fun u hu p hp j v hv hphone => ?_, rfl⟩
      cases hdto : dto.phone with
      | none =>
        -- The number is the one that the user has had.
        have hold : u.phone = some p := by
          rwa [UpdatePreferencesDto.applyTo, hdto, Option.none_or] at hp
        exact hs.phones j userId v u p hv hu hphone hold
      | some q =>
        obtain rfl : q = p := by
          rw [UpdatePreferencesDto.applyTo, hdto, Option.some_or] at hp
          exact Option.some.inj hp
        by_contra hne
        rw [hdto, Option.any_some, Db.phoneTakenFor, List.any_eq_true] at htaken
        exact htaken ⟨(j, v), s.user.mem_rows_iff.mpr hv, decide_eq_true ⟨hne, hphone⟩⟩
  · cases s.user.get? userId with
    | none => trivial
    | some user =>
      dsimp only
      split_ifs <;> trivial

lemma keepsThreads_updateRows (userId : Id) (dto : UpdatePreferencesDto) :
    (ProfileService.updateRows userId dto).EachStep fun _ => KeepsThreads := by
  refine .bind (keepsThreads_updateUser userId dto) fun user => ?_
  cases dto.fullName with
  | none => trivial
  | some fullName =>
    refine .bind (fun s => ⟨⟨fun hs => ?_, rfl⟩, ?_⟩) fun _ => trivial
    · refine Db.SameNumbers.consistent ?_ hs
      exact .of_eq rfl rfl
    · beta_reduce
      split_ifs <;> trivial

lemma keepsThreads_updatePreferences (user : AuthenticatedUser) (dto : UpdatePreferencesDto) :
    (ProfileService.updatePreferences user dto).EachStep fun _ => KeepsThreads := by
  refine .bind (fun s => ⟨?_, ?_⟩) fun userRow =>
    .bind elsewhere_audit.keepsThreads fun _ => .bind (fun s => ⟨.refl s, trivial⟩) fun _ => trivial
  · have hkeeps := (keepsThreads_updateRows user.id dto).keeps KeepsThreads.refl
      (fun _ _ _ hab hbc => ⟨hbc.1 ∘ hab.1, hbc.2.trans hab.2⟩) s
    rw [Prog.exec] at hkeeps
    rw [Prisma.committed]
    rcases hrun : (ProfileService.updateRows user.id dto).run s with ⟨r | r, s'⟩
    · exact .refl s
    · rwa [hrun] at hkeeps
  · beta_reduce
    cases ((ProfileService.updateRows user.id dto).run s).1 <;> trivial

/-! ## What a call does -/

/-- **A call**, wherever it is cut off: a number stays one user's, and a thread that is created is
given to the user who has the number. -/
theorem NumberCall.sound_step (env : MfaEnv) (h : d.Consistent) (c : NumberCall) :
    WhatsappService.Sound d (c.step env d) := by
  have hkeeps : ∀ {γ : Type} {m : Svc γ}, (m.EachStep fun _ => KeepsThreads) →
      WhatsappService.Sound d ((m.withFault c.fault).exec d) := by
    intro γ m hm
    obtain ⟨hconsistent, hthreads⟩ := hm.throughout (Q := KeepsThreads d)
      (fun _ _ hab hda => ⟨hab.1 ∘ hda.1, hab.2.trans hda.2⟩) (.refl d) |>.exec_withFault c.fault
    exact ⟨hconsistent h, .of_eq hthreads⟩
  rw [NumberCall.step]
  cases c.op with
  | handleInboundMessage m =>
    exact (WhatsappService.throughout_handleInboundMessage h m).exec_withFault c.fault
  | register salt random draw dto => exact hkeeps (keepsThreads_register env salt random draw dto)
  | updatePreferences user dto => exact hkeeps (keepsThreads_updatePreferences user dto)

/-! ## What a message alone comes to -/

lemma customerByReferralCode_of_free {code : String} (h : d.freeReferralCode draw = some code) :
    d.customerByReferralCode code = none := by
  have hfree := List.find?_some h
  exact Option.isNone_iff_eq_none.mp hfree

namespace WhatsappService

lemma run_resolveThread_of_some {threadId : Id} {thread : WhatsAppThread} {user : User}
    (h : d.threadByPhone phone = some (threadId, thread, user)) :
    (resolveThread phone draw).run d = (.ok (threadId, thread, thread.userId), d) := by
  rw [resolveThread, Prog.run_bind_ok (Prisma.run_query d _ _), h]
  rfl

/-- No code is free: nothing is created. -/
lemma run_resolveThread_of_no_code (h : d.threadByPhone phone = none)
    (hcode : d.freeReferralCode draw = none) :
    (resolveThread phone draw).run d =
      (.error (.internal "Failed to generate a unique referral code"), d) := by
  rw [resolveThread, Prog.run_bind_ok (Prisma.run_query d _ _), h]
  dsimp only
  rw [Prog.run_bind, run_generateUniqueReferralCode, hcode]

/-- A user has the number: he cannot be created again. -/
lemma run_resolveThread_of_taken (h : d.threadByPhone phone = none) {code : String}
    (hcode : d.freeReferralCode draw = some code) (htaken : (d.userByPhone phone).isSome) :
    (resolveThread phone draw).run d = (.error Prisma.uniqueViolation, d) := by
  rw [resolveThread, Prog.run_bind_ok (Prisma.run_query d _ _), h]
  dsimp only
  rw [Prog.run_bind, run_generateUniqueReferralCode, hcode]
  dsimp only
  rcases createCustomer_cases d phone code with ⟨-, hrun⟩ | ⟨hfree, -, -⟩
  · rw [Prog.run_bind, hrun]
  · rw [hfree] at htaken
    cases htaken

/-- Nobody has the number: the user and his thread are created. -/
lemma run_resolveThread_of_free (hd : d.Consistent) (h : d.threadByPhone phone = none)
    {code : String} (hcode : d.freeReferralCode draw = some code)
    (hfree : d.userByPhone phone = none) :
    (resolveThread phone draw).run d =
      (.ok (d.whatsAppThread.next, { phone, userId := d.user.next }, d.user.next),
        withThread d phone code) := by
  have hnew : ((withCustomer d phone code).whatsAppThread.values.any fun t =>
      decide (t.phone = phone ∨ t.userId = d.user.next)) = false := by
    rw [List.any_eq_false]
    intro t ht htaken
    obtain ⟨i, hi⟩ := (Table.mem_values_iff _).mp ht
    rcases of_decide_eq_true htaken with hphone | hid
    · exact hd.threads.threadByPhone_eq_none_iff.mp h i t hi hphone
    · have howned := hd.threads i t hi
      rw [hid, Table.get?_next] at howned
      cases howned
  rw [resolveThread, Prog.run_bind_ok (Prisma.run_query d _ _), h]
  dsimp only
  rw [Prog.run_bind, run_generateUniqueReferralCode, hcode]
  dsimp only
  rcases createCustomer_cases d phone code with ⟨htaken, -⟩ | ⟨-, -, hrun⟩
  · rw [hfree, customerByReferralCode_of_free hcode] at htaken
    simp at htaken
  · rw [Prog.run_bind_ok hrun, Prog.run_bind, Prisma.run_createUnique, hnew]
    rfl

end WhatsappService

/-- A message from the number is answered as the customer's exactly if the number is settled. -/
theorem Db.Consistent.answeredAsCustomer_iff (h : d.Consistent) :
    d.AnsweredAsCustomer phone draw ↔ d.NumberSettled phone draw := by
  rw [Db.AnsweredAsCustomer, Db.NumberSettled]
  cases hthread : d.threadByPhone phone with
  | some x =>
    obtain ⟨threadId, thread, user⟩ := x
    rw [WhatsappService.run_resolveThread_of_some hthread]
    dsimp only
    constructor
    · rintro ⟨-, hcustomer⟩ ⟨i, u⟩ hfound hrole
      obtain ⟨hu, hphone⟩ := Db.userByPhone_spec hfound
      obtain ⟨threadId', thread', heq⟩ := hcustomer i u hu hphone hrole
      cases heq
      rfl
    · intro hsettled
      refine ⟨nofun, fun i u hu hphone hrole => ⟨threadId, thread, ?_⟩⟩
      have hsame : i = thread.userId :=
        hsettled (i, u) (h.phones.userByPhone_eq_some_iff.mpr ⟨hu, hphone⟩) hrole
      rw [hsame]
  | none =>
    cases hcode : d.freeReferralCode draw with
    | none =>
      rw [WhatsappService.run_resolveThread_of_no_code hthread hcode]
      dsimp only
      constructor
      · rintro ⟨-, hcustomer⟩ ⟨i, u⟩ hfound
        refine ⟨fun hrole => ?_, rfl⟩
        obtain ⟨hu, hphone⟩ := Db.userByPhone_spec hfound
        obtain ⟨_, _, heq⟩ := hcustomer i u hu hphone hrole
        cases heq
      · intro hsettled
        refine ⟨by decide, fun i u hu hphone hrole => ?_⟩
        have hfound := h.phones.userByPhone_eq_some_iff.mpr ⟨hu, hphone⟩
        exact absurd hrole (hsettled (i, u) hfound).1
    | some code =>
      cases huser : d.userByPhone phone with
      | some x =>
        rw [WhatsappService.run_resolveThread_of_taken hthread hcode (by rw [huser]; rfl)]
        refine ⟨fun hanswered => absurd rfl hanswered.1, fun hsettled => ?_⟩
        cases (hsettled x rfl).2
      | none =>
        rw [WhatsappService.run_resolveThread_of_free h hthread hcode huser]
        refine ⟨fun _ x hx => absurd hx (Option.not_mem_none x), fun _ => ⟨?_, ?_⟩⟩
        · intro heq
          cases heq
        · intro i u hu hphone
          exact absurd hphone (Db.userByPhone_eq_none_iff.mp huser i u hu)

end Calls

/-! ## Runs -/

/-- **One number, one customer.**  Through every sequence of calls, each of which may be cut off, no
two users have the same number, and a thread is given to the user who has its number.  In every
state that is reached, a message from a number, run alone, meets no taken value and is handled as
the customer who has the number exactly if this customer is the one of the number's thread, or there
is neither a thread nor a user with the number. -/
theorem whatsAppNumbers_iff (env : MfaEnv) {d : Db} (h : d.Consistent) (cs : List NumberCall) :
    AllStates (fun d c => NumberCall.step env c d)
      (fun d' => d'.OneUserPerPhone ∧
        ∀ phone draw, d'.AnsweredAsCustomer phone draw ↔ d'.NumberSettled phone draw) d cs ∧
    AllSteps (fun d c => NumberCall.step env c d)
      (fun d' c => d'.ThreadsToHolders (c.step env d')) d cs := by
  have hall : AllSteps (fun d c => NumberCall.step env c d) (fun _ _ => True) d cs :=
    .of_forall_mem (fun _ _ _ => trivial) d
  have hstep : ∀ s c, s.Consistent → True → (NumberCall.step env c s).Consistent :=
    fun s c hs _ => (NumberCall.sound_step env hs c).1
  constructor
  · exact (hall.invariant hstep h).mono fun s hs =>
      ⟨hs.phones, fun _ _ => hs.answeredAsCustomer_iff⟩
  · exact hall.of_invariant hstep (fun s c hs _ => (NumberCall.sound_step env hs c).2) h

/-- SHA-256 where the runs below need it. -/
def numberSha256 (text : String) : String :=
  (List.lookup text [
    ("0:1002:0.5",
      "691f0d889166482c5245bd959a0f968da1346a073957d9e21c78f372d3ef2bfb"),
    ("691f0d889166482c5245bd959a0f968da1346a073957d9e21c78f372d3ef2bfb",
      "d44d3e3cfd58c1f110fe2c87cf966e7d994457ec8888ad2895e61bfa8bf6392a"),
    ("1:1007:0.5",
      "cd77ac1cd1598a745c779b3e2fdd23b41be2c65ed6e3405d5081ce2da44277a0"),
    ("cd77ac1cd1598a745c779b3e2fdd23b41be2c65ed6e3405d5081ce2da44277a0",
      "29a252baec9843a92006922e80ad0587942d43ae42b96d1bf04149c5bcc16e58")]).getD ""

def numberEnv : MfaEnv where
  sha256 := numberSha256
  argon2Hash salt password := salt ++ password
  argon2Verify hash password := hash.endsWith password
  hmacSha1 _ message := message
  toUpperCase text := text.toUpper
  signMfaToken payload := payload.purpose
  openMfaToken _ := none

/-- A database without users. -/
def noUsersDb : Db where
  clock := 1000

lemma consistent_noUsersDb : noUsersDb.Consistent where
  phones i j u v phone hu := by cases hu
  threads i t ht := by cases ht

def firstMessage : NumberCall where
  op := .handleInboundMessage
    { rawFrom := "+2348012345678", body := "Hello"
      answer := .ok ⟨"Hello! How can I help?", "NONE", false⟩, result := ⟨true, false⟩ }

def registerAda : NumberCall where
  op := .register "salt" "0.5" (fun attempt => [attempt.toUInt8, 1, 2, 3, 4, 5])
    { fullName := "Ada", email := "ada@b.c", phone := "+2348012345678", password := "password"
      countryOfResidence := "GB", billingCurrency := .gbp }

/-- The user of the first message gets another number. -/
def changeNumber : NumberCall where
  op := .updatePreferences ⟨0, .customer⟩ { phone := some "+2348098765432" }

/-- The message fails between its user and its thread. -/
def cutOffMessage : NumberCall :=
  { firstMessage with fault := some (3, .internal "Connection lost") }

/-- The database after some calls. -/
def afterCalls (cs : List NumberCall) : Db :=
  runFrom (fun d c => NumberCall.step numberEnv c d) noUsersDb cs

/-- The bytes for the code of a user who would be new. -/
def otherDraw (attempt : ℕ) : List UInt8 := [attempt.toUInt8, 9, 9, 9, 9, 9]

/-- A customer who has registered cannot write from his number, nor can one whose first message has
been cut off; and a customer whose number was another one's before is taken for that one. -/
theorem whatsAppNumbers_not_customers :
    ¬ AllStates (fun d c => NumberCall.step numberEnv c d)
        (fun d' => ∀ phone draw, d'.AnsweredAsCustomer phone draw) noUsersDb [registerAda] ∧
      ¬ AllStates (fun d c => NumberCall.step numberEnv c d)
        (fun d' => ∀ phone draw, d'.AnsweredAsCustomer phone draw) noUsersDb [cutOffMessage] ∧
      ¬ AllStates (fun d c => NumberCall.step numberEnv c d)
        (fun d' => ∀ phone draw, d'.AnsweredAsCustomer phone draw) noUsersDb
        [firstMessage, changeNumber, registerAda] := by
  refine ⟨fun h => ?_, fun h => ?_, fun h => ?_⟩
  · have hanswer : ((WhatsappService.resolveThread "+2348012345678" otherDraw).run
        (afterCalls [registerAda])).1 = .error Prisma.uniqueViolation := by decide +kernel
    exact (h.last "+2348012345678" otherDraw).1 hanswer
  · have hanswer : ((WhatsappService.resolveThread "+2348012345678" otherDraw).run
        (afterCalls [cutOffMessage])).1 = .error Prisma.uniqueViolation := by decide +kernel
    exact (h.last "+2348012345678" otherDraw).1 hanswer
  · have hholder : ((afterCalls [firstMessage, changeNumber, registerAda]).user.get? 1).map
        (fun u => (u.phone, u.role)) = some (some "+2348012345678", .customer) := by
      decide +kernel
    have hanswer : ((WhatsappService.resolveThread "+2348012345678" otherDraw).run
        (afterCalls [firstMessage, changeNumber, registerAda])).1.toOption.map (fun x => x.2.2) =
          some 0 := by decide +kernel
    obtain ⟨u, hu, heq⟩ := Option.map_eq_some_iff.mp hholder
    obtain ⟨hphone, hrole⟩ := Prod.mk.inj heq
    obtain ⟨threadId, thread, hone⟩ := (h.last "+2348012345678" otherDraw).2 1 u hu hphone hrole
    rw [afterCalls, hone] at hanswer
    cases hanswer

/-- A number that moves from one customer to another. -/
theorem whatsAppNumbers_iff_moved :
    AllStates (fun d c => NumberCall.step numberEnv c d)
      (fun d' => d'.OneUserPerPhone ∧
        ∀ phone draw, d'.AnsweredAsCustomer phone draw ↔ d'.NumberSettled phone draw) noUsersDb
      [firstMessage, changeNumber, registerAda] ∧
    AllSteps (fun d c => NumberCall.step numberEnv c d)
      (fun d' c => d'.ThreadsToHolders (c.step numberEnv d')) noUsersDb
      [firstMessage, changeNumber, registerAda] :=
  whatsAppNumbers_iff numberEnv consistent_noUsersDb [firstMessage, changeNumber, registerAda]

example : (afterCalls [firstMessage, firstMessage]).NumberSettled "+2348012345678" otherDraw ∧
    ¬ (afterCalls [registerAda]).NumberSettled "+2348012345678" otherDraw := by
  decide +kernel

end Asoju
