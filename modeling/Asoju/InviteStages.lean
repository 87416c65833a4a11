/-
What the calls around an invite do to beneficiaries and invites, step by step.

An acceptance creates the account first, and makes it the beneficiary's in a step of its own; a new
invite uses up the earlier ones first, and is created in a step of its own.  Each call may fail at
any of its steps.  `InviteMove` says what a step may do, and `endures_invite` that every call keeps
to it.

Audit events and messages write no beneficiary and no invite.
-/
import Asoju.Invites
import Asoju.Lib.Faults
import Asoju.Protocols

namespace Asoju

open Lib AuthService

/-- What is called, or the passing of time. -/
inductive InviteOp
  | inviteBeneficiary (frontendUrl : String) (isProduction : Bool) (token : String)
      (sent : Except String Unit) (user : AuthenticatedUser) (beneficiaryId : Id)
  | acceptBeneficiaryInvite (salt random token email password : String)
  | elapse (ms : ℕ)

/-- A call, with the step at which it fails, if it does. -/
structure InviteCall where
  op : InviteOp
  fault : Option (ℕ × HttpError) := none

def InviteOp.code (env : AuthEnv) : InviteOp → Svc Unit
  | inviteBeneficiary frontendUrl isProduction token sent user beneficiaryId => do
      let _ ← ProfileService.inviteBeneficiary env frontendUrl isProduction token sent user
        beneficiaryId
  | acceptBeneficiaryInvite salt random token email password => do
      let _ ← AuthService.acceptBeneficiaryInvite env salt random token email password
  | elapse ms => .write .now fun d => { d with clock := d.clock + ms }

def InviteCall.code (env : AuthEnv) (c : InviteCall) : Svc Unit :=
  (c.op.code env).withFault c.fault

/-! ## What a step does -/

namespace Db

variable (d d' : Db)

/-- Nothing is done to users, beneficiaries and invites. -/
structure KeepsInvites : Prop where
  users : d'.user = d.user
  beneficiaries : d'.beneficiary = d.beneficiary
  invites : d'.beneficiaryInvite = d.beneficiaryInvite
  clock : d.clock ≤ d'.clock

/-- A user is created under the key. -/
structure CreatesAccount (userId : Id) : Prop where
  users : ∃ user, user.role = .beneficiary ∧ d'.user = d.user.insert user
  key : userId = d.user.next
  beneficiaries : d'.beneficiary = d.beneficiary
  invites : d'.beneficiaryInvite = d.beneficiaryInvite
  clock : d.clock ≤ d'.clock

/-- The account of the user is made the beneficiary's, and the invite is used. -/
structure LinksAccount (inviteId beneficiaryId userId : Id) : Prop where
  users : d'.user = d.user
  beneficiaries : d'.beneficiary = d.beneficiary.modify beneficiaryId fun b =>
    { b with userId := some userId }
  invites : ∃ now, d'.beneficiaryInvite = d.beneficiaryInvite.modify inviteId (·.use now)
  clock : d.clock ≤ d'.clock

/-- The open invites of the beneficiary are used up. -/
structure ClosesInvites (beneficiaryId : Id) : Prop where
  users : d'.user = d.user
  beneficiaries : d'.beneficiary = d.beneficiary
  invites : ∃ now, d'.beneficiaryInvite =
    d.beneficiaryInvite.modifyWhere (fun _ v => v.openOf beneficiaryId) (·.use now)
  clock : d.clock ≤ d'.clock

/-- An invite of the beneficiary is created. -/
structure CreatesInvite (beneficiaryId : Id) : Prop where
  users : d'.user = d.user
  beneficiaries : d'.beneficiary = d.beneficiary
  invites : ∃ v, v.beneficiaryId = beneficiaryId ∧
    d'.beneficiaryInvite = d.beneficiaryInvite.insert v
  clock : d.clock ≤ d'.clock

variable {d d'}

lemma KeepsInvites.refl : d.KeepsInvites d := ⟨rfl, rfl, rfl, le_rfl⟩

end Db

/-! ## The stages of a call -/

/-- Where a call stands. -/
inductive InviteStage
  | accepting
  /-- The invite has been found. -/
  | holding (inviteId beneficiaryId : Id)
  /-- The beneficiary has been read, and has no account. -/
  | cleared (inviteId beneficiaryId : Id) (beneficiary : Beneficiary)
  /-- The account has been created. -/
  | created (inviteId beneficiaryId userId : Id)
  /-- The account is the beneficiary's. -/
  | linked (beneficiaryId userId : Id)
  | signing (beneficiaryId userId : Id) (now : Time)
  /-- The refresh token of the new session has been taken. -/
  | refused (beneficiaryId : Id)
  | signed (beneficiaryId : Id)
  | inviting (beneficiaryId : Id)
  /-- The open invites have been used up; later invites have at least this key. -/
  | closed (beneficiaryId next : Id)
  | ended
deriving DecidableEq

/-- The refresh token of the session that an acceptance begins is taken. -/
def InviteOp.tokenTaken (env : AuthEnv) (userId : Id) (now : Time) (d : Db) : InviteOp → Bool
  | acceptBeneficiaryInvite _ random _ _ _ =>
      (d.refreshTokenByHash (hashToken env (newRefreshToken env userId now random))).isSome
  | inviteBeneficiary .. | elapse _ => false

namespace InviteStage

def init : InviteOp → InviteStage
  | .inviteBeneficiary _ _ _ _ _ beneficiaryId => inviting beneficiaryId
  | .acceptBeneficiaryInvite .. => accepting
  | .elapse _ => ended

/-- What the invite with the token leads to. -/
def found (env : AuthEnv) (s : Db) : InviteOp → InviteStage
  | .acceptBeneficiaryInvite _ _ token _ _ =>
      ((s.inviteByHash (hashToken env token)).map fun x => holding x.1 x.2.beneficiaryId).getD ended
  | .inviteBeneficiary .. | .elapse _ => ended

/-- The account is created, unless its address or its number is taken. -/
def account (s : Db) (inviteId beneficiaryId : Id) (beneficiary : Beneficiary) :
    InviteOp → InviteStage
  | .acceptBeneficiaryInvite _ _ _ email _ =>
      if s.userTaken email beneficiary.phone then ended
      else created inviteId beneficiaryId s.user.next
  | .inviteBeneficiary .. | .elapse _ => ended

/-- The stage that an action leads to. -/
def next (env : AuthEnv) (op : InviteOp) : InviteStage → Act → Db → InviteStage
  | accepting, .find .beneficiaryInvite, s => found env s op
  | holding i b, .find .beneficiary, s =>
      ((s.beneficiary.get? b).map fun x => if x.userId.isSome then ended else cleared i b x).getD
        ended
  | cleared i b x, .create .user, s => account s i b x op
  | created _ b u, .transaction, _ => linked b u
  | linked b u, .now, s => signing b u s.clock
  | signing b u now, .create .refreshToken, s =>
      if op.tokenTaken env u now s then refused b else signed b
  | inviting b, .update .beneficiaryInvite, s => closed b s.beneficiaryInvite.next
  | closed _ _, .create .beneficiaryInvite, _ => ended
  | stage, _, _ => stage

/-- The beneficiary that the call has created an account for. -/
def accountOf : InviteStage → Option Id
  | created _ b _ | linked b _ | signing b _ _ | refused b | signed b => some b
  | _ => none

/-- The beneficiary that the account has been created for, and not been given to. -/
def pending : InviteStage → Option Id
  | created _ b _ => some b
  | _ => none

/-- The beneficiary that the next action creates an account for. -/
def creating : InviteStage → Option Act → Option Id
  | cleared _ b _, some (.create .user) => some b
  | _, _ => none

/-- The beneficiary that the next action creates an invite for, with the key that the invites since
the call has used up the earlier ones begin with. -/
def issuing : InviteStage → Option Act → Option (Id × Id)
  | closed b next, some (.create .beneficiaryInvite) => some (b, next)
  | _, _ => none

/-- The user that the next action creates a refresh token for, and from when. -/
def signingIn : InviteStage → Option Act → Option (Id × Time)
  | signing _ u now, some (.create .refreshToken) => some (u, now)
  | _, _ => none

/-- A call may fail as long as it has created no account. -/
def MayFail (stage : InviteStage) : Prop := stage.accountOf = none ∨ ∃ b, stage = refused b

end InviteStage

/-- What an action may do, and the stages that it connects. -/
inductive InviteMove (env : AuthEnv) (op : InviteOp) (s s' : Db) :
    InviteStage → Act → InviteStage → Prop
  | stays {stage : InviteStage} {l : Act} (h : s.KeepsInvites s') :
      InviteMove env op s s' stage l stage
  /-- The call is about to end, without an account. -/
  | gone {stage : InviteStage} {l : Act} (h : s.KeepsInvites s') (hnone : stage.accountOf = none) :
      InviteMove env op s s' stage l .ended
  | found {i b : Id} {l : Act} (h : s.KeepsInvites s') :
      InviteMove env op s s' .accepting l (.holding i b)
  | cleared {i b : Id} {x : Beneficiary} {l : Act} (h : s.KeepsInvites s')
      (hx : s.beneficiary.get? b = some x) :
      InviteMove env op s s' (.holding i b) l (.cleared i b x)
  | created {i b u : Id} {x : Beneficiary} (h : s.CreatesAccount s' u) :
      InviteMove env op s s' (.cleared i b x) (.create .user) (.created i b u)
  | linked {i b u : Id} {l : Act} (h : s.LinksAccount s' i b u) :
      InviteMove env op s s' (.created i b u) l (.linked b u)
  | dated {b u : Id} {l : Act} (h : s.KeepsInvites s') :
      InviteMove env op s s' (.linked b u) l (.signing b u s.clock)
  | refused {b u : Id} {now : Time} (h : s.KeepsInvites s')
      (htaken : op.tokenTaken env u now s = true) :
      InviteMove env op s s' (.signing b u now) (.create .refreshToken) (.refused b)
  | signed {b u : Id} {now : Time} {l : Act} (h : s.KeepsInvites s') :
      InviteMove env op s s' (.signing b u now) l (.signed b)
  | closed {b : Id} {l : Act} (h : s.ClosesInvites s' b) :
      InviteMove env op s s' (.inviting b) l (.closed b s.beneficiaryInvite.next)
  | issued {b n : Id} (h : s.CreatesInvite s' b) :
      InviteMove env op s s' (.closed b n) (.create .beneficiaryInvite) .ended

/-- The protocol of a call. -/
def InviteCall.protocol (env : AuthEnv) (c : InviteCall) : Protocol Db Act InviteStage where
  relies _ := True
  init := .init c.op
  next := .next env c.op
  allows stage l s s' := InviteMove env c.op s s' stage l (stage.next env c.op l s)
  final _ := True

/-- An acceptance does not fail from the creation of its account on: that is the fifth of its nine
steps. -/
def InviteCall.FailsEarly (c : InviteCall) : Prop :=
  match c.op with
  | .acceptBeneficiaryInvite .. => Prog.Outside 5 4 c.fault
  | .inviteBeneficiary .. | .elapse _ => True

/-! ## Every call keeps to its protocol -/

section Endures

open Prog

variable {env : AuthEnv} {c : InviteCall} {fault : Option (ℕ × HttpError)}

/-- A stage without an account. -/
lemma mayFail_of_none {stage : InviteStage} (h : stage.accountOf = none) : stage.MayFail := Or.inl h

lemma mayFail_refused (b : Id) : (InviteStage.refused b).MayFail := Or.inr ⟨b, rfl⟩

lemma endures_throw {β : Type} {stage : InviteStage} (h : stage.accountOf = none) (e : HttpError)
    (f : β → Svc Unit) :
    Endures (c.protocol env) InviteStage.MayFail stage ((throw e >>= f).withFault fault) := by
  show Endures _ _ _ ((fail e).withFault fault)
  exact endures_fail (mayFail_of_none h) _ _

/-- The session begins, unless its refresh token is taken. -/
lemma endures_signing {salt random token email password : String}
    (hop : c.op = .acceptBeneficiaryInvite salt random token email password)
    (hfault : Sparing 1 fault) (b u : Id) (now : Time) (row : Time → RefreshToken) :
    Endures (c.protocol env) InviteStage.MayFail (.signing b u now)
      ((Prisma.createUnique .refreshToken (fun d =>
        (d.refreshTokenByHash (hashToken env (newRefreshToken env u now random))).isSome) row >>=
          fun _ => pure ()).withFault fault) := by
  refine endures_withFault_bind (fun e he => absurd he (hfault.not_now e)) fun _ s _ => ?_
  have htaken : c.op.tokenTaken env u now s = (s.refreshTokenByHash (hashToken env
      (newRefreshToken env u now random))).isSome := by
    rw [hop]
    rfl
  refine ⟨(?_ : InviteMove env c.op s _ (.signing b u now) (.create .refreshToken)
      (if c.op.tokenTaken env u now s then .refused b else .signed b)),
    (?_ : Endures (c.protocol env) InviteStage.MayFail
      (if c.op.tokenTaken env u now s then .refused b else .signed b) _)⟩
  · rw [htaken]
    dsimp only
    split_ifs with h
    · exact .refused .refl (htaken.trans h)
    · refine .signed ?_
      exact ⟨rfl, rfl, rfl, s.le_tick⟩
  · rw [htaken]
    dsimp only
    split_ifs with h
    · exact endures_fail (mayFail_refused b) _ _
    · exact endures_ret _ _

/-- The account has been created: nothing is left that could fail but the refresh token. -/
lemma endures_claimAccount {salt random token email password : String}
    (hop : c.op = .acceptBeneficiaryInvite salt random token email password)
    (hfault : Sparing 4 fault) (inviteId beneficiaryId userId : Id) (user : User) :
    Endures (c.protocol env) InviteStage.MayFail (.created inviteId beneficiaryId userId)
      ((claimAccount env random inviteId beneficiaryId userId user >>= fun _ =>
        pure ()).withFault fault) := by
  rw [claimAccount, issueTokens]
  simp only [Prog.bind_assoc, Prog.pure_bind]
  refine endures_withFault_act (fun e he => absurd he (hfault.not_now e)) fun _ s _ =>
    ⟨.linked ⟨rfl, rfl, ⟨_, rfl⟩, (Db.le_tick s).trans (Db.le_tick _)⟩, ?_⟩
  refine endures_withFault_act (fun e he => absurd he (hfault.later.not_now e)) fun _ s _ =>
    ⟨.stays .refl, ?_⟩
  refine endures_withFault_act (fun e he => absurd he (hfault.later.later.not_now e)) fun _ d _ =>
    ⟨.dated .refl, ?_⟩
  exact endures_signing hop hfault.later.later.later beneficiaryId userId d.clock _

/-- The account is created, unless its address or its number is taken. -/
lemma endures_createAccount {salt random token email password : String}
    (hop : c.op = .acceptBeneficiaryInvite salt random token email password)
    (hfault : Outside 2 4 fault) (inviteId beneficiaryId : Id) (beneficiary : Beneficiary) :
    Endures (c.protocol env) InviteStage.MayFail (.cleared inviteId beneficiaryId beneficiary)
      (((do
        let existing ← Prisma.query .user (·.userByEmail email)
        if existing.isSome then throw (.conflict "An account with this email already exists")
        else
          let userId ← Prisma.createUnique .user (·.userTaken email beneficiary.phone) fun _ =>
            portalUser env salt email password beneficiary
          claimAccount env random inviteId beneficiaryId userId
            (portalUser env salt email password beneficiary) : Svc (PublicUser × TokenPair)) >>=
        fun _ => (pure () : Svc Unit)).withFault fault) := by
  simp only [Prog.bind_assoc]
  refine endures_withFault_act (fun _ _ => mayFail_of_none rfl) fun h₀ s _ => ⟨.stays .refl, ?_⟩
  have hfault := hfault.later h₀
  by_cases hemail : (s.userByEmail email).isSome = true
  · rw [if_pos hemail]
    exact endures_throw rfl _ _
  rw [if_neg hemail]
  simp only [Prog.bind_assoc]
  refine endures_withFault_bind (fun _ _ => mayFail_of_none rfl) fun h₁ s _ => ?_
  have hfault := hfault.later h₁
  have haccount : InviteStage.account s inviteId beneficiaryId beneficiary c.op =
      if s.userTaken email beneficiary.phone then .ended
      else .created inviteId beneficiaryId s.user.next := by
    rw [hop]
    rfl
  refine ⟨(?_ : InviteMove env c.op s _ (.cleared inviteId beneficiaryId beneficiary)
      (.create .user) (InviteStage.account s inviteId beneficiaryId beneficiary c.op)),
    (?_ : Endures (c.protocol env) InviteStage.MayFail
      (InviteStage.account s inviteId beneficiaryId beneficiary c.op) _)⟩
  · rw [haccount]
    dsimp only
    split_ifs
    · exact .gone .refl rfl
    · refine .created ?_
      exact ⟨⟨_, rfl, rfl⟩, rfl, rfl, rfl, s.le_tick⟩
  · rw [haccount]
    dsimp only
    split_ifs
    · exact endures_throw rfl _ _
    · exact endures_claimAccount hop hfault.sparing _ _ _ _

/-- An acceptance that fails where it may. -/
lemma endures_accept {salt random token email password : String}
    (hop : c.op = .acceptBeneficiaryInvite salt random token email password)
    (hfault : Outside 5 4 fault) :
    Endures (c.protocol env) InviteStage.MayFail .accepting
      ((InviteOp.code env (.acceptBeneficiaryInvite salt random token email password)).withFault
        fault) := by
  rw [InviteOp.code, acceptBeneficiaryInvite]
  simp only [Prog.bind_assoc]
  refine endures_withFault_act (fun _ _ => Or.inl rfl) fun h₀ s _ => ?_
  have hfound : InviteStage.found env s c.op = ((s.inviteByHash (hashToken env token)).map
      fun x => InviteStage.holding x.1 x.2.beneficiaryId).getD .ended := by
    rw [hop]
    rfl
  refine ⟨(?_ : InviteMove env c.op s s .accepting _ (InviteStage.found env s c.op)),
    (?_ : Endures (c.protocol env) InviteStage.MayFail (InviteStage.found env s c.op) _)⟩
  · rw [hfound]
    cases s.inviteByHash (hashToken env token) with
    | none => exact .gone .refl rfl
    | some x => exact .found .refl
  have hfault := hfault.later h₀
  rw [hfound]
  cases s.inviteByHash (hashToken env token) with
  | none => exact endures_throw rfl _ _
  | some x =>
    obtain ⟨inviteId, invite⟩ := x
    dsimp only
    by_cases hused : invite.usedAt.isSome = true
    · rw [if_pos hused]
      exact endures_throw rfl _ _
    rw [if_neg hused]
    simp only [Prog.bind_assoc]
    refine endures_withFault_act (fun _ _ => Or.inl rfl) fun h₁ s _ => ⟨.stays .refl, ?_⟩
    have hfault := hfault.later h₁
    by_cases hexpired : invite.expiresAt < s.clock
    · rw [if_pos hexpired]
      exact endures_throw rfl _ _
    rw [if_neg hexpired]
    simp only [Prog.bind_assoc]
    refine endures_withFault_act (fun _ _ => Or.inl rfl) fun h₂ s _ => ?_
    have hfault := hfault.later h₂
    have hnext : InviteStage.next env c.op (.holding inviteId invite.beneficiaryId)
        (.find .beneficiary) s = ((s.beneficiary.get? invite.beneficiaryId).map fun x =>
          if x.userId.isSome then InviteStage.ended
          else .cleared inviteId invite.beneficiaryId x).getD .ended := rfl
    refine ⟨(?_ : InviteMove env c.op s s (.holding inviteId invite.beneficiaryId) _
        (InviteStage.next env c.op (.holding inviteId invite.beneficiaryId)
          (.find .beneficiary) s)),
      (?_ : Endures (c.protocol env) InviteStage.MayFail
        (InviteStage.next env c.op (.holding inviteId invite.beneficiaryId)
          (.find .beneficiary) s) _)⟩
    · rw [hnext]
      cases hrow : s.beneficiary.get? invite.beneficiaryId with
      | none => exact .gone .refl rfl
      | some x =>
        rw [Option.map_some, Option.getD_some]
        split_ifs
        · exact .gone .refl rfl
        · exact .cleared .refl hrow
    have hrow : (Rel.beneficiary.get s).get? invite.beneficiaryId =
        s.beneficiary.get? invite.beneficiaryId := rfl
    rw [hnext, hrow]
    cases s.beneficiary.get? invite.beneficiaryId with
    | none => exact endures_throw rfl _ _
    | some x =>
      rw [Option.map_some, Option.getD_some]
      dsimp only
      by_cases haccount : x.userId.isSome = true
      · rw [if_pos haccount, if_pos haccount]
        exact endures_throw rfl _ _
      · rw [if_neg haccount, if_neg haccount]
        exact endures_createAccount hop hfault inviteId invite.beneficiaryId x

/-- An invitation, which may fail anywhere. -/
lemma endures_inviting (frontendUrl : String) (isProduction : Bool) (token : String)
    (sent : Except String Unit) (user : AuthenticatedUser) (beneficiaryId : Id) :
    Endures (c.protocol env) InviteStage.MayFail (.inviting beneficiaryId)
      ((InviteOp.code env (.inviteBeneficiary frontendUrl isProduction token sent user
        beneficiaryId)).withFault fault) := by
  rw [InviteOp.code, ProfileService.inviteBeneficiary]
  simp only [Prog.bind_assoc]
  refine endures_withFault_act (fun _ _ => mayFail_of_none rfl) fun _ s _ => ⟨.stays .refl, ?_⟩
  cases CasesService.customerProfile s user.id with
  | none => exact endures_throw rfl _ _
  | some found =>
    simp only [Prog.bind_assoc]
    refine endures_withFault_act (fun _ _ => mayFail_of_none rfl) fun _ s _ => ⟨.stays .refl, ?_⟩
    have hrow : (Rel.beneficiary.get s).get? beneficiaryId = s.beneficiary.get? beneficiaryId := rfl
    rw [hrow]
    cases s.beneficiary.get? beneficiaryId with
    | none => exact endures_throw rfl _ _
    | some x =>
      dsimp only
      by_cases hcustomer : x.customerId ≠ found.1
      · rw [if_pos hcustomer]
        exact endures_throw rfl _ _
      rw [if_neg hcustomer]
      by_cases haccount : x.userId.isSome = true
      · rw [if_pos haccount]
        exact endures_throw rfl _ _
      rw [if_neg haccount]
      simp only [Prog.bind_assoc]
      refine endures_withFault_act (fun _ _ => mayFail_of_none rfl) fun _ s _ =>
        ⟨.stays .refl, ?_⟩
      refine endures_withFault_act (fun _ _ => mayFail_of_none rfl) fun _ s _ =>
        ⟨.closed ⟨rfl, rfl, ⟨_, rfl⟩, s.le_tick⟩, ?_⟩
      refine endures_withFault_bind (fun _ _ => mayFail_of_none rfl) fun _ s _ => ?_
      by_cases htaken : (s.inviteByHash (env.sha256 token)).isSome = true
      · rw [if_pos htaken, if_pos htaken]
        exact ⟨.gone .refl rfl, endures_throw rfl _ _⟩
      rw [if_neg htaken, if_neg htaken]
      refine ⟨.issued ⟨rfl, rfl, ⟨_, rfl, rfl⟩, s.le_tick⟩, ?_⟩
      refine endures_withFault_act (fun _ _ => mayFail_of_none rfl) fun _ s _ =>
        ⟨.stays .refl, ?_⟩
      cases nonEmpty x.phone with
      | none => exact endures_ret _ _
      | some phone =>
        refine endures_withFault_bind (fun _ _ => mayFail_of_none rfl) fun _ s _ =>
          ⟨.stays .refl, ?_⟩
        cases sent with
        | error e => exact endures_throw rfl _ _
        | ok _ => exact endures_ret _ _

lemma endures_invite (hearly : c.FailsEarly) :
    Endures (c.protocol env) InviteStage.MayFail (c.protocol env).init (c.code env) := by
  obtain ⟨op, fault⟩ := c
  cases op with
  | inviteBeneficiary frontendUrl isProduction token sent user beneficiaryId =>
    exact endures_inviting frontendUrl isProduction token sent user beneficiaryId
  | acceptBeneficiaryInvite salt random token email password => exact endures_accept rfl hearly
  | elapse ms =>
    rw [InviteCall.code, InviteOp.code]
    rcases fault with _ | ⟨_ | n, e⟩
    · exact fun s _ => ⟨.stays ⟨rfl, rfl, rfl, by simp⟩, trivial⟩
    · exact mayFail_of_none rfl
    · exact fun s _ => ⟨.stays ⟨rfl, rfl, rfl, by simp⟩, endures_ret (some (n, e)) ()⟩

end Endures

end Asoju
