/-
The second factor over runs of logins, enrolments and their tokens.

Calls run one after the other, in any order, with any tokens; the clock moves on in between.
`second_factor_kept_iff` says when an enabled second factor stays in force: exactly when nobody
starts an enrolment for a user who has already enrolled, be it in a session or with an enrollment
token that is older than the enrolment.
-/
import Asoju.Lib.Faults
import Asoju.Lib.Run
import Asoju.Mfa

namespace Asoju

open Lib AuthService

inductive MfaCall
  | login (random : String) (dto : LoginDto)
  | verifyMfaLogin (random mfaToken code : String)
  | enrollMfa (random : List UInt8) (userId : Id)
  | confirmMfa (userId : Id) (code : String)
  | enrollMfaWithToken (random : List UInt8) (enrollmentToken : String)
  | confirmMfaEnrollmentRequired (random enrollmentToken code : String)
  | disableMfa (userId : Id) (password : String)
deriving DecidableEq, Repr

/-- A call, or the passing of time. -/
inductive MfaEvent
  | call (c : MfaCall)
  | elapse (ms : ℕ)
deriving DecidableEq, Repr

section Runs

variable (env : MfaEnv)

def MfaCall.code : MfaCall → Svc AuthResponse
  | login random dto => AuthService.login env random dto
  | verifyMfaLogin random mfaToken code => AuthService.verifyMfaLogin env random mfaToken code
  | enrollMfa random userId => AuthService.enrollMfa random userId
  | confirmMfa userId code => AuthService.confirmMfa env userId code
  | enrollMfaWithToken random enrollmentToken =>
      AuthService.enrollMfaWithToken env random enrollmentToken
  | confirmMfaEnrollmentRequired random enrollmentToken code =>
      AuthService.confirmMfaEnrollmentRequired env random enrollmentToken code
  | disableMfa userId password => AuthService.disableMfa env userId password

def mfaStep (d : Db) : MfaEvent → Db
  | .call c => (c.code env).exec d
  | .elapse ms => { d with clock := d.clock + ms }

/-! ## What is to hold -/

/-- The second factor of the user is in force. -/
def Db.MfaInForce (d : Db) (userId : Id) : Prop :=
  ∃ user ∈ d.user.get? userId, user.mfaEnabled = true

/-- The second factor of a user: whether it is in force, and the secret. -/
def Db.secondFactor (d : Db) (userId : Id) : Option (Bool × Option String) :=
  (d.user.get? userId).map fun user => (user.mfaEnabled, user.mfaSecret)

/-- The call presents the password of the user. -/
def MfaCall.PresentsPassword (d : Db) (userId : Id) : MfaCall → Prop
  | disableMfa owner password => owner = userId ∧
      ∃ user ∈ d.user.get? userId, ∃ passwordHash ∈ user.passwordHash,
        env.argon2Verify passwordHash password = true
  | _ => False

/-- The code is one of the moment for the secret of the user. -/
def Db.CodeFits (d : Db) (userId : Id) (code : String) : Prop :=
  ∃ user ∈ d.user.get? userId, ∃ secret ∈ user.mfaSecret,
    Totp.verifyTotpCode env.toUpperCase env.hmacSha1 secret code d.clock = true

/-- The code that a call presents. -/
def MfaCall.presentedCode : MfaCall → Option String
  | verifyMfaLogin _ _ code | confirmMfa _ code | confirmMfaEnrollmentRequired _ _ code => some code
  | _ => none

/-- The call answers with a session of the user. -/
def MfaCall.LogsIn (d : Db) (userId : Id) (c : MfaCall) : Prop :=
  ∃ user tokens, ((c.code env).run d).1 = .ok (.session user tokens) ∧
    tokens.accessToken.sub = userId

/-- A second factor that is in force is left as it is, unless its user's password is presented;
and a session of the user is given only for a code that fits the secret in force. -/
def KeepsSecondFactor (d : Db) (e : MfaEvent) : Prop :=
  ∀ userId, d.MfaInForce userId →
    ((mfaStep env d e).secondFactor userId = d.secondFactor userId ∨
      ∃ c, e = .call c ∧ c.PresentsPassword env d userId) ∧
    ∀ c, e = .call c → c.LogsIn env d userId →
      ∃ code ∈ c.presentedCode, d.CodeFits env userId code

/-- Whom an enrollment token is accepted for. -/
def Db.enrollmentUser (d : Db) (enrollmentToken : String) : Option (Id × User) :=
  ((env.openMfaToken enrollmentToken).filter fun payload =>
    d.clock / 1000 < payload.exp ∧ payload.purpose = "mfa_enrollment_required").bind fun payload =>
      ((d.user.get? payload.sub).filter fun user => user.isActive).map fun user =>
        (payload.sub, user)

/-- The call starts an enrolment for a user whose second factor is in force. -/
def MfaCall.Reenrolls (d : Db) : MfaCall → Prop
  | enrollMfa _ userId => d.MfaInForce userId
  | enrollMfaWithToken _ enrollmentToken =>
      ∃ x ∈ d.enrollmentUser env enrollmentToken, x.2.mfaEnabled = true
  | _ => False

end Runs

/-! ## What each call does -/

section Calls

variable {env : MfaEnv} {s : Db}

/-- The program leaves the users alone. -/
def LeavesUsers {γ : Type} (m : Svc γ) : Prop := m.EachStep fun _ s s' => s'.user = s.user

lemma leavesUsers_issueSession (random : String) (i : Id) (user : User) :
    LeavesUsers (issueSession env random i user) := by
  rw [issueSession, issueTokens]
  refine .bind (.bind (fun s => ⟨rfl, trivial⟩) fun now => .bind ?_ fun _ => trivial) fun _ => trivial
  intro s
  dsimp only
  split_ifs <;> exact ⟨rfl, trivial⟩

/-- A session is the user's. -/
lemma issueSession_ok {random : String} {i : Id} {user : User} {r : AuthResponse}
    (h : ((issueSession env random i user).run s).1 = .ok r) :
    ∃ pu tokens, r = .session pu tokens ∧ tokens.accessToken.sub = i := by
  rw [issueSession, issueTokens, Prog.run_bind, Prog.run_bind_ok (Prisma.run_now s), Prog.run_bind,
    Prisma.run_createUnique] at h
  split_ifs at h
  cases h
  exact ⟨_, _, rfl, rfl⟩

lemma Db.user_of_userByEmail {email : String} {i : Id} {user : User}
    (h : s.userByEmail email = some (i, user)) : s.user.get? i = some user :=
  s.user.mem_rows_iff.mp (List.mem_of_find?_eq_some h)

lemma nonEmpty_eq_some {text : Option String} {value : String} (h : nonEmpty text = some value) :
    text = some value := (Option.filter_eq_some_iff.mp h).1

/-! ### Logins -/

lemma leavesUsers_login (random : String) (dto : LoginDto) :
    LeavesUsers (AuthService.login env random dto) := by
  rw [AuthService.login]
  refine .bind (fun s => ⟨rfl, trivial⟩) fun found => ?_
  cases found with
  | none => trivial
  | some x =>
    dsimp only
    cases nonEmpty x.2.passwordHash with
    | none => trivial
    | some passwordHash =>
      dsimp only
      split_ifs
      · trivial
      · rw [loginWith]
        split_ifs
        · exact fun s => ⟨rfl, fun s => ⟨rfl, trivial⟩⟩
        · exact fun s => ⟨rfl, fun s => ⟨rfl, trivial⟩⟩
        · exact fun s => ⟨rfl, leavesUsers_issueSession random x.1 x.2⟩

/-- A password alone is answered with a session only if there is no second factor. -/
lemma login_session {random : String} {dto : LoginDto} {pu : PublicUser} {tokens : TokenPair}
    (h : ((AuthService.login env random dto).run s).1 = .ok (.session pu tokens)) :
    ¬ s.MfaInForce tokens.accessToken.sub := by
  rw [AuthService.login, Prog.run_bind_ok (Prisma.run_query s _ _)] at h
  cases hfound : s.userByEmail dto.email with
  | none =>
    rw [hfound] at h
    cases h
  | some x =>
    obtain ⟨i, user⟩ := x
    rw [hfound] at h
    dsimp only at h
    cases hhash : nonEmpty user.passwordHash with
    | none =>
      rw [hhash] at h
      cases h
    | some passwordHash =>
      rw [hhash] at h
      dsimp only at h
      split_ifs at h with hrefused
      · cases h
      · rw [loginWith] at h
        split_ifs at h with hprivileged hforce
        · cases h
        · cases h
        · obtain ⟨pu', tokens', heq, hsub⟩ := issueSession_ok h
          cases heq
          rintro ⟨user', huser', hforce'⟩
          rw [hsub, Db.user_of_userByEmail hfound] at huser'
          cases huser'
          exact hforce hforce'

/-! ### Challenges -/

lemma leavesUsers_answerChallenge (random code : String) (i : Id) (user : User) :
    LeavesUsers (answerChallenge env random code i user) := by
  rw [answerChallenge]
  cases nonEmpty user.mfaSecret with
  | none => trivial
  | some secret =>
    dsimp only
    split_ifs
    · trivial
    · refine .bind (fun s => ⟨rfl, trivial⟩) fun valid => ?_
      split_ifs
      · exact fun s => ⟨rfl, leavesUsers_issueSession random i user⟩
      · exact fun s => ⟨rfl, trivial⟩

lemma leavesUsers_verifyMfaLogin (random mfaToken code : String) :
    LeavesUsers (AuthService.verifyMfaLogin env random mfaToken code) := by
  rw [AuthService.verifyMfaLogin]
  refine .bind (fun s => ⟨rfl, trivial⟩) fun payload => ?_
  cases payload with
  | none => trivial
  | some payload =>
    dsimp only
    split_ifs
    · trivial
    · refine .bind (fun s => ⟨rfl, trivial⟩) fun user => ?_
      cases user with
      | none => trivial
      | some user => exact leavesUsers_answerChallenge random code payload.sub user

lemma answerChallenge_session {random code : String} {i : Id} {user : User}
    (huser : s.user.get? i = some user) {pu : PublicUser} {tokens : TokenPair}
    (h : ((answerChallenge env random code i user).run s).1 = .ok (.session pu tokens)) :
    tokens.accessToken.sub = i ∧ s.CodeFits env i code := by
  rw [answerChallenge] at h
  cases hsecret : nonEmpty user.mfaSecret with
  | none =>
    rw [hsecret] at h
    cases h
  | some secret =>
    rw [hsecret] at h
    dsimp only at h
    split_ifs at h
    · cases h
    · rw [AuthService.verifyTotpCode, Prog.run_bind, Prog.run_bind_ok (Prisma.run_now s)] at h
      cases hvalid : Totp.verifyTotpCode env.toUpperCase env.hmacSha1 secret code s.clock with
      | false =>
        rw [hvalid] at h
        cases h
      | true =>
        rw [hvalid] at h
        obtain ⟨pu', tokens', heq, hsub⟩ := issueSession_ok (s := s) (i := i) h
        cases heq
        exact ⟨hsub, user, huser, secret, nonEmpty_eq_some hsecret, hvalid⟩

lemma verifyMfaLogin_session {random mfaToken code : String} {pu : PublicUser}
    {tokens : TokenPair}
    (h : ((AuthService.verifyMfaLogin env random mfaToken code).run s).1 =
      .ok (.session pu tokens)) : s.CodeFits env tokens.accessToken.sub code := by
  rw [AuthService.verifyMfaLogin, verifyMfaToken, Prog.run_bind,
    Prog.run_bind_ok (Prisma.run_now s)] at h
  dsimp only [Prog.run_pure] at h
  cases hpayload : (env.openMfaToken mfaToken).filter fun payload => s.clock / 1000 < payload.exp with
  | none =>
    rw [hpayload] at h
    cases h
  | some payload =>
    rw [hpayload] at h
    dsimp only at h
    split_ifs at h
    · cases h
    · rw [Prog.run_bind_ok (Prisma.run_findUnique _ _ s)] at h
      cases huser : s.user.get? payload.sub with
      | none =>
        rw [show (Rel.user.get s).get? payload.sub = none from huser] at h
        cases h
      | some user =>
        rw [show (Rel.user.get s).get? payload.sub = some user from huser] at h
        obtain ⟨hsub, hfits⟩ := answerChallenge_session huser h
        rw [hsub]
        exact hfits

/-! ### Enrolments -/

/-- The user with a new secret, which is not in force. -/
def User.enroll (secret : String) (user : User) : User :=
  { user with mfaSecret := some secret, mfaEnabled := false }

/-- The user with his secret in force. -/
def User.confirm (user : User) : User := { user with mfaEnabled := true }

lemma enrollMfa_get? (random : List UInt8) (userId u : Id) :
    ((AuthService.enrollMfa random userId).exec s).user.get? u =
      if u = userId then (s.user.get? u).map (User.enroll (Totp.generateTotpSecret random))
      else s.user.get? u := by
  rw [Prog.exec, AuthService.enrollMfa, Prog.run_bind, Prisma.run_findUniqueOrThrow]
  cases huser : (Rel.user.get s).get? userId with
  | none =>
    dsimp only
    split_ifs with hu
    · subst hu
      rw [show s.user.get? u = none from huser]
      rfl
    · rfl
  | some user =>
    dsimp only
    rw [Prog.run_bind_ok (Prisma.run_update_of_some huser _)]
    exact Table.get?_modify _ _ _ _

lemma enrollMfa_ne_session {random : List UInt8} {userId : Id} {pu : PublicUser}
    {tokens : TokenPair} :
    ((AuthService.enrollMfa random userId).run s).1 ≠ .ok (.session pu tokens) := by
  intro h
  rw [AuthService.enrollMfa, Prog.run_bind, Prisma.run_findUniqueOrThrow] at h
  cases huser : (Rel.user.get s).get? userId with
  | none =>
    rw [huser] at h
    cases h
  | some user =>
    rw [huser] at h
    dsimp only at h
    rw [Prog.run_bind_ok (Prisma.run_update_of_some huser _)] at h
    cases h

lemma user_of_enrollmentUser {enrollmentToken : String} {x : Id × User}
    (h : s.enrollmentUser env enrollmentToken = some x) : s.user.get? x.1 = some x.2 := by
  obtain ⟨payload, -, hx⟩ := Option.bind_eq_some_iff.mp h
  obtain ⟨user, huser, rfl⟩ := Option.map_eq_some_iff.mp hx
  exact (Option.filter_eq_some_iff.mp huser).1

/-- The token is accepted or refused, and nothing is written. -/
lemma requireMfaEnrollmentUser_run (env : MfaEnv) (s : Db) (enrollmentToken : String) :
    (∃ x, s.enrollmentUser env enrollmentToken = some x ∧
      (requireMfaEnrollmentUser env enrollmentToken).run s = (.ok x, s)) ∨
    (s.enrollmentUser env enrollmentToken = none ∧
      ∃ e, (requireMfaEnrollmentUser env enrollmentToken).run s = (.error e, s)) := by
  rw [requireMfaEnrollmentUser, verifyMfaToken, Prog.run_bind,
    Prog.run_bind_ok (Prisma.run_now s), Prog.run_pure, Db.enrollmentUser]
  cases hopen : env.openMfaToken enrollmentToken with
  | none => exact Or.inr ⟨rfl, _, rfl⟩
  | some payload =>
    by_cases hexp : s.clock / 1000 < payload.exp
    · by_cases hpurpose : payload.purpose = "mfa_enrollment_required"
      · cases huser : s.user.get? payload.sub with
        | none =>
          simp [Option.filter_some, hexp, hpurpose, huser, Prog.run_bind]
        | some user =>
          cases hactive : user.isActive <;>
            simp [Option.filter_some, hexp, hpurpose, huser, hactive, Prog.run_bind]
      · simp [Option.filter_some, hexp, hpurpose]
    · simp [Option.filter_some, hexp]

lemma enrollMfaWithToken_get? (random : List UInt8) (enrollmentToken : String) (u : Id) :
    ((AuthService.enrollMfaWithToken env random enrollmentToken).exec s).user.get? u =
      if u ∈ (s.enrollmentUser env enrollmentToken).map Prod.fst then
        (s.user.get? u).map (User.enroll (Totp.generateTotpSecret random))
      else s.user.get? u := by
  rw [AuthService.enrollMfaWithToken, Prog.exec]
  rcases requireMfaEnrollmentUser_run env s enrollmentToken with
    ⟨x, hx, hrun⟩ | ⟨hx, e, hrun⟩
  · rw [Prog.run_bind_ok hrun, hx]
    simpa [eq_comm, Prog.exec] using enrollMfa_get? (s := s) random x.1 u
  · rw [Prog.run_bind, hrun, hx]
    rfl

lemma enrollMfaWithToken_ne_session {random : List UInt8} {enrollmentToken : String}
    {pu : PublicUser} {tokens : TokenPair} :
    ((AuthService.enrollMfaWithToken env random enrollmentToken).run s).1 ≠
      .ok (.session pu tokens) := by
  rw [AuthService.enrollMfaWithToken]
  rcases requireMfaEnrollmentUser_run env s enrollmentToken with
    ⟨x, hx, hrun⟩ | ⟨hx, e, hrun⟩
  · rw [Prog.run_bind_ok hrun]
    exact enrollMfa_ne_session
  · rw [Prog.run_bind, hrun]
    intro h
    cases h

/-! ### Confirmations -/

/-- A confirmation puts the secret of at most one user in force. -/
def Confirms (s s' : Db) : Prop :=
  ∀ u, s'.user.get? u = s.user.get? u ∨ s'.user.get? u = (s.user.get? u).map User.confirm

lemma Confirms.of_eq {s s' : Db} (h : s'.user = s.user) : Confirms s s' :=
  fun u => Or.inl (congrArg (Table.get? · u) h)

lemma Confirms.of_modify {s s' : Db} {i : Id} (h : s'.user = s.user.modify i User.confirm) :
    Confirms s s' := by
  intro u
  rw [h, Table.get?_modify]
  split_ifs
  · exact Or.inr rfl
  · exact Or.inl rfl

lemma confirmMfa_confirms (userId : Id) (code : String) :
    Confirms s ((AuthService.confirmMfa env userId code).exec s) := by
  rw [Prog.exec, AuthService.confirmMfa, Prog.run_bind, Prisma.run_findUniqueOrThrow]
  cases huser : (Rel.user.get s).get? userId with
  | none => exact .of_eq rfl
  | some user =>
    dsimp only
    cases nonEmpty user.mfaSecret with
    | none => exact .of_eq rfl
    | some secret =>
      dsimp only
      rw [AuthService.verifyTotpCode, Prog.run_bind, Prog.run_bind_ok (Prisma.run_now s)]
      dsimp only [Prog.run_pure]
      split_ifs
      · rw [Prog.run_bind_ok (Prisma.run_update_of_some huser _)]
        exact .of_modify rfl
      · exact .of_eq rfl

lemma confirmMfa_ne_session {userId : Id} {code : String} {pu : PublicUser}
    {tokens : TokenPair} :
    ((AuthService.confirmMfa env userId code).run s).1 ≠ .ok (.session pu tokens) := by
  intro h
  rw [AuthService.confirmMfa, Prog.run_bind, Prisma.run_findUniqueOrThrow] at h
  cases huser : (Rel.user.get s).get? userId with
  | none =>
    rw [huser] at h
    cases h
  | some user =>
    rw [huser] at h
    dsimp only at h
    cases hsecret : nonEmpty user.mfaSecret with
    | none =>
      rw [hsecret] at h
      cases h
    | some secret =>
      rw [hsecret] at h
      dsimp only at h
      rw [AuthService.verifyTotpCode, Prog.run_bind, Prog.run_bind_ok (Prisma.run_now s)] at h
      dsimp only [Prog.run_pure] at h
      split_ifs at h
      · rw [Prog.run_bind_ok (Prisma.run_update_of_some huser _)] at h
        cases h
      · cases h

lemma confirmMfaEnrollmentRequired_confirms (random enrollmentToken code : String) :
    Confirms s ((AuthService.confirmMfaEnrollmentRequired env random enrollmentToken code).exec
      s) := by
  rw [AuthService.confirmMfaEnrollmentRequired, Prog.exec]
  rcases requireMfaEnrollmentUser_run env s enrollmentToken with ⟨x, hx, hrun⟩ | ⟨hx, e, hrun⟩
  · obtain ⟨i, user⟩ := x
    rw [Prog.run_bind_ok hrun]
    dsimp only
    cases nonEmpty user.mfaSecret with
    | none => exact .of_eq rfl
    | some secret =>
      dsimp only
      rw [AuthService.verifyTotpCode, Prog.run_bind, Prog.run_bind_ok (Prisma.run_now s)]
      dsimp only [Prog.run_pure]
      split_ifs
      · rw [Prog.run_bind_ok (Prisma.run_update_of_some (user_of_enrollmentUser hx) _)]
        have hrest : LeavesUsers (do
            Prisma.audit
            Prisma.audit
            issueSession env random i user) :=
          fun s => ⟨rfl, fun s => ⟨rfl, leavesUsers_issueSession random i user⟩⟩
        exact .of_modify (i := i) (Prog.EachStep.exec_eq (v := Db.user) hrest _)
      · exact .of_eq rfl
  · rw [Prog.run_bind, hrun]
    exact .of_eq rfl

lemma confirmMfaEnrollmentRequired_session {random enrollmentToken code : String}
    {pu : PublicUser} {tokens : TokenPair}
    (h : ((AuthService.confirmMfaEnrollmentRequired env random enrollmentToken code).run s).1 =
      .ok (.session pu tokens)) : s.CodeFits env tokens.accessToken.sub code := by
  rw [AuthService.confirmMfaEnrollmentRequired] at h
  rcases requireMfaEnrollmentUser_run env s enrollmentToken with ⟨x, hx, hrun⟩ | ⟨hx, e, hrun⟩
  · obtain ⟨i, user⟩ := x
    rw [Prog.run_bind_ok hrun] at h
    dsimp only at h
    cases hsecret : nonEmpty user.mfaSecret with
    | none =>
      rw [hsecret] at h
      cases h
    | some secret =>
      rw [hsecret] at h
      dsimp only at h
      rw [AuthService.verifyTotpCode, Prog.run_bind, Prog.run_bind_ok (Prisma.run_now s)] at h
      dsimp only [Prog.run_pure] at h
      have huser := user_of_enrollmentUser hx
      split_ifs at h with hvalid
      · rw [Prog.run_bind_ok (Prisma.run_update_of_some huser _)] at h
        obtain ⟨pu', tokens', heq, hsub⟩ := issueSession_ok (i := i) h
        cases heq
        rw [hsub]
        exact ⟨user, huser, secret, nonEmpty_eq_some hsecret, hvalid⟩
      · cases h
  · rw [Prog.run_bind, hrun] at h
    cases h

/-! ### Removals -/

lemma disableMfa_get? {userId u : Id} {password : String} :
    ((AuthService.disableMfa env userId password).exec s).user.get? u = s.user.get? u ∨
      (MfaCall.disableMfa userId password).PresentsPassword env s u := by
  rw [Prog.exec, AuthService.disableMfa, Prog.run_bind, Prisma.run_findUniqueOrThrow]
  cases huser : (Rel.user.get s).get? userId with
  | none => exact Or.inl rfl
  | some user =>
    dsimp only
    cases hhash : nonEmpty user.passwordHash with
    | none => exact Or.inl rfl
    | some passwordHash =>
      dsimp only
      split_ifs with hverify
      · rw [Prog.run_bind_ok (Prisma.run_update_of_some huser _)]
        by_cases hu : u = userId
        · subst hu
          exact Or.inr ⟨rfl, user, huser, passwordHash, nonEmpty_eq_some hhash, hverify⟩
        · exact Or.inl (Table.get?_modify_of_ne _ hu _)
      · exact Or.inl rfl

lemma disableMfa_ne_session {userId : Id} {password : String} {pu : PublicUser}
    {tokens : TokenPair} :
    ((AuthService.disableMfa env userId password).run s).1 ≠ .ok (.session pu tokens) := by
  intro h
  rw [AuthService.disableMfa, Prog.run_bind, Prisma.run_findUniqueOrThrow] at h
  cases huser : (Rel.user.get s).get? userId with
  | none =>
    rw [huser] at h
    cases h
  | some user =>
    rw [huser] at h
    dsimp only at h
    cases hhash : nonEmpty user.passwordHash with
    | none =>
      rw [hhash] at h
      cases h
    | some passwordHash =>
      rw [hhash] at h
      dsimp only at h
      split_ifs at h
      · rw [Prog.run_bind_ok (Prisma.run_update_of_some huser _)] at h
        cases h
      · cases h

end Calls

/-! ## Every run -/

section Every

variable {env : MfaEnv} {s : Db}

lemma secondFactor_congr {s' : Db} {u : Id} (h : s'.user.get? u = s.user.get? u) :
    s'.secondFactor u = s.secondFactor u := by
  rw [Db.secondFactor, Db.secondFactor, h]

/-- A confirmation leaves a second factor that is in force as it is. -/
lemma Confirms.secondFactor {s' : Db} (h : Confirms s s') {u : Id} (hforce : s.MfaInForce u) :
    s'.secondFactor u = s.secondFactor u := by
  rcases h u with h | h
  · exact secondFactor_congr h
  · obtain ⟨user, huser, hforce⟩ := hforce
    rw [Db.secondFactor, Db.secondFactor, h, huser]
    simp [User.confirm, hforce]

/-- An enrolment does not. -/
lemma secondFactor_enroll_ne {s' : Db} {u : Id} {secret : String}
    (h : s'.user.get? u = (s.user.get? u).map (User.enroll secret)) (hforce : s.MfaInForce u) :
    s'.secondFactor u ≠ s.secondFactor u := by
  obtain ⟨user, huser, hforce⟩ := hforce
  rw [Db.secondFactor, Db.secondFactor, h, huser]
  simp [User.enroll, hforce]

/-- What a call does to a second factor that is in force. -/
lemma secondFactor_call {c : MfaCall} (h : ¬ c.Reenrolls env s) {u : Id} (hforce : s.MfaInForce u) :
    ((c.code env).exec s).secondFactor u = s.secondFactor u ∨ c.PresentsPassword env s u := by
  cases c with
  | login random dto =>
    have husers : ((MfaCall.login random dto).code env |>.exec s).user = s.user :=
      Prog.EachStep.exec_eq (v := Db.user) (leavesUsers_login random dto) s
    exact Or.inl (secondFactor_congr (by rw [husers]))
  | verifyMfaLogin random mfaToken code =>
    have husers : ((MfaCall.verifyMfaLogin random mfaToken code).code env |>.exec s).user = s.user :=
      Prog.EachStep.exec_eq (v := Db.user) (leavesUsers_verifyMfaLogin random mfaToken code) s
    exact Or.inl (secondFactor_congr (by rw [husers]))
  | enrollMfa random userId =>
    refine Or.inl (secondFactor_congr ?_)
    have hne : u ≠ userId := by
      rintro rfl
      exact h hforce
    exact (enrollMfa_get? random userId u).trans (if_neg hne)
  | confirmMfa userId code => exact Or.inl ((confirmMfa_confirms userId code).secondFactor hforce)
  | enrollMfaWithToken random enrollmentToken =>
    refine Or.inl (secondFactor_congr ?_)
    refine (enrollMfaWithToken_get? random enrollmentToken u).trans (if_neg fun hu => ?_)
    obtain ⟨x, hx, rfl⟩ := Option.map_eq_some_iff.mp hu
    obtain ⟨user, huser, hforce⟩ := hforce
    rw [user_of_enrollmentUser hx] at huser
    cases huser
    exact h ⟨x, hx, hforce⟩
  | confirmMfaEnrollmentRequired random enrollmentToken code =>
    exact Or.inl ((confirmMfaEnrollmentRequired_confirms random enrollmentToken code).secondFactor
      hforce)
  | disableMfa userId password =>
    exact disableMfa_get?.imp_left secondFactor_congr

/-- An enrolment of a user who has enrolled drops what is in force. -/
lemma not_keeps_of_reenrolls {c : MfaCall} (h : c.Reenrolls env s) :
    ¬ KeepsSecondFactor env s (.call c) := by
  intro hkeeps
  cases c with
  | enrollMfa random userId =>
    rcases (hkeeps userId h).1 with heq | ⟨c, hc, hpassword⟩
    · exact secondFactor_enroll_ne ((enrollMfa_get? random userId userId).trans (if_pos rfl)) h heq
    · cases hc
      exact hpassword
  | enrollMfaWithToken random enrollmentToken =>
    obtain ⟨x, hx, hforce⟩ := h
    have hinForce : s.MfaInForce x.1 := ⟨x.2, user_of_enrollmentUser hx, hforce⟩
    rcases (hkeeps x.1 hinForce).1 with heq | ⟨c, hc, hpassword⟩
    · refine secondFactor_enroll_ne ((enrollMfaWithToken_get? random enrollmentToken x.1).trans
        (if_pos ?_)) hinForce heq
      exact Option.map_eq_some_iff.mpr ⟨x, hx, rfl⟩
    · cases hc
      exact hpassword
  | login => exact h
  | verifyMfaLogin => exact h
  | confirmMfa => exact h
  | confirmMfaEnrollmentRequired => exact h
  | disableMfa => exact h

/-- A session of a user whose second factor is in force is given only for a code. -/
lemma codeFits_of_logsIn {c : MfaCall} {u : Id} (hforce : s.MfaInForce u)
    (h : c.LogsIn env s u) : ∃ code ∈ c.presentedCode, s.CodeFits env u code := by
  obtain ⟨pu, tokens, hsession, rfl⟩ := h
  cases c with
  | login random dto => exact absurd hforce (login_session hsession)
  | verifyMfaLogin random mfaToken code => exact ⟨code, rfl, verifyMfaLogin_session hsession⟩
  | enrollMfa random userId => exact absurd hsession enrollMfa_ne_session
  | confirmMfa userId code => exact absurd hsession confirmMfa_ne_session
  | enrollMfaWithToken random enrollmentToken =>
    exact absurd hsession enrollMfaWithToken_ne_session
  | confirmMfaEnrollmentRequired random enrollmentToken code =>
    exact ⟨code, rfl, confirmMfaEnrollmentRequired_session hsession⟩
  | disableMfa userId password => exact absurd hsession disableMfa_ne_session

/-- The event starts no enrolment for a user whose second factor is in force. -/
def EnrollsOnlyNew (env : MfaEnv) (d : Db) (e : MfaEvent) : Prop :=
  ∀ c, e = .call c → ¬ c.Reenrolls env d

lemma keepsSecondFactor_iff (e : MfaEvent) :
    KeepsSecondFactor env s e ↔ EnrollsOnlyNew env s e := by
  constructor
  · rintro hkeeps c rfl hreenrolls
    exact not_keeps_of_reenrolls hreenrolls hkeeps
  · intro h u hforce
    refine ⟨?_, fun c _ hlogsIn => codeFits_of_logsIn hforce hlogsIn⟩
    cases e with
    | elapse ms => exact Or.inl rfl
    | call c => exact (secondFactor_call (h c rfl) hforce).imp_right fun hp => ⟨c, rfl, hp⟩

variable (env) in
/-- **The second factor is kept**: in every run, a call drops or replaces a second factor that is in
force only when it presents the password, and gives a session of its user only for a code that
fits, exactly when no call starts an enrolment for a user who has already enrolled. -/
theorem second_factor_kept_iff (d : Db) (es : List MfaEvent) :
    AllSteps (mfaStep env) (KeepsSecondFactor env) d es ↔
      AllSteps (mfaStep env) (EnrollsOnlyNew env) d es :=
  allSteps_congr_of_invariant (I := fun _ => True) (fun _ _ _ => trivial)
    (fun _ e _ => keepsSecondFactor_iff e) trivial es

end Every

/-! ## Runs -/

def enrollmentPayload : MfaPayload := ⟨0, "mfa_enrollment_required", 1300⟩

/-- The platform where the runs below need it. -/
def sampleMfaEnv : MfaEnv where
  sha256 text := text
  argon2Hash _ password := password
  argon2Verify hash password := hash = password
  hmacSha1 key message :=
    if key = List.replicate 20 0 ∧ message = [0, 0, 0, 0, 0, 0, 0, 33] then
      [88, 219, 65, 216, 132, 102, 184, 61, 65, 16] ++
        [158, 101, 205, 233, 120, 188, 26, 72, 0, 85]
    else []
  toUpperCase text := text
  signMfaToken payload := if payload = enrollmentPayload then "enrollment" else "other"
  openMfaToken token := if token = "enrollment" then some enrollmentPayload else none

/-- An administrator who has not enrolled. -/
def newAdminDb : Db where
  clock := 1000000
  user := Table.empty.insert
    { email := some "a@b.c", passwordHash := some "secret", role := .admin }

/-- The administrator logs in, and enrolls with the token that he is given. -/
def enrolment : List MfaEvent :=
  [.call (.login "0.5" ⟨"a@b.c", "secret"⟩),
    .call (.enrollMfaWithToken (List.replicate 20 0) "enrollment"),
    .call (.confirmMfaEnrollmentRequired "0.5" "enrollment" "350337")]

lemma enrolment_inForce :
    (runFrom (mfaStep sampleMfaEnv) newAdminDb enrolment).MfaInForce 0 := by
  have hforce : ((runFrom (mfaStep sampleMfaEnv) newAdminDb enrolment).user.get? 0).map
      User.mfaEnabled = some true := by decide +kernel
  exact Option.map_eq_some_iff.mp hforce

/-- His second factor is dropped again, with the old token or in a session; no password and no code
is presented. -/
theorem second_factor_dropped :
    ¬ AllSteps (mfaStep sampleMfaEnv) (KeepsSecondFactor sampleMfaEnv) newAdminDb
      (enrolment ++ [.call (.enrollMfaWithToken (List.replicate 20 1) "enrollment")]) ∧
    ¬ AllSteps (mfaStep sampleMfaEnv) (KeepsSecondFactor sampleMfaEnv) newAdminDb
      (enrolment ++ [.call (.enrollMfa (List.replicate 20 1) 0)]) := by
  constructor
  · intro hall
    have haccepted : ((runFrom (mfaStep sampleMfaEnv) newAdminDb enrolment).enrollmentUser
        sampleMfaEnv "enrollment").map (fun x => x.2.mfaEnabled) = some true := by decide +kernel
    have hreenrolls : (MfaCall.enrollMfaWithToken (List.replicate 20 1) "enrollment").Reenrolls
        sampleMfaEnv (runFrom (mfaStep sampleMfaEnv) newAdminDb enrolment) :=
      Option.map_eq_some_iff.mp haccepted
    exact not_keeps_of_reenrolls hreenrolls (AllSteps.append_iff.mp hall).2.1
  · intro hall
    have hreenrolls : (MfaCall.enrollMfa (List.replicate 20 1) 0).Reenrolls sampleMfaEnv
        (runFrom (mfaStep sampleMfaEnv) newAdminDb enrolment) := enrolment_inForce
    exact not_keeps_of_reenrolls hreenrolls (AllSteps.append_iff.mp hall).2.1

end Asoju
