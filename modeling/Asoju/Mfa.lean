/-
Logins with a second factor.

A user who has enrolled is not given a session for the password: `login` answers with a restricted
token, and `verifyMfaLogin` exchanges it for a session with the code of the moment.  A privileged
user who has not enrolled is given a restricted token of the other purpose, with which he can
only enroll.  Restricted tokens are signed and expire after five minutes; nothing of them is
stored.
-/
import Asoju.Sessions
import Asoju.Totp

namespace Asoju

open Lib

/-- What a restricted token says: the user, what it is for, and when it expires, in seconds. -/
structure MfaPayload where
  sub : Id
  purpose : String
  exp : ℤ
deriving DecidableEq, Repr

/-- The platform, with the signing of restricted tokens. -/
structure MfaEnv extends AuthEnv where
  toUpperCase : String → String
  signMfaToken : MfaPayload → String
  /-- What a restricted token says, if its signature is right. -/
  openMfaToken : String → Option MfaPayload

structure LoginDto where
  email : String
  password : String
deriving DecidableEq, Repr

structure PublicUser where
  id : Id
  email : Option String
  role : Role
deriving DecidableEq, Repr

/-- What the calls answer. -/
inductive AuthResponse
  | mfaEnrollmentRequired (enrollmentToken : String)
  | mfaRequired (mfaToken : String)
  | session (user : PublicUser) (tokens : TokenPair)
  | enrollment (secret otpAuthUrl : String)
  | mfaEnabled (enabled : Bool)
deriving DecidableEq, Repr

/-- The user with this e-mail address; the column is unique. -/
def Db.userByEmail (d : Db) (email : String) : Option (Id × User) :=
  d.user.rows.find? fun p => p.2.email = some email

/-- A text that is there and is not empty. -/
def nonEmpty (text : Option String) : Option String := text.filter (· ≠ "")

def mfaRequiredRoles : List Role := [.admin, .superAdmin, .finance, .complianceRisk]

namespace AuthService

variable (env : MfaEnv)

def mfaPendingTtlSeconds : ℤ := 5 * 60

/-- `verifyAsync`: the signature is right, and the token has not expired. -/
def verifyMfaToken (token : String) : Svc (Option MfaPayload) := do
  let now ← Prisma.now
  pure ((env.openMfaToken token).filter fun payload => now / 1000 < payload.exp)

/-- `signAsync`. -/
def signMfaToken (userId : Id) (purpose : String) : Svc String := do
  let now ← Prisma.now
  pure (env.signMfaToken ⟨userId, purpose, now / 1000 + mfaPendingTtlSeconds⟩)

def verifyTotpCode (secret code : String) : Svc Bool := do
  let now ← Prisma.now
  pure (Totp.verifyTotpCode env.toUpperCase env.hmacSha1 secret code now)

def toPublicUser (i : Id) (user : User) : PublicUser := ⟨i, user.email, user.role⟩

/-- Real session tokens, as the answer to a login. -/
def issueSession (random : String) (i : Id) (user : User) : Svc AuthResponse := do
  let tokens ← issueTokens env.toAuthEnv random i user.role
  pure (.session (toPublicUser i user) tokens)

def invalidCredentials : HttpError := .unauthorized "Invalid credentials"

/-- The password is right: what the user gets for it. -/
def loginWith (random : String) (i : Id) (user : User) : Svc AuthResponse :=
  if user.role ∈ mfaRequiredRoles ∧ user.mfaEnabled = false then do
    let enrollmentToken ← signMfaToken env i "mfa_enrollment_required"
    Prisma.audit
    pure (.mfaEnrollmentRequired enrollmentToken)
  else if user.mfaEnabled then do
    let mfaToken ← signMfaToken env i "mfa_pending"
    Prisma.audit
    pure (.mfaRequired mfaToken)
  else do
    Prisma.audit
    issueSession env random i user

def login (random : String) (dto : LoginDto) : Svc AuthResponse := do
  let found ← Prisma.query .user (·.userByEmail dto.email)
  match found with
  | none => throw invalidCredentials
  | some (i, user) =>
    match nonEmpty user.passwordHash with
    | none => throw invalidCredentials
    | some passwordHash =>
      if user.isActive = false ∨ env.argon2Verify passwordHash dto.password = false then
        throw invalidCredentials
      else loginWith env random i user

def invalidMfaChallenge : HttpError := .unauthorized "Invalid MFA challenge"

/-- The user of a challenge answers it with a code. -/
def answerChallenge (random code : String) (i : Id) (user : User) : Svc AuthResponse :=
  match nonEmpty user.mfaSecret with
  | none => throw invalidMfaChallenge
  | some secret =>
    if user.isActive = false ∨ user.mfaEnabled = false then throw invalidMfaChallenge
    else do
      if ← verifyTotpCode env secret code then
        Prisma.audit
        issueSession env random i user
      else
        Prisma.audit
        throw (.unauthorized "Incorrect code")

def verifyMfaLogin (random mfaToken code : String) : Svc AuthResponse := do
  let payload ← verifyMfaToken env mfaToken
  match payload with
  | none => throw (.unauthorized "MFA challenge expired or invalid — please log in again")
  | some payload =>
    if payload.purpose ≠ "mfa_pending" then throw invalidMfaChallenge
    else
      let user ← Prisma.findUnique .user payload.sub
      match user with
      | none => throw invalidMfaChallenge
      | some user => answerChallenge env random code payload.sub user

def invalidEnrollmentSession : HttpError := .unauthorized "Invalid enrollment session"

/-- The user an enrollment token is for. -/
def requireMfaEnrollmentUser (enrollmentToken : String) : Svc (Id × User) := do
  let payload ← verifyMfaToken env enrollmentToken
  match payload with
  | none => throw (.unauthorized "Enrollment session expired or invalid — please log in again")
  | some payload =>
    if payload.purpose ≠ "mfa_enrollment_required" then throw invalidEnrollmentSession
    else
      let user ← Prisma.findUnique .user payload.sub
      match user with
      | none => throw invalidEnrollmentSession
      | some user =>
        if user.isActive then pure (payload.sub, user) else throw invalidEnrollmentSession

/-- `random` are the bytes drawn for the secret. -/
def enrollMfa (random : List UInt8) (userId : Id) : Svc AuthResponse := do
  let user ← Prisma.findUniqueOrThrow .user userId
  let secret := Totp.generateTotpSecret random
  let _ ← Prisma.update .user userId fun _ u =>
    { u with mfaSecret := some secret, mfaEnabled := false }
  let label := (user.email.or user.phone).getD (toString userId)
  pure (.enrollment secret (Totp.otpAuthUrl label secret))

def confirmMfa (userId : Id) (code : String) : Svc AuthResponse := do
  let user ← Prisma.findUniqueOrThrow .user userId
  match nonEmpty user.mfaSecret with
  | none => throw (.badRequest "Call POST /auth/mfa/enroll first")
  | some secret =>
    if ← verifyTotpCode env secret code then
      let _ ← Prisma.update .user userId fun _ u => { u with mfaEnabled := true }
      Prisma.audit
      pure (.mfaEnabled true)
    else throw (.badRequest "Incorrect code")

def enrollMfaWithToken (random : List UInt8) (enrollmentToken : String) : Svc AuthResponse := do
  let user ← requireMfaEnrollmentUser env enrollmentToken
  enrollMfa random user.1

def confirmMfaEnrollmentRequired (random enrollmentToken code : String) : Svc AuthResponse := do
  let (i, user) ← requireMfaEnrollmentUser env enrollmentToken
  match nonEmpty user.mfaSecret with
  | none => throw (.badRequest "Call the enrollment start step first")
  | some secret =>
    if ← verifyTotpCode env secret code then
      let _ ← Prisma.update .user i fun _ u => { u with mfaEnabled := true }
      Prisma.audit
      Prisma.audit
      issueSession env random i user
    else
      Prisma.audit
      throw (.unauthorized "Incorrect code")

def incorrectPassword : HttpError := .unauthorized "Incorrect password"

def disableMfa (userId : Id) (password : String) : Svc AuthResponse := do
  let user ← Prisma.findUniqueOrThrow .user userId
  match nonEmpty user.passwordHash with
  | none => throw incorrectPassword
  | some passwordHash =>
    if env.argon2Verify passwordHash password then
      let _ ← Prisma.update .user userId fun _ u =>
        { u with mfaEnabled := false, mfaSecret := none }
      Prisma.audit
      pure (.mfaEnabled false)
    else throw incorrectPassword

end AuthService

end Asoju
