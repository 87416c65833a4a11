/-
Sessions: the refresh tokens of a user, and what revokes them.

Only hashes of tokens are stored.  `refresh` exchanges a token for a new pair: it looks the token
up, looks its user up, revokes the token and creates the next one, in separate calls of the
client.  `resetPassword`, `logoutAll` and `deactivateStaffAccount` revoke all the tokens of a
user at once.
-/
import Asoju.Cases

namespace Asoju

open Lib

/-- The cryptography of the platform, and the configuration of the sessions. -/
structure AuthEnv where
  /-- SHA-256 of a text, in hexadecimal digits. -/
  sha256 : String → String
  /-- The argon2 hash of a password under a salt. -/
  argon2Hash : String → String → String
  /-- Whether a password is the one that was hashed. -/
  argon2Verify : String → String → Bool
  /-- HMAC with SHA-1, of a key and a message. -/
  hmacSha1 : List UInt8 → List UInt8 → List UInt8
  jwtRefreshTtl : Option String := none

/-- An access token: what is signed. -/
structure AccessToken where
  sub : Id
  role : Role
deriving DecidableEq, Repr

structure TokenPair where
  accessToken : AccessToken
  refreshToken : String
deriving DecidableEq, Repr

/-- The refresh token with this hash; the column is unique. -/
def Db.refreshTokenByHash (d : Db) (tokenHash : String) : Option (Id × RefreshToken) :=
  d.refreshToken.rows.find? fun p => p.2.tokenHash = tokenHash

/-- The password reset token with this hash; the column is unique. -/
def Db.passwordResetTokenByHash (d : Db) (tokenHash : String) :
    Option (Id × PasswordResetToken) :=
  d.passwordResetToken.rows.find? fun p => p.2.tokenHash = tokenHash

/-- The token as it is revoked. -/
def RefreshToken.revoke (now : Time) (t : RefreshToken) : RefreshToken :=
  { t with revokedAt := some now }

/-- The token is one of the user's that are not revoked. -/
def RefreshToken.openOf (userId : Id) (t : RefreshToken) : Bool :=
  t.userId = userId ∧ t.revokedAt = none

def provisionableStaffRoles : List Role :=
  [.relationshipManager, .caseManager, .qualityControl, .finance, .complianceRisk, .admin,
    .superAdmin]

namespace AuthService

variable (env : AuthEnv)

def hashToken (token : String) : String := env.sha256 token

/-- The number that decimal digits stand for. -/
def digitsValue (digits : List Char) : ℕ :=
  digits.foldl (fun n c => 10 * n + (c.toNat - 48)) 0

/-- The milliseconds in a time to live such as `15m`, and seven days if it is not of this form. -/
def parseTtlMs (ttl : String) : ℕ :=
  let unitMs : Option ℕ := match ttl.toList.dropWhile Char.isDigit with
    | ['s'] => some 1000
    | ['m'] => some 60000
    | ['h'] => some 3600000
    | ['d'] => some 86400000
    | _ => none
  match ttl.toList.takeWhile Char.isDigit, unitMs with
  | c :: digits, some ms => digitsValue (c :: digits) * ms
  | _, _ => 7 * 24 * 60 * 60 * 1000

example : parseTtlMs "15m" = 900000 ∧ parseTtlMs "90x" = 604800000 := by decide +kernel

/-- A new refresh token: the user, the time and a random number, hashed. -/
def newRefreshToken (userId : Id) (now : Time) (random : String) : String :=
  env.sha256 s!"{userId}:{now}:{random}"

/-- Creates a refresh token.  `random` is the number drawn for it. -/
def issueTokens (random : String) (userId : Id) (role : Role) : Svc TokenPair := do
  let now ← Prisma.now
  let refreshToken := newRefreshToken env userId now random
  let refreshTtlMs := parseTtlMs (env.jwtRefreshTtl.getD "7d")
  let _ ← Prisma.createUnique .refreshToken
    (fun d => (d.refreshTokenByHash (hashToken env refreshToken)).isSome) fun now =>
    { userId, tokenHash := hashToken env refreshToken, expiresAt := now + refreshTtlMs }
  pure ⟨⟨userId, role⟩, refreshToken⟩

def invalidRefreshToken : HttpError := .unauthorized "Invalid refresh token"

def refresh (random refreshToken : String) : Svc TokenPair := do
  let found ← Prisma.query .refreshToken (·.refreshTokenByHash (hashToken env refreshToken))
  match found with
  | none => throw invalidRefreshToken
  | some (i, stored) =>
    if stored.revokedAt.isSome then throw invalidRefreshToken
    else
      let now ← Prisma.now
      if stored.expiresAt < now then throw invalidRefreshToken
      else
        let user ← Prisma.findUnique .user stored.userId
        match user with
        | none => throw invalidRefreshToken
        | some user =>
          if user.isActive then
            let _ ← Prisma.update .refreshToken i RefreshToken.revoke
            issueTokens env random stored.userId user.role
          else throw invalidRefreshToken

def logout (refreshToken : String) : Svc Unit := do
  let now ← Prisma.now
  Prisma.updateMany .refreshToken
    (fun _ t => t.tokenHash = hashToken env refreshToken ∧ t.revokedAt = none)
    (RefreshToken.revoke now)

def logoutAll (userId : Id) : Svc Unit := do
  let now ← Prisma.now
  Prisma.updateMany .refreshToken (fun _ t => t.openOf userId) (RefreshToken.revoke now)
  Prisma.audit

def invalidResetLink : HttpError := .unauthorized "Invalid or expired reset link"

/-- The writes of a password reset: they are committed together. -/
def resetPasswordTx (i userId : Id) (passwordHash : String) (d : Db) : Db :=
  ((d.modifyRow .user userId fun u => { u with passwordHash := some passwordHash }).modifyRow
    .passwordResetToken i fun t => { t with usedAt := some d.clock }).modifyRows
    .refreshToken (fun _ t => t.openOf userId) (RefreshToken.revoke d.clock)

/-- `salt` is the salt drawn for the new password. -/
def resetPassword (salt token newPassword : String) : Svc Unit := do
  let found ← Prisma.query .passwordResetToken
    (·.passwordResetTokenByHash (hashToken env token))
  match found with
  | none => throw invalidResetLink
  | some (i, stored) =>
    if stored.usedAt.isSome then throw invalidResetLink
    else
      let now ← Prisma.now
      if stored.expiresAt < now then throw invalidResetLink
      else
        let passwordHash := env.argon2Hash salt newPassword
        Prisma.transaction (resetPasswordTx i stored.userId passwordHash) fun _ => ()
        Prisma.audit

/-- The writes of a deactivation: they are committed together. -/
def deactivateTx (userId : Id) (d : Db) : Db :=
  (d.modifyRow .user userId fun u => { u with isActive := false }).modifyRows
    .refreshToken (fun _ t => t.openOf userId) (RefreshToken.revoke d.clock)

def deactivateStaffAccount (actor : AuthenticatedUser) (userId : Id) : Svc Unit := do
  let user ← Prisma.findUnique .user userId
  match user with
  | none => throw (.notFound "Account not found")
  | some user =>
    if user.role ∉ provisionableStaffRoles then
      throw (.badRequest "This endpoint only manages staff accounts")
    else if userId = actor.id then
      throw (.badRequest "Cannot deactivate your own account")
    else
      Prisma.transaction (deactivateTx userId) fun _ => ()
      Prisma.audit

def reactivateStaffAccount (userId : Id) : Svc Unit := do
  let user ← Prisma.findUnique .user userId
  match user with
  | none => throw (.notFound "Account not found")
  | some user =>
    if user.role ∉ provisionableStaffRoles then
      throw (.badRequest "This endpoint only manages staff accounts")
    else
      let _ ← Prisma.update .user userId fun _ u => { u with isActive := true }
      Prisma.audit

end AuthService

end Asoju
