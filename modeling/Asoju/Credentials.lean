/-
Accounts: who gets one, with which role, and who sets its password.

Seven methods of the platform create users.  A customer registers or writes to the concierge, a
beneficiary accepts an invite, and agents, providers, the contacts of partners and the staff are
signed up by an administrator.  Whoever is signed up without a password is sent a link with a
token, as is whoever has forgotten his own, and `resetPassword` takes the token for a new password.

Here are the methods that the other modules do not have, and `AccountOp`, which lists every method
that writes users or tokens.  What any number of them does together is said in the next module.
-/
import Asoju.Lib.Rely
import Asoju.Providers
import Asoju.WhatsApp

namespace Asoju

open Lib

/-! ## Forgotten passwords and new accounts -/

/-- The answer to a forgotten password, the same whether there is an account or not. -/
structure ForgotAnswer where
  message : String
  /-- The token, outside of production. -/
  devToken : Option String
deriving DecidableEq, Repr

structure ProvisionAnswer where
  user : PublicUser
  /-- The token, outside of production. -/
  devToken : Option String
deriving DecidableEq, Repr

/-- What is drawn at random for an account that an administrator creates. -/
structure ProvisionDraws where
  salt : String
  /-- In hexadecimal digits: what is hashed in place of a password. -/
  password : String
  /-- In hexadecimal digits: the token of the link. -/
  token : String
deriving DecidableEq, Repr

namespace AuthService

variable (env : AuthEnv) (isProduction : Bool)

def passwordResetTtlMs : Time := 30 * 60 * 1000

/-- `passwordResetToken.create`: the hash of the token is unique. -/
def createPasswordResetToken (token : String) (userId : Id) : Svc Id :=
  Prisma.createUnique .passwordResetToken
    (fun d => (d.passwordResetTokenByHash (hashToken env token)).isSome) fun now =>
    { userId, tokenHash := hashToken env token, expiresAt := now + passwordResetTtlMs }

def resetLinkSent : String := "If that email exists, a reset link has been sent."

/-- `token` is the one drawn for the link.  `sendEmail` does not throw. -/
def forgotPassword (token email : String) : Svc ForgotAnswer := do
  let found ← Prisma.query .user (·.userByEmail email)
  match found with
  | none => pure ⟨resetLinkSent, none⟩
  | some (userId, _) =>
      let _ ← createPasswordResetToken env token userId
      Prisma.audit
      Prisma.notify
      Prisma.callProvider (.ok ())
      pure ⟨resetLinkSent, if isProduction then none else some token⟩

/-- The user that an administrator creates: nobody knows what has been hashed. -/
def provisionedUser (draws : ProvisionDraws) (email : String) (role : Role) : User where
  email := some email
  passwordHash := some (env.argon2Hash draws.salt draws.password)
  role := role

def adminProvisionAccount (draws : ProvisionDraws) (email : String) (role : Role) :
    Svc ProvisionAnswer := do
  let existing ← Prisma.query .user (·.userByEmail email)
  if existing.isSome then throw (.conflict "An account with this email already exists")
  else
    let user := provisionedUser env draws email role
    let userId ← Prisma.createUnique .user (·.userTaken email none) fun _ => user
    Prisma.audit
    let _ ← createPasswordResetToken env draws.token userId
    Prisma.callProvider (.ok ())
    pure ⟨toPublicUser userId user, if isProduction then none else some draws.token⟩

end AuthService

/-- `RolesGuard`: an endpoint without roles is open to everybody. -/
def RolesGuard.canActivate (requiredRoles : List Role) (user : AuthenticatedUser) : Bool :=
  requiredRoles = [] ∨ user.role ∈ requiredRoles

/-- What the framework throws when a guard refuses a request. -/
def forbiddenResource : HttpError := .forbidden "Forbidden resource"

/-- The roles of the endpoints that create accounts for others. -/
def accountAdminRoles : List Role := [.admin, .superAdmin]

def Role.name : Role → String
  | .customer => "CUSTOMER"
  | .beneficiary => "BENEFICIARY"
  | .fieldAgent => "FIELD_AGENT"
  | .provider => "PROVIDER"
  | .partner => "PARTNER"
  | .relationshipManager => "RELATIONSHIP_MANAGER"
  | .caseManager => "CASE_MANAGER"
  | .qualityControl => "QUALITY_CONTROL"
  | .finance => "FINANCE"
  | .complianceRisk => "COMPLIANCE_RISK"
  | .admin => "ADMIN"
  | .superAdmin => "SUPER_ADMIN"

/-- What the signed part of an access token is worth: the user has to be there and active, and his
role is the one in the database. -/
def JwtStrategy.validate (payload : AccessToken) : Svc AuthenticatedUser := do
  let user ← Prisma.findUnique .user payload.sub
  match user with
  | none => throw (.unauthorized "Unauthorized")
  | some user =>
      if user.isActive then pure ⟨payload.sub, user.role⟩
      else throw (.unauthorized "Unauthorized")

/-- The request as the guards and the check of the body let it through. -/
def AuthController.createStaffAccount (env : AuthEnv) (isProduction : Bool)
    (payload : AccessToken) (draws : ProvisionDraws) (email : String) (role : Role) :
    Svc ProvisionAnswer := do
  let user ← JwtStrategy.validate payload
  if RolesGuard.canActivate accountAdminRoles user = false then throw forbiddenResource
  else if role ∉ provisionableStaffRoles then
    throw (.badRequest ("role must be one of the following values: " ++
      ", ".intercalate (provisionableStaffRoles.map Role.name)))
  else AuthService.adminProvisionAccount env isProduction draws email role

namespace PartnersService

/-- The login of a contact of the partner.  The row that ties the two together goes to a table that
nothing here reads. -/
def createPartnerContact (env : AuthEnv) (isProduction : Bool) (draws : ProvisionDraws)
    (partnerId : Id) (email : String) : Svc ProvisionAnswer := do
  let partner ← Prisma.query .partner (·.partner.get? partnerId)
  match partner with
  | none => throw (.notFound "Partner not found")
  | some _ =>
      let answer ← AuthService.adminProvisionAccount env isProduction draws email .partner
      Prisma.audit
      pure answer

end PartnersService

structure CreateAgentDto where
  email : String
  phone : Option String := none
  password : String
deriving DecidableEq, Repr

/-- `user.create` with its agent, in one write.  E-mail addresses and phone numbers of users are
unique. -/
def createAgentUser (taken : Db → Bool) (user : User) (agent : Id → Agent) : Svc Id :=
  .atom (.create .user)
    (fun d => if taken d then d
      else (d.insertRow .user user).insertRow .agent (agent d.user.next))
    fun d => if taken d then .fail Prisma.uniqueViolation else .ret d.agent.next

namespace AgentsService

variable (env : AuthEnv)

def onboardedUser (salt : String) (dto : CreateAgentDto) : User where
  email := some dto.email
  phone := dto.phone
  passwordHash := some (env.argon2Hash salt dto.password)
  role := .fieldAgent

/-- `salt` is the salt drawn for the password. -/
def createAgent (salt : String) (dto : CreateAgentDto) : Svc Id := do
  let existing ← Prisma.query .user (·.userByEmail dto.email)
  if existing.isSome then throw (.conflict "An account with this email already exists")
  else
    let agentId ← createAgentUser (·.userTaken dto.email dto.phone) (onboardedUser env salt dto)
      fun userId => { userId, isActive := true }
    Prisma.audit
    pure agentId

end AgentsService

/-! ## The calls -/

/-- Anything else that the platform does: it writes neither users nor tokens. -/
structure OtherWrite where
  act : Act
  write : Db → Db
  leaves : ∀ d, (write d).user = d.user ∧ (write d).passwordResetToken = d.passwordResetToken

/-- A call, with what is drawn at random in it. -/
inductive AccountOp
  | register (salt random : String) (draw : ℕ → List UInt8) (dto : RegisterDto)
  | handleInboundMessage (m : WhatsappService.InboundMessage)
  | acceptBeneficiaryInvite (salt random token email password : String)
  | createAgent (salt : String) (dto : CreateAgentDto)
  | createProvider (salt : String) (dto : CreateProviderDto)
  | createPartnerContact (draws : ProvisionDraws) (partnerId : Id) (email : String)
  | createStaffAccount (payload : AccessToken) (draws : ProvisionDraws) (email : String)
      (role : Role)
  | forgotPassword (token email : String)
  | resetPassword (salt token newPassword : String)
  | login (random : String) (dto : LoginDto)
  | verifyMfaLogin (random mfaToken code : String)
  | enrollMfaWithToken (random : List UInt8) (enrollmentToken : String)
  | confirmMfaEnrollmentRequired (random enrollmentToken code : String)
  | enrollMfa (random : List UInt8) (userId : Id)
  | confirmMfa (userId : Id) (code : String)
  | disableMfa (userId : Id) (password : String)
  | refresh (random refreshToken : String)
  | deactivateStaffAccount (user : AuthenticatedUser) (userId : Id)
  | reactivateStaffAccount (userId : Id)
  | updatePreferences (user : AuthenticatedUser) (dto : UpdatePreferencesDto)
  | other (w : OtherWrite)

/-- The tokens that an answer carries. -/
def AuthResponse.tokens : AuthResponse → Option TokenPair
  | session _ tokens => some tokens
  | _ => none

namespace AccountOp

/-- What a call does; it answers with tokens, or with something that does not matter here. -/
def code (env : MfaEnv) (isProduction : Bool) : AccountOp → Svc (Option TokenPair)
  | register salt random draw dto => do
      return some (← AuthService.register env salt random draw dto).tokens
  | handleInboundMessage m => do
      let _ ← WhatsappService.handleInboundMessage m
      return none
  | acceptBeneficiaryInvite salt random token email password => do
      return some (← AuthService.acceptBeneficiaryInvite env.toAuthEnv salt random token email
        password).2
  | createAgent salt dto => do
      let _ ← AgentsService.createAgent env.toAuthEnv salt dto
      return none
  | createProvider salt dto => do
      let _ ← ProvidersService.createProvider env.argon2Hash salt dto
      return none
  | createPartnerContact draws partnerId email => do
      let _ ← PartnersService.createPartnerContact env.toAuthEnv isProduction draws partnerId email
      return none
  | createStaffAccount payload draws email role => do
      let _ ← AuthController.createStaffAccount env.toAuthEnv isProduction payload draws email role
      return none
  | forgotPassword token email => do
      let _ ← AuthService.forgotPassword env.toAuthEnv isProduction token email
      return none
  | resetPassword salt token newPassword => do
      AuthService.resetPassword env.toAuthEnv salt token newPassword
      return none
  | login random dto => do return (← AuthService.login env random dto).tokens
  | verifyMfaLogin random mfaToken code => do
      return (← AuthService.verifyMfaLogin env random mfaToken code).tokens
  | enrollMfaWithToken random enrollmentToken => do
      let _ ← AuthService.enrollMfaWithToken env random enrollmentToken
      return none
  | confirmMfaEnrollmentRequired random enrollmentToken code => do
      return (← AuthService.confirmMfaEnrollmentRequired env random enrollmentToken code).tokens
  | enrollMfa random userId => do
      let _ ← AuthService.enrollMfa random userId
      return none
  | confirmMfa userId code => do
      let _ ← AuthService.confirmMfa env userId code
      return none
  | disableMfa userId password => do
      let _ ← AuthService.disableMfa env userId password
      return none
  | refresh random refreshToken => do
      return some (← AuthService.refresh env.toAuthEnv random refreshToken)
  | deactivateStaffAccount user userId => do
      AuthService.deactivateStaffAccount user userId
      return none
  | reactivateStaffAccount userId => do
      AuthService.reactivateStaffAccount userId
      return none
  | updatePreferences user dto => do
      let _ ← ProfileService.updatePreferences user dto
      return none
  | other w => do
      .write w.act w.write
      return none

end AccountOp

/-- A call, with the step at which it fails, if it does. -/
structure AccountCall where
  op : AccountOp
  fault : Option (ℕ × HttpError) := none

def AccountCall.code (env : MfaEnv) (isProduction : Bool) (c : AccountCall) :
    Svc (Option TokenPair) := (c.op.code env isProduction).withFault c.fault

/-! ## Where accounts and passwords come from -/

/-- Who somebody is. -/
structure Identity where
  email : Option String
  role : Role
deriving DecidableEq, Repr

def User.identity (user : User) : Identity := ⟨user.email, user.role⟩

/-- Who the user is, if there is one. -/
def Db.identity (d : Db) (i : Id) : Option Identity := (d.user.get? i).map User.identity

/-- An account as it is created. -/
structure Account where
  identity : Identity
  passwordHash : Option String
deriving DecidableEq, Repr

def User.account (user : User) : Account := ⟨user.identity, user.passwordHash⟩

namespace AccountOp

/-- The account that a call creates when it succeeds. -/
def opens (env : MfaEnv) : AccountOp → Option Account
  | register salt _ _ dto => some (AuthService.registeredUser env salt dto).account
  | handleInboundMessage _ => some ⟨⟨none, .customer⟩, none⟩
  | acceptBeneficiaryInvite salt _ _ email password =>
      some ⟨⟨some email, .beneficiary⟩, some (env.argon2Hash salt password)⟩
  | createAgent salt dto => some (AgentsService.onboardedUser env.toAuthEnv salt dto).account
  | createProvider salt dto =>
      some ⟨⟨some dto.email, .provider⟩, some (env.argon2Hash salt dto.password)⟩
  | createPartnerContact draws _ email =>
      some (AuthService.provisionedUser env.toAuthEnv draws email .partner).account
  | createStaffAccount _ draws email role =>
      some (AuthService.provisionedUser env.toAuthEnv draws email role).account
  | _ => none

/-- The token that a call sends, and the address that it sends it to. -/
def sends : AccountOp → Option (String × String)
  | forgotPassword token email => some (token, email)
  | createPartnerContact draws _ email => some (draws.token, email)
  | createStaffAccount _ draws email _ => some (draws.token, email)
  | _ => none

end AccountOp

abbrev AccountPool := Pool Db Act HttpError (Option TokenPair) AccountCall

/-- The run of a pool that is idle in the beginning. -/
abbrev accountRun (env : MfaEnv) (isProduction : Bool) (d : Db) (es : List (Event AccountCall)) :
    AccountPool :=
  runFrom (Pool.step (AccountCall.code env isProduction)) (Pool.idle d) es

section Provenance

variable (env : MfaEnv) (d₀ : Db) (es : List (Event AccountCall))

/-- The call is started in the run, and fails somewhere or not. -/
def Started (op : AccountOp) : Prop := ∃ fault, Event.start ⟨op, fault⟩ ∈ es

/-- The account was there in the beginning, or a call of the run opens it. -/
def Opened (i : Id) (account : Account) : Prop :=
  (d₀.user.get? i).map User.account = some account ∨
    ∃ op, Started es op ∧ op.opens env = some account

/-- A token with this hash was there for the user in the beginning, or a call of the run sends one
to the address. -/
def Told (i : Id) (email : Option String) (tokenHash : String) : Prop :=
  (∃ j t, d₀.passwordResetToken.get? j = some t ∧ t.userId = i ∧ t.tokenHash = tokenHash) ∨
    ∃ op token address, Started es op ∧ op.sends = some (token, address) ∧
      env.sha256 token = tokenHash ∧ email = some address

/-- The password has been the account's from the beginning, or it has been set with a token that was
sent to the address of the account. -/
def Rightful (i : Id) (user : User) : Prop :=
  ∃ account, Opened env d₀ es i account ∧ user.identity = account.identity ∧
    (user.passwordHash = account.passwordHash ∨
      ∃ salt token newPassword, Started es (.resetPassword salt token newPassword) ∧
        user.passwordHash = some (env.argon2Hash salt newPassword) ∧
        Told env d₀ es i user.email (env.sha256 token))

/-- Somebody with this identity was there in the beginning, or his account has been created in the
name of an administrator, of whom the same can be said. -/
inductive Appointed : Id → Identity → Prop
  | stored {i : Id} {x : Identity} (h : d₀.identity i = some x) : Appointed i x
  | appointed {i : Id} {admin : Identity} {payload : AccessToken} {draws : ProvisionDraws}
      {email : String} {role : Role} (hadmin : Appointed payload.sub admin)
      (hrole : admin.role ∈ accountAdminRoles)
      (h : Started es (.createStaffAccount payload draws email role)) :
      Appointed i ⟨some email, role⟩

variable {d₀ es} in
/-- Where there is no administrator, nobody is appointed. -/
lemma Appointed.of_no_admin (hnone : ∀ i x, d₀.identity i = some x → x.role ∉ accountAdminRoles)
    {i : Id} {x : Identity} (h : Appointed d₀ es i x) : d₀.identity i = some x := by
  induction h with
  | stored h => exact h
  | appointed hadmin hrole h ih => exact absurd hrole (hnone _ _ ih)

end Provenance

end Asoju
