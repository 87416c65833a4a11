/-
Invites of beneficiaries to the portal.

A customer invites a beneficiary with a link, and of the token in it only the hash is kept.  Whoever
accepts the invite gets an account.  The account is created first; that it is the beneficiary's and
that the invite is used is written afterwards, both together.
-/
import Asoju.Mfa

namespace Asoju

open Lib

/-- The invite with this hash; the column is unique. -/
def Db.inviteByHash (d : Db) (tokenHash : String) : Option (Id × BeneficiaryInvite) :=
  d.beneficiaryInvite.rows.find? fun p => p.2.tokenHash = tokenHash

/-- The user with this phone number; the column is unique. -/
def Db.userByPhone (d : Db) (phone : String) : Option (Id × User) :=
  d.user.rows.find? fun p => p.2.phone = some phone

/-- A user has the e-mail address or the phone number already. -/
def Db.userTaken (d : Db) (email : String) (phone : Option String) : Bool :=
  (d.userByEmail email).isSome ∨ phone.any fun p => (d.userByPhone p).isSome

/-- The invite is one of the beneficiary's that nobody has used. -/
def BeneficiaryInvite.openOf (beneficiaryId : Id) (v : BeneficiaryInvite) : Bool :=
  v.beneficiaryId = beneficiaryId ∧ v.usedAt = none

/-- The invite as it is used, or replaced by another. -/
def BeneficiaryInvite.use (now : Time) (v : BeneficiaryInvite) : BeneficiaryInvite :=
  { v with usedAt := some now }

structure InviteAnswer where
  message : String
  /-- The link, outside of production. -/
  devInviteLink : Option String
deriving DecidableEq, Repr

namespace ProfileService

def beneficiaryInviteTtlMs : Time := 7 * 24 * 60 * 60 * 1000

/-- `token` is the random token of the link, and `sent` what becomes of the message. -/
def inviteBeneficiary (env : AuthEnv) (frontendUrl : String) (isProduction : Bool) (token : String)
    (sent : Except String Unit) (user : AuthenticatedUser) (beneficiaryId : Id) :
    Svc InviteAnswer := do
  let found ← Prisma.query .customer (CasesService.customerProfile · user.id)
  match found with
  | none => throw (.notFound "No customer profile for this user")
  | some (customerId, _) =>
    let beneficiary ← Prisma.findUnique .beneficiary beneficiaryId
    match beneficiary with
    | none => throw (.notFound "Beneficiary not found")
    | some beneficiary =>
      if beneficiary.customerId ≠ customerId then throw (.forbidden "Not your beneficiary")
      else if beneficiary.userId.isSome then
        throw (.badRequest "This beneficiary already has a portal account")
      else
        let now ← Prisma.now
        Prisma.updateMany .beneficiaryInvite (fun _ v => v.openOf beneficiaryId) (·.use now)
        let _ ← Prisma.createUnique .beneficiaryInvite
          (fun d => (d.inviteByHash (env.sha256 token)).isSome) fun now =>
          { beneficiaryId, tokenHash := env.sha256 token
            expiresAt := now + beneficiaryInviteTtlMs }
        Prisma.audit
        let inviteLink := s!"{frontendUrl}/beneficiary/accept-invite?token={token}"
        let devInviteLink := if isProduction then none else some inviteLink
        match nonEmpty beneficiary.phone with
        | none => pure ⟨"Invite created — no phone on file to send it to.", devInviteLink⟩
        | some _ =>
          Prisma.callProvider sent
          pure ⟨"Invite sent via WhatsApp.", devInviteLink⟩

end ProfileService

namespace AuthService

def invalidInviteLink : HttpError := .unauthorized "Invalid or expired invite link"

/-- The writes that make an account the beneficiary's: they are committed together. -/
def linkAccountTx (inviteId beneficiaryId userId : Id) (d : Db) : Db :=
  (d.modifyRow .beneficiary beneficiaryId fun b => { b with userId := some userId }).modifyRow
    .beneficiaryInvite inviteId (·.use d.clock)

/-- The user that is created for a beneficiary. -/
def portalUser (env : AuthEnv) (salt email password : String) (beneficiary : Beneficiary) :
    User where
  email := some email
  phone := beneficiary.phone
  passwordHash := some (env.argon2Hash salt password)
  role := .beneficiary

/-- The account has been created: it is made the beneficiary's, and signed in. -/
def claimAccount (env : AuthEnv) (random : String) (inviteId beneficiaryId userId : Id)
    (user : User) : Svc (PublicUser × TokenPair) := do
  Prisma.transaction (linkAccountTx inviteId beneficiaryId userId) fun _ => ()
  Prisma.audit
  let tokens ← issueTokens env random userId user.role
  pure (toPublicUser userId user, tokens)

/-- `salt` is the salt drawn for the password, `random` the number for the refresh token. -/
def acceptBeneficiaryInvite (env : AuthEnv) (salt random token email password : String) :
    Svc (PublicUser × TokenPair) := do
  let found ← Prisma.query .beneficiaryInvite (·.inviteByHash (hashToken env token))
  match found with
  | none => throw invalidInviteLink
  | some (inviteId, invite) =>
    if invite.usedAt.isSome then throw invalidInviteLink
    else
      let now ← Prisma.now
      if invite.expiresAt < now then throw invalidInviteLink
      else
        let beneficiary ← Prisma.findUnique .beneficiary invite.beneficiaryId
        match beneficiary with
        | none => throw invalidInviteLink
        | some beneficiary =>
          if beneficiary.userId.isSome then
            throw (.badRequest "This beneficiary already has a portal account")
          else
            let existing ← Prisma.query .user (·.userByEmail email)
            if existing.isSome then
              throw (.conflict "An account with this email already exists")
            else
              let user := portalUser env salt email password beneficiary
              let userId ← Prisma.createUnique .user (·.userTaken email beneficiary.phone)
                fun _ => user
              claimAccount env random inviteId invite.beneficiaryId userId user

end AuthService

end Asoju
