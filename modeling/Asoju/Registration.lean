/-
Accounts of customers: registration, and changes of the preferences.

No two accounts have the same e-mail address or the same phone number, and no two customers the same
referral code, which is drawn at random.  A registration looks the address and the number up before
it creates the account; a change of the preferences does not.
-/
import Asoju.Invites

namespace Asoju

open Lib

/-! ## Codes -/

/-- The characters of a code: no 0 and O, no 1 and I. -/
def codeAlphabet : List Char := "ABCDEFGHJKLMNPQRSTUVWXYZ23456789".toList

/-- The code that random bytes stand for. -/
def codeOfBytes (bytes : List UInt8) : String :=
  String.ofList (bytes.map fun byte => codeAlphabet.getD (byte.toNat % 32) 'A')

example : codeOfBytes [0, 31, 32, 255, 8, 24] = "A9A9J2" := by decide +kernel

/-- The attempts that are left, each with the bytes it draws. -/
def attemptCodes (exists_ : String → Svc Bool) (label : String) (draw : ℕ → List UInt8) :
    List ℕ → Svc String
  | [] => throw (.internal s!"Failed to generate a unique {label} code")
  | attempt :: rest => do
      let taken ← exists_ (codeOfBytes (draw attempt))
      if taken then attemptCodes exists_ label draw rest
      else pure (codeOfBytes (draw attempt))

/-- The first of five random codes that is not taken. -/
def generateUniqueCode (exists_ : String → Svc Bool) (label : String) (draw : ℕ → List UInt8) :
    Svc String :=
  attemptCodes exists_ label draw (List.range 5)

/-- The customer with this referral code; the column is unique. -/
def Db.customerByReferralCode (d : Db) (code : String) : Option (Id × Customer) :=
  d.customer.rows.find? fun p => p.2.referralCode = code

/-- The partner with this code; the column is unique. -/
def Db.partnerByCode (d : Db) (code : String) : Option (Id × Partner) :=
  d.partner.rows.find? fun p => p.2.code = code

def referralCodeExists (code : String) : Svc Bool :=
  Prisma.query .customer fun d => (d.customerByReferralCode code).isSome

def generateUniqueReferralCode (draw : ℕ → List UInt8) : Svc String :=
  generateUniqueCode referralCodeExists "referral" draw

/-! ## Registration -/

structure RegisterDto where
  fullName : String
  email : String
  phone : String
  password : String
  countryOfResidence : String
  billingCurrency : BillingCurrency
  preferredChannel : Option String := none
  referralCode : Option String := none
  partnerCode : Option String := none
deriving DecidableEq, Repr

/-- What a registration answers: whether the codes that came with it have been recognised is there
only if they came. -/
structure Registered where
  user : PublicUser
  tokens : TokenPair
  referralCodeApplied : Option Bool
  partnerCodeApplied : Option Bool
deriving DecidableEq, Repr

/-- The database with a new user and his customer. -/
def Db.insertCustomer (d : Db) (user : User) (customer : Id → Customer) : Db :=
  (d.insertRow .user user).insertRow .customer (customer d.user.next)

/-- `user.create` with its customer, in one write.  E-mail addresses and phone numbers of users are
unique, and so are the referral codes of customers. -/
def createCustomerUser (taken : Db → Bool) (user : User) (customer : Id → Customer) : Svc Id :=
  .atom (.create .user) (fun d => if taken d then d else d.insertCustomer user customer) fun d =>
    if taken d then .fail Prisma.uniqueViolation else .ret d.user.next

namespace AuthService

variable (env : MfaEnv)

/-- The customer whose code it is, and whether there is one; nothing if no code came. -/
def findReferrer (code : Option String) : Svc (Option Id × Option Bool) :=
  match nonEmpty code with
  | none => pure (none, none)
  | some code => do
      let referrer ← Prisma.query .customer (·.customerByReferralCode (env.toUpperCase code))
      pure (referrer.map Prod.fst, some referrer.isSome)

/-- The active partner whose code it is, and whether there is one; nothing if no code came. -/
def findPartner (code : Option String) : Svc (Option Id × Option Bool) :=
  match nonEmpty code with
  | none => pure (none, none)
  | some code => do
      let partner ← Prisma.query .partner (·.partnerByCode (env.toUpperCase code))
      let active := partner.filter fun p => p.2.status = .active
      pure (active.map Prod.fst, some active.isSome)

def registeredUser (salt : String) (dto : RegisterDto) : User where
  email := some dto.email
  phone := some dto.phone
  passwordHash := some (env.argon2Hash salt dto.password)
  role := .customer
  countryOfResidence := some dto.countryOfResidence
  preferredChannel := dto.preferredChannel
  billingCurrency := some dto.billingCurrency

/-- `salt` is the salt drawn for the password, `random` the number for the refresh token, and `draw`
the bytes for the referral code. -/
def register (salt random : String) (draw : ℕ → List UInt8) (dto : RegisterDto) :
    Svc Registered := do
  let existing ← Prisma.query .user (·.userByEmail dto.email)
  if existing.isSome then throw (.conflict "An account with this email already exists")
  else
    let existingPhone ← Prisma.query .user (·.userByPhone dto.phone)
    if existingPhone.isSome then
      throw (.conflict "An account with this phone number already exists")
    else
      let referralCode ← generateUniqueReferralCode draw
      let (referredByCustomerId, referralCodeApplied) ← findReferrer env dto.referralCode
      let (referredByPartnerId, partnerCodeApplied) ← findPartner env dto.partnerCode
      let user := registeredUser env salt dto
      let userId ← createCustomerUser
        (fun d => d.userTaken dto.email (some dto.phone) ∨
          (d.customerByReferralCode referralCode).isSome)
        user fun userId =>
          { userId, fullName := dto.fullName, referralCode, referredByCustomerId
            referredByPartnerId }
      Prisma.audit
      let tokens ← issueTokens env.toAuthEnv random userId user.role
      pure ⟨toPublicUser userId user, tokens, referralCodeApplied, partnerCodeApplied⟩

end AuthService

/-! ## Preferences -/

structure UpdatePreferencesDto where
  preferredChannel : Option String := none
  fullName : Option String := none
  countryOfResidence : Option String := none
  phone : Option String := none
deriving DecidableEq, Repr

/-- The preferences after a change; what the customer is called is not in the account. -/
structure Preferences where
  preferredChannel : Option String
  phone : Option String
  countryOfResidence : Option String
  fullName : Option String
deriving DecidableEq, Repr

/-- Another user than this one has the phone number. -/
def Db.phoneTakenFor (d : Db) (userId : Id) (phone : String) : Bool :=
  d.user.rows.any fun p => p.1 ≠ userId ∧ p.2.phone = some phone

/-- The user with what has been sent; what has not is as before. -/
def UpdatePreferencesDto.applyTo (dto : UpdatePreferencesDto) (user : User) : User :=
  { user with
    preferredChannel := dto.preferredChannel.or user.preferredChannel
    countryOfResidence := dto.countryOfResidence.or user.countryOfResidence
    phone := dto.phone.or user.phone }

namespace ProfileService

def rowToUpdateNotFound : HttpError := .internal "Record to update not found"

/-- `user.update`: a phone number that another user has is refused. -/
def updateUser (userId : Id) (dto : UpdatePreferencesDto) : Svc User :=
  .atom (.update .user)
    (fun d =>
      if dto.phone.any fun phone => d.phoneTakenFor userId phone then d
      else d.modifyRow .user userId dto.applyTo)
    fun d => match d.user.get? userId with
      | none => .fail rowToUpdateNotFound
      | some user =>
          if dto.phone.any fun phone => d.phoneTakenFor userId phone then
            .fail Prisma.uniqueViolation
          else .ret (dto.applyTo user)

/-- `customer.update`, by the user. -/
def updateFullName (userId : Id) (fullName : String) : Svc Unit :=
  .atom (.update .customer)
    (fun d => d.modifyRows .customer (fun _ c => c.userId = userId) fun c =>
      { c with fullName := fullName })
    fun d =>
      if (CasesService.customerProfile d userId).isSome then .ret ()
      else .fail rowToUpdateNotFound

/-- The two writes of a change, which are undone together. -/
def updateRows (userId : Id) (dto : UpdatePreferencesDto) : Svc User := do
  let updatedUser ← updateUser userId dto
  match dto.fullName with
  | none => pure updatedUser
  | some fullName =>
      updateFullName userId fullName
      pure updatedUser

def updatePreferences (user : AuthenticatedUser) (dto : UpdatePreferencesDto) :
    Svc Preferences := do
  let userRow ← Prisma.atomically (updateRows user.id dto)
  Prisma.audit
  let customer ← Prisma.query .customer (CasesService.customerProfile · user.id)
  pure ⟨userRow.preferredChannel, userRow.phone, userRow.countryOfResidence,
    customer.map fun p => p.2.fullName⟩

end ProfileService

end Asoju
