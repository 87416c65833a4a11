/-
The integration gateway of FieldForce: how a signed request of an external system is authenticated.

A request names a client, carries a timestamp, a nonce and a signature, and is authenticated if the
client is active, the timestamp is within five minutes of the server's clock, the nonce has not been
seen for five minutes, the signature is the client's and the client has the scopes the endpoint
asks for.  The server keeps the nonces in memory.  The HMAC is a parameter.
-/
import Asoju.Lib.Expiring
import Asoju.Prisma
import Mathlib.Data.List.DropRight

namespace Asoju.FieldForce

open Lib

/-! ## Texts and numbers -/

/-- `String.prototype.trim`. -/
def trim (cs : List Char) : List Char := (cs.dropWhile isJsSpace).rdropWhile isJsSpace

/-- The number that the leading digits make, if there are any. -/
def leadingNumber (cs : List Char) : Option ℤ :=
  let digits := cs.takeWhile Char.isDigit
  if digits = [] then none
  else some (digits.foldl (fun n c => 10 * n + (c.toNat - 48)) 0)

/-- `parseInt` with the radix 10: it ignores what follows the number. -/
def parseInt (s : String) : Option ℤ :=
  match s.toList.dropWhile isJsSpace with
  | '-' :: cs => (leadingNumber cs).map fun n => -n
  | '+' :: cs => leadingNumber cs
  | cs => leadingNumber cs

example : parseInt " -120ms" = some (-120) ∧ parseInt "ms" = none := by decide +kernel

namespace Gateway

/-! ## Signatures -/

/-- The comparison of two texts that looks at all of their characters. -/
def constantTimeEq (expected provided : List Char) : Bool :=
  if expected.length ≠ provided.length then false
  else (List.zipWith (fun a b => a.toNat ^^^ b.toNat) expected provided).foldl (· ||| ·) 0 = 0

/-- The signature of a payload: `hmac` is HMAC-SHA256 in hexadecimal digits, of a secret and a
text. -/
def generateHmacSignature (hmac : String → String → String) (payload clientSecret : String) :
    String :=
  hmac clientSecret (payload ++ "\n")

def verifyHmacSignature (hmac : String → String → String)
    (payload providedSignature clientSecret : String) : Bool :=
  constantTimeEq (generateHmacSignature hmac payload clientSecret).toList providedSignature.toList

/-- What is signed. -/
def buildSignaturePayload (method path timestamp nonce body : String) : String :=
  s!"{method}\n{path}\n{timestamp}\n{nonce}\n{body}"

/-! ## Replay protection -/

/-- Five minutes, in milliseconds. -/
def nonceFreshnessWindow : ℤ := 5 * 60 * 1000

/-- The timestamp is a number within five minutes of the clock. -/
def isTimestampFresh (now : ℤ) (timestamp : String) : Bool :=
  match parseInt timestamp with
  | none => false
  | some ts => |now - ts| ≤ nonceFreshnessWindow

/-- Nonces, each with the time up to which it is remembered. -/
abbrev NonceStore := List (String × ℤ)

/-- Whether the nonce is unused, and the nonces remembered from now on. -/
def checkNonce (now : ℤ) (nonce : String) (nonceStore : NonceStore) : Bool × NonceStore :=
  Expiring.use now (now + nonceFreshnessWindow) nonce nonceStore

/-! ## Authentication -/

structure IntegrationClient where
  clientId : String
  clientSecret : String
  /-- The scopes, separated by commas. -/
  scopes : String := "missions:read"
  isActive : Bool := true
  lastRequestAt : Option ℤ := none
deriving DecidableEq, Repr

/-- The registered clients, and the nonces in the memory of the server. -/
structure State where
  client : List IntegrationClient
  nonceStore : NonceStore := []
deriving DecidableEq, Repr

/-- A request as it arrives, with the headers `x-client-id`, `x-timestamp`, `x-nonce` and
`x-signature`. -/
structure SignedRequest where
  clientId : Option String
  timestamp : Option String
  nonce : Option String
  signature : Option String
  method : String
  path : String
  body : String
deriving DecidableEq, Repr

/-- The headers of a request that has all four of them. -/
structure Credentials where
  clientId : String
  timestamp : String
  nonce : String
  signature : String
deriving DecidableEq, Repr

/-- A header counts as missing when it is empty. -/
def SignedRequest.credentials (r : SignedRequest) : Option Credentials :=
  match r.clientId.filter (· ≠ ""), r.timestamp.filter (· ≠ ""), r.nonce.filter (· ≠ ""),
    r.signature.filter (· ≠ "") with
  | some clientId, some timestamp, some nonce, some signature =>
      some { clientId, timestamp, nonce, signature }
  | _, _, _, _ => none

inductive AuthError
  | missingHeaders
  | unknownClient
  | clientInactive
  | staleTimestamp
  | replayDetected
  | invalidSignature
  | insufficientScope (required : String)
deriving DecidableEq, Repr

namespace AuthError

/-- The `error_code` of an answer. -/
def code : AuthError → String
  | missingHeaders => "MISSING_HEADERS"
  | unknownClient => "UNKNOWN_CLIENT"
  | clientInactive => "CLIENT_INACTIVE"
  | staleTimestamp => "STALE_TIMESTAMP"
  | replayDetected => "REPLAY_DETECTED"
  | invalidSignature => "INVALID_SIGNATURE"
  | insufficientScope _ => "INSUFFICIENT_SCOPE"

/-- The `error` of an answer. -/
def message : AuthError → String
  | missingHeaders => "Missing required integration headers"
  | unknownClient => "Unknown integration client"
  | clientInactive => "Integration client is deactivated"
  | staleTimestamp => "Request timestamp too old or too far in the future"
  | replayDetected => "Duplicate nonce detected — possible replay attack"
  | invalidSignature => "Invalid HMAC signature"
  | insufficientScope required => s!"Insufficient scope: {required} required"

end AuthError

/-- The client that is registered under a public identifier. -/
def findClient (clients : List IntegrationClient) (clientId : String) : Option IntegrationClient :=
  clients.find? fun c => c.clientId = clientId

/-- What is known of a request that has come as far as the check of its nonce. -/
structure Admission where
  credentials : Credentials
  clientSecret : String
  scopes : String
deriving DecidableEq, Repr

/-- The checks before the nonce: the headers, the client and the timestamp. -/
def admission (clients : List IntegrationClient) (now : ℤ) (r : SignedRequest) :
    Except AuthError Admission :=
  match r.credentials with
  | none => .error .missingHeaders
  | some credentials =>
      match findClient clients credentials.clientId with
      | none => .error .unknownClient
      | some client =>
          if ¬ client.isActive then .error .clientInactive
          else if ¬ isTimestampFresh now credentials.timestamp then .error .staleTimestamp
          else .ok ⟨credentials, client.clientSecret, client.scopes⟩

/-- The signature of the request is valid under a secret. -/
def signedWith (hmac : String → String → String) (r : SignedRequest) (h : Credentials)
    (clientSecret : String) : Bool :=
  verifyHmacSignature hmac (buildSignaturePayload r.method r.path h.timestamp h.nonce r.body)
    h.signature clientSecret

/-- The first required scope that is not among the client's. -/
def missingScope (scopes : String) (requiredScopes : List String) : Option String :=
  let clientScopes := (scopes.toList.splitOn ',').map trim
  requiredScopes.find? fun required => required.toList ∉ clientScopes

/-- The readings of the clock in one call: at the check of the timestamp, at the check of the nonce
and at the end. -/
structure Readings where
  timestamp : ℤ
  nonce : ℤ
  request : ℤ
deriving DecidableEq, Repr

/-- A call of `authenticateIntegrationRequest`. -/
structure Call where
  request : SignedRequest
  requiredScopes : List String := []
  clock : Readings
deriving DecidableEq, Repr

/-- The request of a client has been authenticated at the time `now`. -/
def touch (clients : List IntegrationClient) (clientId : String) (now : ℤ) :
    List IntegrationClient :=
  clients.map fun c => if c.clientId = clientId then { c with lastRequestAt := some now } else c

/-- The answer is the client whose request it is, or why the request is refused. -/
def authenticateIntegrationRequest (hmac : String → String → String) (g : State) (c : Call) :
    Except AuthError String × State :=
  match admission g.client c.clock.timestamp c.request with
  | .error e => (.error e, g)
  | .ok a =>
      let (unused, nonceStore) := checkNonce c.clock.nonce a.credentials.nonce g.nonceStore
      if ¬ unused then (.error .replayDetected, { g with nonceStore })
      -- The nonce has been used up, whatever becomes of the request.
      else if ¬ signedWith hmac c.request a.credentials a.clientSecret then
        (.error .invalidSignature, { g with nonceStore })
      else
        match missingScope a.scopes c.requiredScopes with
        | some required => (.error (.insufficientScope required), { g with nonceStore })
        | none =>
            (.ok a.credentials.clientId,
              { client := touch g.client a.credentials.clientId c.clock.request, nonceStore })

end Gateway

end Asoju.FieldForce
