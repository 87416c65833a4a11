/-
Time-based one-time passwords.

A secret is shared in base32.  The code of a moment is six digits of the HMAC of the number of the
30-second window under the secret; one window of drift to either side is accepted.  HMAC, and
how a text is put into upper case, are parameters.  The clock is past the first window.
-/
import Asoju.Prisma

namespace Asoju.Totp

def base32Alphabet : List Char := "ABCDEFGHIJKLMNOPQRSTUVWXYZ234567".toList

def timeStepSeconds : ℕ := 30

def codeDigits : ℕ := 6

/-! ### Base 32 -/

/-- The character for five bits. -/
def base32Char (value : UInt32) : Char := base32Alphabet.getD (value &&& 31).toNat 'A'

/-- Takes groups of five bits off the top of the buffer, and says how many bits are left. -/
def emit (value : UInt32) : ℕ → List Char × ℕ
  | bits + 5 =>
      let (output, left) := emit value bits
      (base32Char (value >>> UInt32.ofNat bits) :: output, left)
  | bits => ([], bits)

/-- The rest of the encoding, with `bits` bits in the buffer `value`. -/
def encodeFrom (bits : ℕ) (value : UInt32) : List UInt8 → List Char
  | [] => if 0 < bits then [base32Char (value <<< UInt32.ofNat (5 - bits))] else []
  | byte :: buffer =>
      let value := (value <<< 8) ||| byte.toUInt32
      let (output, bits) := emit value (bits + 8)
      output ++ encodeFrom bits value buffer

def base32Encode (buffer : List UInt8) : String := String.ofList (encodeFrom 0 0 buffer)

/-- The rest of the decoding, with `bits` bits in the buffer `value`. -/
def decodeFrom (bits : ℕ) (value : UInt32) : List Char → List UInt8
  | [] => []
  | char :: clean =>
      let value := (value <<< 5) ||| UInt32.ofNat (base32Alphabet.idxOf char)
      let bits := bits + 5
      if 8 ≤ bits then
        (value >>> UInt32.ofNat (bits - 8)).toUInt8 :: decodeFrom (bits - 8) value clean
      else decodeFrom bits value clean

variable (toUpperCase : String → String) (hmacSha1 : List UInt8 → List UInt8 → List UInt8)

def base32Decode (encoded : String) : List UInt8 :=
  decodeFrom 0 0 ((toUpperCase encoded).toList.filter (· ∈ base32Alphabet))

example : base32Encode [102, 111, 111, 98, 97] = "MZXW6YTB" ∧
    base32Decode id "MZXW 6YTB=" = [102, 111, 111, 98, 97] := by decide +kernel

/-! ### Codes -/

/-- The counter as eight bytes, the highest one first. -/
def counterBytes (counter : ℕ) : List UInt8 :=
  (List.range 8).map fun i => UInt8.ofNat (counter / 256 ^ (7 - i))

/-- The number in front of which zeros are put until it has six digits. -/
def padCode (code : ℕ) : String :=
  let digits := toString code
  String.ofList (List.replicate (codeDigits - digits.length) '0') ++ digits

def hotp (secret : List UInt8) (counter : ℕ) : String :=
  let hmac := hmacSha1 secret (counterBytes counter)
  let offset := ((hmac.getLast?.getD 0) &&& 0xf).toNat
  let byte (i : ℕ) : UInt32 := (hmac.getD (offset + i) 0).toUInt32
  let code := ((byte 0 &&& 0x7f) <<< 24) ||| (byte 1 <<< 16) ||| (byte 2 <<< 8) ||| byte 3
  padCode (code.toNat % 10 ^ codeDigits)

/-- A new secret, from 20 random bytes. -/
def generateTotpSecret (random : List UInt8) : String := base32Encode random

def generateTotpCode (base32Secret : String) (atMs : Time) : String :=
  let counter := atMs / 1000 / timeStepSeconds
  hotp hmacSha1 (base32Decode toUpperCase base32Secret) counter.toNat

/-- The code is that of the current window, or of one of the two next to it. -/
def verifyTotpCode (base32Secret code : String) (atMs : Time) : Bool :=
  let normalized := String.ofList (code.toList.filter fun c => !isJsSpace c)
  [0, -1, 1].any fun drift : ℤ =>
    generateTotpCode toUpperCase hmacSha1 base32Secret (atMs + drift * timeStepSeconds * 1000) =
      normalized

/-! ### The link for an authenticator -/

/-- A character that `encodeURIComponent` leaves alone. -/
def isUnreserved (c : Char) : Bool :=
  c.isAlphanum || c ∈ "-_.!~*'()".toList

def hexDigit (n : ℕ) : Char := "0123456789ABCDEF".toList.getD n '0'

def encodeURIComponent (text : String) : String :=
  String.ofList (text.toList.flatMap fun c =>
    if isUnreserved c then [c]
    else (String.singleton c).toUTF8.toList.flatMap fun byte =>
      ['%', hexDigit (byte.toNat / 16), hexDigit (byte.toNat % 16)])

def otpAuthUrl (accountLabel base32Secret : String) : String :=
  let issuer := "ASOJU"
  let label := encodeURIComponent s!"{issuer}:{accountLabel}"
  s!"otpauth://totp/{label}?secret={base32Secret}&issuer={encodeURIComponent issuer}" ++
    s!"&algorithm=SHA1&digits={codeDigits}&period={timeStepSeconds}"

end Asoju.Totp
