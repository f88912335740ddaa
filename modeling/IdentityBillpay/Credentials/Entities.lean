import IdentityBillpay.Js.Date
import IdentityBillpay.Js.Hex
import IdentityBillpay.Js.Json
import IdentityBillpay.Keycloak.Realm

/-!
# Entities — the MPIN credentials of customers

* `Credential` — the rows of the table;
* `NewCredential` — what the service gives to `save`, and the row it becomes;
* `GetCredentialDto`, `SetCredentialDto`, `VerifyCredentialDto` — bodies;
* `hashMpin`, `verifyMpin` — the stored form of an MPIN.
-/

namespace IdentityBillpay
namespace Credentials

open Js Keycloak

/-! ## Rows -/

structure Credential where
  id : String
  keycloakUserId : String
  hashedMpin : String
  lastRotatedAt : Option Date
  createdAt : Date
  updatedAt : Date
  deletedAt : Option Date
  deriving DecidableEq

namespace Credential

def isLive (record : Credential) : Bool := record.deletedAt.isNone

/-- The values fit their `VARCHAR` columns. -/
def fits (record : Credential) : Bool :=
  record.keycloakUserId.length ≤ 255 && record.hashedMpin.length ≤ 255

end Credential

structure NewCredential where
  keycloakUserId : String
  hashedMpin : String
  lastRotatedAt : Option Date
  deriving DecidableEq

def NewCredential.row? (new : NewCredential) (id : String) (now : Date) : Option Credential :=
  let record : Credential :=
    ⟨id, new.keycloakUserId, new.hashedMpin, new.lastRotatedAt, now, now, none⟩
  if record.fits then some record else none

/-- A row as the endpoints show it, without the hash. -/
structure CredentialView where
  id : String
  keycloakUserId : String
  hasMpin : Bool
  lastRotatedAt : Option Date
  createdAt : Date
  updatedAt : Date
  deriving DecidableEq

def toPublicView (record : Credential) : CredentialView where
  id := record.id
  keycloakUserId := record.keycloakUserId
  hasMpin := true
  lastRotatedAt := record.lastRotatedAt
  createdAt := record.createdAt
  updatedAt := record.updatedAt

/-! ## Bodies -/

structure GetCredentialDto where
  userId : Option String

/-- A field that the other one exempts from its checks can hold any JSON value. -/
structure SetCredentialDto where
  userId : String
  password : Option Json
  mpin : Option Json

structure VerifyCredentialDto where
  userId : Option String
  mpin : String

/-- `if (field)`. -/
def isTruthy (field : Option Json) : Bool :=
  field.any Json.truthy

/-! ## The stored form of an MPIN -/

/-- `scryptSync(mpin, salt, 64)`. -/
abbrev Scrypt := String → String → List UInt8

def SCRYPT_PREFIX : String := "scrypt"

/-- What `scryptSync` throws on a value that is not text. -/
def notText : HttpError :=
  .typeError ("The \"password\" argument must be of type string or an instance of ArrayBuffer, " ++
    "Buffer, TypedArray, or DataView.")

/-- The text that is stored for an MPIN. -/
def stored (scrypt : Scrypt) (mpin salt : String) : String :=
  SCRYPT_PREFIX ++ ":" ++ salt ++ ":" ++ toHex (scrypt mpin salt)

def hashMpin (scrypt : Scrypt) (mpin : Json) (random : List UInt8) : Except HttpError String :=
  match mpin with
  | .string text => .ok (stored scrypt text (toHex random))
  | _ => .error notText

/-- `timingSafeEqual(a, b)`. -/
def timingSafeEqual (a b : List UInt8) : Except HttpError Bool :=
  if a.length = b.length then .ok (a == b)
  else .error (.typeError "Input buffers must have the same byte length")

def verifyMpin (scrypt : Scrypt) (mpin stored : String) : Except HttpError Bool :=
  match split ':' stored with
  | first :: salt :: hash :: _ =>
      if first ≠ SCRYPT_PREFIX || salt = "" || hash = "" then .ok false
      else timingSafeEqual (fromHex hash) (fromHex (toHex (scrypt mpin salt)))
  | _ => .ok false

/-- A key derivation for samples. -/
def plainScrypt : Scrypt := fun mpin _ =>
  mpin.toList.map fun c => UInt8.ofNat c.toNat

example : verifyMpin plainScrypt "12" (stored plainScrypt "12" "00") = .ok true ∧
    verifyMpin plainScrypt "12" (stored plainScrypt "21" "00") = .ok false ∧
    verifyMpin plainScrypt "12" "scrypt:00" = .ok false := by
  decide +kernel

end Credentials
end IdentityBillpay
