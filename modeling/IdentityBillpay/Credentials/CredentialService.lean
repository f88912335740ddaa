import IdentityBillpay.Async.Interleaving
import IdentityBillpay.Credentials.Store

/-!
# CredentialService — the methods of `credential.service.ts`

* `findAll`, `findByKeycloakUserId`, `resolveGet` — what is shown of the rows;
* `create` — a password for Keycloak, an MPIN for the table;
* `verifyMpin`, `softDeleteByKeycloakUserId`;
* `Request`, `service` — the requests that act on a credential, running concurrently.
-/

namespace IdentityBillpay
namespace Credentials

open Async Async.Program Js Keycloak

/-- What a request resolves to. -/
inductive Reply
  | credentials (views : List CredentialView)
  | credential (view : CredentialView)
  | created (keycloakUserId : String) (passwordUpdated : Bool) (mpin : Option CredentialView)
  | verified (verified : Bool)
  | deleted (keycloakUserId : String) (deleted : Bool)
  deriving DecidableEq

namespace CredentialService

def findAll : Prog Reply := do
  let records : List Credential ← call .findCredentials
  return .credentials (records.map toPublicView)

def findByKeycloakUserId (keycloakUserId : String) : Prog Reply := do
  let record : Option Credential ← call (.findCredential keycloakUserId)
  match record with
  | none =>
      throw (.notFound (s!"No MPIN credential found for Keycloak user {keycloakUserId}. " ++
        "Login passwords are managed by Keycloak only — create an MPIN via " ++
        "POST /auth/credential/create."))
  | some record => return .credential (toPublicView record)

/-- `dto.userId ?? actorSub`, which is not empty. -/
def resolveGet (dto : GetCredentialDto) (actorSub : Option String) : Prog Reply :=
  match dto.userId <|> actorSub with
  | none | some "" =>
      throw (.badRequest
        "userId is required when no authenticated user is present in the Bearer token")
  | some keycloakUserId => findByKeycloakUserId keycloakUserId

/-- `keycloakService.resetUserPassword(userId, password)`. -/
def resetUserPassword (userId : String) (password : Json) : Prog Unit := do
  call .postAdminToken
  call (.putPassword userId password)

/-- `if (dto.password)`; whether the password was updated. -/
def updatePassword (dto : SetCredentialDto) : Prog Bool :=
  match dto.password with
  | some password =>
      if password.truthy then do
        resetUserPassword dto.userId password
        return true
      else return false
  | none => return false

/-- The MPIN written over a row, or into a new one. -/
def writeMpin (scrypt : Scrypt) (userId : String) (mpin : Json) : Prog Credential := do
  let existing : Option Credential ← call (.findCredential userId)
  -- The salt is drawn whether the row is there or not.
  let random : List UInt8 ← call (.randomBytes 16)
  let hashed ← settled (hashMpin scrypt mpin random)
  let now : Date ← call .now
  match existing with
  | some existing =>
      call (.saveCredential { existing with hashedMpin := hashed, lastRotatedAt := some now })
  | none =>
      call (.insertCredential
        { keycloakUserId := userId, hashedMpin := hashed, lastRotatedAt := some now })

/-- `if (dto.mpin)`. -/
def storeMpin (scrypt : Scrypt) (dto : SetCredentialDto) : Prog (Option Credential) :=
  match dto.mpin with
  | some mpin =>
      if mpin.truthy then do
        let record ← writeMpin scrypt dto.userId mpin
        return some record
      else return none
  | none => return none

def create (scrypt : Scrypt) (dto : SetCredentialDto) : Prog Reply :=
  if !isTruthy dto.password && !isTruthy dto.mpin then
    throw (.badRequest "Provide either password (Keycloak) or mpin (local storage)")
  else do
    let passwordUpdated ← updatePassword dto
    let mpinRecord ← storeMpin scrypt dto
    return .created dto.userId passwordUpdated (mpinRecord.map toPublicView)

def verifyMpin (scrypt : Scrypt) (keycloakUserId mpin : String) : Prog Bool := do
  let record : Option Credential ← call (.findCredential keycloakUserId)
  match record with
  | none => return false
  | some record => settled (Credentials.verifyMpin scrypt mpin record.hashedMpin)

def softDeleteByKeycloakUserId (keycloakUserId : String) : Prog Reply := do
  let record : Option Credential ← call (.findCredential keycloakUserId)
  match record with
  | none => throw (.notFound s!"No MPIN credential found for Keycloak user {keycloakUserId}")
  | some record => do
      call (.softDeleteCredential record.id)
      return .deleted keycloakUserId true

end CredentialService

/-! ## Concurrent requests -/

inductive Request
  | create (dto : SetCredentialDto)
  | softDeleteByKeycloakUserId (keycloakUserId : String)
  | verifyMpin (keycloakUserId mpin : String)

abbrev service (scrypt : Scrypt) : Service sig HttpError where
  toBackend := backend
  Request := Request
  Reply := Reply
  program
    | .create dto => CredentialService.create scrypt dto
    | .softDeleteByKeycloakUserId userId => CredentialService.softDeleteByKeycloakUserId userId
    | .verifyMpin userId mpin => do
        let verified ← CredentialService.verifyMpin scrypt userId mpin
        return .verified verified

end Credentials
end IdentityBillpay
