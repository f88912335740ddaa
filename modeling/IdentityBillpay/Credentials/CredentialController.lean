import IdentityBillpay.Async.TwoRuns
import IdentityBillpay.Common.ClassValidator
import IdentityBillpay.Common.Guards
import IdentityBillpay.Credentials.CredentialService

/-!
# CredentialController — the routes of `credential.controller.ts`

Every route asks for an authenticated user. The guard of a route reads the body as it was sent; what
the handler sees has been validated.

* `GetCredentialDto.validate`, … — the validated bodies;
* `list`, `get`, `create`, `verify`, `delete` — the handlers;
* `Route`, `controller` — the requests of one caller.
-/

namespace IdentityBillpay
namespace Credentials

open Async Async.Program Common Js Keycloak
open Bbps (Actor)

/-- What a field of a body is, if it is text. -/
def text? : Option Json → Option String
  | some (.string text) => some text
  | _ => none

section Validation

variable (uuid : String → Bool) (body : Json)

def GetCredentialDto.validate : Except HttpError GetCredentialDto :=
  let userId := body.property "userId"
  validated (isOptional (isUuid uuid "userId") userId) (some ⟨text? userId⟩)

/-- `@ValidateIf((dto) => !dto.mpin)` on the password, and the other way round. -/
def SetCredentialDto.validate : Except HttpError SetCredentialDto :=
  let userId := body.property "userId"
  let password := body.property "password"
  let mpin := body.property "mpin"
  validated
    (isUuid uuid "userId" userId ++ isNotEmpty "userId" userId ++
      -- `@ValidateIf`: a secret is checked only if the other one is not given.
      (if isTruthy mpin then []
        else maxLength "password" 128 password ++ minLength "password" 8 password ++
          isString "password" password ++ isNotEmpty "password" password) ++
      if isTruthy password then []
        else maxLength "mpin" 6 mpin ++ minLength "mpin" 4 mpin ++ isString "mpin" mpin ++
          isNotEmpty "mpin" mpin)
    ((text? userId).map fun userId => ⟨userId, password, mpin⟩)

def VerifyCredentialDto.validate : Except HttpError VerifyCredentialDto :=
  let userId := body.property "userId"
  let mpin := body.property "mpin"
  validated
    (isOptional (isUuid uuid "userId") userId ++ maxLength "mpin" 6 mpin ++ minLength "mpin" 4 mpin ++
      isString "mpin" mpin ++ isNotEmpty "mpin" mpin)
    ((text? mpin).map fun mpin => ⟨text? userId, mpin⟩)

end Validation

namespace CredentialController

variable (scrypt : Scrypt)

def list : Prog Reply := CredentialService.findAll

def get (dto : GetCredentialDto) (sub : Option String) : Prog Reply :=
  CredentialService.resolveGet dto sub

def create (dto : SetCredentialDto) : Prog Reply :=
  CredentialService.create scrypt dto

/-- `dto.userId ?? (user?.sub as string)`. -/
def verify (dto : VerifyCredentialDto) (sub : String) : Prog Reply := do
  let keycloakUserId := dto.userId.getD sub
  let verified ← CredentialService.verifyMpin scrypt keycloakUserId dto.mpin
  return .verified verified

def delete (dto : GetCredentialDto) (sub : String) : Prog Reply := do
  let keycloakUserId := dto.userId.getD sub
  CredentialService.softDeleteByKeycloakUserId keycloakUserId

end CredentialController

/-! ## Requests -/

inductive Route
  | list
  | get
  | create
  | verify
  | delete
  deriving DecidableEq

/-- `@UseGuards(IdorGuard)`. -/
def idorGuarded (user : Actor) (body : Json) (handler : Prog Reply) : Prog Reply := do
  let allowed ← settled (IdorGuard.canActivate (some user) body)
  if allowed then handler else throw (.forbidden "Forbidden resource")

/-- The request of an authenticated user. The guard lets no user through without a `sub`. -/
def route (scrypt : Scrypt) (uuid : String → Bool) (user : Actor) (body : Json) : Route → Prog Reply
  | .list => CredentialController.list
  | .get => idorGuarded user body do
      let dto ← settled (GetCredentialDto.validate uuid body)
      CredentialController.get dto user.sub
  | .create => idorGuarded user body do
      let dto ← settled (SetCredentialDto.validate uuid body)
      CredentialController.create scrypt dto
  | .verify => idorGuarded user body do
      let dto ← settled (VerifyCredentialDto.validate uuid body)
      CredentialController.verify scrypt dto (user.sub.getD "")
  | .delete => idorGuarded user body do
      let dto ← settled (GetCredentialDto.validate uuid body)
      CredentialController.delete dto (user.sub.getD "")

/-- A route and the body that is sent to it. -/
structure HttpRequest where
  route : Route
  body : Json

/-- The requests of one caller. -/
abbrev controller (scrypt : Scrypt) (uuid : String → Bool) (user : Actor) :
    Service sig HttpError where
  toBackend := backend
  Request := HttpRequest
  Reply := Reply
  program r := route scrypt uuid user r.body r.route

end Credentials
end IdentityBillpay
