import IdentityBillpay.Async.Protocol
import IdentityBillpay.Keycloak.Realm

/-!
# KeycloakService — the methods of `keycloak.service.ts`

Every method asks for an access token first and then makes its own calls. The programs are written
over any signature that can make the calls of the admin API: `http` is the `await` of one of them.

* `createUser`, `assignRealmRoleToUser`, `removeRealmRoleFromUser`, `disableUser`, `getUserRealmRoles`;
* `createRealmRole`, `updateRealmRole`.
-/

namespace IdentityBillpay
namespace Keycloak

open Async

/-- The payload of `createUser`. -/
structure CreateUserPayload where
  username : String
  email : String
  firstName : String
  lastName : String
  password : String
  enabled : Option Bool
  deriving DecidableEq

/-- The body of `POST users` for a payload. -/
def CreateUserPayload.representation (payload : CreateUserPayload) : UserRepresentation where
  username := payload.username
  email := payload.email
  firstName := payload.firstName
  lastName := payload.lastName
  enabled := payload.enabled.getD true
  emailVerified := true

/-- `location?.split('/').pop()`, when it is not empty. -/
def CreateUserResponse.userId? (response : CreateUserResponse) : Option String :=
  match response.location.bind List.getLast? with
  | some userId => if userId = "" then none else some userId
  | none => none

section Programs

variable {σ : Signature} (http : (op : KeycloakOp) → Program σ HttpError op.Res)

def findUsersByUsername (username : String) : Program σ HttpError (List KeycloakUser) := do
  http .postAdminToken
  http (.getUsers username)

/-- Called with the token its caller already has. -/
def setUserPassword (userId password : String) : Program σ HttpError Unit :=
  http (.putPassword userId password)

/-- The id of the user that `POST users` has created. -/
def createdUserId (payload : CreateUserPayload) (response : CreateUserResponse) :
    Program σ HttpError String :=
  match response.userId? with
  | some userId => return userId
  | none => do
      -- No usable `Location`: the user is searched by its name.
      let users ← findUsersByUsername http payload.username
      match users with
      | [] => throw (.unauthorized "Keycloak user created but ID could not be resolved")
      | user :: _ => return user.id

def createUser (payload : CreateUserPayload) : Program σ HttpError String := do
  http .postAdminToken
  let response ← http (.postUser payload.representation)
  if 400 ≤ response.status then
    throw (.unauthorized (response.errorMessage.getD "Keycloak user creation failed"))
  else do
    let userId ← createdUserId http payload response
    setUserPassword http userId payload.password
    return userId

def assignRealmRoleToUser (userId roleName : String) : Program σ HttpError Unit := do
  http .postAdminToken
  let role ← http (.getRole roleName)
  http (.postRoleMapping userId role)

def removeRealmRoleFromUser (userId roleName : String) : Program σ HttpError Unit := do
  http .postAdminToken
  let role ← http (.getRole roleName)
  http (.deleteRoleMapping userId role)

def getUserRealmRoles (userId : String) : Program σ HttpError (List Role) := do
  http .postAdminToken
  http (.getRoleMappings userId)

def disableUser (userId : String) : Program σ HttpError Unit := do
  http .postAdminToken
  http (.putEnabled userId false)

def createRealmRole (name : String) (description : Option String) : Program σ HttpError Role := do
  http .postAdminToken
  http (.postRole name (description.getD ""))
  http (.getRole name)

def updateRealmRole (roleName : String) (description : Option String) :
    Program σ HttpError Unit := do
  http .postAdminToken
  let existing ← http (.getRole roleName)
  http (.putRole roleName (description.getD existing.description))

/-! A protocol that allows every call is followed by every method. A method that neither creates
nor disables a user needs only the calls that leave the flags of the users alone. -/

section Protocol

open Async.Program

variable {http} {P : List (Awaited σ HttpError) → σ.Op → Prop} (own : List (Awaited σ HttpError))

section Quiet

variable (hquiet : ∀ own op, op.setsFlags = false → Follows P (fun _ _ => True) own (http op))

include hquiet

theorem follows_createdUserId (payload : CreateUserPayload) (response : CreateUserResponse) :
    Follows P (fun _ _ => True) own (createdUserId http payload response) := by
  unfold createdUserId
  cases response.userId? with
  | some userId => trivial
  | none =>
      refine ((hquiet own _ rfl).andThen fun own _ => hquiet own _ rfl).andThen fun own users => ?_
      cases users with
      | nil => trivial
      | cons user users => trivial

theorem follows_assignRealmRoleToUser (userId roleName : String) :
    Follows P (fun _ _ => True) own (assignRealmRoleToUser http userId roleName) := by
  refine (hquiet own _ rfl).andThen fun own _ => (hquiet own _ rfl).andThen fun own role => ?_
  exact hquiet own (.postRoleMapping userId role) rfl

end Quiet

variable (hhttp : ∀ own op, Follows P (fun _ _ => True) own (http op))

include hhttp

theorem follows_createUser (payload : CreateUserPayload) :
    Follows P (fun _ _ => True) own (createUser http payload) := by
  refine (hhttp own _).andThen fun own _ => (hhttp own _).andThen fun own response => ?_
  split
  · trivial
  · refine (follows_createdUserId own (fun own op _ => hhttp own op) payload response).andThen
      fun own userId => ?_
    exact (hhttp own _).andThen fun _ _ => trivial

theorem follows_disableUser (userId : String) :
    Follows P (fun _ _ => True) own (disableUser http userId) := by
  refine (hhttp own _).andThen fun own _ => ?_
  exact hhttp own (.putEnabled userId false)

end Protocol

end Programs

end Keycloak
end IdentityBillpay
