import IdentityBillpay.Async.Protocol
import IdentityBillpay.Rbac.Store

/-!
# RolesService — the methods of `roles.service.ts`

* `create`, `update`, `mapPermissions` — a role, its Keycloak role, its delegations and permissions;
* `findRoleWithPermissions` — what a role is shown as;
* `assertMakerCheckerCompatibility`, `assertCanAssignRole` — checks for the employees service.
-/

namespace IdentityBillpay
namespace Rbac

open Async Async.Program Keycloak
open Bbps (Actor)

namespace RolesService

def roleNotFound : HttpError := .notFound "Role not found"

/-! ## Showing a role -/

/-- `m.permission.id, m.permission.code, …`; a deleted permission is read as `null`. -/
def permissionDetails : Option Permission → Except HttpError PermissionDetails
  | some p => .ok ⟨p.id, p.code, p.name, p.module, p.action⟩
  | none => .error (.typeError "Cannot read properties of null (reading 'id')")

def details (role : Role) (permissions : List PermissionDetails) (delegations : List DelegatedRole) :
    RoleDetails where
  id := role.id
  name := role.name
  displayName := role.displayName
  description := role.description
  keycloakRoleId := role.keycloakRoleId
  keycloakRoleName := role.keycloakRoleName
  dutyType := role.dutyType
  isActive := role.isActive
  permissions := permissions
  delegatedAdminKeycloakUserIds := delegations.map DelegatedRole.delegateKeycloakUserId
  createdAt := role.createdAt
  updatedAt := role.updatedAt

def findRoleWithPermissions (roleId : String) : Prog RoleDetails := do
  let role : Option Role ← call (.findRole roleId)
  match role with
  | none => throw roleNotFound
  | some role => do
      let mappings : List (RolePermission × Option Permission) ← call (.findMappings roleId)
      let delegations : List DelegatedRole ← call (.findDelegations roleId)
      -- `m.permission.id` throws for a mapping whose permission is deleted.
      let permissions ← settled (mappings.mapM fun m => permissionDetails m.2)
      return details role permissions delegations

/-! ## Creating and changing a role -/

def replaceDelegations (roleId : String) (delegateIds : List String) (grantedBy : Option String) :
    Prog Unit := do
  call (.deleteDelegations roleId)
  match delegateIds with
  | [] => return ()
  | _ :: _ => call (.insertDelegations (delegateIds.map fun delegateId =>
      ⟨roleId, delegateId, grantedBy⟩))

/-- `if (dto.delegatedAdminKeycloakUserIds?.length)`. -/
def grantDelegations (dto : CreateRoleDto) (roleId : String) (grantedBy : Option String) :
    Prog Unit :=
  match dto.delegatedAdminKeycloakUserIds.toOption with
  | some (delegateId :: delegateIds) => replaceDelegations roleId (delegateId :: delegateIds) grantedBy
  | _ => return ()

def newRole (dto : CreateRoleDto) (keycloakRole : Keycloak.Role) : NewRole where
  name := dto.name
  displayName := dto.displayName
  description := dto.description.toOption
  keycloakRoleId := keycloakRole.id
  keycloakRoleName := keycloakRole.name
  dutyType := resolveRoleDutyType dto.name
  isActive := true

def create (dto : CreateRoleDto) (actorKeycloakUserId : Option String) : Prog RoleDetails := do
  let existing : Option Role ← call (.findRoleNamed dto.name)
  match existing with
  | some _ => throw (.conflict s!"Role {dto.name} already exists")
  | none => do
      let keycloakRole ← createRealmRole http dto.name dto.description.toOption
      let role : Role ← call (.insertRole (newRole dto keycloakRole))
      grantDelegations dto role.id actorKeycloakUserId
      findRoleWithPermissions role.id

/-- The role with the fields that the body sets. -/
def changedRole (dto : UpdateRoleDto) (role : Role) : ChangedRole where
  read := role
  displayName := dto.displayName.getD (some role.displayName)
  description := dto.description.getD role.description
  isActive := dto.isActive.getD (some role.isActive)

/-- `if (dto.description !== undefined)`. -/
def describeRealmRole (dto : UpdateRoleDto) (role : Role) : Prog Unit :=
  if dto.description.isSet then updateRealmRole http role.keycloakRoleName dto.description.toOption
  else return ()

/-- `if (dto.delegatedAdminKeycloakUserIds)`. -/
def redelegate (dto : UpdateRoleDto) (roleId : String) (grantedBy : Option String) : Prog Unit :=
  match dto.delegatedAdminKeycloakUserIds.toOption with
  | some delegateIds => replaceDelegations roleId delegateIds grantedBy
  | none => return ()

def update (dto : UpdateRoleDto) (actorKeycloakUserId : Option String) : Prog RoleDetails := do
  let role : Option Role ← call (.findRole dto.roleId)
  match role with
  | none => throw roleNotFound
  | some role => do
      describeRealmRole dto role
      call (.saveRole (changedRole dto role))
      redelegate dto role.id actorKeycloakUserId
      findRoleWithPermissions role.id

def mapPermissions (dto : MapRolePermissionsDto) (actorKeycloakUserId : Option String) :
    Prog RoleDetails := do
  let role : Option Role ← call (.findRole dto.roleId)
  match role with
  | none => throw roleNotFound
  | some role => do
      let permissions : List Permission ← call (.findActivePermissions dto.permissionIds)
      -- The lengths are compared, so a repeated id counts as a missing one.
      if permissions.length ≠ dto.permissionIds.length then
        throw (.badRequest "One or more permission IDs are invalid or inactive")
      else do
        call (.deleteMappings role.id)
        call (.insertMappings (dto.permissionIds.map fun permissionId =>
          ⟨role.id, permissionId, actorKeycloakUserId⟩))
        findRoleWithPermissions role.id

/-! ## Checks -/

def assertMakerCheckerCompatibility (roleIds : List String) : Prog Unit := do
  let roles : List Role ← call (.findRoles roleIds)
  if roles.any (fun r => r.dutyType = .MAKER) && roles.any (fun r => r.dutyType = .CHECKER) then
    throw (.badRequest
      "Maker-Checker segregation violated: a user cannot hold both Maker and Checker roles")
  else return ()

/-- `realm_access.roles` alone names a superadmin here. -/
def isSuperAdmin (actor : Actor) : Bool :=
  (actor.realmAccessRoles.getD []).any fun role => SUPERADMIN_ROLES.contains role

def assertCanAssignRole (actor : Actor) (roleId : String) : Prog Role := do
  let role : Option Role ← call (.findActiveRole roleId)
  match role with
  | none => throw roleNotFound
  | some role =>
      if isSuperAdmin actor then return role
      else do
        let delegation : Option DelegatedRole ← call (.findDelegation roleId (actor.sub.getD ""))
        match delegation with
        | none =>
            throw (.forbidden
              "You are not authorized to assign this role. Superadmin delegation is required.")
        | some _ => return role

end RolesService

end Rbac
end IdentityBillpay
