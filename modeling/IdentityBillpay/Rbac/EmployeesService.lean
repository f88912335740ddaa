import IdentityBillpay.Rbac.RolesService

/-!
# EmployeesService — the methods of `employees.service.ts`, and the listener to its events

* `create`, `updateRole` — an employee, the role assigned to it, and both in Keycloak;
* `assignableRole`, `assertChangeable` — the checks on the new role and on the one held;
* `AdminUserSyncListener.handle` — the listener that keeps the accounts of the admin portal;
* `Request`, `service` — the requests of the module, and the events it hands to the listener.
-/

namespace IdentityBillpay
namespace Rbac

open Async Async.Program Keycloak
open Bbps (Actor)

namespace EmployeesService

/-! ## Checks -/

def assertCanManageEmployees (actor : Actor) : Except HttpError Unit :=
  if isEmployeeManager actor then .ok ()
  else .error (.forbidden "Only superadmin or bank admin users can manage employee roles")

def assertActorCanManageEmployee (actor : Actor) (employeeRoleName : String) :
    Except HttpError Unit :=
  if canManageEmployeeWithRole actor employeeRoleName then .ok ()
  else .error (.forbidden
    "You cannot change the role of an employee at your level or higher in the hierarchy")

def assertActorCanAssignRole (actor : Actor) (targetRoleName : String) : Except HttpError Unit :=
  if canAssignRoleToEmployee actor targetRoleName then .ok ()
  else .error (.forbidden "You cannot assign a role at your level or higher in the hierarchy")

/-- The checks on the new role, alike in `create` and `updateRole`. -/
def assignableRole (actor : Actor) (roleId : String) : Prog Role := do
  let role ← RolesService.assertCanAssignRole actor roleId
  RolesService.assertMakerCheckerCompatibility [roleId]
  settled (assertActorCanAssignRole actor role.name)
  return role

/-- The checks on the assignment that was read, and on its role unless that is deleted. -/
def assertChangeable (actor : Actor) (newRole : Role) :
    Option (EmployeeUserRole × Option Role) → Except HttpError Unit
  | none => .ok ()
  | some (assignment, role) => do
      match role with
      -- The rank of a deleted role is not compared.
      | some role => assertActorCanManageEmployee actor role.name
      | none => .ok ()
      if assignment.roleId = newRole.id then
        .error (.conflict "Employee already has this role assigned")
      else .ok ()

/-! ## Creating an employee and changing its role -/

/-- The event of an employee who has been given a role. -/
def synced (employee : Employee) (role : Role) : EmployeeAccountSyncedEvent where
  employeeId := employee.id
  keycloakUserId := employee.keycloakUserId
  username := employee.username
  email := employee.email
  firstName := employee.firstName
  lastName := employee.lastName
  roleId := role.id
  roleName := role.name
  isActive := employee.isActive

/-- The last part of both methods: the event and the reply. -/
def publishAccount (employee : Employee) (assignment : EmployeeUserRole) (role : Role)
    (updatedBy : Option String) : Prog EmployeeAccount := do
  let roleDetails ← RolesService.findRoleWithPermissions role.id
  call (.publish (synced employee role))
  let keycloakRealmRoles ← getUserRealmRoles http employee.keycloakUserId
  return ⟨employee, assignment, updatedBy, roleDetails, keycloakRealmRoles⟩

def keycloakUser (dto : CreateEmployeeDto) : CreateUserPayload where
  username := dto.username
  email := dto.email
  firstName := dto.firstName
  lastName := dto.lastName
  password := dto.password
  enabled := some true

def newEmployee (dto : CreateEmployeeDto) (keycloakUserId : String) (actor : Actor) :
    NewEmployee where
  keycloakUserId := keycloakUserId
  username := dto.username
  email := dto.email
  firstName := dto.firstName
  lastName := dto.lastName
  employeeCode := dto.employeeCode.toOption
  createdByKeycloakUserId := actor.sub
  isActive := true

/-- The part of `create` behind its checks. -/
def provision (dto : CreateEmployeeDto) (role : Role) (actor : Actor) : Prog EmployeeAccount := do
  let userId ← createUser http (keycloakUser dto)
  assignRealmRoleToUser http userId role.keycloakRoleName
  let employee : Employee ← call (.insertEmployee (newEmployee dto userId actor))
  let assignment : EmployeeUserRole ← call (.insertAssignment ⟨employee.id, role.id, actor.sub⟩)
  publishAccount employee assignment role none

def create (dto : CreateEmployeeDto) (actor : Actor) : Prog EmployeeAccount := do
  settled (assertCanManageEmployees actor)
  let role ← assignableRole actor dto.roleId
  let existingUsername : Option Employee ← call (.findEmployeeNamed dto.username)
  match existingUsername with
  | some _ => throw (.conflict s!"Employee username {dto.username} already exists")
  | none => provision dto role actor

/-- The assignment with its new role. A column set to `undefined` is not saved. -/
def reassigned (assignment : EmployeeUserRole) (newRole : Role) (actor : Actor) : EmployeeUserRole :=
  { assignment with
    roleId := newRole.id
    assignedByKeycloakUserId := actor.sub.getD assignment.assignedByKeycloakUserId }

def storeAssignment (employee : Employee) (newRole : Role) (actor : Actor) :
    Option (EmployeeUserRole × Option Role) → Prog EmployeeUserRole
  | some (assignment, _) => do
      call (.saveAssignment (reassigned assignment newRole actor))
      return reassigned assignment newRole actor
  | none => call (.insertAssignment ⟨employee.id, newRole.id, actor.sub⟩)

/-- `if (currentAssignment?.role)`. -/
def removeCurrentRole (employee : Employee) : Option (EmployeeUserRole × Option Role) → Prog Unit
  | some (_, some role) =>
      removeRealmRoleFromUser http employee.keycloakUserId role.keycloakRoleName
  | _ => return ()

/-- The part of `updateRole` behind its checks. -/
def changeRole (employee : Employee) (newRole : Role) (actor : Actor)
    (current : Option (EmployeeUserRole × Option Role)) : Prog EmployeeAccount := do
  removeCurrentRole employee current
  assignRealmRoleToUser http employee.keycloakUserId newRole.keycloakRoleName
  let assignment ← storeAssignment employee newRole actor current
  publishAccount employee assignment newRole actor.sub

def updateRole (dto : UpdateEmployeeRoleDto) (actor : Actor) : Prog EmployeeAccount := do
  settled (assertCanManageEmployees actor)
  let employee : Option Employee ← call (.findActiveEmployee dto.employeeId)
  match employee with
  | none => throw (.notFound "Employee not found")
  | some employee => do
      let newRole ← assignableRole actor dto.roleId
      let current : Option (EmployeeUserRole × Option Role) ← call (.findAssignment employee.id)
      settled (assertChangeable actor newRole current)
      changeRole employee newRole actor current

end EmployeesService

/-! ## The listener -/

namespace AdminUserSyncListener

def ADMIN_PORTAL_ROLES : List String :=
  ["BANK_SUPER_ADMIN", "BANK_ADMIN", "BANK_MAKER", "BANK_CHECKER"]

def account (event : EmployeeAccountSyncedEvent) (existing : Option AdminUser)
    (lastSyncedAt : Js.Date) : SyncedAdminUser where
  existing := existing
  employeeId := event.employeeId
  keycloakUserId := event.keycloakUserId
  username := event.username
  email := event.email
  firstName := event.firstName
  lastName := event.lastName
  roleId := event.roleId
  roleName := event.roleName
  isActive := event.isActive
  lastSyncedAt := lastSyncedAt

def handle (event : EmployeeAccountSyncedEvent) : Prog Unit :=
  if ADMIN_PORTAL_ROLES.contains event.roleName then do
    let existing : Option AdminUser ← call (.findAdminUser event.keycloakUserId)
    let lastSyncedAt : Js.Date ← call .now
    call (.saveAdminUser (account event existing lastSyncedAt))
  else return ()

end AdminUserSyncListener

/-! ## Requests -/

/-- The requests of the two services; a published event is a request to the listener. -/
inductive Request
  | createRole (dto : CreateRoleDto) (actorKeycloakUserId : Option String)
  | updateRole (dto : UpdateRoleDto) (actorKeycloakUserId : Option String)
  | mapPermissions (dto : MapRolePermissionsDto) (actorKeycloakUserId : Option String)
  | createEmployee (dto : CreateEmployeeDto) (actor : Actor)
  | updateEmployeeRole (dto : UpdateEmployeeRoleDto) (actor : Actor)
  | accountSynced (event : EmployeeAccountSyncedEvent)
  deriving DecidableEq

inductive Reply
  | role (role : RoleDetails)
  | account (account : EmployeeAccount)
  | handled
  deriving DecidableEq

def program : Request → Prog Reply
  | .createRole dto actor => do return .role (← RolesService.create dto actor)
  | .updateRole dto actor => do return .role (← RolesService.update dto actor)
  | .mapPermissions dto actor => do return .role (← RolesService.mapPermissions dto actor)
  | .createEmployee dto actor => do return .account (← EmployeesService.create dto actor)
  | .updateEmployeeRole dto actor => do return .account (← EmployeesService.updateRole dto actor)
  | .accountSynced event => do
      AdminUserSyncListener.handle event
      return .handled

abbrev service : Service sig HttpError :=
  { backend with
    Request := Request
    Reply := Reply
    program := program }

@[simp] theorem service_perform (op : Op) (ch : Choice) (s : Store) :
    service.perform op ch s = perform op ch s := rfl

end Rbac
end IdentityBillpay
