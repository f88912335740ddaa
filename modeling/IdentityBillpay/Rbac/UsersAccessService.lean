import IdentityBillpay.Async.Lift
import IdentityBillpay.Rbac.RolesService

/-!
# UsersAccessService — the method of `users-access.service.ts`

* `FetchAccessDetailsDto`, `AccessDetails` — the filters of a request, and its reply;
* `LookupOp`, `lookupBackend` — the reads that only this service makes, over the same store;
* `KeycloakService.findUsers` — users of the realm by id, or by username and email;
* `fetchAccessDetails`, `resolveEmployees` — the method.
-/

namespace IdentityBillpay
namespace Rbac

open Async Async.Program Js Keycloak

/-! ## The request and its reply -/

structure FetchAccessDetailsDto where
  keycloakUserId : Optional String := .undefined
  employeeId : Optional String := .undefined
  username : Optional String := .undefined
  email : Optional String := .undefined
  roleId : Optional String := .undefined
  deriving DecidableEq

structure EmployeeProfile where
  id : String
  keycloakUserId : String
  username : String
  email : String
  firstName : String
  lastName : String
  employeeCode : Option String
  isActive : Bool
  deriving DecidableEq

structure KeycloakProfile where
  id : String
  username : String
  email : String
  firstName : String
  lastName : String
  enabled : Bool
  deriving DecidableEq

structure AccessRole where
  id : String
  name : String
  displayName : String
  keycloakRoleId : String
  keycloakRoleName : String
  dutyType : RoleDutyType
  deriving DecidableEq

structure AccessPermission extends PermissionDetails where
  roleId : String
  deriving DecidableEq

structure UserAccess where
  employee : Option EmployeeProfile
  keycloakProfile : Option KeycloakProfile
  keycloakRealmRoles : List Keycloak.Role
  roles : List AccessRole
  permissions : List AccessPermission
  deriving DecidableEq

structure AccessDetails where
  count : Nat
  users : List UserAccess
  deriving DecidableEq

/-! ## Reads -/

/-- The `where` of a `findOne`. -/
inductive EmployeeWhere
  | id (id : String)
  | keycloakUserId (keycloakUserId : String)
  | username (username : String)
  | email (email : String)
  deriving DecidableEq

def EmployeeWhere.selects : EmployeeWhere → Employee → Bool
  | .id value, e => e.id == value
  | .keycloakUserId value, e => e.keycloakUserId == value
  | .username value, e => e.username == value
  | .email value, e => e.email == value

/-- The reads of the service that the other services of the module do not make. The last two are
`GET users/:id`, whose answer is no user when its status is an error below 500, and
`GET users?username=…&email=…&exact=true&max=100`. -/
inductive LookupOp
  | findEmployee (query : EmployeeWhere)
  | findEmployees (ids : List String)
  | findRecentEmployees
  | findAssignments (employeeId : String)
  | findHolders (roleId : String)
  | findRolesNamed (names : List String)
  | findMappingsOf (roleIds : List String)
  | getUser (userId : String)
  | searchUsers (username email : Option String)
  deriving DecidableEq

abbrev LookupOp.Res : LookupOp → Type
  | .findEmployee _ => Option Employee
  | .findEmployees _ | .findRecentEmployees => List Employee
  | .findAssignments _ | .findHolders _ => List EmployeeUserRole
  | .findRolesNamed _ => List Role
  | .findMappingsOf _ => List (RolePermission × Option Permission)
  | .getUser _ => Option KeycloakUser
  | .searchUsers _ _ => List KeycloakUser

abbrev lookups : Signature := ⟨LookupOp, LookupOp.Res⟩

def Employee.isLive (e : Employee) : Bool := e.deletedAt.isNone

/-- `order: { createdAt: 'DESC' }`. -/
def newestEmployees (rows : List Employee) : List Employee :=
  rows.mergeSort fun e e' => decide (e'.createdAt ≤ e.createdAt)

section Backend

-- Which texts Keycloak takes for the same in a search with `exact=true`.
variable (exact : String → String → Bool)

def searched (username email : Option String) (u : KeycloakUser) : Bool :=
  username.all (exact u.username) && email.all (exact u.email)

def performLookup (op : LookupOp) (ch : Choice) (s : Store) : Except HttpError op.Res × Store :=
  match op with
  | .findEmployee filter =>
      query ch s (some (s.employees.findOne (fun e => filter.selects e && e.isLive) ch.pick, s))
  | .findEmployees ids =>
      query ch s (some (s.employees.find fun e => ids.contains e.id && e.isLive, s))
  | .findRecentEmployees =>
      query ch s (some ((newestEmployees (s.employees.find Employee.isLive)).take 100, s))
  | .findAssignments employeeId =>
      query ch s (some (s.employeeRoles.find fun a => a.employeeId == employeeId, s))
  | .findHolders roleId =>
      query ch s (some (s.employeeRoles.find fun a => a.roleId == roleId, s))
  | .findRolesNamed names =>
      query ch s (some (s.roles.find fun r => names.contains r.name && r.isLive, s))
  | .findMappingsOf roleIds =>
      query ch s (some ((s.rolePermissions.find fun m => roleIds.contains m.roleId).map fun m =>
        (m, s.mappedPermission m), s))
  | .getUser userId =>
      let (answer, realm) := request ch.toChoice s.realm
        (some (s.realm.users.findOne (fun u => u.id == userId) 0, s.realm))
      (answer, { s with realm := realm })
  | .searchUsers username email =>
      let (answer, realm) := request ch.toChoice s.realm
        (some ((s.realm.users.find (searched exact username email)).take 100, s.realm))
      (answer, { s with realm := realm })

abbrev lookupBackend : Backend (sig.sum lookups) HttpError where
  State := Store
  Choice := Choice
  perform
    | .inl op, ch, s => perform op ch s
    | .inr op, ch, s => performLookup exact op ch s

end Backend

abbrev Lookup (α : Type) := Program (sig.sum lookups) HttpError α

/-- `await` of one of the reads. -/
abbrev lookup (op : LookupOp) : Lookup op.Res :=
  @Program.call (sig.sum lookups) HttpError (.inr op)

/-- `await` of a call of the other services. -/
abbrev shared (op : Op) : Lookup op.Res :=
  @Program.call (sig.sum lookups) HttpError (.inl op)

namespace KeycloakService

/-- The parameter of `findUsers`. -/
structure UserFilters where
  username : Optional String := .undefined
  email : Optional String := .undefined
  keycloakUserId : Optional String := .undefined

def findUsers (filters : UserFilters) : Lookup (List KeycloakUser) := do
  shared (.keycloak .postAdminToken)
  match filters.keycloakUserId.text? with
  | some userId => do
      let user : Option KeycloakUser ← lookup (.getUser userId)
      return user.toList
  | none => lookup (.searchUsers filters.username.text? filters.email.text?)

def getUserRealmRoles (userId : String) : Lookup (List Keycloak.Role) :=
  Keycloak.getUserRealmRoles (fun op => shared (.keycloak op)) userId

end KeycloakService

/-! ## The method -/

namespace UsersAccessService

open KeycloakService

def employeeProfile (e : Employee) : EmployeeProfile :=
  ⟨e.id, e.keycloakUserId, e.username, e.email, e.firstName, e.lastName, e.employeeCode, e.isActive⟩

def keycloakProfile (u : KeycloakUser) : KeycloakProfile :=
  ⟨u.id, u.username, u.email, u.firstName, u.lastName, u.enabled⟩

def accessRole (role : Role) : AccessRole :=
  ⟨role.id, role.name, role.displayName, role.keycloakRoleId, role.keycloakRoleName, role.dutyType⟩

/-- `m.permission.id, …, m.roleId`; a deleted permission is read as `null`. -/
def accessPermission (m : RolePermission × Option Permission) :
    Except HttpError AccessPermission := do
  let permission ← RolesService.permissionDetails m.2
  return ⟨permission, m.1.roleId⟩

/-- `roleIds.length ? await … : []`, and the permissions of what was read. -/
def permissionsOf (roleIds : List String) : Lookup (List AccessPermission) :=
  match roleIds with
  | [] => return []
  | _ :: _ => do
      let mappings : List (RolePermission × Option Permission) ← lookup (.findMappingsOf roleIds)
      settled (mappings.mapM accessPermission)

/-- `keycloakUser ? await … : []`. -/
def realmRolesOf (keycloakUser : Option KeycloakUser) : Lookup (List Keycloak.Role) :=
  match keycloakUser with
  | none => return []
  | some keycloakUser => getUserRealmRoles keycloakUser.id

def rolesById (roleIds : List String) : Lookup (List Role) :=
  match roleIds with
  | [] => return []
  | _ :: _ => shared (.findRoles roleIds)

def rolesByName (roleNames : List String) : Lookup (List Role) :=
  match roleNames with
  | [] => return []
  | _ :: _ => lookup (.findRolesNamed roleNames)

/-- The body of the first loop. -/
def employeeAccess (employee : Employee) : Lookup UserAccess := do
  let keycloakUsers ← findUsers { keycloakUserId := .value employee.keycloakUserId }
  let keycloakRealmRoles ← realmRolesOf keycloakUsers.head?
  let roleMappings : List EmployeeUserRole ← lookup (.findAssignments employee.id)
  let localRoles ← rolesById (roleMappings.map EmployeeUserRole.roleId)
  let permissions ← permissionsOf (roleMappings.map EmployeeUserRole.roleId)
  return ⟨some (employeeProfile employee), keycloakUsers.head?.map keycloakProfile,
    keycloakRealmRoles, localRoles.map accessRole, permissions⟩

/-- The body of the second loop. -/
def keycloakOnlyAccess (keycloakUser : KeycloakUser) : Lookup UserAccess := do
  let keycloakRealmRoles ← getUserRealmRoles keycloakUser.id
  let localRoles ← rolesByName (keycloakRealmRoles.map Keycloak.Role.name)
  let permissions ← permissionsOf (localRoles.map Role.id)
  return ⟨none, some (keycloakProfile keycloakUser), keycloakRealmRoles,
    localRoles.map accessRole, permissions⟩

def resolveEmployees (filters : FetchAccessDetailsDto) : Lookup (List Employee) :=
  -- The first filter that is given decides; the others are ignored.
  match filters.employeeId.text? with
  | some employeeId => do
      let employee : Option Employee ← lookup (.findEmployee (.id employeeId))
      return employee.toList
  | none =>
  match filters.roleId.text? with
  | some roleId => do
      let mappings : List EmployeeUserRole ← lookup (.findHolders roleId)
      match mappings with
      | [] => return []
      | _ :: _ => lookup (.findEmployees (mappings.map EmployeeUserRole.employeeId))
  | none =>
  match filters.keycloakUserId.text? with
  | some keycloakUserId => do
      let employee : Option Employee ← lookup (.findEmployee (.keycloakUserId keycloakUserId))
      return employee.toList
  | none =>
  match filters.username.text? with
  | some username => do
      let employee : Option Employee ← lookup (.findEmployee (.username username))
      return employee.toList
  | none =>
  match filters.email.text? with
  | some email => do
      let employee : Option Employee ← lookup (.findEmployee (.email email))
      return employee.toList
  | none => lookup .findRecentEmployees

/-- `filters.username || filters.email || filters.keycloakUserId`. -/
def namesKeycloakUser (filters : FetchAccessDetailsDto) : Bool :=
  filters.username.text?.isSome || filters.email.text?.isSome || filters.keycloakUserId.text?.isSome

/-- The users whom only Keycloak knows, when no employee was found. -/
def keycloakOnlyUsers (filters : FetchAccessDetailsDto) (employees : List Employee) :
    Lookup (List UserAccess) :=
  if employees.isEmpty && namesKeycloakUser filters then do
    let users ← findUsers
      { username := filters.username
        email := filters.email
        keycloakUserId := filters.keycloakUserId }
    users.mapM keycloakOnlyAccess
  else return []

/-- `{ count: results.length, users: results }`. -/
def accessDetails (results : List UserAccess) : AccessDetails := ⟨results.length, results⟩

def fetchAccessDetails (filters : FetchAccessDetailsDto) : Lookup AccessDetails := do
  let employees ← resolveEmployees filters
  let results ← employees.mapM employeeAccess
  let keycloakOnly ← keycloakOnlyUsers filters employees
  return accessDetails (results ++ keycloakOnly)

end UsersAccessService

end Rbac
end IdentityBillpay
