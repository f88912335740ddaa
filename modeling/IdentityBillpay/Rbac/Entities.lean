import IdentityBillpay.Js.Date
import IdentityBillpay.Js.Optional
import IdentityBillpay.Keycloak.KeycloakService
import IdentityBillpay.Rbac.Constants

/-!
# Entities — roles, permissions, delegations, employees and their accounts

* `Role`, `Permission`, `RolePermission`, `DelegatedRole`, `Employee`, `EmployeeUserRole`,
  `AdminUser` — the rows of the tables;
* `NewRole`, `ChangedRole`, `NewMapping`, … — what a service gives to `save`, and the row it becomes;
* `CreateRoleDto`, `UpdateRoleDto`, … — validated bodies;
* `RoleDetails`, `EmployeeAccount` — what the services return.
-/

namespace IdentityBillpay
namespace Rbac

open Js

/-! ## Rows -/

structure Role where
  id : String
  name : String
  displayName : String
  description : Option String
  keycloakRoleId : String
  keycloakRoleName : String
  dutyType : RoleDutyType
  isActive : Bool
  createdAt : Date
  updatedAt : Date
  deletedAt : Option Date
  deriving DecidableEq

structure Permission where
  id : String
  code : String
  name : String
  module : String
  action : String
  isActive : Bool
  deletedAt : Option Date
  deriving DecidableEq

structure RolePermission where
  id : String
  roleId : String
  permissionId : String
  mappedByKeycloakUserId : String
  deriving DecidableEq

structure DelegatedRole where
  id : String
  delegateKeycloakUserId : String
  roleId : String
  grantedByKeycloakUserId : String
  deriving DecidableEq

structure Employee where
  id : String
  keycloakUserId : String
  username : String
  email : String
  firstName : String
  lastName : String
  employeeCode : Option String
  createdByKeycloakUserId : String
  isActive : Bool
  createdAt : Date
  deletedAt : Option Date
  deriving DecidableEq

structure EmployeeUserRole where
  id : String
  employeeId : String
  roleId : String
  assignedByKeycloakUserId : String
  assignedAt : Date
  deriving DecidableEq

/-- A row of the read-model of portal accounts. -/
structure AdminUser where
  id : String
  employeeId : String
  keycloakUserId : String
  username : String
  email : String
  firstName : String
  lastName : String
  roleId : String
  roleName : String
  isActive : Bool
  lastSyncedAt : Date
  createdAt : Date
  deriving DecidableEq

/-- The unique index of a mapping. -/
def RolePermission.pair (m : RolePermission) : String × String := (m.roleId, m.permissionId)

def DelegatedRole.pair (d : DelegatedRole) : String × String := (d.delegateKeycloakUserId, d.roleId)

def EmployeeUserRole.pair (a : EmployeeUserRole) : String × String := (a.employeeId, a.roleId)

/-! ## Columns -/

/-- The values fit their columns. Generated ids always do. -/
def Role.fits (role : Role) : Bool :=
  role.name.length ≤ 100 && role.displayName.length ≤ 150 &&
    (role.description.getD "").utf8ByteSize ≤ 65535 && role.keycloakRoleName.length ≤ 100

def DelegatedRole.fits (d : DelegatedRole) : Bool :=
  d.delegateKeycloakUserId.length ≤ 36 && d.grantedByKeycloakUserId.length ≤ 36

def RolePermission.fits (m : RolePermission) : Bool :=
  m.mappedByKeycloakUserId.length ≤ 36

def Employee.fits (e : Employee) : Bool :=
  e.username.length ≤ 100 && e.email.length ≤ 255 && e.firstName.length ≤ 100 &&
    e.lastName.length ≤ 100 && (e.employeeCode.getD "").length ≤ 50 &&
    e.createdByKeycloakUserId.length ≤ 36

def EmployeeUserRole.fits (a : EmployeeUserRole) : Bool :=
  a.assignedByKeycloakUserId.length ≤ 36

/-! ## What is saved -/

structure NewRole where
  name : String
  displayName : String
  description : Option String
  keycloakRoleId : String
  keycloakRoleName : String
  dutyType : RoleDutyType
  isActive : Bool
  deriving DecidableEq

def NewRole.row? (new : NewRole) (id : String) (now : Date) : Option Role :=
  let role : Role :=
    { id := id
      name := new.name
      displayName := new.displayName
      description := new.description
      keycloakRoleId := new.keycloakRoleId
      keycloakRoleName := new.keycloakRoleName
      dutyType := new.dutyType
      isActive := new.isActive
      createdAt := now
      updatedAt := now
      deletedAt := none }
  if role.fits then some role else none

/-- A role that was read, with the columns that a body may have set; two of them to `null`. -/
structure ChangedRole where
  read : Role
  displayName : Option String
  description : Option String
  isActive : Option Bool
  deriving DecidableEq

/-- The row that a save stores; `none` where a column refuses its value. -/
def ChangedRole.row? (changed : ChangedRole) (now : Date) : Option Role := do
  let displayName ← changed.displayName
  let isActive ← changed.isActive
  let role : Role :=
    { changed.read with
      displayName := displayName
      description := changed.description
      isActive := isActive
      updatedAt := now }
  if role.fits then some role else none

/-- The columns for a user who acts are `NOT NULL`; a token without `sub` leaves them out. -/
structure NewMapping where
  roleId : String
  permissionId : String
  mappedByKeycloakUserId : Option String
  deriving DecidableEq

def NewMapping.row? (new : NewMapping) (id : String) : Option RolePermission := do
  let mappedBy ← new.mappedByKeycloakUserId
  let mapping : RolePermission := ⟨id, new.roleId, new.permissionId, mappedBy⟩
  if mapping.fits then some mapping else none

structure NewDelegation where
  roleId : String
  delegateKeycloakUserId : String
  grantedByKeycloakUserId : Option String
  deriving DecidableEq

def NewDelegation.row? (new : NewDelegation) (id : String) : Option DelegatedRole := do
  let grantedBy ← new.grantedByKeycloakUserId
  let delegation : DelegatedRole := ⟨id, new.delegateKeycloakUserId, new.roleId, grantedBy⟩
  if delegation.fits then some delegation else none

structure NewEmployee where
  keycloakUserId : String
  username : String
  email : String
  firstName : String
  lastName : String
  employeeCode : Option String
  createdByKeycloakUserId : Option String
  isActive : Bool
  deriving DecidableEq

def NewEmployee.row? (new : NewEmployee) (id : String) (now : Date) : Option Employee := do
  let createdBy ← new.createdByKeycloakUserId
  let employee : Employee :=
    { id := id
      keycloakUserId := new.keycloakUserId
      username := new.username
      email := new.email
      firstName := new.firstName
      lastName := new.lastName
      employeeCode := new.employeeCode
      createdByKeycloakUserId := createdBy
      isActive := new.isActive
      createdAt := now
      deletedAt := none }
  if employee.fits then some employee else none

structure NewAssignment where
  employeeId : String
  roleId : String
  assignedByKeycloakUserId : Option String
  deriving DecidableEq

def NewAssignment.row? (new : NewAssignment) (id : String) (now : Date) :
    Option EmployeeUserRole := do
  let assignedBy ← new.assignedByKeycloakUserId
  let assignment : EmployeeUserRole := ⟨id, new.employeeId, new.roleId, assignedBy, now⟩
  if assignment.fits then some assignment else none

/-- An account of the read-model; `existing` is the row it overwrites. -/
structure SyncedAdminUser where
  existing : Option AdminUser
  employeeId : String
  keycloakUserId : String
  username : String
  email : String
  firstName : String
  lastName : String
  roleId : String
  roleName : String
  isActive : Bool
  lastSyncedAt : Date
  deriving DecidableEq

def SyncedAdminUser.row (synced : SyncedAdminUser) (id : String) (now : Date) : AdminUser where
  id := (synced.existing.map AdminUser.id).getD id
  employeeId := synced.employeeId
  keycloakUserId := synced.keycloakUserId
  username := synced.username
  email := synced.email
  firstName := synced.firstName
  lastName := synced.lastName
  roleId := synced.roleId
  roleName := synced.roleName
  isActive := synced.isActive
  lastSyncedAt := synced.lastSyncedAt
  createdAt := (synced.existing.map AdminUser.createdAt).getD now

/-! ## Request bodies -/

structure CreateRoleDto where
  name : String
  displayName : String
  description : Optional String
  delegatedAdminKeycloakUserIds : Optional (List String)
  deriving DecidableEq

/-- `isActive` is not validated; a column stores any value but `true` as `false`. -/
structure UpdateRoleDto where
  roleId : String
  displayName : Optional String
  description : Optional String
  isActive : Optional Bool
  delegatedAdminKeycloakUserIds : Optional (List String)
  deriving DecidableEq

structure MapRolePermissionsDto where
  roleId : String
  permissionIds : List String
  deriving DecidableEq

structure CreateEmployeeDto where
  username : String
  email : String
  firstName : String
  lastName : String
  password : String
  roleId : String
  employeeCode : Optional String
  deriving DecidableEq

structure UpdateEmployeeRoleDto where
  employeeId : String
  roleId : String
  deriving DecidableEq

/-! ## Events and replies -/

structure EmployeeAccountSyncedEvent where
  employeeId : String
  keycloakUserId : String
  username : String
  email : String
  firstName : String
  lastName : String
  roleId : String
  roleName : String
  isActive : Bool
  deriving DecidableEq

structure PermissionDetails where
  id : String
  code : String
  name : String
  module : String
  action : String
  deriving DecidableEq

structure RoleDetails where
  id : String
  name : String
  displayName : String
  description : Option String
  keycloakRoleId : String
  keycloakRoleName : String
  dutyType : RoleDutyType
  isActive : Bool
  permissions : List PermissionDetails
  delegatedAdminKeycloakUserIds : List String
  createdAt : Date
  updatedAt : Date
  deriving DecidableEq

/-- The reply shows columns of the two rows; only `updateRole` adds who has changed the role. -/
structure EmployeeAccount where
  employee : Employee
  roleAssignment : EmployeeUserRole
  updatedByKeycloakUserId : Option String
  role : RoleDetails
  keycloakRealmRoles : List Keycloak.Role
  deriving DecidableEq

/-! ## Lemmas -/

theorem NewRole.row?_some {new : NewRole} {id : String} {now : Date} {role : Role}
    (h : new.row? id now = some role) :
    role.id = id ∧ role.name = new.name ∧ role.keycloakRoleName = new.keycloakRoleName ∧
      role.dutyType = new.dutyType ∧ role.isActive = new.isActive ∧ role.deletedAt = none := by
  unfold NewRole.row? at h
  dsimp only at h
  split at h
  · cases h
    exact ⟨rfl, rfl, rfl, rfl, rfl, rfl⟩
  · cases h

/-- A save of a role keeps what identifies it. -/
theorem ChangedRole.row?_some {changed : ChangedRole} {now : Date} {role : Role}
    (h : changed.row? now = some role) :
    role.id = changed.read.id ∧ role.name = changed.read.name ∧
      role.keycloakRoleName = changed.read.keycloakRoleName ∧
      role.dutyType = changed.read.dutyType ∧ role.deletedAt = changed.read.deletedAt := by
  rcases Option.bind_eq_some_iff.1 h with ⟨displayName, _, h⟩
  rcases Option.bind_eq_some_iff.1 h with ⟨isActive, _, h⟩
  dsimp only at h
  split at h
  · cases h
    exact ⟨rfl, rfl, rfl, rfl, rfl⟩
  · cases h

theorem NewEmployee.row?_some {new : NewEmployee} {id : String} {now : Date} {employee : Employee}
    (h : new.row? id now = some employee) :
    employee.id = id ∧ employee.keycloakUserId = new.keycloakUserId ∧
      employee.username = new.username ∧ employee.isActive = new.isActive ∧
      employee.deletedAt = none := by
  rcases Option.bind_eq_some_iff.1 h with ⟨createdBy, _, h⟩
  dsimp only at h
  split at h
  · cases h
    exact ⟨rfl, rfl, rfl, rfl, rfl⟩
  · cases h

theorem NewAssignment.row?_some {new : NewAssignment} {id : String} {now : Date}
    {assignment : EmployeeUserRole} (h : new.row? id now = some assignment) :
    assignment.id = id ∧ assignment.employeeId = new.employeeId ∧
      assignment.roleId = new.roleId := by
  rcases Option.bind_eq_some_iff.1 h with ⟨assignedBy, _, h⟩
  dsimp only at h
  split at h
  · cases h
    exact ⟨rfl, rfl, rfl⟩
  · cases h

end Rbac
end IdentityBillpay
