import IdentityBillpay.Async.Program
import IdentityBillpay.Keycloak.Calls
import IdentityBillpay.Rbac.Entities

/-!
# Store — the tables of the rbac module, the read-model of portal accounts, and Keycloak

* `Store` — the tables and the realm;
* `Op`, `backend` — repository calls, calls to Keycloak, events and `new Date()`;
* `perform_read`, `perform_error` — what reads and failing calls leave;
* `findActiveRole_some`, `insertEmployee_ok`, … — what each answered call tells.
-/

namespace IdentityBillpay
namespace Rbac

open Async Js Keycloak
open Sql (commit commit_ok commit_error)

structure Store where
  roles : Sql.Table Role.id Role.name
  permissions : Sql.Table Permission.id Permission.code
  rolePermissions : Sql.Table RolePermission.id RolePermission.pair
  delegatedRoles : Sql.Table DelegatedRole.id DelegatedRole.pair
  employees : Sql.IndexedTable Employee.id Employee.username Employee.keycloakUserId
  employeeRoles : Sql.Table EmployeeUserRole.id EmployeeUserRole.pair
  adminUsers : Sql.Table AdminUser.id AdminUser.keycloakUserId
  realm : Realm

/-- What a program of the module can await. `save` of an entity without an id is an `insert`, and
`find` calls see no row with a `deletedAt`. An event is published without waiting for its listeners;
it is an operation so that runs show it. -/
inductive Op
  | findRoleNamed (name : String)
  | findRole (id : String)
  | findActiveRole (id : String)
  | findRoles (ids : List String)
  | insertRole (role : NewRole)
  | saveRole (role : ChangedRole)
  | findActivePermissions (ids : List String)
  | findMappings (roleId : String)
  | deleteMappings (roleId : String)
  | insertMappings (mappings : List NewMapping)
  | findDelegations (roleId : String)
  | findDelegation (roleId delegateKeycloakUserId : String)
  | deleteDelegations (roleId : String)
  | insertDelegations (delegations : List NewDelegation)
  | findEmployeeNamed (username : String)
  | findActiveEmployee (id : String)
  | insertEmployee (employee : NewEmployee)
  | findAssignment (employeeId : String)
  | insertAssignment (assignment : NewAssignment)
  | saveAssignment (assignment : EmployeeUserRole)
  | findAdminUser (keycloakUserId : String)
  | saveAdminUser (account : SyncedAdminUser)
  | publish (event : EmployeeAccountSyncedEvent)
  | now
  | keycloak (op : KeycloakOp)
  deriving DecidableEq

/-- A mapping is read with its permission, and an assignment with its role, if these are not
deleted. -/
abbrev Op.Res : Op → Type
  | .findRoleNamed _ | .findRole _ | .findActiveRole _ => Option Role
  | .findRoles _ => List Role
  | .insertRole _ => Role
  | .findActivePermissions _ => List Permission
  | .findMappings _ => List (RolePermission × Option Permission)
  | .findDelegations _ => List DelegatedRole
  | .findDelegation _ _ => Option DelegatedRole
  | .findEmployeeNamed _ | .findActiveEmployee _ => Option Employee
  | .insertEmployee _ => Employee
  | .findAssignment _ => Option (EmployeeUserRole × Option Role)
  | .insertAssignment _ => EmployeeUserRole
  | .findAdminUser _ => Option AdminUser
  | .now => Date
  | .keycloak op => op.Res
  | _ => Unit

instance : (op : Op) → DecidableEq op.Res
  | .findRoleNamed _ | .findRole _ | .findActiveRole _ => inferInstanceAs (DecidableEq (Option Role))
  | .findRoles _ => inferInstanceAs (DecidableEq (List Role))
  | .insertRole _ => inferInstanceAs (DecidableEq Role)
  | .findActivePermissions _ => inferInstanceAs (DecidableEq (List Permission))
  | .findMappings _ => inferInstanceAs (DecidableEq (List (RolePermission × Option Permission)))
  | .findDelegations _ => inferInstanceAs (DecidableEq (List DelegatedRole))
  | .findDelegation _ _ => inferInstanceAs (DecidableEq (Option DelegatedRole))
  | .findEmployeeNamed _ | .findActiveEmployee _ => inferInstanceAs (DecidableEq (Option Employee))
  | .insertEmployee _ => inferInstanceAs (DecidableEq Employee)
  | .findAssignment _ => inferInstanceAs (DecidableEq (Option (EmployeeUserRole × Option Role)))
  | .insertAssignment _ => inferInstanceAs (DecidableEq EmployeeUserRole)
  | .findAdminUser _ => inferInstanceAs (DecidableEq (Option AdminUser))
  | .now => inferInstanceAs (DecidableEq Nat)
  | .keycloak op => inferInstanceAs (DecidableEq op.Res)
  | .saveRole _ | .deleteMappings _ | .insertMappings _ => inferInstanceAs (DecidableEq Unit)
  | .deleteDelegations _ | .insertDelegations _ => inferInstanceAs (DecidableEq Unit)
  | .saveAssignment _ | .saveAdminUser _ | .publish _ => inferInstanceAs (DecidableEq Unit)

abbrev sig : Signature := ⟨Op, Op.Res⟩

abbrev Prog (α : Type) := Program sig HttpError α

abbrev Own := List (Awaited sig HttpError)

/-- `await` of one operation. -/
abbrev call (op : Op) : Prog op.Res := @Program.call sig HttpError op

/-- `await` of one call to Keycloak. -/
abbrev http (op : KeycloakOp) : Prog op.Res := call (.keycloak op)

/-- What the environment decides about one operation: which row is found, the ids of rows inserted
together, the time, and what decides a call to Keycloak. The database fails, takes the id of a single
row and reports its message by the same fields. -/
structure Choice extends Keycloak.Choice where
  pick : Nat
  freshIds : Nat → String
  now : Date

/-! ## Writing -/

def insertRole? (s : Store) (new : NewRole) (ch : Choice) : Option (Role × Store) := do
  let role ← new.row? ch.freshId ch.now
  let t ← s.roles.insert? role
  return (role, { s with roles := t })

def saveRole? (s : Store) (changed : ChangedRole) (ch : Choice) : Option (Unit × Store) := do
  let role ← changed.row? ch.now
  let t ← s.roles.save? role
  return ((), { s with roles := t })

def deleteMappings (s : Store) (roleId : String) : Store :=
  { s with rolePermissions := s.rolePermissions.delete fun m => m.roleId == roleId }

def insertMappings? (s : Store) (mappings : List NewMapping) (ch : Choice) :
    Option (Unit × Store) := do
  let rows ← (mappings.mapIdx fun n new => new.row? (ch.freshIds n)).mapM id
  let t ← s.rolePermissions.insertAll? rows
  return ((), { s with rolePermissions := t })

def deleteDelegations (s : Store) (roleId : String) : Store :=
  { s with delegatedRoles := s.delegatedRoles.delete fun d => d.roleId == roleId }

def insertDelegations? (s : Store) (delegations : List NewDelegation) (ch : Choice) :
    Option (Unit × Store) := do
  let rows ← (delegations.mapIdx fun n new => new.row? (ch.freshIds n)).mapM id
  let t ← s.delegatedRoles.insertAll? rows
  return ((), { s with delegatedRoles := t })

def insertEmployee? (s : Store) (new : NewEmployee) (ch : Choice) : Option (Employee × Store) := do
  let employee ← new.row? ch.freshId ch.now
  let t ← s.employees.insert? employee
  return (employee, { s with employees := t })

def insertAssignment? (s : Store) (new : NewAssignment) (ch : Choice) :
    Option (EmployeeUserRole × Store) := do
  let assignment ← new.row? ch.freshId ch.now
  let t ← s.employeeRoles.insert? assignment
  return (assignment, { s with employeeRoles := t })

def saveAssignment? (s : Store) (assignment : EmployeeUserRole) : Option (Unit × Store) :=
  if assignment.fits then
    (s.employeeRoles.save? assignment).map fun t => ((), { s with employeeRoles := t })
  else none

/-- An account that overwrites none is inserted. -/
def saveAdminUser? (s : Store) (account : SyncedAdminUser) (ch : Choice) :
    Option (Unit × Store) :=
  let row := account.row ch.freshId ch.now
  let stored := if account.existing.isSome then s.adminUsers.save? row else s.adminUsers.insert? row
  stored.map fun t => ((), { s with adminUsers := t })

/-! ## Performing an operation -/

def Role.isLive (role : Role) : Bool := role.deletedAt.isNone

def Store.mappedPermission (s : Store) (m : RolePermission) : Option Permission :=
  s.permissions.findOne (fun p => p.id == m.permissionId && p.deletedAt.isNone) 0

def Store.assignedRole (s : Store) (a : EmployeeUserRole) : Option Role :=
  s.roles.findOne (fun role => role.id == a.roleId && role.isLive) 0

/-- A call to the database, which may fail. -/
abbrev query {α : Type} (ch : Choice) (s : Store) (accepted : Option (α × Store)) :
    Except HttpError α × Store :=
  commit ch.fails (.queryFailed ch.message) s accepted

def perform (op : Op) (ch : Choice) (s : Store) : Except HttpError op.Res × Store :=
  match op with
  | .findRoleNamed name =>
      query ch s (some (s.roles.findOne (fun r => r.name == name && r.isLive) ch.pick, s))
  | .findRole id => query ch s (some (s.roles.findOne (fun r => r.id == id && r.isLive) ch.pick, s))
  | .findActiveRole id =>
      query ch s
        (some (s.roles.findOne (fun r => r.id == id && r.isActive && r.isLive) ch.pick, s))
  | .findRoles ids => query ch s (some (s.roles.find fun r => ids.contains r.id && r.isLive, s))
  | .insertRole new => query ch s (insertRole? s new ch)
  | .saveRole changed => query ch s (saveRole? s changed ch)
  | .findActivePermissions ids =>
      query ch s (some
        (s.permissions.find fun p => ids.contains p.id && p.isActive && p.deletedAt.isNone, s))
  | .findMappings roleId =>
      query ch s (some ((s.rolePermissions.find fun m => m.roleId == roleId).map fun m =>
        (m, s.mappedPermission m), s))
  | .deleteMappings roleId => query ch s (some ((), deleteMappings s roleId))
  | .insertMappings mappings => query ch s (insertMappings? s mappings ch)
  | .findDelegations roleId =>
      query ch s (some (s.delegatedRoles.find fun d => d.roleId == roleId, s))
  | .findDelegation roleId delegate =>
      query ch s (some (s.delegatedRoles.findOne
        (fun d => d.roleId == roleId && d.delegateKeycloakUserId == delegate) ch.pick, s))
  | .deleteDelegations roleId => query ch s (some ((), deleteDelegations s roleId))
  | .insertDelegations delegations => query ch s (insertDelegations? s delegations ch)
  | .findEmployeeNamed username =>
      query ch s (some (s.employees.findOne
        (fun e => e.username == username && e.deletedAt.isNone) ch.pick, s))
  | .findActiveEmployee id =>
      query ch s (some (s.employees.findOne
        (fun e => e.id == id && e.isActive && e.deletedAt.isNone) ch.pick, s))
  | .insertEmployee new => query ch s (insertEmployee? s new ch)
  | .findAssignment employeeId =>
      query ch s (some ((s.employeeRoles.findOne
        (fun a => a.employeeId == employeeId) ch.pick).map fun a => (a, s.assignedRole a), s))
  | .insertAssignment new => query ch s (insertAssignment? s new ch)
  | .saveAssignment assignment => query ch s (saveAssignment? s assignment)
  | .findAdminUser userId =>
      query ch s (some (s.adminUsers.findOne (fun u => u.keycloakUserId == userId) ch.pick, s))
  | .saveAdminUser account => query ch s (saveAdminUser? s account ch)
  -- `eventBus.publish` does not wait for the handlers.
  | .publish _ => (.ok (), s)
  | .now => (.ok ch.now, s)
  | .keycloak op =>
      let (answer, realm) := s.realm.perform op ch.toChoice
      (answer, { s with realm := realm })

abbrev backend : Backend sig HttpError := ⟨Store, Choice, perform⟩

/-! ## Reads and failing calls -/

theorem query_ok {α : Type} {ch : Choice} {s s' : Store} {accepted : Option (α × Store)} {a : α}
    (h : query ch s accepted = (.ok a, s')) : accepted = some (a, s') :=
  commit_ok h

theorem query_error {α : Type} {ch : Choice} {s s' : Store} {accepted : Option (α × Store)}
    {e : HttpError} (h : query ch s accepted = (.error e, s')) : s' = s :=
  (commit_error h).2

/-- The operations that change neither a table nor the realm. -/
def Op.isRead : Op → Bool
  | .findRoleNamed _ | .findRole _ | .findActiveRole _ | .findRoles _ => true
  | .findActivePermissions _ | .findMappings _ | .findDelegations _ | .findDelegation _ _ => true
  | .findEmployeeNamed _ | .findActiveEmployee _ | .findAssignment _ | .findAdminUser _ => true
  | .publish _ | .now => true
  | .keycloak op => op.isRead
  | _ => false

theorem perform_read {op : Op} (hop : op.isRead = true) {ch : Choice} {s s' : Store}
    {res : Except HttpError op.Res} (h : perform op ch s = (res, s')) : s' = s := by
  have hquery : ∀ {α : Type} {a : α} {res : Except HttpError α},
      query ch s (some (a, s)) = (res, s') → s' = s := by
    intro α a res hq
    cases res with
    | error e => exact query_error hq
    | ok b =>
        cases query_ok hq
        rfl
  cases op with
  | findRoleNamed name => exact hquery h
  | findRole id => exact hquery h
  | findActiveRole id => exact hquery h
  | findRoles ids => exact hquery h
  | findActivePermissions ids => exact hquery h
  | findMappings roleId => exact hquery h
  | findDelegations roleId => exact hquery h
  | findDelegation roleId delegate => exact hquery h
  | findEmployeeNamed username => exact hquery h
  | findActiveEmployee id => exact hquery h
  | findAssignment employeeId => exact hquery h
  | findAdminUser userId => exact hquery h
  | publish event => exact (Prod.mk.inj h).2.symm
  | now => exact (Prod.mk.inj h).2.symm
  | keycloak op =>
      have hsame : (s.realm.perform op ch.toChoice).2 = s.realm := Keycloak.perform_read hop _ _
      have hs' : { s with realm := (s.realm.perform op ch.toChoice).2 } = s' := (Prod.mk.inj h).2
      rw [hsame] at hs'
      exact hs'.symm
  | _ => cases hop

theorem keycloak_result {op : KeycloakOp} {ch : Choice} {s s' : Store} {res : Except HttpError op.Res}
    (h : perform (.keycloak op) ch s = (res, s')) :
    ∃ r, s.realm.perform op ch.toChoice = (res, r) ∧ s' = { s with realm := r } := by
  cases hcall : s.realm.perform op ch.toChoice with
  | mk answer realm =>
      have hpair : (answer, { s with realm := realm }) = (res, s') := by
        have hp : perform (.keycloak op) ch s = (answer, { s with realm := realm }) := by
          simp only [perform, hcall]
        rw [← hp]
        exact h
      cases hpair
      exact ⟨realm, rfl, rfl⟩

/-- The call goes to Keycloak. -/
def Op.isRemote : Op → Bool
  | .keycloak _ => true
  | _ => false

/-- A call that fails changes at most the realm, when a reply of Keycloak was lost. -/
theorem perform_error {op : Op} {ch : Choice} {s s' : Store} {e : HttpError}
    (h : perform op ch s = (.error e, s')) :
    ∃ r, s' = { s with realm := r } ∧ (op.isRemote = false ∨ ch.Silent → r = s.realm) := by
  have hsame : s' = s → ∃ r, s' = { s with realm := r } ∧
      (op.isRemote = false ∨ ch.Silent → r = s.realm) := by
    intro hs
    exact ⟨s.realm, hs, fun _ => rfl⟩
  cases op with
  | publish event => cases (Prod.mk.inj h).1
  | now => cases (Prod.mk.inj h).1
  | keycloak op =>
      rcases keycloak_result h with ⟨realm, hcall, hs'⟩
      refine ⟨realm, hs', fun h => ?_⟩
      rcases h with hlocal | hsilent
      · cases hlocal
      · exact perform_error_state hsilent hcall
  | deleteMappings roleId =>
      exact hsame (@query_error Unit ch s s' (some ((), deleteMappings s roleId)) e h)
  | deleteDelegations roleId =>
      exact hsame (@query_error Unit ch s s' (some ((), deleteDelegations s roleId)) e h)
  | insertRole _ | saveRole _ | insertMappings _ | insertDelegations _ => exact hsame (query_error h)
  | insertEmployee _ | insertAssignment _ | saveAssignment _ => exact hsame (query_error h)
  | saveAdminUser _ => exact hsame (query_error h)
  | _ => exact hsame (perform_read rfl h)

/-- A failing call without effect leaves everything as it was. -/
theorem perform_error_same {op : Op} {ch : Choice} {s s' : Store} {e : HttpError}
    (h : perform op ch s = (.error e, s')) (hsilent : op.isRemote = false ∨ ch.Silent) :
    s' = s := by
  rcases perform_error h with ⟨r, rfl, hr⟩
  rw [hr hsilent]

theorem keycloak_ok {op : KeycloakOp} {ch : Choice} {s s' : Store} {a : op.Res}
    (h : perform (.keycloak op) ch s = (.ok a, s')) :
    ∃ r, s.realm.perform op ch.toChoice = (.ok a, r) ∧ s' = { s with realm := r } :=
  keycloak_result h

/-! ## What a read tells -/

section Reading

variable {ch : Choice} {s s' : Store}

theorem findOne_tells {ρ ι κ : Type} {id : ρ → ι} {key : ρ → κ} {t : Sql.Table id key}
    {p : ρ → Bool} {found : Option ρ}
    (h : query ch s (some (t.findOne p ch.pick, s)) = (.ok found, s')) :
    match found with
    | some r => r ∈ t ∧ p r = true
    | none => ∀ r ∈ t, p r = false := by
  have hfound : t.findOne p ch.pick = found := (Prod.mk.inj (Option.some.inj (query_ok h))).1
  cases found with
  | some r => exact Sql.Table.findOne_some hfound
  | none => exact Sql.Table.findOne_eq_none.1 hfound

theorem findRole_some {id : String} {role : Role}
    (h : perform (.findRole id) ch s = (.ok (some role), s')) :
    role ∈ s.roles ∧ role.id = id ∧ role.isLive = true := by
  have hrole := findOne_tells h
  simpa using hrole

theorem findActiveRole_some {id : String} {role : Role}
    (h : perform (.findActiveRole id) ch s = (.ok (some role), s')) :
    role ∈ s.roles ∧ role.id = id ∧ role.isActive = true ∧ role.isLive = true := by
  have hrole := findOne_tells h
  simpa [and_assoc] using hrole

theorem findDelegation_some {roleId delegate : String} {delegation : DelegatedRole}
    (h : perform (.findDelegation roleId delegate) ch s = (.ok (some delegation), s')) :
    delegation ∈ s.delegatedRoles ∧ delegation.roleId = roleId ∧
      delegation.delegateKeycloakUserId = delegate := by
  have hdelegation := findOne_tells h
  simpa using hdelegation

theorem findActiveRole_none {id : String}
    (h : perform (.findActiveRole id) ch s = (.ok none, s')) {role : Role} (hrole : role ∈ s.roles)
    (hid : role.id = id) (hactive : role.isActive = true) : role.isLive = false := by
  have hno := findOne_tells h role hrole
  simpa [hid, hactive] using hno

theorem findDelegation_none {roleId delegate : String}
    (h : perform (.findDelegation roleId delegate) ch s = (.ok none, s')) {delegation : DelegatedRole}
    (hmem : delegation ∈ s.delegatedRoles) (hrole : delegation.roleId = roleId) :
    delegation.delegateKeycloakUserId ≠ delegate := by
  have hno := findOne_tells h delegation hmem
  simpa [hrole] using hno

theorem findRole_none {id : String} (h : perform (.findRole id) ch s = (.ok none, s')) {role : Role}
    (hrole : role ∈ s.roles) (hid : role.id = id) : role.isLive = false := by
  have hno := findOne_tells h role hrole
  simpa [hid] using hno

theorem findRoles_ok {ids : List String} {roles : List Role}
    (h : perform (.findRoles ids) ch s = (.ok roles, s')) {role : Role} (hrole : role ∈ roles) :
    role ∈ s.roles ∧ role.id ∈ ids := by
  have hfound : s.roles.find (fun r => ids.contains r.id && r.isLive) = roles :=
    (Prod.mk.inj (Option.some.inj (query_ok h))).1
  rw [← hfound, Sql.Table.mem_find] at hrole
  simp only [Bool.and_eq_true, List.contains_iff_mem] at hrole
  exact ⟨hrole.1, hrole.2.1⟩

theorem findActiveEmployee_some {id : String} {employee : Employee}
    (h : perform (.findActiveEmployee id) ch s = (.ok (some employee), s')) :
    employee ∈ s.employees ∧ employee.id = id ∧ employee.isActive = true ∧
      employee.deletedAt = none := by
  have hemployee := findOne_tells (t := s.employees.toTable) h
  simpa [and_assoc] using hemployee

/-- An assignment that has been read, with its role. -/
abbrev Current := Option (EmployeeUserRole × Option Role)

/-- What a read of the employee's assignments can return. -/
def Current.ReadFrom (current : Current) (s : Store) (employeeId : String) : Prop :=
  match current with
  | some (assignment, role) => assignment ∈ s.employeeRoles ∧ assignment.employeeId = employeeId ∧
      role = s.assignedRole assignment
  | none => ∀ assignment ∈ s.employeeRoles, assignment.employeeId ≠ employeeId

theorem findAssignment_ok {employeeId : String} {found : Current}
    (h : perform (.findAssignment employeeId) ch s = (.ok found, s')) :
    found.ReadFrom s employeeId := by
  have hfound := (Prod.mk.inj (Option.some.inj (query_ok h))).1
  cases found with
  | some pair =>
      rcases Option.map_eq_some_iff.1 hfound with ⟨assignment, hrow, hpair⟩
      cases hpair
      have hmem := Sql.Table.findOne_some hrow
      exact ⟨hmem.1, by simpa using hmem.2, rfl⟩
  | none =>
      intro assignment hrow
      have hno := Sql.Table.findOne_eq_none.1 (Option.map_eq_none_iff.1 hfound) assignment hrow
      simpa using hno

/-- A live role is what an assignment that points to it is read with. -/
theorem assignedRole_eq {assignment : EmployeeUserRole} {role : Role} (hrole : role ∈ s.roles)
    (hid : role.id = assignment.roleId) (hlive : role.isLive = true) :
    s.assignedRole assignment = some role := by
  refine Sql.Table.findOne_of_unique 0 hrole (by simp [hid, hlive]) ?_
  intro role' hrole' hmatch
  have hid' : role'.id = assignment.roleId := by
    simp only [Bool.and_eq_true, beq_iff_eq] at hmatch
    exact hmatch.1
  exact Sql.Table.eq_of_id hrole' hrole (hid'.trans hid.symm)

theorem findMappings_ok {roleId : String} {mappings : List (RolePermission × Option Permission)}
    (h : perform (.findMappings roleId) ch s = (.ok mappings, s')) :
    mappings = (s.rolePermissions.find fun m => m.roleId == roleId).map fun m =>
      (m, s.mappedPermission m) :=
  (Prod.mk.inj (Option.some.inj (query_ok h))).1.symm

theorem findAdminUser_ok {userId : String} {found : Option AdminUser}
    (h : perform (.findAdminUser userId) ch s = (.ok found, s')) :
    match found with
    | some account => account ∈ s.adminUsers ∧ account.keycloakUserId = userId
    | none => ∀ account ∈ s.adminUsers, account.keycloakUserId ≠ userId := by
  have htells := findOne_tells h
  cases found with
  | some account => simpa using htells
  | none => simpa using htells

end Reading

/-! ## What a write does -/

section Writing

variable {ch : Choice} {s s' : Store}

theorem insertRole_ok {new : NewRole} {role : Role}
    (h : perform (.insertRole new) ch s = (.ok role, s')) :
    ∃ t, new.row? ch.freshId ch.now = some role ∧ s' = { s with roles := t } ∧
      (∀ r ∈ s.roles, r.id ≠ role.id ∧ r.name ≠ role.name) ∧
      ∀ r, r ∈ t ↔ r ∈ s.roles ∨ r = role := by
  rcases Option.bind_eq_some_iff.1 (query_ok h) with ⟨role', hrow, hrest⟩
  rcases Option.bind_eq_some_iff.1 hrest with ⟨t, ht, hdone⟩
  cases hdone
  exact ⟨t, hrow, rfl, fun r hr => Sql.Table.insert?_fresh ht hr, fun r => Sql.Table.mem_insert? ht⟩

theorem saveRole_ok {changed : ChangedRole} {u : Unit}
    (h : perform (.saveRole changed) ch s = (.ok u, s')) :
    ∃ role t, changed.row? ch.now = some role ∧ s' = { s with roles := t } ∧
      ∀ r, r ∈ t ↔ r = role ∨ (r ∈ s.roles ∧ r.id ≠ role.id) := by
  rcases Option.bind_eq_some_iff.1 (query_ok h) with ⟨role, hrow, hrest⟩
  rcases Option.bind_eq_some_iff.1 hrest with ⟨t, ht, hdone⟩
  cases hdone
  exact ⟨role, t, hrow, rfl, fun r => Sql.Table.mem_save? ht⟩

theorem deleteDelegations_ok {roleId : String} {u : Unit}
    (h : perform (.deleteDelegations roleId) ch s = (.ok u, s')) : s' = deleteDelegations s roleId :=
  (Prod.mk.inj (Option.some.inj (query_ok (a := u) h))).2.symm

theorem insertDelegations_ok {delegations : List NewDelegation} {u : Unit}
    (h : perform (.insertDelegations delegations) ch s = (.ok u, s')) :
    ∃ t, s' = { s with delegatedRoles := t } := by
  rcases Option.bind_eq_some_iff.1 (query_ok h) with ⟨rows, _, hrest⟩
  rcases Option.bind_eq_some_iff.1 hrest with ⟨t, _, hdone⟩
  cases hdone
  exact ⟨t, rfl⟩

theorem deleteMappings_ok {roleId : String} {u : Unit}
    (h : perform (.deleteMappings roleId) ch s = (.ok u, s')) : s' = deleteMappings s roleId :=
  (Prod.mk.inj (Option.some.inj (query_ok (a := u) h))).2.symm

theorem insertMappings_ok {mappings : List NewMapping} {u : Unit}
    (h : perform (.insertMappings mappings) ch s = (.ok u, s')) :
    ∃ t, s' = { s with rolePermissions := t } := by
  rcases Option.bind_eq_some_iff.1 (query_ok h) with ⟨rows, _, hrest⟩
  rcases Option.bind_eq_some_iff.1 hrest with ⟨t, _, hdone⟩
  cases hdone
  exact ⟨t, rfl⟩

theorem insertEmployee_ok {new : NewEmployee} {employee : Employee}
    (h : perform (.insertEmployee new) ch s = (.ok employee, s')) :
    ∃ t, new.row? ch.freshId ch.now = some employee ∧ s' = { s with employees := t } ∧
      (∀ e ∈ s.employees, e.id ≠ employee.id ∧ e.username ≠ employee.username ∧
        e.keycloakUserId ≠ employee.keycloakUserId) ∧
      ∀ e, e ∈ t ↔ e ∈ s.employees ∨ e = employee := by
  rcases Option.bind_eq_some_iff.1 (query_ok h) with ⟨row, hrow, hrest⟩
  rcases Option.bind_eq_some_iff.1 hrest with ⟨t, ht, hdone⟩
  cases hdone
  rcases Sql.IndexedTable.insert?_some ht with ⟨htable, hkeycloak⟩
  refine ⟨t, hrow, rfl, fun e he => ?_, fun e => Sql.IndexedTable.mem_insert? ht⟩
  have hfresh := Sql.Table.insert?_fresh htable he
  exact ⟨hfresh.1, hfresh.2, hkeycloak e he⟩

theorem insertAssignment_ok {new : NewAssignment} {assignment : EmployeeUserRole}
    (h : perform (.insertAssignment new) ch s = (.ok assignment, s')) :
    ∃ t, new.row? ch.freshId ch.now = some assignment ∧ s' = { s with employeeRoles := t } ∧
      (∀ a ∈ s.employeeRoles, a.id ≠ assignment.id) ∧
      ∀ a, a ∈ t ↔ a ∈ s.employeeRoles ∨ a = assignment := by
  rcases Option.bind_eq_some_iff.1 (query_ok h) with ⟨row, hrow, hrest⟩
  rcases Option.bind_eq_some_iff.1 hrest with ⟨t, ht, hdone⟩
  cases hdone
  exact ⟨t, hrow, rfl, fun a ha => (Sql.Table.insert?_fresh ht ha).1,
    fun a => Sql.Table.mem_insert? ht⟩

theorem saveAssignment_ok {assignment : EmployeeUserRole} {u : Unit}
    (h : perform (.saveAssignment assignment) ch s = (.ok u, s')) :
    ∃ t, s' = { s with employeeRoles := t } ∧
      ∀ a, a ∈ t ↔ a = assignment ∨ (a ∈ s.employeeRoles ∧ a.id ≠ assignment.id) := by
  have hsome := query_ok (a := u) h
  unfold saveAssignment? at hsome
  split at hsome
  · rcases Option.map_eq_some_iff.1 hsome with ⟨t, ht, hdone⟩
    cases hdone
    exact ⟨t, rfl, fun a => Sql.Table.mem_save? ht⟩
  · cases hsome

/-- The account is written in place of the one that was read, or beside the others. -/
theorem saveAdminUser_ok {account : SyncedAdminUser} {u : Unit}
    (hexisting : ∀ existing, account.existing = some existing →
      existing ∈ s.adminUsers ∧ existing.keycloakUserId = account.keycloakUserId)
    (h : perform (.saveAdminUser account) ch s = (.ok u, s')) :
    ∃ t, s' = { s with adminUsers := t } ∧
      ∀ a, a ∈ t ↔ a = account.row ch.freshId ch.now ∨
        (a ∈ s.adminUsers ∧ a.keycloakUserId ≠ account.keycloakUserId) := by
  have hsome := query_ok (a := u) h
  unfold saveAdminUser? at hsome
  rcases Option.map_eq_some_iff.1 hsome with ⟨t, ht, hdone⟩
  cases hdone
  refine ⟨t, rfl, fun a => ?_⟩
  cases hread : account.existing with
  | none =>
      rw [hread] at ht
      refine (Sql.Table.mem_insert? ht).trans (or_comm.trans (or_congr_right ?_))
      exact (and_iff_left_of_imp fun ha => (Sql.Table.insert?_fresh ht ha).2).symm
  | some existing =>
      rcases hexisting existing hread with ⟨hmem, hkey⟩
      rw [hread] at ht
      refine (Sql.Table.mem_save? ht).trans (or_congr_right (and_congr_right fun ha => ?_))
      -- The id of the row that was read says the same as its key.
      have hid : (account.row ch.freshId ch.now).id = existing.id := by
        simp [SyncedAdminUser.row, hread]
      rw [hid, ← hkey]
      refine not_congr ⟨fun h => ?_, fun h => ?_⟩
      · rw [Sql.Table.eq_of_id ha hmem h]
      · rw [Sql.Table.eq_of_key ha hmem h]

end Writing

end Rbac
end IdentityBillpay
