import IdentityBillpay.Rbac.Steps

/-!
# Creations — what creating an employee or a role does, and where it can stop

Both create an object in Keycloak first and the rows of the database afterwards, and undo nothing.

* `EmployeeCreated`, `RoleCreated` — all changes of a creation;
* `CreatingEmployee`, `CreatingRole` — how far it has come at a call;
* `contract_createEmployee`, `contract_createRole` — the contracts of the two requests.
-/

namespace IdentityBillpay
namespace Rbac

open Async Async.Program Keycloak
open Bbps (Actor)

/-! ## Employees -/

/-- The row of a new employee. -/
structure EmployeeInserted (m : Store) (dto : CreateEmployeeDto) (employee : Employee) (m' : Store) :
    Prop where
  username : employee.username = dto.username
  active : employee.isActive = true
  live : employee.deletedAt = none
  fresh : ∀ e ∈ m.employees, e.id ≠ employee.id ∧ e.username ≠ employee.username ∧
    e.keycloakUserId ≠ employee.keycloakUserId
  table : ∃ t, m' = { m with employees := t } ∧ ∀ e, e ∈ t ↔ e ∈ m.employees ∨ e = employee

/-- The row of its assignment. -/
structure AssignmentInserted (m : Store) (employeeId roleId : String) (assignment : EmployeeUserRole)
    (m' : Store) : Prop where
  employeeId : assignment.employeeId = employeeId
  roleId : assignment.roleId = roleId
  fresh : ∀ a ∈ m.employeeRoles, a.id ≠ assignment.id
  table : ∃ t, m' = { m with employeeRoles := t } ∧
    ∀ a, a ∈ t ↔ a ∈ m.employeeRoles ∨ a = assignment

structure EmployeeCreated (s : Store) (dto : CreateEmployeeDto) (actor : Actor) (role : Role)
    (m₁ m₂ m₃ : Store) (employee : Employee) (assignment : EmployeeUserRole) (s' : Store) :
    Prop where
  manager : isEmployeeManager actor = true
  assignable : Assignable s actor dto.roleId role
  user : ∃ realm, NewUser s.realm (EmployeesService.keycloakUser dto) employee.keycloakUserId realm ∧
    m₁ = { s with realm := realm }
  assigned : RealmChange m₁ employee.keycloakUserId role.keycloakRoleName KeycloakUser.assigned m₂
  row : EmployeeInserted m₂ dto employee m₃
  mapping : AssignmentInserted m₃ employee.id role.id assignment s'

/-- The number of calls that `create` makes before it turns to Keycloak. -/
def employeeReads (actor : Actor) : Nat := checkCalls actor + 1

/-- Who may do what is the same. -/
structure SameRights (s m : Store) : Prop where
  roles : m.roles = s.roles
  delegatedRoles : m.delegatedRoles = s.delegatedRoles
  employeeRoles : m.employeeRoles = s.employeeRoles

inductive CreatingEmployee (s : Store) (dto : CreateEmployeeDto) (actor : Actor) :
    Own → Store → Op → Prop
  /-- Nothing has been changed. -/
  | reading {own : Own} {op : Op} (hlen : own.length < employeeReads actor + 2) :
      CreatingEmployee s dto actor own s op
  /-- The user is there, the assignment is not. -/
  | occupied {own : Own} {m : Store} {op : Op} (hlen : employeeReads actor + 2 ≤ own.length)
      (huser : Occupied m dto.username) (hrights : SameRights s m) :
      CreatingEmployee s dto actor own m op
  /-- All changes have been made. -/
  | created {own : Own} {m₁ m₂ m₃ m : Store} {op : Op} {role : Role} {employee : Employee}
      {assignment : EmployeeUserRole} (hlen : employeeReads actor + 2 ≤ own.length)
      (hcreated : EmployeeCreated s dto actor role m₁ m₂ m₃ employee assignment m) :
      CreatingEmployee s dto actor own m op

theorem NewUser.occupied {r realm : Realm} {payload : CreateUserPayload} {userId : String}
    (h : NewUser r payload userId realm) {m : Store} (hm : m.realm = realm) :
    Occupied m payload.username :=
  ⟨newUser payload userId, by rw [hm, h.users]; exact .inr rfl, rfl⟩

/-- A role mapping leaves the users their names. -/
theorem RealmChange.occupied_of {m m' : Store} {userId roleName username : String}
    (change : Keycloak.Role → KeycloakUser → KeycloakUser)
    (hchange : ∀ role u, (change role u).username = u.username)
    (h : RealmChange m userId roleName change m') (huser : Occupied m username) :
    Occupied m' username := by
  rcases h with ⟨role, realm, _, _, hwith, rfl⟩
  rcases huser with ⟨u, hu, hname⟩
  refine ⟨_, (hwith.users _).2 ⟨u, hu, rfl⟩, ?_⟩
  split
  · exact (hchange role u).trans hname
  · exact hname

theorem RealmChange.occupied {m m' : Store} {userId roleName username : String}
    (h : RealmChange m userId roleName KeycloakUser.assigned m') (huser : Occupied m username) :
    Occupied m' username :=
  h.occupied_of KeycloakUser.assigned (fun _ _ => rfl) huser

/-- The user of a created employee is there. -/
theorem EmployeeCreated.occupied {s m₁ m₂ m₃ s' : Store} {dto : CreateEmployeeDto} {actor : Actor}
    {role : Role} {employee : Employee} {assignment : EmployeeUserRole}
    (h : EmployeeCreated s dto actor role m₁ m₂ m₃ employee assignment s') :
    Occupied s' dto.username := by
  rcases h.user with ⟨realm, hnew, hm₁⟩
  have h₁ : Occupied m₁ dto.username := hnew.occupied (by rw [hm₁])
  have h₂ : Occupied m₂ dto.username := h.assigned.occupied h₁
  rcases h.row.table with ⟨t, rfl, _⟩
  rcases h.mapping.table with ⟨t', rfl, _⟩
  exact h₂

/-- All the ways `create` can end when every call is answered. -/
def CreateEmployeeEnd (s : Store) (dto : CreateEmployeeDto) (actor : Actor) (own : Own) (m : Store)
    (r : Except HttpError EmployeeAccount) : Prop :=
  (m = s ∧ published own = [] ∧ ∃ e, r = .error e) ∨
    ∃ role m₁ m₂ m₃ employee assignment,
      EmployeeCreated s dto actor role m₁ m₂ m₃ employee assignment m ∧
        match r with
        | .ok _ => published own = [EmployeesService.synced employee role] ∧ Showable m role.id
        | .error _ => ¬ Showable m role.id

section Contracts

variable {s : Store} {own : Own} {limits : Choice → Prop}

/-- The part behind the checks. -/
theorem contract_provision {dto : CreateEmployeeDto} {actor : Actor} {role : Role}
    (hmanager : isEmployeeManager actor = true) (hassignable : Assignable s actor dto.roleId role)
    (hown : Longer (employeeReads actor) [] own) :
    Contract limits (CreatingEmployee s dto actor) (CreateEmployeeEnd s dto actor) own s
      (EmployeesService.provision dto role actor) := by
  unfold EmployeesService.provision
  have hlen : own.length = employeeReads actor := by simpa using hown.calls
  have hquiet : published own = [] := hown.quiet
  -- `createUser`: either no call of it has created the user, or the user is there.
  have huser : Contract limits (CreatingEmployee s dto actor) _ own s _ :=
    (contract_createUser (EmployeesService.keycloakUser dto)).mono
      (fun own' m op h => by
        rcases h with ⟨rfl, n, hn, hcalls⟩ | ⟨hcalls, hoccupied, realm, rfl⟩
        · exact .reading (by omega)
        · exact .occupied (by omega) hoccupied ⟨rfl, rfl, rfl⟩)
      fun _ _ _ h => h
  refine huser.bind ?_ ?_
  swap
  · intro own₁ m e h
    rcases h with ⟨rfl, h₁, _⟩
    exact .inl ⟨rfl, h₁.quiet.trans hquiet, e, rfl⟩
  intro own₁ m₁ userId h
  rcases h with ⟨⟨realm, hnew, hm₁⟩, n, h₁⟩
  have hlen₁ := h₁.calls
  have hoccupied₁ : Occupied m₁ dto.username := hnew.occupied (by rw [hm₁])
  have hsame₁ : SameRights s m₁ := by
    rw [hm₁]
    exact ⟨rfl, rfl, rfl⟩
  -- `assignRealmRoleToUser`: from here on the name is occupied, whatever fails.
  have hassign : Contract limits (CreatingEmployee s dto actor) _ own₁ m₁ _ :=
    (contract_assignRealmRoleToUser userId role.keycloakRoleName).mono
      (fun own' m op h => by
        rcases h with ⟨rfl, _, k, hk, hcalls⟩ | ⟨rfl, hcalls, _⟩
        · exact .occupied (by omega) hoccupied₁ hsame₁
        · exact .occupied (by omega) hoccupied₁ hsame₁)
      fun _ _ _ h => h
  refine hassign.bind ?_ (fun own₂ m e h => by cases h.1)
  intro own₂ m₂ _ h
  rcases h with ⟨_, h₂, hassigned⟩
  have hlen₂ := h₂.calls
  have hoccupied₂ : Occupied m₂ dto.username := hassigned.occupied hoccupied₁
  have hsame₂ : SameRights s m₂ := by
    rcases hassigned with ⟨_, _, _, _, _, rfl⟩
    exact ⟨hsame₁.roles, hsame₁.delegatedRoles, hsame₁.employeeRoles⟩
  have h₀ := Longer.refl own₂
  -- The two rows of the employee and of the role.
  refine contract_write h₀ rfl (.occupied (by omega) hoccupied₂ hsame₂) ?_
  intro ch employee own₃ m₃ h₃ _ hdone
  have hlen₃ := h₃.calls
  rcases insertEmployee_ok hdone with ⟨t, hrow, hm₃, hfresh, hmem⟩
  rcases NewEmployee.row?_some hrow with ⟨_, hkeycloak, hname, hactive, hlive⟩
  have hinserted : EmployeeInserted m₂ dto employee m₃ :=
    ⟨hname, hactive, hlive, hfresh, t, hm₃, hmem⟩
  have hoccupied₃ : Occupied m₃ dto.username := by
    rw [hm₃]
    exact hoccupied₂
  have hsame₃ : SameRights s m₃ := by
    rw [hm₃]
    exact ⟨hsame₂.roles, hsame₂.delegatedRoles, hsame₂.employeeRoles⟩
  refine contract_write h₃ rfl (.occupied (by omega) hoccupied₃ hsame₃) ?_
  intro ch' assignment own₄ m₄ h₄ _ hdone'
  have hlen₄ := h₄.calls
  rcases insertAssignment_ok hdone' with ⟨t', hrow', hm₄, hfresh', hmem'⟩
  rcases NewAssignment.row?_some hrow' with ⟨_, hemployeeId, hroleId⟩
  have hcreated : EmployeeCreated s dto actor role m₁ m₂ m₃ employee assignment m₄ := by
    -- The row has the id of the user that has been created.
    have hid : employee.keycloakUserId = userId := hkeycloak
    refine ⟨hmanager, hassignable, ⟨realm, ?_, hm₁⟩, ?_, hinserted,
      ⟨hemployeeId, hroleId, hfresh', t', hm₄, hmem'⟩⟩
    · rw [hid]
      exact hnew
    · rw [hid]
      exact hassigned
  have hpublished : published own₄ = [] := by
    rw [h₄.quiet, h₂.quiet, h₁.quiet, hquiet]
  -- `publishAccount` tells of what is there already.
  refine (contract_publishAccount employee assignment role none).mono ?_ ?_
  · intro own' m op h
    rcases h with ⟨rfl, _, hle⟩
    exact .created (by omega) hcreated
  · intro own' m r h
    rcases h with ⟨rfl, hr⟩
    refine .inr ⟨role, m₁, m₂, m₃, employee, assignment, hcreated, ?_⟩
    cases r with
    | ok account => simpa [hpublished] using hr
    | error e => exact hr

theorem contract_createEmployee (dto : CreateEmployeeDto) (actor : Actor) :
    Contract limits (CreatingEmployee s dto actor) (CreateEmployeeEnd s dto actor) [] s
      (EmployeesService.create dto actor) := by
  unfold EmployeesService.create
  have hreads : employeeReads actor = checkCalls actor + 1 := rfl
  have hquit : ∀ own e, published own = [] → CreateEmployeeEnd s dto actor own s (.error e) :=
    fun own e hown => .inl ⟨rfl, hown, e, rfl⟩
  unfold EmployeesService.assertCanManageEmployees
  by_cases hmanager : isEmployeeManager actor = true
  swap
  · rw [if_neg hmanager]
    exact hquit _ _ rfl
  rw [if_pos hmanager]
  have hcheck : Contract limits (CreatingEmployee s dto actor) _ [] s _ :=
    (contract_assignableRole actor dto.roleId).mono
      (fun own' m op h => by
        rcases h with ⟨rfl, _, n, hn, hcalls⟩
        exact .reading (by rw [hcalls, List.length_nil]; omega))
      fun _ _ _ h => h
  refine hcheck.bind ?_ ?_
  · intro own₁ m role h
    rcases h with ⟨rfl, h₁, hassignable⟩
    refine contract_read h₁ rfl rfl (.reading (by rw [h₁.calls, List.length_nil]; omega)) ?_
    intro ch existing own₂ h₂ _
    cases (existing : Option Employee) with
    | some employee => exact hquit _ _ h₂.quiet
    | none => exact contract_provision hmanager hassignable h₂
  · intro own₁ m e h
    rcases h with ⟨rfl, ⟨n, h₁⟩, _⟩
    exact hquit _ _ h₁.quiet

end Contracts

/-! ## Roles -/

/-- The realm has one role more, and its users are the same. -/
structure RealmRoleAdded (s : Store) (name : String) (m : Store) : Prop where
  free : ∀ role ∈ s.realm.roles, role.name ≠ name
  roles : ∃ new : Keycloak.Role, new.name = name ∧
    ∀ role, role ∈ m.realm.roles ↔ role ∈ s.realm.roles ∨ role = new
  users : m.realm.users = s.realm.users
  tables : m = { s with realm := m.realm }

/-- The row of a new role. -/
structure RoleInserted (m : Store) (dto : CreateRoleDto) (role : Role) (m' : Store) : Prop where
  name : role.name = dto.name
  keycloakName : role.keycloakRoleName = dto.name
  duty : role.dutyType = resolveRoleDutyType dto.name
  live : role.isLive = true
  fresh : ∀ r ∈ m.roles, r.id ≠ role.id ∧ r.name ≠ role.name
  table : ∃ t, m' = { m with roles := t } ∧ ∀ r, r ∈ t ↔ r ∈ m.roles ∨ r = role

structure RoleCreated (s : Store) (dto : CreateRoleDto) (m₁ m₂ : Store) (role : Role) (s' : Store) :
    Prop where
  added : RealmRoleAdded s dto.name m₁
  row : RoleInserted m₁ dto role m₂
  delegated : ∃ t, s' = { m₂ with delegatedRoles := t }

/-- The number of calls that `create` makes before the one that adds the realm role. -/
def roleReads : Nat := 2

inductive CreatingRole (s : Store) (dto : CreateRoleDto) : Own → Store → Op → Prop
  /-- Nothing has been changed. -/
  | reading {own : Own} {op : Op} (hlen : own.length < roleReads + 1) : CreatingRole s dto own s op
  /-- The realm role is there. -/
  | named {own : Own} {m : Store} {op : Op} (hlen : roleReads + 1 ≤ own.length)
      (hname : ∃ role ∈ m.realm.roles, role.name = dto.name) : CreatingRole s dto own m op

theorem RealmRoleAdded.named {s m : Store} {name : String} (h : RealmRoleAdded s name m) :
    ∃ role ∈ m.realm.roles, role.name = name := by
  rcases h.roles with ⟨new, hname, hroles⟩
  exact ⟨new, (hroles new).2 (.inr rfl), hname⟩

/-- All the ways the creation of a role can end when every call is answered. -/
def CreateRoleEnd (s : Store) (dto : CreateRoleDto) (m : Store) (r : Except HttpError RoleDetails) :
    Prop :=
  (m = s ∧ ∃ e, r = .error e) ∨
    ∃ m₁ m₂ role, RoleCreated s dto m₁ m₂ role m ∧
      match r with
      | .ok _ => True
      | .error _ => ¬ Showable m role.id

section Contracts

variable {s : Store} {own : Own} {limits : Choice → Prop}

/-- Delegations are deleted and inserted, and nothing else changes. -/
theorem contract_replaceDelegations (roleId : String) (delegateIds : List String)
    (grantedBy : Option String) :
    Contract limits
      (fun own' m _ => own.length ≤ own'.length ∧ ∃ t, m = { s with delegatedRoles := t })
      (fun own' m r => r = .ok () ∧ (∃ n, Longer n own own') ∧
        ∃ t, m = { s with delegatedRoles := t })
      own s (RolesService.replaceDelegations roleId delegateIds grantedBy) := by
  unfold RolesService.replaceDelegations
  have h₀ := Longer.refl own
  refine contract_write h₀ rfl ⟨Nat.le_refl _, s.delegatedRoles, rfl⟩ ?_
  intro ch _ own₁ m h₁ _ hdelete
  have hm : m = deleteDelegations s roleId := deleteDelegations_ok hdelete
  cases delegateIds with
  | nil => exact ⟨rfl, ⟨1, h₁⟩, _, hm⟩
  | cons delegateId delegateIds =>
      refine contract_last (.insertDelegations _) h₁ rfl ⟨by rw [h₁.calls]; omega, _, hm⟩ ?_
      intro ch' _ own₂ m' h₂ hinsert
      rcases insertDelegations_ok hinsert with ⟨t, rfl⟩
      rw [hm]
      exact ⟨rfl, ⟨2, h₂⟩, t, rfl⟩

theorem contract_grantDelegations (dto : CreateRoleDto) (roleId : String) (grantedBy : Option String) :
    Contract limits
      (fun own' m _ => own.length ≤ own'.length ∧ ∃ t, m = { s with delegatedRoles := t })
      (fun own' m r => r = .ok () ∧ (∃ n, Longer n own own') ∧
        ∃ t, m = { s with delegatedRoles := t })
      own s (RolesService.grantDelegations dto roleId grantedBy) := by
  unfold RolesService.grantDelegations
  split
  · exact contract_replaceDelegations roleId _ grantedBy
  · exact ⟨rfl, ⟨0, .refl own⟩, s.delegatedRoles, rfl⟩

theorem contract_createRealmRole (name : String) (description : Option String) :
    Contract limits
      (fun own' m _ => (m = s ∧ ∃ n < 2, own'.length = own.length + n) ∨
        (own'.length = own.length + 2 ∧ RealmRoleAdded s name m))
      (fun own' m r => ∃ role, r = .ok role ∧ role.name = name ∧ Longer 3 own own' ∧
        RealmRoleAdded s name m)
      own s (createRealmRole http name description) := by
  unfold createRealmRole
  have h₀ := Longer.refl own
  refine contract_read h₀ rfl rfl (.inl ⟨rfl, 0, by decide, h₀.calls⟩) ?_
  intro _ _ own₁ h₁ _
  refine contract_write h₁ rfl (.inl ⟨rfl, 1, by decide, h₁.calls⟩) ?_
  intro ch _ own₂ m h₂ _ hpost
  rcases keycloak_ok hpost with ⟨realm, hadd, rfl⟩
  rcases postRole_ok hadd with ⟨hfree, hroles, husers⟩
  have hadded : RealmRoleAdded s name { s with realm := realm } :=
    ⟨hfree, ⟨_, rfl, hroles⟩, husers, rfl⟩
  refine contract_last (.keycloak (.getRole name)) h₂ rfl (.inr ⟨h₂.calls, hadded⟩) ?_
  intro ch' role own₃ m' h₃ hget
  have hsame : m' = { s with realm := realm } := perform_read rfl hget
  rcases keycloak_ok hget with ⟨_, hfound, _⟩
  rw [hsame]
  exact ⟨role, rfl, (getRole_ok hfound).2, h₃, hadded⟩

theorem contract_createRole (dto : CreateRoleDto) (actorKeycloakUserId : Option String) :
    Contract limits (CreatingRole s dto) (fun _ => CreateRoleEnd s dto) [] s
      (RolesService.create dto actorKeycloakUserId) := by
  unfold RolesService.create
  have hreads : roleReads = 2 := rfl
  have h₀ := Longer.refl []
  -- `findOne` by name, and the conflict if there is such a role.
  refine contract_read h₀ rfl rfl (.reading (by decide)) ?_
  intro ch existing own₁ h₁ _
  have hlen₁ : own₁.length = 1 := by simpa using h₁.calls
  cases (existing : Option Role) with
  | some role => exact .inl ⟨rfl, _, rfl⟩
  | none =>
      -- `createRealmRole`.
      have hrealm : Contract limits (CreatingRole s dto) _ own₁ s _ :=
        (contract_createRealmRole dto.name dto.description.toOption).mono
          (fun own' m op h => by
            rcases h with ⟨rfl, n, hn, hcalls⟩ | ⟨hcalls, hadded⟩
            · exact .reading (by omega)
            · exact .named (by omega) hadded.named)
          fun _ _ _ h => h
      refine hrealm.bind ?_ (fun own₂ m e h => by rcases h with ⟨_, hr, _⟩; cases hr)
      intro own₂ m₁ keycloakRole h
      rcases h with ⟨_, hr, hname, h₂, hadded⟩
      cases hr
      have hlen₂ := h₂.calls
      have hnamed := hadded.named
      -- The row that mirrors it.
      refine contract_write h₂ rfl (.named (by omega) hnamed) ?_
      intro ch' role own₃ m₂ h₃ _ hinsert
      have hlen₃ := h₃.calls
      rcases insertRole_ok hinsert with ⟨t, hrow, rfl, hfresh, hmem⟩
      rcases NewRole.row?_some hrow with ⟨_, hrowName, hkeycloak, hduty, _, hdeleted⟩
      have hinserted : RoleInserted m₁ dto role { m₁ with roles := t } :=
        ⟨hrowName, hkeycloak.trans hname, hduty, by simp [Role.isLive, hdeleted], hfresh, t, rfl, hmem⟩
      -- What follows leaves the realm alone.
      have hgrant : Contract limits (CreatingRole s dto) _ own₃ { m₁ with roles := t } _ :=
        (contract_grantDelegations dto role.id actorKeycloakUserId).mono
          (fun own' m op h => by
            rcases h with ⟨hle, t', rfl⟩
            exact .named (by omega) hnamed)
          fun _ _ _ h => h
      refine hgrant.bind ?_ (fun own₄ m e h => by cases h.1)
      intro own₄ m₃ _ h
      rcases h with ⟨_, ⟨n, h₄⟩, t', rfl⟩
      have hlen₄ := h₄.calls
      have hcreated : RoleCreated s dto m₁ { m₁ with roles := t } role
          { m₁ with roles := t, delegatedRoles := t' } := ⟨hadded, hinserted, t', rfl⟩
      refine (contract_findRoleWithPermissions role.id).mono ?_ ?_
      · intro own' m op h
        rcases h with ⟨rfl, _, n, _, hcalls⟩
        exact .named (by omega) hnamed
      · intro own' m r h
        rcases h with ⟨rfl, hr⟩
        refine .inr ⟨m₁, _, role, hcreated, ?_⟩
        cases r with
        | ok details => trivial
        | error e => exact hr.2

end Contracts

end Rbac
end IdentityBillpay
