import IdentityBillpay.Rbac.Steps

/-!
# RoleChanges — what `updateRole` does to an employee's role

`updateRole` checks, removes the Keycloak role it has read, assigns the new one, and stores the
assignment. It undoes nothing, so where it stops decides what is left.

* `Checked` — what has been read and checked before the first change;
* `RoleChanged` — all of its changes;
* `Updating` — how far it has come at a call;
* `contract_updateRole` — the contract of the whole request.
-/

namespace IdentityBillpay
namespace Rbac

open Async Async.Program Keycloak
open Bbps (Actor)

/-! ## The changes -/

structure Checked (s : Store) (dto : UpdateEmployeeRoleDto) (actor : Actor) (employee : Employee)
    (newRole : Role) (current : Current) : Prop where
  manager : isEmployeeManager actor = true
  mem : employee ∈ s.employees
  id : employee.id = dto.employeeId
  active : employee.isActive = true
  live : employee.deletedAt = none
  assignable : Assignable s actor dto.roleId newRole
  read : current.ReadFrom s employee.id
  changeable : EmployeesService.assertChangeable actor newRole current = .ok ()

/-- The Keycloak role of the assignment is taken from the user, unless there is none. -/
def Removed (s : Store) (employee : Employee) (current : Current) (m : Store) : Prop :=
  match current with
  | some (_, some role) =>
      RealmChange s employee.keycloakUserId role.keycloakRoleName KeycloakUser.unassigned m
  | _ => m = s

/-- The number of calls that the removal takes. -/
def Current.removalCalls (current : Current) : Nat :=
  match current with
  | some (_, some _) => 3
  | _ => 0

/-- The assignment is stored with its new role, or inserted. -/
def Stored (m : Store) (employee : Employee) (newRole : Role) (actor : Actor) (current : Current)
    (assignment : EmployeeUserRole) (s' : Store) : Prop :=
  match current with
  | some (old, _) => assignment = EmployeesService.reassigned old newRole actor ∧
      ∃ t, s' = { m with employeeRoles := t } ∧
        ∀ a, a ∈ t ↔ a = assignment ∨ (a ∈ m.employeeRoles ∧ a.id ≠ assignment.id)
  | none => assignment.employeeId = employee.id ∧ assignment.roleId = newRole.id ∧
      ∃ t, s' = { m with employeeRoles := t } ∧ (∀ a ∈ m.employeeRoles, a.id ≠ assignment.id) ∧
        ∀ a, a ∈ t ↔ a ∈ m.employeeRoles ∨ a = assignment

structure RoleChanged (s : Store) (dto : UpdateEmployeeRoleDto) (actor : Actor) (employee : Employee)
    (newRole : Role) (current : Current) (m₁ m₂ : Store) (assignment : EmployeeUserRole)
    (s' : Store) : Prop where
  checked : Checked s dto actor employee newRole current
  removed : Removed s employee current m₁
  assigned :
    RealmChange m₁ employee.keycloakUserId newRole.keycloakRoleName KeycloakUser.assigned m₂
  stored : Stored m₂ employee newRole actor current assignment s'

/-! ## How far it comes -/

/-- How many calls `updateRole` makes before its first change: it reads the employee, checks the new
role, and reads the assignment. -/
def readCalls (actor : Actor) : Nat := checkCalls actor + 2

inductive Updating (s : Store) (dto : UpdateEmployeeRoleDto) (actor : Actor) :
    Own → Store → Op → Prop
  | reading {own : Own} {op : Op} (hread : op.isRead = true)
      (hlen : own.length < readCalls actor + 2) :
      Updating s dto actor own s op
  /-- The role that was read is taken from the user. -/
  | removing {own : Own} {employee : Employee} {newRole : Role} {assignment : EmployeeUserRole}
      {role : Role} {keycloakRole : Keycloak.Role}
      (hchecked : Checked s dto actor employee newRole (some (assignment, some role)))
      (hrole : keycloakRole ∈ s.realm.roles) (hname : keycloakRole.name = role.keycloakRoleName)
      (hlen : own.length = readCalls actor + 2) :
      Updating s dto actor own s
        (.keycloak (.deleteRoleMapping employee.keycloakUserId keycloakRole))
  /-- The new role is looked up, and then given to the user. -/
  | assigning {own : Own} {m : Store} {op : Op} {employee : Employee} {newRole : Role}
      {current : Current} (hchecked : Checked s dto actor employee newRole current)
      (hremoved : Removed s employee current m)
      (hop : op.isRead = true ∨ ∃ role ∈ m.realm.roles, role.name = newRole.keycloakRoleName ∧
        op = .keycloak (.postRoleMapping employee.keycloakUserId role))
      (hlen : readCalls actor + current.removalCalls ≤ own.length ∧
        own.length < readCalls actor + current.removalCalls + 3) :
      Updating s dto actor own m op
  /-- The assignment is written. -/
  | storing {own : Own} {m₁ m : Store} {op : Op} {employee : Employee} {newRole : Role}
      {current : Current} (hchecked : Checked s dto actor employee newRole current)
      (hremoved : Removed s employee current m₁)
      (hassigned :
        RealmChange m₁ employee.keycloakUserId newRole.keycloakRoleName KeycloakUser.assigned m)
      (hlocal : op.isRemote = false)
      (hlen : own.length = readCalls actor + current.removalCalls + 3) :
      Updating s dto actor own m op
  /-- All changes have been made. -/
  | stored {own : Own} {m₁ m₂ m : Store} {op : Op} {employee : Employee} {newRole : Role}
      {current : Current} {assignment : EmployeeUserRole}
      (hchanged : RoleChanged s dto actor employee newRole current m₁ m₂ assignment m)
      (hread : op.isRead = true)
      (hlen : readCalls actor + current.removalCalls + 4 ≤ own.length) :
      Updating s dto actor own m op

section Contracts

variable {s : Store} {own : Own} {limits : Choice → Prop}

theorem contract_removeCurrentRole (employee : Employee) (current : Current) :
    Contract limits
      (fun own' m op => ∃ assignment role, current = some (assignment, some role) ∧
        Mapping s own role.keycloakRoleName (.deleteRoleMapping employee.keycloakUserId) own' m op)
      (fun own' m r => r = .ok () ∧ Longer current.removalCalls own own' ∧
        Removed s employee current m)
      own s (EmployeesService.removeCurrentRole employee current) := by
  cases current with
  | none => exact ⟨rfl, .refl own, rfl⟩
  | some read =>
      rcases read with ⟨assignment, role⟩
      cases role with
      | none => exact ⟨rfl, .refl own, rfl⟩
      | some role =>
          exact (contract_removeRealmRoleFromUser employee.keycloakUserId role.keycloakRoleName).mono
            (fun _ _ _ h => ⟨assignment, role, rfl, h⟩) fun _ _ _ h => h

theorem contract_storeAssignment (employee : Employee) (newRole : Role) (actor : Actor)
    (current : Current) :
    Contract limits (fun own' m op => m = s ∧ op.isRemote = false ∧ own'.length = own.length)
      (fun own' m r => ∃ assignment, r = .ok assignment ∧ Longer 1 own own' ∧
        Stored s employee newRole actor current assignment m)
      own s (EmployeesService.storeAssignment employee newRole actor current) := by
  have h₀ := Longer.refl own
  cases current with
  | none =>
      refine contract_last (.insertAssignment _) h₀ rfl ⟨rfl, rfl, rfl⟩ ?_
      intro ch assignment own' m h₁ hdone
      rcases insertAssignment_ok hdone with ⟨t, hrow, hm, hfresh, hmem⟩
      rcases NewAssignment.row?_some hrow with ⟨_, hemployee, hrole⟩
      exact ⟨assignment, rfl, h₁, hemployee, hrole, t, hm, hfresh, hmem⟩
  | some read =>
      refine contract_write h₀ rfl ⟨rfl, rfl, rfl⟩ ?_
      intro ch _ own' m h₁ _ hdone
      rcases saveAssignment_ok hdone with ⟨t, hm, hmem⟩
      exact ⟨_, rfl, h₁, rfl, t, hm, hmem⟩

/-- The part behind the checks. -/
theorem contract_changeRole {dto : UpdateEmployeeRoleDto} {actor : Actor} {employee : Employee}
    {newRole : Role} {current : Current} (hchecked : Checked s dto actor employee newRole current)
    (hown : Longer (readCalls actor) [] own) :
    Contract limits (Updating s dto actor)
      (fun own' m r => ∃ m₁ m₂ assignment,
        RoleChanged s dto actor employee newRole current m₁ m₂ assignment m ∧
          match r with
          | .ok _ => published own' = [EmployeesService.synced employee newRole]
          | .error _ => ¬ Showable m newRole.id)
      own s (EmployeesService.changeRole employee newRole actor current) := by
  unfold EmployeesService.changeRole
  have hlen : own.length = readCalls actor := by simpa using hown.calls
  have hquiet : published own = [] := hown.quiet
  -- `removeCurrentRole`.
  have hremove : Contract limits (Updating s dto actor) _ own s _ :=
    (contract_removeCurrentRole employee current).mono
      (fun own' m op h => by
        rcases h with ⟨assignment, role, rfl, ⟨rfl, hread, n, hn, hcalls⟩ | ⟨rfl, hcalls, h⟩⟩
        · exact .reading hread (by omega)
        · rcases h with ⟨keycloakRole, hmem, hname, rfl⟩
          exact .removing hchecked hmem hname (by omega))
      fun _ _ _ h => h
  refine hremove.bind ?_ (fun own₁ m e h => by cases h.1)
  intro own₁ m₁ _ h
  rcases h with ⟨_, h₁, hremoved⟩
  have hlen₁ := h₁.calls
  -- `assignRealmRoleToUser`: the old role is gone from here on.
  have hassign : Contract limits (Updating s dto actor) _ own₁ m₁ _ :=
    (contract_assignRealmRoleToUser employee.keycloakUserId newRole.keycloakRoleName).mono
      (fun own' m op h => by
        rcases h with ⟨rfl, hread, n, hn, hcalls⟩ | ⟨rfl, hcalls, hop⟩
        · exact .assigning hchecked hremoved (.inl hread) (by omega)
        · exact .assigning hchecked hremoved (.inr hop) (by omega))
      fun _ _ _ h => h
  refine hassign.bind ?_ (fun own₂ m e h => by cases h.1)
  intro own₂ m₂ _ h
  rcases h with ⟨_, h₂, hassigned⟩
  have hlen₂ := h₂.calls
  -- `storeAssignment`, behind both changes of the realm.
  have hstore : Contract limits (Updating s dto actor) _ own₂ m₂ _ :=
    (contract_storeAssignment employee newRole actor current).mono
      (fun own' m op h => by
        rcases h with ⟨rfl, hlocal, hcalls⟩
        exact .storing hchecked hremoved hassigned hlocal (by omega))
      fun _ _ _ h => h
  refine hstore.bind ?_ (fun own₃ m e h => by rcases h with ⟨assignment, hr, _⟩; cases hr)
  intro own₃ m₃ assignment h
  rcases h with ⟨_, hr, h₃, hstored⟩
  cases hr
  have hlen₃ := h₃.calls
  have hchanged : RoleChanged s dto actor employee newRole current m₁ m₂ assignment m₃ :=
    ⟨hchecked, hremoved, hassigned, hstored⟩
  have hpublished : published own₃ = [] := by
    rw [h₃.quiet, h₂.quiet, h₁.quiet, hquiet]
  -- The event goes out once the row is there.
  refine (contract_publishAccount employee assignment newRole actor.sub).mono ?_ ?_
  · intro own' m op h
    rcases h with ⟨rfl, hread, hle⟩
    exact .stored hchanged hread (by omega)
  · intro own' m r h
    rcases h with ⟨rfl, hr⟩
    refine ⟨m₁, m₂, assignment, hchanged, ?_⟩
    cases r with
    | ok account => simpa [hpublished] using hr.1
    | error e => exact hr

/-- All the ways `updateRole` can end when every call is answered: nothing has been changed, or
everything, and then the event is missing only if the new role cannot be shown. -/
def UpdateRoleEnd (s : Store) (dto : UpdateEmployeeRoleDto) (actor : Actor) (own : Own) (m : Store)
    (r : Except HttpError EmployeeAccount) : Prop :=
  (m = s ∧ published own = [] ∧ ∃ e, r = .error e) ∨
    ∃ employee newRole current m₁ m₂ assignment,
      RoleChanged s dto actor employee newRole current m₁ m₂ assignment m ∧
        match r with
        | .ok _ => published own = [EmployeesService.synced employee newRole]
        | .error _ => ¬ Showable m newRole.id

theorem contract_updateRole (dto : UpdateEmployeeRoleDto) (actor : Actor) :
    Contract limits (Updating s dto actor) (UpdateRoleEnd s dto actor) [] s
      (EmployeesService.updateRole dto actor) := by
  unfold EmployeesService.updateRole
  have hreads : readCalls actor = checkCalls actor + 2 := rfl
  -- Whatever throws before the role is changed has published nothing.
  have hquit : ∀ own e, published own = [] → UpdateRoleEnd s dto actor own s (.error e) :=
    fun own e hown => .inl ⟨rfl, hown, e, rfl⟩
  unfold EmployeesService.assertCanManageEmployees
  by_cases hmanager : isEmployeeManager actor = true
  swap
  · rw [if_neg hmanager]
    exact hquit _ _ rfl
  rw [if_pos hmanager]
  have h₀ := Longer.refl []
  refine contract_read h₀ rfl rfl (.reading rfl (by simp)) ?_
  intro ch found own₁ h₁ hfound
  have hlen₁ : own₁.length = 1 := by simpa using h₁.calls
  cases (found : Option Employee) with
  | none => exact hquit _ _ h₁.quiet
  | some employee =>
      rcases findActiveEmployee_some hfound with ⟨hmem, hid, hactive, hlive⟩
      -- `assignableRole` only reads.
      have hcheck : Contract limits (Updating s dto actor) _ own₁ s _ :=
        (contract_assignableRole actor dto.roleId).mono
          (fun own' m op h => by
            rcases h with ⟨rfl, hread, n, hn, hcalls⟩
            exact .reading hread (by omega))
          fun _ _ _ h => h
      refine hcheck.bind ?_ ?_
      · intro own₂ m newRole h
        rcases h with ⟨rfl, h₂, hassignable⟩
        have hlen₂ := h₂.calls
        have hall := h₁.trans h₂
        -- The row of the current role is read, and the change is checked against it.
        refine contract_read hall rfl rfl (.reading rfl (by omega)) ?_
        intro ch' current own₃ h₃ hcurrent
        have hread : Current.ReadFrom current m employee.id := findAssignment_ok hcurrent
        cases hchange : EmployeesService.assertChangeable actor newRole current with
        | error e => exact hquit _ _ h₃.quiet
        | ok _ =>
            have hchecked : Checked m dto actor employee newRole current :=
              ⟨hmanager, hmem, hid, hactive, hlive, hassignable, hread, hchange⟩
            have hsum : 0 + 1 + checkCalls actor + 1 = readCalls actor := by omega
            rw [hsum] at h₃
            refine (contract_changeRole hchecked h₃).mono (fun _ _ _ h => h) ?_
            intro own' m' r h
            rcases h with ⟨m₁, m₂, assignment, hchanged, hr⟩
            exact .inr ⟨employee, newRole, current, m₁, m₂, assignment, hchanged, hr⟩
      · intro own₂ m e h
        rcases h with ⟨rfl, ⟨n, h₂⟩, _⟩
        exact hquit _ _ (h₂.quiet.trans h₁.quiet)

end Contracts

end Rbac
end IdentityBillpay
