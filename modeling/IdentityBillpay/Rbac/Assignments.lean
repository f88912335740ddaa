import IdentityBillpay.Rbac.Creations
import IdentityBillpay.Rbac.RoleChanges

/-!
# Assignments — the role that the tables name for an employee

* `Assigned` — the one assignment of an employee;
* `RoleChanged.written`, `EmployeeCreated.written` — what the two requests on employees leave in the
  tables;
* `Assigned.others`, `RoleChanged.assigned`, `EmployeeCreated.assigned` — who has which role
  afterwards.
-/

namespace IdentityBillpay
namespace Rbac

open Async Keycloak
open Bbps (Actor)

/-- The employee has one assignment, and it is to this role. -/
structure Assigned (s : Store) (employee : Employee) (role : Role) : Prop where
  mem : role ∈ s.roles
  live : role.isLive = true
  assignment : ∃ a ∈ s.employeeRoles, a.employeeId = employee.id ∧ a.roleId = role.id ∧
    ∀ a' ∈ s.employeeRoles, a'.employeeId = employee.id → a' = a

instance (s : Store) (employee : Employee) (role : Role) : Decidable (Assigned s employee role) :=
  decidable_of_iff
    (role ∈ s.roles ∧ role.isLive = true ∧
      ∃ a ∈ s.employeeRoles, a.employeeId = employee.id ∧ a.roleId = role.id ∧
        ∀ a' ∈ s.employeeRoles, a'.employeeId = employee.id → a' = a)
    ⟨fun h => ⟨h.1, h.2.1, h.2.2⟩, fun h => ⟨h.mem, h.live, h.assignment⟩⟩

section Assigned

variable {s m : Store} {employee : Employee} {held role : Role}

theorem Assigned.role_eq (h : Assigned s employee held) (h' : Assigned s employee role) :
    role = held := by
  rcases h.assignment with ⟨a, _, _, hrole, honly⟩
  rcases h'.assignment with ⟨a', ha', hemployee', hrole', _⟩
  have hsame : a' = a := honly a' ha' hemployee'
  exact Sql.Table.eq_of_id h'.mem h.mem (hrole'.symm.trans (hsame ▸ hrole))

/-- The roles and the rows of the employee are all that matters. -/
theorem Assigned.others (h : Assigned s employee role) (hroles : m.roles = s.roles)
    (hrows : ∀ a, a.employeeId = employee.id → (a ∈ m.employeeRoles ↔ a ∈ s.employeeRoles)) :
    Assigned m employee role := by
  rcases h.assignment with ⟨a, ha, hemployee, hrole, honly⟩
  refine ⟨hroles ▸ h.mem, h.live, a, (hrows a hemployee).2 ha, hemployee, hrole, ?_⟩
  intro a' ha' hemployee'
  exact honly a' ((hrows a' hemployee').1 ha') hemployee'

/-- What is read of an employee with one assignment. -/
theorem Assigned.readFrom {current : Current} (h : Assigned s employee held)
    (hread : current.ReadFrom s employee.id) :
    ∃ a ∈ s.employeeRoles, current = some (a, some held) ∧ a.employeeId = employee.id ∧
      a.roleId = held.id ∧ ∀ a' ∈ s.employeeRoles, a'.employeeId = employee.id → a' = a := by
  rcases h.assignment with ⟨a, ha, hemployee, hrole, honly⟩
  cases current with
  | none => exact absurd hemployee (hread a ha)
  | some read =>
      rcases read with ⟨a', role⟩
      rcases hread with ⟨ha', hemployee', hassigned⟩
      have hsame : a' = a := honly a' ha' hemployee'
      have hheld : role = some held :=
        hassigned.trans (assignedRole_eq h.mem (hsame ▸ hrole.symm) h.live)
      rw [hsame, hheld]
      exact ⟨a, ha, rfl, hemployee, hrole, honly⟩

end Assigned

/-- A change of the realm leaves the tables as they were. -/
theorem RealmChange.tables {s m : Store} {userId roleName : String}
    {change : Keycloak.Role → KeycloakUser → KeycloakUser}
    (h : RealmChange s userId roleName change m) : m = { s with realm := m.realm } := by
  rcases h with ⟨role, realm, _, _, _, rfl⟩
  rfl

/-! ## A change of the role -/

section Changing

variable {s m₁ m₂ s' : Store} {dto : UpdateEmployeeRoleDto} {actor : Actor} {employee : Employee}
  {held newRole : Role} {current : Current} {assignment : EmployeeUserRole}

theorem Removed.tables (h : Removed s employee current m₁) : m₁ = { s with realm := m₁.realm } := by
  unfold Removed at h
  split at h
  · exact h.tables
  · rw [h]

/-- One row is written, over the one that was read or as a new one. -/
theorem RoleChanged.written
    (h : RoleChanged s dto actor employee newRole current m₁ m₂ assignment s') :
    ∃ t r, s' = { s with employeeRoles := t, realm := r } ∧
      ∀ a, a ∈ t ↔ a = assignment ∨ (a ∈ s.employeeRoles ∧ a.id ≠ assignment.id) := by
  have htables : m₂ = { s with realm := m₂.realm } := by
    rw [h.assigned.tables, h.removed.tables]
  have hrows : m₂.employeeRoles = s.employeeRoles := by rw [htables]
  have hstored := h.stored
  cases current with
  | none =>
      rcases hstored with ⟨_, _, t, rfl, hfresh, ht⟩
      refine ⟨t, m₂.realm, by rw [htables], fun a => ?_⟩
      rw [ht, or_comm, hrows]
      refine or_congr_right (and_iff_left_of_imp fun ha => ?_).symm
      exact hfresh a (hrows ▸ ha)
  | some read =>
      rcases hstored with ⟨_, t, rfl, ht⟩
      refine ⟨t, m₂.realm, by rw [htables], fun a => ?_⟩
      rw [ht, hrows]

/-- The row is the employee's, and takes no row from another one. -/
theorem RoleChanged.row
    (h : RoleChanged s dto actor employee newRole current m₁ m₂ assignment s') :
    assignment.employeeId = employee.id ∧ assignment.roleId = newRole.id ∧
      ∀ a ∈ s.employeeRoles, a.id = assignment.id → a.employeeId = employee.id := by
  have htables : m₂ = { s with realm := m₂.realm } := by
    rw [h.assigned.tables, h.removed.tables]
  have hrows : m₂.employeeRoles = s.employeeRoles := by rw [htables]
  have hread := h.checked.read
  have hstored := h.stored
  cases current with
  | none =>
      rcases hstored with ⟨hemployee, hrole, _, _, hfresh, _⟩
      exact ⟨hemployee, hrole, fun a ha hid => absurd hid (hfresh a (hrows ▸ ha))⟩
  | some read =>
      rcases read with ⟨old, role⟩
      rcases hread with ⟨hold, hemployee, _⟩
      rcases hstored with ⟨rfl, _⟩
      refine ⟨hemployee, rfl, fun a ha hid => ?_⟩
      have hsame : a = old := Sql.Table.eq_of_id ha hold hid
      rw [hsame, hemployee]

theorem RoleChanged.rows_others
    (h : RoleChanged s dto actor employee newRole current m₁ m₂ assignment s')
    {a : EmployeeUserRole} (ha : a.employeeId ≠ employee.id) :
    a ∈ s'.employeeRoles ↔ a ∈ s.employeeRoles := by
  rcases h.row with ⟨hemployee, _, hid⟩
  rcases h.written with ⟨t, r, rfl, ht⟩
  refine (ht a).trans ⟨fun hmem => ?_, fun hmem => .inr ⟨hmem, fun hsame => ha (hid a hmem hsame)⟩⟩
  rcases hmem with rfl | hmem
  · exact absurd hemployee ha
  · exact hmem.1

/-- The employee has the new role, and no other. -/
theorem RoleChanged.assigned_new
    (h : RoleChanged s dto actor employee newRole current m₁ m₂ assignment s')
    (hheld : Assigned s employee held) : Assigned s' employee newRole := by
  rcases hheld.readFrom h.checked.read with ⟨a, ha, rfl, hemployee, _, honly⟩
  have hid : assignment.id = a.id := by
    rw [h.stored.1]
    rfl
  rcases h.row with ⟨hrowEmployee, hrowRole, _⟩
  have hnew := h.checked.assignable
  rcases h.written with ⟨t, r, rfl, ht⟩
  refine ⟨hnew.mem, hnew.live, assignment, (ht _).2 (.inl rfl), hrowEmployee, hrowRole, ?_⟩
  intro a' ha' hemployee'
  rcases (ht a').1 ha' with hsame | ⟨hold, hother⟩
  · exact hsame
  · -- The employee had no other row.
    have hsame : a' = a := honly a' hold hemployee'
    exact absurd (hsame ▸ hid.symm) hother

end Changing

/-! ## A new employee -/

section Creating

variable {s m₁ m₂ m₃ s' : Store} {dto : CreateEmployeeDto} {actor : Actor} {role : Role}
  {employee : Employee} {assignment : EmployeeUserRole}

theorem EmployeeCreated.written
    (h : EmployeeCreated s dto actor role m₁ m₂ m₃ employee assignment s') :
    ∃ t t' r, s' = { s with employees := t, employeeRoles := t', realm := r } ∧
      (∀ e, e ∈ t ↔ e ∈ s.employees ∨ e = employee) ∧
      ∀ a, a ∈ t' ↔ a ∈ s.employeeRoles ∨ a = assignment := by
  rcases h.user with ⟨realm, _, rfl⟩
  have htables := h.assigned.tables
  have hemployees : m₂.employees = s.employees := by rw [htables]
  have hrows : m₂.employeeRoles = s.employeeRoles := by rw [htables]
  rcases h.row.table with ⟨t, rfl, ht⟩
  rcases h.mapping.table with ⟨t', rfl, ht'⟩
  refine ⟨t, t', m₂.realm, by rw [htables], fun e => ?_, fun a => ?_⟩
  · rw [ht, hemployees]
  · rw [ht']
    change a ∈ m₂.employeeRoles ∨ _ ↔ _
    rw [hrows]

/-- Its ids are new. -/
theorem EmployeeCreated.fresh
    (h : EmployeeCreated s dto actor role m₁ m₂ m₃ employee assignment s') :
    ∀ e ∈ s.employees, e.id ≠ employee.id ∧ e.keycloakUserId ≠ employee.keycloakUserId := by
  intro e he
  rcases h.user with ⟨realm, _, rfl⟩
  have hemployees : m₂.employees = s.employees := by rw [h.assigned.tables]
  have hfresh := h.row.fresh e (hemployees ▸ he)
  exact ⟨hfresh.1, hfresh.2.2⟩

theorem EmployeeCreated.rows_others
    (h : EmployeeCreated s dto actor role m₁ m₂ m₃ employee assignment s')
    {a : EmployeeUserRole} (ha : a.employeeId ≠ employee.id) :
    a ∈ s'.employeeRoles ↔ a ∈ s.employeeRoles := by
  have hemployee := h.mapping.employeeId
  rcases h.written with ⟨t, t', r, rfl, _, ht'⟩
  refine (ht' a).trans (or_iff_left fun hsame => ha ?_)
  rw [hsame, hemployee]

theorem EmployeeCreated.assigned_new
    (h : EmployeeCreated s dto actor role m₁ m₂ m₃ employee assignment s')
    (howned : ∀ a ∈ s.employeeRoles, ∃ e ∈ s.employees, e.id = a.employeeId) :
    Assigned s' employee role := by
  have hfresh := h.fresh
  have hmapping := h.mapping
  have hnew := h.assignable
  rcases h.written with ⟨t, t', r, rfl, _, ht'⟩
  refine ⟨hnew.mem, hnew.live, assignment, (ht' _).2 (.inr rfl), hmapping.employeeId,
    hmapping.roleId, ?_⟩
  intro a ha hemployee
  rcases (ht' a).1 ha with hold | hsame
  · -- The id is new, so it had no row yet.
    rcases howned a hold with ⟨e, he, hid⟩
    exact absurd (hid.trans hemployee) (hfresh e he).1
  · exact hsame

/-- Assignments still belong to employees. -/
theorem EmployeeCreated.owned
    (h : EmployeeCreated s dto actor role m₁ m₂ m₃ employee assignment s')
    (howned : ∀ a ∈ s.employeeRoles, ∃ e ∈ s.employees, e.id = a.employeeId) :
    ∀ a ∈ s'.employeeRoles, ∃ e ∈ s'.employees, e.id = a.employeeId := by
  have hmapping := h.mapping
  rcases h.written with ⟨t, t', r, rfl, ht, ht'⟩
  intro a ha
  rcases (ht' a).1 ha with hold | rfl
  · rcases howned a hold with ⟨e, he, hid⟩
    exact ⟨e, (ht e).2 (.inl he), hid⟩
  · exact ⟨employee, (ht employee).2 (.inr rfl), hmapping.employeeId.symm⟩

end Creating

end Rbac
end IdentityBillpay
