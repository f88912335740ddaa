import Mathlib.Logic.Equiv.Basic
import Mathlib.Data.Set.Image
import IdentityBillpay.Rbac.Store

/-!
# Contents — what a store says, whatever ids and times have been generated

Ids that are generated are renamed by a permutation for each kind of object; ids that nobody refers
to, and times, are blanked out.

* `Renaming`, `Contents` — the rows of a store as sets, renamed and blanked out;
* `Alike` — stores with the same contents, up to a renaming;
* `Unused` — an id that no row of a store refers to, which a renaming may swap with another one.
-/

namespace IdentityBillpay
namespace Rbac

open Js

/-- How ids are renamed. -/
structure Renaming where
  user : Equiv.Perm String
  employee : Equiv.Perm String
  role : Equiv.Perm String
  realmRole : Equiv.Perm String

def Renaming.same : Renaming := ⟨.refl _, .refl _, .refl _, .refl _⟩

section Rows

variable (ρ : Renaming)

def realmRoleContent (role : Keycloak.Role) : Keycloak.Role :=
  { role with id := ρ.realmRole role.id }

def userContent (u : Keycloak.KeycloakUser) : Keycloak.KeycloakUser :=
  { u with id := ρ.user u.id, realmRoles := u.realmRoles.map (realmRoleContent ρ) }

def roleContent (role : Role) : Role :=
  { role with
    id := ρ.role role.id
    keycloakRoleId := ρ.realmRole role.keycloakRoleId
    createdAt := 0
    updatedAt := 0 }

def mappingContent (m : RolePermission) : RolePermission :=
  { m with roleId := ρ.role m.roleId }

def delegationContent (d : DelegatedRole) : DelegatedRole :=
  { d with id := "", roleId := ρ.role d.roleId }

def employeeContent (e : Employee) : Employee :=
  { e with id := ρ.employee e.id, keycloakUserId := ρ.user e.keycloakUserId, createdAt := 0 }

def assignmentContent (a : EmployeeUserRole) : EmployeeUserRole :=
  { a with id := "", employeeId := ρ.employee a.employeeId, roleId := ρ.role a.roleId, assignedAt := 0 }

end Rows

@[ext] structure Contents where
  users : Set Keycloak.KeycloakUser
  realmRoles : Set Keycloak.Role
  roles : Set Role
  permissions : Set Permission
  rolePermissions : Set RolePermission
  delegatedRoles : Set DelegatedRole
  employees : Set Employee
  employeeRoles : Set EmployeeUserRole
  adminUsers : Set AdminUser

def Store.contents (s : Store) (ρ : Renaming) : Contents where
  users := userContent ρ '' {u | u ∈ s.realm.users}
  realmRoles := realmRoleContent ρ '' {role | role ∈ s.realm.roles}
  roles := roleContent ρ '' {role | role ∈ s.roles}
  permissions := {p | p ∈ s.permissions}
  rolePermissions := mappingContent ρ '' {m | m ∈ s.rolePermissions}
  delegatedRoles := delegationContent ρ '' {d | d ∈ s.delegatedRoles}
  employees := employeeContent ρ '' {e | e ∈ s.employees}
  employeeRoles := assignmentContent ρ '' {a | a ∈ s.employeeRoles}
  adminUsers := {a | a ∈ s.adminUsers}

/-- The stores differ in generated ids and in times at most. -/
def Alike (s s' : Store) : Prop :=
  ∃ ρ : Renaming, s.contents ρ = s'.contents .same

/-! ## Ids that are not in use -/

/-- No row has the id, and none refers to it. -/
structure Unused (s : Store) (id : String) : Prop where
  users : ∀ u ∈ s.realm.users, u.id ≠ id ∧ ∀ role ∈ u.realmRoles, role.id ≠ id
  realmRoles : ∀ role ∈ s.realm.roles, role.id ≠ id
  roles : ∀ role ∈ s.roles, role.id ≠ id ∧ role.keycloakRoleId ≠ id
  mappings : ∀ m ∈ s.rolePermissions, m.roleId ≠ id
  delegations : ∀ d ∈ s.delegatedRoles, d.id ≠ id ∧ d.roleId ≠ id
  employees : ∀ e ∈ s.employees, e.id ≠ id ∧ e.keycloakUserId ≠ id
  assignments : ∀ a ∈ s.employeeRoles, a.id ≠ id ∧ a.employeeId ≠ id ∧ a.roleId ≠ id

/-- The permutations exchange ids that are not in use. -/
structure Renaming.Swaps (ρ : Renaming) (s : Store) : Prop where
  user : ∀ id, (¬ Unused s id) → ρ.user id = id
  employee : ∀ id, (¬ Unused s id) → ρ.employee id = id
  role : ∀ id, (¬ Unused s id) → ρ.role id = id
  realmRole : ∀ id, (¬ Unused s id) → ρ.realmRole id = id

theorem swap_of_used {s : Store} {a b id : String} (ha : Unused s a) (hb : Unused s b)
    (hid : ¬ Unused s id) : Equiv.swap a b id = id := by
  refine Equiv.swap_apply_of_ne_of_ne ?_ ?_
  · rintro rfl
    exact hid ha
  · rintro rfl
    exact hid hb

section Old

variable {ρ : Renaming} {s : Store} (h : ρ.Swaps s)

include h

theorem realmRoleContent_old {role : Keycloak.Role} (hrole : role ∈ s.realm.roles) :
    realmRoleContent ρ role = realmRoleContent .same role := by
  have hid : ¬ Unused s role.id := fun hunused => hunused.realmRoles role hrole rfl
  simp [realmRoleContent, Renaming.same, h.realmRole _ hid]

theorem userContent_old {u : Keycloak.KeycloakUser} (hu : u ∈ s.realm.users) :
    userContent ρ u = userContent .same u := by
  have hid : ¬ Unused s u.id := fun hunused => (hunused.users u hu).1 rfl
  have hroles : u.realmRoles.map (realmRoleContent ρ) = u.realmRoles.map (realmRoleContent .same) := by
    refine List.map_congr_left fun role hrole => ?_
    have hrid : ¬ Unused s role.id := fun hunused => (hunused.users u hu).2 role hrole rfl
    simp [realmRoleContent, Renaming.same, h.realmRole _ hrid]
  simp only [userContent, hroles, h.user _ hid]
  rfl

theorem roleContent_old {role : Role} (hrole : role ∈ s.roles) :
    roleContent ρ role = roleContent .same role := by
  have hid : ¬ Unused s role.id := fun hunused => (hunused.roles role hrole).1 rfl
  have hkeycloak : ¬ Unused s role.keycloakRoleId := fun hunused => (hunused.roles role hrole).2 rfl
  simp [roleContent, Renaming.same, h.role _ hid, h.realmRole _ hkeycloak]

theorem mappingContent_old {m : RolePermission} (hm : m ∈ s.rolePermissions) :
    mappingContent ρ m = mappingContent .same m := by
  have hid : ¬ Unused s m.roleId := fun hunused => hunused.mappings m hm rfl
  simp [mappingContent, Renaming.same, h.role _ hid]

theorem delegationContent_old {d : DelegatedRole} (hd : d ∈ s.delegatedRoles) :
    delegationContent ρ d = delegationContent .same d := by
  have hid : ¬ Unused s d.roleId := fun hunused => (hunused.delegations d hd).2 rfl
  simp [delegationContent, Renaming.same, h.role _ hid]

theorem employeeContent_old {e : Employee} (he : e ∈ s.employees) :
    employeeContent ρ e = employeeContent .same e := by
  have hid : ¬ Unused s e.id := fun hunused => (hunused.employees e he).1 rfl
  have hkeycloak : ¬ Unused s e.keycloakUserId := fun hunused => (hunused.employees e he).2 rfl
  simp [employeeContent, Renaming.same, h.employee _ hid, h.user _ hkeycloak]

theorem assignmentContent_old {a : EmployeeUserRole} (ha : a ∈ s.employeeRoles) :
    assignmentContent ρ a = assignmentContent .same a := by
  have hemployee : ¬ Unused s a.employeeId := fun hunused => (hunused.assignments a ha).2.1 rfl
  have hrole : ¬ Unused s a.roleId := fun hunused => (hunused.assignments a ha).2.2 rfl
  simp [assignmentContent, Renaming.same, h.employee _ hemployee, h.role _ hrole]

end Old

/-- Two tables that add corresponding rows to the same old ones have the same contents. -/
theorem image_added {α : Type} {f g : α → α} {old added added' rows rows' : Set α}
    (hrows : ∀ x, x ∈ rows ↔ x ∈ old ∨ x ∈ added) (hrows' : ∀ x, x ∈ rows' ↔ x ∈ old ∨ x ∈ added')
    (hold : ∀ x ∈ old, f x = g x) (hadded : f '' added = g '' added') : f '' rows = g '' rows' := by
  have hunion : rows = old ∪ added := Set.ext hrows
  have hunion' : rows' = old ∪ added' := Set.ext hrows'
  calc f '' rows = f '' old ∪ f '' added := by rw [hunion, Set.image_union]
    _ = g '' old ∪ g '' added' := by rw [Set.image_congr hold, hadded]
    _ = g '' rows' := by rw [hunion', Set.image_union]

/-- The same for a single row. -/
theorem image_inserted {α : Type} {f g : α → α} {old rows rows' : Set α} {new new' : α}
    (hrows : ∀ x, x ∈ rows ↔ x ∈ old ∨ x = new) (hrows' : ∀ x, x ∈ rows' ↔ x ∈ old ∨ x = new')
    (hold : ∀ x ∈ old, f x = g x) (hnew : f new = g new') : f '' rows = g '' rows' := by
  have hone : f '' {new} = g '' {new'} := by
    rw [Set.image_singleton, Set.image_singleton, hnew]
  exact image_added hrows hrows' hold hone

end Rbac
end IdentityBillpay
