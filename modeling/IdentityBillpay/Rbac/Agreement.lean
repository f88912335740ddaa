import IdentityBillpay.Rbac.Assignments

/-!
# Agreement — an employee's assignment and its Keycloak roles name the same role

* `Agrees` — the one assignment of an employee, and the managed roles of its Keycloak user;
* `RealmChange.holds_assigned`, `RealmChange.holds_unassigned` — what a change does to who holds
  which role;
* `Agrees.role_eq`, `RoleChanged.agrees` — where agreement ends, and where it is reached again.
-/

namespace IdentityBillpay
namespace Rbac

open Async Keycloak
open Bbps (Actor)

/-- Every role has a Keycloak role of its own. -/
def Store.OwnNames (s : Store) : Prop :=
  ∀ role ∈ s.roles, ∀ role' ∈ s.roles, role.keycloakRoleName = role'.keycloakRoleName → role = role'

instance (s : Store) : Decidable s.OwnNames :=
  inferInstanceAs (Decidable (∀ role ∈ s.roles, ∀ role' ∈ s.roles, _ → _))

/-- The employee has one assignment, it is to this role, and of the Keycloak roles that belong to a
role of the table its user holds exactly the one of this role. -/
structure Agrees (s : Store) (employee : Employee) (role : Role) : Prop where
  mem : role ∈ s.roles
  live : role.isLive = true
  assignment : ∃ a ∈ s.employeeRoles, a.employeeId = employee.id ∧ a.roleId = role.id ∧
    ∀ a' ∈ s.employeeRoles, a'.employeeId = employee.id → a' = a
  user : ∃ u ∈ s.realm.users, u.id = employee.keycloakUserId
  managed : ∀ role' ∈ s.roles,
    (s.realm.Holds employee.keycloakUserId role'.keycloakRoleName ↔
      role'.keycloakRoleName = role.keycloakRoleName)

section Agreeing

variable {s m : Store} {employee : Employee} {held role : Role}

theorem Agrees.holds (h : Agrees s employee held) :
    s.realm.Holds employee.keycloakUserId held.keycloakRoleName :=
  (h.managed held h.mem).2 rfl

theorem Agrees.assigned (h : Agrees s employee held) : Assigned s employee held :=
  ⟨h.mem, h.live, h.assignment⟩

/-- As long as the assignment stays, there is one role to agree on. -/
theorem Agrees.role_eq (h : Agrees s employee held) (hroles : m.roles = s.roles)
    (hassignments : m.employeeRoles = s.employeeRoles) (hm : Agrees m employee role) :
    role = held := by
  have hstill : Assigned m employee held :=
    h.assigned.others hroles fun a _ => by rw [hassignments]
  exact hstill.role_eq hm.assigned

/-- So agreement ends where the Keycloak role is missing. -/
theorem Agrees.not_of_missing (h : Agrees s employee held) (hroles : m.roles = s.roles)
    (hassignments : m.employeeRoles = s.employeeRoles)
    (hmissing : ¬ m.realm.Holds employee.keycloakUserId held.keycloakRoleName) :
    ¬ ∃ role, Agrees m employee role := by
  intro hagrees
  rcases hagrees with ⟨role, hrole⟩
  have hsame : role = held := h.role_eq hroles hassignments hrole
  subst hsame
  exact hmissing hrole.holds

/-- What keeps an agreement: the rows of the employee, what its user holds, and the held role up to
columns that do not identify it. A role that is added belongs to no role of its user. -/
theorem Agrees.keep {held' : Role} (h : Agrees s employee held) (hmem : held' ∈ m.roles)
    (hid : held'.id = held.id) (hname : held'.keycloakRoleName = held.keycloakRoleName)
    (hlive : held'.isLive = true)
    (hrows : ∀ a, a.employeeId = employee.id → (a ∈ m.employeeRoles ↔ a ∈ s.employeeRoles))
    (huser : ∃ u ∈ m.realm.users, u.id = employee.keycloakUserId)
    (hholds : ∀ name, m.realm.Holds employee.keycloakUserId name ↔
      s.realm.Holds employee.keycloakUserId name)
    (hroles : ∀ role ∈ m.roles,
      (∃ old ∈ s.roles, old.keycloakRoleName = role.keycloakRoleName) ∨
        (¬ s.realm.Holds employee.keycloakUserId role.keycloakRoleName ∧
          role.keycloakRoleName ≠ held.keycloakRoleName)) :
    Agrees m employee held' := by
  rcases h.assignment with ⟨a, ha, hemployee, hrole, honly⟩
  refine ⟨hmem, hlive, ?_, huser, fun role hmem' => ?_⟩
  · refine ⟨a, (hrows a hemployee).2 ha, hemployee, hrole.trans hid.symm, fun a' ha' hemployee' => ?_⟩
    exact honly a' ((hrows a' hemployee').1 ha') hemployee'
  · rw [hholds, hname]
    rcases hroles role hmem' with ⟨old, hold, hkeycloak⟩ | ⟨hno, hother⟩
    · rw [← hkeycloak]
      exact h.managed old hold
    · exact iff_of_false hno hother

end Agreeing

/-! ## Changes of the realm -/

section Realm

variable {s m : Store} {userId userId' roleName name : String}
  {change : Keycloak.Role → KeycloakUser → KeycloakUser}

theorem RealmChange.holds_assigned (h : RealmChange s userId roleName KeycloakUser.assigned m)
    (hsound : s.realm.Sound) :
    m.realm.Holds userId' name ↔ s.realm.Holds userId' name ∨ (userId' = userId ∧ name = roleName) := by
  rcases h with ⟨role, realm, hrole, rfl, hwith, rfl⟩
  exact Keycloak.holds_assigned hwith hsound hrole

theorem RealmChange.sound_assigned (h : RealmChange s userId roleName KeycloakUser.assigned m)
    (hsound : s.realm.Sound) : m.realm.Sound := by
  rcases h with ⟨role, realm, hrole, rfl, hwith, rfl⟩
  exact Keycloak.sound_assigned hwith hsound hrole

theorem RealmChange.user_assigned (h : RealmChange s userId roleName KeycloakUser.assigned m)
    (huser : ∃ u ∈ s.realm.users, u.id = userId') : ∃ u ∈ m.realm.users, u.id = userId' := by
  rcases h with ⟨role, realm, hrole, rfl, hwith, rfl⟩
  exact hwith.exists_id (fun _ => rfl) huser

theorem RealmChange.holds_unassigned (h : RealmChange s userId roleName KeycloakUser.unassigned m)
    (hsound : s.realm.Sound) :
    m.realm.Holds userId' name ↔
      s.realm.Holds userId' name ∧ ¬ (userId' = userId ∧ name = roleName) := by
  rcases h with ⟨role, realm, hrole, rfl, hwith, rfl⟩
  exact Keycloak.holds_unassigned hwith hsound hrole

theorem RealmChange.sound_unassigned (h : RealmChange s userId roleName KeycloakUser.unassigned m)
    (hsound : s.realm.Sound) : m.realm.Sound := by
  rcases h with ⟨role, realm, hrole, rfl, hwith, rfl⟩
  exact Keycloak.sound_unassigned hwith hsound

theorem RealmChange.user_unassigned (h : RealmChange s userId roleName KeycloakUser.unassigned m)
    (huser : ∃ u ∈ s.realm.users, u.id = userId') : ∃ u ∈ m.realm.users, u.id = userId' := by
  rcases h with ⟨role, realm, hrole, rfl, hwith, rfl⟩
  exact hwith.exists_id (fun _ => rfl) huser

end Realm

/-! ## A change of the role -/

section Changing

variable {s : Store} {dto : UpdateEmployeeRoleDto} {actor : Actor} {employee : Employee}
  {held newRole : Role} {current : Current}

/-- The new role is another one than the one held. -/
theorem Agrees.newRole_ne (h : Agrees s employee held)
    (hchecked : Checked s dto actor employee newRole current) : newRole ≠ held := by
  rcases h.assigned.readFrom hchecked.read with ⟨a, _, rfl, _, hrole, _⟩
  have hchange := hchecked.changeable
  intro hsame
  have hconflict : a.roleId = newRole.id := hsame ▸ hrole
  cases hmanage : EmployeesService.assertActorCanManageEmployee actor held.name with
  | error e =>
      simp [EmployeesService.assertChangeable, hmanage, Bind.bind, Except.bind] at hchange
  | ok u =>
      simp [EmployeesService.assertChangeable, hmanage, hconflict, Bind.bind, Except.bind] at hchange

/-- When everything has been changed, assignment and Keycloak agree on the new role. -/
theorem RoleChanged.agrees {m₁ m₂ s' : Store} {assignment : EmployeeUserRole}
    (h : RoleChanged s dto actor employee newRole current m₁ m₂ assignment s')
    (hagrees : Agrees s employee held) (hsound : s.realm.Sound) : Agrees s' employee newRole := by
  have hnew : Assigned s' employee newRole := h.assigned_new hagrees.assigned
  have hroles : s'.roles = s.roles := by
    rcases h.written with ⟨t, r, rfl, _⟩
    rfl
  rcases hagrees.assigned.readFrom h.checked.read with ⟨a, _, rfl, _⟩
  have hremoved : RealmChange s employee.keycloakUserId held.keycloakRoleName
      KeycloakUser.unassigned m₁ := h.removed
  have hsound₁ : m₁.realm.Sound := hremoved.sound_unassigned hsound
  have hrealm : s'.realm = m₂.realm := by
    rcases h.stored with ⟨_, t, rfl, _⟩
    rfl
  refine ⟨hnew.mem, hnew.live, hnew.assignment, ?_, ?_⟩
  · rw [hrealm]
    exact h.assigned.user_assigned (hremoved.user_unassigned hagrees.user)
  · intro role hrole
    have hbefore := hagrees.managed role (hroles ▸ hrole)
    rw [hrealm]
    -- The old name is out, the new one is in, and nothing else moves.
    calc
      m₂.realm.Holds employee.keycloakUserId role.keycloakRoleName
          ↔ m₁.realm.Holds employee.keycloakUserId role.keycloakRoleName ∨
              (employee.keycloakUserId = employee.keycloakUserId ∧
                role.keycloakRoleName = newRole.keycloakRoleName) :=
            h.assigned.holds_assigned hsound₁
      _ ↔ (s.realm.Holds employee.keycloakUserId role.keycloakRoleName ∧
              ¬ (employee.keycloakUserId = employee.keycloakUserId ∧
                role.keycloakRoleName = held.keycloakRoleName)) ∨
            (employee.keycloakUserId = employee.keycloakUserId ∧
              role.keycloakRoleName = newRole.keycloakRoleName) :=
            or_congr (hremoved.holds_unassigned hsound) Iff.rfl
      _ ↔ role.keycloakRoleName = newRole.keycloakRoleName := by
            rw [hbefore]
            simp

end Changing

/-! ## A bank -/

def bankRole (id name : String) : Role where
  id := id
  name := name
  displayName := name
  description := none
  keycloakRoleId := "kc-" ++ id
  keycloakRoleName := name
  dutyType := resolveRoleDutyType name
  isActive := true
  createdAt := 0
  updatedAt := 0
  deletedAt := none

def realmRole (id name : String) : Keycloak.Role := ⟨"kc-" ++ id, name, ""⟩

def alice : Employee where
  id := "e-1"
  keycloakUserId := "u-1"
  username := "alice"
  email := "alice@bank.example"
  firstName := "Alice"
  lastName := "Rao"
  employeeCode := none
  createdByKeycloakUserId := "root"
  isActive := true
  createdAt := 0
  deletedAt := none

def aliceUser (roles : List Keycloak.Role) : KeycloakUser where
  username := "alice"
  email := "alice@bank.example"
  firstName := "Alice"
  lastName := "Rao"
  enabled := true
  emailVerified := false
  id := "u-1"
  password := some "secret"
  realmRoles := roles

/-- A teller, and the roles that she may be given. -/
def bankStore : Store where
  roles := .ofRows _ _ [bankRole "r-1" "TELLER", bankRole "r-2" "BANK_MAKER",
    bankRole "r-3" "BANK_CHECKER"]
  permissions := .empty
  rolePermissions := .empty
  delegatedRoles := .empty
  employees := .ofRows _ _ _ [alice]
  employeeRoles := .ofRows _ _ [⟨"a-1", "e-1", "r-1", "root", 0⟩]
  adminUsers := .empty
  realm :=
    { users := .ofRows _ _ [aliceUser [realmRole "r-1" "TELLER"]]
      roles := .ofRows _ _ [realmRole "r-1" "TELLER", realmRole "r-2" "BANK_MAKER",
        realmRole "r-3" "BANK_CHECKER"] }

def superadmin : Actor := ⟨some "root", some ["SUPERADMIN"], none⟩

/-- A call that is answered. -/
def answered (freshId : String) : Choice where
  fails := false
  lost := false
  message := ""
  refusal := none
  freshId := freshId
  location := none
  pick := 0
  freshIds := fun n => freshId ++ toString n
  now := 0

theorem bankStore_agrees : Agrees bankStore alice (bankRole "r-1" "TELLER") :=
  ⟨by decide, rfl, by decide, by decide, by decide⟩

end Rbac
end IdentityBillpay
