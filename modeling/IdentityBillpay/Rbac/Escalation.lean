import IdentityBillpay.Async.Serial
import IdentityBillpay.Rbac.Agreement
import IdentityBillpay.Rbac.Creations

/-!
# Escalation — what role administration can do to the levels of employees

* `RowsChanged` — what a request on employees can do to the assignments, wherever it stops;
* `Limited` — actors whose level is bounded, and what they may assign and change;
* `Contained` — the invariant of a run by such actors;
* `no_escalation` — the law.
-/

namespace IdentityBillpay
namespace Rbac

open Async Async.Program Keycloak
open Bbps (Actor extractRealmRoles)

/-! ## One request -/

/-- The assignments after a request: the new ones are to roles that the actor may assign, and those
that are gone had no role that the actor may not change. -/
structure RowsChanged (s : Store) (actor : Actor) (s' : Store) : Prop where
  roles : s'.roles = s.roles
  delegatedRoles : s'.delegatedRoles = s.delegatedRoles
  added : ∀ a ∈ s'.employeeRoles, a ∈ s.employeeRoles ∨
    (isEmployeeManager actor = true ∧ ∃ role, Assignable s actor role.id role ∧ a.roleId = role.id)
  kept : ∀ a ∈ s.employeeRoles, a ∈ s'.employeeRoles ∨
    (isEmployeeManager actor = true ∧ ∀ role, s.assignedRole a = some role →
      canManageEmployeeWithRole actor role.name = true)

section Request

variable {s m m' s' : Store} {actor : Actor} {employee : Employee} {current : Current}

theorem RowsChanged.of_same (h : SameRights s m) : RowsChanged s actor m :=
  ⟨h.roles, h.delegatedRoles, fun _ ha => .inl (h.employeeRoles ▸ ha),
    fun _ ha => .inl (h.employeeRoles.symm ▸ ha)⟩

/-- A call that fails adds no change but one of the realm. -/
theorem RowsChanged.failed (h : RowsChanged s actor m) {op : Op} {ch : Choice} {e : HttpError}
    (hperform : perform op ch m = (.error e, m')) : RowsChanged s actor m' := by
  rcases perform_error hperform with ⟨realm, rfl, _⟩
  exact ⟨h.roles, h.delegatedRoles, h.added, h.kept⟩

theorem Assignable.of_id {roleId : String} {role : Role} (h : Assignable s actor roleId role) :
    Assignable s actor role.id role := by
  rw [h.id]
  exact h

/-! ### Creating an employee -/

theorem EmployeeCreated.rowsChanged {dto : CreateEmployeeDto} {role : Role} {m₁ m₂ m₃ : Store}
    {assignment : EmployeeUserRole}
    (h : EmployeeCreated s dto actor role m₁ m₂ m₃ employee assignment s') :
    RowsChanged s actor s' := by
  rcases h.user with ⟨realm, _, rfl⟩
  rcases h.assigned with ⟨_, realm', _, _, _, rfl⟩
  rcases h.row.table with ⟨t, rfl, _⟩
  rcases h.mapping.table with ⟨t', rfl, ht'⟩
  refine ⟨rfl, rfl, ?_, ?_⟩
  · intro a ha
    rcases (ht' a).1 ha with hold | rfl
    · exact .inl hold
    · exact .inr ⟨h.manager, role, h.assignable.of_id, h.mapping.roleId⟩
  · intro a ha
    exact .inl ((ht' a).2 (.inl ha))

theorem rowsChanged_createEmployee (dto : CreateEmployeeDto) (choices : Nat → Choice) :
    RowsChanged s actor (service.answer s ⟨.createEmployee dto actor, choices⟩).state := by
  refine (contract_createEmployee dto actor).exec_state (R := RowsChanged s actor) ?_ ?_ choices
  · intro own m op hcreating ch e m' hperform
    refine RowsChanged.failed ?_ hperform
    cases hcreating with
    | reading hlen => exact .of_same ⟨rfl, rfl, rfl⟩
    | occupied hlen huser hrights => exact .of_same hrights
    | created hlen hcreated => exact hcreated.rowsChanged
  · intro own m r hend
    rcases hend with ⟨rfl, _⟩ | ⟨_, _, _, _, _, _, hcreated, _⟩
    · exact .of_same ⟨rfl, rfl, rfl⟩
    · exact hcreated.rowsChanged

/-! ### Changing a role -/

theorem Checked.canManage {dto : UpdateEmployeeRoleDto} {newRole role : Role} {a : EmployeeUserRole}
    (h : Checked s dto actor employee newRole (some (a, some role))) :
    canManageEmployeeWithRole actor role.name = true := by
  have hchange := h.changeable
  unfold EmployeesService.assertChangeable EmployeesService.assertActorCanManageEmployee at hchange
  by_cases hmanage : canManageEmployeeWithRole actor role.name = true
  · exact hmanage
  · simp [hmanage, Bind.bind, Except.bind] at hchange

theorem Removed.sameRights (h : Removed s employee current m) : SameRights s m := by
  unfold Removed at h
  split at h
  · rcases h with ⟨_, realm, _, _, _, rfl⟩
    exact ⟨rfl, rfl, rfl⟩
  · rw [h]
    exact ⟨rfl, rfl, rfl⟩

theorem SameRights.realm {userId roleName : String}
    {change : Keycloak.Role → KeycloakUser → KeycloakUser} (h : SameRights s m)
    (hchange : RealmChange m userId roleName change m') : SameRights s m' := by
  rcases hchange with ⟨_, realm, _, _, _, rfl⟩
  exact ⟨h.roles, h.delegatedRoles, h.employeeRoles⟩

theorem RoleChanged.rowsChanged {dto : UpdateEmployeeRoleDto} {newRole : Role} {m₁ m₂ : Store}
    {assignment : EmployeeUserRole}
    (h : RoleChanged s dto actor employee newRole current m₁ m₂ assignment s') :
    RowsChanged s actor s' := by
  have hrights : SameRights s m₂ := h.removed.sameRights.realm h.assigned
  have hassignable : Assignable s actor newRole.id newRole := h.checked.assignable.of_id
  have hstored := h.stored
  cases hcurrent : current with
  | none =>
      rw [hcurrent] at hstored
      rcases hstored with ⟨_, hrole, t, rfl, _, ht⟩
      refine ⟨hrights.roles, hrights.delegatedRoles, ?_, ?_⟩
      · intro a ha
        rcases (ht a).1 ha with hold | rfl
        · exact .inl (hrights.employeeRoles ▸ hold)
        · exact .inr ⟨h.checked.manager, newRole, hassignable, hrole⟩
      · intro a ha
        exact .inl ((ht a).2 (.inl (hrights.employeeRoles.symm ▸ ha)))
  | some read =>
      rcases read with ⟨old, role⟩
      rw [hcurrent] at hstored
      rcases hstored with ⟨rfl, t, rfl, ht⟩
      have hchecked := h.checked
      rw [hcurrent] at hchecked
      rcases hchecked.read with ⟨hold, _, hassigned⟩
      refine ⟨hrights.roles, hrights.delegatedRoles, ?_, ?_⟩
      · intro a ha
        rcases (ht a).1 ha with rfl | ⟨hmem, _⟩
        · exact .inr ⟨h.checked.manager, newRole, hassignable, rfl⟩
        · exact .inl (hrights.employeeRoles ▸ hmem)
      · intro a ha
        by_cases hid : a.id = old.id
        · -- The row that is overwritten; its role has been checked if there is one.
          have hsame : a = old := Sql.Table.eq_of_id ha hold hid
          refine .inr ⟨h.checked.manager, fun role' hrole' => ?_⟩
          rw [hassigned, ← hsame, hrole'] at hchecked
          exact hchecked.canManage
        · exact .inl ((ht a).2 (.inr ⟨hrights.employeeRoles.symm ▸ ha, hid⟩))

theorem rowsChanged_updateRole (dto : UpdateEmployeeRoleDto) (choices : Nat → Choice) :
    RowsChanged s actor (service.answer s ⟨.updateEmployeeRole dto actor, choices⟩).state := by
  refine (contract_updateRole dto actor).exec_state (R := RowsChanged s actor) ?_ ?_ choices
  · intro own m op hupdating ch e m' hperform
    refine RowsChanged.failed ?_ hperform
    cases hupdating with
    | reading hread hlen => exact .of_same ⟨rfl, rfl, rfl⟩
    | removing hchecked hrole hname hlen => exact .of_same ⟨rfl, rfl, rfl⟩
    | assigning hchecked hremoved hop hlen => exact .of_same hremoved.sameRights
    | storing hchecked hremoved hassigned hlocal hlen =>
        exact .of_same (hremoved.sameRights.realm hassigned)
    | stored hchanged hread hlen => exact hchanged.rowsChanged
  · intro own m r hend
    rcases hend with ⟨rfl, _⟩ | ⟨_, _, _, _, _, _, hchanged, _⟩
    · exact .of_same ⟨rfl, rfl, rfl⟩
    · exact hchanged.rowsChanged

end Request

/-! ## Levels -/

/-- The role has a level, and it is at least `M`. -/
def AtLeast (M : Nat) (roleName : String) : Prop :=
  ∃ n, resolveRoleHierarchyLevel roleName = .number n ∧ M ≤ n

/-- The role has a level, and it is below `M`. -/
def Below (M : Nat) (roleName : String) : Prop :=
  ∃ n, resolveRoleHierarchyLevel roleName = .number n ∧ n < M

theorem Below.not_atLeast {M : Nat} {name : String} (h : Below M name) : ¬ AtLeast M name := by
  rcases h with ⟨n, hn, hlt⟩
  intro hhigh
  rcases hhigh with ⟨k, hk, hle⟩
  rw [hn] at hk
  cases hk
  omega

/-- An actor who is no superadmin, and whose level is at most `M` if it may manage employees. -/
structure Limited (M : Nat) (actor : Actor) : Prop where
  notSuper : isSuperadmin actor = false
  level : isEmployeeManager actor = true → ∀ n, resolveActorHierarchyLevel actor = some n → n ≤ M

section Limited

variable {s : Store} {M : Nat} {actor : Actor} {name roleId : String} {role : Role}

/-- Levels are compared for those who are no superadmins. -/
theorem Limited.below (h : Limited M actor) (hmanager : isEmployeeManager actor = true)
    (hallowed : (isSuperadmin actor || exceeds (resolveActorHierarchyLevel actor)
      (resolveRoleHierarchyLevel name).toNumber) = true) :
    Below M name ∧ name ∉ SUPERADMIN_ROLES := by
  have hexceeds : exceeds (resolveActorHierarchyLevel actor)
      (resolveRoleHierarchyLevel name).toNumber = true := by simpa [h.notSuper] using hallowed
  rcases exceeds_iff.1 hexceeds with ⟨a, b, ha, hb, hlt⟩
  have hlevel : resolveRoleHierarchyLevel name = .number b := by
    cases hname : resolveRoleHierarchyLevel name with
    | number n =>
        rw [hname] at hb
        cases hb
        rfl
    | inherited property =>
        rw [hname] at hb
        cases hb
  have hle : a ≤ M := h.level hmanager a ha
  refine ⟨⟨b, hlevel, Nat.lt_of_lt_of_le hlt hle⟩, fun hsuper => ?_⟩
  -- A superadmin role is on the top level, and nobody is above it.
  have htop : Level.number 100 = .number b := (superadmin_level hsuper).symm.trans hlevel
  cases htop
  rcases actorLevel_attained ha with hnone | ⟨role, _, hrole⟩
  · have hdefault : resolveActorHierarchyLevel actor = some 10 := by
      unfold resolveActorHierarchyLevel
      rw [hnone]
      rfl
    rw [hdefault] at ha
    cases ha
    omega
  · have htopLevel := level_le hrole
    omega

theorem Limited.assignable (h : Limited M actor) (hmanager : isEmployeeManager actor = true)
    (hassignable : Assignable s actor roleId role) :
    (Below M role.name ∧ role.name ∉ SUPERADMIN_ROLES) ∧ ∃ d ∈ s.delegatedRoles, d.roleId = roleId ∧
      d.delegateKeycloakUserId = actor.sub.getD "" := by
  refine ⟨h.below hmanager hassignable.below, ?_⟩
  rcases hassignable.delegated with hsuper | hdelegated
  · -- Whoever is a superadmin by the realm roles alone is one.
    have hboth : isSuperadmin actor = true := by
      unfold RolesService.isSuperAdmin at hsuper
      unfold isSuperadmin extractRealmRoles
      cases hroles : actor.realmAccessRoles with
      | none => simp [hroles] at hsuper
      | some roles =>
          cases roles with
          | nil => simp [hroles] at hsuper
          | cons role roles => simpa [hroles] using hsuper
    rw [h.notSuper] at hboth
    cases hboth
  · exact hdelegated

end Limited

/-! ## Runs -/

/-- The role names that the employee holds. -/
def HoldsRole (s : Store) (employee : Employee) (name : String) : Prop :=
  ∃ a ∈ s.employeeRoles, a.employeeId = employee.id ∧
    ∃ role ∈ s.roles, role.id = a.roleId ∧ role.name = name

/-- None of the roles that the employee holds is above `M` or makes a superadmin. -/
def Modest (M : Nat) (s : Store) (employee : Employee) : Prop :=
  ∀ name, HoldsRole s employee name →
    name ∉ SUPERADMIN_ROLES ∧ ∀ n, resolveRoleHierarchyLevel name = .number n → n ≤ M

/-- An employee acts, with exactly the roles it holds at the moment; at the start these were modest. -/
def ActsItself (M : Nat) (s m : Store) (actor : Actor) : Prop :=
  ∃ employee ∈ m.employees, actor.sub = some employee.keycloakUserId ∧
    (∀ name, name ∈ extractRealmRoles actor ↔ HoldsRole m employee name) ∧ Modest M s employee

def Request.employeesActor? : Request → Option Actor
  | .createEmployee _ actor | .updateEmployeeRole _ actor => some actor
  | _ => none

/-- A request on employees by somebody who is no superadmin and whose level is at most `M`, or by an
employee of whom both held at the start. -/
def Administered (M : Nat) (s m : Store) (c : Call service) : Prop :=
  ∃ actor, c.request.employeesActor? = some actor ∧
    ((isSuperadmin actor = false ∧ ∃ n, resolveActorHierarchyLevel actor = some n ∧ n ≤ M) ∨
      ActsItself M s m actor)

/-- The state of a run from `s`: no assignment was added above the limit, and none at it or above
it was changed. -/
structure Contained (M : Nat) (s m : Store) : Prop where
  roles : m.roles = s.roles
  added : ∀ a ∈ m.employeeRoles, a ∈ s.employeeRoles ∨ ∃ role ∈ s.roles, role.id = a.roleId ∧
    Below M role.name ∧ role.name ∉ SUPERADMIN_ROLES
  kept : ∀ a ∈ s.employeeRoles, ∀ role, s.assignedRole a = some role → AtLeast M role.name →
    a ∈ m.employeeRoles

section Runs

variable {s m : Store} {M : Nat}

theorem Contained.refl (M : Nat) (s : Store) : Contained M s s :=
  ⟨rfl, fun _ ha => .inl ha, fun _ ha _ _ _ => ha⟩

/-- Employees who act with what they were given in the run are limited like the others. -/
theorem Contained.limited (h : Contained M s m) {actor : Actor} (hacts : ActsItself M s m actor) :
    Limited M actor := by
  rcases hacts with ⟨employee, _, _, hnames, hmodest⟩
  have hheld : ∀ name ∈ extractRealmRoles actor, name ∉ SUPERADMIN_ROLES ∧
      ∀ n, resolveRoleHierarchyLevel name = .number n → n ≤ M := by
    intro name hname
    rcases (hnames name).1 hname with ⟨a, ha, howner, role, hrole, hid, rfl⟩
    rcases h.added a ha with hold | ⟨role', hrole', hid', hbelow, hnot⟩
    · exact hmodest role.name ⟨a, hold, howner, role, h.roles ▸ hrole, hid, rfl⟩
    · have hsame : role = role' :=
        Sql.Table.eq_of_id (h.roles ▸ hrole) hrole' (hid.trans hid'.symm)
      subst hsame
      refine ⟨hnot, fun n hn => ?_⟩
      rcases hbelow with ⟨k, hk, hlt⟩
      rw [hn] at hk
      cases hk
      exact Nat.le_of_lt hlt
  have hnotSuper : isSuperadmin actor = false := by
    cases hsuper : isSuperadmin actor with
    | false => rfl
    | true =>
        rcases List.any_eq_true.1 hsuper with ⟨name, hname, hmem⟩
        exact absurd (List.contains_iff_mem.1 hmem) (hheld name hname).1
  refine ⟨hnotSuper, fun hmanager n hn => ?_⟩
  rcases actorLevel_attained hn with hnone | ⟨name, hname, hlevel⟩
  · -- Without roles one manages nobody.
    simp [isEmployeeManager, isSuperadmin, hnone] at hmanager
  · exact (hheld name hname).2 n hlevel

theorem Administered.limited {c : Call service} (h : Contained M s m) (hc : Administered M s m c) :
    ∃ actor, c.request.employeesActor? = some actor ∧ Limited M actor ∧
      RowsChanged m actor (service.answer m c).state := by
  rcases hc with ⟨actor, hactor, hlimits⟩
  have hlimited : Limited M actor := by
    rcases hlimits with ⟨hsuper, n, hn, hle⟩ | hacts
    · refine ⟨hsuper, fun _ k hk => ?_⟩
      rw [hn] at hk
      cases hk
      exact hle
    · exact h.limited hacts
  refine ⟨actor, hactor, hlimited, ?_⟩
  rcases c with ⟨request, choices⟩
  cases request with
  | createEmployee dto actor' =>
      cases hactor
      exact rowsChanged_createEmployee dto choices
  | updateEmployeeRole dto actor' =>
      cases hactor
      exact rowsChanged_updateRole dto choices
  | _ => cases hactor

theorem Contained.answer {c : Call service} (h : Contained M s m) (hc : Administered M s m c) :
    Contained M s (service.answer m c).state := by
  rcases hc.limited h with ⟨actor, _, hlimited, hchanged⟩
  have hassigned : ∀ a, m.assignedRole a = s.assignedRole a := by
    intro a
    unfold Store.assignedRole
    rw [h.roles]
  refine ⟨hchanged.roles.trans h.roles, ?_, ?_⟩
  · intro a ha
    rcases hchanged.added a ha with hold | ⟨hmanager, role, hassignable, hid⟩
    · exact h.added a hold
    · have hbelow := (hlimited.assignable hmanager hassignable).1
      exact .inr ⟨role, h.roles ▸ hassignable.mem, hid.symm, hbelow⟩
  · intro a ha role hrole hhigh
    rcases hchanged.kept a (h.kept a ha role hrole hhigh) with hstays | ⟨hmanager, hmanages⟩
    · exact hstays
    · have hbelow := hlimited.below hmanager (hmanages role ((hassigned a).trans hrole))
      exact absurd hhigh hbelow.1.not_atLeast

theorem contained_serve {calls : List (Call service)}
    (hC : service.Complies (Administered M s) s calls) : Contained M s (service.serve s calls) :=
  Service.serve_induction (Contained.refl M s) (fun _ _ hI hc => hI.answer hc) hC

/-- The employee of this id has an assignment to a role at `M` or above. -/
def AtLevel (M : Nat) (s : Store) (employeeId : String) : Prop :=
  ∃ a ∈ s.employeeRoles, a.employeeId = employeeId ∧
    ∃ role ∈ s.roles, role.id = a.roleId ∧ AtLeast M role.name

/-- What role administration up to `M` cannot do. -/
structure Unescalated (M : Nat) (s : Store) (calls : List (Call service)) : Prop where
  /-- An assignment that a call has added or changed is to a role below `M` that was delegated to the
  caller. -/
  added : ∀ before c after, calls = before ++ c :: after →
    ∀ a ∈ (service.serve s (before ++ [c])).employeeRoles,
      a ∉ (service.serve s before).employeeRoles →
        ∃ actor, c.request.employeesActor? = some actor ∧
          ∃ role ∈ (service.serve s before).roles, role.id = a.roleId ∧ Below M role.name ∧
            ∃ d ∈ (service.serve s before).delegatedRoles, d.roleId = role.id ∧
              d.delegateKeycloakUserId = actor.sub.getD ""
  /-- The assignments to roles at `M` or above that are not deleted are unchanged. -/
  unchanged : ∀ a ∈ s.employeeRoles, ∀ role ∈ s.roles, role.id = a.roleId → role.isLive = true →
    AtLeast M role.name → a ∈ (service.serve s calls).employeeRoles
  /-- Nobody arrives at `M` or above. -/
  bounded : ∀ employeeId, AtLevel M (service.serve s calls) employeeId → AtLevel M s employeeId

def adminStore (deletedAt : Option Js.Date) : Store where
  roles := .ofRows _ _ [{ bankRole "r-1" "BANK_ADMIN" with deletedAt := deletedAt },
    bankRole "r-2" "TELLER"]
  permissions := .empty
  rolePermissions := .empty
  delegatedRoles := .ofRows _ _ [⟨"d-1", "admin-1", "r-2", "root"⟩]
  employees := .ofRows _ _ _ [alice]
  employeeRoles := .ofRows _ _ [⟨"a-1", "e-1", "r-1", "root", 0⟩]
  adminUsers := .empty
  realm :=
    { users := .ofRows _ _ [aliceUser [realmRole "r-1" "BANK_ADMIN"]]
      roles := .ofRows _ _ [realmRole "r-1" "BANK_ADMIN", realmRole "r-2" "TELLER"] }

def bankAdmin : Actor := ⟨some "admin-1", some ["BANK_ADMIN"], none⟩

def bob : CreateEmployeeDto :=
  ⟨"bob", "bob@bank.example", "Bob", "Iyer", "secret", "r-2", .undefined⟩

/-- A bank admin creates a teller, and tries to change the role of another bank admin. -/
def administration : List (Call service) :=
  [⟨.createEmployee bob bankAdmin, fun _ => answered "id-1"⟩,
    ⟨.updateEmployeeRole ⟨"e-1", "r-2"⟩ bankAdmin, fun _ => answered "id-2"⟩]

end Runs

end Rbac
end IdentityBillpay
