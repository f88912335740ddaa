import IdentityBillpay.Async.Rounds
import IdentityBillpay.Rbac.Agreement

/-!
# PortalStaff — the read-model of portal accounts against the assignments

The listener sees the new role of an employee, and leaves the read-model alone unless that is a role
of the admin portal. So an account is there for everyone who has such a role, but it stays behind
when the employee moves to another one.

* `PortalStaff` — what the read-model is meant to be;
* `Synced`, `contract_handle` — what the listener does to it;
* `Faithful`, `Pending` — the invariant between rounds, and within one;
* `staff_listed` — the read-model is right as long as nobody with an account leaves the portal.
-/

namespace IdentityBillpay
namespace Rbac

open Async Async.Program Keycloak
open Bbps (Actor)

/-- Accounts of the admin portal belong to these roles. -/
def inPortal (roleName : String) : Bool :=
  AdminUserSyncListener.ADMIN_PORTAL_ROLES.contains roleName

structure PortalStaff (s : Store) : Prop where
  /-- Every employee has a current role. -/
  assigned : ∀ employee ∈ s.employees, ∃ role ∈ s.roles, Assigned s employee role
  /-- One row for an employee with a portal role, and it names that role. -/
  listed : ∀ employee ∈ s.employees, ∀ role ∈ s.roles, Assigned s employee role →
    inPortal role.name = true →
      ∃ account ∈ s.adminUsers, account.employeeId = employee.id ∧ account.roleId = role.id ∧
        account.roleName = role.name ∧
          ∀ account' ∈ s.adminUsers, account'.employeeId = employee.id → account' = account
  /-- No other rows. -/
  unlisted : ∀ account ∈ s.adminUsers, ∃ employee ∈ s.employees,
    account.employeeId = employee.id ∧
      ∃ role ∈ s.roles, Assigned s employee role ∧ inPortal role.name = true

/-! ## The listener -/

/-- The account is the one that the event tells of. -/
structure Shows (account : AdminUser) (event : EmployeeAccountSyncedEvent) : Prop where
  employeeId : account.employeeId = event.employeeId
  keycloakUserId : account.keycloakUserId = event.keycloakUserId
  roleId : account.roleId = event.roleId
  roleName : account.roleName = event.roleName

/-- The account is written for a role of the portal; other roles change nothing. -/
def Synced (s : Store) (event : EmployeeAccountSyncedEvent) (m : Store) : Prop :=
  if inPortal event.roleName then
    ∃ account t, m = { s with adminUsers := t } ∧ Shows account event ∧
      ∀ a, a ∈ t ↔ a = account ∨ (a ∈ s.adminUsers ∧ a.keycloakUserId ≠ event.keycloakUserId)
  else m = s

theorem contract_handle {s : Store} {own : Own} {limits : Choice → Prop}
    (event : EmployeeAccountSyncedEvent) :
    Contract limits (fun _ _ _ => True) (fun _ m r => r = .ok () ∧ Synced s event m) own s
      (AdminUserSyncListener.handle event) := by
  unfold AdminUserSyncListener.handle
  by_cases hportal : AdminUserSyncListener.ADMIN_PORTAL_ROLES.contains event.roleName = true
  swap
  · rw [if_neg hportal]
    exact ⟨rfl, (if_neg hportal).mpr rfl⟩
  rw [if_pos hportal]
  have h₀ := Longer.refl own
  refine contract_read h₀ rfl rfl trivial ?_
  intro ch found own₁ h₁ hfound
  have htells := @findAdminUser_ok _ _ _ _ found hfound
  refine contract_read h₁ rfl rfl trivial ?_
  intro ch' lastSyncedAt own₂ h₂ _
  refine contract_last (.saveAdminUser _) h₂ rfl trivial ?_
  intro ch'' u own₃ m h₃ hsave
  refine ⟨rfl, ?_⟩
  -- A row that was read is the one of the event's user.
  have hexisting : ∀ existing, found = some existing →
      existing ∈ s.adminUsers ∧ existing.keycloakUserId = event.keycloakUserId := by
    intro existing hread
    cases hread
    exact htells
  rcases saveAdminUser_ok (u := u) hexisting hsave with ⟨t, hm, ht⟩
  exact (if_pos hportal).mpr ⟨_, t, hm, ⟨rfl, rfl, rfl, rfl⟩, ht⟩

/-! ## The invariant -/

/-- The account of an employee is right: it is there for a portal role, and only then. -/
structure Listed (s : Store) (employee : Employee) : Prop where
  present : ∀ role, Assigned s employee role → inPortal role.name = true →
    ∃ account ∈ s.adminUsers, account.employeeId = employee.id ∧ account.roleId = role.id ∧
      account.roleName = role.name
  absent : ∀ role, Assigned s employee role → inPortal role.name = false →
    ∀ account ∈ s.adminUsers, account.employeeId ≠ employee.id

/-- What holds of the tables all the time. -/
structure Consistent (s : Store) : Prop where
  assigned : ∀ employee ∈ s.employees, ∃ role, Assigned s employee role
  owned : ∀ a ∈ s.employeeRoles, ∃ employee ∈ s.employees, employee.id = a.employeeId
  owners : ∀ account ∈ s.adminUsers, ∃ employee ∈ s.employees,
    account.employeeId = employee.id ∧ account.keycloakUserId = employee.keycloakUserId
  /-- No permissions are mapped to roles, so every role can be shown. -/
  unmapped : s.rolePermissions.rows = []

structure Faithful (s : Store) : Prop where
  consistent : Consistent s
  listed : ∀ employee ∈ s.employees, Listed s employee

/-- All accounts but that of one employee are right. It has none if its role is not of the portal. -/
structure Pending (s : Store) (employee : Employee) (role : Role) : Prop where
  consistent : Consistent s
  mem : employee ∈ s.employees
  assigned : Assigned s employee role
  listed : ∀ other ∈ s.employees, other ≠ employee → Listed s other
  left : inPortal role.name = true ∨ ∀ account ∈ s.adminUsers, account.employeeId ≠ employee.id

theorem Faithful.portalStaff {s : Store} (h : Faithful s) : PortalStaff s := by
  refine ⟨?_, ?_, ?_⟩
  · intro employee hemployee
    rcases h.consistent.assigned employee hemployee with ⟨role, hrole⟩
    exact ⟨role, hrole.mem, hrole⟩
  · intro employee hemployee role _ hrole hportal
    rcases (h.listed employee hemployee).present role hrole hportal with
      ⟨account, hmem, hid, hroleId, hroleName⟩
    refine ⟨account, hmem, hid, hroleId, hroleName, fun account' hmem' hid' => ?_⟩
    -- Two rows with the id of one employee have its user id as well, which is their key.
    rcases h.consistent.owners account hmem with ⟨e, he, heId, heUser⟩
    rcases h.consistent.owners account' hmem' with ⟨e', he', heId', heUser'⟩
    have hsame : e' = e := by
      refine Sql.Table.eq_of_id (t := s.employees.toTable) he' he ?_
      rw [← heId, ← heId', hid, hid']
    refine Sql.Table.eq_of_key hmem' hmem ?_
    rw [heUser, heUser', hsame]
  · intro account haccount
    rcases h.consistent.owners account haccount with ⟨employee, hemployee, hid, _⟩
    rcases h.consistent.assigned employee hemployee with ⟨role, hrole⟩
    refine ⟨employee, hemployee, hid, role, hrole.mem, hrole, ?_⟩
    by_contra hportal
    exact (h.listed employee hemployee).absent role hrole (by simpa using hportal) account haccount hid

section Steps

variable {s s' m m₁ m₂ m₃ : Store} {actor : Actor} {employee : Employee} {role : Role}
  {assignment : EmployeeUserRole}

/-- The accounts of other employees are as right as before. -/
theorem Listed.others (h : Listed s employee) (hroles : m.roles = s.roles)
    (hrows : ∀ a, a.employeeId = employee.id → (a ∈ m.employeeRoles ↔ a ∈ s.employeeRoles))
    (haccounts : ∀ account, account.employeeId = employee.id →
      (account ∈ m.adminUsers ↔ account ∈ s.adminUsers)) : Listed m employee := by
  have hbefore : ∀ role, Assigned m employee role → Assigned s employee role := fun role hrole =>
    hrole.others hroles.symm fun a ha => (hrows a ha).symm
  refine ⟨fun role hrole hportal => ?_, fun role hrole hportal account hmem hid => ?_⟩
  · rcases h.present role (hbefore role hrole) hportal with ⟨account, hmem, hid, hrest⟩
    exact ⟨account, (haccounts account hid).2 hmem, hid, hrest⟩
  · exact h.absent role (hbefore role hrole) hportal account ((haccounts account hid).1 hmem) hid

/-- A new employee has no account yet. -/
theorem Faithful.employeeCreated {dto : CreateEmployeeDto} (h : Faithful s)
    (hcreated : EmployeeCreated s dto actor role m₁ m₂ m₃ employee assignment s') :
    Pending s' employee role := by
  have hnow : Assigned s' employee role := hcreated.assigned_new h.consistent.owned
  have howned := hcreated.owned h.consistent.owned
  have hother := hcreated.fresh
  have hrows := @hcreated.rows_others
  rcases hcreated.written with ⟨t, t', r, rfl, ht, ht'⟩
  have hkeeps : ∀ e ∈ s.employees, ∀ a : EmployeeUserRole, a.employeeId = e.id →
      (a ∈ t' ↔ a ∈ s.employeeRoles) := by
    intro e he a ha
    exact hrows fun hsame => (hother e he).1 (ha.symm.trans hsame)
  refine ⟨⟨?_, howned, ?_, h.consistent.unmapped⟩, (ht employee).2 (.inr rfl), hnow, ?_, .inr ?_⟩
  · intro e he
    rcases (ht e).1 he with hold | rfl
    · rcases h.consistent.assigned e hold with ⟨held, hheld⟩
      exact ⟨held, hheld.others rfl (hkeeps e hold)⟩
    · exact ⟨role, hnow⟩
  · intro account haccount
    rcases h.consistent.owners account haccount with ⟨e, he, hids⟩
    exact ⟨e, (ht e).2 (.inl he), hids⟩
  · intro e he hne
    have hold : e ∈ s.employees := ((ht e).1 he).resolve_right hne
    exact (h.listed e hold).others rfl (hkeeps e hold) fun _ _ => Iff.rfl
  · intro account haccount hid
    rcases h.consistent.owners account haccount with ⟨e, he, hids, _⟩
    exact (hother e he).1 (hids.symm.trans hid)

theorem Faithful.roleChanged {dto : UpdateEmployeeRoleDto} {current : Current} (h : Faithful s)
    (hchanged : RoleChanged s dto actor employee role current m₁ m₂ assignment s')
    (hleft : inPortal role.name = true ∨ ∀ account ∈ s.adminUsers, account.employeeId ≠ employee.id) :
    Pending s' employee role := by
  have hmem := hchanged.checked.mem
  rcases h.consistent.assigned employee hmem with ⟨held, hheld⟩
  have hnow : Assigned s' employee role := hchanged.assigned_new hheld
  have howner := hchanged.row.1
  have hrows := @hchanged.rows_others
  rcases hchanged.written with ⟨t, r, rfl, ht⟩
  have hkeeps : ∀ e ∈ s.employees, e ≠ employee → ∀ a : EmployeeUserRole, a.employeeId = e.id →
      (a ∈ t ↔ a ∈ s.employeeRoles) := by
    intro e he hne a ha
    refine hrows fun hsame => hne ?_
    exact Sql.Table.eq_of_id (t := s.employees.toTable) he hmem (ha.symm.trans hsame)
  refine ⟨⟨?_, ?_, h.consistent.owners, h.consistent.unmapped⟩, hmem, hnow, ?_, hleft⟩
  · intro e he
    by_cases hsame : e = employee
    · exact ⟨role, hsame ▸ hnow⟩
    · rcases h.consistent.assigned e he with ⟨held', hheld'⟩
      exact ⟨held', hheld'.others rfl (hkeeps e he hsame)⟩
  · intro a ha
    rcases (ht a).1 ha with rfl | ⟨hold, _⟩
    · exact ⟨employee, hmem, howner.symm⟩
    · exact h.consistent.owned a hold
  · intro e he hne
    exact (h.listed e he).others rfl (hkeeps e he hne) fun _ _ => Iff.rfl

/-- The listener makes the last account right. -/
theorem Pending.synced (h : Pending s employee role)
    (hsynced : Synced s (EmployeesService.synced employee role) m) : Faithful m := by
  unfold Synced at hsynced
  split at hsynced
  · -- One account is written, and names the new role.
    rename_i hportal
    rcases hsynced with ⟨account, t, rfl, hshows, ht⟩
    have hassigned : ∀ e ∈ s.employees, ∃ r, Assigned { s with adminUsers := t } e r := by
      intro e he
      rcases h.consistent.assigned e he with ⟨r, hr⟩
      exact ⟨r, hr.others rfl fun _ _ => Iff.rfl⟩
    refine ⟨⟨hassigned, h.consistent.owned, ?_, h.consistent.unmapped⟩, ?_⟩
    · intro a ha
      rcases (ht a).1 ha with rfl | ⟨hold, _⟩
      · exact ⟨employee, h.mem, hshows.employeeId, hshows.keycloakUserId⟩
      · exact h.consistent.owners a hold
    · -- The employee of the event is listed now; the others keep their accounts.
      intro e he
      by_cases hsame : e = employee
      · subst hsame
        have hrole : ∀ r, Assigned { s with adminUsers := t } e r → r = role := fun r hr =>
          h.assigned.role_eq (hr.others rfl fun _ _ => Iff.rfl)
        refine ⟨fun r hr _ => ?_, fun r hr hout => ?_⟩
        · rw [hrole r hr]
          exact ⟨account, (ht account).2 (.inl rfl), hshows.employeeId, hshows.roleId, hshows.roleName⟩
        · rw [hrole r hr] at hout
          exact absurd (hout.symm.trans hportal) Bool.false_ne_true
      · refine (h.listed e he hsame).others rfl (fun _ _ => Iff.rfl) fun a ha => (ht a).trans ?_
        have hid : e.id ≠ employee.id := fun heq =>
          hsame (Sql.Table.eq_of_id (t := s.employees.toTable) he h.mem heq)
        constructor
        · intro hmem
          rcases hmem with rfl | hmem
          · exact absurd (ha.symm.trans hshows.employeeId) hid
          · exact hmem.1
        · intro hmem
          refine .inr ⟨hmem, fun huser => hid ?_⟩
          -- An account with this user id is this employee's.
          rcases h.consistent.owners a hmem with ⟨e', he', hid', huser'⟩
          have howner : e' = employee :=
            Sql.IndexedTable.eq_of_key' he' h.mem (huser'.symm.trans huser)
          exact ha.symm.trans (hid'.trans (congrArg Employee.id howner))
  · -- The event is ignored, and there is no account to be removed.
    rename_i hportal
    subst hsynced
    refine ⟨h.consistent, fun e he => ?_⟩
    by_cases hsame : e = employee
    · subst hsame
      refine ⟨fun r hr hin => ?_, fun r _ _ => h.left.resolve_left hportal⟩
      rw [h.assigned.role_eq hr] at hin
      exact absurd hin hportal
    · exact h.listed e he hsame

end Steps

/-! ## Rounds -/

/-- The requests that hand the published events to the listener. -/
def deliveries (own : Own) : List Request :=
  (published own).map Request.accountSynced

/-- The requests on employees. -/
def Request.onEmployees : Request → Bool
  | .createEmployee _ _ | .updateEmployeeRole _ _ => true
  | _ => false

/-- No call of the request fails, and none of the listener. -/
def NoCallFails (s : Store) (c : Call service) : Prop :=
  Unfailing (service.answer s c).awaited

instance (s : Store) (c : Call service) : Decidable (NoCallFails s c) :=
  inferInstanceAs (Decidable (Unfailing _))

/-- A request on employees, whose event the listener handles before the next one. -/
def Prompt (s : Store) (r : Round service) : Prop :=
  r.request.onEmployees = true ∧ service.Complies NoCallFails s (service.roundCalls deliveries s r)

instance (s : Store) (r : Round service) : Decidable (Prompt s r) :=
  inferInstanceAs (Decidable (_ ∧ service.Complies NoCallFails s _))

/-- The request gives nobody who has an account a role outside the portal. -/
def StaysInPortal (s : Store) : Request → Prop
  | .updateEmployeeRole dto actor => ∀ employee newRole current,
      Checked s dto actor employee newRole current →
        inPortal newRole.name = true ∨ ∀ account ∈ s.adminUsers, account.employeeId ≠ employee.id
  | _ => True

theorem Consistent.showable {s : Store} (h : Consistent s) {role : Role} (hrole : role ∈ s.roles)
    (hlive : role.isLive = true) : Showable s role.id := by
  refine ⟨⟨role, hrole, rfl, hlive⟩, fun m hm _ => ?_⟩
  rw [← Sql.Table.mem_rows, h.unmapped] at hm
  exact absurd hm List.not_mem_nil

/-- One event, handled. -/
theorem synced_of_delivery {m : Store} {event : EmployeeAccountSyncedEvent} {own : Own}
    {handling : Nat → Nat → Choice} (hevents : published own = [event])
    (hC : service.Complies NoCallFails m
      ((deliveries own).mapIdx fun n request => ⟨request, handling n⟩)) :
    Synced m event (service.serve m
      ((deliveries own).mapIdx fun n request => ⟨request, handling n⟩)) := by
  unfold deliveries at hC ⊢
  rw [hevents] at hC ⊢
  rcases (contract_handle event).exec_reply hC.1 with ⟨r, ⟨_, hsynced⟩, _⟩
  exact hsynced

/-- Handling the event of a request completes its round. -/
theorem Pending.delivered {m : Store} {employee : Employee} {role : Role} {own : Own}
    {handling : Nat → Nat → Choice} (h : Pending m employee role)
    (hevents : published own = [EmployeesService.synced employee role])
    (hC : service.Complies NoCallFails m
      ((deliveries own).mapIdx fun n request => ⟨request, handling n⟩)) :
    Faithful (service.serve m
      ((deliveries own).mapIdx fun n request => ⟨request, handling n⟩)) :=
  h.synced (synced_of_delivery hevents hC)

/-- A round without an event is complete. -/
theorem Faithful.undelivered {m : Store} {own : Own} {handling : Nat → Nat → Choice}
    (h : Faithful m) (hquiet : published own = []) :
    Faithful (service.serve m
      ((deliveries own).mapIdx fun n request => ⟨request, handling n⟩)) := by
  unfold deliveries
  rw [hquiet]
  exact h

theorem Faithful.round {s : Store} {r : Round service} (h : Faithful s) (hprompt : Prompt s r)
    (hstays : StaysInPortal s r.request) :
    Faithful (service.serve s (service.roundCalls deliveries s r)) := by
  rcases r with ⟨⟨request, choices⟩, handling⟩
  rcases hprompt with ⟨hemployees, hown, hdelivered⟩
  unfold Service.roundCalls
  rw [Service.serve_cons]
  cases request with
  | createEmployee dto actor =>
      rcases (contract_createEmployee dto actor).exec_reply hown with ⟨r, hend, _⟩
      rcases hend with ⟨hsame, hquiet, _⟩ | ⟨role, m₁, m₂, m₃, employee, assignment, hcreated, hr⟩
      · exact Faithful.undelivered ((congrArg Faithful hsame).mpr h) hquiet
      · have hpending := h.employeeCreated hcreated
        cases r with
        | ok account => exact hpending.delivered hr.1 hdelivered
        | error e =>
            exact absurd (hpending.consistent.showable hpending.assigned.mem hpending.assigned.live) hr
  | updateEmployeeRole dto actor =>
      rcases (contract_updateRole dto actor).exec_reply hown with ⟨r, hend, _⟩
      rcases hend with ⟨hsame, hquiet, _⟩ |
        ⟨employee, role, current, m₁, m₂, assignment, hchanged, hr⟩
      · exact Faithful.undelivered ((congrArg Faithful hsame).mpr h) hquiet
      · have hpending := h.roleChanged hchanged (hstays employee role current hchanged.checked)
        cases r with
        | ok account => exact hpending.delivered hr hdelivered
        | error e =>
            exact absurd (hpending.consistent.showable hpending.assigned.mem hpending.assigned.live) hr
  | _ => cases hemployees

theorem Assigned.stale {m : Store} {employee : Employee} {role : Role} {account : AdminUser}
    (h : Assigned m employee role) (hmem : employee ∈ m.employees)
    (hout : inPortal role.name = false) (haccount : account ∈ m.adminUsers)
    (hid : account.employeeId = employee.id) : ¬ PortalStaff m := by
  intro hstaff
  rcases hstaff.unlisted account haccount with ⟨employee', hmem', hid', role', _, hrole', hin⟩
  have hemployee : employee' = employee :=
    Sql.Table.eq_of_id (t := m.employees.toTable) hmem' hmem (hid'.symm.trans hid)
  subst hemployee
  rw [h.role_eq hrole', hout] at hin
  cases hin

/-- The condition is needed: a change of role that goes through without it leaves an account behind. -/
theorem Faithful.round_stale {s : Store} {dto : UpdateEmployeeRoleDto} {actor : Actor}
    {choices : Nat → Choice} {handling : Nat → Nat → Choice} (h : Faithful s)
    (hprompt : Prompt s ⟨⟨.updateEmployeeRole dto actor, choices⟩, handling⟩)
    (hdone : (service.answer s ⟨.updateEmployeeRole dto actor, choices⟩).result.isOk = true)
    (hleaves : ¬ StaysInPortal s (.updateEmployeeRole dto actor)) :
    ¬ PortalStaff (service.serve s
      (service.roundCalls deliveries s ⟨⟨.updateEmployeeRole dto actor, choices⟩, handling⟩)) := by
  have hfailed : ∀ e, (service.answer s ⟨.updateEmployeeRole dto actor, choices⟩).result ≠ .error e := by
    intro e herror
    rw [herror] at hdone
    cases hdone
  rcases hprompt with ⟨_, hown, hdelivered⟩
  -- The update has gone through, so the role has been changed.
  rcases (contract_updateRole dto actor).exec_reply hown with ⟨r, hend, hresult⟩
  rcases hend with ⟨_, _, e, rfl⟩ | ⟨employee, role, current, m₁, m₂, assignment, hchanged, hr⟩
  · exact absurd hresult (hfailed e)
  have hexists : ∃ employee' newRole current', Checked s dto actor employee' newRole current' ∧
      inPortal newRole.name = false ∧ ∃ account ∈ s.adminUsers, account.employeeId = employee'.id := by
    simpa [StaysInPortal] using hleaves
  rcases hexists with ⟨employee', newRole, current', hchecked, hout, account, haccount, hid⟩
  -- The request names the employee and the role.
  have hemployee : employee' = employee := Sql.Table.eq_of_id (t := s.employees.toTable) hchecked.mem
    hchanged.checked.mem (hchecked.id.trans hchanged.checked.id.symm)
  have hrole : newRole = role := Sql.Table.eq_of_id hchecked.assignable.mem
    hchanged.checked.assignable.mem
    (hchecked.assignable.id.trans hchanged.checked.assignable.id.symm)
  subst hemployee hrole
  rcases h.consistent.assigned employee' hchecked.mem with ⟨held, hheld⟩
  have hnow := hchanged.assigned_new hheld
  cases r with
  | error e => exact absurd hresult (hfailed e)
  | ok reply =>
      have hout' : ¬ inPortal newRole.name = true := by simp [hout]
      -- The event names a role that is not of the portal, so the listener ignores it.
      have hignored : service.serve s (service.roundCalls deliveries s _) =
          (service.answer s ⟨.updateEmployeeRole dto actor, choices⟩).state :=
        (if_neg hout').mp (synced_of_delivery hr hdelivered)
      rw [hignored]
      refine hnow.stale ?_ hout ?_ hid
      · rcases hchanged.written with ⟨t, realm, hstate, _⟩
        exact hstate ▸ hchecked.mem
      · rcases hchanged.written with ⟨t, realm, hstate, _⟩
        exact hstate ▸ haccount

/-- A bank with roles, and nobody who has one. -/
def newBank : Store :=
  { bankStore with
    employees := .empty
    employeeRoles := .empty
    realm := { bankStore.realm with users := .empty } }

def newEmployeeDto (roleId : String) : CreateEmployeeDto :=
  ⟨"alice", "alice@bank.example", "Alice", "Rao", "secret", roleId, .undefined⟩

/-- An employee is given one role and then another. -/
def twoRounds (roleId newRoleId : String) : List (Round service) :=
  [⟨⟨.createEmployee (newEmployeeDto roleId) superadmin, fun _ => answered "e-1"⟩,
      fun _ _ => answered "a-1"⟩,
    ⟨⟨.updateEmployeeRole ⟨"e-1", newRoleId⟩ superadmin, fun _ => answered "e-2"⟩,
      fun _ _ => answered "a-2"⟩]

end Rbac
end IdentityBillpay
