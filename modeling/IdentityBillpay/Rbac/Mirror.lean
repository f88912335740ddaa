import IdentityBillpay.Async.Serial
import IdentityBillpay.Rbac.Agreement
import IdentityBillpay.Rbac.RoleEdits

/-!
# Mirror — Keycloak holds for every employee the role that the tables name

* `Mirror` — the invariant between requests;
* `Mirror.roleCreated`, `Mirror.roleEdited`, `Mirror.employeeCreated`, `Mirror.roleChanged` — one
  step lemma a request;
* `mirror_serve` — the invariant after any list of requests;
* `roles_mirrored` — so no employee is maker and checker at once.
-/

namespace IdentityBillpay
namespace Rbac

open Async Async.Program Keycloak
open Bbps (Actor)

structure Mirror (s : Store) : Prop where
  sound : s.realm.Sound
  /-- Keycloak has the roles under the names they have here. -/
  named : ∀ role ∈ s.roles, role.keycloakRoleName = role.name
  agrees : ∀ employee ∈ s.employees, ∃ role, Agrees s employee role
  /-- Assignments belong to employees. -/
  owned : ∀ a ∈ s.employeeRoles, ∃ employee ∈ s.employees, employee.id = a.employeeId

theorem Mirror.ownNames {s : Store} (h : Mirror s) : s.OwnNames := by
  intro role hrole role' hrole' hsame
  have hnames : role.name = role'.name := by
    rw [← h.named role hrole, hsame, h.named role' hrole']
  exact Sql.Table.eq_of_key hrole hrole' hnames

section Steps

variable {s m₁ m₂ m₃ s' : Store} {actor : Actor} {employee : Employee} {assignment : EmployeeUserRole}

/-! ## Roles -/

/-- The realm role that is added is nobody's yet. -/
theorem Mirror.roleCreated {dto : CreateRoleDto} {role : Role} (h : Mirror s)
    (hcreated : RoleCreated s dto m₁ m₂ role s') : Mirror s' := by
  rcases hcreated with ⟨hadded, hrow, t', rfl⟩
  rcases hrow.table with ⟨t, rfl, ht⟩
  have htables := hadded.tables
  have hroles₁ : m₁.roles = s.roles := by rw [htables]
  have hemployees₁ : m₁.employees = s.employees := by rw [htables]
  have hrows₁ : m₁.employeeRoles = s.employeeRoles := by rw [htables]
  have hnobody : ∀ userId, ¬ s.realm.Holds userId dto.name := by
    intro userId hholds
    rcases hholds with ⟨u, hu, _, kr, hkr, hname⟩
    exact hadded.free kr (h.sound u hu kr hkr) hname
  refine ⟨?_, ?_, ?_, ?_⟩
  · intro u hu kr hkr
    rcases hadded.roles with ⟨new, _, hnew⟩
    have hold : u ∈ s.realm.users := by
      rw [← hadded.users]
      exact hu
    exact (hnew kr).2 (.inl (h.sound u hold kr hkr))
  · intro r hr
    rcases (ht r).1 hr with hold | rfl
    · exact h.named r (hroles₁ ▸ hold)
    · exact hrow.keycloakName.trans hrow.name.symm
  · intro e he
    rcases h.agrees e (hemployees₁ ▸ he) with ⟨held, hheld⟩
    have hmem : held ∈ m₁.roles := hroles₁ ▸ hheld.mem
    refine ⟨held, hheld.keep ((ht held).2 (.inl hmem)) rfl rfl hheld.live ?_ ?_ ?_ ?_⟩
    · intro a _
      change a ∈ m₁.employeeRoles ↔ _
      rw [hrows₁]
    · change ∃ u ∈ m₁.realm.users, _
      rw [hadded.users]
      exact hheld.user
    · intro name
      change (∃ u ∈ m₁.realm.users, _) ↔ _
      rw [hadded.users]
      exact Iff.rfl
    · intro r hr
      rcases (ht r).1 hr with hold | rfl
      · exact .inl ⟨r, hroles₁ ▸ hold, rfl⟩
      · refine .inr ⟨?_, fun hsame => ?_⟩
        · rw [hrow.keycloakName]
          exact hnobody _
        · -- Its name is new here, too.
          have hnames : held.name = r.name := by
            rw [← h.named held hheld.mem, ← hsame, hrow.keycloakName, hrow.name]
          exact (hrow.fresh held hmem).2 hnames
  · intro a ha
    have hold : a ∈ s.employeeRoles := hrows₁ ▸ ha
    rcases h.owned a hold with ⟨e, he, hid⟩
    exact ⟨e, hemployees₁ ▸ he, hid⟩

/-- An edit leaves names and holders as they were. -/
theorem Mirror.roleEdited {old new : Role} (h : Mirror s) (hedited : RoleEdited s old new m₁ s') :
    Mirror s' := by
  rcases hedited with ⟨hmem, hrealm, hnew, t, ht, t', rfl⟩
  have htables : m₁.employees = s.employees ∧ m₁.employeeRoles = s.employeeRoles := by
    rcases hrealm with rfl | ⟨_, _, _, rfl⟩
    · exact ⟨rfl, rfl⟩
    · exact ⟨rfl, rfl⟩
  have hsound : m₁.realm.Sound := by
    rcases hrealm with rfl | ⟨_, _, hdescribed, rfl⟩
    · exact h.sound
    · exact hdescribed.sound h.sound
  have hholds : ∀ userId name, m₁.realm.Holds userId name ↔ s.realm.Holds userId name := by
    intro userId name
    rcases hrealm with rfl | ⟨_, _, hdescribed, rfl⟩
    · exact Iff.rfl
    · exact hdescribed.holds
  have husers : ∀ userId, (∃ u ∈ s.realm.users, u.id = userId) →
      ∃ u ∈ m₁.realm.users, u.id = userId := by
    intro userId huser
    rcases hrealm with rfl | ⟨_, _, hdescribed, rfl⟩
    · exact huser
    · exact hdescribed.exists_id huser
  -- Every role is an old one up to an edit.
  have hback : ∀ r ∈ t, ∃ r' ∈ s.roles, r.name = r'.name ∧ r.keycloakRoleName = r'.keycloakRoleName := by
    intro r hr
    rcases (ht r).1 hr with rfl | ⟨hold, _⟩
    · exact ⟨old, hmem, hnew.name, hnew.keycloakName⟩
    · exact ⟨r, hold, rfl, rfl⟩
  refine ⟨hsound, ?_, ?_, ?_⟩
  · intro r hr
    rcases hback r hr with ⟨r', hr', hname, hkeycloak⟩
    rw [hname, hkeycloak]
    exact h.named r' hr'
  · intro e he
    rcases h.agrees e (htables.1 ▸ he) with ⟨held, hheld⟩
    have hkeep : ∀ held' ∈ t, held'.id = held.id → held'.keycloakRoleName = held.keycloakRoleName →
        held'.isLive = true → Agrees { m₁ with roles := t, delegatedRoles := t' } e held' := by
      intro held' hmem' hid hname hlive
      refine hheld.keep hmem' hid hname hlive ?_ (husers _ hheld.user) (hholds _) ?_
      · intro a _
        change a ∈ m₁.employeeRoles ↔ _
        rw [htables.2]
      · intro r hr
        rcases hback r hr with ⟨r', hr', _, hkeycloak⟩
        exact .inl ⟨r', hr', hkeycloak.symm⟩
    by_cases hsame : held.id = new.id
    · have hheldOld : held = old := Sql.Table.eq_of_id hheld.mem hmem (hsame.trans hnew.id)
      subst hheldOld
      have hlive : new.isLive = true := by
        have hheldLive := hheld.live
        unfold Role.isLive at hheldLive ⊢
        rw [hnew.deletedAt]
        exact hheldLive
      exact ⟨new, hkeep new ((ht new).2 (.inl rfl)) hnew.id hnew.keycloakName hlive⟩
    · exact ⟨held, hkeep held ((ht held).2 (.inr ⟨hheld.mem, hsame⟩)) rfl rfl hheld.live⟩
  · intro a ha
    have hold : a ∈ s.employeeRoles := htables.2 ▸ ha
    rcases h.owned a hold with ⟨e, he, hid⟩
    exact ⟨e, htables.1 ▸ he, hid⟩

/-! ## Employees -/

/-- A new user holds nothing. -/
theorem NewUser.holds {r r' : Realm} {payload : CreateUserPayload} {userId userId' name : String}
    (h : NewUser r payload userId r') : r'.Holds userId' name ↔ r.Holds userId' name := by
  constructor
  · intro hholds
    rcases hholds with ⟨u, hu, hid, kr, hkr, hname⟩
    rcases (h.users u).1 hu with hold | rfl
    · exact ⟨u, hold, hid, kr, hkr, hname⟩
    · exact absurd hkr List.not_mem_nil
  · intro hholds
    rcases hholds with ⟨u, hu, hrest⟩
    exact ⟨u, (h.users u).2 (.inl hu), hrest⟩

theorem NewUser.sound {r r' : Realm} {payload : CreateUserPayload} {userId : String}
    (h : NewUser r payload userId r') (hsound : r.Sound) : r'.Sound := by
  intro u hu kr hkr
  rw [h.roles]
  rcases (h.users u).1 hu with hold | rfl
  · exact hsound u hold kr hkr
  · exact absurd hkr List.not_mem_nil

theorem Mirror.employeeCreated {dto : CreateEmployeeDto} {role : Role} (h : Mirror s)
    (hcreated : EmployeeCreated s dto actor role m₁ m₂ m₃ employee assignment s') : Mirror s' := by
  have hnow : Assigned s' employee role := hcreated.assigned_new h.owned
  have howned := hcreated.owned h.owned
  have hother := hcreated.fresh
  have hrows := @hcreated.rows_others
  -- The local rows leave the realm as the last call to it has left it.
  have hrealm : s'.realm = m₂.realm := by
    rcases hcreated.row.table with ⟨t, rfl, _⟩
    rcases hcreated.mapping.table with ⟨t', rfl, _⟩
    rfl
  have hassigned := hcreated.assigned
  rcases hcreated.user with ⟨realm, hnew, rfl⟩
  have hsound₁ : realm.Sound := hnew.sound h.sound
  have hholds : ∀ userId name, s'.realm.Holds userId name ↔
      s.realm.Holds userId name ∨ (userId = employee.keycloakUserId ∧ name = role.keycloakRoleName) := by
    intro userId name
    rw [hrealm, hassigned.holds_assigned hsound₁]
    exact or_congr hnew.holds Iff.rfl
  have huser : ∀ u ∈ realm.users, ∃ u' ∈ s'.realm.users, u'.id = u.id := by
    intro u hu
    rw [hrealm]
    exact hassigned.user_assigned ⟨u, hu, rfl⟩
  have hsound : s'.realm.Sound := by
    rw [hrealm]
    exact hassigned.sound_assigned hsound₁
  rcases hcreated.written with ⟨t, t', r, rfl, ht, ht'⟩
  refine ⟨hsound, h.named, ?_, howned⟩
  intro e he
  rcases (ht e).1 he with hold | rfl
  · -- Nothing has changed for the others.
    rcases h.agrees e hold with ⟨held, hheld⟩
    refine ⟨held, hheld.keep hheld.mem rfl rfl hheld.live ?_ ?_ ?_ fun r hr => .inl ⟨r, hr, rfl⟩⟩
    · intro a ha
      exact hrows (a := a) fun hsame => (hother e hold).1 (ha.symm.trans hsame)
    · rcases hheld.user with ⟨u, hu, hid⟩
      rw [← hid]
      exact huser u ((hnew.users u).2 (.inl hu))
    · intro name
      exact (hholds _ name).trans (or_iff_left fun hsame => (hother e hold).2 hsame.1)
  · -- The new employee has one row, and its user one role.
    refine ⟨role, hnow.mem, hnow.live, hnow.assignment, ?_, fun r _ => (hholds _ _).trans ?_⟩
    · exact huser _ ((hnew.users _).2 (.inr rfl))
    · have hnone : ¬ s.realm.Holds e.keycloakUserId r.keycloakRoleName := by
        intro hheld
        rcases hheld with ⟨u, hu, hid, _⟩
        exact (hnew.fresh u hu).1 hid
      simp [hnone]

/-- One employee agrees on the new role, and the others agree as before. -/
theorem Mirror.roleChanged {dto : UpdateEmployeeRoleDto} {newRole : Role} {current : Current}
    (h : Mirror s)
    (hchanged : RoleChanged s dto actor employee newRole current m₁ m₂ assignment s') :
    Mirror s' := by
  rcases h.agrees employee hchanged.checked.mem with ⟨held, hheld⟩
  have hnow : Agrees s' employee newRole := hchanged.agrees hheld h.sound
  have howner := hchanged.row
  have hrows := @hchanged.rows_others
  have hwritten := hchanged.written
  rcases hheld.assigned.readFrom hchanged.checked.read with ⟨a, _, rfl, _⟩
  have hremoved : RealmChange s employee.keycloakUserId held.keycloakRoleName
      KeycloakUser.unassigned m₁ := hchanged.removed
  have hassigned := hchanged.assigned
  have hsound₁ := hremoved.sound_unassigned h.sound
  have hrealm : s'.realm = m₂.realm := by
    rcases hchanged.stored with ⟨_, t, rfl, _⟩
    rfl
  have hsound : s'.realm.Sound := by
    rw [hrealm]
    exact hassigned.sound_assigned hsound₁
  have huser : ∀ userId, (∃ u ∈ s.realm.users, u.id = userId) →
      ∃ u ∈ s'.realm.users, u.id = userId := by
    intro userId hu
    rw [hrealm]
    exact hassigned.user_assigned (hremoved.user_unassigned hu)
  -- Only the user of this employee gains or loses a role.
  have hholds : ∀ e : Employee, e.keycloakUserId ≠ employee.keycloakUserId →
      ∀ name, s'.realm.Holds e.keycloakUserId name ↔ s.realm.Holds e.keycloakUserId name := by
    intro e huserId name
    rw [hrealm]
    calc
      m₂.realm.Holds e.keycloakUserId name
          ↔ m₁.realm.Holds e.keycloakUserId name ∨ (e.keycloakUserId = employee.keycloakUserId ∧
              name = newRole.keycloakRoleName) := hassigned.holds_assigned hsound₁
      _ ↔ m₁.realm.Holds e.keycloakUserId name := or_iff_left fun hboth => huserId hboth.1
      _ ↔ s.realm.Holds e.keycloakUserId name ∧ ¬ (e.keycloakUserId = employee.keycloakUserId ∧
              name = held.keycloakRoleName) := hremoved.holds_unassigned h.sound
      _ ↔ s.realm.Holds e.keycloakUserId name := and_iff_left fun hboth => huserId hboth.1
  have hmem := hchanged.checked.mem
  rcases hwritten with ⟨t, r, rfl, ht⟩
  refine ⟨hsound, h.named, ?_, ?_⟩
  · -- The employee of the request agrees by what has been assigned; the others keep their role.
    intro e he
    by_cases hsame : e = employee
    · exact ⟨newRole, hsame ▸ hnow⟩
    have hid : e.id ≠ employee.id := fun heq =>
      hsame (Sql.Table.eq_of_id (t := s.employees.toTable) he hmem heq)
    have huserId : e.keycloakUserId ≠ employee.keycloakUserId := fun heq =>
      hsame (Sql.IndexedTable.eq_of_key' he hmem heq)
    rcases h.agrees e he with ⟨role, hrole⟩
    refine ⟨role, hrole.keep hrole.mem rfl rfl hrole.live ?_ (huser _ hrole.user)
      (hholds e huserId) fun r hr => .inl ⟨r, hr, rfl⟩⟩
    intro a' ha'
    exact hrows (a := a') fun heq => hid (ha'.symm.trans heq)
  · intro a' ha'
    rcases (ht a').1 ha' with rfl | ⟨hold, _⟩
    · exact ⟨employee, hmem, howner.1.symm⟩
    · exact h.owned a' hold

end Steps

/-! ## Runs -/

/-- The requests that create or change a role or an employee. -/
def Request.administers : Request → Bool
  | .createRole _ _ | .updateRole _ _ | .createEmployee _ _ | .updateEmployeeRole _ _ => true
  | _ => false

/-- The call creates or changes a role or an employee, and none of its own calls fails. -/
def Administers (s : Store) (c : Call service) : Prop :=
  c.request.administers = true ∧ Unfailing (service.answer s c).awaited

instance (s : Store) (c : Call service) : Decidable (Administers s c) :=
  inferInstanceAs (Decidable (_ ∧ _))

theorem Mirror.answer {s : Store} {c : Call service} (h : Mirror s) (hc : Administers s c) :
    Mirror (service.answer s c).state := by
  rcases c with ⟨request, choices⟩
  rcases hc with ⟨hrequest, hunfailing⟩
  cases request with
  | createRole dto actor =>
      rcases (contract_createRole dto actor).exec_reply hunfailing with ⟨_, hend, _⟩
      rcases hend with ⟨hsame, _⟩ | ⟨_, _, _, hcreated, _⟩
      · exact hsame.symm ▸ h
      · exact h.roleCreated hcreated
  | updateRole dto actor =>
      rcases (contract_editRole dto actor).exec_reply hunfailing with ⟨_, hend, _⟩
      rcases hend with ⟨hsame, _⟩ | ⟨_, _, _, hedited⟩
      · exact hsame.symm ▸ h
      · exact h.roleEdited hedited
  | createEmployee dto actor =>
      rcases (contract_createEmployee dto actor).exec_reply hunfailing with ⟨_, hend, _⟩
      rcases hend with ⟨hsame, _⟩ | ⟨_, _, _, _, _, _, hcreated, _⟩
      · exact hsame.symm ▸ h
      · exact h.employeeCreated hcreated
  | updateEmployeeRole dto actor =>
      rcases (contract_updateRole dto actor).exec_reply hunfailing with ⟨_, hend, _⟩
      rcases hend with ⟨hsame, _⟩ | ⟨_, _, _, _, _, _, hchanged, _⟩
      · exact hsame.symm ▸ h
      · exact h.roleChanged hchanged
  | mapPermissions dto actor => cases hrequest
  | accountSynced event => cases hrequest

theorem mirror_serve {s : Store} (h : Mirror s) {calls : List (Call service)}
    (hC : service.Complies Administers s calls) : Mirror (service.serve s calls) :=
  Service.serve_induction h (fun _ _ hI hc => hI.answer hc) hC

/-- Nobody who agrees holds two managed roles. -/
theorem Mirror.segregated {s : Store} (h : Mirror s) {employee : Employee}
    (hemployee : employee ∈ s.employees) {maker checker : Role} (hmaker : maker ∈ s.roles)
    (hchecker : checker ∈ s.roles) (hmakes : maker.dutyType = .MAKER)
    (hchecks : checker.dutyType = .CHECKER) :
    ¬ (s.realm.Holds employee.keycloakUserId maker.keycloakRoleName ∧
      s.realm.Holds employee.keycloakUserId checker.keycloakRoleName) := by
  intro hboth
  rcases h.agrees employee hemployee with ⟨role, hrole⟩
  have hname := (hrole.managed maker hmaker).1 hboth.1
  have hname' := (hrole.managed checker hchecker).1 hboth.2
  have hsame : maker = checker := h.ownNames maker hmaker checker hchecker (hname.trans hname'.symm)
  rw [hsame, hchecks] at hmakes
  cases hmakes

/-- Each employee has one assignment, its Keycloak user holds exactly the role that belongs to it,
and so not a maker and a checker role. -/
structure Mirrored (s : Store) : Prop where
  agrees : ∀ employee ∈ s.employees, ∃ role, Agrees s employee role
  segregated : ∀ employee ∈ s.employees, ∀ maker ∈ s.roles, ∀ checker ∈ s.roles,
    maker.dutyType = .MAKER → checker.dutyType = .CHECKER →
      ¬ (s.realm.Holds employee.keycloakUserId maker.keycloakRoleName ∧
        s.realm.Holds employee.keycloakUserId checker.keycloakRoleName)

def emptyStore : Store where
  roles := .empty
  permissions := .empty
  rolePermissions := .empty
  delegatedRoles := .empty
  employees := .empty
  employeeRoles := .empty
  adminUsers := .empty
  realm := ⟨.empty, .empty⟩

def newBankRole (name : String) : CreateRoleDto := ⟨name, name, .undefined, .undefined⟩

def newTeller : CreateEmployeeDto :=
  ⟨"alice", "alice@bank.example", "Alice", "Rao", "secret", "id-1", .undefined⟩

/-- Two roles, and an employee who is given one after the other. -/
def firstSteps : List (Call service) :=
  [⟨.createRole (newBankRole "TELLER") (some "root"), fun _ => answered "id-1"⟩,
    ⟨.createRole (newBankRole "BANK_MAKER") (some "root"), fun _ => answered "id-2"⟩,
    ⟨.createEmployee newTeller superadmin, fun _ => answered "id-3"⟩,
    ⟨.updateEmployeeRole ⟨"id-3", "id-2"⟩ superadmin, fun _ => answered "id-4"⟩]

example : (service.serve emptyStore firstSteps).employeeRoles.rows =
    [⟨"id-3", "id-3", "id-2", "root", 0⟩] := by
  decide

end Rbac
end IdentityBillpay
