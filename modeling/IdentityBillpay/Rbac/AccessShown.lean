import IdentityBillpay.Rbac.AccessLookup
import IdentityBillpay.Rbac.Mirror
import IdentityBillpay.Rbac.PartialUpdate
import IdentityBillpay.Rbac.PermissionSets
import IdentityBillpay.Rbac.PortalStaff

/-!
# AccessShown — what a lookup shows is what was granted

Roles, permissions and employees are written by three services, partly to Keycloak; the lookup reads
the tables and Keycloak side by side.

* `granted` — the permissions that the requests have mapped to each role;
* `InStep`, `inStep_serve` — the tables, the realm and the requests agree after any requests;
* `LookedUp` — the employees that a request is about;
* `Shown`, `ShownKeycloakOnly` — what is right about a user who is shown;
* `access_shown` — so the lookup never fails, and shows what was granted.
-/

namespace IdentityBillpay
namespace Rbac

open Async Async.Program Js Keycloak UsersAccessService

/-! ## What was granted -/

/-- The permissions of each role. -/
abbrev RoleGrants := String → List String

def RoleGrants.replace (granted : RoleGrants) (roleId : String) (permissionIds : List String) :
    RoleGrants :=
  fun roleId' => if roleId' = roleId then permissionIds else granted roleId'

/-- A list that is accepted replaces the permissions of its role. -/
def RoleGrants.note (granted : RoleGrants) (c : Call service) (result : Except HttpError Reply) :
    RoleGrants :=
  match c.request with
  | .mapPermissions dto _ =>
      if result.isOk then granted.replace dto.roleId dto.permissionIds else granted
  | _ => granted

/-- The permissions that the requests have mapped to each role. -/
abbrev granted (s : Store) (calls : List (Call service)) : RoleGrants :=
  service.track RoleGrants.note (fun _ => []) s calls

/-- The tables agree with the realm and with what was granted. -/
structure InStep (granted : RoleGrants) (s : Store) : Prop where
  mirror : Mirror s
  maps : ∀ roleId id, s.Maps roleId id ↔ id ∈ granted roleId
  active : ∀ roleId, ∀ id ∈ granted roleId, s.ActivePermission id

section Steps

variable {granted : RoleGrants} {s m : Store}

/-- The permissions and their mappings are what they were. -/
structure SamePermissions (s m : Store) : Prop where
  rolePermissions : m.rolePermissions = s.rolePermissions
  permissions : m.permissions = s.permissions

theorem Store.ActivePermission.keep {id : String} (h : s.ActivePermission id)
    (hsame : m.permissions = s.permissions) : m.ActivePermission id := by
  rw [Store.ActivePermission] at h ⊢
  rw [hsame]
  exact h

theorem InStep.frame (h : InStep granted s) (hmirror : Mirror m) (hsame : SamePermissions s m) :
    InStep granted m := by
  refine ⟨hmirror, fun roleId id => ?_, fun roleId id hid => ?_⟩
  · rw [← h.maps, Store.Maps, Store.Maps, hsame.rolePermissions]
  · exact (h.active roleId id hid).keep hsame.permissions

/-! ### The mapping of permissions -/

/-- The mapping of permissions reads, and writes to one table. -/
def Op.mapsOrReads (op : Op) : Prop :=
  op.isRead = true ∨ (∃ roleId, op = .deleteMappings roleId) ∨
    ∃ mappings, op = .insertMappings mappings

theorem follows_mapping (dto : MapRolePermissionsDto) (actorKeycloakUserId : Option String) :
    Follows (fun _ (op : Op) => op.mapsOrReads) (fun _ _ => True) []
      (RolesService.mapPermissions dto actorKeycloakUserId) := by
  unfold RolesService.mapPermissions
  refine follows_call_bind (.inl rfl) (fun _ => trivial) fun found => ?_
  cases (found : Option Role) with
  | none => trivial
  | some role =>
      refine follows_call_bind (.inl rfl) (fun _ => trivial) fun permissions => ?_
      dsimp only
      split
      · trivial
      · refine follows_call_bind (.inr (.inl ⟨_, rfl⟩)) (fun _ => trivial) fun _ => ?_
        refine follows_call_bind (.inr (.inr ⟨_, rfl⟩)) (fun _ => trivial) fun _ => ?_
        exact (follows_findRoleWithPermissions role.id).mono (fun _ _ hop => .inl hop.1)
          fun _ _ _ => trivial

/-- Everything but the mappings. -/
def Store.unmapped (s : Store) : Store := { s with rolePermissions := .empty }

theorem perform_mapsOrReads {op : Op} (hop : op.mapsOrReads) (ch : Choice) (m : Store) :
    (perform op ch m).2.unmapped = m.unmapped := by
  rcases hop with hread | ⟨roleId, rfl⟩ | ⟨mappings, rfl⟩
  · exact congrArg Store.unmapped (perform_read hread rfl)
  · cases hcall : perform (.deleteMappings roleId) ch m with
    | mk res m' =>
        cases res with
        | error e => exact congrArg Store.unmapped (perform_error_same hcall (.inl rfl))
        | ok u =>
            cases deleteMappings_ok (u := u) hcall
            rfl
  · cases hcall : perform (.insertMappings mappings) ch m with
    | mk res m' =>
        cases res with
        | error e => exact congrArg Store.unmapped (perform_error_same hcall (.inl rfl))
        | ok u =>
            rcases insertMappings_ok (u := u) hcall with ⟨t, rfl⟩
            rfl

/-- The list is accepted and replaces that of the role, or nothing happens. -/
def MappingEnd {α : Type} (s : Store) (dto : MapRolePermissionsDto) (m : Store) :
    Except HttpError α → Prop
  | .ok _ => Acceptable s dto.permissionIds ∧ Replaced s dto.roleId dto.permissionIds m
  | .error _ => m = s

theorem contract_mapping {limits : Choice → Prop} (dto : MapRolePermissionsDto)
    (actorKeycloakUserId : Option String) :
    Contract limits (fun _ _ _ => True) (fun _ m r => MappingEnd s dto m r) [] s
      (RolesService.mapPermissions dto actorKeycloakUserId) := by
  by_cases hrole : ∃ role ∈ s.roles, role.id = dto.roleId ∧ role.isLive = true
  · rcases hrole with ⟨role, hmem, hid, hlive⟩
    refine (contract_mapPermissions dto actorKeycloakUserId hmem hid hlive).mono
      (fun _ _ _ _ => trivial) fun _ m r hend => ?_
    cases r with
    | ok details => exact hend
    | error e => exact hend.1
  · -- The role of the request is not there.
    unfold RolesService.mapPermissions
    refine contract_read (Longer.refl []) rfl rfl trivial ?_
    intro ch found own₁ h₁ hfound
    cases (found : Option Role) with
    | none => exact (rfl : s = s)
    | some role => exact absurd ⟨role, findRole_some hfound⟩ hrole

/-- The tables that the mirror looks at. -/
theorem Mirror.frame (h : Mirror s) (hroles : m.roles = s.roles)
    (hemployees : m.employees = s.employees) (hrows : m.employeeRoles = s.employeeRoles)
    (hrealm : m.realm = s.realm) : Mirror m := by
  refine ⟨hrealm ▸ h.sound, hroles ▸ h.named, fun e he => ?_, fun a ha => ?_⟩
  · rcases h.agrees e (hemployees ▸ he) with ⟨role, hrole⟩
    refine ⟨role, hrole.keep (hroles ▸ hrole.mem) rfl rfl hrole.live ?_ ?_ ?_ fun r hr => ?_⟩
    · intro a _
      rw [hrows]
    · exact hrealm ▸ hrole.user
    · intro name
      rw [hrealm]
    · exact .inl ⟨r, hroles ▸ hr, rfl⟩
  · rcases h.owned a (hrows ▸ ha) with ⟨e, he, hid⟩
    exact ⟨e, hemployees.symm ▸ he, hid⟩

theorem InStep.mapped {dto : MapRolePermissionsDto} (h : InStep granted s)
    (hsame : m.unmapped = s.unmapped) (hacceptable : Acceptable s dto.permissionIds)
    (hreplaced : Replaced s dto.roleId dto.permissionIds m) :
    InStep (granted.replace dto.roleId dto.permissionIds) m := by
  have hpermissions : m.permissions = s.permissions := congrArg (fun t => t.permissions) hsame
  have hmirror : Mirror m := h.mirror.frame (congrArg (fun t => t.roles) hsame)
    (congrArg (fun t => t.employees) hsame) (congrArg (fun t => t.employeeRoles) hsame)
    (congrArg (fun t => t.realm) hsame)
  refine ⟨hmirror, fun roleId id => ?_, fun roleId id hid => ?_⟩
  · rw [RoleGrants.replace]
    by_cases hrole : roleId = dto.roleId
    · rw [if_pos hrole, hrole]
      exact hreplaced.mapped id
    · -- The mappings of the other roles are the rows that they were.
      rw [if_neg hrole, ← h.maps]
      constructor
      · rintro ⟨x, hx, rfl, hid⟩
        exact ⟨x, (hreplaced.others x hrole).1 hx, rfl, hid⟩
      · rintro ⟨x, hx, rfl, hid⟩
        exact ⟨x, (hreplaced.others x hrole).2 hx, rfl, hid⟩
  · rw [RoleGrants.replace] at hid
    by_cases hrole : roleId = dto.roleId
    · rw [if_pos hrole] at hid
      exact (hacceptable.active id hid).keep hpermissions
    · rw [if_neg hrole] at hid
      exact (h.active roleId id hid).keep hpermissions

/-! ### Any request -/

theorem InStep.answer {c : Call service} (h : InStep granted s) (hc : NoCallFails s c) :
    InStep (granted.note c (service.answer s c).result) (service.answer s c).state := by
  rcases c with ⟨request, choices⟩
  cases request with
  | createRole dto actor =>
      refine h.frame (h.mirror.answer (c := ⟨.createRole dto actor, choices⟩) ⟨rfl, hc⟩) ?_
      rcases (contract_createRole dto actor).exec_reply hc with ⟨_, hend, _⟩
      rcases hend with ⟨hsame, _⟩ | ⟨m₁, m₂, role, hcreated, _⟩
      · exact hsame.symm ▸ ⟨rfl, rfl⟩
      · rcases hcreated with ⟨hadded, hrow, t', hs'⟩
        rcases hrow.table with ⟨t, rfl, _⟩
        have htables := hadded.tables
        rw [htables] at hs'
        exact hs'.symm ▸ ⟨rfl, rfl⟩
  | updateRole dto actor =>
      refine h.frame (h.mirror.answer (c := ⟨.updateRole dto actor, choices⟩) ⟨rfl, hc⟩) ?_
      rcases (contract_editRole dto actor).exec_reply hc with ⟨_, hend, _⟩
      rcases hend with ⟨hsame, _⟩ | ⟨old, new, m₁, hedited⟩
      · exact hsame.symm ▸ ⟨rfl, rfl⟩
      · rcases hedited with ⟨_, hrealm, _, t, _, t', hs'⟩
        rcases hrealm with rfl | ⟨_, _, _, rfl⟩
        · exact hs'.symm ▸ ⟨rfl, rfl⟩
        · exact hs'.symm ▸ ⟨rfl, rfl⟩
  | createEmployee dto actor =>
      refine h.frame (h.mirror.answer (c := ⟨.createEmployee dto actor, choices⟩) ⟨rfl, hc⟩) ?_
      rcases (contract_createEmployee dto actor).exec_reply hc with ⟨_, hend, _⟩
      rcases hend with ⟨hsame, _⟩ | ⟨_, _, _, _, _, _, hcreated, _⟩
      · exact hsame.symm ▸ ⟨rfl, rfl⟩
      · rcases hcreated.written with ⟨t, t', r, hs', _⟩
        exact hs'.symm ▸ ⟨rfl, rfl⟩
  | updateEmployeeRole dto actor =>
      refine h.frame (h.mirror.answer (c := ⟨.updateEmployeeRole dto actor, choices⟩) ⟨rfl, hc⟩) ?_
      rcases (contract_updateRole dto actor).exec_reply hc with ⟨_, hend, _⟩
      rcases hend with ⟨hsame, _⟩ | ⟨_, _, _, _, _, _, hchanged, _⟩
      · exact hsame.symm ▸ ⟨rfl, rfl⟩
      · rcases hchanged.written with ⟨t, r, hs', _⟩
        exact hs'.symm ▸ ⟨rfl, rfl⟩
  | mapPermissions dto actor =>
      have hfollows : Follows (fun _ (op : Op) => op.mapsOrReads) (fun _ _ => True) []
          (service.program (.mapPermissions dto actor)) :=
        (follows_mapping dto actor).andThen fun _ _ => trivial
      have hsame := hfollows.exec_kept (B := backend) Store.unmapped
        (fun op hop ch m => perform_mapsOrReads hop ch m) choices s
      rcases (contract_mapping dto actor).exec_reply hc with ⟨r, hend, hresult⟩
      rw [RoleGrants.note, show (service.answer s ⟨.mapPermissions dto actor, choices⟩).result =
        r.map Reply.role from hresult]
      cases r with
      | ok details => exact h.mapped hsame hend.1 hend.2
      | error e =>
          have hstate : (service.answer s ⟨.mapPermissions dto actor, choices⟩).state = s := hend
          rw [hstate]
          exact h
  | accountSynced event =>
      rcases (contract_handle event).exec_reply hc with ⟨_, ⟨_, hsynced⟩, _⟩
      -- The accounts of the portal are no part of it.
      unfold Synced at hsynced
      split at hsynced
      · rcases hsynced with ⟨account, t, hm, _⟩
        exact hm.symm ▸ h.frame (h.mirror.frame rfl rfl rfl rfl) ⟨rfl, rfl⟩
      · exact hsynced.symm ▸ h

end Steps

/-- Roles, employees and mappings that start from nothing. -/
structure StartsEmpty (s : Store) : Prop where
  roles : s.roles.rows = []
  employees : s.employees.rows = []
  employeeRoles : s.employeeRoles.rows = []
  rolePermissions : s.rolePermissions.rows = []
  sound : s.realm.Sound

theorem StartsEmpty.inStep {s : Store} (h : StartsEmpty s) : InStep (fun _ => []) s := by
  refine ⟨⟨h.sound, fun role hrole => ?_, fun e he => ?_, fun a ha => ?_⟩, fun roleId id => ?_,
    fun roleId id hid => absurd hid List.not_mem_nil⟩
  · rw [← Sql.Table.mem_rows, h.roles] at hrole
    exact absurd hrole List.not_mem_nil
  · have hrow : e ∈ s.employees.rows := he
    rw [h.employees] at hrow
    exact absurd hrow List.not_mem_nil
  · rw [← Sql.Table.mem_rows, h.employeeRoles] at ha
    exact absurd ha List.not_mem_nil
  · refine iff_of_false ?_ List.not_mem_nil
    rintro ⟨m, hm, _⟩
    rw [← Sql.Table.mem_rows, h.rolePermissions] at hm
    exact absurd hm List.not_mem_nil

theorem inStep_serve {s : Store} (h : StartsEmpty s) {calls : List (Call service)}
    (hC : service.Complies NoCallFails s calls) :
    InStep (granted s calls) (service.serve s calls) :=
  Service.track_induction h.inStep (fun _ _ _ hI hc => hI.answer hc) hC

/-! ## What is shown -/

def shownPermission (p : Permission) (roleId : String) : AccessPermission :=
  ⟨⟨p.id, p.code, p.name, p.module, p.action⟩, roleId⟩

/-- The permissions granted to the roles, each once for every role that it was granted to. -/
structure PermissionsShown (granted : RoleGrants) (s : Store) (roles : List Role)
    (permissions : List AccessPermission) : Prop where
  nodup : permissions.Nodup
  exactly : ∀ shown, shown ∈ permissions ↔ ∃ role ∈ roles, ∃ p ∈ s.permissions,
    p.id ∈ granted role.id ∧ shown = shownPermission p role.id

/-- An employee is shown with the Keycloak user and its realm roles, the one role that these name
locally, and the permissions granted to that role. -/
structure Shown (granted : RoleGrants) (s : Store) (employee : Employee) (access : UserAccess) :
    Prop where
  profile : access.employee = some (employeeProfile employee)
  user : ∃ u ∈ s.realm.users, u.id = employee.keycloakUserId ∧
    access.keycloakProfile = some (keycloakProfile u) ∧ access.keycloakRealmRoles = u.realmRoles
  role : ∃ role ∈ s.roles, access.roles = [accessRole role] ∧
    (∀ role' ∈ s.roles,
      role'.name ∈ access.keycloakRealmRoles.map Keycloak.Role.name ↔ role' = role) ∧
    PermissionsShown granted s [role] access.permissions

/-- A user whom only Keycloak knows is shown with the local roles of the names, and what was granted
to these. -/
structure ShownKeycloakOnly (granted : RoleGrants) (s : Store) (u : KeycloakUser)
    (access : UserAccess) : Prop where
  profile : access.employee = none
  user : access.keycloakProfile = some (keycloakProfile u) ∧
    access.keycloakRealmRoles = u.realmRoles
  roles : ∃ roles : List Role, access.roles = roles.map accessRole ∧ roles.Nodup ∧
    (∀ role, role ∈ roles ↔ role ∈ s.roles ∧ role.isLive = true ∧
      role.name ∈ u.realmRoles.map Keycloak.Role.name) ∧
    PermissionsShown granted s roles access.permissions

section Reads

variable {granted : RoleGrants} {s : Store} {exact : String → String → Bool}

/-- A mapping that is kept maps an active permission. -/
theorem InStep.mapping_shown (h : InStep granted s) {m : RolePermission}
    (hm : m ∈ s.rolePermissions) : ∃ p ∈ s.permissions, p.id = m.permissionId ∧
      accessPermission (m, s.mappedPermission m) = .ok (shownPermission p m.roleId) := by
  have hgranted := (h.maps m.roleId m.permissionId).1 ⟨m, hm, rfl, rfl⟩
  have hactive := h.active m.roleId m.permissionId hgranted
  cases hmapped : s.mappedPermission m with
  | none => exact absurd hmapped (mappedPermission_ne_none hactive)
  | some p =>
      have hp := Sql.Table.findOne_some hmapped
      simp only [Bool.and_eq_true, beq_iff_eq] at hp
      exact ⟨p, hp.1, hp.2.1, rfl⟩

/-- So showing permissions never fails. -/
theorem InStep.permissions_shown (h : InStep granted s) (roles : List Role) :
    ∃ permissions, s.permissionsOf (roles.map Role.id) = .ok permissions ∧
      PermissionsShown granted s roles permissions := by
  have hrow : ∀ m ∈ s.rolePermissions.find (fun m => (roles.map Role.id).contains m.roleId),
      ∃ shown, accessPermission (m, s.mappedPermission m) = .ok shown ∧
        ∃ p ∈ s.permissions, p.id = m.permissionId ∧ shown = shownPermission p m.roleId := by
    intro m hm
    rcases h.mapping_shown (Sql.Table.mem_find.1 hm).1 with ⟨p, hp, hid, hshown⟩
    exact ⟨_, hshown, p, hp, hid, rfl⟩
  rcases mapM_forall₂ hrow with ⟨permissions, hpermissions, hall⟩
  refine ⟨permissions, ?_, ⟨?_, fun shown => ⟨fun hshown => ?_, ?_⟩⟩⟩
  · rw [Store.permissionsOf, List.mapM_map]
    exact hpermissions
  · -- What is shown tells the mapping, and no two mappings are the same.
    have hkeys : (s.rolePermissions.find fun m => (roles.map Role.id).contains m.roleId).map
        RolePermission.pair = permissions.map fun shown => (shown.roleId, shown.id) := by
      rw [← List.forall₂_eq_eq_eq, List.forall₂_map_left_iff, List.forall₂_map_right_iff]
      refine hall.imp fun m shown hshown => ?_
      rcases hshown with ⟨p, _, hid, rfl⟩
      exact Prod.ext rfl hid.symm
    refine List.Nodup.of_map (fun shown : AccessPermission => (shown.roleId, shown.id)) ?_
    rw [← hkeys]
    exact s.rolePermissions.keys.sublist (List.filter_sublist.map _)
  · rcases forall₂_partner hall.flip hshown with ⟨m, hm, p, hp, hid, hsame⟩
    rcases Sql.Table.mem_find.1 hm with ⟨hmapped, hrole⟩
    rw [List.contains_iff_mem] at hrole
    rcases List.mem_map.1 hrole with ⟨role, hmem, hroleId⟩
    have hgranted := (h.maps m.roleId m.permissionId).1 ⟨m, hmapped, rfl, rfl⟩
    rw [← hroleId, ← hid] at hgranted
    exact ⟨role, hmem, p, hp, hgranted, by rw [hsame, hroleId]⟩
  · rintro ⟨role, hmem, p, hp, hgranted, rfl⟩
    rcases (h.maps role.id p.id).2 hgranted with ⟨m, hmapped, hrole, hid⟩
    have hm : m ∈ s.rolePermissions.find fun m => (roles.map Role.id).contains m.roleId := by
      rw [Sql.Table.mem_find, List.contains_iff_mem, hrole]
      exact ⟨hmapped, List.mem_map_of_mem hmem⟩
    rcases forall₂_partner hall hm with ⟨shown, hshown, p', hp', hid', rfl⟩
    have hsame : p' = p := Sql.Table.eq_of_id hp' hp (hid'.trans hid)
    rw [hsame, hrole] at hshown
    exact hshown

/-- A user is found by an id that is not empty. -/
theorem yields_findUser {u : KeycloakUser} (hu : u ∈ s.realm.users) (hid : u.id ≠ "") :
    Yields (lookupBackend exact) Choice.Answers s
      (KeycloakService.findUsers { keycloakUserId := .value u.id }) (.ok [u]) := by
  have hfound : s.realm.users.findOne (fun u' => u'.id == u.id) 0 = some u :=
    Sql.Table.findOne_of_unique 0 hu (by simp) fun u' hu' hid =>
      Sql.Table.eq_of_id hu' hu (by simpa using hid)
  have htext : (Optional.value u.id).text? = some u.id := by
    simp [Optional.text?, Optional.toOption, hid]
  refine yields_adminToken.bind_ok ?_
  dsimp only
  rw [htext]
  have hread := @yields_call _ _ (lookupBackend exact) Choice.Answers s (.inr (.getUser u.id)) _
    fun ch hch => request_answers hch _
  rw [hfound] at hread
  exact hread.bind_ok (yields_pure _)

theorem InStep.employee_shown (h : InStep granted s) (hids : ∀ u ∈ s.realm.users, u.id ≠ "")
    {employee : Employee} (hemployee : employee ∈ s.employees) :
    ∃ access, Yields (lookupBackend exact) Choice.Answers s (employeeAccess employee) (.ok access) ∧
      Shown granted s employee access := by
  rcases h.mirror.agrees employee hemployee with ⟨role, hrole⟩
  rcases hrole.user with ⟨u, hu, hid⟩
  rcases hrole.assignment with ⟨a, ha, howner, hassigned, honly⟩
  rcases h.permissions_shown [role] with ⟨permissions, hpermissions, hshown⟩
  have hrows : s.employeeRoles.find (fun a => a.employeeId == employee.id) = [a] :=
    Sql.Table.find_of_unique ha (by simpa using howner) fun a' ha' howner' =>
      honly a' ha' (by simpa using howner')
  have hroles : s.roles.find (fun r => [role.id].contains r.id && r.isLive) = [role] :=
    Sql.Table.find_of_unique hrole.mem (by simp [hrole.live]) fun r hr hfound => by
      simp only [List.contains_cons, List.contains_nil, Bool.or_false, Bool.and_eq_true,
        beq_iff_eq] at hfound
      exact Sql.Table.eq_of_id hr hrole.mem hfound.1
  refine ⟨⟨some (employeeProfile employee), some (keycloakProfile u), u.realmRoles,
    [accessRole role], permissions⟩, ?_, ⟨rfl, ⟨u, hu, hid, rfl, rfl⟩, ?_⟩⟩
  · -- Keycloak knows the user, and its roles.
    unfold employeeAccess
    rw [← hid]
    refine (yields_findUser hu (hids u hu)).bind_ok ?_
    refine (yields_getUserRealmRoles hu).bind_ok ?_
    -- The tables know one assignment.
    have hassignments := @yields_call _ _ (lookupBackend exact) Choice.Answers s
      (.inr (.findAssignments employee.id)) _ fun ch hch => query_answers hch _
    rw [hrows] at hassignments
    refine hassignments.bind_ok ?_
    have hread := @yields_call _ _ (lookupBackend exact) Choice.Answers s
      (.inl (.findRoles [role.id])) _ fun ch hch => query_answers hch _
    rw [hroles] at hread
    rw [List.map_singleton, hassigned]
    refine hread.bind_ok ?_
    have hmapped := @yields_permissionsOf exact s [role.id]
    rw [show s.permissionsOf [role.id] = .ok permissions from hpermissions] at hmapped
    exact hmapped.bind_ok (yields_pure _)
  · refine ⟨role, hrole.mem, rfl, fun role' hrole' => ?_, hshown⟩
    have hholds : s.realm.Holds employee.keycloakUserId role'.name ↔
        role'.name ∈ u.realmRoles.map Keycloak.Role.name := by
      rw [List.mem_map]
      constructor
      · rintro ⟨u', hu', hid', hname⟩
        cases Sql.Table.eq_of_id hu' hu (hid'.trans hid.symm)
        exact hname
      · exact fun hname => ⟨u, hu, hid, hname⟩
    have hmanaged := hrole.managed role' hrole'
    rw [h.mirror.named role' hrole', h.mirror.named role hrole.mem] at hmanaged
    rw [← hholds, hmanaged]
    exact ⟨fun hname => Sql.Table.eq_of_key hrole' hrole.mem hname, fun hsame => hsame ▸ rfl⟩

theorem InStep.keycloakOnly_shown (h : InStep granted s) (u : KeycloakUser) :
    ∃ access, s.keycloakOnly u = .ok access ∧ ShownKeycloakOnly granted s u access := by
  rcases h.permissions_shown (s.localRoles u) with ⟨permissions, hpermissions, hshown⟩
  refine ⟨_, by rw [Store.keycloakOnly, hpermissions]; rfl, rfl, ⟨rfl, rfl⟩, s.localRoles u, rfl,
    s.roles.nodup_rows.filter _, fun role => ?_, hshown⟩
  rw [Store.localRoles, Sql.Table.mem_find, Bool.and_eq_true, List.contains_iff_mem]
  exact and_congr_right fun _ => and_comm

end Reads

/-! ## Whom a request is about -/

/-- The employees that are read for a filter: all holders of a role, or somebody whom the filter is
about. -/
structure Selected (s : Store) (filter : AccessFilter) (employees : List Employee) : Prop where
  selected : ∀ e ∈ employees, e ∈ s.employees ∧ e.isLive = true ∧ filter.Selects s e
  found : filter.Finds s → employees ≠ []
  nodup : employees.Nodup
  holders : ∀ roleId, filter = .roleId roleId →
    ∀ e ∈ s.employees, e.isLive = true → filter.Selects s e → e ∈ employees

/-- Without a filter, the newest employees are shown. -/
def LookedUp (s : Store) (filters : FetchAccessDetailsDto) (employees : List Employee) : Prop :=
  match filters.first? with
  | some filter => Selected s filter employees
  | none => employees = (newestEmployees (s.employees.find Employee.isLive)).take 100

section Resolve

variable {s : Store} {exact : String → String → Bool}

theorem ensures_selectEmployee {query : EmployeeWhere} {filter : AccessFilter}
    (hfilter : ∀ e, query.selects e = true ↔ filter.Selects s e)
    (hrole : ∀ roleId, filter ≠ .roleId roleId) :
    Ensures ((lookupBackend exact).restrict Choice.Answers) (fun _ => True)
      (fun s' r => s' = s ∧ ∃ employees, r = .ok employees ∧ Selected s filter employees) s
      (do
        let employee : Option Employee ← lookup (.findEmployee query)
        return employee.toList) := by
  refine ensures_call_bind (fun _ => trivial) (fun ch e he => ?_) fun ch found hfound => ?_
  · have hanswer := congrArg Prod.fst (query_answers (s := s) ch.2
      (s.employees.findOne (fun e => query.selects e && e.isLive) ch.1.pick))
    cases he.symm.trans hanswer
  · have hanswer := query_answers (s := s) ch.2
      (s.employees.findOne (fun e => query.selects e && e.isLive) ch.1.pick)
    cases hfound.symm.trans (congrArg Prod.fst hanswer)
    refine ⟨congrArg Prod.snd hanswer, _, rfl, ?_⟩
    have hnodup : (s.employees.findOne (fun e => query.selects e && e.isLive)
        ch.1.pick).toList.Nodup := Option.toList_nodup _
    refine ⟨fun e he => ?_, fun hfinds hnil => ?_, hnodup,
      fun roleId hsame => absurd hsame (hrole roleId)⟩
    · have hfound := Sql.Table.findOne_some (Option.mem_toList.1 he)
      rw [Bool.and_eq_true, hfilter] at hfound
      exact ⟨hfound.1, hfound.2.2, hfound.2.1⟩
    · rcases hfinds with ⟨e, he, hlive, hselects⟩
      have hnone := Sql.Table.findOne_eq_none.1 (Option.toList_eq_nil_iff.1 hnil) e he
      rw [(hfilter e).2 hselects, hlive] at hnone
      cases hnone

/-- The live employees with one of the ids that the assignments of the role name. -/
theorem selected_holders {roleId : String} :
    Selected s (.roleId roleId) (s.employees.find fun e =>
      ((s.employeeRoles.find fun a => a.roleId == roleId).map
        EmployeeUserRole.employeeId).contains e.id && e.isLive) := by
  have hmem : ∀ e : Employee, (((s.employeeRoles.find fun a => a.roleId == roleId).map
      EmployeeUserRole.employeeId).contains e.id && e.isLive) = true ↔
        e.isLive = true ∧ (AccessFilter.roleId roleId).Selects s e := by
    intro e
    rw [Bool.and_eq_true, List.contains_iff_mem, List.mem_map, and_comm]
    refine and_congr_right fun _ => ?_
    constructor
    · rintro ⟨a, ha, hemployee⟩
      rcases Sql.Table.mem_find.1 ha with ⟨hassigned, hrole⟩
      exact ⟨a, hassigned, beq_iff_eq.1 hrole, hemployee⟩
    · rintro ⟨a, ha, hrole, hemployee⟩
      exact ⟨a, Sql.Table.mem_find.2 ⟨ha, beq_iff_eq.2 hrole⟩, hemployee⟩
  have hall : ∀ e ∈ s.employees, e.isLive = true → (AccessFilter.roleId roleId).Selects s e →
      e ∈ s.employees.find fun e => ((s.employeeRoles.find fun a => a.roleId == roleId).map
        EmployeeUserRole.employeeId).contains e.id && e.isLive :=
    fun e he hlive hselects => Sql.Table.mem_find.2 ⟨he, (hmem e).2 ⟨hlive, hselects⟩⟩
  refine ⟨fun e he => ?_, fun hfinds hnil => ?_, ?_, fun roleId' hsame => ?_⟩
  · rcases Sql.Table.mem_find.1 he with ⟨hemployee, hfound⟩
    exact ⟨hemployee, (hmem e).1 hfound⟩
  · rcases hfinds with ⟨e, he, hlive, hselects⟩
    have hfound := hall e he hlive hselects
    rw [hnil] at hfound
    cases hfound
  · exact s.employees.nodup_rows.filter _
  · cases hsame
    exact hall

theorem ensures_select (filter : AccessFilter) :
    Ensures ((lookupBackend exact).restrict Choice.Answers) (fun _ => True)
      (fun s' r => s' = s ∧ ∃ employees, r = .ok employees ∧ Selected s filter employees) s
      filter.resolve := by
  cases filter with
  | employeeId value =>
      exact ensures_selectEmployee (fun e => beq_iff_eq) fun _ h => by cases h
  | keycloakUserId value =>
      exact ensures_selectEmployee (fun e => beq_iff_eq) fun _ h => by cases h
  | username value => exact ensures_selectEmployee (fun e => beq_iff_eq) fun _ h => by cases h
  | email value => exact ensures_selectEmployee (fun e => beq_iff_eq) fun _ h => by cases h
  | roleId value =>
      have hholders := @yields_call _ _ (lookupBackend exact) Choice.Answers s
        (.inr (.findHolders value)) _ fun ch hch => query_answers hch _
      have hselected := @selected_holders s value
      refine Ensures.mono (hholders.bind_ok (r := .ok (s.employees.find fun e =>
        ((s.employeeRoles.find fun a => a.roleId == value).map
          EmployeeUserRole.employeeId).contains e.id && e.isLive)) ?_) ?_
      · cases hassigned : s.employeeRoles.find fun a => a.roleId == value with
        | nil =>
            -- Nobody holds the role, and `findEmployees` is not called.
            have hnone : (s.employees.find fun e => (([] : List EmployeeUserRole).map
                EmployeeUserRole.employeeId).contains e.id && e.isLive) = [] :=
              List.filter_eq_nil_iff.2 fun e _ => by simp
            rw [hnone]
            exact yields_pure []
        | cons a as =>
            exact @yields_call _ _ (lookupBackend exact) Choice.Answers s
              (.inr (.findEmployees ((a :: as).map EmployeeUserRole.employeeId))) _
              fun ch hch => query_answers hch _
      · rintro t r ⟨rfl, rfl⟩
        exact ⟨rfl, _, rfl, hselected⟩

theorem resolveEmployees_none {filters : FetchAccessDetailsDto} (h : filters.first? = none) :
    resolveEmployees filters = lookup .findRecentEmployees := by
  simp only [FetchAccessDetailsDto.first?, Option.orElse_eq_none, Option.map_eq_none_iff] at h
  rcases h with ⟨hemployee, hrole, hkeycloak, husername, hemail⟩
  simp only [resolveEmployees, hemployee, hrole, hkeycloak, husername, hemail]

theorem ensures_lookUp (filters : FetchAccessDetailsDto) :
    Ensures ((lookupBackend exact).restrict Choice.Answers) (fun _ => True)
      (fun s' r => s' = s ∧ ∃ employees, r = .ok employees ∧ LookedUp s filters employees) s
      (resolveEmployees filters) := by
  unfold LookedUp
  cases hfirst : filters.first? with
  | some filter =>
      rw [resolveEmployees_eq hfirst]
      exact ensures_select filter
  | none =>
      rw [resolveEmployees_none hfirst]
      have hread := @yields_call _ _ (lookupBackend exact) Choice.Answers s
        (.inr .findRecentEmployees) _ fun ch hch => query_answers hch _
      refine Ensures.mono hread ?_
      rintro t r ⟨rfl, rfl⟩
      exact ⟨rfl, _, rfl, rfl⟩

theorem LookedUp.mem {filters : FetchAccessDetailsDto} {employees : List Employee}
    (h : LookedUp s filters employees) {e : Employee} (he : e ∈ employees) : e ∈ s.employees := by
  unfold LookedUp at h
  split at h
  · exact (h.selected e he).1
  · subst h
    have hsorted := List.mem_of_mem_take he
    rw [newestEmployees, List.mem_mergeSort, Sql.Table.mem_find] at hsorted
    exact hsorted.1

end Resolve

/-! ## The lookup -/

/-- A lookup goes through wherever the tables are in step, and shows the employees it is about, or
the users of the realm whom the filters name if there are none. -/
theorem InStep.fetched {granted : RoleGrants} {s : Store} (h : InStep granted s)
    (hids : ∀ u ∈ s.realm.users, u.id ≠ "") (exact : String → String → Bool)
    (filters : FetchAccessDetailsDto) {choices : Nat → Choice}
    (hchoices : ∀ n, (choices n).Answers) :
    ∃ employees shown others,
      fetched exact choices s filters = .ok (accessDetails (shown ++ others)) ∧
      LookedUp s filters employees ∧ List.Forall₂ (Shown granted s) employees shown ∧
      List.Forall₂ (ShownKeycloakOnly granted s)
        (if employees = [] then filters.realmUsers exact s.realm else []) others := by
  rcases (@ensures_lookUp s exact filters).exec_within hchoices with
    ⟨hstate, employees, hemployees, hlookedUp⟩
  rcases @Yields.mapM_forall₂ _ _ _ _ (lookupBackend exact) Choice.Answers s employeeAccess
      (Shown granted s) employees (fun e he => h.employee_shown hids (hlookedUp.mem he)) with
    ⟨shown, hresults, hshown⟩
  have hothers : ∃ others,
      Yields (lookupBackend exact) Choice.Answers s (keycloakOnlyUsers filters employees)
        (.ok others) ∧
      List.Forall₂ (ShownKeycloakOnly granted s)
        (if employees = [] then filters.realmUsers exact s.realm else []) others := by
    cases employees with
    | nil =>
        rcases mapM_forall₂ (l := filters.realmUsers exact s.realm)
          (fun u _ => h.keycloakOnly_shown u) with ⟨others, hothers, hall⟩
        have hyields := @yields_keycloakOnlyUsers exact s filters
        rw [hothers] at hyields
        exact ⟨others, hyields, hall⟩
    | cons employee employees => exact ⟨[], yields_pure [], .nil⟩
  rcases hothers with ⟨others, hkeycloakOnly, hall⟩
  refine ⟨employees, shown, others, ?_, hlookedUp, hshown, hall⟩
  -- What is left of the method after the employees have been read.
  have hrest : Yields (lookupBackend exact) Choice.Answers s
      (do
        let results ← employees.mapM employeeAccess
        let keycloakOnly ← keycloakOnlyUsers filters employees
        return accessDetails (results ++ keycloakOnly))
      (.ok (accessDetails (shown ++ others))) :=
    hresults.bind_ok (hkeycloakOnly.bind_ok (yields_pure _))
  rw [Rbac.fetched, fetchAccessDetails, exec_bind_ok hemployees, hstate]
  exact (hrest.exec fun n => hchoices _).2

/-- The makers get two permissions before the teller becomes one of them. -/
def seededStore : Store :=
  { emptyStore with
    permissions := .ofRows _ _ [permission "p-1" true, permission "p-2" true] }

def makerSteps : List (Call service) :=
  firstSteps.take 3 ++
    [⟨.mapPermissions ⟨"id-2", ["p-2", "p-1"]⟩ (some "root"), fun _ => answered "m-"⟩,
      ⟨.updateEmployeeRole ⟨"id-3", "id-2"⟩ superadmin, fun _ => answered "id-4"⟩]

example : (fetched (· == ·) (fun _ => answered "") (service.serve seededStore makerSteps)
      { roleId := .value "id-2" }).map
      (fun details => details.users.flatMap fun access =>
        access.permissions.map fun p => (p.id, p.roleId)) =
    .ok [("p-2", "id-2"), ("p-1", "id-2")] := by
  decide

end Rbac
end IdentityBillpay
