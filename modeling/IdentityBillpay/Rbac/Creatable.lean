import IdentityBillpay.Rbac.Creations
import IdentityBillpay.Rbac.PartialUpdate

/-!
# Creatable — when a creation succeeds, and what it then leaves

Where no call fails for a reason of its own, the tables and the realm alone decide whether an
employee or a role can be created.

* `EmployeeCreatable`, `RoleCreatable` — what they have to allow;
* `EmployeeMade`, `RoleMade` — everything a creation leaves, down to the columns of its rows;
* `contract_makeEmployee`, `contract_makeRole` — the requests stop where something is not allowed,
  and nowhere else.
-/

namespace IdentityBillpay
namespace Rbac

open Async Async.Program Keycloak
open Bbps (Actor)

/-! ## Rows and what is generated for them -/

/-- The row of a new employee is the same whatever is generated for it, but for that itself. -/
theorem newEmployee_row? (dto : CreateEmployeeDto) (actor : Actor) (userId id : String)
    (now : Js.Date) :
    (EmployeesService.newEmployee dto userId actor).row? id now =
      ((EmployeesService.newEmployee dto "" actor).row? "" 0).map fun row =>
        { row with id := id, keycloakUserId := userId, createdAt := now } := by
  cases hsub : actor.sub with
  | none => simp [EmployeesService.newEmployee, NewEmployee.row?, hsub]
  | some createdBy =>
      let stored : String → String → Js.Date → Employee := fun userId id now =>
        ⟨id, userId, dto.username, dto.email, dto.firstName, dto.lastName, dto.employeeCode.toOption,
          createdBy, true, now, none⟩
      have hrow : ∀ userId id now, (EmployeesService.newEmployee dto userId actor).row? id now =
          if (stored userId id now).fits then some (stored userId id now) else none := by
        intro userId id now
        simp only [EmployeesService.newEmployee, NewEmployee.row?, hsub, Option.bind_eq_bind,
          Option.bind_some, stored]
      have hfits : (stored userId id now).fits = (stored "" "" 0).fits := rfl
      rw [hrow, hrow, hfits]
      cases (stored "" "" 0).fits with
      | true => rfl
      | false => rfl

theorem newAssignment_row? (employeeId roleId : String) (assignedBy : Option String) (id : String)
    (now : Js.Date) :
    (⟨employeeId, roleId, assignedBy⟩ : NewAssignment).row? id now =
      ((⟨"", roleId, assignedBy⟩ : NewAssignment).row? "" 0).map fun row =>
        { row with id := id, employeeId := employeeId, assignedAt := now } := by
  cases assignedBy with
  | none => rfl
  | some assignedBy =>
      let stored : String → String → Js.Date → EmployeeUserRole := fun employeeId id now =>
        ⟨id, employeeId, roleId, assignedBy, now⟩
      have hrow : ∀ employeeId id now,
          (⟨employeeId, roleId, some assignedBy⟩ : NewAssignment).row? id now =
            if (stored employeeId id now).fits then some (stored employeeId id now) else none :=
        fun _ _ _ => rfl
      have hfits : (stored employeeId id now).fits = (stored "" "" 0).fits := rfl
      rw [hrow, hrow, hfits]
      cases (stored "" "" 0).fits with
      | true => rfl
      | false => rfl

/-- The row of a new role, but for the ids of the two roles and the time. -/
theorem newRole_row? (dto : CreateRoleDto) (keycloakRole : Keycloak.Role)
    (hname : keycloakRole.name = dto.name) (id : String) (now : Js.Date) :
    (RolesService.newRole dto keycloakRole).row? id now =
      ((RolesService.newRole dto ⟨"", dto.name, ""⟩).row? "" 0).map fun row =>
        { row with
          id := id
          keycloakRoleId := keycloakRole.id
          createdAt := now
          updatedAt := now } := by
  let stored : String → String → Js.Date → Role := fun keycloakRoleId id now =>
    ⟨id, dto.name, dto.displayName, dto.description.toOption, keycloakRoleId, dto.name,
      resolveRoleDutyType dto.name, true, now, now, none⟩
  have hrow : ∀ (k : Keycloak.Role), k.name = dto.name → ∀ id now,
      (RolesService.newRole dto k).row? id now =
        if (stored k.id id now).fits then some (stored k.id id now) else none := by
    intro k hk id now
    simp only [RolesService.newRole, NewRole.row?, hk, stored]
  have hfits : (stored keycloakRole.id id now).fits = (stored "" "" 0).fits := rfl
  rw [hrow _ hname, hrow ⟨"", dto.name, ""⟩ rfl, hfits]
  cases (stored "" "" 0).fits with
  | true => rfl
  | false => rfl

/-! ## Employees -/

structure EmployeeCreatable (s : Store) (dto : CreateEmployeeDto) (actor : Actor) (role : Role) :
    Prop where
  manager : isEmployeeManager actor = true
  assignable : Assignable s actor dto.roleId role
  unnamed : ∀ e ∈ s.employees, e.username ≠ dto.username
  unoccupied : ¬ Occupied s dto.username
  known : ∃ k ∈ s.realm.roles, k.name = role.keycloakRoleName
  fits : ((EmployeesService.newEmployee dto "" actor).row? "" 0).isSome = true
  showable : Showable s role.id

structure EmployeeMade (s : Store) (dto : CreateEmployeeDto) (actor : Actor) (role : Role)
    (userId : String) (employee : Employee) (assignment : EmployeeUserRole) (s' : Store) : Prop where
  unusedUser : Unused s userId
  unusedEmployee : Unused s employee.id
  user : ∃ k ∈ s.realm.roles, k.name = role.keycloakRoleName ∧ ∀ x, x ∈ s'.realm.users ↔
    x ∈ s.realm.users ∨ x = (newUser (EmployeesService.keycloakUser dto) userId).assigned k
  realmRoles : s'.realm.roles = s.realm.roles
  row : ∃ now, (EmployeesService.newEmployee dto userId actor).row? employee.id now = some employee
  mapping : ∃ now, (⟨employee.id, role.id, actor.sub⟩ : NewAssignment).row? assignment.id now =
    some assignment
  employees : ∀ e, e ∈ s'.employees ↔ e ∈ s.employees ∨ e = employee
  assignments : ∀ a, a ∈ s'.employeeRoles ↔ a ∈ s.employeeRoles ∨ a = assignment
  others : s' = { s with
    realm := s'.realm
    employees := s'.employees
    employeeRoles := s'.employeeRoles }

section Employees

variable {s m : Store} {own : Own} {dto : CreateEmployeeDto} {actor : Actor} {role role' : Role}

/-- There is one role that it can be created with. -/
theorem EmployeeCreatable.role_eq (h : EmployeeCreatable s dto actor role')
    (hassignable : Assignable s actor dto.roleId role) : role' = role :=
  Sql.Table.eq_of_id h.assignable.mem hassignable.mem (h.assignable.id.trans hassignable.id.symm)

theorem not_creatable (hassignable : Assignable s actor dto.roleId role)
    (h : ¬ EmployeeCreatable s dto actor role) : ∀ role', ¬ EmployeeCreatable s dto actor role' := by
  intro role' h'
  have hsame : role' = role := h'.role_eq hassignable
  exact h (hsame ▸ h')

/-- Where the row of the employee fits, that of the assignment does: the same user acts. -/
theorem newAssignment_fits
    (hfits : ((EmployeesService.newEmployee dto "" actor).row? "" 0).isSome = true) (roleId : String) :
    ((⟨"", roleId, actor.sub⟩ : NewAssignment).row? "" 0).isSome = true := by
  unfold EmployeesService.newEmployee NewEmployee.row? at hfits
  unfold NewAssignment.row?
  cases hsub : actor.sub with
  | none => simp [hsub] at hfits
  | some sub =>
      simp only [hsub, Option.bind_eq_bind, Option.bind_some] at hfits ⊢
      split at hfits
      · next hrow =>
          have hlen : sub.length ≤ 36 := by
            simp only [Employee.fits, Bool.and_eq_true, decide_eq_true_eq] at hrow
            exact hrow.2
          simp [EmployeeUserRole.fits, hlen]
      · cases hfits

theorem follows_assignableRole (actor : Actor) (roleId : String) :
    Follows (fun _ (op : Op) => op.isRead = true ∧ op.isRemote = false) (fun _ _ => True) own
      (EmployeesService.assignableRole actor roleId) := by
  unfold EmployeesService.assignableRole
  have hassert : Follows (fun _ (op : Op) => op.isRead = true ∧ op.isRemote = false)
      (fun _ _ => True) own (RolesService.assertCanAssignRole actor roleId) := by
    unfold RolesService.assertCanAssignRole
    refine follows_call_bind ⟨rfl, rfl⟩ (fun _ => trivial) fun found => ?_
    cases (found : Option Role) with
    | none => trivial
    | some role =>
        dsimp only
        split
        · trivial
        · refine follows_call_bind ⟨rfl, rfl⟩ (fun _ => trivial) fun delegation => ?_
          cases (delegation : Option DelegatedRole) with
          | none => trivial
          | some d => trivial
  refine hassert.andThen fun own₁ role => ?_
  unfold RolesService.assertMakerCheckerCompatibility
  rw [bind_assoc]
  refine follows_call_bind ⟨rfl, rfl⟩ (fun _ => trivial) fun roles => ?_
  split
  · trivial
  · exact follows_settled_bind (fun _ _ => trivial) fun _ _ => trivial

/-- A user is created unless its name is taken. -/
theorem contract_makeUser (payload : CreateUserPayload) :
    Contract (Smooth s) (fun _ m op => Answers (Smooth s) m op)
      (fun own' m r =>
        match r with
        | .ok userId => (∃ n, Longer n own own') ∧ Unused s userId ∧
            ∃ realm, NewUser s.realm payload userId realm ∧ m = { s with realm := realm }
        | .error _ => Occupied s payload.username)
      own s (createUser http payload) := by
  refine (contract_createUser_calls payload).mono ?_ ?_
  · intro own' m op h
    cases h with
    | before _ _ hop =>
        rcases hop with rfl | rfl
        · exact answers_token
        · exact answers_postUser _
    | behind _ huser hop =>
        rcases hop with (rfl | rfl) | rfl
        · exact answers_token
        · exact answers_getUsers _
        · exact answers_putPassword ⟨_, huser, rfl⟩
  · intro own' m r h
    cases r with
    | ok userId =>
        rcases h with ⟨hnew, ⟨ch, hch, rfl⟩, n, hlong⟩
        exact ⟨⟨_, hlong⟩, hch.freshId, hnew⟩
    | error e =>
        rcases h with ⟨_, _, ch, hch, hrefused⟩
        -- Nothing but the name can be in the way.
        by_contra hfree
        refine hrefused ⟨hch.refusal, fun u hu => ⟨(hch.freshId.users u hu).1, fun hname => ?_⟩⟩
        exact hfree ⟨u, hu, hname⟩

theorem contract_giveRole {userId roleName : String} (huser : ∃ u ∈ m.realm.users, u.id = userId) :
    Contract (Smooth s)
      (fun _ m' op => Answers (Smooth s) m' op ∨ ¬ ∃ k ∈ m.realm.roles, k.name = roleName)
      (fun own' m' r => r = .ok () ∧ Longer 3 own own' ∧
        RealmChange m userId roleName KeycloakUser.assigned m')
      own m (assignRealmRoleToUser http userId roleName) := by
  have hcalls : Follows (fun _ (op : Op) => op = .keycloak .postAdminToken ∨
      op = .keycloak (.getRole roleName) ∨ ∃ k, op = .keycloak (.postRoleMapping userId k))
      (fun _ _ => True) own (assignRealmRoleToUser http userId roleName) := by
    unfold assignRealmRoleToUser
    refine follows_call_bind (.inl rfl) (fun _ => trivial) fun _ => ?_
    refine follows_call_bind (.inr (.inl rfl)) (fun _ => trivial) fun k => ?_
    exact ⟨.inr (.inr ⟨k, rfl⟩), fun r => follows_settled.2 trivial⟩
  refine Straight.mono (Straight.follows (contract_assignRealmRoleToUser userId roleName) hcalls) ?_
    fun _ _ _ h => h.1
  intro own' m' op h
  have hsame : m' = m := by
    rcases h.1 with hreading | hmapping
    · exact hreading.1
    · exact hmapping.1
  subst hsame
  rcases h.2 with rfl | rfl | ⟨k, rfl⟩
  · exact .inl answers_token
  · by_cases hknown : ∃ k ∈ m'.realm.roles, k.name = roleName
    · exact .inl (answers_getRole hknown)
    · exact .inr hknown
  · exact .inl (answers_postRoleMapping huser)

theorem contract_announce {employee : Employee} {assignment : EmployeeUserRole}
    (updatedBy : Option String) (huser : ∃ u ∈ m.realm.users, u.id = employee.keycloakUserId) :
    Contract (Smooth s) (fun _ m' op => Answers (Smooth s) m' op)
      (fun _ m' r => m' = m ∧
        match r with
        | .ok _ => Showable m role.id
        | .error _ => ¬ Showable m role.id)
      own m (EmployeesService.publishAccount employee assignment role updatedBy) := by
  -- What the reply needs are local reads, the token and the roles of the user.
  have hcalls : Follows (fun _ (op : Op) => (op.isRead = true ∧ op.isRemote = false) ∨
      op = .keycloak .postAdminToken ∨ op = .keycloak (.getRoleMappings employee.keycloakUserId))
      (fun _ _ => True) own
      (EmployeesService.publishAccount employee assignment role updatedBy) := by
    unfold EmployeesService.publishAccount
    refine Follows.bind (Follows.mono (follows_findRoleWithPermissions role.id)
      (fun _ _ h => .inl h) fun _ _ h => h) ?_ (fun _ _ _ => trivial)
    intro own₁ details _
    refine follows_call_bind (.inl ⟨rfl, rfl⟩) (fun _ => trivial) fun _ => ?_
    unfold getUserRealmRoles
    rw [bind_assoc]
    refine follows_call_bind (.inr (.inl rfl)) (fun _ => trivial) fun _ => ?_
    exact follows_call_bind (.inr (.inr rfl)) (fun _ => trivial) fun _ => trivial
  refine Straight.mono (Straight.follows
    (contract_publishAccount employee assignment role updatedBy) hcalls) ?_ ?_
  · intro own' m' op h
    have hsame : m' = m := h.1.1
    subst hsame
    rcases h.2 with hlocal | rfl | rfl
    · exact answers_local hlocal.1 hlocal.2
    · exact answers_token
    · exact answers_getRoleMappings huser
  · intro own' m' r h
    cases r with
    | ok account => exact ⟨h.1.1, h.1.2.2⟩
    | error e => exact h.1

/-- The users once the new one has been given its role. -/
theorem NewUser.users_assigned {r realm realm' : Realm} {payload : CreateUserPayload}
    {userId : String} {k : Keycloak.Role} (hnew : NewUser r payload userId realm)
    (hwith : realm.WithUser userId (KeycloakUser.assigned k) realm') (x : KeycloakUser) :
    x ∈ realm'.users ↔ x ∈ r.users ∨ x = (newUser payload userId).assigned k := by
  rw [hwith.users]
  constructor
  · intro hx
    rcases hx with ⟨u, hu, rfl⟩
    rcases (hnew.users u).1 hu with hold | rfl
    · rw [if_neg (hnew.fresh u hold).1]
      exact .inl hold
    · exact .inr (if_pos rfl)
  · intro hx
    rcases hx with hold | rfl
    · exact ⟨x, (hnew.users x).2 (.inl hold), (if_neg (hnew.fresh x hold).1).symm⟩
    · exact ⟨_, (hnew.users _).2 (.inr rfl), (if_pos rfl).symm⟩

/-- What a request to create an employee tells in the end. -/
def MakeEmployeeEnd (s : Store) (dto : CreateEmployeeDto) (actor : Actor) (m : Store)
    (r : Except HttpError EmployeeAccount) : Prop :=
  match r with
  | .ok _ => ∃ role userId employee assignment, EmployeeCreatable s dto actor role ∧
      EmployeeMade s dto actor role userId employee assignment m
  | .error _ => ∀ role, ¬ EmployeeCreatable s dto actor role

theorem contract_makeAccount (hmanager : isEmployeeManager actor = true)
    (hassignable : Assignable s actor dto.roleId role) :
    Contract (Smooth s)
      (fun _ m op => Answers (Smooth s) m op ∨ ∀ role, ¬ EmployeeCreatable s dto actor role)
      (fun _ m r => MakeEmployeeEnd s dto actor m r) own s
      (EmployeesService.provision dto role actor) := by
  unfold EmployeesService.provision
  -- The Keycloak user comes first; it is refused only where the name is taken.
  refine Straight.bind (Straight.mono (contract_makeUser (EmployeesService.keycloakUser dto))
    (fun _ _ _ h => .inl h) fun _ _ _ h => h) ?_ fun _ _ _ hoccupied role' h => h.unoccupied hoccupied
  intro own₁ m₁ userId h
  rcases h with ⟨⟨n, h₁⟩, hunusedUser, realm, hnew, rfl⟩
  have hunoccupied : ¬ Occupied s dto.username := by
    intro h
    rcases h with ⟨u, hu, hname⟩
    exact (hnew.fresh u hu).2 hname
  have huser : ∃ u ∈ realm.users, u.id = userId := ⟨_, (hnew.users _).2 (.inr rfl), rfl⟩
  -- Then its realm role, which is there unless the role cannot be granted.
  refine Straight.bind (Straight.mono (contract_giveRole huser) ?_ fun _ _ _ h => h) ?_
    fun _ _ _ h => by cases h.1
  · intro own' m op h
    refine h.imp_right fun hunknown => not_creatable hassignable fun h => hunknown ?_
    rw [hnew.roles]
    exact h.known
  intro own₂ m₂ _ h
  rcases h with ⟨_, h₂, k, realm₂, hk, hkname, hwith, rfl⟩
  have hk' : k ∈ s.realm.roles := hnew.roles ▸ hk
  have huser₂ : ∃ u ∈ realm₂.users, u.id = userId :=
    ⟨_, (hnew.users_assigned hwith _).2 (.inr rfl), rfl⟩
  -- The employee row fits and its username is free, or the request is not creatable.
  have hinsert : Answers (Smooth s) { s with realm := realm₂ }
      (.insertEmployee (EmployeesService.newEmployee dto userId actor)) ∨
      ∀ role, ¬ EmployeeCreatable s dto actor role := by
    by_cases hrow : ((EmployeesService.newEmployee dto "" actor).row? "" 0).isSome = true ∧
        ∀ e ∈ s.employees, e.username ≠ dto.username
    · refine .inl (answers_insertEmployee fun ch hch => ?_)
      rcases Option.isSome_iff_exists.1 hrow.1 with ⟨blank, hblank⟩
      refine ⟨_, by rw [newEmployee_row?, hblank, Option.map_some], fun e he => ?_⟩
      have hname : blank.username = dto.username := (NewEmployee.row?_some hblank).2.2.1
      refine ⟨(hch.freshId.employees e he).1, ?_, (hunusedUser.employees e he).2⟩
      rw [hname]
      exact hrow.2 e he
    · exact .inr fun role' h => hrow ⟨h.fits, h.unnamed⟩
  refine contract_write h₂ rfl hinsert ?_
  intro ch employee own₃ m₃ h₃ hch hdone
  rcases insertEmployee_ok hdone with ⟨t, hrow, rfl, hfresh, hmem⟩
  rcases NewEmployee.row?_some hrow with ⟨hid, hkeycloak, hname, _⟩
  have hkeycloak : employee.keycloakUserId = userId := hkeycloak
  have hfits : ((EmployeesService.newEmployee dto "" actor).row? "" 0).isSome = true := by
    rw [newEmployee_row?] at hrow
    rcases Option.map_eq_some_iff.1 hrow with ⟨blank, hblank, _⟩
    rw [hblank]
    rfl
  have hunnamed : ∀ e ∈ s.employees, e.username ≠ dto.username := by
    intro e he heq
    exact (hfresh e he).2.1 (heq.trans hname.symm)
  have hunused : Unused s employee.id := hid ▸ hch.freshId
  -- The assignment is the first of a new employee.
  have hassign : Answers (Smooth s) { s with realm := realm₂, employees := t }
      (.insertAssignment ⟨employee.id, role.id, actor.sub⟩) := by
    refine answers_insertAssignment fun ch' hch' => ?_
    rcases Option.isSome_iff_exists.1 (newAssignment_fits hfits role.id) with ⟨blank, hblank⟩
    refine ⟨_, by rw [newAssignment_row?, hblank, Option.map_some], fun a ha => ?_⟩
    have hold := hunused.assignments a ha
    exact ⟨(hch'.freshId.assignments a ha).1, fun hpair => hold.2.1 (Prod.mk.inj hpair).1⟩
  refine contract_write h₃ rfl (.inl hassign) ?_
  intro ch' assignment own₄ m₄ h₄ _ hdone'
  rcases insertAssignment_ok hdone' with ⟨t', hrow', rfl, _, hmem'⟩
  have hassignment : assignment.id = ch'.freshId := (NewAssignment.row?_some hrow').1
  -- What is left reads the account back and tells of it.
  refine (contract_announce none (hkeycloak ▸ huser₂)).mono (fun _ _ _ h => .inl h) ?_
  intro own₅ m r h
  rcases h with ⟨rfl, hshow⟩
  -- Neither the roles nor their permissions have changed.
  have hshowable : Showable { s with realm := realm₂, employees := t, employeeRoles := t' } role.id ↔
      Showable s role.id := ⟨fun h => ⟨h.live, h.permissions⟩, fun h => ⟨h.live, h.permissions⟩⟩
  cases r with
  | error e => exact not_creatable hassignable fun h => hshow (hshowable.2 h.showable)
  | ok account =>
      refine ⟨role, userId, employee, assignment, ?_, ?_⟩
      · exact ⟨hmanager, hassignable, hunnamed, hunoccupied, ⟨k, hk', hkname⟩, hfits,
          hshowable.1 hshow⟩
      · exact ⟨hunusedUser, hunused, ⟨k, hk', hkname, hnew.users_assigned hwith⟩,
          hwith.roles.trans hnew.roles, ⟨ch.now, hid ▸ hrow⟩, ⟨ch'.now, hassignment ▸ hrow'⟩, hmem,
          hmem', rfl⟩

theorem contract_makeEmployee (dto : CreateEmployeeDto) (actor : Actor) :
    Contract (Smooth s)
      (fun _ m op => Answers (Smooth s) m op ∨ ∀ role, ¬ EmployeeCreatable s dto actor role)
      (fun _ m r => MakeEmployeeEnd s dto actor m r) [] s (EmployeesService.create dto actor) := by
  unfold EmployeesService.create EmployeesService.assertCanManageEmployees
  by_cases hmanager : isEmployeeManager actor = true
  swap
  · rw [if_neg hmanager]
    exact fun role h => hmanager h.manager
  rw [if_pos hmanager, settled_ok, resolve_bind]
  refine Straight.bind (Straight.mono (Straight.follows (contract_assignableRole actor dto.roleId)
    (follows_assignableRole actor dto.roleId)) ?_ fun _ _ _ h => h) ?_ ?_
  · intro own' m op h
    exact .inl (answers_local h.2.1 h.2.2)
  · intro own₁ m role h
    rcases h with ⟨⟨rfl, h₁, hassignable⟩, _⟩
    refine contract_read h₁ rfl rfl (.inl (answers_local rfl rfl)) ?_
    intro ch existing own₂ h₂ hfound
    cases (existing : Option Employee) with
    | none => exact contract_makeAccount hmanager hassignable
    | some employee =>
        have htells := findOne_tells (t := m.employees.toTable) hfound
        have hname : employee.username = dto.username := by
          have hmatch := htells.2
          simp only [Bool.and_eq_true, beq_iff_eq] at hmatch
          exact hmatch.1
        exact fun role' h => h.unnamed employee htells.1 hname
  · intro own₁ m e h
    exact fun role h' => h.1.2.2 role h'.assignable

end Employees

/-! ## Roles -/

/-- The realm role of a new role. -/
def newRealmRole (dto : CreateRoleDto) (id : String) : Keycloak.Role :=
  ⟨id, dto.name, dto.description.toOption.getD ""⟩

/-- Those the new role is delegated to. -/
def CreateRoleDto.delegates (dto : CreateRoleDto) : List String :=
  dto.delegatedAdminKeycloakUserIds.toOption.getD []

structure RoleCreatable (s : Store) (dto : CreateRoleDto) (actorKeycloakUserId : Option String) :
    Prop where
  unnamed : ∀ role ∈ s.roles, role.name ≠ dto.name
  unoccupied : ∀ k ∈ s.realm.roles, k.name ≠ dto.name
  fits : ((RolesService.newRole dto ⟨"", dto.name, ""⟩).row? "" 0).isSome = true
  grantable : Grantable actorKeycloakUserId dto.delegates

structure RoleMade (s : Store) (dto : CreateRoleDto) (actorKeycloakUserId : Option String)
    (realmId : String) (role : Role) (s' : Store) : Prop where
  unusedRealmRole : Unused s realmId
  unusedRole : Unused s role.id
  realmRoles : ∀ k, k ∈ s'.realm.roles ↔ k ∈ s.realm.roles ∨ k = newRealmRole dto realmId
  users : s'.realm.users = s.realm.users
  row : ∃ now, (RolesService.newRole dto (newRealmRole dto realmId)).row? role.id now = some role
  roles : ∀ r, r ∈ s'.roles ↔ r ∈ s.roles ∨ r = role
  delegations : ∃ ids, ∀ d, d ∈ s'.delegatedRoles ↔ d ∈ s.delegatedRoles ∨
    d ∈ delegationRows role.id (actorKeycloakUserId.getD "") ids dto.delegates
  others : s' = { s with
    realm := s'.realm
    roles := s'.roles
    delegatedRoles := s'.delegatedRoles }

section Roles

variable {s m : Store} {own : Own} {dto : CreateRoleDto} {actorKeycloakUserId : Option String}

/-- A realm role is created unless its name is taken. -/
theorem contract_makeRealmRole :
    Contract (Smooth s)
      (fun _ m op => Answers (Smooth s) m op ∨ ¬ ∀ k ∈ s.realm.roles, k.name ≠ dto.name)
      (fun own' m r => ∃ realmId realm, r = .ok (newRealmRole dto realmId) ∧ Longer 3 own own' ∧
        Unused s realmId ∧ (∀ k ∈ s.realm.roles, k.name ≠ dto.name) ∧
        (∀ k, k ∈ realm.roles ↔ k ∈ s.realm.roles ∨ k = newRealmRole dto realmId) ∧
        realm.users = s.realm.users ∧ m = { s with realm := realm })
      own s (createRealmRole http dto.name dto.description.toOption) := by
  unfold createRealmRole
  have h₀ := Longer.refl own
  refine contract_read h₀ rfl rfl (.inl answers_token) ?_
  intro _ _ own₁ h₁ _
  have hpost : Answers (Smooth s) s
      (.keycloak (.postRole dto.name (dto.description.toOption.getD ""))) ∨
      ¬ ∀ k ∈ s.realm.roles, k.name ≠ dto.name := by
    by_cases hfree : ∀ k ∈ s.realm.roles, k.name ≠ dto.name
    · exact .inl (answers_postRole (fun id hunused => hunused.realmRoles) hfree)
    · exact .inr hfree
  refine contract_write h₁ rfl hpost ?_
  intro ch _ own₂ m₁ h₂ hch hdone
  rcases keycloak_ok hdone with ⟨realm, hadd, rfl⟩
  rcases postRole_ok hadd with ⟨hfree, hroles, husers⟩
  have hnew : newRealmRole dto ch.freshId ∈ realm.roles := (hroles _).2 (.inr rfl)
  refine contract_last (.keycloak (.getRole dto.name)) h₂ rfl
    (.inl (answers_getRole ⟨_, hnew, rfl⟩)) ?_
  intro ch' role own₃ m₂ h₃ hget
  have hsame : m₂ = { s with realm := realm } := perform_read rfl hget
  rcases keycloak_ok hget with ⟨_, hfound, _⟩
  rcases getRole_ok hfound with ⟨hmem, hname⟩
  -- There is one role of the name.
  have hrole : role = newRealmRole dto ch.freshId := Sql.Table.eq_of_key hmem hnew hname
  exact ⟨ch.freshId, realm, congrArg Except.ok hrole, h₃, hch.freshId, hfree, hroles, husers, hsame⟩

/-- The new role is delegated unless the delegations cannot be granted. -/
theorem contract_makeDelegations {roleId : String} (hunused : Unused s roleId)
    (hdelegations : m.delegatedRoles = s.delegatedRoles) :
    Contract (Smooth s)
      (fun _ m' op => Answers (Smooth s) m' op ∨ ¬ Grantable actorKeycloakUserId dto.delegates)
      (fun own' m' r => r = .ok () ∧ (∃ n, Longer n own own') ∧
        Grantable actorKeycloakUserId dto.delegates ∧
        ∃ t ids, m' = { m with delegatedRoles := t } ∧ ∀ d, d ∈ t ↔ d ∈ s.delegatedRoles ∨
          d ∈ delegationRows roleId (actorKeycloakUserId.getD "") ids dto.delegates)
      own m (RolesService.grantDelegations dto roleId actorKeycloakUserId) := by
  -- Without delegates nothing is written.
  have hnone : dto.delegates = [] → Contract (Smooth s)
      (fun _ m' op => Answers (Smooth s) m' op ∨ ¬ Grantable actorKeycloakUserId dto.delegates)
      (fun own' m' r => r = .ok () ∧ (∃ n, Longer n own own') ∧
        Grantable actorKeycloakUserId dto.delegates ∧
        ∃ t ids, m' = { m with delegatedRoles := t } ∧ ∀ d, d ∈ t ↔ d ∈ s.delegatedRoles ∨
          d ∈ delegationRows roleId (actorKeycloakUserId.getD "") ids dto.delegates)
      own m (return ()) := by
    intro hempty
    refine ⟨rfl, ⟨0, .refl own⟩, fun hne => absurd hempty hne, m.delegatedRoles, fun _ => "", rfl,
      fun d => ?_⟩
    rw [hdelegations, hempty]
    simp [delegationRows]
  unfold RolesService.grantDelegations
  cases hids : dto.delegatedAdminKeycloakUserIds.toOption with
  | none => exact hnone (by simp [CreateRoleDto.delegates, hids])
  | some delegateIds =>
      have hdelegates : dto.delegates = delegateIds := by simp [CreateRoleDto.delegates, hids]
      cases delegateIds with
      | nil => exact hnone hdelegates
      | cons delegateId delegateIds =>
          rw [hdelegates]
          refine Straight.mono (contract_replaceRows fun d hd => hdelegations ▸ hd) ?_ ?_
          · intro own' m' op h
            exact h.imp_right And.right
          · intro own' m' r h
            rcases h with ⟨hr, hlong, hgrantable, t, ids, _, hm', ht⟩
            refine ⟨hr, hlong, hgrantable, t, ids, hm', fun d => ?_⟩
            -- No delegation of a new role is there to be deleted.
            have hkept : d ∈ (deleteDelegations m roleId).delegatedRoles ↔ d ∈ s.delegatedRoles := by
              simp only [deleteDelegations, Sql.Table.mem_delete, hdelegations]
              exact and_iff_left_of_imp fun hd => by simpa using (hunused.delegations d hd).2
            rw [ht, hkept]

/-- What a request to create a role tells in the end. -/
def MakeRoleEnd (s : Store) (dto : CreateRoleDto) (actorKeycloakUserId : Option String) (m : Store)
    (r : Except HttpError RoleDetails) : Prop :=
  match r with
  | .ok _ => RoleCreatable s dto actorKeycloakUserId ∧
      ∃ realmId role, RoleMade s dto actorKeycloakUserId realmId role m
  | .error _ => ¬ RoleCreatable s dto actorKeycloakUserId

theorem contract_makeRole (dto : CreateRoleDto) (actorKeycloakUserId : Option String) :
    Contract (Smooth s)
      (fun _ m op => Answers (Smooth s) m op ∨ ¬ RoleCreatable s dto actorKeycloakUserId)
      (fun _ m r => MakeRoleEnd s dto actorKeycloakUserId m r) [] s
      (RolesService.create dto actorKeycloakUserId) := by
  unfold RolesService.create
  have h₀ := Longer.refl []
  -- The lookup of the name finds no role, or the request is not creatable.
  refine contract_read h₀ rfl rfl (.inl (answers_local rfl rfl)) ?_
  intro ch existing own₁ h₁ hfound
  cases (existing : Option Role) with
  | some role =>
      have htells := findOne_tells hfound
      have hname : role.name = dto.name := by
        have hmatch := htells.2
        simp only [Bool.and_eq_true, beq_iff_eq] at hmatch
        exact hmatch.1
      exact fun h => h.unnamed role htells.1 hname
  | none =>
      -- The realm role comes before the row.
      refine Straight.bind (Straight.mono contract_makeRealmRole
        (fun _ _ _ h => h.imp_right fun htaken h => htaken h.unoccupied) fun _ _ _ h => h) ?_
        fun _ _ _ h => by rcases h with ⟨_, _, hr, _⟩; cases hr
      intro own₂ m₁ keycloakRole h
      rcases h with ⟨realmId, realm, hr, h₂, hunusedRealmRole, hunoccupied, hrealmRoles, husers, rfl⟩
      cases hr
      have hinsert : Answers (Smooth s) { s with realm := realm }
          (.insertRole (RolesService.newRole dto (newRealmRole dto realmId))) ∨
          ¬ RoleCreatable s dto actorKeycloakUserId := by
        by_cases hrow : ((RolesService.newRole dto ⟨"", dto.name, ""⟩).row? "" 0).isSome = true ∧
            ∀ role ∈ s.roles, role.name ≠ dto.name
        · refine .inl (answers_insertRole fun ch' hch' => ?_)
          rcases Option.isSome_iff_exists.1 hrow.1 with ⟨blank, hblank⟩
          have hname : blank.name = dto.name := (NewRole.row?_some hblank).2.1
          refine ⟨_, by rw [newRole_row? _ _ rfl, hblank, Option.map_some], fun role hrole => ?_⟩
          refine ⟨(hch'.freshId.roles role hrole).1, ?_⟩
          rw [hname]
          exact hrow.2 role hrole
        · exact .inr fun h => hrow ⟨h.fits, h.unnamed⟩
      refine contract_write h₂ rfl hinsert ?_
      intro ch' role own₃ m₂ h₃ hch' hdone
      rcases insertRole_ok hdone with ⟨t, hrow, rfl, hfresh, hmem⟩
      rcases NewRole.row?_some hrow with ⟨hid, hname, _, _, _, hdeleted⟩
      have hfits : ((RolesService.newRole dto ⟨"", dto.name, ""⟩).row? "" 0).isSome = true := by
        rw [newRole_row? _ _ rfl] at hrow
        rcases Option.map_eq_some_iff.1 hrow with ⟨blank, hblank, _⟩
        rw [hblank]
        rfl
      have hunnamed : ∀ r ∈ s.roles, r.name ≠ dto.name := by
        intro r hr heq
        exact (hfresh r hr).2 (heq.trans hname.symm)
      have hunused : Unused s role.id := hid ▸ hch'.freshId
      -- The delegations refer to the new role alone.
      refine Straight.bind (Straight.mono (contract_makeDelegations hunused rfl)
        (fun _ _ _ h => h.imp_right fun hno h => hno h.grantable) fun _ _ _ h => h) ?_
        fun _ _ _ h => by cases h.1
      intro own₄ m₃ _ h
      rcases h with ⟨_, _, hgrantable, t', ids, rfl, hdelegations⟩
      -- Last, the role is read back with its permissions.
      refine (contract_showRole role.id).mono (fun _ _ _ h => .inl h) ?_
      intro own₅ m r h
      rcases h with ⟨rfl, hshow⟩
      -- Nothing has been mapped to the new role yet.
      have hshowable : Showable { s with realm := realm, roles := t, delegatedRoles := t' } role.id :=
        ⟨⟨role, (hmem role).2 (.inr rfl), rfl, by simp [Role.isLive, hdeleted]⟩,
          fun mapping hmapping hrole => absurd hrole (hunused.mappings mapping hmapping)⟩
      cases r with
      | error e => exact absurd hshowable hshow
      | ok details =>
          refine ⟨⟨hunnamed, hunoccupied, hfits, hgrantable⟩, realmId, role, ?_⟩
          exact ⟨hunusedRealmRole, hunused, hrealmRoles, husers, ⟨ch'.now, hid ▸ hrow⟩, hmem,
            ⟨ids, hdelegations⟩, rfl⟩

end Roles

end Rbac
end IdentityBillpay
