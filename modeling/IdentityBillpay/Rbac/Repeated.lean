import IdentityBillpay.Rbac.Creatable

/-!
# Repeated — creations that are sent once more after a failure

A creation makes the object in Keycloak first and the rows afterwards, and undoes nothing. Once the
object is there, the same request finds its name taken.

* `EmployeeMade.alike`, `RoleMade.alike` — what two creations leave differs in ids and times alone;
* `Creation` — the requests that create an employee or a role, and the call that makes the object;
* `repeated_iff` — a request that one failing call has ended can be repeated exactly if that call
  was not behind this one.
-/

namespace IdentityBillpay
namespace Rbac

open Async Async.Program Keycloak
open Bbps (Actor)

/-! ## What two creations leave -/

section Rows

variable {ρ : Renaming} {now : Js.Date}

theorem employeeContent_new {dto : CreateEmployeeDto} {actor : Actor} {userId id : String}
    {row : Employee}
    (h : (EmployeesService.newEmployee dto userId actor).row? id now = some row) :
    some (employeeContent ρ row) =
      ((EmployeesService.newEmployee dto "" actor).row? "" 0).map fun blank =>
        { blank with
          id := ρ.employee id
          keycloakUserId := ρ.user userId
          createdAt := 0 } := by
  rw [newEmployee_row?] at h
  rcases Option.map_eq_some_iff.1 h with ⟨blank, hblank, rfl⟩
  rw [hblank]
  rfl

theorem assignmentContent_new {employeeId roleId id : String} {assignedBy : Option String}
    {row : EmployeeUserRole}
    (h : (⟨employeeId, roleId, assignedBy⟩ : NewAssignment).row? id now = some row) :
    some (assignmentContent ρ row) =
      ((⟨"", roleId, assignedBy⟩ : NewAssignment).row? "" 0).map fun blank =>
        { blank with
          id := ""
          employeeId := ρ.employee employeeId
          roleId := ρ.role roleId
          assignedAt := 0 } := by
  have hroleId : row.roleId = roleId := (NewAssignment.row?_some h).2.2
  rw [newAssignment_row?] at h
  rcases Option.map_eq_some_iff.1 h with ⟨blank, hblank, rfl⟩
  rw [hblank, ← hroleId]
  rfl

theorem roleContent_new {dto : CreateRoleDto} {realmId id : String} {row : Role}
    (h : (RolesService.newRole dto (newRealmRole dto realmId)).row? id now = some row) :
    some (roleContent ρ row) =
      ((RolesService.newRole dto ⟨"", dto.name, ""⟩).row? "" 0).map fun blank =>
        { blank with
          id := ρ.role id
          keycloakRoleId := ρ.realmRole realmId
          createdAt := 0
          updatedAt := 0 } := by
  rw [newRole_row? dto (newRealmRole dto realmId) rfl] at h
  rcases Option.map_eq_some_iff.1 h with ⟨blank, hblank, rfl⟩
  rw [hblank]
  rfl

theorem delegationContent_new {roleId granter : String} {ids : Nat → String}
    {delegateIds : List String} :
    delegationContent ρ '' {d | d ∈ delegationRows roleId granter ids delegateIds} =
      {d | ∃ delegateId ∈ delegateIds, d = ⟨"", delegateId, ρ.role roleId, granter⟩} := by
  ext d
  constructor
  · intro h
    rcases h with ⟨row, hrow, rfl⟩
    rcases mem_delegationRows.1 hrow with ⟨n, hn, rfl⟩
    exact ⟨_, List.getElem_mem hn, rfl⟩
  · intro h
    rcases h with ⟨delegateId, hmem, rfl⟩
    rcases List.getElem_of_mem hmem with ⟨n, hn, rfl⟩
    exact ⟨_, mem_delegationRows.2 ⟨n, hn, rfl⟩, rfl⟩

end Rows

theorem EmployeeMade.alike {s m m' : Store} {dto : CreateEmployeeDto} {actor : Actor} {role : Role}
    {userId userId' : String} {employee employee' : Employee}
    {assignment assignment' : EmployeeUserRole}
    (h : EmployeeMade s dto actor role userId employee assignment m)
    (h' : EmployeeMade s dto actor role userId' employee' assignment' m') : Alike m m' := by
  -- The renaming swaps the ids that the two requests have generated.
  let ρ : Renaming :=
    ⟨Equiv.swap userId userId', Equiv.swap employee.id employee'.id, .refl _, .refl _⟩
  have hswaps : ρ.Swaps s :=
    ⟨fun _ => swap_of_used h.unusedUser h'.unusedUser,
      fun _ => swap_of_used h.unusedEmployee h'.unusedEmployee, fun _ _ => rfl, fun _ _ => rfl⟩
  have huserId : ρ.user userId = Renaming.same.user userId' := Equiv.swap_apply_left _ _
  have hemployeeId : ρ.employee employee.id = Renaming.same.employee employee'.id :=
    Equiv.swap_apply_left _ _
  refine ⟨ρ, Contents.ext ?_ ?_ ?_ ?_ ?_ ?_ ?_ ?_ ?_⟩
  · -- The users of the realm.
    rcases h.user with ⟨k, hk, hname, husers⟩
    rcases h'.user with ⟨k', hk', hname', husers'⟩
    have hsame : k' = k := Sql.Table.eq_of_key hk' hk (hname'.trans hname.symm)
    subst hsame
    refine image_inserted husers husers' (fun _ hu => userContent_old hswaps hu) ?_
    simp only [userContent, KeycloakUser.assigned, newUser, UserRepresentation.created, huserId]
    rfl
  · rw [h.others, h'.others]
    change realmRoleContent ρ '' {k | k ∈ m.realm.roles} =
      realmRoleContent .same '' {k | k ∈ m'.realm.roles}
    rw [h.realmRoles, h'.realmRoles]
    exact Set.image_congr fun _ hk => realmRoleContent_old hswaps hk
  · rw [h.others, h'.others]
    exact Set.image_congr fun _ hr => roleContent_old hswaps hr
  · rw [h.others, h'.others]
    rfl
  · rw [h.others, h'.others]
    exact Set.image_congr fun _ hmapping => mappingContent_old hswaps hmapping
  · rw [h.others, h'.others]
    exact Set.image_congr fun _ hd => delegationContent_old hswaps hd
  · -- The employees.
    refine image_inserted h.employees h'.employees (fun _ he => employeeContent_old hswaps he) ?_
    rcases h.row with ⟨now, hrow⟩
    rcases h'.row with ⟨now', hrow'⟩
    refine Option.some.inj ?_
    rw [employeeContent_new hrow, employeeContent_new hrow', huserId, hemployeeId]
  · -- The rows of their roles.
    refine image_inserted h.assignments h'.assignments
      (fun _ ha => assignmentContent_old hswaps ha) ?_
    rcases h.mapping with ⟨now, hrow⟩
    rcases h'.mapping with ⟨now', hrow'⟩
    refine Option.some.inj ?_
    rw [assignmentContent_new hrow, assignmentContent_new hrow', hemployeeId]
    rfl
  · rw [h.others, h'.others]
    rfl

theorem RoleMade.alike {s m m' : Store} {dto : CreateRoleDto} {actorKeycloakUserId : Option String}
    {realmId realmId' : String} {role role' : Role}
    (h : RoleMade s dto actorKeycloakUserId realmId role m)
    (h' : RoleMade s dto actorKeycloakUserId realmId' role' m') : Alike m m' := by
  let ρ : Renaming :=
    ⟨.refl _, .refl _, Equiv.swap role.id role'.id, Equiv.swap realmId realmId'⟩
  have hswaps : ρ.Swaps s :=
    ⟨fun _ _ => rfl, fun _ _ => rfl, fun _ => swap_of_used h.unusedRole h'.unusedRole,
      fun _ => swap_of_used h.unusedRealmRole h'.unusedRealmRole⟩
  have hroleId : ρ.role role.id = Renaming.same.role role'.id := Equiv.swap_apply_left _ _
  have hrealmId : ρ.realmRole realmId = Renaming.same.realmRole realmId' := Equiv.swap_apply_left _ _
  refine ⟨ρ, Contents.ext ?_ ?_ ?_ ?_ ?_ ?_ ?_ ?_ ?_⟩
  · -- The users of the realm.
    rw [h.others, h'.others]
    change userContent ρ '' {u | u ∈ m.realm.users} = userContent .same '' {u | u ∈ m'.realm.users}
    rw [h.users, h'.users]
    exact Set.image_congr fun _ hu => userContent_old hswaps hu
  · -- The roles of the realm.
    refine image_inserted h.realmRoles h'.realmRoles (fun _ hk => realmRoleContent_old hswaps hk) ?_
    simp only [realmRoleContent, newRealmRole, hrealmId]
  · -- The roles.
    refine image_inserted h.roles h'.roles (fun _ hr => roleContent_old hswaps hr) ?_
    rcases h.row with ⟨now, hrow⟩
    rcases h'.row with ⟨now', hrow'⟩
    refine Option.some.inj ?_
    rw [roleContent_new hrow, roleContent_new hrow', hroleId, hrealmId]
  · rw [h.others, h'.others]
    rfl
  · rw [h.others, h'.others]
    exact Set.image_congr fun _ hmapping => mappingContent_old hswaps hmapping
  · -- The delegations.
    rcases h.delegations with ⟨ids, hrows⟩
    rcases h'.delegations with ⟨ids', hrows'⟩
    refine image_added hrows hrows' (fun _ hd => delegationContent_old hswaps hd) ?_
    exact (delegationContent_new.trans (by rw [hroleId])).trans delegationContent_new.symm
  · rw [h.others, h'.others]
    exact Set.image_congr fun _ he => employeeContent_old hswaps he
  · rw [h.others, h'.others]
    exact Set.image_congr fun _ ha => assignmentContent_old hswaps ha
  · rw [h.others, h'.others]
    rfl

/-! ## The requests -/

/-- The requests that create an employee or a role. -/
inductive Creation
  | employee (dto : CreateEmployeeDto) (actor : Actor)
  | role (dto : CreateRoleDto) (actorKeycloakUserId : Option String)

namespace Creation

def request : Creation → Request
  | .employee dto actor => .createEmployee dto actor
  | .role dto actorKeycloakUserId => .createRole dto actorKeycloakUserId

/-- The run of the request with nobody else at work. -/
def run (c : Creation) (choices : Nat → Choice) (s : Store) : Outcome sig HttpError Store Reply :=
  (program c.request).exec backend choices s

/-- The call that creates the user or the role in Keycloak, counted from zero. -/
def remoteCall : Creation → Nat
  | .employee _ actor => employeeReads actor + 1
  | .role _ _ => roleReads

/-- The tables and the realm allow it. -/
def Possible (s : Store) : Creation → Prop
  | .employee dto actor => ∃ role, EmployeeCreatable s dto actor role
  | .role dto actorKeycloakUserId => RoleCreatable s dto actorKeycloakUserId

/-- `m` is what the creation leaves. -/
def Makes (s m : Store) : Creation → Prop
  | .employee dto actor => ∃ role userId employee assignment, EmployeeCreatable s dto actor role ∧
      EmployeeMade s dto actor role userId employee assignment m
  | .role dto actorKeycloakUserId => ∃ realmId role, RoleMade s dto actorKeycloakUserId realmId role m

/-- Keycloak has an object of the name already. -/
def Taken (m : Store) : Creation → Prop
  | .employee dto _ => Occupied m dto.username
  | .role dto _ => ∃ k ∈ m.realm.roles, k.name = dto.name

variable {s m m' : Store} {c : Creation}

theorem Makes.alike (h : c.Makes s m) (h' : c.Makes s m') : Alike m m' := by
  cases c with
  | employee dto actor =>
      rcases h with ⟨role, userId, employee, assignment, hcreatable, hmade⟩
      rcases h' with ⟨role', userId', employee', assignment', hcreatable', hmade'⟩
      have hsame : role' = role := hcreatable'.role_eq hcreatable.assignable
      subst hsame
      exact hmade.alike hmade'
  | role dto actorKeycloakUserId =>
      rcases h with ⟨realmId, role, hmade⟩
      rcases h' with ⟨realmId', role', hmade'⟩
      exact hmade.alike hmade'

theorem Taken.not_possible (h : c.Taken m) : ¬ c.Possible m := by
  cases c with
  | employee dto actor => exact fun ⟨_, hcreatable⟩ => hcreatable.unoccupied h
  | role dto actorKeycloakUserId =>
      rcases h with ⟨k, hk, hname⟩
      exact fun hcreatable => hcreatable.unoccupied k hk hname

/-- The request stops where something is not possible, and nowhere else. -/
theorem contract_make (c : Creation) :
    Contract (Smooth s) (fun _ m op => Answers (Smooth s) m op ∨ ¬ c.Possible s)
      (fun _ m r => (r.isOk = true → c.Makes s m) ∧ (r.isOk = true ↔ c.Possible s)) [] s
      (program c.request) := by
  cases c with
  | employee dto actor =>
      refine Straight.map (Straight.mono (contract_makeEmployee dto actor)
        (fun _ _ _ h => h.imp_right not_exists.2) fun _ _ _ h => h) ?_
      intro own m r h
      cases r with
      | ok account =>
          rcases h with ⟨role, userId, employee, assignment, hcreatable, hmade⟩
          exact ⟨fun _ => ⟨role, userId, employee, assignment, hcreatable, hmade⟩,
            iff_of_true rfl ⟨role, hcreatable⟩⟩
      | error e => exact ⟨fun hok => (by cases hok), iff_of_false (fun hok => by cases hok) (not_exists.2 h)⟩
  | role dto actorKeycloakUserId =>
      refine Straight.map (contract_makeRole dto actorKeycloakUserId) ?_
      intro own m r h
      cases r with
      | ok details => exact ⟨fun _ => h.2, iff_of_true rfl h.1⟩
      | error e => exact ⟨fun hok => (by cases hok), iff_of_false (fun hok => by cases hok) h⟩

/-- Where no call fails for a reason of its own, it succeeds exactly if it is possible. -/
theorem run_isOk {choices : Nat → Choice} (hsmooth : ∀ k, Smooth s (choices k)) :
    (c.run choices s).result.isOk = true ↔ c.Possible s := by
  unfold run
  rcases exec_smooth c.contract_make hsmooth with hend | ⟨own, op, e, hno, hthrown⟩
  · exact hend.2
  · rw [hthrown]
    exact iff_of_false (fun hok => by cases hok) hno

theorem run_makes {choices : Nat → Choice} (hsmooth : ∀ k, Smooth s (choices k))
    (hok : (c.run choices s).result.isOk = true) : c.Makes s (c.run choices s).state :=
  ((contract_make (s := s) c).exec_value hsmooth hok).1 hok

/-- Before the remote call, and at it, nothing has been changed; behind it the name is taken. -/
theorem contract_stages (c : Creation) :
    Contract (fun _ => True)
      (fun own m _ => (own.length ≤ c.remoteCall ∧ m = s) ∨
        (c.remoteCall < own.length ∧ c.Taken m)) (fun _ _ _ => True) [] s (program c.request) := by
  cases c with
  | employee dto actor =>
      refine Straight.map (Straight.mono (contract_createEmployee dto actor) ?_ fun _ _ _ h => h)
        fun _ _ _ _ => trivial
      intro own m op h
      cases h with
      | reading hlen => exact .inl ⟨Nat.le_of_lt_succ hlen, rfl⟩
      | occupied hlen huser _ => exact .inr ⟨hlen, huser⟩
      | created hlen hcreated => exact .inr ⟨hlen, hcreated.occupied⟩
  | role dto actorKeycloakUserId =>
      refine Straight.map (Straight.mono (contract_createRole dto actorKeycloakUserId) ?_
        fun _ _ _ h => h) fun _ _ _ _ => trivial
      intro own m op h
      cases h with
      | reading hlen => exact .inl ⟨Nat.le_of_lt_succ hlen, rfl⟩
      | named hlen hname => exact .inr ⟨hlen, hname⟩

end Creation

/-! ## A failing call -/

/-- The `n`-th call fails, without effect. -/
def failing (choices : Nat → Choice) (n k : Nat) : Choice :=
  { choices k with fails := (choices k).fails || k == n }

/-- A request that would succeed, were it not for one failing call. Sent once more, it succeeds and
leaves what it would have left, but for ids and times, exactly if the call was not behind the one
that creates the object in Keycloak. -/
theorem repeated_iff (s : Store) (c : Creation) (choices : Nat → Choice)
    (hsmooth : ∀ k, Smooth s (choices k)) (hok : (c.run choices s).result.isOk = true) (n : Nat)
    (failed : Awaited sig HttpError)
    (hcall : (c.run (failing choices n) s).awaited[n]? = some failed)
    (hfailed : failed.res.isOk = false) (choices' : Nat → Choice)
    (hsmooth' : ∀ k, Smooth (c.run (failing choices n) s).state (choices' k)) :
    ((c.run choices' (c.run (failing choices n) s).state).result.isOk = true ∧
      Alike (c.run choices' (c.run (failing choices n) s).state).state (c.run choices s).state) ↔
      n ≤ c.remoteCall := by
  have hcontract : Contract (fun _ => True) _ _ [] s (program c.request) := c.contract_stages
  rcases hcontract.exec_failed (fun _ => trivial) hcall hfailed with
    ⟨before, op, e, m, rfl, _, hstage, _, hperform, _⟩
  have hsilent : (failing choices before.length before.length).Silent := .inl (by simp [failing])
  have hstate : (c.run (failing choices before.length) s).state = m :=
    perform_error_same hperform (.inr hsilent)
  rw [hstate] at hsmooth' ⊢
  rcases hstage with ⟨hle, rfl⟩ | ⟨hlt, htaken⟩
  · have hok' : (c.run choices' m).result.isOk = true :=
      (Creation.run_isOk hsmooth').2 ((Creation.run_isOk hsmooth).1 hok)
    have halike := (Creation.run_makes hsmooth' hok').alike (Creation.run_makes hsmooth hok)
    exact iff_of_true ⟨hok', halike⟩ hle
  · refine iff_of_false (fun h => ?_) (Nat.not_le_of_lt hlt)
    exact htaken.not_possible ((Creation.run_isOk hsmooth').1 h.1)

/-! ### A new teller -/

def bobAsTeller : Creation :=
  .employee ⟨"bob", "bob@bank.example", "Bob", "Sen", "secret", "r-1", .undefined⟩ superadmin

/-- `POST users` fails, and the request is sent once more. -/
theorem repeated_posting :
    ((bobAsTeller.run (fun _ => freshly)
        (bobAsTeller.run (failing (fun _ => freshly) 4) delegatedStore).state).result.isOk = true ∧
      Alike (bobAsTeller.run (fun _ => freshly)
        (bobAsTeller.run (failing (fun _ => freshly) 4) delegatedStore).state).state
        (bobAsTeller.run (fun _ => freshly) delegatedStore).state) ↔ 4 ≤ bobAsTeller.remoteCall := by
  have hstate : (bobAsTeller.run (failing (fun _ => freshly) 4) delegatedStore).state =
      delegatedStore := rfl
  refine repeated_iff delegatedStore bobAsTeller (fun _ => freshly) (fun _ => freshly_smooth)
    (by decide) 4 ⟨.keycloak (.postUser
      ⟨"bob", "bob@bank.example", "Bob", "Sen", true, true⟩), .error (.httpFailed "")⟩ (by decide) rfl
    (fun _ => freshly) fun _ => ?_
  rw [hstate]
  exact freshly_smooth

/-- The insert of the employee fails; sent once more, the request finds its user in Keycloak. -/
theorem repeated_refused :
    (bobAsTeller.run (fun _ => freshly) delegatedStore).result.isOk = true ∧
      (bobAsTeller.run (failing (fun _ => freshly) 11) delegatedStore).result =
        .error (.queryFailed "") ∧
      (bobAsTeller.run (fun _ => answered (longId 1))
        (bobAsTeller.run (failing (fun _ => freshly) 11) delegatedStore).state).result =
        .error (.unauthorized "User exists with same username") := by
  exact ⟨by decide, by decide, by decide⟩

end Rbac
end IdentityBillpay
