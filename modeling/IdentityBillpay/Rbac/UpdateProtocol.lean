import IdentityBillpay.Rbac.EmployeesService

/-!
# UpdateProtocol — what `updateRole` may await next

* `Reads` — the employee and the assignment that a request has read;
* `Awaits` — the protocol of `updateRole`;
* `follows_updateRole`, `follows_program` — the code follows it.
-/

namespace IdentityBillpay
namespace Rbac

open Async Async.Program Keycloak
open Bbps (Actor)

/-- The employee, and what was read of its assignment. -/
structure Reads (own : Own) (dto : UpdateEmployeeRoleDto) (employee : Employee) (current : Current) :
    Prop where
  found : (⟨.findActiveEmployee dto.employeeId, .ok (some employee)⟩ : Awaited sig HttpError) ∈ own
  read : (⟨.findAssignment employee.id, .ok current⟩ : Awaited sig HttpError) ∈ own

/-- The role that the request has found to assign. -/
def Finds (own : Own) (dto : UpdateEmployeeRoleDto) (newRole : Role) : Prop :=
  (⟨.findActiveRole dto.roleId, .ok (some newRole)⟩ : Awaited sig HttpError) ∈ own

/-- Keycloak has answered with its role of the name. -/
def LooksUp (own : Own) (name : String) (role : Keycloak.Role) : Prop :=
  (⟨.keycloak (.getRole name), .ok role⟩ : Awaited sig HttpError) ∈ own

/-- Keycloak has taken a role from the user. -/
def Removes (own : Own) (userId : String) : Prop :=
  ∃ role, (⟨.keycloak (.deleteRoleMapping userId role), .ok ()⟩ : Awaited sig HttpError) ∈ own

/-- The operation gives a role to a user. -/
def Op.assigns : Op → Bool
  | .keycloak (.postRoleMapping _ _) => true
  | _ => false

/-- The request has yet to give a role to a user. -/
def NotAssigned (own : Own) : Prop :=
  ∀ a ∈ own, a.op.assigns = false

/-- One constructor for each kind of call. -/
inductive Awaits (dto : UpdateEmployeeRoleDto) (actor : Actor) : Own → Op → Prop
  | read {own : Own} {op : Op} (hread : op.isRead = true) : Awaits dto actor own op
  /-- The role that was read is taken away. -/
  | remove {own : Own} {employee : Employee} {assignment : EmployeeUserRole} {role : Role}
      {keycloakRole : Keycloak.Role} (hreads : Reads own dto employee (some (assignment, some role)))
      (hrole : LooksUp own role.keycloakRoleName keycloakRole) (hnot : NotAssigned own) :
      Awaits dto actor own (.keycloak (.deleteRoleMapping employee.keycloakUserId keycloakRole))
  /-- The new role is given, after one that was read with the assignment has been taken away. -/
  | assign {own : Own} {employee : Employee} {current : Current} {newRole : Role}
      {keycloakRole : Keycloak.Role} (hreads : Reads own dto employee current)
      (hfinds : Finds own dto newRole) (hrole : LooksUp own newRole.keycloakRoleName keycloakRole)
      (hremoved : ∀ assignment role, current = some (assignment, some role) →
        Removes own employee.keycloakUserId)
      (hnot : NotAssigned own) :
      Awaits dto actor own (.keycloak (.postRoleMapping employee.keycloakUserId keycloakRole))
  | save {own : Own} {employee : Employee} {assignment : EmployeeUserRole} {role : Option Role}
      {newRole : Role} (hreads : Reads own dto employee (some (assignment, role)))
      (hfinds : Finds own dto newRole) :
      Awaits dto actor own (.saveAssignment (EmployeesService.reassigned assignment newRole actor))
  | insert {own : Own} {employee : Employee} {new : NewAssignment}
      (hreads : Reads own dto employee none) : Awaits dto actor own (.insertAssignment new)

/-! ## Traces that go on -/

/-- `own'` goes on from `own` with calls that give no role to a user. -/
structure GoesOn (own own' : Own) : Prop where
  kept : ∀ a ∈ own, a ∈ own'
  notAssigned : NotAssigned own → NotAssigned own'

theorem GoesOn.refl (own : Own) : GoesOn own own := ⟨fun _ ha => ha, id⟩

theorem GoesOn.trans {own own' own'' : Own} (h : GoesOn own own') (h' : GoesOn own' own'') :
    GoesOn own own'' :=
  ⟨fun a ha => h'.kept a (h.kept a ha), fun hnot => h'.notAssigned (h.notAssigned hnot)⟩

theorem GoesOn.call (own : Own) {op : Op} (hop : op.assigns = false)
    (res : Except HttpError op.Res) : GoesOn own (own ++ [⟨op, res⟩]) := by
  refine ⟨fun a ha => List.mem_append_left _ ha, fun hnot a ha => ?_⟩
  rcases List.mem_append.1 ha with hold | hnew
  · exact hnot a hold
  · rw [List.mem_singleton.1 hnew]
    exact hop

theorem GoesOn.reads {own own' : Own} (h : GoesOn own own') {dto : UpdateEmployeeRoleDto}
    {employee : Employee} {current : Current} (hreads : Reads own dto employee current) :
    Reads own' dto employee current :=
  ⟨h.kept _ hreads.found, h.kept _ hreads.read⟩

theorem isRead_assigns {op : Op} (hread : op.isRead = true) : op.assigns = false := by
  cases op with
  | keycloak op =>
      cases op with
      | postRoleMapping userId role => cases hread
      | _ => rfl
  | _ => rfl

section Reading

variable {P : Own → Op → Prop} {own : Own}

/-- A part that only reads, with what it is known to have read when it resolves. -/
abbrev Looks {α : Type} (P : Own → Op → Prop) (own : Own) (T : Own → α → Prop) (p : Prog α) : Prop :=
  Follows P (fun own' r => GoesOn own own' ∧ ∀ a, r = .ok a → T own' a) own p

theorem looks_read {op : Op} (hP : ∀ own op, op.isRead = true → P own op) (hread : op.isRead = true) :
    Looks P own (fun own' a => (⟨op, .ok a⟩ : Awaited sig HttpError) ∈ own') (call op) := by
  refine ⟨hP _ _ hread, fun r => follows_settled.2 ⟨GoesOn.call own (isRead_assigns hread) r, ?_⟩⟩
  intro a ha
  subst ha
  exact List.mem_append_right _ (List.mem_singleton_self _)

theorem looks_settled {α : Type} (r : Except HttpError α) :
    Looks P own (fun _ a => r = .ok a) (settled r) :=
  follows_settled.2 ⟨.refl own, fun _ ha => ha⟩

theorem Looks.bind {α β : Type} {T : Own → α → Prop} {U : Own → β → Prop} {p : Prog α}
    {f : α → Prog β} (hp : Looks P own T p)
    (hf : ∀ own' a, GoesOn own own' → T own' a → Looks P own' U (f a)) :
    Looks P own U (p >>= f) := by
  refine Follows.bind hp ?_ ?_
  · intro own' a h
    refine (hf own' a h.1 (h.2 a rfl)).mono (fun _ _ hop => hop) fun own'' r hr => ?_
    exact ⟨h.1.trans hr.1, hr.2⟩
  · intro own' e h
    exact ⟨h.1, fun a ha => by cases ha⟩

variable (hP : ∀ own op, op.isRead = true → P own op)

include hP

theorem looks_assignableRole (actor : Actor) (roleId : String) :
    Looks P own
      (fun own' role => (⟨.findActiveRole roleId, .ok (some role)⟩ : Awaited sig HttpError) ∈ own')
      (EmployeesService.assignableRole actor roleId) := by
  unfold EmployeesService.assignableRole RolesService.assertCanAssignRole
  have hrole : Looks P own
      (fun own' role => (⟨.findActiveRole roleId, .ok (some role)⟩ : Awaited sig HttpError) ∈ own')
      (RolesService.assertCanAssignRole actor roleId) := by
    unfold RolesService.assertCanAssignRole
    refine (looks_read hP rfl).bind fun own₁ found _ hfound => ?_
    cases (found : Option Role) with
    | none => exact ⟨.refl _, fun a ha => by cases ha⟩
    | some role =>
        dsimp only
        split
        · exact ⟨.refl _, fun a ha => by cases ha; exact hfound⟩
        · refine (looks_read hP rfl).bind fun own₂ delegation h₂ _ => ?_
          cases (delegation : Option DelegatedRole) with
          | none => exact ⟨.refl _, fun a ha => by cases ha⟩
          | some d => exact ⟨.refl _, fun a ha => by cases ha; exact h₂.kept _ hfound⟩
  refine hrole.bind fun own₁ role _ hfound => ?_
  have hduty : Looks P own₁ (fun _ _ => True)
      (RolesService.assertMakerCheckerCompatibility [roleId]) := by
    unfold RolesService.assertMakerCheckerCompatibility
    refine (looks_read hP rfl).bind fun own₂ roles _ _ => ?_
    split
    · exact ⟨.refl _, fun _ _ => trivial⟩
    · exact ⟨.refl _, fun _ _ => trivial⟩
  refine hduty.bind fun own₂ _ h₂ _ => ?_
  refine (looks_settled _).bind fun own₃ _ h₃ _ => ?_
  exact ⟨.refl _, fun a ha => by cases ha; exact h₃.kept _ (h₂.kept _ hfound)⟩

theorem looks_findRoleWithPermissions (roleId : String) :
    Looks P own (fun _ _ => True) (RolesService.findRoleWithPermissions roleId) := by
  unfold RolesService.findRoleWithPermissions
  refine (looks_read hP rfl).bind fun own₁ found _ _ => ?_
  cases (found : Option Role) with
  | none => exact ⟨.refl _, fun _ _ => trivial⟩
  | some role =>
      refine (looks_read hP rfl).bind fun own₂ mappings _ _ => ?_
      refine (looks_read hP rfl).bind fun own₃ delegations _ _ => ?_
      refine (looks_settled _).bind fun own₄ permissions _ _ => ?_
      exact ⟨.refl _, fun _ _ => trivial⟩

theorem looks_publishAccount (employee : Employee) (assignment : EmployeeUserRole) (role : Role)
    (updatedBy : Option String) :
    Looks P own (fun _ _ => True)
      (EmployeesService.publishAccount employee assignment role updatedBy) := by
  unfold EmployeesService.publishAccount
  refine (looks_findRoleWithPermissions hP role.id).bind fun own₁ details _ _ => ?_
  refine (looks_read hP rfl).bind fun own₂ _ _ _ => ?_
  unfold getUserRealmRoles
  rw [bind_assoc]
  refine (looks_read hP rfl).bind fun own₃ _ _ _ => ?_
  refine (looks_read hP rfl).bind fun own₄ _ _ _ => ?_
  exact ⟨.refl _, fun _ _ => trivial⟩

end Reading

/-! ## The code -/

theorem follows_updateRole (dto : UpdateEmployeeRoleDto) (actor : Actor) :
    Follows (Awaits dto actor) (fun _ _ => True) [] (EmployeesService.updateRole dto actor) := by
  have hP : ∀ own op, op.isRead = true → Awaits dto actor own op := fun _ _ hread => .read hread
  -- One step of the body: what it has looked up is known to the rest.
  have hlook : ∀ {α β : Type} {own : Own} {T : Own → α → Prop} {p : Prog α} {f : α → Prog β},
      Looks (Awaits dto actor) own T p →
        (∀ own' a, GoesOn own own' → T own' a →
          Follows (Awaits dto actor) (fun _ _ => True) own' (f a)) →
        Follows (Awaits dto actor) (fun _ _ => True) own (p >>= f) := by
    intro α β own T p f hp hf
    exact Follows.bind hp (fun own' a h => hf own' a h.1 (h.2 a rfl)) fun _ _ _ => trivial
  unfold EmployeesService.updateRole
  refine follows_settled_bind (fun _ _ => trivial) fun _ _ => ?_
  refine hlook (looks_read hP rfl) fun own₁ found h₁ hfound => ?_
  have hnot₁ : NotAssigned own₁ := h₁.notAssigned fun a ha => absurd ha List.not_mem_nil
  cases (found : Option Employee) with
  | none => trivial
  | some employee =>
      -- The checks only read.
      refine hlook (looks_assignableRole hP actor dto.roleId) fun own₂ newRole h₂ hfinds => ?_
      refine hlook (looks_read hP rfl) fun own₃ current h₃ hcurrent => ?_
      refine follows_settled_bind (fun _ _ => trivial) fun _ _ => ?_
      have hreads₃ : Reads own₃ dto employee current :=
        ⟨h₃.kept _ (h₂.kept _ hfound), hcurrent⟩
      have hfinds₃ : Finds own₃ dto newRole := h₃.kept _ hfinds
      have hnot₃ : NotAssigned own₃ := h₃.notAssigned (h₂.notAssigned hnot₁)
      unfold EmployeesService.changeRole
      -- Taking the role away makes no call when there is none.
      have hremove : Follows (Awaits dto actor)
          (fun own' r => GoesOn own₃ own' ∧ (r = .ok () → ∀ assignment role,
            current = some (assignment, some role) → Removes own' employee.keycloakUserId))
          own₃ (EmployeesService.removeCurrentRole employee current) := by
        unfold EmployeesService.removeCurrentRole
        split
        · rename_i assignment role
          unfold removeRealmRoleFromUser
          refine Follows.bind (looks_read hP rfl) ?_ (fun own' e h => ⟨h.1, fun hr => by cases hr⟩)
          intro own₄ _ h
          refine Follows.bind (looks_read hP rfl) ?_
            (fun own' e h' => ⟨h.1.trans h'.1, fun hr => by cases hr⟩)
          intro own₅ keycloakRole h'
          have hgoes := h.1.trans h'.1
          refine ⟨.remove (hgoes.reads hreads₃) (h'.2 _ rfl) (hgoes.notAssigned hnot₃), fun r => ?_⟩
          have hcall := @GoesOn.call own₅
            (.keycloak (.deleteRoleMapping employee.keycloakUserId keycloakRole)) rfl r
          refine follows_settled.2 ⟨hgoes.trans hcall, fun hr _ _ _ => ?_⟩
          subst hr
          exact ⟨keycloakRole, List.mem_append_right _ (List.mem_singleton_self _)⟩
        · rename_i hno
          exact ⟨.refl _, fun _ assignment role hcurrent => absurd hcurrent (hno assignment role)⟩
      refine Follows.bind hremove ?_ (fun _ _ _ => trivial)
      intro own₄ _ h
      rcases h with ⟨h₄, hremoved⟩
      have hremoved₄ := hremoved rfl
      -- The new realm role is looked up by name and given.
      unfold assignRealmRoleToUser
      rw [bind_assoc]
      refine hlook (looks_read hP rfl) fun own₅ _ h₅ _ => ?_
      rw [bind_assoc]
      refine hlook (looks_read hP rfl) fun own₆ keycloakRole h₆ hrole => ?_
      have hgoes : GoesOn own₄ own₆ := h₅.trans h₆
      have hall : GoesOn own₃ own₆ := h₄.trans hgoes
      refine follows_call_bind
        (.assign (hall.reads hreads₃) (hall.kept _ hfinds₃) hrole ?_ (hall.notAssigned hnot₃))
        (fun _ => trivial) fun _ => ?_
      · intro assignment role hcurrent
        rcases hremoved₄ assignment role hcurrent with ⟨removed, hmem⟩
        exact ⟨removed, hgoes.kept _ hmem⟩
      -- What has been read stays in the trace behind the later calls.
      have hreads₇ : ∀ a, Reads (own₆ ++ [a]) dto employee current := fun a =>
        ⟨List.mem_append_left _ (hall.kept _ hreads₃.found),
          List.mem_append_left _ (hall.kept _ hreads₃.read)⟩
      have hfinds₇ : ∀ a, Finds (own₆ ++ [a]) dto newRole := fun a =>
        List.mem_append_left _ (hall.kept _ hfinds₃)
      have hpublish : ∀ own assignment, Follows (Awaits dto actor) (fun _ _ => True) own
          (EmployeesService.publishAccount employee assignment newRole actor.sub) :=
        fun own assignment => (looks_publishAccount hP employee assignment newRole actor.sub).mono
          (fun _ _ hop => hop) fun _ _ _ => trivial
      -- The row is saved, or inserted for an employee without one.
      unfold EmployeesService.storeAssignment
      split
      · rw [bind_assoc]
        refine follows_call_bind (.save (hreads₇ _) (hfinds₇ _)) (fun _ => trivial) fun _ => ?_
        exact hpublish _ _
      · refine follows_call_bind (.insert (hreads₇ _)) (fun _ => trivial) fun assignment => ?_
        exact hpublish _ _

/-- The protocol of the requests that change an employee's role. -/
def Request.Awaits : Request → Own → Op → Prop
  | .updateEmployeeRole dto actor => Rbac.Awaits dto actor
  | _ => fun _ _ => True

theorem follows_program (r : Request) : Follows r.Awaits (fun _ _ => True) [] (service.program r) := by
  cases r with
  | updateEmployeeRole dto actor => exact (follows_updateRole dto actor).andThen fun _ _ => trivial
  | _ => exact follows_trivial _ _

end Rbac
end IdentityBillpay
