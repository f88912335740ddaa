import IdentityBillpay.Rbac.Creations

/-!
# RoleEdits — what `update` does to a role

An update may change the description of the Keycloak role, saves the role, and may replace its
delegations. What identifies the role stays.

* `Described`, `RoleEdited` — the changes;
* `contract_updateRealmRole`, `contract_editRole` — the contracts.
-/

namespace IdentityBillpay
namespace Rbac

open Async Async.Program Keycloak

/-- The realm with another description of a role, which its holders show as well. -/
structure Described (r : Realm) (roleName description : String) (r' : Realm) : Prop where
  roles : ∀ x, x ∈ r'.roles ↔ ∃ role ∈ r.roles, x = role.described roleName description
  users : ∀ x, x ∈ r'.users ↔ ∃ u ∈ r.users,
    x = { u with realmRoles := u.realmRoles.map (Keycloak.Role.described roleName description) }

theorem Described.holds {r r' : Realm} {roleName description userId name : String}
    (h : Described r roleName description r') : r'.Holds userId name ↔ r.Holds userId name := by
  constructor
  · intro hholds
    rcases hholds with ⟨x, hx, rfl, role', hrole', rfl⟩
    rcases (h.users x).1 hx with ⟨u, hu, rfl⟩
    rcases List.mem_map.1 hrole' with ⟨role, hrole, rfl⟩
    exact ⟨u, hu, rfl, role, hrole, rfl⟩
  · intro hholds
    rcases hholds with ⟨u, hu, rfl, role, hrole, rfl⟩
    exact ⟨_, (h.users _).2 ⟨u, hu, rfl⟩, rfl, _, List.mem_map_of_mem hrole, rfl⟩

theorem Described.sound {r r' : Realm} {roleName description : String}
    (h : Described r roleName description r') (hsound : r.Sound) : r'.Sound := by
  intro x hx role' hrole'
  rcases (h.users x).1 hx with ⟨u, hu, rfl⟩
  rcases List.mem_map.1 hrole' with ⟨role, hrole, rfl⟩
  exact (h.roles _).2 ⟨role, hsound u hu role hrole, rfl⟩

theorem Described.exists_id {r r' : Realm} {roleName description userId : String}
    (h : Described r roleName description r') (huser : ∃ u ∈ r.users, u.id = userId) :
    ∃ u ∈ r'.users, u.id = userId := by
  rcases huser with ⟨u, hu, hid⟩
  exact ⟨_, (h.users _).2 ⟨u, hu, rfl⟩, hid⟩

/-- `new` is `old` after an edit. -/
structure Edited (old new : Role) : Prop where
  id : new.id = old.id
  name : new.name = old.name
  keycloakName : new.keycloakRoleName = old.keycloakRoleName
  duty : new.dutyType = old.dutyType
  deletedAt : new.deletedAt = old.deletedAt

structure RoleEdited (s : Store) (old new : Role) (m₁ s' : Store) : Prop where
  mem : old ∈ s.roles
  realm : m₁ = s ∨ ∃ description realm, Described s.realm old.keycloakRoleName description realm ∧
    m₁ = { s with realm := realm }
  edited : Edited old new
  saved : ∃ t, (∀ r, r ∈ t ↔ r = new ∨ (r ∈ s.roles ∧ r.id ≠ new.id)) ∧
    ∃ t', s' = { m₁ with roles := t, delegatedRoles := t' }

section Contracts

variable {s : Store} {own : Own} {limits : Choice → Prop}

theorem contract_updateRealmRole (roleName : String) (description : Option String) :
    Contract limits (fun _ _ _ => True)
      (fun own' m r => r = .ok () ∧ (∃ n, Longer n own own') ∧
        ∃ text realm, Described s.realm roleName text realm ∧ m = { s with realm := realm })
      own s (updateRealmRole http roleName description) := by
  unfold updateRealmRole
  have h₀ := Longer.refl own
  refine contract_read h₀ rfl rfl trivial ?_
  intro _ _ own₁ h₁ _
  refine contract_read h₁ rfl rfl trivial ?_
  intro _ existing own₂ h₂ _
  refine contract_last (.keycloak (.putRole roleName _)) h₂ rfl trivial ?_
  intro ch _ own₃ m h₃ hput
  rcases keycloak_ok hput with ⟨realm, hdescribed, rfl⟩
  rcases putRole_ok hdescribed with ⟨hroles, husers⟩
  exact ⟨rfl, ⟨3, h₃⟩, _, realm, ⟨hroles, husers⟩, rfl⟩

theorem contract_editRole (dto : UpdateRoleDto) (actorKeycloakUserId : Option String) :
    Contract limits (fun _ _ _ => True)
      (fun _ m r => (m = s ∧ ∃ e, r = .error e) ∨ ∃ old new m₁, RoleEdited s old new m₁ m) [] s
      (RolesService.update dto actorKeycloakUserId) := by
  unfold RolesService.update
  have h₀ := Longer.refl []
  refine contract_read h₀ rfl rfl trivial ?_
  intro ch found own₁ h₁ hfound
  cases (found : Option Role) with
  | none => exact .inl ⟨rfl, _, rfl⟩
  | some role =>
      rcases findRole_some hfound with ⟨hmem, _, _⟩
      -- The description comes first, if the body sets it.
      have hdescribe : Contract limits (fun _ _ _ => True)
          (fun own' m r => r = .ok () ∧ (∃ n, Longer n own₁ own') ∧ (m = s ∨ ∃ description realm,
            Described s.realm role.keycloakRoleName description realm ∧ m = { s with realm := realm }))
          own₁ s (RolesService.describeRealmRole dto role) := by
        unfold RolesService.describeRealmRole
        split
        · exact (contract_updateRealmRole _ _).mono (fun _ _ _ h => h)
            fun _ _ _ h => ⟨h.1, h.2.1, .inr h.2.2⟩
        · exact ⟨rfl, ⟨0, .refl own₁⟩, .inl rfl⟩
      refine hdescribe.bind ?_ (fun own₂ m e h => by cases h.1)
      intro own₂ m₁ _ h
      rcases h with ⟨_, ⟨n, h₂⟩, hrealm⟩
      have hroles₁ : m₁.roles = s.roles := by
        rcases hrealm with rfl | ⟨_, _, _, rfl⟩
        · rfl
        · rfl
      refine contract_write h₂ rfl trivial ?_
      intro ch' _ own₃ m₂ h₃ _ hsave
      rcases saveRole_ok hsave with ⟨new, t, hrow, rfl, ht⟩
      rcases ChangedRole.row?_some hrow with ⟨hid, hname, hkeycloak, hduty, hdeleted⟩
      -- The delegations are replaced if the body lists them.
      have hredelegate : Contract limits (fun _ _ _ => True)
          (fun own' m r => r = .ok () ∧ ∃ t', m = { m₁ with roles := t, delegatedRoles := t' })
          own₃ { m₁ with roles := t }
          (RolesService.redelegate dto role.id actorKeycloakUserId) := by
        unfold RolesService.redelegate
        split
        · exact (contract_replaceDelegations _ _ _).mono (fun _ _ _ _ => trivial)
            fun _ _ _ h => ⟨h.1, h.2.2⟩
        · exact ⟨rfl, m₁.delegatedRoles, rfl⟩
      refine hredelegate.bind ?_ (fun own₄ m e h => by cases h.1)
      intro own₄ m₃ _ h
      rcases h with ⟨_, t', rfl⟩
      refine (contract_findRoleWithPermissions role.id).mono (fun _ _ _ _ => trivial) ?_
      intro own' m r h
      rcases h with ⟨rfl, _⟩
      refine .inr ⟨role, new, m₁, hmem, hrealm, ⟨hid, hname, hkeycloak, hduty, hdeleted⟩, t, ?_, t', rfl⟩
      intro r
      rw [ht r, hroles₁]

end Contracts

end Rbac
end IdentityBillpay
