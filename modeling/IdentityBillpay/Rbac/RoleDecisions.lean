import IdentityBillpay.Common.Guards
import IdentityBillpay.Rbac.RolesService

/-!
# RoleDecisions — which roles of a token the checks look at

`extractRealmRoles` falls back to the top-level `roles` of a token without realm roles. The guards
and `assertCanAssignRole` read `realm_access.roles` only.

* `FallsBack` — the fallback gives a token one of the names looked for;
* `realmRoles_any_iff` — a check of the realm roles alone is `hasAnyRealmRole`, but for such tokens;
* `decisions_agree` — the two guards and the superadmin's shortcut.
-/

namespace IdentityBillpay
namespace Rbac

open Async Common
open Bbps (Actor extractRealmRoles hasAnyRealmRole)

/-- The token has no realm role, and one of its top-level roles is among the names. -/
def FallsBack (user : Actor) (names : List String) : Prop :=
  user.realmAccessRoles.getD [] = [] ∧ ∃ role ∈ user.roles.getD [], role ∈ names

/-- `assertCanAssignRole` returns the role it has found without looking for a delegation. -/
def TakesShortcut (actor : Actor) (roleId : String) (role : Role) : Prop :=
  ∃ k, RolesService.assertCanAssignRole actor roleId = .await (.findActiveRole roleId) k ∧
    k (.ok (some role)) = .resolve role

theorem extractRealmRoles_of_ne_nil {user : Actor} (h : user.realmAccessRoles.getD [] ≠ []) :
    extractRealmRoles user = user.realmAccessRoles.getD [] := by
  cases hrealm : user.realmAccessRoles with
  | none => simp [hrealm] at h
  | some roles =>
      cases roles with
      | nil => simp [hrealm] at h
      | cons role roles => simp [extractRealmRoles, hrealm]

theorem extractRealmRoles_of_nil {user : Actor} (h : user.realmAccessRoles.getD [] = []) :
    extractRealmRoles user = user.roles.getD [] := by
  cases hrealm : user.realmAccessRoles with
  | none => simp [extractRealmRoles, hrealm]
  | some roles =>
      have hnil : roles = [] := by simpa [hrealm] using h
      simp [extractRealmRoles, hrealm, hnil]

/-- Looking at the realm roles alone makes a difference exactly if the fallback has a name. -/
theorem realmRoles_any_iff (user : Actor) (names : List String) :
    ((user.realmAccessRoles.getD []).any fun role => names.contains role) =
      hasAnyRealmRole user names ↔ ¬ FallsBack user names := by
  by_cases hnil : user.realmAccessRoles.getD [] = []
  · have hany : hasAnyRealmRole user names = false ↔ ¬ FallsBack user names := by
      simp [hasAnyRealmRole, extractRealmRoles_of_nil hnil, FallsBack, hnil]
    rw [← hany, hnil]
    exact eq_comm
  · have hsame : hasAnyRealmRole user names =
        (user.realmAccessRoles.getD []).any fun role => names.contains role := by
      simp [hasAnyRealmRole, extractRealmRoles_of_ne_nil hnil]
    simp [hsame, FallsBack, hnil]

/-! ## The three checks -/

theorem takesShortcut_iff (actor : Actor) (roleId : String) (role : Role) :
    TakesShortcut actor roleId role ↔ RolesService.isSuperAdmin actor = true := by
  constructor
  · intro h
    rcases h with ⟨k, hk, hrole⟩
    cases hsuper : RolesService.isSuperAdmin actor with
    | true => rfl
    | false =>
        -- Anybody else awaits the lookup of a delegation next.
        cases hk
        simp only [Program.settled, Program.bind, hsuper, Bool.false_eq_true, if_false] at hrole
        cases hrole
  · intro h
    refine ⟨_, rfl, ?_⟩
    simp [Program.settled, Program.bind, h]

/-- The checks agree with `hasAnyRealmRole` on every token whose fallback gives it none of the names
looked for. -/
theorem decisions_agree (user : Actor) (required : List String) (roleId : String) (role : Role) :
    (¬ FallsBack user required →
      (RolesGuard.canActivate (some (anyOf required)) (some user) = .ok true ↔
        required = [] ∨ hasAnyRealmRole user required = true)) ∧
    (¬ FallsBack user ELEVATED_ROLES →
      IdorGuard.isElevated user = hasAnyRealmRole user ELEVATED_ROLES) ∧
    (¬ FallsBack user SUPERADMIN_ROLES →
      (TakesShortcut user roleId role ↔ isSuperadmin user = true)) := by
  refine ⟨?_, ?_, ?_⟩
  · intro h
    rw [rolesGuard_any, (realmRoles_any_iff user required).2 h]
  · exact fun h => (realmRoles_any_iff user ELEVATED_ROLES).2 h
  · intro h
    have hsame : RolesService.isSuperAdmin user = isSuperadmin user :=
      (realmRoles_any_iff user SUPERADMIN_ROLES).2 h
    rw [takesShortcut_iff, hsame]

def unprivileged : Actor :=
  ⟨some "u-1", some [], none⟩

/-- A token whose only role is a top-level one. -/
def topLevelAdmin : Actor :=
  ⟨some "u-2", none, some ["BANK_ADMIN"]⟩

/-- An empty list of roles lets everybody through, and a token whose role is a top-level one is
turned away by both guards. -/
theorem decisions_differ :
    (RolesGuard.canActivate (some (anyOf [])) (some unprivileged) = .ok true ∧
      hasAnyRealmRole unprivileged [] = false) ∧
    (RolesGuard.canActivate (some (anyOf ["BANK_ADMIN"])) (some topLevelAdmin) =
        .error (.forbidden "Mock user does not have the required role") ∧
      hasAnyRealmRole topLevelAdmin ["BANK_ADMIN"] = true) ∧
    (IdorGuard.isElevated topLevelAdmin = false ∧
      hasAnyRealmRole topLevelAdmin ELEVATED_ROLES = true) := by
  decide

end Rbac
end IdentityBillpay
