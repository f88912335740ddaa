import IdentityBillpay.Js.Json
import IdentityBillpay.Keycloak.Realm
import IdentityBillpay.Bbps.Entities

/-!
# Guards — what is checked before a handler runs

* `Auth` — the decorator that asks for roles;
* `RolesGuard.canActivate` — the caller has the roles asked for;
* `IdorGuard.canActivate` — the caller's own `userId`, or an elevated caller.
-/

namespace IdentityBillpay
namespace Common

open Js Keycloak
open Bbps (Actor)

/-! ## Roles -/

inductive RoleMatchingMode
  | any
  | all
  deriving DecidableEq

structure RoleMetadata where
  roles : List String
  mode : Option RoleMatchingMode

/-- `Roles({ roles: roles.map((role) => 'realm:' + role), mode: RoleMatchingMode.ANY })`. -/
def anyOf (roles : List String) : RoleMetadata where
  roles := roles.map fun role => "realm:" ++ role
  mode := some .any

/-- The metadata that `@Auth(...roles)` leaves on a handler. -/
def Auth (roles : List String) : Option RoleMetadata :=
  if 0 < roles.length then some (anyOf roles) else none

/-- `role.replace(/^realm:/, '')`. -/
def stripRealm (role : String) : String :=
  if "realm:".toList.isPrefixOf role.toList then String.ofList (role.toList.drop 6) else role

namespace RolesGuard

def canActivate (roleMetadata : Option RoleMetadata) (user : Option Actor) :
    Except HttpError Bool :=
  match roleMetadata with
  | none => .ok true
  | some roleMetadata =>
      -- A handler without roles is open to everyone.
      if roleMetadata.roles.length = 0 then .ok true
      else
        let userRoles := (user.bind Actor.realmAccessRoles).getD []
        let requiredRoles := roleMetadata.roles.map stripRealm
        let granted :=
          if roleMetadata.mode = some .all then
            requiredRoles.all fun role => userRoles.contains role
          else requiredRoles.any fun role => userRoles.contains role
        if !granted then .error (.forbidden "Mock user does not have the required role")
        else .ok true

end RolesGuard

/-! ## Ownership -/

def ELEVATED_ROLES : List String :=
  ["BANK_SUPER_ADMIN", "BANK_ADMIN"]

namespace IdorGuard

/-- `roles.some((role) => ELEVATED_ROLES.includes(role))`. -/
def isElevated (user : Actor) : Bool :=
  (user.realmAccessRoles.getD []).any fun role => ELEVATED_ROLES.contains role

def canActivate (user : Option Actor) (body : Json) : Except HttpError Bool :=
  match user with
  | none => .error (.unauthorized "Keycloak access token is required")
  | some user =>
      match user.sub with
      | none => .error (.unauthorized "Keycloak access token is required")
      | some sub =>
          if sub = "" then .error (.unauthorized "Keycloak access token is required")
          else
            let own : Bool :=
              match body.property "userId" with
              | none => true
              -- A falsy `userId` names nobody.
              | some targetUserId => !targetUserId.truthy || targetUserId.isString sub
            if own then .ok true
            else if isElevated user then .ok true
            else .error (.forbidden "Cannot access another user's resource")

end IdorGuard

/-! ## Lemmas -/

theorem stripRealm_prefix (role : String) : stripRealm ("realm:" ++ role) = role := by
  have hlist : ("realm:" ++ role).toList = "realm:".toList ++ role.toList := String.toList_append
  have hprefix : "realm:".toList.isPrefixOf ("realm:".toList ++ role.toList) = true :=
    List.isPrefixOf_iff_prefix.2 (List.prefix_append _ _)
  unfold stripRealm
  rw [hlist, if_pos hprefix, List.drop_left' (by decide)]
  exact String.ofList_toList

theorem rolesGuard_any (user : Actor) (required : List String) :
    RolesGuard.canActivate (some (anyOf required)) (some user) = .ok true ↔
      required = [] ∨
        ((user.realmAccessRoles.getD []).any fun role => required.contains role) = true := by
  have hstripped : (anyOf required).roles.map stripRealm = required := by
    simp [anyOf, Function.comp_def, stripRealm_prefix]
  by_cases hnil : required = []
  · simp [RolesGuard.canActivate, anyOf, hnil]
  · have hlength : (anyOf required).roles.length ≠ 0 := by
      simpa [anyOf] using hnil
    -- The guard runs through the required names, `hasAnyRealmRole` through the caller's.
    have hswap : (required.any fun role => (user.realmAccessRoles.getD []).contains role) =
        (user.realmAccessRoles.getD []).any fun role => required.contains role := by
      rw [Bool.eq_iff_iff]
      simp only [List.any_eq_true, List.contains_iff_mem]
      exact ⟨fun ⟨role, h, h'⟩ => ⟨role, h', h⟩, fun ⟨role, h, h'⟩ => ⟨role, h', h⟩⟩
    have hmode : (anyOf required).mode ≠ some .all := by simp [anyOf]
    simp only [RolesGuard.canActivate, if_neg hlength, if_neg hmode, hstripped, Option.bind_some,
      hswap, hnil, false_or]
    cases hgranted : (user.realmAccessRoles.getD []).any fun role => required.contains role with
    | true => simp
    | false => simp

/-- `@Auth(...)` without a role is no restriction, and neither is an empty list of roles. -/
theorem rolesGuard_Auth (user : Option Actor) (required : List String) :
    RolesGuard.canActivate (Auth required) user =
      RolesGuard.canActivate (some (anyOf required)) user := by
  cases required with
  | nil => rfl
  | cons role roles => rfl

/-- A caller gets through without an elevated role exactly if the body names nobody else. -/
theorem IdorGuard.canActivate_ok {user : Actor} {body : Json}
    (hplain : isElevated user = false) :
    canActivate (some user) body = .ok true ↔
      ∃ sub, user.sub = some sub ∧ sub ≠ "" ∧
        ∀ target, body.property "userId" = some target →
          target.truthy = false ∨ target = .string sub := by
  cases hsub : user.sub with
  | none => simp [canActivate, hsub]
  | some sub =>
      by_cases hempty : sub = ""
      · simp [canActivate, hsub, hempty]
      · cases htarget : body.property "userId" with
        | none => simp [canActivate, hsub, hempty, htarget]
        | some target =>
            cases htruthy : target.truthy with
            | false => simp [canActivate, hsub, hempty, htarget, htruthy]
            | true =>
                cases hstring : target.isString sub with
                | true =>
                    have heq := Json.isString_iff.1 hstring
                    simp only [canActivate, hsub, hempty, htarget, hstring]
                    simp [heq, hempty]
                | false =>
                    have hne : target ≠ .string sub := fun heq => by
                      rw [Json.isString_iff.2 heq] at hstring
                      cases hstring
                    simp [canActivate, hsub, hempty, htarget, htruthy, hstring, hplain, hne]

end Common
end IdentityBillpay
