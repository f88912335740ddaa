import IdentityBillpay.Bbps.Access
import IdentityBillpay.Js.Text

/-!
# Constants — the roles of a token, the duty of a role and its level

The lists and functions of `rbac.constants.ts` over the roles that `extractRealmRoles` reads.

* `isSuperadmin`, `isEmployeeManager` — what a token allows;
* `resolveRoleDutyType` — maker, checker or neither, by the role's name;
* `resolveRoleHierarchyLevel`, `resolveActorHierarchyLevel` — the level of a role and of an actor;
* `canManageEmployeeWithRole`, `canAssignRoleToEmployee` — the comparisons of levels.
-/

namespace IdentityBillpay
namespace Rbac

open Bbps (Actor extractRealmRoles)

def SUPERADMIN_ROLES : List String :=
  ["BANK_SUPER_ADMIN", "SUPERADMIN", "superadmin"]

def DELEGATING_ADMIN_ROLES : List String :=
  ["BANK_ADMIN", "BANK_SUPER_ADMIN"]

def isSuperadmin (user : Actor) : Bool :=
  (extractRealmRoles user).any fun role => SUPERADMIN_ROLES.contains role

def isEmployeeManager (user : Actor) : Bool :=
  isSuperadmin user || (extractRealmRoles user).any fun role => DELEGATING_ADMIN_ROLES.contains role

/-! ## Duties -/

inductive RoleDutyType
  | MAKER
  | CHECKER
  | OTHER
  deriving DecidableEq

def resolveRoleDutyType (roleName : String) : RoleDutyType :=
  if Js.testWord "MAKER" roleName.toList then .MAKER
  else if Js.testWord "CHECKER" roleName.toList then .CHECKER
  else .OTHER

/-! ## Levels -/

def ROLE_HIERARCHY_LEVELS : List (String × Nat) :=
  [("BANK_SUPER_ADMIN", 100), ("SUPERADMIN", 100), ("superadmin", 100), ("BANK_ADMIN", 80),
    ("BANK_MAKER", 50), ("BANK_CHECKER", 50), ("CORPORATE_IT_ADMIN", 40), ("CORPORATE_MAKER", 30),
    ("CORPORATE_CHECKER", 30), ("CORPORATE_VIEWER", 20), ("RETAIL_CUSTOMER", 10)]

def DEFAULT_ROLE_HIERARCHY_LEVEL : Nat := 10

/-- The properties that every object literal inherits from `Object.prototype`. -/
def OBJECT_PROTOTYPE : List String :=
  ["constructor", "__defineGetter__", "__defineSetter__", "hasOwnProperty", "__lookupGetter__",
    "__lookupSetter__", "isPrototypeOf", "propertyIsEnumerable", "toString", "valueOf", "__proto__",
    "toLocaleString"]

/-- What a level can be: a number, or an object or a function of `Object.prototype`. -/
inductive Level
  | number (n : Nat)
  | inherited (property : String)
  deriving DecidableEq

/-- `ROLE_HIERARCHY_LEVELS[name]`. -/
def levelProperty (name : String) : Option Level :=
  match ROLE_HIERARCHY_LEVELS.lookup name with
  | some n => some (.number n)
  | none => if OBJECT_PROTOTYPE.contains name then some (.inherited name) else none

/-- `roleName.trim().toUpperCase().replace(/\s+/g, '_')`. -/
def normalized (roleName : String) : String :=
  String.ofList (Js.underscored false (Js.toUpperCase (Js.trim roleName.toList)))

def resolveRoleHierarchyLevel (roleName : String) : Level :=
  match levelProperty roleName with
  -- Any property of the object, inherited ones included.
  | some exact => exact
  | none =>
      match levelProperty (normalized roleName) with
      | some normalizedLevel => normalizedLevel
      | none =>
          if Js.testWords "SUPER" "ADMIN" roleName.toList then .number 100
          else if Js.testWord "BANK_ADMIN" roleName.toList then .number 80
          else if Js.testWord "MAKER" roleName.toList || Js.testWord "CHECKER" roleName.toList then
            .number 50
          else .number DEFAULT_ROLE_HIERARCHY_LEVEL

/-- The level as a number; `none` is `NaN`. -/
def Level.toNumber : Level → Option Nat
  | .number n => some n
  | .inherited _ => none

/-- `Math.max` of two numbers. -/
def maxNumber : Option Nat → Option Nat → Option Nat
  | some m, some n => some (max m n)
  | _, _ => none

/-- `m > n`, which is false for `NaN`. -/
def exceeds : Option Nat → Option Nat → Bool
  | some m, some n => n < m
  | _, _ => false

def resolveActorHierarchyLevel (actor : Actor) : Option Nat :=
  match extractRealmRoles actor with
  | [] => some DEFAULT_ROLE_HIERARCHY_LEVEL
  | role :: roles =>
      roles.foldl (fun level role => maxNumber level (resolveRoleHierarchyLevel role).toNumber)
        (resolveRoleHierarchyLevel role).toNumber

def canManageEmployeeWithRole (actor : Actor) (employeeRoleName : String) : Bool :=
  isSuperadmin actor ||
    exceeds (resolveActorHierarchyLevel actor) (resolveRoleHierarchyLevel employeeRoleName).toNumber

def canAssignRoleToEmployee (actor : Actor) (targetRoleName : String) : Bool :=
  isSuperadmin actor ||
    exceeds (resolveActorHierarchyLevel actor) (resolveRoleHierarchyLevel targetRoleName).toNumber

example : resolveRoleHierarchyLevel " bank  maker" = .number 50 ∧
    resolveRoleHierarchyLevel "My_Super-Admin" = .number 100 ∧
    resolveRoleHierarchyLevel "TELLER" = .number 10 ∧
    resolveRoleHierarchyLevel "constructor" = .inherited "constructor" := by
  decide

/-! ## Lemmas -/

theorem exceeds_iff {m n : Option Nat} :
    exceeds m n = true ↔ ∃ a b, m = some a ∧ n = some b ∧ b < a := by
  cases m with
  | none => simp [exceeds]
  | some a =>
      cases n with
      | none => simp [exceeds]
      | some b => simp [exceeds]

/-- No level is above that of a superadmin. -/
theorem level_le {name : String} {n : Nat} (h : resolveRoleHierarchyLevel name = .number n) :
    n ≤ 100 := by
  have hproperty : ∀ {name : String}, levelProperty name = some (.number n) → n ≤ 100 := by
    intro name hname
    unfold levelProperty at hname
    split at hname
    · rename_i hlookup
      cases hname
      have hall : ∀ entry ∈ ROLE_HIERARCHY_LEVELS, entry.2 ≤ 100 := by decide
      rcases List.lookup_eq_some_iff.1 hlookup with ⟨before, after, hlevels, _⟩
      exact hall (name, n) (by rw [hlevels]; simp)
    · split at hname
      · cases hname
      · cases hname
  unfold resolveRoleHierarchyLevel at h
  split at h
  · rename_i level hlevel
    exact hproperty (h ▸ hlevel)
  · split at h
    · rename_i level hlevel
      exact hproperty (h ▸ hlevel)
    · -- The patterns give fixed numbers.
      unfold DEFAULT_ROLE_HIERARCHY_LEVEL at h
      split at h
      · cases h
        decide
      · split at h
        · cases h
          decide
        · split at h
          · cases h
            decide
          · cases h
            decide

theorem superadmin_level {name : String} (h : name ∈ SUPERADMIN_ROLES) :
    resolveRoleHierarchyLevel name = .number 100 := by
  have hall : ∀ name ∈ SUPERADMIN_ROLES, resolveRoleHierarchyLevel name = .number 100 := by decide
  exact hall name h

theorem maxNumber_some {a b : Option Nat} {n : Nat} (h : maxNumber a b = some n) :
    ∃ k l, a = some k ∧ b = some l ∧ n = max k l := by
  cases a with
  | none => cases h
  | some k =>
      cases b with
      | none => cases h
      | some l =>
          cases h
          exact ⟨k, l, rfl, rfl, rfl⟩

/-- The level of an actor is the level of one of its roles, if it has any. -/
theorem actorLevel_attained {actor : Actor} {n : Nat} (h : resolveActorHierarchyLevel actor = some n) :
    extractRealmRoles actor = [] ∨
      ∃ role ∈ extractRealmRoles actor, resolveRoleHierarchyLevel role = .number n := by
  have hnumber : ∀ {level : Level}, level.toNumber = some n → level = .number n := by
    intro level hlevel
    cases level with
    | number k =>
        cases hlevel
        rfl
    | inherited property => cases hlevel
  -- The fold of `Math.max` ends at its start or at the level of a role.
  have hfold : ∀ (roles : List String) (first : Option Nat),
      roles.foldl (fun level role => maxNumber level (resolveRoleHierarchyLevel role).toNumber) first =
        some n → first = some n ∨ ∃ role ∈ roles, resolveRoleHierarchyLevel role = .number n := by
    intro roles
    induction roles with
    | nil => exact fun first hfirst => .inl hfirst
    | cons role roles ih =>
        intro first hfirst
        rcases ih _ hfirst with hmax | ⟨role', hrole', hlevel⟩
        · rcases maxNumber_some hmax with ⟨k, l, hk, hl, hn⟩
          rcases Nat.le_total k l with hle | hle
          · rw [Nat.max_eq_right hle] at hn
            exact .inr ⟨role, List.mem_cons_self, hnumber (hn ▸ hl)⟩
          · rw [Nat.max_eq_left hle] at hn
            exact .inl (hn ▸ hk)
        · exact .inr ⟨role', List.mem_cons_of_mem _ hrole', hlevel⟩
  unfold resolveActorHierarchyLevel at h
  split at h
  · rename_i hroles
    exact .inl hroles
  · rename_i role roles hroles
    rw [hroles]
    rcases hfold roles _ h with hfirst | ⟨role', hrole', hlevel⟩
    · exact .inr ⟨role, List.mem_cons_self, hnumber hfirst⟩
    · exact .inr ⟨role', List.mem_cons_of_mem _ hrole', hlevel⟩

end Rbac
end IdentityBillpay
