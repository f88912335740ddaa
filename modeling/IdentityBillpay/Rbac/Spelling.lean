import IdentityBillpay.Js.Patterns
import IdentityBillpay.Rbac.Constants

/-!
# Spelling — the level of a role name and of its normal form

`resolveRoleHierarchyLevel` reads its table once more under the normal form of a name, but its patterns
look at the name as it is spelled.

* `patternLevel` — the level that the patterns give;
* `level_normalized` — the level of a normal form;
* `SpelledAlike` — the patterns find in a name what they find in its normal form;
* `level_spelling_iff` — which names rank as their normal forms do.
-/

namespace IdentityBillpay
namespace Rbac

open Bbps (Actor)

/-- `/SUPER.?ADMIN/i`. -/
abbrev SUPER_ADMIN_PATTERN (roleName : String) : Bool :=
  Js.testWords "SUPER" "ADMIN" roleName.toList

/-- `/BANK_ADMIN/i`. -/
abbrev BANK_ADMIN_PATTERN (roleName : String) : Bool :=
  Js.testWord "BANK_ADMIN" roleName.toList

/-- `/MAKER|CHECKER/i`. -/
abbrev DUTY_PATTERN (roleName : String) : Bool :=
  Js.testWord "MAKER" roleName.toList || Js.testWord "CHECKER" roleName.toList

/-- The level by the patterns alone. -/
def patternLevel (roleName : String) : Nat :=
  if SUPER_ADMIN_PATTERN roleName then 100
  else if BANK_ADMIN_PATTERN roleName then 80
  else if DUTY_PATTERN roleName then 50
  else DEFAULT_ROLE_HIERARCHY_LEVEL

theorem level_eq (roleName : String) : resolveRoleHierarchyLevel roleName =
    (levelProperty roleName).getD
      ((levelProperty (normalized roleName)).getD (.number (patternLevel roleName))) := by
  unfold resolveRoleHierarchyLevel patternLevel
  cases levelProperty roleName with
  | some exact => rfl
  | none =>
      cases levelProperty (normalized roleName) with
      | some level => rfl
      | none =>
          dsimp only [Option.getD_none]
          repeat' split
          all_goals rfl

/-! ## Normal forms -/

theorem toList_normalized (roleName : String) :
    (normalized roleName).toList = Js.normalForm roleName.toList := by
  simp [normalized, Js.normalForm]

theorem normalized_normalized (roleName : String) :
    normalized (normalized roleName) = normalized roleName := by
  rw [← String.toList_inj, toList_normalized, toList_normalized, Js.normalForm_idempotent]

/-- Each inherited property has a letter in lower case. -/
theorem normalized_not_inherited (roleName : String) :
    normalized roleName ∉ OBJECT_PROTOTYPE := by
  have hlower : ∀ name ∈ OBJECT_PROTOTYPE, ∃ c ∈ name.toList, Js.upperCase c ≠ [c] := by
    have hall : (OBJECT_PROTOTYPE.all fun name =>
        name.toList.any fun c => Js.upperCase c != [c]) = true := by
      decide
    simpa only [List.all_eq_true, List.any_eq_true, bne_iff_ne] using hall
  intro hmem
  rcases hlower _ hmem with ⟨c, hc, hne⟩
  rw [toList_normalized] at hc
  exact hne (Js.mem_normalForm hc).1

theorem levelProperty_normalized (roleName : String) : levelProperty (normalized roleName) =
    (ROLE_HIERARCHY_LEVELS.lookup (normalized roleName)).map .number := by
  unfold levelProperty
  cases ROLE_HIERARCHY_LEVELS.lookup (normalized roleName) with
  | some n => rfl
  | none => simp [normalized_not_inherited]

theorem level_normalized (roleName : String) : resolveRoleHierarchyLevel (normalized roleName) =
    (levelProperty (normalized roleName)).getD (.number (patternLevel (normalized roleName))) := by
  rw [level_eq, normalized_normalized]
  cases levelProperty (normalized roleName) with
  | some level => rfl
  | none => rfl

/-- A name of the table ranks as its normal form. -/
theorem level_of_lookup {roleName : String} {n : Nat}
    (h : ROLE_HIERARCHY_LEVELS.lookup roleName = some n) :
    ROLE_HIERARCHY_LEVELS.lookup (normalized roleName) = some n := by
  have hall : ∀ entry ∈ ROLE_HIERARCHY_LEVELS,
      ROLE_HIERARCHY_LEVELS.lookup (normalized entry.1) = some entry.2 := by decide
  rcases List.lookup_eq_some_iff.1 h with ⟨before, after, hlevels, _⟩
  exact hall (roleName, n) (by rw [hlevels]; simp)

/-! ## Patterns -/

/-- The duties of a name are those of its normal form. -/
theorem duty_normalized (roleName : String) :
    DUTY_PATTERN (normalized roleName) = DUTY_PATTERN roleName := by
  have hmaker : Js.Robust "MAKER".toList := by decide +kernel
  have hchecker : Js.Robust "CHECKER".toList := by decide +kernel
  simp only [DUTY_PATTERN, toList_normalized, Js.testWord_normalForm hmaker,
    Js.testWord_normalForm hchecker]

/-- The patterns of the administrators find in a name what they find in its normal form: the first one
both times or not at all, and the second one, too, unless the first is found. -/
def SpelledAlike (roleName : String) : Prop :=
  SUPER_ADMIN_PATTERN roleName = SUPER_ADMIN_PATTERN (normalized roleName) ∧
    (SUPER_ADMIN_PATTERN roleName = false →
      BANK_ADMIN_PATTERN roleName = BANK_ADMIN_PATTERN (normalized roleName))

instance (roleName : String) : Decidable (SpelledAlike roleName) :=
  inferInstanceAs (Decidable (_ ∧ (_ → _)))

theorem patternLevel_eq_iff (roleName : String) :
    patternLevel roleName = patternLevel (normalized roleName) ↔ SpelledAlike roleName := by
  unfold patternLevel SpelledAlike DEFAULT_ROLE_HIERARCHY_LEVEL
  rw [duty_normalized]
  cases SUPER_ADMIN_PATTERN roleName <;> cases SUPER_ADMIN_PATTERN (normalized roleName) <;>
    cases BANK_ADMIN_PATTERN roleName <;> cases BANK_ADMIN_PATTERN (normalized roleName) <;>
    cases DUTY_PATTERN roleName <;> decide

/-- A role ranks as its normal form does, just when its name is no inherited property, and the normal
form is in the table or the patterns find the same in both. -/
theorem level_spelling_iff (roleName : String) :
    resolveRoleHierarchyLevel roleName = resolveRoleHierarchyLevel (normalized roleName) ↔
      roleName ∉ OBJECT_PROTOTYPE ∧
        ((ROLE_HIERARCHY_LEVELS.lookup (normalized roleName)).isSome = true ∨
          SpelledAlike roleName) := by
  rw [level_eq, level_normalized, levelProperty_normalized]
  cases hlookup : ROLE_HIERARCHY_LEVELS.lookup roleName with
  | some n =>
      have hown : roleName ∉ OBJECT_PROTOTYPE := by
        intro hmem
        have hnone : ∀ name ∈ OBJECT_PROTOTYPE, ROLE_HIERARCHY_LEVELS.lookup name = none := by decide
        rw [hnone roleName hmem] at hlookup
        cases hlookup
      simp [levelProperty, hlookup, level_of_lookup hlookup, hown]
  | none =>
      by_cases hmem : roleName ∈ OBJECT_PROTOTYPE
      · have hinherited : levelProperty roleName = some (.inherited roleName) := by
          simp [levelProperty, hlookup, hmem]
        rw [hinherited]
        refine iff_of_false ?_ fun h => h.1 hmem
        cases ROLE_HIERARCHY_LEVELS.lookup (normalized roleName) with
        | some n => simp
        | none => simp
      · have hnone : levelProperty roleName = none := by simp [levelProperty, hlookup, hmem]
        rw [hnone]
        cases ROLE_HIERARCHY_LEVELS.lookup (normalized roleName) with
        | some n => simp [hmem]
        | none => simp [hmem, patternLevel_eq_iff]

/-- A maker can assign a role in one spelling that ranks above it in the other. -/
theorem spaced_bank_admin :
    resolveRoleHierarchyLevel "HEAD BANK ADMIN" = .number 10 ∧
      resolveRoleHierarchyLevel (normalized "HEAD BANK ADMIN") = .number 80 ∧
      canAssignRoleToEmployee ⟨none, some ["BANK_MAKER"], none⟩ "HEAD BANK ADMIN" = true ∧
      canAssignRoleToEmployee ⟨none, some ["BANK_MAKER"], none⟩ (normalized "HEAD BANK ADMIN") =
        false := by
  decide

end Rbac
end IdentityBillpay
