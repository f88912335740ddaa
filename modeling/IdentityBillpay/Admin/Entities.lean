import IdentityBillpay.Bbps.Access
import IdentityBillpay.Js.Date
import IdentityBillpay.Js.Optional

/-!
# Entities — authorization rules, their history, request bodies and errors

* `AuthorizationRule` — a rule as the service holds it, its threshold as text;
* `AuthorizationRuleRow` — a rule as its table holds it; `AuthorizationRule.row?` is what a save
  stores and `AuthorizationRuleRow.entity` what a read returns;
* `AuthorizationRuleHistory`, `Snapshot` — a row of the history;
* `ThresholdText`, `CreateAuthorizationRuleDto`, `UpdateAuthorizationRuleDto` — validated bodies.
-/

namespace IdentityBillpay
namespace Admin

open Js

/-- A threshold column, `DECIMAL(18, 2)`. -/
abbrev Threshold := Sql.Decimal 18 2

/-! ## Request bodies -/

/-- The pattern `^\d+(\.\d{1,2})?$`. -/
def isThreshold (text : String) : Bool :=
  match Sql.Decimal.splitDigits text.toList with
  | some (whole, fraction) =>
      whole != [] && fraction.all Char.isDigit && fraction.length ≤ 2 &&
        (fraction != [] || text.toList == whole)
  | none => false

example : isThreshold "500000.00" = true ∧ isThreshold "1." = false ∧ isThreshold "-1" = false := by
  decide

/-- A text that passes the pattern. -/
structure ThresholdText where
  text : String
  valid : isThreshold text = true
  deriving DecidableEq

structure CreateAuthorizationRuleDto where
  ruleName : String
  cif : String
  threshold : ThresholdText
  deriving DecidableEq

structure UpdateAuthorizationRuleDto where
  id : String
  ruleName : Optional String
  threshold : Optional ThresholdText
  changeReason : Optional String
  deriving DecidableEq

/-! ## Rules -/

/-- A rule in memory. A body may have set its name or its threshold to `null`. -/
structure AuthorizationRule where
  id : String
  ruleName : Option String
  cif : String
  threshold : Option String
  version : Nat
  createdByKeycloakUserId : String
  updatedByKeycloakUserId : Option String
  createdAt : Date
  deletedAt : Option Date
  deriving DecidableEq

structure AuthorizationRuleRow where
  id : String
  ruleName : String
  cif : String
  threshold : Threshold
  version : Nat
  createdByKeycloakUserId : String
  updatedByKeycloakUserId : Option String
  createdAt : Date
  deletedAt : Option Date
  deriving DecidableEq

/-- The highest value of an `INT` column. -/
def INT_MAX : Nat := 2147483647

/-- What reading a row returns. -/
def AuthorizationRuleRow.entity (row : AuthorizationRuleRow) : AuthorizationRule where
  id := row.id
  ruleName := some row.ruleName
  cif := row.cif
  threshold := some row.threshold.toText
  version := row.version
  createdByKeycloakUserId := row.createdByKeycloakUserId
  updatedByKeycloakUserId := row.updatedByKeycloakUserId
  createdAt := row.createdAt
  deletedAt := row.deletedAt

/-- The values of a row fit their columns. -/
def AuthorizationRuleRow.fits (row : AuthorizationRuleRow) : Bool :=
  row.ruleName.length ≤ 150 && row.cif.length ≤ 20 && row.version ≤ INT_MAX &&
    row.createdByKeycloakUserId.length ≤ 36 && (row.updatedByKeycloakUserId.getD "").length ≤ 36

/-- The row that a save of the entity stores; `none` where a column refuses its value. -/
def AuthorizationRule.row? (rule : AuthorizationRule) : Option AuthorizationRuleRow := do
  -- A column that is NOT NULL refuses `null`.
  let ruleName ← rule.ruleName
  let threshold ← rule.threshold.bind Sql.Decimal.ofText
  let row : AuthorizationRuleRow :=
    { id := rule.id
      ruleName := ruleName
      cif := rule.cif
      threshold := threshold
      version := rule.version
      createdByKeycloakUserId := rule.createdByKeycloakUserId
      updatedByKeycloakUserId := rule.updatedByKeycloakUserId
      createdAt := rule.createdAt
      deletedAt := rule.deletedAt }
  if row.fits then some row else none

/-- A rule entity before its first save. -/
structure NewRule where
  ruleName : String
  cif : String
  threshold : String
  version : Nat
  createdByKeycloakUserId : Option String
  deriving DecidableEq

/-- The entity with the columns its first save generates; there is none without a creator, whose
column is `NOT NULL`. -/
def NewRule.entity? (new : NewRule) (id : String) (createdAt : Date) : Option AuthorizationRule :=
  new.createdByKeycloakUserId.map fun createdBy =>
    { id := id
      ruleName := some new.ruleName
      cif := new.cif
      threshold := some new.threshold
      version := new.version
      createdByKeycloakUserId := createdBy
      updatedByKeycloakUserId := none
      createdAt := createdAt
      deletedAt := none }

/-! ## History -/

/-- The `JSON` value a history row holds. `changeReason` and `deactivated` are keys that only some
snapshots have. -/
structure Snapshot where
  ruleName : Option String
  cif : String
  threshold : Option String
  changeReason : Option (Option String)
  deactivated : Bool
  deriving DecidableEq

structure AuthorizationRuleHistory where
  id : String
  ruleId : String
  snapshot : Snapshot
  version : Nat
  changedByKeycloakUserId : String
  deriving DecidableEq

structure NewHistory where
  ruleId : String
  snapshot : Snapshot
  version : Nat
  changedByKeycloakUserId : Option String
  deriving DecidableEq

/-- The row a history entry is stored as, if its columns accept it. -/
def NewHistory.row? (new : NewHistory) (id : String) : Option AuthorizationRuleHistory :=
  match new.changedByKeycloakUserId with
  | some changedBy =>
      if changedBy.length ≤ 36 && new.version ≤ INT_MAX then
        some
          { id := id
            ruleId := new.ruleId
            snapshot := new.snapshot
            version := new.version
            changedByKeycloakUserId := changedBy }
      else none
  | none => none

/-! ## Errors -/

inductive AdminError
  | forbidden (message : String)
  | notFound (message : String)
  /-- A database write was rejected. -/
  | queryFailed
  deriving DecidableEq

/-! ## Lemmas -/

/-- What a stored row says about the entity that was saved. -/
structure AuthorizationRule.Stores (rule : AuthorizationRule) (row : AuthorizationRuleRow) :
    Prop where
  id : row.id = rule.id
  ruleName : rule.ruleName = some row.ruleName
  cif : row.cif = rule.cif
  threshold : rule.threshold.bind Sql.Decimal.ofText = some row.threshold
  version : row.version = rule.version
  createdBy : row.createdByKeycloakUserId = rule.createdByKeycloakUserId
  deletedAt : row.deletedAt = rule.deletedAt

theorem AuthorizationRule.row?_some {rule : AuthorizationRule} {row : AuthorizationRuleRow}
    (h : rule.row? = some row) : rule.Stores row := by
  rcases Option.bind_eq_some_iff.1 h with ⟨ruleName, hname, h⟩
  rcases Option.bind_eq_some_iff.1 h with ⟨threshold, hthreshold, h⟩
  dsimp only at h
  split at h
  · cases h
    exact ⟨rfl, hname, rfl, hthreshold, rfl, rfl, rfl⟩
  · cases h

theorem NewHistory.row?_some {new : NewHistory} {id : String} {row : AuthorizationRuleHistory}
    (h : new.row? id = some row) :
    row.id = id ∧ row.ruleId = new.ruleId ∧ row.snapshot = new.snapshot ∧
      row.version = new.version ∧ new.changedByKeycloakUserId = some row.changedByKeycloakUserId := by
  unfold NewHistory.row? at h
  split at h
  · rename_i changedBy hchanged
    split at h
    · cases h
      exact ⟨rfl, rfl, rfl, rfl, hchanged⟩
    · cases h
  · cases h

end Admin
end IdentityBillpay
