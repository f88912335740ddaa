import IdentityBillpay.Admin.Entities
import IdentityBillpay.Async.Program
import IdentityBillpay.Sql.Versions

/-!
# Store — the tables of the authorization rules

* `Store` — the rules and their history;
* `Op`, `backend` — the repository calls, each one atomic;
* `Store.historyOf` — the history of one rule, in the order it was written;
* `insertRule_ok`, `saveRule_ok`, `softDeleteRule_ok`, `insertHistory_ok` — what each write does.
-/

namespace IdentityBillpay
namespace Admin

open Async Js

/-- Rows are unique by their id alone. -/
structure Store where
  rules : Sql.Table AuthorizationRuleRow.id AuthorizationRuleRow.id
  history : Sql.Table AuthorizationRuleHistory.id AuthorizationRuleHistory.id

/-- No rule has been created. -/
def Store.empty : Store := ⟨.empty, .empty⟩

/-- What a program of the service can await. `save` of an entity without an id is an `insert`, and
`find` calls see no row with a `deletedAt`. -/
inductive Op
  | findRules
  | findRule (id : String)
  | insertRule (rule : NewRule)
  | saveRule (rule : AuthorizationRule)
  | softDeleteRule (id : String)
  | findHistory (ruleId : String)
  | insertHistory (entry : NewHistory)
  deriving DecidableEq

abbrev Op.Res : Op → Type
  | .findRules => List AuthorizationRule
  | .findRule _ => Option AuthorizationRule
  | .insertRule _ => AuthorizationRule
  | .findHistory _ => List AuthorizationRuleHistory
  | _ => Unit

instance : (op : Op) → DecidableEq op.Res
  | .findRules => inferInstanceAs (DecidableEq (List AuthorizationRule))
  | .findRule _ => inferInstanceAs (DecidableEq (Option AuthorizationRule))
  | .insertRule _ => inferInstanceAs (DecidableEq AuthorizationRule)
  | .findHistory _ => inferInstanceAs (DecidableEq (List AuthorizationRuleHistory))
  | .saveRule _ | .softDeleteRule _ | .insertHistory _ => inferInstanceAs (DecidableEq Unit)

abbrev sig : Signature := ⟨Op, Op.Res⟩

abbrev Prog (α : Type) := Program sig AdminError α

abbrev Own := List (Awaited sig AdminError)

/-- `await` of one operation. -/
abbrev call (op : Op) : Prog op.Res := @Program.call sig AdminError op

def Op.isWrite : Op → Bool
  | .insertRule _ | .saveRule _ | .softDeleteRule _ | .insertHistory _ => true
  | _ => false

/-- What the environment decides about one operation: which matching row is found, whether a write
fails, the id generated for an insert, and the time. -/
structure Choice where
  pick : Nat
  fails : Bool
  freshId : String
  now : Date

def insertRule? (s : Store) (new : NewRule) (id : String) (now : Date) :
    Option (AuthorizationRule × Store) := do
  let rule ← new.entity? id now
  let row ← rule.row?
  let t ← s.rules.insert? row
  return (rule, { s with rules := t })

def saveRule? (s : Store) (rule : AuthorizationRule) : Option (Unit × Store) := do
  let row ← rule.row?
  let t ← s.rules.save? row
  return ((), { s with rules := t })

def softDeleteRule (s : Store) (id : String) (now : Date) : Store :=
  { s with
    rules := s.rules.modify (fun r => r.id == id) (fun r => { r with deletedAt := some now })
      (fun _ => rfl) (fun _ => rfl) }

def softDeleteRule? (s : Store) (id : String) (now : Date) : Option (Unit × Store) :=
  some ((), softDeleteRule s id now)

def insertHistory? (s : Store) (new : NewHistory) (id : String) : Option (Unit × Store) := do
  let row ← new.row? id
  let t ← s.history.insert? row
  return ((), { s with history := t })

/-- `order: { createdAt: 'DESC' }`. -/
def newestFirst (rows : List AuthorizationRuleRow) : List AuthorizationRuleRow :=
  rows.mergeSort fun r r' => decide (r'.createdAt ≤ r.createdAt)

/-- `order: { version: 'DESC' }`. -/
def latestFirst (rows : List AuthorizationRuleHistory) : List AuthorizationRuleHistory :=
  rows.mergeSort fun r r' => decide (r'.version ≤ r.version)

def perform (op : Op) (ch : Choice) (s : Store) : Except AdminError op.Res × Store :=
  match op with
  | .findRules =>
      (.ok ((newestFirst (s.rules.find fun r => r.deletedAt.isNone)).map
        AuthorizationRuleRow.entity), s)
  | .findRule id =>
      (.ok ((s.rules.findOne (fun r => r.id == id && r.deletedAt.isNone) ch.pick).map
        AuthorizationRuleRow.entity), s)
  | .insertRule new => Sql.commit ch.fails .queryFailed s (insertRule? s new ch.freshId ch.now)
  | .saveRule rule => Sql.commit ch.fails .queryFailed s (saveRule? s rule)
  | .softDeleteRule id => Sql.commit ch.fails .queryFailed s (softDeleteRule? s id ch.now)
  | .findHistory ruleId => (.ok (latestFirst (s.history.find fun h => h.ruleId == ruleId)), s)
  | .insertHistory new => Sql.commit ch.fails .queryFailed s (insertHistory? s new ch.freshId)

abbrev backend : Backend sig AdminError := ⟨Store, Choice, perform⟩

/-- The history of a rule, in the order it was written. -/
def Store.historyOf (s : Store) (ruleId : String) : List AuthorizationRuleHistory :=
  s.history.find fun h => h.ruleId == ruleId

theorem mem_historyOf {s : Store} {ruleId : String} {h : AuthorizationRuleHistory} :
    h ∈ s.historyOf ruleId ↔ h ∈ s.history ∧ h.ruleId = ruleId := by
  simp [Store.historyOf]

/-! ## What an operation does -/

theorem perform_read {op : Op} (h : op.isWrite = false) (ch : Choice) (s : Store) :
    ∃ a, perform op ch s = (.ok a, s) := by
  cases op with
  | findRules => exact ⟨_, rfl⟩
  | findRule id => exact ⟨_, rfl⟩
  | findHistory ruleId => exact ⟨_, rfl⟩
  | _ => simp [Op.isWrite] at h

/-- The row of a live rule is what `findOne` returns. -/
theorem findRule_some {id : String} {ch : Choice} {s : Store} {rule : AuthorizationRule}
    (h : (perform (.findRule id) ch s).1 = .ok (some rule)) :
    ∃ row ∈ s.rules, row.id = id ∧ row.deletedAt = none ∧ rule = row.entity := by
  have hfound : (s.rules.findOne (fun r => r.id == id && r.deletedAt.isNone) ch.pick).map
      AuthorizationRuleRow.entity = some rule := Except.ok.inj h
  rcases Option.map_eq_some_iff.1 hfound with ⟨row, hrow, rfl⟩
  have hmem := Sql.Table.findOne_some hrow
  simp only [Bool.and_eq_true, beq_iff_eq, Option.isNone_iff_eq_none] at hmem
  exact ⟨row, hmem.1, hmem.2.1, hmem.2.2, rfl⟩

/-- A rule is inserted under an id that no row had. -/
theorem insertRule_ok {new : NewRule} {ch : Choice} {s s' : Store} {rule : AuthorizationRule}
    (h : perform (.insertRule new) ch s = (.ok rule, s')) :
    ∃ row, new.entity? ch.freshId ch.now = some rule ∧ rule.Stores row ∧
      (∀ r ∈ s.rules, r.id ≠ row.id) ∧ (∀ r, r ∈ s'.rules ↔ r ∈ s.rules ∨ r = row) ∧
      s'.history = s.history := by
  rcases Option.bind_eq_some_iff.1 (Sql.commit_ok h) with ⟨rule', hentity, hs'⟩
  rcases Option.bind_eq_some_iff.1 hs' with ⟨row, hrow, hs'⟩
  rcases Option.bind_eq_some_iff.1 hs' with ⟨t, ht, hdone⟩
  cases hdone
  exact ⟨row, hentity, AuthorizationRule.row?_some hrow,
    fun r hr => (Sql.Table.insert?_fresh ht hr).1, fun r => Sql.Table.mem_insert? ht, rfl⟩

theorem saveRule_ok {rule : AuthorizationRule} {ch : Choice} {s s' : Store} {u : Unit}
    (h : perform (.saveRule rule) ch s = (.ok u, s')) :
    ∃ row, rule.Stores row ∧ (∀ r, r ∈ s'.rules ↔ r = row ∨ (r ∈ s.rules ∧ r.id ≠ row.id)) ∧
      s'.history = s.history := by
  rcases Option.bind_eq_some_iff.1 (Sql.commit_ok h) with ⟨row, hrow, hs'⟩
  rcases Option.bind_eq_some_iff.1 hs' with ⟨t, ht, hdone⟩
  cases hdone
  exact ⟨row, AuthorizationRule.row?_some hrow, fun r => Sql.Table.mem_save? ht, rfl⟩

theorem softDeleteRule_ok {id : String} {ch : Choice} {s s' : Store} {u : Unit}
    (h : perform (.softDeleteRule id) ch s = (.ok u, s')) : s' = softDeleteRule s id ch.now := by
  have hcommit : Sql.commit ch.fails AdminError.queryFailed s (softDeleteRule? s id ch.now) =
      (.ok u, s') := h
  have hdone := Sql.commit_ok hcommit
  cases hdone
  rfl

theorem mem_softDeleteRule {s : Store} {id : String} {now : Date} {r : AuthorizationRuleRow} :
    r ∈ (softDeleteRule s id now).rules ↔
      ∃ r' ∈ s.rules, r = if r'.id = id then { r' with deletedAt := some now } else r' := by
  simp [softDeleteRule, Sql.Table.mem_modify]

/-- A history row is appended. -/
theorem insertHistory_ok {new : NewHistory} {ch : Choice} {s s' : Store} {u : Unit}
    (h : perform (.insertHistory new) ch s = (.ok u, s')) :
    ∃ entry, new.row? ch.freshId = some entry ∧ s'.rules = s.rules ∧
      s'.history.rows = s.history.rows ++ [entry] := by
  rcases Option.bind_eq_some_iff.1 (Sql.commit_ok h) with ⟨entry, hentry, hs'⟩
  rcases Option.bind_eq_some_iff.1 hs' with ⟨t, ht, hdone⟩
  cases hdone
  exact ⟨entry, hentry, rfl, Sql.Table.rows_insert? ht⟩

/-- Only writes fail, and a write that fails changes nothing. -/
theorem perform_error {op : Op} {ch : Choice} {s s' : Store} {e : AdminError}
    (h : perform op ch s = (.error e, s')) : op.isWrite = true ∧ s' = s := by
  cases op with
  | insertRule new => exact ⟨rfl, (Sql.commit_error h).2⟩
  | saveRule rule => exact ⟨rfl, (Sql.commit_error h).2⟩
  | softDeleteRule id =>
      have hcommit : Sql.commit ch.fails AdminError.queryFailed s (softDeleteRule? s id ch.now) =
          (.error e, s') := h
      exact ⟨rfl, (Sql.commit_error hcommit).2⟩
  | insertHistory new => exact ⟨rfl, (Sql.commit_error h).2⟩
  | _ => cases h

end Admin
end IdentityBillpay
