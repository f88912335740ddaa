import IdentityBillpay.Admin.RuleLog
import IdentityBillpay.Async.Replay

/-!
# RuleUpdates — overlapping updates of one rule

`update` increments the version of the copy it has read and writes the whole row back. As long as
each update saves only while the stored version is still the one it has read, every update takes a
version of its own, and no value set by one of them gives way to the value from before.

* `UpdateAwaits`, `UpdateEnds` — the order of awaits of `update`;
* `SavesAsRead` — the condition on one event;
* `updates_not_lost` — the law; `update_lost` — two updates that overlap.
-/

namespace IdentityBillpay
namespace Admin

open Async Async.Program
open Js
open Sql (Decimal)
open Bbps (Actor)
open Rbac (isSuperadmin)

/-! ## The order of awaits -/

def found (dto : UpdateAuthorizationRuleDto) (rule : Option AuthorizationRule) :
    Awaited sig AdminError :=
  ⟨.findRule dto.id, .ok rule⟩

def stored (dto : UpdateAuthorizationRuleDto) (actor : Actor) (rule : AuthorizationRule) :
    Awaited sig AdminError :=
  ⟨.saveRule (dto.apply actor rule), .ok ()⟩

inductive UpdateAwaits (dto : UpdateAuthorizationRuleDto) (actor : Actor) : Own → Op → Prop
  | read : UpdateAwaits dto actor [] (.findRule dto.id)
  | save (rule : AuthorizationRule) :
      UpdateAwaits dto actor [found dto (some rule)] (.saveRule (dto.apply actor rule))
  | log (rule : AuthorizationRule) :
      UpdateAwaits dto actor [found dto (some rule), stored dto actor rule]
        (.insertHistory (dto.change actor (dto.apply actor rule)))

/-- An update that returns has saved the rule it returns. -/
def UpdateEnds (dto : UpdateAuthorizationRuleDto) (actor : Actor) (own : Own)
    (result : Except AdminError Reply) : Prop :=
  ∀ reply, result = .ok reply →
    ∃ rule, stored dto actor rule ∈ own ∧ reply = .rule (dto.apply actor rule)

def Awaits : Request → Own → Op → Prop
  | .update dto actor, own, op => UpdateAwaits dto actor own op
  | _, _, _ => True

def Settles : Request → Own → Except AdminError Reply → Prop
  | .update dto actor, own, result => UpdateEnds dto actor own result
  | _, _, _ => True

theorem follows_update (dto : UpdateAuthorizationRuleDto) (actor : Actor) :
    Follows (UpdateAwaits dto actor) (UpdateEnds dto actor) [] (program (.update dto actor)) := by
  change Follows _ _ _ (update dto actor >>= fun reply => pure (Reply.rule reply))
  unfold update
  rw [bind_assoc]
  refine follows_settled_bind ?_ ?_
  · intro e _ reply hreply
    cases hreply
  · intro _ _
    rw [bind_assoc]
    refine follows_call_bind .read ?_ ?_
    · intro e reply hreply
      cases hreply
    · intro rule
      cases (rule : Option AuthorizationRule) with
      | none =>
          intro reply hreply
          cases hreply
      | some rule =>
          dsimp only
          rw [bind_assoc]
          refine follows_call_bind (.save rule) ?_ ?_
          · intro e reply hreply
            cases hreply
          · intro _
            rw [bind_assoc]
            refine follows_call_bind (.log rule) ?_ ?_
            · intro e reply hreply
              cases hreply
            · intro _ reply hreply
              cases hreply
              exact ⟨rule, by simp [stored], rfl⟩

theorem follows_program (r : Request) :
    Follows (Awaits r) (Settles r) [] (service.program r) := by
  have hany : ∀ {α : Type} (p : Prog α) (own : Own),
      Follows (fun _ _ => True) (fun _ _ => True) own p := by
    intro α p
    induction p with
    | resolve a => exact fun _ => trivial
    | reject e => exact fun _ => trivial
    | await op k ih => exact fun own => ⟨trivial, fun r => ih r _⟩
  cases r with
  | update dto actor => exact follows_update dto actor
  | _ => exact hany _ []

/-! ## Saved rules -/

/-- The rule that an event has stored. -/
def savedRule? : Awaited sig AdminError → Option AuthorizationRule
  | ⟨.saveRule rule, .ok _⟩ => some rule
  | _ => none

theorem savedRule?_some {a : Awaited sig AdminError} {rule : AuthorizationRule} :
    savedRule? a = some rule ↔ a = ⟨.saveRule rule, .ok ()⟩ := by
  constructor
  · intro h
    rcases a with ⟨op, res⟩
    cases op with
    | saveRule saved =>
        cases res with
        | ok u =>
            cases h
            rfl
        | error e => cases h
    | _ => cases h
  · intro h
    rw [h]
    rfl

/-- Every stored rule with the request that has stored it, in order. -/
def saves (h : History service) : List (Nat × AuthorizationRule) :=
  h.trace.filterMap fun e => (savedRule? e.toAwaited).map fun rule => (e.who, rule)

theorem mem_saves {h : History service} {i : Nat} {rule : AuthorizationRule} :
    (i, rule) ∈ saves h ↔ ⟨.saveRule rule, .ok ()⟩ ∈ h.own i := by
  rw [History.mem_own, saves, List.mem_filterMap]
  constructor
  · intro hmem
    rcases hmem with ⟨e, he, hsaved⟩
    rcases Option.map_eq_some_iff.1 hsaved with ⟨rule', hrule, hpair⟩
    cases hpair
    rw [← savedRule?_some.1 hrule]
    exact he
  · intro hmem
    exact ⟨_, hmem, rfl⟩

theorem saves_perform (h : History service) (i : Nat) (op : Op) (ch : Choice) :
    saves (h.perform i op ch) =
      saves h ++ ((savedRule? ⟨op, (perform op ch h.state).1⟩).map fun rule => (i, rule)).toList := by
  simp only [saves, History.perform_trace, List.filterMap_append]
  cases hsaved : savedRule? ⟨op, (perform op ch h.state).1⟩ with
  | none => simp [hsaved]
  | some rule => simp [hsaved]

/-- An update saves only while the stored version is still the one it has read: the rule it saves is
one version ahead of the row. -/
def SavesAsRead (h : History service) (e : Event sig AdminError) : Prop :=
  match e.op with
  | .saveRule rule => ∀ row ∈ h.state.rules, row.id = rule.id → row.version + 1 = rule.version
  | _ => True

instance (h : History service) (e : Event sig AdminError) : Decidable (SavesAsRead h e) := by
  unfold SavesAsRead
  split
  · infer_instance
  · infer_instance

/-! ## Fields -/

/-- A column that an update may set: when a body sets it, and to what. -/
structure Field (β : Type) where
  column : AuthorizationRuleRow → β
  isSet : UpdateAuthorizationRuleDto → Bool
  sets : UpdateAuthorizationRuleDto → β → Prop

def ruleNameField : Field String where
  column := AuthorizationRuleRow.ruleName
  isSet dto := dto.ruleName.isSet
  sets dto ruleName := dto.ruleName = .value ruleName

def thresholdField : Field Threshold where
  column := AuthorizationRuleRow.threshold
  isSet dto := dto.threshold.isSet
  sets dto threshold := ∃ text, dto.threshold = .value text ∧ Decimal.ofText text.text = some threshold

/-- What a saved update leaves in a column: the value it set, or the value it read. -/
def Field.Applied {β : Type} (field : Field β) (dto : UpdateAuthorizationRuleDto)
    (read row : AuthorizationRuleRow) : Prop :=
  field.sets dto (field.column row) ∨
    (field.isSet dto = false ∧ field.column row = field.column read)

section Applied

variable {dto : UpdateAuthorizationRuleDto} {actor : Actor} {read row : AuthorizationRuleRow}

theorem ruleName_applied (h : (dto.apply actor read.entity).Stores row) :
    ruleNameField.Applied dto read row := by
  have hname : dto.ruleName.getD (some read.ruleName) = some row.ruleName := h.ruleName
  rcases Optional.getD_eq_some.1 hname with hset | ⟨hunset, hsame⟩
  · exact .inl hset
  · exact .inr ⟨hunset, (Option.some.inj hsame).symm⟩

theorem threshold_applied (h : (dto.apply actor read.entity).Stores row) :
    thresholdField.Applied dto read row := by
  rcases Option.bind_eq_some_iff.1 h.threshold with ⟨text, htext, hvalue⟩
  have htext : (dto.threshold.map ThresholdText.text).getD (some read.threshold.toText) =
      some text := htext
  rcases Optional.getD_eq_some.1 htext with hset | ⟨hunset, hsame⟩
  · left
    cases hthreshold : dto.threshold with
    | undefined => simp [hthreshold, Optional.map] at hset
    | null => simp [hthreshold, Optional.map] at hset
    | value t =>
        have ht : t.text = text := by simpa [hthreshold, Optional.map] using hset
        exact ⟨t, hthreshold, ht ▸ hvalue⟩
  · right
    -- The text of the stored threshold is stored as the same value again.
    rw [← Option.some.inj hsame, Decimal.ofText_toText] at hvalue
    exact ⟨(Optional.isSet_map _ _).symm.trans hunset, (Option.some.inj hvalue).symm⟩

end Applied

/-! ## The invariant -/

/-- The column holds a value that a saved update set, or none of them set it. -/
def Field.FromUpdates {β : Type} (field : Field β) (row₀ : AuthorizationRuleRow)
    (h : History service) (row : AuthorizationRuleRow) : Prop :=
  (∃ i rule dto actor, (i, rule) ∈ saves h ∧ h.requests[i]? = some (.update dto actor) ∧
      field.sets dto (field.column row)) ∨
    (field.column row = field.column row₀ ∧
      ∀ i rule dto actor, (i, rule) ∈ saves h → h.requests[i]? = some (.update dto actor) →
        field.isSet dto = false)

/-- The row as the saves so far have left it. -/
structure Current (row₀ : AuthorizationRuleRow) (h : History service) (row : AuthorizationRuleRow) :
    Prop where
  mem : row ∈ h.state.rules
  id : row.id = row₀.id
  live : row.deletedAt = none
  /-- Each save took the next version. -/
  version : row.version = row₀.version + (saves h).length
  versions : (saves h).map (fun saved => saved.2.version) =
    List.range' (row₀.version + 1) (saves h).length
  once : ((saves h).map Prod.fst).Nodup
  /-- A copy at the stored version is a copy of the row. -/
  reads : ∀ i rule, (⟨.findRule row₀.id, .ok (some rule)⟩ : Awaited sig AdminError) ∈ h.own i →
    rule.id = row₀.id ∧ rule.version ≤ row.version ∧
      (rule.version = row.version → rule = row.entity)
  ruleName : ruleNameField.FromUpdates row₀ h row
  threshold : thresholdField.FromUpdates row₀ h row

/-- The request updates the rule, and its actor may. -/
def Request.updates (id : String) : Request → Bool
  | .update dto actor => dto.id == id && isSuperadmin actor
  | _ => false

theorem updates_iff {id : String} {r : Request} :
    r.updates id = true ↔
      ∃ dto actor, r = .update dto actor ∧ dto.id = id ∧ isSuperadmin actor = true := by
  cases r with
  | update dto actor => simp [Request.updates]
  | _ => simp [Request.updates]

/-- As long as only updates of the rule have been started. -/
def UpdateInv (row₀ : AuthorizationRuleRow) (h : History service) : Prop :=
  (∀ r ∈ h.requests, r.updates row₀.id = true) → ∃ row, Current row₀ h row

section Steps

variable {row₀ row : AuthorizationRuleRow} {h : History service} {i : Nat} {op : Op} {ch : Choice}

theorem updateInv_start (ha : h.Attributed) (hI : UpdateInv row₀ h) (r : Request) :
    UpdateInv row₀ (h.start r) := by
  intro hall
  rcases hI fun r' hr' => hall r' (List.mem_append_left _ hr') with ⟨row, hrow⟩
  have hfield : ∀ {β : Type} (field : Field β), field.FromUpdates row₀ h row →
      field.FromUpdates row₀ (h.start r) row := by
    intro β field hfrom
    rcases hfrom with ⟨j, rule, dto, actor, hmem, hr, hset⟩ | ⟨hcolumn, hnone⟩
    · exact .inl ⟨j, rule, dto, actor, hmem, History.start_requests_some hr, hset⟩
    · refine .inr ⟨hcolumn, fun j rule dto actor hmem hr => ?_⟩
      rcases History.start_requests_cases hr with hr | ⟨hj, _⟩
      · exact hnone j rule dto actor hmem hr
      · -- The request just started has saved nothing.
        have hown : (h.start r).own j = [] := ha.own_eq_nil hj.ge
        rw [mem_saves, hown] at hmem
        exact absurd hmem List.not_mem_nil
  exact ⟨row, hrow.mem, hrow.id, hrow.live, hrow.version, hrow.versions, hrow.once, hrow.reads,
    hfield _ hrow.ruleName, hfield _ hrow.threshold⟩

/-- An operation that stores no rule leaves the row as it is. -/
theorem Current.keep (hrow : Current row₀ h row)
    (hrules : (perform op ch h.state).2.rules = h.state.rules)
    (hsaved : savedRule? ⟨op, (perform op ch h.state).1⟩ = none) :
    Current row₀ (h.perform i op ch) row := by
  have hsaves : saves (h.perform i op ch) = saves h := by
    rw [saves_perform, hsaved]
    simp
  have hfield : ∀ {β : Type} (field : Field β), field.FromUpdates row₀ h row →
      field.FromUpdates row₀ (h.perform i op ch) row := by
    intro β field hfrom
    unfold Field.FromUpdates
    rw [hsaves]
    exact hfrom
  refine ⟨?_, hrow.id, hrow.live, ?_, ?_, ?_, ?_, hfield _ hrow.ruleName,
    hfield _ hrow.threshold⟩
  · rw [History.perform_state, service_perform, hrules]
    exact hrow.mem
  · rw [hsaves]
    exact hrow.version
  · rw [hsaves]
    exact hrow.versions
  · rw [hsaves]
    exact hrow.once
  · intro j rule hmem
    rcases History.mem_perform.1 (History.mem_own.1 hmem) with hold | ⟨_, rfl, hres⟩
    · exact hrow.reads j rule (History.mem_own.2 hold)
    · rcases findRule_some hres.symm with ⟨read, hread, hid, _, rfl⟩
      -- What is read now is the row itself.
      have hsame : read = row := Sql.Table.eq_of_id hread hrow.mem (hid.trans hrow.id.symm)
      subst hsame
      exact ⟨hrow.id, le_refl _, fun _ => rfl⟩

/-- A save at the stored version takes the next version and sets what its body says. -/
theorem Current.save {dto : UpdateAuthorizationRuleDto} {actor : Actor} {row' : AuthorizationRuleRow}
    {s' : Store} (hrow : Current row₀ h row) (hr : h.requests[i]? = some (.update dto actor))
    (hfirst : ∀ rule, (i, rule) ∉ saves h)
    (hp : perform (.saveRule (dto.apply actor row.entity)) ch h.state = (.ok (), s'))
    (hstores : (dto.apply actor row.entity).Stores row')
    (hmem : ∀ r, r ∈ s'.rules ↔ r = row' ∨ (r ∈ h.state.rules ∧ r.id ≠ row'.id)) :
    Current row₀ (h.perform i (.saveRule (dto.apply actor row.entity)) ch) row' := by
  -- The save is the last of the trace.
  have hsaves : saves (h.perform i (.saveRule (dto.apply actor row.entity)) ch) =
      saves h ++ [(i, dto.apply actor row.entity)] := by
    rw [saves_perform, hp]
    rfl
  have hversion : row'.version = row.version + 1 := hstores.version
  have hfield : ∀ {β : Type} (field : Field β), field.Applied dto row row' →
      field.FromUpdates row₀ h row →
      field.FromUpdates row₀ (h.perform i (.saveRule (dto.apply actor row.entity)) ch) row' := by
    intro β field happlied hfrom
    unfold Field.FromUpdates
    rw [hsaves]
    -- The update sets the field, or an earlier one has, or the column is as it was.
    rcases happlied with hset | ⟨hunset, hsame⟩
    · exact .inl ⟨i, _, dto, actor, List.mem_append_right _ (List.mem_singleton_self _), hr, hset⟩
    · rw [hsame]
      rcases hfrom with ⟨j, rule, dto', actor', hsaved, hr', hset⟩ | ⟨hcolumn, hnone⟩
      · exact .inl ⟨j, rule, dto', actor', List.mem_append_left _ hsaved, hr', hset⟩
      · refine .inr ⟨hcolumn, fun j rule dto' actor' hsaved hr' => ?_⟩
        rcases List.mem_append.1 hsaved with hsaved | hsaved
        · exact hnone j rule dto' actor' hsaved hr'
        · cases List.mem_singleton.1 hsaved
          have hdto : some (Request.update dto' actor') = some (.update dto actor) :=
            hr'.symm.trans hr
          cases hdto
          exact hunset
  refine ⟨?_, hstores.id.trans hrow.id, hstores.deletedAt.trans hrow.live, ?_, ?_, ?_, ?_,
    hfield _ (ruleName_applied hstores) hrow.ruleName,
    hfield _ (threshold_applied hstores) hrow.threshold⟩
  · rw [History.perform_state, service_perform, hp]
    exact (hmem row').2 (.inl rfl)
  · rw [hsaves, List.length_append, List.length_singleton, hversion, hrow.version]
    omega
  · rw [hsaves, List.map_append, hrow.versions, List.length_append, List.length_singleton,
      -- The version of the row counts the saves.
      List.range'_1_concat]
    have hentity : (dto.apply actor row.entity).version = row₀.version + 1 + (saves h).length := by
      rw [← hstores.version, hversion, hrow.version]
      omega
    simp [hentity]
  · rw [hsaves, List.map_append, List.map_singleton]
    refine hrow.once.append (List.nodup_singleton _) ?_
    intro j hj hi
    rcases List.mem_map.1 hj with ⟨saved, hsaved, rfl⟩
    have hi : saved.1 = i := List.mem_singleton.1 hi
    exact hfirst saved.2 (hi ▸ hsaved)
  · intro j rule hread
    rcases History.mem_perform.1 (History.mem_own.1 hread) with hold | ⟨_, hop, _⟩
    · rcases hrow.reads j rule (History.mem_own.2 hold) with ⟨hid, hle, _⟩
      exact ⟨hid, by omega, fun heq => by omega⟩
    · cases hop

theorem updateInv_perform {r : Request} (hI : UpdateInv row₀ h) (hr : h.requests[i]? = some r)
    (hop : Awaits r (h.own i) op)
    (hC : SavesAsRead h ⟨⟨op, (service.perform op ch h.state).1⟩, i⟩) :
    UpdateInv row₀ (h.perform i op ch) := by
  intro hall
  rcases hI hall with ⟨row, hrow⟩
  rcases updates_iff.1 (hall r (List.mem_of_getElem? hr)) with ⟨dto, actor, rfl, hid, _⟩
  generalize hown : h.own i = own at hop
  cases hop with
  | read => exact ⟨row, hrow.keep rfl rfl⟩
  | save rule =>
      cases hp : perform (.saveRule (dto.apply actor rule)) ch h.state with
      | mk res s' =>
          cases res with
          | error e =>
              refine ⟨row, hrow.keep ?_ ?_⟩
              · rw [hp, (perform_error hp).2]
              · rw [hp]
                rfl
          | ok u =>
              have hread : (⟨.findRule row₀.id, .ok (some rule)⟩ : Awaited sig AdminError) ∈
                  h.own i := by
                rw [hown, ← hid]
                exact List.mem_singleton_self _
              -- The row has not been saved since it was read, so what was read is the row.
              rcases hrow.reads i rule hread with ⟨hruleId, _, hcopy⟩
              have hstill : row.version + 1 = rule.version + 1 :=
                hC row hrow.mem (hrow.id.trans hruleId.symm)
              have hrule : rule = row.entity := hcopy (Nat.succ.inj hstill).symm
              subst hrule
              have hfirst : ∀ rule, (i, rule) ∉ saves h := by
                intro rule hsaved
                rw [mem_saves, hown] at hsaved
                simp [found] at hsaved
              rcases saveRule_ok hp with ⟨row', hstores, hmem, _⟩
              exact ⟨row', hrow.save hr hfirst hp hstores hmem⟩
  -- The log writes to another table.
  | log rule =>
      refine ⟨row, hrow.keep ?_ ?_⟩
      · cases hp : perform (.insertHistory (dto.change actor (dto.apply actor rule))) ch h.state with
        | mk res s' =>
            cases res with
            | error e => exact congrArg Store.rules (perform_error hp).2
            | ok u =>
                rcases insertHistory_ok hp with ⟨_, _, hrules, _⟩
                exact hrules
      · rfl

end Steps

theorem current_initial {s : Store} {row₀ : AuthorizationRuleRow} (hrow₀ : row₀ ∈ s.rules)
    (hlive : row₀.deletedAt = none) :
    Current row₀ (Config.initial service s).toHistory row₀ := by
  refine ⟨hrow₀, rfl, hlive, rfl, rfl, List.nodup_nil, ?_, .inr ⟨rfl, ?_⟩, .inr ⟨rfl, ?_⟩⟩
  · intro i rule hmem
    exact absurd hmem List.not_mem_nil
  · intro i rule dto actor hmem
    exact absurd hmem List.not_mem_nil
  · intro i rule dto actor hmem
    exact absurd hmem List.not_mem_nil

theorem updateInv_run {s : Store} {row₀ : AuthorizationRuleRow} (hrow₀ : row₀ ∈ s.rules)
    (hlive : row₀.deletedAt = none) {as : List (Action service)}
    (hC : Config.Meets SavesAsRead (Config.initial service s) as) :
    UpdateInv row₀ ((Config.initial service s).run as).toHistory :=
  Config.run_induction (I := UpdateInv row₀) follows_program
    (fun _ r ha hI => updateInv_start ha hI r)
    (fun _ _ _ _ _ _ hI hr hop hC => updateInv_perform hI hr hop hC)
    (fun _ => ⟨row₀, current_initial hrow₀ hlive⟩) as hC

/-! ## The law -/

/-- After updates of a rule that returned the given rules: no version was given out twice, the row
has one version more for each update, and a column set by an update holds a value set by one. -/
structure NotLost (row₀ : AuthorizationRuleRow) (c : Config service)
    (returned : Nat → AuthorizationRule) (row : AuthorizationRuleRow) : Prop where
  mem : row ∈ c.state.rules
  id : row.id = row₀.id
  distinct : ∀ i < c.requests.length, ∀ j < c.requests.length, i ≠ j →
    (returned i).version ≠ (returned j).version
  version : row.version = row₀.version + c.requests.length
  ruleName : (∃ dto actor, Request.update dto actor ∈ c.requests ∧ dto.ruleName.isSet = true) →
    ∃ dto actor, Request.update dto actor ∈ c.requests ∧ dto.ruleName = .value row.ruleName
  threshold : (∃ dto actor, Request.update dto actor ∈ c.requests ∧ dto.threshold.isSet = true) →
    ∃ dto actor text, Request.update dto actor ∈ c.requests ∧ dto.threshold = .value text ∧
      Decimal.ofText text.text = some row.threshold

section Done

variable {row₀ row : AuthorizationRuleRow} {c : Config service} {returned : Nat → AuthorizationRule}

/-- An update that has returned has saved what it returned. -/
theorem saved_of_returned (hpool : c.PoolEnds Awaits Settles)
    (hall : ∀ r ∈ c.requests, r.updates row₀.id = true) {i : Nat} {rule : AuthorizationRule}
    (hdone : c.pool[i]? = some (.resolve (.rule rule))) : (i, rule) ∈ saves c.toHistory := by
  have hlt : i < c.requests.length := hpool.1 ▸ (List.getElem?_eq_some_iff.1 hdone).1
  have hr : c.requests[i]? = some c.requests[i] := List.getElem?_eq_getElem hlt
  have hfollows := hpool.2 i _ _ hr hdone
  rcases updates_iff.1 (hall _ (List.getElem_mem hlt)) with ⟨dto, actor, hreq, _, _⟩
  rw [hreq] at hfollows
  rcases hfollows _ rfl with ⟨read, hmem, hreply⟩
  cases hreply
  exact mem_saves.2 hmem

theorem set_of_done {β : Type} {field : Field β} (hfrom : field.FromUpdates row₀ c.toHistory row)
    (hsaved : ∀ i < c.requests.length, (i, returned i) ∈ saves c.toHistory)
    (hset : ∃ dto actor, Request.update dto actor ∈ c.requests ∧ field.isSet dto = true) :
    ∃ dto actor, Request.update dto actor ∈ c.requests ∧ field.sets dto (field.column row) := by
  rcases hfrom with ⟨i, rule, dto, actor, _, hr, hsets⟩ | ⟨_, hnone⟩
  · exact ⟨dto, actor, List.mem_of_getElem? hr, hsets⟩
  · rcases hset with ⟨dto, actor, hmem, hset⟩
    rcases List.mem_iff_getElem?.1 hmem with ⟨i, hi⟩
    have hlt : i < c.requests.length := (List.getElem?_eq_some_iff.1 hi).1
    rw [hnone i _ dto actor (hsaved i hlt) hi] at hset
    cases hset

/-- When every update has returned, there are as many saves as updates. -/
theorem saves_length (hattr : c.Attributed) (hrow : Current row₀ c.toHistory row)
    (hsaved : ∀ i < c.requests.length, (i, returned i) ∈ saves c.toHistory) :
    (saves c.toHistory).length = c.requests.length := by
  have hmem : ∀ i, i ∈ (saves c.toHistory).map Prod.fst ↔ i ∈ List.range c.requests.length := by
    intro i
    rw [List.mem_range]
    constructor
    · intro hi
      rcases List.mem_map.1 hi with ⟨saved, hsave, rfl⟩
      exact hattr _ (History.mem_own.1 (mem_saves.1 hsave))
    · exact fun hi => List.mem_map.2 ⟨_, hsaved i hi, rfl⟩
  have hperm := (List.perm_ext_iff_of_nodup hrow.once List.nodup_range).2 hmem
  simpa using hperm.length_eq

theorem Current.notLost (hrow : Current row₀ c.toHistory row) (hattr : c.Attributed)
    (hsaved : ∀ i < c.requests.length, (i, returned i) ∈ saves c.toHistory) :
    NotLost row₀ c returned row := by
  refine ⟨hrow.mem, hrow.id, ?_, ?_, ?_, ?_⟩
  · intro i hi j hj hij hsame
    have hnodup : ((saves c.toHistory).map fun saved => saved.2.version).Nodup := by
      rw [hrow.versions]
      exact List.nodup_range'
    have hpair := List.inj_on_of_nodup_map hnodup (hsaved i hi) (hsaved j hj) hsame
    exact hij (congrArg Prod.fst hpair)
  · rw [hrow.version, saves_length hattr hrow hsaved]
  · exact fun hset => set_of_done hrow.ruleName hsaved hset
  · intro hset
    rcases set_of_done hrow.threshold hsaved hset with ⟨dto, actor, hmem, text, htext, hvalue⟩
    exact ⟨dto, actor, text, hmem, htext, hvalue⟩

end Done

/-- Overlapping updates of one live rule, all of which have returned. -/
theorem updates_not_lost (s : Store) (row₀ : AuthorizationRuleRow) (hrow₀ : row₀ ∈ s.rules)
    (hlive : row₀.deletedAt = none) (as : List (Action service))
    (hC : Config.Meets SavesAsRead (Config.initial service s) as)
    (hupdates : ∀ r ∈ ((Config.initial service s).run as).requests, r.updates row₀.id = true)
    (returned : Nat → AuthorizationRule)
    (hdone : ∀ i < ((Config.initial service s).run as).requests.length,
      ((Config.initial service s).run as).pool[i]? = some (.resolve (.rule (returned i)))) :
    ∃ row, NotLost row₀ ((Config.initial service s).run as) returned row := by
  rcases updateInv_run hrow₀ hlive hC hupdates with ⟨row, hrow⟩
  have hreach := Config.run_follows follows_program s as
  exact ⟨row, hrow.notLost hreach.2 fun i hi => saved_of_returned hreach.1 hupdates (hdone i hi)⟩

/-! ### Two updates -/

def transfersRow : AuthorizationRuleRow where
  id := "id-0"
  ruleName := "Transfers"
  cif := "CIF12345"
  threshold := ⟨50000000, by decide⟩
  version := 1
  createdByKeycloakUserId := "admin-1"
  updatedByKeycloakUserId := none
  createdAt := 0
  deletedAt := none

def transfersStore : Store where
  rules := .ofRows _ _ [transfersRow]
  history := .empty

def renamed : UpdateAuthorizationRuleDto where
  id := "id-0"
  ruleName := .value "Large transfers"
  threshold := .undefined
  changeReason := .undefined

def drawing (freshId : String) : Choice where
  pick := 0
  fails := false
  freshId := freshId
  now := 0

/-- One update after the other. -/
def inTurn : List (Action service) :=
  [.start (.update renamed admin), .resume 0 (drawing ""), .resume 0 (drawing ""),
    .resume 0 (drawing "h-1"), .start (.update raised admin), .resume 1 (drawing ""),
    .resume 1 (drawing ""), .resume 1 (drawing "h-2")]

/-- What the two updates in turn return. -/
def returnedInTurn : Nat → AuthorizationRule
  | 0 => renamed.apply admin transfersRow.entity
  | _ => raised.apply admin (renamed.apply admin transfersRow.entity)

theorem updates_not_lost_inTurn :
    ∃ row, NotLost transfersRow ((Config.initial service transfersStore).run inTurn)
      returnedInTurn row := by
  refine updates_not_lost transfersStore transfersRow (by decide) rfl inTurn (by decide) (by decide)
    returnedInTurn ?_
  intro i hi
  match i, hi with
  | 0, _ => rfl
  | 1, _ => rfl

/-- Both updates read the rule before either saves it. -/
def overlapping : List (Action service) :=
  [.start (.update renamed admin), .start (.update raised admin), .resume 0 (drawing ""),
    .resume 1 (drawing ""), .resume 0 (drawing ""), .resume 0 (drawing "h-1"),
    .resume 1 (drawing ""), .resume 1 (drawing "h-2")]

/-- Both return version 2, and the new name is gone. -/
theorem update_lost :
    ((Config.initial service transfersStore).run overlapping).pool.map Program.outcome? =
        [some (.ok (.rule (renamed.apply admin transfersRow.entity))),
          some (.ok (.rule (raised.apply admin transfersRow.entity)))] ∧
      (renamed.apply admin transfersRow.entity).version =
        (raised.apply admin transfersRow.entity).version ∧
      ∀ row ∈ ((Config.initial service transfersStore).run overlapping).state.rules,
        row.version = 2 ∧ row.ruleName = "Transfers" := by
  decide

end Admin
end IdentityBillpay
