import IdentityBillpay.Admin.Endings

/-!
# RuleLog — the history of a rule is the log of its changes

Between two requests the history of a rule numbers its changes from 1 on, its last entry shows the
rule as it is, and a deactivated rule has one entry more, marked as such.

* `RuleLog`, `LogInv` — the state of a rule and of all tables between requests;
* `logInv_answer` — a call whose writes all succeed keeps them, and so does one whose first write
  fails;
* `history_is_log` — every run of calls none of whose writes fails;
* `failing_write_keeps_log_iff` — one failing write keeps rule and history together exactly if it is
  the first of its request.
-/

namespace IdentityBillpay
namespace Admin

open Async Sql
open Bbps (Actor)
open Rbac (isSuperadmin)

/-! ## Rules and their logs -/

/-- The snapshot shows the rule's name, CIF and threshold; the threshold is compared as a decimal. -/
structure Snapshot.Shows (snapshot : Snapshot) (rule : AuthorizationRuleRow) : Prop where
  ruleName : snapshot.ruleName = some rule.ruleName
  cif : snapshot.cif = rule.cif
  threshold : snapshot.threshold.bind Decimal.ofText = some rule.threshold

/-- Versions `1..n`, where a live rule is at version `n` and shown by entry `n`, and a deactivated
rule is at version `n - 1` and marked as deactivated by entry `n` alone. -/
structure RuleLog (s : Store) (rule : AuthorizationRuleRow) : Prop where
  numbered : Numbered AuthorizationRuleHistory.version (s.historyOf rule.id)
  positive : 0 < rule.version
  live : rule.deletedAt = none → (s.historyOf rule.id).length = rule.version ∧
    ∀ entry ∈ s.historyOf rule.id, entry.snapshot.deactivated = false ∧
      (entry.version = rule.version → entry.snapshot.Shows rule)
  deactivated : rule.deletedAt ≠ none → (s.historyOf rule.id).length = rule.version + 1 ∧
    ∀ entry ∈ s.historyOf rule.id,
      entry.snapshot.deactivated = true ↔ entry.version = rule.version + 1

structure LogInv (s : Store) : Prop where
  rules : ∀ rule ∈ s.rules, RuleLog s rule
  known : ∀ entry ∈ s.history, ∃ rule ∈ s.rules, rule.id = entry.ruleId

theorem logInv_empty : LogInv Store.empty :=
  ⟨fun _ hrule => absurd hrule List.not_mem_nil, fun _ hentry => absurd hentry List.not_mem_nil⟩

section Steps

variable {s m s' : Store} {actor : Actor} {entry : AuthorizationRuleHistory}

/-- A rule's log depends on its own history only. -/
theorem RuleLog.congr {rule : AuthorizationRuleRow} (h : RuleLog s rule)
    (hsame : s'.historyOf rule.id = s.historyOf rule.id) : RuleLog s' rule := by
  refine ⟨?_, h.positive, ?_, ?_⟩
  · rw [hsame]
    exact h.numbered
  · rw [hsame]
    exact h.live
  · rw [hsame]
    exact h.deactivated

theorem Logged.ruleId {new : NewHistory} (h : Logged m new entry s') : entry.ruleId = new.ruleId := by
  rcases h.row with ⟨id, hrow⟩
  exact (NewHistory.row?_some hrow).2.1

theorem Logged.snapshot {new : NewHistory} (h : Logged m new entry s') :
    entry.snapshot = new.snapshot := by
  rcases h.row with ⟨id, hrow⟩
  exact (NewHistory.row?_some hrow).2.2.1

theorem Logged.version {new : NewHistory} (h : Logged m new entry s') :
    entry.version = new.version := by
  rcases h.row with ⟨id, hrow⟩
  exact (NewHistory.row?_some hrow).2.2.2.1

theorem Logged.changedBy {new : NewHistory} (h : Logged m new entry s') :
    new.changedByKeycloakUserId = some entry.changedByKeycloakUserId := by
  rcases h.row with ⟨id, hrow⟩
  exact (NewHistory.row?_some hrow).2.2.2.2

theorem Logged.mem_history {new : NewHistory} (h : Logged m new entry s')
    {x : AuthorizationRuleHistory} : x ∈ s'.history ↔ x ∈ m.history ∨ x = entry := by
  rw [← Table.mem_rows, h.history]
  simp [Table.mem_rows]

/-- The entry comes last in the history of its rule. -/
theorem Logged.historyOf_self {new : NewHistory} (h : Logged m new entry s') {id : String}
    (hid : entry.ruleId = id) : s'.historyOf id = m.historyOf id ++ [entry] := by
  simp [Store.historyOf, Table.find, h.history, List.filter_append, hid]

theorem Logged.historyOf_ne {new : NewHistory} (h : Logged m new entry s') {id : String}
    (hid : entry.ruleId ≠ id) : s'.historyOf id = m.historyOf id := by
  simp [Store.historyOf, Table.find, h.history, List.filter_append, hid]

/-- An id that no rule has, has no history. -/
theorem LogInv.historyOf_fresh (hI : LogInv s) {id : String} (hfresh : ∀ r ∈ s.rules, r.id ≠ id) :
    s.historyOf id = [] := by
  refine List.eq_nil_iff_forall_not_mem.2 fun x hx => ?_
  rcases mem_historyOf.1 hx with ⟨hmem, hid⟩
  rcases hI.known x hmem with ⟨r, hr, hrid⟩
  exact hfresh r hr (hrid.trans hid)

theorem logInv_created {dto : CreateAuthorizationRuleDto} {rule : AuthorizationRule}
    {row : AuthorizationRuleRow} (hI : LogInv s) (hrow : Created s dto actor rule row m)
    (hlog : Logged m (rule.creation actor) entry s') : LogInv s' := by
  have hid : entry.ruleId = row.id := hlog.ruleId.trans hrow.stores.id.symm
  have hrules : ∀ r, r ∈ s'.rules ↔ r ∈ s.rules ∨ r = row := by
    intro r
    rw [hlog.rules, hrow.rules r]
  have hold : ∀ id, m.historyOf id = s.historyOf id := by
    intro id
    simp [Store.historyOf, hrow.history]
  refine ⟨?_, ?_⟩
  · intro r hr
    rcases (hrules r).1 hr with hr | rfl
    · have hne : entry.ruleId ≠ r.id := fun h => hrow.fresh r hr (h.symm.trans hid)
      exact (hI.rules r hr).congr ((hlog.historyOf_ne hne).trans (hold r.id))
    · -- The new rule has a single entry, the one of its creation.
      have hone : s'.historyOf r.id = [entry] := by
        rw [hlog.historyOf_self hid, hold, hI.historyOf_fresh hrow.fresh, List.nil_append]
      have hversion : entry.version = r.version := hlog.version.trans hrow.stores.version.symm
      refine ⟨?_, ?_, ?_, ?_⟩
      · rw [hone]
        exact numbered_nil.concat (hversion.trans hrow.version)
      · exact hrow.version ▸ Nat.one_pos
      · intro _
        refine ⟨by rw [hone, hrow.version, List.length_singleton], ?_⟩
        intro x hx
        rw [hone] at hx
        rw [List.mem_singleton.1 hx, hlog.snapshot]
        exact ⟨rfl, fun _ => ⟨hrow.stores.ruleName, hrow.stores.cif.symm, hrow.stores.threshold⟩⟩
      · exact fun hdead => absurd hrow.live hdead
  · intro x hx
    rcases hlog.mem_history.1 hx with hx | rfl
    · rw [hrow.history] at hx
      rcases hI.known x hx with ⟨r, hr, hrid⟩
      exact ⟨r, (hrules r).2 (.inl hr), hrid⟩
    · exact ⟨row, (hrules row).2 (.inr rfl), hid.symm⟩

theorem logInv_changed {dto : UpdateAuthorizationRuleDto} {read row : AuthorizationRuleRow}
    (hI : LogInv s) (hrow : Changed s dto actor read row m)
    (hlog : Logged m (dto.change actor (dto.apply actor read.entity)) entry s') : LogInv s' := by
  have hrowid : row.id = read.id := hrow.stores.id
  have hid : entry.ruleId = row.id := hlog.ruleId.trans hrow.stores.id.symm
  have hrules : ∀ r, r ∈ s'.rules ↔ r = row ∨ (r ∈ s.rules ∧ r.id ≠ row.id) := by
    intro r
    rw [hlog.rules, hrow.rules r]
  have hold : ∀ id, m.historyOf id = s.historyOf id := by
    intro id
    simp [Store.historyOf, hrow.history]
  have hread := hI.rules read hrow.read_mem
  rcases hread.live hrow.read_live with ⟨hlen, hentries⟩
  have hversion : row.version = read.version + 1 := hrow.stores.version
  have hentry : entry.version = row.version := hlog.version.trans hrow.stores.version.symm
  refine ⟨?_, ?_⟩
  · intro r hr
    rcases (hrules r).1 hr with rfl | ⟨hr, hne⟩
    · have hmore : s'.historyOf r.id = s.historyOf read.id ++ [entry] := by
        rw [hlog.historyOf_self hid, hold, hrowid]
      refine ⟨?_, by omega, ?_, ?_⟩
      · rw [hmore]
        exact hread.numbered.concat (by omega)
      · intro _
        refine ⟨by simp [hmore, hlen, hversion], ?_⟩
        intro x hx
        rw [hmore] at hx
        rcases List.mem_append.1 hx with hx | hx
        · -- An earlier entry has a lower version.
          have hle := hread.numbered.le_length hx
          exact ⟨(hentries x hx).1, fun h => by omega⟩
        · rw [List.mem_singleton.1 hx, hlog.snapshot]
          exact ⟨rfl, fun _ => ⟨hrow.stores.ruleName, hrow.stores.cif.symm, hrow.stores.threshold⟩⟩
      · intro hdead
        exact absurd (hrow.stores.deletedAt.trans hrow.read_live) hdead
    · exact (hI.rules r hr).congr
        ((hlog.historyOf_ne fun h => hne (h.symm.trans hid)).trans (hold r.id))
  · intro x hx
    rcases hlog.mem_history.1 hx with hx | rfl
    · rw [hrow.history] at hx
      rcases hI.known x hx with ⟨r, hr, hrid⟩
      by_cases hsame : r.id = row.id
      · exact ⟨row, (hrules row).2 (.inl rfl), hsame.symm.trans hrid⟩
      · exact ⟨r, (hrules r).2 (.inr ⟨hr, hsame⟩), hrid⟩
    · exact ⟨row, (hrules row).2 (.inl rfl), hid.symm⟩

theorem logInv_deactivated {id : String} {read : AuthorizationRuleRow} {now : Js.Date}
    (hI : LogInv s) (hread : Read s id actor read)
    (hlog : Logged s (read.entity.deactivation actor) entry m) :
    LogInv (softDeleteRule m id now) := by
  have hid : entry.ruleId = read.id := hlog.ruleId
  have hrules : ∀ r, r ∈ (softDeleteRule m id now).rules ↔
      ∃ r' ∈ s.rules, r = if r'.id = id then { r' with deletedAt := some now } else r' := by
    intro r
    rw [mem_softDeleteRule, hlog.rules]
  have hhistory : ∀ id', (softDeleteRule m id now).historyOf id' = m.historyOf id' := fun _ => rfl
  -- The rule was live, so every version up to its own has an entry.
  have hlogRead := hI.rules read hread.mem
  rcases hlogRead.live hread.live with ⟨hlen, hentries⟩
  have hentry : entry.version = read.version + 1 := hlog.version
  refine ⟨?_, ?_⟩
  · intro r hr
    rcases (hrules r).1 hr with ⟨r', hr', rfl⟩
    -- The deleted rule gets one more entry; the others keep theirs.
    by_cases hsame : r'.id = id
    · have hrr : r' = read := Table.eq_of_id hr' hread.mem (hsame.trans hread.id.symm)
      subst hrr
      rw [if_pos hsame]
      have hmore : (softDeleteRule m id now).historyOf r'.id = s.historyOf r'.id ++ [entry] := by
        rw [hhistory, hlog.historyOf_self hid]
      refine ⟨?_, hlogRead.positive, fun hlive => ?_, fun _ => ⟨?_, ?_⟩⟩
      · change Numbered _ (Store.historyOf _ r'.id)
        rw [hmore]
        exact hlogRead.numbered.concat (by omega)
      · cases hlive
      · change (Store.historyOf _ r'.id).length = _
        simp [hmore, hlen]
      · intro x hx
        have hx : x ∈ s.historyOf r'.id ++ [entry] := hmore ▸ hx
        rcases List.mem_append.1 hx with hx | hx
        · have hle := hlogRead.numbered.le_length hx
          have hnot := (hentries x hx).1
          have hlt : x.version ≠ r'.version + 1 := by omega
          simp [hnot, hlt]
        · rw [List.mem_singleton.1 hx, hlog.snapshot]
          simp [hentry, AuthorizationRule.deactivation]
    · rw [if_neg hsame]
      refine (hI.rules r' hr').congr ?_
      rw [hhistory]
      exact hlog.historyOf_ne fun h => hsame (h.symm.trans (hid.trans hread.id))
  · intro x hx
    have hx : x ∈ m.history := hx
    have hold : ∃ r' ∈ s.rules, r'.id = x.ruleId := by
      rcases hlog.mem_history.1 hx with hx | rfl
      · exact hI.known x hx
      · exact ⟨read, hread.mem, hid.symm⟩
    rcases hold with ⟨r', hr', hrid⟩
    refine ⟨_, (hrules _).2 ⟨r', hr', rfl⟩, ?_⟩
    split
    · exact hrid
    · exact hrid

end Steps

/-- An ending whose writes all succeeded keeps the log, and so does one whose first write failed. -/
theorem Ending.keeps_log {s s' : Store} {r : Request} {own : Own}
    {result : Except AdminError Reply} (h : Ending s r own result s') (hI : LogInv s)
    (hC : NoFailure own ∨ FirstWriteFails own) : LogInv s' := by
  cases h with
  | quiet hown hresult => exact hI
  | refused hown => exact hI
  | created hown hrow hlog => exact logInv_created hI hrow hlog
  | changed hown hrow hlog => exact logInv_changed hI hrow hlog
  | deactivated hown hread hlog => exact logInv_deactivated hI hread hlog
  | createdOnly hown hrow =>
      exact absurd hC (not_or.2 ⟨hown.not_noFailure, hown.not_firstWriteFails⟩)
  | changedOnly hown hrow =>
      exact absurd hC (not_or.2 ⟨hown.not_noFailure, hown.not_firstWriteFails⟩)
  | loggedOnly hown hread hlog =>
      exact absurd hC (not_or.2 ⟨hown.not_noFailure, hown.not_firstWriteFails⟩)

/-- The condition on a call that no write of it fails after another one has been done. -/
def FailsClean (s : Store) (c : Call service) : Prop :=
  NoFailure (service.answer s c).awaited ∨ FirstWriteFails (service.answer s c).awaited

theorem logInv_serve {calls : List (Call service)}
    (hC : service.Complies FailsClean Store.empty calls) :
    LogInv (service.serve Store.empty calls) :=
  Service.serve_induction logInv_empty (fun s c hI hclean => (answer_ending s c).keeps_log hI hclean)
    hC

/-! ## The log of a whole run -/

/-- The rule that a request has changed. -/
def Request.subject : Request → Except AdminError Reply → Option String
  | .create _ _, .ok (.rule rule) => some rule.id
  | .update dto _, .ok _ => some dto.id
  | .deactivate id _, .ok _ => some id
  | _, _ => none

/-- The call, answered in state `s`, changed the entry's rule and wrote the entry, as a superadmin
under the sub that the entry names. -/
structure MadeBy (s : Store) (c : Call service) (entry : AuthorizationRuleHistory) : Prop where
  superadmin : isSuperadmin c.request.actor = true
  sub : c.request.actor.sub = some entry.changedByKeycloakUserId
  subject : c.request.subject (service.answer s c).result = some entry.ruleId
  before : entry ∉ s.history
  after : entry ∈ (service.answer s c).state.history

/-- The state after the calls, as the history tells it. -/
structure HistoryIsLog (calls : List (Call service)) : Prop where
  /-- A rule that was ever created is still in its table. -/
  created : ∀ before c after dto actor rule, calls = before ++ c :: after →
    c.request = .create dto actor →
    (service.answer (service.serve Store.empty before) c).result = .ok (.rule rule) →
      ∃ row ∈ (service.serve Store.empty calls).rules, row.id = rule.id
  log : ∀ rule ∈ (service.serve Store.empty calls).rules,
    RuleLog (service.serve Store.empty calls) rule
  /-- No entry ever changes. -/
  immutable : ∀ before after, calls = before ++ after →
    (service.serve Store.empty before).history.rows <+:
      (service.serve Store.empty calls).history.rows
  madeBy : ∀ entry ∈ (service.serve Store.empty calls).history, ∃ before c after,
    calls = before ++ c :: after ∧ MadeBy (service.serve Store.empty before) c entry

/-- The history only grows, and no rule disappears. -/
structure Extends (s s' : Store) : Prop where
  history : s.history.rows <+: s'.history.rows
  rules : ∀ r ∈ s.rules, ∃ r' ∈ s'.rules, r'.id = r.id

theorem Extends.refl (s : Store) : Extends s s :=
  ⟨List.prefix_refl _, fun r hr => ⟨r, hr, rfl⟩⟩

theorem Extends.trans {s s' s'' : Store} (h : Extends s s') (h' : Extends s' s'') :
    Extends s s'' := by
  refine ⟨h.history.trans h'.history, fun r hr => ?_⟩
  rcases h.rules r hr with ⟨r', hr', hid⟩
  rcases h'.rules r' hr' with ⟨r'', hr'', hid'⟩
  exact ⟨r'', hr'', hid'.trans hid⟩

section Extends

variable {s s' m : Store} {r : Request} {own : Own} {result : Except AdminError Reply}
  {actor : Actor} {entry : AuthorizationRuleHistory}

theorem Created.extends {dto : CreateAuthorizationRuleDto} {rule : AuthorizationRule}
    {row : AuthorizationRuleRow} (h : Created s dto actor rule row m) : Extends s m :=
  ⟨by simp [h.history], fun r hr => ⟨r, (h.rules r).2 (.inl hr), rfl⟩⟩

theorem Changed.extends {dto : UpdateAuthorizationRuleDto} {read row : AuthorizationRuleRow}
    (h : Changed s dto actor read row m) : Extends s m := by
  refine ⟨by simp [h.history], fun r hr => ?_⟩
  by_cases hsame : r.id = row.id
  · exact ⟨row, (h.rules row).2 (.inl rfl), hsame.symm⟩
  · exact ⟨r, (h.rules r).2 (.inr ⟨hr, hsame⟩), rfl⟩

theorem Logged.extends {new : NewHistory} (h : Logged m new entry s') : Extends m s' := by
  refine ⟨?_, fun r hr => ⟨r, ?_, rfl⟩⟩
  · rw [h.history]
    exact List.prefix_append _ _
  · rw [h.rules]
    exact hr

theorem softDeleteRule_extends (s : Store) (id : String) (now : Js.Date) :
    Extends s (softDeleteRule s id now) := by
  refine ⟨List.prefix_refl _, fun r hr => ⟨_, mem_softDeleteRule.2 ⟨r, hr, rfl⟩, ?_⟩⟩
  split
  · rfl
  · rfl

theorem Ending.extends (h : Ending s r own result s') : Extends s s' := by
  cases h with
  | quiet hown hresult => exact .refl s
  | refused hown => exact .refl s
  | created hown hrow hlog => exact hrow.extends.trans hlog.extends
  | changed hown hrow hlog => exact hrow.extends.trans hlog.extends
  | deactivated hown hread hlog => exact hlog.extends.trans (softDeleteRule_extends _ _ _)
  | createdOnly hown hrow => exact hrow.extends
  | changedOnly hown hrow => exact hrow.extends
  | loggedOnly hown hread hlog => exact hlog.extends

/-- A created rule is in its table. -/
theorem Ending.created_mem {dto : CreateAuthorizationRuleDto} {rule : AuthorizationRule}
    (h : Ending s (.create dto actor) own (.ok (.rule rule)) s') :
    ∃ row ∈ s'.rules, row.id = rule.id := by
  cases h with
  | quiet hown hresult => cases hresult _ rfl
  | @created _ _ _ _ row _ _ _ hown hrow hlog =>
      exact ⟨row, hlog.rules ▸ (hrow.rules row).2 (.inr rfl), hrow.stores.id⟩

/-- The entry that a call without failures has written. -/
theorem Ending.wrote (h : Ending s r own result s') (hown : NoFailure own)
    (hbefore : entry ∉ s.history) (hafter : entry ∈ s'.history) :
    isSuperadmin r.actor = true ∧ r.actor.sub = some entry.changedByKeycloakUserId ∧
      r.subject result = some entry.ruleId := by
  cases h with
  | quiet _ _ => exact absurd hafter hbefore
  | refused hfails => exact absurd hown hfails.not_noFailure
  | createdOnly hfails _ => exact absurd hown hfails.not_noFailure
  | changedOnly hfails _ => exact absurd hown hfails.not_noFailure
  | loggedOnly hfails _ _ => exact absurd hown hfails.not_noFailure
  | created _ hrow hlog =>
      rcases hlog.mem_history.1 hafter with hold | rfl
      · rw [hrow.history] at hold
        exact absurd hold hbefore
      · exact ⟨hrow.superadmin, hlog.changedBy, congrArg some hlog.ruleId.symm⟩
  | changed _ hrow hlog =>
      rcases hlog.mem_history.1 hafter with hold | rfl
      · rw [hrow.history] at hold
        exact absurd hold hbefore
      · exact ⟨hrow.superadmin, hlog.changedBy,
          congrArg some (hlog.ruleId.trans hrow.read_id).symm⟩
  | deactivated _ hread hlog =>
      rcases hlog.mem_history.1 hafter with hold | rfl
      · exact absurd hold hbefore
      · exact ⟨hread.superadmin, hlog.changedBy,
          congrArg some (hlog.ruleId.trans hread.id).symm⟩

end Extends

theorem serve_extends (s : Store) (calls : List (Call service)) :
    Extends s (service.serve s calls) := by
  refine Service.serve_relation (C := fun _ _ => True) Extends.refl Extends.trans ?_ ?_
  · exact fun s c _ => (answer_ending s c).extends
  · exact Service.complies_trivial s calls

/-- Every run of calls none of whose writes fails. -/
theorem history_is_log (calls : List (Call service))
    (hok : service.Complies (fun s c => NoFailure (service.answer s c).awaited) Store.empty calls) :
    HistoryIsLog calls := by
  have hinv := logInv_serve (hok.mono fun _ _ hno => .inl hno)
  refine ⟨?_, hinv.rules, ?_, ?_⟩
  · intro before c after dto actor rule hcalls hrequest hresult
    have hending := answer_ending (service.serve Store.empty before) c
    rw [hrequest, hresult] at hending
    rcases hending.created_mem with ⟨row, hrow, hid⟩
    have hrest := serve_extends (service.answer (service.serve Store.empty before) c).state after
    rcases hrest.rules row hrow with ⟨row', hrow', hid'⟩
    refine ⟨row', ?_, hid'.trans hid⟩
    rw [hcalls, Service.serve_append]
    exact hrow'
  · intro before after hcalls
    rw [hcalls, Service.serve_append]
    exact (serve_extends _ after).history
  · intro entry hentry
    have hnone : entry ∉ Store.empty.history := List.not_mem_nil
    rcases Service.exists_call (V := service) (P := fun s : Store => entry ∈ s.history) hnone
      hentry with ⟨before, c, after, rfl, hbefore, hafter⟩
    rw [Service.serve_concat] at hafter
    have hno := (Service.complies_append.1 hok).2.1
    rcases (answer_ending (service.serve Store.empty before) c).wrote hno hbefore hafter with
      ⟨hsuper, hsub, hsubject⟩
    exact ⟨before, c, after, rfl, hsuper, hsub, hsubject, hbefore, hafter⟩

/-! ### A rule's life -/

instance (own : Own) : Decidable (NoFailure own) :=
  inferInstanceAs (Decidable (∀ a ∈ own, a.res.isOk = true))

def admin : Actor where
  sub := some "admin-1"
  realmAccessRoles := some ["BANK_SUPER_ADMIN"]
  roles := none

def transfers : CreateAuthorizationRuleDto where
  ruleName := "Transfers"
  cif := "CIF12345"
  threshold := ⟨"500000.0", by decide⟩

def raised : UpdateAuthorizationRuleDto where
  id := "id-0"
  ruleName := .undefined
  threshold := .value ⟨"750000", by decide⟩
  changeReason := .undefined

/-- A call during which the database answers and draws `id-0`, `id-1`, … -/
def smooth (request : Request) (first : Nat) : Call service where
  request := request
  choices n := { pick := 0, fails := false, freshId := "id-" ++ Nat.repr (first + n), now := n }

def lifecycle : List (Call service) :=
  [smooth (.create transfers admin) 0, smooth (.update raised admin) 2,
    smooth (.deactivate "id-0" admin) 5]

theorem history_is_log_lifecycle : HistoryIsLog lifecycle :=
  history_is_log lifecycle ⟨by decide, by decide, by decide, trivial⟩

/-! ## A write that fails -/

/-- Every live rule is at the highest version of its history, and whatever is logged next carries a
version that the history of its rule does not have. -/
structure InStep (s : Store) : Prop where
  highest : ∀ rule ∈ s.rules, rule.deletedAt = none →
    IsGreatest { v | ∃ entry ∈ s.historyOf rule.id, entry.version = v } rule.version
  next : ∀ (c : Call service) reply, (service.answer s c).result = .ok reply →
    ∀ entry ∈ (service.answer s c).state.history, entry ∉ s.history →
      ∀ old ∈ s.historyOf entry.ruleId, old.version ≠ entry.version

theorem InStep.bounds {s : Store} (h : InStep s) :
    ∀ rule ∈ s.rules, rule.deletedAt = none →
      (∃ entry ∈ s.historyOf rule.id, entry.version = rule.version) ∧
        ∀ entry ∈ s.historyOf rule.id, entry.version ≤ rule.version :=
  fun rule hrule hlive => ⟨(h.highest rule hrule hlive).1,
    fun entry hentry => (h.highest rule hrule hlive).2 ⟨entry, hentry, rfl⟩⟩

/-- A live rule's next version is not in its history. -/
theorem RuleLog.version_ne {s : Store} {rule : AuthorizationRuleRow} (h : RuleLog s rule)
    (hlive : rule.deletedAt = none) {old : AuthorizationRuleHistory}
    (hold : old ∈ s.historyOf rule.id) : old.version ≠ rule.version + 1 := by
  have hle := h.numbered.le_length hold
  have hlen := (h.live hlive).1
  omega

/-- What a successful call logs carries a version that the history of its rule does not have. -/
theorem Ending.next_version {s s' : Store} {r : Request} {own : Own} {reply : Reply}
    {entry old : AuthorizationRuleHistory} (h : Ending s r own (.ok reply) s') (hI : LogInv s)
    (hentry : entry ∈ s'.history) (hnew : entry ∉ s.history) (hold : old ∈ s.historyOf entry.ruleId) :
    old.version ≠ entry.version := by
  cases h with
  | quiet _ _ => exact absurd hentry hnew
  | @created _ _ _ _ row _ _ _ _ hrow hlog =>
      rcases hlog.mem_history.1 hentry with hmem | rfl
      · rw [hrow.history] at hmem
        exact absurd hmem hnew
      · have hid : entry.ruleId = row.id := hlog.ruleId.trans hrow.stores.id.symm
        rw [hid, hI.historyOf_fresh hrow.fresh] at hold
        exact absurd hold List.not_mem_nil
  | @changed _ _ _ read _ _ _ _ _ hrow hlog =>
      rcases hlog.mem_history.1 hentry with hmem | rfl
      · rw [hrow.history] at hmem
        exact absurd hmem hnew
      · have hid : entry.ruleId = read.id := hlog.ruleId
        have hversion : entry.version = read.version + 1 := hlog.version
        rw [hid] at hold
        rw [hversion]
        exact (hI.rules read hrow.read_mem).version_ne hrow.read_live hold
  | @deactivated _ _ _ read _ _ _ _ hread hlog =>
      rcases hlog.mem_history.1 hentry with hmem | rfl
      · exact absurd hmem hnew
      · have hid : entry.ruleId = read.id := hlog.ruleId
        have hversion : entry.version = read.version + 1 := hlog.version
        rw [hid] at hold
        rw [hversion]
        exact (hI.rules read hread.mem).version_ne hread.live hold

/-- A state with its logs in order is in step. -/
theorem LogInv.inStep {s : Store} (hI : LogInv s) : InStep s := by
  refine ⟨?_, ?_⟩
  · intro rule hrule hlive
    have hlog := hI.rules rule hrule
    exact (hlog.numbered.isGreatest hlog.positive).2 (hlog.live hlive).1
  · intro c reply hresult entry hentry hnew old hold
    have hending := answer_ending s c
    rw [hresult] at hending
    exact hending.next_version hI hentry hnew hold

section Separated

variable {s m : Store} {actor : Actor}

/-- A rule written without its entry is ahead of its history. -/
theorem Created.not_inStep {dto : CreateAuthorizationRuleDto} {rule : AuthorizationRule}
    {row : AuthorizationRuleRow} (hI : LogInv s) (h : Created s dto actor rule row m) :
    ¬ InStep m := by
  intro hstep
  have hmem := (hstep.bounds row ((h.rules row).2 (.inr rfl)) h.live).1
  have hnil : m.historyOf row.id = [] := by
    simpa [Store.historyOf, h.history] using hI.historyOf_fresh h.fresh
  rcases hmem with ⟨entry, hentry, _⟩
  rw [hnil] at hentry
  exact absurd hentry List.not_mem_nil

theorem Changed.not_inStep {dto : UpdateAuthorizationRuleDto} {read row : AuthorizationRuleRow}
    (hI : LogInv s) (h : Changed s dto actor read row m) : ¬ InStep m := by
  intro hstep
  have hid : row.id = read.id := h.stores.id
  have hversion : row.version = read.version + 1 := h.stores.version
  have hlive : row.deletedAt = none := h.stores.deletedAt.trans h.read_live
  have hmem := (hstep.bounds row ((h.rules row).2 (.inl rfl)) hlive).1
  have hsame : m.historyOf row.id = s.historyOf read.id := by
    simp [Store.historyOf, h.history, hid]
  rcases hmem with ⟨entry, hentry, hentryVersion⟩
  rw [hsame] at hentry
  exact (hI.rules read h.read_mem).version_ne h.read_live hentry (hentryVersion.trans hversion)

/-- An entry written before a deactivation that did not happen is ahead of its rule. -/
theorem Logged.not_inStep {read : AuthorizationRuleRow} {id : String}
    {entry : AuthorizationRuleHistory} (hread : Read s id actor read)
    (h : Logged s (read.entity.deactivation actor) entry m) : ¬ InStep m := by
  intro hstep
  have hid : entry.ruleId = read.id := h.ruleId
  have hversion : entry.version = read.version + 1 := h.version
  have hmem : read ∈ m.rules := h.rules ▸ hread.mem
  have hentry : entry ∈ m.historyOf read.id :=
    mem_historyOf.2 ⟨h.mem_history.2 (.inr rfl), hid⟩
  have hle := (hstep.bounds read hmem hread.live).2 entry hentry
  omega

end Separated

theorem Ending.inStep_iff {s s' : Store} {r : Request} {own : Own}
    {result : Except AdminError Reply} (h : Ending s r own result s') (hI : LogInv s)
    (hfails : ¬ NoFailure own) : InStep s' ↔ FirstWriteFails own := by
  constructor
  · intro hstep
    cases h with
    | quiet hown _ => exact absurd hown.noFailure hfails
    | refused hown => exact hown
    | created hown _ _ => exact absurd hown hfails
    | changed hown _ _ => exact absurd hown hfails
    | deactivated hown _ _ => exact absurd hown hfails
    | createdOnly _ hrow => exact absurd hstep (hrow.not_inStep hI)
    | changedOnly _ hrow => exact absurd hstep (hrow.not_inStep hI)
    | loggedOnly _ hread hlog => exact absurd hstep (hlog.not_inStep hread)
  · intro hfirst
    exact (h.keeps_log hI (.inr hfirst)).inStep

/-- After any calls whose failing writes, if any, came first in their requests: a call in which a
write fails keeps rules and histories in step exactly if the failing write is its first. -/
theorem failing_write_keeps_log_iff (calls : List (Call service))
    (hcalls : service.Complies FailsClean Store.empty calls) (c : Call service)
    (hfails : ¬ NoFailure (service.answer (service.serve Store.empty calls) c).awaited) :
    InStep (service.answer (service.serve Store.empty calls) c).state ↔
      FirstWriteFails (service.answer (service.serve Store.empty calls) c).awaited :=
  (answer_ending _ c).inStep_iff (logInv_serve hcalls) hfails

/-- A call during which the operation at one position fails. -/
def failingAt (position : Nat) (request : Request) (first : Nat) : Call service where
  request := request
  choices n :=
    { pick := 0
      fails := n == position
      freshId := "id-" ++ Nat.repr (first + n)
      now := n }

theorem failing_write_keeps_log_iff_firstOfUpdate :
    InStep (service.answer (service.serve Store.empty [smooth (.create transfers admin) 0])
        (failingAt 1 (.update raised admin) 2)).state ↔
      FirstWriteFails
        (service.answer (service.serve Store.empty [smooth (.create transfers admin) 0])
          (failingAt 1 (.update raised admin) 2)).awaited :=
  failing_write_keeps_log_iff [smooth (.create transfers admin) 0] ⟨.inl (by decide), trivial⟩
    (failingAt 1 (.update raised admin) 2) (by decide)

/-- The history entry of an update is refused: the rule is at a version its history does not have.
The soft delete of a deactivation is refused: the rule stays live below its history, and the next
update logs version 2 again. -/
theorem rule_separated_from_history :
    ¬ InStep (service.answer (service.serve Store.empty [smooth (.create transfers admin) 0])
        (failingAt 2 (.update raised admin) 2)).state ∧
      ¬ InStep (service.answer (service.serve Store.empty [smooth (.create transfers admin) 0])
        (failingAt 2 (.deactivate "id-0" admin) 2)).state ∧
      ((service.serve Store.empty
        [smooth (.create transfers admin) 0, failingAt 2 (.deactivate "id-0" admin) 2,
          smooth (.update raised admin) 5]).historyOf "id-0").map AuthorizationRuleHistory.version =
            [1, 2, 2] :=
  ⟨fun h => absurd h.bounds (by decide), fun h => absurd h.bounds (by decide), by decide⟩

end Admin
end IdentityBillpay
