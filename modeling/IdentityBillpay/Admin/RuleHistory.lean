import IdentityBillpay.Admin.RuleLog

/-!
# RuleHistory — reading the history of a rule back

`findHistory` looks the rule up before it reads the history, and a deactivated rule is not found.

* `exec_findHistory_live`, `exec_findHistory_deleted` — what a reader gets;
* `Appends` — what one call adds to the history, read off its ending;
* `noVersionTwice_serve` — no version occurs twice unless a change is logged under one that is taken,
  as after a deactivation that has failed between its two writes;
* `findHistory_in_full_iff` — which histories can be read in full and in order.
-/

namespace IdentityBillpay
namespace Admin

open Async Async.Program Sql
open Bbps (Actor)

/-! ## The two answers -/

section Reading

variable {s : Store} {rule : AuthorizationRuleRow} {actor : Actor}

theorem findRule_live (hrule : rule ∈ s.rules) (hlive : rule.deletedAt = none) (ch : Choice) :
    backend.perform (.findRule rule.id) ch s = (.ok (some rule.entity), s) := by
  have hfound : s.rules.findOne (fun r => r.id == rule.id && r.deletedAt.isNone) ch.pick =
      some rule := by
    refine Table.findOne_of_unique ch.pick hrule (by simp [hlive]) ?_
    intro r hr hmatch
    simp only [Bool.and_eq_true, beq_iff_eq] at hmatch
    exact Table.eq_of_id hr hrule hmatch.1
  simp [perform, hfound]

theorem findRule_deleted (hrule : rule ∈ s.rules) (hdeleted : rule.deletedAt ≠ none) (ch : Choice) :
    backend.perform (.findRule rule.id) ch s = (.ok none, s) := by
  have hfound : s.rules.findOne (fun r => r.id == rule.id && r.deletedAt.isNone) ch.pick = none := by
    refine Table.findOne_eq_none.2 fun r hr => ?_
    by_cases hid : r.id = rule.id
    · have hsame : r = rule := Table.eq_of_id hr hrule hid
      simp [hsame, Option.isNone_eq_false_iff, Option.isSome_iff_ne_none, hdeleted]
    · simp [hid]
  simp [perform, hfound]

theorem exec_findHistory_live (hrule : rule ∈ s.rules) (hlive : rule.deletedAt = none)
    (hview : assertCanView actor = .ok ()) (choices : Nat → Choice) :
    ((findHistory rule.id actor).exec backend choices s).result =
      .ok (latestFirst (s.historyOf rule.id)) := by
  unfold findHistory findOne
  rw [hview, settled_ok, resolve_bind, resolve_bind, bind_assoc,
    exec_call_bind (findRule_live hrule hlive _)]
  rfl

/-- The history of a deactivated rule is there, and is not found. -/
theorem exec_findHistory_deleted (hrule : rule ∈ s.rules) (hdeleted : rule.deletedAt ≠ none)
    (hview : assertCanView actor = .ok ()) (choices : Nat → Choice) :
    ((findHistory rule.id actor).exec backend choices s).result = .error ruleNotFound := by
  unfold findHistory findOne
  rw [hview, settled_ok, resolve_bind, resolve_bind, bind_assoc,
    exec_call_bind (findRule_deleted hrule hdeleted _)]
  rfl

end Reading

/-! ## What one call adds to the history -/

/-- Nothing, the first entry of a new rule, or the next version of a live rule. -/
inductive Appends (s s' : Store) : Prop
  | nothing (hsame : s'.history.rows = s.history.rows)
  | first {entry : AuthorizationRuleHistory}
      (hfresh : ∀ r ∈ s.rules, r.id ≠ entry.ruleId) (hnew : ∃ r ∈ s'.rules, r.id = entry.ruleId)
      (happend : s'.history.rows = s.history.rows ++ [entry])
  | next {entry : AuthorizationRuleHistory} {read : AuthorizationRuleRow} (hread : read ∈ s.rules)
      (hlive : read.deletedAt = none) (hid : entry.ruleId = read.id)
      (hversion : entry.version = read.version + 1)
      (happend : s'.history.rows = s.history.rows ++ [entry])

theorem Ending.appends {s s' : Store} {r : Request} {own : Own} {result : Except AdminError Reply}
    (h : Ending s r own result s') : Appends s s' := by
  cases h with
  | quiet hown hresult => exact .nothing rfl
  | refused hown => exact .nothing rfl
  | createdOnly hown hrow => exact .nothing (by rw [hrow.history])
  | changedOnly hown hrow => exact .nothing (by rw [hrow.history])
  | @created _ _ _ _ row _ _ entry hown hrow hlog =>
      have hid : entry.ruleId = row.id := hlog.ruleId.trans hrow.stores.id.symm
      refine .first (fun r hr => ?_) ⟨row, ?_, hid.symm⟩ ?_
      · exact hid ▸ hrow.fresh r hr
      · exact hlog.rules ▸ (hrow.rules row).2 (.inr rfl)
      · rw [hlog.history, hrow.history]
  | changed hown hrow hlog =>
      refine .next hrow.read_mem hrow.read_live hlog.ruleId hlog.version ?_
      rw [hlog.history, hrow.history]
  | deactivated hown hread hlog =>
      exact .next hread.mem hread.live hlog.ruleId hlog.version hlog.history
  | loggedOnly hown hread hlog =>
      exact .next hread.mem hread.live hlog.ruleId hlog.version hlog.history

/-- Every entry is about a rule that has a row, deactivated or not. -/
def Known (s : Store) : Prop :=
  ∀ entry ∈ s.history, ∃ rule ∈ s.rules, rule.id = entry.ruleId

theorem known_serve (calls : List (Call service)) : Known (service.serve Store.empty calls) := by
  refine Service.serve_induction (C := fun _ _ => True) ?_ ?_
    (Service.complies_trivial Store.empty calls)
  · exact fun entry hentry => absurd hentry List.not_mem_nil
  · intro s c hI _ entry hentry
    have hending := answer_ending s c
    have hold : entry ∈ s.history.rows →
        ∃ rule ∈ (service.answer s c).state.rules, rule.id = entry.ruleId := by
      intro hmem
      rcases hI entry hmem with ⟨rule, hrule, hid⟩
      rcases hending.extends.rules rule hrule with ⟨rule', hrule', hid'⟩
      exact ⟨rule', hrule', hid'.trans hid⟩
    rw [← Table.mem_rows] at hentry
    cases hending.appends with
    | nothing hsame => exact hold (hsame ▸ hentry)
    | first hfresh hnew happend =>
        rw [happend] at hentry
        rcases List.mem_append.1 hentry with hmem | hmem
        · exact hold hmem
        · exact List.mem_singleton.1 hmem ▸ hnew
    | next hread hlive hid hversion happend =>
        rw [happend] at hentry
        rcases List.mem_append.1 hentry with hmem | hmem
        · exact hold hmem
        · rcases hending.extends.rules _ hread with ⟨rule', hrule', hid'⟩
          exact ⟨rule', hrule', by rw [hid', List.mem_singleton.1 hmem, hid]⟩

/-! ## Versions that are logged twice -/

/-- The next version of the rule, which is live, is in its history already. -/
def NextTaken (s : Store) (id : String) : Prop :=
  ∃ rule ∈ s.rules, rule.id = id ∧ rule.deletedAt = none ∧
    ∃ entry ∈ s.historyOf id, entry.version = rule.version + 1

/-- One of the calls logged a change of the rule whose version was in its history already. -/
def LoggedAgain (calls : List (Call service)) (id : String) : Prop :=
  ∃ before c after, calls = before ++ c :: after ∧ NextTaken (service.serve Store.empty before) id ∧
    (service.answer (service.serve Store.empty before) c).state.historyOf id ≠
      (service.serve Store.empty before).historyOf id

def NoVersionTwice (s : Store) (id : String) : Prop :=
  ((s.historyOf id).map AuthorizationRuleHistory.version).Nodup

section Steps

variable {s s' : Store}

theorem historyOf_congr (h : s'.history.rows = s.history.rows) (id : String) :
    s'.historyOf id = s.historyOf id := by
  simp [Store.historyOf, Table.find, h]

theorem historyOf_append {entry : AuthorizationRuleHistory}
    (h : s'.history.rows = s.history.rows ++ [entry]) (id : String) :
    s'.historyOf id = s.historyOf id ++ if entry.ruleId = id then [entry] else [] := by
  by_cases hid : entry.ruleId = id
  · simp [Store.historyOf, Table.find, h, hid]
  · simp [Store.historyOf, Table.find, h, hid]

/-- A call repeats a version only if it logs one that is taken. -/
theorem Appends.noVersionTwice_iff (h : Appends s s') (hknown : Known s) (id : String) :
    NoVersionTwice s' id ↔
      NoVersionTwice s id ∧ ¬ (NextTaken s id ∧ s'.historyOf id ≠ s.historyOf id) := by
  unfold NoVersionTwice
  cases h with
  | nothing hsame => simp [historyOf_congr hsame id]
  | @first entry hfresh hnew happend =>
      rw [historyOf_append happend]
      by_cases hid : entry.ruleId = id
      · -- A new rule has neither a history nor a row that could be behind it.
        have hnone : s.historyOf id = [] := by
          refine List.eq_nil_iff_forall_not_mem.2 fun x hx => ?_
          rcases mem_historyOf.1 hx with ⟨hmem, hx⟩
          rcases hknown x hmem with ⟨r, hr, hrid⟩
          exact hfresh r hr (hrid.trans (hx.trans hid.symm))
        simp [hnone, hid, NextTaken]
      · simp [hid]
  | @next entry read hread hlive hid hversion happend =>
      rw [historyOf_append happend]
      by_cases hsame : entry.ruleId = id
      · have htaken : NextTaken s id ↔ ∃ old ∈ s.historyOf id, old.version = entry.version := by
          constructor
          · intro h
            rcases h with ⟨rule, hrule, hruleId, _, old, hold, hnext⟩
            have : rule = read := Table.eq_of_id hrule hread (hruleId.trans (hsame.symm.trans hid))
            exact ⟨old, hold, by rw [hnext, hversion, this]⟩
          · intro h
            rcases h with ⟨old, hold, hsameVersion⟩
            exact ⟨read, hread, hid.symm.trans hsame, hlive, old, hold,
              hsameVersion.trans hversion⟩
        rw [if_pos hsame, List.map_append, List.nodup_append', htaken]
        simp [List.disjoint_singleton]
      · simp [hsame]

end Steps

/-- In the history of a whole run no version occurs twice exactly if none was logged again. -/
theorem noVersionTwice_serve (calls : List (Call service)) (id : String) :
    NoVersionTwice (service.serve Store.empty calls) id ↔ ¬ LoggedAgain calls id := by
  induction calls using List.reverseRecOn with
  | nil => simp [LoggedAgain, NoVersionTwice, Store.historyOf, Store.empty, Table.find, Table.empty]
  | append_singleton calls c ih =>
      have hstep := (answer_ending (service.serve Store.empty calls) c).appends.noVersionTwice_iff
        (known_serve calls) id
      rw [Service.serve_concat, hstep, ih]
      unfold LoggedAgain
      rw [Service.exists_call_concat, not_or]

/-- Without a write that fails after another one, no version is logged again. -/
theorem not_loggedAgain {calls : List (Call service)} (id : String)
    (hC : service.Complies FailsClean Store.empty calls) : ¬ LoggedAgain calls id := by
  intro h
  rcases h with ⟨before, c, after, rfl, htaken, _⟩
  rcases htaken with ⟨rule, hrule, rfl, hlive, entry, hentry, hversion⟩
  have hlog := (logInv_serve (Service.complies_append.1 hC).1).rules rule hrule
  exact hlog.version_ne hlive hentry hversion

/-! ## Histories in full -/

/-- At some moment of the run the entry was in the history of the rule. -/
def Written (calls : List (Call service)) (id : String) (entry : AuthorizationRuleHistory) : Prop :=
  ∃ before after, calls = before ++ after ∧
    entry ∈ (service.serve Store.empty before).historyOf id

/-- What was written is never removed. -/
theorem written_iff {calls : List (Call service)} {id : String} {entry : AuthorizationRuleHistory} :
    Written calls id entry ↔ entry ∈ (service.serve Store.empty calls).historyOf id := by
  constructor
  · intro h
    rcases h with ⟨before, after, rfl, hmem⟩
    rcases mem_historyOf.1 hmem with ⟨hentry, hid⟩
    have hgrown := (serve_extends (service.serve Store.empty before) after).history.subset hentry
    rw [Service.serve_append]
    exact mem_historyOf.2 ⟨hgrown, hid⟩
  · intro h
    exact ⟨calls, [], (List.append_nil calls).symm, h⟩

/-- A reader gets every entry ever written about the rule, the highest version first. -/
def ReadInFull (calls : List (Call service)) (id : String)
    (result : Except AdminError (List AuthorizationRuleHistory)) : Prop :=
  ∃ entries, result = .ok entries ∧ (∀ entry, entry ∈ entries ↔ Written calls id entry) ∧
    entries.Pairwise fun entry entry' => entry'.version < entry.version

/-- After any calls: the history of a rule can be read in full and in order exactly if the rule is
live and no version of it was logged again. -/
theorem findHistory_in_full_iff (calls : List (Call service)) {rule : AuthorizationRuleRow}
    (hrule : rule ∈ (service.serve Store.empty calls).rules) {actor : Actor}
    (hview : assertCanView actor = .ok ()) (choices : Nat → Choice) :
    ReadInFull calls rule.id
        ((findHistory rule.id actor).exec backend choices
          (service.serve Store.empty calls)).result ↔
      rule.deletedAt = none ∧ ¬ LoggedAgain calls rule.id := by
  by_cases hlive : rule.deletedAt = none
  · have hresult := exec_findHistory_live hrule hlive hview choices
    have hsorted : (latestFirst ((service.serve Store.empty calls).historyOf rule.id)).Pairwise
        (fun entry entry' => entry'.version < entry.version) ↔
          NoVersionTwice (service.serve Store.empty calls) rule.id := descending_iff
    rw [hresult, ← noVersionTwice_serve, ← hsorted]
    constructor
    · intro h
      rcases h with ⟨entries, hentries, _, hdescending⟩
      cases hentries
      exact ⟨hlive, hdescending⟩
    · intro h
      refine ⟨_, rfl, fun entry => ?_, h.2⟩
      rw [written_iff]
      exact List.mem_mergeSort
  · rw [exec_findHistory_deleted hrule hlive hview choices]
    constructor
    · intro h
      rcases h with ⟨entries, hentries, _⟩
      cases hentries
    · exact fun h => absurd h.1 hlive

/-- The rule of `lifecycle` before it is deactivated. -/
def raisedTransfers : AuthorizationRuleRow where
  id := "id-0"
  ruleName := "Transfers"
  cif := "CIF12345"
  threshold := ⟨75000000, by decide⟩
  version := 2
  createdByKeycloakUserId := "admin-1"
  updatedByKeycloakUserId := some "admin-1"
  createdAt := 0
  deletedAt := none

def undisturbed (n : Nat) : Choice where
  pick := 0
  fails := false
  freshId := "id-" ++ Nat.repr n
  now := n

theorem findHistory_in_full_raised :
    ReadInFull (lifecycle.take 2) "id-0"
        ((findHistory "id-0" admin).exec backend undisturbed
          (service.serve Store.empty (lifecycle.take 2))).result ↔
      raisedTransfers.deletedAt = none ∧ ¬ LoggedAgain (lifecycle.take 2) "id-0" :=
  findHistory_in_full_iff (lifecycle.take 2)
    (show raisedTransfers ∈ (service.serve Store.empty (lifecycle.take 2)).rules by decide)
    (by decide) undisturbed

/-- No call fails; the three entries of the deactivated rule are in the table, and a reader is told
that there is no such rule. -/
theorem deactivated_history_not_found :
    NoFailure (service.answer (service.serve Store.empty (lifecycle.take 2))
        (smooth (.deactivate "id-0" admin) 5)).awaited ∧
      ((service.serve Store.empty lifecycle).historyOf "id-0").map
        AuthorizationRuleHistory.version = [1, 2, 3] ∧
      ¬ ReadInFull lifecycle "id-0"
        ((findHistory "id-0" admin).exec backend undisturbed
          (service.serve Store.empty lifecycle)).result := by
  have hresult : ((findHistory "id-0" admin).exec backend undisturbed
      (service.serve Store.empty lifecycle)).result = .error ruleNotFound := by
    decide
  refine ⟨by decide, by decide, ?_⟩
  intro h
  rcases h with ⟨entries, hentries, _⟩
  rw [hresult] at hentries
  cases hentries

end Admin
end IdentityBillpay
