import IdentityBillpay.Admin.AuthorizationRulesService
import IdentityBillpay.Async.Hoare

/-!
# Endings — all the ways a request can end, and what it leaves

* `Created`, `Changed`, `Logged` — the effect of each write of a request;
* `Ending` — the endings of a request: nothing written, a first write refused, all written, or the
  second write refused after the first was done;
* `answer_ending` — every call has one of these endings.
-/

namespace IdentityBillpay
namespace Admin

open Async Async.Program Js
open Bbps (Actor)
open Rbac (isSuperadmin)

/-! ## What was awaited -/

/-- Nothing has been written, and nothing has failed. -/
def OnlyReads (own : Own) : Prop :=
  ∀ a ∈ own, a.op.isWrite = false ∧ a.res.isOk = true

def NoFailure (own : Own) : Prop :=
  ∀ a ∈ own, a.res.isOk = true

/-- The request's first write was refused. -/
def FirstWriteFails (own : Own) : Prop :=
  ∃ reads op e, OnlyReads reads ∧ op.isWrite = true ∧ own = reads ++ [⟨op, .error e⟩]

/-- A write was refused after another one had been done. -/
def SecondWriteFails (own : Own) : Prop :=
  ∃ reads op u op' e, OnlyReads reads ∧ op.isWrite = true ∧
    own = reads ++ [⟨op, .ok u⟩, ⟨op', .error e⟩]

theorem OnlyReads.noFailure {own : Own} (h : OnlyReads own) : NoFailure own :=
  fun a ha => (h a ha).2

theorem FirstWriteFails.not_noFailure {own : Own} (h : FirstWriteFails own) : ¬ NoFailure own := by
  rcases h with ⟨reads, op, e, _, _, rfl⟩
  intro hno
  have hok := hno ⟨op, .error e⟩ (by simp)
  simp [Except.isOk, Except.toBool] at hok

theorem SecondWriteFails.not_noFailure {own : Own} (h : SecondWriteFails own) :
    ¬ NoFailure own := by
  rcases h with ⟨reads, op, u, op', e, _, _, rfl⟩
  intro hno
  have hok := hno ⟨op', .error e⟩ (by simp)
  simp [Except.isOk, Except.toBool] at hok

theorem SecondWriteFails.not_firstWriteFails {own : Own} (h : SecondWriteFails own) :
    ¬ FirstWriteFails own := by
  rcases h with ⟨reads, op, u, op', e, hreads, hop, rfl⟩
  intro hfirst
  rcases hfirst with ⟨reads', op'', e', hreads', _, heq⟩
  have hsplit : (reads ++ [⟨op, .ok u⟩]) ++ [(⟨op', .error e⟩ : Awaited sig AdminError)] =
      reads' ++ [⟨op'', .error e'⟩] := by
    simpa using heq
  have hread := (List.append_inj' hsplit rfl).1
  have hmem : (⟨op, .ok u⟩ : Awaited sig AdminError) ∈ reads' := by simp [← hread]
  have hnot := (hreads' _ hmem).1
  simp [hop] at hnot

/-! ## What was written -/

/-- A new rule is stored. -/
structure Created (s : Store) (dto : CreateAuthorizationRuleDto) (actor : Actor)
    (rule : AuthorizationRule) (row : AuthorizationRuleRow) (m : Store) : Prop where
  superadmin : isSuperadmin actor = true
  stores : rule.Stores row
  live : row.deletedAt = none
  version : row.version = 1
  fresh : ∀ r ∈ s.rules, r.id ≠ row.id
  rules : ∀ r, r ∈ m.rules ↔ r ∈ s.rules ∨ r = row
  history : m.history = s.history

/-- A stored rule is overwritten by what `update` makes of it. -/
structure Changed (s : Store) (dto : UpdateAuthorizationRuleDto) (actor : Actor)
    (read row : AuthorizationRuleRow) (m : Store) : Prop where
  superadmin : isSuperadmin actor = true
  read_mem : read ∈ s.rules
  read_id : read.id = dto.id
  read_live : read.deletedAt = none
  stores : (dto.apply actor read.entity).Stores row
  rules : ∀ r, r ∈ m.rules ↔ r = row ∨ (r ∈ s.rules ∧ r.id ≠ row.id)
  history : m.history = s.history

/-- A history entry is appended. -/
structure Logged (m : Store) (new : NewHistory) (entry : AuthorizationRuleHistory) (s' : Store) :
    Prop where
  row : ∃ id, new.row? id = some entry
  rules : s'.rules = m.rules
  history : s'.history.rows = m.history.rows ++ [entry]

/-- `deactivate` has read a live rule. -/
structure Read (s : Store) (id : String) (actor : Actor) (read : AuthorizationRuleRow) : Prop where
  superadmin : isSuperadmin actor = true
  mem : read ∈ s.rules
  id : read.id = id
  live : read.deletedAt = none

def Request.isRead : Request → Bool
  | .findAll _ | .findOne _ _ | .findHistory _ _ => true
  | _ => false

inductive Ending (s : Store) : Request → Own → Except AdminError Reply → Store → Prop
  | quiet {r : Request} {own : Own} {result : Except AdminError Reply} (hown : OnlyReads own)
      (hresult : ∀ reply, result = .ok reply → r.isRead = true) : Ending s r own result s
  | refused {r : Request} {own : Own} {e : AdminError} (hown : FirstWriteFails own) :
      Ending s r own (.error e) s
  | created {dto : CreateAuthorizationRuleDto} {actor : Actor} {own : Own}
      {rule : AuthorizationRule} {row : AuthorizationRuleRow} {m s' : Store}
      {entry : AuthorizationRuleHistory} (hown : NoFailure own)
      (hrow : Created s dto actor rule row m) (hlog : Logged m (rule.creation actor) entry s') :
      Ending s (.create dto actor) own (.ok (.rule rule)) s'
  | createdOnly {dto : CreateAuthorizationRuleDto} {actor : Actor} {own : Own} {e : AdminError}
      {rule : AuthorizationRule} {row : AuthorizationRuleRow} {m : Store}
      (hown : SecondWriteFails own) (hrow : Created s dto actor rule row m) :
      Ending s (.create dto actor) own (.error e) m
  | changed {dto : UpdateAuthorizationRuleDto} {actor : Actor} {own : Own}
      {read row : AuthorizationRuleRow} {m s' : Store} {entry : AuthorizationRuleHistory}
      (hown : NoFailure own) (hrow : Changed s dto actor read row m)
      (hlog : Logged m (dto.change actor (dto.apply actor read.entity)) entry s') :
      Ending s (.update dto actor) own (.ok (.rule (dto.apply actor read.entity))) s'
  | changedOnly {dto : UpdateAuthorizationRuleDto} {actor : Actor} {own : Own} {e : AdminError}
      {read row : AuthorizationRuleRow} {m : Store} (hown : SecondWriteFails own)
      (hrow : Changed s dto actor read row m) : Ending s (.update dto actor) own (.error e) m
  | deactivated {id : String} {actor : Actor} {own : Own} {read : AuthorizationRuleRow} {m : Store}
      {entry : AuthorizationRuleHistory} {now : Date} (hown : NoFailure own)
      (hread : Read s id actor read) (hlog : Logged s (read.entity.deactivation actor) entry m) :
      Ending s (.deactivate id actor) own (.ok (.deactivated id)) (softDeleteRule m id now)
  | loggedOnly {id : String} {actor : Actor} {own : Own} {e : AdminError}
      {read : AuthorizationRuleRow} {m : Store} {entry : AuthorizationRuleHistory}
      (hown : SecondWriteFails own) (hread : Read s id actor read)
      (hlog : Logged s (read.entity.deactivation actor) entry m) :
      Ending s (.deactivate id actor) own (.error e) m

/-! ## Every call has one of these endings -/

/-- The endings of `r` from `s`, as a postcondition. -/
abbrev Ends (s : Store) (r : Request) (t : backend.traced.State) (result : Except AdminError Reply) :
    Prop :=
  Ending s r t.1 result t.2

section Endings

variable {s s' m : Store} {own : Own} {actor : Actor} {ch : Choice}

theorem insertRule_created {dto : CreateAuthorizationRuleDto} {rule : AuthorizationRule}
    (hactor : isSuperadmin actor = true)
    (h : perform (.insertRule (dto.newRule actor)) ch s = (.ok rule, s')) :
    ∃ row, Created s dto actor rule row s' := by
  rcases insertRule_ok h with ⟨row, hentity, hstores, hfresh, hrules, hhistory⟩
  rcases Option.map_eq_some_iff.1 hentity with ⟨createdBy, _, rfl⟩
  exact ⟨row, hactor, hstores, hstores.deletedAt, hstores.version, hfresh, hrules, hhistory⟩

theorem saveRule_changed {dto : UpdateAuthorizationRuleDto} {read : AuthorizationRuleRow} {u : Unit}
    (hactor : isSuperadmin actor = true) (hmem : read ∈ s.rules) (hid : read.id = dto.id)
    (hlive : read.deletedAt = none)
    (h : perform (.saveRule (dto.apply actor read.entity)) ch s = (.ok u, s')) :
    ∃ row, Changed s dto actor read row s' := by
  rcases saveRule_ok h with ⟨row, hstores, hrules, hhistory⟩
  exact ⟨row, hactor, hmem, hid, hlive, hstores, hrules, hhistory⟩

theorem insertHistory_logged {new : NewHistory} {u : Unit}
    (h : perform (.insertHistory new) ch s = (.ok u, s')) : ∃ entry, Logged s new entry s' := by
  rcases insertHistory_ok h with ⟨entry, hentry, hrules, hrows⟩
  exact ⟨entry, ⟨_, hentry⟩, hrules, hrows⟩

theorem onlyReads_nil : OnlyReads [] := by
  simp [OnlyReads]

theorem OnlyReads.findRule (id : String) (found : Option AuthorizationRule) :
    OnlyReads [⟨.findRule id, .ok found⟩] := by
  simp [OnlyReads, Op.isWrite, Except.isOk, Except.toBool]

theorem OnlyReads.first {op : Op} {e : AdminError} (h : OnlyReads own) (hop : op.isWrite = true) :
    FirstWriteFails (own ++ [⟨op, .error e⟩]) :=
  ⟨own, op, e, h, hop, rfl⟩

theorem OnlyReads.second {op op' : Op} {u : op.Res} {e : AdminError} (h : OnlyReads own)
    (hop : op.isWrite = true) :
    SecondWriteFails (own ++ [⟨op, .ok u⟩] ++ [⟨op', .error e⟩]) :=
  ⟨own, op, u, op', e, h, hop, by simp⟩

theorem OnlyReads.both {op op' : Op} {u : op.Res} {u' : op'.Res} (h : OnlyReads own) :
    NoFailure (own ++ [⟨op, .ok u⟩] ++ [⟨op', .ok u'⟩]) := by
  intro a ha
  rw [List.append_assoc, List.mem_append] at ha
  rcases ha with ha | ha
  · exact (h a ha).2
  · simp only [List.singleton_append, List.mem_cons, List.not_mem_nil, or_false] at ha
    rcases ha with rfl | rfl
    · rfl
    · rfl

/-- The rule for one operation: only writes fail, and then the store is as it was. -/
theorem ensures_op {α : Type} {Q : backend.traced.State → Except AdminError α → Prop} {op : Op}
    {f : op.Res → Prog α}
    (herr : ∀ e, op.isWrite = true → Q (own ++ [⟨op, .error e⟩], s) (.error e))
    (hok : ∀ ch a s', perform op ch s = (.ok a, s') →
      Ensures backend.traced (fun _ => True) Q (own ++ [⟨op, .ok a⟩], s') (f a)) :
    Ensures backend.traced (fun _ => True) Q (own, s) (call op >>= f) := by
  refine ensures_traced_call_bind (fun ch e s' hp => ?_) hok
  have hfailed : perform op ch s = (.error e, s') := hp
  rw [(perform_error hfailed).2]
  exact herr e (perform_error hfailed).1

theorem ends_create (dto : CreateAuthorizationRuleDto) (actor : Actor) (s : Store) :
    Ensures backend.traced (fun _ => True) (Ends s (.create dto actor)) ([], s)
      (program (.create dto actor)) := by
  change Ensures _ _ _ _ (create dto actor >>= fun reply => pure (Reply.rule reply))
  unfold create assertIsSuperAdmin
  rw [bind_assoc]
  by_cases hactor : isSuperadmin actor = true
  · rw [if_pos hactor, settled_ok, resolve_bind, bind_assoc]
    refine ensures_op ?_ ?_
    · intro e _
      exact .refused (onlyReads_nil.first rfl)
    · intro ch rule m hp
      rcases insertRule_created hactor hp with ⟨row, hrow⟩
      rw [bind_assoc]
      refine ensures_op ?_ ?_
      · intro e _
        exact .createdOnly (onlyReads_nil.second rfl) hrow
      · intro ch' u s' hp'
        rcases insertHistory_logged hp' with ⟨entry, hlog⟩
        exact .created onlyReads_nil.both hrow hlog
  · rw [if_neg hactor]
    exact .quiet onlyReads_nil (by simp)

theorem ends_update (dto : UpdateAuthorizationRuleDto) (actor : Actor) (s : Store) :
    Ensures backend.traced (fun _ => True) (Ends s (.update dto actor)) ([], s)
      (program (.update dto actor)) := by
  change Ensures _ _ _ _ (update dto actor >>= fun reply => pure (Reply.rule reply))
  unfold update assertIsSuperAdmin
  rw [bind_assoc]
  by_cases hactor : isSuperadmin actor = true
  · -- The rule is looked up, saved and logged, in this order.
    rw [if_pos hactor, settled_ok, resolve_bind, bind_assoc]
    refine ensures_op ?_ ?_
    · intro e hwrite
      cases hwrite
    · intro ch found s' hp
      have hsame : s' = s := (congrArg Prod.snd hp).symm
      rw [hsame]
      cases found with
      | none => exact .quiet (.findRule dto.id none) (by simp)
      | some rule =>
          rcases findRule_some (congrArg Prod.fst hp) with ⟨read, hmem, hid, hlive, rfl⟩
          have hreads := OnlyReads.findRule dto.id (some read.entity)
          rw [bind_assoc]
          refine ensures_op ?_ ?_
          · intro e _
            exact .refused (hreads.first rfl)
          · intro ch u m hp
            rcases saveRule_changed hactor hmem hid hlive hp with ⟨row, hrow⟩
            rw [bind_assoc]
            refine ensures_op ?_ ?_
            · intro e _
              exact .changedOnly (hreads.second rfl) hrow
            · intro ch' u' s' hp'
              rcases insertHistory_logged hp' with ⟨entry, hlog⟩
              exact .changed hreads.both hrow hlog
  · rw [if_neg hactor]
    exact .quiet onlyReads_nil (by simp)

theorem ends_deactivate (id : String) (actor : Actor) (s : Store) :
    Ensures backend.traced (fun _ => True) (Ends s (.deactivate id actor)) ([], s)
      (program (.deactivate id actor)) := by
  change Ensures _ _ _ _ (deactivate id actor >>= fun reply => pure (Reply.deactivated reply))
  unfold deactivate assertIsSuperAdmin
  rw [bind_assoc]
  by_cases hactor : isSuperadmin actor = true
  · -- The rule is looked up, logged and only then deleted.
    rw [if_pos hactor, settled_ok, resolve_bind, bind_assoc]
    refine ensures_op ?_ ?_
    · intro e hwrite
      cases hwrite
    · intro ch found s' hp
      have hsame : s' = s := (congrArg Prod.snd hp).symm
      rw [hsame]
      cases found with
      | none => exact .quiet (.findRule id none) (by simp)
      | some rule =>
          rcases findRule_some (congrArg Prod.fst hp) with ⟨read, hmem, hid, hlive, rfl⟩
          have hread : Read s id actor read := ⟨hactor, hmem, hid, hlive⟩
          have hreads := OnlyReads.findRule id (some read.entity)
          rw [bind_assoc]
          refine ensures_op ?_ ?_
          · intro e _
            exact .refused (hreads.first rfl)
          · intro ch u m hp
            rcases insertHistory_logged hp with ⟨entry, hlog⟩
            rw [bind_assoc]
            refine ensures_op ?_ ?_
            · intro e _
              exact .loggedOnly (hreads.second rfl) hread hlog
            · intro ch' u' s' hp'
              cases softDeleteRule_ok hp'
              exact .deactivated hreads.both hread hlog
  · rw [if_neg hactor]
    exact .quiet onlyReads_nil (by simp)

/-- Nothing but reads. -/
def Reads (_ : Own) (op : Op) : Prop :=
  op.isWrite = false

/-- A program that only reads leaves everything as it was. -/
theorem ensures_reads {α : Type} {p : Prog α}
    (h : Follows Reads (fun _ _ => True) own p) (hown : OnlyReads own) :
    Ensures backend.traced (fun _ => True) (fun t _ => OnlyReads t.1 ∧ t.2 = s) (own, s) p := by
  induction p generalizing own with
  | resolve a => exact ⟨hown, rfl⟩
  | reject e => exact ⟨hown, rfl⟩
  | await op k ih =>
      intro ch
      rcases perform_read h.1 ch s with ⟨a, ha⟩
      have hperform : backend.perform op ch s = (.ok a, s) := ha
      have hstep : backend.traced.perform op ch (own, s) = (.ok a, own ++ [⟨op, .ok a⟩], s) := by
        rw [traced_perform, hperform]
      rw [hstep]
      refine ⟨trivial, ih _ (h.2 _) ?_⟩
      intro b hb
      rcases List.mem_append.1 hb with hb | hb
      · exact hown b hb
      · rw [List.mem_singleton.1 hb]
        exact ⟨h.1, rfl⟩

theorem follows_findOne (id : String) (actor : Actor) (own : Own) :
    Follows Reads (fun _ _ => True) own (findOne id actor) := by
  unfold findOne
  refine follows_settled_bind (fun _ _ => trivial) fun _ _ => ?_
  refine follows_call_bind rfl (fun _ => trivial) ?_
  intro found
  cases (found : Option AuthorizationRule) with
  | none => trivial
  | some rule => trivial

/-- The requests that read await nothing but reads. -/
theorem follows_read {r : Request} (hr : r.isRead = true) :
    Follows Reads (fun _ _ => True) [] (program r) := by
  cases r with
  | findAll actor =>
      refine Follows.andThen ?_ fun _ _ => trivial
      exact follows_settled_bind (fun _ _ => trivial) fun _ _ => ⟨rfl, fun _ => follows_settled.2 trivial⟩
  | findOne id actor =>
      exact (follows_findOne id actor []).andThen fun _ _ => trivial
  | findHistory id actor =>
      refine Follows.andThen ?_ fun _ _ => trivial
      refine follows_settled_bind (fun _ _ => trivial) fun _ _ => ?_
      exact (follows_findOne id actor _).andThen fun _ _ => ⟨rfl, fun _ => follows_settled.2 trivial⟩
  | _ => simp [Request.isRead] at hr

theorem ends_program (r : Request) (s : Store) :
    Ensures backend.traced (fun _ => True) (Ends s r) ([], s) (program r) := by
  by_cases hr : r.isRead = true
  · refine (ensures_reads (follows_read hr) onlyReads_nil).mono ?_
    intro t result h
    rcases t with ⟨own, s'⟩
    rcases h with ⟨hown, rfl⟩
    exact .quiet hown fun _ _ => hr
  · cases r with
    | create dto actor => exact ends_create dto actor s
    | update dto actor => exact ends_update dto actor s
    | deactivate id actor => exact ends_deactivate id actor s
    | _ => simp [Request.isRead] at hr

end Endings

/-- Every call ends in one of the ways listed. -/
theorem answer_ending (s : Store) (c : Call service) :
    Ending s c.request (service.answer s c).awaited (service.answer s c).result
      (service.answer s c).state :=
  (ends_program c.request s).exec_traced c.choices

end Admin
end IdentityBillpay
