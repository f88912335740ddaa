import IdentityBillpay.Async.Protocol
import IdentityBillpay.Outbox.LifeCycle

/-!
# Overlap — ticks that overlap, and saves that fail

A tick saves whole copies of the rows it read when it started. While it is at work another tick may
call for the same row, and a save of `SENT` that fails is taken for a failed call.

* `calling` — the call whose outcome a tick has yet to save;
* `Undisturbed` — no call for a row that another tick is at, or has settled, and no `SENT` is lost;
* `delivered_not_forgotten` — the law of delivered rows in undisturbed runs;
* `delivered_row_forgotten` — two runs that break it.
-/

namespace IdentityBillpay
namespace Outbox

open Async Async.Program Keycloak
open AuditOutboxRelayJob (relayRow relayAll)

/-! ## Calls and saves -/

/-- The row a call is for. -/
def relayOf? : Op → Option String
  | .relay rowId _ _ => some rowId
  | _ => none

/-- The row that the tick has called for last, and whether the call was answered, if the outcome is
not yet saved. -/
def calling (own : Own) : Option (String × Bool) :=
  own.getLast?.bind fun a => (relayOf? a.op).map fun rowId => (rowId, a.res.isOk)

/-- A save of `SENT` that has failed. -/
def unsaved (a : Awaited sig HttpError) : Bool :=
  match a.op with
  | .save entity => entity.status == .SENT && !a.res.isOk
  | _ => false

def Delivered (h : History service) (rowId : String) : Prop :=
  ∃ e ∈ h.trace, relayOf? e.op = some rowId ∧ e.res.isOk = true

instance (h : History service) (rowId : String) : Decidable (Delivered h rowId) :=
  inferInstanceAs (Decidable (∃ e ∈ h.trace, relayOf? e.op = some rowId ∧ e.res.isOk = true))

@[simp] theorem calling_nil : calling [] = none := rfl

theorem calling_concat (own : Own) (a : Awaited sig HttpError) :
    calling (own ++ [a]) = (relayOf? a.op).map fun rowId => (rowId, a.res.isOk) := by
  simp [calling]

/-- The row is stored as pending, and no other tick has yet to save what became of a call for it. -/
def Free (h : History service) (who : Nat) (rowId : String) : Prop :=
  (∃ row ∈ h.state.rows, row.id = rowId ∧ row.status = .PENDING) ∧
    ∀ j < h.requests.length, j ≠ who → (calling (h.own j)).map Prod.fst ≠ some rowId

instance (h : History service) (who : Nat) (rowId : String) : Decidable (Free h who rowId) :=
  inferInstanceAs (Decidable (_ ∧ _))

def Undisturbed (h : History service) (e : Event sig HttpError) : Prop :=
  (∀ rowId ∈ relayOf? e.op, Free h e.who rowId) ∧ unsaved e.toAwaited = false

instance (h : History service) (e : Event sig HttpError) : Decidable (Undisturbed h e) :=
  inferInstanceAs (Decidable (_ ∧ _))

/-! ## What a tick may await -/

inductive Awaits (own : Own) : Op → Prop
  | read (h : calling own = none) : Awaits own .findPending
  | relay {rowId eventType payload : String} (h : calling own = none) :
      Awaits own (.relay rowId eventType payload)
  | sent {row : AuditOutbox} (h : calling own = some (row.id, true)) (hrow : row.status = .SENT) :
      Awaits own (.save row)
  | failed {row : AuditOutbox} (h : calling own = some (row.id, false)) (hrow : row.status ≠ .SENT) :
      Awaits own (.save row)
  | unsaved {row : AuditOutbox} {a : Awaited sig HttpError} (ha : a ∈ own) (h : unsaved a = true) :
      Awaits own (.save row)

theorem failedAttempt_status (row : AuditOutbox) : (failedAttempt row).status ≠ .SENT := by
  by_cases hlast : row.attempts + 1 ≥ MAX_RELAY_ATTEMPTS
  · simp [failedAttempt, hlast]
  · simp [failedAttempt, hlast]

/-- Where the handler of a row is entered: its call has failed, or the save behind it. -/
def Caught (row : AuditOutbox) (own : Own) : Except HttpError Unit → Prop
  | .ok _ => calling own = none
  | .error _ => calling own = some (row.id, false) ∨ ∃ a ∈ own, unsaved a = true

theorem follows_relayRow {own : Own} (h : calling own = none) (row : AuditOutbox) :
    Follows Awaits (fun own _ => calling own = none) own (relayRow row) := by
  refine Follows.handle (Q := Caught row) ?_ ?_ ?_
  · refine follows_call_bind (.relay h) (fun e => .inl (calling_concat _ _)) fun u => ?_
    refine ⟨.sent (calling_concat _ _) rfl, fun r => follows_settled.2 ?_⟩
    cases r with
    | ok u => exact calling_concat _ _
    | error e => exact .inr ⟨_, List.mem_append_right _ (List.mem_singleton_self _), rfl⟩
  · exact fun own u h => h
  · intro own e hfailed
    refine ⟨?_, fun r => follows_settled.2 (calling_concat _ _)⟩
    rcases hfailed with hcall | ⟨a, ha, hunsaved⟩
    · exact .failed hcall (failedAttempt_status row)
    · exact .unsaved ha hunsaved

theorem follows_relayAll {own : Own} (h : calling own = none) (rows : List AuditOutbox) :
    Follows Awaits (fun own _ => calling own = none) own (relayAll rows) := by
  induction rows generalizing own with
  | nil => exact h
  | cons row rows ih =>
      exact (follows_relayRow h row).bind (fun own _ hown => ih hown) fun own _ hown => hown

theorem follows_handle : Follows Awaits (fun own _ => calling own = none) []
    AuditOutboxRelayJob.handle := by
  rw [AuditOutboxRelayJob.handle_eq]
  exact follows_call_bind (.read rfl) (fun e => rfl) fun pending => follows_relayAll rfl pending

/-! ## The invariant -/

structure Settled (h : History service) : Prop where
  pending : ∀ i rowId answered, calling (h.own i) = some (rowId, answered) →
    ∃ row ∈ h.state.rows, row.id = rowId ∧ row.status = .PENDING
  alone : ∀ i j rowId answered answered', calling (h.own i) = some (rowId, answered) →
    calling (h.own j) = some (rowId, answered') → i = j
  undelivered : ∀ i rowId, calling (h.own i) = some (rowId, false) → ¬ Delivered h rowId
  delivered : ∀ rowId, Delivered h rowId →
    (∃ row ∈ h.state.rows, row.id = rowId ∧ row.status = .SENT) ∨
      ∃ i, calling (h.own i) = some (rowId, true)
  saved : ∀ e ∈ h.trace, unsaved e.toAwaited = false

section Steps

variable {s : Store} {h : History service} {i : Nat} {op : Op} {ch : Choice}

/-- Only a save replaces a row, and only the one with its id. -/
theorem perform_keeps {row : AuditOutbox} (hrow : row ∈ s.rows)
    (hother : ∀ entity, op = .save entity → row.id ≠ entity.id) :
    row ∈ (perform op ch s).2.rows := by
  have hkept : row ∈ (arrive s ch.arrivals).rows := arrive_kept hrow
  cases op with
  | findPending =>
      rw [findPending_state]
      exact hkept
  | relay rowId eventType payload =>
      rw [relay_state]
      exact hkept
  | save entity =>
      cases hp : perform (.save entity) ch s with
      | mk res s' =>
          cases res with
          | ok u => exact ((save_ok hp).2 row).2 (.inr ⟨hkept, hother entity rfl⟩)
          | error e =>
              rw [save_error hp]
              exact hkept

theorem calling_perform_self : calling ((h.perform i op ch).own i) =
    (relayOf? op).map fun rowId => (rowId, (perform op ch h.state).1.isOk) := by
  rw [History.perform_own_self, calling_concat]

theorem calling_perform_ne {j : Nat} (hj : j ≠ i) :
    calling ((h.perform i op ch).own j) = calling (h.own j) := by
  rw [History.perform_own_ne h op ch hj]

theorem delivered_perform {rowId : String} : Delivered (h.perform i op ch) rowId ↔
    Delivered h rowId ∨
      (relayOf? op = some rowId ∧ (perform op ch h.state).1.isOk = true) := by
  simp only [Delivered, History.perform_trace, List.mem_append, List.mem_singleton, or_and_right,
    exists_or, exists_eq_left]

theorem calling_cases {j : Nat} {rowId : String} {answered : Bool}
    (hj : calling ((h.perform i op ch).own j) = some (rowId, answered)) :
    (j = i ∧ relayOf? op = some rowId ∧ answered = (perform op ch h.state).1.isOk) ∨
      (j ≠ i ∧ calling (h.own j) = some (rowId, answered)) := by
  by_cases hji : j = i
  · subst hji
    rw [calling_perform_self] at hj
    rcases Option.map_eq_some_iff.1 hj with ⟨rowId', hop, hsame⟩
    cases hsame
    exact .inl ⟨rfl, hop, rfl⟩
  · rw [calling_perform_ne hji] at hj
    exact .inr ⟨hji, hj⟩

/-- No other tick has yet to save the outcome of a call for a row that is free. -/
theorem Free.not_calling {rowId : String} (hfree : Free h i rowId) (ha : h.Attributed) {j : Nat}
    (hj : j ≠ i) (answered : Bool) : calling (h.own j) ≠ some (rowId, answered) := by
  intro hcall
  by_cases hlt : j < h.requests.length
  · exact hfree.2 j hlt hj (by rw [hcall]; rfl)
  · rw [ha.own_eq_nil (Nat.le_of_not_lt hlt)] at hcall
    cases hcall

/-- A row that is free has not been delivered. -/
theorem Free.undelivered {rowId : String} (hfree : Free h i rowId) (ha : h.Attributed)
    (hI : Settled h) (hown : calling (h.own i) = none) : ¬ Delivered h rowId := by
  intro hdelivered
  rcases hI.delivered rowId hdelivered with ⟨row', hrow', hid', hsent⟩ | ⟨j, hj⟩
  · rcases hfree.1 with ⟨row, hrow, hid, hpending⟩
    have hsame : row' = row := Sql.Table.eq_of_id hrow' hrow (hid'.trans hid.symm)
    rw [hsame, hpending] at hsent
    cases hsent
  · by_cases hji : j = i
    · rw [hji, hown] at hj
      cases hj
    · exact hfree.not_calling ha hji true hj

theorem saved_perform (hI : Settled h)
    (hsaved : unsaved ⟨op, (perform op ch h.state).1⟩ = false) :
    ∀ e ∈ (h.perform i op ch).trace, unsaved e.toAwaited = false := by
  intro e he
  rcases List.mem_append.1 he with he | he
  · exact hI.saved e he
  · rw [List.mem_singleton.1 he]
    exact hsaved

/-- A read, or a call for a row that is free. -/
theorem settled_call (hI : Settled h) (ha : h.Attributed) (hown : calling (h.own i) = none)
    (hop : ∀ entity, op ≠ .save entity) (hfree : ∀ rowId ∈ relayOf? op, Free h i rowId)
    (hsaved : unsaved ⟨op, (perform op ch h.state).1⟩ = false) : Settled (h.perform i op ch) := by
  have hkeeps : ∀ row ∈ h.state.rows, row ∈ (h.perform i op ch).state.rows :=
    fun row hrow => perform_keeps hrow fun entity hsave => absurd hsave (hop entity)
  refine ⟨?_, ?_, ?_, ?_, saved_perform hI hsaved⟩
  · -- A call of this step is for a free row; the other calls were there before.
    intro j rowId answered hj
    have hold : ∃ row ∈ h.state.rows, row.id = rowId ∧ row.status = .PENDING := by
      rcases calling_cases hj with ⟨_, hrelay, _⟩ | ⟨_, hcall⟩
      · exact (hfree rowId hrelay).1
      · exact hI.pending j rowId answered hcall
    rcases hold with ⟨row, hrow, hpending⟩
    exact ⟨row, hkeeps row hrow, hpending⟩
  · -- Two calls for one row would make the row not free.
    intro j k rowId answered answered' hj hk
    rcases calling_cases hj with ⟨rfl, hrelay, _⟩ | ⟨hji, hcall⟩
    · rcases calling_cases hk with ⟨rfl, _, _⟩ | ⟨hki, hcall'⟩
      · rfl
      · exact absurd hcall' ((hfree rowId hrelay).not_calling ha hki answered')
    · rcases calling_cases hk with ⟨rfl, hrelay, _⟩ | ⟨_, hcall'⟩
      · exact absurd hcall ((hfree rowId hrelay).not_calling ha hji answered)
      · exact hI.alone j k rowId answered answered' hcall hcall'
  · intro j rowId hj hdelivered
    rcases calling_cases hj with ⟨rfl, hrelay, hfails⟩ | ⟨hji, hcall⟩
    · rcases delivered_perform.1 hdelivered with hbefore | ⟨_, hok⟩
      · exact (hfree rowId hrelay).undelivered ha hI hown hbefore
      · rw [← hfails] at hok
        cases hok
    · rcases delivered_perform.1 hdelivered with hbefore | ⟨hrelay, _⟩
      · exact hI.undelivered j rowId hcall hbefore
      · exact (hfree rowId hrelay).not_calling ha hji false hcall
  · -- What has been delivered is marked as sent, or its call is the last of its run.
    intro rowId hdelivered
    rcases delivered_perform.1 hdelivered with hbefore | ⟨hrelay, hok⟩
    · rcases hI.delivered rowId hbefore with ⟨row, hrow, hsent⟩ | ⟨j, hj⟩
      · exact .inl ⟨row, hkeeps row hrow, hsent⟩
      · have hji : j ≠ i := by
          intro hji
          rw [hji, hown] at hj
          cases hj
        exact .inr ⟨j, by rw [calling_perform_ne hji, hj]⟩
    · exact .inr ⟨i, by rw [calling_perform_self, hrelay, hok]; rfl⟩

/-- The save of an outcome. -/
theorem settled_save (hI : Settled h) {entity : AuditOutbox} {answered : Bool}
    (hown : calling (h.own i) = some (entity.id, answered))
    (hstatus : answered = true → entity.status = .SENT)
    (hsaved : unsaved ⟨.save entity, (perform (.save entity) ch h.state).1⟩ = false) :
    Settled (h.perform i (.save entity) ch) := by
  have hkeeps : ∀ row ∈ h.state.rows, row.id ≠ entity.id →
      row ∈ (h.perform i (.save entity) ch).state.rows := by
    intro row hrow hid
    refine perform_keeps hrow fun entity' hsave => ?_
    cases hsave
    exact hid
  -- The tick has saved its outcome; the calls of the others are for other rows.
  have hcalls : ∀ {j rowId answered'},
      calling ((h.perform i (.save entity) ch).own j) = some (rowId, answered') →
        rowId ≠ entity.id ∧ calling (h.own j) = some (rowId, answered') := by
    intro j rowId answered' hj
    rcases calling_cases hj with ⟨_, hrelay, _⟩ | ⟨hji, hcall⟩
    · cases hrelay
    · refine ⟨fun hid => hji ?_, hcall⟩
      rw [hid] at hcall
      exact hI.alone j i entity.id answered' answered hcall hown
  have hdelivered : ∀ rowId,
      Delivered (h.perform i (.save entity) ch) rowId ↔ Delivered h rowId :=
    fun rowId => delivered_perform.trans (or_iff_left fun hnew => by cases hnew.1)
  refine ⟨?_, ?_, ?_, ?_, saved_perform hI hsaved⟩
  · intro j rowId answered' hj
    rcases hcalls hj with ⟨hother, hcall⟩
    rcases hI.pending j rowId answered' hcall with ⟨row, hrow, hid, hpending⟩
    exact ⟨row, hkeeps row hrow (hid ▸ hother), hid, hpending⟩
  · intro j k rowId answered' answered'' hj hk
    exact hI.alone j k rowId answered' answered'' (hcalls hj).2 (hcalls hk).2
  · intro j rowId hj
    rw [hdelivered]
    exact hI.undelivered j rowId (hcalls hj).2
  · intro rowId hnow
    have hbefore := (hdelivered rowId).1 hnow
    by_cases hid : rowId = entity.id
    · subst hid
      -- The outcome that is saved is that of the call that delivered the row.
      have hanswered : answered = true := by
        cases answered with
        | true => rfl
        | false => exact absurd hbefore (hI.undelivered i entity.id hown)
      left
      refine ⟨entity, ?_, rfl, hstatus hanswered⟩
      cases hp : perform (.save entity) ch h.state with
      | mk res s' =>
          cases res with
          | ok u =>
              rw [History.perform_state, show service.perform (.save entity) ch h.state = _ from hp]
              exact ((save_ok hp).2 entity).2 (.inl rfl)
          | error e =>
              rw [hp] at hsaved
              simp [unsaved, hstatus hanswered, Except.isOk, Except.toBool] at hsaved
    · rcases hI.delivered rowId hbefore with ⟨row, hrow, hrowId, hsent⟩ | ⟨j, hj⟩
      · exact .inl ⟨row, hkeeps row hrow (hrowId ▸ hid), hrowId, hsent⟩
      · have hji : j ≠ i := by
          intro hji
          rw [hji, hown] at hj
          exact hid (Prod.mk.inj (Option.some.inj hj)).1.symm
        exact .inr ⟨j, by rw [calling_perform_ne hji, hj]⟩

theorem settled_perform (hI : Settled h) (ha : h.Attributed) (hop : Awaits (h.own i) op)
    (hC : Undisturbed h ⟨⟨op, (perform op ch h.state).1⟩, i⟩) : Settled (h.perform i op ch) := by
  rcases hC with ⟨hfree, hsaved⟩
  cases hop with
  | read hown => exact settled_call hI ha hown (fun _ hsave => by cases hsave) hfree hsaved
  | relay hown => exact settled_call hI ha hown (fun _ hsave => by cases hsave) hfree hsaved
  | sent hown hsent => exact settled_save hI hown (fun _ => hsent) hsaved
  | failed hown hunsent => exact settled_save hI hown (fun hfalse => by cases hfalse) hsaved
  | unsaved hmem hunsaved =>
      have hfalse := hI.saved _ (History.mem_own.1 hmem)
      rw [hunsaved] at hfalse
      cases hfalse

/-- A row that is `SENT` is not the one whose outcome a tick saves. -/
theorem sent_perform (hI : Settled h) (hop : Awaits (h.own i) op) {row : AuditOutbox}
    (hrow : row ∈ h.state.rows) (hsent : row.status = .SENT) :
    row ∈ (h.perform i op ch).state.rows := by
  refine perform_keeps hrow fun entity hsave hid => ?_
  have hcalled : ∀ {answered}, calling (h.own i) ≠ some (entity.id, answered) := by
    intro answered hown
    rcases hI.pending i entity.id answered hown with ⟨row', hrow', hid', hpending⟩
    have hsame : row' = row := Sql.Table.eq_of_id hrow' hrow (hid'.trans hid.symm)
    rw [hsame, hsent] at hpending
    cases hpending
  subst hsave
  cases hop with
  | sent hown _ => exact hcalled hown
  | failed hown _ => exact hcalled hown
  | unsaved hmem hunsaved =>
      have hfalse := hI.saved _ (History.mem_own.1 hmem)
      rw [hunsaved] at hfalse
      cases hfalse

end Steps

/-! ## Runs -/

theorem settled_run {s : Store} {as : List (Action service)}
    (hC : Config.Meets Undisturbed (Config.initial service s) as) :
    Settled ((Config.initial service s).run as).toHistory := by
  refine Config.run_induction (fun _ => follows_handle) ?_ ?_ ?_ as hC
  · exact fun h r _ hI => ⟨hI.pending, hI.alone, hI.undelivered, hI.delivered, hI.saved⟩
  · exact fun h i r op ch hattr hI _ hop hCe => settled_perform hI hattr hop hCe
  · refine ⟨?_, ?_, ?_, ?_, ?_⟩
    · exact fun _ _ _ hcall => by cases hcall
    · exact fun _ _ _ _ _ hcall => by cases hcall
    · exact fun _ _ hcall => by cases hcall
    · intro rowId hdelivered
      rcases hdelivered with ⟨e, he, _⟩
      cases he
    · exact fun e he => by cases he

/-- Ticks overlap, and saves fail, but a tick calls for a row only while it is stored as pending and
no other tick is at it, and each `SENT` is saved. Then a row that is `SENT` stays so, and a row that
has been delivered is never `FAILED`. -/
theorem delivered_not_forgotten {s : Store} {as bs : List (Action service)}
    (hC : Config.Meets Undisturbed (Config.initial service s) (as ++ bs)) :
    (∀ row ∈ ((Config.initial service s).run as).state.rows, row.status = .SENT →
      row ∈ ((Config.initial service s).run (as ++ bs)).state.rows) ∧
    ∀ row ∈ ((Config.initial service s).run (as ++ bs)).state.rows,
      Delivered ((Config.initial service s).run (as ++ bs)).toHistory row.id →
        row.status ≠ .FAILED := by
  refine ⟨fun row hrow hsent => ?_, fun row hrow hdelivered => ?_⟩
  · rcases Config.meets_append.1 hC with ⟨has, hbs⟩
    have hrun : Settled ((Config.initial service s).run (as ++ bs)).toHistory ∧
        row ∈ ((Config.initial service s).run (as ++ bs)).state.rows := by
      refine Config.run_induction_after (I := fun h => Settled h ∧ row ∈ h.state.rows)
        (fun _ => follows_handle) ?_ ?_ ⟨settled_run has, hrow⟩ hbs
      · exact fun h r _ hI =>
          ⟨⟨hI.1.pending, hI.1.alone, hI.1.undelivered, hI.1.delivered, hI.1.saved⟩, hI.2⟩
      · exact fun h i r op ch hattr hI _ hop hCe =>
          ⟨settled_perform hI.1 hattr hop hCe, sent_perform hI.1 hop hI.2 hsent⟩
    exact hrun.2
  · have hI := settled_run hC
    have hstored : ∃ row' ∈ ((Config.initial service s).run (as ++ bs)).state.rows,
        row'.id = row.id ∧ row'.status ≠ .FAILED := by
      rcases hI.delivered row.id hdelivered with ⟨row', hrow', hid, hsent⟩ | ⟨i, hi⟩
      · exact ⟨row', hrow', hid, by simp [hsent]⟩
      · rcases hI.pending i row.id true hi with ⟨row', hrow', hid, hpending⟩
        exact ⟨row', hrow', hid, by simp [hpending]⟩
    rcases hstored with ⟨row', hrow', hid, hstatus⟩
    rw [← Sql.Table.eq_of_id hrow' hrow hid]
    exact hstatus

/-! ## Two ticks at one row, and a `SENT` that is not saved -/

def works : Choice := { down with relayFails := false }

/-- The Audit service answers, the database does not. -/
def lost : Choice := { works with queryFails := true }

/-- Both ticks read the row; the first delivers it. -/
def delivery : List (Action service) :=
  [.start (), .start (), .resume 0 works, .resume 1 works, .resume 0 works, .resume 0 works]

/-- The call of the second tick fails. -/
def secondCall : List (Action service) := [.resume 1 down, .resume 1 works]

/-- The call of the second tick comes after the first has failed. -/
def retry : List (Action service) :=
  [.start (), .start (), .resume 0 works, .resume 1 works, .resume 0 down, .resume 0 works,
    .resume 1 works, .resume 1 works]

theorem retried_row_not_forgotten :
    login.row ∈ sample.rows ∧ ∀ row ∈ ((Config.initial service sample).run (retry ++ [])).state.rows,
      Delivered ((Config.initial service sample).run (retry ++ [])).toHistory row.id →
        row.status ≠ .FAILED :=
  ⟨by decide, (delivered_not_forgotten (by decide +kernel)).2⟩

def lastAttempt : Store := ⟨.ofRows AuditOutbox.id AuditOutbox.id [{ login.row with attempts := 4 }], []⟩

/-- The fifth call is answered, but `SENT` cannot be saved. -/
def lostDelivery : List (Action service) :=
  [.start (), .resume 0 works, .resume 0 works, .resume 0 lost, .resume 0 works]

theorem delivered_row_forgotten :
    { login.row with status := .SENT } ∈
        ((Config.initial service sample).run delivery).state.rows ∧
      { login.row with attempts := 1 } ∈
        ((Config.initial service sample).run (delivery ++ secondCall)).state.rows ∧
      { login.row with attempts := 5, status := .FAILED } ∈
        ((Config.initial service lastAttempt).run lostDelivery).state.rows ∧
      Delivered ((Config.initial service lastAttempt).run lostDelivery).toHistory login.id := by
  refine ⟨?_, ?_, ?_, ?_⟩
  · decide +kernel
  · decide +kernel
  · decide +kernel
  · decide +kernel

end Outbox
end IdentityBillpay
