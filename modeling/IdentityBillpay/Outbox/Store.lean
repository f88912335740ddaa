import IdentityBillpay.Async.Program
import IdentityBillpay.Keycloak.Realm

/-!
# Store — the outbox of audit events, and what the Audit service has been sent

* `AuditOutbox`, `NewOutbox` — the rows, and what other parts of the service write;
* `Relay` — one call to the Audit service, remembered;
* `Op`, `backend` — repository calls and the call to the Audit service; rows arrive in between;
* `findPending_ok`, `perform_relay`, `save_ok` — what each operation does.
-/

namespace IdentityBillpay
namespace Outbox

open Async Keycloak
open Sql (commit commit_ok commit_error)

inductive OutboxStatus
  | PENDING
  | SENT
  | FAILED
  deriving DecidableEq

/-- The payload is given by its JSON text. -/
structure AuditOutbox where
  id : String
  eventType : String
  payload : String
  status : OutboxStatus
  attempts : Nat
  deriving DecidableEq

structure NewOutbox where
  id : String
  eventType : String
  payload : String
  deriving DecidableEq

/-- The columns `status` and `attempts` have defaults. -/
def NewOutbox.row (new : NewOutbox) : AuditOutbox :=
  ⟨new.id, new.eventType, new.payload, .PENDING, 0⟩

/-- A call to the Audit service: for which row, with what, and whether it was answered. -/
structure Relay where
  rowId : String
  eventType : String
  payload : String
  delivered : Bool
  deriving DecidableEq

/-- The table, and all calls to the Audit service so far. -/
structure Store where
  rows : Sql.Table AuditOutbox.id AuditOutbox.id
  relays : List Relay

/-- What the job can await. The id that `relay` carries is not sent; it tells the calls apart. -/
inductive Op
  | findPending
  | relay (rowId eventType payload : String)
  | save (entity : AuditOutbox)
  deriving DecidableEq

abbrev Op.Res : Op → Type
  | .findPending => List AuditOutbox
  | _ => Unit

instance : (op : Op) → DecidableEq op.Res
  | .findPending => inferInstanceAs (DecidableEq (List AuditOutbox))
  | .relay _ _ _ | .save _ => inferInstanceAs (DecidableEq Unit)

abbrev sig : Signature := ⟨Op, Op.Res⟩

abbrev Prog (α : Type) := Program sig HttpError α

abbrev Own := List (Awaited sig HttpError)

/-- `await` of one operation. -/
abbrev call (op : Op) : Prog op.Res := @Program.call sig HttpError op

/-- What the environment decides about one operation: the rows that have arrived just before it,
whether the database fails, whether the Audit service does, and with which message. -/
structure Choice where
  arrivals : List NewOutbox
  queryFails : Bool
  relayFails : Bool
  message : String

/-! ## Performing an operation -/

def enqueue (s : Store) (new : NewOutbox) : Store :=
  { s with rows := (s.rows.insert? new.row).getD s.rows }

def arrive (s : Store) (arrivals : List NewOutbox) : Store :=
  arrivals.foldl enqueue s

def perform (op : Op) (ch : Choice) (s : Store) : Except HttpError op.Res × Store :=
  let s := arrive s ch.arrivals
  match op with
  | .findPending =>
      commit ch.queryFails (.queryFailed ch.message) s
        (some (s.rows.find fun row => row.status == .PENDING, s))
  | .relay rowId eventType payload =>
      -- The call has gone out, whatever its answer.
      let s' := { s with relays := s.relays ++ [⟨rowId, eventType, payload, !ch.relayFails⟩] }
      if ch.relayFails then (.error (.httpFailed ch.message), s') else (.ok (), s')
  | .save entity =>
      commit ch.queryFails (.queryFailed ch.message) s
        ((s.rows.save? entity).map fun t => ((), { s with rows := t }))

abbrev backend : Backend sig HttpError := ⟨Store, Choice, perform⟩

/-! ## What each operation does -/

section Lemmas

variable {s s' : Store} {ch : Choice}

theorem enqueue_relays (s : Store) (new : NewOutbox) : (enqueue s new).relays = s.relays := rfl

@[simp] theorem arrive_relays (s : Store) (arrivals : List NewOutbox) :
    (arrive s arrivals).relays = s.relays := by
  induction arrivals generalizing s with
  | nil => rfl
  | cons new arrivals ih => exact (ih (enqueue s new)).trans (enqueue_relays s new)

/-- A row that arrives takes an id that is not in use. -/
theorem mem_enqueue {new : NewOutbox} {row : AuditOutbox} : row ∈ (enqueue s new).rows ↔
    row ∈ s.rows ∨ (row = new.row ∧ ∀ r ∈ s.rows, r.id ≠ new.id) := by
  unfold enqueue
  cases hinsert : s.rows.insert? new.row with
  | some t =>
      have hfree : ∀ r ∈ s.rows, r.id ≠ new.id := fun r hr =>
        (Sql.Table.insert?_fresh hinsert hr).1
      rw [Option.getD_some, Sql.Table.mem_insert? hinsert]
      exact or_congr_right (and_iff_left hfree).symm
  | none =>
      rw [Option.getD_none]
      refine (or_iff_left fun h => ?_).symm
      rcases Sql.Table.exists_insert? (r := new.row) h.2 h.2 with ⟨t, ht⟩
      rw [hinsert] at ht
      cases ht

/-- The rows after some have arrived: those of before, and new ones under new ids. -/
theorem mem_arrive {arrivals : List NewOutbox} {row : AuditOutbox}
    (h : row ∈ (arrive s arrivals).rows) :
    row ∈ s.rows ∨ ∃ new ∈ arrivals, row = new.row ∧ ∀ r ∈ s.rows, r.id ≠ new.id := by
  induction arrivals generalizing s with
  | nil => exact .inl h
  | cons first arrivals ih =>
      rcases ih h with hrow | ⟨new, hnew, hrow, hfree⟩
      · rcases mem_enqueue.1 hrow with hold | ⟨hrow, hfree⟩
        · exact .inl hold
        · exact .inr ⟨first, List.mem_cons_self, hrow, hfree⟩
      · refine .inr ⟨new, List.mem_cons_of_mem _ hnew, hrow, fun r hr => ?_⟩
        exact hfree r (mem_enqueue.2 (.inl hr))

theorem arrive_kept {arrivals : List NewOutbox} {row : AuditOutbox} (h : row ∈ s.rows) :
    row ∈ (arrive s arrivals).rows := by
  induction arrivals generalizing s with
  | nil => exact h
  | cons new arrivals ih => exact ih (mem_enqueue.2 (.inl h))

theorem findPending_state (ch : Choice) (s : Store) :
    (perform .findPending ch s).2 = arrive s ch.arrivals := by
  cases hfails : ch.queryFails with
  | true => simp [perform, commit, hfails]
  | false => simp [perform, commit, hfails]

theorem relay_state (rowId eventType payload : String) (ch : Choice) (s : Store) :
    (perform (.relay rowId eventType payload) ch s).2 =
      { arrive s ch.arrivals with
        relays := s.relays ++ [⟨rowId, eventType, payload, !ch.relayFails⟩] } := by
  cases hfails : ch.relayFails with
  | true => simp [perform, hfails]
  | false => simp [perform, hfails]

theorem relay_delivered {rowId eventType payload : String} :
    (perform (.relay rowId eventType payload) ch s).1.isOk = !ch.relayFails := by
  cases hfails : ch.relayFails with
  | true => simp [perform, hfails, Except.isOk, Except.toBool]
  | false => simp [perform, hfails, Except.isOk, Except.toBool]

theorem save_ok {entity : AuditOutbox} {u : Unit} (h : perform (.save entity) ch s = (.ok u, s')) :
    s'.relays = s.relays ∧ ∀ row, row ∈ s'.rows ↔
      row = entity ∨ (row ∈ (arrive s ch.arrivals).rows ∧ row.id ≠ entity.id) := by
  rcases Option.map_eq_some_iff.1 (commit_ok h) with ⟨t, ht, hdone⟩
  cases hdone
  exact ⟨arrive_relays s ch.arrivals, fun row => Sql.Table.mem_save? ht⟩

theorem save_error {entity : AuditOutbox} {e : HttpError}
    (h : perform (.save entity) ch s = (.error e, s')) : s' = arrive s ch.arrivals :=
  (commit_error h).2

/-- A save over a stored row is done, if the database does not fail. -/
theorem save_answers {entity row : AuditOutbox} (hrow : row ∈ s.rows) (hid : row.id = entity.id)
    (hfails : ch.queryFails = false) : ∃ s', perform (.save entity) ch s = (.ok (), s') := by
  have hkept : row ∈ (arrive s ch.arrivals).rows := arrive_kept hrow
  rcases Sql.Table.exists_save? hkept hid hid with ⟨t, ht⟩
  exact ⟨{ arrive s ch.arrivals with rows := t }, by simp [perform, commit, hfails, ht]⟩

end Lemmas

end Outbox
end IdentityBillpay
