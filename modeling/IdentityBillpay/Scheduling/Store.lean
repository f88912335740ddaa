import IdentityBillpay.Async.Program
import IdentityBillpay.Scheduling.Entities

/-!
# Store — the tables of the bill schedules

* `Store` — schedules and their executions, and the current time;
* `Op`, `backend` — the repository calls and `new Date()`, each one atomic;
* `insertSchedule_ok`, `saveSchedule_ok`, `perform_schedules_eq` — what each operation does.
-/

namespace IdentityBillpay
namespace Scheduling

open Async Js
open Bbps (ServiceError)

/-- Rows are unique by their id alone. -/
structure Store where
  schedules : Sql.Table BillSchedule.id BillSchedule.id
  executions : Sql.Table BillScheduleExecution.id BillScheduleExecution.id
  clock : Date

/-- What a program of the service can await. `save` of an entity without an id is an `insert`. -/
inductive Op
  | findSchedule (id : String)
  | findSchedules (keycloakUserId : String)
  | findUpcoming (keycloakUserId : String) (now : Date)
  | findExecutions (scheduleId : String)
  | insertSchedule (schedule : NewSchedule)
  | saveSchedule (schedule : BillSchedule)
  | now
  deriving DecidableEq

abbrev Op.Res : Op → Type
  | .findSchedule _ => Option BillSchedule
  | .findSchedules _ => List BillSchedule
  | .findUpcoming _ _ => List BillSchedule
  | .findExecutions _ => List BillScheduleExecution
  | .insertSchedule _ => BillSchedule
  | .saveSchedule _ => BillSchedule
  | .now => Date

instance : (op : Op) → DecidableEq op.Res
  | .findSchedule _ => inferInstanceAs (DecidableEq (Option BillSchedule))
  | .findSchedules _ => inferInstanceAs (DecidableEq (List BillSchedule))
  | .findUpcoming _ _ => inferInstanceAs (DecidableEq (List BillSchedule))
  | .findExecutions _ => inferInstanceAs (DecidableEq (List BillScheduleExecution))
  | .insertSchedule _ | .saveSchedule _ => inferInstanceAs (DecidableEq BillSchedule)
  | .now => inferInstanceAs (DecidableEq Nat)

abbrev sig : Signature := ⟨Op, Op.Res⟩

abbrev Prog (α : Type) := Program sig ScheduleError α

abbrev Own := List (Awaited sig ScheduleError)

/-- `await` of one operation. -/
abbrev call (op : Op) : Prog op.Res := @Program.call sig ScheduleError op

/-- What the environment decides about one operation: which matching row is found, whether a write
fails, the id generated for an insert, and how much time has passed. -/
structure Choice where
  pick : Nat
  fails : Bool
  freshId : String
  elapsed : Nat

/-- A write to the database was rejected. -/
def queryFailed : ScheduleError :=
  .service .queryFailed

/-- The saved entity comes back with its id; here as the row it is stored as. -/
def insertSchedule? (s : Store) (new : NewSchedule) (id : String) :
    Option (BillSchedule × Store) := do
  let row ← new.row? id
  let t ← s.schedules.insert? row
  return (row, { s with schedules := t })

def saveSchedule? (s : Store) (schedule : BillSchedule) : Option (BillSchedule × Store) := do
  let t ← s.schedules.save? schedule
  return (schedule, { s with schedules := t })

/-- `order: { createdAt: 'DESC' }`. -/
def newestFirst (rows : List BillScheduleExecution) : List BillScheduleExecution :=
  rows.mergeSort fun r r' => decide (r'.createdAt ≤ r.createdAt)

/-- `order: { nextRunAt: 'ASC' }`. -/
def soonestFirst (rows : List BillSchedule) : List BillSchedule :=
  rows.mergeSort fun r r' => decide (r.nextRunAt ≤ r'.nextRunAt)

/-- The `where` clause of `getUpcomingSchedules`. -/
def BillSchedule.upcoming (schedule : BillSchedule) (keycloakUserId : String) (now : Date) : Bool :=
  schedule.keycloakUserId == some keycloakUserId && schedule.status == .ACTIVE &&
    decide ((now : TimeValue) ≤ schedule.nextRunAt)

def perform (op : Op) (ch : Choice) (s : Store) : Except ScheduleError op.Res × Store :=
  match op with
  | .findSchedule id => (.ok (s.schedules.findOne (fun r => r.id == id) ch.pick), s)
  | .findSchedules sub => (.ok (s.schedules.find fun r => r.keycloakUserId == some sub), s)
  | .findUpcoming sub now =>
      (.ok (soonestFirst (s.schedules.find fun r => r.upcoming sub now)), s)
  | .findExecutions id => (.ok (newestFirst (s.executions.find fun r => r.scheduleId == id)), s)
  | .insertSchedule new => Sql.commit ch.fails queryFailed s (insertSchedule? s new ch.freshId)
  | .saveSchedule schedule => Sql.commit ch.fails queryFailed s (saveSchedule? s schedule)
  | .now => (.ok (s.clock + ch.elapsed), { s with clock := s.clock + ch.elapsed })

abbrev backend : Backend sig ScheduleError := ⟨Store, Choice, perform⟩

/-! ## What an operation does -/

def Op.isWrite : Op → Bool
  | .insertSchedule _ | .saveSchedule _ => true
  | _ => false

theorem findSchedule_some {id : String} {ch : Choice} {s : Store} {row : BillSchedule}
    (h : (perform (.findSchedule id) ch s).1 = .ok (some row)) : row ∈ s.schedules ∧ row.id = id := by
  have hfound : s.schedules.findOne (fun r => r.id == id) ch.pick = some row := Except.ok.inj h
  simpa using Sql.Table.findOne_some hfound

theorem insertSchedule_ok {new : NewSchedule} {ch : Choice} {s s' : Store} {row : BillSchedule}
    (h : perform (.insertSchedule new) ch s = (.ok row, s')) :
    row.id = ch.freshId ∧ new.Stores row ∧ (∀ r ∈ s.schedules, r.id ≠ row.id) ∧
      ∀ r, r ∈ s'.schedules ↔ r ∈ s.schedules ∨ r = row := by
  rcases Option.bind_eq_some_iff.1 (Sql.commit_ok h) with ⟨row', hrow, hs'⟩
  rcases Option.bind_eq_some_iff.1 hs' with ⟨t, ht, hdone⟩
  cases hdone
  rcases NewSchedule.row?_some hrow with ⟨hid, hstores⟩
  exact ⟨hid, hstores, fun r hr => (Sql.Table.insert?_fresh ht hr).1,
    fun r => Sql.Table.mem_insert? ht⟩

theorem saveSchedule_ok {schedule row : BillSchedule} {ch : Choice} {s s' : Store}
    (h : perform (.saveSchedule schedule) ch s = (.ok row, s')) :
    row = schedule ∧
      ∀ r, r ∈ s'.schedules ↔ r = schedule ∨ (r ∈ s.schedules ∧ r.id ≠ schedule.id) := by
  rcases Option.bind_eq_some_iff.1 (Sql.commit_ok h) with ⟨t, ht, hdone⟩
  cases hdone
  exact ⟨rfl, fun r => Sql.Table.mem_save? ht⟩

/-- Only writes fail, and a write that fails changes nothing. -/
theorem perform_error {op : Op} {ch : Choice} {s s' : Store} {e : ScheduleError}
    (h : perform op ch s = (.error e, s')) : op.isWrite = true ∧ s' = s := by
  cases op with
  | insertSchedule new => exact ⟨rfl, (Sql.commit_error h).2⟩
  | saveSchedule schedule => exact ⟨rfl, (Sql.commit_error h).2⟩
  | _ => cases h

theorem perform_schedules_eq {op : Op} (h : op.isWrite = false) (ch : Choice) (s : Store) :
    (perform op ch s).2.schedules = s.schedules := by
  cases op with
  | insertSchedule new => cases h
  | saveSchedule schedule => cases h
  | _ => rfl

end Scheduling
end IdentityBillpay
