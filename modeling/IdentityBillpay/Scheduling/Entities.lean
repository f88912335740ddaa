import IdentityBillpay.Bbps.Access
import IdentityBillpay.Js.Date
import IdentityBillpay.Js.Optional

/-!
# Entities — bill schedules, their executions, request bodies and errors

* `BillSchedule`, `BillScheduleExecution` — the tables' rows;
* `NewSchedule` — a schedule before its first save; `NewSchedule.row?` is what that save stores;
* `CreateBillScheduleDto` — the validated body of `create`;
* `ScheduleError` — what a request is rejected with.
-/

namespace IdentityBillpay
namespace Scheduling

open Bbps (Amount ServiceError)
open Js

/-- A point in time before or after 1970, in milliseconds. -/
abbrev TimeValue := Int

/-! ## Rows -/

inductive ScheduleStatus
  | ACTIVE
  | PAUSED
  | CANCELLED
  | EXPIRED
  | COMPLETED
  deriving DecidableEq

def ScheduleStatus.text : ScheduleStatus → String
  | .ACTIVE => "ACTIVE"
  | .PAUSED => "PAUSED"
  | .CANCELLED => "CANCELLED"
  | .EXPIRED => "EXPIRED"
  | .COMPLETED => "COMPLETED"

def TERMINAL_SCHEDULE_STATUSES : List ScheduleStatus :=
  [.CANCELLED, .EXPIRED, .COMPLETED]

inductive ScheduleType
  | ONE_TIME
  | RECURRING
  deriving DecidableEq

/-- A schedule in its table, and as a read returns it. -/
structure BillSchedule where
  id : String
  billerCode : String
  consumerNumber : String
  scheduleType : ScheduleType
  frequency : Option String
  nextRunAt : TimeValue
  maximumAmount : Amount
  active : Bool
  status : ScheduleStatus
  keycloakUserId : Option String
  deriving DecidableEq

structure BillScheduleExecution where
  id : String
  scheduleId : String
  billNumber : Option String
  billAmount : Option Amount
  maximumAmount : Option Amount
  idempotencyKey : Option String
  status : String
  attemptCount : Nat
  failureReason : Option String
  paymentId : Option String
  startedAt : Option Date
  completedAt : Option Date
  createdAt : Date
  deriving DecidableEq

/-- A schedule entity before its first save: no id yet, its amount a number, and its time invalid
if the body's text names none. -/
structure NewSchedule where
  billerCode : String
  consumerNumber : String
  scheduleType : ScheduleType
  frequency : Option String
  nextRunAt : Option TimeValue
  maximumAmount : JsNumber
  active : Bool
  status : ScheduleStatus
  keycloakUserId : String
  deriving DecidableEq

/-- A `DATETIME` column holds whole seconds. -/
def datetime (t : TimeValue) : TimeValue :=
  (t + 500) / 1000 * 1000

/-- The values of a new schedule fit their `VARCHAR` columns. -/
def NewSchedule.fits (new : NewSchedule) : Bool :=
  new.billerCode.length ≤ 255 && new.consumerNumber.length ≤ 255 && new.keycloakUserId.length ≤ 36

/-- The row of a new schedule under its generated id; none where a column refuses its value. -/
def NewSchedule.row? (new : NewSchedule) (id : String) : Option BillSchedule := do
  -- An invalid date is refused by the driver.
  let nextRunAt ← new.nextRunAt
  let maximumAmount ← Sql.Decimal.ofNumber new.maximumAmount
  if new.fits then
    some
      { id := id
        billerCode := new.billerCode
        consumerNumber := new.consumerNumber
        scheduleType := new.scheduleType
        frequency := new.frequency
        nextRunAt := datetime nextRunAt
        maximumAmount := maximumAmount
        active := new.active
        status := new.status
        keycloakUserId := some new.keycloakUserId }
  else none

/-! ## Requests -/

/-- The only value of `frequency` that the validator lets pass. -/
inductive Frequency
  | MONTHLY
  deriving DecidableEq

def Frequency.text : Frequency → String
  | .MONTHLY => "MONTHLY"

structure CreateBillScheduleDto where
  billerCode : String
  consumerNumber : String
  scheduleType : ScheduleType
  frequency : Optional Frequency
  nextRunAt : String
  maximumAmount : JsNumber
  deriving DecidableEq

inductive ScheduleError
  /-- An error with a code, or one of the shared checks. -/
  | service (e : ServiceError)
  /-- A bad request that carries a message only. -/
  | invalid (message : String)
  deriving DecidableEq

/-! ## Lemmas -/

/-- The row of a new schedule holds the values it was created with. -/
structure NewSchedule.Stores (new : NewSchedule) (row : BillSchedule) : Prop where
  billerCode : row.billerCode = new.billerCode
  consumerNumber : row.consumerNumber = new.consumerNumber
  scheduleType : row.scheduleType = new.scheduleType
  frequency : row.frequency = new.frequency
  nextRunAt : new.nextRunAt.map datetime = some row.nextRunAt
  maximumAmount : Sql.Decimal.ofNumber new.maximumAmount = some row.maximumAmount
  active : row.active = new.active
  status : row.status = new.status
  keycloakUserId : row.keycloakUserId = some new.keycloakUserId

theorem NewSchedule.row?_some {new : NewSchedule} {id : String} {row : BillSchedule}
    (h : new.row? id = some row) : row.id = id ∧ new.Stores row := by
  rcases Option.bind_eq_some_iff.1 h with ⟨nextRunAt, hnext, h⟩
  rcases Option.bind_eq_some_iff.1 h with ⟨maximumAmount, hamount, h⟩
  split at h
  · cases h
    exact ⟨rfl, rfl, rfl, rfl, rfl, by simp [hnext], hamount, rfl, rfl, rfl⟩
  · cases h

end Scheduling
end IdentityBillpay
