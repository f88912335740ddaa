import IdentityBillpay.Async.Protocol
import IdentityBillpay.Scheduling.Store

/-!
# BillScheduleService — creating, reading and changing schedules

The programs of `bill-schedule.service.ts`, one definition for each method. `pauseSchedule`,
`resumeSchedule` and `cancelSchedule` have one shape: read the caller's schedule, check its status,
set `status` and `active`, and save the whole row. `changeSchedule` is that shape, and `Change` says
what each of the three checks and sets.

* `Request`, `service` — every method as a request, answered by its program;
* `Awaits`, `follows_program` — the order of awaits of each request.
-/

namespace IdentityBillpay
namespace Scheduling

open Async Async.Program Js
open Bbps (Actor ServiceError requireActorSub truthy)

def scheduleNotFound : ServiceError :=
  .notFound "SCHEDULE_NOT_FOUND" "Bill schedule not found"

def assertScheduleOwnedByActor (schedule : BillSchedule) (actor : Actor) :
    Except ServiceError Unit :=
  match requireActorSub actor with
  | .error e => .error e
  | .ok sub =>
      if !truthy schedule.keycloakUserId || schedule.keycloakUserId != some sub then
        .error scheduleNotFound
      else .ok ()

/-- A check that all services share. -/
def shared {α : Type} (check : Except ServiceError α) : Prog α :=
  settled (check.mapError .service)

def getOwnedSchedule (id : String) (actor : Actor) : Prog BillSchedule := do
  let schedule : Option BillSchedule ← call (.findSchedule id)
  match schedule with
  | none => throw (.service scheduleNotFound)
  | some schedule => do
      shared (assertScheduleOwnedByActor schedule actor)
      return schedule

/-! ## Reading -/

def findAll (actor : Actor) : Prog (List BillSchedule) := do
  let sub ← shared (requireActorSub actor)
  call (.findSchedules sub)

def findOne (id : String) (actor : Actor) : Prog BillSchedule :=
  getOwnedSchedule id actor

def getScheduleExecutions (id : String) (actor : Actor) : Prog (List BillScheduleExecution) := do
  let _ ← getOwnedSchedule id actor
  call (.findExecutions id)

def getUpcomingSchedules (actor : Actor) : Prog (List BillSchedule) := do
  let sub ← shared (requireActorSub actor)
  let now : Date ← call .now
  call (.findUpcoming sub now)

/-! ## Creating -/

def assertFrequency (dto : CreateBillScheduleDto) : Except ScheduleError Unit :=
  if dto.scheduleType = .RECURRING ∧ dto.frequency.toOption = none then
    .error (.invalid "Frequency is required for recurring schedule")
  else if dto.scheduleType = .ONE_TIME ∧ dto.frequency.toOption ≠ none then
    .error (.invalid "Frequency should not be provided for one-time schedule")
  else .ok ()

/-- The entity `create` saves. `parseDate` is `new Date(text)`, with none for an invalid date. -/
def CreateBillScheduleDto.newSchedule (parseDate : String → Option TimeValue)
    (dto : CreateBillScheduleDto) (keycloakUserId : String) : NewSchedule where
  billerCode := dto.billerCode
  consumerNumber := dto.consumerNumber
  scheduleType := dto.scheduleType
  frequency := dto.frequency.toOption.map Frequency.text
  nextRunAt := parseDate dto.nextRunAt
  maximumAmount := dto.maximumAmount
  active := true
  status := .ACTIVE
  keycloakUserId := keycloakUserId

def create (parseDate : String → Option TimeValue) (dto : CreateBillScheduleDto) (actor : Actor) :
    Prog BillSchedule := do
  let keycloakUserId ← shared (requireActorSub actor)
  settled (assertFrequency dto)
  call (.insertSchedule (dto.newSchedule parseDate keycloakUserId))

/-! ## Changing -/

/-- A change of a schedule's status. -/
inductive Change
  | pause
  | resume
  | cancel
  deriving DecidableEq

def badRequest (code message : String) : ScheduleError :=
  .service (.badRequest code message)

/-- The checks of each method, in its order. -/
def Change.check (change : Change) (status : ScheduleStatus) : Except ScheduleError Unit :=
  match change with
  | .pause =>
      if status = .PAUSED then
        .error (badRequest "SCHEDULE_ALREADY_PAUSED" "Schedule is already paused")
      else if status ≠ .ACTIVE then
        .error (badRequest "SCHEDULE_CANNOT_PAUSE"
          ("Cannot pause a schedule in " ++ status.text ++ " state"))
      else .ok ()
  | .resume =>
      if status = .ACTIVE then
        .error (badRequest "SCHEDULE_ALREADY_ACTIVE" "Schedule is already active")
      else if status ≠ .PAUSED then
        .error (badRequest "SCHEDULE_CANNOT_RESUME"
          ("Cannot resume a schedule in " ++ status.text ++ " state"))
      else .ok ()
  | .cancel =>
      if status = .CANCELLED then
        .error (badRequest "SCHEDULE_ALREADY_CANCELLED" "Schedule is already cancelled")
      else if status ∈ TERMINAL_SCHEDULE_STATUSES then
        .error (badRequest "SCHEDULE_CANNOT_CANCEL"
          ("Cannot cancel a schedule in " ++ status.text ++ " state"))
      -- No status is left for this check.
      else if status ≠ .ACTIVE ∧ status ≠ .PAUSED then
        .error (badRequest "SCHEDULE_CANNOT_CANCEL"
          ("Cannot cancel a schedule in " ++ status.text ++ " state"))
      else .ok ()

/-- `schedule.status = …; schedule.active = …`. -/
def Change.apply (change : Change) (schedule : BillSchedule) : BillSchedule :=
  match change with
  | .pause => { schedule with status := .PAUSED, active := false }
  | .resume => { schedule with status := .ACTIVE, active := true }
  | .cancel => { schedule with status := .CANCELLED, active := false }

def changeSchedule (change : Change) (id : String) (actor : Actor) : Prog BillSchedule := do
  let schedule ← getOwnedSchedule id actor
  settled (change.check schedule.status)
  call (.saveSchedule (change.apply schedule))

def pauseSchedule (id : String) (actor : Actor) : Prog BillSchedule :=
  changeSchedule .pause id actor

def resumeSchedule (id : String) (actor : Actor) : Prog BillSchedule :=
  changeSchedule .resume id actor

def cancelSchedule (id : String) (actor : Actor) : Prog BillSchedule :=
  changeSchedule .cancel id actor

/-! ## Requests -/

inductive Request
  | create (dto : CreateBillScheduleDto) (actor : Actor)
  | pauseSchedule (id : String) (actor : Actor)
  | resumeSchedule (id : String) (actor : Actor)
  | cancelSchedule (id : String) (actor : Actor)
  | findAll (actor : Actor)
  | findOne (id : String) (actor : Actor)
  | getScheduleExecutions (id : String) (actor : Actor)
  | getUpcomingSchedules (actor : Actor)
  deriving DecidableEq

inductive Reply
  | schedule (schedule : BillSchedule)
  | schedules (schedules : List BillSchedule)
  | executions (executions : List BillScheduleExecution)
  deriving DecidableEq

def Request.actor : Request → Actor
  | .create _ actor | .findAll actor | .getUpcomingSchedules actor => actor
  | .pauseSchedule _ actor | .resumeSchedule _ actor | .cancelSchedule _ actor => actor
  | .findOne _ actor | .getScheduleExecutions _ actor => actor

/-- The change a request asks for, and of which schedule. -/
def Request.change? : Request → Option (Change × String)
  | .pauseSchedule id _ => some (.pause, id)
  | .resumeSchedule id _ => some (.resume, id)
  | .cancelSchedule id _ => some (.cancel, id)
  | _ => none

def program (parseDate : String → Option TimeValue) : Request → Prog Reply
  | .create dto actor => do return .schedule (← create parseDate dto actor)
  | .pauseSchedule id actor => do return .schedule (← pauseSchedule id actor)
  | .resumeSchedule id actor => do return .schedule (← resumeSchedule id actor)
  | .cancelSchedule id actor => do return .schedule (← cancelSchedule id actor)
  | .findAll actor => do return .schedules (← findAll actor)
  | .findOne id actor => do return .schedule (← findOne id actor)
  | .getScheduleExecutions id actor => do return .executions (← getScheduleExecutions id actor)
  | .getUpcomingSchedules actor => do return .schedules (← getUpcomingSchedules actor)

abbrev service (parseDate : String → Option TimeValue) : Service sig ScheduleError :=
  { backend with
    Request := Request
    Reply := Reply
    program := program parseDate }

variable {parseDate : String → Option TimeValue}

@[simp] theorem service_perform (op : Op) (ch : Choice) (s : Store) :
    (service parseDate).perform op ch s = perform op ch s := rfl

/-! ## The order of awaits -/

/-- What is read or inserted may be awaited; a row is saved by a change that has read it as its
actor's own, in a status that it may change. -/
inductive Awaits (parseDate : String → Option TimeValue) (r : Request) (own : Own) : Op → Prop
  | read {op : Op} (h : op.isWrite = false) : Awaits parseDate r own op
  | insert {dto : CreateBillScheduleDto} {actor : Actor} {sub : String}
      (hr : r = .create dto actor) (hsub : requireActorSub actor = .ok sub)
      (hfrequency : assertFrequency dto = .ok ()) :
      Awaits parseDate r own (.insertSchedule (dto.newSchedule parseDate sub))
  | save {change : Change} {id : String} {schedule : BillSchedule}
      (hr : r.change? = some (change, id))
      (hown : own = [⟨.findSchedule id, .ok (some schedule)⟩])
      (howner : assertScheduleOwnedByActor schedule r.actor = .ok ())
      (hcheck : change.check schedule.status = .ok ()) :
      Awaits parseDate r own (.saveSchedule (change.apply schedule))

section Follows

variable {α : Type} {r : Request} {P : Own → Op → Prop}

theorem mapError_ok {α : Type} {check : Except ServiceError α} {a : α}
    (h : check.mapError ScheduleError.service = .ok a) : check = .ok a := by
  cases check with
  | error e => cases h
  | ok b =>
      cases h
      rfl

theorem follows_getOwnedSchedule {id : String} {actor : Actor} {f : BillSchedule → Prog α}
    (hread : P [] (.findSchedule id))
    (hfound : ∀ schedule, assertScheduleOwnedByActor schedule actor = .ok () →
      Follows P (fun _ _ => True) [⟨.findSchedule id, .ok (some schedule)⟩] (f schedule)) :
    Follows P (fun _ _ => True) [] (getOwnedSchedule id actor >>= f) := by
  unfold getOwnedSchedule
  rw [bind_assoc]
  refine follows_call_bind hread (fun _ => trivial) ?_
  intro found
  cases (found : Option BillSchedule) with
  | none => trivial
  | some schedule =>
      dsimp only
      rw [bind_assoc]
      refine follows_settled_bind (fun _ _ => trivial) ?_
      intro _ howner
      exact hfound schedule (mapError_ok howner)

theorem follows_last {op : Op} {own : Own} {f : op.Res → Prog α} (hop : P own op)
    (hf : ∀ a own, Follows P (fun _ _ => True) own (f a)) :
    Follows P (fun _ _ => True) own (call op >>= f) :=
  follows_call_bind hop (fun _ => trivial) fun a => hf a _

theorem follows_change {change : Change} {id : String} {actor : Actor}
    (hr : r.change? = some (change, id)) (hactor : r.actor = actor) :
    Follows (Awaits parseDate r) (fun _ _ => True) []
      (changeSchedule change id actor >>= fun schedule => pure (Reply.schedule schedule)) := by
  unfold changeSchedule
  rw [bind_assoc]
  refine follows_getOwnedSchedule (.read rfl) ?_
  intro schedule howner
  rw [bind_assoc]
  refine follows_settled_bind (fun _ _ => trivial) ?_
  intro _ hcheck
  subst hactor
  exact follows_last (.save hr rfl howner hcheck) fun _ _ => trivial

/-- Every request keeps to its order of awaits. -/
theorem follows_program (parseDate : String → Option TimeValue) (r : Request) :
    Follows (Awaits parseDate r) (fun _ _ => True) [] ((service parseDate).program r) := by
  cases r with
  | create dto actor =>
      change Follows _ _ _ (create parseDate dto actor >>= fun s => pure (Reply.schedule s))
      unfold create
      rw [bind_assoc]
      refine follows_settled_bind (fun _ _ => trivial) ?_
      intro sub hsub
      rw [bind_assoc]
      refine follows_settled_bind (fun _ _ => trivial) ?_
      intro _ hfrequency
      exact follows_last (.insert rfl (mapError_ok hsub) hfrequency) fun _ _ => trivial
  | pauseSchedule id actor => exact follows_change rfl rfl
  | resumeSchedule id actor => exact follows_change rfl rfl
  | cancelSchedule id actor => exact follows_change rfl rfl
  | findAll actor =>
      change Follows _ _ _ (findAll actor >>= fun s => pure (Reply.schedules s))
      unfold findAll
      rw [bind_assoc]
      refine follows_settled_bind (fun _ _ => trivial) fun _ _ => ?_
      exact follows_last (.read rfl) fun _ _ => trivial
  | findOne id actor => exact follows_getOwnedSchedule (.read rfl) fun _ _ => trivial
  | getScheduleExecutions id actor =>
      change Follows _ _ _ (getScheduleExecutions id actor >>= fun s => pure (Reply.executions s))
      unfold getScheduleExecutions
      rw [bind_assoc]
      refine follows_getOwnedSchedule (.read rfl) fun _ _ => ?_
      exact follows_last (.read rfl) fun _ _ => trivial
  | getUpcomingSchedules actor =>
      change Follows _ _ _ (getUpcomingSchedules actor >>= fun s => pure (Reply.schedules s))
      unfold getUpcomingSchedules
      rw [bind_assoc]
      refine follows_settled_bind (fun _ _ => trivial) fun _ _ => ?_
      rw [bind_assoc]
      refine follows_last (.read rfl) fun _ own => ?_
      exact follows_last (.read rfl) fun _ _ => trivial

end Follows

end Scheduling
end IdentityBillpay
