import IdentityBillpay.Bbps.OwnPayments
import IdentityBillpay.Bbps.Service
import IdentityBillpay.Scheduling.LifeCycle
import IdentityBillpay.Scheduling.OwnSchedules

/-!
# Privacy — what a customer can learn of other customers' payments and schedules

One customer's requests, one after the other, over the payment tables and the schedule tables. The
requests run twice: in two stores that agree on what belongs to the customer, under the same
decisions of the environment. Both runs are answered alike, so no answer depends on a foreign row.

* `Visit` — a request of a customer to the payments or to the schedules;
* `Agree` — two stores that hold the same of one customer;
* `others_stay_hidden` — both runs give the same answers.
-/

namespace IdentityBillpay
namespace Scheduling

open Async Async.Program
open Bbps (Actor BillPayment ServiceError canViewAllBillPayments requireActorSub)

/-! ## Visits -/

/-- The tables behind the payments and those behind the schedules. -/
structure Tables where
  billing : Bbps.Store
  scheduling : Store

/-- One request, with what the environment decides about each of its operations. -/
inductive Visit
  | findPayments (actor : Actor) (choices : Nat → Bbps.Choice)
  | findPayment (id : String) (actor : Actor) (choices : Nat → Bbps.Choice)
  | retryPayment (id : String) (actor : Actor) (choices : Nat → Bbps.Choice)
  | schedules (r : Request) (choices : Nat → Choice)

inductive Answer
  | payments (r : Except ServiceError (List BillPayment))
  | payment (r : Except ServiceError BillPayment)
  | schedules (r : Except ScheduleError Reply)

def Visit.actor : Visit → Actor
  | .findPayments actor _ | .findPayment _ actor _ | .retryPayment _ actor _ => actor
  | .schedules r _ => r.actor

variable (parseDate : String → Option TimeValue)

/-- The answer to a visit, and what it leaves. -/
def Visit.answer (s : Tables) : Visit → Answer × Tables
  | .findPayments actor choices =>
      let o := (Bbps.findAll actor).exec Bbps.backend choices s.billing
      (.payments o.result, { s with billing := o.state })
  | .findPayment id actor choices =>
      let o := (Bbps.findOne id actor).exec Bbps.backend choices s.billing
      (.payment o.result, { s with billing := o.state })
  | .retryPayment id actor choices =>
      let o := (Bbps.retry id actor).exec Bbps.backend choices s.billing
      (.payment o.result, { s with billing := o.state })
  | .schedules r choices =>
      let o := (program parseDate r).exec backend choices s.scheduling
      (.schedules o.result, { s with scheduling := o.state })

/-- What the visits are answered with, one after the other. -/
def answers : Tables → List Visit → List Answer
  | _, [] => []
  | s, v :: visits => (v.answer parseDate s).1 :: answers (v.answer parseDate s).2 visits

/-! ## Agreement -/

structure Agree (sub : String) (s t : Tables) : Prop where
  payments : t.billing.payments.find (BillPayment.isOf sub) =
    s.billing.payments.find (BillPayment.isOf sub)
  schedules : t.scheduling.schedules.find (BillSchedule.isOf sub) =
    s.scheduling.schedules.find (BillSchedule.isOf sub)
  executions : ∀ r ∈ s.scheduling.schedules, r.isOf sub = true →
    t.scheduling.executions.find (fun e => e.scheduleId == r.id) =
      s.scheduling.executions.find fun e => e.scheduleId == r.id
  clock : t.scheduling.clock = s.scheduling.clock

/-- The id of a schedule, or of the schedule that an execution belongs to. -/
def Store.Mentions (s : Store) (id : String) : Prop :=
  (∃ r ∈ s.schedules, r.id = id) ∨ ∃ e ∈ s.executions, e.scheduleId = id

instance (s : Store) (id : String) : Decidable (s.Mentions id) :=
  inferInstanceAs (Decidable (_ ∨ _))

/-- The ids that a visit generates are among `fresh`. -/
def Visit.Generates (fresh : String → Prop) : Visit → Prop
  | .schedules _ choices => ∀ n, fresh (choices n).freshId
  | _ => True

/-- No row of either store uses the id. -/
def NewId (s t : Tables) (id : String) : Prop :=
  ¬ s.scheduling.Mentions id ∧ ¬ t.scheduling.Mentions id

/-- The database does not fail when a retry writes a bill: its first three operations are on the
payment and BBPS, a write after them is on a bill. -/
def Visit.BillsSaved : Visit → Prop
  | .retryPayment _ _ choices => ∀ n, 3 ≤ n → (choices n).fails = false
  | _ => True

section Runs

variable {parseDate : String → Option TimeValue} {sub : String} {fresh : String → Prop}
  {actor : Actor} {s t : Tables}

/-- Two stores on the way. -/
def AgreeOn (sub : String) (fresh : String → Prop) (s t : Tables) : Prop :=
  Bbps.SamePayments sub s.billing t.billing ∧
    SameSchedules sub fresh s.scheduling t.scheduling

theorem Agree.start (h : Agree sub s t) : AgreeOn sub (NewId s t) s t := by
  -- No execution of either store belongs to a new id.
  refine ⟨h.payments, h.schedules, ?_, ?_, h.clock⟩
  · intro id hid
    rcases hid with hfresh | ⟨r, hr, hown, rfl⟩
    · have hnone : ∀ {m : Store}, ¬ m.Mentions id →
          m.executions.find (fun e => e.scheduleId == id) = [] := by
        intro m hm
        refine List.filter_eq_nil_iff.2 fun e he hid => ?_
        exact hm (.inr ⟨e, he, beq_iff_eq.1 hid⟩)
      rw [hnone hfresh.1, hnone hfresh.2]
    · exact h.executions r hr hown
  · intro r hr hfresh
    rcases hr with hr | hr
    · exact absurd (.inl ⟨r, hr, rfl⟩) hfresh.1
    · exact absurd (.inl ⟨r, hr, rfl⟩) hfresh.2

/-- One visit is answered alike and keeps the agreement. -/
theorem answer_alike {v : Visit} (hactor : v.actor = actor) (hsub : requireActorSub actor = .ok sub)
    (hrole : canViewAllBillPayments actor = false) (hfresh : v.Generates fresh)
    (hbills : v.BillsSaved) (hR : AgreeOn sub fresh s t) :
    (v.answer parseDate t).1 = (v.answer parseDate s).1 ∧
      AgreeOn sub fresh (v.answer parseDate s).2 (v.answer parseDate t).2 := by
  subst hactor
  cases v with
  | findPayments actor choices =>
      have halike : Alike Bbps.backend (fun _ _ => True) (Bbps.SamePayments sub) 0 s.billing
          t.billing (Bbps.findAll actor) (Bbps.findAll actor) :=
        Bbps.alike_findAll hsub hrole hR.1
      have hrun := halike.exec choices fun _ => trivial
      exact ⟨congrArg Answer.payments hrun.1, hrun.2, hR.2⟩
  | findPayment id actor choices =>
      have halike : Alike Bbps.backend (fun _ _ => True) (Bbps.SamePayments sub) 0 s.billing
          t.billing (Bbps.findOne id actor) (Bbps.findOne id actor) :=
        Bbps.alike_findOne hsub hrole hR.1
      have hrun := halike.exec choices fun _ => trivial
      exact ⟨congrArg Answer.payment hrun.1, hrun.2, hR.2⟩
  | retryPayment id actor choices =>
      have halike : Alike Bbps.backend Bbps.billsSaved (Bbps.SamePayments sub) 0 s.billing
          t.billing (Bbps.retry id actor) (Bbps.retry id actor) :=
        Bbps.alike_retry hsub hrole hR.1
      have hrun := halike.exec choices fun k hk => hbills k (by simpa using hk)
      exact ⟨congrArg Answer.payment hrun.1, hrun.2, hR.2⟩
  | schedules r choices =>
      have halike : Alike backend (generates fresh) (SameSchedules sub fresh) 0 s.scheduling
          t.scheduling (program parseDate r) (program parseDate r) :=
        alike_program rfl hsub hR.2
      have hrun := halike.exec choices fun k => hfresh k
      exact ⟨congrArg Answer.schedules hrun.1, hR.1, hrun.2⟩

theorem answers_alike {visits : List Visit} (hactor : ∀ v ∈ visits, v.actor = actor)
    (hsub : requireActorSub actor = .ok sub) (hrole : canViewAllBillPayments actor = false)
    (hfresh : ∀ v ∈ visits, v.Generates fresh) (hbills : ∀ v ∈ visits, v.BillsSaved)
    (hR : AgreeOn sub fresh s t) :
    answers parseDate t visits = answers parseDate s visits := by
  induction visits generalizing s t with
  | nil => rfl
  | cons v visits ih =>
      have hfirst : (v.answer parseDate t).1 = (v.answer parseDate s).1 ∧
          AgreeOn sub fresh (v.answer parseDate s).2 (v.answer parseDate t).2 :=
        answer_alike (hactor v List.mem_cons_self) hsub hrole (hfresh v List.mem_cons_self)
          (hbills v List.mem_cons_self) hR
      have hrest := ih (fun w hw => hactor w (List.mem_cons_of_mem v hw))
        (fun w hw => hfresh w (List.mem_cons_of_mem v hw))
        (fun w hw => hbills w (List.mem_cons_of_mem v hw)) hfirst.2
      exact List.cons_eq_cons.2 ⟨hfirst.1, hrest⟩

end Runs

/-- A customer without a bank read role learns nothing of other customers' payments, bills,
schedules and executions: any requests have the same answers whatever those are. -/
theorem others_stay_hidden (parseDate : String → Option TimeValue) (actor : Actor) (sub : String)
    (s t : Tables) (visits : List Visit) (hsub : actor.sub = some sub) (hne : sub ≠ "")
    (hrole : canViewAllBillPayments actor = false) (hagree : Agree sub s t)
    (hactor : ∀ v ∈ visits, v.actor = actor) (hfresh : ∀ v ∈ visits, v.Generates (NewId s t))
    (hbills : ∀ v ∈ visits, v.BillsSaved) :
    answers parseDate t visits = answers parseDate s visits :=
  answers_alike hactor (Bbps.requireActorSub_ok.2 ⟨hsub, hne⟩) hrole hfresh hbills hagree.start

/-- The customer's payment and schedule, alone in their tables. -/
def ownTables : Tables where
  billing := Bbps.sampleStore [{ Bbps.samplePayment with keycloakUserId := some "user-1" }] [] []
  scheduling := sampleStore

/-- The same beside those of another customer, with the bill of the payment. -/
def sharedTables : Tables where
  billing := Bbps.sampleStore
    [{ Bbps.samplePayment with keycloakUserId := some "user-1" },
      { Bbps.samplePayment with id := "payment-2", idempotencyKey := "key-2" }]
    [{ Bbps.sampleBill with }] []
  scheduling :=
    { sampleStore with
      schedules := .ofRows _ _
        [{ sampleSchedule with id := "schedule-2", keycloakUserId := some "user-2" },
          sampleSchedule] }

def monthly : CreateBillScheduleDto where
  billerCode := sampleSchedule.billerCode
  consumerNumber := sampleSchedule.consumerNumber
  scheduleType := .RECURRING
  frequency := .value .MONTHLY
  nextRunAt := "2026-10-05"
  maximumAmount := .finite 5000 0

def october (_ : String) : Option TimeValue :=
  some sampleSchedule.nextRunAt

def generating (id : String) (_ : Nat) : Choice :=
  { quick with freshId := id }

/-- A retry of the own payment, requests for rows of the other customer, and a new schedule. -/
def curiousVisits : List Visit :=
  [.retryPayment "payment-1" customer fun _ => Bbps.Choice.answers .SUCCESS (some "BBPS-1"),
    .findPayment "payment-2" customer fun _ => Bbps.Choice.plain,
    .schedules (.cancelSchedule "schedule-2" customer) (generating "schedule-3"),
    .schedules (.pauseSchedule "schedule-1" customer) (generating "schedule-3"),
    .schedules (.create monthly customer) (generating "schedule-3"),
    .schedules (.findAll customer) (generating "schedule-4")]

theorem others_stay_hidden_curious :
    answers october sharedTables curiousVisits = answers october ownTables curiousVisits := by
  refine others_stay_hidden october customer "user-1" ownTables sharedTables curiousVisits rfl
    (by decide) (by decide) ⟨by decide, by decide, by decide, rfl⟩ ?_ ?_ ?_
  · simp [curiousVisits, Visit.actor, Request.actor]
  · have hthree : NewId ownTables sharedTables "schedule-3" := by
      unfold NewId
      decide
    have hfour : NewId ownTables sharedTables "schedule-4" := by
      unfold NewId
      decide
    simp [curiousVisits, Visit.Generates, generating, hthree, hfour]
  · simp [curiousVisits, Visit.BillsSaved, Bbps.Choice.answers]

end Scheduling
end IdentityBillpay
