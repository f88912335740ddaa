import IdentityBillpay.Async.Protocol
import IdentityBillpay.Bbps.PaymentService

/-!
# PaymentProtocol — the order of awaits of `create` and `payViaBbps`

Each program is walked through once. The walk yields which operation may be awaited after which
events (`CreateAwaits`, `RetryAwaits`) and how the program can end (`CreateSettles`,
`RetrySettles`). Everything proved later about payments starts from these relations.
-/

namespace IdentityBillpay
namespace Bbps

open Async Async.Program

abbrev Own := List (Awaited sig ServiceError)

/-- Some read was rejected. The database of this model never does that. -/
def ReadFailed (own : Own) : Prop :=
  ∃ op e, op.isRead = true ∧ (⟨op, .error e⟩ : Awaited sig ServiceError) ∈ own

/-! ## Finding a bill -/

/-- The events of a lookup, and what it found. -/
inductive Lookup (q : BillWhere) : Own → Option BillingRecord → Prop
  | mock (b : MockBill) : Lookup q [⟨.findMockBill q, .ok (some b)⟩] (some (.mock b))
  | demo (d : DemoBbpsData) :
      Lookup q [⟨.findMockBill q, .ok none⟩, ⟨.findDemo q, .ok (some d)⟩] (some (.demo d))
  | none : Lookup q [⟨.findMockBill q, .ok none⟩, ⟨.findDemo q, .ok none⟩] none

/-- The record a lookup found was read in one of its events. -/
def BillingRecord.read (q : BillWhere) : BillingRecord → Awaited sig ServiceError
  | .mock b => ⟨.findMockBill q, .ok (some b)⟩
  | .demo d => ⟨.findDemo q, .ok (some d)⟩

theorem Lookup.read_mem {q : BillWhere} {reads : Own} {r : BillingRecord}
    (h : Lookup q reads (some r)) : r.read q ∈ reads := by
  cases h with
  | mock b => simp [BillingRecord.read]
  | demo d => simp [BillingRecord.read]

/-- A lookup is made of reads that succeed. -/
theorem Lookup.isRead {q : BillWhere} {reads : Own} {found : Option BillingRecord}
    (h : Lookup q reads found) : ∀ a ∈ reads, a.op.isRead = true ∧ a.res.isOk = true := by
  cases h with
  | mock b => simp [Op.isRead, Except.isOk, Except.toBool]
  | demo d => simp [Op.isRead, Except.isOk, Except.toBool]
  | none => simp [Op.isRead, Except.isOk, Except.toBool]

section Follows

variable {α : Type} {P : Own → Op → Prop} {Q : Own → Except ServiceError α → Prop} {own : Own}

theorem follows_resolveRecord {q : BillWhere} {f : Option BillingRecord → Prog α}
    (hmock : P own (.findMockBill q))
    (hdemo : P (own ++ [⟨.findMockBill q, .ok none⟩]) (.findDemo q))
    (hfailed : ∀ reads e, ReadFailed reads → Q (own ++ reads) (.error e))
    (hfound : ∀ reads found, Lookup q reads found → Follows P Q (own ++ reads) (f found)) :
    Follows P Q own (resolveRecord q >>= f) := by
  unfold resolveRecord
  rw [bind_assoc]
  apply follows_call_bind hmock
  · intro e
    exact hfailed _ e ⟨.findMockBill q, e, rfl, List.mem_singleton_self _⟩
  · intro mock
    cases (mock : Option MockBill) with
    | some b => exact hfound _ _ (.mock b)
    | none =>
        rw [bind_assoc]
        apply follows_call_bind hdemo
        · intro e
          rw [List.append_assoc]
          exact hfailed _ e ⟨.findDemo q, e, rfl, by simp⟩
        · intro demo
          rw [List.append_assoc]
          cases (demo : Option DemoBbpsData) with
          | some d => exact hfound _ _ (.demo d)
          | none => exact hfound _ _ .none

theorem follows_markPaid {r : BillingRecord} {f : Unit → Prog α}
    (hsave : P own (r.setStatus "PAID").save)
    (herr : ∀ e, Q (own ++ [⟨(r.setStatus "PAID").save, .error e⟩]) (.error e))
    (hok : ∀ u, Follows P Q (own ++ [⟨(r.setStatus "PAID").save, .ok u⟩]) (f ())) :
    Follows P Q own (markPaid r >>= f) := by
  cases r with
  | mock b => exact follows_call_bind hsave herr hok
  | demo d => exact follows_call_bind hsave herr hok

end Follows

/-! ## create -/

def keyReused : ServiceError :=
  .badRequest "IDEMPOTENCY_KEY_REUSED" "Idempotency key is already used for a different payment"

/-- The lookup by idempotency key came to `found`. -/
def keyLookup (dto : CreatePaymentDto) (found : Option BillPayment) : Awaited sig ServiceError :=
  ⟨.findPaymentByKey dto.idempotencyKey, .ok found⟩

/-- `create` found its key unused and selected a payable bill. -/
structure Selects (dto : CreatePaymentDto) (own : Own) (found : BillingRecord) : Prop where
  complete : dto.incomplete = false
  payable : checkPayable dto found.bill = .ok ()
  reads : ∃ reads, Lookup dto.billWhere reads (some found) ∧ own = keyLookup dto none :: reads

/-- Up to its choice of a bill, `create` has only read. -/
theorem Selects.isRead {dto : CreatePaymentDto} {own : Own} {found : BillingRecord}
    (h : Selects dto own found) : ∀ a ∈ own, a.op.isRead = true ∧ a.res.isOk = true := by
  rcases h.reads with ⟨reads, hlookup, rfl⟩
  intro a ha
  rcases List.mem_cons.1 ha with rfl | ha
  · exact ⟨rfl, rfl⟩
  · exact hlookup.isRead a ha

/-- What `create` may await next. -/
inductive CreateAwaits (dto : CreatePaymentDto) (actor : Actor) (own : Own) : Op → Prop
  | keyLookup (h : own = []) : CreateAwaits dto actor own (.findPaymentByKey dto.idempotencyKey)
  | findMockBill {existing : Option BillPayment} (h : own = [Bbps.keyLookup dto existing]) :
      CreateAwaits dto actor own (.findMockBill dto.billWhere)
  | findDemo {existing : Option BillPayment}
      (h : own = [Bbps.keyLookup dto existing, ⟨.findMockBill dto.billWhere, .ok none⟩]) :
      CreateAwaits dto actor own (.findDemo dto.billWhere)
  | pay {found : BillingRecord} (h : Selects dto own found) :
      CreateAwaits dto actor own (.pay found.bill.payRequest)
  | insert {before : Own} {found : BillingRecord} {resp : BbpsPaymentResponse} {sub : String}
      (h : Selects dto before found) (hsub : requireActorSub actor = .ok sub)
      (hown : own = before ++ [⟨.pay found.bill.payRequest, .ok resp⟩]) :
      CreateAwaits dto actor own (.insertPayment (newPayment dto sub found.bill resp))
  | settle {before : Own} {found : BillingRecord} {resp : BbpsPaymentResponse} {sub id : String}
      (h : Selects dto before found) (hsub : requireActorSub actor = .ok sub)
      (hsuccess : resp.status = .SUCCESS)
      (hown : own = before ++ [⟨.pay found.bill.payRequest, .ok resp⟩,
        ⟨.insertPayment (newPayment dto sub found.bill resp), .ok id⟩]) :
      CreateAwaits dto actor own (found.setStatus "PAID").save

/-- The stored payment is for the bill that was found, at its present amount. -/
def sameBill (existing : BillPayment) (found : BillingRecord) : Bool :=
  existing.billerCode == found.bill.billerCode &&
    existing.consumerNumber == found.bill.consumerNumber &&
    existing.amount.toNumber.strictEq found.bill.amount.toNumber

/-- The stored payment has the biller, consumer and amount of the body. -/
def sameFields (existing : BillPayment) (dto : CreatePaymentDto) : Bool :=
  some existing.billerCode == dto.billerCode && some existing.consumerNumber == dto.consumerNumber &&
    existing.amount.toNumber.strictEq (numberOf dto.amount)

/-- How a replay is answered once it is known whether it repeats the payment. -/
def replayAnswer (existing : BillPayment) (same : Bool) : Except ServiceError PaymentResult :=
  if same then .ok (replayed existing) else .error keyReused

/-- How `create` can end. -/
inductive CreateSettles (dto : CreatePaymentDto) (actor : Actor) (own : Own) :
    Except ServiceError PaymentResult → Prop
  | readFailed {e : ServiceError} (h : ReadFailed own) : CreateSettles dto actor own (.error e)
  | unauthorized {e : ServiceError} (he : requireActorSub actor = .error e) (h : own = []) :
      CreateSettles dto actor own (.error e)
  | incomplete (he : dto.incomplete = true) (h : own = []) :
      CreateSettles dto actor own (.error (.badRequest "INVALID_PAYMENT_REQUEST"
        "Provide billNumber from fetch, or billerCode + consumerNumber + amount together"))
  -- The key has been used: by somebody else, or for a request that is compared.
  | notOwner {existing : BillPayment} {e : ServiceError}
      (he : assertIdempotentPaymentOwnedByActor existing actor = .error e)
      (h : own = [keyLookup dto (some existing)]) : CreateSettles dto actor own (.error e)
  | replayByNumber {existing : BillPayment} {reads : Own} {found : Option BillingRecord}
      (howner : assertIdempotentPaymentOwnedByActor existing actor = .ok ())
      (hnumber : truthy dto.billNumber = true) (hlookup : Lookup dto.billWhere reads found)
      (h : own = keyLookup dto (some existing) :: reads) :
      CreateSettles dto actor own (replayAnswer existing (found.any (sameBill existing)))
  | replayByFields {existing : BillPayment}
      (howner : assertIdempotentPaymentOwnedByActor existing actor = .ok ())
      (hcomplete : dto.incomplete = false)
      (hnumber : truthy dto.billNumber = false) (h : own = [keyLookup dto (some existing)]) :
      CreateSettles dto actor own (replayAnswer existing (sameFields existing dto))
  -- The key is new.
  | billNotFound {reads : Own} (hlookup : Lookup dto.billWhere reads none)
      (h : own = keyLookup dto none :: reads) :
      CreateSettles dto actor own (.error (.notFound "BILL_NOT_FOUND" "Bill not found"))
  | notPayable {reads : Own} {found : BillingRecord} {e : ServiceError}
      (hlookup : Lookup dto.billWhere reads (some found))
      (he : checkPayable dto found.bill = .error e) (h : own = keyLookup dto none :: reads) :
      CreateSettles dto actor own (.error e)
  -- The bank has been asked to pay; each later call may fail.
  | payFailed {before : Own} {found : BillingRecord} {e : ServiceError}
      (hselects : Selects dto before found)
      (h : own = before ++ [⟨.pay found.bill.payRequest, .error e⟩]) :
      CreateSettles dto actor own (.error e)
  | insertFailed {before : Own} {found : BillingRecord} {resp : BbpsPaymentResponse} {sub : String}
      {e : ServiceError} (hselects : Selects dto before found)
      (hsub : requireActorSub actor = .ok sub)
      (h : own = before ++ [⟨.pay found.bill.payRequest, .ok resp⟩,
        ⟨.insertPayment (newPayment dto sub found.bill resp), .error e⟩]) :
      CreateSettles dto actor own (.error e)
  -- Only a `SUCCESS` marks the bill as paid.
  | open {before : Own} {found : BillingRecord} {resp : BbpsPaymentResponse} {sub id : String}
      (hselects : Selects dto before found) (hsub : requireActorSub actor = .ok sub)
      (hstatus : resp.status ≠ .SUCCESS)
      (h : own = before ++ [⟨.pay found.bill.payRequest, .ok resp⟩,
        ⟨.insertPayment (newPayment dto sub found.bill resp), .ok id⟩]) :
      CreateSettles dto actor own
        (.ok (created id (newPayment dto sub found.bill resp) found.bill.billNumber))
  | paid {before : Own} {found : BillingRecord} {resp : BbpsPaymentResponse} {sub id : String}
      {u : Op.Res (found.setStatus "PAID").save}
      (hselects : Selects dto before found) (hsub : requireActorSub actor = .ok sub)
      (hstatus : resp.status = .SUCCESS)
      (h : own = before ++ [⟨.pay found.bill.payRequest, .ok resp⟩,
        ⟨.insertPayment (newPayment dto sub found.bill resp), .ok id⟩,
        ⟨(found.setStatus "PAID").save, .ok u⟩]) :
      CreateSettles dto actor own
        (.ok (created id (newPayment dto sub found.bill resp) found.bill.billNumber))
  | settleFailed {before : Own} {found : BillingRecord} {resp : BbpsPaymentResponse}
      {sub id : String} {e : ServiceError}
      (hselects : Selects dto before found) (hsub : requireActorSub actor = .ok sub)
      (hstatus : resp.status = .SUCCESS)
      (h : own = before ++ [⟨.pay found.bill.payRequest, .ok resp⟩,
        ⟨.insertPayment (newPayment dto sub found.bill resp), .ok id⟩,
        ⟨(found.setStatus "PAID").save, .error e⟩]) :
      CreateSettles dto actor own (.error e)

theorem follows_dispatch {dto : CreatePaymentDto} {actor : Actor} {sub : String}
    {found : BillingRecord} {own : Own} (hsub : requireActorSub actor = .ok sub)
    (h : Selects dto own found) :
    Follows (CreateAwaits dto actor) (CreateSettles dto actor) own (dispatch dto sub found) := by
  unfold dispatch
  apply follows_call_bind (.pay h)
  · intro e
    exact .payFailed h rfl
  · intro resp
    apply follows_call_bind (.insert h hsub rfl)
    · intro e
      rw [List.append_assoc]
      exact .insertFailed h hsub rfl
    · intro id
      rw [List.append_assoc]
      by_cases hstatus : BbpsPaymentResponse.status resp = .SUCCESS
      · rw [if_pos hstatus]
        apply follows_markPaid (.settle h hsub hstatus rfl)
        · intro e
          rw [List.append_assoc]
          exact .settleFailed h hsub hstatus rfl
        · intro u
          rw [List.append_assoc]
          exact .paid h hsub hstatus rfl
      · rw [if_neg hstatus]
        exact .open h hsub hstatus rfl

theorem follows_isSamePaymentRequest {dto : CreatePaymentDto} {actor : Actor}
    {existing : BillPayment} {f : Bool → Prog PaymentResult}
    (howner : assertIdempotentPaymentOwnedByActor existing actor = .ok ())
    (hcomplete : dto.incomplete = false)
    (hf : ∀ same, f same = settled (replayAnswer existing same)) :
    Follows (CreateAwaits dto actor) (CreateSettles dto actor) [keyLookup dto (some existing)]
      (isSamePaymentRequest dto existing >>= f) := by
  unfold isSamePaymentRequest
  by_cases hnumber : truthy dto.billNumber = true
  · have hwhere : BillWhere.billNumber (dto.billNumber.getD "") = dto.billWhere := by
      simp [CreatePaymentDto.billWhere, hnumber]
    rw [if_pos hnumber, findBillingRecordByBillNumber, hwhere, bind_assoc]
    apply follows_resolveRecord
    · exact .findMockBill rfl
    · exact .findDemo rfl
    · intro reads e hfailed
      rcases hfailed with ⟨op, e', hread, hmem⟩
      exact .readFailed ⟨op, e', hread, List.mem_cons_of_mem _ hmem⟩
    · intro reads found hlookup
      have hsettles : CreateSettles dto actor (keyLookup dto (some existing) :: reads)
          (replayAnswer existing (found.any (sameBill existing))) :=
        .replayByNumber howner hnumber hlookup rfl
      cases found with
      | none =>
          simp only [pure_eq, resolve_bind, hf]
          exact follows_settled.2 hsettles
      | some found =>
          simp only [pure_eq, resolve_bind, hf]
          exact follows_settled.2 hsettles
  · have hfields : truthy dto.billNumber = false := by simpa using hnumber
    rw [if_neg hnumber]
    simp only [pure_eq, resolve_bind, hf]
    exact follows_settled.2 (.replayByFields howner hcomplete hfields rfl)

/-- `create` keeps to its order of awaits. -/
theorem follows_create (dto : CreatePaymentDto) (actor : Actor) :
    Follows (CreateAwaits dto actor) (CreateSettles dto actor) [] (create dto actor) := by
  unfold create
  apply follows_settled_bind
  · intro e hsub
    exact .unauthorized hsub rfl
  · intro sub hsub
    by_cases hincomplete : dto.incomplete = true
    · rw [if_pos hincomplete]
      exact .incomplete hincomplete rfl
    · have hcomplete : dto.incomplete = false := by simpa using hincomplete
      rw [if_neg hincomplete]
      apply follows_call_bind (.keyLookup rfl)
      · intro e
        exact .readFailed ⟨.findPaymentByKey dto.idempotencyKey, e, rfl, by simp⟩
      · intro existing
        cases (existing : Option BillPayment) with
        | some existing =>
            -- A used key: the body is compared with the stored payment.
            apply follows_settled_bind
            · intro e howner
              exact .notOwner howner rfl
            · intro u howner
              apply follows_isSamePaymentRequest howner hcomplete
              intro same
              cases same with
              | true => rfl
              | false => rfl
        | none =>
            -- A new key: the bill is found, checked and charged.
            rw [findBill_eq]
            apply follows_resolveRecord
            · exact .findMockBill rfl
            · exact .findDemo rfl
            · intro reads e hfailed
              rcases hfailed with ⟨op, e', hread, hmem⟩
              exact .readFailed ⟨op, e', hread, List.mem_cons_of_mem _ hmem⟩
            · intro reads found hlookup
              cases found with
              | none => exact .billNotFound hlookup rfl
              | some found =>
                  apply follows_settled_bind
                  · intro e hpayable
                    exact .notPayable hlookup hpayable rfl
                  · intro u hpayable
                    exact follows_dispatch hsub ⟨hcomplete, hpayable, reads, hlookup, rfl⟩

/-! ## payViaBbps -/

/-- The events of a retry up to the save of the answered payment. -/
def retried (id : String) (p : BillPayment) (resp : BbpsPaymentResponse) : Own :=
  [⟨.findPayment id, .ok (some p)⟩, ⟨.pay p.payRequest, .ok resp⟩,
    ⟨.savePayment (p.answered resp), .ok ()⟩]

/-- The caller may retry the payment, and there is something to retry. -/
structure MayRetry (actor : Actor) (p : BillPayment) : Prop where
  owner : assertPaymentOwnedByActor p actor = .ok ()
  notSuccess : p.status ≠ "SUCCESS"

instance (actor : Actor) (p : BillPayment) : Decidable (MayRetry actor p) :=
  decidable_of_iff (assertPaymentOwnedByActor p actor = .ok () ∧ p.status ≠ "SUCCESS")
    ⟨fun h => ⟨h.1, h.2⟩, fun h => ⟨h.1, h.2⟩⟩

/-- What `payViaBbps` may await next. -/
inductive RetryAwaits (id : String) (actor : Actor) (own : Own) : Op → Prop
  | findPayment (h : own = []) : RetryAwaits id actor own (.findPayment id)
  | pay {p : BillPayment} (hp : MayRetry actor p)
      (h : own = [⟨.findPayment id, .ok (some p)⟩]) : RetryAwaits id actor own (.pay p.payRequest)
  | savePayment {p : BillPayment} {resp : BbpsPaymentResponse} (hp : MayRetry actor p)
      (h : own = [⟨.findPayment id, .ok (some p)⟩, ⟨.pay p.payRequest, .ok resp⟩]) :
      RetryAwaits id actor own (.savePayment (p.answered resp))
  | findMockBill {p : BillPayment} {resp : BbpsPaymentResponse} (hp : MayRetry actor p)
      (hsuccess : resp.status = .SUCCESS) (h : own = retried id p resp) :
      RetryAwaits id actor own (.findMockBill (.pair p.billerCode p.consumerNumber))
  | findDemo {p : BillPayment} {resp : BbpsPaymentResponse} (hp : MayRetry actor p)
      (hsuccess : resp.status = .SUCCESS)
      (h : own = retried id p resp ++
        [⟨.findMockBill (.pair p.billerCode p.consumerNumber), .ok none⟩]) :
      RetryAwaits id actor own (.findDemo (.pair p.billerCode p.consumerNumber))
  | settle {p : BillPayment} {resp : BbpsPaymentResponse} {reads : Own} {found : BillingRecord}
      (hp : MayRetry actor p) (hsuccess : resp.status = .SUCCESS)
      (hlookup : Lookup (.pair p.billerCode p.consumerNumber) reads (some found))
      (h : own = retried id p resp ++ reads) :
      RetryAwaits id actor own (found.setStatus "PAID").save

/-- How `payViaBbps` can end. -/
inductive RetrySettles (id : String) (actor : Actor) (own : Own) : Except ServiceError Unit → Prop
  | readFailed {e : ServiceError} (h : ReadFailed own) : RetrySettles id actor own (.error e)
  -- The payment is looked up, and has to be the actor's own.
  | notFound (h : own = [⟨.findPayment id, .ok none⟩]) :
      RetrySettles id actor own (.error paymentNotFound)
  | notOwner {p : BillPayment} {e : ServiceError}
      (he : assertPaymentOwnedByActor p actor = .error e)
      (h : own = [⟨.findPayment id, .ok (some p)⟩]) : RetrySettles id actor own (.error e)
  | alreadyPaid {p : BillPayment} (howner : assertPaymentOwnedByActor p actor = .ok ())
      (hp : p.status = "SUCCESS") (h : own = [⟨.findPayment id, .ok (some p)⟩]) :
      RetrySettles id actor own (.ok ())
  -- The bank is asked again.
  | payFailed {p : BillPayment} {e : ServiceError} (hp : MayRetry actor p)
      (h : own = [⟨.findPayment id, .ok (some p)⟩, ⟨.pay p.payRequest, .error e⟩]) :
      RetrySettles id actor own (.error e)
  | saveFailed {p : BillPayment} {resp : BbpsPaymentResponse} {e : ServiceError}
      (hp : MayRetry actor p)
      (h : own = [⟨.findPayment id, .ok (some p)⟩, ⟨.pay p.payRequest, .ok resp⟩,
        ⟨.savePayment (p.answered resp), .error e⟩]) : RetrySettles id actor own (.error e)
  | open {p : BillPayment} {resp : BbpsPaymentResponse} (hp : MayRetry actor p)
      (hstatus : resp.status ≠ .SUCCESS) (h : own = retried id p resp) :
      RetrySettles id actor own (.ok ())
  -- Nothing is said when the bill is not there any more.
  | billNotFound {p : BillPayment} {resp : BbpsPaymentResponse} {reads : Own}
      (hp : MayRetry actor p) (hstatus : resp.status = .SUCCESS)
      (hlookup : Lookup (.pair p.billerCode p.consumerNumber) reads none)
      (h : own = retried id p resp ++ reads) : RetrySettles id actor own (.ok ())
  | paid {p : BillPayment} {resp : BbpsPaymentResponse} {reads : Own} {found : BillingRecord}
      {u : Op.Res (found.setStatus "PAID").save} (hp : MayRetry actor p)
      (hstatus : resp.status = .SUCCESS)
      (hlookup : Lookup (.pair p.billerCode p.consumerNumber) reads (some found))
      (h : own = retried id p resp ++ reads ++ [⟨(found.setStatus "PAID").save, .ok u⟩]) :
      RetrySettles id actor own (.ok ())
  | settleFailed {p : BillPayment} {resp : BbpsPaymentResponse} {reads : Own}
      {found : BillingRecord} {e : ServiceError} (hp : MayRetry actor p)
      (hstatus : resp.status = .SUCCESS)
      (hlookup : Lookup (.pair p.billerCode p.consumerNumber) reads (some found))
      (h : own = retried id p resp ++ reads ++ [⟨(found.setStatus "PAID").save, .error e⟩]) :
      RetrySettles id actor own (.error e)

/-- The end of a retry: a `SUCCESS` answer settles the bill of the payment's pair. -/
theorem follows_settleRetry {id : String} {actor : Actor} {p : BillPayment}
    (hp : MayRetry actor p) (resp : BbpsPaymentResponse) :
    Follows (RetryAwaits id actor) (RetrySettles id actor) (retried id p resp)
      (if resp.status = .SUCCESS then do
        let found ← findBillingRecord p.billerCode p.consumerNumber
        match found with
        | some found => markPaid found
        | none => return ()
      else return ()) := by
  by_cases hstatus : resp.status = .SUCCESS
  · rw [if_pos hstatus]
    apply follows_resolveRecord
    · exact .findMockBill hp hstatus rfl
    · exact .findDemo hp hstatus rfl
    · intro reads e hfailed
      rcases hfailed with ⟨op, e', hread, hmem⟩
      exact .readFailed ⟨op, e', hread, List.mem_append_right _ hmem⟩
    · intro reads found hlookup
      cases found with
      | none => exact .billNotFound hp hstatus hlookup rfl
      | some found =>
          show Follows _ _ _ (markPaid found)
          rw [← bind_pure (markPaid found)]
          apply follows_markPaid (.settle hp hstatus hlookup rfl)
          · intro e
            exact .settleFailed hp hstatus hlookup rfl
          · intro u
            exact .paid hp hstatus hlookup rfl
  · rw [if_neg hstatus]
    exact .open hp hstatus rfl

/-- `payViaBbps` keeps to its order of awaits. -/
theorem follows_payViaBbps (id : String) (actor : Actor) :
    Follows (RetryAwaits id actor) (RetrySettles id actor) [] (payViaBbps id actor) := by
  unfold payViaBbps
  apply follows_call_bind (.findPayment rfl)
  · intro e
    exact .readFailed ⟨.findPayment id, e, rfl, by simp⟩
  · intro payment
    cases (payment : Option BillPayment) with
    | none => exact .notFound rfl
    | some p =>
        apply follows_settled_bind
        · intro e howner
          exact .notOwner howner rfl
        · intro u howner
          by_cases hp : p.status = "SUCCESS"
          · rw [if_pos hp]
            exact .alreadyPaid howner hp rfl
          · rw [if_neg hp]
            replace hp : MayRetry actor p := ⟨howner, hp⟩
            apply follows_call_bind (.pay hp rfl)
            · intro e
              exact .payFailed hp rfl
            · intro resp
              apply follows_call_bind (.savePayment hp rfl)
              · intro e
                exact .saveFailed hp rfl
              · intro u
                exact follows_settleRetry hp resp

end Bbps
end IdentityBillpay
