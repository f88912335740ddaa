import IdentityBillpay.Async.Straight
import IdentityBillpay.Bbps.Recording

/-!
# Effects — what a payment request that runs alone has done when it ends

* `NoEffect` — BBPS has not been called, and all tables are as before;
* `PaysBill` — a create has called BBPS once, inserted one payment, and settled one bill or none;
* `Retries` — a retry has called BBPS once, updated its payment, and settled one bill or none;
* `payment_requests_have_one_effect` — when no call fails, each request has one of these effects.
-/

namespace IdentityBillpay
namespace Bbps

open Async Async.Program

/-- The BBPS calls among the events. -/
def payCalls (own : Own) : List BbpsPaymentRequest :=
  own.filterMap fun a => a.op.payRequest?

abbrev Ended (α : Type) := Outcome sig ServiceError Store α

structure NoEffect {α : Type} (s : Store) (o : Ended α) : Prop where
  calls : payCalls o.awaited = []
  unchanged : o.state = s

structure Throws {α : Type} (s : Store) (o : Ended α) : Prop extends NoEffect s o where
  result : ∃ e, o.result = .error e

structure Duplicates (s : Store) (o : Ended PaymentResult) : Prop extends NoEffect s o where
  result : ∃ v, o.result = .ok v ∧ v.duplicate = true

/-- The record is marked `PAID`, and no other bill is touched. -/
def Marks (found : BillingRecord) (s m : Store) : Prop :=
  ∀ x : BillingRecord, x ∈ m ↔ x = found.setStatus "PAID" ∨ (x ∈ s ∧ ¬ x.SameRow found)

def SameBills (s m : Store) : Prop :=
  ∀ x : BillingRecord, x ∈ m ↔ x ∈ s

/-- The bill that the body names was `UNPAID` and has been paid for: one call, one row, and the
bill's status when BBPS answered `SUCCESS`. -/
structure PaysBill (dto : CreatePaymentDto) (actor : Actor) (s : Store) (o : Ended PaymentResult)
    (found : BillingRecord) (resp : BbpsPaymentResponse) (sub id : String) : Prop where
  named : s.Finds dto.billWhere (some found)
  unpaid : found.bill.status = "UNPAID"
  caller : requireActorSub actor = .ok sub
  calls : payCalls o.awaited = [found.bill.payRequest]
  answered : (⟨.pay found.bill.payRequest, .ok resp⟩ : Awaited sig ServiceError) ∈ o.awaited
  result : o.result = .ok (created id (newPayment dto sub found.bill resp) found.bill.billNumber)
  fresh : ∀ p ∈ s.payments, p.id ≠ id
  payments : ∀ p, p ∈ o.state.payments ↔ p ∈ s.payments ∨
    p = (newPayment dto sub found.bill resp).row id found.bill.amount
  paid : resp.status = .SUCCESS → Marks found s o.state
  unsettled : resp.status ≠ .SUCCESS → SameBills s o.state
  billers : o.state.billers = s.billers

/-- The payment has been sent to BBPS again and carries the answer; on `SUCCESS` the bill that its
biller and consumer find, if they find one, is marked. -/
structure Retries (id : String) (s : Store) (o : Ended Unit) (p : BillPayment)
    (resp : BbpsPaymentResponse) : Prop where
  stored : p ∈ s.payments ∧ p.id = id
  notSuccess : p.status ≠ "SUCCESS"
  calls : payCalls o.awaited = [p.payRequest]
  answered : (⟨.pay p.payRequest, .ok resp⟩ : Awaited sig ServiceError) ∈ o.awaited
  result : o.result = .ok ()
  payments : ∀ x, x ∈ o.state.payments ↔
    x = p.answered resp ∨ (x ∈ s.payments ∧ x.id ≠ p.id)
  paid : resp.status = .SUCCESS → SameBills s o.state ∨
    ∃ found, found ∈ s ∧ found.bill.pair = (p.billerCode, p.consumerNumber) ∧
      Marks found s o.state
  unsettled : resp.status ≠ .SUCCESS → SameBills s o.state
  billers : o.state.billers = s.billers

/-! ## Calls -/

section Calls

variable {own own' : Own}

theorem payCalls_append : payCalls (own ++ own') = payCalls own ++ payCalls own' :=
  List.filterMap_append

/-- Reads do not call BBPS. -/
theorem payCalls_reads (h : ∀ a ∈ own, a.op.isRead = true) : payCalls own = [] := by
  refine List.filterMap_eq_nil_iff.2 fun a ha => ?_
  have hread := h a ha
  cases hop : a.op with
  | pay req => simp [hop, Op.isRead] at hread
  | _ => rfl

@[simp] theorem payCalls_settle {found : BillingRecord} {status : String}
    {r : Except ServiceError (Op.Res (found.setStatus status).save)} :
    payCalls [⟨(found.setStatus status).save, r⟩] = [] := by
  simp [payCalls]

theorem Selects.payCalls {dto : CreatePaymentDto} {before rest : Own} {found : BillingRecord}
    {r : Except ServiceError BbpsPaymentResponse} {new : NewPayment}
    {r' : Except ServiceError String} (h : Selects dto before found)
    (hrest : Bbps.payCalls rest = []) :
    Bbps.payCalls (before ++ ⟨.pay found.bill.payRequest, r⟩ :: ⟨.insertPayment new, r'⟩ :: rest) =
      [found.bill.payRequest] := by
  have hbefore : Bbps.payCalls before = [] := payCalls_reads fun a ha => (h.isRead a ha).1
  rw [payCalls_append, hbefore, List.nil_append]
  exact congrArg (found.bill.payRequest :: ·) hrest

theorem payCalls_retried {id : String} {p : BillPayment} {resp : BbpsPaymentResponse}
    (h : payCalls own = []) : payCalls (retried id p resp ++ own) = [p.payRequest] := by
  rw [payCalls_append, h, List.append_nil]
  rfl

/-- A request that only reads has no effect. -/
theorem noEffect_of_reads {α : Type} {choices : Nat → Choice} {s m : Store}
    {result : Except ServiceError α} (hp : Performed backend choices s own m)
    (hread : ∀ a ∈ own, a.op.isRead = true) : NoEffect s (⟨result, own, m⟩ : Ended α) :=
  ⟨payCalls_reads hread, performed_reads hp hread⟩

/-- The save that settles a bill. -/
theorem performed_settle {choices : Nat → Choice} {s m : Store} {found : BillingRecord}
    {u : Op.Res (found.setStatus "PAID").save}
    (hp : Performed backend choices s [⟨(found.setStatus "PAID").save, .ok u⟩] m) :
    Marks found s m ∧ m.payments = s.payments ∧ m.billers = s.billers := by
  rcases performed_op.1 hp with ⟨hres, hend⟩
  have hm := performed_nil.1 hend
  refine ⟨?_, ?_, ?_⟩
  · rcases perform_save (found.setStatus "PAID") (choices 0) s with herr | ⟨u', s', hsaved, _, hmem⟩
    · rw [herr] at hres
      cases hres
    · intro x
      rw [hm, hsaved]
      simpa using hmem x
  · rw [hm]
    exact save_payments _ _ _
  · rw [hm]
    exact save_billers _ _ _

end Calls

/-! ## create -/

section Create

variable {dto : CreatePaymentDto} {actor : Actor} {choices : Nat → Choice} {s m : Store} {own : Own}

/-- A call that fails is in the trace. -/
theorem not_unfailing {op : Op} {e : ServiceError}
    (h : (⟨op, .error e⟩ : Awaited sig ServiceError) ∈ own) : ¬ Unfailing own := by
  intro hall
  have hok := hall _ h
  cases hok

theorem CreateSettles.effect {result : Except ServiceError PaymentResult}
    (h : CreateSettles dto actor own result) (hp : Performed backend choices s own m)
    (hanswered : Unfailing own) :
    Throws s (⟨result, own, m⟩ : Ended PaymentResult) ∨
      Duplicates s (⟨result, own, m⟩ : Ended PaymentResult) ∨
      ∃ found resp sub id, PaysBill dto actor s ⟨result, own, m⟩ found resp sub id := by
  have hthrows : ∀ {e}, (∀ a ∈ own, a.op.isRead = true) →
      Throws s (⟨.error e, own, m⟩ : Ended PaymentResult) :=
    fun hread => ⟨noEffect_of_reads hp hread, _, rfl⟩
  have hreplay : ∀ {existing : BillPayment} {same : Bool}, (∀ a ∈ own, a.op.isRead = true) →
      Throws s (⟨replayAnswer existing same, own, m⟩ : Ended PaymentResult) ∨
        Duplicates s (⟨replayAnswer existing same, own, m⟩ : Ended PaymentResult) ∨
        ∃ found resp sub id, PaysBill dto actor s ⟨replayAnswer existing same, own, m⟩ found resp
          sub id := by
    intro existing same hread
    cases same with
    | false => exact .inl (hthrows hread)
    | true => exact .inr (.inl ⟨noEffect_of_reads hp hread, _, rfl, rfl⟩)
  -- What has only read ends in an error or is a replay; a call that failed is excluded.
  cases h with
  | readFailed h => exact absurd h (not_readFailed hp)
  | unauthorized he h => exact .inl (hthrows (by simp [h]))
  | incomplete he h => exact .inl (hthrows (by simp [h]))
  | notOwner he h => exact .inl (hthrows (by simp [h, keyLookup, Op.isRead]))
  | replayByNumber howner hnumber hlookup h => exact hreplay (h ▸ keyLookup_isRead hlookup)
  | replayByFields howner hcomplete hnumber h =>
      exact hreplay (by simp [h, keyLookup, Op.isRead])
  | billNotFound hlookup h => exact .inl (hthrows (h ▸ keyLookup_isRead hlookup))
  | notPayable hlookup he h => exact .inl (hthrows (h ▸ keyLookup_isRead hlookup))
  | @payFailed before found e hselects h =>
      have hfailed : (⟨.pay found.bill.payRequest, .error e⟩ : Awaited sig ServiceError) ∈ own := by
        simp [h]
      exact absurd hanswered (not_unfailing hfailed)
  | @insertFailed before found resp sub e hselects hsub h =>
      have hfailed : (⟨.insertPayment (newPayment dto sub found.bill resp), .error e⟩ :
          Awaited sig ServiceError) ∈ own := by simp [h]
      exact absurd hanswered (not_unfailing hfailed)
  | @settleFailed before found resp sub id e hselects hsub hstatus h =>
      have hfailed : (⟨(found.setStatus "PAID").save, .error e⟩ : Awaited sig ServiceError) ∈ own := by
        simp [h]
      exact absurd hanswered (not_unfailing hfailed)
  -- The bank answers without success, so the bill is left as it is.
  | @«open» before found resp sub id hselects hsub hstatus h =>
      subst h
      rcases hselects.inserted hp with ⟨hfinds, hfresh, t, choices', hmem, hend⟩
      have hm := performed_nil.1 hend
      subst hm
      refine .inr (.inr ⟨found, resp, sub, id, hfinds, hselects.unpaid, hsub,
        hselects.payCalls rfl, by simp, rfl, hfresh, hmem, fun h => absurd h hstatus, ?_, rfl⟩)
      exact fun _ x => mem_withPayments
  | @paid before found resp sub id u hselects hsub hstatus h =>
      subst h
      rcases hselects.inserted hp with ⟨hfinds, hfresh, t, choices', hmem, hend⟩
      rcases performed_settle hend with ⟨hmarks, hpayments, hbillers⟩
      refine .inr (.inr ⟨found, resp, sub, id, hfinds, hselects.unpaid, hsub,
        hselects.payCalls payCalls_settle, by simp, rfl, hfresh, ?_, fun _ x => ?_,
        fun h => absurd hstatus h, hbillers⟩)
      · rw [show m.payments = t from hpayments]
        exact hmem
      · rw [hmarks x, mem_withPayments]

end Create

/-! ## payViaBbps -/

section Retry

variable {id : String} {actor : Actor} {choices : Nat → Choice} {s m : Store} {own : Own}

theorem RetrySettles.effect {result : Except ServiceError Unit}
    (h : RetrySettles id actor own result) (hp : Performed backend choices s own m)
    (hanswered : Unfailing own) :
    Throws s (⟨result, own, m⟩ : Ended Unit) ∨
      (NoEffect s (⟨result, own, m⟩ : Ended Unit) ∧
        ∃ p ∈ s.payments, p.id = id ∧ p.status = "SUCCESS") ∨
      ∃ p resp, Retries id s ⟨result, own, m⟩ p resp := by
  have hthrows : ∀ {e}, (∀ a ∈ own, a.op.isRead = true) →
      Throws s (⟨.error e, own, m⟩ : Ended Unit) :=
    fun hread => ⟨noEffect_of_reads hp hread, _, rfl⟩
  cases h with
  | readFailed h => exact absurd h (not_readFailed hp)
  | notFound h => exact .inl (hthrows (by simp [h, Op.isRead]))
  | notOwner he h => exact .inl (hthrows (by simp [h, Op.isRead]))
  | @alreadyPaid p howner hpaid h =>
      have hread : ∀ a ∈ own, a.op.isRead = true := by simp [h, Op.isRead]
      refine .inr (.inl ⟨noEffect_of_reads hp hread, p, ?_⟩)
      rw [h] at hp
      rcases (performed_findPayment hp).1 p rfl with ⟨hmem, hid⟩
      exact ⟨hmem, hid, hpaid⟩
  -- These three end in a failed call.
  | @payFailed p e hretry h =>
      have hfailed : (⟨.pay p.payRequest, .error e⟩ : Awaited sig ServiceError) ∈ own := by simp [h]
      exact absurd hanswered (not_unfailing hfailed)
  | @saveFailed p resp e hretry h =>
      have hfailed : (⟨.savePayment (p.answered resp), .error e⟩ : Awaited sig ServiceError) ∈ own := by
        simp [h]
      exact absurd hanswered (not_unfailing hfailed)
  | @settleFailed p resp reads found e hretry hstatus hlookup h =>
      have hfailed : (⟨(found.setStatus "PAID").save, .error e⟩ : Awaited sig ServiceError) ∈ own := by
        simp [h]
      exact absurd hanswered (not_unfailing hfailed)
  -- The payment is stored without success, and the bill is not looked up.
  | @«open» p resp hretry hstatus h =>
      subst h
      rw [← List.append_nil (retried id p resp)] at hp
      rcases performed_retried hp with ⟨hmem, hid, _, _, t, ht, hend⟩
      have hm := performed_nil.1 hend
      subst hm
      refine .inr (.inr ⟨p, resp, ⟨hmem, hid⟩, hretry.notSuccess, rfl, by simp [retried], rfl, ht,
        fun h => absurd h hstatus, ?_, rfl⟩)
      exact fun _ x => mem_withPayments
  -- No bill of the pair is found, and the payment alone is stored.
  | @billNotFound p resp reads hretry hstatus hlookup h =>
      subst h
      rcases performed_retried hp with ⟨hmem, hid, _, _, t, ht, hreads⟩
      have hm := (hlookup.performed hreads).1
      subst hm
      have hcalls : payCalls reads = [] := payCalls_reads fun a ha => (hlookup.isRead a ha).1
      refine .inr (.inr ⟨p, resp, ⟨hmem, hid⟩, hretry.notSuccess, payCalls_retried hcalls,
        by simp [retried], rfl, ht, ?_, fun h => absurd hstatus h, rfl⟩)
      exact fun _ => .inl fun x => mem_withPayments
  | @paid p resp reads found u hretry hstatus hlookup h =>
      subst h
      rw [List.append_assoc] at hp
      rcases performed_retried hp with ⟨hmem, hid, _, _, t, ht, hrest⟩
      rcases performed_append.1 hrest with ⟨m₁, hreads, hwrite⟩
      rcases hlookup.performed hreads with ⟨hm₁, hfinds, _⟩
      rw [hm₁] at hwrite
      rcases performed_settle hwrite with ⟨hmarks, hpayments, hbillers⟩
      have hfound := (finds_withPayments.1 hfinds).mem
      have hcalls : payCalls (reads ++ [⟨(found.setStatus "PAID").save, .ok u⟩]) = [] := by
        rw [payCalls_append, payCalls_settle, List.append_nil]
        exact payCalls_reads fun a ha => (hlookup.isRead a ha).1
      rw [List.append_assoc]
      refine .inr (.inr ⟨p, resp, ⟨hmem, hid⟩, hretry.notSuccess, payCalls_retried hcalls,
        by simp [retried], rfl, ?_, fun _ => .inr ⟨found, hfound.1, matches_pair.1 hfound.2, ?_⟩,
        fun h => absurd hstatus h, hbillers⟩)
      · rw [show m.payments = t from hpayments]
        exact ht
      · intro x
        rw [hmarks x, mem_withPayments]

end Retry

/-! ## One effect -/

theorem not_throws_and_duplicates {s : Store} {o : Ended PaymentResult} :
    ¬ (Throws s o ∧ Duplicates s o) := by
  rintro ⟨hthrows, hduplicates⟩
  rcases hthrows.result with ⟨e, he⟩
  rcases hduplicates.result with ⟨v, hv, _⟩
  rw [he] at hv
  cases hv

/-- A request that pays has called BBPS. -/
theorem NoEffect.not_pays {s : Store} {o : Ended PaymentResult} (h : NoEffect s o)
    {dto : CreatePaymentDto} {actor : Actor} :
    ¬ ∃ found resp sub id, PaysBill dto actor s o found resp sub id := by
  rintro ⟨found, resp, sub, id, hpays⟩
  have hcalls := hpays.calls
  rw [h.calls] at hcalls
  cases hcalls

/-- When nobody interrupts it and no call fails, a create throws, or finds a duplicate, or pays one
bill, and only one of these; a retry throws, or finds its payment paid, or pays again for its
payment. -/
theorem payment_requests_have_one_effect (actor : Actor) (choices : Nat → Choice) (s : Store) :
    (∀ dto, Unfailing ((create dto actor).exec backend choices s).awaited →
      (Throws s ((create dto actor).exec backend choices s) ∨
        Duplicates s ((create dto actor).exec backend choices s) ∨
        ∃ found resp sub id,
          PaysBill dto actor s ((create dto actor).exec backend choices s) found resp sub id) ∧
      ¬ (Throws s ((create dto actor).exec backend choices s) ∧
        Duplicates s ((create dto actor).exec backend choices s)) ∧
      ¬ (Throws s ((create dto actor).exec backend choices s) ∧ ∃ found resp sub id,
        PaysBill dto actor s ((create dto actor).exec backend choices s) found resp sub id) ∧
      ¬ (Duplicates s ((create dto actor).exec backend choices s) ∧ ∃ found resp sub id,
        PaysBill dto actor s ((create dto actor).exec backend choices s) found resp sub id)) ∧
    ∀ id, Unfailing ((payViaBbps id actor).exec backend choices s).awaited →
      Throws s ((payViaBbps id actor).exec backend choices s) ∨
      (NoEffect s ((payViaBbps id actor).exec backend choices s) ∧
        ∃ p ∈ s.payments, p.id = id ∧ p.status = "SUCCESS") ∨
      ∃ p resp, Retries id s ((payViaBbps id actor).exec backend choices s) p resp := by
  refine ⟨fun dto hanswered => ⟨?_, not_throws_and_duplicates, ?_, ?_⟩, fun id hanswered => ?_⟩
  · rcases create_alone dto actor choices s with ⟨hsettles, hperformed⟩
    exact hsettles.effect hperformed hanswered
  · exact fun h => h.1.not_pays h.2
  · exact fun h => h.1.not_pays h.2
  · rcases payViaBbps_alone id actor choices s with ⟨hsettles, hperformed⟩
    exact hsettles.effect hperformed hanswered

/-- The body of `sampleBill` under a new key pays it; a retry of the payment that is left open pays
again. -/
theorem sample_requests_have_one_effect :
    (∃ found resp sub id, PaysBill (sampleBody "key-1") sampleCustomer unpaidStore
      ((create (sampleBody "key-1") sampleCustomer).exec backend smooth unpaidStore)
      found resp sub id) ∧
    ∃ p resp, Retries "payment-1" (sampleStore [samplePayment] [{ sampleBill with }] [])
      ((payViaBbps "payment-1" sampleCustomer).exec backend smooth
        (sampleStore [samplePayment] [{ sampleBill with }] [])) p resp := by
  constructor
  · have hcalls : payCalls ((create (sampleBody "key-1") sampleCustomer).exec backend smooth
        unpaidStore).awaited ≠ [] := by decide
    rcases ((payment_requests_have_one_effect sampleCustomer smooth unpaidStore).1
      (sampleBody "key-1") (by decide)).1 with hthrows | hduplicates | hpays
    · exact absurd hthrows.calls hcalls
    · exact absurd hduplicates.calls hcalls
    · exact hpays
  · have hcalls : payCalls ((payViaBbps "payment-1" sampleCustomer).exec backend smooth
        (sampleStore [samplePayment] [{ sampleBill with }] [])).awaited ≠ [] := by decide
    rcases (payment_requests_have_one_effect sampleCustomer smooth
      (sampleStore [samplePayment] [{ sampleBill with }] [])).2 "payment-1" (by decide)
      with hthrows | hpaid | hretries
    · exact absurd hthrows.calls hcalls
    · exact absurd hpaid.1.calls hcalls
    · exact hretries

end Bbps
end IdentityBillpay
