import IdentityBillpay.Bbps.BbpsCatalogSeeder
import IdentityBillpay.Bbps.BillService
import IdentityBillpay.Bbps.PaymentProtocol

/-!
# Service — the requests of the bill payment module

* `Request`, `service` — every entry point as a request, answered by its program;
* `Awaits` — the order of awaits of each request;
* `awaits_pay`, `awaits_insertPayment`, `awaits_savePayment`, `awaits_save` — which requests perform
  a given kind of effect, and after which events.
-/

namespace IdentityBillpay
namespace Bbps

open Async Async.Program

inductive Request
  | create (dto : CreatePaymentDto) (actor : Actor)
  | payViaBbps (billPaymentId : String) (actor : Actor)
  | findOne (id : String) (actor : Actor)
  | findAll (actor : Actor)
  | fetchBill (dto : FetchBillDto)
  | onModuleInit
  deriving DecidableEq

inductive Reply
  | created (payment : PaymentResult)
  | done
  | payment (payment : BillPayment)
  | payments (payments : List BillPayment)
  | bill (bill : FetchedBill)
  deriving DecidableEq

def program : Request → Prog Reply
  | .create dto actor => do return .created (← create dto actor)
  | .payViaBbps id actor => do
      payViaBbps id actor
      return .done
  | .findOne id actor => do return .payment (← findOne id actor)
  | .findAll actor => do return .payments (← findAll actor)
  | .fetchBill dto => do return .bill (← fetchBill dto)
  | .onModuleInit => do
      onModuleInit
      return .done

abbrev service : Service sig ServiceError :=
  { backend with
    Request := Request
    Reply := Reply
    program := program }

@[simp] theorem service_perform (op : Op) (ch : Choice) (s : Store) :
    service.perform op ch s = perform op ch s := rfl

/-! ## The order of awaits -/

/-- What the seeder may await: any read, the upserts of billers, and the upserts of bills, which
write over the row it read or insert a new one. -/
inductive SeedAwaits (rows : List BbpsCatalogEntry) (own : Own) : Op → Prop
  | read {op : Op} (h : op.isRead = true) : SeedAwaits rows own op
  | saveBiller (biller : BillerRegistration) : SeedAwaits rows own (.saveBiller biller)
  | insertBiller {row : BbpsCatalogEntry} (hrow : row ∈ rows) :
      SeedAwaits rows own (.insertBiller row)
  | saveMockBill {row : BbpsCatalogEntry} {b : MockBill} (hrow : row ∈ rows)
      (hread : BillingRecord.read (.pair row.billerCode row.consumerNumber) (.mock b) ∈ own) :
      SeedAwaits rows own (.saveMockBill (row.mockBill b.id (seededStatus (some b.toBill))))
  | insertMockBill {row : BbpsCatalogEntry} (hrow : row ∈ rows) :
      SeedAwaits rows own (.insertMockBill row (seededStatus none))
  | saveDemo {row : BbpsCatalogEntry} {d : DemoBbpsData} (hrow : row ∈ rows)
      (hread : BillingRecord.read (.pair row.billerCode row.consumerNumber) (.demo d) ∈ own) :
      SeedAwaits rows own (.saveDemo (row.demoBill d.id (seededStatus (some d.toBill))))
  | insertDemo {row : BbpsCatalogEntry} (hrow : row ∈ rows) :
      SeedAwaits rows own (.insertDemo row (seededStatus none))

/-- Nothing but reads. -/
def OnlyReads (_ : Own) (op : Op) : Prop :=
  op.isRead = true

def Awaits : Request → Own → Op → Prop
  | .create dto actor, own, op => CreateAwaits dto actor own op
  | .payViaBbps id actor, own, op => RetryAwaits id actor own op
  | .onModuleInit, own, op => SeedAwaits BBPS_CATALOG own op
  | _, own, op => OnlyReads own op

section Seeder

variable {rows : List BbpsCatalogEntry} {row : BbpsCatalogEntry}

theorem follows_upsertBiller (hrow : row ∈ rows) (own : Own) :
    Follows (SeedAwaits rows) (fun _ _ => True) own (upsertBiller row) := by
  unfold upsertBiller
  apply follows_call_bind (.read rfl)
  · exact fun _ => trivial
  · intro existing
    cases (existing : Option BillerRegistration) with
    | some existing => exact ⟨.saveBiller _, fun r => by cases r <;> trivial⟩
    | none => exact ⟨.insertBiller hrow, fun r => by cases r <;> trivial⟩

theorem follows_upsertMockBill (hrow : row ∈ rows) (own : Own) :
    Follows (SeedAwaits rows) (fun _ _ => True) own (upsertMockBill row) := by
  unfold upsertMockBill
  apply follows_call_bind (.read rfl)
  · exact fun _ => trivial
  · intro existing
    cases (existing : Option MockBill) with
    | some bill =>
        exact ⟨.saveMockBill hrow (by simp [BillingRecord.read]), fun r => by cases r <;> trivial⟩
    | none => exact ⟨.insertMockBill hrow, fun r => by cases r <;> trivial⟩

theorem follows_upsertDemo (hrow : row ∈ rows) (own : Own) :
    Follows (SeedAwaits rows) (fun _ _ => True) own (upsertDemo row) := by
  unfold upsertDemo
  apply follows_call_bind (.read rfl)
  · exact fun _ => trivial
  · intro existing
    cases (existing : Option DemoBbpsData) with
    | some bill =>
        exact ⟨.saveDemo hrow (by simp [BillingRecord.read]), fun r => by cases r <;> trivial⟩
    | none => exact ⟨.insertDemo hrow, fun r => by cases r <;> trivial⟩

/-- The loop, by induction on the entries left to seed. -/
theorem follows_seedAll (left : List BbpsCatalogEntry) (hleft : ∀ row ∈ left, row ∈ rows)
    (own : Own) : Follows (SeedAwaits rows) (fun _ _ => True) own (seedAll left) := by
  induction left generalizing own with
  | nil => trivial
  | cons row left ih =>
      have hrow : row ∈ rows := hleft row List.mem_cons_self
      have hrest : ∀ row ∈ left, row ∈ rows := fun r hr => hleft r (List.mem_cons_of_mem _ hr)
      refine (follows_upsertBiller hrow own).bind ?_ (fun _ _ _ => trivial)
      intro own _ _
      refine (follows_upsertMockBill hrow own).bind ?_ (fun _ _ _ => trivial)
      intro own _ _
      refine (follows_upsertDemo hrow own).bind ?_ (fun _ _ _ => trivial)
      intro own _ _
      exact ih hrest own

end Seeder

theorem follows_findOne (id : String) (actor : Actor) :
    Follows OnlyReads (fun _ _ => True) [] (findOne id actor) := by
  unfold findOne
  apply follows_call_bind rfl
  · exact fun _ => trivial
  · intro payment
    cases (payment : Option BillPayment) with
    | none => trivial
    | some p => exact follows_settled_bind (fun _ _ => trivial) (fun _ _ => trivial)

theorem follows_findAll (actor : Actor) :
    Follows OnlyReads (fun _ _ => True) [] (findAll actor) := by
  unfold findAll
  by_cases h : canViewAllBillPayments actor = true
  · rw [if_pos h]
    exact ⟨rfl, fun r => by cases r <;> trivial⟩
  · rw [if_neg h]
    apply follows_settled_bind
    · exact fun _ _ => trivial
    · exact fun _ _ => ⟨rfl, fun r => by cases r <;> trivial⟩

/-- A bill that `fetchBill` returns is a record it has read. -/
def FetchSettles (dto : FetchBillDto) (own : Own) (result : Except ServiceError FetchedBill) :
    Prop :=
  ∀ f, result = .ok f → ∃ found : BillingRecord, found.read dto.billWhere ∈ own ∧
    f = found.bill.fetched f.billerName

theorem follows_fetchDemo (dto : FetchBillDto) (own : Own) :
    Follows OnlyReads (FetchSettles dto) own (fetchDemo dto) := by
  unfold fetchDemo
  apply follows_call_bind rfl
  · intro e f hf
    cases hf
  · intro demo
    cases (demo : Option DemoBbpsData) with
    | none =>
        intro f hf
        cases hf
    | some d =>
        intro f hf
        cases hf
        exact ⟨.demo d, by simp [BillingRecord.read], rfl⟩

theorem follows_fetchBill (dto : FetchBillDto) :
    Follows OnlyReads (FetchSettles dto) [] (fetchBill dto) := by
  unfold fetchBill
  apply follows_call_bind rfl
  · intro e f hf
    cases hf
  · intro biller
    cases (biller : Option BillerRegistration) with
    | none => exact follows_fetchDemo dto _
    | some biller =>
        apply follows_call_bind rfl
        · intro e f hf
          cases hf
        · intro bill
          cases (bill : Option MockBill) with
          | none => exact follows_fetchDemo dto _
          | some bill =>
              intro f hf
              cases hf
              exact ⟨.mock bill, by simp [BillingRecord.read], rfl⟩

/-- Every request keeps to its order of awaits. -/
theorem follows_program (r : Request) :
    Follows (Awaits r) (fun _ _ => True) [] (service.program r) := by
  cases r with
  | create dto actor =>
      exact (follows_create dto actor).bind (fun _ _ _ => trivial) (fun _ _ _ => trivial)
  | payViaBbps id actor =>
      exact (follows_payViaBbps id actor).bind (fun _ _ _ => trivial) (fun _ _ _ => trivial)
  | findOne id actor =>
      exact (follows_findOne id actor).bind (fun _ _ _ => trivial) (fun _ _ _ => trivial)
  | findAll actor =>
      exact (follows_findAll actor).bind (fun _ _ _ => trivial) (fun _ _ _ => trivial)
  | fetchBill dto =>
      exact (follows_fetchBill dto).bind (fun _ _ _ => trivial) (fun _ _ _ => trivial)
  | onModuleInit =>
      exact (follows_seedAll BBPS_CATALOG (fun _ h => h) []).bind (fun _ _ _ => trivial)
        (fun _ _ _ => trivial)

/-! ## Who performs an effect -/

/-- A request that performs an operation which is not a read is a create, a retry or a seeding. -/
theorem awaits_cases {r : Request} {own : Own} {op : Op} (h : Awaits r own op) :
    op.isRead = true ∨ (∃ dto actor, r = .create dto actor ∧ CreateAwaits dto actor own op) ∨
      (∃ id actor, r = .payViaBbps id actor ∧ RetryAwaits id actor own op) ∨
      (r = .onModuleInit ∧ SeedAwaits BBPS_CATALOG own op) := by
  cases r with
  | create dto actor => exact .inr (.inl ⟨dto, actor, rfl, h⟩)
  | payViaBbps id actor => exact .inr (.inr (.inl ⟨id, actor, rfl, h⟩))
  | onModuleInit => exact .inr (.inr (.inr ⟨rfl, h⟩))
  | _ => exact .inl h

@[simp] theorem save_isRead (r : BillingRecord) : r.save.isRead = false := by
  cases r with
  | mock b => rfl
  | demo d => rfl

theorem save_ne_savePayment (r : BillingRecord) (p : BillPayment) : r.save ≠ .savePayment p := by
  cases r with
  | mock b => simp [BillingRecord.save]
  | demo d => simp [BillingRecord.save]

theorem save_ne_insertPayment (r : BillingRecord) (new : NewPayment) :
    r.save ≠ .insertPayment new := by
  cases r with
  | mock b => simp [BillingRecord.save]
  | demo d => simp [BillingRecord.save]

theorem save_ne_pay (r : BillingRecord) (req : BbpsPaymentRequest) : r.save ≠ .pay req := by
  cases r with
  | mock b => simp [BillingRecord.save]
  | demo d => simp [BillingRecord.save]

theorem save_injective {r r' : BillingRecord} (h : r.save = r'.save) : r = r' := by
  cases r with
  | mock b =>
      cases r' with
      | mock b' =>
          have hb : b = b' := by simpa [BillingRecord.save] using h
          rw [hb]
      | demo d' => simp [BillingRecord.save] at h
  | demo d =>
      cases r' with
      | mock b' => simp [BillingRecord.save] at h
      | demo d' =>
          have hd : d = d' := by simpa [BillingRecord.save] using h
          rw [hd]

section Effects

variable {r : Request} {own : Own} {op : Op}

/-- BBPS is called by a create that selected a bill or by a retry that read an open payment. -/
theorem awaits_pay {req : BbpsPaymentRequest} (h : Awaits r own op) (hop : op = .pay req) :
    (∃ dto actor found, r = .create dto actor ∧ Selects dto own found ∧
      req = found.bill.payRequest) ∨
    ∃ id actor p, r = .payViaBbps id actor ∧ MayRetry actor p ∧
      own = [⟨.findPayment id, .ok (some p)⟩] ∧ req = p.payRequest := by
  rcases awaits_cases h with hread | ⟨dto, actor, rfl, h⟩ | ⟨id, actor, rfl, h⟩ | ⟨rfl, h⟩
  · simp [hop, Op.isRead] at hread
  · cases h with
    | @pay found hselects =>
        injection hop with hreq
        exact .inl ⟨dto, actor, found, rfl, hselects, hreq.symm⟩
    | settle => exact absurd hop (save_ne_pay _ _)
    | _ => cases hop
  · cases h with
    | @pay p hp hown =>
        injection hop with hreq
        exact .inr ⟨id, actor, p, rfl, hp, hown, hreq.symm⟩
    | settle => exact absurd hop (save_ne_pay _ _)
    | _ => cases hop
  · cases h with
    | read hread => simp [hop, Op.isRead] at hread
    | _ => cases hop

/-- Before it calls BBPS a request has only read. -/
theorem isRead_of_awaits_pay {req : BbpsPaymentRequest} (h : Awaits r own op)
    (hop : op = .pay req) : ∀ a ∈ own, a.op.isRead = true ∧ a.res.isOk = true := by
  rcases awaits_pay h hop with ⟨dto, actor, found, _, hselects, _⟩ | ⟨id, actor, p, _, _, hown, _⟩
  · exact hselects.isRead
  · intro a ha
    have hread : a = ⟨.findPayment id, .ok (some p)⟩ := by simpa [hown] using ha
    rw [hread]
    exact ⟨rfl, rfl⟩

/-- A payment is inserted by a create, right after BBPS answered it. -/
theorem awaits_insertPayment {new : NewPayment} (h : Awaits r own op)
    (hop : op = .insertPayment new) :
    ∃ dto actor before found resp sub, r = .create dto actor ∧ Selects dto before found ∧
      requireActorSub actor = .ok sub ∧
      own = before ++ [⟨.pay found.bill.payRequest, .ok resp⟩] ∧
      new = newPayment dto sub found.bill resp := by
  rcases awaits_cases h with hread | ⟨dto, actor, rfl, h⟩ | ⟨id, actor, rfl, h⟩ | ⟨rfl, h⟩
  · simp [hop, Op.isRead] at hread
  · cases h with
    | @insert before found resp sub hselects hsub hown =>
        injection hop with hnew
        exact ⟨dto, actor, before, found, resp, sub, rfl, hselects, hsub, hown, hnew.symm⟩
    | settle => exact absurd hop (save_ne_insertPayment _ _)
    | _ => cases hop
  · cases h with
    | settle => exact absurd hop (save_ne_insertPayment _ _)
    | _ => cases hop
  · cases h with
    | read hread => simp [hop, Op.isRead] at hread
    | _ => cases hop

/-- A payment is overwritten by a retry, right after BBPS answered it. -/
theorem awaits_savePayment {q : BillPayment} (h : Awaits r own op) (hop : op = .savePayment q) :
    ∃ id actor p resp, r = .payViaBbps id actor ∧ MayRetry actor p ∧
      own = [⟨.findPayment id, .ok (some p)⟩, ⟨.pay p.payRequest, .ok resp⟩] ∧
      q = p.answered resp := by
  rcases awaits_cases h with hread | ⟨dto, actor, rfl, h⟩ | ⟨id, actor, rfl, h⟩ | ⟨rfl, h⟩
  · simp [hop, Op.isRead] at hread
  · cases h with
    | settle => exact absurd hop (save_ne_savePayment _ _)
    | _ => cases hop
  · cases h with
    | @savePayment p resp hp hown =>
        injection hop with hq
        exact ⟨id, actor, p, resp, rfl, hp, hown, hq.symm⟩
    | settle => exact absurd hop (save_ne_savePayment _ _)
    | _ => cases hop
  · cases h with
    | read hread => simp [hop, Op.isRead] at hread
    | _ => cases hop

/-- The state of a record as the seeder writes it back. -/
def BillingRecord.reseeded (row : BbpsCatalogEntry) : BillingRecord → BillingRecord
  | .mock b => .mock (row.mockBill b.id (seededStatus (some b.toBill)))
  | .demo d => .demo (row.demoBill d.id (seededStatus (some d.toBill)))

/-- A bill is overwritten by a create or a retry that BBPS answered `SUCCESS`, or by the seeder.
In each case with values that come from a copy the same request has read. -/
theorem awaits_save {rec : BillingRecord} (h : Awaits r own op) (hop : op = rec.save) :
    (∃ dto actor before found resp sub id, r = .create dto actor ∧ Selects dto before found ∧
      resp.status = .SUCCESS ∧
      own = before ++ [⟨.pay found.bill.payRequest, .ok resp⟩,
        ⟨.insertPayment (newPayment dto sub found.bill resp), .ok id⟩] ∧
      rec = found.setStatus "PAID") ∨
    (∃ id actor p resp reads found, r = .payViaBbps id actor ∧ MayRetry actor p ∧
      resp.status = .SUCCESS ∧
      Lookup (.pair p.billerCode p.consumerNumber) reads (some found) ∧
      own = retried id p resp ++ reads ∧ rec = found.setStatus "PAID") ∨
    (∃ row, ∃ found : BillingRecord, r = .onModuleInit ∧
      found.read (.pair row.billerCode row.consumerNumber) ∈ own ∧ rec = found.reseeded row) := by
  rcases awaits_cases h with hread | ⟨dto, actor, rfl, h⟩ | ⟨id, actor, rfl, h⟩ | ⟨rfl, h⟩
  · simp [hop] at hread
  · -- `create` saves the bill it has paid.
    left
    cases h with
    | @settle before found resp sub id hselects hsub hsuccess hown =>
        exact ⟨dto, actor, before, found, resp, sub, id, rfl, hselects, hsuccess, hown,
          (save_injective hop).symm⟩
    | pay h => exact absurd hop.symm (save_ne_pay _ _)
    | insert h => exact absurd hop.symm (save_ne_insertPayment _ _)
    | _ =>
        cases rec with
        | mock b => cases hop
        | demo d => cases hop
  · -- `payViaBbps` saves the bill of the payment's pair.
    right
    left
    cases h with
    | @settle p resp reads found hp hsuccess hlookup hown =>
        exact ⟨id, actor, p, resp, reads, found, rfl, hp, hsuccess, hlookup, hown,
          (save_injective hop).symm⟩
    | pay hp => exact absurd hop.symm (save_ne_pay _ _)
    | savePayment hp => exact absurd hop.symm (save_ne_savePayment _ _)
    | _ =>
        cases rec with
        | mock b => cases hop
        | demo d => cases hop
  · -- The seeder writes a bill that it has read.
    right
    right
    cases h with
    | @saveMockBill row b hrow hread =>
        have hrec : (BillingRecord.mock b).reseeded row = rec := save_injective hop
        exact ⟨row, .mock b, rfl, hread, hrec.symm⟩
    | @saveDemo row d hrow hread =>
        have hrec : (BillingRecord.demo d).reseeded row = rec := save_injective hop
        exact ⟨row, .demo d, rfl, hread, hrec.symm⟩
    | read hread => simp [hop] at hread
    | _ =>
        cases rec with
        | mock b => cases hop
        | demo d => cases hop

/-- Only the seeder inserts bills, and none of them is `PAID`. -/
theorem awaits_insertBill {row : BbpsCatalogEntry} {status : String} (h : Awaits r own op)
    (hop : op = .insertMockBill row status ∨ op = .insertDemo row status) :
    r = .onModuleInit ∧ status = "UNPAID" := by
  have hread : op.isRead ≠ true := by
    rcases hop with rfl | rfl
    · simp [Op.isRead]
    · simp [Op.isRead]
  have hsave : ∀ rec : BillingRecord, rec.save ≠ op := by
    intro rec
    rcases hop with rfl | rfl
    · cases rec with
      | mock b => simp [BillingRecord.save]
      | demo d => simp [BillingRecord.save]
    · cases rec with
      | mock b => simp [BillingRecord.save]
      | demo d => simp [BillingRecord.save]
  -- Only the seeder inserts bills.
  rcases awaits_cases h with hr | ⟨dto, actor, rfl, h⟩ | ⟨id, actor, rfl, h⟩ | ⟨rfl, h⟩
  · exact absurd hr hread
  · cases h with
    | settle => exact absurd rfl (hsave _)
    | _ => simp at hop
  · cases h with
    | settle => exact absurd rfl (hsave _)
    | _ => simp at hop
  · refine ⟨rfl, ?_⟩
    cases h with
    | read hr => exact absurd hr hread
    | insertMockBill hrow =>
        rcases hop with hop | hop
        · injection hop with _ hstatus
          exact hstatus.symm
        · cases hop
    | insertDemo hrow =>
        rcases hop with hop | hop
        · cases hop
        · injection hop with _ hstatus
          exact hstatus.symm
    | _ => simp at hop

end Effects

/-! ## Sample data -/

def sampleStore (payments : List BillPayment) (mockBills : List MockBill)
    (demoBills : List DemoBbpsData) : Store where
  payments := .ofRows _ _ payments
  mockBills := .ofRows _ _ mockBills
  demoBills := .ofRows _ _ demoBills
  billers := .empty

def sampleCustomer : Actor := ⟨some "customer-1", none, none⟩

theorem sampleAmount_inRange : (90000 : Int).natAbs < 10 ^ 12 := by decide

def sampleBill : Bill where
  id := "bill-1"
  billerCode := "GAS-GAIL-01"
  consumerNumber := "100000000011"
  billNumber := "BBPS-GAS-001"
  registeredMobile := "9000000011"
  customerName := "Demo Customer Gas 1"
  amount := ⟨90000, sampleAmount_inRange⟩
  dueDate := "2026-12-31"
  status := "UNPAID"

/-- `sampleBill` as a demo row. -/
def sampleDemo : DemoBbpsData :=
  { sampleBill with billerName := "Demo Gas", category := "GAS" }

/-- A store with one unpaid bill and no payment. -/
def unpaidStore : Store :=
  sampleStore [] [{ sampleBill with }] []

/-- A payment of `sampleBill` that BBPS has left open. -/
def samplePayment : BillPayment where
  id := "payment-1"
  billerCode := sampleBill.billerCode
  consumerNumber := sampleBill.consumerNumber
  amount := sampleBill.amount
  status := "PENDING"
  idempotencyKey := "key-1"
  keycloakUserId := some "customer-1"
  bbpsReferenceId := none

/-- A body that pays `sampleBill` under the given key. -/
def sampleBody (key : String) : CreatePaymentDto where
  billNumber := some sampleBill.billNumber
  billerCode := none
  consumerNumber := none
  amount := none
  idempotencyKey := key

namespace Choice

/-- The first matching row is found and a write succeeds. -/
def plain : Choice := ⟨0, false, none, "payment-1"⟩

/-- A write fails. -/
def failing : Choice := ⟨0, true, none, "payment-1"⟩

def answers (status : BbpsStatus) (referenceId : Option String) : Choice :=
  ⟨0, false, some ⟨status, referenceId⟩, "payment-1"⟩

def inserts (id : String) : Choice := ⟨0, false, none, id⟩

end Choice

end Bbps
end IdentityBillpay
