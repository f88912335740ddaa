import IdentityBillpay.Bbps.Access
import IdentityBillpay.Bbps.Store

/-!
# PaymentService — paying a bill, retrying a payment, reading payments

The programs of `payment.service.ts`, one definition for each method and in its order of awaits.
`create` is cut where the bill has been found: `checkPayable` holds its checks on the bill (steps 2
and 3) and `dispatch` the call to BBPS with the writes that follow it (steps 4 to 7).
-/

namespace IdentityBillpay
namespace Bbps

open Async.Program (settled)

/-- An amount in a reply: the text of a column, or a number. -/
inductive AmountValue
  | column (amount : Amount)
  | number (amount : JsNumber)
  deriving DecidableEq

/-- What `create` returns. -/
structure PaymentResult where
  paymentId : String
  billNumber : Option String
  billerCode : String
  consumerNumber : String
  amount : AmountValue
  status : String
  bbpsReferenceId : Option String
  duplicate : Bool
  deriving DecidableEq

/-- `Number(x)` of an optional string. -/
def numberOf : Option String → JsNumber
  | none => .nan
  | some s => Js.Number s

/-! ## Finding the bill -/

/-- The mock bill that matches, else the demo row that matches. -/
def resolveRecord (query : BillWhere) : Prog (Option BillingRecord) := do
  let mock : Option MockBill ← call (.findMockBill query)
  match mock with
  | some record => return some (.mock record)
  | none =>
      -- The demo data is asked only where there is no mock bill.
      let demo : Option DemoBbpsData ← call (.findDemo query)
      match demo with
      | some record => return some (.demo record)
      | none => return none

def findBillingRecordByBillNumber (billNumber : String) : Prog (Option BillingRecord) :=
  resolveRecord (.billNumber billNumber)

def findBillingRecord (billerCode consumerNumber : String) : Prog (Option BillingRecord) :=
  resolveRecord (.pair billerCode consumerNumber)

/-- The bill a body names: by its bill number when that is given, else by biller and consumer. -/
def CreatePaymentDto.billWhere (dto : CreatePaymentDto) : BillWhere :=
  if truthy dto.billNumber then .billNumber (dto.billNumber.getD "")
  else .pair (dto.billerCode.getD "") (dto.consumerNumber.getD "")

/-- Step 1 of `create`. -/
def findBill (dto : CreatePaymentDto) : Prog (Option BillingRecord) :=
  if truthy dto.billNumber then findBillingRecordByBillNumber (dto.billNumber.getD "")
  else findBillingRecord (dto.billerCode.getD "") (dto.consumerNumber.getD "")

theorem findBill_eq (dto : CreatePaymentDto) : findBill dto = resolveRecord dto.billWhere := by
  unfold findBill CreatePaymentDto.billWhere
  split
  · rfl
  · rfl

/-- Marks the record `PAID` and saves it in the table it was read from. -/
def markPaid (found : BillingRecord) : Prog Unit :=
  match found.setStatus "PAID" with
  | .mock bill => call (.saveMockBill bill)
  | .demo bill => call (.saveDemo bill)

/-! ## Reading payments -/

def findAll (actor : Actor) : Prog (List BillPayment) :=
  if canViewAllBillPayments actor then call (.findPayments none)
  else do
    let sub ← settled (requireActorSub actor)
    call (.findPayments (some sub))

def findOne (id : String) (actor : Actor) : Prog BillPayment := do
  let payment : Option BillPayment ← call (.findPayment id)
  match payment with
  | none => throw paymentNotFound
  | some payment => do
      settled (assertPaymentOwnedByActor payment actor)
      return payment

/-! ## Creating a payment -/

/-- Neither a bill number nor all of biller, consumer and amount. -/
def CreatePaymentDto.incomplete (dto : CreatePaymentDto) : Bool :=
  !truthy dto.billNumber &&
    (!truthy dto.billerCode || !truthy dto.consumerNumber || !truthy dto.amount)

def isSamePaymentRequest (dto : CreatePaymentDto) (existingPayment : BillPayment) : Prog Bool := do
  if truthy dto.billNumber then do
    let found ← findBillingRecordByBillNumber (dto.billNumber.getD "")
    match found with
    | none => return false
    | some found =>
        return existingPayment.billerCode == found.bill.billerCode &&
          existingPayment.consumerNumber == found.bill.consumerNumber &&
          existingPayment.amount.toNumber.strictEq found.bill.amount.toNumber
  else
    return some existingPayment.billerCode == dto.billerCode &&
      some existingPayment.consumerNumber == dto.consumerNumber &&
      existingPayment.amount.toNumber.strictEq (numberOf dto.amount)

/-- The reply to a replayed request. -/
def replayed (existingPayment : BillPayment) : PaymentResult where
  paymentId := existingPayment.id
  billNumber := none
  billerCode := existingPayment.billerCode
  consumerNumber := existingPayment.consumerNumber
  amount := .column existingPayment.amount
  status := existingPayment.status
  bbpsReferenceId := existingPayment.bbpsReferenceId
  duplicate := true

/-- The amount asked for: the body's when it gives one, else the bill's. -/
def CreatePaymentDto.requestedAmount (dto : CreatePaymentDto) (billAmount : JsNumber) : JsNumber :=
  if dto.amount != none && dto.amount != some "" then numberOf dto.amount else billAmount

/-- Steps 2 and 3 of `create`: the bill's status and the requested amount. -/
def checkPayable (dto : CreatePaymentDto) (bill : Bill) : Except ServiceError Unit :=
  let billAmount := bill.amount.toNumber
  let requestedAmount := dto.requestedAmount billAmount
  if bill.status != "UNPAID" then
    .error (.badRequest "BILL_NOT_PAYABLE" "Bill is already paid or not payable")
  else if requestedAmount.isNaN || !requestedAmount.strictEq billAmount then
    .error (.badRequest "AMOUNT_MISMATCH" "Payment amount does not match bill amount")
  else .ok ()

/-- A bill is payable when it is `UNPAID` and its own amount is asked for. -/
theorem checkPayable_eq_ok {dto : CreatePaymentDto} {bill : Bill} :
    checkPayable dto bill = .ok () ↔
      bill.status = "UNPAID" ∧ dto.requestedAmount bill.amount.toNumber = bill.amount.toNumber := by
  have hnan := Sql.Decimal.toNumber_ne_nan bill.amount (by decide) (by decide)
  unfold checkPayable
  generalize bill.amount.toNumber = billAmount at hnan
  by_cases hstatus : bill.status = "UNPAID"
  · simp only [hstatus, bne_self_eq_false, Bool.false_eq_true, if_false, true_and]
    by_cases hamount : dto.requestedAmount billAmount = billAmount
    · simp [hamount, JsNumber.strictEq, JsNumber.isNaN, hnan]
    · simp [hamount, JsNumber.strictEq]
  · simp [hstatus]

/-- The BBPS call that pays a bill. -/
def Bill.payRequest (bill : Bill) : BbpsPaymentRequest where
  billerCode := bill.billerCode
  consumerNumber := bill.consumerNumber
  amount := bill.amount.toNumber

/-- The payment entity of step 5. -/
def newPayment (dto : CreatePaymentDto) (keycloakUserId : String) (bill : Bill)
    (bbpsResponse : BbpsPaymentResponse) : NewPayment where
  billerCode := bill.billerCode
  consumerNumber := bill.consumerNumber
  amount := bill.amount.toNumber
  status := bbpsResponse.status.text
  idempotencyKey := dto.idempotencyKey
  keycloakUserId := keycloakUserId
  bbpsReferenceId := bbpsResponse.referenceId

@[simp] theorem newPayment_amount (dto : CreatePaymentDto) (sub : String) (bill : Bill)
    (resp : BbpsPaymentResponse) : (newPayment dto sub bill resp).amount = bill.amount.toNumber := by
  simp only [newPayment]

/-- The reply of step 7. -/
def created (savedId : String) (payment : NewPayment) (billNumber : String) : PaymentResult where
  paymentId := savedId
  billNumber := some billNumber
  billerCode := payment.billerCode
  consumerNumber := payment.consumerNumber
  amount := .number payment.amount
  status := payment.status
  bbpsReferenceId := payment.bbpsReferenceId
  duplicate := false

/-- Steps 4 to 7 of `create`: charge the bill, insert the payment, then settle the bill. -/
def dispatch (dto : CreatePaymentDto) (keycloakUserId : String) (found : BillingRecord) :
    Prog PaymentResult := do
  let bbpsResponse : BbpsPaymentResponse ← call (.pay found.bill.payRequest)
  let payment := newPayment dto keycloakUserId found.bill bbpsResponse
  -- The bank has been paid by now; the insert may still be refused.
  let savedId : String ← call (.insertPayment payment)
  if bbpsResponse.status = .SUCCESS then do
    markPaid found
    return created savedId payment found.bill.billNumber
  else return created savedId payment found.bill.billNumber

def create (dto : CreatePaymentDto) (actor : Actor) : Prog PaymentResult := do
  let keycloakUserId ← settled (requireActorSub actor)
  if dto.incomplete then
    throw (.badRequest "INVALID_PAYMENT_REQUEST"
      "Provide billNumber from fetch, or billerCode + consumerNumber + amount together")
  else do
    let existingPayment : Option BillPayment ← call (.findPaymentByKey dto.idempotencyKey)
    match existingPayment with
    | some existingPayment => do
        settled (assertIdempotentPaymentOwnedByActor existingPayment actor)
        let sameRequest ← isSamePaymentRequest dto existingPayment
        if !sameRequest then
          throw (.badRequest "IDEMPOTENCY_KEY_REUSED"
            "Idempotency key is already used for a different payment")
        else return replayed existingPayment
    | none => do
        let found ← findBill dto
        match found with
        | none => throw (.notFound "BILL_NOT_FOUND" "Bill not found")
        | some found => do
            settled (checkPayable dto found.bill)
            dispatch dto keycloakUserId found

/-! ## Retrying a payment -/

/-- The BBPS call of a retry. -/
def BillPayment.payRequest (payment : BillPayment) : BbpsPaymentRequest where
  billerCode := payment.billerCode
  consumerNumber := payment.consumerNumber
  amount := payment.amount.toNumber

def BbpsPaymentRequest.pair (req : BbpsPaymentRequest) : String × String :=
  (req.billerCode, req.consumerNumber)

@[simp] theorem Bill.pair_payRequest (b : Bill) : b.payRequest.pair = b.pair := rfl

@[simp] theorem BillPayment.pair_payRequest (p : BillPayment) :
    p.payRequest.pair = (p.billerCode, p.consumerNumber) := rfl

def payViaBbps (billPaymentId : String) (actor : Actor) : Prog Unit := do
  let payment : Option BillPayment ← call (.findPayment billPaymentId)
  match payment with
  | none => throw paymentNotFound
  | some payment => do
      settled (assertPaymentOwnedByActor payment actor)
      if payment.status = "SUCCESS" then return ()
      else do
        let bbpsResponse : BbpsPaymentResponse ← call (.pay payment.payRequest)
        let payment := payment.answered bbpsResponse
        let _ : Unit ← call (.savePayment payment)
        if bbpsResponse.status = .SUCCESS then do
          -- The bill is looked up by its pair, not by the number it was paid under.
          let found ← findBillingRecord payment.billerCode payment.consumerNumber
          match found with
          | some found => markPaid found
          | none => return ()
        else return ()

end Bbps
end IdentityBillpay
