import IdentityBillpay.Sql.Decimal
import IdentityBillpay.Sql.Table

/-!
# Entities — rows, request bodies and errors of the bill payment module

* `MockBill`, `DemoBbpsData`, `BillerRegistration`, `BillPayment` — the tables' rows;
* `BillingRecord` — a bill together with the table it comes from;
* `CreatePaymentDto`, `FetchBillDto`, `Actor` — what a request brings;
* `ServiceError` — what a request is rejected with.
-/

namespace IdentityBillpay
namespace Bbps

/-- An amount column, `DECIMAL(12, 2)`. -/
abbrev Amount := Sql.Decimal 12 2

/-! ## Bills -/

/-- The columns that `mock_bill` and `demo_bbps_data` share. -/
structure Bill where
  id : String
  billerCode : String
  consumerNumber : String
  billNumber : String
  registeredMobile : String
  customerName : String
  amount : Amount
  dueDate : String
  status : String
  deriving DecidableEq

structure MockBill extends Bill
  deriving DecidableEq

structure DemoBbpsData extends Bill where
  billerName : String
  category : String
  deriving DecidableEq

/-- The unique index of both bill tables. -/
def Bill.pair (b : Bill) : String × String :=
  (b.billerCode, b.consumerNumber)

/-- A bill row and the table it was read from. -/
inductive BillingRecord
  | mock (record : MockBill)
  | demo (record : DemoBbpsData)
  deriving DecidableEq

namespace BillingRecord

def bill : BillingRecord → Bill
  | .mock record => record.toBill
  | .demo record => record.toBill

/-- `record.status = status`. -/
def setStatus (r : BillingRecord) (status : String) : BillingRecord :=
  match r with
  | .mock record => .mock { record with status := status }
  | .demo record => .demo { record with status := status }

@[simp] theorem bill_mock (b : MockBill) : (BillingRecord.mock b).bill = b.toBill := rfl

@[simp] theorem bill_demo (d : DemoBbpsData) : (BillingRecord.demo d).bill = d.toBill := rfl

@[simp] theorem bill_setStatus (r : BillingRecord) (status : String) :
    (r.setStatus status).bill = { r.bill with status := status } := by
  cases r with
  | mock record => rfl
  | demo record => rfl

end BillingRecord

@[simp] theorem Bill.pair_withStatus (b : Bill) (status : String) :
    ({ b with status := status } : Bill).pair = b.pair := rfl

structure BillerRegistration where
  id : String
  billerCode : String
  billerName : String
  category : String
  active : Bool
  deriving DecidableEq

/-- The `where` clauses by which bills are looked up. -/
inductive BillWhere
  | billNumber (billNumber : String)
  | pair (billerCode consumerNumber : String)
  | registered (billerCode consumerNumber registeredMobile : String)
  deriving DecidableEq

def BillWhere.matches : BillWhere → Bill → Bool
  | .billNumber n, b => b.billNumber == n
  | .pair billerCode consumerNumber, b =>
      b.billerCode == billerCode && b.consumerNumber == consumerNumber
  | .registered billerCode consumerNumber registeredMobile, b =>
      b.billerCode == billerCode && b.consumerNumber == consumerNumber &&
        b.registeredMobile == registeredMobile

@[simp] theorem matches_billNumber {n : String} {b : Bill} :
    (BillWhere.billNumber n).matches b = true ↔ b.billNumber = n := by
  simp [BillWhere.matches]

@[simp] theorem matches_pair {billerCode consumerNumber : String} {b : Bill} :
    (BillWhere.pair billerCode consumerNumber).matches b = true ↔
      b.pair = (billerCode, consumerNumber) := by
  simp [BillWhere.matches, Bill.pair]

@[simp] theorem matches_registered {billerCode consumerNumber registeredMobile : String}
    {b : Bill} :
    (BillWhere.registered billerCode consumerNumber registeredMobile).matches b = true ↔
      b.pair = (billerCode, consumerNumber) ∧ b.registeredMobile = registeredMobile := by
  simp [BillWhere.matches, Bill.pair]

/-! ## The catalog the service seeds -/

/-- An entry of the catalog; its amount is written as the column value it is stored as. -/
structure BbpsCatalogEntry where
  billerCode : String
  billerName : String
  category : String
  consumerNumber : String
  registeredMobile : String
  billNumber : String
  customerName : String
  amount : Amount
  dueDate : String
  deriving DecidableEq

namespace BbpsCatalogEntry

/-- The bill columns an entry seeds, under the given id and status. -/
def bill (row : BbpsCatalogEntry) (id status : String) : Bill where
  id := id
  billerCode := row.billerCode
  consumerNumber := row.consumerNumber
  billNumber := row.billNumber
  registeredMobile := row.registeredMobile
  customerName := row.customerName
  amount := row.amount
  dueDate := row.dueDate
  status := status

def mockBill (row : BbpsCatalogEntry) (id status : String) : MockBill :=
  { row.bill id status with }

def demoBill (row : BbpsCatalogEntry) (id status : String) : DemoBbpsData :=
  { row.bill id status with
    billerName := row.billerName
    category := row.category }

/-- The registration an entry seeds; every seeded biller is active. -/
def biller (row : BbpsCatalogEntry) (id : String) : BillerRegistration where
  id := id
  billerCode := row.billerCode
  billerName := row.billerName
  category := row.category
  active := true

end BbpsCatalogEntry

/-! ## Payments -/

inductive BbpsStatus
  | SUCCESS
  | FAILED
  | PENDING
  | TIMEOUT
  deriving DecidableEq

def BbpsStatus.text : BbpsStatus → String
  | .SUCCESS => "SUCCESS"
  | .FAILED => "FAILED"
  | .PENDING => "PENDING"
  | .TIMEOUT => "TIMEOUT"

structure BbpsPaymentRequest where
  billerCode : String
  consumerNumber : String
  amount : JsNumber
  deriving DecidableEq

structure BbpsPaymentResponse where
  status : BbpsStatus
  referenceId : Option String
  deriving DecidableEq

structure BillPayment where
  id : String
  billerCode : String
  consumerNumber : String
  amount : Amount
  status : String
  idempotencyKey : String
  keycloakUserId : Option String
  bbpsReferenceId : Option String
  deriving DecidableEq

/-- `payment.status = …; payment.bbpsReferenceId = … ?? payment.bbpsReferenceId`. -/
def BillPayment.answered (p : BillPayment) (resp : BbpsPaymentResponse) : BillPayment :=
  { p with
    status := resp.status.text
    bbpsReferenceId := resp.referenceId <|> p.bbpsReferenceId }

/-- A payment entity before its first save: no id yet, and the amount a number. -/
structure NewPayment where
  billerCode : String
  consumerNumber : String
  amount : JsNumber
  status : String
  idempotencyKey : String
  keycloakUserId : String
  bbpsReferenceId : Option String
  deriving DecidableEq

/-- The row of a new payment, under its generated id and its amount as the column holds it. -/
def NewPayment.row (new : NewPayment) (id : String) (amount : Amount) : BillPayment where
  id := id
  billerCode := new.billerCode
  consumerNumber := new.consumerNumber
  amount := amount
  status := new.status
  idempotencyKey := new.idempotencyKey
  keycloakUserId := some new.keycloakUserId
  bbpsReferenceId := new.bbpsReferenceId

/-! ## Requests -/

/-- JavaScript truthiness of an optional string. -/
def truthy : Option String → Bool
  | none => false
  | some s => s != ""

structure CreatePaymentDto where
  billNumber : Option String
  billerCode : Option String
  consumerNumber : Option String
  amount : Option String
  idempotencyKey : String
  deriving DecidableEq

structure FetchBillDto where
  billerCode : String
  consumerNumber : String
  registeredMobile : String
  deriving DecidableEq

/-- The claims of the caller's access token: `sub` when it is a string, `realm_access.roles` and
`roles` when they are present. -/
structure Actor where
  sub : Option String
  realmAccessRoles : Option (List String)
  roles : Option (List String)
  deriving DecidableEq

inductive ServiceError
  | badRequest (code message : String)
  | unauthorized (message : String)
  | notFound (code message : String)
  /-- A database write was rejected. -/
  | queryFailed
  /-- The call to BBPS was rejected. -/
  | bbpsFailed
  deriving DecidableEq

end Bbps
end IdentityBillpay
