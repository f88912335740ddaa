import IdentityBillpay.Bbps.PaymentService

/-!
# BillService — fetching a bill

`fetchBill` of `bill.service.ts`: the mock bill of an active biller, else the demo row, matched by
biller, consumer and registered mobile.
-/

namespace IdentityBillpay
namespace Bbps

/-- What `fetchBill` returns. -/
structure FetchedBill where
  billerCode : String
  billerName : String
  consumerNumber : String
  billNumber : String
  customerName : String
  registeredMobile : String
  amount : Amount
  dueDate : String
  status : String
  deriving DecidableEq

def Bill.fetched (bill : Bill) (billerName : String) : FetchedBill where
  billerCode := bill.billerCode
  billerName := billerName
  consumerNumber := bill.consumerNumber
  billNumber := bill.billNumber
  customerName := bill.customerName
  registeredMobile := bill.registeredMobile
  amount := bill.amount
  dueDate := bill.dueDate
  status := bill.status

def FetchBillDto.billWhere (dto : FetchBillDto) : BillWhere :=
  .registered dto.billerCode dto.consumerNumber dto.registeredMobile

/-- The fallback to the demo rows. -/
def fetchDemo (dto : FetchBillDto) : Prog FetchedBill := do
  let demo : Option DemoBbpsData ← call (.findDemo dto.billWhere)
  match demo with
  | none => throw (.notFound "BILL_NOT_FOUND" "Bill not found")
  | some demo => return demo.fetched demo.billerName

def fetchBill (dto : FetchBillDto) : Prog FetchedBill := do
  let biller : Option BillerRegistration ← call (.findBiller (.active dto.billerCode))
  match biller with
  | none => fetchDemo dto
  | some biller => do
      let bill : Option MockBill ← call (.findMockBill dto.billWhere)
      match bill with
      | some bill => return bill.fetched biller.billerName
      | none => fetchDemo dto

end Bbps
end IdentityBillpay
