import IdentityBillpay.Bbps.PaymentService

/-!
# BbpsCatalogSeeder — seeding the catalog at start-up

`onModuleInit` of `bbps-catalog.seeder.ts`: for each entry, upsert its biller, its mock bill and its
demo row. A bill keeps the status `PAID` it was read with and is reset to `UNPAID` otherwise.
-/

namespace IdentityBillpay
namespace Bbps

/-- Two billers per category. Amounts count hundredths. -/
def BBPS_CATALOG : List BbpsCatalogEntry :=
  [ { billerCode := "ELEC-MSEDCL-01"
      billerName := "Maharashtra State Electricity (MSEDCL)"
      category := "ELECTRICITY"
      consumerNumber := "100000000001"
      registeredMobile := "9000000001"
      billNumber := "BBPS-ELEC-001"
      customerName := "Demo Customer Elec 1"
      amount := ⟨125050, by decide⟩
      dueDate := "2026-12-31" },
    { billerCode := "ELEC-BESCOM-01"
      billerName := "BESCOM Electricity"
      category := "ELECTRICITY"
      consumerNumber := "100000000002"
      registeredMobile := "9000000002"
      billNumber := "BBPS-ELEC-002"
      customerName := "Demo Customer Elec 2"
      amount := ⟨98000, by decide⟩
      dueDate := "2026-12-31" },
    { billerCode := "GAS-GAIL-01"
      billerName := "GAIL Gas"
      category := "GAS"
      consumerNumber := "100000000011"
      registeredMobile := "9000000011"
      billNumber := "BBPS-GAS-001"
      customerName := "Demo Customer Gas 1"
      amount := ⟨90000, by decide⟩
      dueDate := "2026-12-31" },
    { billerCode := "GAS-IGL-01"
      billerName := "Indraprastha Gas (IGL)"
      category := "GAS"
      consumerNumber := "100000000012"
      registeredMobile := "9000000012"
      billNumber := "BBPS-GAS-002"
      customerName := "Demo Customer Gas 2"
      amount := ⟨65075, by decide⟩
      dueDate := "2026-12-31" },
    { billerCode := "WATER-DJB-01"
      billerName := "Delhi Jal Board"
      category := "WATER"
      consumerNumber := "100000000021"
      registeredMobile := "9000000021"
      billNumber := "BBPS-WATER-001"
      customerName := "Demo Customer Water 1"
      amount := ⟨48000, by decide⟩
      dueDate := "2026-12-31" },
    { billerCode := "WATER-BWSSB-01"
      billerName := "Bangalore Water Supply (BWSSB)"
      category := "WATER"
      consumerNumber := "100000000022"
      registeredMobile := "9000000022"
      billNumber := "BBPS-WATER-002"
      customerName := "Demo Customer Water 2"
      amount := ⟨52025, by decide⟩
      dueDate := "2026-12-31" } ]

/-- The status a seeded bill gets: `PAID` only where the existing row says so. -/
def seededStatus (existing : Option Bill) : String :=
  if existing.map Bill.status = some "PAID" then "PAID" else "UNPAID"

def upsertBiller (row : BbpsCatalogEntry) : Prog Unit := do
  let existing : Option BillerRegistration ← call (.findBiller (.code row.billerCode))
  match existing with
  | some existing =>
      call (.saveBiller
        { existing with
          billerName := row.billerName
          category := row.category
          active := true })
  | none => call (.insertBiller row)

def upsertMockBill (row : BbpsCatalogEntry) : Prog Unit := do
  let existing : Option MockBill ←
    call (.findMockBill (.pair row.billerCode row.consumerNumber))
  match existing with
  | some bill => call (.saveMockBill (row.mockBill bill.id (seededStatus (some bill.toBill))))
  | none => call (.insertMockBill row (seededStatus none))

def upsertDemo (row : BbpsCatalogEntry) : Prog Unit := do
  let existing : Option DemoBbpsData ← call (.findDemo (.pair row.billerCode row.consumerNumber))
  match existing with
  | some bill => call (.saveDemo (row.demoBill bill.id (seededStatus (some bill.toBill))))
  | none => call (.insertDemo row (seededStatus none))

/-- The loop of `onModuleInit` over the entries left to seed. -/
def seedAll : List BbpsCatalogEntry → Prog Unit
  | [] => return ()
  | row :: rows => do
      upsertBiller row
      upsertMockBill row
      upsertDemo row
      seedAll rows

def onModuleInit : Prog Unit :=
  seedAll BBPS_CATALOG

end Bbps
end IdentityBillpay
