import IdentityBillpay.Async.Program
import IdentityBillpay.Bbps.Entities

/-!
# Store — the database and BBPS as the bill payment module sees them

* `Store` — the four tables under their declared constraints;
* `Op`, `backend` — the repository calls and the BBPS call, each one atomic;
* `Store.Finds` — what the lookup "mock bill first, then demo data" comes to;
* `perform_payments_cases`, `perform_bills_cases` — all that one operation can do to the tables.
-/

namespace IdentityBillpay
namespace Bbps

open Async

/-- The unique constraints are those the entities declare: bills are unique by
`(billerCode, consumerNumber)`, payments by their idempotency key. -/
structure Store where
  payments : Sql.Table BillPayment.id BillPayment.idempotencyKey
  mockBills : Sql.Table (fun b : MockBill => b.id) (fun b : MockBill => b.pair)
  demoBills : Sql.Table (fun d : DemoBbpsData => d.id) (fun d : DemoBbpsData => d.pair)
  billers : Sql.Table BillerRegistration.id BillerRegistration.id

instance : Membership BillingRecord Store where
  mem s r :=
    match r with
    | .mock b => b ∈ s.mockBills
    | .demo d => d ∈ s.demoBills

@[simp] theorem mem_mock {s : Store} {b : MockBill} :
    BillingRecord.mock b ∈ s ↔ b ∈ s.mockBills := Iff.rfl

@[simp] theorem mem_demo {s : Store} {d : DemoBbpsData} :
    BillingRecord.demo d ∈ s ↔ d ∈ s.demoBills := Iff.rfl

/-- All bill rows, of both tables. -/
def Store.bills (s : Store) : List BillingRecord :=
  s.mockBills.rows.map .mock ++ s.demoBills.rows.map .demo

theorem mem_bills {s : Store} {r : BillingRecord} : r ∈ s.bills ↔ r ∈ s := by
  cases r with
  | mock b => simp [Store.bills, Sql.Table.mem_rows]
  | demo d => simp [Store.bills, Sql.Table.mem_rows]

/-- Two records are states of one row. -/
def BillingRecord.SameRow : BillingRecord → BillingRecord → Prop
  | .mock b, .mock b' => b.id = b'.id
  | .demo d, .demo d' => d.id = d'.id
  | _, _ => False

theorem BillingRecord.sameRow_refl (r : BillingRecord) : r.SameRow r := by
  cases r with
  | mock b => rfl
  | demo d => rfl

theorem BillingRecord.SameRow.symm {r r' : BillingRecord} (h : r.SameRow r') : r'.SameRow r := by
  cases r with
  | mock b =>
      cases r' with
      | mock b' => exact Eq.symm (α := String) h
      | demo d' => exact h.elim
  | demo d =>
      cases r' with
      | mock b' => exact h.elim
      | demo d' => exact Eq.symm (α := String) h

theorem BillingRecord.SameRow.trans {r r' r'' : BillingRecord} (h : r.SameRow r')
    (h' : r'.SameRow r'') : r.SameRow r'' := by
  cases r with
  | mock b =>
      cases r' with
      | mock b' =>
          cases r'' with
          | mock b'' => exact Eq.trans (α := String) h h'
          | demo d'' => exact h'.elim
      | demo d' => exact h.elim
  | demo d =>
      cases r' with
      | mock b' => exact h.elim
      | demo d' =>
          cases r'' with
          | mock b'' => exact h'.elim
          | demo d'' => exact Eq.trans (α := String) h h'

@[simp] theorem sameRow_setStatus {r r' : BillingRecord} {status : String} :
    r.SameRow (r'.setStatus status) ↔ r.SameRow r' := by
  cases r' with
  | mock b => cases r <;> rfl
  | demo d => cases r <;> rfl

theorem eq_of_sameRow {s : Store} {r r' : BillingRecord} (hr : r ∈ s) (hr' : r' ∈ s)
    (h : r.SameRow r') : r = r' := by
  cases r with
  | mock b =>
      cases r' with
      | mock b' => rw [Sql.Table.eq_of_id (t := s.mockBills) hr hr' h]
      | demo d' => exact h.elim
  | demo d =>
      cases r' with
      | mock b' => exact h.elim
      | demo d' => rw [Sql.Table.eq_of_id (t := s.demoBills) hr hr' h]

/-! ## Operations -/

/-- The `where` clauses by which billers are looked up. -/
inductive BillerWhere
  | code (billerCode : String)
  | active (billerCode : String)
  deriving DecidableEq

def BillerWhere.matches : BillerWhere → BillerRegistration → Bool
  | .code billerCode, b => b.billerCode == billerCode
  | .active billerCode, b => b.billerCode == billerCode && b.active

/-- What a program of the module can await. `save` of an entity without an id is an `insert`. -/
inductive Op
  | findPayment (id : String)
  | findPaymentByKey (idempotencyKey : String)
  | findPayments (keycloakUserId : Option String)
  | insertPayment (payment : NewPayment)
  | savePayment (payment : BillPayment)
  | findMockBill (query : BillWhere)
  | findDemo (query : BillWhere)
  | saveMockBill (bill : MockBill)
  | saveDemo (bill : DemoBbpsData)
  | insertMockBill (row : BbpsCatalogEntry) (status : String)
  | insertDemo (row : BbpsCatalogEntry) (status : String)
  | findBiller (query : BillerWhere)
  | saveBiller (biller : BillerRegistration)
  | insertBiller (row : BbpsCatalogEntry)
  | pay (request : BbpsPaymentRequest)
  deriving DecidableEq

abbrev Op.Res : Op → Type
  | .findPayment _ => Option BillPayment
  | .findPaymentByKey _ => Option BillPayment
  | .findPayments _ => List BillPayment
  | .insertPayment _ => String
  | .findMockBill _ => Option MockBill
  | .findDemo _ => Option DemoBbpsData
  | .findBiller _ => Option BillerRegistration
  -- The bank answers what it likes; no table of this service changes.
  | .pay _ => BbpsPaymentResponse
  | _ => Unit

instance : (op : Op) → DecidableEq op.Res
  | .findPayment _ | .findPaymentByKey _ => inferInstanceAs (DecidableEq (Option BillPayment))
  | .findPayments _ => inferInstanceAs (DecidableEq (List BillPayment))
  | .insertPayment _ => inferInstanceAs (DecidableEq String)
  | .findMockBill _ => inferInstanceAs (DecidableEq (Option MockBill))
  | .findDemo _ => inferInstanceAs (DecidableEq (Option DemoBbpsData))
  | .findBiller _ => inferInstanceAs (DecidableEq (Option BillerRegistration))
  | .pay _ => inferInstanceAs (DecidableEq BbpsPaymentResponse)
  | .savePayment _ | .saveMockBill _ | .saveDemo _ | .saveBiller _ =>
      inferInstanceAs (DecidableEq Unit)
  | .insertMockBill _ _ | .insertDemo _ _ | .insertBiller _ => inferInstanceAs (DecidableEq Unit)

abbrev sig : Signature := ⟨Op, Op.Res⟩

abbrev Prog (α : Type) := Program sig ServiceError α

/-- `await` of one operation. -/
abbrev call (op : Op) : Prog op.Res := @Program.call sig ServiceError op

/-- An operation that changes nothing. -/
def Op.isRead : Op → Bool
  | .findPayment _ | .findPaymentByKey _ | .findPayments _ => true
  | .findMockBill _ | .findDemo _ | .findBiller _ => true
  | _ => false

/-- The payment an operation overwrites. -/
def Op.savedPayment? : Op → Option BillPayment
  | .savePayment payment => some payment
  | _ => none

/-- The BBPS call an operation makes. -/
def Op.payRequest? : Op → Option BbpsPaymentRequest
  | .pay request => some request
  | _ => none

/-- The payment an operation inserts. -/
def Op.newPayment? : Op → Option NewPayment
  | .insertPayment payment => some payment
  | _ => none

def Op.isBillSave : Op → Bool
  | .saveMockBill _ | .saveDemo _ => true
  | _ => false

theorem isBillSave_of_isRead {op : Op} (h : op.isRead = true) : op.isBillSave = false := by
  cases op with
  | saveMockBill b => simp [Op.isRead] at h
  | saveDemo d => simp [Op.isRead] at h
  | _ => rfl

/-- The save of a billing record, in the repository of its source. -/
def BillingRecord.save : BillingRecord → Op
  | .mock b => .saveMockBill b
  | .demo d => .saveDemo d

/-- What the environment decides about one operation: which matching row is found, whether a
write fails, what BBPS answers (if it answers), and the id generated for an insert. -/
structure Choice where
  pick : Nat
  fails : Bool
  answer : Option BbpsPaymentResponse
  freshId : String

/-- The values of a new payment fit their `VARCHAR` columns. -/
def NewPayment.fits (new : NewPayment) : Bool :=
  new.idempotencyKey.length ≤ 255 && new.keycloakUserId.length ≤ 36 &&
    (new.bbpsReferenceId.getD "").length ≤ 255

/-- A write: the new state when the table accepts it and the database does not fail. -/
def write {α : Type} (ch : Choice) (s : Store) (accepted : Option Store) (result : α) :
    Except ServiceError α × Store :=
  match accepted with
  | some s' => if ch.fails then (.error .queryFailed, s) else (.ok result, s')
  | none => (.error .queryFailed, s)

def insertPayment? (s : Store) (new : NewPayment) (id : String) : Option Store :=
  if new.fits then
    (Sql.Decimal.ofNumber new.amount).bind fun amount =>
      (s.payments.insert? (new.row id amount)).map fun t => { s with payments := t }
  else none

def savePayment? (s : Store) (p : BillPayment) : Option Store :=
  if (p.bbpsReferenceId.getD "").length ≤ 255 then
    (s.payments.save? p).map fun t => { s with payments := t }
  else none

def perform (op : Op) (ch : Choice) (s : Store) : Except ServiceError op.Res × Store :=
  match op with
  | .findPayment id => (.ok (s.payments.findOne (fun p => p.id == id) ch.pick), s)
  | .findPaymentByKey key =>
      (.ok (s.payments.findOne (fun p => p.idempotencyKey == key) ch.pick), s)
  | .findPayments none => (.ok s.payments.rows, s)
  | .findPayments (some sub) =>
      (.ok (s.payments.find fun p => p.keycloakUserId == some sub), s)
  | .insertPayment new => write ch s (insertPayment? s new ch.freshId) ch.freshId
  | .savePayment p => write ch s (savePayment? s p) ()
  | .findMockBill q => (.ok (s.mockBills.findOne (fun b => q.matches b.toBill) ch.pick), s)
  | .findDemo q => (.ok (s.demoBills.findOne (fun d => q.matches d.toBill) ch.pick), s)
  | .saveMockBill b => write ch s ((s.mockBills.save? b).map fun t => { s with mockBills := t }) ()
  | .saveDemo d => write ch s ((s.demoBills.save? d).map fun t => { s with demoBills := t }) ()
  | .insertMockBill row status =>
      write ch s ((s.mockBills.insert? (row.mockBill ch.freshId status)).map fun t =>
        { s with mockBills := t }) ()
  | .insertDemo row status =>
      write ch s ((s.demoBills.insert? (row.demoBill ch.freshId status)).map fun t =>
        { s with demoBills := t }) ()
  | .findBiller q => (.ok (s.billers.findOne (fun b => q.matches b) ch.pick), s)
  | .saveBiller b => write ch s ((s.billers.save? b).map fun t => { s with billers := t }) ()
  | .insertBiller row =>
      write ch s ((s.billers.insert? (row.biller ch.freshId)).map fun t =>
        { s with billers := t }) ()
  | .pay _ =>
      match ch.answer with
      | some response => (.ok response, s)
      | none => (.error .bbpsFailed, s)

abbrev backend : Backend sig ServiceError := ⟨Store, Choice, perform⟩

/-! ## What an operation does -/

theorem write_cases {α : Type} (ch : Choice) (s : Store) (accepted : Option Store) (result : α) :
    write ch s accepted result = (.error .queryFailed, s) ∨
      ∃ s', accepted = some s' ∧ write ch s accepted result = (.ok result, s') := by
  cases accepted with
  | none => exact .inl rfl
  | some s' =>
      cases hfails : ch.fails with
      | true => simp [write, hfails]
      | false => simp [write, hfails]

@[simp] theorem perform_findPayment (id : String) (ch : Choice) (s : Store) :
    perform (.findPayment id) ch s =
      (.ok (s.payments.findOne (fun p => p.id == id) ch.pick), s) := rfl

@[simp] theorem perform_findPaymentByKey (key : String) (ch : Choice) (s : Store) :
    perform (.findPaymentByKey key) ch s =
      (.ok (s.payments.findOne (fun p => p.idempotencyKey == key) ch.pick), s) := rfl

@[simp] theorem perform_findMockBill (q : BillWhere) (ch : Choice) (s : Store) :
    perform (.findMockBill q) ch s =
      (.ok (s.mockBills.findOne (fun b => q.matches b.toBill) ch.pick), s) := rfl

@[simp] theorem perform_findDemo (q : BillWhere) (ch : Choice) (s : Store) :
    perform (.findDemo q) ch s =
      (.ok (s.demoBills.findOne (fun d => q.matches d.toBill) ch.pick), s) := rfl

@[simp] theorem perform_findBiller (q : BillerWhere) (ch : Choice) (s : Store) :
    perform (.findBiller q) ch s = (.ok (s.billers.findOne (fun b => q.matches b) ch.pick), s) :=
  rfl

@[simp] theorem perform_pay_state (req : BbpsPaymentRequest) (ch : Choice) (s : Store) :
    (perform (.pay req) ch s).2 = s := by
  cases hans : ch.answer with
  | none => simp [perform, hans]
  | some response => simp [perform, hans]

theorem perform_read {op : Op} (h : op.isRead = true) (ch : Choice) (s : Store) :
    (perform op ch s).2 = s := by
  cases op with
  | findPayments sub =>
      cases sub with
      | none => rfl
      | some sub => rfl
  | _ => first | rfl | simp [Op.isRead] at h

/-- An inserted payment is a new row under an unused id and an unused key. -/
theorem perform_insertPayment (new : NewPayment) (ch : Choice) (s : Store) :
    perform (.insertPayment new) ch s = (.error .queryFailed, s) ∨
      ∃ t amount, perform (.insertPayment new) ch s =
          (.ok ch.freshId, { s with payments := t }) ∧
        Sql.Decimal.ofNumber new.amount = some amount ∧ new.fits = true ∧
        (∀ p ∈ s.payments, p.id ≠ ch.freshId ∧ p.idempotencyKey ≠ new.idempotencyKey) ∧
        ∀ p, p ∈ t ↔ p ∈ s.payments ∨ p = new.row ch.freshId amount := by
  rcases write_cases ch s (insertPayment? s new ch.freshId) ch.freshId with h | ⟨s', hs', h⟩
  · exact .inl h
  · right
    unfold insertPayment? at hs'
    split at hs'
    · rename_i hfits
      rcases Option.bind_eq_some_iff.1 hs' with ⟨amount, hamount, hs'⟩
      rcases Option.map_eq_some_iff.1 hs' with ⟨t, ht, rfl⟩
      exact ⟨t, amount, h, hamount, hfits, fun p hp => Sql.Table.insert?_fresh ht hp,
        fun p => Sql.Table.mem_insert? ht⟩
    · cases hs'

theorem perform_savePayment (p : BillPayment) (ch : Choice) (s : Store) :
    perform (.savePayment p) ch s = (.error .queryFailed, s) ∨
      ∃ t, perform (.savePayment p) ch s = (.ok (), { s with payments := t }) ∧
        ∀ x, x ∈ t ↔ x = p ∨ (x ∈ s.payments ∧ x.id ≠ p.id) := by
  rcases write_cases ch s (savePayment? s p) () with h | ⟨s', hs', h⟩
  · exact .inl h
  · right
    unfold savePayment? at hs'
    split at hs'
    · rcases Option.map_eq_some_iff.1 hs' with ⟨t, ht, rfl⟩
      exact ⟨t, h, fun x => Sql.Table.mem_save? ht⟩
    · cases hs'

theorem perform_save (r : BillingRecord) (ch : Choice) (s : Store) :
    perform r.save ch s = (.error .queryFailed, s) ∨
      ∃ u s', perform r.save ch s = (.ok u, s') ∧ s'.payments = s.payments ∧
        ∀ x, x ∈ s' ↔ x = r ∨ (x ∈ s ∧ ¬ x.SameRow r) := by
  cases r with
  | mock b =>
      rcases write_cases ch s ((s.mockBills.save? b).map fun t => { s with mockBills := t }) ()
        with h | ⟨s', hs', h⟩
      · exact .inl h
      · right
        rcases Option.map_eq_some_iff.1 hs' with ⟨t, ht, rfl⟩
        refine ⟨(), _, h, rfl, ?_⟩
        intro x
        cases x with
        | mock b' => simpa [BillingRecord.SameRow] using Sql.Table.mem_save? ht
        | demo d' => simp [BillingRecord.SameRow]
  | demo d =>
      rcases write_cases ch s ((s.demoBills.save? d).map fun t => { s with demoBills := t }) ()
        with h | ⟨s', hs', h⟩
      · exact .inl h
      · right
        rcases Option.map_eq_some_iff.1 hs' with ⟨t, ht, rfl⟩
        refine ⟨(), _, h, rfl, ?_⟩
        intro x
        cases x with
        | mock b' => simp [BillingRecord.SameRow]
        | demo d' => simpa [BillingRecord.SameRow] using Sql.Table.mem_save? ht

theorem perform_insertMockBill (row : BbpsCatalogEntry) (status : String) (ch : Choice)
    (s : Store) :
    perform (.insertMockBill row status) ch s = (.error .queryFailed, s) ∨
      ∃ t, perform (.insertMockBill row status) ch s = (.ok (), { s with mockBills := t }) ∧
        ∀ b, b ∈ t ↔ b ∈ s.mockBills ∨ b = row.mockBill ch.freshId status := by
  rcases write_cases ch s ((s.mockBills.insert? (row.mockBill ch.freshId status)).map fun t =>
    { s with mockBills := t }) () with h | ⟨s', hs', h⟩
  · exact .inl h
  · right
    rcases Option.map_eq_some_iff.1 hs' with ⟨t, ht, rfl⟩
    exact ⟨t, h, fun b => Sql.Table.mem_insert? ht⟩

theorem perform_insertDemo (row : BbpsCatalogEntry) (status : String) (ch : Choice) (s : Store) :
    perform (.insertDemo row status) ch s = (.error .queryFailed, s) ∨
      ∃ t, perform (.insertDemo row status) ch s = (.ok (), { s with demoBills := t }) ∧
        ∀ d, d ∈ t ↔ d ∈ s.demoBills ∨ d = row.demoBill ch.freshId status := by
  rcases write_cases ch s ((s.demoBills.insert? (row.demoBill ch.freshId status)).map fun t =>
    { s with demoBills := t }) () with h | ⟨s', hs', h⟩
  · exact .inl h
  · right
    rcases Option.map_eq_some_iff.1 hs' with ⟨t, ht, rfl⟩
    exact ⟨t, h, fun d => Sql.Table.mem_insert? ht⟩

/-- Writing a biller touches neither payments nor bills. -/
theorem perform_biller {op : Op}
    (h : (∃ b, op = .saveBiller b) ∨ ∃ row, op = .insertBiller row) (ch : Choice) (s : Store) :
    ∃ t, (perform op ch s).2 = { s with billers := t } := by
  rcases h with ⟨b, rfl⟩ | ⟨row, rfl⟩
  · rcases write_cases ch s ((s.billers.save? b).map fun t => { s with billers := t }) ()
      with h | ⟨s', hs', h⟩
    · exact ⟨s.billers, congrArg Prod.snd h⟩
    · rcases Option.map_eq_some_iff.1 hs' with ⟨t, _, rfl⟩
      exact ⟨t, congrArg Prod.snd h⟩
  · rcases write_cases ch s ((s.billers.insert? (row.biller ch.freshId)).map fun t =>
      { s with billers := t }) () with h | ⟨s', hs', h⟩
    · exact ⟨s.billers, congrArg Prod.snd h⟩
    · rcases Option.map_eq_some_iff.1 hs' with ⟨t, _, rfl⟩
      exact ⟨t, congrArg Prod.snd h⟩

/-! ## The effect on one kind of table -/

/-- The payment table is written by the two payment writes only. -/
theorem perform_payments_eq {op : Op} (hinsert : ∀ new, op ≠ .insertPayment new)
    (hsave : ∀ p, op ≠ .savePayment p) (ch : Choice) (s : Store) :
    (perform op ch s).2.payments = s.payments := by
  by_cases hread : op.isRead = true
  · rw [perform_read hread]
  · cases op with
    | insertPayment new => exact absurd rfl (hinsert new)
    | savePayment p => exact absurd rfl (hsave p)
    | saveMockBill b =>
        rcases perform_save (.mock b) ch s with h | ⟨u, s', h, hpay, _⟩
        · exact congrArg (fun r => r.2.payments) h
        · exact (congrArg (fun r => r.2.payments) h).trans hpay
    | saveDemo d =>
        rcases perform_save (.demo d) ch s with h | ⟨u, s', h, hpay, _⟩
        · exact congrArg (fun r => r.2.payments) h
        · exact (congrArg (fun r => r.2.payments) h).trans hpay
    | insertMockBill row status =>
        rcases perform_insertMockBill row status ch s with h | ⟨t, h, _⟩
        · rw [h]
        · rw [h]
    | insertDemo row status =>
        rcases perform_insertDemo row status ch s with h | ⟨t, h, _⟩
        · rw [h]
        · rw [h]
    | saveBiller b =>
        rcases perform_biller (.inl ⟨b, rfl⟩) ch s with ⟨t, h⟩
        rw [h]
    | insertBiller row =>
        rcases perform_biller (.inr ⟨row, rfl⟩) ch s with ⟨t, h⟩
        rw [h]
    | pay req => rw [perform_pay_state]
    | _ => exact absurd rfl hread

/-- Everything one operation can do to the payments. -/
theorem perform_payments_cases (op : Op) (ch : Choice) (s : Store) :
    (perform op ch s).2.payments = s.payments ∨
    (∃ p, op = .savePayment p ∧ (perform (.savePayment p) ch s).1 = .ok () ∧
      ∀ x, x ∈ (perform op ch s).2.payments ↔ x = p ∨ (x ∈ s.payments ∧ x.id ≠ p.id)) ∨
    ∃ new amount, op = .insertPayment new ∧
      (perform (.insertPayment new) ch s).1 = .ok ch.freshId ∧
      Sql.Decimal.ofNumber new.amount = some amount ∧
      (∀ p ∈ s.payments, p.id ≠ ch.freshId ∧ p.idempotencyKey ≠ new.idempotencyKey) ∧
      ∀ x, x ∈ (perform op ch s).2.payments ↔
        x ∈ s.payments ∨ x = new.row ch.freshId amount := by
  by_cases hinsert : ∃ new, op = .insertPayment new
  · rcases hinsert with ⟨new, rfl⟩
    rcases perform_insertPayment new ch s with h | ⟨t, amount, h, hamount, _, hfresh, hmem⟩
    · left
      rw [h]
    · right
      right
      refine ⟨new, amount, rfl, congrArg Prod.fst h, hamount, hfresh, ?_⟩
      rw [h]
      exact hmem
  · by_cases hsave : ∃ p, op = .savePayment p
    · rcases hsave with ⟨p, rfl⟩
      rcases perform_savePayment p ch s with h | ⟨t, h, hmem⟩
      · left
        rw [h]
      · right
        left
        refine ⟨p, rfl, congrArg Prod.fst h, ?_⟩
        rw [h]
        exact hmem
    · left
      exact perform_payments_eq (fun new h => hinsert ⟨new, h⟩) (fun p h => hsave ⟨p, h⟩) ch s

/-- Everything one operation can do to the bills: overwrite one row, add one row, or nothing. -/
theorem perform_bills_cases (op : Op) (ch : Choice) (s : Store) :
    (∀ x : BillingRecord, x ∈ (perform op ch s).2 ↔ x ∈ s) ∨
    (∃ r : BillingRecord, op = r.save ∧
      ∀ x : BillingRecord, x ∈ (perform op ch s).2 ↔ x = r ∨ (x ∈ s ∧ ¬ x.SameRow r)) ∨
    ∃ row status r, (op = .insertMockBill row status ∧
        r = BillingRecord.mock (row.mockBill ch.freshId status) ∨
      op = .insertDemo row status ∧ r = .demo (row.demoBill ch.freshId status)) ∧
      ∀ x : BillingRecord, x ∈ (perform op ch s).2 ↔ x ∈ s ∨ x = r := by
  have hsave : ∀ r : BillingRecord, op = r.save →
      (∀ x : BillingRecord, x ∈ (perform op ch s).2 ↔ x ∈ s) ∨
      (∃ r : BillingRecord, op = r.save ∧
        ∀ x : BillingRecord, x ∈ (perform op ch s).2 ↔ x = r ∨ (x ∈ s ∧ ¬ x.SameRow r)) := by
    intro r hop
    subst hop
    rcases perform_save r ch s with h | ⟨u, s', h, _, hmem⟩
    · left
      intro x
      rw [h]
    · right
      refine ⟨r, rfl, ?_⟩
      rw [h]
      exact hmem
  -- The writes of the two tables of bills.
  cases op with
  | saveMockBill b =>
      rcases hsave (.mock b) rfl with h | h
      · exact .inl h
      · exact .inr (.inl h)
  | saveDemo d =>
      rcases hsave (.demo d) rfl with h | h
      · exact .inl h
      · exact .inr (.inl h)
  | insertMockBill row status =>
      rcases perform_insertMockBill row status ch s with h | ⟨t, h, hmem⟩
      · left
        intro x
        rw [h]
      · right
        right
        refine ⟨row, status, _, .inl ⟨rfl, rfl⟩, ?_⟩
        rw [h]
        intro x
        cases x with
        | mock b => simpa using hmem b
        | demo d => simp
  | insertDemo row status =>
      rcases perform_insertDemo row status ch s with h | ⟨t, h, hmem⟩
      · left
        intro x
        rw [h]
      · right
        right
        refine ⟨row, status, _, .inr ⟨rfl, rfl⟩, ?_⟩
        rw [h]
        intro x
        cases x with
        | mock b => simp
        | demo d => simpa using hmem d
  -- The other writes are to payments and billers.
  | insertPayment new =>
      left
      rcases perform_insertPayment new ch s with h | ⟨t, amount, h, _⟩
      · rw [h]
        exact fun x => Iff.rfl
      · rw [h]
        exact fun x => by cases x <;> rfl
  | savePayment p =>
      left
      rcases perform_savePayment p ch s with h | ⟨t, h, _⟩
      · rw [h]
        exact fun x => Iff.rfl
      · rw [h]
        exact fun x => by cases x <;> rfl
  | saveBiller b =>
      left
      rcases perform_biller (.inl ⟨b, rfl⟩) ch s with ⟨t, h⟩
      rw [h]
      exact fun x => by cases x <;> rfl
  | insertBiller row =>
      left
      rcases perform_biller (.inr ⟨row, rfl⟩) ch s with ⟨t, h⟩
      rw [h]
      exact fun x => by cases x <;> rfl
  | pay req =>
      left
      rw [perform_pay_state]
      exact fun x => Iff.rfl
  | _ =>
      left
      rw [perform_read rfl]
      exact fun x => Iff.rfl

/-! ## Finding a bill -/

/-- What "the mock bill that matches, else the demo row that matches" can come to. -/
inductive Store.Finds (s : Store) (q : BillWhere) : Option BillingRecord → Prop
  | mock {b : MockBill} (hb : b ∈ s.mockBills) (hq : q.matches b.toBill = true) :
      Finds s q (some (.mock b))
  | demo {d : DemoBbpsData} (hmock : ∀ b ∈ s.mockBills, q.matches b.toBill = false)
      (hd : d ∈ s.demoBills) (hq : q.matches d.toBill = true) : Finds s q (some (.demo d))
  | none (hmock : ∀ b ∈ s.mockBills, q.matches b.toBill = false)
      (hdemo : ∀ d ∈ s.demoBills, q.matches d.toBill = false) : Finds s q none

theorem Store.Finds.mem {s : Store} {q : BillWhere} {r : BillingRecord}
    (h : s.Finds q (some r)) : r ∈ s ∧ q.matches r.bill = true := by
  cases h with
  | mock hb hq => exact ⟨hb, hq⟩
  | demo hmock hd hq => exact ⟨hd, hq⟩

/-- By `(billerCode, consumerNumber)` at most one bill can be found. -/
theorem Store.Finds.unique {s : Store} {billerCode consumerNumber : String}
    {found found' : Option BillingRecord} (h : s.Finds (.pair billerCode consumerNumber) found)
    (h' : s.Finds (.pair billerCode consumerNumber) found') : found = found' := by
  cases h with
  | @mock b hb hq =>
      cases h' with
      | @mock b' hb' hq' =>
          have hkey := (matches_pair.1 hq).trans (matches_pair.1 hq').symm
          rw [Sql.Table.eq_of_key (t := s.mockBills) hb hb' hkey]
      | demo hmock hd hq' => exact absurd hq (by simp [hmock b hb])
      | none hmock hdemo => exact absurd hq (by simp [hmock b hb])
  | @demo d hmock hd hq =>
      cases h' with
      | @mock b' hb' hq' => exact absurd hq' (by simp [hmock b' hb'])
      | @demo d' hmock' hd' hq' =>
          have hkey := (matches_pair.1 hq).trans (matches_pair.1 hq').symm
          rw [Sql.Table.eq_of_key (t := s.demoBills) hd hd' hkey]
      | none hmock' hdemo => exact absurd hq (by simp [hdemo d hd])
  | none hmock hdemo =>
      cases h' with
      | @mock b' hb' hq' => exact absurd hq' (by simp [hmock b' hb'])
      | @demo d' hmock' hd' hq' => exact absurd hq' (by simp [hdemo d' hd'])
      | none hmock' hdemo' => rfl

end Bbps
end IdentityBillpay
