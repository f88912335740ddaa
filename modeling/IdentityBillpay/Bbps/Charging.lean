import IdentityBillpay.Bbps.Ledger
import IdentityBillpay.Bbps.Settlement

/-!
# Charging — how often a bill is charged and how often a key is dispatched

`create` checks the bill's status and its key before it calls BBPS and records the call afterwards;
a retry checks the payment's own status only. Two laws hold as long as every call happens in turn:

* `bill_charged_once` — at most one `SUCCESS` answer for a pair of biller and consumer;
* `key_dispatched_once` — at most one BBPS call under an idempotency key.

`bill_charged_twice` and `key_dispatched_twice` are the runs that break them.
-/

namespace IdentityBillpay
namespace Bbps

open Async

/-! ## One charge for a bill -/

/-- BBPS answered `SUCCESS` to a call for the pair. -/
def charged (pair : String × String) : Awaited sig ServiceError → Bool
  | ⟨.pay req, .ok resp⟩ => req.pair = pair ∧ resp.status = .SUCCESS
  | _ => false

/-- A request holds a `SUCCESS` answer for the pair, has not saved a bill since, and has not
failed. -/
def unsettled (pair : String × String) (own : Own) : Bool :=
  own.any (charged pair) && own.all fun a => a.res.isOk && !a.op.isBillSave

/-- The condition under which a pair is charged in turn. -/
structure ChargesInTurn (pair : String × String) (h : History service)
    (e : Event sig ServiceError) : Prop where
  /-- Only the requests of users act. -/
  users : h.requests[e.who]? ≠ some .onModuleInit
  /-- BBPS is called for the pair only while its bill is `UNPAID` in the table. -/
  unpaid : ∀ req ∈ e.op.payRequest?, req.pair = pair →
    ∀ r ∈ Store.bills h.state, r.bill.pair = pair → r.bill.status = "UNPAID"
  /-- BBPS is called for the pair only while no other request has a `SUCCESS` answer to settle. -/
  alone : ∀ req ∈ e.op.payRequest?, req.pair = pair →
    ∀ j < h.requests.length, j ≠ e.who → unsettled pair (h.own j) = false
  /-- Nothing fails in a request that has a `SUCCESS` answer to settle. -/
  writes : unsettled pair (h.own e.who) = true → e.res.isOk = true

instance (pair : String × String) (h : History service) (e : Event sig ServiceError) :
    Decidable (ChargesInTurn pair h e) :=
  decidable_of_iff
    (h.requests[e.who]? ≠ some .onModuleInit ∧
      (∀ req ∈ e.op.payRequest?, req.pair = pair →
        ∀ r ∈ Store.bills h.state, r.bill.pair = pair → r.bill.status = "UNPAID") ∧
      (∀ req ∈ e.op.payRequest?, req.pair = pair →
        ∀ j < h.requests.length, j ≠ e.who → unsettled pair (h.own j) = false) ∧
      (unsettled pair (h.own e.who) = true → e.res.isOk = true))
    ⟨fun h => ⟨h.1, h.2.1, h.2.2.1, h.2.2.2⟩, fun h => ⟨h.users, h.unpaid, h.alone, h.writes⟩⟩

/-- The pair has a bill that says `PAID`. -/
def PairPaid (pair : String × String) (s : Store) : Prop :=
  ∃ r : BillingRecord, r ∈ s ∧ r.bill.pair = pair ∧ r.bill.status = "PAID"

theorem charged_iff {pair : String × String} {a : Awaited sig ServiceError} :
    charged pair a = true ↔ ∃ req resp, a = ⟨.pay req, .ok resp⟩ ∧ req.pair = pair ∧
      resp.status = .SUCCESS := by
  constructor
  · intro h
    unfold charged at h
    split at h
    · rename_i req resp
      exact ⟨req, resp, rfl, by simpa using h⟩
    · cases h
  · intro h
    rcases h with ⟨req, resp, rfl, hpair, hsuccess⟩
    simp [charged, hpair, hsuccess]

/-- A read is not a charge. -/
theorem charged_of_isRead {pair : String × String} {a : Awaited sig ServiceError}
    (h : a.op.isRead = true) : charged pair a = false := by
  by_contra hne
  rcases charged_iff.1 (by simpa using hne : charged pair a = true) with ⟨req, resp, rfl, _⟩
  simp [Op.isRead] at h

structure ChargeInv (pair : String × String) (h : History service) : Prop where
  copies : CopyInv h
  once : (h.selected fun _ => charged pair).length ≤ 1
  /-- Who was answered `SUCCESS` has still to settle the bill, or the bill is `PAID`. -/
  settled : ∀ j a, a ∈ h.own j → charged pair a = true →
    unsettled pair (h.own j) = true ∨ PairPaid pair h.state

section Step

variable {pair : String × String} {h : History service} {i : Nat} {r : Request} {op : Op}
  {ch : Choice}

/-- A create or a retry marks the bill of the pair it has charged. -/
theorem settles_pair (pair : String × String) (hI : CopyInv h) {rec : BillingRecord}
    (hop : Awaits r (h.own i) rec.save) (hr : r ≠ .onModuleInit) : rec.bill.status = "PAID" ∧
      ∀ a ∈ h.own i, charged pair a = true → rec.bill.pair = pair := by
  rcases awaits_save hop rfl with
    ⟨dto, actor, before, found, resp, sub, id, _, hselects, _, hown, rfl⟩ |
    ⟨id, actor, p, resp, reads, found, _, _, _, hlookup, hown, rfl⟩ | ⟨row, found, hseed, _⟩
  · -- `create`: it has made one payment, for the bill it saves.
    refine ⟨by simp, ?_⟩
    intro a ha hcharged
    rcases charged_iff.1 hcharged with ⟨req, resp', rfl, hpair, _⟩
    rw [hown] at ha
    rcases List.mem_append.1 ha with ha | ha
    · have hread := (hselects.isRead _ ha).1
      simp [Op.isRead] at hread
    · have hreq : req = found.bill.payRequest := by
        simp only [List.mem_cons, List.not_mem_nil, or_false] at ha
        rcases ha with ha | ha
        · injection ha with hpay _
          injection hpay
        · injection ha with hpay _
          cases hpay
      rw [← hpair, hreq]
      simp
  · -- `payViaBbps`: it saves a bill of the pair it has paid for.
    refine ⟨by simp, ?_⟩
    intro a ha hcharged
    rcases charged_iff.1 hcharged with ⟨req, resp', rfl, hpair, _⟩
    have hread : found.read (.pair p.billerCode p.consumerNumber) ∈ h.own i := by
      rw [hown]
      exact List.mem_append_right _ hlookup.read_mem
    have hfound := matches_pair.1 (hI i _ found (History.mem_own.1 hread)).1
    rw [hown] at ha
    rcases List.mem_append.1 ha with ha | ha
    · have hreq : req = p.payRequest := by
        simp only [retried, List.mem_cons, List.not_mem_nil, or_false] at ha
        rcases ha with ha | ha | ha
        · injection ha with hpay _
          cases hpay
        · injection ha with hpay _
          injection hpay
        · injection ha with hpay _
          cases hpay
      rw [← hpair, hreq]
      simpa using hfound
    · have hread := (hlookup.isRead _ ha).1
      simp [Op.isRead] at hread
  · exact absurd hseed hr

/-- A pair whose bill is `PAID` stays so, as long as the seeder does not act. -/
theorem pairPaid_kept (hI : CopyInv h) (hop : Awaits r (h.own i) op) (hr : r ≠ .onModuleInit)
    (ch : Choice) (hpaid : PairPaid pair h.state) : PairPaid pair (perform op ch h.state).2 := by
  rcases hpaid with ⟨x, hx, hpair, hstatus⟩
  rcases perform_bills_cases op ch h.state with hmem | ⟨saved, hsave, hmem⟩ |
    ⟨row, status, added, _, hmem⟩
  · exact ⟨x, (hmem x).2 hx, hpair, hstatus⟩
  · subst hsave
    by_cases hsame : x.SameRow saved
    · exact ⟨saved, (hmem saved).2 (.inl rfl), (pair_of_save hI hop hx hsame).trans hpair,
        (settles_pair pair hI hop hr).1⟩
    · exact ⟨x, (hmem x).2 (.inr ⟨hx, hsame⟩), hpair, hstatus⟩
  · exact ⟨x, (hmem x).2 (.inl hx), hpair, hstatus⟩

/-- After one operation, whoever was answered `SUCCESS` still has to settle or the bill is `PAID`. -/
theorem settled_perform (hI : ChargeInv pair h) (hop : Awaits r (h.own i) op)
    (hr : r ≠ .onModuleInit)
    (hC : ChargesInTurn pair h ⟨⟨op, (perform op ch h.state).1⟩, i⟩) (j : Nat)
    (a : Awaited sig ServiceError) (ha : a ∈ (h.perform i op ch).own j)
    (hcharged : charged pair a = true) :
    unsettled pair ((h.perform i op ch).own j) = true ∨
      PairPaid pair (h.perform i op ch).state := by
  by_cases hij : j = i
  · subst hij
    rw [History.perform_own_self] at ha ⊢
    rcases List.mem_append.1 ha with hold | hlast
    · -- The charge is an old one: open before this step, or settled already.
      rcases hI.settled j a hold hcharged with hopen | hpaid
      · have hok := hC.writes hopen
        by_cases hsave : op.isBillSave = true
        · -- The bill is saved now, under the pair that was charged.
          right
          have hrec : ∃ rec : BillingRecord, op = rec.save := by
            cases op with
            | saveMockBill b => exact ⟨.mock b, rfl⟩
            | saveDemo d => exact ⟨.demo d, rfl⟩
            | _ => simp [Op.isBillSave] at hsave
          rcases hrec with ⟨rec, rfl⟩
          rcases settles_pair pair hI.copies hop hr with ⟨hstatus, hpair⟩
          rcases perform_save rec ch h.state with herr | ⟨u, s', hsaved, _, hmem⟩
          · simp [herr, Except.isOk, Except.toBool] at hok
          · refine ⟨rec, ?_, hpair a hold hcharged, hstatus⟩
            rw [History.perform_state, service_perform, hsaved]
            exact (hmem rec).2 (.inl rfl)
        · left
          -- The step saves no bill, so the charge stays open.
          have hparts : (h.own j).any (charged pair) = true ∧
              (h.own j).all (fun a => a.res.isOk && !a.op.isBillSave) = true := by
            simpa only [unsettled, Bool.and_eq_true] using hopen
          have hnosave : op.isBillSave = false := by simpa using hsave
          simp only [unsettled, List.any_append, List.all_append, hparts.1, hparts.2, List.all_cons,
            List.all_nil, hnosave, Bool.true_or, Bool.and_true, Bool.true_and, Bool.not_false]
          exact hok
      · exact .inr (pairPaid_kept hI.copies hop hr ch hpaid)
    · -- The answer has just come in: the request has only read before.
      left
      have hnew : a = ⟨op, (perform op ch h.state).1⟩ := by simpa using hlast
      rcases charged_iff.1 hcharged with ⟨req, resp, hpay, hpair, hsuccess⟩
      have hevent : (⟨op, (perform op ch h.state).1⟩ : Awaited sig ServiceError) =
          ⟨.pay req, .ok resp⟩ := hnew.symm.trans hpay
      have hreq : op = .pay req := by injection hevent
      have hreads := isRead_of_awaits_pay hop hreq
      rw [hevent]
      simp only [unsettled, List.any_append, List.all_append, Bool.and_eq_true, Bool.or_eq_true]
      refine ⟨.inr (by simp [charged, hpair, hsuccess]), ?_, by
        simp [Op.isBillSave, Except.isOk, Except.toBool]⟩
      rw [List.all_eq_true]
      intro b hb
      rcases hreads b hb with ⟨hread, hok⟩
      have hnosave : b.op.isBillSave = false := isBillSave_of_isRead hread
      simp [hok, hnosave]
  · rw [History.perform_own_ne _ _ _ hij] at ha ⊢
    exact (hI.settled j a ha hcharged).imp_right (pairPaid_kept hI.copies hop hr ch)

/-- One operation keeps the invariant, if the pair is charged in turn. -/
theorem chargeInv_perform (hattr : h.Attributed) (hI : ChargeInv pair h)
    (hr : h.requests[i]? = some r) (hop : Awaits r (h.own i) op)
    (hC : ChargesInTurn pair h ⟨⟨op, (perform op ch h.state).1⟩, i⟩) :
    ChargeInv pair (h.perform i op ch) := by
  have huser : r ≠ .onModuleInit := by
    intro hseed
    exact hC.users (by rw [hr, hseed])
  refine ⟨copyInv_perform hI.copies hop ch, ?_, settled_perform hI hop huser hC⟩
  refine History.selected_length_perform hr hI.once ?_
  intro hcharged
  rcases charged_iff.1 hcharged with ⟨req, resp, hevent, hpair, _⟩
  have hreq : op = .pay req := by injection hevent
  have hmem : req ∈ op.payRequest? := by simp [hreq, Op.payRequest?]
  -- An earlier charge would have left a request to settle it, or a bill that is `PAID`.
  refine List.eq_nil_iff_forall_not_mem.2 fun e he => ?_
  rcases History.mem_selected.1 he with ⟨htrace, _, _, hearlier⟩
  have hown : e.toAwaited ∈ h.own e.who := History.mem_own.2 htrace
  rcases hI.settled e.who e.toAwaited hown hearlier with hopen | ⟨x, hx, hxpair, hxpaid⟩
  · by_cases hwho : e.who = i
    · rw [hwho] at hown
      have hread := (isRead_of_awaits_pay hop hreq _ hown).1
      rw [charged_of_isRead hread] at hearlier
      cases hearlier
    · have halone := hC.alone req hmem hpair e.who (hattr e htrace) hwho
      rw [hopen] at halone
      cases halone
  · have hunpaid := hC.unpaid req hmem hpair x (mem_bills.2 hx) hxpair
    rw [hxpaid] at hunpaid
    cases (by decide : "PAID" ≠ "UNPAID") hunpaid

end Step

theorem chargeInv_start {pair : String × String} {h : History service} (hattr : h.Attributed)
    (hI : ChargeInv pair h) (r : Request) : ChargeInv pair (h.start r) where
  copies := hI.copies
  once := by
    rw [History.selected_start hattr]
    exact hI.once
  settled := hI.settled

/-- A bill is charged at most once. In a run in which the pair is charged in turn, at most one BBPS
call for it is answered `SUCCESS`. -/
theorem bill_charged_once (s : Store) (pair : String × String) (as : List (Action service))
    (hC : Config.Meets (ChargesInTurn pair) (Config.initial service s) as) :
    (((Config.initial service s).run as).selected fun _ => charged pair).length ≤ 1 := by
  have hinit : ChargeInv pair (Config.initial service s).toHistory :=
    ⟨copyInv_initial s, by simp [History.selected, Config.initial], by
      intro j a ha
      simp [History.own, Config.initial] at ha⟩
  have hend : ChargeInv pair ((Config.initial service s).run as).toHistory := by
    refine Config.run_induction follows_program ?_ ?_ hinit as hC
    · exact fun h r hattr hI => chargeInv_start hattr hI r
    · exact fun h i r op ch hattr hI hr hop hC => chargeInv_perform hattr hI hr hop hC
  exact hend.once

/-- Two creates pay the bill one after the other, under different keys. BBPS leaves the first open
and answers `SUCCESS` to the second. -/
def openThenPaid : List (Action service) :=
  [.start (.create (sampleBody "key-1") sampleCustomer), .resume 0 .plain, .resume 0 .plain,
    .resume 0 (.answers .PENDING none), .resume 0 (.inserts "payment-1"),
    .start (.create (sampleBody "key-2") sampleCustomer), .resume 1 .plain, .resume 1 .plain,
    .resume 1 (.answers .SUCCESS (some "BBPS-1")), .resume 1 (.inserts "payment-2"),
    .resume 1 .plain]

theorem bill_charged_once_openThenPaid :
    (((Config.initial service unpaidStore).run openThenPaid).selected
      fun _ => charged sampleBill.pair).length ≤ 1 :=
  bill_charged_once unpaidStore sampleBill.pair openThenPaid (by decide)

/-- The open payment is then retried, and BBPS answers `SUCCESS` again: the bill, the only one of
its pair and unpaid at the start, is charged twice. -/
theorem bill_charged_twice :
    unpaidStore.bills = [.mock { sampleBill with }] ∧ sampleBill.status = "UNPAID" ∧
    unpaidStore.payments.rows = [] ∧
    (((Config.initial service unpaidStore).run (openThenPaid ++
      [.start (.payViaBbps "payment-1" sampleCustomer), .resume 2 .plain,
        .resume 2 (.answers .SUCCESS (some "BBPS-2"))])).selected
      fun _ => charged sampleBill.pair).length = 2 := by
  decide

/-! ## One dispatch under a key -/

/-- A create under the given key. -/
def Request.hasKey (key : String) : Request → Bool
  | .create dto _ => dto.idempotencyKey = key
  | _ => false

/-- A BBPS call made by a create under the key. -/
def dispatches (key : String) (r : Request) (a : Awaited sig ServiceError) : Bool :=
  r.hasKey key && a.op.payRequest?.isSome

/-- The request has its answer from BBPS and has not inserted the payment yet. -/
def inDispatch (own : Own) : Bool :=
  match own.getLast? with
  | some ⟨.pay _, .ok _⟩ => true
  | _ => false

/-- The insert of a payment by a create under the key. -/
def inserts (key : String) (r : Request) (a : Awaited sig ServiceError) : Bool :=
  r.hasKey key && a.op.newPayment?.isSome

/-- The condition under which a key is dispatched in turn. -/
structure DispatchesInTurn (key : String) (h : History service) (e : Event sig ServiceError) :
    Prop where
  /-- BBPS is called under the key only while no payment has it. -/
  unused : h.marks (dispatches key) e = true →
    ∀ p ∈ h.state.payments.rows, p.idempotencyKey ≠ key
  /-- BBPS is called under the key only while no other create under it waits to insert. -/
  alone : h.marks (dispatches key) e = true → ∀ j < h.requests.length, j ≠ e.who →
    h.requests[j]?.any (Request.hasKey key) = true → inDispatch (h.own j) = false
  /-- Neither the BBPS call nor the insert of a create under the key fails. -/
  succeeds : h.marks (dispatches key) e = true ∨ h.marks (inserts key) e = true →
    e.res.isOk = true

instance (key : String) (h : History service) (e : Event sig ServiceError) :
    Decidable (DispatchesInTurn key h e) :=
  decidable_of_iff
    ((h.marks (dispatches key) e = true → ∀ p ∈ h.state.payments.rows, p.idempotencyKey ≠ key) ∧
      (h.marks (dispatches key) e = true → ∀ j < h.requests.length, j ≠ e.who →
        h.requests[j]?.any (Request.hasKey key) = true → inDispatch (h.own j) = false) ∧
      (h.marks (dispatches key) e = true ∨ h.marks (inserts key) e = true → e.res.isOk = true))
    ⟨fun h => ⟨h.1, h.2.1, h.2.2⟩, fun h => ⟨h.unused, h.alone, h.succeeds⟩⟩

theorem inDispatch_iff {own : Own} : inDispatch own = true ↔
    ∃ before req resp, own = before ++ [⟨.pay req, .ok resp⟩] := by
  constructor
  · intro h
    unfold inDispatch at h
    split at h
    · rename_i req resp hlast
      rcases List.getLast?_eq_some_iff.1 hlast with ⟨before, hown⟩
      exact ⟨before, req, resp, hown⟩
    · cases h
  · intro h
    rcases h with ⟨before, req, resp, rfl⟩
    simp [inDispatch]

/-- A create that has its answer inserts the payment next, under its own key. -/
theorem insert_of_inDispatch {dto : CreatePaymentDto} {actor : Actor} {own : Own} {op : Op}
    (h : CreateAwaits dto actor own op) (hown : inDispatch own = true) :
    ∃ new, op = .insertPayment new ∧ new.idempotencyKey = dto.idempotencyKey := by
  rcases inDispatch_iff.1 hown with ⟨before, req, resp, hlast⟩
  have hmem : (⟨.pay req, .ok resp⟩ : Awaited sig ServiceError) ∈ own := by simp [hlast]
  have hgetLast : own.getLast? = some ⟨.pay req, .ok resp⟩ := by simp [hlast]
  cases h with
  | keyLookup hnil => simp [hnil] at hmem
  | findMockBill hread => simp [hread, keyLookup] at hmem
  | findDemo hread => simp [hread, keyLookup] at hmem
  | pay hselects =>
      have hread := (hselects.isRead _ hmem).1
      simp [Op.isRead] at hread
  | insert hselects hsub hpay => exact ⟨_, rfl, rfl⟩
  | settle hselects hsub hsuccess hpay => simp [hpay] at hgetLast

structure DispatchInv (s : Store) (key : String) (h : History service) : Prop where
  ledger : LedgerInv s h
  once : (h.selected (dispatches key)).length ≤ 1
  /-- A create under the key that has called BBPS waits to insert, or the key is in the table. -/
  recorded : ∀ j, h.requests[j]?.any (Request.hasKey key) = true → ∀ a ∈ h.own j,
    a.op.payRequest?.isSome = true →
      inDispatch (h.own j) = true ∨ ∃ p ∈ h.state.payments, p.idempotencyKey = key

section Dispatch

variable {s : Store} {key : String} {h : History service} {i : Nat} {r : Request} {op : Op}
  {ch : Choice}

theorem key_kept (hI : LedgerInv s h) (hop : Awaits r (h.own i) op) (ch : Choice)
    (hkey : ∃ p ∈ h.state.payments, p.idempotencyKey = key) :
    ∃ p ∈ (perform op ch h.state).2.payments, p.idempotencyKey = key := by
  rcases hkey with ⟨p, hp, hpkey⟩
  rcases entry_kept hI hop ch hp with ⟨q, hq, hqp⟩
  exact ⟨q, hq, (congrArg LedgerEntry.idempotencyKey hqp).trans hpkey⟩

/-- After one operation, a create under the key that has called BBPS waits to insert or has left
its row. -/
theorem recorded_perform (hI : DispatchInv s key h) (hr : h.requests[i]? = some r)
    (hop : Awaits r (h.own i) op)
    (hC : DispatchesInTurn key h ⟨⟨op, (perform op ch h.state).1⟩, i⟩) (j : Nat)
    (hkey : h.requests[j]?.any (Request.hasKey key) = true) (a : Awaited sig ServiceError)
    (ha : a ∈ (h.perform i op ch).own j) (hpay : a.op.payRequest?.isSome = true) :
    inDispatch ((h.perform i op ch).own j) = true ∨
      ∃ p ∈ (h.perform i op ch).state.payments, p.idempotencyKey = key := by
  by_cases hij : j = i
  · subst hij
    rw [History.perform_own_self] at ha ⊢
    rcases List.mem_append.1 ha with hold | hlast
    · rcases hI.recorded j hkey a hold hpay with hwaits | hstored
      · -- The create has its answer, so this is its insert, and it does not fail.
        right
        have hcreate : ∃ dto actor, r = .create dto actor ∧ dto.idempotencyKey = key := by
          rw [hr] at hkey
          cases r with
          | create dto actor => exact ⟨dto, actor, rfl, by simpa [Request.hasKey] using hkey⟩
          | _ => simp [Request.hasKey] at hkey
        rcases hcreate with ⟨dto, actor, rfl, hdto⟩
        rcases insert_of_inDispatch hop hwaits with ⟨new, rfl, hnew⟩
        have hinserts : h.marks (inserts key)
            ⟨⟨.insertPayment new, (perform (.insertPayment new) ch h.state).1⟩, j⟩ = true := by
          rw [History.marks, hr]
          simp [inserts, Request.hasKey, hdto, Op.newPayment?]
        have hok := hC.succeeds (.inr hinserts)
        rcases perform_insertPayment new ch h.state with herr | ⟨t, amount, hres, _, _, _, hmem⟩
        · simp [herr, Except.isOk, Except.toBool] at hok
        · refine ⟨new.row ch.freshId amount, ?_, hnew.trans hdto⟩
          rw [History.perform_state, service_perform, hres]
          exact (hmem _).2 (.inr rfl)
      · exact .inr (key_kept hI.ledger hop ch hstored)
    · left
      -- The call to the bank is this step; it succeeds, so the create has its answer.
      have hnew : a = ⟨op, (perform op ch h.state).1⟩ := by simpa using hlast
      have hop' : op.payRequest?.isSome = true := by rw [hnew] at hpay; exact hpay
      have hdispatches : h.marks (dispatches key)
          ⟨⟨op, (perform op ch h.state).1⟩, j⟩ = true := by
        rw [hr] at hkey
        rw [History.marks, hr]
        simpa [dispatches, hop'] using hkey
      have hok := hC.succeeds (.inl hdispatches)
      cases op with
      | pay req =>
          cases hres : (perform (.pay req) ch h.state).1 with
          | ok resp => exact inDispatch_iff.2 ⟨_, req, resp, rfl⟩
          | error e => simp [hres, Except.isOk, Except.toBool] at hok
      | _ => simp [Op.payRequest?] at hop'
  · rw [History.perform_own_ne _ _ _ hij] at ha ⊢
    exact (hI.recorded j hkey a ha hpay).imp_right (key_kept hI.ledger hop ch)

/-- One operation keeps the invariant, if the key is dispatched in turn. -/
theorem dispatchInv_perform (hattr : h.Attributed) (hI : DispatchInv s key h)
    (hr : h.requests[i]? = some r) (hop : Awaits r (h.own i) op)
    (hC : DispatchesInTurn key h ⟨⟨op, (perform op ch h.state).1⟩, i⟩) :
    DispatchInv s key (h.perform i op ch) := by
  refine ⟨ledgerInv_perform hI.ledger hr hop ch, ?_, recorded_perform hI hr hop hC⟩
  refine History.selected_length_perform hr hI.once ?_
  intro hmark
  have hparts : r.hasKey key = true ∧ op.payRequest?.isSome = true := by
    simpa [dispatches] using hmark
  have hmarks : h.marks (dispatches key) ⟨⟨op, (perform op ch h.state).1⟩, i⟩ = true := by
    rw [History.marks, hr]
    exact hmark
  rcases Option.isSome_iff_exists.1 hparts.2 with ⟨req, hreq⟩
  have hop' : op = .pay req := by
    cases op with
    | pay req' => simpa [Op.payRequest?] using hreq
    | _ => simp [Op.payRequest?] at hreq
  -- An earlier dispatch would have left a create that waits to insert, or a row under the key.
  refine List.eq_nil_iff_forall_not_mem.2 fun e he => ?_
  rcases History.mem_selected.1 he with ⟨htrace, r', hr', hearlier⟩
  have hparts' : r'.hasKey key = true ∧ e.op.payRequest?.isSome = true := by
    simpa [dispatches] using hearlier
  have hkey' : h.requests[e.who]?.any (Request.hasKey key) = true := by
    rw [hr']
    exact hparts'.1
  have hown : e.toAwaited ∈ h.own e.who := History.mem_own.2 htrace
  rcases hI.recorded e.who hkey' e.toAwaited hown hparts'.2 with hwaits | ⟨p, hp, hpkey⟩
  · by_cases hwho : e.who = i
    · rw [hwho] at hown
      have hread := (isRead_of_awaits_pay hop hop' _ hown).1
      have hpay := hparts'.2
      cases hop'' : e.op with
      | pay req' => simp [hop'', Op.isRead] at hread
      | _ => simp [hop'', Op.payRequest?] at hpay
    · have halone := hC.alone hmarks e.who (hattr e htrace) hwho hkey'
      rw [hwaits] at halone
      cases halone
  · exact hC.unused hmarks p hp hpkey

theorem dispatchInv_start (hattr : h.Attributed) (hI : DispatchInv s key h) (r : Request) :
    DispatchInv s key (h.start r) := by
  refine ⟨ledgerInv_start hI.ledger r, ?_, ?_⟩
  · rw [History.selected_start hattr]
    exact hI.once
  · intro j hkey a ha hpay
    rcases (Option.any_eq_true _ _).1 hkey with ⟨r', hr', hkey'⟩
    rcases History.start_requests_cases hr' with hr' | ⟨hj, _⟩
    · exact hI.recorded j (by rw [hr']; exact hkey') a ha hpay
    · -- The request just started has no events.
      rw [History.start_own, hattr.own_eq_nil (Nat.le_of_eq hj.symm)] at ha
      cases ha

end Dispatch

/-- One idempotency key never dispatches twice. In a run in which the key is dispatched in turn, the
creates under it call BBPS at most once. -/
theorem key_dispatched_once (s : Store) (key : String) (as : List (Action service))
    (hC : Config.Meets (DispatchesInTurn key) (Config.initial service s) as) :
    (((Config.initial service s).run as).selected (dispatches key)).length ≤ 1 := by
  have hinit : DispatchInv s key (Config.initial service s).toHistory :=
    ⟨ledgerInv_initial s, by simp [History.selected, Config.initial], by
      intro j hkey a ha
      simp [History.own, Config.initial] at ha⟩
  have hend : DispatchInv s key ((Config.initial service s).run as).toHistory := by
    refine Config.run_induction follows_program ?_ ?_ hinit as hC
    · exact fun h r hattr hI => dispatchInv_start hattr hI r
    · exact fun h i r op ch hattr hI hr hop hC => dispatchInv_perform hattr hI hr hop hC
  exact hend.once

/-- A create and, after it, its replay. -/
def createThenReplay : List (Action service) :=
  [.start (.create (sampleBody "key-1") sampleCustomer), .resume 0 .plain, .resume 0 .plain,
    .resume 0 (.answers .PENDING none), .resume 0 .plain,
    .start (.create (sampleBody "key-1") sampleCustomer), .resume 1 .plain, .resume 1 .plain]

theorem key_dispatched_once_createThenReplay :
    (((Config.initial service unpaidStore).run createThenReplay).selected
      (dispatches "key-1")).length ≤ 1 :=
  key_dispatched_once unpaidStore "key-1" createThenReplay (by decide)

/-- Two creates with one key and one body: both look the key up before either of them inserts, so
both call BBPS. -/
theorem key_dispatched_twice :
    (((Config.initial service unpaidStore).run
      [.start (.create (sampleBody "key-1") sampleCustomer),
        .start (.create (sampleBody "key-1") sampleCustomer), .resume 0 .plain, .resume 1 .plain,
        .resume 0 .plain, .resume 1 .plain, .resume 0 (.answers .SUCCESS (some "BBPS-1")),
        .resume 1 (.answers .SUCCESS (some "BBPS-2"))]).selected
      (dispatches "key-1")).length = 2 := by
  decide

end Bbps
end IdentityBillpay
