import IdentityBillpay.Bbps.PaymentProtocol

/-!
# Alone — a create or a retry that nobody interrupts

`CreateSettles` and `RetrySettles` list the events of a request. When the request runs alone, its
events also say what the tables hold at each point.

* `performed_reads`, `Lookup.performed`, `Selects.performed` — reading changes nothing, and what is
  read is what the tables hold;
* `insertPayment_isOk`, `savePayment_isOk`, `save_isOk` — exactly when a write succeeds;
* `create_alone`, `payViaBbps_alone` — the events of a whole request, tied to the tables.
-/

namespace IdentityBillpay
namespace Bbps

open Async Async.Program

variable {choices : Nat → Choice} {s m : Store} {own : Own}

/-! ## Reads -/

/-- The first operation of a run, and the rest from the state it leads to. -/
theorem performed_op {op : Op} {r : Except ServiceError op.Res} {as : Own} :
    Performed backend choices s (⟨op, r⟩ :: as) m ↔
      r = (perform op (choices 0) s).1 ∧
        Performed backend (fun n => choices (n + 1)) (perform op (choices 0) s).2 as m :=
  performed_cons

/-- A read always succeeds. -/
theorem perform_read_ok {op : Op} (h : op.isRead = true) (ch : Choice) (s : Store) :
    ∃ v, (perform op ch s).1 = .ok v := by
  cases op with
  | findPayments sub =>
      cases sub with
      | none => exact ⟨_, rfl⟩
      | some sub => exact ⟨_, rfl⟩
  | _ => first | exact ⟨_, rfl⟩ | simp [Op.isRead] at h

/-- Reads leave the state as it is. -/
theorem performed_reads (h : Performed backend choices s own m)
    (hread : ∀ a ∈ own, a.op.isRead = true) : m = s :=
  h.unchanged fun a ha ch m => perform_read (hread a ha) ch m

/-- No read of a request that runs alone is rejected. -/
theorem not_readFailed (h : Performed backend choices s own m) : ¬ ReadFailed own := by
  intro hfailed
  rcases hfailed with ⟨op, e, hread, hmem⟩
  rcases h.outcome hmem with ⟨before, after, m, _, _, hres⟩
  rcases perform_read_ok hread (choices before.length) m with ⟨v, hv⟩
  have herr : (perform op (choices before.length) m).1 = .error e := hres.symm
  rw [hv] at herr
  cases herr

/-- How many tables a lookup reads: the demo table is read when no mock bill matches. -/
def Store.lookupLength (s : Store) (q : BillWhere) : Nat :=
  if ∃ b ∈ s.mockBills, q.matches b.toBill = true then 1 else 2

/-- A lookup finds what the tables hold. -/
theorem Lookup.performed {q : BillWhere} {found : Option BillingRecord} (h : Lookup q own found)
    (hp : Performed backend choices s own m) :
    m = s ∧ s.Finds q found ∧ own.length = s.lookupLength q := by
  refine ⟨performed_reads hp fun a ha => (h.isRead a ha).1, ?_⟩
  cases h with
  | mock b =>
      have hmock := (performed_cons.1 hp).1
      have hb := Sql.Table.findOne_some (Except.ok.inj hmock).symm
      have hsome : ∃ b ∈ s.mockBills, q.matches b.toBill = true := ⟨b, hb.1, hb.2⟩
      exact ⟨.mock hb.1 hb.2, by simp [Store.lookupLength, hsome]⟩
  | demo d =>
      rcases performed_cons.1 hp with ⟨hmock, hp⟩
      have hdemo := (performed_cons.1 hp).1
      have hnone := Sql.Table.findOne_eq_none.1 (Except.ok.inj hmock).symm
      have hd := Sql.Table.findOne_some (Except.ok.inj hdemo).symm
      have hlength : ¬ ∃ b ∈ s.mockBills, q.matches b.toBill = true := by
        rintro ⟨b, hb, hq⟩
        simp [hnone b hb] at hq
      exact ⟨.demo hnone hd.1 hd.2, by simp [Store.lookupLength, hlength]⟩
  | none =>
      rcases performed_cons.1 hp with ⟨hmock, hp⟩
      have hdemo := (performed_cons.1 hp).1
      have hnone := Sql.Table.findOne_eq_none.1 (Except.ok.inj hmock).symm
      have hlength : ¬ ∃ b ∈ s.mockBills, q.matches b.toBill = true := by
        rintro ⟨b, hb, hq⟩
        simp [hnone b hb] at hq
      exact ⟨.none hnone (Sql.Table.findOne_eq_none.1 (Except.ok.inj hdemo).symm),
        by simp [Store.lookupLength, hlength]⟩

/-- What a lookup finds when its reads pick the given positions. -/
def Store.lookup (s : Store) (q : BillWhere) (pick pick' : Nat) : Option BillingRecord :=
  match s.mockBills.findOne (fun b => q.matches b.toBill) pick with
  | some b => some (.mock b)
  | none => (s.demoBills.findOne (fun d => q.matches d.toBill) pick').map .demo

theorem Lookup.found_eq {q : BillWhere} {found : Option BillingRecord} (h : Lookup q own found)
    (hp : Performed backend choices s own m) :
    found = s.lookup q (choices 0).pick (choices 1).pick := by
  unfold Store.lookup
  cases h with
  | mock b =>
      have hmock := Except.ok.inj (performed_op.1 hp).1
      rw [← hmock]
  | demo d =>
      rcases performed_op.1 hp with ⟨hmock, hrest⟩
      have hdemo : Except.ok (some d) = (perform (.findDemo q) (choices 1) s).1 := (performed_op.1 hrest).1
      rw [← Except.ok.inj hmock, ← Except.ok.inj hdemo]
      rfl
  | none =>
      rcases performed_op.1 hp with ⟨hmock, hrest⟩
      have hdemo : Except.ok Option.none = (perform (.findDemo q) (choices 1) s).1 := (performed_op.1 hrest).1
      rw [← Except.ok.inj hmock, ← Except.ok.inj hdemo]
      rfl

/-- Whatever can be found is found under some choice. -/
theorem Store.Finds.exists_lookup {q : BillWhere} {r : BillingRecord} (h : s.Finds q (some r)) :
    ∃ pick, s.lookup q pick pick = some r := by
  cases h with
  | @mock b hb hq =>
      rcases Sql.Table.exists_findOne (p := fun b : MockBill => q.matches b.toBill) hb hq with
        ⟨pick, hpick⟩
      exact ⟨pick, by simp [Store.lookup, hpick]⟩
  | @demo d hmock hd hq =>
      rcases Sql.Table.exists_findOne (p := fun d : DemoBbpsData => q.matches d.toBill) hd hq with
        ⟨pick, hpick⟩
      have hnone : s.mockBills.findOne (fun b => q.matches b.toBill) pick = Option.none :=
        Sql.Table.findOne_eq_none.2 hmock
      exact ⟨pick, by simp [Store.lookup, hnone, hpick]⟩

/-- A lookup reads no record but the one it finds. -/
theorem Lookup.read_unique {q q' : BillWhere} {found : Option BillingRecord} {r : BillingRecord}
    (h : Lookup q own found) (hread : r.read q' ∈ own) : found = some r ∧ q' = q := by
  cases r with
  | mock b =>
      cases h with
      | mock b' => simpa [BillingRecord.read, eq_comm, and_comm] using hread
      | demo d => simp [BillingRecord.read] at hread
      | none => simp [BillingRecord.read] at hread
  | demo d =>
      cases h with
      | mock b' => simp [BillingRecord.read] at hread
      | demo d' => simpa [BillingRecord.read, eq_comm, and_comm] using hread
      | none => simp [BillingRecord.read] at hread

/-- A payment found by its key is stored under that key. -/
theorem performed_keyLookup {dto : CreatePaymentDto} {existing : Option BillPayment}
    (hp : Performed backend choices s (keyLookup dto existing :: own) m) :
    (∀ p, existing = some p → p ∈ s.payments ∧ p.idempotencyKey = dto.idempotencyKey) ∧
      Performed backend (fun n => choices (n + 1)) s own m := by
  rcases performed_op.1 hp with ⟨hkey, hrest⟩
  refine ⟨?_, hrest⟩
  rintro p rfl
  have hfound := Sql.Table.findOne_some (Except.ok.inj hkey).symm
  exact ⟨hfound.1, by simpa using hfound.2⟩

/-- Under a new key nothing is replayed. -/
theorem not_replayed {dto : CreatePaymentDto} (hp : Performed backend choices s own m)
    (hunused : ∀ p ∈ s.payments, p.idempotencyKey ≠ dto.idempotencyKey) {existing : BillPayment}
    {rest : Own} : own ≠ keyLookup dto (some existing) :: rest := by
  rintro rfl
  rcases (performed_keyLookup hp).1 existing rfl with ⟨hmem, hkey⟩
  exact hunused existing hmem hkey

/-- A lookup that finds nothing matches no record. -/
theorem not_matches_of_finds_none {q : BillWhere} (h : s.Finds q none) {r : BillingRecord}
    (hr : r ∈ s) : q.matches r.bill = false := by
  cases h with
  | none hmock hdemo =>
      cases r with
      | mock b => exact hmock b hr
      | demo d => exact hdemo d hr

/-- No mock bill with the record's pair stands before it. -/
def Store.Unshadowed (s : Store) (r : BillingRecord) : Prop :=
  ∀ b ∈ s.mockBills, b.pair = r.bill.pair → r = .mock b

/-- The pair of a stored record finds the record itself, unless a mock bill shadows it. -/
theorem finds_pair {found : BillingRecord} (hfound : found ∈ s) {billerCode consumerNumber : String}
    (hpair : found.bill.pair = (billerCode, consumerNumber)) :
    s.Finds (.pair billerCode consumerNumber) (some found) ↔
      s.Unshadowed found := by
  cases found with
  | mock b =>
      constructor
      · intro _ b' hb' hbpair
        rw [Sql.Table.eq_of_key (t := s.mockBills) hb' hfound hbpair]
      · exact fun _ => .mock hfound (matches_pair.2 hpair)
  | demo d =>
      constructor
      · intro h b hb hbpair
        cases h with
        | demo hmock hd hq =>
            have hfalse := hmock b hb
            rw [matches_pair.2 (hbpair.trans hpair)] at hfalse
            cases hfalse
      · intro h
        refine .demo ?_ hfound (matches_pair.2 hpair)
        intro b hb
        by_contra hne
        have hbpair : b.pair = (billerCode, consumerNumber) := matches_pair.1 (by simpa using hne)
        cases h b hb (hbpair.trans hpair.symm)

/-- A create that selects a bill has found its key unused and the bill in the tables. -/
theorem Selects.performed {dto : CreatePaymentDto} {found : BillingRecord}
    (h : Selects dto own found) (hp : Performed backend choices s own m) :
    m = s ∧ (∀ p ∈ s.payments, p.idempotencyKey ≠ dto.idempotencyKey) ∧
      s.Finds dto.billWhere (some found) ∧ own.length = 1 + s.lookupLength dto.billWhere := by
  rcases h.reads with ⟨reads, hlookup, rfl⟩
  rcases performed_cons.1 hp with ⟨hkey, hp⟩
  have hunused := Sql.Table.findOne_eq_none.1 (Except.ok.inj hkey).symm
  rcases hlookup.performed hp with ⟨hm, hfinds, hlength⟩
  refine ⟨hm, ?_, hfinds, ?_⟩
  · intro p hp hpkey
    simpa [hpkey] using hunused p hp
  · rw [List.length_cons, hlength, Nat.add_comm]
    rfl

/-! ## Writes -/

section Writes

variable {ch : Choice}

theorem write_isOk {α : Type} {accepted : Option Store} {result : α} :
    (write ch s accepted result).1.isOk = true ↔ ch.fails = false ∧ accepted.isSome = true := by
  cases accepted with
  | none => simp [write, Except.isOk, Except.toBool]
  | some s' =>
      cases hfails : ch.fails with
      | true => simp [write, hfails, Except.isOk, Except.toBool]
      | false => simp [write, hfails, Except.isOk, Except.toBool]

/-- An insert succeeds when its values fit, its id and key are unused and the database does not
fail. -/
theorem insertPayment_isOk (ch : Choice) {new : NewPayment} {amount : Amount}
    (hamount : Sql.Decimal.ofNumber new.amount = some amount) :
    (perform (.insertPayment new) ch s).1.isOk = true ↔
      ch.fails = false ∧ new.fits = true ∧
        ∀ p ∈ s.payments, p.id ≠ ch.freshId ∧ p.idempotencyKey ≠ new.idempotencyKey := by
  refine write_isOk.trans (and_congr_right fun _ => ?_)
  unfold insertPayment?
  by_cases hfits : new.fits = true
  · rw [if_pos hfits, hamount]
    simp only [Option.bind_some, Option.isSome_map, hfits, true_and]
    constructor
    · intro h
      rcases Option.isSome_iff_exists.1 h with ⟨t, ht⟩
      exact fun p hp => Sql.Table.insert?_fresh ht hp
    · intro h
      rcases Sql.Table.exists_insert? (r := new.row ch.freshId amount) (fun p hp => (h p hp).1)
        (fun p hp => (h p hp).2) with ⟨t, ht⟩
      rw [ht]
      rfl
  · simp [hfits]

/-- Saving over a stored payment succeeds when its reference fits and the database does not
fail. -/
theorem savePayment_isOk (ch : Choice) {p q : BillPayment} (hp : p ∈ s.payments) (hid : p.id = q.id)
    (hkey : p.idempotencyKey = q.idempotencyKey) :
    (perform (.savePayment q) ch s).1.isOk = true ↔
      ch.fails = false ∧ (q.bbpsReferenceId.getD "").length ≤ 255 := by
  refine write_isOk.trans (and_congr_right fun _ => ?_)
  unfold savePayment?
  by_cases hfits : (q.bbpsReferenceId.getD "").length ≤ 255
  · rcases Sql.Table.exists_save? hp hid hkey with ⟨t, ht⟩
    simp [hfits, ht]
  · simp [hfits]

/-- Saving over a stored bill without changing its pair succeeds when the database does not
fail. -/
theorem save_isOk {r x : BillingRecord} (hx : x ∈ s) (hsame : x.SameRow r)
    (hpair : x.bill.pair = r.bill.pair) :
    (perform r.save ch s).1.isOk = true ↔ ch.fails = false := by
  cases r with
  | mock b =>
      cases x with
      | mock b' =>
          rcases Sql.Table.exists_save? (t := s.mockBills) hx hsame hpair with ⟨t, ht⟩
          refine write_isOk.trans ?_
          simp [ht]
      | demo d => exact hsame.elim
  | demo d =>
      cases x with
      | mock b => exact hsame.elim
      | demo d' =>
          rcases Sql.Table.exists_save? (t := s.demoBills) hx hsame hpair with ⟨t, ht⟩
          refine write_isOk.trans ?_
          simp [ht]

/-- Marking a stored record `PAID` succeeds when the database does not fail. -/
theorem markPaid_isOk {r : BillingRecord} (hr : r ∈ s) :
    (perform (r.setStatus "PAID").save ch s).1.isOk = true ↔ ch.fails = false := by
  exact save_isOk hr (sameRow_setStatus.2 r.sameRow_refl) (by simp)

/-- After the save of a stored record as `PAID` its row says `PAID`, unless the save fails and the
row did not say so before. -/
theorem markPaid_settles (ch : Choice) {r : BillingRecord} (hr : r ∈ s) :
    (∃ x ∈ (perform (r.setStatus "PAID").save ch s).2, x.SameRow r ∧ x.bill.status = "PAID") ↔
      (r.bill.status ≠ "PAID" → ch.fails = false) := by
  have hsame : (r.setStatus "PAID").SameRow r :=
    (sameRow_setStatus.2 r.sameRow_refl).symm
  rcases perform_save (r.setStatus "PAID") ch s with herr | ⟨u, s', hres, _, hmem⟩
  · have hfails : ¬ ch.fails = false := by
      rw [← markPaid_isOk hr, herr]
      simp [Except.isOk, Except.toBool]
    rw [herr]
    constructor
    · intro h hunpaid
      rcases h with ⟨x, hx, hxr, hpaid⟩
      have hxeq : x = r := eq_of_sameRow hx hr hxr
      exact absurd (hxeq ▸ hpaid) hunpaid
    · intro h
      have hpaid : r.bill.status = "PAID" := by
        by_contra hne
        exact hfails (h hne)
      exact ⟨r, hr, r.sameRow_refl, hpaid⟩
  · have hfails : ch.fails = false := by
      rw [← markPaid_isOk hr, hres]
      rfl
    rw [hres]
    constructor
    · exact fun _ _ => hfails
    · exact fun _ => ⟨_, (hmem _).2 (.inl rfl), hsame, by simp⟩

end Writes

/-- Saving a bill leaves the payments as they are. -/
theorem save_payments (r : BillingRecord) (ch : Choice) (s : Store) :
    (perform r.save ch s).2.payments = s.payments := by
  rcases perform_save r ch s with h | ⟨u, s', h, hpayments, _⟩
  · rw [h]
  · rw [h]
    exact hpayments

theorem save_billers (r : BillingRecord) (ch : Choice) (s : Store) :
    (perform r.save ch s).2.billers = s.billers := by
  cases r with
  | mock b =>
      rcases write_cases ch s ((s.mockBills.save? b).map fun t => { s with mockBills := t }) ()
        with h | ⟨s', hs', h⟩
      · exact congrArg (fun r => r.2.billers) h
      · rcases Option.map_eq_some_iff.1 hs' with ⟨t, _, rfl⟩
        exact congrArg (fun r => r.2.billers) h
  | demo d =>
      rcases write_cases ch s ((s.demoBills.save? d).map fun t => { s with demoBills := t }) ()
        with h | ⟨s', hs', h⟩
      · exact congrArg (fun r => r.2.billers) h
      · rcases Option.map_eq_some_iff.1 hs' with ⟨t, _, rfl⟩
        exact congrArg (fun r => r.2.billers) h

/-! ## Writes in a run -/

section Runs

variable {α : Type} {as : Own}

theorem performed_pay {req : BbpsPaymentRequest} {r : Except ServiceError BbpsPaymentResponse}
    (hp : Performed backend choices s (⟨.pay req, r⟩ :: as) m) :
    Performed backend (fun n => choices (n + 1)) s as m := by
  have hrest := (performed_op.1 hp).2
  rwa [perform_pay_state] at hrest

/-- The insert of a payment: it fails and changes nothing, or it adds its row. -/
theorem performed_insert {new : NewPayment} {amount : Amount} {r : Except ServiceError String}
    (hamount : Sql.Decimal.ofNumber new.amount = some amount)
    (hp : Performed backend choices s (⟨.insertPayment new, r⟩ :: as) m) :
    (r.isOk = false ∧ Performed backend (fun n => choices (n + 1)) s as m) ∨
      ∃ t, r = .ok (choices 0).freshId ∧
        (∀ p, p ∈ t ↔ p ∈ s.payments ∨ p = new.row (choices 0).freshId amount) ∧
        Performed backend (fun n => choices (n + 1)) { s with payments := t } as m := by
  rcases performed_op.1 hp with ⟨rfl, hrest⟩
  rcases perform_insertPayment new (choices 0) s with h | ⟨t, amount', h, hamount', _, _, hmem⟩
  · left
    rw [h] at hrest ⊢
    exact ⟨rfl, hrest⟩
  · right
    have hsame : amount' = amount := Option.some.inj (hamount'.symm.trans hamount)
    rw [h] at hrest ⊢
    exact ⟨t, rfl, hsame ▸ hmem, hrest⟩

/-- The save over a payment: it fails and changes nothing, or it replaces the row. -/
theorem performed_savePayment {p : BillPayment} {r : Except ServiceError Unit}
    (hp : Performed backend choices s (⟨.savePayment p, r⟩ :: as) m) :
    (r.isOk = false ∧ Performed backend (fun n => choices (n + 1)) s as m) ∨
      ∃ t, r = .ok () ∧ (∀ x, x ∈ t ↔ x = p ∨ (x ∈ s.payments ∧ x.id ≠ p.id)) ∧
        Performed backend (fun n => choices (n + 1)) { s with payments := t } as m := by
  rcases performed_op.1 hp with ⟨rfl, hrest⟩
  rcases perform_savePayment p (choices 0) s with h | ⟨t, h, hmem⟩
  · left
    rw [h] at hrest ⊢
    exact ⟨rfl, hrest⟩
  · right
    rw [h] at hrest ⊢
    exact ⟨t, rfl, hmem, hrest⟩

/-- A create that has selected a bill, called BBPS for it and inserted the payment: the new row has a
new id, and the rest of the run starts from there. -/
theorem Selects.inserted {dto : CreatePaymentDto} {before : Own} {found : BillingRecord}
    {resp : BbpsPaymentResponse} {sub id : String} (h : Selects dto before found)
    (hp : Performed backend choices s (before ++ ⟨.pay found.bill.payRequest, .ok resp⟩ ::
      ⟨.insertPayment (newPayment dto sub found.bill resp), .ok id⟩ :: as) m) :
    s.Finds dto.billWhere (some found) ∧ (∀ p ∈ s.payments, p.id ≠ id) ∧ ∃ t choices',
      (∀ p, p ∈ t ↔ p ∈ s.payments ∨
        p = (newPayment dto sub found.bill resp).row id found.bill.amount) ∧
      Performed backend choices' { s with payments := t } as m := by
  rcases performed_append.1 hp with ⟨m₁, hbefore, hafter⟩
  rcases h.performed hbefore with ⟨hm₁, _, hfinds, _⟩
  rw [hm₁] at hafter
  have hpaid := performed_pay hafter
  have hamount : Sql.Decimal.ofNumber (newPayment dto sub found.bill resp).amount =
      some found.bill.amount := by
    rw [newPayment_amount]
    exact Sql.Decimal.ofNumber_toNumber _ (by decide) (by decide)
  have hok := insertPayment_isOk (s := s) (choices (0 + 1 + before.length)) hamount
  have hres := (performed_op.1 hpaid).1
  rw [← hres] at hok
  have hfree := (hok.1 rfl).2.2
  rcases performed_insert hamount hpaid with ⟨hfailed, _⟩ | ⟨t, hid, hmem, hrest⟩
  · cases hfailed
  · have hid' : id = (choices (0 + 1 + before.length)).freshId := Except.ok.inj hid
    refine ⟨hfinds, fun p hp => hid' ▸ (hfree p hp).1, t, _, ?_, hrest⟩
    rw [hid']
    exact hmem

end Runs

/-- Other payments, the same bills. -/
@[simp] theorem mem_withPayments {r : BillingRecord}
    {t : Sql.Table BillPayment.id BillPayment.idempotencyKey} :
    r ∈ ({ s with payments := t } : Store) ↔ r ∈ s := by
  cases r with
  | mock b => exact Iff.rfl
  | demo d => exact Iff.rfl

theorem finds_withPayments {q : BillWhere} {found : Option BillingRecord}
    {t : Sql.Table BillPayment.id BillPayment.idempotencyKey} :
    ({ s with payments := t } : Store).Finds q found ↔ s.Finds q found := by
  constructor
  · intro h
    cases h with
    | mock hb hq => exact .mock hb hq
    | demo hmock hd hq => exact .demo hmock hd hq
    | none hmock hdemo => exact .none hmock hdemo
  · intro h
    cases h with
    | mock hb hq => exact .mock hb hq
    | demo hmock hd hq => exact .demo hmock hd hq
    | none hmock hdemo => exact .none hmock hdemo

/-! ## Whole requests -/

theorem create_alone (dto : CreatePaymentDto) (actor : Actor) (choices : Nat → Choice) (s : Store) :
    CreateSettles dto actor ((create dto actor).exec backend choices s).awaited
      ((create dto actor).exec backend choices s).result ∧
    Performed backend choices s ((create dto actor).exec backend choices s).awaited
      ((create dto actor).exec backend choices s).state :=
  ⟨by simpa using (follows_create dto actor).exec (B := backend) choices s,
    exec_performed (B := backend) _ choices s⟩

theorem payViaBbps_alone (id : String) (actor : Actor) (choices : Nat → Choice) (s : Store) :
    RetrySettles id actor ((payViaBbps id actor).exec backend choices s).awaited
      ((payViaBbps id actor).exec backend choices s).result ∧
    Performed backend choices s ((payViaBbps id actor).exec backend choices s).awaited
      ((payViaBbps id actor).exec backend choices s).state :=
  ⟨by simpa using (follows_payViaBbps id actor).exec (B := backend) choices s,
    exec_performed (B := backend) _ choices s⟩

/-- What a create awaits when it runs alone, and after which events. -/
theorem create_awaits {dto : CreatePaymentDto} {actor : Actor} {a : Awaited sig ServiceError}
    (ha : a ∈ ((create dto actor).exec backend choices s).awaited) :
    ∃ before after, ((create dto actor).exec backend choices s).awaited = before ++ a :: after ∧
      CreateAwaits dto actor before a.op := by
  simpa using (follows_create dto actor).exec_allowed (B := backend) choices s ha

end Bbps
end IdentityBillpay
