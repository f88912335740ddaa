import IdentityBillpay.Bbps.Alone
import IdentityBillpay.Bbps.Service

/-!
# Recording — what becomes of a charge when a later write fails

BBPS is called first; the payment and the bill are written afterwards, one by one and in no common
transaction.

* `ChargeKept` — the charge has left a `SUCCESS` payment and a `PAID` bill;
* `CreateRecords`, `RetryRecords` — the request data and the writes it takes;
* `charge_kept` — a charge is kept exactly then;
* `charge_lost` — a create that was answered `SUCCESS` and leaves no trace of it.
-/

namespace IdentityBillpay
namespace Bbps

open Async Async.Program

/-- BBPS answered `SUCCESS` to the call `req`. -/
structure Charged (req : BbpsPaymentRequest) (resp : BbpsPaymentResponse) (own : Own) : Prop where
  answered : (⟨.pay req, .ok resp⟩ : Awaited sig ServiceError) ∈ own
  success : resp.status = .SUCCESS

/-- The charge is on record in a payment that is `mine`, and the bill that was read is `PAID`. -/
structure ChargeKept (mine : BillPayment → Prop) (req : BbpsPaymentRequest) (own : Own)
    (state : Store) : Prop where
  payment : ∃ p ∈ state.payments, mine p ∧ p.payRequest = req ∧ p.status = "SUCCESS"
  bill : ∀ q, ∀ found : BillingRecord, found.read q ∈ own →
    ∃ x ∈ state, x.SameRow found ∧ x.bill.status = "PAID"

/-- The values a create inserts fit, the id generated for it is new, and neither of its writes
fails. -/
structure CreateRecords (dto : CreatePaymentDto) (actor : Actor) (resp : BbpsPaymentResponse)
    (choices : Nat → Choice) (s : Store) : Prop where
  key : dto.idempotencyKey.length ≤ 255
  user : (actor.sub.getD "").length ≤ 36
  reference : (resp.referenceId.getD "").length ≤ 255
  freshId : ∀ p ∈ s.payments, p.id ≠ (choices (2 + s.lookupLength dto.billWhere)).freshId
  insert : (choices (2 + s.lookupLength dto.billWhere)).fails = false
  settle : (choices (3 + s.lookupLength dto.billWhere)).fails = false

/-- The reference a retry stores fits, its save does not fail, and neither does the save of the bill
when that is not yet `PAID`. -/
structure RetryRecords (id : String) (resp : BbpsPaymentResponse) (choices : Nat → Choice)
    (s : Store) : Prop where
  reference : ∀ p ∈ s.payments, p.id = id →
    ((p.answered resp).bbpsReferenceId.getD "").length ≤ 255
  save : (choices 2).fails = false
  settle : ∀ p ∈ s.payments, p.id = id → ∀ found : BillingRecord,
    s.Finds (.pair p.billerCode p.consumerNumber) (some found) → found.bill.status ≠ "PAID" →
    (choices (3 + s.lookupLength (.pair p.billerCode p.consumerNumber))).fails = false

/-! ## The events of a charged request -/

section Charged

variable {own before rest : Own} {req req' : BbpsPaymentRequest} {resp : BbpsPaymentResponse}

theorem not_charged_of_reads (hread : ∀ a ∈ own, a.op.isRead = true) : ¬ Charged req resp own := by
  intro hcharged
  have hfalse := hread _ hcharged.answered
  simp [Op.isRead] at hfalse

@[simp] theorem save_payRequest? (r : BillingRecord) : r.save.payRequest? = none := by
  cases r with
  | mock b => rfl
  | demo d => rfl

@[simp] theorem insertPayment_payRequest? (new : NewPayment) :
    (Op.insertPayment new).payRequest? = none := rfl

@[simp] theorem savePayment_payRequest? (p : BillPayment) :
    (Op.savePayment p).payRequest? = none := rfl

/-- With reads before it and no BBPS call after it, the one BBPS call is the charge. -/
theorem Charged.call {r : Except ServiceError BbpsPaymentResponse}
    (h : Charged req resp (before ++ ⟨.pay req', r⟩ :: rest))
    (hbefore : ∀ a ∈ before, a.op.isRead = true) (hrest : ∀ a ∈ rest, a.op.payRequest? = none) :
    req = req' ∧ r = .ok resp := by
  rcases List.mem_append.1 h.answered with hmem | hmem
  · have hfalse := hbefore _ hmem
    simp [Op.isRead] at hfalse
  · rcases List.mem_cons.1 hmem with heq | hmem
    · injection heq with hop hres
      injection hop with hreq
      subst hreq
      exact ⟨rfl, hres.symm⟩
    · have hnone := hrest _ hmem
      simp [Op.payRequest?] at hnone

theorem keyLookup_isRead {dto : CreatePaymentDto} {existing : Option BillPayment} {reads : Own}
    {found : Option BillingRecord} (h : Lookup dto.billWhere reads found) :
    ∀ a ∈ keyLookup dto existing :: reads, a.op.isRead = true := by
  intro a ha
  rcases List.mem_cons.1 ha with rfl | ha
  · rfl
  · exact (h.isRead a ha).1

end Charged

/-- The events of a create that was answered `SUCCESS`: the insert, and when that succeeds the save
of the bill. -/
inductive CreateCharged (dto : CreatePaymentDto) (actor : Actor) (req : BbpsPaymentRequest)
    (resp : BbpsPaymentResponse) : Own → Prop
  | mk {before rest : Own} {found : BillingRecord} {sub : String} {r : Except ServiceError String}
      (hselects : Selects dto before found) (hsub : requireActorSub actor = .ok sub)
      (hreq : req = found.bill.payRequest)
      (hrest : (r.isOk = false ∧ rest = []) ∨
        (r.isOk = true ∧ ∃ r', rest = [⟨(found.setStatus "PAID").save, r'⟩])) :
      CreateCharged dto actor req resp (before ++ ⟨.pay found.bill.payRequest, .ok resp⟩ ::
        ⟨.insertPayment (newPayment dto sub found.bill resp), r⟩ :: rest)

theorem CreateSettles.charged {dto : CreatePaymentDto} {actor : Actor} {own : Own}
    {result : Except ServiceError PaymentResult} {req : BbpsPaymentRequest}
    {resp : BbpsPaymentResponse} (h : CreateSettles dto actor own result)
    (hreads : ¬ ReadFailed own) (hcharged : Charged req resp own) :
    CreateCharged dto actor req resp own := by
  -- Before the bank is asked nothing can have been charged.
  cases h with
  | readFailed h => exact absurd h hreads
  | unauthorized he h => exact absurd hcharged (not_charged_of_reads (by simp [h]))
  | incomplete he h => exact absurd hcharged (not_charged_of_reads (by simp [h]))
  | notOwner he h => exact absurd hcharged (not_charged_of_reads (by simp [h, keyLookup, Op.isRead]))
  | replayByNumber howner hnumber hlookup h =>
      exact absurd hcharged (not_charged_of_reads (h ▸ keyLookup_isRead hlookup))
  | replayByFields howner hcomplete hnumber h =>
      exact absurd hcharged (not_charged_of_reads (by simp [h, keyLookup, Op.isRead]))
  | billNotFound hlookup h =>
      exact absurd hcharged (not_charged_of_reads (h ▸ keyLookup_isRead hlookup))
  | notPayable hlookup he h =>
      exact absurd hcharged (not_charged_of_reads (h ▸ keyLookup_isRead hlookup))
  | payFailed hselects h =>
      subst h
      have hcall := hcharged.call (fun a ha => (hselects.isRead a ha).1) (by simp)
      cases hcall.2
  -- The bank has answered with success, and one of the later calls comes last.
  | @insertFailed before found resp' sub e hselects hsub h =>
      subst h
      rcases hcharged.call (fun a ha => (hselects.isRead a ha).1) (by simp)
        with ⟨hreq, hresp⟩
      have hsame : resp' = resp := Except.ok.inj hresp
      subst hsame
      exact .mk hselects hsub hreq (.inl ⟨rfl, rfl⟩)
  -- An answer without success charges nobody.
  | @«open» before found resp' sub id hselects hsub hstatus h =>
      subst h
      have hcall := hcharged.call (fun a ha => (hselects.isRead a ha).1) (by simp)
      have hsame : resp' = resp := Except.ok.inj hcall.2
      exact absurd hcharged.success (hsame ▸ hstatus)
  | @paid before found resp' sub id u hselects hsub hstatus h =>
      subst h
      rcases hcharged.call (fun a ha => (hselects.isRead a ha).1) (by simp)
        with ⟨hreq, hresp⟩
      have hsame : resp' = resp := Except.ok.inj hresp
      subst hsame
      exact .mk hselects hsub hreq (.inr ⟨rfl, .ok u, rfl⟩)
  | @settleFailed before found resp' sub id e hselects hsub hstatus h =>
      subst h
      rcases hcharged.call (fun a ha => (hselects.isRead a ha).1) (by simp)
        with ⟨hreq, hresp⟩
      have hsame : resp' = resp := Except.ok.inj hresp
      subst hsame
      exact .mk hselects hsub hreq (.inr ⟨rfl, .error e, rfl⟩)

/-- The events of a retry that was answered `SUCCESS`: the save of the payment, and when that
succeeds the lookup of the bill and its save. -/
inductive RetryCharged (id : String) (actor : Actor) (req : BbpsPaymentRequest)
    (resp : BbpsPaymentResponse) : Own → Prop
  | saveFailed {p : BillPayment} {e : ServiceError} (hp : MayRetry actor p)
      (hreq : req = p.payRequest) :
      RetryCharged id actor req resp [⟨.findPayment id, .ok (some p)⟩,
        ⟨.pay p.payRequest, .ok resp⟩, ⟨.savePayment (p.answered resp), .error e⟩]
  | billNotFound {p : BillPayment} {reads : Own} (hp : MayRetry actor p)
      (hreq : req = p.payRequest)
      (hlookup : Lookup (.pair p.billerCode p.consumerNumber) reads none) :
      RetryCharged id actor req resp (retried id p resp ++ reads)
  | settled {p : BillPayment} {reads : Own} {found : BillingRecord} (hp : MayRetry actor p)
      (hreq : req = p.payRequest)
      (hlookup : Lookup (.pair p.billerCode p.consumerNumber) reads (some found))
      (r : Except ServiceError (Op.Res (found.setStatus "PAID").save)) :
      RetryCharged id actor req resp
        (retried id p resp ++ reads ++ [⟨(found.setStatus "PAID").save, r⟩])

/-- The call of a charged retry. -/
theorem Charged.retry {id : String} {p : BillPayment}
    {r : Except ServiceError BbpsPaymentResponse} {req : BbpsPaymentRequest}
    {resp : BbpsPaymentResponse} {rest : Own}
    (h : Charged req resp (⟨.findPayment id, .ok (some p)⟩ :: ⟨.pay p.payRequest, r⟩ :: rest))
    (hrest : ∀ a ∈ rest, a.op.payRequest? = none) : req = p.payRequest ∧ r = .ok resp := by
  have hcall : Charged req resp
      ([⟨.findPayment id, .ok (some p)⟩] ++ ⟨.pay p.payRequest, r⟩ :: rest) := h
  exact hcall.call (by simp [Op.isRead]) hrest

theorem lookup_payRequest? {q : BillWhere} {reads : Own} {found : Option BillingRecord}
    (h : Lookup q reads found) : ∀ a ∈ reads, a.op.payRequest? = none := by
  cases h with
  | mock b => simp [Op.payRequest?]
  | demo d => simp [Op.payRequest?]
  | none => simp [Op.payRequest?]

/-- After its BBPS call a retry makes no other. -/
theorem settling_payRequest? {p : BillPayment} {resp : BbpsPaymentResponse} {q : BillWhere}
    {reads : Own} {found : BillingRecord} (hlookup : Lookup q reads (some found))
    (r : Except ServiceError (Op.Res (found.setStatus "PAID").save)) :
    ∀ a ∈ (⟨.savePayment (p.answered resp), .ok ()⟩ :: (reads ++
      [⟨(found.setStatus "PAID").save, r⟩]) : Own), a.op.payRequest? = none := by
  intro a ha
  rcases List.mem_cons.1 ha with rfl | ha
  · rfl
  · rcases List.mem_append.1 ha with ha | ha
    · exact lookup_payRequest? hlookup a ha
    · rw [List.mem_singleton.1 ha]
      exact save_payRequest? _

theorem RetrySettles.charged {id : String} {actor : Actor} {own : Own}
    {result : Except ServiceError Unit} {req : BbpsPaymentRequest} {resp : BbpsPaymentResponse}
    (h : RetrySettles id actor own result) (hreads : ¬ ReadFailed own)
    (hcharged : Charged req resp own) : RetryCharged id actor req resp own := by
  cases h with
  | readFailed h => exact absurd h hreads
  | notFound h => exact absurd hcharged (not_charged_of_reads (by simp [h, Op.isRead]))
  | notOwner he h => exact absurd hcharged (not_charged_of_reads (by simp [h, Op.isRead]))
  | alreadyPaid howner hp h =>
      exact absurd hcharged (not_charged_of_reads (by simp [h, Op.isRead]))
  -- The bank has been asked again.
  | payFailed hp h =>
      subst h
      cases (hcharged.retry (by simp)).2
  | @saveFailed p resp' e hp h =>
      subst h
      rcases hcharged.retry (by simp) with ⟨hreq, hresp⟩
      have hsame : resp' = resp := Except.ok.inj hresp
      subst hsame
      exact .saveFailed hp hreq
  -- An answer without success charges nobody.
  | @«open» p resp' hp hstatus h =>
      subst h
      have hcall := Charged.retry hcharged (by simp)
      have hsame : resp' = resp := Except.ok.inj hcall.2
      exact absurd hcharged.success (hsame ▸ hstatus)
  | @billNotFound p resp' reads hp hstatus hlookup h =>
      subst h
      rcases Charged.retry hcharged (by simpa using lookup_payRequest? hlookup) with ⟨hreq, hresp⟩
      have hsame : resp' = resp := Except.ok.inj hresp
      subst hsame
      exact .billNotFound hp hreq hlookup
  | @paid p resp' reads found u hp hstatus hlookup h =>
      subst h
      rw [List.append_assoc] at hcharged
      rcases Charged.retry hcharged (settling_payRequest? hlookup (.ok u)) with ⟨hreq, hresp⟩
      have hsame : resp' = resp := Except.ok.inj hresp
      subst hsame
      exact .settled hp hreq hlookup (.ok u)
  | @settleFailed p resp' reads found e hp hstatus hlookup h =>
      subst h
      rw [List.append_assoc] at hcharged
      rcases Charged.retry hcharged (settling_payRequest? hlookup (.error e)) with ⟨hreq, hresp⟩
      have hsame : resp' = resp := Except.ok.inj hresp
      subst hsame
      exact .settled hp hreq hlookup (.error e)

/-! ## create -/

section Create

variable {dto : CreatePaymentDto} {actor : Actor} {own before : Own} {choices : Nat → Choice}
  {s m : Store} {req : BbpsPaymentRequest} {resp : BbpsPaymentResponse} {found : BillingRecord}
  {sub : String}

theorem newPayment_fits : (newPayment dto sub found.bill resp).fits = true ↔
    dto.idempotencyKey.length ≤ 255 ∧ sub.length ≤ 36 ∧ (resp.referenceId.getD "").length ≤ 255 := by
  unfold NewPayment.fits
  rw [Bool.and_eq_true, Bool.and_eq_true, decide_eq_true_iff, decide_eq_true_iff,
    decide_eq_true_iff, and_assoc]
  rfl

/-- A payment made from a bill asks BBPS for the same as the bill. -/
theorem payRequest_row {id : String} :
    ((newPayment dto sub found.bill resp).row id found.bill.amount).payRequest =
      found.bill.payRequest := rfl

/-- The record a create has read is the one it selected. -/
theorem Selects.read_unique {q : BillWhere} {r : BillingRecord} (h : Selects dto own found)
    (hread : r.read q ∈ own) : r = found := by
  rcases h.reads with ⟨reads, hlookup, rfl⟩
  rcases List.mem_cons.1 hread with heq | hmem
  · cases r with
    | mock b => simp [BillingRecord.read, keyLookup] at heq
    | demo d => simp [BillingRecord.read, keyLookup] at heq
  · exact (Option.some.inj (hlookup.read_unique hmem).1).symm

/-- Reading a bill is neither of a create's effects nor its save. -/
theorem read_not_effect {q : BillWhere} {r : BillingRecord} {a : Awaited sig ServiceError}
    (ha : a.op.isRead = false) : r.read q ≠ a := by
  rintro rfl
  cases r with
  | mock b => cases ha
  | demo d => cases ha

/-- A create selects `UNPAID` bills only. -/
theorem Selects.unpaid (h : Selects dto own found) : found.bill.status = "UNPAID" :=
  (checkPayable_eq_ok.1 h.payable).1

/-- A charge of a create that runs alone is kept exactly when its values fit and its writes
succeed. -/
theorem CreateCharged.kept (h : CreateCharged dto actor req resp own)
    (hp : Performed backend choices s own m) (hsuccess : resp.status = .SUCCESS) :
    ChargeKept (fun p => p.idempotencyKey = dto.idempotencyKey) req own m ↔
      CreateRecords dto actor resp choices s := by
  cases h with
  | @mk before rest found sub r hselects hsub hreq hrest =>
  rcases performed_append.1 hp with ⟨m₁, hbefore, hafter⟩
  rcases hselects.performed hbefore with ⟨hm₁, hunused, hfinds, hlength⟩
  rw [hm₁] at hafter
  have hpaid := performed_pay hafter
  -- The choices of the two later calls, counted from the start of the run.
  have hinsert : 0 + 1 + before.length = 2 + s.lookupLength dto.billWhere := by omega
  have hsettle : 0 + 1 + 1 + before.length = 3 + s.lookupLength dto.billWhere := by omega
  have hamount : Sql.Decimal.ofNumber (newPayment dto sub found.bill resp).amount =
      some found.bill.amount := by
    rw [newPayment_amount]
    exact Sql.Decimal.ofNumber_toNumber _ (by decide) (by decide)
  have hr := (performed_op.1 hpaid).1
  have hok := insertPayment_isOk (s := s) (choices (2 + s.lookupLength dto.billWhere)) hamount
  rw [hinsert] at hr
  rw [← hr] at hok
  have hsub' : actor.sub.getD "" = sub := by
    rw [(requireActorSub_ok.1 hsub).1]
    rfl
  -- The insert goes through exactly if the row fits and its key and id are new.
  have hrecords : CreateRecords dto actor resp choices s → r.isOk = true := by
    intro h
    exact hok.2 ⟨h.insert, newPayment_fits.2 ⟨h.key, hsub' ▸ h.user, h.reference⟩,
      fun p hp => ⟨h.freshId p hp, hunused p hp⟩⟩
  rcases hrest with ⟨hfailed, rfl⟩ | ⟨hinserted, r', rfl⟩
  · -- The insert failed, so no row has the key.
    have hm : m = s := by
      rcases performed_insert hamount hpaid with ⟨_, hend⟩ | ⟨t, hins, _⟩
      · exact performed_nil.1 hend
      · rw [hins] at hfailed
        cases hfailed
    constructor
    · intro hkept
      rcases hkept.payment with ⟨p, hp, hkey, _⟩
      rw [hm] at hp
      exact absurd hkey (hunused p hp)
    · intro h
      rw [hrecords h] at hfailed
      cases hfailed
  · -- The payment is recorded; what remains is the save of the bill.
    rcases performed_insert hamount hpaid with ⟨hfailed, _⟩ | ⟨t, _, hmem, hwrites⟩
    · rw [hinserted] at hfailed
      cases hfailed
    · rcases hok.1 hinserted with ⟨hnofail, hnewfits, hfresh⟩
      rcases newPayment_fits.1 hnewfits with ⟨hkey, huser, hreference⟩
      rcases performed_op.1 hwrites with ⟨_, hend⟩
      have hm := performed_nil.1 hend
      have hsettles := markPaid_settles (choices (3 + s.lookupLength dto.billWhere))
        (mem_withPayments (t := t) |>.2 hfinds.mem.1)
      rw [hsettle] at hm
      rw [← hm] at hsettles
      have hunpaid : found.bill.status ≠ "PAID" := by simp [hselects.unpaid]
      constructor
      · intro hkept
        have hread : found.read dto.billWhere ∈ before := by
          rcases hselects.reads with ⟨reads, hlookup, rfl⟩
          exact List.mem_cons_of_mem _ hlookup.read_mem
        -- The bill that was read is the one to be marked.
        have hbill := hkept.bill _ found (List.mem_append_left _ hread)
        exact ⟨hkey, hsub' ▸ huser, hreference, fun p hp => (hfresh p hp).1, hnofail,
          hsettles.1 hbill hunpaid⟩
      · intro h
        constructor
        · have hrow := (hmem _).2 (.inr rfl)
          have hpayments : m.payments = t := by
            rw [hm]
            exact save_payments _ _ _
          refine ⟨_, hpayments ▸ hrow, rfl, ?_, ?_⟩
          · rw [hreq]
            exact payRequest_row
          · simp [NewPayment.row, newPayment, hsuccess, BbpsStatus.text]
        · intro q x hread
          -- No other bill has been read.
          have hx : x = found := by
            rcases List.mem_append.1 hread with hread | hread
            · exact hselects.read_unique hread
            · simp only [List.mem_cons, List.not_mem_nil, or_false] at hread
              rcases hread with hread | hread | hread
              · exact absurd hread (read_not_effect rfl)
              · exact absurd hread (read_not_effect rfl)
              · exact absurd hread (read_not_effect (save_isRead _))
          rw [hx]
          exact hsettles.2 fun _ => h.settle

end Create

/-! ## payViaBbps -/

section Retry

variable {id : String} {actor : Actor} {own reads : Own} {choices : Nat → Choice} {s m : Store}
  {req : BbpsPaymentRequest} {resp : BbpsPaymentResponse} {p : BillPayment}

/-- What a retry has read is the row with its id. -/
theorem performed_findPayment {r : Option BillPayment}
    (hp : Performed backend choices s (⟨.findPayment id, .ok r⟩ :: own) m) :
    (∀ p, r = some p → p ∈ s.payments ∧ p.id = id) ∧
      Performed backend (fun n => choices (n + 1)) s own m := by
  rcases performed_op.1 hp with ⟨hr, hrest⟩
  refine ⟨?_, hrest⟩
  rintro p rfl
  have hfound := Sql.Table.findOne_some (Except.ok.inj hr).symm
  exact ⟨hfound.1, by simpa using hfound.2⟩

/-- The save of a retry succeeded: its row says `SUCCESS`, and the rest of the run starts from
there. -/
theorem performed_retried (hp : Performed backend choices s (retried id p resp ++ own) m) :
    p ∈ s.payments ∧ p.id = id ∧ (choices 2).fails = false ∧
      ((p.answered resp).bbpsReferenceId.getD "").length ≤ 255 ∧
      ∃ t, (∀ x, x ∈ t ↔ x = p.answered resp ∨ (x ∈ s.payments ∧ x.id ≠ p.id)) ∧
        Performed backend (fun n => choices (n + 3)) { s with payments := t } own m := by
  rcases performed_findPayment hp with ⟨hfound, hpay⟩
  rcases hfound p rfl with ⟨hmem, hid⟩
  have hsave := performed_pay hpay
  have hok := savePayment_isOk (choices 2) (q := p.answered resp) hmem rfl rfl
  have hr : .ok () = (perform (.savePayment (p.answered resp)) (choices 2) s).1 :=
    (performed_op.1 hsave).1
  rw [← hr] at hok
  rcases hok.1 rfl with ⟨hnofail, hfits⟩
  rcases performed_savePayment hsave with ⟨hfailed, _⟩ | ⟨t, _, ht, hrest⟩
  · cases hfailed
  · exact ⟨hmem, hid, hnofail, hfits, t, ht, hrest⟩

/-- The record a retry has read is the one it found. -/
theorem retried_read_unique {q q' : BillWhere} {found : Option BillingRecord}
    (hlookup : Lookup q reads found) {r : BillingRecord}
    (hread : r.read q' ∈ retried id p resp ++ reads) : found = some r := by
  rcases List.mem_append.1 hread with hread | hread
  · cases r with
    | mock b => simp [BillingRecord.read, retried] at hread
    | demo d => simp [BillingRecord.read, retried] at hread
  · exact (hlookup.read_unique hread).1

/-- A charge of a retry that runs alone is kept exactly when its reference fits and its writes
succeed. -/
theorem RetryCharged.kept (h : RetryCharged id actor req resp own)
    (hp : Performed backend choices s own m) (hsuccess : resp.status = .SUCCESS) :
    ChargeKept (fun p => p.id = id) req own m ↔ RetryRecords id resp choices s := by
  cases h with
  | @saveFailed p e hretry hreq =>
      -- The save failed, so the row is the open one that was read.
      rcases performed_findPayment hp with ⟨hfound, hpay⟩
      rcases hfound p rfl with ⟨hmem, hid⟩
      have hsave := performed_pay hpay
      have hr : .error e = (perform (.savePayment (p.answered resp)) (choices 2) s).1 :=
        (performed_op.1 hsave).1
      have hok := savePayment_isOk (choices 2) (q := p.answered resp) hmem rfl rfl
      rw [← hr] at hok
      have hm : m = s := by
        rcases performed_savePayment hsave with ⟨_, hend⟩ | ⟨t, hres, _⟩
        · exact performed_nil.1 hend
        · cases hres
      constructor
      · intro hkept
        rcases hkept.payment with ⟨x, hx, hxid, _, hpaid⟩
        rw [hm] at hx
        have hxp : x = p := Sql.Table.eq_of_id hx hmem (hxid.trans hid.symm)
        exact absurd (hxp ▸ hpaid) hretry.notSuccess
      · intro hrecords
        have hsaved := hok.2 ⟨hrecords.save, hrecords.reference p hmem hid⟩
        cases hsaved
  -- No bill of the pair is there, so only the payment is to be kept.
  | @billNotFound p reads hretry hreq hlookup =>
      rcases performed_retried hp with ⟨hmem, hid, hnofail, hfits, t, ht, hreads⟩
      rcases hlookup.performed hreads with ⟨hm, hfinds, _⟩
      have hnone := finds_withPayments.1 hfinds
      constructor
      · intro _
        refine ⟨?_, hnofail, ?_⟩
        · intro x hx hxid
          rw [Sql.Table.eq_of_id hx hmem (hxid.trans hid.symm)]
          exact hfits
        · intro x hx hxid found hxfinds
          rw [Sql.Table.eq_of_id hx hmem (hxid.trans hid.symm)] at hxfinds
          cases hxfinds.unique hnone
      · intro _
        refine ⟨⟨p.answered resp, ?_, hid, hreq.symm, ?_⟩, ?_⟩
        · rw [hm]
          exact (ht _).2 (.inl rfl)
        · simp [BillPayment.answered, hsuccess, BbpsStatus.text]
        · intro q found hread
          cases retried_read_unique hlookup hread
  -- The save of the bill is the last call.
  | @settled p reads found hretry hreq hlookup r =>
      rw [List.append_assoc] at hp
      rcases performed_retried hp with ⟨hmem, hid, hnofail, hfits, t, ht, hrest⟩
      rcases performed_append.1 hrest with ⟨m₁, hreads, hwrite⟩
      rcases hlookup.performed hreads with ⟨hm₁, hfinds, hlength⟩
      rw [hm₁] at hwrite
      have hm := performed_nil.1 (performed_op.1 hwrite).2
      have hindex : 0 + reads.length + 3 =
          3 + s.lookupLength (.pair p.billerCode p.consumerNumber) := by
        rw [hlength, Nat.zero_add, Nat.add_comm]
        rfl
      rw [hindex] at hm
      have hsettles := markPaid_settles
        (choices (3 + s.lookupLength (.pair p.billerCode p.consumerNumber))) hfinds.mem.1
      rw [← hm] at hsettles
      constructor
      · intro hkept
        refine ⟨?_, hnofail, ?_⟩
        · intro x hx hxid
          rw [Sql.Table.eq_of_id hx hmem (hxid.trans hid.symm)]
          exact hfits
        · intro x hx hxid y hfindsy hunpaid
          rw [Sql.Table.eq_of_id hx hmem (hxid.trans hid.symm)] at hfindsy ⊢
          have hy : y = found :=
            Option.some.inj (hfindsy.unique (finds_withPayments.1 hfinds))
          rw [hy] at hunpaid
          have hread : found.read (.pair p.billerCode p.consumerNumber) ∈
              retried id p resp ++ reads ++ [⟨(found.setStatus "PAID").save, r⟩] :=
            List.mem_append_left _ (List.mem_append_right _ hlookup.read_mem)
          exact hsettles.1 (hkept.bill _ found hread) hunpaid
      · intro hrecords
        refine ⟨⟨p.answered resp, ?_, hid, hreq.symm, ?_⟩, ?_⟩
        · have hpayments : m.payments = t := by
            rw [hm]
            exact save_payments _ _ _
          rw [hpayments]
          exact (ht _).2 (.inl rfl)
        · simp [BillPayment.answered, hsuccess, BbpsStatus.text]
        · intro q x hread
          have hx : found = x := by
            rcases List.mem_append.1 hread with hread | hread
            · exact Option.some.inj (retried_read_unique hlookup hread)
            · exact absurd (List.mem_singleton.1 hread) (read_not_effect (save_isRead _))
          rw [← hx]
          exact hsettles.2 fun hunpaid =>
            hrecords.settle p hmem hid found (finds_withPayments.1 hfinds) hunpaid

end Retry

/-! ## No charge is lost -/

/-- A `SUCCESS` answer of BBPS is kept exactly when the values that follow it fit their columns and
the writes that follow it succeed: in a create, and in a retry. -/
theorem charge_kept (actor : Actor) (choices : Nat → Choice) (s : Store)
    (req : BbpsPaymentRequest) (resp : BbpsPaymentResponse) :
    (∀ dto,
      Charged req resp ((create dto actor).exec backend choices s).awaited →
      (ChargeKept (fun p => p.idempotencyKey = dto.idempotencyKey) req
          ((create dto actor).exec backend choices s).awaited
          ((create dto actor).exec backend choices s).state ↔
        CreateRecords dto actor resp choices s)) ∧
    ∀ id,
      Charged req resp ((payViaBbps id actor).exec backend choices s).awaited →
      (ChargeKept (fun p => p.id = id) req
          ((payViaBbps id actor).exec backend choices s).awaited
          ((payViaBbps id actor).exec backend choices s).state ↔
        RetryRecords id resp choices s) := by
  constructor
  · intro dto hcharged
    rcases create_alone dto actor choices s with ⟨hsettles, hrun⟩
    exact (hsettles.charged (not_readFailed hrun) hcharged).kept hrun hcharged.success
  · intro id hcharged
    rcases payViaBbps_alone id actor choices s with ⟨hsettles, hrun⟩
    exact (hsettles.charged (not_readFailed hrun) hcharged).kept hrun hcharged.success

/-- BBPS answers `SUCCESS` and every write succeeds. -/
def smooth : Nat → Choice :=
  fun _ => .answers .SUCCESS (some "BBPS-1")

theorem charge_kept_smooth :
    ChargeKept (fun p => p.idempotencyKey = "key-2") sampleBill.payRequest
      ((create (sampleBody "key-2") sampleCustomer).exec backend smooth unpaidStore).awaited
      ((create (sampleBody "key-2") sampleCustomer).exec backend smooth unpaidStore).state ∧
    ChargeKept (fun p => p.id = "payment-1") samplePayment.payRequest
      ((payViaBbps "payment-1" sampleCustomer).exec backend smooth
        (sampleStore [samplePayment] [{ sampleBill with }] [])).awaited
      ((payViaBbps "payment-1" sampleCustomer).exec backend smooth
        (sampleStore [samplePayment] [{ sampleBill with }] [])).state := by
  constructor
  · have hcharged : Charged sampleBill.payRequest ⟨.SUCCESS, some "BBPS-1"⟩
        ((create (sampleBody "key-2") sampleCustomer).exec backend smooth unpaidStore).awaited :=
      ⟨by decide, rfl⟩
    refine ((charge_kept _ _ _ _ _).1 _ hcharged).2 ?_
    exact ⟨by decide, by decide, by decide, by decide, rfl, rfl⟩
  · have hcharged : Charged samplePayment.payRequest ⟨.SUCCESS, some "BBPS-1"⟩
        ((payViaBbps "payment-1" sampleCustomer).exec backend smooth
          (sampleStore [samplePayment] [{ sampleBill with }] [])).awaited :=
      ⟨by decide, rfl⟩
    refine ((charge_kept _ _ _ _ _).2 _ hcharged).2 ?_
    exact ⟨by decide, rfl, fun _ _ _ _ _ _ => rfl⟩

/-- BBPS answers `SUCCESS` and the insert of the payment fails. -/
def insertFails : Nat → Choice
  | 2 => .answers .SUCCESS (some "BBPS-1")
  | 3 => .failing
  | _ => .plain

/-- A charged customer without a payment: the create ends in an error, no payment row exists and
the bill is still `UNPAID`. -/
theorem charge_lost :
    (⟨.pay sampleBill.payRequest, .ok ⟨.SUCCESS, some "BBPS-1"⟩⟩ : Awaited sig ServiceError) ∈
      ((create (sampleBody "key-1") sampleCustomer).exec backend insertFails unpaidStore).awaited ∧
    ((create (sampleBody "key-1") sampleCustomer).exec backend insertFails
      unpaidStore).state.payments.rows = [] ∧
    ((create (sampleBody "key-1") sampleCustomer).exec backend insertFails
      unpaidStore).state.bills = [.mock { sampleBill with }] ∧
    sampleBill.status = "UNPAID" := by
  decide

end Bbps
end IdentityBillpay
