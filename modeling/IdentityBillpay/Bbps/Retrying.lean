import IdentityBillpay.Bbps.Recording

/-!
# Retrying — which bill a retry settles

A create may have found its bill by number; the payment keeps only biller and consumer, and a retry
looks the bill up by these.

* `SettlesOnly` — the record is marked `PAID` and nothing else changes;
* `retry_settles_bill` — a retry settles the record the payment was made from, exactly when no mock
  bill stands before that record;
* `retry_settles_other_bill` — a retry that marks another customer's record.
-/

namespace IdentityBillpay
namespace Bbps

open Async Async.Program

/-- A retry that completes has marked `r`, and no other record has changed. -/
structure SettlesOnly (r : BillingRecord) (before : Store)
    (o : Outcome sig ServiceError Store Unit) : Prop where
  marked : o.result = .ok () → r.setStatus "PAID" ∈ o.state
  frame : ∀ x : BillingRecord, ¬ x.SameRow r → (x ∈ o.state ↔ x ∈ before)

section Create

variable {dto : CreatePaymentDto} {actor : Actor} {own : Own} {choices : Nat → Choice} {s m : Store}
  {result : Except ServiceError PaymentResult} {v : PaymentResult} {r : BillingRecord}

/-- A replayed answer is a duplicate. -/
theorem replayAnswer_ok {existing : BillPayment} {same : Bool}
    (h : replayAnswer existing same = .ok v) : same = true ∧ v = replayed existing := by
  cases same with
  | false => cases h
  | true =>
      injection h with hv
      exact ⟨rfl, hv.symm⟩

/-- After a create that BBPS left open, the bills are as before and its payment has the pair of the
bill it was made from. -/
theorem CreateSettles.opened (h : CreateSettles dto actor own result)
    (hp : Performed backend choices s own m) (hok : result = .ok v) (hnew : v.duplicate = false)
    (hopen : v.status ≠ "SUCCESS") {q : BillWhere} (hread : r.read q ∈ own) :
    r ∈ s ∧ r.bill.status = "UNPAID" ∧ (∃ t, m = { s with payments := t }) ∧
      ∀ p ∈ m.payments, p.id = v.paymentId → (p.billerCode, p.consumerNumber) = r.bill.pair := by
  cases h with
  | replayByNumber howner hnumber hlookup h =>
      rw [(replayAnswer_ok hok).2] at hnew
      cases hnew
  | replayByFields howner hcomplete hnumber h =>
      rw [(replayAnswer_ok hok).2] at hnew
      cases hnew
  | @paid before found resp sub id u hselects hsub hstatus h =>
      injection hok with hv
      have hstatus' : v.status = resp.status.text := by rw [← hv]; rfl
      rw [hstatus', hstatus] at hopen
      exact absurd rfl hopen
  | @«open» before found resp sub id hselects hsub hstatus h =>
      subst h
      injection hok with hv
      have hid : v.paymentId = id := by rw [← hv]; rfl
      have hr : r = found := by
        rcases List.mem_append.1 hread with hread | hread
        · exact hselects.read_unique hread
        · simp only [List.mem_cons, List.not_mem_nil, or_false] at hread
          rcases hread with hread | hread
          · exact absurd hread (read_not_effect rfl)
          · exact absurd hread (read_not_effect rfl)
      rcases hselects.inserted hp with ⟨hfinds, _, t, choices', hmem, hend⟩
      have hm := performed_nil.1 hend
      refine ⟨hr ▸ hfinds.mem.1, hr ▸ hselects.unpaid, ⟨t, hm⟩, ?_⟩
      intro p hpm hpid
      -- The new row is the only one with its id.
      have hrow := (hmem _).2 (.inr rfl)
      rw [hm] at hpm
      have hpnew := Sql.Table.eq_of_id hpm hrow (hpid.trans hid)
      rw [hpnew, hr]
      rfl
  | _ => cases hok

end Create

/-! ## payViaBbps -/

section Retry

variable {id : String} {actor : Actor} {own : Own} {choices : Nat → Choice} {s m : Store}
  {result : Except ServiceError Unit} {req : BbpsPaymentRequest} {resp : BbpsPaymentResponse}
  {r : BillingRecord}

/-- Nothing has failed in a retry that completes. -/
theorem RetrySettles.succeeded (h : RetrySettles id actor own result) (hok : result = .ok ()) :
    ∀ a ∈ own, a.res.isOk = true := by
  cases h with
  | alreadyPaid howner hp h => simp [h, Except.isOk, Except.toBool]
  | «open» hp hstatus h => simp [h, retried, Except.isOk, Except.toBool]
  | billNotFound hp hstatus hlookup h =>
      intro a ha
      rw [h] at ha
      rcases List.mem_append.1 ha with ha | ha
      · simp only [retried, List.mem_cons, List.not_mem_nil, or_false] at ha
        rcases ha with rfl | rfl | rfl
        · rfl
        · rfl
        · rfl
      · exact (hlookup.isRead a ha).2
  | paid hp hstatus hlookup h =>
      intro a ha
      rw [h] at ha
      rcases List.mem_append.1 ha with ha | ha
      · rcases List.mem_append.1 ha with ha | ha
        · simp only [retried, List.mem_cons, List.not_mem_nil, or_false] at ha
          rcases ha with rfl | rfl | rfl
          · rfl
          · rfl
          · rfl
        · exact (hlookup.isRead a ha).2
      · rw [List.mem_singleton.1 ha]
        rfl
  | _ => cases hok

/-- What a charged retry does to the bills: nothing, and then it has failed or no bill has the
payment's pair; or it saves as `PAID` the bill that the pair finds. -/
theorem RetryCharged.bills (h : RetryCharged id actor req resp own)
    (hp : Performed backend choices s own m) :
    ∃ p ∈ s.payments, p.id = id ∧
      (((∃ a ∈ own, a.res.isOk = false) ∧ ∀ x : BillingRecord, x ∈ m ↔ x ∈ s) ∨
        s.Finds (.pair p.billerCode p.consumerNumber) none ∨
        ∃ found : BillingRecord, s.Finds (.pair p.billerCode p.consumerNumber) (some found) ∧
          ∀ x : BillingRecord, x ∈ m ↔
            x = found.setStatus "PAID" ∨ (x ∈ s ∧ ¬ x.SameRow found)) := by
  cases h with
  | @saveFailed p e hretry hreq =>
      rcases performed_findPayment hp with ⟨hfound, hpay⟩
      rcases hfound p rfl with ⟨hmem, hid⟩
      refine ⟨p, hmem, hid, .inl ⟨⟨⟨.savePayment (p.answered resp), .error e⟩, by simp, rfl⟩, ?_⟩⟩
      rcases performed_savePayment (performed_pay hpay) with ⟨_, hend⟩ | ⟨t, hres, _⟩
      · rw [performed_nil.1 hend]
        exact fun x => Iff.rfl
      · cases hres
  | @billNotFound p reads hretry hreq hlookup =>
      rcases performed_retried hp with ⟨hmem, hid, _, _, t, _, hreads⟩
      exact ⟨p, hmem, hid, .inr (.inl (finds_withPayments.1 (hlookup.performed hreads).2.1))⟩
  | @settled p reads found hretry hreq hlookup res =>
      rw [List.append_assoc] at hp
      rcases performed_retried hp with ⟨hmem, hid, _, _, t, _, hrest⟩
      rcases performed_append.1 hrest with ⟨m₁, hreads, hwrite⟩
      rcases hlookup.performed hreads with ⟨hm₁, hfinds, _⟩
      rw [hm₁] at hwrite
      rcases performed_op.1 hwrite with ⟨hres, hend⟩
      have hm := performed_nil.1 hend
      refine ⟨p, hmem, hid, ?_⟩
      -- The bill itself may be refused by the database.
      rcases perform_save (found.setStatus "PAID") _ _ with herr | ⟨u, s', hsaved, _, hmems⟩
      · left
        rw [herr] at hm hres
        refine ⟨⟨⟨(found.setStatus "PAID").save, res⟩, by simp, by rw [hres]; rfl⟩, ?_⟩
        intro x
        rw [hm]
        exact mem_withPayments
      · right
        right
        refine ⟨found, finds_withPayments.1 hfinds, ?_⟩
        intro x
        rw [hm, hsaved]
        simpa using hmems x

end Retry

/-! ## A create, then its retry -/

/-- A retry that gets `SUCCESS` for a payment left open by a create settles the record the payment
was made from, if no mock bill stands before that record; and if the retry completes, only then. -/
theorem retry_settles_bill (s : Store) (dto : CreatePaymentDto) (actor actor' : Actor)
    (choices choices' : Nat → Choice) (v : PaymentResult) (r : BillingRecord)
    (hcreated : ((create dto actor).exec backend choices s).result = .ok v)
    (hnew : v.duplicate = false) (hopen : v.status ≠ "SUCCESS")
    (hread : r.read dto.billWhere ∈ ((create dto actor).exec backend choices s).awaited)
    (req : BbpsPaymentRequest) (resp : BbpsPaymentResponse)
    (hcharged : Charged req resp ((payViaBbps v.paymentId actor').exec backend choices'
      ((create dto actor).exec backend choices s).state).awaited) :
    (s.Unshadowed r →
      SettlesOnly r ((create dto actor).exec backend choices s).state
        ((payViaBbps v.paymentId actor').exec backend choices'
          ((create dto actor).exec backend choices s).state)) ∧
    (((payViaBbps v.paymentId actor').exec backend choices'
        ((create dto actor).exec backend choices s).state).result = .ok () →
      SettlesOnly r ((create dto actor).exec backend choices s).state
        ((payViaBbps v.paymentId actor').exec backend choices'
          ((create dto actor).exec backend choices s).state) →
      s.Unshadowed r) := by
  rcases create_alone dto actor choices s with ⟨hsettles, hrun⟩
  rcases hsettles.opened hrun hcreated hnew hopen hread with ⟨hr, hunpaid, ⟨t, ht⟩, hpair⟩
  generalize ((create dto actor).exec backend choices s).state = m at *
  rcases payViaBbps_alone v.paymentId actor' choices' m with ⟨hretry, hretried⟩
  have hsucceeded := hretry.succeeded
  rcases (hretry.charged (not_readFailed hretried) hcharged).bills hretried with
    ⟨p, hp, hpid, hbills⟩
  generalize (payViaBbps v.paymentId actor').exec backend choices' m = o at *
  have hrm : r ∈ m := by
    rw [ht]
    exact mem_withPayments.2 hr
  have hppair := hpair p hp hpid
  -- The retry looks for the pair, and finds `r` unless another record shadows it.
  have hfinds_iff : m.Finds (.pair p.billerCode p.consumerNumber) (some r) ↔ s.Unshadowed r := by
    rw [ht, finds_withPayments]
    exact finds_pair hr hppair.symm
  have hnone : ¬ m.Finds (.pair p.billerCode p.consumerNumber) none := by
    intro h
    have hfalse := not_matches_of_finds_none h hrm
    rw [matches_pair.2 hppair.symm] at hfalse
    cases hfalse
  constructor
  · intro hunshadowed
    -- The save of the bill may have failed: then nothing is promised of `r`.
    rcases hbills with ⟨⟨a, ha, hfailed⟩, hsame⟩ | h | ⟨found, hfinds, hmem⟩
    · refine ⟨?_, fun x _ => hsame x⟩
      intro hok
      rw [hsucceeded hok a ha] at hfailed
      cases hfailed
    · exact absurd h hnone
    · have hfound : found = r := Option.some.inj (hfinds.unique (hfinds_iff.2 hunshadowed))
      subst hfound
      refine ⟨fun _ => (hmem _).2 (.inl rfl), ?_⟩
      intro x hx
      rw [hmem x]
      constructor
      · rintro (rfl | h)
        · exact absurd (sameRow_setStatus.2 found.sameRow_refl).symm hx
        · exact h.1
      · exact fun h => .inr ⟨h, hx⟩
  · intro hok hsettled
    rcases hbills with ⟨⟨a, ha, hfailed⟩, _⟩ | h | ⟨found, hfinds, hmem⟩
    · rw [hsucceeded hok a ha] at hfailed
      cases hfailed
    · exact absurd h hnone
    · -- Had another record been saved, `r` would be as it was.
      by_cases hsame : r.SameRow found
      · have hfound : r = found := eq_of_sameRow hrm hfinds.mem.1 hsame
        exact hfinds_iff.1 (hfound ▸ hfinds)
      · have hstill : r ∈ o.state := (hmem r).2 (.inr ⟨hrm, hsame⟩)
        have hmarked := hsettled.marked hok
        have heq := eq_of_sameRow hstill hmarked (sameRow_setStatus.2 r.sameRow_refl)
        have hpaid : r.bill.status = "PAID" := by
          rw [heq]
          simp
        rw [hunpaid] at hpaid
        exact absurd hpaid (by decide)

/-- The reply to a create of `sampleBill` that BBPS leaves open. -/
def openReply : PaymentResult :=
  created "payment-1" (newPayment (sampleBody "key-1") "customer-1" sampleBill ⟨.PENDING, none⟩)
    sampleBill.billNumber

/-- What a create of `sampleBill` leaves when BBPS leaves the payment open. -/
def opened (s : Store) : Outcome sig ServiceError Store PaymentResult :=
  (create (sampleBody "key-1") sampleCustomer).exec backend (fun _ => .answers .PENDING none) s

theorem retry_settles_bill_mock :
    SettlesOnly (.mock { sampleBill with }) (opened unpaidStore).state
      ((payViaBbps "payment-1" sampleCustomer).exec backend (fun _ => .answers .SUCCESS none)
        (opened unpaidStore).state) := by
  have hread : BillingRecord.read (sampleBody "key-1").billWhere (.mock { sampleBill with }) ∈
      (opened unpaidStore).awaited := by decide
  have hcharged : Charged sampleBill.payRequest ⟨.SUCCESS, none⟩
      ((payViaBbps openReply.paymentId sampleCustomer).exec backend
        (fun _ => .answers .SUCCESS none) (opened unpaidStore).state).awaited :=
    ⟨by decide, rfl⟩
  have hrow : ∀ b ∈ unpaidStore.mockBills, b = { sampleBill with } := by decide
  refine (retry_settles_bill unpaidStore (sampleBody "key-1") sampleCustomer sampleCustomer
    (fun _ => .answers .PENDING none) (fun _ => .answers .SUCCESS none) openReply _ (by decide)
    (by decide) (by decide) hread _ _ hcharged).1 ?_
  intro b hb _
  rw [hrow b hb]

/-- A mock bill with the pair of `sampleBill` and another number. -/
def shadowingBill : MockBill :=
  { sampleBill with id := "bill-2", billNumber := "BBPS-GAS-002" }

/-- The create pays the demo row, which its number finds; the retry marks the mock bill that has the
same pair, and the demo row stays `UNPAID`. -/
theorem retry_settles_other_bill :
    BillingRecord.read (sampleBody "key-1").billWhere (.demo sampleDemo) ∈
      (opened (sampleStore [] [shadowingBill] [sampleDemo])).awaited ∧
    ((payViaBbps "payment-1" sampleCustomer).exec backend (fun _ => .answers .SUCCESS none)
      (opened (sampleStore [] [shadowingBill] [sampleDemo])).state).state.bills =
        [.mock { shadowingBill with status := "PAID" }, .demo sampleDemo] := by
  decide

end Bbps
end IdentityBillpay
