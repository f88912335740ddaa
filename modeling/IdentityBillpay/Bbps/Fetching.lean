import IdentityBillpay.Bbps.Recording
import IdentityBillpay.Bbps.Settlement

/-!
# Fetching — is the bill that was fetched the bill that gets paid?

A bill is fetched by biller, consumer and mobile, and paid by its number or by biller and consumer.
Each of the three lookups tries the mock bills first and falls back to the demo rows.

* `PaysFetched` — paying by number charges the fetched bill or nothing, and paying by biller and
  consumer finds the fetched record;
* `FoundAgain` — no other row gets in the way of the two lookups;
* `fetched_bill_is_paid` — the first holds exactly when the second does.
-/

namespace IdentityBillpay
namespace Bbps

open Async Async.Program

/-- The decorators of the body: a biller code, twelve digits, ten digits. -/
structure FetchBillDto.Valid (dto : FetchBillDto) : Prop where
  billerCode : dto.billerCode ≠ ""
  consumerNumber : dto.consumerNumber.length = 12 ∧ ∀ c ∈ dto.consumerNumber.toList, c.isDigit
  registeredMobile : dto.registeredMobile.length = 10 ∧
    ∀ c ∈ dto.registeredMobile.toList, c.isDigit

/-- `{ billNumber: n }`. -/
def FetchedBill.byNumber (f : FetchedBill) (key : String) : CreatePaymentDto :=
  ⟨some f.billNumber, none, none, none, key⟩

/-- `{ billerCode: b, consumerNumber: c, amount: a }`. -/
def FetchedBill.byPair (f : FetchedBill) (key : String) : CreatePaymentDto :=
  ⟨none, some f.billerCode, some f.consumerNumber, some f.amount.toText, key⟩

/-- The BBPS call for a fetched bill. -/
def FetchedBill.payRequest (f : FetchedBill) : BbpsPaymentRequest where
  billerCode := f.billerCode
  consumerNumber := f.consumerNumber
  amount := f.amount.toNumber

/-- Whatever the environment chooses, paying a fetched bill charges that bill. -/
structure PaysFetched (s : Store) (f : FetchedBill) (found : BillingRecord) (key : String)
    (actor : Actor) : Prop where
  /-- By number: each BBPS call is for the bill, and without one the request is rejected. -/
  byNumber : ∀ choices,
    (∀ a ∈ ((create (f.byNumber key) actor).exec backend choices s).awaited,
      ∀ req, a.op = .pay req → req = f.payRequest) ∧
    ((∀ a ∈ ((create (f.byNumber key) actor).exec backend choices s).awaited,
      a.op.payRequest? = none) →
        ∃ e, ((create (f.byNumber key) actor).exec backend choices s).result = .error e)
  /-- By biller and consumer: the record that was fetched is read again. -/
  byPair : ∀ choices,
    found.read (.pair f.billerCode f.consumerNumber) ∈
      ((create (f.byPair key) actor).exec backend choices s).awaited

/-- No other row gets in the way of finding the record by its pair or by its bill number. -/
structure FoundAgain (s : Store) (found : BillingRecord) : Prop where
  pair : s.Unshadowed found
  /-- No other mock bill with the number is payable. -/
  mock : found.bill.billNumber ≠ "" → ∀ b ∈ s.mockBills,
    b.billNumber = found.bill.billNumber → b.status = "UNPAID" → found = .mock b
  /-- And when no mock bill has the number, no other demo row with it is payable. -/
  demo : found.bill.billNumber ≠ "" → (∀ b ∈ s.mockBills, b.billNumber ≠ found.bill.billNumber) →
    ∀ d ∈ s.demoBills, d.billNumber = found.bill.billNumber → d.status = "UNPAID" →
      found = .demo d

/-! ## What the two lookups find -/

section Lookups

variable {s : Store} {found r : BillingRecord} {q : BillWhere}

/-- The record that an `UNPAID` bill number finds is the fetched one. -/
theorem FoundAgain.number (h : FoundAgain s found) (hnumber : found.bill.billNumber ≠ "")
    (hfinds : s.Finds (.billNumber found.bill.billNumber) (some r))
    (hunpaid : r.bill.status = "UNPAID") : found = r := by
  cases hfinds with
  | @mock b hb hq => exact h.mock hnumber b hb (matches_billNumber.1 hq) hunpaid
  | @demo d hmock hd hq =>
      refine h.demo hnumber ?_ d hd (matches_billNumber.1 hq) hunpaid
      intro b hb hbnumber
      have hfalse := hmock b hb
      rw [matches_billNumber.2 hbnumber] at hfalse
      cases hfalse

end Lookups

/-! ## A create under a new key -/

section Create

variable {dto : CreatePaymentDto} {actor : Actor} {own : Own} {choices : Nat → Choice}
  {s m : Store} {result : Except ServiceError PaymentResult} {sub : String}

/-- A complete create under a new key looks its bill up, and charges it when it is payable. -/
theorem CreateSettles.lookup (h : CreateSettles dto actor own result)
    (hp : Performed backend choices s own m) (hsub : requireActorSub actor = .ok sub)
    (hcomplete : dto.incomplete = false)
    (hunused : ∀ p ∈ s.payments, p.idempotencyKey ≠ dto.idempotencyKey) :
    ∃ reads rest found, Lookup dto.billWhere reads found ∧
      own = keyLookup dto none :: (reads ++ rest) ∧
      ∀ r, found = some r → checkPayable dto r.bill = .ok () →
        ∃ a ∈ own, a.op = .pay r.bill.payRequest := by
  -- Whoever selects a bill goes on to pay for it.
  have hselects : ∀ {before rest : Own} {found : BillingRecord}
      {r : Except ServiceError BbpsPaymentResponse}, Selects dto before found →
      own = before ++ ⟨.pay found.bill.payRequest, r⟩ :: rest →
      ∃ reads rest found, Lookup dto.billWhere reads found ∧
        own = keyLookup dto none :: (reads ++ rest) ∧
        ∀ r, found = some r → checkPayable dto r.bill = .ok () →
          ∃ a ∈ own, a.op = .pay r.bill.payRequest := by
    intro before rest found r hsel hown
    rcases hsel.reads with ⟨reads, hlookup, rfl⟩
    refine ⟨reads, _, some found, hlookup, hown, ?_⟩
    rintro x hx _
    have hxf : found = x := Option.some.inj hx
    exact ⟨⟨.pay found.bill.payRequest, r⟩, by simp [hown], by rw [hxf]⟩
  cases h with
  | readFailed h => exact absurd h (not_readFailed hp)
  | unauthorized he h =>
      rw [hsub] at he
      cases he
  | incomplete he h =>
      rw [hcomplete] at he
      cases he
  -- No payment has the key yet, so nothing is replayed.
  | notOwner he h => exact absurd h (not_replayed hp hunused)
  | replayByNumber howner hnumber hlookup h => exact absurd h (not_replayed hp hunused)
  | replayByFields howner hcomplete hnumber h => exact absurd h (not_replayed hp hunused)
  | @billNotFound reads hlookup h =>
      refine ⟨reads, [], none, hlookup, by simpa using h, ?_⟩
      intro r hr
      cases hr
  | @notPayable reads found e hlookup he h =>
      refine ⟨reads, [], some found, hlookup, by simpa using h, ?_⟩
      intro r hr hpayable
      rw [← Option.some.inj hr, he] at hpayable
      cases hpayable
  | payFailed hsel h => exact hselects hsel h
  | insertFailed hsel hsub h => exact hselects hsel h
  | «open» hsel hsub hstatus h => exact hselects hsel h
  | paid hsel hsub hstatus h => exact hselects hsel h
  | settleFailed hsel hsub hstatus h => exact hselects hsel h

/-- Under a new key a create that is accepted has called BBPS. -/
theorem CreateSettles.called {v : PaymentResult} (h : CreateSettles dto actor own result)
    (hp : Performed backend choices s own m) (hok : result = .ok v)
    (hunused : ∀ p ∈ s.payments, p.idempotencyKey ≠ dto.idempotencyKey) :
    ∃ a ∈ own, a.op.payRequest? ≠ none := by
  cases h with
  | replayByNumber howner hnumber hlookup h => exact absurd h (not_replayed hp hunused)
  | replayByFields howner hcomplete hnumber h => exact absurd h (not_replayed hp hunused)
  | @«open» before found resp sub id hsel hsub hstatus h =>
      exact ⟨⟨.pay found.bill.payRequest, .ok resp⟩, by simp [h], by simp [Op.payRequest?]⟩
  | @paid before found resp sub id u hsel hsub hstatus h =>
      exact ⟨⟨.pay found.bill.payRequest, .ok resp⟩, by simp [h], by simp [Op.payRequest?]⟩
  | _ => cases hok

/-- A create that runs alone calls BBPS for an `UNPAID` bill that its body finds. -/
theorem create_pays {a : Awaited sig ServiceError} {req : BbpsPaymentRequest}
    (ha : a ∈ ((create dto actor).exec backend choices s).awaited) (hop : a.op = .pay req) :
    dto.incomplete = false ∧ ∃ found : BillingRecord, req = found.bill.payRequest ∧
      found.bill.status = "UNPAID" ∧ s.Finds dto.billWhere (some found) := by
  rcases create_awaits ha with ⟨before, after, hawaited, hawaits⟩
  have hrun := (create_alone dto actor choices s).2
  rw [hawaited] at hrun
  rcases performed_append.1 hrun with ⟨m₁, hbefore, _⟩
  rcases awaits_pay (r := .create dto actor) hawaits hop with
    ⟨dto', actor', found, heq, hselects, hreq⟩ | ⟨id, actor', p, heq, _⟩
  · injection heq with hdto hactor
    subst hdto
    exact ⟨hselects.complete, found, hreq, hselects.unpaid, (hselects.performed hbefore).2.2.1⟩
  · cases heq

end Create

/-! ## Paying a fetched bill -/

section Pays

variable {s : Store} {found : BillingRecord} {name key : String} {actor : Actor} {sub : String}

theorem byNumber_complete {f : FetchedBill} :
    (f.byNumber key).incomplete = false ↔ f.billNumber ≠ "" := by
  simp [FetchedBill.byNumber, CreatePaymentDto.incomplete, truthy]

theorem byNumber_billWhere {f : FetchedBill} (h : f.billNumber ≠ "") :
    (f.byNumber key).billWhere = .billNumber f.billNumber := by
  simp [FetchedBill.byNumber, CreatePaymentDto.billWhere, truthy, h]

theorem byNumber_requestedAmount {f : FetchedBill} (billAmount : JsNumber) :
    (f.byNumber key).requestedAmount billAmount = billAmount := by
  simp [FetchedBill.byNumber, CreatePaymentDto.requestedAmount]

theorem byPair_billWhere {f : FetchedBill} :
    (f.byPair key).billWhere = .pair f.billerCode f.consumerNumber := by
  simp [FetchedBill.byPair, CreatePaymentDto.billWhere, truthy]

theorem byPair_complete {f : FetchedBill} (hbiller : f.billerCode ≠ "")
    (hconsumer : f.consumerNumber ≠ "") : (f.byPair key).incomplete = false := by
  simp [FetchedBill.byPair, CreatePaymentDto.incomplete, truthy, hbiller, hconsumer,
    Sql.Decimal.toText_ne_empty]

/-- Paying by number charges the record that is found again, or nothing. -/
theorem paysByNumber (h : FoundAgain s found)
    (hunused : ∀ p ∈ s.payments, p.idempotencyKey ≠ key) (choices : Nat → Choice) :
    (∀ a ∈ ((create ((found.bill.fetched name).byNumber key) actor).exec backend choices s).awaited,
      ∀ req, a.op = .pay req → req = (found.bill.fetched name).payRequest) ∧
    ((∀ a ∈ ((create ((found.bill.fetched name).byNumber key) actor).exec backend
        choices s).awaited, a.op.payRequest? = none) →
      ∃ e, ((create ((found.bill.fetched name).byNumber key) actor).exec backend
        choices s).result = .error e) := by
  constructor
  · intro a ha req hop
    rcases create_pays ha hop with ⟨hcomplete, r, hreq, hunpaid, hfinds⟩
    have hnumber : found.bill.billNumber ≠ "" := byNumber_complete.1 hcomplete
    rw [byNumber_billWhere hnumber] at hfinds
    rw [hreq, ← h.number hnumber hfinds hunpaid]
    rfl
  · intro hnone
    rcases create_alone ((found.bill.fetched name).byNumber key) actor choices s with
      ⟨hsettles, hrun⟩
    cases hresult : ((create ((found.bill.fetched name).byNumber key) actor).exec backend
      choices s).result with
    | error e => exact ⟨e, rfl⟩
    | ok v =>
        rcases hsettles.called hrun hresult hunused with ⟨a, ha, hpay⟩
        exact absurd (hnone a ha) hpay

/-- Paying by biller and consumer reads the record that is found again. -/
theorem paysByPair (h : FoundAgain s found) (hfound : found ∈ s)
    (hbiller : found.bill.billerCode ≠ "") (hconsumer : found.bill.consumerNumber ≠ "")
    (hunused : ∀ p ∈ s.payments, p.idempotencyKey ≠ key) (hsub : requireActorSub actor = .ok sub)
    (choices : Nat → Choice) :
    found.read (.pair found.bill.billerCode found.bill.consumerNumber) ∈
      ((create ((found.bill.fetched name).byPair key) actor).exec backend choices s).awaited := by
  rcases create_alone ((found.bill.fetched name).byPair key) actor choices s with ⟨hsettles, hrun⟩
  rcases hsettles.lookup hrun hsub (byPair_complete hbiller hconsumer) hunused with
    ⟨reads, rest, r, hlookup, hawaited, _⟩
  rw [hawaited] at hrun ⊢
  rcases performed_append.1 (performed_keyLookup hrun).2 with ⟨m₁, hreads, _⟩
  have hfinds := (hlookup.performed hreads).2.1
  rw [byPair_billWhere] at hfinds hlookup
  have hagain := (finds_pair hfound rfl).2 h.pair
  rw [hfinds.unique hagain] at hlookup
  exact List.mem_cons_of_mem _ (List.mem_append_left _ hlookup.read_mem)

theorem createAwaits_findDemo {dto : CreatePaymentDto} {own : Own} {op : Op} {q : BillWhere}
    (h : CreateAwaits dto actor own op) (hop : op = .findDemo q) :
    ∃ existing, own = [keyLookup dto existing, ⟨.findMockBill dto.billWhere, .ok none⟩] := by
  cases h with
  | findDemo h => exact ⟨_, h⟩
  | @settle before found resp sub id h =>
      have hread : (found.setStatus "PAID").save.isRead = true := by rw [hop]; rfl
      rw [save_isRead] at hread
      cases hread
  | _ => cases hop

/-- A record that a create finds by its pair is shadowed by no mock bill. -/
theorem pair_of_read {dto : CreatePaymentDto} {q : BillWhere} {choices : Nat → Choice}
    (hq : dto.billWhere = .pair found.bill.billerCode found.bill.consumerNumber)
    (hfound : found ∈ s)
    (hread : found.read q ∈ ((create dto actor).exec backend choices s).awaited) :
    s.Unshadowed found := by
  cases found with
  | mock b =>
      intro b' hb' hpair
      rw [Sql.Table.eq_of_key (t := s.mockBills) hb' hfound hpair]
  | demo d =>
      -- The demo table is read only after no mock bill matched.
      rcases create_awaits hread with ⟨before, after, hawaited, hawaits⟩
      have hrun := (create_alone dto actor choices s).2
      rw [hawaited] at hrun
      rcases performed_append.1 hrun with ⟨m₁, hbefore, _⟩
      rcases createAwaits_findDemo hawaits rfl with ⟨existing, rfl⟩
      have hnone := Sql.Table.findOne_eq_none.1
        (Except.ok.inj (performed_op.1 (performed_keyLookup hbefore).2).1).symm
      intro b hb hpair
      have hfalse := hnone b hb
      rw [hq, matches_pair.2 hpair] at hfalse
      cases hfalse

/-- If paying by number charges the fetched bill, no other payable row has the number. -/
theorem foundAgain_of_pays (hsub : requireActorSub actor = .ok sub) (hfound : found ∈ s)
    (hunused : ∀ p ∈ s.payments, p.idempotencyKey ≠ key)
    (h : PaysFetched s (found.bill.fetched name) found key actor) : FoundAgain s found := by
  have hpair := pair_of_read byPair_billWhere hfound (h.byPair fun _ => .plain)
  have hsame : ∀ r : BillingRecord, found.bill.billNumber ≠ "" →
      s.Finds (.billNumber found.bill.billNumber) (some r) → r.bill.status = "UNPAID" →
      r.bill.pair = found.bill.pair := by
    intro r hnumber hfinds hunpaid
    rcases hfinds.exists_lookup with ⟨pick, hpick⟩
    -- Every read picks the position of `r`, so the create charges `r`.
    rcases create_alone ((found.bill.fetched name).byNumber key) actor
      (fun _ => ⟨pick, false, none, ""⟩) s with ⟨hsettles, hrun⟩
    rcases hsettles.lookup hrun hsub (byNumber_complete.2 hnumber) hunused with
      ⟨reads, rest, x, hlookup, hawaited, hcharges⟩
    rw [hawaited] at hrun
    rcases performed_append.1 (performed_keyLookup hrun).2 with ⟨m₁, hreads, _⟩
    have hx := hlookup.found_eq hreads
    rw [byNumber_billWhere hnumber] at hx
    have hpayable : checkPayable ((found.bill.fetched name).byNumber key) r.bill = .ok () :=
      checkPayable_eq_ok.2 ⟨hunpaid, byNumber_requestedAmount _⟩
    rcases hcharges r (hx.trans hpick) hpayable with ⟨a, ha, hop⟩
    have hreq := (h.byNumber _).1 a ha _ hop
    exact congrArg BbpsPaymentRequest.pair hreq
  refine ⟨hpair, ?_, ?_⟩
  · intro hnumber b hb hbnumber hunpaid
    exact hpair b hb (hsame (.mock b) hnumber (.mock hb (matches_billNumber.2 hbnumber)) hunpaid)
  · intro hnumber hmock d hd hdnumber hunpaid
    have hnone : ∀ b ∈ s.mockBills,
        (BillWhere.billNumber found.bill.billNumber).matches b.toBill = false := by
      intro b hb
      simpa [BillWhere.matches] using hmock b hb
    have hdpair := hsame (.demo d) hnumber (.demo hnone hd (matches_billNumber.2 hdnumber)) hunpaid
    cases found with
    | mock b => exact absurd rfl (hmock b hfound)
    | demo d' => rw [Sql.Table.eq_of_key (t := s.demoBills) hfound hd hdpair.symm]

end Pays

/-- A fetched bill is a stored record that was read under the body's biller, consumer and mobile. -/
theorem fetchBill_alone {s : Store} {dto : FetchBillDto} {choices : Nat → Choice} {f : FetchedBill}
    (hfetch : ((fetchBill dto).exec backend choices s).result = .ok f) :
    ∃ found : BillingRecord, found ∈ s ∧ dto.billWhere.matches found.bill = true ∧
      found.read dto.billWhere ∈ ((fetchBill dto).exec backend choices s).awaited ∧
      f = found.bill.fetched f.billerName := by
  have hsettles : FetchSettles dto ((fetchBill dto).exec backend choices s).awaited
      ((fetchBill dto).exec backend choices s).result := by
    simpa using (follows_fetchBill dto).exec (B := backend) choices s
  rcases hsettles f hfetch with ⟨found, hread, hf⟩
  have hrun := exec_performed (B := backend) (fetchBill dto) choices s
  rcases hrun.outcome hread with ⟨before, after, m, hawaited, hbefore, hres⟩
  have hreads : ∀ a ∈ before, a.op.isRead = true := by
    intro a ha
    have hmem : a ∈ ((fetchBill dto).exec backend choices s).awaited := by
      rw [hawaited]
      exact List.mem_append_left _ ha
    rcases (follows_fetchBill dto).exec_allowed (B := backend) choices s hmem with ⟨_, _, _, hop⟩
    exact hop
  rw [performed_reads hbefore hreads] at hres
  rcases read_performed rfl hres with ⟨_, hfound, hmatches⟩
  exact ⟨found, hfound, hmatches, hread, hf⟩

/-- The bill the customer fetches is the bill that gets paid, under a new key and whatever the
environment chooses, exactly when no other row gets in the way of finding it again. -/
theorem fetched_bill_is_paid (s : Store) (dto : FetchBillDto) (choices : Nat → Choice)
    (f : FetchedBill) (hvalid : dto.Valid)
    (hfetch : ((fetchBill dto).exec backend choices s).result = .ok f) :
    ∃ found : BillingRecord, found ∈ s ∧
      found.read dto.billWhere ∈ ((fetchBill dto).exec backend choices s).awaited ∧
      f = found.bill.fetched f.billerName ∧
      ∀ key actor sub, (∀ p ∈ s.payments, p.idempotencyKey ≠ key) →
        requireActorSub actor = .ok sub →
        (PaysFetched s f found key actor ↔ FoundAgain s found) := by
  rcases fetchBill_alone hfetch with ⟨found, hfound, hmatches, hread, hf⟩
  refine ⟨found, hfound, hread, hf, ?_⟩
  intro key actor sub hunused hsub
  have hpair := (matches_registered.1 hmatches).1
  have hbiller : found.bill.billerCode ≠ "" := by
    have hsame : found.bill.billerCode = dto.billerCode := congrArg Prod.fst hpair
    rw [hsame]
    exact hvalid.billerCode
  have hconsumer : found.bill.consumerNumber ≠ "" := by
    intro hempty
    have hlength := hvalid.consumerNumber.1
    have hsame : found.bill.consumerNumber = dto.consumerNumber := congrArg Prod.snd hpair
    rw [← hsame, hempty] at hlength
    cases hlength
  rw [hf]
  constructor
  · exact foundAgain_of_pays hsub hfound hunused
  · intro h
    exact ⟨paysByNumber h hunused, paysByPair h hfound hbiller hconsumer hunused hsub⟩

/-- A body that fetches `sampleBill`. -/
def sampleFetch : FetchBillDto :=
  ⟨sampleBill.billerCode, sampleBill.consumerNumber, sampleBill.registeredMobile⟩

theorem fetched_bill_is_paid_demo :
    PaysFetched (sampleStore [] [] [sampleDemo]) (sampleBill.fetched "Demo Gas") (.demo sampleDemo)
      "key-1" sampleCustomer := by
  have hvalid : sampleFetch.Valid :=
    ⟨by decide, ⟨rfl, by simp [sampleFetch, sampleBill]⟩, ⟨rfl, by simp [sampleFetch, sampleBill]⟩⟩
  have hfetch : ((fetchBill sampleFetch).exec backend (fun _ => .plain)
      (sampleStore [] [] [sampleDemo])).result = .ok (sampleBill.fetched "Demo Gas") := by
    decide
  have hpaid := fetched_bill_is_paid (sampleStore [] [] [sampleDemo]) sampleFetch (fun _ => .plain)
    (sampleBill.fetched "Demo Gas") hvalid hfetch
  rcases hpaid with ⟨found, hfound, hread, hf, hiff⟩
  have hrow : ∀ d ∈ (sampleStore [] [] [sampleDemo]).demoBills, d = sampleDemo := by decide
  have hdemo : found = .demo sampleDemo := by
    cases found with
    | mock b => cases hfound
    | demo d => rw [hrow d hfound]
  rw [hdemo] at hiff
  refine (hiff "key-1" sampleCustomer "customer-1" (by decide) (by decide)).2 ⟨?_, ?_, ?_⟩
  · intro b hb
    cases hb
  · intro _ b hb
    cases hb
  · intro _ _ d hd _ _
    rw [hrow d hd]

/-- A mock bill of another consumer under the same bill number. -/
def otherBill : MockBill :=
  { sampleBill with id := "bill-2", consumerNumber := "100000000022" }

/-- The fetch answers with the demo row; paying by its number charges the other consumer's bill. -/
theorem fetched_bill_not_paid :
    ((fetchBill sampleFetch).exec backend (fun _ => .plain)
      (sampleStore [] [otherBill] [sampleDemo])).result = .ok (sampleBill.fetched "Demo Gas") ∧
    (⟨.pay otherBill.payRequest, .ok ⟨.SUCCESS, none⟩⟩ : Awaited sig ServiceError) ∈
      ((create ((sampleBill.fetched "Demo Gas").byNumber "key-1") sampleCustomer).exec backend
        (fun _ => .answers .SUCCESS none) (sampleStore [] [otherBill] [sampleDemo])).awaited ∧
    otherBill.consumerNumber ≠ sampleBill.consumerNumber := by
  decide

end Bbps
end IdentityBillpay
