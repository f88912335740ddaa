import IdentityBillpay.Bbps.Alone
import IdentityBillpay.Bbps.Ledger

/-!
# Replay — what a used idempotency key is answered with

* `Denotes` — the body asks for the payment's bill and the payment's amount;
* `DecidesByRequest` — a body that denotes the payment is answered with it, any other is rejected;
* `AmountOverlooked` — a body with a bill number whose own amount would decide otherwise than the
  amount of that bill;
* `replay_decides_by_request` — the first fails exactly for such bodies.
-/

namespace IdentityBillpay
namespace Bbps

open Async Async.Program

/-- The body denotes the payment: its bill, `named` when the body has a bill number, is the bill of
the payment, and the amount it asks for is the amount of the payment. -/
def Denotes (dto : CreatePaymentDto) (named : Option BillingRecord) (p : BillPayment) : Prop :=
  if truthy dto.billNumber then
    ∃ r ∈ named, r.bill.pair = (p.billerCode, p.consumerNumber) ∧
      dto.requestedAmount r.bill.amount.toNumber = p.amount.toNumber
  else
    dto.billerCode = some p.billerCode ∧ dto.consumerNumber = some p.consumerNumber ∧
      numberOf dto.amount = p.amount.toNumber

instance (dto : CreatePaymentDto) (named : Option BillingRecord) (p : BillPayment) :
    Decidable (Denotes dto named p) :=
  inferInstanceAs (Decidable (if truthy dto.billNumber then
    ∃ r ∈ named, r.bill.pair = (p.billerCode, p.consumerNumber) ∧
      dto.requestedAmount r.bill.amount.toNumber = p.amount.toNumber else _))

/-- The payment is returned as a duplicate if the body denotes it, the body is rejected otherwise;
BBPS is not called and nothing changes. -/
structure DecidesByRequest (denotes : Prop) (p : BillPayment) (s : Store)
    (o : Outcome sig ServiceError Store PaymentResult) : Prop where
  same : denotes → o.result = .ok (replayed p)
  other : ¬ denotes → o.result = .error keyReused
  noCall : ∀ a ∈ o.awaited, a.op.payRequest? = none
  unchanged : o.state = s

/-- The body gives a bill number and an amount, the bill is the one that was paid, and the amount
given and the bill's present amount disagree on whether they are the payment's amount. -/
structure AmountOverlooked (dto : CreatePaymentDto) (named : Option BillingRecord)
    (p : BillPayment) : Prop where
  number : truthy dto.billNumber = true
  amount : truthy dto.amount = true
  bill : ∃ r ∈ named, r.bill.pair = (p.billerCode, p.consumerNumber) ∧
    ¬ (numberOf dto.amount = p.amount.toNumber ↔ r.bill.amount = p.amount)

/-! ## The comparison -/

section Compare

variable {dto : CreatePaymentDto} {named : Option BillingRecord} {p : BillPayment}
  {r : BillingRecord}

theorem strictEq_toNumber {d : Amount} {x : JsNumber} :
    d.toNumber.strictEq x = true ↔ d.toNumber = x := by
  have hnan := Sql.Decimal.toNumber_ne_nan d (by decide) (by decide)
  generalize d.toNumber = n at hnan ⊢
  simp [JsNumber.strictEq, JsNumber.isNaN, hnan]

theorem sameBill_iff : sameBill p r = true ↔
    r.bill.pair = (p.billerCode, p.consumerNumber) ∧ r.bill.amount = p.amount := by
  unfold sameBill
  rw [Bool.and_eq_true, Bool.and_eq_true, strictEq_toNumber, beq_iff_eq, beq_iff_eq]
  constructor
  · rintro ⟨⟨hbiller, hconsumer⟩, hamount⟩
    refine ⟨by rw [Bill.pair, hbiller, hconsumer], ?_⟩
    exact (Sql.Decimal.toNumber_injective (by decide) (by decide) hamount).symm
  · rintro ⟨hpair, hamount⟩
    injection hpair with hbiller hconsumer
    exact ⟨⟨hbiller.symm, hconsumer.symm⟩, by rw [hamount]⟩

theorem sameFields_iff : sameFields p dto = true ↔
    dto.billerCode = some p.billerCode ∧ dto.consumerNumber = some p.consumerNumber ∧
      numberOf dto.amount = p.amount.toNumber := by
  unfold sameFields
  rw [Bool.and_eq_true, Bool.and_eq_true, strictEq_toNumber, beq_iff_eq, beq_iff_eq, and_assoc,
    eq_comm, eq_comm (b := dto.consumerNumber), eq_comm (b := numberOf dto.amount)]

/-- The answer decides by the request when the comparison does. -/
theorem replayAnswer_decides {denotes : Prop} {same : Bool} :
    (denotes → replayAnswer p same = .ok (replayed p)) ∧
      (¬ denotes → replayAnswer p same = .error keyReused) ↔ (denotes ↔ same = true) := by
  cases same with
  | true => simp [replayAnswer]
  | false => simp [replayAnswer]

theorem requestedAmount_eq (dto : CreatePaymentDto) (billAmount : JsNumber) :
    dto.requestedAmount billAmount =
      if truthy dto.amount = true then numberOf dto.amount else billAmount := by
  cases h : dto.amount with
  | none => simp [CreatePaymentDto.requestedAmount, truthy, h]
  | some amount => simp [CreatePaymentDto.requestedAmount, truthy, h]

theorem denotes_number (hnumber : truthy dto.billNumber = true) :
    Denotes dto (some r) p ↔ r.bill.pair = (p.billerCode, p.consumerNumber) ∧
      dto.requestedAmount r.bill.amount.toNumber = p.amount.toNumber := by
  unfold Denotes
  rw [if_pos hnumber]
  simp only [Option.mem_some_iff, exists_eq_left']

/-- Comparing with the named bill decides by the request, unless the body's amount is
overlooked. -/
theorem sameBill_decides (hnumber : truthy dto.billNumber = true) :
    (Denotes dto named p ↔ named.any (sameBill p) = true) ↔ ¬ AmountOverlooked dto named p := by
  cases named with
  | none =>
      have hoverlooked : ¬ AmountOverlooked dto none p := by
        rintro ⟨_, _, r, hr, _⟩
        cases hr
      have hdenotes : ¬ Denotes dto none p := by
        unfold Denotes
        rw [if_pos hnumber]
        rintro ⟨r, hr, _⟩
        cases hr
      simp [hoverlooked, hdenotes]
  | some r =>
      rw [denotes_number hnumber, Option.any_some, sameBill_iff, requestedAmount_eq]
      have hoverlooked : AmountOverlooked dto (some r) p ↔ truthy dto.amount = true ∧
          r.bill.pair = (p.billerCode, p.consumerNumber) ∧
          ¬ (numberOf dto.amount = p.amount.toNumber ↔ r.bill.amount = p.amount) := by
        constructor
        · rintro ⟨_, hamount, r', hr', hbill⟩
          rw [Option.mem_some_iff.1 hr']
          exact ⟨hamount, hbill⟩
        · rintro ⟨hamount, hbill⟩
          exact ⟨hnumber, hamount, r, rfl, hbill⟩
      rw [hoverlooked]
      by_cases hamount : truthy dto.amount = true
      · rw [if_pos hamount]
        by_cases hpair : r.bill.pair = (p.billerCode, p.consumerNumber)
        · simp only [hpair, hamount, true_and, not_not]
        · simp only [hpair, false_and, and_false, not_false_eq_true]
      · -- Without an amount of its own the body asks for the bill's.
        have hcolumn : r.bill.amount.toNumber = p.amount.toNumber ↔ r.bill.amount = p.amount := by
          constructor
          · exact Sql.Decimal.toNumber_injective (by decide) (by decide)
          · exact congrArg _
        rw [if_neg hamount, hcolumn]
        simp [hamount]

end Compare

/-! ## The later request -/

section Request

variable {dto : CreatePaymentDto} {actor : Actor} {own : Own} {choices : Nat → Choice} {s m : Store}
  {result : Except ServiceError PaymentResult} {p : BillPayment} {sub : String}

/-- A create under the key of a stored payment finds that payment. -/
theorem performed_usedKey {existing : Option BillPayment} {rest : Own}
    (hp : Performed backend choices s (keyLookup dto existing :: rest) m) (hstored : p ∈ s.payments)
    (hkey : dto.idempotencyKey = p.idempotencyKey) : existing = some p := by
  have hfound := Except.ok.inj (performed_op.1 hp).1
  rw [hfound]
  refine Sql.Table.findOne_of_unique _ hstored (by simp [hkey]) ?_
  intro p' hp' hmatches
  exact Sql.Table.eq_of_key hp' hstored ((by simpa using hmatches : _ = _).trans hkey)

/-- The creator of a payment sends a complete body under its key: the payment is compared with the
named bill, or with the fields of the body. Nothing else happens. -/
theorem CreateSettles.replay (h : CreateSettles dto actor own result)
    (hp : Performed backend choices s own m) (hsub : requireActorSub actor = .ok sub)
    (hcomplete : dto.incomplete = false) (hstored : p ∈ s.payments)
    (hcreator : p.keycloakUserId = some sub) (hkey : dto.idempotencyKey = p.idempotencyKey) :
    (∀ a ∈ own, a.op.isRead = true) ∧
      ((truthy dto.billNumber = true ∧ result = replayAnswer p
          ((s.lookup dto.billWhere (choices 1).pick (choices 2).pick).any (sameBill p))) ∨
        (truthy dto.billNumber = false ∧ result = replayAnswer p (sameFields p dto))) := by
  -- The lookup of the key finds the stored payment.
  have hnone : ∀ {rest : Own}, own ≠ keyLookup dto none :: rest := by
    rintro rest rfl
    cases performed_usedKey hp hstored hkey
  have hselects : ∀ {before rest : Own} {found : BillingRecord}, Selects dto before found →
      own ≠ before ++ rest := by
    rintro before rest found hsel rfl
    rcases hsel.reads with ⟨reads, _, rfl⟩
    exact hnone rfl
  cases h with
  | readFailed h => exact absurd h (not_readFailed hp)
  | unauthorized he h =>
      rw [hsub] at he
      cases he
  | incomplete he h =>
      rw [hcomplete] at he
      cases he
  | @notOwner existing e he h =>
      subst h
      have hsame : existing = p := Option.some.inj (performed_usedKey hp hstored hkey)
      rw [hsame, assertIdempotent_owner hsub hcreator] at he
      cases he
  | @replayByNumber existing reads found howner hnumber hlookup h =>
      subst h
      have hsame : existing = p := Option.some.inj (performed_usedKey hp hstored hkey)
      have hfound := hlookup.found_eq (performed_keyLookup hp).2
      refine ⟨?_, .inl ⟨hnumber, by rw [hsame, hfound]⟩⟩
      intro a ha
      rcases List.mem_cons.1 ha with rfl | ha
      · rfl
      · exact (hlookup.isRead a ha).1
  | @replayByFields existing howner hcomplete hnumber h =>
      subst h
      have hsame : existing = p := Option.some.inj (performed_usedKey hp hstored hkey)
      exact ⟨by simp [keyLookup, Op.isRead], .inr ⟨hnumber, by rw [hsame]⟩⟩
  -- The other ends are those of a new key.
  | billNotFound hlookup h => exact absurd h hnone
  | notPayable hlookup he h => exact absurd h hnone
  | payFailed hsel h => exact absurd h (hselects hsel)
  | insertFailed hsel hsub h => exact absurd h (hselects hsel)
  | «open» hsel hsub hstatus h => exact absurd h (hselects hsel)
  | paid hsel hsub hstatus h => exact absurd h (hselects hsel)
  | settleFailed hsel hsub hstatus h => exact absurd h (hselects hsel)

/-- In any store, the creator's later bodies under the key of a payment are decided by the request
unless their amount is overlooked. -/
theorem replay_decides (hsub : requireActorSub actor = .ok sub) (hcomplete : dto.incomplete = false)
    (hstored : p ∈ s.payments) (hcreator : p.keycloakUserId = some sub)
    (hkey : dto.idempotencyKey = p.idempotencyKey) :
    DecidesByRequest
        (Denotes dto (s.lookup dto.billWhere (choices 1).pick (choices 2).pick) p) p s
        ((create dto actor).exec backend choices s) ↔
      ¬ AmountOverlooked dto (s.lookup dto.billWhere (choices 1).pick (choices 2).pick) p := by
  rcases create_alone dto actor choices s with ⟨hsettles, hrun⟩
  rcases hsettles.replay hrun hsub hcomplete hstored hcreator hkey with ⟨hreads, hanswer⟩
  have hstate := performed_reads hrun hreads
  -- A replay asks the bank for nothing.
  have hnoCall : ∀ a ∈ ((create dto actor).exec backend choices s).awaited,
      a.op.payRequest? = none := by
    intro a ha
    have hread := hreads a ha
    cases hop : a.op with
    | pay req => simp [hop, Op.isRead] at hread
    | _ => rfl
  have hiff : ∀ denotes same,
      ((create dto actor).exec backend choices s).result = replayAnswer p same →
      (DecidesByRequest denotes p s ((create dto actor).exec backend choices s) ↔
        (denotes ↔ same = true)) := by
    intro denotes same hresult
    rw [← replayAnswer_decides (p := p), ← hresult]
    exact ⟨fun h => ⟨h.same, h.other⟩, fun h => ⟨h.1, h.2, hnoCall, hstate⟩⟩
  rcases hanswer with ⟨hnumber, hresult⟩ | ⟨hnumber, hresult⟩
  · exact (hiff _ _ hresult).trans (sameBill_decides hnumber)
  · refine (hiff _ _ hresult).trans ?_
    -- Without a bill number the fields decide, and the amount is one of them.
    have hoverlooked : ¬ AmountOverlooked dto
        (s.lookup dto.billWhere (choices 1).pick (choices 2).pick) p := by
      intro h
      have htrue := h.number
      rw [hnumber] at htrue
      cases htrue
    have hfields : Denotes dto (s.lookup dto.billWhere (choices 1).pick (choices 2).pick) p ↔
        sameFields p dto = true := by
      unfold Denotes
      rw [hnumber, if_neg Bool.false_ne_true, sameFields_iff]
    simp [hoverlooked, hfields]

end Request

/-! ## In a reachable store -/

/-- What a create of the run has inserted is stored under its key and its sub. -/
structure ReplayInv (s : Store) (h : History service) : Prop where
  ledger : LedgerInv s h
  inserted : ∀ i dto actor new id, h.requests[i]? = some (.create dto actor) →
    (⟨⟨.insertPayment new, .ok id⟩, i⟩ : Event sig ServiceError) ∈ h.trace →
    ∃ q ∈ h.state.payments, q.id = id ∧ q.idempotencyKey = dto.idempotencyKey ∧
      ∃ sub, requireActorSub actor = .ok sub ∧ q.keycloakUserId = some sub

theorem replayInv_perform {s : Store} {h : History service} {i : Nat} {r : Request} {op : Op}
    (hI : ReplayInv s h) (hr : h.requests[i]? = some r) (hop : Awaits r (h.own i) op)
    (ch : Choice) : ReplayInv s (h.perform i op ch) := by
  refine ⟨ledgerInv_perform hI.ledger hr hop ch, ?_⟩
  intro j dto actor new id hj hmem
  rcases History.mem_perform.1 hmem with hold | ⟨hwho, hinsert, hres⟩
  · rcases hI.inserted j dto actor new id hj hold with ⟨q, hq, hid, hkey, sub, hsub, huser⟩
    rcases entry_kept hI.ledger hop ch hq with ⟨q', hq', hentry⟩
    refine ⟨q', hq', (id_eq_of_entry hentry).trans hid, ?_, sub, hsub, ?_⟩
    · exact (congrArg LedgerEntry.idempotencyKey hentry).trans hkey
    · exact (congrArg LedgerEntry.keycloakUserId hentry).trans huser
  · -- The row just inserted.
    dsimp only at hinsert hres
    subst hinsert
    rw [hwho, History.perform_requests, hr] at hj
    cases hj
    rcases awaits_insertPayment hop rfl with
      ⟨dto', actor', before, found, resp, sub, heq, _, hsub, _, rfl⟩
    cases heq
    rcases perform_insertPayment (newPayment dto sub found.bill resp) ch h.state with
      herr | ⟨t, amount, hok, _, _, _, hrows⟩
    · rw [herr] at hres
      cases hres
    · rw [hok] at hres
      have hid : id = ch.freshId := Except.ok.inj hres
      refine ⟨(newPayment dto sub found.bill resp).row ch.freshId amount, ?_, hid.symm, rfl, sub,
        hsub, rfl⟩
      rw [History.perform_state, service_perform, hok]
      exact (hrows _).2 (.inr rfl)

theorem replayInv_start {s : Store} {h : History service} (hattr : h.Attributed)
    (hI : ReplayInv s h) (r : Request) : ReplayInv s (h.start r) := by
  refine ⟨ledgerInv_start hI.ledger r, ?_⟩
  intro i dto actor new id hi hmem
  rcases History.start_requests_cases hi with hi | ⟨hnew, _⟩
  · exact hI.inserted i dto actor new id hi hmem
  · -- The request just started has no events.
    have hlt := hattr _ hmem
    exact absurd hnew (Nat.ne_of_lt hlt)

theorem replayInv_run (s : Store) (as : List (Action service)) :
    ReplayInv s ((Config.initial service s).run as).toHistory := by
  have hinit : ReplayInv s (Config.initial service s).toHistory := by
    refine ⟨ledgerInv_initial s, ?_⟩
    intro i dto actor new id hi
    simp [Config.initial] at hi
  refine Config.run_induction follows_program ?_ ?_ hinit as (Config.meets_trivial _ as)
  · exact fun h r hattr hI => replayInv_start hattr hI r
  · exact fun h i r op ch _ hI hr hop _ => replayInv_perform hI hr hop ch

/-- Replay decides by the request. After every run, a payment `p` that a create of the run has
inserted is what decides a later complete body of the same user under the same key, unless the
body's own amount is overlooked beside its bill number. -/
theorem replay_decides_by_request (s : Store) (as : List (Action service)) (i : Nat)
    (dto₀ dto : CreatePaymentDto) (actor₀ actor : Actor) (new : NewPayment) (p : BillPayment)
    (choices : Nat → Choice)
    (hcreate : ((Config.initial service s).run as).requests[i]? = some (.create dto₀ actor₀))
    (hinsert : (⟨⟨.insertPayment new, .ok p.id⟩, i⟩ : Event sig ServiceError) ∈
      ((Config.initial service s).run as).trace)
    (hp : p ∈ ((Config.initial service s).run as).state.payments)
    (hactor : requireActorSub actor = requireActorSub actor₀)
    (hkey : dto.idempotencyKey = dto₀.idempotencyKey) (hcomplete : dto.incomplete = false) :
    DecidesByRequest
        (Denotes dto (Store.lookup ((Config.initial service s).run as).state dto.billWhere
          (choices 1).pick (choices 2).pick) p) p
        ((Config.initial service s).run as).state
        ((create dto actor).exec backend choices ((Config.initial service s).run as).state) ↔
      ¬ AmountOverlooked dto (Store.lookup ((Config.initial service s).run as).state dto.billWhere
        (choices 1).pick (choices 2).pick) p := by
  rcases (replayInv_run s as).inserted i dto₀ actor₀ new p.id hcreate hinsert with
    ⟨q, hq, hid, hqkey, sub, hsub, huser⟩
  have hqp : q = p := Sql.Table.eq_of_id hq hp hid
  subst hqp
  exact replay_decides (hactor.trans hsub) hcomplete hq huser (hkey.trans hqkey.symm)

/-- A create of `sampleBill` that BBPS leaves open. -/
def openCreate : List (Action service) :=
  [.start (.create (sampleBody "key-1") sampleCustomer), .resume 0 .plain, .resume 0 .plain,
    .resume 0 (.answers .PENDING none), .resume 0 .plain]

theorem replay_decides_by_request_openCreate :
    DecidesByRequest (Denotes (sampleBody "key-1") (some (.mock { sampleBill with })) samplePayment)
      samplePayment ((Config.initial service unpaidStore).run openCreate).state
      ((create (sampleBody "key-1") sampleCustomer).exec backend (fun _ => .plain)
        ((Config.initial service unpaidStore).run openCreate).state) := by
  have hinsert : (⟨⟨.insertPayment (newPayment (sampleBody "key-1") "customer-1" sampleBill
      ⟨.PENDING, none⟩), .ok samplePayment.id⟩, 0⟩ : Event sig ServiceError) ∈
      ((Config.initial service unpaidStore).run openCreate).trace :=
    History.mem_own.1 (by decide)
  refine (replay_decides_by_request unpaidStore openCreate 0 (sampleBody "key-1")
    (sampleBody "key-1") sampleCustomer sampleCustomer _ samplePayment (fun _ => .plain) rfl hinsert
    (by decide) rfl rfl (by decide)).2 ?_
  intro h
  cases h.amount

/-- `sampleBody` with an amount that is not the bill's. -/
def otherAmountBody : CreatePaymentDto :=
  { sampleBody "key-1" with amount := some "1.00" }

/-- The body asks for another amount, and the stored payment is returned as its duplicate. -/
theorem replay_overlooks_amount :
    ¬ DecidesByRequest (Denotes otherAmountBody (some (.mock { sampleBill with })) samplePayment)
      samplePayment ((Config.initial service unpaidStore).run openCreate).state
      ((create otherAmountBody sampleCustomer).exec backend (fun _ => .plain)
        ((Config.initial service unpaidStore).run openCreate).state) := by
  intro h
  have hrejected := h.other (by decide)
  have hanswered : ((create otherAmountBody sampleCustomer).exec backend (fun _ => .plain)
      ((Config.initial service unpaidStore).run openCreate).state).result =
        .ok (replayed samplePayment) := by
    decide
  rw [hanswered] at hrejected
  cases hrejected

end Bbps
end IdentityBillpay
