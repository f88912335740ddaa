import IdentityBillpay.Async.TwoRuns
import IdentityBillpay.Bbps.Recording

/-!
# OwnPayments — what a customer's requests tell about the payments of others

Two stores hold the same payments of a customer; everything else in them may differ. A foreign
payment is answered like one that does not exist. A retry may find different bills in the two
stores, after it has saved its payment: from then on the runs go apart.

* `retry` — the retry route: `payViaBbps`, then `findOne`;
* `SamePayments` — the stores agree on the customer's payments;
* `alike_findAll`, `alike_findOne`, `alike_retry` — each request is answered alike.
-/

namespace IdentityBillpay
namespace Bbps

open Async Async.Program

/-- `PaymentController.retry`. -/
def retry (id : String) (actor : Actor) : Prog BillPayment := do
  payViaBbps id actor
  findOne id actor

def BillPayment.isOf (sub : String) (p : BillPayment) : Bool :=
  p.keycloakUserId == some sub

def SamePayments (sub : String) (s t : Store) : Prop :=
  t.payments.find (BillPayment.isOf sub) = s.payments.find (BillPayment.isOf sub)

/-- A retry writes its payment with its third operation; what it writes later are bills. -/
def billsSaved (n : Nat) (ch : Choice) : Prop :=
  3 ≤ n → ch.fails = false

section Own

variable {sub id : String} {actor : Actor} {s t : Store} {p : BillPayment}

theorem assertOwned_own (hsub : requireActorSub actor = .ok sub)
    (hrole : canViewAllBillPayments actor = false) (hown : p.isOf sub = true) :
    assertPaymentOwnedByActor p actor = .ok () := by
  have hne := (requireActorSub_ok.1 hsub).2
  have huser : p.keycloakUserId = some sub := by simpa [BillPayment.isOf] using hown
  simp [assertPaymentOwnedByActor, hrole, hsub, huser, truthy, hne]

/-- A foreign payment is answered like one that does not exist. -/
theorem assertOwned_foreign (hsub : requireActorSub actor = .ok sub)
    (hrole : canViewAllBillPayments actor = false) (hown : p.isOf sub = false) :
    assertPaymentOwnedByActor p actor = .error paymentNotFound := by
  have huser : p.keycloakUserId ≠ some sub := by simpa [BillPayment.isOf] using hown
  simp [assertPaymentOwnedByActor, hrole, hsub, huser]

/-! ## Looking a payment up -/

/-- What a lookup of a payment comes to, after the check of its owner. -/
def ownedPayment (actor : Actor) : Option BillPayment → Except ServiceError BillPayment
  | none => .error paymentNotFound
  | some payment => (assertPaymentOwnedByActor payment actor).map fun _ => payment

theorem findOne_eq (id : String) (actor : Actor) :
    findOne id actor = call (.findPayment id) >>= fun payment => settled (ownedPayment actor payment) := by
  unfold findOne
  refine congrArg _ (funext fun payment => ?_)
  cases (payment : Option BillPayment) with
  | none => rfl
  | some p =>
      cases h : assertPaymentOwnedByActor p actor with
      | error e => simp [ownedPayment, h, Except.map]
      | ok u => simp [ownedPayment, h, Except.map]

/-- A foreign payment and a missing one are answered alike. -/
theorem ownedPayment_foreign {payment : Option BillPayment} (hsub : requireActorSub actor = .ok sub)
    (hrole : canViewAllBillPayments actor = false)
    (hforeign : ∀ p, payment = some p → p.isOf sub = false) :
    ownedPayment actor payment = .error paymentNotFound := by
  cases payment with
  | none => rfl
  | some p => simp [ownedPayment, assertOwned_foreign hsub hrole (hforeign p rfl), Except.map]

section Lookup

variable {limits : Nat → Choice → Prop} {n : Nat} {α : Type} {k : BillPayment → Prog α}

/-- Requests that go on alike with an own payment are alike. -/
theorem alike_findOne_bind (hsub : requireActorSub actor = .ok sub)
    (hrole : canViewAllBillPayments actor = false) (hR : SamePayments sub s t)
    (hk : ∀ p ∈ s.payments, p ∈ t.payments → p.id = id → p.isOf sub = true →
      Alike backend limits (SamePayments sub) (n + 1) s t (k p) (k p)) :
    Alike backend limits (SamePayments sub) n s t
      (findOne id actor >>= k) (findOne id actor >>= k) := by
  rw [findOne_eq, bind_assoc]
  refine alike_await_bind fun ch _ => ?_
  have hread : ∀ s, backend.perform (.findPayment id) ch s =
      (.ok (s.payments.findOne (fun p => p.id == id) ch.pick), s) := fun _ => rfl
  rw [hread, hread, settled_ok, settled_ok, resolve_bind, resolve_bind]
  rcases Sql.Table.findOne_agree (i := id) hR (fun p => beq_iff_eq) ch.pick with
    ⟨p, hown, hs, ht⟩ | ⟨hs, ht⟩
  · have hstored := Sql.Table.findOne_some hs
    have hsettles : ownedPayment actor (some p) = .ok p := by
      simp [ownedPayment, assertOwned_own hsub hrole hown, Except.map]
    rw [hs, ht, hsettles]
    exact hk p hstored.1 (Sql.Table.findOne_some ht).1 (by simpa using hstored.2) hown
  · rw [ownedPayment_foreign hsub hrole hs, ownedPayment_foreign hsub hrole ht]
    exact .settled (.error paymentNotFound) hR

theorem alike_findOne (hsub : requireActorSub actor = .ok sub)
    (hrole : canViewAllBillPayments actor = false) (hR : SamePayments sub s t) :
    Alike backend limits (SamePayments sub) n s t (findOne id actor) (findOne id actor) := by
  rw [← bind_pure (findOne id actor)]
  exact alike_findOne_bind hsub hrole hR fun p _ _ _ _ => .settled (.ok p) hR

theorem alike_findAll (hsub : requireActorSub actor = .ok sub)
    (hrole : canViewAllBillPayments actor = false) (hR : SamePayments sub s t) :
    Alike backend limits (SamePayments sub) n s t (findAll actor) (findAll actor) := by
  unfold findAll
  rw [hrole, hsub]
  exact alike_call fun ch _ => ⟨congrArg Except.ok hR, hR⟩

end Lookup

/-! ## Retrying -/

/-- The last part of `payViaBbps`: the bill that has been paid is marked, if it is found. -/
def payBill (payment : BillPayment) : Prog Unit := do
  let found ← findBillingRecord payment.billerCode payment.consumerNumber
  match found with
  | some found => markPaid found
  | none => return ()

theorem payViaBbps_eq (id : String) (actor : Actor) :
    payViaBbps id actor = findOne id actor >>= fun payment =>
      if payment.status = "SUCCESS" then return ()
      else do
        let bbpsResponse : BbpsPaymentResponse ← call (.pay payment.payRequest)
        let payment := payment.answered bbpsResponse
        let _ : Unit ← call (.savePayment payment)
        if bbpsResponse.status = .SUCCESS then payBill payment else return () := by
  unfold payViaBbps findOne
  rw [bind_assoc]
  refine congrArg _ (funext fun payment => ?_)
  cases (payment : Option BillPayment) with
  | none => rfl
  | some p =>
      dsimp only
      rw [bind_assoc]
      rfl

/-- Saving a payment under the owner it has writes the same in both stores. -/
theorem same_savePayment {q : BillPayment} (hR : SamePayments sub s t) (hs : p ∈ s.payments)
    (ht : p ∈ t.payments) (hid : p.id = q.id) (hkey : p.idempotencyKey = q.idempotencyKey)
    (hown : p.isOf sub = q.isOf sub) (limits : Choice → Prop) :
    SameOutcome backend limits (SamePayments sub) s t (.savePayment q) := by
  intro ch _
  rcases Sql.Table.exists_save? hs hid hkey with ⟨t₁, h₁⟩
  rcases Sql.Table.exists_save? ht hid hkey with ⟨t₂, h₂⟩
  have hsaved : t₂.find (BillPayment.isOf sub) = t₁.find (BillPayment.isOf sub) := by
    rw [Sql.Table.find_save? h₂ ht hid hown, Sql.Table.find_save? h₁ hs hid hown, hR]
  unfold backend perform
  dsimp only
  unfold savePayment?
  rw [h₁, h₂]
  by_cases hfits : (q.bbpsReferenceId.getD "").length ≤ 255
  · rw [if_pos hfits, if_pos hfits]
    cases hfails : ch.fails with
    | true => simpa [write, hfails] using hR
    | false => simpa [write, hfails, SamePayments] using hsaved
  · rw [if_neg hfits, if_neg hfits]
    exact ⟨rfl, hR⟩

section Settled

variable {limits : Choice → Prop}

/-- A lookup of a bill changes nothing, and what it finds is stored. -/
theorem ensures_resolveRecord (q : BillWhere) :
    Ensures (backend.restrict limits) (fun _ => True)
      (fun s' r => s' = s ∧ ∃ found, r = .ok found ∧ ∀ x, found = some x → x ∈ s) s
      (resolveRecord q) := by
  unfold resolveRecord
  refine ensures_call_bind (fun _ => trivial) ?_ ?_
  · intro ch e h
    cases h
  · intro ch mock h
    have hmock : s.mockBills.findOne (fun b => q.matches b.toBill) ch.1.pick = mock :=
      Except.ok.inj h
    cases (mock : Option MockBill) with
    | some b =>
        refine ⟨rfl, _, rfl, ?_⟩
        rintro x ⟨⟩
        exact (Sql.Table.findOne_some hmock).1
    | none =>
        refine ensures_call_bind (fun _ => trivial) ?_ ?_
        · intro ch e h
          cases h
        · intro ch demo h
          have hdemo : s.demoBills.findOne (fun d => q.matches d.toBill) ch.1.pick = demo :=
            Except.ok.inj h
          cases (demo : Option DemoBbpsData) with
          | some d =>
              refine ⟨rfl, _, rfl, ?_⟩
              rintro x ⟨⟩
              exact (Sql.Table.findOne_some hdemo).1
          | none => exact ⟨rfl, _, rfl, fun x hx => by cases hx⟩

/-- A stored bill is marked `PAID`, when the database does not fail. -/
theorem ensures_markPaid {found : BillingRecord} (hlimits : ∀ ch, limits ch → ch.fails = false)
    (hfound : found ∈ s) :
    Ensures (backend.restrict limits) (fun _ => True)
      (fun s' r => r = .ok () ∧ s'.payments = s.payments) s (markPaid found) := by
  have hsaved : ∀ ch, limits ch → ∃ u s', perform (found.setStatus "PAID").save ch s = (.ok u, s') ∧
      s'.payments = s.payments := by
    intro ch hch
    have hok : (perform (found.setStatus "PAID").save ch s).1.isOk = true :=
      (markPaid_isOk hfound).2 (hlimits ch hch)
    rcases perform_save (found.setStatus "PAID") ch s with h | ⟨u, s', h, hpayments, _⟩
    · rw [h] at hok
      simp [Except.isOk, Except.toBool] at hok
    · exact ⟨u, s', h, hpayments⟩
  cases found with
  | mock b =>
      refine fun ch => ⟨trivial, ensures_settled.2 ?_⟩
      rcases hsaved ch.1 ch.2 with ⟨u, s', h, hpayments⟩
      exact ⟨congrArg Prod.fst h, (congrArg (fun r => r.2.payments) h).trans hpayments⟩
  | demo d =>
      refine fun ch => ⟨trivial, ensures_settled.2 ?_⟩
      rcases hsaved ch.1 ch.2 with ⟨u, s', h, hpayments⟩
      exact ⟨congrArg Prod.fst h, (congrArg (fun r => r.2.payments) h).trans hpayments⟩

/-- What a retry does after its payment is saved leaves the payments as they are. -/
theorem ensures_payBill {payment : BillPayment} (hlimits : ∀ ch, limits ch → ch.fails = false) :
    Ensures (backend.restrict limits) (fun _ => True)
      (fun s' r => r = .ok () ∧ s'.payments = s.payments) s (payBill payment) := by
  refine (ensures_resolveRecord _).bind ?_ ?_
  · intro s' found h
    rcases h with ⟨rfl, found', hfound, hstored⟩
    cases hfound
    cases found with
    | none => exact ⟨rfl, rfl⟩
    | some found => exact ensures_markPaid hlimits (hstored found rfl)
  · intro s' e h
    rcases h.2 with ⟨found, hfound, _⟩
    cases hfound

theorem ensures_findOne (hsub : requireActorSub actor = .ok sub)
    (hrole : canViewAllBillPayments actor = false) (hp : p ∈ s.payments) (hown : p.isOf sub = true) :
    Ensures (backend.restrict limits) (fun _ => True) (fun s' r => s' = s ∧ r = .ok p) s
      (findOne p.id actor) := by
  rw [findOne_eq]
  have hfound : ∀ pick, s.payments.findOne (fun x => x.id == p.id) pick = some p := by
    intro pick
    refine Sql.Table.findOne_of_unique pick hp (beq_self_eq_true _) ?_
    intro x hx hid
    exact Sql.Table.eq_of_id hx hp (beq_iff_eq.1 hid)
  refine ensures_call_bind (fun _ => trivial) ?_ ?_
  · intro ch e h
    cases h
  · intro ch payment h
    have hpayment : some p = payment := (hfound ch.1.pick).symm.trans (Except.ok.inj h)
    subst hpayment
    simp [ownedPayment, assertOwned_own hsub hrole hown, Except.map]

end Settled

/-- A payment is stored after its save. -/
theorem mem_saved {q : BillPayment} {ch : Choice} {u : Unit} {s s' : Store}
    (h : perform (.savePayment q) ch s = (.ok u, s')) : q ∈ s'.payments := by
  rcases perform_savePayment q ch s with hfailed | ⟨t, hsaved, hmem⟩
  · rw [h] at hfailed
    cases hfailed
  · rw [h] at hsaved
    cases hsaved
    exact (hmem q).2 (.inl rfl)

theorem alike_retry (hsub : requireActorSub actor = .ok sub)
    (hrole : canViewAllBillPayments actor = false) (hR : SamePayments sub s t) :
    Alike backend billsSaved (SamePayments sub) 0 s t (retry id actor) (retry id actor) := by
  unfold retry
  rw [payViaBbps_eq, bind_assoc]
  refine alike_findOne_bind hsub hrole hR fun p hs ht hid hown => ?_
  by_cases hpaid : p.status = "SUCCESS"
  · rw [if_pos hpaid]
    exact alike_findOne hsub hrole hR
  · rw [if_neg hpaid, bind_assoc]
    have hpay : SameOutcome backend (billsSaved 1) (SamePayments sub) s t (.pay p.payRequest) := by
      intro ch _
      cases hanswer : ch.answer with
      | none => simpa [backend, perform, hanswer] using hR
      | some resp => simpa [backend, perform, hanswer] using hR
    refine alike_call_bind hpay fun ch resp s₁ t₁ hR₁ hs₁ ht₁ => ?_
    have hs₁' : s₁ = s := (congrArg Prod.snd hs₁).symm.trans (perform_pay_state _ _ _)
    have ht₁' : t₁ = t := (congrArg Prod.snd ht₁).symm.trans (perform_pay_state _ _ _)
    subst hs₁' ht₁'
    dsimp only
    rw [bind_assoc]
    refine alike_call_bind (same_savePayment (q := p.answered resp) hR hs ht rfl rfl rfl _) ?_
    intro ch u s₂ t₂ hR₂ hs₂ ht₂
    by_cases hsuccess : resp.status = .SUCCESS
    · -- The bills of the two stores may differ: the runs come apart.
      rw [if_pos hsuccess]
      have hlimits : ∀ ch : Choice, (∃ m, 3 ≤ m ∧ billsSaved m ch) → ch.fails = false := by
        intro ch h
        rcases h with ⟨m, hm, hch⟩
        exact hch hm
      have hends : ∀ m : Store, p.answered resp ∈ m.payments →
          Ensures (backend.restrict fun ch => ∃ m, 3 ≤ m ∧ billsSaved m ch) (fun _ => True)
            (fun s' r => r = .ok (p.answered resp) ∧ s'.payments = m.payments) m
            (payBill (p.answered resp) >>= fun _ => findOne id actor) := by
        intro m hm
        refine (ensures_payBill hlimits).bind ?_ ?_
        · intro s' u h
          have hfound : Ensures (backend.restrict fun ch => ∃ m, 3 ≤ m ∧ billsSaved m ch)
              (fun _ => True) (fun s'' r => s'' = s' ∧ r = .ok (p.answered resp)) s'
              (findOne (p.answered resp).id actor) :=
            ensures_findOne hsub hrole (h.2.symm ▸ hm) hown
          rw [show (p.answered resp).id = id from hid] at hfound
          exact hfound.mono fun s'' r h' => ⟨h'.2, h'.1.symm ▸ h.2⟩
        · intro s' e h
          cases h.1
      refine .apart (.ok (p.answered resp)) _ _ (hends s₂ (mem_saved hs₂))
        (hends t₂ (mem_saved ht₂)) ?_
      intro s' t' hs' ht'
      unfold SamePayments
      rw [hs', ht']
      exact hR₂
    · rw [if_neg hsuccess]
      exact alike_findOne hsub hrole hR₂

end Own

end Bbps
end IdentityBillpay
