import IdentityBillpay.Bbps.Ledger

/-!
# Finality — a payment saved as `SUCCESS`

A retry checks the status it has read, calls BBPS, and then writes its copy of the row back. Two
retries of one payment may hold copies at the same time.

* `retryInFlight` — a retry that still holds an open copy of a payment;
* `success_is_final` — without another retry in flight when `SUCCESS` is saved, the row stays;
* `success_overwritten` — with one, it may be overwritten.
-/

namespace IdentityBillpay
namespace Bbps

open Async

/-- The events of a retry that has read payment `id` open and has not yet saved its answer. -/
def holdsCopy (id : String) (actor : Actor) : Own → Bool
  | [⟨.findPayment id', .ok (some p)⟩] => id' = id ∧ MayRetry actor p
  | [⟨.findPayment id', .ok (some p)⟩, ⟨.pay _, .ok _⟩] => id' = id ∧ MayRetry actor p
  | _ => false

/-- Request `j` is a retry of payment `id`, between its read and its save. -/
def retryInFlight (h : History service) (id : String) (j : Nat) : Bool :=
  match h.requests[j]? with
  | some (.payViaBbps _ actor) => holdsCopy id actor (h.own j)
  | _ => false

/-- When `SUCCESS` is saved over a payment, no other retry of that payment is in flight. -/
def OverwritesAlone (h : History service) (e : Event sig ServiceError) : Prop :=
  ∀ q ∈ e.op.savedPayment?, q.status = "SUCCESS" →
    ∀ j < h.requests.length, j ≠ e.who → retryInFlight h q.id j = false

instance (h : History service) (e : Event sig ServiceError) : Decidable (OverwritesAlone h e) :=
  inferInstanceAs (Decidable (∀ q ∈ e.op.savedPayment?, _))

theorem holdsCopy_iff {id : String} {actor : Actor} {own : Own} :
    holdsCopy id actor own = true ↔ ∃ p, MayRetry actor p ∧
      (own = [⟨.findPayment id, .ok (some p)⟩] ∨
        ∃ req resp, own = [⟨.findPayment id, .ok (some p)⟩, ⟨.pay req, .ok resp⟩]) := by
  constructor
  · intro h
    unfold holdsCopy at h
    split at h
    · rename_i id' p
      have hp : id' = id ∧ MayRetry actor p := by simpa using h
      exact ⟨p, hp.2, .inl (by rw [hp.1])⟩
    · rename_i id' p req resp
      have hp : id' = id ∧ MayRetry actor p := by simpa using h
      exact ⟨p, hp.2, .inr ⟨req, resp, by rw [hp.1]⟩⟩
    · cases h
  · intro h
    rcases h with ⟨p, hp, rfl | ⟨req, resp, rfl⟩⟩
    · simp [holdsCopy, hp]
    · simp [holdsCopy, hp]

theorem retryInFlight_iff {h : History service} {id : String} {j : Nat} :
    retryInFlight h id j = true ↔ ∃ id' actor, h.requests[j]? = some (.payViaBbps id' actor) ∧
      holdsCopy id actor (h.own j) = true := by
  constructor
  · intro hf
    unfold retryInFlight at hf
    split at hf
    · rename_i id' actor hr
      exact ⟨id', actor, hr, hf⟩
    · cases hf
  · intro hf
    rcases hf with ⟨id', actor, hr, hown⟩
    simp [retryInFlight, hr, hown]

/-- A retry in flight has read the payment. -/
theorem read_of_inFlight {h : History service} {id : String} {j : Nat}
    (hf : retryInFlight h id j = true) :
    ∃ p, (⟨⟨.findPayment id, .ok (some p)⟩, j⟩ : Event sig ServiceError) ∈ h.trace := by
  rcases retryInFlight_iff.1 hf with ⟨id', actor, _, hown⟩
  rcases holdsCopy_iff.1 hown with ⟨p, _, hown | ⟨req, resp, hown⟩⟩
  · exact ⟨p, History.mem_own.1 (by simp [hown])⟩
  · exact ⟨p, History.mem_own.1 (by simp [hown])⟩

section Step

variable {s : Store} {h : History service} {i j : Nat} {r : Request} {op : Op} {ch : Choice}
  {id : String}

/-- A retry in flight after an operation was in flight before it and did not save, or it has just
read an open payment. -/
theorem inFlight_perform (hf : retryInFlight (h.perform i op ch) id j = true) :
    (retryInFlight h id j = true ∧ (j = i → op.savedPayment? = none)) ∨
      (op = .findPayment id ∧ ∃ p ∈ h.state.payments, p.id = id ∧ p.status ≠ "SUCCESS") := by
  by_cases hij : j = i
  · subst hij
    rcases retryInFlight_iff.1 hf with ⟨id', actor, hr, hown⟩
    rcases holdsCopy_iff.1 hown with ⟨p, hp, hown | ⟨req, resp, hown⟩⟩
    · -- The only event is the one just performed: the read.
      right
      rw [History.perform_own_self] at hown
      have hnil : h.own j ++ [⟨op, (perform op ch h.state).1⟩] =
          [] ++ [⟨.findPayment id, .ok (some p)⟩] := hown
      have hread := List.singleton_inj.1 (List.append_inj' hnil rfl).2
      injection hread with hop hres
      subst hop
      have hfound : h.state.payments.findOne (fun p => p.id == id) ch.pick = some p := by
        simpa using eq_of_heq hres
      have hstored := Sql.Table.findOne_some hfound
      exact ⟨rfl, p, hstored.1, by simpa using hstored.2, hp.notSuccess⟩
    · -- The last event is the BBPS call: the copy was held before it.
      left
      rw [History.perform_own_self] at hown
      have hcons : h.own j ++ [⟨op, (perform op ch h.state).1⟩] =
          [⟨.findPayment id, .ok (some p)⟩] ++ [⟨.pay req, .ok resp⟩] := hown
      have hsplit := List.append_inj' hcons rfl
      have hpay := List.singleton_inj.1 hsplit.2
      injection hpay with hop _
      refine ⟨retryInFlight_iff.2 ⟨id', actor, hr, ?_⟩, fun _ => by rw [hop]; rfl⟩
      exact holdsCopy_iff.2 ⟨p, hp, .inl hsplit.1⟩
  · left
    refine ⟨?_, fun h => absurd h hij⟩
    rcases retryInFlight_iff.1 hf with ⟨id', actor, hr, hown⟩
    rw [History.perform_own_ne _ _ _ hij] at hown
    exact retryInFlight_iff.2 ⟨id', actor, hr, hown⟩

/-- No retry in flight holds an open copy of a payment that is stored as `SUCCESS`. -/
structure FinalInv (s : Store) (h : History service) : Prop where
  ledger : LedgerInv s h
  alone : ∀ p ∈ h.state.payments, p.status = "SUCCESS" → ∀ j, retryInFlight h p.id j = false

/-- The request that overwrites a payment is in flight until it does. -/
theorem inFlight_of_save (hI : LedgerInv s h) (hr : h.requests[i]? = some r)
    (hop : Awaits r (h.own i) op) {q : BillPayment} (hq : op = .savePayment q) :
    retryInFlight h q.id i = true := by
  rcases awaits_savePayment hop hq with ⟨id, actor, p, resp, rfl, hp, hown, rfl⟩
  have hread : (⟨.findPayment id, .ok (some p)⟩ : Awaited sig ServiceError) ∈ h.own i := by
    simp [hown]
  have hid : p.id = id := (hI.reads i id p (History.mem_own.1 hread)).1
  have hid' : (p.answered resp).id = id := hid
  rw [hid']
  exact retryInFlight_iff.2 ⟨id, actor, hr, holdsCopy_iff.2 ⟨p, hp, .inr ⟨_, resp, hown⟩⟩⟩

/-- A payment stored as `SUCCESS` is not touched by an operation. -/
theorem success_kept (hI : FinalInv s h) (hr : h.requests[i]? = some r)
    (hop : Awaits r (h.own i) op) {p : BillPayment} (hp : p ∈ h.state.payments)
    (hsuccess : p.status = "SUCCESS") : p ∈ (perform op ch h.state).2.payments := by
  -- The row became final in this step, so a payment has been written.
  rcases perform_payments_cases op ch h.state with hsame | ⟨q, hq, _, hmem⟩ |
    ⟨new, amount, _, _, _, _, hmem⟩
  · rw [hsame]
    exact hp
  · -- The saving retry is in flight, so its payment is another one.
    refine (hmem p).2 (.inr ⟨hp, ?_⟩)
    intro hid
    have hflight := inFlight_of_save hI.ledger hr hop hq
    have halone := hI.alone p hp hsuccess i
    rw [hid, hflight] at halone
    cases halone
  · exact (hmem p).2 (.inl hp)

/-- One operation keeps the invariant, if it saves `SUCCESS` over a payment alone. -/
theorem finalInv_perform (hI : FinalInv s h) (hr : h.requests[i]? = some r)
    (hop : Awaits r (h.own i) op)
    (hC : OverwritesAlone h ⟨⟨op, (perform op ch h.state).1⟩, i⟩) :
    FinalInv s (h.perform i op ch) := by
  refine ⟨ledgerInv_perform hI.ledger hr hop ch, ?_⟩
  intro p hp hsuccess j
  by_contra hnot
  have hf : retryInFlight (h.perform i op ch) p.id j = true := by simpa using hnot
  rcases inFlight_perform hf with ⟨hbefore, hnosave⟩ | ⟨hread, c, hc, hcid, hcopen⟩
  · -- A retry that is in flight still was so before, and then the row was open or not there.
    have hold : p ∉ h.state.payments := by
      intro hold
      have halone := hI.alone p hold hsuccess j
      rw [hbefore] at halone
      cases halone
    rcases perform_payments_cases op ch h.state with hsame | ⟨q, hq, _, hmem⟩ |
      ⟨new, amount, _, _, _, hfresh, hmem⟩
    · rw [History.perform_state, hsame] at hp
      exact hold hp
    · rcases (hmem p).1 hp with rfl | ⟨hp, _⟩
      · by_cases hij : j = i
        · have hnone := hnosave hij
          rw [hq] at hnone
          cases hnone
        · rcases retryInFlight_iff.1 hbefore with ⟨id', actor, hrj, _⟩
          have hlt : j < h.requests.length := (List.getElem?_eq_some_iff.1 hrj).1
          have halone := hC p (by simp [hq, Op.savedPayment?]) hsuccess j hlt hij
          rw [hbefore] at halone
          cases halone
      · exact hold hp
    · rcases (hmem p).1 hp with hp | rfl
      · exact hold hp
      · -- The id of an inserted row is unused, so nobody has read it.
        rcases read_of_inFlight hbefore with ⟨c, hc⟩
        rcases hI.ledger.reads j _ c hc with ⟨hid, q, hq, hqc⟩
        exact (hfresh q hq).1 ((id_eq_of_entry hqc).trans hid)
  · -- A read changes nothing, and it has found the row that is stored.
    have hold : p ∈ h.state.payments := by
      rw [History.perform_state, hread] at hp
      exact hp
    have hcp : c = p := Sql.Table.eq_of_id hc hold hcid
    exact hcopen (hcp ▸ hsuccess)

end Step

theorem finalInv_start {s : Store} {h : History service} (hattr : h.Attributed)
    (hI : FinalInv s h) (r : Request) : FinalInv s (h.start r) := by
  refine ⟨ledgerInv_start hI.ledger r, ?_⟩
  intro p hp hsuccess j
  by_contra hnot
  have hf : retryInFlight (h.start r) p.id j = true := by simpa using hnot
  rcases retryInFlight_iff.1 hf with ⟨id', actor, hrj, hown⟩
  rcases History.start_requests_cases hrj with hrj | ⟨hj, _⟩
  · have halone := hI.alone p hp hsuccess j
    rw [retryInFlight_iff.2 ⟨id', actor, hrj, hown⟩] at halone
    cases halone
  · -- The request just started has read nothing.
    rw [History.start_own, hattr.own_eq_nil (Nat.le_of_eq hj.symm)] at hown
    cases hown

theorem finalInv_run {s : Store} {as : List (Action service)}
    (hC : Config.Meets OverwritesAlone (Config.initial service s) as) :
    FinalInv s ((Config.initial service s).run as).toHistory := by
  refine Config.run_induction follows_program ?_ ?_ ?_ as hC
  · exact fun h r hattr hI => finalInv_start hattr hI r
  · exact fun h i r op ch _ hI hr hop hC => finalInv_perform hI hr hop hC
  · refine ⟨ledgerInv_initial s, ?_⟩
    intro p hp hsuccess j
    simp [retryInFlight, Config.initial]

/-- `p` is stored, as `SUCCESS`. -/
def StaysPaid (s : Store) (p : BillPayment) (h : History service) : Prop :=
  FinalInv s h ∧ p ∈ h.state.payments ∧ p.status = "SUCCESS"

/-- `SUCCESS` is final. In a run in which `SUCCESS` is saved over a payment only while no other
retry of it is in flight, a payment row that says `SUCCESS` stays as it is in every later state. -/
theorem success_is_final (s : Store) (as bs : List (Action service))
    (hC : Config.Meets OverwritesAlone (Config.initial service s) (as ++ bs)) (p : BillPayment)
    (hp : p ∈ ((Config.initial service s).run as).state.payments)
    (hsuccess : p.status = "SUCCESS") :
    p ∈ ((Config.initial service s).run (as ++ bs)).state.payments := by
  rcases Config.meets_append.1 hC with ⟨has, hbs⟩
  have hstart : StaysPaid s p ((Config.initial service s).run as).toHistory :=
    ⟨finalInv_run has, hp, hsuccess⟩
  have hend : StaysPaid s p ((Config.initial service s).run (as ++ bs)).toHistory := by
    refine Config.run_induction_after follows_program ?_ ?_ hstart hbs
    · exact fun h r hattr hI => ⟨finalInv_start hattr hI.1 r, hI.2⟩
    · intro h i r op ch _ hI hr hop hC
      rcases hI with ⟨hI, hp, hsuccess⟩
      exact ⟨finalInv_perform hI hr hop hC, success_kept hI hr hop hp hsuccess, hsuccess⟩
  exact hend.2.1

/-- A store with one open payment. -/
def openStore : Store :=
  sampleStore [samplePayment] [] []

/-- `samplePayment` as a retry that BBPS answered `SUCCESS` saves it. -/
def paidPayment : BillPayment :=
  samplePayment.answered ⟨.SUCCESS, some "BBPS-1"⟩

/-- One retry of the open payment, from its start to its save. -/
def soloRetry : List (Action service) :=
  [.start (.payViaBbps "payment-1" sampleCustomer), .resume 0 .plain,
    .resume 0 (.answers .SUCCESS (some "BBPS-1")), .resume 0 .plain]

theorem success_is_final_soloRetry :
    paidPayment ∈ ((Config.initial service openStore).run (soloRetry ++
      [.start (.payViaBbps "payment-1" sampleCustomer), .resume 1 .plain])).state.payments :=
  success_is_final openStore soloRetry _ (by decide) paidPayment (by decide) (by decide)

/-- Two retries read the open payment; the first is answered `SUCCESS` and saves it. -/
def overlappingRetries : List (Action service) :=
  [.start (.payViaBbps "payment-1" sampleCustomer), .start (.payViaBbps "payment-1" sampleCustomer),
    .resume 0 .plain, .resume 1 .plain, .resume 0 (.answers .SUCCESS (some "BBPS-1")),
    .resume 1 (.answers .FAILED (some "BBPS-2")), .resume 0 .plain]

/-- The second retry then writes its own answer over the `SUCCESS`. -/
theorem success_overwritten :
    paidPayment ∈ ((Config.initial service openStore).run overlappingRetries).state.payments ∧
    samplePayment.answered ⟨.FAILED, some "BBPS-2"⟩ ∈
      ((Config.initial service openStore).run
        (overlappingRetries ++ [.resume 1 .plain])).state.payments := by
  decide

end Bbps
end IdentityBillpay
