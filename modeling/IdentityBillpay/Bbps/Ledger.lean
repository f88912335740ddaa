import IdentityBillpay.Bbps.Service

/-!
# Ledger — the payment table only grows

* `LedgerEntry` — the columns of a payment that no request ever changes;
* `LedgerInv` — the copies that requests hold and the rows of the table agree on them, and every
  new row comes from a create that called BBPS for it;
* `payments_append_only` — the payment table is an append-only ledger.
-/

namespace IdentityBillpay
namespace Bbps

open Async

/-- The columns of a payment that stay as they were inserted. -/
structure LedgerEntry where
  id : String
  billerCode : String
  consumerNumber : String
  amount : Amount
  idempotencyKey : String
  keycloakUserId : Option String
  deriving DecidableEq

def BillPayment.entry (p : BillPayment) : LedgerEntry where
  id := p.id
  billerCode := p.billerCode
  consumerNumber := p.consumerNumber
  amount := p.amount
  idempotencyKey := p.idempotencyKey
  keycloakUserId := p.keycloakUserId

/-- The BBPS call for an entry. -/
def LedgerEntry.payRequest (e : LedgerEntry) : BbpsPaymentRequest where
  billerCode := e.billerCode
  consumerNumber := e.consumerNumber
  amount := e.amount.toNumber

@[simp] theorem entry_answered (p : BillPayment) (resp : BbpsPaymentResponse) :
    (p.answered resp).entry = p.entry := rfl

theorem id_eq_of_entry {p q : BillPayment} (h : p.entry = q.entry) : p.id = q.id :=
  congrArg LedgerEntry.id h

/-- An amount read from a bill is stored in the payment unchanged. -/
theorem ofNumber_amount {d amount : Amount}
    (h : (Sql.Decimal.ofNumber d.toNumber : Option Amount) = some amount) : amount = d := by
  rw [Sql.Decimal.ofNumber_toNumber d (by decide) (by decide)] at h
  exact (Option.some.inj h).symm

/-- A create of the run called BBPS for the entry and then inserted it, under its own sub and its
own key. -/
def InsertedBy (h : History service) (e : LedgerEntry) : Prop :=
  ∃ i dto actor sub resp new, h.requests[i]? = some (.create dto actor) ∧
    requireActorSub actor = .ok sub ∧ e.keycloakUserId = some sub ∧
    e.idempotencyKey = dto.idempotencyKey ∧
    (⟨⟨.pay e.payRequest, .ok resp⟩, i⟩ : Event sig ServiceError) ∈ h.trace ∧
    (⟨⟨.insertPayment new, .ok e.id⟩, i⟩ : Event sig ServiceError) ∈ h.trace

theorem InsertedBy.start {h : History service} {e : LedgerEntry} (he : InsertedBy h e)
    (r : Request) : InsertedBy (h.start r) e := by
  rcases he with ⟨i, dto, actor, sub, resp, new, hr, hsub, huser, hkey, hpay, hinsert⟩
  exact ⟨i, dto, actor, sub, resp, new, History.start_requests_some hr, hsub, huser, hkey, hpay,
    hinsert⟩

theorem InsertedBy.perform {h : History service} {e : LedgerEntry} (he : InsertedBy h e) (i : Nat)
    (op : Op) (ch : Choice) : InsertedBy (h.perform i op ch) e := by
  rcases he with ⟨j, dto, actor, sub, resp, new, hr, hsub, huser, hkey, hpay, hinsert⟩
  exact ⟨j, dto, actor, sub, resp, new, hr, hsub, huser, hkey,
    History.mem_perform.2 (.inl hpay), History.mem_perform.2 (.inl hinsert)⟩

/-- Copies and rows agree on the ledger entries. -/
structure LedgerInv (s : Store) (h : History service) : Prop where
  /-- A payment read by id is still stored, up to its status and reference. -/
  reads : ∀ i id p, (⟨⟨.findPayment id, .ok (some p)⟩, i⟩ : Event sig ServiceError) ∈ h.trace →
    p.id = id ∧ ∃ q ∈ h.state.payments, q.entry = p.entry
  /-- A row was there at the start or was inserted by a create of the run. -/
  rows : ∀ q ∈ h.state.payments, (∃ p ∈ s.payments, p.entry = q.entry) ∨ InsertedBy h q.entry

section Step

variable {s : Store} {h : History service} {i : Nat} {r : Request} {op : Op}

/-- No operation a request may perform loses a ledger entry. -/
theorem entry_kept (hI : LedgerInv s h) (hop : Awaits r (h.own i) op) (ch : Choice)
    {p : BillPayment} (hp : p ∈ h.state.payments) :
    ∃ q ∈ (perform op ch h.state).2.payments, q.entry = p.entry := by
  rcases perform_payments_cases op ch h.state with hsame | ⟨q, hq, _, hmem⟩ |
    ⟨new, amount, _, _, _, _, hmem⟩
  · exact ⟨p, by rw [hsame]; exact hp, rfl⟩
  · -- A retry writes back an answered copy of a row, and the row has kept its entry.
    rcases awaits_savePayment hop hq with ⟨id, _, c, resp, _, _, hown, rfl⟩
    have hread : (⟨.findPayment id, .ok (some c)⟩ : Awaited sig ServiceError) ∈ h.own i := by
      simp [hown]
    rcases hI.reads i id c (History.mem_own.1 hread) with ⟨_, q, hq, hqc⟩
    by_cases hid : p.id = c.id
    · have hpq : p = q := Sql.Table.eq_of_id hp hq (hid.trans (id_eq_of_entry hqc).symm)
      refine ⟨c.answered resp, (hmem _).2 (.inl rfl), ?_⟩
      rw [entry_answered, hpq, hqc]
    · exact ⟨p, (hmem p).2 (.inr ⟨hp, hid⟩), rfl⟩
  · exact ⟨p, (hmem p).2 (.inl hp), rfl⟩

/-- The row a create inserts records the BBPS call it made. -/
theorem insertedBy_perform {new : NewPayment} (hr : h.requests[i]? = some r)
    (hop : Awaits r (h.own i) (.insertPayment new)) {amount : Amount} {ch : Choice}
    (hamount : Sql.Decimal.ofNumber new.amount = some amount)
    (hok : (perform (.insertPayment new) ch h.state).1 = .ok ch.freshId) :
    InsertedBy (h.perform i (.insertPayment new) ch) (new.row ch.freshId amount).entry := by
  rcases awaits_insertPayment hop rfl with
    ⟨dto, actor, before, found, resp, sub, rfl, _, hsub, hown, rfl⟩
  rw [newPayment_amount] at hamount
  have hbill : amount = found.bill.amount := ofNumber_amount hamount
  have hpay : (⟨.pay found.bill.payRequest, .ok resp⟩ : Awaited sig ServiceError) ∈ h.own i := by
    simp [hown]
  refine ⟨i, dto, actor, sub, resp, newPayment dto sub found.bill resp, hr, hsub, rfl, rfl, ?_, ?_⟩
  · rw [hbill]
    exact History.mem_perform.2 (.inl (History.mem_own.1 hpay))
  · exact History.mem_perform.2 (.inr ⟨rfl, rfl, hok.symm⟩)

/-- One operation keeps the invariant. -/
theorem ledgerInv_perform (hI : LedgerInv s h) (hr : h.requests[i]? = some r)
    (hop : Awaits r (h.own i) op) (ch : Choice) : LedgerInv s (h.perform i op ch) := by
  constructor
  · intro j id p hmem
    rcases History.mem_perform.1 hmem with hold | ⟨_, hread, hres⟩
    · rcases hI.reads j id p hold with ⟨hid, q, hq, hqp⟩
      rcases entry_kept hI hop ch hq with ⟨q', hq', hq'q⟩
      exact ⟨hid, q', hq', hq'q.trans hqp⟩
    · -- The row just read is in the table, and reading changes nothing.
      dsimp only at hread hres
      subst hread
      have hfound : some p = h.state.payments.findOne (fun p => p.id == id) ch.pick := by
        simpa using hres
      have hp := Sql.Table.findOne_some hfound.symm
      exact ⟨by simpa using hp.2, p, hp.1, rfl⟩
  · intro q hq
    rcases perform_payments_cases op ch h.state with hsame | ⟨q', hq', _, hmem⟩ |
      ⟨new, amount, hnew, hok, hamount, _, hmem⟩
    · rw [History.perform_state, hsame] at hq
      exact (hI.rows q hq).imp_right fun he => he.perform i op ch
    · rcases (hmem q).1 hq with rfl | ⟨hq, _⟩
      · rcases awaits_savePayment hop hq' with ⟨id, _, c, resp, _, _, hown, rfl⟩
        have hread : (⟨.findPayment id, .ok (some c)⟩ : Awaited sig ServiceError) ∈ h.own i := by
          simp [hown]
        rcases hI.reads i id c (History.mem_own.1 hread) with ⟨_, q, hq, hqc⟩
        rw [entry_answered, ← hqc]
        exact (hI.rows q hq).imp_right fun he => he.perform i _ ch
      · exact (hI.rows q hq).imp_right fun he => he.perform i op ch
    · rcases (hmem q).1 hq with hq | rfl
      · exact (hI.rows q hq).imp_right fun he => he.perform i op ch
      · subst hnew
        exact .inr (insertedBy_perform hr hop hamount hok)

end Step

/-- Starting a request keeps the invariant. -/
theorem ledgerInv_start {s : Store} {h : History service} (hI : LedgerInv s h) (r : Request) :
    LedgerInv s (h.start r) where
  reads := hI.reads
  rows q hq := (hI.rows q hq).imp_right fun he => he.start r

theorem ledgerInv_initial (s : Store) : LedgerInv s (Config.initial service s).toHistory where
  reads i id p hp := by simp [Config.initial] at hp
  rows q hq := .inl ⟨q, hq, rfl⟩

/-- The invariant holds after every run. -/
theorem ledgerInv_run (s : Store) (as : List (Action service)) :
    LedgerInv s ((Config.initial service s).run as).toHistory := by
  refine Config.run_induction follows_program ?_ ?_ (ledgerInv_initial s) as
    (Config.meets_trivial _ as)
  · exact fun h r _ hI => ledgerInv_start hI r
  · exact fun h i r op ch _ hI hr hop _ => ledgerInv_perform hI hr hop ch

/-- The table holds a row with entry `e`. -/
def HasEntry (s : Store) (e : LedgerEntry) (h : History service) : Prop :=
  LedgerInv s h ∧ ∃ q ∈ h.state.payments, q.entry = e

/-- No payment row disappears, and none changes its ledger entry. -/
theorem entries_kept (s : Store) (as bs : List (Action service)) {p : BillPayment}
    (hp : p ∈ ((Config.initial service s).run as).state.payments) :
    ∃ q ∈ ((Config.initial service s).run (as ++ bs)).state.payments, q.entry = p.entry := by
  have hstart : HasEntry s p.entry ((Config.initial service s).run as).toHistory :=
    ⟨ledgerInv_run s as, p, hp, rfl⟩
  have hend : HasEntry s p.entry ((Config.initial service s).run (as ++ bs)).toHistory := by
    refine Config.run_induction_after follows_program ?_ ?_ hstart (Config.meets_trivial _ bs)
    · exact fun h r _ hI => ⟨ledgerInv_start hI.1 r, hI.2⟩
    · intro h i r op ch _ hI hr hop _
      rcases hI with ⟨hI, q, hq, hqp⟩
      rcases entry_kept hI hop ch hq with ⟨q', hq', hq'q⟩
      exact ⟨ledgerInv_perform hI hr hop ch, q', hq', hq'q.trans hqp⟩
  exact hend.2

/-- The payment table is an append-only ledger. Over every interleaved run: a row that is there
after `as` is there after `as ++ bs` with the same ledger entry; no two rows share a key; and a row
that was not there at the start was inserted by a create that called BBPS for its entry, under the
create's own sub. -/
theorem payments_append_only (s : Store) (as bs : List (Action service)) :
    (∀ p ∈ ((Config.initial service s).run as).state.payments,
      ∃ q ∈ ((Config.initial service s).run (as ++ bs)).state.payments, q.entry = p.entry) ∧
    (((Config.initial service s).run as).state.payments.rows.map
      BillPayment.idempotencyKey).Nodup ∧
    ∀ q ∈ ((Config.initial service s).run as).state.payments,
      (∃ p ∈ s.payments, p.entry = q.entry) ∨
        InsertedBy ((Config.initial service s).run as).toHistory q.entry :=
  ⟨fun _ hp => entries_kept s as bs hp, Sql.Table.keys _, (ledgerInv_run s as).rows⟩

end Bbps
end IdentityBillpay
