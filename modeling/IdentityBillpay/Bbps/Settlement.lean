import IdentityBillpay.Bbps.Service

/-!
# Settlement — which bills are marked `PAID`

Bills are overwritten whole, from copies that may be old, by creates, by retries and by the seeder.

* `CopyInv` — a copy that a request holds is still stored, under the same biller and consumer;
* `BillInv` — every copy and every row that says `PAID` goes back to a `SUCCESS` answer of BBPS;
* `paid_bills_settled` — the resulting law.
-/

namespace IdentityBillpay
namespace Bbps

open Async

/-- What a read event says about the table it read. -/
theorem read_performed {r : BillingRecord} {q : BillWhere} {op : Op} {ch : Choice} {s : Store}
    (hop : (r.read q).op = op) (hres : (r.read q).res = (perform (r.read q).op ch s).1) :
    op.isRead = true ∧ r ∈ s ∧ q.matches r.bill = true := by
  cases r with
  | mock b =>
      subst hop
      have hfound : some b = s.mockBills.findOne (fun b => q.matches b.toBill) ch.pick := by
        simpa [BillingRecord.read] using hres
      have hb := Sql.Table.findOne_some hfound.symm
      exact ⟨rfl, hb.1, hb.2⟩
  | demo d =>
      subst hop
      have hfound : some d = s.demoBills.findOne (fun d => q.matches d.toBill) ch.pick := by
        simpa [BillingRecord.read] using hres
      have hd := Sql.Table.findOne_some hfound.symm
      exact ⟨rfl, hd.1, hd.2⟩

theorem sameRow_reseeded (row : BbpsCatalogEntry) (r : BillingRecord) :
    r.SameRow (r.reseeded row) := by
  cases r with
  | mock b => rfl
  | demo d => rfl

theorem pair_reseeded (row : BbpsCatalogEntry) (r : BillingRecord) :
    (r.reseeded row).bill.pair = (row.billerCode, row.consumerNumber) := by
  cases r with
  | mock b => rfl
  | demo d => rfl

/-- The seeder writes `PAID` only over a row it read as `PAID`. -/
theorem status_reseeded {row : BbpsCatalogEntry} {r : BillingRecord}
    (h : (r.reseeded row).bill.status = "PAID") : r.bill.status = "PAID" := by
  have hseeded : seededStatus (some r.bill) = "PAID" := by
    cases r with
    | mock b => exact h
    | demo d => exact h
  by_contra hne
  simp [seededStatus, hne] at hseeded

/-- What a request saves over a bill is a copy it has read, under the pair it was read with. -/
theorem awaits_save_copy {r : Request} {own : Own} {rec : BillingRecord}
    (h : Awaits r own rec.save) : ∃ q, ∃ found : BillingRecord, found.read q ∈ own ∧
      found.SameRow rec ∧ (q.matches found.bill = true → rec.bill.pair = found.bill.pair) := by
  have hpaid : ∀ found : BillingRecord, found.SameRow (found.setStatus "PAID") :=
    fun found => sameRow_setStatus.2 found.sameRow_refl
  rcases awaits_save h rfl with
    ⟨dto, actor, before, found, resp, sub, id, _, hselects, _, hown, rfl⟩ |
    ⟨id, actor, p, resp, reads, found, _, _, _, hlookup, hown, rfl⟩ | ⟨row, found, _, hread, rfl⟩
  · rcases hselects.reads with ⟨reads, hlookup, hbefore⟩
    refine ⟨dto.billWhere, found, ?_, hpaid found, fun _ => by simp⟩
    rw [hown, hbefore]
    exact List.mem_append_left _ (List.mem_cons_of_mem _ hlookup.read_mem)
  · refine ⟨.pair p.billerCode p.consumerNumber, found, ?_, hpaid found, fun _ => by simp⟩
    rw [hown]
    exact List.mem_append_right _ hlookup.read_mem
  · refine ⟨_, found, hread, sameRow_reseeded row found, ?_⟩
    intro hmatches
    exact (pair_reseeded row found).trans (matches_pair.1 hmatches).symm

/-- A copy of a bill is still stored, under the same pair. -/
def CopyInv (h : History service) : Prop :=
  ∀ i q (r : BillingRecord), (⟨r.read q, i⟩ : Event sig ServiceError) ∈ h.trace →
    q.matches r.bill = true ∧
      ∃ r' : BillingRecord, r' ∈ (h.state : Store) ∧ r'.SameRow r ∧ r'.bill.pair = r.bill.pair

section Copies

variable {h : History service} {i : Nat} {r : Request} {op : Op}

/-- Saving over a stored record keeps its pair. -/
theorem pair_of_save (hI : CopyInv h) {rec : BillingRecord} (hop : Awaits r (h.own i) rec.save)
    {x : BillingRecord} (hx : x ∈ (h.state : Store)) (hsame : x.SameRow rec) :
    rec.bill.pair = x.bill.pair := by
  rcases awaits_save_copy hop with ⟨q, found, hread, hfound, hpair⟩
  rcases hI i q found (History.mem_own.1 hread) with ⟨hmatches, y, hy, hyfound, hypair⟩
  have hxy : x = y := eq_of_sameRow hx hy (hsame.trans (hyfound.trans hfound).symm)
  calc
    rec.bill.pair = found.bill.pair := hpair hmatches
    _ = y.bill.pair := hypair.symm
    _ = x.bill.pair := by rw [hxy]

/-- No operation a request may perform removes a bill or changes its pair. -/
theorem bill_kept (hI : CopyInv h) (hop : Awaits r (h.own i) op) (ch : Choice)
    {x : BillingRecord} (hx : x ∈ (h.state : Store)) :
    ∃ y : BillingRecord, y ∈ (perform op ch h.state).2 ∧ y.SameRow x ∧
      y.bill.pair = x.bill.pair := by
  rcases perform_bills_cases op ch h.state with hmem | ⟨saved, hsave, hmem⟩ |
    ⟨row, status, added, hadded, hmem⟩
  · exact ⟨x, (hmem x).2 hx, x.sameRow_refl, rfl⟩
  · subst hsave
    by_cases hsame : x.SameRow saved
    · exact ⟨saved, (hmem saved).2 (.inl rfl), hsame.symm, pair_of_save hI hop hx hsame⟩
    · exact ⟨x, (hmem x).2 (.inr ⟨hx, hsame⟩), x.sameRow_refl, rfl⟩
  · exact ⟨x, (hmem x).2 (.inl hx), x.sameRow_refl, rfl⟩

theorem copyInv_perform (hI : CopyInv h) (hop : Awaits r (h.own i) op) (ch : Choice) :
    CopyInv (h.perform i op ch) := by
  intro j q rec hmem
  rcases History.mem_perform.1 hmem with hold | ⟨_, hread, hres⟩
  · rcases hI j q rec hold with ⟨hmatches, x, hx, hsame, hpair⟩
    rcases bill_kept hI hop ch hx with ⟨y, hy, hyx, hypair⟩
    exact ⟨hmatches, y, hy, hyx.trans hsame, hypair.trans hpair⟩
  · rcases read_performed hread hres with ⟨hisRead, hrec, hmatches⟩
    have hstate : (h.perform i op ch).state = h.state := perform_read hisRead ch h.state
    exact ⟨hmatches, rec, by rw [hstate]; exact hrec, rec.sameRow_refl, rfl⟩

end Copies

theorem copyInv_initial (s : Store) : CopyInv (Config.initial service s).toHistory := by
  intro i q r hr
  simp [Config.initial] at hr

/-! ## Bills that say `PAID` -/

/-- BBPS has answered `SUCCESS` to a call for the pair. -/
def Settled (h : History service) (pair : String × String) : Prop :=
  ∃ i req resp, (⟨⟨.pay req, .ok resp⟩, i⟩ : Event sig ServiceError) ∈ h.trace ∧
    req.pair = pair ∧ resp.status = .SUCCESS

/-- The row was `PAID` at the start. -/
def PaidAtStart (s : Store) (r : BillingRecord) : Prop :=
  ∃ r₀ ∈ s, r₀.SameRow r ∧ r₀.bill.status = "PAID"

/-- A record that says `PAID` was `PAID` at the start or is settled. -/
def Justified (s : Store) (h : History service) (r : BillingRecord) : Prop :=
  r.bill.status = "PAID" → PaidAtStart s r ∨ Settled h r.bill.pair

theorem Settled.perform {h : History service} {pair : String × String} (hs : Settled h pair)
    (i : Nat) (op : Op) (ch : Choice) : Settled (h.perform i op ch) pair := by
  rcases hs with ⟨j, req, resp, hmem, hpair, hsuccess⟩
  exact ⟨j, req, resp, History.mem_perform.2 (.inl hmem), hpair, hsuccess⟩

theorem Justified.perform {s : Store} {h : History service} {r : BillingRecord}
    (hj : Justified s h r) (i : Nat) (op : Op) (ch : Choice) :
    Justified s (h.perform i op ch) r :=
  fun hpaid => (hj hpaid).imp_right fun hs => hs.perform i op ch

/-- Every copy and every row that says `PAID` is justified. -/
structure BillInv (s : Store) (h : History service) : Prop where
  reads : ∀ i q (r : BillingRecord), (⟨r.read q, i⟩ : Event sig ServiceError) ∈ h.trace →
    q.matches r.bill = true ∧ Justified s h r
  rows : ∀ r : BillingRecord, r ∈ (h.state : Store) → Justified s h r

section Step

variable {s : Store} {h : History service} {i : Nat} {r : Request} {op : Op}

/-- What a request may save over a bill is justified by the copy it holds. -/
theorem justified_save (hI : BillInv s h) {rec : BillingRecord} (hop : Awaits r (h.own i) rec.save) :
    Justified s h rec := by
  intro hpaid
  rcases awaits_save hop rfl with
    ⟨dto, actor, before, found, resp, sub, id, _, _, hsuccess, hown, rfl⟩ |
    ⟨id, actor, p, resp, reads, found, _, _, hsuccess, hlookup, hown, rfl⟩ |
    ⟨row, found, _, hread, rfl⟩
  · have hpay : (⟨.pay found.bill.payRequest, .ok resp⟩ : Awaited sig ServiceError) ∈ h.own i := by
      simp [hown]
    right
    exact ⟨i, _, resp, History.mem_own.1 hpay, by simp, hsuccess⟩
  · -- The retry paid for the payment's pair and found the bill by that pair.
    have hpay : (⟨.pay p.payRequest, .ok resp⟩ : Awaited sig ServiceError) ∈ h.own i := by
      simp [hown, retried]
    have hread : found.read (.pair p.billerCode p.consumerNumber) ∈ h.own i := by
      rw [hown]
      exact List.mem_append_right _ hlookup.read_mem
    have hpair := matches_pair.1 (hI.reads i _ found (History.mem_own.1 hread)).1
    right
    exact ⟨i, _, resp, History.mem_own.1 hpay, by simp [hpair], hsuccess⟩
  · rcases hI.reads i _ found (History.mem_own.1 hread) with ⟨hmatches, hjust⟩
    have hpair := matches_pair.1 hmatches
    rcases hjust (status_reseeded hpaid) with ⟨r₀, hr₀, hsame, hstart⟩ | hsettled
    · exact .inl ⟨r₀, hr₀, hsame.trans (sameRow_reseeded row found), hstart⟩
    · right
      rw [pair_reseeded, ← hpair]
      exact hsettled

/-- One operation keeps the invariant. -/
theorem billInv_perform (hI : BillInv s h) (hop : Awaits r (h.own i) op) (ch : Choice) :
    BillInv s (h.perform i op ch) := by
  constructor
  · intro j q rec hmem
    rcases History.mem_perform.1 hmem with hold | ⟨_, hread, hres⟩
    · rcases hI.reads j q rec hold with ⟨hmatches, hjust⟩
      exact ⟨hmatches, hjust.perform i op ch⟩
    · rcases read_performed hread hres with ⟨_, hrec, hmatches⟩
      exact ⟨hmatches, (hI.rows rec hrec).perform i op ch⟩
  · intro rec hrec
    rcases perform_bills_cases op ch h.state with hmem | ⟨saved, hsave, hmem⟩ |
      ⟨row, status, added, hadded, hmem⟩
    · exact (hI.rows rec ((hmem rec).1 hrec)).perform i op ch
    · rcases (hmem rec).1 hrec with rfl | ⟨hold, _⟩
      · subst hsave
        exact (justified_save hI hop).perform i _ ch
      · exact (hI.rows rec hold).perform i op ch
    · rcases (hmem rec).1 hrec with hold | rfl
      · exact (hI.rows rec hold).perform i op ch
      · -- The seeder inserts bills that are not `PAID`.
        intro hpaid
        have hstatus : rec.bill.status = status := by
          rcases hadded with ⟨_, rfl⟩ | ⟨_, rfl⟩
          · rfl
          · rfl
        have hunpaid := (awaits_insertBill hop (hadded.imp And.left And.left)).2
        simp [hstatus, hunpaid] at hpaid

end Step

theorem billInv_initial (s : Store) : BillInv s (Config.initial service s).toHistory where
  reads i q r hr := by simp [Config.initial] at hr
  rows r hr hpaid := .inl ⟨r, hr, r.sameRow_refl, hpaid⟩

/-- No bill becomes `PAID` without money. After every interleaved run a bill row that says `PAID`
was `PAID` at the start, or BBPS has answered `SUCCESS` to a call for its biller and consumer. -/
theorem paid_bills_settled (s : Store) (as : List (Action service)) :
    ∀ r : BillingRecord, r ∈ (((Config.initial service s).run as).state : Store) →
      r.bill.status = "PAID" →
      PaidAtStart s r ∨ Settled ((Config.initial service s).run as).toHistory r.bill.pair := by
  have hI : BillInv s ((Config.initial service s).run as).toHistory := by
    refine Config.run_induction follows_program ?_ ?_ (billInv_initial s) as
      (Config.meets_trivial _ as)
    · exact fun h r _ hI => ⟨hI.reads, hI.rows⟩
    · exact fun h i r op ch _ hI _ hop _ => billInv_perform hI hop ch
  exact hI.rows

/-- A create that BBPS answers `SUCCESS`. -/
def paidCreate : List (Action service) :=
  [.start (.create (sampleBody "key-1") sampleCustomer), .resume 0 .plain, .resume 0 .plain,
    .resume 0 (.answers .SUCCESS (some "BBPS-1")), .resume 0 .plain, .resume 0 .plain]

theorem paid_bills_settled_paidCreate :
    PaidAtStart unpaidStore (.mock { sampleBill with status := "PAID" }) ∨
      Settled ((Config.initial service unpaidStore).run paidCreate).toHistory sampleBill.pair := by
  have hmem : ({ sampleBill with status := "PAID" } : MockBill) ∈
      Store.mockBills ((Config.initial service unpaidStore).run paidCreate).state := by
    decide
  exact paid_bills_settled unpaidStore paidCreate (.mock { sampleBill with status := "PAID" }) hmem
    rfl

end Bbps
end IdentityBillpay
