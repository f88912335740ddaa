import IdentityBillpay.Bbps.BbpsCatalogSeeder
import IdentityBillpay.Sql.Upsert

/-!
# Seeding — what a start-up leaves in the store, and that another one changes nothing

The seeder writes each entry's biller, mock bill and demo row, over arbitrary rows that are there.

* `Answers`, `PicksBy` — a database at its work: no call fails, ids are new, and a lookup of a biller
  finds the same one of several rows each time;
* `exec_upsertBiller`, `exec_upsertMockBill`, `exec_upsertDemo` — one upsert each;
* `exec_seedAll` — the loop, as one loop of upserts a table;
* `Seeded` — what is in the store then;
* `seedAll_idempotent` — the loop leaves that, and nothing is left to a second one.
-/

namespace IdentityBillpay
namespace Bbps

open Async Program
open Sql.Table (Maker Filler Upsert Upserts Register Registers Made OldIds chosen)

/-! ## The rows of an entry -/

/-- The index under which the bills of an entry are looked up. -/
def BbpsCatalogEntry.pair (row : BbpsCatalogEntry) : String × String :=
  (row.billerCode, row.consumerNumber)

theorem seededStatus_seeded {existing : Option Bill} {b : Bill}
    (h : b.status = seededStatus existing) : seededStatus (some b) = seededStatus existing := by
  rw [seededStatus, Option.map_some, h]
  unfold seededStatus
  split <;> simp

/-- What the loop makes of an entry in a table of bills: the entry's columns, and the status that is
kept or reset. -/
def billMaker {ρ : Type} (bill : ρ → Bill) (make : BbpsCatalogEntry → String → String → ρ)
    (hmake : ∀ row id status, bill (make row id status) = row.bill id status) :
    Maker (fun r => (bill r).id) (fun r => (bill r).pair) BbpsCatalogEntry where
  entryKey := BbpsCatalogEntry.pair
  make row found id := make row id (seededStatus (found.map bill))
  id_make row found id := by
    rw [hmake]
    rfl
  key_make row found id := by
    rw [hmake]
    rfl
  make_make row found id := by
    refine congrArg (make row id) (seededStatus_seeded ?_)
    rw [hmake]
    rfl

abbrev mockMaker := billMaker MockBill.toBill BbpsCatalogEntry.mockBill fun _ _ _ => rfl

abbrev demoMaker := billMaker DemoBbpsData.toBill BbpsCatalogEntry.demoBill fun _ _ _ => rfl

def billerFiller :
    Filler BillerRegistration.id BillerRegistration.billerCode BbpsCatalogEntry where
  entryCode := BbpsCatalogEntry.billerCode
  fill := BbpsCatalogEntry.biller
  id_fill _ _ := rfl
  code_fill _ _ := rfl

/-! ## A database at its work -/

/-- The id of a row of the three tables that are seeded. -/
def Store.HasId (s : Store) (id : String) : Prop :=
  (∃ b ∈ s.billers, b.id = id) ∨ (∃ b ∈ s.mockBills, b.id = id) ∨ ∃ d ∈ s.demoBills, d.id = id

/-- No call fails, and each id that is generated is a new one. -/
structure Answers (s : Store) (choices : Nat → Choice) : Prop where
  answered : ∀ n, (choices n).fails = false
  distinct : Function.Injective fun n => (choices n).freshId
  fresh : ∀ n, ¬ s.HasId (choices n).freshId

/-- Which of the billers with one code is found depends on the code only, all along the run. -/
def PicksBy (pick : String → Nat) (choices : Nat → Choice)
    (awaited : List (Awaited sig ServiceError)) : Prop :=
  ∀ n billerCode, awaited[n]?.map Awaited.op = some (Op.findBiller (.code billerCode)) →
    (choices n).pick = pick billerCode

theorem PicksBy.append {pick : String → Nat} {choices : Nat → Choice}
    {as bs : List (Awaited sig ServiceError)} (h : PicksBy pick choices (as ++ bs)) :
    PicksBy pick choices as ∧ PicksBy pick (fun n => choices (n + as.length)) bs := by
  refine ⟨fun n billerCode hn => h n billerCode ?_, fun n billerCode hn => h _ billerCode ?_⟩
  · obtain ⟨a, ha, hop⟩ := Option.map_eq_some_iff.1 hn
    rw [List.getElem?_append_left (List.getElem?_eq_some_iff.1 ha).1, ha, Option.map_some, hop]
  · rw [List.getElem?_append_right (Nat.le_add_left _ _), Nat.add_sub_cancel]
    exact hn

/-- After a call that may have stored the id generated for it, the later ids are still new. -/
theorem Answers.rest {s s' : Store} {choices : Nat → Choice} (h : Answers s choices) (k : Nat)
    (hids : ∀ id, s'.HasId id → s.HasId id ∨ ∃ n < k, id = (choices n).freshId) :
    Answers s' fun n => choices (n + k) where
  answered n := h.answered (n + k)
  distinct m n hmn := Nat.add_right_cancel (h.distinct hmn)
  fresh n hid := by
    rcases hids _ hid with hold | ⟨m, hm, heq⟩
    · exact h.fresh (n + k) hold
    · have hmn := h.distinct heq
      omega

/-! ## One upsert -/

section Upserts

variable {s s' : Store} {choices : Nat → Choice} {row : BbpsCatalogEntry}

theorem write_accepted {α : Type} {ch : Choice} {accepted : Option Store} {result : α}
    (haccepted : accepted = some s') (hanswered : ch.fails = false) :
    write ch s accepted result = (.ok result, s') := by
  rw [haccepted, write, hanswered]
  rfl

/-- A lookup and the write that follows it. -/
theorem exec_lookup {op : Op} {f : op.Res → Prog Unit} {found : op.Res}
    {a : Awaited sig ServiceError} (hfind : perform op (choices 0) s = (.ok found, s))
    (hwrite : exec backend (f found) (fun n => choices (n + 1)) s = ⟨.ok (), [a], s'⟩) :
    exec backend (call op >>= f) choices s = ⟨.ok (), [⟨op, .ok found⟩, a], s'⟩ := by
  rw [exec_call_bind hfind, hwrite]

theorem exec_write {op : Op} {u : op.Res} (h : perform op (choices 0) s = (.ok u, s')) :
    exec backend (call op) choices s = ⟨.ok u, [⟨op, .ok u⟩], s'⟩ := by
  have hperform : backend.perform op (choices 0) s = (.ok u, s') := h
  rw [exec_call, hperform]

/-- The biller that is found is the one the environment picks for the code. -/
theorem exec_upsertBiller {pick : String → Nat} (hanswered : (choices 1).fails = false)
    (hfresh : ∀ b ∈ s.billers, b.id ≠ (choices 1).freshId)
    (hpick : (choices 0).pick = pick row.billerCode) :
    ∃ t as, exec backend (upsertBiller row) choices s = ⟨.ok (), as, { s with billers := t }⟩ ∧
      as.length = 2 ∧ Register billerFiller pick row s.billers t ∧
      OldIds s.billers t (choices 1).freshId := by
  have hfind : perform (.findBiller (.code row.billerCode)) (choices 0) s =
      (.ok (chosen pick BillerRegistration.billerCode s.billers row.billerCode), s) := by
    rw [perform_findBiller, hpick]
    rfl
  obtain ⟨t, hregister, hids, hwrite⟩ :=
    Sql.Table.exists_register billerFiller pick row hfresh
  refine ⟨t, ?_⟩
  -- `findOne` finds the biller of the code, and the row is written over it.
  rcases hwrite with ⟨biller, hfound, hsave⟩ | ⟨hfound, hinsert⟩
  · change chosen pick BillerRegistration.billerCode s.billers row.billerCode = _ at hfound
    have hcode : biller.billerCode = row.billerCode :=
      Sql.Table.hasCode_iff.1 (Sql.Table.findOne_some hfound).2
    have hentry : ({ biller with
        billerName := row.billerName
        category := row.category
        active := true } : BillerRegistration) = row.biller biller.id := by
      rw [BbpsCatalogEntry.biller, ← hcode]
    have hdone : perform (.saveBiller { biller with
        billerName := row.billerName
        category := row.category
        active := true }) (choices 1) s = (.ok (), { s with billers := t }) := by
      rw [hentry]
      exact write_accepted (congrArg (Option.map _) hsave) hanswered
    rw [hfound] at hfind
    exact ⟨_, exec_lookup hfind (exec_write hdone), rfl, hregister, hids⟩
  · -- There is none, and one is inserted.
    change chosen pick BillerRegistration.billerCode s.billers row.billerCode = _ at hfound
    have hdone : perform (.insertBiller row) (choices 1) s = (.ok (), { s with billers := t }) :=
      write_accepted (congrArg (Option.map _) hinsert) hanswered
    rw [hfound] at hfind
    exact ⟨_, exec_lookup hfind (exec_write hdone), rfl, hregister, hids⟩

theorem exec_upsertMockBill (hanswered : (choices 1).fails = false)
    (hfresh : ∀ b ∈ s.mockBills, b.id ≠ (choices 1).freshId) :
    ∃ t as, exec backend (upsertMockBill row) choices s =
        ⟨.ok (), as, { s with mockBills := t }⟩ ∧
      as.length = 2 ∧ Upsert mockMaker row s.mockBills t ∧
      OldIds s.mockBills t (choices 1).freshId := by
  have hfind := perform_findMockBill (.pair row.billerCode row.consumerNumber) (choices 0) s
  obtain ⟨t, hupsert, hids, hwrite⟩ := Sql.Table.exists_upsert mockMaker row (choices 0).pick
    (fun b => matches_pair) hfresh
  refine ⟨t, ?_⟩
  rcases hwrite with ⟨bill, hfound, hsave⟩ | ⟨hfound, hinsert⟩
  · have hdone : perform (.saveMockBill (row.mockBill bill.id (seededStatus (some bill.toBill))))
        (choices 1) s = (.ok (), { s with mockBills := t }) :=
      write_accepted (congrArg (Option.map _) hsave) hanswered
    rw [hfound] at hfind
    exact ⟨_, exec_lookup hfind (exec_write hdone), rfl, hupsert, hids⟩
  · have hdone : perform (.insertMockBill row (seededStatus none)) (choices 1) s =
        (.ok (), { s with mockBills := t }) :=
      write_accepted (congrArg (Option.map _) hinsert) hanswered
    rw [hfound] at hfind
    exact ⟨_, exec_lookup hfind (exec_write hdone), rfl, hupsert, hids⟩

theorem exec_upsertDemo (hanswered : (choices 1).fails = false)
    (hfresh : ∀ d ∈ s.demoBills, d.id ≠ (choices 1).freshId) :
    ∃ t as, exec backend (upsertDemo row) choices s = ⟨.ok (), as, { s with demoBills := t }⟩ ∧
      as.length = 2 ∧ Upsert demoMaker row s.demoBills t ∧
      OldIds s.demoBills t (choices 1).freshId := by
  have hfind := perform_findDemo (.pair row.billerCode row.consumerNumber) (choices 0) s
  obtain ⟨t, hupsert, hids, hwrite⟩ := Sql.Table.exists_upsert demoMaker row (choices 0).pick
    (fun d => matches_pair) hfresh
  refine ⟨t, ?_⟩
  rcases hwrite with ⟨bill, hfound, hsave⟩ | ⟨hfound, hinsert⟩
  · have hdone : perform (.saveDemo (row.demoBill bill.id (seededStatus (some bill.toBill))))
        (choices 1) s = (.ok (), { s with demoBills := t }) :=
      write_accepted (congrArg (Option.map _) hsave) hanswered
    rw [hfound] at hfind
    exact ⟨_, exec_lookup hfind (exec_write hdone), rfl, hupsert, hids⟩
  · have hdone : perform (.insertDemo row (seededStatus none)) (choices 1) s =
        (.ok (), { s with demoBills := t }) :=
      write_accepted (congrArg (Option.map _) hinsert) hanswered
    rw [hfound] at hfind
    exact ⟨_, exec_lookup hfind (exec_write hdone), rfl, hupsert, hids⟩

end Upserts

/-! ## The loop -/

/-- The loop as the tables see it: one upsert an entry in each of them. -/
structure Seeds (pick : String → Nat) (rows : List BbpsCatalogEntry) (s s' : Store) : Prop where
  billers : Registers billerFiller pick rows s.billers s'.billers
  mockBills : Upserts mockMaker rows s.mockBills s'.mockBills
  demoBills : Upserts demoMaker rows s.demoBills s'.demoBills
  payments : s'.payments = s.payments

theorem Seeds.append {pick : String → Nat} {rows rows' : List BbpsCatalogEntry} {s s₁ s' : Store}
    (h : Seeds pick rows s s₁) (h' : Seeds pick rows' s₁ s') :
    Seeds pick (rows ++ rows') s s' where
  billers := h.billers.append h'.billers
  mockBills := h.mockBills.append h'.mockBills
  demoBills := h.demoBills.append h'.demoBills
  payments := h'.payments.trans h.payments

theorem exec_bind_done {p : Prog Unit} {f : Unit → Prog Unit} {choices : Nat → Choice}
    {s s' : Store} {as : List (Awaited sig ServiceError)}
    (h : exec backend p choices s = ⟨.ok (), as, s'⟩) :
    exec backend (p >>= f) choices s =
      let rest := exec backend (f ()) (fun n => choices (n + as.length)) s'
      { rest with awaited := as ++ rest.awaited } := by
  have hresult : (exec backend p choices s).result = .ok () := by rw [h]
  rw [exec_bind_ok hresult, h]

/-- One entry takes the first six choices. -/
theorem exec_seedEntry {pick : String → Nat} (row : BbpsCatalogEntry) (rows : List BbpsCatalogEntry)
    {s : Store} {choices : Nat → Choice} (hanswers : Answers s choices)
    (hpick : (choices 0).pick = pick row.billerCode) :
    ∃ s' as, Seeds pick [row] s s' ∧ Answers s' (fun n => choices (n + 6)) ∧ as.length = 6 ∧
      exec backend (seedAll (row :: rows)) choices s =
        let rest := exec backend (seedAll rows) (fun n => choices (n + 6)) s'
        { rest with awaited := as ++ rest.awaited } := by
  obtain ⟨billers, as, hfirst, hlength, hregister, hbillers⟩ :=
    @exec_upsertBiller s choices row pick (hanswers.answered 1)
      (fun b hb heq => hanswers.fresh 1 (.inl ⟨b, hb, heq⟩)) hpick
  obtain ⟨mockBills, as', hsecond, hlength', hmock, hmockBills⟩ :=
    @exec_upsertMockBill { s with billers } (fun n => choices (n + 2)) row
      (hanswers.answered 3) (fun b hb heq => hanswers.fresh 3 (.inr (.inl ⟨b, hb, heq⟩)))
  obtain ⟨demoBills, as'', hthird, hlength'', hdemo, hdemoBills⟩ :=
    @exec_upsertDemo { s with billers, mockBills } (fun n => choices (n + 2 + 2)) row
      (hanswers.answered 5) (fun d hd heq => hanswers.fresh 5 (.inr (.inr ⟨d, hd, heq⟩)))
  refine ⟨{ s with billers, mockBills, demoBills }, as ++ as' ++ as'', ?_, ?_, ?_, ?_⟩
  · exact ⟨.cons hregister (.nil _), .cons hmock (.nil _), .cons hdemo (.nil _), rfl⟩
  · refine hanswers.rest 6 ?_
    rintro id (⟨b, hb, rfl⟩ | ⟨b, hb, rfl⟩ | ⟨d, hd, rfl⟩)
    · rcases hbillers b hb with hold | hnew
      · exact .inl (.inl hold)
      · exact .inr ⟨1, by omega, hnew⟩
    · rcases hmockBills b hb with hold | hnew
      · exact .inl (.inr (.inl hold))
      · exact .inr ⟨3, by omega, hnew⟩
    · rcases hdemoBills d hd with hold | hnew
      · exact .inl (.inr (.inr hold))
      · exact .inr ⟨5, by omega, hnew⟩
  · rw [List.length_append, List.length_append, hlength, hlength', hlength'']
  · rw [seedAll, exec_bind_done hfirst, hlength, exec_bind_done hsecond, hlength',
      exec_bind_done hthird, hlength'']
    simp only [List.append_assoc]

/-- By induction on the entries that are left. -/
theorem exec_seedAll {pick : String → Nat} {rows : List BbpsCatalogEntry} {s : Store}
    {choices : Nat → Choice} (hanswers : Answers s choices)
    (hpicks : PicksBy pick choices (exec backend (seedAll rows) choices s).awaited) :
    (exec backend (seedAll rows) choices s).result = .ok () ∧
      Seeds pick rows s (exec backend (seedAll rows) choices s).state := by
  induction rows generalizing s choices with
  | nil => exact ⟨rfl, .nil _, .nil _, .nil _, rfl⟩
  | cons row rows ih =>
      have hpick : (choices 0).pick = pick row.billerCode := hpicks 0 row.billerCode rfl
      obtain ⟨s₁, as, hentry, hanswers₁, hlength, hrun⟩ := exec_seedEntry row rows hanswers hpick
      rw [hrun] at hpicks ⊢
      have hrest := hpicks.append.2
      rw [hlength] at hrest
      obtain ⟨hresult, hseeds⟩ := ih hanswers₁ hrest
      exact ⟨hresult, hentry.append hseeds⟩

/-! ## What is left in the store -/

section Bills

variable {ρ : Type} {bill : ρ → Bill} {make : BbpsCatalogEntry → String → String → ρ}
  {hmake : ∀ row id status, bill (make row id status) = row.bill id status}
  {rows : List BbpsCatalogEntry} {t t' : Sql.Table (fun r => (bill r).id) (fun r => (bill r).pair)}

/-- The bill of the entry was paid before the loop. -/
def WasPaid (bill : ρ → Bill) (t : Sql.Table (fun r => (bill r).id) (fun r => (bill r).pair))
    (row : BbpsCatalogEntry) : Prop :=
  ∃ b ∈ t, (bill b).pair = row.pair ∧ (bill b).status = "PAID"

instance (row : BbpsCatalogEntry) : Decidable (WasPaid bill t row) :=
  inferInstanceAs (Decidable (∃ b ∈ t, _))

/-- A table of bills after the loop over the entries: each entry has its bill, `PAID` if it was before
and `UNPAID` otherwise; bills of other keys are the same; and no row is gone. -/
structure SeededBills (bill : ρ → Bill) (make : BbpsCatalogEntry → String → String → ρ)
    (rows : List BbpsCatalogEntry)
    (t t' : Sql.Table (fun r => (bill r).id) (fun r => (bill r).pair)) : Prop where
  entries : ∀ row ∈ rows, ∃ b ∈ t',
    b = make row (bill b).id (if WasPaid bill t row then "PAID" else "UNPAID")
  outside : ∀ b, (∀ row ∈ rows, (bill b).pair ≠ row.pair) → (b ∈ t' ↔ b ∈ t)
  kept : ∀ b ∈ t, ∃ b' ∈ t', (bill b').id = (bill b).id ∧ (bill b').pair = (bill b).pair ∧
    ((bill b).status = "PAID" → (bill b').status = "PAID")

/-- The status that an entry's bill gets tells whether it was paid. -/
theorem made_status {row : BbpsCatalogEntry} {r : ρ} (h : Made (billMaker bill make hmake) row t r) :
    r = make row (bill r).id (if WasPaid bill t row then "PAID" else "UNPAID") := by
  rcases h with ⟨b, hb, hkey, rfl⟩ | ⟨hfree, id, rfl⟩
  · have hpaid : (some (bill b)).map Bill.status = some "PAID" ↔ WasPaid bill t row := by
      constructor
      · exact fun hstatus => ⟨b, hb, hkey, Option.some.inj hstatus⟩
      · rintro ⟨b', hb', hkey', hstatus⟩
        rw [Sql.Table.eq_of_key hb hb' (hkey.trans hkey'.symm), Option.map_some, hstatus]
    have hid : (bill (make row (bill b).id (seededStatus (some (bill b))))).id = (bill b).id := by
      rw [hmake]
      rfl
    change make row (bill b).id (seededStatus (some (bill b))) = make row
      (bill (make row (bill b).id (seededStatus (some (bill b))))).id _
    rw [hid]
    refine congrArg (make row (bill b).id) ?_
    rw [seededStatus]
    simp only [hpaid]
  · have hunpaid : ¬WasPaid bill t row := fun ⟨b, hb, hkey, _⟩ => hfree b hb hkey
    have hid : (bill (make row id (seededStatus none))).id = id := by
      rw [hmake]
      rfl
    change make row id (seededStatus none) = make row (bill (make row id (seededStatus none))).id _
    rw [hid, if_neg hunpaid]
    rfl

theorem seededBills (h : Upserts (billMaker bill make hmake) rows t t')
    (hdistinct : (rows.map BbpsCatalogEntry.pair).Nodup) : SeededBills bill make rows t t' where
  entries row hrow := by
    obtain ⟨r, hr, hmade⟩ := h.made hdistinct row hrow
    exact ⟨r, hr, made_status hmade⟩
  outside b hb := h.frame hb
  kept b hb := by
    obtain ⟨b', hb', hid, hpair⟩ := h.kept hb
    refine ⟨b', hb', hid, hpair, fun hpaid => ?_⟩
    by_cases hrow : ∃ row ∈ rows, (bill b).pair = row.pair
    · rcases hrow with ⟨row, hrow, hkey⟩
      obtain ⟨r, hr, hmade⟩ := h.made hdistinct row hrow
      have hwas : WasPaid bill t row := ⟨b, hb, hkey, hpaid⟩
      have hrow' := made_status hmade
      rw [if_pos hwas] at hrow'
      have hbill : bill r = row.bill (bill r).id "PAID" :=
        (congrArg bill hrow').trans (hmake row (bill r).id "PAID")
      -- The row that kept the key is the one of the entry.
      have hsame : b' = r := by
        refine Sql.Table.eq_of_key hb' hr (hpair.trans (hkey.trans ?_))
        rw [hbill]
        rfl
      rw [hsame, hbill]
      rfl
    · have hstill : b ∈ t' := (h.frame fun row hrow' hkey => hrow ⟨row, hrow', hkey⟩).2 hb
      rwa [Sql.Table.eq_of_key hb' hstill hpair]

end Bills

/-- The store after the loop. -/
structure Seeded (rows : List BbpsCatalogEntry) (s s' : Store) : Prop where
  mockBills : SeededBills MockBill.toBill BbpsCatalogEntry.mockBill rows s.mockBills s'.mockBills
  demoBills : SeededBills DemoBbpsData.toBill BbpsCatalogEntry.demoBill rows s.demoBills
    s'.demoBills
  billers : ∀ row ∈ rows, ∃ b ∈ s'.billers, b.billerCode = row.billerCode ∧ b.active = true
  billersKept : ∀ b ∈ s.billers, ∃ b' ∈ s'.billers, b'.id = b.id ∧ b'.billerCode = b.billerCode
  payments : s'.payments = s.payments

section Loop

variable {pick : String → Nat} {rows : List BbpsCatalogEntry} {s s' s'' : Store}

theorem Seeds.seeded (h : Seeds pick rows s s')
    (hdistinct : (rows.map BbpsCatalogEntry.pair).Nodup) : Seeded rows s s' where
  mockBills := seededBills h.mockBills hdistinct
  demoBills := seededBills h.demoBills hdistinct
  billers row hrow := by
    obtain ⟨b, hb, hcode, row', -, id, rfl⟩ := h.billers.filled row hrow
    exact ⟨_, hb, hcode, rfl⟩
  billersKept b hb := by
    obtain ⟨b', hb', hid, hcode, -⟩ := h.billers.kept hb
    exact ⟨b', hb', hid, hcode⟩
  payments := h.payments

theorem Store.eq_of_tables (hpayments : s.payments = s'.payments)
    (hmockBills : s.mockBills = s'.mockBills) (hdemoBills : s.demoBills = s'.demoBills)
    (hbillers : s.billers = s'.billers) : s = s' := by
  cases s with
  | mk payments mockBills demoBills billers =>
      cases s' with
      | mk payments' mockBills' demoBills' billers' =>
          cases hpayments
          cases hmockBills
          cases hdemoBills
          cases hbillers
          rfl

/-- Each table sees the same loop once more. -/
theorem Seeds.again (h : Seeds pick rows s s')
    (hdistinct : (rows.map BbpsCatalogEntry.pair).Nodup) (h' : Seeds pick rows s' s'') :
    s'' = s' :=
  Store.eq_of_tables h'.payments (h.mockBills.again hdistinct h'.mockBills)
    (h.demoBills.again hdistinct h'.demoBills) (h.billers.again h'.billers)

end Loop

/-- The loop over a catalog, run alone. -/
abbrev seedingOf (rows : List BbpsCatalogEntry) (choices : Nat → Choice) (s : Store) :=
  exec backend (seedAll rows) choices s

/-- For every catalog whose entries have different keys, over every store, with a database at its
work: the loop goes through and leaves the store `Seeded`, and another one leaves it as it is. -/
theorem seedAll_idempotent {pick : String → Nat} {rows : List BbpsCatalogEntry} {s : Store}
    {choices : Nat → Choice} (hdistinct : (rows.map BbpsCatalogEntry.pair).Nodup)
    (hanswers : Answers s choices) (hpicks : PicksBy pick choices (seedingOf rows choices s).awaited) :
    (seedingOf rows choices s).result = .ok () ∧ Seeded rows s (seedingOf rows choices s).state ∧
      ∀ choices', Answers (seedingOf rows choices s).state choices' →
        PicksBy pick choices' (seedingOf rows choices' (seedingOf rows choices s).state).awaited →
        (seedingOf rows choices' (seedingOf rows choices s).state).result = .ok () ∧
          (seedingOf rows choices' (seedingOf rows choices s).state).state =
            (seedingOf rows choices s).state := by
  obtain ⟨hresult, hseeds⟩ := exec_seedAll hanswers hpicks
  refine ⟨hresult, hseeds.seeded hdistinct, fun choices' hanswers' hpicks' => ?_⟩
  obtain ⟨hresult', hseeds'⟩ := exec_seedAll hanswers' hpicks'
  exact ⟨hresult', hseeds.again hdistinct hseeds'⟩

/-! ### A catalog over a store with a paid bill -/

/-- The first bill of the catalog, out of date and paid. -/
def paidBill : MockBill where
  id := "m-1"
  billerCode := "ELEC-MSEDCL-01"
  consumerNumber := "100000000001"
  billNumber := "OLD-001"
  registeredMobile := "9000000001"
  customerName := "Asha"
  amount := ⟨100, by decide⟩
  dueDate := "2025-12-31"
  status := "PAID"

def paidStore : Store where
  payments := .empty
  mockBills := ⟨[paidBill], List.nodup_singleton _, List.nodup_singleton _⟩
  demoBills := .empty
  billers := .empty

/-- The ids that are generated grow in length. -/
def steadyChoice (n : Nat) : Choice where
  pick := 0
  fails := false
  answer := none
  freshId := String.ofList (List.replicate n 'x')

theorem steadyChoice_answers : Answers paidStore steadyChoice where
  answered _ := rfl
  distinct m n h := by
    have hlength := congrArg String.length h
    simpa [steadyChoice] using hlength
  fresh n := by
    rintro (⟨b, hb, -⟩ | ⟨b, hb, hid⟩ | ⟨d, hd, -⟩)
    · exact absurd hb List.not_mem_nil
    · rw [List.mem_singleton.1 hb] at hid
      have hchars : ['m', '-', '1'] = List.replicate n 'x' := by
        simpa [steadyChoice, paidBill] using congrArg String.toList hid
      have hx : 'm' = 'x' := List.eq_of_mem_replicate (hchars ▸ List.mem_cons_self)
      exact absurd hx (by decide)
    · exact absurd hd List.not_mem_nil

theorem steadyChoice_picks (awaited : List (Awaited sig ServiceError)) :
    PicksBy (fun _ => 0) steadyChoice awaited :=
  fun _ _ _ => rfl

/-- The catalog of the service. -/
theorem bbpsCatalog_seeded :
    (seedingOf BBPS_CATALOG steadyChoice paidStore).result = .ok () ∧
      Seeded BBPS_CATALOG paidStore (seedingOf BBPS_CATALOG steadyChoice paidStore).state := by
  obtain ⟨hresult, hseeded, -⟩ := @seedAll_idempotent (fun _ => 0) BBPS_CATALOG paidStore
    steadyChoice (by decide) steadyChoice_answers (steadyChoice_picks _)
  exact ⟨hresult, hseeded⟩

end Bbps
end IdentityBillpay
