import IdentityBillpay.Migrations.Sequence
import IdentityBillpay.Sql.Alterations

/-!
# Consumers — the bills that a migration finds

The second migration drops the numbers of the bills and gives each bill an empty consumer number.
Its last statement asks that no biller has two bills with one consumer number.

* `consumers_added`, `bills_separated` — the bills, statement by statement;
* `consumers_through`, `consumers_refused` — the migration;
* `Stuck`, `Stuck.run`, `Stuck.evolves` — the state that no run leaves;
* `consumers_executed` — the bills that let the migration through, and what comes of the others.
-/

namespace IdentityBillpay
namespace Migrations

open Sql.Schema

section Bills

variable {collate : String → String} {rows : List Row}

/-! ## The bills -/

def mock_bill₁ : Layout := { mock_bill with indexes := [primaryKey] }

def mock_bill₂ : Layout := { mock_bill₁ with
  columns := mock_bill.columns.filter fun c => c.name ≠ "customer_bill_number" }

def mock_bill₃ : Layout := { mock_bill₂ with
  columns := mock_bill₂.columns ++ [required "consumer_number" (.varchar 255)] }

def mock_bill₄ : Layout := { mock_bill₃ with
  columns := mock_bill₃.columns ++ [required "bill_number" (.varchar 255)] }

def mock_bill₅ : Layout := { mock_bill₄ with
  indexes := mock_bill₄.indexes ++ [IDX_955840860156cc2ca0d8ee57d8] }

/-- A row of `mock_bill` after the first four statements. -/
def Row.renumbered (r : Row) : Row :=
  r.filter (fun cell => cell.1 ≠ "customer_bill_number") ++ [("consumer_number", .text "")] ++
    [("bill_number", .text "")]

/-- The first four statements are never refused. -/
theorem consumers_added (h : Table.Valid collate ⟨mock_bill, rows⟩) :
    Table.through collate (AddConsumerAndBillNumber1788784048534.up.take 4) ⟨mock_bill, rows⟩ =
      some ⟨mock_bill₄, rows.map Row.renumbered⟩ := by
  let rows₂ := rows.map fun r => r.filter fun cell => cell.1 ≠ "customer_bill_number"
  let rows₃ := rows₂.map fun r => r ++ [("consumer_number", Value.text "")]
  let rows₄ := rows₃.map fun r => r ++ [("bill_number", Value.text "")]
  have hrows : rows₄ = rows.map Row.renumbered := by
    change ((rows.map _).map _).map _ = _
    rw [List.map_map, List.map_map]
    rfl
  have hstep₁ : (Statement.dropIndex "mock_bill" "IDX_988517e01eb4417484bfd3283a").alter?
      ⟨mock_bill, rows⟩ = some ⟨mock_bill₁, rows⟩ := rfl
  have hstep₂ : (Statement.dropColumn "mock_bill" "customer_bill_number").alter?
      ⟨mock_bill₁, rows⟩ = some ⟨mock_bill₂, rows₂⟩ := rfl
  have hvalid₁ := h.dropIndex hstep₁
  have hvalid₂ := hvalid₁.dropColumn
    (show ∀ i ∈ mock_bill₁.indexes, "customer_bill_number" ∉ i.columns by decide)
    (show ∃ c ∈ mock_bill₁.columns, c.name ≠ "customer_bill_number" by decide) hstep₂
  have hvalid₃ : Table.Valid collate ⟨mock_bill₃, rows₃⟩ :=
    hvalid₂.addColumn (c := required "consumer_number" (.varchar 255))
      (show "consumer_number" ∉ mock_bill₂.columns.map Column.name by decide) rfl rfl rfl
  have hvalid₄ : Table.Valid collate ⟨mock_bill₄, rows₄⟩ :=
    hvalid₃.addColumn (c := required "bill_number" (.varchar 255))
      (show "bill_number" ∉ mock_bill₃.columns.map Column.name by decide) rfl rfl rfl
  rw [← hrows]
  exact (Table.through_step hstep₁ hvalid₁).trans <| (Table.through_step hstep₂ hvalid₂).trans <|
    (Table.through_step rfl hvalid₃).trans (Table.through_step rfl hvalid₄)

variable (collate) in
/-- The billers of the bills, as the collation compares them. -/
def billers (rows : List Row) : List Value :=
  rows.map fun r => sortKey collate (r.cell "biller_code")

/-- The last statement compares the billers only. -/
theorem bills_separated (h : Table.Valid collate ⟨mock_bill, rows⟩) :
    IDX_955840860156cc2ca0d8ee57d8.Separates collate (rows.map Row.renumbered) ↔
      (billers collate rows).Nodup := by
  have hcells : ∀ r ∈ rows, IDX_955840860156cc2ca0d8ee57d8.columns.map (Row.renumbered r).cell =
      [r.cell "biller_code", .text ""] := by
    intro r hr
    have hleft : (r.filter fun cell => cell.1 ≠ "customer_bill_number").map Prod.fst =
        mock_bill₂.columns.map Column.name := by
      have hfiltered := congrArg (List.filter (· ≠ "customer_bill_number")) (h.aligned r hr)
      rw [List.filter_map] at hfiltered
      exact hfiltered
    have hkept : (Row.renumbered r).cell "biller_code" = r.cell "biller_code" := by
      rw [Row.renumbered, List.append_assoc, cell_append]
      · exact cell_filter (by decide)
      · rw [hleft]
        decide
    have hempty : (Row.renumbered r).cell "consumer_number" = .text "" := by
      rw [Row.renumbered, cell_append]
      · refine cell_append_new ?_
        rw [hleft]
        decide
      · simp
    rw [← hkept, ← hempty]
    rfl
  have hbiller : ∀ r ∈ rows, r.cell "biller_code" ≠ .null := by
    intro r hr hnull
    have haccepts := h.typed r hr (required "biller_code" (.varchar 255))
      (show _ ∈ mock_bill.columns by decide)
    change (required "biller_code" (.varchar 255)).accepts (r.cell "biller_code") = true
      at haccepts
    rw [hnull] at haccepts
    cases haccepts
  have hkeys : ((rows.map Row.renumbered).map fun r =>
      IDX_955840860156cc2ca0d8ee57d8.columns.map fun column => sortKey collate (r.cell column)) =
        (billers collate rows).map fun biller => [biller, sortKey collate (.text "")] := by
    rw [List.map_map, billers, List.map_map]
    refine List.map_congr_left fun r hr => ?_
    have hsorted := congrArg (List.map (sortKey collate)) (hcells r hr)
    rw [List.map_map] at hsorted
    exact hsorted
  rw [Index.separates_iff, hkeys]
  · exact List.nodup_map_iff fun _ _ hsame => (List.cons.inj hsame).1
  · intro r' hr'
    rcases List.mem_map.1 hr' with ⟨r, hr, rfl⟩
    rw [hcells r hr]
    simpa using (hbiller r hr).symm

theorem bills_indexed (h : Table.Valid collate ⟨mock_bill, rows⟩) :
    Table.Valid collate ⟨mock_bill₅, rows.map Row.renumbered⟩ ↔ (billers collate rows).Nodup := by
  have hindexed := (h.through (consumers_added h)).addIndex_iff
    (i := IDX_955840860156cc2ca0d8ee57d8)
    (show _ ∉ mock_bill₄.indexes.map Index.name by decide) (by decide)
    (show ∀ column ∈ IDX_955840860156cc2ca0d8ee57d8.columns,
      column ∈ mock_bill₄.columns.map Column.name by decide) rfl
  exact hindexed.trans <| (forall_prop_of_true rfl).trans (bills_separated h)

/-- The last statement of the migration. -/
def lastStatement : Statement := .addIndex "mock_bill" IDX_955840860156cc2ca0d8ee57d8

theorem consumers_split : AddConsumerAndBillNumber1788784048534.up =
    AddConsumerAndBillNumber1788784048534.up.take 4 ++ [lastStatement] :=
  rfl

theorem consumers_about : ∀ st ∈ AddConsumerAndBillNumber1788784048534.up,
    st.Alters ∧ st.table = "mock_bill" := by
  decide

theorem consumers_through (h : Table.Valid collate ⟨mock_bill, rows⟩)
    (hdistinct : (billers collate rows).Nodup) :
    Table.through collate AddConsumerAndBillNumber1788784048534.up ⟨mock_bill, rows⟩ =
      some ⟨mock_bill₅, rows.map Row.renumbered⟩ := by
  rw [consumers_split, Table.through_append, consumers_added h]
  exact Table.through_step rfl ((bills_indexed h).2 hdistinct)

/-- Two bills of one biller: the last statement is refused, and the others have been executed. -/
theorem consumers_refused {db : Database collate} (h : Alone db ⟨mock_bill, rows⟩)
    (hshared : ¬ (billers collate rows).Nodup) :
    ∃ db', runScript AddConsumerAndBillNumber1788784048534.up db = (db', false) ∧
      HasLayout db' mock_bill₄ := by
  have hvalid := db.valid.each _ h.mem
  rcases h.through (fun st hst => consumers_about st (List.mem_of_mem_take hst))
    (consumers_added hvalid) with ⟨db₄, hdone, _, halone⟩
  have hstep : Table.step collate ⟨mock_bill₄, rows.map Row.renumbered⟩ lastStatement = none :=
    Option.eq_none_iff_forall_ne_some.2 fun t' hstep => by
      rcases Table.step_eq_some.1 hstep with ⟨halter, hvalid'⟩
      cases halter
      exact hshared ((bills_indexed hvalid).1 hvalid')
  refine ⟨db₄, ?_, List.mem_map_of_mem halone.mem⟩
  rw [consumers_split]
  exact runScript_stops hdone (halone.refused trivial rfl hstep)

/-! ### The runs that follow -/

/-- The first migration has been executed, and the index is gone that the second one drops. -/
structure Stuck (s : State collate) : Prop where
  executed : s.executed = [InitialBillPayment1788780440681.name]
  noIndex : ∀ layout ∈ s.db.tables.map Table.toLayout, layout.name = "mock_bill" →
    "IDX_988517e01eb4417484bfd3283a" ∉ layout.indexes.map Index.name

theorem Stuck.run {s : State collate} (h : Stuck s) :
    executePendingMigrations migrations s = (s, false) := by
  have hrefused : exec (.dropIndex "mock_bill" "IDX_988517e01eb4417484bfd3283a") s.db = none :=
    dropIndex_refused fun t ht hname => h.noIndex t.toLayout (List.mem_map_of_mem ht) hname
  have hfirst : InitialBillPayment1788780440681.name ∈ s.executed := by
    rw [h.executed]
    exact List.mem_singleton_self _
  have hsecond : AddConsumerAndBillNumber1788784048534.name ∉ s.executed := by
    rw [h.executed]
    decide
  have hstop : runScript AddConsumerAndBillNumber1788784048534.up s.db = (s.db, false) := by
    change runScript (.dropIndex "mock_bill" "IDX_988517e01eb4417484bfd3283a" :: _) s.db = _
    rw [runScript, hrefused]
  rw [migrations, executePendingMigrations, if_pos hfirst, executePendingMigrations,
    if_neg hsecond, hstop]

theorem Stuck.evolves {s s' : State collate} (h : Stuck s) (hs : Evolves s s') : Stuck s' := by
  induction hs with
  | refl => exact h
  | run _ ih =>
      rw [ih.run]
      exact ih
  | rows _ hlayouts ih => exact ⟨ih.executed, hlayouts ▸ ih.noIndex⟩

/-- What has been executed stays so. -/
theorem executed_kept {ms : List Migration} {s : State collate} {name : String}
    (h : name ∈ s.executed) : name ∈ (executePendingMigrations ms s).1.executed := by
  induction ms generalizing s with
  | nil => exact h
  | cons m ms ih =>
      rw [executePendingMigrations]
      split
      · exact ih h
      · cases hrun : runScript m.up s.db with
        | mk db done =>
            cases done with
            | true => exact ih (List.mem_append_left _ h)
            | false => exact h

theorem Stuck.of_layout {db : Database collate} (h : HasLayout db mock_bill₄) :
    Stuck ⟨db, [InitialBillPayment1788780440681.name]⟩ := by
  refine ⟨rfl, fun layout hlayout hname => ?_⟩
  rcases List.mem_map.1 hlayout with ⟨t, ht, rfl⟩
  rcases List.mem_map.1 h with ⟨t', ht', hsame⟩
  have hnamed : t'.name = "mock_bill" := congrArg Layout.name hsame
  have htable : t = t' :=
    List.inj_on_of_nodup_map db.valid.names ht ht' (hname.trans hnamed.symm)
  rw [htable, hsame]
  decide

/-- The second migration needs a biller for each bill. Otherwise the numbers of the bills are gone,
and every later run stops where it begins. -/
theorem consumers_executed {s : State collate} {t : Table}
    (hexecuted : s.executed = [InitialBillPayment1788780440681.name])
    (hlayouts : s.db.tables.map Table.toLayout = initialLayouts) (ht : t ∈ s.db.tables)
    (hname : t.name = "mock_bill") :
    ((billers collate t.rows).Nodup → AddConsumerAndBillNumber1788784048534.name ∈
      (executePendingMigrations migrations s).1.executed) ∧
    (¬ (billers collate t.rows).Nodup →
      HasLayout (executePendingMigrations migrations s).1.db mock_bill₄ ∧
      ∀ s', Evolves (executePendingMigrations migrations s).1 s' →
        s'.executed = [InitialBillPayment1788780440681.name] ∧
          executePendingMigrations migrations s' = (s', false)) := by
  have hinitial : ∀ x ∈ s.db.tables, x.toLayout ∈ initialLayouts := fun x hx =>
    hlayouts ▸ List.mem_map_of_mem hx
  have hlayout : t.toLayout = mock_bill :=
    (show ∀ layout ∈ initialLayouts, layout.name = "mock_bill" → layout = mock_bill by decide)
      t.toLayout (hinitial t ht) hname
  have hkeys : ∀ layout ∈ initialLayouts, layout.foreignKeys = [] := by decide
  have halone : Alone s.db ⟨mock_bill, t.rows⟩ := by
    rw [← hlayout]
    refine ⟨ht, hkeys _ (hinitial t ht), fun x hx fk hfk => ?_⟩
    rw [hkeys _ (hinitial x hx)] at hfk
    exact absurd hfk List.not_mem_nil
  have hfirst : InitialBillPayment1788780440681.name ∈ s.executed := by
    rw [hexecuted]
    exact List.mem_singleton_self _
  have hsecond : AddConsumerAndBillNumber1788784048534.name ∉ s.executed := by
    rw [hexecuted]
    decide
  rw [migrations, executePendingMigrations, if_pos hfirst, executePendingMigrations,
    if_neg hsecond]
  constructor
  · intro hdistinct
    rcases halone.through consumers_about
      (consumers_through (s.db.valid.each _ halone.mem) hdistinct) with ⟨db', hdone, _⟩
    rw [runScript_eq_through.2 hdone]
    exact executed_kept (List.mem_append_right _ (List.mem_singleton_self _))
  · intro hshared
    rcases consumers_refused halone hshared with ⟨db', hrun, hlost⟩
    rw [hrun]
    refine ⟨hlost, fun s' hevolves => ?_⟩
    rw [hexecuted] at hevolves
    have hstuck := (Stuck.of_layout hlost).evolves hevolves
    exact ⟨hstuck.executed, hstuck.run⟩

/-! ### An example -/

/-- Two bills of one biller. -/
def twoBills : List Row := ["1", "2"].map fun id => [("id", .text id), ("biller_code", .text "B1"),
  ("customer_bill_number", .text id), ("registered_mobile", .text "9876543210"),
  ("customer_name", .text "Asha"), ("amount", .decimal 12500), ("due_date", .instant 0),
  ("status", .text "UNPAID"), ("created_at", .instant 0), ("updated_at", .instant 0)]

/-- The database after the first migration, with these bills. -/
def withBills : State id where
  db := ⟨initialLayouts.map fun layout =>
    ⟨layout, if layout.name = "mock_bill" then twoBills else []⟩, by decide +kernel⟩
  executed := [InitialBillPayment1788780440681.name]

theorem consumers_executed_withBills :
    HasLayout (executePendingMigrations migrations withBills).1.db mock_bill₄ ∧
      (executePendingMigrations migrations (executePendingMigrations migrations withBills).1).2 =
        false := by
  have hstuck := (consumers_executed (s := withBills) (t := ⟨mock_bill, twoBills⟩) rfl rfl
    (by decide +kernel) rfl).2 (by decide)
  exact ⟨hstuck.1, congrArg Prod.snd (hstuck.2 _ .refl).2⟩

end Bills

end Migrations
end IdentityBillpay
