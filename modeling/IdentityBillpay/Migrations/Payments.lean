import IdentityBillpay.Migrations.Consumers

/-!
# Payments — the rows that the later migrations find

The migrations after the one of the bills change payments and schedules, and are never refused.

* `amount_widened`, `keys_added`, `payment_user_added` — the payments;
* `schedule_user_added`, `status_added` — the schedules;
* `reached_through` — these migrations, one after the other;
* `migrations_executed` — a run, and what comes of the payments.
-/

namespace IdentityBillpay
namespace Migrations

open Sql.Schema

section Payments

variable {collate : String → String} {rows : List Row}

/-! ## The amounts -/

def bill_payment₁ : Layout := { bill_payment with
  columns := bill_payment.columns.map fun old =>
    if old.name = "amount" then required "amount" (.decimal 12 2) else old }

/-- A payment whose amount has two digits after the point. -/
def Row.inHundredths (r : Row) : Row :=
  Row.set r "amount" (ColumnType.convert (.decimal 10 0) (.decimal 12 2) (r.cell "amount"))

theorem amount_widened (h : Table.Valid collate ⟨bill_payment, rows⟩) :
    Table.through collate UpdateBillPaymentAmount1788844566220.up ⟨bill_payment, rows⟩ =
      some ⟨bill_payment₁, rows.map Row.inHundredths⟩ := by
  have hvalid : Table.Valid collate ⟨bill_payment₁, rows.map Row.inHundredths⟩ := by
    refine h.changeColumn (required "amount" (.decimal 10 0)) (required "amount" (.decimal 12 2))
      (show _ ∈ bill_payment.columns by decide) rfl
      (show ∀ i ∈ bill_payment.indexes, "amount" ∉ i.columns by decide) (fun r hr => ?_) rfl
    have hcell := h.typed r hr (required "amount" (.decimal 10 0))
      (show _ ∈ bill_payment.columns by decide)
    change (required "amount" (.decimal 10 0)).accepts (r.cell "amount") = true at hcell
    change (required "amount" (.decimal 12 2)).accepts
      (ColumnType.convert (.decimal 10 0) (.decimal 12 2) (r.cell "amount")) = true
    cases hvalue : r.cell "amount" with
    | decimal units =>
        rw [hvalue] at hcell
        have hsmall : units.natAbs < 10000000000 := of_decide_eq_true hcell
        have hlarge : (units * 100).natAbs < 1000000000000 := by
          rw [Int.natAbs_mul]
          change units.natAbs * 100 < 1000000000000
          omega
        exact decide_eq_true hlarge
    | _ =>
        rw [hvalue] at hcell
        cases hcell
  exact Table.through_step rfl hvalid

/-! ## The idempotency keys -/

def bill_payment₂ : Layout := { bill_payment₁ with
  columns := bill_payment₁.columns ++ [optional "idempotency_key" (.varchar 255)] }

def bill_payment₃ : Layout := { bill_payment₁ with
  columns := bill_payment₁.columns ++ [required "idempotency_key" (.varchar 255)] }

def bill_payment₄ : Layout := { bill_payment₃ with
  indexes := bill_payment₃.indexes ++ [IDX_00102e14a962999378bb9949f4] }

/-- A payment with a key that is made of its id. -/
def Row.keyed (r : Row) : Row :=
  r ++ [("idempotency_key", (Expr.concat (.text "LEGACY-") (.column "id")).eval r)]

/-- Every payment has an id of at most 36 characters. -/
theorem payment_id (h : Table.Valid collate ⟨bill_payment₁, rows⟩) {r : Row} (hr : r ∈ rows) :
    ∃ id, r.cell "id" = .text id ∧ id.length ≤ 36 := by
  have hcell := h.typed r hr (required "id" (.varchar 36))
    (show _ ∈ bill_payment₁.columns by decide)
  change (required "id" (.varchar 36)).accepts (r.cell "id") = true at hcell
  cases hvalue : r.cell "id" with
  | text id =>
      rw [hvalue] at hcell
      have hlength : id.length ≤ 36 := of_decide_eq_true hcell
      exact ⟨id, rfl, hlength⟩
  | _ =>
      rw [hvalue] at hcell
      cases hcell

theorem no_key (h : Table.Valid collate ⟨bill_payment₁, rows⟩) {r : Row} (hr : r ∈ rows) :
    "idempotency_key" ∉ r.map Prod.fst := by
  rw [h.aligned r hr]
  exact show _ ∉ bill_payment₁.columns.map Column.name by decide

theorem keyed_cell (h : Table.Valid collate ⟨bill_payment₁, rows⟩) {r : Row} (hr : r ∈ rows)
    {id : String} (hid : r.cell "id" = .text id) :
    (Row.keyed r).cell "idempotency_key" = .text ("LEGACY-" ++ id) := by
  rw [Row.keyed, cell_append_new (no_key h hr), Expr.eval, Expr.eval, Expr.eval, hid]

theorem keyed_accepted (h : Table.Valid collate ⟨bill_payment₁, rows⟩) {r : Row} (hr : r ∈ rows)
    {c : Column} (hc : c.type = .varchar 255) :
    c.accepts ((Row.keyed r).cell "idempotency_key") = true := by
  rcases payment_id h hr with ⟨id, hid, hlength⟩
  rw [keyed_cell h hr hid, Column.accepts, if_neg (by simp), hc]
  refine decide_eq_true ?_
  rw [String.length_append]
  change 7 + id.length ≤ 255
  omega

/-- The keys differ as the ids do. -/
theorem keys_separated
    (hcollate : ∀ a b, collate ("LEGACY-" ++ a) = collate ("LEGACY-" ++ b) → collate a = collate b)
    (h : Table.Valid collate ⟨bill_payment₁, rows⟩) :
    IDX_00102e14a962999378bb9949f4.Separates collate (rows.map Row.keyed) := by
  have hids : (rows.map fun r => [sortKey collate (r.cell "id")]).Nodup := by
    refine (Index.separates_iff fun r hr => ?_).1
      (h.separated primaryKey (show _ ∈ bill_payment₁.indexes by decide) rfl)
    rcases payment_id h hr with ⟨id, hid, _⟩
    change Value.null ∉ [r.cell "id"]
    rw [hid]
    simp
  refine (Index.separates_iff fun r' hr' => ?_).2 ?_
  · rcases List.mem_map.1 hr' with ⟨r, hr, rfl⟩
    rcases payment_id h hr with ⟨id, hid, _⟩
    change Value.null ∉ [(Row.keyed r).cell "idempotency_key"]
    rw [keyed_cell h hr hid]
    simp
  · rw [List.map_map]
    rw [List.Nodup, List.pairwise_map] at hids ⊢
    refine hids.imp_of_mem fun {r r'} hr hr' hdiffer hsame => hdiffer ?_
    rcases payment_id h hr with ⟨id, hid, _⟩
    rcases payment_id h hr' with ⟨id', hid', _⟩
    change [sortKey collate ((Row.keyed r).cell "idempotency_key")] =
      [sortKey collate ((Row.keyed r').cell "idempotency_key")] at hsame
    rw [keyed_cell h hr hid, keyed_cell h hr' hid'] at hsame
    have hcollated := Value.text.inj (List.cons.inj hsame).1
    rw [hid, hid']
    exact congrArg (fun key => [Value.text key]) (hcollate id id' hcollated)

/-- No payment stands in the way of its key. -/
theorem keys_added
    (hcollate : ∀ a b, collate ("LEGACY-" ++ a) = collate ("LEGACY-" ++ b) → collate a = collate b)
    (h : Table.Valid collate ⟨bill_payment₁, rows⟩) :
    Table.through collate AddIdempotencyKey1788849842117.up ⟨bill_payment₁, rows⟩ =
      some ⟨bill_payment₄, rows.map Row.keyed⟩ := by
  have hnew : ∀ r ∈ rows, "idempotency_key" ∉ r.map Prod.fst := fun r hr => no_key h hr
  let rows₂ := rows.map fun r => r ++ [("idempotency_key", Value.null)]
  have hvalid₂ : Table.Valid collate ⟨bill_payment₂, rows₂⟩ :=
    h.addColumn (c := optional "idempotency_key" (.varchar 255))
      (show "idempotency_key" ∉ bill_payment₁.columns.map Column.name by decide) rfl rfl rfl
  have hvalue : ∀ r ∈ rows, (Expr.concat (.text "LEGACY-") (.column "id")).eval
      (r ++ [("idempotency_key", .null)]) =
        (Expr.concat (.text "LEGACY-") (.column "id")).eval r := by
    intro r hr
    have hid : Row.cell (r ++ [("idempotency_key", .null)]) "id" = r.cell "id" := by
      refine cell_append ?_ _
      rw [h.aligned r hr]
      exact show _ ∈ bill_payment₁.columns.map Column.name by decide
    simp only [Expr.eval, hid]
  -- The new cells are all `NULL`, and all of them are written to.
  have hrows : rows₂.map (fun r =>
      if (Condition.isNull "idempotency_key").holds r then
        Row.set r "idempotency_key" ((Expr.concat (.text "LEGACY-") (.column "id")).eval r)
      else r) = rows.map Row.keyed := by
    rw [List.map_map]
    refine List.map_congr_left fun r hr => ?_
    have hnull : (Condition.isNull "idempotency_key").holds
        (r ++ [("idempotency_key", .null)]) = true :=
      decide_eq_true (cell_append_new (hnew r hr))
    rw [Function.comp_apply, if_pos hnull, set_append_new (hnew r hr), hvalue r hr]
    rfl
  have hupdate : (Statement.update "bill_payment" "idempotency_key"
      (.concat (.text "LEGACY-") (.column "id")) (.isNull "idempotency_key")).alter?
        ⟨bill_payment₂, rows₂⟩ = some ⟨bill_payment₂, rows.map Row.keyed⟩ :=
    congrArg (fun rows => some (Table.mk bill_payment₂ rows)) hrows
  have hkeyed : Table.Valid collate ⟨bill_payment₂, rows.map Row.keyed⟩ := by
    refine hvalid₂.update (c := optional "idempotency_key" (.varchar 255))
      (show _ ∈ bill_payment₂.columns by decide)
      (show ∀ i ∈ bill_payment₂.indexes, "idempotency_key" ∉ i.columns by decide)
      (fun r' hr' _ => ?_) hupdate
    rcases List.mem_map.1 hr' with ⟨r, hr, rfl⟩
    have haccepted := keyed_accepted h hr (c := optional "idempotency_key" (.varchar 255)) rfl
    rw [Row.keyed, cell_append_new (hnew r hr)] at haccepted
    rw [hvalue r hr]
    exact haccepted
  have hchange : (Statement.changeColumn "bill_payment"
      (required "idempotency_key" (.varchar 255))).alter? ⟨bill_payment₂, rows.map Row.keyed⟩ =
        some ⟨bill_payment₃, rows.map Row.keyed⟩ := by
    have hsame : (rows.map Row.keyed).map (fun r =>
        Row.set r "idempotency_key" (r.cell "idempotency_key")) = rows.map Row.keyed := by
      refine (List.map_congr_left fun r hr => set_cell ?_).trans (List.map_id _)
      rw [hkeyed.aligned r hr]
      exact hkeyed.columnNames
    exact congrArg (fun rows => some (Table.mk bill_payment₃ rows)) hsame
  have hvalid₃ : Table.Valid collate ⟨bill_payment₃, rows.map Row.keyed⟩ := by
    refine hkeyed.changeColumn (optional "idempotency_key" (.varchar 255))
      (required "idempotency_key" (.varchar 255)) (show _ ∈ bill_payment₂.columns by decide) rfl
      (show ∀ i ∈ bill_payment₂.indexes, "idempotency_key" ∉ i.columns by decide)
      (fun r' hr' => ?_) hchange
    rcases List.mem_map.1 hr' with ⟨r, hr, rfl⟩
    exact keyed_accepted h hr rfl
  have hvalid₄ : Table.Valid collate ⟨bill_payment₄, rows.map Row.keyed⟩ :=
    (hvalid₃.addIndex_iff (i := IDX_00102e14a962999378bb9949f4)
      (show _ ∉ bill_payment₃.indexes.map Index.name by decide) (by decide)
      (show ∀ column ∈ IDX_00102e14a962999378bb9949f4.columns,
        column ∈ bill_payment₃.columns.map Column.name by decide) rfl).2
          fun _ => keys_separated hcollate h
  exact (Table.through_step rfl hvalid₂).trans <| (Table.through_step hupdate hkeyed).trans <|
    (Table.through_step hchange hvalid₃).trans (Table.through_step rfl hvalid₄)

/-! ## The users -/

def keycloakUserId : Column := optional "keycloak_user_id" (.varchar 36)

def bill_payment₅ : Layout := { bill_payment₄ with
  columns := bill_payment₄.columns ++ [keycloakUserId] }

def bill_schedule₁ : Layout := { bill_schedule with
  columns := bill_schedule.columns ++ [keycloakUserId] }

def Row.unowned (r : Row) : Row :=
  r ++ [("keycloak_user_id", .null)]

theorem payment_user_added (h : Table.Valid collate ⟨bill_payment₄, rows⟩) :
    Table.through collate [.addColumn "bill_payment" keycloakUserId] ⟨bill_payment₄, rows⟩ =
      some ⟨bill_payment₅, rows.map Row.unowned⟩ :=
  Table.through_addNullable h
    (show "keycloak_user_id" ∉ bill_payment₄.columns.map Column.name by decide) rfl rfl

theorem schedule_user_added (h : Table.Valid collate ⟨bill_schedule, rows⟩) :
    Table.through collate [.addColumn "bill_schedule" keycloakUserId] ⟨bill_schedule, rows⟩ =
      some ⟨bill_schedule₁, rows.map Row.unowned⟩ :=
  Table.through_addNullable h
    (show "keycloak_user_id" ∉ bill_schedule.columns.map Column.name by decide) rfl rfl

/-! ## The states of the schedules -/

def bill_schedule₂ : Layout := { bill_schedule₁ with
  columns := bill_schedule₁.columns ++ [defaulted "status" (.varchar 32) (.text "ACTIVE")] }

/-- Schedules that are not active are paused. -/
def Row.withStatus (r : Row) : Row :=
  r ++ [("status", if r.cell "active" = .int 1 then .text "ACTIVE" else .text "PAUSED")]

theorem status_added (h : Table.Valid collate ⟨bill_schedule₁, rows⟩) :
    Table.through collate (AddScheduleStatusAndExecution1788852000000.up.take 2)
      ⟨bill_schedule₁, rows⟩ = some ⟨bill_schedule₂, rows.map Row.withStatus⟩ := by
  let rows₂ := rows.map fun r => r ++ [("status", Value.text "ACTIVE")]
  have hvalid₂ : Table.Valid collate ⟨bill_schedule₂, rows₂⟩ :=
    h.addColumn (c := defaulted "status" (.varchar 32) (.text "ACTIVE"))
      (show "status" ∉ bill_schedule₁.columns.map Column.name by decide) rfl rfl rfl
  have hrows : rows₂.map (fun r => Row.set r "status"
      ((Expr.ifEqual "active" 1 (.text "ACTIVE") (.text "PAUSED")).eval r)) =
        rows.map Row.withStatus := by
    rw [List.map_map]
    refine List.map_congr_left fun r hr => ?_
    have hnames := h.aligned r hr
    have hnew : "status" ∉ r.map Prod.fst := by
      rw [hnames]
      exact show _ ∉ bill_schedule₁.columns.map Column.name by decide
    have hactive : Row.cell (r ++ [("status", .text "ACTIVE")]) "active" = Row.cell r "active" := by
      refine cell_append ?_ _
      rw [hnames]
      exact show _ ∈ bill_schedule₁.columns.map Column.name by decide
    rw [Function.comp_apply, set_append_new hnew, Row.withStatus]
    simp only [Expr.eval, hactive]
  have hupdate : (Statement.update "bill_schedule" "status"
      (.ifEqual "active" 1 (.text "ACTIVE") (.text "PAUSED")) .always).alter?
        ⟨bill_schedule₂, rows₂⟩ = some ⟨bill_schedule₂, rows.map Row.withStatus⟩ :=
    congrArg (fun rows => some (Table.mk bill_schedule₂ rows)) hrows
  have hvalid₃ : Table.Valid collate ⟨bill_schedule₂, rows.map Row.withStatus⟩ := by
    refine hvalid₂.update (c := defaulted "status" (.varchar 32) (.text "ACTIVE"))
      (show _ ∈ bill_schedule₂.columns by decide)
      (show ∀ i ∈ bill_schedule₂.indexes, "status" ∉ i.columns by decide) (fun r _ _ => ?_) hupdate
    simp only [Expr.eval]
    split
    · rfl
    · rfl
  exact (Table.through_step rfl hvalid₂).trans (Table.through_step hupdate hvalid₃)

/-! ## One run -/

/-- A payment after the migrations. -/
def Row.migrated (r : Row) : Row :=
  Row.unowned (Row.keyed (Row.inHundredths r))

/-- What the migrations find, apart from the bills. -/
structure Ready (db : Database collate) (payments schedules : List Row) : Prop where
  free : db.Free
  unused : bill_schedule_execution.name ∉ db.names
  payments : db.table? "bill_payment" = some ⟨bill_payment, payments⟩
  schedules : db.table? "bill_schedule" = some ⟨bill_schedule, schedules⟩

/-- The migrations between the first one and the one of the admin module, on bills that let them
through. -/
theorem reached_through {db : Database collate} {bills payments schedules : List Row}
    (hcollate : ∀ a b, collate ("LEGACY-" ++ a) = collate ("LEGACY-" ++ b) → collate a = collate b)
    (h : Ready db payments schedules) (hbills : db.table? "mock_bill" = some ⟨mock_bill, bills⟩)
    (hdistinct : (billers collate bills).Nodup) :
    ∃ db', reached.tail.foldlM (fun db m => through m.up db) db = some db' ∧
      db'.table? "bill_payment" = some ⟨bill_payment₅, payments.map Row.migrated⟩ ∧
      db'.table? "admin_user" = db.table? "admin_user" := by
  have hvalid : ∀ {db : Database collate} {name : String} {t : Table}, db.table? name = some t →
      t.Valid collate := fun {db _ t} ht => db.valid.each t (table?_eq_some.1 ht).1
  rcases h.free.through consumers_about hbills (consumers_through (hvalid hbills) hdistinct) with
    ⟨db₁, hdone₁, hfree₁, hnames₁, _, hother₁⟩
  have hpayments₁ := (hother₁ "bill_payment" (by decide)).trans h.payments
  rcases hfree₁.through (by decide) hpayments₁ (amount_widened (hvalid hpayments₁)) with
    ⟨db₂, hdone₂, hfree₂, hnames₂, hpayments₂, hother₂⟩
  rcases hfree₂.through (by decide) hpayments₂ (keys_added hcollate (hvalid hpayments₂)) with
    ⟨db₃, hdone₃, hfree₃, hnames₃, hpayments₃, hother₃⟩
  rcases hfree₃.through (by decide) hpayments₃ (payment_user_added (hvalid hpayments₃)) with
    ⟨db₄, hdone₄, hfree₄, hnames₄, hpayments₄, hother₄⟩
  have hschedules₄ : db₄.table? "bill_schedule" = some ⟨bill_schedule, schedules⟩ := by
    rw [hother₄ _ (by decide), hother₃ _ (by decide), hother₂ _ (by decide), hother₁ _ (by decide)]
    exact h.schedules
  rcases hfree₄.through (by decide) hschedules₄ (schedule_user_added (hvalid hschedules₄)) with
    ⟨db₅, hdone₅, hfree₅, hnames₅, hschedules₅, hother₅⟩
  rcases hfree₅.through (by decide) hschedules₅ (status_added (hvalid hschedules₅)) with
    ⟨db₆, hdone₆, hfree₆, hnames₆, hschedules₆, hother₆⟩
  have hunused : bill_schedule_execution.name ∉ db₆.names := by
    rw [hnames₆, hnames₅, hnames₄, hnames₃, hnames₂, hnames₁]
    exact h.unused
  have hexecution : ∃ db₇ : Database collate,
      exec (.createTable bill_schedule_execution) db₆ = some db₇ ∧
        db₇.tables = db₆.tables ++ [⟨bill_schedule_execution, []⟩] := by
    refine createTable_accepted hunused
      (Table.Valid.empty (by decide) (by decide) (by decide) (by decide)) fun fk hfk => ?_
    have hschedule := (table?_eq_some.1 hschedules₆).1
    cases List.mem_singleton.1 hfk
    refine ⟨by decide, _, hschedule, rfl, ?_⟩
    exact show ∃ i ∈ bill_schedule₂.indexes, i.columns.head? = some "id" by decide
  rcases hexecution with ⟨db₇, hexec, _⟩
  have hother₇ : ∀ other, other ≠ bill_schedule_execution.name →
      db₇.table? other = db₆.table? other :=
    fun _ hother => exec_other (s := .createTable bill_schedule_execution) hother.symm hexec
  have husers : through AddKeycloakUserIdToBbps1788851200000.up db₃ = some db₅ := by
    change through ([.addColumn "bill_payment" keycloakUserId] ++ [_]) db₃ = some db₅
    rw [through_append, hdone₄]
    exact hdone₅
  have hstatus : through AddScheduleStatusAndExecution1788852000000.up db₅ = some db₇ := by
    change through (AddScheduleStatusAndExecution1788852000000.up.take 2 ++ [_]) db₅ = some db₇
    rw [through_append, hdone₆, Option.bind_some, through_single]
    exact hexec
  refine ⟨db₇, ?_, ?_, ?_⟩
  · simp only [reached, List.tail_cons, List.foldlM_cons, List.foldlM_nil, hdone₁, hdone₂, hdone₃,
      husers, hstatus, Option.bind_eq_bind, Option.bind_some, Option.pure_def]
  · rw [hother₇ _ (by decide), hother₆ _ (by decide), hother₅ _ (by decide), hpayments₄,
      List.map_map, List.map_map]
    rfl
  · rw [hother₇ _ (by decide), hother₆ _ (by decide), hother₅ _ (by decide), hother₄ _ (by decide),
      hother₃ _ (by decide), hother₂ _ (by decide), hother₁ _ (by decide)]

/-- A run that nothing stops. -/
theorem executePendingMigrations_through {ms rest : List Migration} {db db' : Database collate}
    {executed : List String} (hpending : ∀ m ∈ ms, m.name ∉ executed)
    (hnames : (ms.map Migration.name).Nodup)
    (h : ms.foldlM (fun db m => through m.up db) db = some db') :
    executePendingMigrations (ms ++ rest) ⟨db, executed⟩ =
      executePendingMigrations rest ⟨db', executed ++ ms.map Migration.name⟩ := by
  induction ms generalizing db executed with
  | nil =>
      cases h
      rw [List.map_nil, List.append_nil]
      rfl
  | cons m ms ih =>
      rw [List.foldlM_cons] at h
      rcases Option.bind_eq_some_iff.1 h with ⟨db₁, hfirst, hrest⟩
      have hlater := List.nodup_cons.1 hnames
      rw [List.cons_append, executePendingMigrations,
        if_neg (hpending m List.mem_cons_self), runScript_eq_through.2 hfirst]
      refine (ih ?_ hlater.2 hrest).trans ?_
      · intro m' hm' hdone
        rcases List.mem_append.1 hdone with hdone | hnow
        · exact hpending m' (List.mem_cons_of_mem m hm') hdone
        · exact hlater.1 (List.mem_singleton.1 hnow ▸ List.mem_map_of_mem hm')
      · rw [List.map_cons, List.append_assoc]
        rfl

def twoPayments : List Row := [("1", 125), ("2", 80)].map fun (id, amount) => [("id", .text id),
  ("biller_code", .text "B1"), ("consumer_number", .text "C1"), ("amount", .decimal amount),
  ("status", .text "PENDING"), ("bbps_reference_id", .null), ("created_at", .instant 0),
  ("updated_at", .instant 0)]

/-- The database after the first migration, with one bill and these payments. -/
def withPayments : State id where
  db := ⟨initialLayouts.map fun layout =>
    ⟨layout, if layout.name = "mock_bill" then twoBills.take 1
      else if layout.name = "bill_payment" then twoPayments else []⟩, by decide +kernel⟩
  executed := [InitialBillPayment1788780440681.name]

end Payments

end Migrations
end IdentityBillpay
