import IdentityBillpay.Migrations.Scripts
import IdentityBillpay.Sql.Scripts

/-!
# Sequence — how far the migrations come

The first migration and the one of the admin module both create `admin_user`. Wherever the first
one has been executed, the other one is refused, and what stands after it is never reached.

* `Evolves` — runs of the migrations, and changes of the rows between them;
* `Blocked`, `Blocked.run` — the invariant, and one run;
* `admin_tables_never_created` — all runs.
-/

namespace IdentityBillpay
namespace Migrations

open Sql.Schema

section Sequence

variable {collate : String → String} {s s' : State collate}

/-- What may happen to a database: `migration:run`, and statements that change rows only. -/
inductive Evolves (s : State collate) : State collate → Prop where
  | refl : Evolves s s
  | run {s' : State collate} :
      Evolves s s' → Evolves s (executePendingMigrations migrations s').1
  | rows {s' : State collate} {db : Database collate} :
      Evolves s s' → db.tables.map Table.toLayout = s'.db.tables.map Table.toLayout →
        Evolves s ⟨db, s'.executed⟩

/-- A table of that layout is there. -/
def HasLayout (db : Database collate) (layout : Layout) : Prop :=
  layout ∈ db.tables.map Table.toLayout

/-- Two tables of the first migration are there once it has been executed, and the last two
migrations have not been. -/
structure Blocked (s : State collate) : Prop where
  admin_user : InitialBillPayment1788780440681.name ∈ s.executed → HasLayout s.db admin_user
  registration_attempt :
    InitialBillPayment1788780440681.name ∈ s.executed → HasLayout s.db registration_attempt
  notCreated : CreateAdminModuleTables1788856000000.name ∉ s.executed
  notAdded : AddRegistrationSagaColumns1789030000000.name ∉ s.executed

/-! ## One migration -/

theorem HasLayout.table {db : Database collate} {layout : Layout} (h : HasLayout db layout) :
    ∃ t, db.table? layout.name = some t ∧ t.toLayout = layout := by
  rcases List.mem_map.1 h with ⟨t, ht, rfl⟩
  exact ⟨t, table?_eq_some.2 ⟨ht, rfl⟩, rfl⟩

/-- A script leaves the tables alone that it is not about. -/
theorem HasLayout.afterScript {db : Database collate} {layout : Layout} {script : List Statement}
    (h : HasLayout db layout) (hscript : ∀ st ∈ script, st.table ≠ layout.name) :
    HasLayout (runScript script db).1 layout := by
  rcases h.table with ⟨t, ht, rfl⟩
  rw [← runScript_other hscript] at ht
  exact List.mem_map_of_mem (table?_eq_some.1 ht).1

/-- The layouts of the first migration. -/
def initialLayouts : List Layout := [event_log, audit_outbox, notification_template,
  notification_template_history, bill_schedule, bill_payment, biller_registration,
  registration_attempt, mock_bill, otp_challenge, device_profile, credential, corporate_hierarchy,
  cif_link, authorization_rule, authorization_rule_history, Migrations.admin_user]

theorem hasLayout_of_initial {db db' : Database collate}
    (h : runScript InitialBillPayment1788780440681.up db = (db', true)) :
    ∀ layout ∈ initialLayouts, HasLayout db' layout := by
  intro layout hlayout
  have hthrough : through (initialLayouts.map .createTable) db = some db' :=
    runScript_eq_through.1 h
  have htables := through_createTables hthrough
  rw [HasLayout, htables, List.map_append]
  exact List.mem_append_right _ (List.mem_map.2 ⟨_, List.mem_map_of_mem hlayout, rfl⟩)

/-- The migrations before the one of the admin module. -/
def reached : List Migration := [InitialBillPayment1788780440681,
  AddConsumerAndBillNumber1788784048534, UpdateBillPaymentAmount1788844566220,
  AddIdempotencyKey1788849842117, AddKeycloakUserIdToBbps1788851200000,
  AddScheduleStatusAndExecution1788852000000]

/-- The later ones of them are about other tables. -/
theorem reached_other : ∀ m ∈ reached.tail,
    m.name ≠ InitialBillPayment1788780440681.name ∧
      ∀ st ∈ m.up, st.table ≠ "admin_user" ∧ st.table ≠ "registration_attempt" := by
  decide

theorem reached_names : ∀ m ∈ reached,
    m.name ≠ CreateAdminModuleTables1788856000000.name ∧
      m.name ≠ AddRegistrationSagaColumns1789030000000.name := by
  decide

/-- A migration that fails. -/
theorem Blocked.afterFailed {m : Migration} (hm : m ∈ reached) (hnew : m.name ∉ s.executed)
    (h : Blocked s) : Blocked ⟨(runScript m.up s.db).1, s.executed⟩ := by
  rcases List.mem_cons.1 hm with rfl | hlater
  · exact ⟨fun hdone => absurd hdone hnew, fun hdone => absurd hdone hnew, h.notCreated, h.notAdded⟩
  · have hother := (reached_other m hlater).2
    exact ⟨fun hdone => (h.admin_user hdone).afterScript fun st hst => (hother st hst).1,
      fun hdone => (h.registration_attempt hdone).afterScript fun st hst => (hother st hst).2,
      h.notCreated, h.notAdded⟩

/-- A migration that is executed. -/
theorem Blocked.afterExecuted {m : Migration} {db : Database collate} (hm : m ∈ reached)
    (hnew : m.name ∉ s.executed) (hrun : runScript m.up s.db = (db, true)) (h : Blocked s) :
    Blocked ⟨db, s.executed ++ [m.name]⟩ := by
  have hnames := reached_names m hm
  have hcreated : CreateAdminModuleTables1788856000000.name ∉ s.executed ++ [m.name] := by
    simpa [h.notCreated] using hnames.1.symm
  have hadded : AddRegistrationSagaColumns1789030000000.name ∉ s.executed ++ [m.name] := by
    simpa [h.notAdded] using hnames.2.symm
  rcases List.mem_cons.1 hm with rfl | hlater
  · have hlayouts := hasLayout_of_initial hrun
    exact ⟨fun _ => hlayouts _ (by decide), fun _ => hlayouts _ (by decide), hcreated, hadded⟩
  · have hfailed := h.afterFailed hm hnew
    rw [hrun] at hfailed
    have hother := (reached_other m hlater).1
    have hbefore : InitialBillPayment1788780440681.name ∈ s.executed ++ [m.name] →
        InitialBillPayment1788780440681.name ∈ s.executed := by
      intro hdone
      rcases List.mem_append.1 hdone with hdone | hnow
      · exact hdone
      · exact absurd (List.mem_singleton.1 hnow).symm hother
    exact ⟨fun hdone => hfailed.admin_user (hbefore hdone),
      fun hdone => hfailed.registration_attempt (hbefore hdone), hcreated, hadded⟩

/-! ## All of them -/

/-- The migration of the admin module stops at its first statement. -/
theorem admin_tables_refused {db : Database collate} (h : HasLayout db admin_user) :
    runScript CreateAdminModuleTables1788856000000.up db = (db, false) := by
  have hname : Admin.admin_user.name ∈ db.names := by
    rcases List.mem_map.1 h with ⟨t, ht, hlayout⟩
    refine List.mem_map.2 ⟨t, ht, ?_⟩
    rw [hlayout]
    rfl
  change runScript (.createTable Admin.admin_user :: _) db = (db, false)
  rw [runScript, createTable_refused hname]

theorem Blocked.afterAll (ms rest : List Migration) (hms : ∀ m ∈ ms, m ∈ reached)
    (hfirst : InitialBillPayment1788780440681 ∈ ms ∨
      InitialBillPayment1788780440681.name ∈ s.executed) (h : Blocked s) :
    Blocked (executePendingMigrations
        (ms ++ CreateAdminModuleTables1788856000000 :: rest) s).1 ∧
      (executePendingMigrations
        (ms ++ CreateAdminModuleTables1788856000000 :: rest) s).2 = false := by
  induction ms generalizing s with
  | nil =>
      have hdone := hfirst.resolve_left List.not_mem_nil
      rw [List.nil_append, executePendingMigrations, if_neg h.notCreated,
        admin_tables_refused (h.admin_user hdone)]
      exact ⟨h, rfl⟩
  | cons m ms ih =>
      have hm := hms m List.mem_cons_self
      have hrest : ∀ m' ∈ ms, m' ∈ reached := fun m' hm' => hms m' (List.mem_cons_of_mem m hm')
      rw [List.cons_append, executePendingMigrations]
      by_cases hpending : m.name ∈ s.executed
      · rw [if_pos hpending]
        refine ih hrest ?_ h
        rcases hfirst with hfirst | hfirst
        · rcases List.mem_cons.1 hfirst with rfl | hlater
          · exact .inr hpending
          · exact .inl hlater
        · exact .inr hfirst
      · rw [if_neg hpending]
        have hfailed := h.afterFailed hm hpending
        cases hrun : runScript m.up s.db with
        | mk db done =>
            cases done with
            | true =>
                refine ih hrest ?_ (h.afterExecuted hm hpending hrun)
                rcases hfirst with hfirst | hfirst
                · rcases List.mem_cons.1 hfirst with rfl | hlater
                  · exact .inr (List.mem_append_right _ (List.mem_singleton_self _))
                  · exact .inl hlater
                · exact .inr (List.mem_append_left _ hfirst)
            | false =>
                rw [hrun] at hfailed
                exact ⟨hfailed, rfl⟩

theorem Blocked.afterRun (h : Blocked s) :
    Blocked (executePendingMigrations migrations s).1 ∧
      (executePendingMigrations migrations s).2 = false :=
  h.afterAll reached _ (fun _ hm => hm) (.inl List.mem_cons_self)

/-- Whatever happens after a start without executed migrations. -/
theorem Evolves.blocked (hnone : s.executed = []) (h : Evolves s s') : Blocked s' := by
  induction h with
  | refl =>
      refine ⟨?_, ?_, ?_, ?_⟩ <;> rw [hnone]
      · exact fun hdone => absurd hdone List.not_mem_nil
      · exact fun hdone => absurd hdone List.not_mem_nil
      · exact List.not_mem_nil
      · exact List.not_mem_nil
  | run _ ih => exact ih.afterRun.1
  | rows _ hlayouts ih =>
      refine ⟨fun hdone => ?_, fun hdone => ?_, ih.notCreated, ih.notAdded⟩
      · rw [HasLayout, hlayouts]
        exact ih.admin_user hdone
      · rw [HasLayout, hlayouts]
        exact ih.registration_attempt hdone

/-- No run succeeds, at any time: the tables of the admin module and the columns of the registration
are never created. -/
theorem admin_tables_never_created (hnone : s.executed = []) (h : Evolves s s') :
    (executePendingMigrations migrations s').2 = false ∧
      CreateAdminModuleTables1788856000000.name ∉ s'.executed ∧
      AddRegistrationSagaColumns1789030000000.name ∉ s'.executed ∧
      (InitialBillPayment1788780440681.name ∈ s'.executed →
        HasLayout s'.db admin_user ∧ HasLayout s'.db registration_attempt) := by
  have hblocked := Evolves.blocked hnone h
  exact ⟨hblocked.afterRun.2, hblocked.notCreated, hblocked.notAdded,
    fun hdone => ⟨hblocked.admin_user hdone, hblocked.registration_attempt hdone⟩⟩

/-- A new database. -/
def newDatabase : State id := ⟨⟨[], by decide⟩, []⟩

/-- The second run fails like the first one. -/
theorem admin_tables_never_created_new :
    (executePendingMigrations migrations
      (executePendingMigrations migrations newDatabase).1).2 = false :=
  (admin_tables_never_created rfl (.run .refl)).1

example : (executePendingMigrations migrations newDatabase).1.executed =
    reached.map Migration.name := by
  decide +kernel

end Sequence

end Migrations
end IdentityBillpay
