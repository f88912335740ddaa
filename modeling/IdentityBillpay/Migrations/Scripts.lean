import IdentityBillpay.Sql.Schema

/-!
# Scripts — the migrations of the service

The eight migrations lie in three modules, but `database.config.ts` gives one data source all of
them, which runs them in the order of their timestamps.

* `Initial…`, `AddConsumerAndBillNumber…`, … — the statements of each migration, there and back;
* `migrations` — all of them in their order;
* `executePendingMigrations` — `migration:run`.
-/

namespace IdentityBillpay
namespace Migrations

open Sql.Schema

structure Migration where
  name : String
  up : List Statement
  down : List Statement

/-! ## Columns -/

/-- `NOT NULL`. -/
def required (name : String) (type : ColumnType) : Column :=
  { name := name, type := type }

/-- `NULL`. -/
def optional (name : String) (type : ColumnType) : Column :=
  { name := name, type := type, nullable := true }

/-- `NOT NULL DEFAULT …`. -/
def defaulted (name : String) (type : ColumnType) (value : Value) : Column :=
  { name := name, type := type, default := some (.literal value) }

def createdAt : Column :=
  { name := "created_at", type := .datetime 6, default := some .currentTimestamp }

def updatedAt : Column :=
  { name := "updated_at", type := .datetime 6, default := some .currentTimestamp
    onUpdateTimestamp := true }

def primaryKey : Index := ⟨"PRIMARY", true, ["id"]⟩

/-- The tables of the first migration differ in what stands between the id and the timestamps. -/
def entityTable (name : String) (columns : List Column) (indexes : List Index) : Layout where
  name := name
  columns := required "id" (.varchar 36) :: columns ++ [createdAt, updatedAt]
  indexes := indexes ++ [primaryKey]

/-! ## The bill-payment module -/

def event_log : Layout :=
  entityTable "event_log" [required "event_name" (.varchar 255), required "payload" .json] []

def audit_outbox : Layout :=
  entityTable "audit_outbox"
    [required "event_type" (.varchar 255), required "payload" .json,
      defaulted "status" (.varchar 255) (.text "PENDING"), defaulted "attempts" .int (.int 0)] []

def notification_template : Layout :=
  entityTable "notification_template"
    [required "template_key" (.varchar 255), required "channel" (.varchar 255),
      optional "subject" (.varchar 255), required "body" .text,
      defaulted "version" .int (.int 1)] []

def notification_template_history : Layout :=
  entityTable "notification_template_history"
    [required "template_id" (.varchar 255), required "body" .text, required "version" .int] []

def bill_schedule : Layout :=
  entityTable "bill_schedule"
    [required "biller_code" (.varchar 255), required "consumer_number" (.varchar 255),
      required "frequency" (.varchar 255), required "next_run_at" (.datetime 0),
      defaulted "active" .tinyint (.int 1)] []

/-- `decimal` is `decimal(10,0)`. -/
def bill_payment : Layout :=
  entityTable "bill_payment"
    [required "biller_code" (.varchar 255), required "consumer_number" (.varchar 255),
      required "amount" (.decimal 10 0), defaulted "status" (.varchar 255) (.text "PENDING"),
      optional "bbps_reference_id" (.varchar 255)] []

def biller_registration : Layout :=
  entityTable "biller_registration"
    [required "biller_code" (.varchar 255), required "biller_name" (.varchar 255),
      required "category" (.varchar 255), defaulted "active" .tinyint (.int 1)] []

def registration_attempt : Layout :=
  entityTable "registration_attempt"
    [required "mobile_number" (.varchar 255), required "pan_or_cif" (.varchar 255),
      defaulted "current_step" (.varchar 255) (.text "INIT"),
      optional "failure_reason" (.varchar 255)] []

def IDX_988517e01eb4417484bfd3283a : Index :=
  ⟨"IDX_988517e01eb4417484bfd3283a", true, ["biller_code", "customer_bill_number"]⟩

def mock_bill : Layout :=
  entityTable "mock_bill"
    [required "biller_code" (.varchar 255), required "customer_bill_number" (.varchar 255),
      required "registered_mobile" (.varchar 255), required "customer_name" (.varchar 255),
      required "amount" (.decimal 12 2), required "due_date" .date,
      defaulted "status" (.varchar 255) (.text "UNPAID")]
    [IDX_988517e01eb4417484bfd3283a]

def otp_challenge : Layout :=
  entityTable "otp_challenge"
    [required "mobile_number" (.varchar 255), required "otp_hash" (.varchar 255),
      defaulted "attempt_count" .int (.int 0), optional "locked_until" (.datetime 0),
      required "expires_at" (.datetime 0)] []

def device_profile : Layout :=
  entityTable "device_profile"
    [required "user_id" (.varchar 255), required "device_id" (.varchar 255),
      optional "device_model" (.varchar 255), defaulted "trusted" .tinyint (.int 0)] []

def credential : Layout :=
  entityTable "credential"
    [required "user_id" (.varchar 255), required "password_hash" (.varchar 255),
      optional "last_rotated_at" (.datetime 0)] []

def corporate_hierarchy : Layout :=
  entityTable "corporate_hierarchy"
    [required "user_id" (.varchar 255), required "cif" (.varchar 255),
      required "role" (.varchar 255), optional "approval_limit" (.decimal 10 0)] []

def cif_link : Layout :=
  entityTable "cif_link"
    [required "user_id" (.varchar 255), required "cif" (.varchar 255),
      required "linked_by" (.varchar 255)] []

def authorization_rule : Layout :=
  entityTable "authorization_rule"
    [required "rule_name" (.varchar 255), required "cif" (.varchar 255),
      required "threshold" (.decimal 10 0), defaulted "version" .int (.int 1)] []

def authorization_rule_history : Layout :=
  entityTable "authorization_rule_history"
    [required "rule_id" (.varchar 255), required "snapshot" .json, required "version" .int] []

def admin_user : Layout :=
  entityTable "admin_user"
    [required "username" (.varchar 255), required "email" (.varchar 255),
      defaulted "active" .tinyint (.int 1)] []

def InitialBillPayment1788780440681 : Migration where
  name := "InitialBillPayment1788780440681"
  up := [
    .createTable event_log,
    .createTable audit_outbox,
    .createTable notification_template,
    .createTable notification_template_history,
    .createTable bill_schedule,
    .createTable bill_payment,
    .createTable biller_registration,
    .createTable registration_attempt,
    .createTable mock_bill,
    .createTable otp_challenge,
    .createTable device_profile,
    .createTable credential,
    .createTable corporate_hierarchy,
    .createTable cif_link,
    .createTable authorization_rule,
    .createTable authorization_rule_history,
    .createTable admin_user]
  down := [
    .dropTable "admin_user",
    .dropTable "authorization_rule_history",
    .dropTable "authorization_rule",
    .dropTable "cif_link",
    .dropTable "corporate_hierarchy",
    .dropTable "credential",
    .dropTable "device_profile",
    .dropTable "otp_challenge",
    .dropIndex "mock_bill" "IDX_988517e01eb4417484bfd3283a",
    .dropTable "mock_bill",
    .dropTable "registration_attempt",
    .dropTable "biller_registration",
    .dropTable "bill_payment",
    .dropTable "bill_schedule",
    .dropTable "notification_template_history",
    .dropTable "notification_template",
    .dropTable "audit_outbox",
    .dropTable "event_log"]

def IDX_955840860156cc2ca0d8ee57d8 : Index :=
  ⟨"IDX_955840860156cc2ca0d8ee57d8", true, ["biller_code", "consumer_number"]⟩

def AddConsumerAndBillNumber1788784048534 : Migration where
  name := "AddConsumerAndBillNumber1788784048534"
  up := [
    .dropIndex "mock_bill" "IDX_988517e01eb4417484bfd3283a",
    .dropColumn "mock_bill" "customer_bill_number",
    .addColumn "mock_bill" (required "consumer_number" (.varchar 255)),
    .addColumn "mock_bill" (required "bill_number" (.varchar 255)),
    .addIndex "mock_bill" IDX_955840860156cc2ca0d8ee57d8]
  down := [
    .dropIndex "mock_bill" "IDX_955840860156cc2ca0d8ee57d8",
    .dropColumn "mock_bill" "bill_number",
    .dropColumn "mock_bill" "consumer_number",
    .addColumn "mock_bill" (required "customer_bill_number" (.varchar 255)),
    .addIndex "mock_bill" IDX_988517e01eb4417484bfd3283a]

def UpdateBillPaymentAmount1788844566220 : Migration where
  name := "UpdateBillPaymentAmount1788844566220"
  up := [.changeColumn "bill_payment" (required "amount" (.decimal 12 2))]
  down := [.changeColumn "bill_payment" (required "amount" (.decimal 10 0))]

def IDX_00102e14a962999378bb9949f4 : Index :=
  ⟨"IDX_00102e14a962999378bb9949f4", true, ["idempotency_key"]⟩

def AddIdempotencyKey1788849842117 : Migration where
  name := "AddIdempotencyKey1788849842117"
  up := [
    .addColumn "bill_payment" (optional "idempotency_key" (.varchar 255)),
    .update "bill_payment" "idempotency_key" (.concat (.text "LEGACY-") (.column "id"))
      (.isNull "idempotency_key"),
    .changeColumn "bill_payment" (required "idempotency_key" (.varchar 255)),
    .addIndex "bill_payment" IDX_00102e14a962999378bb9949f4]
  down := [
    .dropIndex "bill_payment" "IDX_00102e14a962999378bb9949f4",
    .dropColumn "bill_payment" "idempotency_key"]

def AddKeycloakUserIdToBbps1788851200000 : Migration where
  name := "AddKeycloakUserIdToBbps1788851200000"
  up := [
    .addColumn "bill_payment" (optional "keycloak_user_id" (.varchar 36)),
    .addColumn "bill_schedule" (optional "keycloak_user_id" (.varchar 36))]
  down := [
    .dropColumn "bill_schedule" "keycloak_user_id",
    .dropColumn "bill_payment" "keycloak_user_id"]

def bill_schedule_execution : Layout where
  name := "bill_schedule_execution"
  columns := [
    required "id" (.varchar 36),
    required "schedule_id" (.varchar 36),
    optional "bill_number" (.varchar 255),
    optional "bill_amount" (.decimal 12 2),
    optional "maximum_amount" (.decimal 12 2),
    optional "idempotency_key" (.varchar 255),
    required "status" (.varchar 32),
    defaulted "attempt_count" .int (.int 1),
    optional "failure_reason" (.varchar 512),
    optional "payment_id" (.varchar 36),
    optional "started_at" (.datetime 0),
    optional "completed_at" (.datetime 0),
    createdAt,
    updatedAt]
  indexes := [
    primaryKey,
    ⟨"IDX_bill_schedule_execution_schedule_created", false, ["schedule_id", "created_at"]⟩]
  foreignKeys := [
    ⟨"FK_bill_schedule_execution_schedule", "schedule_id", "bill_schedule", "id", true⟩]

def AddScheduleStatusAndExecution1788852000000 : Migration where
  name := "AddScheduleStatusAndExecution1788852000000"
  up := [
    .addColumn "bill_schedule" (defaulted "status" (.varchar 32) (.text "ACTIVE")),
    .update "bill_schedule" "status" (.ifEqual "active" 1 (.text "ACTIVE") (.text "PAUSED"))
      .always,
    .createTable bill_schedule_execution]
  down := [
    .dropTable "bill_schedule_execution",
    .dropColumn "bill_schedule" "status"]

/-! ## The admin module -/

namespace Admin

/-- `CHAR(36) NOT NULL DEFAULT (UUID())`. -/
def uuidKey : Column :=
  { name := "id", type := .char 36, default := some .uuid }

def admin_user : Layout where
  name := "admin_user"
  columns := [
    uuidKey,
    required "employee_id" (.char 36),
    required "keycloak_user_id" (.varchar 36),
    required "username" (.varchar 100),
    required "email" (.varchar 255),
    required "first_name" (.varchar 100),
    required "last_name" (.varchar 100),
    required "role_id" (.char 36),
    required "role_name" (.varchar 100),
    defaulted "is_active" .tinyint (.int 1),
    required "last_synced_at" (.datetime 0),
    createdAt,
    updatedAt]
  indexes := [
    primaryKey,
    ⟨"UQ_admin_user_keycloak_user_id", true, ["keycloak_user_id"]⟩,
    ⟨"IDX_admin_user_role_name", false, ["role_name"]⟩]

def authorization_rule : Layout where
  name := "authorization_rule"
  columns := [
    uuidKey,
    { name := "created_at", type := .timestamp, default := some .currentTimestamp },
    { name := "updated_at", type := .timestamp, default := some .currentTimestamp
      onUpdateTimestamp := true },
    optional "deleted_at" .timestamp,
    required "rule_name" (.varchar 150),
    required "cif" (.varchar 20),
    required "threshold" (.decimal 18 2),
    defaulted "version" .int (.int 1),
    required "created_by_keycloak_user_id" (.varchar 36),
    optional "updated_by_keycloak_user_id" (.varchar 36)]
  indexes := [
    primaryKey,
    ⟨"IDX_authorization_rule_cif", false, ["cif"]⟩]

def authorization_rule_history : Layout where
  name := "authorization_rule_history"
  columns := [
    uuidKey,
    required "rule_id" (.char 36),
    required "snapshot" .json,
    required "version" .int,
    required "changed_by_keycloak_user_id" (.varchar 36),
    createdAt]
  indexes := [
    primaryKey,
    ⟨"IDX_authorization_rule_history_rule_id", false, ["rule_id"]⟩]

end Admin

def CreateAdminModuleTables1788856000000 : Migration where
  name := "CreateAdminModuleTables1788856000000"
  up := [
    .createTable Admin.admin_user,
    .createTable Admin.authorization_rule,
    .createTable Admin.authorization_rule_history]
  down := [
    .dropTable "authorization_rule_history",
    .dropTable "authorization_rule",
    .dropTable "admin_user"]

/-! ## The auth module -/

def AddRegistrationSagaColumns1789030000000 : Migration where
  name := "AddRegistrationSagaColumns1789030000000"
  up := [
    .addColumn "registration_attempt" (optional "keycloak_user_id" (.varchar 36)),
    .addColumn "registration_attempt" (optional "device_profile_id" (.varchar 36))]
  down := [
    .dropColumn "registration_attempt" "device_profile_id",
    .dropColumn "registration_attempt" "keycloak_user_id"]

/-! ## Running them -/

/-- In the order of their timestamps. -/
def migrations : List Migration := [
  InitialBillPayment1788780440681,
  AddConsumerAndBillNumber1788784048534,
  UpdateBillPaymentAmount1788844566220,
  AddIdempotencyKey1788849842117,
  AddKeycloakUserIdToBbps1788851200000,
  AddScheduleStatusAndExecution1788852000000,
  CreateAdminModuleTables1788856000000,
  AddRegistrationSagaColumns1789030000000]

/-- The database, and the table of the migrations that have been executed. -/
structure State (collate : String → String) where
  db : Database collate
  executed : List String

/-- `migration:run`, and whether it succeeds. The migrations that have not been executed are, one
after the other, until one fails. MySQL commits before every change of the schema, so the executor
has nothing left to roll back. -/
def executePendingMigrations {collate : String → String} :
    List Migration → State collate → State collate × Bool
  | [], s => (s, true)
  | m :: ms, s =>
      if m.name ∈ s.executed then executePendingMigrations ms s
      else
        match runScript m.up s.db with
        | (db, true) => executePendingMigrations ms ⟨db, s.executed ++ [m.name]⟩
        | (db, false) => (⟨db, s.executed⟩, false)

end Migrations
end IdentityBillpay
