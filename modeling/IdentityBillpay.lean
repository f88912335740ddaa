import IdentityBillpay.Bbps.Charging
import IdentityBillpay.Bbps.Fetching
import IdentityBillpay.Bbps.Finality
import IdentityBillpay.Bbps.Replay
import IdentityBillpay.Bbps.Retrying
import IdentityBillpay.Async.Hoare
import IdentityBillpay.Auth.BruteForce
import IdentityBillpay.Auth.Counting
import IdentityBillpay.Auth.Forward
import IdentityBillpay.Auth.Devices
import IdentityBillpay.Auth.Possession
import IdentityBillpay.Auth.Provisioning
import IdentityBillpay.Auth.Recovery
import IdentityBillpay.Auth.Compensation
import IdentityBillpay.Auth.Accounts
import IdentityBillpay.Auth.Completion
import IdentityBillpay.Admin.Entities
import IdentityBillpay.Async.Serial
import IdentityBillpay.Sql.Versions
import IdentityBillpay.Admin.Store
import IdentityBillpay.Admin.AuthorizationRulesService
import IdentityBillpay.Admin.Endings
import IdentityBillpay.Admin.RuleLog
import IdentityBillpay.Admin.RuleUpdates
import IdentityBillpay.Scheduling.Entities
import IdentityBillpay.Scheduling.Store
import IdentityBillpay.Scheduling.BillScheduleService
import IdentityBillpay.Scheduling.LifeCycle
import IdentityBillpay.Async.Straight
import IdentityBillpay.Rbac.Entities
import IdentityBillpay.Keycloak.Calls
import IdentityBillpay.Rbac.Store
import IdentityBillpay.Rbac.EmployeesService
import IdentityBillpay.Rbac.Steps
import IdentityBillpay.Rbac.RoleChanges
import IdentityBillpay.Rbac.Creations
import IdentityBillpay.Rbac.Agreement
import IdentityBillpay.Rbac.FailedUpdate
import IdentityBillpay.Rbac.RoleEdits
import IdentityBillpay.Rbac.Mirror
import IdentityBillpay.Rbac.UpdateProtocol
import IdentityBillpay.Rbac.Segregation
import IdentityBillpay.Rbac.Escalation
import IdentityBillpay.Async.Rounds
import IdentityBillpay.Rbac.PortalStaff
import IdentityBillpay.Rbac.Contents
import IdentityBillpay.Rbac.Smooth
import IdentityBillpay.Admin.ReportingService
import IdentityBillpay.Admin.Reconciliation
import IdentityBillpay.Common.Guards
import IdentityBillpay.Rbac.RoleDecisions
import IdentityBillpay.Rbac.PermissionSets
import IdentityBillpay.Rbac.PartialUpdate
import IdentityBillpay.Async.Replacement
import IdentityBillpay.Rbac.Replacements
import IdentityBillpay.Credentials.CredentialService
import IdentityBillpay.Credentials.SingleMpin
import IdentityBillpay.Async.TwoRuns
import IdentityBillpay.Common.ClassValidator
import IdentityBillpay.Credentials.CredentialController
import IdentityBillpay.Credentials.Ownership
import IdentityBillpay.Outbox.AuditOutboxRelayJob
import IdentityBillpay.Outbox.LifeCycle
import IdentityBillpay.Outbox.Overlap
import IdentityBillpay.Bbps.Effects
import IdentityBillpay.Bbps.OwnPayments
import IdentityBillpay.Scheduling.OwnSchedules
import IdentityBillpay.Scheduling.Privacy
import IdentityBillpay.Credentials.Verification
import IdentityBillpay.Credentials.Strength
import IdentityBillpay.Async.Lift
import IdentityBillpay.Bbps.PaymentBody
import IdentityBillpay.Common.Masking
import IdentityBillpay.Common.LogPrivacy
import IdentityBillpay.Js.Patterns
import IdentityBillpay.Rbac.Spelling
import IdentityBillpay.Admin.RuleHistory
import IdentityBillpay.Auth.FailurePath
import IdentityBillpay.Admin.DailyReport
import IdentityBillpay.Async.Reading
import IdentityBillpay.Rbac.UsersAccessService
import IdentityBillpay.Rbac.AccessLookup
import IdentityBillpay.Rbac.AccessShown
import IdentityBillpay.Common.NormalizeBearer
import IdentityBillpay.Rbac.RoleRanks
import IdentityBillpay.Admin.ReportExport
import IdentityBillpay.Bbps.Seeding
import IdentityBillpay.Rbac.Creatable
import IdentityBillpay.Rbac.Repeated
import IdentityBillpay.Js.JsonText
import IdentityBillpay.Js.JsonRoundTrip
import IdentityBillpay.Common.Checksum
import IdentityBillpay.Common.KeycloakAuthGuard
import IdentityBillpay.Outbox.Posts
import IdentityBillpay.Sql.Schema
import IdentityBillpay.Sql.Scripts
import IdentityBillpay.Sql.Alterations
import IdentityBillpay.Migrations.Scripts
import IdentityBillpay.Migrations.Undoing
import IdentityBillpay.Migrations.Sequence
import IdentityBillpay.Migrations.Consumers
import IdentityBillpay.Migrations.Payments
