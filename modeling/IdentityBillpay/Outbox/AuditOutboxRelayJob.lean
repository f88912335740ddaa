import IdentityBillpay.Async.Interleaving
import IdentityBillpay.Outbox.Store

/-!
# AuditOutboxRelayJob — the job of `audit-outbox-relay.job.ts`

* `handle` — one tick of the job: every pending row is relayed, and the outcome is stored;
* `service` — ticks, which may overlap.
-/

namespace IdentityBillpay
namespace Outbox

open Async Async.Program Keycloak

def MAX_RELAY_ATTEMPTS : Nat := 5

/-- The row as it is saved after a failed attempt. -/
def failedAttempt (row : AuditOutbox) : AuditOutbox :=
  let attempts := row.attempts + 1
  let status := if attempts ≥ MAX_RELAY_ATTEMPTS then .FAILED else .PENDING
  { row with attempts := attempts, status := status }

namespace AuditOutboxRelayJob

/-- The body of the loop. A failing save of `SENT` is caught like a failing relay. -/
def relayRow (row : AuditOutbox) : Prog Unit :=
  try do
    call (.relay row.id row.eventType row.payload)
    call (.save { row with status := .SENT })
  catch _ =>
    call (.save (failedAttempt row))

/-- `for (const row of pending)`. -/
def relayAll : List AuditOutbox → Prog Unit
  | [] => return ()
  | row :: rows => do
      relayRow row
      relayAll rows

def handle : Prog Unit := do
  let pending : List AuditOutbox ← call .findPending
  if pending.length = 0 then return () else relayAll pending

/-- With nothing pending the loop has nothing to do. -/
theorem handle_eq : AuditOutboxRelayJob.handle = (call .findPending >>= fun pending => relayAll pending) := by
  refine congrArg (call .findPending >>= ·) (funext fun pending => ?_)
  cases pending with
  | nil => rfl
  | cons row rows => rfl

end AuditOutboxRelayJob

/-- One tick a request. -/
abbrev service : Service sig HttpError where
  toBackend := backend
  Request := Unit
  Reply := Unit
  program _ := AuditOutboxRelayJob.handle

end Outbox
end IdentityBillpay
