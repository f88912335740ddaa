import IdentityBillpay.Bbps.Entities

/-!
# Access — who may see and use a payment

The checks of `bbps-access.util.ts` over the roles that `rbac.constants.ts` reads from a token.
-/

namespace IdentityBillpay
namespace Bbps

def BBPS_PAYMENT_BANK_READ_ROLES : List String :=
  ["BANK_SUPER_ADMIN", "BANK_ADMIN"]

def extractRealmRoles (user : Actor) : List String :=
  match user.realmAccessRoles with
  | some (role :: roles) => role :: roles
  | _ => user.roles.getD []

def hasAnyRealmRole (user : Actor) (allowed : List String) : Bool :=
  (extractRealmRoles user).any fun role => allowed.contains role

def requireActorSub (actor : Actor) : Except ServiceError String :=
  match actor.sub with
  | some sub =>
      if sub = "" then .error (.unauthorized "Keycloak access token is required") else .ok sub
  | none => .error (.unauthorized "Keycloak access token is required")

def canViewAllBillPayments (actor : Actor) : Bool :=
  hasAnyRealmRole actor BBPS_PAYMENT_BANK_READ_ROLES

def paymentNotFound : ServiceError :=
  .notFound "PAYMENT_NOT_FOUND" "Bill payment not found"

def assertPaymentOwnedByActor (payment : BillPayment) (actor : Actor) : Except ServiceError Unit :=
  if canViewAllBillPayments actor then .ok ()
  else
    match requireActorSub actor with
    | .error e => .error e
    | .ok sub =>
        -- The same answer as for a payment that is not there.
        if !truthy payment.keycloakUserId || payment.keycloakUserId != some sub then
          .error paymentNotFound
        else .ok ()

def assertIdempotentPaymentOwnedByActor (payment : BillPayment) (actor : Actor) :
    Except ServiceError Unit :=
  if !truthy payment.keycloakUserId then .ok ()
  else
    match requireActorSub actor with
    | .error e => .error e
    | .ok sub => if payment.keycloakUserId != some sub then .error paymentNotFound else .ok ()

theorem requireActorSub_ok {actor : Actor} {sub : String} :
    requireActorSub actor = .ok sub ↔ actor.sub = some sub ∧ sub ≠ "" := by
  unfold requireActorSub
  cases hsub : actor.sub with
  | none => simp
  | some s =>
      by_cases hs : s = ""
      · simp only [hs, if_true, reduceCtorEq, Option.some.injEq, false_iff, not_and, not_not]
        exact fun h => h.symm
      · simp only [hs, if_false, Except.ok.injEq, Option.some.injEq]
        constructor
        · intro h
          exact ⟨h, h ▸ hs⟩
        · exact And.left

/-- The sub a payment was created under passes the check of the idempotency lookup. -/
theorem assertIdempotent_owner {payment : BillPayment} {actor : Actor} {sub : String}
    (hactor : requireActorSub actor = .ok sub) (hpayment : payment.keycloakUserId = some sub) :
    assertIdempotentPaymentOwnedByActor payment actor = .ok () := by
  have hne := (requireActorSub_ok.1 hactor).2
  simp [assertIdempotentPaymentOwnedByActor, hactor, hpayment, truthy, hne]

end Bbps
end IdentityBillpay
