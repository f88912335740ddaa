import IdentityBillpay.Async.Program
import IdentityBillpay.Credentials.Entities

/-!
# Store — the table of credentials

* `Op`, `backend` — repository calls, calls to Keycloak, `randomBytes` and `new Date()`;
* `findCredential_some`, `insertCredential_ok`, … — what each answered call tells.
-/

namespace IdentityBillpay
namespace Credentials

open Async Js Keycloak
open Sql (commit commit_ok commit_error)

/-- Rows are unique by their id alone. -/
structure Store where
  credentials : Sql.Table Credential.id Credential.id

/-- What a program of the module can await. `save` of an entity without an id is an `insert`, and
`find` calls see no row with a `deletedAt`. -/
inductive Op
  | findCredentials
  | findCredential (keycloakUserId : String)
  | insertCredential (new : NewCredential)
  | saveCredential (record : Credential)
  | softDeleteCredential (id : String)
  | randomBytes (size : Nat)
  | now
  | postAdminToken
  | putPassword (userId : String) (value : Json)

abbrev Op.Res : Op → Type
  | .findCredentials => List Credential
  | .findCredential _ => Option Credential
  | .insertCredential _ | .saveCredential _ => Credential
  | .randomBytes _ => List UInt8
  | .now => Date
  | _ => Unit

abbrev sig : Signature := ⟨Op, Op.Res⟩

abbrev Prog (α : Type) := Program sig HttpError α

abbrev Own := List (Awaited sig HttpError)

/-- `await` of one operation. -/
abbrev call (op : Op) : Prog op.Res := @Program.call sig HttpError op

/-- What the environment decides about one operation: whether the database or Keycloak fails and with
which message, which row is found, the id of a new row, the time, and random bytes. -/
structure Choice where
  fails : Bool
  message : String
  pick : Nat
  freshId : String
  now : Date
  random : Nat → UInt8

/-! ## Performing an operation -/

/-- The row is the user's, and not deleted. -/
def Credential.isLiveOf (userId : String) (record : Credential) : Bool :=
  record.keycloakUserId == userId && record.isLive

def insertCredential? (s : Store) (new : NewCredential) (ch : Choice) :
    Option (Credential × Store) := do
  let record ← new.row? ch.freshId ch.now
  let t ← s.credentials.insert? record
  return (record, { s with credentials := t })

/-- The whole row is written, `deletedAt` included. -/
def saveCredential? (s : Store) (record : Credential) (ch : Choice) : Option (Credential × Store) :=
  let saved := { record with updatedAt := ch.now }
  if saved.fits then
    (s.credentials.save? saved).map fun t => (saved, { s with credentials := t })
  else none

/-- The row as a soft deletion leaves it. -/
def Credential.deleted (now : Date) (record : Credential) : Credential :=
  { record with deletedAt := some now, updatedAt := now }

def softDelete (s : Store) (id : String) (now : Date) : Store :=
  { s with
    credentials := s.credentials.modify (fun r => r.id == id) (Credential.deleted now)
      (fun _ => rfl) fun _ => rfl }

/-- A call to the database, which may fail. -/
abbrev query {α : Type} (ch : Choice) (s : Store) (accepted : Option (α × Store)) :
    Except HttpError α × Store :=
  commit ch.fails (.queryFailed ch.message) s accepted

/-- A call to Keycloak, which keeps what it is sent for itself. -/
def request (ch : Choice) (s : Store) : Except HttpError Unit × Store :=
  if ch.fails then (.error (.httpFailed ch.message), s) else (.ok (), s)

def perform (op : Op) (ch : Choice) (s : Store) : Except HttpError op.Res × Store :=
  match op with
  | .findCredentials => query ch s (some (s.credentials.find Credential.isLive, s))
  | .findCredential userId =>
      query ch s (some (s.credentials.findOne (Credential.isLiveOf userId) ch.pick, s))
  | .insertCredential new => query ch s (insertCredential? s new ch)
  | .saveCredential record => query ch s (saveCredential? s record ch)
  | .softDeleteCredential id => query ch s (some ((), softDelete s id ch.now))
  | .randomBytes size => (.ok ((List.range size).map ch.random), s)
  | .now => (.ok ch.now, s)
  | .postAdminToken | .putPassword _ _ => request ch s

abbrev backend : Backend sig HttpError := ⟨Store, Choice, perform⟩

/-! ## Lemmas -/

section Lemmas

variable {ch : Choice} {s s' : Store}

theorem query_ok {α : Type} {accepted : Option (α × Store)} {a : α}
    (h : query ch s accepted = (.ok a, s')) : accepted = some (a, s') :=
  commit_ok h

/-- The operations that change no row. -/
def Op.isRead : Op → Bool
  | .insertCredential _ | .saveCredential _ | .softDeleteCredential _ => false
  | _ => true

theorem perform_read {op : Op} (hop : op.isRead = true) (ch : Choice) (s : Store) :
    (perform op ch s).2 = s := by
  have hrequest : (request ch s).2 = s := by
    unfold request
    split
    · rfl
    · rfl
  have hquery : ∀ {α : Type} (a : α), (query ch s (some (a, s))).2 = s := by
    intro α a
    cases hresult : query ch s (some (a, s)) with
    | mk res s' =>
        cases res with
        | ok b =>
            cases query_ok hresult
            rfl
        | error e => exact (commit_error hresult).2
  cases op with
  | findCredentials => exact hquery _
  | findCredential userId => exact hquery _
  | randomBytes size => rfl
  | now => rfl
  | postAdminToken => exact hrequest
  | putPassword userId value => exact hrequest
  | _ => cases hop

/-- A call that fails changes nothing. -/
theorem perform_error {op : Op} {e : HttpError} (h : perform op ch s = (.error e, s')) :
    s' = s := by
  cases hread : op.isRead with
  | true => exact (congrArg Prod.snd h).symm.trans (perform_read hread ch s)
  | false =>
      cases op with
      | insertCredential new => exact (commit_error h).2
      | saveCredential record => exact (commit_error h).2
      | softDeleteCredential id =>
          exact (@commit_error Store HttpError Unit _ _ _ s s' (some ((), softDelete s id ch.now)) h).2
      | _ => cases hread

theorem findCredential_some {userId : String} {record : Credential}
    (h : perform (.findCredential userId) ch s = (.ok (some record), s')) :
    record ∈ s.credentials ∧ record.keycloakUserId = userId ∧ record.isLive = true := by
  have hfound : s.credentials.findOne (Credential.isLiveOf userId) ch.pick = some record :=
    (Prod.mk.inj (Option.some.inj (query_ok h))).1
  have hmem := Sql.Table.findOne_some hfound
  simpa [Credential.isLiveOf] using hmem

theorem insertCredential_ok {new : NewCredential} {record : Credential}
    (h : perform (.insertCredential new) ch s = (.ok record, s')) :
    record.keycloakUserId = new.keycloakUserId ∧ record.hashedMpin = new.hashedMpin ∧
      (∀ r ∈ s.credentials, r.id ≠ record.id) ∧
      ∀ r, r ∈ s'.credentials ↔ r ∈ s.credentials ∨ r = record := by
  rcases Option.bind_eq_some_iff.1 (query_ok h) with ⟨row, hrow, hrest⟩
  rcases Option.bind_eq_some_iff.1 hrest with ⟨t, ht, hdone⟩
  cases hdone
  unfold NewCredential.row? at hrow
  dsimp only at hrow
  split at hrow
  · cases hrow
    exact ⟨rfl, rfl, fun r hr => (Sql.Table.insert?_fresh ht hr).1,
      fun r => Sql.Table.mem_insert? ht⟩
  · cases hrow

theorem saveCredential_ok {record saved : Credential}
    (h : perform (.saveCredential record) ch s = (.ok saved, s')) :
    saved = { record with updatedAt := ch.now } ∧
      ∀ r, r ∈ s'.credentials ↔ r = saved ∨ (r ∈ s.credentials ∧ r.id ≠ saved.id) := by
  have hsome := query_ok (a := saved) h
  unfold saveCredential? at hsome
  dsimp only at hsome
  split at hsome
  · rcases Option.map_eq_some_iff.1 hsome with ⟨t, ht, hdone⟩
    cases hdone
    exact ⟨rfl, fun r => Sql.Table.mem_save? ht⟩
  · cases hsome

theorem softDeleteCredential_ok {id : String} {u : Unit}
    (h : perform (.softDeleteCredential id) ch s = (.ok u, s')) : s' = softDelete s id ch.now :=
  (Prod.mk.inj (Option.some.inj (query_ok (a := u) h))).2.symm

theorem mem_softDelete {id : String} {now : Date} {r : Credential} :
    r ∈ (softDelete s id now).credentials ↔ ∃ old ∈ s.credentials,
      r = if old.id == id then old.deleted now else old :=
  @Sql.Table.mem_modify _ _ _ _ _ _ _ (Credential.deleted now) (fun _ => rfl) (fun _ => rfl) r

end Lemmas

end Credentials
end IdentityBillpay
