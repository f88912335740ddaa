import IdentityBillpay.Async.Program
import IdentityBillpay.Auth.Entities

/-!
# Store — the database, the clock and Keycloak as the auth module sees them

* `Store` — the tables of the module, the realm, and the current time;
* `Op`, `backend` — repository calls, calls to Keycloak, `Date.now()` and `randomInt`;
* `perform_attempts_cases`, `perform_challenges_cases`, `perform_devices_cases` — all that one
  operation can do to a table of the module.
-/

namespace IdentityBillpay
namespace Auth

open Async Js Keycloak

/-- Rows are unique by their id alone. -/
structure Store where
  attempts : Sql.Table RegistrationAttempt.id RegistrationAttempt.id
  challenges : Sql.Table OtpChallenge.id OtpChallenge.id
  devices : Sql.Table DeviceProfile.id DeviceProfile.id
  credentials : Sql.Table Credential.id Credential.id
  realm : Realm
  clock : Date

/-- What a program of the module can await. `save` of an entity without an id is an `insert`, and
`find` calls see no row with a `deletedAt`. -/
inductive Op
  | findAttempt (id : String)
  | findAttempts
  | insertAttempt (attempt : NewAttempt)
  | saveAttempt (attempt : RegistrationAttempt)
  | softDeleteAttempt (id : String)
  | findChallenge (id : String)
  | findChallenges
  | insertChallenge (challenge : NewChallenge)
  | saveChallenge (challenge : OtpChallenge)
  | softDeleteChallenge (id : String)
  | findDevice (id : String)
  | insertDevice (device : NewDevice)
  | softDeleteDevice (id : String)
  | findCredential (keycloakUserId : String)
  | softDeleteCredential (id : String)
  | now
  | randomInt (min max : Nat)
  | keycloak (op : KeycloakOp)
  deriving DecidableEq

abbrev Op.Res : Op → Type
  | .findAttempt _ => Option RegistrationAttempt
  | .findAttempts => List RegistrationAttempt
  | .insertAttempt _ => String
  | .findChallenge _ => Option OtpChallenge
  | .findChallenges => List OtpChallenge
  | .insertChallenge _ => String
  | .findDevice _ => Option DeviceProfile
  | .insertDevice _ => String
  | .findCredential _ => Option Credential
  | .now => Date
  | .randomInt _ _ => Nat
  | .keycloak op => op.Res
  | _ => Unit

instance : (op : Op) → DecidableEq op.Res
  | .findAttempt _ => inferInstanceAs (DecidableEq (Option RegistrationAttempt))
  | .findAttempts => inferInstanceAs (DecidableEq (List RegistrationAttempt))
  | .findChallenge _ => inferInstanceAs (DecidableEq (Option OtpChallenge))
  | .findChallenges => inferInstanceAs (DecidableEq (List OtpChallenge))
  | .findDevice _ => inferInstanceAs (DecidableEq (Option DeviceProfile))
  | .findCredential _ => inferInstanceAs (DecidableEq (Option Credential))
  | .insertAttempt _ | .insertChallenge _ | .insertDevice _ =>
      inferInstanceAs (DecidableEq String)
  | .now | .randomInt _ _ => inferInstanceAs (DecidableEq Nat)
  | .keycloak op => inferInstanceAs (DecidableEq op.Res)
  | .saveAttempt _ | .softDeleteAttempt _ | .saveChallenge _ | .softDeleteChallenge _ =>
      inferInstanceAs (DecidableEq Unit)
  | .softDeleteDevice _ | .softDeleteCredential _ => inferInstanceAs (DecidableEq Unit)

abbrev sig : Signature := ⟨Op, Op.Res⟩

abbrev Prog (α : Type) := Program sig HttpError α

abbrev Own := List (Awaited sig HttpError)

/-- `await` of one operation. -/
abbrev call (op : Op) : Prog op.Res := @Program.call sig HttpError op

/-- `await` of one call to Keycloak. -/
abbrev http (op : KeycloakOp) : Prog op.Res := call (.keycloak op)

/-- What the environment decides about one operation: which row is found, how much time has passed,
which number is drawn, and what decides a call to Keycloak. A write to the database fails, takes its
id and reports its message by the same fields. -/
structure Choice extends Keycloak.Choice where
  pick : Nat
  elapsed : Nat
  random : Nat

/-! ## Columns -/

def NewAttempt.fits (new : NewAttempt) : Bool :=
  new.mobileNumber.length ≤ 255 && new.panOrCif.length ≤ 255

/-- The values that a `save` can change fit their `VARCHAR` columns. -/
def RegistrationAttempt.fits (a : RegistrationAttempt) : Bool :=
  (a.failureReason.getD "").length ≤ 500 && (a.keycloakUserId.getD "").length ≤ 36 &&
    (a.deviceProfileId.getD "").length ≤ 36

def NewChallenge.fits (new : NewChallenge) : Bool :=
  new.mobileNumber.length ≤ 255

def NewDevice.fits (new : NewDevice) : Bool :=
  new.userId.length ≤ 255 && new.deviceId.length ≤ 255 && (new.deviceModel.getD "").length ≤ 255

/-! ## Performing an operation -/

/-- A write to the database: done when the table accepts it and the database does not fail. -/
def write {α : Type} (ch : Choice) (s : Store) (accepted : Option Store) (result : α) :
    Except HttpError α × Store :=
  match accepted with
  | some s' => if ch.fails then (.error (.queryFailed ch.message), s) else (.ok result, s')
  | none => (.error (.queryFailed ch.message), s)

def insertAttempt? (s : Store) (new : NewAttempt) (id : String) : Option Store :=
  if new.fits then (s.attempts.insert? (new.row id)).map fun t => { s with attempts := t } else none

def saveAttempt? (s : Store) (a : RegistrationAttempt) : Option Store :=
  if a.fits then (s.attempts.save? a).map fun t => { s with attempts := t } else none

def insertChallenge? (s : Store) (new : NewChallenge) (id : String) : Option Store :=
  if new.fits then
    (s.challenges.insert? (new.row id)).map fun t => { s with challenges := t }
  else none

def saveChallenge? (s : Store) (c : OtpChallenge) : Option Store :=
  (s.challenges.save? c).map fun t => { s with challenges := t }

def insertDevice? (s : Store) (new : NewDevice) (id : String) : Option Store :=
  if new.fits then (s.devices.insert? (new.row id)).map fun t => { s with devices := t } else none

def softDeleteAttempt (s : Store) (id : String) : Store :=
  { s with
    attempts := s.attempts.modify (fun a => a.id == id)
      (fun a => { a with deletedAt := some s.clock }) (fun _ => rfl) (fun _ => rfl) }

def softDeleteChallenge (s : Store) (id : String) : Store :=
  { s with
    challenges := s.challenges.modify (fun c => c.id == id)
      (fun c => { c with deletedAt := some s.clock }) (fun _ => rfl) (fun _ => rfl) }

def softDeleteDevice (s : Store) (id : String) : Store :=
  { s with
    devices := s.devices.modify (fun d => d.id == id)
      (fun d => { d with deletedAt := some s.clock }) (fun _ => rfl) (fun _ => rfl) }

def softDeleteCredential (s : Store) (id : String) : Store :=
  { s with
    credentials := s.credentials.modify (fun c => c.id == id)
      (fun c => { c with deletedAt := some s.clock }) (fun _ => rfl) (fun _ => rfl) }

def perform (op : Op) (ch : Choice) (s : Store) : Except HttpError op.Res × Store :=
  match op with
  | .findAttempt id =>
      (.ok (s.attempts.findOne (fun a => a.id == id && a.deletedAt.isNone) ch.pick), s)
  | .findAttempts => (.ok (s.attempts.find fun a => a.deletedAt.isNone), s)
  | .insertAttempt new => write ch s (insertAttempt? s new ch.freshId) ch.freshId
  | .saveAttempt a => write ch s (saveAttempt? s a) ()
  | .softDeleteAttempt id => write ch s (some (softDeleteAttempt s id)) ()
  | .findChallenge id =>
      (.ok (s.challenges.findOne (fun c => c.id == id && c.deletedAt.isNone) ch.pick), s)
  | .findChallenges => (.ok (s.challenges.find fun c => c.deletedAt.isNone), s)
  | .insertChallenge new => write ch s (insertChallenge? s new ch.freshId) ch.freshId
  | .saveChallenge c => write ch s (saveChallenge? s c) ()
  | .softDeleteChallenge id => write ch s (some (softDeleteChallenge s id)) ()
  | .findDevice id =>
      (.ok (s.devices.findOne (fun d => d.id == id && d.deletedAt.isNone) ch.pick), s)
  | .insertDevice new => write ch s (insertDevice? s new ch.freshId) ch.freshId
  | .softDeleteDevice id => write ch s (some (softDeleteDevice s id)) ()
  | .findCredential userId =>
      (.ok (s.credentials.findOne
        (fun c => c.keycloakUserId == userId && c.deletedAt.isNone) ch.pick), s)
  | .softDeleteCredential id => write ch s (some (softDeleteCredential s id)) ()
  -- Time passes only where it is read.
  | .now => (.ok (s.clock + ch.elapsed), { s with clock := s.clock + ch.elapsed })
  | .randomInt min max => (.ok (min + ch.random % (max - min)), s)
  | .keycloak op =>
      let (answer, realm) := s.realm.perform op ch.toChoice
      (answer, { s with realm := realm })

abbrev backend : Backend sig HttpError := ⟨Store, Choice, perform⟩

/-! ## What an operation leaves alone -/

/-- The parts of the store. -/
inductive Part
  | attempts
  | challenges
  | devices
  | credentials
  | realm
  | clock
  deriving DecidableEq

/-- The part an operation may change. -/
def Op.part : Op → Option Part
  | .insertAttempt _ | .saveAttempt _ | .softDeleteAttempt _ => some .attempts
  | .insertChallenge _ | .saveChallenge _ | .softDeleteChallenge _ => some .challenges
  | .insertDevice _ | .softDeleteDevice _ => some .devices
  | .softDeleteCredential _ => some .credentials
  | .keycloak _ => some .realm
  | .now => some .clock
  | _ => none

/-- `s` with one part taken from `s'`. -/
def Store.withPart (s s' : Store) : Option Part → Store
  | some .attempts => { s with attempts := s'.attempts }
  | some .challenges => { s with challenges := s'.challenges }
  | some .devices => { s with devices := s'.devices }
  | some .credentials => { s with credentials := s'.credentials }
  | some .realm => { s with realm := s'.realm }
  | some .clock => { s with clock := s'.clock }
  | none => s

theorem write_cases {α : Type} (ch : Choice) (s : Store) (accepted : Option Store) (result : α) :
    write ch s accepted result = (.error (.queryFailed ch.message), s) ∨
      ∃ s', accepted = some s' ∧ ch.fails = false ∧
        write ch s accepted result = (.ok result, s') := by
  cases accepted with
  | none => exact .inl rfl
  | some s' =>
      cases hfails : ch.fails with
      | true => simp [write, hfails]
      | false => simp [write, hfails]

theorem write_part {α : Type} {ch : Choice} {s : Store} {accepted : Option Store} {result : α}
    {part : Option Part} (h : ∀ s', accepted = some s' → s' = s.withPart s' part) :
    (write ch s accepted result).2 = s.withPart (write ch s accepted result).2 part := by
  rcases write_cases ch s accepted result with hw | ⟨s', hs', _, hw⟩
  · rw [hw]
    cases part with
    | none => rfl
    | some part => cases part <;> rfl
  · rw [hw]
    exact h s' hs'

/-- An operation changes its own part of the store and nothing else. -/
theorem perform_part (op : Op) (ch : Choice) (s : Store) :
    (perform op ch s).2 = s.withPart (perform op ch s).2 op.part := by
  -- Every write puts one table in place of the old one.
  cases op with
  | insertAttempt new =>
      refine write_part fun s' hs' => ?_
      unfold insertAttempt? at hs'
      split at hs'
      · rcases Option.map_eq_some_iff.1 hs' with ⟨t, _, rfl⟩
        rfl
      · cases hs'
  | saveAttempt a =>
      refine write_part fun s' hs' => ?_
      unfold saveAttempt? at hs'
      split at hs'
      · rcases Option.map_eq_some_iff.1 hs' with ⟨t, _, rfl⟩
        rfl
      · cases hs'
  | insertChallenge new =>
      refine write_part fun s' hs' => ?_
      unfold insertChallenge? at hs'
      split at hs'
      · rcases Option.map_eq_some_iff.1 hs' with ⟨t, _, rfl⟩
        rfl
      · cases hs'
  | saveChallenge c =>
      refine write_part fun s' hs' => ?_
      rcases Option.map_eq_some_iff.1 hs' with ⟨t, _, rfl⟩
      rfl
  | insertDevice new =>
      refine write_part fun s' hs' => ?_
      unfold insertDevice? at hs'
      split at hs'
      · rcases Option.map_eq_some_iff.1 hs' with ⟨t, _, rfl⟩
        rfl
      · cases hs'
  | softDeleteAttempt id => exact write_part fun s' hs' => by cases hs'; rfl
  | softDeleteChallenge id => exact write_part fun s' hs' => by cases hs'; rfl
  | softDeleteDevice id => exact write_part fun s' hs' => by cases hs'; rfl
  | softDeleteCredential id => exact write_part fun s' hs' => by cases hs'; rfl
  | _ => rfl

theorem perform_attempts_eq {op : Op} (h : op.part ≠ some .attempts) (ch : Choice) (s : Store) :
    (perform op ch s).2.attempts = s.attempts := by
  rw [perform_part]
  unfold Store.withPart
  split <;> first | rfl | exact absurd ‹_› h

theorem perform_challenges_eq {op : Op} (h : op.part ≠ some .challenges) (ch : Choice)
    (s : Store) : (perform op ch s).2.challenges = s.challenges := by
  rw [perform_part]
  unfold Store.withPart
  split <;> first | rfl | exact absurd ‹_› h

theorem perform_devices_eq {op : Op} (h : op.part ≠ some .devices) (ch : Choice) (s : Store) :
    (perform op ch s).2.devices = s.devices := by
  rw [perform_part]
  unfold Store.withPart
  split <;> first | rfl | exact absurd ‹_› h

theorem perform_realm_eq {op : Op} (h : op.part ≠ some .realm) (ch : Choice) (s : Store) :
    (perform op ch s).2.realm = s.realm := by
  rw [perform_part]
  unfold Store.withPart
  split <;> first | rfl | exact absurd ‹_› h

/-! ## What a read tells -/

theorem findAttempt_some {id : String} {ch : Choice} {s : Store} {a : RegistrationAttempt}
    (h : Except.ok (some a) = (perform (.findAttempt id) ch s).1) :
    a ∈ s.attempts ∧ a.id = id ∧ a.deletedAt = none := by
  have hfound : s.attempts.findOne (fun a => a.id == id && a.deletedAt.isNone) ch.pick = some a :=
    (Except.ok.inj h).symm
  simpa using Sql.Table.findOne_some hfound

theorem findChallenge_some {id : String} {ch : Choice} {s : Store} {c : OtpChallenge}
    (h : Except.ok (some c) = (perform (.findChallenge id) ch s).1) :
    c ∈ s.challenges ∧ c.id = id ∧ c.deletedAt = none := by
  have hfound : s.challenges.findOne (fun c => c.id == id && c.deletedAt.isNone) ch.pick = some c :=
    (Except.ok.inj h).symm
  simpa using Sql.Table.findOne_some hfound

/-- Whatever fails, fails with an error of the database or of the HTTP client. -/
theorem perform_error {op : Op} {ch : Choice} {s : Store} {e : HttpError}
    (h : (perform op ch s).1 = .error e) : e.fromOutside = true := by
  have hwrite : ∀ {α : Type} {accepted : Option Store} {result : α},
      (write ch s accepted result).1 = .error e → e.fromOutside = true := by
    intro α accepted result hw
    rcases write_cases ch s accepted result with h | ⟨s', _, _, h⟩
    · rw [h] at hw
      cases hw
      rfl
    · rw [h] at hw
      cases hw
  cases op with
  | insertAttempt new => exact hwrite h
  | saveAttempt a => exact hwrite h
  | softDeleteAttempt id => exact hwrite h
  | insertChallenge new => exact hwrite h
  | saveChallenge c => exact hwrite h
  | softDeleteChallenge id => exact hwrite h
  | insertDevice new => exact hwrite h
  | softDeleteDevice id => exact hwrite h
  | softDeleteCredential id => exact hwrite h
  | keycloak op => exact Realm.perform_error h
  | _ => cases h

/-! ## What a write does to its table -/

theorem perform_insertAttempt (new : NewAttempt) (ch : Choice) (s : Store) :
    (∃ e, perform (.insertAttempt new) ch s = (.error e, s)) ∨
      ∃ t, perform (.insertAttempt new) ch s = (.ok ch.freshId, { s with attempts := t }) ∧
        (∀ a ∈ s.attempts, a.id ≠ ch.freshId) ∧
        ∀ x, x ∈ t ↔ x ∈ s.attempts ∨ x = new.row ch.freshId := by
  rcases write_cases ch s (insertAttempt? s new ch.freshId) ch.freshId with h | ⟨s', hs', _, h⟩
  · exact .inl ⟨_, h⟩
  · right
    unfold insertAttempt? at hs'
    split at hs'
    · rcases Option.map_eq_some_iff.1 hs' with ⟨t, ht, rfl⟩
      refine ⟨t, h, ?_, fun x => Sql.Table.mem_insert? ht⟩
      intro a ha
      exact (Sql.Table.insert?_fresh ht ha).1
    · cases hs'

theorem perform_saveAttempt (a : RegistrationAttempt) (ch : Choice) (s : Store) :
    (∃ e, perform (.saveAttempt a) ch s = (.error e, s)) ∨
      ∃ t, perform (.saveAttempt a) ch s = (.ok (), { s with attempts := t }) ∧
        a.fits = true ∧ ∀ x, x ∈ t ↔ x = a ∨ (x ∈ s.attempts ∧ x.id ≠ a.id) := by
  rcases write_cases ch s (saveAttempt? s a) () with h | ⟨s', hs', _, h⟩
  · exact .inl ⟨_, h⟩
  · right
    unfold saveAttempt? at hs'
    split at hs'
    · rename_i hfits
      rcases Option.map_eq_some_iff.1 hs' with ⟨t, ht, rfl⟩
      exact ⟨t, h, hfits, fun x => Sql.Table.mem_save? ht⟩
    · cases hs'

theorem mem_softDeleteAttempt {s : Store} {id : String} {x : RegistrationAttempt} :
    x ∈ (softDeleteAttempt s id).attempts ↔
      ∃ a ∈ s.attempts, x = if a.id == id then { a with deletedAt := some s.clock } else a := by
  rw [softDeleteAttempt, Sql.Table.mem_modify]

theorem perform_insertChallenge (new : NewChallenge) (ch : Choice) (s : Store) :
    (∃ e, perform (.insertChallenge new) ch s = (.error e, s)) ∨
      ∃ t, perform (.insertChallenge new) ch s = (.ok ch.freshId, { s with challenges := t }) ∧
        (∀ c ∈ s.challenges, c.id ≠ ch.freshId) ∧
        ∀ x, x ∈ t ↔ x ∈ s.challenges ∨ x = new.row ch.freshId := by
  rcases write_cases ch s (insertChallenge? s new ch.freshId) ch.freshId with h | ⟨s', hs', _, h⟩
  · exact .inl ⟨_, h⟩
  · right
    unfold insertChallenge? at hs'
    split at hs'
    · rcases Option.map_eq_some_iff.1 hs' with ⟨t, ht, rfl⟩
      refine ⟨t, h, ?_, fun x => Sql.Table.mem_insert? ht⟩
      intro c hc
      exact (Sql.Table.insert?_fresh ht hc).1
    · cases hs'

theorem perform_saveChallenge (c : OtpChallenge) (ch : Choice) (s : Store) :
    (∃ e, perform (.saveChallenge c) ch s = (.error e, s)) ∨
      ∃ t, perform (.saveChallenge c) ch s = (.ok (), { s with challenges := t }) ∧
        ∀ x, x ∈ t ↔ x = c ∨ (x ∈ s.challenges ∧ x.id ≠ c.id) := by
  rcases write_cases ch s (saveChallenge? s c) () with h | ⟨s', hs', _, h⟩
  · exact .inl ⟨_, h⟩
  · right
    rcases Option.map_eq_some_iff.1 hs' with ⟨t, ht, rfl⟩
    exact ⟨t, h, fun x => Sql.Table.mem_save? ht⟩

theorem mem_softDeleteChallenge {s : Store} {id : String} {x : OtpChallenge} :
    x ∈ (softDeleteChallenge s id).challenges ↔
      ∃ c ∈ s.challenges, x = if c.id == id then { c with deletedAt := some s.clock } else c := by
  rw [softDeleteChallenge, Sql.Table.mem_modify]

theorem perform_insertDevice (new : NewDevice) (ch : Choice) (s : Store) :
    (∃ e, perform (.insertDevice new) ch s = (.error e, s)) ∨
      ∃ t, perform (.insertDevice new) ch s = (.ok ch.freshId, { s with devices := t }) ∧
        (∀ d ∈ s.devices, d.id ≠ ch.freshId) ∧
        ∀ x, x ∈ t ↔ x ∈ s.devices ∨ x = new.row ch.freshId := by
  rcases write_cases ch s (insertDevice? s new ch.freshId) ch.freshId with h | ⟨s', hs', _, h⟩
  · exact .inl ⟨_, h⟩
  · right
    unfold insertDevice? at hs'
    split at hs'
    · rcases Option.map_eq_some_iff.1 hs' with ⟨t, ht, rfl⟩
      refine ⟨t, h, ?_, fun x => Sql.Table.mem_insert? ht⟩
      intro d hd
      exact (Sql.Table.insert?_fresh ht hd).1
    · cases hs'

theorem mem_softDeleteDevice {s : Store} {id : String} {x : DeviceProfile} :
    x ∈ (softDeleteDevice s id).devices ↔
      ∃ d ∈ s.devices, x = if d.id == id then { d with deletedAt := some s.clock } else d := by
  rw [softDeleteDevice, Sql.Table.mem_modify]

/-- An operation of the database that fails changes nothing. -/
theorem perform_failed {op : Op} {ch : Choice} {s : Store} {e : HttpError}
    (hop : ∀ call, op ≠ .keycloak call) (h : (perform op ch s).1 = .error e) :
    (perform op ch s).2 = s := by
  have hwrite : ∀ {α : Type} {accepted : Option Store} {result : α},
      (write ch s accepted result).1 = .error e → (write ch s accepted result).2 = s := by
    intro α accepted result hw
    rcases write_cases ch s accepted result with hw' | ⟨s', _, _, hw'⟩
    · rw [hw']
    · rw [hw'] at hw
      cases hw
  cases op with
  | insertAttempt new => exact hwrite h
  | saveAttempt a => exact hwrite h
  | softDeleteAttempt id => exact hwrite h
  | insertChallenge new => exact hwrite h
  | saveChallenge c => exact hwrite h
  | softDeleteChallenge id => exact hwrite h
  | insertDevice new => exact hwrite h
  | softDeleteDevice id => exact hwrite h
  | softDeleteCredential id => exact hwrite h
  | keycloak call => exact absurd rfl (hop call)
  | _ => cases h

/-- A soft delete is done, or it fails and changes nothing. -/
theorem write_softDelete (ch : Choice) (s s' : Store) :
    (∃ e, write ch s (some s') () = (.error e, s)) ∨ write ch s (some s') () = (.ok (), s') := by
  rcases write_cases ch s (some s') () with h | ⟨s'', hs'', _, h⟩
  · exact .inl ⟨_, h⟩
  · cases hs''
    exact .inr h

theorem perform_softDeleteChallenge {id : String} {ch : Choice} {s : Store}
    (h : (perform (.softDeleteChallenge id) ch s).1 = .ok ()) :
    (perform (.softDeleteChallenge id) ch s).2 = softDeleteChallenge s id := by
  rcases write_softDelete ch s (softDeleteChallenge s id) with ⟨e, hw⟩ | hw
  · rw [perform, hw] at h
    cases h
  · rw [perform, hw]

/-- Everything one operation can do to the attempts. -/
theorem perform_attempts_cases (op : Op) (ch : Choice) (s : Store) :
    (perform op ch s).2.attempts = s.attempts ∨
    (∃ new, op = .insertAttempt new ∧ (perform (.insertAttempt new) ch s).1 = .ok ch.freshId ∧
      (∀ a ∈ s.attempts, a.id ≠ ch.freshId) ∧
      ∀ x, x ∈ (perform op ch s).2.attempts ↔ x ∈ s.attempts ∨ x = new.row ch.freshId) ∨
    (∃ a, op = .saveAttempt a ∧ (perform (.saveAttempt a) ch s).1 = .ok () ∧
      ∀ x, x ∈ (perform op ch s).2.attempts ↔ x = a ∨ (x ∈ s.attempts ∧ x.id ≠ a.id)) ∨
    ∃ id, op = .softDeleteAttempt id ∧
      ∀ x, x ∈ (perform op ch s).2.attempts ↔ ∃ a ∈ s.attempts,
        x = if a.id == id then { a with deletedAt := some s.clock } else a := by
  by_cases hpart : op.part = some .attempts
  · cases op with
    | insertAttempt new =>
        rcases perform_insertAttempt new ch s with ⟨e, h⟩ | ⟨t, h, hfresh, hmem⟩
        · left
          rw [h]
        · right
          left
          refine ⟨new, rfl, congrArg Prod.fst h, hfresh, ?_⟩
          rw [h]
          exact hmem
    | saveAttempt a =>
        rcases perform_saveAttempt a ch s with ⟨e, h⟩ | ⟨t, h, _, hmem⟩
        · left
          rw [h]
        · right
          right
          left
          refine ⟨a, rfl, congrArg Prod.fst h, ?_⟩
          rw [h]
          exact hmem
    | softDeleteAttempt id =>
        rcases write_softDelete ch s (softDeleteAttempt s id) with ⟨e, h⟩ | h
        · left
          rw [perform, h]
        · right
          right
          right
          refine ⟨id, rfl, fun x => ?_⟩
          rw [perform, h]
          exact mem_softDeleteAttempt
    | _ => simp [Op.part] at hpart
  · exact .inl (perform_attempts_eq hpart ch s)

/-- Everything one operation can do to the challenges. -/
theorem perform_challenges_cases (op : Op) (ch : Choice) (s : Store) :
    (perform op ch s).2.challenges = s.challenges ∨
    (∃ new, op = .insertChallenge new ∧
      (perform (.insertChallenge new) ch s).1 = .ok ch.freshId ∧
      (∀ c ∈ s.challenges, c.id ≠ ch.freshId) ∧
      ∀ x, x ∈ (perform op ch s).2.challenges ↔ x ∈ s.challenges ∨ x = new.row ch.freshId) ∨
    (∃ c, op = .saveChallenge c ∧ (perform (.saveChallenge c) ch s).1 = .ok () ∧
      ∀ x, x ∈ (perform op ch s).2.challenges ↔ x = c ∨ (x ∈ s.challenges ∧ x.id ≠ c.id)) ∨
    ∃ id, op = .softDeleteChallenge id ∧ (perform (.softDeleteChallenge id) ch s).1 = .ok () ∧
      ∀ x, x ∈ (perform op ch s).2.challenges ↔ ∃ c ∈ s.challenges,
        x = if c.id == id then { c with deletedAt := some s.clock } else c := by
  by_cases hpart : op.part = some .challenges
  · cases op with
    | insertChallenge new =>
        rcases perform_insertChallenge new ch s with ⟨e, h⟩ | ⟨t, h, hfresh, hmem⟩
        · left
          rw [h]
        · right
          left
          refine ⟨new, rfl, congrArg Prod.fst h, hfresh, ?_⟩
          rw [h]
          exact hmem
    | saveChallenge c =>
        rcases perform_saveChallenge c ch s with ⟨e, h⟩ | ⟨t, h, hmem⟩
        · left
          rw [h]
        · right
          right
          left
          refine ⟨c, rfl, congrArg Prod.fst h, ?_⟩
          rw [h]
          exact hmem
    | softDeleteChallenge id =>
        rcases write_softDelete ch s (softDeleteChallenge s id) with ⟨e, h⟩ | h
        · left
          rw [perform, h]
        · right
          right
          right
          refine ⟨id, rfl, congrArg Prod.fst h, fun x => ?_⟩
          rw [perform, h]
          exact mem_softDeleteChallenge
    | _ => simp [Op.part] at hpart
  · exact .inl (perform_challenges_eq hpart ch s)

/-- Everything one operation can do to the devices. -/
theorem perform_devices_cases (op : Op) (ch : Choice) (s : Store) :
    (perform op ch s).2.devices = s.devices ∨
    (∃ new, op = .insertDevice new ∧ (perform (.insertDevice new) ch s).1 = .ok ch.freshId ∧
      (∀ d ∈ s.devices, d.id ≠ ch.freshId) ∧
      ∀ x, x ∈ (perform op ch s).2.devices ↔ x ∈ s.devices ∨ x = new.row ch.freshId) ∨
    ∃ id, op = .softDeleteDevice id ∧ (perform (.softDeleteDevice id) ch s).1 = .ok () ∧
      ∀ x, x ∈ (perform op ch s).2.devices ↔ ∃ d ∈ s.devices,
        x = if d.id == id then { d with deletedAt := some s.clock } else d := by
  by_cases hpart : op.part = some .devices
  · cases op with
    | insertDevice new =>
        rcases perform_insertDevice new ch s with ⟨e, h⟩ | ⟨t, h, hfresh, hmem⟩
        · left
          rw [h]
        · right
          left
          refine ⟨new, rfl, congrArg Prod.fst h, hfresh, ?_⟩
          rw [h]
          exact hmem
    | softDeleteDevice id =>
        rcases write_softDelete ch s (softDeleteDevice s id) with ⟨e, h⟩ | h
        · left
          rw [perform, h]
        · right
          right
          refine ⟨id, rfl, congrArg Prod.fst h, fun x => ?_⟩
          rw [perform, h]
          exact mem_softDeleteDevice
    | _ => simp [Op.part] at hpart
  · exact .inl (perform_devices_eq hpart ch s)

/-- Device rows stay. -/
theorem perform_keeps_device {op : Op} {ch : Choice} {s : Store} {d : String}
    (hd : ∃ row ∈ s.devices, row.id = d) : ∃ row ∈ (perform op ch s).2.devices, row.id = d := by
  rcases hd with ⟨row, hrow, hid⟩
  rcases perform_devices_cases op ch s with
    hsame | ⟨new, rfl, _, _, hmem⟩ | ⟨id, rfl, _, hmem⟩
  · refine ⟨row, ?_, hid⟩
    rw [hsame]
    exact hrow
  · exact ⟨row, (hmem row).2 (.inl hrow), hid⟩
  · refine ⟨_, (hmem _).2 ⟨row, hrow, rfl⟩, ?_⟩
    split
    · exact hid
    · exact hid

end Auth
end IdentityBillpay
