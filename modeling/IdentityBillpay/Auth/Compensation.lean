import IdentityBillpay.Auth.Devices
import IdentityBillpay.Auth.Recovery

/-!
# Compensation — what a failed step leaves behind

A step that throws in its `try` block calls `rollback` with its own label. `createCredentials` passes
`CREDENTIALS_SET`, the label of stored credentials, and `registerDevice` has its rollback look for
the id that the failed save has not stored. So neither undoes what the request itself has created.

Here every operation may fail, a read too.

* `flaky`, `flakyService` — the backend with a connection that may break at any operation;
* `Undone` — the purpose of a compensation; `CreatesUser`, `CreatesDevice` — what there is to undo;
* `compensation_undoes_iff` — the exact condition; `left_behind` — two requests that break it.
-/

namespace IdentityBillpay
namespace Auth

open Async Keycloak RegistrationStep
open Async.Program (Follows)
open RegistrationService (customer)

variable {config : OtpConfig}

/-! ## An environment in which reads fail too -/

def broken (op : Op) (message : String) : HttpError :=
  match op with
  | .keycloak _ => .httpFailed message
  | _ => .queryFailed message

abbrev flaky : Backend sig HttpError :=
  backend.faulty broken

abbrev flakyService (config : OtpConfig) : Service sig HttpError :=
  { flaky with
    Request := Request
    Reply := Reply
    program := program config }

@[simp] theorem flakyService_perform (config : OtpConfig) (op : Op) (ch : flaky.Choice)
    (s : Store) : (flakyService config).perform op ch s = flaky.perform op ch s := rfl

/-- An operation fails and changes nothing, or is performed. -/
theorem flaky_cases (op : Op) (ch : flaky.Choice) (s : Store) :
    (∃ e, flaky.perform op ch s = (.error e, s)) ∨
      ∃ ch', flaky.perform op ch s = perform op ch' s := by
  cases ch with
  | error message => exact .inl ⟨_, rfl⟩
  | ok ch' => exact .inr ⟨ch', rfl⟩

/-! ## Attempts name stored devices -/

/-- The device that the row names is stored. -/
def NamesStored (s : Store) (a : RegistrationAttempt) : Prop :=
  ∀ d, a.deviceProfileId = some d → ∃ row ∈ s.devices, row.id = d

structure NamesInv (h : History (flakyService config)) : Prop where
  rows : ∀ a ∈ h.state.attempts, NamesStored h.state a
  read : ∀ i id a, (⟨.findAttempt id, .ok (some a)⟩ : Awaited sig HttpError) ∈ h.own i →
    NamesStored h.state a
  created : ∀ i new d, (⟨.insertDevice new, .ok d⟩ : Awaited sig HttpError) ∈ h.own i →
    ∃ row ∈ h.state.devices, row.id = d

section Names

variable {h : History (flakyService config)} {i : Nat} {r : Request} {op : Op}

/-- What a request saves names a stored device. -/
theorem NamesInv.saved {saved : RegistrationAttempt} (hI : NamesInv h)
    (hop : Awaits config r (h.own i) (.saveAttempt saved)) : NamesStored h.state saved := by
  rcases awaits_saveAttempt hop with ⟨before, id, read, hown, _, _, hdevice⟩
  intro d hd
  rcases hdevice with hsame | ⟨d', new, hd', hmem⟩
  · have hread : (⟨.findAttempt id, .ok (some read)⟩ : Awaited sig HttpError) ∈ h.own i := by
      rw [hown]
      exact List.mem_append_right _ List.mem_cons_self
    exact hI.read i id read hread d (hsame.symm.trans hd)
  · have hcreated : (⟨.insertDevice new, .ok d'⟩ : Awaited sig HttpError) ∈ h.own i := by
      rw [hown]
      exact List.mem_append_left _ hmem
    have hdd : d' = d := Option.some.inj (hd'.symm.trans hd)
    exact hI.created i new d (hdd ▸ hcreated)

theorem namesInv_perform (hI : NamesInv h) (hop : Awaits config r (h.own i) op)
    (ch : flaky.Choice) : NamesInv (h.perform i op ch) := by
  rcases flaky_cases op ch h.state with ⟨e, hp⟩ | ⟨ch', hp⟩
  · -- A connection that breaks adds an error to the trace, and nothing else.
    have hstate : (h.perform i op ch).state = h.state := congrArg Prod.snd hp
    have hold : ∀ {j} {a : Awaited sig HttpError} {x : a.op.Res}, a.res = .ok x →
        a ∈ (h.perform i op ch).own j → a ∈ h.own j := by
      intro j a x hok hmem
      rcases History.mem_perform.1 (History.mem_own.1 hmem) with hmem | ⟨_, hop', hres⟩
      · exact History.mem_own.2 hmem
      · rcases a with ⟨op', res⟩
        cases hop'
        rw [hok, flakyService_perform, hp] at hres
        cases hres
    refine ⟨?_, ?_, ?_⟩
    · rw [hstate]
      exact hI.rows
    · intro j id a hmem
      rw [hstate]
      exact hI.read j id a (hold rfl hmem)
    · intro j new d hmem
      rw [hstate]
      exact hI.created j new d (hold rfl hmem)
  · -- The database has answered; its tables keep what was stored, and may have a new row.
    have hstate : (h.perform i op ch).state = (perform op ch' h.state).2 := congrArg Prod.snd hp
    have hkept : ∀ {a}, NamesStored h.state a → NamesStored (perform op ch' h.state).2 a :=
      fun ha d hd => perform_keeps_device (ha d hd)
    refine ⟨?_, ?_, ?_⟩
    · intro x hx
      rw [hstate] at hx ⊢
      rcases perform_attempts_cases op ch' h.state with
        hsame | ⟨new, rfl, _, _, hmem⟩ | ⟨saved, rfl, _, hmem⟩ | ⟨id, rfl, hmem⟩
      · exact hkept (hI.rows x (hsame ▸ hx))
      · rcases (hmem x).1 hx with hold | rfl
        · exact hkept (hI.rows x hold)
        · intro d hd
          cases hd
      · rcases (hmem x).1 hx with rfl | ⟨hold, _⟩
        · exact hkept (hI.saved hop)
        · exact hkept (hI.rows x hold)
      · rcases (hmem x).1 hx with ⟨a, ha, rfl⟩
        have hak : NamesStored _ a := hkept (hI.rows a ha)
        split
        · exact hak
        · exact hak
    · intro j id a hmem
      rw [hstate]
      rcases History.mem_perform.1 (History.mem_own.1 hmem) with hmem | ⟨_, hop', hres⟩
      · exact hkept (hI.read j id a (History.mem_own.2 hmem))
      · cases hop'
        rw [flakyService_perform, hp] at hres
        exact hkept (hI.rows a (findAttempt_some hres).1)
    · intro j new d hmem
      rw [hstate]
      rcases History.mem_perform.1 (History.mem_own.1 hmem) with hmem | ⟨_, hop', hres⟩
      · exact perform_keeps_device (hI.created j new d (History.mem_own.2 hmem))
      · cases hop'
        rw [flakyService_perform, hp] at hres
        rcases perform_insertDevice new ch' h.state with ⟨e, hp'⟩ | ⟨t, hp', _, hrows⟩
        · rw [hp'] at hres
          cases hres
        · rw [hp'] at hres ⊢
          cases hres
          exact ⟨_, (hrows _).2 (.inr rfl), rfl⟩

end Names

/-- In every reachable state the device of an attempt is stored. -/
theorem names_stored (config : OtpConfig) (s : Store) (hinit : ∀ a, a ∉ s.attempts)
    (as : List (Action (flakyService config))) :
    ∀ a ∈ ((Config.initial (flakyService config) s).run as).state.attempts,
      NamesStored ((Config.initial (flakyService config) s).run as).state a := by
  have hI : NamesInv ((Config.initial (flakyService config) s).run as).toHistory := by
    refine Config.run_induction (V := flakyService config) (follows_program config) ?_ ?_ ?_ as
      (Config.meets_trivial _ as)
    · exact fun h r _ hI => ⟨hI.rows, hI.read, hI.created⟩
    · exact fun h i r op ch _ hI _ hop _ => namesInv_perform hI hop ch
    · exact ⟨fun a ha => absurd ha (hinit a), fun i id a hmem => (by cases hmem),
        fun i new d hmem => (by cases hmem)⟩
  exact hI.rows

/-! ## What there is to undo -/

/-- Whatever user is new in `s'` is disabled, whatever device is new is soft-deleted. -/
structure Undone (s s' : Store) : Prop where
  users : ∀ u ∈ s'.realm.users, (∀ v ∈ s.realm.users, v.id ≠ u.id) → u.enabled = false
  devices : ∀ d ∈ s'.devices, (∀ e ∈ s.devices, e.id ≠ d.id) → d.deletedAt ≠ none

/-- Keycloak carries out `POST users`, and creates the user. -/
def PostsUser (s : Store) (user : UserRepresentation) (post : flaky.Choice) : Prop :=
  ∃ ch, post = .ok ch ∧ ch.fails = false ∧ s.realm.Creates user ch.toChoice

/-- The token is granted, and the user created. -/
def GetsUser (s : Store) (user : UserRepresentation) (token post : flaky.Choice) : Prop :=
  (flaky.perform (.keycloak .postAdminToken) token s).1 = .ok () ∧ PostsUser s user post

/-- Whether a `createCredentials` on the attempt, whose operations the environment answers by
`choices`, makes Keycloak create a user. A first call reads and moves the attempt before that. -/
def CreatesUser (s : Store) (a : RegistrationAttempt) (password : String)
    (choices : Nat → flaky.Choice) : Prop :=
  let user := (customer a.mobileNumber password).representation
  if a.currentStep = OTP_VERIFIED.text then
    (flaky.perform (.findAttempt a.id) (choices 1) s).1 = .ok (some a) ∧
    (flaky.perform (.saveAttempt { a with currentStep := CREDENTIALS_SET.text }) (choices 2) s).1 =
      .ok () ∧
    GetsUser s user (choices 3) (choices 4)
  else GetsUser s user (choices 1) (choices 2)

/-- Whether a `registerDevice` on the attempt inserts a device. -/
def CreatesDevice (s : Store) (a : RegistrationAttempt) (dto : RegisterAttemptDeviceDto)
    (choices : Nat → flaky.Choice) : Prop :=
  ∃ userId d, truthy? a.keycloakUserId = some userId ∧
    (flaky.perform (.insertDevice
      { userId := userId, deviceId := dto.deviceId, deviceModel := dto.deviceModel,
        trusted := false }) (choices 1) s).1 = .ok d

/-! ## What neither creates nor disables -/

/-- Neither creates a user, nor disables one, nor creates a device. -/
def Op.Keeps (op : Op) : Prop :=
  (∀ call, op = .keycloak call → call.setsFlags = false) ∧ ∀ new, op ≠ .insertDevice new

/-- Ids and flags of the users, and ids of the devices. -/
def Store.view (s : Store) : List (String × Bool) × List String :=
  (s.realm.flags, s.devices.rows.map DeviceProfile.id)

section Keeps

variable {s s' : Store} {own : Own}

theorem softDeleteDevice_ids (s : Store) (id : String) :
    (softDeleteDevice s id).devices.rows.map DeviceProfile.id =
      s.devices.rows.map DeviceProfile.id := by
  rw [softDeleteDevice, Sql.Table.modify, List.map_map]
  refine List.map_congr_left fun d _ => ?_
  by_cases hd : d.id = id
  · simp [hd]
  · simp [hd]

theorem keeps_view {op : Op} (hop : op.Keeps) (ch : flaky.Choice) (s : Store) :
    Store.view (flaky.perform op ch s).2 = s.view := by
  rcases flaky_cases op ch s with ⟨e, hp⟩ | ⟨ch', hp⟩
  · rw [hp]
  · rw [hp]
    refine Prod.ext ?_ ?_
    · by_cases hpart : op.part = some .realm
      · cases op with
        | keycloak call => exact perform_flags (hop.1 call rfl) ch'.toChoice s.realm
        | _ => cases hpart
      · exact congrArg Realm.flags (perform_realm_eq hpart ch' s)
    · by_cases hpart : op.part = some .devices
      · cases op with
        | insertDevice new => exact absurd rfl (hop.2 new)
        | softDeleteDevice id =>
            rcases write_softDelete ch' s (softDeleteDevice s id) with ⟨e, hw⟩ | hw
            · simp only [Store.view, perform, hw]
            · simp only [Store.view, perform, hw, softDeleteDevice_ids]
        | _ => cases hpart
      · exact congrArg (fun t => t.rows.map DeviceProfile.id) (perform_devices_eq hpart ch' s)

/-- Where nothing is new, there is nothing to undo. -/
theorem undone_of_view (h : s'.view = s.view) : Undone s s' := by
  have hflags : s'.realm.flags = s.realm.flags := congrArg Prod.fst h
  have hids : s'.devices.rows.map DeviceProfile.id = s.devices.rows.map DeviceProfile.id :=
    congrArg Prod.snd h
  refine ⟨fun u hu hnew => ?_, fun d hd hnew => ?_⟩
  · have hmem : (u.id, u.enabled) ∈ s'.realm.flags := List.mem_map.2 ⟨u, hu, rfl⟩
    rw [hflags] at hmem
    rcases List.mem_map.1 hmem with ⟨v, hv, heq⟩
    exact absurd (congrArg Prod.fst heq) (hnew v hv)
  · have hmem : d.id ∈ s'.devices.rows.map DeviceProfile.id := List.mem_map.2 ⟨d, hd, rfl⟩
    rw [hids] at hmem
    rcases List.mem_map.1 hmem with ⟨e, he, heq⟩
    exact absurd heq (hnew e he)

theorem follows_keeps {op : Op} (hop : op.Keeps) :
    Follows (fun _ (op : Op) => op.Keeps) (fun _ _ => True) own (call op) :=
  Program.follows_call hop

/-- An operation of the database other than the insert of a device. -/
theorem keeps_of {op : Op} (hcall : ∀ call, op ≠ .keycloak call)
    (hinsert : ∀ new, op ≠ .insertDevice new) : op.Keeps :=
  ⟨fun call hop => absurd hop (hcall call), hinsert⟩

theorem follows_keepsHttp (own : Own) (op : KeycloakOp) (hop : op.setsFlags = false) :
    Follows (fun _ (op : Op) => op.Keeps) (fun _ _ => True) own (http op) :=
  follows_keeps ⟨fun call h => Op.keycloak.inj h ▸ hop, by simp⟩

theorem follows_keepsFindAttempt {α : Type} {id : String}
    {f : Option RegistrationAttempt → Prog α}
    (hf : ∀ own found, Follows (fun _ (op : Op) => op.Keeps) (fun _ _ => True) own (f found)) :
    Follows (fun _ (op : Op) => op.Keeps) (fun _ _ => True) own (call (.findAttempt id) >>= f) :=
  (follows_keeps (keeps_of (by simp) (by simp))).andThen hf

theorem follows_keepsSave (a : RegistrationAttempt) :
    Follows (fun _ (op : Op) => op.Keeps) (fun _ _ => True) own (call (.saveAttempt a)) :=
  follows_keeps (keeps_of (by simp) (by simp))

theorem follows_keepsFindOne (id : String) :
    Follows (fun _ (op : Op) => op.Keeps) (fun _ _ => True) own (RegistrationService.findOne id) := by
  refine follows_keepsFindAttempt fun own found => ?_
  cases (found : Option RegistrationAttempt) with
  | none => trivial
  | some a => trivial

theorem follows_keepsAdvance (id : String) (toStep : RegistrationStep) :
    Follows (fun _ (op : Op) => op.Keeps) (fun _ _ => True) own
      (RegistrationOrchestratorService.advance id toStep) := by
  refine follows_keepsFindAttempt fun own found => ?_
  cases (found : Option RegistrationAttempt) with
  | none => trivial
  | some a =>
      dsimp only
      split
      · trivial
      · exact (follows_keepsSave _).andThen fun _ _ => trivial

/-- A rollback disables a user only under the label that no caller passes. -/
theorem follows_keepsRollback (id : String) {atStep : RegistrationStep}
    (hlabel : atStep ≠ KEYCLOAK_USER_CREATED) :
    Follows (fun _ (op : Op) => op.Keeps) (fun _ _ => True) own
      (RegistrationCompensationService.rollback id atStep) := by
  refine follows_keepsFindAttempt fun own found => ?_
  cases (found : Option RegistrationAttempt) with
  | none => trivial
  | some a =>
      dsimp only
      split
      · split
        · refine Follows.orElse (Follows.andThen ?_ fun own _ => ?_) fun _ _ => trivial
          · refine (follows_keeps (keeps_of (by simp) (by simp))).andThen fun own device => ?_
            cases (device : Option DeviceProfile) with
            | none => trivial
            | some device => trivial
          · exact follows_keeps (keeps_of (by simp) (by simp))
        · trivial
      · exact absurd rfl hlabel
      · split
        · refine Follows.orElse ?_ fun _ _ => trivial
          refine (follows_keeps (keeps_of (by simp) (by simp))).andThen fun own credential => ?_
          cases (credential : Option Credential) with
          | none => trivial
          | some credential => exact follows_keeps (keeps_of (by simp) (by simp))
        · trivial
      · trivial

theorem follows_keepsFailed (id : String) {atStep : RegistrationStep}
    (hlabel : atStep ≠ KEYCLOAK_USER_CREATED) (error : HttpError) :
    Follows (fun _ (op : Op) => op.Keeps) (fun _ _ => True) own
      (RegistrationService.failed id atStep error) := by
  refine Follows.andThen (follows_keepsFindAttempt fun own found => ?_) fun _ _ => trivial
  cases (found : Option RegistrationAttempt) with
  | none => exact follows_keepsRollback id hlabel
  | some a => exact (follows_keepsSave _).andThen fun _ _ => follows_keepsRollback id hlabel

end Keeps

/-! ## The user of a failed `createCredentials` -/

section User

variable {s : Store} {dto : CreateCredentialsDto} {mobileNumber : String}

/-- `createCredentials` from its `try` block on. -/
abbrev provisioning (dto : CreateCredentialsDto) (mobileNumber : String) :
    Prog RegistrationAttempt := do
  (RegistrationService.provision dto mobileNumber).handle
    (RegistrationService.failed dto.attemptId CREDENTIALS_SET)
  RegistrationOrchestratorService.advance dto.attemptId KEYCLOAK_USER_CREATED

/-- It asks for a token, then for the user; whatever follows keeps users and devices. -/
theorem provisioning_shape (dto : CreateCredentialsDto) (mobileNumber : String) :
    ∃ k₁ k₂, provisioning dto mobileNumber = .await (.keycloak .postAdminToken) k₁ ∧
      k₁ (.ok ()) =
        .await (.keycloak (.postUser (customer mobileNumber dto.password).representation)) k₂ ∧
      (∀ e, Follows (fun _ (op : Op) => op.Keeps) (fun _ _ => True) [] (k₁ (.error e))) ∧
      ∀ r, Follows (fun _ (op : Op) => op.Keeps) (fun _ _ => True) [] (k₂ r) := by
  have hadvance : ∀ own : Own, Follows (fun _ (op : Op) => op.Keeps) (fun _ _ => True) own
      (RegistrationOrchestratorService.advance dto.attemptId KEYCLOAK_USER_CREATED) :=
    fun own => follows_keepsAdvance _ _
  have hfailed : ∀ (own : Own) e, Follows (fun _ (op : Op) => op.Keeps) (fun _ _ => True) own
      (RegistrationService.failed dto.attemptId CREDENTIALS_SET e) :=
    fun own e => follows_keepsFailed _ (by decide) e
  refine ⟨_, _, rfl, rfl, fun e => ?_, fun r => ?_⟩
  · exact Follows.andThen (hfailed [] e) fun own _ => hadvance own
  · cases r with
    | error e => exact Follows.andThen (hfailed [] e) fun own _ => hadvance own
    | ok response =>
        refine Follows.andThen (Follows.orElse ?_ fun own e => hfailed own e) fun own _ =>
          hadvance own
        refine Follows.andThen (p := (if 400 ≤ response.status then _ else _ : Prog String)) ?_
          fun own userId => Follows.andThen
            (follows_assignRealmRoleToUser own follows_keepsHttp userId _) fun own _ => ?_
        · split
          · trivial
          · refine (follows_createdUserId [] follows_keepsHttp _ response).andThen fun own userId => ?_
            exact (follows_keepsHttp own (.putPassword userId dto.password) rfl).andThen
              fun _ _ => trivial
        · exact (follows_keepsFindOne _).andThen fun own updated => follows_keepsSave _

theorem perform_token_state (ch : Choice) (s : Store) :
    (perform (.keycloak .postAdminToken) ch s).2 = s := by
  simp only [perform, Realm.perform, request_state, ite_self]

theorem token_state (ch : flaky.Choice) (s : Store) :
    (flaky.perform (.keycloak .postAdminToken) ch s).2 = s := by
  rcases flaky_cases (.keycloak .postAdminToken) ch s with ⟨e, hp⟩ | ⟨ch', hp⟩
  · rw [hp]
  · rw [hp]
    exact perform_token_state ch' s

/-- A user that is created is new, whether the answer arrives or not. -/
theorem postUser_flags {user : UserRepresentation} {post : flaky.Choice}
    (h : PostsUser s user post) :
    ∃ id, (∀ u ∈ s.realm.users, u.id ≠ id) ∧
      (id, user.enabled) ∈ (flaky.perform (.keycloak (.postUser user)) post s).2.realm.flags := by
  rcases h with ⟨ch, rfl, hdone, hcreates⟩
  rcases postUser_created hcreates with ⟨t, hpost, hmem⟩
  refine ⟨ch.freshId, fun u hu => (hcreates.2 u hu).1, ?_⟩
  have hrealm : (flaky.perform (.keycloak (.postUser user)) (.ok ch) s).2.realm =
      { s.realm with users := t } := by
    simp [perform, Realm.perform, request_state, hpost, hdone]
  rw [hrealm]
  exact List.mem_map.2 ⟨_, (hmem _).2 (.inr rfl), rfl⟩

theorem postUser_state {user : UserRepresentation} {post : flaky.Choice}
    (h : ¬ PostsUser s user post) :
    (flaky.perform (.keycloak (.postUser user)) post s).2 = s := by
  cases post with
  | error message => rfl
  | ok ch =>
      cases hfails : ch.fails with
      | true => simp [perform, Realm.perform, request_state, hfails]
      | false =>
          have hrefused := (postUser_refused fun hcreates => h ⟨ch, rfl, hfails, hcreates⟩).1
          simp [perform, Realm.perform, request_state, hfails, hrefused]

/-- From its `try` block on, `createCredentials` creates a user and leaves it enabled, or does
nothing to users and devices. -/
theorem provisioning_view (dto : CreateCredentialsDto) (mobileNumber : String)
    (choices : Nat → flaky.Choice) (s : Store) :
    let s' := ((provisioning dto mobileNumber).exec flaky choices s).state
    let user := (customer mobileNumber dto.password).representation
    (¬ GetsUser s user (choices 0) (choices 1) → s'.view = s.view) ∧
      (GetsUser s user (choices 0) (choices 1) →
        ∃ id, (∀ u ∈ s.realm.users, u.id ≠ id) ∧ (id, true) ∈ s'.realm.flags) := by
  intro s' user
  rcases provisioning_shape dto mobileNumber with ⟨k₁, k₂, hp, hpost, herror, hrest⟩
  have hs' : s' = ((k₁ (flaky.perform (.keycloak .postAdminToken) (choices 0) s).1).exec flaky
      (fun n => choices (n + 1)) s).state := by
    change ((provisioning dto mobileNumber).exec flaky choices s).state = _
    rw [hp, Program.exec_await_state, token_state]
  -- Without a token nothing is posted.
  cases htoken : (flaky.perform (.keycloak .postAdminToken) (choices 0) s).1 with
  | error e =>
      rw [htoken] at hs'
      have hview : s'.view = s.view := by
        rw [hs']
        exact (herror e).exec_kept Store.view (fun op hop ch m => keeps_view hop ch m) _ s
      refine ⟨fun _ => hview, fun hgets => ?_⟩
      rw [GetsUser, htoken] at hgets
      cases hgets.1
  | ok _ =>
      -- The first call has changed nothing, so the second sees the realm as it was.
      rw [htoken, hpost, Program.exec_await_state] at hs'
      have hview : s'.view =
          (flaky.perform (.keycloak (.postUser user)) (choices 1) s).2.view := by
        rw [hs']
        exact (hrest _).exec_kept Store.view (fun op hop ch m => keeps_view hop ch m) _ _
      refine ⟨fun hnot => ?_, fun hgets => ?_⟩
      · rw [hview, postUser_state fun hposts => hnot ⟨htoken, hposts⟩]
      · rcases postUser_flags hgets.2 with ⟨id, hfresh, hmem⟩
        refine ⟨id, hfresh, ?_⟩
        have hflags : s'.realm.flags = _ := congrArg Prod.fst hview
        rw [hflags]
        exact hmem

theorem getsUser_congr {s₁ : Store} (hrealm : s₁.realm = s.realm) (user : UserRepresentation)
    (token post : flaky.Choice) : GetsUser s₁ user token post ↔ GetsUser s user token post := by
  have htoken : (flaky.perform (.keycloak .postAdminToken) token s₁).1 =
      (flaky.perform (.keycloak .postAdminToken) token s).1 := by
    cases token with
    | error message => rfl
    | ok ch => simp only [perform, hrealm]
  unfold GetsUser PostsUser
  rw [htoken, hrealm]

/-- A user that stays enabled is not undone. -/
theorem not_undone_of_flag {s' : Store} {id : String} (hfresh : ∀ u ∈ s.realm.users, u.id ≠ id)
    (hmem : (id, true) ∈ s'.realm.flags) : ¬ Undone s s' := by
  intro hundone
  rcases List.mem_map.1 hmem with ⟨u, hu, heq⟩
  have hid : u.id = id := congrArg Prod.fst heq
  have hdisabled := hundone.users u hu fun v hv h => hfresh v hv (h.trans hid)
  have henabled : u.enabled = true := congrArg Prod.snd heq
  rw [hdisabled] at henabled
  cases henabled

/-- The two ways on once the attempt has been moved: in a state `s₁` with the realm and the devices
of `s`. -/
theorem provisioning_undone {s₁ : Store} (hrealm : s₁.realm = s.realm)
    (hdevices : s₁.devices = s.devices) (dto : CreateCredentialsDto) (mobileNumber : String)
    (choices : Nat → flaky.Choice) :
    Undone s ((provisioning dto mobileNumber).exec flaky choices s₁).state ↔
      ¬ GetsUser s (customer mobileNumber dto.password).representation (choices 0) (choices 1) := by
  rcases provisioning_view dto mobileNumber choices s₁ with ⟨hkept, hcreated⟩
  have hview : s₁.view = s.view := by rw [Store.view, Store.view, hrealm, hdevices]
  constructor
  · intro hundone hgets
    rcases hcreated ((getsUser_congr hrealm _ _ _).2 hgets) with ⟨id, hfresh, hmem⟩
    exact not_undone_of_flag (fun u hu => hfresh u (hrealm ▸ hu)) hmem hundone
  · intro hnot
    refine undone_of_view ((hkept fun hgets => hnot ?_).trans hview)
    exact (getsUser_congr hrealm _ _ _).1 hgets

/-- A read that the connection lets through finds the attempt. -/
theorem flaky_findAttempt {a : RegistrationAttempt} (ha : a ∈ s.attempts)
    (hlive : a.deletedAt = none) (ch : Choice) :
    flaky.perform (.findAttempt a.id) (.ok ch) s = (.ok (some a), s) :=
  findAttempt_stored ha hlive ch

theorem flaky_saveAttempt (a : RegistrationAttempt) (ch : flaky.Choice) (s : Store) :
    (∃ e, flaky.perform (.saveAttempt a) ch s = (.error e, s)) ∨
      ∃ t, flaky.perform (.saveAttempt a) ch s = (.ok (), { s with attempts := t }) := by
  rcases flaky_cases (.saveAttempt a) ch s with ⟨e, hp⟩ | ⟨ch', hp⟩
  · exact .inl ⟨e, hp⟩
  · rcases perform_saveAttempt a ch' s with ⟨e, hp'⟩ | ⟨t, hp', _⟩
    · exact .inl ⟨e, hp.trans hp'⟩
    · exact .inr ⟨t, hp.trans hp'⟩

variable {a : RegistrationAttempt} {password : String} {choices : Nat → flaky.Choice}

/-- Once the attempt has been read. -/
theorem createCredentials_exec (ha : a ∈ s.attempts) (hlive : a.deletedAt = none)
    (hread : ∃ ch, choices 0 = .ok ch) :
    ((RegistrationService.createCredentials ⟨a.id, password⟩).exec flaky choices s).state =
      ((RegistrationService.requireCredentialsStep ⟨a.id, password⟩ a >>= fun _ =>
        RegistrationService.markCredentialsSet ⟨a.id, password⟩ a >>= fun _ =>
          provisioning ⟨a.id, password⟩ a.mobileNumber).exec flaky
        (fun n => choices (n + 1)) s).state := by
  rcases hread with ⟨ch, hch⟩
  have hfirst : flaky.perform (.findAttempt a.id) (choices 0) s = (.ok (some a), s) := by
    rw [hch]
    exact flaky_findAttempt ha hlive ch
  have hshape : ∃ k, RegistrationService.createCredentials ⟨a.id, password⟩ =
        .await (.findAttempt a.id) k ∧
      k (.ok (some a)) = (RegistrationService.requireCredentialsStep ⟨a.id, password⟩ a >>= fun _ =>
        RegistrationService.markCredentialsSet ⟨a.id, password⟩ a >>= fun _ =>
          provisioning ⟨a.id, password⟩ a.mobileNumber) := ⟨_, rfl, rfl⟩
  rcases hshape with ⟨k, hp, hk⟩
  rw [hp, Program.exec_await_state, hfirst, hk]

theorem retry_undone (ha : a ∈ s.attempts) (hlive : a.deletedAt = none)
    (hread : ∃ ch, choices 0 = .ok ch) (hstep : a.currentStep = CREDENTIALS_SET.text) :
    Undone s ((RegistrationService.createCredentials ⟨a.id, password⟩).exec flaky choices s).state ↔
      ¬ CreatesUser s a password choices := by
  have hne : ¬ a.currentStep = OTP_VERIFIED.text := by
    rw [hstep]
    decide
  rw [createCredentials_exec ha hlive hread, requireCredentialsStep_retry hstep,
    markCredentialsSet_retry hstep, pure_bind, pure_bind, provisioning_undone rfl rfl, CreatesUser,
    if_neg hne]

/-- A first call moves the attempt before it asks for the user. -/
theorem markCredentialsSet_shape (password : String) (hstep : a.currentStep = OTP_VERIFIED.text)
    (next : Prog RegistrationAttempt) :
    ∃ k k', (RegistrationService.markCredentialsSet ⟨a.id, password⟩ a >>= fun _ => next) =
        .await (.findAttempt a.id) k ∧
      (∀ e, k (.error e) = .reject e) ∧
      k (.ok (some a)) = .await (.saveAttempt { a with currentStep := CREDENTIALS_SET.text }) k' ∧
      (∀ e, k' (.error e) = .reject e) ∧ k' (.ok ()) = next := by
  have hnext : ¬ indexOf CREDENTIALS_SET.text ≠ indexOf a.currentStep + 1 := by
    rw [hstep]
    decide
  let advanced : RegistrationAttempt := { a with currentStep := CREDENTIALS_SET.text }
  let k' : Except HttpError Unit → Prog RegistrationAttempt := fun r =>
    ((Program.settled r >>= fun _ => pure advanced) >>= fun _ => pure ()) >>= fun _ => next
  rw [RegistrationService.markCredentialsSet, if_pos hstep]
  refine ⟨_, k', rfl, fun e => rfl, ?_, fun e => rfl, rfl⟩
  change ((if _ then _ else _ : Prog RegistrationAttempt) >>= fun _ => pure ()) >>= (fun _ => next) = _
  rw [if_neg hnext]
  rfl

theorem firstCall_undone (ha : a ∈ s.attempts) (hlive : a.deletedAt = none)
    (hread : ∃ ch, choices 0 = .ok ch) (hstep : a.currentStep = OTP_VERIFIED.text) :
    Undone s ((RegistrationService.createCredentials ⟨a.id, password⟩).exec flaky choices s).state ↔
      ¬ CreatesUser s a password choices := by
  have hcheck : RegistrationService.requireCredentialsStep ⟨a.id, password⟩ a = pure () :=
    if_neg fun h => h.1 hstep
  rcases markCredentialsSet_shape password hstep
    (provisioning ⟨a.id, password⟩ a.mobileNumber) with ⟨k, k', hp, herr, hk, herr', hk'⟩
  rw [createCredentials_exec ha hlive hread, hcheck, pure_bind, hp, Program.exec_await_state,
    CreatesUser, if_pos hstep]
  cases hsecond : choices 1 with
  | error message =>
      rw [herr]
      refine ⟨fun _ h => ?_, fun _ => undone_of_view rfl⟩
      cases h.1
  | ok ch =>
      rw [flaky_findAttempt ha hlive ch, hk, Program.exec_await_state]
      change Undone s (Program.exec flaky (k' (flaky.perform (.saveAttempt
        { a with currentStep := CREDENTIALS_SET.text }) (choices 2) s).1) (fun n => choices (n + 3))
        (flaky.perform (.saveAttempt { a with currentStep := CREDENTIALS_SET.text })
          (choices 2) s).2).state ↔ _
      rcases flaky_saveAttempt { a with currentStep := CREDENTIALS_SET.text } (choices 2) s with
        ⟨e, hsave⟩ | ⟨t, hsave⟩
      · rw [hsave, herr']
        refine ⟨fun _ h => ?_, fun _ => undone_of_view rfl⟩
        cases h.2.1
      · rw [hsave, hk']
        have hundone := @provisioning_undone s { s with attempts := t } rfl rfl ⟨a.id, password⟩
          a.mobileNumber fun n => choices (n + 3)
        refine hundone.trans (not_congr ⟨fun h => ⟨rfl, rfl, h⟩, fun h => h.2.2⟩)

end User

/-! ## The device of a failed `registerDevice` -/

section Device

variable {s : Store} {a : RegistrationAttempt} {dto : RegisterAttemptDeviceDto} {d : String}

/-- The device is live, and no row of the attempt names it. -/
structure Unnamed (attemptId d : String) (s : Store) : Prop where
  live : LiveDevice s d
  unnamed : ∀ x ∈ s.attempts, x.id = attemptId → x.deviceProfileId ≠ some d

theorem flaky_live {op : Op} {ch : flaky.Choice} (hlive : LiveDevice s d)
    (hkeep : ∀ id, op = .softDeleteDevice id → id ≠ d) :
    LiveDevice (flaky.perform op ch s).2 d := by
  rcases flaky_cases op ch s with ⟨e, hp⟩ | ⟨ch', hp⟩
  · rw [hp]
    exact hlive
  · rw [hp]
    refine hlive.perform fun hdeleted => ?_
    cases op with
    | softDeleteDevice id =>
        cases hres : (perform (.softDeleteDevice id) ch' s).1 with
        | ok _ =>
            rw [hres] at hdeleted
            exact hkeep id rfl (Option.some.inj hdeleted)
        | error e =>
            rw [hres] at hdeleted
            cases hdeleted
    | _ => cases hdeleted

/-- A read finds a stored row, or fails. -/
theorem flaky_find {id : String} {ch : flaky.Choice} {x : RegistrationAttempt}
    (h : (flaky.perform (.findAttempt id) ch s).1 = .ok (some x)) :
    x ∈ s.attempts ∧ x.id = id := by
  rcases flaky_cases (.findAttempt id) ch s with ⟨e, hp⟩ | ⟨ch', hp⟩
  · rw [hp] at h
    cases h
  · rw [hp] at h
    have hread := findAttempt_some h.symm
    exact ⟨hread.1, hread.2.1⟩

theorem flaky_find_state {id : String} {ch : flaky.Choice} :
    (flaky.perform (.findAttempt id) ch s).2 = s := by
  rcases flaky_cases (.findAttempt id) ch s with ⟨e, hp⟩ | ⟨ch', hp⟩
  · rw [hp]
  · rw [hp]
    rfl

/-- A part of a program after a read of the attempt. -/
theorem flakyFind_ensures {α : Type} {id : String} {f : Option RegistrationAttempt → Prog α}
    {Q : Store → Except HttpError α → Prop} (herr : ∀ e, Q s (.error e))
    (hnone : Ensures flaky (fun _ => True) Q s (f none))
    (hsome : ∀ x ∈ s.attempts, x.id = id → Ensures flaky (fun _ => True) Q s (f (some x))) :
    Ensures flaky (fun _ => True) Q s (call (.findAttempt id) >>= f) := by
  refine ensures_call_bind (fun _ => trivial) ?_ ?_
  · intro ch e _
    rw [flaky_find_state]
    exact herr e
  · intro ch found hfound
    rw [flaky_find_state]
    cases (found : Option RegistrationAttempt) with
    | none => exact hnone
    | some x =>
        rcases flaky_find hfound with ⟨hmem, hid⟩
        exact hsome x hmem hid

theorem flakySave_ensures {attemptId : String} {x : RegistrationAttempt}
    (hI : Unnamed attemptId d s) (hx : x.deviceProfileId ≠ some d) :
    Ensures flaky (fun _ => True) (fun s' _ => Unnamed attemptId d s') s (call (.saveAttempt x)) := by
  intro ch
  refine ⟨trivial, ensures_settled.2 ⟨flaky_live hI.live (by simp), ?_⟩⟩
  rcases flaky_saveAttempt x ch s with ⟨e, hp⟩ | ⟨t, hp⟩
  · rw [hp]
    exact hI.unnamed
  · intro y hy hid
    rcases flaky_cases (.saveAttempt x) ch s with ⟨e, hp'⟩ | ⟨ch', hp'⟩
    · rw [hp'] at hp
      cases hp
    · rw [hp'] at hy
      rcases perform_saveAttempt x ch' s with ⟨e, hp''⟩ | ⟨t', hp'', _, hmem⟩
      · rw [hp''] at hy
        exact hI.unnamed y hy hid
      · rw [hp''] at hy
        rcases (hmem y).1 hy with rfl | ⟨hold, _⟩
        · exact hx
        · exact hI.unnamed y hold hid

theorem rollback_live {attemptId : String} (hI : Unnamed attemptId d s) :
    Ensures flaky (fun _ => True) (fun s' _ => LiveDevice s' d) s
      (RegistrationCompensationService.rollback attemptId DEVICE_REGISTERED) := by
  refine flakyFind_ensures (fun _ => hI.live) hI.live fun x hx hid => ?_
  dsimp only
  split
  · rename_i id hid'
    -- What the row names is another device.
    have hne : id ≠ d := by
      rintro rfl
      exact hI.unnamed x hx hid (Option.filter_eq_some_iff.1 hid').1
    have hdelete : Ensures flaky (fun _ => True) (fun s' _ => LiveDevice s' d) s
        (DeviceService.softDelete id) := by
      refine Ensures.bind (Q := fun s' _ => LiveDevice s' d) ?_ ?_ fun _ _ h => h
      · refine ensures_call_bind (fun _ => trivial) ?_ ?_
        · exact fun ch e _ => flaky_live hI.live (by simp)
        · intro ch device _
          cases (device : Option DeviceProfile) with
          | none => exact flaky_live hI.live (by simp)
          | some device => exact flaky_live hI.live (by simp)
      · intro s₁ _ hlive ch
        refine ⟨trivial, ensures_settled.2 (flaky_live hlive fun id' hop => ?_)⟩
        cases hop
        exact hne
    exact hdelete.handle (fun _ _ h => h) fun _ _ h => h
  · exact hI.live

theorem failed_live {attemptId : String} (hI : Unnamed attemptId d s) (error : HttpError) :
    Ensures flaky (fun _ => True) (fun s' _ => LiveDevice s' d) s
      (RegistrationService.failed attemptId DEVICE_REGISTERED error) := by
  have hfail : Ensures flaky (fun _ => True) (fun s' _ => LiveDevice s' d) s
      (RegistrationOrchestratorService.fail attemptId DEVICE_REGISTERED error.message) := by
    refine flakyFind_ensures (fun _ => hI.live) (rollback_live hI) fun x hx hid => ?_
    have hsave := @flakySave_ensures s d attemptId
      { x with failureReason := some error.message } hI (hI.unnamed x hx hid)
    exact hsave.bind (fun _ _ hI' => rollback_live hI') fun _ _ hI' => hI'.live
  exact hfail.bind (fun s' _ hlive => hlive) fun _ _ hlive => hlive

theorem advance_live {attemptId : String} {toStep : RegistrationStep} (hlive : LiveDevice s d) :
    Ensures flaky (fun _ => True) (fun s' _ => LiveDevice s' d) s
      (RegistrationOrchestratorService.advance attemptId toStep) := by
  refine flakyFind_ensures (fun _ => hlive) hlive fun x _ _ => ?_
  dsimp only
  split
  · exact hlive
  · refine ensures_call_bind (fun _ => trivial) ?_ ?_
    · exact fun ch e _ => flaky_live hlive (by simp)
    · exact fun ch _ _ => flaky_live hlive (by simp)

/-- Once a device has been inserted, it stays: when the request fails to store its id, the rollback
does not find it, and when it has stored it, nothing is rolled back. -/
theorem inserted_stays {attemptId : String} (hI : Unnamed attemptId d s) :
    Ensures flaky (fun _ => True) (fun s' _ => LiveDevice s' d) s (do
      (RegistrationService.findOne attemptId >>= fun updated =>
          call (.saveAttempt { updated with deviceProfileId := some d })).handle
        (RegistrationService.failed attemptId DEVICE_REGISTERED)
      RegistrationOrchestratorService.advance attemptId DEVICE_REGISTERED) := by
  have hstore : Ensures flaky (fun _ => True)
      (fun s' r => LiveDevice s' d ∧ (r = .ok () ∨ Unnamed attemptId d s')) s
      (RegistrationService.findOne attemptId >>= fun updated =>
        call (.saveAttempt { updated with deviceProfileId := some d })) := by
    unfold RegistrationService.findOne
    rw [bind_assoc]
    refine flakyFind_ensures (fun _ => ⟨hI.live, .inr hI⟩) ⟨hI.live, .inr hI⟩ fun x _ _ => ?_
    intro ch
    refine ⟨trivial, ensures_settled.2 ⟨flaky_live hI.live (by simp), ?_⟩⟩
    rcases flaky_saveAttempt { x with deviceProfileId := some d } ch s with ⟨e, hp⟩ | ⟨t, hp⟩
    · rw [hp]
      exact .inr hI
    · rw [hp]
      exact .inl rfl
  have htry : Ensures flaky (fun _ => True) (fun s' _ => LiveDevice s' d) s
      ((RegistrationService.findOne attemptId >>= fun updated =>
          call (.saveAttempt { updated with deviceProfileId := some d })).handle
        (RegistrationService.failed attemptId DEVICE_REGISTERED)) := by
    refine hstore.handle (fun _ _ h => h.1) fun s₁ e h => ?_
    rcases h.2 with hok | hI₁
    · cases hok
    · exact failed_live hI₁ e
  exact htry.bind (fun s₁ _ hlive => advance_live hlive) fun _ _ hlive => hlive

/-- An insert fails and changes nothing, or its row is new and live. -/
theorem flaky_insertDevice (new : NewDevice) (ch : flaky.Choice) (s : Store) :
    (∃ e, flaky.perform (.insertDevice new) ch s = (.error e, s)) ∨
      ∃ id, (flaky.perform (.insertDevice new) ch s).1 = .ok id ∧ (∀ d ∈ s.devices, d.id ≠ id) ∧
        LiveDevice (flaky.perform (.insertDevice new) ch s).2 id ∧
        (flaky.perform (.insertDevice new) ch s).2.attempts = s.attempts := by
  rcases flaky_cases (.insertDevice new) ch s with ⟨e, hp⟩ | ⟨ch', hp⟩
  · exact .inl ⟨e, hp⟩
  · rw [hp]
    rcases perform_insertDevice new ch' s with ⟨e, hp'⟩ | ⟨t, hp', hfresh, hmem⟩
    · exact .inl ⟨e, hp'⟩
    · rw [hp']
      exact .inr ⟨_, rfl, hfresh, ⟨_, (hmem _).2 (.inr rfl), rfl, rfl⟩, rfl⟩

variable {deviceId : String} {deviceModel : Option String} {choices : Nat → flaky.Choice}

theorem registerDevice_shape (hstep : a.currentStep = KEYCLOAK_USER_CREATED.text)
    (deviceId : String) (deviceModel : Option String) :
    ∃ k, RegistrationService.registerDevice ⟨a.id, deviceId, deviceModel⟩ =
        .await (.findAttempt a.id) k ∧
      (truthy? a.keycloakUserId = none → ∃ e, k (.ok (some a)) = .reject e) ∧
      ∀ userId, truthy? a.keycloakUserId = some userId → ∃ k',
        k (.ok (some a)) = .await (.insertDevice
          { userId := userId, deviceId := deviceId, deviceModel := deviceModel,
            trusted := false }) k' ∧
        (∀ e, Follows (fun _ (op : Op) => op.Keeps) (fun _ _ => True) [] (k' (.error e))) ∧
        ∀ d, k' (.ok d) = (do
          (RegistrationService.findOne a.id >>= fun updated =>
              call (.saveAttempt { updated with deviceProfileId := some d })).handle
            (RegistrationService.failed a.id DEVICE_REGISTERED)
          RegistrationOrchestratorService.advance a.id DEVICE_REGISTERED) := by
  have hcheck : RegistrationService.requireStep a KEYCLOAK_USER_CREATED = pure () :=
    if_neg (not_not.2 hstep)
  refine ⟨_, rfl, fun hnone => ?_, fun userId huser => ?_⟩
  · change ∃ e, (RegistrationService.requireStep a KEYCLOAK_USER_CREATED >>= _) = Program.reject e
    rw [hcheck, pure_bind, hnone]
    exact ⟨_, rfl⟩
  · change ∃ k', (RegistrationService.requireStep a KEYCLOAK_USER_CREATED >>= _) =
      Program.await _ k' ∧ _
    rw [hcheck, pure_bind, huser]
    refine ⟨_, rfl, fun e => ?_, fun d => rfl⟩
    exact Follows.andThen (follows_keepsFailed a.id (by decide) e)
      fun own _ => follows_keepsAdvance _ _

theorem registerDevice_undone (hnamed : NamesStored s a) (ha : a ∈ s.attempts)
    (hlive : a.deletedAt = none) (hread : ∃ ch, choices 0 = .ok ch)
    (hstep : a.currentStep = KEYCLOAK_USER_CREATED.text) :
    Undone s ((RegistrationService.registerDevice ⟨a.id, deviceId, deviceModel⟩).exec flaky
        choices s).state ↔
      ¬ CreatesDevice s a ⟨a.id, deviceId, deviceModel⟩ choices := by
  rcases hread with ⟨ch, hch⟩
  have hfirst : flaky.perform (.findAttempt a.id) (choices 0) s = (.ok (some a), s) := by
    rw [hch]
    exact flaky_findAttempt ha hlive ch
  rcases registerDevice_shape hstep deviceId deviceModel with ⟨k, hp, hnone, hsome⟩
  rw [hp, Program.exec_await_state, hfirst]
  -- The attempt names no user, and `registerDevice` throws.
  cases huser : truthy? a.keycloakUserId with
  | none =>
      rcases hnone huser with ⟨e, hk⟩
      rw [hk]
      refine ⟨fun _ hcreates => ?_, fun _ => undone_of_view rfl⟩
      rcases hcreates with ⟨userId, _, hsome, _⟩
      rw [huser] at hsome
      cases hsome
  | some userId =>
      rcases hsome userId huser with ⟨k', hk, herror, hok⟩
      rw [hk, Program.exec_await_state]
      change Undone s (Program.exec flaky (k' (flaky.perform (.insertDevice
        ⟨userId, deviceId, deviceModel, false⟩) (choices 1) s).1) (fun n => choices (n + 2))
        (flaky.perform (.insertDevice ⟨userId, deviceId, deviceModel, false⟩)
          (choices 1) s).2).state ↔ _
      -- The insert fails, or the device it leaves is never taken away again.
      rcases flaky_insertDevice ⟨userId, deviceId, deviceModel, false⟩ (choices 1) s with
        ⟨e, hinsert⟩ | ⟨d, hinsert, hfresh, hdevice, hattempts⟩
      · have hkept := (herror e).exec_kept (B := flaky) Store.view
          (fun op hop ch m => keeps_view hop ch m) (fun n => choices (n + 2)) s
        rw [hinsert]
        refine ⟨fun _ hcreates => ?_, fun _ => undone_of_view hkept⟩
        rcases hcreates with ⟨userId', d, huser', hdone⟩
        have hsame : userId' = userId := Option.some.inj (huser'.symm.trans huser)
        rw [hsame, hinsert] at hdone
        cases hdone
      · have hunnamed : Unnamed a.id d (flaky.perform (.insertDevice
            ⟨userId, deviceId, deviceModel, false⟩) (choices 1) s).2 := by
          refine ⟨hdevice, fun x hx hid hxd => ?_⟩
          rw [hattempts] at hx
          rw [Sql.Table.eq_of_id hx ha hid] at hxd
          rcases hnamed d hxd with ⟨row, hrow, hrowId⟩
          exact hfresh row hrow hrowId
        rcases (inserted_stays hunnamed).exec fun n => choices (n + 2) with
          ⟨row, hrow, hrowId, hrowLive⟩
        rw [hinsert, hok]
        refine ⟨fun hundone => ?_, fun hnot => absurd ⟨userId, d, huser, hinsert⟩ hnot⟩
        refine absurd hrowLive (hundone.devices row hrow fun e he hid => ?_)
        exact hfresh e he (hid.trans hrowId)

end Device

/-! ## The condition -/

/-- In any reachable state, let a `createCredentials` or a `registerDevice` on a live attempt run
alone and throw after its step check, wherever it fails and whether its rollback succeeds or not.
What it has created is disabled or soft-deleted exactly when it has created nothing. -/
theorem compensation_undoes_iff (config : OtpConfig) (s₀ : Store) (hinit : ∀ a, a ∉ s₀.attempts)
    (as : List (Action (flakyService config))) (a : RegistrationAttempt)
    (choices : Nat → flaky.Choice) :
    let s := ((Config.initial (flakyService config) s₀).run as).state
    a ∈ s.attempts → a.deletedAt = none → (∃ ch, choices 0 = .ok ch) →
    (∀ password error, a.currentStep = OTP_VERIFIED.text ∨ a.currentStep = CREDENTIALS_SET.text →
      let run := (RegistrationService.createCredentials ⟨a.id, password⟩).exec flaky choices s
      run.result = .error error → (Undone s run.state ↔ ¬ CreatesUser s a password choices)) ∧
    ∀ deviceId deviceModel error, a.currentStep = KEYCLOAK_USER_CREATED.text →
      let run := (RegistrationService.registerDevice ⟨a.id, deviceId, deviceModel⟩).exec flaky
        choices s
      run.result = .error error →
        (Undone s run.state ↔ ¬ CreatesDevice s a ⟨a.id, deviceId, deviceModel⟩ choices) := by
  intro s ha hlive hread
  refine ⟨fun password error hstep => ?_, fun deviceId deviceModel error hstep => ?_⟩
  · intro run _
    rcases hstep with hverified | hset
    · exact firstCall_undone ha hlive hread hverified
    · exact retry_undone ha hlive hread hset
  · intro run _
    exact registerDevice_undone (names_stored config s₀ hinit as a ha) ha hlive hread hstep

/-- A run in which the connection never breaks. -/
def steady (as : List (Action (service config))) : List (Action (flakyService config)) :=
  as.map fun action =>
    match action with
    | .start r => .start r
    | .resume i ch => .resume i (.ok ch)

/-- The operation number `n` fails, and nothing else. -/
def failsAt (n : Nat) (freshId : String) : Nat → flaky.Choice :=
  fun k => if k = n then .ok (.failing "503 Service Unavailable") else .ok (.smooth freshId)

/-- The state of a registration after its first `n` moves. -/
def registeredUpTo (n : Nat) : Store :=
  ((Config.initial (flakyService sampleConfig) freshStore).run
    (steady (fullRegistration.take n))).state

/-- A `createCredentials` that cannot get a token has created nothing. -/
theorem compensation_undoes_iff_failingToken :
    Undone (registeredUpTo 9) ((RegistrationService.createCredentials ⟨"attempt-1", "secret"⟩).exec
      flaky (failsAt 3 "user-1") (registeredUpTo 9)).state := by
  refine ((compensation_undoes_iff sampleConfig freshStore (fun _ ha => by cases ha)
    (steady (fullRegistration.take 9)) (attemptAt .OTP_VERIFIED none none) (failsAt 3 "user-1")
    (by decide) rfl ⟨_, rfl⟩).1 "secret" (.httpFailed "503 Service Unavailable") (.inl rfl)
    (by decide)).2 fun hcreates => ?_
  have hstep : (attemptAt .OTP_VERIFIED none none).currentStep = OTP_VERIFIED.text := rfl
  rw [CreatesUser, if_pos hstep] at hcreates
  exact absurd hcreates.2.2.1 (by decide)

instance (s s' : Store) : Decidable (Undone s s') :=
  decidable_of_iff
    ((∀ u ∈ s'.realm.users, (∀ v ∈ s.realm.users, v.id ≠ u.id) → u.enabled = false) ∧
      ∀ d ∈ s'.devices, (∀ e ∈ s.devices, e.id ≠ d.id) → d.deletedAt ≠ none)
    ⟨fun h => ⟨h.1, h.2⟩, fun h => ⟨h.users, h.devices⟩⟩

/-- A `createCredentials` that fails to set the password leaves its user enabled; a `registerDevice`
that fails to store the id of its device leaves the device live. -/
theorem left_behind :
    (let s := registeredUpTo 9
      let run := (RegistrationService.createCredentials ⟨"attempt-1", "secret"⟩).exec flaky
        (failsAt 5 "user-1") s
      run.result = .error (.httpFailed "503 Service Unavailable") ∧ ¬ Undone s run.state) ∧
    (let s := registeredUpTo 23
      let run := (RegistrationService.registerDevice ⟨"attempt-1", "phone-1", none⟩).exec flaky
        (failsAt 3 "device-1") s
      run.result = .error (.queryFailed "503 Service Unavailable") ∧ ¬ Undone s run.state) := by
  decide

end Auth
end IdentityBillpay
