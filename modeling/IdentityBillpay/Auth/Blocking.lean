import IdentityBillpay.Async.Serial
import IdentityBillpay.Auth.Recovery
import IdentityBillpay.Keycloak.Calls

/-!
# Blocking — attempts that nothing completes

An attempt whose number Keycloak has given away before the attempt had its user, or that is past the
creation of its user and names none, goes no further: requests that are answered one after the other
leave it as it is, whatever they ask for and whatever fails.

* `Blocked`, `Stuck` — the two ways to be blocked;
* `stuck_perform` — what an operation must not save;
* `blocked_stays` — the law.
-/

namespace IdentityBillpay
namespace Auth

open Async Keycloak RegistrationStep
open Async.Program (Follows)
open RegistrationService (customer)

variable {config : OtpConfig}

/-! ## Blocked attempts -/

/-- A user of Keycloak has the name. -/
def Taken (username : String) (s : Store) : Prop :=
  ∃ u ∈ s.realm.users, u.username = username

instance (username : String) (s : Store) : Decidable (Taken username s) :=
  inferInstanceAs (Decidable (∃ u ∈ s.realm.users, u.username = username))

/-- The attempt has no user yet and Keycloak has given its number away, or it is past the creation
of its user and names none. -/
def Blocked (s : Store) (a : RegistrationAttempt) : Prop :=
  (indexOf a.currentStep < indexOf KEYCLOAK_USER_CREATED.text ∧ Taken a.mobileNumber s) ∨
    (a.currentStep = KEYCLOAK_USER_CREATED.text ∧ truthy? a.keycloakUserId = none)

instance (s : Store) (a : RegistrationAttempt) : Decidable (Blocked s a) :=
  inferInstanceAs (Decidable ((_ ∧ Taken _ _) ∨ _))

/-- The attempt with this id is stored, and blocked. -/
def Stuck (id : String) (s : Store) : Prop :=
  ∃ a ∈ s.attempts, a.id = id ∧ Blocked s a

section Blocking

variable {s s' : Store} {a a' : RegistrationAttempt} {id : String}

theorem Blocked.transfer (h : Blocked s a) (hstep : a'.currentStep = a.currentStep)
    (hmobile : a'.mobileNumber = a.mobileNumber) (huser : a'.keycloakUserId = a.keycloakUserId)
    (husers : ∀ u ∈ s.realm.users, ∃ u' ∈ s'.realm.users, u'.username = u.username) :
    Blocked s' a' := by
  unfold Blocked
  rw [hstep, hmobile, huser]
  rcases h with ⟨hbefore, ⟨u, hu, hname⟩⟩ | hlost
  · rcases husers u hu with ⟨u', hu', hsame⟩
    exact .inl ⟨hbefore, u', hu', hsame.trans hname⟩
  · exact .inr hlost

/-- The users and their names are there after any operation. -/
theorem perform_users (op : Op) (ch : Choice) (s : Store) :
    s.realm.KeepsUsers ch.freshId (perform op ch s).2.realm := by
  by_cases hcall : ∃ call, op = .keycloak call
  · rcases hcall with ⟨call, rfl⟩
    exact perform_keepsUsers call ch.toChoice s.realm
  · refine keepsUsers_of_eq (congrArg Realm.users (perform_realm_eq (fun hpart => hcall ?_) ch s))
    cases op with
    | keycloak call => exact ⟨call, rfl⟩
    | _ => simp [Op.part] at hpart

theorem Blocked.after (h : Blocked s a) (op : Op) (ch : Choice) :
    Blocked (perform op ch s).2 a := by
  refine h.transfer rfl rfl rfl fun u hu => ?_
  rcases (perform_users op ch s).kept u hu with ⟨u', hu', _, hname⟩
  exact ⟨u', hu', hname⟩

/-- Any row with the id of a stuck attempt is the blocked one. -/
theorem Stuck.blocked (h : Stuck id s) (ha : a ∈ s.attempts) (hid : a.id = id) : Blocked s a := by
  rcases h with ⟨b, hb, hbid, hblocked⟩
  have hba : b = a := Sql.Table.eq_of_id hb ha (hbid.trans hid.symm)
  exact hba ▸ hblocked

/-- An operation that does not save the blocked attempt unblocked leaves it blocked. -/
theorem stuck_perform {op : Op} (ch : Choice) (h : Stuck id s)
    (hsave : ∀ saved, op = .saveAttempt saved → saved.id = id → Blocked s saved) :
    Stuck id (perform op ch s).2 := by
  rcases h with ⟨a, ha, hid, hblocked⟩
  have hafter := hblocked.after op ch
  rcases perform_attempts_cases op ch s with
    hsame | ⟨new, _, _, _, hmem⟩ | ⟨saved, rfl, _, hmem⟩ | ⟨deleted, _, hmem⟩
  · exact ⟨a, by rw [hsame]; exact ha, hid, hafter⟩
  · exact ⟨a, (hmem a).2 (.inl ha), hid, hafter⟩
  · by_cases hsaved : saved.id = id
    · refine ⟨saved, (hmem saved).2 (.inl rfl), hsaved, ?_⟩
      exact (hsave saved rfl hsaved).after _ ch
    · exact ⟨a, (hmem a).2 (.inr ⟨ha, fun heq => hsaved (heq.symm.trans hid)⟩), hid, hafter⟩
  · refine ⟨_, (hmem _).2 ⟨a, ha, rfl⟩, ?_, ?_⟩
    · split
      · exact hid
      · exact hid
    · split
      · exact hafter.transfer rfl rfl rfl fun u hu => ⟨u, hu, rfl⟩
      · exact hafter

/-! ### Programs that save no attempt -/

def Op.Unsaving (op : Op) : Prop :=
  ∀ saved, op ≠ .saveAttempt saved

theorem unsaving_stuck {α : Type} {own : Own} {p : Prog α} {R : Own → Except HttpError α → Prop}
    (hp : Follows (fun _ (op : Op) => op.Unsaving) R own p) (h : Stuck id s) :
    Ensures backend (fun _ => True) (fun s' _ => Stuck id s') s p := by
  refine Ensures.weaken (I := Stuck id) (ensures_kept hp ?_ h) fun _ _ => trivial
  exact fun op ch s hop hs => stuck_perform ch hs fun saved heq => absurd heq (hop saved)

theorem follows_unsavingHttp (own : Own) (op : KeycloakOp) :
    Follows (fun _ (op : Op) => op.Unsaving) (fun _ _ => True) own (http op) := by
  refine ⟨fun saved heq => ?_, fun r => Program.follows_settled.2 trivial⟩
  cases heq

theorem follows_unsavingCall {own : Own} {op : Op} (hop : op.Unsaving) :
    Follows (fun _ (op : Op) => op.Unsaving) (fun _ _ => True) own (call op) :=
  Program.follows_call hop

theorem follows_unsavingRollback (own : Own) (attemptId : String) (atStep : RegistrationStep) :
    Follows (fun _ (op : Op) => op.Unsaving) (fun _ _ => True) own
      (RegistrationCompensationService.rollback attemptId atStep) := by
  refine (follows_unsavingCall fun _ heq => by cases heq).andThen fun own found => ?_
  cases (found : Option RegistrationAttempt) with
  | none => trivial
  | some attempt =>
      dsimp only
      split
      · split
        · refine Follows.orElse (Follows.andThen ?_ fun own _ =>
            follows_unsavingCall fun _ heq => by cases heq) fun _ _ => trivial
          refine (follows_unsavingCall fun _ heq => by cases heq).andThen fun own device => ?_
          cases (device : Option DeviceProfile) with
          | none => trivial
          | some device => trivial
        · trivial
      · split
        · exact Follows.orElse (follows_disableUser own follows_unsavingHttp _) fun _ _ => trivial
        · trivial
      · split
        · refine Follows.orElse ?_ fun _ _ => trivial
          refine (follows_unsavingCall fun _ heq => by cases heq).andThen fun own credential => ?_
          cases (credential : Option Credential) with
          | none => trivial
          | some credential => exact follows_unsavingCall fun _ heq => by cases heq
        · trivial
      · trivial

theorem follows_unsavingVerify (own : Own) (dto : VerifyOtpDto) :
    Follows (fun _ (op : Op) => op.Unsaving) (fun _ _ => True) own
      (OtpService.verify config dto) := by
  have hverify := (@OtpService.follows_verify config dto).prepend own
  rw [List.append_nil] at hverify
  refine hverify.mono ?_ fun _ _ _ => trivial
  rintro own op ⟨rest, _, hop⟩ saved rfl
  cases hop

/-- An attempt that is read is stored. -/
theorem findAttempt_reads {α : Type} {id' : String} {f : Option RegistrationAttempt → Prog α}
    {Q : Store → Except HttpError α → Prop} (hnone : Ensures backend (fun _ => True) Q s (f none))
    (hsome : ∀ x ∈ s.attempts, x.id = id' → Ensures backend (fun _ => True) Q s (f (some x))) :
    Ensures backend (fun _ => True) Q s (call (.findAttempt id') >>= f) := by
  refine ensures_call_bind (fun _ => trivial) (fun ch e he => by cases he) fun ch found hfound => ?_
  cases hfound' : (found : Option RegistrationAttempt) with
  | none => exact hnone
  | some x =>
      have hread : .ok (some x) = (perform (.findAttempt id') ch s).1 := by
        rw [← hfound']
        exact hfound.symm
      have hx := findAttempt_some hread
      exact hsome x hx.1 hx.2.1

end Blocking

/-! ### Programs that save one -/

section Requests

variable {s : Store} {id : String}

/-- What a request leaves of a stuck attempt. -/
abbrev KeepsStuck {α : Type} (id : String) (s : Store) (p : Prog α) : Prop :=
  Ensures backend (fun _ => True) (fun s' _ => Stuck id s') s p

theorem saveAttempt_keepsStuck (saved : RegistrationAttempt) (h : Stuck id s)
    (hsave : saved.id = id → Blocked s saved) :
    KeepsStuck id s (call (.saveAttempt saved)) := by
  have hkept : ∀ ch, Stuck id (perform (.saveAttempt saved) ch s).2 := by
    refine fun ch => stuck_perform ch h fun saved' heq => ?_
    cases heq
    exact hsave
  intro ch
  exact ⟨trivial, ensures_settled.2 (hkept ch)⟩

theorem index_before {toStep : RegistrationStep} (hne : toStep ≠ KEYCLOAK_USER_CREATED)
    (hle : indexOf toStep.text ≤ indexOf KEYCLOAK_USER_CREATED.text) :
    indexOf toStep.text < indexOf KEYCLOAK_USER_CREATED.text := by
  revert hne hle
  cases toStep <;> decide

theorem step_after_created {toStep : RegistrationStep}
    (hnext : indexOf toStep.text = indexOf KEYCLOAK_USER_CREATED.text + 1) :
    toStep = DEVICE_REGISTERED := by
  revert hnext
  cases toStep <;> decide

/-- Only the two steps that follow the creation of the user and of the device get an attempt on that
was blocked. -/
theorem advance_keepsStuck (id' : String) (toStep : RegistrationStep) (h : Stuck id s)
    (hstep : id' = id → toStep ≠ KEYCLOAK_USER_CREATED ∧ toStep ≠ DEVICE_REGISTERED) :
    KeepsStuck id s (RegistrationOrchestratorService.advance id' toStep) := by
  refine findAttempt_reads h fun x hx hid => ?_
  dsimp only
  split
  · exact h
  · rename_i hnext
    refine (saveAttempt_keepsStuck _ h ?_).bind (fun _ _ hs => hs) fun _ _ hs => hs
    intro hxid
    have hallowed := hstep (hid.symm.trans hxid)
    have hindex : indexOf toStep.text = indexOf x.currentStep + 1 := not_not.1 hnext
    rcases h.blocked hx hxid with ⟨hbefore, htaken⟩ | ⟨hcreated, _⟩
    · exact .inl ⟨index_before hallowed.1 (by omega), htaken⟩
    · rw [hcreated] at hindex
      exact absurd (step_after_created hindex) hallowed.2

/-- A failed step notes its reason, rolls back, and fails. -/
theorem failed_keepsStuck (id' : String) (atStep : RegistrationStep) (error : HttpError)
    (h : Stuck id s) :
    Ensures backend (fun _ => True) (fun s' r => Stuck id s' ∧ ∃ e, r = .error e) s
      (RegistrationService.failed id' atStep error) := by
  have hrollback : ∀ s', Stuck id s' →
      KeepsStuck id s' (RegistrationCompensationService.rollback id' atStep) :=
    fun s' hs => unsaving_stuck (follows_unsavingRollback [] id' atStep) hs
  have hfail : KeepsStuck id s (RegistrationOrchestratorService.fail id' atStep error.message) := by
    refine findAttempt_reads (hrollback s h) fun x hx hid => ?_
    refine (saveAttempt_keepsStuck _ h ?_).bind (fun s' _ hs => hrollback s' hs) fun _ _ hs => hs
    exact fun hxid => (h.blocked hx hxid).transfer rfl rfl rfl fun u hu => ⟨u, hu, rfl⟩
  exact hfail.bind (fun _ _ hs => ⟨hs, error, rfl⟩) fun _ e hs => ⟨hs, e, rfl⟩

theorem try_keepsStuck {p : Prog Unit} (hp : KeepsStuck id s p) (id' : String)
    (atStep : RegistrationStep) :
    KeepsStuck id s (p.handle (RegistrationService.failed id' atStep)) :=
  hp.handle (fun _ _ hs => hs) fun _ e hs =>
    (failed_keepsStuck id' atStep e hs).mono fun _ _ hs' => hs'.1

/-- The end of both `try` blocks, on another attempt. -/
theorem update_keepsStuck {id' : String} {f : RegistrationAttempt → RegistrationAttempt}
    (hf : ∀ x, (f x).id = x.id) (hne : id' ≠ id) (h : Stuck id s) :
    KeepsStuck id s
      (RegistrationService.findOne id' >>= fun updated => call (.saveAttempt (f updated))) := by
  have hread : Ensures backend (fun _ => True)
      (fun s' r => Stuck id s' ∧ ∀ x, r = .ok x → x.id = id') s
      (RegistrationService.findOne id') := by
    refine findAttempt_reads ⟨h, fun _ hx => by cases hx⟩ fun x _ hid => ⟨h, fun y hy => ?_⟩
    cases hy
    exact hid
  refine hread.bind (fun s' x hs => ?_) fun _ _ hs => hs.1
  refine saveAttempt_keepsStuck _ hs.1 fun hsaved => ?_
  exact absurd ((hs.2 x rfl).symm.trans ((hf x).symm.trans hsaved)) hne

/-- A number that is taken ends `provision` before it saves anything. -/
theorem provision_keepsStuck (dto : CreateCredentialsDto) (mobileNumber : String) (h : Stuck id s)
    (htaken : dto.attemptId = id → Taken mobileNumber s) :
    Ensures backend (fun _ => True)
      (fun s' r => Stuck id s' ∧ (dto.attemptId = id → ∃ e, r = .error e)) s
      (RegistrationService.provision dto mobileNumber) := by
  have hcreate : KeepsStuck id s (createUser http (customer mobileNumber dto.password)) :=
    unsaving_stuck (follows_createUser [] follows_unsavingHttp _) h
  by_cases hid : dto.attemptId = id
  · have hrefused := createUser_refused (customer mobileNumber dto.password) (htaken hid)
    refine ((hcreate.and hrefused).weaken fun _ _ => trivial).bind ?_
      fun s' e hs => ⟨hs.1, fun _ => ⟨e, rfl⟩⟩
    rintro s' userId ⟨_, e, he⟩
    cases he
  · refine (hcreate.bind (fun s₁ userId h₁ => ?_) fun _ _ hs => hs).mono
      fun s' r hs => ⟨hs, fun heq => absurd heq hid⟩
    have hassign : Follows (fun _ (op : Op) => op.Unsaving) (fun _ _ => True) []
        (assignRealmRoleToUser http userId "RETAIL_CUSTOMER") :=
      follows_assignRealmRoleToUser [] (fun own op _ => follows_unsavingHttp own op) userId _
    refine (unsaving_stuck hassign h₁).bind (fun s₂ _ h₂ => ?_) fun _ _ hs => hs
    exact update_keepsStuck (f := fun updated => { updated with keycloakUserId := some userId })
      (fun _ => rfl) hid h₂

/-- A number that is taken stays taken. -/
theorem taken_kept {α : Type} {username : String} (p : Prog α) (h : Taken username s) :
    Ensures backend (fun _ => True) (fun s' _ => Taken username s') s p := by
  refine Ensures.weaken (I := Taken username)
    (ensures_kept (Program.follows_trivial [] p) ?_ h) fun _ _ => trivial
  rintro op ch s _ ⟨u, hu, rfl⟩
  rcases (perform_users op ch s).kept u hu with ⟨u', hu', _, hname⟩
  exact ⟨u', hu', hname⟩

/-- The row that a request on the stuck attempt reads is the blocked one. -/
theorem findOne_blocked (id' : String) (h : Stuck id s) :
    Ensures backend (fun _ => True)
      (fun s' r => s = s' ∧ ∀ x, r = .ok x → id' = id → Blocked s x) s
      (RegistrationService.findOne id') := by
  refine findAttempt_reads ⟨rfl, fun _ hx => by cases hx⟩ fun x hx hid => ⟨rfl, fun y hy heq => ?_⟩
  cases hy
  exact h.blocked hx (hid.trans heq)

theorem markCredentialsSet_keepsStuck (dto : CreateCredentialsDto) (attempt : RegistrationAttempt)
    (h : Stuck id s) : KeepsStuck id s (RegistrationService.markCredentialsSet dto attempt) := by
  unfold RegistrationService.markCredentialsSet
  split
  · exact (advance_keepsStuck _ _ h fun _ => ⟨by simp, by simp⟩).bind (fun _ _ hs => hs)
      fun _ _ hs => hs
  · exact h

theorem createCredentials_keepsStuck (dto : CreateCredentialsDto) (h : Stuck id s) :
    KeepsStuck id s (RegistrationService.createCredentials dto) := by
  refine (findOne_blocked dto.attemptId h).bind ?_ fun _ _ hs => hs.1 ▸ h
  rintro _ attempt ⟨rfl, hblocked⟩
  unfold RegistrationService.requireCredentialsStep
  split
  · exact h
  rename_i hstep
  rw [pure_bind]
  by_cases hid : dto.attemptId = id
  · -- The blocked attempt has been let through, so its number is taken.
    have htaken : Taken attempt.mobileNumber s := by
      rcases hblocked attempt rfl hid with ⟨_, htaken⟩ | ⟨hcreated, _⟩
      · exact htaken
      · rw [hcreated] at hstep
        exact absurd ⟨by decide, by decide⟩ hstep
    have hmark := (markCredentialsSet_keepsStuck dto attempt h).and
      (taken_kept (RegistrationService.markCredentialsSet dto attempt) htaken)
    refine (hmark.weaken fun _ _ => trivial).bind ?_ fun _ _ hs => hs.1
    rintro s₁ _ ⟨hs₁, htaken₁⟩
    have hprovision := provision_keepsStuck dto attempt.mobileNumber hs₁ fun _ => htaken₁
    have htry : Ensures backend (fun _ => True) (fun s' r => Stuck id s' ∧ ∃ e, r = .error e) s₁
        ((RegistrationService.provision dto attempt.mobileNumber).handle
          (RegistrationService.failed dto.attemptId CREDENTIALS_SET)) :=
      hprovision.handle (fun s₂ a hs => ⟨hs.1, hs.2 hid⟩)
        fun s₂ e hs => failed_keepsStuck _ _ e hs.1
    refine htry.bind ?_ fun _ _ hs => hs.1
    rintro s₂ a ⟨_, e, he⟩
    cases he
  · refine (markCredentialsSet_keepsStuck dto attempt h).bind ?_ fun _ _ hs => hs
    intro s₁ _ hs₁
    have hprovision := provision_keepsStuck dto attempt.mobileNumber hs₁ fun heq => absurd heq hid
    refine (try_keepsStuck (hprovision.mono fun _ _ hs => hs.1) _ _).bind ?_ fun _ _ hs => hs
    exact fun s₂ _ hs₂ => advance_keepsStuck _ _ hs₂ fun heq => absurd heq hid

theorem registerDevice_keepsStuck (dto : RegisterAttemptDeviceDto) (h : Stuck id s) :
    KeepsStuck id s (RegistrationService.registerDevice dto) := by
  refine (findOne_blocked dto.attemptId h).bind ?_ fun _ _ hs => hs.1 ▸ h
  rintro _ attempt ⟨rfl, hblocked⟩
  unfold RegistrationService.requireStep
  split
  · exact h
  rename_i hstep
  rw [pure_bind]
  have hstep := not_not.1 hstep
  cases huser : truthy? attempt.keycloakUserId with
  | none => exact h
  | some userId =>
      -- A blocked attempt has not come this far.
      have hid : dto.attemptId ≠ id := by
        intro hid
        rcases hblocked attempt rfl hid with ⟨hbefore, _⟩ | ⟨_, hlost⟩
        · rw [hstep] at hbefore
          exact absurd hbefore (Int.lt_irrefl _)
        · rw [huser] at hlost
          cases hlost
      have hlink : KeepsStuck id s (RegistrationService.linkDevice dto userId) := by
        have hcreate : Follows (fun _ (op : Op) => op.Unsaving) (fun _ _ => True) []
            (DeviceService.create ⟨userId, dto.deviceId, dto.deviceModel⟩) :=
          (follows_unsavingCall fun _ heq => by cases heq).andThen fun _ _ => trivial
        refine (unsaving_stuck hcreate h).bind (fun s₁ device h₁ => ?_) fun _ _ hs => hs
        exact update_keepsStuck
          (f := fun updated => { updated with deviceProfileId := some device.id }) (fun _ => rfl)
          hid h₁
      refine (try_keepsStuck hlink _ _).bind ?_ fun _ _ hs => hs
      exact fun s₂ _ hs₂ => advance_keepsStuck _ _ hs₂ fun heq => absurd heq hid

theorem findOne_keepsStuck (id' : String) (h : Stuck id s) :
    KeepsStuck id s (RegistrationService.findOne id') :=
  findAttempt_reads h fun _ _ _ => h

theorem requireStep_keepsStuck (attempt : RegistrationAttempt) (expected : RegistrationStep)
    (h : Stuck id s) : KeepsStuck id s (RegistrationService.requireStep attempt expected) := by
  unfold RegistrationService.requireStep
  split
  · exact h
  · exact h

/-- What the state is after a method, it is after its request. -/
theorem ensures_reply {B : Backend sig HttpError} {Q : B.State → Prop} {s : B.State} {α β : Type}
    {p : Prog α} (h : Ensures B (fun _ => True) (fun s' _ => Q s') s p) (f : α → β) :
    Ensures B (fun _ => True) (fun s' _ => Q s') s (p >>= fun a => pure (f a)) :=
  h.bind (fun _ _ hs => hs) fun _ _ hs => hs

theorem quiet_keepsStuck {r : Request} (h : Stuck id s)
    (hquiet : Follows (fun _ (op : Op) => op.Quiet) (fun _ _ => True) [] (program config r)) :
    KeepsStuck id s (program config r) := by
  refine unsaving_stuck (hquiet.mono ?_ fun _ _ _ => trivial) h
  rintro own op hop saved rfl
  exact hop.2

theorem program_keepsStuck (r : Request) (h : Stuck id s) : KeepsStuck id s (program config r) := by
  cases r with
  | createCredentials dto => exact ensures_reply (createCredentials_keepsStuck dto h) _
  | registerDevice dto => exact ensures_reply (registerDevice_keepsStuck dto h) _
  | verifyOtp dto =>
      refine ensures_reply ?_ _
      refine (findOne_keepsStuck _ h).bind (fun s₁ attempt h₁ => ?_) fun _ _ hs => hs
      refine (requireStep_keepsStuck _ _ h₁).bind (fun s₂ _ h₂ => ?_) fun _ _ hs => hs
      refine (unsaving_stuck (follows_unsavingVerify [] _) h₂).bind (fun s₃ _ h₃ => ?_)
        fun _ _ hs => hs
      exact advance_keepsStuck _ _ h₃ fun _ => ⟨by simp, by simp⟩
  | complete id' =>
      refine ensures_reply ?_ _
      refine (findOne_keepsStuck _ h).bind (fun s₁ attempt h₁ => ?_) fun _ _ hs => hs
      refine (requireStep_keepsStuck _ _ h₁).bind (fun s₂ _ h₂ => ?_) fun _ _ hs => hs
      exact ensures_reply (advance_keepsStuck _ _ h₂ fun _ => ⟨by simp, by simp⟩) _
  | otpVerify dto =>
      have hverify : KeepsStuck id s (OtpService.verify config dto) :=
        unsaving_stuck (follows_unsavingVerify [] dto) h
      exact ensures_reply hverify _
  | _ =>
      exact quiet_keepsStuck h
        (follows_quietRequest (by simp) (by simp) (by simp) (by simp) (by simp))

/-- Whatever is requested and whatever fails, a blocked attempt stays blocked. -/
theorem blocked_stays (h : Stuck id s) (calls : List (Call (service config))) :
    Stuck id ((service config).serve s calls) := by
  refine Service.serve_induction h (fun s c hs _ => ?_) (Service.complies_trivial s calls)
  exact (program_keepsStuck c.request hs).exec c.choices

end Requests

end Auth
end IdentityBillpay
