import IdentityBillpay.Auth.Provisioning

/-!
# Recovery — retrying `createCredentials`

An attempt that a failed `createCredentials` has left at `CREDENTIALS_SET` is retried by the same
request. Keycloak accepts a username once. So the retry succeeds as long as no user has the
attempt's number for a username; after a failure that came later than the creation of the user,
that user is still there.

* `Choice.Good` — an environment in which no call fails for a reason of its own;
* `createCredentials_recovers`, `createCredentials_refused` — the retry with a free and with a taken
  username;
* `retry_succeeds_iff` — the exact condition; `retry_refused` — a retry that fails.
-/

namespace IdentityBillpay
namespace Auth

open Async Keycloak RegistrationStep
open RegistrationService (customer)

variable {config : OtpConfig}

/-! ## Rows fit their columns -/

theorem RegistrationAttempt.fits_iff {a : RegistrationAttempt} :
    a.fits = true ↔ (a.failureReason.getD "").length ≤ 500 ∧
      (a.keycloakUserId.getD "").length ≤ 36 ∧ (a.deviceProfileId.getD "").length ≤ 36 := by
  simp [RegistrationAttempt.fits, and_assoc]

/-- Whatever is stored has been accepted by its columns. -/
theorem attempts_fit (config : OtpConfig) (s : Store) (hinit : ∀ a ∈ s.attempts, a.fits = true)
    (as : List (Action (service config))) :
    ∀ a ∈ ((Config.initial (service config) s).run as).state.attempts, a.fits = true := by
  refine Config.run_induction (V := service config)
    (I := fun h => ∀ a ∈ (h.state : Store).attempts, a.fits = true) (follows_program config)
    (fun _ _ _ hI => hI) ?_ hinit as (Config.meets_trivial _ as)
  intro h i r op ch _ hI _ _ _ x hx
  rcases perform_attempts_cases op ch h.state with
    hsame | ⟨new, rfl, _, _, hmem⟩ | ⟨saved, rfl, hdone, hmem⟩ | ⟨id, rfl, hmem⟩
  · rw [History.perform_state, service_perform, hsame] at hx
    exact hI x hx
  · rcases (hmem x).1 hx with hold | rfl
    · exact hI x hold
    · simp [NewAttempt.row, RegistrationAttempt.fits]
  · rcases (hmem x).1 hx with rfl | ⟨hold, _⟩
    · rcases perform_saveAttempt x ch h.state with ⟨e, hp⟩ | ⟨t, _, hfits, _⟩
      · rw [hp] at hdone
        cases hdone
      · exact hfits
    · exact hI x hold
  · rcases (hmem x).1 hx with ⟨a, ha, rfl⟩
    have hfits := hI a ha
    split
    · exact hfits
    · exact hfits

/-! ## A retry goes straight to its `try` block -/

section Retry

variable {dto : CreateCredentialsDto} {a : RegistrationAttempt}

theorem requireCredentialsStep_retry (hstep : a.currentStep = CREDENTIALS_SET.text) :
    RegistrationService.requireCredentialsStep dto a = pure () :=
  if_neg fun h => h.2 hstep

theorem markCredentialsSet_retry (hstep : a.currentStep = CREDENTIALS_SET.text) :
    RegistrationService.markCredentialsSet dto a = pure () := by
  refine if_neg ?_
  rw [hstep]
  decide

end Retry

/-! ## When nothing fails -/

/-- The operation is done and answered, Keycloak accepts it, and a new id is unused and short. -/
structure Choice.Good (s : Store) (ch : Choice) : Prop where
  done : ch.fails = false
  answered : ch.lost = false
  accepted : ch.refusal = none
  fresh : ∀ u ∈ s.realm.users, u.id ≠ ch.freshId
  short : ch.freshId.length ≤ 36

/-- The backend when nothing fails, as seen from the state `s`. -/
abbrev working (s : Store) : Backend sig HttpError :=
  backend.restrict (Choice.Good s)

section Working

variable {s₀ s : Store}

/-- A call that Keycloak can carry out is carried out and answered. -/
theorem http_ensures {op : KeycloakOp} {a : op.Res} {r' : Realm}
    {Q : Store → Except HttpError op.Res → Prop}
    (hop : ∀ ch : Choice, s.realm.perform op ch.toChoice =
      Keycloak.request ch.toChoice s.realm (some (a, r')))
    (hQ : Q { s with realm := r' } (.ok a)) :
    Ensures (working s₀) (fun _ => True) Q s (http op) := by
  intro ch
  have hperform : perform (.keycloak op) ch.1 s = (.ok a, { s with realm := r' }) := by
    simp only [perform, hop, Keycloak.request, ch.2.done, ch.2.answered]
    rfl
  refine ⟨trivial, ensures_settled.2 ?_⟩
  change Q (perform (.keycloak op) ch.1 s).2 (perform (.keycloak op) ch.1 s).1
  rw [hperform]
  exact hQ

/-- The token is always there. -/
theorem token_ensures {Q : Store → Except HttpError Unit → Prop} (hQ : Q s (.ok ())) :
    Ensures (working s₀) (fun _ => True) Q s (http .postAdminToken) :=
  @http_ensures s₀ s .postAdminToken () s.realm Q (fun _ => rfl) hQ

/-- Users that `s` has after a call that only changes columns of one of them. -/
theorem updateUser_some {r : Realm} {userId : String} {u : KeycloakUser}
    {f : KeycloakUser → KeycloakUser} (hid : ∀ u, (f u).id = u.id)
    (hname : ∀ u, (f u).username = u.username) (hu : u ∈ r.users) (huid : u.id = userId) :
    ∃ r', updateUser r userId f hid hname = some ((), r') ∧ f u ∈ r'.users ∧ r'.roles = r.roles := by
  refine ⟨_, if_pos ⟨u, hu, huid⟩, ?_, rfl⟩
  exact (Sql.Table.mem_modify hid hname).2 ⟨u, hu, by simp [huid]⟩

/-- The user `userId` exists in `s`, which has the roles and the attempts of `s'`. -/
structure HasUser (userId : String) (s' s : Store) : Prop where
  exists_user : ∃ u ∈ s.realm.users, u.id = userId
  roles : s.realm.roles = s'.realm.roles
  attempts : s.attempts = s'.attempts

theorem setUserPassword_ensures {userId password : String} {s' : Store}
    (huser : HasUser userId s' s) :
    Ensures (working s₀) (fun _ => True) (fun s'' r => r = .ok () ∧ HasUser userId s' s'') s
      (setUserPassword http userId password) := by
  rcases huser.exists_user with ⟨u, hu, hid⟩
  rcases updateUser_some (f := fun u => { u with password := some password }) (fun _ => rfl)
    (fun _ => rfl) hu hid with ⟨r', hupdate, hmem, hroles⟩
  refine @http_ensures s₀ s (.putPassword userId password) () r' _ (fun ch => ?_) ?_
  · rw [Realm.perform, hupdate]
  · exact ⟨rfl, ⟨_, hmem, hid⟩, hroles.trans huser.roles, huser.attempts⟩

theorem assignRealmRole_ensures {userId roleName : String} {s' : Store}
    (huser : HasUser userId s' s) (hrole : ∃ role ∈ s'.realm.roles, role.name = roleName) :
    Ensures (working s₀) (fun _ => True) (fun s'' r => r = .ok () ∧ HasUser userId s' s'') s
      (assignRealmRoleToUser http userId roleName) := by
  refine (token_ensures (Q := fun s'' r => r = .ok () ∧ s'' = s) ⟨rfl, rfl⟩).bind ?_
    fun s₁ e h => by cases h.1
  rintro s₁ _ ⟨_, rfl⟩
  rcases hrole with ⟨role, hmem, hname⟩
  rw [← huser.roles] at hmem
  cases hfound : s₁.realm.roles.findOne (fun role => role.name == roleName) 0 with
  | none =>
      have hmiss := Sql.Table.findOne_eq_none.1 hfound role hmem
      simp [hname] at hmiss
  | some role =>
      have hget : Ensures (working s₀) (fun _ => True) (fun s'' r => r = .ok role ∧ s'' = s₁) s₁
          (http (.getRole roleName)) := by
        refine @http_ensures s₀ s₁ (.getRole roleName) role s₁.realm _ (fun ch => ?_) ⟨rfl, rfl⟩
        rw [Realm.perform, hfound]
        rfl
      refine hget.bind ?_ fun s₂ e h => by cases h.1
      rintro s₂ a ⟨ha, rfl⟩
      cases ha
      rcases huser.exists_user with ⟨u, hu, hid⟩
      rcases updateUser_some
        (f := fun u => { u with realmRoles := u.realmRoles.filter (·.id ≠ role.id) ++ [role] })
        (fun _ => rfl) (fun _ => rfl) hu hid with ⟨r', hupdate, hmem', hroles⟩
      refine @http_ensures s₀ s₂ (.postRoleMapping userId role) () r' _ (fun ch => ?_) ?_
      · rw [Realm.perform, hupdate]
      · exact ⟨rfl, ⟨_, hmem', hid⟩, hroles.trans huser.roles, huser.attempts⟩

/-! ### Creating the user -/

/-- The id of a user just created, whether the answer names it or not. -/
theorem createdUserId_ensures (payload : CreateUserPayload) {userId : String}
    (location : Option (List String)) {s' : Store} (huser : HasUser userId s' s)
    (hname : ∃ u ∈ s.realm.users, u.username = payload.username)
    (honly : ∀ u ∈ s.realm.users, u.username = payload.username → u.id = userId) :
    Ensures (working s₀) (fun _ => True) (fun s'' r => r = .ok userId ∧ HasUser userId s' s'') s
      (createdUserId http payload ⟨201, none, location.map fun path => path ++ [userId]⟩) := by
  have hresponse : CreateUserResponse.userId?
      ⟨201, none, location.map fun path => path ++ [userId]⟩ = none ∨
      CreateUserResponse.userId? ⟨201, none, location.map fun path => path ++ [userId]⟩ =
        some userId := by
    cases location with
    | none => exact .inl rfl
    | some path => simpa [CreateUserResponse.userId?] using em (userId = "")
  unfold createdUserId
  -- Without a usable `Location` the user is looked up by its name.
  rcases hresponse with hid | hid
  · rw [hid]
    have hfound : Ensures (working s₀) (fun _ => True)
        (fun s'' r => r = .ok (s.realm.users.find fun u => u.username == payload.username) ∧
          s'' = s) s (findUsersByUsername http payload.username) := by
      refine (token_ensures (Q := fun s'' r => r = .ok () ∧ s'' = s) ⟨rfl, rfl⟩).bind ?_
        fun s₁ e h => by cases h.1
      rintro s₁ _ ⟨_, rfl⟩
      exact @http_ensures s₀ s₁ (.getUsers payload.username) _ s₁.realm _ (fun _ => rfl) ⟨rfl, rfl⟩
    refine hfound.bind ?_ fun s₁ e h => by cases h.1
    rintro s₁ users ⟨husers, rfl⟩
    have husers : users = s₁.realm.users.find fun u => u.username == payload.username :=
      Except.ok.inj husers
    -- The new user is among those that are found, and is the only one of its name.
    cases hlist : users with
    | nil =>
        rcases hname with ⟨u, hu, hname⟩
        have hmem : u ∈ users := husers ▸ Sql.Table.mem_find.2 ⟨hu, by simp [hname]⟩
        simp [hlist] at hmem
    | cons user rest =>
        have hmem : user ∈ users := by simp [hlist]
        rw [husers, Sql.Table.mem_find] at hmem
        have hid : user.id = userId := honly user hmem.1 (by simpa using hmem.2)
        exact ⟨congrArg Except.ok hid, huser⟩
  · rw [hid]
    exact ⟨rfl, huser⟩

/-- A user with a free username is created, and gets its password. -/
theorem createUser_ensures (payload : CreateUserPayload) (hrealm : s.realm = s₀.realm)
    (hfree : ∀ u ∈ s.realm.users, u.username ≠ payload.username) :
    Ensures (working s₀) (fun _ => True)
      (fun s' r => ∃ userId, r = .ok userId ∧ userId.length ≤ 36 ∧ HasUser userId s s') s
      (createUser http payload) := by
  refine (token_ensures (Q := fun s'' r => r = .ok () ∧ s'' = s) ⟨rfl, rfl⟩).bind ?_
    fun s₁ e h => by cases h.1
  rintro s₁ _ ⟨_, rfl⟩
  -- The realm takes the user: its name is free, and its id is new.
  have hcreated : ∀ ch : (working s₀).Choice, ∃ t,
      (working s₀).perform (.keycloak (.postUser payload.representation)) ch s₁ =
        (.ok ⟨201, none, ch.1.location.map fun path => path ++ [ch.1.freshId]⟩,
          { s₁ with realm := { s₁.realm with users := t } }) ∧
      ∀ x, x ∈ t ↔ x ∈ s₁.realm.users ∨ x = payload.representation.created ch.1.freshId := by
    intro ch
    have hcreates : s₁.realm.Creates payload.representation ch.1.toChoice :=
      ⟨ch.2.accepted, fun u hu => ⟨ch.2.fresh u (hrealm ▸ hu), hfree u hu⟩⟩
    rcases postUser_created hcreates with ⟨t, hpost, hmem⟩
    refine ⟨t, ?_, hmem⟩
    simp only [perform, Realm.perform, hpost, Keycloak.request, ch.2.done, ch.2.answered]
    rfl
  refine ensures_call_bind (fun _ => trivial) ?_ ?_
  · intro ch e he
    rcases hcreated ch with ⟨t, hp, _⟩
    rw [hp] at he
    cases he
  · intro ch response hresponse
    rcases hcreated ch with ⟨t, hp, hmem⟩
    rw [hp] at hresponse ⊢
    cases hresponse
    have huser : HasUser ch.1.freshId s₁ { s₁ with realm := { s₁.realm with users := t } } :=
      ⟨⟨_, (hmem _).2 (.inr rfl), rfl⟩, rfl, rfl⟩
    have hid := @createdUserId_ensures s₀ _ payload _ ch.1.location _ huser
      ⟨_, (hmem _).2 (.inr rfl), rfl⟩ ?_
    · refine hid.bind ?_ fun s₂ e h => by cases h.1
      rintro s₂ userId ⟨huserId, huser₂⟩
      cases huserId
      -- The password is set.
      refine (setUserPassword_ensures huser₂).bind ?_ fun s₃ e h => by cases h.1
      rintro s₃ _ ⟨_, huser₃⟩
      exact ⟨ch.1.freshId, rfl, ch.2.short, huser₃⟩
    · intro u hu hname
      rcases (hmem u).1 hu with hold | rfl
      · exact absurd hname (hfree u hold)
      · rfl

/-! ### Reading and saving the attempt -/

variable {a : RegistrationAttempt}

theorem findAttempt_stored (ha : a ∈ s.attempts) (hlive : a.deletedAt = none) (ch : Choice) :
    perform (.findAttempt a.id) ch s = (.ok (some a), s) := by
  have hfound : s.attempts.findOne (fun x => x.id == a.id && x.deletedAt.isNone) ch.pick =
      some a := by
    refine Sql.Table.findOne_of_unique ch.pick ha (by simp [hlive]) fun x hx hxid => ?_
    exact Sql.Table.eq_of_id hx ha (by simpa using (Bool.and_eq_true_iff.1 hxid).1)
  rw [perform, hfound]

theorem findOne_recovers (ha : a ∈ s.attempts) (hlive : a.deletedAt = none) :
    Ensures (working s₀) (fun _ => True) (fun s' r => r = .ok a ∧ s' = s) s
      (RegistrationService.findOne a.id) := by
  have hread : ∀ ch : (working s₀).Choice,
      (working s₀).perform (.findAttempt a.id) ch s = (.ok (some a), s) :=
    fun ch => findAttempt_stored ha hlive ch.1
  refine ensures_call_bind (fun _ => trivial) ?_ ?_
  · intro ch e he
    rw [hread] at he
    cases he
  · intro ch found hfound
    rw [hread] at hfound ⊢
    cases hfound
    exact ⟨rfl, rfl⟩

theorem saveAttempt_recovers (saved : RegistrationAttempt) (ha : a ∈ s.attempts)
    (hid : a.id = saved.id) (hfits : saved.fits = true) :
    Ensures (working s₀) (fun _ => True) (fun s' r => r = .ok () ∧ saved ∈ s'.attempts) s
      (call (.saveAttempt saved)) := by
  rcases Sql.Table.exists_save? ha hid hid with ⟨t, ht⟩
  have hdone : ∀ ch : (working s₀).Choice, (working s₀).perform (.saveAttempt saved) ch s =
      (.ok (), { s with attempts := t }) := by
    intro ch
    simp [perform, saveAttempt?, hfits, ht, write, ch.2.done]
  intro ch
  refine ⟨trivial, ensures_settled.2 ?_⟩
  rw [hdone]
  exact ⟨rfl, (Sql.Table.mem_save? ht).2 (.inl rfl)⟩

theorem advance_recovers (toStep : RegistrationStep) (ha : a ∈ s.attempts)
    (hlive : a.deletedAt = none) (hfits : a.fits = true)
    (hnext : indexOf toStep.text = indexOf a.currentStep + 1) :
    Ensures (working s₀) (fun _ => True)
      (fun _ r => r = .ok { a with currentStep := toStep.text }) s
      (RegistrationOrchestratorService.advance a.id toStep) := by
  have hread : ∀ ch : (working s₀).Choice,
      (working s₀).perform (.findAttempt a.id) ch s = (.ok (some a), s) :=
    fun ch => findAttempt_stored ha hlive ch.1
  refine ensures_call_bind (fun _ => trivial) ?_ ?_
  · intro ch e he
    rw [hread] at he
    cases he
  · intro ch found hfound
    rw [hread] at hfound ⊢
    cases hfound
    dsimp only
    rw [if_neg (not_not.2 hnext)]
    have hsave := @saveAttempt_recovers s₀ s a { a with currentStep := toStep.text } ha rfl hfits
    refine hsave.bind ?_ fun s₁ e h => by cases h.1
    exact fun s₁ _ _ => rfl

/-- The attempt is stored with the id of some user, which fits its column. -/
def StoredWithUser (a : RegistrationAttempt) (s : Store) : Prop :=
  ∃ userId : String, userId.length ≤ 36 ∧ { a with keycloakUserId := some userId } ∈ s.attempts

/-- The `try` block, when the attempt's number is free for a username. -/
theorem provision_recovers (password : String) (hrealm : s.realm = s₀.realm)
    (ha : a ∈ s.attempts) (hlive : a.deletedAt = none) (hfits : a.fits = true)
    (hrole : ∃ role ∈ s.realm.roles, role.name = "RETAIL_CUSTOMER")
    (hfree : ∀ u ∈ s.realm.users, u.username ≠ a.mobileNumber) :
    Ensures (working s₀) (fun _ => True)
      (fun s' r => r = .ok () ∧ StoredWithUser a s') s
      (RegistrationService.provision ⟨a.id, password⟩ a.mobileNumber) := by
  refine (createUser_ensures (customer a.mobileNumber password) hrealm hfree).bind ?_
    fun s₁ e h => by rcases h with ⟨_, he, _⟩; cases he
  rintro s₁ userId ⟨_, huserId, hshort, huser₁⟩
  cases huserId
  refine (assignRealmRole_ensures huser₁ hrole).bind ?_ fun s₂ e h => by cases h.1
  rintro s₂ _ ⟨_, huser₂⟩
  have ha₂ : a ∈ s₂.attempts := huser₂.attempts ▸ ha
  refine (findOne_recovers ha₂ hlive).bind ?_ fun s₃ e h => by cases h.1
  rintro s₃ updated ⟨hupdated, rfl⟩
  cases hupdated
  have hfits' : RegistrationAttempt.fits { a with keycloakUserId := some userId } = true := by
    rw [RegistrationAttempt.fits_iff] at hfits ⊢
    exact ⟨hfits.1, hshort, hfits.2.2⟩
  have hsave := @saveAttempt_recovers s₀ s₃ a { a with keycloakUserId := some userId } ha₂ rfl hfits'
  refine hsave.mono fun s₄ r h => ?_
  exact ⟨h.1, userId, hshort, h.2⟩

/-- A retry at `CREDENTIALS_SET` whose number is free. -/
theorem createCredentials_recovers (password : String) (ha : a ∈ s₀.attempts)
    (hlive : a.deletedAt = none) (hfits : a.fits = true)
    (hstep : a.currentStep = CREDENTIALS_SET.text)
    (hrole : ∃ role ∈ s₀.realm.roles, role.name = "RETAIL_CUSTOMER")
    (hfree : ∀ u ∈ s₀.realm.users, u.username ≠ a.mobileNumber) :
    Ensures (working s₀) (fun _ => True)
      (fun _ r => ∃ userId, r = .ok { a with
        keycloakUserId := some userId
        currentStep := KEYCLOAK_USER_CREATED.text }) s₀
      (RegistrationService.createCredentials ⟨a.id, password⟩) := by
  refine (findOne_recovers ha hlive).bind ?_ fun s₁ e h => by cases h.1
  rintro s₁ attempt ⟨hattempt, hsame⟩
  cases hattempt
  rw [hsame]
  rw [requireCredentialsStep_retry hstep, markCredentialsSet_retry hstep, pure_bind, pure_bind]
  have hprovision := @provision_recovers s₀ s₀ a password rfl ha hlive hfits hrole hfree
  have htry : Ensures (working s₀) (fun _ => True)
      (fun s' r => r = .ok () ∧ StoredWithUser a s') s₀
      ((RegistrationService.provision ⟨a.id, password⟩ a.mobileNumber).handle
        (RegistrationService.failed a.id CREDENTIALS_SET)) :=
    hprovision.handle (fun s₂ _ h => h) fun s₂ e h => by cases h.1
  refine htry.bind ?_ fun s₂ e h => by cases h.1
  rintro s₂ _ ⟨_, userId, hshort, hsaved⟩
  refine (advance_recovers KEYCLOAK_USER_CREATED hsaved hlive ?_ ?_).mono
    fun s₃ r h => ⟨userId, h⟩
  · rw [RegistrationAttempt.fits_iff] at hfits ⊢
    exact ⟨hfits.1, hshort, hfits.2.2⟩
  · change indexOf KEYCLOAK_USER_CREATED.text = indexOf a.currentStep + 1
    rw [hstep]
    decide

end Working

/-! ## When the number is taken -/

section Taken

variable {s : Store} {a : RegistrationAttempt}

theorem createUser_refused (payload : CreateUserPayload)
    (htaken : ∃ u ∈ s.realm.users, u.username = payload.username) :
    Ensures backend (fun _ => True) (fun _ r => ∃ e, r = .error e) s (createUser http payload) := by
  refine ensures_call_bind (fun _ => trivial) (fun _ e _ => ⟨e, rfl⟩) fun ch _ _ => ?_
  have hsame : (backend.perform (.keycloak .postAdminToken) ch s).2 = s := by
    simp only [perform, Realm.perform, request_state, ite_self]
  rw [hsame]
  refine ensures_call_bind (fun _ => trivial) (fun _ e _ => ⟨e, rfl⟩) fun ch response hok => ?_
  have hrefused : ¬ s.realm.Creates payload.representation ch.toChoice := by
    rcases htaken with ⟨u, hu, hname⟩
    exact fun hcreates => (hcreates.2 u hu).2 hname
  have hstatus : 400 ≤ response.status := by
    have hanswer := (postUser_refused hrefused).2
    rcases request_cases ch.toChoice s.realm
      (some (postUser s.realm payload.representation ch.toChoice)) with
      ⟨e, h⟩ | ⟨answer, r', hr', _, h | ⟨e, h⟩⟩
    · simp [perform, Realm.perform, h] at hok
    · have hresponse : answer = response := by
        simpa [perform, Realm.perform, h] using hok
      rw [Option.some.inj hr', hresponse] at hanswer
      exact hanswer
    · simp [perform, Realm.perform, h] at hok
  rw [if_pos hstatus]
  exact ⟨_, rfl⟩

/-- The `try` block, and with it the whole retry, when the attempt's number is taken. -/
theorem createCredentials_refused (password : String) (ha : a ∈ s.attempts)
    (hlive : a.deletedAt = none) (hstep : a.currentStep = CREDENTIALS_SET.text)
    (htaken : ∃ u ∈ s.realm.users, u.username = a.mobileNumber) :
    Ensures backend (fun _ => True) (fun _ r => ∃ e, r = .error e) s
      (RegistrationService.createCredentials ⟨a.id, password⟩) := by
  have hread : Ensures backend (fun _ => True) (fun s' r => r = .ok a ∧ s' = s) s
      (RegistrationService.findOne a.id) := by
    intro ch
    have hread : backend.perform (.findAttempt a.id) ch s = (.ok (some a), s) :=
      findAttempt_stored ha hlive ch
    rw [hread]
    exact ⟨trivial, rfl, rfl⟩
  refine hread.bind ?_ fun _ e _ => ⟨e, rfl⟩
  rintro s₁ attempt ⟨hattempt, rfl⟩
  cases hattempt
  rw [requireCredentialsStep_retry hstep, markCredentialsSet_retry hstep, pure_bind, pure_bind]
  have hprovision : Ensures backend (fun _ => True) (fun _ r => ∃ e, r = .error e) s₁
      (RegistrationService.provision ⟨a.id, password⟩ a.mobileNumber) := by
    refine (createUser_refused (customer a.mobileNumber password) htaken).bind ?_
      fun _ e _ => ⟨e, rfl⟩
    rintro s₂ userId ⟨e, he⟩
    cases he
  have hfailed : ∀ s₂ error, Ensures backend (fun _ => True) (fun _ r => ∃ e, r = .error e) s₂
      (RegistrationService.failed a.id CREDENTIALS_SET error) := by
    intro s₂ error
    exact (ensures_trivial s₂ _).bind (fun _ _ _ => ⟨error, rfl⟩) fun _ e _ => ⟨e, rfl⟩
  have htry : Ensures backend (fun _ => True) (fun _ r => ∃ e, r = .error e) s₁
      ((RegistrationService.provision ⟨a.id, password⟩ a.mobileNumber).handle
        (RegistrationService.failed a.id CREDENTIALS_SET)) :=
    hprovision.handle (fun _ _ h => h) fun s₂ e _ => hfailed s₂ e
  refine htry.bind ?_ fun _ e _ => ⟨e, rfl⟩
  rintro s₂ _ ⟨e, he⟩
  cases he

end Taken

/-! ## The condition -/

/-- A live attempt that has been left at `CREDENTIALS_SET`, by whatever run: a further
`createCredentials`, in which no call fails for a reason of its own, returns it at
`KEYCLOAK_USER_CREATED` exactly when no user has its number for a username. -/
theorem retry_succeeds_iff (config : OtpConfig) (s : Store)
    (hinit : ∀ a ∈ s.attempts, a.fits = true) (as : List (Action (service config)))
    (a : RegistrationAttempt) (password : String) (choices : Nat → Choice) :
    let c := (Config.initial (service config) s).run as
    a ∈ c.state.attempts → a.deletedAt = none → a.currentStep = CREDENTIALS_SET.text →
    (∃ role ∈ c.state.realm.roles, role.name = "RETAIL_CUSTOMER") →
    (∀ n, (choices n).Good c.state) →
    ((∃ a', ((RegistrationService.createCredentials ⟨a.id, password⟩).exec backend choices
        c.state).result = .ok a' ∧ a'.id = a.id ∧ a'.currentStep = KEYCLOAK_USER_CREATED.text) ↔
      ∀ u ∈ c.state.realm.users, u.username ≠ a.mobileNumber) := by
  intro c ha hlive hstep hrole hgood
  constructor
  · rintro ⟨a', hok, _⟩ u hu hname
    rcases (createCredentials_refused password ha hlive hstep ⟨u, hu, hname⟩).exec choices with
      ⟨e, he⟩
    rw [hok] at he
    cases he
  · intro hfree
    have hfits := attempts_fit config s hinit as a ha
    rcases (createCredentials_recovers password ha hlive hfits hstep hrole
      hfree).exec_within hgood with ⟨userId, hok⟩
    exact ⟨_, hok, rfl, rfl⟩

/-- A registration whose `createCredentials` performs `n` operations and fails with the next. -/
def failingAt (n : Nat) : List (Action (service sampleConfig)) :=
  [.start (.create ⟨"9876543210", "CIF12345"⟩), .resume 0 (.smooth "attempt-1")] ++
  .start (.verifyOtp ⟨"attempt-1", "challenge-1", "123456"⟩) ::
    List.replicate 6 (.resume 1 (.smooth "")) ++
  .start (.createCredentials ⟨"attempt-1", "secret"⟩) ::
    List.replicate n (.resume 2 (.smooth "user-1")) ++
  .resume 2 (.failing "503 Service Unavailable") :: List.replicate 3 (.resume 2 (.smooth ""))

/-- The attempt that a failure leaves. -/
def leftBehind : RegistrationAttempt :=
  { attemptAt CREDENTIALS_SET none none with failureReason := some "503 Service Unavailable" }

theorem smooth_good {s : Store} {freshId : String} (hfresh : ∀ u ∈ s.realm.users, u.id ≠ freshId)
    (hshort : freshId.length ≤ 36) : (Choice.smooth freshId).Good s :=
  ⟨rfl, rfl, rfl, hfresh, hshort⟩

/-- When Keycloak fails before it has created the user, the retry succeeds. -/
theorem retry_succeeds_iff_failingToken :
    ∃ a', ((RegistrationService.createCredentials ⟨"attempt-1", "secret"⟩).exec backend
        (fun _ => .smooth "user-2")
        ((Config.initial (service sampleConfig) freshStore).run (failingAt 3)).state).result =
          .ok a' ∧
      a'.id = "attempt-1" ∧ a'.currentStep = KEYCLOAK_USER_CREATED.text :=
  (retry_succeeds_iff sampleConfig freshStore (by decide) (failingAt 3) leftBehind "secret"
    (fun _ => .smooth "user-2") (by decide) rfl rfl (by decide)
    fun _ => smooth_good (by decide) (by decide)).2 (by decide)

/-- When it fails after that, the user is still there, and refuses every retry. -/
theorem retry_refused :
    let c := (Config.initial (service sampleConfig) freshStore).run (failingAt 7)
    Config.Meets InOrder (Config.initial (service sampleConfig) freshStore) (failingAt 7) ∧
    (∀ u ∈ freshStore.realm.users, u.username ≠ leftBehind.mobileNumber) ∧
    leftBehind ∈ c.state.attempts ∧ (Choice.smooth "user-2").Good c.state ∧
    ((RegistrationService.createCredentials ⟨"attempt-1", "secret"⟩).exec backend
      (fun _ => .smooth "user-2") c.state).result =
        .error (.unauthorized "User exists with same username") := by
  refine ⟨by decide, by decide, by decide, smooth_good (by decide) (by decide), ?_⟩
  decide

end Auth
end IdentityBillpay
