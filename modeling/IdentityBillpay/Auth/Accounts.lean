import IdentityBillpay.Auth.Signup

/-!
# Accounts — signups and registrations that overlap

Any number of signups and registrations over one Keycloak. Calls fail, and replies are lost: a user
whose `POST users` was not answered stays behind without a password.

* `Op.Leaves` — what one operation of a request makes of a user;
* `AccountsInv` — what the realm holds of the events so far;
* `accounts_apart` — the accounts of two requests are two, and none was there before.
-/

namespace IdentityBillpay
namespace Auth

open Async Keycloak

/-! ## One operation -/

/-- The account that an operation writes to. -/
def Op.account? : Op → Option String
  | .keycloak (.putPassword userId _) => some userId
  | .keycloak (.postRoleMapping userId _) => some userId
  | _ => none

/-- What an operation makes of a user of the realm. -/
structure Op.Leaves (op : Op) (u u' : KeycloakUser) : Prop where
  id : u'.id = u.id
  representation : u'.toUserRepresentation = u.toUserRepresentation
  other : op.account? ≠ some u.id → u' = u
  password : u'.password = u.password ∨
    ∃ password, op = .keycloak (.putPassword u.id password) ∧ u'.password = some password
  roles : ∀ role ∈ u.realmRoles, role ∈ u'.realmRoles ∨
    ∃ assigned, op = .keycloak (.postRoleMapping u.id assigned) ∧ assigned ∈ u'.realmRoles

section Step

variable {password : String} {own : Own} {op : Op} {s : Store} {u : KeycloakUser}

theorem Op.Leaves.refl (op : Op) (u : KeycloakUser) : op.Leaves u u :=
  ⟨rfl, rfl, fun _ => rfl, .inl rfl, fun _ hrole => .inl hrole⟩

theorem leaves_password (userId written : String) (u : KeycloakUser) :
    Op.Leaves (.keycloak (.putPassword userId written)) u
      (if u.id = userId then { u with password := some written } else u) := by
  by_cases hid : u.id = userId
  · rw [if_pos hid, ← hid]
    exact ⟨rfl, rfl, fun hother => absurd rfl hother, .inr ⟨written, rfl, rfl⟩,
      fun _ hrole => .inl hrole⟩
  · rw [if_neg hid]
    exact .refl _ u

/-- A role of the same id makes room for the assigned one. -/
theorem leaves_assigned (userId : String) (assigned : Role) (u : KeycloakUser) :
    Op.Leaves (.keycloak (.postRoleMapping userId assigned)) u
      (if u.id = userId then u.assigned assigned else u) := by
  by_cases hid : u.id = userId
  · rw [if_pos hid, ← hid]
    refine ⟨rfl, rfl, fun hother => absurd rfl hother, .inl rfl, fun role hrole => .inr ?_⟩
    exact ⟨assigned, rfl, by simp [KeycloakUser.assigned]⟩
  · rw [if_neg hid]
    exact .refl _ u

/-- A change of one user, carried out or not. -/
theorem leaves_update {userId : String} {f : KeycloakUser → KeycloakUser} {r' : Realm}
    {res : Except HttpError Unit} (hu : u ∈ s.realm.users)
    (h : ((∃ e, res = .error e) ∧ r' = s.realm) ∨ s.realm.WithUser userId f r')
    (hleaves : op.Leaves u (if u.id = userId then f u else u)) :
    ∃ u' ∈ r'.users, op.Leaves u u' := by
  rcases h with ⟨_, rfl⟩ | hwith
  · exact ⟨u, hu, .refl op u⟩
  · exact ⟨_, (hwith.users _).2 ⟨u, hu, rfl⟩, hleaves⟩

/-- The users stay, whether a new one is created or not. -/
theorem leaves_postUser (user : UserRepresentation) (ch : Keycloak.Choice) (r : Realm)
    (hu : u ∈ r.users) : u ∈ (r.perform (.postUser user) ch).2.users := by
  have hstate : (r.perform (.postUser user) ch).2 =
      if ch.fails then r else (postUser r user ch).2 := request_state ch r (postUser r user ch)
  rw [hstate]
  split
  · exact hu
  · by_cases hcreates : r.Creates user ch
    · rcases postUser_created hcreates with ⟨t, ht, hmem⟩
      rw [ht]
      exact (hmem u).2 (.inl hu)
    · rw [(postUser_refused hcreates).1]
      exact hu

theorem leaving_realm (hop : op.leavesAccounts = true) (ch : Choice) (s : Store) :
    (perform op ch s).2.realm = s.realm := by
  by_cases hcall : ∃ call, op = .keycloak call
  · rcases hcall with ⟨call, rfl⟩
    exact perform_read hop ch.toChoice s.realm
  · refine perform_realm_eq (fun hpart => hcall ?_) ch s
    cases op with
    | keycloak call => exact ⟨call, rfl⟩
    | _ => simp [Op.part] at hpart

/-- One step of a request: every user is still there, and only its own user is another one. -/
theorem account_leaves (hop : AccountAwaits password own op) (ch : Choice)
    (hu : u ∈ s.realm.users) : ∃ u' ∈ (perform op ch s).2.realm.users, op.Leaves u u' := by
  cases hop with
  | other hleaves =>
      rw [leaving_realm hleaves]
      exact ⟨u, hu, .refl op u⟩
  | postUser user => exact ⟨u, leaves_postUser user ch.toChoice s.realm hu, .refl _ u⟩
  | @putPassword user userId hmade =>
      exact leaves_update hu (request_updateUser rfl) (leaves_password userId password u)
  | @postRoleMapping user userId role hmade hrole =>
      exact leaves_update hu (postRoleMapping_cases rfl) (leaves_assigned userId role u)

theorem account_of_leaving (hop : op.leavesAccounts = true) : op.account? = none := by
  cases op with
  | keycloak call =>
      cases call with
      | putPassword userId password => cases hop
      | postRoleMapping userId role => cases hop
      | _ => rfl
  | _ => rfl

/-- A request writes to the user that it has made. -/
theorem AccountAwaits.made {userId : String} (hop : AccountAwaits password own op)
    (haccount : op.account? = some userId) : ∃ user, MadeUser own user userId := by
  cases hop with
  | other hleaves =>
      rw [account_of_leaving hleaves] at haccount
      cases haccount
  | postUser user => cases haccount
  | putPassword hmade =>
      cases haccount
      exact ⟨_, hmade⟩
  | postRoleMapping hmade hrole =>
      cases haccount
      exact ⟨_, hmade⟩

/-- A user is created under a name and an id that nobody has. -/
theorem postUser_posted {ch : Keycloak.Choice} {r : Realm} {user : UserRepresentation}
    {response : CreateUserResponse} (h : .ok response = (r.perform (.postUser user) ch).1)
    (hstatus : response.status < 400) :
    ∃ u ∈ (r.perform (.postUser user) ch).2.users, u.toUserRepresentation = user ∧
      (∀ v ∈ r.users, v.id ≠ u.id ∧ v.username ≠ user.username) ∧
      ∀ userId, response.userId? = some userId → u.id = userId := by
  rcases postUser_ok (Prod.ext h.symm rfl) with
    ⟨hrefused, _⟩ | ⟨hcreates, _, hlocation, _, hmem⟩
  · omega
  · refine ⟨user.created ch.freshId, (hmem _).2 (.inr rfl), rfl, hcreates.2, fun userId hid => ?_⟩
    unfold CreateUserResponse.userId? at hid
    rw [hlocation] at hid
    cases hpath : ch.location with
    | none => simp [hpath] at hid
    | some path =>
        have hlast : (if ch.freshId = "" then none else some ch.freshId) = some userId := by
          simpa [hpath] using hid
        split at hlast
        · cases hlast
        · exact Option.some.inj hlast

end Step

/-! ## What the realm holds of the events -/

/-- The events of a run of signups and registrations, and the realm that they have left. -/
structure AccountsInv {config : OtpConfig} (s₀ : Store) (h : History (site config)) : Prop where
  kept : ∀ u ∈ s₀.realm.users, u ∈ h.state.realm.users
  posted : ∀ i user (response : CreateUserResponse),
    (⟨.keycloak (.postUser user), .ok response⟩ : Awaited sig HttpError) ∈ h.own i →
    response.status < 400 → ∃ u ∈ h.state.realm.users, u.toUserRepresentation = user ∧
      (∀ u₀ ∈ s₀.realm.users, u₀.id ≠ u.id) ∧
      ∀ userId, response.userId? = some userId → u.id = userId
  found : ∀ i username (users : List KeycloakUser),
    (⟨.keycloak (.getUsers username), .ok users⟩ : Awaited sig HttpError) ∈ h.own i →
    ∀ x ∈ users, ∃ u ∈ h.state.realm.users, u.id = x.id ∧ u.username = username
  apart : ∀ i j user user' (response response' : CreateUserResponse),
    (⟨.keycloak (.postUser user), .ok response⟩ : Awaited sig HttpError) ∈ h.own i →
    (⟨.keycloak (.postUser user'), .ok response'⟩ : Awaited sig HttpError) ∈ h.own j →
    response.status < 400 → response'.status < 400 → user.username = user'.username → i = j
  writes : ∀ i, ∀ a ∈ h.own i, ∀ userId, a.op.account? = some userId →
    ∃ user, MadeUser (h.own i) user userId
  asked : ∀ i userId password res,
    (⟨.keycloak (.putPassword userId password), res⟩ : Awaited sig HttpError) ∈ h.own i →
    ∃ r, h.requests[i]? = some r ∧ r.password = password
  password : ∀ i userId password,
    (⟨.keycloak (.putPassword userId password), .ok ()⟩ : Awaited sig HttpError) ∈ h.own i →
    ∃ u ∈ h.state.realm.users, u.id = userId ∧ u.password = some password
  role : ∀ i name (role : Role),
    (⟨.keycloak (.getRole name), .ok role⟩ : Awaited sig HttpError) ∈ h.own i → role.name = name
  mapped : ∀ i userId role,
    (⟨.keycloak (.postRoleMapping userId role), .ok ()⟩ : Awaited sig HttpError) ∈ h.own i →
    ∃ u ∈ h.state.realm.users, u.id = userId ∧ ∃ role ∈ u.realmRoles, role.name = SIGNUP_ROLE

section Invariant

variable {config : OtpConfig} {s₀ : Store} {h : History (site config)} {i j : Nat}
  {r : SiteRequest} {op : Op} {ch : Choice} {user user' : UserRepresentation} {userId : String}

/-- The user that a request has made is in the realm, as it was asked for. -/
theorem AccountsInv.made_user (hI : AccountsInv s₀ h) (hmade : MadeUser (h.own i) user userId) :
    ∃ u ∈ h.state.realm.users, u.id = userId ∧ u.toUserRepresentation = user ∧
      ∀ u₀ ∈ s₀.realm.users, u₀.id ≠ userId := by
  rcases hmade with ⟨response, hpost, hstatus, hid⟩
  rcases hI.posted i user response hpost hstatus with ⟨u, hu, hrep, hnew, hlocation⟩
  have hsame : u.id = userId := by
    rcases hid with hid | ⟨found, rest, rfl, hget⟩
    · exact hlocation userId hid
    · -- Usernames are unique: the user that was found is the one that was created.
      rcases hI.found i _ _ hget found List.mem_cons_self with ⟨v, hv, hvid, hname⟩
      have huv : u = v := Sql.Table.eq_of_key hu hv (by rw [hname, hrep])
      rw [huv, hvid]
  exact ⟨u, hu, hsame, hrep, fun u₀ hu₀ => hsame ▸ hnew u₀ hu₀⟩

/-- Two requests have made two users. -/
theorem AccountsInv.made_apart (hI : AccountsInv s₀ h) (hi : MadeUser (h.own i) user userId)
    (hj : MadeUser (h.own j) user' userId) : i = j := by
  rcases hI.made_user hi with ⟨u, hu, hid, hrep, _⟩
  rcases hI.made_user hj with ⟨v, hv, hvid, hvrep, _⟩
  have huv : u = v := Sql.Table.eq_of_id hu hv (hid.trans hvid.symm)
  have hsame : user = user' := by rw [← hrep, ← hvrep, huv]
  rcases hi with ⟨response, hpost, hstatus, _⟩
  rcases hj with ⟨response', hpost', hstatus', _⟩
  exact hI.apart i j user user' response response' hpost hpost' hstatus hstatus'
    (congrArg UserRepresentation.username hsame)

/-- An event after one more operation of request `i`: an old one, or the new one. -/
theorem own_perform_cases {a : Awaited sig HttpError} (ha : a ∈ (h.perform i op ch).own j) :
    a ∈ h.own j ∨ (j = i ∧ a.op = op ∧ a.res = (perform a.op ch h.state).1) := by
  rcases History.mem_perform.1 (History.mem_own.1 ha) with hold | hnew
  · exact .inl (History.mem_own.2 hold)
  · exact .inr hnew

theorem AccountsInv.kept_perform (hI : AccountsInv s₀ h)
    (hop : AccountAwaits r.password (h.own i) op) {u : KeycloakUser} (hu : u ∈ s₀.realm.users) :
    u ∈ (h.perform i op ch).state.realm.users := by
  rcases account_leaves hop ch (hI.kept u hu) with ⟨u', hu', hleaves⟩
  have hother : op.account? ≠ some u.id := by
    intro haccount
    rcases hop.made haccount with ⟨user, hmade⟩
    rcases hI.made_user hmade with ⟨_, _, _, _, hnew⟩
    exact hnew u hu rfl
  rw [← hleaves.other hother]
  exact hu'

theorem AccountsInv.posted_perform (hI : AccountsInv s₀ h)
    (hop : AccountAwaits r.password (h.own i) op) (response : CreateUserResponse)
    (hmem : (⟨.keycloak (.postUser user), .ok response⟩ : Awaited sig HttpError) ∈
      (h.perform i op ch).own j) (hstatus : response.status < 400) :
    ∃ u ∈ (h.perform i op ch).state.realm.users, u.toUserRepresentation = user ∧
      (∀ u₀ ∈ s₀.realm.users, u₀.id ≠ u.id) ∧
      ∀ userId, response.userId? = some userId → u.id = userId := by
  rcases own_perform_cases hmem with hold | ⟨_, hpost, hres⟩
  · rcases hI.posted j user response hold hstatus with ⟨u, hu, hrep, hnew, hlocation⟩
    rcases account_leaves hop ch hu with ⟨u', hu', hleaves⟩
    refine ⟨u', hu', hleaves.representation.trans hrep, ?_, ?_⟩
    · rw [hleaves.id]
      exact hnew
    · rw [hleaves.id]
      exact hlocation
  · dsimp only at hpost
    subst hpost
    rcases postUser_posted hres hstatus with ⟨u, hu, hrep, hfresh, hlocation⟩
    exact ⟨u, hu, hrep, fun u₀ hu₀ => (hfresh u₀ (hI.kept u₀ hu₀)).1, hlocation⟩

/-- The second of two requests for one name is refused by Keycloak. -/
theorem AccountsInv.second_refused (hI : AccountsInv s₀ h) (response response' : CreateUserResponse)
    (hmem : (⟨.keycloak (.postUser user), .ok response⟩ : Awaited sig HttpError) ∈ h.own j)
    (hres : .ok response' = (h.state.realm.perform (.postUser user') ch.toChoice).1)
    (hstatus : response.status < 400) (hstatus' : response'.status < 400) :
    user.username ≠ user'.username := by
  rcases hI.posted j user response hmem hstatus with ⟨u, hu, hrep, _, _⟩
  rcases postUser_posted hres hstatus' with ⟨_, _, _, hfresh, _⟩
  rw [← hrep]
  exact (hfresh u hu).2

theorem AccountsInv.apart_perform (hI : AccountsInv s₀ h) {i' j' : Nat}
    (response response' : CreateUserResponse)
    (hmem : (⟨.keycloak (.postUser user), .ok response⟩ : Awaited sig HttpError) ∈
      (h.perform i op ch).own i')
    (hmem' : (⟨.keycloak (.postUser user'), .ok response'⟩ : Awaited sig HttpError) ∈
      (h.perform i op ch).own j')
    (hstatus : response.status < 400) (hstatus' : response'.status < 400)
    (hname : user.username = user'.username) : i' = j' := by
  rcases own_perform_cases hmem with hold | ⟨hi, _, hres⟩
  · rcases own_perform_cases hmem' with hold' | ⟨_, _, hres'⟩
    · exact hI.apart i' j' user user' response response' hold hold' hstatus hstatus' hname
    · exact absurd hname (hI.second_refused response response' hold hres' hstatus hstatus')
  · rcases own_perform_cases hmem' with hold' | ⟨hj, _, _⟩
    · exact absurd hname.symm (hI.second_refused response' response hold' hres hstatus' hstatus)
    · exact hi.trans hj.symm

theorem AccountsInv.writes_perform (hI : AccountsInv s₀ h)
    (hop : AccountAwaits r.password (h.own i) op) {a : Awaited sig HttpError}
    (hmem : a ∈ (h.perform i op ch).own j) (haccount : a.op.account? = some userId) :
    ∃ user, MadeUser ((h.perform i op ch).own j) user userId := by
  have hbefore : ∃ user, MadeUser (h.own j) user userId := by
    rcases own_perform_cases hmem with hold | ⟨rfl, hsame, _⟩
    · exact hI.writes j a hold userId haccount
    · exact hop.made (hsame ▸ haccount)
  rcases hbefore with ⟨user, hmade⟩
  exact ⟨user, hmade.mono (h.own_prefix_perform i j op ch).subset⟩

theorem AccountsInv.asked_perform (hI : AccountsInv s₀ h) (hr : h.requests[i]? = some r)
    (hop : AccountAwaits r.password (h.own i) op) {password : String} {res : Except HttpError Unit}
    (hmem : (⟨.keycloak (.putPassword userId password), res⟩ : Awaited sig HttpError) ∈
      (h.perform i op ch).own j) : ∃ r, h.requests[j]? = some r ∧ r.password = password := by
  rcases own_perform_cases hmem with hold | ⟨rfl, hput, _⟩
  · exact hI.asked j userId password res hold
  · dsimp only at hput
    subst hput
    cases hop with
    | other hleaves => cases hleaves
    | putPassword hmade => exact ⟨r, hr, rfl⟩

/-- A password stays as its request has set it. -/
theorem AccountsInv.password_perform (hI : AccountsInv s₀ h) (hr : h.requests[i]? = some r)
    (hop : AccountAwaits r.password (h.own i) op) {password : String}
    (hmem : (⟨.keycloak (.putPassword userId password), .ok ()⟩ : Awaited sig HttpError) ∈
      (h.perform i op ch).own j) :
    ∃ u ∈ (h.perform i op ch).state.realm.users, u.id = userId ∧ u.password = some password := by
  rcases own_perform_cases hmem with hold | ⟨_, hput, hres⟩
  · rcases hI.password j userId password hold with ⟨u, hu, rfl, hset⟩
    rcases account_leaves hop ch hu with ⟨u', hu', hleaves⟩
    refine ⟨u', hu', hleaves.id, ?_⟩
    rcases hleaves.password with hsame | ⟨written, rfl, hwritten⟩
    · exact hsame.trans hset
    · -- Only the request that has made the user writes to it, and that is the same request.
      rcases hI.asked j u.id password _ hold with ⟨r', hr', rfl⟩
      rcases hI.writes j _ hold u.id rfl with ⟨user', hmade'⟩
      rcases hop.made rfl with ⟨user, hmade⟩
      have hij : i = j := hI.made_apart hmade hmade'
      have hsame : r = r' := Option.some.inj (hr.symm.trans (hij ▸ hr'))
      cases hop with
      | other hleaves => cases hleaves
      | putPassword => rw [hwritten, hsame]
  · dsimp only at hput
    subst hput
    have hwith := putPassword_ok (Prod.ext hres.symm rfl)
    rcases hwith.exists_user with ⟨u, hu, rfl⟩
    exact ⟨_, (hwith.users _).2 ⟨u, hu, rfl⟩, by simp, by simp⟩

theorem AccountsInv.mapped_perform (hI : AccountsInv s₀ h)
    (hop : AccountAwaits r.password (h.own i) op) {role : Role}
    (hmem : (⟨.keycloak (.postRoleMapping userId role), .ok ()⟩ : Awaited sig HttpError) ∈
      (h.perform i op ch).own j) :
    ∃ u ∈ (h.perform i op ch).state.realm.users, u.id = userId ∧
      ∃ role ∈ u.realmRoles, role.name = SIGNUP_ROLE := by
  -- Whatever role is assigned is the role of a customer.
  have hcustomer : ∀ userId assigned, op = .keycloak (.postRoleMapping userId assigned) →
      assigned.name = SIGNUP_ROLE := by
    rintro userId assigned rfl
    cases hop with
    | other hleaves => cases hleaves
    | postRoleMapping hmade hrole => exact hI.role i SIGNUP_ROLE assigned hrole
  rcases own_perform_cases hmem with hold | ⟨_, hmap, hres⟩
  · rcases hI.mapped j userId role hold with ⟨u, hu, rfl, held, hheld, hname⟩
    rcases account_leaves hop ch hu with ⟨u', hu', hleaves⟩
    refine ⟨u', hu', hleaves.id, ?_⟩
    rcases hleaves.roles held hheld with hkept | ⟨assigned, hassign, hnew⟩
    · exact ⟨held, hkept, hname⟩
    · exact ⟨assigned, hnew, hcustomer u.id assigned hassign⟩
  · dsimp only at hmap
    subst hmap
    have hwith := postRoleMapping_ok (Prod.ext hres.symm rfl)
    rcases hwith.exists_user with ⟨u, hu, rfl⟩
    refine ⟨_, (hwith.users _).2 ⟨u, hu, rfl⟩, by simp [KeycloakUser.assigned], role, ?_, ?_⟩
    · simp [KeycloakUser.assigned]
    · exact hcustomer u.id role rfl

theorem AccountsInv.found_perform (hI : AccountsInv s₀ h)
    (hop : AccountAwaits r.password (h.own i) op) {username : String} {users : List KeycloakUser}
    (hmem : (⟨.keycloak (.getUsers username), .ok users⟩ : Awaited sig HttpError) ∈
      (h.perform i op ch).own j) {x : KeycloakUser} (hx : x ∈ users) :
    ∃ u ∈ (h.perform i op ch).state.realm.users, u.id = x.id ∧ u.username = username := by
  have hbefore : ∃ u ∈ h.state.realm.users, u.id = x.id ∧ u.username = username := by
    rcases own_perform_cases hmem with hold | ⟨_, _, hres⟩
    · exact hI.found j username users hold x hx
    · rcases (getUsers_ok (Prod.ext hres.symm rfl)).1 hx with ⟨hmem, hname⟩
      exact ⟨x, hmem, rfl, hname⟩
  rcases hbefore with ⟨u, hu, hid, hname⟩
  rcases account_leaves hop ch hu with ⟨u', hu', hleaves⟩
  exact ⟨u', hu', hleaves.id.trans hid,
    (congrArg UserRepresentation.username hleaves.representation).trans hname⟩

theorem accountsInv_perform (hI : AccountsInv s₀ h) (hr : h.requests[i]? = some r)
    (hop : AccountAwaits r.password (h.own i) op) : AccountsInv s₀ (h.perform i op ch) where
  kept _ hu := hI.kept_perform hop hu
  posted _ _ response hmem hstatus := hI.posted_perform hop response hmem hstatus
  found _ _ _ hmem _ hx := hI.found_perform hop hmem hx
  apart _ _ _ _ response response' hmem hmem' hstatus hstatus' hname :=
    hI.apart_perform response response' hmem hmem' hstatus hstatus' hname
  writes _ _ hmem _ haccount := hI.writes_perform hop hmem haccount
  asked _ _ _ _ hmem := hI.asked_perform hr hop hmem
  password _ _ _ hmem := hI.password_perform hr hop hmem
  role j name role hmem := by
    rcases own_perform_cases hmem with hold | ⟨_, _, hres⟩
    · exact hI.role j name role hold
    · exact (getRole_ok (Prod.ext hres.symm rfl)).2
  mapped _ _ _ hmem := hI.mapped_perform hop hmem

theorem accountsInv_start (hI : AccountsInv s₀ h) (r : SiteRequest) : AccountsInv s₀ (h.start r) :=
  { hI with
    asked := fun i userId password res hmem => by
      rcases hI.asked i userId password res hmem with ⟨r', hr', hpassword⟩
      exact ⟨r', History.start_requests_some hr', hpassword⟩ }

end Invariant

theorem accountsInv_run (config : OtpConfig) (s₀ : Store) (as : List (Action (site config))) :
    AccountsInv s₀ ((Config.initial (site config) s₀).run as).toHistory := by
  refine Config.run_induction (I := AccountsInv s₀) (fun r => follows_site config r)
    (fun _ r _ hI => accountsInv_start hI r)
    (fun _ _ _ _ _ _ hI hr hop _ => accountsInv_perform hI hr hop) ?_ as (Config.meets_trivial _ as)
  constructor <;> simp [Config.initial, History.own]

/-! ## Accounts -/

/-- The realm has the account that a signup has answered with: its user, with its password and the
role of a customer. -/
def Opened (s : Store) (dto : SignupDto) (result : SignedUp) : Prop :=
  ∃ u ∈ s.realm.users, u.id = result.keycloakUserId ∧
    u.toUserRepresentation = (KeycloakService.account dto).representation ∧
    u.password = some dto.password ∧ ∃ role ∈ u.realmRoles, role.name = SIGNUP_ROLE

section Returned

variable {config : OtpConfig} {s₀ : Store} {as : List (Action (site config))} {i j : Nat}
  {dto dto' : SignupDto} {result result' : SignedUp}

/-- A signup of the run has answered. -/
def Answered (c : Config (site config)) (i : Nat) (dto : SignupDto) (result : SignedUp) : Prop :=
  c.requests[i]? = some (.signup dto) ∧ c.pool[i]? = some (.resolve (.signedUp result))

theorem answered_ends (h : Answered ((Config.initial (site config) s₀).run as) i dto result) :
    SignupEnds dto (((Config.initial (site config) s₀).run as).own i) (.ok (.signedUp result)) := by
  have hpool := (Config.run_follows (fun r => follows_site config r) s₀ as).1
  exact Program.follows_resolve.1 (hpool.2 i _ _ h.1 h.2)

theorem answered_opened (h : Answered ((Config.initial (site config) s₀).run as) i dto result) :
    Opened ((Config.initial (site config) s₀).run as).state dto result := by
  have hI := accountsInv_run config s₀ as
  rcases answered_ends h result rfl with ⟨_, ⟨hmade, hput⟩, role, hmap⟩
  rcases hI.made_user hmade with ⟨u, hu, hid, hrep, _⟩
  rcases hI.password i _ _ hput with ⟨v, hv, hvid, hpassword⟩
  rcases hI.mapped i _ role hmap with ⟨w, hw, hwid, hrole⟩
  have huv : u = v := Sql.Table.eq_of_id hu hv (hid.trans hvid.symm)
  have huw : u = w := Sql.Table.eq_of_id hu hw (hid.trans hwid.symm)
  exact ⟨u, hu, hid, hrep, huv ▸ hpassword, huw ▸ hrole⟩

theorem answered_apart (h : Answered ((Config.initial (site config) s₀).run as) i dto result)
    (h' : Answered ((Config.initial (site config) s₀).run as) j dto' result') (hij : i ≠ j) :
    result.keycloakUserId ≠ result'.keycloakUserId ∧ result.username ≠ result'.username := by
  have hI := accountsInv_run config s₀ as
  rcases answered_ends h result rfl with ⟨hname, ⟨hmade, _⟩, _⟩
  rcases answered_ends h' result' rfl with ⟨hname', ⟨hmade', _⟩, _⟩
  have hids : result.keycloakUserId ≠ result'.keycloakUserId :=
    fun hsame => hij (hI.made_apart hmade (hsame ▸ hmade'))
  refine ⟨hids, fun hsame => ?_⟩
  -- One name is one user of the realm.
  rcases hI.made_user hmade with ⟨u, hu, hid, hrep, _⟩
  rcases hI.made_user hmade' with ⟨v, hv, hvid, hvrep, _⟩
  have huv : u = v := by
    refine Sql.Table.eq_of_key hu hv ?_
    calc
      u.username = dto.username := by rw [hrep]; rfl
      _ = dto'.username := by rw [← hname, hsame, hname']
      _ = v.username := by rw [hvrep]; rfl
  exact hids (by rw [← hid, huv, hvid])

end Returned

/-- However signups and registrations overlap, and whatever calls fail: an account that was there
before is left as it was, a signup that has answered has opened its account, the accounts of two
signups have two ids and two names, and no account is written to by two requests. -/
theorem accounts_apart (config : OtpConfig) (s₀ : Store) (as : List (Action (site config))) :
    let c := (Config.initial (site config) s₀).run as
    (∀ u ∈ s₀.realm.users, u ∈ c.state.realm.users) ∧
      (∀ i dto result, Answered c i dto result → Opened c.state dto result) ∧
      (∀ i j dto dto' result result', Answered c i dto result → Answered c j dto' result' → i ≠ j →
        result.keycloakUserId ≠ result'.keycloakUserId ∧ result.username ≠ result'.username) ∧
      ∀ e ∈ c.trace, ∀ e' ∈ c.trace, ∀ userId, e.op.account? = some userId →
        e'.op.account? = some userId → e.who = e'.who := by
  intro c
  have hI : AccountsInv s₀ c.toHistory := accountsInv_run config s₀ as
  refine ⟨hI.kept, fun _ _ _ h => answered_opened h, ?_, ?_⟩
  · exact fun _ _ _ _ _ _ h h' hij => answered_apart h h' hij
  · intro e he e' he' userId haccount haccount'
    rcases hI.writes e.who e.toAwaited (History.mem_own.2 he) userId haccount with ⟨user, hmade⟩
    rcases hI.writes e'.who e'.toAwaited (History.mem_own.2 he') userId haccount' with
      ⟨user', hmade'⟩
    exact hI.made_apart hmade hmade'

/-- Two signups for one name. Both see that it is free, and the second `POST users` is refused. -/
def rivalSignups : List (Action (site sampleConfig)) :=
  [.start (.signup { username := "asha", password := "first" }),
    .start (.signup { username := "asha", password := "second" })] ++
  List.replicate 3 (.resume 0 (.smooth "user-1")) ++
  List.replicate 3 (.resume 1 (.smooth "user-2")) ++
  List.replicate 5 (.resume 0 (.smooth "user-1")) ++ [.resume 1 (.smooth "user-2")]

example :
    let c := (Config.initial (site sampleConfig) (sampleStore [] [] [] [])).run rivalSignups
    c.state.realm.users.rows.map (fun u => (u.id, u.username, u.password)) =
        [("user-1", "asha", some "first")] ∧
      c.pool[0]? = some (.resolve (.signedUp ⟨"user-1", "asha"⟩)) ∧
      c.pool[1]? = some (.reject (.unauthorized "User exists with same username")) :=
  ⟨by decide, rfl, rfl⟩

end Auth
end IdentityBillpay
