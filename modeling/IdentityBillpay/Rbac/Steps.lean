import IdentityBillpay.Async.Straight
import IdentityBillpay.Rbac.EmployeesService

/-!
# Steps — what the parts of a request do, one contract each

A request has no handlers, so it stops at its first failing call. Each contract says in which states
a part makes its calls, and what it leaves when all of them are answered.

* `published`, `Longer` — traces;
* `contract_assignRealmRoleToUser`, `contract_createUser`, … — the methods of the Keycloak service;
* `Assignable`, `contract_assignableRole` — the checks on a new role;
* `contract_publishAccount` — the last part of the requests on employees.
-/

namespace IdentityBillpay
namespace Rbac

open Async Async.Program Keycloak
open Bbps (Actor)

/-! ## Traces -/

def Op.event? : Op → Option EmployeeAccountSyncedEvent
  | .publish event => some event
  | _ => none

/-- The events published along a trace. -/
def published (own : Own) : List EmployeeAccountSyncedEvent :=
  own.filterMap fun a => a.op.event?

@[simp] theorem published_append (own more : Own) :
    published (own ++ more) = published own ++ published more :=
  List.filterMap_append

/-- `own'` goes on from `own` with `n` calls, and publishes nothing more. -/
structure Longer (n : Nat) (own own' : Own) : Prop where
  calls : own'.length = own.length + n
  quiet : published own' = published own

theorem Longer.refl (own : Own) : Longer 0 own own := ⟨rfl, rfl⟩

theorem Longer.trans {m n : Nat} {own own' own'' : Own} (h : Longer m own own')
    (h' : Longer n own' own'') : Longer (m + n) own own'' :=
  ⟨by rw [h'.calls, h.calls, Nat.add_assoc], h'.quiet.trans h.quiet⟩

theorem Longer.call {n : Nat} {own own' : Own} (h : Longer n own own') {op : Op} {a : op.Res}
    (hop : op.event? = none) : Longer (n + 1) own (own' ++ [⟨op, .ok a⟩]) := by
  refine ⟨by simp [h.calls, Nat.add_assoc], ?_⟩
  have hnone : published [(⟨op, .ok a⟩ : Awaited sig HttpError)] = [] := by simp [published, hop]
  rw [published_append, hnone, List.append_nil, h.quiet]

/-- The calls read, in the state `s`, and are made before the `k`-th one after `own`. -/
def InState (s : Store) (own : Own) (k : Nat) : Own → Store → Op → Prop :=
  fun own' m op => m = s ∧ op.isRead = true ∧ ∃ n < k, own'.length = own.length + n

theorem Longer.inState {s : Store} {own own' : Own} {n k : Nat} {op : Op} (h : Longer n own own')
    (hread : op.isRead = true) (hn : n < k) : InState s own k own' s op :=
  ⟨rfl, hread, n, hn, h.calls⟩

/-- A contract for environments that decide within limits. -/
abbrev Contract {α : Type} (limits : Choice → Prop) (J : Own → Store → Op → Prop)
    (Q : Own → Store → Except HttpError α → Prop) (own : Own) (s : Store) (p : Prog α) : Prop :=
  Straight backend limits J Q own s p

section Contracts

variable {s : Store} {own₀ own : Own} {n : Nat} {limits : Choice → Prop}

/-- An answered call that reads. -/
theorem contract_read {α : Type} {J : Own → Store → Op → Prop}
    {Q : Own → Store → Except HttpError α → Prop} {op : Op} {f : op.Res → Prog α}
    (h : Longer n own₀ own) (hread : op.isRead = true) (hquiet : op.event? = none)
    (hcall : J own s op)
    (hok : ∀ ch a own', Longer (n + 1) own₀ own' → perform op ch s = (.ok a, s) →
      Contract limits J Q own' s (f a)) :
    Contract limits J Q own s (call op >>= f) := by
  refine straight_call_bind hcall ?_
  intro ch a s' _ hdone
  have hsame := perform_read hread hdone
  subst hsame
  exact hok ch a _ (h.call hquiet) hdone

/-- An answered call that writes. -/
theorem contract_write {α : Type} {J : Own → Store → Op → Prop}
    {Q : Own → Store → Except HttpError α → Prop} {op : Op} {f : op.Res → Prog α}
    (h : Longer n own₀ own) (hquiet : op.event? = none) (hcall : J own s op)
    (hok : ∀ ch a own' s', Longer (n + 1) own₀ own' → limits ch → perform op ch s = (.ok a, s') →
      Contract limits J Q own' s' (f a)) :
    Contract limits J Q own s (call op >>= f) :=
  straight_call_bind hcall fun ch a s' hch hdone => hok ch a _ s' (h.call hquiet) hch hdone

/-- A part that ends with a call. -/
theorem contract_last (op : Op) {J : Own → Store → Op → Prop}
    {Q : Own → Store → Except HttpError op.Res → Prop} (h : Longer n own₀ own)
    (hquiet : op.event? = none) (hcall : J own s op)
    (hok : ∀ ch a own' s', Longer (n + 1) own₀ own' → perform op ch s = (.ok a, s') →
      Q own' s' (.ok a)) :
    Contract limits J Q own s (call op) :=
  straight_call hcall fun ch a s' _ hdone => hok ch a _ s' (h.call hquiet) hdone

/-! ## The Keycloak service -/

/-- `m` is `s` with one of its Keycloak users changed. -/
def RealmChange (s : Store) (userId roleName : String)
    (change : Keycloak.Role → KeycloakUser → KeycloakUser) (m : Store) : Prop :=
  ∃ role realm, role ∈ s.realm.roles ∧ role.name = roleName ∧
    s.realm.WithUser userId (change role) realm ∧ m = { s with realm := realm }

/-- Two calls read, and the third one maps a role of the realm to the user, or unmaps it. -/
def Mapping (s : Store) (own : Own) (roleName : String) (mapping : Keycloak.Role → KeycloakOp) :
    Own → Store → Op → Prop :=
  fun own' m op => InState s own 2 own' m op ∨
    (m = s ∧ own'.length = own.length + 2 ∧
      ∃ role ∈ s.realm.roles, role.name = roleName ∧ op = .keycloak (mapping role))

theorem contract_assignRealmRoleToUser (userId roleName : String) :
    Contract limits (Mapping s own roleName (.postRoleMapping userId))
      (fun own' m r => r = .ok () ∧ Longer 3 own own' ∧
        RealmChange s userId roleName KeycloakUser.assigned m)
      own s (assignRealmRoleToUser http userId roleName) := by
  have h₀ := Longer.refl own
  refine contract_read h₀ rfl rfl (.inl (h₀.inState rfl (by decide))) ?_
  intro _ _ own₁ h₁ _
  refine contract_read h₁ rfl rfl (.inl (h₁.inState rfl (by decide))) ?_
  intro ch role own₂ h₂ hrole
  rcases keycloak_ok hrole with ⟨_, hget, _⟩
  have hfound := getRole_ok hget
  refine contract_last (.keycloak (.postRoleMapping userId role)) h₂ rfl
    (.inr ⟨rfl, h₂.calls, role, hfound.1, hfound.2, rfl⟩) ?_
  intro ch' _ own₃ m h₃ hdone
  rcases keycloak_ok hdone with ⟨realm, hpost, hm⟩
  exact ⟨rfl, h₃, role, realm, hfound.1, hfound.2, postRoleMapping_ok hpost, hm⟩

theorem contract_removeRealmRoleFromUser (userId roleName : String) :
    Contract limits (Mapping s own roleName (.deleteRoleMapping userId))
      (fun own' m r => r = .ok () ∧ Longer 3 own own' ∧
        RealmChange s userId roleName KeycloakUser.unassigned m)
      own s (removeRealmRoleFromUser http userId roleName) := by
  have h₀ := Longer.refl own
  refine contract_read h₀ rfl rfl (.inl (h₀.inState rfl (by decide))) ?_
  intro _ _ own₁ h₁ _
  refine contract_read h₁ rfl rfl (.inl (h₁.inState rfl (by decide))) ?_
  intro ch role own₂ h₂ hrole
  rcases keycloak_ok hrole with ⟨_, hget, _⟩
  have hfound := getRole_ok hget
  refine contract_last (.keycloak (.deleteRoleMapping userId role)) h₂ rfl
    (.inr ⟨rfl, h₂.calls, role, hfound.1, hfound.2, rfl⟩) ?_
  intro ch' _ own₃ m h₃ hdone
  rcases keycloak_ok hdone with ⟨realm, hdelete, hm⟩
  exact ⟨rfl, h₃, role, realm, hfound.1, hfound.2, deleteRoleMapping_ok hdelete, hm⟩

/-- The user of a payload, with its password set. -/
def newUser (payload : CreateUserPayload) (userId : String) : KeycloakUser :=
  { payload.representation.created userId with password := some payload.password }

/-- The realm with the user of a payload, and no other change. -/
structure NewUser (r : Realm) (payload : CreateUserPayload) (userId : String) (r' : Realm) :
    Prop where
  fresh : ∀ u ∈ r.users, u.id ≠ userId ∧ u.username ≠ payload.username
  users : ∀ x, x ∈ r'.users ↔ x ∈ r.users ∨ x = newUser payload userId
  roles : r'.roles = r.roles

/-- Keycloak has a user of the given name. -/
def Occupied (m : Store) (username : String) : Prop :=
  ∃ u ∈ m.realm.users, u.username = username

/-- Either nothing has been created and at most one call made, or the user is there. -/
def Provisioning (s : Store) (own : Own) (username : String) : Own → Store → Op → Prop :=
  fun own' m _ => (m = s ∧ ∃ n < 2, own'.length = own.length + n) ∨
    (own.length + 2 ≤ own'.length ∧ Occupied m username ∧ ∃ realm, m = { s with realm := realm })

/-- The calls of `createUser` that may come before the user is there. -/
def AddsUser (payload : CreateUserPayload) (op : Op) : Prop :=
  op = .keycloak .postAdminToken ∨ op = .keycloak (.postUser payload.representation)

/-- Those that look the new user up by its name. -/
def FindsUser (payload : CreateUserPayload) (op : Op) : Prop :=
  op = .keycloak .postAdminToken ∨ op = .keycloak (.getUsers payload.username)

/-- How far `createUser` has come at a call, and which call this is. -/
inductive CreatingUser (s : Store) (own : Own) (payload : CreateUserPayload) :
    Own → Store → Op → Prop
  | before {own' : Own} {op : Op} {n : Nat} (hn : n < 2) (hlen : own'.length = own.length + n)
      (hop : AddsUser payload op) : CreatingUser s own payload own' s op
  | behind {own' : Own} {realm : Realm} {userId : String} {op : Op}
      (hlen : own.length + 2 ≤ own'.length)
      (huser : payload.representation.created userId ∈ realm.users)
      (hop : FindsUser payload op ∨ op = .keycloak (.putPassword userId payload.password)) :
      CreatingUser s own payload own' { s with realm := realm } op

/-- The id in the location, when there is one, is the one of the new user. -/
theorem userId?_eq {response : CreateUserResponse} {ch : Keycloak.Choice}
    (h : response.location = ch.location.map fun path => path ++ [ch.freshId]) {userId : String}
    (hid : response.userId? = some userId) : userId = ch.freshId := by
  unfold CreateUserResponse.userId? at hid
  rw [h] at hid
  cases hlocation : ch.location with
  | none => simp [hlocation] at hid
  | some path =>
      simp only [hlocation, Option.map_some, Option.bind_some, List.getLast?_append_cons,
        List.getLast?_singleton] at hid
      split at hid
      · cases hid
      · exact (Option.some.inj hid).symm

/-- The id of the new user is found, in the answer or by its name. -/
theorem contract_createdUserId {r : Realm} {payload : CreateUserPayload}
    {response : CreateUserResponse} {ch : Keycloak.Choice} {J : Own → Store → Op → Prop}
    (hlocation : response.location = ch.location.map fun path => path ++ [ch.freshId])
    (hfresh : ∀ u ∈ r.users, u.id ≠ ch.freshId ∧ u.username ≠ payload.username)
    (husers : ∀ x, x ∈ s.realm.users ↔ x ∈ r.users ∨ x = payload.representation.created ch.freshId)
    (hcall : ∀ own' op n, Longer n own own' → FindsUser payload op → J own' s op) :
    Contract limits J (fun own' m r => m = s ∧ r = .ok ch.freshId ∧ ∃ n, Longer n own own') own s
      (createdUserId http payload response) := by
  unfold createdUserId
  have h₀ := Longer.refl own
  cases hid : response.userId? with
  | some userId => exact ⟨rfl, congrArg Except.ok (userId?_eq hlocation hid), 0, h₀⟩
  | none =>
      unfold findUsersByUsername
      rw [bind_assoc]
      refine contract_read h₀ rfl rfl (hcall _ _ _ h₀ (.inl rfl)) ?_
      intro _ _ own₁ h₁ _
      refine contract_read h₁ rfl rfl (hcall _ _ _ h₁ (.inr rfl)) ?_
      intro ch' users own₂ h₂ hfound
      rcases keycloak_ok hfound with ⟨_, hget, _⟩
      have hmem : ∀ u, u ∈ (users : List KeycloakUser) ↔
          u ∈ s.realm.users ∧ u.username = payload.username := fun u => getUsers_ok hget
      have hnew : payload.representation.created ch.freshId ∈ (users : List KeycloakUser) :=
        (hmem _).2 ⟨(husers _).2 (.inr rfl), rfl⟩
      -- Its name is its own, so it is the first user found.
      cases (users : List KeycloakUser) with
      | nil => exact absurd hnew List.not_mem_nil
      | cons user others =>
          have huser := (hmem user).1 List.mem_cons_self
          have hsame : user.id = ch.freshId := by
            rcases (husers user).1 huser.1 with hold | rfl
            · exact absurd huser.2 (hfresh user hold).2
            · rfl
          exact ⟨rfl, congrArg Except.ok hsame, 2, h₂⟩

/-- The new user with its password. -/
theorem NewUser.of_password {r realm realm' : Realm} {payload : CreateUserPayload} {userId : String}
    (hfresh : ∀ u ∈ r.users, u.id ≠ userId ∧ u.username ≠ payload.username)
    (husers : ∀ x, x ∈ realm.users ↔ x ∈ r.users ∨ x = payload.representation.created userId)
    (hroles : realm.roles = r.roles)
    (hpassword : realm.WithUser userId (fun u => { u with password := some payload.password }) realm') :
    NewUser r payload userId realm' := by
  refine ⟨hfresh, fun x => ?_, hpassword.roles.trans hroles⟩
  rw [hpassword.users]
  constructor
  · intro hx
    rcases hx with ⟨u, hu, rfl⟩
    rcases (husers u).1 hu with hold | rfl
    · rw [if_neg (hfresh u hold).1]
      exact .inl hold
    · exact .inr (if_pos rfl)
  · intro hx
    rcases hx with hold | rfl
    · exact ⟨x, (husers x).2 (.inl hold), (if_neg (hfresh x hold).1).symm⟩
    · exact ⟨_, (husers _).2 (.inr rfl), (if_pos rfl).symm⟩

/-- The whole method, with its calls and with what has decided about the id of the new user. -/
theorem contract_createUser_calls (payload : CreateUserPayload) :
    Contract limits (CreatingUser s own payload)
      (fun own' m r =>
        match r with
        | .ok userId => (∃ realm, NewUser s.realm payload userId realm ∧
            m = { s with realm := realm }) ∧ (∃ ch, limits ch ∧ userId = ch.freshId) ∧
            ∃ n, Longer (n + 3) own own'
        | .error _ => m = s ∧ Longer 2 own own' ∧
            ∃ ch, limits ch ∧ ¬ s.realm.Creates payload.representation ch.toChoice)
      own s (createUser http payload) := by
  unfold createUser
  have h₀ := Longer.refl own
  -- The token, and then `POST users`.
  refine contract_read h₀ rfl rfl (.before (by decide : 0 < 2) h₀.calls (.inl rfl)) ?_
  intro _ _ own₁ h₁ _
  refine contract_write h₁ rfl (.before (by decide : 1 < 2) h₁.calls (.inr rfl)) ?_
  intro ch response own₂ m h₂ hlimits hanswer
  rcases keycloak_ok hanswer with ⟨realm, hpost, rfl⟩
  rcases postUser_ok hpost with ⟨hstatus, hsame, hrefused⟩ | ⟨hcreates, hstatus, hlocation, hroles, husers⟩
  · rw [if_pos hstatus]
    exact ⟨by rw [hsame], h₂, ch, hlimits, hrefused⟩
  · have hlow : ¬ 400 ≤ response.status := by
      rw [hstatus]
      decide
    rw [if_neg hlow]
    -- From here on the user is there.
    have huser : payload.representation.created ch.freshId ∈ realm.users := (husers _).2 (.inr rfl)
    have hfound : Contract limits (CreatingUser s own payload) _ own₂ { s with realm := realm }
        (createdUserId http payload response) :=
      contract_createdUserId hlocation hcreates.2 husers fun own' op n h hop =>
        .behind (by rw [h.calls, h₂.calls]; omega) huser (.inl hop)
    refine hfound.bind ?_ ?_
    · intro own₃ m userId hid
      rcases hid with ⟨rfl, hid, k, h₃⟩
      cases hid
      have hlong : Longer (2 + k) own own₃ := h₂.trans h₃
      -- The password is set last.
      refine contract_write hlong rfl (.behind (by rw [hlong.calls]; omega) huser (.inr rfl)) ?_
      intro ch' _ own₄ m' h₄ _ hdone
      rcases keycloak_ok hdone with ⟨realm', hput, rfl⟩
      refine ⟨⟨realm', .of_password hcreates.2 husers hroles (putPassword_ok hput), rfl⟩,
        ⟨ch, hlimits, rfl⟩, k, ?_⟩
      have hsum : k + 3 = 2 + k + 1 := by omega
      rw [hsum]
      exact h₄
    · intro own₃ m e herror
      cases herror.2.1

theorem contract_createUser (payload : CreateUserPayload) :
    Contract limits (Provisioning s own payload.username)
      (fun own' m r =>
        match r with
        | .ok userId => (∃ realm, NewUser s.realm payload userId realm ∧
            m = { s with realm := realm }) ∧ ∃ n, Longer (n + 3) own own'
        | .error _ => m = s ∧ Longer 2 own own' ∧
            ∃ ch, limits ch ∧ ¬ s.realm.Creates payload.representation ch.toChoice)
      own s (createUser http payload) := by
  refine (contract_createUser_calls payload).mono ?_ ?_
  · intro own' m op h
    cases h with
    | before hn hlen _ => exact .inl ⟨rfl, _, hn, hlen⟩
    | behind hlen huser _ => exact .inr ⟨hlen, ⟨_, huser, rfl⟩, _, rfl⟩
  · intro own' m r h
    cases r with
    | ok userId => exact ⟨h.1, h.2.2⟩
    | error e => exact h

/-! ## Checks on a new role -/

/-- How many calls `assignableRole` makes when it throws nothing. -/
def checkCalls (actor : Actor) : Nat :=
  if RolesService.isSuperAdmin actor then 2 else 3

/-- The role may be assigned by the actor. -/
structure Assignable (s : Store) (actor : Actor) (roleId : String) (role : Role) : Prop where
  mem : role ∈ s.roles
  id : role.id = roleId
  active : role.isActive = true
  live : role.isLive = true
  delegated : RolesService.isSuperAdmin actor = true ∨ ∃ d ∈ s.delegatedRoles, d.roleId = roleId ∧
    d.delegateKeycloakUserId = actor.sub.getD ""
  below : canAssignRoleToEmployee actor role.name = true

theorem InState.mono {k k' : Nat} (hk : k ≤ k') {own' : Own} {m : Store} {op : Op}
    (h : InState s own k own' m op) : InState s own k' own' m op := by
  rcases h with ⟨hm, hread, n, hn, hlen⟩
  exact ⟨hm, hread, n, by omega, hlen⟩

/-- The role exists and is delegated to the actor, unless that is a superadmin. -/
theorem contract_assertCanAssignRole (actor : Actor) (roleId : String) :
    Contract limits (InState s own (checkCalls actor - 1))
      (fun own' m r => m = s ∧
        match r with
        | .ok role => Longer (checkCalls actor - 1) own own' ∧
            (canAssignRoleToEmployee actor role.name = true → Assignable s actor roleId role) ∧
            role ∈ s.roles ∧ role.id = roleId
        | .error _ => (∃ n, Longer n own own') ∧ ∀ role, ¬ Assignable s actor roleId role)
      own s (RolesService.assertCanAssignRole actor roleId) := by
  unfold RolesService.assertCanAssignRole
  have h₀ := Longer.refl own
  have hcalls : 0 < checkCalls actor - 1 := by
    unfold checkCalls
    split <;> decide
  -- `findOne` of the live and active role.
  refine contract_read h₀ rfl rfl (h₀.inState rfl hcalls) ?_
  intro ch found own₁ h₁ hfound
  cases (found : Option Role) with
  | none =>
      refine ⟨rfl, ⟨1, h₁⟩, fun role h => ?_⟩
      have hdead := findActiveRole_none hfound h.mem h.id h.active
      simp [h.live] at hdead
  | some role =>
      rcases findActiveRole_some hfound with ⟨hmem, hid, hactive, hlive⟩
      -- A superadmin is not asked for a delegation.
      by_cases hsuper : RolesService.isSuperAdmin actor = true
      · have hone : checkCalls actor - 1 = 1 := by simp [checkCalls, hsuper]
        simp only [hsuper, if_true]
        refine ⟨rfl, ?_, fun hbelow => ⟨hmem, hid, hactive, hlive, .inl hsuper, hbelow⟩, hmem, hid⟩
        rw [hone]
        exact h₁
      · have htwo : checkCalls actor - 1 = 2 := by simp [checkCalls, hsuper]
        simp only [hsuper]
        refine contract_read h₁ rfl rfl (h₁.inState rfl (by omega)) ?_
        intro ch' delegation own₂ h₂ hdelegation
        cases (delegation : Option DelegatedRole) with
        | none =>
            refine ⟨rfl, ⟨2, h₂⟩, fun role' h => ?_⟩
            rcases h.delegated with hshort | ⟨d, hd, hrole, hdelegate⟩
            · exact hsuper hshort
            · exact findDelegation_none hdelegation hd hrole hdelegate
        | some d =>
            rcases findDelegation_some hdelegation with ⟨hd, hrole, hdelegate⟩
            refine ⟨rfl, ?_, fun hbelow =>
              ⟨hmem, hid, hactive, hlive, .inr ⟨d, hd, hrole, hdelegate⟩, hbelow⟩, hmem, hid⟩
            rw [htwo]
            exact h₂

/-- One role alone is never both a maker and a checker role. -/
theorem contract_assertMakerCheckerCompatibility (roleId : String) :
    Contract limits (InState s own 1)
      (fun own' m r => m = s ∧ r = .ok () ∧ Longer 1 own own')
      own s (RolesService.assertMakerCheckerCompatibility [roleId]) := by
  unfold RolesService.assertMakerCheckerCompatibility
  have h₀ := Longer.refl own
  refine contract_read h₀ rfl rfl (h₀.inState rfl (by decide)) ?_
  intro ch roles own₁ h₁ hfound
  have hone : ¬ ((roles : List Role).any (fun r => r.dutyType = .MAKER) &&
      (roles : List Role).any (fun r => r.dutyType = .CHECKER)) = true := by
    intro hboth
    rw [Bool.and_eq_true, List.any_eq_true, List.any_eq_true] at hboth
    rcases hboth with ⟨⟨maker, hmaker, hduty⟩, checker, hchecker, hduty'⟩
    rcases findRoles_ok hfound hmaker with ⟨hmem, hid⟩
    rcases findRoles_ok hfound hchecker with ⟨hmem', hid'⟩
    have hsame : maker = checker := Sql.Table.eq_of_id hmem hmem'
      ((List.mem_singleton.1 hid).trans (List.mem_singleton.1 hid').symm)
    subst hsame
    simp only [decide_eq_true_eq] at hduty hduty'
    rw [hduty] at hduty'
    cases hduty'
  rw [if_neg hone]
  exact ⟨rfl, rfl, h₁⟩

theorem contract_assignableRole (actor : Actor) (roleId : String) :
    Contract limits (InState s own (checkCalls actor))
      (fun own' m r => m = s ∧
        match r with
        | .ok role => Longer (checkCalls actor) own own' ∧ Assignable s actor roleId role
        | .error _ => (∃ n, Longer n own own') ∧ ∀ role, ¬ Assignable s actor roleId role)
      own s (EmployeesService.assignableRole actor roleId) := by
  unfold EmployeesService.assignableRole
  have hcalls : checkCalls actor - 1 + 1 = checkCalls actor := by
    unfold checkCalls
    split <;> rfl
  -- `assertCanAssignRole`.
  have hrole : Contract limits (InState s own (checkCalls actor)) _ own s _ :=
    (contract_assertCanAssignRole actor roleId).mono (fun _ _ _ h => h.mono (by omega))
      fun _ _ _ h => h
  refine hrole.bind ?_ ?_
  · intro own₁ m role h
    rcases h with ⟨rfl, h₁, hassignable, hmem, hid⟩
    -- `assertMakerCheckerCompatibility`.
    have hduty : Contract limits (InState m own (checkCalls actor)) _ own₁ m _ :=
      (contract_assertMakerCheckerCompatibility roleId).mono
        (fun own' m' op h => by
          rcases h with ⟨hm, hread, n, hn, hlen⟩
          exact ⟨hm, hread, checkCalls actor - 1 + n, by omega, by rw [hlen, h₁.calls]; omega⟩)
        fun _ _ _ h => h
    refine hduty.bind ?_ ?_
    · intro own₂ m' _ h
      rcases h with ⟨rfl, _, h₂⟩
      -- `assertActorCanAssignRole` compares the ranks.
      unfold EmployeesService.assertActorCanAssignRole
      by_cases hbelow : canAssignRoleToEmployee actor role.name = true
      · rw [if_pos hbelow]
        refine ⟨rfl, ?_, hassignable hbelow⟩
        have hboth := h₁.trans h₂
        rw [hcalls] at hboth
        exact hboth
      · rw [if_neg hbelow]
        refine ⟨rfl, ⟨_, h₁.trans h₂⟩, fun role' h => hbelow ?_⟩
        have hsame : role' = role := Sql.Table.eq_of_id h.mem hmem (h.id.trans hid.symm)
        exact hsame ▸ h.below
    · intro own₂ m' e h
      cases h.2.1
  · intro own₁ m e h
    exact h

/-! ## Publishing -/

/-- The role can be shown: it is there, and so are the permissions mapped to it. -/
structure Showable (s : Store) (roleId : String) : Prop where
  live : ∃ role ∈ s.roles, role.id = roleId ∧ role.isLive = true
  permissions : ∀ m ∈ s.rolePermissions, m.roleId = roleId → s.mappedPermission m ≠ none

theorem mapM_permissionDetails {mappings : List (RolePermission × Option Permission)} :
    (∃ details, mappings.mapM (fun m => RolesService.permissionDetails m.2) = .ok details) ↔
      ∀ m ∈ mappings, m.2 ≠ none := by
  induction mappings with
  | nil => simp [pure, Except.pure]
  | cons m mappings ih =>
      rcases m with ⟨mapping, permission⟩
      rw [List.mapM_cons, List.forall_mem_cons]
      cases permission with
      | none => simp [RolesService.permissionDetails, Bind.bind, Except.bind]
      | some p =>
          rw [← ih]
          cases hrest : mappings.mapM (fun m => RolesService.permissionDetails m.2) with
          | error e => simp [RolesService.permissionDetails, Bind.bind, Except.bind]
          | ok rest => simp [RolesService.permissionDetails, Bind.bind, Except.bind, Pure.pure, Except.pure]

theorem contract_findRoleWithPermissions (roleId : String) :
    Contract limits (InState s own 3)
      (fun own' m r => m = s ∧
        match r with
        | .ok _ => Longer 3 own own' ∧ Showable s roleId
        | .error _ => (∃ n, Longer n own own') ∧ ¬ Showable s roleId)
      own s (RolesService.findRoleWithPermissions roleId) := by
  unfold RolesService.findRoleWithPermissions
  have h₀ := Longer.refl own
  -- The role, its mappings and its delegations are read, whatever they are.
  refine contract_read h₀ rfl rfl (h₀.inState rfl (by decide)) ?_
  intro ch found own₁ h₁ hfound
  cases (found : Option Role) with
  | none =>
      refine ⟨rfl, ⟨1, h₁⟩, fun h => ?_⟩
      rcases h.live with ⟨role, hrole, hid, hlive⟩
      have hdead := findRole_none hfound hrole hid
      simp [hlive] at hdead
  | some role =>
      rcases findRole_some hfound with ⟨hmem, hid, hlive⟩
      refine contract_read h₁ rfl rfl (h₁.inState rfl (by decide)) ?_
      intro ch' mappings own₂ h₂ hmappings
      refine contract_read h₂ rfl rfl (h₂.inState rfl (by decide)) ?_
      intro ch'' delegations own₃ h₃ _
      have hall : (∀ m ∈ (mappings : List (RolePermission × Option Permission)), m.2 ≠ none) ↔
          Showable s roleId := by
        rw [findMappings_ok hmappings]
        constructor
        · intro h
          refine ⟨⟨role, hmem, hid, hlive⟩, fun m hm hrole => ?_⟩
          exact h (m, s.mappedPermission m)
            (List.mem_map.2 ⟨m, Sql.Table.mem_find.2 ⟨hm, by simp [hrole]⟩, rfl⟩)
        · intro h pair hpair
          rcases List.mem_map.1 hpair with ⟨m, hm, rfl⟩
          have hfind := Sql.Table.mem_find.1 hm
          exact h.permissions m hfind.1 (by simpa using hfind.2)
      -- `mapM` throws at the first mapping whose permission is deleted.
      cases hdetails : (mappings : List (RolePermission × Option Permission)).mapM
          (fun m => RolesService.permissionDetails m.2) with
      | ok details => exact ⟨rfl, h₃, hall.1 (mapM_permissionDetails.1 ⟨details, hdetails⟩)⟩
      | error e =>
          refine ⟨rfl, ⟨3, h₃⟩, fun h => ?_⟩
          rcases mapM_permissionDetails.2 (hall.2 h) with ⟨details, hok⟩
          rw [hdetails] at hok
          cases hok

/-- The calls read, in the state `s`, and are made after those of `own`. -/
def After (s : Store) (own : Own) : Own → Store → Op → Prop :=
  fun own' m op => m = s ∧ op.isRead = true ∧ own.length ≤ own'.length

/-- The event is published unless the role cannot be shown. -/
theorem contract_publishAccount (employee : Employee) (assignment : EmployeeUserRole) (role : Role)
    (updatedBy : Option String) :
    Contract limits (After s own)
      (fun own' m r => m = s ∧
        match r with
        | .ok _ => published own' = published own ++ [EmployeesService.synced employee role] ∧
            Showable s role.id
        | .error _ => ¬ Showable s role.id)
      own s (EmployeesService.publishAccount employee assignment role updatedBy) := by
  unfold EmployeesService.publishAccount
  -- The role is shown before the event is published.
  have hdetails : Contract limits (After s own) _ own s _ :=
    (contract_findRoleWithPermissions role.id).mono
      (fun own' m op h => by
        rcases h with ⟨hm, hread, n, _, hlen⟩
        exact ⟨hm, hread, by omega⟩)
      fun _ _ _ h => h
  refine hdetails.bind ?_ ?_
  · intro own₁ m details h
    rcases h with ⟨rfl, h₁, hshow⟩
    refine straight_call_bind ⟨rfl, rfl, by rw [h₁.calls]; omega⟩ ?_
    intro ch _ m' _ hpublish
    have hevent : perform (.publish (EmployeesService.synced employee role)) ch m = (_, m') := hpublish
    have hsame := perform_read rfl hevent
    subst hsame
    have hlen := h₁.calls
    have hpublished := h₁.quiet
    generalize hown₂ : own₁ ++ [_] = own₂
    have hpublished₂ : published own₂ =
        published own ++ [EmployeesService.synced employee role] := by
      rw [← hown₂, published_append, hpublished]
      rfl
    have hlen₂ : own.length ≤ own₂.length := by
      rw [← hown₂, List.length_append]
      omega
    -- The realm roles of the user are only read for the reply.
    unfold getUserRealmRoles
    rw [bind_assoc]
    have h₀ := Longer.refl own₂
    refine contract_read h₀ rfl rfl ⟨rfl, rfl, hlen₂⟩ ?_
    intro _ _ own₃ h₃ _
    refine contract_read h₃ rfl rfl ⟨rfl, rfl, by rw [h₃.calls]; omega⟩ ?_
    intro _ roles own₄ h₄ _
    exact ⟨rfl, h₄.quiet.trans hpublished₂, hshow⟩
  · intro own₁ m e h
    exact ⟨h.1, h.2.2⟩

end Contracts

end Rbac
end IdentityBillpay
