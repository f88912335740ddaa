import IdentityBillpay.Sql.Table

/-!
# Realm — Keycloak as its admin API shows it

* `HttpError` — what a request of the service is rejected with;
* `KeycloakUser`, `Role`, `Realm` — the users and the roles of the realm;
* `KeycloakOp`, `Realm.perform` — the calls of the admin API, each one atomic;
* `perform_cases`, `perform_users_cases` — all that one call can do to the users.
-/

namespace IdentityBillpay
namespace Keycloak

/-! ## Errors -/

/-- The exceptions that reach a caller. Two come from outside: from the database driver and from the
HTTP client, each with a message of its own. The last one is thrown by the language. -/
inductive HttpError
  | notFound (message : String)
  | badRequest (message : String)
  | forbidden (message : String)
  | unauthorized (message : String)
  | conflict (message : String)
  | queryFailed (message : String)
  | httpFailed (message : String)
  | typeError (message : String)
  deriving DecidableEq

/-- `(error as Error).message`. -/
def HttpError.message : HttpError → String
  | notFound message | badRequest message | forbidden message | unauthorized message => message
  | conflict message | queryFailed message | httpFailed message | typeError message => message

/-- The error comes from outside: from the database or from the HTTP client. -/
def HttpError.fromOutside : HttpError → Bool
  | queryFailed _ | httpFailed _ => true
  | _ => false

/-! ## The realm -/

/-- A realm role. -/
structure Role where
  id : String
  name : String
  description : String
  deriving DecidableEq

/-- The body of `POST users`. -/
structure UserRepresentation where
  username : String
  email : String
  firstName : String
  lastName : String
  enabled : Bool
  emailVerified : Bool
  deriving DecidableEq

structure KeycloakUser extends UserRepresentation where
  id : String
  password : Option String
  realmRoles : List Role
  deriving DecidableEq

/-- Users are unique by username, roles by name. -/
structure Realm where
  users : Sql.Table KeycloakUser.id (fun u : KeycloakUser => u.username)
  roles : Sql.Table Role.id Role.name

/-- The answer to `POST users`; a `location` is given by its path segments. -/
structure CreateUserResponse where
  status : Nat
  errorMessage : Option String
  location : Option (List String)
  deriving DecidableEq

/-- The calls that need an access token of the administrator, and the call that gets one. -/
inductive KeycloakOp
  | postAdminToken
  | postUser (user : UserRepresentation)
  | getUsers (username : String)
  | putPassword (userId password : String)
  | getRole (roleName : String)
  | getRoleMappings (userId : String)
  | postRoleMapping (userId : String) (role : Role)
  | deleteRoleMapping (userId : String) (role : Role)
  | putEnabled (userId : String) (enabled : Bool)
  | postRole (name description : String)
  /-- The body repeats the id and the name that the role has. -/
  | putRole (roleName description : String)
  deriving DecidableEq

abbrev KeycloakOp.Res : KeycloakOp → Type
  | .postUser _ => CreateUserResponse
  | .getUsers _ => List KeycloakUser
  | .getRole _ => Role
  | .getRoleMappings _ => List Role
  | _ => Unit

instance : (op : KeycloakOp) → DecidableEq op.Res
  | .postUser _ => inferInstanceAs (DecidableEq CreateUserResponse)
  | .getUsers _ => inferInstanceAs (DecidableEq (List KeycloakUser))
  | .getRole _ => inferInstanceAs (DecidableEq Role)
  | .getRoleMappings _ => inferInstanceAs (DecidableEq (List Role))
  | .postAdminToken | .putPassword _ _ | .postRoleMapping _ _ => inferInstanceAs (DecidableEq Unit)
  | .deleteRoleMapping _ _ | .putEnabled _ _ => inferInstanceAs (DecidableEq Unit)
  | .postRole _ _ | .putRole _ _ => inferInstanceAs (DecidableEq Unit)

/-- What the environment decides about one call: whether it fails and with which message, whether
only its reply is lost, whether Keycloak refuses a new user (with a status below 500), the id of a
new user, and whether the answer names its location. -/
structure Choice where
  fails : Bool
  lost : Bool
  message : String
  refusal : Option (Nat × Option String)
  freshId : String
  location : Option (List String)

/-! ## Performing a call -/

/-- A call. When its reply is lost, it has still been carried out. -/
def request {α : Type} (ch : Choice) (r : Realm) (carriedOut : Option (α × Realm)) :
    Except HttpError α × Realm :=
  match carriedOut with
  | some (a, r') =>
      if ch.fails then (.error (.httpFailed ch.message), r)
      else if ch.lost then (.error (.httpFailed ch.message), r')
      else (.ok a, r')
  | none => (.error (.httpFailed ch.message), r)

/-- The user that `POST users` creates. -/
def UserRepresentation.created (user : UserRepresentation) (id : String) : KeycloakUser :=
  ⟨user, id, none, []⟩

/-- Keycloak's answer to `POST users`: a refusal, a conflict, or the new user. -/
def postUser (r : Realm) (user : UserRepresentation) (ch : Choice) : CreateUserResponse × Realm :=
  match ch.refusal with
  | some (n, message) => (⟨400 + n % 100, message, none⟩, r)
  | none =>
      match r.users.insert? (user.created ch.freshId) with
      | some t =>
          (⟨201, none, ch.location.map fun path => path ++ [ch.freshId]⟩, { r with users := t })
      | none => (⟨409, some "User exists with same username", none⟩, r)

/-- A change of one user; refused when there is no such user. -/
def updateUser (r : Realm) (userId : String) (f : KeycloakUser → KeycloakUser)
    (hid : ∀ u, (f u).id = u.id) (hname : ∀ u, (f u).username = u.username) :
    Option (Unit × Realm) :=
  if ∃ u ∈ r.users, u.id = userId then
    some ((), { r with users := r.users.modify (fun u => u.id == userId) f hid hname })
  else none

/-- A new role; refused when its name is taken. -/
def postRole (r : Realm) (role : Role) : Option (Unit × Realm) :=
  (r.roles.insert? role).map fun t => ((), { r with roles := t })

/-- The role as a change of its description leaves it. -/
def Role.described (roleName description : String) (role : Role) : Role :=
  { role with description := if role.name == roleName then description else role.description }

/-- A change of a role's description, which every user who holds the role shows as well. -/
def putRole (r : Realm) (roleName description : String) : Option (Unit × Realm) :=
  if ∃ role ∈ r.roles, role.name = roleName then
    some ((),
      -- The users hold copies of the role, which show the new text as well.
      { users := r.users.modify (fun _ => true)
          (fun u => { u with realmRoles := u.realmRoles.map (Role.described roleName description) })
          (fun _ => rfl) (fun _ => rfl)
        roles := r.roles.modify (fun _ => true) (Role.described roleName description)
          (fun _ => rfl) (fun _ => rfl) })
  else none

def Realm.perform (op : KeycloakOp) (ch : Choice) (r : Realm) : Except HttpError op.Res × Realm :=
  match op with
  | .postAdminToken => request ch r (some ((), r))
  | .postUser user => request ch r (some (postUser r user ch))
  | .getUsers username => request ch r (some (r.users.find fun u => u.username == username, r))
  | .putPassword userId password =>
      request ch r (updateUser r userId (fun u => { u with password := some password })
        (fun _ => rfl) (fun _ => rfl))
  | .getRole roleName =>
      request ch r ((r.roles.findOne (fun role => role.name == roleName) 0).map fun role => (role, r))
  | .getRoleMappings userId =>
      request ch r ((r.users.findOne (fun u => u.id == userId) 0).map fun u => (u.realmRoles, r))
  | .postRoleMapping userId role =>
      request ch r (updateUser r userId
        (fun u => { u with realmRoles := u.realmRoles.filter (·.id ≠ role.id) ++ [role] })
        (fun _ => rfl) (fun _ => rfl))
  | .deleteRoleMapping userId role =>
      request ch r (updateUser r userId
        (fun u => { u with realmRoles := u.realmRoles.filter (·.id ≠ role.id) })
        (fun _ => rfl) (fun _ => rfl))
  | .putEnabled userId enabled =>
      request ch r (updateUser r userId (fun u => { u with enabled := enabled })
        (fun _ => rfl) (fun _ => rfl))
  | .postRole name description => request ch r (postRole r ⟨ch.freshId, name, description⟩)
  | .putRole roleName description => request ch r (putRole r roleName description)

/-! ## What a call does -/

theorem request_cases {α : Type} (ch : Choice) (r : Realm) (carriedOut : Option (α × Realm)) :
    (∃ e, request ch r carriedOut = (.error e, r)) ∨
      ∃ a r', carriedOut = some (a, r') ∧ ch.fails = false ∧
        (request ch r carriedOut = (.ok a, r') ∨ ∃ e, request ch r carriedOut = (.error e, r')) := by
  cases carriedOut with
  | none => exact .inl ⟨_, rfl⟩
  | some result =>
      rcases result with ⟨a, r'⟩
      cases hfails : ch.fails with
      | true => simp [request, hfails]
      | false =>
          right
          cases hlost : ch.lost with
          | true => simp [request, hfails, hlost]
          | false => simp [request, hfails, hlost]

/-- What a call leaves, whether its reply is lost or not. -/
theorem request_state {α : Type} (ch : Choice) (r : Realm) (result : α × Realm) :
    (request ch r (some result)).2 = if ch.fails then r else result.2 := by
  cases hfails : ch.fails with
  | true => simp [request, hfails]
  | false =>
      cases hlost : ch.lost with
      | true => simp [request, hfails, hlost]
      | false => simp [request, hfails, hlost]

/-- A call fails with an error of the HTTP client. -/
theorem Realm.perform_error {op : KeycloakOp} {ch : Choice} {r : Realm} {e : HttpError}
    (h : (r.perform op ch).1 = .error e) : e.fromOutside = true := by
  have hrequest : ∀ {α : Type} {carriedOut : Option (α × Realm)},
      (request ch r carriedOut).1 = .error e → e.fromOutside = true := by
    intro α carriedOut hr
    unfold request at hr
    split at hr
    · split at hr
      · cases hr
        rfl
      · split at hr
        · cases hr
          rfl
        · cases hr
    · cases hr
      rfl
  cases op with
  | postAdminToken => exact hrequest h
  | postUser user => exact hrequest h
  | getUsers username => exact hrequest h
  | putPassword userId password => exact hrequest h
  | getRole roleName => exact hrequest h
  | getRoleMappings userId => exact hrequest h
  | postRoleMapping userId role => exact hrequest h
  | deleteRoleMapping userId role => exact hrequest h
  | putEnabled userId enabled => exact hrequest h
  | postRole name description => exact hrequest h
  | putRole roleName description => exact hrequest h

/-- Ids and flags of the users. -/
def Realm.flags (r : Realm) : List (String × Bool) :=
  r.users.rows.map fun u => (u.id, u.enabled)

theorem updateUser_flags {r r' : Realm} {userId : String} {f : KeycloakUser → KeycloakUser}
    {hid : ∀ u, (f u).id = u.id} {hname : ∀ u, (f u).username = u.username} {a : Unit}
    (h : updateUser r userId f hid hname = some (a, r'))
    (hflag : ∀ u, (f u).enabled = u.enabled) : r'.flags = r.flags := by
  unfold updateUser at h
  split at h
  · cases h
    simp only [Realm.flags, Sql.Table.modify, List.map_map]
    refine List.map_congr_left fun u _ => ?_
    by_cases hu : u.id = userId
    · simp [hu, hid, hflag]
    · simp [hu]
  · cases h

theorem request_flags {α : Type} {ch : Choice} {r : Realm} {carriedOut : Option (α × Realm)}
    (h : ∀ a r', carriedOut = some (a, r') → r'.flags = r.flags) :
    (request ch r carriedOut).2.flags = r.flags := by
  rcases request_cases ch r carriedOut with ⟨e, hr⟩ | ⟨a, r', hsome, _, hr | ⟨e, hr⟩⟩
  · rw [hr]
  · rw [hr]
    exact h a r' hsome
  · rw [hr]
    exact h a r' hsome

/-- Only two calls touch ids and flags. -/
def KeycloakOp.setsFlags : KeycloakOp → Bool
  | .postUser _ | .putEnabled _ _ => true
  | _ => false

theorem perform_flags {op : KeycloakOp} (h : op.setsFlags = false) (ch : Choice) (r : Realm) :
    (r.perform op ch).2.flags = r.flags := by
  -- Only `POST users` and the update of `enabled` set a flag.
  cases op with
  | postUser user => cases h
  | putEnabled userId enabled => cases h
  | postAdminToken => exact request_flags fun a r' hr => by cases hr; rfl
  | getUsers username => exact request_flags fun a r' hr => by cases hr; rfl
  | getRole roleName =>
      refine request_flags fun a r' hr => ?_
      rcases Option.map_eq_some_iff.1 hr with ⟨role, _, hrole⟩
      cases hrole
      rfl
  | getRoleMappings userId =>
      refine request_flags fun a r' hr => ?_
      rcases Option.map_eq_some_iff.1 hr with ⟨u, _, hu⟩
      cases hu
      rfl
  | putPassword userId password =>
      exact request_flags fun a r' hr => updateUser_flags hr fun _ => rfl
  | postRoleMapping userId role =>
      exact request_flags fun a r' hr => updateUser_flags hr fun _ => rfl
  | deleteRoleMapping userId role =>
      exact request_flags fun a r' hr => updateUser_flags hr fun _ => rfl
  | postRole name description =>
      refine request_flags fun a r' hr => ?_
      rcases Option.map_eq_some_iff.1 hr with ⟨t, _, ht⟩
      cases ht
      rfl
  | putRole roleName description =>
      refine request_flags fun a r' hr => ?_
      unfold putRole at hr
      split at hr
      · cases hr
        simp [Realm.flags, Sql.Table.modify]
      · cases hr

/-- Keycloak creates the user: nothing refuses it, and its id and its username are free. -/
def Realm.Creates (r : Realm) (user : UserRepresentation) (ch : Choice) : Prop :=
  ch.refusal = none ∧ ∀ u ∈ r.users, u.id ≠ ch.freshId ∧ u.username ≠ user.username

instance (r : Realm) (user : UserRepresentation) (ch : Choice) : Decidable (r.Creates user ch) :=
  inferInstanceAs (Decidable (_ ∧ ∀ u ∈ r.users, _))

theorem postUser_created {r : Realm} {user : UserRepresentation} {ch : Choice}
    (h : r.Creates user ch) :
    ∃ t, postUser r user ch =
        (⟨201, none, ch.location.map fun path => path ++ [ch.freshId]⟩, { r with users := t }) ∧
      ∀ x, x ∈ t ↔ x ∈ r.users ∨ x = user.created ch.freshId := by
  have hid : ∀ u ∈ r.users, u.id ≠ (user.created ch.freshId).id := fun u hu => (h.2 u hu).1
  rcases Sql.Table.exists_insert? hid fun u hu => (h.2 u hu).2 with ⟨t, ht⟩
  refine ⟨t, ?_, fun x => Sql.Table.mem_insert? ht⟩
  simp [postUser, h.1, ht]

theorem postUser_refused {r : Realm} {user : UserRepresentation} {ch : Choice}
    (h : ¬ r.Creates user ch) :
    (postUser r user ch).2 = r ∧ 400 ≤ (postUser r user ch).1.status := by
  cases hrefusal : ch.refusal with
  | some refusal => simp [postUser, hrefusal]
  | none =>
      cases hinsert : r.users.insert? (user.created ch.freshId) with
      | some t =>
          refine absurd ⟨hrefusal, fun u hu => ?_⟩ h
          exact Sql.Table.insert?_fresh hinsert hu
      | none => simp [postUser, hrefusal, hinsert]

end Keycloak
end IdentityBillpay
