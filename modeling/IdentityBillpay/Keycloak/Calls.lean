import IdentityBillpay.Keycloak.Realm

/-!
# Calls — what an answered call of the admin API tells, and what it does

* `request_ok`, `request_error` — a call that is answered has been carried out, and one that fails
  has not, unless its reply was lost;
* `getRole_ok`, `postUser_ok`, `postRoleMapping_ok`, … — one lemma a call;
* `Realm.WithUser` — the users of a realm, one of them changed;
* `perform_keepsUsers` — no call removes a user;
* `Realm.Holds` — who holds which role, before and after a mapping.
-/

namespace IdentityBillpay
namespace Keycloak

theorem request_ok {α : Type} {ch : Choice} {r r' : Realm} {carriedOut : Option (α × Realm)} {a : α}
    (h : request ch r carriedOut = (.ok a, r')) : carriedOut = some (a, r') := by
  cases carriedOut with
  | none => cases h
  | some result =>
      rcases result with ⟨b, r₁⟩
      cases hfails : ch.fails with
      | true => simp [request, hfails] at h
      | false =>
          cases hlost : ch.lost with
          | true => simp [request, hfails, hlost] at h
          | false => simpa [request, hfails, hlost] using h

/-- A call that fails has had an effect only if Keycloak carried it out and its reply was lost. -/
def Choice.Silent (ch : Choice) : Prop := ch.fails = true ∨ ch.lost = false

instance (ch : Choice) : Decidable ch.Silent :=
  inferInstanceAs (Decidable (_ ∨ _))

theorem request_error {α : Type} {ch : Choice} {r r' : Realm} {carriedOut : Option (α × Realm)}
    {e : HttpError} (hsilent : ch.Silent) (h : request ch r carriedOut = (.error e, r')) :
    r' = r := by
  cases carriedOut with
  | none => exact (Prod.mk.inj h).2.symm
  | some result =>
      rcases result with ⟨b, r₁⟩
      cases hfails : ch.fails with
      | true =>
          have hsame : (Except.error (HttpError.httpFailed ch.message), r) =
              ((.error e, r') : Except HttpError α × Realm) := by
            simpa [request, hfails] using h
          exact (Prod.mk.inj hsame).2.symm
      | false =>
          have hlost : ch.lost = false := by simpa [Choice.Silent, hfails] using hsilent
          simp [request, hfails, hlost] at h

/-- A call that Keycloak accepts, and whose reply is lost. -/
theorem request_lost {α : Type} {ch : Choice} {r r' : Realm} {a : α} (h : ¬ ch.Silent) :
    request ch r (some (a, r')) = (.error (.httpFailed ch.message), r') := by
  have hch : ch.fails = false ∧ ch.lost = true := by simpa [Choice.Silent] using h
  simp [request, hch.1, hch.2]

/-- A call that Keycloak accepts, over a connection that holds. -/
theorem request_done {α : Type} {ch : Choice} {r r' : Realm} {a : α} (hfails : ch.fails = false)
    (hlost : ch.lost = false) : request ch r (some (a, r')) = (.ok a, r') := by
  simp [request, hfails, hlost]

/-- A call that fails leaves the realm as it was, unless only its reply was lost. -/
theorem perform_error_state {op : KeycloakOp} {ch : Choice} {r r' : Realm} {e : HttpError}
    (hsilent : ch.Silent) (h : r.perform op ch = (.error e, r')) : r' = r := by
  cases op with
  | postAdminToken => exact @request_error Unit ch r r' (some ((), r)) e hsilent h
  | postUser user => exact @request_error _ ch r r' (some (postUser r user ch)) e hsilent h
  | getUsers username => exact @request_error _ ch r r' (some (_, r)) e hsilent h
  | putPassword userId password => exact request_error hsilent h
  | getRole roleName => exact request_error hsilent h
  | getRoleMappings userId => exact request_error hsilent h
  | postRoleMapping userId role => exact request_error hsilent h
  | deleteRoleMapping userId role => exact request_error hsilent h
  | putEnabled userId enabled => exact request_error hsilent h
  | postRole name description => exact request_error hsilent h
  | putRole roleName description => exact request_error hsilent h

/-! ## Reading -/

def KeycloakOp.isRead : KeycloakOp → Bool
  | .postAdminToken | .getUsers _ | .getRole _ | .getRoleMappings _ => true
  | _ => false

theorem perform_read {op : KeycloakOp} (hop : op.isRead = true) (ch : Choice) (r : Realm) :
    (r.perform op ch).2 = r := by
  have hrequest : ∀ {α : Type} {carriedOut : Option (α × Realm)},
      (∀ a r', carriedOut = some (a, r') → r' = r) → (request ch r carriedOut).2 = r := by
    intro α carriedOut hsame
    rcases request_cases ch r carriedOut with ⟨e, hr⟩ | ⟨a, r', hsome, _, hr | ⟨e, hr⟩⟩
    · rw [hr]
    · rw [hr]
      exact hsame a r' hsome
    · rw [hr]
      exact hsame a r' hsome
  cases op with
  | postAdminToken => exact hrequest fun a r' hr => by cases hr; rfl
  | getUsers username => exact hrequest fun a r' hr => by cases hr; rfl
  | getRole roleName =>
      refine hrequest fun a r' hr => ?_
      rcases Option.map_eq_some_iff.1 hr with ⟨role, _, hrole⟩
      cases hrole
      rfl
  | getRoleMappings userId =>
      refine hrequest fun a r' hr => ?_
      rcases Option.map_eq_some_iff.1 hr with ⟨u, _, hu⟩
      cases hu
      rfl
  | _ => simp [KeycloakOp.isRead] at hop

theorem getRole_ok {name : String} {ch : Choice} {r r' : Realm} {role : Role}
    (h : r.perform (.getRole name) ch = (.ok role, r')) :
    role ∈ r.roles ∧ role.name = name := by
  rcases Option.map_eq_some_iff.1 (request_ok h) with ⟨found, hfound, heq⟩
  cases heq
  have hmem := Sql.Table.findOne_some hfound
  exact ⟨hmem.1, by simpa using hmem.2⟩

theorem getUsers_ok {username : String} {ch : Choice} {r r' : Realm} {users : List KeycloakUser}
    (h : r.perform (.getUsers username) ch = (.ok users, r')) {u : KeycloakUser} :
    u ∈ users ↔ u ∈ r.users ∧ u.username = username := by
  have hsome := @request_ok _ ch r r'
    (some (r.users.find fun u => u.username == username, r)) users h
  cases hsome
  simp

/-! ## Writing -/

/-- The users of `r'` are those of `r`, the one with the given id as `f` changes it. -/
structure Realm.WithUser (r : Realm) (userId : String) (f : KeycloakUser → KeycloakUser)
    (r' : Realm) : Prop where
  exists_user : ∃ u ∈ r.users, u.id = userId
  users : ∀ x, x ∈ r'.users ↔ ∃ u ∈ r.users, x = if u.id = userId then f u else u
  roles : r'.roles = r.roles

theorem updateUser_some {r r' : Realm} {userId : String} {f : KeycloakUser → KeycloakUser}
    {hid : ∀ u, (f u).id = u.id} {hname : ∀ u, (f u).username = u.username} {a : Unit}
    (h : updateUser r userId f hid hname = some (a, r')) : r.WithUser userId f r' := by
  unfold updateUser at h
  split at h
  · rename_i huser
    cases h
    refine ⟨huser, fun x => ?_, rfl⟩
    rw [Sql.Table.mem_modify]
    simp only [beq_iff_eq]
  · cases h

theorem putPassword_ok {userId password : String} {ch : Choice} {r r' : Realm} {a : Unit}
    (h : r.perform (.putPassword userId password) ch = (.ok a, r')) :
    r.WithUser userId (fun u => { u with password := some password }) r' :=
  updateUser_some (request_ok h)

/-- The user as a new role makes it. -/
def KeycloakUser.assigned (role : Role) (u : KeycloakUser) : KeycloakUser :=
  { u with realmRoles := u.realmRoles.filter (·.id ≠ role.id) ++ [role] }

/-- The user without a role. -/
def KeycloakUser.unassigned (role : Role) (u : KeycloakUser) : KeycloakUser :=
  { u with realmRoles := u.realmRoles.filter (·.id ≠ role.id) }

theorem postRoleMapping_ok {userId : String} {role : Role} {ch : Choice} {r r' : Realm} {a : Unit}
    (h : r.perform (.postRoleMapping userId role) ch = (.ok a, r')) :
    r.WithUser userId (KeycloakUser.assigned role) r' :=
  updateUser_some (request_ok h)

/-- A change of a user that is carried out is carried out as a whole, also when its reply is lost. -/
theorem request_updateUser {userId : String} {f : KeycloakUser → KeycloakUser}
    {hid : ∀ u, (f u).id = u.id} {hname : ∀ u, (f u).username = u.username} {ch : Choice}
    {r r' : Realm} {res : Except HttpError Unit}
    (h : request ch r (updateUser r userId f hid hname) = (res, r')) :
    ((∃ e, res = .error e) ∧ r' = r) ∨ r.WithUser userId f r' := by
  rcases request_cases ch r (updateUser r userId f hid hname) with
    ⟨e, hr⟩ | ⟨a, r₁, hsome, _, hr | ⟨e, hr⟩⟩
  · cases h.symm.trans hr
    exact .inl ⟨⟨e, rfl⟩, rfl⟩
  · cases h.symm.trans hr
    exact .inr (updateUser_some hsome)
  · cases h.symm.trans hr
    exact .inr (updateUser_some hsome)

theorem postRoleMapping_cases {userId : String} {role : Role} {ch : Choice} {r r' : Realm}
    {res : Except HttpError Unit} (h : r.perform (.postRoleMapping userId role) ch = (res, r')) :
    ((∃ e, res = .error e) ∧ r' = r) ∨ r.WithUser userId (KeycloakUser.assigned role) r' :=
  request_updateUser h

theorem deleteRoleMapping_cases {userId : String} {role : Role} {ch : Choice} {r r' : Realm}
    {res : Except HttpError Unit} (h : r.perform (.deleteRoleMapping userId role) ch = (res, r')) :
    ((∃ e, res = .error e) ∧ r' = r) ∨ r.WithUser userId (KeycloakUser.unassigned role) r' :=
  request_updateUser h

/-- The removal of a role whose reply is lost. -/
theorem deleteRoleMapping_lost {userId : String} {role : Role} {ch : Choice} {r r' : Realm}
    {e : HttpError} (h : r.perform (.deleteRoleMapping userId role) ch = (.error e, r'))
    (hlost : ¬ ch.Silent) (huser : ∃ u ∈ r.users, u.id = userId) :
    r.WithUser userId (KeycloakUser.unassigned role) r' := by
  cases hupdate : updateUser r userId
      (fun u => { u with realmRoles := u.realmRoles.filter (·.id ≠ role.id) })
      (fun _ => rfl) (fun _ => rfl) with
  | none => simp [updateUser, huser] at hupdate
  | some result =>
      rcases result with ⟨a, r₁⟩
      have hr : request ch r (some (a, r₁)) = (.error e, r') := by
        rw [← hupdate]
        exact h
      rw [request_lost hlost] at hr
      rw [← (Prod.mk.inj hr).2]
      exact updateUser_some hupdate

theorem deleteRoleMapping_ok {userId : String} {role : Role} {ch : Choice} {r r' : Realm} {a : Unit}
    (h : r.perform (.deleteRoleMapping userId role) ch = (.ok a, r')) :
    r.WithUser userId (KeycloakUser.unassigned role) r' :=
  updateUser_some (request_ok h)

/-- An answer below 400 to `POST users` means that the user has been created. -/
theorem postUser_ok {user : UserRepresentation} {ch : Choice} {r r' : Realm}
    {response : CreateUserResponse} (h : r.perform (.postUser user) ch = (.ok response, r')) :
    (400 ≤ response.status ∧ r' = r ∧ ¬ r.Creates user ch) ∨
      (r.Creates user ch ∧ response.status = 201 ∧
        response.location = (ch.location.map fun path => path ++ [ch.freshId]) ∧
        r'.roles = r.roles ∧ ∀ x, x ∈ r'.users ↔ x ∈ r.users ∨ x = user.created ch.freshId) := by
  have hsome : postUser r user ch = (response, r') := Option.some.inj (request_ok h)
  by_cases hcreates : r.Creates user ch
  · rcases postUser_created hcreates with ⟨t, ht, hmem⟩
    rw [ht] at hsome
    cases hsome
    exact .inr ⟨hcreates, rfl, rfl, rfl, hmem⟩
  · have hrefused := postUser_refused hcreates
    rw [hsome] at hrefused
    exact .inl ⟨hrefused.2, hrefused.1, hcreates⟩

theorem postRole_ok {name description : String} {ch : Choice} {r r' : Realm} {a : Unit}
    (h : r.perform (.postRole name description) ch = (.ok a, r')) :
    (∀ role ∈ r.roles, role.name ≠ name) ∧
      (∀ x, x ∈ r'.roles ↔ x ∈ r.roles ∨ x = ⟨ch.freshId, name, description⟩) ∧
      r'.users = r.users := by
  rcases Option.map_eq_some_iff.1 (request_ok h) with ⟨t, ht, heq⟩
  cases heq
  exact ⟨fun role hrole => (Sql.Table.insert?_fresh ht hrole).2,
    fun x => Sql.Table.mem_insert? ht, rfl⟩

@[simp] theorem described_id (roleName description : String) (role : Role) :
    (role.described roleName description).id = role.id := rfl

@[simp] theorem described_name (roleName description : String) (role : Role) :
    (role.described roleName description).name = role.name := rfl

theorem putRole_ok {roleName description : String} {ch : Choice} {r r' : Realm} {a : Unit}
    (h : r.perform (.putRole roleName description) ch = (.ok a, r')) :
    (∀ x, x ∈ r'.roles ↔ ∃ role ∈ r.roles, x = role.described roleName description) ∧
      ∀ x, x ∈ r'.users ↔ ∃ u ∈ r.users,
        x = { u with realmRoles := u.realmRoles.map (Role.described roleName description) } := by
  have hsome := request_ok h
  unfold putRole at hsome
  split at hsome
  · cases hsome
    refine ⟨fun x => ?_, fun x => ?_⟩
    · have hmem := Sql.Table.mem_modify (t := r.roles) (p := fun _ => true) (x := x)
        (f := Role.described roleName description) (fun _ => rfl) (fun _ => rfl)
      simpa using hmem
    · have hmem := Sql.Table.mem_modify (t := r.users) (p := fun _ => true) (x := x)
        (f := fun u => { u with realmRoles := u.realmRoles.map (Role.described roleName description) })
        (fun _ => rfl) (fun _ => rfl)
      simpa using hmem
  · cases hsome

/-! ## Which users there are -/

/-- `r'` has the users of `r` under their names, and at most a new one with the id `freshId`. -/
structure Realm.KeepsUsers (r : Realm) (freshId : String) (r' : Realm) : Prop where
  kept : ∀ u ∈ r.users, ∃ u' ∈ r'.users, u'.id = u.id ∧ u'.username = u.username
  known : ∀ u' ∈ r'.users, (∃ u ∈ r.users, u.id = u'.id) ∨ u'.id = freshId

section Users

variable {r r' : Realm} {freshId : String}

theorem keepsUsers_of_eq (h : r'.users = r.users) : r.KeepsUsers freshId r' := by
  refine ⟨fun u hu => ⟨u, ?_, rfl, rfl⟩, fun u hu => .inl ⟨u, ?_, rfl⟩⟩
  · rw [h]
    exact hu
  · rw [← h]
    exact hu

theorem keepsUsers_of_map {g : KeycloakUser → KeycloakUser} (hid : ∀ u, (g u).id = u.id)
    (hname : ∀ u, (g u).username = u.username)
    (hmem : ∀ x, x ∈ r'.users ↔ ∃ u ∈ r.users, x = g u) : r.KeepsUsers freshId r' := by
  refine ⟨fun u hu => ⟨g u, (hmem _).2 ⟨u, hu, rfl⟩, hid u, hname u⟩, fun x hx => ?_⟩
  rcases (hmem x).1 hx with ⟨u, hu, rfl⟩
  exact .inl ⟨u, hu, (hid u).symm⟩

theorem updateUser_keepsUsers {userId : String} {f : KeycloakUser → KeycloakUser}
    {hid : ∀ u, (f u).id = u.id} {hname : ∀ u, (f u).username = u.username} {a : Unit}
    (h : updateUser r userId f hid hname = some (a, r')) : r.KeepsUsers freshId r' := by
  have hwith := updateUser_some h
  refine keepsUsers_of_map (g := fun u => if u.id = userId then f u else u) ?_ ?_ hwith.users
  · intro u
    split
    · exact hid u
    · rfl
  · intro u
    split
    · exact hname u
    · rfl

/-- No call removes a user or gives it another name. -/
theorem perform_keepsUsers (op : KeycloakOp) (ch : Choice) (r : Realm) :
    r.KeepsUsers ch.freshId (r.perform op ch).2 := by
  have hrequest : ∀ {α : Type} {carriedOut : Option (α × Realm)},
      (∀ a r', carriedOut = some (a, r') → r.KeepsUsers ch.freshId r') →
      r.KeepsUsers ch.freshId (request ch r carriedOut).2 := by
    intro α carriedOut hkeeps
    rcases request_cases ch r carriedOut with ⟨e, hr⟩ | ⟨a, r', hsome, _, hr | ⟨e, hr⟩⟩
    · rw [hr]
      exact keepsUsers_of_eq rfl
    · rw [hr]
      exact hkeeps a r' hsome
    · rw [hr]
      exact hkeeps a r' hsome
  by_cases hread : op.isRead = true
  · rw [perform_read hread]
    exact keepsUsers_of_eq rfl
  cases op with
  | postUser user =>
      refine hrequest fun a r' hr => ?_
      have hr' : r' = (postUser r user ch).2 := (congrArg Prod.snd (Option.some.inj hr)).symm
      rw [hr']
      by_cases hcreates : r.Creates user ch
      · rcases postUser_created hcreates with ⟨t, ht, hmem⟩
        rw [ht]
        refine ⟨fun u hu => ⟨u, (hmem u).2 (.inl hu), rfl, rfl⟩, fun x hx => ?_⟩
        rcases (hmem x).1 hx with hold | rfl
        · exact .inl ⟨x, hold, rfl⟩
        · exact .inr rfl
      · rw [(postUser_refused hcreates).1]
        exact keepsUsers_of_eq rfl
  | putPassword userId password => exact hrequest fun a r' hr => updateUser_keepsUsers hr
  | postRoleMapping userId role => exact hrequest fun a r' hr => updateUser_keepsUsers hr
  | deleteRoleMapping userId role => exact hrequest fun a r' hr => updateUser_keepsUsers hr
  | putEnabled userId enabled => exact hrequest fun a r' hr => updateUser_keepsUsers hr
  | postRole name description =>
      refine hrequest fun a r' hr => ?_
      rcases Option.map_eq_some_iff.1 hr with ⟨t, _, ht⟩
      cases ht
      exact keepsUsers_of_eq rfl
  | putRole roleName description =>
      refine hrequest fun a r' hr => ?_
      unfold putRole at hr
      split at hr
      · cases hr
        refine keepsUsers_of_map (g := fun u =>
          { u with realmRoles := u.realmRoles.map (Role.described roleName description) })
          (fun _ => rfl) (fun _ => rfl) fun x => ?_
        rw [Sql.Table.mem_modify]
        simp
      · cases hr
  | postAdminToken => exact absurd rfl hread
  | getUsers username => exact absurd rfl hread
  | getRole roleName => exact absurd rfl hread
  | getRoleMappings userId => exact absurd rfl hread

end Users

/-! ## Who holds which role -/

/-- The roles of the users are roles of the realm. -/
def Realm.Sound (r : Realm) : Prop :=
  ∀ u ∈ r.users, ∀ role ∈ u.realmRoles, role ∈ r.roles

/-- The user holds a role of the name. -/
def Realm.Holds (r : Realm) (userId name : String) : Prop :=
  ∃ u ∈ r.users, u.id = userId ∧ ∃ role ∈ u.realmRoles, role.name = name

instance (r : Realm) : Decidable r.Sound :=
  inferInstanceAs (Decidable (∀ u ∈ r.users, ∀ role ∈ u.realmRoles, role ∈ r.roles))

instance (r : Realm) (userId name : String) : Decidable (r.Holds userId name) :=
  inferInstanceAs (Decidable (∃ u ∈ r.users, u.id = userId ∧ ∃ role ∈ u.realmRoles, role.name = name))

section Holding

variable {r r' : Realm} {userId userId' name : String} {role : Role}

/-- One user is changed, the others hold what they held. -/
theorem Realm.WithUser.holds {f : KeycloakUser → KeycloakUser} (h : r.WithUser userId f r')
    (hid : ∀ u, (f u).id = u.id) :
    r'.Holds userId' name ↔ ∃ u ∈ r.users, u.id = userId' ∧
      ∃ role ∈ (if u.id = userId then f u else u).realmRoles, role.name = name := by
  have hkept : ∀ u : KeycloakUser, (if u.id = userId then f u else u).id = u.id := by
    intro u
    split
    · exact hid u
    · rfl
  constructor
  · intro hholds
    rcases hholds with ⟨x, hx, hxid, hrole⟩
    rcases (h.users x).1 hx with ⟨u, hu, rfl⟩
    exact ⟨u, hu, (hkept u).symm.trans hxid, hrole⟩
  · intro hholds
    rcases hholds with ⟨u, hu, huid, hrole⟩
    exact ⟨_, (h.users _).2 ⟨u, hu, rfl⟩, (hkept u).trans huid, hrole⟩

theorem Realm.WithUser.sound {f : KeycloakUser → KeycloakUser} (h : r.WithUser userId f r')
    (hsound : r.Sound) (hf : ∀ u ∈ r.users, ∀ x ∈ (f u).realmRoles, x ∈ r.roles) : r'.Sound := by
  intro x hx role hrole
  rw [h.roles]
  rcases (h.users x).1 hx with ⟨u, hu, rfl⟩
  split at hrole
  · exact hf u hu role hrole
  · exact hsound u hu role hrole

/-- A role that is assigned is held as well. -/
theorem holds_assigned (h : r.WithUser userId (KeycloakUser.assigned role) r') (hsound : r.Sound)
    (hrole : role ∈ r.roles) :
    r'.Holds userId' name ↔ r.Holds userId' name ∨ (userId' = userId ∧ name = role.name) := by
  rw [h.holds fun _ => rfl]
  constructor
  · intro hholds
    rcases hholds with ⟨u, hu, rfl, role', hrole', rfl⟩
    split at hrole'
    · rename_i hid
      rcases List.mem_append.1 hrole' with hold | hnew
      · exact .inl ⟨u, hu, rfl, role', (List.mem_filter.1 hold).1, rfl⟩
      · exact .inr ⟨hid, congrArg Role.name (List.mem_singleton.1 hnew)⟩
    · exact .inl ⟨u, hu, rfl, role', hrole', rfl⟩
  · intro hholds
    rcases hholds with ⟨u, hu, rfl, role', hrole', rfl⟩ | ⟨rfl, rfl⟩
    · refine ⟨u, hu, rfl, ?_⟩
      split
      · by_cases hsame : role'.id = role.id
        · -- A role held before under the same id is the same role.
          have heq : role' = role := Sql.Table.eq_of_id (hsound u hu role' hrole') hrole hsame
          exact ⟨role, by simp [KeycloakUser.assigned], congrArg Role.name heq.symm⟩
        · exact ⟨role', by simp [KeycloakUser.assigned, hrole', hsame], rfl⟩
      · exact ⟨role', hrole', rfl⟩
    · rcases h.exists_user with ⟨u, hu, hid⟩
      exact ⟨u, hu, hid, role, by simp [hid, KeycloakUser.assigned], rfl⟩

theorem sound_assigned (h : r.WithUser userId (KeycloakUser.assigned role) r') (hsound : r.Sound)
    (hrole : role ∈ r.roles) : r'.Sound := by
  refine h.sound hsound fun u hu x hx => ?_
  rcases List.mem_append.1 hx with hold | hnew
  · exact hsound u hu x (List.mem_filter.1 hold).1
  · rw [List.mem_singleton.1 hnew]
    exact hrole

/-- A role that is unassigned is held no longer. -/
theorem holds_unassigned (h : r.WithUser userId (KeycloakUser.unassigned role) r')
    (hsound : r.Sound) (hrole : role ∈ r.roles) :
    r'.Holds userId' name ↔ r.Holds userId' name ∧ ¬ (userId' = userId ∧ name = role.name) := by
  rw [h.holds fun _ => rfl]
  constructor
  · intro hholds
    rcases hholds with ⟨u, hu, rfl, role', hrole', rfl⟩
    split at hrole'
    · have hkept := List.mem_filter.1 hrole'
      refine ⟨⟨u, hu, rfl, role', hkept.1, rfl⟩, fun hsame => ?_⟩
      -- Names of realm roles are unique.
      have heq : role' = role := Sql.Table.eq_of_key (hsound u hu role' hkept.1) hrole hsame.2
      simp [heq] at hkept
    · rename_i hid
      exact ⟨⟨u, hu, rfl, role', hrole', rfl⟩, fun hsame => hid hsame.1⟩
  · intro hholds
    rcases hholds with ⟨⟨u, hu, rfl, role', hrole', rfl⟩, hother⟩
    refine ⟨u, hu, rfl, role', ?_, rfl⟩
    split
    · rename_i hid
      have hne : role'.id ≠ role.id := by
        intro hsame
        have heq : role' = role := Sql.Table.eq_of_id (hsound u hu role' hrole') hrole hsame
        exact hother ⟨hid, congrArg Role.name heq⟩
      simp [KeycloakUser.unassigned, hrole', hne]
    · exact hrole'

theorem sound_unassigned (h : r.WithUser userId (KeycloakUser.unassigned role) r')
    (hsound : r.Sound) : r'.Sound :=
  h.sound hsound fun u hu x hx => hsound u hu x (List.mem_filter.1 hx).1

/-- The user is still there. -/
theorem Realm.WithUser.exists_id {f : KeycloakUser → KeycloakUser} (h : r.WithUser userId f r')
    (hid : ∀ u, (f u).id = u.id) (huser : ∃ u ∈ r.users, u.id = userId') :
    ∃ u ∈ r'.users, u.id = userId' := by
  rcases huser with ⟨u, hu, rfl⟩
  refine ⟨_, (h.users _).2 ⟨u, hu, rfl⟩, ?_⟩
  split
  · exact hid u
  · rfl

end Holding

end Keycloak
end IdentityBillpay
