import IdentityBillpay.Async.Reading
import IdentityBillpay.Rbac.Agreement
import IdentityBillpay.Rbac.UsersAccessService

/-!
# AccessLookup — which filters decide what an access lookup shows

Employees are looked up by the first filter alone. When none is found, Keycloak is asked with all of
the filters that name a user of it.

* `FetchAccessDetailsDto.first?`, `AccessFilter.Finds` — the first filter, and whether it finds an
  employee;
* `FetchAccessDetailsDto.realmUsers`, `Store.keycloakOnly` — the users Keycloak is asked for, and
  what is shown of one;
* `yields_keycloakOnlyUsers`, `ensures_resolve` — the two halves of the method;
* `fetched_alike_iff` — when two requests with one first filter are answered alike.
-/

namespace IdentityBillpay
namespace Rbac

open Async Async.Program Js Keycloak UsersAccessService

/-! ## The first filter -/

/-- A filter that is not empty. -/
inductive AccessFilter
  | employeeId (value : String)
  | roleId (value : String)
  | keycloakUserId (value : String)
  | username (value : String)
  | email (value : String)
  deriving DecidableEq

/-- The first filter that is present. -/
def FetchAccessDetailsDto.first? (filters : FetchAccessDetailsDto) : Option AccessFilter :=
  (filters.employeeId.text?.map AccessFilter.employeeId)
    <|> (filters.roleId.text?.map AccessFilter.roleId)
    <|> (filters.keycloakUserId.text?.map AccessFilter.keycloakUserId)
    <|> (filters.username.text?.map AccessFilter.username)
    <|> (filters.email.text?.map AccessFilter.email)

/-- The employees that a filter is about. -/
def AccessFilter.Selects (s : Store) : AccessFilter → Employee → Prop
  | .employeeId value, e => e.id = value
  | .roleId value, e => ∃ a ∈ s.employeeRoles, a.roleId = value ∧ a.employeeId = e.id
  | .keycloakUserId value, e => e.keycloakUserId = value
  | .username value, e => e.username = value
  | .email value, e => e.email = value

def AccessFilter.Finds (s : Store) (filter : AccessFilter) : Prop :=
  ∃ e ∈ s.employees, e.isLive = true ∧ filter.Selects s e

/-- The reads that a filter asks for. -/
def AccessFilter.resolve : AccessFilter → Lookup (List Employee)
  | .employeeId value => do
      let employee : Option Employee ← lookup (.findEmployee (.id value))
      return employee.toList
  | .roleId value => do
      let mappings : List EmployeeUserRole ← lookup (.findHolders value)
      match mappings with
      | [] => return []
      | _ :: _ => lookup (.findEmployees (mappings.map EmployeeUserRole.employeeId))
  | .keycloakUserId value => do
      let employee : Option Employee ← lookup (.findEmployee (.keycloakUserId value))
      return employee.toList
  | .username value => do
      let employee : Option Employee ← lookup (.findEmployee (.username value))
      return employee.toList
  | .email value => do
      let employee : Option Employee ← lookup (.findEmployee (.email value))
      return employee.toList

theorem resolveEmployees_eq {filters : FetchAccessDetailsDto} {filter : AccessFilter}
    (h : filters.first? = some filter) : resolveEmployees filters = filter.resolve := by
  unfold FetchAccessDetailsDto.first? at h
  unfold resolveEmployees
  -- The filters in the order of the source; the first one given decides.
  cases hemployee : filters.employeeId.text? with
  | some value =>
      simp only [hemployee] at h
      cases h
      rfl
  | none =>
  cases hrole : filters.roleId.text? with
  | some value =>
      simp only [hemployee, hrole] at h
      cases h
      rfl
  | none =>
  cases hkeycloak : filters.keycloakUserId.text? with
  | some value =>
      simp only [hemployee, hrole, hkeycloak] at h
      cases h
      rfl
  | none =>
  cases husername : filters.username.text? with
  | some value =>
      simp only [hemployee, hrole, hkeycloak, husername] at h
      cases h
      rfl
  | none =>
  cases hemail : filters.email.text? with
  | some value =>
      simp only [hemployee, hrole, hkeycloak, husername, hemail] at h
      cases h
      rfl
  | none =>
      simp only [hemployee, hrole, hkeycloak, husername, hemail] at h
      cases h

/-! ## What is read -/

/-- No call fails, and no reply is lost. -/
def Choice.Answers (ch : Choice) : Prop :=
  ch.fails = false ∧ ch.lost = false

section Reads

variable {exact : String → String → Bool} {s : Store}

theorem query_answers {α : Type} {ch : Choice} (hch : ch.Answers) (a : α) :
    query ch s (some (a, s)) = (.ok a, s) := by
  simp [query, Sql.commit, hch.1]

theorem request_answers {α : Type} {ch : Choice} (hch : ch.Answers) (a : α) :
    (fun p : Except HttpError α × Realm => (p.1, { s with realm := p.2 }))
      (request ch.toChoice s.realm (some (a, s.realm))) = (.ok a, s) := by
  simp [request, hch.1, hch.2]

theorem yields_adminToken :
    Yields (lookupBackend exact) Choice.Answers s (shared (.keycloak .postAdminToken)) (.ok ()) :=
  yields_call fun _ hch => request_answers hch ()

/-- The users that the filters name in the realm; none, if no filter does. -/
def FetchAccessDetailsDto.realmUsers (exact : String → String → Bool) (r : Realm)
    (filters : FetchAccessDetailsDto) : List KeycloakUser :=
  match filters.keycloakUserId.text? with
  | some userId => (r.users.findOne (fun u => u.id == userId) 0).toList
  | none =>
      if namesKeycloakUser filters then
        (r.users.find (searched exact filters.username.text? filters.email.text?)).take 100
      else []

theorem mem_realmUsers {r : Realm} {filters : FetchAccessDetailsDto} {u : KeycloakUser}
    (h : u ∈ filters.realmUsers exact r) : u ∈ r.users := by
  unfold FetchAccessDetailsDto.realmUsers at h
  split at h
  · exact (Sql.Table.findOne_some (Option.mem_toList.1 h)).1
  · split at h
    · exact (Sql.Table.mem_find.1 (List.mem_of_mem_take h)).1
    · cases h

/-- The permissions that the roles map to. -/
def Store.permissionsOf (s : Store) (roleIds : List String) :
    Except HttpError (List AccessPermission) :=
  ((s.rolePermissions.find fun m => roleIds.contains m.roleId).map fun m =>
    (m, s.mappedPermission m)).mapM accessPermission

theorem yields_permissionsOf (roleIds : List String) :
    Yields (lookupBackend exact) Choice.Answers s (permissionsOf roleIds)
      (s.permissionsOf roleIds) := by
  cases roleIds with
  | nil =>
      have hnone : (s.rolePermissions.find fun m => [].contains m.roleId) = [] :=
        List.filter_eq_nil_iff.2 fun m _ => by simp
      have hempty : s.permissionsOf [] = .ok [] := by
        unfold Store.permissionsOf
        rw [hnone]
        rfl
      rw [hempty]
      exact yields_pure []
  | cons roleId roleIds =>
      have hread := @yields_call _ _ (lookupBackend exact) Choice.Answers s
        (.inr (.findMappingsOf (roleId :: roleIds))) _ fun ch hch => query_answers hch _
      exact hread.bind_ok (yields_settled _)

/-- The local roles that have the names of the user's realm roles. -/
def Store.localRoles (s : Store) (u : KeycloakUser) : List Role :=
  s.roles.find fun r => (u.realmRoles.map Keycloak.Role.name).contains r.name && r.isLive

/-- What is shown of a user whom only Keycloak knows. -/
def Store.keycloakOnly (s : Store) (u : KeycloakUser) : Except HttpError UserAccess := do
  let permissions ← s.permissionsOf ((s.localRoles u).map Role.id)
  return ⟨none, some (keycloakProfile u), u.realmRoles, (s.localRoles u).map accessRole,
    permissions⟩

theorem yields_getUserRealmRoles {u : KeycloakUser} (hu : u ∈ s.realm.users) :
    Yields (lookupBackend exact) Choice.Answers s (KeycloakService.getUserRealmRoles u.id)
      (.ok u.realmRoles) := by
  have hfound : s.realm.users.findOne (fun u' => u'.id == u.id) 0 = some u :=
    Sql.Table.findOne_of_unique 0 hu (by simp) fun u' hu' hid =>
      Sql.Table.eq_of_id hu' hu (by simpa using hid)
  have hmapped : (s.realm.users.findOne (fun u' => u'.id == u.id) 0).map
      (fun u => (u.realmRoles, s.realm)) = some (u.realmRoles, s.realm) := by
    rw [hfound]
    rfl
  refine yields_adminToken.bind_ok (yields_call fun ch hch => ?_)
  refine Eq.trans ?_ (request_answers hch u.realmRoles)
  exact congrArg (fun found =>
    (fun p : Except HttpError _ × Realm => (p.1, { s with realm := p.2 }))
      (request ch.toChoice s.realm found)) hmapped

theorem yields_rolesByName (u : KeycloakUser) :
    Yields (lookupBackend exact) Choice.Answers s
      (rolesByName (u.realmRoles.map Keycloak.Role.name)) (.ok (s.localRoles u)) := by
  unfold Store.localRoles
  cases u.realmRoles.map Keycloak.Role.name with
  | nil =>
      have hnone : (s.roles.find fun r => [].contains r.name && r.isLive) = [] :=
        List.filter_eq_nil_iff.2 fun r _ => by simp
      rw [hnone]
      exact yields_pure []
  | cons name names => exact yields_call fun ch hch => query_answers hch _

theorem yields_keycloakOnlyAccess {u : KeycloakUser} (hu : u ∈ s.realm.users) :
    Yields (lookupBackend exact) Choice.Answers s (keycloakOnlyAccess u) (s.keycloakOnly u) := by
  refine (yields_getUserRealmRoles hu).bind_ok ((yields_rolesByName u).bind_ok ?_)
  exact (yields_permissionsOf _).bind fun permissions _ => yields_pure _

/-- What the second half reads when no employee was found. -/
theorem yields_keycloakOnlyUsers (filters : FetchAccessDetailsDto) :
    Yields (lookupBackend exact) Choice.Answers s (keycloakOnlyUsers filters [])
      ((filters.realmUsers exact s.realm).mapM s.keycloakOnly) := by
  unfold keycloakOnlyUsers
  cases hnames : namesKeycloakUser filters with
  | false =>
      have hkeycloak : filters.keycloakUserId.text? = none := by
        simp only [namesKeycloakUser, Bool.or_eq_false_iff] at hnames
        simpa using hnames.2
      have hnone : filters.realmUsers exact s.realm = [] := by
        simp [FetchAccessDetailsDto.realmUsers, hkeycloak, hnames]
      rw [hnone]
      exact yields_pure []
  | true =>
      have hfind : Yields (lookupBackend exact) Choice.Answers s
          (KeycloakService.findUsers
            { username := filters.username
              email := filters.email
              keycloakUserId := filters.keycloakUserId })
          (.ok (filters.realmUsers exact s.realm)) := by
        refine yields_adminToken.bind_ok ?_
        -- A user id finds at most one user; the other two filters search.
        unfold FetchAccessDetailsDto.realmUsers
        cases filters.keycloakUserId.text? with
        | some userId =>
            have hread := @yields_call _ _ (lookupBackend exact) Choice.Answers s
              (.inr (.getUser userId)) _ fun ch hch => request_answers hch _
            exact hread.bind_ok (yields_pure _)
        | none =>
            rw [if_pos hnames]
            exact yields_call fun ch hch => request_answers hch _
      refine hfind.bind_ok (Yields.mapM fun u hu => ?_)
      exact yields_keycloakOnlyAccess (mem_realmUsers hu)

end Reads

/-! ## The local lookup -/

section Resolve

variable {exact : String → String → Bool} {s : Store}

/-- A list of employees was read, and it is empty just where the filter finds none. -/
def Resolved (s : Store) (filter : AccessFilter) (s' : Store)
    (r : Except HttpError (List Employee)) : Prop :=
  s' = s ∧ ∃ employees, r = .ok employees ∧ (employees = [] ↔ ¬ filter.Finds s)

theorem ensures_findEmployee {query : EmployeeWhere} {filter : AccessFilter}
    (hfilter : ∀ e, query.selects e = true ↔ filter.Selects s e) :
    Ensures ((lookupBackend exact).restrict Choice.Answers) (fun _ => True) (Resolved s filter) s
      (do
        let employee : Option Employee ← lookup (.findEmployee query)
        return employee.toList) := by
  refine ensures_call_bind (fun _ => trivial) (fun ch e he => ?_) fun ch found hfound => ?_
  · have hanswer := congrArg Prod.fst (query_answers (s := s) ch.2
      (s.employees.findOne (fun e => query.selects e && e.isLive) ch.1.pick))
    cases he.symm.trans hanswer
  · have hanswer := query_answers (s := s) ch.2
      (s.employees.findOne (fun e => query.selects e && e.isLive) ch.1.pick)
    cases hfound.symm.trans (congrArg Prod.fst hanswer)
    refine ⟨congrArg Prod.snd hanswer, _, rfl, ?_⟩
    rw [Option.toList_eq_nil_iff, Sql.Table.findOne_eq_none]
    constructor
    · rintro hnone ⟨e, he, hlive, hselects⟩
      have hfalse := hnone e he
      rw [(hfilter e).2 hselects, hlive] at hfalse
      cases hfalse
    · intro hnot e he
      refine Bool.eq_false_iff.2 fun htrue => hnot ⟨e, he, ?_⟩
      rw [Bool.and_eq_true] at htrue
      exact ⟨htrue.2, (hfilter e).1 htrue.1⟩

/-- The employees with the ids of the role's assignments. -/
theorem holders_eq_nil {value : String} :
    (s.employees.find fun e => ((s.employeeRoles.find fun a => a.roleId == value).map
      EmployeeUserRole.employeeId).contains e.id && e.isLive) = [] ↔
      ¬ (AccessFilter.roleId value).Finds s := by
  rw [List.eq_nil_iff_forall_not_mem]
  constructor
  · rintro hnone ⟨e, he, hlive, a, ha, hrole, hemployee⟩
    refine hnone e (Sql.Table.mem_find.2 ⟨he, ?_⟩)
    have hholder : a ∈ s.employeeRoles.find fun a => a.roleId == value :=
      Sql.Table.mem_find.2 ⟨ha, beq_iff_eq.2 hrole⟩
    rw [hlive, Bool.and_true, List.contains_iff_mem, ← hemployee]
    exact List.mem_map_of_mem hholder
  · intro hnot e he
    rcases Sql.Table.mem_find.1 he with ⟨hmem, hholds⟩
    rw [Bool.and_eq_true, List.contains_iff_mem] at hholds
    rcases List.mem_map.1 hholds.1 with ⟨a, ha, hemployee⟩
    rcases Sql.Table.mem_find.1 ha with ⟨hassigned, hrole⟩
    exact hnot ⟨e, hmem, hholds.2, a, hassigned, beq_iff_eq.1 hrole, hemployee⟩

theorem ensures_resolve (filter : AccessFilter) :
    Ensures ((lookupBackend exact).restrict Choice.Answers) (fun _ => True) (Resolved s filter) s
      filter.resolve := by
  cases filter with
  | employeeId value => exact ensures_findEmployee fun e => beq_iff_eq
  | keycloakUserId value => exact ensures_findEmployee fun e => beq_iff_eq
  | username value => exact ensures_findEmployee fun e => beq_iff_eq
  | email value => exact ensures_findEmployee fun e => beq_iff_eq
  | roleId value =>
      have hholders := @yields_call _ _ (lookupBackend exact) Choice.Answers s
        (.inr (.findHolders value)) _ fun ch hch => query_answers hch _
      refine Ensures.bind hholders ?_ ?_
      · rintro s' mappings ⟨rfl, hmappings⟩
        cases hmappings
        have hnil := @holders_eq_nil s' value
        -- Nobody holds the role, and `findEmployees` is not called.
        cases hassigned : s'.employeeRoles.find fun a => a.roleId == value with
        | nil =>
            rw [hassigned] at hnil
            refine ⟨rfl, [], rfl, iff_of_true rfl (hnil.1 ?_)⟩
            exact List.filter_eq_nil_iff.2 fun e _ => by simp
        | cons a as =>
            rw [hassigned] at hnil
            have hread := @yields_call _ _ (lookupBackend exact) Choice.Answers s'
              (.inr (.findEmployees ((a :: as).map EmployeeUserRole.employeeId))) _
              fun ch hch => query_answers hch _
            refine Ensures.mono hread ?_
            rintro t r ⟨rfl, rfl⟩
            exact ⟨rfl, _, rfl, hnil⟩
      · rintro s' e ⟨rfl, he⟩
        cases he

end Resolve

/-! ## Requests that are rejected -/

/-- What reading a field of a deleted permission throws. -/
def nullPermission : HttpError := .typeError "Cannot read properties of null (reading 'id')"

/-- One of the user's local roles maps to a permission that is deleted. -/
def Store.MapsDeleted (s : Store) (u : KeycloakUser) : Prop :=
  ∃ role ∈ s.localRoles u, ∃ m ∈ s.rolePermissions,
    m.roleId = role.id ∧ s.mappedPermission m = none

theorem accessPermission_error {m : RolePermission × Option Permission} {e : HttpError}
    (h : accessPermission m = .error e) : e = nullPermission ∧ m.2 = none := by
  rcases m with ⟨m, permission⟩
  cases permission with
  | some permission => cases h
  | none =>
      cases h
      exact ⟨rfl, rfl⟩

theorem keycloakOnly_cases (s : Store) (u : KeycloakUser) :
    (∃ access, s.keycloakOnly u = .ok access ∧ access.keycloakProfile = some (keycloakProfile u) ∧
      ¬ s.MapsDeleted u) ∨ (s.keycloakOnly u = .error nullPermission ∧ s.MapsDeleted u) := by
  have hmember : ∀ pair, pair ∈ ((s.rolePermissions.find fun m =>
      ((s.localRoles u).map Role.id).contains m.roleId).map fun m => (m, s.mappedPermission m)) ↔
      ∃ m ∈ s.rolePermissions, (∃ role ∈ s.localRoles u, m.roleId = role.id) ∧
        (m, s.mappedPermission m) = pair := by
    intro pair
    simp only [List.mem_map, Sql.Table.mem_find, List.contains_iff_mem, and_assoc,
      @eq_comm String _ (RolePermission.roleId _)]
  rcases mapM_cases (fun m e he => (@accessPermission_error m e he).1)
      ((s.rolePermissions.find fun m => ((s.localRoles u).map Role.id).contains m.roleId).map
        fun m => (m, s.mappedPermission m)) with
    ⟨permissions, hpermissions, hgood⟩ | ⟨hfail, pair, hpair, hbad⟩
  · refine .inl ⟨_, by rw [Store.keycloakOnly, Store.permissionsOf, hpermissions]; rfl, rfl, ?_⟩
    rintro ⟨role, hrole, m, hm, hid, hdeleted⟩
    refine hgood (m, s.mappedPermission m) ((hmember _).2 ⟨m, hm, ⟨role, hrole, hid⟩, rfl⟩) ?_
    rw [hdeleted]
    rfl
  · refine .inr ⟨by rw [Store.keycloakOnly, Store.permissionsOf, hfail]; rfl, ?_⟩
    rcases (hmember pair).1 hpair with ⟨m, hm, ⟨role, hrole, hid⟩, rfl⟩
    exact ⟨role, hrole, m, hm, hid, (accessPermission_error hbad).2⟩

/-- Keycloak users are shown alike just if they are the same, or if showing them fails. -/
theorem mapM_keycloakOnly_eq_iff {s : Store} {users users' : List KeycloakUser}
    (husers : ∀ u ∈ users, u ∈ s.realm.users) (husers' : ∀ u ∈ users', u ∈ s.realm.users) :
    users'.mapM s.keycloakOnly = users.mapM s.keycloakOnly ↔
      users' = users ∨ (∃ u ∈ users, s.MapsDeleted u) ∧ ∃ u ∈ users', s.MapsDeleted u := by
  -- The only error of the mapping is the one for a deleted permission.
  have hone : ∀ u e, s.keycloakOnly u = .error e → e = nullPermission := by
    intro u e he
    rcases keycloakOnly_cases s u with ⟨access, hok, _⟩ | ⟨hfail, _⟩
    · cases hok.symm.trans he
    · exact (Except.error.inj (hfail.symm.trans he)).symm
  have hdeleted : ∀ u, s.keycloakOnly u = .error nullPermission ↔ s.MapsDeleted u := by
    intro u
    rcases keycloakOnly_cases s u with ⟨access, hok, _, hnot⟩ | ⟨hfail, hmaps⟩
    · rw [hok]
      exact iff_of_false (by simp) hnot
    · exact iff_of_true hfail hmaps
  have hshown : ∀ u access, s.keycloakOnly u = .ok access →
      access.keycloakProfile.map KeycloakProfile.id = some u.id := by
    intro u access haccess
    rcases keycloakOnly_cases s u with ⟨access', hok, hprofile, _⟩ | ⟨hfail, _⟩
    · cases hok.symm.trans haccess
      rw [hprofile]
      rfl
    · cases hfail.symm.trans haccess
  constructor
  · intro hsame
    rcases mapM_cases hone users with ⟨accesses, hok, _⟩ | ⟨hfail, u, hu, hbad⟩
    · -- The ids that are shown tell the users.
      have hids : users'.map (fun u => some u.id) = users.map fun u => some u.id :=
        (mapM_ok_map (hsame.trans hok) hshown).symm.trans (mapM_ok_map hok hshown)
      refine .inl (List.ext_getElem? fun n => ?_)
      have hn : users'[n]?.map (fun u => some u.id) = users[n]?.map fun u => some u.id := by
        simpa using congrArg (fun ids => ids[n]?) hids
      cases hleft : users'[n]? with
      | none =>
          rw [hleft] at hn
          exact (Option.map_eq_none_iff.1 hn.symm).symm
      | some u' =>
          rw [hleft] at hn
          rcases Option.map_eq_some_iff.1 hn.symm with ⟨u, hright, hid⟩
          have hu' := husers' u' (List.mem_of_getElem? hleft)
          have hu := husers u (List.mem_of_getElem? hright)
          rw [hright, Sql.Table.eq_of_id hu' hu (Option.some.inj hid).symm]
    · -- Both lists end in that error: each has a user who maps a deleted permission.
      rcases mapM_cases hone users' with ⟨accesses, hok, _⟩ | ⟨_, u', hu', hbad'⟩
      · cases hok.symm.trans (hsame.trans hfail)
      · exact .inr ⟨⟨u, hu, (hdeleted u).1 hbad⟩, u', hu', (hdeleted u').1 hbad'⟩
  · rintro (rfl | ⟨⟨u, hu, hmaps⟩, u', hu', hmaps'⟩)
    · rfl
    · rcases mapM_cases hone users with ⟨_, _, hgood⟩ | ⟨hfail, _⟩
      · exact absurd ((hdeleted u).2 hmaps) (hgood u hu)
      · rcases mapM_cases hone users' with ⟨_, _, hgood⟩ | ⟨hfail', _⟩
        · exact absurd ((hdeleted u').2 hmaps') (hgood u' hu')
        · exact hfail'.trans hfail.symm

/-! ## Two requests with one first filter -/

section Alike

theorem accessDetails_inj {r r' : Except HttpError (List UserAccess)} :
    ((r' >>= fun users => .ok (accessDetails users)) =
      r >>= fun users => .ok (accessDetails users)) ↔ r' = r := by
  refine ⟨fun h => ?_, fun h => by rw [h]⟩
  cases r with
  | ok users =>
      cases r' with
      | ok users' => exact congrArg Except.ok (congrArg AccessDetails.users (Except.ok.inj h))
      | error e => cases h
  | error e =>
      cases r' with
      | ok users' => cases h
      | error e' => exact congrArg Except.error (Except.error.inj h)

variable {s : Store} {filter : AccessFilter} {a b : FetchAccessDetailsDto}

/-- What the request is answered with. -/
abbrev fetched (exact : String → String → Bool) (choices : Nat → Choice) (s : Store)
    (filters : FetchAccessDetailsDto) : Except HttpError AccessDetails :=
  ((fetchAccessDetails filters).exec (lookupBackend exact) choices s).result

/-- Where no call fails, two requests with one first filter are answered alike exactly if the filter
finds an employee, or the filters of both name the same users of the realm, or showing those users
fails for both. -/
theorem fetched_alike_iff (exact : String → String → Bool) {choices : Nat → Choice}
    (hchoices : ∀ n, (choices n).Answers) (ha : a.first? = some filter)
    (hb : b.first? = some filter) :
    fetched exact choices s b = fetched exact choices s a ↔
      filter.Finds s ∨ b.realmUsers exact s.realm = a.realmUsers exact s.realm ∨
        (∃ u ∈ a.realmUsers exact s.realm, s.MapsDeleted u) ∧
          ∃ u ∈ b.realmUsers exact s.realm, s.MapsDeleted u := by
  rcases (@ensures_resolve exact s filter).exec_within hchoices with
    ⟨hstate, employees, hemployees, hnil⟩
  -- The choices that the local lookup has left.
  have hlater : ∀ n, (choices (n + (filter.resolve.exec (lookupBackend exact) choices
      s).awaited.length)).Answers := fun n => hchoices _
  have hrun : ∀ {filters : FetchAccessDetailsDto}, filters.first? = some filter →
      fetched exact choices s filters =
        ((do
          let results ← employees.mapM employeeAccess
          let keycloakOnly ← keycloakOnlyUsers filters employees
          return accessDetails (results ++ keycloakOnly) :
            Lookup AccessDetails).exec (lookupBackend exact)
          (fun n => choices (n + (filter.resolve.exec (lookupBackend exact) choices
            s).awaited.length)) s).result := by
    intro filters hfilters
    rw [fetched, fetchAccessDetails, resolveEmployees_eq hfilters, exec_bind_ok hemployees, hstate]
  rw [hrun ha, hrun hb]
  cases employees with
  -- A local employee has been found, and the other filters are not looked at.
  | cons employee employees =>
      have hfinds : filter.Finds s := by
        by_contra hnot
        cases hnil.2 hnot
      exact iff_of_true rfl (.inl hfinds)
  -- Nobody local has been found, so the realm decides.
  | nil =>
      have hyields : ∀ filters : FetchAccessDetailsDto,
          Yields (lookupBackend exact) Choice.Answers s
            (do
              let results ← [].mapM employeeAccess
              let keycloakOnly ← keycloakOnlyUsers filters []
              return accessDetails (results ++ keycloakOnly))
            ((filters.realmUsers exact s.realm).mapM s.keycloakOnly >>= fun keycloakOnly =>
              .ok (accessDetails keycloakOnly)) := by
        intro filters
        refine (yields_pure []).bind_ok ?_
        exact (yields_keycloakOnlyUsers filters).bind fun _ _ => yields_pure _
      rw [((hyields a).exec hlater).2, ((hyields b).exec hlater).2, accessDetails_inj]
      rw [mapM_keycloakOnly_eq_iff (fun u => mem_realmUsers) fun u => mem_realmUsers]
      exact (or_iff_right (hnil.1 rfl)).symm

end Alike

/-- The tellers, with a username that nobody has. -/
theorem fetched_alike_tellers :
    fetched (· == ·) (fun _ => answered "") bankStore
        { roleId := .value "r-1", username := .value "nobody" } =
      fetched (· == ·) (fun _ => answered "") bankStore { roleId := .value "r-1" } := by
  refine (@fetched_alike_iff bankStore (.roleId "r-1") { roleId := .value "r-1" } _ (· == ·) _
    (fun _ => ⟨rfl, rfl⟩) rfl rfl).2 (.inl ?_)
  exact ⟨alice, by decide, rfl, ⟨"a-1", "e-1", "r-1", "root", 0⟩, by decide, rfl, rfl⟩

/-- Nobody is a maker, but a request for the makers that also names alice is answered with her. -/
theorem makers_fetched_alice :
    FetchAccessDetailsDto.first? { roleId := .value "r-2" } = some (.roleId "r-2") ∧
      FetchAccessDetailsDto.first? { roleId := .value "r-2", username := .value "alice" } =
        some (.roleId "r-2") ∧
      (fetched (· == ·) (fun _ => answered "") bankStore { roleId := .value "r-2" }).map
        AccessDetails.count = .ok 0 ∧
      (fetched (· == ·) (fun _ => answered "") bankStore
          { roleId := .value "r-2", username := .value "alice" }).map
        AccessDetails.count = .ok 1 := by
  decide

end Rbac
end IdentityBillpay
