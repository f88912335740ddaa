import IdentityBillpay.Async.Replacement
import IdentityBillpay.Rbac.PartialUpdate
import IdentityBillpay.Rbac.PermissionSets
import IdentityBillpay.Rbac.UpdateProtocol

/-!
# Replacements — concurrent requests that replace a list of a role

`mapPermissions` replaces the permissions of a role and `update` its delegates, each by a deletion and
an insertion. Requests may write in between.

* `RoleList`, `has_performed` — the two lists, and what a call does to them;
* `RoleRequest`, `roleService` — the requests;
* `Replacing` — the requests replace a list, as the library has it;
* `replacements_do_not_merge` — the condition under which one request has the last word.
-/

namespace IdentityBillpay
namespace Rbac

open Async Async.Program Keycloak

/-- The role is delegated to the user. -/
def Store.Delegates (s : Store) (roleId userId : String) : Prop :=
  ∃ d ∈ s.delegatedRoles, d.roleId = roleId ∧ d.delegateKeycloakUserId = userId

/-! ## The lists of a role -/

/-- The lists of a role that requests replace. -/
inductive RoleList
  | permissions
  | delegates
  deriving DecidableEq

namespace RoleList

/-- The role has the member in its list. -/
def Has (l : RoleList) (s : Store) (roleId memberId : String) : Prop :=
  match l with
  | permissions => s.Maps roleId memberId
  | delegates => s.Delegates roleId memberId

/-- The role has no list. -/
def Empty (l : RoleList) (s : Store) (roleId : String) : Prop :=
  match l with
  | permissions => ∀ m ∈ s.rolePermissions, m.roleId ≠ roleId
  | delegates => ∀ d ∈ s.delegatedRoles, d.roleId ≠ roleId

instance (l : RoleList) (s : Store) (roleId memberId : String) :
    Decidable (l.Has s roleId memberId) :=
  match l with
  | permissions => inferInstanceAs (Decidable (∃ m ∈ s.rolePermissions, _))
  | delegates => inferInstanceAs (Decidable (∃ d ∈ s.delegatedRoles, _))

instance (l : RoleList) (s : Store) (roleId : String) : Decidable (l.Empty s roleId) :=
  match l with
  | permissions => inferInstanceAs (Decidable (∀ m ∈ s.rolePermissions, _))
  | delegates => inferInstanceAs (Decidable (∀ d ∈ s.delegatedRoles, _))

theorem Empty.not_has {l : RoleList} {s : Store} {roleId : String} (h : l.Empty s roleId)
    (memberId : String) : ¬ l.Has s roleId memberId := by
  cases l with
  | permissions =>
      rintro ⟨m, hm, hrole, _⟩
      exact h m hm hrole
  | delegates =>
      rintro ⟨d, hd, hrole, _⟩
      exact h d hd hrole

/-- The call that deletes the list of a role. -/
def clear (l : RoleList) (roleId : String) : Op :=
  match l with
  | permissions => .deleteMappings roleId
  | delegates => .deleteDelegations roleId

/-- The call that inserts a list for a role. -/
def fill (l : RoleList) (roleId : String) (memberIds : List String) (actorId : Option String) : Op :=
  match l with
  | permissions => .insertMappings (mappings roleId memberIds actorId)
  | delegates => .insertDelegations (delegations roleId memberIds actorId)

/-- The members that a call inserts for a role. -/
def added (l : RoleList) (roleId : String) : Op → List String
  | .insertMappings news =>
      match l with
      | permissions => (news.filter fun m => m.roleId == roleId).map NewMapping.permissionId
      | delegates => []
  | .insertDelegations news =>
      match l with
      | permissions => []
      | delegates =>
          (news.filter fun d => d.roleId == roleId).map NewDelegation.delegateKeycloakUserId
  | _ => []

theorem clear_inj {l l' : RoleList} {roleId roleId' : String}
    (h : l.clear roleId = l'.clear roleId') : l = l' ∧ roleId = roleId' := by
  cases l with
  | permissions =>
      cases l' with
      | permissions => exact ⟨rfl, Op.deleteMappings.inj h⟩
      | delegates => cases h
  | delegates =>
      cases l' with
      | permissions => cases h
      | delegates => exact ⟨rfl, Op.deleteDelegations.inj h⟩

@[simp] theorem added_clear (l l' : RoleList) (roleId roleId' : String) :
    l.added roleId (l'.clear roleId') = [] := by
  cases l' with
  | permissions => rfl
  | delegates => rfl

theorem mem_added_fill {l l' : RoleList} {roleId roleId' id : String} {memberIds : List String}
    {actorId : Option String} : id ∈ l.added roleId (l'.fill roleId' memberIds actorId) ↔
      l = l' ∧ roleId = roleId' ∧ id ∈ memberIds := by
  cases l' with
  | permissions =>
      cases l with
      | permissions =>
          simp only [added, fill, mappings, List.mem_map, List.mem_filter, beq_iff_eq]
          aesop
      | delegates => simp [added, fill]
  | delegates =>
      cases l with
      | permissions => simp [added, fill]
      | delegates =>
          simp only [added, fill, delegations, List.mem_map, List.mem_filter, beq_iff_eq]
          aesop

end RoleList

/-- The call touches no list. -/
def Op.keepsLists : Op → Bool
  | .deleteMappings _ | .deleteDelegations _ | .insertMappings _ | .insertDelegations _ => false
  | _ => true

/-! ## What a call does to the lists -/

section Performing

variable {s s' : Store} {ch : Choice}

theorem perform_keepsLists {op : Op} {a : op.Res} (hop : op.keepsLists = true)
    (h : perform op ch s = (.ok a, s')) :
    s'.rolePermissions = s.rolePermissions ∧ s'.delegatedRoles = s.delegatedRoles := by
  cases op with
  | deleteMappings roleId => cases hop
  | deleteDelegations roleId => cases hop
  | insertMappings news => cases hop
  | insertDelegations news => cases hop
  | insertRole new =>
      rcases insertRole_ok h with ⟨t, _, rfl, _⟩
      exact ⟨rfl, rfl⟩
  | saveRole changed =>
      rcases saveRole_ok h with ⟨role, t, _, rfl, _⟩
      exact ⟨rfl, rfl⟩
  | insertEmployee new =>
      rcases insertEmployee_ok h with ⟨t, _, rfl, _⟩
      exact ⟨rfl, rfl⟩
  | insertAssignment new =>
      rcases insertAssignment_ok h with ⟨t, _, rfl, _⟩
      exact ⟨rfl, rfl⟩
  | saveAssignment assignment =>
      rcases saveAssignment_ok h with ⟨t, rfl, _⟩
      exact ⟨rfl, rfl⟩
  | saveAdminUser account =>
      rcases Option.map_eq_some_iff.1 (query_ok h) with ⟨t, _, hdone⟩
      cases hdone
      exact ⟨rfl, rfl⟩
  | keycloak op =>
      rcases keycloak_ok h with ⟨r, _, rfl⟩
      exact ⟨rfl, rfl⟩
  | _ =>
      rw [perform_read rfl h]
      exact ⟨rfl, rfl⟩

theorem deleteDelegations_delegates {roleId : String} (role user : String) :
    (deleteDelegations s roleId).Delegates role user ↔ role ≠ roleId ∧ s.Delegates role user := by
  constructor
  · intro h
    rcases h with ⟨d, hd, rfl, rfl⟩
    have hkept := Sql.Table.mem_delete.1 hd
    exact ⟨by simpa using hkept.2, d, hkept.1, rfl, rfl⟩
  · intro h
    rcases h with ⟨hne, d, hd, rfl, rfl⟩
    exact ⟨d, Sql.Table.mem_delete.2 ⟨hd, by simpa using hne⟩, rfl, rfl⟩

/-- The rows that an insert adds; their pairs are new. -/
theorem insertDelegations_pairs {news : List NewDelegation} {u : Unit}
    (h : perform (.insertDelegations news) ch s = (.ok u, s')) :
    ∃ (rows : List DelegatedRole) (t : _),
      rows.map DelegatedRole.pair = news.map (fun new => (new.delegateKeycloakUserId, new.roleId)) ∧
      s' = { s with delegatedRoles := t } ∧ (∀ d, d ∈ t ↔ d ∈ s.delegatedRoles ∨ d ∈ rows) ∧
      ∀ d ∈ s.delegatedRoles, ∀ row ∈ rows, d.pair ≠ row.pair := by
  rcases Option.bind_eq_some_iff.1 (query_ok h) with ⟨rows, hrows, hrest⟩
  rcases Option.bind_eq_some_iff.1 hrest with ⟨t, ht, hdone⟩
  cases hdone
  refine ⟨rows, t, mapM_mapIdx_map (fun _ _ _ hrow => ?_) hrows, rfl,
    fun d => Sql.Table.mem_insertAll? ht, fun d hd row hrow => Sql.Table.insertAll?_fresh ht hd hrow⟩
  rcases NewDelegation.row?_eq_some.1 hrow with ⟨granter, _, _, _, rfl⟩
  rfl

theorem insertDelegations_delegates {news : List NewDelegation} {u : Unit}
    (h : perform (.insertDelegations news) ch s = (.ok u, s')) (role user : String) :
    s'.Delegates role user ↔ s.Delegates role user ∨
      ∃ new ∈ news, new.roleId = role ∧ new.delegateKeycloakUserId = user := by
  rcases insertDelegations_pairs h with ⟨rows, t, hpairs, rfl, ht, _⟩
  have hadded := exists_added ht hpairs (user, role)
  simp only [DelegatedRole.pair, Prod.mk.injEq, @and_comm (_ = user)] at hadded
  exact hadded

namespace RoleList

variable {l : RoleList} {roleId : String}

theorem mem_added {op : Op} {id : String} : id ∈ l.added roleId op ↔
    (l = permissions ∧ ∃ news, op = .insertMappings news ∧
      ∃ new ∈ news, new.roleId = roleId ∧ new.permissionId = id) ∨
    (l = delegates ∧ ∃ news, op = .insertDelegations news ∧
      ∃ new ∈ news, new.roleId = roleId ∧ new.delegateKeycloakUserId = id) := by
  cases op with
  | insertMappings news =>
      cases l with
      | permissions => simp [added, and_assoc]
      | delegates => simp [added]
  | insertDelegations news =>
      cases l with
      | permissions => simp [added]
      | delegates => simp [added, and_assoc]
  | _ => simp [added]

/-- After an answered call, the role has the members that it had, unless the call deletes the list,
and those that the call inserts. -/
theorem has_performed {op : Op} {a : op.Res} (h : perform op ch s = (.ok a, s')) (id : String) :
    l.Has s' roleId id ↔
      (op ≠ l.clear roleId ∧ l.Has s roleId id) ∨ id ∈ l.added roleId op := by
  -- A call that keeps both tables neither takes out nor puts in.
  cases hkeeps : op.keepsLists with
  | true =>
      rcases perform_keepsLists hkeeps h with ⟨hmappings, hdelegations⟩
      have hclear : op ≠ l.clear roleId := by
        rintro rfl
        cases l with
        | permissions => cases hkeeps
        | delegates => cases hkeeps
      have hadded : id ∉ l.added roleId op := by
        rw [mem_added]
        rintro (⟨_, news, rfl, _⟩ | ⟨_, news, rfl, _⟩)
        · cases hkeeps
        · cases hkeeps
      rw [or_iff_left hadded, and_iff_right hclear]
      cases l with
      | permissions => simp only [Has, Store.Maps, hmappings]
      | delegates => simp only [Has, Store.Delegates, hdelegations]
  -- The four calls that write one of the two tables; each leaves the other one.
  | false =>
      cases op with
      | deleteMappings deleted =>
          cases deleteMappings_ok h
          cases l with
          | permissions => simp [Has, clear, added, deleteMappings_maps, @eq_comm String roleId]
          | delegates => simp [Has, clear, added, Store.Delegates, deleteMappings]
      | deleteDelegations deleted =>
          cases deleteDelegations_ok h
          cases l with
          | permissions => simp [Has, clear, added, Store.Maps, deleteDelegations]
          | delegates =>
              simp [Has, clear, added, deleteDelegations_delegates, @eq_comm String roleId]
      | insertMappings news =>
          cases l with
          | permissions => simp [Has, clear, mem_added, insertMappings_maps h]
          | delegates =>
              rcases insertMappings_ok h with ⟨t, rfl⟩
              simp [Has, clear, added, Store.Delegates]
      | insertDelegations news =>
          cases l with
          | permissions =>
              rcases insertDelegations_ok h with ⟨t, rfl⟩
              simp [Has, clear, added, Store.Maps]
          | delegates => simp [Has, clear, mem_added, insertDelegations_delegates h]
      | _ => cases hkeeps

/-- A member that the role has already is refused. -/
theorem added_fresh {op : Op} {a : op.Res} (h : perform op ch s = (.ok a, s')) {id : String}
    (hadded : id ∈ l.added roleId op) : ¬ l.Has s roleId id := by
  rcases mem_added.1 hadded with ⟨rfl, news, rfl, new, hnew, rfl, rfl⟩ | ⟨rfl, news, rfl, new, hnew, rfl, rfl⟩
  · rcases insertMappings_rows h with ⟨rows, t, hpairs, _, _, hfresh⟩
    intro hhas
    rcases hhas with ⟨m, hm, hrole, hpermission⟩
    have hpair : (new.roleId, new.permissionId) ∈ rows.map RolePermission.pair := by
      rw [hpairs]
      exact List.mem_map_of_mem hnew
    rcases List.mem_map.1 hpair with ⟨row, hrow, heq⟩
    refine hfresh m hm row hrow ?_
    rw [heq, ← hrole, ← hpermission]
    rfl
  · rcases insertDelegations_pairs h with ⟨rows, t, hpairs, _, _, hfresh⟩
    intro hhas
    rcases hhas with ⟨d, hd, hrole, huser⟩
    have hpair : (new.delegateKeycloakUserId, new.roleId) ∈ rows.map DelegatedRole.pair := by
      rw [hpairs]
      exact List.mem_map_of_mem hnew
    rcases List.mem_map.1 hpair with ⟨row, hrow, heq⟩
    refine hfresh d hd row hrow ?_
    rw [heq, ← hrole, ← huser]
    rfl

end RoleList

end Performing

/-! ## The requests -/

inductive RoleRequest
  | mapPermissions (dto : MapRolePermissionsDto) (actorKeycloakUserId : Option String)
  | update (dto : UpdateRoleDto) (actorKeycloakUserId : Option String)

/-- Requests that replace lists, running concurrently. -/
abbrev roleService : Service sig HttpError where
  toBackend := backend
  Request := RoleRequest
  Reply := RoleDetails
  program
    | .mapPermissions dto actor => RolesService.mapPermissions dto actor
    | .update dto actor => RolesService.update dto actor

namespace RoleRequest

def roleId : RoleRequest → String
  | mapPermissions dto _ => dto.roleId
  | update dto _ => dto.roleId

def actorId : RoleRequest → Option String
  | mapPermissions _ actorId => actorId
  | update _ actorId => actorId

/-- The list that the request sets. -/
def sets (l : RoleList) : RoleRequest → Option (List String)
  | mapPermissions dto _ => if l = .permissions then some dto.permissionIds else none
  | update dto _ => if l = .delegates then dto.delegatedAdminKeycloakUserIds.toOption else none

/-- What the request wants the list of a role to be. -/
def replaces (l : RoleList) (roleId : String) (r : RoleRequest) : Option (List String) :=
  if r.roleId = roleId then r.sets l else none

end RoleRequest

/-- The request has found the role. -/
def FindsRole (own : Own) (r : RoleRequest) (role : Role) : Prop :=
  (⟨.findRole r.roleId, .ok (some role)⟩ : Awaited sig HttpError) ∈ own

/-- No call has inserted anything. -/
def NothingAdded (own : Own) : Prop :=
  ∀ a ∈ own, ∀ (l : RoleList) roleId, l.added roleId a.op = []

/-- One constructor for each kind of call. -/
inductive Replaces (r : RoleRequest) : Own → Op → Prop
  | other {own : Own} {op : Op} (hkeeps : op.keepsLists = true) : Replaces r own op
  /-- The list of the role is deleted first. -/
  | clear {own : Own} {role : Role} (l : RoleList) {ids : List String} (hfinds : FindsRole own r role)
      (hsets : r.sets l = some ids) (hnothing : NothingAdded own) : Replaces r own (l.clear role.id)
  /-- The list of the request is inserted second. -/
  | fill {own : Own} {role : Role} (l : RoleList) {ids : List String} (hfinds : FindsRole own r role)
      (hsets : r.sets l = some ids) : Replaces r own (l.fill role.id ids r.actorId)

/-- A request that has replied has deleted, and inserted if there was something to insert. -/
def HasReplaced (r : RoleRequest) (own : Own) (reply : Except HttpError RoleDetails) : Prop :=
  ∀ details, reply = .ok details → ∀ (l : RoleList) ids, r.sets l = some ids →
    ∃ role, FindsRole own r role ∧ Did (fun op => op = l.clear role.id) own ∧
      (ids = [] ∨ Did (fun op => op = l.fill role.id ids r.actorId) own)

/-! ## The code -/

section Code

variable {r : RoleRequest} {own own' : Own}

theorem added_keepsLists {op : Op} (h : op.keepsLists = true) (l : RoleList) (roleId : String) :
    l.added roleId op = [] := by
  refine List.eq_nil_iff_forall_not_mem.2 fun id hid => ?_
  rcases RoleList.mem_added.1 hid with ⟨_, news, rfl, _⟩ | ⟨_, news, rfl, _⟩
  · cases h
  · cases h

theorem nothingAdded_append : NothingAdded (own ++ own') ↔ NothingAdded own ∧ NothingAdded own' :=
  List.forall_mem_append

theorem nothingAdded_singleton {a : Awaited sig HttpError} (h : a.op.keepsLists = true) :
    NothingAdded [a] := by
  intro b hb l roleId
  rw [List.mem_singleton.1 hb]
  exact added_keepsLists h l roleId

/-- A part that touches no list. -/
theorem follows_keeping {α : Type} {p : Prog α}
    (h : Follows (fun _ (op : Op) => op.keepsLists = true) (fun _ _ => True) own p) :
    Follows (Replaces r) (fun own' _ => ∃ more, own' = own ++ more ∧ NothingAdded more) own p := by
  refine h.extends.mono (fun _ _ hop => .other hop) fun own' _ hend => ?_
  rcases hend.2 with ⟨more, hown, hkeeps⟩
  exact ⟨more, hown, fun a ha => added_keepsLists (hkeeps a ha)⟩

theorem keeps_findRoleWithPermissions (roleId : String) :
    Follows (fun _ (op : Op) => op.keepsLists = true) (fun _ _ => True) own
      (RolesService.findRoleWithPermissions roleId) := by
  unfold RolesService.findRoleWithPermissions
  refine follows_call_bind rfl (fun _ => trivial) fun found => ?_
  cases (found : Option Role) with
  | none => trivial
  | some role =>
      refine follows_call_bind rfl (fun _ => trivial) fun mappings => ?_
      refine follows_call_bind rfl (fun _ => trivial) fun delegations => ?_
      exact follows_settled_bind (fun _ _ => trivial) fun _ _ => trivial

theorem keeps_describeRealmRole (dto : UpdateRoleDto) (role : Role) :
    Follows (fun _ (op : Op) => op.keepsLists = true) (fun _ _ => True) own
      (RolesService.describeRealmRole dto role) := by
  unfold RolesService.describeRealmRole
  split
  · refine follows_call_bind rfl (fun _ => trivial) fun _ => ?_
    refine follows_call_bind rfl (fun _ => trivial) fun existing => ?_
    exact ⟨rfl, fun _ => follows_settled.2 trivial⟩
  · trivial

/-- The role is shown at the end, when both writes are done. -/
theorem follows_show {l : RoleList} {role : Role} {ids : List String} (roleId : String)
    (hfinds : FindsRole own r role) (hsets : r.sets l = some ids)
    (honly : ∀ l', l' ≠ l → r.sets l' = none)
    (hdeleted : Did (fun op => op = l.clear role.id) own)
    (hinserted : ids = [] ∨ Did (fun op => op = l.fill role.id ids r.actorId) own) :
    Follows (Replaces r) (HasReplaced r) own (RolesService.findRoleWithPermissions roleId) := by
  refine (follows_keeping (keeps_findRoleWithPermissions roleId)).mono (fun _ _ hop => hop) ?_
  intro own' reply hend details _ l' ids' hsets'
  rcases hend with ⟨more, rfl, _⟩
  by_cases hl : l' = l
  · subst hl
    cases hsets.symm.trans hsets'
    refine ⟨role, List.mem_append_left _ hfinds, did_append.2 (.inl hdeleted), ?_⟩
    exact hinserted.imp_right fun h => did_append.2 (.inl h)
  · rw [honly l' hl] at hsets'
    cases hsets'

theorem did_last {kind : Op → Prop} {op : Op} {a : op.Res} (h : kind op) :
    Did kind (own ++ [(⟨op, .ok a⟩ : Awaited sig HttpError)]) :=
  did_append.2 (.inr (did_singleton.2 ⟨h, rfl⟩))

theorem follows_mapPermissions (dto : MapRolePermissionsDto) (actorId : Option String) :
    Follows (Replaces (.mapPermissions dto actorId)) (HasReplaced (.mapPermissions dto actorId)) []
      (RolesService.mapPermissions dto actorId) := by
  have hthrow : ∀ own e, HasReplaced (.mapPermissions dto actorId) own (.error e) :=
    fun _ _ _ h => by cases h
  unfold RolesService.mapPermissions
  refine follows_call_bind (.other rfl) (fun _ => hthrow _ _) fun found => ?_
  cases hfound : (found : Option Role) with
  | none => exact hthrow _ _
  | some role =>
      subst hfound
      refine follows_call_bind (.other rfl) (fun _ => hthrow _ _) fun permissions => ?_
      dsimp only
      split
      · exact hthrow _ _
      · have hsets : (RoleRequest.mapPermissions dto actorId).sets .permissions =
            some dto.permissionIds := rfl
        have hnothing : NothingAdded [(⟨.findRole dto.roleId, .ok (some role)⟩ : Awaited sig HttpError),
            ⟨.findActivePermissions dto.permissionIds, .ok permissions⟩] :=
          nothingAdded_append.2 ⟨nothingAdded_singleton rfl, nothingAdded_singleton rfl⟩
        refine follows_call_bind (.clear .permissions (List.mem_cons_self ..) hsets hnothing)
          (fun _ => hthrow _ _) fun _ => ?_
        refine follows_call_bind (.fill .permissions (List.mem_cons_self ..) hsets)
          (fun _ => hthrow _ _) fun _ => ?_
        refine follows_show (l := .permissions) role.id (List.mem_cons_self ..) hsets ?_ ?_ ?_
        · intro l' hl
          exact if_neg hl
        · exact did_append.2 (.inl (did_last rfl))
        · exact .inr (did_last rfl)

theorem follows_update (dto : UpdateRoleDto) (actorId : Option String) :
    Follows (Replaces (.update dto actorId)) (HasReplaced (.update dto actorId)) []
      (RolesService.update dto actorId) := by
  -- A request that throws has promised nothing.
  have hthrow : ∀ own e, HasReplaced (.update dto actorId) own (.error e) :=
    fun _ _ _ h => by cases h
  unfold RolesService.update
  refine follows_call_bind (.other rfl) (fun _ => hthrow _ _) fun found => ?_
  cases hfound : (found : Option Role) with
  | none => exact hthrow _ _
  | some role =>
      subst hfound
      refine Follows.bind (follows_keeping (keeps_describeRealmRole dto role)) ?_ fun _ _ _ => hthrow _ _
      intro own₁ _ hdescribed
      rcases hdescribed with ⟨more, rfl, hmore⟩
      refine follows_call_bind (.other rfl) (fun _ => hthrow _ _) fun _ => ?_
      have hother : ∀ l', l' ≠ RoleList.delegates → (RoleRequest.update dto actorId).sets l' = none :=
        fun _ hl => if_neg hl
      unfold RolesService.redelegate
      cases hids : dto.delegatedAdminKeycloakUserIds.toOption with
      | none =>
          -- The request sets no list.
          refine (follows_keeping (keeps_findRoleWithPermissions role.id)).mono (fun _ _ hop => hop) ?_
          intro own' reply _ details _ l ids hsets
          by_cases hl : l = .delegates
          · subst hl
            cases hids.symm.trans hsets
          · cases (hother l hl).symm.trans hsets
      -- The list of delegates is cleared first, whether or not something is put in.
      | some ids =>
          have hsets : (RoleRequest.update dto actorId).sets .delegates = some ids := hids
          unfold RolesService.replaceDelegations
          rw [bind_assoc]
          refine follows_call_bind (.clear .delegates ?_ hsets ?_) (fun _ => hthrow _ _) fun _ => ?_
          · simp [FindsRole, RoleRequest.roleId]
          · refine nothingAdded_append.2 ⟨nothingAdded_append.2 ⟨nothingAdded_singleton rfl, hmore⟩, ?_⟩
            exact nothingAdded_singleton rfl
          cases hcons : ids with
          | nil =>
              subst hcons
              refine follows_show (l := .delegates) role.id ?_ hsets hother (did_last rfl) (.inl rfl)
              simp [FindsRole, RoleRequest.roleId]
          | cons id rest =>
              rw [hcons] at hsets
              refine follows_call_bind (.fill .delegates ?_ hsets) (fun _ => hthrow _ _) fun _ => ?_
              · simp [FindsRole, RoleRequest.roleId]
              refine follows_show (l := .delegates) role.id ?_ hsets hother ?_ (.inr (did_last rfl))
              · simp [FindsRole, RoleRequest.roleId]
              · exact did_append.2 (.inl (did_last rfl))

theorem follows_roleService (r : RoleRequest) :
    Follows (Replaces r) (HasReplaced r) [] (roleService.program r) := by
  cases r with
  | mapPermissions dto actorId => exact follows_mapPermissions dto actorId
  | update dto actorId => exact follows_update dto actorId

end Code

/-! ## Concurrent requests -/

/-- A role's list is inserted when there is none, or when the unique index refuses a member that is
there. -/
def InsertsAlone (l : RoleList) (roleId : String) (h : History roleService)
    (e : Event sig HttpError) : Prop :=
  l.added roleId e.op ≠ [] →
    l.Empty h.state roleId ∨ ∃ id ∈ l.added roleId e.op, l.Has h.state roleId id

instance (l : RoleList) (roleId : String) (h : History roleService) (e : Event sig HttpError) :
    Decidable (InsertsAlone l roleId h e) :=
  inferInstanceAs (Decidable (_ → _))

theorem findsRole_id {h : History roleService} {i : Nat} {r : RoleRequest} {role : Role}
    (hanswered : h.Answered) (hfinds : FindsRole (h.own i) r role) : role.id = r.roleId := by
  rcases hanswered.own hfinds with ⟨ch, s, hres⟩
  have hperform : perform (.findRole r.roleId) ch s =
      (.ok (some role), (perform (.findRole r.roleId) ch s).2) := Prod.ext hres.symm rfl
  exact (findRole_some hperform).2.1

theorem did_fills_false {l : RoleList} {roleId : String} {own : Own} (h : NothingAdded own) :
    ¬ Did (fun op => ∃ w : Set String, l.added roleId op ≠ [] ∧ w = {id | id ∈ l.added roleId op})
      own := by
  rintro ⟨a, ha, ⟨w, hsome, _⟩, _⟩
  exact hsome (h a ha l roleId)

/-- The requests on a list of a role. -/
def replacing (l : RoleList) (roleId : String) :
    Replacing (X := String) roleService Replaces HasReplaced where
  contents s := {id | l.Has s roleId id}
  wanted r := (r.replaces l roleId).map fun ids => {id | id ∈ ids}
  clears op := op = l.clear roleId
  puts op w := l.added roleId op ≠ [] ∧ w = {id | id ∈ l.added roleId op}
  apart := by
    rintro op w rfl hputs
    exact hputs.1 (RoleList.added_clear l l roleId roleId)
  clear_first := by
    intro h i r op hanswered hr hallowed hclears
    cases hallowed with
    -- The two calls that write a table are not among those that keep both.
    | other hkeeps =>
        subst hclears
        cases l with
        | permissions => cases hkeeps
        | delegates => cases hkeeps
    | @clear role l' ids hfinds hsets hnothing =>
        rcases RoleList.clear_inj hclears with ⟨rfl, hid⟩
        refine ⟨?_, did_fills_false hnothing⟩
        simp [RoleRequest.replaces, ← findsRole_id hanswered hfinds, hid, hsets]
    -- An insertion is not a deletion.
    | @fill role l' ids hfinds hsets =>
        cases l with
        | permissions =>
            cases l' with
            | permissions => cases hclears
            | delegates => cases hclears
        | delegates =>
            cases l' with
            | permissions => cases hclears
            | delegates => cases hclears
  put_second := by
    intro h i r op w hanswered hr hallowed hputs
    rcases hputs with ⟨hsome, rfl⟩
    cases hallowed with
    | other hkeeps => exact absurd (added_keepsLists hkeeps l roleId) hsome
    | clear l' _ _ _ => exact absurd (RoleList.added_clear l l' roleId _) hsome
    -- The request inserts the ids that it asks for, to the role it names.
    | @fill role l' ids hfinds hsets =>
        rcases List.exists_mem_of_ne_nil _ hsome with ⟨id, hid⟩
        rcases RoleList.mem_added_fill.1 hid with ⟨rfl, hrole, _⟩
        have hsame : r.roleId = roleId := (findsRole_id hanswered hfinds).symm.trans hrole.symm
        simp only [RoleRequest.replaces, if_pos hsame, hsets, Option.map_some, Option.some.injEq]
        ext id'
        simp [RoleList.mem_added_fill, hrole]
  clear := by
    rintro op ch s a s' rfl hperform
    ext id
    simp [RoleList.has_performed hperform id]
  put := by
    -- The insertion has been accepted, so none of its pairs was there.
    rintro op ch s a s' w ⟨hsome, rfl⟩ hperform
    have hclear : op ≠ l.clear roleId := by
      rintro rfl
      exact hsome (RoleList.added_clear l l roleId roleId)
    refine ⟨?_, Set.disjoint_left.2 fun id hhas hadded => RoleList.added_fresh hperform hadded hhas⟩
    ext id
    simp [RoleList.has_performed hperform id, hclear]
  refused := by
    intro op ch s e s' hperform
    -- A failed call may have changed the realm, but no table.
    rcases perform_error hperform with ⟨realm, rfl, _⟩
    cases l with
    | permissions => rfl
    | delegates => rfl
  quiet := by
    intro h i r op ch a s' _ _ _ hclear hputs hperform
    have hnone : l.added roleId op = [] := by
      by_contra hsome
      exact hputs _ ⟨hsome, rfl⟩
    ext id
    simp [RoleList.has_performed hperform id, hclear, hnone]
  ends := by
    intro h i r a w hanswered hr hwants hreplaced
    -- The reply comes after the deletion, and after the insertion of a list that is not empty.
    rcases Option.map_eq_some_iff.1 hwants with ⟨ids, hreplaces, rfl⟩
    unfold RoleRequest.replaces at hreplaces
    split at hreplaces
    · rename_i hrole
      rcases hreplaced a rfl l ids hreplaces with ⟨role, hfinds, hdeleted, hinserted⟩
      have hid : role.id = roleId := (findsRole_id hanswered hfinds).trans hrole
      rw [hid] at hdeleted hinserted
      refine ⟨hdeleted, ?_⟩
      by_cases hempty : ids = []
      · right
        simp [hempty]
      · left
        rcases hinserted.resolve_left hempty with ⟨b, hb, hfill, hok⟩
        refine ⟨b, hb, ⟨_, ?_, rfl⟩, hok⟩
        rcases List.exists_mem_of_ne_nil _ hempty with ⟨id, hmem⟩
        rw [hfill]
        exact List.ne_nil_of_mem (RoleList.mem_added_fill.2 ⟨rfl, rfl, hmem⟩)
    · cases hreplaces

/-- Some request sets the list, and those that do have been answered. -/
structure AllReplied (l : RoleList) (roleId : String) (c : Config roleService) : Prop where
  requested : ∃ (i : Nat) (r : RoleRequest), c.requests[i]? = some r ∧
    (r.replaces l roleId).isSome = true
  replied : ∀ (i : Nat) (r : RoleRequest), c.requests[i]? = some r →
    (r.replaces l roleId).isSome = true → ∃ details, c.pool[i]? = some (.resolve details)

/-- The list is exactly what one of the requests sets. -/
def OneOfThem (l : RoleList) (roleId : String) (c : Config roleService) : Prop :=
  ∃ (i : Nat) (r : RoleRequest) (ids : List String), c.requests[i]? = some r ∧
    r.replaces l roleId = some ids ∧ ∀ id, l.Has c.state roleId id ↔ id ∈ ids

/-- Requests set lists of roles, in any order of their calls. When the inserts of a list find it
empty, unless they are refused, one of the requests has the last word. -/
theorem replacements_do_not_merge (l : RoleList) (roleId : String) (s : Store)
    (as : List (Action roleService))
    (halone : Config.Meets (InsertsAlone l roleId) (Config.initial roleService s) as)
    (hreplied : AllReplied l roleId ((Config.initial roleService s).run as)) :
    OneOfThem l roleId ((Config.initial roleService s).run as) := by
  have hwanted : ∀ r : RoleRequest, ((replacing l roleId).wanted r).isSome = true ↔
      (r.replaces l roleId).isSome = true := fun r => by simp [replacing]
  have hmeets : Config.Meets (replacing l roleId).InsertsAlone (Config.initial roleService s) as := by
    refine halone.mono fun h e hcond => ?_
    rintro w ⟨hsome, rfl⟩
    rcases hcond hsome with hempty | ⟨id, hadded, hhas⟩
    · exact .inl (Set.eq_empty_iff_forall_notMem.2 hempty.not_has)
    · exact .inr (Set.not_disjoint_iff.2 ⟨id, hhas, hadded⟩)
  have hsome : ∃ (i : Nat) (r : RoleRequest),
      ((Config.initial roleService s).run as).requests[i]? = some r ∧
        ((replacing l roleId).wanted r).isSome = true := by
    rcases hreplied.requested with ⟨i, r, hr, h⟩
    exact ⟨i, r, hr, (hwanted r).2 h⟩
  rcases Replacing.run_replaced follows_roleService hmeets hsome
    (fun i r hr h => hreplied.replied i r hr ((hwanted r).1 h)) with ⟨i, r, hr, hwant⟩
  rcases Option.map_eq_some_iff.1 hwant with ⟨ids, hids, hset⟩
  exact ⟨i, r, ids, hr, hids, fun id => (Set.ext_iff.1 hset id).symm⟩

/-! ## Two requests at once -/

def resume (i : Nat) : Action roleService := .resume i (answered s!"row-{i}-")

/-- Both look up the role and the permissions; then the writes of one come before those of the
other. -/
def inTurn (first second : RoleRequest) : Config roleService :=
  (Config.initial roleService permittedStore).run
    [.start first, .start second, resume 0, resume 1, resume 0, resume 1, resume 0, resume 0,
      resume 1, resume 1, resume 0, resume 0, resume 0, resume 1, resume 1, resume 1]

/-- Both delete before they insert. -/
def crossed (first second : RoleRequest) : Config roleService :=
  (Config.initial roleService permittedStore).run
    [.start first, .start second, resume 0, resume 1, resume 0, resume 1, resume 0, resume 1,
      resume 0, resume 1, resume 0, resume 0, resume 0, resume 1, resume 1, resume 1]

def mapsTo (permissionId : String) : RoleRequest :=
  .mapPermissions ⟨"r-1", [permissionId]⟩ (some "root")

def delegatesTo (userId : String) : RoleRequest :=
  .update (delegatesDto [userId]) (some "root")

section Two

variable {l : RoleList} {roleId : String} {first second : RoleRequest} {c : Config roleService}

theorem AllReplied.of_two {a b : RoleDetails} (hrequests : c.requests = [first, second])
    (hpool : c.pool = [.resolve a, .resolve b]) (hsets : (first.replaces l roleId).isSome = true) :
    AllReplied l roleId c := by
  refine ⟨⟨0, first, by simp [hrequests], hsets⟩, fun i r hr _ => ?_⟩
  rw [hrequests] at hr
  rw [hpool]
  match i with
  | 0 => exact ⟨a, rfl⟩
  | 1 => exact ⟨b, rfl⟩
  | i + 2 => cases hr

/-- A list with two members is not what a request sets that has one. -/
theorem not_oneOfThem {x y : String} (hrequests : c.requests = [first, second])
    (hfirst : first.replaces l roleId = some [x]) (hsecond : second.replaces l roleId = some [y])
    (hne : x ≠ y) (hx : l.Has c.state roleId x) (hy : l.Has c.state roleId y) :
    ¬ OneOfThem l roleId c := by
  rintro ⟨i, r, ids, hr, hsets, hexact⟩
  have hshort : ∃ z, ids = [z] := by
    have hmem : r ∈ [first, second] := hrequests ▸ List.mem_of_getElem? hr
    rcases List.mem_pair.1 hmem with rfl | rfl
    · exact ⟨x, Option.some.inj (hsets.symm.trans hfirst)⟩
    · exact ⟨y, Option.some.inj (hsets.symm.trans hsecond)⟩
  rcases hshort with ⟨z, rfl⟩
  have hxz : x = z := List.mem_singleton.1 ((hexact x).1 hx)
  have hyz : y = z := List.mem_singleton.1 ((hexact y).1 hy)
  exact hne (hxz.trans hyz.symm)

end Two

theorem replacement_in_turn :
    OneOfThem .permissions "r-1" (inTurn (mapsTo "p-1") (mapsTo "p-2")) :=
  replacements_do_not_merge .permissions "r-1" permittedStore _ (by decide) (.of_two rfl rfl rfl)

/-- All requests are answered, and the role has the permissions and the delegates of two. -/
theorem lists_merged :
    (AllReplied .permissions "r-1" (crossed (mapsTo "p-1") (mapsTo "p-2")) ∧
      ¬ OneOfThem .permissions "r-1" (crossed (mapsTo "p-1") (mapsTo "p-2"))) ∧
    (AllReplied .delegates "r-1" (crossed (delegatesTo "anna") (delegatesTo "bob")) ∧
      ¬ OneOfThem .delegates "r-1" (crossed (delegatesTo "anna") (delegatesTo "bob"))) := by
  refine ⟨⟨.of_two rfl rfl rfl, ?_⟩, .of_two rfl rfl rfl, ?_⟩
  · exact not_oneOfThem rfl rfl rfl (by decide) (by decide) (by decide)
  · exact not_oneOfThem rfl rfl rfl (by decide) (by decide) (by decide)

end Rbac
end IdentityBillpay
