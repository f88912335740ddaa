import IdentityBillpay.Rbac.Agreement
import IdentityBillpay.Rbac.Smooth

/-!
# PermissionSets — `mapPermissions` replaces the permissions of a role

The request compares the number of active permissions it has found with the length of the list, and
then deletes the mappings of the role and inserts those of the list.

* `Store.Maps`, `deleteMappings_maps`, `insertMappings_maps` — mappings, and what the two writes do;
* `contract_mapPermissions` — the contract;
* `mapPermissions_set_iff` — when the list counts as a set.
-/

namespace IdentityBillpay
namespace Rbac

open Async Async.Program Keycloak

/-- The permission is mapped to the role. -/
def Store.Maps (s : Store) (roleId permissionId : String) : Prop :=
  ∃ m ∈ s.rolePermissions, m.roleId = roleId ∧ m.permissionId = permissionId

/-- The id is that of an active permission. -/
def Store.ActivePermission (s : Store) (id : String) : Prop :=
  ∃ p ∈ s.permissions, p.id = id ∧ (p.isActive && p.deletedAt.isNone) = true

instance (s : Store) (id : String) : Decidable (s.ActivePermission id) :=
  inferInstanceAs (Decidable (∃ p ∈ s.permissions, _))

/-- The mappings of a list of permissions. -/
def mappings (roleId : String) (permissionIds : List String) (mappedBy : Option String) :
    List NewMapping :=
  permissionIds.map fun permissionId => ⟨roleId, permissionId, mappedBy⟩

/-! ## The two writes -/

/-- Rows inserted together keep what each of them is given. -/
theorem mapM_mapIdx_map {α β γ : Type} {news : List α} {row? : Nat → α → Option β} {rows : List β}
    {f : α → γ} {g : β → γ} (hrow : ∀ n new row, row? n new = some row → g row = f new)
    (h : (news.mapIdx row?).mapM id = some rows) : rows.map g = news.map f := by
  have hrows := mapM_id_eq_some.1 h
  have hlen : rows.length = news.length := by
    simpa using (congrArg List.length hrows).symm
  refine List.ext_getElem (by simpa using hlen) fun n hn _ => ?_
  have hn' : n < news.length := by simpa [hlen] using hn
  have hget := List.getElem_of_eq hrows (by simpa using hn')
  simp only [List.getElem_mapIdx, List.getElem_map] at hget
  simpa using hrow n _ _ hget

theorem NewMapping.row?_pair {new : NewMapping} {id : String} {row : RolePermission}
    (h : new.row? id = some row) : row.pair = (new.roleId, new.permissionId) := by
  rcases Option.bind_eq_some_iff.1 h with ⟨mappedBy, _, hfits⟩
  dsimp only at hfits
  split at hfits
  · cases hfits
    rfl
  · cases hfits

section Writes

variable {s s' : Store} {ch : Choice}

theorem deleteMappings_maps {roleId : String} (role permission : String) :
    (deleteMappings s roleId).Maps role permission ↔ role ≠ roleId ∧ s.Maps role permission := by
  constructor
  · intro h
    rcases h with ⟨m, hm, rfl, rfl⟩
    have hkept := Sql.Table.mem_delete.1 hm
    exact ⟨by simpa using hkept.2, m, hkept.1, rfl, rfl⟩
  · intro h
    rcases h with ⟨hne, m, hm, rfl, rfl⟩
    exact ⟨m, Sql.Table.mem_delete.2 ⟨hm, by simpa using hne⟩, rfl, rfl⟩

theorem mem_deleteMappings {roleId : String} {m : RolePermission} :
    m ∈ (deleteMappings s roleId).rolePermissions ↔ m ∈ s.rolePermissions ∧ m.roleId ≠ roleId := by
  simp [deleteMappings]

/-- What is found in a table after rows were added that keep what each of `news` gives. -/
theorem exists_added {ρ ν γ : Type} {old new : ρ → Prop} {rows : List ρ} {news : List ν} {f : ρ → γ}
    {g : ν → γ} (hnew : ∀ r, new r ↔ old r ∨ r ∈ rows) (hrows : rows.map f = news.map g) (c : γ) :
    (∃ r, new r ∧ f r = c) ↔ (∃ r, old r ∧ f r = c) ∨ ∃ n ∈ news, g n = c := by
  have hmap : (∃ r ∈ rows, f r = c) ↔ ∃ n ∈ news, g n = c := by
    rw [← List.mem_map, hrows, List.mem_map]
  rw [← hmap]
  simp only [hnew, or_and_right, exists_or]

/-- The rows that an insert adds; their pairs are new. -/
theorem insertMappings_rows {news : List NewMapping} {u : Unit}
    (h : perform (.insertMappings news) ch s = (.ok u, s')) :
    ∃ (rows : List RolePermission) (t : _),
      rows.map RolePermission.pair = news.map (fun new => (new.roleId, new.permissionId)) ∧
      s' = { s with rolePermissions := t } ∧ (∀ m, m ∈ t ↔ m ∈ s.rolePermissions ∨ m ∈ rows) ∧
      ∀ m ∈ s.rolePermissions, ∀ row ∈ rows, m.pair ≠ row.pair := by
  rcases Option.bind_eq_some_iff.1 (query_ok h) with ⟨rows, hrows, hrest⟩
  rcases Option.bind_eq_some_iff.1 hrest with ⟨t, ht, hdone⟩
  cases hdone
  exact ⟨rows, t, mapM_mapIdx_map (fun _ _ _ => NewMapping.row?_pair) hrows, rfl,
    fun m => Sql.Table.mem_insertAll? ht, fun m hm row hrow => Sql.Table.insertAll?_fresh ht hm hrow⟩

theorem insertMappings_maps {news : List NewMapping} {u : Unit}
    (h : perform (.insertMappings news) ch s = (.ok u, s')) (role permission : String) :
    s'.Maps role permission ↔ s.Maps role permission ∨
      ∃ new ∈ news, new.roleId = role ∧ new.permissionId = permission := by
  rcases insertMappings_rows h with ⟨rows, t, hpairs, rfl, ht, _⟩
  have hadded := exists_added ht hpairs (role, permission)
  simp only [RolePermission.pair, Prod.mk.injEq] at hadded
  exact hadded

end Writes

/-! ## The request -/

section Request

variable {s : Store} {limits : Choice → Prop}

theorem findActivePermissions_length_iff {ids : List String} {found : List Permission} {ch : Choice}
    {s' : Store} (h : perform (.findActivePermissions ids) ch s = (.ok found, s')) :
    found.length = ids.length ↔ ids.Nodup ∧ ∀ id ∈ ids, s.ActivePermission id := by
  have hfound : s.permissions.find
      (fun p => ids.contains p.id && (p.isActive && p.deletedAt.isNone)) = found := by
    simpa only [Bool.and_assoc] using (Prod.mk.inj (Option.some.inj (query_ok h))).1
  rw [← hfound]
  exact Sql.Table.find_length_iff (p := fun p : Permission => p.isActive && p.deletedAt.isNone)

theorem mappedPermission_ne_none {m : RolePermission} (h : s.ActivePermission m.permissionId) :
    s.mappedPermission m ≠ none := by
  rcases h with ⟨p, hp, hid, hlive⟩
  intro hnone
  have hno := Sql.Table.findOne_eq_none.1 hnone p hp
  simp only [Bool.and_eq_true] at hlive
  simp [hid, hlive.2] at hno

/-- The mappings of one role are those of the list; those of the others are what they were. -/
structure Replaced (s : Store) (roleId : String) (permissionIds : List String) (m : Store) : Prop where
  mapped : ∀ id, m.Maps roleId id ↔ id ∈ permissionIds
  others : ∀ x, x.roleId ≠ roleId → (x ∈ m.rolePermissions ↔ x ∈ s.rolePermissions)

theorem replaced_mappings {roleId : String} {permissionIds : List String} {mappedBy : Option String}
    {ch : Choice} {m : Store} {u : Unit}
    (h : perform (.insertMappings (mappings roleId permissionIds mappedBy)) ch
      (deleteMappings s roleId) = (.ok u, m)) : Replaced s roleId permissionIds m := by
  refine ⟨fun id => ?_, fun x hx => ?_⟩
  · rw [insertMappings_maps h, deleteMappings_maps]
    simp [mappings]
  · rcases insertMappings_rows h with ⟨rows, t, hpairs, rfl, ht, _⟩
    have hnew : x ∉ rows := by
      intro hmem
      have hpair : x.pair ∈ rows.map RolePermission.pair := List.mem_map_of_mem hmem
      rw [hpairs] at hpair
      rcases List.mem_map.1 hpair with ⟨new, hnew, heq⟩
      rcases List.mem_map.1 hnew with ⟨id, _, rfl⟩
      exact hx (Prod.mk.inj heq).1.symm
    rw [ht x, mem_deleteMappings]
    exact ⟨fun hor => (hor.resolve_right hnew).1, fun hold => .inl ⟨hold, hx⟩⟩

/-- A list is accepted if it has no repetition and only active permissions. -/
structure Acceptable (s : Store) (permissionIds : List String) : Prop where
  nodup : permissionIds.Nodup
  active : ∀ id ∈ permissionIds, s.ActivePermission id

theorem contract_mapPermissions (dto : MapRolePermissionsDto) (actorKeycloakUserId : Option String)
    {role : Role} (hrole : role ∈ s.roles) (hid : role.id = dto.roleId) (hlive : role.isLive = true) :
    Contract limits (fun _ _ _ => True)
      (fun _ m r =>
        match r with
        | .ok _ => Acceptable s dto.permissionIds ∧ Replaced s dto.roleId dto.permissionIds m
        | .error _ => m = s ∧ ¬ Acceptable s dto.permissionIds)
      [] s (RolesService.mapPermissions dto actorKeycloakUserId) := by
  unfold RolesService.mapPermissions
  have h₀ := Longer.refl []
  -- `findRoleOrFail` finds the live role of the request.
  refine contract_read h₀ rfl rfl trivial ?_
  intro ch found own₁ h₁ hfound
  cases (found : Option Role) with
  | none =>
      have hdead := findRole_none hfound hrole hid
      simp [hlive] at hdead
  | some role' =>
      rcases findRole_some hfound with ⟨hmem, hid', _⟩
      have hsame : role' = role := Sql.Table.eq_of_id hmem hrole (hid'.trans hid.symm)
      subst hsame
      -- The active permissions of the list are counted against its length.
      refine contract_read h₁ rfl rfl trivial ?_
      intro ch' permissions own₂ h₂ hpermissions
      have haccept := findActivePermissions_length_iff hpermissions
      by_cases hlen : (permissions : List Permission).length = dto.permissionIds.length
      · rw [if_neg (not_not.2 hlen)]
        have hacceptable : Acceptable s dto.permissionIds := ⟨(haccept.1 hlen).1, (haccept.1 hlen).2⟩
        -- The mappings are deleted, and then inserted.
        refine contract_write h₂ rfl trivial ?_
        intro ch₃ _ own₃ m₃ h₃ _ hdelete
        have hm₃ : m₃ = deleteMappings s role'.id := deleteMappings_ok hdelete
        subst hm₃
        refine contract_write h₃ rfl trivial ?_
        intro ch₄ _ own₄ m₄ h₄ _ hinsert
        have hreplaced : Replaced s dto.roleId dto.permissionIds m₄ := by
          rw [hid] at hinsert
          exact replaced_mappings hinsert
        have htables : ∃ t, m₄ = { s with rolePermissions := t } := by
          rcases insertMappings_ok hinsert with ⟨t, rfl⟩
          exact ⟨t, rfl⟩
        -- Nothing refuses to show the role again.
        refine (contract_findRoleWithPermissions role'.id).mono (fun _ _ _ _ => trivial) ?_
        intro own' m r hend
        rcases hend with ⟨rfl, hend⟩
        cases r with
        | ok details => exact ⟨hacceptable, hreplaced⟩
        | error e =>
            refine absurd ?_ hend.2
            rcases htables with ⟨t, rfl⟩
            refine ⟨⟨role', hmem, rfl, hlive⟩, fun x hx hxrole => ?_⟩
            -- What is mapped now are active permissions.
            have hmapped := (hreplaced.mapped x.permissionId).1 ⟨x, hx, hxrole.trans hid, rfl⟩
            exact mappedPermission_ne_none (s := s) (hacceptable.active _ hmapped)
      · -- A name is missing or is there twice, and nothing has been written.
        rw [if_pos hlen]
        exact ⟨rfl, fun h => hlen (haccept.2 ⟨h.nodup, h.active⟩)⟩

end Request

/-! ## Lists as sets -/

/-- The list counts as the set of its ids: accepted when all of them are active permissions, which
then are the permissions of the role, and otherwise rejected without a change. -/
structure TreatedAsSet (s : Store) (roleId : String) (permissionIds : List String) (m : Store)
    (accepted : Bool) : Prop where
  accepts : accepted = true ↔ ∀ id ∈ permissionIds, s.ActivePermission id
  replaced : accepted = true → Replaced s roleId permissionIds m
  rejected : accepted = false → ∀ x, x ∈ m.rolePermissions ↔ x ∈ s.rolePermissions

/-- A list without a failing call counts as a set exactly if it has no repetition or would be
rejected anyway. -/
theorem mapPermissions_set_iff (s : Store) (dto : MapRolePermissionsDto)
    (actorKeycloakUserId : Option String) (choices : Nat → Choice) (role : Role)
    (hrole : role ∈ s.roles) (hid : role.id = dto.roleId) (hlive : role.isLive = true)
    (hown : Unfailing
      ((RolesService.mapPermissions dto actorKeycloakUserId).exec backend choices s).awaited) :
    TreatedAsSet s dto.roleId dto.permissionIds
        ((RolesService.mapPermissions dto actorKeycloakUserId).exec backend choices s).state
        ((RolesService.mapPermissions dto actorKeycloakUserId).exec backend choices s).result.isOk ↔
      dto.permissionIds.Nodup ∨ ∃ id ∈ dto.permissionIds, ¬ s.ActivePermission id := by
  have hcontract := @contract_mapPermissions s (fun _ => True) dto actorKeycloakUserId role hrole hid
    hlive
  have hend := hcontract.exec_unfailing (fun _ => trivial) hown
  generalize (RolesService.mapPermissions dto actorKeycloakUserId).exec backend choices s = outcome
    at hend ⊢
  rcases outcome with ⟨result, awaited, m⟩
  cases result with
  | ok details =>
      rcases hend with ⟨hacceptable, hreplaced⟩
      -- Both the set and the reply are right.
      refine iff_of_true ⟨iff_of_true rfl hacceptable.active, fun _ => hreplaced, ?_⟩
        (.inl hacceptable.nodup)
      intro h
      cases h
  | error e =>
      rcases hend with ⟨hsame, hunacceptable⟩
      dsimp only at hsame ⊢
      subst hsame
      constructor
      · -- A list of active permissions is refused only for a repeated one.
        intro h
        by_cases hactive : ∀ id ∈ dto.permissionIds, m.ActivePermission id
        · have hok := h.accepts.2 hactive
          cases hok
        · simp only [not_forall] at hactive
          rcases hactive with ⟨id, hmem, hinactive⟩
          exact .inr ⟨id, hmem, hinactive⟩
      · intro h
        have hinactive : ¬ ∀ id ∈ dto.permissionIds, m.ActivePermission id := by
          intro hactive
          rcases h with hnodup | ⟨id, hmem, hinactive⟩
          · exact hunacceptable ⟨hnodup, hactive⟩
          · exact hinactive (hactive id hmem)
        refine ⟨iff_of_false (by simp [Except.isOk, Except.toBool]) hinactive, ?_, fun _ _ => Iff.rfl⟩
        intro hok
        cases hok

def permission (id : String) (isActive : Bool) : Permission :=
  ⟨id, id, id, "BILL_PAYMENT", "READ", isActive, none⟩

/-- A teller may do `p-1`; `p-3` is inactive. -/
def permittedStore : Store :=
  { bankStore with
    permissions := .ofRows _ _ [permission "p-1" true, permission "p-2" true, permission "p-3" false]
    rolePermissions := .ofRows _ _ [⟨"m-1", "r-1", "p-1", "root"⟩] }

theorem mapPermissions_set_swapped :
    TreatedAsSet permittedStore "r-1" ["p-2", "p-1"]
        ((RolesService.mapPermissions ⟨"r-1", ["p-2", "p-1"]⟩ (some "root")).exec backend
          (fun _ => answered "m-") permittedStore).state
        ((RolesService.mapPermissions ⟨"r-1", ["p-2", "p-1"]⟩ (some "root")).exec backend
          (fun _ => answered "m-") permittedStore).result.isOk ↔
      ["p-2", "p-1"].Nodup ∨ ∃ id ∈ ["p-2", "p-1"], ¬ permittedStore.ActivePermission id :=
  mapPermissions_set_iff permittedStore ⟨"r-1", ["p-2", "p-1"]⟩ (some "root")
    (fun _ => answered "m-") (bankRole "r-1" "TELLER") (by decide) rfl rfl (by decide)

/-- A repeated id is rejected, although it is that of an active permission. -/
theorem repeated_id_rejected :
    ¬ TreatedAsSet permittedStore "r-1" ["p-2", "p-2"]
      ((RolesService.mapPermissions ⟨"r-1", ["p-2", "p-2"]⟩ (some "root")).exec backend
        (fun _ => answered "m-") permittedStore).state
      ((RolesService.mapPermissions ⟨"r-1", ["p-2", "p-2"]⟩ (some "root")).exec backend
        (fun _ => answered "m-") permittedStore).result.isOk := by
  intro h
  have hactive : ∀ id ∈ ["p-2", "p-2"], permittedStore.ActivePermission id := by decide
  have hrejected : ((RolesService.mapPermissions ⟨"r-1", ["p-2", "p-2"]⟩ (some "root")).exec backend
      (fun _ => answered "m-") permittedStore).result.isOk = false := by decide
  rw [h.accepts.2 hactive] at hrejected
  cases hrejected

end Rbac
end IdentityBillpay
