import IdentityBillpay.Rbac.Agreement
import IdentityBillpay.Rbac.RoleEdits
import IdentityBillpay.Rbac.Smooth

/-!
# PartialUpdate — what an `update` that throws has changed already

The update of a role describes its Keycloak role, saves the row, replaces the delegations and shows
the role. Without a failure from outside, three of these parts can throw.

* `AsBefore` — roles, their Keycloak descriptions and their delegations are what they were;
* `Harmless` — no part has changed anything before the one that throws;
* `update_all_or_nothing_iff` — what a request that throws leaves.
-/

namespace IdentityBillpay
namespace Rbac

open Async Async.Program Keycloak

/-- Nothing has changed but the times of the last save: one that changes no column writes nothing. -/
structure AsBefore (s m : Store) : Prop where
  rows : ∀ r ∈ s.roles, ∃ r' ∈ m.roles, { r' with updatedAt := r.updatedAt } = r
  descriptions : ∀ x, x ∈ m.realm.roles ↔ x ∈ s.realm.roles
  delegations : ∀ d, d ∈ m.delegatedRoles ↔ d ∈ s.delegatedRoles

theorem AsBefore.refl (s : Store) : AsBefore s s :=
  ⟨fun r hr => ⟨r, hr, rfl⟩, fun _ => Iff.rfl, fun _ => Iff.rfl⟩

/-! ## The parts of an update -/

section Parts

variable (s : Store) (dto : UpdateRoleDto) (actorKeycloakUserId : Option String) (role : Role)

/-- Keycloak has the role that a new description is for. -/
def Describable : Prop :=
  dto.description.isSet = true → ∃ k ∈ s.realm.roles, k.name = role.keycloakRoleName

/-- The Keycloak role gets another description. -/
def Redescribes : Prop :=
  ∃ description, dto.description = .value description ∧
    ∃ k ∈ s.realm.roles, k.name = role.keycloakRoleName ∧ k.description ≠ description

/-- The columns take the values that the body sets. -/
def Savable : Prop :=
  ((RolesService.changedRole dto role).row? role.updatedAt).isSome = true

/-- The body sets no column to another value. -/
def RowKept : Prop :=
  (RolesService.changedRole dto role).row? role.updatedAt = some role

/-- The delegates are different users, whose ids and the granter's fit their columns. -/
def Delegable : Prop :=
  ∀ delegateIds, dto.delegatedAdminKeycloakUserIds.toOption = some delegateIds → delegateIds ≠ [] →
    delegateIds.Nodup ∧ ∃ granter, Grants actorKeycloakUserId granter delegateIds

/-- The role is delegated to somebody. -/
def Delegated : Prop :=
  ∃ d ∈ s.delegatedRoles, d.roleId = role.id

/-- The body replaces delegations, or adds some. -/
def Redelegates : Prop :=
  ∃ delegateIds, dto.delegatedAdminKeycloakUserIds.toOption = some delegateIds ∧
    (delegateIds ≠ [] ∨ Delegated s role)

/-- Whichever part throws, the parts before it change nothing. -/
structure Harmless : Prop where
  save : ¬ Savable dto role → ¬ Redescribes s dto role
  delegate : Savable dto role → ¬ Delegable dto actorKeycloakUserId →
    ¬ Redescribes s dto role ∧ RowKept dto role ∧ ¬ Delegated s role
  reply : Savable dto role → Delegable dto actorKeycloakUserId → ¬ Showable s role.id →
    ¬ Redescribes s dto role ∧ RowKept dto role ∧ ¬ Redelegates s dto role

end Parts

/-! ## What each part changes -/

section Changes

variable {s m : Store} {dto : UpdateRoleDto} {role : Role}

/-- The realm after the first part. -/
structure DescribedBy (s : Store) (dto : UpdateRoleDto) (role : Role) (realm : Realm) : Prop where
  describable : Describable s dto role
  same : (∀ x, x ∈ realm.roles ↔ x ∈ s.realm.roles) ↔ ¬ Redescribes s dto role

theorem describedBy_of_not_isSet (h : dto.description.isSet = false) :
    DescribedBy s dto role s.realm := by
  refine ⟨fun hset => by simp [h] at hset, iff_of_true (fun _ => Iff.rfl) ?_⟩
  intro hre
  rcases hre with ⟨description, hvalue, _⟩
  simp [hvalue, Js.Optional.isSet] at h

/-- A new description changes the realm unless it is the old one. -/
theorem describedBy_putRole {existing : Keycloak.Role} {realm : Realm}
    (hexisting : existing ∈ s.realm.roles) (hname : existing.name = role.keycloakRoleName)
    (hset : dto.description.isSet = true)
    (hroles : ∀ x, x ∈ realm.roles ↔ ∃ k ∈ s.realm.roles, x = k.described role.keycloakRoleName
      (dto.description.toOption.getD existing.description)) : DescribedBy s dto role realm := by
  refine ⟨fun _ => ⟨existing, hexisting, hname⟩, ?_⟩
  -- There is one role of the name.
  have honly : ∀ k ∈ s.realm.roles, k.name = role.keycloakRoleName → k = existing :=
    fun k hk hkname => Sql.Table.eq_of_key hk hexisting (hkname.trans hname.symm)
  -- The description is changed exactly if the role has another one.
  have hre : Redescribes s dto role ↔
      dto.description.toOption.getD existing.description ≠ existing.description := by
    cases hdescription : dto.description with
    | undefined => simp [hdescription, Js.Optional.isSet] at hset
    | null => simp [Redescribes, hdescription, Js.Optional.toOption]
    | value text =>
        constructor
        · intro h
          rcases h with ⟨text', hvalue, k, hk, hkname, hne⟩
          rw [hdescription] at hvalue
          cases hvalue
          rw [honly k hk hkname] at hne
          exact fun heq => hne heq.symm
        · intro h
          exact ⟨text, hdescription, existing, hexisting, hname, fun heq => h heq.symm⟩
  generalize dto.description.toOption.getD existing.description = text at hroles hre
  rw [hre, not_not]
  constructor
  · intro h
    have hmem := (h _).1 ((hroles _).2 ⟨existing, hexisting, rfl⟩)
    have heq := honly _ hmem hname
    have hdescription := congrArg Keycloak.Role.description heq
    simpa [Keycloak.Role.described, hname] using hdescription
  · -- The same description leaves every role as it is.
    intro htext x
    have hsame : ∀ k ∈ s.realm.roles, k.described role.keycloakRoleName text = k := by
      intro k hk
      by_cases hkname : k.name = role.keycloakRoleName
      · rw [honly k hk hkname]
        simp [Keycloak.Role.described, htext]
      · simp [Keycloak.Role.described, hkname]
    rw [hroles]
    constructor
    · intro h
      rcases h with ⟨k, hk, rfl⟩
      rw [hsame k hk]
      exact hk
    · intro hx
      exact ⟨x, hx, (hsame x hx).symm⟩

/-- The row that a save stores does not depend on the time, but for the time itself. -/
theorem row?_time (changed : ChangedRole) (now now' : Js.Date) :
    changed.row? now' = (changed.row? now).map fun row => { row with updatedAt := now' } := by
  cases hname : changed.displayName with
  | none => simp [ChangedRole.row?, hname]
  | some displayName =>
      cases hactive : changed.isActive with
      | none => simp [ChangedRole.row?, hname, hactive]
      | some isActive =>
          let stored : Js.Date → Role := fun time =>
            { changed.read with
              displayName := displayName
              description := changed.description
              isActive := isActive
              updatedAt := time }
          have hrow : ∀ time, changed.row? time =
              if (stored time).fits then some (stored time) else none := by
            intro time
            simp only [ChangedRole.row?, hname, hactive, Option.bind_eq_bind, Option.bind_some, stored]
          have hfits : (stored now').fits = (stored now).fits := rfl
          rw [hrow, hrow, hfits]
          cases (stored now).fits with
          | true => rfl
          | false => rfl

/-- A save of the role leaves the rows as they were exactly if it sets no column. -/
theorem rows_asBefore_iff {new : Role} {now : Js.Date} {t : Sql.Table Role.id Role.name}
    (hrole : role ∈ s.roles)
    (hrow : (RolesService.changedRole dto role).row? now = some new) (hid : new.id = role.id)
    (ht : ∀ r, r ∈ t ↔ r = new ∨ (r ∈ s.roles ∧ r.id ≠ new.id)) :
    (∀ r ∈ s.roles, ∃ r' ∈ t, { r' with updatedAt := r.updatedAt } = r) ↔ RowKept dto role := by
  have hkept : RowKept dto role ↔ { new with updatedAt := role.updatedAt } = role := by
    unfold RowKept
    rw [row?_time _ now role.updatedAt, hrow, Option.map_some]
    exact Option.some_inj
  rw [hkept]
  constructor
  · intro h
    rcases h role hrole with ⟨r', hr', hsame⟩
    have hr'id : r'.id = role.id := (congrArg Role.id hsame :)
    rcases (ht r').1 hr' with rfl | ⟨_, hne⟩
    · exact hsame
    · exact absurd (hr'id.trans hid.symm) hne
  · intro hsame r hr
    by_cases hrid : r.id = role.id
    · have heq : r = role := Sql.Table.eq_of_id hr hrole hrid
      subst heq
      exact ⟨new, (ht new).2 (.inl rfl), hsame⟩
    · exact ⟨r, (ht r).2 (.inr ⟨hr, fun h => hrid (h.trans hid)⟩), rfl⟩

theorem deleteDelegations_asBefore_iff (s : Store) (role : Role) :
    (∀ d, d ∈ (deleteDelegations s role.id).delegatedRoles ↔ d ∈ s.delegatedRoles) ↔
      ¬ Delegated s role := by
  have hmem : ∀ d, d ∈ (deleteDelegations s role.id).delegatedRoles ↔
      d ∈ s.delegatedRoles ∧ d.roleId ≠ role.id := by
    intro d
    simp [deleteDelegations]
  constructor
  · intro h hdelegated
    rcases hdelegated with ⟨d, hd, hrole⟩
    exact ((hmem d).1 ((h d).2 hd)).2 hrole
  · intro h d
    rw [hmem]
    exact and_iff_left_of_imp fun hd hrole => h ⟨d, hd, hrole⟩

end Changes

/-! ## Calls that are sure to be answered -/

section Answered

variable {s m : Store}

theorem answers_putRole {roleName description : String}
    (hrole : ∃ k ∈ m.realm.roles, k.name = roleName) :
    Answers (Smooth s) m (.keycloak (.putRole roleName description)) := by
  refine answers_keycloak fun ch hch => ?_
  have hcall := hch.request (r := m.realm) (α := Unit)
  exact ⟨(), _, by simpa [Realm.perform, putRole, hrole] using hcall _⟩

theorem answers_saveRole {changed : ChangedRole} (hread : changed.read ∈ m.roles)
    (hrow : (changed.row? changed.read.updatedAt).isSome = true) :
    Answers (Smooth s) m (.saveRole changed) := by
  refine answers_write (saveRole? m changed) (fun _ => rfl) fun ch _ => ?_
  rcases Option.isSome_iff_exists.1 hrow with ⟨row, hrow⟩
  have hnow := row?_time changed changed.read.updatedAt ch.now
  rw [hrow, Option.map_some] at hnow
  rcases ChangedRole.row?_some hnow with ⟨hid, hname, _⟩
  rcases Sql.Table.exists_save? hread hid.symm hname.symm with ⟨t, ht⟩
  exact ⟨(), { m with roles := t }, by simp [saveRole?, hnow, ht]⟩

theorem follows_findRoleWithPermissions {own : Own} (roleId : String) :
    Follows (fun _ (op : Op) => op.isRead = true ∧ op.isRemote = false) (fun _ _ => True) own
      (RolesService.findRoleWithPermissions roleId) := by
  unfold RolesService.findRoleWithPermissions
  refine follows_call_bind ⟨rfl, rfl⟩ (fun _ => trivial) fun found => ?_
  cases (found : Option Role) with
  | none => trivial
  | some role =>
      refine follows_call_bind ⟨rfl, rfl⟩ (fun _ => trivial) fun mappings => ?_
      refine follows_call_bind ⟨rfl, rfl⟩ (fun _ => trivial) fun delegations => ?_
      exact follows_settled_bind (fun _ _ => trivial) fun _ _ => trivial

/-- Showing a role reads the database. -/
theorem contract_showRole {own : Own} (roleId : String) :
    Contract (Smooth s) (fun _ m' op => Answers (Smooth s) m' op)
      (fun _ m' r => m' = m ∧
        match r with
        | .ok _ => Showable m roleId
        | .error _ => ¬ Showable m roleId)
      own m (RolesService.findRoleWithPermissions roleId) := by
  refine Straight.mono (Straight.follows (contract_findRoleWithPermissions roleId)
    (follows_findRoleWithPermissions roleId)) ?_ ?_
  · intro own' m' op h
    exact answers_local h.2.1 h.2.2
  · intro own' m' r h
    cases r with
    | ok details => exact ⟨h.1.1, h.1.2.2⟩
    | error e => exact ⟨h.1.1, h.1.2.2⟩

end Answered

/-! ## The parts in turn -/

section Contracts

variable {s m : Store} {own : Own} {dto : UpdateRoleDto} {role : Role}

theorem contract_describe :
    Contract (Smooth s)
      (fun _ m op => Answers (Smooth s) m op ∨ (m = s ∧ ¬ Describable s dto role))
      (fun own' m r => r = .ok () ∧ (∃ n, Longer n own own') ∧
        ∃ realm, DescribedBy s dto role realm ∧ m = { s with realm := realm })
      own s (RolesService.describeRealmRole dto role) := by
  unfold RolesService.describeRealmRole
  have h₀ := Longer.refl own
  cases hset : dto.description.isSet with
  | false =>
      exact ⟨rfl, ⟨0, h₀⟩, s.realm, describedBy_of_not_isSet hset, rfl⟩
  | true =>
      simp only [if_true]
      unfold updateRealmRole
      refine contract_read h₀ rfl rfl (.inl answers_token) ?_
      intro _ _ own₁ h₁ _
      -- `GET roles/NAME` answers 404 for a role that the realm does not have.
      have hget : Answers (Smooth s) s (.keycloak (.getRole role.keycloakRoleName)) ∨
          (s = s ∧ ¬ Describable s dto role) := by
        by_cases hrole : ∃ k ∈ s.realm.roles, k.name = role.keycloakRoleName
        · exact .inl (answers_getRole hrole)
        · exact .inr ⟨rfl, fun h => hrole (h hset)⟩
      refine contract_read h₁ rfl rfl hget ?_
      intro ch existing own₂ h₂ hfound
      rcases keycloak_ok hfound with ⟨_, hanswer, _⟩
      rcases getRole_ok hanswer with ⟨hmem, hname⟩
      refine contract_last (.keycloak (.putRole role.keycloakRoleName _)) h₂ rfl
        (.inl (answers_putRole ⟨existing, hmem, hname⟩)) ?_
      intro ch' _ own₃ m h₃ hput
      rcases keycloak_ok hput with ⟨realm, hdone, rfl⟩
      exact ⟨rfl, ⟨3, h₃⟩, realm, describedBy_putRole hmem hname hset (putRole_ok hdone).1, rfl⟩

/-- The delegates are different users, and their rows fit. -/
def Grantable (grantedBy : Option String) (delegateIds : List String) : Prop :=
  delegateIds ≠ [] → delegateIds.Nodup ∧ ∃ granter, Grants grantedBy granter delegateIds

/-- Delegations are replaced unless they cannot be granted. -/
theorem contract_replaceRows {roleId : String} {delegateIds : List String}
    {grantedBy : Option String} (hold : ∀ d ∈ m.delegatedRoles, d ∈ s.delegatedRoles) :
    Contract (Smooth s)
      (fun _ m' op => Answers (Smooth s) m' op ∨
        (m' = deleteDelegations m roleId ∧ ¬ Grantable grantedBy delegateIds))
      (fun own' m' r => r = .ok () ∧ (∃ n, Longer n own own') ∧ Grantable grantedBy delegateIds ∧
        ∃ t ids, (∀ n, Unused s (ids n)) ∧ m' = { m with delegatedRoles := t } ∧
          ∀ d, d ∈ t ↔ d ∈ (deleteDelegations m roleId).delegatedRoles ∨
            d ∈ delegationRows roleId (grantedBy.getD "") ids delegateIds)
      own m (RolesService.replaceDelegations roleId delegateIds grantedBy) := by
  unfold RolesService.replaceDelegations
  have h₀ := Longer.refl own
  -- `delete`, which nothing refuses.
  refine contract_write h₀ rfl (.inl (answers_deleteDelegations roleId)) ?_
  intro ch _ own₁ m₁ h₁ hch hdelete
  have hm₁ : m₁ = deleteDelegations m roleId := deleteDelegations_ok hdelete
  subst hm₁
  cases delegateIds with
  | nil =>
      refine ⟨rfl, ⟨1, h₁⟩, fun hne => absurd rfl hne, _, ch.freshIds, hch.freshIds, rfl, fun d => ?_⟩
      simp [delegationRows, deleteDelegations]
  | cons delegateId delegateIds =>
      have hsome : delegateId :: delegateIds ≠ [] := List.cons_ne_nil _ _
      have hcall : Answers (Smooth s) (deleteDelegations m roleId)
          (.insertDelegations (delegations roleId (delegateId :: delegateIds) grantedBy)) ∨
          (deleteDelegations m roleId = deleteDelegations m roleId ∧
            ¬ Grantable grantedBy (delegateId :: delegateIds)) := by
        -- `save` of all the rows: refused if a delegate is named twice or nobody grants.
        by_cases hgrantable : Grantable grantedBy (delegateId :: delegateIds)
        · rcases hgrantable hsome with ⟨hnodup, granter, hgrants⟩
          refine .inl (answers_insertDelegations hsome hgrants hnodup ?_ ?_)
          · intro id hunused d hd
            exact (hunused.delegations d (hold d (Sql.Table.mem_delete.1 hd).1)).1
          · intro d hd
            simpa using (Sql.Table.mem_delete.1 hd).2
        · exact .inr ⟨rfl, hgrantable⟩
      refine ⟨hcall, fun _ => rfl, ?_⟩
      intro ch' _ m₂ hch' hinsert
      have h₂ := @Longer.call _ _ _ h₁ (.insertDelegations (delegations roleId
        (delegateId :: delegateIds) grantedBy)) () rfl
      rcases insertDelegations_rows hsome hinsert with ⟨granter, t, hgrants, hnodup, rfl, ht⟩
      refine ⟨rfl, ⟨2, h₂⟩, fun _ => ⟨hnodup, granter, hgrants⟩, t, ch'.freshIds, hch'.freshIds, rfl,
        fun d => ?_⟩
      rw [ht, hgrants.given]
      rfl

theorem contract_redelegate {actorKeycloakUserId : Option String}
    (hdelegations : m.delegatedRoles = s.delegatedRoles) :
    Contract (Smooth s)
      (fun _ m' op => Answers (Smooth s) m' op ∨
        (m' = deleteDelegations m role.id ∧ ¬ Delegable dto actorKeycloakUserId))
      (fun own' m' r => r = .ok () ∧ (∃ n, Longer n own own') ∧ Delegable dto actorKeycloakUserId ∧
        ∃ t, m' = { m with delegatedRoles := t } ∧
          ((∀ d, d ∈ t ↔ d ∈ s.delegatedRoles) ↔ ¬ Redelegates s dto role))
      own m (RolesService.redelegate dto role.id actorKeycloakUserId) := by
  unfold RolesService.redelegate
  have h₀ := Longer.refl own
  -- `delegatedAdminKeycloakUserIds` is left out, and no call is made.
  cases hids : dto.delegatedAdminKeycloakUserIds.toOption with
  | none =>
      refine ⟨rfl, ⟨0, h₀⟩, fun _ h => ?_, s.delegatedRoles, by rw [← hdelegations],
        iff_of_true (fun _ => Iff.rfl) ?_⟩
      · rw [hids] at h
        cases h
      · intro h
        rcases h with ⟨_, h, _⟩
        rw [hids] at h
        cases h
  | some delegateIds =>
      have hdelegable : Delegable dto actorKeycloakUserId ↔
          Grantable actorKeycloakUserId delegateIds := by
        constructor
        · intro h
          exact h delegateIds hids
        · intro h ids hsome
          rw [hids] at hsome
          cases hsome
          exact h
      have hre : Redelegates s dto role ↔ delegateIds ≠ [] ∨ Delegated s role := by
        simp [Redelegates, hids]
      refine Straight.mono (contract_replaceRows fun d hd => hdelegations ▸ hd) ?_ ?_
      · intro own' m' op h
        rw [hdelegable]
        exact h
      · intro own' m' r h
        rcases h with ⟨hr, hlong, hgrantable, t, ids, hunused, hm', ht⟩
        refine ⟨hr, hlong, hdelegable.2 hgrantable, t, hm', ?_⟩
        have hdeleted : ∀ d, d ∈ (deleteDelegations m role.id).delegatedRoles ↔
            d ∈ (deleteDelegations s role.id).delegatedRoles := by
          intro d
          simp [deleteDelegations, hdelegations]
        -- An empty list only takes away, so something changes if there was a delegation.
        cases delegateIds with
        | nil =>
            have honly : Redelegates s dto role ↔ Delegated s role := by simpa using hre
            rw [honly, ← deleteDelegations_asBefore_iff s role]
            refine forall_congr' fun d => iff_congr ?_ Iff.rfl
            rw [ht, hdeleted]
            simp [delegationRows]
        | cons delegateId delegateIds =>
            -- The first new row has an id of its own.
            refine iff_of_false (fun hsame => ?_) (not_not.2 (hre.2 (.inl (List.cons_ne_nil _ _))))
            have hnew : (⟨ids 0, delegateId, role.id, actorKeycloakUserId.getD ""⟩ : DelegatedRole) ∈
                t := (ht _).2 (.inr (mem_delegationRows.2 ⟨0, Nat.succ_pos _, rfl⟩))
            exact ((hunused 0).delegations _ ((hsame _).1 hnew)).1 rfl

end Contracts

/-! ## The whole request -/

section Update

variable {s : Store} {dto : UpdateRoleDto} {actorKeycloakUserId : Option String} {role : Role}

/-- A request that names a live role, and for a new description one that Keycloak knows, is harmless
where it throws. Any other request throws before it changes anything. -/
def ThrowsHarmlessly (s : Store) (dto : UpdateRoleDto) (actorKeycloakUserId : Option String) : Prop :=
  ∀ role ∈ s.roles, role.id = dto.roleId → role.isLive = true → Describable s dto role →
    Harmless s dto actorKeycloakUserId role

theorem throwsHarmlessly_iff (hrole : role ∈ s.roles) (hid : role.id = dto.roleId)
    (hlive : role.isLive = true) (hdescribable : Describable s dto role) :
    ThrowsHarmlessly s dto actorKeycloakUserId ↔ Harmless s dto actorKeycloakUserId role := by
  constructor
  · intro h
    exact h role hrole hid hlive hdescribable
  · intro h role' hrole' hid' _ _
    have hsame : role' = role := Sql.Table.eq_of_id hrole' hrole (hid'.trans hid.symm)
    rw [hsame]
    exact h

theorem harmless_unsavable (hsave : ¬ Savable dto role) :
    Harmless s dto actorKeycloakUserId role ↔ ¬ Redescribes s dto role := by
  constructor
  · exact fun h => h.save hsave
  · intro h
    exact ⟨fun _ => h, fun hsaved => absurd hsaved hsave, fun hsaved => absurd hsaved hsave⟩

theorem harmless_undelegable (hsave : Savable dto role)
    (hdelegate : ¬ Delegable dto actorKeycloakUserId) :
    Harmless s dto actorKeycloakUserId role ↔
      ¬ Redescribes s dto role ∧ RowKept dto role ∧ ¬ Delegated s role := by
  constructor
  · exact fun h => h.delegate hsave hdelegate
  · intro h
    exact ⟨fun hno => absurd hsave hno, fun _ _ => h, fun _ hyes => absurd hyes hdelegate⟩

theorem harmless_unshowable (hsave : Savable dto role) (hdelegate : Delegable dto actorKeycloakUserId)
    (hshow : ¬ Showable s role.id) :
    Harmless s dto actorKeycloakUserId role ↔
      ¬ Redescribes s dto role ∧ RowKept dto role ∧ ¬ Redelegates s dto role := by
  constructor
  · exact fun h => h.reply hsave hdelegate hshow
  · intro h
    exact ⟨fun hno => absurd hsave hno, fun _ hno => absurd hdelegate hno, fun _ _ _ => h⟩

theorem asBefore_iff {m : Store} : AsBefore s m ↔
    (∀ x, x ∈ m.realm.roles ↔ x ∈ s.realm.roles) ∧
      (∀ r ∈ s.roles, ∃ r' ∈ m.roles, { r' with updatedAt := r.updatedAt } = r) ∧
        ∀ d, d ∈ m.delegatedRoles ↔ d ∈ s.delegatedRoles :=
  ⟨fun h => ⟨h.descriptions, h.rows, h.delegations⟩, fun h => ⟨h.2.1, h.1, h.2.2⟩⟩

theorem contract_update :
    Contract (Smooth s)
      (fun _ m op => Answers (Smooth s) m op ∨
        (AsBefore s m ↔ ThrowsHarmlessly s dto actorKeycloakUserId))
      (fun _ m r =>
        match r with
        | .ok _ => ThrowsHarmlessly s dto actorKeycloakUserId
        | .error _ => AsBefore s m ↔ ThrowsHarmlessly s dto actorKeycloakUserId)
      [] s (RolesService.update dto actorKeycloakUserId) := by
  unfold RolesService.update
  have h₀ := Longer.refl []
  -- `findRoleOrFail`.
  refine contract_read h₀ rfl rfl (.inl (answers_local rfl rfl)) ?_
  intro ch found own₁ h₁ hfound
  cases (found : Option Role) with
  | none =>
      -- There is no live role to update.
      refine iff_of_true (.refl s) fun role hrole hid hlive => ?_
      have hdead := findRole_none hfound hrole hid
      simp [hlive] at hdead
  | some role =>
      rcases findRole_some hfound with ⟨hmem, hid, hlive⟩
      -- `describe`: the realm role gets the description.
      refine Straight.bind (Straight.mono contract_describe ?_ fun _ _ _ h => h) ?_
        (fun own₂ m e h => by cases h.1)
      · intro own' m op h
        rcases h with hanswers | ⟨rfl, hno⟩
        · exact .inl hanswers
        · refine .inr (iff_of_true (.refl m) fun role' hrole' hid' _ hdescribable => ?_)
          have hsame : role' = role := Sql.Table.eq_of_id hrole' hmem (hid'.trans hid.symm)
          exact absurd (hsame ▸ hdescribable) hno
      intro own₂ m₁ _ h
      rcases h with ⟨_, ⟨n, h₂⟩, realm, hdescribed, rfl⟩
      have hone : ThrowsHarmlessly s dto actorKeycloakUserId ↔
          Harmless s dto actorKeycloakUserId role :=
        throwsHarmlessly_iff hmem hid hlive hdescribed.describable
      -- `save`: the row has to fit, or the realm has been changed for nothing.
      have hsave : Answers (Smooth s) { s with realm := realm }
          (.saveRole (RolesService.changedRole dto role)) ∨
          (AsBefore s { s with realm := realm } ↔ ThrowsHarmlessly s dto actorKeycloakUserId) := by
        by_cases hsavable : Savable dto role
        · exact .inl (answers_saveRole hmem hsavable)
        · right
          rw [hone, harmless_unsavable hsavable, ← hdescribed.same, asBefore_iff]
          exact and_iff_left ⟨fun r hr => ⟨r, hr, rfl⟩, fun _ => Iff.rfl⟩
      refine contract_write h₂ rfl hsave ?_
      intro ch' _ own₃ m₂ h₃ _ hsaved
      rcases saveRole_ok hsaved with ⟨new, t, hrow, rfl, ht⟩
      rcases ChangedRole.row?_some hrow with ⟨hnewId, _, _, _, hdeleted⟩
      have hsavable : Savable dto role := by
        unfold Savable
        rw [row?_time _ ch'.now role.updatedAt, hrow]
        rfl
      have hrows := rows_asBefore_iff hmem hrow hnewId ht
      -- `redelegate`.
      refine Straight.bind (Straight.mono (contract_redelegate (s := s) rfl) ?_ fun _ _ _ h => h) ?_
        (fun own₄ m e h => by cases h.1)
      · intro own' m op h
        rcases h with hanswers | ⟨rfl, hno⟩
        · exact .inl hanswers
        · right
          rw [hone, harmless_undelegable hsavable hno, ← hdescribed.same, ← hrows,
            ← deleteDelegations_asBefore_iff, asBefore_iff]
          exact Iff.rfl
      intro own₄ m₃ _ h
      rcases h with ⟨_, _, hdelegable, t', rfl, hdelegations⟩
      -- What is left reads the role back, and throws for a mapped permission that is deleted.
      refine (contract_showRole role.id).mono (fun _ _ _ h => .inl h) ?_
      intro own' m r h
      rcases h with ⟨rfl, hshow⟩
      -- The role is as live as before, and the mappings have not changed.
      have hshowable : Showable { s with realm := realm, roles := t, delegatedRoles := t' } role.id ↔
          Showable s role.id := by
        constructor
        · exact fun h => ⟨⟨role, hmem, rfl, hlive⟩, h.permissions⟩
        · intro h
          refine ⟨⟨new, (ht new).2 (.inl rfl), hnewId, ?_⟩, h.permissions⟩
          unfold Role.isLive at hlive ⊢
          rw [hdeleted]
          exact hlive
      cases r with
      | ok details =>
          refine hone.2 ⟨fun hno => absurd hsavable hno, fun _ hno => absurd hdelegable hno,
            fun _ _ hno => absurd (hshowable.1 hshow) hno⟩
      | error e =>
          have hno : ¬ Showable s role.id := fun h => hshow (hshowable.2 h)
          dsimp only
          rw [hone, harmless_unshowable hsavable hdelegable hno, ← hdescribed.same, ← hrows,
            ← hdelegations, asBefore_iff]

/-- A request that throws leaves everything as it was exactly if it throws harmlessly. -/
theorem update_all_or_nothing_iff (s : Store) (dto : UpdateRoleDto)
    (actorKeycloakUserId : Option String) (choices : Nat → Choice)
    (hsmooth : ∀ n, Smooth s (choices n)) :
    (((RolesService.update dto actorKeycloakUserId).exec backend choices s).result.isOk = false →
      AsBefore s ((RolesService.update dto actorKeycloakUserId).exec backend choices s).state) ↔
      ThrowsHarmlessly s dto actorKeycloakUserId := by
  rcases exec_smooth (@contract_update s dto actorKeycloakUserId) hsmooth with
    hend | ⟨own, op, e, hiff, hthrown⟩
  · cases hresult : ((RolesService.update dto actorKeycloakUserId).exec backend choices s).result with
    | ok details =>
        rw [hresult] at hend
        exact iff_of_true (fun h => by cases h) hend
    | error e =>
        rw [hresult] at hend
        exact ⟨fun h => hend.1 (h rfl), fun h _ => hend.2 h⟩
  · rw [hthrown]
    exact ⟨fun h => hiff.1 (h rfl), fun h _ => hiff.2 h⟩

end Update

/-! ## A repeated delegate -/

/-- Anna may make tellers. -/
def delegatedStore : Store :=
  { bankStore with delegatedRoles := .ofRows _ _ [⟨"d-1", "anna", "r-1", "root"⟩] }

def delegatesDto (delegateIds : List String) : UpdateRoleDto where
  roleId := "r-1"
  displayName := .undefined
  description := .undefined
  isActive := .undefined
  delegatedAdminKeycloakUserIds := .value delegateIds

/-- An id that is longer than those in use. -/
def longId (n : Nat) : String :=
  String.ofList (List.replicate (n + 10) 'x')

/-- A call that is answered, with ids that are new. -/
def freshly : Choice :=
  { answered (longId 0) with freshIds := longId }

theorem unused_longId (n : Nat) : Unused delegatedStore (longId n) := by
  have hne : ∀ id : String, id.length < 10 → id ≠ longId n := by
    rintro id hshort rfl
    simp [longId] at hshort
  have husers : ∀ u ∈ delegatedStore.realm.users, u.id.length < 10 ∧
      ∀ role ∈ u.realmRoles, role.id.length < 10 := by decide
  have hrealmRoles : ∀ role ∈ delegatedStore.realm.roles, role.id.length < 10 := by decide
  have hroles : ∀ role ∈ delegatedStore.roles, role.id.length < 10 ∧
      role.keycloakRoleId.length < 10 := by decide
  have hdelegations : ∀ d ∈ delegatedStore.delegatedRoles, d.id.length < 10 ∧
      d.roleId.length < 10 := by decide
  have hemployees : ∀ e ∈ delegatedStore.employees, e.id.length < 10 ∧
      e.keycloakUserId.length < 10 := by decide
  have hassignments : ∀ a ∈ delegatedStore.employeeRoles, a.id.length < 10 ∧
      a.employeeId.length < 10 ∧ a.roleId.length < 10 := by decide
  refine ⟨fun u hu => ⟨hne _ (husers u hu).1, fun role hrole => hne _ ((husers u hu).2 role hrole)⟩,
    fun role hrole => hne _ (hrealmRoles role hrole),
    fun role hrole => ⟨hne _ (hroles role hrole).1, hne _ (hroles role hrole).2⟩,
    fun m hm => absurd hm List.not_mem_nil,
    fun d hd => ⟨hne _ (hdelegations d hd).1, hne _ (hdelegations d hd).2⟩,
    fun e he => ⟨hne _ (hemployees e he).1, hne _ (hemployees e he).2⟩, fun a ha => ?_⟩
  have hshort := hassignments a ha
  exact ⟨hne _ hshort.1, hne _ hshort.2.1, hne _ hshort.2.2⟩

theorem freshly_smooth : Smooth delegatedStore freshly := by
  refine ⟨rfl, rfl, rfl, unused_longId 0, unused_longId, fun m n h => ?_⟩
  have hlen := congrArg String.length h
  simpa [freshly, longId] using hlen

theorem update_all_or_nothing_twice :
    (((RolesService.update (delegatesDto ["bob", "bob"]) (some "root")).exec backend
        (fun _ => freshly) delegatedStore).result.isOk = false →
      AsBefore delegatedStore
        ((RolesService.update (delegatesDto ["bob", "bob"]) (some "root")).exec backend
          (fun _ => freshly) delegatedStore).state) ↔
      ThrowsHarmlessly delegatedStore (delegatesDto ["bob", "bob"]) (some "root") :=
  update_all_or_nothing_iff delegatedStore (delegatesDto ["bob", "bob"]) (some "root")
    (fun _ => freshly) fun _ => freshly_smooth

/-- The request throws, and anna has lost her delegation. -/
theorem delegation_lost :
    ((RolesService.update (delegatesDto ["bob", "bob"]) (some "root")).exec backend
        (fun _ => answered "d-") delegatedStore).result.isOk = false ∧
      ¬ AsBefore delegatedStore
        ((RolesService.update (delegatesDto ["bob", "bob"]) (some "root")).exec backend
          (fun _ => answered "d-") delegatedStore).state := by
  refine ⟨by decide, fun h => ?_⟩
  have hkept := (h.delegations ⟨"d-1", "anna", "r-1", "root"⟩).2 (by decide)
  revert hkept
  decide

end Rbac
end IdentityBillpay
