import IdentityBillpay.Rbac.Contents
import IdentityBillpay.Rbac.Steps

/-!
# Smooth — environments in which nothing fails for a reason of its own

Every call is carried out and answered, and generated ids are new. What a request then does depends
on the tables and on the realm alone.

* `Smooth` — what such an environment decides about a call;
* `Answers` — a call that is sure to be answered;
* `exec_smooth` — what ends a run;
* `answers_local`, `answers_getRole`, … — when that is so, one lemma a call.
-/

namespace IdentityBillpay
namespace Rbac

open Async Async.Program Keycloak
open Bbps (Actor)

structure Smooth (s : Store) (ch : Choice) : Prop where
  fails : ch.fails = false
  lost : ch.lost = false
  refusal : ch.refusal = none
  freshId : Unused s ch.freshId
  freshIds : ∀ n, Unused s (ch.freshIds n)
  distinct : ∀ m n, ch.freshIds m = ch.freshIds n → m = n

def Answers (limits : Choice → Prop) (m : Store) (op : Op) : Prop :=
  ∀ ch, limits ch → ∃ a m', perform op ch m = (.ok a, m')

/-- A run goes through, unless it makes a call that is not sure to be answered. -/
theorem exec_smooth {α : Type} {s : Store} {J : Own → Store → Op → Prop}
    {Q : Own → Store → Except HttpError α → Prop} {p : Prog α}
    (hp : Contract (Smooth s) (fun own m op => Answers (Smooth s) m op ∨ J own m op) Q [] s p)
    {choices : Nat → Choice} (hsmooth : ∀ n, Smooth s (choices n)) :
    Q (p.exec backend choices s).awaited (p.exec backend choices s).state
        (p.exec backend choices s).result ∨
      ∃ own op e, J own (p.exec backend choices s).state op ∧
        (p.exec backend choices s).result = .error e := by
  have hstop := hp.exec hsmooth
  generalize p.exec backend choices s = outcome at hstop ⊢
  rcases outcome with ⟨result, awaited, m⟩
  cases hstop with
  | through _ hend => exact .inl hend
  | @failed before op e m₀ _ _ hcall hperform =>
      -- The call has failed, so it was none that is sure to be answered; and it has changed nothing.
      rcases hcall with hanswers | hcall
      · rcases hanswers _ (hsmooth before.length) with ⟨a, m', hanswer⟩
        cases (Prod.mk.inj (hanswer.symm.trans hperform)).1
      · have hsame : m = m₀ := perform_error_same hperform (.inr (.inr (hsmooth _).lost))
        subst hsame
        exact .inr ⟨before, op, e, hcall, rfl⟩

section Answers

variable {s m : Store}

theorem Smooth.query {ch : Choice} (h : Smooth s ch) {α : Type} (accepted : α × Store) :
    query ch m (some accepted) = (.ok accepted.1, accepted.2) := by
  simp [Rbac.query, Sql.commit, h.fails]

theorem Smooth.request {ch : Choice} (h : Smooth s ch) {α : Type} {r : Realm} (carriedOut : α × Realm) :
    request ch.toChoice r (some carriedOut) = (.ok carriedOut.1, carriedOut.2) :=
  request_done h.fails h.lost

/-- Reads of the database are answered. -/
theorem answers_local {op : Op} (hread : op.isRead = true) (hlocal : op.isRemote = false) :
    Answers (Smooth s) m op := by
  intro ch hch
  have hquery : ∀ {α : Type} (a : α),
      ∃ b m', query ch m (some (a, m)) = ((.ok b : Except HttpError α), m') := by
    intro α a
    exact ⟨a, m, hch.query (a, m)⟩
  cases op with
  | findRoleNamed name => exact hquery _
  | findRole id => exact hquery _
  | findActiveRole id => exact hquery _
  | findRoles ids => exact hquery _
  | findActivePermissions ids => exact hquery _
  | findMappings roleId => exact hquery _
  | findDelegations roleId => exact hquery _
  | findDelegation roleId delegate => exact hquery _
  | findEmployeeNamed username => exact hquery _
  | findActiveEmployee id => exact hquery _
  | findAssignment employeeId => exact hquery _
  | findAdminUser userId => exact hquery _
  | publish event => exact ⟨(), m, rfl⟩
  | now => exact ⟨ch.now, m, rfl⟩
  | keycloak op => cases hlocal
  | _ => cases hread

/-! ## Calls to Keycloak -/

/-- A call that Keycloak carries out is answered. -/
theorem answers_keycloak {op : KeycloakOp}
    (h : ∀ ch, Smooth s ch → ∃ a r, m.realm.perform op ch.toChoice = (.ok a, r)) :
    Answers (Smooth s) m (.keycloak op) := by
  intro ch hch
  rcases h ch hch with ⟨a, r, hcall⟩
  exact ⟨a, { m with realm := r }, by simp only [perform, hcall]⟩

theorem answers_token : Answers (Smooth s) m (.keycloak .postAdminToken) :=
  answers_keycloak fun _ hch => ⟨_, _, hch.request ((), m.realm)⟩

theorem answers_getUsers (username : String) :
    Answers (Smooth s) m (.keycloak (.getUsers username)) :=
  answers_keycloak fun _ hch => ⟨_, _, hch.request (_, m.realm)⟩

theorem answers_postUser (user : UserRepresentation) :
    Answers (Smooth s) m (.keycloak (.postUser user)) :=
  answers_keycloak fun ch hch => ⟨_, _, hch.request (postUser m.realm user ch.toChoice)⟩

theorem answers_getRole {name : String} (hrole : ∃ role ∈ m.realm.roles, role.name = name) :
    Answers (Smooth s) m (.keycloak (.getRole name)) := by
  refine answers_keycloak fun ch hch => ?_
  rcases hrole with ⟨role, hmem, hname⟩
  cases hfound : m.realm.roles.findOne (fun role => role.name == name) 0 with
  | none =>
      have hno := Sql.Table.findOne_eq_none.1 hfound role hmem
      simp [hname] at hno
  | some found =>
      refine ⟨found, m.realm, ?_⟩
      have hcall := hch.request (r := m.realm) (found, m.realm)
      simpa [Realm.perform, hfound] using hcall

theorem answers_getRoleMappings {userId : String} (huser : ∃ u ∈ m.realm.users, u.id = userId) :
    Answers (Smooth s) m (.keycloak (.getRoleMappings userId)) := by
  refine answers_keycloak fun ch hch => ?_
  rcases huser with ⟨u, hmem, hid⟩
  cases hfound : m.realm.users.findOne (fun u => u.id == userId) 0 with
  | none =>
      have hno := Sql.Table.findOne_eq_none.1 hfound u hmem
      simp [hid] at hno
  | some found =>
      refine ⟨found.realmRoles, m.realm, ?_⟩
      have hcall := hch.request (r := m.realm) (found.realmRoles, m.realm)
      simpa [Realm.perform, hfound] using hcall

/-- A change of a user that is there is answered. -/
theorem Smooth.updateUser {ch : Choice} (h : Smooth s ch) {r : Realm} {userId : String}
    {f : KeycloakUser → KeycloakUser} {hid : ∀ u, (f u).id = u.id}
    {hname : ∀ u, (f u).username = u.username} (huser : ∃ u ∈ r.users, u.id = userId) :
    ∃ a r', Keycloak.request ch.toChoice r (Keycloak.updateUser r userId f hid hname) =
      ((.ok a : Except HttpError Unit), r') := by
  unfold Keycloak.updateUser
  rw [if_pos huser]
  exact ⟨_, _, h.request _⟩

theorem answers_putPassword {userId password : String} (huser : ∃ u ∈ m.realm.users, u.id = userId) :
    Answers (Smooth s) m (.keycloak (.putPassword userId password)) :=
  answers_keycloak fun _ hch => hch.updateUser huser

theorem answers_postRoleMapping {userId : String} {role : Keycloak.Role}
    (huser : ∃ u ∈ m.realm.users, u.id = userId) :
    Answers (Smooth s) m (.keycloak (.postRoleMapping userId role)) :=
  answers_keycloak fun _ hch => hch.updateUser huser

theorem answers_postRole {name description : String}
    (hunused : ∀ id, Unused s id → ∀ role ∈ m.realm.roles, role.id ≠ id)
    (hfree : ∀ role ∈ m.realm.roles, role.name ≠ name) :
    Answers (Smooth s) m (.keycloak (.postRole name description)) := by
  refine answers_keycloak fun ch hch => ?_
  rcases Sql.Table.exists_insert? (t := m.realm.roles) (r := ⟨ch.freshId, name, description⟩)
    (hunused _ hch.freshId) hfree with ⟨t, ht⟩
  refine ⟨(), { m.realm with roles := t }, ?_⟩
  have hcall := hch.request (r := m.realm) ((), { m.realm with roles := t })
  simpa [Realm.perform, postRole, ht] using hcall

/-! ## Writes to the database -/

/-- A write that its constraints accept is answered. -/
theorem answers_write {op : Op} (write : Choice → Option (op.Res × Store))
    (hop : ∀ ch, perform op ch m = query ch m (write ch))
    (haccepted : ∀ ch, Smooth s ch → ∃ a m', write ch = some (a, m')) : Answers (Smooth s) m op := by
  intro ch hch
  rcases haccepted ch hch with ⟨a, m', hwrite⟩
  refine ⟨a, m', ?_⟩
  rw [hop, hwrite]
  exact hch.query (a, m')

theorem answers_insertEmployee {new : NewEmployee}
    (hrow : ∀ ch, Smooth s ch → ∃ row, new.row? ch.freshId ch.now = some row ∧
      ∀ e ∈ m.employees, e.id ≠ row.id ∧ e.username ≠ row.username ∧
        e.keycloakUserId ≠ row.keycloakUserId) :
    Answers (Smooth s) m (.insertEmployee new) := by
  refine answers_write (insertEmployee? m new) (fun _ => rfl) fun ch hch => ?_
  rcases hrow ch hch with ⟨row, hrow, hfresh⟩
  rcases Sql.IndexedTable.exists_insert? (t := m.employees) (r := row) (fun e he => (hfresh e he).1)
    (fun e he => (hfresh e he).2.1) (fun e he => (hfresh e he).2.2) with ⟨t, ht⟩
  exact ⟨row, { m with employees := t }, by simp [insertEmployee?, hrow, ht]⟩

theorem answers_insertAssignment {new : NewAssignment}
    (hrow : ∀ ch, Smooth s ch → ∃ row, new.row? ch.freshId ch.now = some row ∧
      ∀ a ∈ m.employeeRoles, a.id ≠ row.id ∧ a.pair ≠ row.pair) :
    Answers (Smooth s) m (.insertAssignment new) := by
  refine answers_write (insertAssignment? m new) (fun _ => rfl) fun ch hch => ?_
  rcases hrow ch hch with ⟨row, hrow, hfresh⟩
  rcases Sql.Table.exists_insert? (t := m.employeeRoles) (r := row) (fun a ha => (hfresh a ha).1)
    (fun a ha => (hfresh a ha).2) with ⟨t, ht⟩
  exact ⟨row, { m with employeeRoles := t }, by simp [insertAssignment?, hrow, ht]⟩

theorem answers_insertRole {new : NewRole}
    (hrow : ∀ ch, Smooth s ch → ∃ row, new.row? ch.freshId ch.now = some row ∧
      ∀ role ∈ m.roles, role.id ≠ row.id ∧ role.name ≠ row.name) :
    Answers (Smooth s) m (.insertRole new) := by
  refine answers_write (insertRole? m new) (fun _ => rfl) fun ch hch => ?_
  rcases hrow ch hch with ⟨row, hrow, hfresh⟩
  rcases Sql.Table.exists_insert? (t := m.roles) (r := row) (fun a ha => (hfresh a ha).1)
    (fun a ha => (hfresh a ha).2) with ⟨t, ht⟩
  exact ⟨row, { m with roles := t }, by simp [insertRole?, hrow, ht]⟩

theorem answers_deleteDelegations (roleId : String) :
    Answers (Smooth s) m (.deleteDelegations roleId) :=
  answers_write (fun _ => some ((), deleteDelegations m roleId)) (fun _ => rfl)
    fun _ _ => ⟨(), deleteDelegations m roleId, rfl⟩

/-! ## Rows inserted together -/

theorem mapM_id_eq_some {β : Type} {l : List (Option β)} {rows : List β} :
    l.mapM id = some rows ↔ l = rows.map some := by
  induction l generalizing rows with
  | nil => cases rows <;> simp
  | cons x l ih =>
      cases x with
      | none => cases rows <;> simp
      | some b =>
          cases rows with
          | nil => simp [Option.bind_eq_some_iff]
          | cons r rows => simp [Option.bind_eq_some_iff, ih, and_comm]

/-- The rows that a list of delegates becomes. -/
def delegationRows (roleId grantedBy : String) (ids : Nat → String) (delegateIds : List String) :
    List DelegatedRole :=
  delegateIds.mapIdx fun n delegateId => ⟨ids n, delegateId, roleId, grantedBy⟩

theorem mem_delegationRows {roleId grantedBy : String} {ids : Nat → String}
    {delegateIds : List String} {d : DelegatedRole} :
    d ∈ delegationRows roleId grantedBy ids delegateIds ↔
      ∃ n, ∃ h : n < delegateIds.length, d = ⟨ids n, delegateIds[n], roleId, grantedBy⟩ := by
  unfold delegationRows
  rw [List.mem_mapIdx]
  constructor
  · intro h
    rcases h with ⟨n, hn, rfl⟩
    exact ⟨n, hn, rfl⟩
  · intro h
    rcases h with ⟨n, hn, rfl⟩
    exact ⟨n, hn, rfl⟩

theorem NewDelegation.row?_eq_some {roleId delegateId id : String} {grantedBy : Option String}
    {row : DelegatedRole} :
    (⟨roleId, delegateId, grantedBy⟩ : NewDelegation).row? id = some row ↔
      ∃ granter, grantedBy = some granter ∧ delegateId.length ≤ 36 ∧ granter.length ≤ 36 ∧
        row = ⟨id, delegateId, roleId, granter⟩ := by
  unfold NewDelegation.row?
  cases grantedBy with
  | none => simp
  | some granter =>
      simp only [Option.bind_eq_bind, Option.bind_some, DelegatedRole.fits, Bool.and_eq_true,
        decide_eq_true_eq, Option.ite_none_right_eq_some, Option.some.injEq, and_assoc]
      constructor
      · intro h
        exact ⟨granter, rfl, h.1, h.2.1, h.2.2.symm⟩
      · intro h
        rcases h with ⟨_, rfl, hdelegate, hfits, rfl⟩
        exact ⟨hdelegate, hfits, rfl⟩

/-- Somebody grants the delegations, and every column takes its value. -/
structure Grants (grantedBy : Option String) (granter : String) (delegateIds : List String) :
    Prop where
  given : grantedBy = some granter
  fits : granter.length ≤ 36
  delegates : ∀ delegateId ∈ delegateIds, delegateId.length ≤ 36

theorem delegationRows_iff {roleId : String} {grantedBy : Option String} {ids : Nat → String}
    {delegateIds : List String} (hsome : delegateIds ≠ []) {rows : List DelegatedRole} :
    ((delegateIds.map fun delegateId => (⟨roleId, delegateId, grantedBy⟩ : NewDelegation)).mapIdx
        fun n new => new.row? (ids n)).mapM id = some rows ↔
      ∃ granter, Grants grantedBy granter delegateIds ∧
        rows = delegationRows roleId granter ids delegateIds := by
  rw [mapM_id_eq_some]
  constructor
  · intro h
    have hlen : rows.length = delegateIds.length := by
      simpa using (congrArg List.length h).symm
    have hrow : ∀ n, ∀ hn : n < delegateIds.length, ∃ granter, grantedBy = some granter ∧
        delegateIds[n].length ≤ 36 ∧ granter.length ≤ 36 ∧
          rows[n] = ⟨ids n, delegateIds[n], roleId, granter⟩ := by
      intro n hn
      have hget := List.getElem_of_eq h (by simpa using hn)
      simp only [List.getElem_mapIdx, List.getElem_map] at hget
      exact NewDelegation.row?_eq_some.1 hget
    -- The first row names who grants, and every row names the same one.
    rcases hrow 0 (List.length_pos_of_ne_nil hsome) with ⟨granter, rfl, _, hfits, _⟩
    refine ⟨granter, ⟨rfl, hfits, fun delegateId hmem => ?_⟩, List.ext_getElem ?_ fun n hn _ => ?_⟩
    · rcases List.getElem_of_mem hmem with ⟨n, hn, rfl⟩
      rcases hrow n hn with ⟨_, _, hdelegate, _⟩
      exact hdelegate
    · simpa [delegationRows] using hlen
    · rcases hrow n (hlen ▸ hn) with ⟨granter', hsame, _, _, heq⟩
      rw [heq, ← Option.some.inj hsame]
      simp [delegationRows]
  · intro h
    rcases h with ⟨granter, ⟨rfl, hfits, hdelegates⟩, rfl⟩
    refine List.ext_getElem (by simp [delegationRows]) fun n hn _ => ?_
    simp only [List.getElem_mapIdx, List.getElem_map, delegationRows]
    have hmem : n < delegateIds.length := by simpa using hn
    exact NewDelegation.row?_eq_some.2
      ⟨granter, rfl, hdelegates _ (List.getElem_mem hmem), hfits, rfl⟩

/-- The delegations of a role to the given users. -/
def delegations (roleId : String) (delegateIds : List String) (grantedBy : Option String) :
    List NewDelegation :=
  delegateIds.map fun delegateId => ⟨roleId, delegateId, grantedBy⟩

theorem insertDelegations_rows {roleId : String} {delegateIds : List String}
    {grantedBy : Option String} {ch : Choice} {m' : Store} {u : Unit} (hsome : delegateIds ≠ [])
    (h : perform (.insertDelegations (delegations roleId delegateIds grantedBy)) ch m = (.ok u, m')) :
    ∃ granter t, Grants grantedBy granter delegateIds ∧ delegateIds.Nodup ∧
      m' = { m with delegatedRoles := t } ∧
        ∀ d, d ∈ t ↔ d ∈ m.delegatedRoles ∨
          d ∈ delegationRows roleId granter ch.freshIds delegateIds := by
  rcases Option.bind_eq_some_iff.1 (query_ok h) with ⟨rows, hrows, hrest⟩
  rcases Option.bind_eq_some_iff.1 hrest with ⟨t, ht, hdone⟩
  cases hdone
  rcases (delegationRows_iff hsome).1 hrows with ⟨granter, hgrants, rfl⟩
  refine ⟨granter, t, hgrants, ?_, rfl, fun d => Sql.Table.mem_insertAll? ht⟩
  -- Two rows for one delegate would share their key.
  have hkeys := Sql.Table.insertAll?_keys ht
  have hpairs : (delegationRows roleId granter ch.freshIds delegateIds).map DelegatedRole.pair =
      delegateIds.map fun delegateId => (delegateId, roleId) := by
    refine List.ext_getElem (by simp [delegationRows]) fun n _ _ => ?_
    simp [delegationRows, DelegatedRole.pair]
  rw [hpairs] at hkeys
  exact hkeys.of_map _

theorem answers_insertDelegations {roleId granter : String} {delegateIds : List String}
    {grantedBy : Option String} (hsome : delegateIds ≠ [])
    (hgrants : Grants grantedBy granter delegateIds) (hnodup : delegateIds.Nodup)
    (hids : ∀ id, Unused s id → ∀ d ∈ m.delegatedRoles, d.id ≠ id)
    (hrole : ∀ d ∈ m.delegatedRoles, d.roleId ≠ roleId) :
    Answers (Smooth s) m (.insertDelegations (delegations roleId delegateIds grantedBy)) := by
  refine answers_write (insertDelegations? m _) (fun _ => rfl) fun ch hch => ?_
  have hrows := (@delegationRows_iff roleId grantedBy ch.freshIds delegateIds hsome _).2
    ⟨granter, hgrants, rfl⟩
  have hinsert : ∃ t, m.delegatedRoles.insertAll?
      (delegationRows roleId granter ch.freshIds delegateIds) = some t := by
    refine Sql.Table.exists_insertAll? ?_ ?_ ?_ ?_
    · -- The ids are new, and distinct.
      have hmap : (delegationRows roleId granter ch.freshIds delegateIds).map DelegatedRole.id =
          (List.range delegateIds.length).map ch.freshIds := by
        refine List.ext_getElem (by simp [delegationRows]) fun n _ _ => ?_
        simp [delegationRows]
      rw [hmap]
      exact List.nodup_range.map fun _ _ hsame => hch.distinct _ _ hsame
    · -- No delegate is named twice.
      have hmap : (delegationRows roleId granter ch.freshIds delegateIds).map DelegatedRole.pair =
          delegateIds.map fun delegateId => (delegateId, roleId) := by
        refine List.ext_getElem (by simp [delegationRows]) fun n _ _ => ?_
        simp [delegationRows, DelegatedRole.pair]
      rw [hmap]
      exact hnodup.map fun _ _ hsame => (Prod.mk.inj hsame).1
    · intro d hd d' hd'
      rcases mem_delegationRows.1 hd with ⟨n, _, rfl⟩
      exact hids _ (hch.freshIds n) d' hd'
    · intro d hd d' hd' hsame
      rcases mem_delegationRows.1 hd with ⟨n, _, rfl⟩
      exact hrole d' hd' (Prod.mk.inj hsame).2
  rcases hinsert with ⟨t, ht⟩
  exact ⟨(), { m with delegatedRoles := t }, by simp [insertDelegations?, delegations, hrows, ht]⟩

end Answers

end Rbac
end IdentityBillpay
