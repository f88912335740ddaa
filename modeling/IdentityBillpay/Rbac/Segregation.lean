import IdentityBillpay.Async.Replay
import IdentityBillpay.Rbac.Agreement
import IdentityBillpay.Rbac.UpdateProtocol

/-!
# Segregation — maker and checker under overlapping updates

A request takes the role away that it has read, and then gives its own. As long as every role that
is taken away is still held, at most one request at a time stands between the two, and then the user
holds nothing.

* `Told`, `Single` — what events tell of the tables that stay, and the rows that stay single;
* `Between` — a request that has taken a role away and has yet to give one;
* `Segregating` — the invariant, with one step lemma for each kind of call;
* `segregation_kept` — nobody becomes maker and checker.
-/

namespace IdentityBillpay
namespace Rbac

open Async Async.Program Keycloak
open Bbps (Actor)

/-! ## The tables -/

/-- The row is the one that the employee had at the start, by its id. -/
def OwnRow (s : Store) (employee : Employee) (a : EmployeeUserRole) : Prop :=
  a.employeeId = employee.id ∧ ∃ a₀ ∈ s.employeeRoles, a₀.employeeId = employee.id ∧ a₀.id = a.id

/-- Between updates of roles, `m` is like `s` but for the role that each employee has. -/
structure Single (s m : Store) : Prop where
  roles : m.roles = s.roles
  employees : m.employees = s.employees
  realmRoles : m.realm.roles = s.realm.roles
  sound : m.realm.Sound
  assigned : ∀ employee ∈ s.employees, ∃ a ∈ m.employeeRoles, a.employeeId = employee.id
  rows : ∀ employee ∈ s.employees, ∀ a ∈ m.employeeRoles, a.employeeId = employee.id →
    OwnRow s employee a ∧ ∃ role ∈ s.roles, role.isLive = true ∧ role.id = a.roleId

/-- What an event of a run from `s` tells of `s`. -/
def Told (s : Store) : Awaited sig HttpError → Prop
  | ⟨.findActiveEmployee id, .ok (some employee)⟩ => employee ∈ s.employees ∧ employee.id = id
  | ⟨.findActiveRole _, .ok (some role)⟩ => role ∈ s.roles ∧ role.isLive = true
  | ⟨.findAssignment employeeId, .ok current⟩ => ∀ employee ∈ s.employees, employee.id = employeeId →
      ∃ a role, current = some (a, some role) ∧ role ∈ s.roles ∧ OwnRow s employee a
  | ⟨.keycloak (.getRole name), .ok role⟩ => role ∈ s.realm.roles ∧ role.name = name
  | _ => True

theorem Single.told {s m m' : Store} (h : Single s m) {op : Op} {ch : Choice}
    {res : Except HttpError op.Res} (hperform : perform op ch m = (res, m')) : Told s ⟨op, res⟩ := by
  cases res with
  -- A failed call tells nothing.
  | error e =>
      cases op with
      | keycloak op =>
          cases op with
          | _ => trivial
      | _ => trivial
  | ok a =>
      cases op with
      | findActiveEmployee id =>
          cases (a : Option Employee) with
          | none => trivial
          | some employee =>
              rcases findActiveEmployee_some hperform with ⟨hmem, hid, _⟩
              exact ⟨h.employees ▸ hmem, hid⟩
      | findActiveRole id =>
          cases (a : Option Role) with
          | none => trivial
          | some role =>
              rcases findActiveRole_some hperform with ⟨hmem, _, _, hlive⟩
              exact ⟨h.roles ▸ hmem, hlive⟩
      -- The row of the employee, and the role it names.
      | findAssignment employeeId =>
          intro employee hemployee hid
          have hread : Current.ReadFrom a m employeeId := findAssignment_ok hperform
          rcases h.assigned employee hemployee with ⟨row, hrow, howner⟩
          cases (a : Current) with
          | none => exact absurd (howner.trans hid) (hread row hrow)
          | some pair =>
              rcases pair with ⟨assignment, role⟩
              rcases hread with ⟨hmem, howner', hrole⟩
              rcases h.rows employee hemployee assignment hmem (howner'.trans hid.symm) with
                ⟨hown, held, hheld, hlive, hheldId⟩
              -- The role of the row is not deleted, so it is read along.
              have hsome : m.assignedRole assignment = some held :=
                assignedRole_eq (h.roles.symm ▸ hheld) hheldId hlive
              exact ⟨assignment, held, by rw [hrole, hsome], hheld, hown⟩
      | keycloak op =>
          cases op with
          | getRole name =>
              rcases keycloak_ok hperform with ⟨_, hget, _⟩
              have hfound := getRole_ok hget
              exact ⟨h.realmRoles ▸ hfound.1, hfound.2⟩
          | _ => trivial
      | _ => trivial

/-- A role mapping of one user. -/
theorem Single.mapped {s m : Store} (h : Single s m) {realm : Realm} (hroles : realm.roles = m.realm.roles)
    (hsound : realm.Sound) : Single s { m with realm := realm } :=
  ⟨h.roles, h.employees, hroles.trans h.realmRoles, hsound, h.assigned, h.rows⟩

/-- The row of an employee is saved with another role. -/
theorem Single.saved {s m : Store} (h : Single s m) {employee : Employee}
    (hemployee : employee ∈ s.employees) {a : EmployeeUserRole} (hown : OwnRow s employee a)
    {newRole : Role} (hrole : newRole ∈ s.roles) (hlive : newRole.isLive = true) {actor : Actor}
    {t : Sql.Table EmployeeUserRole.id EmployeeUserRole.pair}
    (ht : ∀ x, x ∈ t ↔ x = EmployeesService.reassigned a newRole actor ∨
      (x ∈ m.employeeRoles ∧ x.id ≠ (EmployeesService.reassigned a newRole actor).id)) :
    Single s { m with employeeRoles := t } := by
  refine ⟨h.roles, h.employees, h.realmRoles, h.sound, ?_, ?_⟩
  · intro e he
    by_cases hsame : e.id = employee.id
    · exact ⟨_, (ht _).2 (.inl rfl), hown.1.trans hsame.symm⟩
    · rcases h.assigned e he with ⟨row, hrow, howner⟩
      refine ⟨row, (ht row).2 (.inr ⟨hrow, fun hid => hsame ?_⟩), howner⟩
      -- Two employees had two rows at the start, and rows keep their ids.
      rcases (h.rows e he row hrow howner).1.2 with ⟨r₀, hr₀, hr₀e, hr₀id⟩
      rcases hown.2 with ⟨a₀, ha₀, ha₀e, ha₀id⟩
      have hrows : r₀ = a₀ := Sql.Table.eq_of_id hr₀ ha₀ (hr₀id.trans (hid.trans ha₀id.symm))
      rw [← hr₀e, ← ha₀e, hrows]
  · intro e he row hrow howner
    rcases (ht row).1 hrow with rfl | ⟨hold, _⟩
    · have hids : e.id = employee.id := howner.symm.trans hown.1
      have heq : e = employee := Sql.Table.eq_of_id (t := s.employees.toTable) he hemployee hids
      subst heq
      exact ⟨⟨hown.1, hown.2⟩, newRole, hrole, hlive, rfl⟩
    · exact h.rows e he row hold howner

/-! ## Requests between the two calls -/

/-- The request has taken the employee's role away, and has yet to give one. -/
def Between (h : History service) (i : Nat) (employee : Employee) : Prop :=
  Removes (h.own i) employee.keycloakUserId ∧ NotAssigned (h.own i)

/-- The operation maps a role to a user, or unmaps it. -/
def Op.maps : Op → Bool
  | .keycloak (.postRoleMapping _ _) | .keycloak (.deleteRoleMapping _ _) => true
  | _ => false

section BetweenCalls

variable {h : History service} {i j : Nat} {op : Op} {ch : Choice} {employee : Employee}

/-- Another request's calls are its own. -/
theorem Between.of_ne (hne : j ≠ i) (hb : Between (h.perform i op ch) j employee) :
    Between h j employee := by
  unfold Between at hb ⊢
  rw [History.perform_own_ne h op ch hne] at hb
  exact hb

theorem Between.of_old (hold : Removes (h.own i) employee.keycloakUserId)
    (hb : Between (h.perform i op ch) i employee) : Between h i employee := by
  refine ⟨hold, fun a ha => hb.2 a ?_⟩
  rw [History.perform_own_self]
  exact List.mem_append_left _ ha

/-- A call that removes nothing from the user. -/
theorem Between.of_perform (hop : ∀ role, op = .keycloak (.deleteRoleMapping employee.keycloakUserId role) →
      ∃ e, (perform op ch h.state).1 = .error e)
    (hb : Between (h.perform i op ch) j employee) : Between h j employee := by
  by_cases hne : j = i
  · subst hne
    refine Between.of_old ?_ hb
    rcases hb.1 with ⟨role, hmem⟩
    rw [History.perform_own_self] at hmem
    rcases List.mem_append.1 hmem with hold | hnew
    · exact ⟨role, hold⟩
    · have heq := List.mem_singleton.1 hnew
      injection heq with hopEq hres
      subst hopEq
      rcases hop role rfl with ⟨e, he⟩
      have hbad := (eq_of_heq hres).trans he
      cases hbad
  · exact hb.of_ne hne

theorem not_between_assigned (hop : op.assigns = true) : ¬ Between (h.perform i op ch) i employee := by
  intro hb
  have hnot := hb.2 ⟨op, (service.perform op ch h.state).1⟩ (by rw [History.perform_own_self]; simp)
  rw [hop] at hnot
  cases hnot

end BetweenCalls

/-! ## The invariant -/

/-- The role that a request takes away is held by the user. -/
def RemovesHeld (h : History service) (e : Event sig HttpError) : Prop :=
  match e.op with
  | .keycloak (.deleteRoleMapping userId role) => h.state.realm.Holds userId role.name
  | _ => True

instance (h : History service) (e : Event sig HttpError) : Decidable (RemovesHeld h e) := by
  unfold RemovesHeld
  split <;> infer_instance

structure Segregating (s : Store) (h : History service) : Prop where
  single : Single s h.state
  told : ∀ e ∈ h.trace, Told s e.toAwaited
  /-- Nobody holds two managed roles. -/
  one : ∀ employee ∈ s.employees, ∀ role ∈ s.roles, ∀ role' ∈ s.roles,
    h.state.realm.Holds employee.keycloakUserId role.keycloakRoleName →
      h.state.realm.Holds employee.keycloakUserId role'.keycloakRoleName →
        role.keycloakRoleName = role'.keycloakRoleName
  /-- While a request stands between its two calls, the user holds none. -/
  free : ∀ employee ∈ s.employees, ∀ i, Between h i employee → ∀ role ∈ s.roles,
    ¬ h.state.realm.Holds employee.keycloakUserId role.keycloakRoleName
  alone : ∀ employee ∈ s.employees, ∀ i j, Between h i employee → Between h j employee → i = j
  /-- Other users hold what they held. -/
  others : ∀ userId, (∀ employee ∈ s.employees, employee.keycloakUserId ≠ userId) →
    ∀ name, h.state.realm.Holds userId name ↔ s.realm.Holds userId name

section Steps

variable {s : Store} {h : History service} {i : Nat} {op : Op} {ch : Choice}

theorem Segregating.told_own (hI : Segregating s h) {a : Awaited sig HttpError} (ha : a ∈ h.own i) :
    Told s a :=
  hI.told _ (History.mem_own.1 ha)

/-- The event of the next call is told like those before. -/
theorem Segregating.told_perform (hI : Segregating s h) :
    ∀ e ∈ (h.perform i op ch).trace, Told s e.toAwaited := by
  intro e he
  rcases List.mem_append.1 he with hold | hnew
  · exact hI.told e hold
  · rw [List.mem_singleton.1 hnew]
    have hperform : perform op ch h.state = ((perform op ch h.state).1, (perform op ch h.state).2) :=
      rfl
    exact hI.single.told hperform

/-- A call that takes no role away and gives none. -/
theorem Segregating.quiet (hI : Segregating s h) (hop : op.maps = false)
    (hsingle : Single s (perform op ch h.state).2)
    (hrealm : (perform op ch h.state).2.realm = h.state.realm) :
    Segregating s (h.perform i op ch) := by
  have hbefore : ∀ {j employee}, Between (h.perform i op ch) j employee → Between h j employee := by
    intro j employee hb
    refine hb.of_perform fun role hrole => ?_
    rw [hrole] at hop
    cases hop
  have hsame : (h.perform i op ch).state.realm = h.state.realm := hrealm
  refine ⟨hsingle, hI.told_perform, ?_, ?_, ?_, ?_⟩
  · rw [hsame]
    exact hI.one
  · intro employee hemployee j hb
    rw [hsame]
    exact hI.free employee hemployee j (hbefore hb)
  · intro employee hemployee j k hj hk
    exact hI.alone employee hemployee j k (hbefore hj) (hbefore hk)
  · rw [hsame]
    exact hI.others

/-- A role that is held is taken away: then nobody else stands between two calls, and nothing is
held any longer. -/
theorem Segregating.remove (hI : Segregating s h) {employee : Employee}
    (hemployee : employee ∈ s.employees) {role : Role} (hrole : role ∈ s.roles)
    {keycloakRole : Keycloak.Role} (hmem : keycloakRole ∈ s.realm.roles)
    (hname : keycloakRole.name = role.keycloakRoleName)
    (hheld : h.state.realm.Holds employee.keycloakUserId keycloakRole.name)
    (hop : op = .keycloak (.deleteRoleMapping employee.keycloakUserId keycloakRole)) :
    Segregating s (h.perform i op ch) := by
  subst hop
  generalize hresult : perform (.keycloak (.deleteRoleMapping employee.keycloakUserId keycloakRole)) ch
    h.state = result
  rcases result with ⟨res, m⟩
  rcases keycloak_result hresult with ⟨realm, hdelete, hm⟩
  have hstate : (h.perform i (.keycloak (.deleteRoleMapping employee.keycloakUserId keycloakRole))
      ch).state = m := congrArg Prod.snd hresult
  rcases deleteRoleMapping_cases hdelete with ⟨⟨e, hfailed⟩, hsame⟩ | hwith
  · -- The call has had no effect.
    have hkept : m = h.state := by rw [hm, hsame]
    have hbefore : ∀ {j employee'}, Between (h.perform i (.keycloak (.deleteRoleMapping
        employee.keycloakUserId keycloakRole)) ch) j employee' → Between h j employee' := by
      intro j employee' hb
      refine hb.of_perform fun role' _ => ⟨e, ?_⟩
      rw [hresult]
      exact hfailed
    refine ⟨?_, hI.told_perform, ?_, ?_, ?_, ?_⟩
    · rw [hstate, hkept]
      exact hI.single
    · rw [hstate, hkept]
      exact hI.one
    · intro employee' hemployee' j hb
      rw [hstate, hkept]
      exact hI.free employee' hemployee' j (hbefore hb)
    · intro employee' hemployee' j k hj hk
      exact hI.alone employee' hemployee' j k (hbefore hj) (hbefore hk)
    · rw [hstate, hkept]
      exact hI.others
  · -- The user has lost this one role, and nobody else has lost any.
    have hheldRole : h.state.realm.Holds employee.keycloakUserId role.keycloakRoleName := hname ▸ hheld
    have hrealmMem : keycloakRole ∈ h.state.realm.roles := hI.single.realmRoles.symm ▸ hmem
    have hholds : ∀ userId name, m.realm.Holds userId name ↔ h.state.realm.Holds userId name ∧
        ¬ (userId = employee.keycloakUserId ∧ name = keycloakRole.name) := by
      intro userId name
      rw [hm]
      exact holds_unassigned hwith hI.single.sound hrealmMem
    have hnobody : ∀ j, ¬ Between h j employee := fun j hb =>
      hI.free employee hemployee j hb role hrole hheldRole
    have huser : ∀ employee' ∈ s.employees,
        employee'.keycloakUserId = employee.keycloakUserId → employee' = employee :=
      fun employee' hemployee' hsame => Sql.IndexedTable.eq_of_key' hemployee' hemployee hsame
    have hbefore : ∀ {j employee'}, employee'.keycloakUserId ≠ employee.keycloakUserId →
        Between (h.perform i (.keycloak (.deleteRoleMapping employee.keycloakUserId keycloakRole)) ch)
          j employee' → Between h j employee' := by
      intro j employee' hne hb
      refine hb.of_perform fun role' hrole' => ?_
      injection hrole' with hop
      injection hop with huserId _
      exact absurd huserId.symm hne
    refine ⟨?_, hI.told_perform, ?_, ?_, ?_, ?_⟩
    · rw [hstate, hm]
      exact hI.single.mapped hwith.roles (sound_unassigned hwith hI.single.sound)
    · -- Who held one role before holds one or none now.
      intro employee' hemployee' role₁ hrole₁ role₂ hrole₂ h₁ h₂
      rw [hstate] at h₁ h₂
      exact hI.one employee' hemployee' role₁ hrole₁ role₂ hrole₂ ((hholds _ _).1 h₁).1
        ((hholds _ _).1 h₂).1
    · -- A user without the role taken away held no other one.
      intro employee' hemployee' j hb role₁ hrole₁ h₁
      rw [hstate] at h₁
      have hold := (hholds _ _).1 h₁
      by_cases hsame : employee'.keycloakUserId = employee.keycloakUserId
      · have heq := huser employee' hemployee' hsame
        subst heq
        have hnames := hI.one employee' hemployee role₁ hrole₁ role hrole hold.1 hheldRole
        exact hold.2 ⟨rfl, hnames.trans hname.symm⟩
      · exact hI.free employee' hemployee' j (hbefore hsame hb) role₁ hrole₁ hold.1
    · intro employee' hemployee' j k hj hk
      by_cases hsame : employee'.keycloakUserId = employee.keycloakUserId
      · have heq := huser employee' hemployee' hsame
        subst heq
        -- Both are the request that has just taken the role away.
        have hji : j = i := by
          by_cases hne : j = i
          · exact hne
          · exact absurd (hj.of_ne hne) (hnobody j)
        have hki : k = i := by
          by_cases hne : k = i
          · exact hne
          · exact absurd (hk.of_ne hne) (hnobody k)
        rw [hji, hki]
      · exact hI.alone employee' hemployee' j k (hbefore hsame hj) (hbefore hsame hk)
    · intro userId hnone name
      rw [hstate, hholds, hI.others userId hnone]
      exact and_iff_left fun hboth => hnone employee hemployee hboth.1.symm

/-- A role is given by the one request that stands between its calls. -/
theorem Segregating.assign (hI : Segregating s h) {employee : Employee}
    (hemployee : employee ∈ s.employees) (hbetween : Between h i employee) {keycloakRole : Keycloak.Role}
    (hmem : keycloakRole ∈ s.realm.roles)
    (hop : op = .keycloak (.postRoleMapping employee.keycloakUserId keycloakRole)) :
    Segregating s (h.perform i op ch) := by
  subst hop
  generalize hresult : perform (.keycloak (.postRoleMapping employee.keycloakUserId keycloakRole)) ch
    h.state = result
  rcases result with ⟨res, m⟩
  rcases keycloak_result hresult with ⟨realm, hpost, hm⟩
  have hstate : (h.perform i (.keycloak (.postRoleMapping employee.keycloakUserId keycloakRole))
      ch).state = m := congrArg Prod.snd hresult
  have hbefore : ∀ {j employee'}, Between (h.perform i (.keycloak (.postRoleMapping
      employee.keycloakUserId keycloakRole)) ch) j employee' → j ≠ i ∧ Between h j employee' := by
    intro j employee' hb
    by_cases hne : j = i
    · exact absurd hb (hne ▸ not_between_assigned rfl)
    · exact ⟨hne, hb.of_ne hne⟩
  have hrealmMem : keycloakRole ∈ h.state.realm.roles := hI.single.realmRoles.symm ▸ hmem
  -- Carried out or not, the user holds at most this role.
  have hholds : Single s m ∧ ∀ userId name, m.realm.Holds userId name →
      h.state.realm.Holds userId name ∨
        (userId = employee.keycloakUserId ∧ name = keycloakRole.name) := by
    rcases postRoleMapping_cases hpost with ⟨_, hsame⟩ | hwith
    · have hkept : m = h.state := by rw [hm, hsame]
      rw [hkept]
      exact ⟨hI.single, fun _ _ hold => .inl hold⟩
    · rw [hm]
      exact ⟨hI.single.mapped hwith.roles (sound_assigned hwith hI.single.sound hrealmMem),
        fun _ _ hnew => (holds_assigned hwith hI.single.sound hrealmMem).1 hnew⟩
  have hother : ∀ userId, userId ≠ employee.keycloakUserId → ∀ name,
      m.realm.Holds userId name ↔ h.state.realm.Holds userId name := by
    intro userId hne name
    rcases postRoleMapping_cases hpost with ⟨_, hsame⟩ | hwith
    · rw [hm, hsame]
    · rw [hm]
      exact (holds_assigned hwith hI.single.sound hrealmMem).trans (or_iff_left fun hboth => hne hboth.1)
  have hfree := hI.free employee hemployee i hbetween
  have huser : ∀ employee' ∈ s.employees,
      employee'.keycloakUserId = employee.keycloakUserId → employee' = employee :=
    fun employee' hemployee' hsame => Sql.IndexedTable.eq_of_key' hemployee' hemployee hsame
  refine ⟨?_, hI.told_perform, ?_, ?_, ?_, ?_⟩
  · rw [hstate]
    exact hholds.1
  · intro employee' hemployee' role₁ hrole₁ role₂ hrole₂ h₁ h₂
    rw [hstate] at h₁ h₂
    -- The user of the request held none, so it holds the new role alone.
    by_cases hsame : employee'.keycloakUserId = employee.keycloakUserId
    · rw [hsame] at h₁ h₂
      rcases hholds.2 _ _ h₁ with hold | ⟨_, hnew₁⟩
      · exact absurd hold (hfree role₁ hrole₁)
      · rcases hholds.2 _ _ h₂ with hold | ⟨_, hnew₂⟩
        · exact absurd hold (hfree role₂ hrole₂)
        · exact hnew₁.trans hnew₂.symm
    · exact hI.one employee' hemployee' role₁ hrole₁ role₂ hrole₂ ((hother _ hsame _).1 h₁)
        ((hother _ hsame _).1 h₂)
  · intro employee' hemployee' j hb role₁ hrole₁ h₁
    rcases hbefore hb with ⟨hne, hold⟩
    -- Only one request at a time is between the two calls for an employee.
    by_cases hsame : employee'.keycloakUserId = employee.keycloakUserId
    · have heq := huser employee' hemployee' hsame
      subst heq
      exact hne (hI.alone employee' hemployee j i hold hbetween)
    · rw [hstate] at h₁
      exact hI.free employee' hemployee' j hold role₁ hrole₁ ((hother _ hsame _).1 h₁)
  · intro employee' hemployee' j k hj hk
    exact hI.alone employee' hemployee' j k (hbefore hj).2 (hbefore hk).2
  · intro userId hnone name
    rw [hstate, hother userId fun hsame => hnone employee hemployee hsame.symm]
    exact hI.others userId hnone name

/-- One call of a request that changes an employee's role. -/
theorem Segregating.step (hI : Segregating s h) {dto : UpdateEmployeeRoleDto} {actor : Actor}
    (hop : Awaits dto actor (h.own i) op)
    (hC : RemovesHeld h ⟨⟨op, (service.perform op ch h.state).1⟩, i⟩) :
    Segregating s (h.perform i op ch) := by
  cases hop with
  | read hread =>
      have hsame : (perform op ch h.state).2 = h.state := perform_read hread rfl
      have hmaps : op.maps = false := by
        cases op with
        | keycloak op =>
            cases op with
            | _ => first | rfl | cases hread
        | _ => rfl
      have hsingle : Single s (perform op ch h.state).2 := by
        rw [hsame]
        exact hI.single
      exact hI.quiet hmaps hsingle (congrArg Store.realm hsame)
  -- The role to be taken away is the one that the employee's row names.
  | remove hreads hrole hnot =>
      have hfound := hI.told_own hreads.found
      rcases hI.told_own hreads.read _ hfound.1 rfl with ⟨_, _, hcurrent, hmem, _⟩
      cases hcurrent
      have hlook := hI.told_own hrole
      exact hI.remove hfound.1 hmem hlook.1 hlook.2 hC rfl
  -- The request has taken the role away, and has not given one yet.
  | assign hreads hfinds hrole hremoved hnot =>
      have hfound := hI.told_own hreads.found
      rcases hI.told_own hreads.read _ hfound.1 rfl with ⟨a, role, hcurrent, hmem, _⟩
      have hlook := hI.told_own hrole
      exact hI.assign hfound.1 ⟨hremoved a role hcurrent, hnot⟩ hlook.1 rfl
  -- The row is written last; the realm stays as it is.
  | @save employee a role newRole hreads hfinds =>
      have hfound := hI.told_own hreads.found
      rcases hI.told_own hreads.read _ hfound.1 rfl with ⟨_, _, hcurrent, _, hown⟩
      cases hcurrent
      have hnew := hI.told_own hfinds
      generalize hresult : perform (.saveAssignment (EmployeesService.reassigned a newRole actor)) ch
        h.state = result
      rcases result with ⟨res, m⟩
      have hsnd : (perform (.saveAssignment (EmployeesService.reassigned a newRole actor)) ch
        h.state).2 = m := congrArg Prod.snd hresult
      cases res with
      | error e =>
          have hsame : m = h.state := perform_error_same hresult (.inl rfl)
          refine hI.quiet rfl ?_ ?_
          · rw [hsnd, hsame]
            exact hI.single
          · rw [hsnd, hsame]
      | ok u =>
          rcases saveAssignment_ok hresult with ⟨t, rfl, ht⟩
          refine hI.quiet rfl ?_ ?_
          · rw [hsnd]
            exact hI.single.saved hfound.1 hown hnew.1 hnew.2 ht
          · rw [hsnd]
  | insert hreads =>
      have hfound := hI.told_own hreads.found
      rcases hI.told_own hreads.read _ hfound.1 rfl with ⟨_, _, hcurrent, _, _⟩
      cases hcurrent

end Steps

/-! ## Runs -/

/-- The request changes the role of an employee. -/
def Request.changesRole : Request → Bool
  | .updateEmployeeRole _ _ => true
  | _ => false

/-- No user holds a maker role together with a checker role. -/
def Segregated (s : Store) : Prop :=
  ∀ u ∈ s.realm.users, ∀ maker ∈ s.roles, ∀ checker ∈ s.roles,
    maker.dutyType = .MAKER → checker.dutyType = .CHECKER →
      ¬ (s.realm.Holds u.id maker.keycloakRoleName ∧ s.realm.Holds u.id checker.keycloakRoleName)

instance (s : Store) : Decidable (Segregated s) :=
  inferInstanceAs (Decidable (∀ u ∈ s.realm.users, ∀ maker ∈ s.roles, ∀ checker ∈ s.roles,
    _ → _ → ¬ (_ ∧ _)))

theorem single_start {s : Store} (hsound : s.realm.Sound)
    (hagrees : ∀ employee ∈ s.employees, ∃ role, Agrees s employee role) : Single s s := by
  refine ⟨rfl, rfl, rfl, hsound, ?_, ?_⟩
  · intro employee hemployee
    rcases hagrees employee hemployee with ⟨role, hrole⟩
    rcases hrole.assignment with ⟨a, ha, howner, _⟩
    exact ⟨a, ha, howner⟩
  · intro employee hemployee a ha howner
    rcases hagrees employee hemployee with ⟨role, hrole⟩
    rcases hrole.assignment with ⟨a', _, _, hid, honly⟩
    have hsame : a = a' := honly a ha howner
    exact ⟨⟨howner, a, ha, howner, rfl⟩, role, hrole.mem, hrole.live, hsame ▸ hid.symm⟩

theorem segregating_initial {s : Store} (hsound : s.realm.Sound)
    (hagrees : ∀ employee ∈ s.employees, ∃ role, Agrees s employee role) :
    Segregating s (Config.initial service s).toHistory := by
  have hnever : ∀ i employee, ¬ Between (Config.initial service s).toHistory i employee := by
    intro i employee hb
    rcases hb.1 with ⟨role, hmem⟩
    exact absurd hmem List.not_mem_nil
  refine ⟨single_start hsound hagrees, ?_, ?_, ?_, ?_, ?_⟩
  · intro e he
    exact absurd he List.not_mem_nil
  · intro employee hemployee role hrole role' hrole' h h'
    rcases hagrees employee hemployee with ⟨held, hheld⟩
    exact ((hheld.managed role hrole).1 h).trans ((hheld.managed role' hrole').1 h').symm
  · intro employee _ i hb
    exact absurd hb (hnever i employee)
  · intro employee _ i j hb
    exact absurd hb (hnever i employee)
  · intro userId _ name
    exact Iff.rfl

theorem segregating_run {s : Store} (hsound : s.realm.Sound)
    (hagrees : ∀ employee ∈ s.employees, ∃ role, Agrees s employee role) {as : List (Action service)}
    (hC : Config.Meets RemovesHeld (Config.initial service s) as)
    (hrequests : ∀ r ∈ ((Config.initial service s).run as).requests, r.changesRole = true) :
    Segregating s ((Config.initial service s).run as).toHistory := by
  have hrun := Config.run_induction
    (I := fun h : History service => (∀ r ∈ h.requests, r.changesRole = true) → Segregating s h) follows_program
    (fun h r _ hI hall => ?_) (fun h i r op ch _ hI hr hop hCe hall => ?_)
    (fun _ => segregating_initial hsound hagrees) as hC
  · exact hrun hrequests
  · -- A new request has awaited nothing.
    have hold := hI fun r' hr' => hall r' (List.mem_append_left _ hr')
    exact ⟨hold.single, hold.told, hold.one, hold.free, hold.alone, hold.others⟩
  · have hchanges : r.changesRole = true := hall r (List.mem_of_getElem? hr)
    cases r with
    | updateEmployeeRole dto actor => exact (hI hall).step hop hCe
    | _ => cases hchanges

def toChecker : UpdateEmployeeRoleDto := ⟨"e-1", "r-3"⟩

def steps (i n : Nat) : List (Action service) :=
  List.replicate n (.resume i (answered "id-0"))

/-- One update after the other. -/
def updatesInTurn : List (Action service) :=
  [.start (.updateEmployeeRole ⟨"e-1", "r-2"⟩ superadmin)] ++ steps 0 17 ++
    [.start (.updateEmployeeRole toChecker superadmin)] ++ steps 1 17

/-- Both updates read the teller role before either takes it away. -/
def updatesOverlapping : List (Action service) :=
  [.start (.updateEmployeeRole ⟨"e-1", "r-2"⟩ superadmin),
    .start (.updateEmployeeRole toChecker superadmin)] ++ steps 0 4 ++ steps 1 17 ++ steps 0 13

end Rbac
end IdentityBillpay
