import IdentityBillpay.Rbac.Spelling

/-!
# RoleRanks — which names rank as numbers, and the rank of an actor with more roles

A name that the table inherits from `Object.prototype` has no number for a level. One such role
makes `Math.max` of an actor's levels `NaN`, which no comparison exceeds.

* `level_bounds`, `level_inherited` — the two kinds of names;
* `foldl_maxNumber_eq_some_iff` — when `Math.max` of several levels is a number, and which;
* `Actor.withRealmRoles`, `NotBelow` — an actor with a list of realm roles, and `>=` on levels;
* `ranks_iff` — which names have levels, and which roles can be added without a loss of rank.
-/

namespace IdentityBillpay
namespace Rbac

open Bbps (Actor extractRealmRoles)

/-! ## The level of a name -/

theorem not_inherited_of_lookup {roleName : String} {n : Nat}
    (h : ROLE_HIERARCHY_LEVELS.lookup roleName = some n) : roleName ∉ OBJECT_PROTOTYPE := by
  have hnone : ∀ name ∈ OBJECT_PROTOTYPE, ROLE_HIERARCHY_LEVELS.lookup name = none := by decide
  intro hmem
  cases (hnone roleName hmem).symm.trans h

theorem level_inherited {roleName : String} (h : roleName ∈ OBJECT_PROTOTYPE) :
    resolveRoleHierarchyLevel roleName = .inherited roleName := by
  have hproperty : levelProperty roleName = some (.inherited roleName) := by
    unfold levelProperty
    cases hlookup : ROLE_HIERARCHY_LEVELS.lookup roleName with
    | some n => exact absurd h (not_inherited_of_lookup hlookup)
    | none => simp [h]
  rw [level_eq, hproperty]
  rfl

theorem lookup_bounds {roleName : String} {n : Nat}
    (h : ROLE_HIERARCHY_LEVELS.lookup roleName = some n) : 10 ≤ n ∧ n ≤ 100 := by
  have hall : ∀ entry ∈ ROLE_HIERARCHY_LEVELS, 10 ≤ entry.2 ∧ entry.2 ≤ 100 := by decide
  rcases List.lookup_eq_some_iff.1 h with ⟨before, after, hlevels, _⟩
  exact hall (roleName, n) (by rw [hlevels]; simp)

theorem patternLevel_bounds (roleName : String) :
    10 ≤ patternLevel roleName ∧ patternLevel roleName ≤ 100 := by
  unfold patternLevel DEFAULT_ROLE_HIERARCHY_LEVEL
  repeat' split
  all_goals decide

/-- Any other name has a number for a level, whichever of the lookups or patterns gives it. -/
theorem level_bounds {roleName : String} (h : roleName ∉ OBJECT_PROTOTYPE) :
    ∃ n, resolveRoleHierarchyLevel roleName = .number n ∧ 10 ≤ n ∧ n ≤ 100 := by
  rw [level_eq, levelProperty_normalized]
  cases hexact : ROLE_HIERARCHY_LEVELS.lookup roleName with
  | some n => exact ⟨n, by simp [levelProperty, hexact], lookup_bounds hexact⟩
  | none =>
      have hproperty : levelProperty roleName = none := by simp [levelProperty, hexact, h]
      rw [hproperty]
      cases hnormalized : ROLE_HIERARCHY_LEVELS.lookup (normalized roleName) with
      | some n => exact ⟨n, rfl, lookup_bounds hnormalized⟩
      | none => exact ⟨_, rfl, patternLevel_bounds roleName⟩

/-! ## The highest of several levels -/

/-- `Math.max` is a number when all of its arguments are, and then the greatest of them. -/
theorem foldl_maxNumber_eq_some_iff {first : Option Nat} {levels : List (Option Nat)} {n : Nat} :
    levels.foldl maxNumber first = some n ↔
      (∀ level ∈ first :: levels, ∃ k, level = some k ∧ k ≤ n) ∧ some n ∈ first :: levels := by
  induction levels generalizing first with
  | nil =>
      simp only [List.foldl_nil, List.mem_singleton, forall_eq]
      exact ⟨fun h => ⟨⟨n, h, Nat.le_refl n⟩, h.symm⟩, fun h => h.2.symm⟩
  | cons level levels ih =>
      rw [List.foldl_cons, ih]
      simp only [List.forall_mem_cons]
      simp only [List.mem_cons]
      constructor
      · rintro ⟨⟨⟨m, hm, hle⟩, hrest⟩, hmem⟩
        rcases maxNumber_some hm with ⟨k, l, rfl, rfl, rfl⟩
        refine ⟨⟨⟨k, rfl, by omega⟩, ⟨l, rfl, by omega⟩, hrest⟩, ?_⟩
        rcases hmem with hmax | hmem
        · -- The greater of the first two is one of them.
          have hn : n = max k l := Option.some.inj hmax
          rcases Nat.le_total k l with hkl | hlk
          · exact .inr (.inl (by rw [hn, Nat.max_eq_right hkl]))
          · exact .inl (by rw [hn, Nat.max_eq_left hlk])
        · exact .inr (.inr hmem)
      · rintro ⟨⟨⟨k, rfl, hk⟩, ⟨l, rfl, hl⟩, hrest⟩, hmem⟩
        refine ⟨⟨⟨max k l, rfl, by omega⟩, hrest⟩, ?_⟩
        rcases hmem with hn | hn | hmem
        · have hnk : n = k := Option.some.inj hn
          exact .inl (congrArg some (by omega : n = max k l))
        · have hnl : n = l := Option.some.inj hn
          exact .inl (congrArg some (by omega : n = max k l))
        · exact .inr hmem

theorem exists_foldl_maxNumber {first : Option Nat} {levels : List (Option Nat)}
    (h : ∀ level ∈ first :: levels, ∃ k, level = some k) :
    ∃ n, levels.foldl maxNumber first = some n := by
  induction levels generalizing first with
  | nil => exact h first List.mem_cons_self
  | cons level levels ih =>
      simp only [List.forall_mem_cons] at h
      rcases h with ⟨⟨k, rfl⟩, ⟨l, rfl⟩, hrest⟩
      refine ih (List.forall_mem_cons.2 ⟨⟨max k l, rfl⟩, hrest⟩)

/-! ## The level of an actor -/

/-- The same actor with these realm roles. -/
def withRealmRoles (actor : Actor) (roles : List String) : Actor :=
  { actor with realmAccessRoles := some roles }

theorem extractRealmRoles_withRealmRoles {actor : Actor} {roles : List String} (h : roles ≠ []) :
    extractRealmRoles (withRealmRoles actor roles) = roles := by
  cases roles with
  | nil => exact absurd rfl h
  | cons role roles => rfl

theorem toNumber_eq_some_iff {level : Level} {n : Nat} :
    level.toNumber = some n ↔ level = .number n := by
  cases level with
  | number k => simp [Level.toNumber]
  | inherited property => simp [Level.toNumber]

/-- `Math.max` over the roles. -/
theorem actorLevel_eq {actor : Actor} {role : String} {roles : List String} :
    resolveActorHierarchyLevel (withRealmRoles actor (role :: roles)) =
      (roles.map fun role => (resolveRoleHierarchyLevel role).toNumber).foldl maxNumber
        (resolveRoleHierarchyLevel role).toNumber := by
  unfold resolveActorHierarchyLevel
  rw [extractRealmRoles_withRealmRoles (List.cons_ne_nil role roles), List.foldl_map]

/-- The level of an actor is the highest among its roles, if all of them have one. -/
theorem actorLevel_eq_some_iff {actor : Actor} {roles : List String} {n : Nat} (h : roles ≠ []) :
    resolveActorHierarchyLevel (withRealmRoles actor roles) = some n ↔
      (∀ role ∈ roles, ∃ k, resolveRoleHierarchyLevel role = .number k ∧ k ≤ n) ∧
        ∃ role ∈ roles, resolveRoleHierarchyLevel role = .number n := by
  cases roles with
  | nil => exact absurd rfl h
  | cons role roles =>
      rw [actorLevel_eq, foldl_maxNumber_eq_some_iff, ← List.map_cons (f := fun role =>
        (resolveRoleHierarchyLevel role).toNumber)]
      simp only [List.forall_mem_map, toNumber_eq_some_iff]
      simp only [List.mem_map, toNumber_eq_some_iff]

/-- An actor has a level just if all of its roles do. -/
theorem exists_actorLevel_iff {actor : Actor} {roles : List String} (h : roles ≠ []) :
    (∃ n, resolveActorHierarchyLevel (withRealmRoles actor roles) = some n) ↔
      ∀ role ∈ roles, role ∉ OBJECT_PROTOTYPE := by
  constructor
  · rintro ⟨n, hn⟩ role hrole hinherited
    rcases ((actorLevel_eq_some_iff h).1 hn).1 role hrole with ⟨k, hk, _⟩
    cases (level_inherited hinherited).symm.trans hk
  · intro hnumbers
    cases roles with
    | nil => exact absurd rfl h
    | cons role roles =>
        rw [actorLevel_eq]
        refine exists_foldl_maxNumber ?_
        rw [← List.map_cons (f := fun role => (resolveRoleHierarchyLevel role).toNumber)]
        refine List.forall_mem_map.2 fun role' hrole' => ?_
        rcases level_bounds (hnumbers role' hrole') with ⟨k, hk, _⟩
        exact ⟨k, toNumber_eq_some_iff.2 hk⟩

/-! ## More roles -/

/-- `level >= other`, which is false for `NaN`. -/
def NotBelow (level other : Option Nat) : Prop :=
  ∃ m n, level = some m ∧ other = some n ∧ n ≤ m

/-- What an actor may do to a role, it may do with more roles. -/
def KeepsDecisions (fewer more : Actor) : Prop :=
  ∀ roleName, (canAssignRoleToEmployee fewer roleName = true →
      canAssignRoleToEmployee more roleName = true) ∧
    (canManageEmployeeWithRole fewer roleName = true →
      canManageEmployeeWithRole more roleName = true)

theorem exceeds_of_notBelow {level more other : Option Nat} (h : NotBelow more level)
    (hexceeds : exceeds level other = true) : exceeds more other = true := by
  rcases h with ⟨m, n, rfl, rfl, hle⟩
  rcases exceeds_iff.1 hexceeds with ⟨a, b, ha, rfl, hlt⟩
  have han : n = a := Option.some.inj ha
  exact exceeds_iff.2 ⟨m, b, rfl, rfl, by omega⟩

section More

variable {actor : Actor} {roles more : List String}

theorem ne_nil_of_more (hne : roles ≠ []) (hsub : ∀ role ∈ roles, role ∈ more) : more ≠ [] := by
  rcases List.exists_mem_of_ne_nil roles hne with ⟨role, hrole⟩
  exact List.ne_nil_of_mem (hsub role hrole)

theorem isSuperadmin_more (hne : roles ≠ []) (hsub : ∀ role ∈ roles, role ∈ more)
    (h : isSuperadmin (withRealmRoles actor roles) = true) :
    isSuperadmin (withRealmRoles actor more) = true := by
  unfold isSuperadmin at h ⊢
  rw [extractRealmRoles_withRealmRoles hne, List.any_eq_true] at h
  rw [extractRealmRoles_withRealmRoles (ne_nil_of_more hne hsub), List.any_eq_true]
  rcases h with ⟨role, hrole, hname⟩
  exact ⟨role, hsub role hrole, hname⟩

theorem keepsDecisions_of_notBelow (hne : roles ≠ []) (hsub : ∀ role ∈ roles, role ∈ more)
    (h : NotBelow (resolveActorHierarchyLevel (withRealmRoles actor more))
      (resolveActorHierarchyLevel (withRealmRoles actor roles))) :
    KeepsDecisions (withRealmRoles actor roles) (withRealmRoles actor more) := by
  have hcompare : ∀ level, (isSuperadmin (withRealmRoles actor roles) ||
      exceeds (resolveActorHierarchyLevel (withRealmRoles actor roles)) level) = true →
        (isSuperadmin (withRealmRoles actor more) ||
          exceeds (resolveActorHierarchyLevel (withRealmRoles actor more)) level) = true := by
    intro level hdecided
    rw [Bool.or_eq_true] at hdecided ⊢
    exact hdecided.imp (isSuperadmin_more hne hsub) (exceeds_of_notBelow h)
  exact fun roleName => ⟨hcompare _, hcompare _⟩

/-- A name has a level from 10 to 100 exactly if it is no inherited property. An actor with more
roles is ranked no lower, and may do all it could do, exactly if none of the roles is one. -/
theorem ranks_iff (roleName : String) (actor : Actor) (hne : roles ≠ [])
    (hsub : ∀ role ∈ roles, role ∈ more) :
    ((∃ n, resolveRoleHierarchyLevel roleName = .number n ∧ 10 ≤ n ∧ n ≤ 100) ↔
      roleName ∉ OBJECT_PROTOTYPE) ∧
    (NotBelow (resolveActorHierarchyLevel (withRealmRoles actor more))
          (resolveActorHierarchyLevel (withRealmRoles actor roles)) ∧
        KeepsDecisions (withRealmRoles actor roles) (withRealmRoles actor more) ↔
      ∀ role ∈ more, role ∉ OBJECT_PROTOTYPE) := by
  have hmore := ne_nil_of_more hne hsub
  refine ⟨⟨?_, level_bounds⟩, ⟨?_, ?_⟩⟩
  · rintro ⟨n, hn, _⟩ hinherited
    cases (level_inherited hinherited).symm.trans hn
  · rintro ⟨⟨m, n, hm, _, _⟩, _⟩
    exact (exists_actorLevel_iff hmore).1 ⟨m, hm⟩
  · intro hnumbers
    rcases (@exists_actorLevel_iff actor _ hmore).2 hnumbers with ⟨m, hm⟩
    rcases (@exists_actorLevel_iff actor _ hne).2 fun role hrole => hnumbers role (hsub role hrole)
      with ⟨n, hn⟩
    -- The role that gives the level is among the others.
    have hle : n ≤ m := by
      rcases ((actorLevel_eq_some_iff hne).1 hn).2 with ⟨role, hrole, hlevel⟩
      rcases ((actorLevel_eq_some_iff hmore).1 hm).1 role (hsub role hrole) with ⟨k, hk, hkm⟩
      cases hlevel.symm.trans hk
      exact hkm
    have hnotBelow : NotBelow (resolveActorHierarchyLevel (withRealmRoles actor more))
        (resolveActorHierarchyLevel (withRealmRoles actor roles)) := ⟨m, n, hm, hn, hle⟩
    exact ⟨hnotBelow, keepsDecisions_of_notBelow hne hsub hnotBelow⟩

end More

/-- A checker who is made a maker as well. -/
theorem ranks_checker_and_maker :
    NotBelow
        (resolveActorHierarchyLevel
          (withRealmRoles ⟨some "u-1", none, none⟩ ["BANK_CHECKER", "BANK_MAKER"]))
        (resolveActorHierarchyLevel (withRealmRoles ⟨some "u-1", none, none⟩ ["BANK_CHECKER"])) ∧
      KeepsDecisions (withRealmRoles ⟨some "u-1", none, none⟩ ["BANK_CHECKER"])
        (withRealmRoles ⟨some "u-1", none, none⟩ ["BANK_CHECKER", "BANK_MAKER"]) :=
  (ranks_iff "BANK_CHECKER" ⟨some "u-1", none, none⟩ (by decide) (by decide)).2.2 (by decide)

/-- A bank admin can assign a teller's role, and no longer when it is given a role with the name of
an inherited property. -/
theorem constructor_has_no_rank :
    (¬ ∃ n, resolveRoleHierarchyLevel "constructor" = .number n) ∧
      resolveActorHierarchyLevel (withRealmRoles ⟨some "u-1", none, none⟩ ["BANK_ADMIN"]) =
        some 80 ∧
      resolveActorHierarchyLevel
        (withRealmRoles ⟨some "u-1", none, none⟩ ["BANK_ADMIN", "constructor"]) = none ∧
      canAssignRoleToEmployee (withRealmRoles ⟨some "u-1", none, none⟩ ["BANK_ADMIN"]) "TELLER" =
        true ∧
      canAssignRoleToEmployee
        (withRealmRoles ⟨some "u-1", none, none⟩ ["BANK_ADMIN", "constructor"]) "TELLER" =
          false := by
  refine ⟨?_, by decide⟩
  rintro ⟨n, hn⟩
  have hinherited : resolveRoleHierarchyLevel "constructor" = .inherited "constructor" := by decide
  cases hinherited.symm.trans hn

end Rbac
end IdentityBillpay
