import Mathlib.Data.List.Nodup
import Mathlib.Data.List.Range
import Mathlib.Order.Bounds.Basic

/-!
# Versions — rows numbered 1, 2, 3, … in the order they were written

* `Numbered` — the rows of a list carry the versions `1..n` in order;
* `Numbered.concat` — the next row carries the next version;
* `Numbered.isGreatest`, `Numbered.eq_of_version` — what the numbers say about the rows;
* `descending_iff` — rows sorted by their versions are in strict order if no version is repeated.
-/

namespace IdentityBillpay
namespace Sql

variable {ρ : Type} {version : ρ → Nat} {rows : List ρ}

/-- The rows carry the versions `1, 2, …, n`. -/
def Numbered (version : ρ → Nat) (rows : List ρ) : Prop :=
  rows.map version = List.range' 1 rows.length

theorem numbered_nil : Numbered version ([] : List ρ) := rfl

theorem Numbered.concat (h : Numbered version rows) {r : ρ} (hr : version r = rows.length + 1) :
    Numbered version (rows ++ [r]) := by
  unfold Numbered at h ⊢
  rw [List.map_append, h, List.length_append]
  simp [List.range'_1_concat, hr, Nat.add_comm]

/-- The versions that occur are those from `1` to the number of rows. -/
theorem Numbered.mem_versions (h : Numbered version rows) {n : Nat} :
    (∃ r ∈ rows, version r = n) ↔ 1 ≤ n ∧ n ≤ rows.length := by
  have hmem : n ∈ rows.map version ↔ n ∈ List.range' 1 rows.length := by
    unfold Numbered at h
    rw [h]
  rw [List.mem_map, List.mem_range'_1] at hmem
  rw [hmem]
  omega

theorem Numbered.le_length (h : Numbered version rows) {r : ρ} (hr : r ∈ rows) :
    version r ≤ rows.length :=
  (h.mem_versions.1 ⟨r, hr, rfl⟩).2

/-- The highest version is the number of rows. -/
theorem Numbered.isGreatest (h : Numbered version rows) {n : Nat} (hpos : 0 < n) :
    IsGreatest { v | ∃ r ∈ rows, version r = v } n ↔ rows.length = n := by
  constructor
  · intro hgreatest
    have hle := (h.mem_versions.1 hgreatest.1).2
    have hlast := hgreatest.2 (h.mem_versions.2 ⟨by omega, le_refl rows.length⟩)
    omega
  · intro hlen
    refine ⟨h.mem_versions.2 ⟨hpos, hlen.ge⟩, ?_⟩
    intro v hv
    exact hlen ▸ (h.mem_versions.1 hv).2

/-- Rows sorted with the highest version first descend strictly exactly if no version occurs twice. -/
theorem descending_iff :
    (rows.mergeSort fun r r' => decide (version r' ≤ version r)).Pairwise
        (fun r r' => version r' < version r) ↔
      (rows.map version).Nodup := by
  have hperm := (List.mergeSort_perm rows fun r r' => decide (version r' ≤ version r)).map version
  have hsorted : (rows.mergeSort fun r r' => decide (version r' ≤ version r)).Pairwise
      fun r r' => version r' ≤ version r := by
    refine (List.pairwise_mergeSort ?_ ?_ rows).imp of_decide_eq_true
    · intro a b c hab hbc
      simp only [decide_eq_true_eq] at hab hbc ⊢
      omega
    · intro a b
      simp only [Bool.or_eq_true, decide_eq_true_eq]
      omega
  rw [← hperm.nodup_iff]
  constructor
  · intro hstrict
    exact List.pairwise_map.2 (hstrict.imp fun h => h.ne')
  · intro hnodup
    exact (hsorted.and (List.pairwise_map.1 hnodup)).imp fun h => lt_of_le_of_ne h.1 h.2.symm

end Sql
end IdentityBillpay
