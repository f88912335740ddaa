import Mathlib.Data.List.Induction
import Mathlib.Data.Nat.Init

/-!
# Bijective — numerals with the digits 1 to b

A numeral without a zero: its digits are `1, …, b`, the most significant one first. Every number has
a numeral of its own.

* `value`, `numeral` — reading a numeral, and writing a number;
* `isNumeral_numeral`, `value_numeral` — the numeral of a number is one, and is read as the number;
* `length_numeral_mono` — a longer numeral belongs to a larger number.
-/

namespace IdentityBillpay
namespace Numeral

variable {b : Nat}

/-- The number that a list of digits is read as. -/
def value (b : Nat) (ds : List Nat) : Nat :=
  ds.foldl (fun n d => b * n + d) 0

/-- The numeral of a number; the last digit is written for what the others leave. -/
def numeral (b : Nat) : Nat → List Nat
  | 0 => []
  | n + 1 => numeral b (n / b) ++ [n % b + 1]
termination_by n => n
decreasing_by exact Nat.lt_succ_of_le (Nat.div_le_self n b)

/-- The digits of the base. -/
def IsNumeral (b : Nat) (ds : List Nat) : Prop :=
  ∀ d ∈ ds, 1 ≤ d ∧ d ≤ b

@[simp] theorem numeral_zero : numeral b 0 = [] := by
  rw [numeral]

theorem numeral_succ (b n : Nat) : numeral b (n + 1) = numeral b (n / b) ++ [n % b + 1] := by
  rw [numeral]

@[simp] theorem value_nil : value b [] = 0 := rfl

theorem value_concat (ds : List Nat) (d : Nat) : value b (ds ++ [d]) = b * value b ds + d := by
  simp [value]

theorem isNumeral_concat {ds : List Nat} {d : Nat} :
    IsNumeral b (ds ++ [d]) ↔ IsNumeral b ds ∧ 1 ≤ d ∧ d ≤ b := by
  simp only [IsNumeral, List.forall_mem_append, List.forall_mem_singleton]

theorem isNumeral_numeral (hb : 0 < b) (n : Nat) : IsNumeral b (numeral b n) := by
  induction n using Nat.strong_induction_on with
  | _ n ih =>
      cases n with
      | zero =>
          rw [numeral_zero]
          exact fun d hd => absurd hd List.not_mem_nil
      | succ n =>
          have hlast := Nat.mod_lt n hb
          have hrest := ih (n / b) (Nat.lt_succ_of_le (Nat.div_le_self n b))
          rw [numeral_succ]
          exact isNumeral_concat.2 ⟨hrest, by omega, by omega⟩

/-- By strong induction: the digits before the last one are the numeral of the quotient. -/
theorem value_numeral (n : Nat) : value b (numeral b n) = n := by
  induction n using Nat.strong_induction_on with
  | _ n ih =>
      cases n with
      | zero => simp
      | succ n =>
          have hrest := ih (n / b) (Nat.lt_succ_of_le (Nat.div_le_self n b))
          calc value b (numeral b (n + 1)) = b * value b (numeral b (n / b)) + (n % b + 1) := by
                rw [numeral_succ, value_concat]
            _ = b * (n / b) + n % b + 1 := by rw [hrest, Nat.add_assoc]
            _ = n + 1 := by rw [Nat.div_add_mod]

theorem length_numeral_mono {m n : Nat} (h : m ≤ n) :
    (numeral b m).length ≤ (numeral b n).length := by
  induction n using Nat.strong_induction_on generalizing m with
  | _ n ih =>
      cases m with
      | zero => simp
      | succ m =>
          cases n with
          | zero => cases h
          | succ n =>
              have hquotients : m / b ≤ n / b := Nat.div_le_div_right (Nat.le_of_succ_le_succ h)
              have hrest := ih (n / b) (Nat.lt_succ_of_le (Nat.div_le_self n b)) hquotients
              simpa [numeral_succ] using hrest

/-- A longer numeral belongs to a larger number. -/
theorem lt_of_length_lt {m n : Nat} (h : (numeral b m).length < (numeral b n).length) : m < n := by
  refine Nat.lt_of_not_le fun hle => ?_
  have hlength := @length_numeral_mono b n m hle
  omega

end Numeral
end IdentityBillpay
