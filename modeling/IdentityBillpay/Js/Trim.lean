import IdentityBillpay.Js.StringToNumber
import Mathlib.Data.List.TakeWhile

/-!
# Trim — what `trim` leaves of a text

* `trimEnd` — white space is taken from the end only;
* `Trimmed` — no white space at either end;
* `trimmed_trim`, `trim_of_trimmed` — trimming gives such a text, and keeps one;
* `trim_eq_nil_iff`, `trimEnd_append`, `trim_trimEnd` — what trimming does to the parts of a text.
-/

namespace IdentityBillpay
namespace Js

variable {cs ds : List Char}

/-- `trimEnd()`. -/
def trimEnd (cs : List Char) : List Char :=
  (cs.reverse.dropWhile isWhiteSpace).reverse

/-- The text has no white space in front and none behind. -/
def Trimmed (cs : List Char) : Prop :=
  (∀ c ∈ cs.head?, isWhiteSpace c = false) ∧ ∀ c ∈ cs.getLast?, isWhiteSpace c = false

theorem trim_eq (cs : List Char) : trim cs = trimEnd (cs.dropWhile isWhiteSpace) := rfl

theorem dropWhile_of_head (h : ∀ c ∈ cs.head?, isWhiteSpace c = false) :
    cs.dropWhile isWhiteSpace = cs := by
  cases cs with
  | nil => rfl
  | cons c cs =>
      have hc := h c rfl
      simp [hc]

theorem head_dropWhile (cs : List Char) :
    ∀ c ∈ (cs.dropWhile isWhiteSpace).head?, isWhiteSpace c = false := by
  intro c hc
  have hhead := List.head?_dropWhile_not isWhiteSpace cs
  rw [Option.mem_def.1 hc] at hhead
  simpa using hhead

/-- What is taken from the end is white space. -/
theorem exists_trimEnd_append (cs : List Char) :
    ∃ white, cs = trimEnd cs ++ white ∧ ∀ c ∈ white, isWhiteSpace c = true := by
  refine ⟨(cs.reverse.takeWhile isWhiteSpace).reverse, ?_, fun c hc => ?_⟩
  · rw [trimEnd, ← List.reverse_append, List.takeWhile_append_dropWhile, List.reverse_reverse]
  · exact List.mem_takeWhile_imp (List.mem_reverse.1 hc)

theorem trimEnd_append_white (hwhite : ∀ c ∈ ds, isWhiteSpace c = true) :
    trimEnd (cs ++ ds) = trimEnd cs := by
  have hdrop : (ds.reverse ++ cs.reverse).dropWhile isWhiteSpace =
      cs.reverse.dropWhile isWhiteSpace :=
    List.dropWhile_append_of_pos fun c hc => hwhite c (List.mem_reverse.1 hc)
  rw [trimEnd, List.reverse_append, hdrop, trimEnd]

theorem trimEnd_of_getLast (h : ∀ c ∈ cs.getLast?, isWhiteSpace c = false) : trimEnd cs = cs := by
  have hhead : ∀ c ∈ cs.reverse.head?, isWhiteSpace c = false := by
    simpa using h
  rw [trimEnd, dropWhile_of_head hhead, List.reverse_reverse]

theorem getLast_trimEnd (cs : List Char) :
    ∀ c ∈ (trimEnd cs).getLast?, isWhiteSpace c = false := by
  intro c hc
  rw [trimEnd, List.getLast?_reverse] at hc
  exact head_dropWhile cs.reverse c hc

theorem trimEnd_eq_nil_iff : trimEnd cs = [] ↔ ∀ c ∈ cs, isWhiteSpace c = true := by
  rw [trimEnd, List.reverse_eq_nil_iff, List.dropWhile_eq_nil_iff]
  simp

/-- Behind a text that is not blank, white space in front stays. -/
theorem trimEnd_append (h : trimEnd ds ≠ []) : trimEnd (cs ++ ds) = cs ++ trimEnd ds := by
  rcases exists_trimEnd_append ds with ⟨white, hds, hwhite⟩
  have hsame : (cs ++ trimEnd ds).getLast? = (trimEnd ds).getLast? := by
    rw [List.getLast?_append, List.getLast?_eq_some_getLast h, Option.some_or]
  have hlast : ∀ c ∈ (cs ++ trimEnd ds).getLast?, isWhiteSpace c = false :=
    hsame ▸ getLast_trimEnd ds
  calc trimEnd (cs ++ ds) = trimEnd (cs ++ trimEnd ds ++ white) := by
        rw [List.append_assoc, ← hds]
    _ = trimEnd (cs ++ trimEnd ds) := trimEnd_append_white hwhite
    _ = cs ++ trimEnd ds := trimEnd_of_getLast hlast

/-! ## Both ends -/

theorem trim_of_trimmed (h : Trimmed cs) : trim cs = cs := by
  rw [trim_eq, dropWhile_of_head h.1, trimEnd_of_getLast h.2]

theorem trimmed_trim (cs : List Char) : Trimmed (trim cs) := by
  refine ⟨fun c hc => ?_, getLast_trimEnd _⟩
  -- The first character that is left is the first one that was no white space.
  rcases exists_trimEnd_append (cs.dropWhile isWhiteSpace) with ⟨white, hparts, _⟩
  refine head_dropWhile cs c ?_
  rw [hparts, List.head?_append, ← trim_eq, Option.mem_def.1 hc]
  rfl

theorem length_trim_le (cs : List Char) : (trim cs).length ≤ cs.length := by
  have hfront := List.length_dropWhile_le isWhiteSpace cs
  have hend := List.length_dropWhile_le isWhiteSpace (cs.dropWhile isWhiteSpace).reverse
  rw [trim, List.length_reverse]
  rw [List.length_reverse] at hend
  omega

theorem trim_eq_nil_iff : trim cs = [] ↔ ∀ c ∈ cs, isWhiteSpace c = true := by
  rw [trim_eq, trimEnd_eq_nil_iff]
  refine ⟨fun h => ?_, fun h c hc => h c ((List.dropWhile_sublist _).subset hc)⟩
  have hnil : cs.dropWhile isWhiteSpace = [] := by
    cases hdrop : cs.dropWhile isWhiteSpace with
    | nil => rfl
    | cons c rest =>
        have hfirst := head_dropWhile cs c (by rw [hdrop]; rfl)
        have hwhite := h c (by rw [hdrop]; exact List.mem_cons_self)
        cases hfirst.symm.trans hwhite
  exact List.dropWhile_eq_nil_iff.1 hnil

theorem trim_dropWhile (cs : List Char) : trim (cs.dropWhile isWhiteSpace) = trim cs := by
  rw [trim_eq, dropWhile_of_head (head_dropWhile cs), trim_eq]

theorem trim_trimEnd (cs : List Char) : trim (trimEnd cs) = trim cs := by
  rcases exists_trimEnd_append cs with ⟨white, hcs, hwhite⟩
  by_cases hblank : ∀ c ∈ cs, isWhiteSpace c = true
  · rw [trimEnd_eq_nil_iff.2 hblank, trim_eq_nil_iff.2 hblank]
    rfl
  · -- The text that is left has a first character that is no white space.
    have hne : (trimEnd cs).dropWhile isWhiteSpace ≠ [] := by
      intro hnil
      refine hblank fun c hc => ?_
      rw [hcs] at hc
      rcases List.mem_append.1 hc with hkept | htaken
      · exact List.dropWhile_eq_nil_iff.1 hnil c hkept
      · exact hwhite c htaken
    calc trim (trimEnd cs) = trimEnd ((trimEnd cs).dropWhile isWhiteSpace ++ white) :=
          (trimEnd_append_white hwhite).symm
      _ = trimEnd ((trimEnd cs ++ white).dropWhile isWhiteSpace) := by
          rw [List.dropWhile_append, if_neg (by simpa using hne)]
      _ = trim cs := by rw [← hcs, trim_eq]

end Js
end IdentityBillpay
