import IdentityBillpay.Js.Text
import Mathlib.Data.List.TakeWhile

/-!
# Patterns — what a pattern finds in a normalised text

* `normalForm` — trimmed, in upper case and with underscores for white space;
* `normalForm_idempotent` — a normal form is its own normal form;
* `Robust` — the words that no special casing makes or breaks;
* `testWord_normalForm` — such a word is found in a text just when it is found in its normal form.
-/

namespace IdentityBillpay
namespace Js

/-- `text.trim().toUpperCase().replace(/\s+/g, '_')`. -/
def normalForm (text : List Char) : List Char :=
  underscored false (toUpperCase (trim text))

/-! ## Normal forms -/

theorem toUpper_of_not_lower {c : Char} (h : ¬(97 ≤ c.toNat ∧ c.toNat ≤ 122)) : c.toUpper = c :=
  dif_neg h

theorem toNat_toUpper_of_lower {c : Char} (h : 97 ≤ c.toNat ∧ c.toNat ≤ 122) :
    c.toUpper.toNat = c.toNat - 32 := by
  have hlower : 'a'.val ≤ c.val ∧ c.val ≤ 'z'.val := h
  have hval : c.toUpper.val = c.val + ('A'.val - 'a'.val) := by
    change (if h : 'a'.val ≤ c.val ∧ c.val ≤ 'z'.val then
      (⟨c.val + ('A'.val - 'a'.val), _⟩ : Char) else c).val = _
    rw [dif_pos hlower]
  -- The offset of the capital letters is negative.
  generalize hoffset : 'A'.val - 'a'.val = offset at hval
  have hnat : offset.toNat = 4294967264 := by
    rw [← hoffset]
    decide
  calc
    c.toUpper.toNat = (c.val + offset).toNat := congrArg UInt32.toNat hval
    _ = (c.toNat + 4294967264) % 2 ^ 32 := by
        rw [UInt32.toNat_add, hnat]
        rfl
    _ = c.toNat - 32 := by omega

theorem toUpper_of_not_ascii {c : Char} (h : ¬c.toNat < 0x80) : c.toUpper = c :=
  toUpper_of_not_lower fun hlower => h (by omega)

theorem toUpper_of_isWhiteSpace {c : Char} (h : isWhiteSpace c = true) : c.toUpper = c := by
  refine toUpper_of_not_lower fun hlower => ?_
  simp only [isWhiteSpace, Bool.or_eq_true, Bool.and_eq_true, decide_eq_true_eq, List.mem_cons,
    List.not_mem_nil, or_false] at h
  omega

/-- The codes that a special casing puts in the place of a letter. -/
abbrev expansion (entry : Nat × List Nat) : List Char :=
  entry.2.map Char.ofNat

/-- The two kinds of upper case: one letter, or one of the special casings. -/
theorem upperCase_cases (c : Char) :
    upperCase c = [c.toUpper] ∨
      ¬c.toNat < 0x80 ∧ ∃ entry ∈ SPECIAL_CASING, upperCase c = expansion entry := by
  unfold upperCase
  split
  · exact .inl rfl
  · next hascii =>
      split
      · next codes hlookup =>
          rcases List.lookup_eq_some_iff.1 hlookup with ⟨before, after, hentries, _⟩
          refine .inr ⟨hascii, (c.toNat, codes), ?_, rfl⟩
          rw [hentries]
          exact List.mem_append_right _ List.mem_cons_self
      · rw [toUpper_of_not_ascii hascii]
        exact .inl rfl

theorem toUpper_toUpper (c : Char) : c.toUpper.toUpper = c.toUpper := by
  by_cases hlower : 97 ≤ c.toNat ∧ c.toNat ≤ 122
  · have hnat := toNat_toUpper_of_lower hlower
    exact toUpper_of_not_lower (by omega)
  · simp only [toUpper_of_not_lower hlower]

theorem upperCase_toUpper {c : Char} (h : upperCase c = [c.toUpper]) :
    upperCase c.toUpper = [c.toUpper] := by
  by_cases hlower : 97 ≤ c.toNat ∧ c.toNat ≤ 122
  · have hnat := toNat_toUpper_of_lower hlower
    have hascii : c.toUpper.toNat < 0x80 := by omega
    simp only [upperCase, if_pos hascii, toUpper_toUpper]
  · simpa only [toUpper_of_not_lower hlower] using h

/-- What an upper case is made of is in upper case. -/
theorem upperCase_fixed {c d : Char} (hd : d ∈ upperCase c) : upperCase d = [d] := by
  have hspecial : ∀ entry ∈ SPECIAL_CASING, ∀ d ∈ expansion entry, upperCase d = [d] := by
    have hall : (SPECIAL_CASING.all fun entry =>
        (expansion entry).all fun d => upperCase d == [d]) = true := by
      decide +kernel
    simpa only [List.all_eq_true, beq_iff_eq] using hall
  rcases upperCase_cases c with hplain | ⟨-, entry, hentry, hcodes⟩
  · rw [hplain, List.mem_singleton] at hd
    rw [hd]
    exact upperCase_toUpper hplain
  · exact hspecial entry hentry d (hcodes ▸ hd)

theorem toUpperCase_fixed {cs : List Char} (h : ∀ c ∈ cs, upperCase c = [c]) :
    toUpperCase cs = cs := by
  induction cs with
  | nil => rfl
  | cons c cs ih =>
      have hc := h c List.mem_cons_self
      have hcs : toUpperCase cs = cs := ih fun d hd => h d (List.mem_cons_of_mem _ hd)
      calc toUpperCase (c :: cs) = upperCase c ++ toUpperCase cs := rfl
        _ = c :: cs := by rw [hc, hcs]; rfl

theorem mem_underscored {b : Bool} {cs : List Char} {d : Char} (hd : d ∈ underscored b cs) :
    d = '_' ∨ d ∈ cs ∧ isWhiteSpace d = false := by
  induction cs generalizing b with
  | nil => cases hd
  | cons c cs ih =>
      have hrest : ∀ {b : Bool}, d ∈ underscored b cs → d = '_' ∨ d ∈ c :: cs ∧ isWhiteSpace d = false :=
        fun h => (ih h).imp_right fun hmem => ⟨List.mem_cons_of_mem _ hmem.1, hmem.2⟩
      unfold underscored at hd
      split at hd
      · split at hd
        · exact hrest hd
        · rcases List.mem_cons.1 hd with rfl | hd
          · exact .inl rfl
          · exact hrest hd
      · next hwhite =>
          rcases List.mem_cons.1 hd with rfl | hd
          · exact .inr ⟨List.mem_cons_self, by simpa using hwhite⟩
          · exact hrest hd

theorem underscored_of_noWhite {b : Bool} {cs : List Char}
    (h : ∀ c ∈ cs, isWhiteSpace c = false) : underscored b cs = cs := by
  induction cs generalizing b with
  | nil => rfl
  | cons c cs ih =>
      have hcs := ih (b := false) fun d hd => h d (List.mem_cons_of_mem _ hd)
      simp [underscored, h c List.mem_cons_self, hcs]

/-- A normal form is in upper case and has no white space. -/
theorem mem_normalForm {cs : List Char} {d : Char} (hd : d ∈ normalForm cs) :
    upperCase d = [d] ∧ isWhiteSpace d = false := by
  rcases mem_underscored hd with rfl | ⟨hmem, hwhite⟩
  · decide
  · rcases List.mem_flatMap.1 hmem with ⟨c, _, hc⟩
    exact ⟨upperCase_fixed hc, hwhite⟩

theorem normalForm_idempotent (cs : List Char) : normalForm (normalForm cs) = normalForm cs := by
  have hfixed := fun (d : Char) (hd : d ∈ normalForm cs) => mem_normalForm hd
  have htrim : trim (normalForm cs) = normalForm cs :=
    trim_eq_self fun d hd => (hfixed d hd).2
  have hupper : toUpperCase (normalForm cs) = normalForm cs :=
    toUpperCase_fixed fun d hd => (hfixed d hd).1
  have hwhite : underscored false (normalForm cs) = normalForm cs :=
    underscored_of_noWhite fun d hd => (hfixed d hd).2
  calc normalForm (normalForm cs)
      = underscored false (toUpperCase (trim (normalForm cs))) := rfl
    _ = normalForm cs := by rw [htrim, hupper, hwhite]

/-! ## Words in a text -/

/-- The letters of a word: of ASCII, no white space and no underscore. -/
def IsWord (w : List Char) : Prop :=
  ∀ p ∈ w, isWhiteSpace p = false ∧ p ≠ '_' ∧ p.toNat < 0x80

instance (w : List Char) : Decidable (IsWord w) :=
  decidable_of_iff
    ((w.all fun p => !isWhiteSpace p && p != '_' && decide (p.toNat < 0x80)) = true) (by
      simp [IsWord, and_assoc])

theorem IsWord.tail {p : Char} {ps : List Char} (h : IsWord (p :: ps)) : IsWord ps :=
  fun q hq => h q (List.mem_cons_of_mem _ hq)

theorem testWord_cons (word : String) (c : Char) (cs : List Char) :
    testWord word (c :: cs) = ((stripWord word.toList (c :: cs)).isSome || testWord word cs) := by
  simp [testWord]

section White

variable {w : List Char} {word : String}

/-- No word starts with white space. -/
theorem stripWord_white (hw : IsWord w) (hne : w ≠ []) {c : Char} (hc : isWhiteSpace c = true)
    (cs : List Char) : stripWord w (c :: cs) = none := by
  cases w with
  | nil => exact absurd rfl hne
  | cons p ps =>
      have hp : c.toUpper ≠ p := by
        rw [toUpper_of_isWhiteSpace hc]
        rintro rfl
        rw [(hw c List.mem_cons_self).1] at hc
        cases hc
      simp [stripWord, hp]

/-- White space behind a text does not help a word. -/
theorem stripWord_append_white (hw : IsWord w) {post : List Char}
    (hpost : ∀ c ∈ post, isWhiteSpace c = true) (cs : List Char) :
    (stripWord w (cs ++ post)).isSome = (stripWord w cs).isSome := by
  induction w generalizing cs with
  | nil => simp [stripWord]
  | cons p ps ih =>
      cases cs with
      | nil =>
          cases post with
          | nil => rfl
          | cons c post =>
              rw [List.nil_append, stripWord_white hw (by simp) (hpost c List.mem_cons_self)]
              rfl
      | cons c cs =>
          rw [List.cons_append]
          unfold stripWord
          split
          · exact ih hw.tail cs
          · rfl

theorem testWord_dropWhile (hw : IsWord word.toList) (hne : word.toList ≠ []) (cs : List Char) :
    testWord word (cs.dropWhile isWhiteSpace) = testWord word cs := by
  induction cs with
  | nil => rfl
  | cons c cs ih =>
      cases hc : isWhiteSpace c with
      | true => simp [hc, ih, testWord_cons, stripWord_white hw hne hc]
      | false => simp [hc]

theorem testWord_append_white (hw : IsWord word.toList) (hne : word.toList ≠ []) {post : List Char}
    (hpost : ∀ c ∈ post, isWhiteSpace c = true) (cs : List Char) :
    testWord word (cs ++ post) = testWord word cs := by
  induction cs with
  | nil =>
      have hdrop : post.dropWhile isWhiteSpace = [] := List.dropWhile_eq_nil_iff.2 hpost
      rw [List.nil_append, ← testWord_dropWhile hw hne, hdrop]
  | cons c cs ih =>
      have hstrip := stripWord_append_white hw hpost (c :: cs)
      rw [List.cons_append] at hstrip ⊢
      rw [testWord_cons, testWord_cons, hstrip, ih]

/-- Trimming takes no word away. -/
theorem testWord_trim (hw : IsWord word.toList) (hne : word.toList ≠ []) (cs : List Char) :
    testWord word (trim cs) = testWord word cs := by
  have hparts : cs.dropWhile isWhiteSpace =
      trim cs ++ ((cs.dropWhile isWhiteSpace).reverse.takeWhile isWhiteSpace).reverse := by
    rw [trim, ← List.reverse_append, List.takeWhile_append_dropWhile, List.reverse_reverse]
  have hpost : ∀ c ∈ ((cs.dropWhile isWhiteSpace).reverse.takeWhile isWhiteSpace).reverse,
      isWhiteSpace c = true := fun c hc =>
    List.mem_takeWhile_imp (List.mem_reverse.1 hc)
  calc testWord word (trim cs)
      = testWord word (cs.dropWhile isWhiteSpace) := by
        rw [hparts, testWord_append_white hw hne hpost]
    _ = testWord word cs := testWord_dropWhile hw hne cs

/-- No word starts at an underscore. -/
theorem stripWord_underscore (hw : IsWord w) (hne : w ≠ []) (cs : List Char) :
    stripWord w ('_' :: cs) = none := by
  cases w with
  | nil => exact absurd rfl hne
  | cons p ps =>
      have hp : '_' ≠ p := (hw p List.mem_cons_self).2.1.symm
      simp [stripWord, hp]

theorem stripWord_underscored (hw : IsWord w) (cs : List Char) :
    (stripWord w (underscored false cs)).isSome = (stripWord w cs).isSome := by
  induction w generalizing cs with
  | nil => simp [stripWord]
  | cons p ps ih =>
      cases cs with
      | nil => rfl
      | cons c cs =>
          cases hc : isWhiteSpace c with
          | true =>
              simp [underscored, hc, stripWord_underscore hw, stripWord_white hw _ hc]
          | false =>
              simp only [underscored, hc, Bool.false_eq_true, if_false, stripWord]
              split
              · exact ih hw.tail cs
              · rfl

/-- Underscores for white space neither make nor break a word. -/
theorem testWord_underscored (hw : IsWord word.toList) (hne : word.toList ≠ []) (b : Bool)
    (cs : List Char) : testWord word (underscored b cs) = testWord word cs := by
  induction cs generalizing b with
  | nil => rfl
  | cons c cs ih =>
      have hstrip := stripWord_underscored hw (c :: cs)
      cases hc : isWhiteSpace c with
      | true =>
          cases b with
          | true => simp [underscored, hc, ih, testWord_cons, stripWord_white hw hne hc]
          | false =>
              simp [underscored, hc, ih, testWord_cons, stripWord_white hw hne hc,
                stripWord_underscore hw hne]
      | false =>
          simp only [underscored, hc, Bool.false_eq_true, if_false] at hstrip ⊢
          rw [testWord_cons, testWord_cons, hstrip, ih]

end White

/-! ## Words and special casing -/

/-- The texts differ at a place where both have a letter. -/
def mismatch : List Char → List Char → Bool
  | p :: ps, c :: cs => c.toUpper != p || mismatch ps cs
  | _, _ => false

theorem stripWord_mismatch {w cs : List Char} (h : mismatch w cs = true) (rest : List Char) :
    stripWord w (cs ++ rest) = none := by
  induction w generalizing cs with
  | nil => cases h
  | cons p ps ih =>
      cases cs with
      | nil => cases h
      | cons c cs =>
          simp only [mismatch, Bool.or_eq_true, bne_iff_ne] at h
          rw [List.cons_append, stripWord]
          split
          · next heq => exact ih (h.resolve_left (not_not.2 heq))
          · rfl

/-- A word that no special casing makes or breaks: what a letter is replaced by fits nowhere into the
word, and no part of it starts the word. -/
def Robust (w : List Char) : Prop :=
  w ≠ [] ∧ IsWord w ∧ ∀ entry ∈ SPECIAL_CASING,
    (∀ s ∈ w.tails, s ≠ [] → mismatch s (expansion entry) = true) ∧
      ∀ s ∈ (expansion entry).tails, s ≠ [] → mismatch w s = true

instance (w : List Char) : Decidable (Robust w) :=
  inferInstanceAs (Decidable (_ ∧ _ ∧ ∀ entry ∈ SPECIAL_CASING, _))

section Casing

variable {word : String}

/-- A word does not start with a letter beyond ASCII. -/
theorem stripWord_not_ascii {w : List Char} (hw : IsWord w) (hne : w ≠ []) {c : Char}
    (hc : ¬c.toNat < 0x80) (cs : List Char) : stripWord w (c :: cs) = none := by
  cases w with
  | nil => exact absurd rfl hne
  | cons p ps =>
      have hp : c.toUpper ≠ p := by
        rw [toUpper_of_not_ascii hc]
        rintro rfl
        exact hc (hw c List.mem_cons_self).2.2
      simp [stripWord, hp]

theorem stripWord_toUpperCase {w : List Char} (hw : IsWord w)
    (hmismatch : ∀ entry ∈ SPECIAL_CASING, ∀ s ∈ w.tails, s ≠ [] →
      mismatch s (expansion entry) = true) (cs : List Char) :
    (stripWord w (toUpperCase cs)).isSome = (stripWord w cs).isSome := by
  induction w generalizing cs with
  | nil => simp [stripWord]
  | cons p ps ih =>
      cases cs with
      | nil => rfl
      | cons c cs =>
          have hcons : toUpperCase (c :: cs) = upperCase c ++ toUpperCase cs := rfl
          rcases upperCase_cases c with hplain | ⟨hascii, entry, hentry, hcodes⟩
          · have hrest := ih hw.tail (fun entry hentry s hs => hmismatch entry hentry s
              (by simpa using Or.inr hs)) cs
            rw [hcons, hplain, List.singleton_append]
            simp only [stripWord, toUpper_toUpper]
            split
            · exact hrest
            · rfl
          · have hfits := hmismatch entry hentry (p :: ps) (by simp) (by simp)
            rw [hcons, hcodes, stripWord_mismatch hfits, stripWord_not_ascii hw (by simp) hascii]

/-- Special casing aside, a word is found in upper case just where it is found. -/
theorem testWord_toUpperCase (hrobust : Robust word.toList) (cs : List Char) :
    testWord word (toUpperCase cs) = testWord word cs := by
  rcases hrobust with ⟨hne, hw, hentries⟩
  have hstrip := stripWord_toUpperCase hw fun entry hentry => (hentries entry hentry).1
  induction cs with
  | nil => rfl
  | cons c cs ih =>
      have hcons : toUpperCase (c :: cs) = upperCase c ++ toUpperCase cs := rfl
      rcases upperCase_cases c with hplain | ⟨hascii, entry, hentry, hcodes⟩
      · have hhead := hstrip (c :: cs)
        rw [hcons, hplain, List.singleton_append] at hhead ⊢
        rw [testWord_cons, testWord_cons, hhead, ih]
      · -- No part of the expansion starts the word.
        have hskip : ∀ codes : List Char, (∀ s ∈ codes.tails, s ≠ [] → mismatch word.toList s = true) →
            testWord word (codes ++ toUpperCase cs) = testWord word (toUpperCase cs) := by
          intro codes
          induction codes with
          | nil => exact fun _ => rfl
          | cons d codes ihcodes =>
              intro hcodes
              have hhead := stripWord_mismatch (hcodes (d :: codes) (by simp) (by simp))
                (toUpperCase cs)
              have htail := ihcodes fun s hs => hcodes s (by simpa using Or.inr hs)
              rw [List.cons_append] at hhead ⊢
              rw [testWord_cons, hhead, htail]
              rfl
        rw [hcons, hcodes, hskip _ (hentries entry hentry).2, ih, testWord_cons,
          stripWord_not_ascii hw hne hascii]
        rfl

/-- A word that no special casing touches is found in a text just when it is found in its normal
form. -/
theorem testWord_normalForm (hrobust : Robust word.toList) (cs : List Char) :
    testWord word (normalForm cs) = testWord word cs :=
  calc testWord word (normalForm cs)
      = testWord word (toUpperCase (trim cs)) :=
        testWord_underscored hrobust.2.1 hrobust.1 false _
    _ = testWord word (trim cs) := testWord_toUpperCase hrobust _
    _ = testWord word cs := testWord_trim hrobust.2.1 hrobust.1 cs

end Casing

example : ¬Robust "ADMIN".toList := by
  decide +kernel

end Js
end IdentityBillpay
