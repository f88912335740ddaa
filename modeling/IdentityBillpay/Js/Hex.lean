import Mathlib.Data.List.Basic

/-!
# Hex — bytes as hexadecimal text

* `toHex` — `buffer.toString('hex')`;
* `fromHex` — `Buffer.from(text, 'hex')`, which stops at the first pair that is not hexadecimal;
* `split` — `text.split(separator)`, for a separator of one character;
* `fromHex_toHex`, `split_cons` — what was written is read back;
* `fromHexChars_eq_iff` — all texts that are read as given bytes.
-/

namespace IdentityBillpay
namespace Js

/-- One hexadecimal digit, for a value below 16. -/
def hexDigit (n : Nat) : Char :=
  if n < 10 then Char.ofNat (48 + n) else Char.ofNat (87 + n)

def hexChars (bytes : List UInt8) : List Char :=
  bytes.flatMap fun b => [hexDigit (b.toNat / 16), hexDigit (b.toNat % 16)]

/-- `buffer.toString('hex')`. -/
def toHex (bytes : List UInt8) : String :=
  String.ofList (hexChars bytes)

/-- The value of a digit, in letters of either case. -/
def hexValue (c : Char) : Option Nat :=
  if '0' ≤ c ∧ c ≤ '9' then some (c.toNat - 48)
  else if 'a' ≤ c ∧ c ≤ 'f' then some (c.toNat - 87)
  else if 'A' ≤ c ∧ c ≤ 'F' then some (c.toNat - 55)
  else none

def fromHexChars : List Char → List UInt8
  | high :: low :: rest =>
      match hexValue high, hexValue low with
      | some h, some l => UInt8.ofNat (16 * h + l) :: fromHexChars rest
      | _, _ => []
  | _ => []

/-- `Buffer.from(text, 'hex')`. -/
def fromHex (text : String) : List UInt8 :=
  fromHexChars text.toList

/-- `text.split(separator)`. -/
def split (separator : Char) (text : String) : List String :=
  (text.toList.splitOn separator).map String.ofList

/-! ## Reading back what was written -/

theorem hexValue_hexDigit {n : Nat} (h : n < 16) : hexValue (hexDigit n) = some n := by
  revert n
  decide

/-- A byte is read back from its two digits. -/
theorem ofNat_halves (b : UInt8) : UInt8.ofNat (16 * (b.toNat / 16) + b.toNat % 16) = b := by
  rw [Nat.div_add_mod, UInt8.ofNat_toNat]

theorem fromHexChars_hexChars (bytes : List UInt8) : fromHexChars (hexChars bytes) = bytes := by
  induction bytes with
  | nil => rfl
  | cons b bytes ih =>
      have hbyte : b.toNat < 256 := b.toNat_lt
      have hhigh : hexValue (hexDigit (b.toNat / 16)) = some (b.toNat / 16) :=
        hexValue_hexDigit (by omega)
      have hlow : hexValue (hexDigit (b.toNat % 16)) = some (b.toNat % 16) :=
        hexValue_hexDigit (Nat.mod_lt _ (by decide))
      have hcons : hexChars (b :: bytes) =
          hexDigit (b.toNat / 16) :: hexDigit (b.toNat % 16) :: hexChars bytes := rfl
      rw [hcons]
      simp only [fromHexChars, hhigh, hlow, ofNat_halves, ih]

theorem fromHex_toHex (bytes : List UInt8) : fromHex (toHex bytes) = bytes := by
  simpa [fromHex, toHex] using fromHexChars_hexChars bytes

theorem toHex_ne_empty {bytes : List UInt8} (h : bytes ≠ []) : toHex bytes ≠ "" := by
  intro hempty
  have hbytes : fromHex (toHex bytes) = [] := by
    rw [hempty]
    rfl
  exact h ((fromHex_toHex bytes).symm.trans hbytes)

/-! ## All texts of the same bytes -/

/-- The digits are those that are written, in letters of either case. -/
theorem hexValue_eq_some_iff {c : Char} {n : Nat} :
    hexValue c = some n ↔ n < 16 ∧ c.toLower = hexDigit n := by
  by_cases hc : c.toNat < 128
  · have hread : ∀ k < 128, ∀ n ∈ hexValue (Char.ofNat k),
        n < 16 ∧ (Char.ofNat k).toLower = hexDigit n := by
      decide +kernel
    have hwritten : ∀ k < 128, ∀ n < 16, (Char.ofNat k).toLower = hexDigit n →
        hexValue (Char.ofNat k) = some n := by
      decide +kernel
    have hchar : Char.ofNat c.toNat = c := Char.ofNat_toNat c
    constructor
    · intro h
      have hn := hread c.toNat hc n
      rw [hchar] at hn
      exact hn h
    · rintro ⟨hn, h⟩
      have hvalue := hwritten c.toNat hc n hn
      rw [hchar] at hvalue
      exact hvalue h
  · -- Beyond ASCII there are no digits, and no letter becomes one.
    have hdigit : ∀ n < 16, (hexDigit n).toNat < 128 := by decide
    have hle : ∀ {d : Char}, d.toNat < 128 → ¬ c ≤ d := by
      intro d hd hcd
      have hnat : c.toNat ≤ d.toNat := hcd
      omega
    have hnone : hexValue c = none := by
      unfold hexValue
      rw [if_neg fun h => hle (by decide) h.2, if_neg fun h => hle (by decide) h.2,
        if_neg fun h => hle (by decide) h.2]
    have hlower : c.toLower = c := by
      refine dif_neg fun h => ?_
      have hnat : c.toNat ≤ 'Z'.toNat := h.2
      exact absurd (Nat.lt_of_le_of_lt hnat (by decide)) hc
    rw [hnone, hlower]
    constructor
    · intro h
      cases h
    · rintro ⟨hn, rfl⟩
      exact absurd (hdigit n hn) hc

theorem hexChars_cons (b : UInt8) (bytes : List UInt8) :
    hexChars (b :: bytes) = hexDigit (b.toNat / 16) :: hexDigit (b.toNat % 16) :: hexChars bytes :=
  rfl

/-- Two digits are one byte. -/
theorem halves_ofNat {h l : Nat} (hh : h < 16) (hl : l < 16) :
    (UInt8.ofNat (16 * h + l)).toNat / 16 = h ∧ (UInt8.ofNat (16 * h + l)).toNat % 16 = l := by
  have hlt : (16 * h + l) % 2 ^ 8 = 16 * h + l := Nat.mod_eq_of_lt (by omega)
  rw [UInt8.toNat_ofNat', hlt]
  omega

/-- The digits of a byte and of those after it, in letters of either case. -/
theorem map_toLower_eq_hexChars_cons {digits : List Char} {b : UInt8} {bytes : List UInt8} :
    digits.map Char.toLower = hexChars (b :: bytes) ↔ ∃ high low tail,
      digits = high :: low :: tail ∧ hexValue high = some (b.toNat / 16) ∧
        hexValue low = some (b.toNat % 16) ∧ tail.map Char.toLower = hexChars bytes := by
  have hbyte : b.toNat < 256 := b.toNat_lt
  have hhigh : b.toNat / 16 < 16 := by omega
  have hlow : b.toNat % 16 < 16 := Nat.mod_lt _ (by decide)
  rw [hexChars_cons]
  constructor
  · intro h
    rcases List.map_eq_cons_iff.1 h with ⟨high, rest, rfl, hh, hrest⟩
    rcases List.map_eq_cons_iff.1 hrest with ⟨low, tail, rfl, hl, htail⟩
    exact ⟨high, low, tail, rfl, hexValue_eq_some_iff.2 ⟨hhigh, hh⟩,
      hexValue_eq_some_iff.2 ⟨hlow, hl⟩, htail⟩
  · rintro ⟨high, low, tail, rfl, hh, hl, htail⟩
    rw [List.map_cons, List.map_cons, (hexValue_eq_some_iff.1 hh).2, (hexValue_eq_some_iff.1 hl).2,
      htail]

theorem fromHexChars_append {digits rest : List Char} {bytes : List UInt8}
    (hdigits : digits.map Char.toLower = hexChars bytes) (hrest : fromHexChars rest = []) :
    fromHexChars (digits ++ rest) = bytes := by
  induction bytes generalizing digits with
  | nil =>
      have hnil : digits = [] := List.map_eq_nil_iff.1 hdigits
      rw [hnil, List.nil_append, hrest]
  | cons b bytes ih =>
      rcases map_toLower_eq_hexChars_cons.1 hdigits with ⟨high, low, tail, rfl, hh, hl, htail⟩
      have hbytes := ih htail
      simp only [List.cons_append, fromHexChars, hh, hl, hbytes, ofNat_halves]

/-- What is read are digits; what is left does not start with two of them. -/
theorem exists_fromHexChars (cs : List Char) : ∃ digits rest, cs = digits ++ rest ∧
    digits.map Char.toLower = hexChars (fromHexChars cs) ∧ fromHexChars rest = [] := by
  fun_induction fromHexChars cs with
  | case1 high low tail h l hl hh ih =>
      rcases ih with ⟨digits, rest, htail, hdigits, hrest⟩
      have hhalves := halves_ofNat (hexValue_eq_some_iff.1 hh).1 (hexValue_eq_some_iff.1 hl).1
      refine ⟨high :: low :: digits, rest, by rw [htail]; rfl, ?_, hrest⟩
      refine map_toLower_eq_hexChars_cons.2 ⟨high, low, digits, rfl, ?_, ?_, hdigits⟩
      · rw [hh, hhalves.1]
      · rw [hl, hhalves.2]
  | case2 high low tail hnot =>
      refine ⟨[], high :: low :: tail, rfl, rfl, ?_⟩
      unfold fromHexChars
      split
      · next h l hh hl => exact absurd hl (hnot h l hh)
      · rfl
  | case3 cs hshort =>
      refine ⟨[], cs, rfl, rfl, ?_⟩
      unfold fromHexChars
      split
      · next high low tail => exact absurd rfl (hshort high low tail)
      · rfl

/-- The texts that are read as given bytes: their digits, in letters of either case, and then
anything that does not start with two more digits. -/
theorem fromHexChars_eq_iff {cs : List Char} {bytes : List UInt8} :
    fromHexChars cs = bytes ↔ ∃ digits rest, cs = digits ++ rest ∧
      digits.map Char.toLower = hexChars bytes ∧ fromHexChars rest = [] := by
  constructor
  · rintro rfl
    exact exists_fromHexChars cs
  · rintro ⟨digits, rest, rfl, hdigits, hrest⟩
    exact fromHexChars_append hdigits hrest

/-- No digit is a colon. -/
theorem colon_notMem_toHex (bytes : List UInt8) : ':' ∉ (toHex bytes).toList := by
  have hdigit : ∀ n < 16, hexDigit n ≠ ':' := by decide
  intro hmem
  have hchars : ':' ∈ hexChars bytes := by simpa [toHex] using hmem
  rcases List.mem_flatMap.1 hchars with ⟨b, -, hb⟩
  have hbyte : b.toNat < 256 := b.toNat_lt
  rcases List.mem_cons.1 hb with hhigh | hlow
  · exact hdigit (b.toNat / 16) (by omega) hhigh.symm
  · exact hdigit (b.toNat % 16) (Nat.mod_lt _ (by decide)) (List.mem_singleton.1 hlow).symm

/-- The parts of a text that was put together with the separator. -/
theorem split_cons {separator : Char} {first : String} (h : separator ∉ first.toList)
    (rest : String) :
    split separator (first ++ String.singleton separator ++ rest) =
      first :: split separator rest := by
  simp [split, List.splitOn_append_cons_self_of_not_mem h]

theorem split_last {separator : Char} {text : String} (h : separator ∉ text.toList) :
    split separator text = [text] := by
  simp [split, List.splitOn_eq_singleton h]

example : toHex [0, 171, 255] = "00abff" ∧ fromHex "00ABff" = [0, 171, 255] ∧
    fromHex "0abz12" = [10] ∧ split ':' "a::b" = ["a", "", "b"] := by
  decide

end Js
end IdentityBillpay
