import IdentityBillpay.Js.StringToNumber

/-!
# Decimal — `DECIMAL(p, s)` columns and their trip through a JavaScript number

A `DECIMAL(p, s)` value is an integer of at most `p` digits counting units of `10 ^ -s`. A driver
hands it to JavaScript as text; a program converts the text to a number and writes numbers back.

* `Decimal.toText`, `Decimal.ofText` — the text of a value, and the value of a text;
* `Decimal.ofNumber` — the value a number is stored as, if it fits the column;
* `Decimal.ofNumber_toNumber` — reading a value as a number and storing it is the identity;
* `Decimal.ofText_toText` — so is reading it as text and storing that.
-/

namespace IdentityBillpay
namespace Sql

/-- A value of a `DECIMAL(p, s)` column. -/
structure Decimal (p s : Nat) where
  units : Int
  inRange : units.natAbs < 10 ^ p
  deriving DecidableEq

namespace Decimal

variable {p s : Nat}

/-- The last `s` decimal digits of `n`. -/
def fixedDigits : Nat → Nat → List Char
  | 0, _ => []
  | s + 1, n => fixedDigits s (n / 10) ++ [Nat.digitChar (n % 10)]

/-- The text of a value: sign, whole part and exactly `s` digits after the point. -/
def toText (d : Decimal p s) : String :=
  let n := d.units.natAbs
  let whole := Nat.toDigits 10 (n / 10 ^ s)
  let fraction := fixedDigits s n
  String.ofList ((if d.units < 0 then ['-'] else []) ++
    (whole ++ (if fraction = [] then [] else '.' :: fraction)))

/-- The text of a value has at least one digit. -/
theorem toText_ne_empty (d : Decimal p s) : d.toText ≠ "" := by
  intro h
  have hnil : d.toText.toList = [] := by rw [h]; rfl
  simp only [toText, String.toList_ofList, List.append_eq_nil_iff] at hnil
  exact Nat.toDigits_ne_nil hnil.2.1

/-- `Number(d)` for the text of a value. -/
def toNumber (d : Decimal p s) : JsNumber :=
  Js.Number d.toText

/-- The value a number is stored as: rounded to the scale, and refused when it is not finite or
does not fit. -/
def ofNumber (x : JsNumber) : Option (Decimal p s) :=
  match x.toScaled (10 ^ s) with
  | none => none
  | some n => if h : n.natAbs < 10 ^ p then some ⟨n, h⟩ else none

theorem fixedDigits_length (s n : Nat) : (fixedDigits s n).length = s := by
  induction s generalizing n with
  | zero => rfl
  | succ s ih => simp [fixedDigits, ih]

theorem digitChar_isDigit {n : Nat} (h : n < 10) : (Nat.digitChar n).isDigit = true := by
  simp [Nat.isDigit_digitChar, h]

theorem fixedDigits_isDigit {s n : Nat} : ∀ c ∈ fixedDigits s n, c.isDigit = true := by
  induction s generalizing n with
  | zero =>
      intro c hc
      simp [fixedDigits] at hc
  | succ s ih =>
      intro c hc
      rcases List.mem_append.1 hc with hc | hc
      · exact ih c hc
      · have hlast : c = Nat.digitChar (n % 10) := by simpa using hc
        rw [hlast]
        exact digitChar_isDigit (Nat.mod_lt _ (by decide))

theorem ofDigitChars_fixedDigits (s n m : Nat) :
    Nat.ofDigitChars 10 (fixedDigits s n) m = m * 10 ^ s + n % 10 ^ s := by
  induction s generalizing n with
  | zero => simp [fixedDigits, Nat.mod_one]
  | succ s ih =>
      have hdigit : n % 10 < 10 := Nat.mod_lt _ (by decide)
      have hmod : n % 10 ^ (s + 1) = 10 * (n / 10 % 10 ^ s) + n % 10 := by
        rw [Nat.pow_succ, Nat.mul_comm, Nat.mod_mul]
        omega
      calc
        Nat.ofDigitChars 10 (fixedDigits (s + 1) n) m
            = Nat.ofDigitChars 10 [Nat.digitChar (n % 10)]
                (Nat.ofDigitChars 10 (fixedDigits s (n / 10)) m) :=
              Nat.ofDigitChars_append m
        _ = 10 * (m * 10 ^ s + n / 10 % 10 ^ s) + n % 10 := by
              rw [Nat.ofDigitChars_cons_digitChar_of_lt_ten hdigit, ih]
              simp
        _ = m * 10 ^ (s + 1) + n % 10 ^ (s + 1) := by
              rw [hmod, Nat.pow_succ]
              ring

theorem toDigits_isDigit (n : Nat) : ∀ c ∈ Nat.toDigits 10 n, c.isDigit = true :=
  fun _ hc => Nat.isDigit_of_mem_toDigits (by decide) (by decide) hc

/-- The number a column value reads as is the binary64 value nearest to it. -/
theorem toNumber_eq (d : Decimal p s) :
    d.toNumber = .ofRatio (decide (d.units < 0)) d.units.natAbs (10 ^ s) := by
  have hwhole := toDigits_isDigit (d.units.natAbs / 10 ^ s)
  have hfraction : ∀ c ∈ fixedDigits s d.units.natAbs, c.isDigit = true := fixedDigits_isDigit
  have hdigits := Js.numericLiteral_digits (decide (d.units < 0)) Nat.toDigits_ne_nil hwhole
    hfraction
  have hvalue : Nat.ofDigitChars 10
      (Nat.toDigits 10 (d.units.natAbs / 10 ^ s) ++ fixedDigits s d.units.natAbs) 0 =
        d.units.natAbs := by
    rw [Nat.ofDigitChars_append, Nat.ofDigitChars_ten_toDigits, ofDigitChars_fixedDigits]
    exact Nat.div_add_mod' _ _
  rw [hvalue, fixedDigits_length] at hdigits
  -- The text has a sign, digits and a point, and no white space.
  have htrim : Js.trim d.toText.toList = d.toText.toList := by
    apply Js.trim_eq_self
    intro c hc
    simp only [toText, String.toList_ofList, List.mem_append] at hc
    rcases hc with hc | hc | hc
    · have hminus : c = '-' := by
        by_cases hneg : d.units < 0
        · simpa [hneg] using hc
        · simp [hneg] at hc
      rw [hminus]
      decide
    · exact Js.isWhiteSpace_of_isDigit (hwhole c hc)
    · by_cases hnil : fixedDigits s d.units.natAbs = []
      · simp [hnil] at hc
      · rcases (by simpa [hnil] using hc : c = '.' ∨ c ∈ fixedDigits s d.units.natAbs) with
          rfl | hc
        · decide
        · exact Js.isWhiteSpace_of_isDigit (hfraction c hc)
  unfold toNumber Js.Number
  rw [htrim]
  simpa [toText] using hdigits

/-- Reading a column value as a number and storing the number again is the identity, for columns
of at most fifteen digits. -/
theorem ofNumber_toNumber (d : Decimal p s) (hp : p ≤ 15) (hs : s ≤ 30) :
    ofNumber d.toNumber = some d := by
  have hsmall : d.units.natAbs < JsNumber.hiddenBit :=
    calc
      d.units.natAbs < 10 ^ p := d.inRange
      _ ≤ 10 ^ 15 := Nat.pow_le_pow_right (by decide) hp
      _ ≤ JsNumber.hiddenBit := by decide
  have hscale : (10 ^ s).log2 < 1000 := by
    have hle : 10 ^ s ≤ 10 ^ 30 := Nat.pow_le_pow_right (by decide) hs
    have hlt : 10 ^ s < 2 ^ 100 := Nat.lt_of_le_of_lt hle (by decide)
    have hlog := (Nat.log2_lt (by positivity)).2 hlt
    omega
  have hscaled := JsNumber.toScaled_ofRatio (decide (d.units < 0)) hsmall
    (Nat.pow_pos (by decide : 0 < 10) (n := s)) hscale
  have hunits : (if decide (d.units < 0) = true then -(d.units.natAbs : Int)
      else d.units.natAbs) = d.units := by
    by_cases hneg : d.units < 0
    · simp only [hneg, decide_true, if_true]
      omega
    · simp only [hneg, decide_false, Bool.false_eq_true, if_false]
      omega
  rw [hunits] at hscaled
  unfold ofNumber
  rw [toNumber_eq, hscaled]
  simp [d.inRange]

/-- Distinct column values read as distinct numbers. -/
theorem toNumber_injective {d d' : Decimal p s} (hp : p ≤ 15) (hs : s ≤ 30)
    (h : d.toNumber = d'.toNumber) : d = d' := by
  have hsome : some d = some d' := by
    rw [← ofNumber_toNumber d hp hs, h, ofNumber_toNumber d' hp hs]
  exact Option.some.inj hsome

/-- A column value reads as a number, never as `NaN`. -/
theorem toNumber_ne_nan (d : Decimal p s) (hp : p ≤ 15) (hs : s ≤ 30) : d.toNumber ≠ .nan := by
  intro hnan
  have hround := ofNumber_toNumber d hp hs
  rw [hnan] at hround
  exact absurd hround (by simp [ofNumber, JsNumber.toScaled])

/-! ## Values written as text -/

/-- The whole digits of a literal and the digits after its point. -/
def splitDigits (cs : List Char) : Option (List Char × List Char) :=
  match cs.dropWhile Char.isDigit with
  | [] => some (cs.takeWhile Char.isDigit, [])
  | '.' :: fraction => some (cs.takeWhile Char.isDigit, fraction)
  | _ => none

/-- The value of an unsigned literal in units of the scale. Digits beyond the scale are refused
here; no text written to a column has any. -/
def unitsOf (s : Nat) (cs : List Char) : Option Nat :=
  match splitDigits cs with
  | some (whole, fraction) =>
      if whole ≠ [] ∧ fraction.all Char.isDigit ∧ fraction.length ≤ s then
        some (Nat.ofDigitChars 10 (whole ++ fraction ++ List.replicate (s - fraction.length) '0') 0)
      else none
  | none => none

/-- The value with the given units, if it fits. -/
def ofUnits (units : Int) : Option (Decimal p s) :=
  if h : units.natAbs < 10 ^ p then some ⟨units, h⟩ else none

/-- The value that a decimal literal is stored as. -/
def ofText (text : String) : Option (Decimal p s) :=
  match text.toList with
  | '-' :: cs => (unitsOf s cs).bind fun n => ofUnits (-(n : Int))
  | cs => (unitsOf s cs).bind fun n => ofUnits n

theorem splitDigits_whole {whole : List Char} (h : ∀ c ∈ whole, c.isDigit = true) :
    splitDigits whole = some (whole, []) := by
  have hsplit := @Js.takeWhile_isDigit whole [] h (by simp)
  rw [List.append_nil] at hsplit
  simp [splitDigits, hsplit]

theorem splitDigits_point {whole fraction : List Char} (h : ∀ c ∈ whole, c.isDigit = true) :
    splitDigits (whole ++ '.' :: fraction) = some (whole, fraction) := by
  have hsplit := @Js.takeWhile_isDigit whole ('.' :: fraction) h (by simp)
  simp only [splitDigits, hsplit]

theorem unitsOf_digits (n : Nat) :
    unitsOf s (Nat.toDigits 10 (n / 10 ^ s) ++
      (if fixedDigits s n = [] then [] else '.' :: fixedDigits s n)) = some n := by
  have hwhole := toDigits_isDigit (n / 10 ^ s)
  have hfraction : ∀ c ∈ fixedDigits s n, c.isDigit = true := fixedDigits_isDigit
  have hvalue : Nat.ofDigitChars 10 (Nat.toDigits 10 (n / 10 ^ s) ++ fixedDigits s n) 0 = n := by
    rw [Nat.ofDigitChars_append, Nat.ofDigitChars_ten_toDigits, ofDigitChars_fixedDigits]
    exact Nat.div_add_mod' _ _
  by_cases hnil : fixedDigits s n = []
  · -- At scale 0 there is no point.
    have hs : s = 0 := by simpa [fixedDigits_length] using congrArg List.length hnil
    have hsplit := splitDigits_whole hwhole
    rw [hnil, List.append_nil] at hvalue
    rw [if_pos hnil, List.append_nil, unitsOf, hsplit]
    simp [hs, Nat.toDigits_ne_nil] at hvalue ⊢
  · have hsplit := @splitDigits_point _ (fixedDigits s n) hwhole
    have hall : (fixedDigits s n).all Char.isDigit = true := List.all_eq_true.2 hfraction
    simpa [unitsOf, hnil, hsplit, hall, fixedDigits_length, Nat.toDigits_ne_nil] using hvalue

/-- Reading a column value as text and storing the text again is the identity. -/
theorem ofText_toText (d : Decimal p s) : ofText d.toText = some d := by
  have hunits := @unitsOf_digits s d.units.natAbs
  have hrange := d.inRange
  by_cases hneg : d.units < 0
  · have hback : -(d.units.natAbs : Int) = d.units := by omega
    have hsome : (ofUnits (-(d.units.natAbs : Int)) : Option (Decimal p s)) = some d := by
      rw [hback]
      simp [ofUnits, hrange]
    simpa [ofText, toText, hneg, hunits] using hsome
  · have hback : (d.units.natAbs : Int) = d.units := by omega
    -- An unsigned literal starts with a digit.
    have hunsigned : ∀ cs : List Char, cs ≠ '-' :: cs.tail →
        String.ofList cs = d.toText → unitsOf s cs = some d.units.natAbs →
        ofText d.toText = some d := by
      intro cs hcs htext hof
      rw [← htext, ofText, String.toList_ofList]
      split
      · rename_i tail
        exact absurd rfl hcs
      · rw [hof, Option.bind_some, hback]
        simp [ofUnits, hrange]
    refine hunsigned _ ?_ (by simp [toText, hneg]) hunits
    intro hminus
    rcases List.exists_cons_of_ne_nil (Nat.toDigits_ne_nil (b := 10)
      (n := d.units.natAbs / 10 ^ s)) with ⟨c, rest, hdigits⟩
    have hdigit := toDigits_isDigit (d.units.natAbs / 10 ^ s) c (by simp [hdigits])
    have hc : c = '-' := by
      rw [hdigits] at hminus
      exact (List.cons.inj hminus).1
    rw [hc] at hdigit
    exact absurd hdigit (by decide)

end Decimal

end Sql
end IdentityBillpay
