import IdentityBillpay.Js.Number

/-!
# StringToNumber — `Number(s)` for a string `s`

The conversion trims white space and reads a numeric literal: empty text is `0`, `Infinity` with
an optional sign, a decimal literal with an optional sign and exponent, or an unsigned binary,
octal or hexadecimal integer. Anything else is `NaN`. A literal denotes the binary64 value nearest
to its exact value.
-/

namespace IdentityBillpay
namespace Js

/-- White space and line terminators, as `trim` and `Number` see them. -/
def isWhiteSpace (c : Char) : Bool :=
  c.toNat ∈ [0x9, 0xA, 0xB, 0xC, 0xD, 0x20, 0xA0, 0x1680, 0x2028, 0x2029, 0x202F, 0x205F, 0x3000,
    0xFEFF] || (0x2000 ≤ c.toNat && c.toNat ≤ 0x200A)

def trim (cs : List Char) : List Char :=
  ((cs.dropWhile isWhiteSpace).reverse.dropWhile isWhiteSpace).reverse

/-- The value of a digit in bases up to sixteen. -/
def digitValue (c : Char) : Nat :=
  if c.isDigit then c.toNat - '0'.toNat
  else if 'a' ≤ c && c ≤ 'f' then c.toNat - 'a'.toNat + 10
  else if 'A' ≤ c && c ≤ 'F' then c.toNat - 'A'.toNat + 10
  else 16

/-- An integer written without sign in the given base. -/
def integerInBase (base : Nat) (cs : List Char) : JsNumber :=
  if cs ≠ [] ∧ cs.all (fun c => digitValue c < base) then
    .ofRatio false (cs.foldl (fun n c => base * n + digitValue c) 0) 1
  else .nan

/-- The exponent part of a decimal literal: absent, or `e` and an integer with an optional sign. -/
def exponentPart : List Char → Option Int
  | [] => some 0
  | c :: cs =>
      if c = 'e' ∨ c = 'E' then
        -- An optional sign, and then at least one digit.
        let (negative, ds) : Bool × List Char :=
          match cs with
          | '-' :: ds => (true, ds)
          | '+' :: ds => (false, ds)
          | ds => (false, ds)
        if ds ≠ [] ∧ ds.all Char.isDigit then
          let n : Int := Nat.ofDigitChars 10 ds 0
          some (if negative then -n else n)
        else none
      else none

/-- The digits after the point, and what follows them. -/
def fractionPart : List Char → List Char × List Char
  | '.' :: cs => (cs.takeWhile Char.isDigit, cs.dropWhile Char.isDigit)
  | cs => ([], cs)

/-- `n * 10 ^ e`. -/
def scientific (negative : Bool) (n : Nat) : Int → JsNumber
  | .ofNat e => .ofRatio negative (n * 10 ^ e) 1
  | .negSucc e => .ofRatio negative n (10 ^ (e + 1))

/-- The value of a decimal literal from its digits before and after the point and the rest. -/
def ofParts (negative : Bool) (whole fraction rest : List Char) : JsNumber :=
  if whole = [] ∧ fraction = [] then .nan
  else
    match exponentPart rest with
    | none => .nan
    | some e => scientific negative (Nat.ofDigitChars 10 (whole ++ fraction) 0)
        (e - fraction.length)

/-- An unsigned decimal literal, or `Infinity`. -/
def decimalLiteral (negative : Bool) (cs : List Char) : JsNumber :=
  if cs = ['I', 'n', 'f', 'i', 'n', 'i', 't', 'y'] then .infinity negative
  else
    let whole := cs.takeWhile Char.isDigit
    let f := fractionPart (cs.dropWhile Char.isDigit)
    ofParts negative whole f.1 f.2

/-- A literal with its sign or base prefix. -/
def numericLiteral : List Char → JsNumber
  | [] => .finite 0 0
  | '+' :: cs => decimalLiteral false cs
  | '-' :: cs => decimalLiteral true cs
  | c :: b :: cs =>
      if c = '0' ∧ (b = 'x' ∨ b = 'X') then integerInBase 16 cs
      else if c = '0' ∧ (b = 'o' ∨ b = 'O') then integerInBase 8 cs
      else if c = '0' ∧ (b = 'b' ∨ b = 'B') then integerInBase 2 cs
      else decimalLiteral false (c :: b :: cs)
  | cs => decimalLiteral false cs

/-- `Number(s)`. -/
def Number (s : String) : JsNumber :=
  numericLiteral (trim s.toList)

example : Number " 1250.50 " = Number "125050e-2" := by decide

example : Number "900.00000000000000001" = Number "900" := by decide

example : Number "12,50" = .nan := by decide

/-! ## Literals made of digits and one point -/

theorem trim_eq_self {cs : List Char} (h : ∀ c ∈ cs, isWhiteSpace c = false) : trim cs = cs := by
  have hdrop : ∀ l : List Char, (∀ c ∈ l, isWhiteSpace c = false) →
      l.dropWhile isWhiteSpace = l := by
    intro l hl
    cases l with
    | nil => rfl
    | cons c l => simp [hl c (by simp)]
  have hrev : cs.reverse.dropWhile isWhiteSpace = cs.reverse :=
    hdrop _ (fun c hc => h c (by simpa using hc))
  simp [trim, hdrop cs h, hrev]

theorem isWhiteSpace_of_isDigit {c : Char} (h : c.isDigit = true) : isWhiteSpace c = false := by
  have hrange : 48 ≤ c.toNat ∧ c.toNat ≤ 57 := Char.isDigit_iff_toNat.1 h
  simp only [isWhiteSpace, List.mem_cons, List.not_mem_nil, or_false, Bool.or_eq_false_iff,
    decide_eq_false_iff_not, Bool.and_eq_false_iff]
  omega

theorem takeWhile_isDigit {ds rest : List Char} (hds : ∀ c ∈ ds, c.isDigit = true)
    (hrest : ∀ c, rest.head? = some c → c.isDigit = false) :
    (ds ++ rest).takeWhile Char.isDigit = ds ∧ (ds ++ rest).dropWhile Char.isDigit = rest := by
  induction ds with
  | nil =>
      cases rest with
      | nil => exact ⟨rfl, rfl⟩
      | cons c rest =>
          have hc := hrest c rfl
          simp [hc]
  | cons d ds ih =>
      have hd := hds d (by simp)
      rcases ih (fun c hc => hds c (by simp [hc])) with ⟨htake, hdrop⟩
      simp [hd, htake, hdrop]

theorem ofParts_digits (negative : Bool) {whole : List Char} (fraction : List Char)
    (hne : whole ≠ []) :
    ofParts negative whole fraction [] =
      .ofRatio negative (Nat.ofDigitChars 10 (whole ++ fraction) 0) (10 ^ fraction.length) := by
  have hparts : ¬ (whole = [] ∧ fraction = []) := fun h => hne h.1
  unfold ofParts
  rw [if_neg hparts]
  cases hlen : fraction.length with
  | zero => simp [exponentPart, scientific]
  | succ n =>
      have hexp : (0 : Int) - ((n + 1 : Nat) : Int) = Int.negSucc n := by omega
      simp only [exponentPart, hexp, scientific]

theorem fractionPart_digits {fraction : List Char} (h : ∀ c ∈ fraction, c.isDigit = true) :
    fractionPart (if fraction = [] then [] else '.' :: fraction) = (fraction, []) := by
  by_cases hnil : fraction = []
  · simp [hnil, fractionPart]
  · have hnone : ∀ c, ([] : List Char).head? = some c → c.isDigit = false := by simp
    have hf := takeWhile_isDigit h hnone
    rw [List.append_nil] at hf
    simp [hnil, fractionPart, hf.1, hf.2]

/-- A literal of digits, or of digits around one point, denotes its digits as an integer over the
power of ten of its fraction. -/
theorem decimalLiteral_digits (negative : Bool) {whole fraction : List Char}
    (hne : whole ≠ []) (hwhole : ∀ c ∈ whole, c.isDigit = true)
    (hfraction : ∀ c ∈ fraction, c.isDigit = true) :
    decimalLiteral negative (whole ++ (if fraction = [] then [] else '.' :: fraction)) =
      .ofRatio negative (Nat.ofDigitChars 10 (whole ++ fraction) 0) (10 ^ fraction.length) := by
  have hhead : ∀ c, (if fraction = [] then [] else '.' :: fraction).head? = some c →
      c.isDigit = false := by
    intro c hc
    by_cases hnil : fraction = []
    · simp [hnil] at hc
    · have hdot : '.' = c := by simpa [hnil] using hc
      subst hdot
      decide
  rcases takeWhile_isDigit hwhole hhead with ⟨htake, hdrop⟩
  have hinf : whole ++ (if fraction = [] then [] else '.' :: fraction) ≠
      ['I', 'n', 'f', 'i', 'n', 'i', 't', 'y'] := by
    cases whole with
    | nil => exact absurd rfl hne
    | cons c whole =>
        intro heq
        have hc : c = 'I' := (List.cons.inj heq).1
        have hdigit := hwhole c (by simp)
        rw [hc] at hdigit
        exact absurd hdigit (by decide)
  unfold decimalLiteral
  rw [if_neg hinf, htake, hdrop, fractionPart_digits hfraction]
  exact ofParts_digits negative fraction hne

theorem numericLiteral_of_digit {c : Char} {cs : List Char} (hc : c.isDigit = true)
    (hcs : ∀ b, cs.head? = some b → b.isDigit = true ∨ b = '.') :
    numericLiteral (c :: cs) = decimalLiteral false (c :: cs) := by
  have hplus : c ≠ '+' := by
    rintro rfl
    exact absurd hc (by decide)
  have hminus : c ≠ '-' := by
    rintro rfl
    exact absurd hc (by decide)
  cases cs with
  | nil => simp [numericLiteral, hplus, hminus]
  | cons b cs =>
      -- No base prefix: the second character is a digit or the point.
      have hb : b ∉ ['x', 'X', 'o', 'O', 'b', 'B'] := by
        intro hmem
        rcases hcs b rfl with hdigit | rfl
        · simp only [List.mem_cons, List.not_mem_nil, or_false] at hmem
          rcases hmem with rfl | rfl | rfl | rfl | rfl | rfl <;> exact absurd hdigit (by decide)
        · exact absurd hmem (by decide)
      simp only [List.mem_cons, List.not_mem_nil, or_false, not_or] at hb
      simp [numericLiteral, hb]

/-- The same literal with its sign in front. -/
theorem numericLiteral_digits (negative : Bool) {whole fraction : List Char}
    (hne : whole ≠ []) (hwhole : ∀ c ∈ whole, c.isDigit = true)
    (hfraction : ∀ c ∈ fraction, c.isDigit = true) :
    numericLiteral ((if negative then ['-'] else []) ++
        (whole ++ (if fraction = [] then [] else '.' :: fraction))) =
      .ofRatio negative (Nat.ofDigitChars 10 (whole ++ fraction) 0) (10 ^ fraction.length) := by
  rw [← decimalLiteral_digits negative hne hwhole hfraction]
  cases negative with
  | true => rfl
  | false =>
      cases whole with
      | nil => exact absurd rfl hne
      | cons c whole =>
          refine numericLiteral_of_digit (hwhole c (by simp)) ?_
          intro b hb
          cases whole with
          | cons d whole =>
              have hd : d = b := by simpa using hb
              exact Or.inl (hd ▸ hwhole d (by simp))
          | nil =>
              by_cases hnil : fraction = []
              · simp [hnil] at hb
              · have hdot : '.' = b := by simpa [hnil] using hb
                exact Or.inr hdot.symm

end Js
end IdentityBillpay
