import Mathlib.Algebra.Order.Ring.Nat
import Mathlib.Data.Nat.Log
import Mathlib.Tactic.Linarith
import Mathlib.Tactic.Ring

/-!
# Number — JavaScript numbers and the conversion of strings to them

A JavaScript number is an IEEE 754 binary64 value. `JsNumber` keeps finite values as
`mantissa * 2 ^ exponent` in their canonical form, so that structural equality is equality of
values; the two zeros are one value, as they are for `===`.

* `JsNumber.ofRatio` — rounding of an exact fraction to the nearest value, ties to even;
* `JsNumber.toScaled` — a number times a scale, rounded to the nearest integer;
* `Js.Number` — the conversion `Number(s)` of a string;
* `JsNumber.toScaled_ofRatio` — rounding to binary64 loses nothing that a fixed-point value of
  fewer than 52 bits can see;
* `JsNumber.floor?_ofRatio` — nor anything that the floor of a quotient below `2 ^ 53` can see.
-/

namespace IdentityBillpay

inductive JsNumber
  | nan
  | infinity (negative : Bool)
  | finite (mantissa : Int) (exponent : Int)
  deriving DecidableEq, Repr

namespace JsNumber

def isNaN (x : JsNumber) : Bool :=
  x == nan

/-- `x === y` on numbers: `NaN` is not equal to itself. -/
def strictEq (x y : JsNumber) : Bool :=
  x == y && !x.isNaN

/-! ## Rounding a fraction -/

/-- The integer nearest to `n / d`, ties to even. -/
def roundHalfEven (n d : Nat) : Nat :=
  let q := n / d
  let r := n % d
  if d < 2 * r ∨ (2 * r = d ∧ q % 2 = 1) then q + 1 else q

/-- The integer nearest to `n / d`, ties away from zero. -/
def roundHalfUp (n d : Nat) : Nat :=
  (2 * n + d) / (2 * d)

/-- The leading bit of a 53-bit mantissa. -/
def hiddenBit : Nat := 2 ^ 52

/-- The fraction `n / (d * 2 ^ e)`, as numerator and denominator. -/
def unscale (n d : Nat) : Int → Nat × Nat
  | .ofNat e => (n, d * 2 ^ e)
  | .negSucc e => (n * 2 ^ (e + 1), d)

/-- The exponent of the last place of `n / d`: the quotient `n / (d * 2 ^ e)` has 53 bits, unless
the value is subnormal. -/
def lastPlace (n d : Nat) : Int :=
  let e : Int := (n.log2 : Int) - d.log2 - 52
  let f := unscale n d e
  max (if f.1 < f.2 * hiddenBit then e - 1 else e) (-1074)

/-- The binary64 value with the given mantissa and exponent. A mantissa rounded up to 54 bits
carries into the next binade. -/
def pack (negative : Bool) (m : Nat) (e : Int) : JsNumber :=
  if m = 0 then finite 0 0
  else if m = 2 * hiddenBit then
    if 971 < e + 1 then infinity negative
    else finite (if negative then -(hiddenBit : Int) else hiddenBit) (e + 1)
  else if 971 < e then infinity negative
  else finite (if negative then -(m : Int) else m) e

/-- The binary64 value nearest to `± n / d`. -/
def ofRatio (negative : Bool) (n d : Nat) : JsNumber :=
  let e := lastPlace n d
  let f := unscale n d e
  pack negative (roundHalfEven f.1 f.2) e

/-- `x * scale` rounded to the nearest integer, ties away from zero; nothing for `NaN` and the
infinities. -/
def toScaled (scale : Nat) : JsNumber → Option Int
  | nan => none
  | infinity _ => none
  | finite m e =>
      let f := unscale (m.natAbs * scale) 1 (-e)
      let c := roundHalfUp f.1 f.2
      some (if m < 0 then -(c : Int) else c)

theorem unscale_neg (n d k : Nat) : unscale n d (-(k : Int)) = (n * 2 ^ k, d) := by
  cases k with
  | zero => simp [unscale]
  | succ k => rfl

theorem unscale_nonneg (n d k : Nat) : unscale n d (k : Int) = (n, d * 2 ^ k) := rfl

theorem roundHalfEven_near {n d : Nat} (hd : 0 < d) :
    2 * (roundHalfEven n d * d) ≤ 2 * n + d ∧ 2 * n ≤ 2 * (roundHalfEven n d * d) + d := by
  have hdm : n / d * d + n % d = n := Nat.div_add_mod' n d
  have hlt : n % d < d := Nat.mod_lt n hd
  by_cases hup : d < 2 * (n % d) ∨ (2 * (n % d) = d ∧ n / d % 2 = 1)
  · have hr : roundHalfEven n d = n / d + 1 := by
      simp [roundHalfEven, hup]
    rw [hr, Nat.add_mul, Nat.one_mul]
    omega
  · have hr : roundHalfEven n d = n / d := by
      simp [roundHalfEven, hup]
    rw [hr]
    omega

theorem roundHalfUp_eq {n d c : Nat} (hlo : 2 * (c * d) < 2 * n + d)
    (hhi : 2 * n < 2 * (c * d) + d) : roundHalfUp n d = c := by
  have hd : 0 < 2 * d := by omega
  unfold roundHalfUp
  apply Nat.div_eq_of_lt_le
  · calc
      c * (2 * d) = 2 * (c * d) := by ring
      _ ≤ 2 * n + d := Nat.le_of_lt hlo
  · calc
      2 * n + d < 2 * (c * d) + d + d := by omega
      _ = (c + 1) * (2 * d) := by ring

/-- A quotient below `2 ^ 53` gets all of its 53 bits, and has no unit above one. -/
theorem lastPlace_spec {c d : Nat} (hc : 0 < c) (hc' : c < 2 * hiddenBit) (hd' : d.log2 < 1000) :
    ∃ k : Nat, lastPlace c d = -(k : Int) ∧ d * hiddenBit ≤ c * 2 ^ k := by
  have hc2 : 2 ^ c.log2 ≤ c := Nat.log2_self_le (Nat.ne_of_gt hc)
  have hd2 : d < 2 ^ (d.log2 + 1) := Nat.lt_log2_self
  have hclog : c.log2 < 53 := (Nat.log2_lt (Nat.ne_of_gt hc)).2 hc'
  -- The first guess is `-j`; it is lowered by one when the quotient has only 52 bits.
  obtain ⟨j, hj⟩ : ∃ j : Nat, j + c.log2 = d.log2 + 52 := ⟨d.log2 + 52 - c.log2, by omega⟩
  have he : (c.log2 : Int) - d.log2 - 52 = -(j : Int) := by omega
  by_cases hlow : c * 2 ^ j < d * hiddenBit
  · refine ⟨j + 1, ?_, ?_⟩
    · simp only [lastPlace, he, unscale_neg, hlow, if_true]
      omega
    · calc
        d * hiddenBit ≤ 2 ^ (d.log2 + 1) * 2 ^ 52 := Nat.mul_le_mul_right _ (Nat.le_of_lt hd2)
        _ = 2 ^ c.log2 * 2 ^ (j + 1) := by
              rw [← pow_add, ← pow_add]
              congr 1
              omega
        _ ≤ c * 2 ^ (j + 1) := Nat.mul_le_mul_right _ hc2
  · refine ⟨j, ?_, Nat.le_of_not_lt hlow⟩
    simp only [lastPlace, he, unscale_neg, hlow, if_false]
    omega

theorem hiddenBit_pos : 0 < hiddenBit :=
  Nat.two_pow_pos 52

theorem ofRatio_eq (negative : Bool) (n d : Nat) :
    ofRatio negative n d =
      pack negative (roundHalfEven (unscale n d (lastPlace n d)).1
        (unscale n d (lastPlace n d)).2) (lastPlace n d) := rfl

theorem ofRatio_zero (negative : Bool) (d : Nat) : ofRatio negative 0 d = finite 0 0 := by
  have hun : (unscale 0 d (lastPlace 0 d)).1 = 0 := by
    cases lastPlace 0 d with
    | ofNat e => rfl
    | negSucc e => simp [unscale]
  simp [ofRatio, hun, roundHalfEven, pack]

theorem toScaled_finite (negative : Bool) {m c d k : Nat} (hm : 0 < m)
    (hround : roundHalfUp (m * d) (2 ^ k) = c) :
    (finite (if negative then -(m : Int) else m) (-(k : Int))).toScaled d =
      some (if negative then -(c : Int) else c) := by
  cases negative with
  | false => simp [toScaled, unscale_nonneg, hround]
  | true => simp [toScaled, unscale_nonneg, hround, hm]

/-- A mantissa `m` of unit `2 ^ -k` within half a place of `c / d` scales back to `c`. -/
theorem toScaled_pack (negative : Bool) {m c d k : Nat} (hm : 0 < m) (hk : 0 < k)
    (hdk : d < 2 ^ k) (hhi : 2 * (m * d) ≤ 2 * (c * 2 ^ k) + d)
    (hlo : 2 * (c * 2 ^ k) ≤ 2 * (m * d) + d) :
    (pack negative m (-(k : Int))).toScaled d = some (if negative then -(c : Int) else c) := by
  have hne : m ≠ 0 := Nat.ne_of_gt hm
  by_cases hcarry : m = 2 * hiddenBit
  · -- The carry halves the mantissa and doubles the unit; the value is the same.
    obtain ⟨j, rfl⟩ : ∃ j, k = j + 1 := ⟨k - 1, by omega⟩
    have hpow : (2 : Nat) ^ (j + 1) = 2 * 2 ^ j := by ring
    have hround : roundHalfUp (hiddenBit * d) (2 ^ j) = c := by
      have hc2 : c * 2 ^ (j + 1) = 2 * (c * 2 ^ j) := by ring
      have hm2 : m * d = 2 * (hiddenBit * d) := by rw [hcarry]; ring
      apply roundHalfUp_eq <;> omega
    have hexp : -((j + 1 : Nat) : Int) + 1 = -(j : Int) := by omega
    have hsmall : ¬ (971 : Int) < -(j : Int) := by omega
    have hval : pack negative m (-((j + 1 : Nat) : Int)) =
        finite (if negative then -(hiddenBit : Int) else hiddenBit) (-(j : Int)) := by
      unfold pack
      rw [if_neg hne, if_pos hcarry, hexp, if_neg hsmall]
    rw [hval]
    exact toScaled_finite negative hiddenBit_pos hround
  · have hround : roundHalfUp (m * d) (2 ^ k) = c := by
      apply roundHalfUp_eq <;> omega
    have hsmall : ¬ (971 : Int) < -(k : Int) := by omega
    have hval : pack negative m (-(k : Int)) =
        finite (if negative then -(m : Int) else m) (-(k : Int)) := by
      unfold pack
      rw [if_neg hne, if_neg hcarry, if_neg hsmall]
    rw [hval]
    exact toScaled_finite negative hm hround

/-- A fixed-point value `± c / d` survives the rounding to binary64: scaled by `d` again, the
result rounds back to `± c`. -/
theorem toScaled_ofRatio {c d : Nat} (negative : Bool) (hc' : c < hiddenBit) (hd : 0 < d)
    (hd' : d.log2 < 1000) :
    (ofRatio negative c d).toScaled d = some (if negative then -(c : Int) else c) := by
  rcases Nat.eq_zero_or_pos c with rfl | hc
  · rw [ofRatio_zero]
    cases negative <;> simp [toScaled, unscale, roundHalfUp]
  obtain ⟨k, hlast, hfull⟩ := lastPlace_spec hc (Nat.lt_of_lt_of_le hc' (by omega)) hd'
  have hdk : d < 2 ^ k := by
    have hlt : d * hiddenBit < 2 ^ k * hiddenBit :=
      calc
        d * hiddenBit ≤ c * 2 ^ k := hfull
        _ < hiddenBit * 2 ^ k := Nat.mul_lt_mul_of_pos_right hc' (Nat.two_pow_pos k)
        _ = 2 ^ k * hiddenBit := Nat.mul_comm _ _
    exact Nat.lt_of_mul_lt_mul_right hlt
  have hk : 0 < k := by
    rcases Nat.eq_zero_or_pos k with rfl | hpos
    · omega
    · exact hpos
  obtain ⟨hhi, hlo⟩ := roundHalfEven_near (n := c * 2 ^ k) hd
  have hmpos : 0 < roundHalfEven (c * 2 ^ k) d := by
    have hck : 2 ^ k ≤ c * 2 ^ k := Nat.le_mul_of_pos_left _ hc
    rcases Nat.eq_zero_or_pos (roundHalfEven (c * 2 ^ k) d) with hzero | hpos
    · rw [hzero] at hlo
      omega
    · exact hpos
  have hval : ofRatio negative c d =
      pack negative (roundHalfEven (c * 2 ^ k) d) (-(k : Int)) := by
    rw [ofRatio_eq, hlast, unscale_neg]
  rw [hval]
  exact toScaled_pack negative hmpos hk hdk hhi hlo

/-! ## Whole numbers -/

/-- `Math.floor(x)`, for a number that is not negative; nothing for `NaN` and the infinities. -/
def floor? : JsNumber → Option Nat
  | nan => none
  | infinity _ => none
  | finite m e =>
      let f := unscale m.natAbs 1 (-e)
      some (f.1 / f.2)

theorem floor?_finite (m k : Nat) : (finite m (-(k : Int))).floor? = some (m / 2 ^ k) := by
  simp [floor?, unscale_nonneg]

/-- Packing does not change the value of a mantissa with the unit `2 ^ -k`. -/
theorem floor?_pack {m k : Nat} (hm : 0 < m) (hcarry : m = 2 * hiddenBit → 0 < k) :
    (pack false m (-(k : Int))).floor? = some (m / 2 ^ k) := by
  have hne : m ≠ 0 := Nat.ne_of_gt hm
  by_cases hfull : m = 2 * hiddenBit
  · obtain ⟨j, rfl⟩ : ∃ j, k = j + 1 := ⟨k - 1, by have := hcarry hfull; omega⟩
    have hexp : -((j + 1 : Nat) : Int) + 1 = -(j : Int) := by omega
    have hsmall : ¬ (971 : Int) < -(j : Int) := by omega
    have hval : pack false m (-((j + 1 : Nat) : Int)) = finite hiddenBit (-(j : Int)) := by
      unfold pack
      rw [if_neg hne, if_pos hfull, hexp, if_neg hsmall]
      rfl
    have hhalf : m / 2 ^ (j + 1) = hiddenBit / 2 ^ j := by
      rw [hfull, Nat.pow_succ', Nat.mul_div_mul_left _ _ (by decide)]
    rw [hval, floor?_finite, hhalf]
  · have hsmall : ¬ (971 : Int) < -(k : Int) := by omega
    have hval : pack false m (-(k : Int)) = finite m (-(k : Int)) := by
      unfold pack
      rw [if_neg hne, if_neg hfull, if_neg hsmall]
      rfl
    rw [hval, floor?_finite]

/-- The quotient of a whole number below `2 ^ 53` is not rounded up to the next whole number. -/
theorem floor?_ofRatio {c d : Nat} (hc' : c < 2 * hiddenBit) (hd : 0 < d) (hd' : d.log2 < 1000) :
    (ofRatio false c d).floor? = some (c / d) := by
  rcases Nat.eq_zero_or_pos c with rfl | hc
  · rw [ofRatio_zero]
    simp [floor?, unscale]
  obtain ⟨k, hlast, hfull⟩ := lastPlace_spec hc hc' hd'
  have hdk : d < 2 ^ (k + 1) := by
    have hlt : d * hiddenBit < 2 ^ (k + 1) * hiddenBit :=
      calc
        d * hiddenBit ≤ c * 2 ^ k := hfull
        _ < 2 * hiddenBit * 2 ^ k := Nat.mul_lt_mul_of_pos_right hc' (Nat.two_pow_pos k)
        _ = 2 ^ (k + 1) * hiddenBit := by ring
    exact Nat.lt_of_mul_lt_mul_right hlt
  obtain ⟨hhi, hlo⟩ := roundHalfEven_near (n := c * 2 ^ k) hd
  have hval : ofRatio false c d = pack false (roundHalfEven (c * 2 ^ k) d) (-(k : Int)) := by
    rw [ofRatio_eq, hlast, unscale_neg]
  rw [hval]
  generalize roundHalfEven (c * 2 ^ k) d = m at hhi hlo
  have hpow : 2 ^ (k + 1) = 2 * 2 ^ k := by ring
  have hck : 2 ^ k ≤ c * 2 ^ k := Nat.le_mul_of_pos_left _ hc
  have hm : 0 < m := by
    rcases Nat.eq_zero_or_pos m with rfl | hpos
    · omega
    · exact hpos
  have hcarry : m = 2 * hiddenBit → 0 < k := by
    rintro rfl
    rcases Nat.eq_zero_or_pos k with rfl | hpos
    · have hone : d = 1 := by omega
      subst hone
      omega
    · exact hpos
  rw [floor?_pack hm hcarry]
  -- The mantissa lies within half a place of `c * 2 ^ k / d`, and a place is less than `1 / d`.
  have hquotient : c / d * d ≤ c := Nat.div_mul_le_self c d
  have hnext : c < (c / d + 1) * d := by
    rw [Nat.add_mul, Nat.one_mul]
    exact Nat.lt_div_mul_add hd
  refine congrArg some (Nat.div_eq_of_lt_le ?_ ?_)
  · refine Nat.le_of_not_lt fun hlt => ?_
    have hbelow : (m + 1) * d ≤ c * 2 ^ k :=
      calc (m + 1) * d ≤ c / d * 2 ^ k * d := Nat.mul_le_mul_right d hlt
        _ = c / d * d * 2 ^ k := by ring
        _ ≤ c * 2 ^ k := Nat.mul_le_mul_right _ hquotient
    rw [Nat.add_mul, Nat.one_mul] at hbelow
    omega
  · refine Nat.lt_of_not_le fun hle => ?_
    have habove : (c + 1) * 2 ^ k ≤ m * d :=
      calc (c + 1) * 2 ^ k ≤ (c / d + 1) * d * 2 ^ k := Nat.mul_le_mul_right _ hnext
        _ = (c / d + 1) * 2 ^ k * d := by ring
        _ ≤ m * d := Nat.mul_le_mul_right d hle
    rw [Nat.add_mul, Nat.one_mul] at habove
    omega

end JsNumber

end IdentityBillpay
