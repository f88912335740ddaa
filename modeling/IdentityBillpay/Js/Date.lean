import Mathlib.Algebra.Group.Nat.Defs

/-!
# Date — points in time and their ISO text

A `Date` holds a number of milliseconds since 1970-01-01, here never a negative one.

* `Date` — the time value, as `getTime` returns it;
* `Date.toISOString` — the text `YYYY-MM-DDTHH:mm:ss.sssZ`.
-/

namespace IdentityBillpay
namespace Js

/-- Milliseconds since 1970-01-01T00:00:00.000Z. -/
abbrev Date := Nat

namespace Date

/-- The last `width` decimal digits of `n`. -/
def digits (width n : Nat) : List Char :=
  (List.range width).reverse.map fun i => Char.ofNat (48 + n / 10 ^ i % 10)

/-- Year, month and day of a day count from 1970-01-01. Years are counted from March on, so that a
leap day is the last day of its year; 719468 days separate 0000-03-01 from 1970-01-01. -/
def civil (days : Nat) : Nat × Nat × Nat :=
  let z := days + 719468
  let era := z / 146097
  let dayOfEra := z % 146097
  let yearOfEra := (dayOfEra - dayOfEra / 1460 + dayOfEra / 36524 - dayOfEra / 146096) / 365
  let dayOfYear := dayOfEra - (365 * yearOfEra + yearOfEra / 4 - yearOfEra / 100)
  let shifted := (5 * dayOfYear + 2) / 153
  let day := dayOfYear - (153 * shifted + 2) / 5 + 1
  let month := if shifted < 10 then shifted + 3 else shifted - 9
  (yearOfEra + era * 400 + if month ≤ 2 then 1 else 0, month, day)

/-- `toISOString`, for the years up to 9999. -/
def toISOString (date : Date) : String :=
  let ⟨year, month, day⟩ := civil (date / 86400000)
  let ms := date % 86400000
  String.ofList (digits 4 year ++ '-' :: digits 2 month ++ '-' :: digits 2 day ++
    'T' :: digits 2 (ms / 3600000) ++ ':' :: digits 2 (ms / 60000 % 60) ++
    ':' :: digits 2 (ms / 1000 % 60) ++ '.' :: digits 3 (ms % 1000) ++ ['Z'])

example : toISOString 1709210096007 = "2024-02-29T12:34:56.007Z" := by decide

end Date

end Js
end IdentityBillpay
