import Mathlib.Algebra.Order.BigOperators.Group.List
import Mathlib.Tactic.Ring
import IdentityBillpay.Js.Date

/-!
# DateParse — what `new Date(text)` makes of a text

The language has one format for dates, `YYYY-MM-DDTHH:mm:ss.sssZ`, of which the time and everything
after the year may be missing. A date alone stands for midnight UTC, a time without a zone for local
time. Any other text is up to the engine.

* `day` — the number of a calendar day, counted from 1970-01-01;
* `CalendarDate` — a day of the calendar with a year of four digits, and its text;
* `isoTime?`, `Date.parse` — the format, and the constructor's reading of any text;
* `parse_text` — the text of a calendar date is read as its first millisecond.
-/

namespace IdentityBillpay
namespace Js

/-- A day in milliseconds. -/
def msPerDay : Int := 86400000

/-! ## The calendar -/

def isLeap (year : Int) : Bool :=
  year % 4 == 0 && (year % 100 != 0 || year % 400 == 0)

def daysInMonth (year : Int) (month : Nat) : Nat :=
  if month = 2 then if isLeap year then 29 else 28
  else if month = 4 ∨ month = 6 ∨ month = 9 ∨ month = 11 then 30
  else 31

theorem daysInMonth_le (year : Int) (month : Nat) : daysInMonth year month ≤ 31 := by
  unfold daysInMonth
  split_ifs <;> decide

/-- `DayFromYear`: the number of the first day of a year. -/
def dayFromYear (year : Int) : Int :=
  365 * (year - 1970) + (year - 1969) / 4 - (year - 1901) / 100 + (year - 1601) / 400

/-- The days of a year before the first of a month. -/
def daysBeforeMonth (year : Int) (month : Nat) : Nat :=
  ((List.range (month - 1)).map fun i => daysInMonth year (i + 1)).sum

def day (year : Int) (month dayOfMonth : Nat) : Int :=
  dayFromYear year + daysBeforeMonth year month + dayOfMonth - 1

/-- Whether there is such a day. -/
def isDay (year : Int) (month dayOfMonth : Nat) : Bool :=
  1 ≤ month && month ≤ 12 && 1 ≤ dayOfMonth && dayOfMonth ≤ daysInMonth year month

example : day 2024 2 29 = 19782 := by decide

structure CalendarDate where
  year : Nat
  month : Nat
  dayOfMonth : Nat
  fourDigits : year ≤ 9999
  exists_day : isDay year month dayOfMonth = true

namespace CalendarDate

/-- `YYYY-MM-DD`. -/
def chars (date : CalendarDate) : List Char :=
  Date.digits 4 date.year ++ '-' :: (Date.digits 2 date.month ++
    '-' :: Date.digits 2 date.dayOfMonth)

def text (date : CalendarDate) : String :=
  String.ofList date.chars

def number (date : CalendarDate) : Int :=
  day date.year date.month date.dayOfMonth

end CalendarDate

/-! ## The format -/

/-- A number of exactly `width` digits, and what comes after it. -/
def takeDigits (width : Nat) (cs : List Char) : Option (Nat × List Char) :=
  if (cs.take width).length = width ∧ (cs.take width).all Char.isDigit then
    some (Nat.ofDigitChars 10 (cs.take width) 0, cs.drop width)
  else none

/-- A field after its separator; `value` if the separator is not there. -/
def optionalField (separator : Char) (width value : Nat) (cs : List Char) :
    Option (Nat × List Char) :=
  match cs with
  | [] => some (value, [])
  | c :: rest => if c = separator then takeDigits width rest else some (value, c :: rest)

/-- `YYYY`, or a sign and six digits; there is no year `-000000`. -/
def takeYear : List Char → Option (Int × List Char)
  | '+' :: cs => (takeDigits 6 cs).map fun r => ((r.1 : Int), r.2)
  | '-' :: cs => (takeDigits 6 cs).bind fun r => if r.1 = 0 then none else some (-(r.1 : Int), r.2)
  | cs => (takeDigits 4 cs).map fun r => ((r.1 : Int), r.2)

/-- The number of a day, from `YYYY`, `YYYY-MM` or `YYYY-MM-DD`. -/
def takeDate (cs : List Char) : Option (Int × List Char) := do
  let (year, afterYear) ← takeYear cs
  let (month, afterMonth) ← optionalField '-' 2 1 afterYear
  let (dayOfMonth, rest) ← optionalField '-' 2 1 afterMonth
  if isDay year month dayOfMonth then some (day year month dayOfMonth, rest) else none

/-- Milliseconds since midnight, from `HH:mm`, `HH:mm:ss` or `HH:mm:ss.sss`. The end of a day is its
hour 24. -/
def takeTime (cs : List Char) : Option (Nat × List Char) := do
  let (hour, afterHour) ← takeDigits 2 cs
  let (minute, afterMinute) ←
    match afterHour with
    | ':' :: cs => takeDigits 2 cs
    | _ => none
  let (second, afterSecond) ← optionalField ':' 2 0 afterMinute
  let (ms, rest) ←
    match afterMinute with
    | ':' :: _ => optionalField '.' 3 0 afterSecond
    | _ => some (0, afterSecond)
  let time := hour * 3600000 + minute * 60000 + second * 1000 + ms
  if (hour ≤ 23 ∧ minute ≤ 59 ∧ second ≤ 59) ∨ time = 86400000 ∧ hour = 24 then some (time, rest)
  else none

/-- What the engine adds: the offset of its time zone, and its reading of other texts. -/
structure Runtime where
  /-- The time value of a local time. -/
  fromLocal : Int → Int
  fallback : String → Option Int

/-- The time value of a time that is given with a zone, or in local time. -/
def inZone (runtime : Runtime) (time : Int) : List Char → Option Int
  | [] => some (runtime.fromLocal time)
  | ['Z'] => some time
  | sign :: cs => do
      let (hour, afterHour) ← takeDigits 2 cs
      let (minute, rest) ←
        match afterHour with
        | ':' :: cs => takeDigits 2 cs
        | _ => none
      let offset : Int := hour * 3600000 + minute * 60000
      if 23 < hour ∨ 59 < minute ∨ rest ≠ [] then none
      else if sign = '+' then some (time - offset)
      else if sign = '-' then some (time + offset)
      else none

/-- `TimeClip`. -/
def timeClip (time : Int) : Option Int :=
  if time.natAbs ≤ 8640000000000000 then some time else none

/-- The time value of a text of the format. -/
def isoTime? (runtime : Runtime) (cs : List Char) : Option Int :=
  match takeDate cs with
  | none => none
  | some (number, []) => timeClip (number * msPerDay)
  | some (number, 'T' :: cs) =>
      match takeTime cs with
      | none => none
      | some (time, zone) => (inZone runtime (number * msPerDay + time) zone).bind timeClip
  | some (_, _ :: _) => none

/-- `new Date(text).getTime()`, or nothing for an invalid date. -/
def Date.parse (runtime : Runtime) (text : String) : Option Int :=
  match isoTime? runtime text.toList with
  | some time => some time
  | none => runtime.fallback text

/-! ## Reading a calendar date -/

theorem ofNat_eq_digitChar {d : Nat} (hd : d < 10) : Char.ofNat (48 + d) = Nat.digitChar d := by
  have hall : ∀ d : Fin 10, Char.ofNat (48 + d) = Nat.digitChar d := by decide
  exact hall ⟨d, hd⟩

theorem digits_succ (width n : Nat) :
    Date.digits (width + 1) n = Nat.digitChar (n / 10 ^ width % 10) :: Date.digits width n := by
  have hdigit : n / 10 ^ width % 10 < 10 := Nat.mod_lt _ (by decide)
  simp [Date.digits, List.range_succ, ofNat_eq_digitChar hdigit]

theorem length_digits (width n : Nat) : (Date.digits width n).length = width := by
  simp [Date.digits]

theorem digits_isDigit (width n : Nat) : (Date.digits width n).all Char.isDigit = true := by
  induction width with
  | zero => simp [Date.digits]
  | succ width ih => simp [digits_succ, ih, Nat.isDigit_digitChar, Nat.mod_lt]

theorem ofDigitChars_digits (width n start : Nat) :
    Nat.ofDigitChars 10 (Date.digits width n) start = start * 10 ^ width + n % 10 ^ width := by
  induction width generalizing start with
  | zero => simp [Date.digits, Nat.mod_one]
  | succ width ih =>
      have hdigit : n / 10 ^ width % 10 < 10 := Nat.mod_lt _ (by decide)
      calc
        Nat.ofDigitChars 10 (Date.digits (width + 1) n) start
            = Nat.ofDigitChars 10 (Date.digits width n) (10 * start + n / 10 ^ width % 10) := by
              rw [digits_succ, Nat.ofDigitChars_cons_digitChar_of_lt_ten hdigit]
        _ = (10 * start + n / 10 ^ width % 10) * 10 ^ width + n % 10 ^ width := ih _
        _ = start * 10 ^ (width + 1) + (n % 10 ^ width + 10 ^ width * (n / 10 ^ width % 10)) := by
              rw [Nat.pow_succ]
              ring
        _ = start * 10 ^ (width + 1) + n % 10 ^ (width + 1) := by
              rw [Nat.mod_pow_succ]

/-- A number that fits its field is read back. -/
theorem takeDigits_digits {width n : Nat} (hn : n < 10 ^ width) (rest : List Char) :
    takeDigits width (Date.digits width n ++ rest) = some (n, rest) := by
  have htake : (Date.digits width n ++ rest).take width = Date.digits width n := by
    rw [List.take_append_of_le_length (length_digits width n).ge, List.take_of_length_le]
    exact (length_digits width n).le
  have hdrop : (Date.digits width n ++ rest).drop width = rest := by
    rw [List.drop_append_of_le_length (length_digits width n).ge, List.drop_of_length_le]
    · rfl
    · exact (length_digits width n).le
  rw [takeDigits, htake, hdrop, if_pos ⟨length_digits width n, digits_isDigit width n⟩, ofDigitChars_digits,
    Nat.zero_mul, Nat.zero_add, Nat.mod_eq_of_lt hn]

namespace CalendarDate

theorem month_lt (date : CalendarDate) : date.month < 100 := by
  have h := date.exists_day
  simp only [isDay, Bool.and_eq_true, decide_eq_true_eq] at h
  omega

theorem dayOfMonth_lt (date : CalendarDate) : date.dayOfMonth < 100 := by
  have h := date.exists_day
  have hmonth := daysInMonth_le date.year date.month
  simp only [isDay, Bool.and_eq_true, decide_eq_true_eq] at h
  omega

/-- A year of four digits has no sign. -/
theorem takeYear_digits (date : CalendarDate) (rest : List Char) :
    takeYear (Date.digits 4 date.year ++ rest) = some ((date.year : Int), rest) := by
  have hyear : date.year < 10 ^ 4 := Nat.lt_of_le_of_lt date.fourDigits (by decide)
  have hread := takeDigits_digits hyear rest
  have hfirst : Nat.digitChar (date.year / 10 ^ 3 % 10) ≠ '+' ∧
      Nat.digitChar (date.year / 10 ^ 3 % 10) ≠ '-' := by
    have hall : ∀ d : Fin 10, Nat.digitChar d ≠ '+' ∧ Nat.digitChar d ≠ '-' := by decide
    exact hall ⟨_, Nat.mod_lt _ (by decide)⟩
  rw [digits_succ, List.cons_append] at hread ⊢
  unfold takeYear
  split
  · rename_i heq
    exact absurd (List.cons.inj heq).1 hfirst.1
  · rename_i heq
    exact absurd (List.cons.inj heq).1 hfirst.2
  · rw [hread]
    rfl

theorem takeDate_chars (date : CalendarDate) :
    takeDate date.chars = some (date.number, []) := by
  have hmonth := @takeDigits_digits 2 _ date.month_lt ('-' :: Date.digits 2 date.dayOfMonth)
  have hday := @takeDigits_digits 2 _ date.dayOfMonth_lt []
  rw [List.append_nil] at hday
  unfold takeDate chars
  rw [takeYear_digits]
  simp [optionalField, hmonth, hday, date.exists_day, number]

/-- A date with a year of four digits is far from the ends of time. -/
theorem timeClip_number (date : CalendarDate) :
    timeClip (date.number * msPerDay) = some (date.number * msPerDay) := by
  have hmonths : daysBeforeMonth date.year date.month ≤ 31 * date.month := by
    have hsum := List.sum_le_card_nsmul
      ((List.range (date.month - 1)).map fun i => daysInMonth date.year (i + 1)) 31 (by
        intro x hx
        rcases List.mem_map.1 hx with ⟨i, _, rfl⟩
        exact daysInMonth_le _ _)
    have hlen : daysBeforeMonth date.year date.month ≤ (date.month - 1) * 31 := by
      simpa [daysBeforeMonth] using hsum
    omega
  have hmonth := date.month_lt
  have hday := date.dayOfMonth_lt
  have hyear := date.fourDigits
  refine if_pos ?_
  unfold number day dayFromYear msPerDay
  omega

/-- The text of a calendar date is read as its first millisecond, in universal time. -/
theorem parse_text (runtime : Runtime) (date : CalendarDate) :
    Date.parse runtime date.text = some (date.number * msPerDay) := by
  have hchars : date.text.toList = date.chars := by
    simp [text]
  simp only [Date.parse, isoTime?, hchars, date.takeDate_chars, date.timeClip_number]

end CalendarDate

section Examples

/-- Universal time, and no other format. -/
def utc : Runtime := ⟨id, fun _ => none⟩

example : Date.parse utc "2024-02-29T12:34:56.007Z" = some 1709210096007 := by decide +kernel
example : Date.parse utc "2026-09-07T06:15+05:30" = Date.parse utc "2026-09-07T00:45:00Z" := by
  decide +kernel
example : Date.parse utc "2026-02-29" = none := by decide +kernel

end Examples

end Js
end IdentityBillpay
