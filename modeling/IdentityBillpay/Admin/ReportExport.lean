import IdentityBillpay.Js.Json
import IdentityBillpay.Numeral.Bijective

/-!
# ReportExport — the spreadsheet of a report

`exportExcel` of `report-export.service.ts` makes a worksheet with one column a key of the first row,
and a filter over the header row from `A1` to the last column. The columns are named by
`getColumnLetter`.

* `getColumnLetter` — the loop, over JavaScript numbers: a difference and a quotient are rounded;
* `columnNumber` — a name read as a numeral with the digits `A = 1` to `Z = 26`;
* `loop_eq` — the loop writes the numeral of the column;
* `getColumnLetter_exact` — names and filters up to column `2 ^ 53`.
-/

namespace IdentityBillpay
namespace Admin

open Js (Json)
open Numeral (value numeral)

/-! ## The service -/

/-- The loop of `getColumnLetter`. `number` is a whole number, and the JavaScript number next to the
difference or the quotient takes its place. -/
def columnLoop : Nat → Nat → List Char → Option (List Char)
  | 0, _, _ => none
  | fuel + 1, number, result =>
      if 0 < number then do
        -- `number - 1` and `Math.floor(... / 26)` are rounded to binary64.
        let previous ← (JsNumber.ofRatio false (number - 1) 1).floor?
        let remainder := previous % 26
        let quotient ← (JsNumber.ofRatio false previous 26).floor?
        columnLoop fuel quotient (Char.ofNat (65 + remainder) :: result)
      else some result

def getColumnLetter (fuel columnNumber : Nat) : Option String :=
  (columnLoop fuel columnNumber []).map String.ofList

/-- A row of a report: its keys in their order, with the values. -/
abbrev Row := List (String × Json)

structure Column where
  header : String
  key : String
  width : Nat

structure AutoFilter where
  «from» : String
  «to» : String
  deriving DecidableEq

structure Worksheet where
  name : String
  columns : List Column
  rows : List Row
  bold : Bool
  autoFilter : Option AutoFilter

/-- The response: its headers and the workbook with one worksheet. -/
structure ExcelFile where
  contentType : String
  contentDisposition : String
  worksheet : Worksheet

def getSheetName : String → String
  | "daily-summary" => "Daily Summary"
  | "failed" => "Failed Transactions"
  | "high-value" => "High Value"
  | "branch-wise" => "Branch Wise"
  | "channel-wise" => "Channel Wise"
  | _ => "Transaction Report"

section Export

variable (toUpperCase : String → String) (stringify : Json → String)

def flattenValue : Json → Json
  | .array items => .string (stringify (.array items))
  | .object members => .string (stringify (.object members))
  | value => value

def flattenData (data : List Row) : List Row :=
  data.map fun item => item.map fun (key, value) => (key, flattenValue stringify value)

/-- The worksheet, which has columns only when there is a row. -/
def makeWorksheet (fuel : Nat) (name : String) : List Row → Option Worksheet
  -- An empty report has a sheet without columns.
  | [] => some ⟨name, [], [], false, none⟩
  | row :: rows => do
      let headers := row.map Prod.fst
      let last ← getColumnLetter fuel headers.length
      some {
        name
        columns := headers.map fun header => ⟨toUpperCase header, header, 22⟩
        rows := row :: rows
        bold := true
        autoFilter := some ⟨"A1", last ++ "1"⟩ }

def exportExcel (fuel : Nat) (reportType : String) (data : List Row) : Option ExcelFile := do
  let worksheet ←
    makeWorksheet toUpperCase fuel (getSheetName reportType) (flattenData stringify data)
  some {
    contentType := "application/vnd.openxmlformats-officedocument.spreadsheetml.sheet"
    contentDisposition := "attachment; filename=\"" ++ reportType ++ ".xlsx\""
    worksheet }

end Export

/-! ## Names of columns -/

/-- The letter of a digit. -/
def letter (d : Nat) : Char :=
  Char.ofNat (64 + d)

/-- The column with the name: the letters are the digits of a numeral. -/
def columnNumber (name : String) : Nat :=
  value 26 (name.toList.map fun c => c.toNat - 64)

/-- A name of letters, not empty, that reads back as the column. -/
structure Names (name : String) (n : Nat) : Prop where
  nonempty : name ≠ ""
  letters : ∀ c ∈ name.toList, 'A' ≤ c ∧ c ≤ 'Z'
  reads : columnNumber name = n

/-- The name that the numeral of the column spells. -/
def columnName (n : Nat) : String :=
  String.ofList ((numeral 26 n).map letter)

theorem toNat_letter {d : Nat} (hd : d ≤ 26) : (letter d).toNat = 64 + d := by
  have hvalid : (64 + d).isValidChar := Or.inl (by omega)
  have hletter : letter d = Char.ofNatAux (64 + d) hvalid := dif_pos hvalid
  rw [hletter]
  rfl

theorem columnNumber_columnName (n : Nat) : columnNumber (columnName n) = n := by
  have hdigits : (numeral 26 n).map (fun d => (letter d).toNat - 64) = numeral 26 n := by
    refine (List.map_congr_left fun d hd => ?_).trans (List.map_id _)
    have hle := (Numeral.isNumeral_numeral (b := 26) (by omega) n d hd).2
    rw [toNat_letter hle, Nat.add_sub_cancel_left, id]
  calc columnNumber (columnName n) = value 26 (numeral 26 n) := by
        rw [columnNumber, columnName, String.toList_ofList, List.map_map]
        exact congrArg (value 26) hdigits
    _ = n := Numeral.value_numeral n

theorem columnName_names {n : Nat} (hpos : 1 ≤ n) : Names (columnName n) n where
  nonempty hempty := by
    have hread := columnNumber_columnName n
    rw [hempty] at hread
    exact Nat.ne_of_gt hpos hread.symm
  letters c hc := by
    rw [columnName, String.toList_ofList] at hc
    rcases List.mem_map.1 hc with ⟨d, hd, rfl⟩
    obtain ⟨hone, hle⟩ := Numeral.isNumeral_numeral (b := 26) (by omega) n d hd
    have hcode := toNat_letter hle
    exact ⟨show 65 ≤ (letter d).toNat by omega, show (letter d).toNat ≤ 90 by omega⟩
  reads := columnNumber_columnName n

theorem length_columnName (n : Nat) : (columnName n).length = (numeral 26 n).length := by
  simp [columnName]

/-! ## The loop -/

theorem lt_carry {previous : Nat} (hle : previous + 1 ≤ 2 ^ 53) :
    previous < 2 * JsNumber.hiddenBit :=
  calc previous < 2 ^ 53 := hle
    _ = 2 * JsNumber.hiddenBit := by rw [JsNumber.hiddenBit, ← Nat.pow_succ']

/-- A whole number below `2 ^ 53` is a JavaScript number itself. -/
theorem difference_exact {previous : Nat} (hlt : previous < 2 * JsNumber.hiddenBit) :
    (JsNumber.ofRatio false previous 1).floor? = some previous := by
  have hwhole := JsNumber.floor?_ofRatio hlt Nat.one_pos (by decide)
  rwa [Nat.div_one] at hwhole

theorem quotient_exact {previous : Nat} (hlt : previous < 2 * JsNumber.hiddenBit) :
    (JsNumber.ofRatio false previous 26).floor? = some (previous / 26) :=
  JsNumber.floor?_ofRatio hlt (by omega) (by decide)

theorem columnLoop_round {fuel number previous quotient : Nat} (hpos : 0 < number)
    (hprevious : (JsNumber.ofRatio false (number - 1) 1).floor? = some previous)
    (hquotient : (JsNumber.ofRatio false previous 26).floor? = some quotient)
    (result : List Char) :
    columnLoop (fuel + 1) number result =
      columnLoop fuel quotient (Char.ofNat (65 + previous % 26) :: result) := by
  rw [columnLoop, if_pos hpos, hprevious, Option.bind_eq_bind, Option.bind_some, hquotient]
  simp only [Option.bind_some]

/-- By induction on the fuel: each round writes the last digit that is left in front of the letters
already written. -/
theorem columnLoop_eq {fuel number : Nat} (hle : number ≤ 2 ^ 53) (hfuel : number < fuel)
    (result : List Char) :
    columnLoop fuel number result = some ((numeral 26 number).map letter ++ result) := by
  induction fuel generalizing number result with
  | zero => exact absurd hfuel (Nat.not_lt_zero number)
  | succ fuel ih =>
      cases number with
      | zero => rw [columnLoop, if_neg (Nat.lt_irrefl 0), Numeral.numeral_zero, List.map_nil,
          List.nil_append]
      | succ previous =>
          have hsmall := lt_carry hle
          have hround := @columnLoop_round fuel (previous + 1) previous (previous / 26)
            (Nat.succ_pos previous) (difference_exact hsmall) (quotient_exact hsmall) result
          have hsmaller : previous / 26 ≤ previous := Nat.div_le_self previous 26
          have hletter : Char.ofNat (65 + previous % 26) = letter (previous % 26 + 1) := by
            rw [letter, show 64 + (previous % 26 + 1) = 65 + previous % 26 by omega]
          calc columnLoop (fuel + 1) (previous + 1) result
              = columnLoop fuel (previous / 26) (letter (previous % 26 + 1) :: result) := by
                rw [hround, hletter]
            _ = some ((numeral 26 (previous / 26)).map letter ++
                  letter (previous % 26 + 1) :: result) := ih (by omega) (by omega) _
            _ = some ((numeral 26 (previous + 1)).map letter ++ result) := by
                rw [Numeral.numeral_succ, List.map_append, List.append_assoc, List.map_cons,
                  List.map_nil, List.cons_append, List.nil_append]

theorem getColumnLetter_eq {fuel n : Nat} (hle : n ≤ 2 ^ 53) (hfuel : n < fuel) :
    getColumnLetter fuel n = some (columnName n) := by
  simp [getColumnLetter, columnName, columnLoop_eq hle hfuel]

/-! ## Exact names -/

/-- A column with a longer name comes after one with a shorter name. -/
theorem lt_of_shorter {m n : Nat} (h : (columnName m).length < (columnName n).length) : m < n := by
  rw [length_columnName, length_columnName] at h
  exact Numeral.lt_of_length_lt h

theorem columnName_injective {m n : Nat} (h : columnName m = columnName n) : m = n :=
  calc m = columnNumber (columnName m) := (columnNumber_columnName m).symm
    _ = columnNumber (columnName n) := by rw [h]
    _ = n := columnNumber_columnName n

/-- One column a key of the first row, and a filter up to the last of them. -/
theorem exportExcel_eq (toUpperCase : String → String) (stringify : Json → String) {fuel : Nat}
    (reportType : String) {item : Row} (items : List Row) (hle : item.length ≤ 2 ^ 53)
    (hfuel : item.length < fuel) :
    ∃ file, exportExcel toUpperCase stringify fuel reportType (item :: items) = some file ∧
      file.worksheet.columns.length = item.length ∧
      file.worksheet.autoFilter = some ⟨"A1", columnName item.length ++ "1"⟩ := by
  have hname := getColumnLetter_eq hle hfuel
  simp [exportExcel, flattenData, makeWorksheet, hname]

/-- For every column up to `2 ^ 53`, whatever the engine does with the texts of a report: the loop
ends with the name of the column, no other column has the name and one with a shorter name comes
before it, and the filter of a report with so many columns ends at the last of them. -/
theorem getColumnLetter_exact (toUpperCase : String → String) (stringify : Json → String) {n : Nat}
    (hpos : 1 ≤ n) (hle : n ≤ 2 ^ 53) :
    ∃ name, (∀ fuel, n < fuel → getColumnLetter fuel n = some name) ∧ Names name n ∧
      (∀ m other, 1 ≤ m → m ≤ 2 ^ 53 →
        (∀ fuel, m < fuel → getColumnLetter fuel m = some other) →
        (other = name → m = n) ∧ (other.length < name.length → m < n)) ∧
      ∀ fuel reportType item items, n < fuel → item.length = n →
        ∃ file, exportExcel toUpperCase stringify fuel reportType (item :: items) = some file ∧
          file.worksheet.columns.length = n ∧
          file.worksheet.autoFilter = some ⟨"A1", name ++ "1"⟩ := by
  refine ⟨columnName n, fun fuel hfuel => getColumnLetter_eq hle hfuel, columnName_names hpos,
    ?_, ?_⟩
  · intro m other _ hmle hother
    have hname : columnName m = other := by
      have hloop := hother (m + 1) (Nat.lt_succ_self m)
      rw [getColumnLetter_eq hmle (Nat.lt_succ_self m)] at hloop
      exact Option.some.inj hloop
    rw [← hname]
    exact ⟨columnName_injective, lt_of_shorter⟩
  · rintro fuel reportType item items hfuel rfl
    exact exportExcel_eq toUpperCase stringify reportType items hle hfuel

theorem getColumnLetter_after_z :
    ∃ name, (∀ fuel, 27 < fuel → getColumnLetter fuel 27 = some name) ∧ Names name 27 := by
  obtain ⟨name, hname, hexact, -⟩ :=
    getColumnLetter_exact id (fun _ => "") (n := 27) (by decide) (by decide)
  exact ⟨name, hname, hexact⟩

/-- The next JavaScript number after `2 ^ 53` gets the name of the column before it. -/
theorem getColumnLetter_beyond :
    (JsNumber.ofRatio false 9007199254740994 1).floor? = some 9007199254740994 ∧
      ((getColumnLetter 20 9007199254740994).map columnNumber) = some 9007199254740993 := by
  decide +kernel

end Admin
end IdentityBillpay
