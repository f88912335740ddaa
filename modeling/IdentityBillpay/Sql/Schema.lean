import Mathlib.Data.List.Basic
import Mathlib.Data.List.Nodup

/-!
# Schema — databases whose schema changes

A database is a list of tables with their rows. A statement is carried out on the tables, and is
refused if the tables that it would leave are not valid: a name given twice, a `NULL` where none may
be, two rows with one key, a reference to nothing.

* `Value`, `Column`, `Layout`, `Table` — tables and their rows;
* `Table.Valid`, `Valid`, `Database` — what holds of the tables of a database;
* `Statement`, `Statement.result`, `exec` — a statement, and what comes of it;
* `through`, `runScript` — a list of statements. There is no way back over a change of the schema:
  a script that stops leaves what it has done.
-/

namespace IdentityBillpay
namespace Sql
namespace Schema

/-! ## Rows and tables -/

inductive Value
  | null
  | text (s : String)
  | int (n : Int)
  /-- In units of the column's scale. -/
  | decimal (units : Int)
  | instant (t : Nat)
  deriving DecidableEq

inductive ColumnType
  | char (length : Nat)
  | varchar (length : Nat)
  | text
  | json
  | int
  | tinyint
  | decimal (precision scale : Nat)
  | date
  | datetime (precision : Nat)
  | timestamp
  deriving DecidableEq

/-- A value that a column of the type can hold. -/
def ColumnType.fits : ColumnType → Value → Bool
  | .char length, .text s | .varchar length, .text s => s.length ≤ length
  | .text, .text _ | .json, .text _ => true
  | .int, .int n => -2147483648 ≤ n && n < 2147483648
  | .tinyint, .int n => -128 ≤ n && n < 128
  | .decimal precision _, .decimal units => units.natAbs < Nat.pow 10 precision
  | .date, .instant _ | .datetime _, .instant _ | .timestamp, .instant _ => true
  | _, _ => false

inductive Default
  | literal (value : Value)
  | currentTimestamp
  | uuid
  deriving DecidableEq

structure Column where
  name : String
  type : ColumnType
  nullable : Bool := false
  default : Option Default := none
  onUpdateTimestamp : Bool := false
  deriving DecidableEq

def Column.accepts (c : Column) (v : Value) : Bool :=
  if v = .null then c.nullable else c.type.fits v

/-- A primary key is a unique index too. -/
structure Index where
  name : String
  unique : Bool
  columns : List String
  deriving DecidableEq

structure ForeignKey where
  name : String
  column : String
  table : String
  references : String
  onDeleteCascade : Bool
  deriving DecidableEq

/-- A table without its rows. -/
structure Layout where
  name : String
  columns : List Column
  indexes : List Index
  foreignKeys : List ForeignKey := []
  deriving DecidableEq

abbrev Row := List (String × Value)

/-- A cell that is not there counts as `NULL`. -/
def Row.cell (r : Row) (name : String) : Value :=
  ((r.find? fun cell => cell.1 == name).map Prod.snd).getD .null

def Row.set (r : Row) (name : String) (v : Value) : Row :=
  r.map fun cell => if cell.1 = name then (name, v) else cell

structure Table extends Layout where
  rows : List Row
  deriving DecidableEq

/-- The index can be used to look up the column. -/
def Table.Supports (t : Table) (column : String) : Prop :=
  ∃ i ∈ t.indexes, i.columns.head? = some column

instance (t : Table) (column : String) : Decidable (t.Supports column) :=
  inferInstanceAs (Decidable (∃ i ∈ t.indexes, _))

section Valid

-- Texts are compared by the sort keys that the collation gives them.
variable (collate : String → String)

def sortKey : Value → Value
  | .text s => .text (collate s)
  | v => v

/-- The key of a row; a row with a `NULL` in it is not compared with others. -/
def Index.key? (i : Index) (r : Row) : Option (List Value) :=
  if .null ∈ i.columns.map r.cell then none
  else some (i.columns.map fun column => sortKey collate (r.cell column))

/-- No two rows have the same key. -/
def Index.Separates (i : Index) (rows : List Row) : Prop :=
  (rows.filterMap (i.key? collate)).Nodup

instance (i : Index) (rows : List Row) : Decidable (i.Separates collate rows) :=
  inferInstanceAs (Decidable (List.Nodup _))

structure Table.Valid (t : Table) : Prop where
  columns : t.columns ≠ []
  columnNames : (t.columns.map Column.name).Nodup
  indexNames : (t.indexes.map Index.name).Nodup
  indexed : ∀ i ∈ t.indexes, i.columns ≠ [] ∧
    ∀ column ∈ i.columns, column ∈ t.columns.map Column.name
  aligned : ∀ r ∈ t.rows, r.map Prod.fst = t.columns.map Column.name
  typed : ∀ r ∈ t.rows, ∀ c ∈ t.columns, c.accepts (r.cell c.name) = true
  separated : ∀ i ∈ t.indexes, i.unique = true → i.Separates collate t.rows

instance (t : Table) : Decidable (t.Valid collate) :=
  decidable_of_iff (t.columns ≠ [] ∧ (t.columns.map Column.name).Nodup ∧
      (t.indexes.map Index.name).Nodup ∧
      (∀ i ∈ t.indexes, i.columns ≠ [] ∧
        ∀ column ∈ i.columns, column ∈ t.columns.map Column.name) ∧
      (∀ r ∈ t.rows, r.map Prod.fst = t.columns.map Column.name) ∧
      (∀ r ∈ t.rows, ∀ c ∈ t.columns, c.accepts (r.cell c.name) = true) ∧
      ∀ i ∈ t.indexes, i.unique = true → i.Separates collate t.rows)
    ⟨fun ⟨h₁, h₂, h₃, h₄, h₅, h₆, h₇⟩ => ⟨h₁, h₂, h₃, h₄, h₅, h₆, h₇⟩,
      fun h => ⟨h.1, h.2, h.3, h.4, h.5, h.6, h.7⟩⟩

/-- Both columns are indexed, and what is referred to is there. -/
def ForeignKey.Holds (tables : List Table) (t : Table) (fk : ForeignKey) : Prop :=
  t.Supports fk.column ∧
    ∃ t' ∈ tables, t'.name = fk.table ∧ t'.Supports fk.references ∧
      ∀ r ∈ t.rows, r.cell fk.column = .null ∨
        ∃ r' ∈ t'.rows, sortKey collate (r'.cell fk.references) = sortKey collate (r.cell fk.column)

instance (tables : List Table) (t : Table) (fk : ForeignKey) :
    Decidable (fk.Holds collate tables t) :=
  inferInstanceAs (Decidable (_ ∧ ∃ t' ∈ tables, _))

structure Valid (tables : List Table) : Prop where
  names : (tables.map fun t => t.name).Nodup
  each : ∀ t ∈ tables, t.Valid collate
  references : ∀ t ∈ tables, ∀ fk ∈ t.foreignKeys, fk.Holds collate tables t

instance (tables : List Table) : Decidable (Valid collate tables) :=
  decidable_of_iff ((tables.map fun t => t.name).Nodup ∧ (∀ t ∈ tables, t.Valid collate) ∧
      ∀ t ∈ tables, ∀ fk ∈ t.foreignKeys, fk.Holds collate tables t)
    ⟨fun ⟨h₁, h₂, h₃⟩ => ⟨h₁, h₂, h₃⟩, fun h => ⟨h.1, h.2, h.3⟩⟩

structure Database where
  tables : List Table
  valid : Valid collate tables

end Valid

/-! ## Statements -/

inductive Expr
  | column (name : String)
  | text (s : String)
  /-- `CONCAT(left, right)`. -/
  | concat (left right : Expr)
  /-- `IF(name = n, yes, no)`. -/
  | ifEqual (name : String) (n : Int) (yes no : Expr)
  deriving DecidableEq

def Expr.eval (r : Row) : Expr → Value
  | .column name => r.cell name
  | .text s => .text s
  | .concat left right =>
      match left.eval r, right.eval r with
      | .text s, .text s' => .text (s ++ s')
      | _, _ => .null
  | .ifEqual name n yes no => if r.cell name = .int n then yes.eval r else no.eval r

inductive Condition
  | always
  /-- `column IS NULL`. -/
  | isNull (column : String)
  deriving DecidableEq

def Condition.holds (r : Row) : Condition → Bool
  | .always => true
  | .isNull column => r.cell column = .null

inductive Statement
  | createTable (layout : Layout)
  | dropTable (table : String)
  | addColumn (table : String) (column : Column)
  | dropColumn (table column : String)
  /-- `MODIFY column …`, or `CHANGE column column …`. -/
  | changeColumn (table : String) (column : Column)
  | addIndex (table : String) (index : Index)
  | dropIndex (table index : String)
  | update (table column : String) (value : Expr) (condition : Condition)
  deriving DecidableEq

/-! ### What a statement does to its table -/

/-- What a column without a default is filled with when it may not be `NULL`. -/
def ColumnType.implicitDefault : ColumnType → Value
  | .char _ | .varchar _ | .text | .json => .text ""
  | .int | .tinyint => .int 0
  | .decimal _ _ => .decimal 0
  | .date | .datetime _ | .timestamp => .instant 0

/-- What the rows of a table get in a new column; no default that is computed is added to rows. -/
def Column.fill? (c : Column) : Option Value :=
  match c.default with
  | none => some (if c.nullable then .null else c.type.implicitDefault)
  | some (.literal v) => some v
  | some _ => none

/-- `n / d`, rounded; half a unit is rounded away from zero. -/
def roundedDiv (n : Int) (d : Nat) : Int :=
  n.sign * ((2 * n.natAbs + d) / (2 * d) : Nat)

def rescale (units : Int) (scale scale' : Nat) : Int :=
  if scale ≤ scale' then units * (Nat.pow 10 (scale' - scale) : Nat)
  else roundedDiv units (Nat.pow 10 (scale - scale'))

/-- A value that is kept when the type of its column changes. Only decimals are converted. -/
def ColumnType.convert (old new : ColumnType) (v : Value) : Value :=
  match old, new, v with
  | .decimal _ scale, .decimal _ scale', .decimal units => .decimal (rescale units scale scale')
  | _, _, v => v

namespace Table

variable (t : Table)

def addColumn? (c : Column) : Option Table :=
  c.fill?.map fun v =>
    { t with
      columns := t.columns ++ [c]
      rows := t.rows.map fun r => r ++ [(c.name, v)] }

/-- An index loses the column, and goes with its last one. -/
def dropColumn? (column : String) : Option Table :=
  if column ∈ t.columns.map Column.name then
    some { t with
      columns := t.columns.filter fun c => c.name ≠ column
      indexes := (t.indexes.map fun i =>
        { i with columns := i.columns.filter (· ≠ column) }).filter fun i => !i.columns.isEmpty
      rows := t.rows.map fun r => r.filter fun cell => cell.1 ≠ column }
  else none

def changeColumn? (c : Column) : Option Table :=
  (t.columns.find? fun old => old.name == c.name).map fun old =>
    { t with
      columns := t.columns.map fun old => if old.name = c.name then c else old
      rows := t.rows.map fun r => r.set c.name (old.type.convert c.type (r.cell c.name)) }

def addIndex? (i : Index) : Option Table :=
  some { t with indexes := t.indexes ++ [i] }

def dropIndex? (index : String) : Option Table :=
  if index ∈ t.indexes.map Index.name then
    some { t with indexes := t.indexes.filter fun i => i.name ≠ index }
  else none

def update? (column : String) (value : Expr) (condition : Condition) : Option Table :=
  if column ∈ t.columns.map Column.name then
    some { t with
      rows := t.rows.map fun r =>
        if condition.holds r then r.set column (value.eval r) else r }
  else none

end Table

/-- The table of that name is another one now. -/
def replace (name : String) (t : Table) (tables : List Table) : List Table :=
  tables.map fun x => if x.name = name then t else x

def alter (name : String) (f : Table → Option Table) (tables : List Table) :
    Option (List Table) := do
  let t ← tables.find? fun t => t.name == name
  let t' ← f t
  return replace name t' tables

/-- The tables that a statement would leave. -/
def Statement.result : Statement → List Table → Option (List Table)
  | .createTable layout, tables => some (tables ++ [⟨layout, []⟩])
  | .dropTable table, tables =>
      if table ∈ tables.map (fun t => t.name) then some (tables.filter fun t => t.name ≠ table)
      else none
  | .addColumn table column, tables => alter table (fun t => t.addColumn? column) tables
  | .dropColumn table column, tables => alter table (fun t => t.dropColumn? column) tables
  | .changeColumn table column, tables => alter table (fun t => t.changeColumn? column) tables
  | .addIndex table index, tables => alter table (fun t => t.addIndex? index) tables
  | .dropIndex table index, tables => alter table (fun t => t.dropIndex? index) tables
  | .update table column value condition, tables =>
      alter table (fun t => t.update? column value condition) tables

/-! ### Carrying statements out -/

section Scripts

variable {collate : String → String}

def check (tables : List Table) : Option (Database collate) :=
  if h : Valid collate tables then some ⟨tables, h⟩ else none

def exec (s : Statement) (db : Database collate) : Option (Database collate) :=
  (s.result db.tables).bind check

/-- The database after all of the statements, if none is refused. -/
def through (script : List Statement) (db : Database collate) : Option (Database collate) :=
  script.foldlM (fun db s => exec s db) db

/-- The database when the script ends, and whether it has come to its end. -/
def runScript : List Statement → Database collate → Database collate × Bool
  | [], db => (db, true)
  | s :: script, db =>
      match exec s db with
      | some db' => runScript script db'
      | none => (db, false)

end Scripts

end Schema
end Sql
end IdentityBillpay
