import IdentityBillpay.Sql.Scripts

/-!
# Alterations — scripts about one table

If no table refers to another one, whether the statements about it are refused is a matter of that
table alone.

* `Statement.Alters`, `Statement.alter?` — a statement, seen from its table;
* `Table.through` — a table on its way through a script;
* `Alone`, `Alone.through`, `Alone.refused` — the database around it;
* `runScript_stops` — where a script stops.
-/

namespace IdentityBillpay
namespace Sql
namespace Schema

/-- The statement changes a table that stays. -/
def Statement.Alters : Statement → Prop
  | .createTable _ | .dropTable _ => False
  | _ => True

instance (s : Statement) : Decidable s.Alters := by
  cases s <;> unfold Statement.Alters <;> infer_instance

/-- What a statement makes of its table. -/
def Statement.alter? : Statement → Table → Option Table
  | .createTable _, _ | .dropTable _, _ => none
  | .addColumn _ column, t => t.addColumn? column
  | .dropColumn _ column, t => t.dropColumn? column
  | .changeColumn _ column, t => t.changeColumn? column
  | .addIndex _ index, t => t.addIndex? index
  | .dropIndex _ index, t => t.dropIndex? index
  | .update _ column value condition, t => t.update? column value condition

theorem result_of_alters {s : Statement} (hs : s.Alters) (tables : List Table) :
    s.result tables = alter s.table s.alter? tables := by
  cases s with
  | createTable layout => exact hs.elim
  | dropTable table => exact hs.elim
  | _ => rfl

theorem alter?_name {s : Statement} {t t' : Table} (h : s.alter? t = some t') :
    t'.name = t.name := by
  cases s with
  | createTable layout => cases h
  | dropTable table => cases h
  | addColumn table column => exact addColumn_name h
  | dropColumn table column => exact dropColumn_name h
  | changeColumn table column => exact changeColumn_name h
  | addIndex table index => exact addIndex_name h
  | dropIndex table index => exact dropIndex_name h
  | update table column value condition => exact update_name h

/-- No statement adds a foreign key, or takes one away. -/
theorem alter?_foreignKeys {s : Statement} {t t' : Table} (h : s.alter? t = some t') :
    t'.foreignKeys = t.foreignKeys := by
  cases s with
  | createTable layout => cases h
  | dropTable table => cases h
  | addColumn table column =>
      rcases Option.map_eq_some_iff.1 h with ⟨v, _, rfl⟩
      rfl
  | changeColumn table column =>
      rcases Option.map_eq_some_iff.1 h with ⟨old, _, rfl⟩
      rfl
  | addIndex table index =>
      cases h
      rfl
  | dropColumn table column =>
      rcases Option.ite_none_right_eq_some.1 h with ⟨_, hsome⟩
      cases hsome
      rfl
  | dropIndex table index =>
      rcases Option.ite_none_right_eq_some.1 h with ⟨_, hsome⟩
      cases hsome
      rfl
  | update table column value condition =>
      rcases Option.ite_none_right_eq_some.1 h with ⟨_, hsome⟩
      cases hsome
      rfl

section Alone

variable {collate : String → String} {db db' : Database collate} {t t' : Table}

variable (collate) in
/-- The table after one statement, if it is not refused. -/
def Table.step (t : Table) (s : Statement) : Option Table :=
  (s.alter? t).bind fun t' => if t'.Valid collate then some t' else none

variable (collate) in
def Table.through (script : List Statement) (t : Table) : Option Table :=
  script.foldlM (Table.step collate) t

theorem Table.step_eq_some {s : Statement} :
    t.step collate s = some t' ↔ s.alter? t = some t' ∧ t'.Valid collate := by
  rw [Table.step, Option.bind_eq_some_iff]
  constructor
  · rintro ⟨t'', halter, hcheck⟩
    rcases Option.ite_none_right_eq_some.1 hcheck with ⟨hvalid, hsame⟩
    cases hsame
    exact ⟨halter, hvalid⟩
  · rintro ⟨halter, hvalid⟩
    exact ⟨t', halter, if_pos hvalid⟩

theorem Table.through_cons {s : Statement} {script : List Statement} :
    t.through collate (s :: script) =
      (t.step collate s).bind fun t' => t'.through collate script :=
  List.foldlM_cons

theorem Table.through_step {s : Statement} {script : List Statement}
    (halter : s.alter? t = some t') (hvalid : t'.Valid collate) :
    t.through collate (s :: script) = t'.through collate script := by
  rw [Table.through_cons, Table.step_eq_some.2 ⟨halter, hvalid⟩]
  rfl

theorem Table.through_append {script script' : List Statement} :
    t.through collate (script ++ script') =
      (t.through collate script).bind fun t' => t'.through collate script' :=
  List.foldlM_append

theorem Table.Valid.through {script : List Statement} (ht : t.Valid collate)
    (h : t.through collate script = some t') : t'.Valid collate := by
  induction script generalizing t with
  | nil =>
      cases h
      exact ht
  | cons s script ih =>
      rw [Table.through_cons] at h
      rcases Option.bind_eq_some_iff.1 h with ⟨t₁, hstep, hrest⟩
      exact ih (Table.step_eq_some.1 hstep).2 hrest

theorem Table.through_name {script : List Statement} (h : t.through collate script = some t') :
    t'.name = t.name := by
  induction script generalizing t with
  | nil =>
      cases h
      rfl
  | cons s script ih =>
      rw [Table.through_cons] at h
      rcases Option.bind_eq_some_iff.1 h with ⟨t₁, hstep, hrest⟩
      exact (ih hrest).trans (alter?_name (Table.step_eq_some.1 hstep).1)

/-- A new column that may be `NULL` is never refused. -/
theorem Table.through_addNullable {table : String} {c : Column} (h : t.Valid collate)
    (hfresh : c.name ∉ t.columns.map Column.name) (hnullable : c.nullable = true)
    (hdefault : c.default = none) :
    t.through collate [.addColumn table c] =
      some { t with
        columns := t.columns ++ [c]
        rows := t.rows.map fun r => r ++ [(c.name, .null)] } := by
  have hfill : c.fill? = some .null := by
    rw [Column.fill?, hdefault, hnullable]
    rfl
  have hadd : (Statement.addColumn table c).alter? t = some { t with
      columns := t.columns ++ [c]
      rows := t.rows.map fun r => r ++ [(c.name, .null)] } := by
    rw [Statement.alter?, Table.addColumn?, hfill]
    rfl
  have hvalid := h.addColumn hfresh hfill (by rw [Column.accepts, if_pos rfl, hnullable]) hadd
  exact Table.through_step hadd hvalid

/-- A table without foreign keys that no table refers to. -/
structure Alone (db : Database collate) (t : Table) : Prop where
  mem : t ∈ db.tables
  noKeys : t.foreignKeys = []
  unreferred : ∀ x ∈ db.tables, ∀ fk ∈ x.foreignKeys, fk.table ≠ t.name

/-- One statement. -/
theorem Alone.step {s : Statement} (hs : s.Alters) (htable : s.table = t.name) (h : Alone db t)
    (hstep : t.step collate s = some t') :
    ∃ db', exec s db = some db' ∧ db'.tables = replace t.name t' db.tables ∧ Alone db' t' := by
  rcases Table.step_eq_some.1 hstep with ⟨halter, hvalid⟩
  have hname := alter?_name halter
  have hkeys : t'.foreignKeys = [] := (alter?_foreignKeys halter).trans h.noKeys
  have htables := (db.valid.replace h.mem hname hkeys h.unreferred).2 hvalid
  have hmem : ∀ x, x ∈ replace t.name t' db.tables ↔ x = t' ∨ (x ∈ db.tables ∧ x.name ≠ t.name) :=
    fun x => mem_replace ⟨t, h.mem, rfl⟩
  refine ⟨⟨_, htables⟩, exec_eq_some.2 ?_, rfl, (hmem t').2 (.inl rfl), hkeys, ?_⟩
  · rw [result_of_alters hs]
    exact (alter_eq_some db.valid.names).2 ⟨t, h.mem, htable.symm, t', halter, by rw [htable]⟩
  · intro x hx fk hfk
    rw [hname]
    rcases (hmem x).1 hx with rfl | ⟨hold, _⟩
    · rw [hkeys] at hfk
      exact absurd hfk List.not_mem_nil
    · exact h.unreferred x hold fk hfk

/-- A statement that the table does not survive. -/
theorem Alone.refused {s : Statement} (hs : s.Alters) (htable : s.table = t.name) (h : Alone db t)
    (hstep : t.step collate s = none) : exec s db = none := by
  cases hexec : exec s db with
  | none => rfl
  | some db' =>
      have hresult := exec_eq_some.1 hexec
      rw [result_of_alters hs] at hresult
      rcases (alter_eq_some db.valid.names).1 hresult with ⟨x, hx, hname, t', halter, htables⟩
      have hsame : x = t :=
        List.inj_on_of_nodup_map db.valid.names hx h.mem (hname.trans htable)
      rw [hsame] at halter
      have hmem : t' ∈ db'.tables := by
        rw [htables]
        exact (mem_replace ⟨x, hx, hname⟩).2 (.inl rfl)
      rw [Table.step_eq_some.2 ⟨halter, db'.valid.each t' hmem⟩] at hstep
      cases hstep

/-- A whole script. -/
theorem Alone.through {script : List Statement}
    (hscript : ∀ s ∈ script, s.Alters ∧ s.table = t.name) (h : Alone db t)
    (hthrough : t.through collate script = some t') :
    ∃ db', Schema.through script db = some db' ∧ db'.tables = replace t.name t' db.tables ∧
      Alone db' t' := by
  induction script generalizing db t with
  | nil =>
      cases hthrough
      exact ⟨db, rfl, (replace_self db.valid.names h.mem).symm, h⟩
  | cons s script ih =>
      rw [Table.through_cons] at hthrough
      rcases Option.bind_eq_some_iff.1 hthrough with ⟨t₁, hstep, hrest⟩
      have hfirst := hscript s List.mem_cons_self
      rcases h.step hfirst.1 hfirst.2 hstep with ⟨db₁, hexec, htables₁, halone⟩
      have hname := alter?_name (Table.step_eq_some.1 hstep).1
      have hlater : ∀ s' ∈ script, s'.Alters ∧ s'.table = t₁.name := by
        intro s' hs'
        rw [hname]
        exact hscript s' (List.mem_cons_of_mem s hs')
      rcases ih hlater halone hrest with ⟨db', hdone, htables, halone'⟩
      refine ⟨db', ?_, ?_, halone'⟩
      · rw [Schema.through_cons, hexec]
        exact hdone
      · rw [htables, htables₁, hname, replace_replace hname]

/-! ### Databases without foreign keys -/

def Database.Free (db : Database collate) : Prop :=
  ∀ t ∈ db.tables, t.foreignKeys = []

theorem Database.Free.alone (h : db.Free) (ht : t ∈ db.tables) : Alone db t := by
  refine ⟨ht, h t ht, fun x hx fk hfk => ?_⟩
  rw [h x hx] at hfk
  exact absurd hfk List.not_mem_nil

/-- A script about one table, and the rest of the database. -/
theorem Database.Free.through {script : List Statement} {name : String} (h : db.Free)
    (hscript : ∀ s ∈ script, s.Alters ∧ s.table = name) (ht : db.table? name = some t)
    (hthrough : t.through collate script = some t') :
    ∃ db', Schema.through script db = some db' ∧ db'.Free ∧ db'.names = db.names ∧
      db'.table? name = some t' ∧ ∀ other, other ≠ name → db'.table? other = db.table? other := by
  rcases table?_eq_some.1 ht with ⟨hmem, rfl⟩
  rcases (h.alone hmem).through hscript hthrough with ⟨db', hdone, htables, halone⟩
  have hname := Table.through_name hthrough
  refine ⟨db', hdone, fun x hx => ?_, ?_, table?_eq_some.2 ⟨halone.mem, hname⟩,
    fun other hother => ?_⟩
  · rw [htables] at hx
    rcases (mem_replace ⟨t, hmem, rfl⟩).1 hx with rfl | ⟨hold, _⟩
    · exact halone.noKeys
    · exact h x hold
  · rw [Database.names, htables]
    exact replace_names hname
  · rw [Database.table?, htables]
    exact find_replace hname hother.symm

theorem Table.Valid.empty {layout : Layout} (hcolumns : layout.columns ≠ [])
    (hnames : (layout.columns.map Column.name).Nodup)
    (hindexes : (layout.indexes.map Index.name).Nodup)
    (hindexed : ∀ i ∈ layout.indexes, i.columns ≠ [] ∧
      ∀ column ∈ i.columns, column ∈ layout.columns.map Column.name) :
    Table.Valid collate ⟨layout, []⟩ :=
  ⟨hcolumns, hnames, hindexes, hindexed, fun _ hr => absurd hr List.not_mem_nil,
    fun _ hr => absurd hr List.not_mem_nil, fun _ _ _ => List.nodup_nil⟩

/-- A new table whose references are there. -/
theorem createTable_accepted {layout : Layout} (hfree : layout.name ∉ db.names)
    (hvalid : Table.Valid collate ⟨layout, []⟩)
    (hkeys : ∀ fk ∈ layout.foreignKeys, (⟨layout, []⟩ : Table).Supports fk.column ∧
      ∃ t ∈ db.tables, t.name = fk.table ∧ t.Supports fk.references) :
    ∃ db' : Database collate, exec (.createTable layout) db = some db' ∧
      db'.tables = db.tables ++ [⟨layout, []⟩] := by
  have htables : Valid collate (db.tables ++ [⟨layout, []⟩]) := by
    refine ⟨?_, fun t ht => ?_, fun t ht fk hfk => ?_⟩
    · rw [List.map_append]
      refine db.valid.names.append (List.nodup_singleton _) ?_
      exact List.disjoint_singleton.2 hfree
    · rcases List.mem_append.1 ht with ht | ht
      · exact db.valid.each t ht
      · rw [List.mem_singleton.1 ht]
        exact hvalid
    · rcases List.mem_append.1 ht with ht | ht
      · rcases db.valid.references t ht fk hfk with ⟨hsupports, t', ht', hrest⟩
        exact ⟨hsupports, t', List.mem_append_left _ ht', hrest⟩
      · rw [List.mem_singleton.1 ht] at hfk ⊢
        rcases hkeys fk hfk with ⟨hsupports, t', ht', hname, hreferences⟩
        exact ⟨hsupports, t', List.mem_append_left _ ht', hname, hreferences,
          fun r hr => absurd hr List.not_mem_nil⟩
  exact ⟨⟨_, htables⟩, exec_eq_some.2 rfl, rfl⟩

/-- What has been done before a refusal stays done. -/
theorem runScript_stops {script rest : List Statement} {s : Statement}
    (h : Schema.through script db = some db') (hrefused : exec s db' = none) :
    runScript (script ++ s :: rest) db = (db', false) := by
  induction script generalizing db with
  | nil =>
      cases h
      rw [List.nil_append, runScript, hrefused]
  | cons s' script ih =>
      rw [Schema.through_cons] at h
      rcases Option.bind_eq_some_iff.1 h with ⟨db₁, hexec, hrest⟩
      rw [List.cons_append, runScript, hexec]
      exact ih hrest

end Alone

end Schema
end Sql
end IdentityBillpay
