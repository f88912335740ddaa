import IdentityBillpay.Sql.Schema

/-!
# Scripts — how statements compose

* `find_named`, `alter_eq_some`, `replace_replace` — one table among the others;
* `exec_eq_some`, `through_append`, `runScript_eq_through` — lists of statements;
* `Undoes`, `Undoes.append`, `Undoes.absorb` — a script that takes another one back;
* `undoes_createTable`, `undoes_addColumn`, `undoes_addIndex`, … — what takes a statement back;
* `exec_other`, `runScript_other` — the tables that a script is not about;
* `Table.Valid.addColumn`, `Table.Valid.addIndex_iff`, … — statements that are not refused.
-/

namespace IdentityBillpay
namespace Sql
namespace Schema

/-! ## One table among the others -/

/-- What is found by its key when no two keys are the same. -/
theorem find?_of_nodup {α : Type} {f : α → String} {l : List α} (hkeys : (l.map f).Nodup)
    {a : α} (ha : a ∈ l) : l.find? (fun x => f x == f a) = some a := by
  cases hfound : l.find? fun x => f x == f a with
  | none =>
      have hno := List.find?_eq_none.1 hfound a ha
      simp at hno
  | some a' =>
      have hkey := List.find?_some hfound
      have hmem := List.mem_of_find?_eq_some hfound
      exact congrArg some (List.inj_on_of_nodup_map hkeys hmem ha (by simpa using hkey))

theorem find_named {tables : List Table} (hnames : (tables.map fun t => t.name).Nodup) {t : Table}
    (ht : t ∈ tables) : tables.find? (fun x => x.name == t.name) = some t :=
  find?_of_nodup (f := fun t : Table => t.name) hnames ht

theorem alter_eq_some {tables tables' : List Table} {name : String} {f : Table → Option Table}
    (hnames : (tables.map fun t => t.name).Nodup) :
    alter name f tables = some tables' ↔
      ∃ t ∈ tables, t.name = name ∧ ∃ t', f t = some t' ∧ tables' = replace name t' tables := by
  constructor
  · intro h
    rcases Option.bind_eq_some_iff.1 h with ⟨t, hfound, hrest⟩
    rcases Option.bind_eq_some_iff.1 hrest with ⟨t', ht', hdone⟩
    cases hdone
    have hname := List.find?_some hfound
    exact ⟨t, List.mem_of_find?_eq_some hfound, by simpa using hname, t', ht', rfl⟩
  · rintro ⟨t, ht, rfl, t', ht', rfl⟩
    rw [alter, find_named hnames ht]
    simp [ht']

theorem mem_replace {tables : List Table} {name : String} {t' x : Table}
    (hname : ∃ t ∈ tables, t.name = name) :
    x ∈ replace name t' tables ↔ x = t' ∨ (x ∈ tables ∧ x.name ≠ name) := by
  rw [replace, List.mem_map]
  constructor
  · rintro ⟨y, hy, rfl⟩
    by_cases hsame : y.name = name
    · exact .inl (if_pos hsame)
    · rw [if_neg hsame]
      exact .inr ⟨hy, hsame⟩
  · rintro (rfl | ⟨hx, hne⟩)
    · rcases hname with ⟨t, ht, hsame⟩
      exact ⟨t, ht, if_pos hsame⟩
    · exact ⟨x, hx, if_neg hne⟩

theorem replace_names {tables : List Table} {name : String} {t' : Table} (hname : t'.name = name) :
    (replace name t' tables).map (fun t => t.name) = tables.map fun t => t.name := by
  rw [replace, List.map_map]
  refine List.map_congr_left fun t _ => ?_
  by_cases hsame : t.name = name
  · simp [hsame, hname]
  · simp [hsame]

theorem replace_self {tables : List Table} (hnames : (tables.map fun t => t.name).Nodup) {t : Table}
    (ht : t ∈ tables) : replace t.name t tables = tables := by
  refine (List.map_congr_left fun x hx => ?_).trans (List.map_id tables)
  by_cases hsame : x.name = t.name
  · rw [if_pos hsame]
    exact List.inj_on_of_nodup_map hnames ht hx hsame.symm
  · exact if_neg hsame

theorem replace_replace {tables : List Table} {name : String} {t' t'' : Table}
    (hname : t'.name = name) :
    replace name t'' (replace name t' tables) = replace name t'' tables := by
  rw [replace, replace, replace, List.map_map]
  refine List.map_congr_left fun t _ => ?_
  by_cases hsame : t.name = name
  · simp [hsame, hname]
  · simp [hsame]

/-! ## Lists of statements -/

section Scripts

variable {collate : String → String} {db db' : Database collate}

theorem Database.ext (h : db.tables = db'.tables) : db = db' := by
  cases db
  cases db'
  cases h
  rfl

theorem exec_eq_some {s : Statement} :
    exec s db = some db' ↔ s.result db.tables = some db'.tables := by
  unfold exec check
  constructor
  · intro h
    rcases Option.bind_eq_some_iff.1 h with ⟨tables, hresult, hcheck⟩
    split at hcheck
    · cases hcheck
      exact hresult
    · cases hcheck
  · intro h
    rw [h, Option.bind_some, dif_pos db'.valid]

theorem through_cons {s : Statement} {script : List Statement} :
    through (s :: script) db = (exec s db).bind (through script) :=
  List.foldlM_cons

/-- A script of one statement. -/
theorem through_single {s : Statement} : through [s] db = exec s db := by
  rw [through_cons]
  cases exec s db with
  | none => rfl
  | some db' => rfl

theorem through_append {script script' : List Statement} :
    through (script ++ script') db = (through script db).bind (through script') :=
  List.foldlM_append

/-- A script comes to its end if none of its statements is refused. -/
theorem runScript_eq_through {script : List Statement} :
    runScript script db = (db', true) ↔ through script db = some db' := by
  induction script generalizing db with
  | nil =>
      change (db, true) = (db', true) ↔ some db = some db'
      simp
  | cons s script ih =>
      rw [through_cons, runScript]
      cases hexec : exec s db with
      | none => simp
      | some db₁ => exact ih

/-! ## Taking a script back -/

/-- Wherever the first script has come to its end, the second one restores all tables and rows. -/
def Undoes (collate : String → String) (down up : List Statement) : Prop :=
  ∀ db db' : Database collate, through up db = some db' → through down db' = some db

theorem undoes_nil : Undoes collate [] [] := by
  intro db db' h
  cases h
  rfl

theorem Undoes.append {down down' up up' : List Statement} (h : Undoes collate down up)
    (h' : Undoes collate down' up') : Undoes collate (down' ++ down) (up ++ up') := by
  intro db db' hup
  rw [through_append] at hup ⊢
  rcases Option.bind_eq_some_iff.1 hup with ⟨db₁, hfirst, hsecond⟩
  rw [h' db₁ db' hsecond]
  exact h db db₁ hfirst

theorem undoes_single {s s' : Statement}
    (h : ∀ db db' : Database collate, s.result db.tables = some db'.tables →
      s'.result db'.tables = some db.tables) : Undoes collate [s'] [s] := by
  intro db db' hup
  rw [through_cons] at hup ⊢
  rcases Option.bind_eq_some_iff.1 hup with ⟨db₁, hexec, hdone⟩
  cases hdone
  rw [exec_eq_some.2 (h db db' (exec_eq_some.1 hexec))]
  rfl

/-- What comes after a script is taken back with it, if taking back does not see it. -/
theorem Undoes.absorb {up : List Statement} {s s' : Statement} (h : Undoes collate [s'] up)
    (hsame : ∀ db db' : Database collate, s.result db.tables = some db'.tables →
      s'.result db'.tables = s'.result db.tables) : Undoes collate [s'] (up ++ [s]) := by
  intro db db' hup
  rw [through_append] at hup
  rcases Option.bind_eq_some_iff.1 hup with ⟨db₁, hfirst, hlast⟩
  rw [through_cons] at hlast
  rcases Option.bind_eq_some_iff.1 hlast with ⟨db₂, hexec, hdone⟩
  cases hdone
  have hback := h db db₁ hfirst
  rw [through_cons] at hback ⊢
  have hequal : exec s' db' = exec s' db₁ := by
    rw [exec, exec, hsame db₁ db' (exec_eq_some.1 hexec)]
  rw [hequal]
  exact hback

/-! ### Tables that are created -/

theorem undoes_createTable (layout : Layout) :
    Undoes collate [.dropTable layout.name] [.createTable layout] := by
  refine undoes_single fun db db' h => ?_
  have htables : db'.tables = db.tables ++ [⟨layout, []⟩] := (Option.some.inj h).symm
  -- The name was free.
  have hnames := db'.valid.names
  rw [htables, List.map_append] at hnames
  have hfree : ∀ t ∈ db.tables, t.name ≠ layout.name := fun t ht hsame =>
    (List.disjoint_of_nodup_append hnames) (List.mem_map_of_mem ht) (by simp [hsame])
  rw [Statement.result, htables, if_pos (by simp), List.filter_append,
    List.filter_eq_self.2 (by simpa using hfree)]
  simp

/-! ### Changes to one table -/

/-- A change of one table that another one takes back. -/
theorem alter_undone {name : String} {f g : Table → Option Table}
    (hname : ∀ t t', f t = some t' → t'.name = t.name)
    (hback : ∀ t ∈ db.tables, t.name = name →
      ∀ t', t'.Valid collate → f t = some t' → g t' = some t)
    (h : alter name f db.tables = some db'.tables) : alter name g db'.tables = some db.tables := by
  have hnames := db.valid.names
  rcases (alter_eq_some hnames).1 h with ⟨t, ht, rfl, t', ht', htables⟩
  have hmem : t' ∈ db'.tables := by
    rw [htables]
    exact (mem_replace ⟨t, ht, rfl⟩).2 (.inl rfl)
  have hsame := hname t t' ht'
  refine (alter_eq_some db'.valid.names).2 ⟨t', hmem, hsame, t, ?_, ?_⟩
  · exact hback t ht rfl t' (db'.valid.each t' hmem) ht'
  · rw [htables, replace_replace hsame, replace_self hnames ht]

/-- A change of one table that is lost in another one. -/
theorem alter_absorbed {name : String} {f g : Table → Option Table}
    (hname : ∀ t t', f t = some t' → t'.name = t.name)
    (hsame : ∀ t t', f t = some t' → g t' = g t)
    (h : alter name f db.tables = some db'.tables) :
    alter name g db'.tables = alter name g db.tables := by
  have hnames := db.valid.names
  rcases (alter_eq_some hnames).1 h with ⟨t, ht, rfl, t', ht', htables⟩
  have hmem : t' ∈ db'.tables := by
    rw [htables]
    exact (mem_replace ⟨t, ht, rfl⟩).2 (.inl rfl)
  have hkept := hname t t' ht'
  have hfound := find_named db'.valid.names hmem
  rw [hkept, htables] at hfound
  simp only [alter, hfound, find_named hnames ht, Option.bind_eq_bind, Option.bind_some,
    hsame t t' ht', htables, replace_replace hkept]

end Scripts

/-! ## Cells -/

/-- A change of the members that are left out. -/
theorem filter_map_self {α : Type} {p : α → Bool} {f : α → α} {l : List α}
    (hkept : ∀ a, p a = true → f a = a) (hleft : ∀ a, p a = false → p (f a) = false) :
    (l.map f).filter p = l.filter p := by
  induction l with
  | nil => rfl
  | cons a l ih =>
      rw [List.map_cons]
      cases hp : p a with
      | true =>
          rw [hkept a hp, List.filter_cons_of_pos hp, List.filter_cons_of_pos hp, ih]
      | false =>
          rw [List.filter_cons_of_neg (by simp [hleft a hp]),
            List.filter_cons_of_neg (by simp [hp]), ih]

/-- Cells of other columns are all that is left of a row. -/
theorem filter_set {r : Row} {column : String} {v : Value} :
    (r.set column v).filter (fun cell => cell.1 ≠ column) =
      r.filter fun cell => cell.1 ≠ column := by
  refine filter_map_self (fun cell hcell => if_neg (by simpa using hcell)) fun cell hcell => ?_
  have hsame : cell.1 = column := by simpa using hcell
  simp [hsame]

section Cells

variable {r : Row} {name column : String} {v : Value}

theorem cell_append (h : name ∈ r.map Prod.fst) (cells : Row) :
    Row.cell (r ++ cells) name = r.cell name := by
  have hfound : (r.find? fun cell => cell.1 == name).isSome = true := by
    rcases List.mem_map.1 h with ⟨cell, hcell, hname⟩
    exact List.find?_isSome.2 ⟨cell, hcell, by simp [hname]⟩
  rw [Row.cell, Row.cell, List.find?_append, Option.or_of_isSome hfound]

theorem cell_append_new (h : column ∉ r.map Prod.fst) :
    Row.cell (r ++ [(column, v)]) column = v := by
  have hnone : (r.find? fun cell => cell.1 == column) = none := by
    refine List.find?_eq_none.2 fun cell hcell => ?_
    simpa using fun hsame : cell.1 = column => h (hsame ▸ List.mem_map_of_mem hcell)
  simp [Row.cell, List.find?_append, hnone]

theorem cell_filter (h : name ≠ column) :
    Row.cell (r.filter fun cell => cell.1 ≠ column) name = r.cell name := by
  rw [Row.cell, Row.cell, List.find?_filter]
  have hsame : (fun cell : String × Value => decide (decide (cell.1 ≠ column) = true ∧
      (cell.1 == name) = true)) = fun cell => cell.1 == name := by
    funext cell
    by_cases hname : cell.1 = name
    · simp [hname, h]
    · simp [hname]
  rw [hsame]

theorem cell_set_of_ne (h : name ≠ column) : (r.set column v).cell name = r.cell name := by
  have hfiltered := congrArg (fun r' => Row.cell r' name) (@filter_set r column v)
  simpa only [cell_filter h] using hfiltered

theorem map_fst_set : (r.set column v).map Prod.fst = r.map Prod.fst := by
  rw [Row.set, List.map_map]
  refine List.map_congr_left fun cell _ => ?_
  by_cases hsame : cell.1 = column
  · simp [hsame]
  · simp [hsame]

theorem cell_set (h : column ∈ r.map Prod.fst) : (r.set column v).cell column = v := by
  induction r with
  | nil => exact absurd h List.not_mem_nil
  | cons cell r ih =>
      by_cases hsame : cell.1 = column
      · simp [Row.cell, Row.set, hsame]
      · have hrest : column ∈ r.map Prod.fst :=
          (List.mem_cons.1 h).resolve_left fun heq => hsame heq.symm
        have hskip : (Row.set (cell :: r) column v).cell column =
            (Row.set r column v).cell column := by
          simp [Row.cell, Row.set, hsame]
        rw [hskip, ih hrest]

theorem set_set {v' : Value} : Row.set (Row.set r column v) column v' = Row.set r column v' := by
  rw [Row.set, Row.set, Row.set, List.map_map]
  refine List.map_congr_left fun cell _ => ?_
  by_cases hsame : cell.1 = column
  · simp [hsame]
  · simp [hsame]

theorem set_append_new {v' : Value} (h : column ∉ r.map Prod.fst) :
    Row.set (r ++ [(column, v)]) column v' = r ++ [(column, v')] := by
  have hkept : Row.set r column v' = r := by
    refine (List.map_congr_left fun cell hcell => ?_).trans (List.map_id r)
    exact if_neg fun hsame : cell.1 = column => h (hsame ▸ List.mem_map_of_mem hcell)
  rw [Row.set, List.map_append]
  exact congrArg₂ (· ++ ·) hkept (by simp)

theorem set_cell (h : (r.map Prod.fst).Nodup) : Row.set r column (r.cell column) = r := by
  refine (List.map_congr_left fun cell hcell => ?_).trans (List.map_id r)
  by_cases hsame : cell.1 = column
  · have hfound := find?_of_nodup (f := Prod.fst) h hcell
    rw [hsame] at hfound
    rw [if_pos hsame, Row.cell, hfound, ← hsame]
    rfl
  · exact if_neg hsame

end Cells

/-! ## Decimals -/

theorem roundedDiv_mul (n : Int) {d : Nat} (hd : 0 < d) : roundedDiv (n * d) d = n := by
  have hsign : (n * (d : Int)).sign = n.sign := by
    rw [Int.sign_mul, Int.sign_eq_one_of_pos (Int.natCast_pos.2 hd), Int.mul_one]
  have hquotient : (2 * (n.natAbs * d) + d) / (2 * d) = n.natAbs := by
    have hfactor : 2 * (n.natAbs * d) + d = (2 * n.natAbs + 1) * d := by
      rw [Nat.add_mul, Nat.one_mul, Nat.mul_assoc]
    rw [hfactor, Nat.mul_div_mul_right _ _ hd]
    omega
  rw [roundedDiv, hsign, Int.natAbs_mul, Int.natAbs_natCast, hquotient]
  exact Int.sign_mul_natAbs n

/-- More digits behind the point, and back. -/
theorem rescale_rescale {scale scale' : Nat} (h : scale ≤ scale') (units : Int) :
    rescale (rescale units scale scale') scale' scale = units := by
  have hpos : ∀ k, 0 < Nat.pow 10 k := fun k => Nat.pow_pos (by decide)
  rw [rescale, rescale, if_pos h]
  by_cases hback : scale' ≤ scale
  · rw [if_pos hback, Nat.sub_eq_zero_of_le hback, Nat.sub_eq_zero_of_le h]
    simp
  · rw [if_neg hback]
    exact roundedDiv_mul units (hpos _)

/-! ## Columns -/

section Columns

variable {collate : String → String} {t t' : Table}

theorem addColumn_name {c : Column} (h : t.addColumn? c = some t') : t'.name = t.name := by
  rcases Option.map_eq_some_iff.1 h with ⟨v, _, rfl⟩
  rfl

theorem dropColumn_name {column : String} (h : t.dropColumn? column = some t') :
    t'.name = t.name := by
  unfold Table.dropColumn? at h
  split at h
  · cases h
    rfl
  · cases h

theorem changeColumn_name {c : Column} (h : t.changeColumn? c = some t') : t'.name = t.name := by
  rcases Option.map_eq_some_iff.1 h with ⟨old, _, rfl⟩
  rfl

theorem update_name {column : String} {value : Expr} {condition : Condition}
    (h : t.update? column value condition = some t') : t'.name = t.name := by
  unfold Table.update? at h
  split at h
  · cases h
    rfl
  · cases h

theorem addIndex_name {i : Index} (h : t.addIndex? i = some t') : t'.name = t.name := by
  cases h
  rfl

theorem dropIndex_name {index : String} (h : t.dropIndex? index = some t') : t'.name = t.name := by
  unfold Table.dropIndex? at h
  split at h
  · cases h
    rfl
  · cases h

/-- A column that no index looks at. -/
theorem indexes_kept (indexes : List Index) (column : String)
    (h : ∀ i ∈ indexes, i.columns ≠ [] ∧ column ∉ i.columns) :
    ((indexes.map fun i =>
      { i with columns := i.columns.filter (· ≠ column) }).filter fun i => !i.columns.isEmpty) =
        indexes := by
  have hsame : (indexes.map fun i => { i with columns := i.columns.filter (· ≠ column) }) =
      indexes := by
    refine (List.map_congr_left fun i hi => ?_).trans (List.map_id indexes)
    have hcolumns : i.columns.filter (· ≠ column) = i.columns :=
      List.filter_eq_self.2 fun c hc => decide_eq_true fun heq => (h i hi).2 (heq ▸ hc)
    rw [hcolumns]
    rfl
  rw [hsame]
  exact List.filter_eq_self.2 fun i hi => by simpa using (h i hi).1

/-- A column that has been added is in no index, and last in every row. -/
theorem dropColumn_addColumn {c : Column} (ht : t.Valid collate) (ht' : t'.Valid collate)
    (h : t.addColumn? c = some t') : t'.dropColumn? c.name = some t := by
  rcases Option.map_eq_some_iff.1 h with ⟨v, _, rfl⟩
  have hnames := ht'.columnNames
  rw [List.map_append] at hnames
  have hfresh : c.name ∉ t.columns.map Column.name := fun hmem =>
    (List.disjoint_of_nodup_append hnames) hmem (by simp)
  have hcolumns : (t.columns ++ [c]).filter (fun c' => c'.name ≠ c.name) = t.columns := by
    rw [List.filter_append, List.filter_cons_of_neg (by simp), List.filter_nil, List.append_nil]
    refine List.filter_eq_self.2 fun c' hc' => ?_
    exact decide_eq_true fun hsame => hfresh (hsame ▸ List.mem_map_of_mem hc')
  have hindexes := indexes_kept t.indexes c.name fun i hi =>
    ⟨(ht.indexed i hi).1, fun hmem => hfresh ((ht.indexed i hi).2 c.name hmem)⟩
  have hrows : (t.rows.map fun r => r ++ [(c.name, v)]).map
      (fun r : Row => r.filter fun cell => cell.1 ≠ c.name) = t.rows := by
    rw [List.map_map]
    refine (List.map_congr_left fun r hr => ?_).trans (List.map_id t.rows)
    change List.filter _ (r ++ [(c.name, v)]) = r
    rw [List.filter_append, List.filter_cons_of_neg (by simp), List.filter_nil, List.append_nil]
    refine List.filter_eq_self.2 fun cell hcell => ?_
    have hmem : cell.1 ∈ r.map Prod.fst := List.mem_map_of_mem hcell
    rw [ht.aligned r hr] at hmem
    exact decide_eq_true fun hsame => hfresh (hsame ▸ hmem)
  rw [Table.dropColumn?, if_pos (by simp)]
  simp only [hcolumns, hindexes, hrows]

/-- What has been written to a column is lost with it. -/
theorem dropColumn_update {column : String} {value : Expr} {condition : Condition}
    (h : t.update? column value condition = some t') :
    t'.dropColumn? column = t.dropColumn? column := by
  unfold Table.update? at h
  split at h
  · next hcolumn =>
      cases h
      rw [Table.dropColumn?, Table.dropColumn?, if_pos hcolumn, if_pos hcolumn, List.map_map]
      have hrows : (t.rows.map ((fun r : Row => r.filter fun cell => cell.1 ≠ column) ∘
          fun r => if condition.holds r then r.set column (value.eval r) else r)) =
            t.rows.map fun r => r.filter fun cell => cell.1 ≠ column := by
        refine List.map_congr_left fun r _ => ?_
        rw [Function.comp_apply]
        split
        · exact filter_set
        · rfl
      rw [hrows]
  · cases h

/-- A column is changed under its name. -/
theorem map_name_columns (columns : List Column) (c : Column) :
    (columns.map fun old => if old.name = c.name then c else old).map Column.name =
      columns.map Column.name := by
  rw [List.map_map]
  refine List.map_congr_left fun old _ => ?_
  by_cases hsame : old.name = c.name
  · simp [hsame]
  · simp [hsame]

/-- So is a change of its type. -/
theorem dropColumn_changeColumn {c : Column} (h : t.changeColumn? c = some t') :
    t'.dropColumn? c.name = t.dropColumn? c.name := by
  rcases Option.map_eq_some_iff.1 h with ⟨old, hold, rfl⟩
  have hmem : c.name ∈ t.columns.map Column.name := by
    have hname := List.find?_some hold
    exact List.mem_map.2 ⟨old, List.mem_of_find?_eq_some hold, by simpa using hname⟩
  have hcolumns : (t.columns.map fun old => if old.name = c.name then c else old).filter
      (fun c' => c'.name ≠ c.name) = t.columns.filter fun c' => c'.name ≠ c.name := by
    refine filter_map_self (fun c' hc' => if_neg (by simpa using hc')) fun c' hc' => ?_
    have hsame : c'.name = c.name := by simpa using hc'
    simp [hsame]
  have hrows : (t.rows.map fun r =>
      r.set c.name (old.type.convert c.type (r.cell c.name))).map
        (fun r : Row => r.filter fun cell => cell.1 ≠ c.name) =
          t.rows.map fun r => r.filter fun cell => cell.1 ≠ c.name := by
    rw [List.map_map]
    exact List.map_congr_left fun r _ => filter_set
  rw [Table.dropColumn?, Table.dropColumn?, if_pos hmem,
    if_pos (by rw [map_name_columns]; exact hmem)]
  simp only [hcolumns, hrows]

/-- A type is changed back, and no value is lost on the way. -/
theorem changeColumn_changeColumn (ht : t.Valid collate) {old c : Column} (hold : old ∈ t.columns)
    (hname : c.name = old.name)
    (hback : ∀ r ∈ t.rows,
      c.type.convert old.type (old.type.convert c.type (r.cell old.name)) = r.cell old.name)
    (h : t.changeColumn? c = some t') : t'.changeColumn? old = some t := by
  rcases Option.map_eq_some_iff.1 h with ⟨old', hfound, rfl⟩
  have hsame : old' = old := by
    have hname' := List.find?_some hfound
    exact List.inj_on_of_nodup_map ht.columnNames (List.mem_of_find?_eq_some hfound) hold
      ((by simpa using hname' : old'.name = c.name).trans hname)
  subst hsame
  have hnames : (t.columns.map fun x => if x.name = c.name then c else x).map Column.name =
      t.columns.map Column.name := map_name_columns _ _
  have hmem : c ∈ t.columns.map fun x => if x.name = c.name then c else x :=
    List.mem_map.2 ⟨old', hold, if_pos hname.symm⟩
  have hnew := find?_of_nodup (f := Column.name) (hnames ▸ ht.columnNames) hmem
  have hcolumns : (t.columns.map fun x => if x.name = c.name then c else x).map
      (fun x => if x.name = old'.name then old' else x) = t.columns := by
    rw [List.map_map]
    refine (List.map_congr_left fun x hx => ?_).trans (List.map_id t.columns)
    by_cases hsame : x.name = c.name
    · have heq : x = old' := List.inj_on_of_nodup_map ht.columnNames hx hold (hsame.trans hname)
      simp [hname, heq]
    · have hne : x.name ≠ old'.name := fun heq => hsame (heq.trans hname.symm)
      simp [hsame, hne]
  have hrows : (t.rows.map fun r =>
      Row.set r c.name (old'.type.convert c.type (r.cell c.name))).map
        (fun r => Row.set r old'.name (c.type.convert old'.type (r.cell old'.name))) = t.rows := by
    rw [List.map_map]
    refine (List.map_congr_left fun r hr => ?_).trans (List.map_id t.rows)
    have haligned := ht.aligned r hr
    have hcell : old'.name ∈ r.map Prod.fst := haligned ▸ List.mem_map_of_mem hold
    rw [Function.comp_apply, hname, set_set, cell_set hcell, hback r hr]
    exact set_cell (haligned ▸ ht.columnNames)
  rw [Table.changeColumn?, ← hname, hnew, Option.map_some]
  rw [← hname] at hcolumns hrows
  simp only [hcolumns, hrows]

theorem dropIndex_addIndex {i : Index} (ht' : t'.Valid collate) (h : t.addIndex? i = some t') :
    t'.dropIndex? i.name = some t := by
  cases h
  have hnames := ht'.indexNames
  rw [List.map_append] at hnames
  have hfresh : i.name ∉ t.indexes.map Index.name := fun hmem =>
    (List.disjoint_of_nodup_append hnames) hmem (by simp)
  have hindexes : (t.indexes ++ [i]).filter (fun i' => i'.name ≠ i.name) = t.indexes := by
    rw [List.filter_append, List.filter_cons_of_neg (by simp), List.filter_nil, List.append_nil]
    refine List.filter_eq_self.2 fun i' hi' => ?_
    exact decide_eq_true fun hsame => hfresh (hsame ▸ List.mem_map_of_mem hi')
  rw [Table.dropIndex?, if_pos (by simp)]
  simp only [hindexes]

end Columns

/-! ## What takes a statement back -/

section Statements

variable {collate : String → String} {up : List Statement} {table : String}

theorem undoes_addColumn (table : String) (c : Column) :
    Undoes collate [.dropColumn table c.name] [.addColumn table c] :=
  undoes_single fun db _ h => alter_undone (fun _ _ => addColumn_name)
    (fun t ht _ _ ht' => dropColumn_addColumn (db.valid.each t ht) ht') h

theorem undoes_addIndex (table : String) (i : Index) :
    Undoes collate [.dropIndex table i.name] [.addIndex table i] :=
  undoes_single fun _ _ h => alter_undone (fun _ _ => addIndex_name)
    (fun _ _ _ _ ht' => dropIndex_addIndex ht') h

theorem Undoes.update {column : String} (h : Undoes collate [.dropColumn table column] up)
    (value : Expr) (condition : Condition) :
    Undoes collate [.dropColumn table column] (up ++ [.update table column value condition]) :=
  h.absorb fun _ _ h => alter_absorbed (fun _ _ => update_name) (fun _ _ => dropColumn_update) h

theorem Undoes.changeColumn {c : Column} (h : Undoes collate [.dropColumn table c.name] up) :
    Undoes collate [.dropColumn table c.name] (up ++ [.changeColumn table c]) :=
  h.absorb fun _ _ h =>
    alter_absorbed (fun _ _ => changeColumn_name) (fun _ _ => dropColumn_changeColumn) h

end Statements

/-! ## Valid tables -/

section Valid

variable {collate : String → String} {t t' : Table} {tables : List Table}

/-- A table that refers to none and is referred to by none can be looked at alone. -/
theorem Valid.replace (h : Valid collate tables) (ht : t ∈ tables) (hname : t'.name = t.name)
    (hkeys : t'.foreignKeys = [])
    (hunreferred : ∀ x ∈ tables, ∀ fk ∈ x.foreignKeys, fk.table ≠ t.name) :
    Valid collate (Schema.replace t.name t' tables) ↔ t'.Valid collate := by
  have hmem : ∀ x, x ∈ Schema.replace t.name t' tables ↔
      x = t' ∨ (x ∈ tables ∧ x.name ≠ t.name) := fun x => mem_replace ⟨t, ht, rfl⟩
  refine ⟨fun hvalid => hvalid.each t' ((hmem t').2 (.inl rfl)), fun hvalid => ⟨?_, ?_, ?_⟩⟩
  · rw [replace_names hname]
    exact h.names
  · intro x hx
    rcases (hmem x).1 hx with rfl | ⟨hold, _⟩
    · exact hvalid
    · exact h.each x hold
  · intro x hx fk hfk
    rcases (hmem x).1 hx with rfl | ⟨hold, _⟩
    · rw [hkeys] at hfk
      exact absurd hfk List.not_mem_nil
    · -- The table that is referred to is another one, and is still there.
      rcases h.references x hold fk hfk with ⟨hsupports, y, hy, hyname, hrest⟩
      have hne : y.name ≠ t.name := by
        rw [hyname]
        exact hunreferred x hold fk hfk
      exact ⟨hsupports, y, (hmem y).2 (.inr ⟨hy, hne⟩), hyname, hrest⟩

theorem Table.Valid.dropIndex (h : t.Valid collate) {index : String}
    (hdrop : t.dropIndex? index = some t') : t'.Valid collate := by
  unfold Table.dropIndex? at hdrop
  split at hdrop
  · cases hdrop
    refine ⟨h.columns, h.columnNames, ?_, fun i hi => ?_, h.aligned, h.typed, fun i hi => ?_⟩
    · exact h.indexNames.sublist (List.filter_sublist.map _)
    · exact h.indexed i (List.mem_of_mem_filter hi)
    · exact h.separated i (List.mem_of_mem_filter hi)
  · cases hdrop

/-- Cells that an index does not look at. -/
theorem Index.Separates.congr {i : Index} {rows : List Row} {f : Row → Row}
    (hcells : ∀ r ∈ rows, ∀ column ∈ i.columns, (f r).cell column = r.cell column) :
    i.Separates collate (rows.map f) ↔ i.Separates collate rows := by
  have hkeys : (rows.map f).filterMap (i.key? collate) = rows.filterMap (i.key? collate) := by
    rw [List.filterMap_map]
    refine List.filterMap_congr fun r hr => ?_
    have hcolumns : i.columns.map (f r).cell = i.columns.map r.cell :=
      List.map_congr_left (hcells r hr)
    have hsorted : (i.columns.map fun column => sortKey collate ((f r).cell column)) =
        i.columns.map fun column => sortKey collate (r.cell column) :=
      List.map_congr_left fun column hcolumn => by rw [hcells r hr column hcolumn]
    rw [Function.comp_apply, Index.key?, Index.key?, hcolumns, hsorted]
  rw [Index.Separates, Index.Separates, hkeys]

/-- Rows without a `NULL` in the index are all compared. -/
theorem Index.separates_iff {i : Index} {rows : List Row}
    (hcells : ∀ r ∈ rows, .null ∉ i.columns.map r.cell) :
    i.Separates collate rows ↔
      (rows.map fun r => i.columns.map fun column => sortKey collate (r.cell column)).Nodup := by
  have hkeys : rows.filterMap (i.key? collate) =
      rows.map fun r => i.columns.map fun column => sortKey collate (r.cell column) := by
    rw [← List.filterMap_eq_map]
    exact List.filterMap_congr fun r hr => if_neg (hcells r hr)
  rw [Index.Separates, hkeys]

theorem Table.Valid.dropColumn (h : t.Valid collate) {column : String}
    (hindexes : ∀ i ∈ t.indexes, column ∉ i.columns)
    (hother : ∃ c ∈ t.columns, c.name ≠ column) (hdrop : t.dropColumn? column = some t') :
    t'.Valid collate := by
  unfold Table.dropColumn? at hdrop
  split at hdrop
  · cases hdrop
    have hkept := indexes_kept t.indexes column fun i hi =>
      ⟨(h.indexed i hi).1, hindexes i hi⟩
    have hnames : (t.columns.filter fun c => c.name ≠ column).map Column.name =
        (t.columns.map Column.name).filter (· ≠ column) := by
      rw [List.filter_map]
      rfl
    refine ⟨?_, ?_, ?_, ?_, ?_, ?_, ?_⟩
    · rcases hother with ⟨c, hc, hne⟩
      exact List.ne_nil_of_mem (List.mem_filter.2 ⟨hc, decide_eq_true hne⟩)
    · dsimp only
      rw [hnames]
      exact h.columnNames.filter _
    · dsimp only
      rw [hkept]
      exact h.indexNames
    · dsimp only
      rw [hkept, hnames]
      intro i hi
      refine ⟨(h.indexed i hi).1, fun c hc => List.mem_filter.2 ⟨(h.indexed i hi).2 c hc, ?_⟩⟩
      exact decide_eq_true fun heq => hindexes i hi (heq ▸ hc)
    · intro r' hr'
      rcases List.mem_map.1 hr' with ⟨r, hr, rfl⟩
      rw [hnames, ← h.aligned r hr, List.filter_map]
      rfl
    · intro r' hr' c hc
      rcases List.mem_map.1 hr' with ⟨r, hr, rfl⟩
      rcases List.mem_filter.1 hc with ⟨hc, hne⟩
      rw [cell_filter (of_decide_eq_true hne)]
      exact h.typed r hr c hc
    · dsimp only
      rw [hkept]
      intro i hi hunique
      refine (Index.Separates.congr fun r _ c hc => cell_filter ?_).2 (h.separated i hi hunique)
      exact fun heq => hindexes i hi (heq ▸ hc)
  · cases hdrop

theorem Table.Valid.addColumn (h : t.Valid collate) {c : Column} {v : Value}
    (hfresh : c.name ∉ t.columns.map Column.name) (hfill : c.fill? = some v)
    (haccepts : c.accepts v = true) (hadd : t.addColumn? c = some t') : t'.Valid collate := by
  rw [Table.addColumn?, hfill, Option.map_some] at hadd
  cases hadd
  have hold : ∀ r ∈ t.rows, ∀ column ∈ t.columns.map Column.name,
      Row.cell (r ++ [(c.name, v)]) column = r.cell column := by
    intro r hr column hcolumn
    rw [← h.aligned r hr] at hcolumn
    exact cell_append hcolumn _
  refine ⟨by simp, ?_, h.indexNames, fun i hi => ?_, ?_, ?_, fun i hi hunique => ?_⟩
  · rw [List.map_append]
    exact h.columnNames.append (List.nodup_singleton _) (by simpa [List.disjoint_left] using hfresh)
  · refine ⟨(h.indexed i hi).1, fun column hcolumn => ?_⟩
    rw [List.map_append]
    exact List.mem_append_left _ ((h.indexed i hi).2 column hcolumn)
  · intro r' hr'
    rcases List.mem_map.1 hr' with ⟨r, hr, rfl⟩
    rw [List.map_append, List.map_append, h.aligned r hr]
    rfl
  · intro r' hr' c' hc'
    rcases List.mem_map.1 hr' with ⟨r, hr, rfl⟩
    rcases List.mem_append.1 hc' with hc' | hc'
    · rw [hold r hr c'.name (List.mem_map_of_mem hc')]
      exact h.typed r hr c' hc'
    · rw [List.mem_singleton.1 hc', cell_append_new]
      · exact haccepts
      · rw [h.aligned r hr]
        exact hfresh
  · refine (Index.Separates.congr fun r hr column hcolumn => ?_).2 (h.separated i hi hunique)
    exact hold r hr column ((h.indexed i hi).2 column hcolumn)

/-- A new index is all that may go wrong. -/
theorem Table.Valid.addIndex_iff (h : t.Valid collate) {i : Index}
    (hfresh : i.name ∉ t.indexes.map Index.name) (hcolumns : i.columns ≠ [])
    (hindexed : ∀ column ∈ i.columns, column ∈ t.columns.map Column.name)
    (hadd : t.addIndex? i = some t') :
    t'.Valid collate ↔ (i.unique = true → i.Separates collate t.rows) := by
  cases hadd
  constructor
  · intro hvalid
    exact hvalid.separated i (by simp)
  · intro hseparates
    refine ⟨h.columns, h.columnNames, ?_, fun i' hi' => ?_, h.aligned, h.typed, fun i' hi' => ?_⟩
    · rw [List.map_append]
      exact h.indexNames.append (List.nodup_singleton _)
        (by simpa [List.disjoint_left] using hfresh)
    · rcases List.mem_append.1 hi' with hi' | hi'
      · exact h.indexed i' hi'
      · rw [List.mem_singleton.1 hi']
        exact ⟨hcolumns, hindexed⟩
    · rcases List.mem_append.1 hi' with hi' | hi'
      · exact h.separated i' hi'
      · rw [List.mem_singleton.1 hi']
        exact hseparates

/-- A column that no index looks at is given another type and other values. -/
theorem Table.Valid.rewrite (h : t.Valid collate) {c : Column} {f : Row → Row}
    (hindexes : ∀ i ∈ t.indexes, c.name ∉ i.columns)
    (hnames : ∀ r ∈ t.rows, (f r).map Prod.fst = r.map Prod.fst)
    (hothers : ∀ r ∈ t.rows, ∀ name, name ≠ c.name → (f r).cell name = r.cell name)
    (haccepts : ∀ r ∈ t.rows, c.accepts ((f r).cell c.name) = true) :
    Table.Valid collate
      { t with
        columns := t.columns.map fun old => if old.name = c.name then c else old
        rows := t.rows.map f } := by
  have hkept := map_name_columns t.columns c
  refine ⟨by simpa using h.columns, ?_, h.indexNames, fun i hi => ?_, ?_, ?_,
    fun i hi hunique => ?_⟩
  · dsimp only
    rw [hkept]
    exact h.columnNames
  · dsimp only
    rw [hkept]
    exact h.indexed i hi
  · intro r' hr'
    rcases List.mem_map.1 hr' with ⟨r, hr, rfl⟩
    dsimp only
    rw [hkept, hnames r hr]
    exact h.aligned r hr
  · intro r' hr' c' hc'
    rcases List.mem_map.1 hr' with ⟨r, hr, rfl⟩
    rcases List.mem_map.1 hc' with ⟨old, hold, rfl⟩
    by_cases hsame : old.name = c.name
    · rw [if_pos hsame]
      exact haccepts r hr
    · rw [if_neg hsame, hothers r hr old.name hsame]
      exact h.typed r hr old hold
  · refine (Index.Separates.congr fun r hr column hcolumn => hothers r hr column ?_).2
      (h.separated i hi hunique)
    exact fun heq => hindexes i hi (heq ▸ hcolumn)

/-- The columns stay what they are. -/
theorem map_columns_self (h : t.Valid collate) {c : Column} (hc : c ∈ t.columns) :
    (t.columns.map fun old => if old.name = c.name then c else old) = t.columns := by
  refine (List.map_congr_left fun old hold => ?_).trans (List.map_id t.columns)
  by_cases hsame : old.name = c.name
  · rw [if_pos hsame]
    exact List.inj_on_of_nodup_map h.columnNames hc hold hsame.symm
  · exact if_neg hsame

/-- What is written has to fit the column. -/
theorem Table.Valid.update (h : t.Valid collate) {c : Column} {value : Expr}
    {condition : Condition} (hc : c ∈ t.columns) (hindexes : ∀ i ∈ t.indexes, c.name ∉ i.columns)
    (haccepts : ∀ r ∈ t.rows, condition.holds r = true → c.accepts (value.eval r) = true)
    (hupdate : t.update? c.name value condition = some t') : t'.Valid collate := by
  rcases Option.ite_none_right_eq_some.1 hupdate with ⟨_, hsome⟩
  cases hsome
  have hrewritten := h.rewrite (c := c)
    (f := fun r => if condition.holds r then r.set c.name (value.eval r) else r) hindexes ?_ ?_ ?_
  · rw [map_columns_self h hc] at hrewritten
    exact hrewritten
  · intro r _
    split
    · exact map_fst_set
    · rfl
  · intro r _ name hname
    split
    · exact cell_set_of_ne hname
    · rfl
  · intro r hr
    split
    · rename_i hholds
      have hmem : c.name ∈ r.map Prod.fst := by
        rw [h.aligned r hr]
        exact List.mem_map_of_mem hc
      rw [cell_set hmem]
      exact haccepts r hr hholds
    · exact h.typed r hr c hc

/-- What is converted has to fit the column. -/
theorem Table.Valid.changeColumn (h : t.Valid collate) (old c : Column) (hold : old ∈ t.columns)
    (hname : old.name = c.name) (hindexes : ∀ i ∈ t.indexes, c.name ∉ i.columns)
    (haccepts : ∀ r ∈ t.rows, c.accepts (old.type.convert c.type (r.cell c.name)) = true)
    (hchange : t.changeColumn? c = some t') : t'.Valid collate := by
  have hfound := find?_of_nodup (f := Column.name) h.columnNames hold
  rw [hname] at hfound
  rw [Table.changeColumn?, hfound, Option.map_some] at hchange
  cases hchange
  refine h.rewrite hindexes (fun r _ => map_fst_set) (fun r _ name hother => cell_set_of_ne hother)
    fun r hr => ?_
  have hmem : c.name ∈ r.map Prod.fst := by
    rw [h.aligned r hr, ← hname]
    exact List.mem_map_of_mem hold
  rw [cell_set hmem]
  exact haccepts r hr

end Valid

/-! ## Tables that stay -/

section Tables

variable {collate : String → String} {db db' : Database collate} {name : String}

def Database.names (db : Database collate) : List String :=
  db.tables.map fun t => t.name

def Database.table? (db : Database collate) (name : String) : Option Table :=
  db.tables.find? fun t => t.name == name

theorem table?_eq_some {t : Table} : db.table? name = some t ↔ t ∈ db.tables ∧ t.name = name := by
  constructor
  · intro h
    have hname := List.find?_some h
    exact ⟨List.mem_of_find?_eq_some h, by simpa using hname⟩
  · rintro ⟨ht, rfl⟩
    exact find_named db.valid.names ht

/-- The table that a statement is about. -/
def Statement.table : Statement → String
  | .createTable layout => layout.name
  | .dropTable table | .addColumn table _ | .dropColumn table _ | .changeColumn table _
  | .addIndex table _ | .dropIndex table _ | .update table _ _ _ => table

theorem find_replace {tables : List Table} {table : String} {t' : Table} (hname : t'.name = table)
    (hother : table ≠ name) :
    (replace table t' tables).find? (fun t => t.name == name) =
      tables.find? fun t => t.name == name := by
  induction tables with
  | nil => rfl
  | cons t tables ih =>
      rw [replace, List.map_cons, List.find?_cons, List.find?_cons]
      by_cases hsame : t.name = table
      · have hhidden : (t'.name == name) = false := by simpa [hname] using hother
        have hhidden' : (t.name == name) = false := by simpa [hsame] using hother
        rw [if_pos hsame, hhidden, hhidden']
        exact ih
      · rw [if_neg hsame]
        cases t.name == name with
        | true => rfl
        | false => exact ih

/-- A statement leaves the other tables alone. -/
theorem exec_other {s : Statement} (hs : s.table ≠ name) (h : exec s db = some db') :
    db'.table? name = db.table? name := by
  have hresult := exec_eq_some.1 h
  have halter : ∀ {f : Table → Option Table}, (∀ t t', f t = some t' → t'.name = t.name) →
      alter s.table f db.tables = some db'.tables → db'.table? name = db.table? name := by
    intro f hname haltered
    rcases (alter_eq_some db.valid.names).1 haltered with ⟨t, _, htable, t', ht', htables⟩
    rw [Database.table?, htables]
    exact find_replace ((hname t t' ht').trans htable) hs
  cases s with
  | createTable layout =>
      have hhidden : (layout.name == name) = false := beq_false_of_ne hs
      rw [Database.table?, ← Option.some.inj hresult, List.find?_append, List.find?_cons, hhidden]
      exact Option.or_none
  | dropTable table =>
      rw [Statement.result] at hresult
      split at hresult
      · rw [Database.table?, ← Option.some.inj hresult, List.find?_filter]
        refine congrArg (fun p => db.tables.find? p) (funext fun t => ?_)
        by_cases hsame : t.name = name
        · have hkept : name ≠ table := Ne.symm hs
          simp [hsame, hkept]
        · simp [hsame]
      · cases hresult
  | addColumn table column => exact halter (fun _ _ => addColumn_name) hresult
  | dropColumn table column => exact halter (fun _ _ => dropColumn_name) hresult
  | changeColumn table column => exact halter (fun _ _ => changeColumn_name) hresult
  | addIndex table index => exact halter (fun _ _ => addIndex_name) hresult
  | dropIndex table index => exact halter (fun _ _ => dropIndex_name) hresult
  | update table column value condition => exact halter (fun _ _ => update_name) hresult

theorem runScript_other {script : List Statement} (hscript : ∀ s ∈ script, s.table ≠ name) :
    (runScript script db).1.table? name = db.table? name := by
  induction script generalizing db with
  | nil => rfl
  | cons s script ih =>
      rw [runScript]
      cases hexec : exec s db with
      | none => rfl
      | some db₁ =>
          refine (ih fun s' hs' => hscript s' (List.mem_cons_of_mem s hs')).trans ?_
          exact exec_other (hscript s List.mem_cons_self) hexec

/-- New tables are empty, and stand after the others. -/
theorem through_createTables {layouts : List Layout}
    (h : through (layouts.map Statement.createTable) db = some db') :
    db'.tables = db.tables ++ layouts.map fun layout => ⟨layout, []⟩ := by
  induction layouts generalizing db with
  | nil =>
      cases h
      exact (List.append_nil _).symm
  | cons layout layouts ih =>
      rw [List.map_cons, through_cons] at h
      rcases Option.bind_eq_some_iff.1 h with ⟨db₁, hexec, hrest⟩
      rw [ih hrest, ← Option.some.inj (exec_eq_some.1 hexec), List.append_assoc]
      rfl

/-- A name is not given twice. -/
theorem createTable_refused {layout : Layout} (h : layout.name ∈ db.names) :
    exec (.createTable layout) db = none := by
  cases hexec : exec (.createTable layout) db with
  | none => rfl
  | some db' =>
      have htables := Option.some.inj (exec_eq_some.1 hexec)
      have hnames := db'.valid.names
      rw [← htables, List.map_append] at hnames
      exact absurd (List.mem_singleton_self _) ((List.disjoint_of_nodup_append hnames) h)

/-- An index that is not there cannot be dropped. -/
theorem dropIndex_refused {table index : String}
    (h : ∀ t ∈ db.tables, t.name = table → index ∉ t.indexes.map Index.name) :
    exec (.dropIndex table index) db = none := by
  cases hexec : exec (.dropIndex table index) db with
  | none => rfl
  | some db' =>
      rcases (alter_eq_some db.valid.names).1 (exec_eq_some.1 hexec) with
        ⟨t, ht, hname, _, hdrop, _⟩
      rcases Option.ite_none_right_eq_some.1 hdrop with ⟨hindex, _⟩
      exact absurd hindex (h t ht hname)

/-- No table refers to one that is not there. -/
theorem Valid.refers {tables : List Table} (h : Valid collate tables) {t : Table} (ht : t ∈ tables)
    {fk : ForeignKey} (hfk : fk ∈ t.foreignKeys) : ∃ t' ∈ tables, t'.name = fk.table := by
  rcases h.references t ht fk hfk with ⟨_, t', ht', hname, _⟩
  exact ⟨t', ht', hname⟩

/-- An index may be taken from a new table before the table is. -/
theorem undoes_createTable_indexed {layout : Layout} {i : Index} (hi : i ∈ layout.indexes)
    (hkeys : layout.foreignKeys = []) :
    Undoes collate [.dropIndex layout.name i.name, .dropTable layout.name]
      [.createTable layout] := by
  intro db db' hup
  rw [through_cons] at hup
  rcases Option.bind_eq_some_iff.1 hup with ⟨db₁, hexec, hdone⟩
  cases hdone
  have htables := (Option.some.inj (exec_eq_some.1 hexec)).symm
  have hnames := db'.valid.names
  rw [htables, List.map_append] at hnames
  have hfree : ∀ t ∈ db.tables, t.name ≠ layout.name := fun t ht hsame =>
    (List.disjoint_of_nodup_append hnames) (List.mem_map_of_mem ht) (by simp [hsame])
  have hmem : (⟨layout, []⟩ : Table) ∈ db'.tables := by
    rw [htables]
    exact List.mem_append_right _ (List.mem_singleton_self _)
  have hdrop : ∃ t', (⟨layout, []⟩ : Table).dropIndex? i.name = some t' ∧ t'.name = layout.name ∧
      t'.foreignKeys = [] :=
    ⟨_, if_pos (List.mem_map_of_mem hi), rfl, hkeys⟩
  rcases hdrop with ⟨t', hdropped, hname, hkeys'⟩
  -- The older tables refer to each other only.
  have hunreferred : ∀ x ∈ db'.tables, ∀ fk ∈ x.foreignKeys, fk.table ≠ layout.name := by
    intro x hx fk hfk hsame
    rw [htables] at hx
    rcases List.mem_append.1 hx with hold | hnew
    · rcases db.valid.refers hold hfk with ⟨t', ht', hname⟩
      exact hfree t' ht' (hname.trans hsame)
    · rw [List.mem_singleton.1 hnew] at hfk
      rw [hkeys] at hfk
      exact absurd hfk List.not_mem_nil
  have hvalid := (Valid.replace db'.valid hmem hname hkeys' hunreferred).2
    ((db'.valid.each _ hmem).dropIndex hdropped)
  have hfirst : exec (.dropIndex layout.name i.name) db' = some ⟨_, hvalid⟩ :=
    exec_eq_some.2 ((alter_eq_some db'.valid.names).2 ⟨_, hmem, rfl, _, hdropped, rfl⟩)
  have hleft : (Schema.replace layout.name t' db'.tables).filter (fun t => t.name ≠ layout.name) =
      db.tables := by
    rw [htables, Schema.replace, filter_map_self, List.filter_append,
      List.filter_cons_of_neg (by simp), List.filter_nil, List.append_nil]
    · exact List.filter_eq_self.2 fun t ht => decide_eq_true (hfree t ht)
    · exact fun t ht => if_neg (of_decide_eq_true ht)
    · intro t ht
      have hsame : t.name = layout.name := by simpa using ht
      simp [hsame, hname]
  have hnamed : layout.name ∈
      (Schema.replace layout.name t' db'.tables).map fun t => t.name := by
    rw [replace_names hname]
    exact List.mem_map_of_mem hmem
  have hsecond : exec (.dropTable layout.name) (⟨_, hvalid⟩ : Database collate) = some db := by
    refine exec_eq_some.2 ?_
    change (if layout.name ∈ (Schema.replace layout.name t' db'.tables).map fun t => t.name then
      some ((Schema.replace layout.name t' db'.tables).filter fun t => t.name ≠ layout.name)
      else none) = some db.tables
    rw [if_pos hnamed, hleft]
  rw [through_cons, hfirst, Option.bind_some, through_cons, hsecond]
  rfl

end Tables

end Schema
end Sql
end IdentityBillpay
