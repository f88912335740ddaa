import Mathlib.Data.List.Basic
import Mathlib.Data.List.Nodup
import Mathlib.Data.List.Perm.Subperm

/-!
# Table — rows under a primary key and one unique index

A table carries its constraints: no two rows share an id, and no two share the value of the
declared unique index. A write that would break one of them is refused.

* `Table.findOne` — some row that matches (which one is up to the database);
* `Table.modify` — change the rows that match;
* `Table.save?` — write a whole row over the row with its id, or append it;
* `Table.insert?`, `Table.insertAll?` — append one row with a new id, or several at once;
* `Table.delete` — remove the rows that match;
* `IndexedTable` — a table with a second unique index;
* `commit` — a write as its caller sees it: accepted and done, or refused without effect.
-/

namespace IdentityBillpay
namespace Sql

/-- Rows of type `ρ`, with primary key `id` and unique index `key`. -/
structure Table {ρ ι κ : Type} (id : ρ → ι) (key : ρ → κ) where
  rows : List ρ
  ids : (rows.map id).Nodup
  keys : (rows.map key).Nodup

namespace Table

variable {ρ ι κ : Type} {id : ρ → ι} {key : ρ → κ}

instance : Membership ρ (Table id key) where
  mem t r := r ∈ t.rows

theorem mem_rows {t : Table id key} {r : ρ} : r ∈ t.rows ↔ r ∈ t := Iff.rfl

instance [DecidableEq ρ] (t : Table id key) (r : ρ) : Decidable (r ∈ t) :=
  inferInstanceAs (Decidable (r ∈ t.rows))

instance decidableBall (t : Table id key) (p : ρ → Prop) [DecidablePred p] :
    Decidable (∀ r ∈ t, p r) :=
  inferInstanceAs (Decidable (∀ r ∈ t.rows, p r))

instance decidableBex (t : Table id key) (p : ρ → Prop) [DecidablePred p] :
    Decidable (∃ r ∈ t, p r) :=
  inferInstanceAs (Decidable (∃ r ∈ t.rows, p r))

/-- A table without rows. -/
def empty : Table id key := ⟨[], List.nodup_nil, List.nodup_nil⟩

theorem eq_of_id {t : Table id key} {r r' : ρ} (hr : r ∈ t) (hr' : r' ∈ t) (h : id r = id r') :
    r = r' :=
  List.inj_on_of_nodup_map t.ids hr hr' h

theorem eq_of_key {t : Table id key} {r r' : ρ} (hr : r ∈ t) (hr' : r' ∈ t)
    (h : key r = key r') : r = r' :=
  List.inj_on_of_nodup_map t.keys hr hr' h

/-! ## Reading -/

def find (t : Table id key) (p : ρ → Bool) : List ρ :=
  t.rows.filter p

/-- Some row that matches, if there is one. -/
def findOne (t : Table id key) (p : ρ → Bool) (pick : Nat) : Option ρ :=
  (t.find p)[pick % (t.find p).length]?

@[simp] theorem mem_find {t : Table id key} {p : ρ → Bool} {r : ρ} :
    r ∈ t.find p ↔ r ∈ t ∧ p r = true :=
  List.mem_filter

theorem findOne_some {t : Table id key} {p : ρ → Bool} {pick : Nat} {r : ρ}
    (h : t.findOne p pick = some r) : r ∈ t ∧ p r = true :=
  mem_find.1 (List.mem_of_getElem? h)

theorem findOne_eq_none {t : Table id key} {p : ρ → Bool} {pick : Nat} :
    t.findOne p pick = none ↔ ∀ r ∈ t, p r = false := by
  constructor
  · intro h r hr
    have hle : (t.find p).length ≤ pick % (t.find p).length := List.getElem?_eq_none_iff.1 h
    have hnil : t.find p = [] := by
      cases hrows : t.find p with
      | nil => rfl
      | cons a l =>
          have hlt : pick % (t.find p).length < (t.find p).length :=
            Nat.mod_lt _ (by simp [hrows])
          omega
    simpa using List.filter_eq_nil_iff.1 hnil r hr
  · intro h
    have hnil : t.find p = [] := List.filter_eq_nil_iff.2 fun r hr => by simp [h r hr]
    simp [findOne, hnil]

/-- With one matching row, that row is found. -/
theorem findOne_of_unique {t : Table id key} {p : ρ → Bool} (pick : Nat) {r : ρ} (hr : r ∈ t)
    (hp : p r = true) (huniq : ∀ r' ∈ t, p r' = true → r' = r) :
    t.findOne p pick = some r := by
  cases hfound : t.findOne p pick with
  | none =>
      have hfalse := findOne_eq_none.1 hfound r hr
      simp [hp] at hfalse
  | some r' =>
      have hr' := findOne_some hfound
      rw [huniq r' hr'.1 hr'.2]

theorem nodup_rows (t : Table id key) : t.rows.Nodup :=
  t.ids.of_map id

theorem find_of_unique {t : Table id key} {p : ρ → Bool} {r : ρ} (hr : r ∈ t) (hp : p r = true)
    (huniq : ∀ r' ∈ t, p r' = true → r' = r) : t.find p = [r] := by
  have hmem : ∀ r', r' ∈ t.find p ↔ r' ∈ [r] := by
    intro r'
    rw [mem_find, List.mem_singleton]
    constructor
    · rintro ⟨hr', hp'⟩
      exact huniq r' hr' hp'
    · rintro rfl
      exact ⟨hr, hp⟩
  have hnodup : (t.find p).Nodup := t.nodup_rows.filter p
  exact List.perm_singleton.1 ((List.perm_ext_iff_of_nodup hnodup (List.nodup_singleton r)).2 hmem)

/-- Any matching row may be the one found. -/
theorem exists_findOne {t : Table id key} {p : ρ → Bool} {r : ρ} (hr : r ∈ t)
    (hp : p r = true) : ∃ pick, t.findOne p pick = some r := by
  rcases List.mem_iff_getElem?.1 (mem_find.2 ⟨hr, hp⟩) with ⟨n, hn⟩
  have hlt : n < (t.find p).length := (List.getElem?_eq_some_iff.1 hn).1
  exact ⟨n, by rw [findOne, Nat.mod_eq_of_lt hlt, hn]⟩

/-- As many rows are found as ids are looked for exactly if no id is repeated and each has a row. -/
theorem find_length_iff [DecidableEq ι] {t : Table id key} {p : ρ → Bool} {ids : List ι} :
    (t.find fun r => ids.contains (id r) && p r).length = ids.length ↔
      ids.Nodup ∧ ∀ i ∈ ids, ∃ r ∈ t, id r = i ∧ p r = true := by
  have hnodup : ((t.find fun r => ids.contains (id r) && p r).map id).Nodup :=
    t.ids.sublist (List.filter_sublist.map id)
  have hmem : ∀ i, i ∈ (t.find fun r => ids.contains (id r) && p r).map id ↔
      i ∈ ids ∧ ∃ r ∈ t, id r = i ∧ p r = true := by
    intro i
    rw [List.mem_map]
    constructor
    · intro h
      rcases h with ⟨r, hr, rfl⟩
      have hfound := mem_find.1 hr
      simp only [Bool.and_eq_true, List.contains_iff_mem] at hfound
      exact ⟨hfound.2.1, r, hfound.1, rfl, hfound.2.2⟩
    · intro h
      rcases h with ⟨hi, r, hr, rfl, hp⟩
      exact ⟨r, mem_find.2 ⟨hr, by simp [hi, hp]⟩, rfl⟩
  constructor
  · intro hlen
    -- The ids that are found are among those looked for, and as many.
    have hsub := hnodup.subperm fun i hi => ((hmem i).1 hi).1
    have hperm := hsub.perm_of_length_le (Nat.le_of_eq (hlen.symm.trans (List.length_map id).symm))
    exact ⟨hperm.nodup_iff.1 hnodup, fun i hi => ((hmem i).1 (hperm.mem_iff.2 hi)).2⟩
  · intro h
    have hperm := (List.perm_ext_iff_of_nodup hnodup h.1).2 fun i =>
      (hmem i).trans (and_iff_left_of_imp (h.2 i))
    simpa using hperm.length_eq

/-- Two tables with the same rows of one kind find the same row of that kind under an id, or none of
that kind. -/
theorem findOne_agree {t t' : Table id key} {own p : ρ → Bool} {i : ι}
    (h : t'.find own = t.find own) (hp : ∀ r, p r = true ↔ id r = i) (pick : Nat) :
    (∃ r, own r = true ∧ t.findOne p pick = some r ∧ t'.findOne p pick = some r) ∨
      ((∀ r, t.findOne p pick = some r → own r = false) ∧
        ∀ r, t'.findOne p pick = some r → own r = false) := by
  have hfound : ∀ {t : Table id key} {r}, r ∈ t → p r = true → t.findOne p pick = some r := by
    intro t r hr hpr
    refine findOne_of_unique pick hr hpr fun r' hr' hpr' => ?_
    exact eq_of_id hr' hr (((hp r').1 hpr').trans ((hp r).1 hpr).symm)
  by_cases hown : ∃ r ∈ t, p r = true ∧ own r = true
  · rcases hown with ⟨r, hr, hpr, hownr⟩
    have hr' : r ∈ t'.find own := h ▸ mem_find.2 ⟨hr, hownr⟩
    exact .inl ⟨r, hownr, hfound hr hpr, hfound (mem_find.1 hr').1 hpr⟩
  · refine .inr ⟨fun r hr => ?_, fun r hr => ?_⟩
    · by_contra hnot
      exact hown ⟨r, (findOne_some hr).1, (findOne_some hr).2, by simpa using hnot⟩
    · by_contra hnot
      have hmem : r ∈ t.find own := h ▸ mem_find.2 ⟨(findOne_some hr).1, by simpa using hnot⟩
      exact hown ⟨r, (mem_find.1 hmem).1, (findOne_some hr).2, (mem_find.1 hmem).2⟩

/-! ## Writing -/

/-- `UPDATE … WHERE`: every row that matches is changed, in columns outside the keys. -/
def modify (t : Table id key) (p : ρ → Bool) (f : ρ → ρ) (hid : ∀ r, id (f r) = id r)
    (hkey : ∀ r, key (f r) = key r) : Table id key where
  rows := t.rows.map fun r => if p r then f r else r
  ids := by
    have hsame : (t.rows.map fun r => if p r then f r else r).map id = t.rows.map id := by
      rw [List.map_map]
      refine List.map_congr_left fun r _ => ?_
      by_cases h : p r <;> simp [h, hid]
    rw [hsame]
    exact t.ids
  keys := by
    have hsame : (t.rows.map fun r => if p r then f r else r).map key = t.rows.map key := by
      rw [List.map_map]
      refine List.map_congr_left fun r _ => ?_
      by_cases h : p r <;> simp [h, hkey]
    rw [hsame]
    exact t.keys

theorem mem_modify {t : Table id key} {p : ρ → Bool} {f : ρ → ρ} (hid : ∀ r, id (f r) = id r)
    (hkey : ∀ r, key (f r) = key r) {x : ρ} :
    x ∈ t.modify p f hid hkey ↔ ∃ r ∈ t, x = if p r then f r else r := by
  constructor
  · intro hx
    rcases List.mem_map.1 hx with ⟨r, hr, rfl⟩
    exact ⟨r, hr, rfl⟩
  · intro hx
    rcases hx with ⟨r, hr, rfl⟩
    exact List.mem_map.2 ⟨r, hr, rfl⟩

/-- `DELETE … WHERE`. -/
def delete (t : Table id key) (p : ρ → Bool) : Table id key where
  rows := t.rows.filter fun r => !p r
  ids := t.ids.sublist (List.filter_sublist.map id)
  keys := t.keys.sublist (List.filter_sublist.map key)

@[simp] theorem mem_delete {t : Table id key} {p : ρ → Bool} {r : ρ} :
    r ∈ t.delete p ↔ r ∈ t ∧ p r = false := by
  rw [← mem_rows, delete, List.mem_filter, Bool.not_eq_true', mem_rows]

section Writing

variable [DecidableEq ι]

/-- Replace the row with `r`'s id by `r`. -/
def replace (id : ρ → ι) (r : ρ) (rows : List ρ) : List ρ :=
  rows.map fun r' => if id r' = id r then r else r'

theorem map_id_replace (r : ρ) (rows : List ρ) : (replace id r rows).map id = rows.map id := by
  simp only [replace, List.map_map]
  refine List.map_congr_left fun r' _ => ?_
  by_cases h : id r' = id r
  · simp [h]
  · simp [h]

theorem mem_replace {r x : ρ} {rows : List ρ} (hr : ∃ r' ∈ rows, id r' = id r) :
    x ∈ replace id r rows ↔ x = r ∨ (x ∈ rows ∧ id x ≠ id r) := by
  constructor
  · intro hx
    rcases List.mem_map.1 hx with ⟨r', hr', rfl⟩
    by_cases h : id r' = id r
    · simp [h]
    · simp [h, hr']
  · intro hx
    rcases hx with rfl | ⟨hx, hne⟩
    · rcases hr with ⟨r', hr', hid⟩
      exact List.mem_map.2 ⟨r', hr', by simp [hid]⟩
    · exact List.mem_map.2 ⟨x, hx, by simp [hne]⟩

theorem nodup_keys_replace {r : ρ} {rows : List ρ} (hids : (rows.map id).Nodup)
    (hkeys : (rows.map key).Nodup) (hr : ∃ r' ∈ rows, id r' = id r)
    (hfree : ∀ r' ∈ rows, key r' = key r → id r' = id r) :
    ((replace id r rows).map key).Nodup := by
  have hnodup : (replace id r rows).Nodup := by
    apply List.Nodup.of_map id
    rw [map_id_replace]
    exact hids
  refine List.Nodup.map_on ?_ hnodup
  intro x hx y hy hxy
  rcases (mem_replace hr).1 hx with rfl | ⟨hxr, hxne⟩
  · rcases (mem_replace hr).1 hy with rfl | ⟨hyr, hyne⟩
    · rfl
    · exact absurd (hfree y hyr hxy.symm) hyne
  · rcases (mem_replace hr).1 hy with rfl | ⟨hyr, hyne⟩
    · exact absurd (hfree x hxr hxy) hxne
    · exact List.inj_on_of_nodup_map hkeys hxr hyr hxy

variable [DecidableEq κ]

/-- Append a row; refused when its id or its key is in use. -/
def insert? (t : Table id key) (r : ρ) : Option (Table id key) :=
  if h : (∀ r' ∈ t.rows, id r' ≠ id r) ∧ (∀ r' ∈ t.rows, key r' ≠ key r) then
    some
      { rows := t.rows ++ [r]
        ids := by
          rw [List.map_append, List.map_singleton]
          exact t.ids.append (List.nodup_singleton _) (by simpa [List.disjoint_left] using h.1)
        keys := by
          rw [List.map_append, List.map_singleton]
          exact t.keys.append (List.nodup_singleton _) (by simpa [List.disjoint_left] using h.2) }
  else none

/-- Append several rows; refused as a whole when one of them is. -/
def insertAll? (t : Table id key) : List ρ → Option (Table id key)
  | [] => some t
  | r :: rows => (t.insert? r).bind fun t' => insertAll? t' rows

/-- The table of the given rows; a row that a constraint refuses is left out. -/
def ofRows (id : ρ → ι) (key : ρ → κ) (rows : List ρ) : Table id key :=
  rows.foldl (fun t r => (t.insert? r).getD t) empty

/-- Write a whole row: over the row with its id when there is one, else appended. Refused when
another row holds its key. -/
def save? (t : Table id key) (r : ρ) : Option (Table id key) :=
  -- An update of the row with this id, or an insert if there is none.
  if hr : ∃ r' ∈ t.rows, id r' = id r then
    if h : ∀ r' ∈ t.rows, key r' = key r → id r' = id r then
      some
        { rows := replace id r t.rows
          ids := by
            rw [map_id_replace]
            exact t.ids
          keys := nodup_keys_replace t.ids t.keys hr h }
    else none
  else t.insert? r

/-- A row is inserted behind the others. -/
theorem rows_insert? {t t' : Table id key} {r : ρ} (h : t.insert? r = some t') :
    t'.rows = t.rows ++ [r] := by
  unfold insert? at h
  split at h
  · rw [← Option.some.inj h]
  · cases h

theorem mem_insert? {t t' : Table id key} {r x : ρ} (h : t.insert? r = some t') :
    x ∈ t' ↔ x ∈ t ∨ x = r := by
  rw [← mem_rows, rows_insert? h]
  simp [mem_rows]

theorem insert?_fresh {t t' : Table id key} {r r' : ρ} (h : t.insert? r = some t')
    (hr' : r' ∈ t) : id r' ≠ id r ∧ key r' ≠ key r := by
  unfold insert? at h
  split at h
  · rename_i hfree
    exact ⟨hfree.1 r' hr', hfree.2 r' hr'⟩
  · cases h

/-- A row with a new id and a new key is not refused. -/
theorem exists_insert? {t : Table id key} {r : ρ} (hid : ∀ r' ∈ t, id r' ≠ id r)
    (hkey : ∀ r' ∈ t, key r' ≠ key r) : ∃ t', t.insert? r = some t' := by
  rw [insert?, dif_pos ⟨hid, hkey⟩]
  exact ⟨_, rfl⟩

theorem rows_insertAll? {t t' : Table id key} {rows : List ρ} (h : t.insertAll? rows = some t') :
    t'.rows = t.rows ++ rows := by
  induction rows generalizing t with
  | nil =>
      have hsame : t = t' := Option.some.inj h
      simp [hsame]
  | cons r rows ih =>
      rcases Option.bind_eq_some_iff.1 h with ⟨t₁, hfirst, hrest⟩
      rw [ih hrest, rows_insert? hfirst, List.append_assoc, List.singleton_append]

theorem mem_insertAll? {t t' : Table id key} {rows : List ρ} {x : ρ}
    (h : t.insertAll? rows = some t') : x ∈ t' ↔ x ∈ t ∨ x ∈ rows := by
  induction rows generalizing t with
  | nil =>
      have hsame : t = t' := Option.some.inj h
      simp [hsame]
  | cons r rows ih =>
      rcases Option.bind_eq_some_iff.1 h with ⟨t₁, hfirst, hrest⟩
      rw [ih hrest, mem_insert? hfirst, List.mem_cons, or_assoc]

/-- Rows that are inserted together differ in their keys. -/
theorem insertAll?_keys {t t' : Table id key} {rows : List ρ} (h : t.insertAll? rows = some t') :
    (rows.map key).Nodup := by
  have hkeys := t'.keys
  rw [rows_insertAll? h, List.map_append] at hkeys
  exact (List.nodup_append.1 hkeys).2.1

/-- The keys of the rows that are inserted are new. -/
theorem insertAll?_fresh {t t' : Table id key} {rows : List ρ} (h : t.insertAll? rows = some t')
    {r x : ρ} (hr : r ∈ t) (hx : x ∈ rows) : key r ≠ key x := by
  have hkeys := t'.keys
  rw [rows_insertAll? h, List.map_append] at hkeys
  exact (List.nodup_append.1 hkeys).2.2 _ (List.mem_map_of_mem hr) _ (List.mem_map_of_mem hx)

/-- Rows with new ids and new keys, which differ among each other, are not refused. -/
theorem exists_insertAll? {t : Table id key} {rows : List ρ} (hids : (rows.map id).Nodup)
    (hkeys : (rows.map key).Nodup) (hid : ∀ r ∈ rows, ∀ r' ∈ t, id r' ≠ id r)
    (hkey : ∀ r ∈ rows, ∀ r' ∈ t, key r' ≠ key r) : ∃ t', t.insertAll? rows = some t' := by
  induction rows generalizing t with
  | nil => exact ⟨t, rfl⟩
  | cons r rows ih =>
      rw [List.map_cons, List.nodup_cons] at hids hkeys
      rcases exists_insert? (hid r List.mem_cons_self) (hkey r List.mem_cons_self) with ⟨t₁, hfirst⟩
      have hrest : ∃ t', t₁.insertAll? rows = some t' := by
        refine ih hids.2 hkeys.2 ?_ ?_
        · intro x hx r' hr'
          rcases (mem_insert? hfirst).1 hr' with hold | rfl
          · exact hid x (List.mem_cons_of_mem r hx) r' hold
          · exact fun heq => hids.1 (heq ▸ List.mem_map_of_mem hx)
        · intro x hx r' hr'
          rcases (mem_insert? hfirst).1 hr' with hold | rfl
          · exact hkey x (List.mem_cons_of_mem r hx) r' hold
          · exact fun heq => hkeys.1 (heq ▸ List.mem_map_of_mem hx)
      rcases hrest with ⟨t', ht'⟩
      exact ⟨t', by rw [insertAll?, hfirst, Option.bind_some, ht']⟩

/-- A row is written in place of the one with its id. -/
theorem rows_save? {t t' : Table id key} {r : ρ} (h : t.save? r = some t')
    (hr : ∃ r' ∈ t, id r' = id r) : t'.rows = t.rows.map fun r' => if id r' = id r then r else r' := by
  have hrow : ∃ r' ∈ t.rows, id r' = id r := hr
  unfold save? at h
  rw [dif_pos hrow] at h
  split at h
  · rw [← Option.some.inj h]
    rfl
  · cases h

/-- The rows of one kind after a row is written over another of the same kind. -/
theorem find_save? {t t' : Table id key} {r r' : ρ} {own : ρ → Bool} (h : t.save? r = some t')
    (hr' : r' ∈ t) (hid : id r' = id r) (hown : own r' = own r) :
    t'.find own = (t.find own).map fun x => if id x = id r then r else x := by
  rw [find, rows_save? h ⟨r', hr', hid⟩, List.filter_map, find]
  refine congrArg _ (List.filter_congr fun x hx => ?_)
  by_cases hxid : id x = id r
  · have hxr : x = r' := eq_of_id hx hr' (hxid.trans hid.symm)
    rw [Function.comp_apply, if_pos hxid, hxr, hown]
  · rw [Function.comp_apply, if_neg hxid]

theorem find_insert? {t t' : Table id key} {r : ρ} {own : ρ → Bool} (h : t.insert? r = some t') :
    t'.find own = t.find own ++ [r].filter own := by
  rw [find, rows_insert? h, List.filter_append, find]

theorem mem_save? {t t' : Table id key} {r x : ρ} (h : t.save? r = some t') :
    x ∈ t' ↔ x = r ∨ (x ∈ t ∧ id x ≠ id r) := by
  unfold save? at h
  split at h
  · rename_i hr
    split at h
    · have hrows : t' = _ := (Option.some.inj h).symm
      rw [← mem_rows, hrows]
      exact mem_replace hr
    · cases h
  · rename_i hr
    rw [mem_insert? h]
    constructor
    · intro hx
      rcases hx with hx | rfl
      · exact .inr ⟨hx, fun hid => hr ⟨x, hx, hid⟩⟩
      · exact .inl rfl
    · intro hx
      rcases hx with rfl | ⟨hx, _⟩
      · exact .inr rfl
      · exact .inl hx

/-- Overwriting a stored row without changing its key is not refused. -/
theorem exists_save? {t : Table id key} {r r' : ρ} (hr' : r' ∈ t) (hid : id r' = id r)
    (hkey : key r' = key r) : ∃ t', t.save? r = some t' := by
  have hfree : ∀ x ∈ t.rows, key x = key r → id x = id r := by
    intro x hx hxr
    rw [eq_of_key hx hr' (hxr.trans hkey.symm), hid]
  rw [save?, dif_pos ⟨r', hr', hid⟩, dif_pos hfree]
  exact ⟨_, rfl⟩

end Writing

end Table

/-- A table with a second unique index, `key'`. -/
structure IndexedTable {ρ ι κ κ' : Type} (id : ρ → ι) (key : ρ → κ) (key' : ρ → κ') extends
    Table id key where
  keys' : (rows.map key').Nodup

namespace IndexedTable

variable {ρ ι κ κ' : Type} {id : ρ → ι} {key : ρ → κ} {key' : ρ → κ'}

instance : Membership ρ (IndexedTable id key key') where
  mem t r := r ∈ t.toTable

instance [DecidableEq ρ] (t : IndexedTable id key key') (r : ρ) : Decidable (r ∈ t) :=
  inferInstanceAs (Decidable (r ∈ t.rows))

instance decidableBall (t : IndexedTable id key key') (p : ρ → Prop) [DecidablePred p] :
    Decidable (∀ r ∈ t, p r) :=
  inferInstanceAs (Decidable (∀ r ∈ t.toTable, p r))

@[simp] theorem mem_toTable {t : IndexedTable id key key'} {r : ρ} : r ∈ t.toTable ↔ r ∈ t := Iff.rfl

def empty : IndexedTable id key key' := ⟨.empty, List.nodup_nil⟩

theorem eq_of_key' {t : IndexedTable id key key'} {r r' : ρ} (hr : r ∈ t) (hr' : r' ∈ t)
    (h : key' r = key' r') : r = r' :=
  List.inj_on_of_nodup_map t.keys' hr hr' h

variable [DecidableEq ι] [DecidableEq κ] [DecidableEq κ']

/-- Append a row; refused when its id or one of its keys is in use. -/
def insert? (t : IndexedTable id key key') (r : ρ) : Option (IndexedTable id key key') :=
  if h : ∀ r' ∈ t.rows, key' r' ≠ key' r then
    match ht : t.toTable.insert? r with
    | some t' =>
        some
          { t' with
            keys' := by
              rw [Table.rows_insert? ht, List.map_append, List.map_singleton]
              exact t.keys'.append (List.nodup_singleton _) (by simpa [List.disjoint_left] using h) }
    | none => none
  else none

theorem insert?_some {t t' : IndexedTable id key key'} {r : ρ} (h : t.insert? r = some t') :
    t.toTable.insert? r = some t'.toTable ∧ ∀ r' ∈ t, key' r' ≠ key' r := by
  unfold insert? at h
  split at h
  · rename_i hfree
    split at h
    · rename_i t₁ ht
      cases h
      exact ⟨ht, hfree⟩
    · cases h
  · cases h

theorem mem_insert? {t t' : IndexedTable id key key'} {r x : ρ} (h : t.insert? r = some t') :
    x ∈ t' ↔ x ∈ t ∨ x = r :=
  Table.mem_insert? (insert?_some h).1

theorem exists_insert? {t : IndexedTable id key key'} {r : ρ} (hid : ∀ r' ∈ t, id r' ≠ id r)
    (hkey : ∀ r' ∈ t, key r' ≠ key r) (hkey' : ∀ r' ∈ t, key' r' ≠ key' r) :
    ∃ t', t.insert? r = some t' := by
  rcases Table.exists_insert? hid hkey with ⟨t₁, ht⟩
  unfold insert?
  split
  · split
    · exact ⟨_, rfl⟩
    · rename_i hnone
      simp [ht] at hnone
  · rename_i hbusy
    exact absurd hkey' hbusy

/-- The table of the given rows; a row that a constraint refuses is left out. -/
def ofRows (id : ρ → ι) (key : ρ → κ) (key' : ρ → κ') (rows : List ρ) : IndexedTable id key key' :=
  rows.foldl (fun t r => (t.insert? r).getD t) empty

end IndexedTable

/-- A write is done when its constraints accept it and the database does not fail; otherwise it
throws and changes nothing. -/
def commit {S ε α : Type} (fails : Bool) (e : ε) (s : S) (accepted : Option (α × S)) :
    Except ε α × S :=
  match accepted with
  | some (a, s') => if fails then (.error e, s) else (.ok a, s')
  | none => (.error e, s)

theorem commit_ok {S ε α : Type} {fails : Bool} {e : ε} {s s' : S} {accepted : Option (α × S)}
    {a : α} (h : commit fails e s accepted = (.ok a, s')) : accepted = some (a, s') := by
  cases accepted with
  | none => cases h
  | some done =>
      cases fails with
      | true => cases h
      | false =>
          cases h
          rfl

/-- A write that throws changes nothing. -/
theorem commit_error {S ε α : Type} {fails : Bool} {e e' : ε} {s s' : S}
    {accepted : Option (α × S)} (h : commit fails e s accepted = (.error e', s')) :
    e' = e ∧ s' = s := by
  cases accepted with
  | none =>
      cases h
      exact ⟨rfl, rfl⟩
  | some done =>
      cases fails with
      | true =>
          cases h
          exact ⟨rfl, rfl⟩
      | false => cases h

/-- Two writes that are accepted alike are seen alike. -/
theorem commit_alike {S ε α : Type} {R : S → S → Prop} {fails : Bool} {e : ε} {s t : S}
    {left right : Option (α × S)} (hR : R s t)
    (h : Option.Rel (fun l r => r.1 = l.1 ∧ R l.2 r.2) left right) :
    (commit fails e t right).1 = (commit fails e s left).1 ∧
      R (commit fails e s left).2 (commit fails e t right).2 := by
  cases h with
  | none => exact ⟨rfl, hR⟩
  | some h =>
      cases fails with
      | true => exact ⟨rfl, hR⟩
      | false => exact ⟨congrArg Except.ok h.1, h.2⟩

end Sql
end IdentityBillpay
