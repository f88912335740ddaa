import Mathlib.Data.List.Forall2
import Mathlib.Data.List.Induction
import IdentityBillpay.Sql.Table

/-!
# Upsert — loops that look a row up and write it

For each of a list of entries, a row is looked up and written over, or inserted when there is none.

* `save?_self` — writing a stored row as it is changes nothing;
* `putAll_putAll` — a list of writes done once more changes nothing;
* `Upserts` — the loop where a unique key is looked up, and what it leaves;
* `Registers` — the loop where the key is not unique, and the same one of the matching rows is found
  each time.
-/

namespace IdentityBillpay
namespace Sql
namespace Table

variable {ρ ι κ : Type} {id : ρ → ι} {key : ρ → κ}

/-- A table is its rows; the rest of it is proofs. -/
theorem ext_rows {t t' : Table id key} (h : t.rows = t'.rows) : t = t' := by
  cases t with
  | mk rows ids keys =>
      cases t' with
      | mk rows' ids' keys' =>
          cases h
          rfl

/-! ## Writes -/

section Put

variable [DecidableEq ι]

/-- Write a row over the row with its id, or behind the others. -/
def put (id : ρ → ι) (rows : List ρ) (r : ρ) : List ρ :=
  if ∃ x ∈ rows, id x = id r then replace id r rows else rows ++ [r]

def putAll (id : ρ → ι) (rows writes : List ρ) : List ρ :=
  writes.foldl (put id) rows

theorem mem_put {rows : List ρ} {r x : ρ} :
    x ∈ put id rows r ↔ x = r ∨ (x ∈ rows ∧ id x ≠ id r) := by
  unfold put
  split
  · next hr => exact mem_replace hr
  · next hr =>
      rw [List.mem_append, List.mem_singleton, or_comm]
      refine or_congr_right ⟨fun hx => ⟨hx, fun hid => hr ⟨x, hx, hid⟩⟩, fun hx => hx.1⟩

theorem exists_mem_put {rows : List ρ} {r x : ρ} (hx : x ∈ rows ∨ x = r) :
    ∃ y ∈ put id rows r, id y = id x := by
  by_cases hid : id x = id r
  · exact ⟨r, mem_put.2 (.inl rfl), hid.symm⟩
  · have hold : x ∈ rows := hx.resolve_right fun h => hid (by rw [h])
    exact ⟨x, mem_put.2 (.inr ⟨hold, hid⟩), rfl⟩

theorem exists_mem_putAll {rows writes : List ρ} {x : ρ} (hx : x ∈ rows ∨ x ∈ writes) :
    ∃ y ∈ putAll id rows writes, id y = id x := by
  induction writes generalizing rows x with
  | nil => exact ⟨x, hx.resolve_right List.not_mem_nil, rfl⟩
  | cons w writes ih =>
      rw [List.mem_cons, ← or_assoc] at hx
      rcases hx with hx | hx
      · obtain ⟨y, hy, hyx⟩ : ∃ y ∈ put id rows w, id y = id x := exists_mem_put hx
        obtain ⟨z, hz, hzy⟩ := ih (.inl hy)
        exact ⟨z, hz, hzy.trans hyx⟩
      · exact ih (.inr hx)

/-- What a write leaves in the place of a row. -/
def overlay (id : ρ → ι) (x w : ρ) : ρ :=
  if id x = id w then w else x

def latest (id : ρ → ι) (writes : List ρ) (x : ρ) : ρ :=
  writes.foldl (overlay id) x

theorem id_overlay (x w : ρ) : id (overlay id x w) = id x := by
  unfold overlay
  split
  · next hid => exact hid.symm
  · rfl

theorem id_latest (writes : List ρ) (x : ρ) : id (latest id writes x) = id x := by
  induction writes generalizing x with
  | nil => rfl
  | cons w writes ih => exact (ih (overlay id x w)).trans (id_overlay x w)

/-- Writes over stored rows keep the rows in their places. -/
theorem putAll_eq_map {rows writes : List ρ} (h : ∀ w ∈ writes, ∃ x ∈ rows, id x = id w) :
    putAll id rows writes = rows.map (latest id writes) := by
  induction writes generalizing rows with
  | nil => exact (List.map_id rows).symm
  | cons w writes ih =>
      have hfirst : put id rows w = replace id w rows := if_pos (h w List.mem_cons_self)
      have hrest : ∀ w' ∈ writes, ∃ x ∈ replace id w rows, id x = id w' := by
        intro w' hw'
        have hids : (replace id w rows).map id = rows.map id := map_id_replace w rows
        obtain ⟨x, hx, hid⟩ := h w' (List.mem_cons_of_mem w hw')
        have hmem : id x ∈ (replace id w rows).map id := hids ▸ List.mem_map_of_mem hx
        rcases List.mem_map.1 hmem with ⟨y, hy, hyx⟩
        exact ⟨y, hy, hyx.trans hid⟩
      calc putAll id rows (w :: writes) = putAll id (replace id w rows) writes := by
            rw [putAll, List.foldl_cons, hfirst, putAll]
        _ = (replace id w rows).map (latest id writes) := ih hrest
        _ = rows.map (latest id (w :: writes)) := by
            rw [replace, List.map_map]
            rfl

/-- What the writes have left stays as it is under the same writes. By induction from the last write
on, which decides about its own row. -/
theorem latest_of_mem_putAll {rows writes : List ρ} {x : ρ} (h : x ∈ putAll id rows writes) :
    latest id writes x = x := by
  induction writes using List.reverseRecOn generalizing x with
  | nil => rfl
  | append_singleton writes w ih =>
      have hlatest : latest id (writes ++ [w]) x = overlay id (latest id writes x) w := by
        simp [latest]
      have hput : x ∈ put id (putAll id rows writes) w := by
        simpa [putAll] using h
      rw [hlatest]
      rcases mem_put.1 hput with rfl | ⟨hx, hne⟩
      · exact if_pos (id_latest writes x)
      · rw [ih hx]
        exact if_neg hne

/-- A list of writes done once more changes nothing. -/
theorem putAll_putAll (rows writes : List ρ) :
    putAll id (putAll id rows writes) writes = putAll id rows writes := by
  have hstored : ∀ w ∈ writes, ∃ x ∈ putAll id rows writes, id x = id w :=
    fun w hw => exists_mem_putAll (.inr hw)
  calc putAll id (putAll id rows writes) writes
      = (putAll id rows writes).map (latest id writes) := putAll_eq_map hstored
    _ = (putAll id rows writes).map fun x => x :=
        List.map_congr_left fun x hx => latest_of_mem_putAll hx
    _ = putAll id rows writes := List.map_id' _

end Put

section Tables

variable [DecidableEq ι] [DecidableEq κ] {t t' : Table id key} {r : ρ}

theorem rows_save?_put (h : t.save? r = some t') : t'.rows = put id t.rows r := by
  by_cases hr : ∃ x ∈ t.rows, id x = id r
  · rw [rows_save? h hr, put, if_pos hr, replace]
  · rw [save?, dif_neg hr] at h
    rw [rows_insert? h, put, if_neg hr]

theorem rows_insert?_put (h : t.insert? r = some t') : t'.rows = put id t.rows r := by
  have hr : ¬ ∃ x ∈ t.rows, id x = id r := fun ⟨x, hx, hid⟩ => (insert?_fresh h hx).1 hid
  rw [rows_insert? h, put, if_neg hr]

/-- A stored row that is written as it is changes nothing. -/
theorem save?_self (hr : r ∈ t) (h : t.save? r = some t') : t' = t := by
  refine ext_rows ?_
  rw [rows_save? h ⟨r, hr, rfl⟩]
  refine (List.map_congr_left fun x hx => ?_).trans (List.map_id _)
  by_cases hid : id x = id r
  · rw [if_pos hid, eq_of_id hx hr hid]
    rfl
  · exact if_neg hid

/-- The rows of `t'` have old ids, and the new one. -/
def OldIds (t t' : Table id key) (i : ι) : Prop :=
  ∀ x ∈ t', (∃ y ∈ t, id y = id x) ∨ id x = i

theorem oldIds_save? (i : ι) {b : ρ} (hb : b ∈ t) (hid : id b = id r)
    (h : t.save? r = some t') : OldIds t t' i := by
  intro x hx
  rcases (mem_save? h).1 hx with rfl | ⟨hold, -⟩
  · exact .inl ⟨b, hb, hid⟩
  · exact .inl ⟨x, hold, rfl⟩

theorem oldIds_insert? (h : t.insert? r = some t') : OldIds t t' (id r) := by
  intro x hx
  rcases (mem_insert? h).1 hx with hold | rfl
  · exact .inl ⟨x, hold, rfl⟩
  · exact .inr rfl

end Tables

/-! ## Upserts by a unique key -/

/-- What a loop writes for an entry: the entry's key, and the row that is made of the entry, of the
row found under the key and of an id. Making a row out of itself gives the row again. -/
structure Maker {ρ ι κ : Type} (id : ρ → ι) (key : ρ → κ) (ε : Type) where
  entryKey : ε → κ
  make : ε → Option ρ → ι → ρ
  id_make : ∀ e found i, id (make e found i) = i
  key_make : ∀ e found i, key (make e found i) = entryKey e
  make_make : ∀ e found i, make e (some (make e found i)) i = make e found i

section ByKey

variable [DecidableEq ι] [DecidableEq κ] {ε : Type} (m : Maker id key ε)

inductive Upsert (e : ε) (t t' : Table id key) : Prop
  | update {b : ρ} (hb : b ∈ t) (hkey : key b = m.entryKey e)
      (h : t.save? (m.make e (some b) (id b)) = some t')
  | create {i : ι} (hfree : ∀ b ∈ t, key b ≠ m.entryKey e)
      (h : t.insert? (m.make e none i) = some t')

/-- One upsert after the other. -/
inductive Upserts : List ε → Table id key → Table id key → Prop
  | nil (t : Table id key) : Upserts [] t t
  | cons {e : ε} {es : List ε} {t t₁ t' : Table id key} (h : Upsert m e t t₁)
      (hrest : Upserts es t₁ t') : Upserts (e :: es) t t'

/-- The row an upsert makes: of the row that was there before, if there was one. -/
def Made (e : ε) (t : Table id key) (r : ρ) : Prop :=
  (∃ b ∈ t, key b = m.entryKey e ∧ r = m.make e (some b) (id b)) ∨
    ((∀ b ∈ t, key b ≠ m.entryKey e) ∧ ∃ i, r = m.make e none i)

variable {m} {e : ε} {es : List ε} {t t' t'' : Table id key} {x : ρ}

/-- A lookup under the entry's key, and the write that its outcome asks for. -/
theorem exists_upsert (m : Maker id key ε) (e : ε) {p : ρ → Bool} {i : ι} (pick : Nat)
    (hp : ∀ r, p r = true ↔ key r = m.entryKey e) (hfresh : ∀ b ∈ t, id b ≠ i) :
    ∃ t', Upsert m e t t' ∧ OldIds t t' i ∧
      ((∃ b, t.findOne p pick = some b ∧ t.save? (m.make e (some b) (id b)) = some t') ∨
        (t.findOne p pick = none ∧ t.insert? (m.make e none i) = some t')) := by
  cases hfound : t.findOne p pick with
  | some b =>
      obtain ⟨hb, hmatch⟩ := findOne_some hfound
      have hkey := (hp b).1 hmatch
      obtain ⟨t', h⟩ := exists_save? (r := m.make e (some b) (id b)) hb (m.id_make e _ _).symm
        (hkey.trans (m.key_make e _ _).symm)
      exact ⟨t', .update hb hkey h, oldIds_save? i hb (m.id_make e _ _).symm h, .inl ⟨b, rfl, h⟩⟩
  | none =>
      have hfree : ∀ b ∈ t, key b ≠ m.entryKey e := by
        intro b hb hkey
        have hout := findOne_eq_none.1 hfound b hb
        rw [(hp b).2 hkey] at hout
        cases hout
      obtain ⟨t', h⟩ := exists_insert? (t := t) (r := m.make e none i)
        (fun b hb => by rw [m.id_make]; exact hfresh b hb)
        (fun b hb => by rw [m.key_make]; exact hfree b hb)
      have hids := oldIds_insert? h
      rw [m.id_make] at hids
      exact ⟨t', .create hfree h, hids, .inr ⟨rfl, h⟩⟩

theorem Upsert.made (h : Upsert m e t t') : ∃ r ∈ t', Made m e t r := by
  cases h with
  | update hb hkey h => exact ⟨_, (mem_save? h).2 (.inl rfl), .inl ⟨_, hb, hkey, rfl⟩⟩
  | create hfree h => exact ⟨_, (mem_insert? h).2 (.inr rfl), .inr ⟨hfree, _, rfl⟩⟩

/-- Rows with other keys are left alone. -/
theorem Upsert.frame (h : Upsert m e t t') (hx : key x ≠ m.entryKey e) : x ∈ t' ↔ x ∈ t := by
  cases h with
  | @update b hb hkey h =>
      rw [mem_save? h, m.id_make]
      constructor
      · rintro (rfl | ⟨hold, -⟩)
        · exact absurd (m.key_make e (some b) (id b)) hx
        · exact hold
      · intro hold
        -- The row with the id of the one found is the one found.
        exact .inr ⟨hold, fun hid => hx (by rw [eq_of_id hold hb hid, hkey])⟩
  | @create i hfree h =>
      rw [mem_insert? h, or_iff_left]
      rintro rfl
      exact hx (m.key_make e none i)

/-- No row is removed, and each keeps its id and its key. -/
theorem Upsert.kept (h : Upsert m e t t') (hx : x ∈ t) : ∃ y ∈ t', id y = id x ∧ key y = key x := by
  by_cases hkey : key x = m.entryKey e
  · cases h with
    | @update b hb hkey' h =>
        rw [eq_of_key hx hb (hkey.trans hkey'.symm)]
        exact ⟨_, (mem_save? h).2 (.inl rfl), m.id_make e _ _, (m.key_make e _ _).trans hkey'.symm⟩
    | create hfree h => exact absurd hkey (hfree x hx)
  · exact ⟨x, (h.frame hkey).2 hx, rfl, rfl⟩

/-- Where the row an entry makes is stored already, its upsert changes nothing. -/
theorem Upsert.again (h : Upsert m e t t') {found : Option ρ} {i : ι} (hr : m.make e found i ∈ t) :
    t' = t := by
  cases h with
  | @update b hb hkey h =>
      have hsame : b = m.make e found i := eq_of_key hb hr (hkey.trans (m.key_make e found i).symm)
      have hmade : m.make e (some b) (id b) = m.make e found i := by
        rw [hsame, m.id_make, m.make_make]
      rw [hmade] at h
      exact save?_self hr h
  | create hfree h => exact absurd (m.key_make e found i) (hfree _ hr)

theorem Upserts.append {es' : List ε} {t₁ : Table id key} (h : Upserts m es t t₁)
    (h' : Upserts m es' t₁ t') : Upserts m (es ++ es') t t' := by
  induction h with
  | nil t => exact h'
  | cons h _ ih => exact .cons h (ih h')

theorem Upserts.frame (h : Upserts m es t t') (hx : ∀ e ∈ es, key x ≠ m.entryKey e) :
    x ∈ t' ↔ x ∈ t := by
  induction h with
  | nil t => exact Iff.rfl
  | cons h _ ih =>
      rcases List.forall_mem_cons.1 hx with ⟨hfirst, hrest⟩
      exact (ih hrest).trans (h.frame hfirst)

theorem Upserts.kept (h : Upserts m es t t') (hx : x ∈ t) :
    ∃ y ∈ t', id y = id x ∧ key y = key x := by
  induction h generalizing x with
  | nil t => exact ⟨x, hx, rfl, rfl⟩
  | cons h _ ih =>
      obtain ⟨y, hy, hid, hkey⟩ := h.kept hx
      obtain ⟨z, hz, hid', hkey'⟩ := ih hy
      exact ⟨z, hz, hid'.trans hid, hkey'.trans hkey⟩

/-- Entries with different keys: in the end each one's row is stored, made of what was there at the
beginning. -/
theorem Upserts.made (h : Upserts m es t t') (hdistinct : (es.map m.entryKey).Nodup) :
    ∀ e ∈ es, ∃ r ∈ t', Made m e t r := by
  induction h with
  | nil t => exact fun _ he => absurd he List.not_mem_nil
  | @cons e es t t₁ t' h hrest ih =>
      rw [List.map_cons, List.nodup_cons] at hdistinct
      have hother : ∀ e' ∈ es, m.entryKey e' ≠ m.entryKey e :=
        fun e' he' heq => hdistinct.1 (heq ▸ List.mem_map_of_mem he')
      refine List.forall_mem_cons.2 ⟨?_, fun e' he' => ?_⟩
      · -- The rest of the loop has other keys, so what the first entry made stays.
        obtain ⟨r, hr, hmade⟩ := h.made
        have hkey : key r = m.entryKey e := by
          rcases hmade with ⟨b, -, -, rfl⟩ | ⟨-, i, rfl⟩
          · exact m.key_make e _ _
          · exact m.key_make e _ _
        exact ⟨r, (hrest.frame fun e' he' heq => hother e' he' (heq.symm.trans hkey)).2 hr, hmade⟩
      · obtain ⟨r, hr, hmade⟩ := ih hdistinct.2 e' he'
        refine ⟨r, hr, ?_⟩
        rcases hmade with ⟨b, hb, hkey, hr⟩ | ⟨hfree, hr⟩
        · exact .inl ⟨b, (h.frame (hkey ▸ hother e' he')).1 hb, hkey, hr⟩
        · exact .inr ⟨fun b hb hkey => hfree b ((h.frame (hkey ▸ hother e' he')).2 hb) hkey, hr⟩

theorem Upserts.stable (h : Upserts m es t t')
    (hstored : ∀ e ∈ es, ∃ found i, m.make e found i ∈ t) : t' = t := by
  induction h with
  | nil t => rfl
  | cons h _ ih =>
      rcases List.forall_mem_cons.1 hstored with ⟨⟨found, i, hr⟩, hrest⟩
      have hsame := h.again hr
      subst hsame
      exact ih hrest

/-- The loop done once more changes nothing. -/
theorem Upserts.again (h : Upserts m es t t') (hdistinct : (es.map m.entryKey).Nodup)
    (h' : Upserts m es t' t'') : t'' = t' := by
  refine h'.stable fun e he => ?_
  obtain ⟨r, hr, hmade⟩ := h.made hdistinct e he
  rcases hmade with ⟨b, -, -, rfl⟩ | ⟨-, i, rfl⟩
  · exact ⟨_, _, hr⟩
  · exact ⟨_, _, hr⟩

end ByKey

/-! ## Upserts by a column that is not unique -/

/-- What a loop writes for an entry that is looked up by a column: a row of the entry and of an id,
whatever the row looked like before. -/
structure Filler {ρ ι γ : Type} (id : ρ → ι) (code : ρ → γ) (ε : Type) where
  entryCode : ε → γ
  fill : ε → ι → ρ
  id_fill : ∀ e i, id (fill e i) = i
  code_fill : ∀ e i, code (fill e i) = entryCode e

section ByCode

variable [DecidableEq ι] [DecidableEq κ] {γ ε : Type} [DecidableEq γ] {code : ρ → γ}
  (m : Filler id code ε) (pick : γ → Nat)

def hasCode (code : ρ → γ) (c : γ) (r : ρ) : Bool :=
  code r == c

/-- The row that is picked among those with the code. -/
def chosen (code : ρ → γ) (t : Table id key) (c : γ) : Option ρ :=
  t.findOne (hasCode code c) (pick c)

inductive Register (e : ε) (t t' : Table id key) : Prop
  | update {b : ρ} (hb : chosen pick code t (m.entryCode e) = some b)
      (h : t.save? (m.fill e (id b)) = some t')
  | create {i : ι} (hfree : ∀ b ∈ t, code b ≠ m.entryCode e) (h : t.insert? (m.fill e i) = some t')

/-- One upsert after the other. -/
inductive Registers : List ε → Table id key → Table id key → Prop
  | nil (t : Table id key) : Registers [] t t
  | cons {e : ε} {es : List ε} {t t₁ t' : Table id key} (h : Register m pick e t t₁)
      (hrest : Registers es t₁ t') : Registers (e :: es) t t'

variable {m pick} {e : ε} {es : List ε} {t t' t'' : Table id key} {x : ρ}

/-- A lookup under the entry's code, and the write that its outcome asks for. The table has no other
unique index than its ids. -/
theorem exists_register (m : Filler id code ε) (pick : γ → Nat) (e : ε) {t : Table id id} {i : ι}
    (hfresh : ∀ b ∈ t, id b ≠ i) :
    ∃ t', Register m pick e t t' ∧ OldIds t t' i ∧
      ((∃ b, chosen pick code t (m.entryCode e) = some b ∧
          t.save? (m.fill e (id b)) = some t') ∨
        (chosen pick code t (m.entryCode e) = none ∧ t.insert? (m.fill e i) = some t')) := by
  cases hfound : chosen pick code t (m.entryCode e) with
  | some b =>
      have hb := (findOne_some hfound).1
      have hid := (m.id_fill e (id b)).symm
      obtain ⟨t', h⟩ := exists_save? (r := m.fill e (id b)) hb hid hid
      exact ⟨t', .update hfound h, oldIds_save? i hb hid h, .inl ⟨b, rfl, h⟩⟩
  | none =>
      have hfree : ∀ b ∈ t, code b ≠ m.entryCode e := by
        intro b hb
        simpa [hasCode] using findOne_eq_none.1 hfound b hb
      have hnew : ∀ b ∈ t, id b ≠ id (m.fill e i) := fun b hb => by
        rw [m.id_fill]
        exact hfresh b hb
      obtain ⟨t', h⟩ := exists_insert? hnew hnew
      have hids := oldIds_insert? h
      rw [m.id_fill] at hids
      exact ⟨t', .create hfree h, hids, .inr ⟨rfl, h⟩⟩

@[simp] theorem hasCode_iff {c : γ} {r : ρ} : hasCode code c r = true ↔ code r = c :=
  beq_iff_eq

omit [DecidableEq ι] [DecidableEq κ] in
theorem map_id_chosen (c : γ) :
    (chosen pick code t c).map id =
      ((t.find (hasCode code c)).map id)[pick c % (t.find (hasCode code c)).length]? := by
  rw [chosen, findOne, List.getElem?_map]

/-- The id that is picked for a code stays the same, and from its first entry on there is one. -/
theorem Register.chosen_kept (h : Register m pick e t t') {c : γ} {i : ι}
    (hc : (chosen pick code t c).map id = some i) : (chosen pick code t' c).map id = some i := by
  cases h with
  | @update b hb h =>
      obtain ⟨hmem, hcode⟩ := findOne_some hb
      have hsame : hasCode code c b = hasCode code c (m.fill e (id b)) := by
        rw [hasCode, hasCode, m.code_fill, hasCode_iff.1 hcode]
      have hids : (t'.find (hasCode code c)).map id = (t.find (hasCode code c)).map id := by
        rw [find_save? h hmem (m.id_fill e (id b)).symm hsame]
        exact map_id_replace _ _
      have hlength := congrArg List.length hids
      rw [List.length_map, List.length_map] at hlength
      rwa [map_id_chosen, hids, hlength, ← map_id_chosen]
  | @create j hfree h =>
      have hout : ¬hasCode code c (m.fill e j) = true := by
        rw [hasCode_iff, m.code_fill]
        rintro rfl
        rcases Option.map_eq_some_iff.1 hc with ⟨b, hb, -⟩
        exact hfree b (findOne_some hb).1 (hasCode_iff.1 (findOne_some hb).2)
      have hrows : t'.find (hasCode code c) = t.find (hasCode code c) := by
        rw [find_insert? h, List.filter_cons_of_neg hout, List.filter_nil, List.append_nil]
      rwa [chosen, findOne, hrows, ← findOne, ← chosen]

/-- A step writes the entry's row under the id that is picked for its code from then on. -/
theorem Register.wrote (h : Register m pick e t t') :
    ∃ i, t'.rows = put id t.rows (m.fill e i) ∧
      (chosen pick code t' (m.entryCode e)).map id = some i := by
  cases h with
  | @update b hb h =>
      have hkept := (Register.update hb h).chosen_kept (c := m.entryCode e) (i := id b)
        (by rw [hb, Option.map_some])
      exact ⟨id b, rows_save?_put h, hkept⟩
  | @create i hfree h =>
      have hnone : t.find (hasCode code (m.entryCode e)) = [] :=
        List.filter_eq_nil_iff.2 fun b hb => by simpa using hfree b hb
      have hin : hasCode code (m.entryCode e) (m.fill e i) = true := by
        rw [hasCode_iff, m.code_fill]
      have hrows : t'.find (hasCode code (m.entryCode e)) = [m.fill e i] := by
        rw [find_insert? h, hnone, List.nil_append, List.filter_cons_of_pos hin, List.filter_nil]
      refine ⟨i, rows_insert?_put h, ?_⟩
      rw [map_id_chosen, hrows]
      simp [m.id_fill, Nat.mod_one]

theorem Registers.append {es' : List ε} {t₁ : Table id key} (h : Registers m pick es t t₁)
    (h' : Registers m pick es' t₁ t') : Registers m pick (es ++ es') t t' := by
  induction h with
  | nil t => exact h'
  | cons h _ ih => exact .cons h (ih h')

theorem Registers.chosen_kept (h : Registers m pick es t t') {c : γ} {i : ι}
    (hc : (chosen pick code t c).map id = some i) : (chosen pick code t' c).map id = some i := by
  induction h with
  | nil t => exact hc
  | cons h _ ih => exact ih (h.chosen_kept hc)

/-- The writes of the loop: one an entry, under the id that is picked for its code in the end. -/
theorem Registers.wrote (h : Registers m pick es t t') :
    ∃ writes, t'.rows = putAll id t.rows writes ∧
      List.Forall₂ (fun e w => ∃ i, w = m.fill e i ∧
        (chosen pick code t' (m.entryCode e)).map id = some i) es writes := by
  induction h with
  | nil t => exact ⟨[], rfl, .nil⟩
  | @cons e es t t₁ t' h hrest ih =>
      obtain ⟨i, hrows, hchosen⟩ := h.wrote
      obtain ⟨writes, hrows', hall⟩ := ih
      refine ⟨m.fill e i :: writes, ?_, .cons ⟨i, rfl, hrest.chosen_kept hchosen⟩ hall⟩
      rw [hrows', hrows]
      rfl

/-- The loop done once more makes the same writes. -/
theorem Registers.again (h : Registers m pick es t t') (h' : Registers m pick es t' t'') :
    t'' = t' := by
  obtain ⟨writes, hrows, hall⟩ := h.wrote
  obtain ⟨writes', hrows', hall'⟩ := h'.wrote
  have hsame : writes = writes' := by
    refine List.right_unique_forall₂' ?_ (hall.imp fun e w hw => ?_) hall'
    · rintro e w w' ⟨i, rfl, hi⟩ ⟨j, rfl, hj⟩
      rw [Option.some.inj (hi.symm.trans hj)]
    · obtain ⟨i, hw, hi⟩ := hw
      exact ⟨i, hw, h'.chosen_kept hi⟩
  refine ext_rows ?_
  calc t''.rows = putAll id t'.rows writes' := hrows'
    _ = putAll id (putAll id t.rows writes) writes := by rw [hrows, hsame]
    _ = putAll id t.rows writes := putAll_putAll t.rows writes
    _ = t'.rows := hrows.symm

theorem Register.kept (h : Register m pick e t t') (hx : x ∈ t) :
    ∃ y ∈ t', id y = id x ∧ code y = code x ∧ (y = x ∨ ∃ i, y = m.fill e i) := by
  cases h with
  | @update b hb h =>
      obtain ⟨hmem, hcode⟩ := findOne_some hb
      by_cases hid : id x = id b
      · have hcode' : code b = m.entryCode e := by simpa using hcode
        rw [eq_of_id hx hmem hid]
        exact ⟨_, (mem_save? h).2 (.inl rfl), m.id_fill e _, (m.code_fill e _).trans hcode'.symm,
          .inr ⟨_, rfl⟩⟩
      · exact ⟨x, (mem_save? h).2 (.inr ⟨hx, by rwa [m.id_fill]⟩), rfl, rfl, .inl rfl⟩
  | create hfree h => exact ⟨x, (mem_insert? h).2 (.inl hx), rfl, rfl, .inl rfl⟩

/-- No row is removed, and each keeps its id. -/
theorem Registers.kept (h : Registers m pick es t t') (hx : x ∈ t) :
    ∃ y ∈ t', id y = id x ∧ code y = code x ∧ (y = x ∨ ∃ e ∈ es, ∃ i, y = m.fill e i) := by
  induction h generalizing x with
  | nil t => exact ⟨x, hx, rfl, rfl, .inl rfl⟩
  | @cons e es t t₁ t' h _ ih =>
      obtain ⟨y, hy, hid, hcode, hfirst⟩ := h.kept hx
      obtain ⟨z, hz, hid', hcode', hrest⟩ := ih hy
      refine ⟨z, hz, hid'.trans hid, hcode'.trans hcode, ?_⟩
      rcases hrest with rfl | ⟨e', he', i, rfl⟩
      · rcases hfirst with rfl | ⟨i, rfl⟩
        · exact .inl rfl
        · exact .inr ⟨e, List.mem_cons_self, i, rfl⟩
      · exact .inr ⟨e', List.mem_cons_of_mem e he', i, rfl⟩

/-- In the end each code of an entry has a row that one of the entries has filled. -/
theorem Registers.filled (h : Registers m pick es t t') :
    ∀ e ∈ es, ∃ r ∈ t', code r = m.entryCode e ∧ ∃ e' ∈ es, ∃ i, r = m.fill e' i := by
  induction h with
  | nil t => exact fun _ he => absurd he List.not_mem_nil
  | @cons e es t t₁ t' h hrest ih =>
      refine List.forall_mem_cons.2 ⟨?_, fun e' he' => ?_⟩
      · obtain ⟨i, hrows, -⟩ := h.wrote
        have hmem : m.fill e i ∈ t₁ := by
          rw [← mem_rows, hrows]
          exact mem_put.2 (.inl rfl)
        obtain ⟨r, hr, -, hcode, hfilled⟩ := hrest.kept hmem
        refine ⟨r, hr, hcode.trans (m.code_fill e i), ?_⟩
        rcases hfilled with rfl | ⟨e', he', j, rfl⟩
        · exact ⟨e, List.mem_cons_self, i, rfl⟩
        · exact ⟨e', List.mem_cons_of_mem e he', j, rfl⟩
      · obtain ⟨r, hr, hcode, e'', he'', i, hfilled⟩ := ih e' he'
        exact ⟨r, hr, hcode, e'', List.mem_cons_of_mem e he'', i, hfilled⟩

end ByCode

end Table
end Sql
end IdentityBillpay
