import Mathlib.Algebra.BigOperators.Group.List.Basic
import Mathlib.Data.List.Nodup

/-!
# Map — the built-in `Map`, as its entries in the order of their first insertion

* `Map.get`, `Map.set` — a key that is there already keeps its place when it is set again;
* `Map.mem_entries` — the entries are what `get` finds;
* `Map.sumOf` — a sum over all values, and what one `set` adds to it.
-/

namespace IdentityBillpay
namespace Js

/-- The entries of a map; no two of them have one key. -/
structure Map (κ α : Type) where
  entries : List (κ × α)
  nodup : (entries.map Prod.fst).Nodup

namespace Map

variable {κ α β : Type}

def empty : Map κ α :=
  ⟨[], List.nodup_nil⟩

def keys (m : Map κ α) : List κ :=
  m.entries.map Prod.fst

/-- The sum of `f` over the values. -/
def sumOf [Add β] [Zero β] (f : α → β) (m : Map κ α) : β :=
  (m.entries.map fun entry => f entry.2).sum

variable [DecidableEq κ]

/-- The first value under a key. -/
def find (k : κ) : List (κ × α) → Option α
  | [] => none
  | (k', a) :: es => if k' = k then some a else find k es

/-- The entries with a new value under a key, in its place or at the end. -/
def put (k : κ) (a : α) : List (κ × α) → List (κ × α)
  | [] => [(k, a)]
  | (k', a') :: es => if k' = k then (k, a) :: es else (k', a') :: put k a es

def get (m : Map κ α) (k : κ) : Option α :=
  find k m.entries

theorem mem_keys_put {k k' : κ} {a : α} {es : List (κ × α)} :
    k' ∈ (put k a es).map Prod.fst ↔ k' = k ∨ k' ∈ es.map Prod.fst := by
  induction es with
  | nil => simp [put]
  | cons e es ih =>
      by_cases hk : e.1 = k
      · simp [put, hk]
      · simp only [put, if_neg hk, List.map_cons, List.mem_cons, ih]
        exact or_left_comm

theorem nodup_put {k : κ} {a : α} {es : List (κ × α)} (h : (es.map Prod.fst).Nodup) :
    ((put k a es).map Prod.fst).Nodup := by
  induction es with
  | nil => simp [put]
  | cons e es ih =>
      have hparts : e.1 ∉ es.map Prod.fst ∧ (es.map Prod.fst).Nodup := by
        simpa only [List.map_cons, List.nodup_cons] using h
      by_cases hk : e.1 = k
      · simp only [put, if_pos hk, List.map_cons, List.nodup_cons]
        exact ⟨hk ▸ hparts.1, hparts.2⟩
      · simp only [put, if_neg hk, List.map_cons, List.nodup_cons, mem_keys_put, not_or]
        exact ⟨⟨hk, hparts.1⟩, ih hparts.2⟩

def set (m : Map κ α) (k : κ) (a : α) : Map κ α :=
  ⟨put k a m.entries, nodup_put m.nodup⟩

/-! ## Looking up -/

theorem find_put {k k' : κ} {a : α} {es : List (κ × α)} :
    find k' (put k a es) = if k = k' then some a else find k' es := by
  induction es with
  | nil => simp [put, find]
  | cons e es ih =>
      by_cases hk : e.1 = k
      · by_cases hk' : k = k'
        · simp [put, find, hk, hk']
        · simp [put, find, hk, hk']
      · by_cases he : e.1 = k'
        · have hne : k ≠ k' := fun h => hk (he.trans h.symm)
          simp only [put, if_neg hk, find, if_pos he, if_neg hne]
        · simp [put, find, hk, he, ih]

theorem mem_find {k : κ} {a : α} {es : List (κ × α)} (h : (es.map Prod.fst).Nodup) :
    (k, a) ∈ es ↔ find k es = some a := by
  induction es with
  | nil => simp [find]
  | cons e es ih =>
      have hparts : e.1 ∉ es.map Prod.fst ∧ (es.map Prod.fst).Nodup := by
        simpa only [List.map_cons, List.nodup_cons] using h
      by_cases hk : e.1 = k
      · -- The key is not in the rest, so the pair can only be the head.
        have hrest : (k, a) ∉ es := fun hmem =>
          hparts.1 (hk ▸ List.mem_map_of_mem (f := Prod.fst) hmem)
        have hhead : (k, a) = e ↔ e.2 = a := by
          constructor
          · intro heq
            exact congrArg Prod.snd heq.symm
          · intro heq
            exact Prod.ext hk.symm heq.symm
        simp [find, hk, hrest, hhead]
      · have hhead : (k, a) ≠ e := fun heq => hk (congrArg Prod.fst heq.symm)
        simp [find, hk, hhead, ih hparts.2]

theorem get_set (m : Map κ α) (k k' : κ) (a : α) :
    (m.set k a).get k' = if k = k' then some a else m.get k' :=
  find_put

@[simp] theorem get_empty (k : κ) : (empty : Map κ α).get k = none := rfl

theorem mem_entries (m : Map κ α) {k : κ} {a : α} :
    (k, a) ∈ m.entries ↔ m.get k = some a :=
  mem_find m.nodup

theorem mem_keys (m : Map κ α) {k : κ} : k ∈ m.keys ↔ ∃ a, m.get k = some a := by
  constructor
  · intro hmem
    rcases List.mem_map.1 hmem with ⟨⟨k', a⟩, hentry, rfl⟩
    exact ⟨a, m.mem_entries.1 hentry⟩
  · intro hget
    rcases hget with ⟨a, ha⟩
    exact List.mem_map_of_mem (f := Prod.fst) (m.mem_entries.2 ha)

/-! ## Sums -/

omit [DecidableEq κ] in
@[simp] theorem sumOf_empty [AddMonoid β] (f : α → β) : (empty : Map κ α).sumOf f = 0 := rfl

theorem sum_put_of_none [AddCommMonoid β] {f : α → β} {k : κ} {a : α} {es : List (κ × α)}
    (h : find k es = none) :
    ((put k a es).map fun e => f e.2).sum = (es.map fun e => f e.2).sum + f a := by
  induction es with
  | nil => simp [put]
  | cons e es ih =>
      by_cases hk : e.1 = k
      · simp [find, hk] at h
      · have hrest : find k es = none := by simpa [find, hk] using h
        simp only [put, if_neg hk, List.map_cons, List.sum_cons, ih hrest, add_assoc]

theorem sum_put_of_some [AddCommMonoid β] {f : α → β} {k : κ} {a old : α} {es : List (κ × α)}
    (h : find k es = some old) :
    ((put k a es).map fun e => f e.2).sum + f old = (es.map fun e => f e.2).sum + f a := by
  induction es with
  | nil => simp [find] at h
  | cons e es ih =>
      by_cases hk : e.1 = k
      · have hold : e.2 = old := by simpa [find, hk] using h
        simp only [put, if_pos hk, List.map_cons, List.sum_cons, hold]
        calc
          f a + (es.map fun e => f e.2).sum + f old
              = f a + ((es.map fun e => f e.2).sum + f old) := add_assoc _ _ _
          _ = f a + (f old + (es.map fun e => f e.2).sum) := by rw [add_comm (f old)]
          _ = f old + (es.map fun e => f e.2).sum + f a := add_comm _ _
      · have hrest : find k es = some old := by simpa [find, hk] using h
        simp only [put, if_neg hk, List.map_cons, List.sum_cons, add_assoc, ih hrest]

/-- A value under a new key is added to the sum. -/
theorem sumOf_set_of_none [AddCommMonoid β] (f : α → β) {m : Map κ α} {k : κ} {a : α}
    (h : m.get k = none) : (m.set k a).sumOf f = m.sumOf f + f a :=
  sum_put_of_none h

/-- A value under a key that is there already takes the place of the old one in the sum. -/
theorem sumOf_set_of_some [AddCommMonoid β] (f : α → β) {m : Map κ α} {k : κ} {a old : α}
    (h : m.get k = some old) : (m.set k a).sumOf f + f old = m.sumOf f + f a :=
  sum_put_of_some h

end Map

end Js
end IdentityBillpay
