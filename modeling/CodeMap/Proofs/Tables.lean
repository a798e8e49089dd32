/-
More on tables: membership of keys and entries, and what many insertions do.

The lemmas are stated for `get?`, `keys` and `entries`; the proofs about models use no others.
-/

import CodeMap.Table
import Mathlib.Data.List.Nodup

namespace CodeMap

namespace Entries

variable {α : Type} {entries : List (String × α)} {key : String} {value : α}

theorem mem_of_get? (h : get? key entries = some value) : (key, value) ∈ entries := by
  induction entries with
  | nil => cases h
  | cons entry rest ih =>
    obtain ⟨k, old⟩ := entry
    by_cases hk : k = key
    · subst hk
      simp only [get?, if_true, Option.some.injEq] at h
      simp [h]
    · simp only [get?, hk, if_false] at h
      exact List.mem_cons_of_mem _ (ih h)

theorem get?_of_mem (distinct : (entries.map Prod.fst).Nodup) (h : (key, value) ∈ entries) :
    get? key entries = some value := by
  induction entries with
  | nil => cases h
  | cons entry rest ih =>
    obtain ⟨k, old⟩ := entry
    obtain ⟨fresh, distinct⟩ := List.nodup_cons.mp distinct
    rcases List.mem_cons.mp h with equal | later
    · cases equal
      simp [get?]
    · have hk : k ≠ key := by
        rintro rfl
        exact fresh (List.mem_map.mpr ⟨_, later, rfl⟩)
      simp [get?, hk, ih distinct later]

theorem put_of_not_mem (value : α) (fresh : key ∉ entries.map Prod.fst) :
    put key value entries = entries ++ [(key, value)] := by
  induction entries with
  | nil => rfl
  | cons entry rest ih =>
    obtain ⟨k, old⟩ := entry
    have hk : k ≠ key := fun equal => fresh (by simp [equal])
    have later : key ∉ rest.map Prod.fst := fun h => fresh (List.mem_cons_of_mem _ h)
    simp only [put, hk, if_false, ih later, List.cons_append]

/-- Entering a key shows among the chosen keys if it is one of them. -/
theorem filter_put (chosen : String → Bool) (key : String) (value : α)
    (entries : List (String × α)) :
    (put key value entries).filter (chosen ·.1) =
      if chosen key then put key value (entries.filter (chosen ·.1))
      else entries.filter (chosen ·.1) := by
  induction entries with
  | nil => cases h : chosen key <;> simp [put, h]
  | cons entry rest ih =>
    obtain ⟨k, old⟩ := entry
    by_cases hk : k = key
    · subst hk
      cases h : chosen k <;> simp [put, h]
    · cases h : chosen key <;> cases h' : chosen k <;> simp_all [put]

/-- The value that comes last under a key, in a list with several entries for it. -/
def last? (key : String) (entries : List (String × α)) : Option α :=
  ((entries.filter (·.1 = key)).getLast?).map (·.2)

theorem last?_append (key : String) (xs ys : List (String × α)) :
    last? key (xs ++ ys) = (last? key ys).or (last? key xs) := by
  simp only [last?, List.filter_append, List.getLast?_append]
  cases (ys.filter (·.1 = key)).getLast? <;> rfl

theorem last?_singleton (key : String) (entry : String × α) :
    last? key [entry] = if entry.1 = key then some entry.2 else none := by
  by_cases h : entry.1 = key <;> simp [last?, h]

theorem mem_of_last? (h : last? key entries = some value) : (key, value) ∈ entries := by
  obtain ⟨entry, last, rfl⟩ := Option.map_eq_some_iff.mp h
  have member := List.mem_filter.mp (List.mem_of_getLast? last)
  rw [← of_decide_eq_true member.2]
  exact member.1

theorem last?_eq_none_iff : last? key entries = none ↔ key ∉ entries.map Prod.fst := by
  simp only [last?, Option.map_eq_none_iff, List.getLast?_eq_none_iff, List.filter_eq_nil_iff,
    List.mem_map, decide_eq_true_eq, not_exists, not_and]

theorem last?_eq_get? (distinct : (entries.map Prod.fst).Nodup) :
    last? key entries = get? key entries := by
  cases last : last? key entries with
  | none => exact (get?_eq_none_iff.mpr (last?_eq_none_iff.mp last)).symm
  | some value => exact (get?_of_mem distinct (mem_of_last? last)).symm

end Entries

namespace Table

variable {α : Type}

theorem get?_eq_some_iff {table : Table α} {key : String} {value : α} :
    table.get? key = some value ↔ (key, value) ∈ table.entries :=
  ⟨Entries.mem_of_get?, Entries.get?_of_mem table.distinct⟩

@[simp] theorem get?_empty (key : String) : (∅ : Table α).get? key = none := rfl

theorem contains_iff {table : Table α} {key : String} :
    table.contains key = true ↔ key ∈ table.keys := by
  rw [mem_keys_iff, contains, Option.isSome_iff_exists]

theorem mem_keys_insert {table : Table α} {key other : String} {value : α} :
    other ∈ (table.insert key value).keys ↔ other = key ∨ other ∈ table.keys := by
  simp only [mem_keys_iff, get?_insert]
  by_cases h : key = other
  · simp [h]
  · simp [h, Ne.symm h]

theorem entries_insert_of_not_mem {table : Table α} {key : String} (value : α)
    (fresh : key ∉ table.keys) :
    (table.insert key value).entries = table.entries ++ [(key, value)] :=
  Entries.put_of_not_mem value fresh

theorem nodup_keys (table : Table α) : table.keys.Nodup := table.distinct

/-- Looking up the keys gives the values. -/
theorem filterMap_get?_keys (table : Table α) : table.keys.filterMap table.get? = table.values := by
  rw [keys, List.filterMap_map]
  exact List.filterMap_eq_map_iff_forall_eq_some.mpr fun _ member => get?_eq_some_iff.mpr member

/-! ### Many insertions -/

/-- Enters the pairs one after the other into a table. -/
def insertAll (table : Table α) (pairs : List (String × α)) : Table α :=
  pairs.foldl (fun table pair => table.insert pair.1 pair.2) table

theorem insertAll_append (table : Table α) (first second : List (String × α)) :
    table.insertAll (first ++ second) = (table.insertAll first).insertAll second :=
  List.foldl_append

theorem mem_keys_insertAll {table : Table α} {pairs : List (String × α)} {key : String} :
    key ∈ (table.insertAll pairs).keys ↔ key ∈ table.keys ∨ key ∈ pairs.map Prod.fst := by
  induction pairs generalizing table with
  | nil => simp [insertAll]
  | cons pair pairs ih =>
    have := @ih (table.insert pair.1 pair.2)
    simp only [insertAll, List.foldl_cons] at this ⊢
    rw [this, mem_keys_insert, List.map_cons, List.mem_cons]
    rw [or_assoc, or_left_comm]

/-- The last pair of a key counts. -/
theorem get?_insertAll_eq_last? (table : Table α) (pairs : List (String × α)) (key : String) :
    (table.insertAll pairs).get? key = (Entries.last? key pairs).or (table.get? key) := by
  induction pairs generalizing table with
  | nil => rfl
  | cons pair pairs ih =>
    have later := ih (table.insert pair.1 pair.2)
    simp only [insertAll, List.foldl_cons] at later ⊢
    rw [later, get?_insert, ← List.singleton_append, Entries.last?_append,
      Entries.last?_singleton, Option.or_assoc]
    split_ifs <;> rfl

theorem get?_insertAll {pairs : List (String × α)} (distinct : (pairs.map Prod.fst).Nodup)
    (table : Table α) (key : String) :
    (table.insertAll pairs).get? key = (Entries.get? key pairs).or (table.get? key) := by
  rw [get?_insertAll_eq_last?, Entries.last?_eq_get? distinct]

/-- What is found after many insertions was inserted, or it was there before. -/
theorem mem_of_get?_insertAll {table : Table α} {pairs : List (String × α)} {key : String}
    {value : α} (h : (table.insertAll pairs).get? key = some value) :
    (key, value) ∈ pairs ∨ table.get? key = some value := by
  induction pairs generalizing table with
  | nil => exact .inr h
  | cons pair pairs ih =>
    rcases @ih (table.insert pair.1 pair.2) h with later | now
    · exact .inl (List.mem_cons_of_mem _ later)
    · rw [get?_insert] at now
      by_cases own : pair.1 = key
      · rw [if_pos own] at now
        rw [← own, ← Option.some.inj now]
        exact .inl List.mem_cons_self
      · rw [if_neg own] at now
        exact .inr now

theorem entries_insertAll {pairs : List (String × α)} {table : Table α}
    (distinct : (table.keys ++ pairs.map Prod.fst).Nodup) :
    (table.insertAll pairs).entries = table.entries ++ pairs := by
  induction pairs generalizing table with
  | nil => simp [insertAll]
  | cons pair pairs ih =>
    have fresh : pair.1 ∉ table.keys := by
      intro known
      exact (List.nodup_append.mp distinct).2.2 _ known _ (by simp) rfl
    have distinct : ((table.insert pair.1 pair.2).keys ++ pairs.map Prod.fst).Nodup := by
      rw [keys_insert_of_not_mem _ fresh]
      simpa using distinct
    have := ih distinct
    simp only [insertAll, List.foldl_cons] at this ⊢
    rw [this, entries_insert_of_not_mem _ fresh]
    simp

theorem get?_ofList (pairs : List (String × α)) (key : String) :
    (ofList pairs).get? key = Entries.last? key pairs :=
  (get?_insertAll_eq_last? empty pairs key).trans Option.or_none

theorem entries_ofList {pairs : List (String × α)} (distinct : (pairs.map Prod.fst).Nodup) :
    (ofList pairs).entries = pairs :=
  @entries_insertAll α pairs empty distinct

end Table

end CodeMap
