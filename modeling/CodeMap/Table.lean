/-
Tables: finite maps that remember the order in which their keys were first entered.

Entering a key again replaces its value and keeps its place; a new key goes to the end. No key
occurs twice, and this is part of the type. The lemmas say what `insert` does to the two views
`get?` and `keys`.
-/

namespace CodeMap

namespace Entries

variable {α : Type}

/-- The value at `key`. -/
def get? (key : String) : List (String × α) → Option α
  | [] => none
  | (k, value) :: rest => if k = key then some value else get? key rest

/-- Replaces the value at `key` in its place, or adds the key at the end. -/
def put (key : String) (value : α) : List (String × α) → List (String × α)
  | [] => [(key, value)]
  | (k, old) :: rest => if k = key then (k, value) :: rest else (k, old) :: put key value rest

theorem get?_put (entries : List (String × α)) (key other : String) (value : α) :
    get? other (put key value entries) = if key = other then some value else get? other entries := by
  induction entries with
  | nil => simp [put, get?]
  | cons entry rest ih =>
    obtain ⟨k, old⟩ := entry
    by_cases hk : k = key
    · subst hk
      by_cases ho : k = other <;> simp [put, get?, ho]
    · by_cases ho : k = other
      · subst ho
        simp [put, get?, hk, Ne.symm hk]
      · simp [put, get?, hk, ho, ih]

theorem get?_eq_none_iff {entries : List (String × α)} {key : String} :
    get? key entries = none ↔ key ∉ entries.map Prod.fst := by
  induction entries with
  | nil => simp [get?]
  | cons entry rest ih =>
    obtain ⟨k, old⟩ := entry
    by_cases hk : k = key
    · simp [get?, hk]
    · simp [get?, hk, ih, Ne.symm hk]

theorem keys_put_of_mem {entries : List (String × α)} {key : String} (value : α)
    (known : key ∈ entries.map Prod.fst) :
    (put key value entries).map Prod.fst = entries.map Prod.fst := by
  induction entries with
  | nil => simp at known
  | cons entry rest ih =>
    obtain ⟨k, old⟩ := entry
    by_cases hk : k = key
    · simp [put, hk]
    · have : key ∈ rest.map Prod.fst := by
        simpa [Ne.symm hk] using known
      simp only [put, hk, if_false, List.map_cons, ih this]

theorem keys_put_of_not_mem {entries : List (String × α)} {key : String} (value : α)
    (fresh : key ∉ entries.map Prod.fst) :
    (put key value entries).map Prod.fst = entries.map Prod.fst ++ [key] := by
  induction entries with
  | nil => simp [put]
  | cons entry rest ih =>
    obtain ⟨k, old⟩ := entry
    have hk : k ≠ key := fun h => fresh (by simp [h])
    have : key ∉ rest.map Prod.fst := fun h => fresh (List.mem_cons_of_mem _ h)
    simp only [put, hk, if_false, List.map_cons, ih this, List.cons_append]

theorem nodup_put {entries : List (String × α)} (key : String) (value : α)
    (distinct : (entries.map Prod.fst).Nodup) : ((put key value entries).map Prod.fst).Nodup := by
  by_cases known : key ∈ entries.map Prod.fst
  · rw [keys_put_of_mem value known]
    exact distinct
  · rw [keys_put_of_not_mem value known]
    refine List.nodup_append.mpr ⟨distinct, by simp, ?_⟩
    intro a ha b hb hab
    rw [List.mem_singleton] at hb
    exact known (by rw [← hb, ← hab]; exact ha)

end Entries

/-- A finite map from texts, in the order of the first entry of each key. -/
structure Table (α : Type) where
  entries : List (String × α) := []
  distinct : (entries.map Prod.fst).Nodup := by simp

namespace Table

variable {α : Type}

/-- The table without entries. -/
def empty : Table α := {}

instance : EmptyCollection (Table α) := ⟨empty⟩

instance : Inhabited (Table α) := ⟨empty⟩

/-- The keys in the order of their first entry. -/
def keys (table : Table α) : List String := table.entries.map Prod.fst

/-- The values in the order of their keys. -/
def values (table : Table α) : List α := table.entries.map Prod.snd

def get? (table : Table α) (key : String) : Option α := Entries.get? key table.entries

def contains (table : Table α) (key : String) : Bool := (table.get? key).isSome

def isEmpty (table : Table α) : Bool := table.entries.isEmpty

/-- Enters a value: the last value of a key counts, its first entry gives its place. -/
def insert (table : Table α) (key : String) (value : α) : Table α where
  entries := Entries.put key value table.entries
  distinct := Entries.nodup_put key value table.distinct

/-- Enters the pairs one after the other. -/
def ofList (pairs : List (String × α)) : Table α :=
  pairs.foldl (fun table pair => table.insert pair.1 pair.2) empty

theorem get?_insert (table : Table α) (key other : String) (value : α) :
    (table.insert key value).get? other = if key = other then some value else table.get? other :=
  Entries.get?_put table.entries key other value

@[simp] theorem get?_insert_self (table : Table α) (key : String) (value : α) :
    (table.insert key value).get? key = some value := by
  simp [get?_insert]

theorem get?_insert_of_ne (table : Table α) {key other : String} (value : α) (h : key ≠ other) :
    (table.insert key value).get? other = table.get? other := by
  simp [get?_insert, h]

theorem mem_keys_iff {table : Table α} {key : String} :
    key ∈ table.keys ↔ ∃ value, table.get? key = some value := by
  rw [← Option.isSome_iff_exists, Option.isSome_iff_ne_none, ne_eq, get?,
    Entries.get?_eq_none_iff, Decidable.not_not, keys]

theorem keys_insert_of_mem {table : Table α} {key : String} (value : α) (h : key ∈ table.keys) :
    (table.insert key value).keys = table.keys :=
  Entries.keys_put_of_mem value h

theorem keys_insert_of_not_mem {table : Table α} {key : String} (value : α)
    (h : key ∉ table.keys) : (table.insert key value).keys = table.keys ++ [key] :=
  Entries.keys_put_of_not_mem value h

end Table

end CodeMap
