/-
Sets of types: the types that a parameter has been given, without repetition. They stand in the
order in which they were given; an analysis goes through them in an order of its own.
-/

namespace CodeMap.Usage

structure TypeSet where
  types : List String := []
  distinct : types.Nodup := by simp

namespace TypeSet

/-- The set without types. -/
def empty : TypeSet := {}

instance : EmptyCollection TypeSet := ⟨empty⟩

/-- The set with one more type, unless it is there. -/
def insert (set : TypeSet) (type : String) : TypeSet :=
  if known : type ∈ set.types then set
  else
    { types := set.types ++ [type]
      distinct := List.nodup_append.mpr ⟨set.distinct, by simp, fun _ member _ last equal =>
        known (List.mem_singleton.mp last ▸ equal ▸ member)⟩ }

theorem mem_insert {set : TypeSet} {type x : String} :
    x ∈ (set.insert type).types ↔ x = type ∨ x ∈ set.types := by
  unfold insert
  split
  · rename_i known
    exact ⟨.inr, fun member => member.elim (fun equal => equal ▸ known) id⟩
  · simp [or_comm]

/-- The set of the types of a list. -/
def ofList (types : List String) : TypeSet :=
  types.foldl insert ∅

/-- The set of one type. -/
def single (type : String) : TypeSet := ofList [type]

end TypeSet

end CodeMap.Usage
