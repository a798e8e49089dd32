/-
The numbers of the elements of a model file.

Every unique name in the file gets a number of its own, counted from one, and nothing else does.
All lemmas hold of any model; the two views of a model that they relate are its elements under
their names (`allElements`) and the numbers of the names (`numbering`).
-/

import CodeMap.Export
import CodeMap.Proofs.Tables

namespace CodeMap.Model

variable (model : Model) {name : String} {id : Nat}

/-! ### All elements -/

/-- The external code under its unique names. -/
def externalTable : Table Element :=
  .ofList (model.externals.toList.map fun element => (element.uniqueName, element))

theorem mem_of_get?_externalTable {element : Element}
    (h : model.externalTable.get? name = some element) :
    element ∈ model.externals ∧ element.uniqueName = name := by
  rcases Table.mem_of_get?_insertAll h with member | impossible
  · obtain ⟨other, met, equal⟩ := List.mem_map.mp member
    cases equal
    exact ⟨Array.mem_toList_iff.mp met, rfl⟩
  · cases impossible

theorem mem_keys_externalTable :
    name ∈ model.externalTable.keys ↔ ∃ element ∈ model.externals, element.uniqueName = name := by
  refine Table.mem_keys_insertAll.trans ?_
  simp [Table.keys, Table.empty]

theorem get?_allElements (name : String) :
    model.allElements.get? name =
      (model.elements.get? name).or (model.externalTable.get? name) :=
  Table.get?_insertAll model.elements.distinct _ name

theorem mem_keys_allElements :
    name ∈ model.allElements.keys ↔
      name ∈ model.elements.keys ∨ ∃ element ∈ model.externals, element.uniqueName = name := by
  rw [← mem_keys_externalTable, or_comm]
  exact Table.mem_keys_insertAll

/-! ### Numbers -/

theorem perm_numberedNames : model.numberedNames.Perm model.allElements.keys := by
  have distinct : model.numberedNames.Nodup := by
    refine List.nodup_append.mpr ⟨model.elements.nodup_keys, ?_, ?_⟩
    · exact model.allElements.nodup_keys.sublist List.filter_sublist
    · rintro name known _ other rfl
      have unknown := (List.mem_filter.mp other).2
      simp [Table.contains_iff.mpr known] at unknown
  rw [List.perm_ext_iff_of_nodup distinct model.allElements.nodup_keys]
  intro name
  have known : name ∈ model.elements.keys → name ∈ model.allElements.keys :=
    fun h => model.mem_keys_allElements.mpr (.inl h)
  rw [numberedNames, List.mem_append, List.mem_filter]
  constructor
  · rintro (h | ⟨h, -⟩)
    · exact known h
    · exact h
  · intro h
    by_cases own : name ∈ model.elements.keys
    · exact .inl own
    · refine .inr ⟨h, ?_⟩
      simpa [← Table.contains_iff] using own

theorem nodup_numberedNames : model.numberedNames.Nodup :=
  model.perm_numberedNames.nodup_iff.mpr model.allElements.nodup_keys

theorem entries_numbering : model.numbering.entries = model.numberedNames.zipIdx 1 :=
  Table.entries_ofList (by rw [List.zipIdx_map_fst]; exact model.nodup_numberedNames)

theorem keys_numbering : model.numbering.keys = model.numberedNames := by
  rw [Table.keys, entries_numbering, List.zipIdx_map_fst]

theorem values_numbering : model.numbering.values = List.range' 1 model.numberedNames.length := by
  rw [Table.values, entries_numbering, List.zipIdx_map_snd]

/-- The names of all elements, and no others, have numbers. -/
theorem isSome_numbering_iff :
    (model.numbering.get? name).isSome = true ↔ name ∈ model.allElements.keys := by
  rw [← model.perm_numberedNames.mem_iff, ← keys_numbering, ← Table.contains_iff, Table.contains]

theorem numbering_bounds (h : model.numbering.get? name = some id) :
    1 ≤ id ∧ id ≤ model.numberedNames.length := by
  have member : id ∈ model.numbering.values :=
    List.mem_map.mpr ⟨_, Table.get?_eq_some_iff.mp h, rfl⟩
  rw [values_numbering, List.mem_range'_1] at member
  omega

/-- Two names have two numbers. -/
theorem numbering_injective {other : String} (h : model.numbering.get? name = some id)
    (h' : model.numbering.get? other = some id) : name = other := by
  have distinct : (model.numbering.entries.map Prod.snd).Nodup := by
    rw [← Table.values, values_numbering]
    exact List.nodup_range'
  have equal := List.inj_on_of_nodup_map distinct (Table.get?_eq_some_iff.mp h)
    (Table.get?_eq_some_iff.mp h') rfl
  exact congrArg Prod.fst equal

end CodeMap.Model
