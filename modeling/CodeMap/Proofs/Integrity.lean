/-
Integrity of model files.

Records are intact if their elements are numbered one by one, no two elements have one unique name
and every reference leads to an element. Main statement: a run of the program writes nothing, or
one file with the intact records of a project (`run_writes_intact_model`).
-/

import CodeMap.Proofs.RelationRecords
import CodeMap.Proofs.Runs

namespace CodeMap

namespace Mse

/-- The number that a value refers to. -/
def Value.ref? : Value → Option Nat
  | .ref id => some id
  | _ => none

/-- The numbers that a record refers to. -/
def Record.refs (record : Record) : List Nat :=
  record.attributes.filterMap fun entry => entry.2.ref?

/-- The element of a record, with its number. -/
def Record.numbered? : Record → Option (Nat × Element)
  | .element id subject => some (id, subject)
  | _ => none

/-- The elements of a model file, with their numbers. -/
def numberedElements (records : List Record) : List (Nat × Element) :=
  records.filterMap Record.numbered?

structure Intact (records : List Record) : Prop where
  /-- The numbers are those from one to the number of elements, each used once. -/
  ids : ((numberedElements records).map Prod.fst).Perm
    (List.range' 1 (numberedElements records).length)
  names : ((numberedElements records).map fun element => element.2.uniqueName).Nodup
  refs : ∀ record ∈ records, ∀ id ∈ record.refs, 1 ≤ id ∧ id ≤ (numberedElements records).length

theorem Record.refs_element (id : Nat) (element : Element) :
    (Record.element id element).refs = [] := by
  have texts : ∀ entry ∈ (Description.ofElement element).attributes, entry.2.ref? = none := by
    unfold Description.attributes
    cases (Description.ofElement element).kind <;> split <;> simp [Value.ref?]
  exact List.filterMap_eq_nil_iff.mpr texts

end Mse

namespace Model

variable {model : Model} {definitions : List (String × Kind)}

/-! ### Elements -/

theorem Resolved.mem_records_iff (resolved : model.Resolved definitions) {record : Mse.Record} :
    record ∈ model.records ↔
      (∃ entry ∈ model.allElements.entries,
        .element (model.numberOf entry.1) entry.2 = record) ∨
      (∃ containment ∈ model.containments,
        .parentChild (model.numberOf containment.parent.uniqueName)
          (model.numberOf containment.child.uniqueName) true = record) ∨
      (∃ call ∈ model.calls, ∃ caller, call.caller = some caller ∧
        .call (model.numberOf caller) (model.numberOf call.called) = record) ∨
      ∃ access ∈ model.accesses,
        .access (model.numberOf access.accessor) (model.numberOf access.accessed) access.isWrite
          access.isRead access.isDependent = record := by
  simp only [resolved.records_eq, List.mem_append, List.mem_map, List.mem_filterMap,
    Option.map_eq_some_iff, Array.mem_toList_iff, or_assoc]

theorem Resolved.numberedElements_records (resolved : model.Resolved definitions) :
    Mse.numberedElements model.records = model.allElements.entries.map fun entry =>
      (model.numberOf entry.1, entry.2) := by
  have calls (call : Call) : ((call.caller.map fun caller => Mse.Record.call (model.numberOf caller)
      (model.numberOf call.called)).bind Mse.Record.numbered?) = none := by
    cases call.caller <;> rfl
  simp [Mse.numberedElements, resolved.records_eq, List.filterMap_filterMap, calls,
    Mse.Record.numbered?, Function.comp_def]

theorem perm_map_numberOf (model : Model) :
    (model.allElements.keys.map model.numberOf).Perm
      (List.range' 1 model.allElements.keys.length) := by
  have counted : model.numberedNames.map model.numberOf =
      List.range' 1 model.numberedNames.length := by
    rw [← values_numbering, ← Table.filterMap_get?_keys, keys_numbering]
    refine (List.filterMap_eq_map_iff_forall_eq_some.mpr fun name member => ?_).symm
    exact numbering_eq_numberOf (model.perm_numberedNames.mem_iff.mp member)
  rw [← model.perm_numberedNames.length_eq, ← counted]
  exact model.perm_numberedNames.symm.map _

theorem Resolved.uniqueName_of_get? (resolved : model.Resolved definitions) {name : String}
    {element : Element} (found : model.allElements.get? name = some element) :
    element.uniqueName = name := by
  rw [get?_allElements, Option.or_eq_some_iff] at found
  rcases found with own | ⟨-, isExternal⟩
  · exact resolved.keyed own
  · exact (model.mem_of_get?_externalTable isExternal).2

/-! ### References -/

theorem numberOf_bounds {name : String}
    (known : model.numbering.get? name = some (model.numberOf name)) :
    1 ≤ model.numberOf name ∧ model.numberOf name ≤ model.allElements.entries.length := by
  have bounds := model.numbering_bounds known
  rwa [model.perm_numberedNames.length_eq, Table.keys, List.length_map] at bounds

/-- References are numbers of names that are mentioned. -/
theorem Resolved.exists_of_mem_refs (resolved : model.Resolved definitions) {record : Mse.Record}
    (member : record ∈ model.records) {id : Nat} (refers : id ∈ record.refs) :
    ∃ name ∈ model.mentioned, id = model.numberOf name := by
  rcases resolved.mem_records_iff.mp member with ⟨entry, -, rfl⟩ | ⟨containment, recorded, rfl⟩ |
    ⟨call, recorded, caller, isCaller, rfl⟩ | ⟨access, recorded, rfl⟩
  · rw [Mse.Record.refs_element] at refers
    cases refers
  · rcases List.mem_pair.mp refers with rfl | rfl
    · exact ⟨_, mentioned_of_containment recorded (.inl rfl), rfl⟩
    · exact ⟨_, mentioned_of_containment recorded (.inr rfl), rfl⟩
  · rcases List.mem_pair.mp refers with rfl | rfl
    · exact ⟨_, mentioned_of_call recorded (.inl isCaller), rfl⟩
    · exact ⟨_, mentioned_of_call recorded (.inr rfl), rfl⟩
  · rcases List.mem_pair.mp refers with rfl | rfl
    · exact ⟨_, mentioned_of_access recorded (.inl rfl), rfl⟩
    · exact ⟨_, mentioned_of_access recorded (.inr rfl), rfl⟩

theorem Resolved.intact (resolved : model.Resolved definitions) : Mse.Intact model.records := by
  have elements := resolved.numberedElements_records
  constructor
  · have keys : (Mse.numberedElements model.records).map Prod.fst =
        model.allElements.keys.map model.numberOf := by
      simp [elements, Table.keys]
    have count : (Mse.numberedElements model.records).length = model.allElements.keys.length := by
      simp [elements, Table.keys]
    rw [keys, count]
    exact model.perm_map_numberOf
  · have names : (Mse.numberedElements model.records).map (fun element => element.2.uniqueName) =
        model.allElements.keys := by
      rw [elements, List.map_map]
      exact List.map_congr_left fun entry listed =>
        resolved.uniqueName_of_get? (Table.get?_eq_some_iff.mpr listed)
    rw [names]
    exact model.allElements.nodup_keys
  · intro record member id refers
    obtain ⟨name, mentioned, rfl⟩ := resolved.exists_of_mem_refs member refers
    rw [elements, List.length_map]
    exact numberOf_bounds (resolved.numbered mentioned)

end Model

/-- A run of the program leaves the disk as it is, or it writes one file, with the records of a
project on the disk, and these are intact. This holds in whatever order the setting has the files
met and the types of parameters gone through. -/
theorem run_writes_intact_model (setting : Desk.Setting) (arguments : List String) (desk : Desk) :
    let after := (Desk.run setting arguments desk).2
    after.disk = desk.disk ∨
      ∃ base place,
        let records := (Desk.project setting desk.disk base).model.records
        after.disk = desk.disk.addFile place (Mse.renderFile records).toUTF8.toList ∧
          Mse.Intact records := by
  intro after
  obtain ⟨base, rests | ⟨place, written⟩⟩ := Desk.run_writes setting arguments desk
  · exact .inl rests
  · exact .inr ⟨base, place, written, (Model.ofFiles_resolved _ _).intact⟩

end CodeMap
