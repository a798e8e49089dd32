/-
Kinds at the ends of calls and accesses in a model file.

Calls are meant to go from code to code, and accesses from code to data. A name has one record in
the file, that of its last definition, whatever the name stood for when a usage was recorded. Main
statement: the kinds at the ends of all calls and accesses are right exactly if the last
definitions of the names are (`kinds_fit_iff`).
-/

import CodeMap.Proofs.Integrity

namespace CodeMap

namespace Mse

/-- The file has an element of this kind under the number. -/
def IsKind (records : List Record) (kind : Kind) (id : Nat) : Prop :=
  ∃ element ∈ numberedElements records, element.1 = id ∧ element.2.kind = kind

instance (records : List Record) (kind : Kind) (id : Nat) : Decidable (IsKind records kind id) :=
  inferInstanceAs (Decidable (∃ _ ∈ _, _))

/-- A call goes from code to code, and an access from code to data. -/
def Record.KindsFit (records : List Record) : Record → Prop
  | .call caller called => IsKind records .code caller ∧ IsKind records .code called
  | .access accessor accessed _ _ _ => IsKind records .code accessor ∧ IsKind records .data accessed
  | _ => True

instance (records : List Record) : (record : Record) → Decidable (record.KindsFit records)
  | .element _ _ => inferInstanceAs (Decidable True)
  | .parentChild _ _ _ => inferInstanceAs (Decidable True)
  | .call _ _ => inferInstanceAs (Decidable (_ ∧ _))
  | .access _ _ _ _ _ => inferInstanceAs (Decidable (_ ∧ _))

end Mse

open Definitions (lastKind)

theorem Definitions.exists_lastKind {name : String} {kind : Kind}
    {definitions : List (String × Kind)} (defined : (name, kind) ∈ definitions) :
    ∃ last, lastKind name definitions = some last := by
  have member : (name, kind) ∈ definitions.filter (·.1 = name) := by simp [defined]
  cases last : (definitions.filter (·.1 = name)).getLast? with
  | none =>
    rw [List.getLast?_eq_none_iff.mp last] at member
    cases member
  | some definition => exact ⟨definition.2, by simp [lastKind, last]⟩

namespace Model.Resolved

variable {model : Model} {definitions : List (String × Kind)} {name : String} {kind : Kind}

/-- The element of a number is the one that is written under its name. -/
theorem isKind_iff (resolved : model.Resolved definitions) (known : name ∈ model.allElements.keys) :
    Mse.IsKind model.records kind (model.numberOf name) ↔
      ∃ element, model.allElements.get? name = some element ∧ element.kind = kind := by
  rw [Mse.IsKind, resolved.numberedElements_records]
  constructor
  · rintro ⟨_, listed, sameNumber, isKind⟩
    obtain ⟨entry, stored, rfl⟩ := List.mem_map.mp listed
    have other : entry.1 ∈ model.allElements.keys := List.mem_map_of_mem stored
    have sameName : entry.1 = name := (numberOf_inj other known).mp sameNumber
    exact ⟨entry.2, sameName ▸ Table.get?_eq_some_iff.mpr stored, isKind⟩
  · rintro ⟨element, found, isKind⟩
    have stored : (name, element) ∈ model.allElements.entries := Table.get?_eq_some_iff.mp found
    exact ⟨_, List.mem_map.mpr ⟨(name, element), stored, rfl⟩, rfl, isKind⟩

/-- A name that is entered is written with the kind of its last definition. -/
theorem isKind_iff_of_mem (resolved : model.Resolved definitions)
    (entered : name ∈ model.elements.keys) :
    Mse.IsKind model.records kind (model.numberOf name) ↔
      (lastKind name definitions).getD .data = kind := by
  obtain ⟨element, found⟩ := Table.mem_keys_iff.mp entered
  rw [resolved.isKind_iff (model.mem_keys_allElements.mpr (.inl entered)), get?_allElements, found]
  simp [resolved.kinds found]

/-- A name that is not entered is written as external code. -/
theorem isKind_iff_of_not_mem (resolved : model.Resolved definitions)
    (unknown : name ∉ model.elements.keys)
    (met : ∃ element ∈ model.externals, element.uniqueName = name) :
    Mse.IsKind model.records kind (model.numberOf name) ↔ kind = .code := by
  have nothing : model.elements.get? name = none := Entries.get?_eq_none_iff.mpr unknown
  obtain ⟨element, found⟩ := Table.mem_keys_iff.mp (model.mem_keys_externalTable.mpr met)
  have isExternal := resolved.externals element (model.mem_of_get?_externalTable found).1
  rw [resolved.isKind_iff (model.mem_keys_allElements.mpr (.inr met)), get?_allElements, nothing]
  simp [found, Element.kind, isExternal, Role.kind, eq_comm]

/-! ### The ends of relations -/

/-- A name that was defined as code is written as code if no definition of another kind came
later. -/
theorem isKind_code_iff_of_defined (resolved : model.Resolved definitions)
    (defined : (name, kind) ∈ definitions) :
    Mse.IsKind model.records .code (model.numberOf name) ↔
      lastKind name definitions = some .code := by
  obtain ⟨last, isLast⟩ := Definitions.exists_lastKind defined
  rw [resolved.isKind_iff_of_mem (resolved.defined defined).1, isLast]
  simp

theorem isKind_code_iff_of_called (resolved : model.Resolved definitions) {call : Call}
    (recorded : call ∈ model.calls) :
    Mse.IsKind model.records .code (model.numberOf call.called) ↔
      ∀ kind ∈ lastKind call.called definitions, kind = .code := by
  have ofDefined {kind : Kind} (defined : (call.called, kind) ∈ definitions) :
      Mse.IsKind model.records .code (model.numberOf call.called) ↔
        ∀ kind ∈ lastKind call.called definitions, kind = .code := by
    obtain ⟨last, isLast⟩ := Definitions.exists_lastKind defined
    rw [resolved.isKind_code_iff_of_defined defined, isLast]
    simp
  rcases resolved.called call recorded with defined | ⟨met, ofFile⟩
  · exact ofDefined defined
  · by_cases entered : call.called ∈ model.elements.keys
    · exact ofDefined (ofFile entered)
    · have undefined : lastKind call.called definitions = none := by
        refine Option.eq_none_iff_forall_ne_some.mpr fun kind isLast => entered ?_
        exact (resolved.defined (Definitions.mem_of_lastKind isLast)).1
      simp [resolved.isKind_iff_of_not_mem entered met, undefined]

theorem isKind_data_iff_of_accessed (resolved : model.Resolved definitions) {access : Access}
    (recorded : access ∈ model.accesses) :
    Mse.IsKind model.records .data (model.numberOf access.accessed) ↔
      lastKind access.accessed definitions = none := by
  rw [resolved.isKind_iff_of_mem (resolved.accessed access recorded)]
  cases isLast : lastKind access.accessed definitions with
  | none => simp
  | some kind => simpa using (resolved.defined (Definitions.mem_of_lastKind isLast)).2

/-- Kinds matter to calls and accesses alone. -/
theorem forall_kindsFit_iff (resolved : model.Resolved definitions) :
    (∀ record ∈ model.records, record.KindsFit model.records) ↔
      (∀ call ∈ model.calls, ∀ caller ∈ call.caller,
        Mse.IsKind model.records .code (model.numberOf caller) ∧
          Mse.IsKind model.records .code (model.numberOf call.called)) ∧
      (∀ access ∈ model.accesses,
        Mse.IsKind model.records .code (model.numberOf access.accessor) ∧
          Mse.IsKind model.records .data (model.numberOf access.accessed)) := by
  constructor
  · intro fit
    constructor
    · intro call recorded caller isCaller
      refine fit (.call _ _) (resolved.mem_records_iff.mpr ?_)
      exact .inr (.inr (.inl ⟨call, recorded, caller, isCaller, rfl⟩))
    · intro access recorded
      refine fit (.access _ _ access.isWrite access.isRead access.isDependent) ?_
      exact resolved.mem_records_iff.mpr (.inr (.inr (.inr ⟨access, recorded, rfl⟩)))
  · rintro ⟨calls, accesses⟩ record member
    rcases resolved.mem_records_iff.mp member with ⟨entry, -, rfl⟩ | ⟨containment, -, rfl⟩ |
      ⟨call, recorded, caller, isCaller, rfl⟩ | ⟨access, recorded, rfl⟩
    · trivial
    · trivial
    · exact calls call recorded caller isCaller
    · exact accesses access recorded

end Model.Resolved

/-- In the file of a project all calls go from code to code and all accesses from code to data
exactly if every caller and every accessor has a function as its last definition, what is called
has one too or is not defined in the project, and what is accessed has no definition but that of
an attribute. -/
theorem kinds_fit_iff (project : Project) :
    let definitions := project.readFiles.flatMap ReadFile.definitions
    let records := project.model.records
    (∀ record ∈ records, record.KindsFit records) ↔
      (∀ call ∈ project.model.calls, ∀ caller ∈ call.caller,
        lastKind caller definitions = some .code ∧
          ∀ kind ∈ lastKind call.called definitions, kind = .code) ∧
      (∀ access ∈ project.model.accesses,
        lastKind access.accessor definitions = some .code ∧
          lastKind access.accessed definitions = none) := by
  intro definitions records
  have resolved : project.model.Resolved definitions :=
    Model.ofFiles_resolved project.typeOrder project.readFiles
  rw [resolved.forall_kindsFit_iff]
  refine and_congr ?_ ?_
  · refine forall₂_congr fun call recorded => forall₂_congr fun caller isCaller => ?_
    rw [resolved.isKind_code_iff_of_defined (resolved.callers call recorded caller isCaller),
      resolved.isKind_code_iff_of_called recorded]
  · refine forall₂_congr fun access recorded => ?_
    rw [resolved.isKind_code_iff_of_defined (resolved.accessors access recorded),
      resolved.isKind_data_iff_of_accessed recorded]

/-- A function `f` that calls `g`, and after it a class `f`: the call goes from the class. -/
theorem not_kindsFit_function_then_class :
    let f : Source.Identifier := ⟨"f", rfl⟩
    let g : Source.Identifier := ⟨"g", rfl⟩
    let file : ReadFile :=
      { path := "p/m.py"
        place := { name := "m.py", path := "/p/m.py", module := "p.m" }
        trees := .ok
          [.functionDef ⟨1, 0⟩ f [] [] [.group [.call (.name g) [] []]],
            .functionDef ⟨4, 0⟩ g [] [] [.group []],
            .classDef ⟨7, 0⟩ f [.group []]] }
    let records := (Model.ofFiles .ascending [file]).records
    ¬ ∀ record ∈ records, record.KindsFit records := by
  decide +kernel

end CodeMap
