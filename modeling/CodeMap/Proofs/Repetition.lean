/-
The third pass over the files of a project repeats the second.

The second pass enters the external code that it meets, so the third one starts with more names
known. If no name of the project is foreign, each file contributes the same to both passes. Main
statement: the third pass enters nothing, and it records the accesses and the calls of the project's
own code once more, in the same order (`third_pass_repeats_second`).
-/

import CodeMap.Proofs.Contribution
import CodeMap.Proofs.Integrity
import Mathlib.Algebra.Group.Even

namespace CodeMap

open Source

/-! ### The passes -/

namespace Extraction

variable (order : Arrangement String) {files : List ReadFile}

theorem firstPass_domestic (domestic : ∀ file ∈ files, file.Domestic) :
    (firstPass files).Domestic := by
  have atFirst : ({} : Model).Domestic := ⟨nofun, nofun⟩
  exact (collectAll_domestic atFirst domestic).note .secondPass

theorem firstPass_usages (files : List ReadFile) :
    (firstPass files).calls = #[] ∧ (firstPass files).accesses = #[] := by
  obtain ⟨entered, collecting, -⟩ := collectAll_collecting {} files
  exact ⟨collecting.usages_eq.1, collecting.usages_eq.2.1⟩

theorem analyseAll_elements (model : Model) (files : List ReadFile) :
    (analyseAll order model files).elements = model.elements :=
  (analyseAll_analysed order model files fun _ defined => defined).elements

theorem secondPass_widens (files : List ReadFile) :
    (firstPass files).Widens (secondPass order files) :=
  analyseAll_widens _ files

theorem thirdPass_widens (files : List ReadFile) :
    (secondPass order files).Widens (thirdPass order files) := by
  have reported : (secondPass order files).Widens
      (((secondPass order files).note .typesAssigned).note .thirdPass) := .of_eq rfl rfl
  exact reported.trans (analyseAll_widens _ files)

theorem firstPass_bare (domestic : ∀ file ∈ files, file.Domestic) : (firstPass files).Bare :=
  ⟨firstPass_domestic domestic, (firstPass_usages files).1, (firstPass_usages files).2⟩

section Contributed

variable {bare : Model} (isBare : bare.Bare) (covered : bare.CoveredBy (firstPass files))
  (domestic : ∀ file ∈ files, file.Domestic)

include isBare covered domestic

theorem secondPass_contributed :
    Contributed order bare files (firstPass files) (secondPass order files) :=
  analyseAll_contributed order isBare covered domestic

theorem thirdPass_contributed :
    Contributed order bare files (((secondPass order files).note .typesAssigned).note .thirdPass)
      (thirdPass order files) := by
  have covered := (secondPass_contributed order isBare covered domestic).covered
  exact analyseAll_contributed order isBare (covered.widen (.of_eq rfl rfl)) domestic

/-- Each pass records what the files contribute. -/
theorem secondPass_usages :
    (secondPass order files).domesticCalls =
        (files.flatMap fun file => (analyseFile order bare file).domesticCalls) ∧
      (secondPass order files).accesses.toList =
        files.flatMap fun file => (analyseFile order bare file).accesses.toList := by
  have contributed := secondPass_contributed order isBare covered domestic
  obtain ⟨noCalls, noAccesses⟩ := firstPass_usages files
  refine ⟨?_, ?_⟩
  · rw [contributed.calls, Model.domesticCalls, noCalls]
    rfl
  · rw [contributed.accesses, noAccesses]
    rfl

theorem thirdPass_usages :
    (thirdPass order files).domesticCalls =
        (secondPass order files).domesticCalls ++ (secondPass order files).domesticCalls ∧
      (thirdPass order files).accesses.toList =
        (secondPass order files).accesses.toList ++ (secondPass order files).accesses.toList := by
  have contributed := thirdPass_contributed order isBare covered domestic
  obtain ⟨calls, accesses⟩ := secondPass_usages order isBare covered domestic
  refine ⟨?_, ?_⟩
  · rw [contributed.calls, ← calls]
    rfl
  · rw [contributed.accesses, ← accesses]
    rfl

end Contributed

/-- The third pass makes no name known. -/
theorem knows_of_thirdPass (domestic : ∀ file ∈ files, file.Domestic) {name : String}
    (known : (thirdPass order files).knows name) : (secondPass order files).knows name := by
  have isBare := firstPass_bare domestic
  have covered := isBare.toDomestic.covered
  have second := secondPass_contributed order isBare covered domestic
  have third := thirdPass_contributed order isBare covered domestic
  rcases third.within known with before | ⟨file, member, alone⟩
  · exact before
  · have contribution := analyseFile_contribution order isBare.toDomestic covered
      (domestic file member)
    by_cases isForeign : Foreign name
    · -- The name of external code is that of the second pass, or it has a mark too many.
      obtain ⟨own, rfl, -⟩ := contribution.marked alone isForeign
      rcases second.met file member alone with met | ⟨-, met⟩
      · exact met
      · exact (third.fresh known).resolve_right fun unknown => unknown met
    · exact second.kept ((contribution.covered.knows_iff isForeign).mp alone)

end Extraction

/-! ### What is recorded twice -/

/-- The calls of what the project defines. -/
def Model.ownCalls (model : Model) : List Call :=
  model.calls.toList.filter fun call => model.elements.contains call.called

/-- The model `after` knows what `model` knows, and has recorded the same once more. -/
structure Model.RepeatedBy (model after : Model) : Prop where
  symbols : after.symbols = model.symbols
  elements : after.elements = model.elements
  allElements : after.allElements = model.allElements
  accesses : after.accesses.toList = model.accesses.toList ++ model.accesses.toList
  calls : after.ownCalls = model.ownCalls ++ model.ownCalls

/-- What the project defines has no foreign name. -/
theorem Extraction.ownCalls_eq {files : List ReadFile} (domestic : ∀ file ∈ files, file.Domestic)
    {model : Model} (same : model.elements = (firstPass files).elements) :
    model.ownCalls =
      model.domesticCalls.filter fun call => (firstPass files).elements.contains call.called := by
  rw [Model.ownCalls, Model.domesticCalls, List.filter_filter, same]
  refine List.filter_congr fun call _ => ?_
  cases defined : (firstPass files).elements.contains call.called with
  | false => rfl
  | true =>
    have own := (firstPass_domestic domestic).elements _ (Table.contains_iff.mp defined)
    simp [own]

theorem Extraction.secondPass_repeatedBy (order : Arrangement String) {files : List ReadFile}
    (domestic : ∀ file ∈ files, file.Domestic) :
    (secondPass order files).RepeatedBy (thirdPass order files) := by
  have second : (secondPass order files).elements = (firstPass files).elements :=
    analyseAll_elements order _ files
  have third : (thirdPass order files).elements = (secondPass order files).elements :=
    analyseAll_elements order _ files
  have isBare := firstPass_bare domestic
  obtain ⟨calls, accesses⟩ := thirdPass_usages order isBare isBare.toDomestic.covered domestic
  obtain ⟨symbols, externals⟩ :=
    (thirdPass_widens order files).unchanged fun _ => knows_of_thirdPass order domestic
  refine ⟨symbols, third, ?_, accesses, ?_⟩
  · rw [Model.allElements, third, externals]
    rfl
  · rw [ownCalls_eq domestic (third.trans second), ownCalls_eq domestic second, calls,
      List.filter_append]

namespace Model

variable {model : Model} {definitions : List (String × Kind)}

theorem Resolved.count_access (resolved : model.Resolved definitions) (accessor accessed : Nat)
    (isWrite isRead isDependent : Bool) :
    model.records.count (.access accessor accessed isWrite isRead isDependent) =
      (model.accesses.toList.map fun access =>
        (.access (model.numberOf access.accessor) (model.numberOf access.accessed) access.isWrite
          access.isRead access.isDependent : Mse.Record)).count
        (.access accessor accessed isWrite isRead isDependent) := by
  rw [resolved.records_eq, List.count_append, Nat.add_eq_right, List.count_eq_zero]
  simp

/-- A call of what the project defines is written for the calls of it that are recorded. -/
theorem Resolved.count_call (resolved : model.Resolved definitions) {name : String}
    (own : name ∈ model.elements.keys) (caller : Nat) :
    model.records.count (.call caller (model.numberOf name)) =
      (model.ownCalls.filterMap fun call => call.caller.map fun caller =>
        (.call (model.numberOf caller) (model.numberOf call.called) : Mse.Record)).count
        (.call caller (model.numberOf name)) := by
  have known : name ∈ model.allElements.keys := model.mem_keys_allElements.mpr (.inl own)
  have others (calls : Nat) : 0 + 0 + calls + 0 = calls := by omega
  rw [resolved.records_eq, List.count_append, List.count_append, List.count_append,
    List.count_eq_zero.mpr (by simp), List.count_eq_zero.mpr (by simp),
    List.count_eq_zero.mpr (show _ ∉ List.map _ model.accesses.toList by simp), others, ownCalls,
    List.count_eq_countP, List.count_eq_countP, List.countP_filterMap, List.countP_filterMap,
    List.countP_filter]
  refine List.countP_congr fun call recorded => ?_
  have called := resolved.known_of_called (Array.mem_toList_iff.mp recorded)
  cases call.caller with
  | none => simp
  | some code =>
    simp only [Option.map_some, Option.getD_some, beq_iff_eq, Mse.Record.call.injEq,
      numberOf_inj called known, Bool.and_eq_true, Table.contains_iff]
    exact ⟨fun same => ⟨same, same.2 ▸ own⟩, And.left⟩

/-- An element that is not external is written under the number of a name of the project. -/
theorem Resolved.exists_of_mem_records (resolved : model.Resolved definitions) {id : Nat}
    {element : Element} (written : .element id element ∈ model.records)
    (own : element.role ≠ .external) : ∃ name ∈ model.elements.keys, model.numberOf name = id := by
  rcases resolved.mem_records_iff.mp written with ⟨⟨name, listed⟩, member, same⟩ | ⟨_, _, same⟩ |
    ⟨_, _, _, _, same⟩ | ⟨_, _, same⟩
  · cases same
    refine ⟨name, ?_, rfl⟩
    have found := Table.get?_eq_some_iff.mpr member
    rw [get?_allElements, Option.or_eq_some_iff] at found
    rcases found with entered | ⟨-, met⟩
    · exact Table.mem_keys_iff.mpr ⟨_, entered⟩
    · exact absurd (resolved.externals _ (model.mem_of_get?_externalTable met).1) own
  all_goals cases same

namespace RepeatedBy

variable {before : Model}

theorem even_count_access (repeated : before.RepeatedBy model)
    (resolved : model.Resolved definitions) (accessor accessed : Nat)
    (isWrite isRead isDependent : Bool) :
    Even (model.records.count (.access accessor accessed isWrite isRead isDependent)) := by
  rw [resolved.count_access, repeated.accesses, List.map_append, List.count_append]
  exact ⟨_, rfl⟩

theorem even_count_call (repeated : before.RepeatedBy model)
    (resolved : model.Resolved definitions) {called : Nat} {element : Element}
    (written : .element called element ∈ model.records) (own : element.role ≠ .external)
    (caller : Nat) : Even (model.records.count (.call caller called)) := by
  obtain ⟨name, entered, rfl⟩ := resolved.exists_of_mem_records written own
  rw [resolved.count_call entered, repeated.calls, List.filterMap_append, List.count_append]
  exact ⟨_, rfl⟩

end RepeatedBy

end Model

/-- If no name of a project is foreign, its third pass repeats the second: it makes no name stand
for anything new, meets no external code that is not known, and records the same accesses and the
same calls of the project's own functions in the same order. So each such relation stands an even
number of times in the model file. -/
theorem third_pass_repeats_second (project : Project)
    (domestic : ∀ file ∈ project.readFiles, file.Domestic) :
    let second := Extraction.secondPass project.typeOrder project.readFiles
    let third := Extraction.thirdPass project.typeOrder project.readFiles
    let records := project.model.records
    project.model = third.note .combining ∧ second.RepeatedBy third ∧
      (∀ accessor accessed isWrite isRead isDependent,
        Even (records.count (.access accessor accessed isWrite isRead isDependent))) ∧
      ∀ caller called element, .element called element ∈ records → element.role ≠ .external →
        Even (records.count (.call caller called)) := by
  intro second third records
  have repeated : second.RepeatedBy third := Extraction.secondPass_repeatedBy _ domestic
  have repeated' : second.RepeatedBy project.model :=
    ⟨repeated.symbols, repeated.elements, repeated.allElements, repeated.accesses, repeated.calls⟩
  have resolved := Model.ofFiles_resolved project.typeOrder project.readFiles
  refine ⟨rfl, repeated, repeated'.even_count_access resolved, ?_⟩
  exact fun caller called element written own =>
    repeated'.even_count_call resolved written own caller

/-- A class with an attribute and a method, which writes the attribute, calls itself and calls
external code. -/
def counterProject : Project where
  name := "p"
  folder := "/"
  files :=
    [{ path := "p/m.py"
       inner := ["m.py"]
       bytes :=
         "class A:\n def f(self):\n  self.n = 0\n  self.f()\n  g()\n".toUTF8.toList }]

/-- The second pass over the project meets external code, and the third adds nothing to it. -/
theorem counterProject_repeats :
    let second := Extraction.secondPass counterProject.typeOrder counterProject.readFiles
    (∀ file ∈ counterProject.readFiles, file.Domestic) ∧
      (second.externals.size = 1 ∧ second.ownCalls.length = 1 ∧ second.accesses.size = 1) ∧
      second.RepeatedBy
        (Extraction.thirdPass counterProject.typeOrder counterProject.readFiles) := by
  intro second
  have domestic : ∀ file ∈ counterProject.readFiles, file.Domestic := by decide +kernel
  refine ⟨domestic, by decide +kernel, ?_⟩
  exact (third_pass_repeats_second counterProject domestic).2.1

end CodeMap
