/-
Which of the definitions of a name is kept, and under which number.

A name may be introduced many times, in one file and in several ones. Which elements a file
introduces depends on its walk alone (`elementsAlong`). Files, classes and functions replace what
was kept under their name, attributes do not, and the place of a name among the others is that of
its first introduction. Main statement: the first pass keeps of each name its last definition, or
its first attribute if it has no definition, and the number of a name in the model file counts the
names that were introduced before it (`first_pass_keeps`).
-/

import CodeMap.Proofs.Apart
import CodeMap.Proofs.Integrity
import CodeMap.Proofs.Nesting

namespace CodeMap

open Source

/-! ### Elements that files introduce -/

namespace Definitions

/-- The elements that a step introduces, in their order, but for their serial numbers. A function is
a method if a class is open. -/
def elementsBy (file : File) (scope : Scope) : Step → List Element
  | .enterModule =>
    [{ serial := 0
       name := file.name
       uniqueName := file.module
       role := .file
       link := some (file.link .start) }]
  | .enterClass position name =>
    [{ serial := 0
       name := name.text
       uniqueName := file.module ++ "." ++ name.text
       role := .classDefinition
       link := some (file.link position) }]
  | .enterFunction position name params =>
    [{ serial := 0
       name := name.text
       uniqueName := scope.openClass.getD file.module ++ "." ++ name.text
       role :=
        match scope.openClass with
        | some _ => .method (State.parameterNames params)
        | none => .function (State.parameterNames params)
       link := some (file.link position) }]
  | .assign position targets _ =>
    scope.openClass.toList.flatMap fun owner =>
      (targets.filterMap State.selfAttribute?).map fun attr =>
        { serial := 0
          name := attr
          uniqueName := owner ++ "." ++ attr
          role := .attribute
          link := some (file.link position) }
  | _ => []

/-- The elements that the steps of a walk introduce. -/
def elementsAlong (file : File) : Scope → List Step → List Element
  | _, [] => []
  | scope, step :: steps =>
    elementsBy file scope step ++ elementsAlong file (scope.step file.module step) steps

end Definitions

/-- The elements that a file introduces. -/
def ReadFile.elementsIntroduced (file : ReadFile) : List Element :=
  match file.trees with
  | .ok trees => Definitions.elementsAlong file.place {} (walkModule trees)
  | .error _ => []

/-- What is kept of the elements that were introduced under a name: the last one that is no
attribute, or else the first attribute. -/
def survivor? (introduced : List Element) (name : String) : Option Element :=
  ((introduced.filter fun element => element.uniqueName = name ∧ ¬ element.isData).getLast?).or
    (introduced.find? (·.uniqueName = name))

/-- The names of the elements, each where it comes first. -/
def namesInOrder (introduced : List Element) : List String :=
  (introduced.map (·.uniqueName)).eraseDups

theorem survivor?_append_singleton (introduced : List Element) (new : Element) (name : String) :
    survivor? (introduced ++ [new]) name =
      if new.uniqueName = name ∧ ¬ new.isData then some new
      else (survivor? introduced name).or (if new.uniqueName = name then some new else none) := by
  unfold survivor?
  by_cases own : new.uniqueName = name
  · cases isData : new.isData with
    | true => simp [List.find?_append, own, isData]
    | false => simp [own, isData]
  · simp [List.find?_append, own]

theorem survivor?_eq_none_iff {introduced : List Element} {name : String} :
    survivor? introduced name = none ↔ name ∉ introduced.map (·.uniqueName) := by
  simp only [survivor?, Option.or_eq_none_iff, List.getLast?_eq_none_iff, List.filter_eq_nil_iff,
    List.find?_eq_none, decide_eq_true_eq, List.mem_map, not_exists, not_and]
  constructor
  · exact And.right
  · intro absent
    exact ⟨fun element member named => absurd named (absent element member), absent⟩

theorem mem_namesInOrder {introduced : List Element} {name : String} :
    name ∈ namesInOrder introduced ↔ name ∈ introduced.map (·.uniqueName) :=
  List.mem_eraseDups

theorem eraseDups_append_singleton (names : List String) (name : String) :
    (names ++ [name]).eraseDups =
      if name ∈ names then names.eraseDups else names.eraseDups ++ [name] := by
  rw [List.eraseDups_append]
  by_cases known : name ∈ names
  · simp [List.removeAll, known]
  · simp [List.removeAll, known, List.eraseDups_cons]

theorem namesInOrder_append_singleton (introduced : List Element) (new : Element) :
    namesInOrder (introduced ++ [new]) =
      if new.uniqueName ∈ namesInOrder introduced then namesInOrder introduced
      else namesInOrder introduced ++ [new.uniqueName] := by
  simp only [mem_namesInOrder]
  rw [namesInOrder, List.map_append]
  exact eraseDups_append_singleton _ _

/-! ### One element -/

namespace Model

/-- The model keeps what survives of the introduced elements, under names in the order of their
introduction. -/
structure Keeps (model : Model) (introduced : List Element) : Prop where
  keys : model.elements.keys = namesInOrder introduced
  elements : ∀ name,
    (model.elements.get? name).map Element.unnumbered = survivor? introduced name

namespace Keeps

variable {model after : Model} {introduced : List Element} {new : Element}

theorem of_eq (keeps : model.Keeps introduced) (same : after.elements = model.elements) :
    after.Keeps introduced :=
  ⟨same ▸ keeps.keys, same ▸ keeps.elements⟩

/-- An element is kept if its name is free or it is no attribute. -/
theorem insert (keeps : model.Keeps introduced) {element : Element}
    (changed : after.elements = model.elements.insert element.uniqueName element)
    (alike : element.unnumbered = new)
    (replaces : element.isData = true → element.uniqueName ∉ model.elements.keys) :
    after.Keeps (introduced ++ [new]) := by
  have sameName : new.uniqueName = element.uniqueName := alike ▸ rfl
  have sameKind : new.isData = element.isData := alike ▸ rfl
  constructor
  · rw [changed, namesInOrder_append_singleton, ← keeps.keys, sameName]
    split
    · rename_i known
      exact Table.keys_insert_of_mem element known
    · rename_i fresh
      exact Table.keys_insert_of_not_mem element fresh
  · intro name
    rw [changed, Table.get?_insert, survivor?_append_singleton, sameName, sameKind]
    by_cases own : element.uniqueName = name
    · cases isData : element.isData with
      | false => simp [own, alike]
      | true =>
        -- The name was free, so nothing has survived under it.
        have free : survivor? introduced name = none := by
          rw [survivor?_eq_none_iff, ← mem_namesInOrder, ← keeps.keys, ← own]
          exact replaces isData
        simp [own, alike, free]
    · simp [own, keeps.elements name]

/-- A file, a class or a function is kept in any case. -/
theorem define (keeps : model.Keeps introduced) {element : Element}
    (changed : after.elements = model.elements.insert element.uniqueName element)
    (alike : element.unnumbered = new) (notData : element.isData = false) :
    after.Keeps (introduced ++ [new]) := by
  apply keeps.insert changed alike
  intro isData
  rw [notData] at isData
  cases isData

/-- An attribute is not kept if its name is taken. -/
theorem taken (keeps : model.Keeps introduced) (isData : new.isData = true)
    (known : new.uniqueName ∈ model.elements.keys) : model.Keeps (introduced ++ [new]) := by
  rw [keeps.keys] at known
  constructor
  · rw [namesInOrder_append_singleton, if_pos known, keeps.keys]
  · intro name
    rw [keeps.elements, survivor?_append_singleton]
    by_cases own : new.uniqueName = name
    · have survives : survivor? introduced name ≠ none := by
        rw [ne_eq, survivor?_eq_none_iff, ← mem_namesInOrder, ← own]
        exact not_not_intro known
      obtain ⟨element, survivor⟩ := Option.ne_none_iff_exists'.mp survives
      simp [isData, survivor]
    · simp [own]

end Keeps

end Model

/-! ### One step -/

namespace Definitions.State

variable {state : State} {introduced : List Element} (file : File)

theorem define_elements (state : State) (element : Element) (short : String) :
    (state.define element short).model.elements =
      state.model.elements.insert element.uniqueName element := by
  rw [define_eq]
  exact Model.enterMember_elements _ _ _ _

theorem keeps_enterClass (keeps : state.model.Keeps introduced) (position : Position)
    (name : Identifier) :
    (state.enterClass file position name.text).model.Keeps
      (introduced ++ elementsBy file state.scope (.enterClass position name)) := by
  have changed : (state.enterClass file position name.text).model.elements = _ :=
    define_elements state _ _
  exact keeps.define changed rfl rfl

theorem keeps_enterFunction (keeps : state.model.Keeps introduced) (position : Position)
    (name : Identifier) (params : List Tree) :
    (state.enterFunction file position name.text params).model.Keeps
      (introduced ++ elementsBy file state.scope (.enterFunction position name params)) := by
  have changed : (state.enterFunction file position name.text params).model.elements = _ :=
    define_elements state _ _
  unfold elementsBy scope
  cases isOpen : state.openClass with
  | none =>
    rw [isOpen] at changed
    exact keeps.define changed rfl rfl
  | some owner =>
    rw [isOpen] at changed
    exact keeps.define changed rfl rfl

theorem keeps_defineAttribute (keeps : state.model.Keeps introduced) (position : Position)
    (owner : Element) (attr : String) :
    (state.defineAttribute file position owner attr).model.Keeps
      (introduced ++
        [{ serial := 0
           name := attr
           uniqueName := owner.uniqueName ++ "." ++ attr
           role := .attribute
           link := some (file.link position) }]) := by
  unfold defineAttribute
  dsimp only
  split
  · rename_i known
    exact keeps.taken rfl (Table.contains_iff.mp known)
  · rename_i free
    rw [Table.contains_iff] at free
    have changed : (state.model.enter
      ⟨state.model.made, attr, owner.uniqueName ++ "." ++ attr, .attribute,
        some (file.link position)⟩).elements = _ := rfl
    exact keeps.insert changed rfl fun _ => free

theorem keeps_assign (keeps : state.model.Keeps introduced) (position : Position)
    (targets : List Tree) (value : Tree) :
    (state.assign file position targets).model.Keeps
      (introduced ++ elementsBy file state.scope (.assign position targets value)) := by
  unfold assign elementsBy scope
  cases state.openClass with
  | none => simpa using keeps
  | some owner =>
    simp only [Option.map_some, Option.toList_some, List.flatMap_cons, List.flatMap_nil,
      List.append_nil]
    generalize targets.filterMap selfAttribute? = attrs
    induction attrs generalizing state introduced with
    | nil => simpa using keeps
    | cons attr attrs ih =>
      have rest := ih (keeps_defineAttribute file keeps position owner attr)
      simpa using rest

/-- A step changes what is kept by the elements that it introduces. -/
theorem keeps_step (keeps : state.model.Keeps introduced) (step : Step) :
    (state.step file step).model.Keeps (introduced ++ elementsBy file state.scope step) := by
  cases step with
  | enterModule =>
    have changed : (state.enterModule file).model.elements = _ := rfl
    exact keeps.define changed rfl rfl
  | enterClass position name => exact keeps_enterClass file keeps position name
  | enterFunction position name params => exact keeps_enterFunction file keeps position name params
  | assign position targets value => exact keeps_assign file keeps position targets value
  | _ =>
    simp only [elementsBy, List.append_nil]
    exact keeps.of_eq rfl

/-! ### Many steps -/

theorem keeps_foldl_step (keeps : state.model.Keeps introduced) (steps : List Step) :
    (steps.foldl (State.step file) state).model.Keeps
      (introduced ++ elementsAlong file state.scope steps) := by
  induction steps generalizing state introduced with
  | nil => simpa [elementsAlong] using keeps
  | cons step steps ih =>
    have rest := ih (keeps_step file keeps step)
    rw [step_scope] at rest
    simpa [elementsAlong] using rest

end Definitions.State

namespace Extraction

theorem collectFile_keeps {model : Model} {introduced : List Element}
    (keeps : model.Keeps introduced) (file : ReadFile) :
    (collectFile model file).Keeps (introduced ++ file.elementsIntroduced) := by
  unfold collectFile ReadFile.elementsIntroduced
  cases file.trees with
  | ok trees =>
    have atFirst : ({ model := model } : Definitions.State).model.Keeps introduced := keeps
    exact Definitions.State.keeps_foldl_step file.place atFirst (walkModule trees)
  | error fault =>
    rw [List.append_nil]
    exact keeps.of_eq rfl

theorem foldl_collectFile_keeps {model : Model} {introduced : List Element}
    (keeps : model.Keeps introduced) (files : List ReadFile) :
    (collectAll model files).Keeps
      (introduced ++ files.flatMap ReadFile.elementsIntroduced) := by
  induction files generalizing model introduced with
  | nil => simpa [collectAll] using keeps
  | cons file files ih =>
    have rest := ih (collectFile_keeps keeps file)
    simpa [collectAll] using rest

/-- The first pass keeps what survives of the elements that the files introduce. -/
theorem collectAll_keeps (files : List ReadFile) :
    (collectAll {} files).Keeps (files.flatMap ReadFile.elementsIntroduced) := by
  have empty : ({} : Model).Keeps [] := ⟨rfl, fun _ => rfl⟩
  simpa using foldl_collectFile_keeps empty files

end Extraction

/-! ### Numbers -/

/-- The elements of the project are numbered in the order of their names. -/
theorem Model.numberOf_of_keys {model : Model} {before after : List String} {name : String}
    (split : model.elements.keys = before ++ name :: after) :
    model.numberOf name = 1 + before.length := by
  have numbered : model.numbering.get? name = some (1 + before.length) := by
    rw [Table.get?_eq_some_iff, entries_numbering, numberedNames, split, List.append_assoc,
      List.zipIdx_append, List.mem_append]
    right
    rw [List.cons_append, List.zipIdx_cons]
    exact List.mem_cons_self
  simp [numberOf, numbered]

/-- A key of a table has one entry. -/
theorem Table.filter_entries {α : Type} {table : Table α} {key : String} {value : α}
    (found : table.get? key = some value) :
    table.entries.filter (·.1 = key) = [(key, value)] := by
  have distinct : table.entries.Nodup := List.Nodup.of_map _ table.distinct
  rw [← List.perm_singleton,
    List.perm_ext_iff_of_nodup (distinct.filter _) (List.nodup_singleton _)]
  rintro ⟨other, held⟩
  simp only [List.mem_filter, decide_eq_true_eq, List.mem_singleton, Prod.mk.injEq]
  constructor
  · rintro ⟨member, rfl⟩
    have same := (Table.get?_eq_some_iff.mpr member).symm.trans found
    exact ⟨rfl, Option.some.inj same⟩
  · rintro ⟨rfl, rfl⟩
    exact ⟨Table.get?_eq_some_iff.mp found, rfl⟩

/-- An element of the project is written once, under the number of its name. -/
theorem Model.Resolved.filter_numberedElements {model : Model}
    {definitions : List (String × Kind)} (resolved : model.Resolved definitions) {name : String}
    {element : Element} (found : model.elements.get? name = some element) :
    (Mse.numberedElements model.records).filter (·.2.uniqueName = name) =
      [(model.numberOf name, element)] := by
  have written : model.allElements.get? name = some element := by
    rw [get?_allElements, found, Option.some_or]
  have named : model.allElements.entries.filter (·.2.uniqueName = name) =
      model.allElements.entries.filter (·.1 = name) := by
    apply List.filter_congr
    intro entry member
    rw [resolved.uniqueName_of_get? (Table.get?_eq_some_iff.mpr member)]
  rw [resolved.numberedElements_records, List.filter_map]
  change (model.allElements.entries.filter (·.2.uniqueName = name)).map _ = _
  rw [named, Table.filter_entries written]
  rfl

/-- A name comes after the names that were introduced before it, each counted once. -/
theorem eraseDups_eq_split {names : List String} {name : String} (member : name ∈ names) :
    ∃ after, names.eraseDups = (names.takeWhile (· ≠ name)).eraseDups ++ name :: after := by
  obtain ⟨before, after, rfl, first⟩ := List.eq_append_cons_of_mem member
  have stops : (before ++ name :: after).takeWhile (· ≠ name) = before := by
    rw [List.takeWhile_append_of_pos]
    · simp
    · intro other earlier
      apply decide_eq_true
      rintro rfl
      exact first earlier
  have fresh : (name :: after).removeAll before = name :: after.removeAll before := by
    simp [List.removeAll, first]
  rw [stops, List.eraseDups_append, fresh, List.eraseDups_cons]
  exact ⟨_, rfl⟩

/-- Of the elements that files introduce under a name, the first pass keeps the last file, class or
function, and the first attribute if there is no other; names stand in the order of their first
introduction. In the model file a name that was introduced has one element, the one that was kept,
and its number is one more than that of the different names introduced before it. -/
theorem first_pass_keeps (order : Arrangement String) (files : List ReadFile) :
    let introduced := files.flatMap ReadFile.elementsIntroduced
    let names := introduced.map (·.uniqueName)
    let collected := Extraction.collectAll {} files
    collected.elements.keys = names.eraseDups ∧
      (∀ name, (collected.elements.get? name).map Element.unnumbered =
        survivor? introduced name) ∧
      ∀ name ∈ names, ∃ element, survivor? introduced name = some element.unnumbered ∧
        (Mse.numberedElements (Model.ofFiles order files).records).filter (·.2.uniqueName = name) =
          [(1 + (names.takeWhile (· ≠ name)).eraseDups.length, element)] := by
  intro introduced names collected
  have keeps : collected.Keeps introduced := Extraction.collectAll_keeps files
  have resolved := Model.ofFiles_resolved order files
  have elements : (Model.ofFiles order files).elements = collected.elements :=
    (Model.ofFiles_analysed order files).elements
  refine ⟨keeps.keys, keeps.elements, fun name member => ?_⟩
  obtain ⟨later, split⟩ := eraseDups_eq_split member
  have keys : (Model.ofFiles order files).elements.keys = _ := elements ▸ keeps.keys.trans split
  have listed : name ∈ (Model.ofFiles order files).elements.keys := by
    rw [keys]
    exact List.mem_append_right _ List.mem_cons_self
  obtain ⟨element, found⟩ := Table.mem_keys_iff.mp listed
  refine ⟨element, ?_, ?_⟩
  · rw [← keeps.elements, ← elements, found]
    rfl
  · rw [← Model.numberOf_of_keys keys]
    exact resolved.filter_numberedElements found

end CodeMap
