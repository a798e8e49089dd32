/-
What the elements of files lie in.

While a file is collected, something is always open: its module at least (`State.Places`). So every
class, function and attribute is placed in something that was entered before it in the same file,
and its unique name goes on from the name of the file (`Placed`). Which names are entered, and in
which order, depends on the walk alone (`introductionsAlong`, `enteredOf`). Main statement: all that
is entered from the files of a project is placed (`Model.ofFiles_arranged`).
-/

import CodeMap.Proofs.Passes

namespace CodeMap

open Source

namespace Source

/-- The step neither enters nor leaves anything. -/
def Step.isQuiet : Step → Bool
  | .assign .. | .importNames .. | .importFrom .. | .call .. | .attribute .. | .name .. => true
  | _ => false

/-- A node is a definition, or it has no scope of its own. -/
theorem Tree.opening_closing_cases (tree : Tree) :
    (∃ sort enter leave, tree.opening = [enter] ∧ tree.closing = [leave] ∧
      enter.enters sort = true ∧ leave.leaves sort = true) ∨
      tree.closing = [] ∧ ∀ step ∈ tree.opening, step.isQuiet = true := by
  cases tree with
  | classDef position name parts => exact .inl ⟨.classes, _, _, rfl, rfl, rfl, rfl⟩
  | functionDef position name before params after =>
    exact .inl ⟨.functions, _, _, rfl, rfl, rfl, rfl⟩
  | _ => exact .inr ⟨rfl, by simp [Tree.opening, Step.isQuiet]⟩

end Source

/-! ### Names that files introduce -/

/-- How a name is introduced: by a file, by a class or a function, or by an assignment. -/
inductive Introduced where
  | file
  | definition
  | attribute
deriving DecidableEq, Repr

namespace Definitions

/-- The names that a step introduces. -/
def introducedBy (module : String) (scope : Scope) : Step → List (String × Introduced)
  | .enterModule => [(module, .file)]
  | .enterClass _ name => [(module ++ "." ++ name.text, .definition)]
  | .enterFunction _ name _ =>
    [(scope.openClass.getD module ++ "." ++ name.text, .definition)]
  | .assign _ targets _ =>
    scope.openClass.toList.flatMap fun owner =>
      (targets.filterMap State.selfAttribute?).map fun attr => (owner ++ "." ++ attr, .attribute)
  | _ => []

/-- The names that the steps of a walk introduce. -/
def introductionsAlong (module : String) : Scope → List Step → List (String × Introduced)
  | _, [] => []
  | scope, step :: steps =>
    introducedBy module scope step ++ introductionsAlong module (scope.step module step) steps

theorem introductionsAlong_append (module : String) (scope : Scope) (xs ys : List Step) :
    introductionsAlong module scope (xs ++ ys) =
      introductionsAlong module scope xs ++
        introductionsAlong module (xs.foldl (Scope.step module) scope) ys := by
  induction xs generalizing scope with
  | nil => rfl
  | cons step xs ih => simp [introductionsAlong, ih]

theorem introductionsAlong_singleton (module : String) (scope : Scope) (step : Step) :
    introductionsAlong module scope [step] = introducedBy module scope step :=
  List.append_nil _

/-- Enters a name that is introduced. That of an attribute is not entered again. -/
def enterName (entered : List (String × Introduced)) (new : String × Introduced) :
    List (String × Introduced) :=
  if new.2 = .attribute ∧ new.1 ∈ entered.map Prod.fst then entered else entered ++ [new]

/-- The names that are entered, in their order. -/
def enteredOf (introductions : List (String × Introduced)) : List (String × Introduced) :=
  introductions.foldl enterName []

end Definitions

/-! ### Containments in files -/

/-- Containments with the modules in which they were recorded, in their order. A parent is the
module or a child that was recorded in the module before. -/
inductive Placed : List (String × Containment) → Prop where
  | nil : Placed []
  | snoc {placed : List (String × Containment)} {module : String} {containment : Containment} :
      Placed placed →
        (containment.parent.uniqueName = module ∨ ∃ entry ∈ placed, entry.1 = module ∧
          entry.2.child.uniqueName = containment.parent.uniqueName) →
          module.length < containment.child.uniqueName.length →
            Placed (placed ++ [(module, containment)])

/-- The name is that of the module, or of something that was placed in it. -/
def InModule (module : String) (placed : List (String × Containment)) (name : String) : Prop :=
  name = module ∨ ∃ entry ∈ placed, entry.1 = module ∧ entry.2.child.uniqueName = name

theorem InModule.grow {module name : String} {placed : List (String × Containment)}
    (known : InModule module placed name) (more : List (String × Containment)) :
    InModule module (placed ++ more) name := by
  rcases known with own | ⟨entry, member, rest⟩
  · exact .inl own
  · exact .inr ⟨entry, List.mem_append_left _ member, rest⟩

namespace Model

/-- The containments of a model and its elements are those of the names that were entered: all but
files are placed in something, and a name holds the element that was entered last. -/
structure Arranged (model : Model) (entered : List (String × Introduced))
    (placed : List (String × Containment)) : Prop where
  order : Placed placed
  containments : model.containments.toList = placed.map Prod.snd
  children : placed.map (·.2.child.uniqueName) = (entered.filter (·.2 ≠ .file)).map Prod.fst
  elements : ∀ name, (model.elements.get? name).map (·.isMain) =
    (Entries.last? name entered).map (decide <| · = .file)

namespace Arranged

variable {model : Model} {entered : List (String × Introduced)}
  {placed : List (String × Containment)} {element : Element}

theorem mem_keys_iff (arranged : model.Arranged entered placed) {name : String} :
    name ∈ model.elements.keys ↔ name ∈ entered.map Prod.fst := by
  have same := congrArg Option.isSome (arranged.elements name)
  rw [Option.isSome_map, Option.isSome_map] at same
  rw [← Table.contains_iff, Table.contains, same, Option.isSome_iff_ne_none, ne_eq,
    Entries.last?_eq_none_iff, Decidable.not_not]

theorem enterFile (arranged : model.Arranged entered placed) (isFile : element.role = .file) :
    (model.enter element).Arranged (entered ++ [(element.uniqueName, .file)]) placed where
  order := arranged.order
  containments := arranged.containments
  children := by simpa using arranged.children
  elements name := by
    have before := arranged.elements name
    rw [Entries.last?_append, Entries.last?_singleton, Model.enter,
      Table.get?_insert]
    by_cases own : element.uniqueName = name
    · simp [own, Element.isMain, isFile]
    · simp [own, before]

/-- A class, a function or an attribute is placed in something of its module. -/
theorem enterMember (arranged : model.Arranged entered placed) {module : String}
    {parent : Element} {how : Introduced} (short : String)
    (known : InModule module placed parent.uniqueName)
    (longer : module.length < element.uniqueName.length) (notFile : element.role ≠ .file)
    (how_ne : how ≠ .file) :
    (model.enterMember (some parent) element short).Arranged
      (entered ++ [(element.uniqueName, how)]) (placed ++ [(module, ⟨parent, element⟩)]) where
  order := .snoc arranged.order known longer
  containments := by
    have recorded := arranged.containments
    simp only [Model.enterMember, Model.place, Model.addContainment, Model.bind, Model.enter,
      Array.toList_push]
    simp [recorded]
  children := by simp [arranged.children, how_ne]
  elements name := by
    have before := arranged.elements name
    rw [Entries.last?_append, Entries.last?_singleton,
      Model.enterMember_elements, Table.get?_insert]
    by_cases own : element.uniqueName = name
    · simp [own, Element.isMain, notFile, how_ne]
    · simp [own, before]

end Arranged

end Model

namespace Definitions

/-! ### One step -/

namespace State

variable {state : State} (file : File)

/-- What is open lies in the file. -/
structure Arranged (state : State) (entered : List (String × Introduced))
    (placed : List (String × Containment)) : Prop where
  model : state.model.Arranged entered placed
  scopes : ∀ element ∈ state.scopes, InModule file.module placed element.uniqueName
  openClass : ∀ owner ∈ state.openClass, InModule file.module placed owner.uniqueName ∧
    file.module.length < owner.uniqueName.length

variable {file} {entered : List (String × Introduced)} {placed : List (String × Containment)}

/-- A definition is placed in what is open innermost, and is open itself then. -/
theorem Arranged.define (arranged : state.Arranged file entered placed)
    (inside : state.scopes ≠ []) (element : Element) (short : String)
    (longer : file.module.length < element.uniqueName.length) (notFile : element.role ≠ .file) :
    ∃ placed', (state.define element short).Arranged file
      (entered ++ [(element.uniqueName, .definition)]) placed' ∧
        InModule file.module placed' element.uniqueName := by
  obtain ⟨parent, outer, scopes⟩ := List.exists_cons_of_ne_nil inside
  have known : InModule file.module placed parent.uniqueName :=
    arranged.scopes parent (scopes ▸ List.mem_cons_self)
  have here : InModule file.module (placed ++ [(file.module, ⟨parent, element⟩)])
      element.uniqueName :=
    .inr ⟨_, List.mem_append_right _ List.mem_cons_self, rfl, rfl⟩
  refine ⟨placed ++ [(file.module, ⟨parent, element⟩)], ?_, here⟩
  have model := arranged.model.enterMember short known longer notFile
    (by decide : Introduced.definition ≠ .file)
  rw [define_eq, scopes, List.head?_cons]
  refine ⟨⟨model.order, model.containments, model.children, model.elements⟩, ?_, ?_⟩
  · intro other member
    rcases List.mem_cons.mp member with rfl | member
    · exact here
    · exact (arranged.scopes other (scopes ▸ member)).grow _
  · intro owner isOpen
    exact ⟨(arranged.openClass owner isOpen).1.grow _, (arranged.openClass owner isOpen).2⟩

/-- An attribute is placed in its class, unless its name is taken. -/
theorem Arranged.defineAttribute (arranged : state.Arranged file entered placed) {owner : Element}
    (isOpen : state.openClass = some owner) (position : Position) (attr : String) :
    ∃ placed', (state.defineAttribute file position owner attr).Arranged file
      (enterName entered (owner.uniqueName ++ "." ++ attr, .attribute)) placed' := by
  obtain ⟨known, longer⟩ := arranged.openClass owner isOpen
  rcases defineAttribute_eq file state position owner attr with ⟨taken, same⟩ | ⟨element, short,
    collected, mapped, isAttribute, named, free, changed⟩
  · rw [same, enterName, if_pos ⟨rfl, arranged.model.mem_keys_iff.mp taken⟩]
    exact ⟨placed, arranged⟩
  · rw [arranged.model.mem_keys_iff, named] at free
    rw [changed, enterName, if_neg fun taken => free taken.2, ← named]
    refine ⟨placed ++ [(file.module, ⟨owner, element⟩)], ?_, ?_, ?_⟩
    · have longer : file.module.length < element.uniqueName.length := by
        rw [named, String.length_append, String.length_append]
        omega
      have model := arranged.model.enterMember short known longer
        (by simp [isAttribute]) (by decide : Introduced.attribute ≠ .file)
      exact ⟨model.order, model.containments, model.children, model.elements⟩
    · exact fun other member => (arranged.scopes other member).grow _
    · exact fun other isOpen =>
        ⟨(arranged.openClass other isOpen).1.grow _, (arranged.openClass other isOpen).2⟩

theorem defineAttribute_openClass (state : State) (file : File) (position : Position)
    (owner : Element) (attr : String) :
    (state.defineAttribute file position owner attr).openClass = state.openClass := by
  rcases defineAttribute_eq file state position owner attr with ⟨-, same⟩ | ⟨_, _, _, _, -, -, -,
    changed⟩
  · rw [same]
  · rw [changed]

theorem Arranged.assign (arranged : state.Arranged file entered placed) (position : Position)
    (targets : List Tree) (value : Tree) :
    ∃ placed', (state.assign file position targets).Arranged file
      ((introducedBy file.module state.scope (.assign position targets value)).foldl enterName
        entered) placed' := by
  unfold State.assign introducedBy State.scope
  cases isOpen : state.openClass with
  | none => exact ⟨placed, arranged⟩
  | some owner =>
    simp only [Option.map_some, Option.toList_some, List.flatMap_cons, List.flatMap_nil,
      List.append_nil, List.foldl_map]
    -- The class stays open from one attribute to the next.
    generalize targets.filterMap selfAttribute? = attrs
    induction attrs generalizing state entered placed with
    | nil => exact ⟨placed, arranged⟩
    | cons attr attrs ih =>
      obtain ⟨placed', first⟩ := arranged.defineAttribute isOpen position attr
      have stillOpen := (defineAttribute_openClass state file position owner attr).trans isOpen
      exact ih first stillOpen

/-- A file is placed in nothing. -/
theorem Arranged.enterModule (arranged : state.Arranged file entered placed) :
    (state.enterModule file).Arranged file (enterName entered (file.module, .file)) placed := by
  refine ⟨arranged.model.enterFile rfl, ?_, arranged.openClass⟩
  intro element member
  rcases List.mem_cons.mp member with rfl | member
  · exact .inl rfl
  · exact arranged.scopes element member

/-- Whatever a step enters while something is open, it places in the file. -/
theorem Arranged.step (arranged : state.Arranged file entered placed) (inside : state.scopes ≠ [])
    (step : Step) :
    ∃ placed', (state.step file step).Arranged file
      ((introducedBy file.module state.scope step).foldl enterName entered) placed' := by
  have dot : ".".length = 1 := rfl
  cases step with
  | enterModule => exact ⟨placed, arranged.enterModule⟩
  | enterClass position name =>
    have longer : file.module.length < (file.module ++ "." ++ name.text).length := by
      rw [String.length_append, String.length_append, dot]
      omega
    obtain ⟨placed', defined, known⟩ := arranged.define inside
      ⟨state.model.made, name.text, file.module ++ "." ++ name.text, .classDefinition,
        some (file.link position)⟩ (file.shortModule ++ "." ++ name.text) longer (by simp)
    refine ⟨placed', defined.model, defined.scopes, ?_⟩
    rintro owner ⟨⟩
    exact ⟨known, longer⟩
  | enterFunction position name params =>
    obtain ⟨element, short, event, named, isCode, -, changed⟩ :=
      enterFunction_eq file state position name.text params
    have longer : file.module.length < element.uniqueName.length := by
      rw [named, String.length_append, String.length_append, dot]
      unfold State.scope
      cases isOpen : state.openClass with
      | none =>
        simp only [Option.map_none, Option.getD_none]
        omega
      | some owner =>
        have := (arranged.openClass owner isOpen).2
        simp only [Option.map_some, Option.getD_some]
        omega
    have notFile : element.role ≠ .file := by
      intro isFile
      simp [Element.kind, isFile, Role.kind] at isCode
    obtain ⟨placed', defined, -⟩ := arranged.define inside element short longer notFile
    rw [State.step, changed, introducedBy, ← named]
    refine ⟨placed', ?_, defined.scopes, defined.openClass⟩
    have model := defined.model
    exact ⟨model.order, model.containments, model.children, model.elements⟩
  | assign position targets value => exact arranged.assign position targets value
  | leaveModule | leaveFunction =>
    exact ⟨placed, arranged.model,
      fun element member => arranged.scopes element (List.mem_of_mem_tail member),
      arranged.openClass⟩
  | leaveClass =>
    refine ⟨placed, arranged.model,
      fun element member => arranged.scopes element (List.mem_of_mem_tail member), ?_⟩
    rintro owner ⟨⟩
  | _ => exact ⟨placed, arranged⟩

/-! ### The walk through a file -/

theorem foldl_step_scope (file : File) (state : State) (steps : List Step) :
    (steps.foldl (State.step file) state).scope =
      steps.foldl (Scope.step file.module) state.scope :=
  (List.foldl_hom State.scope fun state step => (state.step_scope file step).symm).symm

theorem step_scopes_of_isQuiet {step : Step} (quiet : step.isQuiet = true) :
    (state.step file step).scopes = state.scopes := by
  cases step with
  | assign position targets value =>
    obtain ⟨model, assigned, -⟩ := assign_eq file state position targets
    rw [State.step, assigned]
  | importNames | importFrom | call | «attribute» | name => rfl
  | enterModule | leaveModule | enterClass | leaveClass | enterFunction | leaveFunction =>
    cases quiet

theorem step_scopes_of_enters {sort : ScopeSort} {step : Step} (enters : step.enters sort = true) :
    ∃ element, (state.step file step).scopes = element :: state.scopes := by
  cases step with
  | enterClass position name =>
    rw [State.step, State.enterClass, define_eq]
    exact ⟨_, rfl⟩
  | enterFunction position name params =>
    obtain ⟨element, short, event, -, -, -, changed⟩ :=
      enterFunction_eq file state position name.text params
    rw [State.step, changed, define_eq]
    exact ⟨_, rfl⟩
  | _ => cases sort <;> cases enters

theorem step_scopes_of_leaves {sort : ScopeSort} {step : Step} (leaves : step.leaves sort = true) :
    (state.step file step).scopes = state.scopes.tail := by
  cases step with
  | leaveClass | leaveFunction => rfl
  | _ => cases sort <;> cases leaves

/-- These steps, taken while something is open, place all that they enter, and the same is open
after them as before. -/
def Places (file : File) (steps : List Step) : Prop :=
  ∀ state : State, ∀ entered placed, state.scopes ≠ [] → state.Arranged file entered placed →
    (steps.foldl (State.step file) state).scopes = state.scopes ∧
      ∃ placed', (steps.foldl (State.step file) state).Arranged file
        ((introductionsAlong file.module state.scope steps).foldl enterName entered) placed'

namespace Places

theorem nil (file : File) : Places file [] :=
  fun _ _ placed _ arranged => ⟨rfl, placed, arranged⟩

theorem append {xs ys : List Step} (first : Places file xs) (second : Places file ys) :
    Places file (xs ++ ys) := by
  intro state entered placed inside arranged
  obtain ⟨same, placed₁, arranged⟩ := first state entered placed inside arranged
  obtain ⟨same', placed₂, arranged⟩ := second _ _ placed₁ (same ▸ inside) arranged
  rw [List.foldl_append, introductionsAlong_append, List.foldl_append, ← foldl_step_scope]
  exact ⟨same'.trans same, placed₂, arranged⟩

theorem of_isQuiet {steps : List Step} (quiet : ∀ step ∈ steps, step.isQuiet = true) :
    Places file steps := by
  induction steps with
  | nil => exact nil file
  | cons step steps ih =>
    have one : Places file [step] := by
      intro state entered placed inside arranged
      obtain ⟨placed', arranged⟩ := arranged.step inside step
      rw [introductionsAlong_singleton]
      exact ⟨step_scopes_of_isQuiet (quiet step List.mem_cons_self), placed', arranged⟩
    exact one.append (ih fun other member => quiet other (List.mem_cons_of_mem _ member))

theorem walkAll {trees : List Tree} (each : ∀ tree ∈ trees, Places file tree.walk) :
    Places file (Source.walkAll trees) := by
  induction trees with
  | nil => exact nil file
  | cons tree trees ih =>
    exact (each tree List.mem_cons_self).append
      (ih fun other member => each other (List.mem_cons_of_mem _ member))

/-- A definition is open while the walk is in it, and closed after it. -/
theorem between {sort : ScopeSort} {enter leave : Step} (enters : enter.enters sort = true)
    (leaves : leave.leaves sort = true) {steps : List Step} (inner : Places file steps) :
    Places file ([enter] ++ steps ++ [leave]) := by
  intro state entered placed inside arranged
  obtain ⟨element, opened⟩ : ∃ element, (state.step file enter).scopes = element :: state.scopes :=
    step_scopes_of_enters enters
  obtain ⟨placed₁, arranged⟩ := arranged.step inside enter
  obtain ⟨same, placed₂, arranged⟩ := inner _ _ placed₁ (by simp [opened]) arranged
  obtain ⟨placed₃, arranged⟩ := arranged.step (by simp [same, opened]) leave
  refine ⟨?_, placed₃, ?_⟩
  · simp [step_scopes_of_leaves leaves, same, opened]
  · simpa [introductionsAlong, introductionsAlong_append, foldl_step_scope, step_scope]
      using arranged

theorem walk (file : File) (tree : Tree) : Places file tree.walk := by
  induction tree using Tree.parts_induction with
  | step tree ih =>
    have inner : Places file (Source.walkAll tree.parts) := walkAll ih
    rw [Tree.walk_eq]
    rcases tree.opening_closing_cases with ⟨sort, enter, leave, opening, closing, enters, leaves⟩ |
      ⟨closing, quiet⟩
    · rw [opening, closing]
      exact inner.between enters leaves
    · rw [closing, List.append_nil]
      exact (of_isQuiet quiet).append inner

end Places

end State

/-- The collection of a file places all that it enters, its module apart. -/
theorem collect_arranged {model : Model} {entered : List (String × Introduced)}
    {placed : List (String × Containment)} (arranged : model.Arranged entered placed) (file : File)
    (body : List Tree) :
    ∃ placed', (collect model file body).Arranged
      ((introductionsAlong file.module {} (walkModule body)).foldl enterName entered) placed' := by
  have atFirst : ({ model := model } : State).Arranged file entered placed :=
    ⟨arranged, by simp, by simp⟩
  have places : State.Places file (walkAll body) :=
    .walkAll fun tree _ => State.Places.walk file tree
  obtain ⟨-, placed', finished⟩ :=
    places _ _ placed (by simp [State.enterModule]) atFirst.enterModule
  have scope : Scope.step file.module {} .enterModule =
      (({ model := model } : State).enterModule file).scope := rfl
  refine ⟨placed', ?_⟩
  rw [← scope] at finished
  simpa [collect, walkModule, introductionsAlong, introductionsAlong_append, introducedBy,
    State.step] using finished.model

end Definitions

/-! ### The first pass -/

/-- The names that a file introduces. -/
def ReadFile.introductions (file : ReadFile) : List (String × Introduced) :=
  match file.trees with
  | .ok trees => Definitions.introductionsAlong file.place.module {} (walkModule trees)
  | .error _ => []

namespace Extraction

open Definitions

theorem collectFile_arranged {model : Model} {entered : List (String × Introduced)}
    {placed : List (String × Containment)} (arranged : model.Arranged entered placed)
    (file : ReadFile) :
    ∃ placed', (collectFile model file).Arranged (file.introductions.foldl enterName entered)
      placed' := by
  unfold collectFile ReadFile.introductions
  cases file.trees with
  | ok trees => exact collect_arranged arranged file.place trees
  | error fault =>
    exact ⟨placed, arranged.order, arranged.containments, arranged.children, arranged.elements⟩

theorem foldl_collectFile_arranged {model : Model} {entered : List (String × Introduced)}
    {placed : List (String × Containment)} (arranged : model.Arranged entered placed)
    (files : List ReadFile) :
    ∃ placed', (collectAll model files).Arranged
      ((files.flatMap ReadFile.introductions).foldl enterName entered) placed' := by
  induction files generalizing model entered placed with
  | nil => exact ⟨placed, arranged⟩
  | cons file files ih =>
    obtain ⟨placed', first⟩ := collectFile_arranged arranged file
    rw [List.flatMap_cons, List.foldl_append]
    exact ih first

/-- The first pass places all that it enters, files apart. -/
theorem collectAll_arranged (files : List ReadFile) :
    ∃ placed, (collectAll {} files).Arranged
      (enteredOf (files.flatMap ReadFile.introductions)) placed :=
  foldl_collectFile_arranged ⟨.nil, rfl, rfl, fun _ => rfl⟩ files

end Extraction

/-- What the first pass has placed stays where it is. -/
theorem Model.ofFiles_arranged (order : Arrangement String) (files : List ReadFile) :
    ∃ placed, (Model.ofFiles order files).Arranged
      (Definitions.enteredOf (files.flatMap ReadFile.introductions)) placed := by
  obtain ⟨placed, arranged⟩ := Extraction.collectAll_arranged files
  have analysed := Model.ofFiles_analysed order files
  refine ⟨placed, arranged.order, ?_, arranged.children, ?_⟩
  · rw [analysed.containments, arranged.containments]
  · rw [analysed.elements]
    exact arranged.elements

end CodeMap
