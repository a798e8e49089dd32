/-
The texts of a model are plain if those of its files are.

All names in a model are made of the names of modules, of identifiers and of imported names, with
full stops between them, and links are made of paths. Each step of the first pass enters such
elements (`Definitions.State.Plain.step`). The analysis takes up names from types, imports and the
source text, and what it meets as external code has such a name (`Usage.State.Plain`,
`Usage.follow_plain`). Main statement: the model of files with plain names and paths is plain
(`Model.ofFiles_plain`).
-/

import CodeMap.Proofs.Alongside
import CodeMap.Proofs.PlainTexts

namespace CodeMap

open Source

/-- The texts of the element in a model file are plain. -/
structure Element.Plain (element : Element) : Prop where
  name : Mse.Plain element.name
  uniqueName : Mse.Plain element.uniqueName
  link : ∀ link ∈ element.link, Mse.Plain link

/-- All elements in the model are plain. -/
structure Model.Plain (model : Model) : Prop where
  symbols : ∀ {name element}, model.symbol? name = some element → element.Plain
  elements : ∀ {name element}, model.elements.get? name = some element → element.Plain
  externals : ∀ element ∈ model.externals, element.Plain

namespace Model.Plain

variable {model : Model} {element : Element}

theorem empty : ({} : Model).Plain := ⟨nofun, nofun, by simp⟩

theorem note (plain : model.Plain) (event : Event) : (model.note event).Plain :=
  ⟨plain.symbols, plain.elements, plain.externals⟩

theorem addCall (plain : model.Plain) (call : Call) : (model.addCall call).Plain :=
  ⟨plain.symbols, plain.elements, plain.externals⟩

theorem addAccess (plain : model.Plain) (access : Access) : (model.addAccess access).Plain :=
  ⟨plain.symbols, plain.elements, plain.externals⟩

theorem addContainment (plain : model.Plain) (containment : Containment) :
    (model.addContainment containment).Plain :=
  ⟨plain.symbols, plain.elements, plain.externals⟩

theorem enter (plain : model.Plain) (own : element.Plain) : (model.enter element).Plain where
  symbols := plain.symbols
  elements {name found} stands := by
    rw [Model.enter, Table.get?_insert] at stands
    split at stands
    · cases stands
      exact own
    · exact plain.elements stands
  externals := plain.externals

theorem bind (plain : model.Plain) (own : element.Plain) (name : String) :
    (model.bind name element).Plain where
  symbols {other found} stands := by
    rw [Model.symbol?, Model.bind, Table.get?_insert] at stands
    split at stands
    · cases stands
      exact own
    · exact plain.symbols stands
  elements := plain.elements
  externals := plain.externals

theorem meetExternal (plain : model.Plain) (policy : Usage.ExternalPolicy) (code : Option String)
    {name : String} (own : Mse.Plain name) : (model.meetExternal policy code name).Plain := by
  have met (serial : Nat) :
      (⟨serial, name, Usage.externalMark ++ name, .external, none⟩ : Element).Plain :=
    ⟨own, Usage.plain_externalMark own, by simp⟩
  have bound := plain.bind (met model.made) (Usage.externalMark ++ name)
  have listed : ∀ element ∈ model.externals.push
      ⟨model.made, name, Usage.externalMark ++ name, .external, none⟩, element.Plain := by
    intro element member
    rcases Array.mem_push.mp member with old | rfl
    · exact plain.externals element old
    · exact met _
  cases policy with
  | drop => exact ⟨bound.symbols, plain.elements, plain.externals⟩
  | keep | keepAndReport => exact ⟨bound.symbols, plain.elements, listed⟩

end Model.Plain

/-! ### The first pass -/

namespace Definitions.State

variable {state : State} {file : File}

/-- All elements that the state knows are plain. -/
structure Plain (state : State) : Prop where
  model : state.model.Plain
  openClass : ∀ owner ∈ state.openClass, owner.Plain

theorem Plain.define (plain : state.Plain) {element : Element} (own : element.Plain)
    (short : String) : (state.define element short).Plain := by
  have model := (((plain.model.enter own).bind own element.uniqueName).bind own short).note
    (.shortNameMapped short element.uniqueName)
  unfold State.define contain
  cases state.scopes with
  | nil => exact ⟨model, plain.openClass⟩
  | cons parent scopes => exact ⟨model.addContainment _, plain.openClass⟩

theorem Plain.opening (plain : state.Plain) (event : Event) (function : Option Element) :
    { state with model := state.model.note event, openFunction := function }.Plain :=
  ⟨plain.model.note event, plain.openClass⟩

theorem Plain.defineAttribute (plain : state.Plain) (place : file.Plain) {owner : Element}
    (own : owner.Plain) (position : Position) {attr : String} (isPlain : Mse.Plain attr) :
    (state.defineAttribute file position owner attr).Plain := by
  unfold State.defineAttribute
  dsimp only
  split
  · exact plain
  · have entered : (⟨state.model.made, attr, owner.uniqueName ++ "." ++ attr, .attribute,
        some (file.link position)⟩ : Element).Plain := by
      refine ⟨isPlain, own.uniqueName.dot isPlain, ?_⟩
      rintro _ ⟨⟩
      exact place.link position
    refine ⟨?_, plain.openClass⟩
    exact ((((plain.model.enter entered).bind entered _).addContainment _).note _).bind entered _
      |>.note _

theorem Plain.assign (plain : state.Plain) (place : file.Plain) (position : Position)
    (targets : List Tree) : (state.assign file position targets).Plain := by
  unfold State.assign
  cases isOpen : state.openClass with
  | none => exact plain
  | some owner =>
    have own := plain.openClass owner isOpen
    clear isOpen
    have attrs : ∀ attr ∈ targets.filterMap selfAttribute?, Mse.Plain attr := by
      intro attr member
      obtain ⟨target, -, named⟩ := List.mem_filterMap.mp member
      unfold selfAttribute? at named
      split at named
      · rename_i id spelled
        split at named
        · cases named
          exact spelled.plain
        · cases named
      · cases named
    dsimp only
    exact List.foldlRecOn _ _ plain fun before plain attr member =>
      plain.defineAttribute place own position (attrs attr member)

/-- A step enters plain elements. -/
theorem Plain.step (plain : state.Plain) (place : file.Plain) (step : Step) :
    (state.step file step).Plain := by
  have linked (position : Position) : ∀ link ∈ some (file.link position), Mse.Plain link := by
    rintro _ ⟨⟩
    exact place.link position
  cases step with
  | enterModule =>
    exact ⟨plain.model.enter ⟨place.name, place.module, linked _⟩, plain.openClass⟩
  | enterClass position name =>
    have own : (⟨state.model.made, name.text, file.module ++ "." ++ name.text, .classDefinition,
        some (file.link position)⟩ : Element).Plain :=
      ⟨name.plain, place.module.dot name.plain, linked _⟩
    refine ⟨(plain.define own _).model, ?_⟩
    rintro owner ⟨⟩
    exact own
  | enterFunction position name params =>
    unfold State.step enterFunction
    cases isOpen : state.openClass with
    | none =>
      refine (plain.define ?_ _).opening _ _
      exact ⟨name.plain, place.module.dot name.plain, linked position⟩
    | some owner =>
      have own := (plain.openClass owner isOpen).uniqueName
      refine (plain.define ?_ _).opening _ _
      exact ⟨name.plain, own.dot name.plain, linked position⟩
  | assign position targets value => exact plain.assign place position targets
  | leaveClass =>
    refine ⟨plain.model, ?_⟩
    rintro owner ⟨⟩
  | leaveModule | leaveFunction => exact ⟨plain.model, plain.openClass⟩
  | _ => exact plain

end Definitions.State

theorem Extraction.collectAll_plain {model : Model} (plain : model.Plain) {files : List ReadFile}
    (places : ∀ file ∈ files, file.place.Plain) : (collectAll model files).Plain := by
  refine List.foldlRecOn files collectFile plain fun before plain file member => ?_
  unfold collectFile
  cases file.trees with
  | error fault => exact plain.note _
  | ok trees =>
    have atFirst : ({ model := before } : Definitions.State).Plain := ⟨plain, by simp⟩
    refine (List.foldlRecOn (walkModule trees) (Definitions.State.step file.place) atFirst
      fun state plain step _ => ?_).model
    exact plain.step (places file member) step

/-! ### Small steps of the analysis -/

namespace Usage

/-- All elements in the model are plain, and so are the names that types and imports stand for. -/
structure State.Plain (state : State) : Prop where
  model : state.model.Plain
  types : state.Typed Mse.Plain
  imports : ∀ {name full}, state.imports.get? name = some full → Mse.Plain full

/-- The text is plain, if there is one. -/
def PlainText (text : Option String) : Prop :=
  ∀ said ∈ text, Mse.Plain said

def PlainElement (found : Option Element) : Prop :=
  ∀ element ∈ found, element.Plain

theorem PlainText.none : PlainText none := nofun

theorem PlainText.some {said : String} (plain : Mse.Plain said) : PlainText (some said) := by
  rintro _ ⟨⟩
  exact plain

theorem PlainText.of_given {text : Option String} (plain : PlainText text) {said : String}
    (isGiven : given text = Option.some said) : Mse.Plain said :=
  plain said (given_eq_some isGiven).1

theorem PlainElement.filter {found : Option Element} (plain : PlainElement found)
    (p : Element → Bool) : PlainElement (found.filter p) :=
  fun element member => plain element (Option.filter_eq_some_iff.mp member).1

namespace State.Plain

variable {s : State}

theorem fresh {model : Model} (plain : model.Plain) : ({ model := model } : State).Plain := by
  refine ⟨plain, ⟨.empty, .empty, ?_⟩, ?_⟩
  · rintro code parameters ⟨⟩
  · rintro name full ⟨⟩

theorem with_model (plain : s.Plain) {model : Model} (own : model.Plain) :
    { s with model := model }.Plain :=
  ⟨own, ⟨plain.types.locals, plain.types.attributes, plain.types.parameters⟩, plain.imports⟩

/-- What is open has no influence. -/
theorem with_scope (plain : s.Plain) (scopes : List String) (openClass openCode : Option String) :
    { s with scopes := scopes, openClass := openClass, openCode := openCode }.Plain :=
  ⟨plain.model, ⟨plain.types.locals, plain.types.attributes, plain.types.parameters⟩,
    plain.imports⟩

theorem with_locals (plain : s.Plain) {types : VariableTypes} (own : TypesAre Mse.Plain types) :
    { s with localTypes := types }.Plain :=
  ⟨plain.model, ⟨own, plain.types.attributes, plain.types.parameters⟩, plain.imports⟩

theorem with_attributes (plain : s.Plain) {types : VariableTypes}
    (own : TypesAre Mse.Plain types) : { s with attributeTypes := types }.Plain :=
  ⟨plain.model, ⟨plain.types.locals, own, plain.types.parameters⟩, plain.imports⟩

theorem with_parameters (plain : s.Plain) (code : String) {parameters : Table TypeSet}
    (own : ParametersAre Mse.Plain parameters) :
    { s with parameterTypes := s.parameterTypes.insert code parameters }.Plain :=
  ⟨plain.model, plain.types.insert_parameters code own, plain.imports⟩

end State.Plain

theorem note_plain (event : Event) : Upholding State.Plain (note event) fun _ => True :=
  .modify fun _ plain => plain.with_model (plain.model.note event)

theorem recordCall_plain (called : String) :
    Upholding State.Plain (recordCall called) fun _ => True :=
  .modify fun _ plain => plain.with_model (plain.model.addCall _)

theorem symbol?_plain (name : String) : Upholding State.Plain (symbol? name) PlainElement :=
  fun _ plain => ⟨plain, fun _ stands => plain.model.symbols stands⟩

theorem openCode?_plain : Upholding State.Plain openCode? fun _ => True :=
  fun _ plain => ⟨plain, trivial⟩

theorem typeOf?_plain (lookup : Lookup) (var : String) :
    Upholding State.Plain (typeOf? lookup var) PlainText := by
  refine .get_bind fun s plain => ?_
  split
  · rename_i type isGiven
    refine .pure (.some ?_)
    exact plain.types.locals var type (Option.join_eq_some_iff.mp (given_eq_some isGiven).1)
  · refine .pure fun type found => ?_
    exact plain.types.attributes var type (Option.join_eq_some_iff.mp (lookup.sound found))

theorem setVariable_plain (var : String) {type : Option String} (own : PlainText type) :
    Upholding State.Plain (setVariable var type) fun _ => True :=
  .modify fun _ plain => plain.with_locals (plain.types.locals.insert var own)

theorem setAttribute_plain (attr : String) {type : Option String} (own : PlainText type) :
    Upholding State.Plain (setAttribute attr type) fun _ => True :=
  .modify fun _ plain => plain.with_attributes (plain.types.attributes.insert attr own)

theorem recordAccess_plain (code name : String) :
    Upholding State.Plain (recordAccess code name) fun _ => True := by
  refine (symbol?_plain name).bind fun found _ => ?_
  split
  · refine .bind (.modify fun _ plain => ?_) fun _ _ => note_plain _
    exact plain.with_model (plain.model.addAccess _)
  · exact .pure trivial

/-! ### From names to elements -/

theorem calledName?_plain (tree : Tree) : Upholding State.Plain (calledName? tree) PlainText := by
  unfold calledName?
  dsimp only
  split
  · rename_i spelled
    exact (note_plain _).bind fun _ _ => .pure (.some (plain_dottedName? spelled))
  · exact .pure fun _ spelled => plain_dottedName? spelled

theorem classOf?_plain (context : Context) (name : Option String) :
    Upholding State.Plain (classOf? context name) PlainElement := by
  unfold classOf?
  split
  · exact .pure nofun
  · refine .get_bind fun s plain => (symbol?_plain _).bind fun found own => ?_
    have own := own.filter (·.isGrouping)
    split
    · rename_i element isClass
      exact (note_plain _).bind fun _ _ => .pure (isClass ▸ own)
    · exact (note_plain _).bind fun _ _ => .pure nofun

/-- A plain name leads to itself or to external code of a plain name. -/
theorem external?_plain (policy : ExternalPolicy) {name : Option String} (own : PlainText name) :
    Upholding State.Plain (external? policy name) PlainText := by
  intro s plain
  rw [external?_apply]
  split
  · exact ⟨plain, .none⟩
  · rename_i said isGiven
    have own := own.of_given isGiven
    have marked := plain_externalMark own
    split
    · exact ⟨plain, .some own⟩
    split
    · exact ⟨plain, .some marked⟩
    · exact ⟨plain.with_model (plain.model.meetExternal policy _ own), .some marked⟩

variable {context : Context}

theorem dottedTarget?_plain (module : Mse.Plain context.module) {name : String}
    (own : Mse.Plain name) : Upholding State.Plain (dottedTarget? context name) PlainText := by
  have chain := Text.Dotted.plain_afterFirst own
  refine (typeOf?_plain _ _).bind fun type plainType => ?_
  split
  · rename_i type isGiven
    exact (note_plain _).bind fun _ _ => .pure (.some ((plainType.of_given isGiven).dot chain))
  · refine .get_bind fun s plain => ?_
    split
    · rename_i full imported
      exact (note_plain _).bind fun _ _ => .pure (.some ((plain.imports imported).dot chain))
    · split
      · exact (note_plain _).bind fun _ _ => .pure .none
      · exact (note_plain _).bind fun _ _ => .pure (.some (module.dot own))

theorem plainTarget?_plain (module : Mse.Plain context.module) {name : String}
    (own : Mse.Plain name) : Upholding State.Plain (plainTarget? context name) PlainText := by
  refine .get_bind fun s plain => ?_
  split
  · rename_i full imported
    exact (note_plain _).bind fun _ _ => .pure (.some (plain.imports imported))
  · split
    · exact (note_plain _).bind fun _ _ => .pure .none
    · exact (note_plain _).bind fun _ _ => .pure (.some (module.dot own))

theorem ownMethod?_plain (name : String) :
    Upholding State.Plain (ownMethod? name) fun _ => True := by
  refine .get_bind fun s _ => (note_plain _).bind fun _ _ => (symbol?_plain _).bind fun _ _ => ?_
  split
  · exact .pure trivial
  · exact (note_plain _).bind fun _ _ => .pure trivial

theorem called?_plain (module : Mse.Plain context.module) {name : String} (own : Mse.Plain name) :
    Upholding State.Plain (called? context name) fun _ => True := by
  unfold called?
  split
  · exact ownMethod?_plain name
  · have target : Upholding State.Plain
        (if Text.Dotted.isDotted name then dottedTarget? context name
          else plainTarget? context name) PlainText := by
      split
      · exact dottedTarget?_plain module own
      · exact plainTarget?_plain module own
    refine target.bind fun unique own => ?_
    split
    · exact .pure trivial
    · refine (symbol?_plain _).bind fun _ _ => ?_
      split
      · exact .pure trivial
      · refine (external?_plain _ own).bind fun known _ => ?_
        split
        · exact (symbol?_plain _).bind fun _ _ => .pure trivial
        · exact .pure trivial

/-! ### Types -/

theorem constructed?_plain (func : Tree) :
    Upholding State.Plain (constructed? context func) PlainText := by
  refine (calledName?_plain func).bind fun name own => (classOf?_plain context name).bind
    fun found plain => ?_
  split
  · have unique := (plain _ rfl).uniqueName
    refine (symbol?_plain _).bind fun _ _ => ?_
    split
    · exact (recordCall_plain _).bind fun _ _ => .get_bind fun _ _ =>
        (note_plain _).bind fun _ _ => .pure (.some unique)
    · exact .pure (.some unique)
  · exact external?_plain _ own

theorem typeOfTree?_plain (tree : Tree) :
    UpholdingRun State.Plain (typeOfTree? context tree) PlainText := by
  unfold typeOfTree?
  split
  · exact .lift (constructed?_plain _)
  · exact .after (typeOf?_plain _ _) fun _ own => .after (note_plain _) fun _ _ => .pure own
  · exact .after (typeOf?_plain _ _) fun _ own => .after (note_plain _) fun _ _ => .pure own
  · split
    · exact .after (note_plain _) fun _ _ => .pure .none
    · exact .throw _
  · split
    · exact .after (note_plain _) fun _ _ => .pure .none
    · exact .throw _

theorem addParameterType_plain (code parameter : String) {type : String} (own : Mse.Plain type) :
    UpholdingRun State.Plain (addParameterType code parameter type) fun _ => True := by
  refine .get_bind fun s plain => ?_
  have known := plain.types.parameters_getD code
  generalize (s.parameterTypes.get? code).getD ∅ = parameters at known ⊢
  dsimp only
  cases stands : parameters.get? parameter with
  | none => exact .throw _
  | some types =>
    refine fun _ _ => ⟨plain.with_parameters code (known.insert parameter fun other member => ?_),
      fun _ _ => trivial⟩
    rcases TypeSet.mem_insert.mp member with rfl | old
    · exact own
    · exact known parameter types stands other old

theorem inferArgument_plain (code : String) (argument : Tree) (parameter : String) :
    UpholdingRun State.Plain (inferArgument context code argument parameter) fun _ => True := by
  refine (typeOfTree?_plain argument).bind fun type own => ?_
  split
  · rename_i type isGiven
    exact (addParameterType_plain _ _ (own.of_given isGiven)).bind fun _ _ => .lift (note_plain _)
  · exact .lift (note_plain _)

theorem inferArguments_plain (code : String) (arguments : List Tree) :
    UpholdingRun State.Plain (inferArguments context code arguments) fun _ => True := by
  refine .get_bind fun s _ => ?_
  split
  · exact .pure trivial
  · refine .after (symbol?_plain code) fun found _ => ?_
    split
    · exact .lift (note_plain _)
    · split
      · exact .after (note_plain _) fun _ _ => .pure trivial
      · rename_i element _ _
        have each : UpholdingRun State.Plain
            ((arguments.zip element.parameters).forM fun pair =>
              inferArgument context code pair.1 pair.2) fun _ => True :=
          .forM fun pair _ => inferArgument_plain code pair.1 pair.2
        refine .get_bind fun s _ => ?_
        split
        · exact each
        · refine .after (.modify fun _ plain => ?_) fun _ _ => each
          exact plain.with_parameters code (.ofList _)

/-! ### Steps -/

theorem importName_plain (asName : String) {full : String} (own : Mse.Plain full) :
    Upholding State.Plain (importName asName full) fun _ => True := by
  refine .modify fun s plain => ⟨plain.model,
    ⟨plain.types.locals, plain.types.attributes, plain.types.parameters⟩, ?_⟩
  intro name other found
  rw [Table.get?_insert] at found
  split at found
  · cases found
    exact own
  · exact plain.imports found

theorem followImport_plain (aliases : List Alias) :
    Upholding State.Plain (followImport context aliases) fun _ => True := by
  refine (note_plain _).bind fun _ _ => .forM fun entry _ => ?_
  exact (importName_plain _ entry.plain_name).bind fun _ _ => note_plain _

theorem followImportFrom_plain (module : Option DottedName) (aliases : List Alias) :
    Upholding State.Plain (followImportFrom context module aliases) fun _ => True := by
  refine (note_plain _).bind fun _ _ => .forM fun entry _ => ?_
  refine (importName_plain _ ?_).bind fun _ _ => note_plain _
  cases module with
  | none => exact entry.plain_name
  | some name => exact name.plain.dot entry.plain_name

theorem enterClass_plain (name : String) :
    Upholding State.Plain (enterClass context name) fun _ => True := by
  refine (note_plain _).bind fun _ _ => .modify fun s plain => ?_
  exact (plain.with_attributes .empty).with_scope _ _ _

theorem followHint_plain (code parameter : String) (hint : Tree) :
    Upholding State.Plain (followHint context code parameter hint) fun _ => True := by
  unfold followHint
  split
  · exact .pure trivial
  · refine (classOf?_plain context _).bind fun found plain => ?_
    split
    · exact .pure trivial
    · have own := (plain _ rfl).uniqueName
      refine .bind (.modify fun s plain => ?_) fun _ _ => (note_plain _).bind fun _ _ =>
        (setVariable_plain _ (.some own)).bind fun _ _ => note_plain _
      refine plain.with_parameters code ((plain.types.parameters_getD code).insert parameter ?_)
      intro type member
      rw [List.mem_singleton.mp member]
      exact own

theorem followParameter_plain (code parameter : String) :
    Upholding State.Plain (followParameter context code parameter) fun _ => True := by
  refine .get_bind fun s plain => ?_
  have own {type : String} :=
    @plain.types.of_parameter _ _ context.typeOrder code parameter type
  generalize s.typesOf context.typeOrder code parameter = types at own ⊢
  split
  · exact (setVariable_plain _ .none).bind fun _ _ => note_plain _
  · exact (setVariable_plain _ (.some (own List.mem_cons_self))).bind fun _ _ => note_plain _
  · exact (setVariable_plain _ (.some (own List.mem_cons_self))).bind fun _ _ => note_plain _

theorem enterFunction_plain (name : String) (params : List Tree) :
    Upholding State.Plain (enterFunction context name params) fun _ => True := by
  refine .get_bind fun s _ => (note_plain _).bind fun _ _ => .bind (.modify fun s plain => ?_)
    fun _ _ => .forM fun param _ => ?_
  · exact (plain.with_locals .empty).with_scope _ _ _
  · unfold enterParameter
    split
    · exact followHint_plain _ _ _
    · exact followParameter_plain _ _
    · exact .pure trivial

theorem leaveFunction_plain : Upholding State.Plain leaveFunction fun _ => True := by
  refine .get_bind fun s plain => .bind (.forM fun ⟨var, type⟩ member => ?_) fun _ _ =>
    .modify fun s plain => (plain.with_locals .empty).with_scope _ _ _
  have own : PlainText type := fun name isType =>
    plain.types.locals var name (Table.get?_eq_some_iff.mpr (isType ▸ member))
  dsimp only
  split
  · exact (setAttribute_plain _ own).bind fun _ _ => .get_bind fun _ _ => note_plain _
  · exact .pure trivial

theorem followTarget_plain (code : String) (value target : Tree) :
    UpholdingRun State.Plain (followTarget context code value target) fun _ => True := by
  unfold followTarget
  split
  · exact (typeOfTree?_plain value).bind fun _ own => .after (setVariable_plain _ own) fun _ _ =>
      .lift (note_plain _)
  · split
    · exact (typeOfTree?_plain value).bind fun _ own => .after (setVariable_plain _ own)
        fun _ _ => .after (setAttribute_plain _ own) fun _ _ => .get_bind fun _ _ =>
          .lift (note_plain _)
    · exact .pure trivial
  · exact .pure trivial

theorem followAssignment_plain (targets : List Tree) (value : Tree) :
    UpholdingRun State.Plain (followAssignment context targets value) fun _ => True := by
  refine .after openCode?_plain fun _ _ => ?_
  split
  · exact .pure trivial
  · exact .forM fun target _ => followTarget_plain _ value target

theorem followCall_plain (module : Mse.Plain context.module) (func : Tree)
    (arguments : List Tree) :
    UpholdingRun State.Plain (followCall context func arguments) fun _ => True := by
  refine .after (calledName?_plain func) fun name own => .get_bind fun _ _ =>
    .after (note_plain _) fun _ _ => ?_
  split
  · exact .pure trivial
  · refine .after (called?_plain module (own _ rfl)) fun _ _ => ?_
    split
    · exact .pure trivial
    · refine .after openCode?_plain fun _ _ => ?_
      split
      · exact .after (recordCall_plain _) fun _ _ => .after (note_plain _) fun _ _ =>
          inferArguments_plain _ arguments
      · exact inferArguments_plain _ arguments

theorem followAttributeOf_plain (code base attr : String) :
    UpholdingRun State.Plain (followAttributeOf context code base attr) fun _ => True := by
  refine .get_bind fun s _ => ?_
  split
  · split
    · exact .throw _
    · exact .lift (recordAccess_plain _ _)
  · split
    · split
      · exact .pure trivial
      · exact .lift (recordAccess_plain _ _)
      · exact .after (recordAccess_plain _ _) fun _ _ => .lift (note_plain _)
    · refine .after (typeOf?_plain _ _) fun _ _ => ?_
      split
      · exact .lift (recordAccess_plain _ _)
      · exact .pure trivial

theorem followAttribute_plain (value : Tree) (attr : String) :
    UpholdingRun State.Plain (followAttribute context value attr) fun _ => True := by
  refine .after openCode?_plain fun _ _ => ?_
  split
  · exact followAttributeOf_plain _ _ _
  · exact .pure trivial

theorem followName_plain (name : String) :
    Upholding State.Plain (followName context name) fun _ => True := by
  refine openCode?_plain.bind fun _ _ => ?_
  split
  · exact recordAccess_plain _ _
  · exact .pure trivial

/-- A step of the analysis upholds that all names are plain. -/
theorem follow_plain (module : Mse.Plain context.module) (step : Step) :
    UpholdingRun State.Plain (follow context step) fun _ => True := by
  have rescoped (change : List String → List String) : Upholding State.Plain
      (modify fun state => { state with scopes := change state.scopes }) fun _ => True :=
    .modify fun s plain => plain.with_scope _ _ _
  cases step with
  | enterModule => exact .after (note_plain _) fun _ _ => .lift (rescoped _)
  | leaveModule => exact .lift (rescoped _)
  | enterClass position name => exact .lift (enterClass_plain name.text)
  | leaveClass => exact .lift (.modify fun s plain => plain.with_scope _ _ _)
  | enterFunction position name params => exact .lift (enterFunction_plain name.text params)
  | leaveFunction => exact .lift leaveFunction_plain
  | assign position targets value => exact followAssignment_plain targets value
  | importNames aliases => exact .lift (followImport_plain aliases)
  | importFrom module aliases => exact .lift (followImportFrom_plain module aliases)
  | call func args => exact followCall_plain module func args
  | «attribute» value attr => exact followAttribute_plain value attr.text
  | name id => exact .lift (followName_plain id.text)

theorem followAll_plain (module : Mse.Plain context.module) (steps : List Step) :
    UpholdingRun State.Plain (followAll context steps) fun _ => True := by
  induction steps with
  | nil => exact .pure trivial
  | cons step steps ih => exact (follow_plain module step).bind fun _ _ => ih

end Usage

/-! ### All passes -/

namespace Extraction

variable {order : Arrangement String}

theorem analyseFile_plain {model : Model} (plain : model.Plain) {file : ReadFile}
    (place : file.place.Plain) : (analyseFile order model file).Plain := by
  unfold analyseFile
  cases file.trees with
  | error fault => exact plain.note _
  | ok trees =>
    have module : Mse.Plain (file.context order).module := place.module
    have followed : ((Usage.analyse (file.context order) trees).run
        { model := model }).2.Plain :=
      (Usage.followAll_plain module (walkModule trees) _ (.fresh plain)).1
    dsimp only
    split
    · rename_i run
      rw [run] at followed
      exact followed.model
    · rename_i run
      rw [run] at followed
      exact followed.model.note _

theorem analyseAll_plain (order : Arrangement String) {model : Model} (plain : model.Plain)
    {files : List ReadFile} (places : ∀ file ∈ files, file.place.Plain) : (analyseAll order model files).Plain :=
  List.foldlRecOn files (analyseFile order) plain fun _ plain file member =>
    analyseFile_plain plain (places file member)

end Extraction

/-- The model of files with plain names and paths is plain. -/
theorem Model.ofFiles_plain (order : Arrangement String) {files : List ReadFile}
    (places : ∀ file ∈ files, file.place.Plain) :
    (Model.ofFiles order files).Plain := by
  have collected := (Extraction.collectAll_plain .empty places).note .secondPass
  have analysed := Extraction.analyseAll_plain order collected places
  have again :=
    Extraction.analyseAll_plain order ((analysed.note .typesAssigned).note .thirdPass) places
  exact again.note .combining

end CodeMap
