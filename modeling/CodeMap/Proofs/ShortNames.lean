/-
Unique names and short names.

A class, a function or an attribute is found under its unique name, which starts with the name of
its module, and under its short name, which starts with the last part of it (`shortOf`). Both kinds
of names stand in one table, and who comes last has the name. What a name leads to after the first
pass depends on the names alone (`Model.Names`), and what is found under a name has a unique name
that ends with it (`Dotted.EndsWith`). Main statement: this holds after any steps of any file, in
any order of files (`Definitions.State.foldl_step_named`, `Extraction.collectAll_names`).
-/

import CodeMap.Proofs.Nesting

namespace CodeMap

open Source

/-! ### Ends of dotted names -/

namespace Text.Dotted

/-- The text `name` is `key`, or ends with a full stop and `key`. -/
def EndsWith (name key : String) : Prop :=
  name = key ∨ ∃ start, name = start ++ "." ++ key

theorem EndsWith.trans {name middle key : String} (h : EndsWith name middle)
    (h' : EndsWith middle key) : EndsWith name key := by
  rcases h with rfl | ⟨start, rfl⟩
  · exact h'
  · rcases h' with rfl | ⟨inner, rfl⟩
    · exact .inr ⟨start, rfl⟩
    · exact .inr ⟨start ++ "." ++ inner, by simp [String.append_assoc]⟩

theorem EndsWith.append {name key : String} (h : EndsWith name key) (rest : String) :
    EndsWith (name ++ rest) (key ++ rest) := by
  rcases h with rfl | ⟨start, rfl⟩
  · exact .inl rfl
  · exact .inr ⟨start, by simp [String.append_assoc]⟩

theorem endsWith_last (name : String) : EndsWith name (last name) := by
  have divided := congrArg List.reverse
    (List.takeWhile_append_dropWhile (p := (· ≠ '.')) (l := name.toList.reverse))
  rw [List.reverse_append, List.reverse_reverse] at divided
  cases before : name.toList.reverse.dropWhile (· ≠ '.') with
  | nil =>
    left
    rw [before, List.reverse_nil, List.nil_append] at divided
    rw [last, divided, String.ofList_toList]
  | cons c rest =>
    -- The part before the last one ends with the full stop that divides them.
    have stop : c = '.' := by
      have head := List.head?_dropWhile_not (· ≠ '.') name.toList.reverse
      rw [before] at head
      simpa using head
    refine .inr ⟨String.ofList rest.reverse, ?_⟩
    rw [before, stop, List.reverse_cons] at divided
    apply String.toList_injective
    rw [← divided]
    simp [last]

end Text.Dotted

open Text

/-! ### Names of what is entered -/

/-- The short name of what has this unique name in this module. -/
def shortOf (module unique : String) : String :=
  Dotted.last module ++ String.ofList (unique.toList.drop module.toList.length)

theorem shortOf_append (module rest : String) :
    shortOf module (module ++ rest) = Dotted.last module ++ rest := by
  simp [shortOf]

/-- A name that is introduced, with its short name. -/
structure Naming where
  unique : String
  short : String
  how : Introduced
deriving DecidableEq, Repr

namespace Naming

/-- The names that a name and how it is introduced give in a module. -/
def ofIntroduction (module : String) (new : String × Introduced) : Naming :=
  ⟨new.1, shortOf module new.1, new.2⟩

/-- Names with the unique names that they lead to. A file is not found by its name. -/
def leads (naming : Naming) : List (String × String) :=
  if naming.how = .file then []
  else [(naming.unique, naming.unique), (naming.short, naming.unique)]

/-- Enters names. Those of an attribute are not entered if its unique name is taken. -/
def enter (entered : List Naming) (new : Naming) : List Naming :=
  if new.how = .attribute ∧ new.unique ∈ entered.map Naming.unique then entered
  else entered ++ [new]

/-- What is entered was there or is new. -/
theorem mem_of_mem_foldl_enter {entered news : List Naming} {naming : Naming}
    (member : naming ∈ news.foldl enter entered) : naming ∈ entered ∨ naming ∈ news := by
  induction news generalizing entered with
  | nil => exact .inl member
  | cons new news ih =>
    rcases ih member with earlier | later
    · unfold enter at earlier
      split at earlier
      · exact .inl earlier
      · rcases List.mem_append.mp earlier with old | isNew
        · exact .inl old
        · rw [List.mem_singleton.mp isNew]
          exact .inr List.mem_cons_self
    · exact .inr (List.mem_cons_of_mem _ later)

end Naming

namespace Definitions

/-- The open class is one of the module. -/
def Inside (module : String) (scope : Scope) : Prop :=
  ∀ owner ∈ scope.openClass, ∃ rest, owner = module ++ "." ++ rest

theorem Inside.step {module : String} {scope : Scope} (inside : Inside module scope)
    (step : Step) : Inside module (scope.step module step) := by
  cases step with
  | enterClass position name =>
    rintro owner ⟨⟩
    exact ⟨name.text, rfl⟩
  | leaveClass => rintro owner ⟨⟩
  | _ => exact inside

/-- A step introduces the file, or names that go on from that of the module. -/
theorem introducedBy_cases {module : String} {scope : Scope} (inside : Inside module scope)
    {step : Step} {new : String × Introduced} (member : new ∈ introducedBy module scope step) :
    new = (module, .file) ∨ new.2 ≠ .file ∧ ∃ rest, new.1 = module ++ "." ++ rest := by
  cases step with
  | enterModule => exact .inl (List.mem_singleton.mp member)
  | enterClass position name =>
    rw [List.mem_singleton.mp member]
    exact .inr ⟨by simp, name.text, rfl⟩
  | enterFunction position name params =>
    rw [List.mem_singleton.mp member]
    refine .inr ⟨by simp, ?_⟩
    cases isOpen : scope.openClass with
    | none => exact ⟨name.text, rfl⟩
    | some owner =>
      obtain ⟨rest, rfl⟩ := inside owner isOpen
      exact ⟨rest ++ "." ++ name.text, by simp [String.append_assoc]⟩
  | assign position targets value =>
    obtain ⟨owner, isOpen, member⟩ := List.mem_flatMap.mp member
    obtain ⟨attr, -, rfl⟩ := List.mem_map.mp member
    obtain ⟨rest, rfl⟩ := inside owner (Option.mem_toList.mp isOpen)
    exact .inr ⟨by simp, rest ++ "." ++ attr, by simp [String.append_assoc]⟩
  | _ => cases member

theorem introductionsAlong_cases {module : String} {scope : Scope} (inside : Inside module scope)
    {steps : List Step} {new : String × Introduced}
    (member : new ∈ introductionsAlong module scope steps) :
    new = (module, .file) ∨ new.2 ≠ .file ∧ ∃ rest, new.1 = module ++ "." ++ rest := by
  induction steps generalizing scope with
  | nil => cases member
  | cons step steps ih =>
    rcases List.mem_append.mp member with now | later
    · exact introducedBy_cases inside now
    · exact ih (inside.step step) later

/-- The unique name of what is introduced in a module ends with its short name. -/
theorem endsWith_short {module : String} {scope : Scope} (inside : Inside module scope)
    {steps : List Step} {new : String × Introduced}
    (member : new ∈ introductionsAlong module scope steps) :
    Dotted.EndsWith new.1 (shortOf module new.1) := by
  obtain ⟨rest, goesOn⟩ : ∃ rest, new.1 = module ++ rest := by
    rcases introductionsAlong_cases inside member with rfl | ⟨-, rest, goesOn⟩
    · exact ⟨"", by simp⟩
    · exact ⟨"." ++ rest, by rw [goesOn, String.append_assoc]⟩
  rw [goesOn, shortOf_append]
  exact (Dotted.endsWith_last module).append rest

end Definitions

/-- What the names in a model lead to, given the names that were entered: the last one counts. What
is found under its own unique name is the element of this name, unless a file has taken it. -/
structure Model.Names (model : Model) (entered : List Naming) : Prop where
  keys : ∀ {name}, name ∈ model.elements.keys ↔ name ∈ entered.map Naming.unique
  symbols : ∀ name, (model.symbol? name).map (·.uniqueName) =
    Entries.last? name (entered.flatMap Naming.leads)
  own : ∀ {name element}, model.symbol? name = some element → element.uniqueName = name →
    model.elements.get? name = some element ∨
      ∃ file, model.elements.get? name = some file ∧ file.role = .file

namespace Model.Names

variable {model : Model} {entered : List Naming} {element : Element}

theorem empty : ({} : Model).Names [] where
  keys := by
    intro name
    have none : ({} : Model).elements.keys = [] := rfl
    simp [none]
  symbols _ := rfl
  own := by
    intro name element stands
    cases stands

theorem note (names : model.Names entered) (event : Event) : (model.note event).Names entered :=
  ⟨names.keys, names.symbols, names.own⟩

theorem enterFile (names : model.Names entered) (isFile : element.role = .file) (short : String) :
    (model.enter element).Names (entered ++ [⟨element.uniqueName, short, .file⟩]) where
  keys := by
    intro name
    simp [Model.enter, Table.mem_keys_insert, names.keys, or_comm]
  symbols name := by
    have same : (model.enter element).symbol? name = model.symbol? name := rfl
    rw [same, names.symbols name]
    simp [Naming.leads]
  own {name found} stands named := by
    rw [Model.enter, Table.get?_insert]
    by_cases taken : element.uniqueName = name
    · exact .inr ⟨element, by simp [taken], isFile⟩
    · rw [if_neg taken]
      exact names.own stands named

/-- The unique name and the short name of a member lead to it from then on. -/
theorem enterMember (names : model.Names entered) (parent : Option Element) (short : String)
    {how : Introduced} (notFile : how ≠ .file) :
    (model.enterMember parent element short).Names
      (entered ++ [⟨element.uniqueName, short, how⟩]) where
  keys := by
    intro name
    simp [Table.mem_keys_insert, names.keys, or_comm]
  symbols name := by
    have before := names.symbols name
    rw [Model.symbol?] at before
    rw [Model.symbol?, Model.enterMember_symbols, Table.get?_insert, Table.get?_insert,
      List.flatMap_append, Entries.last?_append, ← before]
    have leads : Entries.last? name ([⟨element.uniqueName, short, how⟩].flatMap Naming.leads) =
        if short = name ∨ element.uniqueName = name then some element.uniqueName else none := by
      by_cases isShort : short = name <;> by_cases isUnique : element.uniqueName = name <;>
        simp [Naming.leads, notFile, Entries.last?, isShort, isUnique]
    rw [leads]
    by_cases isShort : short = name
    · simp [isShort]
    · by_cases isUnique : element.uniqueName = name
      · simp [isShort, isUnique]
      · simp [isShort, isUnique]
  own {name found} stands named := by
    rw [Model.symbol?, Model.enterMember_symbols, Table.get?_insert, Table.get?_insert] at stands
    rw [Model.enterMember_elements, Table.get?_insert]
    by_cases own : element.uniqueName = name
    · rw [if_pos own] at stands ⊢
      left
      split at stands <;> exact stands
    · rw [if_neg own] at stands ⊢
      by_cases isShort : short = name
      · rw [if_pos isShort] at stands
        exact absurd (Option.some.inj stands ▸ named) own
      · rw [if_neg isShort] at stands
        exact names.own stands named

end Model.Names

namespace Definitions

/-! ### One step -/

namespace State

variable {state : State} {file : File} {entered : List Naming}

/-- The names in the model, and that of the open class: it goes on from the name of the module. -/
structure Named (file : File) (state : State) (entered : List Naming) : Prop where
  model : state.model.Names entered
  openClass : ∀ owner ∈ state.openClass, owner.uniqueName = file.module ++ "." ++ owner.name

/-- A function is found under the short name that its unique name gives. -/
theorem Named.shortName_eq (named : state.Named file entered) (name : String) :
    state.shortName file name =
      shortOf file.module (state.scope.openClass.getD file.module ++ "." ++ name) := by
  unfold State.shortName State.scope
  cases isOpen : state.openClass with
  | none =>
    simp only [Option.map_none, Option.getD_none, String.append_assoc, shortOf_append]
    rfl
  | some owner =>
    have owned := named.openClass owner isOpen
    simp only [Option.map_some, Option.getD_some, owned, String.append_assoc, shortOf_append]
    rfl

theorem Named.define (named : state.Named file entered) (element : Element) {short : String}
    (isShort : short = shortOf file.module element.uniqueName) :
    (state.define element short).Named file
      (Naming.enter entered (.ofIntroduction file.module (element.uniqueName, .definition))) := by
  have isEntered : Naming.enter entered
      (.ofIntroduction file.module (element.uniqueName, .definition)) =
        entered ++ [⟨element.uniqueName, short, .definition⟩] := by
    simp [Naming.enter, Naming.ofIntroduction, isShort]
  rw [define_eq, isEntered]
  exact ⟨(named.model.enterMember _ short (by decide)).note _, named.openClass⟩

theorem Named.defineAttribute (named : state.Named file entered) {owner : Element}
    (isOpen : state.openClass = some owner) (position : Position) (attr : String) :
    (state.defineAttribute file position owner attr).Named file
      (Naming.enter entered
        (.ofIntroduction file.module (owner.uniqueName ++ "." ++ attr, .attribute))) := by
  have isShort : file.shortModule ++ "." ++ owner.name ++ "." ++ attr =
      shortOf file.module (owner.uniqueName ++ "." ++ attr) := by
    simp only [named.openClass owner isOpen, String.append_assoc, shortOf_append]
    rfl
  rcases defineAttribute_eq_enterMember file state position owner attr with ⟨taken, same⟩ |
    ⟨element, collected, mapped, isAttribute, isUnique, free, changed⟩
  · rw [same, Naming.enter, if_pos ⟨rfl, named.model.keys.mp taken⟩]
    exact named
  · rw [named.model.keys, isUnique] at free
    rw [changed, Naming.enter, if_neg fun taken => free taken.2, Naming.ofIntroduction, ← isShort,
      ← isUnique]
    exact ⟨((named.model.enterMember _ _ (by simp)).note _).note _, named.openClass⟩

theorem Named.assign (named : state.Named file entered) (position : Position)
    (targets : List Tree) (value : Tree) :
    (state.assign file position targets).Named file
      (((introducedBy file.module state.scope (.assign position targets value)).map
        (Naming.ofIntroduction file.module)).foldl Naming.enter entered) := by
  unfold State.assign introducedBy State.scope
  cases isOpen : state.openClass with
  | none => exact named
  | some owner =>
    simp only [Option.map_some, Option.toList_some, List.flatMap_cons, List.flatMap_nil,
      List.append_nil, List.map_map, List.foldl_map, Function.comp_def]
    -- The class stays open from one attribute to the next.
    generalize targets.filterMap selfAttribute? = attrs
    induction attrs generalizing state entered with
    | nil => exact named
    | cons attr attrs ih =>
      have stillOpen := (defineAttribute_openClass state file position owner attr).trans isOpen
      exact ih (named.defineAttribute isOpen position attr) stillOpen

/-- What a step enters is found under its unique name and under its short name. -/
theorem Named.step (named : state.Named file entered) (step : Step) :
    (state.step file step).Named file
      (((introducedBy file.module state.scope step).map
        (Naming.ofIntroduction file.module)).foldl Naming.enter entered) := by
  cases step with
  | enterModule => exact ⟨named.model.enterFile rfl _, named.openClass⟩
  | enterClass position name =>
    have isShort : file.shortModule ++ "." ++ name.text =
        shortOf file.module (file.module ++ "." ++ name.text) := by
      simp only [String.append_assoc, shortOf_append]
      rfl
    have defined := named.define ⟨state.model.made, name.text, file.module ++ "." ++ name.text,
      .classDefinition, some (file.link position)⟩ isShort
    refine ⟨defined.model, ?_⟩
    rintro owner ⟨⟩
    rfl
  | enterFunction position name params =>
    obtain ⟨element, event, isUnique, -, -, changed⟩ :=
      enterFunction_eq_define file state position name.text params
    have isShort := named.shortName_eq name.text
    rw [← isUnique] at isShort
    have defined := named.define element isShort
    rw [State.step, changed, introducedBy, ← isUnique]
    exact ⟨defined.model.note event, defined.openClass⟩
  | assign position targets value => exact named.assign position targets value
  | leaveClass =>
    refine ⟨named.model, ?_⟩
    rintro owner ⟨⟩
  | leaveModule | leaveFunction => exact ⟨named.model, named.openClass⟩
  | _ => exact named

/-! ### Many steps -/

/-- Along any steps, the names depend on the steps alone. -/
theorem foldl_step_named (named : state.Named file entered) (steps : List Step) :
    (steps.foldl (State.step file) state).Named file
      (((introductionsAlong file.module state.scope steps).map
        (Naming.ofIntroduction file.module)).foldl Naming.enter entered) := by
  induction steps generalizing state entered with
  | nil => exact named
  | cons step steps ih =>
    rw [introductionsAlong, List.map_append, List.foldl_append, ← state.step_scope file step]
    exact ih (named.step step)

end State

end Definitions

/-- The names that a file introduces, with their short names. -/
def ReadFile.namings (file : ReadFile) : List Naming :=
  file.introductions.map (Naming.ofIntroduction file.place.module)

namespace Extraction

open Definitions

theorem collectFile_names {model : Model} {entered : List Naming} (names : model.Names entered)
    (file : ReadFile) :
    (collectFile model file).Names (file.namings.foldl Naming.enter entered) := by
  unfold collectFile ReadFile.namings ReadFile.introductions
  cases file.trees with
  | error fault => exact names.note _
  | ok trees =>
    have atFirst : ({ model := model } : State).Named file.place entered := ⟨names, by simp⟩
    exact (State.foldl_step_named atFirst (walkModule trees)).model

/-- After the first pass over any files the names depend on what the files introduce alone. -/
theorem collectAll_names {model : Model} {entered : List Naming} (names : model.Names entered)
    (files : List ReadFile) :
    (collectAll model files).Names
      ((files.flatMap ReadFile.namings).foldl Naming.enter entered) := by
  induction files generalizing model entered with
  | nil => exact names
  | cons file files ih =>
    rw [List.flatMap_cons, List.foldl_append]
    exact ih (collectFile_names names file)

end Extraction

end CodeMap
