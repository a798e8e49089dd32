/-
Names of external code.

External code is entered under names that start with a part of their own. A name that starts with
this part is foreign. Names that are put together with full stops are foreign if their beginnings
are (`foreign_append_dot`), so the first pass makes up no foreign names if modules do not start with
the part, and sources do not spell it (`ReadFile.Domestic`, `Extraction.collectAll_domestic`). Main
statement: an analysis makes foreign names alone stand for something new, and for external code
(`Extraction.analyseAll_widens`).
-/

import CodeMap.Proofs.Naming
import Mathlib.Data.List.TakeWhile

namespace CodeMap

open Source Text

/-! ### Foreign names -/

/-- The name starts as the names of external code do. -/
@[irreducible] def Foreign (name : String) : Prop := Dotted.first name = "extP2S"

theorem foreign_iff {name : String} : Foreign name ↔ Dotted.first name = "extP2S" := by
  rw [Foreign]

instance (name : String) : Decidable (Foreign name) :=
  decidable_of_iff _ foreign_iff.symm

theorem Text.Dotted.first_append_dot (start rest : String) :
    first (start ++ "." ++ rest) = first start := by
  have dot : ".".toList = ['.'] := rfl
  rw [first, first, String.toList_append, String.toList_append, dot, List.append_assoc,
    List.takeWhile_append]
  split
  · rename_i whole
    have all : start.toList.takeWhile (· ≠ '.') = start.toList :=
      (List.takeWhile_prefix _).eq_of_length whole
    rw [all]
    simp
  · rfl

theorem foreign_append_dot (start rest : String) :
    Foreign (start ++ "." ++ rest) ↔ Foreign start := by
  rw [foreign_iff, Dotted.first_append_dot, foreign_iff]

theorem not_foreign_append_dot {start : String} (own : ¬ Foreign start) (rest : String) :
    ¬ Foreign (start ++ "." ++ rest) :=
  mt (foreign_append_dot start rest).mp own

theorem foreign_externalMark (name : String) : Foreign (Usage.externalMark ++ name) :=
  (foreign_append_dot "extP2S" name).mpr (foreign_iff.mpr rfl)

/-! ### Names in sources -/

/-- An identifier is all of its first part. -/
theorem Text.Dotted.first_identifier (id : Identifier) : first id.text = id.text := by
  have whole : id.text.toList.takeWhile (· ≠ '.') = id.text.toList := by
    refine List.takeWhile_eq_self_iff.mpr fun c member => decide_eq_true ?_
    rintro rfl
    exact id.dot_not_mem member
  rw [first, whole, String.ofList_toList]

namespace Source

/-- The names that a step spells and with which other names start. -/
def Step.roots : Step → List String
  | .name id => [id.text]
  | .importNames aliases => aliases.map (·.name)
  | .importFrom module aliases => module.toList.map (·.text) ++ aliases.map (·.name)
  | _ => []

/-- The names and the attributes that a step reads. -/
def Step.spelled : Step → List String
  | .name id => [id.text]
  | .attribute _ attr => [attr.text]
  | _ => []

/-- The trees that a step has at hand. -/
def Step.trees : Step → List Tree
  | .assign _ targets value => targets ++ [value]
  | .call func args => func :: args
  | .attribute value _ => [value]
  | _ => []

/-- All steps of the tree are as `p` says. -/
def Tree.Along (p : Step → Prop) (tree : Tree) : Prop :=
  ∀ step ∈ tree.walk, p step

/-- The step is as `p` says, and so are all steps of the trees that it has at hand. -/
structure Step.Along (p : Step → Prop) (step : Step) : Prop where
  own : p step
  trees : ∀ tree ∈ step.trees, tree.Along p

theorem mem_walkAll {trees : List Tree} {step : Step} :
    step ∈ walkAll trees ↔ ∃ tree ∈ trees, step ∈ tree.walk := by
  induction trees with
  | nil => simp [walkAll]
  | cons tree trees ih => simp [walkAll, ih]

variable {p : Step → Prop}

namespace Tree

theorem Along.part {tree part : Tree} (along : tree.Along p) (member : part ∈ tree.parts) :
    part.Along p := by
  intro step taken
  refine along step ?_
  rw [walk_eq]
  exact List.mem_append_left _ (List.mem_append_right _ (mem_walkAll.mpr ⟨part, member, taken⟩))

/-- A step has parts of its own node at hand. -/
theorem mem_parts_of_mem_trees {tree other : Tree} {step : Step}
    (own : step ∈ tree.opening ++ tree.closing) (member : other ∈ step.trees) :
    other ∈ tree.parts := by
  cases tree <;> simp_all [opening, closing, parts, Step.trees] <;> grind [Step.trees]

theorem Along.step {tree : Tree} (along : tree.Along p) {step : Step} (taken : step ∈ tree.walk) :
    step.Along p := by
  refine ⟨along step taken, ?_⟩
  induction tree using Tree.parts_induction with
  | step tree ih =>
    intro other member
    rw [walk_eq] at taken
    by_cases inner : step ∈ walkAll tree.parts
    · obtain ⟨part, isPart, taken⟩ := mem_walkAll.mp inner
      exact ih part isPart (along.part isPart) taken other member
    · have own : step ∈ tree.opening ++ tree.closing := by
        simp only [List.mem_append] at taken ⊢
        tauto
      exact along.part (mem_parts_of_mem_trees own member)

theorem Along.innermostCallee {tree : Tree} (along : tree.Along p) :
    (Usage.innermostCallee tree).Along p := by
  fun_induction Usage.innermostCallee tree with
  | case1 func args keywords ih => exact ih (along.part List.mem_cons_self)
  | case2 tree _ => exact along

/-- A chain starts at a name. -/
theorem Along.exists_of_reversedChain? {tree : Tree} (along : tree.Along p)
    {ids : List Identifier} (chain : Usage.reversedChain? tree = some ids) :
    ∃ outer start, ids = outer ++ [start] ∧ p (.name start) := by
  induction tree using Tree.parts_induction generalizing ids with
  | step tree ih =>
    cases tree with
    | name id =>
      cases chain
      exact ⟨[], id, rfl, along (.name id) (by simp [walk])⟩
    | «attribute» value attr =>
      obtain ⟨inner, innerChain, rfl⟩ := Option.map_eq_some_iff.mp chain
      obtain ⟨outer, start, rfl, named⟩ :=
        ih value List.mem_cons_self (along.part List.mem_cons_self) innerChain
      exact ⟨attr :: outer, start, rfl, named⟩
    | _ => cases chain

/-- So a dotted name is that name, alone or with more parts. -/
theorem Along.exists_of_dottedName? {tree : Tree} (along : tree.Along p) {name : String}
    (spelled : Usage.dottedName? tree = some name) :
    ∃ start : Identifier, p (.name start) ∧
      (name = start.text ∨ ∃ rest, name = start.text ++ "." ++ rest) := by
  obtain ⟨ids, chain, rfl⟩ := Option.map_eq_some_iff.mp spelled
  obtain ⟨outer, start, rfl, named⟩ := along.exists_of_reversedChain? chain
  refine ⟨start, named, ?_⟩
  rw [List.reverse_append, List.reverse_singleton, List.singleton_append, List.map_cons]
  cases outer.reverse with
  | nil => exact .inl (by simp)
  | cons next rest => exact .inr ⟨_, String.intercalate_cons_cons⟩

end Tree

theorem Step.along_of_walkModule {trees : List Tree} (all : ∀ step ∈ walkModule trees, p step)
    {step : Step} (taken : step ∈ walkModule trees) : step.Along p := by
  have own := all step taken
  rw [walkModule, List.mem_cons, List.mem_append, List.mem_singleton] at taken
  rcases taken with rfl | inner | rfl
  · exact ⟨own, by simp [Step.trees]⟩
  · obtain ⟨tree, member, taken⟩ := mem_walkAll.mp inner
    refine Tree.Along.step (fun other passed => all other ?_) taken
    exact List.mem_cons_of_mem _ (List.mem_append_left _ (mem_walkAll.mpr ⟨tree, member, passed⟩))
  · exact ⟨own, by simp [Step.trees]⟩

end Source

/-- The steps of a file, none if it has no trees. -/
def ReadFile.steps (file : ReadFile) : List Step :=
  match file.trees with
  | .ok trees => walkModule trees
  | .error _ => []

/-- Neither the name of the module nor its last part is foreign, nor any name in the file. -/
structure ReadFile.Domestic (file : ReadFile) : Prop where
  module : ¬ Foreign file.place.module
  shortModule : ¬ Foreign file.place.shortModule
  names : ∀ step ∈ file.steps, ∀ root ∈ step.roots, ¬ Foreign root

instance (file : ReadFile) : Decidable file.Domestic :=
  decidable_of_iff
    (¬ Foreign file.place.module ∧ ¬ Foreign file.place.shortModule ∧
      ∀ step ∈ file.steps, ∀ root ∈ step.roots, ¬ Foreign root)
    ⟨fun ⟨module, shortModule, names⟩ => ⟨module, shortModule, names⟩,
      fun ⟨module, shortModule, names⟩ => ⟨module, shortModule, names⟩⟩

/-! ### The first pass -/

/-- No name in the model is foreign. -/
structure Model.Domestic (model : Model) : Prop where
  symbols : ∀ {name element}, model.symbol? name = some element →
    ¬ Foreign name ∧ ¬ Foreign element.uniqueName
  elements : ∀ name ∈ model.elements.keys, ¬ Foreign name

namespace Model.Domestic

variable {model : Model} {element : Element} {name : String}

theorem enter (domestic : model.Domestic) (own : ¬ Foreign element.uniqueName) :
    (model.enter element).Domestic where
  symbols := domestic.symbols
  elements other member := by
    rcases Table.mem_keys_insert.mp member with rfl | old
    · exact own
    · exact domestic.elements other old

theorem bind (domestic : model.Domestic) (ownName : ¬ Foreign name)
    (own : ¬ Foreign element.uniqueName) : (model.bind name element).Domestic where
  symbols {other found} stands := by
    rw [Model.symbol?, Model.bind, Table.get?_insert] at stands
    split at stands
    · rename_i same
      cases stands
      exact ⟨same ▸ ownName, own⟩
    · exact domestic.symbols stands
  elements := domestic.elements

theorem note (domestic : model.Domestic) (event : Event) : (model.note event).Domestic :=
  ⟨domestic.symbols, domestic.elements⟩

theorem addContainment (domestic : model.Domestic) (containment : Containment) :
    (model.addContainment containment).Domestic :=
  ⟨domestic.symbols, domestic.elements⟩

end Model.Domestic

namespace Definitions.State

variable {state : State} {file : File}

/-- No name in the state is foreign. -/
structure Domestic (state : State) : Prop where
  model : state.model.Domestic
  openClass : ∀ owner ∈ state.openClass, ¬ Foreign owner.uniqueName

theorem Domestic.define (domestic : state.Domestic) {element : Element} {short : String}
    (own : ¬ Foreign element.uniqueName) (ownShort : ¬ Foreign short) :
    (state.define element short).Domestic := by
  have model := (((domestic.model.enter own).bind own own).bind ownShort own).note
    (.shortNameMapped short element.uniqueName)
  unfold State.define contain
  cases state.scopes with
  | nil => exact ⟨model, domestic.openClass⟩
  | cons parent scopes => exact ⟨model.addContainment _, domestic.openClass⟩

theorem Domestic.opening (domestic : state.Domestic) (event : Event) (function : Option Element) :
    { state with model := state.model.note event, openFunction := function }.Domestic :=
  ⟨domestic.model.note event, domestic.openClass⟩

theorem Domestic.defineAttribute (domestic : state.Domestic)
    (shortModule : ¬ Foreign file.shortModule) {owner : Element}
    (own : ¬ Foreign owner.uniqueName) (position : Position) (attr : String) :
    (state.defineAttribute file position owner attr).Domestic := by
  have ownUnique := not_foreign_append_dot own attr
  have ownShort := not_foreign_append_dot (not_foreign_append_dot shortModule owner.name) attr
  unfold State.defineAttribute
  dsimp only
  split
  · exact domestic
  · refine ⟨?_, domestic.openClass⟩
    exact ((((domestic.model.enter ownUnique).bind ownUnique ownUnique).addContainment _).note
      _).bind ownShort ownUnique |>.note _

theorem Domestic.assign (domestic : state.Domestic) (shortModule : ¬ Foreign file.shortModule)
    (position : Position) (targets : List Tree) :
    (state.assign file position targets).Domestic := by
  unfold State.assign
  cases isOpen : state.openClass with
  | none => exact domestic
  | some owner =>
    have own := domestic.openClass owner isOpen
    clear isOpen
    dsimp only
    generalize targets.filterMap selfAttribute? = attrs
    induction attrs generalizing state with
    | nil => exact domestic
    | cons attr attrs ih => exact ih (domestic.defineAttribute shortModule own position attr)

theorem Domestic.step (domestic : state.Domestic) (module : ¬ Foreign file.module)
    (shortModule : ¬ Foreign file.shortModule) (step : Step) :
    (state.step file step).Domestic := by
  cases step with
  | enterModule => exact ⟨domestic.model.enter module, domestic.openClass⟩
  | enterClass position name =>
    have own := not_foreign_append_dot module name.text
    refine ⟨(domestic.define ?_ ?_).model, ?_⟩
    · exact own
    · exact not_foreign_append_dot shortModule name.text
    · rintro owner ⟨⟩
      exact own
  | enterFunction position name params =>
    unfold State.step enterFunction
    cases isOpen : state.openClass with
    | none =>
      refine (domestic.define ?_ ?_).opening _ _
      · exact not_foreign_append_dot module name.text
      · exact not_foreign_append_dot shortModule name.text
    | some owner =>
      refine (domestic.define ?_ ?_).opening _ _
      · exact not_foreign_append_dot (domestic.openClass owner isOpen) name.text
      · exact not_foreign_append_dot (not_foreign_append_dot shortModule owner.name) name.text
  | assign position targets value => exact domestic.assign shortModule position targets
  | leaveModule | leaveFunction => exact ⟨domestic.model, domestic.openClass⟩
  | leaveClass => exact ⟨domestic.model, nofun⟩
  | _ => exact domestic

end Definitions.State

/-- The first pass makes no foreign names. -/
theorem Extraction.collectAll_domestic {model : Model} (domestic : model.Domestic)
    {files : List ReadFile} (own : ∀ file ∈ files, file.Domestic) :
    (collectAll model files).Domestic := by
  refine List.foldlRecOn files collectFile domestic fun before domestic file member => ?_
  have ownFile := own file member
  unfold collectFile
  cases file.trees with
  | error fault => exact domestic.note _
  | ok trees =>
    have atFirst : ({ model := before } : Definitions.State).Domestic := ⟨domestic, nofun⟩
    have atLast := List.foldlRecOn (walkModule trees) (Definitions.State.step file.place) atFirst
      fun _ domestic step _ => domestic.step ownFile.module ownFile.shortModule step
    exact atLast.model

/-! ### What an analysis makes names stand for -/

namespace Model

/-- The name stands for something. -/
def knows (model : Model) (name : String) : Bool := (model.symbol? name).isSome

theorem knows_iff {model : Model} {name : String} :
    model.knows name = true ↔ ∃ element, model.symbol? name = some element :=
  Option.isSome_iff_exists

theorem not_knows_iff {model : Model} {name : String} :
    ¬ model.knows name = true ↔ model.symbol? name = none :=
  Option.not_isSome_iff_eq_none

/-- Names that stand for something keep it, and only foreign names come to stand for something,
external code of that name. External code is listed when its name comes to stand for it. -/
structure Widens (first second : Model) : Prop where
  kept : ∀ {name element}, first.symbol? name = some element → second.symbol? name = some element
  new : ∀ {name element}, second.symbol? name = some element →
    first.symbol? name = some element ∨
      Foreign name ∧ element.role = .external ∧ element.uniqueName = name
  listed : ∀ {element}, element ∈ second.externals →
    element ∈ first.externals ∨ second.symbol? element.uniqueName = some element
  unchanged : (∀ name, second.knows name → first.knows name) →
    second.symbols = first.symbols ∧ second.externals = first.externals

namespace Widens

variable {first second third : Model}

theorem of_eq (symbols : second.symbols = first.symbols)
    (externals : second.externals = first.externals) : first.Widens second where
  kept h := by rwa [Model.symbol?, symbols]
  new h := by
    rw [Model.symbol?, symbols] at h
    exact .inl h
  listed h := .inl (externals ▸ h)
  unchanged _ := ⟨symbols, externals⟩

theorem refl (model : Model) : model.Widens model := of_eq rfl rfl

theorem knows (h : first.Widens second) {name : String} (known : first.knows name) :
    second.knows name := by
  obtain ⟨element, stands⟩ := knows_iff.mp known
  exact knows_iff.mpr ⟨element, h.kept stands⟩

theorem trans (h : first.Widens second) (h' : second.Widens third) : first.Widens third where
  kept stands := h'.kept (h.kept stands)
  new stands := by
    rcases h'.new stands with before | isExternal
    · exact h.new before
    · exact .inr isExternal
  listed met := by
    rcases h'.listed met with before | stands
    · exact (h.listed before).imp id h'.kept
    · exact .inr stands
  unchanged known := by
    obtain ⟨symbols, externals⟩ := h.unchanged fun name met => known name (h'.knows met)
    obtain ⟨symbols', externals'⟩ := h'.unchanged fun name met => h.knows (known name met)
    exact ⟨symbols'.trans symbols, externals'.trans externals⟩

theorem meetExternal {model : Model} (policy : Usage.ExternalPolicy) (code : Option String)
    {name : String} (fresh : model.symbol? (Usage.externalMark ++ name) = none) :
    model.Widens (model.meetExternal policy code name) := by
  obtain ⟨element, isExternal, named, bound, listed⟩ :=
    model.exists_symbols_meetExternal policy code name
  have stands : (model.meetExternal policy code name).symbol? (Usage.externalMark ++ name) =
      some element := by
    rw [Model.symbol?, bound, Table.get?_insert_self]
  constructor
  · intro other found stands
    rw [Model.symbol?, bound, Table.get?_insert_of_ne]
    · exact stands
    · rintro rfl
      simp [fresh] at stands
  · intro other found stands
    rw [Model.symbol?, bound, Table.get?_insert] at stands
    split at stands
    · rename_i same
      cases stands
      exact .inr ⟨same ▸ foreign_externalMark name, isExternal, named.trans same⟩
    · exact .inl stands
  · intro other met
    rcases listed other met with before | rfl
    · exact .inl before
    · exact .inr (named ▸ stands)
  · intro known
    have known := knows_iff.mp (known _ (knows_iff.mpr ⟨element, stands⟩))
    simp [fresh] at known

/-- Names that are not foreign stand for the same as before. -/
theorem symbol?_eq (h : first.Widens second) {name : String} (own : ¬ Foreign name) :
    second.symbol? name = first.symbol? name := by
  cases stands : second.symbol? name with
  | some element =>
    rcases h.new stands with before | ⟨isForeign, -⟩
    · exact before.symm
    · exact absurd isForeign own
  | none =>
    cases before : first.symbol? name with
    | none => rfl
    | some element => exact absurd (h.kept before) (by simp [stands])

end Widens

end Model

theorem Usage.Recording.widens {policy : ExternalPolicy} {code : Option String}
    {first second : Model} (h : Recording policy code first second) : first.Widens second := by
  induction h with
  | refl => exact .refl first
  | note _ _ ih => exact ih.trans (.of_eq rfl rfl)
  | call _ _ _ ih => exact ih.trans (.of_eq rfl rfl)
  | access _ _ _ _ ih => exact ih.trans (.of_eq rfl rfl)
  | external _ _ _ fresh ih => exact ih.trans (.meetExternal _ _ fresh)

theorem Usage.Reporting.widens {first second : Model} (h : Reporting first second) :
    first.Widens second := by
  induction h with
  | refl => exact .refl first
  | note _ _ ih => exact ih.trans (.of_eq rfl rfl)

/-- The model of the later state widens that of the earlier one. -/
def Usage.Widening (s t : Usage.State) : Prop := s.model.Widens t.model

namespace Usage

instance : Passing Widening where
  refl s := Model.Widens.refl s.model
  trans h h' := Model.Widens.trans h h'

theorem followAll_widening (context : Context) (steps : List Step) :
    KeepingRun Widening (followAll context steps) := by
  induction steps with
  | nil => exact .pure _
  | cons step steps ih =>
    exact KeepingRun.bind (fun s => (follow_recording context s step).widens) fun _ => ih

end Usage

namespace Extraction

variable {order : Arrangement String}

theorem analyseFile_widens (model : Model) (file : ReadFile) :
    model.Widens (analyseFile order model file) := by
  cases read : file.trees with
  | error fault =>
    rw [analyseFile, read]
    exact .of_eq rfl rfl
  | ok trees =>
    have run := Usage.followAll_widening (file.context order) (walkModule trees)
      { model := model }
    exact Model.Widens.trans run (analyseFile_reporting read order model).widens

/-- Only foreign names come to stand for something, external code of that name. -/
theorem analyseAll_widens (model : Model) (files : List ReadFile) :
    model.Widens (analyseAll order model files) := by
  induction files generalizing model with
  | nil => exact .refl model
  | cons file files ih => exact (analyseFile_widens model file).trans (ih _)

end Extraction

end CodeMap
