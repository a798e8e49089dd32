/-
One step of collecting definitions, and many.

All that collecting does to a model is to enter elements: files, and members of what is open, that
is classes, functions and attributes. `Collecting` lists these changes together with the elements
that they enter; what holds of a model after many changes is read off this list. The names and
kinds of the definitions among them depend on the walk alone (`definitionsAlong`).
-/

import CodeMap.Definitions
import CodeMap.Proofs.Scope
import CodeMap.Proofs.Tables

namespace CodeMap

/-- Records that `parent`, if there is one, contains `child`. -/
def Model.place (model : Model) (parent : Option Element) (child : Element) : Model :=
  match parent with
  | some parent => model.addContainment ⟨parent, child⟩
  | none => model

/-- Enters an element with a unique and a short name. -/
def Model.enterMember (model : Model) (parent : Option Element) (element : Element)
    (short : String) : Model :=
  (((model.enter element).bind element.uniqueName element).bind short element).place parent element

@[simp] theorem Model.enterMember_elements (model : Model) (parent : Option Element)
    (element : Element) (short : String) :
    (model.enterMember parent element short).elements =
      model.elements.insert element.uniqueName element := by
  cases parent <;> rfl

@[simp] theorem Model.enterMember_symbols (model : Model) (parent : Option Element)
    (element : Element) (short : String) :
    (model.enterMember parent element short).symbols =
      (model.symbols.insert element.uniqueName element).insert short element := by
  cases parent <;> rfl

namespace Definitions

open Source

/-! ### Names and kinds along a walk -/

/-- The unique name and the kind of what a step defines. -/
def definedBy (module : String) (scope : Scope) : Step → Option (String × Kind)
  | .enterModule => some (module, .grouping)
  | .enterClass _ name => some (module ++ "." ++ name.text, .grouping)
  | .enterFunction _ name _ =>
    some (scope.openClass.getD module ++ "." ++ name.text, .code)
  | _ => none

/-- The unique names and the kinds of what the steps of a walk define. -/
def definitionsAlong (module : String) : Scope → List Step → List (String × Kind)
  | _, [] => []
  | scope, step :: steps =>
    (definedBy module scope step).toList ++ definitionsAlong module (scope.step module step) steps

theorem definitionsAlong_append (module : String) (scope : Scope) (xs ys : List Step) :
    definitionsAlong module scope (xs ++ ys) =
      definitionsAlong module scope xs ++
        definitionsAlong module (xs.foldl (Scope.step module) scope) ys := by
  induction xs generalizing scope with
  | nil => rfl
  | cons step xs ih => simp [definitionsAlong, ih]

/-- A function that is open has been defined on the way, unless it was open from the start. -/
theorem mem_definitionsAlong_of_openCode {module : String} {scope : Scope} {steps : List Step}
    {code : String} (isOpen : (steps.foldl (Scope.step module) scope).openCode = some code) :
    scope.openCode = some code ∨ (code, Kind.code) ∈ definitionsAlong module scope steps := by
  induction steps generalizing scope with
  | nil => exact .inl isOpen
  | cons step steps ih =>
    rcases ih isOpen with entered | later
    · cases step with
      | enterFunction position name params =>
        refine .inr (List.mem_append_left _ ?_)
        have : scope.openClass.getD module ++ "." ++ name.text = code := Option.some.inj entered
        simp [definedBy, this]
      | leaveFunction => cases entered
      | _ => exact .inl entered
    · exact .inr (List.mem_append_right _ later)

/-- The definitions among elements, as names and kinds. Attributes are not among them. -/
def definitionsOf (elements : List Element) : List (String × Kind) :=
  (elements.filter (!·.isData)).map fun element => (element.uniqueName, element.kind)

theorem definitionsOf_append (xs ys : List Element) :
    definitionsOf (xs ++ ys) = definitionsOf xs ++ definitionsOf ys := by
  simp [definitionsOf]

theorem definitionsOf_singleton (element : Element) :
    definitionsOf [element] =
      if element.isData then [] else [(element.uniqueName, element.kind)] := by
  cases h : element.isData <;> simp [definitionsOf, h]

theorem mem_definitionsOf {elements : List Element} {name : String} {kind : Kind} :
    (name, kind) ∈ definitionsOf elements ↔
      ∃ element ∈ elements, element.isData = false ∧ element.uniqueName = name ∧
        element.kind = kind := by
  simp [definitionsOf, and_assoc]

/-- The kind of the last definition of a name. -/
def lastKind (name : String) (definitions : List (String × Kind)) : Option Kind :=
  ((definitions.filter (·.1 = name)).getLast?).map (·.2)

theorem lastKind_append (name : String) (xs ys : List (String × Kind)) :
    lastKind name (xs ++ ys) = (lastKind name ys).or (lastKind name xs) :=
  Entries.last?_append name xs ys

theorem lastKind_singleton (name : String) (definition : String × Kind) :
    lastKind name [definition] = if definition.1 = name then some definition.2 else none :=
  Entries.last?_singleton name definition

theorem mem_of_lastKind {name : String} {kind : Kind} {definitions : List (String × Kind)}
    (h : lastKind name definitions = some kind) : (name, kind) ∈ definitions :=
  Entries.mem_of_last? h

/-! ### Changes of a model -/

/-- The changes that enter `entered` into a model, one element after the other. -/
inductive Collecting (model : Model) : List Element → Model → Prop where
  | refl : Collecting model [] model
  | note {entered : List Element} {after : Model} (event : Event) :
      Collecting model entered after → Collecting model entered (after.note event)
  | file {entered : List Element} {after : Model} {element : Element} :
      Collecting model entered after → element.role = .file →
        Collecting model (entered ++ [element]) (after.enter element)
  /-- A class, a function or an attribute; an attribute only under a name that is not taken. -/
  | member {entered : List Element} {after : Model} {element : Element} {parent : Option Element}
      {short : String} :
      Collecting model entered after → element.role ≠ .file → element.role ≠ .external →
        (element.isData = true → element.uniqueName ∉ after.elements.keys) →
          (∀ outer ∈ parent, outer.uniqueName ∈ after.elements.keys) →
            Collecting model (entered ++ [element]) (after.enterMember parent element short)

theorem Collecting.trans {first second third : Model} {xs ys : List Element}
    (h : Collecting first xs second) (h' : Collecting second ys third) :
    Collecting first (xs ++ ys) third := by
  induction h' with
  | refl => simpa using h
  | note event _ ih => exact .note event ih
  | file _ isFile ih =>
    rw [← List.append_assoc]
    exact .file ih isFile
  | member _ notFile notExternal fresh known ih =>
    rw [← List.append_assoc]
    exact .member ih notFile notExternal fresh known

section Changes

variable {model after : Model} {entered : List Element}

/-- Collecting records neither calls nor accesses and meets no external code. -/
theorem Collecting.usages_eq (h : Collecting model entered after) :
    after.calls = model.calls ∧ after.accesses = model.accesses ∧
      after.externals = model.externals := by
  induction h with
  | refl => exact ⟨rfl, rfl, rfl⟩
  | note _ _ ih => exact ih
  | file _ _ ih => exact ih
  | @member _ _ _ parent _ _ _ _ _ _ ih => cases parent <;> exact ih

theorem Collecting.mem_keys_iff (h : Collecting model entered after) {name : String} :
    name ∈ after.elements.keys ↔
      name ∈ model.elements.keys ∨ name ∈ entered.map (·.uniqueName) := by
  induction h with
  | refl => simp
  | note _ _ ih => exact ih
  | file _ _ ih =>
    rw [Model.enter, Table.mem_keys_insert, ih]
    simp [or_comm, or_left_comm]
  | member _ _ _ _ _ ih =>
    rw [Model.enterMember_elements, Table.mem_keys_insert, ih]
    simp [or_comm, or_left_comm]

/-- What a name stands for was entered, or the name stood for it before. -/
theorem Collecting.symbol? (h : Collecting model entered after) {name : String}
    {element : Element} (stands : after.symbol? name = some element) :
    model.symbol? name = some element ∨
      element ∈ entered ∧ element.role ≠ .file ∧ element.role ≠ .external := by
  induction h with
  | refl => exact .inl stands
  | note _ _ ih => exact ih stands
  | file _ _ ih =>
    refine (ih stands).imp id ?_
    rintro ⟨member, kind⟩
    exact ⟨List.mem_append_left _ member, kind⟩
  | @member _ before new _ short _ notFile notExternal _ _ ih =>
    simp only [Model.symbol?, Model.enterMember_symbols, Table.get?_insert] at stands
    by_cases own : short = name ∨ new.uniqueName = name
    · have : new = element := by grind
      subst this
      exact .inr ⟨by simp, notFile, notExternal⟩
    · rw [not_or] at own
      rw [if_neg own.1, if_neg own.2] at stands
      refine (ih stands).imp id ?_
      rintro ⟨member, kind⟩
      exact ⟨List.mem_append_left _ member, kind⟩

/-- Both ends of a containment are entered, unless it was recorded before. -/
theorem Collecting.containments (h : Collecting model entered after) {containment : Containment}
    (recorded : containment ∈ after.containments) :
    containment ∈ model.containments ∨
      containment.parent.uniqueName ∈ after.elements.keys ∧
        containment.child.uniqueName ∈ after.elements.keys := by
  induction h with
  | refl => exact .inl recorded
  | note _ _ ih => exact ih recorded
  | file _ _ ih =>
    refine (ih recorded).imp id ?_
    rintro ⟨parent, child⟩
    simp [Model.enter, Table.mem_keys_insert, parent, child]
  | @member _ before new parent short _ _ _ _ known ih =>
    have grown {name : String} (h : name ∈ before.elements.keys) :
        name ∈ (before.enterMember parent new short).elements.keys := by
      simp [Table.mem_keys_insert, h]
    have earlier (old : containment ∈ before.containments) :
        containment ∈ model.containments ∨
          containment.parent.uniqueName ∈ (before.enterMember parent new short).elements.keys ∧
            containment.child.uniqueName ∈ (before.enterMember parent new short).elements.keys :=
      (ih old).imp id fun ends => ⟨grown ends.1, grown ends.2⟩
    cases parent with
    | none => exact earlier recorded
    | some outer =>
      rcases Array.mem_push.mp recorded with old | rfl
      · exact earlier old
      · refine .inr ⟨grown (known outer rfl), ?_⟩
        simp [Table.mem_keys_insert]

/-- Every element is entered under its own name. -/
theorem Collecting.keyed (h : Collecting model entered after)
    (keyed : ∀ name element, model.elements.get? name = some element → element.uniqueName = name)
    {name : String} {element : Element} (found : after.elements.get? name = some element) :
    element.uniqueName = name := by
  induction h with
  | refl => exact keyed _ _ found
  | note _ _ ih => exact ih found
  | file _ _ ih =>
    simp only [Model.enter, Table.get?_insert] at found
    grind
  | member _ _ _ _ _ ih =>
    simp only [Model.enterMember_elements, Table.get?_insert] at found
    grind

/-- External code is not entered. -/
theorem Collecting.role_ne_external (h : Collecting {} entered after) {name : String}
    {element : Element} (found : after.elements.get? name = some element) :
    element.role ≠ .external := by
  induction h with
  | refl => cases found
  | note _ _ ih => exact ih found
  | file _ isFile ih =>
    simp only [Model.enter, Table.get?_insert] at found
    grind
  | member _ _ _ _ _ ih =>
    simp only [Model.enterMember_elements, Table.get?_insert] at found
    grind

/-- A class, a function or an attribute that was entered has made its name stand for something. -/
theorem Collecting.bound (h : Collecting model entered after) {element : Element}
    (member : element ∈ entered) (notFile : element.role ≠ .file) :
    element.uniqueName ∈ after.symbols.keys := by
  induction h with
  | refl => cases member
  | note _ _ ih => exact ih member
  | file _ isFile ih =>
    rcases List.mem_append.mp member with old | new
    · exact ih old
    · rw [List.mem_singleton.mp new] at notFile
      exact absurd isFile notFile
  | member _ _ _ _ _ ih =>
    simp only [Model.enterMember_symbols, Table.mem_keys_insert]
    rcases List.mem_append.mp member with old | new
    · exact .inr (.inr (ih old))
    · rw [List.mem_singleton.mp new]
      exact .inr (.inl rfl)

/-- A name that was defined is entered. -/
theorem Collecting.mem_keys_of_definition (h : Collecting model entered after) {name : String}
    {kind : Kind} (defined : (name, kind) ∈ definitionsOf entered) :
    name ∈ after.elements.keys := by
  obtain ⟨element, member, -, rfl, -⟩ := mem_definitionsOf.mp defined
  exact h.mem_keys_iff.mpr (.inr (List.mem_map_of_mem member))

/-- A name holds an element of the kind of its last definition. Without a definition it holds an
attribute at most. -/
theorem Collecting.kind_eq (h : Collecting {} entered after) {name : String} {element : Element}
    (found : after.elements.get? name = some element) :
    element.kind = (lastKind name (definitionsOf entered)).getD .data := by
  induction h with
  | refl => cases found
  | note _ _ ih => exact ih found
  | @file entered before new _ isFile ih =>
    have notData : new.isData = false := by simp [Element.isData, Element.kind, isFile, Role.kind]
    simp only [Model.enter, Table.get?_insert] at found
    rw [definitionsOf_append, definitionsOf_singleton, notData, lastKind_append]
    simp only [Bool.false_eq_true, if_false, lastKind_singleton]
    split at found
    · simp_all
    · simp_all
  | @member entered before new parent short collecting _ _ fresh _ ih =>
    simp only [Model.enterMember_elements, Table.get?_insert] at found
    rw [definitionsOf_append, definitionsOf_singleton, lastKind_append]
    cases isData : new.isData with
    | true =>
      split at found
      · rename_i own
        cases found
        -- The name was free, so nothing was defined under it.
        have undefined : lastKind name (definitionsOf entered) = none := by
          cases defined : lastKind name (definitionsOf entered) with
          | none => rfl
          | some kind =>
            have taken := collecting.mem_keys_of_definition (mem_of_lastKind defined)
            exact absurd taken (own ▸ fresh isData)
        rw [undefined]
        simpa [lastKind, Element.isData] using isData
      · simpa [lastKind] using ih found
    | false =>
      simp only [Bool.false_eq_true, if_false, lastKind_singleton]
      split at found
      · simp_all
      · simp_all

end Changes

/-! ### One step -/

namespace State

variable {state : State} (file : File)

/-- What is open of a sort. -/
def opened (state : State) : ScopeSort → Option Element
  | .classes => state.openClass
  | .functions => state.openFunction

/-- The names of what is open. -/
def scope (state : State) : Scope where
  openClass := state.openClass.map (·.uniqueName)
  openCode := state.openFunction.map (·.uniqueName)

/-- What may come to contain an element has been entered. -/
structure Anchored (state : State) : Prop where
  scopes : ∀ element ∈ state.scopes, element.uniqueName ∈ state.model.elements.keys
  openClass : ∀ element ∈ state.openClass, element.uniqueName ∈ state.model.elements.keys

theorem Anchored.grow (anchored : state.Anchored) {model : Model}
    (grown : ∀ name ∈ state.model.elements.keys, name ∈ model.elements.keys) :
    { state with model := model }.Anchored where
  scopes element member := grown _ (anchored.scopes element member)
  openClass element isOpen := grown _ (anchored.openClass element isOpen)

theorem Anchored.push (anchored : state.Anchored) {model : Model} {element : Element}
    (grown : ∀ name ∈ state.model.elements.keys, name ∈ model.elements.keys)
    (entered : element.uniqueName ∈ model.elements.keys) :
    { state with model := model, scopes := element :: state.scopes }.Anchored where
  scopes other member := by
    rcases List.mem_cons.mp member with rfl | member
    · exact entered
    · exact grown _ (anchored.scopes other member)
  openClass owner isOpen := grown _ (anchored.openClass owner isOpen)

theorem define_eq (state : State) (element : Element) (short : String) :
    state.define element short =
      { state with
        model := (state.model.enterMember state.scopes.head? element short).note
          (.shortNameMapped short element.uniqueName)
        scopes := element :: state.scopes } := by
  unfold define contain
  cases scopes : state.scopes <;> simp <;> rfl

theorem define_collecting (anchored : state.Anchored) {element : Element} (short : String)
    (notFile : element.role ≠ .file) (notExternal : element.role ≠ .external)
    (notData : element.isData = false) :
    Collecting state.model [element] (state.define element short).model := by
  rw [define_eq]
  refine .note _ (.member .refl notFile notExternal (by simp [notData]) ?_)
  exact fun outer innermost => anchored.scopes outer (List.mem_of_mem_head? innermost)

theorem define_anchored (anchored : state.Anchored) (element : Element) (short : String) :
    (state.define element short).Anchored := by
  rw [define_eq]
  refine anchored.push (fun name known => ?_) ?_
  · simp [Model.note, Table.mem_keys_insert, known]
  · simp [Model.note, Table.mem_keys_insert]

/-- The short name of a function: after the open class, or else after the module. -/
def shortName (state : State) (name : String) : String :=
  match state.openClass with
  | some owner => file.shortModule ++ "." ++ owner.name ++ "." ++ name
  | none => file.shortModule ++ "." ++ name

/-- A function is entered as code, under names after the open class or else the module. -/
theorem enterFunction_eq_define (state : State) (position : Position) (name : String)
    (params : List Tree) :
    ∃ element event,
      element.uniqueName = state.scope.openClass.getD file.module ++ "." ++ name ∧
      element.kind = .code ∧ element.role ≠ .external ∧
      state.enterFunction file position name params =
        { state.define element (state.shortName file name) with
          model := (state.define element (state.shortName file name)).model.note event
          openFunction := some element } := by
  unfold enterFunction scope shortName
  cases state.openClass <;> exact ⟨_, _, rfl, rfl, by simp, rfl⟩

theorem enterFunction_eq (state : State) (position : Position) (name : String)
    (params : List Tree) :
    ∃ element short event,
      element.uniqueName = state.scope.openClass.getD file.module ++ "." ++ name ∧
      element.kind = .code ∧ element.role ≠ .external ∧
      state.enterFunction file position name params =
        { state.define element short with
          model := (state.define element short).model.note event
          openFunction := some element } := by
  obtain ⟨element, event, entered⟩ := enterFunction_eq_define file state position name params
  exact ⟨element, _, event, entered⟩

/-- An attribute is entered under its unique and its short name, unless its name is taken. -/
theorem defineAttribute_eq_enterMember (state : State) (position : Position) (owner : Element)
    (attr : String) :
    (owner.uniqueName ++ "." ++ attr ∈ state.model.elements.keys ∧
      state.defineAttribute file position owner attr = state) ∨
      ∃ element collected mapped, element.role = .attribute ∧
        element.uniqueName = owner.uniqueName ++ "." ++ attr ∧
        element.uniqueName ∉ state.model.elements.keys ∧
        state.defineAttribute file position owner attr =
          { state with
            model := ((state.model.enterMember (some owner) element
              (file.shortModule ++ "." ++ owner.name ++ "." ++ attr)).note collected).note
                mapped } := by
  unfold defineAttribute
  dsimp only
  split
  · rename_i taken
    exact .inl ⟨Table.contains_iff.mp taken, rfl⟩
  · rename_i free
    let element : Element :=
      { serial := state.model.made
        name := attr
        uniqueName := owner.uniqueName ++ "." ++ attr
        role := .attribute
        link := some (file.link position) }
    refine .inr ⟨element, _, _, rfl, rfl, ?_, rfl⟩
    rwa [← Table.contains_iff]

theorem defineAttribute_eq (state : State) (position : Position) (owner : Element)
    (attr : String) :
    (owner.uniqueName ++ "." ++ attr ∈ state.model.elements.keys ∧
      state.defineAttribute file position owner attr = state) ∨
      ∃ element short collected mapped, element.role = .attribute ∧
        element.uniqueName = owner.uniqueName ++ "." ++ attr ∧
        element.uniqueName ∉ state.model.elements.keys ∧
        state.defineAttribute file position owner attr =
          { state with
            model := ((state.model.enterMember (some owner) element short).note collected).note
              mapped } := by
  refine (defineAttribute_eq_enterMember file state position owner attr).imp id ?_
  rintro ⟨element, collected, mapped, entered⟩
  exact ⟨element, _, collected, mapped, entered⟩

/-- Attributes of a class that was entered are entered one after the other, and what is open stays
so. -/
theorem foldl_defineAttribute_eq (state : State) (position : Position) (owner : Element)
    (attrs : List String) :
    ∃ model, attrs.foldl (fun state attr => state.defineAttribute file position owner attr) state =
        { state with model := model } ∧
      (owner.uniqueName ∈ state.model.elements.keys →
        ∃ entered, Collecting state.model entered model ∧ definitionsOf entered = []) := by
  induction attrs generalizing state with
  | nil => exact ⟨_, rfl, fun _ => ⟨[], .refl, rfl⟩⟩
  | cons attr attrs ih =>
    rw [List.foldl_cons]
    rcases defineAttribute_eq file state position owner attr with ⟨-, same⟩ | ⟨element, short,
      collected, mapped, isAttribute, -, free, entered⟩
    · rw [same]
      exact ih state
    · rw [entered]
      obtain ⟨model, folded, rest⟩ := ih { state with model := _ }
      refine ⟨model, folded, fun known => ?_⟩
      have first : Collecting state.model [element]
          (((state.model.enterMember (some owner) element short).note collected).note mapped) := by
        refine .note _ (.note _ (.member .refl ?_ ?_ (fun _ => free) ?_))
        · simp [isAttribute]
        · simp [isAttribute]
        · rintro _ ⟨⟩
          exact known
      obtain ⟨later, collecting, none⟩ := rest (first.mem_keys_iff.mpr (.inl known))
      refine ⟨_, first.trans collecting, ?_⟩
      rw [definitionsOf_append, none, definitionsOf_singleton]
      simp [Element.isData, Element.kind, isAttribute, Role.kind]

/-- An assignment enters attributes only, and what is open stays so. -/
theorem assign_eq (state : State) (position : Position) (targets : List Tree) :
    ∃ model, state.assign file position targets = { state with model := model } ∧
      (state.Anchored →
        ∃ entered, Collecting state.model entered model ∧ definitionsOf entered = []) := by
  unfold assign
  split
  · rename_i owner isOpen
    obtain ⟨model, folded, collecting⟩ := foldl_defineAttribute_eq file state position owner
      (targets.filterMap selfAttribute?)
    exact ⟨model, folded, fun anchored => collecting (anchored.openClass owner isOpen)⟩
  · exact ⟨_, rfl, fun _ => ⟨[], .refl, rfl⟩⟩

/-- A step changes the scope as every reader of walks changes it. -/
theorem step_scope (state : State) (step : Step) :
    (state.step file step).scope = state.scope.step file.module step := by
  cases step with
  | enterClass position name =>
    simp only [State.step, enterClass, define_eq]
    rfl
  | enterFunction position name params =>
    obtain ⟨element, short, event, named, -, -, entered⟩ :=
      enterFunction_eq file state position name.text params
    rw [State.step, entered, define_eq]
    simp [scope, Scope.step, named]
  | assign position targets value =>
    obtain ⟨model, assigned, -⟩ := assign_eq file state position targets
    rw [State.step, assigned]
    rfl
  | _ => rfl

/-- A step opens or closes its own sort and keeps what is open of the other one. -/
theorem step_opened (state : State) (step : Step) (sort : ScopeSort) :
    if step.enters sort then ((state.step file step).opened sort).isSome = true
    else (state.step file step).opened sort =
      if step.leaves sort then none else state.opened sort := by
  cases step with
  | enterClass position name =>
    simp only [State.step, enterClass, define_eq]
    cases sort <;> rfl
  | enterFunction position name params =>
    obtain ⟨element, short, event, -, -, -, entered⟩ :=
      enterFunction_eq file state position name.text params
    rw [State.step, entered, define_eq]
    cases sort <;> rfl
  | assign position targets value =>
    obtain ⟨model, assigned, -⟩ := assign_eq file state position targets
    rw [State.step, assigned]
    cases sort <;> rfl
  | _ => cases sort <;> rfl

/-- What a step enters. -/
theorem step_collecting (anchored : state.Anchored) (step : Step) :
    ∃ entered, Collecting state.model entered (state.step file step).model ∧
      definitionsOf entered = (definedBy file.module state.scope step).toList := by
  cases step with
  | enterModule => exact ⟨[_], .file .refl rfl, rfl⟩
  | enterClass position name =>
    exact ⟨[_], define_collecting anchored _ (by simp) (by simp) rfl, rfl⟩
  | enterFunction position name params =>
    obtain ⟨element, short, event, named, isCode, notExternal, entered⟩ :=
      enterFunction_eq file state position name.text params
    have notData : element.isData = false := by simp [Element.isData, isCode]
    have notFile : element.role ≠ .file := by
      intro isFile
      simp [Element.kind, isFile, Role.kind] at isCode
    refine ⟨[element], ?_, ?_⟩
    · rw [State.step, entered]
      exact .note _ (define_collecting anchored short notFile notExternal notData)
    · simp [definitionsOf_singleton, notData, definedBy, named, isCode]
  | assign position targets value =>
    obtain ⟨model, assigned, collecting⟩ := assign_eq file state position targets
    obtain ⟨entered, collecting, none⟩ := collecting anchored
    refine ⟨entered, ?_, none⟩
    rw [State.step, assigned]
    exact collecting
  | _ => exact ⟨[], .refl, rfl⟩

/-- What is open after a step has been entered. -/
theorem step_anchored (anchored : state.Anchored) (step : Step) :
    (state.step file step).Anchored := by
  cases step with
  | enterModule =>
    refine anchored.push (fun name known => ?_) ?_
    · simp [Model.enter, Table.mem_keys_insert, known]
    · simp [Model.enter, Table.mem_keys_insert]
  | enterClass position name =>
    have defined := define_anchored anchored
    refine ⟨(defined _ _).scopes, ?_⟩
    rintro owner ⟨⟩
    simp [State.step, enterClass, define_eq, Model.note, Table.mem_keys_insert]
  | enterFunction position name params =>
    obtain ⟨element, short, event, -, -, -, entered⟩ :=
      enterFunction_eq file state position name.text params
    rw [State.step, entered]
    have defined := define_anchored anchored element short
    exact ⟨defined.scopes, defined.openClass⟩
  | assign position targets value =>
    obtain ⟨model, assigned, collecting⟩ := assign_eq file state position targets
    obtain ⟨entered, collecting, -⟩ := collecting anchored
    rw [State.step, assigned]
    exact anchored.grow fun name known => collecting.mem_keys_iff.mpr (.inl known)
  | leaveModule | leaveFunction =>
    exact ⟨fun element member => anchored.scopes element (List.mem_of_mem_tail member),
      anchored.openClass⟩
  | leaveClass =>
    exact ⟨fun element member => anchored.scopes element (List.mem_of_mem_tail member), nofun⟩
  | _ => exact anchored

/-! ### Many steps -/

/-- What the steps of a walk enter. -/
theorem foldl_step_collecting (anchored : state.Anchored) (steps : List Step) :
    ∃ entered, Collecting state.model entered (steps.foldl (State.step file) state).model ∧
      definitionsOf entered = definitionsAlong file.module state.scope steps := by
  induction steps generalizing state with
  | nil => exact ⟨[], .refl, rfl⟩
  | cons step steps ih =>
    obtain ⟨own, first, defined⟩ := step_collecting file anchored step
    obtain ⟨others, rest, later⟩ := ih (step_anchored file anchored step)
    refine ⟨own ++ others, first.trans rest, ?_⟩
    rw [definitionsOf_append, defined, later, step_scope]
    rfl

end State

/-- What the walk through a file enters. -/
theorem collect_collecting (model : Model) (file : File) (body : List Tree) :
    ∃ entered, Collecting model entered (collect model file body) ∧
      definitionsOf entered = definitionsAlong file.module {} (walkModule body) :=
  have anchored : State.Anchored { model := model } := ⟨nofun, nofun⟩
  State.foldl_step_collecting file anchored (walkModule body)

/-- The collection of definitions as a reader of walks. It never stops. -/
def reader (file : File) : Reader State Element where
  module := file.module
  read steps state := some (steps.foldl (State.step file) state)
  opened sort state := state.opened sort
  name := (·.uniqueName)
  read_nil _ := rfl
  read_append xs ys s := by simp
  entering {sort step s t} enters h := by
    have := s.step_opened file step sort
    rw [if_pos enters] at this
    exact Option.some.inj h ▸ this
  leaving {sort step s t} leaves h := by
    have := s.step_opened file step sort
    have quiet : step.enters sort = false := by cases sort <;> cases step <;> trivial
    rw [if_neg (by simp [quiet]), if_pos leaves] at this
    exact Option.some.inj h ▸ this
  passing {sort step s t} enters leaves h := by
    have := s.step_opened file step sort
    rw [if_neg (by simp [enters]), if_neg (by simp [leaves])] at this
    exact Option.some.inj h ▸ this
  naming {step s t} _ h := Option.some.inj h ▸ s.step_scope file step

end Definitions

end CodeMap
