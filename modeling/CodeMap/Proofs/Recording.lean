/-
What the analysis of usages records.

However far an analysis comes, all it does to a model is to report events, to record calls of code
and accesses to data that names stand for, and to enter external code under names that stand for
nothing yet. `Recording` lists these changes. Calls give types to the parameters of functions, and
`Filling` lists what they change there. Every function of the analysis makes only such changes and
keeps the open class and the open function, up to a fault if it meets one (`Extends`); many of them
do no more than report (`Reports`). Hints alone change the types of parameters otherwise, when a
function is entered (`enterParameter_apply`).
-/

import CodeMap.Proofs.Keeping
import CodeMap.Usage.Follow

namespace CodeMap

/-- Enters new external code, called from `code`. -/
def Model.meetExternal (policy : Usage.ExternalPolicy) (code : Option String) (name : String)
    (model : Model) : Model :=
  let unique := Usage.externalMark ++ name
  let element : Element :=
    { serial := model.made
      name := name
      uniqueName := unique
      role := .external
      link := none }
  let model := { model.bind unique element with made := model.made + 1 }
  let model := (model.addCall ⟨code, unique⟩).note (.externalAdded unique code)
  match policy with
  | .drop => model
  | .keep => { model with externals := model.externals.push element }
  | .keepAndReport =>
    { model with externals := model.externals.push element }.note (.externalKept unique)

/-- External code is entered under its marked name. -/
theorem Model.exists_symbols_meetExternal (policy : Usage.ExternalPolicy) (code : Option String)
    (name : String) (model : Model) :
    ∃ element : Element, element.role = .external ∧
      element.uniqueName = Usage.externalMark ++ name ∧
        (model.meetExternal policy code name).symbols =
          model.symbols.insert (Usage.externalMark ++ name) element ∧
            ∀ other ∈ (model.meetExternal policy code name).externals,
              other ∈ model.externals ∨ other = element := by
  cases policy with
  | drop => exact ⟨_, rfl, rfl, rfl, fun _ met => .inl met⟩
  | keep | keepAndReport => exact ⟨_, rfl, rfl, rfl, fun _ met => Array.mem_push.mp met⟩

/-- The parameters of the code that a name stands for. -/
def Model.parametersOf (model : Model) (code : String) : List String :=
  (((model.symbol? code).filter (·.isCode)).map (·.parameters)).getD []

namespace Usage

open Source

/-! ### Running an analysis from a state -/

section Running

variable {α β : Type}

@[simp] theorem Tracking.pure_apply (a : α) (s : State) : (pure a : Tracking α) s = (a, s) := rfl

@[simp] theorem Tracking.bind_apply (x : Tracking α) (f : α → Tracking β) (s : State) :
    (x >>= f) s = f (x s).1 (x s).2 := rfl

@[simp] theorem Tracking.map_apply (f : α → β) (x : Tracking α) (s : State) :
    (f <$> x) s = (f (x s).1, (x s).2) := rfl

@[simp] theorem Tracking.get_apply (s : State) : (get : Tracking State) s = (s, s) := rfl

@[simp] theorem symbol?_apply (name : String) (s : State) :
    symbol? name s = (s.model.symbol? name, s) := rfl

@[simp] theorem Analysis.lift_bind_apply (x : Tracking α) (f : α → Analysis β) (s : State) :
    (liftM x >>= f) s = f (x s).1 (x s).2 := rfl

@[simp] theorem Analysis.get_apply (s : State) : (get : Analysis State) s = (.ok s, s) := rfl

end Running

section Keeping

variable {R : State → State → Prop} [Passing R]

theorem symbol?_keeping (name : String) : Keeping R (symbol? name) := fun s => Passing.refl s

theorem openCode?_keeping : Keeping R openCode? := fun s => Passing.refl s

end Keeping

/-! ### Changes of a model -/

/-- Changes that only report events. -/
inductive Reporting (model : Model) : Model → Prop where
  | refl : Reporting model model
  | note {after : Model} (event : Event) :
      Reporting model after → Reporting model (after.note event)

/-- The changes that an analysis makes to a model while `code` is open. -/
inductive Recording (policy : ExternalPolicy) (code : Option String) (model : Model) :
    Model → Prop where
  | refl : Recording policy code model model
  | note {after : Model} (event : Event) :
      Recording policy code model after → Recording policy code model (after.note event)
  | call {after : Model} {name : String} {element : Element} :
      Recording policy code model after → after.symbol? name = some element →
        element.isCode = true →
          Recording policy code model (after.addCall ⟨code, element.uniqueName⟩)
  | access {after : Model} {accessor name : String} {element : Element} :
      Recording policy code model after → code = some accessor →
        after.symbol? name = some element → element.isData = true →
          Recording policy code model
            (after.addAccess { accessor := accessor, accessed := element.uniqueName })
  | external {after : Model} {name : String} :
      Recording policy code model after → name ≠ "" → after.symbol? name = none →
        after.symbol? (externalMark ++ name) = none →
          Recording policy code model (after.meetExternal policy code name)

section Changes

variable {policy : ExternalPolicy} {code : Option String} {first second third : Model}

theorem Reporting.trans (h : Reporting first second) (h' : Reporting second third) :
    Reporting first third := by
  induction h' with
  | refl => exact h
  | note event _ ih => exact .note event ih

theorem Reporting.recording (h : Reporting first second) : Recording policy code first second := by
  induction h with
  | refl => exact .refl
  | note event _ ih => exact .note event ih

theorem Recording.trans (h : Recording policy code first second)
    (h' : Recording policy code second third) : Recording policy code first third := by
  induction h' with
  | refl => exact h
  | note event _ ih => exact .note event ih
  | call _ stands isCode ih => exact .call ih stands isCode
  | access _ isOpen stands isData ih => exact .access ih isOpen stands isData
  | external _ named unknown fresh ih => exact .external ih named unknown fresh

/-- Calls are added at the end, and the function that is open is their caller. -/
theorem Recording.calls_eq (h : Recording policy code first second) :
    ∃ new : Array Call, second.calls = first.calls ++ new ∧ ∀ call ∈ new, call.caller = code := by
  have push {calls : Array Call} (called : String)
      (h : ∃ new : Array Call, calls = first.calls ++ new ∧ ∀ call ∈ new, call.caller = code) :
      ∃ new : Array Call, calls.push ⟨code, called⟩ = first.calls ++ new ∧
        ∀ call ∈ new, call.caller = code := by
    obtain ⟨new, added, callers⟩ := h
    refine ⟨new.push ⟨code, called⟩, by simp [added], fun call member => ?_⟩
    rcases Array.mem_push.mp member with earlier | rfl
    · exact callers call earlier
    · rfl
  induction h with
  | refl => exact ⟨#[], by simp, by simp⟩
  | note _ _ ih => exact ih
  | call _ _ _ ih => exact push _ ih
  | access _ _ _ _ ih => exact ih
  | external _ _ _ _ ih => cases policy <;> exact push _ ih

/-- External code has no parameters. -/
theorem Recording.parametersOf_eq (h : Recording policy code first second) (name : String) :
    second.parametersOf name = first.parametersOf name := by
  induction h with
  | refl => rfl
  | note _ _ ih => exact ih
  | call _ _ _ ih => exact ih
  | access _ _ _ _ ih => exact ih
  | @external after met _ _ _ fresh ih =>
    obtain ⟨element, isExternal, -, bound, -⟩ :=
      after.exists_symbols_meetExternal policy code met
    rw [← ih, Model.parametersOf, Model.parametersOf, Model.symbol?, Model.symbol?, bound,
      Table.get?_insert]
    split
    · rename_i same
      rw [Model.symbol?, same] at fresh
      simp [fresh, Option.filter, Element.isCode, Element.kind, Element.parameters, isExternal,
        Role.kind, Role.parameters]
    · rfl

end Changes

/-- What calls change in the types of parameters, where `declared` gives the parameters of
functions: a function gets entries for all its parameters, or one of its entries gets a type. -/
inductive Filling (declared : String → List String) (types : ParameterTypes) :
    ParameterTypes → Prop where
  | refl : Filling declared types types
  | opens {after : ParameterTypes} {code : String} :
      Filling declared types after → after.get? code = none →
        Filling declared types (after.insert code
          (Table.ofList ((declared code).map fun parameter => (parameter, ∅))))
  | adds {after : ParameterTypes} {code parameter type : String} {known : Table TypeSet}
      {set : TypeSet} :
      Filling declared types after → after.get? code = some known →
        known.get? parameter = some set →
          Filling declared types (after.insert code (known.insert parameter (set.insert type)))

theorem Filling.trans {declared : String → List String} {first second third : ParameterTypes}
    (h : Filling declared first second) (h' : Filling declared second third) :
    Filling declared first third := by
  induction h' with
  | refl => exact h
  | opens _ fresh ih => exact .opens ih fresh
  | adds _ known listed ih => exact .adds ih known listed

/-! ### Changes of a state -/

/-- The scopes and the types of parameters stay as they are, and the model changes by reports
alone. -/
structure Reports (before after : State) : Prop where
  scopes : after.scopes = before.scopes
  openClass : after.openClass = before.openClass
  openCode : after.openCode = before.openCode
  parameterTypes : after.parameterTypes = before.parameterTypes
  reporting : Reporting before.model after.model

/-- The scopes stay as they are, and the model and the types of parameters change as an analysis may
change them. -/
structure Extends (policy : ExternalPolicy) (before after : State) : Prop where
  scopes : after.scopes = before.scopes
  openClass : after.openClass = before.openClass
  openCode : after.openCode = before.openCode
  filling : Filling before.model.parametersOf before.parameterTypes after.parameterTypes
  recording : Recording policy before.openCode before.model after.model

instance : Passing Reports where
  refl _ := ⟨rfl, rfl, rfl, rfl, .refl⟩
  trans h h' :=
    ⟨h'.scopes.trans h.scopes, h'.openClass.trans h.openClass, h'.openCode.trans h.openCode,
      h'.parameterTypes.trans h.parameterTypes, h.reporting.trans h'.reporting⟩

instance (policy : ExternalPolicy) : Passing (Extends policy) where
  refl _ := ⟨rfl, rfl, rfl, .refl, .refl⟩
  trans h h' :=
    ⟨h'.scopes.trans h.scopes, h'.openClass.trans h.openClass, h'.openCode.trans h.openCode,
      h.filling.trans (funext h.recording.parametersOf_eq ▸ h'.filling),
      h.recording.trans (h.openCode ▸ h'.recording)⟩

section States

variable {policy : ExternalPolicy} {s t u : State}

theorem Reports.extends (h : Reports s t) : Extends policy s t :=
  ⟨h.scopes, h.openClass, h.openCode, h.parameterTypes ▸ .refl, h.reporting.recording⟩

/-- What is known of the types of variables and of imports is free to change. -/
theorem Reports.of_model_eq (scopes : t.scopes = s.scopes) (openClass : t.openClass = s.openClass)
    (openCode : t.openCode = s.openCode) (parameterTypes : t.parameterTypes = s.parameterTypes)
    (model : t.model = s.model) : Reports s t :=
  ⟨scopes, openClass, openCode, parameterTypes, model ▸ .refl⟩

theorem Extends.refl : Extends policy s s := Passing.refl s

theorem Extends.trans (h : Extends policy s t) (h' : Extends policy t u) : Extends policy s u :=
  Passing.trans h h'

end States

end Usage

theorem Keeping.extends {policy : Usage.ExternalPolicy} {α : Type} {x : Usage.Tracking α}
    (h : Keeping Usage.Reports x) : Keeping (Usage.Extends policy) x :=
  h.mono Usage.Reports.extends

namespace Usage

open Source

/-! ### Functions that only report -/

section Reports

theorem note_reports (event : Event) : Keeping Reports (note event) :=
  fun _ => ⟨rfl, rfl, rfl, rfl, .note event .refl⟩

theorem note_pure_reports {α : Type} (event : Event) (a : α) :
    Keeping Reports (do note event; return a) :=
  (note_reports event).bind fun _ => .pure a

theorem setVariable_reports (var : String) (type : Option String) :
    Keeping Reports (setVariable var type) :=
  fun _ => .of_model_eq rfl rfl rfl rfl rfl

theorem setAttribute_reports (attr : String) (type : Option String) :
    Keeping Reports (setAttribute attr type) :=
  fun _ => .of_model_eq rfl rfl rfl rfl rfl

theorem importName_reports (asName full : String) : Keeping Reports (importName asName full) :=
  fun _ => .of_model_eq rfl rfl rfl rfl rfl

theorem typeOf?_reports (lookup : Lookup) (var : String) :
    Keeping Reports (typeOf? lookup var) := by
  refine Keeping.get.bind fun s => ?_
  split
  · exact .pure _
  · exact .pure _

theorem calledName?_reports (tree : Tree) : Keeping Reports (calledName? tree) := by
  unfold calledName?
  dsimp only
  split
  · exact note_pure_reports _ _
  · exact .pure _

theorem classOf?_reports (context : Context) (name : Option String) :
    Keeping Reports (classOf? context name) := by
  unfold classOf?
  split
  · exact .pure _
  · refine Keeping.get.bind fun s => (symbol?_keeping _).bind fun found => ?_
    split
    · exact note_pure_reports _ _
    · exact note_pure_reports _ _

theorem dottedTarget?_reports (context : Context) (name : String) :
    Keeping Reports (dottedTarget? context name) := by
  refine (typeOf?_reports _ _).bind fun type => ?_
  split
  · exact note_pure_reports _ _
  · refine Keeping.get.bind fun s => ?_
    split
    · exact note_pure_reports _ _
    · split
      · exact note_pure_reports _ _
      · exact note_pure_reports _ _

theorem plainTarget?_reports (context : Context) (name : String) :
    Keeping Reports (plainTarget? context name) := by
  refine Keeping.get.bind fun s => ?_
  split
  · exact note_pure_reports _ _
  · split
    · exact note_pure_reports _ _
    · exact note_pure_reports _ _

theorem ownMethod?_reports (name : String) : Keeping Reports (ownMethod? name) := by
  refine Keeping.get.bind fun s => (note_reports _).bind fun _ =>
    (symbol?_keeping _).bind fun found => ?_
  split
  · exact .pure _
  · exact note_pure_reports _ _

theorem followImport_reports (context : Context) (aliases : List Alias) :
    Keeping Reports (followImport context aliases) :=
  (note_reports _).bind fun _ =>
    .forM (fun _ => (importName_reports _ _).bind fun _ => note_reports _) _

theorem followImportFrom_reports (context : Context) (module : Option DottedName)
    (aliases : List Alias) : Keeping Reports (followImportFrom context module aliases) :=
  (note_reports _).bind fun _ =>
    .forM (fun _ => (importName_reports _ _).bind fun _ => note_reports _) _

end Reports

/-! ### Hints -/

section Hints

/-- The class that a name stands for. -/
def State.class? (state : State) (context : Context) (name : Option String) : Option Element :=
  (given name).bind fun name =>
    (state.model.symbol?
      ((state.imports.get? name).getD (context.module ++ "." ++ name))).filter (·.isGrouping)

theorem classOf?_apply (context : Context) (name : Option String) (s : State) :
    ∃ model, Reporting s.model model ∧
      classOf? context name s = (s.class? context name, { s with model := model }) := by
  unfold classOf? State.class?
  cases given name with
  | none => exact ⟨_, .refl, rfl⟩
  | some name =>
    simp only [Option.bind_some, Tracking.bind_apply, Tracking.get_apply, symbol?_apply]
    generalize (s.model.symbol? _).filter (·.isGrouping) = found
    cases found with
    | none => exact ⟨_, .note _ .refl, rfl⟩
    | some element => exact ⟨_, .note _ .refl, rfl⟩

theorem classOf?_fst (context : Context) (name : Option String) (s : State) :
    (classOf? context name s).1 = s.class? context name := by
  obtain ⟨model, -, run⟩ := classOf?_apply context name s
  rw [run]

theorem Reporting.symbols_eq {first second : Model} (h : Reporting first second) :
    second.symbols = first.symbols := by
  induction h with
  | refl => rfl
  | note _ _ ih => exact ih

theorem Reporting.class?_eq {s t : State} (reporting : Reporting s.model t.model)
    (imports : t.imports = s.imports) (context : Context) (name : Option String) :
    t.class? context name = s.class? context name := by
  simp only [State.class?, Model.symbol?, reporting.symbols_eq, imports]

/-- The parameter to which its hint gives a type, and the type. -/
def State.hint? (state : State) (context : Context) : Tree → Option (String × String)
  | .typedParam id hint =>
    (state.class? context (annotationName? hint)).map fun element => (id.text, element.uniqueName)
  | _ => none

theorem Reporting.hint?_eq {s t : State} (reporting : Reporting s.model t.model)
    (imports : t.imports = s.imports) (context : Context) :
    t.hint? context = s.hint? context := by
  funext tree
  cases tree <;> simp only [State.hint?, reporting.class?_eq imports]

/-- A parameter of a function has the type that its hint names, and no other one. -/
def giveType (code : String) (types : ParameterTypes) (hint : String × String) : ParameterTypes :=
  types.insert code (((types.get? code).getD ∅).insert hint.1 (.single hint.2))

theorem followParameter_apply (context : Context) (code parameter : String) (s : State) :
    ∃ model locals, Reporting s.model model ∧
      (followParameter context code parameter s).2 =
        { s with model := model, localTypes := locals } := by
  unfold followParameter
  simp only [Tracking.bind_apply, Tracking.get_apply]
  generalize s.typesOf context.typeOrder code parameter = types
  rcases types with _ | ⟨type, _ | ⟨other, others⟩⟩
  · exact ⟨_, _, .note _ .refl, rfl⟩
  · exact ⟨_, _, .note _ .refl, rfl⟩
  · exact ⟨_, _, .note _ .refl, rfl⟩

theorem followHint_apply (context : Context) (code : String) (id : Identifier) (hint : Tree)
    (s : State) :
    ∃ model locals, Reporting s.model model ∧
      (followHint context code id.text hint s).2 =
        { s with
          model := model
          localTypes := locals
          parameterTypes :=
            (s.hint? context (.typedParam id hint)).toList.foldl (giveType code)
              s.parameterTypes } := by
  have hinted : s.hint? context (.typedParam id hint) =
    (s.class? context (annotationName? hint)).map fun element =>
      (id.text, element.uniqueName) := rfl
  rw [hinted]
  unfold followHint
  cases annotationName? hint with
  | none => exact ⟨s.model, s.localTypes, .refl, rfl⟩
  | some name =>
    obtain ⟨model, reporting, run⟩ := classOf?_apply context (some name) s
    simp only [Tracking.bind_apply, run]
    cases s.class? context (some name) with
    | none => exact ⟨model, s.localTypes, reporting, rfl⟩
    | some element => exact ⟨_, _, .note _ (.note _ reporting), rfl⟩

/-- Hints are all by which entering a parameter changes types of parameters. -/
theorem enterParameter_apply (context : Context) (code : String) (tree : Tree) (s : State) :
    ∃ model locals, Reporting s.model model ∧
      (enterParameter context code tree s).2 =
        { s with
          model := model
          localTypes := locals
          parameterTypes :=
            (s.hint? context tree).toList.foldl (giveType code) s.parameterTypes } := by
  cases tree with
  | typedParam id hint => exact followHint_apply context code id hint s
  | param id => exact followParameter_apply context code id.text s
  | _ => exact ⟨s.model, s.localTypes, .refl, rfl⟩

theorem enterParameters_apply (context : Context) (code : String) (params : List Tree)
    (s : State) :
    ∃ model locals, Reporting s.model model ∧
      (params.forM (enterParameter context code) s).2 =
        { s with
          model := model
          localTypes := locals
          parameterTypes :=
            (params.filterMap (s.hint? context)).foldl (giveType code) s.parameterTypes } := by
  induction params generalizing s with
  | nil => exact ⟨s.model, s.localTypes, .refl, rfl⟩
  | cons tree params ih =>
    obtain ⟨model, locals, reporting, run⟩ := enterParameter_apply context code tree s
    obtain ⟨model', locals', reporting', run'⟩ := ih (enterParameter context code tree s).2
    refine ⟨model', locals', ?_, run'.trans ?_⟩
    · rw [run] at reporting'
      exact reporting.trans reporting'
    · have same : (enterParameter context code tree s).2.hint? context = s.hint? context := by
        rw [run]
        refine Reporting.hint?_eq ?_ ?_ context
        · exact reporting
        · rfl
      rw [same, run, ← List.foldl_append, List.filterMap_cons]
      cases s.hint? context tree <;> rfl

end Hints

/-! ### Functions that record -/

section Extends

variable {policy : ExternalPolicy}

theorem given_eq_some {text : Option String} {said : String} (h : given text = some said) :
    text = some said ∧ said ≠ "" := by
  simpa [given, Option.filter_eq_some_iff] using h

theorem addExternal_apply (name : String) (s : State) :
    addExternal policy name s =
      ((), { s with model := s.model.meetExternal policy s.openCode name }) := by
  cases policy <;> rfl

/-- A name that stands for something is left as it is, and so is external code that was met
before. -/
theorem external?_apply (policy : ExternalPolicy) (name : Option String) (s : State) :
    external? policy name s =
      match given name with
      | none => (none, s)
      | some name =>
        if (s.model.symbol? name).isSome then (some name, s)
        else if (s.model.symbol? (externalMark ++ name)).isSome then
          (some (externalMark ++ name), s)
        else
          (some (externalMark ++ name),
            { s with model := s.model.meetExternal policy s.openCode name }) := by
  unfold external?
  cases given name with
  | none => rfl
  | some name =>
    cases known : s.model.symbol? name with
    | some element => simp [known]
    | none =>
      cases met : s.model.symbol? (externalMark ++ name) with
      | some element => simp [known, met]
      | none => simp [known, met, addExternal_apply]

theorem external?_extends (name : Option String) :
    Keeping (Extends policy) (external? policy name) := by
  intro s
  rw [external?_apply]
  split
  · exact .refl
  · rename_i name isGiven
    split
    · exact .refl
    · rename_i unknown
      split
      · exact .refl
      · rename_i fresh
        exact ⟨rfl, rfl, rfl, .refl, .external .refl (given_eq_some isGiven).2
          (Option.not_isSome_iff_eq_none.mp unknown) (Option.not_isSome_iff_eq_none.mp fresh)⟩

theorem called?_extends (context : Context) (name : String) :
    Keeping (Extends context.externals) (called? context name) := by
  unfold called?
  split
  · exact (ownMethod?_reports name).extends
  · have target : Keeping Reports (if Text.Dotted.isDotted name then
        dottedTarget? context name else plainTarget? context name) := by
      split
      · exact dottedTarget?_reports context name
      · exact plainTarget?_reports context name
    refine target.extends.bind fun unique => ?_
    split
    · exact .pure _
    · refine (symbol?_keeping _).bind fun found => ?_
      split
      · exact .pure _
      · refine (external?_extends _).bind fun known => ?_
        split
        · exact symbol?_keeping _
        · exact .pure _

/-- A call of the code that a name stands for may be recorded. -/
theorem recordCall_extends {s : State} {name : String} {element : Element}
    (stands : s.model.symbol? name = some element) (isCode : element.isCode = true) :
    Extends policy s (recordCall element.uniqueName s).2 :=
  ⟨rfl, rfl, rfl, .refl, .call .refl stands isCode⟩

theorem constructed?_extends (context : Context) (func : Tree) :
    Keeping (Extends context.externals) (constructed? context func) := by
  refine (calledName?_reports func).extends.bind fun name =>
    (classOf?_reports context name).extends.bind fun found => ?_
  split
  · rename_i element
    intro s
    simp only [Tracking.bind_apply, symbol?_apply]
    -- A class without a constructor is constructed without a call.
    cases stands : (s.model.symbol? (element.uniqueName ++ ".__init__")).filter (·.isCode) with
    | none => exact .refl
    | some init =>
      obtain ⟨stands, isCode⟩ := Option.filter_eq_some_iff.mp stands
      exact (recordCall_extends stands isCode).trans (note_reports _ _).extends
  · exact external?_extends name

theorem typeOfTree?_extends (context : Context) (tree : Tree) :
    KeepingRun (Extends context.externals) (typeOfTree? context tree) := by
  unfold typeOfTree?
  split
  · exact .lift (constructed?_extends context _)
  · exact .after (typeOf?_reports _ _).extends fun _ => .after (note_reports _).extends
      fun _ => .pure _
  · exact .after (typeOf?_reports _ _).extends fun _ => .after (note_reports _).extends
      fun _ => .pure _
  · split
    · exact .after (note_reports _).extends fun _ => .pure _
    · exact .throw _
  · split
    · exact .after (note_reports _).extends fun _ => .pure _
    · exact .throw _

theorem addParameterType_extends (code parameter type : String) :
    KeepingRun (Extends policy) (addParameterType code parameter type) := by
  intro s
  unfold addParameterType
  simp only [KeepingRun.bind_apply, Analysis.get_apply]
  cases known : s.parameterTypes.get? code with
  | none => exact .refl
  | some parameters =>
    rw [Option.getD_some]
    cases listed : parameters.get? parameter with
    | none => exact .refl
    | some set => exact ⟨rfl, rfl, rfl, .adds .refl known listed, .refl⟩

theorem inferArgument_extends (context : Context) (code : String) (argument : Tree)
    (parameter : String) :
    KeepingRun (Extends context.externals) (inferArgument context code argument parameter) := by
  refine (typeOfTree?_extends context argument).bind fun type => ?_
  split
  · exact (addParameterType_extends _ _ _).bind fun _ => .lift (note_reports _).extends
  · exact .lift (note_reports _).extends

theorem inferArguments_extends (context : Context) (code : String) (arguments : List Tree) :
    KeepingRun (Extends context.externals) (inferArguments context code arguments) := by
  have each (element : Element) : KeepingRun (Extends context.externals)
      ((arguments.zip element.parameters).forM fun pair =>
        inferArgument context code pair.1 pair.2) :=
    .forM (fun _ => inferArgument_extends context code _ _) _
  intro s
  unfold inferArguments
  rw [KeepingRun.bind_apply, Analysis.get_apply]
  dsimp only
  split
  · exact .refl
  · rw [Analysis.lift_bind_apply, symbol?_apply]
    cases found : (s.model.symbol? code).filter (·.isCode) with
    | none => exact (note_reports _ s).extends
    | some element =>
      dsimp only
      split
      · exact (note_reports _ s).extends
      · rw [KeepingRun.bind_apply, Analysis.get_apply]
        dsimp only
        split
        · exact each element s
        · rename_i unknown
          have fresh : s.parameterTypes.get? code = none := by
            simpa [Table.contains] using unknown
          have declared : s.model.parametersOf code = element.parameters := by
            simp [Model.parametersOf, found]
          refine Extends.trans (?_ : Extends _ s _) (each element _)
          exact ⟨rfl, rfl, rfl, declared ▸ .opens .refl fresh, .refl⟩

theorem followTarget_extends (context : Context) (code : String) (value target : Tree) :
    KeepingRun (Extends context.externals) (followTarget context code value target) := by
  unfold followTarget
  split
  · refine (typeOfTree?_extends context value).bind fun type => ?_
    exact .after (setVariable_reports _ _).extends fun _ => .lift (note_reports _).extends
  · split
    · refine (typeOfTree?_extends context value).bind fun type => ?_
      exact .after (setVariable_reports _ _).extends fun _ =>
        .after (setAttribute_reports _ _).extends fun _ =>
          .after Keeping.get fun _ => .lift (note_reports _).extends
    · exact .pure _
  · exact .pure _

theorem followAssignment_extends (context : Context) (targets : List Tree) (value : Tree) :
    KeepingRun (Extends context.externals) (followAssignment context targets value) := by
  refine .after openCode?_keeping fun code => ?_
  split
  · exact .pure _
  · exact .forM (fun _ => followTarget_extends context _ value _) _

/-- Some name stands for the element that the function finds, when it has found it. -/
def Finding (x : Tracking (Option Element)) : Prop :=
  ∀ s element, (x s).1 = some element → ∃ name, (x s).2.model.symbol? name = some element

theorem Finding.nothing : Finding (pure none) :=
  fun _ _ found => nomatch found

theorem Finding.named (name : String) : Finding (symbol? name) :=
  fun _ _ found => ⟨name, found⟩

theorem Finding.after {α : Type} {x : Tracking α} {f : α → Tracking (Option Element)}
    (h : ∀ a, Finding (f a)) : Finding (x >>= f) :=
  fun _ => h _ _

/-- The code that a name stands for, or else what another function finds. -/
theorem Finding.codeOr (name : String) {x : Tracking (Option Element)} (h : Finding x) :
    Finding (do
      match (← symbol? name).filter (·.isCode) with
      | some element => return some element
      | none => x) := by
  intro s element found
  simp only [Tracking.bind_apply, symbol?_apply] at found ⊢
  cases stands : (s.model.symbol? name).filter (·.isCode) with
  | some code =>
    rw [stands] at found
    cases found
    exact ⟨name, (Option.filter_eq_some_iff.mp stands).1⟩
  | none =>
    rw [stands] at found
    exact h s element found

theorem called?_finding (context : Context) (name : String) : Finding (called? context name) := by
  unfold called?
  split
  · exact .after fun _ => .after fun _ => .codeOr _ (.after fun _ => .nothing)
  · refine .after fun unique => ?_
    split
    · exact .nothing
    · refine .codeOr _ (.after fun known => ?_)
      split
      · exact .named _
      · exact .nothing

theorem followCall_extends (context : Context) (func : Tree) (arguments : List Tree) :
    KeepingRun (Extends context.externals) (followCall context func arguments) := by
  refine .after (calledName?_reports func).extends fun name => .after Keeping.get fun s =>
    .after (note_reports _).extends fun _ => ?_
  split
  · exact .pure _
  · rename_i name
    intro s
    have called := called?_extends context name s
    have finding := called?_finding context name s
    rw [Analysis.lift_bind_apply]
    cases found : (called? context name s).1.filter (·.isCode) with
    | none => exact called
    | some element =>
      obtain ⟨found, isCode⟩ := Option.filter_eq_some_iff.mp found
      obtain ⟨known, stands⟩ := finding element found
      refine called.trans ?_
      dsimp only
      rw [Analysis.lift_bind_apply]
      cases (openCode? (called? context name s).2).1 with
      | none => exact inferArguments_extends context _ arguments _
      | some code =>
        refine (recordCall_extends stands isCode).trans ?_
        exact (KeepingRun.after (note_reports _).extends fun _ =>
          inferArguments_extends context _ arguments) _

/-- The open function may be recorded as accessing the data that a name stands for. -/
theorem recordAccess_extends {s : State} {code : String} (isOpen : s.openCode = some code)
    (name : String) : Extends policy s (recordAccess code name s).2 := by
  unfold recordAccess
  simp only [Tracking.bind_apply, symbol?_apply]
  cases stands : (s.model.symbol? name).filter (·.isData) with
  | none => exact .refl
  | some element =>
    obtain ⟨stands, isData⟩ := Option.filter_eq_some_iff.mp stands
    refine Extends.trans ?_ (note_reports _ _).extends
    exact ⟨rfl, rfl, rfl, .refl, .access .refl isOpen stands isData⟩

theorem followAttributeOf_extends {s : State} {code : String} (isOpen : s.openCode = some code)
    (context : Context) (base attr : String) :
    Extends policy s (followAttributeOf context code base attr s).2 := by
  unfold followAttributeOf
  simp only [KeepingRun.bind_apply, Analysis.get_apply]
  split
  · cases s.openClass with
    | none => exact .refl
    | some owner => exact recordAccess_extends isOpen _
  · cases (s.parameterTypes.get? code).bind (·.get? base) with
    | some types =>
      dsimp only
      rcases context.typeOrder.arrange types.types with _ | ⟨type, _ | ⟨other, others⟩⟩
      · exact .refl
      · exact recordAccess_extends isOpen _
      · exact (recordAccess_extends isOpen _).trans (note_reports _ _).extends
    | none =>
      have read : Extends policy s (typeOf? context.lookup base s).2 :=
        (typeOf?_reports _ base s).extends
      dsimp only
      rw [Analysis.lift_bind_apply]
      cases given (typeOf? context.lookup base s).1 with
      | some type => exact read.trans (recordAccess_extends (read.openCode.trans isOpen) _)
      | none => exact read

theorem openCode_of_openCode? {s : State} {code : String} (h : (openCode? s).1 = some code) :
    s.openCode = some code :=
  (given_eq_some h).1

theorem followAttribute_extends (context : Context) (value : Tree) (attr : String) :
    KeepingRun (Extends policy) (followAttribute context value attr) := by
  intro s
  unfold followAttribute
  rw [Analysis.lift_bind_apply]
  cases isOpen : (openCode? s).1 with
  | none => exact .refl
  | some code =>
    cases value with
    | name id => exact followAttributeOf_extends (openCode_of_openCode? isOpen) context _ _
    | _ => exact .refl

theorem followName_extends (context : Context) (name : String) :
    Keeping (Extends policy) (followName context name) := by
  intro s
  unfold followName
  rw [Tracking.bind_apply]
  cases isOpen : (openCode? s).1 with
  | some code => exact recordAccess_extends (openCode_of_openCode? isOpen) _
  | none => exact .refl

end Extends

end Usage

end CodeMap
