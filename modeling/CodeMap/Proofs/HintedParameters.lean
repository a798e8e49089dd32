/-
Calls on parameters with a hint.

When a function is entered, a parameter whose hint names a class is given this class as its type.
All that the analysis does until the function is left keeps the type, unless the name is assigned or
another function is entered, and keeps what the methods of the class stand for (`Bound`). Main
statement: every call of a method on such a parameter is recorded as a call of the method of the
class, wherever in the function it stands (`hinted_calls_recorded`).
-/

import CodeMap.Proofs.MemberCalls
import CodeMap.Proofs.Variables

namespace CodeMap

open Source

/-! ### Models that come about -/

/-- The models that come about by reporting events, collecting files and following steps, in any
order and from any state. -/
inductive Model.Made : Model → Prop where
  | empty : Made {}
  | note {model : Model} (event : Event) : Made model → Made (model.note event)
  | collect {model : Model} (file : Definitions.File) (body : List Tree) :
      Made model → Made (Definitions.collect model file body)
  | follow {state : Usage.State} (context : Usage.Context) (steps : List Step) :
      Made state.model → Made (Usage.followAll context steps state).2.model

/-- All that names stand for has a unique name. -/
def Model.Named (model : Model) : Prop :=
  ∀ name element, model.symbol? name = some element → element.uniqueName ≠ ""

theorem Model.Named.enterMember {model : Model} (named : model.Named) (parent : Option Element)
    {element : Element} (own : element.uniqueName ≠ "") (short : String) :
    (model.enterMember parent element short).Named := by
  intro name found stands
  rw [Model.symbol?, Model.enterMember_symbols, Table.get?_insert, Table.get?_insert] at stands
  split at stands
  · exact Option.some.inj stands ▸ own
  · split at stands
    · exact Option.some.inj stands ▸ own
    · exact named name found stands

namespace Definitions.State

variable {state : State} (file : File)

theorem named_defineAttribute (named : state.model.Named) (position : Position) (owner : Element)
    (attr : String) : (state.defineAttribute file position owner attr).model.Named := by
  rcases defineAttribute_eq file state position owner attr with ⟨-, same⟩ | ⟨element, short,
    collected, mapped, -, own, -, changed⟩
  · rw [same]
    exact named
  · rw [changed]
    exact named.enterMember (some owner) (own ▸ Text.Dotted.append_dot_ne_empty _ _) short

theorem named_defineAttributes (named : state.model.Named) (position : Position) (owner : Element)
    (attrs : List String) :
    (attrs.foldl (fun state attr => state.defineAttribute file position owner attr)
      state).model.Named := by
  induction attrs generalizing state with
  | nil => exact named
  | cons attr attrs ih => exact ih (named_defineAttribute file named position owner attr)

theorem named_step (named : state.model.Named) (step : Step) :
    (state.step file step).model.Named := by
  cases step with
  | enterClass position name =>
    rw [State.step, State.enterClass, define_eq]
    exact named.enterMember state.scopes.head? (Text.Dotted.append_dot_ne_empty _ _) _
  | enterFunction position name params =>
    obtain ⟨element, short, event, own, -, -, changed⟩ :=
      enterFunction_eq file state position name.text params
    rw [State.step, changed, define_eq]
    exact named.enterMember state.scopes.head? (own ▸ Text.Dotted.append_dot_ne_empty _ _) short
  | assign position targets value =>
    rw [State.step, State.assign]
    split
    · exact named_defineAttributes file named position _ _
    · exact named
  | _ => exact named

end Definitions.State

theorem Model.Made.named {model : Model} (made : model.Made) : model.Named := by
  induction made with
  | empty =>
    intro name element stands
    cases stands
  | note _ _ named => exact named
  | @collect model file body _ named =>
    have steps (state : Definitions.State) (named : state.model.Named) (walk : List Step) :
        (walk.foldl (Definitions.State.step file) state).model.Named := by
      induction walk generalizing state with
      | nil => exact named
      | cons step walk ih => exact ih _ (Definitions.State.named_step file named step)
    exact steps { model := model } named (walkModule body)
  | @follow state context steps _ named =>
    intro name element stands
    have widened := Usage.followAll_widening context steps state
    rcases widened.new stands with earlier | ⟨isForeign, -, same⟩
    · exact named name element earlier
    · rw [same]
      rintro rfl
      exact absurd isForeign (by decide)

namespace Usage

/-! ### Entering parameters -/

/-- A hint gives the parameter the class that it names. -/
theorem enterParameter_hinted (context : Context) (code : String) {s : State} {id : Identifier}
    {hint : Tree} {element : Element}
    (hinted : s.class? context (annotationName? hint) = some element) :
    (enterParameter context code (.typedParam id hint) s).2.localTypes.get? id.text =
      some (some element.uniqueName) := by
  change (followHint context code id.text hint s).2.localTypes.get? id.text = _
  unfold followHint
  cases named : annotationName? hint with
  | none => simp [named, State.class?, given] at hinted
  | some name =>
    obtain ⟨model, -, run⟩ := classOf?_apply context (some name) s
    rw [named] at hinted
    dsimp only
    rw [Tracking.bind_apply, run, hinted]
    exact Table.get?_insert_self _ _ _

theorem forM_append_apply {α : Type} (f : α → Tracking PUnit) (xs ys : List α) (s : State) :
    ((xs ++ ys).forM f s).2 = (ys.forM f (xs.forM f s).2).2 := by
  induction xs generalizing s with
  | nil => rfl
  | cons x xs ih => exact ih (f x s).2

/-- In a function, a parameter that occurs once has the class that its hint names. -/
theorem enterFunction_hinted (context : Context) (name : String) {params : List Tree} {s : State}
    {id : Identifier} {hint : Tree} {element : Element}
    (once : params.filter (·.paramName? = some id) = [.typedParam id hint])
    (hinted : s.class? context (annotationName? hint) = some element) :
    (enterFunction context name params s).2.localTypes.get? id.text =
      some (some element.uniqueName) := by
  obtain ⟨before, after, rfl, -, -, others⟩ := List.filter_eq_cons_iff.mp once
  let unique := s.nameOfFunction context name
  change ((before ++ .typedParam id hint :: after).forM (enterParameter context unique)
    (s.inFunction unique)).2.localTypes.get? id.text = _
  rw [forM_append_apply]
  -- The parameters before this one change neither the imports nor what names stand for.
  obtain ⟨model, locals, reporting, run⟩ :=
    enterParameters_apply context unique before (s.inFunction unique)
  generalize (before.forM (enterParameter context unique) (s.inFunction unique)).2 = u at run ⊢
  have same : u.class? context (annotationName? hint) = some element := by
    rw [← hinted, run]
    refine Reporting.class?_eq ?_ ?_ context _
    · exact (Reporting.note _ .refl).trans reporting
    · rfl
  have later : ∀ tree ∈ after, ∀ other, tree.paramName? = some other → other.text ≠ id.text := by
    intro tree member other named sameText
    rw [Identifier.eq_of_text sameText] at named
    exact List.filter_eq_nil_iff.mp others tree member (decide_eq_true named)
  have kept := enterParameters_sameType context unique later
    (enterParameter context unique (.typedParam id hint) u).2
  exact kept.localType.trans (enterParameter_hinted context unique same)

/-! ### In the function -/

/-- In the function `code`, a variable is of a type, and a name stands for an element. -/
structure Bound (code var type name : String) (element : Element) (state : State) : Prop where
  openCode : state.openCode = some code
  typed : state.localTypes.get? var = some (some type)
  stands : state.model.symbol? name = some element

variable (context : Context) {s t : State} {code var type name : String} {element : Element}

theorem Bound.follow (bound : Bound code var type name element s) {step : Step}
    (plain : step.enters .functions = false ∧ step.leaves .functions = false)
    (unassigned : var ∉ assignedBy step) :
    Bound code var type name element (follow context step s).2 where
  openCode := by
    have scope := congrArg Scope.openCode (follow_scope context s step)
    refine scope.trans ?_
    rw [← bound.openCode]
    cases step with
    | enterFunction => cases plain.1
    | leaveFunction => cases plain.2
    | _ => rfl
  typed := (follow_localType context s unassigned plain).trans bound.typed
  stands := (follow_recording context s step).widens.kept bound.stands

theorem Bound.followed {steps : List Step} (bound : Bound code var type name element s)
    (plain : ∀ step ∈ steps, step.enters .functions = false ∧ step.leaves .functions = false)
    (unassigned : ∀ step ∈ steps, var ∉ assignedBy step)
    (run : followed? context steps s = some t) : Bound code var type name element t := by
  induction steps generalizing s with
  | nil => exact Option.some.inj run ▸ bound
  | cons step steps ih =>
    have next := bound.follow context (plain step List.mem_cons_self)
      (unassigned step List.mem_cons_self)
    exact ih next (fun other member => plain other (List.mem_cons_of_mem _ member))
      (fun other member => unassigned other (List.mem_cons_of_mem _ member))
      (followed?_of_cons run)

/-- A run adds calls at the end. -/
theorem calls_of_followed? {steps : List Step} (run : followed? context steps s = some t) :
    ∃ new : Array Call, t.model.calls = s.model.calls ++ new := by
  induction steps generalizing s with
  | nil => exact ⟨#[], by simp [Option.some.inj run]⟩
  | cons step steps ih =>
    obtain ⟨own, added, -⟩ := (follow_recording context s step).calls_eq
    obtain ⟨others, later⟩ := ih (followed?_of_cons run)
    exact ⟨own ++ others, by rw [later, added, Array.append_assoc]⟩

/-- A call of a method on a variable of known type is recorded in the course of a run. -/
theorem Bound.records {id attr : Identifier} {steps : List Step}
    (bound : Bound code id.text type (type ++ "." ++ attr.text) element s) (open_ne : code ≠ "")
    (named : type ≠ "") (notSelf : id.text ≠ "self") (isCode : element.isCode = true)
    (plain : ∀ step ∈ steps, step.enters .functions = false ∧ step.leaves .functions = false)
    (unassigned : ∀ step ∈ steps, id.text ∉ assignedBy step) {arguments : List Tree}
    (called : Step.call (.attribute (.name id) attr) arguments ∈ steps)
    (run : followed? context steps s = some t) :
    ∃ new : Array Call, t.model.calls = s.model.calls ++ new ∧
      ⟨some code, element.uniqueName⟩ ∈ new := by
  obtain ⟨earlier, later, rfl⟩ := List.append_of_mem called
  obtain ⟨here, reaching, rest⟩ := exists_of_followed?_append run
  have there := bound.followed context
    (fun step member => plain step (List.mem_append_left _ member))
    (fun step member => unassigned step (List.mem_append_left _ member)) reaching
  obtain ⟨first, before⟩ := calls_of_followed? context reaching
  obtain ⟨others, own⟩ := followCall_typed context there.openCode open_ne notSelf there.typed named
    there.stands isCode arguments
  obtain ⟨last, after⟩ := calls_of_followed? context (followed?_of_cons rest)
  have own : (Usage.follow context (.call (.attribute (.name id) attr) arguments)
      here).2.model.calls =
        here.model.calls.push ⟨some code, element.uniqueName⟩ ++ others := own
  refine ⟨first.push ⟨some code, element.uniqueName⟩ ++ others ++ last, ?_, by simp⟩
  rw [after, own, before]
  simp

/-- A function whose parameter has a hint is entered with the type of the parameter known. -/
theorem enterFunction_bound {id : Identifier} {params : List Tree} {hint : Tree} {owner : Element}
    (position : Position) (function : Identifier)
    (once : params.filter (·.paramName? = some id) = [.typedParam id hint])
    (hinted : s.class? context (annotationName? hint) = some owner)
    (stands : s.model.symbol? name = some element) :
    Bound (s.nameOfFunction context function.text) id.text owner.uniqueName name element
      (follow context (.enterFunction position function params) s).2 where
  openCode := congrArg Scope.openCode (follow_scope context s _)
  typed := enterFunction_hinted context function.text once hinted
  stands := (follow_recording context s _).widens.kept stands

end Usage

/-- In a function without inner functions, let a parameter other than `self` occur once, with a hint
that names a class when the function is entered, and let no assignment have its name as a target.
If the analysis comes to the end of the function, then for every call of a method on the parameter,
wherever it stands, a call from the function to this method of the class has been recorded, provided
that the unique name of the method stood for code when the function was entered. -/
theorem hinted_calls_recorded (context : Usage.Context) {s t : Usage.State} (made : s.model.Made)
    (position : Position) (name : Identifier) (before params after : List Tree)
    (visit : Usage.followed? context (Tree.functionDef position name before params after).walk s =
      some t)
    (noFunction : (before ++ params ++ after).any (·.defines .functions) = false)
    {id : Identifier} {hint : Tree} {owner : Element} (notSelf : id.text ≠ "self")
    (once : params.filter (·.paramName? = some id) = [.typedParam id hint])
    (hinted : (Usage.classOf? context (Usage.annotationName? hint) s).1 = some owner)
    (unassigned : ∀ position targets value,
      Step.assign position targets value ∈ walkAll (before ++ params ++ after) →
        Tree.name id ∉ targets)
    {attr : Identifier} {arguments : List Tree}
    (called : Step.call (.attribute (.name id) attr) arguments ∈
      walkAll (before ++ params ++ after))
    {element : Element}
    (stands : s.model.symbol? (owner.uniqueName ++ "." ++ attr.text) = some element)
    (isCode : element.isCode = true) :
    ∃ new : Array Call, t.model.calls = s.model.calls ++ new ∧
      ⟨some (s.nameOfFunction context name.text), element.uniqueName⟩ ∈ new := by
  let parts := before ++ params ++ after
  have plain := steps_of_none_defines noFunction
  have untouched : ∀ step ∈ walkAll parts, id.text ∉ Usage.assignedBy step := by
    intro step taken assigned
    cases step with
    | assign position targets value =>
      exact unassigned position targets value taken (Usage.name_mem_of_assigned assigned)
    | _ => cases assigned
  rw [Usage.classOf?_fst] at hinted
  have ownerNamed : owner.uniqueName ≠ "" := by
    obtain ⟨said, -, found⟩ := Option.bind_eq_some_iff.mp hinted
    exact made.named _ owner (Option.filter_eq_some_iff.mp found).1
  rw [Tree.walk_eq] at visit
  obtain ⟨inner, visit, leaving⟩ := Usage.exists_of_followed?_append visit
  obtain ⟨entered, entering, inside⟩ := Usage.exists_of_followed?_append visit
  have bound := Usage.enterFunction_bound context position name once hinted stands
  rw [← Usage.eq_of_followed?_single entering] at bound
  obtain ⟨first, atFirst⟩ := Usage.calls_of_followed? context entering
  obtain ⟨new, recorded, member⟩ := bound.records context (Text.Dotted.append_dot_ne_empty _ _)
    ownerNamed notSelf isCode plain untouched called inside
  obtain ⟨last, atLast⟩ := Usage.calls_of_followed? context leaving
  refine ⟨first ++ new ++ last, ?_, by simp [member]⟩
  rw [atLast, recorded, atFirst]
  simp

/-- A class with a method. -/
def methodClass : Tree :=
  .classDef ⟨1, 0⟩ ⟨"C", rfl⟩
    [.functionDef ⟨2, 4⟩ ⟨"m", rfl⟩ [] [.param .self] []]

/-- A function that calls the method on its parameter. -/
def hintedFunction : Tree :=
  .functionDef ⟨5, 0⟩ ⟨"f", rfl⟩ []
    [.typedParam ⟨"x", rfl⟩ (.name ⟨"C", rfl⟩)]
    [.group [.call (.attribute (.name ⟨"x", rfl⟩) ⟨"m", rfl⟩) [] []]]

/-- The call on the parameter is recorded as a call of the method of the class. -/
theorem hinted_call_recorded :
    let s : Usage.State :=
      { model := Definitions.collect {} ⟨"m.py", "/m.py", "m"⟩ [methodClass, hintedFunction] }
    ∃ t, Usage.followed? { module := "m" } hintedFunction.walk s = some t ∧
      ∃ new : Array Call, t.model.calls = s.model.calls ++ new ∧ ⟨some "m.f", "m.C.m"⟩ ∈ new := by
  intro s
  have finished : (Usage.followed? { module := "m" } hintedFunction.walk s).isSome = true := by
    decide +kernel
  obtain ⟨t, visit⟩ := Option.isSome_iff_exists.mp finished
  have made : s.model.Made := .collect _ _ .empty
  have hinted : (Usage.classOf? { module := "m" }
      (Usage.annotationName? (.name ⟨"C", rfl⟩)) s).1 =
        some ⟨1, "C", "m.C", .classDefinition, some "vscode://file//m.py/:1:1"⟩ := by
    decide +kernel
  have stands : s.model.symbol? "m.C.m" =
      some ⟨2, "m", "m.C.m", .method ["self"], some "vscode://file//m.py/:2:5"⟩ := by
    decide +kernel
  have called : Step.call (.attribute (.name ⟨"x", rfl⟩) ⟨"m", rfl⟩) [] ∈
      walkAll hintedFunction.parts := by
    simp [hintedFunction, Tree.parts, walkAll, Tree.walk]
  have unassigned : ∀ position targets value,
      Step.assign position targets value ∈ walkAll hintedFunction.parts →
        Tree.name ⟨"x", rfl⟩ ∉ targets := by
    simp [hintedFunction, Tree.parts, walkAll, Tree.walk]
  exact ⟨t, visit, hinted_calls_recorded { module := "m" } made ⟨5, 0⟩ _ _ _ _ visit (by decide)
    (by decide) rfl hinted unassigned called stands rfl⟩

end CodeMap
