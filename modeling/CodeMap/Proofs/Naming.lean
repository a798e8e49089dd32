/-
The names that the two passes over a file give to its definitions.

The collection of definitions makes an element for each class and each function that it enters, and
the analysis of usages takes their names to be open; each pass makes up the names by itself. Main
statement: both give the same names in the same order, as far as the analysis comes, so that what
the analysis takes to be open has always been entered (`names_agree`).
-/

import CodeMap.Proofs.Passes

namespace CodeMap

open Source

namespace Source

/-- The sort of the definition that a step enters. -/
def Step.sort? : Step → Option ScopeSort
  | .enterClass .. => some .classes
  | .enterFunction .. => some .functions
  | _ => none

/-- The name of the definition that a step has entered, as the scope after the step tells it. -/
def Scope.nameGiven (scope : Scope) (step : Step) : Option String :=
  step.sort?.bind scope.opened

/-- The names of the definitions along a walk. -/
def namesAlong (module : String) : Scope → List Step → List String
  | _, [] => []
  | scope, step :: steps =>
    ((scope.step module step).nameGiven step).toList ++
      namesAlong module (scope.step module step) steps

/-- What is open has been named on the way, unless it was open from the start. -/
theorem mem_namesAlong_of_opened {module name : String} {scope : Scope} {steps : List Step}
    {sort : ScopeSort} (isOpen : (steps.foldl (Scope.step module) scope).opened sort = some name) :
    scope.opened sort = some name ∨ name ∈ namesAlong module scope steps := by
  induction steps generalizing scope with
  | nil => exact .inl isOpen
  | cons step steps ih =>
    rcases ih isOpen with before | later
    · by_cases enters : step.sort? = some sort
      · refine .inr (List.mem_append_left _ ?_)
        simp [Scope.nameGiven, enters, before]
      · -- The step may have closed the sort, but it has not opened it.
        left
        cases sort <;> cases step <;>
          simp_all [Step.sort?, Scope.opened, Scope.step]
    · exact .inr (List.mem_append_right _ later)

theorem mem_definitionsAlong_of_mem_namesAlong {module name : String} {scope : Scope}
    {steps : List Step} (named : name ∈ namesAlong module scope steps) :
    ∃ kind, (name, kind) ∈ Definitions.definitionsAlong module scope steps := by
  induction steps generalizing scope with
  | nil => cases named
  | cons step steps ih =>
    rcases List.mem_append.mp named with now | later
    · refine (?_ : ∃ kind, _ ∈ (Definitions.definedBy module scope step).toList).imp
        fun kind => List.mem_append_left _
      cases step <;>
        simp_all [Scope.nameGiven, Step.sort?, Scope.opened, Scope.step, Definitions.definedBy]
    · obtain ⟨kind, defined⟩ := ih later
      exact ⟨kind, List.mem_append_right _ defined⟩

namespace Reader

variable {σ α : Type} (reader : Reader σ α)

/-- The names that a reader gives to the definitions it enters, as far as it comes. -/
def names : List Step → σ → List String
  | [], _ => []
  | step :: steps, s =>
    match reader.read [step] s with
    | some t => ((reader.scope t).nameGiven step).toList ++ names steps t
    | none => []

/-- Names depend on the walk alone, not on who reads it. -/
theorem names_isPrefix {s : σ} (proper : (reader.scope s).Proper) (steps : List Step) :
    reader.names steps s <+: namesAlong reader.module (reader.scope s) steps := by
  induction steps generalizing s with
  | nil => exact List.prefix_rfl
  | cons step steps ih =>
    rw [names]
    cases read : reader.read [step] s with
    | none => exact List.nil_prefix
    | some t =>
      have moved : reader.scope t = (reader.scope s).step reader.module step :=
        reader.naming proper read
      have rest := ih (moved ▸ proper.step reader.module step)
      rw [namesAlong, ← moved]
      exact (List.prefix_append_right_inj _).mpr rest

/-- A reader that comes to the end has named all definitions. -/
theorem names_eq {s t : σ} (proper : (reader.scope s).Proper) {steps : List Step}
    (h : reader.read steps s = some t) :
    reader.names steps s = namesAlong reader.module (reader.scope s) steps := by
  induction steps generalizing s with
  | nil => rfl
  | cons step steps ih =>
    obtain ⟨middle, first, rest⟩ := reader.exists_of_read_cons h
    have moved : reader.scope middle = (reader.scope s).step reader.module step :=
      reader.naming proper first
    rw [names, first, namesAlong, ← moved]
    exact congrArg _ (ih (moved ▸ proper.step reader.module step) rest)

end Reader

end Source

/-! ### What the analysis takes to be open -/

/-- A run changes the scope by the steps that it takes, the one that meets a fault included. -/
theorem Usage.followAll_scope (context : Usage.Context) (steps : List Step) {s : Usage.State}
    (proper : s.scope.Proper) :
    ∃ taken, taken <+: steps ∧ (Usage.followAll context steps s).2.scope =
      taken.foldl (Scope.step context.module) s.scope := by
  induction steps generalizing s with
  | nil => exact ⟨[], List.prefix_rfl, rfl⟩
  | cons step steps ih =>
    have moved := (follow_scope context s step).trans (s.nextScope_eq context proper step)
    rw [followAll_cons_apply]
    generalize follow context step s = run at moved ⊢
    obtain ⟨result, t⟩ := run
    cases result with
    | error fault => exact ⟨[step], by simp, moved⟩
    | ok _ =>
      obtain ⟨taken, part, scope⟩ := ih (moved ▸ proper.step context.module step)
      refine ⟨step :: taken, by simpa using part, ?_⟩
      rw [List.foldl_cons, ← moved]
      exact scope

/-- Wherever an analysis has come in a file, the class and the function that it takes to be open are
among the definitions of the file. -/
theorem ReadFile.mem_definitions_of_opened {file : ReadFile} {trees : List Tree}
    (read : file.trees = .ok trees) {steps : List Step} (part : steps <+: walkModule trees)
    {policy : Usage.ExternalPolicy} {model : Model} {sort : ScopeSort} {name : String}
    (isOpen : (Usage.followAll { module := file.place.module, externals := policy } steps
      { model := model }).2.scope.opened sort = some name) :
    ∃ kind, (name, kind) ∈ file.definitions := by
  obtain ⟨taken, first, scope⟩ := Usage.followAll_scope
    { module := file.place.module, externals := policy } steps (s := { model := model })
    (by simp [Usage.State.scope, Scope.Proper])
  obtain ⟨later, walk⟩ := first.trans part
  rw [scope] at isOpen
  rcases mem_namesAlong_of_opened isOpen with before | named
  · cases sort <;> cases before
  · obtain ⟨kind, defined⟩ := mem_definitionsAlong_of_mem_namesAlong named
    refine ⟨kind, ?_⟩
    simp only [ReadFile.definitions, read, ← walk, Definitions.definitionsAlong_append]
    exact List.mem_append_left _ defined

/-- The collection of definitions and the analysis of usages give the same names to the classes and
functions of a module, in the same order: the analysis as far as it comes, and all of them if it
meets no fault. Wherever the analysis of a file of a project has come, also at a fault, the class
and the function that it takes to be open are among the elements that the first pass has entered. -/
theorem names_agree :
    (∀ (file : Definitions.File) (policy : Usage.ExternalPolicy) (model before : Model)
      (types : Usage.ParameterTypes) (body : List Tree),
      let analyzer := Usage.reader { module := file.module, externals := policy }
      let atFirst : Usage.State := { model := model, parameterTypes := types }
      let given := analyzer.names (walkModule body) atFirst
      let wanted := (Definitions.reader file).names (walkModule body) { model := before }
      given <+: wanted ∧ ((analyzer.read (walkModule body) atFirst).isSome = true →
        given = wanted)) ∧
      ∀ (project : Project), ∀ file ∈ project.readFiles, ∀ trees, file.trees = .ok trees →
        ∀ (model : Model) (steps : List Step), steps <+: walkModule trees →
          let run := Usage.followAll { module := file.place.module } steps { model := model }
          ∀ sort name, run.2.scope.opened sort = some name →
            name ∈ (Extraction.collectAll {} project.readFiles).elements.keys := by
  constructor
  · intro file policy model before types body analyzer atFirst given wanted
    let collector := Definitions.reader file
    have proper : (analyzer.scope atFirst).Proper := by
      simp [Scope.Proper, Reader.scope, analyzer, Usage.reader, Usage.State.scope, Scope.opened,
        atFirst]
    have collected : wanted = namesAlong file.module {} (walkModule body) :=
      collector.names_eq (t := (walkModule body).foldl (Definitions.State.step file) _)
        (by simp [Scope.Proper, Reader.scope, collector, Definitions.reader,
          Definitions.State.opened]) rfl
    have scope : analyzer.scope atFirst = {} := rfl
    refine ⟨?_, fun finished => ?_⟩
    · rw [collected, ← scope]
      exact analyzer.names_isPrefix proper (walkModule body)
    · obtain ⟨after, read⟩ := Option.isSome_iff_exists.mp finished
      rw [collected, ← scope]
      exact analyzer.names_eq proper read
  · intro project file member trees read model steps part run sort name isOpen
    obtain ⟨kind, defined⟩ := ReadFile.mem_definitions_of_opened read part isOpen
    obtain ⟨entered, collecting, listed⟩ := Extraction.collectAll_collecting {} project.readFiles
    have listedThere : (name, kind) ∈ Definitions.definitionsOf entered :=
      listed ▸ List.mem_flatMap.mpr ⟨file, member, defined⟩
    exact collecting.mem_keys_of_definition listedThere

end CodeMap
