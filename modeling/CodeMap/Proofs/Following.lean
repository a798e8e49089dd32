/-
One step of the analysis, and many.

A step changes the scope as every reader of walks changes it (`follow_scope`), and whatever it
records, it records from the function that was open before it (`follow_recording`). Both hold up to
a fault. From there a run is followed: to its end (`followed?`), or as far as it comes.
-/

import CodeMap.Proofs.Recording
import CodeMap.Proofs.Scope

namespace CodeMap.Usage

open Source

/-- The names of what is open. -/
def State.scope (state : State) : Scope where
  openClass := state.openClass
  openCode := state.openCode

theorem Extends.scope_eq {policy : ExternalPolicy} {s t : State} (h : Extends policy s t) :
    t.scope = s.scope := by
  simp [State.scope, h.openClass, h.openCode]

theorem Reports.scope_eq {s t : State} (h : Reports s t) : t.scope = s.scope := by
  simp [State.scope, h.openClass, h.openCode]

/-! ### Steps of definitions -/

theorem given_eq_self {text : Option String} (h : text ≠ some "") : given text = text := by
  cases text with
  | none => rfl
  | some said =>
    have : said ≠ "" := fun empty => h (by rw [empty])
    simp [given, this]

theorem given_some {text : String} (named : text ≠ "") : given (some text) = some text :=
  given_eq_self (by simpa using named)

/-- The name of a function that is entered. -/
def State.nameOfFunction (state : State) (context : Context) (name : String) : String :=
  (given state.openClass).getD context.module ++ "." ++ name

/-- The state in which the parameters of a function are entered. -/
def State.inFunction (state : State) (unique : String) : State :=
  { state with
    model := state.model.note (.codeVisited unique)
    scopes := unique :: state.scopes
    openCode := some unique
    localTypes := ∅ }

/-- Entering a function enters its parameters in the state in which it has been opened. -/
theorem enterFunction_apply (context : Context) (name : String) (params : List Tree) (s : State) :
    let unique := s.nameOfFunction context name
    ∃ model locals, Reporting (s.inFunction unique).model model ∧
      (enterFunction context name params s).2 =
        { s.inFunction unique with
          model := model
          localTypes := locals
          parameterTypes :=
            (params.filterMap (s.hint? context)).foldl (giveType unique) s.parameterTypes } := by
  intro unique
  have same : (s.inFunction unique).hint? context = s.hint? context := by
    refine Reporting.hint?_eq (.note _ .refl) ?_ context
    rfl
  have run := enterParameters_apply context unique params (s.inFunction unique)
  rw [same] at run
  exact run

/-- Hands the type of a variable to the class, if it is an attribute of `self`. -/
def mergeType (entry : String × Option String) : Tracking Unit := do
  if isOwn entry.1 then
    setAttribute entry.1 entry.2
    note (.attributeMerged entry.1 (← get).openClass entry.2)

theorem leaveFunction_eq :
    leaveFunction = (do
      (← get).localTypes.entries.forM mergeType
      modify fun state => { state with
        localTypes := ∅
        scopes := state.scopes.tail
        openCode := none }) :=
  rfl

theorem mergeType_keeping {R : State → State → Prop} [Passing R] {entry : String × Option String}
    (setting : isOwn entry.1 = true → Keeping R (setAttribute entry.1 entry.2))
    (noting : ∀ event, Keeping R (note event)) : Keeping R (mergeType entry) := by
  unfold mergeType
  split
  · rename_i own
    exact (setting own).bind fun _ => Keeping.get.bind fun _ => noting _
  · exact .pure _

/-- Leaving a function reports the types that it hands to the class and closes the function. -/
theorem leaveFunction_apply (s : State) :
    ∃ merged, Reports s merged ∧
      leaveFunction s =
        ((), { merged with localTypes := ∅, scopes := merged.scopes.tail, openCode := none }) := by
  have merge (entry : String × Option String) : Keeping Reports (mergeType entry) :=
    mergeType_keeping (fun _ => setAttribute_reports _ _) note_reports
  rw [leaveFunction_eq]
  exact ⟨_, Keeping.forM merge s.localTypes.entries s, rfl⟩

/-! ### One step -/

/-- The scope after a step, for an open class of whatever name. -/
def State.nextScope (context : Context) (state : State) : Step → Scope
  | .enterFunction _ name _ =>
    { state.scope with openCode := some (state.nameOfFunction context name.text) }
  | step => state.scope.step context.module step

theorem State.nextScope_eq (context : Context) {s : State} (proper : s.scope.Proper)
    (step : Step) : s.nextScope context step = s.scope.step context.module step := by
  have named : given s.openClass = s.openClass := given_eq_self proper
  cases step with
  | enterFunction => simp [nextScope, Scope.step, State.scope, nameOfFunction, named]
  | _ => rfl

/-- A step changes the scope as every reader of walks changes it, also if it meets a fault. -/
theorem follow_scope (context : Context) (s : State) (step : Step) :
    (follow context step s).2.scope = s.nextScope context step := by
  cases step with
  | enterModule | leaveModule | enterClass | leaveClass => rfl
  | enterFunction position name params =>
    obtain ⟨model, locals, -, run⟩ := enterFunction_apply context name.text params s
    change State.scope (enterFunction context name.text params s).2 = _
    rw [run]
    rfl
  | leaveFunction =>
    obtain ⟨merged, reports, run⟩ := leaveFunction_apply s
    change State.scope (leaveFunction s).2 = _
    simp [run, State.nextScope, State.scope, Scope.step, reports.openClass]
  | assign position targets value =>
    exact (followAssignment_extends context targets value s).scope_eq
  | importNames aliases =>
    exact (followImport_reports context aliases s).scope_eq
  | importFrom module aliases =>
    exact (followImportFrom_reports context module aliases s).scope_eq
  | call func args => exact (followCall_extends context func args s).scope_eq
  | «attribute» value attr =>
    have accessed : Extends context.externals s _ :=
      followAttribute_extends context value attr.text s
    exact accessed.scope_eq
  | name id =>
    have accessed : Extends context.externals s _ := followName_extends context id.text s
    exact accessed.scope_eq

/-- Whatever a step records, it records from the function that was open before it. -/
theorem follow_recording (context : Context) (s : State) (step : Step) :
    Recording context.externals s.openCode s.model (follow context step s).2.model := by
  cases step with
  | enterModule => exact .note _ .refl
  | leaveModule | leaveClass => exact .refl
  | enterClass => exact .note _ .refl
  | enterFunction position name params =>
    obtain ⟨model, locals, reporting, run⟩ := enterFunction_apply context name.text params s
    change Recording _ _ _ (enterFunction context name.text params s).2.model
    rw [run]
    exact (Recording.note _ .refl).trans reporting.recording
  | leaveFunction =>
    obtain ⟨merged, reports, run⟩ := leaveFunction_apply s
    change Recording _ _ _ (leaveFunction s).2.model
    rw [run]
    exact reports.reporting.recording
  | assign position targets value =>
    exact (followAssignment_extends context targets value s).recording
  | importNames aliases => exact (followImport_reports context aliases s).reporting.recording
  | importFrom module aliases =>
    exact (followImportFrom_reports context module aliases s).reporting.recording
  | call func args => exact (followCall_extends context func args s).recording
  | «attribute» value attr => exact (followAttribute_extends context value attr.text s).recording
  | name id => exact (followName_extends context id.text s).recording

/-! ### Runs that come to their end -/

theorem followAll_cons_apply (context : Context) (step : Step) (steps : List Step) (s : State) :
    followAll context (step :: steps) s =
      match follow context step s with
      | (.ok _, t) => followAll context steps t
      | (.error fault, t) => (.error fault, t) := by
  rw [followAll, KeepingRun.bind_apply]
  rcases follow context step s with ⟨result, t⟩
  cases result <;> rfl

/-- The state after following steps, unless a fault stops the analysis. -/
def followed? (context : Context) (steps : List Step) (state : State) : Option State :=
  match (followAll context steps).run state with
  | (.ok _, after) => some after
  | (.error _, _) => none

theorem followed?_nil (context : Context) (s : State) : followed? context [] s = some s := rfl

theorem followed?_cons (context : Context) (step : Step) (steps : List Step) (s : State) :
    followed? context (step :: steps) s =
      match follow context step s with
      | (.ok _, t) => followed? context steps t
      | (.error _, _) => none := by
  unfold followed? ExceptT.run
  rw [followAll_cons_apply]
  rcases follow context step s with ⟨result, t⟩
  cases result <;> rfl

theorem followed?_append (context : Context) (xs ys : List Step) (s : State) :
    followed? context (xs ++ ys) s = (followed? context xs s).bind (followed? context ys) := by
  induction xs generalizing s with
  | nil => rfl
  | cons step xs ih =>
    rw [List.cons_append, followed?_cons, followed?_cons]
    rcases follow context step s with ⟨result, t⟩
    cases result with
    | ok _ => exact ih t
    | error _ => rfl

theorem eq_of_followed?_single {context : Context} {step : Step} {s t : State}
    (h : followed? context [step] s = some t) : t = (follow context step s).2 := by
  rw [followed?_cons] at h
  rcases hrun : follow context step s with ⟨result, after⟩
  rw [hrun] at h
  cases result with
  | ok _ => exact (Option.some.inj h).symm
  | error _ => cases h

/-- The analysis as a reader of walks. -/
def reader (context : Context) : Reader State String where
  module := context.module
  read := followed? context
  opened sort state := state.scope.opened sort
  name := id
  read_nil := followed?_nil context
  read_append := followed?_append context
  entering {sort step s t} enters h := by
    rw [eq_of_followed?_single h, follow_scope]
    cases sort <;> cases step <;> simp_all [Step.enters, Scope.opened, State.nextScope, Scope.step]
  leaving {sort step s t} leaves h := by
    rw [eq_of_followed?_single h, follow_scope]
    cases sort <;> cases step <;> simp_all [Step.leaves, Scope.opened, State.nextScope, Scope.step]
  passing {sort step s t} quiet quiet' h := by
    rw [eq_of_followed?_single h, follow_scope]
    cases sort <;> cases step <;>
      simp_all [Step.enters, Step.leaves, Scope.opened, State.nextScope, Scope.step]
  naming {step s t} proper h := by
    have proper : s.scope.Proper := by simpa [Scope.Proper, Scope.opened] using proper
    have named := (follow_scope context s step).trans (State.nextScope_eq context proper step)
    rw [← eq_of_followed?_single h] at named
    simpa [Scope.opened] using named

end CodeMap.Usage
