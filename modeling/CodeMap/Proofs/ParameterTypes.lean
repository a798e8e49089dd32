/-
Types of parameters, and parameters without any.

A call gives entries to all parameters of the called function at once, and a hint gives one to its
own parameter alone. So a function that is entered before it is called may have entries for some of
its parameters and lack them for others (`Lacks`). Main statement: a parameter is lacking if
entering its function has left it out and no hint has made up for it since, and a call meets the
fault that a parameter is unknown for no other parameters (`lacking_parameters`). Both can happen
(`partlyHinted_stops`).
-/

import CodeMap.Proofs.Foreign

namespace CodeMap.Usage

open Source

/-! ### Parameters without types -/

/-- The function has entries in the types of parameters, and this parameter of it has none. -/
def Lacks (declared : String → List String) (types : ParameterTypes) (code parameter : String) :
    Prop :=
  parameter ∈ declared code ∧ ∃ known ∈ types.get? code, known.get? parameter = none

instance (declared : String → List String) (types : ParameterTypes) (code parameter : String) :
    Decidable (Lacks declared types code parameter) :=
  inferInstanceAs (Decidable (_ ∧ _))

section Filling

variable {declared : String → List String} {types after : ParameterTypes} {code parameter : String}

/-- Calls give entries to all parameters of a function or to none. -/
theorem Filling.lacks_iff (h : Filling declared types after) :
    Lacks declared after code parameter ↔ Lacks declared types code parameter := by
  induction h with
  | refl => rfl
  | @opens after called _ fresh ih =>
    rw [← ih, Lacks, Lacks, Table.get?_insert]
    refine and_congr_right fun listed => ?_
    split
    · rename_i same
      subst same
      -- The first entries of a function are made from the list of its parameters.
      have entered : parameter ∈ (Table.ofList ((declared called).map fun parameter =>
          (parameter, (∅ : TypeSet)))).keys := by
        refine (@Table.mem_keys_insertAll _ ∅ _ _).mpr (.inr ?_)
        simpa using listed
      obtain ⟨set, found⟩ := Table.mem_keys_iff.mp entered
      simp [found, fresh]
    · rfl
  | @adds after called other type known set _ isKnown listed ih =>
    rw [← ih, Lacks, Lacks, Table.get?_insert]
    refine and_congr_right fun _ => ?_
    split
    · rename_i same
      subst same
      by_cases same : other = parameter
      · subst same
        simp [isKnown, listed]
      · simp [isKnown, Table.get?_insert_of_ne _ _ same]
    · rfl

theorem Filling.isSome (h : Filling declared types after) (known : (types.get? code).isSome) :
    (after.get? code).isSome := by
  induction h with
  | refl => exact known
  | opens _ _ ih | adds _ _ _ ih =>
    rw [Table.get?_insert]
    split
    · rfl
    · exact ih

/-- Hints leave out the other parameters of a function that has no entries. -/
theorem lacks_giveType_iff (hints : List (String × String)) :
    Lacks declared (hints.foldl (giveType code) types) code parameter ↔
      parameter ∉ hints.map Prod.fst ∧ (Lacks declared types code parameter ∨
        parameter ∈ declared code ∧ types.get? code = none ∧ hints ≠ []) := by
  induction hints generalizing types with
  | nil => simp
  | cons hint hints ih =>
    rw [List.foldl_cons, ih, Lacks, Lacks, giveType, Table.get?_insert_self]
    by_cases same : hint.1 = parameter
    · simp [same]
    · cases types.get? code with
      | none => simp +contextual [Table.get?_insert_of_ne _ _ same, Ne.symm same]
      | some known => simp [Table.get?_insert_of_ne _ _ same, Ne.symm same]

theorem get?_giveType_of_ne {other : String} (h : code ≠ other) (hints : List (String × String)) :
    (hints.foldl (giveType code) types).get? other = types.get? other := by
  induction hints generalizing types with
  | nil => rfl
  | cons hint hints ih => rw [List.foldl_cons, ih, giveType, Table.get?_insert_of_ne _ _ h]

end Filling

/-- The parameter is lacking in the state. -/
def State.Lacks (state : State) (code parameter : String) : Prop :=
  Usage.Lacks state.model.parametersOf state.parameterTypes code parameter

instance (state : State) (code parameter : String) : Decidable (state.Lacks code parameter) :=
  inferInstanceAs (Decidable (Usage.Lacks _ _ _ _))

/-! ### One step -/

/-- The parameters to which a step gives types by hints, with their function. -/
def State.hinted (state : State) (context : Context) : Step → List (String × String)
  | .enterFunction _ name params =>
    (params.filterMap (state.hint? context)).map fun hint =>
      (state.nameOfFunction context name.text, hint.1)
  | _ => []

/-- A step in the state in which it is followed. -/
structure Visit where
  state : State
  step : Step

def Visit.hinted (context : Context) (visit : Visit) : List (String × String) :=
  visit.state.hinted context visit.step

/-- The step gives the first types to parameters of the function, and none to this parameter. -/
structure Visit.LeavesOut (context : Context) (visit : Visit) (code parameter : String) : Prop where
  unknown : visit.state.parameterTypes.get? code = none
  others : ∃ other, (code, other) ∈ visit.hinted context
  unhinted : (code, parameter) ∉ visit.hinted context

/-- All steps but entering a function treat types of parameters as calls do. -/
theorem follow_filling (context : Context) (s : State) {step : Step}
    (inside : ∀ position name params, step ≠ .enterFunction position name params) :
    Filling s.model.parametersOf s.parameterTypes (follow context step s).2.parameterTypes := by
  cases step with
  | enterModule | leaveModule | enterClass | leaveClass => exact .refl
  | enterFunction position name params => exact absurd rfl (inside position name params)
  | leaveFunction =>
    obtain ⟨merged, reports, run⟩ := leaveFunction_apply s
    change Filling _ _ (leaveFunction s).2.parameterTypes
    rw [run]
    exact reports.parameterTypes ▸ .refl
  | assign position targets value =>
    exact (followAssignment_extends context targets value s).filling
  | importNames aliases => exact (followImport_reports context aliases s).parameterTypes ▸ .refl
  | importFrom module aliases =>
    exact (followImportFrom_reports context module aliases s).parameterTypes ▸ .refl
  | call func args => exact (followCall_extends context func args s).filling
  | «attribute» value attr =>
    have accessed : Extends context.externals s _ :=
      followAttribute_extends context value attr.text s
    exact accessed.filling
  | name id =>
    have accessed : Extends context.externals s _ := followName_extends context id.text s
    exact accessed.filling

theorem State.mem_hinted_iff {s : State} {context : Context} {position : Position}
    {name : Identifier} {params : List Tree} {code parameter : String} :
    (code, parameter) ∈ s.hinted context (.enterFunction position name params) ↔
      s.nameOfFunction context name.text = code ∧
        parameter ∈ (params.filterMap (s.hint? context)).map Prod.fst := by
  simp only [hinted, List.mem_map, Prod.mk.injEq]
  constructor
  · rintro ⟨hint, listed, rfl, rfl⟩
    exact ⟨rfl, hint, listed, rfl⟩
  · rintro ⟨rfl, hint, listed, rfl⟩
    exact ⟨hint, listed, rfl, rfl⟩

/-- Entering a function is all that brings up lacking parameters, or makes up for them. -/
theorem follow_lacks_iff (context : Context) (s : State) (step : Step) {code parameter : String} :
    (follow context step s).2.Lacks code parameter ↔
      (code, parameter) ∉ s.hinted context step ∧ s.Lacks code parameter ∨
        parameter ∈ s.model.parametersOf code ∧
          Visit.LeavesOut context ⟨s, step⟩ code parameter := by
  rw [State.Lacks, funext (follow_recording context s step).parametersOf_eq]
  by_cases enters : ∃ position name params, step = .enterFunction position name params
  · obtain ⟨position, name, params, rfl⟩ := enters
    obtain ⟨model, locals, -, run⟩ := enterFunction_apply context name.text params s
    change Lacks _ (enterFunction context name.text params s).2.parameterTypes _ _ ↔ _
    rw [run]
    by_cases same : s.nameOfFunction context name.text = code
    · subst same
      have own {other : String} :
          (s.nameOfFunction context name.text, other) ∈
              s.hinted context (.enterFunction position name params) ↔
            other ∈ (params.filterMap (s.hint? context)).map Prod.fst :=
        State.mem_hinted_iff.trans (and_iff_right rfl)
      have others : (∃ other, (s.nameOfFunction context name.text, other) ∈
          s.hinted context (.enterFunction position name params)) ↔
            params.filterMap (s.hint? context) ≠ [] := by
        simp only [own, ← List.isEmpty_eq_false_iff_exists_mem, List.isEmpty_map]
        exact List.isEmpty_eq_false_iff
      rw [lacks_giveType_iff, and_or_left, own]
      refine or_congr Iff.rfl ⟨?_, ?_⟩
      · rintro ⟨unhinted, declared, unknown, hints⟩
        exact ⟨declared, unknown, others.mpr hints, mt own.mp unhinted⟩
      · rintro ⟨declared, unknown, hints, unhinted⟩
        exact ⟨mt own.mpr unhinted, declared, unknown, others.mp hints⟩
    · have unhinted {other : String} :
          (code, other) ∉ s.hinted context (.enterFunction position name params) :=
        fun listed => same (State.mem_hinted_iff.mp listed).1
      rw [Lacks, get?_giveType_of_ne same]
      refine ⟨fun lacks => .inl ⟨unhinted, lacks⟩, ?_⟩
      rintro (⟨-, lacks⟩ | ⟨-, leaves⟩)
      · exact lacks
      · exact absurd leaves.others.choose_spec unhinted
  · have inside := fun position name params same => enters ⟨position, name, params, same⟩
    have unhinted : s.hinted context step = [] := by
      cases step with
      | enterFunction => exact absurd ⟨_, _, _, rfl⟩ enters
      | _ => rfl
    rw [(follow_filling context s inside).lacks_iff, unhinted]
    refine ⟨fun lacks => .inl ⟨List.not_mem_nil, lacks⟩, ?_⟩
    rintro (⟨-, lacks⟩ | ⟨-, leaves⟩)
    · exact lacks
    · obtain ⟨other, listed⟩ := leaves.others
      rw [Visit.hinted, unhinted] at listed
      cases listed

/-! ### Many steps -/

/-- The steps that are followed, up to a fault. -/
def visits (context : Context) : List Step → State → List Visit
  | [], _ => []
  | step :: steps, s =>
    ⟨s, step⟩ ::
      match follow context step s with
      | (.ok _, t) => visits context steps t
      | (.error _, _) => []

/-- At some visit the parameter is left out, and no later visit gives it a type. -/
def LeftOut (context : Context) (visited : List Visit) (code parameter : String) : Prop :=
  ∃ earlier visit later, visited = earlier ++ visit :: later ∧
    visit.LeavesOut context code parameter ∧ ∀ next ∈ later, (code, parameter) ∉ next.hinted context

theorem leftOut_cons_iff {context : Context} {visit : Visit} {later : List Visit}
    {code parameter : String} :
    LeftOut context (visit :: later) code parameter ↔
      visit.LeavesOut context code parameter ∧
          (∀ next ∈ later, (code, parameter) ∉ next.hinted context) ∨
        LeftOut context later code parameter := by
  constructor
  · rintro ⟨earlier, found, rest, same, leaves, unhinted⟩
    cases earlier with
    | nil =>
      cases same
      exact .inl ⟨leaves, unhinted⟩
    | cons first earlier =>
      cases same
      exact .inr ⟨earlier, found, rest, rfl, leaves, unhinted⟩
  · rintro (⟨leaves, unhinted⟩ | ⟨earlier, found, rest, rfl, leaves, unhinted⟩)
    · exact ⟨[], visit, later, rfl, leaves, unhinted⟩
    · exact ⟨visit :: earlier, found, rest, rfl, leaves, unhinted⟩

/-- A parameter is lacking after a run if it was lacking before or has been left out, and no hint
has made up for it since. -/
theorem followAll_lacks_iff (context : Context) (steps : List Step) (s : State)
    {code parameter : String} :
    (followAll context steps s).2.Lacks code parameter ↔
      (∀ visit ∈ visits context steps s, (code, parameter) ∉ visit.hinted context) ∧
          s.Lacks code parameter ∨
        parameter ∈ s.model.parametersOf code ∧
          LeftOut context (visits context steps s) code parameter := by
  induction steps generalizing s with
  | nil =>
    change s.Lacks code parameter ↔ _
    simp [visits, LeftOut]
  | cons step steps ih =>
    have one := @follow_lacks_iff context s step code parameter
    have same := (follow_recording context s step).parametersOf_eq code
    rw [followAll_cons_apply, visits]
    rcases run : follow context step s with ⟨result, t⟩
    rw [run] at one same
    -- A fault ends the run after the step, so the visits that follow are a parameter here.
    have join {rest : List Visit} {final : State}
        (later : final.Lacks code parameter ↔
          (∀ visit ∈ rest, (code, parameter) ∉ visit.hinted context) ∧ t.Lacks code parameter ∨
            parameter ∈ t.model.parametersOf code ∧ LeftOut context rest code parameter) :
        final.Lacks code parameter ↔
          (∀ visit ∈ ⟨s, step⟩ :: rest, (code, parameter) ∉ visit.hinted context) ∧
              s.Lacks code parameter ∨
            parameter ∈ s.model.parametersOf code ∧
              LeftOut context (⟨s, step⟩ :: rest) code parameter := by
      rw [later, one, same, List.forall_mem_cons, leftOut_cons_iff, Visit.hinted]
      grind
    cases result with
    | ok _ => exact join (ih t)
    | error _ => exact join (by simp [LeftOut])

/-! ### Faults -/

section Blames

variable {α β : Type} {context : Context} {s : State}

/-- If the function says that a parameter is unknown, the parameter is lacking. -/
def BlamesAt (x : Analysis α) (s : State) : Prop :=
  ∀ parameter, (x s).1 = .error (.unknownParameter parameter) →
    ∃ code, (x s).2.Lacks code parameter

namespace BlamesAt

theorem lift (x : Tracking α) : BlamesAt (liftM x) s := nofun

theorem pure (a : α) : BlamesAt (Pure.pure a) s := nofun

theorem throw {fault : Fault} (known : ∀ parameter, fault ≠ .unknownParameter parameter) :
    BlamesAt (MonadExcept.throw fault : Analysis α) s :=
  fun parameter same => absurd (Except.error.inj same) (known parameter)

theorem bind {x : Analysis α} {f : α → Analysis β} (hx : BlamesAt x s)
    (hf : ∀ a t, x s = (.ok a, t) → BlamesAt (f a) t) : BlamesAt (x >>= f) s := by
  intro parameter
  rw [KeepingRun.bind_apply]
  rcases run : x s with ⟨result, t⟩
  cases result with
  | ok a => exact hf a t run parameter
  | error fault =>
    have hx := hx parameter
    rw [run] at hx
    intro same
    cases same
    exact hx rfl

theorem after {x : Tracking α} {f : α → Analysis β} (hf : BlamesAt (f (x s).1) (x s).2) :
    BlamesAt (liftM x >>= f) s := hf

theorem get_bind {f : State → Analysis β} (hf : BlamesAt (f s) s) : BlamesAt (get >>= f) s := hf

theorem forM {f : α → Analysis PUnit} (hf : ∀ a t, BlamesAt (f a) t) (xs : List α) :
    BlamesAt (xs.forM f) s := by
  induction xs generalizing s with
  | nil => exact .pure _
  | cons a xs ih => exact (hf a s).bind fun _ _ _ => ih

end BlamesAt

theorem typeOfTree?_blames (tree : Tree) : BlamesAt (typeOfTree? context tree) s := by
  unfold typeOfTree?
  split
  · exact .lift _
  · exact .after (.after (.pure _))
  · exact .after (.after (.pure _))
  · split
    · exact .after (.pure _)
    · exact .throw nofun
  · split
    · exact .after (.pure _)
    · exact .throw nofun

/-- A function that has entries, and a parameter of it. -/
structure Expects (s : State) (code parameter : String) : Prop where
  declared : parameter ∈ s.model.parametersOf code
  known : (s.parameterTypes.get? code).isSome

theorem Extends.expects {policy : ExternalPolicy} {t : State} (h : Extends policy s t)
    {code parameter : String} (expects : Expects s code parameter) : Expects t code parameter where
  declared := h.recording.parametersOf_eq code ▸ expects.declared
  known := h.filling.isSome expects.known

theorem addParameterType_blames {code parameter : String} (expects : Expects s code parameter)
    (type : String) : BlamesAt (addParameterType code parameter type) s := by
  intro blamed
  obtain ⟨known, isKnown⟩ := Option.isSome_iff_exists.mp expects.known
  unfold addParameterType
  rw [KeepingRun.bind_apply, Analysis.get_apply]
  dsimp only
  rw [isKnown, Option.getD_some]
  cases missing : known.get? parameter with
  | some set => nofun
  | none =>
    rintro ⟨⟩
    exact ⟨code, expects.declared, known, isKnown, missing⟩

theorem inferArgument_blames {code parameter : String} (expects : Expects s code parameter)
    (argument : Tree) : BlamesAt (inferArgument context code argument parameter) s := by
  refine (typeOfTree?_blames argument).bind fun type t run => ?_
  have read : Extends context.externals s t := by
    have reached := typeOfTree?_extends context argument s
    rwa [run] at reached
  split
  · exact (addParameterType_blames (read.expects expects) _).bind fun _ _ _ => .lift _
  · exact .lift _

theorem inferEach_blames {code : String} {pairs : List (Tree × String)}
    (expects : ∀ pair ∈ pairs, Expects s code pair.2) :
    BlamesAt (pairs.forM fun pair => inferArgument context code pair.1 pair.2) s := by
  induction pairs generalizing s with
  | nil => exact .pure _
  | cons pair pairs ih =>
    refine (inferArgument_blames (expects pair List.mem_cons_self) pair.1).bind
      fun _ t run => ih fun other member => ?_
    have inferred : Extends context.externals s t := by
      have reached := inferArgument_extends context code pair.1 pair.2 s
      rwa [run] at reached
    exact inferred.expects (expects other (List.mem_cons_of_mem _ member))

theorem inferArguments_blames (code : String) (arguments : List Tree) :
    BlamesAt (inferArguments context code arguments) s := by
  unfold inferArguments
  refine .get_bind ?_
  split
  · exact .pure _
  · refine .after ?_
    rw [symbol?_apply]
    dsimp only
    cases found : (s.model.symbol? code).filter (·.isCode) with
    | none => exact .lift _
    | some element =>
      have declared : s.model.parametersOf code = element.parameters := by
        simp [Model.parametersOf, found]
      have each {t : State} (model : t.model = s.model)
          (known : (t.parameterTypes.get? code).isSome) :
          BlamesAt ((arguments.zip element.parameters).forM fun pair =>
            inferArgument context code pair.1 pair.2) t := by
        refine inferEach_blames fun pair member => ⟨?_, known⟩
        rw [model, declared]
        exact (List.of_mem_zip member).2
      dsimp only
      split
      · exact .after (.pure _)
      · refine .get_bind ?_
        split
        · rename_i known
          exact each rfl known
        · refine .after (each rfl ?_)
          exact Option.isSome_of_eq_some (Table.get?_insert_self s.parameterTypes code _)

theorem followAssignment_blames (targets : List Tree) (value : Tree) :
    BlamesAt (followAssignment context targets value) s := by
  refine .after ?_
  split
  · exact .pure _
  · refine .forM (fun target t => ?_) _
    unfold followTarget
    split
    · exact (typeOfTree?_blames value).bind fun _ _ _ => .after (.lift _)
    · split
      · exact (typeOfTree?_blames value).bind fun _ _ _ => .after (.after (.get_bind (.lift _)))
      · exact .pure _
    · exact .pure _

theorem followCall_blames (func : Tree) (arguments : List Tree) :
    BlamesAt (followCall context func arguments) s := by
  refine .after (.get_bind (.after ?_))
  split
  · exact .pure _
  · refine .after ?_
    split
    · exact .pure _
    · refine .after ?_
      split
      · exact .after (.after (inferArguments_blames _ _))
      · exact inferArguments_blames _ _

theorem followAttribute_blames (value : Tree) (attr : String) :
    BlamesAt (followAttribute context value attr) s := by
  refine .after ?_
  split
  · refine .get_bind ?_
    split
    · split
      · exact .throw nofun
      · exact .lift _
    · split
      · split
        · exact .pure _
        · exact .lift _
        · exact .after (.lift _)
      · refine .after ?_
        split
        · exact .lift _
        · exact .pure _
  · exact .pure _

theorem follow_blames (step : Step) : BlamesAt (follow context step) s := by
  cases step with
  | enterModule => exact .after (.lift _)
  | assign position targets value => exact followAssignment_blames targets value
  | call func args => exact followCall_blames func args
  | «attribute» value attr => exact followAttribute_blames value attr.text
  | _ => exact .lift _

/-- A run that meets an unknown parameter comes to a state in which the parameter is lacking. -/
theorem followAll_blames (steps : List Step) : BlamesAt (followAll context steps) s := by
  induction steps generalizing s with
  | nil => exact .pure _
  | cons step steps ih => exact (follow_blames step).bind fun _ _ _ => ih

end Blames

end CodeMap.Usage

namespace CodeMap

open Source Usage

/-- However far the analysis of a module comes, the parameters that are lacking are those of known
functions that entering the function has left out and that no hint has made up for since. If a call
meets an unknown parameter there, it is one of them. -/
theorem lacking_parameters (context : Context) (model : Model) (body : List Tree) (count : Nat) :
    let steps := (walkModule body).take count
    let run := followAll context steps { model := model }
    (∀ code parameter, run.2.Lacks code parameter ↔
      parameter ∈ model.parametersOf code ∧
        LeftOut context (visits context steps { model := model }) code parameter) ∧
      ∀ parameter, run.1 = .error (.unknownParameter parameter) →
        ∃ code, run.2.Lacks code parameter := by
  intro steps run
  refine ⟨fun code parameter => ?_, followAll_blames steps⟩
  have atFirst : ¬ ({ model := model } : State).Lacks code parameter := by
    rintro ⟨-, known, found, -⟩
    cases found
  rw [followAll_lacks_iff]
  simp [atFirst]

/-- A function with a hint for one of its two parameters, and a call that gives a type to both. -/
def partlyHintedProject : Project where
  name := "p"
  folder := "/"
  files :=
    [{ path := "p/m.py"
       inner := ["m.py"]
       bytes :=
         "class A:\n pass\ndef f(a: A, b):\n pass\ndef g():\n x = A()\n f(x, x)\n".toUTF8.toList }]

/-- The parameter without a hint is lacking, and the call stops the analysis. -/
theorem partlyHinted_stops :
    let files := partlyHintedProject.readFiles
    let runs := files.map fun file =>
      followAll { module := file.place.module } file.steps
        { model := Extraction.collectAll {} files }
    runs.map (·.1) = [.error (.unknownParameter "b")] ∧
      ∀ run ∈ runs, run.2.Lacks "p.m.f" "b" := by
  decide +kernel

end CodeMap
