/-
What the passes over the files of a project leave in its model.

The first pass enters what the files define. The second and the third enter no more elements; they
record calls, accesses and external code, each file up to its first fault (`Analysed`). What the
recorded names stand for in the end is said by `Model.Resolved`, from which the statements about
model files follow. Main statement: the model of any files is resolved (`Model.ofFiles_resolved`).
-/

import CodeMap.Extraction
import CodeMap.Proofs.Collecting
import CodeMap.Proofs.Following

namespace CodeMap

open Source

/-- The unique names and the kinds of what a file defines. -/
def ReadFile.definitions (file : ReadFile) : List (String × Kind) :=
  match file.trees with
  | .ok trees => Definitions.definitionsAlong file.place.module {} (walkModule trees)
  | .error _ => []

/-! ### What an analysis leaves behind -/

/-- A model after an analysis whose open functions were among `codes`. -/
structure Analysed (codes : String → Prop) (model after : Model) : Prop where
  elements : after.elements = model.elements
  containments : after.containments = model.containments
  kept : ∀ {name element}, model.symbol? name = some element → after.symbol? name = some element
  /-- A name gets to stand for external code only if it stood for nothing. -/
  symbols : ∀ {name element}, after.symbol? name = some element →
    model.symbol? name = some element ∨
      model.symbol? name = none ∧ element.role = .external ∧ element.uniqueName = name ∧
        element ∈ after.externals
  earlier : ∀ element ∈ model.externals, element ∈ after.externals
  externals : ∀ element ∈ after.externals, element ∈ model.externals ∨ element.role = .external
  calls : ∀ call ∈ after.calls, call ∈ model.calls ∨
    (∀ caller ∈ call.caller, codes caller) ∧
      ∃ name element, after.symbol? name = some element ∧ element.isCode = true ∧
        element.uniqueName = call.called
  accesses : ∀ access ∈ after.accesses, access ∈ model.accesses ∨
    codes access.accessor ∧
      ∃ name element, after.symbol? name = some element ∧ element.isData = true ∧
        element.uniqueName = access.accessed

namespace Analysed

variable {codes : String → Prop} {first second third model : Model}

/-- The model changes in its events alone. -/
theorem of_eq (elements : second.elements = first.elements)
    (containments : second.containments = first.containments)
    (symbols : second.symbols = first.symbols) (externals : second.externals = first.externals)
    (calls : second.calls = first.calls) (accesses : second.accesses = first.accesses) :
    Analysed codes first second where
  elements := elements
  containments := containments
  kept h := by rwa [Model.symbol?, symbols]
  symbols h := by
    rw [Model.symbol?, symbols] at h
    exact .inl h
  earlier element h := by rwa [externals]
  externals element h := .inl (externals ▸ h)
  calls call h := .inl (calls ▸ h)
  accesses access h := .inl (accesses ▸ h)

theorem refl (model : Model) : Analysed codes model model := of_eq rfl rfl rfl rfl rfl rfl

theorem note (model : Model) (event : Event) : Analysed codes model (model.note event) :=
  of_eq rfl rfl rfl rfl rfl rfl

theorem trans (h : Analysed codes first second) (h' : Analysed codes second third) :
    Analysed codes first third where
  elements := h'.elements.trans h.elements
  containments := h'.containments.trans h.containments
  kept stands := h'.kept (h.kept stands)
  symbols {name element} stands := by
    rcases h'.symbols stands with stands | ⟨unknown, isExternal, named, met⟩
    · refine (h.symbols stands).imp id ?_
      rintro ⟨unknown, isExternal, named, met⟩
      exact ⟨unknown, isExternal, named, h'.earlier _ met⟩
    · refine .inr ⟨?_, isExternal, named, met⟩
      cases known : first.symbol? name with
      | none => rfl
      | some other => exact absurd (h.kept known) (by simp [unknown])
  earlier element met := h'.earlier element (h.earlier element met)
  externals element met := by
    rcases h'.externals element met with met | isExternal
    · exact h.externals element met
    · exact .inr isExternal
  calls call recorded := by
    rcases h'.calls call recorded with recorded | new
    · refine (h.calls call recorded).imp id ?_
      rintro ⟨callers, name, element, stands, rest⟩
      exact ⟨callers, name, element, h'.kept stands, rest⟩
    · exact .inr new
  accesses access recorded := by
    rcases h'.accesses access recorded with recorded | new
    · refine (h.accesses access recorded).imp id ?_
      rintro ⟨accessor, name, element, stands, rest⟩
      exact ⟨accessor, name, element, h'.kept stands, rest⟩
    · exact .inr new

/-! ### The changes one by one -/

theorem addCall {name : String} {element : Element} {caller : Option String}
    (callers : ∀ code ∈ caller, codes code) (stands : model.symbol? name = some element)
    (isCode : element.isCode = true) :
    Analysed codes model (model.addCall ⟨caller, element.uniqueName⟩) where
  elements := rfl
  containments := rfl
  kept h := h
  symbols h := .inl h
  earlier _ h := h
  externals _ h := .inl h
  calls call h := by
    rcases Array.mem_push.mp h with old | rfl
    · exact .inl old
    · exact .inr ⟨callers, name, element, stands, isCode, rfl⟩
  accesses _ h := .inl h

theorem addAccess {name accessor : String} {element : Element} (isOpen : codes accessor)
    (stands : model.symbol? name = some element) (isData : element.isData = true) :
    Analysed codes model
      (model.addAccess { accessor := accessor, accessed := element.uniqueName }) where
  elements := rfl
  containments := rfl
  kept h := h
  symbols h := .inl h
  earlier _ h := h
  externals _ h := .inl h
  calls _ h := .inl h
  accesses access h := by
    rcases Array.mem_push.mp h with old | rfl
    · exact .inl old
    · exact .inr ⟨isOpen, name, element, stands, isData, rfl⟩

/-- External code that is kept is bound to its own name, called and listed. -/
theorem meetExternal {name : String} {caller : Option String}
    (callers : ∀ code ∈ caller, codes code)
    (fresh : model.symbol? (Usage.externalMark ++ name) = none) :
    Analysed codes model (model.meetExternal .keepAndReport caller name) where
  elements := rfl
  containments := rfl
  kept {other element} stands := by
    have distinct : Usage.externalMark ++ name ≠ other := by
      rintro rfl
      simp [fresh] at stands
    exact (Table.get?_insert_of_ne model.symbols _ distinct).trans stands
  symbols {other element} stands := by
    by_cases own : Usage.externalMark ++ name = other
    · subst own
      have := Option.some.inj ((Table.get?_insert_self model.symbols _ _).symm.trans stands)
      subst this
      exact .inr ⟨fresh, rfl, rfl, Array.mem_push_self⟩
    · exact .inl ((Table.get?_insert_of_ne model.symbols _ own).symm.trans stands)
  earlier _ h := Array.mem_push_of_mem _ h
  externals element h := by
    rcases Array.mem_push.mp h with old | rfl
    · exact .inl old
    · exact .inr rfl
  calls call h := by
    rcases Array.mem_push.mp h with old | rfl
    · exact .inl old
    · exact .inr ⟨callers, _, _, Table.get?_insert_self model.symbols _ _, rfl, rfl⟩
  accesses _ h := .inl h

theorem of_reporting (h : Usage.Reporting first second) : Analysed codes first second := by
  induction h with
  | refl => exact refl first
  | note event _ ih => exact ih.trans (note _ event)

theorem of_recording {code : Option String} (isOpen : ∀ name ∈ code, codes name)
    (h : Usage.Recording .keepAndReport code first second) : Analysed codes first second := by
  induction h with
  | refl => exact refl first
  | note event _ ih => exact ih.trans (note _ event)
  | call _ stands isCode ih => exact ih.trans (addCall isOpen stands isCode)
  | access _ accessor stands isData ih =>
    exact ih.trans (addAccess (isOpen _ accessor) stands isData)
  | external _ _ _ fresh ih => exact ih.trans (meetExternal isOpen fresh)

end Analysed

/-! ### The second and the third pass -/

/-- Whatever a run over steps records, up to a fault if it meets one, it records from functions
that the steps define. -/
theorem Usage.followAll_analysed {codes : String → Prop} (context : Context)
    (policy : context.externals = .keepAndReport) (steps : List Step)
    (s : Usage.State) (proper : s.scope.Proper) (isOpen : ∀ code ∈ s.openCode, codes code)
    (defined : ∀ code,
      (code, Kind.code) ∈ Definitions.definitionsAlong context.module s.scope steps → codes code) :
    Analysed codes s.model (Usage.followAll context steps s).2.model := by
  -- The function that is open stays among `codes`: a step keeps it, or opens one that it defines.
  induction steps generalizing s with
  | nil => exact .refl s.model
  | cons step steps ih =>
    have first := Analysed.of_recording isOpen (policy ▸ follow_recording context s step)
    have moved := (follow_scope context s step).trans (s.nextScope_eq _ proper step)
    rw [followAll_cons_apply]
    generalize follow context step s = run at first moved ⊢
    obtain ⟨result, t⟩ := run
    cases result with
    | error fault => exact first
    | ok _ =>
      refine first.trans (ih t (moved ▸ proper.step context.module step) ?_ ?_)
      · intro code entered
        have entered : ([step].foldl (Scope.step context.module) s.scope).openCode = some code :=
          (congrArg Scope.openCode moved).symm.trans entered
        rcases Definitions.mem_definitionsAlong_of_openCode entered with before | now
        · exact isOpen code before
        · refine defined code ?_
          rw [← List.singleton_append, Definitions.definitionsAlong_append]
          exact List.mem_append_left _ now
      · intro code later
        exact defined code (List.mem_append_right _ (moved ▸ later))

namespace Extraction

/-- The analysis of a file leaves what its run leaves, and reports a fault. -/
theorem analyseFile_reporting {file : ReadFile} {trees : List Tree} (read : file.trees = .ok trees)
    (order : Arrangement String) (model : Model) :
    Usage.Reporting (Usage.followAll (file.context order) (walkModule trees)
      { model := model }).2.model (analyseFile order model file) := by
  unfold analyseFile
  rw [read]
  dsimp only
  split
  · rename_i result state finished
    have after : (Usage.followAll _ _ _).2.model = state.model := congrArg (·.2.model) finished
    exact after ▸ .refl
  · rename_i fault state stopped
    have after : (Usage.followAll _ _ _).2.model = state.model := congrArg (·.2.model) stopped
    exact after ▸ .note _ .refl

theorem analyseFile_analysed {codes : String → Prop} (order : Arrangement String) (model : Model)
    (file : ReadFile) (defined : ∀ code, (code, Kind.code) ∈ file.definitions → codes code) :
    Analysed codes model (analyseFile order model file) := by
  unfold ReadFile.definitions at defined
  cases read : file.trees with
  | error fault =>
    rw [analyseFile, read]
    exact .note model _
  | ok trees =>
    rw [read] at defined
    have run := Usage.followAll_analysed (file.context order) rfl (walkModule trees)
      { model := model } (by simp [Usage.State.scope, Scope.Proper]) (by simp) defined
    exact run.trans (.of_reporting (analyseFile_reporting read order model))

theorem analyseAll_analysed {codes : String → Prop} (order : Arrangement String) (model : Model)
    (files : List ReadFile)
    (defined : ∀ code, (code, Kind.code) ∈ files.flatMap ReadFile.definitions → codes code) :
    Analysed codes model (analyseAll order model files) := by
  induction files generalizing model with
  | nil => exact .refl model
  | cons file files ih =>
    rw [List.flatMap_cons] at defined
    have first := analyseFile_analysed order model file fun code own =>
      defined code (List.mem_append_left _ own)
    exact first.trans (ih _ fun code later => defined code (List.mem_append_right _ later))

/-! ### The first pass -/

theorem collectFile_collecting (model : Model) (file : ReadFile) :
    ∃ entered, Definitions.Collecting model entered (collectFile model file) ∧
      Definitions.definitionsOf entered = file.definitions := by
  unfold collectFile ReadFile.definitions
  cases file.trees with
  | ok trees => exact Definitions.collect_collecting model file.place trees
  | error fault => exact ⟨[], .note _ .refl, rfl⟩

theorem collectAll_collecting (model : Model) (files : List ReadFile) :
    ∃ entered, Definitions.Collecting model entered (collectAll model files) ∧
      Definitions.definitionsOf entered = files.flatMap ReadFile.definitions := by
  induction files generalizing model with
  | nil => exact ⟨[], .refl, rfl⟩
  | cons file files ih =>
    obtain ⟨own, first, defined⟩ := collectFile_collecting model file
    obtain ⟨others, rest, later⟩ := ih (collectFile model file)
    refine ⟨own ++ others, first.trans rest, ?_⟩
    rw [Definitions.definitionsOf_append, defined, later, List.flatMap_cons]

/-! ### The three passes -/

/-- The model with which the second pass starts. -/
def firstPass (files : List ReadFile) : Model :=
  (collectAll {} files).note .secondPass

/-- The model after the second pass. -/
def secondPass (order : Arrangement String) (files : List ReadFile) : Model :=
  analyseAll order (firstPass files) files

/-- The model after the third pass. -/
def thirdPass (order : Arrangement String) (files : List ReadFile) : Model :=
  analyseAll order (((secondPass order files).note .typesAssigned).note .thirdPass) files

end Extraction

/-! ### The model in the end -/

/-- What the names in a model stand for, given the definitions in its files. -/
structure Model.Resolved (definitions : List (String × Kind)) (model : Model) : Prop where
  keyed : ∀ {name element}, model.elements.get? name = some element → element.uniqueName = name
  /-- The last definition of a name counts; a name without a definition is that of an attribute. -/
  kinds : ∀ {name element}, model.elements.get? name = some element →
    element.kind = (Definitions.lastKind name definitions).getD .data
  own : ∀ {name element}, model.elements.get? name = some element → element.role ≠ .external
  defined : ∀ {name kind}, (name, kind) ∈ definitions →
    name ∈ model.elements.keys ∧ kind ≠ .data
  externals : ∀ element ∈ model.externals, element.role = .external
  containments : ∀ containment ∈ model.containments,
    containment.parent.uniqueName ∈ model.elements.keys ∧
      containment.child.uniqueName ∈ model.elements.keys
  callers : ∀ call ∈ model.calls, ∀ caller ∈ call.caller, (caller, Kind.code) ∈ definitions
  /-- Functions of the project are called, and external code, which may have the name of a file. -/
  called : ∀ call ∈ model.calls, (call.called, Kind.code) ∈ definitions ∨
    (∃ element ∈ model.externals, element.uniqueName = call.called) ∧
      (call.called ∈ model.elements.keys → (call.called, Kind.grouping) ∈ definitions)
  accessors : ∀ access ∈ model.accesses, (access.accessor, Kind.code) ∈ definitions
  accessed : ∀ access ∈ model.accesses, access.accessed ∈ model.elements.keys

section Passes

variable {definitions : List (String × Kind)} {entered : List Element} {collected model : Model}

/-- A name that is taken but stands for nothing is that of a file. -/
theorem Definitions.Collecting.mem_definitions_of_unbound
    (collecting : Definitions.Collecting {} entered collected) {name : String}
    (taken : name ∈ collected.elements.keys) (unbound : collected.symbol? name = none) :
    (name, Kind.grouping) ∈ Definitions.definitionsOf entered := by
  rcases collecting.mem_keys_iff.mp taken with impossible | named
  · cases impossible
  · obtain ⟨element, member, rfl⟩ := List.mem_map.mp named
    have isFile : element.role = .file := by
      refine Decidable.byContradiction fun notFile => ?_
      obtain ⟨bound, stands⟩ := Table.mem_keys_iff.mp (collecting.bound member notFile)
      exact absurd (unbound.symm.trans stands) (by simp)
    refine Definitions.mem_definitionsOf.mpr ⟨element, member, ?_, rfl, ?_⟩
    · simp [Element.isData, Element.kind, isFile, Role.kind]
    · simp [Element.kind, isFile, Role.kind]

/-- What a name stands for in the end was entered in the first pass, or it is external code whose
name stood for nothing then. -/
theorem Analysed.symbol_cases {codes : String → Prop}
    (collecting : Definitions.Collecting {} entered collected)
    (analysed : Analysed codes collected model) {name : String} {element : Element}
    (stands : model.symbol? name = some element) :
    element ∈ entered ∨
      element ∈ model.externals ∧ element.role = .external ∧
        collected.symbol? element.uniqueName = none := by
  rcases analysed.symbols stands with stands | ⟨unbound, isExternal, rfl, met⟩
  · rcases collecting.symbol? stands with impossible | ⟨member, -⟩
    · cases impossible
    · exact .inl member
  · exact .inr ⟨met, isExternal, unbound⟩

theorem Model.Resolved.of_passes (collecting : Definitions.Collecting {} entered collected)
    (listed : Definitions.definitionsOf entered = definitions)
    (analysed : Analysed (fun code => (code, Kind.code) ∈ definitions) collected model) :
    model.Resolved definitions := by
  subst listed
  obtain ⟨noCalls, noAccesses, noExternals⟩ := collecting.usages_eq
  have calls (call : Call) (recorded : call ∈ model.calls) :=
    (analysed.calls call recorded).resolve_left (by simp [noCalls])
  have accesses (access : Access) (recorded : access ∈ model.accesses) :=
    (analysed.accesses access recorded).resolve_left (by simp [noAccesses])
  constructor
  case keyed =>
    intro name element found
    rw [analysed.elements] at found
    exact collecting.keyed nofun found
  case kinds =>
    intro name element found
    rw [analysed.elements] at found
    exact collecting.kind_eq found
  case own =>
    intro name element found
    rw [analysed.elements] at found
    exact collecting.role_ne_external found
  case defined =>
    intro name kind defined
    obtain ⟨element, -, notData, -, rfl⟩ := Definitions.mem_definitionsOf.mp defined
    rw [analysed.elements]
    exact ⟨collecting.mem_keys_of_definition defined, by simpa [Element.isData] using notData⟩
  case externals =>
    intro element met
    exact (analysed.externals element met).resolve_left (by simp [noExternals])
  case containments =>
    intro containment recorded
    rw [analysed.containments] at recorded
    rw [analysed.elements]
    exact (collecting.containments recorded).resolve_left (by simp)
  case callers => exact fun call recorded => (calls call recorded).1
  case called =>
    intro call recorded
    obtain ⟨-, name, element, stands, isCode, named⟩ := calls call recorded
    rw [← named]
    rcases analysed.symbol_cases collecting stands with member | ⟨met, -, unbound⟩
    · left
      refine Definitions.mem_definitionsOf.mpr ⟨element, member, ?_, rfl, ?_⟩
      · simp_all [Element.isCode, Element.isData]
      · simpa [Element.isCode] using isCode
    · refine .inr ⟨⟨element, met, rfl⟩, fun taken => ?_⟩
      rw [analysed.elements] at taken
      exact collecting.mem_definitions_of_unbound taken unbound
  case accessors => exact fun access recorded => (accesses access recorded).1
  case accessed =>
    intro access recorded
    obtain ⟨-, name, element, stands, isData, named⟩ := accesses access recorded
    rw [← named, analysed.elements]
    rcases analysed.symbol_cases collecting stands with member | ⟨-, isExternal, -⟩
    · exact collecting.mem_keys_iff.mpr (.inr (List.mem_map_of_mem member))
    · simp [Element.isData, Element.kind, isExternal, Role.kind] at isData

end Passes

/-- After the first pass the model of files is analysed twice. -/
theorem Model.ofFiles_analysed (order : Arrangement String) (files : List ReadFile) :
    Analysed (fun code => (code, Kind.code) ∈ files.flatMap ReadFile.definitions)
      (Extraction.collectAll {} files) (Model.ofFiles order files) := by
  have pass (model : Model) :=
    Extraction.analyseAll_analysed order model files fun _ defined => defined
  exact ((Analysed.note _ _).trans (pass _)).trans
    ((((Analysed.note _ _).trans (.note _ _)).trans (pass _)).trans (.note _ _))

/-- The model of any files is resolved, also if the analysis of some of them meets a fault. -/
theorem Model.ofFiles_resolved (order : Arrangement String) (files : List ReadFile) :
    (Model.ofFiles order files).Resolved (files.flatMap ReadFile.definitions) := by
  obtain ⟨entered, collecting, listed⟩ := Extraction.collectAll_collecting {} files
  exact .of_passes collecting listed (Model.ofFiles_analysed order files)

end CodeMap
