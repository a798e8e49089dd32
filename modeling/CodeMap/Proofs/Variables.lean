/-
What is known of variables along a walk.

An analysis holds types of variables for the open function and types of attributes for the open
class. Looking names up, recording and giving types to parameters leave both as they are
(`SameVariables`). They change by assignments, each for the variables that are its targets
(`assignedBy`), and where a function is entered or left or a class is entered. So what is known of a
variable stays known until then (`follow_localType`).
-/

import CodeMap.Proofs.AssignedCall

namespace CodeMap

namespace Source

theorem Identifier.eq_of_text {id other : Identifier} (same : id.text = other.text) :
    id = other := by
  cases id
  cases other
  exact (Identifier.mk.injEq ..).mpr same

/-- The name under which a method knows the object that it belongs to. -/
def Identifier.self : Identifier := ⟨"self", rfl⟩

theorem Identifier.text_self : Identifier.self.text = "self" := rfl

/-- A tree without definitions of a sort has no steps of this sort. -/
theorem Tree.steps_of_not_defines {sort : ScopeSort} {tree : Tree}
    (h : tree.defines sort = false) {step : Step} (taken : step ∈ tree.walk) :
    step.enters sort = false ∧ step.leaves sort = false := by
  induction tree using Tree.parts_induction with
  | step tree ih =>
    rw [Tree.defines_eq, Bool.or_eq_false_iff] at h
    rw [Tree.walk_eq, List.append_assoc, List.mem_append, List.mem_append] at taken
    rcases taken with opening | parts | closing
    · exact Tree.steps_of_not_opens h.1 (List.mem_append_left _ opening)
    · obtain ⟨part, member, taken⟩ := mem_walkAll.mp parts
      have none : part.defines sort = false := by
        simpa using List.any_eq_false.mp h.2 part member
      exact ih part member none taken
    · exact Tree.steps_of_not_opens h.1 (List.mem_append_right _ closing)

theorem steps_of_none_defines {sort : ScopeSort} {trees : List Tree}
    (none : trees.any (·.defines sort) = false) :
    ∀ step ∈ walkAll trees, step.enters sort = false ∧ step.leaves sort = false := by
  intro step taken
  obtain ⟨tree, member, taken⟩ := mem_walkAll.mp taken
  have own : tree.defines sort = false := by
    simpa using List.any_eq_false.mp none tree member
  exact Tree.steps_of_not_defines own taken

end Source

namespace Usage

open Source

/-! ### Functions that leave variables alone -/

/-- The types of variables and of attributes are as they were. -/
structure SameVariables (before after : State) : Prop where
  localTypes : after.localTypes = before.localTypes
  attributeTypes : after.attributeTypes = before.attributeTypes

instance : Passing SameVariables where
  refl _ := ⟨rfl, rfl⟩
  trans h h' := ⟨h'.localTypes.trans h.localTypes, h'.attributeTypes.trans h.attributeTypes⟩

theorem note_variables (event : Event) : Keeping SameVariables (note event) := fun _ => ⟨rfl, rfl⟩

theorem note_pure_variables {α : Type} (event : Event) (a : α) :
    Keeping SameVariables (do note event; return a) :=
  (note_variables event).bind fun _ => .pure a

theorem recordCall_variables (called : String) : Keeping SameVariables (recordCall called) :=
  fun _ => ⟨rfl, rfl⟩

theorem typeOf?_variables (lookup : Lookup) (var : String) :
    Keeping SameVariables (typeOf? lookup var) := by
  refine Keeping.get.bind fun s => ?_
  split
  · exact .pure _
  · exact .pure _

theorem calledName?_variables (tree : Tree) : Keeping SameVariables (calledName? tree) := by
  intro s
  obtain ⟨model, -, run⟩ := calledName?_apply tree s
  rw [run]
  exact ⟨rfl, rfl⟩

theorem classOf?_variables (context : Context) (name : Option String) :
    Keeping SameVariables (classOf? context name) := by
  intro s
  obtain ⟨model, -, run⟩ := classOf?_apply context name s
  rw [run]
  exact ⟨rfl, rfl⟩

theorem external?_variables (policy : ExternalPolicy) (name : Option String) :
    Keeping SameVariables (external? policy name) := by
  intro s
  rw [external?_apply]
  split
  · exact ⟨rfl, rfl⟩
  · split
    · exact ⟨rfl, rfl⟩
    · split
      · exact ⟨rfl, rfl⟩
      · exact ⟨rfl, rfl⟩

theorem dottedTarget?_variables (context : Context) (name : String) :
    Keeping SameVariables (dottedTarget? context name) := by
  refine (typeOf?_variables _ _).bind fun type => ?_
  split
  · exact note_pure_variables _ _
  · refine Keeping.get.bind fun s => ?_
    split
    · exact note_pure_variables _ _
    · split
      · exact note_pure_variables _ _
      · exact note_pure_variables _ _

theorem plainTarget?_variables (context : Context) (name : String) :
    Keeping SameVariables (plainTarget? context name) := by
  refine Keeping.get.bind fun s => ?_
  split
  · exact note_pure_variables _ _
  · split
    · exact note_pure_variables _ _
    · exact note_pure_variables _ _

theorem ownMethod?_variables (name : String) : Keeping SameVariables (ownMethod? name) := by
  refine Keeping.get.bind fun s => (note_variables _).bind fun _ =>
    (symbol?_keeping _).bind fun found => ?_
  split
  · exact .pure _
  · exact note_pure_variables _ _

theorem called?_variables (context : Context) (name : String) :
    Keeping SameVariables (called? context name) := by
  have target : Keeping SameVariables (if Text.Dotted.isDotted name then
      dottedTarget? context name else plainTarget? context name) := by
    split
    · exact dottedTarget?_variables context name
    · exact plainTarget?_variables context name
  unfold called?
  split
  · exact ownMethod?_variables name
  · refine target.bind fun unique => ?_
    split
    · exact .pure _
    · refine (symbol?_keeping _).bind fun found => ?_
      split
      · exact .pure _
      · refine (external?_variables _ _).bind fun known => ?_
        split
        · exact symbol?_keeping _
        · exact .pure _

theorem constructed?_variables (context : Context) (func : Tree) :
    Keeping SameVariables (constructed? context func) := by
  intro s
  obtain ⟨type, model, run, -⟩ := constructed?_apply context func s
  rw [run]
  exact ⟨rfl, rfl⟩

theorem typeOfTree?_variables (context : Context) (tree : Tree) :
    KeepingRun SameVariables (typeOfTree? context tree) := by
  unfold typeOfTree?
  split
  · exact .lift (constructed?_variables context _)
  · exact .after (typeOf?_variables _ _) fun _ => .after (note_variables _) fun _ => .pure _
  · exact .after (typeOf?_variables _ _) fun _ => .after (note_variables _) fun _ => .pure _
  · split
    · exact .after (note_variables _) fun _ => .pure _
    · exact .throw _
  · split
    · exact .after (note_variables _) fun _ => .pure _
    · exact .throw _

theorem addParameterType_variables (code parameter type : String) :
    KeepingRun SameVariables (addParameterType code parameter type) := by
  intro s
  unfold addParameterType
  simp only [KeepingRun.bind_apply, Analysis.get_apply]
  cases ((s.parameterTypes.get? code).getD ∅).get? parameter with
  | none => exact ⟨rfl, rfl⟩
  | some set => exact ⟨rfl, rfl⟩

theorem inferArgument_variables (context : Context) (code : String) (argument : Tree)
    (parameter : String) :
    KeepingRun SameVariables (inferArgument context code argument parameter) := by
  refine (typeOfTree?_variables context argument).bind fun type => ?_
  split
  · exact (addParameterType_variables _ _ _).bind fun _ => .lift (note_variables _)
  · exact .lift (note_variables _)

theorem inferArguments_variables (context : Context) (code : String) (arguments : List Tree) :
    KeepingRun SameVariables (inferArguments context code arguments) := by
  have each (element : Element) : KeepingRun SameVariables
      ((arguments.zip element.parameters).forM fun pair =>
        inferArgument context code pair.1 pair.2) :=
    .forM (fun _ => inferArgument_variables context code _ _) _
  refine KeepingRun.get.bind fun s => ?_
  split
  · exact .pure _
  · refine .after (symbol?_keeping _) fun found => ?_
    split
    · exact .lift (note_variables _)
    · split
      · exact .after (note_variables _) fun _ => .pure _
      · refine KeepingRun.get.bind fun s => ?_
        split
        · exact each _
        · exact KeepingRun.bind (fun _ => ⟨rfl, rfl⟩) fun _ => each _

theorem followCall_variables (context : Context) (func : Tree) (arguments : List Tree) :
    KeepingRun SameVariables (followCall context func arguments) := by
  refine .after (calledName?_variables func) fun name => .after Keeping.get fun s =>
    .after (note_variables _) fun _ => ?_
  split
  · exact .pure _
  · refine .after (called?_variables context _) fun found => ?_
    split
    · exact .pure _
    · refine .after openCode?_keeping fun code => ?_
      split
      · exact .after (recordCall_variables _) fun _ => .after (note_variables _) fun _ =>
          inferArguments_variables context _ arguments
      · exact inferArguments_variables context _ arguments

theorem recordAccess_variables (code name : String) :
    Keeping SameVariables (recordAccess code name) := by
  refine (symbol?_keeping name).bind fun found => ?_
  split
  · exact Keeping.bind (fun _ => ⟨rfl, rfl⟩) fun _ => note_variables _
  · exact .pure _

theorem followAttributeOf_variables (context : Context) (code base attr : String) :
    KeepingRun SameVariables (followAttributeOf context code base attr) := by
  refine KeepingRun.get.bind fun s => ?_
  split
  · split
    · exact .throw _
    · exact .lift (recordAccess_variables _ _)
  · split
    · split
      · exact .pure _
      · exact .lift (recordAccess_variables _ _)
      · exact .after (recordAccess_variables _ _) fun _ => .lift (note_variables _)
    · refine .after (typeOf?_variables _ base) fun type => ?_
      split
      · exact .lift (recordAccess_variables _ _)
      · exact .pure _

theorem followAttribute_variables (context : Context) (value : Tree) (attr : String) :
    KeepingRun SameVariables (followAttribute context value attr) := by
  refine .after openCode?_keeping fun code => ?_
  split
  · exact followAttributeOf_variables _ _ _ _
  · exact .pure _

theorem followName_variables (context : Context) (name : String) :
    Keeping SameVariables (followName context name) := by
  refine openCode?_keeping.bind fun code => ?_
  split
  · exact recordAccess_variables _ _
  · exact .pure _

theorem importName_variables (asName full : String) :
    Keeping SameVariables (importName asName full) :=
  fun _ => ⟨rfl, rfl⟩

theorem followImport_variables (context : Context) (aliases : List Alias) :
    Keeping SameVariables (followImport context aliases) :=
  (note_variables _).bind fun _ => .forM (fun _ => (importName_variables _ _).bind fun _ =>
    note_variables _) aliases

theorem followImportFrom_variables (context : Context) (module : Option DottedName)
    (aliases : List Alias) :
    Keeping SameVariables (followImportFrom context module aliases) :=
  (note_variables _).bind fun _ => .forM (fun _ => (importName_variables _ _).bind fun _ =>
    note_variables _) aliases

/-! ### Assignments -/

/-- The variable to which an assignment to a target gives a type. -/
def assigned? : Tree → Option String
  | .name id => some id.text
  | .attribute (.name id) attr => if id.text = "self" then some ("self." ++ attr.text) else none
  | _ => none

/-- The variables to which a step gives a type. -/
def assignedBy : Step → List String
  | .assign _ targets _ => targets.filterMap assigned?
  | _ => []

/-- An identifier is assigned only as a target of its own, since it has no full stop. -/
theorem name_mem_of_assigned {targets : List Tree} {id : Identifier}
    (assigned : id.text ∈ targets.filterMap assigned?) : Tree.name id ∈ targets := by
  obtain ⟨target, member, same⟩ := List.mem_filterMap.mp assigned
  unfold assigned? at same
  split at same
  · rename_i other
    rwa [Identifier.eq_of_text (Option.some.inj same)] at member
  · rename_i own attr
    split at same
    · have dot : '.' ∈ id.text.toList := by
        rw [← Option.some.inj same, String.toList_append]
        exact List.mem_append_left _ (by decide)
      exact absurd dot id.dot_not_mem
    · cases same
  · cases same

/-- What is known of a variable is as it was. -/
structure SameType (var : String) (before after : State) : Prop where
  localType : after.localTypes.get? var = before.localTypes.get? var
  attributeType : after.attributeTypes.get? var = before.attributeTypes.get? var

instance (var : String) : Passing (SameType var) where
  refl _ := ⟨rfl, rfl⟩
  trans h h' := ⟨h'.localType.trans h.localType, h'.attributeType.trans h.attributeType⟩

theorem SameVariables.sameType {s t : State} (same : SameVariables s t) (var : String) :
    SameType var s t :=
  ⟨by rw [same.localTypes], by rw [same.attributeTypes]⟩

theorem setVariable_sameType {var other : String} (ne : other ≠ var) (type : Option String) :
    Keeping (SameType var) (setVariable other type) :=
  fun _ => ⟨Table.get?_insert_of_ne _ _ ne, rfl⟩

theorem setAttribute_sameType {var other : String} (ne : other ≠ var) (type : Option String) :
    Keeping (SameType var) (setAttribute other type) :=
  fun _ => ⟨rfl, Table.get?_insert_of_ne _ _ ne⟩

theorem followTarget_sameType (context : Context) (code : String) (value : Tree) {target : Tree}
    {var : String} (other : assigned? target ≠ some var) :
    KeepingRun (SameType var) (followTarget context code value target) := by
  have typing : KeepingRun (SameType var) (typeOfTree? context value) :=
    fun s => (typeOfTree?_variables context value s).sameType var
  have noting (event : Event) : Keeping (SameType var) (note event) :=
    fun s => (note_variables event s).sameType var
  unfold followTarget
  split
  · rename_i id
    have ne : id.text ≠ var := fun same => other (by rw [assigned?, same])
    exact typing.bind fun type => .after (setVariable_sameType ne type) fun _ => .lift (noting _)
  · rename_i id attr
    split
    · rename_i isSelf
      have ne : "self." ++ attr.text ≠ var :=
        fun same => other (by rw [assigned?, if_pos isSelf, same])
      exact typing.bind fun type => .after (setVariable_sameType ne type) fun _ =>
        .after (setAttribute_sameType ne type) fun _ => .after Keeping.get fun _ =>
          .lift (noting _)
    · exact .pure _
  · exact .pure _

/-- An assignment leaves alone what is known of the variables that are none of its targets. -/
theorem followAssignment_sameType (context : Context) {targets : List Tree} (value : Tree)
    {var : String} (other : var ∉ targets.filterMap assigned?) :
    KeepingRun (SameType var) (followAssignment context targets value) := by
  refine .after openCode?_keeping fun code => ?_
  split
  · exact .pure _
  · induction targets with
    | nil => exact .pure _
    | cons target targets ih =>
      have first : assigned? target ≠ some var := by
        intro same
        exact other (List.mem_filterMap.mpr ⟨target, List.mem_cons_self, same⟩)
      refine KeepingRun.bind (followTarget_sameType context _ value first) fun _ => ih ?_
      intro later
      obtain ⟨tree, member, same⟩ := List.mem_filterMap.mp later
      exact other (List.mem_filterMap.mpr ⟨tree, List.mem_cons_of_mem _ member, same⟩)

/-! ### Parameters -/

/-- A parameter is given a type as a variable of its name. -/
theorem enterParameter_sameType (context : Context) (code : String) {tree : Tree} {var : String}
    (other : ∀ id, tree.paramName? = some id → id.text ≠ var) :
    Keeping (SameType var) (enterParameter context code tree) := by
  have alone {α : Type} {x : Tracking α} (h : Keeping SameVariables x) : Keeping (SameType var) x :=
    fun s => (h s).sameType var
  cases tree with
  | typedParam id hint =>
    change Keeping (SameType var) (followHint context code id.text hint)
    unfold followHint
    split
    · exact .pure _
    · refine (alone (classOf?_variables context _)).bind fun found => ?_
      split
      · exact .pure _
      · exact Keeping.bind (fun _ => ⟨rfl, rfl⟩) fun _ =>
          (alone (note_variables _)).bind fun _ =>
            (setVariable_sameType (other id rfl) _).bind fun _ => alone (note_variables _)
  | param id =>
    have typed (type : Option String) (event : Event) :
        Keeping (SameType var) (do setVariable id.text type; note event) :=
      (setVariable_sameType (other id rfl) type).bind fun _ => alone (note_variables event)
    change Keeping (SameType var) (followParameter context code id.text)
    refine Keeping.get.bind fun s => ?_
    split
    · exact typed _ _
    · exact typed _ _
    · exact typed _ _
  | _ => exact .pure _

theorem enterParameters_sameType (context : Context) (code : String) {params : List Tree}
    {var : String} (others : ∀ tree ∈ params, ∀ id, tree.paramName? = some id → id.text ≠ var) :
    Keeping (SameType var) (params.forM (enterParameter context code)) := by
  induction params with
  | nil => exact .pure _
  | cons tree params ih =>
    refine (enterParameter_sameType context code (others tree List.mem_cons_self)).bind fun _ => ?_
    exact ih fun other member => others other (List.mem_cons_of_mem _ member)

/-! ### One step -/

/-- Steps that neither enter nor leave a definition change what is known of a variable only if they
assign it. -/
theorem follow_sameType (context : Context) (s : State) {step : Step} {var : String}
    (unassigned : var ∉ assignedBy step)
    (plain : ∀ sort, step.enters sort = false ∧ step.leaves sort = false) :
    SameType var s (follow context step s).2 := by
  cases step with
  | enterModule | leaveModule => exact ⟨rfl, rfl⟩
  | enterClass => cases (plain .classes).1
  | leaveClass => cases (plain .classes).2
  | enterFunction => cases (plain .functions).1
  | leaveFunction => cases (plain .functions).2
  | assign position targets value => exact followAssignment_sameType context value unassigned s
  | importNames aliases => exact (followImport_variables context aliases s).sameType var
  | importFrom module aliases =>
    exact (followImportFrom_variables context module aliases s).sameType var
  | call func args => exact (followCall_variables context func args s).sameType var
  | «attribute» value attr =>
    exact (followAttribute_variables context value attr.text s).sameType var
  | name id => exact (followName_variables context id.text s).sameType var

/-- Outside the steps of functions, a variable of the open function keeps its type unless it is
assigned. Classes do not matter. -/
theorem follow_localType (context : Context) (s : State) {step : Step} {var : String}
    (unassigned : var ∉ assignedBy step)
    (plain : step.enters .functions = false ∧ step.leaves .functions = false) :
    (follow context step s).2.localTypes.get? var = s.localTypes.get? var := by
  cases step with
  | enterClass | leaveClass => rfl
  | enterFunction => cases plain.1
  | leaveFunction => cases plain.2
  | _ =>
    refine (follow_sameType context s unassigned fun sort => ?_).localType
    cases sort <;> exact ⟨rfl, rfl⟩

/-! ### Runs -/

theorem exists_of_followed?_append {context : Context} {xs ys : List Step} {s t : State}
    (run : followed? context (xs ++ ys) s = some t) :
    ∃ middle, followed? context xs s = some middle ∧ followed? context ys middle = some t := by
  rw [followed?_append] at run
  exact Option.bind_eq_some_iff.mp run

theorem followed?_of_cons {context : Context} {step : Step} {steps : List Step}
    {s t : State} (run : followed? context (step :: steps) s = some t) :
    followed? context steps (follow context step s).2 = some t := by
  rw [← List.singleton_append] at run
  obtain ⟨middle, first, rest⟩ := exists_of_followed?_append run
  rwa [← eq_of_followed?_single first]

end Usage

end CodeMap
