/-
Types of attributes, looked up in vain.

Where the type of a variable is not known in the open function, the analysis looks it up among the
types of the attributes of the open class. All entries there are for attributes of `self`, under
names such as `self.x`, and they stay so (`Owned`); but what the analysis asks for are single
identifiers. Main statement: with every lookup an analysis does the same as with the one that finds
nothing, on every module and with every model (`attribute_types_have_no_effect`).
-/

import CodeMap.Proofs.Variables

namespace CodeMap.Usage

open Source Text

/-! ### Entries for attributes of `self` -/

/-- All entries are for attributes of `self`. -/
def Owned (types : VariableTypes) : Prop :=
  ∀ var type, types.get? var = some type → isOwn var = true

theorem Owned.empty : Owned ∅ := by
  rintro var type ⟨⟩

theorem Owned.insert {types : VariableTypes} (owned : Owned types) {attr : String}
    (own : isOwn attr = true) (type : Option String) : Owned (types.insert attr type) := by
  intro var other found
  rw [Table.get?_insert] at found
  split at found
  · rename_i same
    rw [← same]
    exact own
  · exact owned var other found

/-- No lookup finds a type for a name that is not one of an attribute of `self`. -/
theorem Owned.find_eq_none {types : VariableTypes} (owned : Owned types) {var : String}
    (single : isOwn var = false) (lookup : Lookup) : lookup.find types var = none := by
  cases found : lookup.find types var with
  | none => rfl
  | some type =>
    have stored := owned var _ (Option.join_eq_some_iff.mp (lookup.sound found))
    rw [single] at stored
    cases stored

/-- If all entries were for attributes of `self`, they are so afterwards. -/
def KeepsOwned (before after : State) : Prop :=
  Owned before.attributeTypes → Owned after.attributeTypes

instance : Passing KeepsOwned where
  refl _ := id
  trans h h' := h' ∘ h

theorem SameVariables.keepsOwned {s t : State} (same : SameVariables s t) : KeepsOwned s t := by
  rw [KeepsOwned, same.attributeTypes]
  exact id

theorem setAttribute_keepsOwned {attr : String} (own : isOwn attr = true) (type : Option String) :
    Keeping KeepsOwned (setAttribute attr type) :=
  fun _ owned => owned.insert own type

theorem followTarget_keepsOwned (context : Context) (code : String) (value target : Tree) :
    KeepingRun KeepsOwned (followTarget context code value target) := by
  have typing : KeepingRun KeepsOwned (typeOfTree? context value) :=
    fun s => (typeOfTree?_variables context value s).keepsOwned
  unfold followTarget
  split
  · exact typing.bind fun _ => .after (fun _ => id) fun _ => .lift fun _ => id
  · split
    · exact typing.bind fun type => .after (fun _ => id) fun _ =>
        .after (setAttribute_keepsOwned (isOwn_attribute _) type) fun _ =>
          .after Keeping.get fun _ => .lift fun _ => id
    · exact .pure _
  · exact .pure _

theorem leaveFunction_keepsOwned : Keeping KeepsOwned leaveFunction := by
  have merge (entry : String × Option String) : Keeping KeepsOwned (mergeType entry) :=
    mergeType_keeping (fun own => setAttribute_keepsOwned own entry.2) fun _ _ => id
  rw [leaveFunction_eq]
  exact Keeping.get.bind fun s => (Keeping.forM merge s.localTypes.entries).bind fun _ _ => id

/-- A step makes entries for attributes of `self` alone. -/
theorem follow_keepsOwned (context : Context) (step : Step) :
    KeepingRun KeepsOwned (follow context step) := by
  cases step with
  | enterModule | leaveModule | leaveClass => exact fun _ => id
  | enterClass => exact fun _ _ => .empty
  | enterFunction position name params =>
    intro s
    obtain ⟨model, locals, -, run⟩ := enterFunction_apply context name.text params s
    have same : (follow context (.enterFunction position name params) s).2 = _ := run
    rw [same]
    exact id
  | leaveFunction => exact .lift leaveFunction_keepsOwned
  | assign position targets value =>
    refine .after openCode?_keeping fun code => ?_
    split
    · exact .pure _
    · exact .forM (fun target => followTarget_keepsOwned context _ value target) targets
  | importNames aliases => exact fun s => (followImport_variables context aliases s).keepsOwned
  | importFrom module aliases =>
    exact fun s => (followImportFrom_variables context module aliases s).keepsOwned
  | call func args => exact fun s => (followCall_variables context func args s).keepsOwned
  | «attribute» value attr =>
    exact fun s => (followAttribute_variables context value attr.text s).keepsOwned
  | name id => exact fun s => (followName_variables context id.text s).keepsOwned

/-! ### Functions that coincide -/

section Coinciding

variable {α β : Type}

/-- The functions do the same wherever all entries are for attributes of `self`. -/
def Coincide (x y : Tracking α) : Prop :=
  ∀ s, Owned s.attributeTypes → x s = y s

/-- The same of functions that can meet a fault. -/
def CoincideRun (x y : Analysis α) : Prop :=
  ∀ s, Owned s.attributeTypes → x s = y s

theorem Coincide.refl (x : Tracking α) : Coincide x x := fun _ _ => rfl

/-- What follows is the same. -/
theorem Coincide.before {x y : Tracking α} (h : Coincide x y) (f : α → Tracking β) :
    Coincide (x >>= f) (y >>= f) := by
  intro s owned
  rw [Tracking.bind_apply, Tracking.bind_apply, h s owned]

namespace CoincideRun

theorem refl (x : Analysis α) : CoincideRun x x := fun _ _ => rfl

theorem before {x y : Analysis α} (h : CoincideRun x y) (f : α → Analysis β) :
    CoincideRun (x >>= f) (y >>= f) := by
  intro s owned
  rw [KeepingRun.bind_apply, KeepingRun.bind_apply, h s owned]

theorem lift {x y : Tracking α} (h : Coincide x y) : CoincideRun (liftM x) (liftM y) := by
  intro s owned
  change ((.ok (x s).1, (x s).2) : Except Fault α × State) = (.ok (y s).1, (y s).2)
  rw [h s owned]

theorem bind {x y : Analysis α} {f g : α → Analysis β} (hx : CoincideRun x y)
    (keeps : KeepingRun KeepsOwned x) (hf : ∀ a, CoincideRun (f a) (g a)) :
    CoincideRun (x >>= f) (y >>= g) := by
  intro s owned
  have after := keeps s owned
  rw [KeepingRun.bind_apply, KeepingRun.bind_apply, ← hx s owned]
  rcases run : x s with ⟨result, t⟩
  rw [run] at after
  cases result with
  | ok a => exact hf a t after
  | error fault => rfl

/-- What comes first is the same. -/
theorem after {x : Analysis α} {f g : α → Analysis β} (keeps : KeepingRun SameVariables x)
    (hf : ∀ a, CoincideRun (f a) (g a)) : CoincideRun (x >>= f) (x >>= g) :=
  (refl x).bind (fun s => (keeps s).keepsOwned) hf

theorem lift_after {x : Tracking α} {f g : α → Analysis β} (keeps : Keeping SameVariables x)
    (hf : ∀ a, CoincideRun (f a) (g a)) : CoincideRun (liftM x >>= f) (liftM x >>= g) :=
  after (KeepingRun.lift keeps) hf

theorem forM {f g : α → Analysis PUnit} (h : ∀ a, CoincideRun (f a) (g a))
    (keeps : ∀ a, KeepingRun KeepsOwned (f a)) (xs : List α) :
    CoincideRun (xs.forM f) (xs.forM g) := by
  induction xs with
  | nil => exact refl _
  | cons a xs ih => exact (h a).bind (keeps a) fun _ => ih

end CoincideRun

end Coinciding

/-! ### One function after the other -/

/-- The context with no types of attributes to be found. -/
abbrev Context.withoutLookup (context : Context) : Context :=
  { context with lookup := .nothing }

variable (context : Context)

theorem typeOf?_coincides {var : String} (single : isOwn var = false) (lookup : Lookup) :
    Coincide (typeOf? lookup var) (typeOf? .nothing var) := by
  intro s owned
  unfold typeOf?
  rw [Tracking.bind_apply, Tracking.bind_apply, Tracking.get_apply]
  dsimp only
  rw [owned.find_eq_none single lookup]
  rfl

theorem typeOfTree?_coincides (tree : Tree) :
    CoincideRun (typeOfTree? context tree) (typeOfTree? context.withoutLookup tree) := by
  cases tree with
  | name id => exact .before (.lift (typeOf?_coincides (isOwn_identifier id) _)) _
  | «attribute» value attr =>
    exact .before (.lift (typeOf?_coincides (isOwn_identifier attr) _)) _
  | _ => exact .refl _

theorem inferArgument_coincides (code : String) (argument : Tree) (parameter : String) :
    CoincideRun (inferArgument context code argument parameter)
      (inferArgument context.withoutLookup code argument parameter) :=
  (typeOfTree?_coincides context argument).before _

theorem inferArguments_coincides (code : String) (arguments : List Tree) :
    CoincideRun (inferArguments context code arguments)
      (inferArguments context.withoutLookup code arguments) := by
  have each (element : Element) : CoincideRun
      ((arguments.zip element.parameters).forM fun pair =>
        inferArgument context code pair.1 pair.2)
      ((arguments.zip element.parameters).forM fun pair =>
        inferArgument context.withoutLookup code pair.1 pair.2) :=
    .forM (fun _ => inferArgument_coincides context code _ _)
      (fun _ s => (inferArgument_variables context code _ _ s).keepsOwned) _
  refine .after KeepingRun.get fun s => ?_
  split
  · exact .refl _
  · refine .lift_after (symbol?_keeping _) fun found => ?_
    cases found.filter (·.isCode) with
    | none => exact .refl _
    | some element =>
      dsimp only
      split
      · exact .refl _
      · refine .after KeepingRun.get fun s => ?_
        split
        · exact each element
        · exact .after (fun _ => ⟨rfl, rfl⟩) fun _ => each element

theorem dottedTarget?_coincides (name : String) :
    Coincide (dottedTarget? context name) (dottedTarget? context.withoutLookup name) :=
  (typeOf?_coincides (isOwn_first name) _).before _

theorem called?_coincides (name : String) :
    Coincide (called? context name) (called? context.withoutLookup name) := by
  unfold called?
  split
  · exact .refl _
  · split
    · exact (dottedTarget?_coincides context name).before _
    · exact .refl _

theorem followTarget_coincides (code : String) (value target : Tree) :
    CoincideRun (followTarget context code value target)
      (followTarget context.withoutLookup code value target) := by
  have typing := typeOfTree?_coincides context value
  cases target with
  | name id => exact typing.before _
  | «attribute» owner attr =>
    cases owner with
    | name id =>
      unfold followTarget
      dsimp only
      split
      · exact typing.before _
      · exact .refl _
    | _ => exact .refl _
  | _ => exact .refl _

theorem followAssignment_coincides (targets : List Tree) (value : Tree) :
    CoincideRun (followAssignment context targets value)
      (followAssignment context.withoutLookup targets value) := by
  refine .lift_after openCode?_keeping fun code => ?_
  cases code with
  | none => exact .refl _
  | some code =>
    exact .forM (fun target => followTarget_coincides context code value target)
      (fun target => followTarget_keepsOwned context code value target) targets

theorem followCall_coincides (func : Tree) (arguments : List Tree) :
    CoincideRun (followCall context func arguments)
      (followCall context.withoutLookup func arguments) := by
  refine .lift_after (calledName?_variables func) fun name => .lift_after Keeping.get fun s =>
    .lift_after (note_variables _) fun _ => ?_
  cases name with
  | none => exact .refl _
  | some name =>
    refine .bind (.lift (called?_coincides context name)) ?_ fun found => ?_
    · exact fun s => (called?_variables context name s).keepsOwned
    · cases found.filter (·.isCode) with
      | none => exact .refl _
      | some element =>
        refine .lift_after openCode?_keeping fun code => ?_
        cases code with
        | none => exact inferArguments_coincides context element.uniqueName arguments
        | some code =>
          exact .lift_after (recordCall_variables _) fun _ =>
            .lift_after (note_variables _) fun _ =>
              inferArguments_coincides context element.uniqueName arguments

theorem followAttributeOf_coincides (code attr : String) (id : Identifier) :
    CoincideRun (followAttributeOf context code id.text attr)
      (followAttributeOf context.withoutLookup code id.text attr) := by
  refine .after KeepingRun.get fun s => ?_
  split
  · exact .refl _
  · cases (s.parameterTypes.get? code).bind (·.get? id.text) with
    | none => exact .before (.lift (typeOf?_coincides (isOwn_identifier id) _)) _
    | some types => exact .refl _

theorem followAttribute_coincides (value : Tree) (attr : String) :
    CoincideRun (followAttribute context value attr)
      (followAttribute context.withoutLookup value attr) := by
  refine .lift_after openCode?_keeping fun code => ?_
  cases code with
  | none => exact .refl _
  | some code =>
    cases value with
    | name id => exact followAttributeOf_coincides context code attr id
    | _ => exact .refl _

theorem follow_coincides (step : Step) :
    CoincideRun (follow context step) (follow context.withoutLookup step) := by
  cases step with
  | assign position targets value => exact followAssignment_coincides context targets value
  | call func arguments => exact followCall_coincides context func arguments
  | «attribute» value attr => exact followAttribute_coincides context value attr.text
  -- No other step looks up a type.
  | _ => exact .refl _

theorem followAll_coincides (steps : List Step) :
    CoincideRun (followAll context steps) (followAll context.withoutLookup steps) := by
  induction steps with
  | nil => exact .refl _
  | cons step steps ih =>
    exact (follow_coincides context step).bind (follow_keepsOwned context step) fun _ => ih

/-! ### Types of attributes have no effect -/

/-- On any module, with any names and any types of parameters known at the start, an analysis that
looks up types of attributes, be it as they are stored, comes to the same result and to the same
state as one that finds none of them. So it records the same calls, accesses and external code,
reports the same, and meets the same fault if it meets one. -/
theorem attribute_types_have_no_effect (context : Context) (lookup : Lookup) (body : List Tree)
    (model : Model) (parameterTypes : ParameterTypes) :
    let start : State := { model := model, parameterTypes := parameterTypes }
    analyse { context with lookup := lookup } body start =
      analyse { context with lookup := .nothing } body start :=
  followAll_coincides { context with lookup := lookup } (walkModule body) _ .empty

end CodeMap.Usage
