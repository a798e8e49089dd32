/-
The types of attributes of `self`, and calls on them.

The type that a method gives to an attribute of `self` is handed to the class when the method is
left, and no other method loses it (`Remembered`). A call on the attribute does not ask for it:
after `self` only one name is looked up, as a method of the class. Main statement: when a later
method calls a method on the attribute, the type of the attribute is known, and what is recorded for
the call is the method of the class that has the name of the attribute, if there is one, and nothing
otherwise (`attribute_call_of_own_method`).
-/

import CodeMap.Proofs.MemberCalls
import CodeMap.Proofs.Variables

namespace CodeMap

open Source

namespace Usage

variable (context : Context) {s t : State} {var type : String}

/-! ### A type that is remembered -/

/-- The class knows the type of an attribute, and the open function knows no other one. -/
structure Remembered (var type : String) (state : State) : Prop where
  attributeType : state.attributeTypes.get? var = some (some type)
  localType : state.localTypes.get? var = none ∨ state.localTypes.get? var = some (some type)

theorem Remembered.of_sameType (remembered : Remembered var type s) (same : SameType var s t) :
    Remembered var type t :=
  ⟨same.attributeType.trans remembered.attributeType, same.localType ▸ remembered.localType⟩

/-- The type of the variable that the analysis comes to is the one that is remembered. -/
theorem Remembered.typeOf? (remembered : Remembered var type s) :
    (typeOf? .stored var s).1 = some type := by
  have stored : Lookup.stored.find s.attributeTypes var = some type :=
    Option.join_eq_some_iff.mpr remembered.attributeType
  unfold Usage.typeOf?
  rw [Tracking.bind_apply, Tracking.get_apply, stored]
  rcases remembered.localType with unknown | known
  · rw [unknown]
    rfl
  · rw [known, Option.join_some]
    cases said : given (some type) with
    | none => rfl
    | some other =>
      rw [(given_eq_some said).1]
      rfl

theorem Remembered.enterFunction (remembered : Remembered var type s) (own : isOwn var = true)
    (name : String) (params : List Tree) :
    Remembered var type (enterFunction context name params s).2 := by
  let unique := s.nameOfFunction context name
  have others : ∀ tree ∈ params, ∀ id, tree.paramName? = some id → id.text ≠ var := by
    rintro tree - id - rfl
    rw [isOwn_identifier] at own
    cases own
  have same : SameType var (s.inFunction unique) (Usage.enterFunction context name params s).2 :=
    enterParameters_sameType context unique others (s.inFunction unique)
  have opened : Remembered var type (s.inFunction unique) := ⟨remembered.attributeType, .inl rfl⟩
  exact opened.of_sameType same

/-- A function that is left hands on the type that is remembered, or none. -/
theorem Remembered.leaveFunction (remembered : Remembered var type s) :
    Remembered var type (leaveFunction s).2 := by
  let known : State → Prop := fun state => state.attributeTypes.get? var = some (some type)
  have merged : ∀ entry ∈ s.localTypes.entries,
      Upholding known (mergeType entry) fun _ => True := by
    intro entry member
    have found : s.localTypes.get? entry.1 = some entry.2 := Table.get?_eq_some_iff.mpr member
    have kept : ∀ state, known state →
        known { state with attributeTypes := state.attributeTypes.insert entry.1 entry.2 } := by
      intro state before
      by_cases same : entry.1 = var
      · rw [same] at found
        have : entry.2 = some type := by
          rcases remembered.localType with unknown | typed
          · rw [unknown] at found
            cases found
          · exact Option.some.inj (found.symm.trans typed)
        simp [known, same, this]
      · simp only [known, Table.get?_insert_of_ne _ _ same]
        exact before
    unfold mergeType
    split
    · exact (Upholding.modify kept).bind fun _ _ => Upholding.get_bind fun _ _ =>
        Upholding.modify fun _ before => before
    · exact .pure trivial
  have handed := (Upholding.forM merged s remembered.attributeType).1
  exact ⟨handed, .inl rfl⟩

/-- A type is remembered until the attribute is assigned or another class is entered. -/
theorem Remembered.follow (remembered : Remembered var type s) (own : isOwn var = true)
    {step : Step} (sameClass : step.enters .classes = false) (unassigned : var ∉ assignedBy step) :
    Remembered var type (follow context step s).2 := by
  cases step with
  | enterClass => cases sameClass
  | leaveClass => exact ⟨remembered.attributeType, remembered.localType⟩
  | enterFunction position name params =>
    exact remembered.enterFunction context own name.text params
  | leaveFunction => exact remembered.leaveFunction
  | _ =>
    refine remembered.of_sameType (follow_sameType context s unassigned fun sort => ?_)
    cases sort <;> exact ⟨rfl, rfl⟩

theorem Remembered.followed {steps : List Step} (remembered : Remembered var type s)
    (own : isOwn var = true) (sameClass : ∀ step ∈ steps, step.enters .classes = false)
    (unassigned : ∀ step ∈ steps, var ∉ assignedBy step)
    (run : followed? context steps s = some t) : Remembered var type t := by
  induction steps generalizing s with
  | nil => exact Option.some.inj run ▸ remembered
  | cons step steps ih =>
    have next := remembered.follow context own (sameClass step List.mem_cons_self)
      (unassigned step List.mem_cons_self)
    exact ih next (fun other member => sameClass other (List.mem_cons_of_mem _ member))
      (fun other member => unassigned other (List.mem_cons_of_mem _ member))
      (followed?_of_cons run)

/-! ### The assignment -/

variable {func : Tree} {element : Element}

/-- What a name stands for as a class it goes on to stand for. -/
theorem class?_of_widens {name : Option String} (names : s.class? context name = some element)
    (imports : t.imports = s.imports) (widens : s.model.Widens t.model) :
    t.class? context name = some element := by
  obtain ⟨said, isGiven, found⟩ := Option.bind_eq_some_iff.mp names
  obtain ⟨stands, isGrouping⟩ := Option.filter_eq_some_iff.mp found
  refine Option.bind_eq_some_iff.mpr ⟨said, isGiven, ?_⟩
  rw [imports]
  exact Option.filter_eq_some_iff.mpr ⟨widens.kept stands, isGrouping⟩

/-- The type of a construction is the class that is constructed. -/
theorem constructed?_class
    (names : s.class? context (dottedName? (innermostCallee func)) = some element) :
    ∃ model, s.model.Widens model ∧
      constructed? context func s = (some element.uniqueName, { s with model := model }) := by
  obtain ⟨type, model, run, -⟩ := constructed?_apply context func s
  have widens := (constructed?_extends context func s).recording.widens
  rw [run] at widens
  refine ⟨model, widens, ?_⟩
  have typed : (constructed? context func s).1 = some element.uniqueName := by
    obtain ⟨named, naming, run⟩ := calledName?_apply func s
    obtain ⟨classed, classing, run'⟩ :=
      classOf?_apply context (dottedName? (innermostCallee func)) { s with model := named }
    have same : ({ s with model := named } : State).class? context
        (dottedName? (innermostCallee func)) = some element :=
      class?_of_widens context names rfl naming.widens
    unfold constructed?
    rw [Tracking.bind_apply, run, Tracking.bind_apply, run', same]
    dsimp only
    rw [Tracking.bind_apply, symbol?_apply]
    cases ((classed.symbol? (element.uniqueName ++ ".__init__")).filter (·.isCode)) with
    | none => rfl
    | some init => rfl
  rw [run] at typed ⊢
  rw [← typed]

/-- To assign a construction to a target makes its class the type of the variable. -/
theorem followTarget_constructs
    (names : s.class? context (dottedName? (innermostCallee func)) = some element)
    (own : isOwn var = true) (code : String) (args keywords : List Tree) (target : Tree) :
    ∃ t, followTarget context code (.call func args keywords) target s = (.ok (), t) ∧
      t.imports = s.imports ∧ s.model.Widens t.model ∧
      (assigned? target = some var → Remembered var element.uniqueName t) ∧
      (assigned? target ≠ some var → SameType var s t) := by
  obtain ⟨model, widens, run⟩ := constructed?_class context names
  have typed (next : Option String → Analysis Unit) :
      (typeOfTree? context (.call func args keywords) >>= next) s =
        next (some element.uniqueName) { s with model := model } := by
    change (liftM (constructed? context func) >>= next : Analysis Unit) s = _
    rw [Analysis.lift_bind_apply, run]
  unfold followTarget assigned?
  split
  · rename_i id
    rw [typed]
    refine ⟨_, rfl, rfl, widens.trans (.of_eq rfl rfl), ?_, ?_⟩
    · rintro ⟨⟩
      rw [isOwn_identifier] at own
      cases own
    · intro other
      exact ⟨Table.get?_insert_of_ne _ _ (by simpa using other), rfl⟩
  · rename_i id attr
    by_cases isSelf : id.text = "self"
    · simp only [if_pos isSelf, typed]
      refine ⟨_, rfl, rfl, widens.trans (.of_eq rfl rfl), ?_, ?_⟩
      · rintro ⟨⟩
        exact ⟨Table.get?_insert_self _ _ _, .inr (Table.get?_insert_self _ _ _)⟩
      · intro other
        have other : "self." ++ attr.text ≠ var := by simpa using other
        exact ⟨Table.get?_insert_of_ne _ _ other, Table.get?_insert_of_ne _ _ other⟩
    · simp only [if_neg isSelf]
      exact ⟨s, rfl, rfl, .refl _, by simp, fun _ => ⟨rfl, rfl⟩⟩
  · exact ⟨s, rfl, rfl, .refl _, by simp, fun _ => ⟨rfl, rfl⟩⟩

/-- Once a construction has been assigned to an attribute, its class is remembered. -/
theorem followTargets_remembered
    (names : s.class? context (dottedName? (innermostCallee func)) = some element)
    (own : isOwn var = true) (code : String) (args keywords : List Tree) {targets : List Tree}
    (known : Remembered var element.uniqueName s ∨ var ∈ targets.filterMap assigned?) :
    Remembered var element.uniqueName
      (targets.forM (followTarget context code (.call func args keywords)) s).2 := by
  induction targets generalizing s with
  | nil => exact known.resolve_right (by simp)
  | cons target targets ih =>
    obtain ⟨t, run, imports, widens, typed, untouched⟩ :=
      followTarget_constructs context names own code args keywords target
    have rest : ((target :: targets).forM (followTarget context code (.call func args keywords))
        s).2 = (targets.forM (followTarget context code (.call func args keywords)) t).2 := by
      change ((followTarget context code (.call func args keywords) target >>= fun _ => _) s).2 = _
      rw [KeepingRun.bind_apply, run]
    rw [rest]
    refine ih (class?_of_widens context names imports widens) ?_
    by_cases now : assigned? target = some var
    · exact .inl (typed now)
    · refine known.imp (fun remembered => remembered.of_sameType (untouched now)) fun member => ?_
      obtain ⟨tree, listed, same⟩ := List.mem_filterMap.mp member
      rcases List.mem_cons.mp listed with rfl | later
      · exact absurd same now
      · exact List.mem_filterMap.mpr ⟨tree, later, same⟩

/-- In a function, the assignment of a construction to an attribute of `self` makes the class known
as the type of the attribute. -/
theorem follow_assign_remembered {code : String} (isOpen : s.openCode = some code)
    (named : code ≠ "")
    (names : s.class? context (dottedName? (innermostCallee func)) = some element)
    (own : isOwn var = true) (position : Position) (args keywords : List Tree)
    {targets : List Tree} (target : var ∈ targets.filterMap assigned?) :
    Remembered var element.uniqueName
      (follow context (.assign position targets (.call func args keywords)) s).2 := by
  change Remembered var element.uniqueName
    (followAssignment context targets (.call func args keywords) s).2
  unfold followAssignment
  rw [Analysis.lift_bind_apply, openCode?_apply isOpen named]
  exact followTargets_remembered context names own code args keywords (.inr target)

end Usage

/-! ### Methods of a class -/

/-- A step in a method that has no inner functions. -/
structure MethodStep where
  position : Position
  name : Identifier
  before : List Tree
  params : List Tree
  after : List Tree
  noFunction : (before ++ params ++ after).any (·.defines .functions) = false
  earlier : List Step
  step : Step
  later : List Step
  walk : walkAll (before ++ params ++ after) = earlier ++ step :: later

namespace MethodStep

def method (place : MethodStep) : Tree :=
  .functionDef place.position place.name place.before place.params place.after

/-- The steps from the start of the method to the step. -/
def reached (place : MethodStep) : List Step :=
  .enterFunction place.position place.name place.params :: place.earlier

theorem walk_method (place : MethodStep) :
    place.method.walk = place.reached ++ place.step :: (place.later ++ [.leaveFunction]) := by
  rw [Tree.walk_eq]
  change [_] ++ walkAll (place.before ++ place.params ++ place.after) ++ [_] = _
  rw [place.walk]
  simp [reached]

/-- At the step the method is open. -/
theorem openCode_of_reached (place : MethodStep) {context : Usage.Context} {s t : Usage.State}
    {owner : String} (inClass : s.openClass = some owner) (named : owner ≠ "")
    (run : Usage.followed? context place.reached s = some t) :
    t.openCode = some (owner ++ "." ++ place.name.text) := by
  have plain : ∀ step ∈ place.earlier,
      step.enters .functions = false ∧ step.leaves .functions = false := by
    intro step member
    apply steps_of_none_defines place.noFunction
    rw [place.walk]
    exact List.mem_append_left _ member
  have name : s.nameOfFunction context place.name.text = owner ++ "." ++ place.name.text := by
    rw [Usage.State.nameOfFunction, inClass, Usage.given_some named, Option.getD_some]
  let entered := (Usage.follow context (.enterFunction place.position place.name place.params) s).2
  have opened : entered.openCode = some (s.nameOfFunction context place.name.text) :=
    congrArg Scope.openCode (Usage.follow_scope context s _)
  have kept : t.openCode = entered.openCode :=
    (Usage.reader context).opened_of_read_quiet plain (Usage.followed?_of_cons run)
  rw [kept, opened, name]

end MethodStep

/-- A class without inner classes, in which a method assigns a construction to an attribute of
`self`, and a later method calls a method on the attribute, which is not assigned in between. -/
structure AttributeCall where
  position : Position
  name : Identifier
  earlier : List Tree
  assigning : MethodStep
  between : List Tree
  calling : MethodStep
  later : List Tree
  noClass : (earlier ++ assigning.method :: (between ++ calling.method :: later)).any
    (·.defines .classes) = false
  attr : Identifier
  place : Position
  targets : List Tree
  /-- What is constructed. -/
  func : Tree
  args : List Tree
  keywords : List Tree
  assigns : assigning.step = .assign place targets (.call func args keywords)
  target : .attribute (.name .self) attr ∈ targets
  called : Identifier
  arguments : List Tree
  calls : calling.step = .call (.attribute (.attribute (.name .self) attr) called) arguments
  unassigned : ∀ step ∈ assigning.later ++ walkAll between ++ calling.earlier,
    "self." ++ attr.text ∉ Usage.assignedBy step

namespace AttributeCall

variable (use : AttributeCall)

def body : List Tree :=
  use.earlier ++ use.assigning.method :: (use.between ++ use.calling.method :: use.later)

def tree : Tree := .classDef use.position use.name use.body

def var : String := "self." ++ use.attr.text

/-- The steps of the class before the assignment. -/
def toAssignment : List Step :=
  .enterClass use.position use.name :: (walkAll use.earlier ++ use.assigning.reached)

/-- The steps from the assignment to the method of the call. -/
def toCaller : List Step :=
  use.assigning.step :: (use.assigning.later ++ [.leaveFunction] ++ walkAll use.between)

/-- The steps of the class before the call. -/
def toCall : List Step := use.toAssignment ++ (use.toCaller ++ use.calling.reached)

theorem toCall_prefix : use.toCall.tail ++ [use.calling.step] <+: walkAll use.body := by
  refine ⟨use.calling.later ++ [.leaveFunction] ++ walkAll use.later, ?_⟩
  simp [body, toCall, toCaller, toAssignment, walkAll_append, walkAll, MethodStep.walk_method]

theorem exists_walk_tree :
    ∃ rest, use.tree.walk = use.toCall ++ ([use.calling.step] ++ rest) := by
  obtain ⟨rest, inside⟩ := use.toCall_prefix
  refine ⟨rest ++ [.leaveClass], ?_⟩
  rw [Tree.walk_eq]
  change [_] ++ walkAll use.body ++ [_] = _
  rw [← inside]
  simp [toCall, toAssignment]

/-- In the class no other class is entered or left. -/
theorem sameClass : ∀ step ∈ walkAll use.body,
    step.enters .classes = false ∧ step.leaves .classes = false :=
  steps_of_none_defines use.noClass

theorem isOwn_var : Usage.isOwn use.var = true :=
  Usage.isOwn_attribute _

theorem var_mem_assigned : use.var ∈ use.targets.filterMap Usage.assigned? := by
  refine List.mem_filterMap.mpr ⟨_, use.target, ?_⟩
  rw [Usage.assigned?, if_pos Identifier.text_self, var]

/-- After the assignment the attribute is not assigned until the call. -/
theorem var_not_mem_assignedBy : ∀ step ∈ use.toCaller.tail ++ use.calling.reached,
    use.var ∉ Usage.assignedBy step := by
  intro step member
  have cases : step ∈ use.assigning.later ++ walkAll use.between ++ use.calling.earlier ∨
      step = .leaveFunction ∨
      step = .enterFunction use.calling.position use.calling.name use.calling.params := by
    simp only [toCaller, MethodStep.reached, List.tail_cons, List.mem_append, List.mem_cons,
      List.not_mem_nil, or_false] at member ⊢
    tauto
  rcases cases with other | rfl | rfl
  · exact use.unassigned step other
  · exact List.not_mem_nil
  · exact List.not_mem_nil

variable {use} {context : Usage.Context} {s t : Usage.State}

theorem openClass_of_followed? {steps : List Step} (inside : steps <+: walkAll use.body)
    (run : Usage.followed? context (.enterClass use.position use.name :: steps) s = some t) :
    t.openClass = some (context.module ++ "." ++ use.name.text) :=
  (Usage.reader context).opened_of_read_quiet
    (fun step member => use.sameClass step (inside.subset member)) (Usage.followed?_of_cons run)

theorem openCode_of_toAssignment (run : Usage.followed? context use.toAssignment s = some t) :
    t.openCode =
      some (context.module ++ "." ++ use.name.text ++ "." ++ use.assigning.name.text) := by
  have run : Usage.followed? context
      ((.enterClass use.position use.name :: walkAll use.earlier) ++ use.assigning.reached) s =
        some t := run
  obtain ⟨before, first, method⟩ := Usage.exists_of_followed?_append run
  have early : walkAll use.earlier <+: walkAll use.body := by
    rw [body, walkAll_append]
    exact List.prefix_append _ _
  exact use.assigning.openCode_of_reached (openClass_of_followed? early first)
    (Text.Dotted.append_dot_ne_empty _ _) method

theorem openCode_of_toCall (run : Usage.followed? context use.toCall s = some t) :
    t.openCode =
      some (context.module ++ "." ++ use.name.text ++ "." ++ use.calling.name.text) := by
  rw [toCall, ← List.append_assoc] at run
  obtain ⟨before, first, method⟩ := Usage.exists_of_followed?_append run
  have early : (use.toAssignment ++ use.toCaller).tail <+: walkAll use.body := by
    refine List.IsPrefix.trans ⟨use.calling.reached ++ [use.calling.step], ?_⟩ use.toCall_prefix
    simp [toCall, toAssignment]
  exact use.calling.openCode_of_reached (openClass_of_followed? early first)
    (Text.Dotted.append_dot_ne_empty _ _) method

/-- The class that was constructed is remembered until the call. -/
theorem remembered_of_toCall {w : Usage.State} {element : Element}
    (reached : Usage.followed? context use.toAssignment s = some w)
    (constructs : w.class? context (Usage.dottedName? (Usage.innermostCallee use.func)) =
      some element)
    (run : Usage.followed? context use.toCall s = some t) :
    Usage.Remembered use.var element.uniqueName t := by
  obtain ⟨there, first, rest⟩ := Usage.exists_of_followed?_append run
  obtain rfl : there = w := Option.some.inj (first.symm.trans reached)
  have assigned := Usage.follow_assign_remembered context (openCode_of_toAssignment reached)
    (Text.Dotted.append_dot_ne_empty _ _) constructs use.isOwn_var use.place use.args use.keywords
    use.var_mem_assigned
  rw [← use.assigns] at assigned
  have sameClass : ∀ step ∈ use.toCaller.tail ++ use.calling.reached,
      step.enters .classes = false := by
    intro step member
    have inside : step ∈ use.toCall.tail :=
      List.mem_append_right _ (List.mem_cons_of_mem _ member)
    exact (use.sameClass step (use.toCall_prefix.subset (List.mem_append_left _ inside))).1
  exact assigned.followed context use.isOwn_var sameClass use.var_not_mem_assignedBy
    (Usage.followed?_of_cons rest)

end AttributeCall

/-- In a class without inner classes, let a method assign the construction of a class to an
attribute of `self`, and let a later method, before the attribute is assigned again, call a method
on the attribute. If the analysis comes to the end of the class, then at the call the attribute is
known to be of the constructed class. What is recorded is yet another call: that of the method of
the surrounding class that has the name of the attribute. If there is none, nothing is recorded. -/
theorem attribute_call_of_own_method (context : Usage.Context) (use : AttributeCall)
    {s t w : Usage.State} {element : Element}
    (visit : Usage.followed? context use.tree.walk s = some t)
    (reached : Usage.followed? context use.toAssignment s = some w)
    (constructs : (Usage.classOf? context
      (Usage.dottedName? (Usage.innermostCallee use.func)) w).1 = some element) :
    ∃ u v, Usage.followed? context use.toCall s = some u ∧
      Usage.followed? context [use.calling.step] u = some v ∧
      (Usage.typeOf? .stored ("self." ++ use.attr.text) u).1 = some element.uniqueName ∧
      let owner := context.module ++ "." ++ use.name.text
      let caller := owner ++ "." ++ use.calling.name.text
      let own := (u.model.symbol? (owner ++ "." ++ use.attr.text)).filter (·.isCode)
      u.openCode = some caller ∧
      (∀ method, own = some method → ∃ others : Array Call,
        v.model.calls = u.model.calls.push ⟨some caller, method.uniqueName⟩ ++ others) ∧
      (own = none → v.model.calls = u.model.calls) := by
  rw [Usage.classOf?_fst] at constructs
  obtain ⟨rest, walk⟩ := use.exists_walk_tree
  rw [walk] at visit
  obtain ⟨u, toCall, visit⟩ := Usage.exists_of_followed?_append visit
  obtain ⟨v, calling, -⟩ := Usage.exists_of_followed?_append visit
  have remembered := AttributeCall.remembered_of_toCall reached constructs toCall
  have isOpen := AttributeCall.openCode_of_toCall toCall
  have inClass : u.openClass = some (context.module ++ "." ++ use.name.text) :=
    AttributeCall.openClass_of_followed?
      (List.IsPrefix.trans (List.prefix_append _ _) use.toCall_prefix) toCall
  have recorded := Usage.followCall_own context isOpen (Text.Dotted.append_dot_ne_empty _ _)
    Identifier.text_self use.attr use.called use.arguments
  rw [Usage.State.ownCode?, inClass] at recorded
  have after : v.model.calls = (Usage.followCall context
      (.attribute (.attribute (.name .self) use.attr) use.called) use.arguments
      u).2.model.calls := by
    rw [Usage.eq_of_followed?_single calling, use.calls]
    rfl
  refine ⟨u, v, toCall, calling, remembered.typeOf?, isOpen, ?_⟩
  rw [after]
  exact recorded

/-- A class with a method. -/
def engineClass : Tree :=
  .classDef ⟨1, 0⟩ ⟨"Engine", rfl⟩ [.functionDef ⟨2, 4⟩ ⟨"start", rfl⟩ [] [.param .self] []]

/-- A class that keeps what it makes of the first class in an attribute, and calls the method on the
attribute in another method. -/
def carClass : AttributeCall where
  position := ⟨5, 0⟩
  name := ⟨"Car", rfl⟩
  earlier := []
  assigning :=
    { position := ⟨6, 4⟩
      name := ⟨"__init__", rfl⟩
      before := []
      params := [.param .self]
      after := [.assign ⟨7, 8⟩ [.attribute (.name .self) ⟨"engine", rfl⟩]
        (.call (.name ⟨"Engine", rfl⟩) [] [])]
      noFunction := rfl
      earlier := []
      step := _
      later := _
      walk := rfl }
  between := []
  calling :=
    { position := ⟨9, 4⟩
      name := ⟨"drive", rfl⟩
      before := []
      params := [.param .self]
      after := [.group [.call (.attribute (.attribute (.name .self) ⟨"engine", rfl⟩)
        ⟨"start", rfl⟩) [] []]]
      noFunction := rfl
      earlier := []
      step := _
      later := _
      walk := rfl }
  later := []
  noClass := rfl
  attr := ⟨"engine", rfl⟩
  place := ⟨7, 8⟩
  targets := _
  func := _
  args := _
  keywords := _
  assigns := rfl
  target := List.mem_singleton_self _
  called := ⟨"start", rfl⟩
  arguments := []
  calls := rfl
  unassigned := by decide

/-- When the car is driven, its engine is known to be an `Engine`. Yet nothing is recorded, since
the car has no method with the name of the attribute. -/
theorem carClass_call_of_own_method :
    let s : Usage.State :=
      { model := Definitions.collect {} ⟨"m.py", "/m.py", "m"⟩ [engineClass, carClass.tree] }
    ∃ u v, Usage.followed? { module := "m" } carClass.toCall s = some u ∧
      Usage.followed? { module := "m" } [carClass.calling.step] u = some v ∧
      (Usage.typeOf? .stored "self.engine" u).1 = some "m.Engine" ∧
      u.openCode = some "m.Car.drive" ∧ v.model.calls = u.model.calls := by
  intro s
  have finished : (Usage.followed? { module := "m" } carClass.tree.walk s).isSome = true := by
    decide +kernel
  obtain ⟨t, visit⟩ := Option.isSome_iff_exists.mp finished
  have constructs : (Usage.followed? { module := "m" } carClass.toAssignment s).bind (fun w =>
      (Usage.classOf? { module := "m" }
        (Usage.dottedName? (Usage.innermostCallee carClass.func)) w).1) =
        some ⟨1, "Engine", "m.Engine", .classDefinition, some "vscode://file//m.py/:1:1"⟩ := by
    decide +kernel
  obtain ⟨w, reached, constructs⟩ := Option.bind_eq_some_iff.mp constructs
  obtain ⟨u, v, toCall, calling, typed, isOpen, -, unrecorded⟩ :=
    attribute_call_of_own_method { module := "m" } carClass visit reached constructs
  have noMethod : (Usage.followed? { module := "m" } carClass.toCall s).bind (fun u =>
      (u.model.symbol? "m.Car.engine").filter (·.isCode)) = none := by
    decide +kernel
  rw [toCall] at noMethod
  exact ⟨u, v, toCall, calling, typed, isOpen, unrecorded noMethod⟩

/-- When both classes are followed, the engine comes to be known as an `Engine`, whose method is
code, yet no call of the method is recorded. -/
theorem carClass_call_unrecorded :
    let s : Usage.State :=
      { model := Definitions.collect {} ⟨"m.py", "/m.py", "m"⟩ [engineClass, carClass.tree] }
    ∃ t, Usage.followed? { module := "m" } (walkModule [engineClass, carClass.tree]) s = some t ∧
      t.attributeTypes.get? "self.engine" = some (some "m.Engine") ∧
      (t.model.symbol? "m.Engine.start").any (·.isCode) = true ∧
      ⟨some "m.Car.drive", "m.Engine.start"⟩ ∉ t.model.calls := by
  intro s
  have checked : (Usage.followed? { module := "m" }
      (walkModule [engineClass, carClass.tree]) s).any (fun t =>
        t.attributeTypes.get? "self.engine" = some (some "m.Engine") ∧
        (t.model.symbol? "m.Engine.start").any (·.isCode) = true ∧
        ⟨some "m.Car.drive", "m.Engine.start"⟩ ∉ t.model.calls) = true := by
    decide +kernel
  obtain ⟨t, followed, holds⟩ := (Option.any_eq_true _ _).mp checked
  exact ⟨t, followed, of_decide_eq_true holds⟩

end CodeMap
