/-
What a definition is recorded to lie in.

While a file is collected, the stack of open definitions is at every node that of the definitions
around it, and after a node it is as it was before the node. So the parent of a class or a function
is the nearest definition around it, whatever lies between the two (`Site.outerName`), although the
class that is open is not kept in this way. Main statement: the containments of a file are those of
its classes and functions, each in what the text puts around it, and those of the attributes that it
enters (`containments_follow_text`).
-/

import CodeMap.Proofs.Nesting

namespace CodeMap

open Source

namespace Source

/-! ### Names at a site -/

/-- The unique name that a class or a function is given in a scope. -/
def Scope.nameFor (module : String) (scope : Scope) : Tree → Option String
  | .classDef _ name _ => some (module ++ "." ++ name.text)
  | .functionDef _ name _ _ _ => some (scope.openClass.getD module ++ "." ++ name.text)
  | _ => none

theorem Scope.isSome_nameFor {module : String} {scope : Scope} {node : Tree} {step : Step}
    {sort : ScopeSort} (opening : node.opening = [step]) (enters : step.enters sort = true) :
    (scope.nameFor module node).isSome = true := by
  cases opens : node.opens sort with
  | true => cases sort <;> cases node <;> trivial
  | false =>
    have own : step ∈ node.opening ++ node.closing := by simp [opening]
    have quiet := (Tree.steps_of_not_opens opens own).1
    rw [enters] at quiet
    cases quiet

/-- The unique name that a class or a function at the site is given. -/
def Site.nameFor (module : String) (site : Site) (node : Tree) : Option String :=
  (site.tracked module).nameFor module node

/-- The unique name of the nearest class or function around the site, or of the module. -/
def Site.outerName (module : String) : Site → String
  | .top _ => module
  | .inside site parent _ => (site.nameFor module parent).getD (site.outerName module)

/-! ### Steps that enter a definition -/

/-- A place in joined lists lies in one of them. -/
theorem append_eq_append_cons {α : Type} {xs ys before after : List α} {a : α}
    (split : xs ++ ys = before ++ a :: after) :
    (∃ rest, xs = before ++ a :: rest) ∨
      ∃ first, before = xs ++ first ∧ ys = first ++ a :: after := by
  rcases List.append_eq_append_iff.mp split with ⟨first, same, rest⟩ | ⟨rest, same, others⟩
  · exact .inr ⟨first, same, rest⟩
  · cases rest with
    | nil => exact .inr ⟨[], by simpa using same.symm, by simpa using others.symm⟩
    | cons b rest =>
      obtain ⟨rfl, -⟩ := List.cons.inj others
      exact .inl ⟨rest, same⟩

/-- A step of trees is a step of one of them. -/
theorem exists_of_walkAll_eq {trees : List Tree} {before after : List Step} {step : Step}
    (split : walkAll trees = before ++ step :: after) :
    ∃ earlier tree later first rest, trees = earlier ++ tree :: later ∧
      before = walkAll earlier ++ first ∧ tree.walk = first ++ step :: rest := by
  induction trees generalizing before with
  | nil => simp [walkAll] at split
  | cons tree trees ih =>
    rcases append_eq_append_cons split with ⟨rest, walk⟩ | ⟨others, rfl, remaining⟩
    · exact ⟨[], tree, trees, before, rest, rfl, rfl, walk⟩
    · obtain ⟨earlier, other, later, first, rest, rfl, rfl, walk⟩ := ih remaining
      exact ⟨tree :: earlier, other, later, first, rest, rfl, by simp [walkAll], walk⟩

/-- A definition is entered on reaching a node, as its only step there, and not on leaving one. -/
theorem Tree.opening_of_enters {tree : Tree} {before after : List Step} {step : Step}
    {sort : ScopeSort} (enters : step.enters sort = true) :
    (tree.opening = before ++ step :: after → before = [] ∧ after = []) ∧
      tree.closing ≠ before ++ step :: after := by
  have notQuiet : step.isQuiet = false := by cases sort <;> cases step <;> trivial
  have notLeaving (other : ScopeSort) : step.leaves other = false := by
    cases sort <;> cases other <;> cases step <;> trivial
  rcases tree.opening_closing_cases with ⟨other, enter, leave, opening, closing, -, leaves⟩ |
    ⟨closing, quiet⟩
  · rw [opening, closing]
    constructor
    · intro split
      cases before with
      | nil => exact ⟨rfl, (List.cons.inj split).2.symm⟩
      | cons other before => simp at split
    · intro split
      have member : step ∈ [leave] := split ▸ List.mem_append_right _ List.mem_cons_self
      rw [← List.mem_singleton.mp member, notLeaving] at leaves
      cases leaves
  · rw [closing]
    constructor
    · intro split
      have member : step ∈ tree.opening := split ▸ List.mem_append_right _ List.mem_cons_self
      rw [quiet step member] at notQuiet
      cases notQuiet
    · simp

/-- The steps that enter a definition are those of reaching a definition. -/
theorem Site.Holds.exists_of_enters {body : List Tree} {site : Site} {tree : Tree}
    (holds : site.Holds body tree) {before after : List Step} {step : Step} {sort : ScopeSort}
    (split : tree.walk = before ++ step :: after) (enters : step.enters sort = true) :
    ∃ inner node, Holds body inner node ∧ inner.before = site.before ++ before ∧
      node.opening = [step] := by
  induction tree using Tree.parts_induction generalizing site before after with
  | step tree ih =>
    rw [Tree.walk_eq, List.append_assoc] at split
    rcases append_eq_append_cons split with ⟨rest, opening⟩ | ⟨others, rfl, inside⟩
    · obtain ⟨rfl, rfl⟩ := (Tree.opening_of_enters enters).1 opening
      exact ⟨site, tree, holds, by simp, opening⟩
    · rcases append_eq_append_cons inside with ⟨rest, parts⟩ | ⟨others, -, closing⟩
      · obtain ⟨earlier, part, later, first, rest, level, rfl, walk⟩ := exists_of_walkAll_eq parts
        obtain ⟨inner, node, holds, reached, opening⟩ :=
          ih part (by simp [level]) (.inside holds level) walk
        exact ⟨inner, node, holds, by simp [reached, Site.before], opening⟩
      · exact absurd closing (Tree.opening_of_enters enters).2

end Source

namespace Definitions

namespace State

variable (file : File) {state : State}

/-! ### The stack of open definitions -/

theorem foldl_quiet_scopes {steps : List Step} (quiet : ∀ step ∈ steps, step.isQuiet = true) :
    (steps.foldl (State.step file) state).scopes = state.scopes := by
  induction steps generalizing state with
  | nil => rfl
  | cons step steps ih =>
    rw [List.foldl_cons, ih fun other member => quiet other (List.mem_cons_of_mem _ member)]
    exact step_scopes_of_isQuiet (quiet step List.mem_cons_self)

/-- Trees leave the stack as it was if each of them does. -/
theorem foldl_trees_scopes {trees : List Tree} (each : ∀ tree ∈ trees, ∀ state : State,
    (tree.walk.foldl (State.step file) state).scopes = state.scopes) :
    ((walkAll trees).foldl (State.step file) state).scopes = state.scopes := by
  induction trees generalizing state with
  | nil => rfl
  | cons tree trees ih =>
    rw [walkAll, List.foldl_append,
      ih fun other member => each other (List.mem_cons_of_mem _ member)]
    exact each tree List.mem_cons_self state

/-- After a node the stack is as it was before the node. -/
theorem foldl_walk_scopes (tree : Tree) (state : State) :
    (tree.walk.foldl (State.step file) state).scopes = state.scopes := by
  induction tree using Tree.parts_induction generalizing state with
  | step tree ih =>
    rw [Tree.walk_eq, List.foldl_append, List.foldl_append]
    rcases tree.opening_closing_cases with ⟨sort, enter, leave, opening, closing, enters, leaves⟩ |
      ⟨closing, quiet⟩
    · rw [opening, closing, List.foldl_cons, List.foldl_nil, List.foldl_cons, List.foldl_nil,
        step_scopes_of_leaves leaves, foldl_trees_scopes file ih]
      obtain ⟨element, pushed⟩ :
          ∃ element, (state.step file enter).scopes = element :: state.scopes :=
        step_scopes_of_enters enters
      rw [pushed, List.tail_cons]
    · rw [closing, List.foldl_nil, foldl_trees_scopes file ih, foldl_quiet_scopes file quiet]

theorem foldl_walkAll_scopes (trees : List Tree) (state : State) :
    ((walkAll trees).foldl (State.step file) state).scopes = state.scopes :=
  foldl_trees_scopes file fun tree _ => foldl_walk_scopes file tree

/-! ### What a step places -/

/-- A node that is no definition is reached without a change of the stack. -/
theorem foldl_opening_scopes {tree : Tree} (unnamed : state.scope.nameFor file.module tree = none) :
    (tree.opening.foldl (State.step file) state).scopes = state.scopes := by
  rcases tree.opening_closing_cases with ⟨sort, enter, leave, opening, -, enters, -⟩ |
    ⟨-, quiet⟩
  · have named : (state.scope.nameFor file.module tree).isSome = true :=
      Scope.isSome_nameFor opening enters
    rw [unnamed] at named
    cases named
  · exact foldl_quiet_scopes file quiet

/-- A class or a function is entered under its name and opened, and its parent is what was open
innermost. -/
theorem foldl_opening_of_nameFor {tree : Tree} {name : String}
    (named : state.scope.nameFor file.module tree = some name) :
    ∃ child, child.uniqueName = name ∧ child.isData = false ∧
      (tree.opening.foldl (State.step file) state).scopes = child :: state.scopes ∧
      (tree.opening.foldl (State.step file) state).model.elements =
        state.model.elements.insert name child ∧
      ∀ parent ∈ state.scopes.head?,
        (tree.opening.foldl (State.step file) state).model.containments =
          state.model.containments.push ⟨parent, child⟩ := by
  have placed {model : Model} {outer : Option Element} (child : Element) (short : String)
      (parent : Element) (member : parent ∈ outer) :
      (model.enterMember outer child short).containments =
        model.containments.push ⟨parent, child⟩ := by
    rw [Option.mem_def.mp member]
    rfl
  cases tree with
  | classDef position id parts =>
    cases named
    simp only [Tree.opening, List.foldl_cons, List.foldl_nil, State.step, enterClass, define_eq]
    exact ⟨_, rfl, rfl, rfl, Model.enterMember_elements _ _ _ _, placed _ _⟩
  | functionDef position id before params after =>
    cases named
    obtain ⟨child, short, event, own, isCode, -, changed⟩ :=
      enterFunction_eq file state position id.text params
    simp only [Tree.opening, List.foldl_cons, List.foldl_nil, State.step, changed, define_eq]
    refine ⟨child, own, by simp [Element.isData, isCode], rfl, ?_, placed _ _⟩
    rw [← own]
    exact Model.enterMember_elements _ _ _ _
  | _ => cases named

/-- Of the attributes of a class those with a free name are entered, and the class contains just
these. -/
theorem foldl_defineAttribute_placed (state : State) (position : Position) (owner : Element)
    (attrs : List String) :
    let after := attrs.foldl (fun state attr => state.defineAttribute file position owner attr)
      state
    ∃ created : List Element, (∀ element ∈ created, element.isData = true) ∧
      after.model.elements.entries =
        state.model.elements.entries ++ created.map (fun element => (element.uniqueName, element)) ∧
      after.model.containments.toList =
        state.model.containments.toList ++ created.map (Containment.mk owner) := by
  induction attrs generalizing state with
  | nil => exact ⟨[], by simp, by simp, by simp⟩
  | cons attr attrs ih =>
    simp only [List.foldl_cons]
    rcases defineAttribute_eq file state position owner attr with ⟨-, same⟩ | ⟨element, short,
      collected, mapped, isAttribute, -, free, entered⟩
    · rw [same]
      exact ih state
    · rw [entered]
      obtain ⟨created, isData, elements, containments⟩ := ih { state with model := _ }
      have own : element.isData = true := by
        simp [Element.isData, Element.kind, isAttribute, Role.kind]
      refine ⟨element :: created, ?_, ?_, ?_⟩
      · simpa [own] using isData
      · rw [elements]
        simp only [Model.note, Model.enterMember_elements]
        rw [Table.entries_insert_of_not_mem element free]
        simp
      · rw [containments]
        simp [Model.note, Model.enterMember, Model.place, Model.addContainment, Model.bind,
          Model.enter]

/-- An assignment places the attributes that it enters in the class that is open. -/
theorem assign_placed (state : State) (position : Position) (targets : List Tree) :
    ∃ created : List Element, (∀ element ∈ created, element.isData = true) ∧
      (state.openClass = none → created = []) ∧
      (state.assign file position targets).model.elements.entries =
        state.model.elements.entries ++ created.map (fun element => (element.uniqueName, element)) ∧
      (state.assign file position targets).model.containments.toList =
        state.model.containments.toList ++
          state.openClass.toList.flatMap fun owner => created.map (Containment.mk owner) := by
  unfold assign
  cases isOpen : state.openClass with
  | none => exact ⟨[], by simp, by simp, by simp, by simp⟩
  | some owner =>
    obtain ⟨created, isData, elements, containments⟩ := foldl_defineAttribute_placed file state
      position owner (targets.filterMap selfAttribute?)
    exact ⟨created, isData, by simp, elements, by simpa using containments⟩

/-- All other steps place nothing, and only the module itself is entered without a parent. -/
theorem step_containments_of_not_enters {step : Step} (state : State)
    (notEntering : ∀ sort, step.enters sort = false)
    (notAssigning : ∀ position targets value, step ≠ .assign position targets value) :
    (state.step file step).model.containments = state.model.containments ∧
      ((state.step file step).model.elements = state.model.elements ∨ step = .enterModule) := by
  cases step with
  | enterClass => cases notEntering .classes
  | enterFunction => cases notEntering .functions
  | assign position targets value => exact absurd rfl (notAssigning position targets value)
  | enterModule => exact ⟨rfl, .inr rfl⟩
  | _ => exact ⟨rfl, .inl rfl⟩

/-! ### The walk through a file -/

/-- The state after steps. Collecting a file runs through its walk, with nothing open at first. -/
def run (start : State) (steps : List Step) : State :=
  steps.foldl (State.step file) start

theorem run_append (start : State) (xs ys : List Step) :
    start.run file (xs ++ ys) = (start.run file xs).run file ys :=
  List.foldl_append

/-- Nothing is open yet but what lies around the file. -/
def atFirst (model : Model) (outer : List Element) : State := { model := model, scopes := outer }

theorem run_atFirst_scope (model : Model) (outer : List Element) (site : Site) :
    ((atFirst model outer).run file site.before).scope = site.tracked file.module := by
  have fresh : ∀ sort, (reader file).opened sort (atFirst model outer) = none := by
    intro sort
    cases sort <;> rfl
  have reach : (reader file).read site.before (atFirst model outer) =
      some ((atFirst model outer).run file site.before) := rfl
  exact (reader file).scope_eq_tracked fresh reach

/-- At a site the nearest definition around it is open innermost. -/
theorem run_atFirst_scopes (model : Model) (outer : List Element) (site : Site) :
    ∃ parent rest, ((atFirst model outer).run file site.before).scopes = parent :: rest ∧
      parent.uniqueName = site.outerName file.module := by
  induction site with
  | top earlier => exact ⟨_, outer, foldl_walkAll_scopes file earlier _, rfl⟩
  | inside site parent earlier ih =>
    have tracked := run_atFirst_scope file model outer site
    rw [Site.before, run_append, run_append]
    generalize (atFirst model outer).run file site.before = state at ih tracked ⊢
    rw [run, foldl_walkAll_scopes]
    rw [Site.outerName, Site.nameFor, ← tracked]
    cases named : state.scope.nameFor file.module parent with
    | none =>
      rw [run, foldl_opening_scopes file named]
      exact ih
    | some name =>
      obtain ⟨child, own, -, scopes, -⟩ := foldl_opening_of_nameFor file named
      exact ⟨child, state.scopes, scopes, own⟩

end State

/-- What is recorded to lie in what is as the text of the file has it. -/
structure FollowsText (file : File) (start : State) (body : List Tree) : Prop where
  /-- At every node something is open, and after the node the same is open. -/
  inside : ∀ site node, Site.Holds body site node →
    (start.run file site.before).scopes ≠ [] ∧
      (start.run file (site.before ++ node.walk)).scopes = (start.run file site.before).scopes
  /-- A class or a function is placed once, on reaching it, in the nearest one around it. -/
  definitions : ∀ site node name, Site.Holds body site node →
    site.nameFor file.module node = some name →
      ∃ parent child, parent.uniqueName = site.outerName file.module ∧
        child.uniqueName = name ∧ child.isData = false ∧
        (start.run file (site.before ++ node.opening)).model.elements =
          (start.run file site.before).model.elements.insert name child ∧
        (start.run file (site.before ++ node.opening)).model.containments =
          (start.run file site.before).model.containments.push ⟨parent, child⟩
  /-- The walk enters no other definitions than those that stand in the text. -/
  located : ∀ before step after sort, walkModule body = before ++ step :: after →
    step.enters sort = true →
      ∃ site node, Site.Holds body site node ∧ site.before = before ∧ node.opening = [step] ∧
        (site.nameFor file.module node).isSome = true
  /-- An assignment places in the open class the attributes that it enters. -/
  attributes : ∀ before position targets value,
    let here := start.run file before
    let next := start.run file (before ++ [.assign position targets value])
    ∃ created : List Element, (∀ element ∈ created, element.isData = true) ∧
      (here.openClass = none → created = []) ∧
      next.model.elements.entries =
        here.model.elements.entries ++ created.map (fun element => (element.uniqueName, element)) ∧
      next.model.containments.toList = here.model.containments.toList ++
        here.openClass.toList.flatMap fun owner => created.map (Containment.mk owner)
  /-- Nothing else is placed. -/
  others : ∀ before step, (∀ sort, step.enters sort = false) →
    (∀ position targets value, step ≠ .assign position targets value) →
      (start.run file (before ++ [step])).model.containments =
          (start.run file before).model.containments ∧
        ((start.run file (before ++ [step])).model.elements =
          (start.run file before).model.elements ∨ step = .enterModule)
  /-- In the end the same is open as at first. -/
  closed : (start.run file (walkModule body)).scopes = start.scopes

/-- Every definition that a walk enters stands at a site of the module. -/
theorem exists_site_of_enters {body : List Tree} {before after : List Step} {step : Step}
    {sort : ScopeSort} (split : walkModule body = before ++ step :: after)
    (enters : step.enters sort = true) :
    ∃ site node, Site.Holds body site node ∧ site.before = before ∧ node.opening = [step] := by
  have split : [Step.enterModule] ++ (walkAll body ++ [.leaveModule]) = before ++ step :: after :=
    split
  have elsewhere {other : Step} (quiet : other.enters sort = false) {first rest : List Step} :
      [other] ≠ first ++ step :: rest := by
    intro single
    have member : step ∈ [other] := single ▸ List.mem_append_right _ List.mem_cons_self
    rw [List.mem_singleton.mp member, quiet] at enters
    cases enters
  rcases append_eq_append_cons split with ⟨rest, first⟩ | ⟨others, rfl, inside⟩
  · exact absurd first (elsewhere (by cases sort <;> rfl))
  · rcases append_eq_append_cons inside with ⟨rest, trees⟩ | ⟨rest, -, last⟩
    · obtain ⟨earlier, tree, later, first, rest, level, rfl, walk⟩ := exists_of_walkAll_eq trees
      obtain ⟨site, node, holds, reached, opening⟩ :=
        (Site.Holds.top level).exists_of_enters walk enters
      exact ⟨site, node, holds, by simpa [Site.before] using reached, opening⟩
    · exact absurd last (elsewhere (by cases sort <;> rfl))

/-- Whatever has been collected before and lies around the file, what is recorded to lie in what
follows its text: each class and function is placed once, in the nearest class or function around
it, or else in the module; each attribute that is entered is placed in the class that is open; and
nothing else is placed. -/
theorem containments_follow_text (file : File) (model : Model) (outer : List Element)
    (body : List Tree) : FollowsText file (State.atFirst model outer) body where
  inside site node _ := by
    obtain ⟨parent, rest, scopes, -⟩ := State.run_atFirst_scopes file model outer site
    rw [State.run_append]
    exact ⟨by simp [scopes], State.foldl_walk_scopes file node _⟩
  definitions site node name _ named := by
    obtain ⟨parent, rest, scopes, around⟩ := State.run_atFirst_scopes file model outer site
    rw [Site.nameFor, ← State.run_atFirst_scope file model outer] at named
    obtain ⟨child, own, notData, -, elements, placed⟩ :=
      State.foldl_opening_of_nameFor file named
    rw [State.run_append]
    exact ⟨parent, child, around, own, notData, elements, placed parent (by simp [scopes])⟩
  located before step after sort split enters := by
    obtain ⟨site, node, holds, reached, opening⟩ := exists_site_of_enters split enters
    exact ⟨site, node, holds, reached, opening, Scope.isSome_nameFor opening enters⟩
  attributes before position targets value := by
    intro here next
    have changed : next = here.assign file position targets := State.run_append file _ _ _
    rw [changed]
    exact State.assign_placed file here position targets
  others before step notEntering notAssigning := by
    rw [State.run_append]
    exact State.step_containments_of_not_enters file _ notEntering notAssigning
  closed := by
    have same := State.foldl_walkAll_scopes file body ((State.atFirst model outer).enterModule file)
    rw [walkModule, State.run, List.foldl_cons, List.foldl_append]
    exact congrArg List.tail same

end Definitions

end CodeMap
