/-
Where the nodes of a module stand.

Every node of a tree has the steps on reaching it, the nodes directly in it and the steps on
leaving it, and its walk is made of these (`Tree.walk_eq`). A site is the way from the module down
to a node: the nodes around it, innermost first, and at each level the nodes that come earlier.
`Site.before` are the steps that a walk has taken when it comes to the node.

Classes and functions are the two sorts of definitions that open a scope. `Tree.defines` says that
one of them stands somewhere in a tree, and `exists_site_of_defines` finds its site.
-/

import CodeMap.Source.Walk

namespace CodeMap.Source

/-! ### Nodes and their steps -/

/-- The steps on reaching a node, before those of the nodes in it. -/
def Tree.opening : Tree → List Step
  | .name id => [.name id]
  | .attribute value attr => [.attribute value attr]
  | .call func args _ => [.call func args]
  | .assign position targets value => [.assign position targets value]
  | .classDef position id _ => [.enterClass position id]
  | .functionDef position id _ params _ => [.enterFunction position id params]
  | .importNames aliases => [.importNames aliases]
  | .importFrom module aliases => [.importFrom module aliases]
  | _ => []

/-- The nodes directly in a node, in visiting order. -/
def Tree.parts : Tree → List Tree
  | .attribute value _ => [value]
  | .call func args keywords => func :: (args ++ keywords)
  | .subscript value index => [value, index]
  | .assign _ targets value => targets ++ [value]
  | .classDef _ _ parts => parts
  | .functionDef _ _ before params after => before ++ params ++ after
  | .typedParam _ hint => [hint]
  | .compound _ parts => parts
  | .group parts => parts
  | _ => []

/-- The steps on leaving a node, after those of the nodes in it. -/
def Tree.closing : Tree → List Step
  | .classDef .. => [.leaveClass]
  | .functionDef .. => [.leaveFunction]
  | _ => []

theorem Tree.walk_eq (tree : Tree) :
    tree.walk = tree.opening ++ walkAll tree.parts ++ tree.closing := by
  cases tree <;> simp [Tree.walk, Tree.opening, Tree.parts, Tree.closing, walkAll, walkAll_append]

theorem Tree.sizeOf_lt_of_mem_parts {tree part : Tree} (h : part ∈ tree.parts) :
    sizeOf part < sizeOf tree := by
  have listed {trees : List Tree} : part ∈ trees → sizeOf part < sizeOf trees :=
    List.sizeOf_lt_of_mem
  cases tree <;> simp [Tree.parts] at h ⊢ <;> grind

/-- What holds of a node if it holds of the nodes directly in it holds of every node. -/
theorem Tree.parts_induction {motive : Tree → Prop}
    (step : ∀ tree, (∀ part ∈ tree.parts, motive part) → motive tree) (tree : Tree) :
    motive tree :=
  step tree fun part h =>
    have : sizeOf part < sizeOf tree := Tree.sizeOf_lt_of_mem_parts h
    Tree.parts_induction step part
termination_by sizeOf tree

/-! ### Definitions with a scope -/

/-- The sorts of definitions that open a scope. -/
inductive ScopeSort where
  | classes
  | functions
deriving DecidableEq, Repr

/-- The node is a definition of this sort. -/
def Tree.opens : ScopeSort → Tree → Bool
  | .classes, .classDef .. => true
  | .functions, .functionDef .. => true
  | _, _ => false

/-- The step enters a definition of this sort. -/
def Step.enters : ScopeSort → Step → Bool
  | .classes, .enterClass .. => true
  | .functions, .enterFunction .. => true
  | _, _ => false

/-- The step leaves a definition of this sort. -/
def Step.leaves : ScopeSort → Step → Bool
  | .classes, .leaveClass => true
  | .functions, .leaveFunction => true
  | _, _ => false

/-- A definition of this sort stands in the tree, or is the tree itself. -/
def Tree.defines (sort : ScopeSort) (tree : Tree) : Bool :=
  tree.walk.any (·.enters sort)

theorem Tree.opening_closing_of_opens {sort : ScopeSort} {tree : Tree}
    (h : tree.opens sort = true) :
    ∃ enter leave, tree.opening = [enter] ∧ tree.closing = [leave] ∧
      enter.enters sort = true ∧ leave.leaves sort = true := by
  cases sort <;> cases tree <;> simp_all [Tree.opens, Tree.opening, Tree.closing, Step.enters,
    Step.leaves]

/-- A node that is no definition of this sort has no steps of this sort itself. -/
theorem Tree.steps_of_not_opens {sort : ScopeSort} {tree : Tree} (h : tree.opens sort = false)
    {step : Step} (own : step ∈ tree.opening ++ tree.closing) :
    step.enters sort = false ∧ step.leaves sort = false := by
  cases sort <;> cases tree <;> simp_all [Tree.opens, Tree.opening, Tree.closing, Step.enters,
    Step.leaves]
  all_goals rcases own with rfl | rfl <;> simp

theorem any_enters_walkAll (sort : ScopeSort) (trees : List Tree) :
    (walkAll trees).any (·.enters sort) = trees.any (·.defines sort) := by
  induction trees with
  | nil => rfl
  | cons tree trees ih => simp [walkAll, ih, Tree.defines]

theorem Tree.defines_eq (sort : ScopeSort) (tree : Tree) :
    tree.defines sort = (tree.opens sort || tree.parts.any (·.defines sort)) := by
  rw [Tree.defines, Tree.walk_eq]
  simp only [List.any_append, any_enters_walkAll]
  cases hopens : tree.opens sort with
  | true =>
    obtain ⟨enter, leave, opening, -, enters, -⟩ := Tree.opening_closing_of_opens hopens
    simp [opening, enters]
  | false =>
    have quiet : ∀ step ∈ tree.opening ++ tree.closing, step.enters sort = false :=
      fun step own => (Tree.steps_of_not_opens hopens own).1
    have opening : tree.opening.any (·.enters sort) = false :=
      List.any_eq_false.mpr fun step h => by simp [quiet step (List.mem_append_left _ h)]
    have closing : tree.closing.any (·.enters sort) = false :=
      List.any_eq_false.mpr fun step h => by simp [quiet step (List.mem_append_right _ h)]
    simp [opening, closing]

/-! ### Sites -/

/-- The way from a module down to a node. -/
inductive Site where
  /-- Directly in the module, after the nodes `earlier`. -/
  | top (earlier : List Tree)
  /-- Directly in the node `parent`, after the nodes `earlier` in it. -/
  | inside (site : Site) (parent : Tree) (earlier : List Tree)

namespace Site

/-- The node stands at this site of a module with the given body. -/
inductive Holds (body : List Tree) : Site → Tree → Prop where
  | top {earlier later : List Tree} {node : Tree} :
      body = earlier ++ node :: later → Holds body (.top earlier) node
  | inside {site : Site} {parent node : Tree} {earlier later : List Tree} :
      Holds body site parent → parent.parts = earlier ++ node :: later →
        Holds body (.inside site parent earlier) node

/-- The steps of the walk before the node. -/
def before : Site → List Step
  | .top earlier => .enterModule :: walkAll earlier
  | .inside site parent earlier => site.before ++ parent.opening ++ walkAll earlier

/-- The nodes around the site, innermost first. -/
def around : Site → List Tree
  | .top _ => []
  | .inside site parent _ => parent :: site.around

/-- The site lies in a definition of this sort. -/
def within (site : Site) (sort : ScopeSort) : Bool :=
  site.around.any (·.opens sort)

/-- The site at the same level that comes after the nodes `trees`. -/
def sibling : Site → List Tree → Site
  | .top _, trees => .top trees
  | .inside site parent _, trees => .inside site parent trees

/-- The nodes that come earlier at the same level. -/
def earlier : Site → List Tree
  | .top earlier => earlier
  | .inside _ _ earlier => earlier

theorem before_sibling_append (site : Site) (xs ys : List Tree) :
    (site.sibling (xs ++ ys)).before = (site.sibling xs).before ++ walkAll ys := by
  cases site <;> simp [sibling, before, walkAll_append]

/-- The nodes that come earlier at a level stand at sites of this level. -/
theorem Holds.of_earlier {body : List Tree} {site : Site} {node tree : Tree} {xs ys : List Tree}
    (h : site.Holds body node) (split : site.earlier = xs ++ tree :: ys) :
    (site.sibling xs).Holds body tree := by
  cases h with
  | @top _ later _ level =>
    simp only [earlier] at split
    have level : body = xs ++ tree :: (ys ++ node :: later) := by simp [level, split]
    exact .top level
  | @inside _ parent _ _ later holds level =>
    simp only [earlier] at split
    have level : parent.parts = xs ++ tree :: (ys ++ node :: later) := by simp [level, split]
    exact .inside holds level

/-- The walk through the module passes the site with the steps before the node, and goes on with
those of the node. -/
theorem Holds.isPrefix {body : List Tree} {site : Site} {node : Tree} (h : site.Holds body node) :
    site.before ++ node.walk <+: walkModule body := by
  induction h with
  | @top earlier later node level =>
    refine ⟨walkAll later ++ [.leaveModule], ?_⟩
    simp [walkModule, level, walkAll_append, walkAll, before]
  | @inside site parent node earlier later _ level ih =>
    refine List.IsPrefix.trans ⟨walkAll later ++ parent.closing, ?_⟩ ih
    simp [Tree.walk_eq parent, level, walkAll_append, walkAll, before]

/-- A definition in a tree has a site of its own, in whatever the tree stands in, and the walk
comes past it on its way through the tree. -/
theorem Holds.exists_of_defines {body : List Tree} {sort : ScopeSort} {tree : Tree} {site : Site}
    (h : site.Holds body tree) (defines : tree.defines sort = true) :
    ∃ inner node, Holds body inner node ∧ node.opens sort = true ∧
      (∀ other, site.within other = true → inner.within other = true) ∧
        inner.before ++ node.walk <+: site.before ++ tree.walk := by
  induction tree using Tree.parts_induction generalizing site with
  | step tree ih =>
    rw [Tree.defines_eq, Bool.or_eq_true] at defines
    rcases defines with opens | defines
    · exact ⟨site, tree, h, opens, fun _ outer => outer, List.prefix_rfl⟩
    · obtain ⟨part, member, defines⟩ := List.any_eq_true.mp defines
      obtain ⟨earlier, later, level⟩ := List.append_of_mem member
      obtain ⟨inner, node, holds, opens, outer, passed⟩ :=
        ih part member (.inside h level) defines
      refine ⟨inner, node, holds, opens, fun other within => outer other ?_, passed.trans ?_⟩
      · simp only [Site.within] at within
        simp [Site.within, around, within]
      · refine ⟨walkAll later ++ tree.closing, ?_⟩
        simp [Tree.walk_eq tree, level, walkAll_append, walkAll, before]

end Site

end CodeMap.Source
