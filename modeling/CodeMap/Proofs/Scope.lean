/-
Open definitions along a walk.

A scope holds the names of the class and of the function that are taken to be open. Two scopes are
told apart at each site: the one that the text gives, made of the innermost definitions around the
site (`Site.lexical`), and the one that is left when every definition closes its sort on leaving
(`Site.tracked`). Leaving a class leaves no class open and leaving a function leaves none open, so
the two differ after a definition that lies in another one of its sort.

A reader follows a walk, keeps what is open in this way and may stop on the way. Main statement:
the visits that a reader completes keep what is open exactly if it completes none of a definition
that lies in another one of its sort (`Reader.keeps_iff_not_nests`).
-/

import CodeMap.Proofs.Site

namespace CodeMap.Source

/-! ### Scopes -/

/-- The unique names of the class and of the function that are open. -/
structure Scope where
  openClass : Option String := none
  openCode : Option String := none
deriving DecidableEq, Repr

namespace Scope

/-- The scope in a node that is reached in this scope: a class is named after its module, a function
after the open class or else after its module. -/
def enter (module : String) (scope : Scope) : Tree → Scope
  | .classDef _ name _ => { scope with openClass := some (module ++ "." ++ name.text) }
  | .functionDef _ name _ _ _ =>
    { scope with openCode := some (scope.openClass.getD module ++ "." ++ name.text) }
  | _ => scope

/-- The scope after a step of the walk. -/
def step (module : String) (scope : Scope) : Step → Scope
  | .enterClass _ name => { scope with openClass := some (module ++ "." ++ name.text) }
  | .leaveClass => { scope with openClass := none }
  | .enterFunction _ name _ =>
    { scope with openCode := some (scope.openClass.getD module ++ "." ++ name.text) }
  | .leaveFunction => { scope with openCode := none }
  | _ => scope

/-- What is open of a sort. -/
def opened (scope : Scope) : ScopeSort → Option String
  | .classes => scope.openClass
  | .functions => scope.openCode

/-- The scope after trees: a sort of which they hold a definition is no longer open. -/
def pass (scope : Scope) (trees : List Tree) : Scope where
  openClass := if trees.any (·.defines .classes) then none else scope.openClass
  openCode := if trees.any (·.defines .functions) then none else scope.openCode

/-- The class that is open has a name. -/
def Proper (scope : Scope) : Prop := scope.openClass ≠ some ""

theorem ext_opened {scope other : Scope} (h : ∀ sort, scope.opened sort = other.opened sort) :
    scope = other := by
  have classes := h .classes
  have functions := h .functions
  cases scope
  cases other
  simp_all [opened]

theorem opened_pass (scope : Scope) (trees : List Tree) (sort : ScopeSort) :
    (scope.pass trees).opened sort =
      if trees.any (·.defines sort) then none else scope.opened sort := by
  cases sort <;> rfl

theorem foldl_opening (module : String) (scope : Scope) (tree : Tree) :
    tree.opening.foldl (step module) scope = scope.enter module tree := by
  cases tree <;> rfl

theorem Proper.step {scope : Scope} (h : scope.Proper) (module : String) (step : Step) :
    (scope.step module step).Proper := by
  cases step with
  | enterClass position name =>
    intro empty
    have := congrArg String.length (Option.some.inj empty)
    simp at this
  | leaveClass => simp [Scope.step, Proper]
  | _ => exact h

theorem Proper.foldl {scope : Scope} (h : scope.Proper) (module : String) (steps : List Step) :
    (steps.foldl (Scope.step module) scope).Proper := by
  induction steps generalizing scope with
  | nil => exact h
  | cons step steps ih => exact ih (h.step module step)

end Scope

namespace Site

/-- The scope that the text gives a site: the innermost class and the innermost function around
it. -/
def lexical (module : String) : Site → Scope
  | .top _ => {}
  | .inside site parent _ => (site.lexical module).enter module parent

/-- The scope at a site when every definition, on leaving, leaves none of its sort open. -/
def tracked (module : String) : Site → Scope
  | .top _ => {}
  | .inside site parent earlier => ((site.tracked module).enter module parent).pass earlier

theorem isSome_opened_lexical (module : String) (site : Site) (sort : ScopeSort) :
    ((site.lexical module).opened sort).isSome = site.within sort := by
  induction site with
  | top => cases sort <;> rfl
  | inside site parent earlier ih =>
    have around : (inside site parent earlier).within sort =
        (parent.opens sort || site.within sort) := by
      simp [within, Site.around]
    rw [around, ← ih]
    cases sort <;> cases parent <;> rfl

theorem tracked_proper (module : String) (site : Site) : (site.tracked module).Proper := by
  induction site with
  | top => simp [tracked, Scope.Proper]
  | inside site parent earlier ih =>
    have entered : ((site.tracked module).enter module parent).Proper := by
      rw [← Scope.foldl_opening]
      exact ih.foldl module parent.opening
    simp only [tracked, Scope.Proper, Scope.pass]
    split
    · simp
    · exact entered

end Site

/-! ### Readers of walks -/

/-- A reader follows steps from a state to a state, unless it stops, and has a class and a function
open or not. -/
structure Reader (σ α : Type) where
  /-- The name of the module that is read. -/
  module : String
  read : List Step → σ → Option σ
  opened : ScopeSort → σ → Option α
  /-- The unique name of what is open. -/
  name : α → String
  read_nil : ∀ s, read [] s = some s
  read_append : ∀ xs ys s, read (xs ++ ys) s = (read xs s).bind (read ys)
  entering : ∀ {sort step s t}, step.enters sort = true → read [step] s = some t →
    (opened sort t).isSome = true
  leaving : ∀ {sort step s t}, step.leaves sort = true → read [step] s = some t →
    opened sort t = none
  passing : ∀ {sort step s t}, step.enters sort = false → step.leaves sort = false →
    read [step] s = some t → opened sort t = opened sort s
  naming : ∀ {step s t}, (opened .classes s).map name ≠ some "" → read [step] s = some t →
    Scope.mk ((opened .classes t).map name) ((opened .functions t).map name) =
      (Scope.mk ((opened .classes s).map name) ((opened .functions s).map name)).step module step

namespace Reader

variable {σ α : Type} (reader : Reader σ α) {sort : ScopeSort} {s t : σ}

/-- The names of what is open. -/
def scope (state : σ) : Scope where
  openClass := (reader.opened .classes state).map reader.name
  openCode := (reader.opened .functions state).map reader.name

theorem exists_of_read_append {xs ys : List Step} (h : reader.read (xs ++ ys) s = some t) :
    ∃ middle, reader.read xs s = some middle ∧ reader.read ys middle = some t := by
  rw [reader.read_append] at h
  exact Option.bind_eq_some_iff.mp h

theorem exists_of_read_cons {step : Step} {steps : List Step}
    (h : reader.read (step :: steps) s = some t) :
    ∃ middle, reader.read [step] s = some middle ∧ reader.read steps middle = some t :=
  reader.exists_of_read_append h

/-- What was read to the end was read up to any step. -/
theorem exists_of_prefix {xs ys : List Step} (part : xs <+: ys)
    (h : reader.read ys s = some t) : ∃ middle, reader.read xs s = some middle := by
  obtain ⟨rest, rfl⟩ := part
  obtain ⟨middle, first, -⟩ := reader.exists_of_read_append h
  exact ⟨middle, first⟩

/-- Steps that are not of a sort leave open what is open of it. -/
theorem opened_of_read_quiet {steps : List Step}
    (quiet : ∀ step ∈ steps, step.enters sort = false ∧ step.leaves sort = false)
    (h : reader.read steps s = some t) : reader.opened sort t = reader.opened sort s := by
  induction steps generalizing s with
  | nil =>
    rw [reader.read_nil] at h
    rw [Option.some.inj h]
  | cons step steps ih =>
    obtain ⟨middle, first, rest⟩ := reader.exists_of_read_cons h
    have own := quiet step List.mem_cons_self
    rw [ih (fun other member => quiet other (List.mem_cons_of_mem _ member)) rest,
      reader.passing own.1 own.2 first]

/-- What is open after trees, if it is known what each of them leaves open. -/
theorem opened_of_read_walkAll {trees : List Tree}
    (each : ∀ tree ∈ trees, ∀ {s t : σ}, reader.read tree.walk s = some t →
      reader.opened sort t = if tree.defines sort then none else reader.opened sort s)
    (h : reader.read (walkAll trees) s = some t) :
    reader.opened sort t = if trees.any (·.defines sort) then none else reader.opened sort s := by
  induction trees generalizing s with
  | nil =>
    rw [walkAll, reader.read_nil] at h
    simp [Option.some.inj h]
  | cons tree trees ih =>
    obtain ⟨middle, first, rest⟩ := reader.exists_of_read_append h
    rw [ih (fun other member => each other (List.mem_cons_of_mem _ member)) rest,
      each tree List.mem_cons_self first]
    cases defines : tree.defines sort <;> simp [defines]

/-- After a tree nothing is open of a sort of which it holds a definition, and what was open of
another sort still is. -/
theorem opened_of_read_walk {tree : Tree} (h : reader.read tree.walk s = some t) :
    reader.opened sort t = if tree.defines sort then none else reader.opened sort s := by
  induction tree using Tree.parts_induction generalizing s t with
  | step tree ih =>
    rw [Tree.walk_eq] at h
    obtain ⟨inner, h, closing⟩ := reader.exists_of_read_append h
    obtain ⟨outer, opening, parts⟩ := reader.exists_of_read_append h
    cases opens : tree.opens sort with
    | true =>
      obtain ⟨enter, leave, -, closes, -, leaves⟩ := Tree.opening_closing_of_opens opens
      rw [closes] at closing
      rw [reader.leaving leaves closing, Tree.defines_eq, opens]
      simp
    | false =>
      have own : ∀ step ∈ tree.opening ++ tree.closing,
          step.enters sort = false ∧ step.leaves sort = false :=
        fun step => Tree.steps_of_not_opens opens
      rw [reader.opened_of_read_quiet (fun step m => own step (List.mem_append_right _ m)) closing,
        reader.opened_of_read_walkAll (fun part member => ih part member) parts,
        reader.opened_of_read_quiet (fun step m => own step (List.mem_append_left _ m)) opening,
        Tree.defines_eq, opens, Bool.false_or]

/-! ### What is open at a site -/

/-- What is open in a node depends on whether it is a definition itself. -/
theorem opened_of_read_opening (sort : ScopeSort) {tree : Tree}
    (h : reader.read tree.opening s = some t) :
    if tree.opens sort then (reader.opened sort t).isSome = true
    else reader.opened sort t = reader.opened sort s := by
  cases opens : tree.opens sort with
  | true =>
    obtain ⟨enter, leave, opening, -, enters, -⟩ := Tree.opening_closing_of_opens opens
    rw [opening] at h
    exact reader.entering enters h
  | false =>
    exact reader.opened_of_read_quiet
      (fun step member => Tree.steps_of_not_opens opens (List.mem_append_left _ member)) h

theorem opened_of_read_level {trees : List Tree} (h : reader.read (walkAll trees) s = some t) :
    reader.opened sort t = if trees.any (·.defines sort) then none else reader.opened sort s :=
  reader.opened_of_read_walkAll (fun _ _ => reader.opened_of_read_walk) h

/-- Outside all definitions of a sort nothing of this sort is open. -/
theorem opened_eq_none_of_not_within {start : σ} {site : Site}
    (fresh : reader.opened sort start = none) (outside : site.within sort = false)
    (reach : reader.read site.before start = some s) : reader.opened sort s = none := by
  induction site generalizing s with
  | top earlier =>
    obtain ⟨middle, first, level⟩ := reader.exists_of_read_cons reach
    rw [reader.opened_of_read_level level, reader.passing (by cases sort <;> rfl)
      (by cases sort <;> rfl) first, fresh, ite_self]
  | inside site parent earlier ih =>
    obtain ⟨inner, reach, level⟩ := reader.exists_of_read_append reach
    obtain ⟨outer, reach, opening⟩ := reader.exists_of_read_append reach
    simp only [Site.within, Site.around, List.any_cons, Bool.or_eq_false_iff] at outside
    have entered := reader.opened_of_read_opening sort opening
    rw [outside.1] at entered
    rw [reader.opened_of_read_level level, entered, ih outside.2 reach, ite_self]

/-! ### Visits that keep what is open -/

variable {start : σ} {body : List Tree}

/-- The visits of definitions that the reader completes keep what is open. -/
def Keeps (start : σ) (body : List Tree) : Prop :=
  ∀ site node s t, Site.Holds body site node → (∃ sort, node.opens sort = true) →
    reader.read site.before start = some s → reader.read node.walk s = some t →
      ∀ sort, reader.opened sort t = reader.opened sort s

/-- The reader completes the visit of a definition that lies in another one of its sort. -/
def Nests (start : σ) (body : List Tree) : Prop :=
  ∃ sort site node, Site.Holds body site node ∧ node.opens sort = true ∧
    site.within sort = true ∧ (reader.read (site.before ++ node.walk) start).isSome = true

/-- Nodes at one level keep what is open if each of them does. -/
theorem opened_of_read_parts {site : Site} {parent : Tree} {earlier trees : List Tree}
    (later : List Tree) (holds : site.Holds body parent)
    (level : parent.parts = earlier ++ (trees ++ later))
    (each : ∀ part ∈ parent.parts, ∀ site s t, Site.Holds body site part →
      reader.read site.before start = some s → reader.read part.walk s = some t →
        reader.opened sort t = reader.opened sort s)
    (reach : reader.read (Site.inside site parent earlier).before start = some s)
    (visit : reader.read (walkAll trees) s = some t) :
    reader.opened sort t = reader.opened sort s := by
  induction trees generalizing earlier s with
  | nil =>
    rw [walkAll, reader.read_nil] at visit
    rw [Option.some.inj visit]
  | cons tree trees ih =>
    obtain ⟨middle, first, rest⟩ := reader.exists_of_read_append visit
    have next : reader.read (Site.inside site parent (earlier ++ [tree])).before start =
        some middle := by
      have := Site.before_sibling_append (.inside site parent []) earlier [tree]
      simp only [Site.sibling, walkAll, List.append_nil] at this
      rw [this, reader.read_append, reach]
      exact first
    rw [ih (by simp [level]) next rest]
    exact each tree (by simp [level]) _ _ _ (.inside holds level) reach first

/-- If the visits of definitions keep what is open, so do the visits of all nodes. -/
theorem Keeps.opened_eq {reader : Reader σ α} (keeps : reader.Keeps start body) {site : Site}
    {tree : Tree} (holds : site.Holds body tree) (reach : reader.read site.before start = some s)
    (visit : reader.read tree.walk s = some t) :
    reader.opened sort t = reader.opened sort s := by
  induction tree using Tree.parts_induction generalizing site s t with
  | step tree ih =>
    cases opens : tree.opens sort with
    | true => exact keeps site tree s t holds ⟨sort, opens⟩ reach visit sort
    | false =>
      rw [Tree.walk_eq] at visit
      obtain ⟨inner, visit, closing⟩ := reader.exists_of_read_append visit
      obtain ⟨outer, opening, parts⟩ := reader.exists_of_read_append visit
      have entered := reader.opened_of_read_opening sort opening
      rw [opens] at entered
      have within : reader.read (Site.inside site tree []).before start = some outer := by
        simp only [Site.before, walkAll, List.append_nil]
        rw [reader.read_append, reach]
        exact opening
      rw [reader.opened_of_read_quiet (fun step m => Tree.steps_of_not_opens opens
        (List.mem_append_right _ m)) closing, ← entered]
      exact reader.opened_of_read_parts [] holds (by simp) (fun part member _ _ _ => ih part member)
        within parts

/-- If the visits of definitions keep what is open, something is open of every sort of which a
definition lies around. -/
theorem Keeps.isSome_of_within {reader : Reader σ α} (keeps : reader.Keeps start body)
    {site : Site} {node : Tree} (holds : site.Holds body node) (within : site.within sort = true)
    (reach : reader.read site.before start = some s) : (reader.opened sort s).isSome = true := by
  induction holds generalizing s with
  | top => simp [Site.within, Site.around] at within
  | @inside site parent node earlier later holds level ih =>
    obtain ⟨inner, before, parts⟩ := reader.exists_of_read_append reach
    obtain ⟨outer, reach, opening⟩ := reader.exists_of_read_append before
    have entered := reader.opened_of_read_opening sort opening
    have first : reader.read (Site.inside site parent []).before start = some inner := by
      simpa [Site.before, walkAll] using before
    rw [reader.opened_of_read_parts (node :: later) holds (by simpa using level)
      (fun _ _ _ _ _ holds reach visit => keeps.opened_eq holds reach visit) first parts]
    cases opens : parent.opens sort with
    | true => simpa [opens] using entered
    | false =>
      simp only [opens, Bool.false_eq_true, if_false] at entered
      rw [entered]
      refine ih ?_ reach
      simpa [Site.within, Site.around, opens] using within

theorem Nests.of_defines {reader : Reader σ α} {site : Site} {tree : Tree}
    (holds : site.Holds body tree) (defines : tree.defines sort = true)
    (within : site.within sort = true)
    (visit : reader.read (site.before ++ tree.walk) start = some t) : reader.Nests start body := by
  obtain ⟨inner, node, holds, opens, outer, passed⟩ := holds.exists_of_defines defines
  obtain ⟨middle, read⟩ := reader.exists_of_prefix passed visit
  exact ⟨sort, inner, node, holds, opens, outer sort within, by simp [read]⟩

/-- The visits that the reader completes keep what is open exactly if it completes none of a
definition that lies in another one of its sort. -/
theorem keeps_iff_not_nests (fresh : ∀ sort, reader.opened sort start = none) :
    reader.Keeps start body ↔ ¬ reader.Nests start body := by
  constructor
  · rintro keeps ⟨sort, site, node, holds, opens, within, visited⟩
    obtain ⟨t, visited⟩ := Option.isSome_iff_exists.mp visited
    obtain ⟨s, reach, visit⟩ := reader.exists_of_read_append visited
    have isOpen := keeps.isSome_of_within holds within reach
    have closed : reader.opened sort t = none := by
      rw [reader.opened_of_read_walk visit, Tree.defines_eq, opens]
      simp
    rw [← keeps site node s t holds ⟨sort, opens⟩ reach visit sort, closed] at isOpen
    exact absurd isOpen (by simp)
  · intro flat site node s t holds _ reach visit sort
    rw [reader.opened_of_read_walk visit]
    split
    · rename_i defines
      -- A definition of the sort is left, so none of them lies around and none was open before.
      cases within : site.within sort with
      | true =>
        refine absurd (Nests.of_defines (t := t) holds defines within ?_) flat
        rw [reader.read_append, reach]
        exact visit
      | false => exact (reader.opened_eq_none_of_not_within (fresh sort) within reach).symm
    · rfl

/-! ### The names of what is open -/

theorem scope_of_read_level {trees : List Tree} (h : reader.read (walkAll trees) s = some t) :
    reader.scope t = (reader.scope s).pass trees := by
  simp only [scope, Scope.pass, reader.opened_of_read_level h]
  congr <;> split <;> rfl

theorem scope_of_read_opening {tree : Tree} (proper : (reader.scope s).Proper)
    (h : reader.read tree.opening s = some t) :
    reader.scope t = (reader.scope s).enter reader.module tree := by
  rw [← Scope.foldl_opening]
  generalize tree.opening = steps at h
  induction steps generalizing s with
  | nil =>
    rw [reader.read_nil] at h
    rw [Option.some.inj h]
    rfl
  | cons step steps ih =>
    obtain ⟨middle, first, rest⟩ := reader.exists_of_read_cons h
    have named : reader.scope middle = (reader.scope s).step reader.module step :=
      reader.naming proper first
    rw [List.foldl_cons, ← named]
    exact ih (named ▸ proper.step reader.module step) rest

/-- The scope of a reader at a site is the one in which every definition closes its sort. -/
theorem scope_eq_tracked {site : Site} (fresh : ∀ sort, reader.opened sort start = none)
    (reach : reader.read site.before start = some s) :
    reader.scope s = site.tracked reader.module := by
  have empty : reader.scope start = {} := by simp [scope, fresh]
  induction site generalizing s with
  | top earlier =>
    obtain ⟨middle, first, level⟩ := reader.exists_of_read_cons reach
    have entered : reader.scope middle = reader.scope start :=
      reader.naming (by simp [fresh]) first
    rw [reader.scope_of_read_level level, entered, empty]
    simp [Scope.pass, Site.tracked]
  | inside site parent earlier ih =>
    obtain ⟨inner, reach, level⟩ := reader.exists_of_read_append reach
    obtain ⟨outer, reach, opening⟩ := reader.exists_of_read_append reach
    have around := ih reach
    have proper : (reader.scope outer).Proper := around ▸ site.tracked_proper reader.module
    rw [reader.scope_of_read_level level, reader.scope_of_read_opening proper opening, around]
    rfl

/-- Where no definition of a sort was left in another one, the scope is the one of the text. -/
theorem tracked_eq_lexical {site : Site} {node : Tree} (holds : site.Holds body node)
    (flat : ¬ reader.Nests start body) (reach : reader.read site.before start = some s) :
    site.tracked reader.module = site.lexical reader.module := by
  induction holds generalizing s with
  | top => rfl
  | @inside site parent node earlier later holds level ih =>
    have here : (Site.inside site parent earlier).Holds body node := .inside holds level
    obtain ⟨inner, before, parts⟩ := reader.exists_of_read_append reach
    obtain ⟨outer, outside, -⟩ := reader.exists_of_read_append before
    rw [Site.tracked, ih outside, ← Site.lexical.eq_2 reader.module site parent earlier]
    apply Scope.ext_opened
    intro sort
    rw [Scope.opened_pass]
    split
    · rename_i defined
      obtain ⟨tree, member, defines⟩ := List.any_eq_true.mp defined
      obtain ⟨xs, ys, split⟩ := List.append_of_mem member
      have there : (Site.inside site parent xs).Holds body tree := here.of_earlier split
      have within : (Site.inside site parent earlier).within sort = false := by
        refine Bool.eq_false_iff.mpr fun within => flat ?_
        have passed : (Site.inside site parent xs).before ++ tree.walk <+:
            (Site.inside site parent earlier).before := by
          refine ⟨walkAll ys, ?_⟩
          simp [Site.before, split, walkAll_append, walkAll]
        obtain ⟨middle, visit⟩ := reader.exists_of_prefix passed reach
        exact Nests.of_defines there defines within visit
      rw [← Site.isSome_opened_lexical reader.module, Option.isSome_eq_false_iff] at within
      exact (Option.isNone_iff_eq_none.mp within).symm
    · rfl

end Reader

end CodeMap.Source
