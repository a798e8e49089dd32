/-
What calls, attributes and assignments are attributed to.

Both passes over a file, the collection of definitions and the analysis of usages, take what they
meet to belong to the class and the function that are open. Main statement: visits of definitions
keep what is open, and usages are met in the scope that the text gives them, exactly if no
definition lies in another one of its sort (`attribution_iff`). Otherwise usages after the inner
definition are met as if nothing of its sort lay around them.
-/

import CodeMap.Proofs.Collecting
import CodeMap.Proofs.Following

namespace CodeMap

open Source

namespace Source

/-- Calls, attributes and assignments. -/
def Tree.isUse : Tree → Bool
  | .call _ _ _ => true
  | .attribute _ _ => true
  | .assign _ _ _ => true
  | _ => false

/-- A definition lies in another one of its sort. -/
def Nested (body : List Tree) : Prop :=
  ∃ sort site node, Site.Holds body site node ∧ node.opens sort = true ∧ site.within sort = true

namespace Reader

variable {σ α : Type} (reader : Reader σ α)

/-- What the reader meets is attributed as the text says. -/
structure Attributes (start : σ) (body : List Tree) : Prop where
  /-- A visit of a definition, if it is completed, leaves open what was open before it. -/
  keeps : reader.Keeps start body
  /-- Usages that are reached are met in the scope of the text. -/
  uses : ∀ site node s, Site.Holds body site node → node.isUse = true →
    reader.read site.before start = some s → reader.scope s = site.lexical reader.module

theorem attributes_iff_not_nests {start : σ} {body : List Tree}
    (fresh : ∀ sort, reader.opened sort start = none) :
    reader.Attributes start body ↔ ¬ reader.Nests start body := by
  constructor
  · intro attributes
    exact (reader.keeps_iff_not_nests fresh).mp attributes.keeps
  · intro flat
    refine ⟨(reader.keeps_iff_not_nests fresh).mpr flat, ?_⟩
    intro site node s holds _ reach
    rw [reader.scope_eq_tracked fresh reach, reader.tracked_eq_lexical holds flat reach]

end Reader

end Source

/-- The collection of definitions comes to its end, so that it passes every nesting. -/
theorem Definitions.nests_reader_iff (file : Definitions.File) (start : Definitions.State)
    (body : List Tree) : (Definitions.reader file).Nests start body ↔ Nested body := by
  simp [Reader.Nests, Nested, Definitions.reader]

/-- Both passes attribute what they meet as the text says exactly if they complete no definition
that lies in another one of its sort; the collection completes them all. In any case the scope at a
site is the one in which every definition, on leaving, leaves none of its sort open. The sites are
those that the walk through the file passes. -/
theorem attribution_iff (file : Definitions.File) (context : Usage.Context) (model : Model)
    (types : Usage.ParameterTypes) (body : List Tree) :
    let collector := Definitions.reader file
    let analyzer := Usage.reader context
    let atFirst : Usage.State := { model := model, parameterTypes := types }
    (collector.Attributes { model := model } body ↔ ¬ Nested body) ∧
      (analyzer.Attributes atFirst body ↔ ¬ analyzer.Nests atFirst body) ∧
      (∀ (site : Site) s, collector.read site.before { model := model } = some s →
        collector.scope s = site.tracked file.module) ∧
      (∀ (site : Site) s, analyzer.read site.before atFirst = some s →
        analyzer.scope s = site.tracked context.module) ∧
      (∀ site node, Site.Holds body site node → site.before ++ node.walk <+: walkModule body) := by
  intro collector analyzer atFirst
  have nothing : ∀ sort, collector.opened sort { model := model } = none := by
    intro sort
    cases sort <;> rfl
  have nothing' : ∀ sort, analyzer.opened sort atFirst = none := by
    intro sort
    cases sort <;> rfl
  refine ⟨?_, analyzer.attributes_iff_not_nests nothing', ?_, ?_, ?_⟩
  · rw [collector.attributes_iff_not_nests nothing, Definitions.nests_reader_iff]
  · intro site s reach
    exact collector.scope_eq_tracked nothing reach
  · intro site s reach
    exact analyzer.scope_eq_tracked nothing' reach
  · intro site node holds
    exact holds.isPrefix

/-- A function `f` that holds a function `g` and, after it, a call of `h`: the call is met with no
function open. -/
theorem not_attributes_call_after_inner_function :
    let f : Identifier := ⟨"f", rfl⟩
    let g : Identifier := ⟨"g", rfl⟩
    let h : Identifier := ⟨"h", rfl⟩
    let inner := Tree.functionDef ⟨2, 4⟩ g [] [] [.group []]
    let call := Tree.call (.name h) [] []
    ¬ (Usage.reader { module := "m" }).Attributes {}
      [.functionDef ⟨1, 0⟩ f [] [] [inner, .group [call]]] := by
  intro f g h inner call attributes
  let outer := Tree.functionDef ⟨1, 0⟩ f [] [] [inner, .group [call]]
  let site : Site := .inside (.inside (.top []) outer [inner]) (.group [call]) []
  have atTop : Site.Holds [outer] (.top []) outer := .top (rfl : _ = [] ++ outer :: [])
  have inOuter : Site.Holds [outer] (.inside (.top []) outer [inner]) (.group [call]) :=
    .inside atTop (rfl : outer.parts = [inner] ++ .group [call] :: [])
  have holds : site.Holds [outer] call := .inside inOuter (rfl : _ = [] ++ call :: [])
  have reached : ((Usage.reader { module := "m" }).read site.before {}).isSome = true := rfl
  obtain ⟨s, reach⟩ := Option.isSome_iff_exists.mp reached
  have met := attributes.uses site call s holds rfl reach
  rw [Reader.scope_eq_tracked _ (by intro sort; cases sort <;> rfl) reach] at met
  have differ : (none : Option String) = some ("m" ++ "." ++ "f") := congrArg Scope.openCode met
  cases differ

end CodeMap
