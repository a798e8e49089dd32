/-
Collecting files that have no names in common.

Collected after other files, a file enters what it enters alone, but for the serial numbers and for
attributes whose names are taken (`Definitions.State.Later`). If the files have no names in common,
none is taken. Main statement: the first pass over such files finds the elements and the
containments of each file collected alone, and no others (`Extraction.collectAll_collected`), so
that their order does not matter (`Gathers.lookup_eq`).
-/

import CodeMap.Proofs.Passes
import Mathlib.Data.List.Induction

namespace CodeMap

open Source

/-- The element without its serial number. -/
def Element.unnumbered (element : Element) : Element := { element with serial := 0 }

/-- The unique names of the two ends. -/
def Containment.names (containment : Containment) : String × String :=
  (containment.parent.uniqueName, containment.child.uniqueName)

theorem Element.names_eq_of_unnumbered {element other : Element}
    (same : element.unnumbered = other.unnumbered) :
    element.uniqueName = other.uniqueName ∧ element.name = other.name := by
  rw [unnumbered, unnumbered, Element.mk.injEq] at same
  exact ⟨same.2.2.1, same.2.1⟩

/-! ### Models after other files -/

/-- The tables agree but for serial numbers, where the first one goes on from another. -/
def Table.Continues (table alone before : Table Element) : Prop :=
  ∀ name, (table.get? name).map Element.unnumbered =
    ((alone.get? name).or (before.get? name)).map Element.unnumbered

theorem Table.Continues.insert {table alone before : Table Element}
    (h : table.Continues alone before) (key : String) {element other : Element}
    (same : element.unnumbered = other.unnumbered) :
    (table.insert key element).Continues (alone.insert key other) before := by
  intro name
  rw [Table.get?_insert, Table.get?_insert]
  split
  · simp [same]
  · exact h name

/-- The model is what becomes of `before` when `alone` becomes of the empty model. -/
structure Model.Later (before alone model : Model) : Prop where
  elements : model.elements.Continues alone.elements before.elements
  symbols : model.symbols.Continues alone.symbols before.symbols
  containments : model.containments.toList.map Containment.names =
    before.containments.toList.map Containment.names ++
      alone.containments.toList.map Containment.names

namespace Model.Later

variable {before alone model : Model} {element other : Element}

theorem refl (before : Model) : before.Later {} before :=
  ⟨fun _ => rfl, fun _ => rfl, (List.append_nil _).symm⟩

theorem note (h : before.Later alone model) (event event' : Event) :
    before.Later (alone.note event) (model.note event') :=
  ⟨h.elements, h.symbols, h.containments⟩

theorem enter (h : before.Later alone model) (same : element.unnumbered = other.unnumbered) :
    before.Later (alone.enter other) (model.enter element) := by
  refine ⟨?_, h.symbols, h.containments⟩
  simp only [Model.enter, (Element.names_eq_of_unnumbered same).1]
  exact h.elements.insert _ same

theorem enterMember (h : before.Later alone model) {parent outer : Option Element}
    (parents : parent.map Element.unnumbered = outer.map Element.unnumbered)
    (same : element.unnumbered = other.unnumbered) (short : String) :
    before.Later (alone.enterMember outer other short)
      (model.enterMember parent element short) := by
  have named := (Element.names_eq_of_unnumbered same).1
  refine ⟨?_, ?_, ?_⟩
  · rw [enterMember_elements, enterMember_elements, named]
    exact h.elements.insert _ same
  · rw [enterMember_symbols, enterMember_symbols, named]
    exact (h.symbols.insert _ same).insert short same
  · cases parent with
    | none =>
      cases outer with
      | none => exact h.containments
      | some outer => cases parents
    | some parent =>
      cases outer with
      | none => cases parents
      | some outer =>
        have ends := (Element.names_eq_of_unnumbered (Option.some.inj parents)).1
        simp only [Model.enterMember, place, addContainment, bind, Model.enter, Array.toList_push,
          List.map_append, List.map_cons, List.map_nil, h.containments, List.append_assoc]
        rw [Containment.names, Containment.names, named, ends]

end Model.Later

/-! ### One step after other files -/

namespace Definitions.State

variable {before : Model} {alone state : State} {file : File}

/-- The state is what becomes of one with the model `before` when `alone` becomes of one with the
empty model. -/
structure Later (before : Model) (alone state : State) : Prop where
  model : before.Later alone.model state.model
  scopes : state.scopes.map Element.unnumbered = alone.scopes.map Element.unnumbered
  openClass : state.openClass.map Element.unnumbered = alone.openClass.map Element.unnumbered

namespace Later

theorem head?_scopes (h : Later before alone state) :
    state.scopes.head?.map Element.unnumbered = alone.scopes.head?.map Element.unnumbered := by
  rw [← List.head?_map, ← List.head?_map, h.scopes]

theorem define (h : Later before alone state) {element other : Element}
    (same : element.unnumbered = other.unnumbered) (short : String) :
    Later before (alone.define other short) (state.define element short) := by
  rw [define_eq, define_eq]
  refine ⟨(h.model.enterMember h.head?_scopes same short).note _ _, ?_, h.openClass⟩
  rw [List.map_cons, List.map_cons, same, h.scopes]

theorem enterModule (h : Later before alone state) :
    Later before (alone.enterModule file) (state.enterModule file) := by
  refine ⟨h.model.enter rfl, ?_, h.openClass⟩
  exact congrArg (List.cons _) h.scopes

theorem enterClass (h : Later before alone state) (position : Position) (name : String) :
    Later before (alone.enterClass file position name) (state.enterClass file position name) := by
  unfold State.enterClass
  refine ⟨(h.define ?_ _).model, (h.define ?_ _).scopes, rfl⟩ <;> rfl

theorem enterFunction (h : Later before alone state) (position : Position) (name : String)
    (params : List Tree) :
    Later before (alone.enterFunction file position name params)
      (state.enterFunction file position name params) := by
  have owners := h.openClass
  unfold State.enterFunction
  cases isOpen : state.openClass with
  | none =>
    cases isOpen' : alone.openClass with
    | some owner => simp [isOpen, isOpen'] at owners
    | none =>
      refine ⟨(h.define ?_ _).model.note _ _, (h.define ?_ _).scopes, (h.define ?_ _).openClass⟩ <;>
        rfl
  | some owner =>
    cases isOpen' : alone.openClass with
    | none => simp [isOpen, isOpen'] at owners
    | some owner' =>
      simp only [isOpen, isOpen', Option.map_some, Option.some.injEq] at owners
      obtain ⟨named, short⟩ := Element.names_eq_of_unnumbered owners
      dsimp only
      rw [named, short]
      refine ⟨(h.define ?_ _).model.note _ _, (h.define ?_ _).scopes, (h.define ?_ _).openClass⟩ <;>
        rfl

/-- An attribute whose name is not taken by other files. -/
theorem defineAttribute (h : Later before alone state) (position : Position)
    {owner owner' : Element} (owners : owner.unnumbered = owner'.unnumbered) {attr : String}
    (free : owner'.uniqueName ++ "." ++ attr ∉ before.elements.keys) :
    Later before (alone.defineAttribute file position owner' attr)
      (state.defineAttribute file position owner attr) := by
  obtain ⟨named, short⟩ := Element.names_eq_of_unnumbered owners
  have taken : state.model.elements.contains (owner'.uniqueName ++ "." ++ attr) =
      alone.model.elements.contains (owner'.uniqueName ++ "." ++ attr) := by
    have lookup := congrArg Option.isSome (h.model.elements (owner'.uniqueName ++ "." ++ attr))
    rw [← Table.contains_iff, Table.contains, Option.not_isSome_iff_eq_none] at free
    rwa [free, Option.or_none, Option.isSome_map, Option.isSome_map] at lookup
  unfold State.defineAttribute
  dsimp only
  rw [named, short, taken]
  split
  · exact h
  · refine ⟨?_, h.scopes, h.openClass⟩
    have parents : (some owner).map Element.unnumbered = (some owner').map Element.unnumbered :=
      congrArg some owners
    have same (serial serial' : Nat) :
        (⟨serial, attr, owner'.uniqueName ++ "." ++ attr, .attribute,
            some (file.link position)⟩ : Element).unnumbered =
          (⟨serial', attr, owner'.uniqueName ++ "." ++ attr, .attribute,
            some (file.link position)⟩ : Element).unnumbered := rfl
    have entered := h.model.enterMember parents (same state.model.made alone.model.made)
      (file.shortModule ++ "." ++ owner'.name ++ "." ++ attr)
    exact ⟨entered.elements, entered.symbols, entered.containments⟩

end Later

/-- The names of attributes are taken after their assignment. -/
theorem mem_keys_foldl_defineAttribute (state : State) (position : Position) (owner : Element)
    (attrs : List String) {name : String} :
    name ∈ (attrs.foldl (fun state attr => state.defineAttribute file position owner attr)
        state).model.elements.keys ↔
      (∃ attr ∈ attrs, name = owner.uniqueName ++ "." ++ attr) ∨
        name ∈ state.model.elements.keys := by
  induction attrs generalizing state with
  | nil => simp
  | cons attr attrs ih =>
    rw [List.foldl_cons, ih]
    rcases defineAttribute_eq file state position owner attr with ⟨taken, same⟩ | ⟨element, short,
      collected, mapped, -, named, -, changed⟩
    · rw [same]
      grind
    · rw [changed]
      simp only [Model.note, Model.enterMember_elements, Table.mem_keys_insert, named]
      grind

theorem Later.assign (h : Later before alone state) (position : Position) (targets : List Tree)
    (apart : ∀ name ∈ (alone.assign file position targets).model.elements.keys,
      name ∉ before.elements.keys) :
    Later before (alone.assign file position targets) (state.assign file position targets) := by
  have owners := h.openClass
  unfold State.assign at apart ⊢
  cases isOpen : state.openClass with
  | none =>
    cases isOpen' : alone.openClass with
    | some owner => simp [isOpen, isOpen'] at owners
    | none => exact h
  | some owner =>
    cases isOpen' : alone.openClass with
    | none => simp [isOpen, isOpen'] at owners
    | some owner' =>
      simp only [isOpen, isOpen', Option.map_some, Option.some.injEq] at owners
      rw [isOpen'] at apart
      have free : ∀ attr ∈ targets.filterMap selfAttribute?,
          owner'.uniqueName ++ "." ++ attr ∉ before.elements.keys := fun attr member =>
        apart _ ((mem_keys_foldl_defineAttribute _ _ _ _).mpr (.inl ⟨attr, member, rfl⟩))
      dsimp only
      clear apart isOpen isOpen'
      generalize targets.filterMap selfAttribute? = attrs at free ⊢
      induction attrs generalizing alone state with
      | nil => exact h
      | cons attr attrs ih =>
        refine ih (h.defineAttribute position owners (free attr List.mem_cons_self)) ?_
        exact fun other member => free other (List.mem_cons_of_mem _ member)

theorem Later.step (h : Later before alone state) (step : Step)
    (apart : ∀ name ∈ (alone.step file step).model.elements.keys, name ∉ before.elements.keys) :
    Later before (alone.step file step) (state.step file step) := by
  have tails : state.scopes.tail.map Element.unnumbered =
      alone.scopes.tail.map Element.unnumbered := by
    rw [List.map_tail, List.map_tail, h.scopes]
  cases step with
  | enterModule => exact h.enterModule
  | enterClass position name => exact h.enterClass position name.text
  | enterFunction position name params => exact h.enterFunction position name.text params
  | assign position targets value => exact h.assign position targets apart
  | leaveModule | leaveFunction => exact ⟨h.model, tails, h.openClass⟩
  | leaveClass => exact ⟨h.model, tails, rfl⟩
  | _ => exact h

/-! ### Many steps after other files -/

/-- Names that are taken stay taken, so that it is enough to ask in the end. -/
theorem Later.foldl (h : Later before alone state) (anchored : alone.Anchored) (steps : List Step)
    (apart : ∀ name ∈ (steps.foldl (State.step file) alone).model.elements.keys,
      name ∉ before.elements.keys) :
    Later before (steps.foldl (State.step file) alone) (steps.foldl (State.step file) state) := by
  induction steps generalizing alone state with
  | nil => exact h
  | cons step steps ih =>
    have anchored' := step_anchored file anchored step
    obtain ⟨entered, collecting, -⟩ := foldl_step_collecting file anchored' steps
    refine ih (h.step step fun name taken => ?_) anchored' apart
    exact apart name (collecting.mem_keys_iff.mpr (.inl taken))

end Definitions.State

/-! ### The first pass -/

/-- The model of a file that is collected alone. -/
def ReadFile.alone (file : ReadFile) : Model := Extraction.collectFile {} file

/-- The names that a file introduces: the unique names of what it defines, and what names are
looked up by. -/
def ReadFile.names (file : ReadFile) : List String :=
  file.alone.elements.keys ++ file.alone.symbols.keys

/-- The files have no names in common. -/
def ReadFile.Apart (file other : ReadFile) : Prop :=
  ∀ name ∈ file.names, name ∉ other.names

instance (file other : ReadFile) : Decidable (file.Apart other) :=
  inferInstanceAs (Decidable (∀ name ∈ file.names, name ∉ other.names))

theorem ReadFile.Apart.symm {file other : ReadFile} (apart : file.Apart other) :
    other.Apart file :=
  fun name member member' => apart name member' member

/-- The tables of the files collected alone, put together. -/
def Gathers (view : Model → Table Element) (files : List ReadFile) (table : Table Element) : Prop :=
  ∀ name element, (table.get? name).map Element.unnumbered = some element ↔
    ∃ file ∈ files, ((view file.alone).get? name).map Element.unnumbered = some element

theorem Gathers.nil (view : Model → Table Element) : Gathers view [] ∅ := by
  refine fun name element => ⟨nofun, ?_⟩
  rintro ⟨file, member, -⟩
  cases member

theorem Gathers.snoc {view : Model → Table Element} {files : List ReadFile} {file : ReadFile}
    {before after : Table Element} (h : Gathers view files before)
    (continues : after.Continues (view file.alone) before)
    (apart : ∀ other ∈ files, ∀ name ∈ (view other.alone).keys, name ∉ (view file.alone).keys) :
    Gathers view (files ++ [file]) after := by
  intro name element
  rw [continues name, Option.map_or, Option.or_eq_some_iff, h name element]
  constructor
  · rintro (own | ⟨-, other, member, found⟩)
    · exact ⟨file, by simp, own⟩
    · exact ⟨other, by simp [member], found⟩
  · rintro ⟨other, member, found⟩
    rcases List.mem_append.mp member with member | same
    · refine .inr ⟨?_, other, member, found⟩
      obtain ⟨entered, stands, -⟩ := Option.map_eq_some_iff.mp found
      have unknown := apart other member name (Table.mem_keys_iff.mpr ⟨entered, stands⟩)
      rw [← Table.contains_iff, Table.contains, Option.not_isSome_iff_eq_none] at unknown
      simp [unknown]
    · rw [List.mem_singleton.mp same] at found
      exact .inl found

/-- What is looked up does not depend on the order of the files. -/
theorem Gathers.lookup_eq {view : Model → Table Element} {files others : List ReadFile}
    {table table' : Table Element} (h : Gathers view files table) (h' : Gathers view others table')
    (perm : files.Perm others) (name : String) :
    (table.get? name).map Element.unnumbered = (table'.get? name).map Element.unnumbered := by
  refine Option.ext fun element => ?_
  rw [h name element, h' name element]
  simp only [perm.mem_iff]

/-- The elements and the containments of the files collected alone, put together. -/
structure Collected (files : List ReadFile) (model : Model) : Prop where
  elements : Gathers Model.elements files model.elements
  symbols : Gathers Model.symbols files model.symbols
  containments : model.containments.toList.map Containment.names =
    files.flatMap fun file => file.alone.containments.toList.map Containment.names

namespace Extraction

theorem collectFile_later {before : Model} {file : ReadFile}
    (apart : ∀ name ∈ file.alone.elements.keys, name ∉ before.elements.keys) :
    before.Later file.alone (collectFile before file) := by
  unfold ReadFile.alone collectFile at apart ⊢
  cases read : file.trees with
  | error fault => exact (Model.Later.refl before).note _ _
  | ok trees =>
    rw [read] at apart
    have atFirst : Definitions.State.Later before { model := {} } { model := before } :=
      ⟨.refl before, rfl, rfl⟩
    exact (atFirst.foldl ⟨nofun, nofun⟩ (walkModule trees) apart).model

/-- The first pass over files that have no names in common. -/
theorem collectAll_collected {files : List ReadFile} (apart : files.Pairwise ReadFile.Apart) :
    Collected files (collectAll {} files) := by
  induction files using List.reverseRecOn with
  | nil => exact ⟨.nil _, .nil _, rfl⟩
  | append_singleton files file ih =>
    obtain ⟨earlier, -, between⟩ := List.pairwise_append.mp apart
    have ih := ih earlier
    have apart (other : ReadFile) (member : other ∈ files) : other.Apart file :=
      between other member file List.mem_cons_self
    have free : ∀ name ∈ file.alone.elements.keys, name ∉ (collectAll {} files).elements.keys := by
      intro name own taken
      obtain ⟨element, found⟩ := Table.mem_keys_iff.mp taken
      obtain ⟨other, member, found⟩ := (ih.elements name element.unnumbered).mp (by simp [found])
      obtain ⟨entered, found, -⟩ := Option.map_eq_some_iff.mp found
      exact apart other member name (List.mem_append_left _ (Table.mem_keys_iff.mpr ⟨_, found⟩))
        (List.mem_append_left _ own)
    have later := collectFile_later free
    rw [collectAll, List.foldl_append]
    refine ⟨ih.elements.snoc later.elements ?_, ih.symbols.snoc later.symbols ?_, ?_⟩
    · exact fun other member name known own => apart other member name
        (List.mem_append_left _ known) (List.mem_append_left _ own)
    · exact fun other member name known own => apart other member name
        (List.mem_append_right _ known) (List.mem_append_right _ own)
    · rw [List.flatMap_append, ← ih.containments, List.flatMap_singleton]
      exact later.containments

end Extraction

end CodeMap
