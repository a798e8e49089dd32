/-
The hierarchy of elements in a model file.

Files and external code are meant to lie in nothing, every other element in exactly one other, and
no element in itself, over however many others. An element that is entered is placed in something
each time, under a name of which the file has one record. Main statement: the file of a project is
a hierarchy exactly if no name is entered again after it was entered for a class, a function or an
attribute (`hierarchy_iff`).
-/

import CodeMap.Proofs.Integrity
import CodeMap.Proofs.Nesting
import Mathlib.Data.List.Induction
import Mathlib.Logic.Relation
import Mathlib.Order.RelClasses

namespace CodeMap

namespace Mse

/-- The numbers of the parent and the child of a record. -/
def Record.link? : Record → Option (Nat × Nat)
  | .parentChild parent child _ => some (parent, child)
  | _ => none

/-- The parents and children in a model file. -/
def links (records : List Record) : List (Nat × Nat) :=
  records.filterMap Record.link?

/-- The element of a file, or external code. -/
def isTop (element : Element) : Bool :=
  element.role = .file || element.role = .external

/-- The records of containments are a hierarchy of the elements. -/
structure Hierarchy (records : List Record) : Prop where
  tops : ∀ element ∈ numberedElements records, isTop element.2 = true →
    element.1 ∉ (links records).map Prod.snd
  single : ∀ element ∈ numberedElements records, isTop element.2 = false →
    ((links records).map Prod.snd).count element.1 = 1
  acyclic : ∀ id, ¬ Relation.TransGen (fun child parent => (parent, child) ∈ links records) id id

end Mse

/-! ### Parents of placed names -/

section Placed

variable {placed : List (String × Containment)}

/-- `child` was placed in `parent`. -/
def Above (placed : List (String × Containment)) (parent child : String) : Prop :=
  ∃ entry ∈ placed, entry.2.parent.uniqueName = parent ∧ entry.2.child.uniqueName = child

theorem Placed.length_lt (order : Placed placed) {entry : String × Containment}
    (member : entry ∈ placed) : entry.1.length < entry.2.child.uniqueName.length := by
  induction order with
  | nil => cases member
  | snoc _ _ longer ih =>
    rcases List.mem_append.mp member with old | new
    · exact ih old
    · rw [List.mem_singleton.mp new]
      exact longer

/-- The way up from a child ends, if no name was placed twice. -/
theorem Placed.acc (order : Placed placed)
    (distinct : (placed.map (·.2.child.uniqueName)).Nodup) (bound : Nat) :
    ∀ entry ∈ placed, entry.1.length < bound → Acc (Above placed) entry.2.child.uniqueName := by
  -- It goes up to the module through what was placed before in it. The module may itself be placed,
  -- but then in a module with a shorter name.
  induction bound with
  | zero => exact fun _ _ impossible => absurd impossible (Nat.not_lt_zero _)
  | succ bound shorter =>
    suffices along : ∀ {first}, Placed first → first <+: placed → ∀ entry ∈ first,
        entry.1.length < bound + 1 → Acc (Above placed) entry.2.child.uniqueName from
      along order List.prefix_rfl
    intro first firstOrder
    induction firstOrder with
    | nil => exact fun _ _ impossible => nomatch impossible
    | @snoc earlier module containment _ known longer ih =>
      intro part entry member short
      have before : earlier <+: placed := (List.prefix_append _ _).trans part
      rcases List.mem_append.mp member with old | new
      · exact ih before entry old short
      · obtain rfl := List.mem_singleton.mp new
        refine Acc.intro _ ?_
        rintro _ ⟨same, sameMember, rfl, sameChild⟩
        obtain rfl : same = (module, containment) :=
          List.inj_on_of_nodup_map distinct sameMember (part.subset member) sameChild
        rcases known with own | ⟨inner, innerMember, sameModule, named⟩
        · refine Acc.intro _ ?_
          rintro _ ⟨outer, outerMember, rfl, isModule⟩
          have outerShort : outer.1.length < bound := by
            have := order.length_lt outerMember
            rw [isModule, own] at this
            dsimp only at short
            omega
          exact (shorter outer outerMember outerShort).inv ⟨outer, outerMember, rfl, rfl⟩
        · rw [← named]
          exact ih before inner innerMember (sameModule ▸ short)

theorem Placed.wellFounded_above (order : Placed placed)
    (distinct : (placed.map (·.2.child.uniqueName)).Nodup) : WellFounded (Above placed) := by
  refine ⟨fun name => Acc.intro name ?_⟩
  rintro _ ⟨entry, member, rfl, rfl⟩
  exact (order.acc distinct _ entry member (Nat.lt_succ_self _)).inv ⟨entry, member, rfl, rfl⟩

end Placed

/-! ### Names that are entered again -/

namespace Definitions

/-- The names of classes, functions and attributes. -/
def memberNames (entered : List (String × Introduced)) : List String :=
  (entered.filter (·.2 ≠ .file)).map Prod.fst

/-- The name is not entered again after it was entered for a class, a function or an attribute. -/
def KeepsMembers (entered : List (String × Introduced)) : Prop :=
  entered.Pairwise fun earlier later => earlier.2 = .file ∨ earlier.1 ≠ later.1

instance (entered : List (String × Introduced)) : Decidable (KeepsMembers entered) :=
  inferInstanceAs (Decidable (List.Pairwise _ _))

theorem memberNames_append (xs ys : List (String × Introduced)) :
    memberNames (xs ++ ys) = memberNames xs ++ memberNames ys := by
  simp [memberNames]

theorem not_mem_memberNames_iff {entered : List (String × Introduced)} {name : String} :
    name ∉ memberNames entered ↔ ∀ earlier ∈ entered, earlier.2 = .file ∨ earlier.1 ≠ name := by
  simp only [memberNames, List.mem_map, List.mem_filter, decide_eq_true_eq, not_exists, not_and,
    and_imp, or_iff_not_imp_left]

theorem mem_memberNames_of_last? {entered : List (String × Introduced)} {name : String}
    {how : Introduced} (last : Entries.last? name entered = some how) (member : how ≠ .file) :
    name ∈ memberNames entered := by
  simpa [memberNames] using ⟨how, Entries.mem_of_last? last, member⟩

theorem mem_of_mem_memberNames {entered : List (String × Introduced)} {name : String}
    (member : name ∈ memberNames entered) : name ∈ entered.map Prod.fst := by
  obtain ⟨new, isEntered, rfl⟩ := List.mem_map.mp member
  exact List.mem_map_of_mem (List.mem_of_mem_filter isEntered)

theorem exists_last?_of_mem {entered : List (String × Introduced)} {name : String}
    (member : name ∈ memberNames entered) : ∃ how, Entries.last? name entered = some how :=
  Option.ne_none_iff_exists'.mp fun nothing =>
    Entries.last?_eq_none_iff.mp nothing (mem_of_mem_memberNames member)

theorem keepsMembers_iff (entered : List (String × Introduced)) :
    KeepsMembers entered ↔ (memberNames entered).Nodup ∧
      ∀ name, Entries.last? name entered = some .file → name ∉ memberNames entered := by
  induction entered using List.reverseRecOn with
  | nil => simp [KeepsMembers, memberNames, Entries.last?]
  | append_singleton entered new ih =>
    have split : KeepsMembers (entered ++ [new]) ↔
        KeepsMembers entered ∧ new.1 ∉ memberNames entered := by
      simp [KeepsMembers, List.pairwise_append, not_mem_memberNames_iff]
    obtain ⟨name, how⟩ := new
    have last (other : String) : Entries.last? other (entered ++ [(name, how)]) =
        if name = other then some how else Entries.last? other entered := by
      rw [Entries.last?_append, Entries.last?_singleton]
      split <;> rfl
    rw [split, ih, memberNames_append]
    simp only [last]
    by_cases isFile : how = .file
    · have own : memberNames [(name, how)] = [] := by simp [memberNames, isFile]
      rw [own, List.append_nil]
      constructor
      · rintro ⟨⟨distinct, tops⟩, fresh⟩
        refine ⟨distinct, fun other isLast => ?_⟩
        by_cases same : name = other
        · exact same ▸ fresh
        · exact tops other (by simpa [same] using isLast)
      · rintro ⟨distinct, tops⟩
        have fresh : name ∉ memberNames entered := tops name (by simp [isFile])
        refine ⟨⟨distinct, fun other isLast => ?_⟩, fresh⟩
        by_cases same : name = other
        · exact same ▸ fresh
        · exact tops other (by simpa [same] using isLast)
    · have own : memberNames [(name, how)] = [name] := by simp [memberNames, isFile]
      rw [own, List.nodup_append_comm, List.singleton_append, List.nodup_cons]
      simp only [List.mem_append, List.mem_singleton, not_or]
      constructor
      · rintro ⟨⟨distinct, tops⟩, fresh⟩
        refine ⟨⟨fresh, distinct⟩, fun other isLast => ?_⟩
        have other_ne : ¬ name = other := fun same => isFile (by simpa [same] using isLast)
        exact ⟨tops other (by simpa [other_ne] using isLast), Ne.symm other_ne⟩
      · rintro ⟨⟨fresh, distinct⟩, tops⟩
        refine ⟨⟨distinct, fun other isLast => ?_⟩, fresh⟩
        by_cases same : name = other
        · exact same ▸ fresh
        · exact (tops other (by simpa [same] using isLast)).1

end Definitions

/-! ### Elements and links of a model file -/

namespace Model

open Definitions (memberNames KeepsMembers)

variable {model : Model} {definitions : List (String × Kind)}
  {entered : List (String × Introduced)} {placed : List (String × Containment)}

theorem Resolved.mem_numberedElements_iff (resolved : model.Resolved definitions) {id : Nat}
    {element : Element} :
    (id, element) ∈ Mse.numberedElements model.records ↔
      ∃ name, model.allElements.get? name = some element ∧ model.numberOf name = id := by
  simp [resolved.numberedElements_records, Table.get?_eq_some_iff]

theorem Resolved.links_records (resolved : model.Resolved definitions)
    (arranged : model.Arranged entered placed) :
    Mse.links model.records = placed.map fun entry =>
      (model.numberOf entry.2.parent.uniqueName, model.numberOf entry.2.child.uniqueName) := by
  have calls (call : Call) : ((call.caller.map fun caller => Mse.Record.call (model.numberOf caller)
      (model.numberOf call.called)).bind Mse.Record.link?) = none := by
    cases call.caller <;> rfl
  simp [Mse.links, resolved.records_eq, List.filterMap_filterMap, calls, Mse.Record.link?,
    arranged.containments, Function.comp_def]

/-- The children in the file are the names that were entered for members. -/
theorem Resolved.children_records (resolved : model.Resolved definitions)
    (arranged : model.Arranged entered placed) :
    (Mse.links model.records).map Prod.snd = (memberNames entered).map model.numberOf := by
  rw [resolved.links_records arranged, memberNames, ← arranged.children]
  simp [Function.comp_def]

theorem Arranged.known_of_mem (arranged : model.Arranged entered placed) {name : String}
    (member : name ∈ memberNames entered) : name ∈ model.allElements.keys :=
  model.mem_keys_allElements.mpr
    (.inl (arranged.mem_keys_iff.mpr (Definitions.mem_of_mem_memberNames member)))

theorem Resolved.count_children (resolved : model.Resolved definitions)
    (arranged : model.Arranged entered placed) {name : String}
    (known : name ∈ model.allElements.keys) :
    ((Mse.links model.records).map Prod.snd).count (model.numberOf name) =
      (memberNames entered).count name := by
  rw [resolved.children_records arranged, List.count, List.countP_map, List.count]
  refine List.countP_congr fun other member => ?_
  simpa using numberOf_inj (arranged.known_of_mem member) known

theorem Resolved.mem_children_iff (resolved : model.Resolved definitions)
    (arranged : model.Arranged entered placed) {name : String}
    (known : name ∈ model.allElements.keys) :
    model.numberOf name ∈ (Mse.links model.records).map Prod.snd ↔ name ∈ memberNames entered := by
  rw [← List.count_pos_iff, resolved.count_children arranged known, List.count_pos_iff]

/-- Files are told from members by how their names were entered last. -/
theorem Resolved.isTop_eq_false_iff (resolved : model.Resolved definitions)
    (arranged : model.Arranged entered placed) {name : String} {element : Element}
    (found : model.allElements.get? name = some element) :
    Mse.isTop element = false ↔ ∃ how ≠ .file, Entries.last? name entered = some how := by
  have same := arranged.elements name
  rw [get?_allElements] at found
  cases own : model.elements.get? name with
  | some inner =>
    obtain rfl : inner = element := by simpa [own] using found
    rw [own] at same
    have notExternal := resolved.own own
    cases last : Entries.last? name entered with
    | none => simp [last] at same
    | some how => simp_all [Mse.isTop, Element.isMain]
  | none =>
    rw [own, Option.none_or] at found
    have isExternal := resolved.externals element (model.mem_of_get?_externalTable found).1
    have last : Entries.last? name entered = none := by simpa [own] using same.symm
    simp [Mse.isTop, isExternal, last]

theorem Resolved.not_mem_of_external (resolved : model.Resolved definitions)
    (arranged : model.Arranged entered placed) {name : String} {element : Element}
    (found : model.allElements.get? name = some element) (isExternal : element.role = .external) :
    name ∉ memberNames entered := by
  intro member
  obtain ⟨inner, own⟩ := Table.mem_keys_iff.mp
    (arranged.mem_keys_iff.mpr (Definitions.mem_of_mem_memberNames member))
  obtain rfl : inner = element := by simpa [get?_allElements, own] using found
  exact resolved.own own isExternal

/-- A way up in the file is a way up between the names. -/
theorem Resolved.exists_of_transGen (resolved : model.Resolved definitions)
    (arranged : model.Arranged entered placed) {low high : Nat}
    (way : Relation.TransGen (fun child parent => (parent, child) ∈ Mse.links model.records)
      low high) :
    ∃ child ∈ model.allElements.keys, ∃ parent ∈ model.allElements.keys,
      model.numberOf child = low ∧ model.numberOf parent = high ∧
        Relation.TransGen (Function.swap (Above placed)) child parent := by
  have ends {entry : String × Containment} (member : entry ∈ placed) :
      entry.2.parent.uniqueName ∈ model.allElements.keys ∧
        entry.2.child.uniqueName ∈ model.allElements.keys := by
    have recorded : entry.2 ∈ model.containments.toList :=
      arranged.containments ▸ List.mem_map_of_mem member
    have entered := resolved.containments entry.2 (Array.mem_toList_iff.mp recorded)
    exact ⟨model.mem_keys_allElements.mpr (.inl entered.1),
      model.mem_keys_allElements.mpr (.inl entered.2)⟩
  rw [resolved.links_records arranged] at way
  induction way with
  | single link =>
    obtain ⟨entry, member, equal⟩ := List.mem_map.mp link
    cases equal
    exact ⟨_, (ends member).2, _, (ends member).1, rfl, rfl, .single ⟨entry, member, rfl, rfl⟩⟩
  | tail _ link ih =>
    obtain ⟨child, childKnown, middle, middleKnown, lowest, between, below⟩ := ih
    obtain ⟨entry, member, equal⟩ := List.mem_map.mp link
    rw [Prod.mk.injEq, ← between] at equal
    have same : entry.2.child.uniqueName = middle :=
      (numberOf_inj (ends member).2 middleKnown).mp equal.2
    exact ⟨child, childKnown, _, (ends member).1, lowest, equal.1,
      below.tail ⟨entry, member, rfl, same⟩⟩

theorem Resolved.hierarchy_iff_keepsMembers (resolved : model.Resolved definitions)
    (arranged : model.Arranged entered placed) :
    Mse.Hierarchy model.records ↔ KeepsMembers entered := by
  rw [Definitions.keepsMembers_iff]
  constructor
  · intro hierarchy
    have tops (name : String) (last : Entries.last? name entered = some .file) :
        name ∉ memberNames entered := by
      intro member
      have known := arranged.known_of_mem member
      obtain ⟨element, found⟩ := Table.mem_keys_iff.mp known
      have isTop : Mse.isTop element = true := by
        rw [← Bool.not_eq_false, resolved.isTop_eq_false_iff arranged found, last]
        simp
      exact hierarchy.tops _ (resolved.mem_numberedElements_iff.mpr ⟨name, found, rfl⟩) isTop
        ((resolved.mem_children_iff arranged known).mpr member)
    refine ⟨List.nodup_iff_count_le_one.mpr fun name => ?_, tops⟩
    by_cases member : name ∈ memberNames entered
    · have known := arranged.known_of_mem member
      obtain ⟨element, found⟩ := Table.mem_keys_iff.mp known
      have listed := resolved.mem_numberedElements_iff.mpr ⟨name, found, rfl⟩
      cases isTop : Mse.isTop element with
      | true =>
        have child := (resolved.mem_children_iff arranged known).mpr member
        exact absurd child (hierarchy.tops _ listed isTop)
      | false =>
        rw [← resolved.count_children arranged known]
        exact Nat.le_of_eq (hierarchy.single _ listed isTop)
    · rw [List.count_eq_zero_of_not_mem member]
      exact Nat.zero_le 1
  · rintro ⟨distinct, tops⟩
    constructor
    · rintro ⟨id, element⟩ listed isTop child
      obtain ⟨name, found, rfl⟩ := resolved.mem_numberedElements_iff.mp listed
      have known := Table.mem_keys_iff.mpr ⟨element, found⟩
      have member := (resolved.mem_children_iff arranged known).mp child
      obtain ⟨last, isLast⟩ := Definitions.exists_last?_of_mem member
      have notTop := resolved.isTop_eq_false_iff arranged found
      by_cases isFile : last = .file
      · exact tops name (isFile ▸ isLast) member
      · exact absurd (notTop.mpr ⟨last, isFile, isLast⟩) (by simp [isTop])
    · rintro ⟨id, element⟩ listed notTop
      obtain ⟨name, found, rfl⟩ := resolved.mem_numberedElements_iff.mp listed
      obtain ⟨how, notFile, last⟩ := (resolved.isTop_eq_false_iff arranged found).mp notTop
      rw [resolved.count_children arranged (Table.mem_keys_iff.mpr ⟨element, found⟩)]
      exact List.count_eq_one_of_mem distinct (Definitions.mem_memberNames_of_last? last notFile)
    · intro id way
      obtain ⟨child, childKnown, parent, parentKnown, low, high, way⟩ :=
        resolved.exists_of_transGen arranged way
      obtain rfl : child = parent :=
        (numberOf_inj childKnown parentKnown).mp (low.trans high.symm)
      have ends := arranged.order.wellFounded_above (arranged.children ▸ distinct)
      have loop := Relation.transGen_swap.mp way
      exact ends.transGen.asymmetric child child loop loop

end Model

/-- In the file of a project external code lies in nothing, and every class, every function and
every attribute lies in something. The file is a hierarchy exactly if no name is entered again
after it was entered for a class, a function or an attribute. -/
theorem hierarchy_iff (project : Project) :
    let records := project.model.records
    let children := (Mse.links records).map Prod.snd
    (∀ element ∈ Mse.numberedElements records, element.2.role = .external →
      element.1 ∉ children) ∧
      (∀ element ∈ Mse.numberedElements records, Mse.isTop element.2 = false →
        element.1 ∈ children) ∧
      (Mse.Hierarchy records ↔ Definitions.KeepsMembers
        (Definitions.enteredOf (project.readFiles.flatMap ReadFile.introductions))) := by
  intro records children
  have resolved := Model.ofFiles_resolved project.typeOrder project.readFiles
  obtain ⟨placed, arranged⟩ := Model.ofFiles_arranged project.typeOrder project.readFiles
  refine ⟨?_, ?_, resolved.hierarchy_iff_keepsMembers arranged⟩
  · rintro ⟨id, element⟩ listed isExternal child
    obtain ⟨name, found, rfl⟩ := resolved.mem_numberedElements_iff.mp listed
    have known := Table.mem_keys_iff.mpr ⟨element, found⟩
    exact resolved.not_mem_of_external arranged found isExternal
      ((resolved.mem_children_iff arranged known).mp child)
  · rintro ⟨id, element⟩ listed notTop
    obtain ⟨name, found, rfl⟩ := resolved.mem_numberedElements_iff.mp listed
    obtain ⟨how, notFile, last⟩ := (resolved.isTop_eq_false_iff arranged found).mp notTop
    exact (resolved.mem_children_iff arranged (Table.mem_keys_iff.mpr ⟨element, found⟩)).mpr
      (Definitions.mem_memberNames_of_last? last notFile)

/-- A function that is defined twice: its element lies in the file twice. -/
theorem not_hierarchy_function_twice :
    let f : Source.Identifier := ⟨"f", rfl⟩
    let file : ReadFile :=
      { path := "p/m.py"
        place := { name := "m.py", path := "/p/m.py", module := "p.m" }
        trees := .ok
          [.functionDef ⟨1, 0⟩ f [] [] [.group []], .functionDef ⟨4, 0⟩ f [] [] [.group []]] }
    ¬ Mse.Hierarchy (Model.ofFiles .ascending [file]).records := by
  intro f file hierarchy
  have twice : ¬ ∀ element ∈ Mse.numberedElements (Model.ofFiles .ascending [file]).records,
      Mse.isTop element.2 = false →
        ((Mse.links (Model.ofFiles .ascending [file]).records).map Prod.snd).count
          element.1 = 1 := by
    decide +kernel
  exact twice hierarchy.single

end CodeMap
