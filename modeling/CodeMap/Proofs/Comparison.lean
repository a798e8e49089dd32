/-
Comparing two model files.

Two contents are the same if they have the same objects and, with numbers replaced by unique names,
the same relations (`Contents.Same`). Numbers, order and repetition do not count. Main statement:
the comparison of two files meets no fault, its answer lists exactly the lines of one file that the
other one lacks, and there are none exactly if the contents are the same (`compare_decides_same`).
For this the technical types must have no marks of cuts in them.

The file of a project holds such contents (`Model.render_contents`, `Model.contents_uncut`), and
they are well formed if the records are intact and the texts clean (`Intact.wellFormed`). So files
of projects are compared for what they hold (`Model.compare_render`).
-/

import CodeMap.Proofs.BriefLines
import CodeMap.Proofs.Integrity

namespace CodeMap.Mse

/-! ### Parts of lines -/

theorem eq_of_append_cons {c : Char} {xs ys rest rest' : List Char} (absent : c ∉ xs)
    (absent' : c ∉ ys) (same : xs ++ c :: rest = ys ++ c :: rest') : xs = ys ∧ rest = rest' := by
  induction xs generalizing ys with
  | nil =>
    cases ys with
    | nil => exact ⟨rfl, (List.cons.inj same).2⟩
    | cons y ys => exact absurd (List.mem_cons.mpr (.inl (List.cons.inj same).1)) absent'
  | cons x xs ih =>
    cases ys with
    | nil => exact absurd (List.mem_cons.mpr (.inl (List.cons.inj same).1.symm)) absent
    | cons y ys =>
      obtain ⟨first, later⟩ := List.cons.inj same
      obtain ⟨equal, left⟩ := ih (fun inside => absent (List.mem_cons_of_mem _ inside))
        (fun inside => absent' (List.mem_cons_of_mem _ inside)) later
      exact ⟨by rw [first, equal], left⟩

theorem eq_of_separated {xs ys rest rest' : List Char} (unblank : ' ' ∉ xs) (unblank' : ' ' ∉ ys)
    (same : xs ++ ',' :: ' ' :: rest = ys ++ ',' :: ' ' :: rest') : xs = ys ∧ rest = rest' := by
  have comma {zs : List Char} (unblank : ' ' ∉ zs) : ' ' ∉ zs ++ [','] := by simpa using unblank
  have same : (xs ++ [',']) ++ ' ' :: rest = (ys ++ [',']) ++ ' ' :: rest' := by simpa using same
  obtain ⟨equal, left⟩ := eq_of_append_cons (comma unblank) (comma unblank') same
  exact ⟨List.append_cancel_right equal, left⟩

theorem lineOf_inj {kind kind' : String} {fields fields' : List (String × String)}
    (absent : '(' ∉ kind.toList) (absent' : '(' ∉ kind'.toList)
    (same : lineOf kind fields = lineOf kind' fields') :
    kind = kind' ∧ joinedFields fields = joinedFields fields' := by
  have same := congrArg String.toList same
  rw [toList_lineOf, toList_lineOf] at same
  obtain ⟨equal, left⟩ := eq_of_append_cons absent absent' same
  exact ⟨String.toList_inj.mp equal, List.append_cancel_right left⟩

theorem kindType_injective {kind kind' : Kind} (same : kindType kind = kindType kind') :
    kind = kind' := by
  cases kind <;> cases kind' <;> simp_all [kindType]

theorem kindType_unopened (kind : Kind) : '(' ∉ (kindType kind).toList := by
  cases kind <;> decide

/-! ### Lines of objects -/

namespace Description

variable {description other : Description}

theorem laterFields_inj (clean : description.Clean) (clean' : other.Clean)
    (same : joinedFields description.laterFields = joinedFields other.laterFields) :
    description.technicalType = other.technicalType ∧
      description.uniqueName = other.uniqueName := by
  have key {type : List Char} (unblank : ' ' ∉ type) :
      ' ' ∉ "technicalType".toList ++ ':' :: type := by
    simpa using unblank
  rw [joinedFields_laterFields, joinedFields_laterFields] at same
  obtain ⟨types, names⟩ := eq_of_separated (key clean.technicalType.unblank)
    (key clean'.technicalType.unblank) same
  rw [joinedFields_singleton, joinedFields_singleton] at names
  have types := (List.cons.inj (List.append_cancel_left types)).2
  have names := (List.cons.inj (List.append_cancel_left names)).2
  exact ⟨String.toList_inj.mp types, String.toList_inj.mp names⟩

/-- The link ends before the name, or there is none. -/
theorem link_inj (clean : description.Clean) (clean' : other.Clean) {rest rest' : List Char}
    (same : (if description.link = "" then [] else
        linkMark ++ (description.link.toList ++ [',', ' '])) ++ (nameMark ++ rest) =
      (if other.link = "" then [] else
        linkMark ++ (other.link.toList ++ [',', ' '])) ++ (nameMark ++ rest')) :
    description.link = other.link ∧ rest = rest' := by
  -- A link and a name start with different characters.
  have differ (xs ys : List Char) : linkMark ++ xs ≠ nameMark ++ ys :=
    fun same => absurd (List.cons.inj same).1 (by decide)
  split at same
  · rename_i none
    split at same
    · rename_i none'
      exact ⟨none.trans none'.symm, List.append_cancel_left same⟩
    · rw [List.nil_append, List.append_assoc] at same
      exact absurd same.symm (differ _ _)
  · split at same
    · rw [List.nil_append, List.append_assoc] at same
      exact absurd same (differ _ _)
    · simp only [List.append_assoc, List.cons_append, List.nil_append] at same
      obtain ⟨links, later⟩ := eq_of_separated clean.link.unblank clean'.link.unblank
        (List.append_cancel_left same)
      exact ⟨String.toList_inj.mp links, List.append_cancel_left later⟩

/-- Different objects have different lines. -/
theorem line_injective (clean : description.Clean) (clean' : other.Clean)
    (same : description.line = other.line) : description = other := by
  have same := congrArg String.toList same
  rw [toList_line, toList_line] at same
  obtain ⟨kinds, afterKind⟩ := eq_of_append_cons (kindType_unopened _) (kindType_unopened _) same
  obtain ⟨links, afterLink⟩ := link_inj clean clean' afterKind
  obtain ⟨names, afterName⟩ := eq_of_separated clean.name.unblank clean'.name.unblank afterLink
  obtain ⟨types, uniqueNames⟩ := laterFields_inj clean clean' (List.append_cancel_right afterName)
  have kinds := kindType_injective (String.toList_inj.mp kinds)
  have names := String.toList_inj.mp names
  cases description
  cases other
  simp_all

/-- Brief lines tell unique names. -/
theorem brief_inj (clean : description.Clean) (clean' : other.Clean) (uncut : description.Uncut)
    (uncut' : other.Uncut) (same : description.brief = other.brief) :
    description.uniqueName = other.uniqueName := by
  rw [brief_eq clean uncut, brief_eq clean' uncut'] at same
  have fields := (lineOf_inj (kindType_unopened _) (kindType_unopened _) same).2
  -- A brief line with a technical type and one without start with different keys.
  have differ (one another : Description) :
      joinedFields [("uniqueName", one.uniqueName)] ≠ joinedFields another.laterFields := by
    rw [joinedFields_singleton, joinedFields_laterFields]
    exact fun same => absurd (congrArg List.head? same) (by simp)
  unfold briefFields at fields
  split at fields
  · split at fields
    · rw [joinedFields_singleton, joinedFields_singleton] at fields
      exact String.toList_inj.mp (List.cons.inj (List.append_cancel_left fields)).2
    · exact absurd fields (differ _ _)
  · split at fields
    · exact absurd fields.symm (differ _ _)
    · exact (laterFields_inj clean clean' fields).2

end Description

/-! ### Lines of relations -/

/-- The text ends with a parenthesis and has no other one that closes. -/
def Closed (text : String) : Prop :=
  ∃ inner, text.toList = inner ++ [')'] ∧ ')' ∉ inner

theorem Clean.unclosed {text : String} (clean : Clean text) : ')' ∉ text.toList :=
  fun inside => absurd (clean.undelimited _ inside) (by decide)

theorem Description.brief_closed {description : Description} (clean : description.Clean)
    (uncut : description.Uncut) : Closed description.brief := by
  refine ⟨(kindType description.kind).toList ++ '(' :: joinedFields description.briefFields, ?_, ?_⟩
  · rw [brief_eq clean uncut, toList_lineOf, List.append_assoc, List.cons_append]
  · have kind : ')' ∉ (kindType description.kind).toList := by
      cases description.kind <;> decide
    have type := clean.technicalType.unclosed
    have name := clean.uniqueName.unclosed
    have fields : ')' ∉ joinedFields description.briefFields := by
      unfold briefFields
      split
      · simpa [joinedFields_singleton] using name
      · simp [joinedFields_laterFields, joinedFields_singleton, type, name]
    simp [kind, fields]

section Fields

variable {key a b : String} {field field' : String × String} {rest rest' : List (String × String)}

theorem eq_of_closed (closed : Closed a) (closed' : Closed b)
    (same : joinedFields ((key, a) :: field :: rest) = joinedFields ((key, b) :: field' :: rest')) :
    a = b ∧ joinedFields (field :: rest) = joinedFields (field' :: rest') := by
  obtain ⟨inner, ends, unclosed⟩ := closed
  obtain ⟨inner', ends', unclosed'⟩ := closed'
  rw [joinedFields_cons_cons, joinedFields_cons_cons, ends, ends', List.append_assoc,
    List.append_assoc] at same
  obtain ⟨equal, later⟩ := eq_of_append_cons unclosed unclosed'
    (List.cons.inj (List.append_cancel_left same)).2
  refine ⟨String.toList_inj.mp ?_, (List.cons.inj (List.cons.inj later).2).2⟩
  rw [ends, ends', equal]

theorem eq_of_unblank (unblank : ' ' ∉ a.toList) (unblank' : ' ' ∉ b.toList)
    (same : joinedFields ((key, a) :: field :: rest) = joinedFields ((key, b) :: field' :: rest')) :
    a = b ∧ joinedFields (field :: rest) = joinedFields (field' :: rest') := by
  rw [joinedFields_cons_cons, joinedFields_cons_cons] at same
  obtain ⟨equal, later⟩ := eq_of_separated unblank unblank'
    (List.cons.inj (List.append_cancel_left same)).2
  exact ⟨String.toList_inj.mp equal, later⟩

theorem eq_of_last (same : joinedFields [(key, a)] = joinedFields [(key, b)]) : a = b := by
  rw [joinedFields_singleton, joinedFields_singleton] at same
  exact String.toList_inj.mp (List.cons.inj (List.append_cancel_left same)).2

end Fields

namespace Relation

theorem flagText_unblank (isSet : Bool) : ' ' ∉ (flagText isSet).toList := by
  cases isSet <;> decide

theorem flagText_injective {isSet isSet' : Bool} (same : flagText isSet = flagText isSet') :
    isSet = isSet' := by
  cases isSet <;> cases isSet' <;> simp_all [flagText]

theorem type_unopened {α : Type} (relation : Relation α) : '(' ∉ relation.type.toList := by
  cases relation <;> simp [type]

/-- Different relations between lines of objects have different lines. -/
theorem line_injective {relation other : Relation String}
    (closed : ∀ line ∈ relation.ends, Closed line) (closed' : ∀ line ∈ other.ends, Closed line)
    (same : relation.line = other.line) : relation = other := by
  obtain ⟨types, fields⟩ := lineOf_inj relation.type_unopened other.type_unopened same
  cases relation with
  | parentChild parent child isMain =>
    cases other with
    | parentChild parent' child' isMain' =>
      obtain ⟨children, fields⟩ := eq_of_closed (closed child (by simp [ends]))
        (closed' child' (by simp [ends])) fields
      obtain ⟨flags, fields⟩ := eq_of_unblank (flagText_unblank _) (flagText_unblank _) fields
      rw [children, flagText_injective flags, eq_of_last fields]
    | call | access => simp [type] at types
  | call caller called =>
    cases other with
    | call caller' called' =>
      obtain ⟨calledLines, fields⟩ := eq_of_closed (closed called (by simp [ends]))
        (closed' called' (by simp [ends])) fields
      rw [calledLines, eq_of_last fields]
    | parentChild | access => simp [type] at types
  | access accessor accessed isWrite isRead isDependent =>
    cases other with
    | access accessor' accessed' isWrite' isRead' isDependent' =>
      obtain ⟨accessedLines, fields⟩ := eq_of_closed (closed accessed (by simp [ends]))
        (closed' accessed' (by simp [ends])) fields
      obtain ⟨accessorLines, fields⟩ := eq_of_closed (closed accessor (by simp [ends]))
        (closed' accessor' (by simp [ends])) fields
      obtain ⟨dependents, fields⟩ := eq_of_unblank (flagText_unblank _) (flagText_unblank _) fields
      obtain ⟨reads, fields⟩ := eq_of_unblank (flagText_unblank _) (flagText_unblank _) fields
      rw [accessedLines, accessorLines, flagText_injective dependents, flagText_injective reads,
        flagText_injective (eq_of_last fields)]
    | parentChild | call => simp [type] at types

end Relation

/-- The line of an object is not that of a relation. -/
theorem Description.line_ne_line (description : Description) (relation : Relation String) :
    description.line ≠ relation.line := by
  intro same
  have types := (lineOf_inj (kindType_unopened _) relation.type_unopened same).1
  generalize description.kind = kind at types
  cases kind <;> cases relation <;> simp [kindType, Relation.type] at types

/-! ### Same contents -/

/-- What the one maps are alike in, the others are, if this holds of the ends. -/
theorem Relation.map_eq_map {α β γ δ : Type} {relation : Relation α} {other : Relation β}
    {f : α → γ} {g : β → γ} {f' : α → δ} {g' : β → δ}
    (transfer : ∀ a ∈ relation.ends, ∀ b ∈ other.ends, f a = g b → f' a = g' b)
    (same : relation.map f = other.map g) : relation.map f' = other.map g' := by
  cases relation <;> cases other <;> simp_all [Relation.map, Relation.ends]

namespace Contents

/-- The unique name of the object with a number. -/
def nameOf (contents : Contents) (id : Nat) : String :=
  ((contents.object? id).map Description.uniqueName).getD ""

/-- The relations with unique names in place of numbers. -/
def namedRelations (contents : Contents) : List (Relation String) :=
  contents.relations.map (Relation.map contents.nameOf)

/-- The contents describe the same objects and the same relations between them. -/
structure Same (first second : Contents) : Prop where
  objects : ∀ description, description ∈ first.descriptions ↔ description ∈ second.descriptions
  relations : ∀ relation, relation ∈ first.namedRelations ↔ relation ∈ second.namedRelations

instance (first second : Contents) : Decidable (first.Same second) :=
  decidable_of_iff
    (((∀ description ∈ first.descriptions, description ∈ second.descriptions) ∧
      ∀ description ∈ second.descriptions, description ∈ first.descriptions) ∧
        (∀ relation ∈ first.namedRelations, relation ∈ second.namedRelations) ∧
          ∀ relation ∈ second.namedRelations, relation ∈ first.namedRelations)
    ⟨fun ⟨objects, relations⟩ => ⟨fun description => ⟨objects.1 description, objects.2 description⟩,
        fun relation => ⟨relations.1 relation, relations.2 relation⟩⟩,
      fun ⟨objects, relations⟩ => ⟨⟨fun description => (objects description).mp,
          fun description => (objects description).mpr⟩,
        fun relation => (relations relation).mp, fun relation => (relations relation).mpr⟩⟩

/-- No technical type has a mark of a cut in it. -/
def Uncut (contents : Contents) : Prop :=
  ∀ description ∈ contents.descriptions, description.Uncut

instance (contents : Contents) : Decidable contents.Uncut :=
  inferInstanceAs (Decidable (∀ description ∈ contents.descriptions, description.Uncut))

theorem Same.symm {first second : Contents} (same : first.Same second) : second.Same first :=
  ⟨fun description => (same.objects description).symm,
    fun relation => (same.relations relation).symm⟩

theorem mem_lines_iff {contents : Contents} {line : String} :
    line ∈ contents.lines ↔ (∃ description ∈ contents.descriptions, description.line = line) ∨
      ∃ relation ∈ contents.relations, (relation.map contents.briefOf).line = line := by
  rw [lines, List.mem_append, List.mem_map, List.mem_map]

namespace WellFormed

variable {first second : Contents}

theorem description_clean (wellFormed : first.WellFormed) {description : Description}
    (member : description ∈ first.descriptions) : description.Clean := by
  obtain ⟨object, given, rfl⟩ := List.mem_map.mp member
  exact wellFormed.clean object given

theorem eq_of_uniqueName (wellFormed : first.WellFormed) {description other : Description}
    (member : description ∈ first.descriptions) (member' : other ∈ first.descriptions)
    (same : description.uniqueName = other.uniqueName) : description = other := by
  have names : (first.descriptions.map Description.uniqueName).Nodup := by
    rw [descriptions, List.map_map]
    exact wellFormed.names
  exact List.inj_on_of_nodup_map names member member' same

/-- The ends of a relation are objects. -/
theorem exists_of_mem_ends (wellFormed : first.WellFormed) {relation : Relation Nat}
    (member : relation ∈ first.relations) {id : Nat} (isEnd : id ∈ relation.ends) :
    ∃ description ∈ first.descriptions, first.nameOf id = description.uniqueName ∧
      first.briefOf id = description.brief := by
  obtain ⟨object, given, rfl⟩ := List.mem_map.mp (wellFormed.refs relation member id isEnd)
  have found : first.object? object.1 = some object.2 :=
    (object?_eq_some_iff wellFormed.ids).mpr given
  refine ⟨object.2, List.mem_map_of_mem given, ?_, ?_⟩
  · rw [nameOf, found, Option.map_some, Option.getD_some]
  · rw [briefOf, found, Option.map_some, Option.getD_some]

/-- Contents that are the same have the same lines. -/
theorem mem_lines_of_same (wellFormed : first.WellFormed) (wellFormed' : second.WellFormed)
    (same : first.Same second) {line : String} (member : line ∈ first.lines) :
    line ∈ second.lines := by
  rw [mem_lines_iff] at member ⊢
  rcases member with ⟨description, given, rfl⟩ | ⟨relation, given, rfl⟩
  · exact .inl ⟨description, (same.objects description).mp given, rfl⟩
  · obtain ⟨other, given', named⟩ :=
      List.mem_map.mp ((same.relations _).mp (List.mem_map_of_mem given))
    refine .inr ⟨other, given', congrArg Relation.line (Relation.map_eq_map ?_ named)⟩
    intro id' isEnd' id isEnd names
    obtain ⟨description, here, name, brief⟩ := wellFormed.exists_of_mem_ends given isEnd
    obtain ⟨description', here', name', brief'⟩ := wellFormed'.exists_of_mem_ends given' isEnd'
    rw [name, name'] at names
    rw [brief, brief', wellFormed'.eq_of_uniqueName here' ((same.objects _).mp here) names]

theorem lines_of_same (wellFormed : first.WellFormed) (wellFormed' : second.WellFormed)
    (same : first.Same second) :
    (∀ line ∈ first.lines, line ∈ second.lines) ∧ ∀ line ∈ second.lines, line ∈ first.lines :=
  ⟨fun _ => wellFormed.mem_lines_of_same wellFormed' same,
    fun _ => wellFormed'.mem_lines_of_same wellFormed same.symm⟩

/-- Objects are known by their lines. -/
theorem mem_descriptions_of_lines (wellFormed : first.WellFormed) (wellFormed' : second.WellFormed)
    (lines : ∀ line ∈ first.lines, line ∈ second.lines) {description : Description}
    (member : description ∈ first.descriptions) : description ∈ second.descriptions := by
  have listed := lines _ (mem_lines_iff.mpr (.inl ⟨description, member, rfl⟩))
  rcases mem_lines_iff.mp listed with ⟨other, given, same⟩ | ⟨relation, -, same⟩
  · rw [← Description.line_injective (wellFormed'.description_clean given)
      (wellFormed.description_clean member) same]
    exact given
  · exact absurd same.symm (Description.line_ne_line _ _)

theorem brief_closed (wellFormed : first.WellFormed) (uncut : first.Uncut)
    {relation : Relation Nat} (member : relation ∈ first.relations) :
    ∀ line ∈ (relation.map first.briefOf).ends, Closed line := by
  have ends : (relation.map first.briefOf).ends = relation.ends.map first.briefOf := by
    cases relation <;> rfl
  rw [ends]
  intro line isLine
  obtain ⟨id, isEnd, rfl⟩ := List.mem_map.mp isLine
  obtain ⟨description, given, -, brief⟩ := wellFormed.exists_of_mem_ends member isEnd
  rw [brief]
  exact Description.brief_closed (wellFormed.description_clean given) (uncut description given)

/-- Relations are known by their lines, up to numbers, if the brief lines tell unique names. -/
theorem mem_namedRelations_of_lines (wellFormed : first.WellFormed)
    (wellFormed' : second.WellFormed) (uncut : first.Uncut) (uncut' : second.Uncut)
    (lines : ∀ line ∈ first.lines, line ∈ second.lines) {named : Relation String}
    (member : named ∈ first.namedRelations) : named ∈ second.namedRelations := by
  obtain ⟨relation, given, rfl⟩ := List.mem_map.mp member
  have listed := lines _ (mem_lines_iff.mpr (.inr ⟨relation, given, rfl⟩))
  rcases mem_lines_iff.mp listed with ⟨description, -, same⟩ | ⟨other, given', same⟩
  · exact absurd same (Description.line_ne_line _ _)
  · have briefs := Relation.line_injective (wellFormed'.brief_closed uncut' given')
      (wellFormed.brief_closed uncut given) same
    refine List.mem_map.mpr ⟨other, given', Relation.map_eq_map ?_ briefs⟩
    intro id' isEnd' id isEnd lines
    obtain ⟨description, here, name, brief⟩ := wellFormed.exists_of_mem_ends given isEnd
    obtain ⟨description', here', name', brief'⟩ := wellFormed'.exists_of_mem_ends given' isEnd'
    rw [brief, brief'] at lines
    rw [name, name']
    exact Description.brief_inj (wellFormed'.description_clean here')
      (wellFormed.description_clean here) (uncut' _ here') (uncut _ here) lines

theorem same_of_lines (wellFormed : first.WellFormed) (wellFormed' : second.WellFormed)
    (uncut : first.Uncut) (uncut' : second.Uncut)
    (forth : ∀ line ∈ first.lines, line ∈ second.lines)
    (back : ∀ line ∈ second.lines, line ∈ first.lines) : first.Same second where
  objects _ := ⟨wellFormed.mem_descriptions_of_lines wellFormed' forth,
    wellFormed'.mem_descriptions_of_lines wellFormed back⟩
  relations _ := ⟨wellFormed.mem_namedRelations_of_lines wellFormed' uncut uncut' forth,
    wellFormed'.mem_namedRelations_of_lines wellFormed uncut' uncut back⟩

end WellFormed

end Contents

/-! ### The comparison -/

theorem mem_ascending {texts : List String} {text : String} :
    text ∈ ascending texts ↔ text ∈ texts :=
  (List.mergeSort_perm _ _).mem_iff

theorem nodup_eraseDups (texts : List String) : texts.eraseDups.Nodup := by
  induction h : texts.length using Nat.strong_induction_on generalizing texts with
  | _ length ih =>
    cases texts with
    | nil => exact List.nodup_nil
    | cons text texts =>
      rw [List.eraseDups_cons, List.nodup_cons, List.mem_eraseDups]
      refine ⟨by simp, ih _ ?_ _ rfl⟩
      have shorter := List.length_filter_le (fun other => !other == text) texts
      rw [← h, List.length_cons]
      omega

section Lines

variable {these those : List String}

theorem mem_linesOnlyIn {line : String} :
    line ∈ linesOnlyIn these those ↔ line ∈ these ∧ line ∉ those := by
  simp [linesOnlyIn, mem_ascending]

theorem nodup_linesOnlyIn : (linesOnlyIn these those).Nodup :=
  (List.mergeSort_perm _ _).nodup_iff.mpr (nodup_eraseDups _)

/-- Nothing is left on either side if the lines are the same. -/
theorem identical_iff :
    Comparison.identical ⟨linesOnlyIn these those, linesOnlyIn those these⟩ = true ↔
      (∀ line ∈ these, line ∈ those) ∧ ∀ line ∈ those, line ∈ these := by
  simp [Comparison.identical, List.eq_nil_iff_forall_not_mem, mem_linesOnlyIn]

end Lines

theorem Contents.WellFormed.compare_render {first second : Contents}
    (wellFormed : first.WellFormed) (wellFormed' : second.WellFormed) :
    compare first.render.toUTF8.toList second.render.toUTF8.toList =
      .ok ⟨linesOnlyIn (ascending first.lines) (ascending second.lines),
        linesOnlyIn (ascending second.lines) (ascending first.lines)⟩ := by
  rw [compare, wellFormed.listingOfFile_render, wellFormed'.listingOfFile_render]
  rfl

/-! ### Files of projects -/

/-- The relation of a record that is no element. -/
def Record.relation? : Record → Option (Relation Nat)
  | .element .. => none
  | .parentChild parent child isMain => some (.parentChild parent child isMain)
  | .call caller called => some (.call caller called)
  | .access accessor accessed isWrite isRead isDependent =>
    some (.access accessor accessed isWrite isRead isDependent)

/-- The contents of a file with the given records. -/
def Contents.ofRecords (records : List Record) : Contents where
  objects := (numberedElements records).map fun element => (element.1, .ofElement element.2)
  relations := records.filterMap Record.relation?

/-- Records are the contents of their file if the elements come first. -/
theorem Contents.render_ofRecords {elements relations : List Record}
    (noRelation : ∀ record ∈ elements, record.relation? = none)
    (noElement : ∀ record ∈ relations, record.numbered? = none) :
    (ofRecords (elements ++ relations)).render = renderFile (elements ++ relations) := by
  have objects : (ofRecords (elements ++ relations)).objects.map objectEntry =
      elements.map Record.entry := by
    simp only [ofRecords, numberedElements, List.filterMap_append,
      List.filterMap_eq_nil_iff.mpr noElement, List.append_nil, List.map_filterMap]
    refine List.filterMap_eq_map_iff_forall_eq_some.mpr fun record member => ?_
    cases record with
    | element => rfl
    | parentChild | call | access => cases noRelation _ member
  have others : (ofRecords (elements ++ relations)).relations.map (fun relation =>
      relation.record.entry) = relations.map Record.entry := by
    simp only [ofRecords, List.filterMap_append, List.filterMap_eq_nil_iff.mpr noRelation,
      List.nil_append, List.map_filterMap]
    refine List.filterMap_eq_map_iff_forall_eq_some.mpr fun record member => ?_
    cases record with
    | element => cases noElement _ member
    | parentChild | call | access => rfl
  rw [render, entries, objects, others, renderFile, List.map_append]

theorem Record.ends_subset_refs {record : Record} {relation : Relation Nat}
    (isRelation : record.relation? = some relation) : relation.ends ⊆ record.refs := by
  cases record with
  | element => cases isRelation
  | parentChild | call | access =>
    cases isRelation
    exact fun _ member => member

/-- The contents of intact records with clean texts are well formed. -/
theorem Intact.wellFormed {records : List Record} (intact : Intact records)
    (clean : ∀ element ∈ numberedElements records, (Description.ofElement element.2).Clean) :
    (Contents.ofRecords records).WellFormed where
  ids := by
    simp only [Contents.ofRecords, List.map_map, Function.comp_def]
    exact intact.ids.nodup_iff.mpr List.nodup_range'
  names := by
    simp only [Contents.ofRecords, List.map_map, Function.comp_def]
    exact intact.names
  refs relation member id isEnd := by
    obtain ⟨record, given, isRelation⟩ := List.mem_filterMap.mp member
    have bounds := intact.refs record given id (Record.ends_subset_refs isRelation isEnd)
    simp only [Contents.ofRecords, List.map_map, Function.comp_def]
    exact intact.ids.mem_iff.mpr (List.mem_range'_1.mpr ⟨bounds.1, by omega⟩)
  clean object member := by
    obtain ⟨element, given, rfl⟩ := List.mem_map.mp member
    exact clean element given

end CodeMap.Mse

namespace CodeMap.Model

/-- What the file of a model holds. -/
def contents (model : Model) : Mse.Contents :=
  .ofRecords model.records

theorem render_contents (model : Model) : model.contents.render = model.render := by
  have records : model.records = model.elementRecords model.numbering ++
      (model.containmentRecords model.numbering ++ model.callRecords model.numbering ++
        model.accessRecords model.numbering) := by
    simp only [Model.records, List.append_assoc]
  rw [contents, render, records]
  refine Mse.Contents.render_ofRecords ?_ ?_
  · intro record member
    rw [elementRecords_eq] at member
    obtain ⟨entry, -, rfl⟩ := List.mem_map.mp member
    rfl
  · intro record member
    simp only [containmentRecords, callRecords, accessRecords, List.mem_append, List.mem_filterMap,
      Option.bind_eq_bind, Option.bind_eq_some_iff, Option.pure_def, Option.some.injEq] at member
    rcases member with (⟨_, _, _, _, _, _, rfl⟩ | ⟨_, _, _, _, _, _, _, _, rfl⟩) |
      ⟨_, _, _, _, _, _, rfl⟩
    all_goals rfl

/-- No technical type of a project has a mark of a cut in it. -/
theorem contents_uncut (model : Model) : model.contents.Uncut := by
  intro description member
  simp only [Mse.Contents.descriptions, contents, Mse.Contents.ofRecords, List.map_map,
    List.mem_map, Function.comp_def] at member
  obtain ⟨element, -, rfl⟩ := member
  have uncut (role : Role) : ¬ Mse.linkMark <:+: role.technicalType.toList ∧
      ¬ Mse.nameMark <:+: role.technicalType.toList := by
    cases role <;> rw [Role.technicalType] <;> decide +kernel
  exact uncut element.2.role

/-- The files of two projects compare as identical exactly if they hold the same. -/
theorem compare_render {model other : Model} (intact : Mse.Intact model.records)
    (intact' : Mse.Intact other.records)
    (clean : ∀ element ∈ Mse.numberedElements model.records,
      (Mse.Description.ofElement element.2).Clean)
    (clean' : ∀ element ∈ Mse.numberedElements other.records,
      (Mse.Description.ofElement element.2).Clean) :
    ∃ comparison,
      Mse.compare model.render.toUTF8.toList other.render.toUTF8.toList = .ok comparison ∧
        (comparison.identical = true ↔ model.contents.Same other.contents) := by
  have wellFormed : model.contents.WellFormed := intact.wellFormed clean
  have wellFormed' : other.contents.WellFormed := intact'.wellFormed clean'
  rw [← render_contents, ← render_contents]
  refine ⟨_, wellFormed.compare_render wellFormed', ?_⟩
  simp only [Mse.identical_iff, Mse.mem_ascending]
  constructor
  · rintro ⟨forth, back⟩
    exact wellFormed.same_of_lines wellFormed' model.contents_uncut other.contents_uncut forth back
  · exact wellFormed.lines_of_same wellFormed'

end CodeMap.Model

namespace CodeMap.Mse

/-! ### The answer of the comparison -/

/-- The comparison of the files of well-formed contents meets no fault. It gives the lines of each
file that are not in the other one. Contents that are the same are reported as identical, whatever
their numbers and their order, and the converse holds if the technical types have no marks in
them. The files of projects have none, so they are reported as identical exactly if they hold the
same. -/
theorem compare_decides_same :
    (∀ first second : Contents, first.WellFormed → second.WellFormed → ∃ comparison,
      compare first.render.toUTF8.toList second.render.toUTF8.toList = .ok comparison ∧
        (∀ line, line ∈ comparison.onlyFirst ↔ line ∈ first.lines ∧ line ∉ second.lines) ∧
        (∀ line, line ∈ comparison.onlySecond ↔ line ∈ second.lines ∧ line ∉ first.lines) ∧
        comparison.onlyFirst.Nodup ∧ comparison.onlySecond.Nodup ∧
        (first.Same second → comparison.identical = true) ∧
        (first.Uncut → second.Uncut → comparison.identical = true → first.Same second)) ∧
    ∀ first second : Project,
      (∀ element ∈ numberedElements first.model.records,
        (Description.ofElement element.2).Clean) →
      (∀ element ∈ numberedElements second.model.records,
        (Description.ofElement element.2).Clean) → ∃ comparison,
      compare first.model.render.toUTF8.toList second.model.render.toUTF8.toList =
          .ok comparison ∧
        (comparison.identical = true ↔ first.model.contents.Same second.model.contents) := by
  have only (these those : List String) (line : String) :
      line ∈ linesOnlyIn (ascending these) (ascending those) ↔ line ∈ these ∧ line ∉ those := by
    rw [mem_linesOnlyIn, mem_ascending, mem_ascending]
  refine ⟨fun first second wellFormed wellFormed' => ?_, fun first second clean clean' => ?_⟩
  · refine ⟨_, wellFormed.compare_render wellFormed', only _ _, only _ _, nodup_linesOnlyIn,
      nodup_linesOnlyIn, ?_, ?_⟩
    · intro same
      simp only [identical_iff, mem_ascending]
      exact wellFormed.lines_of_same wellFormed' same
    · intro uncut uncut' reported
      simp only [identical_iff, mem_ascending] at reported
      exact wellFormed.same_of_lines wellFormed' uncut uncut' reported.1 reported.2
  · have intact (project : Project) : Intact project.model.records :=
      (Model.ofFiles_resolved project.typeOrder project.readFiles).intact
    exact Model.compare_render (intact first) (intact second) clean clean'

/-- A class and its method that calls itself, under the given numbers. -/
def classContents (classId methodId : Nat) : Contents where
  objects := [(classId, ⟨.grouping, "C", "p.f.C", "PythonClass", "vscode://file/f.py/:1:0"⟩),
    (methodId, ⟨.code, "m", "p.f.C.m", "PythonMethod", ""⟩)]
  relations := [.parentChild classId methodId true, .call methodId methodId]

/-- The same contents with other numbers, in another order and with a repetition. -/
def reorderedContents : Contents where
  objects := (classContents 7 3).objects.reverse
  relations := .call 3 3 :: (classContents 7 3).relations

/-- A project with the given files, which have a function each that calls itself. -/
def callingProject (names : List String) : Project where
  name := "p"
  folder := "/"
  files := names.map fun name =>
    { path := "p/" ++ name
      inner := [name]
      bytes := "def f():\n f()\n".toUTF8.toList }

theorem classContents_compared :
    ((classContents 1 2).WellFormed ∧ reorderedContents.WellFormed ∧ (classContents 1 2).Uncut ∧
      reorderedContents.Uncut ∧ (classContents 1 2).Same reorderedContents ∧ ∃ comparison,
        compare (classContents 1 2).render.toUTF8.toList reorderedContents.render.toUTF8.toList =
          .ok comparison ∧ comparison.identical = true) ∧
      let first := (callingProject ["a.py"]).model
      let second := (callingProject []).model
      ¬ first.contents.Same second.contents ∧ ∃ comparison,
        compare first.render.toUTF8.toList second.render.toUTF8.toList = .ok comparison ∧
          comparison.identical = false := by
  have wellFormed : (classContents 1 2).WellFormed := by decide +kernel
  have wellFormed' : reorderedContents.WellFormed := by decide +kernel
  have uncut : (classContents 1 2).Uncut := by decide +kernel
  have uncut' : reorderedContents.Uncut := by decide +kernel
  have same : (classContents 1 2).Same reorderedContents := by decide +kernel
  obtain ⟨comparison, compared, -, -, -, -, reported, -⟩ :=
    compare_decides_same.1 (classContents 1 2) reorderedContents wellFormed wellFormed'
  refine ⟨⟨wellFormed, wellFormed', uncut, uncut', same, comparison, compared, reported same⟩, ?_⟩
  intro first second
  have differ : ¬ first.contents.Same second.contents := by decide +kernel
  obtain ⟨comparison, compared, reported⟩ :=
    compare_decides_same.2 (callingProject ["a.py"]) (callingProject []) (by decide +kernel)
      (by decide +kernel)
  refine ⟨differ, comparison, compared, ?_⟩
  exact Bool.eq_false_iff.mpr fun identical => differ (reported.mp identical)

/-- Two functions whose brief lines are equal, as a mark in each type makes the cut go too far, and
a call of one of them. -/
def markedContents (called : Nat) : Contents where
  objects := [(1, ⟨.code, "f", "xuniqueName:y", "name:", ""⟩),
    (2, ⟨.code, "g", "y", "uniqueName:xname:", ""⟩)]
  relations := [.call called called]

/-- With marks in the types, contents that are not the same can be reported as identical. -/
theorem markedContents_identical :
    (markedContents 1).WellFormed ∧ (markedContents 2).WellFormed ∧
      ¬ (markedContents 1).Same (markedContents 2) ∧ ∃ comparison,
        compare (markedContents 1).render.toUTF8.toList (markedContents 2).render.toUTF8.toList =
          .ok comparison ∧ comparison.identical = true := by
  have wellFormed : (markedContents 1).WellFormed := by decide +kernel
  have wellFormed' : (markedContents 2).WellFormed := by decide +kernel
  have lines : (markedContents 1).lines = (markedContents 2).lines := by decide +kernel
  have differ : ¬ (markedContents 1).Same (markedContents 2) := by decide +kernel
  refine ⟨wellFormed, wellFormed', differ, _, wellFormed.compare_render wellFormed', ?_⟩
  rw [lines, identical_iff]
  exact ⟨fun _ member => member, fun _ member => member⟩

end CodeMap.Mse
