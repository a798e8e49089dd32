/-
Brief lines: what is left of the line of an object when link and name are cut out of it.

The cuts are made in the text, from a mark to the next comma and space. A cut that starts in the
name takes the technical type along, as the comma after the name is gone then; a mark in the
technical type would let a cut reach into the unique name. Main statement: if the technical type
has no mark in it, the brief line shows the unique name, and the technical type unless the name has
the mark of a link in it (`Description.brief_eq`).
-/

import CodeMap.Proofs.Listing

namespace CodeMap.Mse

/-! ### Cutting -/

section Cut

variable {mark cs rest : List Char}

theorem afterSeparator_append (unblank : ' ' ∉ cs) (rest : List Char) :
    afterSeparator (cs ++ ',' :: ' ' :: rest) = some rest := by
  induction cs with
  | nil => rw [List.nil_append, afterSeparator]
  | cons c cs ih =>
    rw [List.cons_append, afterSeparator]
    · exact ih fun later => unblank (List.mem_cons_of_mem _ later)
    · rintro tail rfl next
      cases cs with
      | nil => exact absurd (List.cons.inj next).1 (by decide)
      | cons d cs =>
        refine unblank (List.mem_cons_of_mem _ ?_)
        rw [← (List.cons.inj next).1]
        exact List.mem_cons_self

theorem afterSeparator_of_not_mem (unblank : ' ' ∉ cs) : afterSeparator cs = none := by
  fun_induction afterSeparator cs with
  | case1 => rfl
  | case2 rest => exact absurd (by simp) unblank
  | case3 c rest _ ih => exact ih fun later => unblank (List.mem_cons_of_mem _ later)

/-- Nothing is cut where no blank is. -/
theorem cutParts_of_not_mem (unblank : ' ' ∉ cs) : cutParts mark cs = cs := by
  induction cs with
  | nil => rw [cutParts]
  | cons c cs ih =>
    have later : ' ' ∉ cs := fun later => unblank (List.mem_cons_of_mem _ later)
    have none : afterSeparator ((c :: cs).drop mark.length) = none :=
      afterSeparator_of_not_mem fun inside => unblank (List.mem_of_mem_drop inside)
    rw [cutParts, ih later]
    split
    · split
      · rename_i found
        rw [none] at found
        cases found
      · rfl
    · rfl

theorem cutParts_cons {c : Char} (unmarked : ¬ mark <+: c :: cs) :
    cutParts mark (c :: cs) = c :: cutParts mark cs := by
  rw [cutParts, if_neg]
  rwa [List.isPrefixOf_iff_prefix]

/-- From a mark up to the next comma and space all is cut. -/
theorem cutParts_mark (nonempty : mark ≠ []) (unblank : ' ' ∉ cs) (rest : List Char) :
    cutParts mark (mark ++ (cs ++ ',' :: ' ' :: rest)) = cutParts mark rest := by
  obtain ⟨c, tail, whole⟩ := List.exists_cons_of_ne_nil
    (List.append_ne_nil_of_left_ne_nil nonempty (cs ++ ',' :: ' ' :: rest))
  have marked : mark.isPrefixOf (c :: tail) = true := by
    rw [← whole, List.isPrefixOf_iff_prefix]
    exact List.prefix_append _ _
  have cut : afterSeparator ((c :: tail).drop mark.length) = some rest := by
    rw [← whole, List.drop_left, afterSeparator_append unblank]
  rw [whole, cutParts, if_pos marked]
  split
  · rename_i left found
    rw [cut] at found
    cases found
    rfl
  · rename_i nothing
    rw [cut] at nothing
    cases nothing

/-- A mark does not reach over a character that it does not have. -/
theorem prefix_of_prefix_append {d : Char} (delimits : d ∉ mark)
    (marked : mark <+: cs ++ d :: rest) : mark <+: cs := by
  have upTo : cs ++ [d] <+: cs ++ d :: rest := ⟨rest, by simp⟩
  rcases List.prefix_or_prefix_of_prefix marked upTo with short | long
  · rcases List.prefix_concat_iff.mp short with rfl | inside
    · exact absurd (by simp) delimits
    · exact inside
  · exact absurd (long.subset (by simp)) delimits

/-- Nothing is cut from a part without a mark, up to a character that is in no mark. -/
theorem cutParts_unmarked {d : Char} (nonempty : mark ≠ []) (delimits : d ∉ mark)
    (unmarked : ¬ mark <:+: cs) (rest : List Char) :
    cutParts mark (cs ++ d :: rest) = cs ++ d :: cutParts mark rest := by
  induction cs with
  | nil =>
    refine cutParts_cons fun marked => nonempty (List.prefix_nil.mp ?_)
    exact prefix_of_prefix_append delimits marked
  | cons c cs ih =>
    rw [List.cons_append, cutParts_cons, ih fun inside => unmarked (List.infix_cons inside)]
    · rfl
    · exact fun marked =>
        unmarked (prefix_of_prefix_append delimits marked).isInfix

theorem cutParts_separated (nonempty : mark ≠ []) (comma : ',' ∉ mark) (space : ' ' ∉ mark)
    (unmarked : ¬ mark <:+: cs) (rest : List Char) :
    cutParts mark (cs ++ ',' :: ' ' :: rest) = cs ++ ',' :: ' ' :: cutParts mark rest := by
  have between : ¬ mark <:+: [] := fun inside => nonempty (List.infix_nil.mp inside)
  rw [cutParts_unmarked nonempty comma unmarked]
  exact congrArg (fun rest => cs ++ ',' :: rest) (cutParts_unmarked nonempty space between rest)

/-- Nothing is cut from a part that does not have the first character of the mark. -/
theorem cutParts_skip {m : Char} {ms : List Char} (absent : m ∉ cs) (rest : List Char) :
    cutParts (m :: ms) (cs ++ rest) = cs ++ cutParts (m :: ms) rest := by
  induction cs with
  | nil => rfl
  | cons c cs ih =>
    rw [List.cons_append, cutParts_cons, ih fun later => absent (List.mem_cons_of_mem _ later)]
    · rfl
    · intro marked
      refine absent ?_
      rw [(List.cons_prefix_cons.mp marked).1]
      exact List.mem_cons_self

/-- A part with a mark in it loses all from there, with the comma and the space after it. -/
theorem exists_cutParts (nonempty : mark ≠ []) (delimits : ',' ∉ mark) (unblank : ' ' ∉ cs)
    (marked : mark <:+: cs) (rest : List Char) :
    ∃ left, left <+: cs ∧
      cutParts mark (cs ++ ',' :: ' ' :: rest) = left ++ cutParts mark rest := by
  induction cs with
  | nil => exact absurd (List.infix_nil.mp marked) nonempty
  | cons c cs ih =>
    by_cases here : mark <+: c :: cs
    · obtain ⟨after, whole⟩ := here
      refine ⟨[], List.nil_prefix, ?_⟩
      rw [← whole, List.append_assoc]
      refine cutParts_mark nonempty (fun inside => unblank ?_) rest
      rw [← whole]
      exact List.mem_append_right _ inside
    · have later := (List.infix_cons_iff.mp marked).resolve_left here
      obtain ⟨left, isPrefix, cut⟩ :=
        ih (fun inside => unblank (List.mem_cons_of_mem _ inside)) later
      refine ⟨c :: left, List.cons_prefix_cons.mpr ⟨rfl, isPrefix⟩, ?_⟩
      rw [List.cons_append, cutParts_cons, cut]
      · rfl
      · exact fun marked => here (prefix_of_prefix_append delimits marked)

end Cut

theorem Clean.unblank {text : String} (clean : Clean text) : ' ' ∉ text.toList :=
  fun blank => absurd (clean.undelimited _ blank) (by decide)

/-! ### Lines of objects -/

/-- What the link of an object starts with in its line. -/
def linkMark : List Char := "linkToEditor:".toList

/-- What the name of an object starts with in its line. -/
def nameMark : List Char := "name:".toList

namespace Description

/-- No cut starts in the technical type. -/
def Uncut (description : Description) : Prop :=
  ¬ linkMark <:+: description.technicalType.toList ∧
    ¬ nameMark <:+: description.technicalType.toList

instance (description : Description) : Decidable description.Uncut :=
  inferInstanceAs (Decidable (_ ∧ _))

/-- The fields after the name. -/
def laterFields (description : Description) : List (String × String) :=
  [("technicalType", description.technicalType), ("uniqueName", description.uniqueName)]

/-- The fields that a brief line shows. -/
def briefFields (description : Description) : List (String × String) :=
  if linkMark <:+: description.name.toList then [("uniqueName", description.uniqueName)]
  else description.laterFields

end Description

/-- The characters of fields one after the other. -/
def joinedFields (fields : List (String × String)) : List Char :=
  [',', ' '].intercalate (fields.map fun field => field.1.toList ++ ':' :: field.2.toList)

theorem joinedFields_singleton (field : String × String) :
    joinedFields [field] = field.1.toList ++ ':' :: field.2.toList := by
  simp [joinedFields]

theorem joinedFields_cons_cons (field next : String × String) (rest : List (String × String)) :
    joinedFields (field :: next :: rest) =
      field.1.toList ++ ':' :: (field.2.toList ++ ',' :: ' ' :: joinedFields (next :: rest)) := by
  simp [joinedFields]

theorem toList_lineOf (kind : String) (fields : List (String × String)) :
    (lineOf kind fields).toList = kind.toList ++ '(' :: (joinedFields fields ++ [')']) := by
  simp [lineOf, joinedFields, Function.comp_def]

namespace Description

variable {description : Description}

/-- What follows the kind in a line: the link if there is one, the name and the other fields. -/
theorem toList_line (description : Description) :
    description.line.toList = (kindType description.kind).toList ++ '(' ::
      ((if description.link = "" then [] else
        linkMark ++ (description.link.toList ++ [',', ' '])) ++
          (nameMark ++ (description.name.toList ++ ',' :: ' ' ::
            (joinedFields description.laterFields ++ [')'])))) := by
  have link : linkMark = "linkToEditor".toList ++ [':'] := rfl
  have name : nameMark = "name".toList ++ [':'] := rfl
  rw [line, toList_lineOf, fields, laterFields, link, name]
  split
  · rw [List.nil_append, joinedFields_cons_cons]
    simp only [List.append_assoc, List.cons_append, List.nil_append]
  · rw [List.singleton_append, joinedFields_cons_cons, joinedFields_cons_cons]
    simp only [List.append_assoc, List.cons_append, List.nil_append]

theorem joinedFields_laterFields (description : Description) :
    joinedFields description.laterFields =
      ("technicalType".toList ++ ':' :: description.technicalType.toList) ++ ',' :: ' ' ::
        joinedFields [("uniqueName", description.uniqueName)] := by
  rw [laterFields, joinedFields_cons_cons, List.append_assoc, List.cons_append]

/-! ### The cuts in a line -/

/-- A mark in the field of a technical type is in the technical type. -/
theorem infix_typeField_iff {mark : List Char} (isMark : mark = linkMark ∨ mark = nameMark)
    (type : List Char) : mark <:+: "technicalType".toList ++ ':' :: type ↔ mark <:+: type := by
  have key : "technicalType".toList =
      ['t', 'e', 'c', 'h', 'n', 'i', 'c', 'a', 'l', 'T', 'y', 'p', 'e'] := rfl
  have link : linkMark = ['l', 'i', 'n', 'k', 'T', 'o', 'E', 'd', 'i', 't', 'o', 'r', ':'] := rfl
  have name : nameMark = ['n', 'a', 'm', 'e', ':'] := rfl
  rcases isMark with rfl | rfl
  · simp only [key, link, List.cons_append, List.nil_append, List.infix_cons_iff,
      List.cons_prefix_cons, Char.reduceEq, false_and, and_false, false_or]
  · simp only [key, name, List.cons_append, List.nil_append, List.infix_cons_iff,
      List.cons_prefix_cons, Char.reduceEq, false_and, and_false, false_or]

theorem infix_kindType {mark : List Char} (isMark : mark = linkMark ∨ mark = nameMark)
    (kind : Kind) : ¬ mark <:+: (kindType kind).toList := by
  rcases isMark with rfl | rfl <;> cases kind <;> decide +kernel

/-- The last field is not cut. -/
theorem cutParts_uniqueField (mark : List Char) (clean : description.Clean) :
    cutParts mark (joinedFields [("uniqueName", description.uniqueName)] ++ [')']) =
      joinedFields [("uniqueName", description.uniqueName)] ++ [')'] := by
  refine cutParts_of_not_mem ?_
  simpa [joinedFields_singleton] using clean.uniqueName.unblank

/-- The fields after the name are not cut if no mark is in the technical type. -/
theorem cutParts_laterFields {mark : List Char} (isMark : mark = linkMark ∨ mark = nameMark)
    (clean : description.Clean) (unmarked : ¬ mark <:+: description.technicalType.toList) :
    cutParts mark (joinedFields description.laterFields ++ [')']) =
      joinedFields description.laterFields ++ [')'] := by
  have nonempty : mark ≠ [] := by rcases isMark with rfl | rfl <;> decide
  have comma : ',' ∉ mark := by rcases isMark with rfl | rfl <;> decide
  have space : ' ' ∉ mark := by rcases isMark with rfl | rfl <;> decide
  have noMark : ¬ mark <:+: "technicalType".toList ++ ':' :: description.technicalType.toList :=
    fun inside => unmarked ((infix_typeField_iff isMark _).mp inside)
  rw [joinedFields_laterFields, List.append_assoc, List.cons_append, List.cons_append,
    cutParts_separated nonempty comma space noMark, cutParts_uniqueField mark clean]

/-- Cutting out the link leaves the name and the other fields. -/
theorem cutParts_linkMark_line (clean : description.Clean) :
    cutParts linkMark description.line.toList =
      (kindType description.kind).toList ++ '(' :: (nameMark ++ cutParts linkMark
        (description.name.toList ++ ',' :: ' ' ::
          (joinedFields description.laterFields ++ [')']))) := by
  have nameKept (rest : List Char) :
      cutParts linkMark (nameMark ++ rest) = nameMark ++ cutParts linkMark rest := by
    have mark : linkMark = 'l' :: "inkToEditor:".toList := rfl
    rw [mark]
    exact cutParts_skip (by decide) rest
  rw [toList_line, cutParts_unmarked (by decide) (by decide) (infix_kindType (.inl rfl) _)]
  split
  · rw [List.nil_append, nameKept]
  · rw [List.append_assoc, List.append_assoc, List.cons_append, List.cons_append, List.nil_append,
      cutParts_mark (by decide) clean.link.unblank, nameKept]

/-- If the name has the mark of a link in it, the technical type becomes part of the name. -/
theorem exists_cutParts_linkMark_line (clean : description.Clean)
    (unmarked : ¬ linkMark <:+: description.technicalType.toList) :
    ∃ name, ' ' ∉ name ∧ cutParts linkMark description.line.toList =
      (kindType description.kind).toList ++ '(' ::
        (nameMark ++ (name ++ ',' :: ' ' :: (joinedFields description.briefFields ++ [')']))) := by
  have laterKept := cutParts_laterFields (.inl rfl) clean unmarked
  rw [cutParts_linkMark_line clean, briefFields]
  split
  · rename_i marked
    obtain ⟨left, isPrefix, cut⟩ := exists_cutParts (by decide) (by decide) clean.name.unblank
      marked (joinedFields description.laterFields ++ [')'])
    refine ⟨left ++ ("technicalType".toList ++ ':' :: description.technicalType.toList), ?_, ?_⟩
    · intro blank
      rcases List.mem_append.mp blank with inName | inType
      · exact clean.name.unblank (isPrefix.subset inName)
      · rcases List.mem_append.mp inType with inKey | inValue
        · exact absurd inKey (by decide)
        · exact clean.technicalType.unblank ((List.mem_cons.mp inValue).resolve_left (by decide))
    · rw [cut, laterKept, joinedFields_laterFields]
      simp only [List.append_assoc, List.cons_append]
  · rename_i notMarked
    refine ⟨description.name.toList, clean.name.unblank, ?_⟩
    rw [cutParts_separated (by decide) (by decide) (by decide) notMarked, laterKept]

/-- The brief line of an object whose technical type has no mark in it. -/
theorem brief_eq (clean : description.Clean) (uncut : description.Uncut) :
    description.brief = lineOf (kindType description.kind) description.briefFields := by
  obtain ⟨name, unblank, cut⟩ := exists_cutParts_linkMark_line clean uncut.1
  have rest : cutParts nameMark (joinedFields description.briefFields ++ [')']) =
      joinedFields description.briefFields ++ [')'] := by
    unfold briefFields
    split
    · exact cutParts_uniqueField nameMark clean
    · exact cutParts_laterFields (.inr rfl) clean uncut.2
  have left : cutParts nameMark (cutParts linkMark description.line.toList) =
      (lineOf (kindType description.kind) description.briefFields).toList := by
    rw [cut, cutParts_unmarked (by decide) (by decide) (infix_kindType (.inr rfl) _),
      cutParts_mark (by decide) unblank, rest, toList_lineOf]
  exact (congrArg String.ofList left).trans String.ofList_toList

end Description

end CodeMap.Mse
