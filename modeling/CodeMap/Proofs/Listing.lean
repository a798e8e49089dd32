/-
The listing of a model file with given contents.

Each object gives one line and each relation one line, in which its ends are shown by the brief
lines of their objects (`Contents.lines`). Main statement: reading the file of well-formed contents
gives these lines, and meets no fault (`WellFormed.listingOfFile_render`).
-/

import CodeMap.Mse.Listing
import CodeMap.Proofs.Contents
import CodeMap.Proofs.Lines
import CodeMap.Proofs.Tables
import CodeMap.Proofs.Utf8
import Mathlib.Data.List.TakeWhile

namespace CodeMap

/-! ### Quotes -/

/-- One character to drop at each end. -/
theorem Text.trimBy_surrounded {drop : Char → Bool} {cs : List Char} {c : Char}
    (dropped : drop c = true) (start : ∀ c ∈ cs.head?, drop c = false)
    (finish : ∀ c ∈ cs.getLast?, drop c = false) : trimBy drop (c :: (cs ++ [c])) = cs := by
  have one : ∀ d ∈ [c], drop d = true := List.forall_mem_singleton.mpr dropped
  exact (trimBy_between one one).trans (trimBy_of_ends start finish)

namespace Mse

theorem toString_value (n : Nat) : (Sexpr.atom (toString n)).value = .ok (toString n) := by
  have digits (c : Char) (member : c ∈ (toString n).toList) : decide (c = '\'') = false := by
    refine decide_eq_false ?_
    rintro rfl
    exact absurd (isDigit_of_mem_toString member) (by decide)
  have trimmed : Text.trimBy (fun c => decide (c = '\'')) (toString n).toList =
      (toString n).toList :=
    Text.trimBy_of_ends (fun c first => digits c (List.mem_of_mem_head? first))
      fun c last => digits c (List.mem_of_getLast? last)
  change Except.ok (String.ofList (Text.trimBy _ _)) = _
  rw [trimmed, String.ofList_toList]

theorem Clean.value {text : String} (clean : Clean text) :
    (Value.text text).sexpr.value = .ok text := by
  have trimmed : Text.trimBy (fun c => decide (c = '\'')) ("'" ++ text ++ "'").toList =
      text.toList := by
    rw [toList_quoted]
    refine Text.trimBy_surrounded (by decide) (fun c first => ?_) fun c last => ?_
    · refine decide_eq_false ?_
      rintro rfl
      exact clean.start first
    · refine decide_eq_false ?_
      rintro rfl
      exact clean.finish last
  change Except.ok (String.ofList (Text.trimBy _ _)) = _
  rw [trimmed, String.ofList_toList]

/-! ### Lines -/

/-- A line with the given fields, in the order in which they are given. -/
def lineOf (kind : String) (fields : List (String × String)) : String :=
  kind ++ "(" ++ ", ".intercalate (fields.map fun field => field.1 ++ ":" ++ field.2) ++ ")"

theorem flatLine_eq {kind : String} {fields : Table String} {sorted : List (String × String)}
    (perm : sorted.Perm fields.entries) (ascending : sorted.Pairwise (·.1 < ·.1)) :
    flatLine kind fields = lineOf kind sorted := by
  have same : sortedFields fields = sorted := by
    refine List.Perm.eq_of_pairwise ?_ (List.pairwise_mergeSort ?_ ?_ _)
      (ascending.imp fun smaller => ?_) ((List.mergeSort_perm _ _).trans perm.symm)
    · -- Fields with one name are one field, as no name occurs twice.
      intro a b here there below above
      have sameName : a.1 = b.1 :=
        String.le_antisymm (of_decide_eq_true below) (of_decide_eq_true above)
      have first : fields.get? a.1 = some a.2 :=
        Table.get?_eq_some_iff.mpr ((List.mergeSort_perm _ _).mem_iff.mp here)
      have second : fields.get? b.1 = some b.2 := Table.get?_eq_some_iff.mpr (perm.mem_iff.mp there)
      rw [sameName] at first
      exact Prod.ext sameName (Option.some.inj (first.symm.trans second))
    · intro a b c below above
      exact decide_eq_true (String.le_trans (of_decide_eq_true below) (of_decide_eq_true above))
    · intro a b
      simpa using String.le_total a.1 b.1
    · exact decide_eq_true (Std.le_of_lt smaller)
  rw [flatLine, same, lineOf]

theorem flatLine_insertAll {kind : String} {fields sorted : List (String × String)}
    (perm : sorted.Perm fields) (ascending : sorted.Pairwise (·.1 < ·.1)) :
    flatLine kind ((∅ : Table String).insertAll fields) = lineOf kind sorted := by
  have distinct : (fields.map Prod.fst).Nodup := by
    refine (perm.map Prod.fst).nodup_iff.mp (List.pairwise_map.mpr (ascending.imp ?_))
    intro a b smaller same
    exact Std.lt_irrefl (same ▸ smaller)
  have listed : ((∅ : Table String).insertAll fields).entries = fields :=
    Table.entries_ofList distinct
  exact flatLine_eq (listed.symm ▸ perm) ascending

namespace Description

/-- The fields of an object in ascending order of their names. -/
def fields (description : Description) : List (String × String) :=
  (if description.link = "" then [] else [("linkToEditor", description.link)]) ++
    [("name", description.name), ("technicalType", description.technicalType),
      ("uniqueName", description.uniqueName)]

/-- The line of an object. -/
def line (description : Description) : String :=
  lineOf (kindType description.kind) description.fields

/-- The line of an object as it stands in the lines of relations. -/
def brief (description : Description) : String :=
  briefLine description.line

theorem fields_ascending (description : Description) :
    description.fields.Pairwise (·.1 < ·.1) := by
  have names : ["linkToEditor", "name", "technicalType", "uniqueName"].Pairwise (· < ·) := by decide
  refine List.pairwise_map.mp ?_
  unfold fields
  split
  · exact names.tail
  · exact names

theorem key_mem {description : Description} {field : String × String}
    (member : field ∈ description.fields) :
    field.1 ∈ ["linkToEditor", "name", "technicalType", "uniqueName"] := by
  rcases List.mem_append.mp member with link | other
  · split at link
    · cases link
    · simp [List.mem_singleton.mp link]
  · simp only [List.mem_cons, List.not_mem_nil, or_false] at other
    rcases other with rfl | rfl | rfl <;> simp

/-- The texts of an object, as pairs in the order of the file. -/
theorem exists_attributes_eq (description : Description) :
    ∃ texts : List (String × String),
      description.attributes = texts.map (fun text => (text.1, .text text.2)) ∧
        description.fields.Perm texts := by
  have shifted (x : List (String × String)) (y z u : String × String) :
      (x ++ [y, z, u]).Perm (y :: z :: u :: x) := List.perm_append_comm
  unfold attributes fields
  cases description.kind with
  | grouping =>
    refine ⟨("name", description.name) :: ("uniqueName", description.uniqueName) ::
      ("technicalType", description.technicalType) ::
      if description.link = "" then [] else [("linkToEditor", description.link)], ?_, ?_⟩
    · split <;> rfl
    · exact (shifted _ _ _ _).trans (.cons _ (.swap _ _ _))
  | code | data =>
    refine ⟨("name", description.name) :: ("technicalType", description.technicalType) ::
      ("uniqueName", description.uniqueName) ::
      if description.link = "" then [] else [("linkToEditor", description.link)], ?_, ?_⟩
    · split <;> rfl
    · exact shifted _ _ _ _

end Description

namespace Relation

/-- The type of the records of a relation. -/
def type {α : Type} : Relation α → String
  | .parentChild .. => "SOMIX.ParentChild"
  | .call .. => "SOMIX.Call"
  | .access .. => "SOMIX.Access"

/-- How a truth value is shown. -/
def flagText (isSet : Bool) : String :=
  if isSet then "true" else "false"

/-- The fields of a relation whose ends are lines, in ascending order of their names. -/
def fields : Relation String → List (String × String)
  | .parentChild parent child isMain =>
    [("child", child), ("isMain", flagText isMain), ("parent", parent)]
  | .call caller called => [("called", called), ("caller", caller)]
  | .access accessor accessed isWrite isRead isDependent =>
    [("accessed", accessed), ("accessor", accessor), ("isDependent", flagText isDependent),
      ("isRead", flagText isRead), ("isWrite", flagText isWrite)]

/-- The line of a relation whose ends are lines. -/
def line (relation : Relation String) : String :=
  lineOf relation.type relation.fields

theorem fields_ascending (relation : Relation String) :
    relation.fields.Pairwise (·.1 < ·.1) := by
  have names : ["child", "isMain", "parent"].Pairwise (· < ·) ∧
      ["called", "caller"].Pairwise (· < ·) ∧
        ["accessed", "accessor", "isDependent", "isRead", "isWrite"].Pairwise (· < ·) := by
    decide
  refine List.pairwise_map.mp ?_
  cases relation with
  | parentChild => exact names.1
  | call => exact names.2.1
  | access => exact names.2.2

end Relation

/-! ### Reading objects -/

/-- The texts of an object are clean. -/
structure Description.Clean (description : Description) : Prop where
  name : Mse.Clean description.name
  uniqueName : Mse.Clean description.uniqueName
  technicalType : Mse.Clean description.technicalType
  link : Mse.Clean description.link

instance (description : Description) : Decidable description.Clean :=
  decidable_of_iff
    (Clean description.name ∧ Clean description.uniqueName ∧ Clean description.technicalType ∧
      Clean description.link)
    ⟨fun ⟨name, uniqueName, technicalType, link⟩ => ⟨name, uniqueName, technicalType, link⟩,
      fun ⟨name, uniqueName, technicalType, link⟩ => ⟨name, uniqueName, technicalType, link⟩⟩

theorem Description.Clean.field {description : Description} (clean : description.Clean)
    {field : String × String} (member : field ∈ description.fields) : Mse.Clean field.2 := by
  rcases List.mem_append.mp member with link | other
  · split at link
    · cases link
    · rw [List.mem_singleton.mp link]
      exact clean.link
  · simp only [List.mem_cons, List.not_mem_nil, or_false] at other
    rcases other with rfl | rfl | rfl
    · exact clean.name
    · exact clean.technicalType
    · exact clean.uniqueName

theorem identifiedFields_texts (id : Option String) (known : Table String)
    {texts : List (String × String)} (keys : ∀ text ∈ texts, text.1 ≠ "id:")
    (clean : ∀ text ∈ texts, Clean text.2) :
    identifiedFields id known ((texts.map fun text => (text.1, Value.text text.2)).map fieldSexpr) =
      .ok (id, known.insertAll texts) := by
  induction texts generalizing known with
  | nil => rfl
  | cons text texts ih =>
    have other : (Sexpr.atom text.1).isAtom "id:" = false :=
      decide_eq_false (keys text List.mem_cons_self)
    rw [List.map_cons, List.map_cons, fieldSexpr, identifiedFields,
      (clean text List.mem_cons_self).value]
    change (if (Sexpr.atom text.1).isAtom "id:" = true then _ else _) = _
    rw [other, if_neg Bool.false_ne_true]
    exact ih (known.insert text.1 text.2)
      (fun text later => keys text (List.mem_cons_of_mem _ later))
      fun text later => clean text (List.mem_cons_of_mem _ later)

theorem identifiedFields_object {object : Nat × Description} (clean : object.2.Clean) :
    ∃ fields, identifiedFields none ∅ (objectEntry object).sexpr.fields =
        .ok (some (toString object.1), fields) ∧
      flatLine (kindType object.2.kind) fields = object.2.line := by
  obtain ⟨texts, written, perm⟩ := object.2.exists_attributes_eq
  have keys : ∀ text ∈ texts, text.1 ≠ "id:" := by
    rintro text member same
    have known := Description.key_mem (perm.mem_iff.mpr member)
    rw [same] at known
    exact absurd known (by decide)
  refine ⟨(∅ : Table String).insertAll texts, ?_, flatLine_insertAll perm object.2.fields_ascending⟩
  change identifiedFields none ∅ (.list [.atom "id:", .atom (toString object.1)] ::
    object.2.attributes.map fieldSexpr) = _
  rw [identifiedFields, toString_value, written]
  exact identifiedFields_texts _ ∅ keys fun text member => clean.field (perm.mem_iff.mpr member)

theorem kindType_mem (kind : Kind) : kindType kind ∈ objectKinds := by
  cases kind <;> decide

theorem objectsById_objects {objects : List (Nat × Description)}
    (clean : ∀ object ∈ objects, object.2.Clean) (known : Table String) (rest : List Sexpr) :
    objectsById known ((objects.map fun object => (objectEntry object).sexpr) ++ rest) =
      objectsById (known.insertAll (objects.map fun object => (toString object.1, object.2.line)))
        rest := by
  induction objects generalizing known with
  | nil => rfl
  | cons object objects ih =>
    obtain ⟨fields, read, flat⟩ := identifiedFields_object (clean object List.mem_cons_self)
    rw [List.map_cons, List.cons_append, objectsById]
    change (if kindType object.2.kind ∈ objectKinds then _ else _) = _
    rw [if_pos (kindType_mem _), read]
    change objectsById
      (known.insert (toString object.1) (flatLine (kindType object.2.kind) fields)) _ = _
    rw [flat]
    exact ih (fun other later => clean other (List.mem_cons_of_mem _ later)) _

/-! ### Reading relations -/

theorem isDecimalDigit_of_mem_toString {n : Nat} {c : Char} (member : c ∈ (toString n).toList) :
    Text.isDecimalDigit c = true ∧ Text.isBlank c = false := by
  have digits :
      "0123456789".toList.all (fun d => Text.isDecimalDigit d && !Text.isBlank d) = true := by
    decide
  have isDigit := mem_digits_of_isDigit (isDigit_of_mem_toString member)
  simpa using List.all_eq_true.mp digits c isDigit

theorem findRef_toString (n : Nat) :
    findRef ("ref: " ++ toString n).toList = some (toString n).toList := by
  have marked : ("ref: " ++ toString n).toList = refMark ++ ' ' :: (toString n).toList := by
    simp [refMark]
  have start : ∀ c ∈ (toString n).toList.head?, Text.isBlank c = false := fun c first =>
    (isDecimalDigit_of_mem_toString (List.mem_of_mem_head? first)).2
  have digits : (toString n).toList.takeWhile Text.isDecimalDigit = (toString n).toList :=
    List.takeWhile_eq_self_iff.mpr fun c member => (isDecimalDigit_of_mem_toString member).1
  have here : refAt (refMark ++ ' ' :: (toString n).toList) = some (toString n).toList := by
    rw [refAt, if_pos (List.isPrefixOf_iff_prefix.mpr (List.prefix_append _ _)), List.drop_left,
      List.dropWhile_cons_of_pos isBlank_space, Text.dropWhile_of_head? start, digits]
    simp [Nat.toString_eq_repr]
  rw [marked]
  change (refAt (refMark ++ ' ' :: (toString n).toList)).or _ = _
  rw [here, Option.some_or]

/-- A value as the line of a relation shows it. -/
def Value.shown (resolve : Nat → String) : Value → String
  | .text content => content
  | .ref id => resolve id
  | .flag isSet => Relation.flagText isSet

section Relations

variable {objects : Table String} {resolve : Nat → String}

theorem referredLine_ref {id : Nat} {line : String} (found : objects.get? (toString id) = some line)
    (field : Sexpr) : referredLine objects field [(Value.ref id).sexpr] = .ok line := by
  have texts : flattened [(Value.ref id).sexpr] = .ok [" ".intercalate ["ref:", toString id]] := rfl
  have joined :
      " ".intercalate [" ".intercalate ["ref:", toString id]] = "ref: " ++ toString id := by
    rw [← String.toList_inj]
    simp
  rw [referredLine, texts]
  dsimp only [bind, Except.bind]
  rw [joined, findRef_toString]
  simp only [String.ofList_toList, found]
  rfl

/-- The value is a reference to a known object, or a truth value. -/
def Value.Resolved (objects : Table String) (resolve : Nat → String) : Value → Prop
  | .text _ => False
  | .ref id => objects.get? (toString id) = some (resolve id)
  | .flag _ => True

/-- The value of a field is read as the line shows it. -/
theorem relationFields_cons {key : String} {value : Value}
    (resolved : value.Resolved objects resolve) (known : Table String) (rest : List Sexpr) :
    relationFields objects known (fieldSexpr (key, value) :: rest) =
      relationFields objects (known.insert key (value.shown resolve)) rest := by
  cases value with
  | text content => exact resolved.elim
  | ref id =>
    have marked : holdsRef [(Value.ref id).sexpr] = .ok true := rfl
    have line := referredLine_ref resolved (fieldSexpr (key, .ref id))
    rw [fieldSexpr] at line ⊢
    rw [relationFields, marked]
    change (do
      let text ← referredLine _ _ _
      let key ← (Sexpr.atom key).name
      relationFields objects (known.insert key text) rest) = _
    rw [line]
    rfl
  | flag isSet => cases isSet <;> rfl

theorem relationFields_eq {fields : List (String × Value)}
    (resolved : ∀ field ∈ fields, field.2.Resolved objects resolve) (known : Table String) :
    relationFields objects known (fields.map fieldSexpr) =
      .ok (known.insertAll (fields.map fun field => (field.1, field.2.shown resolve))) := by
  induction fields generalizing known with
  | nil => rfl
  | cons field fields ih =>
    rw [List.map_cons, relationFields_cons (resolved field List.mem_cons_self)]
    exact ih (fun other later => resolved other (List.mem_cons_of_mem _ later)) _

namespace Relation

theorem attributes_resolved {relation : Relation Nat}
    (known : ∀ id ∈ relation.ends, objects.get? (toString id) = some (resolve id)) :
    ∀ field ∈ relation.record.attributes, field.2.Resolved objects resolve := by
  cases relation <;>
    simpa [ends, record, Record.attributes, Value.Resolved] using known

/-- The fields of a record, as its line shows them. -/
theorem fields_perm (relation : Relation Nat) :
    (relation.map resolve).fields.Perm
      (relation.record.attributes.map fun field => (field.1, field.2.shown resolve)) := by
  cases relation with
  | parentChild parent child isMain => exact @List.perm_append_comm _ [_, _] [_]
  | call caller called => exact .swap _ _ _
  | access accessor accessed isWrite isRead isDependent =>
    exact .trans (.swap _ _ _) (.cons _ (.cons _ (List.reverse_perm [_, _, _])))

theorem type_mem (relation : Relation Nat) :
    relation.record.type ∈ relationKinds ∧ relation.record.type ∉ objectKinds := by
  cases relation <;> simp [record, Record.type, relationKinds, objectKinds]

theorem type_map (relation : Relation Nat) :
    (relation.map resolve).type = relation.record.type := by
  cases relation <;> rfl

theorem idSexprs_entry (relation : Relation Nat) : relation.record.entry.idSexprs = [] := by
  cases relation <;> rfl

theorem sexpr_entry (relation : Relation Nat) :
    relation.record.entry.sexpr =
      .list (.atom relation.record.type :: relation.record.attributes.map fieldSexpr) := by
  rw [Entry.sexpr, idSexprs_entry]
  rfl

end Relation

theorem relationLines_relations {relations : List (Relation Nat)}
    (known : ∀ relation ∈ relations, ∀ id ∈ relation.ends,
      objects.get? (toString id) = some (resolve id)) :
    relationLines objects (relations.map fun relation => relation.record.entry.sexpr) =
      .ok (relations.map fun relation => (relation.map resolve).line) := by
  induction relations with
  | nil => rfl
  | cons relation relations ih =>
    have fields := relationFields_eq
      (Relation.attributes_resolved (known relation List.mem_cons_self)) ∅
    have line : flatLine relation.record.type _ = (relation.map resolve).line :=
      (flatLine_insertAll relation.fields_perm (relation.map resolve).fields_ascending).trans
        (congrArg (lineOf · _) relation.type_map.symm)
    rw [List.map_cons, relation.sexpr_entry, relationLines]
    change (if relation.record.type ∈ relationKinds then _ else _) = _
    rw [if_pos relation.type_mem.1, fields,
      ih fun other later => known other (List.mem_cons_of_mem _ later)]
    exact congrArg (Except.ok <| · :: _) line

end Relations

/-! ### Reading contents -/

theorem type_isWord {type : String} (isType : type ∈ objectKinds ++ relationKinds) :
    Token.IsWord type.toList ∧ "SOMIX.".toList <+: type.toList := by
  have types : ∀ type ∈ objectKinds ++ relationKinds,
      Token.IsWord (String.toList type) ∧ "SOMIX.".toList <+: String.toList type := by
    decide +kernel
  exact types type isType

/-- The names of fields. -/
def fieldNames : List String :=
  ["linkToEditor", "name", "technicalType", "uniqueName", "parent", "child", "isMain", "caller",
    "called", "accessor", "accessed", "isWrite", "isRead", "isDependent"]

theorem fieldName_isWord {key : String} (isName : key ∈ fieldNames) : Token.IsWord key.toList := by
  have names : ∀ key ∈ fieldNames, Token.IsWord (String.toList key) := by decide +kernel
  exact names key isName

theorem exists_of_mem_objectEntry {object : Nat × Description} {field : String × Value}
    (member : field ∈ (objectEntry object).attributes) :
    ∃ text ∈ object.2.fields, field = (text.1, .text text.2) := by
  obtain ⟨texts, written, perm⟩ := object.2.exists_attributes_eq
  rw [objectEntry, written] at member
  obtain ⟨text, given, rfl⟩ := List.mem_map.mp member
  exact ⟨text, perm.mem_iff.mpr given, rfl⟩

theorem objectEntry_worded (object : Nat × Description) : (objectEntry object).Worded := by
  refine ⟨(type_isWord (List.mem_append_left _ (kindType_mem _))).1, fun field member => ?_⟩
  obtain ⟨text, given, rfl⟩ := exists_of_mem_objectEntry member
  exact fieldName_isWord (List.mem_append_left _ (Description.key_mem given))

theorem objectEntry_clean {object : Nat × Description} (clean : object.2.Clean) :
    (objectEntry object).Clean := by
  have worded := objectEntry_worded object
  refine ⟨worded.type, worded.keys, fun field member => ?_⟩
  obtain ⟨text, given, rfl⟩ := exists_of_mem_objectEntry member
  exact clean.field given

theorem Relation.entry_clean (relation : Relation Nat) : relation.record.entry.Clean := by
  have keys : ∀ field ∈ relation.record.attributes, field.1 ∈ fieldNames := by
    cases relation <;> simp [Relation.record, Record.attributes, fieldNames]
  have values : ∀ field ∈ relation.record.attributes, field.2.Clean := by
    cases relation <;> simp [Relation.record, Record.attributes, Value.Clean]
  refine ⟨(type_isWord (List.mem_append_right _ relation.type_mem.1)).1, ?_, values⟩
  exact fun field member => fieldName_isWord (keys field member)

theorem objectsById_relations (known : Table String) (relations : List (Relation Nat)) :
    objectsById known (relations.map fun relation => relation.record.entry.sexpr) = .ok known := by
  induction relations with
  | nil => rfl
  | cons relation relations ih =>
    rw [List.map_cons, relation.sexpr_entry, objectsById]
    change (if relation.record.type ∈ objectKinds then _ else _) = _
    rw [if_neg relation.type_mem.2, ih]

theorem kindType_not_mem (kind : Kind) : kindType kind ∉ relationKinds := by
  cases kind <;> decide

theorem relationLines_objects (known : Table String) (objects : List (Nat × Description))
    (rest : List Sexpr) :
    relationLines known ((objects.map fun object => (objectEntry object).sexpr) ++ rest) =
      relationLines known rest := by
  induction objects with
  | nil => rfl
  | cons object objects ih =>
    rw [List.map_cons, List.cons_append, objectEntry, Entry.sexpr, relationLines]
    change (if kindType object.2.kind ∈ relationKinds then _ else _) = _
    rw [if_neg (kindType_not_mem _), ih]

theorem entriesAmong_sexprs {entries : List Entry}
    (marked : ∀ entry ∈ entries, "SOMIX.".toList <+: entry.type.toList) :
    entriesAmong (entries.map Entry.sexpr) = .ok (entries.map Entry.sexpr) := by
  induction entries with
  | nil => rfl
  | cons entry entries ih =>
    have isEntry : "SOMIX.".toList.isPrefixOf entry.type.toList = true :=
      List.isPrefixOf_iff_prefix.mpr (marked entry List.mem_cons_self)
    rw [List.map_cons, Entry.sexpr, entriesAmong,
      ih fun other later => marked other (List.mem_cons_of_mem _ later)]
    change Except.ok (if "SOMIX.".toList.isPrefixOf entry.type.toList = true then _ else _) = _
    rw [if_pos isEntry]

namespace Contents

/-- The object with a number. -/
def object? (contents : Contents) (id : Nat) : Option Description :=
  (contents.objects.find? (·.1 = id)).map Prod.snd

/-- The brief line of the object with a number. -/
def briefOf (contents : Contents) (id : Nat) : String :=
  ((contents.object? id).map Description.brief).getD ""

def descriptions (contents : Contents) : List Description :=
  contents.objects.map Prod.snd

/-- The lines of the objects and the relations. -/
def lines (contents : Contents) : List String :=
  contents.descriptions.map Description.line ++
    contents.relations.map fun relation => (relation.map contents.briefOf).line

/-- No number and no unique name is given twice, relations refer to numbers that are given, and all
texts are clean. -/
structure WellFormed (contents : Contents) : Prop where
  ids : (contents.objects.map Prod.fst).Nodup
  names : (contents.objects.map (·.2.uniqueName)).Nodup
  refs : ∀ relation ∈ contents.relations, ∀ id ∈ relation.ends, id ∈ contents.objects.map Prod.fst
  clean : ∀ object ∈ contents.objects, object.2.Clean

instance (contents : Contents) : Decidable contents.WellFormed :=
  decidable_of_iff
    ((contents.objects.map Prod.fst).Nodup ∧ (contents.objects.map (·.2.uniqueName)).Nodup ∧
      (∀ relation ∈ contents.relations, ∀ id ∈ relation.ends,
        id ∈ contents.objects.map Prod.fst) ∧
      ∀ object ∈ contents.objects, object.2.Clean)
    ⟨fun ⟨ids, names, refs, clean⟩ => ⟨ids, names, refs, clean⟩,
      fun ⟨ids, names, refs, clean⟩ => ⟨ids, names, refs, clean⟩⟩

variable {contents : Contents}

theorem object?_eq_some_iff (ids : (contents.objects.map Prod.fst).Nodup) {id : Nat}
    {description : Description} :
    contents.object? id = some description ↔ (id, description) ∈ contents.objects := by
  rw [object?, Option.map_eq_some_iff]
  constructor
  · rintro ⟨⟨id', description'⟩, found, rfl⟩
    have same : id' = id := by simpa using List.find?_some found
    exact same ▸ List.mem_of_find?_eq_some found
  · intro member
    obtain ⟨object, found⟩ : ∃ object, contents.objects.find? (·.1 = id) = some object :=
      Option.isSome_iff_exists.mp (List.find?_isSome.mpr ⟨_, member, by simp⟩)
    have same : object.1 = id := by simpa using List.find?_some found
    have equal := List.inj_on_of_nodup_map ids (List.mem_of_find?_eq_some found) member same
    exact ⟨object, found, congrArg Prod.snd equal⟩

/-- The lines of the objects under their numbers. -/
def linesById (contents : Contents) : Table String :=
  (∅ : Table String).insertAll
    (contents.objects.map fun object => (toString object.1, object.2.line))

theorem nodup_toString (ids : (contents.objects.map Prod.fst).Nodup) :
    (contents.objects.map fun object => toString object.1).Nodup := by
  have distinct := ids.map fun _ _ => toString_injective
  rwa [List.map_map] at distinct

theorem entries_linesById (ids : (contents.objects.map Prod.fst).Nodup) :
    contents.linesById.entries =
      contents.objects.map fun object => (toString object.1, object.2.line) := by
  refine Table.entries_ofList ?_
  simpa [Function.comp_def] using nodup_toString ids

theorem entries_briefObjects (ids : (contents.objects.map Prod.fst).Nodup) :
    (briefObjects contents.linesById).entries =
      contents.objects.map fun object => (toString object.1, object.2.brief) := by
  rw [briefObjects, entries_linesById ids, List.map_map, Table.entries_ofList]
  · rfl
  · simpa [Function.comp_def] using nodup_toString ids

theorem get?_briefObjects (ids : (contents.objects.map Prod.fst).Nodup) {id : Nat}
    (known : id ∈ contents.objects.map Prod.fst) :
    (briefObjects contents.linesById).get? (toString id) = some (contents.briefOf id) := by
  obtain ⟨⟨number, description⟩, member, same⟩ := List.mem_map.mp known
  subst same
  rw [Table.get?_eq_some_iff, entries_briefObjects ids, briefOf,
    (object?_eq_some_iff ids).mpr member]
  exact List.mem_map.mpr ⟨_, member, rfl⟩

namespace WellFormed

theorem entry_clean (wellFormed : contents.WellFormed) :
    ∀ entry ∈ contents.entries, entry.Clean := by
  intro entry member
  rcases List.mem_append.mp member with isObject | isRelation
  · obtain ⟨object, given, rfl⟩ := List.mem_map.mp isObject
    exact objectEntry_clean (wellFormed.clean object given)
  · obtain ⟨relation, -, rfl⟩ := List.mem_map.mp isRelation
    exact relation.entry_clean

theorem entriesOfText_render (wellFormed : contents.WellFormed) :
    entriesOfText contents.render = .ok (contents.entries.map Entry.sexpr) := by
  have marked : ∀ entry ∈ contents.entries, "SOMIX.".toList <+: entry.type.toList := by
    intro entry member
    rcases List.mem_append.mp member with isObject | isRelation
    · obtain ⟨object, -, rfl⟩ := List.mem_map.mp isObject
      exact (type_isWord (List.mem_append_left _ (kindType_mem _))).2
    · obtain ⟨relation, -, rfl⟩ := List.mem_map.mp isRelation
      exact (type_isWord (List.mem_append_right _ relation.type_mem.1)).2
  have worded : ∀ entry ∈ contents.entries, entry.Worded :=
    fun entry member => (wellFormed.entry_clean entry member).worded
  have plain : ∀ entry ∈ contents.entries, entry.Plain :=
    fun entry member => (wellFormed.entry_clean entry member).plain
  rw [entriesOfText, render, sexprs_renderEntries worded plain]
  change (do
    let here ← entriesAmong (contents.entries.map Entry.sexpr)
    return here ++ []) = _
  rw [entriesAmong_sexprs marked]
  exact congrArg Except.ok (List.append_nil _)

theorem listing_render (wellFormed : contents.WellFormed) :
    listing contents.render = .ok (ascending contents.lines) := by
  have split : contents.entries.map Entry.sexpr =
      (contents.objects.map fun object => (objectEntry object).sexpr) ++
        contents.relations.map fun relation => relation.record.entry.sexpr := by
    rw [entries, List.map_append, List.map_map, List.map_map]
    rfl
  have objects : objectsById ∅ (contents.entries.map Entry.sexpr) = .ok contents.linesById := by
    rw [split, objectsById_objects wellFormed.clean, objectsById_relations]
    rfl
  have relations : relationLines (briefObjects contents.linesById)
      (contents.entries.map Entry.sexpr) =
        .ok (contents.relations.map fun relation => (relation.map contents.briefOf).line) := by
    rw [split, relationLines_objects, relationLines_relations]
    exact fun relation member id isEnd =>
      get?_briefObjects wellFormed.ids (wellFormed.refs relation member id isEnd)
  have values : contents.linesById.values = contents.descriptions.map Description.line := by
    rw [Table.values, entries_linesById wellFormed.ids, descriptions, List.map_map, List.map_map]
    rfl
  rw [listing, wellFormed.entriesOfText_render]
  change (do
    let objects ← objectsById ∅ (contents.entries.map Entry.sexpr)
    let relations ← relationLines (briefObjects objects) (contents.entries.map Entry.sexpr)
    return ascending (objects.values ++ relations)) = _
  rw [objects]
  change (do
    let relations ← relationLines (briefObjects contents.linesById)
      (contents.entries.map Entry.sexpr)
    return ascending (contents.linesById.values ++ relations)) = _
  rw [relations, values]
  rfl

theorem listingOfFile_render (wellFormed : contents.WellFormed) :
    listingOfFile contents.render.toUTF8.toList = .ok (ascending contents.lines) := by
  have noReturn : '\r' ∉ contents.render.toList := noReturn_renderEntries wellFormed.entry_clean
  rw [listingOfFile, Text.Utf8.decode_toUTF8]
  dsimp only
  rw [Text.unifyLineEnds_of_not_mem noReturn, String.ofList_toList, wellFormed.listing_render]

end WellFormed

end Contents

end Mse

end CodeMap
