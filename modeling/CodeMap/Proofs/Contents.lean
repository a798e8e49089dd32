/-
Contents of model files, and the expressions that a file with given contents holds.

`Contents` are descriptions of objects under numbers, and relations between the numbers; they are
more general than what a project gives, as types and links are any texts. Main statement: the text
written for entries is read as the expressions of these entries exactly if their texts are plain
(`sexprs_renderEntries_iff`).
-/

import CodeMap.Export
import CodeMap.Proofs.Reading
import CodeMap.Text.Digit

namespace CodeMap.Mse

/-! ### Contents -/

/-- A relation; its ends are numbers, or names, or whatever stands for an object. -/
inductive Relation (α : Type) where
  | parentChild (parent child : α) (isMain : Bool)
  | call (caller called : α)
  | access (accessor accessed : α) (isWrite isRead isDependent : Bool)
deriving DecidableEq, Repr

namespace Relation

variable {α β : Type}

def map (f : α → β) : Relation α → Relation β
  | .parentChild parent child isMain => .parentChild (f parent) (f child) isMain
  | .call caller called => .call (f caller) (f called)
  | .access accessor accessed isWrite isRead isDependent =>
    .access (f accessor) (f accessed) isWrite isRead isDependent

def ends : Relation α → List α
  | .parentChild parent child _ => [parent, child]
  | .call caller called => [caller, called]
  | .access accessor accessed _ _ _ => [accessor, accessed]

/-- The record of a relation between numbers. -/
def record : Relation Nat → Record
  | .parentChild parent child isMain => .parentChild parent child isMain
  | .call caller called => .call caller called
  | .access accessor accessed isWrite isRead isDependent =>
    .access accessor accessed isWrite isRead isDependent

end Relation

/-- What a model file holds. -/
structure Contents where
  objects : List (Nat × Description)
  relations : List (Relation Nat)
deriving DecidableEq, Repr

/-- The entry of an object. -/
def objectEntry (object : Nat × Description) : Entry :=
  ⟨kindType object.2.kind, some object.1, object.2.attributes⟩

namespace Contents

def entries (contents : Contents) : List Entry :=
  contents.objects.map objectEntry ++ contents.relations.map fun relation => relation.record.entry

/-- The text of the model file. -/
def render (contents : Contents) : String :=
  renderEntries contents.entries

end Contents

/-! ### Expressions of entries -/

namespace Value

def sexpr : Value → Sexpr
  | .text content => .atom ("'" ++ content ++ "'")
  | .ref id => .list [.atom "ref:", .atom (toString id)]
  | .flag isSet => .atom (if isSet then "true" else "false")

end Value

/-- The expression of an attribute. -/
def fieldSexpr (field : String × Value) : Sexpr :=
  .list [.atom field.1, field.2.sexpr]

namespace Entry

/-- The expression of the number of an entry. -/
def idSexprs (entry : Entry) : List Sexpr :=
  entry.id.toList.map fun id => .list [.atom "id:", .atom (toString id)]

def sexpr (entry : Entry) : Sexpr :=
  .list (.atom entry.type :: (entry.idSexprs ++ entry.attributes.map fieldSexpr))

end Entry

/-! ### Clean texts -/

/-- A text that is one word in a model file and whose ends are not taken for quotes. -/
structure Clean (text : String) : Prop where
  undelimited : ∀ c ∈ text.toList, Token.isDelimiter c = false
  uncommented : ¬ [';', ';'] <:+: text.toList
  start : text.toList.head? ≠ some '\''
  finish : text.toList.getLast? ≠ some '\''

instance (text : String) : Decidable (Clean text) :=
  decidable_of_iff
    ((∀ c ∈ text.toList, Token.isDelimiter c = false) ∧ ¬ [';', ';'] <:+: text.toList ∧
      text.toList.head? ≠ some '\'' ∧ text.toList.getLast? ≠ some '\'')
    ⟨fun ⟨undelimited, uncommented, start, finish⟩ => ⟨undelimited, uncommented, start, finish⟩,
      fun ⟨undelimited, uncommented, start, finish⟩ => ⟨undelimited, uncommented, start, finish⟩⟩

/-- The text of a value is clean. -/
def Value.Clean : Value → Prop
  | .text content => Mse.Clean content
  | _ => True

structure Entry.Clean (entry : Entry) : Prop where
  type : Token.IsWord entry.type.toList
  keys : ∀ field ∈ entry.attributes, Token.IsWord field.1.toList
  values : ∀ field ∈ entry.attributes, field.2.Clean

/-! ### Plain texts -/

/-- A text that is one word in a model file, whatever its ends are. -/
structure Plain (text : String) : Prop where
  undelimited : ∀ c ∈ text.toList, Token.isDelimiter c = false
  uncommented : ¬ [';', ';'] <:+: text.toList

instance (text : String) : Decidable (Plain text) :=
  decidable_of_iff
    ((∀ c ∈ text.toList, Token.isDelimiter c = false) ∧ ¬ [';', ';'] <:+: text.toList)
    ⟨fun ⟨undelimited, uncommented⟩ => ⟨undelimited, uncommented⟩,
      fun ⟨undelimited, uncommented⟩ => ⟨undelimited, uncommented⟩⟩

/-- The text of a value is plain. -/
def Value.Plain : Value → Prop
  | .text content => Mse.Plain content
  | _ => True

instance (value : Value) : Decidable value.Plain := by
  cases value <;> unfold Value.Plain <;> infer_instance

/-- The words of an entry are words. -/
structure Entry.Worded (entry : Entry) : Prop where
  type : Token.IsWord entry.type.toList
  keys : ∀ field ∈ entry.attributes, Token.IsWord field.1.toList

/-- The texts of an entry are plain. -/
def Entry.Plain (entry : Entry) : Prop :=
  ∀ field ∈ entry.attributes, field.2.Plain

instance (entry : Entry) : Decidable entry.Plain :=
  List.decidableBAll _ entry.attributes

theorem Clean.plain {text : String} (clean : Clean text) : Plain text :=
  ⟨clean.undelimited, clean.uncommented⟩

theorem Entry.Clean.worded {entry : Entry} (clean : entry.Clean) : entry.Worded :=
  ⟨clean.type, clean.keys⟩

theorem Entry.Clean.plain {entry : Entry} (clean : entry.Clean) : entry.Plain := by
  intro field member
  have value := clean.values field member
  cases given : field.2 with
  | text content =>
    rw [given] at value
    exact value.plain
  | ref | flag => trivial

theorem toList_quoted (text : String) :
    ("'" ++ text ++ "'").toList = '\'' :: (text.toList ++ ['\'']) := by
  simp

theorem Plain.isWord_quoted {text : String} (plain : Plain text) :
    Token.IsWord ("'" ++ text ++ "'").toList := by
  rw [toList_quoted]
  refine ⟨by simp, ?_, ?_⟩
  · intro c member
    rcases List.mem_cons.mp member with rfl | member
    · decide
    · rcases List.mem_append.mp member with inside | last
      · exact plain.undelimited c inside
      · rw [List.mem_singleton.mp last]
        decide
  · intro comment
    rcases List.infix_cons_iff.mp comment with ⟨rest, same⟩ | later
    · exact absurd (List.cons.inj same).1 (by decide)
    · rcases List.infix_concat_iff.mp later with ⟨start, same⟩ | inside
      · exact absurd (congrArg List.getLast? same) (by simp)
      · exact plain.uncommented inside

/-- A text that is a word between quotes is plain. -/
theorem Plain.of_isWord_quoted {text : String}
    (isWord : Token.IsWord ("'" ++ text ++ "'").toList) : Plain text := by
  rw [toList_quoted] at isWord
  constructor
  · intro c member
    exact isWord.undelimited c (List.mem_cons_of_mem _ (List.mem_append_left _ member))
  · intro comment
    exact isWord.uncommented (List.infix_cons (comment.trans (List.infix_append [] _ _)))

/-! ### Numbers -/

theorem isDigit_of_mem_toString {n : Nat} {c : Char} (member : c ∈ (toString n).toList) :
    c.isDigit = true := by
  rw [Nat.toString_eq_repr, Nat.toList_repr] at member
  exact Nat.isDigit_of_mem_toDigits (by omega) (by omega) member

theorem toString_injective {m n : Nat} (same : toString m = toString n) : m = n := by
  have digits : Nat.toDigits 10 m = Nat.toDigits 10 n := by
    rw [← Nat.toList_repr, ← Nat.toList_repr, ← Nat.toString_eq_repr, ← Nat.toString_eq_repr, same]
  rw [← @Nat.ofDigitChars_ten_toDigits m, digits, Nat.ofDigitChars_ten_toDigits]

theorem mem_digits_of_isDigit {c : Char} (isDigit : c.isDigit = true) :
    c ∈ "0123456789".toList := by
  have ten : ∀ n < 58, 48 ≤ n → Char.ofNat n ∈ "0123456789".toList := by decide
  have bounds : 48 ≤ c.toNat ∧ c.toNat ≤ 57 := by
    simpa [Char.isDigit, UInt32.le_iff_toNat_le] using isDigit
  rw [← Char.ofNat_toNat c]
  exact ten c.toNat (by omega) bounds.1

theorem isWord_toString (n : Nat) : Token.IsWord (toString n).toList where
  nonempty := by simp [Nat.toString_eq_repr]
  undelimited c member := by
    have digits : ∀ d ∈ "0123456789".toList, Token.isDelimiter d = false := by decide
    exact digits c (mem_digits_of_isDigit (isDigit_of_mem_toString member))
  uncommented comment := by
    have semicolon : ';' ∈ (toString n).toList := comment.subset List.mem_cons_self
    exact absurd (isDigit_of_mem_toString semicolon) (by decide)

/-! ### Reading entries -/

open Token (Reads)

theorem isBlank_space : Text.isBlank ' ' = true := by decide

theorem isBlank_lineFeed : Text.isBlank '\n' = true := by decide

/-- A word before a blank. -/
theorem reads_word {text : String} (isWord : Token.IsWord text.toList) {c : Char}
    (blank : Text.isBlank c = true) : Reads (text.toList ++ [c]) [.atom text] := by
  have ends := Token.isDelimiter_iff.mpr (.inr (.inr blank))
  have read := Reads.word isWord ends (Reads.blank blank)
  rwa [String.ofList_toList] at read

/-- A word before a closing parenthesis. -/
theorem reads_last {text : String} (isWord : Token.IsWord text.toList) :
    Reads (text.toList ++ [')']) [.atom text, .closing] := by
  have read := Reads.word isWord (by decide) Reads.closing
  rwa [String.ofList_toList] at read

theorem Value.reads {value : Value} (plain : value.Plain) :
    Reads (value.render.toList ++ [')']) (value.sexpr.tokens ++ [.closing]) := by
  cases value with
  | text content => exact reads_last plain.isWord_quoted
  | ref id =>
    have mark : Token.IsWord "ref:".toList := by decide
    have read := ((Reads.opening.append (reads_word mark isBlank_space)).append
      (reads_last (isWord_toString id))).append Reads.closing
    simpa [Value.render, Value.sexpr, Sexpr.tokens, Sexpr.tokensOfList] using read
  | flag isSet =>
    cases isSet with
    | false => exact reads_last (by decide)
    | true => exact reads_last (by decide)

theorem reads_renderAttribute {key : String} {value : Value} (isWord : Token.IsWord key.toList)
    (plain : value.Plain) :
    Reads (renderAttribute key value).toList (fieldSexpr (key, value)).tokens := by
  have indent := (Reads.blank isBlank_space).append (Reads.blank isBlank_space)
  have read := (((indent.append .opening).append (reads_word isWord isBlank_space)).append
    (Value.reads plain)).append (.blank isBlank_lineFeed)
  simpa [renderAttribute, fieldSexpr, Sexpr.tokens, Sexpr.tokensOfList] using read

namespace Entry

/-- The type and the number, up to the end of the line. -/
theorem reads_head {entry : Entry} (isWord : Token.IsWord entry.type.toList) :
    Reads (entry.type ++ (entry.id.map fun id => " (id: " ++ toString id ++ " )").getD "" ++
      "\n").toList (Sexpr.tokensOfList (.atom entry.type :: entry.idSexprs)) := by
  unfold idSexprs
  cases entry.id with
  | none =>
    have read := reads_word isWord isBlank_lineFeed
    simpa [Sexpr.tokens, Sexpr.tokensOfList] using read
  | some id =>
    have mark : Token.IsWord "id:".toList := by decide
    have number := ((Reads.opening.append (reads_word mark isBlank_space)).append
      (reads_word (isWord_toString id) isBlank_space)).append .closing
    have read := ((reads_word isWord isBlank_space).append number).append
      (.blank isBlank_lineFeed)
    simpa [Sexpr.tokens, Sexpr.tokensOfList] using read

theorem reads {entry : Entry} (worded : entry.Worded) (plain : entry.Plain) :
    Reads entry.render.toList entry.sexpr.tokens := by
  have fields := Reads.flatMap fun field member =>
    reads_renderAttribute (worded.keys field member) (plain field member)
  have read := (((Reads.opening.append (reads_head worded.type)).append fields).append
    .closing).append (.blank isBlank_lineFeed)
  simpa [render, sexpr, Sexpr.tokens, Sexpr.tokensOfList, Sexpr.tokensOfList_eq_flatMap,
    List.flatMap_map] using read

end Entry

/-- The text of plain entries is read as one list of their expressions. -/
theorem sexprs_renderEntries {entries : List Entry} (worded : ∀ entry ∈ entries, entry.Worded)
    (plain : ∀ entry ∈ entries, entry.Plain) :
    sexprs (renderEntries entries) = .ok [.list (entries.map Entry.sexpr)] := by
  have all := Reads.flatMap fun entry member =>
    Entry.reads (worded entry member) (plain entry member)
  have read := (((Reads.opening.append (.blank isBlank_lineFeed)).append all).append
    .closing).append (.blank isBlank_lineFeed)
  have ended : Token.ofChars [] = [] := rfl
  have written : tokens (renderEntries entries) =
      Sexpr.tokensOfList [.list (entries.map Entry.sexpr)] := by
    simpa [tokens, renderEntries, Sexpr.tokens, Sexpr.tokensOfList, Sexpr.tokensOfList_eq_flatMap,
      List.flatMap_map, ended] using read []
  rw [sexprs, written, Sexpr.readAll_tokensOfList]

/-- The text of an entry is an atom of its expression. -/
theorem Entry.atom_mem_tokens {entry : Entry} {field : String × Value}
    (member : field ∈ entry.attributes) {content : String} (isText : field.2 = .text content) :
    Token.atom ("'" ++ content ++ "'") ∈ entry.sexpr.tokens := by
  have own : Token.atom ("'" ++ content ++ "'") ∈ (fieldSexpr field).tokens := by
    simp [fieldSexpr, isText, Value.sexpr, Sexpr.tokens, Sexpr.tokensOfList]
  simp only [Entry.sexpr, Sexpr.tokens, Sexpr.tokensOfList_eq_flatMap, List.mem_cons,
    List.mem_append, List.mem_flatMap, List.mem_map]
  exact .inr (.inl ⟨_, .inr (.inr ⟨field, member, rfl⟩), own⟩)

/-- The text of entries is read as one list of their expressions exactly if they are plain: a word
of a text holds neither a blank nor a parenthesis nor the start of a comment. -/
theorem sexprs_renderEntries_iff {entries : List Entry}
    (worded : ∀ entry ∈ entries, entry.Worded) :
    sexprs (renderEntries entries) = .ok [.list (entries.map Entry.sexpr)] ↔
      ∀ entry ∈ entries, entry.Plain := by
  refine ⟨fun read entry listed field member => ?_, sexprs_renderEntries worded⟩
  cases isText : field.2 with
  | ref | flag => trivial
  | text content =>
    have atom : Token.atom ("'" ++ content ++ "'") ∈
        Sexpr.tokensOfList [.list (entries.map Entry.sexpr)] := by
      simp only [Sexpr.tokensOfList, Sexpr.tokens, Sexpr.tokensOfList_eq_flatMap, List.append_nil,
        List.mem_cons, List.mem_append, List.mem_flatMap, List.mem_map]
      exact .inr (.inl ⟨_, ⟨entry, listed, rfl⟩, Entry.atom_mem_tokens member isText⟩)
    rw [Sexpr.tokensOfList_of_readAll read] at atom
    exact .of_isWord_quoted (Token.isWord_of_mem_ofChars atom)

/-! ### Line ends -/

theorem Token.IsWord.noReturn {cs : List Char} (isWord : Token.IsWord cs) : '\r' ∉ cs :=
  fun member => absurd (isWord.undelimited _ member) (by decide)

theorem Value.noReturn {value : Value} (clean : value.Clean) : '\r' ∉ value.render.toList := by
  cases value with
  | text content => exact clean.plain.isWord_quoted.noReturn
  | ref id =>
    have number := (isWord_toString id).noReturn
    simpa [Value.render] using number
  | flag isSet => cases isSet <;> decide

theorem noReturn_join {α : Type} {xs : List α} {text : α → String}
    (each : ∀ x ∈ xs, '\r' ∉ (text x).toList) : '\r' ∉ (String.join (xs.map text)).toList := by
  rw [String.toList_join, List.mem_flatMap]
  rintro ⟨_, listed, inside⟩
  obtain ⟨x, member, rfl⟩ := List.mem_map.mp listed
  exact each x member inside

theorem Entry.Clean.noReturn {entry : Entry} (clean : entry.Clean) :
    '\r' ∉ entry.render.toList := by
  have number :
      '\r' ∉ ((entry.id.map fun id => " (id: " ++ toString id ++ " )").getD "").toList := by
    cases entry.id with
    | none => decide
    | some id => simpa using (isWord_toString id).noReturn
  have fields : ∀ field ∈ entry.attributes, '\r' ∉ (renderAttribute field.1 field.2).toList := by
    intro field member
    have key := (clean.keys field member).noReturn
    have value := Value.noReturn (clean.values field member)
    simp [renderAttribute, key, value]
  simp only [Entry.render, String.toList_append, List.mem_append, not_or]
  exact ⟨⟨⟨⟨⟨by decide, clean.type.noReturn⟩, number⟩, by decide⟩, noReturn_join fields⟩, by decide⟩

theorem noReturn_renderEntries {entries : List Entry} (clean : ∀ entry ∈ entries, entry.Clean) :
    '\r' ∉ (renderEntries entries).toList := by
  simp only [renderEntries, String.toList_append, List.mem_append, not_or]
  exact ⟨⟨by decide, noReturn_join fun entry member => (clean entry member).noReturn⟩, by decide⟩

end CodeMap.Mse
