/-
Identifiers of a source text: a letter or a low line, then letters, digits and marks. An
identifier is never empty and holds no full stop, so that dotted names fall apart into their
identifiers in one way only.
-/

import CodeMap.Text.Letter

namespace CodeMap.Source

/-- The characters form an identifier. -/
def isIdentifier : List Char → Bool
  | [] => false
  | c :: rest => Text.opensIdentifier c && rest.all Text.continuesIdentifier

structure Identifier where
  text : String
  valid : isIdentifier text.toList = true
deriving DecidableEq

namespace Identifier

instance : Repr Identifier := ⟨fun id _ => repr id.text⟩

/-- The identifier with these characters. -/
def ofChars? (cs : List Char) : Option Identifier :=
  if h : isIdentifier (String.ofList cs).toList = true then some ⟨String.ofList cs, h⟩ else none

theorem ne_empty (id : Identifier) : id.text ≠ "" := by
  intro h
  have valid := id.valid
  rw [h] at valid
  exact absurd valid (by decide)

theorem dot_not_mem (id : Identifier) : '.' ∉ id.text.toList := by
  have valid := id.valid
  cases hcs : id.text.toList with
  | nil => simp
  | cons c rest =>
    rw [hcs] at valid
    simp only [isIdentifier, Bool.and_eq_true, List.all_eq_true] at valid
    intro hmem
    rcases List.mem_cons.mp hmem with h | h
    · rw [← h] at valid
      exact absurd valid.1 (by decide +kernel)
    · exact absurd (valid.2 _ h) (by decide +kernel)

end Identifier

/-- Identifiers with full stops between them. -/
structure DottedName where
  first : Identifier
  others : List Identifier := []
deriving DecidableEq, Repr

def DottedName.text (name : DottedName) : String :=
  ".".intercalate ((name.first :: name.others).map (·.text))

end CodeMap.Source
