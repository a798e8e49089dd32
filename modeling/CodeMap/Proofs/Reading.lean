/-
Reading back what was written: tokens from characters, expressions from tokens.

A piece of text reads as some tokens if it gives them wherever it stands at the start of a text
(`Token.Reads`). Such pieces are put together, and a word ends with the character after it. The
tokens of expressions are read back as these expressions (`Sexpr.readAll_tokensOfList`), and no
other tokens are (`Sexpr.tokensOfList_of_readAll`). All atoms of a text are words
(`Token.isWord_of_mem_ofChars`).
-/

import CodeMap.Mse.Sexpr
import Mathlib.Data.List.Infix
import Mathlib.Tactic.SplitIfs

namespace CodeMap.Mse

namespace Token

/-! ### Words -/

/-- The character ends a word. -/
def isDelimiter (c : Char) : Bool :=
  c = '(' || c = ')' || Text.isBlank c

/-- The text is a word: nothing in it ends the word or opens a comment. -/
structure IsWord (cs : List Char) : Prop where
  nonempty : cs ≠ []
  undelimited : ∀ c ∈ cs, isDelimiter c = false
  uncommented : ¬ [';', ';'] <:+: cs

/-- Decided along the text, not over all characters. -/
instance decidableUndelimited (cs : List Char) : Decidable (∀ c ∈ cs, isDelimiter c = false) :=
  List.decidableBAll _ cs

instance (cs : List Char) : Decidable (IsWord cs) :=
  decidable_of_iff
    (cs ≠ [] ∧ (∀ c ∈ cs, isDelimiter c = false) ∧ ¬ [';', ';'] <:+: cs)
    ⟨fun ⟨nonempty, undelimited, uncommented⟩ => ⟨nonempty, undelimited, uncommented⟩,
      fun ⟨nonempty, undelimited, uncommented⟩ => ⟨nonempty, undelimited, uncommented⟩⟩

theorem withoutComments_cons {c : Char} (ordinary : c ≠ ';') (rest : List Char) :
    withoutComments false (c :: rest) = c :: withoutComments false rest := by
  rw [withoutComments]
  · rfl
  · exact fun _ same => absurd same ordinary

/-- No comment opens in a text without two semicolons in a row, if no semicolon follows it. -/
theorem withoutComments_append {cs rest : List Char} (uncommented : ¬ [';', ';'] <:+: cs)
    (ordinary : rest.head? ≠ some ';') :
    withoutComments false (cs ++ rest) = cs ++ withoutComments false rest := by
  induction cs with
  | nil => rfl
  | cons d cs ih =>
    have later : ¬ [';', ';'] <:+: cs := fun inner => uncommented (List.infix_cons inner)
    rw [List.cons_append, List.cons_append, ← ih later, withoutComments]
    · rfl
    · rintro tail rfl next
      cases cs with
      | nil => exact ordinary (congrArg List.head? next)
      | cons e cs =>
        rw [(List.cons.inj next).1] at uncommented
        exact uncommented ⟨[], cs, rfl⟩

theorem scan_append {cs : List Char} (undelimited : ∀ c ∈ cs, isDelimiter c = false)
    (word rest : List Char) : scan word (cs ++ rest) = scan (cs.reverse ++ word) rest := by
  induction cs generalizing word with
  | nil => rfl
  | cons c cs ih =>
    have inside := undelimited c List.mem_cons_self
    simp only [isDelimiter, Bool.or_eq_false_iff, decide_eq_false_iff_not] at inside
    rw [List.cons_append, scan, if_neg inside.1.1, if_neg inside.1.2, inside.2,
      if_neg Bool.false_ne_true, ih fun d member => undelimited d (List.mem_cons_of_mem _ member)]
    simp

theorem isDelimiter_iff {c : Char} :
    isDelimiter c = true ↔ c = '(' ∨ c = ')' ∨ Text.isBlank c = true := by
  simp [isDelimiter, or_assoc]

theorem ne_semicolon_of_isDelimiter {c : Char} (ends : isDelimiter c = true) : c ≠ ';' := by
  rintro rfl
  exact absurd ends (by decide)

/-- A word ends with the text, or before a character that ends words. -/
theorem ofChars_word {cs rest : List Char} (word : IsWord cs)
    (ends : ∀ c ∈ rest.head?, isDelimiter c = true) :
    ofChars (cs ++ rest) = .atom (String.ofList cs) :: ofChars rest := by
  have ordinary : rest.head? ≠ some ';' := fun semicolon =>
    ne_semicolon_of_isDelimiter (ends _ semicolon) rfl
  have closed : wordBefore (cs.reverse ++ []) = [.atom (String.ofList cs)] := by
    obtain ⟨d, ds, reversed⟩ : ∃ d ds, cs.reverse = d :: ds :=
      List.exists_cons_of_ne_nil (by simpa using word.nonempty)
    rw [List.append_nil, reversed, wordBefore, ← reversed, List.reverse_reverse]
  rw [ofChars, ofChars, withoutComments_append word.uncommented ordinary,
    scan_append word.undelimited]
  cases rest with
  | nil => exact closed
  | cons c rest =>
    have ends := ends c rfl
    rw [withoutComments_cons (ne_semicolon_of_isDelimiter ends), scan, scan, closed]
    rcases isDelimiter_iff.mp ends with rfl | rfl | blank
    · rfl
    · rfl
    · split_ifs <;> rfl

/-! ### Words of a text -/

theorem uncommented_cons {c : Char} {cs : List Char} (uncommented : ¬ [';', ';'] <:+: cs)
    (apart : c = ';' → cs.head? ≠ some ';') : ¬ [';', ';'] <:+: c :: cs := by
  intro comment
  rcases List.infix_cons_iff.mp comment with ⟨rest, same⟩ | later
  · obtain ⟨first, second⟩ := List.cons.inj same
    exact apart first.symm (by simp [← second])
  · exact uncommented later

/-- No comment opens in what is left without comments. -/
theorem uncommented_withoutComments (inside : Bool) (cs : List Char) :
    ¬ [';', ';'] <:+: withoutComments inside cs := by
  fun_induction withoutComments inside cs with
  | case1 => simp
  | case2 rest ih => exact uncommented_cons ih fun isSemicolon => absurd isSemicolon (by decide)
  | case3 c rest _ ih => exact ih
  | case4 inside _ rest ih => exact ih
  | case5 inside _ c rest single ih =>
    refine uncommented_cons ih fun isSemicolon => ?_
    cases rest with
    | nil => simp [withoutComments]
    | cons d rest =>
      have ordinary : d ≠ ';' := fun same => single rest isSemicolon (by rw [same])
      rw [withoutComments_cons ordinary]
      simpa using ordinary

theorem of_mem_wordBefore {text : String} {word : List Char}
    (member : .atom text ∈ wordBefore word) : word ≠ [] ∧ text.toList = word.reverse := by
  cases word with
  | nil => cases member
  | cons c cs =>
    have same := List.mem_singleton.mp member
    cases same
    exact ⟨by simp, by simp⟩

/-- A part of a text in which nothing ends a word. -/
structure IsPart (word cs : List Char) : Prop where
  nonempty : word ≠ []
  undelimited : ∀ c ∈ word, isDelimiter c = false
  within : word <:+: cs

theorem IsPart.mono {word cs ds : List Char} (part : IsPart word cs) (inner : cs <:+: ds) :
    IsPart word ds :=
  ⟨part.nonempty, part.undelimited, part.within.trans inner⟩

theorem isPart_of_mem_scan {text : String} {word cs : List Char}
    (undelimited : ∀ c ∈ word, isDelimiter c = false) (member : .atom text ∈ scan word cs) :
    IsPart text.toList (word.reverse ++ cs) := by
  have before {word cs : List Char} (undelimited : ∀ c ∈ word, isDelimiter c = false)
      (member : .atom text ∈ wordBefore word) : IsPart text.toList (word.reverse ++ cs) := by
    obtain ⟨nonempty, same⟩ := of_mem_wordBefore member
    rw [same]
    refine ⟨by simpa using nonempty, fun c inside => ?_, List.infix_append [] _ _⟩
    exact undelimited c (List.mem_reverse.mp inside)
  induction cs generalizing word with
  | nil => exact before undelimited member
  | cons c rest ih =>
    have later (member : .atom text ∈ scan [] rest) :
        IsPart text.toList (word.reverse ++ c :: rest) := by
      have inner : [].reverse ++ rest <:+: word.reverse ++ c :: rest :=
        ⟨word.reverse ++ [c], [], by simp⟩
      exact (ih (by simp) member).mono inner
    rw [scan] at member
    split_ifs at member with opens closes blank
    · rcases List.mem_append.mp member with ended | follows
      · exact before undelimited ended
      · exact later ((List.mem_cons.mp follows).resolve_left (by simp))
    · rcases List.mem_append.mp member with ended | follows
      · exact before undelimited ended
      · exact later ((List.mem_cons.mp follows).resolve_left (by simp))
    · rcases List.mem_append.mp member with ended | follows
      · exact before undelimited ended
      · exact later follows
    · have goesOn : ∀ d ∈ c :: word, isDelimiter d = false := by
        intro d inside
        rcases List.mem_cons.mp inside with rfl | inside
        · simp [isDelimiter, opens, closes, blank]
        · exact undelimited d inside
      simpa using ih goesOn member

theorem isWord_of_mem_ofChars {text : String} {cs : List Char} (member : .atom text ∈ ofChars cs) :
    IsWord text.toList := by
  have part : IsPart text.toList (withoutComments false cs) :=
    isPart_of_mem_scan (List.forall_mem_nil _) member
  refine ⟨part.nonempty, part.undelimited, fun comment => ?_⟩
  exact uncommented_withoutComments false cs (comment.trans part.within)

/-! ### Pieces of text -/

/-- At the start of any text, the piece gives the tokens. -/
def Reads (cs : List Char) (tokens : List Token) : Prop :=
  ∀ rest, ofChars (cs ++ rest) = tokens ++ ofChars rest

namespace Reads

theorem nil : Reads [] [] := fun _ => rfl

theorem append {cs ds : List Char} {ts us : List Token} (first : Reads cs ts)
    (second : Reads ds us) : Reads (cs ++ ds) (ts ++ us) := fun rest => by
  rw [List.append_assoc, first, second, List.append_assoc]

theorem flatMap {α : Type} {xs : List α} {text : α → List Char} {tokens : α → List Token}
    (each : ∀ x ∈ xs, Reads (text x) (tokens x)) :
    Reads (xs.flatMap text) (xs.flatMap tokens) := by
  induction xs with
  | nil => exact nil
  | cons x xs ih =>
    exact (each x List.mem_cons_self).append
      (ih fun y member => each y (List.mem_cons_of_mem _ member))

theorem opening : Reads ['('] [.opening] := fun rest => by
  rw [List.singleton_append, ofChars, withoutComments_cons (by decide), scan]
  rfl

theorem closing : Reads [')'] [.closing] := fun rest => by
  rw [List.singleton_append, ofChars, withoutComments_cons (by decide), scan]
  rfl

theorem blank {c : Char} (isBlank : Text.isBlank c = true) : Reads [c] [] := fun rest => by
  have ends : isDelimiter c = true := isDelimiter_iff.mpr (.inr (.inr isBlank))
  rw [List.singleton_append, ofChars, withoutComments_cons (ne_semicolon_of_isDelimiter ends), scan,
    if_neg (by rintro rfl; exact absurd isBlank (by decide)),
    if_neg (by rintro rfl; exact absurd isBlank (by decide)), if_pos isBlank]
  rfl

/-- A word, and the character that ends it. -/
theorem word {cs : List Char} {c : Char} {tokens : List Token} (isWord : IsWord cs)
    (ends : isDelimiter c = true) (after : Reads [c] tokens) :
    Reads (cs ++ [c]) (.atom (String.ofList cs) :: tokens) := fun rest => by
  have next : ∀ d ∈ (c :: rest).head?, isDelimiter d = true := by simpa using ends
  rw [List.append_assoc, List.singleton_append, ofChars_word isWord next, List.cons_append]
  exact congrArg _ (after rest)

end Reads

end Token

/-! ### Expressions -/

namespace Sexpr

mutual

/-- In an open list, the tokens of an expression add it to the list. -/
theorem readWithin_tokens (items : List Sexpr) (stack : List (List Sexpr)) (rest : List Token) :
    ∀ item : Sexpr, readWithin (items :: stack) (item.tokens ++ rest) =
      readWithin ((item :: items) :: stack) rest
  | .atom text => rfl
  | .list inner => by
    rw [tokens, List.cons_append, readWithin, List.append_assoc, List.singleton_append,
      readWithin_tokensOfList [] (items :: stack) _ inner, readWithin, List.append_nil,
      List.reverse_reverse]

theorem readWithin_tokensOfList (items : List Sexpr) (stack : List (List Sexpr))
    (rest : List Token) : ∀ more : List Sexpr,
      readWithin (items :: stack) (tokensOfList more ++ rest) =
        readWithin ((more.reverse ++ items) :: stack) rest
  | [] => rfl
  | item :: more => by
    rw [tokensOfList, List.append_assoc, readWithin_tokens items stack _ item,
      readWithin_tokensOfList (item :: items) stack rest more, List.reverse_cons, List.append_assoc,
      List.singleton_append]

end

/-- The tokens of an expression are read as it, and what follows them is left. -/
theorem read_tokens (item : Sexpr) (rest : List Token) :
    readWithin [] (item.tokens ++ rest) = (.ok item, rest) := by
  cases item with
  | atom text => rfl
  | list items =>
    rw [tokens, List.cons_append, readWithin, List.append_assoc, List.singleton_append,
      readWithin_tokensOfList, readWithin, List.append_nil, List.reverse_reverse]

theorem tokensOfList_eq_flatMap (items : List Sexpr) :
    tokensOfList items = items.flatMap tokens := by
  induction items with
  | nil => rfl
  | cons item items ih => rw [tokensOfList, ih, List.flatMap_cons]

theorem tokens_ne_nil (item : Sexpr) : item.tokens ≠ [] := by
  cases item <;> simp [tokens]

theorem readAll_tokensOfList (items : List Sexpr) : readAll (tokensOfList items) = .ok items := by
  induction items with
  | nil => rw [tokensOfList, readAll]
  | cons item items ih =>
    obtain ⟨token, more, cut⟩ := List.exists_cons_of_ne_nil
      (List.append_ne_nil_of_left_ne_nil item.tokens_ne_nil (tokensOfList items))
    have read := read_tokens item (tokensOfList items)
    rw [cut] at read
    rw [tokensOfList, cut, readAll]
    split
    · rename_i fault left failed
      cases read.symm.trans failed
    · rename_i found left done
      cases read.symm.trans done
      rw [ih]
      rfl

/-- The tokens that have been read when these lists are open. -/
def tokensWithin : List (List Sexpr) → List Token
  | [] => []
  | items :: stack => tokensWithin stack ++ .opening :: tokensOfList items.reverse

theorem tokensWithin_cons (item : Sexpr) (items : List Sexpr) (stack : List (List Sexpr)) :
    tokensWithin ((item :: items) :: stack) = tokensWithin (items :: stack) ++ item.tokens := by
  simp [tokensWithin, tokensOfList_eq_flatMap]

/-- What comes of reading from all these tokens: an expression and the tokens after it, lists that
are still open when the tokens end, or a closing parenthesis with nothing open. -/
inductive Outcome (all : List Token) : Except SexprFault Sexpr × List Token → Prop where
  | read (item : Sexpr) (rest : List Token) (split : all = item.tokens ++ rest) :
    Outcome all (.ok item, rest)
  | unclosed (stack : List (List Sexpr)) (split : all = tokensWithin stack) :
    Outcome all (.error .unexpectedEnd, [])
  | overclosed (rest : List Token) (split : all = .closing :: rest) :
    Outcome all (.error .unexpectedClosing, rest)

-- From call to call a token moves from those to come to those that the open lists hold; all in all
-- they stay the same, so the last call decides.
theorem readWithin_outcome (stack : List (List Sexpr)) (tokens : List Token) :
    Outcome (tokensWithin stack ++ tokens) (readWithin stack tokens) := by
  fun_induction readWithin stack tokens with
  | case1 stack => exact .unclosed stack (List.append_nil _)
  | case2 stack tokens ih => simpa [tokensWithin, tokensOfList] using ih
  | case3 tokens => exact .overclosed tokens rfl
  | case4 text tokens => exact .read (.atom text) tokens rfl
  | case5 items tokens => exact .read _ tokens (by simp [tokensWithin, Sexpr.tokens])
  | case6 items outer stack tokens ih =>
    rw [tokensWithin_cons] at ih
    simpa [tokensWithin, Sexpr.tokens] using ih
  | case7 items stack text tokens ih =>
    rw [tokensWithin_cons] at ih
    simpa [Sexpr.tokens] using ih

/-- What has been read gives the tokens back. -/
theorem tokens_of_readWithin {tokens rest : List Token} {item : Sexpr}
    (read : readWithin [] tokens = (.ok item, rest)) : tokens = item.tokens ++ rest := by
  have outcome := readWithin_outcome [] tokens
  rw [read] at outcome
  cases outcome with
  | read _ _ split => exact split

/-- Expressions are read from their tokens alone. -/
theorem tokensOfList_of_readAll {tokens : List Token} {items : List Sexpr}
    (read : readAll tokens = .ok items) : tokensOfList items = tokens := by
  fun_induction readAll tokens generalizing items with
  | case1 =>
    cases read
    rfl
  | case2 => cases read
  | case3 token rest _ item left taken ih =>
    cases others : readAll left with
    | error fault =>
      rw [others] at read
      cases read
    | ok more =>
      rw [others] at read
      cases read
      rw [tokensOfList, ih others]
      exact (tokens_of_readWithin taken).symm

end Sexpr

end CodeMap.Mse
