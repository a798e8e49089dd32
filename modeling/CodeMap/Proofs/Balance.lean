/-
Balanced parentheses.

Tokens are balanced if no start of them has more closing parentheses than opening ones, and there
are as many of the one sort as of the other in all. Main statement: the expressions of a text can be
read exactly if its tokens are balanced, and they give the tokens back; otherwise a parenthesis is
closed too early or the tokens end too early, and the parentheses alone tell which
(`reading_decides_balance`). The tokens of a text can also be written with single spaces between
them, and are then read as they were (`tokens_spaced`).
-/

import CodeMap.Proofs.Reading

namespace CodeMap.Mse

/-! ### Balance -/

/-- Some start of the tokens has more closing parentheses than opening ones. -/
def Overclosed (tokens : List Token) : Prop :=
  ∃ start, start <+: tokens ∧ start.count .opening < start.count .closing

structure Balanced (tokens : List Token) : Prop where
  starts : ∀ start, start <+: tokens → start.count .closing ≤ start.count .opening
  totals : tokens.count .opening = tokens.count .closing

theorem not_overclosed_iff {tokens : List Token} :
    ¬ Overclosed tokens ↔
      ∀ start, start <+: tokens → start.count .closing ≤ start.count .opening := by
  simp [Overclosed]

theorem Balanced.not_overclosed {tokens : List Token} (balanced : Balanced tokens) :
    ¬ Overclosed tokens :=
  not_overclosed_iff.mpr balanced.starts

theorem not_overclosed_singleton {token : Token} (other : token ≠ .closing) :
    ¬ Overclosed [token] := by
  rw [not_overclosed_iff]
  intro start isStart
  have unclosed : start.count .closing = 0 := by
    refine List.count_eq_zero.mpr fun member => other ?_
    exact (List.mem_singleton.mp (isStart.subset member)).symm
  omega

theorem not_overclosed_append {first second : List Token} (h : ¬ Overclosed first)
    (h' : ¬ Overclosed second) : ¬ Overclosed (first ++ second) := by
  rw [not_overclosed_iff] at h h' ⊢
  intro start isStart
  rcases List.prefix_or_prefix_of_prefix isStart (List.prefix_append first second) with
    within | ⟨more, rfl⟩
  · exact h start within
  · have whole := h first List.prefix_rfl
    have rest := h' more ((List.prefix_append_right_inj first).mp isStart)
    rw [List.count_append, List.count_append]
    omega

namespace Balanced

theorem nil : Balanced [] := by
  refine ⟨fun start isStart => ?_, rfl⟩
  rw [List.prefix_nil.mp isStart]
  exact Nat.le_refl _

theorem atom (text : String) : Balanced [.atom text] :=
  ⟨not_overclosed_iff.mp (not_overclosed_singleton (by simp)), rfl⟩

theorem append {first second : List Token} (h : Balanced first) (h' : Balanced second) :
    Balanced (first ++ second) := by
  refine ⟨not_overclosed_iff.mp (not_overclosed_append h.not_overclosed h'.not_overclosed), ?_⟩
  rw [List.count_append, List.count_append, h.totals, h'.totals]

theorem enclosed {tokens : List Token} (balanced : Balanced tokens) :
    Balanced (.opening :: (tokens ++ [.closing])) := by
  have totals := balanced.totals
  refine ⟨fun start isStart => ?_, by simp [totals]⟩
  rcases List.prefix_cons_iff.mp isStart with rfl | ⟨rest, rfl, isRest⟩
  · exact Nat.le_refl _
  · rcases List.prefix_concat_iff.mp isRest with rfl | inside
    · simp [totals]
    · have fewer := balanced.starts rest inside
      rw [List.count_cons_self, List.count_cons_of_ne (by decide)]
      omega

/-- After balanced tokens the others count as if they stood alone. -/
theorem overclosed_append_iff {first : List Token} (balanced : Balanced first)
    (second : List Token) : Overclosed (first ++ second) ↔ Overclosed second := by
  constructor
  · intro overclosed
    exact Classical.byContradiction fun inOrder =>
      not_overclosed_append balanced.not_overclosed inOrder overclosed
  · rintro ⟨start, isStart, more⟩
    refine ⟨first ++ start, (List.prefix_append_right_inj first).mpr isStart, ?_⟩
    have totals := balanced.totals
    rw [List.count_append, List.count_append]
    omega

end Balanced

namespace Sexpr

mutual

theorem balanced_tokens : ∀ item : Sexpr, Balanced item.tokens
  | .atom text => .atom text
  | .list items => (balanced_tokensOfList items).enclosed

theorem balanced_tokensOfList : ∀ items : List Sexpr, Balanced (tokensOfList items)
  | [] => .nil
  | item :: items => (balanced_tokens item).append (balanced_tokensOfList items)

end

/-! ### Faults of reading -/

/-- Of the parentheses opened so far, those of the open lists are not closed. -/
theorem count_tokensWithin (stack : List (List Sexpr)) :
    (tokensWithin stack).count .opening = (tokensWithin stack).count .closing + stack.length := by
  induction stack with
  | nil => rfl
  | cons items stack ih =>
    have totals := (balanced_tokensOfList items.reverse).totals
    rw [tokensWithin, List.count_append, List.count_append, List.count_cons_self,
      List.count_cons_of_ne (by decide), List.length_cons]
    omega

theorem not_overclosed_tokensWithin (stack : List (List Sexpr)) :
    ¬ Overclosed (tokensWithin stack) := by
  induction stack with
  | nil => exact Balanced.nil.not_overclosed
  | cons items stack ih =>
    have opening : ¬ Overclosed [.opening] := not_overclosed_singleton (by decide)
    have inner := (balanced_tokensOfList items.reverse).not_overclosed
    exact not_overclosed_append ih (not_overclosed_append opening inner)

/-- Reading stops at the first expression that cannot be read. -/
theorem exists_of_readAll_error {tokens : List Token} {fault : SexprFault}
    (stopped : readAll tokens = .error fault) :
    ∃ items left rest, tokens = tokensOfList items ++ left ∧ left ≠ [] ∧
      readWithin [] left = (.error fault, rest) := by
  fun_induction readAll tokens with
  | case1 => cases stopped
  | case2 token rest _ _ left failed =>
    cases stopped
    exact ⟨[], token :: rest, left, rfl, List.cons_ne_nil _ _, failed⟩
  | case3 token rest _ item left taken ih =>
    cases others : readAll left with
    | ok more =>
      rw [others] at stopped
      cases stopped
    | error fault' =>
      rw [others] at stopped
      cases stopped
      obtain ⟨items, unread, beyond, rfl, nonempty, failed⟩ := ih others
      refine ⟨item :: items, unread, beyond, ?_, nonempty, failed⟩
      rw [tokensOfList, List.append_assoc]
      exact tokens_of_readWithin taken

theorem overclosed_of_readAll {tokens : List Token}
    (stopped : readAll tokens = .error .unexpectedClosing) : Overclosed tokens := by
  obtain ⟨items, left, rest, rfl, -, failed⟩ := exists_of_readAll_error stopped
  have outcome := readWithin_outcome [] left
  rw [failed] at outcome
  cases outcome with
  | overclosed _ split =>
    rw [(balanced_tokensOfList items).overclosed_append_iff]
    exact ⟨[.closing], ⟨rest, split.symm⟩, by decide⟩

theorem unclosed_of_readAll {tokens : List Token}
    (stopped : readAll tokens = .error .unexpectedEnd) :
    ¬ Overclosed tokens ∧ tokens.count .closing < tokens.count .opening := by
  obtain ⟨items, left, rest, rfl, nonempty, failed⟩ := exists_of_readAll_error stopped
  have outcome := readWithin_outcome [] left
  rw [failed] at outcome
  cases outcome with
  | unclosed stack split =>
    change left = tokensWithin stack at split
    have before := balanced_tokensOfList items
    have isOpen : stack.length ≠ 0 := by
      intro closed
      rw [split, List.length_eq_zero_iff.mp closed] at nonempty
      exact nonempty rfl
    rw [split]
    constructor
    · exact not_overclosed_append before.not_overclosed (not_overclosed_tokensWithin stack)
    · have totals := before.totals
      have more := count_tokensWithin stack
      rw [List.count_append, List.count_append]
      omega

theorem balanced_of_readAll {tokens : List Token} {items : List Sexpr}
    (read : readAll tokens = .ok items) : Balanced tokens := by
  rw [← tokensOfList_of_readAll read]
  exact balanced_tokensOfList items

-- Reading ends in one of three ways, and the three conditions exclude each other.

theorem exists_readAll_iff (tokens : List Token) :
    (∃ items, readAll tokens = .ok items) ↔ Balanced tokens := by
  constructor
  · rintro ⟨items, read⟩
    exact balanced_of_readAll read
  · intro balanced
    cases read : readAll tokens with
    | ok items => exact ⟨items, rfl⟩
    | error fault =>
      cases fault with
      | unexpectedClosing => exact absurd (overclosed_of_readAll read) balanced.not_overclosed
      | unexpectedEnd =>
        have more := (unclosed_of_readAll read).2
        have totals := balanced.totals
        omega

theorem readAll_eq_unexpectedClosing_iff (tokens : List Token) :
    readAll tokens = .error .unexpectedClosing ↔ Overclosed tokens := by
  refine ⟨overclosed_of_readAll, fun overclosed => ?_⟩
  cases read : readAll tokens with
  | ok items => exact absurd overclosed (balanced_of_readAll read).not_overclosed
  | error fault =>
    cases fault with
    | unexpectedClosing => rfl
    | unexpectedEnd => exact absurd overclosed (unclosed_of_readAll read).1

theorem readAll_eq_unexpectedEnd_iff (tokens : List Token) :
    readAll tokens = .error .unexpectedEnd ↔ ¬ Balanced tokens ∧ ¬ Overclosed tokens := by
  constructor
  · intro stopped
    obtain ⟨inOrder, more⟩ := unclosed_of_readAll stopped
    refine ⟨fun balanced => ?_, inOrder⟩
    have totals := balanced.totals
    omega
  · rintro ⟨unbalanced, inOrder⟩
    cases read : readAll tokens with
    | ok items => exact absurd (balanced_of_readAll read) unbalanced
    | error fault =>
      cases fault with
      | unexpectedClosing => exact absurd (overclosed_of_readAll read) inOrder
      | unexpectedEnd => rfl

end Sexpr

/-- Faults are told apart by their messages. -/
theorem exists_error_iff {α : Type} {result : Except SexprFault α} (fault : SexprFault) :
    (∃ other, result = .error other ∧ other.message = fault.message) ↔ result = .error fault := by
  constructor
  · rintro ⟨other, stopped, same⟩
    have isFault : other = fault := by
      cases other <;> cases fault
      · rfl
      · exact absurd same (by decide)
      · exact absurd same (by decide)
      · rfl
    rw [stopped, isFault]
  · intro stopped
    exact ⟨fault, stopped, rfl⟩

/-! ### Tokens with spaces between them -/

/-- The tokens with single spaces between them. -/
def spaced (tokens : List Token) : String :=
  " ".intercalate (tokens.map Token.text)

namespace Token

/-- The token can be read: it is a parenthesis or a word. -/
def Readable : Token → Prop
  | .atom text => IsWord text.toList
  | _ => True

theorem readable_of_mem_ofChars {cs : List Char} :
    ∀ token ∈ ofChars cs, token.Readable
  | .opening, _ => trivial
  | .closing, _ => trivial
  | .atom _, member => isWord_of_mem_ofChars member

/-- A token is read where it ends the text and where a space follows it. -/
theorem Readable.ofChars_text {token : Token} (readable : token.Readable) {rest : List Char}
    (follows : ∀ c ∈ rest.head?, c = ' ') :
    ofChars (token.text.toList ++ rest) = token :: ofChars rest := by
  cases token with
  | opening => exact Reads.opening rest
  | closing => exact Reads.closing rest
  | atom text =>
    have ends : ∀ c ∈ rest.head?, isDelimiter c = true := by
      intro c next
      rw [follows c next]
      decide
    have read := ofChars_word readable ends
    rwa [String.ofList_toList] at read

theorem ofChars_spaced {tokens : List Token} (readable : ∀ token ∈ tokens, token.Readable) :
    ofChars (spaced tokens).toList = tokens := by
  induction tokens with
  | nil => rfl
  | cons token tokens ih =>
    have own := readable token List.mem_cons_self
    have others := ih fun other member => readable other (List.mem_cons_of_mem _ member)
    cases tokens with
    | nil =>
      have read : ofChars (token.text.toList ++ []) = [token] := own.ofChars_text (by simp)
      simpa [spaced] using read
    | cons next tokens =>
      have space : Reads [' '] [] := .blank (by decide)
      have written : (spaced (token :: next :: tokens)).toList =
          token.text.toList ++ ([' '] ++ (spaced (next :: tokens)).toList) := by
        simp [spaced, String.intercalate_cons_cons]
      rw [written, own.ofChars_text (by simp), space, List.nil_append, others]

end Token

theorem tokens_spaced (text : String) : tokens (spaced (tokens text)) = tokens text :=
  Token.ofChars_spaced Token.readable_of_mem_ofChars

/-! ### Reading a text -/

/-- The parentheses of a text decide whether its expressions can be read, and what the fault is if
they cannot. All that is read can be written back. -/
theorem reading_decides_balance (text : String) :
    ((∃ items, sexprs text = .ok items) ↔ Balanced (tokens text)) ∧
      (∀ items, sexprs text = .ok items ↔ Sexpr.tokensOfList items = tokens text) ∧
      ((∃ fault, sexprs text = .error fault ∧ fault.message = "Unexpected )") ↔
        Overclosed (tokens text)) ∧
      ((∃ fault, sexprs text = .error fault ∧ fault.message = "Unexpected EOF while reading") ↔
        ¬ Balanced (tokens text) ∧ ¬ Overclosed (tokens text)) ∧
      tokens (spaced (tokens text)) = tokens text := by
  refine ⟨Sexpr.exists_readAll_iff _, fun items => ⟨Sexpr.tokensOfList_of_readAll, ?_⟩, ?_, ?_,
    tokens_spaced text⟩
  · intro written
    rw [sexprs, ← written, Sexpr.readAll_tokensOfList]
  · rw [← Sexpr.readAll_eq_unexpectedClosing_iff]
    exact exists_error_iff .unexpectedClosing
  · rw [← Sexpr.readAll_eq_unexpectedEnd_iff]
    exact exists_error_iff .unexpectedEnd

end CodeMap.Mse
