/-
Blanks at the ends of a text, and the lines that it is made of.

What `trimBy` leaves is told by the characters that it does not drop: the first of them starts the
result (`Text.head?_trimBy`), and all of them are kept (`Text.mem_trimBy_iff`). A line of a text is
a stretch between two line breaks, where carriage returns and line feeds are breaks alike
(`Text.IsLine`). Main statement: apart from empty lines, the lines that are read are the stretches
between the breaks, in their order (`Text.filter_lines_unifyLineEnds`).
-/

import CodeMap.Text.Blank
import CodeMap.Text.Lines
import Mathlib.Data.List.TakeWhile
import Mathlib.Tactic.SplitIfs

namespace CodeMap.Text

/-! ### Blanks at the ends -/

section Trimming

variable {drop : Char → Bool} {cs before after : List Char} {c : Char}

theorem dropWhile_of_head? (start : ∀ c ∈ cs.head?, drop c = false) : cs.dropWhile drop = cs := by
  cases cs with
  | nil => rfl
  | cons c cs => rw [List.dropWhile_cons, start c rfl, if_neg Bool.false_ne_true]

/-- Nothing is dropped from a character on that is kept. -/
theorem dropWhile_append_kept (kept : drop c = false) (before after : List Char) :
    (before ++ c :: after).dropWhile drop = before.dropWhile drop ++ c :: after := by
  rw [List.dropWhile_append, List.dropWhile_cons, kept, if_neg Bool.false_ne_true]
  split_ifs with nothing
  · rw [List.isEmpty_iff.mp nothing, List.nil_append]
  · rfl

theorem trimBy_of_ends (start : ∀ c ∈ cs.head?, drop c = false)
    (finish : ∀ c ∈ cs.getLast?, drop c = false) : trimBy drop cs = cs := by
  rw [trimBy, dropWhile_of_head? start, dropWhile_of_head?, List.reverse_reverse]
  rwa [List.head?_reverse]

/-- What is dropped may stand in front of a text and after it. -/
theorem trimBy_between (front : ∀ c ∈ before, drop c = true) (back : ∀ c ∈ after, drop c = true) :
    trimBy drop (before ++ cs ++ after) = trimBy drop cs := by
  rw [trimBy, trimBy, List.append_assoc, List.dropWhile_append_of_pos front, List.dropWhile_append]
  split_ifs with nothing
  · rw [List.isEmpty_iff.mp nothing, List.dropWhile_eq_nil_iff.mpr back]
  · rw [List.reverse_append, List.dropWhile_append_of_pos]
    exact fun c member => back c (List.mem_reverse.mp member)

theorem trimBy_dropWhile : trimBy drop (cs.dropWhile drop) = trimBy drop cs := by
  have front : ∀ c ∈ cs.takeWhile drop, drop c = true := fun c member =>
    List.mem_takeWhile_imp member
  calc trimBy drop (cs.dropWhile drop)
      = trimBy drop (cs.takeWhile drop ++ cs.dropWhile drop ++ []) :=
        (trimBy_between front (List.forall_mem_nil _)).symm
    _ = trimBy drop cs := by rw [List.append_nil, List.takeWhile_append_dropWhile]

theorem trimBy_dropWhile_back :
    trimBy drop (cs.reverse.dropWhile drop).reverse = trimBy drop cs := by
  have back : ∀ c ∈ (cs.reverse.takeWhile drop).reverse, drop c = true := fun c member =>
    List.mem_takeWhile_imp (List.mem_reverse.mp member)
  calc trimBy drop (cs.reverse.dropWhile drop).reverse
      = trimBy drop ([] ++ (cs.reverse.dropWhile drop).reverse ++
          (cs.reverse.takeWhile drop).reverse) :=
        (trimBy_between (List.forall_mem_nil _) back).symm
    _ = trimBy drop cs := by
      rw [List.nil_append, ← List.reverse_append, List.takeWhile_append_dropWhile,
        List.reverse_reverse]

/-- A character that is kept divides a text into two that are cut at one end each. -/
theorem trimBy_append_kept (kept : drop c = false) (before after : List Char) :
    trimBy drop (before ++ c :: after) =
      before.dropWhile drop ++ c :: (after.reverse.dropWhile drop).reverse := by
  rw [trimBy, dropWhile_append_kept kept, List.reverse_append, List.reverse_cons,
    List.append_assoc, List.singleton_append, dropWhile_append_kept kept]
  simp

theorem head?_trimBy (drop : Char → Bool) (cs : List Char) :
    (trimBy drop cs).head? = cs.find? (!drop ·) := by
  cases found : cs.find? (!drop ·) with
  | none =>
    have all : ∀ c ∈ cs, drop c = true := by simpa using found
    rw [trimBy, List.dropWhile_eq_nil_iff.mpr all]
    rfl
  | some c =>
    obtain ⟨kept, before, after, rfl, front⟩ := List.find?_eq_some_iff_append.mp found
    have front : ∀ d ∈ before, drop d = true := by simpa using front
    rw [trimBy_append_kept (by simpa using kept), List.dropWhile_eq_nil_iff.mpr front]
    rfl

theorem mem_trimBy_iff (kept : drop c = false) : c ∈ trimBy drop cs ↔ c ∈ cs := by
  constructor
  · intro member
    have inner := (List.dropWhile_suffix _).subset (List.mem_reverse.mp member)
    exact (List.dropWhile_suffix _).subset (List.mem_reverse.mp inner)
  · intro member
    obtain ⟨before, after, rfl⟩ := List.append_of_mem member
    rw [trimBy_append_kept kept]
    exact List.mem_append_right _ List.mem_cons_self

end Trimming

/-! ### Line breaks -/

/-- The character breaks a line. -/
def isBreak (c : Char) : Bool :=
  c = '\n' || c = '\r'

/-- The text has no line break in it. -/
def Unbroken (cs : List Char) : Prop := ∀ c ∈ cs, isBreak c = false

/-- Decided along the text, not over all characters. -/
instance (cs : List Char) : Decidable (Unbroken cs) := List.decidableBAll _ cs

/-- A line of a text: a stretch that has no break in it, between two breaks or ends of the text.
Between the two characters of a double break stands an empty line. -/
structure IsLine (cs line : List Char) : Prop where
  unbroken : Unbroken line
  between : ∃ before after, cs = before ++ line ++ after ∧
    (∀ c ∈ before.getLast?, isBreak c = true) ∧ ∀ c ∈ after.head?, isBreak c = true

theorem unifyLineEnds_of_not_mem {cs : List Char} (noReturn : '\r' ∉ cs) :
    unifyLineEnds cs = cs := by
  fun_induction unifyLineEnds cs with
  | case1 => rfl
  | case2 rest ih => exact absurd List.mem_cons_self noReturn
  | case3 c rest _ ih =>
    rw [ih fun later => noReturn (List.mem_cons_of_mem _ later), if_neg]
    rintro rfl
    exact noReturn List.mem_cons_self

section Breaks

variable {cs line rest : List Char} {c : Char}

theorem Unbroken.append (first : Unbroken cs) (second : Unbroken rest) : Unbroken (cs ++ rest) :=
  List.forall_mem_append.mpr ⟨first, second⟩

theorem Unbroken.cons (own : isBreak c = false) (later : Unbroken cs) : Unbroken (c :: cs) :=
  List.forall_mem_cons.mpr ⟨own, later⟩

theorem isBreak_iff : isBreak c = true ↔ c = '\n' ∨ c = '\r' := by
  simp [isBreak]

/-- A text is a single line, or it is a line, a break and a text after it. -/
theorem line_induction {motive : List Char → Prop} (last : ∀ line, Unbroken line → motive line)
    (next : ∀ line c rest, Unbroken line → isBreak c = true → motive rest →
      motive (line ++ c :: rest)) (cs : List Char) : motive cs := by
  induction size : cs.length using Nat.strong_induction_on generalizing cs with
  | h n shorter =>
    cases found : cs.find? isBreak with
    | none =>
      exact last cs fun c member => Bool.eq_false_iff.mpr (List.find?_eq_none.mp found c member)
    | some c =>
      obtain ⟨breaks, line, rest, rfl, unbroken⟩ := List.find?_eq_some_iff_append.mp found
      have unbroken : Unbroken line := by simpa [Unbroken] using unbroken
      refine next line c rest unbroken breaks (shorter rest.length ?_ rest rfl)
      rw [← size, List.length_append, List.length_cons]
      omega

theorem mem_splitOnP_iff : line ∈ cs.splitOnP isBreak ↔ IsLine cs line := by
  constructor
  · intro member
    induction cs using line_induction with
    | last cs unbroken =>
      rw [List.splitOnP_eq_singleton unbroken, List.mem_singleton] at member
      subst member
      exact ⟨unbroken, [], [], by simp, by simp, by simp⟩
    | next first c rest unbroken breaks ih =>
      rw [List.splitOnP_append_cons_of_forall_mem unbroken c breaks, List.mem_cons] at member
      rcases member with rfl | later
      · exact ⟨unbroken, [], c :: rest, by simp, by simp, by simpa using breaks⟩
      · obtain ⟨own, before, after, rfl, front, back⟩ := ih later
        refine ⟨own, first ++ c :: before, after, by simp, fun d ends => ?_, back⟩
        rw [List.getLast?_append, List.getLast?_cons, Option.some_or, Option.mem_some] at ends
        cases final : before.getLast? with
        | none => simpa [final, ← ends] using breaks
        | some e => exact front d (by simpa [final] using ends)
  · rintro ⟨unbroken, before, after, rfl, front, back⟩
    have own : line ∈ (line ++ after).splitOnP isBreak := by
      cases after with
      | nil => simp [List.splitOnP_eq_singleton unbroken]
      | cons c after =>
        rw [List.splitOnP_append_cons_of_forall_mem unbroken c (back c rfl)]
        exact List.mem_cons_self
    rcases List.eq_nil_or_concat before with rfl | ⟨before, c, rfl⟩
    · exact own
    · have breaks : isBreak c = true := front c (by simp)
      rw [List.concat_eq_append, List.append_assoc, List.append_assoc, List.singleton_append,
        List.splitOnP_append_cons _ _ breaks]
      exact List.mem_append_right _ own

/-! ### The lines that are read -/

theorem splitAt_eq_splitOnP (mark : Char) (cs : List Char) :
    splitAt mark cs = cs.splitOnP (· = mark) := by
  induction cs with
  | nil => rfl
  | cons c cs ih =>
    obtain ⟨part, parts, pieces⟩ :=
      List.exists_cons_of_ne_nil (List.splitOnP_ne_nil (· = mark) cs)
    rw [splitAt, ih, List.splitOnP_cons_eq_if_modifyHead, pieces]
    by_cases h : c = mark <;> simp [h]

variable {telling : List Char → Bool}

/-- The line that a final break leaves open is empty. -/
theorem filter_lines (empty : telling [] = false) (cs : List Char) :
    (lines cs).filter telling = (cs.splitOnP (· = '\n')).filter telling := by
  rcases List.eq_nil_or_concat cs with rfl | ⟨cs, c, rfl⟩
  · simp [lines, empty]
  · rw [List.concat_eq_append, lines, List.getLast?_concat, splitAt_eq_splitOnP]
    split
    · rename_i final
      cases final
      rw [List.splitOnP_append_cons _ _ (by simp)]
      simp [empty]
    · rfl
    · rename_i final
      cases final

theorem unifyLineEnds_append (unbroken : Unbroken line) (rest : List Char) :
    unifyLineEnds (line ++ rest) = line ++ unifyLineEnds rest := by
  induction line with
  | nil => rfl
  | cons c line ih =>
    have ordinary : c ≠ '\r' := by
      rintro rfl
      exact absurd (unbroken '\r' List.mem_cons_self) (by decide)
    have later := ih fun d member => unbroken d (List.mem_cons_of_mem _ member)
    rw [List.cons_append, List.cons_append, unifyLineEnds, if_neg ordinary, later]
    exact fun _ same => absurd same ordinary

/-- A break becomes a line feed, and takes a line feed after it along or not. -/
theorem unifyLineEnds_break (breaks : isBreak c = true) (rest : List Char) :
    ∃ later, unifyLineEnds (c :: rest) = '\n' :: unifyLineEnds later ∧
      (rest = later ∨ rest = '\n' :: later) := by
  rcases isBreak_iff.mp breaks with rfl | rfl
  · exact ⟨rest, by simp [unifyLineEnds], .inl rfl⟩
  · by_cases double : ∃ later, rest = '\n' :: later
    · obtain ⟨later, rfl⟩ := double
      exact ⟨later, by rw [unifyLineEnds], .inr rfl⟩
    · refine ⟨rest, ?_, .inl rfl⟩
      rw [unifyLineEnds, if_pos rfl]
      exact fun later _ same => double ⟨later, same⟩

/-- A double break is read as one, which leaves out an empty line and nothing else. -/
theorem filter_splitOnP_unifyLineEnds (empty : telling [] = false) (cs : List Char) :
    ((unifyLineEnds cs).splitOnP (· = '\n')).filter telling =
      (cs.splitOnP isBreak).filter telling := by
  have noFeed {line : List Char} (unbroken : Unbroken line) :
      ∀ c ∈ line, decide (c = '\n') = false := by
    intro c member
    have : isBreak c = false := unbroken c member
    simp_all [isBreak]
  induction cs using line_induction with
  | last line unbroken =>
    rw [← List.append_nil line, unifyLineEnds_append unbroken, unifyLineEnds, List.append_nil,
      List.splitOnP_eq_singleton (noFeed unbroken), List.splitOnP_eq_singleton unbroken]
  | next line c rest unbroken breaks ih =>
    obtain ⟨later, read, rest_eq⟩ := unifyLineEnds_break breaks rest
    -- The line feed of a double break is gone in `later`, so only `rest` has an empty line for it.
    have same : ((unifyLineEnds later).splitOnP (· = '\n')).filter telling =
        ((unifyLineEnds rest).splitOnP (· = '\n')).filter telling := by
      rcases rest_eq with rfl | rfl
      · rfl
      · simp [unifyLineEnds, List.splitOnP_cons_eq_if_modifyHead, empty]
    rw [unifyLineEnds_append unbroken, read,
      List.splitOnP_append_cons_of_forall_mem (noFeed unbroken) _ (by simp),
      List.splitOnP_append_cons_of_forall_mem unbroken c breaks, List.filter_cons,
      List.filter_cons, same, ih]

/-- Apart from empty lines, the lines that are read are the stretches between the breaks. -/
theorem filter_lines_unifyLineEnds (empty : telling [] = false) (cs : List Char) :
    (lines (unifyLineEnds cs)).filter telling = (cs.splitOnP isBreak).filter telling := by
  rw [filter_lines empty, filter_splitOnP_unifyLineEnds empty]

end Breaks

end CodeMap.Text
