/-
Plain texts: those that a model file can hold.

What is put together from plain texts with full stops, slashes and colons between them is plain, and
so are the parts of a plain text. Identifiers are plain, since no character of an identifier ends a
word (`Source.Identifier.plain`). Main statement: the names and the paths of the files of a project
are plain if the names of its folders and files are (`Desk.project_plain`,
`Project.Plain.readFiles`).
-/

import CodeMap.Proofs.Contents
import CodeMap.Proofs.Runs

namespace CodeMap

open Source

/-! ### Joining plain texts -/

namespace Mse

/-- A character that can stand between plain texts. -/
def joins (c : Char) : Bool :=
  !Token.isDelimiter c && c ≠ ';'

theorem joins_iff {c : Char} : joins c = true ↔ Token.isDelimiter c = false ∧ c ≠ ';' := by
  simp [joins]

theorem uncommented_joined {xs ys : List Char} {mark : Char} (ordinary : mark ≠ ';')
    (first : ¬ [';', ';'] <:+: xs) (second : ¬ [';', ';'] <:+: ys) :
    ¬ [';', ';'] <:+: xs ++ mark :: ys := by
  induction xs with
  | nil => exact Token.uncommented_cons second fun same => absurd same ordinary
  | cons c xs ih =>
    have later : ¬ [';', ';'] <:+: xs := fun comment => first (List.infix_cons comment)
    refine Token.uncommented_cons (ih later) ?_
    rintro rfl next
    cases xs with
    | nil => exact ordinary (Option.some.inj next)
    | cons d xs =>
      cases Option.some.inj next
      exact first ⟨[], xs, rfl⟩

namespace Plain

variable {text start rest : String}

theorem empty : Plain "" := by decide

theorem part_of {part : String} (plain : Plain text) (inside : part.toList <:+: text.toList) :
    Plain part where
  undelimited c member := plain.undelimited c (inside.subset member)
  uncommented comment := plain.uncommented (comment.trans inside)

theorem of_joins (all : ∀ c ∈ text.toList, joins c = true) : Plain text where
  undelimited c member := (joins_iff.mp (all c member)).1
  uncommented comment := by
    have semicolon : ';' ∈ text.toList := comment.subset List.mem_cons_self
    exact (joins_iff.mp (all ';' semicolon)).2 rfl

theorem number (n : Nat) : Plain (toString n) :=
  ⟨(isWord_toString n).undelimited, (isWord_toString n).uncommented⟩

/-- Two plain texts with a character between them. -/
theorem joined (mark : Char) (isMark : joins mark = true) (first : Plain start)
    (second : Plain rest) (split : text.toList = start.toList ++ mark :: rest.toList) :
    Plain text := by
  obtain ⟨undelimited, ordinary⟩ := joins_iff.mp isMark
  constructor
  · intro c member
    rw [split, List.mem_append, List.mem_cons] at member
    rcases member with before | rfl | after
    · exact first.undelimited c before
    · exact undelimited
    · exact second.undelimited c after
  · rw [split]
    exact uncommented_joined ordinary first.uncommented second.uncommented

theorem dot (first : Plain start) (second : Plain rest) : Plain (start ++ "." ++ rest) :=
  .joined '.' (by decide) first second (by simp)

theorem slash (first : Plain start) (second : Plain rest) : Plain (start ++ "/" ++ rest) :=
  .joined '/' (by decide) first second (by simp)

theorem colon (first : Plain start) (second : Plain rest) : Plain (start ++ ":" ++ rest) :=
  .joined ':' (by decide) first second (by simp)

theorem intercalate {between : String}
    (join : ∀ {start rest}, Plain start → Plain rest → Plain (start ++ between ++ rest))
    {parts : List String} (all : ∀ part ∈ parts, Plain part) :
    Plain (between.intercalate parts) := by
  induction parts with
  | nil => simpa using empty
  | cons part parts ih =>
    have first := all part List.mem_cons_self
    have others := ih fun other member => all other (List.mem_cons_of_mem _ member)
    cases parts with
    | nil => simpa using first
    | cons next parts =>
      rw [String.intercalate_cons_cons]
      exact join first others

/-- Other characters for some, if none of them comes to end a word or to open a comment. -/
theorem map {f : Char → Char} (plain : Plain text)
    (kept : ∀ c, Token.isDelimiter c = false → Token.isDelimiter (f c) = false)
    (semicolon : ∀ c, f c = ';' → c = ';') : Plain (text.map f) := by
  constructor
  · intro c member
    rw [String.toList_map] at member
    obtain ⟨d, inside, rfl⟩ := List.mem_map.mp member
    exact kept d (plain.undelimited d inside)
  · rintro ⟨before, after, same⟩
    rw [String.toList_map] at same
    obtain ⟨outer, last, whole, comment, -⟩ := List.append_eq_map_iff.mp same
    obtain ⟨first, pair, split, -, twice⟩ := List.map_eq_append_iff.mp comment
    simp only [List.map_eq_cons_iff, List.map_eq_nil_iff] at twice
    obtain ⟨c, -, rfl, isFirst, d, -, rfl, isSecond, rfl⟩ := twice
    refine plain.uncommented ⟨first, last, ?_⟩
    rw [whole, split, semicolon c isFirst, semicolon d isSecond]

end Plain

end Mse

/-! ### Identifiers -/

namespace Text

/-- No code point lies in ranges of both tables. -/
def CharRanges.apart (ranges others : CharRanges) : Bool :=
  ranges.all fun range => others.all fun other => range.2 < other.1 || other.2 < range.1

theorem CharRanges.not_holds_of_apart {ranges others : CharRanges}
    (apart : ranges.apart others = true) {c : Char} (held : ranges.holds c = true) :
    others.holds c = false := by
  obtain ⟨range, member, low, high⟩ := holds_iff.mp held
  refine Bool.eq_false_iff.mpr fun both => ?_
  obtain ⟨other, member', low', high'⟩ := holds_iff.mp both
  simp only [CharRanges.apart, List.all_eq_true, Bool.or_eq_true, decide_eq_true_eq] at apart
  have := apart range member other member'
  omega

end Text

namespace Mse

/-- The parentheses, the semicolon and the blanks. -/
def barredRanges : Text.CharRanges :=
  (0x28, 0x29) :: (0x3B, 0x3B) :: Text.blankRanges

theorem joins_of_not_barred {c : Char} (free : barredRanges.holds c = false) :
    joins c = true := by
  have barred {c : Char} (h : joins c = false) : barredRanges.holds c = true := by
    rw [← Bool.not_eq_true, joins_iff, not_and_or, Bool.not_eq_false, not_not,
      Token.isDelimiter_iff] at h
    rcases h with (rfl | rfl | blank) | rfl
    · decide
    · decide
    · obtain ⟨range, member, within⟩ := Text.CharRanges.holds_iff.mp blank
      refine Text.CharRanges.holds_iff.mpr ⟨range, ?_, within⟩
      exact List.mem_cons_of_mem _ (List.mem_cons_of_mem _ member)
    · decide
  cases h : joins c with
  | true => rfl
  | false => rw [barred h] at free; exact free.symm

theorem joins_of_continuesIdentifier {c : Char} (h : Text.continuesIdentifier c = true) :
    joins c = true := by
  refine joins_of_not_barred ?_
  have letters : Text.letterRanges.apart barredRanges = true := by decide +kernel
  have marks : Text.letterMarkRanges.apart barredRanges = true := by decide +kernel
  rw [Text.continuesIdentifier, Bool.or_eq_true] at h
  rcases h with letter | mark
  · exact Text.CharRanges.not_holds_of_apart letters letter
  · exact Text.CharRanges.not_holds_of_apart marks mark

end Mse

namespace Source

theorem Identifier.continues (id : Identifier) {c : Char} (member : c ∈ id.text.toList) :
    Text.continuesIdentifier c = true := by
  have valid := id.valid
  cases whole : id.text.toList with
  | nil => simp [whole] at member
  | cons first rest =>
    rw [whole] at valid member
    simp only [isIdentifier, Bool.and_eq_true, List.all_eq_true] at valid
    rcases List.mem_cons.mp member with rfl | later
    · rw [Text.continuesIdentifier, Bool.or_eq_true]
      exact .inl valid.1
    · exact valid.2 c later

theorem Identifier.plain (id : Identifier) : Mse.Plain id.text :=
  .of_joins fun _ member => Mse.joins_of_continuesIdentifier (id.continues member)

theorem plain_dotted (ids : List Identifier) :
    Mse.Plain (".".intercalate (ids.map (·.text))) := by
  refine .intercalate .dot fun part member => ?_
  obtain ⟨id, -, rfl⟩ := List.mem_map.mp member
  exact id.plain

theorem DottedName.plain (name : DottedName) : Mse.Plain name.text :=
  plain_dotted (name.first :: name.others)

theorem Alias.plain_name (entry : Alias) : Mse.Plain entry.name := by
  unfold Alias.name
  cases entry.imported with
  | dotted name => exact name.plain
  | all => decide

end Source

theorem Text.Dotted.plain_afterFirst {name : String} (plain : Mse.Plain name) :
    Mse.Plain (afterFirst name) := by
  refine plain.part_of ?_
  rw [afterFirst, String.toList_ofList]
  exact ((List.drop_suffix 1 _).trans (List.dropWhile_suffix _)).isInfix

theorem Usage.plain_dottedName? {tree : Tree} {name : String}
    (spelled : dottedName? tree = some name) : Mse.Plain name := by
  obtain ⟨ids, -, rfl⟩ := Option.map_eq_some_iff.mp spelled
  exact plain_dotted ids.reverse

theorem Usage.plain_externalMark {name : String} (plain : Mse.Plain name) :
    Mse.Plain (externalMark ++ name) := by
  have mark : Mse.Plain "extP2S" := by decide
  exact .joined '.' (by decide) mark plain (by simp [externalMark])

/-! ### Paths -/

theorem Text.infix_of_mem_splitAt {mark : Char} {cs part : List Char}
    (member : part ∈ splitAt mark cs) : part <:+: cs := by
  -- The first part stands at the start, so one more character goes on with it.
  suffices both : (∀ part ∈ splitAt mark cs, part <:+: cs) ∧
      ∀ part ∈ (splitAt mark cs).head?, part <+: cs from both.1 part member
  clear member
  induction cs with
  | nil => simp [splitAt]
  | cons c cs ih =>
    obtain ⟨inside, start⟩ := ih
    rw [splitAt]
    cases found : splitAt mark cs with
    | nil =>
      have alone : [c] <+: c :: cs := ⟨cs, rfl⟩
      simp [alone.isInfix]
    | cons first others =>
      rw [found] at inside start
      have begins : c :: first <+: c :: cs := List.cons_prefix_cons.mpr ⟨rfl, start first rfl⟩
      dsimp only
      split
      · refine ⟨fun part member => ?_, by simp⟩
        rcases List.mem_cons.mp member with rfl | later
        · exact List.nil_infix
        · exact List.infix_cons (inside part later)
      · refine ⟨fun part member => ?_, ?_⟩
        · rcases List.mem_cons.mp member with rfl | later
          · exact begins.isInfix
          · exact List.infix_cons (inside part (List.mem_cons_of_mem _ later))
        · rintro part ⟨⟩
          exact begins

namespace Path

variable {path : String}

theorem plain_part (plain : Mse.Plain path) {part : String} (member : part ∈ parts path) :
    Mse.Plain part := by
  obtain ⟨cs, isPart, rfl⟩ := List.mem_map.mp member
  refine plain.part_of ?_
  rw [String.toList_ofList]
  exact Text.infix_of_mem_splitAt isPart

theorem plain_name (plain : Mse.Plain path) : Mse.Plain (name path) := by
  unfold name
  cases last : (parts path).getLast? with
  | none => exact .empty
  | some part => exact plain_part plain (List.mem_of_getLast? last)

theorem plain_lead {rest : String} (plain : Mse.Plain rest) : Mse.Plain (lead path ++ rest) := by
  have slash : Mse.Plain ("/" ++ rest) := .joined '/' (by decide) .empty plain (by simp)
  unfold lead
  split
  · exact slash
  · exact .joined '/' (by decide) .empty slash (by simp)
  · exact slash
  · simpa using plain

theorem plain_advance {absolute : Bool} {trail : List String} {part : String}
    (plain : ∀ part ∈ trail, Mse.Plain part) (own : Mse.Plain part) :
    ∀ other ∈ advance absolute trail part, Mse.Plain other := by
  have grown : ∀ other ∈ part :: trail, Mse.Plain other := by simpa [own] using plain
  unfold advance
  split
  · exact plain
  split
  · split
    · cases absolute with
      | true => simp
      | false => simpa using own
    · split
      · exact grown
      · exact fun other member => plain other (List.mem_cons_of_mem _ member)
  · exact grown

theorem plain_normal (plain : Mse.Plain path) : Mse.Plain (normal path) := by
  have kept : ∀ part ∈ (parts path).foldl (advance (lead path ≠ "")) [], Mse.Plain part := by
    refine List.foldlRecOn (motive := fun trail => ∀ part ∈ trail, Mse.Plain part) _ _ ?_ ?_
    · simp
    · exact fun trail whole part member => plain_advance whole (plain_part plain member)
  have text : Mse.Plain (lead path ++ "/".intercalate _) :=
    plain_lead (.intercalate .slash fun part member => kept part (List.mem_reverse.mp member))
  unfold normal
  dsimp only
  split
  · decide
  · exact text

theorem plain_join {inner : String} (plain : Mse.Plain path) (own : Mse.Plain inner) :
    Mse.Plain (join path inner) := by
  unfold join
  split
  · exact own
  split
  · rename_i ends
    rcases Bool.or_eq_true_iff.mp ends with empty | ends
    · simpa [of_decide_eq_true empty] using own
    · obtain ⟨start, whole⟩ := List.getLast?_eq_some_iff.mp (of_decide_eq_true ends)
      have first : Mse.Plain (String.ofList start) := by
        refine plain.part_of ?_
        rw [whole, String.toList_ofList]
        exact (List.prefix_append start ['/']).isInfix
      exact .joined '/' (by decide) first own (by simp [whole])
  · exact plain.slash own

theorem plain_withSlashes (plain : Mse.Plain path) : Mse.Plain (withSlashes path) := by
  refine plain.map (fun c undelimited => ?_) fun c => ?_
  · split
    · decide
    · exact undelimited
  · split
    · exact fun impossible => absurd impossible (by decide)
    · exact id

theorem plain_absolute {folder : String} (start : Mse.Plain folder) (plain : Mse.Plain path) :
    Mse.Plain (absolute folder path) :=
  plain_normal (plain_join start plain)

end Path

/-! ### Projects -/

/-- The names and the path that definitions in a file refer to are plain. -/
structure Definitions.File.Plain (file : File) : Prop where
  name : Mse.Plain file.name
  path : Mse.Plain file.path
  module : Mse.Plain file.module

theorem Definitions.File.Plain.link {file : File} (plain : file.Plain) (position : Position) :
    Mse.Plain (file.link position) := by
  have scheme : Mse.Plain "vscode://file" := by decide
  have path : Mse.Plain ("vscode://file/" ++ file.path) :=
    .joined '/' (by decide) scheme plain.path (by simp)
  have ended : Mse.Plain ("vscode://file/" ++ file.path ++ "/") :=
    .joined '/' (by decide) path .empty (by simp)
  have line : Mse.Plain ("vscode://file/" ++ file.path ++ "/:" ++ toString position.line) :=
    .joined ':' (by decide) ended (.number position.line) (by simp)
  exact line.colon (.number (position.column + 1))

/-- The names of the folders and files of a project are plain. -/
structure Project.Plain (project : Project) : Prop where
  name : Mse.Plain project.name
  folder : Mse.Plain project.folder
  paths : ∀ file ∈ project.files, Mse.Plain file.path
  inner : ∀ file ∈ project.files, ∀ name ∈ file.inner, Mse.Plain name

theorem Project.Plain.readFiles {project : Project} (plain : project.Plain) :
    ∀ file ∈ project.readFiles, file.place.Plain := by
  intro file member
  obtain ⟨source, listed, rfl⟩ := List.mem_map.mp member
  have path := plain.paths source listed
  refine ⟨Path.plain_name path, ?_, plain.name.dot ?_⟩
  · exact Path.plain_withSlashes (Path.plain_absolute plain.folder path)
  · refine (Mse.Plain.intercalate .dot (plain.inner source listed)).part_of ?_
    rw [String.toList_ofList]
    exact (List.take_prefix _ _).isInfix

theorem Disk.path_of_mem_sources {disk : Disk} {order : Arrangement (Place × List UInt8)}
    {folder : Place} {base : String} {file : SourceFile}
    (member : file ∈ disk.sources order folder base) :
    file.path = file.inner.foldl Path.join base := by
  unfold sources at member
  split at member
  · cases member
  split at member
  · obtain ⟨⟨inner, bytes⟩, -, taken⟩ := List.mem_filterMap.mp member
    dsimp only at taken
    split at taken
    · cases taken
      rfl
    · cases taken
  · cases member

theorem Program.plain_projectName {base : String} (plain : Mse.Plain base) :
    Mse.Plain (projectName base) := by
  unfold projectName
  exact Path.plain_name (Path.plain_normal plain)

theorem Desk.plain_pathOf {place : Place} (names : ∀ name ∈ place, Mse.Plain name) :
    Mse.Plain (pathOf place) := by
  have inner : Mse.Plain ("/".intercalate place) := .intercalate .slash names
  exact .joined '/' (by decide) .empty inner (by simp [pathOf])

/-- The project below a base folder is plain if the path of this folder is plain, and the names
along the paths to the working folder and to the files are. -/
theorem Desk.project_plain {setting : Setting} {disk : Disk} {base : String}
    (start : Mse.Plain base) (folder : ∀ name ∈ setting.folder, Mse.Plain name)
    (inner : ∀ file ∈ disk.sources setting.fileOrder setting.folder base,
      ∀ name ∈ file.inner, Mse.Plain name) :
    (project setting disk base).Plain := by
  unfold project
  constructor
  · dsimp only
    exact Program.plain_projectName start
  · exact plain_pathOf folder
  · intro file member
    rw [Disk.path_of_mem_sources member]
    refine List.foldlRecOn _ _ start fun path plain name listed => ?_
    exact Path.plain_join plain (inner file member name listed)
  · exact inner

end CodeMap
