/-
Settings files: how they may be laid out, and what is loaded from them.

A layout gives the lines of a file one by one: a key and a value with blanks around them and around
the equals sign, a blank line, or a comment, and the line end after each of them (`Layout`). Main
statement: a file that is laid out so gives each key the value of its last pair, and a file of any
text is refused exactly if one of its lines is neither blank nor a comment and holds no equals sign
(`Desk.settings_load_back`).
-/

import CodeMap.Disk
import CodeMap.Proofs.Keeping
import CodeMap.Proofs.Lines
import CodeMap.Proofs.Tables
import CodeMap.Proofs.Utf8

namespace CodeMap

namespace Settings

/-! ### One line -/

/-- The line is neither blank nor a comment, and it holds no equals sign. -/
def Flawed (line : List Char) : Prop :=
  ∃ c, line.find? (!Text.isBlank ·) = some c ∧ c ≠ '#' ∧ '=' ∉ line

section Line

variable {line before : List Char}

theorem isBlank_sign : Text.isBlank '=' = false := by decide

/-- A line says nothing if its first character that is not blank, if any, opens a comment. -/
theorem isSilent_iff :
    isSilent line = true ↔ ∀ c, line.find? (!Text.isBlank ·) = some c → c = '#' := by
  rw [← Text.head?_trimBy, isSilent, Text.trim]
  cases Text.trimBy Text.isBlank line <;> simp

theorem pair?_eq_none_iff : pair? line = none ↔ '=' ∉ line := by
  rw [← Text.mem_trimBy_iff isBlank_sign]
  simp [pair?, Text.trim]

/-- The pair of a line is what stands before and after its first equals sign. -/
theorem pair?_append_sign (noSign : '=' ∉ before) (after : List Char) :
    pair? (before ++ '=' :: after) =
      some (String.ofList (Text.trim before), String.ofList (Text.trim after)) := by
  have unsigned : ∀ c ∈ before.dropWhile Text.isBlank, decide (c ≠ '=') = true := by
    intro c member
    have inside := (List.dropWhile_suffix _).subset member
    exact decide_eq_true fun same => noSign (same ▸ inside)
  rw [pair?, Text.trim, Text.trimBy_append_kept isBlank_sign,
    List.takeWhile_append_of_pos unsigned, List.dropWhile_append_of_pos unsigned]
  simp [Text.trim, Text.trimBy_dropWhile, Text.trimBy_dropWhile_back]

theorem flawed_iff : Flawed line ↔ isSilent line = false ∧ pair? line = none := by
  rw [Flawed, ← Bool.not_eq_true, isSilent_iff, pair?_eq_none_iff]
  simp only [not_forall, exists_prop]
  exact ⟨fun ⟨c, first, speaks, noSign⟩ => ⟨⟨c, first, speaks⟩, noSign⟩,
    fun ⟨⟨c, first, speaks⟩, noSign⟩ => ⟨c, first, speaks, noSign⟩⟩

end Line

/-! ### Many lines -/

theorem enter_filter (known : Table String) (lines : List (List Char)) :
    enter known (lines.filter (!isSilent ·)) = enter known lines := by
  induction lines generalizing known with
  | nil => rfl
  | cons line lines ih =>
    cases silent : isSilent line with
    | true => rw [List.filter_cons_of_neg (by simp [silent]), ih, enter, if_pos silent]
    | false =>
      rw [List.filter_cons_of_pos (by simp [silent]), enter, enter, silent]
      simp only [Bool.false_eq_true, if_false, ih]

/-- Lines are refused if one of them is flawed, and for no other reason. -/
theorem enter_eq_error_iff {known : Table String} {lines : List (List Char)} {fault : Fault} :
    enter known lines = .error fault ↔
      fault = .noEqualsSign ∧ ∃ line ∈ lines, Flawed line := by
  induction lines generalizing known with
  | nil => simp [enter]
  | cons line lines ih =>
    rw [enter, List.exists_mem_cons_iff, flawed_iff]
    cases silent : isSilent line with
    | true => simpa using ih
    | false =>
      cases given : pair? line with
      | some pair => simpa using ih
      | none => simp [eq_comm]

/-- The settings of a file are those of the stretches between its line breaks. -/
theorem ofBytes_toUTF8 (text : String) :
    ofBytes text.toUTF8.toList = enter ∅ (text.toList.splitOnP Text.isBreak) := by
  have silent : (!isSilent []) = false := by decide
  rw [ofBytes, Text.Utf8.readPieces, Text.Utf8.decode_toUTF8]
  change enter ∅ (Text.lines (Text.unifyLineEnds text.toList)) = _
  rw [← enter_filter, Text.filter_lines_unifyLineEnds silent, enter_filter]

/-! ### Layouts -/

/-- Blanks within a line. -/
structure Gap where
  chars : List Char
  blank : ∀ c ∈ chars, Text.isBlank c = true
  unbroken : Text.Unbroken chars

/-- A text that can stand in a line: no blank at its ends and no line break in it. -/
structure Item where
  text : String
  start : ∀ c ∈ text.toList.head?, Text.isBlank c = false
  finish : ∀ c ∈ text.toList.getLast?, Text.isBlank c = false
  unbroken : Text.Unbroken text.toList

/-- A text that can stand in front of an equals sign, and that opens no comment there. -/
structure Key extends Item where
  noSign : '=' ∉ text.toList
  noMark : text.toList.head? ≠ some '#'

/-- Decided along the text, not over all characters. -/
instance decidableBlank (cs : List Char) : Decidable (∀ c ∈ cs, Text.isBlank c = true) :=
  List.decidableBAll _ cs

/-- Decided at the end in question, not over all characters. -/
instance decidableVisible (end? : Option Char) : Decidable (∀ c ∈ end?, Text.isBlank c = false) :=
  Option.decidableForallMem end?

/-- A line of a settings file. -/
inductive Line where
  | pair (indent : Gap) (key : Key) (before after : Gap) (value : Item) (trail : Gap)
  | blank (gap : Gap)
  | comment (indent : Gap) (remark : List Char) (unbroken : Text.Unbroken remark)

def Line.chars : Line → List Char
  | .pair indent key before after value trail =>
    indent.chars ++ key.text.toList ++ before.chars ++
      '=' :: (after.chars ++ value.text.toList ++ trail.chars)
  | .blank gap => gap.chars
  | .comment indent remark _ => indent.chars ++ '#' :: remark

/-- The key and the value that the line gives. -/
def Line.pair? : Line → Option (String × String)
  | .pair _ key _ _ value _ => some (key.text, value.text)
  | .blank _ => none
  | .comment _ _ _ => none

/-- What may end a line. -/
inductive LineEnd where
  | lineFeed
  | carriageReturn
  | both

def LineEnd.chars : LineEnd → List Char
  | .lineFeed => ['\n']
  | .carriageReturn => ['\r']
  | .both => ['\r', '\n']

/-- The lines of a settings file. -/
structure Layout where
  /-- The lines that are ended. -/
  ended : List (Line × LineEnd)
  /-- What follows the last line end; a file that ends with its last line has an empty line here. -/
  last : Line

def Layout.chars (layout : Layout) : List Char :=
  layout.ended.flatMap (fun (line, lineEnd) => line.chars ++ lineEnd.chars) ++ layout.last.chars

/-- The text of the file. -/
def Layout.text (layout : Layout) : String := String.ofList layout.chars

/-- The pairs in the order of their lines. -/
def Layout.pairs (layout : Layout) : List (String × String) :=
  (layout.ended.map Prod.fst ++ [layout.last]).filterMap Line.pair?

/-! ### Loading a layout -/

theorem Item.trim_between (item : Item) (before after : Gap) :
    String.ofList (Text.trim (before.chars ++ item.text.toList ++ after.chars)) = item.text := by
  rw [Text.trim, Text.trimBy_between before.blank after.blank,
    Text.trimBy_of_ends item.start item.finish, String.ofList_toList]

theorem Gap.not_mem (gap : Gap) {c : Char} (visible : Text.isBlank c = false) : c ∉ gap.chars :=
  fun member => absurd (gap.blank c member) (by simp [visible])

theorem Gap.find?_append (gap : Gap) (rest : List Char) :
    (gap.chars ++ rest).find? (!Text.isBlank ·) = rest.find? (!Text.isBlank ·) := by
  rw [List.find?_append, List.find?_eq_none.mpr, Option.none_or]
  intro c member
  simp [gap.blank c member]

namespace Line

theorem unbroken (line : Line) : Text.Unbroken line.chars := by
  cases line with
  | pair indent key before after value trail =>
    exact ((indent.unbroken.append key.unbroken).append before.unbroken).append
      (.cons (by decide) ((after.unbroken.append value.unbroken).append trail.unbroken))
  | blank gap => exact gap.unbroken
  | comment indent remark unbroken => exact indent.unbroken.append (.cons (by decide) unbroken)

/-- The first character of a pair that is not blank is that of its key, or the equals sign. -/
theorem isSilent_pair (indent : Gap) (key : Key) (before after : Gap) (value : Item)
    (trail : Gap) : isSilent (pair indent key before after value trail).chars = false := by
  refine Bool.eq_false_iff.mpr fun silent => ?_
  have first := isSilent_iff.mp silent
  rw [Line.chars, List.append_assoc, List.append_assoc, indent.find?_append] at first
  cases word : key.text.toList with
  | nil =>
    -- Without a key, the sign comes first, wherever the blanks around it end.
    rw [word, List.nil_append, before.find?_append] at first
    exact absurd (first '=' (by simp [isBlank_sign])) (by decide)
  | cons c cs =>
    have visible : Text.isBlank c = false := key.start c (by simp [word])
    rw [word] at first
    exact key.noMark (by simp [word, first c (by simp [visible])])

theorem isSilent_chars (line : Line) : isSilent line.chars = line.pair?.isNone := by
  cases line with
  | pair indent key before after value trail => exact isSilent_pair _ _ _ _ _ _
  | blank gap =>
    refine isSilent_iff.mpr fun c found => ?_
    rw [chars, ← List.append_nil gap.chars, gap.find?_append] at found
    cases found
  | comment indent remark unbroken =>
    refine isSilent_iff.mpr fun c found => ?_
    rw [chars, indent.find?_append, List.find?_cons_of_pos (by decide)] at found
    exact (Option.some.inj found).symm

theorem pair?_chars (line : Line) {given : String × String} (gives : line.pair? = some given) :
    Settings.pair? line.chars = some given := by
  cases line with
  | pair indent key before after value trail =>
    have noSign : '=' ∉ indent.chars ++ key.text.toList ++ before.chars := by
      simp [indent.not_mem isBlank_sign, before.not_mem isBlank_sign, key.noSign]
    rw [chars, pair?_append_sign noSign, key.trim_between, value.trim_between]
    exact gives
  | blank gap => cases gives
  | comment indent remark unbroken => cases gives

end Line

/-- A line of a layout enters its pair, if it gives one. -/
theorem enter_line (known : Table String) (line : Line) (rest : List (List Char)) :
    enter known (line.chars :: rest) = enter (known.insertAll line.pair?.toList) rest := by
  cases gives : line.pair? with
  | none =>
    rw [enter, line.isSilent_chars, gives]
    rfl
  | some given =>
    rw [enter, line.isSilent_chars, gives, line.pair?_chars gives]
    rfl

/-- A line end, double or not, leaves nothing behind but the line before it. -/
theorem enter_ended (known : Table String) (line : Line) (lineEnd : LineEnd) (rest : List Char) :
    enter known ((line.chars ++ lineEnd.chars ++ rest).splitOnP Text.isBreak) =
      enter known (line.chars :: rest.splitOnP Text.isBreak) := by
  cases lineEnd with
  | lineFeed | carriageReturn =>
    rw [LineEnd.chars, List.append_assoc, List.singleton_append,
      List.splitOnP_append_cons_of_forall_mem line.unbroken _ (by decide)]
  | both =>
    -- The stretch between the two characters is an empty line, which says nothing.
    rw [LineEnd.chars, List.append_assoc, List.cons_append, List.singleton_append,
      List.splitOnP_append_cons_of_forall_mem line.unbroken _ (by decide),
      List.splitOnP_cons_eq_if_modifyHead, if_pos (by decide), enter_line, enter_line]
    exact if_pos (by decide)

namespace Layout

variable (line : Line) (lineEnd : LineEnd) (ended : List (Line × LineEnd)) (last : Line)

theorem chars_cons : chars ⟨(line, lineEnd) :: ended, last⟩ =
    line.chars ++ lineEnd.chars ++ chars ⟨ended, last⟩ := by
  simp [chars]

theorem pairs_nil : pairs ⟨[], last⟩ = last.pair?.toList := by
  cases gives : last.pair? <;> simp [pairs, gives]

theorem pairs_cons : pairs ⟨(line, lineEnd) :: ended, last⟩ =
    line.pair?.toList ++ pairs ⟨ended, last⟩ := by
  cases gives : line.pair? <;> simp [pairs, gives]

end Layout

/-- Loading the lines of a layout enters its pairs, one after the other. -/
theorem enter_layout (known : Table String) (layout : Layout) :
    enter known (layout.chars.splitOnP Text.isBreak) = .ok (known.insertAll layout.pairs) := by
  obtain ⟨ended, last⟩ := layout
  -- Each line is entered before the rest, so the table known so far grows along the induction.
  induction ended generalizing known with
  | nil =>
    change enter known (last.chars.splitOnP Text.isBreak) = _
    rw [List.splitOnP_eq_singleton last.unbroken, enter_line, Layout.pairs_nil, enter]
  | cons first ended ih =>
    obtain ⟨line, lineEnd⟩ := first
    rw [Layout.chars_cons, enter_ended, enter_line, ih, Layout.pairs_cons, Table.insertAll_append]

theorem ofBytes_layout (layout : Layout) :
    ofBytes layout.text.toUTF8.toList = .ok (Table.ofList layout.pairs) := by
  rw [ofBytes_toUTF8, Layout.text, String.toList_ofList, enter_layout]
  rfl

end Settings

namespace Desk

/-- The settings file in the working folder can be read, and it holds a text. -/
structure HoldsSettings (setting : Setting) (desk : Desk) (text : String) : Prop where
  folder : desk.disk.isFolder setting.folder = true
  isFile : desk.disk.isFolder (setting.folder ++ [Program.settingsName]) = false
  bytes : desk.disk.file? (setting.folder ++ [Program.settingsName]) = some text.toUTF8.toList

variable {setting : Setting} {desk : Desk} {text : String}

theorem locate_settings (folder : desk.disk.isFolder setting.folder = true) :
    desk.disk.locate setting.folder Program.settingsName =
      .ok (setting.folder ++ [Program.settingsName]) := by
  have parts : Path.parts Program.settingsName = [Program.settingsName] := by decide
  have relative : Path.lead Program.settingsName = "" := by decide
  rw [Disk.locate, if_neg (by decide), parts, if_pos relative, List.foldlM_cons, Disk.advance,
    if_pos folder, if_neg (by decide), if_neg (by decide)]
  rfl

theorem readFile?_settings (holds : HoldsSettings setting desk text) :
    readFile? setting.folder Program.settingsName desk = (.ok (some text.toUTF8.toList), desk) := by
  have here : (get : Run Desk) desk = (.ok desk, desk) := rfl
  rw [readFile?, KeepingRun.bind_apply, here]
  dsimp only
  rw [locate_settings holds.folder]
  dsimp only
  rw [holds.isFile, holds.bytes]
  rfl

/-- The program loads what the bytes of the file say, and changes nothing. -/
theorem readSettings_of_file (holds : HoldsSettings setting desk text) :
    (Program.readSettings (world setting)).run desk =
      ((Settings.ofBytes text.toUTF8.toList).mapError .settings, desk) := by
  have read : (world setting).read? Program.settingsName desk =
    (.ok (some text.toUTF8.toList), desk) := readFile?_settings holds
  change Program.readSettings (world setting) desk = _
  rw [Program.readSettings, KeepingRun.bind_apply, read]
  dsimp only
  cases Settings.ofBytes text.toUTF8.toList <;> rfl

theorem readSettings_of_layout {layout : Settings.Layout}
    (holds : HoldsSettings setting desk layout.text) :
    (Program.readSettings (world setting)).run desk = (.ok (Table.ofList layout.pairs), desk) := by
  rw [readSettings_of_file holds, Settings.ofBytes_layout]
  rfl

theorem readSettings_eq_error_iff (holds : HoldsSettings setting desk text)
    {fault : Program.Fault} :
    ((Program.readSettings (world setting)).run desk).1 = .error fault ↔
      fault = .settings .noEqualsSign ∧
        ∃ line, Text.IsLine text.toList line ∧ Settings.Flawed line := by
  have refused (inner : Settings.Fault) :
      Settings.ofBytes text.toUTF8.toList = .error inner ↔ inner = .noEqualsSign ∧
        ∃ line, Text.IsLine text.toList line ∧ Settings.Flawed line := by
    rw [Settings.ofBytes_toUTF8, Settings.enter_eq_error_iff]
    simp only [Text.mem_splitOnP_iff]
  rw [readSettings_of_file holds]
  constructor
  · intro stops
    cases result : Settings.ofBytes text.toUTF8.toList with
    | ok settings =>
      rw [result] at stops
      cases stops
    | error inner =>
      obtain ⟨rfl, flawed⟩ := (refused inner).mp result
      rw [result] at stops
      cases stops
      exact ⟨rfl, flawed⟩
  · rintro ⟨rfl, flawed⟩
    rw [(refused .noEqualsSign).mpr ⟨rfl, flawed⟩]
    rfl

/-- A settings file is loaded as it is laid out: each key has the value of its last pair. A file of
any text is refused exactly if it has a line that is neither blank nor a comment and holds no
equals sign, and this is what the fault says. -/
theorem settings_load_back (setting : Setting) (desk : Desk) :
    let outcome := (Program.readSettings (world setting)).run desk
    (∀ layout : Settings.Layout, HoldsSettings setting desk layout.text →
      ∃ settings, outcome = (.ok settings, desk) ∧
        ∀ key, settings.get? key = Entries.last? key layout.pairs) ∧
    ∀ text, HoldsSettings setting desk text → ∀ fault,
      (outcome.1 = .error fault ↔ fault = .settings .noEqualsSign ∧
        ∃ line, Text.IsLine text.toList line ∧ Settings.Flawed line) := by
  intro outcome
  refine ⟨fun layout holds => ⟨Table.ofList layout.pairs, readSettings_of_layout holds,
    fun key => ?_⟩, fun text holds fault => readSettings_eq_error_iff holds⟩
  rw [Table.get?_ofList]

/-- A comment, an indented pair, a blank line and a pair that no line end follows. -/
def twoPairs : Settings.Layout :=
  let nothing : Settings.Gap := ⟨[], by decide, by decide⟩
  let space : Settings.Gap := ⟨[' '], by decide, by decide⟩
  let tab : Settings.Gap := ⟨['\t'], by decide, by decide⟩
  let base : Settings.Key :=
    { text := "base_path"
      start := by decide
      finish := by decide
      unbroken := by decide
      noSign := by decide
      noMark := by decide }
  { ended :=
      [(.comment nothing " folder".toList (by decide), .both),
        (.pair space base space tab ⟨"a=b", by decide, by decide, by decide⟩ space, .lineFeed),
        (.blank tab, .carriageReturn)]
    last := .pair nothing base nothing nothing ⟨"#c", by decide, by decide, by decide⟩ nothing }

/-- A desk with a settings file in the folder `ROOT`. -/
def withSettings (text : String) : Desk where
  disk := Disk.addFile {} ["ROOT", Program.settingsName] text.toUTF8.toList

theorem holdsSettings_withSettings (text : String) :
    HoldsSettings { folder := ["ROOT"], stamp := "" } (withSettings text) text :=
  ⟨rfl, rfl, rfl⟩

/-- The second pair counts, with an equals sign in one value and a number sign in the other; a key
alone is refused. -/
theorem settings_loaded_and_refused :
    let setting : Setting := { folder := ["ROOT"], stamp := "" }
    let load (desk : Desk) := (Program.readSettings (world setting)).run desk
    let desk := withSettings "# folder\r\n base_path =\ta=b \n\t\rbase_path=#c"
    (∃ settings, load desk = (.ok settings, desk) ∧
      settings.get? "base_path" = some "#c" ∧ settings.get? "output_path" = none) ∧
    (load (withSettings "base_path\n")).1 = .error (.settings .noEqualsSign) := by
  intro setting load desk
  constructor
  · have text : twoPairs.text = "# folder\r\n base_path =\ta=b \n\t\rbase_path=#c" := by decide
    obtain ⟨settings, loaded, values⟩ :=
      (settings_load_back setting desk).1 twoPairs (text ▸ holdsSettings_withSettings _)
    exact ⟨settings, loaded, (values _).trans (by decide), (values _).trans (by decide)⟩
  · refine ((settings_load_back setting _).2 "base_path\n" (holdsSettings_withSettings _) _).mpr
      ⟨rfl, "base_path".toList, ?_, ?_⟩
    · exact ⟨by decide, [], ['\n'], by decide, by simp, by simp [Text.isBreak]⟩
    · exact ⟨'b', by decide, by decide, by decide⟩

end Desk

end CodeMap
