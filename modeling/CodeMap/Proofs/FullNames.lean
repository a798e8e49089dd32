/-
When unique names are found.

Unique names and short names stand in one table, so a short name can take the place of a unique one:
in a file with the name of the project, the short name of a method is the unique name of a function
beside its class. Main statement: which elements are found under their unique names depends on the
names alone, as they follow each other, and it does not change after the first pass; if no file has
the name of the project, all are found (`full_names_resolve_iff`).
-/

import CodeMap.Proofs.Additions
import CodeMap.Proofs.Foreign
import CodeMap.Proofs.ShortNames

namespace CodeMap

open Source Text

/-- Every class, every function and every attribute is found under its unique name. -/
def Model.NamesResolve (model : Model) : Prop :=
  ∀ name element, model.elements.get? name = some element → element.role ≠ .file →
    model.symbol? name = some element

/-! ### Names that were entered -/

namespace Naming

/-- The unique name and how it is introduced. -/
def introduction (naming : Naming) : String × Introduced := (naming.unique, naming.how)

theorem map_foldl_enter (entered news : List Naming) :
    (news.foldl enter entered).map introduction =
      (news.map introduction).foldl Definitions.enterName (entered.map introduction) := by
  have one (entered : List Naming) (new : Naming) :
      (enter entered new).map introduction =
        Definitions.enterName (entered.map introduction) new.introduction := by
    have names : (entered.map introduction).map Prod.fst = entered.map Naming.unique := by
      simp [introduction, Function.comp_def]
    unfold enter Definitions.enterName
    rw [names]
    split
    · rename_i taken
      exact (if_pos taken).symm
    · rename_i free
      rw [List.map_append, List.map_singleton]
      exact (if_neg free).symm
  rw [List.foldl_map]
  exact (List.foldl_hom (List.map introduction) fun entered new => (one entered new).symm).symm

/-- What was entered last under a unique name is found under it, unless it is a file: no later short
name is the same. -/
def Unshadowed (entered : List Naming) : Prop :=
  ∀ naming ∈ entered,
    Entries.last? naming.unique (entered.map introduction) ≠ some .file →
      Entries.last? naming.unique (entered.flatMap leads) = some naming.unique

instance (entered : List Naming) : Decidable (Unshadowed entered) :=
  inferInstanceAs (Decidable (∀ naming ∈ entered, _))

end Naming

/-- The names that files enter, in their order. -/
def namesEntered (files : List ReadFile) : List Naming :=
  (files.flatMap ReadFile.namings).foldl Naming.enter []

theorem map_introduction_namesEntered (files : List ReadFile) :
    (namesEntered files).map Naming.introduction =
      Definitions.enteredOf (files.flatMap ReadFile.introductions) := by
  have same (file : ReadFile) : file.namings.map Naming.introduction = file.introductions := by
    simp [ReadFile.namings, Naming.introduction, Naming.ofIntroduction, Function.comp_def]
  rw [namesEntered, Naming.map_foldl_enter, List.map_flatMap]
  simp only [same]
  rfl

/-! ### The first pass -/

section Names

variable {model : Model} {entered : List Naming}

/-- Something else than a file is found under its unique name if the name leads to itself. -/
theorem Model.Names.resolves_iff (names : model.Names entered)
    (keyed : ∀ {name element}, model.elements.get? name = some element → element.uniqueName = name)
    {name : String} {element : Element} (found : model.elements.get? name = some element)
    (notFile : element.role ≠ .file) :
    model.symbol? name = some element ↔
      Entries.last? name (entered.flatMap Naming.leads) = some name := by
  have led := names.symbols name
  constructor
  · intro stands
    rw [← led, stands, Option.map_some, keyed found]
  · intro leads
    rw [leads] at led
    obtain ⟨other, stands, named⟩ := Option.map_eq_some_iff.mp led
    rcases names.own stands named with same | ⟨file, taken, isFile⟩
    · rw [stands, ← same, found]
    · rw [found] at taken
      exact absurd (Option.some.inj taken ▸ isFile) notFile

theorem Model.Names.namesResolve_iff (names : model.Names entered)
    (keyed : ∀ {name element}, model.elements.get? name = some element → element.uniqueName = name)
    (mains : ∀ name, (model.elements.get? name).map (·.isMain) =
      (Entries.last? name (entered.map Naming.introduction)).map (decide <| · = .file)) :
    model.NamesResolve ↔ Naming.Unshadowed entered := by
  constructor
  · intro resolve naming member notFile
    have known : naming.unique ∈ model.elements.keys :=
      names.keys.mpr (List.mem_map_of_mem member)
    obtain ⟨element, found⟩ := Table.mem_keys_iff.mp known
    have own : element.role ≠ .file := by
      intro isFile
      have main := mains naming.unique
      rw [found, Option.map_some] at main
      obtain ⟨how, last, isMain⟩ := Option.map_eq_some_iff.mp main.symm
      simp only [Element.isMain, isFile, decide_true, decide_eq_true_eq] at isMain
      exact notFile (isMain ▸ last)
    exact (names.resolves_iff keyed found own).mp (resolve _ _ found own)
  · intro unshadowed name element found notFile
    refine (names.resolves_iff keyed found notFile).mpr ?_
    obtain ⟨naming, member, rfl⟩ :=
      List.mem_map.mp (names.keys.mp (Table.mem_keys_iff.mpr ⟨element, found⟩))
    refine unshadowed naming member fun isFile => notFile ?_
    have main := mains naming.unique
    rw [found, isFile] at main
    simpa [Element.isMain] using main

end Names

namespace Extraction

theorem collectAll_namesResolve_iff (files : List ReadFile) :
    (collectAll {} files).NamesResolve ↔ Naming.Unshadowed (namesEntered files) := by
  obtain ⟨entered, collecting, -⟩ := collectAll_collecting {} files
  obtain ⟨placed, arranged⟩ := collectAll_arranged files
  refine (collectAll_names .empty files).namesResolve_iff
    (fun found => collecting.keyed (by simp) found) fun name => ?_
  rw [arranged.elements name]
  exact congrArg _ (congrArg _ (map_introduction_namesEntered files).symm)

/-- After the first pass names stand for the same, and for external code. -/
theorem Analysing.namesResolve_iff {order : Arrangement String} {files : List ReadFile}
    {model : Model} (point : Analysing order files model) :
    model.NamesResolve ↔ (firstPass files).NamesResolve := by
  obtain ⟨additions, added⟩ := point.added
  obtain ⟨entered, collecting, -⟩ := collectAll_collecting {} files
  have kept {name : String} {element : Element} (own : element.role ≠ .external) :
      model.symbol? name = some element ↔ (firstPass files).symbol? name = some element := by
    unfold Model.symbol?
    rw [Table.get?_eq_some_iff, Table.get?_eq_some_iff, added.symbols, List.mem_append]
    refine or_iff_left fun met => ?_
    obtain ⟨meeting, -, same⟩ := List.mem_map.mp met
    cases same
    exact own rfl
  unfold Model.NamesResolve
  rw [added.elements]
  constructor
  · intro resolve name element found notFile
    exact (kept (collecting.role_ne_external found)).mp (resolve name element found notFile)
  · intro resolve name element found notFile
    exact (kept (collecting.role_ne_external found)).mpr (resolve name element found notFile)

end Extraction

/-! ### Files with names of their own -/

namespace Text.Dotted

/-- The last part of a name holds no full stop. -/
theorem first_last (name : String) : first (last name) = last name := by
  have whole : (name.toList.reverse.takeWhile (· ≠ '.')).reverse.takeWhile (· ≠ '.') =
      (name.toList.reverse.takeWhile (· ≠ '.')).reverse := by
    refine List.takeWhile_eq_self_iff.mpr fun c member => ?_
    exact List.mem_takeWhile_imp (p := (· ≠ '.')) (List.mem_reverse.mp member)
  rw [first, last, String.toList_ofList, whole]

end Text.Dotted

/-- The unique name and the short name of something in a file start with the first and with the last
part of the name of its module. -/
theorem ReadFile.first_names {file : ReadFile} {naming : Naming} (member : naming ∈ file.namings)
    (notFile : naming.how ≠ .file) :
    Dotted.first naming.unique = Dotted.first file.place.module ∧
      Dotted.first naming.short = file.place.shortModule := by
  obtain ⟨new, introduced, rfl⟩ := List.mem_map.mp member
  unfold ReadFile.introductions at introduced
  split at introduced
  · have inside : Definitions.Inside file.place.module {} := by simp [Definitions.Inside]
    rcases Definitions.introductionsAlong_cases inside introduced with rfl | ⟨-, rest, goesOn⟩
    · exact absurd rfl notFile
    · have short : shortOf file.place.module new.1 = file.place.shortModule ++ "." ++ rest := by
        rw [goesOn, String.append_assoc, shortOf_append, String.append_assoc]
        rfl
      constructor
      · change Dotted.first new.1 = _
        rw [goesOn, Dotted.first_append_dot]
      · change Dotted.first (shortOf file.place.module new.1) = _
        rw [short, Dotted.first_append_dot]
        exact Dotted.first_last file.place.module
  · cases introduced

theorem exists_of_mem_namesEntered {files : List ReadFile} {naming : Naming}
    (member : naming ∈ namesEntered files) : ∃ file ∈ files, naming ∈ file.namings := by
  rcases Naming.mem_of_mem_foldl_enter member with impossible | introduced
  · cases impossible
  · exact List.mem_flatMap.mp introduced

/-- What is entered last under a unique name is introduced by a definition or an attribute, unless
it is a file. -/
theorem Naming.exists_own {entered : List Naming} {naming : Naming} (member : naming ∈ entered)
    (notFile : Entries.last? naming.unique (entered.map introduction) ≠ some .file) :
    ∃ own ∈ entered, own.unique = naming.unique ∧ own.how ≠ .file := by
  cases last : Entries.last? naming.unique (entered.map introduction) with
  | none =>
    refine absurd ?_ (Entries.last?_eq_none_iff.mp last)
    exact List.mem_map.mpr ⟨_, List.mem_map_of_mem member, rfl⟩
  | some how =>
    obtain ⟨own, entered, same⟩ := List.mem_map.mp (Entries.mem_of_last? last)
    obtain ⟨isOwn, isHow⟩ := Prod.mk.inj same
    exact ⟨own, entered, isOwn, fun isFile => notFile (by rw [last, ← isHow, isFile])⟩

section Apart

variable {files : List ReadFile}
  (apart : ∀ file ∈ files, ∀ other ∈ files,
    other.place.shortModule ≠ Dotted.first file.place.module)

include apart

/-- If no file has the short name that the names of modules start with, no short name is a unique
name. -/
theorem short_ne_unique {naming other : Naming} (member : naming ∈ namesEntered files)
    (notFile : naming.how ≠ .file) (otherMember : other ∈ namesEntered files)
    (otherNotFile : other.how ≠ .file) : other.short ≠ naming.unique := by
  intro same
  obtain ⟨file, listed, named⟩ := exists_of_mem_namesEntered member
  obtain ⟨otherFile, otherListed, otherNamed⟩ := exists_of_mem_namesEntered otherMember
  have unique := (file.first_names named notFile).1
  have short := (otherFile.first_names otherNamed otherNotFile).2
  rw [same, unique] at short
  exact apart file listed otherFile otherListed short.symm

theorem unshadowed_of_apart : Naming.Unshadowed (namesEntered files) := by
  intro naming member notFile
  obtain ⟨own, ownEntered, isOwn, ownNotFile⟩ := Naming.exists_own member notFile
  rw [← isOwn]
  -- Whatever the name leads to has this unique name, since it is no short name.
  have leadsToItself {target : String}
      (leads : (own.unique, target) ∈ (namesEntered files).flatMap Naming.leads) :
      target = own.unique := by
    obtain ⟨other, entered, leads⟩ := List.mem_flatMap.mp leads
    unfold Naming.leads at leads
    split at leads
    · cases leads
    · rename_i otherNotFile
      simp only [List.mem_cons, Prod.mk.injEq, List.not_mem_nil, or_false] at leads
      rcases leads with ⟨isUnique, isTarget⟩ | ⟨isShort, -⟩
      · rw [isTarget, isUnique]
      · exact absurd isShort.symm (short_ne_unique apart ownEntered ownNotFile entered otherNotFile)
  cases led : Entries.last? own.unique ((namesEntered files).flatMap Naming.leads) with
  | some target => rw [leadsToItself (Entries.mem_of_last? led)]
  | none =>
    refine absurd ?_ (Entries.last?_eq_none_iff.mp led)
    have leads : (own.unique, own.unique) ∈ own.leads := by simp [Naming.leads, ownNotFile]
    exact List.mem_map.mpr ⟨_, List.mem_flatMap.mpr ⟨own, ownEntered, leads⟩, rfl⟩

end Apart

/-- After the first pass over a project every class, every function and every attribute is found
under its unique name exactly if no later short name is the same, and this stays so at every point
of the other passes. If no file has the name of the project, up to a full stop in it, all are
found. -/
theorem full_names_resolve_iff (project : Project) :
    let files := project.readFiles
    let first := Extraction.firstPass files
    (first.NamesResolve ↔ Naming.Unshadowed (namesEntered files)) ∧
      (∀ order model, Extraction.Analysing order files model →
        (model.NamesResolve ↔ first.NamesResolve)) ∧
      ((∀ file ∈ files, file.place.shortModule ≠ Dotted.first project.name) →
        first.NamesResolve) := by
  intro files first
  have resolve : first.NamesResolve ↔ Naming.Unshadowed (namesEntered files) :=
    Extraction.collectAll_namesResolve_iff files
  refine ⟨resolve, fun order model point => point.namesResolve_iff, fun apart => ?_⟩
  refine resolve.mpr (unshadowed_of_apart fun file member other otherMember => ?_)
  obtain ⟨source, -, rfl⟩ := List.mem_map.mp member
  have start : Dotted.first (source.module project.name) = Dotted.first project.name :=
    Dotted.first_append_dot _ _
  change other.place.shortModule ≠ Dotted.first (source.module project.name)
  rw [start]
  exact apart other otherMember

/-- A file with the name of the project, with a function and then a class of that name too, which
has a method with the name of the function. -/
def namesakeProject : Project where
  name := "m"
  folder := "/"
  files :=
    [{ path := "m/m.py"
       inner := ["m.py"]
       bytes := ("def f():\n pass\nclass m:\n def f(self):\n  pass\n" ++
         "def g():\n f()\n").toUTF8.toList }]

/-- The unique name of the function leads to the method, and so does its call. -/
theorem namesake_method_shadows_function :
    let model := namesakeProject.model
    (model.elements.get? "m.m.f").map (·.role) = some (.function []) ∧
      (model.symbol? "m.m.f").map (·.uniqueName) = some "m.m.m.f" ∧
      ¬ model.NamesResolve ∧
      ⟨some "m.m.g", "m.m.m.f"⟩ ∈ model.calls ∧ ⟨some "m.m.g", "m.m.f"⟩ ∉ model.calls := by
  intro model
  obtain ⟨entered, led, isMethod, calls⟩ :
      (model.elements.get? "m.m.f").map (·.role) = some (.function []) ∧
        (model.symbol? "m.m.f").map (·.uniqueName) = some "m.m.m.f" ∧
        (model.symbol? "m.m.f").map (·.role) = some (.method ["self"]) ∧
        ⟨some "m.m.g", "m.m.m.f"⟩ ∈ model.calls ∧ ⟨some "m.m.g", "m.m.f"⟩ ∉ model.calls := by
    decide +kernel
  refine ⟨entered, led, fun resolve => ?_, calls⟩
  obtain ⟨element, found, isFunction⟩ := Option.map_eq_some_iff.mp entered
  have stands := resolve "m.m.f" element found (by simp [isFunction])
  rw [stands, Option.map_some, isFunction] at isMethod
  cases isMethod

end CodeMap
