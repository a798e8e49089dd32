/-
What an analysis adds to a model.

However far an analysis comes, nothing that was in the model is changed or lost: calls, accesses and
external code are added at the end, one after the other (`Added`). External code is added under a
name that stood for nothing, and it is listed and called once when it is added. Main statement:
this holds of every run over every walk from every state, step by step, and so the external code
that names stand for is the external code that is listed, at every point of the second and the
third pass (`analysis_appends_external_code`).
-/

import CodeMap.Proofs.Passes

namespace CodeMap.Usage

open Source

/-! ### Additions -/

/-- External code is met for the first time, while `code` is open. -/
structure Meeting where
  code : Option String
  /-- How many elements had been made before. -/
  serial : Nat
  name : String
deriving DecidableEq, Repr

namespace Meeting

/-- The name that stands for the external code from then on. -/
def key (meeting : Meeting) : String := externalMark ++ meeting.name

def element (meeting : Meeting) : Element where
  serial := meeting.serial
  name := meeting.name
  uniqueName := meeting.key
  role := .external
  link := none

def call (meeting : Meeting) : Call := ⟨meeting.code, meeting.key⟩

end Meeting

/-- What an analysis adds to a model at a time. -/
inductive Addition where
  | call (call : Call)
  | access (access : Access)
  | meeting (meeting : Meeting)
deriving DecidableEq, Repr

namespace Addition

/-- The function that was open. -/
def code : Addition → Option String
  | .call made => made.caller
  | .access read => some read.accessor
  | .meeting met => met.code

/-- External code is called when it is met. -/
def calls : Addition → List Call
  | .call made => [made]
  | .access _ => []
  | .meeting met => [met.call]

def accesses : Addition → List Access
  | .access read => [read]
  | _ => []

def meetings : Addition → List Meeting
  | .meeting met => [met]
  | _ => []

end Addition

/-- The meetings of new external code, where `made` elements have been made and `keys` are known.
Each has a name that says something and is not known, and makes one more name known. -/
def Novel (made : Nat) (keys : List String) : List Meeting → Prop
  | [] => True
  | meeting :: later =>
    (meeting.serial = made ∧ meeting.name ≠ "" ∧ meeting.name ∉ keys ∧ meeting.key ∉ keys) ∧
      Novel (made + 1) (keys ++ [meeting.key]) later

theorem novel_append {made : Nat} {keys : List String} {xs ys : List Meeting} :
    Novel made keys (xs ++ ys) ↔
      Novel made keys xs ∧ Novel (made + xs.length) (keys ++ xs.map Meeting.key) ys := by
  induction xs generalizing made keys with
  | nil => simp [Novel]
  | cons meeting xs ih =>
    have shifted : made + 1 + xs.length = made + (xs.length + 1) := by omega
    simp [Novel, ih, and_assoc, shifted]

/-- The model `after` holds what `model` holds, and then the additions, in their order. -/
structure Added (policy : ExternalPolicy) (additions : List Addition) (model after : Model) :
    Prop where
  made : after.made = model.made + (additions.flatMap Addition.meetings).length
  elements : after.elements = model.elements
  containments : after.containments = model.containments
  symbols : after.symbols.entries = model.symbols.entries ++
    (additions.flatMap Addition.meetings).map fun meeting => (meeting.key, meeting.element)
  externals : after.externals.toList = model.externals.toList ++
    if policy = .drop then [] else (additions.flatMap Addition.meetings).map Meeting.element
  calls : after.calls.toList = model.calls.toList ++ additions.flatMap Addition.calls
  accesses : after.accesses.toList = model.accesses.toList ++ additions.flatMap Addition.accesses
  novel : Novel model.made model.symbols.keys (additions.flatMap Addition.meetings)

namespace Added

variable {policy : ExternalPolicy} {xs ys : List Addition} {model first second third : Model}

theorem keys_eq (h : Added policy xs first second) :
    second.symbols.keys = first.symbols.keys ++ (xs.flatMap Addition.meetings).map Meeting.key := by
  simp [Table.keys, h.symbols, Function.comp_def]

theorem values_eq (h : Added policy xs first second) :
    second.symbols.values =
      first.symbols.values ++ (xs.flatMap Addition.meetings).map Meeting.element := by
  simp [Table.values, h.symbols, Function.comp_def]

theorem refl (model : Model) : Added policy [] model model where
  made := rfl
  elements := rfl
  containments := rfl
  symbols := by simp
  externals := by simp
  calls := by simp
  accesses := by simp
  novel := trivial

theorem note (model : Model) (event : Event) : Added policy [] model (model.note event) :=
  { refl model with }

theorem trans (h : Added policy xs first second) (h' : Added policy ys second third) :
    Added policy (xs ++ ys) first third where
  made := by simp [h'.made, h.made, Nat.add_assoc]
  elements := h'.elements.trans h.elements
  containments := h'.containments.trans h.containments
  symbols := by simp [h'.symbols, h.symbols]
  externals := by
    rw [h'.externals, h.externals]
    split <;> simp
  calls := by simp [h'.calls, h.calls]
  accesses := by simp [h'.accesses, h.accesses]
  novel := by
    rw [List.flatMap_append]
    refine novel_append.mpr ⟨h.novel, ?_⟩
    rw [← h.made, ← h.keys_eq]
    exact h'.novel

/-! ### The additions one by one -/

theorem addCall (call : Call) : Added policy [.call call] model (model.addCall call) where
  made := rfl
  elements := rfl
  containments := rfl
  symbols := by simp [Model.addCall, Addition.meetings]
  externals := by simp [Model.addCall, Addition.meetings]
  calls := by simp [Model.addCall, Addition.calls]
  accesses := by simp [Model.addCall, Addition.accesses]
  novel := trivial

theorem addAccess (access : Access) :
    Added policy [.access access] model (model.addAccess access) where
  made := rfl
  elements := rfl
  containments := rfl
  symbols := by simp [Model.addAccess, Addition.meetings]
  externals := by simp [Model.addAccess, Addition.meetings]
  calls := by simp [Model.addAccess, Addition.calls]
  accesses := by simp [Model.addAccess, Addition.accesses]
  novel := trivial

/-- External code that is kept is listed, whether it is reported or not. -/
theorem meetExternal {code : Option String} {name : String} (named : name ≠ "")
    (unknown : model.symbol? name = none)
    (fresh : model.symbol? (externalMark ++ name) = none) :
    Added policy [.meeting ⟨code, model.made, name⟩] model
      (model.meetExternal policy code name) := by
  have notKey {key : String} (h : model.symbol? key = none) : key ∉ model.symbols.keys :=
    Entries.get?_eq_none_iff.mp h
  have entries := Table.entries_insert_of_not_mem
    (Meeting.element ⟨code, model.made, name⟩) (notKey fresh)
  have novel : Novel model.made model.symbols.keys [⟨code, model.made, name⟩] :=
    ⟨⟨rfl, named, notKey unknown, notKey fresh⟩, trivial⟩
  cases policy <;>
    exact
      { made := rfl
        elements := rfl
        containments := rfl
        symbols := entries
        externals := by simp [Model.meetExternal, Model.note, Model.addCall, Model.bind,
          Addition.meetings, Meeting.element, Meeting.key]
        calls := by simp [Model.meetExternal, Model.note, Model.addCall, Model.bind,
          Addition.calls, Meeting.call, Meeting.key]
        accesses := by simp [Model.meetExternal, Model.note, Model.addCall, Model.bind,
          Addition.accesses]
        novel := novel }

end Added

/-- An analysis adds, while one function is open. -/
theorem Recording.added {policy : ExternalPolicy} {code : Option String} {model after : Model}
    (h : Recording policy code model after) :
    ∃ additions, Added policy additions model after ∧
      ∀ addition ∈ additions, addition.code = code := by
  have extend {xs : List Addition} {new : Addition} {before grown : Model}
      (h : Added policy xs model before ∧ ∀ addition ∈ xs, addition.code = code)
      (added : Added policy [new] before grown) (own : new.code = code) :
      ∃ additions, Added policy additions model grown ∧
        ∀ addition ∈ additions, addition.code = code := by
    refine ⟨xs ++ [new], h.1.trans added, fun addition member => ?_⟩
    rcases List.mem_append.mp member with earlier | last
    · exact h.2 addition earlier
    · rw [List.mem_singleton.mp last]
      exact own
  induction h with
  | refl => exact ⟨[], .refl model, by simp⟩
  | note event _ ih =>
    obtain ⟨xs, added, own⟩ := ih
    exact ⟨xs, List.append_nil xs ▸ added.trans (.note _ event), own⟩
  | call _ _ _ ih =>
    obtain ⟨xs, earlier⟩ := ih
    exact extend earlier (.addCall _) rfl
  | access _ isOpen _ _ ih =>
    obtain ⟨xs, earlier⟩ := ih
    exact extend earlier (.addAccess _) isOpen.symm
  | external _ named unknown fresh ih =>
    obtain ⟨xs, earlier⟩ := ih
    exact extend earlier (.meetExternal named unknown fresh) rfl

/-- Each step of a run adds, while the function is open that was open before the step. A run that
meets a fault has taken fewer steps. -/
theorem followAll_added (context : Context) (steps : List Step) (s : State) :
    ∃ parts : List (List Addition), parts.length ≤ steps.length ∧
      Added context.externals parts.flatten s.model (followAll context steps s).2.model ∧
      ∀ i part, parts[i]? = some part → ∀ addition ∈ part,
        addition.code = (followAll context (steps.take i) s).2.openCode := by
  induction steps generalizing s with
  | nil => exact ⟨[], Nat.le_refl _, .refl s.model, by simp⟩
  | cons step steps ih =>
    obtain ⟨own, first, opened⟩ := (follow_recording context s step).added
    have cut (i : Nat) := followAll_cons_apply context step (steps.take i) s
    rw [followAll_cons_apply]
    generalize follow context step s = run at first cut ⊢
    obtain ⟨result, t⟩ := run
    cases result with
    | error fault =>
      refine ⟨[own], by simp, by simpa using first, fun i part found addition member => ?_⟩
      cases i with
      | zero =>
        cases found
        exact opened addition member
      | succ i => simp at found
    | ok _ =>
      obtain ⟨parts, shorter, rest, openedLater⟩ := ih t
      refine ⟨own :: parts, by simpa using shorter, first.trans rest,
        fun i part found addition member => ?_⟩
      cases i with
      | zero =>
        cases found
        exact opened addition member
      | succ i =>
        rw [List.take_succ_cons, cut]
        exact openedLater i part found addition member

/-- If the external code that names stand for is the external code that is listed, this stays so. -/
theorem Added.external_values_eq {additions : List Addition} {model after : Model}
    (h : Added .keepAndReport additions model after)
    (listed : model.symbols.values.filter (·.role = .external) = model.externals.toList) :
    after.symbols.values.filter (·.role = .external) = after.externals.toList := by
  have met : ((additions.flatMap Addition.meetings).map Meeting.element).filter
      (·.role = .external) = (additions.flatMap Addition.meetings).map Meeting.element := by
    refine List.filter_eq_self.mpr fun element member => ?_
    obtain ⟨meeting, -, rfl⟩ := List.mem_map.mp member
    rfl
  rw [h.externals, ← listed, h.values_eq, List.filter_append, met]
  rfl

/-- No external code is added twice. -/
theorem Added.nodup_external_names {additions : List Addition} {model after : Model}
    (h : Added .keepAndReport additions model after) (none : model.externals = #[]) :
    (after.externals.toList.map (·.uniqueName)).Nodup := by
  have distinct := after.symbols.nodup_keys
  rw [h.keys_eq] at distinct
  rw [h.externals, none]
  simpa [Function.comp_def, Meeting.element] using (List.nodup_append.mp distinct).2.1

end CodeMap.Usage

namespace CodeMap.Extraction

open Source Usage

/-! ### Points of the passes -/

/-- The models that the analysis of files comes through, from `model` on: some files have been
analysed, and of the next file some steps and a part of what the step after them records. -/
inductive Through (order : Arrangement String) (model : Model) (files : List ReadFile) :
    Model → Prop where
  | between {done rest : List ReadFile} :
      files = done ++ rest → Through order model files (analyseAll order model done)
  | within {done rest : List ReadFile} {file : ReadFile} {trees : List Tree}
      {steps later : List Step} {state : Usage.State} {after : Model} :
      files = done ++ file :: rest → file.trees = .ok trees → walkModule trees = steps ++ later →
        (followAll (file.context order) steps
          { model := analyseAll order model done }).2 = state →
          Recording .keepAndReport state.openCode state.model after →
            Through order model files after

/-- The models that the passes come through from the second one on. -/
inductive Analysing (order : Arrangement String) (files : List ReadFile) : Model → Prop where
  | second {model : Model} :
      Through order (firstPass files) files model → Analysing order files model
  | third {model : Model} :
      Through order (((secondPass order files).note .typesAssigned).note .thirdPass) files model →
        Analysing order files model
  | done : Analysing order files (Model.ofFiles order files)

variable {order : Arrangement String}

theorem analyseFile_added (model : Model) (file : ReadFile) :
    ∃ additions, Added .keepAndReport additions model (analyseFile order model file) := by
  cases read : file.trees with
  | error fault =>
    rw [analyseFile, read]
    exact ⟨[], .note model _⟩
  | ok trees =>
    obtain ⟨parts, -, run, -⟩ :=
      followAll_added (file.context order) (walkModule trees) { model := model }
    have reporting := analyseFile_reporting read order model
    obtain ⟨reported, last, -⟩ := (reporting.recording : Recording _ none _ _).added
    exact ⟨_, run.trans last⟩

theorem analyseAll_added (model : Model) (files : List ReadFile) :
    ∃ additions, Added .keepAndReport additions model (analyseAll order model files) := by
  induction files generalizing model with
  | nil => exact ⟨[], .refl model⟩
  | cons file files ih =>
    obtain ⟨own, first⟩ := analyseFile_added model file
    obtain ⟨others, rest⟩ := ih (analyseFile order model file)
    exact ⟨_, first.trans rest⟩

theorem Through.added {model after : Model} {files : List ReadFile}
    (h : Through order model files after) :
    ∃ additions, Added .keepAndReport additions model after := by
  cases h with
  | between => exact analyseAll_added model _
  | @within done _ file _ steps _ _ _ _ _ _ reached recording =>
    obtain ⟨earlier, before⟩ := analyseAll_added model done
    obtain ⟨parts, -, run, -⟩ := followAll_added (file.context order) steps
      { model := analyseAll order model done }
    obtain ⟨last, now, -⟩ := recording.added
    rw [reached] at run
    exact ⟨_, (before.trans run).trans now⟩

/-- At every point of the second and the third pass the model holds what the first pass has
collected, and then what has been added. -/
theorem Analysing.added {files : List ReadFile} {model : Model}
    (h : Analysing order files model) :
    ∃ additions, Added .keepAndReport additions (firstPass files) model := by
  have between {after : Model} {xs ys : List Addition}
      (h : Added .keepAndReport xs (firstPass files) (secondPass order files))
      (h' : Added .keepAndReport ys
        (((secondPass order files).note .typesAssigned).note .thirdPass) after) :
      ∃ additions, Added .keepAndReport additions (firstPass files) after :=
    ⟨_, ((h.trans (.note _ .typesAssigned)).trans (.note _ .thirdPass)).trans h'⟩
  obtain ⟨second, earlier⟩ := analyseAll_added (firstPass files) files
  cases h with
  | second through => exact through.added
  | third through =>
    obtain ⟨later, now⟩ := through.added
    exact between earlier now
  | done =>
    obtain ⟨third, later⟩ := analyseAll_added _ files
    exact between earlier (later.trans (.note _ .combining))

/-- The first pass lists no external code. -/
theorem firstPass_externals (files : List ReadFile) : (firstPass files).externals = #[] := by
  obtain ⟨entered, collecting, -⟩ := collectAll_collecting {} files
  exact collecting.usages_eq.2.2

/-- After the first pass no name stands for external code. -/
theorem firstPass_external_values (files : List ReadFile) :
    (firstPass files).symbols.values.filter (·.role = .external) = [] := by
  obtain ⟨entered, collecting, -⟩ := collectAll_collecting {} files
  refine List.filter_eq_nil_iff.mpr fun element member => ?_
  obtain ⟨⟨name, element⟩, found, rfl⟩ := List.mem_map.mp member
  have stands : (collectAll {} files).symbol? name = some element :=
    Table.get?_eq_some_iff.mpr found
  rcases collecting.symbol? stands with impossible | ⟨-, -, notExternal⟩
  · cases impossible
  · simpa using notExternal

end CodeMap.Extraction

namespace CodeMap

open Source Usage Extraction

/-- Every analysis of every module from every state, to its end or up to a fault, keeps what names
stand for and what is recorded, in its order. It adds calls, accesses and external code, each while
the function is open that was open before the step. External code is added under its marked name
if neither the name itself, which says something, nor the marked one is known; it is called from
the open function and, unless it is dropped, listed once. So at every point of the second and the
third pass over any files, the external code that names stand for is the external code that is
listed, in the same order, and no two of it have the same name. -/
theorem analysis_appends_external_code :
    (∀ (context : Context) (body : List Tree) (s : Usage.State), ∃ parts : List (List Addition),
      parts.length ≤ (walkModule body).length ∧
      Added context.externals parts.flatten s.model (analyse context body s).2.model ∧
      ∀ i part, parts[i]? = some part → ∀ addition ∈ part,
        addition.code = (followAll context ((walkModule body).take i) s).2.openCode) ∧
    (∀ meeting : Meeting, meeting.element.kind = .code ∧
      meeting.element.technicalType = "ExternalPythonFunction") ∧
    ∀ order files model, Analysing order files model →
      model.symbols.values.filter (·.role = .external) = model.externals.toList ∧
        (model.externals.toList.map (·.uniqueName)).Nodup := by
  refine ⟨fun context body s => followAll_added context (walkModule body) s,
    fun _ => ⟨rfl, rfl⟩, fun order files model point => ?_⟩
  obtain ⟨additions, added⟩ := point.added
  have none := firstPass_externals files
  refine ⟨added.external_values_eq ?_, added.nodup_external_names none⟩
  rw [firstPass_external_values, none]

end CodeMap
