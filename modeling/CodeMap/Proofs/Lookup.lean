/-
What is found under a name.

A name that is looked up leads to an element whose unique name is this name, or ends with a full
stop and this name (`Model.Sound`). Every definition keeps this, and so does external code, which is
found under its own unique name. Main statement: at every point of the three passes over any files
the model is sound, so what a called name or the name of a class leads to has a unique name that
ends with the name that was looked up (`lookups_sound`).
-/

import CodeMap.Proofs.Additions
import CodeMap.Proofs.Alongside
import CodeMap.Proofs.ShortNames

namespace CodeMap

open Source Text

/-- Every name leads to something whose unique name ends with it. -/
def Model.Sound (model : Model) : Prop :=
  ∀ name element, model.symbol? name = some element → Dotted.EndsWith element.uniqueName name

theorem Model.Names.sound {model : Model} {entered : List Naming} (names : model.Names entered)
    (ends : ∀ naming ∈ entered, Dotted.EndsWith naming.unique naming.short) : model.Sound := by
  intro name element stands
  have led := names.symbols name
  rw [stands, Option.map_some] at led
  obtain ⟨naming, member, leads⟩ := List.mem_flatMap.mp (Entries.mem_of_last? led.symm)
  unfold Naming.leads at leads
  split at leads
  · cases leads
  · simp only [List.mem_cons, Prod.mk.injEq, List.not_mem_nil, or_false] at leads
    rcases leads with ⟨rfl, isUnique⟩ | ⟨rfl, isUnique⟩
    · exact .inl isUnique
    · rw [isUnique]
      exact ends naming member

/-- External code is found under its own unique name. -/
theorem Model.Sound.added {policy : Usage.ExternalPolicy} {additions : List Usage.Addition}
    {model after : Model} (sound : model.Sound) (added : Usage.Added policy additions model after) :
    after.Sound := by
  intro name element stands
  have found := Table.get?_eq_some_iff.mp stands
  rw [added.symbols, List.mem_append] at found
  rcases found with earlier | met
  · exact sound name element (Table.get?_eq_some_iff.mpr earlier)
  · obtain ⟨meeting, -, same⟩ := List.mem_map.mp met
    cases same
    exact .inl rfl

/-! ### Points of the passes -/

theorem ReadFile.endsWith_short {file : ReadFile} {naming : Naming}
    (member : naming ∈ file.namings) : Dotted.EndsWith naming.unique naming.short := by
  obtain ⟨new, introduced, rfl⟩ := List.mem_map.mp member
  unfold ReadFile.introductions at introduced
  split at introduced
  · have inside : Definitions.Inside file.place.module {} := by simp [Definitions.Inside]
    exact Definitions.endsWith_short inside introduced
  · cases introduced

namespace Extraction

/-- The models that the first pass comes through: some files have been collected, and some steps of
the next one have been followed. -/
inductive Defining (files : List ReadFile) : Model → Prop where
  | between {done rest : List ReadFile} : files = done ++ rest → Defining files (collectAll {} done)
  | within {done rest : List ReadFile} {file : ReadFile} {trees : List Tree}
      {steps later : List Step} :
      files = done ++ file :: rest → file.trees = .ok trees → walkModule trees = steps ++ later →
        Defining files
          (steps.foldl (Definitions.State.step file.place) { model := collectAll {} done }).model

theorem Defining.sound {files : List ReadFile} {model : Model} (h : Defining files model) :
    model.Sound := by
  have ended {files : List ReadFile} {naming : Naming}
      (member : naming ∈ (files.flatMap ReadFile.namings).foldl Naming.enter []) :
      Dotted.EndsWith naming.unique naming.short := by
    rcases Naming.mem_of_mem_foldl_enter member with impossible | introduced
    · cases impossible
    · obtain ⟨file, -, own⟩ := List.mem_flatMap.mp introduced
      exact ReadFile.endsWith_short own
  cases h with
  | @between done => exact (collectAll_names .empty done).sound fun _ => ended
  | @within done _ file _ steps _ =>
    have atFirst : Definitions.State.Named file.place { model := collectAll {} done } _ :=
      ⟨collectAll_names .empty done, by simp⟩
    refine (Definitions.State.foldl_step_named atFirst steps).model.sound fun naming member => ?_
    rcases Naming.mem_of_mem_foldl_enter member with earlier | introduced
    · exact ended earlier
    · obtain ⟨new, introducedNow, rfl⟩ := List.mem_map.mp introduced
      have inside : Definitions.Inside file.place.module {} := by simp [Definitions.Inside]
      exact Definitions.endsWith_short inside introducedNow

/-- Among the points are those at which some steps of a file have been followed. -/
theorem Through.of_take {order : Arrangement String} {model : Model}
    {files done rest : List ReadFile} {file : ReadFile} (split : files = done ++ file :: rest)
    (count : Nat) :
    Through order model files (Usage.followAll (file.context order) (file.steps.take count)
      { model := analyseAll order model done }).2.model := by
  cases read : file.trees with
  | error fault =>
    have noSteps : file.steps = [] := by rw [ReadFile.steps, read]
    rw [noSteps, List.take_nil]
    exact .between split
  | ok trees =>
    have steps : file.steps = walkModule trees := by rw [ReadFile.steps, read]
    rw [steps]
    exact .within split read (List.take_append_drop count _).symm rfl .refl

theorem Analysing.sound {order : Arrangement String} {files : List ReadFile} {model : Model}
    (h : Analysing order files model) :
    model.Sound := by
  obtain ⟨additions, added⟩ := h.added
  have collected : Defining files (collectAll {} files) := .between (List.append_nil files).symm
  have atFirst : (firstPass files).Sound := collected.sound
  exact atFirst.added added

end Extraction

/-! ### Looking up -/

namespace Usage

variable {s : State} {context : Context} {element : Element}

/-- The name that is looked up for a called name: that of a method of the open class, or the unique
name that the called name stands for. A built-in name is not looked up. -/
def State.target? (state : State) (context : Context) (name : String) : Option String :=
  if Dotted.isDotted name && Dotted.first name = "self" then
    some (Event.orNone state.openClass ++ "." ++ Dotted.first (Dotted.afterFirst name))
  else if Dotted.isDotted name then (dottedTarget? context name state).1
  else (plainTarget? context name state).1

/-- The name that is looked up for the name of a class. -/
def State.classTarget (state : State) (context : Context) (name : String) : String :=
  (state.imports.get? name).getD (context.module ++ "." ++ name)

/-- External code is known under its name or under its marked name. -/
theorem external?_endsWith {policy : ExternalPolicy} {name known : String}
    (h : (external? policy (some name) s).1 = some known) : Dotted.EndsWith known name := by
  have marked : Dotted.EndsWith (externalMark ++ name) name := .inr ⟨"extP2S", rfl⟩
  rw [external?_apply] at h
  cases isGiven : given (some name) with
  | none => simp [isGiven] at h
  | some said =>
    have same : said = name := (Option.some.inj (given_eq_some isGiven).1).symm
    subst same
    simp only [isGiven] at h
    split at h
    · exact .inl (Option.some.inj h).symm
    · split at h <;> exact Option.some.inj h ▸ marked

theorem classOf?_endsWith (sound : s.model.Sound) {name : Option String}
    (h : (classOf? context name s).1 = some element) :
    ∃ said, name = some said ∧
      Dotted.EndsWith element.uniqueName (s.classTarget context said) := by
  obtain ⟨model, -, run⟩ := classOf?_apply context name s
  rw [run] at h
  obtain ⟨said, isGiven, found⟩ := Option.bind_eq_some_iff.mp h
  exact ⟨said, (given_eq_some isGiven).1, sound _ _ (Option.filter_eq_some_iff.mp found).1⟩

/-- What is found under a name as code, or else as external code, has a unique name that ends with
it. -/
theorem codeOf?_endsWith (sound : s.model.Sound) {policy : ExternalPolicy} {name : String}
    (h : (codeOf? policy name s).1 = some element) :
    Dotted.EndsWith element.uniqueName name := by
  unfold codeOf? at h
  rw [Tracking.bind_apply, symbol?_apply] at h
  cases found : (s.model.symbol? name).filter (·.isCode) with
  | some code =>
    rw [found] at h
    rw [← Option.some.inj h]
    exact sound name code (Option.filter_eq_some_iff.mp found).1
  | none =>
    rw [found] at h
    dsimp only at h
    rw [Tracking.bind_apply] at h
    obtain ⟨additions, added, -⟩ := (external?_extends (some name) s).recording.added
    have after := sound.added added
    cases known : (external? policy (some name) s).1 with
    | none => simp [known] at h
    | some key =>
      rw [known] at h
      exact (after key element h).trans (external?_endsWith known)

/-- A method of the open class is looked up under its unique name. -/
theorem ownMethod?_endsWith (sound : s.model.Sound) {name : String}
    (h : (ownMethod? name s).1 = some element) :
    Dotted.EndsWith element.uniqueName
      (Event.orNone s.openClass ++ "." ++ Dotted.first (Dotted.afterFirst name)) := by
  unfold ownMethod? at h
  simp only [Tracking.bind_apply, Tracking.get_apply, symbol?_apply] at h
  generalize Event.orNone s.openClass ++ "." ++ Dotted.first (Dotted.afterFirst name) = unique
    at h ⊢
  have reported (event : Event) : (note event s).2.model.symbol? unique = s.model.symbol? unique :=
    rfl
  rw [reported] at h
  cases found : (s.model.symbol? unique).filter (·.isCode) with
  | none =>
    rw [found] at h
    cases h
  | some method =>
    rw [found] at h
    rw [← Option.some.inj h]
    exact sound unique method (Option.filter_eq_some_iff.mp found).1

/-- Finding the target only reports, so it is looked up in the same table. -/
theorem endsWith_of_reports (sound : s.model.Sound) {find : Tracking (Option String)}
    (reports : Keeping Reports find) {next : Option String → Tracking (Option Element)}
    (h : ((find >>= next) s).1 = some element) (nothing : next none = pure none)
    (code : ∀ unique, next (some unique) = codeOf? context.externals unique) :
    ∃ target, (find s).1 = some target ∧ Dotted.EndsWith element.uniqueName target := by
  rw [Tracking.bind_apply] at h
  have same : (find s).2.model.Sound := by
    intro key found stands
    rw [Model.symbol?, (reports s).reporting.symbols_eq] at stands
    exact sound key found stands
  cases target : (find s).1 with
  | none =>
    rw [target, nothing] at h
    cases h
  | some unique =>
    rw [target, code] at h
    exact ⟨unique, rfl, codeOf?_endsWith same h⟩

theorem called?_endsWith (sound : s.model.Sound) {name : String}
    (h : (called? context name s).1 = some element) :
    ∃ target, s.target? context name = some target ∧
      Dotted.EndsWith element.uniqueName target := by
  unfold called? at h
  unfold State.target?
  split at h
  · rename_i isSelf
    rw [if_pos isSelf]
    exact ⟨_, rfl, ownMethod?_endsWith sound h⟩
  · rename_i notSelf
    rw [if_neg notSelf]
    split at h
    · rename_i dotted
      rw [if_pos dotted]
      exact endsWith_of_reports sound (dottedTarget?_reports context name) h rfl fun _ => rfl
    · rename_i plain
      rw [if_neg plain]
      exact endsWith_of_reports sound (plainTarget?_reports context name) h rfl fun _ => rfl

end Usage

/-- At every point of the three passes over any files, every name leads to an element whose unique
name is this name or ends with a full stop and this name. So what an analysis finds there for a
called name, or as the class of a name, has a unique name that ends in this way with the name that
was looked up. -/
theorem lookups_sound {order : Arrangement String} {files : List ReadFile} {model : Model}
    (point : Extraction.Defining files model ∨ Extraction.Analysing order files model) :
    (∀ entry ∈ model.symbols.entries, Dotted.EndsWith entry.2.uniqueName entry.1) ∧
    ∀ (context : Usage.Context) (state : Usage.State), state.model = model →
      (∀ name element, (Usage.called? context name state).1 = some element →
        ∃ target, state.target? context name = some target ∧
          Dotted.EndsWith element.uniqueName target) ∧
      ∀ name element, (Usage.classOf? context name state).1 = some element →
        ∃ said, name = some said ∧
          Dotted.EndsWith element.uniqueName (state.classTarget context said) := by
  have sound : model.Sound := by
    rcases point with defining | analysing
    · exact defining.sound
    · exact analysing.sound
  refine ⟨fun entry member => sound _ _ (Table.get?_eq_some_iff.mpr member), ?_⟩
  rintro context state rfl
  exact ⟨fun _ _ => Usage.called?_endsWith sound, fun _ _ => Usage.classOf?_endsWith sound⟩

/-- A class with a method, and a function of another file that imports the class under the short
name of its module and calls the method. -/
def shortImportProject : Project where
  name := "p"
  folder := "/"
  files :=
    [{ path := "p/m.py"
       inner := ["m.py"]
       bytes := "class A:\n def f(self):\n  pass\n".toUTF8.toList },
     { path := "p/n.py"
       inner := ["n.py"]
       bytes := "from m import A\ndef g():\n A.f()\n".toUTF8.toList }]

/-- The state in which the second pass comes to the call. -/
def shortImportCall : Usage.State :=
  let files := shortImportProject.readFiles
  let file := files.getLast (List.cons_ne_nil _ _)
  (Usage.followAll (file.context .ascending) (file.steps.take 3)
    { model := Extraction.analyseAll .ascending (Extraction.firstPass files) files.dropLast }).2

/-- The method is found under its short name. -/
theorem shortImportCall_lookup :
    let files := shortImportProject.readFiles
    let context : Usage.Context := { module := "p.n" }
    Extraction.Analysing .ascending files shortImportCall.model ∧
      shortImportCall.target? context "A.f" = some "m.A.f" ∧
      (Usage.called? context "A.f" shortImportCall).1.map (·.uniqueName) = some "p.m.A.f" ∧
      Dotted.EndsWith "p.m.A.f" "m.A.f" := by
  intro files context
  have point : Extraction.Analysing .ascending files shortImportCall.model :=
    .second (.of_take (List.dropLast_append_getLast _).symm 3)
  have found : (Usage.called? context "A.f" shortImportCall).1.map (·.uniqueName) =
      some "p.m.A.f" := by decide +kernel
  have target : shortImportCall.target? context "A.f" = some "m.A.f" := by decide +kernel
  refine ⟨point, target, found, ?_⟩
  obtain ⟨element, called, named⟩ := Option.map_eq_some_iff.mp found
  obtain ⟨looked, isTarget, ends⟩ :=
    ((lookups_sound (.inr point)).2 context shortImportCall rfl).1 "A.f" element called
  rw [target] at isTarget
  rw [← named, Option.some.inj isTarget]
  exact ends

end CodeMap
