/-
What one file contributes to the usages of a project.

After the first pass no foreign name is known; a model of this sort without usages is bare. When a
file is analysed in its turn, external code of other files may be known already. Run beside an
analysis of the same file that starts with the bare model, this makes no difference but for the
external code itself (`analyseFile_contribution`). So the analysis of many files adds, file by file,
what each of them adds to the bare model, and the external code that it comes to know is that of the
single files, but for names with two marks (`analyseAll_contributed`).
-/

import CodeMap.Proofs.Alongside

namespace CodeMap

open Source Usage

/-! ### Models with more external code -/

namespace Model

/-- Foreign names stand for external code of a foreign name, other names for elements whose unique
names are not foreign. -/
structure Separated (model : Model) : Prop where
  foreign : ∀ {name element}, model.symbol? name = some element → Foreign name →
    Astray Foreign element
  own : ∀ {name element}, model.symbol? name = some element → ¬ Foreign name →
    ¬ Foreign element.uniqueName

theorem Separated.widen {first second : Model} (separated : first.Separated)
    (widens : first.Widens second) : second.Separated where
  foreign stands isForeign := by
    rcases widens.new stands with before | ⟨-, isExternal, rfl⟩
    · exact separated.foreign before isForeign
    · exact ⟨isExternal, isForeign⟩
  own stands notForeign := by
    rcases widens.new stands with before | ⟨isForeign, -⟩
    · exact separated.own before notForeign
    · exact absurd isForeign notForeign

theorem Domestic.separated {model : Model} (domestic : model.Domestic) : model.Separated where
  foreign stands isForeign := absurd isForeign (domestic.symbols stands).1
  own stands _ := (domestic.symbols stands).2

theorem Domestic.not_knows {model : Model} (domestic : model.Domestic) {name : String}
    (isForeign : Foreign name) : ¬ model.knows name = true := by
  intro known
  obtain ⟨element, stands⟩ := knows_iff.mp known
  exact (domestic.symbols stands).1 isForeign

/-- The model knows what the bare one knows, and beyond it external code at most. -/
structure CoveredBy (bare model : Model) : Prop where
  separated : model.Separated
  agree : ∀ {name}, ¬ Foreign name →
    Option.Rel Element.Alike (bare.symbol? name) (model.symbol? name)

variable {bare model after : Model}

theorem CoveredBy.widen (covered : bare.CoveredBy model) (widens : model.Widens after) :
    bare.CoveredBy after where
  separated := covered.separated.widen widens
  agree own := by
    rw [widens.symbol?_eq own]
    exact covered.agree own

theorem Domestic.covered (domestic : bare.Domestic) : bare.CoveredBy bare where
  separated := domestic.separated
  agree {name} _ := by
    cases bare.symbol? name with
    | none => exact .none
    | some element => exact .some (.refl element)

theorem CoveredBy.knows_iff (covered : bare.CoveredBy model) {name : String}
    (own : ¬ Foreign name) : model.knows name = true ↔ bare.knows name = true := by
  have alike := covered.agree own
  unfold knows
  generalize bare.symbol? name = found, model.symbol? name = other at alike ⊢
  cases alike <;> simp

/-- The calls of code of no foreign name. -/
def domesticCalls (model : Model) : List Call :=
  model.calls.toList.filter (¬ Foreign ·.called)

theorem domesticCalls_addCall (model : Model) (call : Call) :
    (model.addCall call).domesticCalls =
      model.domesticCalls ++ if Foreign call.called then [] else [call] := by
  rw [domesticCalls, addCall, Array.toList_push, List.filter_append, domesticCalls]
  by_cases h : Foreign call.called <;> simp [h]

/-- Meeting external code counts neither as a call of the project's own code nor as an access. -/
theorem usages_meet (policy : ExternalPolicy) (code : Option String) (name : String)
    (model : Model) :
    (model.meet policy code name).domesticCalls = model.domesticCalls ∧
      (model.meet policy code name).accesses = model.accesses := by
  unfold Model.meet
  split
  · exact ⟨rfl, rfl⟩
  · have isForeign := foreign_externalMark name
    cases policy <;>
      simp [meetExternal, domesticCalls, Model.addCall, Model.note, Model.bind, isForeign]

/-- A model after the first pass, with no usages and no foreign names. -/
structure Bare (model : Model) : Prop extends model.Domestic where
  calls : model.calls = #[]
  accesses : model.accesses = #[]

end Model

/-! ### One file -/

/-- The model `late` is what becomes of `start` when `alone` becomes of the bare model. -/
structure Contribution (bare start alone late : Model) : Prop where
  widens : bare.Widens alone
  covered : bare.CoveredBy late
  kept : ∀ {name}, start.knows name → late.knows name
  /-- All that was met has been met alone. -/
  within : ∀ {name}, late.knows name → start.knows name ∨ alone.knows name
  /-- What was met alone has been met, unless its name was known as that of external code. -/
  met : ∀ {name}, alone.knows (externalMark ++ name) →
    late.knows (externalMark ++ name) ∨ Foreign name ∧ late.knows name
  fresh : ∀ {name}, late.knows (externalMark ++ name) →
    start.knows (externalMark ++ name) ∨ ¬ start.knows name
  marked : ∀ {name}, alone.knows name → Foreign name →
    ∃ own, name = externalMark ++ own ∧ Tame Foreign own
  calls : ∃ new, alone.domesticCalls = bare.domesticCalls ++ new ∧
    late.domesticCalls = start.domesticCalls ++ new
  accesses : ∃ new, alone.accesses.toList = bare.accesses.toList ++ new ∧
    late.accesses.toList = start.accesses.toList ++ new

namespace Contribution

variable {bare start alone late : Model}

theorem refl (domestic : bare.Domestic) (covered : bare.CoveredBy start) :
    Contribution bare start bare start where
  widens := .refl bare
  covered := covered
  kept := id
  within := .inl
  met known := absurd known (domestic.not_knows (foreign_externalMark _))
  fresh := .inl
  marked known isForeign := absurd known (domestic.not_knows isForeign)
  calls := ⟨[], (List.append_nil _).symm, (List.append_nil _).symm⟩
  accesses := ⟨[], (List.append_nil _).symm, (List.append_nil _).symm⟩

theorem known (h : Contribution bare start alone late) (domestic : bare.Domestic) (name : String) :
    Known Foreign name (alone.symbol? name) (late.symbol? name) := by
  have separated := domestic.separated.widen h.widens
  by_cases isForeign : Foreign name
  · exact .unsure isForeign (fun _ stands => separated.foreign stands isForeign)
      fun _ stands => h.covered.separated.foreign stands isForeign
  · refine .sure isForeign ?_ fun _ stands => separated.own stands isForeign
    rw [h.widens.symbol?_eq isForeign]
    exact h.covered.agree isForeign

theorem knows_iff (h : Contribution bare start alone late) {name : String} (own : ¬ Foreign name) :
    late.knows name = true ↔ alone.knows name = true := by
  rw [h.covered.knows_iff own, Model.knows, Model.knows, h.widens.symbol?_eq own]

theorem addCall (h : Contribution bare start alone late) (caller : Option String)
    {called other : String} (alike : called = other ∨ Foreign called ∧ Foreign other) :
    Contribution bare start (alone.addCall ⟨caller, called⟩) (late.addCall ⟨caller, other⟩) where
  widens := h.widens.trans (.of_eq rfl rfl)
  covered := h.covered.widen (.of_eq rfl rfl)
  kept := h.kept
  within := h.within
  met := h.met
  fresh := h.fresh
  marked := h.marked
  accesses := h.accesses
  calls := by
    obtain ⟨new, first, second⟩ := h.calls
    simp only [Model.domesticCalls_addCall, first, second, List.append_assoc]
    rcases alike with rfl | ⟨isForeign, isForeign'⟩
    · exact ⟨_, rfl, rfl⟩
    · simp [isForeign, isForeign']

theorem addAccess (h : Contribution bare start alone late) (access : Access) :
    Contribution bare start (alone.addAccess access) (late.addAccess access) where
  widens := h.widens.trans (.of_eq rfl rfl)
  covered := h.covered.widen (.of_eq rfl rfl)
  kept := h.kept
  within := h.within
  met := h.met
  fresh := h.fresh
  marked := h.marked
  calls := h.calls
  accesses := by
    obtain ⟨new, first, second⟩ := h.accesses
    refine ⟨new ++ [access], ?_, ?_⟩
    · simp [Model.addAccess, first]
    · simp [Model.addAccess, second]

/-- A tame name is known alone only if it is known. -/
theorem knows_of_tame (h : Contribution bare start alone late) {name : String}
    (tame : Tame Foreign name) (known : alone.knows name) : late.knows name := by
  rcases tame with own | ⟨own, rfl, notForeign⟩
  · exact (h.knows_iff own).mpr known
  · rcases h.met known with met | ⟨isForeign, -⟩
    · exact met
    · exact absurd isForeign notForeign

theorem meet (h : Contribution bare start alone late) (policy : ExternalPolicy)
    (code : Option String) {name : String} (tame : Tame Foreign name) :
    Contribution bare start (alone.meet policy code name) (late.meet policy code name) := by
  have widens := Model.Widens.meet policy code name
  have aloneUsages := Model.usages_meet policy code name alone
  have lateUsages := Model.usages_meet policy code name late
  refine ⟨h.widens.trans (widens alone), h.covered.widen (widens late), ?_, ?_, ?_, ?_, ?_, ?_, ?_⟩
  · exact fun known => (widens late).knows (h.kept known)
  · intro other known
    rw [Model.knows_meet_iff] at known ⊢
    rcases known with known | ⟨rfl, unknown⟩
    · exact (h.within known).imp id .inl
    · exact .inr (.inr ⟨rfl, fun known => unknown (h.knows_of_tame tame known)⟩)
  · intro other known
    rw [Model.knows_meet_iff] at known
    rcases known with known | ⟨same, unknown⟩
    · exact (h.met known).imp (widens late).knows (And.imp id (widens late).knows)
    · obtain rfl := String.append_right_inj _ |>.mp same
      by_cases known : late.knows other
      · refine .inr ⟨?_, (widens late).knows known⟩
        exact Decidable.byContradiction fun own => unknown ((h.knows_iff own).mp known)
      · exact .inl ((Model.knows_meet_iff policy code).mpr (.inr ⟨rfl, known⟩))
  · intro other known
    rw [Model.knows_meet_iff] at known
    rcases known with known | ⟨same, unknown⟩
    · exact h.fresh known
    · obtain rfl := String.append_right_inj _ |>.mp same
      exact .inr fun known => unknown (h.kept known)
  · intro other known isForeign
    rw [Model.knows_meet_iff] at known
    rcases known with known | ⟨rfl, -⟩
    · exact h.marked known isForeign
    · exact ⟨name, rfl, tame⟩
  · rw [aloneUsages.1, lateUsages.1]
    exact h.calls
  · rw [aloneUsages.2, lateUsages.2]
    exact h.accesses

/-- The analysis alone and the one in its turn, side by side. -/
def pairing {bare : Model} (domestic : bare.Domestic) (start : Model) : Pairing where
  Unsure := Foreign
  Hidden _ := False
  Beside := Contribution bare start
  unsure_of_append := (foreign_append_dot _ _).mp
  unsure_mark _ := foreign_externalMark _
  sure_none := by decide
  known h := h.known domestic
  noteEarly h _ := ⟨h.widens.trans (.of_eq rfl rfl), h.covered, h.kept, h.within, h.met, h.fresh,
    h.marked, h.calls, h.accesses⟩
  noteLate h _ := ⟨h.widens, h.covered.widen (.of_eq rfl rfl), h.kept, h.within, h.met, h.fresh,
    h.marked, h.calls, h.accesses⟩
  addCall h caller _ _ := h.addCall caller
  addAccess h := h.addAccess
  meet h policy code _ _ := h.meet policy code

end Contribution

namespace Extraction

variable (order : Arrangement String) {bare start : Model} {file : ReadFile}

theorem analyseFile_contribution (domestic : bare.Domestic) (covered : bare.CoveredBy start)
    (own : file.Domestic) :
    Contribution bare start (analyseFile order bare file) (analyseFile order start file) := by
  have atFirst := Contribution.refl domestic covered
  cases read : file.trees with
  | error fault =>
    rw [analyseFile, analyseFile, read]
    exact (Contribution.pairing domestic start).noteLate
      ((Contribution.pairing domestic start).noteEarly atFirst _) _
  | ok trees =>
    have names := own.names
    rw [ReadFile.steps, read] at names
    have fits (step : Step) (taken : step ∈ walkModule trees) :
        step.Along (Contribution.pairing domestic start).Fits := by
      refine Step.along_of_walkModule (fun step taken => ⟨names step taken, ?_⟩) taken
      exact fun _ _ => id
    have beside : Usage.Beside (Contribution.pairing domestic start) { model := bare }
        { model := start } := .fresh atFirst
    have run := followAll_alongside (file.context order) own.module fits _ _ beside
    exact (Contribution.pairing domestic start).of_reporting run.2.model
      (analyseFile_reporting read order bare) (analyseFile_reporting read order start)

end Extraction

/-! ### Many files -/

/-- What becomes of `start` when the files are analysed. -/
structure Contributed (order : Arrangement String) (bare : Model) (files : List ReadFile)
    (start after : Model) : Prop where
  covered : bare.CoveredBy after
  kept : ∀ {name}, start.knows name → after.knows name
  within : ∀ {name}, after.knows name →
    start.knows name ∨ ∃ file ∈ files, (Extraction.analyseFile order bare file).knows name
  met : ∀ {name}, ∀ file ∈ files,
    (Extraction.analyseFile order bare file).knows (externalMark ++ name) →
      after.knows (externalMark ++ name) ∨ Foreign name ∧ after.knows name
  fresh : ∀ {name}, after.knows (externalMark ++ name) →
    start.knows (externalMark ++ name) ∨ ¬ start.knows name
  calls : after.domesticCalls = start.domesticCalls ++
    files.flatMap fun file => (Extraction.analyseFile order bare file).domesticCalls
  accesses : after.accesses.toList = start.accesses.toList ++
    files.flatMap fun file => (Extraction.analyseFile order bare file).accesses.toList

namespace Extraction

variable (order : Arrangement String) {bare start : Model} {files : List ReadFile}

/-- The analysis of files in their turn adds what the analysis of each of them adds to the bare
model. -/
theorem analyseAll_contributed (isBare : bare.Bare) (covered : bare.CoveredBy start)
    (own : ∀ file ∈ files, file.Domestic) :
    Contributed order bare files start (analyseAll order start files) := by
  induction files generalizing start with
  | nil => exact ⟨covered, id, .inl, nofun, .inl, by simp [analyseAll], by simp [analyseAll]⟩
  | cons file files ih =>
    have first := analyseFile_contribution order isBare.toDomestic covered
      (own file List.mem_cons_self)
    have rest := ih first.covered fun other member => own other (List.mem_cons_of_mem _ member)
    refine ⟨rest.covered, fun known => rest.kept (first.kept known), ?_, ?_, ?_, ?_, ?_⟩
    · intro name known
      rcases rest.within known with known | ⟨other, member, known⟩
      · exact (first.within known).imp id fun known => ⟨file, List.mem_cons_self, known⟩
      · exact .inr ⟨other, List.mem_cons_of_mem _ member, known⟩
    · intro name other member known
      rcases List.mem_cons.mp member with rfl | member
      · exact (first.met known).imp rest.kept (And.imp id rest.kept)
      · exact rest.met other member known
    · intro name known
      rcases rest.fresh known with known | unknown
      · exact first.fresh known
      · exact .inr fun known => unknown (first.kept known)
    · obtain ⟨new, alone, late⟩ := first.calls
      have none : bare.domesticCalls = [] := by rw [Model.domesticCalls, isBare.calls]; rfl
      rw [none, List.nil_append] at alone
      rw [List.flatMap_cons, ← List.append_assoc, alone, ← late]
      exact rest.calls
    · obtain ⟨new, alone, late⟩ := first.accesses
      rw [isBare.accesses, List.nil_append] at alone
      rw [List.flatMap_cons, ← List.append_assoc, alone, ← late]
      exact rest.accesses

end Extraction

end CodeMap
