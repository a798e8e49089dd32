/-
Calls whose value is assigned.

The assignment infers the type of the call before the call itself is followed. Inferring the type of
a construction records a call of the constructor, and inferring that of a name which stands for no
class may enter external code (`Inference`). Main statement: this is all that a call with its value
assigned has beyond the same call as a statement of its own, unless it reads the variable
(`assigned_call`). It may be a lot: a call of a built-in name alone enters nothing
(`assigned_builtin`).
-/

import CodeMap.Proofs.Alongside

namespace CodeMap

open Source Usage

/-! ### Models that agree on what they know -/

namespace Model

/-- The same names stand for the same elements. -/
structure SameNames (model other : Model) : Prop where
  made : other.made = model.made
  symbols : other.symbols = model.symbols
  externals : other.externals = model.externals

/-- The same calls have been recorded, too. -/
structure SameRecords (model other : Model) : Prop extends SameNames model other where
  calls : other.calls = model.calls

/-- The same calls have been recorded since the given ones. -/
structure GrownAlike (calls calls' : Array Call) (model other : Model) : Prop
    extends SameNames model other where
  calls : ∃ new, model.calls = calls ++ new ∧ other.calls = calls' ++ new

theorem calls_meetExternal (policy : ExternalPolicy) (code : Option String) (name : String)
    (model : Model) :
    (model.meetExternal policy code name).calls =
      model.calls.push ⟨code, externalMark ++ name⟩ := by
  cases policy <;> rfl

variable {model other third early late : Model} {calls calls' : Array Call}

namespace SameNames

theorem symbol?_eq (h : model.SameNames other) (name : String) :
    other.symbol? name = model.symbol? name := by
  rw [Model.symbol?, Model.symbol?, h.symbols]

theorem knows_eq (h : model.SameNames other) (name : String) :
    other.knows name = model.knows name := by
  rw [knows, knows, h.symbol?_eq]

theorem meetExternal (h : model.SameNames other) (policy : ExternalPolicy)
    (code : Option String) (name : String) :
    (model.meetExternal policy code name).SameNames (other.meetExternal policy code name) := by
  cases policy <;>
    constructor <;>
      simp [Model.meetExternal, Model.addCall, Model.note, Model.bind, h.made, h.symbols,
        h.externals]

end SameNames

namespace SameRecords

theorem trans (h : model.SameRecords other) (h' : other.SameRecords third) :
    model.SameRecords third :=
  ⟨⟨h'.made.trans h.made, h'.symbols.trans h.symbols, h'.externals.trans h.externals⟩,
    h'.calls.trans h.calls⟩

theorem addCall (h : model.SameRecords other) (call : Call) :
    (model.addCall call).SameRecords (other.addCall call) :=
  ⟨⟨h.made, h.symbols, h.externals⟩, congrArg (·.push call) h.calls⟩

theorem meetExternal (h : model.SameRecords other) (policy : ExternalPolicy)
    (code : Option String) (name : String) :
    (model.meetExternal policy code name).SameRecords (other.meetExternal policy code name) := by
  refine ⟨h.toSameNames.meetExternal policy code name, ?_⟩
  rw [calls_meetExternal, calls_meetExternal, h.calls]

theorem of_reporting (h : Reporting model other) : model.SameRecords other := by
  induction h with
  | refl => exact ⟨⟨rfl, rfl, rfl⟩, rfl⟩
  | note _ _ ih => exact ⟨⟨ih.made, ih.symbols, ih.externals⟩, ih.calls⟩

end SameRecords

namespace GrownAlike

theorem push (grown : ∃ new, early.calls = calls ++ new ∧ late.calls = calls' ++ new)
    (call : Call) :
    ∃ new, early.calls.push call = calls ++ new ∧ late.calls.push call = calls' ++ new := by
  obtain ⟨new, first, second⟩ := grown
  exact ⟨new.push call, by simp [first], by simp [second]⟩

theorem meet (h : GrownAlike calls calls' early late) (policy : ExternalPolicy)
    (code : Option String) (name : String) :
    GrownAlike calls calls' (early.meet policy code name) (late.meet policy code name) := by
  unfold Model.meet
  rw [h.knows_eq, h.knows_eq]
  split
  · exact h
  · refine ⟨h.toSameNames.meetExternal policy code name, ?_⟩
    rw [calls_meetExternal, calls_meetExternal]
    exact push h.calls _

/-- Runs that are sure of all names, and agree on all types but that of one variable. -/
def pairing (var : String) (calls calls' : Array Call) : Pairing where
  Unsure _ := False
  Hidden := (· = var)
  Beside := GrownAlike calls calls'
  unsure_of_append := id
  unsure_mark := id
  sure_none := id
  known {early late} h name := by
    refine .sure id ?_ fun _ _ => id
    rw [h.symbol?_eq]
    cases early.symbol? name with
    | none => exact .none
    | some element => exact .some (.refl element)
  noteEarly h _ := ⟨⟨h.made, h.symbols, h.externals⟩, h.calls⟩
  noteLate h _ := ⟨⟨h.made, h.symbols, h.externals⟩, h.calls⟩
  addCall h caller called other alike := by
    obtain rfl := alike.resolve_right fun unsure => unsure.1
    exact ⟨⟨h.made, h.symbols, h.externals⟩, push h.calls _⟩
  addAccess h _ := ⟨⟨h.made, h.symbols, h.externals⟩, h.calls⟩
  meet h policy code name _ _ := h.meet policy code name

end GrownAlike

end Model

/-! ### Runs that differ in one variable -/

namespace Usage

/-- The runs end alike, and record the same calls after the given ones. -/
structure SameUsages (calls calls' : Array Call) (run run' : Except Fault Unit × State) :
    Prop where
  result : run'.1 = run.1
  symbols : run'.2.model.symbols = run.2.model.symbols
  externals : run'.2.model.externals = run.2.model.externals
  calls : ∃ new, run.2.model.calls = calls ++ new ∧ run'.2.model.calls = calls' ++ new

theorem Agreeing.eq {α : Type} {result result' : Except Fault α}
    (h : Agreeing Eq result result') : result = result' := by
  cases result with
  | ok a =>
    cases result' with
    | ok b => exact congrArg Except.ok h
    | error fault => exact h.elim
  | error fault =>
    cases result' with
    | ok b => exact h.elim
    | error other => exact congrArg Except.error h

/-- A run over steps does not depend on the type of a variable that they do not read. -/
theorem followAll_sameUsages (context : Context) {var : String} {tree : Tree}
    (unread : ∀ step ∈ tree.walk, var ∉ step.spelled) {s t : State}
    (same : t = { s with model := t.model, localTypes := t.localTypes })
    (names : s.model.SameNames t.model) (locals : SameTypes (· = var) s.localTypes t.localTypes) :
    SameUsages s.model.calls t.model.calls (followAll context tree.walk s)
      (followAll context tree.walk t) := by
  -- All names are sure, so the condition on the steps is only that they do not read the variable.
  let pairing := Model.GrownAlike.pairing var s.model.calls t.model.calls
  have fits : tree.Along pairing.Fits := by
    refine fun step taken => ⟨fun _ _ => id, fun name read isVar => ?_⟩
    have isVar : name = var := isVar
    exact unread step taken (isVar ▸ read)
  have tame (name : String) : Tame pairing.Unsure name := .inl id
  have beside : Beside pairing s t := by
    refine ⟨same, ⟨names, #[], by simp, by simp⟩, locals, ?_, fun _ _ => id, fun _ => id⟩
    exact ⟨fun _ _ _ => tame _, fun _ _ _ => tame _, fun _ _ _ _ _ _ _ _ => tame _⟩
  obtain ⟨result, after⟩ :=
    followAll_alongside context id (fun step taken => fits.step taken) s t beside
  exact ⟨result.eq.symm, after.model.symbols, after.model.externals, after.model.calls⟩

/-! ### What the type of a call adds -/

/-- What inferring the type of a call adds to a model. -/
inductive Inference where
  | nothing
  /-- A call of the constructor of this unique name. -/
  | construction (init : String)
  /-- External code under this name. -/
  | external (name : String)
deriving DecidableEq, Repr

/-- Adds it, in the function `code`. -/
def Inference.apply (policy : ExternalPolicy) (code : Option String) (model : Model) :
    Inference → Model
  | .nothing => model
  | .construction init => model.addCall ⟨code, init⟩
  | .external name => model.meetExternal policy code name

/-- What inferring the type of a call of `func` adds. -/
def State.inference (state : State) (context : Context) (func : Tree) : Inference :=
  let name := dottedName? (innermostCallee func)
  match state.class? context name with
  | some element =>
    match (state.model.symbol? (element.uniqueName ++ ".__init__")).filter (·.isCode) with
    | some init => .construction init.uniqueName
    | none => .nothing
  | none =>
    match given name with
    | none => .nothing
    | some name =>
      if state.model.knows name ∨ state.model.knows (externalMark ++ name) then .nothing
      else .external name

theorem calledName?_apply (tree : Tree) (s : State) :
    ∃ model, Reporting s.model model ∧
      calledName? tree s = (dottedName? (innermostCallee tree), { s with model := model }) := by
  unfold calledName?
  generalize innermostCallee tree = callee
  cases callee with
  | «attribute» value attr =>
    cases dottedName? (.attribute value attr) with
    | none => exact ⟨s.model, .refl, rfl⟩
    | some name => exact ⟨_, .note _ .refl, rfl⟩
  | _ => exact ⟨s.model, .refl, rfl⟩

theorem constructed?_apply (context : Context) (func : Tree) (s : State) :
    ∃ type model, constructed? context func s = (type, { s with model := model }) ∧
      ((s.inference context func).apply context.externals s.openCode s.model).SameRecords
        model := by
  obtain ⟨named, naming, run⟩ := calledName?_apply func s
  obtain ⟨classed, classing, run'⟩ :=
    classOf?_apply context (dottedName? (innermostCallee func)) { s with model := named }
  have same : s.model.SameRecords classed := .of_reporting (naming.trans classing)
  have sameClass : ({ s with model := named } : State).class? context
      (dottedName? (innermostCallee func)) =
        s.class? context (dottedName? (innermostCallee func)) := by
    refine Reporting.class?_eq ?_ ?_ context _
    · exact naming
    · rfl
  unfold constructed? State.inference
  simp only [Tracking.bind_apply, run, run', sameClass]
  cases s.class? context (dottedName? (innermostCallee func)) with
  | some element =>
    simp only [Tracking.bind_apply, symbol?_apply, same.symbol?_eq]
    cases (s.model.symbol? (element.uniqueName ++ ".__init__")).filter (·.isCode) with
    | none => exact ⟨_, classed, rfl, same⟩
    | some init =>
      refine ⟨_, _, rfl, ?_⟩
      exact (same.addCall ⟨s.openCode, init.uniqueName⟩).trans (.of_reporting (.note _ .refl))
  | none =>
    dsimp only
    cases isGiven : given (dottedName? (innermostCallee func)) with
    | none =>
      rw [external?_none context.externals isGiven]
      exact ⟨_, classed, rfl, same⟩
    | some name =>
      obtain ⟨spelled, ne⟩ := given_eq_some isGiven
      rw [spelled, external?_some context.externals ne]
      refine ⟨_, _, rfl, ?_⟩
      dsimp only
      rw [Model.meet, same.knows_eq, same.knows_eq]
      split
      · exact same
      · exact same.meetExternal context.externals s.openCode name

/-! ### Following an assigned call -/

/-- Reading a name records at most an access. -/
theorem follow_name_apply (context : Context) (id : Identifier) (s : State) :
    ∃ model, follow context (.name id) s = (.ok (), { s with model := model }) ∧
      s.model.SameRecords model := by
  change ∃ model, (Except.ok (followName context id.text s).1, (followName context id.text s).2) =
    (Except.ok (), { s with model := model }) ∧ s.model.SameRecords model
  unfold followName recordAccess
  rw [Tracking.bind_apply]
  cases (openCode? s).1 with
  | none => exact ⟨s.model, rfl, .of_reporting .refl⟩
  | some code =>
    dsimp only
    rw [Tracking.bind_apply, symbol?_apply]
    cases ((openCode? s).2.model.symbol? (context.module ++ "." ++ id.text)).filter (·.isData) with
    | none => exact ⟨s.model, rfl, .of_reporting .refl⟩
    | some element => exact ⟨_, rfl, ⟨rfl, rfl, rfl⟩, rfl⟩

theorem followAssignment_apply (context : Context) {s : State} {code : String}
    (isOpen : given s.openCode = some code) (x : Identifier) (func : Tree)
    (args keywords : List Tree) :
    ∃ type model, followAssignment context [.name x] (.call func args keywords) s =
        (.ok (), { s with model := model, localTypes := s.localTypes.insert x.text type }) ∧
      ((s.inference context func).apply context.externals s.openCode s.model).SameRecords
        model := by
  obtain ⟨type, model, run, same⟩ := constructed?_apply context func s
  refine ⟨type, model.note (.variableAssigned x.text code type), ?_,
    same.trans (.of_reporting (.note _ .refl))⟩
  have opened : openCode? s = (some code, s) := by rw [← isOpen]; rfl
  have target : followTarget context code (.call func args keywords) (.name x) s =
      (.ok (), { s with
        model := model.note (.variableAssigned x.text code type)
        localTypes := s.localTypes.insert x.text type }) := by
    unfold followTarget
    change (liftM (constructed? context func) >>= fun type => _ : Analysis Unit) s = _
    rw [Analysis.lift_bind_apply, run]
    rfl
  unfold followAssignment
  rw [Analysis.lift_bind_apply, opened]
  change (followTarget context code (.call func args keywords) (.name x) >>= fun _ => pure ()) s = _
  rw [KeepingRun.bind_apply, target]
  rfl

/-- An identifier does not stand for an attribute. -/
theorem isOwn_attribute (attr : String) : isOwn ("self." ++ attr) = true := by
  rw [isOwn, List.isPrefixOf_iff_prefix, String.toList_append]
  exact List.prefix_append _ _

theorem isOwn_of_dot_not_mem {var : String} (single : '.' ∉ var.toList) : isOwn var = false := by
  rw [← Bool.not_eq_true, isOwn, List.isPrefixOf_iff_prefix]
  exact fun start => single (start.subset (by decide))

theorem isOwn_identifier (id : Identifier) : isOwn id.text = false :=
  isOwn_of_dot_not_mem id.dot_not_mem

theorem isOwn_first (name : String) : isOwn (Text.Dotted.first name) = false := by
  refine isOwn_of_dot_not_mem fun dot => ?_
  rw [Text.Dotted.first, String.toList_ofList] at dot
  simpa using List.mem_takeWhile_imp dot

theorem SameTypes.insert_identifier (types : VariableTypes) (x : Identifier)
    (type : Option String) : SameTypes (· = x.text) types (types.insert x.text type) := by
  refine ⟨fun other => ?_, ?_⟩
  · rw [Table.get?_insert_of_ne _ _ (Ne.symm other)]
  · rw [Table.insert, Entries.filter_put, isOwn_identifier]
    rfl

/-- A call with its value assigned is followed as the call alone, from a state that differs in what
its type has added and in the type of the variable. -/
theorem followAll_assign (context : Context) {s : State} {code : String}
    (isOpen : given s.openCode = some code) (position : Position) (x : Identifier) (func : Tree)
    (args keywords : List Tree) :
    ∃ t, followAll context (Tree.assign position [.name x] (.call func args keywords)).walk s =
        followAll context (Tree.call func args keywords).walk t ∧
      t = { s with model := t.model, localTypes := t.localTypes } ∧
      ((s.inference context func).apply context.externals s.openCode s.model).SameRecords
        t.model ∧
      SameTypes (· = x.text) s.localTypes t.localTypes := by
  obtain ⟨type, assigned, run, same⟩ := followAssignment_apply context isOpen x func args keywords
  obtain ⟨model, run', same'⟩ := follow_name_apply context x
    { s with model := assigned, localTypes := s.localTypes.insert x.text type }
  refine ⟨{ s with model := model, localTypes := s.localTypes.insert x.text type }, ?_, rfl,
    same.trans same', .insert_identifier _ _ _⟩
  have steps : (Tree.assign position [.name x] (.call func args keywords)).walk =
      .assign position [.name x] (.call func args keywords) ::
        .name x :: (Tree.call func args keywords).walk := by
    simp [Tree.walk, walkAll]
  have first : follow context (.assign position [.name x] (.call func args keywords)) s = _ := run
  rw [steps, followAll_cons_apply, first]
  dsimp only
  rw [followAll_cons_apply, run']

/-! ### Following the call of a known name -/

/-- What a name that is not imported stands for in a call, if it is not built in. -/
def State.called? (state : State) (context : Context) (id : Identifier) : Option Element :=
  if isBuiltin id.text then none else state.model.symbol? (context.module ++ "." ++ id.text)

/-- Neither a built-in name nor one of the module becomes external code. -/
theorem called?_apply (context : Context) {s : State} {id : Identifier}
    (unimported : s.imports.get? id.text = none)
    (known : isBuiltin id.text ∨ s.model.knows (context.module ++ "." ++ id.text)) :
    ∃ model, Reporting s.model model ∧
      Usage.called? context id.text s = (s.called? context id, { s with model := model }) := by
  have plain : Text.Dotted.isDotted id.text = false := by
    simpa [Text.Dotted.isDotted] using id.dot_not_mem
  unfold Usage.called? State.called? plainTarget?
  simp only [plain, Bool.false_and, Bool.false_eq_true, if_false, Tracking.bind_apply,
    Tracking.get_apply, unimported]
  cases isBuiltin : isBuiltin id.text with
  | true => exact ⟨_, .note _ .refl, rfl⟩
  | false =>
    have known := known.resolve_left (by simp [isBuiltin])
    have named : context.module ++ "." ++ id.text ≠ "" := by
      simp [String.append_eq_empty_iff]
    obtain ⟨element, stands⟩ := Model.knows_iff.mp known
    let noted := s.model.note (.globalResolved id.text (context.module ++ "." ++ id.text))
    refine ⟨noted, .note _ .refl, ?_⟩
    have run : codeOf? context.externals (context.module ++ "." ++ id.text)
        { s with model := noted } = _ := codeOf?_of_ne named _
    have unchanged : noted.meet context.externals s.openCode
        (context.module ++ "." ++ id.text) = noted := Model.meet_of_knows _ _ known
    have stands' : noted.symbol? (context.module ++ "." ++ id.text) = some element := stands
    rw [unchanged, stands', Option.some_or] at run
    rw [stands]
    exact run

theorem inferArguments_nil (context : Context) (code : String) (s : State) :
    ∃ model types, Reporting s.model model ∧
      inferArguments context code [] s =
        (.ok (), { s with model := model, parameterTypes := types }) := by
  unfold inferArguments
  rw [KeepingRun.bind_apply, Analysis.get_apply]
  dsimp only
  split
  · exact ⟨s.model, s.parameterTypes, .refl, rfl⟩
  · rw [Analysis.lift_bind_apply, symbol?_apply]
    dsimp only
    cases (s.model.symbol? code).filter (·.isCode) with
    | none => exact ⟨_, s.parameterTypes, .note (.calledMissing code) .refl, rfl⟩
    | some element =>
      dsimp only
      split
      · exact ⟨_, s.parameterTypes, .note (.parametersMissing code) .refl, rfl⟩
      · rw [KeepingRun.bind_apply, Analysis.get_apply]
        dsimp only
        split
        · exact ⟨s.model, s.parameterTypes, .refl, rfl⟩
        · exact ⟨s.model, _, .refl, rfl⟩

theorem followCall_apply (context : Context) {s : State} {code : String}
    (isOpen : given s.openCode = some code) {id : Identifier}
    (unimported : s.imports.get? id.text = none)
    (known : isBuiltin id.text ∨ s.model.knows (context.module ++ "." ++ id.text)) :
    ∃ model types, followCall context (.name id) [] s =
        (.ok (), { s with model := model, parameterTypes := types }) ∧
      (((s.called? context id).filter (·.isCode)).elim s.model fun element =>
        s.model.addCall ⟨s.openCode, element.uniqueName⟩).SameRecords model := by
  have spelled : calledName? (.name id) s = (some id.text, s) := by
    simp [calledName?, innermostCallee, dottedName?, reversedChain?]
  let noted := (note (.callProcessed (some id.text) s.openCode) s).2
  obtain ⟨called, calling, run⟩ := called?_apply context (s := noted) unimported known
  have run : Usage.called? context id.text noted =
    (s.called? context id, { s with model := called }) := run
  have same : s.model.SameRecords called := .of_reporting ((Reporting.note _ .refl).trans calling)
  have opened : openCode? { s with model := called } = (some code, { s with model := called }) := by
    rw [← isOpen]
    rfl
  unfold followCall
  rw [Analysis.lift_bind_apply, spelled, KeepingRun.bind_apply, Analysis.get_apply]
  dsimp only
  rw [Analysis.lift_bind_apply, Analysis.lift_bind_apply, run]
  dsimp only
  cases (s.called? context id).filter (·.isCode) with
  | none => exact ⟨called, s.parameterTypes, rfl, same⟩
  | some element =>
    dsimp only
    rw [Analysis.lift_bind_apply, opened]
    dsimp only
    rw [Analysis.lift_bind_apply, Analysis.lift_bind_apply]
    obtain ⟨model, types, inferring, run'⟩ := inferArguments_nil context element.uniqueName
      (note (.callRecorded code element.uniqueName)
        (recordCall element.uniqueName { s with model := called }).2).2
    rw [run']
    refine ⟨model, types, rfl, (same.addCall _).trans ?_⟩
    exact .of_reporting ((Reporting.note _ .refl).trans inferring)

theorem State.unknown_of_inference {s : State} {context : Context} {func : Tree} {name : String}
    (h : s.inference context func = .external name) : ¬ s.model.knows (externalMark ++ name) := by
  unfold State.inference at h
  dsimp only at h
  split at h
  · split at h <;> cases h
  · split at h
    · cases h
    · split at h
      · cases h
      · rename_i unknown
        cases h
        exact fun met => unknown (.inr met)

/-- The call of a built-in name, or of one of the module, enters no external code. It is recorded if
the name stands for code. -/
theorem followAll_call (context : Context) {s : State} {code : String}
    (isOpen : given s.openCode = some code) {id : Identifier}
    (unimported : s.imports.get? id.text = none)
    (known : isBuiltin id.text ∨ s.model.knows (context.module ++ "." ++ id.text)) :
    ∃ model types, followAll context (Tree.group [.call (.name id) [] []]).walk s =
        (.ok (), { s with model := model, parameterTypes := types }) ∧
      (((s.called? context id).filter (·.isCode)).elim s.model fun element =>
        s.model.addCall ⟨s.openCode, element.uniqueName⟩).SameRecords model := by
  obtain ⟨called, types, run, same⟩ := followCall_apply context isOpen unimported known
  obtain ⟨model, run', same'⟩ := follow_name_apply context id
    { s with model := called, parameterTypes := types }
  refine ⟨model, types, ?_, same.trans same'⟩
  have steps : (Tree.group [.call (.name id) [] []]).walk = [.call (.name id) [], .name id] := by
    simp [Tree.walk, walkAll]
  have first : follow context (.call (.name id) []) s = _ := run
  rw [steps, followAll_cons_apply, first]
  dsimp only
  rw [followAll_cons_apply, run']
  rfl

end Usage

/-- In a function, a call whose value is assigned has the same usages as the call as a statement of
its own, after what its type adds, unless it reads the variable: mostly nothing, but a call of the
constructor for a class that has one, and new external code for a name that is not known. The
statement itself enters no external code for a built-in name or one of the module, and it records a
call if the name stands for code, which a class does not. -/
theorem assigned_call (context : Context) (s : State) {code : String}
    (isOpen : given s.openCode = some code) :
    (∀ position x func args keywords,
      let call := Tree.call func args keywords
      (∀ step ∈ call.walk, x.text ∉ step.spelled) →
        let plain := followAll context (Tree.group [call]).walk s
        let assigned := followAll context (Tree.assign position [.name x] call).walk s
        match s.inference context func with
        | .nothing => SameUsages s.model.calls s.model.calls plain assigned
        | .construction init =>
          SameUsages s.model.calls (s.model.calls.push ⟨s.openCode, init⟩) plain assigned
        | .external name =>
          let entered := s.model.meetExternal context.externals s.openCode name
          ¬ s.model.knows (externalMark ++ name) ∧
            assigned.2.model.knows (externalMark ++ name) ∧
              SameUsages entered.calls entered.calls
                (followAll context (Tree.group [call]).walk { s with model := entered })
                assigned) ∧
      ∀ id : Identifier, s.imports.get? id.text = none →
        (isBuiltin id.text ∨ s.model.knows (context.module ++ "." ++ id.text)) →
          let plain := followAll context (Tree.group [.call (.name id) [] []]).walk s
          plain.1 = .ok () ∧ s.model.SameNames plain.2.model ∧
            plain.2.model.calls = s.model.calls ++
              (((s.called? context id).filter (·.isCode)).map fun element =>
                (⟨s.openCode, element.uniqueName⟩ : Call)).toArray := by
  constructor
  · intro position x func args keywords call unread plain assigned
    have alone : (Tree.group [call]).walk = call.walk := by simp [Tree.walk, walkAll]
    obtain ⟨t, run, same, records, locals⟩ :=
      followAll_assign context isOpen position x func args keywords
    have assignedRun : assigned = followAll context call.walk t := run
    have plainRun : plain = followAll context call.walk s := congrArg (followAll context · s) alone
    rw [assignedRun, plainRun]
    cases inferred : s.inference context func with
    | nothing =>
      rw [inferred] at records
      have usages := followAll_sameUsages context unread same records.toSameNames locals
      rwa [records.calls] at usages
    | construction init =>
      rw [inferred] at records
      have names : s.model.SameNames t.model := ⟨records.made, records.symbols, records.externals⟩
      have usages := followAll_sameUsages context unread same names locals
      rwa [records.calls] at usages
    | external name =>
      rw [inferred] at records
      let entered := s.model.meetExternal context.externals s.openCode name
      have usages := followAll_sameUsages (s := { s with model := entered }) context unread same
        records.toSameNames locals
      refine ⟨State.unknown_of_inference inferred, ?_, ?_⟩
      · have known : t.model.knows (externalMark ++ name) := by
          rw [records.knows_eq]
          exact (Model.knows_meetExternal _ _).mpr (.inl rfl)
        exact Model.Widens.knows (followAll_widening context call.walk t) known
      · rw [alone]
        rwa [records.calls] at usages
  · intro id unimported known plain
    obtain ⟨model, types, run, same⟩ := followAll_call context isOpen unimported known
    have run : plain = _ := run
    rw [run]
    cases called : (s.called? context id).filter (·.isCode) with
    | none =>
      rw [called] at same
      exact ⟨rfl, same.toSameNames, by simpa using same.calls⟩
    | some element =>
      rw [called] at same
      refine ⟨rfl, ⟨same.made, same.symbols, same.externals⟩, ?_⟩
      rw [same.calls]
      rfl

/-- A call of a built-in name. -/
def builtinCall : Tree := .call (.name ⟨"len", by decide⟩) [.name ⟨"y", by decide⟩] []

/-- The same with its value assigned. -/
def builtinAssigned : Tree := .assign ⟨1, 0⟩ [.name ⟨"x", by decide⟩] builtinCall

/-- The call alone adds nothing to a model, and with its value assigned it adds external code and a
call of it. -/
theorem assigned_builtin :
    let s : State := { openCode := some "m.f" }
    let plain := followAll { module := "m" } (Tree.group [builtinCall]).walk s
    let assigned := followAll { module := "m" } builtinAssigned.walk s
    (plain.2.model.externals = #[] ∧ plain.2.model.calls = #[]) ∧
      assigned.2.model.externals.map (·.uniqueName) = #["extP2S.len"] ∧
        assigned.2.model.calls = #[⟨some "m.f", "extP2S.len"⟩] := by
  decide +kernel

/-- This is the external code of its type. A call of the name alone enters nothing. -/
theorem assigned_call_builtin :
    let s : State := { openCode := some "m.f" }
    let assigned := followAll { module := "m" } builtinAssigned.walk s
    let plain := followAll { module := "m" }
      (Tree.group [.call (.name ⟨"len", by decide⟩) [] []]).walk s
    given s.openCode = some "m.f" ∧ (∀ step ∈ builtinCall.walk, "x" ∉ step.spelled) ∧
      (¬ s.model.knows "extP2S.len" ∧ assigned.2.model.knows "extP2S.len") ∧
        plain.1 = .ok () ∧ s.model.SameNames plain.2.model := by
  intro s assigned plain
  have isOpen : given s.openCode = some "m.f" := by decide
  have unread : ∀ step ∈ builtinCall.walk, "x" ∉ step.spelled := by decide
  have inferred : s.inference { module := "m" } (.name ⟨"len", by decide⟩) = .external "len" := by
    decide
  have usages := (assigned_call { module := "m" } s isOpen).1 ⟨1, 0⟩ ⟨"x", by decide⟩
    (.name ⟨"len", by decide⟩) [.name ⟨"y", by decide⟩] [] unread
  have alone := (assigned_call { module := "m" } s isOpen).2 ⟨"len", by decide⟩ rfl
    (.inl (by decide))
  rw [inferred] at usages
  exact ⟨isOpen, unread, ⟨usages.1, usages.2.1⟩, alone.1, alone.2.1⟩

end CodeMap
