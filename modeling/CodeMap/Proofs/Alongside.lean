/-
The functions of the analysis, run side by side.

From states side by side every function of the analysis comes to the same result in both runs, but
where a name leads to external code: the two runs may then find different external code. Such code
has no parameters, so nothing is inferred for it. A function may ask only for what the runs have in
common (`Pairing.Fits`): names that start with sure ones, and the types of variables that are not
hidden. Main statement: the run over steps that fit keeps states side by side
(`followAll_alongside`).
-/

import CodeMap.Proofs.Beside

namespace CodeMap.Usage

open Source

variable {pairing : Pairing}

/-! ### Small steps -/

/-- Reports may differ. -/
theorem note_alongside (event other : Event) :
    Alongside pairing (note event) (note other) Eq :=
  fun _ _ beside => ⟨rfl, beside.with_model
    (pairing.noteLate (pairing.noteEarly beside.model event) other)⟩

theorem symbol?_alongside (name : String) :
    Alongside pairing (symbol? name) (symbol? name) (Known pairing.Unsure name) :=
  fun _ _ beside => ⟨beside.known name, beside⟩

/-- The runs come to the same type, and to a tame one if they come to any. -/
def SameTame (pairing : Pairing) (type other : Option String) : Prop :=
  type = other ∧ ∀ name ∈ type, Tame pairing.Unsure name

theorem setVariable_alongside (var : String) {type : Option String}
    (tame : ∀ name ∈ type, Tame pairing.Unsure name) :
    Alongside pairing (setVariable var type) (setVariable var type) Eq :=
  fun _ _ beside => ⟨rfl, beside.with_locals (beside.locals.insert var type)
    (beside.typed.locals.insert var tame)⟩

theorem setAttribute_alongside (attr : String) {type : Option String}
    (tame : ∀ name ∈ type, Tame pairing.Unsure name) :
    Alongside pairing (setAttribute attr type) (setAttribute attr type) Eq := by
  refine fun s t beside => ⟨rfl, beside.update
    (fun state => { state with attributeTypes := state.attributeTypes.insert attr type })
    (fun _ _ _ => rfl) ?_ beside.openClass beside.imports⟩
  exact ⟨beside.typed.locals, beside.typed.attributes.insert attr tame, beside.typed.parameters⟩

/-- Types of parameters that are made from those that are known. -/
theorem setParameters_alongside (code : String) (change : Table TypeSet → Table TypeSet)
    (tame : ∀ parameters, ParametersAre (Tame pairing.Unsure) parameters →
      ParametersAre (Tame pairing.Unsure) (change parameters)) :
    let set : State → State := fun state => { state with
      parameterTypes := state.parameterTypes.insert code
        (change ((state.parameterTypes.get? code).getD ∅)) }
    Alongside pairing (modify set) (modify set) Eq := by
  refine fun s t beside => ⟨rfl, beside.update
    (fun state => { state with
      parameterTypes := state.parameterTypes.insert code
        (change ((state.parameterTypes.get? code).getD ∅)) })
    (fun _ _ _ => rfl) ?_ beside.openClass beside.imports⟩
  exact beside.typed.insert_parameters code (tame _ (beside.typed.parameters_getD code))

/-- The scopes have no influence. -/
theorem setScopes_alongside (change : List String → List String) :
    Alongside pairing (modify fun state => { state with scopes := change state.scopes })
      (modify fun state => { state with scopes := change state.scopes }) Eq :=
  fun _ _ beside => ⟨rfl, beside.update
    (fun state => { state with scopes := change state.scopes }) (fun _ _ _ => rfl)
    ⟨beside.typed.locals, beside.typed.attributes, beside.typed.parameters⟩
    beside.openClass beside.imports⟩

theorem openCode?_alongside : Alongside pairing openCode? openCode? Eq :=
  fun _ _ beside => ⟨congrArg given beside.openCode_eq.symm, beside⟩

theorem typeOf?_alongside (lookup : Lookup) {var : String} (seen : ¬ pairing.Hidden var) :
    Alongside pairing (typeOf? lookup var) (typeOf? lookup var) (SameTame pairing) := by
  refine .get_bind fun s t beside => ?_
  rw [← beside.locals.seen seen, beside.attributeTypes_eq]
  split
  · rename_i type isGiven
    refine .pure ⟨rfl, ?_⟩
    rintro _ ⟨⟩
    exact beside.typed.locals var type (Option.join_eq_some_iff.mp (given_eq_some isGiven).1)
  · refine .pure ⟨rfl, fun type found => ?_⟩
    exact beside.typed.attributes var type (Option.join_eq_some_iff.mp (lookup.sound found))

theorem recordCall_alongside {called other : String}
    (alike : called = other ∨ pairing.Unsure called ∧ pairing.Unsure other) :
    Alongside pairing (recordCall called) (recordCall other) Eq := by
  intro s t beside
  refine ⟨rfl, beside.with_model ?_⟩
  rw [beside.openCode_eq]
  exact pairing.addCall beside.model s.openCode alike

theorem recordAccess_alongside (code name : String) :
    Alongside pairing (recordAccess code name) (recordAccess code name) Eq := by
  refine (symbol?_alongside name).bind fun found other known => ?_
  have alike : Option.Rel Element.Alike (found.filter (·.isData)) (other.filter (·.isData)) :=
    (known.filter_kind (show Kind.data ≠ .code by decide)).1
  generalize found.filter (·.isData) = data, other.filter (·.isData) = data' at alike ⊢
  cases alike with
  | none => exact .pure rfl
  | some alike =>
    dsimp only
    rw [← alike.uniqueName]
    refine Alongside.bind_eq (fun s t beside => ⟨rfl, beside.with_model ?_⟩) fun _ =>
      note_alongside _ _
    exact pairing.addAccess beside.model _

/-! ### From names to elements -/

/-- All that a step asks for agrees in the runs. -/
structure Pairing.Fits (pairing : Pairing) (step : Step) : Prop where
  roots : ∀ root ∈ step.roots, ¬ pairing.Unsure root
  spelled : ∀ name ∈ step.spelled, ¬ pairing.Hidden name

/-- The runs agree on the name of a chain and on its first part. -/
theorem Pairing.Fits.of_dottedName? {tree : Tree} (fits : tree.Along pairing.Fits) {name : String}
    (spelled : dottedName? tree = some name) :
    ¬ pairing.Unsure name ∧ ¬ pairing.Hidden (Text.Dotted.first name) := by
  obtain ⟨start, fits, whole⟩ := fits.exists_of_dottedName? spelled
  have sure := fits.roots start.text List.mem_cons_self
  have seen := fits.spelled start.text List.mem_cons_self
  rcases whole with rfl | ⟨rest, rfl⟩
  · rw [Text.Dotted.first_identifier]
    exact ⟨sure, seen⟩
  · rw [Text.Dotted.first_append_dot, Text.Dotted.first_identifier]
    exact ⟨pairing.sure_append sure rest, seen⟩

theorem calledName?_alongside (tree : Tree) :
    Alongside pairing (calledName? tree) (calledName? tree) fun found other =>
      found = other ∧ found = dottedName? (innermostCallee tree) := by
  unfold calledName?
  dsimp only
  split
  · rename_i spelled
    exact (note_alongside _ _).bind_eq fun _ => .pure ⟨rfl, spelled.symm⟩
  · exact .pure ⟨rfl, rfl⟩

theorem classOf?_alongside (context : Context) (name : Option String) :
    Alongside pairing (classOf? context name) (classOf? context name) fun found other =>
      Option.Rel Element.Alike found other ∧
        ∀ element ∈ found, ¬ pairing.Unsure element.uniqueName := by
  unfold classOf?
  cases given name with
  | none => exact .pure ⟨.none, by simp⟩
  | some name =>
    refine .get_bind fun s t beside => ?_
    rw [beside.imports_eq]
    refine (symbol?_alongside _).bind fun found other known => ?_
    have classes : Option.Rel Element.Alike (found.filter (·.isGrouping))
        (other.filter (·.isGrouping)) ∧
          ∀ element ∈ found.filter (·.isGrouping), ¬ pairing.Unsure element.uniqueName :=
      known.filter_kind (show Kind.grouping ≠ .code by decide)
    obtain ⟨alike, sure⟩ := classes
    generalize found.filter (·.isGrouping) = class?, other.filter (·.isGrouping) = class?'
      at alike sure ⊢
    cases alike with
    | none => exact (note_alongside _ _).bind_eq fun _ => .pure ⟨.none, by simp⟩
    | some alike => exact (note_alongside _ _).bind_eq fun _ => .pure ⟨.some alike, sure⟩

/-- The runs come to the same unique name, a tame one. -/
theorem dottedTarget?_alongside (context : Context) (own : ¬ pairing.Unsure context.module)
    {name : String} (seen : ¬ pairing.Hidden (Text.Dotted.first name)) :
    Alongside pairing (dottedTarget? context name) (dottedTarget? context name)
      (SameTame pairing) := by
  refine (typeOf?_alongside _ seen).bind ?_
  rintro type _ ⟨rfl, tame⟩
  cases isGiven : given type with
  | some type =>
    refine (note_alongside _ _).bind_eq fun _ => .pure ⟨rfl, ?_⟩
    rintro _ ⟨⟩
    exact (tame type (given_eq_some isGiven).1).append _
  | none =>
    refine .get_bind fun s t beside => ?_
    rw [beside.imports_eq]
    cases imported : s.imports.get? (Text.Dotted.first name) with
    | some full =>
      refine (note_alongside _ _).bind_eq fun _ => .pure ⟨rfl, ?_⟩
      rintro _ ⟨⟩
      exact .inl (pairing.sure_append (beside.imports imported) _)
    | none =>
      dsimp only
      split
      · exact (note_alongside _ _).bind_eq fun _ => .pure ⟨rfl, by simp⟩
      · refine (note_alongside _ _).bind_eq fun _ => .pure ⟨rfl, ?_⟩
        rintro _ ⟨⟩
        exact .inl (pairing.sure_append own _)

theorem plainTarget?_alongside (context : Context) (own : ¬ pairing.Unsure context.module)
    (name : String) :
    Alongside pairing (plainTarget? context name) (plainTarget? context name)
      (SameTame pairing) := by
  refine .get_bind fun s t beside => ?_
  rw [beside.imports_eq]
  cases imported : s.imports.get? name with
  | some full =>
    refine (note_alongside _ _).bind_eq fun _ => .pure ⟨rfl, ?_⟩
    rintro _ ⟨⟩
    exact .inl (beside.imports imported)
  | none =>
    dsimp only
    split
    · exact (note_alongside _ _).bind_eq fun _ => .pure ⟨rfl, by simp⟩
    · refine (note_alongside _ _).bind_eq fun _ => .pure ⟨rfl, ?_⟩
      rintro _ ⟨⟩
      exact .inl (pairing.sure_append own _)

/-- What the runs find: elements alike, or external code both of them. -/
inductive Found (Unsure : String → Prop) : Option Element → Option Element → Prop where
  | same {found other : Option Element} :
      Option.Rel Element.Alike found other → Found Unsure found other
  | astray {element other : Element} : Astray Unsure element → Astray Unsure other →
      Found Unsure (some element) (some other)

theorem Found.filter_code {Unsure : String → Prop} {found found' : Option Element}
    (h : Found Unsure found found') :
    Found Unsure (found.filter (·.isCode)) (found'.filter (·.isCode)) := by
  cases h with
  | same alike => exact .same (Element.Alike.filter_kind alike .code)
  | @astray element other astray astray' =>
    have isCode {element : Element} (astray : Astray Unsure element) : element.isCode = true := by
      simp [Element.isCode, Element.kind, astray.role, Role.kind]
    simpa [Option.filter, isCode astray, isCode astray'] using Found.astray astray astray'

theorem ownMethod?_alongside (name : String) :
    Alongside pairing (ownMethod? name) (ownMethod? name) (Found pairing.Unsure) := by
  refine .get_bind fun s t beside => ?_
  rw [beside.openClass_eq]
  have sure (method : String) :
      ¬ pairing.Unsure (Event.orNone s.openClass ++ "." ++ method) := by
    refine pairing.sure_append ?_ method
    cases isOpen : s.openClass with
    | none => exact pairing.sure_none
    | some owner => exact beside.openClass owner isOpen
  refine (note_alongside _ _).bind_eq fun _ =>
    (symbol?_alongside _).bind fun found other known => ?_
  have alike : Option.Rel Element.Alike (found.filter (·.isCode)) (other.filter (·.isCode)) :=
    Element.Alike.filter_kind (known.alike_of_sure (sure _)) .code
  generalize found.filter (·.isCode) = code, other.filter (·.isCode) = code' at alike ⊢
  cases alike with
  | none => exact (note_alongside _ _).bind_eq fun _ => .pure (.same .none)
  | some alike => exact .pure (.same (.some alike))

/-! ### External code -/

theorem external?_none (policy : ExternalPolicy) {name : Option String}
    (nothing : given name = none) (s : State) : external? policy name s = (none, s) := by
  rw [external?_apply, nothing]

/-- A name leads to itself or to external code, which is entered if it has to be. -/
theorem external?_some (policy : ExternalPolicy) {name : String} (named : name ≠ "") (s : State) :
    external? policy (some name) s =
      (some (if s.model.knows name then name else externalMark ++ name),
        { s with model := s.model.meet policy s.openCode name }) := by
  have isGiven : given (some name) = some name := given_some named
  rw [external?_apply, isGiven, Model.meet, Model.knows, Model.knows]
  by_cases known : (s.model.symbol? name).isSome
  · simp [known]
  · by_cases met : (s.model.symbol? (externalMark ++ name)).isSome <;> simp [known, met]

theorem Beside.meet {s t : State} (beside : Beside pairing s t) (policy : ExternalPolicy)
    {name : String} (named : name ≠ "") (tame : Tame pairing.Unsure name) :
    Beside pairing { s with model := s.model.meet policy s.openCode name }
      { t with model := t.model.meet policy t.openCode name } := by
  have models : pairing.Beside (s.model.meet policy s.openCode name)
      (t.model.meet policy t.openCode name) := by
    rw [beside.openCode_eq]
    exact pairing.meet beside.model policy s.openCode named tame
  exact beside.with_model models

/-- A sure name leads both runs to the same name. -/
theorem external?_alongside (policy : ExternalPolicy) {name : Option String}
    (sure : ∀ spelled ∈ name, ¬ pairing.Unsure spelled) :
    Alongside pairing (external? policy name) (external? policy name) (SameTame pairing) := by
  intro s t beside
  cases isGiven : given name with
  | none =>
    rw [external?_none policy isGiven, external?_none policy isGiven]
    exact ⟨⟨rfl, by simp⟩, beside⟩
  | some spelled =>
    obtain ⟨rfl, named⟩ := given_eq_some isGiven
    have sure := sure spelled rfl
    have same := beside.knows_eq sure
    rw [external?_some policy named, external?_some policy named]
    refine ⟨⟨by rw [same], ?_⟩, beside.meet policy named (.inl sure)⟩
    rintro _ ⟨⟩
    split
    · exact .inl sure
    · exact .inr ⟨spelled, rfl, sure⟩

/-- The code that a name stands for, as external code if it stands for none. -/
def codeOf? (policy : ExternalPolicy) (name : String) : Tracking (Option Element) := do
  match (← symbol? name).filter (·.isCode) with
  | some element => return some element
  | none =>
    match ← external? policy (some name) with
    | some known => symbol? known
    | none => return none

theorem codeOf?_empty (policy : ExternalPolicy) (s : State) :
    codeOf? policy "" s = ((s.model.symbol? "").filter (·.isCode), s) := by
  unfold codeOf?
  rw [Tracking.bind_apply, symbol?_apply]
  cases (s.model.symbol? "").filter (·.isCode) <;> rfl

/-- A name that stands for something stands for it as external code too. -/
theorem codeOf?_of_ne {policy : ExternalPolicy} {name : String} (named : name ≠ "") (s : State) :
    codeOf? policy name s =
      ((s.model.symbol? name).or
          ((s.model.meet policy s.openCode name).symbol? (externalMark ++ name)),
        { s with model := s.model.meet policy s.openCode name }) := by
  unfold codeOf?
  rw [Tracking.bind_apply, symbol?_apply]
  cases known : s.model.symbol? name with
  | none => simp [external?_some policy named, known, Model.knows]
  | some element =>
    have knows : s.model.knows name = true := Model.knows_iff.mpr ⟨element, known⟩
    have unchanged := Model.meet_of_knows policy s.openCode knows
    cases isCode : element.isCode with
    | true => simp [Option.filter, isCode, unchanged]
    | false => simp [Option.filter, isCode, external?_some policy named, known, knows, unchanged]

/-- A name that is asked for leads somewhere then. -/
theorem isSome_or_meet (policy : ExternalPolicy) (code : Option String) (name : String)
    (model : Model) :
    ((model.symbol? name).or
      ((model.meet policy code name).symbol? (externalMark ++ name))).isSome := by
  cases known : model.symbol? name with
  | some element => rfl
  | none =>
    have unknown := Model.not_knows_iff.mpr known
    exact (Model.knows_meet_iff policy code).mpr (.inr ⟨rfl, unknown⟩)

/-- Code that both runs are led to by a name that they are unsure of. -/
theorem Found.of_unsure {Unsure : String → Prop} {found met found' met' : Option Element}
    (led : (found.or met).isSome) (led' : (found'.or met').isSome)
    (astray : ∀ element, element ∈ found ∨ element ∈ met → Astray Unsure element)
    (astray' : ∀ element, element ∈ found' ∨ element ∈ met' → Astray Unsure element) :
    Found Unsure (found.or met) (found'.or met') := by
  obtain ⟨element, same⟩ := Option.isSome_iff_exists.mp led
  obtain ⟨other, same'⟩ := Option.isSome_iff_exists.mp led'
  rw [same, same']
  refine .astray (astray element ?_) (astray' other ?_)
  · exact (Option.or_eq_some_iff.mp same).imp id And.right
  · exact (Option.or_eq_some_iff.mp same').imp id And.right

/-- A tame name leads both runs to elements alike, or both to external code. -/
theorem codeOf?_alongside (policy : ExternalPolicy) {name : String}
    (tame : Tame pairing.Unsure name) :
    Alongside pairing (codeOf? policy name) (codeOf? policy name) (Found pairing.Unsure) := by
  intro s t beside
  by_cases named : name = ""
  · subst named
    have sure : ¬ pairing.Unsure "" := by
      refine tame.resolve_right ?_
      rintro ⟨own, empty, -⟩
      simp [externalMark, String.ext_iff] at empty
    rw [codeOf?_empty, codeOf?_empty]
    exact ⟨.same (Element.Alike.filter_kind ((beside.known "").alike_of_sure sure) .code), beside⟩
  · have after := beside.meet policy named tame
    have led := isSome_or_meet policy s.openCode name s.model
    have led' := isSome_or_meet policy t.openCode name t.model
    rw [codeOf?_of_ne named, codeOf?_of_ne named]
    refine ⟨?_, after⟩
    have known := beside.known name
    have met := after.known (externalMark ++ name)
    dsimp only at met ⊢
    generalize s.model.symbol? name = found, t.model.symbol? name = found',
      (s.model.meet policy s.openCode name).symbol? (externalMark ++ name) = entered,
      (t.model.meet policy t.openCode name).symbol? (externalMark ++ name) = entered'
      at known met led led' ⊢
    cases known with
    | sure _ alike _ =>
      cases alike with
      | some alike => exact .same (.some alike)
      | none =>
        cases met with
        | sure _ alike _ => exact .same alike
        | unsure _ astray astray' =>
          refine .of_unsure led led' ?_ ?_
          · simpa using astray
          · simpa using astray'
    | unsure unsure astray astray' =>
      cases met with
      | sure sure _ _ => exact absurd (pairing.unsure_mark unsure) sure
      | unsure _ entered entered' =>
        refine .of_unsure led led' ?_ ?_
        · exact fun element either => either.elim (astray element) (entered element)
        · exact fun element either => either.elim (astray' element) (entered' element)

/-- A called name leads both runs to elements alike, or both to external code. -/
theorem called?_alongside (context : Context) (own : ¬ pairing.Unsure context.module)
    {name : String} (seen : ¬ pairing.Hidden (Text.Dotted.first name)) :
    Alongside pairing (called? context name) (called? context name) (Found pairing.Unsure) := by
  unfold called?
  split
  · exact ownMethod?_alongside name
  · have target : Alongside pairing
        (if Text.Dotted.isDotted name then dottedTarget? context name
          else plainTarget? context name)
        (if Text.Dotted.isDotted name then dottedTarget? context name
          else plainTarget? context name) (SameTame pairing) := by
      split
      · exact dottedTarget?_alongside context own seen
      · exact plainTarget?_alongside context own name
    refine target.bind ?_
    rintro unique _ ⟨rfl, tame⟩
    cases unique with
    | none => exact .pure (.same .none)
    | some unique => exact codeOf?_alongside context.externals (tame unique rfl)

/-! ### Types -/

theorem sure_init {name : String} (sure : ¬ pairing.Unsure name) :
    ¬ pairing.Unsure (name ++ ".__init__") := by
  have split : name ++ ".__init__" = name ++ "." ++ "__init__" := by
    rw [String.append_assoc]
    rfl
  rw [split]
  exact pairing.sure_append sure _

theorem constructed?_alongside (context : Context) {func : Tree}
    (fits : func.Along pairing.Fits) :
    Alongside pairing (constructed? context func) (constructed? context func)
      (SameTame pairing) := by
  refine (calledName?_alongside func).bind ?_
  rintro name _ ⟨rfl, spelled⟩
  refine (classOf?_alongside context name).bind ?_
  rintro found other ⟨alike, sure⟩
  cases alike with
  | none =>
    refine external?_alongside context.externals fun other isName => ?_
    exact (Pairing.Fits.of_dottedName? fits.innermostCallee (spelled.symm.trans isName)).1
  | @some element other alike =>
    have sure := sure element rfl
    have same : SameTame pairing (some element.uniqueName) (some other.uniqueName) := by
      refine ⟨congrArg some alike.uniqueName, ?_⟩
      rintro _ ⟨⟩
      exact .inl sure
    dsimp only
    rw [← alike.uniqueName] at same ⊢
    refine (symbol?_alongside _).bind fun found other known => ?_
    have init : Option.Rel Element.Alike (found.filter (·.isCode)) (other.filter (·.isCode)) :=
      Element.Alike.filter_kind (known.alike_of_sure (sure_init sure)) .code
    generalize found.filter (·.isCode) = init, other.filter (·.isCode) = init' at init ⊢
    cases init with
    | none => exact .pure same
    | some alike =>
      refine (recordCall_alongside (.inl alike.uniqueName)).bind_eq fun _ =>
        .get_bind fun s t beside => ?_
      exact (note_alongside _ _).bind_eq fun _ => .pure same

theorem typeOfTree?_alongside (context : Context) {tree : Tree} (fits : tree.Along pairing.Fits) :
    AlongsideRun pairing (typeOfTree? context tree) (typeOfTree? context tree)
      (SameTame pairing) := by
  unfold typeOfTree?
  split
  · exact .lift (constructed?_alongside context (fits.part List.mem_cons_self))
  · rename_i id
    have seen := (fits (.name id) (by simp [Tree.walk])).spelled id.text List.mem_cons_self
    refine .after (typeOf?_alongside _ seen) fun type other same => ?_
    exact .after_eq (note_alongside _ _) fun _ => .pure same
  · rename_i value attr
    have seen := (fits (.attribute value attr) (by simp [Tree.walk])).spelled attr.text
      List.mem_cons_self
    refine .after (typeOf?_alongside _ seen) fun type other same => ?_
    exact .after_eq (note_alongside _ _) fun _ => .pure same
  · split
    · exact .after_eq (note_alongside _ _) fun _ => .pure ⟨rfl, by simp⟩
    · exact .throw _
  · split
    · exact .after_eq (note_alongside _ _) fun _ => .pure ⟨rfl, by simp⟩
    · exact .throw _

theorem addParameterType_alongside (code parameter : String) {type : String}
    (tame : Tame pairing.Unsure type) :
    AlongsideRun pairing (addParameterType code parameter type)
      (addParameterType code parameter type) Eq := by
  refine .get_bind fun s t beside => ?_
  rw [beside.parameterTypes_eq]
  have known := beside.typed.parameters_getD code
  generalize (s.parameterTypes.get? code).getD ∅ = parameters at known ⊢
  dsimp only
  cases stands : parameters.get? parameter with
  | none => exact .throw _
  | some types =>
    refine fun _ _ _ => ⟨rfl, beside.update
      (fun state => { state with
        parameterTypes := s.parameterTypes.insert code
          (parameters.insert parameter (types.insert type)) })
      (fun _ _ _ => rfl) ?_ beside.openClass beside.imports⟩
    refine beside.typed.insert_parameters code (known.insert parameter fun other member => ?_)
    rcases TypeSet.mem_insert.mp member with rfl | old
    · exact tame
    · exact known parameter types stands other old

theorem inferArgument_alongside (context : Context) (code : String) {argument : Tree}
    (fits : argument.Along pairing.Fits) (parameter : String) :
    AlongsideRun pairing (inferArgument context code argument parameter)
      (inferArgument context code argument parameter) Eq := by
  refine (typeOfTree?_alongside context fits).bind ?_
  rintro type _ ⟨rfl, tame⟩
  cases isGiven : given type with
  | some type =>
    have tame := tame type (given_eq_some isGiven).1
    exact (addParameterType_alongside _ _ tame).bind fun _ _ _ => .lift (note_alongside _ _)
  | none => exact .lift (note_alongside _ _)

/-- Nothing is inferred for external code, which has no parameters. -/
theorem inferArguments_of_external (context : Context) {code : String} (arguments : List Tree)
    {s : State} (external : ∀ element ∈ s.model.symbol? code, element.role = .external) :
    ∃ model, Reporting s.model model ∧
      inferArguments context code arguments s = (.ok (), { s with model := model }) := by
  unfold inferArguments
  rw [KeepingRun.bind_apply, Analysis.get_apply]
  dsimp only
  split
  · exact ⟨_, .refl, rfl⟩
  · rw [Analysis.lift_bind_apply, symbol?_apply]
    cases found : s.model.symbol? code with
    | none => exact ⟨_, .note (.calledMissing code) .refl, rfl⟩
    | some element =>
      have isExternal := external element found
      have isCode : element.isCode = true := by
        simp [Element.isCode, Element.kind, isExternal, Role.kind]
      have parameters : element.parameters.isEmpty = true := by
        simp [Element.parameters, isExternal, Role.parameters]
      simp only [Option.filter, isCode, if_true, parameters]
      exact ⟨_, .note (.parametersMissing code) .refl, rfl⟩

/-- The types of arguments go to the parameters of the same function. -/
theorem inferArguments_of_sure (context : Context) {code : String} (sure : ¬ pairing.Unsure code)
    {arguments : List Tree} (fits : ∀ argument ∈ arguments, argument.Along pairing.Fits) :
    AlongsideRun pairing (inferArguments context code arguments)
      (inferArguments context code arguments) Eq := by
  refine .get_bind fun s t beside => ?_
  rw [beside.parameterTypes_eq]
  split
  · exact .pure rfl
  · refine .after (symbol?_alongside code) fun found found' known => ?_
    have alike : Option.Rel Element.Alike (found.filter (·.isCode)) (found'.filter (·.isCode)) :=
      Element.Alike.filter_kind (known.alike_of_sure sure) .code
    generalize found.filter (·.isCode) = found, found'.filter (·.isCode) = found' at alike ⊢
    cases alike with
    | none => exact .lift (note_alongside _ _)
    | @some element other alike =>
      have same : other.parameters = element.parameters := by
        rw [Element.parameters, Element.parameters, alike.role]
      dsimp only
      rw [same]
      split
      · exact .after_eq (note_alongside _ _) fun _ => .pure rfl
      · have each : AlongsideRun pairing
            ((arguments.zip element.parameters).forM fun pair =>
              inferArgument context code pair.1 pair.2)
            ((arguments.zip element.parameters).forM fun pair =>
              inferArgument context code pair.1 pair.2) Eq :=
          .forM fun pair member => inferArgument_alongside context code
            (fits pair.1 (List.of_mem_zip member).1) pair.2
        refine .get_bind fun s t beside => ?_
        rw [beside.parameterTypes_eq]
        split
        · exact each
        · exact .after_eq (setParameters_alongside code _ fun _ _ => .ofList _) fun _ => each

/-- The same of functions of which the runs may be unsure. -/
theorem inferArguments_alongside (context : Context) {code other : String}
    (alike : code = other ∨ pairing.Unsure code ∧ pairing.Unsure other) {arguments : List Tree}
    (fits : ∀ argument ∈ arguments, argument.Along pairing.Fits) :
    AlongsideRun pairing (inferArguments context code arguments)
      (inferArguments context other arguments) Eq := by
  by_cases unsure : pairing.Unsure code
  · have unsure' : pairing.Unsure other := by
      rcases alike with rfl | ⟨-, unsure'⟩
      · exact unsure
      · exact unsure'
    intro s t beside
    obtain ⟨early, earlyReports, earlyRun⟩ := inferArguments_of_external context arguments
      (beside.external unsure).1
    obtain ⟨late, lateReports, lateRun⟩ := inferArguments_of_external context arguments
      (beside.external unsure').2
    rw [earlyRun, lateRun]
    exact ⟨rfl, beside.with_model (pairing.of_reporting beside.model earlyReports lateReports)⟩
  · obtain rfl : code = other := alike.resolve_right fun both => unsure both.1
    exact inferArguments_of_sure context unsure fits

theorem followTarget_alongside (context : Context) (code : String) {value : Tree}
    (fits : value.Along pairing.Fits) (target : Tree) :
    AlongsideRun pairing (followTarget context code value target)
      (followTarget context code value target) Eq := by
  unfold followTarget
  split
  · refine (typeOfTree?_alongside context fits).bind ?_
    rintro type _ ⟨rfl, tame⟩
    exact .after_eq (setVariable_alongside _ tame) fun _ => .lift (note_alongside _ _)
  · split
    · refine (typeOfTree?_alongside context fits).bind ?_
      rintro type _ ⟨rfl, tame⟩
      exact .after_eq (setVariable_alongside _ tame) fun _ =>
        .after_eq (setAttribute_alongside _ tame) fun _ =>
          .get_bind fun _ _ _ => .lift (note_alongside _ _)
    · exact .pure rfl
  · exact .pure rfl

theorem followAssignment_alongside (context : Context) (targets : List Tree) {value : Tree}
    (fits : value.Along pairing.Fits) :
    AlongsideRun pairing (followAssignment context targets value)
      (followAssignment context targets value) Eq := by
  refine .after_eq openCode?_alongside fun code => ?_
  split
  · exact .pure rfl
  · exact .forM fun target _ => followTarget_alongside context _ fits target

/-! ### Steps -/

theorem followCall_alongside (context : Context) (own : ¬ pairing.Unsure context.module)
    {func : Tree} (fits : func.Along pairing.Fits) {arguments : List Tree}
    (each : ∀ argument ∈ arguments, argument.Along pairing.Fits) :
    AlongsideRun pairing (followCall context func arguments)
      (followCall context func arguments) Eq := by
  refine .after (calledName?_alongside func) ?_
  rintro name _ ⟨rfl, spelled⟩
  refine .get_bind fun s t beside => .after_eq (note_alongside _ _) fun _ => ?_
  cases name with
  | none => exact .pure rfl
  | some name =>
    have seen := (Pairing.Fits.of_dottedName? fits.innermostCallee spelled.symm).2
    refine .after (called?_alongside context own seen) fun found other led => ?_
    have led := led.filter_code
    have infers {element other : Element}
        (same : element.uniqueName = other.uniqueName ∨
          pairing.Unsure element.uniqueName ∧ pairing.Unsure other.uniqueName) :
        AlongsideRun pairing
          (do
            match ← openCode? with
            | some code =>
              recordCall element.uniqueName
              note (.callRecorded code element.uniqueName)
            | none => pure ()
            inferArguments context element.uniqueName arguments)
          (do
            match ← openCode? with
            | some code =>
              recordCall other.uniqueName
              note (.callRecorded code other.uniqueName)
            | none => pure ()
            inferArguments context other.uniqueName arguments) Eq := by
      refine .after_eq openCode?_alongside fun code => ?_
      cases code with
      | none => exact inferArguments_alongside context same each
      | some code =>
        exact .after_eq (recordCall_alongside same) fun _ => .after_eq (note_alongside _ _)
          fun _ => inferArguments_alongside context same each
    generalize found.filter (·.isCode) = found, other.filter (·.isCode) = other at led ⊢
    cases led with
    | same alike =>
      cases alike with
      | none => exact .pure rfl
      | some alike => exact infers (.inl alike.uniqueName)
    | astray astray astray' => exact infers (.inr ⟨astray.uniqueName, astray'.uniqueName⟩)

theorem followAttributeOf_alongside (context : Context) (code attr : String) {base : String}
    (seen : ¬ pairing.Hidden base) :
    AlongsideRun pairing (followAttributeOf context code base attr)
      (followAttributeOf context code base attr) Eq := by
  refine .get_bind fun s t beside => ?_
  rw [beside.openClass_eq, beside.parameterTypes_eq]
  split
  · split
    · exact .throw _
    · exact .lift (recordAccess_alongside _ _)
  · split
    · split
      · exact .pure rfl
      · exact .lift (recordAccess_alongside _ _)
      · exact .after_eq (recordAccess_alongside _ _) fun _ => .lift (note_alongside _ _)
    · refine .after (typeOf?_alongside _ seen) ?_
      rintro type _ ⟨rfl, -⟩
      split
      · exact .lift (recordAccess_alongside _ _)
      · exact .pure rfl

theorem followAttribute_alongside (context : Context) {value : Tree}
    (fits : value.Along pairing.Fits) (attr : String) :
    AlongsideRun pairing (followAttribute context value attr)
      (followAttribute context value attr) Eq := by
  refine .after_eq openCode?_alongside fun code => ?_
  split
  · rename_i id
    have seen := (fits (.name id) (by simp [Tree.walk])).spelled id.text List.mem_cons_self
    exact followAttributeOf_alongside _ _ _ seen
  · exact .pure rfl

theorem followName_alongside (context : Context) (name : String) :
    Alongside pairing (followName context name) (followName context name) Eq := by
  refine openCode?_alongside.bind_eq fun code => ?_
  split
  · exact recordAccess_alongside _ _
  · exact .pure rfl

/-- The runs are sure of what is imported. -/
theorem importName_alongside (asName : String) {full : String} (sure : ¬ pairing.Unsure full) :
    Alongside pairing (importName asName full) (importName asName full) Eq := by
  intro s t beside
  refine ⟨rfl, beside.update
    (fun state => { state with imports := state.imports.insert asName full })
    (fun _ _ _ => rfl) ⟨beside.typed.locals, beside.typed.attributes, beside.typed.parameters⟩
    beside.openClass ?_⟩
  intro name other found
  rw [Table.get?_insert] at found
  split at found
  · cases found
    exact sure
  · exact beside.imports found

theorem followImport_alongside (context : Context) {aliases : List Alias}
    (sure : ∀ entry ∈ aliases, ¬ pairing.Unsure entry.name) :
    Alongside pairing (followImport context aliases) (followImport context aliases) Eq := by
  refine (note_alongside _ _).bind_eq fun _ => .forM fun entry member => ?_
  exact (importName_alongside _ (sure entry member)).bind_eq fun _ => note_alongside _ _

theorem followImportFrom_alongside (context : Context) {module : Option DottedName}
    {aliases : List Alias} (sureModule : ∀ name ∈ module, ¬ pairing.Unsure name.text)
    (sure : ∀ entry ∈ aliases, ¬ pairing.Unsure entry.name) :
    Alongside pairing (followImportFrom context module aliases)
      (followImportFrom context module aliases) Eq := by
  refine (note_alongside _ _).bind_eq fun _ => .forM fun entry member => ?_
  refine (importName_alongside _ ?_).bind_eq fun _ => note_alongside _ _
  cases module with
  | none => exact sure entry member
  | some name => exact pairing.sure_append (sureModule name rfl) _

theorem enterClass_alongside (context : Context) (own : ¬ pairing.Unsure context.module)
    (name : String) :
    Alongside pairing (enterClass context name) (enterClass context name) Eq := by
  refine (note_alongside _ _).bind_eq fun _ s t beside => ⟨rfl, ?_⟩
  refine beside.update (fun state => { state with
    scopes := (context.module ++ "." ++ name) :: state.scopes
    openClass := some (context.module ++ "." ++ name)
    attributeTypes := ∅ }) (fun _ _ _ => rfl)
    ⟨beside.typed.locals, .empty, beside.typed.parameters⟩ ?_ beside.imports
  rintro owner ⟨⟩
  exact pairing.sure_append own name

theorem leaveClass_alongside : Alongside pairing leaveClass leaveClass Eq := by
  refine fun s t beside => ⟨rfl, beside.update
    (fun state => { state with scopes := state.scopes.tail, openClass := none })
    (fun _ _ _ => rfl) ⟨beside.typed.locals, beside.typed.attributes, beside.typed.parameters⟩
    nofun beside.imports⟩

theorem followHint_alongside (context : Context) (code parameter : String) (hint : Tree) :
    Alongside pairing (followHint context code parameter hint)
      (followHint context code parameter hint) Eq := by
  unfold followHint
  split
  · exact .pure rfl
  · refine (classOf?_alongside context _).bind ?_
    rintro found other ⟨alike, sure⟩
    cases alike with
    | none => exact .pure rfl
    | @some element other alike =>
      have tame : Tame pairing.Unsure element.uniqueName := .inl (sure element rfl)
      dsimp only
      rw [← alike.uniqueName]
      refine .bind_eq (setParameters_alongside code
        (·.insert parameter (.single element.uniqueName)) fun parameters h => ?_) fun _ => ?_
      · refine h.insert parameter fun type member => ?_
        rw [List.mem_singleton.mp member]
        exact tame
      · refine (note_alongside _ _).bind_eq fun _ => (setVariable_alongside _ ?_).bind_eq fun _ =>
          note_alongside _ _
        rintro _ ⟨⟩
        exact tame

theorem State.Typed.of_parameter {p : String → Prop} {s : State} (typed : s.Typed p)
    {order : Arrangement String} {code parameter type : String}
    (member : type ∈ s.typesOf order code parameter) : p type := by
  unfold State.typesOf at member
  split at member
  · rename_i set found
    obtain ⟨parameters, stands, found⟩ := Option.bind_eq_some_iff.mp found
    exact typed.parameters code parameters stands parameter set found type
      (order.mem_arrange.mp member)
  · cases member

theorem followParameter_alongside (context : Context) (code parameter : String) :
    Alongside pairing (followParameter context code parameter)
      (followParameter context code parameter) Eq := by
  refine .get_bind fun s t beside => ?_
  have tame {type : String} :=
    @beside.typed.of_parameter _ _ context.typeOrder code parameter type
  have same : t.typesOf context.typeOrder code parameter =
      s.typesOf context.typeOrder code parameter := by
    rw [State.typesOf, State.typesOf, beside.parameterTypes_eq]
  rw [same]
  generalize s.typesOf context.typeOrder code parameter = types at tame ⊢
  have first {type : String} (member : type ∈ types) :
      ∀ name ∈ some type, Tame pairing.Unsure name := by
    rintro _ ⟨⟩
    exact tame member
  split
  · exact (setVariable_alongside _ (by simp)).bind_eq fun _ => note_alongside _ _
  · refine (setVariable_alongside _ (first ?_)).bind_eq fun _ => note_alongside _ _
    exact List.mem_cons_self
  · refine (setVariable_alongside _ (first ?_)).bind_eq fun _ => note_alongside _ _
    exact List.mem_cons_self

theorem enterFunction_alongside (context : Context) (name : String) (params : List Tree) :
    Alongside pairing (enterFunction context name params) (enterFunction context name params)
      Eq := by
  refine .get_bind fun s t beside => ?_
  rw [beside.openClass_eq]
  refine (note_alongside _ _).bind_eq fun _ => .bind_eq (fun s t beside => ⟨rfl, ?_⟩) fun _ =>
    .forM fun param _ => ?_
  · have emptied := beside.with_locals (.refl _ ∅) .empty
    exact emptied.update (fun state => { state with scopes := _ :: state.scopes, openCode := _ })
      (fun _ _ _ => rfl) ⟨.empty, beside.typed.attributes, beside.typed.parameters⟩
      beside.openClass beside.imports
  · unfold enterParameter
    split
    · exact followHint_alongside context _ _ _
    · exact followParameter_alongside _ _ _
    · exact .pure rfl

/-- What does nothing but for the chosen ones. -/
theorem forM_filter {α : Type} {f : α → Tracking PUnit} {chosen : α → Bool}
    (quiet : ∀ a, chosen a = false → f a = pure ⟨⟩) (xs : List α) :
    (xs.filter chosen).forM f = xs.forM f := by
  induction xs with
  | nil => rfl
  | cons a xs ih =>
    change _ = f a >>= fun _ => xs.forM f
    cases h : chosen a with
    | true =>
      rw [List.filter_cons_of_pos h, ← ih]
      rfl
    | false => rw [List.filter_cons_of_neg (by simp [h]), ih, quiet a h, pure_bind]

/-- The variables that stand for attributes of the class are not hidden. -/
theorem leaveFunction_alongside : Alongside pairing leaveFunction leaveFunction Eq := by
  rw [leaveFunction_eq]
  refine .get_bind fun s t beside => ?_
  have same := beside.locals.own
  have tame (entry : String × Option String) (member : entry ∈ s.localTypes.entries) :
      ∀ name ∈ entry.2, Tame pairing.Unsure name := fun name isType =>
    beside.typed.locals entry.1 name (Table.get?_eq_some_iff.mpr (isType ▸ member))
  refine Alongside.bind_eq ?_ fun _ s t beside => ⟨rfl, ?_⟩
  · have quiet (entry : String × Option String) (h : isOwn entry.1 = false) :
        mergeType entry = pure ⟨⟩ := by
      simp [mergeType, h]
    rw [← forM_filter quiet s.localTypes.entries, ← forM_filter quiet t.localTypes.entries, ← same]
    refine .forM fun entry member => ?_
    obtain ⟨member, isOwn⟩ := List.mem_filter.mp member
    rw [mergeType, if_pos isOwn]
    refine (setAttribute_alongside _ (tame entry member)).bind_eq fun _ => ?_
    exact .get_bind fun _ _ _ => note_alongside _ _
  · have emptied := beside.with_locals (.refl _ ∅) .empty
    exact emptied.update
      (fun state => { state with scopes := state.scopes.tail, openCode := none })
      (fun _ _ _ => rfl) ⟨.empty, beside.typed.attributes, beside.typed.parameters⟩
      beside.openClass beside.imports

/-- A step takes states side by side to states side by side. -/
theorem follow_alongside (context : Context) (own : ¬ pairing.Unsure context.module) {step : Step}
    (fits : step.Along pairing.Fits) :
    AlongsideRun pairing (follow context step) (follow context step) Eq := by
  cases step with
  | enterModule => exact .after_eq (note_alongside _ _) fun _ => .lift (setScopes_alongside _)
  | leaveModule => exact .lift (setScopes_alongside _)
  | enterClass position name => exact .lift (enterClass_alongside context own name.text)
  | leaveClass => exact .lift leaveClass_alongside
  | enterFunction position name params =>
    exact .lift (enterFunction_alongside context name.text params)
  | leaveFunction => exact .lift leaveFunction_alongside
  | assign position targets value =>
    exact followAssignment_alongside context targets (fits.trees value (by simp [Step.trees]))
  | importNames aliases =>
    refine .lift (followImport_alongside context fun entry member => fits.own.roots _ ?_)
    exact List.mem_map_of_mem member
  | importFrom module aliases =>
    refine .lift (followImportFrom_alongside context (fun name isModule => fits.own.roots _ ?_)
      fun entry member => fits.own.roots _ ?_)
    · exact List.mem_append_left _ (List.mem_map_of_mem (Option.mem_toList.mpr isModule))
    · exact List.mem_append_right _ (List.mem_map_of_mem member)
  | call func args =>
    exact followCall_alongside context own (fits.trees func List.mem_cons_self)
      fun argument member => fits.trees argument (List.mem_cons_of_mem _ member)
  | «attribute» value attr =>
    exact followAttribute_alongside context (fits.trees value List.mem_cons_self) attr.text
  | name id => exact .lift (followName_alongside context id.text)

/-- A run over steps takes states side by side to states side by side, up to a fault if it meets
one. -/
theorem followAll_alongside (context : Context) (own : ¬ pairing.Unsure context.module)
    {steps : List Step} (fits : ∀ step ∈ steps, step.Along pairing.Fits) :
    AlongsideRun pairing (followAll context steps) (followAll context steps) Eq := by
  induction steps with
  | nil => exact .pure rfl
  | cons step steps ih =>
    refine (follow_alongside context own (fits step List.mem_cons_self)).bind fun _ _ _ => ?_
    exact ih fun other member => fits other (List.mem_cons_of_mem _ member)

end CodeMap.Usage
