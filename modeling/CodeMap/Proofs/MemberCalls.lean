/-
Calls of members.

A call of a member, as in `x.m(...)`, is looked up under the type of the variable `x`, if it is
known (`followCall_typed`). A call on `self`, as in `self.a(...)` or `self.a.m(...)`, is looked up
as a method of the open class, and only the first name after `self` counts (`followCall_own`).
Whatever is found is recorded first of all, as a call from the open function, before the arguments
are looked at.
-/

import CodeMap.Proofs.AssignedCall

namespace CodeMap

open Source

namespace Text.Dotted

theorem isDotted_append_dot (start rest : String) : isDotted (start ++ "." ++ rest) = true := by
  simp [isDotted]

theorem append_dot_ne_empty (start rest : String) : start ++ "." ++ rest ≠ "" := by
  simp [String.append_eq_empty_iff]

/-- What follows an identifier and a full stop. -/
theorem afterFirst_identifier (id : Identifier) (rest : String) :
    afterFirst (id.text ++ "." ++ rest) = rest := by
  have dot : ".".toList = ['.'] := rfl
  have stops : ∀ c ∈ id.text.toList, decide (c ≠ '.') = true := by
    intro c member
    apply decide_eq_true
    rintro rfl
    exact id.dot_not_mem member
  rw [afterFirst, String.toList_append, String.toList_append, dot, List.append_assoc,
    List.dropWhile_append_of_pos stops]
  simp

end Text.Dotted

namespace Usage

/-! ### Recording what was found -/

/-- Follows a call of a name that was looked up. -/
def recordFound (context : Context) (arguments : List Tree) (found : Option Element) :
    Analysis Unit := do
  match found.filter (·.isCode) with
  | none => return
  | some element =>
    match ← openCode? with
    | some code =>
      recordCall element.uniqueName
      note (.callRecorded code element.uniqueName)
    | none => pure ()
    inferArguments context element.uniqueName arguments

/-- To follow a call is to look up the name that it spells and to record what is found. -/
theorem followCall_eq (context : Context) {func : Tree} {name : String}
    (spelled : dottedName? (innermostCallee func) = some name) (arguments : List Tree)
    (s : State) :
    ∃ model, Reporting s.model model ∧
      followCall context func arguments s =
        recordFound context arguments (called? context name { s with model := model }).1
          (called? context name { s with model := model }).2 := by
  obtain ⟨model, reporting, run⟩ := calledName?_apply func s
  rw [spelled] at run
  refine ⟨_, .note (.callProcessed (some name) s.openCode) reporting, ?_⟩
  unfold followCall
  rw [Analysis.lift_bind_apply, run]
  rfl

theorem openCode?_apply {s : State} {code : String} (isOpen : s.openCode = some code)
    (named : code ≠ "") : openCode? s = (some code, s) := by
  have said : given s.openCode = some code := by rw [isOpen, given_some named]
  rw [← said]
  rfl

theorem recordFound_none (context : Context) (arguments : List Tree) {found : Option Element}
    (notCode : found.filter (·.isCode) = none) (s : State) :
    recordFound context arguments found s = (.ok (), s) := by
  unfold recordFound
  rw [notCode]
  rfl

/-- The call of code that was found is recorded before the arguments are looked at. -/
theorem recordFound_code (context : Context) (arguments : List Tree) {element : Element}
    (isCode : element.isCode = true) {s : State} {code : String} (isOpen : s.openCode = some code)
    (named : code ≠ "") :
    ∃ others : Array Call,
      (recordFound context arguments (some element) s).2.model.calls =
        s.model.calls.push ⟨some code, element.uniqueName⟩ ++ others := by
  unfold recordFound
  rw [Option.filter_some, isCode, if_pos rfl]
  dsimp only
  rw [Analysis.lift_bind_apply, openCode?_apply isOpen named]
  dsimp only
  rw [Analysis.lift_bind_apply, Analysis.lift_bind_apply]
  obtain ⟨others, added, -⟩ := (inferArguments_extends context element.uniqueName arguments
    (note (.callRecorded code element.uniqueName)
      (recordCall element.uniqueName s).2).2).recording.calls_eq
  refine ⟨others, added.trans ?_⟩
  rw [← isOpen]
  rfl

/-! ### Members of variables -/

variable (context : Context) {s : State} {code type : String} {id attr : Identifier}
  {element : Element}

/-- A method of a variable of known type is looked up as a member of this type. -/
theorem called?_typed (notSelf : id.text ≠ "self")
    (typed : s.localTypes.get? id.text = some (some type)) (named : type ≠ "")
    (stands : s.model.symbol? (type ++ "." ++ attr.text) = some element)
    (isCode : element.isCode = true) :
    ∃ model, Reporting s.model model ∧
      called? context (id.text ++ "." ++ attr.text) s =
        (some element, { s with model := model }) := by
  have said : given (some type) = some type := given_some named
  have known : typeOf? context.lookup id.text s = (some type, s) := by
    unfold typeOf?
    rw [Tracking.bind_apply, Tracking.get_apply, typed, Option.join_some, said]
    rfl
  have target : ∃ event, dottedTarget? context (id.text ++ "." ++ attr.text) s =
      (some (type ++ "." ++ attr.text), { s with model := s.model.note event }) := by
    unfold dottedTarget?
    rw [Text.Dotted.first_append_dot, Text.Dotted.first_identifier,
      Text.Dotted.afterFirst_identifier, Tracking.bind_apply, known, said]
    exact ⟨_, rfl⟩
  obtain ⟨event, target⟩ := target
  refine ⟨s.model.note event, .note event .refl, ?_⟩
  have found : ((s.model.note event).symbol? (type ++ "." ++ attr.text)).filter (·.isCode) =
      some element := by
    change (s.model.symbol? _).filter _ = _
    simp [stands, isCode]
  unfold called?
  rw [Text.Dotted.isDotted_append_dot, Text.Dotted.first_append_dot,
    Text.Dotted.first_identifier, decide_eq_false notSelf]
  simp only [Bool.and_false, Bool.false_eq_true, if_false, if_true]
  rw [Tracking.bind_apply, target]
  dsimp only
  rw [Tracking.bind_apply, symbol?_apply, found]
  rfl

/-- A call of a method of a variable of known type is recorded. -/
theorem followCall_typed (isOpen : s.openCode = some code) (open_ne : code ≠ "")
    (notSelf : id.text ≠ "self") (typed : s.localTypes.get? id.text = some (some type))
    (named : type ≠ "") (stands : s.model.symbol? (type ++ "." ++ attr.text) = some element)
    (isCode : element.isCode = true) (arguments : List Tree) :
    ∃ others : Array Call,
      (followCall context (.attribute (.name id) attr) arguments s).2.model.calls =
        s.model.calls.push ⟨some code, element.uniqueName⟩ ++ others := by
  have spelled : dottedName? (innermostCallee (.attribute (.name id) attr)) =
      some (id.text ++ "." ++ attr.text) := rfl
  obtain ⟨model, reporting, run⟩ := followCall_eq context spelled arguments s
  let noted : State := { s with model := model }
  have typedThere : noted.localTypes.get? id.text = some (some type) := typed
  have standsThere : noted.model.symbol? (type ++ "." ++ attr.text) = some element := by
    rw [← stands, Model.symbol?, reporting.symbols_eq]
    rfl
  obtain ⟨found, calling, looked⟩ :=
    called?_typed context notSelf typedThere named standsThere isCode
  have same : found.calls = s.model.calls :=
    (Model.SameRecords.of_reporting (reporting.trans calling)).calls
  have isOpenThere : ({ noted with model := found } : State).openCode = some code := isOpen
  obtain ⟨others, recorded⟩ := recordFound_code context arguments isCode isOpenThere open_ne
  refine ⟨others, ?_⟩
  rw [run, looked, recorded, same]

/-! ### Members of `self` -/

/-- The code that a member of the open class stands for. -/
def State.ownCode? (state : State) (name : String) : Option Element :=
  (state.model.symbol? (Event.orNone state.openClass ++ "." ++ name)).filter (·.isCode)

theorem ownMethod?_apply (name : String) (s : State) :
    ∃ model, Reporting s.model model ∧
      ownMethod? name s =
        (s.ownCode? (Text.Dotted.first (Text.Dotted.afterFirst name)),
          { s with model := model }) := by
  unfold ownMethod? State.ownCode?
  simp only [Tracking.bind_apply, Tracking.get_apply, symbol?_apply]
  generalize Event.orNone s.openClass ++ "." ++
    Text.Dotted.first (Text.Dotted.afterFirst name) = unique
  have unchanged (event : Event) : (note event s).2.model.symbol? unique = s.model.symbol? unique :=
    rfl
  rw [unchanged]
  cases (s.model.symbol? unique).filter (·.isCode) with
  | none => exact ⟨_, .note _ (.note _ .refl), rfl⟩
  | some method => exact ⟨_, .note _ .refl, rfl⟩

/-- Of a chain that starts with `self` only the first name after it is looked up. -/
theorem called?_own (isSelf : id.text = "self") (last : Identifier) :
    ∃ model, Reporting s.model model ∧
      called? context (id.text ++ "." ++ attr.text ++ "." ++ last.text) s =
        (s.ownCode? attr.text, { s with model := model }) := by
  have first : Text.Dotted.first (Text.Dotted.afterFirst
      (id.text ++ "." ++ attr.text ++ "." ++ last.text)) = attr.text := by
    have : id.text ++ "." ++ attr.text ++ "." ++ last.text =
        id.text ++ "." ++ (attr.text ++ "." ++ last.text) := by simp [String.append_assoc]
    rw [this, Text.Dotted.afterFirst_identifier, Text.Dotted.first_append_dot,
      Text.Dotted.first_identifier]
  obtain ⟨model, reporting, run⟩ :=
    ownMethod?_apply (id.text ++ "." ++ attr.text ++ "." ++ last.text) s
  rw [first] at run
  refine ⟨model, reporting, ?_⟩
  unfold called?
  rw [Text.Dotted.isDotted_append_dot, Text.Dotted.first_append_dot,
    Text.Dotted.first_append_dot, Text.Dotted.first_identifier, decide_eq_true isSelf,
    Bool.and_self, if_pos rfl]
  exact run

/-- A call on an attribute of `self` is recorded as a call of the method of the open class that has
the name of the attribute, and not at all if there is none. -/
theorem followCall_own (isOpen : s.openCode = some code) (open_ne : code ≠ "")
    (isSelf : id.text = "self") (attr last : Identifier) (arguments : List Tree) :
    let calls := (followCall context (.attribute (.attribute (.name id) attr) last) arguments
      s).2.model.calls
    (∀ method, s.ownCode? attr.text = some method → ∃ others : Array Call,
      calls = s.model.calls.push ⟨some code, method.uniqueName⟩ ++ others) ∧
    (s.ownCode? attr.text = none → calls = s.model.calls) := by
  have spelled : dottedName? (innermostCallee (.attribute (.attribute (.name id) attr) last)) =
      some (id.text ++ "." ++ attr.text ++ "." ++ last.text) := rfl
  obtain ⟨model, reporting, run⟩ := followCall_eq context spelled arguments s
  let noted : State := { s with model := model }
  have sameCode : noted.ownCode? attr.text = s.ownCode? attr.text := by
    unfold State.ownCode?
    rw [Model.symbol?, Model.symbol?, reporting.symbols_eq]
  obtain ⟨found, calling, looked⟩ :
      ∃ found, Reporting noted.model found ∧
        called? context (id.text ++ "." ++ attr.text ++ "." ++ last.text) noted =
          (noted.ownCode? attr.text, { noted with model := found }) :=
    called?_own context isSelf last
  have same : found.calls = s.model.calls :=
    (Model.SameRecords.of_reporting (reporting.trans calling)).calls
  rw [run, looked, sameCode]
  refine ⟨?_, ?_⟩
  · intro method own
    have isCode : method.isCode = true := (Option.filter_eq_some_iff.mp own).2
    have isOpenThere : ({ noted with model := found } : State).openCode = some code := isOpen
    obtain ⟨others, recorded⟩ := recordFound_code context arguments isCode isOpenThere open_ne
    refine ⟨others, ?_⟩
    rw [own, recorded, same]
  · intro missing
    rw [missing, recordFound_none context arguments rfl, same]

end Usage

end CodeMap
