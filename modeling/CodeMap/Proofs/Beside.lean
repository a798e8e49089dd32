/-
Two analyses of the same steps, side by side.

The two may start with different models, and with different types for some variables. A `Pairing`
says which names the runs are unsure of, since these may stand for external code in one run and for
other external code, or for nothing, in the other one; which variables are hidden, since their types
may differ; and what is common to the two models all the time. `Beside` says the same of states: all
that is not in the model and is not hidden agrees. A function runs alongside another one if the two
take states side by side to states side by side (`Alongside`, and `AlongsideRun` for functions that
can meet a fault); functions that do so are put together from smaller ones.

A name that is neither sure nor the mark and a sure name could lead the runs apart. No run asks for
such a name: the types that it knows are tame (`Tame`), and so are the names that start with them.
-/

import CodeMap.Proofs.Foreign

namespace CodeMap

open Source

/-! ### Models side by side -/

/-- The analysis does not tell the elements apart. -/
structure Element.Alike (element other : Element) : Prop where
  uniqueName : element.uniqueName = other.uniqueName
  role : element.role = other.role

theorem Element.Alike.refl (element : Element) : element.Alike element := ⟨rfl, rfl⟩

theorem Element.Alike.filter_kind {found other : Option Element}
    (alike : Option.Rel Element.Alike found other) (kind : Kind) :
    Option.Rel Element.Alike (found.filter (·.kind = kind)) (other.filter (·.kind = kind)) := by
  cases alike with
  | none => exact .none
  | @some element other alike =>
    have same : other.kind = element.kind := by
      rw [Element.kind, Element.kind, alike.role]
    by_cases h : element.kind = kind
    · simpa [Option.filter, same, h] using alike
    · simp [Option.filter, same, h]

/-- Enters external code for a name, if neither the name nor its external code is known. -/
def Model.meet (policy : Usage.ExternalPolicy) (code : Option String) (name : String)
    (model : Model) : Model :=
  if model.knows name ∨ model.knows (Usage.externalMark ++ name) then model
  else model.meetExternal policy code name

namespace Model

variable (policy : Usage.ExternalPolicy) (code : Option String) {name other : String}
  {model : Model}

theorem Widens.meet (name : String) (model : Model) :
    model.Widens (model.meet policy code name) := by
  unfold Model.meet
  split
  · exact .refl model
  · rename_i unknown
    exact .meetExternal policy code (not_knows_iff.mp fun met => unknown (.inr met))

theorem meet_of_knows (known : model.knows name) : model.meet policy code name = model :=
  if_pos (.inl known)

theorem knows_meetExternal :
    (model.meetExternal policy code name).knows other ↔
      other = Usage.externalMark ++ name ∨ model.knows other := by
  obtain ⟨element, -, -, bound, -⟩ := model.exists_symbols_meetExternal policy code name
  rw [knows, knows, Model.symbol?, Model.symbol?, bound, Table.get?_insert]
  by_cases same : Usage.externalMark ++ name = other
  · simp [same]
  · simp [same, Ne.symm same]

/-- A name that is not known comes to be known as external code. -/
theorem knows_meet_iff :
    (model.meet policy code name).knows other ↔
      model.knows other ∨ other = Usage.externalMark ++ name ∧ ¬ model.knows name := by
  unfold Model.meet
  split
  · rename_i known
    refine ⟨.inl, fun either => either.elim id ?_⟩
    rintro ⟨rfl, unknown⟩
    exact known.resolve_left unknown
  · rename_i unknown
    rw [not_or] at unknown
    rw [knows_meetExternal, or_comm, and_iff_left unknown.1]

end Model

namespace Usage

/-- The runs are sure of the name, or it is that of external code of a name they are sure of. -/
def Tame (Unsure : String → Prop) (name : String) : Prop :=
  ¬ Unsure name ∨ ∃ own, name = externalMark ++ own ∧ ¬ Unsure own

/-- External code of a name that the runs are unsure of. -/
structure Astray (Unsure : String → Prop) (element : Element) : Prop where
  role : element.role = .external
  uniqueName : Unsure element.uniqueName

/-- What the runs find under a name. -/
inductive Known (Unsure : String → Prop) (name : String) (found other : Option Element) : Prop where
  | sure : ¬ Unsure name → Option.Rel Element.Alike found other →
      (∀ element ∈ found, ¬ Unsure element.uniqueName) → Known Unsure name found other
  | unsure : Unsure name → (∀ element ∈ found, Astray Unsure element) →
      (∀ element ∈ other, Astray Unsure element) → Known Unsure name found other

/-- Two analyses that can be run side by side. -/
structure Pairing where
  /-- The names under which the runs may find different external code. -/
  Unsure : String → Prop
  /-- The variables whose types may differ. -/
  Hidden : String → Prop
  Beside : Model → Model → Prop
  unsure_of_append : ∀ {start rest}, Unsure (start ++ "." ++ rest) → Unsure start
  unsure_mark : ∀ {name}, Unsure name → Unsure (externalMark ++ name)
  sure_none : ¬ Unsure "None"
  known : ∀ {early late}, Beside early late → ∀ name,
    Known Unsure name (early.symbol? name) (late.symbol? name)
  noteEarly : ∀ {early late}, Beside early late → ∀ event, Beside (early.note event) late
  noteLate : ∀ {early late}, Beside early late → ∀ event, Beside early (late.note event)
  /-- Both runs record a call of the same, or both record one of which they are unsure. -/
  addCall : ∀ {early late}, Beside early late → ∀ caller {called other},
    called = other ∨ Unsure called ∧ Unsure other →
      Beside (early.addCall ⟨caller, called⟩) (late.addCall ⟨caller, other⟩)
  addAccess : ∀ {early late}, Beside early late → ∀ access,
    Beside (early.addAccess access) (late.addAccess access)
  meet : ∀ {early late}, Beside early late → ∀ policy code {name}, name ≠ "" → Tame Unsure name →
    Beside (early.meet policy code name) (late.meet policy code name)

variable {pairing : Pairing}

namespace Pairing

theorem sure_append {start : String} (sure : ¬ pairing.Unsure start) (rest : String) :
    ¬ pairing.Unsure (start ++ "." ++ rest) :=
  mt pairing.unsure_of_append sure

theorem of_reporting {early late early' late' : Model} (beside : pairing.Beside early late)
    (first : Reporting early early') (second : Reporting late late') :
    pairing.Beside early' late' := by
  induction first with
  | refl =>
    induction second with
    | refl => exact beside
    | note event _ ih => exact pairing.noteLate ih event
  | note event _ ih => exact pairing.noteEarly ih event

end Pairing

theorem Tame.append {name : String} (tame : Tame pairing.Unsure name) (rest : String) :
    Tame pairing.Unsure (name ++ "." ++ rest) := by
  rcases tame with sure | ⟨own, rfl, sure⟩
  · exact .inl (pairing.sure_append sure rest)
  · refine .inr ⟨own ++ "." ++ rest, ?_, pairing.sure_append sure rest⟩
    rw [String.append_assoc, String.append_assoc, String.append_assoc]

namespace Known

variable {Unsure : String → Prop} {name : String} {found other : Option Element}

theorem alike_of_sure (known : Known Unsure name found other) (sure : ¬ Unsure name) :
    Option.Rel Element.Alike found other := by
  cases known with
  | sure _ alike _ => exact alike
  | unsure unsure _ _ => exact absurd unsure sure

/-- External code is all that the runs can tell apart. -/
theorem filter_kind (known : Known Unsure name found other) {kind : Kind} (notCode : kind ≠ .code) :
    Option.Rel Element.Alike (found.filter (·.kind = kind)) (other.filter (·.kind = kind)) ∧
      ∀ element ∈ found.filter (·.kind = kind), ¬ Unsure element.uniqueName := by
  have nothing {found : Option Element} (astray : ∀ element ∈ found, Astray Unsure element) :
      found.filter (·.kind = kind) = none := by
    refine Option.filter_eq_none_iff.mpr fun element member => ?_
    simp [Element.kind, (astray element member).role, Role.kind, notCode.symm]
  cases known with
  | unsure _ first second =>
    rw [nothing first, nothing second]
    exact ⟨.none, by simp⟩
  | sure _ alike sure =>
    refine ⟨Element.Alike.filter_kind alike kind, fun element member => ?_⟩
    exact sure element (Option.filter_eq_some_iff.mp member).1

end Known

/-! ### States side by side -/

/-- The types of the variables are all as `p` says. -/
def TypesAre (p : String → Prop) (types : VariableTypes) : Prop :=
  ∀ var type, types.get? var = some (some type) → p type

/-- The types of the parameters of a function are all as `p` says. -/
def ParametersAre (p : String → Prop) (parameters : Table TypeSet) : Prop :=
  ∀ parameter set, parameters.get? parameter = some set → ∀ type ∈ set.types, p type

/-- All types that the state knows are as `p` says. -/
structure State.Typed (p : String → Prop) (state : State) : Prop where
  locals : TypesAre p state.localTypes
  attributes : TypesAre p state.attributeTypes
  parameters : ∀ code parameters, state.parameterTypes.get? code = some parameters →
    ParametersAre p parameters

section Types

variable {p : String → Prop}

theorem TypesAre.empty : TypesAre p ∅ := nofun

theorem TypesAre.insert {types : VariableTypes} (h : TypesAre p types) (var : String)
    {type : Option String} (own : ∀ name ∈ type, p name) : TypesAre p (types.insert var type) := by
  intro other name found
  rw [Table.get?_insert] at found
  split at found
  · exact own name (Option.some.inj found)
  · exact h other name found

theorem ParametersAre.empty : ParametersAre p ∅ := nofun

theorem ParametersAre.insert {parameters : Table TypeSet} (h : ParametersAre p parameters)
    (parameter : String) {set : TypeSet} (own : ∀ type ∈ set.types, p type) :
    ParametersAre p (parameters.insert parameter set) := by
  intro other found stands
  rw [Table.get?_insert] at stands
  split at stands
  · exact Option.some.inj stands ▸ own
  · exact h other found stands

theorem ParametersAre.ofList (names : List String) :
    ParametersAre p (Table.ofList (names.map fun parameter => (parameter, ∅))) := by
  intro parameter set found
  rcases @Table.mem_of_get?_insertAll _ ∅ _ _ _ found with listed | impossible
  · obtain ⟨name, -, same⟩ := List.mem_map.mp listed
    cases same
    nofun
  · cases impossible

theorem State.Typed.parameters_getD {s : State} (typed : s.Typed p) (code : String) :
    ParametersAre p ((s.parameterTypes.get? code).getD ∅) := by
  cases found : s.parameterTypes.get? code with
  | none => exact .empty
  | some parameters => exact typed.parameters code parameters found

theorem State.Typed.insert_parameters {s : State} (typed : s.Typed p) (code : String)
    {parameters : Table TypeSet} (own : ParametersAre p parameters) :
    { s with parameterTypes := s.parameterTypes.insert code parameters }.Typed p := by
  refine ⟨typed.locals, typed.attributes, fun other found stands => ?_⟩
  rw [Table.get?_insert] at stands
  split at stands
  · exact Option.some.inj stands ▸ own
  · exact typed.parameters other found stands

end Types

/-- The types of variables agree but for hidden ones, and the variables that stand for attributes of
the class are the same in the same order. -/
structure SameTypes (Hidden : String → Prop) (types other : VariableTypes) : Prop where
  seen : ∀ {var}, ¬ Hidden var → types.get? var = other.get? var
  own : types.entries.filter (isOwn ·.1) = other.entries.filter (isOwn ·.1)

theorem SameTypes.refl (Hidden : String → Prop) (types : VariableTypes) :
    SameTypes Hidden types types :=
  ⟨fun _ => rfl, rfl⟩

theorem SameTypes.insert {Hidden : String → Prop} {types other : VariableTypes}
    (h : SameTypes Hidden types other) (var : String) (type : Option String) :
    SameTypes Hidden (types.insert var type) (other.insert var type) := by
  refine ⟨fun seen => ?_, ?_⟩
  · rw [Table.get?_insert, Table.get?_insert, h.seen seen]
  · rw [Table.insert, Table.insert, Entries.filter_put, Entries.filter_put, h.own]

/-- The states agree but for what their models and the hidden variables are. -/
structure Beside (pairing : Pairing) (s t : State) : Prop where
  same : t = { s with model := t.model, localTypes := t.localTypes }
  model : pairing.Beside s.model t.model
  locals : SameTypes pairing.Hidden s.localTypes t.localTypes
  typed : s.Typed (Tame pairing.Unsure)
  openClass : ∀ owner ∈ s.openClass, ¬ pairing.Unsure owner
  imports : ∀ {name full}, s.imports.get? name = some full → ¬ pairing.Unsure full

namespace Beside

variable {s t : State}

/-- The states in which the analysis of a module starts. -/
theorem fresh {early late : Model} (models : pairing.Beside early late) :
    Beside pairing { model := early } { model := late } := by
  refine ⟨rfl, models, .refl _ _, ⟨.empty, .empty, ?_⟩, ?_, ?_⟩
  · rintro code parameters ⟨⟩
  · rintro owner ⟨⟩
  · rintro name full ⟨⟩

theorem known (beside : Beside pairing s t) (name : String) :
    Known pairing.Unsure name (s.model.symbol? name) (t.model.symbol? name) :=
  pairing.known beside.model name

theorem knows_eq (beside : Beside pairing s t) {name : String} (sure : ¬ pairing.Unsure name) :
    t.model.knows name = s.model.knows name := by
  have alike := (beside.known name).alike_of_sure sure
  unfold Model.knows
  generalize s.model.symbol? name = found, t.model.symbol? name = other at alike ⊢
  cases alike <;> rfl

theorem imports_eq (beside : Beside pairing s t) : t.imports = s.imports := by
  rw [beside.same]

theorem openClass_eq (beside : Beside pairing s t) : t.openClass = s.openClass := by
  rw [beside.same]

theorem openCode_eq (beside : Beside pairing s t) : t.openCode = s.openCode := by
  rw [beside.same]

theorem attributeTypes_eq (beside : Beside pairing s t) :
    t.attributeTypes = s.attributeTypes := by
  rw [beside.same]

theorem parameterTypes_eq (beside : Beside pairing s t) :
    t.parameterTypes = s.parameterTypes := by
  rw [beside.same]

/-- Under names that the runs are unsure of both find external code, if they find anything. -/
theorem external (beside : Beside pairing s t) {name : String} (unsure : pairing.Unsure name) :
    (∀ element ∈ s.model.symbol? name, element.role = .external) ∧
      ∀ element ∈ t.model.symbol? name, element.role = .external := by
  cases beside.known name with
  | sure sure _ _ => exact absurd unsure sure
  | unsure _ early late =>
    exact ⟨fun element found => (early element found).role, fun element found =>
      (late element found).role⟩

theorem with_model (beside : Beside pairing s t) {early late : Model}
    (models : pairing.Beside early late) :
    Beside pairing { s with model := early } { t with model := late } := by
  refine ⟨?_, models, beside.locals, ?_, beside.openClass, beside.imports⟩
  · rw [beside.same]
  · exact ⟨beside.typed.locals, beside.typed.attributes, beside.typed.parameters⟩

theorem with_locals (beside : Beside pairing s t) {types other : VariableTypes}
    (locals : SameTypes pairing.Hidden types other) (tame : TypesAre (Tame pairing.Unsure) types) :
    Beside pairing { s with localTypes := types } { t with localTypes := other } := by
  refine ⟨?_, beside.model, locals, ?_, beside.openClass, beside.imports⟩
  · rw [beside.same]
  · exact ⟨tame, beside.typed.attributes, beside.typed.parameters⟩

/-- A change that has nothing to do with the model and the types of variables. -/
theorem update (beside : Beside pairing s t) (change : State → State)
    (aside : ∀ state model types, change { state with model := model, localTypes := types } =
      { change state with model := model, localTypes := types })
    (typed : (change s).Typed (Tame pairing.Unsure))
    (openClass : ∀ owner ∈ (change s).openClass, ¬ pairing.Unsure owner)
    (imports : ∀ {name full}, (change s).imports.get? name = some full →
      ¬ pairing.Unsure full) :
    Beside pairing (change s) (change t) := by
  have model (state : State) : (change state).model = state.model := by
    have same := congrArg State.model (aside state state.model state.localTypes)
    exact same
  have localTypes (state : State) : (change state).localTypes = state.localTypes := by
    have same := congrArg State.localTypes (aside state state.model state.localTypes)
    exact same
  refine ⟨?_, ?_, ?_, typed, openClass, imports⟩
  · have late := aside s t.model t.localTypes
    rwa [← beside.same, ← model t, ← localTypes t] at late
  · rw [model, model]
    exact beside.model
  · rw [localTypes, localTypes]
    exact beside.locals

end Beside

/-! ### Functions side by side -/

section Alongside

variable {α β : Type}

/-- From states side by side the functions come to results that are related by `Q` and to states
side by side again. -/
def Alongside (pairing : Pairing) (x y : Tracking α) (Q : α → α → Prop) : Prop :=
  ∀ s t, Beside pairing s t → Q (x s).1 (y t).1 ∧ Beside pairing (x s).2 (y t).2

variable {x y : Tracking α} {f g : α → Tracking β} {Q : α → α → Prop} {Q' : β → β → Prop}

namespace Alongside

theorem pure {a b : α} (related : Q a b) : Alongside pairing (Pure.pure a) (Pure.pure b) Q :=
  fun _ _ beside => ⟨related, beside⟩

theorem bind (hx : Alongside pairing x y Q)
    (hf : ∀ a b, Q a b → Alongside pairing (f a) (g b) Q') :
    Alongside pairing (x >>= f) (y >>= g) Q' := by
  intro s t beside
  obtain ⟨related, beside⟩ := hx s t beside
  exact hf _ _ related _ _ beside

/-- The results are the same. -/
theorem bind_eq (hx : Alongside pairing x y Eq) (hf : ∀ a, Alongside pairing (f a) (g a) Q') :
    Alongside pairing (x >>= f) (y >>= g) Q' := by
  refine hx.bind ?_
  rintro a _ rfl
  exact hf a

theorem get_bind {f g : State → Tracking β}
    (h : ∀ s t, Beside pairing s t → Alongside pairing (f s) (g t) Q') :
    Alongside pairing (get >>= f) (get >>= g) Q' :=
  fun s t beside => h s t beside s t beside

theorem forM {f : α → Tracking PUnit} {xs : List α}
    (h : ∀ a ∈ xs, Alongside pairing (f a) (f a) Eq) :
    Alongside pairing (xs.forM f) (xs.forM f) Eq := by
  induction xs with
  | nil => exact .pure rfl
  | cons a xs ih =>
    exact (h a List.mem_cons_self).bind_eq fun _ =>
      ih fun other member => h other (List.mem_cons_of_mem _ member)

end Alongside

/-- Both functions come to a result, or both meet the same fault. -/
def Agreeing (Q : α → α → Prop) : Except Fault α → Except Fault α → Prop
  | .ok a, .ok b => Q a b
  | .error fault, .error other => fault = other
  | _, _ => False

/-- The same of functions that can meet a fault. -/
def AlongsideRun (pairing : Pairing) (x y : Analysis α) (Q : α → α → Prop) : Prop :=
  ∀ s t, Beside pairing s t → Agreeing Q (x s).1 (y t).1 ∧ Beside pairing (x s).2 (y t).2

namespace AlongsideRun

variable {u v : Analysis α} {k l : α → Analysis β}

theorem pure {a b : α} (related : Q a b) : AlongsideRun pairing (Pure.pure a) (Pure.pure b) Q :=
  fun _ _ beside => ⟨related, beside⟩

theorem throw (fault : Fault) :
    AlongsideRun pairing (MonadExcept.throw fault : Analysis α) (MonadExcept.throw fault) Q :=
  fun _ _ beside => ⟨rfl, beside⟩

theorem lift (h : Alongside pairing x y Q) : AlongsideRun pairing (liftM x) (liftM y) Q := h

/-- A function that cannot fail, followed by one that can. -/
theorem after (hx : Alongside pairing x y Q)
    (hf : ∀ a b, Q a b → AlongsideRun pairing (k a) (l b) Q') :
    AlongsideRun pairing (liftM x >>= k) (liftM y >>= l) Q' := by
  intro s t beside
  obtain ⟨related, beside⟩ := hx s t beside
  exact hf _ _ related _ _ beside

theorem after_eq (hx : Alongside pairing x y Eq) (hf : ∀ a, AlongsideRun pairing (k a) (l a) Q') :
    AlongsideRun pairing (liftM x >>= k) (liftM y >>= l) Q' := by
  refine after hx ?_
  rintro a _ rfl
  exact hf a

theorem get_bind {k l : State → Analysis β}
    (h : ∀ s t, Beside pairing s t → AlongsideRun pairing (k s) (l t) Q') :
    AlongsideRun pairing (get >>= k) (get >>= l) Q' :=
  fun s t beside => h s t beside s t beside

theorem bind (hu : AlongsideRun pairing u v Q)
    (hk : ∀ a b, Q a b → AlongsideRun pairing (k a) (l b) Q') :
    AlongsideRun pairing (u >>= k) (v >>= l) Q' := by
  intro s t beside
  have first := hu s t beside
  rw [KeepingRun.bind_apply, KeepingRun.bind_apply]
  rcases early : u s with ⟨result, after⟩
  rcases late : v t with ⟨other, after'⟩
  rw [early, late] at first
  obtain ⟨agreeing, beside⟩ := first
  cases result with
  | error fault =>
    cases other with
    | error fault' => exact ⟨agreeing, beside⟩
    | ok b => exact agreeing.elim
  | ok a =>
    cases other with
    | error fault' => exact agreeing.elim
    | ok b => exact hk a b agreeing after after' beside

theorem forM {k : α → Analysis PUnit} {xs : List α}
    (h : ∀ a ∈ xs, AlongsideRun pairing (k a) (k a) Eq) :
    AlongsideRun pairing (xs.forM k) (xs.forM k) Eq := by
  induction xs with
  | nil => exact .pure rfl
  | cons a xs ih =>
    exact (h a List.mem_cons_self).bind fun _ _ _ =>
      ih fun other member => h other (List.mem_cons_of_mem _ member)

end AlongsideRun

end Alongside

end Usage

end CodeMap
