/-
Relations between states that a function keeps, and properties of states that it upholds.

A relation that goes through from step to step is kept by whatever is composed of steps that keep
it (`Keeping`, and `KeepingRun` for functions that can meet a fault). In this way the facts about
single functions are put together. The same is done for a property of states, together with what
the results of the functions have (`Upholding`, `UpholdingRun`).
-/

namespace CodeMap

section Keeping

variable {σ ε α β : Type} {R R' : σ → σ → Prop}

/-- Wherever the function starts, it ends in a related state. -/
def Keeping (R : σ → σ → Prop) (x : StateM σ α) : Prop :=
  ∀ s, R s (x s).2

/-- The same of a function that can meet a fault: it holds up to the fault. -/
def KeepingRun (R : σ → σ → Prop) (x : ExceptT ε (StateM σ) α) : Prop :=
  ∀ s, R s (x s).2

/-- A relation that goes through: from a state to itself, and over a state between. -/
class Passing (R : σ → σ → Prop) : Prop where
  refl : ∀ s, R s s
  trans : ∀ {s t u}, R s t → R t u → R s u

/-- A function that can meet a fault, followed by another one. -/
theorem KeepingRun.bind_apply (x : ExceptT ε (StateM σ) α) (f : α → ExceptT ε (StateM σ) β)
    (s : σ) :
    (x >>= f) s =
      match x s with
      | (.ok a, after) => f a after
      | (.error fault, after) => (.error fault, after) := by
  change (ExceptT.bindCont f (x s).1) (x s).2 = _
  rcases x s with ⟨result, after⟩
  cases result <;> rfl

/-- Two relations make a third one; `stop` is for a fault in the first function. -/
theorem KeepingRun.bind_of {S T : σ → σ → Prop} {x : ExceptT ε (StateM σ) α}
    {f : α → ExceptT ε (StateM σ) β} (hx : KeepingRun R x) (hf : ∀ a, KeepingRun S (f a))
    (stop : ∀ {s t}, R s t → T s t) (join : ∀ {s t u}, R s t → S t u → T s u) :
    KeepingRun T (x >>= f) := by
  intro s
  have hs := hx s
  rw [KeepingRun.bind_apply]
  rcases hrun : x s with ⟨result, after⟩
  rw [hrun] at hs
  cases result with
  | ok a => exact join hs (hf a after)
  | error fault => exact stop hs

theorem Keeping.mono {x : StateM σ α} (h : Keeping R x) (sub : ∀ {s t}, R s t → R' s t) :
    Keeping R' x :=
  fun s => sub (h s)

variable [Passing R]

theorem Keeping.pure (a : α) : Keeping R (Pure.pure a : StateM σ α) := fun s => Passing.refl s

theorem Keeping.get : Keeping R (MonadState.get : StateM σ σ) := fun s => Passing.refl s

theorem Keeping.bind {x : StateM σ α} {f : α → StateM σ β} (hx : Keeping R x)
    (hf : ∀ a, Keeping R (f a)) : Keeping R (x >>= f) :=
  fun s => Passing.trans (hx s) (hf _ _)

theorem Keeping.forM {x : α → StateM σ PUnit} (h : ∀ a, Keeping R (x a)) (xs : List α) :
    Keeping R (xs.forM x) := by
  induction xs with
  | nil => exact .pure _
  | cons a xs ih => exact (h a).bind fun _ => ih

theorem KeepingRun.pure (a : α) : KeepingRun R (Pure.pure a : ExceptT ε (StateM σ) α) :=
  fun s => Passing.refl s

theorem KeepingRun.get : KeepingRun R (MonadState.get : ExceptT ε (StateM σ) σ) :=
  fun s => Passing.refl s

theorem KeepingRun.throw (fault : ε) :
    KeepingRun R (MonadExcept.throw fault : ExceptT ε (StateM σ) α) :=
  fun s => Passing.refl s

/-- Nothing follows a fault. -/
theorem KeepingRun.throw_bind (fault : ε) (f : α → ExceptT ε (StateM σ) β) :
    KeepingRun R (MonadExcept.throw fault >>= f) :=
  fun s => Passing.refl s

omit [Passing R] in
theorem KeepingRun.lift {x : StateM σ α} (h : Keeping R x) :
    KeepingRun R (liftM x : ExceptT ε (StateM σ) α) := h

theorem KeepingRun.bind {x : ExceptT ε (StateM σ) α} {f : α → ExceptT ε (StateM σ) β}
    (hx : KeepingRun R x) (hf : ∀ a, KeepingRun R (f a)) : KeepingRun R (x >>= f) :=
  hx.bind_of hf id Passing.trans

/-- A function that cannot fail, followed by one that can. -/
theorem KeepingRun.after {x : StateM σ α} {f : α → ExceptT ε (StateM σ) β} (hx : Keeping R x)
    (hf : ∀ a, KeepingRun R (f a)) : KeepingRun R (liftM x >>= f) :=
  (KeepingRun.lift hx).bind hf

theorem KeepingRun.forM {x : α → ExceptT ε (StateM σ) PUnit} (h : ∀ a, KeepingRun R (x a))
    (xs : List α) : KeepingRun R (xs.forM x) := by
  induction xs with
  | nil => exact .pure _
  | cons a xs ih => exact (h a).bind fun _ => ih

end Keeping

section Upholding

variable {σ ε α β : Type} {I : σ → Prop} {Q : α → Prop} {Q' : β → Prop}

/-- From a state with `I` the function comes to one with `I`, and its result has `Q`. -/
def Upholding (I : σ → Prop) (x : StateM σ α) (Q : α → Prop) : Prop :=
  ∀ s, I s → I (x s).2 ∧ Q (x s).1

/-- The same of a function that can meet a fault: its result has `Q` if it comes to one. -/
def UpholdingRun (I : σ → Prop) (x : ExceptT ε (StateM σ) α) (Q : α → Prop) : Prop :=
  ∀ s, I s → I (x s).2 ∧ ∀ a, (x s).1 = .ok a → Q a

namespace Upholding

theorem pure {a : α} (result : Q a) : Upholding I (Pure.pure a) Q := fun _ h => ⟨h, result⟩

theorem modify {f : σ → σ} (h : ∀ s, I s → I (f s)) :
    Upholding I (modify f : StateM σ PUnit) fun _ => True :=
  fun s hs => ⟨h s hs, trivial⟩

theorem bind {x : StateM σ α} {f : α → StateM σ β} (hx : Upholding I x Q)
    (hf : ∀ a, Q a → Upholding I (f a) Q') : Upholding I (x >>= f) Q' := by
  intro s h
  obtain ⟨after, result⟩ := hx s h
  exact hf _ result _ after

theorem get_bind {f : σ → StateM σ β} (h : ∀ s, I s → Upholding I (f s) Q') :
    Upholding I (get >>= f) Q' :=
  fun s hs => h s hs s hs

theorem forM {f : α → StateM σ PUnit} {xs : List α}
    (h : ∀ a ∈ xs, Upholding I (f a) fun _ => True) : Upholding I (xs.forM f) fun _ => True := by
  induction xs with
  | nil => exact .pure trivial
  | cons a xs ih =>
    exact (h a List.mem_cons_self).bind fun _ _ =>
      ih fun other member => h other (List.mem_cons_of_mem _ member)

end Upholding

namespace UpholdingRun

theorem pure {a : α} (result : Q a) :
    UpholdingRun I (Pure.pure a : ExceptT ε (StateM σ) α) Q := by
  refine fun _ h => ⟨h, ?_⟩
  rintro _ ⟨⟩
  exact result

theorem throw (fault : ε) :
    UpholdingRun I (MonadExcept.throw fault : ExceptT ε (StateM σ) α) Q := by
  refine fun _ h => ⟨h, ?_⟩
  rintro _ ⟨⟩

theorem lift {x : StateM σ α} (h : Upholding I x Q) :
    UpholdingRun I (liftM x : ExceptT ε (StateM σ) α) Q := by
  refine fun s hs => ⟨(h s hs).1, ?_⟩
  rintro _ ⟨⟩
  exact (h s hs).2

theorem bind {x : ExceptT ε (StateM σ) α} {f : α → ExceptT ε (StateM σ) β}
    (hx : UpholdingRun I x Q) (hf : ∀ a, Q a → UpholdingRun I (f a) Q') :
    UpholdingRun I (x >>= f) Q' := by
  intro s h
  obtain ⟨after, result⟩ := hx s h
  rw [KeepingRun.bind_apply]
  rcases run : x s with ⟨outcome, t⟩
  rw [run] at after result
  cases outcome with
  | ok a => exact hf a (result a rfl) t after
  | error fault =>
    refine ⟨after, ?_⟩
    rintro _ ⟨⟩

/-- A function that cannot fail, followed by one that can. -/
theorem after {x : StateM σ α} {f : α → ExceptT ε (StateM σ) β} (hx : Upholding I x Q)
    (hf : ∀ a, Q a → UpholdingRun I (f a) Q') : UpholdingRun I (liftM x >>= f) Q' :=
  (lift hx).bind hf

theorem get_bind {f : σ → ExceptT ε (StateM σ) β} (h : ∀ s, I s → UpholdingRun I (f s) Q') :
    UpholdingRun I (get >>= f) Q' :=
  fun s hs => h s hs s hs

theorem forM {f : α → ExceptT ε (StateM σ) PUnit} {xs : List α}
    (h : ∀ a ∈ xs, UpholdingRun I (f a) fun _ => True) :
    UpholdingRun I (xs.forM f) fun _ => True := by
  induction xs with
  | nil => exact .pure trivial
  | cons a xs ih =>
    exact (h a List.mem_cons_self).bind fun _ _ =>
      ih fun other member => h other (List.mem_cons_of_mem _ member)

end UpholdingRun

end Upholding

end CodeMap
