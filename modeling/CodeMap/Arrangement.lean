/-
Orders of collections that have none of their own.

The members of a set and the files of a folder are gone through one after the other, in an order
that the collection itself does not fix. An arrangement fixes one. All that is known of it is that
it drops no member and adds none; the order may depend on how the collection came about, so it is
given the members in the order in which they were entered.
-/

namespace CodeMap

/-- A way to put the members of a collection in order. -/
structure Arrangement (α : Type) where
  arrange : List α → List α
  perm : ∀ members, (arrange members).Perm members

namespace Arrangement

variable {α : Type}

@[simp] theorem mem_arrange (order : Arrangement α) {x : α} {members : List α} :
    x ∈ order.arrange members ↔ x ∈ members :=
  (order.perm members).mem_iff

/-- The order given by a comparison. -/
def sorted (before : α → α → Bool) : Arrangement α where
  arrange members := members.mergeSort before
  perm members := List.mergeSort_perm members before

/-! ### Ascending texts -/

/-- Puts a text in front of the first one that is not smaller. -/
def put (text : String) : List String → List String
  | [] => [text]
  | other :: rest => if text < other then text :: other :: rest else other :: put text rest

theorem put_perm (text : String) (texts : List String) : (put text texts).Perm (text :: texts) := by
  induction texts with
  | nil => exact .refl _
  | cons other rest ih =>
    rw [put]
    split
    · exact .refl _
    · exact (ih.cons other).trans (.swap text other rest)

/-- The ascending order of texts. -/
def ascending : Arrangement String where
  arrange texts := texts.foldr put []
  perm texts := by
    induction texts with
    | nil => exact .refl _
    | cons text texts ih => exact (put_perm text _).trans (ih.cons text)

end Arrangement

end CodeMap
