/-
The listing of a model file: one line for each object and each relation, in ascending order, and
the comparison of two files by their listings.

Identifiers do not occur in a listing: an object is described by its fields, and a relation by the
objects it joins, whose names and links are left out there.
-/

import CodeMap.Mse.Entry
import CodeMap.Text.Lines

namespace CodeMap.Mse

/-- What follows the first comma and space. -/
def afterSeparator : List Char → Option (List Char)
  | [] => none
  | ',' :: ' ' :: rest => some rest
  | _ :: rest => afterSeparator rest

theorem afterSeparator_length_lt {cs rest : List Char} (h : afterSeparator cs = some rest) :
    rest.length < cs.length := by
  fun_induction afterSeparator cs with
  | case1 => cases h
  | case2 tail =>
    cases h
    simp only [List.length_cons]
    omega
  | case3 c tail _ ih =>
    have := ih h
    simp only [List.length_cons]
    omega

/-- Removes every part of a line from `mark` to the next comma and space. -/
def cutParts (mark : List Char) : List Char → List Char
  | [] => []
  | c :: rest =>
    if mark.isPrefixOf (c :: rest) then
      match _cut : afterSeparator ((c :: rest).drop mark.length) with
      | some rest => cutParts mark rest
      | none => c :: cutParts mark rest
    else c :: cutParts mark rest
termination_by cs => cs.length
decreasing_by
  · have shorter := afterSeparator_length_lt _cut
    simp only [List.length_drop, List.length_cons] at shorter ⊢
    omega
  · simp
  · simp

/-- The line of an object as it stands in the line of a relation: without link and name. -/
def briefLine (line : String) : String :=
  String.ofList (cutParts "name:".toList (cutParts "linkToEditor:".toList line.toList))

/-- The objects with their brief lines. -/
def briefObjects (objects : Table String) : Table String :=
  Table.ofList (objects.entries.map fun object => (object.1, briefLine object.2))

/-- The entries of a text. -/
def entriesOfText (text : String) : Except Fault (List Sexpr) :=
  match sexprs text with
  | .error fault => .error (.nesting fault)
  | .ok found => entries found

/-- Texts in ascending order. -/
def ascending (texts : List String) : List String :=
  texts.mergeSort fun a b => decide (a ≤ b)

/-- The listing of a text. -/
def listing (text : String) : Except Fault (List String) := do
  let entries ← entriesOfText text
  let objects ← objectsById ∅ entries
  let relations ← relationLines (briefObjects objects) entries
  return ascending (objects.values ++ relations)

/-- The listing of a file. -/
def listingOfFile (bytes : List UInt8) : Except Fault (List String) :=
  match Text.Utf8.decode bytes with
  | .error fault => .error (.encoding fault)
  | .ok cs => listing (String.ofList (Text.unifyLineEnds cs))

/-- How two listings differ. -/
structure Comparison where
  /-- The lines only in the first listing, each once, in ascending order. -/
  onlyFirst : List String
  /-- The lines only in the second listing, each once, in ascending order. -/
  onlySecond : List String
deriving DecidableEq, Repr

/-- Neither listing has a line that the other one lacks. -/
def Comparison.identical (comparison : Comparison) : Bool :=
  comparison.onlyFirst.isEmpty && comparison.onlySecond.isEmpty

/-- The lines of `these` that are not in `those`, each once, in ascending order. -/
def linesOnlyIn (these those : List String) : List String :=
  ascending (these.filter fun line => !those.contains line).eraseDups

/-- Compares two files by their listings. -/
def compare (first second : List UInt8) : Except Fault Comparison := do
  let first ← listingOfFile first
  let second ← listingOfFile second
  return ⟨linesOnlyIn first second, linesOnlyIn second first⟩

end CodeMap.Mse
