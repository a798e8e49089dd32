/-
Relations in a model file.

A relation is written if both of its ends have numbers. Main statement: all names that the model of
a project mentions have numbers, so that no containment and no access is lost, and a call is left
out exactly if no function was open when it was recorded (`relations_written`).
-/

import CodeMap.Proofs.Numbering
import CodeMap.Proofs.Passes

namespace CodeMap

namespace Model

/-- The number of a name, zero if it has none. -/
def numberOf (model : Model) (name : String) : Nat :=
  (model.numbering.get? name).getD 0

/-- The names that the relations of a model mention. -/
def mentioned (model : Model) : List String :=
  (model.containments.toList.flatMap fun containment =>
      [containment.parent.uniqueName, containment.child.uniqueName]) ++
    (model.calls.toList.flatMap fun call => call.caller.toList ++ [call.called]) ++
    model.accesses.toList.flatMap fun access => [access.accessor, access.accessed]

variable {model : Model} {definitions : List (String × Kind)} {name : String}

theorem mentioned_of_containment {containment : Containment}
    (recorded : containment ∈ model.containments)
    (isEnd : name = containment.parent.uniqueName ∨ name = containment.child.uniqueName) :
    name ∈ model.mentioned := by
  refine List.mem_append_left _ (List.mem_append_left _ (List.mem_flatMap.mpr ?_))
  exact ⟨containment, recorded.val, List.mem_pair.mpr isEnd⟩

theorem mentioned_of_call {call : Call} (recorded : call ∈ model.calls)
    (isEnd : call.caller = some name ∨ name = call.called) : name ∈ model.mentioned := by
  refine List.mem_append_left _ (List.mem_append_right _ (List.mem_flatMap.mpr ?_))
  exact ⟨call, recorded.val, by simpa using isEnd⟩

theorem mentioned_of_access {access : Access} (recorded : access ∈ model.accesses)
    (isEnd : name = access.accessor ∨ name = access.accessed) : name ∈ model.mentioned := by
  refine List.mem_append_right _ (List.mem_flatMap.mpr ?_)
  exact ⟨access, recorded.val, List.mem_pair.mpr isEnd⟩

theorem numbering_eq_numberOf (known : name ∈ model.allElements.keys) :
    model.numbering.get? name = some (model.numberOf name) := by
  obtain ⟨id, numbered⟩ := Option.isSome_iff_exists.mp (model.isSome_numbering_iff.mpr known)
  simp [numberOf, numbered]

theorem numberOf_inj {other : String} (known : name ∈ model.allElements.keys)
    (known' : other ∈ model.allElements.keys) :
    model.numberOf name = model.numberOf other ↔ name = other := by
  refine ⟨fun same => ?_, fun same => same ▸ rfl⟩
  exact model.numbering_injective (same ▸ numbering_eq_numberOf known)
    (numbering_eq_numberOf known')

theorem Resolved.known_of_defined (resolved : model.Resolved definitions) {kind : Kind}
    (defined : (name, kind) ∈ definitions) : name ∈ model.allElements.keys :=
  model.mem_keys_allElements.mpr (.inl (resolved.defined defined).1)

theorem Resolved.known_of_called (resolved : model.Resolved definitions) {call : Call}
    (recorded : call ∈ model.calls) : call.called ∈ model.allElements.keys := by
  rcases resolved.called call recorded with defined | ⟨met, -⟩
  · exact resolved.known_of_defined defined
  · exact model.mem_keys_allElements.mpr (.inr met)

/-- In a resolved model all names that are mentioned have numbers. -/
theorem Resolved.numbered (resolved : model.Resolved definitions) (h : name ∈ model.mentioned) :
    model.numbering.get? name = some (model.numberOf name) := by
  apply numbering_eq_numberOf
  rcases List.mem_append.mp h with h | h
  · rcases List.mem_append.mp h with h | h
    · obtain ⟨containment, recorded, isEnd⟩ := List.mem_flatMap.mp h
      have ends := resolved.containments containment (Array.mem_toList_iff.mp recorded)
      rw [mem_keys_allElements]
      rcases List.mem_pair.mp isEnd with rfl | rfl
      · exact .inl ends.1
      · exact .inl ends.2
    · obtain ⟨call, recorded, isEnd⟩ := List.mem_flatMap.mp h
      have recorded := Array.mem_toList_iff.mp recorded
      rcases List.mem_append.mp isEnd with isCaller | isCalled
      · exact resolved.known_of_defined
          (resolved.callers call recorded name (Option.mem_toList.mp isCaller))
      · rw [List.mem_singleton.mp isCalled]
        exact resolved.known_of_called recorded
  · obtain ⟨access, recorded, isEnd⟩ := List.mem_flatMap.mp h
    have recorded := Array.mem_toList_iff.mp recorded
    rcases List.mem_pair.mp isEnd with rfl | rfl
    · exact resolved.known_of_defined (resolved.accessors access recorded)
    · exact model.mem_keys_allElements.mpr (.inl (resolved.accessed access recorded))

/-! ### Records -/

theorem elementRecords_eq (model : Model) :
    model.elementRecords model.numbering = model.allElements.entries.map fun entry =>
      .element (model.numberOf entry.1) entry.2 := by
  refine List.filterMap_eq_map_iff_forall_eq_some.mpr fun entry member => ?_
  rw [numbering_eq_numberOf (List.mem_map_of_mem member)]
  rfl

theorem Resolved.containmentRecords_eq (resolved : model.Resolved definitions) :
    model.containmentRecords model.numbering = model.containments.toList.map fun containment =>
      .parentChild (model.numberOf containment.parent.uniqueName)
        (model.numberOf containment.child.uniqueName) true := by
  refine List.filterMap_eq_map_iff_forall_eq_some.mpr fun containment recorded => ?_
  simp [resolved.numbered (mentioned_of_containment ⟨recorded⟩ (.inl rfl)),
    resolved.numbered (mentioned_of_containment ⟨recorded⟩ (.inr rfl))]

theorem Resolved.callRecords_eq (resolved : model.Resolved definitions) :
    model.callRecords model.numbering = model.calls.toList.filterMap fun call =>
      call.caller.map fun caller =>
        .call (model.numberOf caller) (model.numberOf call.called) := by
  refine List.filterMap_congr fun call recorded => ?_
  cases isCaller : call.caller with
  | none => rfl
  | some caller =>
    simp [resolved.numbered (mentioned_of_call ⟨recorded⟩ (.inl isCaller)),
      resolved.numbered (mentioned_of_call ⟨recorded⟩ (.inr rfl))]

theorem Resolved.accessRecords_eq (resolved : model.Resolved definitions) :
    model.accessRecords model.numbering = model.accesses.toList.map fun access =>
      .access (model.numberOf access.accessor) (model.numberOf access.accessed) access.isWrite
        access.isRead access.isDependent := by
  refine List.filterMap_eq_map_iff_forall_eq_some.mpr fun access recorded => ?_
  simp [resolved.numbered (mentioned_of_access ⟨recorded⟩ (.inl rfl)),
    resolved.numbered (mentioned_of_access ⟨recorded⟩ (.inr rfl))]

/-- All that a model file holds. -/
theorem Resolved.records_eq (resolved : model.Resolved definitions) :
    model.records =
      model.allElements.entries.map (fun entry => .element (model.numberOf entry.1) entry.2) ++
        model.containments.toList.map (fun containment =>
          .parentChild (model.numberOf containment.parent.uniqueName)
            (model.numberOf containment.child.uniqueName) true) ++
        model.calls.toList.filterMap (fun call => call.caller.map fun caller =>
          .call (model.numberOf caller) (model.numberOf call.called)) ++
        model.accesses.toList.map (fun access =>
          .access (model.numberOf access.accessor) (model.numberOf access.accessed)
            access.isWrite access.isRead access.isDependent) := by
  simp only [records, elementRecords_eq, resolved.containmentRecords_eq, resolved.callRecords_eq,
    resolved.accessRecords_eq]

end Model

/-- No relation of a project is lost on its way into the model file: all names have numbers, and of
the records of the file those after the elements are one for every containment, one for every call
but for those without a caller, and one for every access. A call has no caller if no function is
open in the step that records it, also if the step meets a fault. -/
theorem relations_written (project : Project) :
    let model := project.model
    let number := model.numberOf
    (∀ name ∈ model.mentioned, model.numbering.get? name = some (number name)) ∧
      model.records =
        model.allElements.entries.map (fun entry => .element (number entry.1) entry.2) ++
          model.containments.toList.map (fun containment =>
            .parentChild (number containment.parent.uniqueName)
              (number containment.child.uniqueName) true) ++
          model.calls.toList.filterMap (fun call =>
            call.caller.map fun caller => .call (number caller) (number call.called)) ++
          model.accesses.toList.map (fun access =>
            .access (number access.accessor) (number access.accessed) access.isWrite
              access.isRead access.isDependent) ∧
      ∀ (context : Usage.Context) (state : Usage.State) (step : Source.Step),
        ∃ new : Array Call,
          (Usage.follow context step state).2.model.calls = state.model.calls ++ new ∧
            ∀ call ∈ new, call.caller = state.openCode := by
  intro model number
  have resolved := Model.ofFiles_resolved project.typeOrder project.readFiles
  refine ⟨fun _ => resolved.numbered, resolved.records_eq, ?_⟩
  exact fun context state step => (Usage.follow_recording context state step).calls_eq

end CodeMap
