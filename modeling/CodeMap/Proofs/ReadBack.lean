/-
Reading back the model file that a run has written.

The file holds names and links between quotes, but its reader ends a word at every blank and
parenthesis and drops comments, inside quotes too. So a file is read back as the records in it
exactly if all their texts are plain (`Mse.readBack_iff`). Main statement: this holds of all that a
run can write, and the names of folders and files decide it: if they are plain, the file is read
back, whatever the files hold (`run_read_back`).
-/

import CodeMap.Proofs.Integrity
import CodeMap.Proofs.Listing
import CodeMap.Proofs.PlainNames

namespace CodeMap

namespace Mse

/-- The file of the records is read as one list, with the expressions of the records in order. -/
def ReadBack (records : List Record) : Prop :=
  sexprs (renderFile records) = .ok [.list (records.map fun record => record.entry.sexpr)]

/-- The types and the names of fields are words. -/
theorem Record.entry_worded (record : Record) : record.entry.Worded := by
  cases record with
  | element id subject => exact objectEntry_worded (id, .ofElement subject)
  | parentChild parent child isMain =>
    exact (Relation.parentChild parent child isMain).entry_clean.worded
  | call caller called => exact (Relation.call caller called).entry_clean.worded
  | access accessor accessed isWrite isRead isDependent =>
    exact (Relation.access accessor accessed isWrite isRead isDependent).entry_clean.worded

theorem readBack_iff (records : List Record) :
    ReadBack records ↔ ∀ record ∈ records, record.entry.Plain := by
  have worded : ∀ entry ∈ records.map Record.entry, entry.Worded := by
    intro entry member
    obtain ⟨record, -, rfl⟩ := List.mem_map.mp member
    exact record.entry_worded
  have read := sexprs_renderEntries_iff worded
  rw [List.map_map, List.forall_mem_map] at read
  exact read

end Mse

/-! ### Records of plain models -/

theorem Role.plain_technicalType (role : Role) : Mse.Plain role.technicalType := by
  have method : Mse.Plain "PythonMethod" := by decide
  have function : Mse.Plain "PythonFunction" := by decide
  cases role with
  | method => exact method
  | function => exact function
  | file | classDefinition | «attribute» | external => decide

theorem Element.Plain.entry {element : Element} (plain : element.Plain) (id : Nat) :
    (Mse.Record.element id element).entry.Plain := by
  have link : Mse.Plain (element.link.getD "") := by
    cases given : element.link with
    | none => exact .empty
    | some link => exact plain.link link given
  intro field member
  obtain ⟨text, listed, rfl⟩ :=
    @Mse.exists_of_mem_objectEntry (id, .ofElement element) field member
  rcases List.mem_append.mp listed with linked | other
  · split at linked
    · cases linked
    · rw [List.mem_singleton.mp linked]
      exact link
  · simp only [List.mem_cons, List.not_mem_nil, or_false] at other
    rcases other with rfl | rfl | rfl
    · exact plain.name
    · exact element.role.plain_technicalType
    · exact plain.uniqueName

/-- The texts of a plain model are plain in its file. -/
theorem Model.Plain.records {model : Model} {definitions : List (String × Kind)}
    (plain : model.Plain) (resolved : model.Resolved definitions) :
    ∀ record ∈ model.records, record.entry.Plain := by
  intro record member
  rcases resolved.mem_records_iff.mp member with ⟨entry, listed, rfl⟩ | ⟨containment, -, rfl⟩ |
    ⟨call, -, caller, -, rfl⟩ | ⟨access, -, rfl⟩
  · have found := Table.get?_eq_some_iff.mpr listed
    rw [get?_allElements, Option.or_eq_some_iff] at found
    rcases found with own | ⟨-, met⟩
    · exact (plain.elements own).entry _
    · exact (plain.externals _ (model.mem_of_get?_externalTable met).1).entry _
  · exact (Mse.Relation.parentChild _ _ _).entry_clean.plain
  · exact (Mse.Relation.call _ _).entry_clean.plain
  · exact (Mse.Relation.access _ _ _ _ _).entry_clean.plain

theorem Project.Plain.readBack {project : Project} (plain : project.Plain) :
    Mse.ReadBack project.model.records :=
  (Mse.readBack_iff _).mpr
    ((Model.ofFiles_plain _ plain.readFiles).records
      (Model.ofFiles_resolved project.typeOrder project.readFiles))

/-- A run writes nothing, or the file of a project on its disk. The file of any project is read back
exactly if the texts of all its records are plain. This is so if the path of the base folder is
plain and the names along the paths to the working folder and to the source files are. All of
this holds in whatever order the setting has the files met and the types of parameters gone
through. -/
theorem run_read_back (setting : Desk.Setting) (arguments : List String) (desk : Desk) :
    let after := (Desk.run setting arguments desk).2
    let records := fun base => (Desk.project setting desk.disk base).model.records
    (after.disk = desk.disk ∨ ∃ base place,
        after.disk = desk.disk.addFile place (Mse.renderFile (records base)).toUTF8.toList) ∧
      ∀ base,
        (Mse.ReadBack (records base) ↔ ∀ record ∈ records base, record.entry.Plain) ∧
          (Mse.Plain base → (∀ name ∈ setting.folder, Mse.Plain name) →
            (∀ file ∈ desk.disk.sources setting.fileOrder setting.folder base,
              ∀ name ∈ file.inner, Mse.Plain name) →
            Mse.ReadBack (records base)) := by
  intro after records
  refine ⟨?_, fun base => ⟨Mse.readBack_iff _, fun start folder inner => ?_⟩⟩
  · obtain ⟨base, rests | ⟨place, written⟩⟩ := Desk.run_writes setting arguments desk
    · exact .inl rests
    · exact .inr ⟨base, place, written⟩
  · exact (Desk.project_plain start folder inner).readBack

/-- A disk with one file in the folder `ROOT/p`. -/
def diskWith (name source : String) : Disk :=
  Disk.addFile {} ["ROOT", "p", name] source.toUTF8.toList

/-- A class whose method writes an attribute and calls a function. -/
def callingSource : String :=
  "class A:\n def m(self):\n  self.n = 0\n  g()\ndef g():\n pass\n"

/-- A single semicolon in the name of a file does no harm. -/
theorem plain_name_read_back :
    let setting : Desk.Setting := { folder := ["ROOT"], stamp := "" }
    let records := (Desk.project setting (diskWith "a;b.py" callingSource) "p").model.records
    (Mse.numberedElements records).map (·.2.uniqueName) =
        ["p.a;b", "p.a;b.A", "p.a;b.A.m", "p.a;b.A.n", "p.a;b.g"] ∧
      .call 3 5 ∈ records ∧ .access 3 4 false true true ∈ records ∧ Mse.ReadBack records := by
  intro setting records
  have written : (Mse.numberedElements records).map (·.2.uniqueName) =
      ["p.a;b", "p.a;b.A", "p.a;b.A.m", "p.a;b.A.n", "p.a;b.g"] ∧
        .call 3 5 ∈ records ∧ .access 3 4 false true true ∈ records := by decide +kernel
  have runs := run_read_back setting [] { disk := diskWith "a;b.py" callingSource }
  have readBack := (runs.2 "p").2 (by decide) (by decide) (by decide +kernel)
  exact ⟨written.1, written.2.1, written.2.2, readBack⟩

/-- The blank in the name of the file ends a word, so that the name is read as two. -/
theorem spaced_name_not_read_back :
    let setting : Desk.Setting := { folder := ["ROOT"], stamp := "" }
    ¬ Mse.ReadBack (Desk.project setting (diskWith "a b.py" "") "p").model.records := by
  intro setting
  rw [Mse.readBack_iff]
  decide +kernel

end CodeMap
