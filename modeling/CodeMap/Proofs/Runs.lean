/-
What a run of the program does to the disk.

A run reads files, asks for a folder and keeps a log. The only thing that it writes on the disk is
the model of a project that it finds there (`Desk.run_writes`).
-/

import CodeMap.Disk
import CodeMap.Proofs.Keeping

namespace CodeMap.Desk

/-- The project below a base folder. -/
def project (setting : Setting) (disk : Disk) (base : String) : Project where
  name := Program.projectName base
  folder := pathOf setting.folder
  files := disk.sources setting.fileOrder setting.folder base
  typeOrder := setting.typeOrder

/-! ### Changes of the disk -/

/-- The disk stays as it is. -/
def Rests (before after : Desk) : Prop := after.disk = before.disk

/-- At most one file is written, with the model of a given project. -/
def Records (project : Project) (before after : Desk) : Prop :=
  Rests before after ∨ ∃ place,
    after.disk = before.disk.addFile place (Mse.renderFile project.model.records).toUTF8.toList

/-- At most one file is written, with the model of a project on the disk. -/
def Writes (setting : Setting) (before after : Desk) : Prop :=
  ∃ base, Records (project setting before.disk base) before after

instance : Passing Rests where
  refl _ := rfl
  trans h h' := Eq.trans h' h

/-- A relation that sees no more of the desk before than its disk. -/
class SeesDisk (T : Desk → Desk → Prop) : Prop where
  stop : ∀ {s t}, Rests s t → T s t
  join : ∀ {s t u}, Rests s t → T t u → T s u

instance (project : Project) : SeesDisk (Records project) where
  stop := .inl
  join {s t u} rests records := by
    rw [Rests] at rests
    rwa [Records, Rests, rests] at records

instance (setting : Setting) : SeesDisk (Writes setting) where
  stop rests := ⟨"", .inl rests⟩
  join {s t u} rests writes := by
    obtain ⟨base, records⟩ := writes
    have same : t.disk = s.disk := rests
    rw [same] at records
    exact ⟨base, SeesDisk.join rests records⟩

theorem Records.rests {project : Project} {s t u : Desk} (records : Records project s t)
    (rests : Rests t u) : Records project s u := by
  rw [Rests] at rests
  rwa [Records, Rests, rests]

theorem Writes.rests {setting : Setting} {s t u : Desk} (writes : Writes setting s t)
    (rests : Rests t u) : Writes setting s u := by
  obtain ⟨base, records⟩ := writes
  exact ⟨base, records.rests rests⟩

variable {α β : Type} {T : Desk → Desk → Prop} [SeesDisk T]

theorem rests_bind {x : Run α} {f : α → Run β} (hx : KeepingRun Rests x)
    (hf : ∀ a, KeepingRun T (f a)) : KeepingRun T (x >>= f) :=
  hx.bind_of hf SeesDisk.stop SeesDisk.join

/-! ### What the program asks of a desk -/

theorem modify_rests {f : Desk → Desk} (h : ∀ desk, (f desk).disk = desk.disk) :
    KeepingRun Rests (modify f : Run Unit) :=
  h

theorem placeToWrite_rests (folder : Place) (path : String) :
    KeepingRun Rests (placeToWrite folder path) := by
  refine KeepingRun.get.bind fun desk => ?_
  dsimp only
  split
  · exact .throw_bind _ _
  split
  · exact .throw _
  · exact .throw _
  · split
    · exact .throw_bind _ _
    · exact .pure _

theorem readFile?_rests (folder : Place) (path : String) :
    KeepingRun Rests (readFile? folder path) := by
  refine KeepingRun.get.bind fun desk => ?_
  dsimp only
  split
  · exact .pure _
  · split
    · exact .throw_bind _ _
    · exact .pure _

theorem takeLine_rests : KeepingRun Rests takeLine := by
  intro desk
  unfold takeLine
  rw [KeepingRun.bind_apply]
  change ((if desk.input.isEmpty then _ else _ : Run (Option String)) desk).2.disk = desk.disk
  split <;> rfl

/-- Whatever is recorded of the files that are listed belongs to the project on the disk. -/
theorem listSources_bind {setting : Setting} {base : String} {f : List SourceFile → Run β}
    (h : ∀ files : List SourceFile, KeepingRun
      (Records ⟨Program.projectName base, pathOf setting.folder, files, setting.typeOrder⟩)
        (f files)) :
    KeepingRun (Writes setting) (listSources setting base >>= f) := by
  intro desk
  rw [KeepingRun.bind_apply]
  unfold listSources
  by_cases zero : holdsZero base = true
  · simp only [zero, if_true]
    exact SeesDisk.stop rfl
  · simp only [zero]
    exact ⟨base, h (desk.disk.sources setting.fileOrder setting.folder base) desk⟩

theorem openLog_rests (folder : Place) (path : String) :
    KeepingRun Rests (openLog folder path) :=
  (placeToWrite_rests folder path).bind fun _ => modify_rests fun _ => rfl

theorem writeFile_records (folder : Place) (path : String) (project : Project) :
    KeepingRun (Records project) (writeFile folder path project.model.render) :=
  rests_bind (placeToWrite_rests folder path) fun place _ => .inr ⟨place, rfl⟩

/-! ### The program -/

theorem logEvent_rests (setting : Setting) (least : Level) (event : Event) :
    KeepingRun Rests (Program.logEvent (world setting) least event) := by
  unfold Program.logEvent
  split
  · exact modify_rests fun _ => rfl
  · exact .pure _

theorem readSettings_rests (setting : Setting) :
    KeepingRun Rests (Program.readSettings (world setting)) := by
  refine (readFile?_rests setting.folder _).bind fun bytes => ?_
  split
  · exact .pure _
  · split
    · exact .pure _
    · exact .throw _

theorem askBase_rests (setting : Setting) (settings : Table String) :
    KeepingRun Rests (Program.askBase (world setting) settings) := by
  unfold Program.askBase
  split
  · exact .pure _
  · refine KeepingRun.bind (modify_rests fun _ => rfl) fun _ => ?_
    refine takeLine_rests.bind fun line => ?_
    split
    · exact .pure _
    · exact .throw _

theorem extract_writes (setting : Setting) (debug : Bool) :
    KeepingRun (Writes setting) (Program.extract (world setting) debug) := by
  have log := logEvent_rests setting (Program.leastLevel debug)
  refine rests_bind (openLog_rests _ _) fun _ => rests_bind (log _) fun _ => ?_
  refine rests_bind (readSettings_rests setting) fun settings => ?_
  refine rests_bind (askBase_rests setting settings) fun base => ?_
  refine rests_bind (.pure _) fun stamp => rests_bind (log _) fun _ => ?_
  refine listSources_bind fun files => ?_
  refine rests_bind (.forM log _) fun _ => rests_bind (log _) fun _ => ?_
  exact (writeFile_records _ _ _).bind_of (fun _ => log _) id Records.rests

/-- A run writes nothing, or one file with the model of a project that it finds on the disk. -/
theorem run_writes (setting : Setting) (arguments : List String) (desk : Desk) :
    Writes setting desk (run setting arguments desk).2 := by
  have runs : KeepingRun (Writes setting) (Program.run (world setting) arguments) := by
    unfold Program.run
    dsimp only
    split
    · exact rests_bind (modify_rests fun _ => rfl) fun _ _ => SeesDisk.stop rfl
    · exact rests_bind (modify_rests fun _ => rfl) fun _ _ => SeesDisk.stop rfl
    · exact rests_bind (modify_rests fun _ => rfl) fun _ _ => SeesDisk.stop rfl
    · exact (extract_writes setting _).bind_of (fun _ => .pure _) id Writes.rests
  exact runs desk

end CodeMap.Desk
