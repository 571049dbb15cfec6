import TableInterfaces.Generator.Run
import TableInterfaces.Proofs.Jvm.Annotation
import TableInterfaces.Proofs.Naming.Interface
import TableInterfaces.Proofs.Source.Layout

/-!
# The files of a run

A run that gives files has one for each entity. `Generator.FileOf` says what there is to know about
the file of an entity: its path, its text, the sheet behind the text and the parts of the interface
on the sheet. Main statement:

* `Generator.files_ok`: a run that gives files gives the file of each entity, in the state of the
  run behind the entities in front of it.
-/

namespace TableInterfaces

open TableInterfaces.Jvm
open TableInterfaces.Naming
open TableInterfaces.Source

namespace Generator

/-! ## The state of a run -/

/-- What a run knows behind the interfaces of some entities. -/
def Run.behind (run : Run) (front : List Entity) : Run :=
  front.foldl Run.after run

/-- Names agree throughout a run. -/
theorem Run.behind_names (run : Run) (front : List Entity) :
    run.names.Agree (run.behind front).names := by
  induction front generalizing run with
  | nil => exact .refl _
  | cons e rest ih => exact (InterfaceNames.Agree.remember _ _).trans (ih (run.after e))

/-- States of a run that agree still do behind some entities each. -/
theorem Run.behind_agree {run run' : Run} (h : run.names.Agree run'.names)
    (front front' : List Entity) :
    (run.behind front).names.Agree (run'.behind front').names :=
  ((run.behind_names front).symm.trans h).trans (run'.behind_names front')

/-- Types are the same throughout a run. -/
theorem Run.behind_types (run : Run) (front : List Entity) :
    (run.behind front).types = run.types := by
  induction front generalizing run with
  | nil => rfl
  | cons e rest ih => exact ih (run.after e)

/-- The names of a run follow the configuration of the generator. -/
theorem run_names_config {g : Generator} {entities : List Entity} {run : Run}
    (h : g.run entities = .ok run) : run.names.config = g.config := by
  obtain ⟨types, -, h⟩ := Result.ok_of_bind h
  obtain ⟨names, hnames, h⟩ := Result.ok_of_bind h
  obtain ⟨_, -, hnames⟩ := Result.ok_of_bind hnames
  cases hnames
  cases h
  rfl

/-! ## The annotations of a generator -/

/-- The annotations that a generator asks for. -/
def marks (g : Generator) : MarkService where
  entity := AnnotationPolicy.entityMarks ⟨g.config, g.target.dialect⟩
  member := AnnotationPolicy.memberMarks ⟨g.config, g.target.dialect⟩

/-- A generator prints the annotations that it asks for. -/
theorem services_prints (g : Generator) (run : Run) :
    (g.services run).annotations.Prints g.marks :=
  ⟨AnnotationPolicy.entityLines_prints _, AnnotationPolicy.memberLines_prints _⟩

/-! ## Files -/

/-- The text of an entity's file by the parts of its interface. -/
theorem sourceOf_eq (g : Generator) (run : Run) (e : Entity) :
    g.sourceOf run e = (do
      let unit ← g.config.indentUnit
      let parts ← interfaceParts e g.mode (g.services run) g.marks
      let ending ← g.config.lineJoiner
      tidied (g.config.setting .lineEnding) ((parts.progress g.mode).sheet.render unit ending)) := by
  unfold sourceOf
  refine bind_congr fun unit => ?_
  rcases hparts : interfaceParts e g.mode (g.services run) g.marks with fault | parts
  · dsimp only
    rw [interfaceOf_error (services_prints g run) hparts]
    rfl
  · rw [interfaceOf_of_parts (services_prints g run) hparts]
    rfl

/-- The file of an entity in a state of a run: its path and its text, the sheet that the text is
rendered from, and the parts of the interface that the sheet shows. -/
structure FileOf (g : Generator) (run : Run) (e : Entity) (file : String × String)
    (parts : InterfaceParts) (sheet : Sheet) : Prop where
  path_ok : g.filePath run e = .ok file.1
  source_ok : g.sourceOf run e = .ok file.2
  printed : ∃ annotated, interfaceOf e g.mode (g.services run) = (.ok (), ⟨sheet, annotated⟩)
  parts_ok : interfaceParts e g.mode (g.services run) g.marks = .ok parts
  shown : parts.Printed g.mode sheet

/-- A file that has a path and a text is the file of an entity. -/
theorem fileOf_of_ok {g : Generator} {run : Run} {e : Entity} {path source : String}
    (hpath : g.filePath run e = .ok path) (hsource : g.sourceOf run e = .ok source) :
    ∃ parts sheet, g.FileOf run e (path, source) parts sheet := by
  obtain ⟨unit, _, h⟩ := Result.ok_of_bind hsource
  rcases hrun : interfaceOf e g.mode (g.services run) with ⟨printed, sheet, annotated⟩
  rw [hrun] at h
  obtain ⟨_, rfl, _⟩ := Result.ok_of_bind h
  obtain ⟨parts, hparts, hshown⟩ := interfaceOf_ok (g.services_prints run) hrun
  exact ⟨parts, sheet, hpath, hsource, ⟨annotated, hrun⟩, hparts, hshown⟩

/-- A run that gives files gives the file of each entity. -/
theorem filesFrom_ok {g : Generator} {run : Run} {owners : List (String × String)}
    {entities : List Entity} {files : List (String × String)}
    (h : g.filesFrom run owners entities = .ok files) {front back : List Entity} {e : Entity}
    (he : entities = front ++ e :: back) :
    ∃ file ∈ files, ∃ parts sheet, g.FileOf (run.behind front) e file parts sheet := by
  induction entities generalizing run owners files front with
  | nil => simp at he
  | cons d rest ih =>
    obtain ⟨path, hpath, h⟩ := Result.ok_of_bind h
    split at h
    · cases h
    · obtain ⟨source, hsource, h⟩ := Result.ok_of_bind h
      obtain ⟨later, hlater, h⟩ := Result.ok_of_bind h
      cases h
      cases front with
      | nil =>
        cases he
        obtain ⟨parts, sheet, hfile⟩ := fileOf_of_ok hpath hsource
        exact ⟨_, List.mem_cons_self, parts, sheet, hfile⟩
      | cons first front =>
        cases he
        obtain ⟨file, hmem, parts, sheet, hfile⟩ := ih hlater rfl
        exact ⟨file, List.mem_cons_of_mem _ hmem, parts, sheet, hfile⟩

/-- **One file for each entity.** A run that gives files gives the file of each entity, in the state
of the run behind the entities in front of it. -/
theorem files_ok {g : Generator} {entities : List Entity} {files : List (String × String)}
    (h : g.files entities = .ok files) : ∃ run, g.run entities = .ok run ∧
      ∀ front e back, entities = front ++ e :: back →
        ∃ file ∈ files, ∃ parts sheet, g.FileOf (run.behind front) e file parts sheet := by
  obtain ⟨run, hrun, h⟩ := Result.ok_of_bind h
  exact ⟨run, hrun, fun front e back he => filesFrom_ok h he⟩

end Generator

end TableInterfaces
