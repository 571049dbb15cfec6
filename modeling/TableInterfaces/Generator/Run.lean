import TableInterfaces.Entity.Document
import TableInterfaces.Generator.Check
import TableInterfaces.Source.Tidy

/-!
# Generating files

A run writes one file for each entity, in order, at a path made of the package and the interface
name; no two files may share a path. A run that fails gives no files and names its cause.
-/

namespace TableInterfaces

open TableInterfaces.Json
open TableInterfaces.Source
open TableInterfaces.Storage
open TableInterfaces.Text

namespace Generator

/-- The text of an entity's file in a run. -/
def sourceOf (g : Generator) (run : Run) (e : Entity) : Result String := do
  let unit ← g.config.indentUnit
  let (printed, progress) := interfaceOf e g.mode (g.services run)
  printed
  let ending ← g.config.lineJoiner
  tidied (g.config.setting .lineEnding) (progress.sheet.render unit ending)

/-- The text of an entity's file in a run over this entity alone. -/
def sourceAlone (g : Generator) (e : Entity) : Result String := do
  let run ← g.run [e]
  g.sourceOf run e

/-- The path of an entity's file: a directory for each part of the package. -/
def filePath (g : Generator) (run : Run) (e : Entity) : Result String := do
  let package ← run.names.package e
  let interface ← run.names.interface e
  return (Path.ofParts (splitAtChar '.' package ++ [interface ++ g.target.extension])).text

/-- The files of entities in a run. `owners` gives for each path in use the title of its entity. -/
def filesFrom (g : Generator) (run : Run) (owners : List (String × String)) :
    List Entity → Result (List (String × String))
  | [] => .ok []
  | e :: rest => do
    let path ← g.filePath run e
    match owners.lookup path with
    | some owner => throw (.output (.samePath owner e.title path))
    | none =>
      let source ← g.sourceOf run e
      let later ← filesFrom g (run.after e) ((path, e.title) :: owners) rest
      return (path, source) :: later

/-- The files of entities by their paths, in the order of the entities. -/
def files (g : Generator) (entities : List Entity) : Result (List (String × String)) := do
  let run ← g.run entities
  g.filesFrom run [] entities

end Generator

/-- What is told about a run beside its files. -/
structure Summary where
  target : Target
  entityCount : Nat
  memberCount : Nat
  immutable : Value
  fluent : Value

/-- What a run gives. -/
structure Generation where
  files : List (String × String)
  warnings : List String
  summary : Summary

/-- The texts of all files, with a line feed between neighbours. -/
def Generation.code (generation : Generation) : String :=
  String.intercalate "\n" (generation.files.map (·.2))

/-- Where a run fails: in its document, or later. -/
inductive RunFailure where
  | document (cause : Fault)
  | generation (cause : Fault)

namespace RunFailure

/-- The cause of a failed run. -/
def cause : RunFailure → Fault
  | .document cause => cause
  | .generation cause => cause

/-- The wording of a failed run. -/
def message : RunFailure → String
  | .document cause => "Invalid entity document: " ++ cause.message
  | .generation cause => "Code generation failed: " ++ cause.message

end RunFailure

namespace Generator

/-- What is told about a run over some entities. -/
def summary (g : Generator) (entities : List Entity) : Summary where
  target := g.target
  entityCount := entities.length
  memberCount := (entities.flatMap (·.members)).length
  immutable := g.config.setting .immutablePojos
  fluent := g.config.setting .fluentSetters

/-- The warnings and the files of a run over some entities. -/
def result (g : Generator) (entities : List Entity) : Result Generation := do
  let warnings ← g.warnings entities
  let files ← g.files entities
  return { files, warnings, summary := g.summary entities }

/-- A run over some entities. -/
def generate (g : Generator) (entities : List Entity) : Except RunFailure Generation :=
  (g.result entities).mapError .generation

end Generator

end TableInterfaces
