import TableInterfaces.Generator.Run
import TableInterfaces.Registry

/-!
# Generating from a document

The whole way from an entity document to files, over the built-in languages.
-/

namespace TableInterfaces

open TableInterfaces.Json
open TableInterfaces.Storage

/-- A run over the entities of a document. What is wrong with the document makes the run fail; a
language or a configuration that does not exist is an error of the call. -/
def generateDocument (tree : FileTree) (document language config : Value) :
    Result (Except RunFailure Generation) :=
  match Document.load document with
  | .error (.schema cause) => .ok (.error (.document (.schema cause)))
  | .error cause => .error cause
  | .ok entities => do
    let generator ← Registry.standard.create tree language (.ofValue config)
    return generator.generate entities

/-- The parameters of `generateText` that no option may name. -/
def namedParameters : List String := ["document", "language"]

/-- The texts of all files of a document in one, under options that override the configuration. -/
def generateText (tree : FileTree) (document language : Value) (options : List (String × Value)) :
    Result String := do
  match options.find? fun option => namedParameters.contains option.1 with
  | some option => misuse (.takenOption option.1)
  | none =>
    match ← generateDocument tree document language (.object options) with
    | .ok generation => return generation.code
    | .error failure => throw (.generationFailed failure.message)

end TableInterfaces
