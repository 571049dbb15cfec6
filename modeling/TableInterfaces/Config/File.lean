import TableInterfaces.Config.Layer
import TableInterfaces.Json.Printer
import TableInterfaces.Text.Lines

/-!
# Configuration files

A configuration file holds one JSON object, and its name ends in `.json`. Saving writes the settings
in their order with the custom fields behind them.
-/

namespace TableInterfaces

open TableInterfaces.Json
open TableInterfaces.Storage
open TableInterfaces.Text

/-- The text of a file's content, with line feeds as the only line ends. -/
def textOfContent (content : ByteArray) : Result String :=
  match String.fromUTF8? content with
  | some s => .ok (String.ofList (unifyNewlines s.toList))
  | none => misuse .undecodable

/-- A failure to read JSON, with the wording that a reader gives to flaws. -/
def readFault (flawed : Flaw → Fault) : ReadFailure → Fault
  | .flawed flaw => flawed flaw
  | .longNumber digits => .misuse (.tooManyDigits digits)
  | .tooDeep => .misuse .tooDeep

/-- Something stands at a path; a name that is too long is an error of its own. -/
def standsAt (tree : FileTree) (path : Path) : Result Bool :=
  match tree.pathExists path with
  | .ok found => .ok found
  | .error failure => misuse (.nameTooLong failure)

namespace Config

/-- The fields of a configuration file. They are the fields of the file only where each text literal
is a row of characters; of other literals `parse` keeps less than the file says. -/
def readFile (tree : FileTree) (path : Path) : Result (List (String × Value)) := do
  if !(← standsAt tree path) then throw (.config (.fileNotFound path))
  if lower path.suffix != ".json" then throw (.config (.fileNotJson path))
  match tree.read path with
  | .error failure => throw (.config (.unreadable path failure))
  | .ok content =>
    let text ← textOfContent content
    match parse text with
    | .ok (.object fields) => return fields
    | .ok _ => throw (.config (.notObject path))
    | .error failure => throw (readFault (fun flaw => .config (.invalidJson path flaw)) failure)

/-- The fields of the file that a caller names; no name has no fields. -/
def readNamed (tree : FileTree) (file : Value) : Result (List (String × Value)) :=
  if !file.truthy then .ok []
  else
    match file with
    | .text name => readFile tree (Path.ofText name)
    | _ => misuse (.notText file.kind)

/-- The configuration of a language with a file and overrides on top. -/
def get (tree : FileTree) (language file overrides : Value) : Result Config := do
  let _ ← defaultsFor language
  let fields ← readNamed tree file
  layered language fields overrides

/-- The text of a saved configuration. -/
def savedText (c : Config) : Result String := do
  let entries ← c.toEntries
  return written 0 entries.toObject

/-- The tree with a configuration saved at a path. -/
def save (c : Config) (tree : FileTree) (path : Path) : Result FileTree := do
  let text ← c.savedText
  if !FileTree.isNameable path then misuse .nulCharacter
  match tree.write path text.toUTF8 with
  | .ok tree' => return tree'
  | .error failure => throw (.config (.notSaved path failure))

end Config

end TableInterfaces
