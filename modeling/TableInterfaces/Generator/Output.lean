import TableInterfaces.Fault

/-!
# Writing generated files

Generated files are written below an output directory, with the directories of their packages.
Writing stops at the first file that cannot be written; the files before it stay.
-/

namespace TableInterfaces.Output

open TableInterfaces.Storage

/-- The tree with a text at a path, and with all directories above it. The tree comes with the
failure, as it was left. -/
def writeText (tree : FileTree) (target : Path) (text : String) : FileTree × Option FileFailure :=
  match tree.makeDirectories target.root target.parent.components.reverse with
  | (tree, some failure) => (tree, some failure)
  | (tree, none) =>
    match tree.write target text.toUTF8 with
    | .ok written => (written, none)
    | .error failure => (tree, some failure)

/-- The tree with one generated file below an output directory. -/
def writeFile (tree : FileTree) (target : Path) (text : String) : FileTree × Result Unit :=
  if !FileTree.isNameable target then (tree, misuse .nulCharacter)
  else
    match writeText tree target text with
    | (tree, none) => (tree, .ok ())
    | (tree, some failure) => (tree, .error (.output (.notWritten target failure)))

/-- The tree with generated files below a directory, each written by `write`, and the path at which
each was written. -/
def writeEach (write : FileTree → Path → String → FileTree × Result Unit) (tree : FileTree)
    (directory : Path) : List (String × String) → FileTree × Result (List (String × Path))
  | [] => (tree, .ok [])
  | (relative, text) :: rest =>
    let target := directory.append relative
    match write tree target text with
    | (tree, .error cause) => (tree, .error cause)
    | (tree, .ok ()) =>
      let (tree, later) := writeEach write tree directory rest
      (tree, later.map fun written => (relative, target) :: written)

/-- The tree with generated files below a directory, and the path at which each was written. -/
def writeFiles (tree : FileTree) (directory : Path) (files : List (String × String)) :
    FileTree × Result (List (String × Path)) :=
  writeEach writeFile tree directory files

/-- The directory that a value names. -/
def directoryOf (v : Json.Value) : Result Path :=
  match v with
  | .text name => .ok (Path.ofText name)
  | _ => misuse (.notText v.kind)

/-- The tree with generated files below the directory that a value names. -/
def writeBelow (tree : FileTree) (directory : Json.Value) (files : List (String × String)) :
    FileTree × Result (List (String × Path)) :=
  match directoryOf directory with
  | .ok path => writeFiles tree path files
  | .error cause => (tree, .error cause)

end TableInterfaces.Output
