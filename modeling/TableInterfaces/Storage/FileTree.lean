import TableInterfaces.Storage.Path
import TableInterfaces.Text.Quoted

/-!
# Trees of files

A file tree maps places, written as component lists from the root, to files and directories. Paths
are resolved step by step as an operating system does it: every step but the last must reach a
directory, `..` leads to the parent, and relative paths start at the tree's home.
-/

namespace TableInterfaces.Storage

open TableInterfaces.Text

/-- Why an operation on a file fails. -/
inductive FileError where
  | notFound
  | alreadyExists
  | notDirectory
  | isDirectory
  | nameTooLong
  deriving DecidableEq, Repr

/-- The number of a file error. -/
def FileError.number : FileError → Nat
  | .notFound => 2
  | .alreadyExists => 17
  | .notDirectory => 20
  | .isDirectory => 21
  | .nameTooLong => 36

/-- The wording of a file error. -/
def FileError.wording : FileError → String
  | .notFound => "No such file or directory"
  | .alreadyExists => "File exists"
  | .notDirectory => "Not a directory"
  | .isDirectory => "Is a directory"
  | .nameTooLong => "File name too long"

/-- A file error with the path it is about. -/
structure FileFailure where
  error : FileError
  path : Path
  deriving DecidableEq, Repr

/-- The wording of a file failure. -/
def FileFailure.message (f : FileFailure) : String :=
  "[Errno " ++ toString f.error.number ++ "] " ++ f.error.wording ++ ": " ++ quoted f.path.text

/-- What stands at a place of a tree. -/
inductive Node where
  | file (content : ByteArray)
  | directory

/-- A tree of files: its entries, and the place where relative paths start. -/
structure FileTree where
  home : List String
  entries : List (List String × Node)

namespace FileTree

/-- A tree that holds only the directories down to its home. -/
def empty (home : List String) : FileTree where
  home
  entries := (List.range home.length).map fun n => (home.take (n + 1), .directory)

/-- What stands at a place; the root is a directory. -/
def node? (t : FileTree) (place : List String) : Option Node :=
  if place.isEmpty then some .directory else t.entries.lookup place

/-- The tree with a node put at a place. -/
def put (t : FileTree) (place : List String) (node : Node) : FileTree :=
  if (t.entries.lookup place).isSome then
    { t with entries := t.entries.map fun e => if e.1 == place then (place, node) else e }
  else { t with entries := t.entries ++ [(place, node)] }

/-- The longest component a place may have, in bytes. -/
def maxNameBytes : Nat := 255

/-- The place reached from a directory by the remaining components of a path. All but the last step
must reach a directory; the last one may lead to where nothing stands yet. -/
def walk (t : FileTree) (place : List String) : List String → Except FileError (List String)
  | [] => .ok place
  | name :: rest =>
    match t.node? place with
    | none => .error .notFound
    | some (.file _) => .error .notDirectory
    | some .directory =>
      if maxNameBytes < name.utf8ByteSize then .error .nameTooLong
      else walk t (if name == ".." then place.dropLast else place ++ [name]) rest

/-- The longest text a path may have, in bytes. -/
def maxPathBytes : Nat := 4095

/-- The place of a path. -/
def resolve (t : FileTree) (p : Path) : Except FileError (List String) :=
  if maxPathBytes < p.text.utf8ByteSize then .error .nameTooLong
  else walk t (if p.root == "" then t.home else []) p.components

/-- What a path leads to. -/
def stat (t : FileTree) (p : Path) : Except FileError Node := do
  let place ← t.resolve p
  match t.node? place with
  | some node => .ok node
  | none => .error .notFound

/-- A path with a NUL character names nothing that could exist. -/
def isNameable (p : Path) : Bool :=
  !p.text.toList.contains (Char.ofNat 0)

/-- Something stands at a path. That a name is too long is the only failure. -/
def pathExists (t : FileTree) (p : Path) : Except FileFailure Bool :=
  if !isNameable p then .ok false
  else
    match t.stat p with
    | .ok _ => .ok true
    | .error .nameTooLong => .error ⟨.nameTooLong, p⟩
    | .error _ => .ok false

/-- A directory stands at a path. -/
def isDirectory (t : FileTree) (p : Path) : Bool :=
  match t.stat p with
  | .ok .directory => true
  | _ => false

/-- The content of the file at a path. -/
def read (t : FileTree) (p : Path) : Except FileFailure ByteArray :=
  match t.stat p with
  | .ok (.file content) => .ok content
  | .ok .directory => .error ⟨.isDirectory, p⟩
  | .error e => .error ⟨e, p⟩

/-- The tree with a new directory at a path. -/
def makeDirectory (t : FileTree) (p : Path) : Except FileError FileTree := do
  let place ← t.resolve p
  match t.node? place with
  | some _ => .error .alreadyExists
  | none => .ok (t.put place .directory)

/-- The tree with directories at the path of a root and components, and at all paths above it. A
directory that stands there already is kept. The path is tried first and its parent only where
something above it is missing, so an obstacle is reported at the deepest path it blocks. The
components are given last first. The tree comes with the failure, as it was left. -/
def makeDirectories (t : FileTree) (root : String) : List String → FileTree × Option FileFailure
  | [] => (t, none)
  | name :: above =>
    let p : Path := ⟨root, (name :: above).reverse⟩
    match t.makeDirectory p with
    | .ok t' => (t', none)
    | .error .notFound =>
      match t.makeDirectories root above with
      | (t', some failure) => (t', some failure)
      | (t', none) =>
        match t'.makeDirectory p with
        | .ok t'' => (t'', none)
        | .error e => if t'.isDirectory p then (t', none) else (t', some ⟨e, p⟩)
    | .error e => if t.isDirectory p then (t, none) else (t, some ⟨e, p⟩)

/-- The tree with a file of the given content at a path. -/
def write (t : FileTree) (p : Path) (content : ByteArray) : Except FileFailure FileTree :=
  match t.resolve p with
  | .error e => .error ⟨e, p⟩
  | .ok place =>
    match t.node? place with
    | some .directory => .error ⟨.isDirectory, p⟩
    | _ =>
      match t.node? place.dropLast with
      | some .directory => .ok (t.put place (.file content))
      | some (.file _) => .error ⟨.notDirectory, p⟩
      | none => .error ⟨.notFound, p⟩

/-- All files below the home, with their paths from there, in the order of their names. -/
def files (t : FileTree) : List (String × ByteArray) :=
  let found := t.entries.filterMap fun e =>
    match e.2 with
    | .file content =>
      if t.home.isPrefixOf e.1 then
        some (String.intercalate "/" (e.1.drop t.home.length), content)
      else none
    | .directory => none
  found.mergeSort fun a b => decide (a.1 ≤ b.1)

end FileTree

end TableInterfaces.Storage
