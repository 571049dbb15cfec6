import TableInterfaces.Text.Lines

/-!
# File paths

A path is a row of components, below the working directory or below a root. Joining parts drops
empty and `.` components, keeps `..`, and starts anew at a part that begins with a slash. A path of
exactly two slashes at its start has a root of its own.
-/

namespace TableInterfaces.Storage

open TableInterfaces.Text

/-- A file path: `root` is empty, one slash or two slashes. -/
structure Path where
  root : String
  components : List String
  deriving DecidableEq, Repr

namespace Path

/-- The components of a part of a path. -/
def splitPart (part : String) : List String :=
  (splitAtChar '/' part).filter fun c => c != "" && c != "."

/-- The root that a part of a path begins with. -/
def rootOf (part : String) : String :=
  match (part.toList.takeWhile (· == '/')).length with
  | 0 => ""
  | 2 => "//"
  | _ => "/"

/-- A path with one more part behind it. -/
def append (p : Path) (part : String) : Path :=
  let root := rootOf part
  if root == "" then { p with components := p.components ++ splitPart part }
  else { root, components := splitPart part }

/-- The working directory. -/
def here : Path := ⟨"", []⟩

/-- The path made of parts, from left to right. -/
def ofParts (parts : List String) : Path :=
  parts.foldl append here

/-- The path that a text writes. -/
def ofText (s : String) : Path :=
  ofParts [s]

/-- The text of a path. The working directory is a dot. -/
def text (p : Path) : String :=
  if p.root == "" && p.components.isEmpty then "."
  else p.root ++ String.intercalate "/" p.components

/-- The directory of a path; a root and the working directory are their own. -/
def parent (p : Path) : Path :=
  { p with components := p.components.dropLast }

/-- The suffix of a file name, with its dot: the text from its last dot, unless the dot is the first
or the last character. -/
def suffix (p : Path) : String :=
  match p.components.getLast? with
  | none => ""
  | some name =>
    let cs := name.toList
    let tail := (cs.reverse.takeWhile (· != '.')).reverse
    let stem := cs.length - tail.length - 1
    if tail.length < cs.length ∧ 0 < stem ∧ tail ≠ [] then String.ofList ('.' :: tail) else ""

end Path

end TableInterfaces.Storage
