import TableInterfaces.Fault
import TableInterfaces.Text.Lines

/-!
# The console

What a run of the program prints, line by line, beside the files it leaves. A run ends with an exit
code, or at a fault that it does not report itself.
-/

namespace TableInterfaces.CommandLine

open TableInterfaces.Storage
open TableInterfaces.Text

/-- What a run has printed so far, and the files as it has left them. -/
structure Console where
  lines : List String := []
  tree : FileTree

/-- How a run ends. -/
inductive Ending where
  | exit (code : Nat)
  | fault (cause : Fault)

/-- A run of the program, which may end early. -/
abbrev Session := ExceptT Ending (StateM Console)

/-- Characters that a console does not show: bell, backspace, vertical tab, form feed and carriage
return. -/
def isUnshown (c : Char) : Bool :=
  [0x07, 0x08, 0x0B, 0x0C, 0x0D].contains c.toNat

/-- The lines in which a text is shown. -/
def shownLines (text : String) : List String :=
  splitAtChar '\n' (String.ofList (text.toList.filter fun c => !isUnshown c))

/-- The lines of a table row: the value stands behind its title, and goes on below where it has
several lines. -/
def rowLines (title value : String) : List String :=
  match shownLines value with
  | [] => [title]
  | first :: more => (title ++ "  " ++ first) :: more

namespace Session

/-- Prints lines. -/
def sayLines (lines : List String) : Session Unit :=
  modify fun console => { console with lines := console.lines ++ lines }

/-- Prints a text. -/
def say (text : String) : Session Unit :=
  sayLines (shownLines text)

/-- A result, or the fault at which the run ends. -/
def ofResult {α : Type} (result : Result α) : Session α :=
  match result with
  | .ok a => pure a
  | .error cause => throw (.fault cause)

/-- Ends the run. -/
def exit {α : Type} (code : Nat) : Session α :=
  throw (.exit code)

/-- The files as they are. -/
def files : Session FileTree :=
  return (← get).tree

/-- Puts files in place of those there are. -/
def setFiles (tree : FileTree) : Session Unit :=
  modify fun console => { console with tree }

end Session

end TableInterfaces.CommandLine
