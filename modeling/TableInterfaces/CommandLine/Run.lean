import TableInterfaces.CommandLine.Generate
import TableInterfaces.CommandLine.Help
import TableInterfaces.Logging

/-!
# A run of the program

A command line, the files and the surroundings give what is printed, the files that are left, and
how the run ends. A command line that is wrong ends the run with code two and a message on the error
stream.
-/

namespace TableInterfaces.CommandLine

open TableInterfaces.Json
open TableInterfaces.Storage

/-- How a run ends: with a code after the command, with a code and messages before it, or at a fault
that nothing reports. -/
inductive Status where
  | finished (code : Nat)
  | stopped (code : Nat) (messages : List String)
  | failed (cause : Fault)

/-- What a run prints, the files it leaves, and how it ends. -/
structure Report where
  lines : List String := []
  tree : FileTree
  status : Status

/-- The report of a run that stops before its command. -/
def reportStop (tree : FileTree) : Stop → Report
  | .help command => { lines := command.help, tree, status := .stopped 0 [] }
  | .version => { lines := [versionText], tree, status := .stopped 0 [] }
  | .wrong command reason =>
    { tree, status := .stopped 2 [command.usage, command.name ++ ": error: " ++ reason] }

/-- The report of a command that has run. -/
def reportRun (ended : Except Ending Nat × Console) : Report :=
  let status := match ended.1 with
    | .ok code => .finished code
    | .error (.exit code) => .finished code
    | .error (.fault cause) => .failed cause
  { lines := ended.2.lines, tree := ended.2.tree, status }

/-- The report of a command, or of none. -/
def reportCommand (around : Surroundings) (tree : FileTree) : Option Arguments → Report
  | none => { lines := programHelp, tree, status := .finished 1 }
  | some a => reportRun ((generateCommand Registry.standard around a).run.run { tree })

/-- A logging level as it is asked for. Without a value it is an empty list. -/
def levelValue : Option String → Value
  | none => .list []
  | some name => .text name

/-- A run of the program over the built-in languages. The logging level is set in front of the
command. -/
def run (around : Surroundings) (tree : FileTree) (words : List String) : Report :=
  match read words with
  | .error stop => reportStop tree stop
  | .ok request =>
    match Logging.levelOf (levelValue request.level) with
    | .error cause => { tree, status := .failed cause }
    | .ok _ => reportCommand around tree request.command

end TableInterfaces.CommandLine
