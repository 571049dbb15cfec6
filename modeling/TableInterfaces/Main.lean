import TableInterfaces.CommandLine.Run

/-!
# The program

Records what stands at the paths that a command line names, runs the command on that record, and
carries out what the run leaves: lines on the standard output, messages on the error stream, new
directories and files. There is no network, so every request finds no connection.
-/

namespace TableInterfaces.CommandLine

open TableInterfaces.Storage

/-- The number of the error that a directory gives where a file is read. -/
def directoryError : UInt32 := 21

/-- What stands at a path on disk. -/
def nodeOnDisk (path : Path) : IO (Option Node) := do
  try
    return some (.file (← IO.FS.readBinFile path.text))
  catch
    | .noFileOrDirectory _ _ _ => return none
    | .inappropriateType _ number _ =>
      return if number = directoryError then some .directory else none
    | failure => throw failure

/-- The tree with what stands on disk at a path put in. -/
def recordNode (tree : FileTree) (path : Path) : IO FileTree := do
  match tree.resolve path with
  | .error _ => return tree
  | .ok place =>
    if (tree.node? place).isSome then return tree
    match ← nodeOnDisk path with
    | some node => return tree.put place node
    | none => return tree

/-- The tree with what stands on disk at a path and at all paths above it, from the top down. -/
def recordPath (tree : FileTree) (path : Path) : IO FileTree :=
  (List.range path.components.length).foldlM
    (fun tree n => recordNode tree { path with components := path.components.take (n + 1) }) tree

/-- The paths that arguments name. -/
def namedPaths (a : Arguments) : List Path :=
  [a.file, a.filled? .config, a.filled? .output].filterMap fun name => name.map Path.ofText

/-- The entries of a tree that are not the same in an older one. -/
def changedEntries (before after : FileTree) : List (List String × Node) :=
  after.entries.filter fun (place, node) =>
    match node, before.node? place with
    | .directory, some .directory => false
    | .file new, some (.file old) => new.data != old.data
    | _, _ => true

/-- Puts an entry of a tree on disk. -/
def putOnDisk : List String × Node → IO Unit
  | (place, node) =>
    let path : Path := ⟨"/", place⟩
    match node with
    | .directory => IO.FS.createDirAll path.text
    | .file content => IO.FS.writeBinFile path.text content

/-- The text of the standard input. -/
def readInput : IO String := do
  let content ← (← IO.getStdin).readBinToEnd
  match String.fromUTF8? content with
  | some text => return text
  | none => throw (IO.userError "the standard input is not valid UTF-8")

/-- Prints what a run leaves and gives its exit code. -/
def deliverReport (report : Report) : IO UInt32 := do
  report.lines.forM fun line => IO.println line
  match report.status with
  | .finished code => return code.toUInt32
  | .stopped code messages =>
    messages.forM fun message => IO.eprintln message
    return code.toUInt32
  | .failed cause =>
    IO.eprintln cause.message
    return 1

/-- Runs the program on the words of a command line, with the files on disk. -/
def runOnDisk (words : List String) : IO UInt32 := do
  let arguments := (read words).toOption.bind (·.command)
  let home := (Path.ofText (toString (← IO.currentDir))).components
  let before ← (arguments.toList.flatMap namedPaths).foldlM recordPath (.empty home)
  let input ← if arguments.any (·.has .stdin) then readInput else pure ""
  let report := run { input } before words
  (changedEntries before report.tree).forM putOnDisk
  deliverReport report

end TableInterfaces.CommandLine

/-- The program. -/
def main (words : List String) : IO UInt32 :=
  TableInterfaces.CommandLine.runOnDisk words
