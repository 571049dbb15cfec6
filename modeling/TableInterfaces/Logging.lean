import TableInterfaces.Json.Access

/-!
# Loggers and levels

The names of the package's loggers, and the numbers of logging levels.
-/

namespace TableInterfaces.Logging

open TableInterfaces.Json
open TableInterfaces.Text

/-- The logger above all others of the package. -/
def rootLogger : String := "entity_codegen"

/-- The name of the logger that a part of the package asks for. Names that start like the root's are
kept, all others are put below it. -/
def loggerName (name : String) : String :=
  if rootLogger.toList.isPrefixOf name.toList then name else rootLogger ++ "." ++ name

/-- The levels by name, in capitals. -/
def levels : List (String × Int) :=
  [("CRITICAL", 50), ("FATAL", 50), ("ERROR", 40), ("WARN", 30), ("WARNING", 30), ("INFO", 20),
    ("DEBUG", 10), ("NOTSET", 0)]

/-- The name of a level in capitals. Of the letters beyond ASCII that have a capital in ASCII, the
dotless i and the long s, there are two. -/
def capitals (name : String) : String :=
  String.ofList (name.toList.map fun c =>
    if c.toNat = 0x131 then 'I' else if c.toNat = 0x17F then 'S' else c.toUpper)

/-- The level for a level given by name or by number; numbers are taken as they are. -/
def levelOf (level : Value) : Result Value :=
  match level with
  | .text name =>
    match levels.lookup (capitals name) with
    | some n => .ok (.int n)
    | none => misuse (.unknownLevel ("Level " ++ capitals name))
  | .int n => .ok (.int n)
  | .bool b => .ok (.bool b)
  | _ => misuse (.notText level.kind)

end TableInterfaces.Logging
