import TableInterfaces.Row
import TableInterfaces.Source.Scope

/-!
# Source sheets

A source file in the making: its lines with their depth of nesting, and its names. Rendering indents
the lines and puts the imports behind the package line, or in front where there is none. A depth of
the caller's choice is checked first.
-/

namespace TableInterfaces.Source

/-- A line of source text, not yet indented. -/
structure Line where
  depth : Int
  text : String
  deriving DecidableEq, Repr

/-- A source file in the making. -/
structure Sheet where
  lines : List Line := []
  scope : Scope
  deriving DecidableEq, Repr

namespace Sheet

/-- The empty sheet of a dialect. -/
def blank (dialect : Dialect) : Sheet where
  scope := { dialect }

/-- The sheet with one more line. -/
def println (s : Sheet) (text : String) (depth : Int) : Sheet :=
  { s with lines := s.lines ++ [⟨depth, text⟩] }

/-- A text repeated `n` times; a negative number counts as zero. No text is built for an empty unit,
which may be repeated any number of times. -/
def repeated (unit : String) (n : Int) : String :=
  if unit == "" then "" else String.join (List.replicate n.toNat unit)

/-- A line with its indentation; an empty line has none. -/
def indented (unit : String) (line : Line) : String :=
  if line.text == "" then "" else repeated unit line.depth ++ line.text

/-- A line that names the package of the file. -/
def isPackageLine (line : Line) : Bool :=
  line.depth == 0 && "package ".toList.isPrefixOf line.text.toList

/-- The import line for a qualified name. -/
def importLine (dialect : Dialect) (name : String) : String :=
  "import " ++ name ++ match dialect with
    | .interfaces => ";"
    | .traits => ""

/-- The import lines of a sheet. -/
def importLines (s : Sheet) : List String :=
  s.scope.imports.map (importLine s.scope.dialect)

/-- The lines of the file: the imports follow an empty line behind the first package line, or stand
first with an empty line behind them. -/
def fileLines (s : Sheet) (unit : String) : List String :=
  let imports := s.importLines
  let text := s.lines.map (indented unit)
  if imports.isEmpty then text
  else
    match s.lines.findIdx? isPackageLine with
    | some i => text.take (i + 1) ++ "" :: imports ++ text.drop (i + 1)
    | none => imports ++ "" :: text

/-- The text of the file, each line with its ending. -/
def render (s : Sheet) (unit ending : String) : String :=
  String.intercalate ending (s.fileLines unit) ++ ending

/-- A line does not lie deeper than can be written; an empty line may lie at any depth. -/
def checkDepth (unit : String) (line : Line) : Result Unit :=
  if line.text == "" then .ok () else (checkRow unit.length line.depth).mapError .misuse

/-- The text of a file whose lines may lie at any depth. -/
def text (s : Sheet) (unit ending : String) : Result String := do
  s.lines.forM (checkDepth unit)
  return s.render unit ending

end Sheet

end TableInterfaces.Source
