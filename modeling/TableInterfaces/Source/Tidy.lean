import TableInterfaces.Config.Setting
import TableInterfaces.Text.Blank
import TableInterfaces.Text.Lines

/-!
# Tidy source text

The last step over the text of a file: no line ends in white space, and no two blank lines follow
each other. All other lines are kept in order.
-/

namespace TableInterfaces.Source

open TableInterfaces.Json
open TableInterfaces.Text

/-- Tidy lines for lines; `afterBlank` says that the line before them was blank. -/
def tidyLinesFrom (afterBlank : Bool) : List (List Char) → List (List Char)
  | [] => []
  | line :: rest =>
    match trimEnd line with
    | [] => if afterBlank then tidyLinesFrom true rest else [] :: tidyLinesFrom true rest
    | kept => kept :: tidyLinesFrom false rest

/-- Lines without white space at their ends, and with one blank line in place of several. -/
def tidyLines (lines : List (List Char)) : List (List Char) :=
  tidyLinesFrom false lines

/-- A text with the given line ending, tidied. -/
def tidyText (ending : List Char) (code : List Char) : List Char :=
  List.intercalate ending (tidyLines (splitOn ending code))

/-- A text tidied under a line ending that has to be a text and may not be empty. -/
def tidied (ending : Value) (code : String) : Result String :=
  match ending with
  | .text "" => misuse .emptySeparator
  | .text s => .ok (String.ofList (tidyText s.toList code.toList))
  | .null => misuse (.lacksOperation .null "join")
  | v => misuse (.notSeparator v.kind)

end TableInterfaces.Source
