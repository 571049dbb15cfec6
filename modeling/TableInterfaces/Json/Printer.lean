import TableInterfaces.Json.Value

/-!
# Written JSON

The form in which a configuration is saved: every item and field on a line of its own, two spaces
per level, a colon and a space behind a name. Characters beyond ASCII are written as they are.
-/

namespace TableInterfaces.Json

open TableInterfaces.Number
open TableInterfaces.Text

/-- One character of a written text: quotes, backslashes and controls are escaped. -/
def writtenChar (c : Char) : List Char :=
  if c = doubleQuote then ['\\', doubleQuote]
  else if c = '\\' then ['\\', '\\']
  else if c = '\n' then ['\\', 'n']
  else if c = '\r' then ['\\', 'r']
  else if c = '\t' then ['\\', 't']
  else if c.toNat = 0x0C then ['\\', 'f']
  else if c.toNat = 0x08 then ['\\', 'b']
  else if c.toNat < 0x20 then '\\' :: 'u' :: hexDigits 4 c.toNat
  else [c]

/-- A text in double quotes. -/
def writtenText (s : String) : String :=
  String.ofList (doubleQuote :: s.toList.flatMap writtenChar ++ [doubleQuote])

/-- A double, with the names of the values that are no number. -/
def writtenDouble : Double → String
  | .nan => "NaN"
  | .infinite negative => if negative then "-Infinity" else "Infinity"
  | x => x.text

/-- A line break and the indentation of a level. -/
def lineStart (level : Nat) : String :=
  String.ofList ('\n' :: List.replicate (2 * level) ' ')

/-- Parts of a list or an object between its brackets, each on a line of its own. -/
def bracketed (opening closing : String) (level : Nat) (parts : List String) : String :=
  if parts.isEmpty then opening ++ closing
  else
    opening ++ lineStart (level + 1) ++ String.intercalate ("," ++ lineStart (level + 1)) parts ++
      lineStart level ++ closing

mutual
/-- A value written at a level of nesting. -/
def written (level : Nat) : Value → String
  | .null => "null"
  | .bool true => "true"
  | .bool false => "false"
  | .int n => toString n
  | .float x => writtenDouble x
  | .text s => writtenText s
  | .list items => bracketed "[" "]" level (writtenItems (level + 1) items)
  | .object fields => bracketed "\x7b" "\x7d" level (writtenFields (level + 1) fields)

/-- The items of a list, written one level deeper. -/
def writtenItems (level : Nat) : List Value → List String
  | [] => []
  | v :: rest => written level v :: writtenItems level rest

/-- The fields of an object, written one level deeper. -/
def writtenFields (level : Nat) : List (String × Value) → List String
  | [] => []
  | (k, v) :: rest => (writtenText k ++ ": " ++ written level v) :: writtenFields level rest
end

end TableInterfaces.Json
