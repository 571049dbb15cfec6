import TableInterfaces.Row
import TableInterfaces.Text.Identifier
import TableInterfaces.Text.Lowercase

/-!
# Values in use

Fields of documents and configurations are not checked when they are read. Each accessor of this
module is one use of a value, and fails where the value is of a kind that has no such use.
-/

namespace TableInterfaces.Json.Value

open TableInterfaces.Number
open TableInterfaces.Text

/-- The values that a value yields one by one: the items of a list, the characters of a text, the
names of an object. -/
def elements (v : Value) : Result (List Value) :=
  match v with
  | .list items => .ok items
  | .text s => .ok (s.toList.map fun c => .text (String.singleton c))
  | .object fields => .ok (fields.map fun field => .text field.1)
  | _ => misuse (.notIterable v.kind)

/-- A value that can be told apart from its equals in a set of values. -/
def checkHashable (v : Value) : Result Unit :=
  if v.isHashable then .ok () else misuse (.unhashable v.kind)

/-- A text in lower case. -/
def lowered (v : Value) : Result String :=
  match v with
  | .text s => .ok (lower s)
  | _ => misuse (.lacksOperation v.kind "lower")

/-- A value is a number below `n`; truth values count as numbers. -/
def isBelow (v : Value) (n : Int) : Result Bool :=
  match v with
  | .int m => .ok (decide (m < n))
  | .bool b => .ok (decide (boolInt b < n))
  | .float x => .ok (x.lessThanInt n)
  | _ => misuse (.notOrdered v.kind .int)

/-- A row of one character, as long as a value says; no length below one has characters. -/
def row (v : Value) (c : Char) : Except Misuse String :=
  match v with
  | .int n => do
    checkRow 1 n
    return String.ofList (List.replicate n.toNat c)
  | .bool b => .ok (if b then String.singleton c else "")
  | _ => .error (.notRepeatable v.kind)

/-- A text is an identifier. -/
def isIdentifierText (v : Value) : Result Bool :=
  match v with
  | .text s => .ok (isIdentifier s.toList)
  | _ => misuse (.lacksOperation v.kind "isidentifier")

end TableInterfaces.Json.Value
