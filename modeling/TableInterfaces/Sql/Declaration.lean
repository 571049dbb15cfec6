import TableInterfaces.Text.Blank
import TableInterfaces.Text.WordChar

/-!
# Type declarations

The grammar of a declared SQL type: a name, perhaps one or two numbers between round brackets, and
perhaps a pair of square brackets for an array. White space may stand around each part.

A name starts with an ASCII letter or an underscore and goes on with word characters, dots and
spaces. No other part of a declaration can hold one of these characters outside the round brackets,
so the name is the longest row of them, less the spaces at its end.
-/

namespace TableInterfaces.Sql

open TableInterfaces.Text

/-- The parts of a type declaration as they are written. -/
structure Declaration where
  name : List Char
  first : Option (List Char)
  second : Option (List Char)
  isArray : Bool
  deriving DecidableEq, Repr

namespace Declaration

/-- Characters that may start a type name. -/
def isNameStart (c : Char) : Bool :=
  c.isAlpha || c == '_'

/-- Characters that a type name may hold. -/
def isNameChar (c : Char) : Bool :=
  isWordChar c || c == ' ' || c == '.'

/-- A number with white space around it, and what follows. -/
def number? (cs : List Char) : Option (List Char × List Char) :=
  let start := trimStart cs
  let digits := start.takeWhile isDecimal
  if digits.isEmpty then none else some (digits, trimStart (start.drop digits.length))

/-- The numbers behind an opening bracket, up to and with the closing one, and what follows. -/
def arguments? (cs : List Char) : Option (List Char × Option (List Char) × List Char) :=
  match number? cs with
  | none => none
  | some (first, ')' :: rest) => some (first, none, rest)
  | some (first, ',' :: more) =>
    match number? more with
    | some (second, ')' :: rest) => some (first, some second, rest)
    | _ => none
  | some _ => none

/-- The end of a declaration: white space, with or without the brackets of an array. -/
def arraySuffix? (cs : List Char) : Option Bool :=
  match trimStart cs with
  | [] => some false
  | '[' :: ']' :: rest => if rest.all isBlank then some true else none
  | _ => none

/-- The parts behind the name of a declaration. -/
def tail? (name : List Char) (cs : List Char) : Option Declaration :=
  match trimStart cs with
  | '(' :: inner =>
    match arguments? inner with
    | some (first, second, rest) =>
      (arraySuffix? rest).map fun isArray => ⟨name, some first, second, isArray⟩
    | none => none
  | rest => (arraySuffix? rest).map fun isArray => ⟨name, none, none, isArray⟩

/-- The parts of a declaration. -/
def parse? (cs : List Char) : Option Declaration :=
  match trimStart cs with
  | [] => none
  | c :: rest =>
    if isNameStart c then
      let row := c :: rest.takeWhile isNameChar
      tail? (dropEndWhile (· == ' ') row) (rest.dropWhile isNameChar)
    else none

/-- Rows of spaces shrunk to one space. -/
def squeezeSpaces : List Char → List Char
  | [] => []
  | ' ' :: ' ' :: rest => squeezeSpaces (' ' :: rest)
  | c :: rest => c :: squeezeSpaces rest
termination_by cs => cs.length

end Declaration

end TableInterfaces.Sql
