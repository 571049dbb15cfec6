import TableInterfaces.Fault
import TableInterfaces.Text.Blank
import TableInterfaces.Text.Lines

/-!
# Sanitized names

Names of a schema become names of a program in three steps. Cleaning replaces every character that
is no ASCII letter, digit, underscore or hyphen, strips underscores and hyphens at both ends, puts
an underscore before a leading digit and turns nothing into `field`. Snake case splits at hyphens
and before capitals; Pascal case joins the parts of the snake case with capitals. Last, a name that
is reserved gets a suffix.

A `Sanitizer` remembers its answers under the name and the suffix joined by an underscore.
-/

namespace TableInterfaces.Naming

open TableInterfaces.Json
open TableInterfaces.Text

/-! ## Cleaning -/

/-- Characters that cleaning keeps. -/
def isKept (c : Char) : Bool :=
  c.isAlphanum || c == '_' || c == '-'

/-- Characters that separate the parts of a name. -/
def isSeparator (c : Char) : Bool :=
  c == '_' || c == '-'

/-- A name without the separators at both ends. -/
def stripSeparators (cs : List Char) : List Char :=
  dropEndWhile isSeparator (cs.dropWhile isSeparator)

/-- The name that stands for a name without any usable character. -/
def emptyName : List Char := ['f', 'i', 'e', 'l', 'd']

/-- A name made of usable characters, not empty, and without a digit at its start. -/
def clean (cs : List Char) : List Char :=
  match stripSeparators (cs.map fun c => if isKept c then c else '_') with
  | [] => emptyName
  | c :: rest => if c.isDigit then '_' :: c :: rest else c :: rest

/-! ## Cases -/

/-- Underscores between a small letter or digit and the capital behind it. -/
def splitCapitals : List Char → List Char
  | a :: b :: rest =>
    if (a.isLower || a.isDigit) && b.isUpper then a :: '_' :: splitCapitals (b :: rest)
    else a :: splitCapitals (b :: rest)
  | cs => cs

/-- Rows of underscores shrunk to one. -/
def squeezeUnderscores : List Char → List Char
  | '_' :: '_' :: rest => squeezeUnderscores ('_' :: rest)
  | c :: rest => c :: squeezeUnderscores rest
  | [] => []
termination_by cs => cs.length

/-- A name without the underscores at both ends. -/
def stripUnderscores (cs : List Char) : List Char :=
  dropEndWhile (· == '_') (cs.dropWhile (· == '_'))

/-- A name in small letters with its parts between underscores. An underscore before a leading digit
stays. -/
def snakeCase (cs : List Char) : List Char :=
  let parts := splitCapitals (cs.map fun c => if c == '-' then '_' else c)
  match squeezeUnderscores (parts.map Char.toLower) with
  | '_' :: c :: rest =>
    if c.isDigit then '_' :: stripUnderscores ('_' :: c :: rest)
    else stripUnderscores ('_' :: c :: rest)
  | name => stripUnderscores name

/-- A part of a name with a capital at its start and small letters behind it. -/
def capitalize : List Char → List Char
  | [] => []
  | c :: rest => c.toUpper :: rest.map Char.toLower

/-- A name with its parts joined, each with a capital at its start. An underscore before a leading
digit stays. -/
def pascalCase (cs : List Char) : List Char :=
  let snake := snakeCase cs
  let joined := (splitOn ['_'] snake).flatMap capitalize
  if snake.head? == some '_' then '_' :: joined else joined

/-! ## Reserved words -/

/-- The words that no name may equal. -/
structure ReservedWords where
  keywords : List String
  builtins : List String

/-- A word that no name may equal. -/
def ReservedWords.contains (words : ReservedWords) (name : String) : Bool :=
  words.keywords.contains name || words.builtins.contains name

/-- A name, with the suffix where it is reserved. -/
def ReservedWords.resolve (words : ReservedWords) (name suffix : String) : String :=
  if words.contains name then name ++ suffix else name

/-- The Pascal-case name for a name, with the suffix where it is reserved. -/
def ReservedWords.sanitize (words : ReservedWords) (name suffix : String) : String :=
  words.resolve (String.ofList (pascalCase (clean name.toList))) suffix

/-- The snake-case package segment for a name, with an underscore behind it where it is reserved. -/
def ReservedWords.segment (words : ReservedWords) (name : String) : String :=
  words.resolve (String.ofList (snakeCase (clean name.toList))) "_"

/-! ## Remembered names -/

/-- Reserved words with the answers given so far. -/
structure Sanitizer where
  words : ReservedWords
  answers : List (String × String) := []

namespace Sanitizer

/-- The key under which an answer is remembered. -/
def answerKey (name : Value) (suffix : String) : String :=
  name.display ++ "_" ++ suffix

/-- The sanitized name, and the sanitizer that remembers it. Only a text can be sanitized, but an
answer that is remembered is given for any value. -/
def sanitize (s : Sanitizer) (name : Value) (suffix : String) : Result (String × Sanitizer) :=
  let key := answerKey name suffix
  match s.answers.lookup key with
  | some answer => .ok (answer, s)
  | none =>
    match name with
    | .text text =>
      let answer := s.words.sanitize text suffix
      .ok (answer, { s with answers := (key, answer) :: s.answers })
    | _ => misuse (.notText name.kind)

/-- The package segment for a name. -/
def segment (s : Sanitizer) (name : Value) : Result String :=
  match name with
  | .text text => .ok (s.words.segment text)
  | _ => misuse (.notText name.kind)

/-- A value as it is, or with the suffix where it is a reserved word. -/
def resolve (s : Sanitizer) (name : Value) (suffix : String) : Result Value :=
  match name with
  | .text text => .ok (.text (s.words.resolve text suffix))
  | _ => if name.isHashable then .ok name else misuse (.unhashable name.kind)

end Sanitizer

end TableInterfaces.Naming
