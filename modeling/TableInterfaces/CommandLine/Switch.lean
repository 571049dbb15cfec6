import TableInterfaces.Text.Quoted
import TableInterfaces.Text.WordChar

/-!
# Options of a command line

How a word of a command line names an option. Long options may be shortened as long as only one
option starts like the word, and take a value behind an equals sign. Short options take a value
right behind their letter. A word that looks like a negative number, or that has a space in it, is
no option if it names none.
-/

namespace TableInterfaces.CommandLine

open TableInterfaces.Text

/-- An option: its names, whether it takes a value, and what it does. -/
structure Switch (α : Type) where
  names : List String
  takesValue : Bool := false
  action : α

/-- How an option is called in messages. -/
def Switch.label {α : Type} (s : Switch α) : String :=
  String.intercalate "/" s.names

/-- A message about an option. -/
def Switch.complaint {α : Type} (s : Switch α) (detail : String) : String :=
  "argument " ++ s.label ++ ": " ++ detail

/-- What a word is: an argument, the name of no option, or a name of an option, short or long,
perhaps with text attached, which stands behind an equals sign or right behind the name. -/
inductive Reading (α : Type) where
  | argument
  | unknown
  | switch (switch : Switch α) (isShort : Bool) (attached : Option (List Char))

/-- The options of a command. -/
abbrev Switches (α : Type) := List (Switch α)

namespace Switches

variable {α : Type}

/-- The option with a name. -/
def named? (switches : Switches α) (name : String) : Option (Switch α) :=
  switches.find? fun s => s.names.contains name

/-- All names with their options, in order. -/
def spellings (switches : Switches α) : List (String × Switch α) :=
  switches.flatMap fun s => s.names.map fun name => (name, s)

/-- A name has one hyphen. -/
def isShortName (name : String) : Bool :=
  name.toList[1]? != some '-'

/-- The reading of a word as a name with text attached. -/
def reading (name : String) (s : Switch α) (attached : Option (List Char)) : Reading α :=
  .switch s (isShortName name) attached

/-- A word at its first equals sign. -/
def cutAtEquals (word : List Char) : List Char × Option (List Char) :=
  match word.dropWhile (· != '=') with
  | [] => (word, none)
  | _ :: value => (word.takeWhile (· != '='), some value)

/-- The names that a word with two hyphens may be short for. -/
def longMatches (switches : Switches α) (word : List Char) : List (String × Reading α) :=
  let (start, value) := cutAtEquals word
  switches.spellings.filterMap fun (name, s) =>
    if start.isPrefixOf name.toList then some (name, reading name s value)
    else none

/-- The names that a word with one hyphen may stand for: the short name it starts with, and the
names it may be short for. -/
def shortMatches (switches : Switches α) (word : List Char) : List (String × Reading α) :=
  switches.spellings.filterMap fun (name, s) =>
    if name.toList == word.take 2 then some (name, reading name s (some (word.drop 2)))
    else if word.isPrefixOf name.toList then some (name, reading name s none)
    else none

/-- The names that a word may stand for. -/
def candidates (switches : Switches α) (word : List Char) : List (String × Reading α) :=
  if word[1]? == some '-' then switches.longMatches word else switches.shortMatches word

/-- Digits, perhaps with one line feed behind them. -/
def areDigits (cs : List Char) : Bool :=
  let digits := cs.takeWhile isDecimal
  !digits.isEmpty && (cs.drop digits.length == [] || cs.drop digits.length == ['\n'])

/-- A word looks like a negative number. -/
def isNegativeNumber (word : List Char) : Bool :=
  match word with
  | '-' :: rest =>
    areDigits rest ||
      match rest.dropWhile isDecimal with
      | '.' :: fraction => areDigits fraction
      | _ => false
  | _ => false

/-- The reading of a word that is not exactly a name, or the message that it may stand for several.
-/
def readInexact (switches : Switches α) (word : String) : Except String (Reading α) :=
  let cs := word.toList
  match switches.candidates cs with
  | [(_, found)] => .ok found
  | [] => .ok (if isNegativeNumber cs || cs.contains ' ' then .argument else .unknown)
  | several =>
    .error ("ambiguous option: " ++ word ++ " could match " ++
      String.intercalate ", " (several.map (·.1)))

/-- The reading of a word. -/
def read (switches : Switches α) (word : String) : Except String (Reading α) :=
  let cs := word.toList
  if cs.head? != some '-' then .ok .argument
  else
    match switches.named? word with
    | some s => .ok (reading word s none)
    | none =>
      if cs.length == 1 then .ok .argument
      else
        let (start, value) := cutAtEquals cs
        let name := String.ofList start
        match value, switches.named? name with
        | some value, some s => .ok (reading name s (some value))
        | _, _ => switches.readInexact word

end Switches

end TableInterfaces.CommandLine
