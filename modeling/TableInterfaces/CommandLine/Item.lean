import TableInterfaces.CommandLine.Switch

/-!
# Items of a command line

A command line read in order: options with their values, arguments, the separator behind which all
words are arguments, and words that name no option. A word that cannot be read ends the row with the
reason.
-/

namespace TableInterfaces.CommandLine

open TableInterfaces.Text

variable {α : Type}

/-- A piece of a command line. An argument comes with the words behind it. An option has no value if
it takes none, or if the text given as its value is the separator. -/
inductive Item (α : Type) where
  | take (switch : Switch α) (value : Option String)
  | argument (word : String) (behind : List String)
  | separator
  | stray (word : String)
  | refused (reason : String)

/-- The word behind which all words are arguments. -/
def separatorWord : String := "--"

/-- What a word is in its place. -/
inductive Mark (α : Type) where
  | separator
  | word (reading : Reading α)

/-- The words of a command line with what they are, or the message about one that is ambiguous. -/
def marks (switches : Switches α) : List String → Except String (List (String × Mark α))
  | [] => .ok []
  | word :: rest =>
    if word == separatorWord then
      .ok ((word, .separator) :: rest.map fun w => (w, .word .argument))
    else do
      let reading ← switches.read word
      let later ← marks switches rest
      return (word, .word reading) :: later

/-- What one word with options amounts to: options that are complete, and one that waits for a
value. -/
structure Expansion (α : Type) where
  complete : List (Switch α × Option String) := []
  pending : Option (Switch α) := none

/-- An expansion with an option without value in front. -/
def Expansion.behind (e : Expansion α) (s : Switch α) : Expansion α :=
  { e with complete := (s, none) :: e.complete }

/-- The options of a word without text attached. -/
def expandBare (s : Switch α) : Expansion α :=
  if s.takesValue then { pending := some s } else { complete := [(s, none)] }

/-- The complaint about text attached to an option that takes no value. -/
def ignored (s : Switch α) (text : List Char) : String :=
  s.complaint ("ignored explicit argument " ++ quoted (String.ofList text))

/-- The value that attached text gives to an option. The separator gives none. -/
def attachedValue (text : List Char) : Option String :=
  if text == separatorWord.toList then none else some (String.ofList text)

/-- The options of a word with text attached. An option that takes a value takes the text; behind a
short one that takes none, the text has to start with the letter of another short option, to which
the rest of the text is attached. -/
def expandAttached (switches : Switches α) (s : Switch α) (isShort : Bool) :
    List Char → Except String (Expansion α)
  | [] => if s.takesValue then .ok { complete := [(s, some "")] } else .error (ignored s [])
  | c :: rest =>
    if s.takesValue then .ok { complete := [(s, attachedValue (c :: rest))] }
    else
      match if isShort then switches.named? (String.ofList ['-', c]) else none with
      | none => .error (ignored s (c :: rest))
      | some next =>
        if rest.isEmpty then .ok ((expandBare next).behind s)
        else (·.behind s) <$> expandAttached switches next true rest

/-- The options of a word. -/
def expand (switches : Switches α) (s : Switch α) (isShort : Bool) :
    Option (List Char) → Except String (Expansion α)
  | none => .ok (expandBare s)
  | some text => expandAttached switches s isShort text

/-- The items for options that are complete. -/
def Expansion.items (e : Expansion α) : List (Item α) :=
  e.complete.map fun (s, value) => .take s value

/-- The items of marked words. -/
def itemsOfMarks (switches : Switches α) : List (String × Mark α) → List (Item α)
  | [] => []
  | (word, mark) :: rest =>
    match mark with
    | .separator => .separator :: itemsOfMarks switches rest
    | .word .argument => .argument word (rest.map (·.1)) :: itemsOfMarks switches rest
    | .word .unknown => .stray word :: itemsOfMarks switches rest
    | .word (.switch s isShort attached) =>
      match expand switches s isShort attached with
      | .error reason => [.refused reason]
      | .ok e =>
        match e.pending with
        | none => e.items ++ itemsOfMarks switches rest
        | some p =>
          match rest with
          | (value, .word .argument) :: behind =>
            e.items ++ .take p (some value) :: itemsOfMarks switches behind
          | _ => [.refused (p.complaint "expected one argument")]

/-- The items of a command line. -/
def items (switches : Switches α) (words : List String) : List (Item α) :=
  match marks switches words with
  | .ok marked => itemsOfMarks switches marked
  | .error reason => [.refused reason]

end TableInterfaces.CommandLine
