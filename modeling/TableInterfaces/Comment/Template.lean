import TableInterfaces.Json.Access
import TableInterfaces.Text.Compatibility
import TableInterfaces.Text.Wrap

/-!
# Comment templates

Named templates turn variables into comment text. Two are built in: the doc comment, which wraps a
text between the marks of a block comment, and the section banner, a title between two rules. Others
are plain texts with places for variables. A variable that is not given is an error, raised where it
is first needed.

Names of variables that are compatible are one name inside a plain template: all of them stand for
the value of the one that comes last when they are ordered by where they first appear.
-/

namespace TableInterfaces.Comment

open TableInterfaces.Json
open TableInterfaces.Text

/-- A part of a plain template: text as it stands, or the place of a variable, which has the value
of the variable `source`. -/
inductive Part where
  | text (s : String)
  | variable (name source : String)
  deriving DecidableEq, Repr

/-- A template. Text that is no template is kept as broken until it is rendered. -/
inductive Template where
  | docComment
  | banner
  | plain (parts : List Part)
  | broken
  deriving DecidableEq, Repr

/-- The variables of a rendering. -/
abbrev Variables := List (String × Value)

/-! ## Plain templates -/

/-- The two parts of a text at the first place where `mark` stands. -/
def cutAt? (mark : List Char) (cs : List Char) : Option (List Char × List Char) :=
  match splitOn mark cs with
  | before :: later :: rest => some (before, List.intercalate mark (later :: rest))
  | _ => none

/-- A mark of an opening brace and another character. -/
def braceMark (c : Char) : List Char := [Char.ofNat 0x7B, c]

/-- The mark that opens the place of a variable. -/
def openMark : List Char := braceMark (Char.ofNat 0x7B)

/-- The mark that closes the place of a variable. -/
def closeMark : List Char := [Char.ofNat 0x7D, Char.ofNat 0x7D]

/-- Text between places. The marks of instructions and of remarks have no meaning in a plain
template and break it. -/
def textPart? (cs : List Char) : Option Part :=
  if (cutAt? (braceMark '%') cs).isSome || (cutAt? (braceMark '#') cs).isSome then none
  else some (.text (String.ofList cs))

/-- Names of constants, with the texts they stand for. -/
def constants : List (String × String) :=
  [("true", "True"), ("True", "True"), ("false", "False"), ("False", "False"), ("none", "None"),
    ("None", "None")]

/-- The word of a negation, which names no variable. -/
def negation : String := "not"

/-- A name that can stand in a template: an identifier whose marks are all as old as Unicode 9. Its
letters and digits may be newer. -/
def isPlaceName (name : List Char) : Bool :=
  isIdentifier name && !name.any isLaterMark

/-- What a name stands for: the text of a constant, or a variable. -/
def placePart? (name : List Char) : Option Part :=
  let word := String.ofList name
  if !isPlaceName name || word == negation then none
  else some (match constants.lookup word with
    | some text => .text text
    | none => .variable word word)

/-- The parts of a piece of template behind an opening mark: what a name stands for, and text. -/
def placeParts? (piece : List Char) : Option (List Part) := do
  let (inside, after) ← cutAt? closeMark piece
  let place ← placePart? (trim inside)
  let text ← textPart? after
  return [place, text]

/-- The name under which a template has itself. -/
def selfName : String := "self"

/-- The name of a part that is the place of a variable. -/
def Part.name? : Part → Option String
  | .text _ => none
  | .variable name _ => some name

/-- The names in a template in the order in which they first appear, its own name in front. -/
def namesOf (parts : List Part) : List String :=
  let names := (parts.filterMap Part.name?).eraseDups
  if names.contains selfName then selfName :: names.erase selfName else names

/-- The last of the names that are compatible with one of them. -/
def sourceOf (names : List String) (name : String) : String :=
  ((names.filter (isCompatible name)).getLast?).getD name

/-- A part whose variable has its value from the last compatible one of some names. -/
def Part.withSource (names : List String) : Part → Part
  | .text s => .text s
  | .variable name _ => .variable name (sourceOf names name)

/-- Parts in which compatible names have one value. -/
def shareSources (parts : List Part) : List Part :=
  parts.map (Part.withSource (namesOf parts))

/-- A text without one line feed at its end. -/
def dropNewline (cs : List Char) : List Char :=
  if cs.getLast? == some '\n' then cs.dropLast else cs

/-- The parts of a plain template, if a text writes one. -/
def partsOf? (cs : List Char) : Option (List Part) :=
  match splitOn openMark cs with
  | [] => some []
  | first :: places => do
    let start ← textPart? first
    let later ← places.mapM placeParts?
    return start :: later.flatten

/-- The template that a text writes. One line end at the end of the text is no part of it. -/
def Template.ofText (s : String) : Template :=
  match partsOf? (dropNewline (unifyNewlines s.toList)) with
  | some parts => .plain (shareSources parts)
  | none => .broken

/-! ## Rendering -/

/-- The value of a variable, which has to be given. -/
def require (context : Variables) (name : String) : Except TemplateFault Value :=
  match context.lookup name with
  | some v => .ok v
  | none => .error (.undefinedVariable name)

/-- Names that stand for something where no variable has them, with the texts they are shown as. -/
def standingNames : List (String × String) :=
  [("range", "<class 'range'>"), ("dict", "<class 'dict'>"),
    ("cycler", "<class 'jinja2.utils.Cycler'>"), ("joiner", "<class 'jinja2.utils.Joiner'>"),
    ("namespace", "<class 'jinja2.utils.Namespace'>")]

/-- How a template is shown where it stands for itself. -/
def shownTemplate (template : String) : String :=
  "<TemplateReference " ++ quoted template ++ ">"

/-- What is shown where the name of a template itself is taken by a variable that is not given. -/
def missingText : String := "missing"

/-- The text that a name stands for in a template. -/
def resolve? (template : String) (context : Variables) (name : String) : Option String :=
  if name == selfName then some (shownTemplate template)
  else
    match context.lookup name with
    | some v => some v.display
    | none => standingNames.lookup name

/-- A text whose characters mean nothing in markup. -/
def escapeMarkup (s : String) : String :=
  String.join (s.toList.map fun c =>
    if c == '&' then "&amp;"
    else if c == '<' then "&lt;"
    else if c == '>' then "&gt;"
    else if c == doubleQuote then "&#34;"
    else if c == Char.ofNat 0x27 then "&#39;"
    else String.singleton c)

/-- A template of this name writes markup. -/
def writesMarkup (template : String) : Bool :=
  let name := (lower template).toList
  ".html".toList.isSuffixOf name || ".xml".toList.isSuffixOf name

/-- What a variable of a template adds to its text. -/
def inserted (template text : String) : String :=
  if writesMarkup template then escapeMarkup text else text

/-- The text of a part of a template. -/
def Part.render (template : String) (context : Variables) : Part → Except TemplateFault String
  | .text s => .ok s
  | .variable name source =>
    match resolve? template context source with
    | some shown => .ok (inserted template shown)
    | none =>
      if name == selfName then .ok (inserted template missingText)
      else .error (.undefinedVariable name)

/-- A text that cannot close the comment around it. -/
def escapeEnd (s : String) : String :=
  replaceAll "*/" "*&#47;" s

/-- The width that a value gives to a line of `length` characters; it has to be above zero. -/
def lineWidth (width : Value) (length : Nat) : Except TemplateFault Nat :=
  match width with
  | .int n => if n ≤ 0 then .error (.invalidWidth width) else .ok n.toNat
  | .bool b => if b then .ok 1 else .error (.invalidWidth width)
  | .float x =>
    match x with
    | .infinite false => .ok length
    | _ =>
      if x.lessThanInt 0 || x.equalsInt 0 then .error (.invalidWidth width)
      else .ok ((x.floor?.getD 0).toNat)
  | _ => .error (.misuse (.notOrdered width.kind .int))

/-- The lines of a wrapped line. A line of white space alone may have none and then is empty. -/
def wrappedLine (width : Value) (line : List Char) : Except TemplateFault (List Char) := do
  let n ← lineWidth width line.length
  return List.intercalate ['\n'] (Wrap.wrapLine n line)

/-- The lines of a text, each wrapped on its own. -/
def wrappedLines (text : String) (context : Variables) :
    Except TemplateFault (List (List Char)) :=
  match splitLines text.toList with
  | [] => .ok []
  | lines => do
    let width ← require context "width"
    let wrapped ← lines.mapM (wrappedLine width)
    return splitLines (List.intercalate ['\n'] wrapped)

/-- A line inside a doc comment. -/
def commentLine (line : List Char) : String :=
  if line.isEmpty then " *" else " * " ++ String.ofList line

/-- The lines of a doc comment. -/
def docCommentLines (context : Variables) : Except TemplateFault (List String) := do
  let text ← require context "text"
  let lines ← wrappedLines (escapeEnd text.display) context
  return "/**" :: lines.map commentLine ++ [" */"]

/-- A rule of hyphens as wide as a value says. -/
def rule (width : Value) : Except TemplateFault String :=
  (width.row '-').mapError .misuse

/-- The lines of a section banner; its title may itself have several. -/
def bannerLines (context : Variables) : Except TemplateFault (List String) := do
  let width ← require context "width"
  let rule ← rule width
  let title ← require context "title"
  return ["// " ++ rule, "// " ++ title.display, "// " ++ rule]

/-- The text of a template of some name. -/
def Template.render (name : String) (context : Variables) :
    Template → Except TemplateFault String
  | .docComment => String.intercalate "\n" <$> docCommentLines context
  | .banner => String.intercalate "\n" <$> bannerLines context
  | .plain parts => String.join <$> parts.mapM (Part.render name context)
  | .broken => .error .unknownTemplate

/-! ## Template collections -/

/-- Templates by name. -/
structure Templates where
  entries : List (String × Template) := []

namespace Templates

/-- The collection with the built-in templates. -/
def standard : Templates where
  entries := [("doc_comment", .docComment), ("section", .banner)]

/-- The collection with a template under a name, in place of one that had it. -/
def add (t : Templates) (name text : String) : Templates where
  entries := (name, .ofText text) :: t.entries

/-- A template has this name. -/
def has (t : Templates) (name : String) : Bool :=
  (t.entries.lookup name).isSome

/-- The text of a template by its name. No variable may have the template's own name. -/
def render (t : Templates) (name : String) (context : Variables) : Result String :=
  let text : Except TemplateFault String := match t.entries.lookup name with
    | some template =>
      if (context.lookup selfName).isSome then .error (.misuse (.takenOption selfName))
      else template.render name context
    | none => .error .unknownTemplate
  text.mapError (Fault.template name)

end Templates

end TableInterfaces.Comment
