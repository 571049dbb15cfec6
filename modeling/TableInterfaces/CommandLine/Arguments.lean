import TableInterfaces.CommandLine.Item
import TableInterfaces.Json.Value

/-!
# Arguments of the program

The program has one command, which generates interfaces; its document comes from a file, from a web
address or from the standard input, of which at most one may be given. Reading a command line gives
the arguments of the command, or a reason to stop before it runs.
-/

namespace TableInterfaces.CommandLine

open TableInterfaces.Json
open TableInterfaces.Text

/-! ## Options -/

/-- Options of the command that are given or not. -/
inductive Flag where
  | stdin
  | immutablePojos
  | fluentSetters
  | jpa
  | validation
  | noComments
  | strictTypes
  | verbose
  | listLanguages
  deriving DecidableEq, Repr

/-- Options of the command with a value. -/
inductive Parameter where
  | url
  | language
  | output
  | config
  | packageName
  | languageInfo
  deriving DecidableEq, Repr

/-- What an option of the command does. -/
inductive GenerateAction where
  | help
  | flag (flag : Flag)
  | parameter (parameter : Parameter)
  deriving DecidableEq, Repr

/-- What an option in front of the command does. -/
inductive ProgramAction where
  | help
  | version
  | logLevel
  deriving DecidableEq, Repr

/-- The options in front of the command. -/
def programSwitches : Switches ProgramAction :=
  [{ names := ["-h", "--help"], action := .help },
    { names := ["--version"], action := .version },
    { names := ["--log-level"], takesValue := true, action := .logLevel }]

/-- An option of the command without a value. -/
def flagSwitch (name : String) (flag : Flag) : Switch GenerateAction where
  names := [name]
  action := .flag flag

/-- An option of the command with a value. -/
def parameterSwitch (names : List String) (parameter : Parameter) : Switch GenerateAction where
  names
  takesValue := true
  action := .parameter parameter

/-- The options of the command. -/
def generateSwitches : Switches GenerateAction :=
  [{ names := ["-h", "--help"], action := .help },
    parameterSwitch ["--url"] .url,
    flagSwitch "--stdin" .stdin,
    parameterSwitch ["--language", "-l"] .language,
    parameterSwitch ["--output", "-o"] .output,
    parameterSwitch ["--config"] .config,
    parameterSwitch ["--package-name", "--package"] .packageName,
    flagSwitch "--immutable-pojos" .immutablePojos,
    flagSwitch "--fluent-setters" .fluentSetters,
    flagSwitch "--jpa" .jpa,
    flagSwitch "--validation" .validation,
    flagSwitch "--no-comments" .noComments,
    flagSwitch "--strict-types" .strictTypes,
    flagSwitch "--verbose" .verbose,
    flagSwitch "--list-languages" .listLanguages,
    parameterSwitch ["--language-info"] .languageInfo]

/-! ## Results -/

/-- The program, or its command. -/
inductive Command where
  | program
  | generate
  deriving DecidableEq, Repr

/-- The name of the command. -/
def generateWord : String := "generate"

/-- How a command is called in messages. -/
def Command.name : Command → String
  | .program => "entity-codegen"
  | .generate => "entity-codegen " ++ generateWord

/-- Why a command line leads to no run: it asks for help or for the version, or it is wrong. -/
inductive Stop where
  | help (command : Command)
  | version
  | wrong (command : Command) (reason : String)
  deriving DecidableEq, Repr

/-- The places a document may come from. -/
inductive SourceKind where
  | file
  | url
  | stdin
  deriving DecidableEq, Repr

/-- How a place is called in messages. -/
def SourceKind.label : SourceKind → String
  | .file => "file"
  | .url => "--url"
  | .stdin => "--stdin"

/-- The places that exclude each other. -/
def SourceKind.all : List SourceKind := [.file, .url, .stdin]

/-- The arguments of the command. Of a parameter given twice, the last one counts and stands first.
A parameter may be given without a value. -/
structure Arguments where
  file : Option String := none
  flags : List Flag := []
  parameters : List (Parameter × Option String) := []
  sources : List SourceKind := []
  deriving DecidableEq, Repr

namespace Arguments

/-- A flag is given. -/
def has (a : Arguments) (flag : Flag) : Bool :=
  a.flags.contains flag

/-- The value of a parameter that is given with one. -/
def value? (a : Arguments) (parameter : Parameter) : Option String :=
  (a.parameters.lookup parameter).join

/-- The value of a parameter that is given and not empty. -/
def filled? (a : Arguments) (parameter : Parameter) : Option String :=
  (a.value? parameter).filter (· != "")

/-- The language, as it is given. Without a value it is an empty list. -/
def language (a : Arguments) : Value :=
  match a.parameters.lookup .language with
  | none => .text "java"
  | some none => .list []
  | some (some name) => .text name

/-- The arguments with one more source, which excludes all others. -/
def withSource (a : Arguments) (source : SourceKind) : Except Stop Arguments :=
  match SourceKind.all.find? fun other => other != source && a.sources.contains other with
  | some other =>
    .error (.wrong .generate
      ("argument " ++ source.label ++ ": not allowed with argument " ++ other.label))
  | none => .ok { a with sources := source :: a.sources }

/-- The arguments with a file. -/
def withFile (a : Arguments) (name : String) : Except Stop Arguments := do
  let a ← a.withSource .file
  return { a with file := some name }

/-- The arguments with a flag. -/
def withFlag (a : Arguments) (flag : Flag) : Except Stop Arguments := do
  let a ← if flag = .stdin then a.withSource .stdin else pure a
  return { a with flags := flag :: a.flags }

/-- The arguments with the value of a parameter. -/
def withParameter (a : Arguments) (parameter : Parameter) (value : Option String) :
    Except Stop Arguments := do
  let a ← if parameter = .url then a.withSource .url else pure a
  return { a with parameters := (parameter, value) :: a.parameters }

/-- The arguments with what an option does. -/
def withAction (a : Arguments) (value : Option String) : GenerateAction → Except Stop Arguments
  | .help => .error (.help .generate)
  | .flag flag => a.withFlag flag
  | .parameter parameter => a.withParameter parameter value

end Arguments

/-- The arguments that items give, and the words for which there is no place. The first argument is
the file. -/
def collect (a : Arguments) (extras : List String) :
    List (Item GenerateAction) → Except Stop (Arguments × List String)
  | [] => .ok (a, extras)
  | .take s value :: rest => do
    let a ← a.withAction value s.action
    collect a extras rest
  | .stray word :: rest => collect a (extras ++ [word]) rest
  | .refused reason :: _ => .error (.wrong .generate reason)
  | .argument word _ :: rest =>
    if a.file.isSome then collect a (extras ++ [word]) rest
    else do
      let a ← a.withFile word
      match rest with
      | .separator :: behind => collect a extras behind
      | rest => collect a extras rest
  | .separator :: rest =>
    if a.file.isSome then collect a (extras ++ [separatorWord]) rest else collect a extras rest

/-- The logging levels that can be asked for. -/
def logLevels : List String := ["DEBUG", "INFO", "WARNING", "ERROR"]

/-- The message about a word that is none of the allowed ones. -/
def invalidChoice (label word : String) (choices : List String) : Stop :=
  .wrong .program ("argument " ++ label ++ ": invalid choice: " ++ quoted word ++
    " (choose from " ++ String.intercalate ", " (choices.map quoted) ++ ")")

/-- What a command line asks for: a logging level, unless it is given without a value, and the
arguments of the command, if one is named. -/
structure Request where
  level : Option String := some "WARNING"
  command : Option Arguments := none
  deriving DecidableEq, Repr

/-- The request with what an option in front of the command does: help and version stop, and a level
has to be a known one. -/
def Request.withAction (r : Request) (value : Option String) :
    ProgramAction → Except Stop Request
  | .help => .error (.help .program)
  | .version => .error .version
  | .logLevel =>
    match value with
    | none => .ok { r with level := none }
    | some level =>
      if logLevels.contains level then .ok { r with level := some level }
      else .error (invalidChoice "--log-level" level logLevels)

/-- The arguments of the command that a word names, and the words for which there is no place. -/
def collectCommand (word : String) (behind : List String) :
    Except Stop (Arguments × List String) :=
  if word == generateWord then collect {} [] (items generateSwitches behind)
  else .error (invalidChoice "command" word [generateWord])

/-- The request that items make, and the words for which there is no place. -/
def collectProgram (r : Request) (extras : List String) :
    List (Item ProgramAction) → Except Stop (Request × List String)
  | [] => .ok (r, extras)
  | .take s value :: rest => do
    let r ← r.withAction value s.action
    collectProgram r extras rest
  | .stray word :: rest => collectProgram r (extras ++ [word]) rest
  | .refused reason :: _ => .error (.wrong .program reason)
  | .argument word behind :: _ => do
    let (arguments, later) ← collectCommand word behind
    return ({ r with command := some arguments }, extras ++ later)
  | .separator :: .argument _ _ :: _ =>
    .error (invalidChoice "command" separatorWord [generateWord])
  | .separator :: rest => collectProgram r (extras ++ [separatorWord]) rest

/-- What a command line asks for. -/
def read (words : List String) : Except Stop Request := do
  let (request, extras) ← collectProgram {} [] (items programSwitches words)
  if extras.isEmpty then return request
  else throw (.wrong .program ("unrecognized arguments: " ++ String.intercalate " " extras))

end TableInterfaces.CommandLine
