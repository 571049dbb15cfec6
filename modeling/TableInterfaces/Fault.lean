import TableInterfaces.Json.Parser
import TableInterfaces.Storage.FileTree

/-!
# Faults

Every way in which an operation of the library can fail, as a cause. Documents and configurations
are JSON and are only checked where a value is used, so beside the causes of the domain there is
`Misuse`: a value of a kind for which the operation has no meaning.

`Fault.message` gives the wording of a cause.
-/

namespace TableInterfaces

open TableInterfaces.Json
open TableInterfaces.Storage
open TableInterfaces.Text

/-- A value that does not fit the operation asked of it. -/
inductive Misuse where
  | notIterable (kind : Kind)
  | unhashable (kind : Kind)
  | notJoinable (index : Nat) (kind : Kind)
  | notOrdered (left right : Kind)
  | notRepeatable (kind : Kind)
  | notText (kind : Kind)
  | notSeparator (kind : Kind)
  | notFieldRow (index : Nat)
  | notInstantiable
  | lacksOperation (kind : Kind) (operation : String)
  | emptySeparator
  | fieldRowLength (index length : Nat)
  | tooManyDigits (digits : Nat)
  | invalidHost
  | nulCharacter
  | unknownLevel (level : String)
  | tooLarge
  | outOfMemory
  | undecodable
  | nameTooLong (failure : FileFailure)
  | tooDeep
  | takenOption (name : String)
  | noEntry (name : String)
  deriving DecidableEq, Repr

/-- The wording of a misuse. -/
def Misuse.message : Misuse → String
  | .notIterable kind => "'" ++ kind.name ++ "' object is not iterable"
  | .unhashable kind => "unhashable type: '" ++ kind.name ++ "'"
  | .notJoinable index kind =>
    "sequence item " ++ toString index ++ ": expected str instance, " ++ kind.name ++ " found"
  | .notOrdered left right =>
    "'<' not supported between instances of '" ++ left.name ++ "' and '" ++ right.name ++ "'"
  | .notRepeatable kind => "can't multiply sequence by non-int of type '" ++ kind.name ++ "'"
  | .notText kind => "expected string or bytes-like object, got '" ++ kind.name ++ "'"
  | .notSeparator kind => "must be str or None, not " ++ kind.name
  | .notFieldRow index =>
    "cannot convert dictionary update sequence element #" ++ toString index ++ " to a sequence"
  | .notInstantiable => "Can't instantiate abstract class CodeGenerator with abstract methods " ++
    "build_services, file_extension, language_name, surface_syntax"
  | .lacksOperation kind operation =>
    "'" ++ kind.name ++ "' object has no attribute '" ++ operation ++ "'"
  | .emptySeparator => "empty separator"
  | .fieldRowLength index length =>
    "dictionary update sequence element #" ++ toString index ++ " has length " ++ toString length ++
      "; 2 is required"
  | .tooManyDigits digits =>
    "Exceeds the limit (" ++ toString maxDigits ++ " digits) for integer string conversion: " ++
      "value has " ++ toString digits ++
      " digits; use sys.set_int_max_str_digits() to increase the limit"
  | .invalidHost => "Invalid IPv6 URL"
  | .nulCharacter => "embedded null byte"
  | .unknownLevel level => "Unknown level: " ++ quoted level
  | .tooLarge => "cannot fit 'int' into an index-sized integer"
  | .outOfMemory => ""
  | .undecodable => "invalid UTF-8"
  | .nameTooLong failure => failure.message
  | .tooDeep => "maximum recursion depth exceeded while decoding a JSON document"
  | .takenOption name => "got multiple values for argument " ++ quoted name
  | .noEntry name => quoted name

/-- The misuse lies in the kind of a value, and not in the value itself or in what it has. -/
def Misuse.isKindMismatch : Misuse → Bool
  | .notIterable _ | .unhashable _ | .notJoinable _ _ | .notOrdered _ _ | .notRepeatable _
  | .notText _ | .notSeparator _ | .notFieldRow _ | .notInstantiable | .takenOption _ => true
  | _ => false

/-- What is wrong with an entity document. -/
inductive SchemaFault where
  | typeNotText (declaration : Value)
  | invalidType (declaration : String)
  | ambiguousType (name : String) (candidates : List String)
  | documentNotObject
  | noEntityList
  | unnamedEntity (entity : Value)
  | unknownKind (name : Value) (kind : Value)
  | unnamedMember (entity : Value)
  | untypedMember (entity member : Value)
  | duplicateMembers (entity : Value) (names : List String)
  | duplicateEntity (name : Value)

/-- The wording of a fault in an entity document. -/
def SchemaFault.message : SchemaFault → String
  | .typeNotText v => "Type declaration must be a string, got " ++ v.shown
  | .invalidType s => "Invalid type declaration: " ++ quoted s
  | .ambiguousType name candidates =>
    "Ambiguous UDT reference " ++ quoted name ++ ": " ++ String.intercalate ", " candidates
  | .documentNotObject => "Entity document must be a JSON object"
  | .noEntityList => "Entity document must contain an 'entities' list"
  | .unnamedEntity v => "Entity must be an object with a name: " ++ v.shown
  | .unknownKind name kind => "Unknown entity kind for " ++ name.display ++ ": " ++ kind.shown
  | .unnamedMember entity => "Member of " ++ entity.display ++ " must be an object with a name"
  | .untypedMember entity member =>
    "Member " ++ entity.display ++ "." ++ member.display ++ " has no type"
  | .duplicateMembers entity names =>
    "Duplicate members in " ++ entity.display ++ ": " ++ String.intercalate ", " names
  | .duplicateEntity name => "Duplicate entity: " ++ name.display

/-- What is wrong with a configuration file. -/
inductive ConfigFault where
  | fileNotFound (path : Path)
  | fileNotJson (path : Path)
  | invalidJson (path : Path) (flaw : Flaw)
  | unreadable (path : Path) (failure : FileFailure)
  | notObject (path : Path)
  | notSaved (path : Path) (failure : FileFailure)

/-- The wording of a fault in a configuration file. -/
def ConfigFault.message : ConfigFault → String
  | .fileNotFound path => "Configuration file not found: " ++ path.text
  | .fileNotJson path => "Configuration file must be JSON: " ++ path.text
  | .invalidJson path flaw =>
    "Invalid JSON in configuration file " ++ path.text ++ ": " ++ flaw.message
  | .unreadable path failure =>
    "Failed to load configuration file " ++ path.text ++ ": " ++ failure.message
  | .notObject path => "Configuration file must contain a JSON object: " ++ path.text
  | .notSaved path failure =>
    "Failed to save configuration to " ++ path.text ++ ": " ++ failure.message

/-- Why a template gives no text. -/
inductive TemplateFault where
  | undefinedVariable (name : String)
  | invalidWidth (width : Value)
  | unknownTemplate
  | misuse (cause : Misuse)

/-- The wording of a template's fault, without the name of the template. -/
def TemplateFault.detail : TemplateFault → String → String
  | .undefinedVariable name, _ => quoted name ++ " is undefined"
  | .invalidWidth width, _ => "invalid width " ++ width.shown ++ " (must be > 0)"
  | .unknownTemplate, template => template
  | .misuse cause, _ => cause.message

/-- Why an entity document cannot be loaded. -/
inductive LoadFault where
  | invalidFile (path : Path) (flaw : Flaw)
  | unreadableFile (path : Path) (failure : FileFailure)
  | invalidUrl (url : String)
  | timeout (url : String)
  | noConnection (url : String)
  | httpStatus (url : String) (status : Int)
  | requestFailed (url detail : String)
  | invalidResponse (url detail : String)
  | invalidStream (flaw : Flaw)
  | noSource
  | twoSources

/-- The wording of a loading fault. -/
def LoadFault.message : LoadFault → String
  | .invalidFile path flaw => "Invalid JSON in file " ++ path.text ++ ": " ++ flaw.message
  | .unreadableFile path failure => "Error reading file " ++ path.text ++ ": " ++ failure.message
  | .invalidUrl url => "Invalid URL: " ++ url
  | .timeout url => "Request timeout for URL: " ++ url
  | .noConnection url => "Connection error for URL: " ++ url
  | .httpStatus url status => "HTTP error " ++ toString status ++ " for URL: " ++ url
  | .requestFailed url detail => "Request error for URL " ++ url ++ ": " ++ detail
  | .invalidResponse url detail => "Invalid JSON response from URL " ++ url ++ ": " ++ detail
  | .invalidStream flaw => "Invalid JSON on input stream: " ++ flaw.message
  | .noSource => "Either file_path or url must be provided"
  | .twoSources => "Cannot specify both file_path and url"

/-- Why generated files cannot be made or written. -/
inductive OutputFault where
  | samePath (first second path : String)
  | notWritten (path : Path) (failure : FileFailure)

/-- The wording of an output fault. -/
def OutputFault.message : OutputFault → String
  | .samePath first second path =>
    "Entities " ++ first ++ " and " ++ second ++ " both generate " ++ path
  | .notWritten path failure => "Failed to write " ++ path.text ++ ": " ++ failure.message

/-- The cause of a failure. -/
inductive Fault where
  | schema (cause : SchemaFault)
  | config (cause : ConfigFault)
  | unmappedType (subject reason : String)
  | template (name : String) (cause : TemplateFault)
  | notGeneratorClass
  | nameTaken (name owner : String)
  | unknownLanguage (name : String) (available : List String)
  | invalidConfigKind (kind : Kind)
  | notCreated (language : String) (cause : Fault)
  | output (cause : OutputFault)
  | load (cause : LoadFault)
  | fileNotFound (path : Path)
  | unknownMemberType (member : String)
  | generationFailed (detail : String)
  | command (detail : String)
  | misuse (cause : Misuse)

/-- The wording of a cause. -/
def Fault.message : Fault → String
  | .schema cause => cause.message
  | .config cause => cause.message
  | .unmappedType subject reason => "Cannot map " ++ subject ++ ": " ++ reason
  | .template name cause => "Failed to render template " ++ name ++ ": " ++ cause.detail name
  | .notGeneratorClass => "Generator class must inherit from CodeGenerator"
  | .nameTaken name owner => "Name '" ++ name ++ "' is already registered for '" ++ owner ++ "'"
  | .unknownLanguage name available =>
    "No generator registered for language: " ++ name ++ ". Available: " ++
      String.intercalate ", " available
  | .invalidConfigKind kind => "Invalid config type: <class '" ++ kind.name ++ "'>"
  | .notCreated language cause => "Failed to create " ++ language ++ " generator: " ++ cause.message
  | .output cause => cause.message
  | .load cause => cause.message
  | .fileNotFound path => "File not found: " ++ path.text
  | .unknownMemberType member => "no type for " ++ member
  | .generationFailed detail => "Code generation failed: " ++ detail
  | .command detail => detail
  | .misuse cause => cause.message

/-- The cause comes from a value of an unfit kind and not from a rule of the domain. -/
def Fault.isMisuse : Fault → Bool
  | .misuse _ => true
  | _ => false

/-- A computation that may fail with a cause. -/
abbrev Result (α : Type) := Except Fault α

/-- The failure with a misuse as its cause. -/
def misuse {α : Type} (cause : Misuse) : Result α :=
  .error (.misuse cause)

end TableInterfaces
