import TableInterfaces.Generator.Basic

/-!
# Registered languages

A registry knows languages by a primary name and aliases, compared in lower case. No two languages
share a name. It creates the generator of a language with a configuration of the caller's choice.

The tables of a registry do not depend on what the classes of generators are, so the operations on
them leave the type of classes open.
-/

namespace TableInterfaces

open TableInterfaces.Json
open TableInterfaces.Storage
open TableInterfaces.Text

/-- What can be registered: the generator of a target, or the common base of generators, which
cannot be created. -/
inductive GeneratorClass where
  | concrete (target : Target)
  | base
  deriving DecidableEq, Repr

/-- The name of a class of generators in listings. -/
def GeneratorClass.name : GeneratorClass → String
  | .concrete target => target.generatorName
  | .base => "CodeGenerator"

/-- A class of generators with the lower-case names it answers to. -/
structure Language (γ : Type := GeneratorClass) where
  name : String
  generatorClass : γ
  aliases : List String := []
  deriving DecidableEq, Repr

variable {γ : Type}

/-- The names of a language, the primary one first. -/
def Language.names (l : Language γ) : List String :=
  l.name :: l.aliases

/-- Two tables: the languages by their primary names, and the primary name behind each name that is
known. -/
structure Registry (γ : Type := GeneratorClass) where
  languages : List (String × Language γ) := []
  names : List (String × String) := []
  deriving DecidableEq, Repr

/-- Work on a registry that may stop at a fault; what was done before it stays done. -/
abbrev Registering (γ : Type) := ExceptT Fault (StateM (Registry γ))

/-- A result, or the fault at which work on a registry stops. -/
def Registering.ofResult {α : Type} (result : Result α) : Registering γ α :=
  ExceptT.mk (pure result)

/-- The configuration of a new generator: none, a file, overrides, or one that is ready. Values of
other kinds are no configuration. -/
inductive ConfigSource where
  | standard
  | file (name : String)
  | overrides (fields : List (String × Value))
  | ready (config : Config)
  | unfit (kind : Kind)

/-- The configuration source that a value stands for. -/
def ConfigSource.ofValue : Value → ConfigSource
  | .null => .standard
  | .text name => .file name
  | .object fields => .overrides fields
  | v => .unfit v.kind

/-- The description of a language in listings. -/
structure LanguageInfo where
  target : Target
  generatorName : String
  generatorPlace : String
  aliases : List String
  deriving DecidableEq, Repr

/-- The aliases that a caller lists; what counts as false lists none. -/
def listedAliases (aliases : Value) : Result (List Value) :=
  if aliases.truthy then aliases.elements else .ok []

/-- The aliases in lower case, without repetitions and without the primary name, behind those that
were found. -/
def aliasNames (primary : String) (found : List String) : List Value → Result (List String)
  | [] => .ok found
  | v :: rest => do
    let name ← v.lowered
    if name == primary || found.contains name then aliasNames primary found rest
    else aliasNames primary (found ++ [name]) rest

/-- The language that a caller describes. What answers to it has to be a class of generators. -/
def Language.describe (name : Value) (candidate : Option γ) (aliases : Value) :
    Result (Language γ) := do
  let some generatorClass := candidate | throw .notGeneratorClass
  let primary ← name.lowered
  let listed ← listedAliases aliases
  let aliases ← aliasNames primary [] listed
  return { name := primary, generatorClass, aliases }

namespace Registry

/-- The primary names in order. -/
def list (r : Registry γ) : List String :=
  (r.languages.map (·.1)).mergeSort fun a b => decide (a ≤ b)

/-- No name of a row is known. -/
def checkFree (r : Registry γ) : List String → Result Unit
  | [] => .ok ()
  | name :: rest =>
    match r.names.lookup name with
    | some owner => .error (.nameTaken name owner)
    | none => checkFree r rest

/-- The registry with a language under its primary name. -/
def addLanguage (l : Language γ) (r : Registry γ) : Registry γ :=
  { r with languages := assign r.languages l.name l }

/-- The registry with a name that leads to a primary name. -/
def addName (primary name : String) (r : Registry γ) : Registry γ :=
  { r with names := assign r.names name primary }

/-- Registers a language. All its names have to be free before the first of them is entered. -/
def enroll (name : Value) (candidate : Option γ) (aliases : Value) : Registering γ Unit := do
  let l ← .ofResult (Language.describe name candidate aliases)
  .ofResult ((← get).checkFree l.names)
  modify (addLanguage l)
  l.names.forM fun key => modify (addName l.name key)

/-- The registry with one more language, if it can be registered. -/
def register (r : Registry γ) (name : Value) (candidate : Option γ) (aliases : Value) :
    Result (Registry γ) :=
  match (enroll name candidate aliases).run r with
  | (.ok (), r') => .ok r'
  | (.error cause, _) => .error cause

/-- The primary name behind a name or alias. -/
def primaryName (r : Registry γ) (name : Value) : Result String := do
  let key ← name.lowered
  match r.names.lookup key with
  | some primary => return primary
  | none => throw (.unknownLanguage name.display r.list)

/-- The language of a primary name. -/
def entry (r : Registry γ) (primary : String) : Result (Language γ) :=
  match r.languages.lookup primary with
  | some l => .ok l
  | none => misuse (.noEntry primary)

/-- The language with a name or alias. -/
def resolve (r : Registry γ) (name : Value) : Result (Language γ) := do
  let primary ← r.primaryName name
  r.entry primary

/-- A language answers to a name. -/
def isSupported (r : Registry γ) (name : Value) : Result Bool := do
  let key ← name.lowered
  return (r.names.lookup key).isSome

/-- The configuration that a source gives to the language of a primary name. -/
def configOf (tree : FileTree) (primary : String) : ConfigSource → Result Config
  | .standard => Config.get tree (.text primary) .null .null
  | .file name => Config.get tree (.text primary) (.text name) .null
  | .overrides fields => Config.get tree (.text primary) .null (.object fields)
  | .ready config => .ok config
  | .unfit kind => .error (.invalidConfigKind kind)

/-- The generator of a class. -/
def instantiate (generatorClass : GeneratorClass) (config : Config) : Result Generator :=
  match generatorClass with
  | .concrete target => .ok { target, config }
  | .base => misuse .notInstantiable

/-- The generator of a class for the language of a primary name, under the configuration of a source,
with all failures as they are. -/
def build (tree : FileTree) (primary : String) (generatorClass : GeneratorClass)
    (source : ConfigSource) : Result Generator := do
  let config ← configOf tree primary source
  instantiate generatorClass config

/-- The generator of the language with a name or alias. A failure to create it names the language.
-/
def create (r : Registry) (tree : FileTree) (name : Value) (source : ConfigSource) :
    Result Generator := do
  let primary ← r.primaryName name
  let l ← r.entry primary
  (build tree primary l.generatorClass source).mapError fun
    | .invalidConfigKind kind => .invalidConfigKind kind
    | cause => .notCreated primary cause

/-- The description of the language with a name or alias. -/
def info (r : Registry) (name : Value) : Result LanguageInfo := do
  let l ← r.resolve name
  match l.generatorClass with
  | .concrete target =>
    return {
      target
      generatorName := l.generatorClass.name
      generatorPlace := target.generatorPlace
      aliases := l.aliases.mergeSort fun a b => decide (a ≤ b) }
  | .base => misuse .notInstantiable

/-- The registry of the built-in languages. -/
def standard : Registry where
  languages := [
    ("java", { name := "java", generatorClass := .concrete .java }),
    ("scala", { name := "scala", generatorClass := .concrete .scala, aliases := ["sc"] })]
  names := [("java", "java"), ("scala", "scala"), ("sc", "scala")]

/-- The descriptions of all languages, by their primary names in order. -/
def allInfo (r : Registry) : Result (List (String × LanguageInfo)) :=
  r.list.mapM fun name => do
    let info ← r.info (.text name)
    return (name, info)

end Registry

end TableInterfaces
