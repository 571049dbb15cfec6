import TableInterfaces.CommandLine.Arguments
import TableInterfaces.CommandLine.Console
import TableInterfaces.Entity.Document
import TableInterfaces.Generator.Output
import TableInterfaces.Generator.Run
import TableInterfaces.Loading.Source
import TableInterfaces.Registry

/-!
# The generate command

Loads a document, builds the configuration, generates the files, and prints them or writes them
below an output directory. Faults of the document, of its source and of the configuration are
reported in one line and end the run.
-/

namespace TableInterfaces.CommandLine

open TableInterfaces.Json
open TableInterfaces.Loading
open TableInterfaces.Storage
open TableInterfaces.Text

/-- What a run finds beside files: the standard input, and what comes of a request. -/
structure Surroundings where
  input : String := ""
  reply : Reply := .noConnection

/-- A row of horizontal bars. -/
def bars : String :=
  String.ofList (List.replicate 30 (Char.ofNat 0x2550))

/-! ## Languages -/

/-- The title row of the list of languages. -/
def languageTitles : String := "Language  Extension  Syntax  Generator Class  Aliases"

/-- The row of a language in the list of languages. -/
def languageRow (entry : String × LanguageInfo) : String :=
  let info := entry.2
  let aliases := if info.aliases.isEmpty then "none" else String.intercalate ", " info.aliases
  String.intercalate "  "
    ["🔧 " ++ entry.1, info.target.extension, info.target.dialect.word, info.generatorName, aliases]

/-- Prints the list of languages. -/
def listLanguages (registry : Registry) : Session Unit := do
  let all ← .ofResult registry.allInfo
  if all.isEmpty then Session.say "⚠️ No code generators available"
  else
    Session.sayLines (["", "📋 Supported Languages", languageTitles] ++ all.map languageRow ++
      ["", "💡 Quick Start",
        "Usage: entity-codegen generate schema.json --language LANGUAGE",
        "Info: entity-codegen generate --language-info LANGUAGE"])

/-- A target's name with a capital. -/
def titleOf : Target → String
  | .java => "Java"
  | .scala => "Scala"

/-- The lines about a language. -/
def infoLines (info : LanguageInfo) : List String :=
  ["", "🔧 " ++ titleOf info.target ++ " Generator",
    "Language: " ++ info.target.name,
    "File Extension: " ++ info.target.extension,
    "Surface Syntax: " ++ info.target.dialect.word,
    "Generator Class: " ++ info.generatorName,
    "Module: " ++ info.generatorPlace] ++
    if info.aliases.isEmpty then [] else ["Aliases: " ++ String.intercalate ", " info.aliases]

/-- The lines about the default configuration of a language. -/
def defaultLines (c : Config) : List String :=
  ["", "⚙️  Default Configuration", "Setting  Value"] ++
    rowLines "Package Name" (c.label .packageName) ++
    rowLines "Indent Size" (c.label .indentSize) ++
    rowLines "Interface Prefix" (c.label .interfaceStart) ++
    rowLines "Immutable POJOs" (c.label .immutablePojos) ++
    rowLines "Fluent Setters" (c.label .fluentSetters) ++
    rowLines "Add Comments" (c.label .addComments)

/-- Examples of use with a language as it was given. -/
def exampleText (language : String) : String :=
  String.intercalate "\n" ["",
    "💡 Usage Examples",
    "Generate interfaces:",
    "entity-codegen generate --language " ++ language ++ " schema.json",
    "",
    "Write one file per entity:",
    "entity-codegen generate -l " ++ language ++ " -o generated schema.json",
    "",
    "Custom package name:",
    "entity-codegen generate -l " ++ language ++ " --package com.example.db schema.json"]

/-- Prints what there is to know about a language. -/
def showLanguage (registry : Registry) (language : String) : Session Nat := do
  if !(← .ofResult (registry.isSupported (.text language))) then
    Session.say ("✗ Language '" ++ language ++ "' is not supported")
    Session.say "Use --list-languages to see available options"
    return 1
  let info ← .ofResult (registry.info (.text language))
  let generator ← .ofResult (registry.create (← Session.files) (.text language) .standard)
  Session.sayLines (infoLines info)
  Session.sayLines (defaultLines generator.config)
  Session.say (exampleText language)
  return 0

/-! ## Inputs -/

/-- The document that the arguments name, from whichever source. -/
def loadDocument (tree : FileTree) (around : Surroundings) (a : Arguments) : Result Value :=
  let loaded :=
    match a.file.filter (· != ""), a.filled? .url with
    | some name, _ => fromFile tree (.text name)
    | none, some address => fromUrl around.reply (.text address)
    | none, none => fromStream around.input
  match loaded with
  | .ok loaded => .ok loaded.document
  | .error (.load cause) => .error (.command ("Failed to load input: " ++ cause.message))
  | .error (.fileNotFound path) =>
    .error (.command ("Failed to load input: " ++ (Fault.fileNotFound path).message))
  | .error cause => .error cause

/-- A flag that switches a setting. -/
def switched (a : Arguments) (flag : Flag) (s : Setting) (value : Bool) : List (String × Value) :=
  if a.has flag then [(s.key, .bool value)] else []

/-- A parameter that sets a setting. -/
def given (a : Arguments) (parameter : Parameter) (s : Setting) : List (String × Value) :=
  match a.filled? parameter with
  | some value => [(s.key, .text value)]
  | none => []

/-- The settings that the arguments override. -/
def overrides (a : Arguments) : List (String × Value) :=
  given a .packageName .packageName ++
    given a .output .outputDir ++
    switched a .immutablePojos .immutablePojos true ++
    switched a .fluentSetters .fluentSetters true ++
    switched a .jpa .jpaAnnotations true ++
    switched a .validation .validationAnnotations true ++
    switched a .noComments .addComments false ++
    switched a .strictTypes .strictTypes true

/-- A fault of the configuration, reported by the command; other faults stay as they are. -/
def configurationFault : Fault → Fault
  | .config cause => .command ("Configuration error: " ++ cause.message)
  | .misuse cause =>
    if cause.isKindMismatch then .command ("Configuration error: " ++ cause.message)
    else .misuse cause
  | cause => cause

/-- The configuration that the arguments ask for. -/
def buildConfig (registry : Registry) (tree : FileTree) (a : Arguments) : Result Config := do
  let language ← registry.primaryName a.language
  let file := match a.value? .config with
    | some name => .text name
    | none => .null
  (Config.get tree (.text language) file (.object (overrides a))).mapError configurationFault

/-- The configuration that the arguments ask for, unless its language or its file is at fault. -/
def checkedConfig (registry : Registry) (tree : FileTree) (a : Arguments) :
    Result (Option Config) := do
  if !(← registry.isSupported a.language) then return none
  match buildConfig registry tree a with
  | .ok config => return some config
  | .error (.command _) => return none
  | .error cause => throw cause

/-- The entities of a document; what is wrong with it is reported by the command. -/
def loadEntities (document : Value) : Result (List Entity) :=
  (Document.load document).mapError fun
    | .schema cause => .command ("Invalid entity document: " ++ cause.message)
    | cause => cause

/-! ## Outputs -/

/-- Prints one generated file. -/
def printSource (file : String × String) : Session Unit := do
  Session.say (bars ++ " 📄 " ++ file.1 ++ " " ++ bars ++ "\n")
  Session.say (String.ofList (unifyNewlines file.2.toList))
  Session.say ""

/-- Writes the generated files below the output directory. -/
def writeSources (language : String) (directory : Value) (files : List (String × String)) :
    Session Unit := do
  let (tree, written) := Output.writeBelow (← Session.files) directory files
  Session.setFiles tree
  match written with
  | .ok paths =>
    Session.say ("✓ Generated " ++ toString paths.length ++ " " ++ language ++ " file(s) in " ++
      directory.display)
  | .error (.output cause) =>
    Session.say ("✗ " ++ cause.message)
    Session.exit 1
  | .error cause => throw (.fault cause)

/-- The lines about a run. -/
def summaryLines (s : Summary) : List String :=
  ["", "📊 Generation Metadata", "Property  Value"] ++
    rowLines "Language" s.target.name ++
    rowLines "File Extension" s.target.extension ++
    rowLines "Surface Syntax" s.target.dialect.word ++
    rowLines "Entity Count" (toString s.entityCount) ++
    rowLines "Member Count" (toString s.memberCount) ++
    rowLines "Immutable Pojos" s.immutable.display ++
    rowLines "Fluent Setters" s.fluent.display

/-- Prints the warnings of a run. -/
def sayWarnings (warnings : List String) : Session Unit := do
  if !warnings.isEmpty then
    Session.say "\n⚠️  Warnings:"
    warnings.forM fun warning => Session.say ("  • " ++ warning)
    Session.say ""

/-- Prints or writes what a run gives. -/
def deliver (a : Arguments) (config : Config) (generation : Generation) : Session Unit := do
  let directory := config.setting .outputDir
  if directory.truthy then writeSources a.language.display directory generation.files
  else generation.files.forM printSource
  if a.has .verbose then Session.sayLines (summaryLines generation.summary)
  sayWarnings generation.warnings

/-- Prints why a run fails. -/
def sayFailure (failure : RunFailure) : Session Unit := do
  Session.say ("✗ Code generation failed: " ++ failure.message)
  Session.say ("Details: " ++ failure.cause.message)

/-! ## The command -/

/-- The arguments name a document. -/
def namesDocument (a : Arguments) : Bool :=
  (a.file.filter (· != "")).isSome || (a.filled? .url).isSome || a.has .stdin

/-- Generates the interfaces of the document that the arguments name. -/
def generateFrom (registry : Registry) (around : Surroundings) (a : Arguments) : Session Nat := do
  let document ← .ofResult (loadDocument (← Session.files) around a)
  let config ← .ofResult (buildConfig registry (← Session.files) a)
  let entities ← .ofResult (loadEntities document)
  let generator ← .ofResult
    (registry.create (← Session.files) a.language (.ready config))
  match generator.generate entities with
  | .ok generation =>
    deliver a config generation
    return 0
  | .error failure =>
    sayFailure failure
    return 1

/-- Runs the command without reporting its faults. -/
def runGenerate (registry : Registry) (around : Surroundings) (a : Arguments) : Session Nat := do
  if a.has .listLanguages then
    listLanguages registry
    return 0
  if let some language := a.filled? .languageInfo then return ← showLanguage registry language
  if !namesDocument a then
    Session.say "✗ Input source required (file, --url, or --stdin)"
    return 1
  if !(← .ofResult (registry.isSupported a.language)) then
    Session.say ("✗ Unsupported language '" ++ a.language.display ++ "'")
    Session.say ("Supported languages: " ++ String.intercalate ", " registry.list)
    return 1
  generateFrom registry around a

/-- Runs the command. -/
def generateCommand (registry : Registry) (around : Surroundings) (a : Arguments) : Session Nat :=
  tryCatch (runGenerate registry around a) fun
    | .fault (.command detail) => do
      Session.say ("✗ Error: " ++ detail)
      return 1
    | ending => throw ending

end TableInterfaces.CommandLine
