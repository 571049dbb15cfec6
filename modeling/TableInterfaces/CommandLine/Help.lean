import TableInterfaces.CommandLine.Arguments
import TableInterfaces.Source.Declaration

/-!
# Help texts

What the program prints about itself.
-/

namespace TableInterfaces.CommandLine

open TableInterfaces.Source

/-- The version of the program. -/
def versionText : String := "entity-codegen 0.1.0"

/-- Words between braces, as choices are written. -/
def choices (words : List String) : String :=
  openBrace ++ String.intercalate "," words ++ closeBrace

/-- The words of an option in a usage line. -/
def usageWord (word : String) : String := "[" ++ word ++ "]"

/-- The usage line of a command. -/
def usageLine (command : Command) (words : List String) : String :=
  String.intercalate " " (("usage: " ++ command.name) :: words)

/-- The usage of the program. -/
def programUsage : String :=
  usageLine .program
    ((["-h", "--version", "--log-level " ++ choices logLevels].map usageWord) ++
      [choices [generateWord], "..."])

/-- The usage of the command. -/
def generateUsage : String :=
  usageLine .generate
    (["-h", "--url URL", "--stdin", "--language LANGUAGE", "--output DIR", "--config CONFIG",
      "--package-name PACKAGE_NAME", "--immutable-pojos", "--fluent-setters", "--jpa",
      "--validation", "--no-comments", "--strict-types", "--verbose", "--list-languages",
      "--language-info LANGUAGE", "file"].map usageWord)

/-- The usage of the program or of its command. -/
def Command.usage : Command → String
  | .program => programUsage
  | .generate => generateUsage

/-- The help of the program. -/
def programHelp : List String :=
  [programUsage,
    "",
    "Generate FreeBuilder-style interfaces for tables and UDTs",
    "",
    "positional arguments:",
    "  " ++ choices [generateWord],
    "    generate            Generate entity interfaces from an entity document",
    "",
    "options:",
    "  -h, --help            show this help message and exit",
    "  --version             show program's version number and exit",
    "  --log-level " ++ choices logLevels,
    "                        Logging level (default: WARNING)"]

/-- The help of the command. -/
def generateHelp : List String :=
  [generateUsage,
    "",
    "Generate Java interfaces or Scala traits for tables and UDTs",
    "",
    "positional arguments:",
    "  file                  Entity document (JSON)",
    "",
    "options:",
    "  -h, --help            show this help message and exit",
    "  --url URL             URL to fetch the entity document from",
    "  --stdin               Read the entity document from standard input",
    "  --language LANGUAGE, -l LANGUAGE",
    "                        Target language (default: java)",
    "  --output DIR, -o DIR  Output directory (default: print to stdout)",
    "  --config CONFIG       Configuration file path (JSON)",
    "  --package-name PACKAGE_NAME, --package PACKAGE_NAME",
    "                        Target package name",
    "  --verbose             Show generation result metadata",
    "",
    "emission options:",
    "  --immutable-pojos     Emit getters only, without setters or copy methods",
    "  --fluent-setters      Setters return the interface instead of void",
    "  --jpa                 Add JPA mapping annotations",
    "  --validation          Add Bean Validation annotations",
    "  --no-comments         Don't add comments to generated code",
    "  --strict-types        Fail on SQL types without a JVM mapping",
    "",
    "information:",
    "  --list-languages      List supported languages and exit",
    "  --language-info LANGUAGE",
    "                        Show detailed info about a language and exit",
    "",
    "Examples:",
    "  entity-codegen generate --language java --package-name com.example.db schema.json",
    "  entity-codegen generate -l scala --output src/main/scala --stdin < schema.json",
    "  entity-codegen generate --list-languages",
    "  entity-codegen generate --language-info java"]

/-- The help of the program or of its command. -/
def Command.help : Command → List String
  | .program => programHelp
  | .generate => generateHelp

end TableInterfaces.CommandLine
