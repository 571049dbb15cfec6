import TableInterfaces.Config.Entries

/-!
# Settings

A configuration gives a value to every setting, and carries custom fields that the generator itself
does not read. Values are not checked when a configuration is made; the accessors of this module say
what each use of a setting needs.
-/

namespace TableInterfaces

open TableInterfaces.Json
open TableInterfaces.Text

/-- The settings of a generator. -/
inductive Setting where
  | outputDir
  | packageName
  | indentSize
  | useTabs
  | lineEnding
  | interfaceStart
  | builderName
  | interfaceImplements
  | immutablePojos
  | fluentSetters
  | markGenerated
  | jpaAnnotations
  | jpaNamespace
  | validationAnnotations
  | validationNamespace
  | addComments
  | docWidth
  | strictTypes
  | typeOverrides
  deriving DecidableEq, Repr

namespace Setting

/-- All settings, in the order in which a configuration is written. -/
def all : List Setting :=
  [.outputDir, .packageName, .indentSize, .useTabs, .lineEnding, .interfaceStart, .builderName,
    .interfaceImplements, .immutablePojos, .fluentSetters, .markGenerated, .jpaAnnotations,
    .jpaNamespace, .validationAnnotations, .validationNamespace, .addComments, .docWidth,
    .strictTypes, .typeOverrides]

/-- The field name of a setting in configuration files. -/
def key : Setting → String
  | .outputDir => "output_dir"
  | .packageName => "package_name"
  | .indentSize => "indent_size"
  | .useTabs => "use_tabs"
  | .lineEnding => "line_ending"
  | .interfaceStart => "interface_prefix"
  | .builderName => "builder_name"
  | .interfaceImplements => "interface_implements"
  | .immutablePojos => "immutable_pojos"
  | .fluentSetters => "fluent_setters"
  | .markGenerated => "generated_annotation"
  | .jpaAnnotations => "generate_jpa_annotations"
  | .jpaNamespace => "jpa_namespace"
  | .validationAnnotations => "generate_validation_annotations"
  | .validationNamespace => "validation_namespace"
  | .addComments => "add_comments"
  | .docWidth => "doc_width"
  | .strictTypes => "strict_types"
  | .typeOverrides => "type_overrides"

/-- The value of a setting where nothing else is said. -/
def default : Setting → Value
  | .outputDir => .null
  | .packageName => .text "org.example.generated"
  | .indentSize => .int 4
  | .useTabs => .bool false
  | .lineEnding => .text "\n"
  | .interfaceStart => .text "I"
  | .builderName => .text "Builder"
  | .interfaceImplements => .list []
  | .immutablePojos => .bool false
  | .fluentSetters => .bool false
  | .markGenerated => .bool true
  | .jpaAnnotations => .bool false
  | .jpaNamespace => .text "jakarta.persistence"
  | .validationAnnotations => .bool false
  | .validationNamespace => .text "jakarta.validation.constraints"
  | .addComments => .bool true
  | .docWidth => .int 80
  | .strictTypes => .bool false
  | .typeOverrides => .object []

/-- No setting is missing from the list. -/
theorem mem_all (s : Setting) : s ∈ all := by
  cases s <;> decide

/-- Settings are told apart by their field names. -/
theorem key_injective {s t : Setting} (h : s.key = t.key) : s = t := by
  cases s <;> cases t <;> first | rfl | exact absurd h (by decide)

end Setting

/-- The field name of the custom fields in configuration files. -/
def customKey : String := "custom"

/-- A configuration: a value for every setting, and the custom fields. -/
structure Config where
  setting : Setting → Value
  custom : Custom := .fields []

namespace Config

/-- The configuration with all defaults. -/
def standard : Config where
  setting := Setting.default

/-- Two configurations agree in every field. -/
def same (c d : Config) : Bool :=
  (Setting.all.all fun s => (c.setting s).same (d.setting s)) && c.custom.same d.custom

/-- A setting that is on or off. -/
def flag (c : Config) (s : Setting) : Bool :=
  (c.setting s).truthy

/-- A setting as the text that is printed for it. -/
def label (c : Config) (s : Setting) : String :=
  (c.setting s).display

/-- The indentation of one level. -/
def indentUnit (c : Config) : Result String :=
  if c.flag .useTabs then .ok "\t" else ((c.setting .indentSize).row ' ').mapError .misuse

/-- The line ending as the text that joins lines. -/
def lineJoiner (c : Config) : Result String :=
  match c.setting .lineEnding with
  | .text s => .ok s
  | v => misuse (.lacksOperation v.kind "join")

end Config

end TableInterfaces
