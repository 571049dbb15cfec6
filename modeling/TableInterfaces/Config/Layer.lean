import TableInterfaces.Config.Setting
import TableInterfaces.Text.Lowercase

/-!
# Layers of a configuration

A configuration is put together from layers of fields: the defaults of a language, a file, and
overrides; a later layer wins field by field. Fields that are no settings become custom fields, on
top of those that the layers give under `custom`.
-/

namespace TableInterfaces

open TableInterfaces.Json
open TableInterfaces.Text

namespace Config

/-- The languages with defaults of their own. -/
def languagesWithDefaults : List String := ["java", "scala"]

/-- The default fields of a language, given by its lower-case name. -/
def languageDefaults (name : String) : List (String × Value) :=
  let withIndent (n : Int) : List (String × Value) :=
    [(Setting.indentSize.key, .int n), (Setting.markGenerated.key, .bool true),
      (Setting.addComments.key, .bool true)]
  if name == "java" then withIndent 4
  else if name == "scala" then withIndent 2
  else []

/-- The default fields of a language as a caller names it; no name has no defaults. -/
def defaultsFor (language : Value) : Result (List (String × Value)) :=
  if !language.truthy then .ok []
  else
    match language with
    | .text s => .ok (languageDefaults (lower s))
    | _ => misuse (.lacksOperation language.kind "lower")

/-- A field name that belongs to a configuration itself. -/
def isKnownKey (name : String) : Bool :=
  name == customKey || Setting.all.any fun s => s.key == name

/-- The name of an entry belongs to a configuration itself. -/
def isKnownName (name : Value) : Bool :=
  match name with
  | .text s => isKnownKey s
  | _ => false

/-- The configuration that entries describe. Unknown entries are custom fields, and win over those
under `custom`. Where all entries are known, `custom` is taken as it is. -/
def ofEntries (entries : Entries) : Result Config := do
  let unknown := entries.filter fun entry => !isKnownName entry.1
  let given := Custom.ofValue ((entries.get? (.text customKey)).getD (.object []))
  let custom ← if unknown.isEmpty then pure given
    else do
      let base ← given.read
      pure (.fields (base.merge unknown))
  return {
    setting := fun s => (entries.get? (.text s.key)).getD s.default
    custom }

/-- The deepest nesting of a setting, or of the custom fields, that can be copied. Copying takes two
calls for each level, so like `maxDepth` this is the room that is left on the stack of a program
that saves from near its outermost call, and calls around it take some of it. -/
def maxCopyDepth : Nat := 494

/-- Every setting, and the custom fields as one object, can be copied. -/
def isCopyable (c : Config) : Bool :=
  (Setting.all.all fun s => (c.setting s).depth ≤ maxCopyDepth) &&
    c.custom.toValue.depth ≤ maxCopyDepth

/-- The settings of a configuration with its custom fields among them, as they are saved. -/
def toEntries (c : Config) : Result Entries := do
  if !c.isCopyable then misuse .tooDeep
  let custom ← c.custom.read
  return (Entries.ofFields (Setting.all.map fun s => (s.key, c.setting s))).merge custom

/-- The configuration of a language with the fields of a file and overrides on top. -/
def layered (language : Value) (file : List (String × Value)) (overrides : Value) :
    Result Config := do
  let base ← defaultsFor language
  let custom ← if overrides.truthy then Entries.ofValue overrides else pure []
  ofEntries ((Entries.ofFields (merge base file)).merge custom)

end Config

end TableInterfaces
