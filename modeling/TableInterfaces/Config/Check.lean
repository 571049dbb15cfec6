import TableInterfaces.Config.Setting
import TableInterfaces.Text.Lines

/-!
# Checking a configuration

The warnings about settings that give odd or broken files. A setting whose value is of a kind that
cannot be checked at all is an error.
-/

namespace TableInterfaces.Config

open TableInterfaces.Json
open TableInterfaces.Text

/-- A package name is a row of identifiers between dots. -/
def isPackageName (v : Value) : Result Bool :=
  if !v.truthy then .ok false
  else
    match v with
    | .text s => .ok ((splitAtChar '.' s).all fun part => isIdentifier part.toList)
    | _ => misuse (.lacksOperation v.kind "split")

/-- The warning about the package name. -/
def packageWarnings (c : Config) : Result (List String) := do
  let name := c.setting .packageName
  let valid ← isPackageName name
  return if valid then [] else ["Invalid package name: " ++ name.shown]

/-- The warning about what interface names start with; nothing is a valid start. -/
def interfaceStartWarnings (c : Config) : Result (List String) := do
  let start := c.setting .interfaceStart
  let valid ← if start.truthy then start.isIdentifierText else pure true
  return if valid then [] else ["Invalid interface prefix: " ++ start.shown]

/-- The warning about the name of the nested builder. -/
def builderWarnings (c : Config) : Result (List String) := do
  let name := c.setting .builderName
  let valid ← name.isIdentifierText
  return if valid then [] else ["Invalid builder name: " ++ name.shown]

/-- The warning about an indentation below one. -/
def indentWarnings (c : Config) : Result (List String) := do
  let size := c.setting .indentSize
  let small ← size.isBelow 1
  return if small then ["Invalid indent_size: " ++ size.display] else []

/-- The warning about comments too narrow to read. -/
def widthWarnings (c : Config) : Result (List String) := do
  let width := c.setting .docWidth
  let small ← width.isBelow 20
  return if small then ["doc_width too small: " ++ width.display] else []

/-- The warning about a setting that another one overrules. -/
def modeWarnings (c : Config) : List String :=
  if c.flag .immutablePojos && c.flag .fluentSetters then
    ["fluent_setters has no effect when immutable_pojos is set"]
  else []

/-- The warnings about a configuration, in a fixed order. -/
def warnings (c : Config) : Result (List String) := do
  let package ← c.packageWarnings
  let start ← c.interfaceStartWarnings
  let builder ← c.builderWarnings
  let indent ← c.indentWarnings
  let width ← c.widthWarnings
  return package ++ start ++ builder ++ indent ++ width ++ c.modeWarnings

end TableInterfaces.Config
