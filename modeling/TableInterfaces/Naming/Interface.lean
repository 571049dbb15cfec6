import TableInterfaces.Config.Setting
import TableInterfaces.Entity.Document
import TableInterfaces.Naming.Keyword

/-!
# Names of an interface

The package, the interface name, the accessor names and the supertypes that an entity gets in a
generated file. Tables and UDTs have packages of their own below the configured one. Where the
entities of a run have more than one schema, each schema has its own package, too.

Only a text can be made a name. A value of another kind that looks like a text is taken for it where
that text has been made a name before in the same run, so `InterfaceNames` keeps these texts.
-/

namespace TableInterfaces.Naming

open TableInterfaces.Json

/-- What names depend on beside the entity: the configuration, whether schemas have packages, and
the texts that have been made names so far. -/
structure InterfaceNames where
  config : Config
  schemaPackages : Bool
  named : List String := []

/-- The package segment of a schema that has to be a text. -/
def schemaSegment (schema : Value) : Result String :=
  match schema with
  | .text s => .ok (jvmWords.segment s)
  | _ => misuse (.notText schema.kind)

/-- Values without repetitions, in order. -/
def distinct (values : List Value) : List Value :=
  values.foldl (fun found v => if found.any (·.same v) then found else found ++ [v]) []

namespace InterfaceNames

/-- The names for a run over some entities. -/
def ofEntities (config : Config) (entities : List Entity) : Result InterfaceNames := do
  let schemas := entities.map (·.schema)
  schemas.forM (·.checkHashable)
  return { config, schemaPackages := 1 < (distinct schemas).length }

/-- The names after some values have been made names. -/
def remember (names : InterfaceNames) (values : List Value) : InterfaceNames :=
  { names with named := values.filterMap Value.text? ++ names.named }

/-- The Pascal-case name of a value that has to be a text, or to look like one that has been made a
name before. -/
def className (names : InterfaceNames) (name : Value) : Result String :=
  match name with
  | .text s => .ok (jvmWords.sanitize s "_")
  | _ =>
    if names.named.contains name.display then .ok (jvmWords.sanitize name.display "_")
    else misuse (.notText name.kind)

/-- The package of tables or of UDTs, below those of the run. -/
def kindPackage (e : Entity) : String :=
  if e.isTable then "tables" else "udt"

/-- The package segments of an entity below the configured package. -/
def segments (names : InterfaceNames) (e : Entity) : Result (List String) := do
  let schema ← if names.schemaPackages && e.schema.truthy then
      (fun s => [s]) <$> schemaSegment e.schema
    else pure []
  return schema ++ [kindPackage e, "interfaces"]

/-- The package of an entity's interface. -/
def package (names : InterfaceNames) (e : Entity) : Result String := do
  let below ← names.segments e
  match names.config.setting .packageName with
  | .text base => return String.intercalate "." (base :: below)
  | v => misuse (.notJoinable 0 v.kind)

/-- The interface name of an entity. -/
def interface (names : InterfaceNames) (e : Entity) : Result String := do
  let name ← names.className e.name
  return names.config.label .interfaceStart ++ name

/-- The interface name of an entity behind its package. -/
def qualifiedInterface (names : InterfaceNames) (e : Entity) : Result String := do
  let package ← names.package e
  let interface ← names.interface e
  return package ++ "." ++ interface

/-- The name of the nested builder. -/
def builder (names : InterfaceNames) : String :=
  names.config.label .builderName

/-- The name of the class that the nested builder extends. -/
def baseBuilder (names : InterfaceNames) (e : Entity) : Result String := do
  let interface ← names.interface e
  return interface ++ "_Builder"

/-- The supertypes of an entity and then those of the configuration, without repetitions. -/
def supertypes (names : InterfaceNames) (e : Entity) : Result (List Value) := do
  let configured ← (names.config.setting .interfaceImplements).elements
  return distinct (e.supertypes ++ configured)

/-- The names as they are where the accessors of a member are printed: behind the name of its entity
and the members in front of it. -/
def within (names : InterfaceNames) (e : Entity) (m : Member) : InterfaceNames :=
  names.remember (e.name :: (e.members.takeWhile (·.position < m.position)).map (·.name))

/-- The names after the interface of an entity. -/
def after (names : InterfaceNames) (e : Entity) : InterfaceNames :=
  names.remember (e.name :: e.members.map (·.name))

/-- The accessor of a member that starts with `verb`. -/
def accessor (names : InterfaceNames) (verb : String) (m : Member) : Result String := do
  let name ← names.className m.name
  return jvmWords.resolve (verb ++ name) "_"

/-- The setter name of a member. -/
def setter (names : InterfaceNames) (m : Member) : Result String :=
  names.accessor "set" m

/-- The getter name of a member. -/
def getter (names : InterfaceNames) (m : Member) : Result String :=
  names.accessor "get" m

end InterfaceNames

end TableInterfaces.Naming
