import TableInterfaces.Config.Setting
import TableInterfaces.Entity.Basic
import TableInterfaces.Source.Scope
import TableInterfaces.Text.Lines

/-!
# Annotations

The annotation lines of an interface and of its getters: the marker of generated code, the mapping
of tables and columns (JPA), and the constraints of bean validation. Annotation types are printed
through the scope of the file, so they are imported where that is possible.
-/

namespace TableInterfaces.Jvm

open TableInterfaces.Json
open TableInterfaces.Source
open TableInterfaces.Sql
open TableInterfaces.Text

/-- The type of the marker of generated code. -/
def generatedType : String := "javax.annotation.processing.Generated"

/-- The name of the generator in its marker. -/
def generatorName : String := "entity-codegen"

/-- The remark in the marker of generated code. -/
def generatedRemark : String := "This interface is generated by entity-codegen"

/-- SQL types whose length is a constraint on the size of their values. -/
def sizedTypes : List String :=
  ["char", "character", "varchar", "character varying", "nchar", "nvarchar", "binary", "varbinary"]

/-- A text as a literal: quotes and backslashes are escaped. -/
def literal (s : String) : String :=
  let escapedBackslashes := replaceAll "\\" "\\\\" s
  "\"" ++ replaceAll "\"" "\\\"" escapedBackslashes ++ "\""

/-- A value that has to be a text, as a literal. -/
def literalOf (v : Value) : Result String :=
  match v with
  | .text s => .ok (literal s)
  | _ => misuse (.lacksOperation v.kind "replace")

/-- An annotation of a type with the given text of its arguments, or none. -/
def annotation (type : String) (arguments : Option (List String)) : Scoped String := do
  let printed ← Scoped.ref type
  let tail := match arguments with
    | none => ""
    | some list => "(" ++ String.intercalate ", " list ++ ")"
  return "@" ++ printed ++ tail

/-- Which annotations are wanted, and in which dialect. -/
structure AnnotationPolicy where
  config : Config
  dialect : Dialect

namespace AnnotationPolicy

/-- A type of the namespace of table and column mappings. -/
def jpaType (policy : AnnotationPolicy) (name : String) : String :=
  policy.config.label .jpaNamespace ++ "." ++ name

/-- A type of the namespace of constraints. -/
def validationType (policy : AnnotationPolicy) (name : String) : String :=
  policy.config.label .validationNamespace ++ "." ++ name

/-- The marker of generated code. -/
def generatedLines (policy : AnnotationPolicy) : Scoped (List String) := do
  if policy.config.flag .markGenerated then
    let name := match policy.dialect with
      | .traits => "Array(" ++ literal generatorName ++ ")"
      | .interfaces => literal generatorName
    let line ← annotation generatedType
      (some ["value = " ++ name, "comments = " ++ literal generatedRemark])
    return [line]
  else return []

/-- The arguments that map a table: its name, and its schema if it has one. -/
def tableArguments (e : Entity) : Result (List String) := do
  let name ← literalOf e.name
  if e.schema.truthy then do
    let schema ← literalOf e.schema
    return ["name = " ++ name, "schema = " ++ schema]
  else return ["name = " ++ name]

/-- The annotations that map a table. -/
def tableLines (policy : AnnotationPolicy) (e : Entity) : Scoped (List String) := do
  let entity ← annotation (policy.jpaType "Entity") none
  let arguments ← tableArguments e
  let table ← annotation (policy.jpaType "Table") (some arguments)
  return [entity, table]

/-- The annotations of an interface. -/
def entityLines (policy : AnnotationPolicy) (e : Entity) : Scoped (List String) := do
  let generated ← policy.generatedLines
  if policy.config.flag .jpaAnnotations && e.isTable then
    let table ← policy.tableLines e
    return generated ++ table
  else return generated

/-- An argument with a number, where there is one other than zero. The sizes of a declared type have
at most `maxDigits` digits, so they are written in full. -/
def sizeArgument (name : String) (size : Option Int) : List String :=
  match size with
  | some n => if n = 0 then [] else [name ++ " = " ++ toString n]
  | none => []

/-- The arguments that map a column. -/
def columnArguments (m : Member) : Result (List String) := do
  let name ← literalOf m.name
  let nullable := if m.type.nullable.truthy then [] else ["nullable = false"]
  return ["name = " ++ name] ++ nullable ++ sizeArgument "length" m.type.length ++
    sizeArgument "precision" m.type.precision ++ sizeArgument "scale" m.type.scale

/-- The annotations that map a column. -/
def columnLines (policy : AnnotationPolicy) (m : Member) : Scoped (List String) := do
  let id ← if m.primaryKey.truthy then
      (fun line => [line]) <$> annotation (policy.jpaType "Id") none
    else pure []
  let arguments ← columnArguments m
  let column ← annotation (policy.jpaType "Column") (some arguments)
  return id ++ [column]

/-- A value is required: it may not be null, and nothing else provides it. -/
def isRequired (t : SqlType) : Bool :=
  !t.nullable.truthy && !t.defaulted.truthy && !t.identity.truthy

/-- The greatest size of a value of a sized type. -/
def maxSize? (t : SqlType) : Option Int :=
  if sizedTypes.contains t.name && !t.isArray then t.length.filter (· != 0) else none

/-- The constraints on a member; a size is written in full, as in `sizeArgument`. -/
def validationLines (policy : AnnotationPolicy) (m : Member) : Scoped (List String) := do
  let required ← if isRequired m.type then
      (fun line => [line]) <$> annotation (policy.validationType "NotNull") none
    else pure []
  match maxSize? m.type with
  | some n =>
    let size ← annotation (policy.validationType "Size") (some ["max = " ++ toString n])
    return required ++ [size]
  | none => return required

/-- The annotations of a getter. Only columns of tables are mapped. -/
def memberLines (policy : AnnotationPolicy) (e : Entity) (m : Member) : Scoped (List String) := do
  let column ← if policy.config.flag .jpaAnnotations && e.isTable && m.isColumn then
      policy.columnLines m
    else pure []
  let constraints ← if policy.config.flag .validationAnnotations then policy.validationLines m
    else pure []
  return column ++ constraints

end AnnotationPolicy

end TableInterfaces.Jvm
