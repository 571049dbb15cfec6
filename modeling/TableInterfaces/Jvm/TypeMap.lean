import TableInterfaces.Entity.Basic
import TableInterfaces.Source.Scope

/-!
# JVM types

The JVM type for each SQL type. An override of the configuration comes first, then the interface of
a UDT, then the table of SQL types; exact numbers without a fraction get the smallest whole-number
type that holds them. A type without a place is an error in strict mode, and else the fallback type
with a hint. An array is written in the form of the dialect.
-/

namespace TableInterfaces.Jvm

open TableInterfaces.Json
open TableInterfaces.Source
open TableInterfaces.Sql

/-- The fallback type. -/
def objectType : String := "java.lang.Object"

/-- The type of binary data, in the form of Java. -/
def byteArray : String := "byte[]"

/-- The type of binary data, in the form of Scala. -/
def scalaByteArray : String := "scala.Array[scala.Byte]"

/-- The type of exact numbers with a fraction. -/
def bigDecimal : String := "java.math.BigDecimal"

/-- The type of whole numbers of any size. -/
def bigInteger : String := "java.math.BigInteger"

/-- The type of texts. -/
def stringType : String := "java.lang.String"

/-- The JVM types of the SQL types. -/
def sqlTypes : List (String × String) :=
  [("tinyint", "java.lang.Byte"),
    ("smallint", "java.lang.Short"),
    ("int2", "java.lang.Short"),
    ("smallserial", "java.lang.Short"),
    ("integer", "java.lang.Integer"),
    ("int", "java.lang.Integer"),
    ("int4", "java.lang.Integer"),
    ("mediumint", "java.lang.Integer"),
    ("serial", "java.lang.Integer"),
    ("bigint", "java.lang.Long"),
    ("int8", "java.lang.Long"),
    ("bigserial", "java.lang.Long"),
    ("numeric", bigDecimal),
    ("decimal", bigDecimal),
    ("real", "java.lang.Float"),
    ("float4", "java.lang.Float"),
    ("float", "java.lang.Double"),
    ("float8", "java.lang.Double"),
    ("double", "java.lang.Double"),
    ("double precision", "java.lang.Double"),
    ("boolean", "java.lang.Boolean"),
    ("bool", "java.lang.Boolean"),
    ("bit", "java.lang.Boolean"),
    ("char", stringType),
    ("character", stringType),
    ("nchar", stringType),
    ("varchar", stringType),
    ("character varying", stringType),
    ("nvarchar", stringType),
    ("text", stringType),
    ("longtext", stringType),
    ("clob", stringType),
    ("json", stringType),
    ("jsonb", stringType),
    ("xml", stringType),
    ("date", "java.time.LocalDate"),
    ("time", "java.time.LocalTime"),
    ("time without time zone", "java.time.LocalTime"),
    ("timetz", "java.time.OffsetTime"),
    ("time with time zone", "java.time.OffsetTime"),
    ("timestamp", "java.time.LocalDateTime"),
    ("timestamp without time zone", "java.time.LocalDateTime"),
    ("datetime", "java.time.LocalDateTime"),
    ("timestamptz", "java.time.OffsetDateTime"),
    ("timestamp with time zone", "java.time.OffsetDateTime"),
    ("interval", "java.time.Duration"),
    ("uuid", "java.util.UUID"),
    ("bytea", byteArray),
    ("blob", byteArray),
    ("binary", byteArray),
    ("varbinary", byteArray),
    ("longblob", byteArray)]

/-- The whole-number types with the precisions below which they are chosen, smallest first. -/
def wholeTypes : List (Int × String) :=
  [(3, "java.lang.Byte"), (5, "java.lang.Short"), (10, "java.lang.Integer"), (19, "java.lang.Long")]

/-- The type of exact numbers: without a precision or with a fraction the decimal type, else the
first whole-number type whose bound lies above the precision. -/
def exactNumeric (precision scale : Option Int) : String :=
  match precision with
  | none => bigDecimal
  | some p =>
    if 0 < scale.getD 0 then bigDecimal
    else
      match wholeTypes.find? fun bound => decide (p < bound.1) with
      | some bound => bound.2
      | none => bigInteger

/-- A JVM type with the hints collected on the way to it. The name is a text unless an override of
the configuration says otherwise. -/
structure JvmType where
  name : Value
  hints : List String := []

/-- What the mapping of types depends on. Overrides are keyed by lower-case type names, interfaces
by lower-case qualified UDT names. -/
structure TypeMap where
  dialect : Dialect
  strict : Bool := false
  fallback : String := objectType
  overrides : List (String × Value) := []
  interfaces : List (String × String) := []

namespace TypeMap

/-- The overrides of a configuration by lower-case type name; of two that agree, the last wins. -/
def readOverrides (v : Value) : Result (List (String × Value)) :=
  match v with
  | .object fields => .ok (merge [] (fields.map fun field => (Text.lower field.1, field.2)))
  | _ => misuse (.lacksOperation v.kind "items")

/-- The type for a type without a place, with a hint that tells why. -/
def fallBack (map : TypeMap) (type : SqlType) (context reason : String) : Result JvmType :=
  let subject := if context == "" then type.name else context
  if map.strict then .error (.unmappedType subject reason)
  else .ok ⟨.text map.fallback, [subject ++ ": " ++ reason ++ ", using " ++ map.fallback]⟩

/-- The type of a UDT reference: the UDT's interface, unless it is unknown or empty. -/
def mapUdt (map : TypeMap) (type : SqlType) (context udt : String) : Result JvmType :=
  match map.interfaces.lookup udt with
  | some interface =>
    if interface == "" then map.fallBack type context ("unknown UDT '" ++ udt ++ "'")
    else .ok ⟨.text interface, []⟩
  | none => map.fallBack type context ("unknown UDT '" ++ udt ++ "'")

/-- The type of a type that is neither overridden nor a UDT reference. -/
def mapBuiltin (map : TypeMap) (type : SqlType) (context : String) : Result JvmType :=
  if type.name == "numeric" || type.name == "decimal" then
    .ok ⟨.text (exactNumeric type.precision type.scale), []⟩
  else
    match sqlTypes.lookup type.name with
    | some name => .ok ⟨.text name, []⟩
    | none => map.fallBack type context ("unsupported type '" ++ type.name ++ "'")

/-- The type of an element, leaving aside whether the SQL type is an array. -/
def mapElement (map : TypeMap) (type : SqlType) (context : String) : Result JvmType :=
  match map.overrides.lookup type.name with
  | some name => .ok ⟨name, []⟩
  | none =>
    match type.udt with
    | some udt => map.mapUdt type context udt
    | none => map.mapBuiltin type context

/-- Binary data in the form of a dialect; other types are the same in both. -/
def inDialect (dialect : Dialect) (name : Value) : Value :=
  match dialect, name with
  | .traits, .text s => if s == byteArray then .text scalaByteArray else .text s
  | _, _ => name

/-- The array of an element type in the form of a dialect. -/
def arrayOf (dialect : Dialect) (element : Value) : Value :=
  match dialect with
  | .traits => .text ("scala.Array[" ++ element.display ++ "]")
  | .interfaces => .text (element.display ++ "[]")

/-- The type for an SQL type; `context` names the member in hints and errors. -/
def mapType (map : TypeMap) (type : SqlType) (context : String) : Result JvmType := do
  let element ← map.mapElement type context
  let name := inDialect map.dialect element.name
  return { name := if type.isArray then arrayOf map.dialect name else name, hints := element.hints }

/-- The type of a member. -/
def ofMember (map : TypeMap) (m : Member) : Result JvmType :=
  map.mapType m.type m.qualifiedName

end TypeMap

end TableInterfaces.Jvm
