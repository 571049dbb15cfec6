import TableInterfaces.Json.Access
import TableInterfaces.Sql.Declaration

/-!
# SQL types

The type of a column or attribute: a lower-case name with its length or its precision and scale, and
whether it is an array. A type whose name is that of a user-defined type (UDT) of the document
refers to it; the reference is looked up in the schema of the referring entity first, then as it is
written, then as the last part of the qualified name of exactly one UDT.
-/

namespace TableInterfaces.Sql

open TableInterfaces.Json
open TableInterfaces.Text

/-- The declared type of a member. What a document says about null values, defaults and identity is
kept as it stands there. -/
structure SqlType where
  name : String
  length : Option Int := none
  precision : Option Int := none
  scale : Option Int := none
  nullable : Value := .bool true
  defaulted : Value := .bool false
  identity : Value := .bool false
  isArray : Bool := false
  udt : Option String := none
  deriving Inhabited

/-- Types whose single number is a length and not a precision. -/
def lengthTypes : List String :=
  ["char", "character", "varchar", "character varying", "nchar", "nvarchar", "binary", "varbinary",
    "bit"]

/-- Types of columns that number themselves. -/
def serialTypes : List String :=
  ["serial", "bigserial", "smallserial"]

/-- The name of a type as it is compared: lower case, rows of spaces shrunk to one. -/
def typeName (d : Declaration) : String :=
  String.ofList (Declaration.squeezeSpaces (lowerFrom false d.name))

/-- The number that a row of digits writes, if the row is not too long to be read. -/
def readNumber (digits : List Char) : Result Int :=
  if maxDigits < digits.length then misuse (.tooManyDigits digits.length)
  else .ok (decimalNumber digits)

/-- The part of a qualified name behind its last dot. -/
def lastPart (name : String) : String :=
  String.ofList (name.toList.reverse.takeWhile (· != '.')).reverse

/-- Texts without repetitions, in the order of their code points. -/
def sortedDistinct (texts : List String) : List String :=
  texts.eraseDups.mergeSort fun a b => decide (a ≤ b)

/-- The names under which a type may be a UDT, the one in the own schema first. -/
def udtCandidates (name : String) (schema : Value) : Result (List String) :=
  if schema.truthy then do
    let own ← schema.lowered
    return [own ++ "." ++ name, name]
  else .ok [name]

/-- The UDT that a type name refers to, by its lower-case qualified name. -/
def resolveUdt (name : String) (schema : Value) (udts : List String) :
    Result (Option String) := do
  let candidates ← udtCandidates name schema
  match candidates.find? udts.contains with
  | some found => return some found
  | none =>
    match sortedDistinct (udts.filter fun q => lastPart q == name) with
    | [] => return none
    | [q] => return some q
    | several => throw (.schema (.ambiguousType name several))

/-- The length of a type with the given numbers, or its precision and scale. -/
def sizeOf (name : String) (d : Declaration) : Result (Option Int × Option Int × Option Int) :=
  match d.first, d.second with
  | none, _ => .ok (none, none, none)
  | some first, none => do
    let n ← readNumber first
    return if lengthTypes.contains name then (some n, none, none) else (none, some n, none)
  | some first, some second => do
    let n ← readNumber first
    let m ← readNumber second
    return (none, some n, some m)

/-- What a document says about a member beside its type, and where its UDTs are looked up. -/
structure TypeContext where
  nullable : Value := .bool true
  defaulted : Value := .bool false
  identity : Value := .bool false
  udts : List String := []
  schema : Value := .text ""

/-- The type that a declaration writes, in the context of a member. -/
def SqlType.ofDeclaration (d : Declaration) (context : TypeContext) : Result SqlType := do
  let name := typeName d
  let (length, precision, scale) ← sizeOf name d
  let udt ← resolveUdt name context.schema context.udts
  let identity :=
    if context.identity.truthy then context.identity else .bool (serialTypes.contains name)
  return {
    name, length, precision, scale, identity, udt
    nullable := context.nullable
    defaulted := context.defaulted
    isArray := d.isArray }

/-- The type that a value of a document declares. -/
def SqlType.parse (declaration : Value) (context : TypeContext) : Result SqlType :=
  match declaration with
  | .text s =>
    match Declaration.parse? s.toList with
    | some d => SqlType.ofDeclaration d context
    | none => .error (.schema (.invalidType s))
  | v => .error (.schema (.typeNotText v))

/-- The type refers to a UDT. -/
def SqlType.isUdt (t : SqlType) : Bool :=
  t.udt.isSome

end TableInterfaces.Sql
