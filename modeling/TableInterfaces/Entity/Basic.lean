import TableInterfaces.Sql.Type

/-!
# Entities

A table or a user-defined type with its ordered members. Names, schemas and comments are kept as the
document gives them; where they have to be texts, the operation that needs them says so.
-/

namespace TableInterfaces

open TableInterfaces.Json
open TableInterfaces.Sql

/-- The kinds of entities. -/
inductive EntityKind where
  | table
  | udt
  deriving DecidableEq, Repr

/-- The word for a kind in documents. -/
def EntityKind.word : EntityKind → String
  | .table => "table"
  | .udt => "udt"

/-- The kind that a document's word stands for. -/
def EntityKind.ofValue? : Value → Option EntityKind
  | .text "table" => some .table
  | .text "udt" => some .udt
  | _ => none

/-- A column of a table or an attribute of a UDT. Positions count from one. -/
structure Member where
  name : Value
  qualifiedName : String
  type : SqlType
  comment : Value := .null
  position : Nat := 0
  primaryKey : Value := .bool false
  isColumn : Bool := true
  deriving Inhabited

/-- A table or a UDT with its members in declaration order. -/
structure Entity where
  name : Value
  schema : Value
  kind : EntityKind := .table
  comment : Value := .null
  members : List Member := []
  supertypes : List Value := []

/-- A name behind its schema and a dot, or alone where the schema is empty. -/
def qualify (schema name : Value) : Value :=
  if schema.truthy then .text (schema.display ++ "." ++ name.display) else name

namespace Entity

/-- The name of an entity with its schema. -/
def qualifiedName (e : Entity) : Value :=
  qualify e.schema e.name

/-- The qualified name as text. -/
def title (e : Entity) : String :=
  e.qualifiedName.display

/-- The entity is a table. -/
def isTable (e : Entity) : Bool :=
  e.kind == .table

/-- The members of the primary key. -/
def primaryKey (e : Entity) : List Member :=
  e.members.filter (·.primaryKey.truthy)

/-- The first member of a name. -/
def member? (e : Entity) (name : Value) : Option Member :=
  e.members.find? fun m => m.name.same name

end Entity

end TableInterfaces
