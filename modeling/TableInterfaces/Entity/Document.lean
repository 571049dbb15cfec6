import TableInterfaces.Entity.Basic

/-!
# Entity documents

An entity document is a JSON object with a list of entities and perhaps a default schema. Loading
turns it into entities in document order, or names the first thing that is wrong with it. All UDTs
of the document are known before the first type is read, so a type may refer to a UDT that is
declared behind it.
-/

namespace TableInterfaces

open TableInterfaces.Json
open TableInterfaces.Sql

namespace Document

/-- The lower-case qualified name of an entity node that declares a UDT. -/
def udtName? (defaultSchema node : Value) : Option String :=
  match node with
  | .object fields =>
    match fields.lookup "kind" with
    | some (.text "udt") =>
      let schema := (fields.lookup "schema").getD defaultSchema
      let name := .text ((fields.lookup "name").getD (.text "")).display
      some (Text.lower (qualify schema name).display)
    | _ => none
  | _ => none

/-- The lower-case qualified names of all UDTs that a document declares. -/
def udtNames (defaultSchema : Value) (nodes : List Value) : List String :=
  nodes.filterMap (udtName? defaultSchema)

/-- What the entity around a member contributes to it. -/
structure MemberContext where
  entity : Value
  schema : Value
  kind : EntityKind
  udts : List String

/-- The member that a node of a document declares at a position. -/
def member (context : MemberContext) (position : Nat) (node : Value) : Result Member := do
  let name := node.fieldD "name" .null
  if !name.truthy then throw (.schema (.unnamedMember context.entity))
  let some declaration := node.field? "type"
    | throw (.schema (.untypedMember context.entity name))
  let defaultValue := node.fieldD "default" .null
  let type ← SqlType.parse declaration {
    nullable := node.fieldD "nullable" (.bool true)
    defaulted := .bool (defaultValue.kind != .null)
    identity := node.fieldD "identity" (.bool false)
    udts := context.udts
    schema := context.schema }
  return {
    name, type, position
    qualifiedName := (qualify context.schema context.entity).display ++ "." ++ name.display
    comment := node.fieldD "comment" .null
    primaryKey := node.fieldD "primary_key" (.bool false)
    isColumn := context.kind == .table }

/-- The members that nodes declare, at positions from `position` on. -/
def membersFrom (context : MemberContext) (position : Nat) : List Value → Result (List Member)
  | [] => .ok []
  | node :: rest => do
    let m ← member context position node
    let later ← membersFrom context (position + 1) rest
    return m :: later

/-- The repeated names found so far, with `v` behind them if it is a new one. -/
def addRepeated (names found : List Value) (v : Value) : List Value :=
  if 1 < names.countP (·.same v) && !found.any (·.same v) then found ++ [v] else found

/-- The names that occur more than once, each where it occurs first. -/
def repeated (names : List Value) : List Value :=
  names.foldl (addRepeated names) []

/-- The text of a name that takes part in a comparison with others. -/
def nameText? : Value → Option String
  | .text s => some s
  | _ => none

/-- Names that repeat have to be texts to be reported. -/
def unlistable (names : List Value) : Misuse :=
  match names.find? (!·.isHashable) with
  | some v => .unhashable v.kind
  | none => .notJoinable 0 ((names.find? (nameText? · |>.isNone)).map Value.kind |>.getD .null)

/-- No two members of an entity have the same name. -/
def checkMemberNames (entity : Value) (members : List Member) : Result Unit :=
  match repeated (members.map (·.name)) with
  | [] => .ok ()
  | names =>
    match names.mapM nameText? with
    | some texts => .error (.schema (.duplicateMembers entity (sortedDistinct texts)))
    | none => misuse (unlistable names)

/-- The entity that a node of a document declares. -/
def entity (defaultSchema : Value) (udts : List String) (node : Value) : Result Entity := do
  let name := node.fieldD "name" .null
  if !name.truthy then throw (.schema (.unnamedEntity node))
  let schema := node.fieldD "schema" defaultSchema
  let some kind := EntityKind.ofValue? (node.fieldD "kind" (.text "table"))
    | throw (.schema (.unknownKind name (node.fieldD "kind" .null)))
  let memberNodes ← (node.fieldD "members" (.list [])).elements
  let members ← membersFrom { entity := name, schema, kind, udts } 1 memberNodes
  checkMemberNames name members
  let supertypes ← (node.fieldD "supertypes" (.list [])).elements
  return { name, schema, kind, members, supertypes, comment := node.fieldD "comment" .null }

/-- The entities that nodes declare, `seen` being the qualified names of those before them. -/
def entitiesFrom (defaultSchema : Value) (udts : List String) (seen : List Value) :
    List Value → Result (List Entity)
  | [] => .ok []
  | node :: rest => do
    let e ← entity defaultSchema udts node
    let name := e.qualifiedName
    if !name.isHashable then misuse (.unhashable name.kind)
    if seen.any (·.same name) then throw (.schema (.duplicateEntity name))
    let later ← entitiesFrom defaultSchema udts (name :: seen) rest
    return e :: later

/-- The entities of a document, in document order. -/
def load (document : Value) : Result (List Entity) :=
  match document with
  | .object fields =>
    match fields.lookup "entities" with
    | some (.list nodes) =>
      let defaultSchema := (fields.lookup "schema").getD (.text "")
      entitiesFrom defaultSchema (udtNames defaultSchema nodes) [] nodes
    | _ => .error (.schema .noEntityList)
  | _ => .error (.schema .documentNotObject)

end Document

/-- Entities by qualified name: where several share one, the last takes the place of the first. -/
def indexEntities (entities : List Entity) : List (Value × Entity) :=
  entities.foldl (fun index e =>
    let name := e.qualifiedName
    if index.any (·.1.same name) then
      index.map fun entry => if entry.1.same name then (entry.1, e) else entry
    else index ++ [(name, e)]) []

end TableInterfaces
