import TableInterfaces.Config.Check
import TableInterfaces.Generator.Services

/-!
# Checking a run

The warnings of a run, in this order: what is odd about each entity, what is odd about the
configuration, the types that fell back, and the accessors that several members share.
-/

namespace TableInterfaces.Generator

open TableInterfaces.Jvm
open TableInterfaces.Naming
open TableInterfaces.Sql

/-! ## Entities -/

/-- The lower-case qualified names of the UDTs among entities. -/
def knownUdts (entities : List Entity) : Result (List String) := do
  (entities.map (·.qualifiedName)).forM (·.checkHashable)
  ((indexEntities entities).filter fun entry => !entry.2.isTable).mapM
    fun entry => entry.2.qualifiedName.lowered

/-- The warning about a reference to a UDT that the run does not have. -/
def referenceWarnings (known : List String) (m : Member) : List String :=
  match m.type.udt with
  | some udt =>
    if known.contains udt then []
    else ["Member " ++ m.qualifiedName ++ " references unknown UDT '" ++ udt ++ "'"]
  | none => []

/-- The warnings about an entity. -/
def entityWarnings (known : List String) (e : Entity) : List String :=
  (if e.members.isEmpty then ["Entity '" ++ e.title ++ "' has no members"] else []) ++
    e.members.flatMap (referenceWarnings known) ++
    if e.isTable && 1 < e.primaryKey.length then
      ["Table '" ++ e.title ++ "' has a composite primary key"]
    else []

/-! ## Types -/

/-- The hints about the types of members, in order. -/
def typeHints (types : TypeMap) : List Member → Result (List String)
  | [] => .ok []
  | m :: rest => do
    let type ← types.ofMember m
    let later ← typeHints types rest
    return type.hints ++ later

/-- The warnings about types that fell back; in strict mode those are errors and no warnings. -/
def typeWarnings (g : Generator) (entities : List Entity) : Result (List String) := do
  if g.config.flag .strictTypes then return []
  let types ← g.typeMap entities
  typeHints types (entities.flatMap (·.members))

/-! ## Accessors -/

/-- The warnings about members that share their getter with a member before them. `seen` gives for
each getter the member that had it first. -/
def accessorWarningsFrom (names : InterfaceNames) (e : Entity) (seen : List (String × Member)) :
    List Member → Result (List String)
  | [] => .ok []
  | m :: rest => do
    let getter ← names.getter m
    let names := names.remember [m.name]
    match seen.lookup getter with
    | some first =>
      let later ← accessorWarningsFrom names e seen rest
      return ("Members " ++ first.name.display ++ " and " ++ m.name.display ++ " of " ++ e.title ++
        " both map to " ++ getter ++ "()") :: later
    | none => accessorWarningsFrom names e ((getter, m) :: seen) rest

/-- The warnings about accessors that members of the same entity share. -/
def accessorWarnings (names : InterfaceNames) : List Entity → Result (List String)
  | [] => .ok []
  | e :: rest => do
    let here ← accessorWarningsFrom names e [] e.members
    let later ← accessorWarnings (names.remember (e.members.map (·.name))) rest
    return here ++ later

/-! ## All of them -/

/-- The warnings of a run over some entities. -/
def warnings (g : Generator) (entities : List Entity) : Result (List String) := do
  let known ← knownUdts entities
  let aboutConfig ← g.config.warnings
  let aboutTypes ← g.typeWarnings entities
  let names ← InterfaceNames.ofEntities g.config entities
  let aboutAccessors ← accessorWarnings names entities
  return entities.flatMap (entityWarnings known) ++ aboutConfig ++ aboutTypes ++ aboutAccessors

end TableInterfaces.Generator
