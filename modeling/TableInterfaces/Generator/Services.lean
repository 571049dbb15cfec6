import TableInterfaces.Comment.Doc
import TableInterfaces.Generator.Basic
import TableInterfaces.Jvm.Annotation
import TableInterfaces.Jvm.TypeMap
import TableInterfaces.Naming.Interface

/-!
# What a generator knows in a run

The services of a run over some entities: names, types, annotations and comments as the
configuration asks for them. References to UDTs become the interfaces of the UDTs of the same run.
-/

namespace TableInterfaces.Generator

open TableInterfaces.Comment
open TableInterfaces.Json
open TableInterfaces.Jvm
open TableInterfaces.Naming
open TableInterfaces.Source
open TableInterfaces.Sql

/-- The interfaces of UDTs by lower-case qualified name, in front of those that are `known`. -/
def udtInterfacesFrom (names : InterfaceNames) (known : List (String × String)) :
    List Entity → Result (List (String × String))
  | [] => .ok known
  | e :: rest =>
    if e.isTable then udtInterfacesFrom names known rest
    else do
      let key ← e.qualifiedName.lowered
      let interface ← names.qualifiedInterface e
      udtInterfacesFrom (names.remember [e.name]) ((key, interface) :: known) rest

/-- The interfaces of the UDTs among entities by lower-case qualified name, the last one first. -/
def udtInterfaces (names : InterfaceNames) (entities : List Entity) :
    Result (List (String × String)) :=
  udtInterfacesFrom names [] entities

/-- The mapping of types in a run. -/
def typeMap (g : Generator) (entities : List Entity) : Result TypeMap := do
  let names ← InterfaceNames.ofEntities g.config entities
  let interfaces ← udtInterfaces names entities
  let overrides ← TypeMap.readOverrides (g.config.setting .typeOverrides)
  return {
    dialect := g.target.dialect
    strict := g.config.flag .strictTypes
    overrides, interfaces }

/-- Names as an interface asks for them. -/
def nameService (names : InterfaceNames) : NameService where
  package := names.package
  interface := names.interface
  qualifiedInterface := names.qualifiedInterface
  builder _ := .ok names.builder
  baseBuilder := names.baseBuilder
  supertypes := names.supertypes
  setter e m := (names.within e m).setter m
  getter e m := (names.within e m).getter m

/-- Annotations as an interface asks for them. -/
def annotationService (policy : AnnotationPolicy) : AnnotationService where
  entityLines := policy.entityLines
  memberLines := policy.memberLines

/-- Comments as an interface asks for them. -/
def docService (policy : DocPolicy) : DocService where
  entityDoc := policy.entityDoc
  format := policy.format
  banner := policy.banner

/-- The comments that a configuration asks for. -/
def docPolicy (c : Config) : DocPolicy where
  width := c.setting .docWidth
  enabled := c.flag .addComments

/-- What a run over some entities knows. -/
structure Run where
  names : InterfaceNames
  types : TypeMap

/-- What a run knows after the interface of an entity. -/
def Run.after (run : Run) (e : Entity) : Run :=
  { run with names := run.names.after e }

/-- What a generator knows in a run over some entities. -/
def run (g : Generator) (entities : List Entity) : Result Run := do
  let types ← g.typeMap entities
  let names ← InterfaceNames.ofEntities g.config entities
  return { names, types }

/-- The services of a run. -/
def services (g : Generator) (run : Run) : Services where
  typeOf _ m := do
    let type ← run.types.ofMember m
    return type.name
  names := nameService run.names
  annotations := annotationService ⟨g.config, g.target.dialect⟩
  docs := docService (docPolicy g.config)

end TableInterfaces.Generator
