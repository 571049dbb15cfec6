import TableInterfaces.Comment.Doc
import TableInterfaces.Source.Declaration
import TableInterfaces.Source.Sheet

/-!
# The interface of an entity

The lines of a generated interface, in order: package, doc comment, annotations, header, the stub of
a builder (in the dialect of interfaces only), an optional setter and a getter for each member, the
optional copy methods, and the closing brace. What is said about names, types, annotations and
comments comes from `Services`; this module decides what is printed and where.

Printing may stop at a fault. The sheet then holds what was printed before it.
-/

namespace TableInterfaces.Source

open TableInterfaces.Comment
open TableInterfaces.Json

/-- Which declarations an interface has, and in which dialect. -/
structure Mode where
  immutable : Bool := false
  fluent : Bool := false
  dialect : Dialect := .interfaces
  deriving DecidableEq, Repr

/-- The names that an interface prints. -/
structure NameService where
  package : Entity → Result String
  interface : Entity → Result String
  qualifiedInterface : Entity → Result String
  builder : Entity → Result String
  baseBuilder : Entity → Result String
  supertypes : Entity → Result (List Value)
  setter : Entity → Member → Result String
  getter : Entity → Member → Result String

/-- The annotation lines of an interface and of its getters. -/
structure AnnotationService where
  entityLines : Entity → Scoped (List String)
  memberLines : Entity → Member → Scoped (List String)

/-- The comment lines of an interface. -/
structure DocService where
  entityDoc : Entity → Result (List String)
  format : String → Result (List String)
  banner : String → Result (List String)

/-- All that an interface needs to know beside its entity and the mode. -/
structure Services where
  typeOf : Entity → Member → Result Value
  names : NameService
  annotations : AnnotationService
  docs : DocService
  footer : Entity → List Line := fun _ => []

/-- What has been printed: the sheet, and the members whose annotations were asked for. -/
structure Progress where
  sheet : Sheet
  annotated : List Member := []

/-- Printing, which may stop at a fault and keeps what was printed. -/
abbrev Printing := ExceptT Fault (StateM Progress)

namespace Printing

/-- A result, or the fault at which printing stops. -/
def ofResult {α : Type} (result : Result α) : Printing α :=
  ExceptT.mk (pure result)

/-- Prints a line at a depth. -/
def println (text : String) (depth : Int) : Printing Unit :=
  modify fun p => { p with sheet := p.sheet.println text depth }

/-- Prints lines at a depth. -/
def printLines (texts : List String) (depth : Int) : Printing Unit :=
  texts.forM (println · depth)

/-- Puts a scope in place of the sheet's own. -/
def setScope (scope : Scope) : Printing Unit :=
  modify fun p => { p with sheet := { p.sheet with scope } }

/-- The scope of the sheet. -/
def scope : Printing Scope :=
  return (← get).sheet.scope

/-- What comes of work in the scope of the sheet. -/
def ofScoped {α : Type} (work : Scoped α) : Printing α := do
  let (result, after) := work.run (← scope)
  setScope after
  ofResult result

/-- How a type name is printed. -/
def ref (name : String) : Printing String :=
  ofScoped (Scoped.ref name)

/-- How a value that has to be a type name is printed. -/
def refValue (name : Value) : Printing String :=
  match name with
  | .text s => ref s
  | _ => throw (.misuse (.lacksOperation name.kind "endswith"))

/-- How values that have to be type names are printed. -/
def refValues : List Value → Printing (List String)
  | [] => return []
  | name :: rest => do
    let printed ← refValue name
    let later ← refValues rest
    return printed :: later

end Printing

open Printing

/-- The annotation type that marks an interface with a builder. -/
def builderMarker : String := "org.inferred.freebuilder.FreeBuilder"

/-- The title of the copy methods. -/
def copyTitle : String := "FROM and INTO"

/-- Prints an empty line and the comment with a text. -/
def printDoc (docs : DocService) (text : String) : Printing Unit := do
  println "" 0
  let lines ← ofResult (docs.format text)
  printLines lines 1

/-- How a member is called in comments. -/
def subject (m : Member) : String :=
  "<code>" ++ m.qualifiedName ++ "</code>."

/-- Prints the package line, and opens the scope of the file. -/
def printPackage (mode : Mode) (package interface : String) : Printing Unit := do
  setScope (((← scope).inPackage package).declare interface)
  println (mode.dialect.packageLine package) 0
  println "" 0

/-- Prints the comment, the annotations and the header of an interface. -/
def printHeader (e : Entity) (mode : Mode) (services : Services) (interface : String) :
    Printing Unit := do
  let doc ← ofResult (services.docs.entityDoc e)
  printLines doc 0
  let annotations ← ofScoped (services.annotations.entityLines e)
  printLines annotations 0
  if mode.dialect == .interfaces then
    let marker ← ref builderMarker
    println ("@" ++ marker) 0
  let supertypes ← ofResult (services.names.supertypes e)
  let printed ← refValues supertypes
  println (mode.dialect.header interface printed) 0

/-- Prints the stub of the builder. -/
def printBuilder (e : Entity) (mode : Mode) (services : Services) : Printing Unit := do
  if mode.dialect == .interfaces then
    println "" 0
    let builder ← ofResult (services.names.builder e)
    let base ← ofResult (services.names.baseBuilder e)
    println (builderStub builder base) 1

/-- Prints the setter of a member. -/
def printSetter (e : Entity) (mode : Mode) (services : Services) (returnType memberType : String)
    (m : Member) : Printing Unit := do
  let text ← ofResult (describe ("Setter for " ++ subject m) m.comment)
  printDoc services.docs text
  let name ← ofResult (services.names.setter e m)
  println (mode.dialect.setter name memberType returnType) 1

/-- Prints the getter of a member. -/
def printGetter (e : Entity) (mode : Mode) (services : Services) (memberType : String)
    (m : Member) : Printing Unit := do
  let text ← ofResult (describe ("Getter for " ++ subject m) m.comment)
  printDoc services.docs text
  modify fun p => { p with annotated := p.annotated ++ [m] }
  let annotations ← ofScoped (services.annotations.memberLines e m)
  printLines annotations 1
  let name ← ofResult (services.names.getter e m)
  println (mode.dialect.getter name memberType) 1

/-- Prints the accessors of a member. -/
def printMember (e : Entity) (mode : Mode) (services : Services) (returnType : String)
    (m : Member) : Printing Unit := do
  let type ← ofResult (services.typeOf e m)
  let memberType ← refValue type
  if !mode.immutable then printSetter e mode services returnType memberType m
  printGetter e mode services memberType m

/-- Prints the accessors of members in order. -/
def printMembers (e : Entity) (mode : Mode) (services : Services) (returnType : String) :
    List Member → Printing Unit
  | [] => return ()
  | m :: rest => do
    printMember e mode services returnType m
    printMembers e mode services returnType rest

/-- Prints a copy method with its comment. -/
def printCopy (services : Services) (sentence interface declaration : String) : Printing Unit := do
  printDoc services.docs
    (sentence ++ " another generated Record/POJO implementing the common interface " ++ interface)
  println declaration 1

/-- Prints the copy methods below their banner. -/
def printCopies (mode : Mode) (services : Services) (interface qualified : String) :
    Printing Unit := do
  let banner ← ofResult (services.docs.banner copyTitle)
  if !banner.isEmpty then
    println "" 0
    printLines banner 1
  printCopy services "Load data from" interface (mode.dialect.copyFrom qualified)
  printCopy services "Copy data into" interface (mode.dialect.copyInto qualified)

/-- Prints the interface of an entity. -/
def printInterface (e : Entity) (mode : Mode) (services : Services) : Printing Unit := do
  let package ← ofResult (services.names.package e)
  let interface ← ofResult (services.names.interface e)
  let qualified ← ofResult (services.names.qualifiedInterface e)
  printPackage mode package interface
  printHeader e mode services interface
  printBuilder e mode services
  let returnType := if mode.fluent then interface else mode.dialect.voidType
  printMembers e mode services returnType e.members
  if !mode.immutable then printCopies mode services interface qualified
  (services.footer e).forM fun line => println line.text line.depth
  println closeBrace 0

/-- What is printed for an entity from an empty sheet on, and the fault at which printing stops. -/
def interfaceOf (e : Entity) (mode : Mode) (services : Services) : Result Unit × Progress :=
  (printInterface e mode services).run { sheet := Sheet.blank mode.dialect }

end TableInterfaces.Source
