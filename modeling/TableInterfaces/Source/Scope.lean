import TableInterfaces.Fault
import TableInterfaces.Source.TypeName

/-!
# Names in a source file

A source file prints a type by its simple name where that name can only mean this type. The first
qualified name that uses a simple name binds it for the file; other qualified names with the same
simple name, and those whose simple name the file itself declares, are printed in full. A bound name
is imported unless its package is the file's own or one that is visible everywhere.
-/

namespace TableInterfaces.Source

/-- The two forms in which the same declarations are written: interfaces of Java, traits of Scala.
-/
inductive Dialect where
  | interfaces
  | traits
  deriving DecidableEq, Repr

/-- The packages whose types are visible without an import. -/
def Dialect.visiblePackages : Dialect → List String
  | .interfaces => ["java.lang"]
  | .traits => ["java.lang", "scala"]

/-- The names of a source file. `bound` gives the qualified name for each simple name in use. -/
structure Scope where
  dialect : Dialect
  package : Option String := none
  declared : List String := []
  bound : List (String × String) := []
  imported : List String := []
  deriving DecidableEq, Repr

namespace Scope

/-- Types of a package are visible without an import. -/
def isVisible (s : Scope) (package : String) : Bool :=
  s.dialect.visiblePackages.contains package || s.package == some package

/-- The scope in which a simple name stands for a qualified name. -/
def bind (s : Scope) (package simple qualified : String) : Scope :=
  { s with
    bound := s.bound ++ [(simple, qualified)]
    imported := if s.isVisible package then s.imported else s.imported ++ [qualified] }

/-- How a qualified name is printed, and the scope after that. -/
def refQualified (s : Scope) (package simple qualified : String) : String × Scope :=
  if s.declared.contains simple then (qualified, s)
  else
    match s.bound.lookup simple with
    | some owner => (if owner == qualified then simple else qualified, s)
    | none => (simple, s.bind package simple qualified)

/-- How a type name is printed, and the scope after that. -/
def ref (s : Scope) : TypeName → String × Scope
  | .plain cs => (String.ofList cs, s)
  | .qualified package simple text =>
    s.refQualified (String.ofList package) (String.ofList simple) (String.ofList text)
  | .array element =>
    let (printed, s') := s.ref element
    (printed ++ "[]", s')
  | .applied outer argument =>
    let (printedOuter, s') := s.ref outer
    let (printedArgument, s'') := s'.ref argument
    (printedOuter ++ "[" ++ printedArgument ++ "]", s'')

/-- How a written type name is printed, and the scope after that. -/
def refText (s : Scope) (name : String) : String × Scope :=
  s.ref (TypeName.ofText name.toList)

/-- The scope of a file of the given package. -/
def inPackage (s : Scope) (package : String) : Scope :=
  { s with package := some package }

/-- The scope of a file that itself declares a simple name. -/
def declare (s : Scope) (simple : String) : Scope :=
  { s with declared := s.declared ++ [simple] }

/-- The imported qualified names in order. -/
def imports (s : Scope) : List String :=
  s.imported.mergeSort fun a b => decide (a ≤ b)

end Scope

/-- Work that prints types through a scope and may stop at a fault. The scope keeps what was printed
before. -/
abbrev Scoped := ExceptT Fault (StateM Scope)

/-- How a type name is printed. -/
def Scoped.ref (name : String) : Scoped String :=
  modifyGet fun s => s.refText name

end TableInterfaces.Source
