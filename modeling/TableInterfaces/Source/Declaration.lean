import TableInterfaces.Source.Scope

/-!
# Declarations

The text of each declaration of an interface, in both dialects.
-/

namespace TableInterfaces.Source

/-- An opening brace. -/
def openBrace : String := "\x7b"

/-- A closing brace. -/
def closeBrace : String := "\x7d"

namespace Dialect

/-- The word for a dialect in configurations and listings. -/
def word : Dialect → String
  | .interfaces => "class"
  | .traits => "trait"

/-- The type of what returns nothing. -/
def voidType : Dialect → String
  | .interfaces => "void"
  | .traits => "Unit"

/-- The package line. -/
def packageLine (dialect : Dialect) (package : String) : String :=
  match dialect with
  | .interfaces => "package " ++ package ++ ";"
  | .traits => "package " ++ package

/-- What stands between supertypes. -/
def supertypeJoiner : Dialect → String
  | .interfaces => ", "
  | .traits => " with "

/-- The inheritance clause; without supertypes there is none. -/
def inheritance (dialect : Dialect) (supertypes : List String) : String :=
  if supertypes.isEmpty then ""
  else " extends " ++ String.intercalate dialect.supertypeJoiner supertypes

/-- The words in front of the name of an interface. -/
def headerStart : Dialect → String
  | .interfaces => "public interface "
  | .traits => "trait "

/-- The line that opens an interface. -/
def header (dialect : Dialect) (interface : String) (supertypes : List String) : String :=
  dialect.headerStart ++ interface ++ dialect.inheritance supertypes ++ " " ++ openBrace

/-- The setter of a member. -/
def setter (dialect : Dialect) (name memberType returnType : String) : String :=
  match dialect with
  | .interfaces => "public " ++ returnType ++ " " ++ name ++ "(" ++ memberType ++ " value);"
  | .traits => "def " ++ name ++ "(value : " ++ memberType ++ ") : " ++ returnType

/-- The getter of a member. -/
def getter (dialect : Dialect) (name memberType : String) : String :=
  match dialect with
  | .interfaces => "public " ++ memberType ++ " " ++ name ++ "();"
  | .traits => "def " ++ name ++ " : " ++ memberType

/-- The method that copies from another implementation of an interface. -/
def copyFrom (dialect : Dialect) (interface : String) : String :=
  match dialect with
  | .interfaces => "public void from(" ++ interface ++ " from);"
  | .traits => "def from(from : " ++ interface ++ ") : Unit"

/-- The method that copies into another implementation and returns it with its own type. -/
def copyInto (dialect : Dialect) (interface : String) : String :=
  match dialect with
  | .interfaces => "public <E extends " ++ interface ++ "> E into(E into);"
  | .traits => "def into[E <: " ++ interface ++ "](into : E) : E"

end Dialect

/-- The stub of a nested builder class. -/
def builderStub (builder base : String) : String :=
  "class " ++ builder ++ " extends " ++ base ++ " " ++ openBrace ++ closeBrace

end TableInterfaces.Source
