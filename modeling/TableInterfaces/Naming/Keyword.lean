import TableInterfaces.Naming.Sanitizer

/-!
# Words of the JVM languages

The words that generated names avoid: the keywords of Java and of Scala, and the accessor that every
object inherits and that cannot be overridden.
-/

namespace TableInterfaces.Naming

/-- The keywords of Java and Scala. -/
def jvmKeywords : List String :=
  ["abstract", "assert", "boolean", "break", "byte", "case", "catch", "char", "class", "const",
    "continue", "def", "default", "do", "double", "else", "enum", "extends", "false", "final",
    "finally", "float", "for", "forSome", "goto", "if", "implements", "implicit", "import",
    "instanceof", "int", "interface", "lazy", "long", "match", "native", "new", "null", "object",
    "override", "package", "private", "protected", "public", "return", "sealed", "short", "static",
    "strictfp", "super", "switch", "synchronized", "this", "throw", "throws", "trait", "transient",
    "true", "try", "type", "val", "var", "void", "volatile", "while", "with", "yield"]

/-- Accessors that would clash with a final method of every object. -/
def objectMethods : List String :=
  ["getClass"]

/-- The reserved words of the JVM languages. -/
def jvmWords : ReservedWords where
  keywords := jvmKeywords
  builtins := objectMethods

end TableInterfaces.Naming
