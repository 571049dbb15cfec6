import TableInterfaces.Config.File
import TableInterfaces.Source.Declaration
import TableInterfaces.Source.Interface

/-!
# Generators

A generator writes the interfaces of entities in one target language under one configuration. There
are two targets: interfaces of Java and traits of Scala.
-/

namespace TableInterfaces

open TableInterfaces.Json
open TableInterfaces.Source
open TableInterfaces.Storage

/-- A language in which interfaces are written. -/
inductive Target where
  | java
  | scala
  deriving DecidableEq, Repr

namespace Target

/-- The name of a target in documents, options and listings. -/
def name : Target → String
  | .java => "java"
  | .scala => "scala"

/-- The extension of the files of a target, with its dot. -/
def extension : Target → String
  | .java => ".java"
  | .scala => ".scala"

/-- The dialect of a target. -/
def dialect : Target → Dialect
  | .java => .interfaces
  | .scala => .traits

/-- The name of the generator of a target in listings. -/
def generatorName : Target → String
  | .java => "JavaGenerator"
  | .scala => "ScalaGenerator"

/-- The place of the generator of a target in listings. -/
def generatorPlace (target : Target) : String :=
  "entity_codegen.codegen.languages." ++ target.name ++ ".generator"

end Target

/-- A target with a configuration. -/
structure Generator where
  target : Target
  config : Config

namespace Generator

/-- The generator of a target with its default configuration and overrides. -/
def withOverrides (target : Target) (overrides : Value) : Result Generator := do
  let config ← Config.layered (.text target.name) [] overrides
  return { target, config }

/-- The generator with default configuration but for the package and some settings that are on. -/
def withSettings (target : Target) (package : Value) (on : List Setting) : Result Generator :=
  withOverrides target
    (.object ((Setting.packageName.key, package) :: on.map fun s => (s.key, .bool true)))

/-- The generator of interfaces with mapping and validation annotations. -/
def annotated (package : Value) : Result Generator :=
  withSettings .java package [.jpaAnnotations, .validationAnnotations]

/-- The generator of interfaces whose setters return the interface. -/
def fluent (package : Value) : Result Generator :=
  withSettings .java package [.fluentSetters]

/-- The generator of interfaces with getters only. -/
def readOnly (target : Target) (package : Value) : Result Generator :=
  withSettings target package [.immutablePojos]

/-- Which declarations the interfaces of a generator have. -/
def mode (g : Generator) : Mode where
  immutable := g.config.flag .immutablePojos
  fluent := g.config.flag .fluentSetters
  dialect := g.target.dialect

end Generator

end TableInterfaces
