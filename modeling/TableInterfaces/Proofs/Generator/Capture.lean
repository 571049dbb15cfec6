import TableInterfaces.Proofs.Generator.Files
import TableInterfaces.Proofs.Source.Imports

/-!
# Captured names

A file prints types by short names, and it only knows which name its own interface has. A short name
may still be that of another declaration: the nested builder of an interface, the type `Unit` that
a trait returns, or an interface of the same package, which hides a type of `java.lang`.

* `Generator.FreeOfCapture` says that none of this happens in a file.
* `Generator.freeOfCapture_iff` gives the exact condition, in terms of the names that the file
  refers to and of the interfaces that the run generates.
* `Generator.notes_captured` is a run in which the name of the builder is captured.
-/

namespace TableInterfaces.Source.InterfaceParts.Printed

variable {parts : InterfaceParts} {mode : Mode} {sheet : Sheet}

/-- The sheet of an interface has the names of one that is opened to declare the interface. -/
theorem scope_eq_opened (h : parts.Printed mode sheet) :
    sheet.scope = (Sheet.opened mode.dialect parts.package [parts.interface]).scope.useAll
      (usesOf (parts.draft mode).names) :=
  h.scope_eq

/-- A name is printed short if it is the first use of its simple name, which is not that of the
interface. -/
theorem owner_eq_some_iff (h : parts.Printed mode sheet) {u : Use}
    (hu : u ∈ usesOf (parts.draft mode).names) :
    sheet.scope.owner u.simple = some u.text ↔
      u.simple ≠ parts.interface ∧
        firstUse (usesOf (parts.draft mode).names) u.simple = some u := by
  rw [h.scope_eq_opened, Sheet.owner_opened, ownerIn]
  constructor
  · intro hown
    split at hown
    · cases hown
    · rename_i hne
      obtain ⟨v, hv, htext⟩ := Option.map_eq_some_iff.1 hown
      obtain rfl := (usesOf_splits _ v (mem_of_firstUse hv)).eq_of_text (usesOf_splits _ u hu) htext
      exact ⟨by simpa using hne, hv⟩
  · rintro ⟨hne, hv⟩
    rw [if_neg (by simpa using hne), hv, Option.map_some]

/-- A name is imported if it is printed short and its package is neither visible everywhere nor that
of the file. -/
theorem mem_imports_iff (h : parts.Printed mode sheet) {u : Use}
    (hu : u ∈ usesOf (parts.draft mode).names) :
    u.text ∈ sheet.scope.imports ↔
      u.simple ≠ parts.interface ∧ firstUse (usesOf (parts.draft mode).names) u.simple = some u ∧
        u.package ∉ mode.dialect.visiblePackages ∧ u.package ≠ parts.package := by
  rw [h.scope_eq_opened, Sheet.text_mem_imports_opened (usesOf_splits _) hu, List.mem_singleton]
  exact and_left_comm

/-- No name of a part of the file is printed as a given simple name if and only if that is the name
of the interface, or its first use in the file is not in the part. -/
theorem short_ne_iff (h : parts.Printed mode sheet) {part : List Use}
    (hpart : ∀ u ∈ part, u ∈ usesOf (parts.draft mode).names) (simple : String) :
    (∀ u ∈ part, sheet.scope.owner u.simple = some u.text → u.simple ≠ simple) ↔
      simple = parts.interface ∨
        ∀ u, firstUse (usesOf (parts.draft mode).names) simple = some u → u ∉ part := by
  constructor
  · intro hno
    by_cases hn : simple = parts.interface
    · exact .inl hn
    refine .inr fun u hu hup => ?_
    obtain rfl := firstUse_simple hu
    exact hno u hup ((h.owner_eq_some_iff (hpart u hup)).2 ⟨hn, hu⟩) rfl
  · rintro hor u hup hs rfl
    obtain ⟨hne, hfirst⟩ := (h.owner_eq_some_iff (hpart u hup)).1 hs
    rcases hor with heq | hno
    · exact hne heq
    · exact hno u hfirst hup

/-- No name with a given simple name is imported if and only if that is the name of the interface,
or the first use of it in the file needs no import. -/
theorem imported_ne_iff (h : parts.Printed mode sheet) (simple : String) :
    (∀ u ∈ usesOf (parts.draft mode).names, u.text ∈ sheet.scope.imports → u.simple ≠ simple) ↔
      simple = parts.interface ∨
        ∀ u, firstUse (usesOf (parts.draft mode).names) simple = some u →
          u.package ∈ mode.dialect.visiblePackages ∨ u.package = parts.package := by
  constructor
  · intro hno
    by_cases hn : simple = parts.interface
    · exact .inl hn
    refine .inr fun u hu => ?_
    obtain rfl := firstUse_simple hu
    have hu' := mem_of_firstUse hu
    refine Decidable.or_iff_not_imp_left.2 fun hvisible => Decidable.byContradiction fun hown => ?_
    exact hno u hu' ((h.mem_imports_iff hu').2 ⟨hn, hu, hvisible, hown⟩) rfl
  · rintro hor u hu hi rfl
    obtain ⟨hne, hfirst, hvisible, hown⟩ := (h.mem_imports_iff hu).1 hi
    rcases hor with heq | hno
    · exact hne heq
    · exact (hno u hfirst).elim hvisible hown

/-- The names of a package that are printed short, in terms of the first uses of simple names. -/
theorem short_in_package_iff (h : parts.Printed mode sheet) (package : String)
    (p : String → Prop) :
    (∀ u ∈ usesOf (parts.draft mode).names, u.package = package →
      sheet.scope.owner u.simple = some u.text → ¬p u.simple) ↔
      ∀ u, firstUse (usesOf (parts.draft mode).names) u.simple = some u → u.package = package →
        u.simple = parts.interface ∨ ¬p u.simple := by
  constructor
  · intro hno u hu hpackage
    by_cases hn : u.simple = parts.interface
    · exact .inl hn
    · have hu' := mem_of_firstUse hu
      exact .inr (hno u hu' hpackage ((h.owner_eq_some_iff hu').2 ⟨hn, hu⟩))
  · intro hor u hu hpackage hs
    obtain ⟨hne, hfirst⟩ := (h.owner_eq_some_iff hu).1 hs
    exact (hor u hfirst hpackage).resolve_left hne

end TableInterfaces.Source.InterfaceParts.Printed

namespace TableInterfaces.Generator

open TableInterfaces.Json
open TableInterfaces.Source

/-- A file prints a qualified name short: its simple name stands for it. -/
def PrintsShort (sheet : Sheet) (u : Use) : Prop :=
  sheet.scope.owner u.simple = some u.text

/-- A run gives an interface of a package. -/
def Generates (run : Run) (entities : List Entity) (package interface : String) : Prop :=
  ∃ front d back, entities = front ++ d :: back ∧
    (run.behind front).names.package d = .ok package ∧
    (run.behind front).names.interface d = .ok interface

/-- No short name in a file is the name of another declaration: inside an interface none is the name
of the nested builder, none that a trait imports is that of the type its methods return, and none
that stands for a type of `java.lang` is that of an interface of the same package. -/
structure FreeOfCapture (g : Generator) (run : Run) (entities : List Entity)
    (parts : InterfaceParts) (sheet : Sheet) : Prop where
  builder : g.target = .java → ∀ u ∈ usesOf (parts.body g.mode).names, PrintsShort sheet u →
    u.simple ≠ run.names.builder
  unit : g.target = .scala → ∀ u ∈ usesOf (parts.draft g.mode).names,
    u.text ∈ sheet.scope.imports → u.simple ≠ Dialect.traits.voidType
  package : g.target = .java → ∀ u ∈ usesOf (parts.draft g.mode).names, u.package = "java.lang" →
    PrintsShort sheet u → ¬Generates run entities parts.package u.simple

/-- **Which short names are captured.** The file of an entity is free of capture if and only if

* in Java the builder has the name of the interface, or the first name in the file with the simple
  name of the builder is not used in the body of the interface;
* in Scala the trait itself is called `Unit`, or the first name in the file with this simple name is
  of a package that is visible everywhere or of the package of the file;
* in Java no interface of the same package, other than that of the file, has the simple name of a
  type of `java.lang` which is the first in the file with this simple name. -/
theorem freeOfCapture_iff {g : Generator} {entities : List Entity} {files : List (String × String)}
    (h : g.files entities = .ok files) : ∃ run, g.run entities = .ok run ∧
      ∀ front e back, entities = front ++ e :: back →
        ∃ file ∈ files, ∃ parts sheet, g.FileOf (run.behind front) e file parts sheet ∧
          let uses := usesOf (parts.draft g.mode).names
          (g.FreeOfCapture run entities parts sheet ↔
            (g.target = .java → run.names.builder = parts.interface ∨
              ∀ u, firstUse uses run.names.builder = some u →
                u ∉ usesOf (parts.body g.mode).names) ∧
            (g.target = .scala → Dialect.traits.voidType = parts.interface ∨
              ∀ u, firstUse uses Dialect.traits.voidType = some u →
                u.package ∈ Dialect.traits.visiblePackages ∨ u.package = parts.package) ∧
            (g.target = .java → ∀ u, firstUse uses u.simple = some u → u.package = "java.lang" →
              u.simple = parts.interface ∨ ¬Generates run entities parts.package u.simple)) := by
  obtain ⟨run, hrun, hfile⟩ := files_ok h
  refine ⟨run, hrun, fun front e back he => ?_⟩
  obtain ⟨file, hmem, parts, sheet, hf⟩ := hfile front e back he
  refine ⟨file, hmem, parts, sheet, hf, ?_⟩
  intro uses
  have hbody : ∀ u ∈ usesOf (parts.body g.mode).names, u ∈ uses := by
    intro u hu
    obtain ⟨name, hname, hu⟩ := List.mem_flatMap.1 hu
    exact List.mem_flatMap.2 ⟨name, List.mem_append_right _ hname, hu⟩
  have hdialect : g.target = .scala → g.mode.dialect = .traits := fun hg =>
    congrArg Target.dialect hg
  have hbuilder := hf.shown.short_ne_iff hbody run.names.builder
  have hunit := hf.shown.imported_ne_iff Dialect.traits.voidType
  have hpackage := hf.shown.short_in_package_iff "java.lang"
    (Generates run entities parts.package)
  constructor
  · rintro ⟨hb, hu, hp⟩
    exact ⟨fun hg => hbuilder.1 (hb hg), fun hg => hdialect hg ▸ hunit.1 (hu hg),
      fun hg => hpackage.1 (hp hg)⟩
  · rintro ⟨hb, hu, hp⟩
    refine ⟨fun hg => hbuilder.2 (hb hg), fun hg => hunit.2 ?_, fun hg => hpackage.2 (hp hg)⟩
    rw [hdialect hg]
    exact hu hg

/-- A table with one column of texts. -/
def notes : Entity where
  name := .text "person"
  schema := .text "hr"
  members := [{
    name := .text "note", qualifiedName := "hr.person.note", position := 1
    type := { name := "text" } }]

/-- A generator of interfaces with getters only that maps texts to a type called `Builder`. -/
def builderTexts : Generator where
  target := .java
  config := { setting := fun
    | .addComments => .bool false
    | .markGenerated => .bool false
    | .immutablePojos => .bool true
    | .typeOverrides => .object [("text", .text "com.acme.Builder")]
    | s => s.default }

/-- The type of the column is printed by the name of the nested builder. -/
theorem notes_captured : ∃ files run file parts sheet, builderTexts.files [notes] = .ok files ∧
    builderTexts.run [notes] = .ok run ∧ file ∈ files ∧
    builderTexts.FileOf run notes file parts sheet ∧
    ¬builderTexts.FreeOfCapture run [notes] parts sheet := by
  have hcheck : (match builderTexts.run [notes] with
      | .ok run => (builderTexts.files [notes]).isOk &&
        match interfaceParts notes builderTexts.mode (builderTexts.services run)
            builderTexts.marks with
        | .ok parts =>
          let builder : Use := ⟨"com.acme", "Builder", "com.acme.Builder"⟩
          run.names.builder != parts.interface &&
            firstUse (usesOf (parts.draft builderTexts.mode).names) run.names.builder ==
              some builder &&
            (usesOf (parts.body builderTexts.mode).names).contains builder
        | .error _ => false
      | .error _ => false) = true := by decide +kernel
  cases hf : builderTexts.files [notes] with
  | error fault =>
    cases hr : builderTexts.run [notes] <;> simp [hf, hr, Except.isOk, Except.toBool] at hcheck
  | ok files =>
    obtain ⟨run, hr, hfile⟩ := freeOfCapture_iff hf
    obtain ⟨file, hmem, parts, sheet, hshown, hiff⟩ := hfile [] notes [] rfl
    have hparts : interfaceParts notes builderTexts.mode (builderTexts.services run)
        builderTexts.marks = .ok parts := hshown.parts_ok
    rw [hr] at hcheck
    dsimp only at hcheck
    rw [hparts] at hcheck
    simp only [Bool.and_eq_true, bne_iff_ne, beq_iff_eq, List.contains_iff_mem] at hcheck
    obtain ⟨-, ⟨hne, hfirst⟩, hbody⟩ := hcheck
    refine ⟨files, run, file, parts, sheet, rfl, hr, hmem, hshown, fun hfree => ?_⟩
    rcases (hiff.1 hfree).1 rfl with heq | hno
    · exact hne heq
    · exact hno _ hfirst hbody

end TableInterfaces.Generator
