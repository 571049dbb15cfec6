import TableInterfaces.Generator.Run
import TableInterfaces.Proofs.Config.Check
import TableInterfaces.Proofs.Naming.Interface
import TableInterfaces.Proofs.Naming.Sanitizer
import TableInterfaces.Proofs.Storage.Path

/-!
# Where files lie

Under a configuration without warnings a package is a row of parts without dots and slashes, and an
interface name has neither. So the path of a file has the parts of the package for its directories.
Main statements:

* `InterfaceNames.package_parts`: the parts of a package.
* `Generator.pathParts_plain`: the components of a path name entries of directories.
* `Generator.filePath_eq_iff`: two entities have the same path just where they have the same package
  and the same interface name.
-/

namespace TableInterfaces

open TableInterfaces.Json
open TableInterfaces.Naming
open TableInterfaces.Source
open TableInterfaces.Storage
open TableInterfaces.Text

/-! ## Packages -/

namespace Naming

/-- A part of a package: identifier characters, and at least one. -/
structure IsPart (s : String) : Prop where
  ne_empty : s ≠ ""
  chars : ∀ c ∈ s.toList, isIdentifierChar c = true

namespace IsPart

variable {s : String}

/-- An identifier is a part of a package. -/
theorem of_isIdentifier (h : isIdentifier s.toList = true) : IsPart s where
  ne_empty := by
    rintro rfl
    cases h
  chars c hc := by
    cases hs : s.toList with
    | nil =>
      rw [hs] at hc
      cases hc
    | cons d rest =>
      rw [hs, isIdentifier, Bool.and_eq_true] at h
      rw [hs] at hc
      rcases List.mem_cons.1 hc with rfl | hc
      · simp [isIdentifierChar, h.1]
      · exact List.all_eq_true.1 h.2 c hc

theorem not_mem (h : IsPart s) {c : Char} (hc : isIdentifierChar c = false) : c ∉ s.toList :=
  fun hmem => by rw [h.chars c hmem] at hc; cases hc

/-- A part of a package names an entry of a directory. -/
theorem plain (h : IsPart s) : PlainComponent s :=
  .of_not_mem (h.not_mem rfl) (h.not_mem rfl) h.ne_empty

end IsPart

namespace InterfaceNames

variable {names : InterfaceNames} {e : Entity}

/-- What stands below the configured package are parts, of which the last one is fixed. -/
theorem segments_parts {below : List String} (h : names.segments e = .ok below) :
    (∃ front, below = front ++ ["interfaces"]) ∧ ∀ part ∈ below, IsPart part := by
  have hfixed : ∀ part ∈ [kindPackage e, "interfaces"], IsPart part := by
    intro part hpart
    rcases List.mem_cons.1 hpart with rfl | hpart
    · unfold kindPackage
      split <;> exact .of_isIdentifier rfl
    · rw [List.mem_singleton.1 hpart]
      exact .of_isIdentifier rfl
  unfold segments at h
  split at h
  · cases hs : e.schema with
    | text s =>
      rw [hs] at h
      cases h
      refine ⟨⟨[jvmWords.segment s, kindPackage e], rfl⟩,
        fun part hpart => (List.mem_cons.1 hpart).elim ?_ (hfixed part)⟩
      rintro rfl
      exact ⟨jvmWords.segment_ne_empty s, jvmWords.segment_chars s⟩
    | _ =>
      rw [hs] at h
      cases h
  · cases h
    exact ⟨⟨[kindPackage e], rfl⟩, hfixed⟩

/-- All packages end alike. -/
theorem package_ends {package : String} (h : names.package e = .ok package) :
    ∃ front, package = front ++ "interfaces" := by
  obtain ⟨below, hbelow, h⟩ := Result.ok_of_bind h
  obtain ⟨⟨front, rfl⟩, -⟩ := segments_parts hbelow
  split at h
  · cases h
    rw [← List.cons_append, String.intercalate_append_of_ne_nil (List.cons_ne_nil _ _)
      (List.cons_ne_nil _ _), String.intercalate_singleton]
    exact ⟨_, rfl⟩
  · cases h

/-- **The parts of a package.** Under a configuration without warnings a package has parts between
its dots. -/
theorem package_parts (hkinds : names.config.WellTyped) (hconfig : names.config.Unremarkable)
    {package : String} (h : names.package e = .ok package) :
    splitAtChar '.' package ≠ [] ∧ ∀ part ∈ splitAtChar '.' package, IsPart part := by
  obtain ⟨base, hbase⟩ := SettingKind.admits_text_iff.1 (hkinds .packageName)
  obtain ⟨below, hbelow, h⟩ := Result.ok_of_bind h
  rw [hbase] at h
  cases h
  obtain ⟨⟨front, hlast⟩, hparts⟩ := segments_parts hbelow
  have hne : below ≠ [] := by simp [hlast]
  have hfront : ∀ part ∈ splitAtChar '.' base, IsPart part := fun part hpart =>
    .of_isIdentifier (hconfig.package base hbase part hpart)
  have hall : ∀ part ∈ splitAtChar '.' base ++ below, IsPart part := fun part hpart =>
    (List.mem_append.1 hpart).elim (hfront part) (hparts part)
  have hjoined : String.intercalate "." (base :: below) =
      String.intercalate "." (splitAtChar '.' base ++ below) := by
    rw [String.intercalate_append_of_ne_nil (splitAtChar_ne_nil '.' base) hne,
      String.intercalate_cons_of_ne_nil hne]
    exact congrArg (· ++ "." ++ _) (intercalate_splitAtChar '.' base).symm
  have hsplit : splitAtChar '.' (String.intercalate "." (base :: below)) =
      splitAtChar '.' base ++ below := by
    rw [hjoined]
    exact splitAtChar_intercalate (fun part hpart => (hall part hpart).not_mem rfl)
      (List.append_ne_nil_of_right_ne_nil _ hne)
  rw [hsplit]
  exact ⟨List.append_ne_nil_of_right_ne_nil _ hne, hall⟩

/-- Under a configuration without warnings a package has identifier characters and dots. -/
theorem package_chars (hkinds : names.config.WellTyped) (hconfig : names.config.Unremarkable)
    {package : String} (h : names.package e = .ok package) :
    ∀ c ∈ package.toList, isIdentifierChar c = true ∨ c = '.' := by
  intro c hc
  rw [← intercalate_splitAtChar '.' package, String.toList_intercalate] at hc
  rcases mem_of_mem_intercalate hc with hc | ⟨piece, hpiece, hc⟩
  · exact .inr (List.mem_singleton.1 hc)
  · obtain ⟨part, hpart, rfl⟩ := List.mem_map.1 hpiece
    exact .inl (((package_parts hkinds hconfig h).2 part hpart).chars c hc)

/-- Under a configuration without warnings an interface name has identifier characters. -/
theorem interface_chars (hkinds : names.config.WellTyped) (hconfig : names.config.Unremarkable)
    {interface : String} (h : names.interface e = .ok interface) :
    ∀ c ∈ interface.toList, isIdentifierChar c = true := by
  obtain ⟨start, hstart⟩ := SettingKind.admits_text_iff.1 (hkinds .interfaceStart)
  rw [interface_ok h, interfaceText, String.toList_append]
  intro c hc
  rcases List.mem_append.1 hc with hc | hc
  · rw [Config.label, hstart] at hc
    rcases hconfig.interfaceStart start hstart with rfl | hidentifier
    · cases hc
    · exact (IsPart.of_isIdentifier hidentifier).chars c hc
  · exact jvmWords.sanitize_chars _ c hc

end InterfaceNames

end Naming

/-! ## Package lines -/

/-- The package line of a package without warnings is one line, with nothing to trim. -/
theorem packageLine_plain {names : InterfaceNames} {e : Entity} {package : String}
    (hkinds : names.config.WellTyped) (hconfig : names.config.Unremarkable)
    (h : names.package e = .ok package) (dialect : Dialect) :
    '\n' ∉ (dialect.packageLine package).toList ∧
      trimEnd (dialect.packageLine package).toList = (dialect.packageLine package).toList := by
  have hbreak : '\n' ∉ package.toList := fun hc =>
    (InterfaceNames.package_chars hkinds hconfig h _ hc).elim (fun hc => absurd hc (by decide))
      fun hc => absurd hc (by decide)
  obtain ⟨front, rfl⟩ := InterfaceNames.package_ends h
  have hends : (front ++ "interfaces").toList = (front ++ "interface").toList ++ ['s'] := by simp
  cases dialect with
  | interfaces =>
    simp only [Dialect.packageLine, String.toList_append] at hbreak ⊢
    exact ⟨by simpa using hbreak, dropEndWhile_concat rfl _⟩
  | traits =>
    rw [Dialect.packageLine, String.toList_append]
    refine ⟨by simpa using hbreak, ?_⟩
    rw [hends, ← List.append_assoc]
    exact dropEndWhile_concat rfl _

/-! ## Paths -/

namespace Generator

variable {g : Generator} {run : Run} {a b : Entity} {package package' interface interface' : String}

/-- The components of a path: the parts of the package, and the interface name with the extension.
-/
def pathParts (g : Generator) (package interface : String) : List String :=
  splitAtChar '.' package ++ [interface ++ g.target.extension]

theorem filePath_eq (hpackage : run.names.package a = .ok package)
    (hinterface : run.names.interface a = .ok interface) :
    g.filePath run a = .ok (Path.ofParts (g.pathParts package interface)).text := by
  unfold filePath
  rw [hpackage, Result.ok_bind, hinterface]
  rfl

/-- No extension has a slash, and all have a letter that no dots have. -/
theorem extension_chars (target : Target) :
    '/' ∉ target.extension.toList ∧ 'a' ∈ target.extension.toList := by
  cases target <;> decide

/-- Parts and one more name entries of directories. -/
theorem pathParts_plain (hkinds : run.names.config.WellTyped)
    (hconfig : run.names.config.Unremarkable) (hpackage : run.names.package a = .ok package)
    (hinterface : run.names.interface a = .ok interface) :
    ∀ part ∈ g.pathParts package interface, PlainComponent part := by
  intro part hpart
  rcases List.mem_append.1 hpart with hpart | hpart
  · exact ((InterfaceNames.package_parts hkinds hconfig hpackage).2 part hpart).plain
  · obtain ⟨hslash, hletter⟩ := extension_chars g.target
    have hmem : 'a' ∈ (interface ++ g.target.extension).toList := by
      rw [String.toList_append]
      exact List.mem_append_right _ hletter
    rw [List.mem_singleton.1 hpart]
    refine ⟨fun hc => ?_, ?_, ?_, ?_⟩
    · rw [String.toList_append] at hc
      refine (List.mem_append.1 hc).elim (fun hc => ?_) hslash
      exact absurd (InterfaceNames.interface_chars hkinds hconfig hinterface _ hc) (by decide)
    all_goals
      intro heq
      rw [heq] at hmem
      exact absurd hmem (by decide)

theorem pathParts_ne_nil (package interface : String) : g.pathParts package interface ≠ [] :=
  List.append_ne_nil_of_right_ne_nil _ (List.cons_ne_nil _ _)

/-- The components of a path tell its package and its interface name. -/
theorem pathParts_injective (h : g.pathParts package interface = g.pathParts package' interface') :
    package = package' ∧ interface = interface' := by
  obtain ⟨hparts, hnames⟩ := List.append_inj' h rfl
  constructor
  · rw [← intercalate_splitAtChar '.' package, hparts, intercalate_splitAtChar]
  · exact (String.append_left_inj _).1 (List.cons.inj hnames).1

/-- **Where two files lie.** Two entities have the same path just where they have the same package
and the same interface name. -/
theorem filePath_eq_iff (hkinds : run.names.config.WellTyped)
    (hconfig : run.names.config.Unremarkable) (ha : run.names.package a = .ok package)
    (ha' : run.names.interface a = .ok interface) (hb : run.names.package b = .ok package')
    (hb' : run.names.interface b = .ok interface') :
    g.filePath run a = g.filePath run b ↔ package = package' ∧ interface = interface' := by
  rw [filePath_eq ha ha', filePath_eq hb hb', Except.ok.injEq]
  constructor
  · intro h
    exact pathParts_injective (Path.text_ofParts_injective (pathParts_plain hkinds hconfig ha ha')
      (pathParts_plain hkinds hconfig hb hb') (pathParts_ne_nil _ _) (pathParts_ne_nil _ _) h)
  · rintro ⟨rfl, rfl⟩
    rfl

end Generator

end TableInterfaces
