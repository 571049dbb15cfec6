import TableInterfaces.Proofs.Generator.FileRow
import TableInterfaces.Proofs.Generator.Path
import TableInterfaces.Proofs.Generator.Run

/-!
# Entities in the same place

Each entity has a place: its package and its interface name. Under a configuration without warnings
a lenient run gives one file for each entity, at the path of its place, and fails just where two
entities have the same place. Main statement:

* `Generator.files_one_each`: when a run gives files, and what the file of each entity is.
-/

namespace TableInterfaces.Generator

open TableInterfaces.Json
open TableInterfaces.Naming
open TableInterfaces.Source
open TableInterfaces.Storage
open TableInterfaces.Text

/-- Two entities have the same package and the same interface name in a run. -/
def Run.SamePlace (run : Run) (a b : Entity) : Prop :=
  run.names.package a = run.names.package b ∧ run.names.interface a = run.names.interface b

variable {g : Generator} {run : Run} {entities : List Entity} {files : List (String × String)}
  {e a b : Entity} {ending : String}

/-! ## Different paths -/

/-- Files have different paths just where no two entities have the same one. -/
theorem nodup_paths_iff
    (h : List.Forall₂ (fun e file => g.filePath run e = .ok file.1) entities files) :
    (files.map (·.1)).Nodup ↔ entities.Pairwise fun a b => g.filePath run a ≠ g.filePath run b := by
  have hpaths : entities.map (g.filePath run) = (files.map (·.1)).map Except.ok := by
    induction h with
    | nil => rfl
    | cons hpath _ ih => rw [List.map_cons, List.map_cons, List.map_cons, ih, hpath]
  have hinjective : Function.Injective (Except.ok : String → Result String) := fun _ _ =>
    Except.ok.inj
  rw [← List.nodup_map_iff hinjective, ← hpaths, List.Nodup, List.pairwise_map]

/-- Entities of their kinds have the same path just where they have the same place. -/
theorem filePath_eq_iff_samePlace (hkinds : run.names.config.WellTyped)
    (hconfig : run.names.config.Unremarkable) (ha : a.WellTyped) (hb : b.WellTyped) :
    g.filePath run a = g.filePath run b ↔ run.SamePlace a b := by
  obtain ⟨package, hpackage⟩ := InterfaceNames.package_succeeds hkinds ha.schema
  obtain ⟨interface, hinterface⟩ : Succeeds (run.names.interface a) :=
    InterfaceNames.interface_succeeds ha.name
  obtain ⟨package', hpackage'⟩ := InterfaceNames.package_succeeds hkinds hb.schema
  obtain ⟨interface', hinterface'⟩ : Succeeds (run.names.interface b) :=
    InterfaceNames.interface_succeeds hb.name
  rw [filePath_eq_iff hkinds hconfig hpackage hinterface hpackage' hinterface', Run.SamePlace,
    hpackage, hpackage', hinterface, hinterface', Except.ok.injEq, Except.ok.injEq]

/-- Files have different paths just where no two entities have the same place. -/
theorem nodup_paths_iff_places (hkinds : run.names.config.WellTyped)
    (hconfig : run.names.config.Unremarkable) (he : ∀ e ∈ entities, e.WellTyped)
    (h : List.Forall₂ (fun e file => g.filePath run e = .ok file.1) entities files) :
    (files.map (·.1)).Nodup ↔ ¬∃ a b, [a, b].Sublist entities ∧ run.SamePlace a b := by
  have hsame : ∀ {a b}, [a, b].Sublist entities →
      (g.filePath run a = g.filePath run b ↔ run.SamePlace a b) := fun hab =>
    filePath_eq_iff_samePlace hkinds hconfig (he _ (hab.mem List.mem_cons_self))
      (he _ (hab.mem (List.mem_cons_of_mem _ List.mem_cons_self)))
  rw [nodup_paths_iff h, List.pairwise_iff_forall_sublist]
  constructor
  · rintro happart ⟨a, b, hab, hplace⟩
    exact happart hab ((hsame hab).2 hplace)
  · intro hnone a b hab hpath
    exact hnone ⟨a, b, hab, (hsame hab).1 hpath⟩

/-! ## The file of a place -/

/-- A file of an entity lies at the path of the entity's place, starts with the package line and has
the header of the interface among its lines. -/
structure Presents (g : Generator) (run : Run) (ending : String) (e : Entity)
    (file : String × String) (parts : InterfaceParts) (sheet : Sheet) : Prop where
  package_ok : run.names.package e = .ok parts.package
  interface_ok : run.names.interface e = .ok parts.interface
  path_eq : file.1 = String.intercalate "/"
    (splitAtChar '.' parts.package ++ [parts.interface ++ g.target.extension])
  relative : ∀ part ∈ splitAtChar '/' file.1, part ≠ "" ∧ part ≠ "." ∧ part ≠ ".."
  starts : (splitOn ending.toList file.2.toList).head? =
    some (g.target.dialect.packageLine parts.package).toList
  header : tidyLines (splitOn ending.toList (g.target.dialect.header parts.interface
    (parts.head.supertypes.map sheet.scope.print)).toList) <:+: splitOn ending.toList file.2.toList

/-- The text of a file is the tidied text of its sheet. -/
theorem FileOf.source_eq {file : String × String} {parts : InterfaceParts} {sheet : Sheet}
    (h : g.FileOf run e file parts sheet) (hending : g.config.setting .lineEnding = .text ending)
    (hne : ending ≠ "") : ∃ unit, file.2 =
      String.ofList (tidyText ending.toList (sheet.render unit ending).toList) := by
  obtain ⟨annotated, hprinted⟩ := h.printed
  have hsource := h.source_ok
  unfold sourceOf at hsource
  obtain ⟨unit, -, hsource⟩ := Result.ok_of_bind hsource
  rw [hprinted, Config.lineJoiner, hending] at hsource
  change tidied (.text ending) (sheet.render unit ending) = .ok file.2 at hsource
  rw [tidied_text hne] at hsource
  exact ⟨unit, (Except.ok.inj hsource).symm⟩

/-- The file of an entity presents it. -/
theorem FileOf.presents {file : String × String} {parts : InterfaceParts} {sheet : Sheet}
    (h : g.FileOf run e file parts sheet) (hkinds : run.names.config.WellTyped)
    (hconfig : run.names.config.Unremarkable)
    (hending : g.config.setting .lineEnding = .text ending)
    (hends : ending = "\n" ∨ ending = "\r\n") : g.Presents run ending e file parts sheet := by
  obtain ⟨hpackage, hinterface, -⟩ := InterfaceParts.of_ok h.parts_ok
  have hpath : file.1 = (Path.ofParts (g.pathParts parts.package parts.interface)).text :=
    Except.ok.inj (h.path_ok.symm.trans (filePath_eq hpackage hinterface))
  have hplain := pathParts_plain (g := g) hkinds hconfig hpackage hinterface
  have hsome := g.pathParts_ne_nil parts.package parts.interface
  have hne : ending ≠ "" := by rcases hends with rfl | rfl <;> simp
  obtain ⟨unit, hsource⟩ := h.source_eq hending hne
  obtain ⟨hbreak, htrim⟩ := packageLine_plain hkinds hconfig hpackage g.target.dialect
  obtain ⟨hfirst, hheader⟩ := h.shown.tidied_lines hends hbreak htrim unit
  refine ⟨hpackage, hinterface, hpath.trans (Path.text_ofParts hplain hsome), ?_, ?_, ?_⟩
  · rw [hpath, Path.splitAtChar_text_ofParts hplain hsome]
    exact fun part hpart => ⟨(hplain part hpart).ne_empty, (hplain part hpart).ne_dot,
      (hplain part hpart).ne_dots⟩
  · rw [hsource, String.toList_ofList]
    exact hfirst
  · rw [hsource, String.toList_ofList]
    exact hheader

/-! ## All files -/

/-- The names of an entity of its kinds are texts. -/
theorem ownNames_texts (h : e.WellTyped) : ∀ v ∈ ownNames e, v.kind = .text := by
  intro v hv
  rcases List.mem_cons.1 hv with rfl | hv
  · exact h.name
  · obtain ⟨m, hm, rfl⟩ := List.mem_map.1 hv
    exact (h.members m hm).name

/-- A lenient run over entities of their kinds has the file of each of them. -/
theorem exists_files (hkinds : g.config.WellTyped) (hlenient : g.config.flag .strictTypes = false)
    (hdocs : (docPolicy g.config).Writes) (hunit : Succeeds g.config.indentUnit)
    (hending : g.config.setting .lineEnding = .text ending) (hne : ending ≠ "")
    {among : List Entity} (hrun : g.run among = .ok run) (he : ∀ e ∈ entities, e.WellTyped) :
    ∃ files : List (String × String), List.Forall₂ (fun e file =>
      g.filePath run e = .ok file.1 ∧ g.sourceOf run e = .ok file.2) entities files := by
  induction entities with
  | nil => exact ⟨[], .nil⟩
  | cons e rest ih =>
    obtain ⟨⟨path, hpath⟩, ⟨source, hsource⟩⟩ :=
      file_succeeds hkinds hlenient hrun hdocs hunit hending hne (he e List.mem_cons_self)
    obtain ⟨files, hfiles⟩ := ih fun d hd => he d (List.mem_cons_of_mem _ hd)
    exact ⟨(path, source) :: files, .cons ⟨hpath, hsource⟩ hfiles⟩

/-- **One file for each entity.** Let a configuration have settings of their kinds, without
warnings, lenient about types, with a line feed at the end of lines, alone or behind a carriage
return, and with an indentation that can be built. Over entities of their kinds a run fails for its
output just where two of them have the same place. Else it gives one file for each entity, in order,
at the path of the entity's place, and the file presents the entity. -/
theorem files_one_each (hkinds : g.config.WellTyped)
    (hlenient : g.config.flag .strictTypes = false)
    (hending : g.config.setting .lineEnding = .text ending)
    (hends : ending = "\n" ∨ ending = "\r\n") (hwarnings : g.config.warnings = .ok [])
    (hunit : Succeeds g.config.indentUnit) (he : ∀ e ∈ entities, e.WellTyped) :
    ∃ run, g.run entities = .ok run ∧
      ((∃ cause, g.files entities = .error (.output cause)) ↔
        ∃ a b, [a, b].Sublist entities ∧ run.SamePlace a b) ∧
      ((¬∃ a b, [a, b].Sublist entities ∧ run.SamePlace a b) →
        ∃ files, g.files entities = .ok files ∧ List.Forall₂ (fun e file => ∃ parts sheet,
          g.FileOf run e file parts sheet ∧ g.Presents run ending e file parts sheet)
            entities files) := by
  have hconfig := (Config.warnings_eq_nil_iff hkinds).1 hwarnings
  have hne : ending ≠ "" := by rcases hends with rfl | rfl <;> simp
  obtain ⟨width, hwidth⟩ := SettingKind.admits_number_iff.1 (hkinds .docWidth)
  have hdocs : (docPolicy g.config).Writes :=
    ⟨rfl, .inr ⟨width, hwidth, by have := hconfig.width width hwidth; omega⟩⟩
  obtain ⟨run, hrun⟩ := run_succeeds hkinds he
  have hnames := run_names_config hrun
  have hnameKinds : run.names.config.WellTyped := hnames ▸ hkinds
  have hnameConfig : run.names.config.Unremarkable := hnames ▸ hconfig
  obtain ⟨files, hfiles⟩ :=
    exists_files hkinds hlenient hdocs hunit hending hne hrun he
  have hrow : FileRow g run entities files :=
    (fileRow_iff_of_texts (fun e h => ownNames_texts (he e h)) (.refl _) fun _ _ _ _ => rfl).2
      hfiles
  have hplaces := nodup_paths_iff_places hnameKinds hnameConfig he (hfiles.imp fun _ _ h => h.1)
  have hall : g.files entities = .ok files ↔
      ¬∃ a b, [a, b].Sublist entities ∧ run.SamePlace a b := by
    rw [Generator.files, hrun, Result.ok_bind, filesFrom_ok_iff, ← hplaces]
    exact ⟨fun h => h.2.1, fun h => ⟨hrow, h, fun _ _ => rfl⟩⟩
  have hcases : g.files entities = .ok files ∨
      ∃ cause, g.files entities = .error (.output cause) := by
    rw [Generator.files, hrun]
    exact hrow.filesFrom_cases []
  refine ⟨run, hrun, ⟨?_, ?_⟩, fun hnone => ⟨files, hall.2 hnone, ?_⟩⟩
  · rintro ⟨cause, hcause⟩
    by_contra hnone
    rw [hall.2 hnone] at hcause
    cases hcause
  · intro hsome
    exact hcases.resolve_left fun hok => hall.1 hok hsome
  · refine hfiles.imp fun e file hfile => ?_
    obtain ⟨parts, sheet, hof⟩ := fileOf_of_ok hfile.1 hfile.2
    exact ⟨parts, sheet, hof, hof.presents hnameKinds hnameConfig hending hends⟩

/-- A table without members. -/
def tableOf (name schema : String) : Entity where
  name := .text name
  schema := .text schema

/-- The generator of interfaces with the default configuration. -/
def standardJava : Generator where
  target := .java
  config := .standard

/-- Two tables in different places, and two in the same place. -/
theorem tables_one_each :
    (∃ files, standardJava.files [tableOf "person" "hr", tableOf "product" "sales"] = .ok files ∧
      files.length = 2) ∧
    ∃ cause, standardJava.files [tableOf "home_address" "hr", tableOf "HomeAddress" "hr"] =
      .error (.output cause) := by
  have happly := fun entities (he : ∀ e ∈ entities, Entity.WellTyped e) =>
    files_one_each (g := standardJava) Config.standard_wellTyped rfl rfl (.inl rfl) rfl ⟨_, rfl⟩ he
  constructor
  · obtain ⟨run, hrun, -, hfiles⟩ :=
      happly [tableOf "person" "hr", tableOf "product" "sales"] (by decide)
    have hnames : run.names = { config := .standard, schemaPackages := true } :=
      Except.ok.inj ((run_ok_iff.1 hrun).1.symm.trans rfl)
    obtain ⟨files, hok, heach⟩ := hfiles fun ⟨a, b, hab, hsame⟩ => by
      cases hab.eq_of_length rfl
      have hinterfaces := congrArg Except.toOption hsame.2
      rw [hnames] at hinterfaces
      exact absurd hinterfaces (by decide +kernel)
    exact ⟨files, hok, heach.length_eq.symm⟩
  · obtain ⟨run, hrun, herror, -⟩ :=
      happly [tableOf "home_address" "hr", tableOf "HomeAddress" "hr"] (by decide)
    have hnames : run.names = { config := .standard, schemaPackages := false } :=
      Except.ok.inj ((run_ok_iff.1 hrun).1.symm.trans rfl)
    refine herror.2 ⟨_, _, .refl _, ?_⟩
    rw [Run.SamePlace, hnames]
    exact ⟨rfl, rfl⟩

/-- A generator of traits with getters only, without comments and markers, under an indentation. -/
def indentedTraits (size : Int) : Generator where
  target := .scala
  config := { setting := fun
    | .addComments => .bool false
    | .markGenerated => .bool false
    | .immutablePojos => .bool true
    | .indentSize => .int size
    | s => s.default }

/-- A table with a supertype of two lines, the first one with a blank at its end. -/
def brokenSupertype : Entity :=
  { tableOf "person" "hr" with supertypes := [.text "A \nB"] }

/-- That there is nothing to warn about is not enough. An indentation that cannot be built stops a
run over one table, and a blank at the end of a line of a header is lost. -/
theorem no_warning_not_enough :
    ((indentedTraits (Number.twoTo 63)).config.WellTyped ∧
      (indentedTraits (Number.twoTo 63)).config.flag .strictTypes = false ∧
      (indentedTraits (Number.twoTo 63)).config.setting .lineEnding = .text "\n" ∧
      (indentedTraits (Number.twoTo 63)).config.warnings = .ok [] ∧
      (tableOf "person" "hr").WellTyped ∧
      (indentedTraits (Number.twoTo 63)).files [tableOf "person" "hr"] =
        .error (.misuse .tooLarge)) ∧
    (indentedTraits 4).config.WellTyped ∧
      (indentedTraits 4).config.flag .strictTypes = false ∧
      (indentedTraits 4).config.setting .lineEnding = .text "\n" ∧
      (indentedTraits 4).config.warnings = .ok [] ∧ brokenSupertype.WellTyped ∧
      ∃ file, (indentedTraits 4).files [brokenSupertype] = .ok [file] ∧
        ¬(Dialect.traits.header "IPerson" ["A \nB"]).toList <:+: file.2.toList := by
  refine ⟨⟨by decide, rfl, rfl, rfl, by decide, rfl⟩, by decide, rfl, rfl, rfl, by decide, ?_⟩
  have hcheck : (((indentedTraits 4).files [brokenSupertype]).toOption.any fun files =>
      files.length == 1 && files.all fun file =>
        !decide ((Dialect.traits.header "IPerson" ["A \nB"]).toList <:+: file.2.toList)) = true :=
    by decide +kernel
  cases hfiles : (indentedTraits 4).files [brokenSupertype] with
  | error fault =>
    rw [hfiles] at hcheck
    cases hcheck
  | ok files =>
    rw [hfiles] at hcheck
    obtain ⟨hlength, hfile⟩ := Bool.and_eq_true_iff.1 hcheck
    obtain ⟨file, rfl⟩ := List.length_eq_one_iff.1 (beq_iff_eq.1 hlength)
    exact ⟨file, rfl, by simpa using hfile⟩

end TableInterfaces.Generator
