import TableInterfaces.Generator.Output
import TableInterfaces.Proofs.Generator.Collision
import TableInterfaces.Proofs.Generator.FileRow
import TableInterfaces.Proofs.Generator.Path
import TableInterfaces.Proofs.Storage.Below

/-!
# Files below the output directory

The path of a file is made of the package and the start of interface names as they are configured,
and both may hold slashes. `Confined` says when they keep a file below the output directory,
whatever it is. Main statements:

* `Generator.files_below_iff`: all files of a run lie below every output directory just where the
  package of each entity and the start of interface names are confined.
* `Generator.files_below`: they do under a configuration without warnings.
-/

namespace TableInterfaces

open TableInterfaces.Naming
open TableInterfaces.Storage
open TableInterfaces.Text

/-- The files that are written are those of the run, each at its path behind the directory. -/
theorem Output.writeEach_ok {write : FileTree → Path → String → FileTree × Result Unit}
    {tree tree' : FileTree} {directory : Path} {files : List (String × String)}
    {written : List (String × Path)}
    (h : writeEach write tree directory files = (tree', .ok written)) :
    written = files.map fun file => (file.1, directory.append file.1) := by
  induction files generalizing tree tree' written with
  | nil =>
    cases h
    rfl
  | cons file rest ih =>
    obtain ⟨relative, text⟩ := file
    rw [writeEach] at h
    rcases hfile : write tree (directory.append relative) text with ⟨after, _ | _⟩
    · simp only [hfile, Prod.mk.injEq, reduceCtorEq, and_false] at h
    · rcases hlater : writeEach write after directory rest with ⟨last, _ | later⟩
      · simp only [hfile, hlater, Except.map, Prod.mk.injEq, reduceCtorEq, and_false] at h
      · simp only [hfile, hlater, Except.map, Prod.mk.injEq, Except.ok.injEq] at h
        rw [← h.2, List.map_cons, ih hlater]

namespace Generator

/-- The directories of a package: its parts between dots, cut at slashes. -/
def packageDirectories (package : String) : List String :=
  (splitAtChar '.' package).flatMap Path.splitPart

/-- A package and a start of interface names that keep a file below every directory: no part of the
package and no interface name begins at a root, and the start leads out of no more directories than
the package has. -/
structure Confined (package start : String) : Prop where
  parts : ∀ part ∈ splitAtChar '.' package, Path.rootOf part = ""
  interface : Path.rootOf start = ""
  climbing : climbs 0 (Path.directoriesOf start) ≤ (packageDirectories package).length

/-- No directory of a package leads up. -/
theorem dots_notMem_packageDirectories (package : String) :
    ".." ∉ packageDirectories package := by
  intro hmem
  obtain ⟨part, hpart, hmem⟩ := List.mem_flatMap.1 hmem
  obtain ⟨chars, hchars, heq⟩ := List.mem_map.1 (List.mem_filter.1 hmem).1
  have hdot : '.' ∈ chars := by
    rw [← String.toList_ofList (l := chars), heq]
    decide
  exact notMem_of_mem_splitAtChar hpart (mem_of_mem_splitOn hchars hdot)

variable {g : Generator} {run : Run} {e : Entity} {entities : List Entity}
  {files : List (String × String)}

/-- A text in front of names begins at a root only if it does so itself. -/
theorem rootOf_append {name : String} (hslash : '/' ∉ name.toList) (start : String) :
    Path.rootOf (start ++ name) = "" ↔ Path.rootOf start = "" := by
  rw [Path.rootOf_eq_empty_iff, Path.rootOf_eq_empty_iff, String.toList_append]
  cases start.toList with
  | cons c rest => rfl
  | nil =>
    refine iff_of_true (fun hhead => ?_) (by simp)
    obtain ⟨rest, hname⟩ := List.head?_eq_some_iff.1 hhead
    exact hslash (by rw [show name.toList = _ from hname]; exact List.mem_cons_self)

/-- The path of a file stays below every directory just where its package and the start of its
interface name are confined. -/
theorem filePath_below_iff {path : String} (h : g.filePath run e = .ok path) :
    ∃ package, run.names.package e = .ok package ∧
      ((∀ directory : String,
        ((Path.ofText directory).append path).LiesBelow (Path.ofText directory)) ↔
          Confined package (run.names.config.label .interfaceStart)) := by
  obtain ⟨package, hpackage, h⟩ := Result.ok_of_bind h
  obtain ⟨interface, hinterface, h⟩ := Result.ok_of_bind h
  cases h
  refine ⟨package, hpackage, ?_⟩
  -- behind the configured start of its name a file has a name without slashes
  let start := run.names.config.label .interfaceStart
  let name := jvmWords.sanitize e.name.display "_" ++ g.target.extension
  have hfile : interface ++ g.target.extension = start ++ name := by
    rw [InterfaceNames.interface_ok hinterface, InterfaceNames.interfaceText, String.append_assoc]
  obtain ⟨hextension, hletter⟩ := extension_chars g.target
  have hslash : '/' ∉ name.toList := by
    rw [String.toList_append, List.mem_append, not_or]
    exact ⟨fun hc => absurd (jvmWords.sanitize_chars e.name.display _ hc) (by decide), hextension⟩
  have hmem : 'a' ∈ name.toList := by
    rw [String.toList_append]
    exact List.mem_append_right _ hletter
  obtain ⟨last, hsplit, hlast⟩ := Path.splitPart_append hslash (show 'a' ≠ '.' by decide) hmem start
  have hcomponents : (splitAtChar '.' package ++ [start ++ name]).flatMap Path.splitPart =
      packageDirectories package ++ Path.directoriesOf start ++ [last] := by
    rw [List.flatMap_append, List.flatMap_singleton, hsplit, List.append_assoc]
    rfl
  rw [hfile, Path.liesBelow_iff hcomponents hlast, List.forall_mem_append,
    List.forall_mem_singleton,
    rootOf_append hslash, climbs_append (dots_notMem_packageDirectories package), climbs_add,
    Nat.sub_eq_zero_iff_le]
  exact ⟨fun h => ⟨h.1.1, h.1.2, h.2⟩, fun h => ⟨⟨h.parts, h.interface⟩, h.climbing⟩⟩

/-- The files of a row stay below every directory just where the package of each entity and the
start of interface names are confined. -/
theorem FileRow.below_iff (h : FileRow g run entities files) :
    (∀ file ∈ files, ∀ directory : String,
      ((Path.ofText directory).append file.1).LiesBelow (Path.ofText directory)) ↔
        ∀ e ∈ entities, ∀ package, run.names.package e = .ok package →
          Confined package (run.names.config.label .interfaceStart) := by
  induction h with
  | nil => simp
  | @cons run e path source rest files hpath hsource hrest ih =>
    obtain ⟨package, hpackage, hbelow⟩ := filePath_below_iff hpath
    have hagree : run.names.Agree (run.after e).names := InterfaceNames.Agree.remember _ _
    rw [List.forall_mem_cons, List.forall_mem_cons, ih, hagree.config]
    refine and_congr (hbelow.trans ⟨fun hconfined package' hpackage' => ?_, fun hconfined =>
      hconfined package hpackage⟩) (forall_congr' fun d => by rw [hagree.package_eq])
    cases hpackage.symm.trans hpackage'
    exact hconfined

/-- **When all files stay below.** Let a run give files. Writing them below a directory, where it
succeeds, puts each at its path behind the directory. These paths lie below the directory, whatever
it is, just where the package of each entity and the start of interface names are confined. -/
theorem files_below_iff (h : g.files entities = .ok files) :
    (∀ tree directory tree' written,
      Output.writeFiles tree directory files = (tree', .ok written) →
        written = files.map fun file => (file.1, directory.append file.1)) ∧
    ∃ run, g.run entities = .ok run ∧
      ((∀ directory : String, ∀ file ∈ files,
        ((Path.ofText directory).append file.1).LiesBelow (Path.ofText directory)) ↔
          ∀ e ∈ entities, ∀ package, run.names.package e = .ok package →
            Confined package (g.config.label .interfaceStart)) := by
  refine ⟨fun _ _ _ _ => Output.writeEach_ok, ?_⟩
  obtain ⟨run, hrun, hfiles⟩ := Result.ok_of_bind h
  have hrow := (filesFrom_ok_iff.1 hfiles).1.below_iff
  rw [run_names_config hrun] at hrow
  refine ⟨run, hrun, Iff.trans ⟨fun hbelow file hfile directory => hbelow directory file hfile,
    fun hbelow directory file hfile => hbelow file hfile directory⟩ hrow⟩

/-- A generator of interfaces with the default configuration but for the start of interface names.
-/
def startingWith (start : String) : Generator where
  target := .java
  config := { setting := fun
    | .interfaceStart => .text start
    | s => s.default }

/-- A start that leads up once more than the package has directories puts the file beside the output
directory. -/
theorem table_beside : ∃ files,
    (startingWith "../../../../../../I").files [tableOf "person" "hr"] = .ok files ∧
      ¬ ∀ directory : String, ∀ file ∈ files,
        ((Path.ofText directory).append file.1).LiesBelow (Path.ofText directory) := by
  have hdocs : (docPolicy (startingWith "../../../../../../I").config).Writes :=
    docPolicy_writes rfl (by decide : (1 : Int) ≤ 80)
  obtain ⟨file, hfiles⟩ := files_singleton (g := startingWith "../../../../../../I") (by decide) rfl
    hdocs ⟨_, rfl⟩ rfl (by decide : "\n" ≠ "") (by decide : (tableOf "person" "hr").WellTyped)
  obtain ⟨-, run, hrun, hbelow⟩ := files_below_iff hfiles
  have hnames := Except.ok.inj ((run_ok_iff.1 hrun).1.symm.trans rfl)
  refine ⟨[file], hfiles, fun hall => ?_⟩
  have hconfined := hbelow.1 hall _ List.mem_cons_self _ (by rw [hnames]; rfl)
  exact absurd hconfined.climbing (by decide +kernel)

/-- Under a configuration without warnings packages and interface names are confined. -/
theorem confined_of_unremarkable (hkinds : run.names.config.WellTyped)
    (hconfig : run.names.config.Unremarkable) {package : String}
    (hpackage : run.names.package e = .ok package) :
    Confined package (run.names.config.label .interfaceStart) := by
  obtain ⟨start, hstart⟩ := SettingKind.admits_text_iff.1 (hkinds .interfaceStart)
  have hlabel : run.names.config.label .interfaceStart = start := by rw [Config.label, hstart]; rfl
  have hslash : '/' ∉ start.toList := by
    rcases hconfig.interfaceStart start hstart with rfl | hidentifier
    · simp
    · exact (IsPart.of_isIdentifier hidentifier).not_mem rfl
  rw [hlabel]
  refine ⟨fun part hpart => ?_, Path.rootOf_eq_empty hslash, ?_⟩
  · have hplain := ((InterfaceNames.package_parts hkinds hconfig hpackage).2 part hpart).plain
    exact Path.rootOf_eq_empty hplain.slash
  · have hwhole : splitAtChar '/' start = [start] := by
      have hpieces := splitAtChar_intercalate (List.forall_mem_singleton.2 hslash)
        (List.cons_ne_nil _ _)
      rwa [String.intercalate_singleton] at hpieces
    rw [Path.directoriesOf, hwhole]
    exact Nat.zero_le _

/-- **No file leaves the output directory.** Under a configuration without warnings all files of a
run lie below every output directory. -/
theorem files_below (hkinds : g.config.WellTyped) (hconfig : g.config.Unremarkable)
    (h : g.files entities = .ok files) (directory : String) : ∀ file ∈ files,
      ((Path.ofText directory).append file.1).LiesBelow (Path.ofText directory) := by
  obtain ⟨run, hrun, hfiles⟩ := Result.ok_of_bind h
  have hnames := run_names_config hrun
  have hrow := (filesFrom_ok_iff.1 hfiles).1.below_iff
  exact fun file hfile => hrow.2 (fun e _ package hpackage =>
    confined_of_unremarkable (hnames ▸ hkinds) (hnames ▸ hconfig) hpackage) file hfile directory

end Generator

end TableInterfaces
