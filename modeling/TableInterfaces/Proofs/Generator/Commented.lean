import TableInterfaces.Proofs.Generator.Declared
import TableInterfaces.Proofs.Source.Commented

/-!
# Runs with and without comments

The setting for comments changes the comments of an interface and nothing else: names, types and
annotations do not read it. Main statement:

* `Generator.printed_commenting`: what is printed without comments is what is printed with them, but
  for the lines that start with a mark of comments.
-/

namespace TableInterfaces

open TableInterfaces.Comment
open TableInterfaces.Json
open TableInterfaces.Naming
open TableInterfaces.Source

/-! ## Comments switched on and off -/

/-- The configuration with comments or without. -/
def Config.commenting (c : Config) (on : Bool) : Config :=
  { c with setting := fun
    | .addComments => .bool on
    | s => c.setting s }

/-- The names under the configuration with comments or without. -/
def Naming.InterfaceNames.commenting (names : InterfaceNames) (on : Bool) : InterfaceNames :=
  { names with config := names.config.commenting on }

namespace Generator

/-- The generator with comments or without. -/
def commenting (g : Generator) (on : Bool) : Generator :=
  { g with config := g.config.commenting on }

/-- What a run knows under the configuration with comments or without. -/
def Run.commenting (run : Run) (on : Bool) : Run :=
  { run with names := run.names.commenting on }

variable {g : Generator} {entities : List Entity} {run : Run}

/-- A run with comments or without knows the same types and names. -/
theorem run_commenting (h : g.run entities = .ok run) (on : Bool) :
    (g.commenting on).run entities = .ok (run.commenting on) := by
  obtain ⟨hnames, hinterfaces, hoverrides, hdialect, hstrict, hfallback⟩ := run_ok_iff.1 h
  obtain ⟨hschemas, hnames⟩ := ofEntities_ok_iff.1 hnames
  refine run_ok_iff.2 ⟨ofEntities_ok_iff.2 ⟨hschemas, ?_⟩, ?_, hoverrides, hdialect, hstrict,
    hfallback⟩
  · rw [Run.commenting, hnames]
    rfl
  · exact (udtInterfacesFrom_congr (f := (·.commenting on)) (fun _ _ => rfl) (fun _ _ => rfl)
      run.names [] entities).trans hinterfaces

theorem behind_commenting (run : Run) (on : Bool) (front : List Entity) :
    (run.commenting on).behind front = (run.behind front).commenting on := by
  induction front generalizing run with
  | nil => rfl
  | cons e rest ih => exact ih (run.after e)

/-- The services with comments or without differ in their comments. -/
theorem services_commenting (g : Generator) (run : Run) (on : Bool) :
    (g.commenting on).services (run.commenting on) =
      (g.services run).withDocs (docService (docPolicy (g.config.commenting on))) := rfl

/-- A policy without comments leaves out those of a policy that can write them. -/
theorem docs_mute {bare full : DocPolicy} (hoff : bare.enabled = false) (hwrites : full.Writes) :
    (docService bare).Mutes (docService full) := by
  have hformat : ∀ text, Muted (bare.format text) (full.format text) := fun text => by
    obtain ⟨lines, hlines⟩ := hwrites.format text
    rw [DocPolicy.format_off hoff, hlines]
    exact .comment (DocPolicy.format_marked hwrites hlines)
  have hbanner : Muted (bare.banner copyTitle) (full.banner copyTitle) := by
    obtain ⟨lines, hlines⟩ := hwrites.banner copyTitle
    rw [DocPolicy.banner_off hoff, hlines]
    exact .comment (DocPolicy.banner_marked hwrites (by decide) hlines)
  have hentity : ∀ e, Muted (bare.entityDoc e) (full.entityDoc e) := fun e => by
    unfold DocPolicy.entityDoc
    split
    · cases spoken? e.comment with
      | error fault => exact .fault fault
      | ok comment => exact hformat _
    · exact hformat _
  exact ⟨hentity, hformat, hbanner⟩

/-- **Comments and nothing else.** Let a generator have a width above zero. In every state of a run
and in all modes, printing an entity without comments gives the same result as printing it with
them, or stops at the same fault. Both fill a sheet with the same scope, and with it the same
imports, and ask for the annotations of the same members. The lines without comments are those with
comments that do not start with one of their marks, at the same depths and in the same order, blank
lines aside. -/
theorem printed_commenting {width : Int} (hwidth : g.config.setting .docWidth = .int width)
    (hpositive : 1 ≤ width) (hrun : g.run entities = .ok run) (front : List Entity) (e : Entity)
    (immutable fluent : Bool) :
    ∃ known : Bool → Run, (∀ on, (g.commenting on).run entities = .ok (known on)) ∧
      let mode : Mode := ⟨immutable, fluent, g.target.dialect⟩
      let printed := fun on =>
        interfaceOf e mode ((g.commenting on).services ((known on).behind front))
      (printed false).1 = (printed true).1 ∧
      (printed false).2.sheet.scope = (printed true).2.sheet.scope ∧
      (printed false).2.annotated = (printed true).2.annotated ∧
      (printed false).2.sheet.lines.filter isFilled =
        (printed true).2.sheet.lines.filter isUncommented := by
  refine ⟨run.commenting, run_commenting hrun, ?_⟩
  simp only [behind_commenting, services_commenting]
  have hwrites : (docPolicy (g.config.commenting true)).Writes := docPolicy_writes hwidth hpositive
  have hmutes : (docService (docPolicy (g.config.commenting false))).Mutes
      (docService (docPolicy (g.config.commenting true))) := docs_mute rfl hwrites
  obtain ⟨hresult, hbares⟩ := interfaceOf_alike e ⟨immutable, fluent, g.target.dialect⟩ hmutes
    (services_prints g (run.behind front)) nofun
  exact ⟨hresult, hbares.scope, hbares.annotated, hbares.lines⟩

/-- The table whose comments look like declarations is printed with and without them. -/
theorem invoices_commenting : ∃ run, ledger.run [invoices] = .ok run ∧
    ∃ known : Bool → Run, (∀ on, (ledger.commenting on).run [invoices] = .ok (known on)) ∧
      let printed := fun on =>
        interfaceOf invoices ledger.mode ((ledger.commenting on).services (known on))
      (printed false).1 = (printed true).1 ∧
      (printed false).2.sheet.scope = (printed true).2.sheet.scope ∧
      (printed false).2.annotated = (printed true).2.annotated ∧
      (printed false).2.sheet.lines.filter isFilled =
        (printed true).2.sheet.lines.filter isUncommented := by
  have hkinds : ledger.config.WellTyped := by decide
  have hinvoices : invoices.WellTyped := by decide
  obtain ⟨run, hrun⟩ := run_succeeds (g := ledger) hkinds (List.forall_mem_singleton.2 hinvoices)
  have hwidth : (1 : Int) ≤ 80 := by decide
  exact ⟨run, hrun, printed_commenting rfl hwidth hrun [] invoices false false⟩

end Generator

end TableInterfaces
