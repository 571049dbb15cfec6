import TableInterfaces.Proofs.Generator.Modes
import TableInterfaces.Proofs.Generator.Run
import TableInterfaces.Proofs.Naming.Interface
import TableInterfaces.Proofs.Source.Code

/-!
# What an interface declares

The code of a printed interface is its declarations, in the order of the entity. Comments and
annotations stand between them and are never taken for one, whatever text they hold. Main statement:

* `Generator.code_printed`: what is printed of an interface declares the whole of it, or the members
  in front of one whose type has no place in a strict run.
-/

namespace TableInterfaces

open TableInterfaces.Comment
open TableInterfaces.Json
open TableInterfaces.Jvm
open TableInterfaces.Naming
open TableInterfaces.Source

/-- Supertypes that can be printed are texts: those of the entity in front of those of the
configuration, once each. -/
theorem Naming.InterfaceNames.supertypes_once {names : InterfaceNames} {e : Entity}
    {texts : List String} (h : names.supertypes e = .ok (texts.map Value.text)) :
    ∃ declared configured : List String, e.supertypes = declared.map Value.text ∧
      (names.config.setting .interfaceImplements).elements = .ok (configured.map Value.text) ∧
      texts = (declared ++ configured).eraseDups := by
  obtain ⟨configured, hconfigured, h⟩ := Result.ok_of_bind h
  have hdistinct : distinct (e.supertypes ++ configured) = texts.map Value.text := Except.ok.inj h
  -- what is left out equals a text that remains, so it is one itself
  have hkinds : ∀ v ∈ e.supertypes ++ configured, v.kind = .text :=
    texts_of_distinct fun v hv => by
      obtain ⟨s, -, rfl⟩ := List.mem_map.1 (hdistinct ▸ hv)
      rfl
  obtain ⟨declared, hdeclared⟩ := exists_texts fun v hv => hkinds v (List.mem_append_left _ hv)
  obtain ⟨others, hothers⟩ := exists_texts fun v hv => hkinds v (List.mem_append_right _ hv)
  refine ⟨declared, others, hdeclared, hothers ▸ hconfigured, ?_⟩
  rw [hdeclared, hothers, ← List.map_append, distinct_texts] at hdistinct
  exact (List.map_injective_iff.2 (fun _ _ => Value.text.inj) hdistinct).symm

namespace Generator

variable {g : Generator} {entities : List Entity} {run : Run} {e : Entity}

/-- Comments that can be written start with marks of comments on all their lines. -/
theorem docs_marked (h : (docPolicy g.config).Writes) (run : Run) :
    (g.services run).docs.Marked where
  entityDoc := DocPolicy.entityDoc_marked h
  format := DocPolicy.format_marked h
  banner := DocPolicy.banner_marked h (by decide)

/-- The declarations of an interface with the accessors of some members are as a run names and types
them, with types printed by `print`. Each supertype of the entity and of the configuration stands
once, in the order of their first places. -/
structure Declares (g : Generator) (run : Run) (e : Entity) (mode : Mode)
    (print : String → String) (members : List Member) (code : InterfaceCode) : Prop where
  describes : code.Describes e mode (g.services run) print members
  supertypes : ∃ declared configured : List String, e.supertypes = declared.map Value.text ∧
    (g.config.setting .interfaceImplements).elements = .ok (configured.map Value.text) ∧
    code.supertypes = (declared ++ configured).eraseDups.map print

/-- Declarations are those of a run if the services of the run say so. -/
theorem declares_of_describes (hnames : run.names.config = g.config) {mode : Mode}
    {print : String → String} {members : List Member} {code : InterfaceCode}
    (h : code.Describes e mode (g.services run) print members) :
    g.Declares run e mode print members code := by
  obtain ⟨texts, htexts, hcode⟩ := h.supertypes
  obtain ⟨declared, configured, hdeclared, hconfigured, rfl⟩ :=
    InterfaceNames.supertypes_once htexts
  exact ⟨h, declared, configured, hdeclared, hnames ▸ hconfigured, hcode⟩

/-- An interface of values of their kinds that is not printed to its end stops at a member whose
type has no place, and declares the members in front of it. -/
theorem code_stopped (hkinds : g.config.WellTyped) (hdocs : (docPolicy g.config).Writes)
    (hnames : run.names.config = g.config)
    (htypes : ∀ m, Succeeds ((g.services run).typeOf e m >>= typeText) ∨
      ∃ fault, (g.services run).typeOf e m = .error fault)
    (he : e.WellTyped) {mode : Mode} {fault : Fault}
    (h : interfaceParts e mode (g.services run) g.marks = .error fault) :
    ∃ before m after fault code, e.members = before ++ m :: after ∧
      (g.services run).typeOf e m = .error fault ∧
      (interfaceOf e mode (g.services run)).1 = .error fault ∧
      let sheet := (interfaceOf e mode (g.services run)).2.sheet
      g.Declares run e mode sheet.scope.print before code ∧
      codeOf sheet.lines = code.begun mode := by
  obtain ⟨opening, ho⟩ :=
    opens (g := g) (hnames ▸ hkinds) he (hdocs.entityDoc he.comment) mode.dialect
  rcases Result.mapM_cases (memberParts e mode (g.services run) g.marks) e.members with
    ⟨members, hmembers⟩ | ⟨before, m, after, parts, cause, hsplit, hbefore, hm, -⟩
  · obtain ⟨parts, hparts⟩ := ho.succeeds ⟨members, hmembers⟩ (copyParts_succeeds hdocs _)
    exact absurd (h.symm.trans hparts) (by simp)
  · have hmem : m ∈ e.members := hsplit ▸ List.mem_append_right _ List.mem_cons_self
    rcases htypes m with htext | ⟨stop, htype⟩
    · obtain ⟨part, hpart⟩ : Succeeds (memberParts e mode (g.services run) g.marks m) :=
        memberParts_succeeds hdocs (he.members m hmem) htext
      exact absurd (hm.symm.trans hpart) (by simp)
    · have hstop : ((g.services run).typeOf e m >>= typeText) = .error stop := by
        rw [htype]
        rfl
      have hprinted := interfaceOf_of_front mode (services_prints g run) ho hsplit hbefore hstop
      rw [hprinted]
      obtain ⟨code, hdescribes, -, -, hcode⟩ := codeOf_begun (docs_marked hdocs run) ho hbefore _
      exact ⟨before, m, after, stop, code, hsplit, htype, rfl,
        declares_of_describes hnames hdescribes, hcode⟩

/-- **What an interface declares.** Let the settings of a generator be of their kinds, with a width
above zero. In every state of a run and in all modes, what is printed of an entity comes to one of
three things once blank lines, comments and annotations are dropped by how they start:

* the whole interface: the package line, the header, the stub of the builder in the dialect of
  interfaces, for each member its setter (unless the interface has getters only) and its getter, the
  copy methods (under the same condition), and the closing brace;
* in a strict run, the same up to a member whose type has no place, at which printing stops;
* whatever was printed before a fault, where the entity has a name, a comment or a supertype of a
  kind that cannot be printed. -/
theorem code_printed (hkinds : g.config.WellTyped) {width : Int}
    (hwidth : g.config.setting .docWidth = .int width) (hpositive : 1 ≤ width)
    (hrun : g.run entities = .ok run) (front : List Entity) (e : Entity)
    (immutable fluent : Bool) :
    let mode : Mode := ⟨immutable, fluent, g.target.dialect⟩
    let printed := interfaceOf e mode (g.services (run.behind front))
    let sheet := printed.2.sheet
    let print := sheet.scope.print
    (printed.1 = .ok () ∧ ∃ code, g.Declares (run.behind front) e mode print e.members code ∧
      codeOf sheet.lines = code.lines mode) ∨
    (∃ before m after reason code, e.members = before ++ m :: after ∧
      g.config.flag .strictTypes = true ∧ run.types.place m.type = .error reason ∧
      printed.1 = .error (.unmappedType (TypeMap.subject m) reason) ∧
      g.Declares (run.behind front) e mode print before code ∧
      codeOf sheet.lines = code.begun mode) ∨
    ¬e.WellTyped ∧ ∃ fault, printed.1 = .error fault := by
  intro mode printed sheet print
  have hdocs := docPolicy_writes hwidth hpositive
  have hprints := services_prints g (run.behind front)
  have hnames : (run.behind front).names.config = g.config :=
    (run.behind_names front).config.trans (run_names_config hrun)
  rcases hparts : interfaceParts e mode (g.services (run.behind front)) g.marks with fault | parts
  · by_cases he : e.WellTyped
    · have htypeOf : (g.services (run.behind front)).typeOf = (g.services run).typeOf := by
        rw [services, services, run.behind_types]
      have htypes := typeOf_cases hkinds hrun e
      rw [← htypeOf] at htypes
      obtain ⟨before, m, after, stop, code, hsplit, htype, hstop, hcode⟩ :=
        code_stopped hkinds hdocs hnames
          (fun m => (htypes m).imp_right fun ⟨_, _, _, h⟩ => ⟨_, h⟩) he hparts
      rcases htypes m with ⟨text, htext⟩ | ⟨hstrict, reason, hplace, hreason⟩
      · rw [htype] at htext
        cases htext
      · cases htype.symm.trans hreason
        exact .inr (.inl ⟨before, m, after, reason, code, hsplit, hstrict, hplace, hstop, hcode⟩)
    · exact .inr (.inr ⟨he, fault, interfaceOf_error hprints hparts⟩)
  · have hprinted : printed = (.ok (), parts.progress mode) := interfaceOf_of_parts hprints hparts
    obtain ⟨code, hdescribes, hcode⟩ :=
      codeOf_interface (docs_marked hdocs (run.behind front)) rfl hparts print
    refine .inl ⟨by rw [hprinted], code, declares_of_describes hnames hdescribes, ?_⟩
    rw [← hcode]
    simp only [sheet, print, hprinted]
    rfl

/-- A table whose comments look like declarations, and that names a supertype twice. -/
def invoices : Entity where
  name := .text "invoice"
  schema := .text "sales"
  comment := .text "Closed by \x7d\n@Deprecated\npublic void from(Invoice from);"
  members := [
    { name := .text "id", qualifiedName := "sales.invoice.id", position := 1
      type := { name := "integer" }, primaryKey := .bool true },
    { name := .text "note", qualifiedName := "sales.invoice.note", position := 2
      type := { name := "text" }, comment := .text "def note : String\n\x7d" }]
  supertypes := [.text "java.io.Serializable", .text "java.io.Serializable"]

/-- A generator of annotated interfaces that have a supertype of their own. -/
def ledger : Generator where
  target := .java
  config := { setting := fun
    | .interfaceImplements => .list [.text "org.ledger.Dated", .text "java.io.Serializable"]
    | .jpaAnnotations => .bool true
    | s => s.default }

/-- The table declares what it should, with two supertypes. -/
theorem invoices_code : ∃ run, ledger.run [invoices] = .ok run ∧
    let printed := interfaceOf invoices ledger.mode (ledger.services run)
    let sheet := printed.2.sheet
    let print := sheet.scope.print
    printed.1 = .ok () ∧ ∃ code,
      ledger.Declares run invoices ledger.mode print invoices.members code ∧
      code.supertypes = [print "java.io.Serializable", print "org.ledger.Dated"] ∧
      codeOf sheet.lines = code.lines ledger.mode := by
  have hkinds : ledger.config.WellTyped := by decide
  have hinvoices : invoices.WellTyped := by decide
  obtain ⟨run, hrun⟩ := run_succeeds (g := ledger) hkinds (List.forall_mem_singleton.2 hinvoices)
  refine ⟨run, hrun, ?_⟩
  rcases code_printed hkinds rfl (by decide : (1 : Int) ≤ 80) hrun [] invoices false false with
    ⟨hprinted, code, hdeclares, hcode⟩ | ⟨_, _, _, _, _, -, hstrict, -⟩ | ⟨hill, -⟩
  · refine ⟨hprinted, code, hdeclares, ?_, hcode⟩
    obtain ⟨declared, configured, hdeclared, hconfigured, hsupertypes⟩ := hdeclares.supertypes
    have hinjective : Function.Injective (List.map Value.text) :=
      List.map_injective_iff.2 fun _ _ => Value.text.inj
    have hrow : declared = ["java.io.Serializable", "java.io.Serializable"] :=
      hinjective hdeclared.symm
    have hothers : configured = ["org.ledger.Dated", "java.io.Serializable"] :=
      hinjective (Except.ok.inj hconfigured).symm
    rw [hsupertypes, hrow, hothers]
    rfl
  · cases hstrict
  · exact absurd hinvoices hill

end Generator

end TableInterfaces
