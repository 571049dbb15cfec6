import TableInterfaces.Proofs.Comment.Doc
import TableInterfaces.Proofs.Config.Kinds
import TableInterfaces.Proofs.Generator.Files
import TableInterfaces.Proofs.Source.Modes

/-!
# Services that answer

Under a configuration whose settings are of their kinds the services of a run answer all that the
interface of an entity asks for, where names and comments of the entity are of their kinds, too.
Only the type of a member and the width of comments may stop the printing. Main statements:

* `Generator.docPolicy_cases`: all comments can be written, or none on any entity.
* `Generator.opens`: what stands in front of the members is known, unless the comment on the entity
  cannot be written.
* `Generator.interfaceParts_succeeds`: the whole interface is known where the types of all members
  are texts.
-/

namespace TableInterfaces

open TableInterfaces.Comment
open TableInterfaces.Json
open TableInterfaces.Jvm
open TableInterfaces.Naming
open TableInterfaces.Source

/-! ## Names -/

namespace Naming

namespace InterfaceNames

variable {names : InterfaceNames} {e : Entity} {m : Member}

/-- A text has a Pascal-case name. -/
theorem className_succeeds {name : Value} (h : name.kind = .text) :
    Succeeds (names.className name) := by
  cases name with
  | text s => exact .ok _
  | _ => cases h

theorem package_succeeds (hconfig : names.config.WellTyped) (he : e.schema.kind = .text) :
    Succeeds (names.package e) := by
  obtain ⟨base, hbase⟩ := SettingKind.admits_text_iff.1 (hconfig .packageName)
  have hsegments : Succeeds (names.segments e) := by
    unfold segments
    split
    · cases hs : e.schema with
      | text s => exact .ok _
      | _ => rw [hs] at he; cases he
    · exact .ok _
  unfold package
  exact hsegments.bind fun below _ => by rw [hbase]; exact .ok _

theorem interface_succeeds (he : e.name.kind = .text) : Succeeds (names.interface e) :=
  (className_succeeds he).bind fun _ _ => .ok _

theorem qualifiedInterface_succeeds (hconfig : names.config.WellTyped)
    (hs : e.schema.kind = .text) (hn : e.name.kind = .text) :
    Succeeds (names.qualifiedInterface e) :=
  (package_succeeds hconfig hs).bind fun _ _ =>
    (interface_succeeds hn).bind fun _ _ => .ok _

theorem accessor_succeeds (verb : String) (h : m.name.kind = .text) :
    Succeeds (names.accessor verb m) :=
  (className_succeeds h).bind fun _ _ => .ok _

/-- A member that has one accessor has the other one, too. -/
theorem accessor_other {verb : String} (h : Succeeds (names.accessor verb m)) (other : String) :
    Succeeds (names.accessor other m) := by
  obtain ⟨accessor, h⟩ := h
  obtain ⟨name, hname, -⟩ := Result.ok_of_bind h
  exact Succeeds.bind ⟨name, hname⟩ fun _ _ => .ok _

/-- The supertypes of an entity are texts. -/
theorem supertypes_succeeds (hconfig : names.config.WellTyped)
    (he : ∀ v ∈ e.supertypes, v.kind = .text) :
    ∃ values, names.supertypes e = .ok values ∧ Succeeds (values.mapM typeText) := by
  obtain ⟨configured, hset, htexts⟩ :=
    SettingKind.admits_texts_iff.1 (hconfig .interfaceImplements)
  refine ⟨distinct (e.supertypes ++ configured), by rw [supertypes, hset]; rfl,
    Succeeds.mapM fun v hv => ?_⟩
  have hkind : v.kind = .text :=
    (List.mem_append.1 (mem_of_mem_distinct hv)).elim (he v) (htexts v)
  cases v with
  | text s => exact .ok s
  | _ => cases hkind

end InterfaceNames

end Naming

/-! ## Annotations -/

namespace Jvm.AnnotationPolicy

variable {policy : AnnotationPolicy} {e : Entity} {m : Member}

/-- A text has a literal. -/
theorem literalOf_succeeds {v : Value} (h : v.kind = .text) : Succeeds (literalOf v) := by
  cases v with
  | text s => exact .ok _
  | _ => cases h

/-- The annotations of an interface are known where name and schema are texts. -/
theorem entityMarks_succeeds (hn : e.name.kind = .text) (hs : e.schema.kind = .text) :
    Succeeds (policy.entityMarks e) := by
  have harguments : Succeeds (tableArguments e) := by
    unfold tableArguments
    refine (literalOf_succeeds hn).bind fun _ _ => ?_
    split
    · exact (literalOf_succeeds hs).bind fun _ _ => .ok _
    · exact .ok _
  unfold entityMarks
  split
  · exact (harguments.bind fun _ _ => .ok _).bind fun _ _ => .ok _
  · exact .ok _

/-- The annotations of a getter are known where the name of the member is a text. -/
theorem memberMarks_succeeds (h : m.name.kind = .text) : Succeeds (policy.memberMarks e m) := by
  have hcolumn : Succeeds (policy.columnMarks m) :=
    ((literalOf_succeeds h).bind fun _ _ => .ok _).bind fun _ _ => .ok _
  unfold memberMarks
  cases policy.config.flag .jpaAnnotations && e.isTable && m.isColumn with
  | true => exact hcolumn.bind fun _ _ => .ok _
  | false => exact .ok _

end Jvm.AnnotationPolicy

/-! ## Comments -/

namespace Generator

/-- With a width above zero all comments can be written. -/
theorem docPolicy_writes {c : Config} {width : Int} (hwidth : c.setting .docWidth = .int width)
    (h : 1 ≤ width) : (docPolicy c).Writes :=
  ⟨rfl, .inr ⟨width, hwidth, h⟩⟩

/-- All comments of an interface can be written, or the comment on an entity never can. -/
theorem docPolicy_cases {c : Config} (h : c.WellTyped) :
    (docPolicy c).Writes ∨ ∀ e, ∃ fault, (docPolicy c).entityDoc e = .error fault := by
  obtain ⟨n, hwidth⟩ := SettingKind.admits_number_iff.1 (h .docWidth)
  cases hon : (docPolicy c).enabled with
  | false => exact .inl ⟨rfl, .inl hon⟩
  | true =>
    by_cases hn : 0 < n
    · exact .inl (docPolicy_writes hwidth hn)
    · exact .inr fun e => DocPolicy.entityDoc_error rfl hon hwidth (Int.not_lt.1 hn) e

section

variable {g : Generator} {run : Run} {e : Entity} {m : Member}

/-- The comment on an accessor can be written. -/
theorem accessorDoc_succeeds (hdocs : (docPolicy g.config).Writes) (title : String)
    (hm : IsComment m.comment) : Succeeds (accessorDoc (g.services run).docs title m) :=
  (describe_succeeds _ hm).bind fun _ _ => hdocs.format _

/-- The setter of a member is known. -/
theorem setterParts_succeeds (hdocs : (docPolicy g.config).Writes) (hm : m.WellTyped) :
    Succeeds (setterParts e (g.services run) m) :=
  (accessorDoc_succeeds hdocs _ hm.comment).bind fun _ _ =>
    (InterfaceNames.accessor_succeeds "set" hm.name).bind fun _ _ => .ok _

/-- The getter of a member is known. -/
theorem getterParts_succeeds (hdocs : (docPolicy g.config).Writes) (hm : m.WellTyped) :
    Succeeds (getterParts e (g.services run) g.marks m) :=
  (accessorDoc_succeeds hdocs _ hm.comment).bind fun _ _ =>
    (AnnotationPolicy.memberMarks_succeeds hm.name).bind fun _ _ =>
      (InterfaceNames.accessor_succeeds "get" hm.name).bind fun _ _ => .ok _

/-- A member is known if its type is. -/
theorem memberParts_succeeds {mode : Mode} (hdocs : (docPolicy g.config).Writes)
    (hm : m.WellTyped) (htype : Succeeds ((g.services run).typeOf e m >>= typeText)) :
    Succeeds (memberParts e mode (g.services run) g.marks m) := by
  obtain ⟨text, htext⟩ := htype
  obtain ⟨type, htype, htext⟩ := Result.ok_of_bind htext
  unfold memberParts
  rw [htype, Result.ok_bind, htext, Result.ok_bind]
  have hgetter : Succeeds (getterParts e (g.services run) g.marks m) :=
    getterParts_succeeds hdocs hm
  cases mode.immutable with
  | true => exact hgetter.bind fun _ _ => .ok _
  | false =>
    exact ((setterParts_succeeds hdocs hm).map some).bind fun _ _ => hgetter.bind fun _ _ => .ok _

/-- The copy methods are known. -/
theorem copyParts_succeeds (hdocs : (docPolicy g.config).Writes) (interface : String) :
    Succeeds (copyParts (g.services run) interface) :=
  (hdocs.banner _).bind fun _ _ => (hdocs.format _).bind fun _ _ =>
    (hdocs.format _).bind fun _ _ => .ok _

/-- What stands in front of the members of an interface is known if the comment on the entity is. -/
theorem opens (hnames : run.names.config.WellTyped) (he : e.WellTyped)
    (hdoc : Succeeds ((docPolicy g.config).entityDoc e)) (dialect : Dialect) :
    ∃ parts : InterfaceParts, parts.Opens e dialect (g.services run) g.marks := by
  obtain ⟨package, hpackage⟩ := InterfaceNames.package_succeeds hnames he.schema
  obtain ⟨interface, hinterface⟩ : Succeeds (run.names.interface e) :=
    InterfaceNames.interface_succeeds he.name
  obtain ⟨qualified, hqualified⟩ :=
    InterfaceNames.qualifiedInterface_succeeds hnames he.schema he.name
  obtain ⟨values, hvalues, htexts⟩ := InterfaceNames.supertypes_succeeds hnames he.supertypes
  have hhead : Succeeds (headParts e (g.services run) g.marks) := by
    refine hdoc.bind fun _ _ => (AnnotationPolicy.entityMarks_succeeds he.name he.schema).bind
      fun _ _ => ?_
    change Succeeds (run.names.supertypes e >>= _)
    rw [hvalues, Result.ok_bind]
    exact htexts.bind fun _ _ => .ok _
  obtain ⟨head, hhead⟩ := hhead
  have hbuilder : Succeeds (builderParts e dialect (g.services run)) := by
    unfold builderParts
    split
    · exact Succeeds.bind (.ok _) fun _ _ =>
        ((InterfaceNames.interface_succeeds he.name).bind fun _ _ => .ok _).bind fun _ _ => .ok _
    · exact .ok _
  obtain ⟨builder, hbuilder⟩ := hbuilder
  exact ⟨⟨package, interface, qualified, head, builder, [], none, []⟩, hpackage, hinterface,
    hqualified, hhead, hbuilder⟩

/-- An interface is known if the comment on its entity and the types of its members are. -/
theorem interfaceParts_succeeds (hnames : run.names.config.WellTyped) (he : e.WellTyped)
    (hdocs : (docPolicy g.config).Writes) (mode : Mode)
    (htypes : ∀ m ∈ e.members, Succeeds ((g.services run).typeOf e m >>= typeText)) :
    Succeeds (interfaceParts e mode (g.services run) g.marks) := by
  obtain ⟨opening, ho⟩ := opens hnames he (hdocs.entityDoc he.comment) mode.dialect
  exact ho.succeeds
    (Succeeds.mapM fun m hm => memberParts_succeeds hdocs (he.members m hm) (htypes m hm))
    (copyParts_succeeds hdocs _)

end

end Generator

end TableInterfaces
