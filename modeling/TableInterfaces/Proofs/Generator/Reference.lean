import TableInterfaces.Proofs.Entity.Document
import TableInterfaces.Proofs.Generator.Files

/-!
# References to UDTs

Three computations read the names of UDTs: loading resolves a reference to a lower-case name, the
map of types gives the interface for that name, and the file of the UDT prints the interface under
its own package. Main statements:

* `Generator.udtInterfaces_lookup`: the map of types gives the interface of the last UDT that a
  reference may mean.
* `Generator.references_generated`: in a run over loaded entities every reference is mapped to the
  interface that the file of one of its UDTs shows, and no reference is reported as unknown.
-/

namespace TableInterfaces.Generator

open TableInterfaces.Document
open TableInterfaces.Json
open TableInterfaces.Jvm
open TableInterfaces.Naming
open TableInterfaces.Source

/-! ## The map of types -/

/-- The UDTs that a name may mean in a list, its first entity apart. -/
theorem referents_cons (e : Entity) (rest : List Entity) (name : String) :
    referents (e :: rest) name =
      if e.isTable = false ∧ Text.lower e.title = name then e :: referents rest name
      else referents rest name := by
  simp [referents, List.filter_cons]

/-- The interfaces of UDTs by name: a name is that of the last UDT which it may mean, or else known
from before. -/
theorem udtInterfacesFrom_lookup {names : InterfaceNames} {known result : List (String × String)}
    {entities : List Entity} (h : udtInterfacesFrom names known entities = .ok result)
    (name : String) :
    (referents entities name = [] ∧ result.lookup name = known.lookup name) ∨
      ∃ d package, (referents entities name).getLast? = some d ∧ names.package d = .ok package ∧
          result.lookup name = some (package ++ "." ++ names.interfaceText d) := by
  induction entities generalizing names known with
  | nil => cases h; exact .inl ⟨rfl, rfl⟩
  | cons e rest ih =>
    rw [referents_cons]
    unfold udtInterfacesFrom at h
    split at h
    · rename_i htable
      rw [if_neg fun hc => by simp [htable] at hc]
      exact ih h
    · rename_i hudt
      obtain ⟨key, hkey, h⟩ := Result.ok_of_bind h
      obtain ⟨interface, hinterface, h⟩ := Result.ok_of_bind h
      have hagree := InterfaceNames.Agree.remember names [e.name]
      have htitle : key = Text.lower e.title := lowered_ok hkey
      rcases ih h with ⟨hnone, hlookup⟩ | ⟨d, package, hlast, hpackage, hlookup⟩
      · rw [hnone, hlookup, List.lookup_cons]
        split
        · rename_i hmeant
          obtain ⟨package, hpackage, rfl⟩ := InterfaceNames.qualifiedInterface_ok hinterface
          exact .inr ⟨e, package, rfl, hpackage, by simp [htitle, hmeant.2]⟩
        · rename_i hother
          have hkey : (name == key) = false := by
            rw [htitle]
            exact beq_false_of_ne fun hn => hother ⟨Bool.eq_false_iff.2 hudt, hn.symm⟩
          exact .inl ⟨rfl, by rw [hkey]⟩
      · rw [hagree.package_eq] at hpackage
        rw [hagree.interfaceText_eq] at hlookup
        refine .inr ⟨d, package, ?_, hpackage, hlookup⟩
        split
        · rw [List.getLast?_cons, hlast, Option.getD_some]
        · exact hlast

/-- **The map of types.** The interfaces of a run give for a name the interface of the last UDT that
it may mean. -/
theorem udtInterfaces_lookup {names : InterfaceNames} {entities : List Entity}
    {interfaces : List (String × String)} (h : udtInterfaces names entities = .ok interfaces)
    {name : String} (hname : referents entities name ≠ []) :
    ∃ d package, (referents entities name).getLast? = some d ∧ names.package d = .ok package ∧
        interfaces.lookup name = some (package ++ "." ++ names.interfaceText d) := by
  rcases udtInterfacesFrom_lookup h name with ⟨hnone, _⟩ | hsome
  · exact absurd hnone hname
  · exact hsome

/-- The types of a run fall back to the type of all objects. -/
theorem typeMap_fallback {g : Generator} {entities : List Entity} {map : TypeMap}
    (h : g.typeMap entities = .ok map) : map.fallback = objectType := by
  obtain ⟨names, _, h⟩ := Result.ok_of_bind h
  obtain ⟨interfaces, _, h⟩ := Result.ok_of_bind h
  obtain ⟨overrides, _, h⟩ := Result.ok_of_bind h
  cases h
  rfl

/-- What a run knows: the interfaces of its UDTs under its own names. -/
theorem run_ok {g : Generator} {entities : List Entity} {run : Run}
    (h : g.run entities = .ok run) :
    udtInterfaces run.names entities = .ok run.types.interfaces := by
  obtain ⟨types, htypes, h⟩ := Result.ok_of_bind h
  obtain ⟨names, hnames, h⟩ := Result.ok_of_bind h
  cases h
  obtain ⟨names', hnames', ht⟩ := Result.ok_of_bind (htypes : g.typeMap entities = _)
  obtain ⟨interfaces, hinterfaces, ht⟩ := Result.ok_of_bind ht
  obtain ⟨overrides, _, ht⟩ := Result.ok_of_bind ht
  cases ht
  cases hnames.symm.trans hnames'
  exact hinterfaces

/-- A reference that is not overridden is mapped to the interface that is known for it. -/
theorem mapElement_udt {map : TypeMap} {type : Sql.SqlType}
    {context name package interface : String}
    (hudt : type.udt = some name) (hoverride : map.overrides.lookup type.name = none)
    (hlookup : map.interfaces.lookup name = some (package ++ "." ++ interface)) :
    map.mapElement type context = .ok ⟨.text (package ++ "." ++ interface), []⟩ := by
  have hne : package ++ "." ++ interface ≠ "" := fun h => by
    have := congrArg String.toList h
    simp at this
  simp only [TypeMap.mapElement, hoverride, hudt, TypeMap.mapUdt, hlookup, beq_false_of_ne hne,
    Bool.false_eq_true, if_false]

/-! ## Warnings about unknown UDTs -/

/-- The wording of a warning about a reference to an unknown UDT. -/
def IsUnknownUdtWarning (w : String) : Prop :=
  ∃ member name, w = "Member " ++ member ++ " references unknown UDT '" ++ name ++ "'"

/-- How the warnings about unknown UDTs start and end. -/
theorem IsUnknownUdtWarning.ends {w : String} (h : IsUnknownUdtWarning w) :
    "Member ".toList <+: w.toList ∧ w.toList.getLast? = some (Char.ofNat 39) := by
  obtain ⟨member, name, rfl⟩ := h
  have hquote : "'".toList = [Char.ofNat 39] := by decide
  refine ⟨?_, ?_⟩
  · simp only [String.toList_append, List.append_assoc]
    exact List.prefix_append _ _
  · rw [String.toList_append, hquote, List.getLast?_concat]

/-- Every UDT of a run with different names is known. -/
theorem mem_knownUdts {entities : List Entity} {known : List String}
    (h : knownUdts entities = .ok known)
    (hnames : entities.Pairwise fun a b => a.qualifiedName.same b.qualifiedName = false)
    {d : Entity} (hd : d ∈ entities) (hudt : d.isTable = false) : Text.lower d.title ∈ known := by
  obtain ⟨_, _, h⟩ := Result.ok_of_bind h
  rw [indexEntities_eq hnames] at h
  obtain ⟨key, hkey, hlowered⟩ := Result.ok_of_mapM h (d.qualifiedName, d)
    (List.mem_filter.2 ⟨List.mem_map_of_mem hd, by simp [hudt]⟩)
  rwa [lowered_ok hlowered] at hkey

/-- A member whose reference is known is not reported. -/
theorem referenceWarnings_eq_nil {known : List String} {m : Member}
    (h : ∀ name, m.type.udt = some name → name ∈ known) : referenceWarnings known m = [] := by
  unfold referenceWarnings
  split
  · rename_i name hname
    rw [if_pos (List.contains_iff_mem.2 (h name hname))]
  · rfl

/-- All hints of a type end in the fallback type. -/
def HintsFallBack (map : TypeMap) (type : JvmType) : Prop :=
  ∀ hint ∈ type.hints, ∃ front, hint = front ++ ", using " ++ map.fallback

/-- The hint about a type without a place ends in the fallback type. -/
theorem fallBack_hints {map : TypeMap} {type : Sql.SqlType} {context reason : String}
    {mapped : JvmType} (h : map.fallBack type context reason = .ok mapped) :
    HintsFallBack map mapped := by
  unfold TypeMap.fallBack at h
  dsimp only at h
  split at h
  · cases h
  · cases h
    intro hint hhint
    exact ⟨_, List.mem_singleton.1 hhint⟩

/-- The hints about a type end in the fallback type. -/
theorem mapElement_hints {map : TypeMap} {type : Sql.SqlType} {context : String} {mapped : JvmType}
    (h : map.mapElement type context = .ok mapped) : HintsFallBack map mapped := by
  have hnone : ∀ name : Value, HintsFallBack map ⟨name, []⟩ := fun _ _ hhint => by cases hhint
  unfold TypeMap.mapElement at h
  split at h
  · cases h
    exact hnone _
  · split at h
    · unfold TypeMap.mapUdt at h
      split at h
      · split at h
        · exact fallBack_hints h
        · cases h
          exact hnone _
      · exact fallBack_hints h
    · unfold TypeMap.mapBuiltin at h
      split at h
      · cases h
        exact hnone _
      · split at h
        · cases h
          exact hnone _
        · exact fallBack_hints h

/-- The hints about the types of members end in the fallback type. -/
theorem typeHints_fallBack {map : TypeMap} {members : List Member} {hints : List String}
    (h : typeHints map members = .ok hints) :
    ∀ hint ∈ hints, ∃ front, hint = front ++ ", using " ++ map.fallback := by
  induction members generalizing hints with
  | nil => cases h; intro hint hhint; cases hhint
  | cons m rest ih =>
    obtain ⟨type, htype, h⟩ := Result.ok_of_bind h
    obtain ⟨later, hlater, h⟩ := Result.ok_of_bind h
    cases h
    intro hint hhint
    rcases List.mem_append.1 hhint with hhint | hhint
    · obtain ⟨element, helement, hm⟩ := Result.ok_of_bind (htype : map.mapType _ _ = _)
      cases hm
      exact mapElement_hints helement hint hhint
    · exact ih hlater hint hhint

/-- The warnings about shared accessors are about several members. -/
theorem accessorWarningsFrom_members {names : InterfaceNames} {e : Entity}
    {seen : List (String × Member)} {members : List Member} {warnings : List String}
    (h : accessorWarningsFrom names e seen members = .ok warnings) :
    ∀ w ∈ warnings, ∃ rest, w = "Members " ++ rest := by
  induction members generalizing names seen warnings with
  | nil => cases h; intro w hw; cases hw
  | cons m rest ih =>
    obtain ⟨getter, _, h⟩ := Result.ok_of_bind h
    dsimp only at h
    split at h
    · obtain ⟨later, hlater, h⟩ := Result.ok_of_bind h
      cases h
      intro w hw
      rcases List.mem_cons.1 hw with rfl | hw
      · simp only [String.append_assoc]
        exact ⟨_, rfl⟩
      · exact ih hlater w hw
    · exact ih h

/-- The warnings about shared accessors of all entities are about several members. -/
theorem accessorWarnings_members {names : InterfaceNames} {entities : List Entity}
    {warnings : List String} (h : accessorWarnings names entities = .ok warnings) :
    ∀ w ∈ warnings, ∃ rest, w = "Members " ++ rest := by
  induction entities generalizing names warnings with
  | nil => cases h; intro w hw; cases hw
  | cons e rest ih =>
    obtain ⟨here, hhere, h⟩ := Result.ok_of_bind h
    obtain ⟨later, hlater, h⟩ := Result.ok_of_bind h
    cases h
    intro w hw
    rcases List.mem_append.1 hw with hw | hw
    · exact accessorWarningsFrom_members hhere w hw
    · exact ih hlater w hw

/-- The warning about the start of interface names is one text. -/
theorem interfaceStartWarnings_eq {c : Config} {warnings : List String}
    (h : c.interfaceStartWarnings = .ok warnings) :
    ∀ w ∈ warnings, w = "Invalid interface prefix: " ++ (c.setting .interfaceStart).shown := by
  have hwarning : ∀ {valid : Bool} {text : String},
      ∀ w ∈ (if valid then [] else [text] : List String), w = text := fun {valid text} w hw => by
    cases valid with
    | true => cases hw
    | false => exact List.mem_singleton.1 hw
  unfold Config.interfaceStartWarnings at h
  dsimp only at h
  split at h
  · obtain ⟨valid, _, h⟩ := Result.ok_of_bind h
    cases h
    exact hwarning
  · cases h
    exact hwarning

/-- The warnings about a configuration are not about members. -/
theorem config_warnings_start {c : Config} {warnings : List String}
    (h : c.warnings = .ok warnings) :
    ∀ w ∈ warnings, ¬"Member".toList <+: w.toList := by
  obtain ⟨package, hpackage, h⟩ := Result.ok_of_bind h
  obtain ⟨start, hstart, h⟩ := Result.ok_of_bind h
  obtain ⟨builder, hbuilder, h⟩ := Result.ok_of_bind h
  obtain ⟨indent, hindent, h⟩ := Result.ok_of_bind h
  obtain ⟨width, hwidth, h⟩ := Result.ok_of_bind h
  cases h
  obtain ⟨validPackage, _, hpackage⟩ := Result.ok_of_bind hpackage
  obtain ⟨validBuilder, _, hbuilder⟩ := Result.ok_of_bind hbuilder
  obtain ⟨smallIndent, _, hindent⟩ := Result.ok_of_bind hindent
  obtain ⟨smallWidth, _, hwidth⟩ := Result.ok_of_bind hwidth
  cases hpackage
  cases hbuilder
  cases hindent
  cases hwidth
  intro w hw
  simp only [Config.modeWarnings, List.mem_append, List.mem_ite_nil_left, List.mem_ite_nil_right,
    List.mem_singleton] at hw
  rcases hw with ((((⟨_, rfl⟩ | hw) | ⟨_, rfl⟩) | ⟨_, rfl⟩) | ⟨_, rfl⟩) | ⟨_, rfl⟩
  case inl.inl.inl.inl.inr => simp [interfaceStartWarnings_eq hstart w hw]
  all_goals simp

/-- The warnings about an entity whose references are known are not about a member. -/
theorem entityWarnings_start {known : List String} {e : Entity}
    (h : ∀ m ∈ e.members, ∀ name, m.type.udt = some name → name ∈ known) :
    ∀ w ∈ entityWarnings known e, ¬"Member ".toList <+: w.toList := by
  have hmembers : e.members.flatMap (referenceWarnings known) = [] :=
    List.flatMap_eq_nil_iff.2 fun m hm => referenceWarnings_eq_nil (h m hm)
  intro w hw
  simp only [entityWarnings, hmembers, List.append_nil, List.mem_append, List.mem_ite_nil_right,
    List.mem_singleton] at hw
  rcases hw with ⟨_, rfl⟩ | ⟨_, rfl⟩ <;> simp

/-- The warnings about types end in the last letter of the type that is fallen back to. -/
theorem typeWarnings_end {g : Generator} {entities : List Entity} {warnings : List String}
    (h : g.typeWarnings entities = .ok warnings) :
    ∀ w ∈ warnings, w.toList.getLast? = some 't' := by
  unfold typeWarnings at h
  split at h
  · cases h
    intro w hw
    cases hw
  · obtain ⟨types, hmap, h⟩ := Result.ok_of_bind h
    intro w hw
    obtain ⟨front, rfl⟩ := typeHints_fallBack h w hw
    have hobject : objectType.toList.getLast? = some 't' := by decide
    rw [typeMap_fallback hmap, String.toList_append, List.getLast?_append, hobject]
    rfl

/-- **No unknown references.** A run over entities with different names whose references mean UDTs
among them has no warning about an unknown UDT. -/
theorem warnings_no_unknown {g : Generator} {entities : List Entity} {warnings : List String}
    (h : g.warnings entities = .ok warnings)
    (hnames : entities.Pairwise fun a b => a.qualifiedName.same b.qualifiedName = false)
    (hreferences : ∀ e ∈ entities, ∀ m ∈ e.members, ∀ name, m.type.udt = some name →
      referents entities name ≠ []) :
    ∀ w ∈ warnings, ¬IsUnknownUdtWarning w := by
  obtain ⟨known, hknown, h⟩ := Result.ok_of_bind h
  obtain ⟨aboutConfig, hconfig, h⟩ := Result.ok_of_bind h
  obtain ⟨aboutTypes, htypes, h⟩ := Result.ok_of_bind h
  obtain ⟨names, _, h⟩ := Result.ok_of_bind h
  obtain ⟨aboutAccessors, haccessors, h⟩ := Result.ok_of_bind h
  cases h
  have hall : ∀ e ∈ entities, ∀ m ∈ e.members, ∀ name, m.type.udt = some name →
      name ∈ known := by
    intro e he m hm name hname
    obtain ⟨d, hd⟩ := List.exists_mem_of_ne_nil _ (hreferences e he m hm name hname)
    obtain ⟨hd, hudt, hmeant⟩ := mem_referents.1 hd
    exact hmeant ▸ mem_knownUdts hknown hnames hd hudt
  intro w hw hunknown
  obtain ⟨hstart, hend⟩ := hunknown.ends
  simp only [List.mem_append, List.mem_flatMap] at hw
  rcases hw with ((⟨e, he, hw⟩ | hw) | hw) | hw
  · exact entityWarnings_start (hall e he) w hw hstart
  · exact config_warnings_start hconfig w hw (.trans (by simp) hstart)
  · rw [typeWarnings_end htypes w hw] at hend
    simp at hend
  · obtain ⟨rest, rfl⟩ := accessorWarnings_members haccessors w hw
    simp at hstart

/-! ## References and files -/

/-- **References are generated.** Let a document load and a generator give the files of its
entities, with any configuration and for either target. Each member that refers to a UDT, and whose
type name is not overridden, is mapped to a package and an interface name, with no hint that it fell
back. A UDT of the run that the reference may mean has just these printed in its file, which is
among the files: the package in the first line, the interface in a header. The warnings of the run
report no unknown UDT. -/
theorem references_generated {g : Generator} {document : Value} {entities : List Entity}
    {files : List (String × String)} (hload : load document = .ok entities)
    (hfiles : g.files entities = .ok files) :
    ∃ run, g.run entities = .ok run ∧
      (∀ e ∈ entities, ∀ m ∈ e.members, ∀ name, m.type.udt = some name →
        run.types.overrides.lookup m.type.name = none →
        ∃ package interface,
          run.types.mapElement m.type m.qualifiedName =
            .ok ⟨.text (package ++ "." ++ interface), []⟩ ∧
          ∃ front d back, entities = front ++ d :: back ∧ d.isTable = false ∧
            Text.lower d.title = name ∧
            ∃ file ∈ files, g.filePath (run.behind front) d = .ok file.1 ∧
              g.sourceOf (run.behind front) d = .ok file.2 ∧
              ∃ progress, interfaceOf d g.mode (g.services (run.behind front)) =
                  (.ok (), progress) ∧
                progress.sheet.lines.head? = some ⟨0, g.target.dialect.packageLine package⟩ ∧
                ∃ supertypes, ⟨0, g.target.dialect.header interface supertypes⟩ ∈
                  progress.sheet.lines) ∧
      ∀ warnings, g.warnings entities = .ok warnings → ∀ w ∈ warnings, ¬IsUnknownUdtWarning w := by
  obtain ⟨hnames, hreferences⟩ := load_ok hload
  obtain ⟨run, hrun, hfile⟩ := files_ok hfiles
  refine ⟨run, hrun, ?_, fun warnings hw => warnings_no_unknown hw hnames hreferences⟩
  intro e he m hm name hname hoverride
  obtain ⟨d, package, hlast, hpackage, hlookup⟩ :=
    udtInterfaces_lookup (run_ok hrun) (hreferences e he m hm name hname)
  obtain ⟨hd, hudt, hmeant⟩ := mem_referents.1 (List.mem_of_getLast? hlast)
  obtain ⟨front, back, hsplit⟩ := List.append_of_mem hd
  obtain ⟨file, hmem, parts, sheet, hf⟩ := hfile front d back hsplit
  -- the file of the UDT is printed later in the run, under names that agree with those of the map
  have hagree := run.behind_names front
  obtain ⟨hparts, hinterface, -⟩ := InterfaceParts.of_ok hf.parts_ok
  have hpackage' : parts.package = package := by
    have := hparts.symm.trans ((hagree.package_eq d).trans hpackage)
    exact Except.ok.inj this
  have hinterface' : parts.interface = run.names.interfaceText d :=
    (InterfaceNames.interface_ok hinterface).trans (hagree.interfaceText_eq d)
  obtain ⟨annotated, hprinted⟩ := hf.printed
  have hshown := hf.shown.package_and_header
  rw [hpackage', hinterface'] at hshown
  exact ⟨package, run.names.interfaceText d, mapElement_udt hname hoverride hlookup, front, d, back,
    hsplit, hudt, hmeant, file, hmem, hf.path_ok, hf.source_ok, ⟨sheet, annotated⟩, hprinted,
    hshown⟩

/-- A document with a table that refers to a UDT of another schema. -/
def otherSchema : Value :=
  .object [("schema", .text "sales"), ("entities", .list [
    .object [("name", .text "customer"), ("members", .list [
      .object [("name", .text "home"), ("type", .text "Address")]])],
    .object [("name", .text "Address"), ("schema", .text "HR"), ("kind", .text "udt")]])]

/-- The generator of interfaces without comments and markers. -/
def plain : Generator where
  target := .java
  config := { setting := fun
    | .addComments => .bool false
    | .markGenerated => .bool false
    | s => s.default }

/-- The table of the document refers to an interface that is generated with it. -/
theorem otherSchema_references : ∃ entities files run, load otherSchema = .ok entities ∧
    plain.files entities = .ok files ∧ plain.run entities = .ok run ∧
    ∃ e ∈ entities, ∃ m ∈ e.members, m.type.udt = some "hr.address" ∧
      run.types.overrides.lookup m.type.name = none ∧
      ∃ package interface, run.types.mapElement m.type m.qualifiedName =
        .ok ⟨.text (package ++ "." ++ interface), []⟩ := by
  have hrun : (match load otherSchema with
      | .ok entities => (plain.files entities).isOk && entities.any fun e => e.members.any fun m =>
        m.type.udt == some "hr.address" && match plain.run entities with
          | .ok run => (run.types.overrides.lookup m.type.name).isNone
          | .error _ => false
      | .error _ => false) = true := by decide +kernel
  cases hload : load otherSchema with
  | error fault => rw [hload] at hrun; cases hrun
  | ok entities =>
    rw [hload] at hrun
    simp only [Bool.and_eq_true, List.any_eq_true, beq_iff_eq] at hrun
    obtain ⟨hfiles, e, he, m, hm, hudt, hoverride⟩ := hrun
    cases hf : plain.files entities with
    | error fault => rw [hf] at hfiles; cases hfiles
    | ok files =>
      obtain ⟨run, hr, hreference, -⟩ := references_generated hload hf
      rw [hr] at hoverride
      have hnone := Option.isNone_iff_eq_none.1 hoverride
      obtain ⟨package, interface, hmapped, -⟩ := hreference e he m hm _ hudt hnone
      exact ⟨entities, files, run, rfl, hf, hr, e, he, m, hm, hudt, hnone, package, interface,
        hmapped⟩

end TableInterfaces.Generator
