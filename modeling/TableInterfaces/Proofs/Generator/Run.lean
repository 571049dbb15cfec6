import TableInterfaces.Proofs.Generator.Services
import TableInterfaces.Proofs.Jvm.TypeMap
import TableInterfaces.Proofs.Source.Tidy

/-!
# What a run knows

A run knows the names, the interfaces of UDTs and the overrides of its configuration. All of this is
there where the settings and the entities are of their kinds. Main statements:

* `Generator.run_ok_iff`: what a run knows, by its parts.
* `Generator.run_succeeds`: a run over entities of their kinds is known.
* `Generator.typeOf_cases`: a run gives the type of a member a text, or is strict and stops at it.
* `Generator.file_succeeds` and `Generator.files_singleton`: a lenient run has the path and the text
  of each file.
-/

namespace TableInterfaces.Generator

open TableInterfaces.Json
open TableInterfaces.Jvm
open TableInterfaces.Naming
open TableInterfaces.Source

variable {g : Generator} {entities : List Entity} {run : Run}

/-! ## By its parts -/

/-- What a run knows, by its parts. -/
theorem run_ok_iff : g.run entities = .ok run ↔
    InterfaceNames.ofEntities g.config entities = .ok run.names ∧
      udtInterfaces run.names entities = .ok run.types.interfaces ∧
      TypeMap.readOverrides (g.config.setting .typeOverrides) = .ok run.types.overrides ∧
      run.types.dialect = g.target.dialect ∧ run.types.strict = g.config.flag .strictTypes ∧
      run.types.fallback = objectType := by
  constructor
  · intro h
    obtain ⟨types, htypes, h⟩ := Result.ok_of_bind h
    obtain ⟨names, hnames, h⟩ := Result.ok_of_bind h
    cases h
    obtain ⟨names', hnames', htypes⟩ := Result.ok_of_bind (htypes : g.typeMap entities = _)
    obtain ⟨interfaces, hinterfaces, htypes⟩ := Result.ok_of_bind htypes
    obtain ⟨overrides, hoverrides, htypes⟩ := Result.ok_of_bind htypes
    cases htypes
    cases hnames.symm.trans hnames'
    exact ⟨hnames, hinterfaces, hoverrides, rfl, rfl, rfl⟩
  · rintro ⟨hnames, hinterfaces, hoverrides, hdialect, hstrict, hfallback⟩
    unfold Generator.run typeMap
    rw [hnames, Result.ok_bind, hinterfaces, Result.ok_bind, hoverrides]
    obtain ⟨names, dialect, strict, fallback, overrides, interfaces⟩ := run
    cases hdialect
    cases hstrict
    cases hfallback
    rfl

/-- Values can be told apart if each of them can. -/
theorem forM_checkHashable_iff {values : List Value} :
    values.forM (·.checkHashable) = .ok () ↔ ∀ v ∈ values, v.isHashable = true := by
  induction values with
  | nil => exact iff_of_true rfl fun _ hv => by cases hv
  | cons v rest ih =>
    change (v.checkHashable >>= fun _ => rest.forM (·.checkHashable)) = _ ↔ _
    rw [List.forall_mem_cons, ← ih, Value.checkHashable]
    cases v.isHashable with
    | true => exact (and_iff_right rfl).symm
    | false => exact iff_of_false (fun h => by cases h) fun h => by cases h.1

/-- The names of a run are known where the schemas can be told apart. -/
theorem ofEntities_ok_iff {c : Config} {names : InterfaceNames} :
    InterfaceNames.ofEntities c entities = .ok names ↔
      (∀ e ∈ entities, e.schema.isHashable = true) ∧ names =
        { config := c, schemaPackages := 1 < (distinct (entities.map (·.schema))).length } := by
  rw [← List.forall_mem_map (f := fun e : Entity => e.schema)
    (P := fun v => v.isHashable = true), ← forM_checkHashable_iff]
  constructor
  · intro h
    obtain ⟨_, hhashable, h⟩ := Result.ok_of_bind h
    cases h
    exact ⟨hhashable, rfl⟩
  · rintro ⟨hhashable, rfl⟩
    unfold InterfaceNames.ofEntities
    dsimp only
    rw [hhashable]
    rfl

/-- The interfaces of UDTs are the same under names changed by `f` if this changes no interface. -/
theorem udtInterfacesFrom_congr {f : InterfaceNames → InterfaceNames}
    (hremember : ∀ names values, (f names).remember values = f (names.remember values))
    (hinterface : ∀ names e, (f names).qualifiedInterface e = names.qualifiedInterface e)
    (names : InterfaceNames) (known : List (String × String)) (entities : List Entity) :
    udtInterfacesFrom (f names) known entities = udtInterfacesFrom names known entities := by
  induction entities generalizing names known with
  | nil => rfl
  | cons e rest ih =>
    unfold udtInterfacesFrom
    split
    · exact ih names known
    · rw [hremember, hinterface]
      exact bind_congr fun key => bind_congr fun interface => ih (names.remember [e.name]) _

/-- The interfaces of UDTs whose names are texts are known if each of them is. -/
theorem udtInterfacesFrom_succeeds_iff {names : InterfaceNames} {known : List (String × String)}
    (h : ∀ e ∈ entities, e.name.kind = .text) :
    Succeeds (udtInterfacesFrom names known entities) ↔ ∀ e ∈ entities, e.isTable = false →
      Succeeds e.qualifiedName.lowered ∧ Succeeds (names.qualifiedInterface e) := by
  induction entities generalizing names known with
  | nil => simp [udtInterfacesFrom, Succeeds.ok]
  | cons e rest ih =>
    have hrest := fun names known => @ih names known fun d hd => h d (List.mem_cons_of_mem _ hd)
    rw [List.forall_mem_cons]
    unfold udtInterfacesFrom
    split
    · rename_i htable
      rw [hrest]
      simp [htable]
    · rename_i hudt
      have hudt : e.isTable = false := by simpa using hudt
      have hqualified : ∀ d ∈ rest, (names.remember [e.name]).qualifiedInterface d =
          names.qualifiedInterface d := fun d hd =>
        InterfaceNames.qualifiedInterface_remember names (h d (List.mem_cons_of_mem _ hd)) _
      constructor
      · rintro ⟨interfaces, hok⟩
        obtain ⟨key, hkey, hok⟩ := Result.ok_of_bind hok
        obtain ⟨interface, hinterface, hok⟩ := Result.ok_of_bind hok
        refine ⟨fun _ => ⟨⟨key, hkey⟩, ⟨interface, hinterface⟩⟩, fun d hd hudt => ?_⟩
        have := (hrest _ _).1 ⟨interfaces, hok⟩ d hd hudt
        rwa [hqualified d hd] at this
      · rintro ⟨he, hlater⟩
        obtain ⟨hkey, hinterface⟩ := he hudt
        refine hkey.bind fun key _ => hinterface.bind fun interface _ => (hrest _ _).2 ?_
        intro d hd hudt
        rw [hqualified d hd]
        exact hlater d hd hudt

/-! ## Entities of their kinds -/

/-- The qualified name of an entity is a text. -/
theorem lowered_succeeds {e : Entity} (h : e.WellTyped) : Succeeds e.qualifiedName.lowered := by
  cases hs : e.schema with
  | text s =>
    cases hn : e.name with
    | text n =>
      rw [Entity.qualifiedName, qualify, hs, hn]
      split <;> exact .ok _
    | _ => have := h.name; rw [hn] at this; cases this
  | _ => have := h.schema; rw [hs] at this; cases this

/-- A run over entities of their kinds is known. -/
theorem run_succeeds (hkinds : g.config.WellTyped) (he : ∀ e ∈ entities, e.WellTyped) :
    Succeeds (g.run entities) := by
  obtain ⟨names, hnames, hconfig⟩ : ∃ names,
      InterfaceNames.ofEntities g.config entities = .ok names ∧ names.config = g.config :=
    ⟨_, ofEntities_ok_iff.2 ⟨fun e h => Value.isHashable_of_text (he e h).schema, rfl⟩,
      rfl⟩
  have hnameKinds : names.config.WellTyped := hconfig ▸ hkinds
  obtain ⟨interfaces, hinterfaces⟩ : Succeeds (udtInterfaces names entities) :=
    (udtInterfacesFrom_succeeds_iff fun e h => (he e h).name).2 fun e h _ =>
      ⟨lowered_succeeds (he e h),
        InterfaceNames.qualifiedInterface_succeeds hnameKinds (he e h).schema (he e h).name⟩
  obtain ⟨fields, hset, htexts⟩ := SettingKind.admits_textFields_iff.1 (hkinds .typeOverrides)
  obtain ⟨overrides, hoverrides, -⟩ := TypeMap.readOverrides_texts htexts
  rw [← hset] at hoverrides
  exact ⟨⟨names, {
      dialect := g.target.dialect
      strict := g.config.flag .strictTypes
      overrides, interfaces }⟩,
    run_ok_iff.2 ⟨hnames, hinterfaces, hoverrides, rfl, rfl, rfl⟩⟩

/-- The overrides of a run are texts where the settings are of their kinds. -/
theorem run_overrides_text (hkinds : g.config.WellTyped) (hrun : g.run entities = .ok run) :
    ∀ field ∈ run.types.overrides, field.2.kind = .text := by
  obtain ⟨-, -, hoverrides, -⟩ := run_ok_iff.1 hrun
  obtain ⟨fields, hset, htexts⟩ := SettingKind.admits_textFields_iff.1 (hkinds .typeOverrides)
  obtain ⟨overrides, hread, hplaced⟩ := TypeMap.readOverrides_texts htexts
  rw [hset, hread] at hoverrides
  exact Except.ok.inj hoverrides ▸ hplaced

/-- A run gives the type of a member a text, or is strict and stops since the type has no place. -/
theorem typeOf_cases (hkinds : g.config.WellTyped) (hrun : g.run entities = .ok run) (e : Entity)
    (m : Member) : Succeeds ((g.services run).typeOf e m >>= typeText) ∨
      g.config.flag .strictTypes = true ∧ ∃ reason, run.types.place m.type = .error reason ∧
        (g.services run).typeOf e m = .error (.unmappedType (TypeMap.subject m) reason) := by
  obtain ⟨-, -, -, -, hstrict, -⟩ := run_ok_iff.1 hrun
  have htypeOf : (g.services run).typeOf e m =
      run.types.ofMember m >>= fun type => pure type.name := rfl
  rw [htypeOf]
  rcases TypeMap.ofMember_cases (run_overrides_text hkinds hrun) m with
    ⟨type, htype, htext⟩ | ⟨hstrictMap, reason, hplace, herror⟩
  · left
    rw [htype]
    cases hname : type.name with
    | text s => exact ⟨s, by simp [hname, typeText, pure, Except.pure]⟩
    | _ => rw [hname] at htext; cases htext
  · refine .inr ⟨hstrict.symm.trans hstrictMap, reason, hplace, ?_⟩
    rw [herror]
    rfl

/-- A lenient run gives the type of each member a text. -/
theorem typeOf_succeeds (hkinds : g.config.WellTyped)
    (hlenient : g.config.flag .strictTypes = false) (hrun : g.run entities = .ok run) (e : Entity)
    (m : Member) : Succeeds ((g.services run).typeOf e m >>= typeText) :=
  (typeOf_cases hkinds hrun e m).resolve_right fun ⟨hstrict, _⟩ => by
    rw [hlenient] at hstrict
    cases hstrict

/-- A lenient run has the path and the text of each file, if one level can be indented. -/
theorem file_succeeds (hkinds : g.config.WellTyped)
    (hlenient : g.config.flag .strictTypes = false) (hrun : g.run entities = .ok run)
    (hdocs : (docPolicy g.config).Writes) (hunit : Succeeds g.config.indentUnit) {ending : String}
    (hending : g.config.setting .lineEnding = .text ending) (hne : ending ≠ "") {e : Entity}
    (he : e.WellTyped) : Succeeds (g.filePath run e) ∧ Succeeds (g.sourceOf run e) := by
  have hnames : run.names.config.WellTyped := run_names_config hrun ▸ hkinds
  constructor
  · exact (InterfaceNames.package_succeeds hnames he.schema).bind fun _ _ =>
      (InterfaceNames.interface_succeeds he.name).bind fun _ _ => .ok _
  · rw [sourceOf_eq]
    refine hunit.bind fun unit _ => (interfaceParts_succeeds hnames he hdocs _
      fun m _ => typeOf_succeeds hkinds hlenient hrun e m).bind fun parts _ => ?_
    rw [Config.lineJoiner, hending, Result.ok_bind, tidied_text hne]
    exact .ok _

/-- A lenient run over one entity of its kinds gives one file, if one level can be indented. -/
theorem files_singleton (hkinds : g.config.WellTyped)
    (hlenient : g.config.flag .strictTypes = false) (hdocs : (docPolicy g.config).Writes)
    (hunit : Succeeds g.config.indentUnit) {ending : String}
    (hending : g.config.setting .lineEnding = .text ending) (hne : ending ≠ "") {e : Entity}
    (he : e.WellTyped) : ∃ file, g.files [e] = .ok [file] := by
  obtain ⟨run, hrun⟩ := run_succeeds hkinds (List.forall_mem_singleton.2 he)
  obtain ⟨⟨path, hpath⟩, source, hsource⟩ :=
    file_succeeds hkinds hlenient hrun hdocs hunit hending hne he
  refine ⟨(path, source), ?_⟩
  rw [files, hrun, Result.ok_bind, filesFrom, hpath, Result.ok_bind]
  change (g.sourceOf run e >>= _) = _
  rw [hsource]
  rfl

end TableInterfaces.Generator
