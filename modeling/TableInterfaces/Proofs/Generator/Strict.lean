import TableInterfaces.Proofs.Generator.Run

/-!
# Strict runs

A strict generator stops at the first type without a place, where a lenient one falls back with a
warning. In all else the two agree: names, annotations and comments do not read the setting, and a
map of types reads it at types without a place only. Main statement:

* `Generator.generate_strictly`: from a lenient run that succeeds, what the strict run gives.
-/

namespace TableInterfaces

open TableInterfaces.Json
open TableInterfaces.Jvm
open TableInterfaces.Naming
open TableInterfaces.Source

/-! ## Strict settings -/

/-- The configuration with strict types. -/
def Config.strictly (c : Config) : Config :=
  { c with setting := fun
    | .strictTypes => .bool true
    | s => c.setting s }

/-- The names under the configuration with strict types. -/
def Naming.InterfaceNames.strictly (names : InterfaceNames) : InterfaceNames :=
  { names with config := names.config.strictly }

namespace Generator

/-- The generator with strict types. -/
def strictly (g : Generator) : Generator :=
  { g with config := g.config.strictly }

/-- What a run knows under the configuration with strict types. -/
def Run.strictly (run : Run) : Run where
  names := run.names.strictly
  types := run.types.strictly

/-! ## What a strict run knows -/

theorem ofEntities_strictly (c : Config) (entities : List Entity) :
    InterfaceNames.ofEntities c.strictly entities =
      InterfaceNames.strictly <$> InterfaceNames.ofEntities c entities := by
  unfold InterfaceNames.ofEntities
  dsimp only
  cases (entities.map (·.schema)).forM (·.checkHashable) <;> rfl

theorem typeMap_strictly (g : Generator) (entities : List Entity) :
    g.strictly.typeMap entities = TypeMap.strictly <$> g.typeMap entities := by
  have hnames : InterfaceNames.ofEntities g.strictly.config entities = _ :=
    ofEntities_strictly g.config entities
  have hinterfaces : ∀ names : InterfaceNames,
      udtInterfaces names.strictly entities = udtInterfaces names entities :=
    fun names => udtInterfacesFrom_congr (f := InterfaceNames.strictly) (fun _ _ => rfl)
      (fun _ _ => rfl) names [] entities
  unfold typeMap
  rw [hnames]
  cases InterfaceNames.ofEntities g.config entities with
  | error fault => rfl
  | ok names =>
    change (udtInterfaces names.strictly entities >>= _) =
      _ <$> (udtInterfaces names entities >>= _)
    rw [hinterfaces]
    cases udtInterfaces names entities with
    | error fault => rfl
    | ok interfaces =>
      change (TypeMap.readOverrides (g.config.setting .typeOverrides) >>= _) =
        _ <$> (TypeMap.readOverrides (g.config.setting .typeOverrides) >>= _)
      cases TypeMap.readOverrides (g.config.setting .typeOverrides) <;> rfl

/-- A strict run knows what the lenient one knows. -/
theorem run_strictly (g : Generator) (entities : List Entity) :
    g.strictly.run entities = Run.strictly <$> g.run entities := by
  have hnames : InterfaceNames.ofEntities g.strictly.config entities = _ :=
    ofEntities_strictly g.config entities
  unfold run
  rw [typeMap_strictly, hnames]
  cases g.typeMap entities with
  | error fault => rfl
  | ok types => cases InterfaceNames.ofEntities g.config entities <;> rfl

/-- The types of a lenient run are lenient. -/
theorem run_types_lenient {g : Generator} (hg : g.config.flag .strictTypes = false)
    {entities : List Entity} {run : Run} (h : g.run entities = .ok run) :
    run.types.strict = false ∧ g.typeMap entities = .ok run.types := by
  obtain ⟨types, htypes, h⟩ := Result.ok_of_bind h
  obtain ⟨names, -, h⟩ := Result.ok_of_bind h
  cases h
  obtain ⟨_, -, ht⟩ := Result.ok_of_bind htypes
  obtain ⟨interfaces, -, ht⟩ := Result.ok_of_bind ht
  obtain ⟨overrides, -, ht⟩ := Result.ok_of_bind ht
  cases ht
  exact ⟨hg, htypes⟩

/-! ## Interfaces -/

section

variable {g : Generator} {run : Run} {e : Entity}

/-- A member that does not fall back has the same parts in a strict run. -/
theorem memberParts_strictly (h : run.types.strict = false) {m : Member}
    (hm : ∀ reason, ¬run.types.FallsBack m reason) :
    memberParts e g.strictly.mode (g.strictly.services run.strictly) g.strictly.marks m =
      memberParts e g.mode (g.services run) g.marks m := by
  have htype : (g.strictly.services run.strictly).typeOf e m = (g.services run).typeOf e m := by
    change (run.types.strictly.ofMember m >>= _) = (run.types.ofMember m >>= _)
    rw [TypeMap.ofMember_strictly_eq h hm]
  unfold memberParts
  rw [htype]
  rfl

/-- A member that falls back has no parts in a strict run. -/
theorem memberParts_strictly_error (h : run.types.strict = false) {m : Member} {reason : String}
    (hm : run.types.FallsBack m reason) :
    memberParts e g.strictly.mode (g.strictly.services run.strictly) g.strictly.marks m =
      .error (.unmappedType (TypeMap.subject m) reason) := by
  have htype : (g.strictly.services run.strictly).typeOf e m =
      .error (.unmappedType (TypeMap.subject m) reason) := by
    change (run.types.strictly.ofMember m >>= _) = _
    rw [TypeMap.ofMember_strictly_error h hm]
    rfl
  unfold memberParts
  rw [htype]
  rfl

/-- An interface whose members do not fall back has the same parts in a strict run. -/
theorem interfaceParts_strictly (h : run.types.strict = false)
    (he : ∀ m ∈ e.members, ∀ reason, ¬run.types.FallsBack m reason) :
    interfaceParts e g.strictly.mode (g.strictly.services run.strictly) g.strictly.marks =
      interfaceParts e g.mode (g.services run) g.marks := by
  have hmembers := Result.mapM_congr fun m hm => memberParts_strictly (e := e) (g := g) h (he m hm)
  unfold interfaceParts
  rw [hmembers]
  rfl

/-- An interface stops in a strict run at its first member that falls back. -/
theorem interfaceParts_strictly_error (h : run.types.strict = false) {front back : List Member}
    {m : Member} (hsplit : e.members = front ++ m :: back)
    (hfront : ∀ d ∈ front, ∀ reason, ¬run.types.FallsBack d reason) {reason : String}
    (hm : run.types.FallsBack m reason)
    (hparts : Succeeds (interfaceParts e g.mode (g.services run) g.marks)) :
    interfaceParts e g.strictly.mode (g.strictly.services run.strictly) g.strictly.marks =
      .error (.unmappedType (TypeMap.subject m) reason) := by
  obtain ⟨parts, hparts⟩ := hparts
  have ho := InterfaceParts.opens_of_ok hparts
  obtain ⟨-, -, -, -, hmembers⟩ := InterfaceParts.of_ok hparts
  obtain ⟨values, hvalues⟩ := Succeeds.mapM fun d hd => by
    obtain ⟨part, -, hpart⟩ := Result.ok_of_mapM hmembers d (hsplit ▸ List.mem_append_left _ hd)
    exact ⟨part, (memberParts_strictly h (hfront d hd)).trans hpart⟩
  have hstop : e.members.mapM (memberParts e g.strictly.mode (g.strictly.services run.strictly)
      g.strictly.marks) = .error (.unmappedType (TypeMap.subject m) reason) := by
    rw [hsplit]
    exact Result.mapM_error hvalues (memberParts_strictly_error h hm)
  have hstrictly : parts.Opens e g.strictly.mode.dialect (g.strictly.services run.strictly)
      g.strictly.marks := ⟨ho.package, ho.interface, ho.qualified, ho.head, ho.builder⟩
  rw [hstrictly.interfaceParts_eq, hstop]
  rfl

/-! ## Files -/

/-- An element of two rows together is in the first one, or in the second one behind all of the
first.
-/
theorem append_eq_append_cons {α : Type} {first second front back : List α} {a : α}
    (h : first ++ second = front ++ a :: back) :
    (∃ middle, first = front ++ a :: middle) ∨
      ∃ middle, front = first ++ middle ∧ second = middle ++ a :: back := by
  rcases List.append_eq_append_iff.1 h with ⟨middle, hfront, hsecond⟩ | ⟨middle, hfirst, hback⟩
  · exact .inr ⟨middle, hfront, hsecond⟩
  · cases middle with
    | nil => exact .inr ⟨[], by simp [hfirst], by simpa using hback.symm⟩
    | cons b middle =>
      obtain ⟨rfl, -⟩ := List.cons.inj hback
      exact .inl ⟨middle, hfirst⟩

/-- The file of an entity whose members do not fall back is the same in a strict run. -/
theorem sourceOf_strictly (h : run.types.strict = false)
    (he : ∀ m ∈ e.members, ∀ reason, ¬run.types.FallsBack m reason) :
    g.strictly.sourceOf run.strictly e = g.sourceOf run e := by
  rw [sourceOf_eq, sourceOf_eq, interfaceParts_strictly h he]
  rfl

/-- The file of an entity stops in a strict run at its first member that falls back. -/
theorem sourceOf_strictly_error (h : run.types.strict = false) {front back : List Member}
    {m : Member} (hsplit : e.members = front ++ m :: back)
    (hfront : ∀ d ∈ front, ∀ reason, ¬run.types.FallsBack d reason) {reason : String}
    (hm : run.types.FallsBack m reason) (hsource : Succeeds (g.sourceOf run e)) :
    g.strictly.sourceOf run.strictly e = .error (.unmappedType (TypeMap.subject m) reason) := by
  obtain ⟨source, hsource⟩ := hsource
  rw [sourceOf_eq] at hsource ⊢
  obtain ⟨unit, hunit, hsource⟩ := Result.ok_of_bind hsource
  obtain ⟨parts, hparts, -⟩ := Result.ok_of_bind hsource
  have hstop := interfaceParts_strictly_error h hsplit hfront hm ⟨parts, hparts⟩
  rw [show g.strictly.config.indentUnit = .ok unit from hunit, Result.ok_bind, hstop]
  rfl

/-- Where no member falls back, a strict run gives the files of the lenient one. -/
theorem filesFrom_strictly (h : run.types.strict = false) {entities : List Entity}
    (hentities : ∀ m ∈ entities.flatMap (·.members), ∀ reason, ¬run.types.FallsBack m reason)
    (owners : List (String × String)) :
    g.strictly.filesFrom run.strictly owners entities = g.filesFrom run owners entities := by
  induction entities generalizing run owners with
  | nil => rfl
  | cons e rest ih =>
    rw [List.flatMap_cons] at hentities
    have he := sourceOf_strictly (g := g) h fun m hm => hentities m (List.mem_append_left _ hm)
    have hrest := @ih (run.after e) h fun m hm => hentities m (List.mem_append_right _ hm)
    unfold filesFrom
    refine bind_congr fun path => ?_
    cases owners.lookup path with
    | some owner => rfl
    | none =>
      dsimp only
      rw [he]
      exact bind_congr fun source => congrArg (· >>= _) (hrest _)

/-- A strict run stops at the first member that falls back. -/
theorem filesFrom_strictly_error (h : run.types.strict = false) {entities : List Entity}
    {front back : List Member} {m : Member}
    (hsplit : entities.flatMap (·.members) = front ++ m :: back)
    (hfront : ∀ d ∈ front, ∀ reason, ¬run.types.FallsBack d reason) {reason : String}
    (hm : run.types.FallsBack m reason) {owners : List (String × String)}
    (hfiles : Succeeds (g.filesFrom run owners entities)) :
    g.strictly.filesFrom run.strictly owners entities =
      .error (.unmappedType (TypeMap.subject m) reason) := by
  induction entities generalizing run owners front with
  | nil => simp at hsplit
  | cons e rest ih =>
    obtain ⟨files, hfiles⟩ := hfiles
    obtain ⟨path, hpath, hfiles⟩ := Result.ok_of_bind hfiles
    split at hfiles
    · cases hfiles
    · rename_i hfree
      obtain ⟨source, hsource, hfiles⟩ := Result.ok_of_bind hfiles
      obtain ⟨later, hlater, -⟩ := Result.ok_of_bind hfiles
      unfold filesFrom
      rw [show g.strictly.filePath run.strictly e = .ok path from hpath, Result.ok_bind, hfree]
      dsimp only
      rw [List.flatMap_cons] at hsplit
      rcases append_eq_append_cons hsplit with ⟨middle, he⟩ | ⟨middle, rfl, hrest⟩
      · rw [sourceOf_strictly_error h he hfront hm ⟨source, hsource⟩]
        rfl
      · have hhere := sourceOf_strictly (g := g) h fun d hd => hfront d (List.mem_append_left _ hd)
        have hstrict : (run.after e).types.strict = false := h
        have hstop := ih hstrict hrest
          (fun d hd => hfront d (List.mem_append_right _ hd)) hm ⟨later, hlater⟩
        rw [hhere, hsource, Result.ok_bind,
          show run.strictly.after e = (run.after e).strictly from rfl, hstop]
        rfl

/-! ## Warnings -/

/-- Members that do not fall back leave no hint. -/
theorem typeHints_eq_nil {types : TypeMap} (h : types.strict = false) {members : List Member}
    (hmembers : ∀ m ∈ members, ∀ reason, ¬types.FallsBack m reason) {hints : List String}
    (hhints : typeHints types members = .ok hints) : hints = [] := by
  induction members generalizing hints with
  | nil => cases hhints; rfl
  | cons m rest ih =>
    obtain ⟨type, htype, hhints⟩ := Result.ok_of_bind hhints
    obtain ⟨later, hlater, hhints⟩ := Result.ok_of_bind hhints
    cases hhints
    rw [TypeMap.ofMember_no_hints h (hmembers m List.mem_cons_self) htype,
      ih (fun d hd => hmembers d (List.mem_cons_of_mem _ hd)) hlater]
    rfl

/-- A member that falls back leaves the hint about it. -/
theorem hint_mem_typeHints {types : TypeMap} (h : types.strict = false) {members : List Member}
    {m : Member} (hmem : m ∈ members) {reason : String} (hm : types.FallsBack m reason)
    {hints : List String} (hhints : typeHints types members = .ok hints) :
    types.hint m reason ∈ hints := by
  induction members generalizing hints with
  | nil => cases hmem
  | cons d rest ih =>
    obtain ⟨type, htype, hhints⟩ := Result.ok_of_bind hhints
    obtain ⟨later, hlater, hhints⟩ := Result.ok_of_bind hhints
    cases hhints
    rcases List.mem_cons.1 hmem with rfl | hmem
    · rw [TypeMap.ofMember_hints h hm htype]
      exact List.mem_append_left _ (List.mem_singleton_self _)
    · exact List.mem_append_right _ (ih hmem hlater)

theorem accessorWarningsFrom_strictly (names : InterfaceNames) (e : Entity)
    (seen : List (String × Member)) (members : List Member) :
    accessorWarningsFrom names.strictly e seen members =
      accessorWarningsFrom names e seen members := by
  induction members generalizing names seen with
  | nil => rfl
  | cons m rest ih =>
    unfold accessorWarningsFrom
    refine bind_congr fun getter => ?_
    dsimp only
    split
    · exact congrArg (· >>= _) (ih (names.remember [m.name]) seen)
    · exact ih (names.remember [m.name]) _

theorem accessorWarnings_strictly (names : InterfaceNames) (entities : List Entity) :
    accessorWarnings names.strictly entities = accessorWarnings names entities := by
  induction entities generalizing names with
  | nil => rfl
  | cons e rest ih =>
    have hrest := ih (names.remember (e.members.map (·.name)))
    unfold accessorWarnings
    rw [accessorWarningsFrom_strictly]
    exact bind_congr fun here => congrArg (· >>= _) hrest

/-- What a lenient run warns about types. -/
structure TypesWarned (types : TypeMap) (members : List Member) (warnings strict : List String) :
    Prop where
  same : (∀ m ∈ members, ∀ reason, ¬types.FallsBack m reason) → strict = warnings
  hint : ∀ m ∈ members, ∀ reason, types.FallsBack m reason → types.hint m reason ∈ warnings

/-- A strict run has the warnings of the lenient one but for the hints about types. -/
theorem warnings_strictly (hg : g.config.flag .strictTypes = false) {entities : List Entity}
    (hrun : g.run entities = .ok run) {warnings : List String}
    (h : g.warnings entities = .ok warnings) :
    ∃ strict, g.strictly.warnings entities = .ok strict ∧
      TypesWarned run.types (entities.flatMap (·.members)) warnings strict := by
  obtain ⟨hlenient, htypes⟩ := run_types_lenient hg hrun
  obtain ⟨known, hknown, h⟩ := Result.ok_of_bind h
  obtain ⟨aboutConfig, hconfig, h⟩ := Result.ok_of_bind h
  obtain ⟨hints, hhints, h⟩ := Result.ok_of_bind h
  obtain ⟨names, hnames, h⟩ := Result.ok_of_bind h
  obtain ⟨aboutAccessors, haccessors, h⟩ := Result.ok_of_bind h
  cases h
  unfold typeWarnings at hhints
  rw [hg, if_neg Bool.false_ne_true, htypes, Result.ok_bind] at hhints
  have hsilent : g.strictly.typeWarnings entities = .ok [] := if_pos rfl
  have hstrict : InterfaceNames.ofEntities g.strictly.config entities = .ok names.strictly := by
    rw [show g.strictly.config = g.config.strictly from rfl, ofEntities_strictly, hnames]
    rfl
  refine ⟨entities.flatMap (entityWarnings known) ++ aboutConfig ++ [] ++ aboutAccessors, ?_,
    fun hnone => ?_, fun m hm reason hback => ?_⟩
  · unfold Generator.warnings
    rw [hknown, Result.ok_bind, show g.strictly.config.warnings = .ok aboutConfig from hconfig,
      Result.ok_bind, hsilent, Result.ok_bind, hstrict, Result.ok_bind, accessorWarnings_strictly,
      haccessors]
    rfl
  · rw [typeHints_eq_nil hlenient hnone hhints]
  · have hmem := hint_mem_typeHints hlenient hm hback hhints
    simp [hmem]

end

/-! ## Runs -/

/-- A run that succeeds has warnings and files. -/
theorem generate_ok_iff {g : Generator} {entities : List Entity} {result : Generation} :
    g.generate entities = .ok result ↔ ∃ run, g.run entities = .ok run ∧
      g.warnings entities = .ok result.warnings ∧
      g.filesFrom run [] entities = .ok result.files ∧ result.summary = g.summary entities := by
  unfold generate Generator.result files
  constructor
  · intro h
    cases hwarnings : g.warnings entities with
    | error fault => rw [hwarnings] at h; cases h
    | ok warnings =>
      cases hrun : g.run entities with
      | error fault => rw [hwarnings, hrun] at h; cases h
      | ok run =>
        cases hfiles : g.filesFrom run [] entities with
        | error fault =>
          rw [hwarnings, hrun, Result.ok_bind, Result.ok_bind, hfiles] at h
          cases h
        | ok files =>
          rw [hwarnings, hrun, Result.ok_bind, Result.ok_bind, hfiles] at h
          cases h
          exact ⟨run, rfl, rfl, hfiles, rfl⟩
  · rintro ⟨run, hrun, hwarnings, hfiles, hsummary⟩
    rw [hwarnings, hrun, Result.ok_bind, Result.ok_bind, hfiles]
    obtain ⟨files, warnings, summary⟩ := result
    cases hsummary
    rfl

/-- **What a strict run gives.** Let a lenient run succeed. With strict types it succeeds if and
only if no member falls back, and gives the same files, warnings and summary then. Else it fails at
the first member that falls back, in the order of entities and their members, with the reason why
the type of this member has no place. The lenient run has a warning about each member that falls
back.
-/
theorem generate_strictly {g : Generator} (hg : g.config.flag .strictTypes = false)
    {entities : List Entity} {result : Generation} (h : g.generate entities = .ok result) :
    ∃ run, g.run entities = .ok run ∧
      (Succeeds (g.strictly.generate entities) ↔
        ∀ m ∈ entities.flatMap (·.members), ∀ reason, ¬run.types.FallsBack m reason) ∧
      ((∀ m ∈ entities.flatMap (·.members), ∀ reason, ¬run.types.FallsBack m reason) →
        g.strictly.generate entities = .ok result) ∧
      (∀ front m back reason, entities.flatMap (·.members) = front ++ m :: back →
        (∀ d ∈ front, ∀ reason, ¬run.types.FallsBack d reason) → run.types.FallsBack m reason →
        g.strictly.generate entities =
          .error (.generation (.unmappedType (TypeMap.subject m) reason))) ∧
      ∀ m ∈ entities.flatMap (·.members), ∀ reason, run.types.FallsBack m reason →
        run.types.hint m reason ∈ result.warnings := by
  obtain ⟨run, hrun, hwarnings, hfiles, hsummary⟩ := generate_ok_iff.1 h
  obtain ⟨hlenient, -⟩ := run_types_lenient hg hrun
  obtain ⟨warnings, hstrict, hsame, hhint⟩ := warnings_strictly hg hrun hwarnings
  have hstrictRun : g.strictly.run entities = .ok run.strictly := by
    rw [run_strictly, hrun]
    rfl
  have hnone : (∀ m ∈ entities.flatMap (·.members), ∀ reason, ¬run.types.FallsBack m reason) →
      g.strictly.generate entities = .ok result := fun hnone => by
    refine generate_ok_iff.2 ⟨run.strictly, hstrictRun, ?_, ?_, hsummary⟩
    · rw [hstrict, hsame hnone]
    · rw [filesFrom_strictly hlenient hnone, hfiles]
  have hfirst : ∀ front m back reason, entities.flatMap (·.members) = front ++ m :: back →
      (∀ d ∈ front, ∀ reason, ¬run.types.FallsBack d reason) → run.types.FallsBack m reason →
      g.strictly.generate entities =
        .error (.generation (.unmappedType (TypeMap.subject m) reason)) := by
    intro front m back reason hsplit hfront hm
    have hstop := filesFrom_strictly_error hlenient hsplit hfront hm ⟨_, hfiles⟩
    unfold generate Generator.result files
    rw [hstrict, Result.ok_bind, hstrictRun, Result.ok_bind, hstop]
    rfl
  refine ⟨run, hrun, ⟨fun hsucceeds m hm reason hback => ?_, fun hno => ⟨result, hnone hno⟩⟩, hnone,
    hfirst, hhint⟩
  -- where some member falls back there is a first one, and the strict run fails there
  classical
  have hsome : ((entities.flatMap (·.members)).find?
      fun m => ∃ reason, run.types.FallsBack m reason).isSome :=
    List.find?_isSome.2 ⟨m, hm, decide_eq_true ⟨reason, hback⟩⟩
  obtain ⟨d, hd⟩ := Option.isSome_iff_exists.1 hsome
  obtain ⟨hd, front, back, hsplit, hfront⟩ := List.find?_eq_some_iff_append.1 hd
  obtain ⟨cause, hcause⟩ := of_decide_eq_true hd
  obtain ⟨strictResult, hstrictResult⟩ := hsucceeds
  have hno : ∀ c ∈ front, ∀ reason, ¬run.types.FallsBack c reason := fun c hc => by
    simpa using hfront c hc
  exact absurd ((hfirst front d back cause hsplit hno hcause).symm.trans hstrictResult) (by simp)

/-- A table with a column of a type that is in no table. -/
def shapes : Entity where
  name := .text "shape"
  schema := .text "hr"
  members := [
    { name := .text "id", qualifiedName := "hr.shape.id", position := 1
      type := { name := "integer" } },
    { name := .text "area", qualifiedName := "hr.shape.area", position := 2
      type := { name := "geometry" } }]

/-- A lenient generator of traits without comments and markers. -/
def bareTraits : Generator where
  target := .scala
  config := { setting := fun
    | .addComments => .bool false
    | .markGenerated => .bool false
    | s => s.default }

/-- The column falls back with a warning, and makes the strict run fail. -/
theorem shapes_generate_strictly : ∃ result, bareTraits.config.flag .strictTypes = false ∧
    bareTraits.generate [shapes] = .ok result ∧
    bareTraits.strictly.generate [shapes] =
      .error (.generation (.unmappedType "hr.shape.area" "unsupported type 'geometry'")) ∧
    "hr.shape.area: unsupported type 'geometry', using java.lang.Object" ∈ result.warnings := by
  have hcheck : ((bareTraits.generate [shapes]).isOk && match bareTraits.run [shapes] with
      | .ok run => (run.types.place { name := "integer" }).isOk &&
        (match run.types.place { name := "geometry" } with
          | .error reason => reason == "unsupported type 'geometry'"
          | .ok _ => false) && run.types.fallback == objectType
      | .error _ => false) = true := by decide +kernel
  cases h : bareTraits.generate [shapes] with
  | error failure => rw [h] at hcheck; cases hcheck
  | ok result =>
    obtain ⟨run, hrun, -, -, hfirst, hhint⟩ := generate_strictly (g := bareTraits) rfl h
    rw [h, hrun] at hcheck
    simp only [Bool.and_eq_true, beq_iff_eq] at hcheck
    obtain ⟨-, ⟨hinteger, hgeometry⟩, hfallback⟩ := hcheck
    have hlenient := (run_types_lenient (g := bareTraits) rfl hrun).1
    have hback : run.types.FallsBack shapes.members[1] "unsupported type 'geometry'" := by
      refine (TypeMap.fallsBack_iff hlenient).2 ?_
      split at hgeometry
      · rename_i reason hplace
        exact hplace.trans (congrArg _ (by simpa using hgeometry))
      · cases hgeometry
    have hno : ∀ reason, ¬run.types.FallsBack shapes.members[0] reason := fun reason hback => by
      have hplace : run.types.place { name := "integer" } = .error reason :=
        (TypeMap.fallsBack_iff hlenient).1 hback
      rw [hplace] at hinteger
      cases hinteger
    refine ⟨result, rfl, rfl, hfirst [shapes.members[0]] shapes.members[1] [] _ rfl ?_ hback, ?_⟩
    · exact fun d hd => List.mem_singleton.1 hd ▸ hno
    · have hmem := hhint shapes.members[1] (by simp [shapes]) _ hback
      rw [TypeMap.hint, hfallback] at hmem
      exact hmem

end Generator

end TableInterfaces
