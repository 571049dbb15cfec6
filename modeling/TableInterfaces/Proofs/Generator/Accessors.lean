import Mathlib.Data.List.Nodup
import TableInterfaces.Proofs.Config.Check
import TableInterfaces.Proofs.Generator.Declared
import TableInterfaces.Proofs.Generator.Reference
import TableInterfaces.Proofs.Generator.Strict
import TableInterfaces.Proofs.Naming.Accessor

/-!
# Shared accessors

The check of a run looks at getters only. Since members have the same getter just where they have
the same setter, and no setter is a getter, this finds every accessor that an interface would
declare twice. Main statements:

* `Generator.accessorWarnings_eq`: the warnings about shared accessors, entity by entity.
* `Generator.clashWarnings_eq_nil_iff`: there is none about an entity just where its getters differ.
* `Generator.accessors_warned`: a printed interface declares different accessors just where the
  check has no such warning about its entity.
-/

namespace TableInterfaces

open TableInterfaces.Json
open TableInterfaces.Jvm
open TableInterfaces.Naming
open TableInterfaces.Naming.InterfaceNames
open TableInterfaces.Source

namespace Generator

variable {e : Entity}

/-! ## Warnings about shared accessors -/

/-- The warning about a member that shares its getter with `first`. -/
def clashText (e : Entity) (first m : Member) : String :=
  "Members " ++ first.name.display ++ " and " ++ m.name.display ++ " of " ++ e.title ++
    " both map to " ++ accessorText "get" m ++ "()"

/-- The first of some members with the getter of another one. -/
def sharing? (members : List Member) (m : Member) : Option Member :=
  members.find? fun d => accessorText "get" d == accessorText "get" m

/-- The warning about the member at a place, if a member in front of it has its getter. -/
def clash? (e : Entity) (members : List Member) (place : Member × Nat) : Option String :=
  (sharing? (members.take place.2) place.1).map fun first => clashText e first place.1

/-- The warnings about an entity: one for each member whose getter a member in front of it has. -/
def clashWarnings (e : Entity) : List String :=
  e.members.zipIdx.filterMap (clash? e e.members)

/-- The members seen so far give for each getter the first of them that has it. -/
def Remembers (seen : List (String × Member)) (before : List Member) : Prop :=
  ∀ getter, seen.lookup getter = before.find? fun d => accessorText "get" d == getter

/-- A member with a known getter changes nothing. -/
theorem Remembers.known {seen : List (String × Member)} {before : List Member} {first m : Member}
    (h : Remembers seen before) (hfound : sharing? before m = some first) :
    Remembers seen (before ++ [m]) := by
  intro getter
  rw [h getter, List.find?_append]
  cases hgetter : before.find? fun d => accessorText "get" d == getter with
  | some d => rfl
  | none =>
    have hne : accessorText "get" m ≠ getter := by
      rintro rfl
      cases hfound.symm.trans hgetter
    rw [Option.none_or, List.find?_cons_of_neg (by simpa using hne), List.find?_nil]

/-- A member with a new getter is remembered. -/
theorem Remembers.new {seen : List (String × Member)} {before : List Member} {m : Member}
    (h : Remembers seen before) (hnew : sharing? before m = none) :
    Remembers ((accessorText "get" m, m) :: seen) (before ++ [m]) := by
  intro getter
  rw [List.lookup_cons, h getter, List.find?_append]
  by_cases hgetter : accessorText "get" m = getter
  · subst hgetter
    rw [show before.find? _ = none from hnew, Option.none_or, List.find?_singleton,
      beq_self_eq_true, if_pos rfl]
  · rw [beq_false_of_ne (Ne.symm hgetter), List.find?_cons_of_neg (by simpa using hgetter),
      List.find?_nil, Option.or_none]

/-- The warnings about the members behind those that have been seen. -/
theorem accessorWarningsFrom_eq {names : InterfaceNames} {seen : List (String × Member)}
    {before rest : List Member} (hseen : Remembers seen before)
    (hrest : ∀ m ∈ rest, m.name.kind = .text) :
    accessorWarningsFrom names e seen rest =
      .ok ((rest.zipIdx before.length).filterMap (clash? e (before ++ rest))) := by
  induction rest generalizing names seen before with
  | nil => rfl
  | cons m rest ih =>
    obtain ⟨hm, hrest⟩ := List.forall_mem_cons.1 hrest
    have hlater := fun names seen => @ih names seen (before ++ [m])
    rw [List.length_append, List.length_singleton, List.append_assoc, List.singleton_append]
      at hlater
    have hgetter : names.getter m = .ok (accessorText "get" m) := accessor_text names "get" hm
    have hlookup : seen.lookup (accessorText "get" m) = sharing? before m := hseen _
    have hclash : clash? e (before ++ m :: rest) (m, before.length) =
        (sharing? before m).map fun first => clashText e first m := by
      rw [clash?, List.take_left]
    rw [List.zipIdx_cons, List.filterMap_cons, hclash, accessorWarningsFrom, hgetter,
      Result.ok_bind, hlookup]
    cases hfound : sharing? before m with
    | none => exact hlater _ _ (hseen.new hfound) hrest
    | some first =>
      dsimp only [Option.map_some]
      rw [hlater _ _ (hseen.known hfound) hrest]
      rfl

/-- **The warnings about shared accessors.** -/
theorem accessorWarnings_eq {names : InterfaceNames} {entities : List Entity}
    (h : ∀ e ∈ entities, ∀ m ∈ e.members, m.name.kind = .text) :
    accessorWarnings names entities = .ok (entities.flatMap clashWarnings) := by
  induction entities generalizing names with
  | nil => rfl
  | cons e rest ih =>
    obtain ⟨he, hrest⟩ := List.forall_mem_cons.1 h
    have hnone : Remembers [] [] := fun _ => rfl
    rw [accessorWarnings, accessorWarningsFrom_eq hnone he, Result.ok_bind, ih hrest]
    rfl

/-- **No warnings about shared accessors.** There is none about an entity just where the getters of
its members differ. -/
theorem clashWarnings_eq_nil_iff :
    clashWarnings e = [] ↔ (e.members.map (accessorText "get")).Nodup := by
  rw [clashWarnings, List.filterMap_eq_nil_iff, List.Nodup, List.pairwise_map,
    List.pairwise_iff_getElem]
  simp only [clash?, sharing?, Option.map_eq_none_iff, List.find?_eq_none, beq_iff_eq]
  constructor
  · intro h i j hi hj hij
    refine h (e.members[j], j) (List.mk_mem_zipIdx_iff_getElem?.2 (List.getElem?_eq_getElem hj)) _
      (List.mem_take_iff_getElem.2 ⟨i, by omega, rfl⟩)
  · rintro h ⟨m, j⟩ hm d hd
    obtain ⟨hj, rfl⟩ := List.getElem?_eq_some_iff.1 (List.mk_mem_zipIdx_iff_getElem?.1 hm)
    obtain ⟨i, hi, rfl⟩ := List.mem_take_iff_getElem.1 hd
    exact h i j _ hj (by omega)

/-! ## Other warnings -/

/-- The wording of a warning about a shared accessor. -/
def IsClashWarning (w : String) : Prop :=
  ∃ first second title getter,
    w = "Members " ++ first ++ " and " ++ second ++ " of " ++ title ++ " both map to " ++ getter ++
      "()"

/-- How the warnings about shared accessors start and end. -/
theorem IsClashWarning.ends {w : String} (h : IsClashWarning w) :
    "Members ".toList <+: w.toList ∧ w.toList.getLast? = some ')' := by
  obtain ⟨first, second, title, getter, rfl⟩ := h
  have hend : "()".toList = ['('] ++ [')'] := rfl
  refine ⟨?_, ?_⟩
  · simp only [String.toList_append, List.append_assoc]
    exact List.prefix_append _ _
  · rw [String.toList_append, hend, ← List.append_assoc, List.getLast?_concat]

/-- The warnings about shared accessors have this wording. -/
theorem isClashWarning {w : String} (h : w ∈ clashWarnings e) : IsClashWarning w := by
  obtain ⟨⟨m, i⟩, -, hclash⟩ := List.mem_filterMap.1 h
  obtain ⟨first, -, rfl⟩ := Option.map_eq_some_iff.1 hclash
  exact ⟨_, _, _, _, rfl⟩

/-- The warnings about an entity are about at most one member. -/
theorem entityWarnings_single {known : List String} {w : String} (h : w ∈ entityWarnings known e) :
    ¬"Members ".toList <+: w.toList := by
  simp only [entityWarnings, List.mem_append, List.mem_ite_nil_right, List.mem_singleton,
    List.mem_flatMap] at h
  rcases h with (⟨_, rfl⟩ | ⟨m, -, hw⟩) | ⟨_, rfl⟩
  · simp
  · unfold referenceWarnings at hw
    split at hw
    · split at hw
      · cases hw
      · rw [List.mem_singleton.1 hw]
        simp
    · cases hw
  · simp

/-- The warnings of a run are others and those about shared accessors. -/
theorem warnings_split {g : Generator} {entities : List Entity} {warnings : List String}
    (hnames : ∀ e ∈ entities, ∀ m ∈ e.members, m.name.kind = .text)
    (h : g.warnings entities = .ok warnings) :
    ∃ others, warnings = others ++ entities.flatMap clashWarnings ∧
      ∀ w ∈ others, ¬IsClashWarning w := by
  obtain ⟨known, -, h⟩ := Result.ok_of_bind h
  obtain ⟨aboutConfig, hconfig, h⟩ := Result.ok_of_bind h
  obtain ⟨aboutTypes, htypes, h⟩ := Result.ok_of_bind h
  obtain ⟨names, -, h⟩ := Result.ok_of_bind h
  obtain ⟨aboutAccessors, haccessors, h⟩ := Result.ok_of_bind h
  cases h
  cases (accessorWarnings_eq hnames).symm.trans haccessors
  refine ⟨_, rfl, fun w hw hclash => ?_⟩
  obtain ⟨hstart, hend⟩ := hclash.ends
  simp only [List.mem_append, List.mem_flatMap] at hw
  rcases hw with (⟨e, -, hw⟩ | hw) | hw
  · exact entityWarnings_single hw hstart
  · exact config_warnings_start hconfig w hw (.trans (by simp) hstart)
  · rw [typeWarnings_end htypes w hw] at hend
    cases hend

/-! ## Runs that can be checked -/

/-- Only entities are indexed. -/
theorem mem_of_mem_indexEntities {entities : List Entity} {entry : Value × Entity}
    (h : entry ∈ indexEntities entities) : entry.2 ∈ entities := by
  have hall : ∀ entry ∈ indexEntities entities, entry.2 ∈ entities := by
    refine List.foldlRecOn entities _
      (motive := fun index : List (Value × Entity) => ∀ entry ∈ index, entry.2 ∈ entities)
      (fun entry hentry => by cases hentry) fun index hindex e he => ?_
    dsimp only
    split
    · rw [List.forall_mem_map]
      intro entry hentry
      split
      · exact he
      · exact hindex entry hentry
    · exact List.forall_mem_append.2 ⟨hindex, List.forall_mem_singleton.2 he⟩
  exact hall entry h

/-- The UDTs of entities of their kinds are known. -/
theorem knownUdts_succeeds {entities : List Entity} (h : ∀ e ∈ entities, e.WellTyped) :
    Succeeds (knownUdts entities) := by
  have hhashable : (entities.map (·.qualifiedName)).forM (·.checkHashable) = .ok () := by
    refine forM_checkHashable_iff.2 (List.forall_mem_map.2 fun e he => ?_)
    unfold Entity.qualifiedName qualify
    split
    · rfl
    · exact Value.isHashable_of_text (h e he).name
  unfold knownUdts
  rw [hhashable, Result.ok_bind]
  exact Succeeds.mapM fun entry hentry => lowered_succeeds
    (h _ (mem_of_mem_indexEntities (List.mem_of_mem_filter hentry)))

/-- The hints of a lenient map are known. -/
theorem typeHints_succeeds {types : TypeMap} (hstrict : types.strict = false)
    (h : ∀ field ∈ types.overrides, field.2.kind = .text) (members : List Member) :
    Succeeds (typeHints types members) := by
  induction members with
  | nil => exact .ok []
  | cons m rest ih =>
    obtain ⟨type, htype, -⟩ := TypeMap.ofMember_text hstrict h m
    exact Succeeds.bind ⟨type, htype⟩ fun _ _ => ih.bind fun _ _ => .ok _

/-- A run over entities of their kinds can be checked. -/
theorem warnings_succeeds {g : Generator} {entities : List Entity} (hkinds : g.config.WellTyped)
    (h : ∀ e ∈ entities, e.WellTyped) : Succeeds (g.warnings entities) := by
  have hnames : ∀ e ∈ entities, ∀ m ∈ e.members, m.name.kind = .text := fun e he m hm =>
    ((h e he).members m hm).name
  have htypes : Succeeds (g.typeWarnings entities) := by
    unfold typeWarnings
    split
    · exact .ok []
    · rename_i hlenient
      obtain ⟨run, hrun⟩ := run_succeeds hkinds h
      obtain ⟨hstrict, hmap⟩ := run_types_lenient (eq_false_of_ne_true hlenient) hrun
      rw [hmap]
      exact typeHints_succeeds hstrict (run_overrides_text hkinds hrun) _
  have hofEntities : Succeeds (InterfaceNames.ofEntities g.config entities) :=
    ⟨_, ofEntities_ok_iff.2 ⟨fun e he => Value.isHashable_of_text (h e he).schema, rfl⟩⟩
  refine (knownUdts_succeeds h).bind fun known _ => (Config.warnings_succeeds hkinds).bind
    fun aboutConfig _ => htypes.bind fun aboutTypes _ => hofEntities.bind fun names _ => ?_
  rw [accessorWarnings_eq hnames]
  exact .ok _

/-! ## Declared accessors -/

end Generator

/-- The names of the accessors that are declared for a member. -/
def Source.MemberCode.accessors (mode : Mode) (code : MemberCode) : List String :=
  (if mode.immutable then [] else [code.setter]) ++ [code.getter]

namespace Generator

/-- The names of the accessors of a member. -/
def accessorTexts (mode : Mode) (m : Member) : List String :=
  (if mode.immutable then [] else [accessorText "set" m]) ++ [accessorText "get" m]

/-- What is declared for members are their accessors. -/
theorem accessors_eq {g : Generator} {run : Run} {mode : Mode} {print : String → String}
    {members : List Member} {code : List MemberCode}
    (h : List.Forall₂ (fun m c => MemberCode.Describes c e mode (g.services run) print m) members
      code)
    (hnames : ∀ m ∈ members, m.name.kind = .text) :
    code.flatMap (·.accessors mode) = members.flatMap (accessorTexts mode) := by
  induction h with
  | nil => rfl
  | @cons m c members code hm _ ih =>
    obtain ⟨hname, hnames⟩ := List.forall_mem_cons.1 hnames
    have hgetter : (g.services run).names.getter e m = .ok (accessorText "get" m) :=
      accessor_text _ "get" hname
    have hsetter : (g.services run).names.setter e m = .ok (accessorText "set" m) :=
      accessor_text _ "set" hname
    have hcode : c.accessors mode = accessorTexts mode m := by
      rw [MemberCode.accessors, accessorTexts, Except.ok.inj (hm.getter_ok.symm.trans hgetter)]
      cases himmutable : mode.immutable with
      | true => rfl
      | false => rw [Except.ok.inj ((hm.setter_ok himmutable).symm.trans hsetter)]
    rw [List.flatMap_cons, List.flatMap_cons, hcode, ih hnames]

/-- Accessors of two members differ where their getters do. -/
theorem disjoint_accessorTexts_iff (mode : Mode) {m m' : Member} :
    (accessorTexts mode m).Disjoint (accessorTexts mode m') ↔
      accessorText "get" m ≠ accessorText "get" m' := by
  have hsetters := setterText_eq_iff m' m
  rw [ne_comm]
  unfold accessorTexts
  split
  · simp
  · simp [hsetters, setterText_ne_getterText, (setterText_ne_getterText _ _).symm]

/-- Accessors differ where getters do. -/
theorem accessorTexts_nodup_iff (mode : Mode) (members : List Member) :
    (members.flatMap (accessorTexts mode)).Nodup ↔
      (members.map (accessorText "get")).Nodup := by
  have hsingle : ∀ m ∈ members, (accessorTexts mode m).Nodup := fun m _ => by
    unfold accessorTexts
    split
    · simp
    · simp [setterText_ne_getterText]
  rw [List.nodup_flatMap, and_iff_right hsingle, List.Nodup, List.pairwise_map]
  exact List.Pairwise.iff fun _ _ => disjoint_accessorTexts_iff mode

/-- An interface that is printed to its end declares its entity. -/
theorem declares_of_printed {g : Generator} {entities front : List Entity} {run : Run}
    (hkinds : g.config.WellTyped) (hrun : g.run entities = .ok run) {immutable fluent : Bool} :
    let mode : Mode := ⟨immutable, fluent, g.target.dialect⟩
    let printed := interfaceOf e mode (g.services (run.behind front))
    let sheet := printed.2.sheet
    printed.1 = .ok () →
      ∃ code, g.Declares (run.behind front) e mode sheet.scope.print e.members code ∧
        codeOf sheet.lines = code.lines mode := by
  intro mode printed sheet hprinted
  have hprints := services_prints g (run.behind front)
  have hnames : (run.behind front).names.config = g.config :=
    (run.behind_names front).config.trans (run_names_config hrun)
  rcases hparts : interfaceParts e mode (g.services (run.behind front)) g.marks with fault | parts
  · cases (interfaceOf_error hprints hparts).symm.trans hprinted
  · -- the comment on the entity is written, so the width is one that writes all comments
    have hdocs : (docPolicy g.config).Writes := by
      refine (docPolicy_cases hkinds).resolve_right fun hfaults => ?_
      obtain ⟨doc, hdoc, -⟩ := Result.ok_of_bind (InterfaceParts.opens_of_ok hparts).head
      obtain ⟨fault, hfault⟩ := hfaults e
      cases hdoc.symm.trans hfault
    have hparted : printed = (.ok (), parts.progress mode) := interfaceOf_of_parts hprints hparts
    obtain ⟨code, hdescribes, hcode⟩ :=
      codeOf_interface (docs_marked hdocs (run.behind front)) rfl hparts sheet.scope.print
    refine ⟨code, declares_of_describes hnames hdescribes, ?_⟩
    rw [← hcode]
    simp only [sheet, hparted]
    rfl

/-- **Shared accessors are reported.** Let all members of some entities have texts for their names.

* Every member has a setter and a getter, and two members of an entity have the same getter just
  where they have the same setter.
* The warnings of a run over the entities end in those about shared accessors: for each entity, in
  order, one for each member whose getter a member in front of it has. No other warning has their
  wording. There are warnings where settings and entities are of their kinds.
* Where settings are of their kinds, an interface that is printed to its end declares the accessors
  of its members, and these are pairwise different just where the check has no such warning about
  its entity. -/
theorem accessors_warned {entities : List Entity}
    (hnames : ∀ e ∈ entities, ∀ m ∈ e.members, m.name.kind = .text) (g : Generator) :
    (∀ (names : InterfaceNames), ∀ e ∈ entities, ∀ m ∈ e.members,
      Succeeds (names.setter m) ∧ Succeeds (names.getter m) ∧
        ∀ m' ∈ e.members, names.getter m = names.getter m' ↔ names.setter m = names.setter m') ∧
    (∀ warnings, g.warnings entities = .ok warnings →
      ∃ others, warnings = others ++ entities.flatMap clashWarnings ∧
        (∀ w ∈ others, ¬IsClashWarning w) ∧
        ∀ w ∈ entities.flatMap clashWarnings, IsClashWarning w) ∧
    (g.config.WellTyped → (∀ e ∈ entities, e.WellTyped) → Succeeds (g.warnings entities)) ∧
    ∀ e ∈ entities, ∀ run, g.config.WellTyped → g.run entities = .ok run →
      ∀ (front : List Entity) (immutable fluent : Bool),
      let mode : Mode := ⟨immutable, fluent, g.target.dialect⟩
      let printed := interfaceOf e mode (g.services (run.behind front))
      let sheet := printed.2.sheet
      printed.1 = .ok () →
        ∃ code, g.Declares (run.behind front) e mode sheet.scope.print e.members code ∧
          codeOf sheet.lines = code.lines mode ∧
          (clashWarnings e = [] ↔ (code.members.flatMap (·.accessors mode)).Nodup) := by
  refine ⟨fun names e he m hm => ?_, fun warnings h => ?_, warnings_succeeds,
    fun e he run hkinds hrun front immutable fluent hprinted => ?_⟩
  · have haccessor := fun verb {m} hm => accessor_text names verb (hnames e he m hm)
    refine ⟨⟨_, haccessor "set" hm⟩, ⟨_, haccessor "get" hm⟩, fun m' hm' => ?_⟩
    rw [getter, getter, setter, setter, haccessor "get" hm, haccessor "get" hm',
      haccessor "set" hm, haccessor "set" hm', Except.ok.injEq, Except.ok.injEq,
      setterText_eq_iff]
  · obtain ⟨others, hothers, hwording⟩ := warnings_split hnames h
    refine ⟨others, hothers, hwording, fun w hw => ?_⟩
    obtain ⟨e, -, hw⟩ := List.mem_flatMap.1 hw
    exact isClashWarning hw
  · obtain ⟨code, hdeclares, hcode⟩ := declares_of_printed hkinds hrun hprinted
    refine ⟨code, hdeclares, hcode, ?_⟩
    rw [clashWarnings_eq_nil_iff, accessors_eq hdeclares.describes.members (hnames e he),
      accessorTexts_nodup_iff]

/-- A table with three members, two of which have the same name but for its spelling. -/
def tickets : Entity where
  name := .text "ticket"
  schema := .text "desk"
  members := [
    { name := .text "class", qualifiedName := "desk.ticket.class", type := { name := "text" } },
    { name := .text "open_at", qualifiedName := "desk.ticket.open_at", type := { name := "date" } },
    { name := .text "openAt", qualifiedName := "desk.ticket.openAt", type := { name := "date" } }]

/-- The check of the table reports the member that is spelled differently. -/
theorem tickets_warned : (∀ e ∈ [tickets], ∀ m ∈ e.members, m.name.kind = .text) ∧
    plain.config.WellTyped ∧ tickets.WellTyped ∧
    ∃ others, plain.warnings [tickets] = .ok (others ++
      ["Members open_at and openAt of desk.ticket both map to getOpenAt()"]) ∧
      ∀ w ∈ others, ¬IsClashWarning w := by
  have hnames : ∀ e ∈ [tickets], ∀ m ∈ e.members, m.name.kind = .text := by decide
  have hkinds : plain.config.WellTyped := by decide
  have htickets : tickets.WellTyped := by decide
  obtain ⟨-, hsplit, hsucceeds, -⟩ := accessors_warned hnames plain
  obtain ⟨warnings, hwarnings⟩ := hsucceeds hkinds (List.forall_mem_singleton.2 htickets)
  obtain ⟨others, rfl, hothers, -⟩ := hsplit warnings hwarnings
  have hclash : [tickets].flatMap clashWarnings =
      ["Members open_at and openAt of desk.ticket both map to getOpenAt()"] := by decide +kernel
  exact ⟨hnames, hkinds, htickets, others, hclash ▸ hwarnings, hothers⟩

end Generator

end TableInterfaces
