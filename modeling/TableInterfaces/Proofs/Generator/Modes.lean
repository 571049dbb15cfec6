import TableInterfaces.Proofs.Generator.Services

/-!
# The modes of a run

What the modes change in the interfaces of a run. A generator whose settings are of their kinds
prints the interface of an entity in all modes or in none, and what it prints shows one layout.
Main statement:

* `Generator.printed_alike`: without setters the lines are those with setters but for the blocks of
  the setters and the copy methods, under the same imports; fluent setters differ in what they
  return and in nothing else.
-/

namespace TableInterfaces.Generator

open TableInterfaces.Json
open TableInterfaces.Source

variable {g : Generator} {run : Run} {e : Entity}

/-- A member that is printed without its setter can be printed with it. -/
theorem memberParts_withSetter {m : Member} {dialect : Dialect} {fluent fluent' : Bool}
    (hdocs : (docPolicy g.config).Writes)
    (h : Succeeds (memberParts e ⟨true, fluent', dialect⟩ (g.services run) g.marks m)) :
    Succeeds (memberParts e ⟨false, fluent, dialect⟩ (g.services run) g.marks m) := by
  obtain ⟨parts, h⟩ := h
  have hgetter := MemberParts.getter_ok h
  obtain ⟨type, htype, h⟩ := Result.ok_of_bind h
  obtain ⟨text, htext, -⟩ := Result.ok_of_bind h
  -- the setter asks for the comment and the name of the member again, under another title and verb
  obtain ⟨doc, hdoc, hrest⟩ := Result.ok_of_bind hgetter
  obtain ⟨_, _, hname⟩ := Result.ok_of_bind hrest
  obtain ⟨name, hname, -⟩ := Result.ok_of_bind hname
  obtain ⟨described, hdescribed, -⟩ := Result.ok_of_bind hdoc
  have hsetter : Succeeds (setterParts e (g.services run) m) :=
    ((Comment.describe_other ⟨described, hdescribed⟩ _).bind fun _ _ => hdocs.format _).bind
      fun _ _ => (Naming.InterfaceNames.accessor_other ⟨name, hname⟩ "set").bind fun _ _ => .ok _
  unfold memberParts
  rw [htype, Result.ok_bind, htext, Result.ok_bind]
  exact (hsetter.map some).bind fun _ _ => Succeeds.bind ⟨_, hgetter⟩ fun _ _ => .ok _

/-- An interface that is printed without setters and copy methods can be printed with them. -/
theorem interfaceParts_withSetters (hconfig : g.config.WellTyped) {dialect : Dialect}
    {fluent fluent' : Bool}
    (h : Succeeds (interfaceParts e ⟨true, fluent', dialect⟩ (g.services run) g.marks)) :
    Succeeds (interfaceParts e ⟨false, fluent, dialect⟩ (g.services run) g.marks) := by
  obtain ⟨parts, h⟩ := h
  have ho : parts.Opens e dialect (g.services run) g.marks := InterfaceParts.opens_of_ok h
  obtain ⟨-, -, -, -, hmembers⟩ := InterfaceParts.of_ok h
  obtain ⟨doc, hdoc, -⟩ := Result.ok_of_bind ho.head
  have hdocs : (docPolicy g.config).Writes := by
    refine (docPolicy_cases hconfig).resolve_right fun hnone => ?_
    obtain ⟨fault, hfault⟩ := hnone e
    exact absurd (hdoc.symm.trans hfault) (by simp)
  have hmembers : Succeeds (e.members.mapM
      (memberParts e ⟨false, fluent, dialect⟩ (g.services run) g.marks)) :=
    Succeeds.mapM fun m hm => by
      obtain ⟨part, -, hpart⟩ := Result.ok_of_mapM hmembers m hm
      exact memberParts_withSetter hdocs ⟨part, hpart⟩
  exact ho.succeeds hmembers (copyParts_succeeds hdocs _)

/-- An interface that is not printed with setters and copy methods is not printed without them. -/
theorem interfaceOf_all_error (hconfig : g.config.WellTyped) {dialect : Dialect} {fault : Fault}
    (h : interfaceParts e ⟨false, false, dialect⟩ (g.services run) g.marks = .error fault)
    (immutable fluent : Bool) :
    ∃ fault, (interfaceOf e ⟨immutable, fluent, dialect⟩ (g.services run)).1 = .error fault := by
  rcases hparts : interfaceParts e ⟨immutable, fluent, dialect⟩ (g.services run) g.marks with
    cause | parts
  · exact ⟨cause, interfaceOf_error (services_prints g run) hparts⟩
  · have hsucceeds : Succeeds
        (interfaceParts e ⟨false, false, dialect⟩ (g.services run) g.marks) := by
      cases immutable with
      | true => exact interfaceParts_withSetters hconfig ⟨parts, hparts⟩
      | false => exact ⟨parts, hparts⟩
    obtain ⟨others, hothers⟩ := hsucceeds
    exact absurd (h.symm.trans hothers) (by simp)

/-- An interface of values of their kinds is printed by one layout also where it stops. -/
theorem printed_alike_stopped (hconfig : g.config.WellTyped)
    (hnames : run.names.config.WellTyped) (he : e.WellTyped) {dialect : Dialect} {fault : Fault}
    (h : interfaceParts e ⟨false, false, dialect⟩ (g.services run) g.marks = .error fault) :
    ∃ interface printed unprinted fault layout scope asked,
      (g.services run).names.interface e = .ok interface ∧
      e.members = printed ++ unprinted ∧ layout.copies = [] ∧ layout.closing = [] ∧
      PrintsLayout e dialect (g.services run) g.marks interface (.error fault) printed layout scope
        asked := by
  rcases docPolicy_cases hconfig with hdocs | hnone
  · obtain ⟨opening, ho⟩ := opens (g := g) hnames he (hdocs.entityDoc he.comment) dialect
    rcases Result.mapM_cases (memberParts e ⟨false, false, dialect⟩ (g.services run) g.marks)
      e.members with ⟨members, hmembers⟩ | ⟨front, m, back, parts, cause, hsplit, hfront, hm, -⟩
    · obtain ⟨parts, hparts⟩ : Succeeds (interfaceParts e ⟨false, false, dialect⟩ (g.services run)
          g.marks) := ho.succeeds ⟨members, hmembers⟩ (copyParts_succeeds hdocs _)
      exact absurd (h.symm.trans hparts) (by simp)
    · have hmem : m ∈ e.members := hsplit ▸ List.mem_append_right _ List.mem_cons_self
      rcases htype : (g.services run).typeOf e m >>= typeText with stop | text
      · obtain ⟨layout, scope, asked, hprinted, hcopies, hclosing⟩ :=
          interfaceOf_stopped (services_prints g run) ho hsplit hfront htype
        exact ⟨_, front, m :: back, stop, layout, scope, asked, ho.interface, hsplit, hcopies,
          hclosing, hprinted⟩
      · obtain ⟨part, hpart⟩ : Succeeds (memberParts e ⟨false, false, dialect⟩ (g.services run)
            g.marks m) := memberParts_succeeds hdocs (he.members m hmem) ⟨text, htype⟩
        exact absurd (hm.symm.trans hpart) (by simp)
  · obtain ⟨cause, hdoc⟩ := hnone e
    obtain ⟨package, hpackage⟩ : Succeeds ((g.services run).names.package e) :=
      Naming.InterfaceNames.package_succeeds hnames he.schema
    obtain ⟨interface, hinterface⟩ : Succeeds (run.names.interface e) :=
      Naming.InterfaceNames.interface_succeeds he.name
    obtain ⟨qualified, hqualified⟩ :=
      Naming.InterfaceNames.qualifiedInterface_succeeds hnames he.schema he.name
    obtain ⟨layout, scope, asked, hprinted, hcopies, hclosing⟩ :=
      interfaceOf_unopened dialect g.marks hpackage hinterface hqualified hdoc
    exact ⟨interface, [], e.members, cause, layout, scope, asked, hinterface, rfl, hcopies,
      hclosing, hprinted⟩

/-- **One layout for all modes.** Let the settings of a generator be of their kinds. In every state
of a run the interface of an entity is printed in one of three ways:

* in all modes to its end, by one layout: without setters the lines are those with setters but for
  the block of each setter (an empty line, its comment and its declaration) and the copy methods
  with their banner; the scope, and with it the imports, is the same; whether setters are fluent
  only shows in the return type of their declarations, and not at all without setters;
* in all modes up to the same fault, again by one layout of what is printed in front of it;
* in no mode, if a name or a comment of the entity is not of the kind that is asked for. -/
theorem printed_alike (hconfig : g.config.WellTyped) {entities : List Entity}
    (hrun : g.run entities = .ok run) (front : List Entity) (e : Entity) :
    let services := g.services (run.behind front)
    let dialect := g.target.dialect
    (∃ interface qualified copies layout scope asked,
      services.names.interface e = .ok interface ∧
      services.names.qualifiedInterface e = .ok qualified ∧
      copyParts services interface = .ok copies ∧
      layout.copies = copies.lines dialect qualified ∧
      PrintsLayout e dialect services g.marks interface (.ok ()) e.members layout scope asked) ∨
    (∃ interface printed unprinted fault layout scope asked,
      services.names.interface e = .ok interface ∧
      e.members = printed ++ unprinted ∧
      layout.copies = [] ∧ layout.closing = [] ∧
      PrintsLayout e dialect services g.marks interface (.error fault) printed layout scope asked) ∨
    ¬e.WellTyped ∧ ∀ immutable fluent, ∃ fault,
      (interfaceOf e ⟨immutable, fluent, dialect⟩ services).1 = .error fault := by
  intro services dialect
  have hprints : services.annotations.Prints g.marks := services_prints g _
  have hnames : (run.behind front).names.config.WellTyped := by
    rw [(run.behind_names front).config, run_names_config hrun]
    exact hconfig
  rcases hparts : interfaceParts e ⟨false, false, dialect⟩ services g.marks with fault | parts
  · by_cases he : e.WellTyped
    · exact .inr (.inl (printed_alike_stopped hconfig hnames he hparts))
    · exact .inr (.inr ⟨he, interfaceOf_all_error hconfig hparts⟩)
  · have ho := InterfaceParts.opens_of_ok hparts
    obtain ⟨layout, scope, asked, copies, hprinted, hcopies, hlines⟩ :=
      interfaceOf_layout hprints hparts
    exact .inl ⟨parts.interface, parts.qualified, copies, layout, scope, asked, ho.interface,
      ho.qualified, hcopies, hlines, hprinted⟩

/-- A table with two columns. -/
def people : Entity where
  name := .text "person"
  schema := .text "hr"
  members := [
    { name := .text "id", qualifiedName := "hr.person.id", position := 1
      type := { name := "integer" }, primaryKey := .bool true },
    { name := .text "born_on", qualifiedName := "hr.person.born_on", position := 2
      type := { name := "date" } }]

/-- A generator of interfaces without comments. -/
def uncommented : Generator where
  target := .java
  config := { setting := fun
    | .addComments => .bool false
    | s => s.default }

/-- The table is printed to its end in all modes. -/
theorem people_printed_alike : ∃ run, uncommented.run [people] = .ok run ∧
    ∃ interface layout scope asked,
      PrintsLayout people .interfaces (uncommented.services run) uncommented.marks interface
        (.ok ()) people.members layout scope asked := by
  have hconfig : uncommented.config.WellTyped := by decide
  have hcheck : (match uncommented.run [people] with
      | .ok run =>
        (interfaceOf people ⟨false, false, .interfaces⟩ (uncommented.services run)).1.isOk
      | .error _ => false) = true := by decide +kernel
  cases hrun : uncommented.run [people] with
  | error fault => rw [hrun] at hcheck; cases hcheck
  | ok run =>
    rw [hrun] at hcheck
    refine ⟨run, rfl, ?_⟩
    rcases printed_alike hconfig hrun [] people with
      ⟨interface, _, _, layout, scope, asked, -, -, -, -, hprinted⟩ |
      ⟨interface, _, _, fault, _, _, _, -, -, -, -, hstopped⟩ | ⟨hpeople, -⟩
    · exact ⟨interface, layout, scope, asked, hprinted⟩
    · have hfull := congrArg (Except.isOk ·.1) (hstopped.full false)
      exact absurd (hcheck.symm.trans hfull) Bool.noConfusion
    · exact absurd (by decide) hpeople

end TableInterfaces.Generator
