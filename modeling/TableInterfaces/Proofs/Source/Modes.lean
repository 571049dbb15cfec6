import TableInterfaces.Proofs.Source.Layout

/-!
# One layout for all modes

The modes of an interface decide whether setters and copy methods are printed and what setters
return. `Layout` holds what all modes print of an interface; `Layout.full` and `Layout.readOnly` are
its lines with and without setters and copies. Main statements:

* `interfaceOf_layout`: printing without and with setters fills two sheets by one layout and with
  one scope, whatever setters return.
* `interfaceOf_stopped` and `interfaceOf_unopened`: the same holds where the type of a member or the
  comment on the entity stops the printing.
-/

namespace TableInterfaces.Source

open TableInterfaces.Json

/-! ## Layouts -/

/-- The accessors of a member: the parts of its setter, its type as it is printed, and the lines of
its getter. -/
structure AccessorLayout where
  setter : Accessor
  type : String
  getter : List Line

/-- The block of a setter: an empty line, the comment and the declaration. -/
def AccessorLayout.setterBlock (a : AccessorLayout) (dialect : Dialect) (returnType : String) :
    List Line :=
  commentLines a.setter.doc ++ [⟨1, dialect.setter a.setter.name a.type returnType⟩]

/-- The lines of an interface by what the modes do with them: those in front of the members, the
accessors, the copy methods, and those at the end. -/
structure Layout where
  top : List Line
  accessors : List AccessorLayout
  copies : List Line
  closing : List Line

namespace Layout

/-- The lines with setters and copy methods. -/
def full (layout : Layout) (dialect : Dialect) (returnType : String) : List Line :=
  layout.top ++ layout.accessors.flatMap (fun a => a.setterBlock dialect returnType ++ a.getter) ++
    layout.copies ++ layout.closing

/-- The lines without setters and copy methods. -/
def readOnly (layout : Layout) : List Line :=
  layout.top ++ layout.accessors.flatMap (·.getter) ++ layout.closing

end Layout

/-- The accessors of a member are laid out as the services say, with types printed by `print`. -/
structure AccessorLayout.Describes (a : AccessorLayout) (e : Entity) (dialect : Dialect)
    (services : Services) (marks : MarkService) (print : String → String) (m : Member) : Prop where
  type_ok : ∃ type, services.typeOf e m = .ok (.text type) ∧ a.type = print type
  setter_ok : setterParts e services m = .ok a.setter
  getter_ok : ∃ getter ks, getterParts e services marks m = .ok (getter, ks) ∧
    a.getter = commentLines getter.doc ++ (ks.map (·.line print)).map (⟨1, ·⟩) ++
      [⟨1, dialect.getter getter.name a.type⟩]

/-! ## Drafts of members -/

namespace MemberParts

/-- A member without its setter. -/
def readOnly (parts : MemberParts) : MemberParts :=
  { parts with setter := none }

/-- The lines of a getter behind its annotations. -/
def getterLines (parts : MemberParts) (dialect : Dialect) (f : String → String) : List Line :=
  commentLines parts.getter.doc ++ (parts.marks.map (·.line f)).map (⟨1, ·⟩) ++
    [⟨1, dialect.getter parts.getter.name (f parts.type)⟩]

/-- The accessors of a member whose setter is known, as they are laid out. -/
def layout (parts : MemberParts) (setter : Accessor) (dialect : Dialect) (f : String → String) :
    AccessorLayout where
  setter := setter
  type := f parts.type
  getter := parts.getterLines dialect f

end MemberParts

theorem membersDraft_names (dialect : Dialect) (returnType : String) (parts : List MemberParts) :
    (membersDraft dialect returnType parts).names =
      parts.flatMap fun p => p.type :: markTypes p.marks := by
  induction parts with
  | nil => rfl
  | cons p rest ih =>
    rw [membersDraft, Draft.names_append, ih, List.flatMap_cons]
    rfl

theorem membersDraft_asked (dialect : Dialect) (returnType : String) (parts : List MemberParts) :
    (membersDraft dialect returnType parts).asked = parts.map (·.member) := by
  induction parts with
  | nil => rfl
  | cons p rest ih =>
    rw [membersDraft, Draft.asked_append, ih, List.map_cons]
    rfl

theorem membersDraft_lines (dialect : Dialect) (returnType : String) (parts : List MemberParts)
    (f : String → String) :
    (membersDraft dialect returnType parts).lines f =
      parts.flatMap fun p => p.setterLines dialect returnType f ++ p.getterLines dialect f := by
  induction parts with
  | nil => rfl
  | cons p rest ih =>
    rw [membersDraft, Draft.lines_append, ih, List.flatMap_cons]
    simp [MemberParts.draft, MemberParts.getterLines, Draft.ofMarks]

/-! ## Members with and without setters -/

section

variable {e : Entity} {dialect : Dialect} {services : Services} {marks : MarkService}

/-- A member that has parts with a setter has the same ones without it. -/
theorem memberParts_readOnly {fluent : Bool} (fluent' : Bool) {m : Member} {parts : MemberParts}
    (h : memberParts e ⟨false, fluent, dialect⟩ services marks m = .ok parts) :
    memberParts e ⟨true, fluent', dialect⟩ services marks m = .ok parts.readOnly ∧
      ∃ setter, parts.setter = some setter ∧ ∀ print,
        (parts.layout setter dialect print).Describes e dialect services marks print m := by
  obtain ⟨type, htype, h⟩ := Result.ok_of_bind h
  obtain ⟨text, htext, h⟩ := Result.ok_of_bind h
  rw [if_neg Bool.false_ne_true] at h
  obtain ⟨setter, hsetter, h⟩ := Result.ok_of_bind h
  obtain ⟨s, hs, hsome⟩ := Result.ok_of_bind ((map_eq_pure_bind _ _).symm.trans hsetter)
  obtain ⟨⟨getter, ks⟩, hgetter, h⟩ := Result.ok_of_bind h
  cases hsome
  cases h
  refine ⟨?_, s, rfl, fun print =>
    ⟨⟨text, typeText_ok_iff.1 htext ▸ htype, rfl⟩, hs, getter, ks, hgetter, rfl⟩⟩
  unfold memberParts
  rw [htype, Result.ok_bind, htext, Result.ok_bind]
  dsimp only
  rw [if_pos rfl, pure_bind, hgetter]
  rfl

/-- Members with setters are laid out by their accessors. -/
theorem membersLayout {fluent : Bool} (fluent' : Bool) {members : List Member}
    {parts : List MemberParts}
    (h : members.mapM (memberParts e ⟨false, fluent, dialect⟩ services marks) = .ok parts)
    (print : String → String) :
    members.mapM (memberParts e ⟨true, fluent', dialect⟩ services marks) =
        .ok (parts.map MemberParts.readOnly) ∧
      ∃ accessors : List AccessorLayout,
        List.Forall₂ (fun m a => a.Describes e dialect services marks print m) members accessors ∧
        (∀ returnType, (membersDraft dialect returnType parts).lines print =
          accessors.flatMap fun a => a.setterBlock dialect returnType ++ a.getter) ∧
        ∀ returnType, (membersDraft dialect returnType
          (parts.map MemberParts.readOnly)).lines print = accessors.flatMap (·.getter) := by
  simp only [membersDraft_lines]
  induction members generalizing parts with
  | nil => cases h; exact ⟨rfl, [], .nil, fun _ => rfl, fun _ => rfl⟩
  | cons m rest ih =>
    rw [List.mapM_cons] at h
    obtain ⟨first, hfirst, h⟩ := Result.ok_of_bind h
    obtain ⟨later, hlater, h⟩ := Result.ok_of_bind h
    cases h
    obtain ⟨hreadOnly, setter, hsetter, hdescribes⟩ :=
      memberParts_readOnly fluent' hfirst
    obtain ⟨hreadOnlyLater, accessors, hrest, hfull, hgetters⟩ := ih hlater
    refine ⟨?_, first.layout setter dialect print :: accessors, .cons (hdescribes print) hrest,
      fun returnType => ?_, fun returnType => ?_⟩
    · rw [List.mapM_cons, hreadOnly, Result.ok_bind, hreadOnlyLater]
      rfl
    · rw [List.flatMap_cons, List.flatMap_cons, hfull, MemberParts.setterLines, hsetter]
      rfl
    · rw [List.map_cons, List.flatMap_cons, List.flatMap_cons, hgetters]
      rfl

/-! ## Finished interfaces -/

/-- The draft of an interface up to its members. -/
def InterfaceParts.opening (parts : InterfaceParts) (mode : Mode) : Draft :=
  parts.top mode ++ .ofLines (builderLines parts.builder)

/-- The parts of an interface without setters and copy methods. -/
def InterfaceParts.readOnly (parts : InterfaceParts) : InterfaceParts :=
  { parts with members := parts.members.map MemberParts.readOnly, copies := none }

/-- Drafts of members refer to the same names with and without setters. -/
theorem membersDraft_readOnly_names (returnType returnType' : String) (parts : List MemberParts) :
    (membersDraft dialect returnType (parts.map MemberParts.readOnly)).names =
      (membersDraft dialect returnType' parts).names := by
  rw [membersDraft_names, membersDraft_names, List.flatMap_map]
  rfl

/-- Drafts of members ask for the same annotations with and without setters. -/
theorem membersDraft_readOnly_asked (returnType returnType' : String) (parts : List MemberParts) :
    (membersDraft dialect returnType (parts.map MemberParts.readOnly)).asked =
      (membersDraft dialect returnType' parts).asked := by
  rw [membersDraft_asked, membersDraft_asked, List.map_map]
  rfl

/-- The parts of an interface with setters, and those of the same interface without. -/
theorem interfaceParts_readOnly {fluent : Bool} (fluent' : Bool) {parts : InterfaceParts}
    (h : interfaceParts e ⟨false, fluent, dialect⟩ services marks = .ok parts) :
    interfaceParts e ⟨true, fluent', dialect⟩ services marks = .ok parts.readOnly ∧
      e.members.mapM (memberParts e ⟨false, fluent, dialect⟩ services marks) = .ok parts.members ∧
      ∃ copies, parts.copies = some copies ∧ copyParts services parts.interface = .ok copies := by
  obtain ⟨package, hpackage, h⟩ := Result.ok_of_bind h
  obtain ⟨interface, hinterface, h⟩ := Result.ok_of_bind h
  obtain ⟨qualified, hqualified, h⟩ := Result.ok_of_bind h
  obtain ⟨head, hhead, h⟩ := Result.ok_of_bind h
  obtain ⟨builder, hbuilder, h⟩ := Result.ok_of_bind h
  obtain ⟨members, hmembers, h⟩ := Result.ok_of_bind h
  rw [if_neg Bool.false_ne_true] at h
  obtain ⟨copies, hcopies, h⟩ := Result.ok_of_bind h
  obtain ⟨c, hc, hsome⟩ := Result.ok_of_bind ((map_eq_pure_bind _ _).symm.trans hcopies)
  cases hsome
  cases h
  refine ⟨?_, hmembers, c, rfl, hc⟩
  obtain ⟨hreadOnly, -⟩ := membersLayout fluent' hmembers id
  unfold interfaceParts
  rw [hpackage, Result.ok_bind, hinterface, Result.ok_bind, hqualified, Result.ok_bind, hhead,
    Result.ok_bind, show builderParts e dialect services = .ok builder from hbuilder,
    Result.ok_bind, hreadOnly]
  rfl

/-- A draft written on an empty sheet, in terms of its names, its lines in the scope behind them and
the members whose annotations it asks for. -/
theorem Progress.write_start (scope : Scope) {d : Draft} {names : List String} {lines : List Line}
    {asked : List Member} (hn : d.names = names)
    (hl : d.lines (scope.useAll (usesOf names)).print = lines) (ha : d.asked = asked) :
    (Progress.mk ⟨[], scope⟩ []).write d = ⟨⟨lines, scope.useAll (usesOf names)⟩, asked⟩ := by
  rw [write, hn, ha]
  simp [hl]

/-- In all modes printing gives the same result and fills a sheet by one layout, with one scope and
with the same annotations asked for. The accessors are those of the members that are `printed`. -/
structure PrintsLayout (e : Entity) (dialect : Dialect) (services : Services) (marks : MarkService)
    (interface : String) (result : Result Unit) (printed : List Member) (layout : Layout)
    (scope : Scope) (asked : List Member) : Prop where
  accessors : List.Forall₂
    (fun m a => AccessorLayout.Describes a e dialect services marks scope.print m) printed
    layout.accessors
  full : ∀ fluent, interfaceOf e ⟨false, fluent, dialect⟩ services =
    (result, ⟨⟨layout.full dialect (Mode.returnType ⟨false, fluent, dialect⟩ interface), scope⟩,
      asked⟩)
  readOnly : ∀ fluent, interfaceOf e ⟨true, fluent, dialect⟩ services =
    (result, ⟨⟨layout.readOnly, scope⟩, asked⟩)

/-- **One layout for all modes.** An interface that is printed with setters is printed without them,
too, into a sheet with the same scope; both show one layout, and what setters return only shows in
their declarations. -/
theorem interfaceOf_layout (h : services.annotations.Prints marks) {parts : InterfaceParts}
    (hparts : interfaceParts e ⟨false, false, dialect⟩ services marks = .ok parts) :
    ∃ layout scope asked copies,
      PrintsLayout e dialect services marks parts.interface (.ok ()) e.members layout scope asked ∧
      copyParts services parts.interface = .ok copies ∧
      layout.copies = copies.lines dialect parts.qualified := by
  obtain ⟨-, hmembers, copies, hcopies, hcopyParts⟩ :=
    interfaceParts_readOnly false hparts
  let opened := (Sheet.blank dialect).scope.opened parts.package parts.interface
  let draft := parts.draft ⟨false, false, dialect⟩
  let scope := opened.useAll (usesOf draft.names)
  obtain ⟨-, accessors, hdescribes, hfull, hgetters⟩ :=
    membersLayout false hmembers scope.print
  let layout : Layout := {
    top := (parts.opening ⟨false, false, dialect⟩).lines scope.print
    accessors
    copies := copies.lines dialect parts.qualified
    closing := parts.footer ++ [⟨0, closeBrace⟩] }
  refine ⟨layout, scope, draft.asked, copies, ⟨hdescribes, fun fluent => ?_, fun fluent => ?_⟩,
    hcopyParts, rfl⟩
  · have hp : interfaceParts e ⟨false, fluent, dialect⟩ services marks = .ok parts := hparts
    have hnames : (parts.draft ⟨false, fluent, dialect⟩).names = draft.names := by
      simp only [draft, InterfaceParts.draft, InterfaceParts.body, Draft.names_append,
        membersDraft_names]
      rfl
    have hasked : (parts.draft ⟨false, fluent, dialect⟩).asked = draft.asked := by
      simp only [draft, InterfaceParts.draft, InterfaceParts.body, Draft.asked_append,
        membersDraft_asked]
      rfl
    have hlines : (parts.draft ⟨false, fluent, dialect⟩).lines scope.print =
        layout.full dialect (Mode.returnType ⟨false, fluent, dialect⟩ parts.interface) := by
      simp only [InterfaceParts.draft, InterfaceParts.body, Draft.lines_append, hfull,
        InterfaceParts.bottomLines, hcopies, layout, Layout.full, InterfaceParts.opening,
        List.append_assoc]
      rfl
    rw [interfaceOf_of_parts h hp]
    exact congrArg (Prod.mk _) (Progress.write_start opened hnames hlines hasked)
  · have hp := (interfaceParts_readOnly fluent hparts).1
    have hnames : (parts.readOnly.draft ⟨true, fluent, dialect⟩).names = draft.names := by
      simp only [draft, InterfaceParts.draft, InterfaceParts.body, InterfaceParts.readOnly,
        Draft.names_append,
        membersDraft_readOnly_names _ (Mode.returnType ⟨false, false, dialect⟩ parts.interface)]
      rfl
    have hasked : (parts.readOnly.draft ⟨true, fluent, dialect⟩).asked = draft.asked := by
      simp only [draft, InterfaceParts.draft, InterfaceParts.body, InterfaceParts.readOnly,
        Draft.asked_append,
        membersDraft_readOnly_asked _ (Mode.returnType ⟨false, false, dialect⟩ parts.interface)]
      rfl
    have hlines : (parts.readOnly.draft ⟨true, fluent, dialect⟩).lines scope.print =
        layout.readOnly := by
      simp only [InterfaceParts.draft, InterfaceParts.body, InterfaceParts.readOnly,
        Draft.lines_append, hgetters, InterfaceParts.bottomLines, layout, Layout.readOnly,
        InterfaceParts.opening, List.append_assoc]
      rfl
    rw [interfaceOf_of_parts h hp]
    exact congrArg (Prod.mk _) (Progress.write_start opened hnames hlines hasked)

/-! ## Interfaces that stop at a member -/

/-- Printing a member whose type has no text stops before its first line. -/
theorem run_printMember_stopped {mode : Mode} {m : Member} {fault : Fault}
    (hm : (services.typeOf e m >>= typeText) = .error fault) (returnType : String) (p : Progress) :
    (printMember e mode services returnType m).run p = (.error fault, p) := by
  unfold printMember
  cases htype : services.typeOf e m with
  | error cause =>
    rw [htype] at hm
    cases hm
    exact run_bind_of_error rfl _
  | ok type =>
    rw [htype, Result.ok_bind] at hm
    refine (run_bind_of_ok (by rw [Printing.outcome_ofResult]; rfl) _).trans ?_
    refine run_bind_of_error ?_ _
    cases type with
    | text s => cases hm
    | _ => cases hm; rfl

/-- Printing members stops at one whose type has no text; those in front of it are printed. -/
theorem run_printMembers_stopped (h : services.annotations.Prints marks) {mode : Mode}
    {front : List Member} {m : Member} {parts : List MemberParts} {fault : Fault}
    (hfront : front.mapM (memberParts e mode services marks) = .ok parts)
    (hm : (services.typeOf e m >>= typeText) = .error fault) (returnType : String)
    (back : List Member) (p : Progress) :
    (printMembers e mode services returnType (front ++ m :: back)).run p =
      (.error fault, p.write (membersDraft mode.dialect returnType parts)) := by
  induction front generalizing p parts with
  | nil =>
    cases hfront
    exact (run_bind_of_error (run_printMember_stopped hm returnType p) _).trans
      (congrArg (Prod.mk _) p.write_empty.symm)
  | cons first rest ih =>
    rw [List.mapM_cons] at hfront
    obtain ⟨firstParts, hfirst, hfront⟩ := Result.ok_of_bind hfront
    obtain ⟨later, hlater, hfront⟩ := Result.ok_of_bind hfront
    cases hfront
    have hrun : outcome (printMember e mode services returnType first) p = _ :=
      Printing.outcome_printMember h returnType first p
    rw [hfirst, Result.ok_bind] at hrun
    rw [membersDraft, ← Progress.write_append]
    exact (run_bind_of_ok hrun _).trans (ih hlater _)

/-- Printing the package line opens the scope of the file. -/
theorem outcome_printPackage (mode : Mode) (package interface : String) :
    outcome (printPackage mode package interface) { sheet := Sheet.blank mode.dialect } =
      .ok ((), (Progress.mk ⟨[], (Sheet.blank mode.dialect).scope.opened package interface⟩
        []).write (.ofLines [⟨0, mode.dialect.packageLine package⟩, ⟨0, ""⟩])) := by
  unfold printPackage
  simp only [outcome_bind, Printing.outcome_scope, Printing.outcome_setScope,
    Printing.outcome_println, Result.ok_bind, Progress.write_append]
  rfl

/-- Printing an interface starts with its opening and goes on with the members. -/
theorem interfaceOf_opened (h : services.annotations.Prints marks) {mode : Mode}
    {parts : InterfaceParts} (ho : parts.Opens e mode.dialect services marks) :
    ∃ rest : Unit → Printing Unit, interfaceOf e mode services =
      (printMembers e mode services (mode.returnType parts.interface) e.members >>= rest).run
        ((Progress.mk ⟨[], (Sheet.blank mode.dialect).scope.opened parts.package
          parts.interface⟩ []).write (parts.opening mode)) := by
  rw [interfaceOf, printInterface,
    run_bind_of_ok (by rw [Printing.outcome_ofResult, ho.package]; rfl),
    run_bind_of_ok (by rw [Printing.outcome_ofResult, ho.interface]; rfl),
    run_bind_of_ok (by rw [Printing.outcome_ofResult, ho.qualified]; rfl),
    run_bind_of_ok (outcome_printPackage mode parts.package parts.interface),
    run_bind_of_ok (by rw [Printing.outcome_printHeader h, ho.head]; rfl),
    run_bind_of_ok (by rw [Printing.outcome_printBuilder, ho.builder]; rfl)]
  simp only [Progress.write_append]
  exact ⟨_, rfl⟩

/-- Where the type of a member has no text, printing stops with the draft of the members in front of
it. -/
theorem interfaceOf_of_front (mode : Mode) (h : services.annotations.Prints marks)
    {opening : InterfaceParts} (ho : opening.Opens e mode.dialect services marks)
    {front back : List Member} {m : Member} (hmembers : e.members = front ++ m :: back)
    {parts : List MemberParts} {fault : Fault}
    (hfront : front.mapM (memberParts e mode services marks) = .ok parts)
    (hm : (services.typeOf e m >>= typeText) = .error fault) :
    interfaceOf e mode services = (.error fault, (Progress.mk ⟨[],
      (Sheet.blank mode.dialect).scope.opened opening.package opening.interface⟩ []).write
        (opening.opening mode ++
          membersDraft mode.dialect (mode.returnType opening.interface) parts)) := by
  obtain ⟨rest, hopened⟩ := interfaceOf_opened h ho
  rw [hopened, hmembers, ← Progress.write_append]
  exact run_bind_of_error (run_printMembers_stopped h hfront hm _ back _) rest

/-- **One layout where printing stops.** If the type of a member has no text, printing stops there
in all modes, and shows one layout for what is in front of it. -/
theorem interfaceOf_stopped (h : services.annotations.Prints marks) {opening : InterfaceParts}
    (ho : opening.Opens e dialect services marks) {front back : List Member} {m : Member}
    (hmembers : e.members = front ++ m :: back) {parts : List MemberParts} {fault : Fault}
    (hfront : front.mapM (memberParts e ⟨false, false, dialect⟩ services marks) = .ok parts)
    (hm : (services.typeOf e m >>= typeText) = .error fault) :
    ∃ layout scope asked,
      PrintsLayout e dialect services marks opening.interface (.error fault) front layout scope
        asked ∧ layout.copies = [] ∧ layout.closing = [] := by
  let opened := (Sheet.blank dialect).scope.opened opening.package opening.interface
  let start := opening.opening ⟨false, false, dialect⟩
  let draft := start ++ membersDraft dialect "" parts
  let scope := opened.useAll (usesOf draft.names)
  obtain ⟨-, accessors, hdescribes, hfull, hgetters⟩ :=
    membersLayout false hfront scope.print
  let layout : Layout := { top := start.lines scope.print, accessors, copies := [], closing := [] }
  refine ⟨layout, scope, draft.asked, ⟨hdescribes, fun fluent => ?_, fun fluent => ?_⟩, rfl, rfl⟩
  · have hnames : (start ++ membersDraft dialect (Mode.returnType ⟨false, fluent, dialect⟩
        opening.interface) parts).names = draft.names := by
      simp only [draft, Draft.names_append, membersDraft_names]
    have hasked : (start ++ membersDraft dialect (Mode.returnType ⟨false, fluent, dialect⟩
        opening.interface) parts).asked = draft.asked := by
      simp only [draft, Draft.asked_append, membersDraft_asked]
    refine (interfaceOf_of_front ⟨false, fluent, dialect⟩ h ho hmembers hfront hm).trans
      (congrArg (Prod.mk _) (Progress.write_start opened hnames ?_ hasked))
    rw [Draft.lines_append, hfull]
    simp [layout, Layout.full]
    rfl
  · have hp := (membersLayout fluent hfront id).1
    have hnames : (start ++ membersDraft dialect (Mode.returnType ⟨true, fluent, dialect⟩
        opening.interface) (parts.map MemberParts.readOnly)).names = draft.names := by
      simp only [draft, Draft.names_append, membersDraft_readOnly_names _ ""]
    have hasked : (start ++ membersDraft dialect (Mode.returnType ⟨true, fluent, dialect⟩
        opening.interface) (parts.map MemberParts.readOnly)).asked = draft.asked := by
      simp only [draft, Draft.asked_append, membersDraft_readOnly_asked _ ""]
    refine (interfaceOf_of_front ⟨true, fluent, dialect⟩ h ho hmembers hp hm).trans
      (congrArg (Prod.mk _) (Progress.write_start opened hnames ?_ hasked))
    rw [Draft.lines_append, hgetters]
    simp [layout, Layout.readOnly]
    rfl

/-- **One layout where the comment on the entity stops the printing.** It ends behind the package
line in all modes. -/
theorem interfaceOf_unopened (dialect : Dialect) (marks : MarkService)
    {package interface qualified : String} {fault : Fault}
    (hpackage : services.names.package e = .ok package)
    (hinterface : services.names.interface e = .ok interface)
    (hqualified : services.names.qualifiedInterface e = .ok qualified)
    (hdoc : services.docs.entityDoc e = .error fault) :
    ∃ layout scope asked,
      PrintsLayout e dialect services marks interface (.error fault) [] layout scope asked ∧
        layout.copies = [] ∧ layout.closing = [] := by
  have hrun : ∀ mode : Mode, interfaceOf e mode services = (.error fault,
      (Progress.mk ⟨[], (Sheet.blank mode.dialect).scope.opened package interface⟩ []).write
        (.ofLines [⟨0, mode.dialect.packageLine package⟩, ⟨0, ""⟩])) := fun mode => by
    have hheader : ∀ p, (printHeader e mode services interface).run p = (.error fault, p) :=
      fun p => run_bind_of_error (by rw [hdoc]; rfl) _
    rw [interfaceOf, printInterface,
      run_bind_of_ok (by rw [Printing.outcome_ofResult, hpackage]; rfl),
      run_bind_of_ok (by rw [Printing.outcome_ofResult, hinterface]; rfl),
      run_bind_of_ok (by rw [Printing.outcome_ofResult, hqualified]; rfl),
      run_bind_of_ok (outcome_printPackage mode package interface)]
    exact run_bind_of_error (hheader _) _
  exact ⟨⟨[⟨0, dialect.packageLine package⟩, ⟨0, ""⟩], [], [], []⟩,
    (Sheet.blank dialect).scope.opened package interface, [],
    ⟨.nil, fun fluent => hrun ⟨false, fluent, dialect⟩,
      fun fluent => hrun ⟨true, fluent, dialect⟩⟩, rfl, rfl⟩

end

end TableInterfaces.Source
