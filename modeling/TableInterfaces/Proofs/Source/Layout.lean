import TableInterfaces.Proofs.Source.Draft

/-!
# The layout of an interface

The parts of an interface before any name is printed: what the services say about the entity and its
members, in the order in which it is asked for (`interfaceParts`). `InterfaceParts.head` and
`InterfaceParts.body` draft the lines up to the header and behind it. Main statement:

* `outcome_printInterface`: printing an interface opens the scope of its file and writes the draft
  of its parts, and fails just where one of the parts does.
-/

namespace TableInterfaces.Source

open TableInterfaces.Json
open TableInterfaces.Comment

/-- The annotations that a service is to print. -/
structure MarkService where
  entity : Entity → Result (List Mark)
  member : Entity → Member → Result (List Mark)

/-- A service prints the given annotations. -/
structure AnnotationService.Prints (service : AnnotationService) (marks : MarkService) : Prop where
  entity : ∀ e, PrintsMarks (service.entityLines e) (marks.entity e)
  member : ∀ e m, PrintsMarks (service.memberLines e m) (marks.member e m)

/-! ## Types -/

/-- The name of a type, which has to be a text. -/
def typeText (name : Value) : Result String :=
  match name with
  | .text s => .ok s
  | _ => misuse (.lacksOperation name.kind "endswith")

/-- Only a text is the name of a type. -/
theorem typeText_ok_iff {name : Value} {s : String} : typeText name = .ok s ↔ name = .text s := by
  cases name with
  | text t => simp [typeText]
  | _ => exact iff_of_false nofun nofun

/-- Only texts are names of types. -/
theorem mapM_typeText_ok_iff {names : List Value} {texts : List String} :
    names.mapM typeText = .ok texts ↔ names = texts.map .text := by
  rw [Result.mapM_eq_ok_iff, ← List.forall₂_eq_eq_eq, List.forall₂_map_right_iff]
  simp only [typeText_ok_iff]

namespace Printing

@[simp] theorem outcome_refValue (name : Value) (p : Progress) :
    outcome (refValue name) p = typeText name >>= fun s =>
      .ok ((p.write (.ofNames [s])).sheet.scope.print s, p.write (.ofNames [s])) := by
  cases name with
  | text s => exact outcome_ref s p
  | _ => rfl

@[simp] theorem outcome_refValues (names : List Value) (p : Progress) :
    outcome (refValues names) p = names.mapM typeText >>= fun texts =>
      .ok (texts.map (p.write (.ofNames texts)).sheet.scope.print, p.write (.ofNames texts)) := by
  induction names generalizing p with
  | nil => exact congrArg (fun q => Except.ok ([], q)) p.write_empty.symm
  | cons name rest ih =>
    simp only [refValues, outcome_bind, outcome_refValue, ih, outcome_pure, List.mapM_cons,
      bind_assoc, pure_bind, Result.ok_bind]
    refine bind_congr fun s => bind_congr fun texts => ?_
    rw [Progress.write_append]
    have hs := p.print_write (.ofNames [s]) texts List.mem_cons_self
    exact congrArg (fun t => Except.ok (t :: _, p.write (.ofNames (s :: texts)))) hs.symm

end Printing

/-! ## Members -/

/-- An accessor: the lines of its comment, and its name. -/
structure Accessor where
  doc : List String
  name : String
  deriving DecidableEq, Repr

/-- A member as it is printed. -/
structure MemberParts where
  member : Member
  type : String
  setter : Option Accessor
  getter : Accessor
  marks : List Mark

/-- The lines of a comment inside an interface, an empty one in front. -/
def commentLines (doc : List String) : List Line :=
  ⟨0, ""⟩ :: doc.map (⟨1, ·⟩)

/-- The comment on an accessor. -/
def accessorDoc (docs : DocService) (title : String) (m : Member) : Result (List String) := do
  let text ← describe (title ++ subject m) m.comment
  docs.format text

/-- The parts of a setter. -/
def setterParts (e : Entity) (services : Services) (m : Member) : Result Accessor := do
  let doc ← accessorDoc services.docs "Setter for " m
  let name ← services.names.setter e m
  return { doc, name }

/-- The parts of a getter, with its annotations. -/
def getterParts (e : Entity) (services : Services) (marks : MarkService) (m : Member) :
    Result (Accessor × List Mark) := do
  let doc ← accessorDoc services.docs "Getter for " m
  let marks ← marks.member e m
  let name ← services.names.getter e m
  return ({ doc, name }, marks)

/-- The parts of a member in the order in which they are asked for. -/
def memberParts (e : Entity) (mode : Mode) (services : Services) (marks : MarkService)
    (m : Member) : Result MemberParts := do
  let type ← services.typeOf e m
  let type ← typeText type
  let setter ← if mode.immutable then pure none else some <$> setterParts e services m
  let (getter, marks) ← getterParts e services marks m
  return { member := m, type, setter, getter, marks }

/-- The draft of a getter whose type is printed already. -/
def getterDraft (dialect : Dialect) (memberType : String) (m : Member) (getter : Accessor)
    (marks : List Mark) : Draft :=
  .ofLines (commentLines getter.doc) ++ .ofAsked [m] ++ .ofMarks 1 marks ++
    .ofLines [⟨1, dialect.getter getter.name memberType⟩]

namespace MemberParts

/-- The lines of a setter, if there is one. -/
def setterLines (parts : MemberParts) (dialect : Dialect) (returnType : String)
    (f : String → String) : List Line :=
  match parts.setter with
  | some setter => commentLines setter.doc ++
    [⟨1, dialect.setter setter.name (f parts.type) returnType⟩]
  | none => []

/-- The draft of a member: its setter, and its getter behind the annotations. -/
def draft (parts : MemberParts) (dialect : Dialect) (returnType : String) : Draft where
  names := parts.type :: markTypes parts.marks
  lines f := parts.setterLines dialect returnType f ++ commentLines parts.getter.doc ++
    (Draft.ofMarks 1 parts.marks).lines f ++
    [⟨1, dialect.getter parts.getter.name (f parts.type)⟩]
  asked := [parts.member]
  stable f g h := by
    have htype : f parts.type = g parts.type := h _ List.mem_cons_self
    have hmarks := (Draft.ofMarks 1 parts.marks).stable f g fun n hn =>
      h n (List.mem_cons_of_mem _ hn)
    simp only [setterLines, htype, hmarks]

/-- A reference to the type of a member, its setter and its getter are the draft of the member. -/
theorem write_draft (parts : MemberParts) (dialect : Dialect) (returnType : String)
    (p : Progress) :
    let q := p.write (.ofNames [parts.type])
    (q.write (.ofLines (parts.setterLines dialect returnType q.sheet.scope.print))).write
        (getterDraft dialect (q.sheet.scope.print parts.type) parts.member parts.getter
          parts.marks) = p.write (parts.draft dialect returnType) := by
  intro q
  have htype : ∀ later : Draft, (p.write (.ofNames [parts.type] ++ later)).sheet.scope.print
      parts.type = q.sheet.scope.print parts.type := fun later =>
    p.print_write (.ofNames [parts.type]) later.names List.mem_cons_self
  rw [Progress.write_append, Progress.write_append]
  refine Progress.write_congr p ?_ ?_ ?_
  · simp [Draft.ofNames, Draft.ofLines, Draft.ofMarks, Draft.ofAsked, getterDraft, draft]
  · specialize htype (.ofLines (parts.setterLines dialect returnType q.sheet.scope.print) ++
      getterDraft dialect (q.sheet.scope.print parts.type) parts.member parts.getter parts.marks)
    generalize (p.write (.ofNames [parts.type] ++ _)).sheet.scope.print = f at htype ⊢
    simp [Draft.ofNames, Draft.ofLines, Draft.ofMarks, Draft.ofAsked, getterDraft, draft,
      setterLines, htype]
  · simp [Draft.ofNames, Draft.ofLines, Draft.ofMarks, Draft.ofAsked, getterDraft, draft]

end MemberParts

namespace Printing

@[simp] theorem outcome_printDoc (docs : DocService) (text : String) (p : Progress) :
    outcome (printDoc docs text) p = docs.format text >>= fun doc =>
      .ok ((), p.write (.ofLines (commentLines doc))) := by
  simp only [printDoc, outcome_bind, outcome_println, outcome_ofResult, outcome_printLines,
    bind_assoc, Result.ok_bind, Progress.write_append]
  rfl

@[simp] theorem outcome_printSetter (e : Entity) (mode : Mode) (services : Services)
    (returnType memberType : String) (m : Member) (p : Progress) :
    outcome (printSetter e mode services returnType memberType m) p =
      setterParts e services m >>= fun setter => .ok ((), p.write (.ofLines
        (commentLines setter.doc ++
          [⟨1, mode.dialect.setter setter.name memberType returnType⟩]))) := by
  simp only [printSetter, setterParts, accessorDoc, outcome_bind, outcome_ofResult,
    outcome_printDoc, outcome_println, bind_assoc, pure_bind, Result.ok_bind,
    Progress.write_append]
  rfl

@[simp] theorem outcome_printGetter {e : Entity} {mode : Mode} {services : Services}
    {marks : MarkService} (h : services.annotations.Prints marks) (memberType : String)
    (m : Member) (p : Progress) :
    outcome (printGetter e mode services memberType m) p =
      getterParts e services marks m >>= fun r =>
        .ok ((), p.write (getterDraft mode.dialect memberType m r.1 r.2)) := by
  simp only [printGetter, getterParts, accessorDoc, outcome_bind, outcome_ofResult,
    outcome_printDoc, outcome_println, outcome_printLines, outcome_ask,
    (h.member e m).outcome_ofScoped, bind_assoc, pure_bind, Result.ok_bind, Progress.write_marks]
  simp only [Progress.write_append]
  rfl

@[simp] theorem outcome_printMember {e : Entity} {mode : Mode} {services : Services}
    {marks : MarkService} (h : services.annotations.Prints marks) (returnType : String)
    (m : Member) (p : Progress) :
    outcome (printMember e mode services returnType m) p =
      memberParts e mode services marks m >>= fun parts =>
        .ok ((), p.write (parts.draft mode.dialect returnType)) := by
  unfold printMember memberParts
  cases mode.immutable with
  | true =>
    simp only [outcome_bind, outcome_ofResult, outcome_refValue, outcome_printGetter h, bind_assoc,
      pure_bind, Result.ok_bind, Bool.not_true, Bool.false_eq_true, if_false, if_true]
    refine bind_congr fun _ => bind_congr fun type => bind_congr fun r => ?_
    rw [← MemberParts.write_draft]
    change _ = Except.ok ((), ((p.write (.ofNames [type])).write .empty).write _)
    rw [Progress.write_empty]
  | false =>
    simp only [outcome_bind, outcome_ofResult, outcome_refValue, outcome_printSetter,
      outcome_printGetter h, bind_assoc, pure_bind, map_eq_pure_bind, Result.ok_bind,
      Bool.not_false, Bool.false_eq_true, if_false, if_true]
    refine bind_congr fun _ => bind_congr fun type => bind_congr fun _ => bind_congr fun r => ?_
    rw [← MemberParts.write_draft]
    rfl

end Printing

/-! ## The whole interface -/

/-- What stands in front of the body of an interface: the comment, the annotations and the
supertypes. -/
structure HeadParts where
  doc : List String
  marks : List Mark
  supertypes : List String
  deriving DecidableEq, Repr

/-- The annotation that marks an interface with a builder, in the dialect that has one. -/
def builderMarks (dialect : Dialect) : List Mark :=
  if dialect == .interfaces then [⟨builderMarker, ""⟩] else []

/-- The parts of the head of an interface in the order in which they are asked for. -/
def headParts (e : Entity) (services : Services) (marks : MarkService) : Result HeadParts := do
  let doc ← services.docs.entityDoc e
  let marks ← marks.entity e
  let supertypes ← services.names.supertypes e
  let supertypes ← supertypes.mapM typeText
  return { doc, marks, supertypes }

/-- The draft of a header, which refers to the supertypes. -/
def headerDraft (dialect : Dialect) (interface : String) (supertypes : List String) : Draft where
  names := supertypes
  lines f := [⟨0, dialect.header interface (supertypes.map f)⟩]
  asked := []
  stable f g h := by rw [List.map_congr_left h]

/-- References to the supertypes with the header behind them are the draft of the header. -/
theorem Progress.write_header (p : Progress) (dialect : Dialect) (interface : String)
    (supertypes : List String) :
    let q := p.write (.ofNames supertypes)
    q.write (.ofLines [⟨0, dialect.header interface (supertypes.map q.sheet.scope.print)⟩]) =
      p.write (headerDraft dialect interface supertypes) := by
  intro q
  rw [write_append]
  refine write_congr p (List.append_nil _) ?_ rfl
  simp [Draft.ofNames, Draft.ofLines, headerDraft, write_scope, q]

/-- A reference to the type of an annotation with its line behind it are the draft of the
annotation. -/
theorem Progress.write_mark (p : Progress) (depth : Int) (type : String) :
    let q := p.write (.ofNames [type])
    q.write (.ofLines [⟨depth, "@" ++ q.sheet.scope.print type⟩]) =
      p.write (.ofMarks depth [⟨type, ""⟩]) := by
  simpa [markTypes, Mark.line] using p.write_marks depth [⟨type, ""⟩]

/-- The draft of the head of an interface. -/
def HeadParts.draft (parts : HeadParts) (dialect : Dialect) (interface : String) : Draft :=
  .ofLines (parts.doc.map (⟨0, ·⟩)) ++ .ofMarks 0 parts.marks ++
    .ofMarks 0 (builderMarks dialect) ++ headerDraft dialect interface parts.supertypes

/-- The copy methods: their banner and the comments on both. -/
structure CopyParts where
  banner : List String
  fromDoc : List String
  intoDoc : List String
  deriving DecidableEq, Repr

/-- The text of the comment on a copy method. -/
def copyText (sentence interface : String) : String :=
  sentence ++ " another generated Record/POJO implementing the common interface " ++ interface

/-- The parts of the copy methods. -/
def copyParts (services : Services) (interface : String) : Result CopyParts := do
  let banner ← services.docs.banner copyTitle
  let fromDoc ← services.docs.format (copyText "Load data from" interface)
  let intoDoc ← services.docs.format (copyText "Copy data into" interface)
  return { banner, fromDoc, intoDoc }

/-- The lines of the copy methods. -/
def CopyParts.lines (parts : CopyParts) (dialect : Dialect) (qualified : String) : List Line :=
  (if parts.banner.isEmpty then [] else ⟨0, ""⟩ :: parts.banner.map (⟨1, ·⟩)) ++
    commentLines parts.fromDoc ++ [⟨1, dialect.copyFrom qualified⟩] ++
    commentLines parts.intoDoc ++ [⟨1, dialect.copyInto qualified⟩]

/-- The stub of a builder: its name and the name of the class it extends. -/
structure BuilderParts where
  name : String
  base : String
  deriving DecidableEq, Repr

/-- The parts of the builder, in the dialect that has one. -/
def builderParts (e : Entity) (dialect : Dialect) (services : Services) :
    Result (Option BuilderParts) :=
  if dialect == .interfaces then do
    let name ← services.names.builder e
    let base ← services.names.baseBuilder e
    return some { name, base }
  else return none

/-- The lines of the builder. -/
def builderLines : Option BuilderParts → List Line
  | some builder => [⟨0, ""⟩, ⟨1, builderStub builder.name builder.base⟩]
  | none => []

/-- An interface before its type names are printed. -/
structure InterfaceParts where
  package : String
  interface : String
  qualified : String
  head : HeadParts
  builder : Option BuilderParts
  members : List MemberParts
  copies : Option CopyParts
  footer : List Line

/-- The parts of an interface in the order in which they are asked for. -/
def interfaceParts (e : Entity) (mode : Mode) (services : Services) (marks : MarkService) :
    Result InterfaceParts := do
  let package ← services.names.package e
  let interface ← services.names.interface e
  let qualified ← services.names.qualifiedInterface e
  let head ← headParts e services marks
  let builder ← builderParts e mode.dialect services
  let members ← e.members.mapM (memberParts e mode services marks)
  let copies ← if mode.immutable then pure none else some <$> copyParts services interface
  return {
    package, interface, qualified, head, builder, members, copies
    footer := services.footer e }

/-- The type that a setter returns. -/
def Mode.returnType (mode : Mode) (interface : String) : String :=
  if mode.fluent then interface else mode.dialect.voidType

/-- One draft for the members of an interface. -/
def membersDraft (dialect : Dialect) (returnType : String) : List MemberParts → Draft
  | [] => .empty
  | parts :: rest => parts.draft dialect returnType ++ membersDraft dialect returnType rest

namespace InterfaceParts

/-- The draft of an interface from the package line to the header. -/
def top (parts : InterfaceParts) (mode : Mode) : Draft :=
  .ofLines [⟨0, mode.dialect.packageLine parts.package⟩, ⟨0, ""⟩] ++
    parts.head.draft mode.dialect parts.interface

/-- The lines behind the members of an interface. -/
def bottomLines (parts : InterfaceParts) (mode : Mode) : List Line :=
  (match parts.copies with
    | some copies => copies.lines mode.dialect parts.qualified
    | none => []) ++ parts.footer ++ [⟨0, closeBrace⟩]

/-- The draft of an interface behind its header. -/
def body (parts : InterfaceParts) (mode : Mode) : Draft :=
  .ofLines (builderLines parts.builder) ++
    membersDraft mode.dialect (mode.returnType parts.interface) parts.members ++
    .ofLines (parts.bottomLines mode)

/-- The draft of an interface. -/
def draft (parts : InterfaceParts) (mode : Mode) : Draft :=
  parts.top mode ++ parts.body mode

end InterfaceParts

namespace Printing

variable {e : Entity} {mode : Mode} {services : Services} {marks : MarkService}

@[simp] theorem outcome_printMembers (h : services.annotations.Prints marks) (returnType : String)
    (members : List Member) (p : Progress) :
    outcome (printMembers e mode services returnType members) p =
      members.mapM (memberParts e mode services marks) >>= fun parts =>
        .ok ((), p.write (membersDraft mode.dialect returnType parts)) := by
  induction members generalizing p with
  | nil => exact congrArg (fun q => Except.ok ((), q)) p.write_empty.symm
  | cons m rest ih =>
    simp only [printMembers, outcome_bind, outcome_printMember h, ih, List.mapM_cons, bind_assoc,
      pure_bind, Result.ok_bind, Progress.write_append]
    rfl

@[simp] theorem outcome_printBuilder (p : Progress) :
    outcome (printBuilder e mode services) p =
      builderParts e mode.dialect services >>= fun builder =>
        .ok ((), p.write (.ofLines (builderLines builder))) := by
  unfold printBuilder builderParts
  split
  · simp only [outcome_bind, outcome_println, outcome_ofResult, bind_assoc, pure_bind,
      Result.ok_bind, Progress.write_append]
    rfl
  · exact congrArg (fun q => Except.ok ((), q)) p.write_empty.symm

@[simp] theorem outcome_printCopies (interface qualified : String) (p : Progress) :
    outcome (printCopies mode services interface qualified) p =
      copyParts services interface >>= fun copies =>
        .ok ((), p.write (.ofLines (copies.lines mode.dialect qualified))) := by
  unfold printCopies copyParts
  simp only [outcome_bind, outcome_ofResult, bind_assoc, pure_bind, Result.ok_bind]
  refine bind_congr fun banner => ?_
  cases hb : banner.isEmpty with
  | true =>
    simp only [Bool.not_true, Bool.false_eq_true, if_false, printCopy, outcome_bind,
      outcome_println, outcome_printDoc, bind_assoc, Result.ok_bind, Progress.write_append]
    refine bind_congr fun fromDoc => bind_congr fun intoDoc => ?_
    rw [CopyParts.lines, hb]
    simp [← Draft.ofLines_append]
  | false =>
    simp only [Bool.not_false, if_true, printCopy, outcome_bind, outcome_println,
      outcome_printLines, outcome_printDoc, bind_assoc, Result.ok_bind, Progress.write_append]
    refine bind_congr fun fromDoc => bind_congr fun intoDoc => ?_
    rw [CopyParts.lines, hb]
    simp [← Draft.ofLines_append]

/-- Lines with depths of their own write themselves. -/
@[simp] theorem outcome_forM_println (lines : List Line) (p : Progress) :
    outcome (lines.forM fun line => println line.text line.depth) p =
      .ok ((), p.write (.ofLines lines)) := by
  induction lines generalizing p with
  | nil => exact congrArg (fun q => Except.ok ((), q)) p.write_empty.symm
  | cons line rest ih =>
    change outcome (println line.text line.depth >>= fun _ =>
      rest.forM fun line => println line.text line.depth) p = _
    rw [outcome_bind, outcome_println, Result.ok_bind, ih, Progress.write_append]
    rfl

@[simp] theorem outcome_printHeader (h : services.annotations.Prints marks) (interface : String)
    (p : Progress) :
    outcome (printHeader e mode services interface) p =
      headParts e services marks >>= fun parts =>
        .ok ((), p.write (parts.draft mode.dialect interface)) := by
  unfold printHeader headParts
  cases mode.dialect with
  | interfaces =>
    have hmarks : builderMarks .interfaces = [⟨builderMarker, ""⟩] := rfl
    simp only [outcome_bind, outcome_ofResult, outcome_printLines, (h.entity e).outcome_ofScoped,
      outcome_ref, outcome_println, outcome_refValues, bind_assoc, pure_bind, Result.ok_bind,
      beq_self_eq_true, if_true, Progress.write_marks, Progress.write_mark, Progress.write_header]
    simp only [HeadParts.draft, hmarks, Progress.write_append, Draft.append_assoc]
  | traits =>
    have hmarks : Draft.ofMarks 0 (builderMarks .traits) = .empty := rfl
    have hno : ¬ (Dialect.traits == Dialect.interfaces) = true := by decide
    simp only [outcome_bind, outcome_ofResult, outcome_printLines, (h.entity e).outcome_ofScoped,
      outcome_println, outcome_refValues, bind_assoc, pure_bind, Result.ok_bind, if_neg hno,
      Progress.write_marks, Progress.write_header]
    simp only [HeadParts.draft, hmarks, Progress.write_append, Draft.append_assoc,
      Draft.empty_append]

end Printing

/-! ## Printing an interface -/

/-- The scope of a file that declares its interface. -/
def Scope.opened (s : Scope) (package interface : String) : Scope :=
  (s.inPackage package).declare interface

/-- **What printing an interface does.** It fails as the parts of the interface do; else it opens
the scope of the file and writes the draft of the parts. -/
theorem outcome_printInterface {e : Entity} {mode : Mode} {services : Services}
    {marks : MarkService} (h : services.annotations.Prints marks) (p : Progress) :
    outcome (printInterface e mode services) p =
      interfaceParts e mode services marks >>= fun parts =>
        .ok ((), (p.withScope (p.sheet.scope.opened parts.package parts.interface)).write
          (parts.draft mode)) := by
  unfold printInterface interfaceParts printPackage
  cases mode.immutable with
  | true =>
    simp only [outcome_bind, Printing.outcome_ofResult, Printing.outcome_scope,
      Printing.outcome_setScope, Printing.outcome_println, Printing.outcome_printHeader h,
      Printing.outcome_printBuilder, Printing.outcome_printMembers h,
      Printing.outcome_forM_println, Bool.not_true, Bool.false_eq_true, if_false, if_true,
      bind_assoc, pure_bind, Result.ok_bind]
    refine bind_congr fun package => bind_congr fun interface => bind_congr fun qualified =>
      bind_congr fun head => bind_congr fun builder => bind_congr fun members => ?_
    simp only [Progress.write_append, InterfaceParts.draft, InterfaceParts.top,
      InterfaceParts.body, InterfaceParts.bottomLines, Draft.append_assoc, Draft.ofLines_append]
    rfl
  | false =>
    simp only [outcome_bind, Printing.outcome_ofResult, Printing.outcome_scope,
      Printing.outcome_setScope, Printing.outcome_println, Printing.outcome_printHeader h,
      Printing.outcome_printBuilder, Printing.outcome_printMembers h, Printing.outcome_printCopies,
      Printing.outcome_forM_println, Bool.not_false, Bool.false_eq_true, if_false, if_true,
      bind_assoc, pure_bind, map_eq_pure_bind, Result.ok_bind]
    refine bind_congr fun package => bind_congr fun interface => bind_congr fun qualified =>
      bind_congr fun head => bind_congr fun builder => bind_congr fun members =>
      bind_congr fun copies => ?_
    simp only [Progress.write_append, InterfaceParts.draft, InterfaceParts.top,
      InterfaceParts.body, InterfaceParts.bottomLines, Draft.append_assoc, Draft.ofLines_append]
    rfl

/-- What is printed of an interface whose parts are known. -/
def InterfaceParts.progress (parts : InterfaceParts) (mode : Mode) : Progress :=
  (Progress.mk ⟨[], (Sheet.blank mode.dialect).scope.opened parts.package parts.interface⟩ []).write
    (parts.draft mode)

/-- An interface whose parts are known is printed into a sheet that is opened for its file. -/
theorem interfaceOf_of_parts {e : Entity} {mode : Mode} {services : Services} {marks : MarkService}
    (h : services.annotations.Prints marks) {parts : InterfaceParts}
    (hparts : interfaceParts e mode services marks = .ok parts) :
    interfaceOf e mode services = (.ok (), parts.progress mode) := by
  have hrun : outcome (printInterface e mode services) _ = _ :=
    outcome_printInterface h { sheet := Sheet.blank mode.dialect }
  rw [hparts] at hrun
  exact run_eq_of_outcome hrun

/-- An interface without parts is not printed to its end. -/
theorem interfaceOf_error {e : Entity} {mode : Mode} {services : Services} {marks : MarkService}
    (h : services.annotations.Prints marks) {fault : Fault}
    (hparts : interfaceParts e mode services marks = .error fault) :
    (interfaceOf e mode services).1 = .error fault := by
  have hrun : outcome (printInterface e mode services) _ = _ :=
    outcome_printInterface h { sheet := Sheet.blank mode.dialect }
  rw [hparts] at hrun
  unfold outcome at hrun
  unfold interfaceOf
  split at hrun
  · cases hrun
  · rename_i cause after hstopped
    cases hrun
    rw [hstopped]

/-- The sheet of an interface that has been printed, in terms of its parts: the lines of the draft,
all printed by the scope that the names of the draft leave behind. -/
structure InterfaceParts.Printed (parts : InterfaceParts) (mode : Mode) (sheet : Sheet) :
    Prop where
  scope_eq : sheet.scope = ((Sheet.blank mode.dialect).scope.opened parts.package
    parts.interface).useAll (usesOf (parts.draft mode).names)
  lines_eq : sheet.lines = (parts.draft mode).lines sheet.scope.print

/-- An interface that is printed has parts, and its sheet shows them. -/
theorem interfaceOf_ok {e : Entity} {mode : Mode} {services : Services} {marks : MarkService}
    (h : services.annotations.Prints marks) {progress : Progress}
    (hok : interfaceOf e mode services = (.ok (), progress)) :
    ∃ parts, interfaceParts e mode services marks = .ok parts ∧
      parts.Printed mode progress.sheet := by
  have hrun : outcome (printInterface e mode services) { sheet := Sheet.blank mode.dialect } =
      .ok ((), progress) := by
    rw [outcome, show (printInterface e mode services).run _ = _ from hok]
  rw [outcome_printInterface h] at hrun
  obtain ⟨parts, hparts, hwrite⟩ := Result.ok_of_bind hrun
  cases hwrite
  exact ⟨parts, hparts, rfl, rfl⟩

/-- The getter of a member is what the services say about the member. -/
theorem MemberParts.getter_ok {e : Entity} {mode : Mode} {services : Services}
    {marks : MarkService} {m : Member} {parts : MemberParts}
    (h : memberParts e mode services marks m = .ok parts) :
    getterParts e services marks m = .ok (parts.getter, parts.marks) := by
  obtain ⟨type, -, h⟩ := Result.ok_of_bind h
  obtain ⟨text, -, h⟩ := Result.ok_of_bind h
  dsimp only at h
  split at h
  all_goals
    obtain ⟨setter, -, h⟩ := Result.ok_of_bind h
    obtain ⟨⟨getter, marks⟩, hgetter, h⟩ := Result.ok_of_bind h
    cases h
    exact hgetter

namespace InterfaceParts

/-- The parts of an interface are what the services say about the entity. -/
theorem of_ok {e : Entity} {mode : Mode} {services : Services} {marks : MarkService}
    {parts : InterfaceParts} (h : interfaceParts e mode services marks = .ok parts) :
    services.names.package e = .ok parts.package ∧
      services.names.interface e = .ok parts.interface ∧
      headParts e services marks = .ok parts.head ∧
      builderParts e mode.dialect services = .ok parts.builder ∧
      e.members.mapM (memberParts e mode services marks) = .ok parts.members := by
  obtain ⟨package, hpackage, h⟩ := Result.ok_of_bind h
  obtain ⟨interface, hinterface, h⟩ := Result.ok_of_bind h
  obtain ⟨qualified, _, h⟩ := Result.ok_of_bind h
  obtain ⟨head, hhead, h⟩ := Result.ok_of_bind h
  obtain ⟨builder, hbuilder, h⟩ := Result.ok_of_bind h
  obtain ⟨members, hmembers, h⟩ := Result.ok_of_bind h
  split at h
  · cases h
    exact ⟨hpackage, hinterface, hhead, hbuilder, hmembers⟩
  · obtain ⟨copies, _, h⟩ := Result.ok_of_bind h
    cases h
    exact ⟨hpackage, hinterface, hhead, hbuilder, hmembers⟩

/-- The parts of an interface in front of its members are what the services say. -/
structure Opens (parts : InterfaceParts) (e : Entity) (dialect : Dialect) (services : Services)
    (marks : MarkService) : Prop where
  package : services.names.package e = .ok parts.package
  interface : services.names.interface e = .ok parts.interface
  qualified : services.names.qualifiedInterface e = .ok parts.qualified
  head : headParts e services marks = .ok parts.head
  builder : builderParts e dialect services = .ok parts.builder

/-- What an interface shows in front of its members is known where all of it is. -/
theorem opens_of_ok {e : Entity} {mode : Mode} {services : Services} {marks : MarkService}
    {parts : InterfaceParts} (h : interfaceParts e mode services marks = .ok parts) :
    parts.Opens e mode.dialect services marks := by
  obtain ⟨hpackage, hinterface, hhead, hbuilder, -⟩ := of_ok h
  refine ⟨hpackage, hinterface, ?_, hhead, hbuilder⟩
  obtain ⟨package, -, h⟩ := Result.ok_of_bind h
  obtain ⟨interface, -, h⟩ := Result.ok_of_bind h
  obtain ⟨qualified, hqualified, h⟩ := Result.ok_of_bind h
  obtain ⟨head, -, h⟩ := Result.ok_of_bind h
  obtain ⟨builder, -, h⟩ := Result.ok_of_bind h
  obtain ⟨members, -, h⟩ := Result.ok_of_bind h
  split at h
  · cases h
    exact hqualified
  · obtain ⟨copies, -, h⟩ := Result.ok_of_bind h
    cases h
    exact hqualified

/-- Behind its opening an interface has its members, and its copy methods if the mode asks for them.
-/
theorem Opens.interfaceParts_eq {e : Entity} {mode : Mode} {services : Services}
    {marks : MarkService} {opening : InterfaceParts}
    (h : opening.Opens e mode.dialect services marks) :
    interfaceParts e mode services marks =
      e.members.mapM (memberParts e mode services marks) >>= fun members =>
        (if mode.immutable then pure none else some <$> copyParts services opening.interface) >>=
          fun copies =>
            pure { opening with members, copies, footer := services.footer e } := by
  unfold interfaceParts
  rw [h.package, Result.ok_bind, h.interface, Result.ok_bind, h.qualified, Result.ok_bind,
    h.head, Result.ok_bind, h.builder, Result.ok_bind]
  refine bind_congr fun members => ?_
  cases mode.immutable <;> rfl

/-- An interface is known if its opening, its members and its copy methods are. -/
theorem Opens.succeeds {e : Entity} {mode : Mode} {services : Services} {marks : MarkService}
    {opening : InterfaceParts} (h : opening.Opens e mode.dialect services marks)
    (hmembers : Succeeds (e.members.mapM (memberParts e mode services marks)))
    (hcopies : Succeeds (copyParts services opening.interface)) :
    Succeeds (interfaceParts e mode services marks) := by
  rw [h.interfaceParts_eq]
  refine hmembers.bind fun members _ => Succeeds.bind ?_ fun copies _ => .ok _
  split
  · exact .ok _
  · exact hcopies.map _

/-- A sheet starts with the package line, and has the header further down. -/
theorem Printed.lines_opened {parts : InterfaceParts} {mode : Mode} {sheet : Sheet}
    (h : parts.Printed mode sheet) : ∃ before after,
    sheet.lines = ⟨0, mode.dialect.packageLine parts.package⟩ :: (before ++
      ⟨0, mode.dialect.header parts.interface (parts.head.supertypes.map sheet.scope.print)⟩ ::
        after) := by
  refine ⟨⟨0, ""⟩ :: ((Draft.ofLines (parts.head.doc.map (⟨0, ·⟩)) ++ .ofMarks 0 parts.head.marks ++
    .ofMarks 0 (builderMarks mode.dialect)).lines sheet.scope.print),
    (parts.body mode).lines sheet.scope.print, ?_⟩
  rw [h.lines_eq]
  simp [draft, top, HeadParts.draft, headerDraft, Draft.ofLines]

/-- A sheet starts with the package line, and has the header among its lines. -/
theorem Printed.package_and_header {parts : InterfaceParts} {mode : Mode} {sheet : Sheet}
    (h : parts.Printed mode sheet) :
    sheet.lines.head? = some ⟨0, mode.dialect.packageLine parts.package⟩ ∧
      ∃ supertypes, ⟨0, mode.dialect.header parts.interface supertypes⟩ ∈ sheet.lines := by
  obtain ⟨before, after, hlines⟩ := h.lines_opened
  rw [hlines]
  exact ⟨rfl, _, List.mem_cons_of_mem _ (List.mem_append_right _ List.mem_cons_self)⟩

end InterfaceParts

end TableInterfaces.Source
