import TableInterfaces.Proofs.Comment.Block
import TableInterfaces.Proofs.Source.Modes

/-!
# The code of an interface

Blank lines, comments and annotations tell nothing about what an interface declares. `codeOf` drops
them by how they start, whatever text they hold, and no declaration is dropped with them. Main
statements:

* `codeOf_member`: the accessors of a member.
* `codeOf_begun`: the package line, the header, the stub of the builder and the accessors of some
  members.
* `codeOf_interface`: the whole interface, with its copy methods and the closing brace.
-/

namespace TableInterfaces.Source

open TableInterfaces.Comment
open TableInterfaces.Json
open TableInterfaces.Text

/-! ## Lines that are kept -/

/-- A line that is not blank. -/
def isFilled (line : Line) : Bool :=
  !isBlankText line.text

/-- A line that is neither blank nor starts with a mark of comments. -/
def isUncommented (line : Line) : Bool :=
  isFilled line && !startsComment line.text

/-- A line starts with the mark of annotations. -/
def startsMark (text : String) : Bool :=
  "@".toList.isPrefixOf text.toList

/-- A line that is neither blank nor starts with a mark of comments or annotations. -/
def isCode (line : Line) : Bool :=
  isUncommented line && !startsMark line.text

/-- The lines that are code. -/
def codeOf (lines : List Line) : List Line :=
  lines.filter isCode

@[simp] theorem codeOf_append (lines later : List Line) :
    codeOf (lines ++ later) = codeOf lines ++ codeOf later :=
  List.filter_append ..

theorem codeOf_cons_blank (lines : List Line) : codeOf (⟨0, ""⟩ :: lines) = codeOf lines := rfl

/-- A text starts with a character that no blank line, no comment and no annotation starts with. -/
def startsCode (text : String) : Bool :=
  text.toList.head?.any fun c => !isBlank c && c != '/' && c != '@'

/-- How a text starts does not depend on its end. -/
theorem startsCode_append {text : String} (h : startsCode text = true) (rest : String) :
    startsCode (text ++ rest) = true := by
  unfold startsCode at h ⊢
  rw [String.toList_append, List.head?_append]
  cases hhead : text.toList.head? with
  | none =>
    rw [hhead] at h
    cases h
  | some c => rwa [hhead] at h

/-- What starts like code does not start like a comment or an annotation. -/
theorem starts_of_startsCode {text : String} (h : startsCode text = true) :
    isBlankText text = false ∧ startsComment text = false ∧ startsMark text = false := by
  unfold startsCode at h
  cases htext : text.toList with
  | nil =>
    rw [htext] at h
    cases h
  | cons c rest =>
    simp only [htext, List.head?_cons, Option.any_some, Bool.and_eq_true, Bool.not_eq_true',
      bne_iff_ne] at h
    obtain ⟨⟨hblank, hslash⟩, hat⟩ := h
    have hspace : c ≠ ' ' := by
      rintro rfl
      cases hblank
    simp [isBlankText, startsComment, commentMarks, startsMark, List.isPrefixOf, htext, hblank,
      Ne.symm hslash, Ne.symm hspace, Ne.symm hat]

/-- Lines that start like code are code. -/
theorem isCode_of_startsCode {line : Line} (h : startsCode line.text = true) :
    isCode line = true := by
  obtain ⟨hblank, hcomment, hmark⟩ := starts_of_startsCode h
  simp [isCode, isUncommented, isFilled, hblank, hcomment, hmark]

theorem codeOf_singleton {depth : Int} {text : String} (h : startsCode text = true) :
    codeOf [⟨depth, text⟩] = [⟨depth, text⟩] := by
  rw [codeOf, List.filter_cons, if_pos (isCode_of_startsCode h), List.filter_nil]

/-- Nothing is kept of lines that all start with a mark of comments. -/
theorem codeOf_comments {doc : List String} (h : ∀ l ∈ doc, startsComment l = true) (depth : Int) :
    codeOf (doc.map (⟨depth, ·⟩)) = [] := by
  refine List.filter_eq_nil_iff.2 fun line hline => ?_
  obtain ⟨l, hl, rfl⟩ := List.mem_map.1 hline
  simp [isCode, isUncommented, h l hl]

theorem codeOf_commentLines {doc : List String} (h : ∀ l ∈ doc, startsComment l = true) :
    codeOf (commentLines doc) = [] := by
  rw [commentLines, codeOf_cons_blank, codeOf_comments h]

/-- Nothing is kept of annotations. -/
theorem codeOf_marks (depth : Int) (marks : List Mark) (f : String → String) :
    codeOf ((Draft.ofMarks depth marks).lines f) = [] := by
  refine List.filter_eq_nil_iff.2 fun line hline => ?_
  obtain ⟨text, htext, rfl⟩ := List.mem_map.1 hline
  obtain ⟨mark, -, rfl⟩ := List.mem_map.1 htext
  have hmark : startsMark (mark.line f) = true := by
    rw [startsMark, Mark.line, String.append_assoc, String.toList_append]
    exact List.isPrefixOf_iff_prefix.2 (List.prefix_append _ _)
  simp [isCode, hmark]

/-! ## Declarations -/

namespace Dialect

variable (dialect : Dialect)

theorem startsCode_packageLine (package : String) :
    startsCode (dialect.packageLine package) = true := by
  cases dialect <;> simp [packageLine, startsCode, isBlank]

theorem startsCode_header (interface : String) (supertypes : List String) :
    startsCode (dialect.header interface supertypes) = true := by
  cases dialect <;> simp [header, headerStart, startsCode, isBlank]

theorem startsCode_setter (name memberType returnType : String) :
    startsCode (dialect.setter name memberType returnType) = true := by
  cases dialect <;> simp [setter, startsCode, isBlank]

theorem startsCode_getter (name memberType : String) :
    startsCode (dialect.getter name memberType) = true := by
  cases dialect <;> simp [getter, startsCode, isBlank]

theorem startsCode_copyFrom (interface : String) :
    startsCode (dialect.copyFrom interface) = true := by
  cases dialect with
  | interfaces =>
    have hword : startsCode "public void from(" = true := by simp [startsCode, isBlank]
    exact startsCode_append (startsCode_append hword _) _
  | traits =>
    have hword : startsCode "def from(from : " = true := by simp [startsCode, isBlank]
    exact startsCode_append (startsCode_append hword _) _

theorem startsCode_copyInto (interface : String) :
    startsCode (dialect.copyInto interface) = true := by
  cases dialect with
  | interfaces =>
    have hword : startsCode "public <E extends " = true := by simp [startsCode, isBlank]
    exact startsCode_append (startsCode_append hword _) _
  | traits =>
    have hword : startsCode "def into[E <: " = true := by simp [startsCode, isBlank]
    exact startsCode_append (startsCode_append hword _) _

end Dialect

theorem startsCode_builderStub (builder base : String) :
    startsCode (builderStub builder base) = true := by
  simp [builderStub, startsCode, isBlank]

/-! ## Parts of an interface -/

/-- The comments of a service start with marks of comments on all their lines. -/
structure DocService.Marked (docs : DocService) : Prop where
  entityDoc : ∀ {e lines}, docs.entityDoc e = .ok lines → ∀ l ∈ lines, startsComment l = true
  format : ∀ {text lines}, docs.format text = .ok lines → ∀ l ∈ lines, startsComment l = true
  banner : ∀ {lines}, docs.banner copyTitle = .ok lines → ∀ l ∈ lines, startsComment l = true

/-- The comment on an accessor starts with marks of comments on all its lines. -/
theorem DocService.Marked.accessorDoc {docs : DocService} (h : docs.Marked) {title : String}
    {m : Member} {doc : List String} (hdoc : accessorDoc docs title m = .ok doc) :
    ∀ l ∈ doc, startsComment l = true := by
  obtain ⟨text, -, hformat⟩ := Result.ok_of_bind hdoc
  exact h.format hformat

/-- The declarations of a member: its type as it is printed, and the names of its accessors. -/
structure MemberCode where
  type : String
  setter : String
  getter : String

/-- The lines of the declarations of a member: its setter, unless the interface has getters only,
and its getter. -/
def MemberCode.lines (code : MemberCode) (mode : Mode) (returnType : String) : List Line :=
  (if mode.immutable then [] else [⟨1, mode.dialect.setter code.setter code.type returnType⟩]) ++
    [⟨1, mode.dialect.getter code.getter code.type⟩]

/-- The declarations of a member are as the services say, with types printed by `print`. -/
structure MemberCode.Describes (code : MemberCode) (e : Entity) (mode : Mode) (services : Services)
    (print : String → String) (m : Member) : Prop where
  type_ok : ∃ type, services.typeOf e m = .ok (.text type) ∧ code.type = print type
  setter_ok : mode.immutable = false → services.names.setter e m = .ok code.setter
  getter_ok : services.names.getter e m = .ok code.getter

/-- The declarations of an interface. -/
structure InterfaceCode where
  package : String
  interface : String
  qualified : String
  supertypes : List String
  builder : BuilderParts
  members : List MemberCode

namespace InterfaceCode

/-- The lines in front of the members: the package line, the header, and the stub of the builder in
the dialect that has one. -/
def opening (code : InterfaceCode) (dialect : Dialect) : List Line :=
  [⟨0, dialect.packageLine code.package⟩,
    ⟨0, dialect.header code.interface code.supertypes⟩] ++
    if dialect = .interfaces then [⟨1, builderStub code.builder.name code.builder.base⟩] else []

/-- The lines up to the last member. -/
def begun (code : InterfaceCode) (mode : Mode) : List Line :=
  code.opening mode.dialect ++
    code.members.flatMap (·.lines mode (mode.returnType code.interface))

/-- The lines of the declarations of an interface: behind the members stand the copy methods, unless
the interface has getters only, and the closing brace. -/
def lines (code : InterfaceCode) (mode : Mode) : List Line :=
  code.begun mode ++
    (if mode.immutable then []
      else [⟨1, mode.dialect.copyFrom code.qualified⟩,
        ⟨1, mode.dialect.copyInto code.qualified⟩]) ++
    [⟨0, closeBrace⟩]

/-- The declarations of an interface with the accessors of some members are as the services say,
with types printed by `print`. -/
structure Describes (code : InterfaceCode) (e : Entity) (mode : Mode) (services : Services)
    (print : String → String) (members : List Member) : Prop where
  package : services.names.package e = .ok code.package
  interface : services.names.interface e = .ok code.interface
  qualified : services.names.qualifiedInterface e = .ok code.qualified
  supertypes : ∃ texts : List String, services.names.supertypes e = .ok (texts.map Value.text) ∧
    code.supertypes = texts.map print
  builder : mode.dialect = .interfaces → services.names.builder e = .ok code.builder.name ∧
    services.names.baseBuilder e = .ok code.builder.base
  members : List.Forall₂ (fun m c => MemberCode.Describes c e mode services print m) members
    code.members

end InterfaceCode

section

variable {e : Entity} {mode : Mode} {services : Services} {marks : MarkService}

/-- The type of a member is a text, and its setter is known if the interface has setters. -/
theorem MemberParts.type_and_setter {m : Member} {parts : MemberParts}
    (h : memberParts e mode services marks m = .ok parts) :
    services.typeOf e m = .ok (.text parts.type) ∧
      ((mode.immutable = true ∧ parts.setter = none) ∨ mode.immutable = false ∧
        ∃ setter, setterParts e services m = .ok setter ∧ parts.setter = some setter) := by
  obtain ⟨type, htype, h⟩ := Result.ok_of_bind h
  obtain ⟨text, htext, h⟩ := Result.ok_of_bind h
  have htypeText : services.typeOf e m = .ok (.text text) := typeText_ok_iff.1 htext ▸ htype
  dsimp only at h
  split at h
  · rename_i himmutable
    obtain ⟨setter, hsetter, h⟩ := Result.ok_of_bind h
    obtain ⟨⟨getter, ks⟩, -, h⟩ := Result.ok_of_bind h
    cases hsetter
    cases h
    exact ⟨htypeText, .inl ⟨himmutable, rfl⟩⟩
  · rename_i hmutable
    obtain ⟨setter, hsetter, h⟩ := Result.ok_of_bind h
    obtain ⟨⟨getter, ks⟩, -, h⟩ := Result.ok_of_bind h
    obtain ⟨s, hs, hsome⟩ := Result.ok_of_bind ((map_eq_pure_bind _ _).symm.trans hsetter)
    cases hsome
    cases h
    exact ⟨htypeText, .inr ⟨eq_false_of_ne_true hmutable, s, hs, rfl⟩⟩

/-- **The code of a member.** -/
theorem codeOf_member (hdocs : services.docs.Marked) {m : Member} {parts : MemberParts}
    (h : memberParts e mode services marks m = .ok parts) (print : String → String) :
    ∃ code : MemberCode, code.Describes e mode services print m ∧ ∀ returnType,
      codeOf (parts.setterLines mode.dialect returnType print ++
        parts.getterLines mode.dialect print) = code.lines mode returnType := by
  obtain ⟨htype, hsetter⟩ := MemberParts.type_and_setter h
  obtain ⟨doc, hdoc, hgetter⟩ := Result.ok_of_bind (MemberParts.getter_ok h)
  obtain ⟨ks, -, hgetter⟩ := Result.ok_of_bind hgetter
  obtain ⟨getter, hname, hgetter⟩ := Result.ok_of_bind hgetter
  have hparts : parts.getter = ⟨doc, getter⟩ := (Prod.mk.inj (Except.ok.inj hgetter)).1.symm
  have hgetterLines : codeOf (parts.getterLines mode.dialect print) =
      [⟨1, mode.dialect.getter getter (print parts.type)⟩] := by
    rw [MemberParts.getterLines, codeOf_append, codeOf_append, hparts,
      codeOf_commentLines (hdocs.accessorDoc hdoc), codeOf_singleton (Dialect.startsCode_getter ..)]
    exact congrArg (· ++ _) (codeOf_marks 1 parts.marks print)
  rcases hsetter with ⟨himmutable, hnone⟩ | ⟨hmutable, setter, hsetter, hsome⟩
  · refine ⟨⟨print parts.type, "", getter⟩, ⟨⟨_, htype, rfl⟩, fun h => ?_, hname⟩, fun returnType =>
      ?_⟩
    · rw [himmutable] at h
      cases h
    · rw [codeOf_append, MemberParts.setterLines, hnone, hgetterLines, MemberCode.lines, himmutable]
      rfl
  · obtain ⟨setterDoc, hsetterDoc, hsetter⟩ := Result.ok_of_bind hsetter
    obtain ⟨name, hsetterName, hsetter⟩ := Result.ok_of_bind hsetter
    cases hsetter
    refine ⟨⟨print parts.type, name, getter⟩, ⟨⟨_, htype, rfl⟩, fun _ => hsetterName, hname⟩,
      fun returnType => ?_⟩
    rw [codeOf_append, MemberParts.setterLines, hsome, hgetterLines, MemberCode.lines, hmutable,
      codeOf_append, codeOf_commentLines (hdocs.accessorDoc hsetterDoc),
      codeOf_singleton (Dialect.startsCode_setter ..)]
    rfl

/-- The code of members in order. -/
theorem codeOf_members (hdocs : services.docs.Marked) {members : List Member}
    {parts : List MemberParts}
    (h : members.mapM (memberParts e mode services marks) = .ok parts) (print : String → String) :
    ∃ code : List MemberCode,
      List.Forall₂ (fun m c => MemberCode.Describes c e mode services print m) members code ∧
      ∀ returnType, codeOf ((membersDraft mode.dialect returnType parts).lines print) =
        code.flatMap (·.lines mode returnType) := by
  simp only [membersDraft_lines]
  induction members generalizing parts with
  | nil =>
    cases h
    exact ⟨[], .nil, fun _ => rfl⟩
  | cons m rest ih =>
    rw [List.mapM_cons] at h
    obtain ⟨first, hfirst, h⟩ := Result.ok_of_bind h
    obtain ⟨later, hlater, h⟩ := Result.ok_of_bind h
    cases h
    obtain ⟨code, hdescribes, hlines⟩ := codeOf_member hdocs hfirst print
    obtain ⟨codes, hrest, hrestLines⟩ := ih hlater
    refine ⟨code :: codes, .cons hdescribes hrest, fun returnType => ?_⟩
    rw [List.flatMap_cons, List.flatMap_cons, codeOf_append, hlines, hrestLines]

/-- The code of the head of an interface. -/
theorem codeOf_head (hdocs : services.docs.Marked) {head : HeadParts}
    (h : headParts e services marks = .ok head) (dialect : Dialect) (interface : String)
    (print : String → String) :
    codeOf ((head.draft dialect interface).lines print) =
      [⟨0, dialect.header interface (head.supertypes.map print)⟩] := by
  obtain ⟨doc, hdoc, h⟩ := Result.ok_of_bind h
  obtain ⟨ks, -, h⟩ := Result.ok_of_bind h
  obtain ⟨values, -, h⟩ := Result.ok_of_bind h
  obtain ⟨texts, -, h⟩ := Result.ok_of_bind h
  cases h
  simp only [HeadParts.draft, Draft.lines_append, codeOf_append, codeOf_marks, headerDraft,
    codeOf_singleton (dialect.startsCode_header _ _)]
  rw [show (Draft.ofLines (doc.map (⟨0, ·⟩))).lines print = doc.map (⟨0, ·⟩) from rfl,
    codeOf_comments (hdocs.entityDoc hdoc)]
  rfl

/-- The code of the builder: its stub, in the dialect that has one. -/
theorem codeOf_builder {builder : Option BuilderParts}
    (h : builderParts e mode.dialect services = .ok builder) :
    ∃ stub : BuilderParts,
      (mode.dialect = .interfaces → services.names.builder e = .ok stub.name ∧
        services.names.baseBuilder e = .ok stub.base) ∧
      codeOf (builderLines builder) =
        if mode.dialect = .interfaces then [⟨1, builderStub stub.name stub.base⟩] else [] := by
  unfold builderParts at h
  cases hdialect : mode.dialect with
  | interfaces =>
    rw [hdialect, if_pos (by decide)] at h
    obtain ⟨name, hname, h⟩ := Result.ok_of_bind h
    obtain ⟨base, hbase, h⟩ := Result.ok_of_bind h
    cases h
    refine ⟨⟨name, base⟩, fun _ => ⟨hname, hbase⟩, ?_⟩
    rw [builderLines, codeOf_cons_blank, codeOf_singleton (startsCode_builderStub ..), if_pos rfl]
  | traits =>
    rw [hdialect, if_neg (by decide)] at h
    cases h
    exact ⟨⟨"", ""⟩, nofun, rfl⟩

/-- **The code of an interface up to its members.** What is printed of an interface and of some of
its members declares just these. -/
theorem codeOf_begun (hdocs : services.docs.Marked) {opening : InterfaceParts}
    (ho : opening.Opens e mode.dialect services marks) {members : List Member}
    {parts : List MemberParts}
    (hmembers : members.mapM (memberParts e mode services marks) = .ok parts)
    (print : String → String) :
    ∃ code : InterfaceCode, code.Describes e mode services print members ∧
      code.interface = opening.interface ∧ code.qualified = opening.qualified ∧
      codeOf ((opening.opening mode ++ membersDraft mode.dialect
        (mode.returnType opening.interface) parts).lines print) = code.begun mode := by
  obtain ⟨builder, hbuilder, hstub⟩ := codeOf_builder ho.builder
  obtain ⟨memberCode, hdescribes, hlines⟩ := codeOf_members hdocs hmembers print
  have hsupertypes : services.names.supertypes e =
      .ok (opening.head.supertypes.map Value.text) := by
    obtain ⟨doc, -, h⟩ := Result.ok_of_bind ho.head
    obtain ⟨ks, -, h⟩ := Result.ok_of_bind h
    obtain ⟨values, hvalues, h⟩ := Result.ok_of_bind h
    obtain ⟨texts, htexts, h⟩ := Result.ok_of_bind h
    rw [hvalues, ← Except.ok.inj h, mapM_typeText_ok_iff.1 htexts]
  refine ⟨⟨opening.package, opening.interface, opening.qualified,
    opening.head.supertypes.map print, builder, memberCode⟩,
    ⟨ho.package, ho.interface, ho.qualified, ⟨_, hsupertypes, rfl⟩, hbuilder,
      hdescribes⟩, rfl, rfl, ?_⟩
  have hpackage : codeOf [⟨0, mode.dialect.packageLine opening.package⟩, ⟨0, ""⟩] =
      [⟨0, mode.dialect.packageLine opening.package⟩] :=
    (codeOf_append [_] [_]).trans
      (congrArg (· ++ _) (codeOf_singleton (mode.dialect.startsCode_packageLine _)))
  rw [Draft.lines_append, codeOf_append, hlines, InterfaceParts.opening, Draft.lines_append,
    codeOf_append, InterfaceParts.top, Draft.lines_append, codeOf_append,
    codeOf_head hdocs ho.head]
  simp only [Draft.ofLines, hpackage, hstub]
  rfl

/-- The copy methods are known if the interface has them, and the footer is that of the services. -/
theorem InterfaceParts.copies_and_footer {parts : InterfaceParts}
    (h : interfaceParts e mode services marks = .ok parts) :
    parts.footer = services.footer e ∧
      ((mode.immutable = true ∧ parts.copies = none) ∨ mode.immutable = false ∧ ∃ copies,
        copyParts services parts.interface = .ok copies ∧ parts.copies = some copies) := by
  have ho := InterfaceParts.opens_of_ok h
  rw [ho.interfaceParts_eq] at h
  obtain ⟨members, -, h⟩ := Result.ok_of_bind h
  obtain ⟨copies, hcopies, h⟩ := Result.ok_of_bind h
  have hparts := Except.ok.inj h
  have hsame : parts.copies = copies := (congrArg InterfaceParts.copies hparts).symm
  refine ⟨(congrArg InterfaceParts.footer hparts).symm, ?_⟩
  split at hcopies
  · rename_i himmutable
    exact .inl ⟨himmutable, hsame.trans (Except.ok.inj hcopies).symm⟩
  · rename_i hmutable
    obtain ⟨c, hc, hsome⟩ := Result.ok_of_bind ((map_eq_pure_bind _ _).symm.trans hcopies)
    exact .inr ⟨eq_false_of_ne_true hmutable, c, hc, hsame.trans (Except.ok.inj hsome).symm⟩

/-- The code of the copy methods. -/
theorem codeOf_copies (hdocs : services.docs.Marked) {interface qualified : String}
    {copies : CopyParts} (h : copyParts services interface = .ok copies) (dialect : Dialect) :
    codeOf (copies.lines dialect qualified) =
      [⟨1, dialect.copyFrom qualified⟩, ⟨1, dialect.copyInto qualified⟩] := by
  obtain ⟨banner, hbanner, h⟩ := Result.ok_of_bind h
  obtain ⟨fromDoc, hfrom, h⟩ := Result.ok_of_bind h
  obtain ⟨intoDoc, hinto, h⟩ := Result.ok_of_bind h
  cases h
  have hbannerLines : codeOf (if banner.isEmpty then [] else ⟨0, ""⟩ :: banner.map (⟨1, ·⟩)) =
      [] := by
    split
    · rfl
    · rw [codeOf_cons_blank, codeOf_comments (hdocs.banner hbanner)]
  rw [CopyParts.lines, codeOf_append, codeOf_append, codeOf_append, codeOf_append, hbannerLines,
    codeOf_commentLines (hdocs.format hfrom), codeOf_commentLines (hdocs.format hinto),
    codeOf_singleton (dialect.startsCode_copyFrom _),
    codeOf_singleton (dialect.startsCode_copyInto _)]
  rfl

/-- The code behind the members: the copy methods, unless the interface has getters only, and the
closing brace. -/
theorem codeOf_bottom (hdocs : services.docs.Marked) (hfooter : services.footer e = [])
    {parts : InterfaceParts} (h : interfaceParts e mode services marks = .ok parts) :
    codeOf (parts.bottomLines mode) = (if mode.immutable then []
      else [⟨1, mode.dialect.copyFrom parts.qualified⟩,
        ⟨1, mode.dialect.copyInto parts.qualified⟩]) ++ [⟨0, closeBrace⟩] := by
  obtain ⟨hparts, hcopies⟩ := InterfaceParts.copies_and_footer h
  have hbrace : codeOf [⟨0, closeBrace⟩] = [⟨0, closeBrace⟩] :=
    codeOf_singleton (by simp [startsCode, closeBrace, isBlank])
  rw [InterfaceParts.bottomLines, hparts, hfooter, codeOf_append, hbrace, List.append_nil]
  rcases hcopies with ⟨himmutable, hnone⟩ | ⟨hmutable, copies, hcopies, hsome⟩
  · rw [hnone, himmutable]
    rfl
  · rw [hsome, hmutable]
    exact congrArg (· ++ _) (codeOf_copies hdocs hcopies mode.dialect)

/-- **The code of an interface.** -/
theorem codeOf_interface (hdocs : services.docs.Marked) (hfooter : services.footer e = [])
    {parts : InterfaceParts} (h : interfaceParts e mode services marks = .ok parts)
    (print : String → String) :
    ∃ code : InterfaceCode, code.Describes e mode services print e.members ∧
      codeOf ((parts.draft mode).lines print) = code.lines mode := by
  obtain ⟨-, -, -, -, hmembers⟩ := InterfaceParts.of_ok h
  obtain ⟨code, hdescribes, hinterface, hqualified, hbegun⟩ :=
    codeOf_begun hdocs (InterfaceParts.opens_of_ok h) hmembers print
  refine ⟨code, hdescribes, ?_⟩
  have hdraft : (parts.draft mode).lines print = (parts.opening mode ++ membersDraft mode.dialect
      (mode.returnType parts.interface) parts.members).lines print ++ parts.bottomLines mode := by
    simp [InterfaceParts.draft, InterfaceParts.body, InterfaceParts.opening, Draft.ofLines]
  rw [hdraft, codeOf_append, hbegun, codeOf_bottom hdocs hfooter h, InterfaceCode.lines, hqualified,
    List.append_assoc]

end

end TableInterfaces.Source
