import TableInterfaces.Proofs.Source.Code

/-!
# Printing with and without comments

Two runs of the same printing are followed side by side, one of which writes no comments. They are
alike (`Alike`) if each step gives the same value or stops at the same fault in both, and the first
one has printed what the second one has without its comments (`Progress.Bares`). Main statements:

* `Alike.bind`: printing in alike steps is alike.
* `printMembers_alike`: the accessors of any members, also where one of them stops the printing.
* `interfaceOf_alike`: a whole interface.
-/

namespace TableInterfaces.Source

open TableInterfaces.Comment
open TableInterfaces.Json

/-! ## Two runs -/

/-- The first run has printed what the second one has without its comments: blank lines and comments
aside, both have the same lines at the same depths, in the same scope. -/
structure Progress.Bares (bare full : Progress) : Prop where
  scope : bare.sheet.scope = full.sheet.scope
  annotated : bare.annotated = full.annotated
  lines : bare.sheet.lines.filter isFilled = full.sheet.lines.filter isUncommented

/-- Two steps of printing give the same value or stop at the same fault, and leave what only differs
in comments if this was so before. -/
def Alike {α : Type} (bare full : Printing α) : Prop :=
  ∀ p q : Progress, p.Bares q →
    (bare.run p).1 = (full.run q).1 ∧ (bare.run p).2.Bares (full.run q).2

/-- What comes of a comment in two runs: it is left out in the first one and has marks of comments
on all its lines in the second one, or both fail alike. -/
inductive Muted : Result (List String) → Result (List String) → Prop
  | fault (cause : Fault) : Muted (.error cause) (.error cause)
  | comment {doc : List String} (h : ∀ l ∈ doc, startsComment l = true) : Muted (.ok []) (.ok doc)

/-- The first service leaves out the comments that the second one writes. -/
structure DocService.Mutes (bare full : DocService) : Prop where
  entityDoc : ∀ e, Muted (bare.entityDoc e) (full.entityDoc e)
  format : ∀ text, Muted (bare.format text) (full.format text)
  banner : Muted (bare.banner copyTitle) (full.banner copyTitle)

/-- The services with other comments. -/
def Services.withDocs (services : Services) (docs : DocService) : Services :=
  { services with docs }

/-- What stands behind the mark of annotations is no comment. -/
theorem startsComment_at (text : String) : startsComment ("@" ++ text) = false := by
  simp [startsComment, commentMarks, List.isPrefixOf]

/-- Lines that are no comments are kept if they are not blank. -/
theorem filter_uncommented {lines : List Line}
    (h : ∀ line ∈ lines, startsComment line.text = false) :
    lines.filter isUncommented = lines.filter isFilled :=
  List.filter_congr fun line hline => by simp [isUncommented, h line hline]

/-! ## Steps of printing -/

/-- Lines without type names leave the scope as it is. -/
theorem Progress.write_ofLines (p : Progress) (lines : List Line) :
    p.write (.ofLines lines) =
      { p with sheet := { p.sheet with lines := p.sheet.lines ++ lines } } := by
  simp [write, Draft.ofLines, usesOf]

namespace Progress.Bares

variable {p q : Progress}

/-- Both runs go on with lines that only differ in comments. -/
theorem write_ofLines (h : p.Bares q) {lines lines' : List Line}
    (hlines : lines.filter isFilled = lines'.filter isUncommented) :
    (p.write (.ofLines lines)).Bares (q.write (.ofLines lines')) := by
  rw [Progress.write_ofLines, Progress.write_ofLines]
  exact ⟨h.scope, h.annotated, by rw [List.filter_append, List.filter_append, h.lines, hlines]⟩

/-- Both runs go on in another scope. -/
theorem withScope (h : p.Bares q) (scope : Scope) : (p.withScope scope).Bares (q.withScope scope) :=
  ⟨rfl, h.annotated, h.lines⟩

end Progress.Bares

namespace Alike

open Printing

variable {α β : Type}

theorem pure (a : α) : Alike (Pure.pure a) (Pure.pure a) :=
  fun _ _ h => ⟨rfl, h⟩

/-- Printing in alike steps is alike; the second step goes on with a value of the first one. -/
theorem bind_of_run {bare full : Printing α} {f g : α → Printing β} (h : Alike bare full)
    (hf : ∀ {p a p'}, bare.run p = (.ok a, p') → Alike (f a) (g a)) :
    Alike (bare >>= f) (full >>= g) := fun p q hpq => by
  obtain ⟨hresult, hstate⟩ := h p q hpq
  rw [run_bind, run_bind]
  rcases hbare : bare.run p with ⟨result, p'⟩
  rcases hfull : full.run q with ⟨result', q'⟩
  rw [hbare, hfull] at hresult hstate
  cases hresult
  cases result with
  | error fault => exact ⟨rfl, hstate⟩
  | ok a => exact hf hbare p' q' hstate

theorem bind {bare full : Printing α} {f g : α → Printing β} (h : Alike bare full)
    (hf : ∀ a, Alike (f a) (g a)) : Alike (bare >>= f) (full >>= g) :=
  h.bind_of_run fun {_ a _} _ => hf a

theorem ite {c : Prop} [Decidable c] {bare full bare' full' : Printing α} (h : Alike bare full)
    (h' : Alike bare' full') : Alike (if c then bare else bare') (if c then full else full') := by
  split
  · exact h
  · exact h'

/-- Steps that only print lines are alike if the lines only differ in comments. -/
theorem of_lines {bare full : Printing α} {a : α} {lines lines' : List Line}
    (hbare : ∀ p, outcome bare p = .ok (a, p.write (.ofLines lines)))
    (hfull : ∀ q, outcome full q = .ok (a, q.write (.ofLines lines')))
    (hlines : lines.filter isFilled = lines'.filter isUncommented) : Alike bare full :=
  fun p q h => by
    rw [run_eq_of_outcome (hbare p), run_eq_of_outcome (hfull q)]
    exact ⟨rfl, h.write_ofLines hlines⟩

/-- Lines that do not start with a mark of comments stand in both runs. -/
theorem printLines {texts : List String} (h : ∀ text ∈ texts, startsComment text = false)
    (depth : Int) : Alike (printLines texts depth) (printLines texts depth) := by
  refine of_lines (outcome_printLines texts depth) (outcome_printLines texts depth)
    (filter_uncommented fun line hline => ?_).symm
  obtain ⟨text, htext, rfl⟩ := List.mem_map.1 hline
  exact h text htext

theorem println {text : String} (h : startsComment text = false) (depth : Int) :
    Alike (println text depth) (println text depth) :=
  of_lines (outcome_println text depth) (outcome_println text depth)
    (filter_uncommented (List.forall_mem_singleton.2 h)).symm

/-- Comments stand in the second run only. -/
theorem comment {doc : List String} (h : ∀ l ∈ doc, startsComment l = true) (depth : Int) :
    Alike (Printing.printLines [] depth) (Printing.printLines doc depth) := by
  refine of_lines (outcome_printLines [] depth) (outcome_printLines doc depth) ?_
  refine (List.filter_eq_nil_iff.2 fun line hline => ?_).symm
  obtain ⟨l, hl, rfl⟩ := List.mem_map.1 hline
  simp [isUncommented, h l hl]

theorem ofResult (result : Result α) : Alike (ofResult result) (ofResult result) :=
  fun _ _ h => ⟨rfl, h⟩

/-- Work in the scope of the sheet moves the scope on in both runs. -/
theorem ofScoped (work : Scoped α) :
    Alike (Printing.ofScoped work) (Printing.ofScoped work) := fun p q h => by
  have hrun : ∀ r : Progress, (Printing.ofScoped work).run r =
      ((work.run r.sheet.scope).1, r.withScope (work.run r.sheet.scope).2) := fun r => by
    refine (run_bind_of_ok (outcome_scope r) _).trans ?_
    rcases work.run r.sheet.scope with ⟨_ | a, after⟩ <;> rfl
  rw [hrun, hrun, h.scope]
  exact ⟨rfl, h.withScope _⟩

/-- Annotations stand in both runs. -/
theorem marks {work : Scoped (List String)} {marks : Result (List Mark)}
    (h : PrintsMarks work marks) (depth : Int) {f g : Unit → Printing β}
    (hfg : ∀ u, Alike (f u) (g u)) :
    Alike (Printing.ofScoped work >>= fun lines => Printing.printLines lines depth >>= f)
      (Printing.ofScoped work >>= fun lines => Printing.printLines lines depth >>= g) := by
  -- only what the work gives is known to be annotations, so a value of this very run is needed
  refine (ofScoped work).bind_of_run fun {p lines p'} hrun =>
    (printLines (fun text htext => ?_) depth).bind hfg
  have hlines : outcome (Printing.ofScoped work) p = .ok (lines, p') := by
    rw [outcome, hrun]
  rw [h.outcome_ofScoped] at hlines
  obtain ⟨ks, -, hlines⟩ := Result.ok_of_bind hlines
  cases hlines
  obtain ⟨mark, -, rfl⟩ := List.mem_map.1 htext
  rw [Mark.line, String.append_assoc]
  exact startsComment_at _

theorem refValue (name : Value) : Alike (refValue name) (refValue name) := by
  cases name with
  | text s => exact ofScoped (Scoped.ref s)
  | _ => exact fun _ _ h => ⟨rfl, h⟩

theorem refValues (names : List Value) : Alike (refValues names) (refValues names) := by
  induction names with
  | nil => exact pure []
  | cons name rest ih => exact (refValue name).bind fun _ => ih.bind fun _ => pure _

/-- A comment stands in the second run only, and stops both where it cannot be written. -/
theorem commented {result result' : Result (List String)} (h : Muted result result') (depth : Int)
    {f g : Unit → Printing β} (hfg : ∀ u, Alike (f u) (g u)) :
    Alike (Printing.ofResult result >>= fun doc => Printing.printLines doc depth >>= f)
      (Printing.ofResult result' >>= fun doc => Printing.printLines doc depth >>= g) := by
  cases h with
  | fault cause => exact fun _ _ h => ⟨rfl, h⟩
  | comment hdoc => exact (comment hdoc depth).bind hfg

/-- A banner with its blank line stands in the second run only. -/
theorem banner {result result' : Result (List String)} (h : Muted result result')
    {f g : Unit → Printing β} (hfg : ∀ u, Alike (f u) (g u)) :
    Alike
      (Printing.ofResult result >>= fun banner =>
        if !banner.isEmpty then
          Printing.println "" 0 >>= fun _ => Printing.printLines banner 1 >>= f
        else f ())
      (Printing.ofResult result' >>= fun banner =>
        if !banner.isEmpty then
          Printing.println "" 0 >>= fun _ => Printing.printLines banner 1 >>= g
        else g ()) := by
  cases h with
  | fault cause => exact fun _ _ h => ⟨rfl, h⟩
  | @comment doc hdoc =>
    -- the blank line in front of a banner depends on the lines, which the first run does not have
    cases doc with
    | nil => exact hfg ()
    | cons l rest =>
      have hblank : Alike (Pure.pure ()) (Printing.println "" 0) :=
        of_lines (fun p => congrArg (fun q => Except.ok ((), q)) p.write_empty.symm)
          (outcome_println "" 0) rfl
      have hcomment : Alike (Pure.pure ()) (Printing.printLines (l :: rest) 1) := comment hdoc 1
      exact hblank.bind fun _ => hcomment.bind hfg

end Alike

/-! ## Interfaces -/

section

open Printing

variable {services : Services} {marks : MarkService} {bare full : DocService} {e : Entity}
  {mode : Mode}

/-- Code stands in both runs. -/
theorem Alike.code {text : String} (h : startsCode text = true) (depth : Int) :
    Alike (Printing.println text depth) (Printing.println text depth) :=
  println (starts_of_startsCode h).2.1 depth

theorem printDoc_alike {text : String} (h : Muted (bare.format text) (full.format text)) :
    Alike (printDoc bare text) (printDoc full text) := by
  refine (Alike.println rfl 0).bind fun _ => ?_
  simpa only [bind_pure_unit] using Alike.commented h 1 fun _ => .pure ()

theorem printPackage_alike (mode : Mode) (package interface : String) :
    Alike (printPackage mode package interface) (printPackage mode package interface) := by
  have hscope : Alike Printing.scope Printing.scope := fun _ _ h =>
    ⟨congrArg Except.ok h.scope, h⟩
  have hset : ∀ s, Alike (setScope s) (setScope s) := fun s _ _ h => ⟨rfl, h.withScope s⟩
  exact hscope.bind fun s => (hset _).bind fun _ =>
    (Alike.code (mode.dialect.startsCode_packageLine package) 0).bind fun _ => .println rfl 0

theorem printHeader_alike (hdocs : bare.Mutes full) (hprints : services.annotations.Prints marks)
    (interface : String) :
    Alike (printHeader e mode (services.withDocs bare) interface)
      (printHeader e mode (services.withDocs full) interface) := by
  let header : Printing Unit := do
    let supertypes ← ofResult (services.names.supertypes e)
    let printed ← refValues supertypes
    println (mode.dialect.header interface printed) 0
  have hheader : Alike header header :=
    (Alike.ofResult _).bind fun supertypes => (Alike.refValues supertypes).bind fun printed =>
      .code (mode.dialect.startsCode_header interface printed) 0
  refine Alike.commented (hdocs.entityDoc e) 0 fun _ => .marks (hprints.entity e) 0 fun _ => ?_
  refine .ite ?_ hheader
  exact (Alike.ofScoped (Scoped.ref builderMarker)).bind fun marker =>
    (Alike.println (startsComment_at marker) 0).bind fun _ => hheader

theorem printBuilder_alike :
    Alike (printBuilder e mode (services.withDocs bare))
      (printBuilder e mode (services.withDocs full)) := by
  refine .ite ?_ (.pure _)
  exact (Alike.println rfl 0).bind fun _ => (Alike.ofResult _).bind fun builder =>
    (Alike.ofResult _).bind fun base => .code (startsCode_builderStub builder base) 1

theorem printSetter_alike (hdocs : bare.Mutes full) (returnType memberType : String) (m : Member) :
    Alike (printSetter e mode (services.withDocs bare) returnType memberType m)
      (printSetter e mode (services.withDocs full) returnType memberType m) :=
  (Alike.ofResult _).bind fun text => (printDoc_alike (hdocs.format text)).bind fun _ =>
    (Alike.ofResult _).bind fun _ => .code (Dialect.startsCode_setter ..) 1

theorem printGetter_alike (hdocs : bare.Mutes full) (hprints : services.annotations.Prints marks)
    (memberType : String) (m : Member) :
    Alike (printGetter e mode (services.withDocs bare) memberType m)
      (printGetter e mode (services.withDocs full) memberType m) := by
  have hask : Alike (modify fun p => { p with annotated := p.annotated ++ [m] })
      (modify fun p => { p with annotated := p.annotated ++ [m] }) := fun p q h =>
    ⟨rfl, h.scope, congrArg (· ++ [m]) h.annotated, h.lines⟩
  exact (Alike.ofResult _).bind fun text => (printDoc_alike (hdocs.format text)).bind fun _ =>
    hask.bind fun _ => .marks (hprints.member e m) 1 fun _ =>
      (Alike.ofResult _).bind fun _ => .code (Dialect.startsCode_getter ..) 1

theorem printMember_alike (hdocs : bare.Mutes full) (hprints : services.annotations.Prints marks)
    (returnType : String) (m : Member) :
    Alike (printMember e mode (services.withDocs bare) returnType m)
      (printMember e mode (services.withDocs full) returnType m) := by
  refine (Alike.ofResult _).bind fun type => (Alike.refValue type).bind fun memberType => ?_
  have hgetter : Alike (printGetter e mode (services.withDocs bare) memberType m)
      (printGetter e mode (services.withDocs full) memberType m) :=
    printGetter_alike hdocs hprints memberType m
  exact .ite ((printSetter_alike hdocs returnType memberType m).bind fun _ => hgetter) hgetter

/-- The accessors of members are printed alike, up to the same member where one stops. -/
theorem printMembers_alike (hdocs : bare.Mutes full) (hprints : services.annotations.Prints marks)
    (returnType : String) (members : List Member) :
    Alike (printMembers e mode (services.withDocs bare) returnType members)
      (printMembers e mode (services.withDocs full) returnType members) := by
  induction members with
  | nil => exact .pure ()
  | cons m rest ih => exact (printMember_alike hdocs hprints returnType m).bind fun _ => ih

theorem printCopies_alike (hdocs : bare.Mutes full) (interface qualified : String) :
    Alike (printCopies mode (services.withDocs bare) interface qualified)
      (printCopies mode (services.withDocs full) interface qualified) := by
  have hcopy : ∀ sentence {declaration}, startsCode declaration = true →
      Alike (printCopy (services.withDocs bare) sentence interface declaration)
        (printCopy (services.withDocs full) sentence interface declaration) :=
    fun sentence declaration h => (printDoc_alike (hdocs.format _)).bind fun _ => .code h 1
  exact Alike.banner hdocs.banner fun _ =>
    (hcopy "Load data from" (mode.dialect.startsCode_copyFrom qualified)).bind fun _ =>
      hcopy "Copy data into" (mode.dialect.startsCode_copyInto qualified)

/-- Printing an interface is printing it without its comments. -/
theorem printInterface_alike (hdocs : bare.Mutes full)
    (hprints : services.annotations.Prints marks)
    (hfooter : ∀ line ∈ services.footer e, startsComment line.text = false) :
    Alike (printInterface e mode (services.withDocs bare))
      (printInterface e mode (services.withDocs full)) := by
  refine (Alike.ofResult _).bind fun package => (Alike.ofResult _).bind fun interface =>
    (Alike.ofResult _).bind fun qualified => (printPackage_alike mode package interface).bind
      fun _ => (printHeader_alike hdocs hprints interface).bind fun _ =>
        printBuilder_alike.bind fun _ => (printMembers_alike hdocs hprints _ _).bind fun _ => ?_
  let closing : Printing Unit := do
    (services.footer e).forM fun line => println line.text line.depth
    println closeBrace 0
  have hclosing : Alike closing closing := by
    refine Alike.bind ?_ fun _ => .println (by decide) 0
    exact .of_lines (outcome_forM_println _) (outcome_forM_println _)
      (filter_uncommented hfooter).symm
  exact .ite ((printCopies_alike hdocs interface qualified).bind fun _ => hclosing) hclosing

/-- **The same interface without comments.** -/
theorem interfaceOf_alike (e : Entity) (mode : Mode) (hdocs : bare.Mutes full)
    (hprints : services.annotations.Prints marks)
    (hfooter : ∀ line ∈ services.footer e, startsComment line.text = false) :
    (interfaceOf e mode (services.withDocs bare)).1 =
        (interfaceOf e mode (services.withDocs full)).1 ∧
      (interfaceOf e mode (services.withDocs bare)).2.Bares
        (interfaceOf e mode (services.withDocs full)).2 :=
  printInterface_alike hdocs hprints hfooter _ _ ⟨rfl, rfl, rfl⟩

end

end TableInterfaces.Source
