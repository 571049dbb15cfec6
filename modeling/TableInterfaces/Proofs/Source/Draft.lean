import TableInterfaces.Proofs.Result
import TableInterfaces.Proofs.Source.Reference
import TableInterfaces.Source.Interface

/-!
# Drafts

A part of a file is printed in two steps that are mixed up in the printing itself: what is to be
said, with types by their written names, and how the names are printed. `Draft` is the first step:
the names in the order in which they are referred to, and the lines as a function of how names are
printed. `Progress.write` is the second one: all lines are printed by the scope behind the draft.
Main statements:

* `Progress.write_append`: drafts written one after the other are written as one, since what a name
  is printed as never changes.
* `outcome_println`, `outcome_ref` and their like: each printing operation writes a draft.
-/

namespace TableInterfaces.Source

open TableInterfaces.Json

/-! ## Written names in a scope -/

/-- The qualified names in a written type name. -/
def usesIn (name : String) : List Use :=
  (TypeName.ofText name.toList).uses

/-- The qualified names in a row of written type names. -/
def usesOf (names : List String) : List Use :=
  names.flatMap usesIn

/-- Names that are read from their texts have texts that tell their parts. -/
theorem usesOf_splits (names : List String) : ∀ u ∈ usesOf names, u.Splits := by
  intro u hu
  obtain ⟨name, _, hu⟩ := List.mem_flatMap.1 hu
  exact TypeName.ofText_uses_split _ u hu

namespace Scope

/-- A written type name as it is printed by what the simple names stand for. -/
def print (s : Scope) (name : String) : String :=
  (TypeName.ofText name.toList).printed s.owner

/-- A type name is printed by the scope behind it. -/
theorem refText_eq (s : Scope) (name : String) :
    s.refText name = ((s.useAll (usesIn name)).print name, s.useAll (usesIn name)) := by
  have hfst := s.ref_fst (TypeName.ofText name.toList) []
  rw [List.append_nil] at hfst
  exact Prod.ext hfst (s.ref_snd _)

/-- A name that has been referred to is printed the same way whatever is referred to later. -/
theorem print_useAll_append (s : Scope) {names : List String} (later : List Use) {name : String}
    (h : name ∈ names) :
    (s.useAll (usesOf names ++ later)).print name = (s.useAll (usesOf names)).print name := by
  refine TypeName.printed_congr _ fun u hu => ?_
  exact s.owner_useAll_append _ later (List.mem_flatMap.2 ⟨name, h, hu⟩)

end Scope

/-! ## Drafts -/

/-- What is to be printed: the type names referred to in order, the lines under a way to print
names, and the members whose annotations are asked for. The lines depend on how these names are
printed and on no other. -/
@[ext]
structure Draft where
  names : List String
  lines : (String → String) → List Line
  asked : List Member
  stable : ∀ f g, (∀ n ∈ names, f n = g n) → lines f = lines g

namespace Draft

/-- Lines without type names. -/
def ofLines (lines : List Line) : Draft where
  names := []
  lines _ := lines
  asked := []
  stable _ _ _ := rfl

/-- References to type names that leave no line. -/
def ofNames (names : List String) : Draft where
  names := names
  lines _ := []
  asked := []
  stable _ _ _ := rfl

/-- Members whose annotations are asked for. -/
def ofAsked (members : List Member) : Draft where
  names := []
  lines _ := []
  asked := members
  stable _ _ _ := rfl

/-- One draft after another. -/
def append (d later : Draft) : Draft where
  names := d.names ++ later.names
  lines f := d.lines f ++ later.lines f
  asked := d.asked ++ later.asked
  stable f g h := by
    rw [d.stable f g fun n hn => h n (List.mem_append_left _ hn),
      later.stable f g fun n hn => h n (List.mem_append_right _ hn)]

instance : Append Draft := ⟨append⟩

@[simp] theorem names_append (d later : Draft) : (d ++ later).names = d.names ++ later.names := rfl

@[simp] theorem lines_append (d later : Draft) (f : String → String) :
    (d ++ later).lines f = d.lines f ++ later.lines f := rfl

@[simp] theorem asked_append (d later : Draft) : (d ++ later).asked = d.asked ++ later.asked := rfl

/-- Lines without type names one after the other. -/
theorem ofLines_append (lines later : List Line) :
    ofLines (lines ++ later) = ofLines lines ++ ofLines later := rfl

/-- The draft without anything. -/
def empty : Draft := ofLines []

@[simp] theorem empty_append (d : Draft) : empty ++ d = d := rfl

theorem append_assoc (a b c : Draft) : a ++ b ++ c = a ++ (b ++ c) :=
  Draft.ext (List.append_assoc ..) (funext fun _ => List.append_assoc ..) (List.append_assoc ..)

end Draft

namespace Progress

/-- What has been printed once a draft is written: its lines stand in the scope behind it. -/
def write (p : Progress) (d : Draft) : Progress :=
  let scope := p.sheet.scope.useAll (usesOf d.names)
  { sheet := { lines := p.sheet.lines ++ d.lines scope.print, scope }
    annotated := p.annotated ++ d.asked }

/-- The scope behind a draft. -/
theorem write_scope (p : Progress) (d : Draft) :
    (p.write d).sheet.scope = p.sheet.scope.useAll (usesOf d.names) := rfl

/-- Drafts with the same names are written alike where their lines agree in the scope behind them.
-/
theorem write_congr (p : Progress) {d d' : Draft} (hn : d.names = d'.names)
    (hl : d.lines (p.write d).sheet.scope.print = d'.lines (p.write d).sheet.scope.print)
    (ha : d.asked = d'.asked) : p.write d = p.write d' := by
  rw [write_scope] at hl
  simp only [write, ← hn, hl, ha]

/-- The scope behind a draft prints the names of the draft as every later scope does. -/
theorem print_write (p : Progress) (d : Draft) (later : List String) {name : String}
    (h : name ∈ d.names) :
    (p.sheet.scope.useAll (usesOf (d.names ++ later))).print name =
      (p.write d).sheet.scope.print name := by
  rw [write_scope, usesOf, List.flatMap_append]
  exact p.sheet.scope.print_useAll_append _ h

/-- **Drafts add up.** Two drafts written one after the other are written as one. -/
theorem write_append (p : Progress) (d later : Draft) :
    (p.write d).write later = p.write (d ++ later) := by
  have hscope : (p.sheet.scope.useAll (usesOf d.names)).useAll (usesOf later.names) =
      p.sheet.scope.useAll (usesOf (d.names ++ later.names)) := by
    rw [← Scope.useAll_append, usesOf, usesOf, usesOf, List.flatMap_append]
  have hlines : d.lines (p.sheet.scope.useAll (usesOf d.names)).print =
      d.lines (p.sheet.scope.useAll (usesOf (d.names ++ later.names))).print :=
    d.stable _ _ fun n hn => (p.print_write d later.names hn).symm
  simp only [write, Draft.names_append, Draft.lines_append, Draft.asked_append, hscope, hlines,
    List.append_assoc]

@[simp] theorem write_empty (p : Progress) : p.write Draft.empty = p := by
  simp [write, Draft.empty, Draft.ofLines, usesOf]

end Progress

/-! ## Printing operations -/

namespace Progress

/-- Another scope in place of the sheet's own. -/
def withScope (p : Progress) (scope : Scope) : Progress :=
  { p with sheet := { p.sheet with scope } }

/-- References without lines only move the scope on. -/
theorem withScope_useAll (p : Progress) (names : List String) :
    p.withScope (p.sheet.scope.useAll (usesOf names)) = p.write (.ofNames names) := by
  simp [withScope, write, Draft.ofNames]

end Progress

namespace Printing

variable {α : Type}

@[simp] theorem outcome_ofResult (r : Result α) (p : Progress) :
    outcome (ofResult r) p = r >>= fun a => .ok (a, p) := by
  cases r <;> rfl

@[simp] theorem outcome_println (text : String) (depth : Int) (p : Progress) :
    outcome (println text depth) p = .ok ((), p.write (.ofLines [⟨depth, text⟩])) := by
  rw [println, outcome_modify, Progress.write]
  simp [Draft.ofLines, usesOf, Sheet.println]

@[simp] theorem outcome_printLines (texts : List String) (depth : Int) (p : Progress) :
    outcome (printLines texts depth) p =
      .ok ((), p.write (.ofLines (texts.map (⟨depth, ·⟩)))) := by
  rw [printLines]
  induction texts generalizing p with
  | nil => exact congrArg (fun q => Except.ok ((), q)) p.write_empty.symm
  | cons text rest ih =>
    change outcome (println text depth >>= fun _ => rest.forM (println · depth)) p = _
    rw [outcome_bind, outcome_println, Result.ok_bind, ih, Progress.write_append]
    rfl

@[simp] theorem outcome_ask (m : Member) (p : Progress) :
    outcome (modify fun p => { p with annotated := p.annotated ++ [m] } : Printing PUnit) p =
      .ok (⟨⟩, p.write (.ofAsked [m])) := by
  simp [Progress.write, Draft.ofAsked, usesOf]

@[simp] theorem outcome_setScope (scope : Scope) (p : Progress) :
    outcome (setScope scope) p = .ok ((), p.withScope scope) := rfl

@[simp] theorem outcome_scope (p : Progress) :
    outcome Printing.scope p = .ok (p.sheet.scope, p) := rfl

@[simp] theorem outcome_ofScoped (work : Scoped α) (p : Progress) :
    outcome (ofScoped work) p =
      outcome work p.sheet.scope >>= fun r => .ok (r.1, p.withScope r.2) := by
  simp only [ofScoped, outcome_bind, outcome_scope, Result.ok_bind]
  unfold outcome
  rcases work.run p.sheet.scope with ⟨_ | a, after⟩ <;> rfl

@[simp] theorem outcome_ref (name : String) (p : Progress) :
    outcome (ref name) p =
      .ok ((p.write (.ofNames [name])).sheet.scope.print name, p.write (.ofNames [name])) := by
  have huses : usesIn name = usesOf [name] := (List.flatMap_singleton ..).symm
  rw [ref, outcome_ofScoped, Scoped.ref, outcome_modifyGet, Scope.refText_eq, Result.ok_bind, huses,
    Progress.withScope_useAll, Progress.write_scope]
  rfl

end Printing

/-! ## Annotations -/

/-- An annotation: the name of its type, and what stands behind that. -/
structure Mark where
  type : String
  tail : String := ""
  deriving DecidableEq, Repr

/-- The line of an annotation. -/
def Mark.line (print : String → String) (mark : Mark) : String :=
  "@" ++ print mark.type ++ mark.tail

/-- The types of annotations. -/
def markTypes (marks : List Mark) : List String :=
  marks.map (·.type)

/-- Work in a scope that gives some lines and, behind them, annotations that are all printed by the
scope at the end, or fails as the annotations do. -/
def PrintsAfter (front : List String) (work : Scoped (List String)) (marks : Result (List Mark)) :
    Prop :=
  ∀ s, outcome work s = marks >>= fun ks =>
    .ok (front ++ ks.map (·.line (s.useAll (usesOf (markTypes ks))).print),
      s.useAll (usesOf (markTypes ks)))

/-- Work in a scope that prints just some annotations. -/
abbrev PrintsMarks (work : Scoped (List String)) (marks : Result (List Mark)) : Prop :=
  PrintsAfter [] work marks

/-- Annotations are printed by how their types are printed. -/
theorem map_line_congr {marks : List Mark} {f g : String → String}
    (h : ∀ n ∈ markTypes marks, f n = g n) : marks.map (·.line f) = marks.map (·.line g) :=
  List.map_congr_left fun mark hm => by rw [Mark.line, Mark.line, h _ (List.mem_map_of_mem hm)]

/-- The scope behind annotations and more annotations. -/
theorem Scope.useAll_marks (s : Scope) (marks later : List Mark) :
    (s.useAll (usesOf (markTypes marks))).useAll (usesOf (markTypes later)) =
      s.useAll (usesOf (markTypes (marks ++ later))) := by
  rw [← useAll_append, usesOf, usesOf, usesOf, markTypes, markTypes, markTypes, List.map_append,
    List.flatMap_append]

/-- Annotations are printed the same way whatever annotations are printed later. -/
theorem Scope.map_line_append (s : Scope) (marks later : List Mark) :
    marks.map (·.line (s.useAll (usesOf (markTypes marks))).print) =
      marks.map (·.line (s.useAll (usesOf (markTypes (marks ++ later)))).print) := by
  refine map_line_congr fun n hn => ?_
  rw [← s.useAll_marks, ← useAll_append]
  exact (s.print_useAll_append _ hn).symm

/-- A line with nothing behind it has no more annotations. -/
theorem PrintsAfter.done (front : List String) : PrintsAfter front (pure front) (pure []) :=
  fun s => by
    rw [outcome_pure]
    simp [usesOf, markTypes, pure, Except.pure]

/-- A result that is asked for prints nothing itself. -/
theorem PrintsAfter.lift {α : Type} {front : List String} {r : Result α}
    {f : α → Scoped (List String)} {marks : α → Result (List Mark)}
    (h : ∀ a, PrintsAfter front (f a) (marks a)) :
    PrintsAfter front ((liftM r : Scoped α) >>= f) (r >>= marks) := fun s => by
  rw [outcome_bind]
  cases r with
  | error fault => rfl
  | ok a => exact h a s

/-- Annotations behind others. -/
theorem PrintsAfter.seq {front : List String} {work : Scoped (List String)}
    {f : List String → Scoped (List String)} {marks later : Result (List Mark)}
    (hw : PrintsMarks work marks) (hf : ∀ lines, PrintsAfter (front ++ lines) (f lines) later) :
    PrintsAfter front (work >>= f)
      (marks >>= fun ks => later >>= fun ls => pure (ks ++ ls)) := fun s => by
  rw [outcome_bind, hw]
  cases marks with
  | error fault => rfl
  | ok ks =>
    rw [Result.ok_bind, Result.ok_bind, hf]
    cases later with
    | error fault => rfl
    | ok ls =>
      simp only [Result.ok_bind, pure_bind, List.nil_append, Scope.useAll_marks,
        s.map_line_append ks ls, List.map_append, List.append_assoc]

/-- Annotations at a depth. -/
def Draft.ofMarks (depth : Int) (marks : List Mark) : Draft where
  names := markTypes marks
  lines f := (marks.map (·.line f)).map (⟨depth, ·⟩)
  asked := []
  stable f g h := by rw [map_line_congr h]

/-- Printing annotations in the scope of a sheet refers to their types. -/
theorem PrintsMarks.outcome_ofScoped {work : Scoped (List String)} {marks : Result (List Mark)}
    (h : PrintsMarks work marks) (p : Progress) :
    outcome (Printing.ofScoped work) p = marks >>= fun ks =>
      .ok (ks.map (·.line (p.write (.ofNames (markTypes ks))).sheet.scope.print),
        p.write (.ofNames (markTypes ks))) := by
  rw [Printing.outcome_ofScoped, h p.sheet.scope]
  cases marks with
  | error fault => rfl
  | ok ks =>
    simp only [Result.ok_bind, Progress.withScope_useAll]
    rfl

/-- References to annotation types with the lines of the annotations behind them are the draft of
the annotations. -/
theorem Progress.write_marks (p : Progress) (depth : Int) (ks : List Mark) :
    (p.write (.ofNames (markTypes ks))).write (.ofLines
      ((ks.map (·.line (p.write (.ofNames (markTypes ks))).sheet.scope.print)).map (⟨depth, ·⟩))) =
      p.write (.ofMarks depth ks) := by
  rw [write_append]
  refine write_congr _ (List.append_nil _) ?_ rfl
  simp [Draft.ofNames, Draft.ofLines, Draft.ofMarks, write_scope]

end TableInterfaces.Source
