import TableInterfaces.Jvm.Annotation
import TableInterfaces.Proofs.Source.Draft

/-!
# The annotations of a policy

Which annotations a policy asks for, before any annotation type is printed: their types and
arguments. Main statements:

* `AnnotationPolicy.entityLines_prints` and `AnnotationPolicy.memberLines_prints`: the annotation
  lines of an interface and of a getter are those of `entityMarks` and `memberMarks`.
-/

namespace TableInterfaces.Jvm

open TableInterfaces.Source

/-- An annotation of a type with the given text of its arguments, or none. -/
def mark (type : String) (arguments : Option (List String)) : Mark where
  type := type
  tail := match arguments with
    | none => ""
    | some list => "(" ++ String.intercalate ", " list ++ ")"

@[simp] theorem outcome_annotation (type : String) (arguments : Option (List String)) (s : Scope) :
    outcome ( annotation type arguments) s =
      .ok ((mark type arguments).line (s.useAll (usesIn type)).print, s.useAll (usesIn type)) := by
  unfold annotation
  rw [outcome_bind, Scoped.ref, outcome_modifyGet, Scope.refText_eq, Result.ok_bind]
  rfl

/-- An annotation alone. -/
theorem annotation_prints (type : String) (arguments : Option (List String)) :
    PrintsMarks ((fun line => [line]) <$> annotation type arguments)
      (pure [mark type arguments]) := fun s => by
  rw [outcome_map, outcome_annotation, Result.ok_bind, pure_bind]
  simp [usesOf, markTypes, mark]

/-- An annotation with others behind it. -/
theorem annotation_bind_prints {front : List String} {type : String}
    {arguments : Option (List String)} {f : String → Scoped (List String)}
    {later : Result (List Mark)} (h : ∀ line, PrintsAfter (front ++ [line]) (f line) later) :
    PrintsAfter front ( annotation type arguments >>= f)
      (later >>= fun ks => pure (mark type arguments :: ks)) := fun s => by
  have huses : usesIn type = usesOf (markTypes [mark type arguments]) :=
    (List.flatMap_singleton ..).symm
  rw [outcome_bind, outcome_annotation, Result.ok_bind, h]
  cases later with
  | error fault => rfl
  | ok ks =>
    have hline := (List.cons.inj (s.map_line_append [mark type arguments] ks)).1
    dsimp only at hline ⊢
    rw [huses, hline, Result.ok_bind, Result.ok_bind, Scope.useAll_marks, List.append_assoc]
    rfl

namespace AnnotationPolicy

/-! ## The annotations of an interface -/

/-- The marker of generated code. -/
def generatedMarks (policy : AnnotationPolicy) : List Mark :=
  if policy.config.flag .markGenerated then
    let name := match policy.dialect with
      | .traits => "Array(" ++ literal generatorName ++ ")"
      | .interfaces => literal generatorName
    [mark generatedType (some ["value = " ++ name, "comments = " ++ literal generatedRemark])]
  else []

/-- The annotations that map a table. -/
def tableMarks (policy : AnnotationPolicy) (e : Entity) : Result (List Mark) := do
  let arguments ← tableArguments e
  return [mark (policy.jpaType "Entity") none, mark (policy.jpaType "Table") (some arguments)]

/-- The annotations of an interface. -/
def entityMarks (policy : AnnotationPolicy) (e : Entity) : Result (List Mark) := do
  let table ← if policy.config.flag .jpaAnnotations && e.isTable then policy.tableMarks e
    else pure []
  return policy.generatedMarks ++ table

theorem generatedLines_prints (policy : AnnotationPolicy) :
    PrintsMarks policy.generatedLines (pure policy.generatedMarks) := by
  unfold generatedLines generatedMarks
  split
  · exact annotation_bind_prints fun line => .done _
  · exact .done []

theorem tableLines_prints (policy : AnnotationPolicy) (e : Entity) :
    PrintsMarks (policy.tableLines e) (policy.tableMarks e) := by
  have h : PrintsMarks (policy.tableLines e) _ := annotation_bind_prints fun entity =>
    .lift fun arguments => annotation_bind_prints fun table => .done _
  simpa only [tableMarks, bind_assoc, pure_bind] using h

/-- **The annotations of an interface.** Its annotation lines are the annotations that the policy
asks for. -/
theorem entityLines_prints (policy : AnnotationPolicy) (e : Entity) :
    PrintsMarks (policy.entityLines e) (policy.entityMarks e) := by
  unfold entityLines entityMarks
  split
  · have h : PrintsMarks (policy.generatedLines >>= fun generated =>
        policy.tableLines e >>= fun table => pure (generated ++ table)) _ :=
      .seq policy.generatedLines_prints fun generated =>
        .seq (policy.tableLines_prints e) fun table => .done _
    simpa only [pure_bind, bind_pure, List.append_nil] using h
  · have h : PrintsMarks (policy.generatedLines >>= fun generated => pure generated) _ :=
      .seq policy.generatedLines_prints fun generated => .done _
    simpa only [pure_bind] using h

/-! ## The annotations of a getter -/

/-- The annotations that map a column. -/
def columnMarks (policy : AnnotationPolicy) (m : Member) : Result (List Mark) := do
  let arguments ← columnArguments m
  return (if m.primaryKey.truthy then [mark (policy.jpaType "Id") none] else []) ++
    [mark (policy.jpaType "Column") (some arguments)]

/-- The constraints on a member. -/
def validationMarks (policy : AnnotationPolicy) (m : Member) : List Mark :=
  (if isRequired m.type then [mark (policy.validationType "NotNull") none] else []) ++
    match maxSize? m.type with
    | some n => [mark (policy.validationType "Size") (some ["max = " ++ toString n])]
    | none => []

/-- The annotations of a getter. -/
def memberMarks (policy : AnnotationPolicy) (e : Entity) (m : Member) : Result (List Mark) := do
  let column ← if policy.config.flag .jpaAnnotations && e.isTable && m.isColumn then
      policy.columnMarks m
    else pure []
  let constraints := if policy.config.flag .validationAnnotations then policy.validationMarks m
    else []
  return column ++ constraints

/-- An annotation that is printed under a condition, with others behind it. -/
theorem optional_bind_prints {condition : Bool} {type : String}
    {f : List String → Scoped (List String)} {later : Result (List Mark)}
    (h : ∀ lines, PrintsAfter lines (f lines) later) :
    PrintsMarks (if condition then ((fun line => [line]) <$> annotation type none) >>= f else f [])
      (later >>= fun ls => pure ((if condition then [mark type none] else []) ++ ls)) := by
  cases condition with
  | true =>
    have hseq : PrintsMarks (((fun line => [line]) <$> annotation type none) >>= f) _ :=
      .seq (annotation_prints type none) h
    simpa only [if_true, pure_bind] using hseq
  | false => simpa using h []

theorem columnLines_prints (policy : AnnotationPolicy) (m : Member) :
    PrintsMarks (policy.columnLines m) (policy.columnMarks m) := by
  unfold columnLines columnMarks
  simp only [pure_bind]
  have hcolumn : ∀ id, PrintsAfter id ((liftM (columnArguments m) : Scoped (List String)) >>=
      fun arguments => annotation (policy.jpaType "Column") (some arguments) >>= fun column =>
        pure (id ++ [column])) _ :=
    fun id => .lift fun arguments => annotation_bind_prints fun column => .done _
  have h := @optional_bind_prints m.primaryKey.truthy (policy.jpaType "Id") _ _ hcolumn
  simpa only [bind_assoc, pure_bind] using h

theorem validationLines_prints (policy : AnnotationPolicy) (m : Member) :
    PrintsMarks (policy.validationLines m) (pure (policy.validationMarks m)) := by
  unfold validationLines validationMarks
  simp only [pure_bind]
  cases maxSize? m.type with
  | none =>
    have h := @optional_bind_prints (isRequired m.type) (policy.validationType "NotNull") pure _
      fun required => .done required
    simpa only [pure_bind] using h
  | some n =>
    have hsize : ∀ required, PrintsAfter required ( annotation (policy.validationType "Size")
        (some ["max = " ++ toString n]) >>= fun size => pure (required ++ [size])) _ :=
      fun required => annotation_bind_prints fun size => .done _
    have h := @optional_bind_prints (isRequired m.type) (policy.validationType "NotNull") _ _ hsize
    simpa only [pure_bind] using h

/-- **The annotations of a getter.** Its annotation lines are the annotations that the policy asks
for. -/
theorem memberLines_prints (policy : AnnotationPolicy) (e : Entity) (m : Member) :
    PrintsMarks (policy.memberLines e m) (policy.memberMarks e m) := by
  have hconstraints : ∀ column, PrintsAfter column
      (if policy.config.flag .validationAnnotations then
        policy.validationLines m >>= fun constraints => pure (column ++ constraints)
      else pure (column ++ []))
      (pure (if policy.config.flag .validationAnnotations then policy.validationMarks m
        else [])) := fun column => by
    split
    · have h : PrintsAfter column (policy.validationLines m >>= fun constraints =>
          pure (column ++ constraints)) _ :=
        .seq (policy.validationLines_prints m) fun constraints => .done _
      simpa only [pure_bind, List.append_nil] using h
    · simpa only [List.append_nil] using PrintsAfter.done column
  unfold memberLines memberMarks
  simp only [pure_bind]
  split
  · have h : PrintsMarks (policy.columnLines m >>= fun column => _) _ :=
      .seq (policy.columnLines_prints m) hconstraints
    simpa only [pure_bind] using h
  · exact hconstraints []

end AnnotationPolicy

end TableInterfaces.Jvm
