import TableInterfaces.Text.Lines
import TableInterfaces.Text.WordChar

/-!
# Type names

The name of a type as a source file refers to it: a qualified name such as `java.util.UUID`, an
array `T[]`, or a type with an argument `T[U]`. Anything else, a primitive type for instance, is
plain and has no parts.
-/

namespace TableInterfaces.Source

open TableInterfaces.Text

/-- A type name by its parts. A qualified name keeps its whole text beside package and simple
name. -/
inductive TypeName where
  | plain (text : List Char)
  | qualified (package simple text : List Char)
  | array (element : TypeName)
  | applied (outer argument : TypeName)
  deriving DecidableEq, Repr

namespace TypeName

/-- A segment of a package: a small letter or underscore, then word characters. -/
def isPackageSegment : List Char → Bool
  | [] => false
  | c :: rest => (c.isLower || c == '_') && rest.all isWordChar

/-- A simple type name: a capital, then word characters. -/
def isSimpleName : List Char → Bool
  | [] => false
  | c :: rest => c.isUpper && rest.all isWordChar

/-- A text without the line feed at its end. -/
def dropFinalNewline (cs : List Char) : List Char :=
  if cs.getLast? == some '\n' then cs.dropLast else cs

/-- Segments with dots between them. -/
def joinDots (segments : List (List Char)) : List Char :=
  List.intercalate ['.'] segments

/-- The package and the simple name of a qualified name; a line feed at its end is no part of
them. -/
def splitQualified? (cs : List Char) : Option (List Char × List Char) :=
  match (splitOn ['.'] (dropFinalNewline cs)).reverse with
  | simple :: last :: front =>
    let package := (last :: front).reverse
    if isSimpleName simple && package.all isPackageSegment then some (joinDots package, simple)
    else none
  | _ => none

/-- The element type of an array. -/
def elementOf? (cs : List Char) : Option (List Char) :=
  match cs.reverse with
  | ']' :: '[' :: rest => some rest.reverse
  | _ => none

/-- The characters before the bracket at the end of a text, or before one that only a line feed
follows. -/
def bracketContent (cs : List Char) : List Char :=
  match cs.reverse with
  | ']' :: rest => rest.reverse
  | '\n' :: ']' :: rest => rest.reverse
  | _ => []

/-- The content of a bracket that ends a text, if there is any and it has no line feed. -/
def beforeFinalBracket? (cs : List Char) : Option (List Char) :=
  let content := bracketContent cs
  if content.isEmpty || content.contains '\n' then none else some content

/-- Characters of the name that takes an argument. -/
def isOuterChar (c : Char) : Bool :=
  isWordChar c || c == '.'

/-- The outer name and the argument of an applied type. -/
def splitApplied? (cs : List Char) : Option (List Char × List Char) :=
  let outer := cs.takeWhile isOuterChar
  match cs.dropWhile isOuterChar with
  | '[' :: rest =>
    if outer.isEmpty then none else (beforeFinalBracket? rest).map fun inner => (outer, inner)
  | _ => none

/-- A type name without brackets. -/
def ofSimpleText (cs : List Char) : TypeName :=
  match splitQualified? cs with
  | some (package, simple) => .qualified package simple cs
  | none => .plain cs

theorem length_of_elementOf? {cs element : List Char} (h : elementOf? cs = some element) :
    element.length < cs.length := by
  unfold elementOf? at h
  split at h
  · rename_i rest hr
    have hl : cs.reverse.length = rest.length + 2 := by rw [hr]; rfl
    simp only [Option.some.injEq] at h
    subst h
    simp only [List.length_reverse] at hl ⊢
    omega
  · exact absurd h (by simp)

theorem length_bracketContent (cs : List Char) :
    bracketContent cs = [] ∨ (bracketContent cs).length < cs.length := by
  unfold bracketContent
  split
  · rename_i rest hr
    have hl : cs.reverse.length = rest.length + 1 := by rw [hr]; rfl
    simp only [List.length_reverse] at hl ⊢
    exact .inr (by omega)
  · rename_i rest hr
    have hl : cs.reverse.length = rest.length + 2 := by rw [hr]; rfl
    simp only [List.length_reverse] at hl ⊢
    exact .inr (by omega)
  · exact .inl rfl

theorem length_of_beforeFinalBracket? {cs inner : List Char}
    (h : beforeFinalBracket? cs = some inner) : inner.length < cs.length := by
  have h' : (bracketContent cs ≠ [] ∧ '\n' ∉ bracketContent cs) ∧ bracketContent cs = inner := by
    simpa [beforeFinalBracket?] using h
  rcases length_bracketContent cs with he | hl
  · exact absurd he h'.1.1
  · rwa [h'.2] at hl

theorem length_of_splitApplied? {cs outer inner : List Char}
    (h : splitApplied? cs = some (outer, inner)) :
    outer.length < cs.length ∧ inner.length < cs.length := by
  unfold splitApplied? at h
  simp only at h
  split at h
  · rename_i rest hr
    have hsum :
        (cs.takeWhile isOuterChar).length + (cs.dropWhile isOuterChar).length = cs.length := by
      rw [← List.length_append, List.takeWhile_append_dropWhile]
    rw [hr] at hsum
    simp only [List.length_cons] at hsum
    split at h
    · exact absurd h (by simp)
    · obtain ⟨i, hi, he⟩ := Option.map_eq_some_iff.1 h
      have hlt := length_of_beforeFinalBracket? hi
      simp only [Prod.mk.injEq] at he
      obtain ⟨h₁, h₂⟩ := he
      subst h₁ h₂
      omega
  · exact absurd h (by simp)

/-- The parts of a written type name. -/
def ofText (cs : List Char) : TypeName :=
  match _h : elementOf? cs with
  | some element => .array (ofText element)
  | none =>
    match _h : splitApplied? cs with
    | some (outer, argument) => .applied (ofText outer) (ofText argument)
    | none => ofSimpleText cs
termination_by cs.length
decreasing_by
  · exact length_of_elementOf? ‹_›
  · exact (length_of_splitApplied? ‹_›).1
  · exact (length_of_splitApplied? ‹_›).2

/-- The text of a type name with all its names qualified. -/
def text : TypeName → List Char
  | .plain cs => cs
  | .qualified _ _ cs => cs
  | .array element => element.text ++ ['[', ']']
  | .applied outer argument => outer.text ++ '[' :: argument.text ++ [']']

end TypeName

end TableInterfaces.Source
