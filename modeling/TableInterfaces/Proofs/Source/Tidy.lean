import TableInterfaces.Proofs.Source.Layout
import TableInterfaces.Proofs.Text.Pieces
import TableInterfaces.Source.Tidy

/-!
# Lines of a tidied file

Tidying goes over the lines of a text one by one and only knows whether the line before was blank.
So lines that begin with one that is not blank are tidied alike wherever they stand. Main
statements:

* `tidyLinesFrom_append`: rows of lines are tidied one after the other.
* `splitOn_tidyText`: the lines of a tidied text are the tidied lines of the text.
* `InterfaceParts.Printed.tidied_lines`: a tidied file starts with the package line, and has the
  tidied header among its lines.
-/

namespace TableInterfaces.Source

open TableInterfaces.Text

/-! ## Rows of lines -/

/-- The last of some lines is blank; `afterBlank` stands for the line before them. -/
def endsBlank (afterBlank : Bool) : List (List Char) → Bool
  | [] => afterBlank
  | line :: rest => endsBlank (trimEnd line).isEmpty rest

/-- Rows of lines are tidied one after the other. -/
theorem tidyLinesFrom_append (afterBlank : Bool) (lines later : List (List Char)) :
    tidyLinesFrom afterBlank (lines ++ later) =
      tidyLinesFrom afterBlank lines ++ tidyLinesFrom (endsBlank afterBlank lines) later := by
  induction lines generalizing afterBlank with
  | nil => rfl
  | cons line rest ih =>
    rw [List.cons_append, tidyLinesFrom, tidyLinesFrom, endsBlank]
    cases trimEnd line with
    | nil =>
      dsimp only
      rw [ih]
      cases afterBlank <;> rfl
    | cons c kept =>
      dsimp only
      rw [ih]
      rfl

/-- A line that is not blank stays, whatever stands before it. -/
theorem tidyLinesFrom_cons {line : List Char} (h : trimEnd line ≠ []) (afterBlank : Bool)
    (rest : List (List Char)) :
    tidyLinesFrom afterBlank (line :: rest) = trimEnd line :: tidyLinesFrom false rest := by
  rw [tidyLinesFrom]
  cases hline : trimEnd line with
  | nil => exact absurd hline h
  | cons c kept => rfl

/-- Tidy lines are lines without the white space at their ends. -/
theorem mem_tidyLinesFrom {afterBlank : Bool} {lines : List (List Char)} {kept : List Char}
    (h : kept ∈ tidyLinesFrom afterBlank lines) : ∃ line ∈ lines, kept = trimEnd line := by
  induction lines generalizing afterBlank with
  | nil => cases h
  | cons line rest ih =>
    have hrest : ∀ {after}, kept ∈ tidyLinesFrom after rest →
        ∃ line' ∈ line :: rest, kept = trimEnd line' := fun h =>
      (ih h).imp fun _ hline => ⟨List.mem_cons_of_mem _ hline.1, hline.2⟩
    rw [tidyLinesFrom] at h
    split at h
    · rename_i hblank
      split at h
      · exact hrest h
      · rcases List.mem_cons.1 h with rfl | h
        · exact ⟨line, List.mem_cons_self, hblank.symm⟩
        · exact hrest h
    · rcases List.mem_cons.1 h with rfl | h
      · exact ⟨line, List.mem_cons_self, rfl⟩
      · exact hrest h

/-- There are tidy lines where there are lines. -/
theorem tidyLines_ne_nil {lines : List (List Char)} (h : lines ≠ []) : tidyLines lines ≠ [] := by
  obtain ⟨line, rest, rfl⟩ := List.exists_cons_of_ne_nil h
  rw [tidyLines, tidyLinesFrom]
  split <;> simp

/-! ## Texts -/

/-- A text that is not empty is a line ending that texts can be tidied under. -/
theorem tidied_text {ending : String} (h : ending ≠ "") (code : String) :
    tidied (.text ending) code =
      .ok (String.ofList (tidyText ending.toList code.toList)) := by
  unfold tidied
  split
  · rename_i heq
    exact absurd (Json.Value.text.inj heq) h
  · rename_i heq
    rw [Json.Value.text.inj heq]
  · rename_i heq
    cases heq
  · rename_i hother _
    exact absurd rfl (hother ending)

/-- The lines of a tidied text are the tidied lines of the text. -/
theorem splitOn_tidyText {ending : List Char} (h : SelfDisjoint ending) (code : List Char) :
    splitOn ending (tidyText ending code) = tidyLines (splitOn ending code) := by
  refine splitOn_intercalate h (fun kept hkept => ?_) (tidyLines_ne_nil (splitOn_ne_nil _ _))
  obtain ⟨line, hline, rfl⟩ := mem_tidyLinesFrom hkept
  exact fun hin => absent_of_mem_splitOn h.ne_nil hline
    (hin.trans (dropEndWhile_start _ _).isInfix)

/-- A text whose first character is neither white space nor of the line ending is tidied alike
wherever its lines stand. -/
theorem tidyLines_within {ending : List Char} (hending : ending ≠ []) {c : Char} (hc : c ∉ ending)
    (hblank : isBlank c = false) (before : List (List Char)) (cs : List Char)
    (after : List (List Char)) :
    tidyLines (splitOn ending (c :: cs)) <:+:
      tidyLines (before ++ splitOn ending (c :: cs) ++ after) := by
  obtain ⟨tail, rest, hlines⟩ := splitOn_cons hending hc cs
  have hkept : trimEnd (c :: tail) ≠ [] :=
    List.ne_nil_of_mem ((mem_dropEndWhile hblank).2 List.mem_cons_self)
  have hsame : tidyLinesFrom (endsBlank false before) ((c :: tail) :: rest) =
      tidyLinesFrom false ((c :: tail) :: rest) := by
    rw [tidyLinesFrom_cons hkept, tidyLinesFrom_cons hkept]
  rw [hlines, tidyLines, tidyLines, List.append_assoc, tidyLinesFrom_append, tidyLinesFrom_append,
    hsame, ← List.append_assoc]
  exact List.infix_append _ _ _

/-! ## Rendered sheets -/

namespace Sheet

variable {s : Sheet}

/-- A line that is not nested is not indented. -/
theorem indented_zero (unit text : String) : indented unit ⟨0, text⟩ = text := by
  unfold indented repeated
  by_cases h : text = ""
  · simp [h]
  · by_cases hunit : unit = "" <;> simp [h, hunit]

/-- Behind a package line in front of all others stand the imports and then the other lines. -/
theorem fileLines_opened {line : Line} {rest : List Line} (h : s.lines = line :: rest)
    (hpackage : isPackageLine line = true) (unit : String) : ∃ imports,
    s.fileLines unit = indented unit line :: (imports ++ rest.map (indented unit)) := by
  unfold fileLines
  rw [h, List.map_cons, List.findIdx?_cons, hpackage]
  by_cases himports : s.importLines.isEmpty = true
  · exact ⟨[], by simp [himports]⟩
  · exact ⟨"" :: s.importLines, by simp [himports]⟩

/-- The lines of a tidied file are the tidied lines of the sheet, cut at the line ending, with one
blank line behind them. -/
theorem splitOn_render {ending : String} (h : SelfDisjoint ending.toList) {unit : String}
    (hne : s.fileLines unit ≠ []) :
    splitOn ending.toList (s.render unit ending).toList =
      (s.fileLines unit).flatMap (splitOn ending.toList ·.toList) ++ [[]] := by
  rw [render, String.toList_append, String.toList_intercalate,
    intercalate_append_separator (by simpa using hne), splitOn_terminated h, List.flatMap_map]

end Sheet

/-! ## The file of an interface -/

/-- The line endings of text files do not overlap themselves. -/
theorem selfDisjoint_of_ending {ending : String} (h : ending = "\n" ∨ ending = "\r\n") :
    SelfDisjoint ending.toList := by
  rcases h with rfl | rfl
  · exact .singleton '\n'
  · exact .pair (by decide)

/-- A header begins with a letter. -/
theorem header_toList (dialect : Dialect) (interface : String) (supertypes : List String) :
    ∃ c cs, (dialect.header interface supertypes).toList = c :: cs ∧ (c = 'p' ∨ c = 't') := by
  unfold Dialect.header
  rw [String.toList_append, String.toList_append, String.toList_append, String.toList_append]
  cases dialect
  · exact ⟨'p', _, rfl, .inl rfl⟩
  · exact ⟨'t', _, rfl, .inr rfl⟩

/-- The package line of a dialect is taken for one. -/
theorem isPackageLine_packageLine (dialect : Dialect) (package : String) :
    Sheet.isPackageLine ⟨0, dialect.packageLine package⟩ = true := by
  have hprefix : "package ".toList <+: (dialect.packageLine package).toList := by
    cases dialect <;> simp only [Dialect.packageLine, String.toList_append, List.append_assoc]
    all_goals exact List.prefix_append _ _
  simpa [Sheet.isPackageLine] using hprefix

namespace InterfaceParts.Printed

variable {parts : InterfaceParts} {mode : Mode} {sheet : Sheet} {ending : String}

/-- **How a file starts.** A tidied file has the package line for its first line, and the tidied
header of the interface among its lines. -/
theorem tidied_lines (h : parts.Printed mode sheet) (hending : ending = "\n" ∨ ending = "\r\n")
    (hbreak : '\n' ∉ (mode.dialect.packageLine parts.package).toList)
    (htrim : trimEnd (mode.dialect.packageLine parts.package).toList =
      (mode.dialect.packageLine parts.package).toList) (unit : String) :
    let lines := splitOn ending.toList (tidyText ending.toList (sheet.render unit ending).toList)
    lines.head? = some (mode.dialect.packageLine parts.package).toList ∧
      tidyLines (splitOn ending.toList (mode.dialect.header parts.interface
        (parts.head.supertypes.map sheet.scope.print)).toList) <:+: lines := by
  intro lines
  have hdisjoint := selfDisjoint_of_ending hending
  obtain ⟨before, after, hsheet⟩ := h.lines_opened
  obtain ⟨imports, hfile⟩ := Sheet.fileLines_opened hsheet
    (isPackageLine_packageLine mode.dialect parts.package) unit
  obtain ⟨c, cs, hheader, hc⟩ := header_toList mode.dialect parts.interface
    (parts.head.supertypes.map sheet.scope.print)
  have hpiece : splitOn ending.toList (mode.dialect.packageLine parts.package).toList =
      [(mode.dialect.packageLine parts.package).toList] := by
    refine splitOn_of_absent fun hin => hbreak (hin.subset ?_)
    rcases hending with rfl | rfl <;> simp
  have hlines : lines = tidyLines
      ((mode.dialect.packageLine parts.package).toList ::
        ((imports ++ before.map (Sheet.indented unit)).flatMap (splitOn ending.toList ·.toList) ++
          splitOn ending.toList (c :: cs) ++
        ((after.map (Sheet.indented unit)).flatMap (splitOn ending.toList ·.toList) ++ [[]]))) := by
    change splitOn _ _ = _
    rw [splitOn_tidyText hdisjoint, Sheet.splitOn_render hdisjoint (by simp [hfile]), hfile]
    simp [Sheet.indented_zero, hpiece, hheader]
  have hne : trimEnd (mode.dialect.packageLine parts.package).toList ≠ [] := by
    rw [htrim]
    cases mode.dialect <;> simp [Dialect.packageLine]
  rw [hlines, hheader]
  constructor
  · rw [tidyLines, tidyLinesFrom_cons hne, htrim]
    rfl
  · refine tidyLines_within hdisjoint.ne_nil ?_ ?_ (_ :: _) cs _
    · rcases hc with rfl | rfl <;> rcases hending with rfl | rfl <;> simp
    · rcases hc with rfl | rfl <;> rfl

end InterfaceParts.Printed

end TableInterfaces.Source
