import Mathlib.Data.List.Chain
import Mathlib.Data.List.DropRight
import TableInterfaces.Proofs.Source.Tidy

/-!
# Tidy lines

Tidy lines are a normal form: no line ends in white space, and of two neighbours one is not blank.
Tidying gives tidy lines and leaves tidy lines as they are, so that tidying twice changes nothing
more. Main statements:

* `tidyLines_isTidy` and `tidyLines_of_isTidy`: tidy lines are what tidying gives and keeps.
* `filled_tidyLines`: the lines that are not blank stay, in order.
* `InterfaceParts.Printed.tidied_ends`: a tidied file starts with the word of the package line and
  ends with the closing brace.
-/

namespace TableInterfaces.Source

open TableInterfaces.Text

/-! ## Lines -/

/-- A line of white space only. -/
def isBlankLine (line : List Char) : Bool :=
  line.all isBlank

/-- The lines that are not blank. -/
def filled (lines : List (List Char)) : List (List Char) :=
  lines.filter fun line => !isBlankLine line

/-- Trimming at the end leaves nothing just of blank lines. -/
theorem trimEnd_eq_nil_iff {line : List Char} : trimEnd line = [] ↔ isBlankLine line = true :=
  List.rdropWhile_eq_nil_iff.trans List.all_eq_true.symm

theorem trimEnd_ne_nil {line : List Char} (h : isBlankLine line = false) : trimEnd line ≠ [] :=
  fun hnil => Bool.false_ne_true (h.symm.trans (trimEnd_eq_nil_iff.1 hnil))

/-- Trimming at the end changes nothing just where the last character is no white space. -/
theorem trimEnd_eq_self_iff {line : List Char} :
    trimEnd line = line ↔ ∀ c ∈ line.getLast?, isBlank c = false := by
  refine List.rdropWhile_eq_self_iff.trans ⟨fun h c hc => ?_, fun h hne => ?_⟩
  · obtain ⟨front, rfl⟩ := List.getLast?_eq_some_iff.1 hc
    simpa using h (by simp)
  · exact Bool.eq_false_iff.1 (h _ (List.getLast?_eq_some_getLast hne))

/-- A line is trimmed once. -/
theorem trimEnd_trimEnd (line : List Char) : trimEnd (trimEnd line) = trimEnd line :=
  List.rdropWhile_idempotent isBlank line

/-- A trimmed line is blank just where the line is. -/
theorem isBlankLine_trimEnd (line : List Char) : isBlankLine (trimEnd line) = isBlankLine line := by
  rw [Bool.eq_iff_iff, ← trimEnd_eq_nil_iff, trimEnd_trimEnd, trimEnd_eq_nil_iff]

/-- A start that ends in no white space is not trimmed. -/
theorem prefix_trimEnd {start line : List Char} {c : Char} (h : start ++ [c] <+: line)
    (hc : isBlank c = false) : start ++ [c] <+: trimEnd line := by
  obtain ⟨rest, rfl⟩ := h
  induction rest using List.reverseRecOn with
  | nil =>
    have hkept : trimEnd (start ++ [c] ++ []) = start ++ [c] := by
      rw [List.append_nil, trimEnd, dropEndWhile_concat hc]
    exact ⟨[], by rw [hkept, List.append_nil]⟩
  | append_singleton rest d ih =>
    have hstep : trimEnd (start ++ [c] ++ (rest ++ [d])) =
        if isBlank d then trimEnd (start ++ [c] ++ rest) else start ++ [c] ++ rest ++ [d] := by
      rw [← List.append_assoc]
      exact List.rdropWhile_concat ..
    rw [hstep]
    split
    · exact ih
    · rw [List.append_assoc]
      exact List.prefix_append _ _

/-! ## Tidy lines -/

/-- Of two lines in a row one is not blank. -/
def NoBlankPair (lines : List (List Char)) : Prop :=
  lines.IsChain fun line next => ¬(isBlankLine line = true ∧ isBlankLine next = true)

instance (lines : List (List Char)) : Decidable (NoBlankPair lines) :=
  inferInstanceAs (Decidable (lines.IsChain _))

/-- No line ends in white space, and no two blank lines follow each other. -/
structure IsTidy (lines : List (List Char)) : Prop where
  trimmed : ∀ line ∈ lines, ∀ c ∈ line.getLast?, isBlank c = false
  parted : NoBlankPair lines

/-- Behind a blank line the next one is not blank. -/
def Follows (afterBlank : Bool) (lines : List (List Char)) : Prop :=
  afterBlank = true → ∀ line ∈ lines.head?, isBlankLine line = false

/-- All lines may follow a line that is not blank. -/
theorem follows_false (lines : List (List Char)) : Follows false lines :=
  fun h => absurd h Bool.false_ne_true

theorem isTidy_nil : IsTidy [] :=
  ⟨fun _ h => absurd h List.not_mem_nil, .nil⟩

/-- Lines are tidy behind a line that is tidy itself and may stand in front of them. -/
theorem isTidy_cons {line : List Char} {rest : List (List Char)} :
    IsTidy (line :: rest) ↔
      trimEnd line = line ∧ Follows (isBlankLine line) rest ∧ IsTidy rest := by
  have hchain : NoBlankPair (line :: rest) ↔ Follows (isBlankLine line) rest ∧ NoBlankPair rest := by
    simp only [NoBlankPair, Follows, List.isChain_cons, not_and, Bool.not_eq_true]
    exact and_congr_left fun _ => ⟨fun h hb l hl => h l hl hb, fun h l hl hb => h hb l hl⟩
  constructor
  · rintro ⟨htrimmed, hparted⟩
    obtain ⟨hfirst, hrest⟩ := List.forall_mem_cons.1 htrimmed
    obtain ⟨hfollows, hlater⟩ := hchain.1 hparted
    exact ⟨trimEnd_eq_self_iff.2 hfirst, hfollows, hrest, hlater⟩
  · rintro ⟨hfirst, hfollows, hrest, hlater⟩
    exact ⟨List.forall_mem_cons.2 ⟨trimEnd_eq_self_iff.1 hfirst, hrest⟩,
      hchain.2 ⟨hfollows, hlater⟩⟩

/-- Tidying gives tidy lines that may follow the line before them. -/
theorem tidyLinesFrom_isTidy (afterBlank : Bool) (lines : List (List Char)) :
    IsTidy (tidyLinesFrom afterBlank lines) ∧ Follows afterBlank (tidyLinesFrom afterBlank lines) := by
  induction lines generalizing afterBlank with
  | nil => exact ⟨isTidy_nil, fun _ line h => by cases h⟩
  | cons line rest ih =>
    rw [tidyLinesFrom]
    split
    · obtain ⟨htidy, hfollows⟩ := ih true
      split
      · exact ⟨htidy, fun _ => hfollows rfl⟩
      · rename_i hno
        exact ⟨isTidy_cons.2 ⟨rfl, fun _ => hfollows rfl, htidy⟩, fun h => absurd h hno⟩
    · rename_i hfilled
      have hblank : isBlankLine (trimEnd line) = false := by
        rw [isBlankLine_trimEnd, ← Bool.not_eq_true, ← trimEnd_eq_nil_iff]
        exact hfilled
      refine ⟨isTidy_cons.2 ⟨trimEnd_trimEnd line, ?_, (ih false).1⟩, fun _ => ?_⟩
      · rw [hblank]
        exact follows_false _
      · rintro _ ⟨⟩
        exact hblank

/-- **What tidying gives** is tidy. -/
theorem tidyLines_isTidy (lines : List (List Char)) : IsTidy (tidyLines lines) :=
  (tidyLinesFrom_isTidy false lines).1

/-- Tidy lines that may follow the line before them stay as they are. -/
theorem tidyLinesFrom_of_isTidy {afterBlank : Bool} {lines : List (List Char)} (h : IsTidy lines)
    (hfollows : Follows afterBlank lines) : tidyLinesFrom afterBlank lines = lines := by
  induction lines generalizing afterBlank with
  | nil => rfl
  | cons line rest ih =>
    obtain ⟨htrim, hnext, hrest⟩ := isTidy_cons.1 h
    cases hblank : isBlankLine line with
    | true =>
      have hline : line = [] := by rw [← htrim, trimEnd_eq_nil_iff, hblank]
      have hafter : afterBlank = false := by
        refine Bool.eq_false_iff.2 fun hafter => ?_
        exact absurd (hfollows hafter line rfl) (by simp [hblank])
      subst hline hafter
      exact congrArg _ (ih hrest hnext)
    | false =>
      rw [tidyLinesFrom_cons (trimEnd_ne_nil hblank), htrim, ih hrest (follows_false rest)]

/-- **What tidying keeps**: tidy lines are left as they are. -/
theorem tidyLines_of_isTidy {lines : List (List Char)} (h : IsTidy lines) :
    tidyLines lines = lines :=
  tidyLinesFrom_of_isTidy h (follows_false lines)

/-- The lines that are not blank stay, without white space at their ends. -/
theorem filled_tidyLinesFrom (afterBlank : Bool) (lines : List (List Char)) :
    filled (tidyLinesFrom afterBlank lines) = (filled lines).map trimEnd := by
  induction lines generalizing afterBlank with
  | nil => rfl
  | cons line rest ih =>
    cases hblank : isBlankLine line with
    | true =>
      have hskip : filled (line :: rest) = filled rest := by simp [filled, hblank]
      rw [hskip, tidyLinesFrom, trimEnd_eq_nil_iff.2 hblank, ← ih true]
      cases afterBlank <;> rfl
    | false =>
      have hkeep : filled (line :: rest) = line :: filled rest := by simp [filled, hblank]
      rw [hkeep, tidyLinesFrom_cons (trimEnd_ne_nil hblank), List.map_cons, ← ih false]
      simp [filled, isBlankLine_trimEnd, hblank]

theorem filled_tidyLines (lines : List (List Char)) :
    filled (tidyLines lines) = (filled lines).map trimEnd :=
  filled_tidyLinesFrom false lines

/-! ## Tidy texts -/

/-- The lines of a text under a line ending. -/
def linesUnder (ending text : String) : List (List Char) :=
  splitOn ending.toList text.toList

/-- Tidying a tidied text changes nothing. -/
theorem tidyText_tidyText {ending : List Char} (h : SelfDisjoint ending) (code : List Char) :
    tidyText ending (tidyText ending code) = tidyText ending code := by
  conv_lhs => rw [tidyText, splitOn_tidyText h, tidyLines_of_isTidy (tidyLines_isTidy _)]
  rfl

/-! ## The ends of a tidied file -/

/-- Joined lines start with the first line. -/
theorem prefix_intercalate (sep line : List Char) (rest : List (List Char)) :
    line <+: List.intercalate sep (line :: rest) := by
  cases rest with
  | nil => exact ⟨[], by rw [List.intercalate_singleton, List.append_nil]⟩
  | cons next rest =>
    rw [List.intercalate_cons_cons, List.append_assoc]
    exact List.prefix_append _ _

/-- Joined lines with an empty one at their end end with the line in front of it and the separator.
-/
theorem suffix_intercalate (sep : List Char) (lines : List (List Char)) (line : List Char) :
    line ++ sep <:+ List.intercalate sep (lines ++ [line, []]) := by
  induction lines with
  | nil => simp
  | cons first rest ih =>
    obtain ⟨next, later, hlater⟩ : ∃ next later, rest ++ [line, []] = next :: later :=
      List.exists_cons_of_ne_nil (by simp)
    rw [hlater] at ih
    rw [List.cons_append, hlater, List.intercalate_cons_cons]
    exact ih.trans (List.suffix_append _ _)

/-- A closing brace in front of the end of a text stays there. -/
theorem tidyLines_closed (lines : List (List Char)) :
    ∃ tidy, tidyLines (lines ++ [closeBrace.toList, []]) = tidy ++ [closeBrace.toList, []] := by
  refine ⟨tidyLines lines, ?_⟩
  rw [tidyLines, tidyLinesFrom_append]
  rfl

/-- The word with which the package line starts. -/
def packageWord : String := "package"

/-- The package line of a dialect starts with its word. -/
theorem packageLine_toList (dialect : Dialect) (package : String) :
    ∃ rest, (dialect.packageLine package).toList = packageWord.toList ++ rest := by
  cases dialect <;> simp [Dialect.packageLine, packageWord]

namespace InterfaceParts.Printed

variable {parts : InterfaceParts} {mode : Mode} {sheet : Sheet} {ending : String}

/-- A sheet ends with the closing brace. -/
theorem lines_closed (h : parts.Printed mode sheet) : ∃ between,
    sheet.lines = ⟨0, mode.dialect.packageLine parts.package⟩ :: (between ++ [⟨0, closeBrace⟩]) := by
  obtain ⟨front, hbottom⟩ : ∃ front, parts.bottomLines mode = front ++ [⟨0, closeBrace⟩] := ⟨_, rfl⟩
  refine ⟨⟨0, ""⟩ :: ((parts.head.draft mode.dialect parts.interface ++
    .ofLines (builderLines parts.builder) ++
    membersDraft mode.dialect (mode.returnType parts.interface) parts.members).lines
      sheet.scope.print ++ front), ?_⟩
  rw [h.lines_eq]
  simp [draft, top, body, hbottom, Draft.ofLines]

/-- **How a file starts and ends.** A tidied file starts with the word of the package line, ends
with the closing brace in its last line, and has tidy lines. -/
theorem tidied_ends (h : parts.Printed mode sheet) (hending : ending = "\n" ∨ ending = "\r\n")
    (unit : String) :
    let text := tidyText ending.toList (sheet.render unit ending).toList
    packageWord.toList <+: text ∧ (closeBrace ++ ending).toList <:+ text ∧
      IsTidy (splitOn ending.toList text) := by
  intro text
  have hdisjoint := selfDisjoint_of_ending hending
  obtain ⟨between, hsheet⟩ := h.lines_closed
  obtain ⟨imports, hfile⟩ := Sheet.fileLines_opened hsheet
    (isPackageLine_packageLine mode.dialect parts.package) unit
  obtain ⟨rest, hpackage⟩ := packageLine_toList mode.dialect parts.package
  have hapart : ∀ c ∈ packageWord.toList, c ∉ ending.toList := by
    rcases hending with rfl | rfl <;> simp [packageWord]
  obtain ⟨tail, more, hpieces⟩ := splitOn_append hdisjoint.ne_nil hapart rest
  have hclose : splitOn ending.toList closeBrace.toList = [closeBrace.toList] := by
    rcases hending with rfl | rfl <;> rfl
  obtain ⟨lines, hlines⟩ : ∃ lines, splitOn ending.toList (sheet.render unit ending).toList =
      (packageWord.toList ++ tail) :: (lines ++ [closeBrace.toList, []]) := by
    refine ⟨more ++ (imports ++ between.map (Sheet.indented unit)).flatMap
      (splitOn ending.toList ·.toList), ?_⟩
    rw [Sheet.splitOn_render hdisjoint (by simp [hfile]), hfile]
    simp [Sheet.indented_zero, hpackage, hpieces, hclose]
  have htext : text = List.intercalate ending.toList
      (tidyLines ((packageWord.toList ++ tail) :: (lines ++ [closeBrace.toList, []]))) := by
    rw [← hlines]
    rfl
  refine ⟨?_, ?_, ?_⟩
  · have hstart : "packag".toList ++ ['e'] <+: packageWord.toList ++ tail :=
      List.prefix_append packageWord.toList tail
    have hword : packageWord.toList <+: trimEnd (packageWord.toList ++ tail) :=
      prefix_trimEnd hstart rfl
    have hne : trimEnd (packageWord.toList ++ tail) ≠ [] := fun hnil => by
      rw [hnil] at hword
      cases List.prefix_nil.1 hword
    rw [htext, tidyLines, tidyLinesFrom_cons hne]
    exact hword.trans (prefix_intercalate ..)
  · obtain ⟨tidy, htidy⟩ := tidyLines_closed ((packageWord.toList ++ tail) :: lines)
    rw [htext, ← List.cons_append, htidy, String.toList_append]
    exact suffix_intercalate ..
  · rw [splitOn_tidyText hdisjoint]
    exact tidyLines_isTidy _

end InterfaceParts.Printed

end TableInterfaces.Source
