import TableInterfaces.Proofs.Text.Pieces
import TableInterfaces.Source.TypeName

/-!
# Written type names

The grammar of the types that a generated file names: a primitive type or a package-qualified name,
an array of such a type, or a name with such a type as its argument (`TypeName.IsWritten`). Main
statement: the text of such a type is read back as the type (`ofText_text`), so the text says all
there is to say about it.
-/

namespace TableInterfaces.Source.TypeName

open TableInterfaces.Text

/-! ## The grammar -/

/-- The names of the grammar: a primitive type, which is one word with a small letter in front, and
a simple name with a capital in front behind at least one package segment. -/
inductive IsName : TypeName → Prop where
  | primitive {word : List Char} (hw : isPackageSegment word = true) : IsName (.plain word)
  | qualified {package : List (List Char)} {simple : List Char} (hne : package ≠ [])
      (hp : ∀ s ∈ package, isPackageSegment s = true) (hs : isSimpleName simple = true) :
      IsName (.qualified (joinDots package) simple (joinDots (package ++ [simple])))

/-- The types of the grammar: a name, an array `T[]`, or a name with an argument `q[T]`. -/
inductive IsWritten : TypeName → Prop where
  | name {t : TypeName} (h : IsName t) : IsWritten t
  | array {element : TypeName} (h : IsWritten element) : IsWritten (.array element)
  | applied {outer argument : TypeName} (ho : IsName outer) (ha : IsWritten argument) :
      IsWritten (.applied outer argument)

/-! ## Characters of a written type -/

/-- Letters are word characters. -/
theorem isWordChar_of_letter {c : Char} (h : c.isUpper = true ∨ c.isLower = true) :
    isWordChar c = true := by
  have halpha : c.isAlpha = true := by
    show (c.isUpper || c.isLower) = true
    simpa using h
  have halphanum : c.isAlphanum = true := by
    show (c.isAlpha || c.isDigit) = true
    simp [halpha]
  simp [isWordChar, halphanum]

/-- A package segment consists of word characters. -/
theorem isPackageSegment_chars {cs : List Char} (h : isPackageSegment cs = true) :
    cs ≠ [] ∧ ∀ c ∈ cs, isWordChar c = true := by
  cases cs with
  | nil => exact absurd h (by simp [isPackageSegment])
  | cons c rest =>
    simp only [isPackageSegment, Bool.and_eq_true, List.all_eq_true] at h
    refine ⟨by simp, fun d hd => ?_⟩
    rcases List.mem_cons.1 hd with rfl | hd
    · rcases Bool.or_eq_true _ _ ▸ h.1 with hl | hu
      · exact isWordChar_of_letter (.inr hl)
      · simp [isWordChar, hu]
    · exact h.2 d hd

/-- A simple name consists of word characters. -/
theorem isSimpleName_chars {cs : List Char} (h : isSimpleName cs = true) :
    cs ≠ [] ∧ ∀ c ∈ cs, isWordChar c = true := by
  cases cs with
  | nil => exact absurd h (by simp [isSimpleName])
  | cons c rest =>
    simp only [isSimpleName, Bool.and_eq_true, List.all_eq_true] at h
    refine ⟨by simp, fun d hd => ?_⟩
    rcases List.mem_cons.1 hd with rfl | hd
    · exact isWordChar_of_letter (.inl h.1)
    · exact h.2 d hd

/-- A word holds no dot. -/
theorem dot_not_mem {cs : List Char} (h : ∀ c ∈ cs, isWordChar c = true) : '.' ∉ cs :=
  fun hm => absurd (h _ hm) (by decide)

/-- Words joined by dots consist of word characters and dots. -/
theorem isOuterChar_joinDots {words : List (List Char)}
    (h : ∀ w ∈ words, ∀ c ∈ w, isWordChar c = true) :
    ∀ c ∈ joinDots words, isOuterChar c = true := by
  intro c hc
  induction words with
  | nil => exact absurd hc (by simp [joinDots])
  | cons w rest ih =>
    have hw : ∀ d ∈ w, isOuterChar d = true := fun d hd => by
      simp [isOuterChar, h w (by simp) d hd]
    cases rest with
    | nil => exact hw c (by simpa [joinDots] using hc)
    | cons v rest =>
      have hc' : c ∈ w ∨ c = '.' ∨ c ∈ joinDots (v :: rest) := by
        simpa [joinDots, List.intercalate_cons_cons] using hc
      rcases hc' with hc' | rfl | hc'
      · exact hw c hc'
      · decide
      · exact ih (fun u hu => h u (List.mem_cons_of_mem _ hu)) hc'

/-- Words joined by dots are no empty text, if the last one is none. -/
theorem joinDots_append_ne_nil (words : List (List Char)) {word : List Char} (h : word ≠ []) :
    joinDots (words ++ [word]) ≠ [] := by
  cases words with
  | nil => simpa [joinDots] using h
  | cons w rest =>
    cases hr : rest ++ [word] with
    | nil => simp at hr
    | cons v more => simp [joinDots, hr, List.intercalate_cons_cons]

/-- The text of a name is a row of word characters and dots. -/
theorem IsName.text_chars {t : TypeName} (h : IsName t) :
    t.text ≠ [] ∧ ∀ c ∈ t.text, isOuterChar c = true := by
  cases h with
  | primitive hw =>
    obtain ⟨hne, hall⟩ := isPackageSegment_chars hw
    exact ⟨hne, fun c hc => by simp [isOuterChar, hall c hc]⟩
  | qualified _ hp hs =>
    refine ⟨joinDots_append_ne_nil _ (isSimpleName_chars hs).1, isOuterChar_joinDots ?_⟩
    intro w hw
    rcases List.mem_append.1 hw with hw | hw
    · exact (isPackageSegment_chars (hp w hw)).2
    · obtain rfl := List.mem_singleton.1 hw
      exact (isSimpleName_chars hs).2

/-- A written type is a text on one line that does not end in an opening bracket. -/
theorem IsWritten.text_chars {t : TypeName} (h : IsWritten t) :
    '\n' ∉ t.text ∧ ∃ front last, t.text = front ++ [last] ∧ last ≠ '[' := by
  induction h with
  | name h =>
    obtain ⟨hne, hall⟩ := h.text_chars
    refine ⟨fun hm => absurd (hall _ hm) (by decide), _, _, (List.dropLast_concat_getLast hne).symm,
      fun he => absurd (hall _ (List.getLast_mem hne)) (by rw [he]; decide)⟩
  | @array element _ ih =>
    refine ⟨?_, element.text ++ ['['], ']', by simp [text], by decide⟩
    simpa [text] using ih.1
  | @applied outer argument ho _ ih =>
    refine ⟨?_, outer.text ++ '[' :: argument.text, ']', by simp [text], by decide⟩
    have hno : '\n' ∉ outer.text := fun hm => absurd (ho.text_chars.2 _ hm) (by decide)
    simpa [text] using ⟨hno, ih.1⟩

/-! ## Reading -/

/-- Arrays are the texts with a pair of brackets at their end. -/
theorem elementOf?_eq_some_iff {cs element : List Char} :
    elementOf? cs = some element ↔ cs = element ++ ['[', ']'] := by
  constructor
  · intro h
    unfold elementOf? at h
    split at h
    · rename_i rest hr
      cases h
      rw [← cs.reverse_reverse, hr]
      simp
    · cases h
  · rintro rfl
    simp [elementOf?]

/-- A text without a closing bracket is no array. -/
theorem elementOf?_eq_none {cs : List Char} (h : ']' ∉ cs) : elementOf? cs = none := by
  cases he : elementOf? cs with
  | none => rfl
  | some element => exact absurd (by simp [elementOf?_eq_some_iff.1 he]) h

/-- A bracket that ends a text has the text before it as its content. -/
theorem bracketContent_append (cs : List Char) : bracketContent (cs ++ [']']) = cs := by
  simp [bracketContent]

/-- An applied type is split into its outer name and its argument. -/
theorem splitApplied?_append {outer inner : List Char} (hne : outer ≠ [])
    (hall : ∀ c ∈ outer, isOuterChar c = true) (hi : inner ≠ []) (hn : '\n' ∉ inner) :
    splitApplied? (outer ++ '[' :: (inner ++ [']'])) = some (outer, inner) := by
  have hopen : isOuterChar '[' = false := by decide
  have ht : (outer ++ '[' :: (inner ++ [']'])).takeWhile isOuterChar = outer := by
    rw [List.takeWhile_append_of_pos hall, List.takeWhile_cons_of_neg (by simp [hopen]),
      List.append_nil]
  have hd : (outer ++ '[' :: (inner ++ [']'])).dropWhile isOuterChar = '[' :: (inner ++ [']']) := by
    rw [List.dropWhile_append_of_pos hall, List.dropWhile_cons_of_neg (by simp [hopen])]
  have hb : beforeFinalBracket? (inner ++ [']']) = some inner := by
    simp [beforeFinalBracket?, bracketContent_append, hi, hn]
  simp only [splitApplied?, ht, hd, hb, List.isEmpty_eq_false_iff.2 hne, Bool.false_eq_true,
    if_false, Option.map_some]

/-- A row of word characters and dots has no argument. -/
theorem splitApplied?_eq_none {cs : List Char} (h : ∀ c ∈ cs, isOuterChar c = true) :
    splitApplied? cs = none := by
  have hd : cs.dropWhile isOuterChar = [] := by
    rw [← List.append_nil cs, List.dropWhile_append_of_pos h, List.dropWhile_nil]
  simp only [splitApplied?, hd]

/-- A text without line feeds keeps its end. -/
theorem dropFinalNewline_eq {cs : List Char} (h : '\n' ∉ cs) : dropFinalNewline cs = cs := by
  unfold dropFinalNewline
  split
  · rename_i hl
    exact absurd (List.mem_of_getLast? (by simpa using hl)) h
  · rfl

/-- A qualified name is split before its last dot. -/
theorem splitQualified?_joinDots {package : List (List Char)} {simple : List Char}
    (hne : package ≠ []) (hp : ∀ s ∈ package, isPackageSegment s = true)
    (hs : isSimpleName simple = true) :
    splitQualified? (joinDots (package ++ [simple])) = some (joinDots package, simple) := by
  have hwords : ∀ w ∈ package ++ [simple], ∀ c ∈ w, isWordChar c = true := by
    intro w hw
    rcases List.mem_append.1 hw with hw | hw
    · exact (isPackageSegment_chars (hp w hw)).2
    · obtain rfl := List.mem_singleton.1 hw
      exact (isSimpleName_chars hs).2
  have hline : dropFinalNewline (joinDots (package ++ [simple])) = joinDots (package ++ [simple]) :=
    dropFinalNewline_eq fun hm => absurd (isOuterChar_joinDots hwords _ hm) (by decide)
  have hpieces : splitOn ['.'] (joinDots (package ++ [simple])) = package ++ [simple] :=
    splitOn_joined (fun w hw => dot_not_mem (hwords w hw)) (by simp)
  obtain ⟨front, last, hl⟩ := (List.eq_nil_or_concat package).resolve_left hne
  rw [List.concat_eq_append] at hl
  have hr : (package ++ [simple]).reverse = simple :: last :: front.reverse := by simp [hl]
  have hb : (last :: front.reverse).reverse = package := by simp [hl]
  simp only [splitQualified?, hline, hpieces, hr, hb, hs, List.all_eq_true.2 hp, Bool.and_self,
    if_true]

/-- A word without dots is not qualified. -/
theorem splitQualified?_word {cs : List Char} (h : ∀ c ∈ cs, isWordChar c = true) :
    splitQualified? cs = none := by
  have hline : dropFinalNewline cs = cs :=
    dropFinalNewline_eq fun hm => absurd (h _ hm) (by decide)
  have hpieces : splitOn ['.'] (List.intercalate ['.'] [cs]) = [cs] :=
    splitOn_joined (by simpa using dot_not_mem h) (by simp)
  rw [List.intercalate_singleton] at hpieces
  simp [splitQualified?, hline, hpieces]

/-- A text without brackets is read as a name. -/
theorem ofText_outer {cs : List Char} (h : ∀ c ∈ cs, isOuterChar c = true) :
    ofText cs = ofSimpleText cs := by
  have he : elementOf? cs = none := elementOf?_eq_none fun hm => absurd (h _ hm) (by decide)
  rw [ofText]
  split
  · rename_i hs
    rw [he] at hs
    cases hs
  · split
    · rename_i hs
      rw [splitApplied?_eq_none h] at hs
      cases hs
    · rfl

/-- The text of a name is read as the name. -/
theorem ofText_name {t : TypeName} (h : IsName t) : ofText t.text = t := by
  rw [ofText_outer h.text_chars.2]
  cases h with
  | primitive hw => simp [ofSimpleText, text, splitQualified?_word (isPackageSegment_chars hw).2]
  | qualified hne hp hs => simp [ofSimpleText, text, splitQualified?_joinDots hne hp hs]

/-- **Reading undoes writing.** The text of a type of the grammar is read as that type. -/
theorem ofText_text {t : TypeName} (h : IsWritten t) : ofText t.text = t := by
  induction h with
  | name h => exact ofText_name h
  | @array element _ ih =>
    have he : elementOf? (text (.array element)) = some element.text := elementOf?_eq_some_iff.2 rfl
    rw [ofText]
    split
    · rename_i cs hs
      rw [he] at hs
      cases hs
      rw [ih]
    · rename_i hs
      rw [he] at hs
      cases hs
  | @applied outer argument ho ha ih =>
    obtain ⟨hn, front, last, hl, hne⟩ := ha.text_chars
    -- the character in front of the last bracket is the last one of the argument
    have he : elementOf? (text (.applied outer argument)) = none := by
      cases hs : elementOf? (text (.applied outer argument)) with
      | none => rfl
      | some element =>
        have hends : (outer.text ++ '[' :: front) ++ [last, ']'] = element ++ ['[', ']'] := by
          rw [← elementOf?_eq_some_iff.1 hs]
          simp [text, hl]
        exact absurd (List.cons.inj (List.append_inj' hends rfl).2).1 hne
    have hs : splitApplied? (text (.applied outer argument)) =
        some (outer.text, argument.text) := by
      have hne : argument.text ≠ [] := by simp [hl]
      simpa [text] using splitApplied?_append ho.text_chars.1 ho.text_chars.2 hne hn
    rw [ofText]
    split
    · rename_i hs'
      rw [he] at hs'
      cases hs'
    · split
      · rename_i hs'
        rw [hs] at hs'
        cases hs'
        rw [ofText_name ho, ih]
      · rename_i hs'
        rw [hs] at hs'
        cases hs'

/-- Types of the grammar are told apart by their texts. -/
theorem IsWritten.text_injective {t u : TypeName} (ht : IsWritten t) (hu : IsWritten u)
    (h : t.text = u.text) : t = u := by
  rw [← ofText_text ht, h, ofText_text hu]

end TableInterfaces.Source.TypeName
