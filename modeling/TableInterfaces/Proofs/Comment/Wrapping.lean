import TableInterfaces.Proofs.Comment.Reading
import TableInterfaces.Proofs.Text.Wrapping

/-!
# Wrapped comments

The doc comment with a text shows all of the text but its white space, on lines between two marks.
A line is wider than the width only if it cannot be broken at a space or a tab. Main statement:

* `DocPolicy.format_wrapped`: the lines of a doc comment.
-/

namespace TableInterfaces.Comment

open TableInterfaces.Text

/-- A wrapped text keeps what is no white space. -/
theorem inked_wrapText (width : Nat) (cs : List Char) :
    (wrapText width cs).flatMap inked = inked cs := by
  have hline : ∀ line, inked (List.intercalate ['\n'] (Wrap.wrapLine width line)) = inked line :=
    fun line => (inked_intercalate _).trans (Wrap.inked_wrapLine width line)
  rw [wrapText, inked_splitLines, inked_intercalate, List.flatMap_map, ← inked_splitLines cs]
  exact List.flatMap_congr fun line _ => hline line

/-- The lines of a wrapped text are narrow. -/
theorem wrapText_narrow (width : Nat) (cs : List Char) :
    ∀ l ∈ wrapText width cs, Wrap.IsNarrow width l := by
  have hnil : Wrap.IsNarrow width [] := .inl (Nat.zero_le width)
  refine forall_splitLines_intercalate hnil (List.forall_mem_map.2 fun line _ => ?_)
  refine forall_splitLines_intercalate hnil fun wrapped hwrapped l hl => ?_
  exact (Wrap.wrapLine_narrow width line wrapped hwrapped).sublist (splitLinesFrom_sublist hl)

/-- A line of a comment is a mark, alone or with a space and a text behind it. -/
theorem commentLine_toList (line : List Char) :
    (commentLine line).toList = ' ' :: '*' :: if line.isEmpty then [] else ' ' :: line := by
  unfold commentLine
  split
  · rfl
  · rw [String.toList_append, String.toList_ofList, String.toList_ofList]
    rfl

/-- A break is no part of an end mark. -/
theorem end_keptApart : KeptApart fun cs => ¬ ['*', '/'] <:+: cs where
  nil := by simp
  at_break u c v hc := by
    have hstar : c ≠ '*' := by
      rintro rfl
      cases hc
    have hslash : c ≠ '/' := by
      rintro rfl
      cases hc
    rw [pair_infix_apart hstar hslash, not_or]

/-- No line of a comment has an end mark if its text has none. -/
theorem commentLine_no_end {line : List Char} (h : ¬ ['*', '/'] <:+: line) :
    ¬ ['*', '/'] <:+: (commentLine line).toList := by
  rw [commentLine_toList]
  split
  · decide
  · simpa [pair_infix_cons] using h

/-- A line of a comment starts with the mark, and has no boundary if its text has none. -/
theorem commentLine_unbroken {line : List Char} (h : ∀ c ∈ line, isLineBreak c = false) :
    " *".toList <+: (commentLine line).toList ∧
      ∀ c ∈ (commentLine line).toList, isLineBreak c = false := by
  rw [commentLine_toList]
  refine ⟨List.prefix_append [' ', '*'] _, List.forall_mem_cons.2 ⟨rfl, List.forall_mem_cons.2
    ⟨rfl, ?_⟩⟩⟩
  split
  · exact fun c hc => by cases hc
  · exact List.forall_mem_cons.2 ⟨rfl, h⟩

/-- Behind the mark a line of a comment keeps what is no white space. -/
theorem inked_commentLine (line : List Char) :
    inked ((commentLine line).toList.drop 2) = inked line := by
  rw [commentLine_toList, List.drop_succ_cons, List.drop_succ_cons, List.drop_zero]
  split
  · rename_i hempty
    rw [List.isEmpty_iff.1 hempty]
  · exact inked_cons_blank rfl line

/-- Behind the mark and a space stands the line of the text. -/
theorem commentLine_content {line : List Char} {content : String}
    (h : commentLine line = " * " ++ content) : line = content.toList := by
  have hlists : ' ' :: '*' :: (if line.isEmpty then [] else ' ' :: line) =
      ' ' :: '*' :: ' ' :: content.toList := by
    rw [← commentLine_toList, h, String.toList_append]
    rfl
  split at hlists
  · cases hlists
  · exact (List.cons.inj (List.cons.inj (List.cons.inj hlists).2).2).2

namespace DocPolicy

/-- **The lines of a doc comment.** With every text and every width above zero, the built-in doc
comment starts with `/**` and ends with ` */`. No line but the last has an end mark. The lines
between start with ` *` and have no line boundary; behind that, they show the text with its end
marks escaped, but for white space. Where one shows more characters than the width, it shows no
space and no tab. -/
theorem format_wrapped {policy : DocPolicy} (htemplates : policy.templates = .standard)
    (hon : policy.enabled = true) {n : Int} (hwidth : policy.width = .int n) (hn : 1 ≤ n)
    (text : String) :
    ∃ inner : List String, policy.format text = .ok ("/**" :: inner ++ [" */"]) ∧
      (∀ line ∈ "/**" :: inner, ¬ "*/".toList <:+: line.toList) ∧
      (∀ line ∈ inner, " *".toList <+: line.toList ∧
        ∀ c ∈ line.toList, isLineBreak c = false) ∧
      inner.flatMap (fun line => inked (line.toList.drop 2)) =
        inked (replaceAll "*/" "*&#47;" text).toList ∧
      ∀ line ∈ inner, ∀ content, line = " * " ++ content → n < content.length →
        ' ' ∉ content.toList ∧ '\t' ∉ content.toList := by
  refine ⟨_, format_eq htemplates hon hwidth hn text, List.forall_mem_cons.2 ⟨by decide, ?_⟩, ?_,
    ?_, ?_⟩
  · refine List.forall_mem_map.2 fun line hline => commentLine_no_end ?_
    exact (wrapText_iff end_keptApart n.toNat _).2 (escapeEnd_no_end text) line hline
  · refine List.forall_mem_map.2 fun line hline => commentLine_unbroken ?_
    exact splitLinesFrom_unbroken (fun c hc => by cases hc) line hline
  · rw [List.flatMap_map, ← escapeEnd, ← inked_wrapText n.toNat]
    exact List.flatMap_congr fun line _ => inked_commentLine line
  · refine List.forall_mem_map.2 fun line hline content hcontent hwide => ?_
    have hnarrow := wrapText_narrow n.toNat (escapeEnd text).toList line hline
    rw [commentLine_content hcontent] at hnarrow
    have hunspaced : ∀ c ∈ content.toList, Wrap.isSpacing c = false := by
      refine hnarrow.resolve_left fun hlength => ?_
      rw [String.length_toList] at hlength
      omega
    exact ⟨fun hc => absurd (hunspaced _ hc) (by decide), fun hc =>
      absurd (hunspaced _ hc) (by decide)⟩

/-- A comment on lines of five characters shows all of a text that would close it. -/
theorem format_wrapped_five : ∃ inner : List String,
    ({ width := .int 5 } : DocPolicy).format "All \tfiles\nin */data" =
      .ok ("/**" :: inner ++ [" */"]) ∧
    inner.flatMap (fun line => inked (line.toList.drop 2)) = "Allfilesin*&#47;data".toList := by
  obtain ⟨inner, hformat, -, -, hinked, -⟩ := format_wrapped
    (show ({ width := .int 5 } : DocPolicy).templates = .standard from rfl) rfl rfl
    (show (1 : Int) ≤ 5 by decide) "All \tfiles\nin */data"
  exact ⟨inner, hformat, hinked.trans (by decide)⟩

end DocPolicy

end TableInterfaces.Comment
