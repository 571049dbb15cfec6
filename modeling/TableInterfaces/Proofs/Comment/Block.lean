import TableInterfaces.Proofs.Comment.Doc
import TableInterfaces.Proofs.Text.Breaks

/-!
# The lines of comments

A doc comment with a width above zero is its wrapped text between two marks, and a banner is its
title between two rules. Main statements:

* `wrapText_iff`: what breaks keep apart holds of a text just where it holds of its wrapped lines.
* `DocPolicy.format_eq`: the lines of a doc comment.
* `DocPolicy.format_marked`, `DocPolicy.entityDoc_marked` and `DocPolicy.banner_marked`: every line
  of a comment starts with a mark of comments.
-/

namespace TableInterfaces

namespace Comment

open TableInterfaces.Json
open TableInterfaces.Text

/-! ## Wrapped texts -/

/-- The lines of a text, each wrapped to a width. -/
def wrapText (width : Nat) (cs : List Char) : List (List Char) :=
  splitLines (List.intercalate ['\n'] ((splitLines cs).map fun line =>
    List.intercalate ['\n'] (Wrap.wrapLine width line)))

/-- With a number above zero as width the lines of a text are wrapped to that number. -/
theorem wrappedLines_eq {n : Int} (hn : 0 < n) (text : String) (context : Variables)
    (hwidth : context.lookup "width" = some (.int n)) :
    wrappedLines text context = .ok (wrapText n.toNat text.toList) := by
  have hline : wrappedLine (.int n) =
      fun line => pure (List.intercalate ['\n'] (Wrap.wrapLine n.toNat line)) := by
    funext line
    rw [wrappedLine, lineWidth, if_neg (Int.not_le.2 hn)]
    rfl
  have hrequire : require context "width" = .ok (.int n) := by rw [require, hwidth]
  unfold wrappedLines wrapText
  cases splitLines text.toList with
  | nil => rfl
  | cons line rest =>
    rw [hrequire]
    change (List.mapM (wrappedLine (.int n)) (line :: rest) >>= fun wrapped =>
      pure (splitLines (List.intercalate ['\n'] wrapped))) = _
    rw [hline, List.mapM_pure]
    rfl

/-- What breaks keep apart holds of a text just where it holds of its wrapped lines. -/
theorem wrapText_iff {P : List Char → Prop} (h : KeptApart P) (width : Nat) (cs : List Char) :
    (∀ l ∈ wrapText width cs, P l) ↔ P cs := by
  rw [wrapText, h.splitLines_iff, h.intercalate_iff, List.forall_mem_map, ← h.splitLines_iff cs]
  refine forall_congr' fun line => imp_congr_right fun _ => ?_
  rw [h.intercalate_iff, h.wrapLine_iff]

/-! ## Doc comments -/

/-- The lines of the doc comment with a text. -/
def docLines (width : Nat) (text : String) : List String :=
  "/**" :: (wrapText width (escapeEnd text).toList).map commentLine ++ [" */"]

/-- A line of a wrapped text has no line feed in it, and gets none in a comment. -/
theorem newline_notMem_commentLine {line : List Char} (h : ∀ c ∈ line, isLineBreak c = false) :
    '\n' ∉ (commentLine line).toList := by
  have hline : '\n' ∉ line := fun hc => absurd (h _ hc) (by decide)
  unfold commentLine
  split <;> simp [hline]

/-- The lines of a text that joins lines without line feeds are these lines. -/
theorem linesOf_intercalate {lines : List String} (h : ∀ l ∈ lines, '\n' ∉ l.toList)
    (hne : lines ≠ []) : linesOf (String.intercalate "\n" lines) = lines :=
  splitAtChar_intercalate h hne

/-- The lines of a doc comment are told apart in its text. -/
theorem linesOf_docLines (width : Nat) (text : String) :
    linesOf (String.intercalate "\n" (docLines width text)) = docLines width text := by
  refine linesOf_intercalate (List.forall_mem_append.2 ⟨List.forall_mem_cons.2 ⟨by decide, ?_⟩,
    by decide⟩) (by simp [docLines])
  rw [List.forall_mem_map]
  exact fun line hline => newline_notMem_commentLine
    (splitLinesFrom_unbroken (fun c hc => by cases hc) line hline)

namespace DocPolicy

/-- The built-in doc comment, with a width above zero. -/
theorem format_eq {policy : DocPolicy} (htemplates : policy.templates = .standard)
    (hon : policy.enabled = true) {n : Int} (hwidth : policy.width = .int n) (hn : 0 < n)
    (text : String) : policy.format text = .ok (docLines n.toNat text) := by
  have hlines : docCommentLines [("text", .text text), ("width", .int n)] =
      .ok (docLines n.toNat text) := by
    rw [docCommentLines_eq, wrappedLines_eq hn _ _ rfl]
    rfl
  rw [format, if_pos hon, htemplates, hwidth, render_docComment, hlines]
  exact congrArg Except.ok (linesOf_docLines n.toNat text)

end DocPolicy

/-! ## Marks of comments -/

/-- The marks with which lines of comments start. -/
def commentMarks : List String := ["/**", " *", "//"]

/-- A line starts with a mark of comments. -/
def startsComment (line : String) : Bool :=
  commentMarks.any fun mark => mark.toList.isPrefixOf line.toList

/-- A line behind a mark of comments and a space. -/
theorem startsComment_spaced {mark : String} (h : mark ∈ commentMarks) (line : String) :
    startsComment (mark ++ " " ++ line) = true := by
  refine List.any_eq_true.2 ⟨mark, h, List.isPrefixOf_iff_prefix.2 ?_⟩
  rw [String.toList_append, String.toList_append, List.append_assoc]
  exact List.prefix_append _ _

theorem commentLine_marked (line : List Char) : startsComment (commentLine line) = true := by
  unfold commentLine
  split
  · decide
  · exact startsComment_spaced (show " *" ∈ commentMarks by decide) (String.ofList line)

theorem docLines_marked (width : Nat) (text : String) :
    ∀ l ∈ docLines width text, startsComment l = true := by
  refine List.forall_mem_append.2 ⟨List.forall_mem_cons.2 ⟨by decide, ?_⟩, by decide⟩
  rw [List.forall_mem_map]
  exact fun line _ => commentLine_marked line

namespace DocPolicy

variable {policy : DocPolicy}

/-- Every line of a doc comment starts with a mark of comments. -/
theorem format_marked (h : policy.Writes) {text : String} {lines : List String}
    (hlines : policy.format text = .ok lines) : ∀ l ∈ lines, startsComment l = true := by
  cases hon : policy.enabled with
  | false =>
    rw [format_off hon] at hlines
    cases hlines
    exact fun l hl => by cases hl
  | true =>
    obtain ⟨n, hwidth, hn⟩ := h.width.resolve_left (by simp [hon])
    rw [format_eq h.templates hon hwidth hn] at hlines
    cases hlines
    exact docLines_marked n.toNat text

/-- Every line of the comment on an entity starts with a mark of comments. -/
theorem entityDoc_marked (h : policy.Writes) {e : Entity} {lines : List String}
    (hlines : policy.entityDoc e = .ok lines) : ∀ l ∈ lines, startsComment l = true := by
  unfold entityDoc at hlines
  split at hlines
  · obtain ⟨comment, -, hlines⟩ := Result.ok_of_bind hlines
    exact format_marked h hlines
  · exact format_marked h hlines

end DocPolicy

/-- The rule of the banner. -/
def bannerRule : String :=
  "// " ++ String.ofList (List.replicate bannerWidth.toNat '-')

namespace DocPolicy

variable {policy : DocPolicy}

/-- The built-in banner of a title without line feeds. -/
theorem banner_eq (htemplates : policy.templates = .standard) (hon : policy.enabled = true)
    {title : String} (htitle : '\n' ∉ title.toList) :
    policy.banner title = .ok [bannerRule, "// " ++ title, bannerRule] := by
  have hlines : bannerLines [("title", .text title), ("width", .int bannerWidth)] =
      .ok [bannerRule, "// " ++ title, bannerRule] := rfl
  rw [banner, if_pos hon, htemplates, render_banner, hlines]
  refine congrArg Except.ok (linesOf_intercalate ?_ (List.cons_ne_nil _ _))
  simp [bannerRule, htitle]

/-- Every line of the banner of a title without line feeds starts with a mark of comments. -/
theorem banner_marked (h : policy.Writes) {title : String} (htitle : '\n' ∉ title.toList)
    {lines : List String} (hlines : policy.banner title = .ok lines) :
    ∀ l ∈ lines, startsComment l = true := by
  cases hon : policy.enabled with
  | false =>
    rw [banner_off hon] at hlines
    cases hlines
    exact fun l hl => by cases hl
  | true =>
    rw [banner_eq h.templates hon htitle] at hlines
    cases hlines
    have hmarked : ∀ text : String, startsComment ("// " ++ text) = true := fun text =>
      startsComment_spaced (show "//" ∈ commentMarks by decide) text
    simp [bannerRule, hmarked]

end DocPolicy

end Comment

end TableInterfaces
