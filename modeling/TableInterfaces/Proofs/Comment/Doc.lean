import TableInterfaces.Comment.Doc
import TableInterfaces.Proofs.Entity.Kinds
import TableInterfaces.Proofs.Result
import TableInterfaces.Proofs.Text.Pieces

/-!
# Comments that can be written

Whether a doc comment can be written depends on the width alone and not on its text. Main
statements:

* `DocPolicy.Writes.format` and `DocPolicy.Writes.banner`: with comments switched off or a width
  above zero every comment is written.
* `DocPolicy.entityDoc_error`: with another number as width an interface already fails at the
  comment on its entity.
-/

namespace TableInterfaces.Comment

open TableInterfaces.Json
open TableInterfaces.Text

/-! ## Replacements -/

/-- A text with something in it has something in it after a replacement by something. -/
theorem replaceAll_ne_empty {old new s : String} (hnew : new ≠ "") (hs : s ≠ "") :
    replaceAll old new s ≠ "" := by
  have hnew' : new.toList ≠ [] := by simpa using hnew
  unfold replaceAll
  cases hl : s.toList with
  | nil => exact absurd (by simpa using hl) hs
  | cons c rest =>
    rw [replaceFrom]
    split <;> simp_all

/-! ## Widths -/

/-- A width above zero wraps every line. -/
theorem wrappedLines_succeeds {n : Int} (hn : 0 < n) (text : String) (context : Variables)
    (hwidth : context.lookup "width" = some (.int n)) : Succeeds (wrappedLines text context) := by
  have hline : ∀ line, Succeeds (wrappedLine (.int n) line) := fun line =>
    Succeeds.bind ⟨n.toNat, if_neg (by omega)⟩ fun width _ => .ok _
  have hrequire : require context "width" = .ok (.int n) := by rw [require, hwidth]
  unfold wrappedLines
  split
  · exact .ok []
  · rw [hrequire]
    exact (Succeeds.mapM fun line _ => hline line).bind fun wrapped _ => .ok _

/-- A number that is not above zero wraps no line. -/
theorem wrappedLines_error {n : Int} (hn : n ≤ 0) {text : String} (htext : text ≠ "")
    (context : Variables) (hwidth : context.lookup "width" = some (.int n)) :
    wrappedLines text context = .error (.invalidWidth (.int n)) := by
  have hrequire : require context "width" = .ok (.int n) := by rw [require, hwidth]
  have hlines : splitLines text.toList ≠ [] :=
    splitLinesFrom_ne_nil (.inr (by simpa using htext))
  have hline : ∀ line, wrappedLine (.int n) line = .error (.invalidWidth (.int n)) := fun line => by
    rw [wrappedLine, lineWidth, if_pos hn]
    rfl
  unfold wrappedLines
  split
  · rename_i hnil
    exact absurd hnil hlines
  · rw [hrequire]
    cases hl : splitLines text.toList with
    | nil => exact absurd hl hlines
    | cons line rest =>
      change (List.mapM (wrappedLine (.int n)) (line :: rest) >>= fun wrapped => _) = _
      rw [List.mapM_cons, hline]
      rfl

/-! ## Policies -/

/-- The lines of a doc comment are the wrapped lines of its text between two marks. -/
theorem docCommentLines_eq (text : String) (width : Value) :
    docCommentLines [("text", .text text), ("width", width)] =
      wrappedLines (escapeEnd text) [("text", .text text), ("width", width)] >>= fun lines =>
        .ok ("/**" :: lines.map commentLine ++ [" */"]) := by
  unfold docCommentLines
  have hrequire : require [("text", .text text), ("width", width)] "text" = .ok (.text text) := by
    simp [require]
  rw [hrequire]
  rfl

/-- The built-in doc comment is written by its own lines. -/
theorem render_docComment (text width : Value) :
    Templates.standard.render "doc_comment" [("text", text), ("width", width)] =
      (String.intercalate "\n" <$> docCommentLines [("text", text), ("width", width)]).mapError
        (Fault.template "doc_comment") := rfl

/-- The built-in banner is written by its own lines. -/
theorem render_banner (title width : Value) :
    Templates.standard.render "section" [("title", title), ("width", width)] =
      (String.intercalate "\n" <$> bannerLines [("title", title), ("width", width)]).mapError
        (Fault.template "section") := rfl

namespace DocPolicy

/-- The policy writes no comments, or wraps them to a width above zero. -/
structure Writes (policy : DocPolicy) : Prop where
  templates : policy.templates = .standard
  width : policy.enabled = false ∨ ∃ n : Int, policy.width = .int n ∧ 0 < n

/-- Without comments the doc comment has no lines. -/
theorem format_off {policy : DocPolicy} (h : policy.enabled = false) (text : String) :
    policy.format text = .ok [] := by
  rw [DocPolicy.format, h, if_neg Bool.false_ne_true]
  rfl

/-- Without comments the banner has no lines. -/
theorem banner_off {policy : DocPolicy} (h : policy.enabled = false) (title : String) :
    policy.banner title = .ok [] := by
  rw [DocPolicy.banner, h, if_neg Bool.false_ne_true]
  rfl

/-- Every doc comment can be written. -/
theorem Writes.format {policy : DocPolicy} (h : policy.Writes) (text : String) :
    Succeeds (policy.format text) := by
  unfold DocPolicy.format
  rcases h.width with hoff | ⟨n, hwidth, hn⟩
  · rw [hoff]
    exact .ok []
  · have hlines : Succeeds (docCommentLines [("text", .text text), ("width", .int n)]) := by
      rw [docCommentLines_eq]
      exact (wrappedLines_succeeds hn _ _ rfl).bind fun lines _ => .ok _
    split
    · rw [h.templates, hwidth, render_docComment]
      exact ((hlines.map _).mapError _).bind fun rendered _ => .ok _
    · exact .ok []

/-- Every banner can be written. -/
theorem Writes.banner {policy : DocPolicy} (h : policy.Writes) (title : String) :
    Succeeds (policy.banner title) := by
  have hrule : Succeeds (rule (.int bannerWidth)) := ⟨_, rfl⟩
  have hlines : Succeeds (bannerLines [("title", .text title), ("width", .int bannerWidth)]) :=
    hrule.bind fun rule _ => .ok _
  unfold DocPolicy.banner
  split
  · rw [h.templates, render_banner]
    exact ((hlines.map _).mapError _).bind fun rendered _ => .ok _
  · exact .ok []

/-- A comment that may be missing is read. -/
theorem spoken?_succeeds {comment : Value} (h : comment.kind = .text) :
    Succeeds (spoken? comment) := by
  cases comment with
  | text s => exact .ok _
  | _ => cases h

/-- What a comment says is not empty. -/
theorem spoken?_ne_empty {comment : Value} {text : String}
    (h : spoken? comment = .ok (some text)) : text ≠ "" := by
  unfold spoken? at h
  split at h
  · rename_i s
    dsimp only at h
    split at h
    · cases h
    · rename_i hne
      cases h
      simpa using hne
  · cases h

/-- A number that is not above zero as width: the comment on an entity cannot be written. -/
theorem entityDoc_error {policy : DocPolicy} (htemplates : policy.templates = .standard)
    (hon : policy.enabled = true) {n : Int} (hwidth : policy.width = .int n) (hn : n ≤ 0)
    (e : Entity) : ∃ fault, policy.entityDoc e = .error fault := by
  have hformat : ∀ text : String, text ≠ "" → policy.format text =
      .error (.template "doc_comment" (.invalidWidth (.int n))) := fun text htext => by
    have hescaped : escapeEnd text ≠ "" := replaceAll_ne_empty (by decide) htext
    have hlines : docCommentLines [("text", .text text), ("width", .int n)] =
        .error (.invalidWidth (.int n)) := by
      rw [docCommentLines_eq, wrappedLines_error hn hescaped _ rfl]
      rfl
    rw [DocPolicy.format, if_pos hon, htemplates, hwidth, render_docComment, hlines]
    rfl
  have hsentence : entitySentence e ≠ "" := fun h => by
    have := congrArg String.toList h
    simp [entitySentence] at this
  unfold DocPolicy.entityDoc
  split
  · cases hcomment : spoken? e.comment with
    | error fault => exact ⟨fault, rfl⟩
    | ok comment =>
      cases comment with
      | none => exact ⟨_, hformat _ hsentence⟩
      | some text => exact ⟨_, hformat _ (spoken?_ne_empty hcomment)⟩
  · exact ⟨_, hformat _ hsentence⟩

end DocPolicy

/-- A summary with a comment that is a text or missing behind it. -/
theorem describe_succeeds (summary : String) {comment : Value} (h : IsComment comment) :
    Succeeds (describe summary comment) := by
  rcases h with h | h
  · cases comment with
    | null => exact .ok _
    | _ => cases h
  · cases comment with
    | text s =>
      unfold describe
      refine (DocPolicy.spoken?_succeeds h).bind fun text _ => ?_
      cases text <;> exact .ok _
    | _ => cases h

/-- Whether a comment can stand behind a summary does not depend on the summary. -/
theorem describe_other {summary : String} {comment : Value}
    (h : Succeeds (describe summary comment))
    (other : String) : Succeeds (describe other comment) := by
  obtain ⟨text, htext⟩ := h
  cases comment with
  | null => exact .ok other
  | _ =>
    obtain ⟨spoken, hspoken, -⟩ := Result.ok_of_bind (htext : (spoken? _ >>= _) = _)
    change Succeeds (spoken? _ >>= _)
    rw [hspoken]
    cases spoken <;> exact .ok _

/-- The comment on an entity can be written where every doc comment can. -/
theorem DocPolicy.Writes.entityDoc {policy : DocPolicy} (h : policy.Writes) {e : Entity}
    (he : IsComment e.comment) : Succeeds (policy.entityDoc e) := by
  unfold DocPolicy.entityDoc
  split
  · rename_i htruthy
    rcases he with hnull | htext
    · cases hv : e.comment with
      | null => rw [hv] at htruthy; cases htruthy
      | _ => rw [hv] at hnull; cases hnull
    · exact (spoken?_succeeds htext).bind fun comment _ => h.format _
  · exact h.format _

end TableInterfaces.Comment
