import TableInterfaces.Comment.Template
import TableInterfaces.Entity.Basic

/-!
# Doc comments

The comments of a generated file: a block comment for each declaration, wrapped to a width, and a
banner in front of the copy methods. A policy may switch all of them off.
-/

namespace TableInterfaces.Comment

open TableInterfaces.Json
open TableInterfaces.Text

/-- The width of the rules of a banner. -/
def bannerWidth : Int := 73

/-- How comments are written. -/
structure DocPolicy where
  templates : Templates := .standard
  width : Value := .int 80
  enabled : Bool := true

/-- A comment of a document without the white space at its ends, if it says anything. -/
def spoken? (comment : Value) : Result (Option String) :=
  match comment with
  | .text s =>
    let text := trimmed s
    .ok (if text == "" then none else some text)
  | _ => misuse (.lacksOperation comment.kind "strip")

/-- The lines of a text. -/
def linesOf (s : String) : List String :=
  splitAtChar '\n' s

namespace DocPolicy

/-- The doc comment with a text. -/
def format (policy : DocPolicy) (text : String) : Result (List String) := do
  if policy.enabled then
    let rendered ← policy.templates.render "doc_comment"
      [("text", .text text), ("width", policy.width)]
    return linesOf rendered
  else return []

/-- The banner with a title. -/
def banner (policy : DocPolicy) (title : String) : Result (List String) := do
  if policy.enabled then
    let rendered ← policy.templates.render "section"
      [("title", .text title), ("width", .int bannerWidth)]
    return linesOf rendered
  else return []

/-- The sentence about an entity without a comment. -/
def entitySentence (e : Entity) : String :=
  "The " ++ (if e.isTable then "table" else "UDT") ++ " <code>" ++ e.title ++ "</code>."

/-- The doc comment of an entity: its own comment, or a sentence that names it. -/
def entityDoc (policy : DocPolicy) (e : Entity) : Result (List String) := do
  let comment ← if e.comment.truthy then spoken? e.comment else pure none
  policy.format (comment.getD (entitySentence e))

end DocPolicy

/-- A summary with a member's comment behind it, if the comment says anything. -/
def describe (summary : String) (comment : Value) : Result String :=
  match comment with
  | .null => .ok summary
  | _ => do
    match ← spoken? comment with
    | some text => return summary ++ " " ++ text
    | none => return summary

end TableInterfaces.Comment
