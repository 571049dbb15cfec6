import TableInterfaces.Text.Blank
import TableInterfaces.Text.WordChar

/-!
# Wrapping a paragraph

A line of text is cut into chunks, and chunks are packed greedily into lines of a given width.

A chunk is a row of spacing characters, a word, the front part of a hyphenated word with its hyphen,
or a dash of two or more hyphens between two words. A chunk longer than the width has a line of its
own. A chunk of white space is dropped at the end of a line and at the start of every line but the
first, so the indentation of the text stays.
-/

namespace TableInterfaces.Text.Wrap

/-- Spacing characters at which words end: the ASCII white space. -/
def isSpacing (c : Char) : Bool :=
  c == ' ' || (0x09 ≤ c.toNat && c.toNat ≤ 0x0D)

/-- Characters after which a dash may follow without a space. -/
def isWordEnd (c : Char) : Bool :=
  isWordChar c || c == '!' || c.toNat == 0x22 || c.toNat == 0x27 || c == '&' || c == '.' ||
    c == ',' || c == '?'

/-- A dash: two or more hyphens before a word character. Gives its length. -/
def dashLength? (cs : List Char) : Option Nat :=
  let hyphens := (cs.takeWhile (· == '-')).length
  if 2 ≤ hyphens then
    match cs.drop hyphens with
    | c :: _ => if isWordChar c then some hyphens else none
    | [] => none
  else none

/-- The last character read, when `before` holds what was read, last first, ends a word. -/
def endsInWord (before : List Char) : Bool :=
  match before with
  | c :: _ => isWordEnd c
  | [] => false

/-- Before a hyphen stand two letters, or a letter between this hyphen and another one that itself
follows a letter. -/
def hyphenMayFollow : List Char → Bool
  | a :: b :: rest =>
    isWordLetter a && (isWordLetter b || (b == '-' && (rest.head?.map isWordLetter).getD false))
  | _ => false

/-- After a hyphen stand two letters, or two letters with a hyphen between. -/
def hyphenMayPrecede : List Char → Bool
  | a :: b :: rest =>
    isWordLetter a && (isWordLetter b || (b == '-' && (rest.head?.map isWordLetter).getD false))
  | _ => false

/-- The length of the word that starts a text, `before` being what precedes the text, last first,
`count` the characters of the word read so far, and at least one of them. It ends after a hyphen
that may break it, before spacing, before a dash, or with the text. -/
def wordLengthFrom (before : List Char) (count : Nat) : List Char → Nat
  | [] => count
  | c :: rest =>
    if c == '-' && hyphenMayFollow before && hyphenMayPrecede rest then count + 1
    else if isSpacing c then count
    else if endsInWord before && (dashLength? (c :: rest)).isSome then count
    else wordLengthFrom (c :: before) (count + 1) rest

/-- The length of the chunk that starts with `c`. -/
def chunkLength (before : List Char) (c : Char) (rest : List Char) : Nat :=
  if isSpacing c then 1 + (rest.takeWhile isSpacing).length
  else
    match (if endsInWord before then dashLength? (c :: rest) else none) with
    | some n => n
    | none => wordLengthFrom (c :: before) 1 rest

/-- The chunks of a text: `left` characters still belong to the chunk `chunk`, which is kept last
character first, and `before` is all that was read. -/
def chunksFrom (before chunk : List Char) (left : Nat) : List Char → List (List Char)
  | [] => if chunk.isEmpty then [] else [chunk.reverse]
  | c :: rest =>
    match left with
    | k + 1 => chunksFrom (c :: before) (c :: chunk) k rest
    | 0 =>
      let tail := chunksFrom (c :: before) [c] (chunkLength before c rest - 1) rest
      if chunk.isEmpty then tail else chunk.reverse :: tail

/-- The chunks of a text; joined, they are the text. -/
def chunks (cs : List Char) : List (List Char) :=
  chunksFrom [] [] 0 cs

/-- A chunk of white space only. -/
def isBlankChunk (chunk : List Char) : Bool :=
  chunk.all isBlank

/-- The characters of a line, its chunks given last first, without a blank chunk at its end. -/
def closeLine (line : List (List Char)) : List (List Char) :=
  match line with
  | last :: rest => if isBlankChunk last then rest.reverse else line.reverse
  | [] => []

/-- The number of characters of a line of chunks. -/
def lineLength : List (List Char) → Nat
  | [] => 0
  | chunk :: rest => chunk.length + lineLength rest

/-- Packs chunks into lines. `line` is the line being filled, last chunk first, and `first` holds as
long as no line is finished. An empty line takes any chunk. Where a chunk does not fit, the line is
closed, and the chunk starts the next one, unless it is blank and a line stands before it. A line
that is empty once its blank end is dropped is no line. -/
def packFrom (width : Nat) (first : Bool) (line : List (List Char)) :
    List (List Char) → List (List Char)
  | [] =>
    let done := closeLine line
    if done.isEmpty then [] else [done.flatten]
  | chunk :: rest =>
    if line.isEmpty then packFrom width first [chunk] rest
    else if lineLength line + chunk.length ≤ width then
      packFrom width first (chunk :: line) rest
    else
      let done := closeLine line
      let stillFirst := first && done.isEmpty
      let start := if isBlankChunk chunk && !stillFirst then [] else [chunk]
      let later := packFrom width stillFirst start rest
      if done.isEmpty then later else done.flatten :: later

/-- A line of text packed into lines of at most `width` characters, chunks longer than that apart.
-/
def wrapLine (width : Nat) (cs : List Char) : List (List Char) :=
  packFrom width true [] (chunks cs)

end TableInterfaces.Text.Wrap
