/-!
# Lines

Three ways in which a text falls into lines. `splitLines` knows every line boundary of Unicode and
gives no empty line after a final boundary. `splitOn` cuts at one given separator and keeps every
piece. `unifyNewlines` turns carriage returns, alone or before a line feed, into line feeds.
-/

namespace TableInterfaces.Text

/-- Line feed, vertical tab, form feed, carriage return, the file, group and record separators, next
line, and the line and paragraph separators. -/
def isLineBreak (c : Char) : Bool :=
  let n := c.toNat
  (0x0A ≤ n && n ≤ 0x0D) || (0x1C ≤ n && n ≤ 0x1E) || n == 0x85 || n == 0x2028 || n == 0x2029

/-- The lines of a text, `line` being the characters read of the current one, last first. -/
def splitLinesFrom (line : List Char) : List Char → List (List Char)
  | [] => if line.isEmpty then [] else [line.reverse]
  | '\r' :: '\n' :: rest => line.reverse :: splitLinesFrom [] rest
  | c :: rest =>
    if isLineBreak c then line.reverse :: splitLinesFrom [] rest
    else splitLinesFrom (c :: line) rest

/-- The lines of a text; a carriage return before a line feed is one boundary with it. -/
def splitLines (cs : List Char) : List (List Char) :=
  splitLinesFrom [] cs

/-- The pieces of a text between occurrences of `sep`. `skip` characters still belong to the
occurrence found last, and `piece` holds the current piece, last character first. -/
def splitOnFrom (sep : List Char) (skip : Nat) (piece : List Char) : List Char → List (List Char)
  | [] => [piece.reverse]
  | c :: rest =>
    match skip with
    | k + 1 => splitOnFrom sep k piece rest
    | 0 =>
      if sep.isPrefixOf (c :: rest) then piece.reverse :: splitOnFrom sep (sep.length - 1) [] rest
      else splitOnFrom sep 0 (c :: piece) rest

/-- The pieces of a text between the occurrences of a separator, found from left to right. -/
def splitOn (sep : List Char) (cs : List Char) : List (List Char) :=
  splitOnFrom sep 0 [] cs

/-- The pieces of a text between the occurrences of one character. -/
def splitAtChar (c : Char) (s : String) : List String :=
  (splitOn [c] s.toList).map String.ofList

/-- The maximal rows of characters that are no white space, in order. -/
def fieldsFrom (blank : Char → Bool) (field : List Char) : List Char → List (List Char)
  | [] => if field.isEmpty then [] else [field.reverse]
  | c :: rest =>
    if blank c then
      if field.isEmpty then fieldsFrom blank [] rest else field.reverse :: fieldsFrom blank [] rest
    else fieldsFrom blank (c :: field) rest

/-- Line feeds in place of carriage returns and of carriage returns before line feeds. -/
def unifyNewlines : List Char → List Char
  | [] => []
  | '\r' :: '\n' :: rest => '\n' :: unifyNewlines rest
  | c :: rest => (if c = '\r' then '\n' else c) :: unifyNewlines rest

/-- Every occurrence of `old` in a text, found from left to right, gives way to `new`; `skip`
characters still belong to the occurrence found last. -/
def replaceFrom (old new : List Char) (skip : Nat) : List Char → List Char
  | [] => []
  | c :: rest =>
    match skip with
    | k + 1 => replaceFrom old new k rest
    | 0 =>
      if old.isPrefixOf (c :: rest) then new ++ replaceFrom old new (old.length - 1) rest
      else c :: replaceFrom old new 0 rest

/-- A text with every occurrence of `old` replaced by `new`. -/
def replaceAll (old new : String) (s : String) : String :=
  String.ofList (replaceFrom old.toList new.toList 0 s.toList)

end TableInterfaces.Text
