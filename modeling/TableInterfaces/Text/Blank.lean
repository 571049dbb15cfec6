/-!
# White space

The characters that count as white space when texts are trimmed and declarations are read: the ASCII
controls from tab to carriage return and from file to unit separator, the space, the next-line
control, and the space, line and paragraph separators of Unicode. The zero-width space is none.
-/

namespace TableInterfaces.Text

/-- White space of any script. -/
def isBlank (c : Char) : Bool :=
  let n := c.toNat
  (0x09 ≤ n && n ≤ 0x0D) || (0x1C ≤ n && n ≤ 0x20) || n == 0x85 || n == 0xA0 || n == 0x1680 ||
    (0x2000 ≤ n && n ≤ 0x200A) || n == 0x2028 || n == 0x2029 || n == 0x202F || n == 0x205F ||
    n == 0x3000

/-- A row of characters without the white space at its start. -/
def trimStart (cs : List Char) : List Char :=
  cs.dropWhile isBlank

/-- A row of characters without the end that satisfies `p`. -/
def dropEndWhile (p : Char → Bool) (cs : List Char) : List Char :=
  (cs.reverse.dropWhile p).reverse

/-- A row of characters without the white space at its end. -/
def trimEnd (cs : List Char) : List Char :=
  dropEndWhile isBlank cs

/-- A row of characters without the white space at both ends. -/
def trim (cs : List Char) : List Char :=
  trimEnd (trimStart cs)

/-- A text without the white space at both ends. -/
def trimmed (s : String) : String :=
  String.ofList (trim s.toList)

/-- A text of white space only. -/
def isBlankText (s : String) : Bool :=
  s.toList.all isBlank

end TableInterfaces.Text
