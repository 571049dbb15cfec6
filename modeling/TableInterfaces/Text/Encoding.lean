/-!
# Texts as bytes

Encodings whose code units have two or four bytes, in either byte order. A code unit of two bytes is
a character or one half of a surrogate pair; a code unit of four bytes is a character. Decoding
gives nothing where bytes are left over, where a half of a pair stands alone, and where a code unit
is beyond the last character.

`Encoding.ofStart?` tells such an encoding from where bytes are zero among the first four. Two ASCII
characters at the start of a text are enough for that.
-/

namespace TableInterfaces.Text

/-! ## Characters -/

/-- The character with a code point. -/
def charOfCode? (n : Nat) : Option Char :=
  if h : n.isValidChar then some (Char.ofNatAux n h) else none

/-- The first half of a surrogate pair. -/
def isHighSurrogate (n : Nat) : Bool :=
  0xD800 ≤ n && n < 0xDC00

/-- The second half of a surrogate pair. -/
def isLowSurrogate (n : Nat) : Bool :=
  0xDC00 ≤ n && n < 0xE000

/-- The character of a surrogate pair. -/
def pairChar (high low : Nat) : Char :=
  Char.ofNat (0x10000 + (high - 0xD800) * 0x400 + (low - 0xDC00))

/-! ## Code units -/

/-- Which byte of a code unit comes first: the highest or the lowest one. -/
inductive ByteOrder where
  | highFirst
  | lowFirst
  deriving DecidableEq, Repr

/-- The number that some bytes are written for. -/
def ByteOrder.number (order : ByteOrder) (bytes : List UInt8) : Nat :=
  let highFirst := match order with
    | .highFirst => bytes
    | .lowFirst => bytes.reverse
  highFirst.foldl (fun n b => 256 * n + b.toNat) 0

/-- The code units of two bytes. -/
def doubleUnits (order : ByteOrder) : List UInt8 → Option (List Nat)
  | [] => some []
  | a :: b :: rest => (order.number [a, b] :: ·) <$> doubleUnits order rest
  | [_] => none

/-- The code units of four bytes. -/
def quadrupleUnits (order : ByteOrder) : List UInt8 → Option (List Nat)
  | [] => some []
  | a :: b :: c :: d :: rest => (order.number [a, b, c, d] :: ·) <$> quadrupleUnits order rest
  | _ => none

/-- The characters of code units of two bytes. -/
def charsOfDoubles : List Nat → Option (List Char)
  | [] => some []
  | [n] => (fun c => [c]) <$> charOfCode? n
  | n :: next :: rest =>
    if isHighSurrogate n && isLowSurrogate next then (pairChar n next :: ·) <$> charsOfDoubles rest
    else do
      let c ← charOfCode? n
      let cs ← charsOfDoubles (next :: rest)
      return c :: cs

/-! ## Encodings -/

/-- An encoding in code units of two or of four bytes. -/
inductive Encoding where
  | doubles (order : ByteOrder)
  | quadruples (order : ByteOrder)
  deriving DecidableEq, Repr

namespace Encoding

/-- The text that is written in some bytes. -/
def decode? (encoding : Encoding) (bytes : List UInt8) : Option (List Char) :=
  match encoding with
  | .doubles order => (doubleUnits order bytes).bind charsOfDoubles
  | .quadruples order => (quadrupleUnits order bytes).bind (·.mapM charOfCode?)

/-- The encoding in which a text starts with these bytes, if it starts with ASCII characters. -/
def ofStart? (bytes : List UInt8) : Option Encoding :=
  match (bytes.take 4).map (· == 0) with
  | [true, false, true, false] => some (.doubles .highFirst)
  | [false, true, false, true] => some (.doubles .lowFirst)
  | [true, true, true, false] => some (.quadruples .highFirst)
  | [false, true, true, true] => some (.quadruples .lowFirst)
  | _ => none

end Encoding

end TableInterfaces.Text
