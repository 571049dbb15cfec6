import TableInterfaces.Json.Value
import TableInterfaces.Text.Encoding

/-!
# JSON tokens

A text falls into tokens, each with the place of its first character. Spacing between tokens is
skipped, and the last token marks the end of the text. Scanning never fails: a character that starts
no token, a broken text literal and a number with too many digits are tokens of their own, so the
first defect in reading order is the one that is reported.

A text literal is read as code points. Its escapes may stand for one half of a surrogate pair, which
is a code point but no character, so not every literal is a text (`textOfCodes`).
-/

namespace TableInterfaces.Json

open TableInterfaces.Number
open TableInterfaces.Text

/-- What can be wrong with a JSON text. -/
inductive Defect where
  | value
  | propertyName
  | colon
  | comma
  | openText
  | control
  | escape
  | unicodeEscape
  | extraData
  | byteOrderMark
  deriving DecidableEq, Repr

/-- The wording of a defect. -/
def Defect.message : Defect → String
  | .value => "Expecting value"
  | .propertyName => "Expecting property name enclosed in double quotes"
  | .colon => "Expecting ':' delimiter"
  | .comma => "Expecting ',' delimiter"
  | .openText => "Unterminated string starting at"
  | .control => "Invalid control character at"
  | .escape => "Invalid \\escape"
  | .unicodeEscape => "Invalid \\uXXXX escape"
  | .extraData => "Extra data"
  | .byteOrderMark => "Unexpected UTF-8 BOM (decode using utf-8-sig)"

/-- A token of a JSON text; a text literal is the row of its code points. -/
inductive Token where
  | openList
  | closeList
  | openObject
  | closeObject
  | colon
  | comma
  | text (codes : List Nat)
  | constant (v : Value)
  | broken (defect : Defect) (place : Nat)
  | longNumber (digits : Nat)
  | other
  | finish

/-- The characters between tokens. -/
def isJsonSpace (c : Char) : Bool :=
  c == ' ' || c == '\t' || c == '\n' || c == '\r'

/-! ## Numbers -/

/-- A number literal may have this many digits if it is whole. A longer number is neither read nor
written, so a number that was read can be written. -/
def maxDigits : Nat := 4300

/-- The value of a row of ASCII digits. -/
def digitsNumber (digits : List Char) : Nat :=
  digits.foldl (fun n c => 10 * n + (c.toNat - 48)) 0

/-- The digits of a number before its point: a single zero, or a row that starts otherwise. -/
def wholeDigits (cs : List Char) : List Char :=
  match cs with
  | '0' :: _ => ['0']
  | _ => cs.takeWhile Char.isDigit

/-- The digits behind a decimal point, if a point with digits stands here. -/
def fractionDigits (cs : List Char) : List Char :=
  match cs with
  | '.' :: rest => rest.takeWhile Char.isDigit
  | _ => []

/-- The length and the value of a decimal exponent, if one stands here. -/
def exponentPart? (cs : List Char) : Option (Nat × Int) :=
  match cs with
  | mark :: rest =>
    if mark = 'e' ∨ mark = 'E' then
      let (signLength, negative) := match rest with
        | '-' :: _ => (1, true)
        | '+' :: _ => (1, false)
        | _ => (0, false)
      let digits := (rest.drop signLength).takeWhile Char.isDigit
      let value : Int := digitsNumber digits
      if digits.isEmpty then none
      else some (1 + signLength + digits.length, if negative then -value else value)
    else none
  | [] => none

/-- The number that starts a text, and its length. -/
def scanNumber? (cs : List Char) : Option (Token × Nat) :=
  let negative := cs.head? == some '-'
  let signLength := if negative then 1 else 0
  let unsigned := cs.drop signLength
  let whole := wholeDigits unsigned
  let afterWhole := unsigned.drop whole.length
  let fraction := fractionDigits afterWhole
  let fractionLength := if fraction.isEmpty then 0 else 1 + fraction.length
  let exponent := exponentPart? (afterWhole.drop fractionLength)
  let length := signLength + whole.length + fractionLength + (exponent.map (·.1)).getD 0
  if whole.isEmpty then none
  else if fraction.isEmpty && exponent.isNone then
    let n : Int := digitsNumber whole
    if maxDigits < whole.length then some (.longNumber whole.length, length)
    else some (.constant (.int (if negative then -n else n)), length)
  else
    let shift := (exponent.map (·.2)).getD 0 - fraction.length
    some (.constant (.float (Double.ofDecimal negative (digitsNumber (whole ++ fraction)) shift)),
      length)

/-! ## Text literals -/

/-- The value of a hexadecimal digit. -/
def hexValue? (c : Char) : Option Nat :=
  if '0' ≤ c ∧ c ≤ '9' then some (c.toNat - 48)
  else if 'a' ≤ c ∧ c ≤ 'f' then some (c.toNat - 87)
  else if 'A' ≤ c ∧ c ≤ 'F' then some (c.toNat - 55)
  else none

/-- The value of four hexadecimal digits with at least one character behind them. -/
def fourHex? (cs : List Char) : Option Nat :=
  if cs.length ≤ 4 then none
  else (cs.take 4).foldlM (fun n c => (hexValue? c).map (16 * n + ·)) 0

/-- The character of a code point; the replacement mark stands for a code point that is none. -/
def codeChar (n : Nat) : Char :=
  (charOfCode? n).getD (Char.ofNat 0xFFFD)

/-- The text of a row of code points. A text holds characters only, so a half of a surrogate pair
whose other half is missing is lost here: it can be read, but it cannot be written in UTF-8. -/
def textOfCodes (codes : List Nat) : String :=
  String.ofList (codes.map codeChar)

/-- The character that a one-letter escape stands for. -/
def simpleEscape? (c : Char) : Option Char :=
  if c = doubleQuote ∨ c = '\\' ∨ c = '/' then some c
  else if c = 'b' then some (Char.ofNat 0x08)
  else if c = 'f' then some (Char.ofNat 0x0C)
  else if c = 'n' then some '\n'
  else if c = 'r' then some '\r'
  else if c = 't' then some '\t'
  else none

/-- The escape behind a backslash: its code point and the number of characters it takes, or the
defect with its distance from the backslash, if that matters. -/
def scanEscape (cs : List Char) : Except (Defect × Nat) (Nat × Nat) :=
  match cs with
  | [] => .error (.openText, 0)
  | 'u' :: rest =>
    match fourHex? rest with
    | none => .error (.unicodeEscape, 1)
    | some high =>
      let after := rest.drop 4
      if isHighSurrogate high ∧ 6 < after.length ∧ after.take 2 = ['\\', 'u'] then
        match fourHex? (after.drop 2) with
        | none => .error (.unicodeEscape, 7)
        | some low =>
          if isLowSurrogate low then .ok ((pairChar high low).toNat, 11)
          else .ok (high, 5)
      else .ok (high, 5)
  | c :: _ =>
    match simpleEscape? c with
    | some d => .ok (d.toNat, 1)
    | none => .error (.escape, 0)

/-- The text literal whose opening quote stands at `start`, read up to its closing quote: its code
points and the number of characters behind the opening quote. `read` holds the code points so far,
last first, `place` is the place of the next character, and `skip` characters belong to an
escape. -/
def scanText (start place skip : Nat) (read : List Nat) :
    List Char → Except (Defect × Nat) (List Nat × Nat)
  | [] => .error (.openText, start)
  | c :: rest =>
    match skip with
    | k + 1 => scanText start (place + 1) k read rest
    | 0 =>
      if c = doubleQuote then .ok (read.reverse, place - start)
      else if c = '\\' then
        match scanEscape rest with
        | .ok (code, length) => scanText start (place + 1) length (code :: read) rest
        | .error (.openText, _) => .error (.openText, start)
        | .error (defect, distance) => .error (defect, place + distance)
      else if c.toNat < 0x20 then .error (.control, place)
      else scanText start (place + 1) 0 (c.toNat :: read) rest

/-! ## Tokens -/

/-- The constants with a name. -/
def namedConstants : List (List Char × Value) :=
  [("null".toList, .null), ("true".toList, .bool true), ("false".toList, .bool false),
    ("NaN".toList, .float .nan), ("Infinity".toList, .float (.infinite false)),
    ("-Infinity".toList, .float (.infinite true))]

/-- The token that starts with `c` at `place`, and the number of characters it takes behind `c`. -/
def scanToken (place : Nat) (c : Char) (rest : List Char) : Token × Nat :=
  if c = '[' then (.openList, 0)
  else if c = ']' then (.closeList, 0)
  else if c.toNat = 0x7B then (.openObject, 0)
  else if c.toNat = 0x7D then (.closeObject, 0)
  else if c = ':' then (.colon, 0)
  else if c = ',' then (.comma, 0)
  else if c = doubleQuote then
    match scanText place (place + 1) 0 [] rest with
    | .ok (codes, length) => (.text codes, length)
    | .error (defect, at_) => (.broken defect at_, rest.length)
  else
    match namedConstants.find? fun constant => constant.1.isPrefixOf (c :: rest) with
    | some (name, v) => (.constant v, name.length - 1)
    | none =>
      match scanNumber? (c :: rest) with
      | some (token, length) => (token, length - 1)
      | none => (.other, 0)

/-- The tokens of a text that starts at `place`, each with its place. -/
def tokensFrom (place : Nat) (cs : List Char) : List (Token × Nat) :=
  match cs with
  | [] => [(.finish, place)]
  | c :: rest =>
    if isJsonSpace c then tokensFrom (place + 1) rest
    else
      let (token, length) := scanToken place c rest
      (token, place) :: tokensFrom (place + 1 + length) (rest.drop length)
termination_by cs.length
decreasing_by
  · simp
  · simp only [List.length_cons, List.length_drop]
    omega

/-- The tokens of a text. -/
def tokens (cs : List Char) : List (Token × Nat) :=
  tokensFrom 0 cs

end TableInterfaces.Json
