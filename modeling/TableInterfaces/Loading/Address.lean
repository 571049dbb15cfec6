import TableInterfaces.Fault
import TableInterfaces.Text.Lines

/-!
# Web addresses

Whether a text can be fetched: it needs a scheme and a place, which is a host with an optional user
and port. Control characters and spaces in front count for nothing, and tabs and line ends inside
are dropped. A host in brackets has to be an IPv6 address; a place may hold no character whose
compatibility form is a delimiter of addresses.
-/

namespace TableInterfaces.Loading

open TableInterfaces.Text

/-! ## Bracketed hosts -/

/-- A hexadecimal digit. -/
def isHexDigit (c : Char) : Bool :=
  c.isDigit || ('a' ≤ c && c ≤ 'f') || ('A' ≤ c && c ≤ 'F')

/-- One of the eight groups of an address. -/
def isGroup (cs : List Char) : Bool :=
  !cs.isEmpty && cs.length ≤ 4 && cs.all isHexDigit

/-- One of the four numbers of an address in the older form: below 256, without leading zeros. -/
def isOctet (cs : List Char) : Bool :=
  !cs.isEmpty && cs.length ≤ 3 && cs.all Char.isDigit && (cs.head? != some '0' || cs.length == 1) &&
    cs.foldl (fun n c => 10 * n + (c.toNat - 48)) 0 ≤ 255

/-- An address in the older form: four numbers between dots. -/
def isDotted (cs : List Char) : Bool :=
  let octets := splitOn ['.'] cs
  octets.length == 4 && octets.all isOctet

/-- The groups of an address. A last part in the older form stands for two groups. -/
def groupsOf (cs : List Char) : Option (List (List Char)) :=
  let parts := splitOn [':'] cs
  let last := parts.getLast?.getD []
  if parts.length < 3 then none
  else if last.contains '.' then
    if isDotted last then some (parts.dropLast ++ [['0'], ['0']]) else none
  else some parts

/-- Groups on one side of a gap: none, where the gap is at the end of the address, or valid ones. -/
def sideLength (side : List (List Char)) : Option Nat :=
  if side == [[]] then some 0
  else if side.all isGroup then some side.length
  else none

/-- Eight groups, or fewer around one gap, that is an empty group inside. -/
def areGroups (groups : List (List Char)) : Bool :=
  let inner := groups.tail.dropLast
  match inner.findIdx? List.isEmpty with
  | none => groups.length == 8 && groups.all isGroup
  | some i =>
    match sideLength (groups.take (i + 1)), sideLength (groups.drop (i + 2)) with
    | some before, some behind => groups.length ≤ 9 && before + behind < 8
    | _, _ => false

/-- An IPv6 address, perhaps with a zone behind a percent sign. -/
def isAddress (host : List Char) : Bool :=
  match splitOn ['%'] host with
  | [address] => ((groupsOf address).map areGroups).getD false
  | [address, zone] => !zone.isEmpty && ((groupsOf address).map areGroups).getD false
  | _ => false

/-- The form kept for addresses of later versions: a version number, a dot, and a text. -/
def isLaterAddress (host : List Char) : Bool :=
  match host with
  | 'v' :: rest =>
    let version := rest.takeWhile isHexDigit
    match rest.dropWhile isHexDigit with
    | '.' :: _ :: _ => !version.isEmpty
    | _ => false
  | _ => false

/-- A host that may stand in brackets. -/
def isBracketable (host : List Char) : Bool :=
  if host.head? == some 'v' then isLaterAddress host else isAddress host

/-! ## Places -/

/-- Characters whose compatibility form holds a delimiter of addresses. -/
def delimiterForms : List Nat :=
  [0x2047, 0x2048, 0x2049, 0x2100, 0x2101, 0x2105, 0x2106, 0x2A74, 0xFE13, 0xFE16, 0xFE55, 0xFE56,
    0xFE5F, 0xFE6B, 0xFF03, 0xFF0F, 0xFF1A, 0xFF1F, 0xFF20]

/-- The host and the port, which stand behind the last at sign. -/
def hostAndPort (place : List Char) : List Char :=
  (place.reverse.takeWhile (· != '@')).reverse

/-- What stands behind a closing bracket: nothing, or a port behind a colon. -/
def isPortPart (cs : List Char) : Bool :=
  match cs with
  | [] => true
  | c :: _ => c == ':'

/-- Nothing stands in front of the first bracket of a host, only a port behind the closing one, and
what they hold may stand in brackets. A host without brackets, which are then in front of an at
sign, ends at its port and is held to the same rule. -/
def isBracketedHost (host : List Char) : Bool :=
  match host.dropWhile (· != '[') with
  | [] => isBracketable (host.takeWhile (· != ':'))
  | _ :: inside =>
    host.head? == some '[' && isPortPart (inside.dropWhile (· != ']')).tail &&
      isBracketable (inside.takeWhile (· != ']'))

/-- The brackets of a place come in both kinds or not at all, and its host fits them. -/
def bracketsFit (place : List Char) : Bool :=
  match place.contains '[', place.contains ']' with
  | false, false => true
  | true, true => isBracketedHost (hostAndPort place)
  | _, _ => false

/-- The host of a place can be read. -/
def placeFits (place : List Char) : Bool :=
  bracketsFit place && !place.any fun c => delimiterForms.contains c.toNat

/-! ## Addresses -/

/-- Characters of a scheme. -/
def isSchemeChar (c : Char) : Bool :=
  c.isAlphanum || c == '+' || c == '-' || c == '.'

/-- The scheme of an address, and the text behind its colon. -/
def cutScheme (cs : List Char) : List Char × List Char :=
  let scheme := cs.takeWhile (· != ':')
  let startsWithLetter := (scheme.head?.map Char.isAlpha).getD false
  if scheme.length < cs.length && startsWithLetter && scheme.all isSchemeChar then
    (scheme, cs.drop (scheme.length + 1))
  else ([], cs)

/-- The place behind two slashes: the host, perhaps with a user in front and a port behind. Without
the slashes it is empty. -/
def placeOf (cs : List Char) : List Char :=
  match cs with
  | '/' :: '/' :: rest => rest.takeWhile fun c => c != '/' && c != '?' && c != '#'
  | _ => []

/-- An address without the characters in it that count for nothing. -/
def cleaned (address : String) : List Char :=
  (address.toList.dropWhile fun c => c.toNat ≤ 0x20).filter fun c =>
    c != '\t' && c != '\n' && c != '\r'

/-- An address has a scheme and a place. A place whose host cannot be read is an error. -/
def isFetchable (address : String) : Result Bool :=
  let (scheme, rest) := cutScheme (cleaned address)
  let place := placeOf rest
  if placeFits place then .ok (!scheme.isEmpty && !place.isEmpty) else misuse .invalidHost

end TableInterfaces.Loading
