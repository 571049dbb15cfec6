import TableInterfaces.Config.File
import TableInterfaces.Loading.Address

/-!
# Loading documents

A document comes from a file, from a web address or from a stream of text. Loading gives the value
together with a description of its source, or says why there is none. As in `parse`, the value is
that of the text where each text literal is a row of characters.
-/

namespace TableInterfaces.Loading

open TableInterfaces.Json
open TableInterfaces.Storage
open TableInterfaces.Text

/-- A loaded document with the description of its source. -/
structure Loaded where
  source : String
  document : Value

/-- The document of a JSON text, with the wording that a source gives to flaws. -/
def readDocument (flawed : Flaw → LoadFault) (source text : String) : Result Loaded :=
  match parse text with
  | .ok document => .ok { source, document }
  | .error failure => .error (readFault (fun flaw => .load (flawed flaw)) failure)

/-! ## Files -/

/-- The document of a file. -/
def fromPath (tree : FileTree) (path : Path) : Result Loaded := do
  if !(← standsAt tree path) then throw (.fileNotFound path)
  match tree.read path with
  | .error failure => throw (.load (.unreadableFile path failure))
  | .ok content =>
    let text ← textOfContent content
    readDocument (.invalidFile path) path.text text

/-- The document of a file whose name has to be a text. -/
def fromFile (tree : FileTree) (name : Value) : Result Loaded :=
  match name with
  | .text s => fromPath tree (Path.ofText s)
  | _ => misuse (.notText name.kind)

/-! ## Web addresses -/

/-- What comes of a request: no answer, for one of several reasons, or an answer with a status and a
body. -/
inductive Reply where
  | timeout
  | noConnection
  | noResponse
  | failed (detail : String)
  | unusable (detail : String)
  | answer (status : Int) (body : String)
  deriving DecidableEq, Repr

/-- A text without the byte order mark in front of it, which is no part of it. -/
def withoutMark (text : String) : String :=
  match text.toList with
  | c :: rest => if c.toNat = 0xFEFF then String.ofList rest else text
  | [] => text

/-- The text of a body, which reads as UTF-8. Where its bytes start like those of a text in a wider
encoding, and can be read in it, the body is that text. -/
def bodyText (body : String) : String :=
  let bytes := body.toUTF8.toList
  match (Encoding.ofStart? bytes).bind (·.decode? bytes) with
  | some text => String.ofList text
  | none => withoutMark body

/-- The document of a body. -/
def fromBody (address body : String) : Result Loaded :=
  match parse (bodyText body) with
  | .ok document => .ok { source := address, document }
  | .error (.flawed flaw) => .error (.load (.requestFailed address flaw.message))
  | .error (.longNumber digits) =>
    .error (.load (.invalidResponse address (Misuse.tooManyDigits digits).message))
  | .error .tooDeep => misuse .tooDeep

/-- Statuses of answers that tell of an error. -/
def isErrorStatus (status : Int) : Bool :=
  400 ≤ status && status < 600

/-- The document of what comes of a request to an address. -/
def fromReply (address : String) : Reply → Result Loaded
  | .timeout => .error (.load (.timeout address))
  | .noConnection => .error (.load (.noConnection address))
  | .noResponse => misuse (.lacksOperation .null "status_code")
  | .failed detail => .error (.load (.requestFailed address detail))
  | .unusable detail => .error (.load (.invalidResponse address detail))
  | .answer status body =>
    if isErrorStatus status then .error (.load (.httpStatus address status))
    else fromBody address body

/-- The document at a web address; `reply` is what comes of a request to it. An address that is
missing is reported like one that cannot be fetched. -/
def fromUrl (reply : Reply) (address : Value) : Result Loaded :=
  match address with
  | .text s => do
    if !(← isFetchable s) then throw (.load (.invalidUrl s))
    fromReply s reply
  | v =>
    if v.truthy then misuse (.lacksOperation v.kind "decode")
    else .error (.load (.invalidUrl v.display))

/-! ## Streams and choices -/

/-- The description of the standard input. -/
def streamSource : String := "<stdin>"

/-- The document of a stream of text. -/
def fromStream (text : String) : Result Loaded :=
  readDocument .invalidStream streamSource text

/-- The document of a file or of a web address, of which exactly one has to be given. -/
def fromEither (tree : FileTree) (reply : Reply) (file address : Value) : Result Loaded :=
  match file.truthy, address.truthy with
  | false, false => .error (.load .noSource)
  | true, true => .error (.load .twoSources)
  | true, false => fromFile tree file
  | false, true => fromUrl reply address

/-- A load that succeeds has made a request exactly where it read a web address. -/
def makesRequest (file : Value) : Bool :=
  !file.truthy

end TableInterfaces.Loading
