import TableInterfaces.Json.Token

/-!
# Reading JSON

The value of a token row is built on a stack of the lists and objects that are open. The first token
that does not fit decides the error, which names the line and the column of its place.
-/

namespace TableInterfaces.Json

/-- A defect with its place: lines and columns count from one, characters from zero. -/
structure Flaw where
  defect : Defect
  line : Nat
  column : Nat
  place : Nat
  deriving DecidableEq, Repr

/-- The wording of a flaw. -/
def Flaw.message (f : Flaw) : String :=
  f.defect.message ++ ": line " ++ toString f.line ++ " column " ++ toString f.column ++
    " (char " ++ toString f.place ++ ")"

/-- The flaw of a defect at a place of a text. -/
def Flaw.locate (cs : List Char) (defect : Defect) (place : Nat) : Flaw :=
  let before := cs.take place
  { defect
    line := before.count '\n' + 1
    column := (before.reverse.takeWhile (· != '\n')).length + 1
    place }

/-- Why a text has no value. -/
inductive ReadFailure where
  | flawed (flaw : Flaw)
  | longNumber (digits : Nat)
  | tooDeep
  deriving DecidableEq, Repr

/-- A list or an object around the value that is being read: the items so far, last first, or the
fields so far with the name of the value. -/
inductive Frame where
  | list (items : List Value)
  | object (fields : List (String × Value)) (name : String)

/-- What may come next: a value, or also the end of the list just opened; a field name, or also the
end of the object just opened; the colon behind a name; what follows a finished value. -/
inductive Expect where
  | value (mayClose : Bool)
  | name (fields : List (String × Value)) (mayClose : Bool)
  | colon (fields : List (String × Value)) (name : String)
  | follow (v : Value)

/-- The deepest nesting of lists and objects that is read. The reader recurs once for each level, so
this is the room that is left on the stack of a program that starts it from near its outermost call;
every call around the reader takes one level off. -/
def maxDepth : Nat := 990

/-- Why a token row has no value, with the place of the first token that does not fit. -/
inductive Misfit where
  | defect (defect : Defect) (place : Nat)
  | longNumber (digits : Nat)
  | tooDeep

/-- The state after one token, or the value if it is complete. -/
def step (expect : Expect) (stack : List Frame) (token : Token) (place : Nat) :
    Except Misfit (Expect × List Frame ⊕ Value) :=
  match expect with
  | .value mayClose =>
    match token, stack with
    | .text codes, _ => .ok (.inl (.follow (.text (textOfCodes codes)), stack))
    | .constant v, _ => .ok (.inl (.follow v, stack))
    | .openList, _ =>
      if stack.length < maxDepth then .ok (.inl (.value true, .list [] :: stack))
      else .error .tooDeep
    | .openObject, _ =>
      if stack.length < maxDepth then .ok (.inl (.name [] true, stack)) else .error .tooDeep
    | .closeList, .list items :: outer =>
      if mayClose then .ok (.inl (.follow (.list items.reverse), outer))
      else .error (.defect .value place)
    | .broken defect at_, _ => .error (.defect defect at_)
    | .longNumber digits, _ => .error (.longNumber digits)
    | _, _ => .error (.defect .value place)
  | .name fields mayClose =>
    match token with
    | .text codes => .ok (.inl (.colon fields (textOfCodes codes), stack))
    | .closeObject =>
      if mayClose then .ok (.inl (.follow (.object fields), stack))
      else .error (.defect .propertyName place)
    | .broken defect at_ => .error (.defect defect at_)
    | _ => .error (.defect .propertyName place)
  | .colon fields name =>
    match token with
    | .colon => .ok (.inl (.value false, .object fields name :: stack))
    | _ => .error (.defect .colon place)
  | .follow v =>
    match token, stack with
    | .finish, [] => .ok (.inr v)
    | _, [] => .error (.defect .extraData place)
    | .comma, .list items :: outer => .ok (.inl (.value false, .list (v :: items) :: outer))
    | .closeList, .list items :: outer => .ok (.inl (.follow (.list (v :: items).reverse), outer))
    | .comma, .object fields name :: outer =>
      .ok (.inl (.name (assign fields name v) false, outer))
    | .closeObject, .object fields name :: outer =>
      .ok (.inl (.follow (.object (assign fields name v)), outer))
    | _, _ => .error (.defect .comma place)

/-- The value of a token row. -/
def parseTokens (expect : Expect) (stack : List Frame) : List (Token × Nat) → Except Misfit Value
  | [] => .error (.defect .value 0)
  | (token, place) :: rest =>
    match step expect stack token place with
    | .error misfit => .error misfit
    | .ok (.inr v) => .ok v
    | .ok (.inl (expect, stack)) => parseTokens expect stack rest

/-- The value of a JSON text. Its texts and names are rows of characters: a half of a surrogate pair
that an escape stands for is read, but it does not get into the value (`textOfCodes`). -/
def parse (text : String) : Except ReadFailure Value :=
  let cs := text.toList
  if cs.head? == some (Char.ofNat 0xFEFF) then .error (.flawed (Flaw.locate cs .byteOrderMark 0))
  else
    match parseTokens (.value false) [] (tokens cs) with
    | .ok v => .ok v
    | .error (.defect defect place) => .error (.flawed (Flaw.locate cs defect place))
    | .error (.longNumber digits) => .error (.longNumber digits)
    | .error .tooDeep => .error .tooDeep

end TableInterfaces.Json
