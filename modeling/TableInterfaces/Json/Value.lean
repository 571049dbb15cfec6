import TableInterfaces.Number.Double
import TableInterfaces.Text.Quoted

/-!
# JSON values

A document or a configuration is a JSON value. Fields of an object keep the order in which their
names first appeared, and each name occurs once. Three readings of any value are used where a field
is not checked: whether it counts as true, how it is displayed, and whether it equals another one.
-/

namespace TableInterfaces.Json

open TableInterfaces.Number
open TableInterfaces.Text

/-- A JSON value; whole numbers have any size, other numbers are doubles. A whole number of more
than `maxDigits` digits is in no JSON text, and there is no decimal form of it either, so what is
shown or written of a value is meant for numbers within that bound. -/
inductive Value where
  | null
  | bool (b : Bool)
  | int (n : Int)
  | float (x : Double)
  | text (s : String)
  | list (items : List Value)
  | object (fields : List (String × Value))
  deriving Inhabited, Repr

/-- The kinds of JSON values. -/
inductive Kind where
  | null
  | bool
  | int
  | float
  | text
  | list
  | object
  deriving DecidableEq, Repr

/-- The name of a kind in messages. -/
def Kind.name : Kind → String
  | .null => "NoneType"
  | .bool => "bool"
  | .int => "int"
  | .float => "float"
  | .text => "str"
  | .list => "list"
  | .object => "dict"

namespace Value

/-- The text that a value is. -/
def text? : Value → Option String
  | .text s => some s
  | _ => none

/-- The kind of a value. -/
def kind : Value → Kind
  | .null => .null
  | .bool _ => .bool
  | .int _ => .int
  | .float _ => .float
  | .text _ => .text
  | .list _ => .list
  | .object _ => .object

/-- Null, false, zero and what is empty count as false, all else as true. -/
def truthy : Value → Bool
  | .null => false
  | .bool b => b
  | .int n => n != 0
  | .float (.finite _ m _) => m != 0
  | .float _ => true
  | .text s => s != ""
  | .list items => !items.isEmpty
  | .object fields => !fields.isEmpty

/-- Shown parts with a comma between neighbours. -/
def joinShown (parts : List String) : String :=
  String.intercalate ", " parts

mutual
/-- How a value is shown inside a message: texts in quotes, constants with capitals, and whole
numbers in full, as those of a JSON text are. -/
def shown : Value → String
  | .null => "None"
  | .bool true => "True"
  | .bool false => "False"
  | .int n => toString n
  | .float x => x.text
  | .text s => quoted s
  | .list items => "[" ++ joinShown (shownItems items) ++ "]"
  | .object fields => "\x7b" ++ joinShown (shownFields fields) ++ "\x7d"

/-- The items of a list as they are shown. -/
def shownItems : List Value → List String
  | [] => []
  | v :: rest => shown v :: shownItems rest

/-- The fields of an object as they are shown. -/
def shownFields : List (String × Value) → List String
  | [] => []
  | (k, v) :: rest => (quoted k ++ ": " ++ shown v) :: shownFields rest
end

/-- A value as text: a text itself, any other value as it is shown. -/
def display : Value → String
  | .text s => s
  | v => v.shown

mutual
/-- How deep lists and objects are nested in a value. -/
def depth : Value → Nat
  | .list items => 1 + itemsDepth items
  | .object fields => 1 + fieldsDepth fields
  | _ => 0

/-- The depth of the deepest item. -/
def itemsDepth : List Value → Nat
  | [] => 0
  | v :: rest => max (depth v) (itemsDepth rest)

/-- The depth of the deepest field. -/
def fieldsDepth : List (String × Value) → Nat
  | [] => 0
  | (_, v) :: rest => max (depth v) (fieldsDepth rest)
end

/-- The value of a field of an object; what is no object has no field. -/
def field? (name : String) : Value → Option Value
  | .object fields => fields.lookup name
  | _ => none

/-- The value of a field, or a default where there is none. -/
def fieldD (v : Value) (name : String) (default : Value) : Value :=
  (v.field? name).getD default

/-- Truth values count as the numbers one and zero in comparisons. -/
def boolInt (b : Bool) : Int :=
  if b then 1 else 0

mutual
/-- Equality of values: numbers and truth values compare by value, objects without regard to the
order of their fields. -/
def same : Value → Value → Bool
  | .null, w => match w with
    | .null => true
    | _ => false
  | .bool a, w => match w with
    | .bool b => a == b
    | .int m => boolInt a == m
    | .float y => y.equalsInt (boolInt a)
    | _ => false
  | .int n, w => match w with
    | .bool b => n == boolInt b
    | .int m => n == m
    | .float y => y.equalsInt n
    | _ => false
  | .float x, w => match w with
    | .bool b => x.equalsInt (boolInt b)
    | .int m => x.equalsInt m
    | .float y => x.equals y
    | _ => false
  | .text s, w => match w with
    | .text t => s == t
    | _ => false
  | .list items, w => match w with
    | .list others => sameItems items others
    | _ => false
  | .object fields, w => match w with
    | .object others => fields.length == others.length && sameFields fields others
    | _ => false

/-- Lists are equal when they have equal items in the same order. -/
def sameItems : List Value → List Value → Bool
  | [], others => others.isEmpty
  | v :: rest, others => match others with
    | w :: later => same v w && sameItems rest later
    | [] => false

/-- Every field of the first object has an equal one in the second. -/
def sameFields : List (String × Value) → List (String × Value) → Bool
  | [], _ => true
  | (k, v) :: rest, others =>
    (match others.lookup k with
      | some w => same v w
      | none => false) && sameFields rest others
end

/-- Values that can be told apart by a hash: all but lists and objects. -/
def isHashable : Value → Bool
  | .list _ => false
  | .object _ => false
  | _ => true

end Value

variable {α : Type}

/-- Fields after one more assignment: a name that is there keeps its place, a new one goes last. -/
def assign (fields : List (String × α)) (name : String) (v : α) : List (String × α) :=
  match fields with
  | [] => [(name, v)]
  | (k, w) :: rest => if k = name then (k, v) :: rest else (k, w) :: assign rest name v

/-- Fields after all assignments of another object, in order. -/
def merge (fields later : List (String × α)) : List (String × α) :=
  later.foldl (fun acc kv => assign acc kv.1 kv.2) fields

/-- What an assignment sets is found again. -/
theorem lookup_assign_self (fields : List (String × α)) (name : String) (v : α) :
    (assign fields name v).lookup name = some v := by
  induction fields with
  | nil => simp [assign]
  | cons kv rest ih =>
    obtain ⟨k, w⟩ := kv
    by_cases h : k = name
    · simp [assign, h]
    · have h' : (name == k) = false := by simpa using fun e => h e.symm
      simp [assign, h, List.lookup_cons, h', ih]

/-- An assignment leaves all other names as they are. -/
theorem lookup_assign_of_ne (fields : List (String × α)) {name other : String} (v : α)
    (h : other ≠ name) : (assign fields name v).lookup other = fields.lookup other := by
  induction fields with
  | nil =>
    have h' : (other == name) = false := by simpa using h
    simp [assign, List.lookup_cons, h']
  | cons kv rest ih =>
    obtain ⟨k, w⟩ := kv
    by_cases hk : k = name
    · subst hk
      have h' : (other == k) = false := by simpa using h
      simp [assign, List.lookup_cons, h']
    · by_cases ho : other = k
      · subst ho
        simp [assign, hk]
      · have h' : (other == k) = false := by simpa using ho
        simp [assign, hk, List.lookup_cons, h', ih]

end TableInterfaces.Json
