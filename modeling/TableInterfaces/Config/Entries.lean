import TableInterfaces.Json.Access
import TableInterfaces.Json.Printer

/-!
# Entries

Fields whose names need not be texts. A list of pairs may name a field by any value that can be told
apart from others; numbers and truth values of the same value are one name. Of several fields with
one name the last one counts, in the place and under the form in which the name came first.
-/

namespace TableInterfaces

open TableInterfaces.Json

/-- Fields with their names, in order. -/
abbrev Entries := List (Value × Value)

namespace Entries

/-- The entries of an object. -/
def ofFields (fields : List (String × Value)) : Entries :=
  fields.map fun field => (.text field.1, field.2)

/-- The value under a name. -/
def get? (entries : Entries) (name : Value) : Option Value :=
  (entries.find? fun entry => entry.1.same name).map (·.2)

/-- Entries after one more assignment: a name that is there keeps its place and its form, a new one
goes last. -/
def assign (entries : Entries) (name v : Value) : Entries :=
  match entries with
  | [] => [(name, v)]
  | (k, w) :: rest => if k.same name then (k, v) :: rest else (k, w) :: assign rest name v

/-- Entries after all assignments of later ones, in order. -/
def merge (entries later : Entries) : Entries :=
  later.foldl (fun acc entry => assign acc entry.1 entry.2) entries

/-- Entries are equal when they have equal values under the same names, in any order. -/
def same (entries others : Entries) : Bool :=
  entries.length == others.length && entries.all fun entry =>
    match get? others entry.1 with
    | some v => entry.2.same v
    | none => false

/-! ## Reading -/

/-- The parts of an item of a list of pairs: its items, its characters or its names. -/
def parts? (v : Value) : Option (List Value) :=
  match v with
  | .list items => some items
  | .text s => some (s.toList.map fun c => .text (String.singleton c))
  | .object fields => some (fields.map fun field => .text field.1)
  | _ => none

/-- Items read as entries: each has two parts, a name and a value. `index` counts the items in
front, and `read` holds their entries. -/
def ofItems (index : Nat) (read : Entries) : List Value → Result Entries
  | [] => .ok read
  | item :: rest =>
    match parts? item with
    | none => misuse (.notFieldRow index)
    | some [name, v] => do
      name.checkHashable
      ofItems (index + 1) (assign read name v) rest
    | some parts => misuse (.fieldRowLength index parts.length)

/-- A value read as entries: the fields of an object, or the pairs of a list. -/
def ofValue (v : Value) : Result Entries :=
  match v with
  | .object fields => .ok (ofFields fields)
  | .list items => ofItems 0 [] items
  | .text s => ofItems 0 [] (s.toList.map fun c => .text (String.singleton c))
  | _ => misuse (.notIterable v.kind)

/-! ## Writing -/

/-- A name as it is written: a text itself, any other value in its written form. -/
def writtenName (name : Value) : String :=
  match name with
  | .text s => s
  | v => written 0 v

/-- The object that entries are written as. Names that differ may be written alike. -/
def toObject (entries : Entries) : Value :=
  .object (entries.map fun entry => (writtenName entry.1, entry.2))

/-- The entries of an object are written as the object. -/
theorem toObject_ofFields (fields : List (String × Value)) :
    toObject (ofFields fields) = .object fields := by
  simp [toObject, ofFields, writtenName, Function.comp_def]

end Entries

/-- The custom fields of a configuration: entries, or a value that was given in their place and is
not read before it has to be. -/
inductive Custom where
  | fields (entries : Entries)
  | given (v : Value)

namespace Custom

/-- The custom fields that a value gives. -/
def ofValue (v : Value) : Custom :=
  match v with
  | .object named => .fields (Entries.ofFields named)
  | _ => .given v

/-- Custom fields read as entries. -/
def read (custom : Custom) : Result Entries :=
  match custom with
  | .fields entries => .ok entries
  | .given v => Entries.ofValue v

/-- Entries and other values are never equal. -/
def same (custom other : Custom) : Bool :=
  match custom, other with
  | .fields entries, .fields others => entries.same others
  | .given v, .given w => v.same w
  | _, _ => false

/-- Custom fields as a value. -/
def toValue (custom : Custom) : Value :=
  match custom with
  | .fields entries => entries.toObject
  | .given v => v

/-- A value gives itself as custom fields. -/
theorem toValue_ofValue (v : Value) : (ofValue v).toValue = v := by
  cases v <;> simp [ofValue, toValue, Entries.toObject_ofFields]

end Custom

end TableInterfaces
