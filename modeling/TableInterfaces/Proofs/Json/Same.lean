import TableInterfaces.Json.Value
import TableInterfaces.Proofs.Number.Double

/-!
# Equality of values

Whole numbers, truth values and doubles are equal by the numbers they stand for. `Value.key` is what
equality goes by for all values but lists and objects. Main statement:

* `Value.same_iff_key`: a value without parts equals another one just where both have the same key.
-/

namespace TableInterfaces.Json

open TableInterfaces.Number

/-- What tells values without parts apart. -/
inductive Key where
  | null
  | number (q : ℚ)
  | infinite (negative : Bool)
  | nan
  | text (s : String)

namespace Value

/-- What a value without parts is told apart by. -/
def key : Value → Option Key
  | .null => some .null
  | .bool b => some (.number (boolInt b))
  | .int n => some (.number n)
  | .float (.finite negative m e) => some (.number (Double.toRat negative m e))
  | .float (.infinite negative) => some (.infinite negative)
  | .float .nan => some .nan
  | .text s => some (.text s)
  | .list _ | .object _ => none

/-- A text has no parts. -/
theorem isHashable_of_text {v : Value} (h : v.kind = .text) : v.isHashable = true := by
  cases v <;> first | rfl | cases h

/-- A whole number equals a double just where both have the same key. -/
theorem equalsInt_iff_key {x : Double} {n : Int} :
    x.equalsInt n = true ↔ (Value.int n).key = (Value.float x).key := by
  cases x with
  | finite negative m e =>
    rw [Double.equalsInt_iff, key, key, Option.some.injEq, Key.number.injEq]
    exact eq_comm
  | _ => simp [Double.equalsInt, key]

/-- Doubles are equal just where they have the same key. -/
theorem equals_iff_key {x y : Double} :
    x.equals y = true ↔ (Value.float x).key = (Value.float y).key := by
  cases x with
  | finite a m e =>
    cases y with
    | finite b n f => simp [Double.equals_iff, key]
    | _ => simp [Double.equals, key]
  | _ => cases y <;> simp [Double.equals, key]

/-- **Equality goes by keys.** A value without parts equals another one just where both have the
same key. -/
theorem same_iff_key {v w : Value} (hv : v.isHashable = true) :
    v.same w = true ↔ v.key = w.key := by
  cases v with
  | null => cases w with
    | float x => cases x <;> simp [same, key]
    | _ => simp [same, key]
  | bool a => cases w with
    | bool b => cases a <;> cases b <;> simp [same, key, boolInt]
    | float x => exact equalsInt_iff_key
    | _ => simp [same, key]
  | int n => cases w with
    | float x => exact equalsInt_iff_key
    | _ => simp [same, key]
  | float x => cases w with
    | bool b => exact equalsInt_iff_key.trans eq_comm
    | int n => exact equalsInt_iff_key.trans eq_comm
    | float y => exact equals_iff_key
    | _ => cases x <;> simp [same, key]
  | text s => cases w with
    | float x => cases x <;> simp [same, key]
    | _ => simp [same, key]
  | list | object => cases hv

end Value

end TableInterfaces.Json
