/-!
# Sets of characters

A property of characters that a standard fixes by a table is a `CodeSet`: the ascending list of the
code points at which membership changes, starting outside the set. A range then costs two numbers,
and membership is the parity of the changes passed so far.
-/

namespace TableInterfaces.Text

/-- A set of characters, given by the ascending code points where membership changes. -/
structure CodeSet where
  changes : List Nat

namespace CodeSet

/-- A character is in the set when it lies behind an odd number of changes. -/
def contains (s : CodeSet) (c : Char) : Bool :=
  (s.changes.takeWhile (· ≤ c.toNat)).length % 2 == 1

/-- A set with one range holds exactly the characters of that range. -/
theorem contains_range (low high : Nat) (c : Char) :
    (CodeSet.mk [low, high]).contains c = true ↔ low ≤ c.toNat ∧ c.toNat < high := by
  by_cases h₁ : low ≤ c.toNat
  · by_cases h₂ : high ≤ c.toNat
    · simp [contains, List.takeWhile, h₁, h₂]
    · simp [contains, List.takeWhile, h₁, h₂]
      omega
  · simp [contains, List.takeWhile, h₁]

end CodeSet

end TableInterfaces.Text
