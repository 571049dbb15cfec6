import TableInterfaces.Fault

/-!
# Rows of equal text

How often a text can be repeated. The number of repetitions and the length of the row have to fit a
signed word of 64 bits, and a row that is too long to hold is given up.
-/

namespace TableInterfaces

open TableInterfaces.Number

/-- The bound of the counts that can be asked for. -/
def countBound : Int := twoTo 63

/-- The most characters that a row can have before it is given up. -/
def maxRow : Int := twoTo 32

/-- A text of some length can be repeated `n` times; a negative number counts as zero. -/
def checkRow (length : Nat) (n : Int) : Except Misuse Unit :=
  if n < -countBound || countBound ≤ n || countBound ≤ length * n then .error .tooLarge
  else if maxRow < length * n then .error .outOfMemory
  else .ok ()

end TableInterfaces
