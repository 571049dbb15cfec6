import Mathlib.Algebra.Order.Field.Rat
import Mathlib.Tactic.NormNum
import TableInterfaces.Number.Double

/-!
# Doubles as numbers

A finite double stands for a rational number, and comparisons go by that number. Main statements:

* `Double.equals_iff` and `Double.equalsInt_iff`: finite doubles are equal, to each other and to
  whole numbers, just where they stand for the same number.
-/

namespace TableInterfaces.Number.Double

/-- The number that a finite double stands for. -/
def toRat (negative : Bool) (m : Nat) (e : Int) : ℚ :=
  signed negative m * 2 ^ e

/-- A whole number times a power of two equals another one times a higher power. -/
theorem mul_zpow_eq_iff (x y e : Int) (k : Nat) :
    (x : ℚ) * 2 ^ e = y * 2 ^ (e + k) ↔ x = y * twoTo k := by
  have htwo : (2 : ℚ) ≠ 0 := by norm_num
  have hpower : (2 : ℚ) ^ (e + k) = (twoTo k : Int) * 2 ^ e := by
    rw [zpow_add₀ htwo, zpow_natCast, mul_comm]
    simp [twoTo]
  rw [hpower, ← mul_assoc, mul_left_inj' (zpow_ne_zero e htwo), ← Int.cast_mul, Int.cast_inj]

/-- Scaled whole numbers are compared as the numbers they stand for. -/
theorem sameScaled_iff (x e y f : Int) :
    sameScaled x e y f = true ↔ (x : ℚ) * 2 ^ e = y * 2 ^ f := by
  unfold sameScaled
  split
  · rename_i h
    obtain ⟨k, rfl⟩ := Int.le.dest h
    rw [mul_zpow_eq_iff, beq_iff_eq, add_sub_cancel_left, Int.toNat_natCast]
  · rename_i h
    obtain ⟨k, rfl⟩ := Int.le.dest (Int.le_of_lt (Int.not_le.1 h))
    rw [eq_comm (a := (x : ℚ) * _), mul_zpow_eq_iff, beq_iff_eq, add_sub_cancel_left,
      Int.toNat_natCast, eq_comm]

theorem equalsInt_iff {n : Int} {negative : Bool} {m : Nat} {e : Int} :
    (finite negative m e).equalsInt n = true ↔ toRat negative m e = n := by
  rw [equalsInt, sameScaled_iff, zpow_zero, mul_one]
  rfl

theorem equals_iff {a b : Bool} {m n : Nat} {e f : Int} :
    (finite a m e).equals (finite b n f) = true ↔ toRat a m e = toRat b n f :=
  sameScaled_iff _ _ _ _

end TableInterfaces.Number.Double
