/-!
# Double-precision numbers

The numbers of the IEEE binary64 format as data: not a number, the infinities, and a sign with a
significand and a power of two. `Double.ofDecimal` rounds a decimal number to the nearest of them, a
tie going to the even significand, and `Double.shortest` gives the fewest decimal digits that round
back, the nearest ones where several do. All arithmetic is exact.
-/

namespace TableInterfaces.Number

/-- A double-precision number. The finite ones are `significand * 2 ^ exponent` with a sign. -/
inductive Double where
  | nan
  | infinite (negative : Bool)
  | finite (negative : Bool) (significand : Nat) (exponent : Int)
  deriving DecidableEq, Repr, Inhabited

/-- A power of two. -/
def twoTo (n : Nat) : Nat :=
  Nat.pow 2 n

/-- A power of ten. -/
def tenTo (n : Nat) : Nat :=
  Nat.pow 10 n

/-- The number of decimal digits of a positive number; zero has none. -/
def decimalLength (n : Nat) : Nat :=
  if n = 0 then 0 else (Nat.toDigits 10 n).length

/-- The quotient rounded to the nearest whole number, a tie going to the even one. -/
def roundQuotient (num den : Nat) : Nat :=
  let q := num / den
  let r := num % den
  if 2 * r < den then q
  else if den < 2 * r then q + 1
  else if q % 2 = 0 then q else q + 1

/-- `num / den` divided by `2 ^ e`, as a fraction. -/
def scaleDown (num den : Nat) (e : Int) : Nat × Nat :=
  if 0 ≤ e then (num, den * twoTo e.toNat) else (num * twoTo (-e).toNat, den)

namespace Double

/-- The least exponent of the format. -/
def minExponent : Int := -1074

/-- The greatest exponent of the format. -/
def maxExponent : Int := 971

/-- The zero of a sign. -/
def zero (negative : Bool) : Double :=
  .finite negative 0 minExponent

/-- The double nearest to the positive fraction `num / den`. -/
def ofFraction (negative : Bool) (num den : Nat) : Double :=
  let guess : Int := (Nat.log2 num : Int) - Nat.log2 den - 52
  let (a, b) := scaleDown num den guess
  let wanted := if a / b < twoTo 52 then guess - 1 else guess
  let e := max wanted minExponent
  let (a, b) := scaleDown num den e
  let m := roundQuotient a b
  let (m, e) := if m = twoTo 53 then (twoTo 52, e + 1) else (m, e)
  if maxExponent < e then .infinite negative else .finite negative m e

/-- The double nearest to `digits * 10 ^ exponent`. -/
def ofDecimal (negative : Bool) (digits : Nat) (exponent : Int) : Double :=
  let magnitude := (decimalLength digits : Int) + exponent
  if digits = 0 ∨ magnitude < -330 then zero negative
  else if 310 < magnitude then .infinite negative
  else if 0 ≤ exponent then ofFraction negative (digits * tenTo exponent.toNat) 1
  else ofFraction negative digits (tenTo (-exponent).toNat)

/-- The value of a positive finite double as a fraction. -/
def fraction (m : Nat) (e : Int) : Nat × Nat :=
  if 0 ≤ e then (m * twoTo e.toNat, 1) else (m, twoTo (-e).toNat)

/-- The exponent `k` with `10 ^ k ≤ num / den < 10 ^ (k + 1)`, for a positive fraction. -/
def decimalExponent (num den : Nat) : Int :=
  if den ≤ num then (decimalLength (num / den) : Int) - 1
  else
    let k := decimalLength (den / num)
    if den ≤ num * tenTo (k - 1) then -((k : Int) - 1) else -(k : Int)

/-- `digits * 10 ^ k` as a fraction. -/
def gridPoint (digits : Nat) (k : Int) : Nat × Nat :=
  if 0 ≤ k then (digits * tenTo k.toNat, 1) else (digits, tenTo (-k).toNat)

/-- The fraction `point` rounds to the double `m * 2 ^ e`: it lies within half a unit of it, or a
quarter of a unit below a power of two, where the grid is finer. The ends of this interval are in it
when `m` is even. -/
def roundsBack (m : Nat) (e : Int) (point : Nat × Nat) : Bool :=
  let (low, high) := (if m = twoTo 52 ∧ minExponent < e then 4 * m - 1 else 4 * m - 2, 4 * m + 2)
  let (a, b) := scaleDown point.1 point.2 (e - 2)
  if m % 2 = 0 then low * b ≤ a && a ≤ high * b else low * b < a && a < high * b

/-- The nearer to `num / den` of the grid's two points around it that satisfies `p`. -/
def nearestPoint? (num den : Nat) (k : Int) (p : Nat × Nat → Bool) : Option Nat :=
  let (a, b) := if 0 ≤ k then (num, den * tenTo k.toNat) else (num * tenTo (-k).toNat, den)
  let below := a / b
  let lowFits := p (gridPoint below k)
  let highFits := p (gridPoint (below + 1) k)
  let rest := a % b
  if lowFits && highFits then
    if 2 * rest < b then some below
    else if b < 2 * rest then some (below + 1)
    else some (if below % 2 = 0 then below else below + 1)
  else if lowFits then some below
  else if highFits then some (below + 1)
  else none

/-- The digits and the power of ten of the shortest decimal number that rounds back to a positive
finite double: of the grids with one to seventeen digits, the first with a point that does. -/
def shortest (m : Nat) (e : Int) : Nat × Int :=
  let (num, den) := fraction m e
  let top := decimalExponent num den
  let hit := (List.range 17).findSome? fun (n : Nat) =>
    let k := top - n
    (nearestPoint? num den k (roundsBack m e)).map fun digits => (digits, k)
  hit.getD (num / den, 0)

/-- Digits without the zeros at their end, with the power of ten that makes up for them. -/
def dropZeros (digits : List Char) (k : Int) : List Char × Int :=
  let kept := (digits.reverse.dropWhile (· == '0')).reverse
  (kept, k + (digits.length - kept.length : Nat))

/-- Sign and at least two digits of a decimal exponent. -/
def exponentText (x : Int) : String :=
  let n := x.natAbs
  (if x < 0 then "e-" else "e+") ++ (if n < 10 then "0" else "") ++ toString n

/-- Digits `d₁ d₂ …` that stand for `d₁.d₂… * 10 ^ top`: positional from `10 ^ (-4)` to below
`10 ^ 16`, else with an exponent. A positional number always shows a fraction. -/
def decimalText (digits : List Char) (top : Int) : String :=
  if -4 ≤ top ∧ top < 16 then
    if top < 0 then
      "0." ++ String.ofList (List.replicate ((-top).toNat - 1) '0' ++ digits)
    else
      let whole := top.toNat + 1
      let front := digits.take whole ++ List.replicate (whole - digits.length) '0'
      let back := digits.drop whole
      String.ofList (front ++ '.' :: (if back.isEmpty then ['0'] else back))
  else
    let mark := exponentText top
    match digits with
    | [] => "0.0"
    | [d] => String.ofList [d] ++ mark
    | d :: rest => String.ofList (d :: '.' :: rest) ++ mark

/-- The text of a double: the shortest digits that read back. -/
def text : Double → String
  | .nan => "nan"
  | .infinite negative => if negative then "-inf" else "inf"
  | .finite negative m e =>
    let body :=
      if m = 0 then "0.0"
      else
        let (n, k) := shortest m e
        let (digits, k) := dropZeros (Nat.toDigits 10 n) k
        decimalText digits (k + digits.length - 1)
    if negative then "-" ++ body else body

/-- A significand with its sign. -/
def signed (negative : Bool) (m : Nat) : Int :=
  if negative then -(m : Int) else m

/-- `x * 2 ^ e` equals `y * 2 ^ f`. -/
def sameScaled (x e y f : Int) : Bool :=
  if e ≤ f then x == y * twoTo (f - e).toNat else x * twoTo (e - f).toNat == y

/-- A double that equals the whole number `n`. -/
def equalsInt (n : Int) : Double → Bool
  | .finite negative m e => sameScaled (signed negative m) e n 0
  | _ => false

/-- Equality by value: the two zeros are equal, and what is not a number equals itself only. -/
def equals : Double → Double → Bool
  | .nan, .nan => true
  | .infinite a, .infinite b => a == b
  | .finite a m e, .finite b n f => sameScaled (signed a m) e (signed b n) f
  | _, _ => false

/-- The greatest whole number not above a finite double. -/
def floor? : Double → Option Int
  | .finite negative m e =>
    let signed : Int := if negative then -(m : Int) else m
    some (if 0 ≤ e then signed * twoTo e.toNat else Int.fdiv signed (twoTo (-e).toNat))
  | _ => none

/-- A double below the whole number `n`. -/
def lessThanInt (x : Double) (n : Int) : Bool :=
  match x with
  | .nan => false
  | .infinite negative => negative
  | .finite negative m e =>
    let signed : Int := if negative then -(m : Int) else m
    if 0 ≤ e then signed * twoTo e.toNat < n else signed < n * twoTo (-e).toNat

end Double

end TableInterfaces.Number
