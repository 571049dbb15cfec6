import Mathlib.Tactic.FieldSimp
import Mathlib.Tactic.Linarith
import Mathlib.Tactic.Positivity
import Mathlib.Tactic.Ring
import TableInterfaces.Proofs.Number.Double

/-!
# Rounding to doubles

A fraction is rounded in two steps: a power of two is found at which it has 53 binary digits, or the
least one of the format, and what it is at this scale is rounded to a whole number. Main statements:

* `Double.ofFraction_inFormat`: every fraction is rounded to a number of the format.
* `Double.ofFraction_of_near`: the fractions near a number of the format are rounded to it.
-/

namespace TableInterfaces.Number

/-! ## Quotients -/

theorem roundQuotient_mem (a b : Nat) :
    roundQuotient a b = a / b ∨ roundQuotient a b = a / b + 1 := by
  unfold roundQuotient
  dsimp only
  split
  · exact .inl rfl
  · split
    · exact .inr rfl
    · split
      · exact .inl rfl
      · exact .inr rfl

/-- A quotient within half a unit of a whole number is rounded to it, at half a unit if the number is
even. -/
theorem roundQuotient_eq {a b m : Nat} (hb : 0 < b) (hlow : 2 * m * b ≤ 2 * a + b)
    (hhigh : 2 * a ≤ 2 * m * b + b)
    (htie : m % 2 = 0 ∨ 2 * m * b < 2 * a + b ∧ 2 * a < 2 * m * b + b) : roundQuotient a b = m := by
  have hdiv : b * (a / b) + a % b = a := Nat.div_add_mod a b
  have hmod : a % b < b := Nat.mod_lt a hb
  unfold roundQuotient
  dsimp only
  generalize a / b = q at hdiv ⊢
  generalize a % b = r at hdiv hmod ⊢
  have hquotient : q = m ∨ q + 1 = m := by
    have hle : q < m + 1 := by
      by_contra h
      have : b * (m + 1) ≤ b * q := Nat.mul_le_mul_left b (Nat.not_lt.1 h)
      nlinarith
    have hge : m < q + 2 := by
      by_contra h
      have : b * (q + 2) ≤ b * m := Nat.mul_le_mul_left b (Nat.not_lt.1 h)
      nlinarith
    omega
  rcases hquotient with rfl | rfl
  · have hrest : 2 * r ≤ b := by nlinarith
    rw [if_neg (by omega : ¬b < 2 * r)]
    split
    · rfl
    · rcases htie with heven | ⟨_, hlt⟩
      · rw [if_pos heven]
      · have : 2 * r < b := by nlinarith
        omega
  · have hrest : b ≤ 2 * r := by nlinarith
    rw [if_neg (by omega : ¬2 * r < b)]
    split
    · rfl
    · rcases htie with heven | ⟨hlt, _⟩
      · rw [if_neg (by omega : ¬q % 2 = 0)]
      · have : b < 2 * r := by nlinarith
        omega

/-- The same for the quotient as a number. -/
theorem roundQuotient_of_near {a b m : Nat} (hb : 0 < b) (hlow : (m : ℚ) - 1 / 2 ≤ a / b)
    (hhigh : (a / b : ℚ) ≤ m + 1 / 2)
    (htie : m % 2 = 0 ∨ (m : ℚ) - 1 / 2 < a / b ∧ (a / b : ℚ) < m + 1 / 2) :
    roundQuotient a b = m := by
  have hb' : (0 : ℚ) < b := Nat.cast_pos.2 hb
  rw [le_div_iff₀ hb'] at hlow
  rw [div_le_iff₀ hb'] at hhigh
  rw [lt_div_iff₀ hb', div_lt_iff₀ hb'] at htie
  refine roundQuotient_eq hb ?_ ?_ (htie.imp id fun h => ⟨?_, ?_⟩)
  · have h : ((2 * m * b : Nat) : ℚ) ≤ (2 * a + b : Nat) := by push_cast; linarith
    exact Nat.cast_le.1 h
  · have h : ((2 * a : Nat) : ℚ) ≤ (2 * m * b + b : Nat) := by push_cast; linarith
    exact Nat.cast_le.1 h
  · have h : ((2 * m * b : Nat) : ℚ) < (2 * a + b : Nat) := by push_cast; linarith [h.1]
    exact Nat.cast_lt.1 h
  · have h : ((2 * a : Nat) : ℚ) < (2 * m * b + b : Nat) := by push_cast; linarith [h.2]
    exact Nat.cast_lt.1 h

/-! ## Scales -/

theorem twoTo_pos (n : Nat) : 0 < twoTo n :=
  Nat.pow_pos Nat.two_pos

theorem cast_twoTo (n : Nat) : (twoTo n : ℚ) = 2 ^ n := by
  simp [twoTo]

theorem zpow_two_pos (e : Int) : (0 : ℚ) < 2 ^ e :=
  zpow_pos two_pos e

/-- Scaling a fraction down divides the number it stands for. -/
theorem scaleDown_spec (num : Nat) {den : Nat} (hden : 0 < den) (e : Int) :
    0 < (scaleDown num den e).2 ∧
      ((scaleDown num den e).1 / (scaleDown num den e).2 : ℚ) = num / den / 2 ^ e := by
  have hden' : (den : ℚ) ≠ 0 := Nat.cast_ne_zero.2 hden.ne'
  unfold scaleDown
  split
  · rename_i h
    obtain ⟨n, rfl⟩ := Int.eq_ofNat_of_zero_le h
    refine ⟨Nat.mul_pos hden (twoTo_pos _), ?_⟩
    rw [Int.toNat_natCast, Nat.cast_mul, cast_twoTo, zpow_natCast, div_div]
  · rename_i h
    obtain ⟨n, hn⟩ := Int.eq_ofNat_of_zero_le (by omega : 0 ≤ -e)
    obtain rfl : e = -(n : Int) := by omega
    refine ⟨hden, ?_⟩
    rw [neg_neg, Int.toNat_natCast, Nat.cast_mul, cast_twoTo, zpow_neg, zpow_natCast,
      div_inv_eq_mul, mul_div_right_comm]

namespace Double

/-- A number has 53 binary digits before the point at the scale of `2 ^ e`, or fewer at the least
exponent of the format. -/
structure ScaledAt (q : ℚ) (e : Int) : Prop where
  least : minExponent ≤ e
  below : q < 2 ^ 53 * 2 ^ e
  above : e = minExponent ∨ 2 ^ 52 * 2 ^ e ≤ q

/-- One scale below another is at most half of it. -/
theorem scale_le {e f : Int} (h : e < f) : (2 : ℚ) ^ 53 * 2 ^ e ≤ 2 ^ 52 * 2 ^ f := by
  have hpower : (2 : ℚ) ^ (e + 1) ≤ 2 ^ f := zpow_le_zpow_right₀ one_le_two h
  rw [zpow_add_one₀ two_ne_zero] at hpower
  linarith

/-- A number has one scale. -/
theorem ScaledAt.unique {q : ℚ} {e f : Int} (he : ScaledAt q e) (hf : ScaledAt q f) : e = f := by
  have key : ∀ {e f : Int}, ScaledAt q e → ScaledAt q f → ¬e < f := by
    intro e f he hf hlt
    rcases hf.above with h | h
    · have := he.least
      omega
    · have := he.below
      have := scale_le hlt
      linarith
  have h₁ := key he hf
  have h₂ := key hf he
  omega

/-- A whole number of at most 53 binary digits at a scale, as a double: what has more carries. -/
def carried (negative : Bool) (m : Nat) (e : Int) : Double :=
  if m = 2 ^ 53 then
    if maxExponent < e + 1 then .infinite negative else .finite negative (2 ^ 52) (e + 1)
  else if maxExponent < e then .infinite negative else .finite negative m e

/-- A fraction between the powers of two that its parts have is not far from the difference. -/
theorem fraction_bounds {num den : Nat} (hnum : 0 < num) (hden : 0 < den) :
    (2 : ℚ) ^ ((num.log2 : Int) - den.log2 - 1) < num / den ∧
      (num / den : ℚ) < 2 ^ ((num.log2 : Int) - den.log2 + 1) := by
  have hden' : (0 : ℚ) < den := Nat.cast_pos.2 hden
  have hn₁ : (2 : ℚ) ^ (num.log2 : Int) ≤ num := by
    rw [zpow_natCast]
    exact_mod_cast Nat.log2_self_le hnum.ne'
  have hn₂ : (num : ℚ) < 2 ^ (num.log2 : Int) * 2 := by
    rw [zpow_natCast, ← pow_succ]
    exact_mod_cast Nat.lt_log2_self
  have hd₁ : (2 : ℚ) ^ (den.log2 : Int) ≤ den := by
    rw [zpow_natCast]
    exact_mod_cast Nat.log2_self_le hden.ne'
  have hd₂ : (den : ℚ) < 2 ^ (den.log2 : Int) * 2 := by
    rw [zpow_natCast, ← pow_succ]
    exact_mod_cast Nat.lt_log2_self
  have hpos : ∀ n : Nat, (0 : ℚ) < 2 ^ (n : Int) := fun n => zpow_two_pos n
  constructor
  · rw [zpow_sub_one₀ two_ne_zero, zpow_sub₀ two_ne_zero, lt_div_iff₀ hden', div_eq_mul_inv,
      mul_assoc, mul_assoc]
    refine lt_of_lt_of_le ?_ hn₁
    have h : ((2 : ℚ) ^ (den.log2 : Int))⁻¹ * (2⁻¹ * den) < 1 := by
      rw [inv_mul_lt_iff₀ (hpos _)]
      linarith
    exact mul_lt_of_lt_one_right (hpos _) h
  · rw [zpow_add_one₀ two_ne_zero, zpow_sub₀ two_ne_zero, div_lt_iff₀ hden', div_mul_eq_mul_div,
      div_mul_eq_mul_div, lt_div_iff₀ (hpos _)]
    have := hpos num.log2
    nlinarith

/-- A fraction is scaled and rounded. -/
theorem ofFraction_eq (negative : Bool) {num den : Nat} (hnum : 0 < num) (hden : 0 < den) :
    ∃ e, ScaledAt (num / den) e ∧ ofFraction negative num den =
      carried negative (roundQuotient (scaleDown num den e).1 (scaleDown num den e).2) e := by
  obtain ⟨hlow, hhigh⟩ := fraction_bounds hnum hden
  obtain ⟨guess, hguess⟩ : ∃ guess : Int, guess = (Nat.log2 num : Int) - Nat.log2 den - 52 := ⟨_, rfl⟩
  obtain ⟨hscaled, hquotient⟩ := scaleDown_spec num hden guess
  -- The quotient at the guess has 52 or 53 digits; `wanted` is the scale at which it has 53.
  obtain ⟨wanted, hwanted⟩ : ∃ wanted : Int, wanted =
      if (scaleDown num den guess).1 / (scaleDown num den guess).2 < twoTo 52 then guess - 1
      else guess := ⟨_, rfl⟩
  have hdigits : (2 : ℚ) ^ 52 * 2 ^ wanted ≤ num / den ∧ (num / den : ℚ) < 2 ^ 53 * 2 ^ wanted := by
    have hscale := zpow_two_pos guess
    have h52 : ∀ n : Nat, (2 : ℚ) ^ n * 2 ^ guess = 2 ^ (guess + n) := by
      intro n
      rw [zpow_add₀ two_ne_zero, zpow_natCast, mul_comm]
    have hsmall : ((scaleDown num den guess).1 / (scaleDown num den guess).2 < twoTo 52) ↔
        (num / den : ℚ) < 2 ^ 52 * 2 ^ guess := by
      rw [Nat.div_lt_iff_lt_mul hscaled, ← div_lt_iff₀ hscale, ← hquotient,
        div_lt_iff₀ (Nat.cast_pos.2 hscaled), ← Nat.cast_lt (α := ℚ), Nat.cast_mul, cast_twoTo]
    rw [hwanted]
    split
    · rename_i h
      rw [hsmall] at h
      rw [zpow_sub_one₀ two_ne_zero]
      refine ⟨?_, by linarith⟩
      have : (2 : ℚ) ^ 51 * 2 ^ guess < num / den := by
        rw [h52]
        convert hlow using 2
        push_cast
        omega
      linarith
    · rename_i h
      rw [hsmall, not_lt] at h
      refine ⟨h, ?_⟩
      rw [h52]
      convert hhigh using 2
      push_cast
      omega
  refine ⟨max wanted minExponent, ⟨Int.le_max_right _ _, ?_, ?_⟩, ?_⟩
  · refine lt_of_lt_of_le hdigits.2 ?_
    have : (2 : ℚ) ^ wanted ≤ 2 ^ (max wanted minExponent) :=
      zpow_le_zpow_right₀ one_le_two (Int.le_max_left _ _)
    linarith
  · rcases le_total wanted minExponent with h | h
    · exact .inl (max_eq_right h)
    · rw [max_eq_left h]
      exact .inr hdigits.1
  · rw [ofFraction]
    dsimp only
    rw [← hguess, ← hwanted, carried, twoTo, twoTo, Nat.pow_eq, Nat.pow_eq]
    split <;> rfl

/-! ## The format -/

/-- A significand has 53 binary digits, or fewer at the least exponent of the format. -/
structure Regular (m : Nat) (e : Int) : Prop where
  significand : m < 2 ^ 53
  least : minExponent ≤ e
  greatest : e ≤ maxExponent
  normal : e = minExponent ∨ 2 ^ 52 ≤ m

/-- The finite numbers of the format are the regular ones. -/
def InFormat : Double → Prop
  | .finite _ m e => Regular m e
  | _ => True

/-- What carries is of the format. -/
theorem carried_inFormat {negative : Bool} {m : Nat} {e : Int} (hm : m ≤ 2 ^ 53)
    (hleast : minExponent ≤ e) (hnormal : e = minExponent ∨ 2 ^ 52 ≤ m) :
    (carried negative m e).InFormat := by
  unfold carried
  split
  · split
    · exact trivial
    · exact ⟨by decide, by omega, by omega, .inr (Nat.le_refl _)⟩
  · rename_i hne
    split
    · exact trivial
    · exact ⟨Nat.lt_of_le_of_ne hm hne, hleast, by omega, hnormal⟩

/-- A fraction is rounded to a number of the format. -/
theorem ofFraction_inFormat (negative : Bool) {num den : Nat} (hnum : 0 < num) (hden : 0 < den) :
    (ofFraction negative num den).InFormat := by
  obtain ⟨e, hscale, h⟩ := ofFraction_eq negative hnum hden
  obtain ⟨hpos, hquotient⟩ := scaleDown_spec num hden e
  rw [h]
  have hround := roundQuotient_mem (scaleDown num den e).1 (scaleDown num den e).2
  refine carried_inFormat ?_ hscale.least (hscale.above.imp id fun habove => ?_)
  · have : (scaleDown num den e).1 / (scaleDown num den e).2 < 2 ^ 53 := by
      rw [Nat.div_lt_iff_lt_mul hpos, ← Nat.cast_lt (α := ℚ), Nat.cast_mul,
        ← div_lt_iff₀ (Nat.cast_pos.2 hpos), hquotient, div_lt_iff₀ (zpow_two_pos e)]
      exact_mod_cast hscale.below
    omega
  · have : 2 ^ 52 ≤ (scaleDown num den e).1 / (scaleDown num den e).2 := by
      rw [Nat.le_div_iff_mul_le hpos, ← Nat.cast_le (α := ℚ), Nat.cast_mul,
        ← le_div_iff₀ (Nat.cast_pos.2 hpos), hquotient, le_div_iff₀ (zpow_two_pos e)]
      exact_mod_cast habove
    omega

/-! ## Numbers near a double -/

/-- How far below a double the numbers lie that are rounded to it: half a unit, and a quarter of a
unit below a power of two, where the grid is finer. -/
def slack (m : Nat) (e : Int) : ℚ :=
  if m = 2 ^ 52 ∧ minExponent < e then 1 / 4 else 1 / 2

/-- A number lies within half a unit of a double; the ends count if the significand is even. -/
structure Near (m : Nat) (e : Int) (q : ℚ) : Prop where
  low : m - slack m e ≤ q / 2 ^ e
  high : q / 2 ^ e ≤ m + 1 / 2
  inner : m % 2 = 0 ∨ m - slack m e < q / 2 ^ e ∧ q / 2 ^ e < m + 1 / 2

theorem slack_le (m : Nat) (e : Int) : slack m e ≤ 1 / 2 := by
  unfold slack
  split <;> norm_num

/-- The fractions near a positive number of the format are rounded to it. -/
theorem ofFraction_of_near {negative : Bool} {num den m : Nat} {e : Int} (hnum : 0 < num)
    (hden : 0 < den) (hregular : Regular m e) (hnear : Near m e (num / den)) :
    ofFraction negative num den = .finite negative m e := by
  obtain ⟨f, hscale, h⟩ := ofFraction_eq negative hnum hden
  have hunit := zpow_two_pos e
  have hslack := slack_le m e
  have hm : (m : ℚ) + 1 ≤ 2 ^ 53 := by exact_mod_cast hregular.significand
  rw [h]
  by_cases hfine : e = minExponent ∨ (2 : ℚ) ^ 52 * 2 ^ e ≤ num / den
  · have hbelow : (num / den : ℚ) < 2 ^ 53 * 2 ^ e := by
      have := (div_le_iff₀ hunit).1 hnear.high
      nlinarith
    obtain rfl : f = e := hscale.unique ⟨hregular.least, hbelow, hfine⟩
    obtain ⟨hpos, hquotient⟩ := scaleDown_spec num hden f
    have hround : roundQuotient (scaleDown num den f).1 (scaleDown num den f).2 = m := by
      refine roundQuotient_of_near hpos ?_ ?_ (hnear.inner.imp id fun hinner => ⟨?_, ?_⟩) <;>
        rw [hquotient]
      · linarith [hnear.low]
      · exact hnear.high
      · linarith [hinner.1]
      · exact hinner.2
    have hgreatest := hregular.greatest
    rw [hround, carried, if_neg hregular.significand.ne, if_neg (by omega)]
  · -- Just below a power of two the grid is finer: the fraction is rounded up and carries.
    obtain ⟨hleast, hbelow⟩ := not_or.1 hfine
    rw [not_le, ← div_lt_iff₀ hunit] at hbelow
    have hlow := hnear.low
    obtain rfl : m = 2 ^ 52 := by
      have hge := hregular.normal.resolve_left hleast
      by_contra hne
      have : ((2 ^ 52 + 1 : Nat) : ℚ) ≤ m := Nat.cast_le.2 (by omega)
      push_cast at this
      linarith
    have hmin := hregular.least
    rw [slack, if_pos ⟨rfl, by omega⟩] at hlow
    push_cast at hlow
    have hhalf : (2 : ℚ) ^ e = 2 * 2 ^ (e - 1) := by
      rw [zpow_sub_one₀ two_ne_zero]
      ring
    have hunit' := zpow_two_pos (e - 1)
    rw [hhalf, ← div_div, div_right_comm] at hlow hbelow
    obtain rfl : f = e - 1 := by
      refine hscale.unique ⟨by omega, ?_, .inr ?_⟩
      · rw [← div_lt_iff₀ hunit']
        linarith
      · rw [← le_div_iff₀ hunit']
        linarith
    obtain ⟨hpos, hquotient⟩ := scaleDown_spec num hden (e - 1)
    have hround : roundQuotient (scaleDown num den (e - 1)).1 (scaleDown num den (e - 1)).2 =
        2 ^ 53 := by
      refine roundQuotient_of_near hpos ?_ ?_ (.inl (by decide)) <;> rw [hquotient] <;> push_cast <;>
        linarith
    have hgreatest := hregular.greatest
    rw [hround, carried, if_pos rfl, if_neg (by omega), sub_add_cancel]

end Double

end TableInterfaces.Number
