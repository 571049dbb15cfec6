import Mathlib.Data.Nat.Digits.Defs
import TableInterfaces.Proofs.Number.Rounding

/-!
# The shortest digits of a double

The digits that are written for a double are rounded back to it: seventeen digits always suffice,
because their grid is finer than that of the format. Main statements:

* `Double.shortest_near`: the shortest digits lie near the double.
* `Double.ofDecimal_of_near`: decimal numbers near a double are read as it.
-/

namespace TableInterfaces.Number

/-! ## Decimal fractions -/

theorem tenTo_pos (n : Nat) : 0 < tenTo n :=
  Nat.pow_pos (by decide)

theorem cast_tenTo (n : Nat) : (tenTo n : ℚ) = 10 ^ n := by
  simp [tenTo]

theorem zpow_ten_pos (k : Int) : (0 : ℚ) < 10 ^ k :=
  zpow_pos (by norm_num) k

/-- A positive number lies between the powers of ten that its length says. -/
theorem decimalLength_bounds {n : Nat} (hn : 0 < n) :
    (10 : ℚ) ^ ((decimalLength n : Int) - 1) ≤ n ∧ (n : ℚ) < 10 ^ (decimalLength n : Int) := by
  have hlength : decimalLength n = (Nat.toDigits 10 n).length := if_neg hn.ne'
  have hpos : 0 < (Nat.toDigits 10 n).length := Nat.length_toDigits_pos
  rw [hlength]
  constructor
  · obtain ⟨k, hk⟩ := Nat.exists_eq_add_of_lt hpos
    rw [hk, zero_add, Nat.cast_add, Nat.cast_one, add_sub_cancel_right, zpow_natCast]
    rcases Nat.eq_zero_or_pos k with rfl | hkpos
    · exact_mod_cast hn
    · have hge : ¬n < 10 ^ k := by
        rw [← Nat.length_toDigits_le_iff (by decide) hkpos]
        omega
      exact_mod_cast Nat.not_lt.1 hge
  · rw [zpow_natCast]
    exact_mod_cast (Nat.length_toDigits_le_iff (by decide) hpos).1 (Nat.le_refl _)

namespace Double

variable {m : Nat} {e : Int}

/-- The fraction of a double stands for its value. -/
theorem fraction_spec (m : Nat) (e : Int) :
    0 < (fraction m e).2 ∧ ((fraction m e).1 / (fraction m e).2 : ℚ) = m * 2 ^ e := by
  unfold fraction
  split
  · rename_i h
    obtain ⟨n, rfl⟩ := Int.eq_ofNat_of_zero_le h
    refine ⟨Nat.one_pos, ?_⟩
    rw [Int.toNat_natCast, Nat.cast_mul, cast_twoTo, Nat.cast_one, div_one, zpow_natCast]
  · rename_i h
    obtain ⟨n, hn⟩ := Int.eq_ofNat_of_zero_le (by omega : 0 ≤ -e)
    obtain rfl : e = -(n : Int) := by omega
    refine ⟨twoTo_pos _, ?_⟩
    rw [neg_neg, Int.toNat_natCast, cast_twoTo, zpow_neg, zpow_natCast, div_eq_mul_inv]

/-- A point of a decimal grid stands for its digits. -/
theorem gridPoint_spec (digits : Nat) (k : Int) :
    0 < (gridPoint digits k).2 ∧
      ((gridPoint digits k).1 / (gridPoint digits k).2 : ℚ) = digits * 10 ^ k := by
  unfold gridPoint
  split
  · rename_i h
    obtain ⟨n, rfl⟩ := Int.eq_ofNat_of_zero_le h
    refine ⟨Nat.one_pos, ?_⟩
    rw [Int.toNat_natCast, Nat.cast_mul, cast_tenTo, Nat.cast_one, div_one, zpow_natCast]
  · rename_i h
    obtain ⟨n, hn⟩ := Int.eq_ofNat_of_zero_le (by omega : 0 ≤ -k)
    obtain rfl : k = -(n : Int) := by omega
    refine ⟨tenTo_pos _, ?_⟩
    rw [neg_neg, Int.toNat_natCast, cast_tenTo, zpow_neg, zpow_natCast, div_eq_mul_inv]

/-- The decimal exponent of a fraction is not too large. -/
theorem decimalExponent_le {num den : Nat} (hnum : 0 < num) (hden : 0 < den) :
    (10 : ℚ) ^ decimalExponent num den ≤ num / den := by
  have hnum' : (0 : ℚ) < num := Nat.cast_pos.2 hnum
  have hden' : (0 : ℚ) < den := Nat.cast_pos.2 hden
  unfold decimalExponent
  split
  · rename_i h
    refine (decimalLength_bounds (Nat.div_pos h hden)).1.trans ?_
    rw [le_div_iff₀ hden']
    exact_mod_cast Nat.div_mul_le_self num den
  · rename_i h
    have hpos : 0 < den / num := Nat.div_pos (Nat.le_of_lt (Nat.not_le.1 h)) hnum
    have hlength : 0 < decimalLength (den / num) := by
      unfold decimalLength
      rw [if_neg hpos.ne']
      exact Nat.length_toDigits_pos
    dsimp only
    split
    · rename_i hle
      obtain ⟨k, hk⟩ := Nat.exists_eq_add_of_lt hlength
      rw [zero_add] at hk
      rw [hk] at hle ⊢
      rw [Nat.add_sub_cancel] at hle
      rw [Nat.cast_add, Nat.cast_one, add_sub_cancel_right, zpow_neg, zpow_natCast,
        inv_le_comm₀ (by positivity) (by positivity), inv_div, div_le_iff₀ hnum', mul_comm,
        ← cast_tenTo]
      exact_mod_cast hle
    · rw [zpow_neg, inv_le_comm₀ (zpow_ten_pos _) (by positivity), inv_div, div_le_iff₀ hnum',
        zpow_natCast]
      have hlt := (decimalLength_bounds hpos).2
      rw [zpow_natCast] at hlt
      have hlt : den / num < 10 ^ decimalLength (den / num) := by exact_mod_cast hlt
      exact_mod_cast (Nat.div_lt_iff_lt_mul hnum |>.1 hlt).le

/-! ## Points that round back -/

/-- The lower end of what rounds back to a double, in quarters of a unit. -/
def lowEnd (m : Nat) (e : Int) : Nat :=
  if m = 2 ^ 52 ∧ minExponent < e then 4 * m - 1 else 4 * m - 2

theorem cast_lowEnd (hm : 0 < m) (e : Int) : (lowEnd m e : ℚ) = 4 * (m - slack m e) := by
  unfold lowEnd slack
  split <;> rw [Nat.cast_sub (by omega)] <;> push_cast <;> ring

/-- The test whether a point rounds back, by its quotient. -/
theorem roundsBack_eq (m : Nat) (e : Int) (point : Nat × Nat) : roundsBack m e point =
    if m % 2 = 0 then
      decide (lowEnd m e * (scaleDown point.1 point.2 (e - 2)).2 ≤
        (scaleDown point.1 point.2 (e - 2)).1) &&
      decide ((scaleDown point.1 point.2 (e - 2)).1 ≤
        (4 * m + 2) * (scaleDown point.1 point.2 (e - 2)).2)
    else
      decide (lowEnd m e * (scaleDown point.1 point.2 (e - 2)).2 <
        (scaleDown point.1 point.2 (e - 2)).1) &&
      decide ((scaleDown point.1 point.2 (e - 2)).1 <
        (4 * m + 2) * (scaleDown point.1 point.2 (e - 2)).2) :=
  rfl

/-- A point rounds back just where it lies near the double. -/
theorem roundsBack_iff (hm : 0 < m) {point : Nat × Nat} (hpos : 0 < point.2) :
    roundsBack m e point = true ↔ Near m e (point.1 / point.2) := by
  obtain ⟨hscaled, hquotient⟩ := scaleDown_spec point.1 hpos (e - 2)
  rw [roundsBack_eq]
  generalize (scaleDown point.1 point.2 (e - 2)).1 = a at hquotient ⊢
  generalize (scaleDown point.1 point.2 (e - 2)).2 = b at hquotient hscaled ⊢
  generalize (point.1 / point.2 : ℚ) = q at hquotient ⊢
  have hscaled' : (0 : ℚ) < b := Nat.cast_pos.2 hscaled
  have hquarters : (a / b : ℚ) = 4 * (q / 2 ^ e) := by
    rw [hquotient, zpow_sub₀ two_ne_zero, div_div_eq_mul_div]
    norm_num
    ring
  have hlow := cast_lowEnd hm e
  have hhigh : ((4 * m + 2 : Nat) : ℚ) = 4 * (m + 1 / 2) := by
    push_cast
    ring
  have hle : ∀ {n : Nat} {y : ℚ}, (n : ℚ) = 4 * y →
      (n * b ≤ a ↔ y ≤ q / 2 ^ e) ∧ (n * b < a ↔ y < q / 2 ^ e) := by
    intro n y hn
    rw [← Nat.cast_le (α := ℚ), ← Nat.cast_lt (α := ℚ), Nat.cast_mul, ← le_div_iff₀ hscaled',
      ← lt_div_iff₀ hscaled', hn, hquarters]
    constructor <;> constructor <;> intro h <;> linarith
  have hge : ∀ {n : Nat} {y : ℚ}, (n : ℚ) = 4 * y →
      (a ≤ n * b ↔ q / 2 ^ e ≤ y) ∧ (a < n * b ↔ q / 2 ^ e < y) := by
    intro n y hn
    rw [← Nat.cast_le (α := ℚ), ← Nat.cast_lt (α := ℚ), Nat.cast_mul, ← div_le_iff₀ hscaled',
      ← div_lt_iff₀ hscaled', hn, hquarters]
    constructor <;> constructor <;> intro h <;> linarith
  split
  · rename_i heven
    rw [Bool.and_eq_true, decide_eq_true_iff, decide_eq_true_iff, (hle hlow).1, (hge hhigh).1]
    exact ⟨fun h => ⟨h.1, h.2, .inl heven⟩, fun h => ⟨h.low, h.high⟩⟩
  · rename_i hodd
    rw [Bool.and_eq_true, decide_eq_true_iff, decide_eq_true_iff, (hle hlow).2, (hge hhigh).2]
    exact ⟨fun h => ⟨h.1.le, h.2.le, .inr h⟩, fun h => h.inner.resolve_left hodd⟩

/-! ## The shortest digits -/

/-- What is near a positive double is positive. -/
theorem Near.pos {q : ℚ} (hm : 0 < m) (h : Near m e q) : 0 < q := by
  have hlow := h.low
  have hslack := slack_le m e
  have hm' : (1 : ℚ) ≤ m := by exact_mod_cast hm
  have hquotient : 0 < q / 2 ^ e := by linarith
  have := (lt_div_iff₀ (zpow_two_pos e)).1 hquotient
  rwa [zero_mul] at this

/-- A fraction at the scale of a decimal grid. -/
def onGrid (num den : Nat) (k : Int) : Nat × Nat :=
  if 0 ≤ k then (num, den * tenTo k.toNat) else (num * tenTo (-k).toNat, den)

theorem onGrid_spec (num : Nat) {den : Nat} (hden : 0 < den) (k : Int) :
    0 < (onGrid num den k).2 ∧
      ((onGrid num den k).1 / (onGrid num den k).2 : ℚ) = num / den / 10 ^ k := by
  unfold onGrid
  split
  · rename_i h
    obtain ⟨n, rfl⟩ := Int.eq_ofNat_of_zero_le h
    refine ⟨Nat.mul_pos hden (tenTo_pos _), ?_⟩
    rw [Int.toNat_natCast, Nat.cast_mul, cast_tenTo, zpow_natCast, div_div]
  · rename_i h
    obtain ⟨n, hn⟩ := Int.eq_ofNat_of_zero_le (by omega : 0 ≤ -k)
    obtain rfl : k = -(n : Int) := by omega
    refine ⟨hden, ?_⟩
    rw [neg_neg, Int.toNat_natCast, Nat.cast_mul, cast_tenTo, zpow_neg, zpow_natCast,
      div_inv_eq_mul, mul_div_right_comm]

/-- The point that is found, by the fraction on the grid. -/
theorem nearestPoint?_eq (num den : Nat) (k : Int) (p : Nat × Nat → Bool) :
    nearestPoint? num den k p =
      let below := (onGrid num den k).1 / (onGrid num den k).2
      let rest := (onGrid num den k).1 % (onGrid num den k).2
      if p (gridPoint below k) && p (gridPoint (below + 1) k) then
        if 2 * rest < (onGrid num den k).2 then some below
        else if (onGrid num den k).2 < 2 * rest then some (below + 1)
        else some (if below % 2 = 0 then below else below + 1)
      else if p (gridPoint below k) then some below
      else if p (gridPoint (below + 1) k) then some (below + 1)
      else none :=
  rfl

/-- The point that is found satisfies the test. -/
theorem nearestPoint?_some {num den digits : Nat} {k : Int} {p : Nat × Nat → Bool}
    (h : nearestPoint? num den k p = some digits) : p (gridPoint digits k) = true := by
  rw [nearestPoint?_eq] at h
  dsimp only at h
  split at h
  · rename_i hboth
    obtain ⟨hlow, hhigh⟩ := Bool.and_eq_true_iff.1 hboth
    split at h
    · cases h
      exact hlow
    · split at h
      · cases h
        exact hhigh
      · split at h <;> cases h <;> assumption
  · split at h
    · cases h
      assumption
    · split at h
      · cases h
        assumption
      · cases h

/-- A point is found where one of the two around the fraction satisfies the test. -/
theorem nearestPoint?_isSome {num den : Nat} {k : Int} {p : Nat × Nat → Bool}
    (h : p (gridPoint ((onGrid num den k).1 / (onGrid num den k).2) k) = true ∨
      p (gridPoint ((onGrid num den k).1 / (onGrid num den k).2 + 1) k) = true) :
    (nearestPoint? num den k p).isSome = true := by
  rw [nearestPoint?_eq]
  dsimp only
  split
  · split
    · rfl
    · split <;> rfl
  · split
    · rfl
    · rename_i hlow
      rw [if_pos (h.resolve_left hlow)]
      rfl

/-- Seventeen digits suffice: one of the two points around a double on the grid of seventeen digits
rounds back. -/
theorem seventeen_digits (hregular : Regular m e) (hm : 0 < m) {top : Int}
    (htop : (10 : ℚ) ^ top ≤ m * 2 ^ e) {num den : Nat} (hden : 0 < den)
    (hvalue : (num / den : ℚ) = m * 2 ^ e) :
    (nearestPoint? num den (top - 16) (roundsBack m e)).isSome = true := by
  obtain ⟨hgrid, hquotient⟩ := onGrid_spec num hden (top - 16)
  apply nearestPoint?_isSome
  generalize (onGrid num den (top - 16)).1 = a at hquotient ⊢
  generalize (onGrid num den (top - 16)).2 = b at hquotient hgrid ⊢
  obtain ⟨g, hg⟩ : ∃ g : ℚ, g = 10 ^ (top - 16) := ⟨_, rfl⟩
  have hunit := zpow_two_pos e
  have hgpos : 0 < g := hg ▸ zpow_ten_pos _
  -- The step of the grid is smaller than a unit, and than half a unit below a power of two.
  have hstep : g * 10 ^ 16 ≤ m * 2 ^ e := by
    rw [hg, zpow_sub₀ (by norm_num : (10 : ℚ) ≠ 0)]
    norm_num
    exact htop
  have hslack : g / 2 < slack m e * 2 ^ e := by
    unfold slack
    split
    · rename_i hpower
      rw [hpower.1] at hstep
      push_cast at hstep
      linarith
    · have hbound : (m : ℚ) + 1 ≤ 2 ^ 53 := by exact_mod_cast hregular.significand
      nlinarith
  have hhalf : g / 2 < 1 / 2 * 2 ^ e := by
    have := slack_le m e
    nlinarith
  have hvalue' : (m : ℚ) * 2 ^ e = a / b * g := by
    rw [hquotient, hvalue, ← hg, div_mul_cancel₀ _ hgpos.ne']
  have hfloor : ((a / b : Nat) : ℚ) ≤ a / b ∧ (a / b : ℚ) < (a / b : Nat) + 1 := by
    have hgrid' : (0 : ℚ) < b := Nat.cast_pos.2 hgrid
    rw [le_div_iff₀ hgrid', div_lt_iff₀ hgrid']
    constructor
    · exact_mod_cast Nat.div_mul_le_self a b
    · exact_mod_cast Nat.lt_mul_of_div_lt (Nat.lt_succ_self (a / b)) hgrid
  have hnear : ∀ digits : Nat, (m : ℚ) * 2 ^ e - g / 2 ≤ digits * g → digits * g ≤ m * 2 ^ e + g / 2 →
      roundsBack m e (gridPoint digits (top - 16)) = true := by
    intro digits hlow hhigh
    obtain ⟨hpoint, hdigits⟩ := gridPoint_spec digits (top - 16)
    rw [roundsBack_iff hm hpoint, hdigits, ← hg]
    have hlow' : m - slack m e < digits * g / 2 ^ e := by
      rw [lt_div_iff₀ hunit]
      linarith
    have hhigh' : digits * g / 2 ^ e < m + 1 / 2 := by
      rw [div_lt_iff₀ hunit]
      linarith
    exact ⟨hlow'.le, hhigh'.le, .inr ⟨hlow', hhigh'⟩⟩
  rcases le_total ((a / b : ℚ) - (a / b : Nat)) (1 / 2) with h | h
  · refine .inl (hnear _ ?_ ?_) <;> rw [hvalue'] <;> nlinarith
  · refine .inr (hnear _ ?_ ?_) <;> rw [hvalue'] <;> push_cast <;> nlinarith

/-- **The shortest digits round back.** They lie near the double they are written for. -/
theorem shortest_near (hregular : Regular m e) (hm : 0 < m) :
    Near m e ((shortest m e).1 * 10 ^ (shortest m e).2) := by
  obtain ⟨hden, hvalue⟩ := fraction_spec m e
  have hpos : (0 : ℚ) < m * 2 ^ e := mul_pos (Nat.cast_pos.2 hm) (zpow_two_pos e)
  have hnum : 0 < (fraction m e).1 := by
    rcases Nat.eq_zero_or_pos (fraction m e).1 with h | h
    · rw [h, Nat.cast_zero, zero_div] at hvalue
      exact absurd hvalue hpos.ne
    · exact h
  unfold shortest
  dsimp only
  generalize hhit : (List.range 17).findSome? _ = hit
  cases hit with
  | none =>
    have hlast := List.findSome?_eq_none_iff.1 hhit 16 (by decide)
    have htop := (decimalExponent_le hnum hden).trans_eq hvalue
    have hsome := seventeen_digits hregular hm htop hden hvalue
    rw [Option.map_eq_none_iff, Nat.cast_ofNat] at hlast
    rw [hlast] at hsome
    cases hsome
  | some found =>
    obtain ⟨n, _, hn⟩ := List.exists_of_findSome?_eq_some hhit
    obtain ⟨digits, hdigits, rfl⟩ := Option.map_eq_some_iff.1 hn
    obtain ⟨hpoint, hgrid⟩ := gridPoint_spec digits
      (decimalExponent (fraction m e).1 (fraction m e).2 - n)
    rw [Option.getD_some, ← hgrid]
    exact (roundsBack_iff hm hpoint).1 (nearestPoint?_some hdigits)

/-! ## Reading decimal numbers -/

theorem two_pow_lt_ten_pow : (2 : Nat) ^ 1075 < 10 ^ 330 ∧ (2 : Nat) ^ 1024 < 10 ^ 309 := by
  decide +kernel

/-- Doubles lie between the powers of ten at which reading gives up. -/
theorem Near.bounds {q : ℚ} (hregular : Regular m e) (hm : 0 < m) (h : Near m e q) :
    (10 : ℚ) ^ (-330 : Int) < q ∧ q < 10 ^ (309 : Int) := by
  have hunit := zpow_two_pos e
  have hm' : (1 : ℚ) ≤ m := by exact_mod_cast hm
  have hbound : (m : ℚ) + 1 ≤ 2 ^ 53 := by exact_mod_cast hregular.significand
  have hslack := slack_le m e
  constructor
  · calc (10 : ℚ) ^ (-330 : Int) < 2 ^ (-1075 : Int) := by
          rw [zpow_neg, zpow_neg, inv_lt_inv₀ (zpow_ten_pos _) (zpow_two_pos _)]
          exact_mod_cast two_pow_lt_ten_pow.1
      _ = 1 / 2 * 2 ^ minExponent := by
          rw [show (-1075 : Int) = minExponent - 1 from rfl, zpow_sub_one₀ two_ne_zero, mul_comm,
            one_div]
      _ ≤ (m - slack m e) * 2 ^ e :=
          mul_le_mul (by linarith) (zpow_le_zpow_right₀ one_le_two hregular.least)
            (zpow_two_pos _).le (by linarith)
      _ ≤ q := (le_div_iff₀ hunit).1 h.low
  · calc q ≤ (m + 1 / 2) * 2 ^ e := (div_le_iff₀ hunit).1 h.high
      _ ≤ 2 ^ (53 : Int) * 2 ^ maxExponent :=
          mul_le_mul ((by linarith : (m : ℚ) + 1 / 2 ≤ 2 ^ 53).trans_eq (zpow_ofNat 2 53).symm)
            (zpow_le_zpow_right₀ one_le_two hregular.greatest) hunit.le (zpow_two_pos _).le
      _ = 2 ^ (1024 : Int) := (zpow_add₀ two_ne_zero 53 maxExponent).symm
      _ < 10 ^ (309 : Int) := by exact_mod_cast two_pow_lt_ten_pow.2

/-- **Decimal numbers near a double are read as it.** -/
theorem ofDecimal_of_near {negative : Bool} {digits : Nat} {k : Int} (hregular : Regular m e)
    (hm : 0 < m) (h : Near m e (digits * 10 ^ k)) :
    ofDecimal negative digits k = .finite negative m e := by
  have hdigits : 0 < digits := by
    rcases Nat.eq_zero_or_pos digits with rfl | hpos
    · have := h.pos hm
      rw [Nat.cast_zero, zero_mul] at this
      exact absurd this (lt_irrefl 0)
    · exact hpos
  obtain ⟨hlow, hhigh⟩ := decimalLength_bounds hdigits
  obtain ⟨hsmall, hlarge⟩ := h.bounds hregular hm
  have hten : (0 : ℚ) < 10 ^ k := zpow_ten_pos k
  have hten' : (10 : ℚ) ≠ 0 := by norm_num
  have hfew : ¬(decimalLength digits : Int) + k < -330 := by
    intro hlt
    have hupper : (digits : ℚ) * 10 ^ k < 10 ^ ((decimalLength digits : Int) + k) := by
      rw [zpow_add₀ hten']
      exact mul_lt_mul_of_pos_right hhigh hten
    have : (10 : ℚ) ^ ((decimalLength digits : Int) + k) ≤ 10 ^ (-330 : Int) :=
      zpow_le_zpow_right₀ (by norm_num) hlt.le
    linarith
  have hmany : ¬310 < (decimalLength digits : Int) + k := by
    intro hlt
    have hlower : (10 : ℚ) ^ ((decimalLength digits : Int) - 1 + k) ≤ digits * 10 ^ k := by
      rw [zpow_add₀ hten']
      exact mul_le_mul_of_nonneg_right hlow hten.le
    have : (10 : ℚ) ^ (309 : Int) ≤ 10 ^ ((decimalLength digits : Int) - 1 + k) :=
      zpow_le_zpow_right₀ (by norm_num) (by omega)
    linarith
  unfold ofDecimal
  dsimp only
  rw [if_neg (not_or.2 ⟨hdigits.ne', hfew⟩), if_neg hmany]
  split
  · rename_i hk
    obtain ⟨n, rfl⟩ := Int.eq_ofNat_of_zero_le hk
    refine ofFraction_of_near (Nat.mul_pos hdigits (tenTo_pos _)) Nat.one_pos hregular ?_
    rw [Int.toNat_natCast, Nat.cast_mul, cast_tenTo, Nat.cast_one, div_one]
    rwa [zpow_natCast] at h
  · rename_i hk
    obtain ⟨n, hn⟩ := Int.eq_ofNat_of_zero_le (by omega : 0 ≤ -k)
    obtain rfl : k = -(n : Int) := by omega
    refine ofFraction_of_near hdigits (tenTo_pos _) hregular ?_
    rw [neg_neg, Int.toNat_natCast, cast_tenTo, div_eq_mul_inv]
    rwa [zpow_neg, zpow_natCast] at h

/-- Decimal numbers are read as numbers of the format. -/
theorem ofDecimal_inFormat (negative : Bool) (digits : Nat) (k : Int) :
    (ofDecimal negative digits k).InFormat := by
  unfold ofDecimal
  dsimp only
  split
  · exact ⟨by decide, Int.le_refl _, by decide, .inl rfl⟩
  · rename_i h
    have hdigits : 0 < digits := Nat.pos_of_ne_zero (not_or.1 h).1
    split
    · exact trivial
    · split
      · exact ofFraction_inFormat negative (Nat.mul_pos hdigits (tenTo_pos _)) Nat.one_pos
      · exact ofFraction_inFormat negative hdigits (tenTo_pos _)

end Double

end TableInterfaces.Number
