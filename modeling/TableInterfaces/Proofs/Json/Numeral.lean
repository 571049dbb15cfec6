import TableInterfaces.Json.Token
import TableInterfaces.Proofs.Number.Shortest

/-!
# Numerals

A numeral is read from its parts: a sign, the digits before the point, those behind it, and an
exponent. Main statements:

* `numeral_int`: a written whole number is read as itself.
* `numeral_double`: the shortest digits of a double are read as the double.
-/

namespace TableInterfaces.Json

open TableInterfaces.Number

/-! ## Rows of digits -/

/-- A text goes on with something else than a digit. -/
def NoDigit (rest : List Char) : Prop :=
  ∀ c, rest.head? = some c → c.isDigit = false

/-- A row of digits ends where no digit follows. -/
theorem takeWhile_digits {digits rest : List Char} (hdigits : ∀ c ∈ digits, c.isDigit = true)
    (hrest : NoDigit rest) : (digits ++ rest).takeWhile Char.isDigit = digits := by
  rw [List.takeWhile_append_of_pos hdigits]
  cases rest with
  | nil => rw [List.takeWhile_nil, List.append_nil]
  | cons c rest =>
    rw [List.takeWhile_cons_of_neg (by rw [hrest c rfl]; decide), List.append_nil]

theorem digitsNumber_eq (digits : List Char) :
    digitsNumber digits = Nat.ofDigitChars 10 digits 0 :=
  Nat.ofDigitChars_eq_foldl.symm

theorem digitsNumber_toDigits (n : Nat) : digitsNumber (Nat.toDigits 10 n) = n := by
  rw [digitsNumber_eq, Nat.ofDigitChars_ten_toDigits]

theorem digitsNumber_zeros_append (n : Nat) (digits : List Char) :
    digitsNumber (List.replicate n '0' ++ digits) = digitsNumber digits := by
  rw [digitsNumber_eq, digitsNumber_eq, Nat.ofDigitChars_append, Nat.ofDigitChars_replicate_zero,
    Nat.mul_zero]

theorem digitsNumber_append_zeros (digits : List Char) (n : Nat) :
    digitsNumber (digits ++ List.replicate n '0') = digitsNumber digits * 10 ^ n := by
  rw [digitsNumber_eq, digitsNumber_eq, Nat.ofDigitChars_append, Nat.ofDigitChars_replicate_zero,
    Nat.mul_comm]

theorem isDigit_of_mem_toDigits {n : Nat} {c : Char} (h : c ∈ Nat.toDigits 10 n) :
    c.isDigit = true :=
  Nat.isDigit_of_mem_toDigits (by decide) (by decide) h

/-! ## Parts of numerals -/

/-- The digits before the point of a numeral: a zero, or a row that starts otherwise. -/
inductive IsWhole : List Char → Prop where
  | zero : IsWhole ['0']
  | row {d : Char} {ds : List Char} : d ≠ '0' → (∀ c ∈ d :: ds, c.isDigit = true) →
      IsWhole (d :: ds)

/-- Digits behind a point, if there are any. -/
def pointed (fraction : List Char) : List Char :=
  if fraction.isEmpty then [] else '.' :: fraction

/-- The sign of a numeral. -/
def signText (negative : Bool) : List Char :=
  if negative then ['-'] else []

theorem IsWhole.isDigit {whole : List Char} (h : IsWhole whole) : ∀ c ∈ whole, c.isDigit = true := by
  cases h with
  | zero =>
    intro c hc
    rw [List.mem_singleton.1 hc]
    rfl
  | row _ hdigits => exact hdigits

theorem IsWhole.ne_nil {whole : List Char} (h : IsWhole whole) : whole ≠ [] := by
  cases h <;> exact List.cons_ne_nil _ _

theorem ne_of_isDigit {c d : Char} (hc : c.isDigit = true) (hd : d.isDigit = false) : c ≠ d := by
  rintro rfl
  rw [hc] at hd
  cases hd

theorem wholeDigits_append {whole rest : List Char} (h : IsWhole whole) (hrest : NoDigit rest) :
    wholeDigits (whole ++ rest) = whole := by
  cases h with
  | zero => rfl
  | row hd hdigits =>
    unfold wholeDigits
    split
    · rename_i heq
      cases heq
      exact absurd rfl hd
    · exact takeWhile_digits hdigits hrest

theorem fractionDigits_pointed {fraction tail : List Char}
    (hfraction : ∀ c ∈ fraction, c.isDigit = true) (htail : NoDigit tail)
    (hpoint : fraction = [] → tail.head? ≠ some '.') :
    fractionDigits (pointed fraction ++ tail) = fraction := by
  unfold pointed fractionDigits
  cases fraction with
  | nil =>
    split
    · rename_i heq
      cases heq
      exact absurd rfl (hpoint rfl)
    · rfl
  | cons c rest => exact takeWhile_digits hfraction htail

theorem length_pointed (fraction : List Char) :
    (pointed fraction).length = if fraction.isEmpty then 0 else 1 + fraction.length := by
  unfold pointed
  split
  · rfl
  · rw [List.length_cons, Nat.add_comm]

theorem noDigit_pointed {fraction tail : List Char} (htail : NoDigit tail) :
    NoDigit (pointed fraction ++ tail) := by
  unfold pointed
  cases fraction with
  | nil => exact htail
  | cons c rest =>
    intro d hd
    cases hd
    rfl

/-- A numeral is read from its parts. -/
theorem scanNumber?_parts (negative : Bool) {whole : List Char} (fraction tail : List Char)
    (hwhole : IsWhole whole)
    (hfraction : ∀ c ∈ fraction, c.isDigit = true) (htail : NoDigit tail)
    (hpoint : fraction = [] → tail.head? ≠ some '.') :
    scanNumber? (signText negative ++ (whole ++ (pointed fraction ++ tail))) =
      some (if fraction.isEmpty && (exponentPart? tail).isNone then
          if maxDigits < whole.length then .longNumber whole.length
          else .constant (.int (Double.signed negative (digitsNumber whole)))
        else .constant (.float (Double.ofDecimal negative (digitsNumber (whole ++ fraction))
          (((exponentPart? tail).map (·.2)).getD 0 - fraction.length))),
        (signText negative).length + whole.length + (pointed fraction).length +
          ((exponentPart? tail).map (·.1)).getD 0) := by
  have hsign : ((signText negative ++ (whole ++ (pointed fraction ++ tail))).head? == some '-') =
      negative := by
    cases negative with
    | true => rfl
    | false =>
      obtain ⟨c, cs, rfl⟩ := List.exists_cons_of_ne_nil hwhole.ne_nil
      have hc := ne_of_isDigit (d := '-') (hwhole.isDigit c List.mem_cons_self) rfl
      simpa [signText] using hc
  have hlength : (if negative then 1 else 0) = (signText negative).length := by
    cases negative <;> rfl
  unfold scanNumber?
  dsimp only
  rw [hsign, hlength, List.drop_left, wholeDigits_append hwhole (noDigit_pointed htail),
    List.drop_left, fractionDigits_pointed hfraction htail hpoint, ← length_pointed, List.drop_left,
    if_neg (by simpa using hwhole.ne_nil)]
  split
  · split <;> rfl
  · rfl

/-! ## Numerals -/

/-- A text does not go on with a numeral. -/
structure EndsNumeral (rest : List Char) : Prop where
  digit : NoDigit rest
  point : rest.head? ≠ some '.'
  exponent : exponentPart? rest = none

/-- A text starts like a numeral: with a digit, or with a digit behind a sign. -/
def StartsNumeral (text : List Char) : Prop :=
  ∃ d ds, d.isDigit = true ∧ (text = d :: ds ∨ text = '-' :: d :: ds)

/-- A text is a numeral: it starts like one, and is read as one token wherever no numeral goes on. -/
structure Numeral (text : List Char) (token : Token) : Prop where
  starts : StartsNumeral text
  scan : ∀ rest, EndsNumeral rest → scanNumber? (text ++ rest) = some (token, text.length)

theorem startsNumeral_append (negative : Bool) {whole : List Char} (h : IsWhole whole)
    (rest : List Char) :
    StartsNumeral (signText negative ++ (whole ++ rest)) := by
  obtain ⟨d, ds, rfl⟩ := List.exists_cons_of_ne_nil h.ne_nil
  refine ⟨d, ds ++ rest, h.isDigit d List.mem_cons_self, ?_⟩
  cases negative
  · exact .inl rfl
  · exact .inr rfl

/-! ## Whole numbers -/

/-- The digits of a number are those before a point. -/
theorem isWhole_toDigits (n : Nat) : IsWhole (Nat.toDigits 10 n) := by
  rcases Nat.eq_zero_or_pos n with rfl | hpos
  · rw [Nat.toDigits_zero]
    exact .zero
  · have hfirst : ∀ n, 0 < n → ∃ d ds, Nat.toDigits 10 n = d :: ds ∧ d ≠ '0' := by
      intro n
      induction n using Nat.strongRecOn with
      | ind n ih =>
        intro hn
        by_cases h : n < 10
        · rw [Nat.toDigits_of_lt_base h]
          exact ⟨_, _, rfl, fun hzero => hn.ne' (Nat.digitChar_eq_zero.1 hzero)⟩
        · obtain ⟨d, ds, hds, hd⟩ := ih (n / 10) (by omega) (by omega)
          rw [Nat.toDigits_of_base_le (by decide) (Nat.not_lt.1 h), hds]
          exact ⟨d, _, rfl, hd⟩
    obtain ⟨d, ds, hds, hd⟩ := hfirst n hpos
    rw [hds]
    exact .row hd fun c hc => isDigit_of_mem_toDigits (hds ▸ hc)

/-- A whole number is written as its sign and its digits. -/
theorem toString_int (n : Int) :
    (toString n).toList = signText (decide (n < 0)) ++ Nat.toDigits 10 n.natAbs := by
  cases n with
  | ofNat m =>
    have hm : decide ((Int.ofNat m) < 0) = false := decide_eq_false (by simp)
    rw [hm]
    change (toString m).toList = _
    rw [Nat.toString_eq_ofList_toDigits, String.toList_ofList]
    rfl
  | negSucc m =>
    have hm : decide ((Int.negSucc m) < 0) = true := decide_eq_true (Int.negSucc_lt_zero m)
    rw [hm]
    change ("-" ++ toString (m + 1)).toList = _
    rw [String.toList_append, Nat.toString_eq_ofList_toDigits, String.toList_ofList,
      String.toList_ofList]
    rfl

/-- **A written whole number is read as itself.** -/
theorem numeral_int {n : Int} (hlength : (Nat.toDigits 10 n.natAbs).length ≤ maxDigits) :
    Numeral (toString n).toList (.constant (.int n)) := by
  rw [toString_int]
  refine ⟨?_, fun rest hrest => ?_⟩
  · have hstart := startsNumeral_append (decide (n < 0)) (isWhole_toDigits n.natAbs) []
    rwa [List.append_nil] at hstart
  have hparts := scanNumber?_parts (decide (n < 0)) [] rest (isWhole_toDigits n.natAbs)
    (fun c hc => absurd hc List.not_mem_nil) hrest.digit fun _ => hrest.point
  have hsigned : Double.signed (decide (n < 0)) n.natAbs = n := by
    unfold Double.signed
    split
    · rename_i h
      have := of_decide_eq_true h
      omega
    · rename_i h
      have : ¬n < 0 := fun hn => h (decide_eq_true hn)
      omega
  rw [hrest.exponent, digitsNumber_toDigits, hsigned] at hparts
  simp only [pointed, List.isEmpty_nil, if_true, List.nil_append, Option.isNone_none, Bool.and_self,
    Nat.not_lt.2 hlength, if_false, List.length_nil, Nat.add_zero, Option.map_none,
    Option.getD_none] at hparts
  rw [List.append_assoc, hparts, List.length_append]

/-! ## Doubles -/

/-- A written exponent is read as itself. -/
theorem exponentPart?_exponentText (x : Int) {rest : List Char} (hrest : NoDigit rest) :
    exponentPart? ((Double.exponentText x).toList ++ rest) =
      some ((Double.exponentText x).toList.length, x) := by
  obtain ⟨digits, hdigits, hall, hne, hvalue⟩ : ∃ digits : List Char,
      ((if x.natAbs < 10 then "0" else "") ++ toString x.natAbs).toList = digits ∧
      (∀ c ∈ digits, c.isDigit = true) ∧ digits ≠ [] ∧ digitsNumber digits = x.natAbs := by
    refine ⟨_, rfl, ?_⟩
    rw [String.toList_append, Nat.toString_eq_ofList_toDigits, String.toList_ofList]
    have hall := fun c => isDigit_of_mem_toDigits (n := x.natAbs) (c := c)
    split
    · refine ⟨?_, List.cons_ne_nil _ _, ?_⟩
      · intro c hc
        rcases List.mem_cons.1 hc with rfl | hc
        · rfl
        · exact hall c hc
      · exact (digitsNumber_zeros_append 1 _).trans (digitsNumber_toDigits _)
    · exact ⟨hall, Nat.toDigits_ne_nil, digitsNumber_toDigits _⟩
  have htext : (Double.exponentText x).toList = 'e' :: (if x < 0 then '-' else '+') :: digits := by
    unfold Double.exponentText
    dsimp only
    rw [String.append_assoc, String.toList_append, hdigits]
    split <;> rfl
  have htake := takeWhile_digits hall hrest
  rw [htext]
  unfold exponentPart?
  by_cases hx : x < 0
  · simp only [hx, if_true, List.cons_append, true_or, List.drop_succ_cons, List.drop_zero, htake,
      List.isEmpty_eq_false_iff.2 hne, Bool.false_eq_true, if_false, hvalue, List.length_cons]
    exact congrArg some (Prod.ext (by dsimp only; omega) (by dsimp only; omega))
  · simp only [hx, if_false, if_true, List.cons_append, true_or, List.drop_succ_cons,
      List.drop_zero, htake, List.isEmpty_eq_false_iff.2 hne, Bool.false_eq_true, hvalue,
      List.length_cons]
    exact congrArg some (Prod.ext (by dsimp only; omega) (by dsimp only; omega))

/-- A text is a numeral for the double that a decimal number is rounded to. -/
def ScansAs (text : List Char) (negative : Bool) (q : ℚ) : Prop :=
  ∃ (n : Nat) (k : Int), (n : ℚ) * 10 ^ k = q ∧
    Numeral text (.constant (.float (Double.ofDecimal negative n k)))

theorem scansAs_fraction (negative : Bool) {whole : List Char} (fraction : List Char)
    (hwhole : IsWhole whole)
    (hfraction : ∀ c ∈ fraction, c.isDigit = true) (hne : fraction ≠ []) :
    ScansAs (signText negative ++ (whole ++ '.' :: fraction)) negative
      (digitsNumber (whole ++ fraction) * 10 ^ (-(fraction.length : Int))) := by
  refine ⟨digitsNumber (whole ++ fraction), 0 - fraction.length, by rw [Int.zero_sub],
    startsNumeral_append negative hwhole _, fun rest hrest => ?_⟩
  have hparts := scanNumber?_parts negative fraction rest hwhole hfraction hrest.digit
    fun h => absurd h hne
  have hpointed : pointed fraction = '.' :: fraction :=
    if_neg (by rw [List.isEmpty_eq_false_iff.2 hne]; decide)
  rw [hrest.exponent, hpointed, List.isEmpty_eq_false_iff.2 hne] at hparts
  rw [List.append_assoc, List.append_assoc, hparts, Bool.false_and, if_neg Bool.false_ne_true,
    List.length_append, List.length_append, Option.map_none, Option.getD_none, Option.map_none,
    Option.getD_none, Nat.add_zero, Nat.add_assoc]

theorem scansAs_exponent (negative : Bool) {whole fraction : List Char} (hwhole : IsWhole whole)
    (hfraction : ∀ c ∈ fraction, c.isDigit = true) (x : Int) :
    ScansAs (signText negative ++ (whole ++ (pointed fraction ++ (Double.exponentText x).toList)))
      negative (digitsNumber (whole ++ fraction) * 10 ^ (x - fraction.length)) := by
  refine ⟨digitsNumber (whole ++ fraction), x - fraction.length, rfl,
    startsNumeral_append negative hwhole _, fun rest hrest => ?_⟩
  have hmark : ∃ cs, (Double.exponentText x).toList = 'e' :: cs := by
    unfold Double.exponentText
    dsimp only
    rw [String.append_assoc, String.toList_append]
    split <;> exact ⟨_, rfl⟩
  obtain ⟨cs, hcs⟩ := hmark
  have hexponent := exponentPart?_exponentText x hrest.digit
  rw [hcs] at hexponent ⊢
  have hparts := scanNumber?_parts negative fraction ('e' :: cs ++ rest) hwhole hfraction
    (by rintro c hc; cases hc; rfl) (fun _ h => by cases h)
  rw [hexponent] at hparts
  rw [List.append_assoc, List.append_assoc, List.append_assoc, hparts, Option.isNone_some,
    Bool.and_false, if_neg Bool.false_ne_true, List.length_append, List.length_append,
    List.length_append, Option.map_some, Option.getD_some, Option.map_some, Option.getD_some,
    Nat.add_assoc, Nat.add_assoc]

/-- A row of digits that starts with another one than zero. -/
structure IsRow (digits : List Char) : Prop where
  digit : ∀ c ∈ digits, c.isDigit = true
  first : ∃ d ds, digits = d :: ds ∧ d ≠ '0'

theorem IsRow.isWhole {digits : List Char} (h : IsRow digits) : IsWhole digits := by
  obtain ⟨d, ds, rfl, hd⟩ := h.first
  exact .row hd h.digit

theorem isDigit_of_mem_zeros {n : Nat} {c : Char} (h : c ∈ List.replicate n '0') :
    c.isDigit = true := by
  rw [List.eq_of_mem_replicate h]
  rfl

/-- Digits behind a zero and a point. -/
theorem scansAs_below_one (negative : Bool) {digits : List Char} (hrow : IsRow digits) (zeros : Nat) :
    ScansAs (signText negative ++ (['0'] ++ '.' :: (List.replicate zeros '0' ++ digits))) negative
      (digitsNumber digits * 10 ^ (-((zeros + digits.length : Nat) : Int))) := by
  have hscan := scansAs_fraction negative (List.replicate zeros '0' ++ digits) .zero
    (fun c hc => (List.mem_append.1 hc).elim isDigit_of_mem_zeros (hrow.digit c))
    (List.append_ne_nil_of_right_ne_nil _ hrow.isWhole.ne_nil)
  have hnumber : digitsNumber (['0'] ++ (List.replicate zeros '0' ++ digits)) =
      digitsNumber digits :=
    (digitsNumber_zeros_append 1 _).trans (digitsNumber_zeros_append zeros digits)
  rwa [hnumber, List.length_append, List.length_replicate] at hscan

/-- Digits with zeros in front of the point, and one behind it. -/
theorem scansAs_filled (negative : Bool) {digits : List Char} (hrow : IsRow digits) (zeros : Nat) :
    ScansAs (signText negative ++ (digits ++ List.replicate zeros '0' ++ '.' :: ['0'])) negative
      (digitsNumber digits * 10 ^ (zeros : Int)) := by
  have hwhole : IsWhole (digits ++ List.replicate zeros '0') := by
    obtain ⟨d, ds, hds, hd⟩ := hrow.first
    rw [hds, List.cons_append]
    refine .row hd fun c hc => ?_
    rw [← List.cons_append, ← hds] at hc
    exact (List.mem_append.1 hc).elim (hrow.digit c) isDigit_of_mem_zeros
  have hscan := scansAs_fraction negative ['0'] hwhole
    (fun c hc => by rw [List.mem_singleton.1 hc]; rfl) (List.cons_ne_nil _ _)
  have hnumber : digitsNumber (digits ++ List.replicate zeros '0' ++ ['0']) =
      digitsNumber digits * 10 ^ zeros * 10 :=
    (digitsNumber_append_zeros _ 1).trans (by rw [digitsNumber_append_zeros, pow_one])
  have hvalue : ((digitsNumber digits * 10 ^ zeros * 10 : Nat) : ℚ) * 10 ^ (-((1 : Nat) : Int)) =
      digitsNumber digits * 10 ^ (zeros : Int) := by
    rw [zpow_neg, zpow_natCast, zpow_natCast, pow_one, Nat.cast_mul, Nat.cast_ofNat,
      mul_inv_cancel_right₀ (by norm_num), Nat.cast_mul, Nat.cast_pow, Nat.cast_ofNat]
  rwa [hnumber, List.length_singleton, hvalue] at hscan

/-- Digits with the point among them. -/
theorem scansAs_parted (negative : Bool) {digits : List Char} (hrow : IsRow digits) {n : Nat}
    (hpos : 0 < n) (hlt : n < digits.length) :
    ScansAs (signText negative ++ (digits.take n ++ '.' :: digits.drop n)) negative
      (digitsNumber digits * 10 ^ ((n : Int) - digits.length)) := by
  have hwhole : IsWhole (digits.take n) := by
    obtain ⟨d, ds, hds, hd⟩ := hrow.first
    obtain ⟨k, rfl⟩ := Nat.exists_eq_succ_of_ne_zero hpos.ne'
    have hdigit : ∀ c ∈ digits.take (k + 1), c.isDigit = true :=
      fun c hc => hrow.digit c (List.mem_of_mem_take hc)
    rw [hds, List.take_succ_cons] at hdigit ⊢
    exact .row hd hdigit
  have hscan := scansAs_fraction negative (digits.drop n) hwhole
    (fun c hc => hrow.digit c (List.mem_of_mem_drop hc))
    (fun h => Nat.not_le.2 hlt (List.drop_eq_nil_iff.1 h))
  rw [List.take_append_drop, List.length_drop, Nat.cast_sub hlt.le, neg_sub] at hscan
  exact hscan

/-- Digits with an exponent, the point behind the first one. -/
theorem scansAs_scientific (negative : Bool) {d : Char} {ds : List Char} (hrow : IsRow (d :: ds))
    (top : Int) :
    ScansAs (signText negative ++ ([d] ++ (pointed ds ++ (Double.exponentText top).toList))) negative
      (digitsNumber (d :: ds) * 10 ^ (top - ds.length)) := by
  have hwhole : IsWhole [d] := by
    obtain ⟨d', ds', hds, hd⟩ := hrow.first
    cases hds
    exact .row hd fun c hc => hrow.digit c (List.mem_singleton.1 hc ▸ List.mem_cons_self)
  exact scansAs_exponent negative hwhole (fun c hc => hrow.digit c (List.mem_cons_of_mem d hc)) top

/-- Digits in decimal notation are read as the number they stand for. -/
theorem scansAs_decimalText (negative : Bool) {digits : List Char} (hrow : IsRow digits) (top : Int) :
    ScansAs (signText negative ++ (Double.decimalText digits top).toList) negative
      (digitsNumber digits * 10 ^ (top + 1 - digits.length)) := by
  unfold Double.decimalText
  split
  · split
    · rename_i hneg
      have hscan := scansAs_below_one negative hrow ((-top).toNat - 1)
      have hscale : -((((-top).toNat - 1) + digits.length : Nat) : Int) =
          top + 1 - digits.length := by omega
      rw [hscale] at hscan
      rw [String.toList_append, String.toList_ofList, String.toList_ofList]
      exact hscan
    · rename_i hpos
      obtain ⟨n, rfl⟩ := Int.eq_ofNat_of_zero_le (Int.not_lt.1 hpos)
      dsimp only
      rw [String.toList_ofList, Int.toNat_natCast]
      by_cases hlong : digits.length ≤ n + 1
      · have hscan := scansAs_filled negative hrow (n + 1 - digits.length)
        have hscale : ((n + 1 - digits.length : Nat) : Int) = n + 1 - digits.length := by omega
        rw [hscale] at hscan
        rw [List.take_of_length_le hlong, List.drop_of_length_le hlong]
        exact hscan
      · have hscan := scansAs_parted negative hrow (Nat.succ_pos n) (Nat.not_le.1 hlong)
        have hdrop : (digits.drop (n + 1)).isEmpty = false :=
          List.isEmpty_eq_false_iff.2 fun h => hlong (List.drop_eq_nil_iff.1 h)
        have hzeros : n + 1 - digits.length = 0 := by omega
        rw [hdrop, if_neg Bool.false_ne_true, hzeros, List.replicate_zero, List.append_nil]
        exact hscan
  · obtain ⟨d, ds, rfl, hd⟩ := hrow.first
    have hscan := scansAs_scientific negative hrow top
    have hscale : top + 1 - (d :: ds).length = top - ds.length := by
      rw [List.length_cons]
      omega
    rw [hscale]
    cases ds with
    | nil =>
      rw [String.toList_append, String.toList_ofList]
      exact hscan
    | cons d' ds =>
      rw [String.toList_append, String.toList_ofList]
      exact hscan

/-- Digits without the zeros at their end stand for the same number. -/
theorem dropZeros_spec {digits : List Char} (hrow : IsRow digits) (k : Int) :
    IsRow (Double.dropZeros digits k).1 ∧
      (digitsNumber (Double.dropZeros digits k).1 : ℚ) * 10 ^ (Double.dropZeros digits k).2 =
        digitsNumber digits * 10 ^ k := by
  obtain ⟨kept, hkept⟩ : ∃ kept, kept = (digits.reverse.dropWhile (· == '0')).reverse := ⟨_, rfl⟩
  obtain ⟨zeros, hzeros⟩ : ∃ zeros, digits = kept ++ List.replicate zeros '0' := by
    have hsplit := List.takeWhile_append_dropWhile (p := (· == '0')) (l := digits.reverse)
    have hfront : digits.reverse.takeWhile (· == '0') =
        List.replicate (digits.reverse.takeWhile (· == '0')).length '0' := by
      refine List.eq_replicate_of_mem fun c hc => ?_
      simpa using List.all_eq_true.1 List.all_takeWhile c hc
    refine ⟨(digits.reverse.takeWhile (· == '0')).length, ?_⟩
    rw [hkept, ← List.reverse_inj, List.reverse_append, List.reverse_reverse, List.reverse_replicate,
      ← hfront, hsplit]
  obtain ⟨d, ds, hfirst, hd⟩ := hrow.first
  have hcons : ∃ ds', kept = d :: ds' := by
    cases hkeep : kept with
    | nil =>
      rw [hkeep, List.nil_append] at hzeros
      have hmem : d ∈ List.replicate zeros '0' := hzeros ▸ hfirst ▸ List.mem_cons_self
      exact absurd (List.eq_of_mem_replicate hmem) hd
    | cons c cs =>
      rw [hkeep, hfirst, List.cons_append] at hzeros
      cases hzeros
      exact ⟨cs, rfl⟩
  obtain ⟨ds', hkeep⟩ := hcons
  have hdrop : Double.dropZeros digits k = (kept, k + zeros) := by
    unfold Double.dropZeros
    dsimp only
    rw [← hkept]
    refine Prod.ext rfl ?_
    dsimp only
    rw [hzeros, List.length_append, List.length_replicate, Nat.add_sub_cancel_left]
  rw [hdrop]
  refine ⟨⟨fun c hc => hrow.digit c (hzeros ▸ List.mem_append_left _ hc), d, ds', hkeep, hd⟩, ?_⟩
  dsimp only
  rw [hzeros, digitsNumber_append_zeros, zpow_add₀ (by norm_num), zpow_natCast, Nat.cast_mul,
    Nat.cast_pow, Nat.cast_ofNat]
  ring

/-- The digits of a positive number are a row. -/
theorem isRow_toDigits {n : Nat} (hn : 0 < n) : IsRow (Nat.toDigits 10 n) := by
  refine ⟨fun c hc => isDigit_of_mem_toDigits hc, ?_⟩
  have hwhole := isWhole_toDigits n
  have hnumber := digitsNumber_toDigits n
  generalize Nat.toDigits 10 n = digits at hwhole hnumber
  cases hwhole with
  | zero =>
    rw [← hnumber] at hn
    exact absurd hn (by decide)
  | row hd _ => exact ⟨_, _, rfl, hd⟩

/-- **A written double is read as itself.** -/
theorem numeral_double {negative : Bool} {m : Nat} {e : Int} (hregular : Double.Regular m e) :
    Numeral (Double.finite negative m e).text.toList
      (.constant (.float (.finite negative m e))) := by
  have hsign : ∀ body : String, (if negative = true then "-" ++ body else body).toList =
      signText negative ++ body.toList := by
    intro body
    cases negative with
    | true => exact String.toList_append
    | false => rfl
  unfold Double.text
  dsimp only
  rw [hsign]
  split
  · rename_i hm
    subst hm
    obtain ⟨n, k, hvalue, hscan⟩ := scansAs_fraction negative ['0'] .zero
      (fun c hc => by rw [List.mem_singleton.1 hc]; rfl) (List.cons_ne_nil _ _)
    have hn : n = 0 := by
      have hzero : (digitsNumber (['0'] ++ ['0']) : ℚ) = 0 := Nat.cast_zero
      rw [hzero, zero_mul, mul_eq_zero_iff_right (zpow_ten_pos k).ne'] at hvalue
      exact_mod_cast hvalue
    have he : e = Double.minExponent := hregular.normal.resolve_right (by decide)
    subst hn he
    exact hscan
  · rename_i hm
    have hpos : 0 < m := Nat.pos_of_ne_zero hm
    have hnear := Double.shortest_near hregular hpos
    have hdigits : 0 < (Double.shortest m e).1 := by
      rcases Nat.eq_zero_or_pos (Double.shortest m e).1 with h | h
      · have := hnear.pos hpos
        rw [h, Nat.cast_zero, zero_mul] at this
        exact absurd this (lt_irrefl 0)
      · exact h
    obtain ⟨hrow, hkept⟩ := dropZeros_spec (isRow_toDigits hdigits) (Double.shortest m e).2
    obtain ⟨n, k, hvalue, hscan⟩ := scansAs_decimalText negative hrow
      ((Double.dropZeros (Nat.toDigits 10 (Double.shortest m e).1) (Double.shortest m e).2).2 +
        (Double.dropZeros (Nat.toDigits 10 (Double.shortest m e).1)
          (Double.shortest m e).2).1.length - 1)
    rw [sub_add_cancel, add_sub_cancel_right, hkept, digitsNumber_toDigits] at hvalue
    rw [Double.ofDecimal_of_near hregular hpos (hvalue ▸ hnear)] at hscan
    exact hscan

end TableInterfaces.Json
