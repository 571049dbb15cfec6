import Mathlib.Data.Nat.Log
import Mathlib.Order.WithBot
import Mathlib.Tactic.NormNum.NatLog
import TableInterfaces.Proofs.Jvm.TypeMap
import TableInterfaces.Proofs.Sql.Type

/-!
# Exact numbers

The precision of an exact number counts decimal digits, while the types of whole numbers are words
of a width in bits. `WholeType.Holds` says which numbers a type holds and knows of no digits. Words
of `w` bits hold every number of `p` digits just where `p` is at most the logarithm `roomOf w`
(`WholeType.forall_holds_iff`), and the bounds of the table are these logarithms
(`WholeType.wholeTypes_eq`). Main statements:

* `TypeMap.mapType_exactNumber`: an exact number without a fraction gets the narrowest type that
  holds all numbers of its precision, and any other the decimal type.
* `TypeMap.mapType_written`: the same for the declaration of such a type as it is written.
-/

namespace TableInterfaces.Jvm

open TableInterfaces.Json
open TableInterfaces.Sql
open TableInterfaces.Text

/-! ## Types of whole numbers -/

/-- The types of whole numbers. -/
inductive WholeType
  | byte
  | short
  | integer
  | long
  | bigInteger
  deriving DecidableEq, Repr

namespace WholeType

/-- The width of a type in bits. The last type grows with the number. -/
def width : WholeType → WithTop ℕ
  | .byte => (8 : ℕ)
  | .short => (16 : ℕ)
  | .integer => (32 : ℕ)
  | .long => (64 : ℕ)
  | .bigInteger => ⊤

/-- The name of a type. -/
def name : WholeType → String
  | .byte => "java.lang.Byte"
  | .short => "java.lang.Short"
  | .integer => "java.lang.Integer"
  | .long => "java.lang.Long"
  | .bigInteger => "java.math.BigInteger"

/-- A type holds a number that is the value of a word of the type's width in two's complement. A
type without a width holds every number. -/
def Holds (t : WholeType) (n : ℤ) : Prop :=
  ∀ w : ℕ, t.width = w → ∃ word : BitVec w, word.toInt = n

/-- A type holds all numbers of at most `p` decimal digits, and each narrower type lacks one of
them. -/
structure IsNarrowest (t : WholeType) (p : ℕ) : Prop where
  holds : ∀ n : ℤ, |n| < 10 ^ p → t.Holds n
  least : ∀ s : WholeType, s.width < t.width → ∃ n : ℤ, |n| < 10 ^ p ∧ ¬s.Holds n

variable {s t : WholeType} {v w p : ℕ} {n : ℤ}

theorem name_injective : Function.Injective name := by
  intro s t h
  cases s <;> cases t <;> simp_all [name]

/-- The range of a type with a width. -/
theorem holds_iff (h : t.width = w) : t.Holds n ↔ -2 ^ (w - 1) ≤ n ∧ n < 2 ^ (w - 1) := by
  constructor
  · intro hholds
    obtain ⟨word, rfl⟩ := hholds w h
    exact ⟨BitVec.le_toInt word, BitVec.toInt_lt⟩
  · rintro ⟨hlow, hhigh⟩ v hv
    obtain rfl : v = w := WithTop.coe_injective (hv.symm.trans h)
    have hpos : 0 < v := by
      cases t <;> cases h <;> decide
    exact ⟨BitVec.ofInt v n, BitVec.toInt_ofInt_eq_self hpos hlow hhigh⟩

/-- The number of decimal digits for which words of a width have room. -/
def roomOf (w : ℕ) : ℕ :=
  Nat.log 10 (2 ^ (w - 1))

/-- A type with a width holds all numbers of as many digits as it has room for, and not all numbers
of more digits. -/
theorem forall_holds_iff (h : t.width = w) :
    (∀ n : ℤ, |n| < 10 ^ p → t.Holds n) ↔ p ≤ roomOf w := by
  rw [roomOf, Nat.le_log_iff_pow_le (by decide) (by positivity)]
  constructor
  · intro hholds
    -- The upper end decides: downwards there is room for one number more.
    have hgreatest : |(10 ^ p - 1 : ℤ)| < 10 ^ p := by
      rw [abs_of_nonneg (sub_nonneg.2 (one_le_pow₀ (by decide)))]
      exact sub_one_lt _
    have hlt := ((holds_iff h).1 (hholds _ hgreatest)).2
    exact_mod_cast Int.sub_one_lt_iff.1 hlt
  · intro hpow n hn
    have hpow : (10 ^ p : ℤ) ≤ 2 ^ (w - 1) := by exact_mod_cast hpow
    obtain ⟨hlow, hhigh⟩ := abs_lt.1 hn
    exact (holds_iff h).2 ⟨(neg_le_neg hpow).trans hlow.le, hhigh.trans_le hpow⟩

/-- A type without room for `p` digits lacks a number of `p` digits. -/
theorem exists_not_holds (h : t.width = w) (hp : ¬p ≤ roomOf w) :
    ∃ n : ℤ, |n| < 10 ^ p ∧ ¬t.Holds n := by
  by_contra hall
  push Not at hall
  exact hp ((forall_holds_iff h).1 hall)

/-! ## The table of bounds -/

/-- The types with a width, narrowest first. -/
def words : List (ℕ × WholeType) :=
  [(8, .byte), (16, .short), (32, .integer), (64, .long)]

theorem mem_words : (w, t) ∈ words ↔ t.width = w := by
  have hwidths : ∀ word ∈ words, word.2.width = word.1 := by decide
  constructor
  · exact hwidths (w, t)
  · intro h
    cases t <;> cases h <;> decide

theorem words_sorted : words.Pairwise fun a b => a.1 < b.1 := by
  decide

/-- A type that is narrower than another one has a width. -/
theorem exists_width (h : s.width < t.width) : ∃ v : ℕ, s.width = v := by
  obtain ⟨v, hv⟩ := WithTop.ne_top_iff_exists.1 (h.trans_le le_top).ne
  exact ⟨v, hv.symm⟩

/-- A narrower type stands in front of a type. -/
theorem mem_front {front back : List (ℕ × WholeType)} (hwords : words = front ++ (w, t) :: back)
    (hs : s.width = v) (hlt : v < w) : (v, s) ∈ front := by
  have hmem := mem_words.2 hs
  have hsorted := words_sorted
  rw [hwords] at hmem hsorted
  have hbehind := (List.pairwise_cons.1 (List.pairwise_append.1 hsorted).2.1).1
  rcases List.mem_append.1 hmem with hfront | hmem
  · exact hfront
  · rcases List.mem_cons.1 hmem with heq | hback
    · exact absurd (congrArg Prod.fst heq) hlt.ne
    · exact absurd (hbehind _ hback) hlt.asymm

/-- The bound of a type is one more than the number of digits that it has room for. -/
theorem wholeTypes_eq :
    wholeTypes = words.map fun word => (((roomOf word.1 + 1 : ℕ) : ℤ), word.2.name) := by
  norm_num [wholeTypes, words, roomOf, name]

/-- The first type with a width that has room for `p` digits. -/
def firstWithRoom (p : ℕ) : Option (ℕ × WholeType) :=
  words.find? fun word => decide (p ≤ roomOf word.1)

/-- The table is searched for the first type with room. -/
theorem find?_wholeTypes (p : ℕ) :
    (wholeTypes.find? fun bound => decide ((p : ℤ) < bound.1)) =
      (firstWithRoom p).map fun word => (((roomOf word.1 + 1 : ℕ) : ℤ), word.2.name) := by
  rw [wholeTypes_eq, List.find?_map, firstWithRoom]
  simp only [Function.comp_def, Nat.cast_lt, Nat.lt_succ_iff]

/-- The first type with room is the narrowest. -/
theorem isNarrowest_of_firstWithRoom (h : firstWithRoom p = some (w, t)) : t.IsNarrowest p := by
  obtain ⟨hroom, front, back, hwords, hfront⟩ := List.find?_eq_some_iff_append.1 h
  have hwidth : t.width = w := mem_words.1 (List.mem_of_find?_eq_some h)
  refine ⟨(forall_holds_iff hwidth).2 (of_decide_eq_true hroom), fun s hs => ?_⟩
  obtain ⟨v, hv⟩ := exists_width hs
  rw [hv, hwidth] at hs
  have hmem := mem_front hwords hv (WithTop.coe_lt_coe.1 hs)
  exact exists_not_holds hv (by simpa using hfront _ hmem)

/-- Where no type with a width has room, the type without one is the narrowest. -/
theorem bigInteger_isNarrowest (h : firstWithRoom p = none) : bigInteger.IsNarrowest p := by
  refine ⟨fun n _ w hw => (WithTop.coe_ne_top hw.symm).elim, fun s hs => ?_⟩
  obtain ⟨v, hv⟩ := exists_width hs
  have hroom := List.find?_eq_none.1 h (v, s) (mem_words.2 hv)
  exact exists_not_holds hv (by simpa using hroom)

end WholeType

/-! ## The type for a precision and a scale -/

/-- An exact number without a fraction gets the narrowest type for its precision. -/
theorem exactNumeric_whole (p : ℕ) {scale : Option ℤ} (h : scale = none ∨ scale = some 0) :
    ∃ t : WholeType, exactNumeric (some p) scale = t.name ∧ t.IsNarrowest p := by
  have hscale : ¬0 < scale.getD 0 := by
    rcases h with rfl | rfl <;> decide
  unfold exactNumeric
  dsimp only
  rw [if_neg hscale, WholeType.find?_wholeTypes]
  cases hfound : WholeType.firstWithRoom p with
  | none => exact ⟨.bigInteger, rfl, WholeType.bigInteger_isNarrowest hfound⟩
  | some word => exact ⟨word.2, rfl, WholeType.isNarrowest_of_firstWithRoom hfound⟩

/-- An exact number without a precision or with a fraction gets the decimal type. -/
theorem exactNumeric_decimal {precision scale : Option ℤ}
    (h : precision = none ∨ ∃ q > 0, scale = some q) :
    exactNumeric precision scale = bigDecimal := by
  rcases h with rfl | ⟨q, hq, rfl⟩
  · rfl
  · cases precision with
    | none => rfl
    | some p => exact if_pos hq

/-! ## Types of exact numbers -/

/-- The names of the types of exact numbers. -/
def IsExactName (name : String) : Prop :=
  name = "numeric" ∨ name = "decimal"

/-- A type of exact numbers: it has one of the two names and is neither an array nor a reference to
a UDT that is called so. -/
structure IsExactNumber (type : SqlType) : Prop where
  name : IsExactName type.name
  udt : type.udt = none
  isArray : type.isArray = false

/-- The first number of a written type of exact numbers is its precision. -/
theorem typed_precision {d : Declaration} {nullable defaulted identity : Value}
    (h : IsExactName (Declaration.plainName d.name)) :
    (d.typed nullable defaulted identity).precision = d.first.map Declaration.number := by
  have hlength : d.hasLength = false := by
    unfold Declaration.hasLength
    rcases h with h | h <;> rw [h] <;> simp [lengthTypes]
  rw [Declaration.typed, hlength]
  rfl

namespace TypeMap

variable {map : TypeMap} {type : SqlType}

/-- The place of an exact number that is not overridden. -/
theorem place_exactNumber (h : IsExactNumber type)
    (hplain : map.overrides.lookup type.name = none) :
    map.place type = .ok (.text (exactNumeric type.precision type.scale)) := by
  have hname : (type.name == "numeric" || type.name == "decimal") = true := by
    simpa [IsExactName] using h.name
  rw [place, hplain, h.udt]
  exact if_pos hname

/-- A place other than binary data is the type in both dialects. -/
theorem mapType_of_place {name : String} (hplace : map.place type = .ok (.text name))
    (hbinary : name ≠ byteArray) (harray : type.isArray = false) (context : String) :
    map.mapType type context = .ok ⟨.text name, []⟩ := by
  have hdialect : inDialect map.dialect (.text name) = .text name := by
    cases map.dialect with
    | interfaces => rfl
    | traits => exact if_neg (by simpa using hbinary)
  rw [mapType, mapElement_eq, hplace, Result.ok_bind, harray, hdialect]
  rfl

/-- An exact number without a fraction is mapped to the narrowest type for its precision. -/
theorem mapType_whole (h : IsExactNumber type) (hplain : map.overrides.lookup type.name = none)
    {p : ℕ} (hprecision : type.precision = some (p : ℤ))
    (hscale : type.scale = none ∨ type.scale = some 0) (context : String) :
    ∃ t : WholeType, map.mapType type context = .ok ⟨.text t.name, []⟩ ∧ t.IsNarrowest p := by
  obtain ⟨t, ht, hnarrowest⟩ := exactNumeric_whole p hscale
  have hplace := place_exactNumber h hplain
  rw [hprecision, ht] at hplace
  have hbinary : t.name ≠ byteArray := by cases t <;> decide
  exact ⟨t, mapType_of_place hplace hbinary h.isArray context, hnarrowest⟩

/-- **Exact numbers.** Let a map not override a type of exact numbers, `NUMERIC` or `DECIMAL`. In
both dialects the type is mapped by its precision `p` where it has no scale or the scale zero: to
the narrowest type of whole numbers that holds every number of at most `p` digits. Without a
precision, or with a positive scale, it is mapped to the decimal type. -/
theorem mapType_exactNumber (h : IsExactNumber type)
    (hplain : map.overrides.lookup type.name = none) (context : String) :
    (∀ p : ℕ, type.precision = some (p : ℤ) → type.scale = none ∨ type.scale = some 0 →
      ∃ t : WholeType, map.mapType type context = .ok ⟨.text t.name, []⟩ ∧
        (∀ n : ℤ, |n| < 10 ^ p → t.Holds n) ∧
        ∀ s : WholeType, s.width < t.width → ∃ n : ℤ, |n| < 10 ^ p ∧ ¬s.Holds n) ∧
    (type.precision = none ∨ (∃ q > 0, type.scale = some q) →
      map.mapType type context = .ok ⟨.text bigDecimal, []⟩) := by
  constructor
  · intro p hprecision hscale
    obtain ⟨t, ht, hnarrowest⟩ := mapType_whole h hplain hprecision hscale context
    exact ⟨t, ht, hnarrowest.holds, hnarrowest.least⟩
  · intro hdecimal
    have hplace := place_exactNumber h hplain
    rw [exactNumeric_decimal hdecimal] at hplace
    exact mapType_of_place hplace (by decide) h.isArray context

/-- A map of the dialect of traits with an override. -/
def ledger : TypeMap where
  dialect := .traits
  overrides := [("money", .text "java.math.BigDecimal")]

/-- Eighteen digits are the most that a word of 64 bits has room for. -/
theorem ledger_amounts :
    IsExactNumber { name := "numeric", precision := some 18 } ∧
    IsExactNumber { name := "decimal", precision := some 19, scale := some 0 } ∧
    IsExactNumber { name := "numeric", precision := some 10, scale := some 2 } ∧
    ledger.overrides.lookup "numeric" = none ∧ ledger.overrides.lookup "decimal" = none ∧
    ledger.mapType { name := "numeric", precision := some 18 } "" =
      .ok ⟨.text "java.lang.Long", []⟩ ∧
    WholeType.long.Holds 999999999999999999 ∧
    ledger.mapType { name := "decimal", precision := some 19, scale := some 0 } "" =
      .ok ⟨.text "java.math.BigInteger", []⟩ ∧
    (∃ n : ℤ, |n| < 10 ^ 19 ∧ ¬WholeType.long.Holds n) ∧
    ledger.mapType { name := "numeric", precision := some 10, scale := some 2 } "" =
      .ok ⟨.text "java.math.BigDecimal", []⟩ := by
  have hlong : IsExactNumber { name := "numeric", precision := some 18 } := ⟨.inl rfl, rfl, rfl⟩
  have hbig : IsExactNumber { name := "decimal", precision := some 19, scale := some 0 } :=
    ⟨.inr rfl, rfl, rfl⟩
  have hdecimal : IsExactNumber { name := "numeric", precision := some 10, scale := some 2 } :=
    ⟨.inl rfl, rfl, rfl⟩
  have hmapped : ledger.mapType { name := "numeric", precision := some 18 } "" =
      .ok ⟨.text WholeType.long.name, []⟩ := by rfl
  have hmapped' : ledger.mapType { name := "decimal", precision := some 19, scale := some 0 } "" =
      .ok ⟨.text WholeType.bigInteger.name, []⟩ := by rfl
  have hsame : ∀ {s t : WholeType} {type : SqlType},
      ledger.mapType type "" = .ok ⟨.text s.name, []⟩ →
      ledger.mapType type "" = .ok ⟨.text t.name, []⟩ → s = t := fun hs ht =>
    WholeType.name_injective
      (Value.text.inj (congrArg JvmType.name (Except.ok.inj (hs.symm.trans ht))))
  have hplain : ledger.overrides.lookup "numeric" = none := rfl
  have hplain' : ledger.overrides.lookup "decimal" = none := rfl
  obtain ⟨t, ht, hholds, -⟩ := (mapType_exactNumber hlong hplain "").1 18 rfl (.inl rfl)
  obtain ⟨t', ht', -, hleast⟩ := (mapType_exactNumber hbig hplain' "").1 19 rfl (.inr rfl)
  obtain rfl := hsame hmapped ht
  obtain rfl := hsame hmapped' ht'
  exact ⟨hlong, hbig, hdecimal, hplain, hplain', hmapped, hholds _ (by norm_num), hmapped',
    hleast .long (by decide),
    (mapType_exactNumber hdecimal hplain "").2 (.inr ⟨2, by decide, rfl⟩)⟩

/-- **Exact numbers as they are written.** A text that writes `NUMERIC` or `DECIMAL` in any case,
with a number and perhaps a zero, is read, and its type is mapped to the narrowest type of whole
numbers for the number that it writes. -/
theorem mapType_written {d : Declaration} {s schema : String}
    (nullable defaulted identity : Value) (hascii : IsAscii s.toList) (hwrites : d.Writes s.toList)
    (hshort : Document.HasShortNumbers d) (hname : IsExactName (Declaration.plainName d.name))
    (harray : d.isArray = false)
    (hplain : map.overrides.lookup (Declaration.plainName d.name) = none) {digits : List Char}
    (hfirst : d.first = some digits)
    (hsecond : ∀ zeros ∈ d.second, Declaration.number zeros = 0) (context : String) :
    ∃ (type : SqlType) (t : WholeType),
      SqlType.parse (.text s) { nullable, defaulted, identity, schema := .text schema } =
        .ok type ∧
      map.mapType type context = .ok ⟨.text t.name, []⟩ ∧
      t.IsNarrowest (Nat.ofDigitChars 10 digits 0) := by
  have hprecision : (d.typed nullable defaulted identity).precision =
      some ((Nat.ofDigitChars 10 digits 0 : ℕ) : ℤ) := by
    rw [typed_precision hname, hfirst]
    rfl
  have hscale : (d.typed nullable defaulted identity).scale = none ∨
      (d.typed nullable defaulted identity).scale = some 0 := by
    unfold Declaration.typed
    cases hzeros : d.second with
    | none => exact .inl rfl
    | some zeros => exact .inr (congrArg some (hsecond zeros hzeros))
  obtain ⟨t, ht, hnarrowest⟩ : ∃ t : WholeType,
      map.mapType (d.typed nullable defaulted identity) context = .ok ⟨.text t.name, []⟩ ∧
        t.IsNarrowest (Nat.ofDigitChars 10 digits 0) :=
    mapType_whole ⟨hname, rfl, harray⟩ hplain hprecision hscale context
  exact ⟨_, t, Declaration.parse_written nullable defaulted identity hascii hwrites hshort, ht,
    hnarrowest⟩

end TypeMap

end TableInterfaces.Jvm
