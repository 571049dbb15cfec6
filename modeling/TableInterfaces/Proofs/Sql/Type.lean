import TableInterfaces.Proofs.Entity.Readable
import TableInterfaces.Proofs.Json.Parsed
import TableInterfaces.Proofs.Sql.Name

/-!
# Types by their declarations

What a written declaration stands for (`Declaration.typed`): the words of its name in lower case
with one space between them, its numbers as a length or as a precision and a scale, and whether it
is an array. White space around the parts, rows of spaces in the name and the case of letters carry
no meaning. Main statements:

* `SqlType.parse_ascii`: an ASCII text declares the type it writes, and none if it writes none.
* `SqlType.parse_sizes`: the sizes of any declared type are short enough to be written.
-/

namespace TableInterfaces.Sql

open TableInterfaces.Json
open TableInterfaces.Text

namespace Declaration

variable {c : Char} {cs : List Char} {d : Declaration}

/-! ## The type that is written -/

/-- The number that a row of digits writes. -/
def number (digits : List Char) : Int :=
  Nat.ofDigitChars 10 digits 0

/-- A declaration with a single number that is a length. -/
def hasLength (d : Declaration) : Bool :=
  d.second.isNone && lengthTypes.contains (plainName d.name)

/-- The type that a written declaration stands for where there are no UDTs. -/
def typed (d : Declaration) (nullable defaulted identity : Value) : SqlType where
  name := plainName d.name
  length := if d.hasLength then d.first.map number else none
  precision := if d.hasLength then none else d.first.map number
  scale := d.second.map number
  nullable
  defaulted
  identity :=
    if identity.truthy then identity else .bool (serialTypes.contains (plainName d.name))
  isArray := d.isArray

/-- A row of digits is read as the number it writes. -/
theorem readNumber_digits {digits : List Char} (hdigits : IsDigits digits)
    (hshort : digits.length ≤ maxDigits) : readNumber digits = .ok (number digits) := by
  have hnumber : ∀ (cs : List Char) (n : Nat), (∀ c ∈ cs, c.isDigit = true) →
      cs.foldl (fun n c => 10 * n + (decimalValue? c).getD 0) n = Nat.ofDigitChars 10 cs n := by
    intro cs n h
    induction cs generalizing n with
    | nil => rw [Nat.ofDigitChars_nil]; rfl
    | cons c cs ih =>
      rw [List.foldl_cons, ih _ fun e he => h e (List.mem_cons_of_mem c he),
        Nat.ofDigitChars_cons, decimalValue?, if_pos (h c List.mem_cons_self)]
      rfl
  rw [readNumber, if_neg (Nat.not_lt_of_le hshort), decimalNumber, hnumber digits 0 hdigits.2]
  rfl

/-- A written number is read. -/
theorem WritesNumber.readNumber {digits : List Char} (h : WritesNumber digits cs)
    (hshort : digits.length ≤ maxDigits) : readNumber digits = .ok (number digits) := by
  obtain ⟨_, _, _, _, hdigits, _⟩ := h
  exact readNumber_digits hdigits hshort

/-- The numbers of a written declaration are a length, or a precision and a scale. -/
theorem sizeOf_written (hwrites : Writes d cs) (hshort : Document.HasShortNumbers d) :
    sizeOf (plainName d.name) d = .ok (if d.hasLength then d.first.map number else none,
      if d.hasLength then none else d.first.map number, d.second.map number) := by
  obtain ⟨_, _, _, _, _, _, _, _, hnumbers, _⟩ := hwrites
  obtain ⟨name, first, second, isArray⟩ := d
  unfold sizeOf hasLength
  cases hnumbers with
  | none => simp
  | one h =>
    dsimp only
    rw [h.readNumber (hshort.first _ rfl), Result.ok_bind, Option.isNone_none, Bool.true_and]
    split <;> rfl
  | two h h' =>
    dsimp only
    rw [h.readNumber (hshort.first _ rfl), h'.readNumber (hshort.second _ rfl rfl)]
    rfl

/-- Where there are no UDTs, no type is one. -/
theorem resolveUdt_nil (name schema : String) : resolveUdt name (.text schema) [] = .ok none := by
  have hcandidates : ∃ candidates, udtCandidates name (.text schema) = .ok candidates := by
    unfold udtCandidates
    split <;> exact ⟨_, rfl⟩
  have hnone : sortedDistinct [] = [] := by simp [sortedDistinct]
  obtain ⟨candidates, hcandidates⟩ := hcandidates
  rw [resolveUdt, hcandidates, Result.ok_bind, List.find?_eq_none.2 (by simp), List.filter_nil,
    hnone]
  rfl

/-- A written declaration declares the type it stands for. -/
theorem parse_written {s schema : String} (nullable defaulted identity : Value)
    (hascii : IsAscii s.toList) (hwrites : Writes d s.toList)
    (hshort : Document.HasShortNumbers d) :
    SqlType.parse (.text s) { nullable, defaulted, identity, schema := .text schema } =
      .ok (d.typed nullable defaulted identity) := by
  have hname : typeName d.trimmed = plainName d.name := by
    obtain ⟨_, _, _, _, hs, _, hname, _⟩ := hwrites
    rw [hs] at hascii
    exact typeName_trimmed (isAscii_append.1 (isAscii_append.1 hascii).1).2 hname
  have hsize : sizeOf (plainName d.name) d.trimmed = sizeOf (plainName d.name) d := rfl
  rw [SqlType.parse, parse?_written hascii hwrites]
  dsimp only
  rw [SqlType.ofDeclaration, hname, hsize, sizeOf_written hwrites hshort]
  dsimp only [Result.ok_bind]
  rw [resolveUdt_nil]
  rfl

/-- A text that writes no declaration declares no type. -/
theorem parse_unwritten {s : String} (hascii : IsAscii s.toList)
    (h : ¬∃ d, Writes d s.toList) (context : TypeContext) :
    SqlType.parse (.text s) context = .error (.schema (.invalidType s)) := by
  cases hparse : parse? s.toList with
  | none => rw [SqlType.parse, hparse]
  | some d =>
    obtain ⟨written, hwrites, -⟩ := (parse?_eq_some_iff hascii).1 hparse
    exact (h ⟨written, hwrites⟩).elim

/-! ## What carries no meaning -/

/-- The same but for white space, rows of spaces and the case of letters. -/
structure SameParts (d d' : Declaration) : Prop where
  name : plainName d'.name = plainName d.name
  first : d'.first = d.first
  second : d'.second = d.second
  isArray : d'.isArray = d.isArray

theorem SameParts.hasShortNumbers {d' : Declaration} (h : SameParts d d')
    (hshort : Document.HasShortNumbers d) : Document.HasShortNumbers d' := by
  constructor
  · rw [h.first]
    exact hshort.first
  · rw [h.first, h.second]
    exact hshort.second

theorem SameParts.typed_eq {d' : Declaration} (h : SameParts d d')
    (nullable defaulted identity : Value) :
    d'.typed nullable defaulted identity = d.typed nullable defaulted identity := by
  unfold typed hasLength
  rw [h.name, h.first, h.second, h.isArray]

/-- Lower case keeps the kinds of characters that a name may hold. -/
theorem kinds_of_toLower {e : Char} (hc : c.toNat < 128) (he : e.toNat < 128)
    (h : e.toLower = c.toLower) :
    e.isAlpha = c.isAlpha ∧ e.isAlphanum = c.isAlphanum ∧ (c.isAlpha = false → e = c) := by
  have hkinds : ∀ c : Char, c.toNat < 128 → c.toLower.isAlpha = c.isAlpha ∧
      c.toLower.isAlphanum = c.isAlphanum ∧ (c.isAlpha = false → c.toLower = c) := fun c hc =>
    forall_ascii (P := fun c => c.toLower.isAlpha = c.isAlpha ∧
      c.toLower.isAlphanum = c.isAlphanum ∧ (c.isAlpha = false → c.toLower = c))
      (by decide +kernel) hc
  obtain ⟨halpha, halphanum, hsame⟩ := hkinds c hc
  obtain ⟨halpha', halphanum', hsame'⟩ := hkinds e he
  have hall : e.isAlpha = c.isAlpha := by rw [← halpha, ← halpha', h]
  refine ⟨hall, by rw [← halphanum, ← halphanum', h], fun hno => ?_⟩
  rw [← hsame hno, ← hsame' (hall.trans hno), h]

/-- A text without letters. -/
def NoLetters (cs : List Char) : Prop :=
  ∀ c ∈ cs, c.isAlpha = false

/-- Texts without letters that agree in lower case agree. -/
theorem eq_of_map_toLower {cs' : List Char} (hascii : IsAscii cs) (hascii' : IsAscii cs')
    (hno : NoLetters cs) (h : cs'.map Char.toLower = cs.map Char.toLower) :
    cs' = cs := by
  induction cs generalizing cs' with
  | nil => exact List.map_eq_nil_iff.1 h
  | cons c cs ih =>
    obtain ⟨e, more, rfl, he, hmore⟩ := List.map_eq_cons_iff.1 h
    rw [(kinds_of_toLower (hascii c List.mem_cons_self) (hascii' e List.mem_cons_self) he).2.2
      (hno c List.mem_cons_self), ih (fun e he => hascii e (List.mem_cons_of_mem c he))
      (fun c hc => hascii' c (List.mem_cons_of_mem e hc))
      (fun e he => hno e (List.mem_cons_of_mem c he)) hmore]

/-- A name stays one in the other case. -/
theorem IsName.of_map_toLower {cs' : List Char} (hascii : IsAscii cs) (hascii' : IsAscii cs')
    (hname : IsName cs) (h : cs'.map Char.toLower = cs.map Char.toLower) : IsName cs' := by
  cases cs with
  | nil => exact hname.elim
  | cons c cs =>
    obtain ⟨e, more, rfl, he, hmore⟩ := List.map_eq_cons_iff.1 h
    obtain ⟨halpha, -, hsame⟩ :=
      kinds_of_toLower (hascii c List.mem_cons_self) (hascii' e List.mem_cons_self) he
    constructor
    · rcases hname.1 with hc | rfl
      · exact .inl (halpha.trans hc)
      · exact .inr (hsame (by decide))
    · intro e he
      obtain ⟨c, hc, hlower⟩ : ∃ c ∈ cs, c.toLower = e.toLower :=
        List.mem_map.1 (hmore ▸ List.mem_map_of_mem he)
      obtain ⟨-, halphanum, hsame⟩ := kinds_of_toLower (hascii c (List.mem_cons_of_mem _ hc))
        (hascii' e (List.mem_cons_of_mem _ he)) hlower.symm
      rcases hname.2 c hc with hc | rfl | rfl | rfl
      · exact .inl (halphanum.trans hc)
      · exact .inr (.inl (hsame (by decide)))
      · exact .inr (.inr (.inl (hsame (by decide))))
      · exact .inr (.inr (.inr (hsame (by decide))))

theorem IsGap.noLetters (h : IsGap cs) : NoLetters cs := by
  intro c hc
  refine Bool.eq_false_iff.2 fun halpha => ?_
  have hblank := h c hc
  rw [isBlank_of_isNameStart (isNameStart_iff.2 (.inl halpha))] at hblank
  cases hblank

theorem WritesNumber.noLetters {digits : List Char} (h : WritesNumber digits cs) :
    NoLetters cs := by
  obtain ⟨before, after, rfl, hbefore, ⟨-, hdigits⟩, hafter⟩ := h
  refine List.forall_mem_append.2 ⟨List.forall_mem_append.2 ⟨hbefore.noLetters, fun c hc => ?_⟩,
    hafter.noLetters⟩
  have hascii : c.toNat < 128 :=
    Nat.lt_of_le_of_lt (Char.isDigit_iff_toNat.1 (hdigits c hc)).2 (by decide)
  exact forall_ascii (P := fun c => c.isDigit = true → c.isAlpha = false) (by decide +kernel)
    hascii (hdigits c hc)

theorem WritesNumbers.noLetters {first second : Option (List Char)}
    (h : WritesNumbers first second cs) : NoLetters cs := by
  cases h with
  | none => exact nofun
  | one h =>
    exact List.forall_mem_append.2 ⟨List.forall_mem_cons.2 ⟨rfl, h.noLetters⟩,
      List.forall_mem_singleton.2 rfl⟩
  | two h h' =>
    exact List.forall_mem_append.2 ⟨List.forall_mem_append.2
      ⟨List.forall_mem_cons.2 ⟨rfl, h.noLetters⟩, List.forall_mem_cons.2 ⟨rfl, h'.noLetters⟩⟩,
      List.forall_mem_singleton.2 rfl⟩

theorem WritesSuffix.noLetters {isArray : Bool} (h : WritesSuffix isArray cs) : NoLetters cs := by
  obtain ⟨before, after, rfl, hbefore, hafter⟩ := h
  refine List.forall_mem_append.2 ⟨List.forall_mem_append.2 ⟨hbefore.noLetters, ?_⟩,
    hafter.noLetters⟩
  split
  · exact List.forall_mem_cons.2 ⟨rfl, List.forall_mem_singleton.2 rfl⟩
  · exact nofun

/-- What a text writes is written in the other case as well. -/
theorem Writes.of_map_toLower {cs' : List Char} (hascii : IsAscii cs) (hascii' : IsAscii cs')
    (hwrites : Writes d cs) (h : cs'.map Char.toLower = cs.map Char.toLower) :
    ∃ d', Writes d' cs' ∧ SameParts d d' := by
  obtain ⟨before, gap, numbers, suffix, rfl, hbefore, hname, hgap, hnumbers, hsuffix⟩ := hwrites
  rw [List.map_append, List.map_append] at h
  obtain ⟨start, behind, rfl, hstart, hbehind⟩ := List.map_eq_append_iff.1 h
  obtain ⟨before', name, rfl, hbefore', hname'⟩ := List.map_eq_append_iff.1 hstart
  obtain ⟨hstartascii, hbehindascii⟩ := isAscii_append.1 hascii
  obtain ⟨hbeforeascii, hnameascii⟩ := isAscii_append.1 hstartascii
  obtain ⟨hstartascii', hbehindascii'⟩ := isAscii_append.1 hascii'
  obtain ⟨hbeforeascii', hnameascii'⟩ := isAscii_append.1 hstartascii'
  obtain rfl := eq_of_map_toLower hbeforeascii hbeforeascii' hbefore.noLetters hbefore'
  obtain rfl := eq_of_map_toLower hbehindascii hbehindascii' (List.forall_mem_append.2
    ⟨List.forall_mem_append.2 ⟨hgap.noLetters, hnumbers.noLetters⟩, hsuffix.noLetters⟩) hbehind
  refine ⟨{ d with name }, ⟨_, gap, numbers, suffix, rfl, hbefore, ?_, hgap, hnumbers, hsuffix⟩,
    ?_, rfl, rfl, rfl⟩
  · exact hname.of_map_toLower hnameascii hnameascii' hname'
  · rw [plainName, hname', plainName]

end Declaration

/-- **What an ASCII text declares.** A text whose numbers are short enough to be read declares a
type just where it writes a declaration, and is refused otherwise. The type is the one the
declaration stands for; a text with the same parts, or with the same letters in another case,
declares the same one. -/
theorem SqlType.parse_ascii {s schema : String} (nullable defaulted identity : Value)
    (hascii : IsAscii s.toList)
    (hshort : ∀ d, Declaration.Writes d s.toList → Document.HasShortNumbers d) :
    let parsed (s : String) : Result SqlType :=
      SqlType.parse (.text s) { nullable, defaulted, identity, schema := .text schema }
    (Succeeds (parsed s) ↔ ∃ d, Declaration.Writes d s.toList) ∧
    (¬Succeeds (parsed s) → parsed s = .error (.schema (.invalidType s))) ∧
    (∀ d, Declaration.Writes d s.toList → parsed s = .ok (d.typed nullable defaulted identity)) ∧
    ∀ s' : String, IsAscii s'.toList →
      (s'.toList.map Char.toLower = s.toList.map Char.toLower →
        ∀ t, parsed s' = .ok t ↔ parsed s = .ok t) ∧
      ∀ d d', Declaration.Writes d s.toList → Declaration.Writes d' s'.toList →
        Declaration.SameParts d d' → parsed s' = parsed s := by
  intro parsed
  have hread : ∀ d, Declaration.Writes d s.toList →
      parsed s = .ok (d.typed nullable defaulted identity) := fun d hd =>
    Declaration.parse_written nullable defaulted identity hascii hd (hshort d hd)
  have hsame : ∀ s' : String, IsAscii s'.toList → ∀ d d', Declaration.Writes d s.toList →
      Declaration.Writes d' s'.toList → Declaration.SameParts d d' → parsed s' = parsed s := by
    intro s' hascii' d d' hd hd' hparts
    rw [hread d hd, ← hparts.typed_eq]
    exact Declaration.parse_written nullable defaulted identity hascii' hd'
      (hparts.hasShortNumbers (hshort d hd))
  refine ⟨⟨fun hparsed => ?_, fun ⟨d, hd⟩ => ⟨_, hread d hd⟩⟩, fun hfails => ?_, hread,
    fun s' hascii' => ⟨fun hcase t => ?_, hsame s' hascii'⟩⟩
  · by_contra hnone
    obtain ⟨t, ht⟩ := hparsed
    cases (Declaration.parse_unwritten hascii hnone _).symm.trans ht
  · exact Declaration.parse_unwritten hascii (fun ⟨d, hd⟩ => hfails ⟨_, hread d hd⟩) _
  · by_cases hwrites : ∃ d, Declaration.Writes d s.toList
    · obtain ⟨d, hd⟩ := hwrites
      obtain ⟨d', hd', hparts⟩ := hd.of_map_toLower hascii hascii' hcase
      rw [hsame s' hascii' d d' hd hd' hparts]
    · have hwrites' : ¬∃ d', Declaration.Writes d' s'.toList := fun ⟨d', hd'⟩ =>
        have ⟨d, hd, _⟩ := hd'.of_map_toLower hascii' hascii hcase.symm
        hwrites ⟨d, hd⟩
      constructor
      · intro ht
        cases (Declaration.parse_unwritten hascii' hwrites' _).symm.trans ht
      · intro ht
        cases (Declaration.parse_unwritten hascii hwrites _).symm.trans ht

/-- A character type of two words, with its length and with white space around each part. -/
theorem characterVarying_parsed :
    SqlType.parse (.text " Character  VARYING\t( 5 )\n[] ") { schema := .text "crm" } =
      .ok { name := "character varying", length := some 5, isArray := true } := by
  let d : Declaration := ⟨"Character  VARYING".toList, some ['5'], none, true⟩
  have hascii : IsAscii " Character  VARYING\t( 5 )\n[] ".toList := by decide
  have hread : Declaration.parse? " Character  VARYING\t( 5 )\n[] ".toList = some d := by
    decide +kernel
  have hwrites : Declaration.Writes d " Character  VARYING\t( 5 )\n[] ".toList := by
    have hnumber : Declaration.WritesNumber ['5'] " 5 ".toList := ⟨[' '], [' '], by decide⟩
    exact ⟨[' '], ['\t'], "( 5 )".toList, "\n[] ".toList, by decide, by decide, by decide,
      by decide, .one hnumber, ['\n'], [' '], by decide⟩
  have hshort : ∀ d, Declaration.Writes d " Character  VARYING\t( 5 )\n[] ".toList →
      Document.HasShortNumbers d := by
    intro e he
    have hparts := Option.some.inj ((Declaration.parse?_written hascii he).symm.trans hread)
    have hfirst : e.first = some ['5'] := congrArg Declaration.first hparts
    have hsecond : e.second = none := congrArg Declaration.second hparts
    constructor
    · rw [hfirst]
      intro digits hdigits
      cases hdigits
      decide
    · rw [hsecond]
      exact nofun
  have hname : Declaration.plainName d.name = "character varying" := by decide +kernel
  refine ((SqlType.parse_ascii (.bool true) (.bool false) (.bool false) hascii hshort).2.2.1 d
    hwrites).trans ?_
  rw [Declaration.typed, Declaration.hasLength, hname]
  rfl

/-! ## Sizes -/

theorem decimalValue?_lt (c : Char) : (decimalValue? c).getD 0 < 10 := by
  unfold decimalValue?
  split
  · rename_i hdigit
    have hc := (Char.isDigit_iff_toNat.1 hdigit).2
    have h9 : '9'.toNat = 57 := rfl
    rw [Option.getD_some]
    omega
  · cases hzero : decimalZeros.find? fun z => z ≤ c.toNat && c.toNat < z + 10 with
    | none => exact Nat.zero_lt_succ 9
    | some z =>
      have hc := List.find?_some hzero
      rw [Bool.and_eq_true, decide_eq_true_eq, decide_eq_true_eq] at hc
      rw [Option.map_some, Option.getD_some]
      omega

/-- Decimal digits write a number of no more digits. -/
theorem decimalNumber_lt (digits : List Char) : decimalNumber digits < 10 ^ digits.length := by
  simpa [decimalNumber] using foldl_digits_lt (fun c _ => decimalValue?_lt c) 0

/-- A number that is read is short enough to be written. -/
theorem length_toDigits_of_readNumber {digits : List Char} {n : Int}
    (h : readNumber digits = .ok n) : (Nat.toDigits 10 n.natAbs).length ≤ maxDigits := by
  unfold readNumber at h
  split at h
  · cases h
  · rename_i hlength
    cases h
    rw [Int.natAbs_natCast, Nat.length_toDigits_le_iff (by decide) (by decide)]
    exact (decimalNumber_lt digits).trans_le
      (Nat.pow_le_pow_right (by decide) (Nat.le_of_not_lt hlength))

theorem length_toDigits_of_sizeOf {name : String} {d : Declaration}
    {sizes : Option Int × Option Int × Option Int} (h : sizeOf name d = .ok sizes) (n : Int)
    (hn : some n ∈ [sizes.1, sizes.2.1, sizes.2.2]) :
    (Nat.toDigits 10 n.natAbs).length ≤ maxDigits := by
  unfold sizeOf at h
  split at h
  · cases h
    simp at hn
  · obtain ⟨m, hm, h⟩ := Result.ok_of_bind h
    have hmn : m = n := by
      split at h <;> cases h <;> simpa [eq_comm] using hn
    exact hmn ▸ length_toDigits_of_readNumber hm
  · obtain ⟨p, hp, h⟩ := Result.ok_of_bind h
    obtain ⟨s, hs, h⟩ := Result.ok_of_bind h
    cases h
    obtain rfl | rfl : n = p ∨ n = s := by simpa using hn
    · exact length_toDigits_of_readNumber hp
    · exact length_toDigits_of_readNumber hs

/-- **The sizes of a declared type are short enough to be written**: their decimal forms are within
the bound that their digits were read with. -/
theorem SqlType.parse_sizes {declaration : Value} {context : TypeContext} {t : SqlType}
    (h : SqlType.parse declaration context = .ok t) (n : Int)
    (hn : some n ∈ [t.length, t.precision, t.scale]) :
    (Nat.toDigits 10 n.natAbs).length ≤ maxDigits := by
  unfold SqlType.parse at h
  split at h
  · split at h
    · obtain ⟨sizes, hsizes, h⟩ := Result.ok_of_bind h
      obtain ⟨udt, -, h⟩ := Result.ok_of_bind h
      cases h
      exact length_toDigits_of_sizeOf hsizes n hn
    · cases h
  · cases h

end TableInterfaces.Sql
