import TableInterfaces.Json.Parser
import TableInterfaces.Proofs.Json.Numeral
import TableInterfaces.Proofs.Json.WellFormed

/-!
# Values of texts

Reading a text keeps what is finished and what is open well-formed (`Expect.WellFormed`,
`Frame.WellFormed`), token by token. Main statement:

* `wellFormed_of_parse`: the value of a text is well-formed.
-/

namespace TableInterfaces.Json

open TableInterfaces.Number

/-! ## Tokens -/

/-- How the token that starts with a character is scanned, by the kinds of tokens. -/
inductive Scanned (place : Nat) (c : Char) (rest : List Char) : Token → Prop where
  | openList (hc : c = '[') : Scanned place c rest .openList
  | closeList : Scanned place c rest .closeList
  | openObject (hc : c = '\x7b') : Scanned place c rest .openObject
  | closeObject : Scanned place c rest .closeObject
  | colon : Scanned place c rest .colon
  | comma : Scanned place c rest .comma
  | text {codes : List Nat} {length : Nat}
      (hscan : scanText place (place + 1) 0 [] rest = .ok (codes, length)) :
      Scanned place c rest (.text codes)
  | broken (defect : Defect) (at_ : Nat) : Scanned place c rest (.broken defect at_)
  | constant {name : List Char} {v : Value} (hmem : (name, v) ∈ namedConstants) :
      Scanned place c rest (.constant v)
  | number {token : Token} {length : Nat} (hscan : scanNumber? (c :: rest) = some (token, length)) :
      Scanned place c rest token
  | other : Scanned place c rest .other

/-- Every token is scanned in one of these ways. -/
theorem scanned_scanToken (place : Nat) (c : Char) (rest : List Char) :
    Scanned place c rest (scanToken place c rest).1 := by
  unfold scanToken
  split
  · exact .openList ‹_›
  split
  · exact .closeList
  split
  · exact .openObject (Char.toNat_inj.1 ‹_›)
  split
  · exact .closeObject
  split
  · exact .colon
  split
  · exact .comma
  split
  · split
    · exact .text ‹_›
    · exact .broken _ _
  · split
    · rename_i hfind
      exact .constant (List.mem_of_find?_eq_some hfind)
    · split
      · exact .number ‹_›
      · exact .other

/-- The value that a token stands for is well-formed. -/
def Token.WellFormed (token : Token) : Prop :=
  ∀ v, token = .constant v → v.WellFormed

/-- A number grows by no more places than digits are read behind it. -/
theorem foldl_digits_lt {value : Char → Nat} {digits : List Char}
    (h : ∀ c ∈ digits, value c < 10) (n : Nat) :
    digits.foldl (fun n c => 10 * n + value c) n < (n + 1) * 10 ^ digits.length := by
  induction digits generalizing n with
  | nil => simp
  | cons c digits ih =>
    obtain ⟨hc, hrest⟩ := List.forall_mem_cons.1 h
    calc digits.foldl (fun n c => 10 * n + value c) (10 * n + value c)
        < (10 * n + value c + 1) * 10 ^ digits.length := ih hrest _
      _ ≤ (n + 1) * 10 * 10 ^ digits.length := Nat.mul_le_mul_right _ (by omega)
      _ = (n + 1) * 10 ^ (c :: digits).length := by
        rw [Nat.mul_assoc, ← Nat.pow_succ', List.length_cons]

/-- Digits are read as a number of no more digits. -/
theorem digitsNumber_lt {digits : List Char} (h : ∀ c ∈ digits, c.isDigit = true) :
    digitsNumber digits < 10 ^ digits.length := by
  have hvalue : ∀ c ∈ digits, c.toNat - 48 < 10 := by
    intro c hc
    have hle := (Char.isDigit_iff_toNat.1 (h c hc)).2
    have h9 : '9'.toNat = 57 := rfl
    omega
  simpa [digitsNumber] using foldl_digits_lt hvalue 0

theorem wholeDigits_isDigit (cs : List Char) : ∀ c ∈ wholeDigits cs, c.isDigit = true := by
  intro c hc
  unfold wholeDigits at hc
  split at hc
  · rw [List.mem_singleton.1 hc]
    rfl
  · exact List.all_eq_true.1 List.all_takeWhile c hc

/-- The number that starts a text is well-formed. -/
theorem scanNumber?_wellFormed {cs : List Char} {token : Token} {length : Nat}
    (h : scanNumber? cs = some (token, length)) : token.WellFormed := by
  rintro v rfl
  unfold scanNumber? at h
  dsimp only at h
  generalize (cs.head? == some '-') = negative at h
  generalize cs.drop (if negative = true then 1 else 0) = unsigned at h
  have hdigits := wholeDigits_isDigit unsigned
  generalize wholeDigits unsigned = whole at h hdigits
  generalize fractionDigits (unsigned.drop whole.length) = fraction at h
  generalize exponentPart? _ = exponent at h
  by_cases hempty : whole.isEmpty = true
  · rw [if_pos hempty] at h
    cases h
  by_cases hint : (fraction.isEmpty && exponent.isNone) = true
  · rw [if_neg hempty, if_pos hint] at h
    split at h
    · cases h
    · rename_i hlength
      cases h
      refine .int ?_
      have hne : 0 < whole.length := by
        rw [List.length_pos_iff]
        simpa using hempty
      have hvalue :
          (if negative = true then -(digitsNumber whole : Int) else digitsNumber whole).natAbs =
          digitsNumber whole := by
        split
        · rw [Int.natAbs_neg, Int.natAbs_natCast]
        · rw [Int.natAbs_natCast]
      rw [hvalue]
      have hshort := (Nat.length_toDigits_le_iff (by decide) hne).2 (digitsNumber_lt hdigits)
      exact hshort.trans (Nat.not_lt.1 hlength)
  · rw [if_neg hempty, if_neg hint] at h
    cases h
    exact .float (Double.ofDecimal_inFormat _ _ _)

theorem namedConstants_wellFormed : ∀ constant ∈ namedConstants, constant.2.WellFormed := by
  intro constant h
  simp only [namedConstants, List.mem_cons, List.not_mem_nil, or_false] at h
  rcases h with rfl | rfl | rfl | rfl | rfl | rfl
  · exact .null
  · exact .bool true
  · exact .bool false
  · exact .float trivial
  · exact .float trivial
  · exact .float trivial

/-- The token that is read is well-formed. -/
theorem scanToken_wellFormed (place : Nat) (c : Char) (rest : List Char) :
    (scanToken place c rest).1.WellFormed := by
  intro v h
  have hscanned := scanned_scanToken place c rest
  rw [h] at hscanned
  cases hscanned with
  | constant hmem => exact namedConstants_wellFormed _ hmem
  | number hscan => exact scanNumber?_wellFormed hscan v rfl

/-- A token of a text marks its end, or is scanned at the start of what is left of it. -/
theorem scanned_of_mem_tokensFrom {place : Nat} {cs : List Char} {entry : Token × Nat}
    (h : entry ∈ tokensFrom place cs) : entry.1 = .finish ∨
      ∃ c rest, c :: rest <:+ cs ∧ (scanToken entry.2 c rest).1 = entry.1 := by
  fun_induction tokensFrom place cs with
  | case1 place =>
    rw [List.mem_singleton.1 h]
    exact .inl rfl
  | case2 place c rest hspace ih =>
    refine (ih h).imp_right fun ⟨d, more, hsuffix, hscan⟩ => ⟨d, more, ?_, hscan⟩
    exact hsuffix.trans (List.suffix_cons c rest)
  | case3 place c rest hspace token length hscan ih =>
    rcases List.mem_cons.1 h with rfl | h
    · refine .inr ⟨c, rest, List.suffix_refl _, ?_⟩
      dsimp only
      rw [hscan]
    · refine (ih h).imp_right fun ⟨d, more, hsuffix, hscan⟩ => ⟨d, more, ?_, hscan⟩
      exact hsuffix.trans ((List.drop_suffix length rest).trans (List.suffix_cons c rest))

/-- The tokens of a text are well-formed. -/
theorem tokensFrom_wellFormed (place : Nat) (cs : List Char) :
    ∀ entry ∈ tokensFrom place cs, entry.1.WellFormed := by
  intro entry hentry
  rcases scanned_of_mem_tokensFrom hentry with hfinish | ⟨c, rest, -, hscan⟩
  · rw [hfinish]
    exact nofun
  · rw [← hscan]
    exact scanToken_wellFormed entry.2 c rest

/-! ## Readers -/

/-- The fields of an object have different names and well-formed values. -/
structure FieldsWellFormed (fields : List (String × Value)) : Prop where
  names : (fields.map (·.1)).Nodup
  values : ∀ field ∈ fields, field.2.WellFormed

theorem FieldsWellFormed.assign {fields : List (String × Value)} (h : FieldsWellFormed fields)
    (name : String) {v : Value} (hv : v.WellFormed) : FieldsWellFormed (assign fields name v) where
  names := nodup_assign h.names
  values := by
    intro field hfield
    rcases mem_assign hfield with rfl | hfield
    · exact hv
    · exact h.values field hfield

theorem FieldsWellFormed.merge {fields later : List (String × Value)} (h : FieldsWellFormed fields)
    (hlater : ∀ field ∈ later, field.2.WellFormed) : FieldsWellFormed (merge fields later) where
  names := nodup_merge h.names
  values field hfield := (mem_merge hfield).elim (h.values field) (hlater field)

/-- What is open is well-formed. -/
def Frame.WellFormed : Frame → Prop
  | .list items => ∀ v ∈ items, v.WellFormed
  | .object fields _ => FieldsWellFormed fields

/-- What is expected goes on with something well-formed. -/
def Expect.WellFormed : Expect → Prop
  | .value _ => True
  | .name fields _ => FieldsWellFormed fields
  | .colon fields _ => FieldsWellFormed fields
  | .follow v => v.WellFormed

/-- What a step leads to is well-formed. -/
def OutcomeWellFormed : Expect × List Frame ⊕ Value → Prop
  | .inl (expect, stack) => expect.WellFormed ∧ ∀ frame ∈ stack, frame.WellFormed
  | .inr v => v.WellFormed

/-- One token keeps everything well-formed. -/
theorem step_wellFormed {expect : Expect} {stack : List Frame} {token : Token} {place : Nat}
    {outcome : Expect × List Frame ⊕ Value} (hexpect : expect.WellFormed)
    (hstack : ∀ frame ∈ stack, frame.WellFormed) (htoken : token.WellFormed)
    (h : step expect stack token place = .ok outcome) : OutcomeWellFormed outcome := by
  cases expect with
  | value mayClose =>
    dsimp only [step] at h
    split at h
    · cases h
      exact ⟨.text _, hstack⟩
    · cases h
      exact ⟨htoken _ rfl, hstack⟩
    · split at h
      · cases h
        exact ⟨trivial, List.forall_mem_cons.2 ⟨nofun, hstack⟩⟩
      · cases h
    · split at h
      · cases h
        exact ⟨⟨List.nodup_nil, nofun⟩, hstack⟩
      · cases h
    · split at h
      · cases h
        obtain ⟨hitems, houter⟩ := List.forall_mem_cons.1 hstack
        exact ⟨.list fun v hv => hitems v (List.mem_reverse.1 hv), houter⟩
      · cases h
    · cases h
    · cases h
    · cases h
  | name fields mayClose =>
    dsimp only [step] at h
    split at h
    · cases h
      exact ⟨hexpect, hstack⟩
    · split at h
      · cases h
        exact ⟨.object hexpect.names hexpect.values, hstack⟩
      · cases h
    · cases h
    · cases h
  | colon fields name =>
    dsimp only [step] at h
    split at h
    · cases h
      exact ⟨trivial, List.forall_mem_cons.2 ⟨hexpect, hstack⟩⟩
    · cases h
  | follow v =>
    dsimp only [step] at h
    split at h
    · cases h
      exact hexpect
    · cases h
    · cases h
      obtain ⟨hitems, houter⟩ := List.forall_mem_cons.1 hstack
      exact ⟨trivial, List.forall_mem_cons.2 ⟨List.forall_mem_cons.2 ⟨hexpect, hitems⟩, houter⟩⟩
    · cases h
      obtain ⟨hitems, houter⟩ := List.forall_mem_cons.1 hstack
      have hall : (Frame.list (v :: _)).WellFormed := List.forall_mem_cons.2 ⟨hexpect, hitems⟩
      exact ⟨.list fun w hw => hall w (List.mem_reverse.1 hw), houter⟩
    · cases h
      obtain ⟨hopen, houter⟩ := List.forall_mem_cons.1 hstack
      exact ⟨FieldsWellFormed.assign hopen _ hexpect, houter⟩
    · rename_i fields name outer
      cases h
      obtain ⟨hopen, houter⟩ := List.forall_mem_cons.1 hstack
      have hfields := FieldsWellFormed.assign hopen name hexpect
      exact ⟨.object hfields.names hfields.values, houter⟩
    · cases h

/-- The value of well-formed tokens is well-formed. -/
theorem parseTokens_wellFormed {expect : Expect} {stack : List Frame}
    {entries : List (Token × Nat)} {v : Value} (hexpect : expect.WellFormed)
    (hstack : ∀ frame ∈ stack, frame.WellFormed) (hentries : ∀ entry ∈ entries, entry.1.WellFormed)
    (h : parseTokens expect stack entries = .ok v) : v.WellFormed := by
  induction entries generalizing expect stack with
  | nil => cases h
  | cons entry entries ih =>
    obtain ⟨token, place⟩ := entry
    obtain ⟨htoken, hrest⟩ := List.forall_mem_cons.1 hentries
    rw [parseTokens] at h
    split at h
    · cases h
    · rename_i w hstep
      cases h
      exact step_wellFormed hexpect hstack htoken hstep
    · rename_i expect' stack' hstep
      obtain ⟨hexpect', hstack'⟩ := step_wellFormed hexpect hstack htoken hstep
      exact ih hexpect' hstack' hrest h

/-- **The value of a text is well-formed.** -/
theorem wellFormed_of_parse {text : String} {v : Value} (h : parse text = .ok v) : v.WellFormed := by
  unfold parse at h
  dsimp only at h
  split at h
  · cases h
  · split at h
    · rename_i w htokens
      cases h
      have hstart : (Expect.value false).WellFormed := trivial
      exact parseTokens_wellFormed hstart (fun _ hframe => absurd hframe List.not_mem_nil)
        (tokensFrom_wellFormed 0 _) htokens
    · cases h
    · cases h
    · cases h

end TableInterfaces.Json
