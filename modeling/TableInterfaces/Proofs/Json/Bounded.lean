import TableInterfaces.Proofs.Json.Lexeme
import TableInterfaces.Proofs.Json.Parsed

/-!
# The bounds of the reader

A text that is no value has a flaw, or it is beyond a bound of the reader: a whole number has too
many digits, or too many lists and objects are open at one place. Main statements:

* `isBounded_of_text`: a text whose rows of digits and whose brackets are few enough is within the
  bounds.
* `parse_digits` and `parse_brackets`: longer rows of digits and of brackets are beyond them.
-/

namespace TableInterfaces.Json

open TableInterfaces.Text

/-- Reading a text stays within the bounds of the reader. -/
def IsBounded (text : String) : Prop :=
  parse text ≠ .error .tooDeep ∧ ∀ digits, parse text ≠ .error (.longNumber digits)

/-! ## Long numbers -/

/-- Only the token of a long number stops a reader at one. -/
theorem step_longNumber {expect : Expect} {stack : List Frame} {token : Token} {place digits : Nat}
    (h : step expect stack token place = .error (.longNumber digits)) :
    token = .longNumber digits := by
  unfold step at h
  repeat' split at h
  all_goals cases h
  rfl

theorem parseTokens_longNumber {expect : Expect} {stack : List Frame} {entries : List (Token × Nat)}
    {digits : Nat} (h : parseTokens expect stack entries = .error (.longNumber digits)) :
    ∃ entry ∈ entries, entry.1 = .longNumber digits := by
  induction entries generalizing expect stack with
  | nil => cases h
  | cons entry entries ih =>
    obtain ⟨token, place⟩ := entry
    rw [parseTokens] at h
    split at h
    · rename_i misfit hstep
      cases h
      exact ⟨_, List.mem_cons_self, step_longNumber hstep⟩
    · cases h
    · obtain ⟨entry, hentry, htoken⟩ := ih h
      exact ⟨entry, List.mem_cons_of_mem _ hentry, htoken⟩

theorem prefix_wholeDigits (cs : List Char) : wholeDigits cs <+: cs := by
  unfold wholeDigits
  split
  · rename_i rest
    exact List.prefix_append ['0'] rest
  · exact List.takeWhile_prefix _

/-- A text holds a row of so many digits. -/
def HoldsDigits (count : Nat) (cs : List Char) : Prop :=
  ∃ row, row <:+: cs ∧ (∀ c ∈ row, c.isDigit = true) ∧ row.length = count

theorem HoldsDigits.mono {count : Nat} {cs ds : List Char} (h : HoldsDigits count cs)
    (hwithin : cs <:+: ds) : HoldsDigits count ds := by
  obtain ⟨row, hrow, hdigits, hlength⟩ := h
  exact ⟨row, hrow.trans hwithin, hdigits, hlength⟩

/-- A number is read as its value, or it is a long row of digits in the text. -/
theorem scanNumber?_cases {cs : List Char} {token : Token} {length : Nat}
    (h : scanNumber? cs = some (token, length)) :
    (∃ v, token = .constant v) ∨
      ∃ digits, token = .longNumber digits ∧ maxDigits < digits ∧ HoldsDigits digits cs := by
  unfold scanNumber? at h
  dsimp only at h
  generalize (cs.head? == some '-') = negative at h
  have hunsigned := (List.drop_suffix (if negative = true then 1 else 0) cs).isInfix
  generalize cs.drop (if negative = true then 1 else 0) = unsigned at h hunsigned
  have hdigits := wholeDigits_isDigit unsigned
  have hwithin := (prefix_wholeDigits unsigned).isInfix.trans hunsigned
  generalize wholeDigits unsigned = whole at h hdigits hwithin
  generalize fractionDigits (unsigned.drop whole.length) = fraction at h
  generalize exponentPart? _ = exponent at h
  by_cases hempty : whole.isEmpty = true
  · rw [if_pos hempty] at h
    cases h
  rw [if_neg hempty] at h
  by_cases hinteger : (fraction.isEmpty && exponent.isNone) = true
  · rw [if_pos hinteger] at h
    by_cases hlong : maxDigits < whole.length
    · rw [if_pos hlong] at h
      cases h
      exact .inr ⟨_, rfl, hlong, whole, hwithin, hdigits, rfl⟩
    · rw [if_neg hlong] at h
      cases h
      exact .inl ⟨_, rfl⟩
  · rw [if_neg hinteger] at h
    cases h
    exact .inl ⟨_, rfl⟩

theorem scanToken_longNumber {place digits : Nat} {c : Char} {rest : List Char}
    (h : (scanToken place c rest).1 = .longNumber digits) :
    maxDigits < digits ∧ HoldsDigits digits (c :: rest) := by
  have hscanned := scanned_scanToken place c rest
  rw [h] at hscanned
  cases hscanned with
  | number hscan =>
    obtain ⟨v, hv⟩ | ⟨count, hcount, hlong⟩ := scanNumber?_cases hscan
    · cases hv
    · cases hcount
      exact hlong

theorem tokensFrom_longNumber {digits : Nat} (place : Nat) (cs : List Char) :
    ∀ entry ∈ tokensFrom place cs, entry.1 = .longNumber digits →
      maxDigits < digits ∧ HoldsDigits digits cs := by
  intro entry hentry h
  rcases scanned_of_mem_tokensFrom hentry with hfinish | ⟨c, rest, hsuffix, hscan⟩
  · cases hfinish.symm.trans h
  · obtain ⟨hlong, hholds⟩ := scanToken_longNumber (hscan.trans h)
    exact ⟨hlong, hholds.mono hsuffix.isInfix⟩

/-- **Only a long row of digits stops the reader as a number.** -/
theorem parse_longNumber {text : String} {digits : Nat}
    (h : parse text = .error (.longNumber digits)) :
    maxDigits < digits ∧ HoldsDigits digits text.toList := by
  unfold parse at h
  dsimp only at h
  split at h
  · cases h
  · split at h
    · cases h
    · cases h
    · rename_i htokens
      cases h
      obtain ⟨entry, hentry, htoken⟩ := parseTokens_longNumber htokens
      exact tokensFrom_longNumber 0 _ entry hentry htoken
    · cases h

/-! ## Deep nesting -/

/-- A token opens a list or an object. -/
def Token.opens : Token → Bool
  | .openList | .openObject => true
  | _ => false

/-- The lists and objects that are open, one of which may still wait for its first field. -/
def openCount (expect : Expect) (stack : List Frame) : Nat :=
  match expect with
  | .value _ | .follow _ => stack.length
  | .name _ _ | .colon _ _ => stack.length + 1

/-- A token opens at most one list or object. -/
theorem openCount_step {expect next : Expect} {stack later : List Frame} {token : Token}
    {place : Nat} (h : step expect stack token place = .ok (.inl (next, later))) :
    openCount next later ≤ openCount expect stack + (if token.opens then 1 else 0) := by
  unfold step at h
  repeat' split at h
  all_goals cases h
  all_goals simp [openCount, Token.opens]

/-- A reader stops at the depth of its stack only where one more list or object is opened. -/
theorem step_tooDeep {expect : Expect} {stack : List Frame} {token : Token} {place : Nat}
    (h : step expect stack token place = .error .tooDeep) :
    token.opens = true ∧ maxDepth ≤ openCount expect stack := by
  unfold step at h
  repeat' split at h
  all_goals cases h
  all_goals
    rename_i hdepth
    exact ⟨rfl, Nat.le_of_not_lt hdepth⟩

theorem parseTokens_tooDeep {expect : Expect} {stack : List Frame} {entries : List (Token × Nat)}
    (h : parseTokens expect stack entries = .error .tooDeep) :
    maxDepth < openCount expect stack + entries.countP (·.1.opens) := by
  induction entries generalizing expect stack with
  | nil => cases h
  | cons entry entries ih =>
    obtain ⟨token, place⟩ := entry
    rw [parseTokens] at h
    rw [List.countP_cons]
    split at h
    · rename_i misfit hstep
      cases h
      obtain ⟨hopens, hdepth⟩ := step_tooDeep hstep
      rw [if_pos hopens]
      omega
    · cases h
    · rename_i next later hstep
      have hrest := ih h
      have hcount := openCount_step hstep
      dsimp only
      omega

/-- A character that opens a list or an object. -/
def isOpening (c : Char) : Bool :=
  c == '[' || c == '\x7b'

/-- Only an opening character starts a token that opens something. -/
theorem scanToken_opens {place : Nat} {c : Char} {rest : List Char}
    (h : (scanToken place c rest).1.opens = true) : isOpening c = true := by
  generalize htoken : (scanToken place c rest).1 = token at h
  have hscanned := scanned_scanToken place c rest
  rw [htoken] at hscanned
  cases hscanned with
  | openList hc | openObject hc =>
    rw [hc]
    rfl
  | number hscan =>
    obtain ⟨v, rfl⟩ | ⟨digits, rfl, -⟩ := scanNumber?_cases hscan <;> cases h
  | _ => cases h

theorem countP_tokensFrom (place : Nat) (cs : List Char) :
    (tokensFrom place cs).countP (·.1.opens) ≤ cs.countP isOpening := by
  fun_induction tokensFrom place cs with
  | case1 place => exact Nat.le_refl 0
  | case2 place c rest hspace ih => exact ih.trans ((List.sublist_cons_self c rest).countP_le)
  | case3 place c rest hspace token length hscan ih =>
    have hrest := ih.trans ((List.drop_sublist length rest).countP_le)
    have hfirst : token.opens = true → isOpening c = true := fun h =>
      scanToken_opens (by rw [hscan]; exact h)
    rw [List.countP_cons, List.countP_cons]
    dsimp only
    split
    · rename_i hopens
      rw [if_pos (hfirst hopens)]
      omega
    · omega

/-- **Only many brackets stop the reader by their depth.** -/
theorem parse_tooDeep {text : String} (h : parse text = .error .tooDeep) :
    maxDepth < text.toList.countP isOpening := by
  unfold parse at h
  dsimp only at h
  split at h
  · cases h
  · split at h
    · cases h
    · cases h
    · cases h
    · rename_i htokens
      have hdeep := parseTokens_tooDeep htokens
      have hcount := countP_tokensFrom 0 text.toList
      simp only [openCount, List.length_nil, tokens] at hdeep
      omega

/-- **Texts within the bounds.** A text with no row of too many digits and with no more opening
brackets than may be nested is a value or has a flaw. -/
theorem isBounded_of_text {text : String}
    (hdigits : ∀ count, HoldsDigits count text.toList → count ≤ maxDigits)
    (hdepth : text.toList.countP isOpening ≤ maxDepth) : IsBounded text := by
  refine ⟨fun h => absurd (parse_tooDeep h) (Nat.not_lt.2 hdepth), fun digits h => ?_⟩
  obtain ⟨hlong, hholds⟩ := parse_longNumber h
  exact absurd hlong (Nat.not_lt.2 (hdigits digits hholds))

/-! ## Texts beyond the bounds -/

/-- The tokens of a row of brackets go deeper with each of them. -/
theorem parseTokens_brackets (n place : Nat) (mayClose : Bool) (stack : List Frame)
    (h : stack.length ≤ maxDepth) (hdeep : maxDepth < stack.length + n) :
    parseTokens (.value mayClose) stack (tokensFrom place (List.replicate n '[')) =
      .error .tooDeep := by
  induction n generalizing place mayClose stack with
  | zero => omega
  | succ n ih =>
    rw [List.replicate_succ, ← List.singleton_append, tokensFrom_lexeme (lexeme_openList _)]
    simp only [parseTokens, step]
    by_cases hfull : stack.length < maxDepth
    · have hnext := ih (place + 1) true (.list [] :: stack) hfull
        (by rw [List.length_cons]; omega)
      simpa [hfull] using hnext
    · simp [hfull]

/-- **A text that nests too deep is beyond the bounds.** -/
theorem parse_brackets {n : Nat} (h : maxDepth < n) :
    parse (String.ofList (List.replicate n '[')) = .error .tooDeep := by
  obtain ⟨m, rfl⟩ := Nat.exists_eq_add_of_lt h
  have hmark : (List.replicate (maxDepth + m + 1) '[').head? ≠ some (Char.ofNat 0xFEFF) := by
    rw [List.replicate_succ, List.head?_cons]
    decide
  have htokens := parseTokens_brackets (maxDepth + m + 1) 0 false [] (Nat.zero_le _)
    (by rw [List.length_nil]; omega)
  simp only [parse, String.toList_ofList, beq_iff_eq, if_neg hmark, tokens, htokens]

end TableInterfaces.Json
