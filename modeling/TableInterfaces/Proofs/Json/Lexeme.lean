import TableInterfaces.Json.Printer
import TableInterfaces.Proofs.Json.Numeral

/-!
# Written tokens

The parts that a written value consists of are read as one token each, whatever text follows; only a
numeral must not go on. `Lexeme text token rest` says this of a text with a rest behind it. Main
statements:

* `lexeme_text`: a text in quotes is read as the codes of its characters.
* `lexeme_of_numeral`: a numeral is read as its number.
-/

namespace TableInterfaces.Json

open TableInterfaces.Number
open TableInterfaces.Text

/-- A text is read as one token, up to what follows. -/
def Lexeme (text : List Char) (token : Token) (rest : List Char) : Prop :=
  ∃ c cs, text = c :: cs ∧ isJsonSpace c = false ∧
    ∀ place, scanToken place c (cs ++ rest) = (token, cs.length)

/-- A token that is read stands in front of the tokens that follow. -/
theorem tokensFrom_lexeme {text rest : List Char} {token : Token} (h : Lexeme text token rest)
    (place : Nat) :
    tokensFrom place (text ++ rest) = (token, place) :: tokensFrom (place + text.length) rest := by
  obtain ⟨c, cs, rfl, hspace, hscan⟩ := h
  rw [List.cons_append, tokensFrom, hspace, if_neg Bool.false_ne_true, hscan]
  dsimp only
  rw [List.drop_left, List.length_cons, Nat.add_right_comm, Nat.add_assoc]

/-- Spacing between tokens is skipped. -/
theorem tokensFrom_spaces {spaces : List Char} (h : ∀ c ∈ spaces, isJsonSpace c = true) (place : Nat)
    (rest : List Char) :
    tokensFrom place (spaces ++ rest) = tokensFrom (place + spaces.length) rest := by
  induction spaces generalizing place with
  | nil => rfl
  | cons c cs ih =>
    rw [List.cons_append, tokensFrom, h c List.mem_cons_self, if_pos rfl,
      ih (fun d hd => h d (List.mem_cons_of_mem c hd)), List.length_cons, Nat.add_right_comm,
      Nat.add_assoc]

/-! ## Marks and constants -/

theorem lexeme_openList (rest : List Char) : Lexeme ['['] .openList rest :=
  ⟨_, _, rfl, rfl, fun _ => rfl⟩

theorem lexeme_closeList (rest : List Char) : Lexeme [']'] .closeList rest :=
  ⟨_, _, rfl, rfl, fun _ => rfl⟩

theorem lexeme_openObject (rest : List Char) : Lexeme ['\x7b'] .openObject rest :=
  ⟨_, _, rfl, rfl, fun _ => rfl⟩

theorem lexeme_closeObject (rest : List Char) : Lexeme ['\x7d'] .closeObject rest :=
  ⟨_, _, rfl, rfl, fun _ => rfl⟩

theorem lexeme_colon (rest : List Char) : Lexeme [':'] .colon rest :=
  ⟨_, _, rfl, rfl, fun _ => rfl⟩

theorem lexeme_comma (rest : List Char) : Lexeme [','] .comma rest :=
  ⟨_, _, rfl, rfl, fun _ => rfl⟩

theorem lexeme_null (rest : List Char) : Lexeme "null".toList (.constant .null) rest :=
  ⟨_, _, rfl, rfl, fun _ => rfl⟩

theorem lexeme_bool (b : Bool) (rest : List Char) :
    Lexeme (written 0 (.bool b)).toList (.constant (.bool b)) rest := by
  cases b <;> exact ⟨_, _, rfl, rfl, fun _ => rfl⟩

/-! ## Code points -/

theorem charOfCode?_toNat (c : Char) : charOfCode? c.toNat = some c := by
  have hvalid : c.toNat.isValidChar := c.valid
  unfold charOfCode?
  rw [dif_pos hvalid]
  rfl

theorem codeChar_toNat (c : Char) : codeChar c.toNat = c := by
  rw [codeChar, charOfCode?_toNat, Option.getD_some]

/-- The codes of a text are read as the text. -/
theorem textOfCodes_map_toNat (s : String) : textOfCodes (s.toList.map Char.toNat) = s := by
  have hchars : (s.toList.map Char.toNat).map codeChar = s.toList := by
    rw [List.map_map]
    exact (List.map_congr_left fun c _ => codeChar_toNat c).trans (List.map_id _)
  rw [textOfCodes, hchars, String.ofList_toList]

/-! ## Texts -/

/-- Characters that belong to an escape are passed over. -/
theorem scanText_skip (start place : Nat) (read : List Nat) (escape rest : List Char) :
    scanText start place escape.length read (escape ++ rest) =
      scanText start (place + escape.length) 0 read rest := by
  induction escape generalizing place with
  | nil => rfl
  | cons c cs ih =>
    rw [List.length_cons, List.cons_append, scanText, ih, Nat.add_right_comm, Nat.add_assoc]

/-- An escape is read as its code point. -/
theorem scanText_escape {start place code : Nat} {read : List Nat} {rest : List Char}
    (escape : List Char) (h : scanEscape (escape ++ rest) = .ok (code, escape.length)) :
    scanText start place 0 read ('\\' :: escape ++ rest) =
      scanText start (place + ('\\' :: escape).length) 0 (code :: read) rest := by
  rw [List.cons_append, scanText, if_neg (by decide), if_pos rfl, h]
  dsimp only
  rw [scanText_skip, List.length_cons, Nat.add_right_comm, Nat.add_assoc]

/-- The hexadecimal digits of a control character are read as its code. -/
theorem fourHex?_hexDigits {n : Nat} (hn : n < 0x20) {rest : List Char} (hrest : rest ≠ []) :
    fourHex? (hexDigits 4 n ++ rest) = some n := by
  have hlength : (hexDigits 4 n).length = 4 := rfl
  have hread : ∀ n < 0x20,
      (hexDigits 4 n).foldlM (fun n c => (hexValue? c).map (16 * n + ·)) 0 = some n := by decide
  have hpos := List.length_pos_iff.2 hrest
  unfold fourHex?
  rw [if_neg (by rw [List.length_append, hlength]; omega), List.take_left' hlength]
  exact hread n hn

/-- A written character is read as its code. -/
theorem scanText_writtenChar (start place : Nat) (read : List Nat) (c : Char) {rest : List Char}
    (hrest : rest ≠ []) :
    scanText start place 0 read (writtenChar c ++ rest) =
      scanText start (place + (writtenChar c).length) 0 (c.toNat :: read) rest := by
  have heq : ∀ n, c.toNat = n → c = Char.ofNat n := by
    rintro n rfl
    exact (Char.ofNat_toNat c).symm
  unfold writtenChar
  split
  · rename_i h
    subst h
    exact scanText_escape [doubleQuote] rfl
  split
  · rename_i h
    subst h
    exact scanText_escape ['\\'] rfl
  split
  · rename_i h
    subst h
    exact scanText_escape ['n'] rfl
  split
  · rename_i h
    subst h
    exact scanText_escape ['r'] rfl
  split
  · rename_i h
    subst h
    exact scanText_escape ['t'] rfl
  split
  · rename_i h
    rw [heq _ h]
    exact scanText_escape ['f'] rfl
  split
  · rename_i h
    rw [heq _ h]
    exact scanText_escape ['b'] rfl
  split
  · rename_i h
    refine scanText_escape ('u' :: hexDigits 4 c.toNat) ?_
    have hhigh : isHighSurrogate c.toNat = false := by
      unfold isHighSurrogate
      rw [decide_eq_false (by omega), Bool.false_and]
    rw [List.cons_append, scanEscape, fourHex?_hexDigits h hrest]
    dsimp only
    rw [hhigh, if_neg (fun h => Bool.false_ne_true h.1)]
    rfl
  · rename_i hquote hslash _ _ _ _ _ hcontrol
    rw [List.singleton_append, scanText, if_neg hquote, if_neg hslash, if_neg hcontrol]
    rfl

/-- A written text is read up to its closing quote. -/
theorem scanText_written (start place : Nat) (read : List Nat) (cs rest : List Char) :
    scanText start place 0 read (cs.flatMap writtenChar ++ doubleQuote :: rest) =
      .ok (read.reverse ++ cs.map Char.toNat,
        place + (cs.flatMap writtenChar).length - start) := by
  induction cs generalizing place read with
  | nil =>
    rw [List.flatMap_nil, List.nil_append, scanText, if_pos rfl, List.map_nil, List.append_nil]
    rfl
  | cons c cs ih =>
    rw [List.flatMap_cons, List.append_assoc, scanText_writtenChar _ _ _ _ (by simp), ih,
      List.reverse_cons, List.append_assoc, List.singleton_append, ← List.map_cons,
      List.length_append, Nat.add_assoc]

/-- **A text in quotes is read as the codes of its characters.** -/
theorem lexeme_text (s : String) (rest : List Char) :
    Lexeme (writtenText s).toList (.text (s.toList.map Char.toNat)) rest := by
  refine ⟨doubleQuote, s.toList.flatMap writtenChar ++ [doubleQuote], ?_, rfl, ?_⟩
  · rw [writtenText, String.toList_ofList, List.cons_append]
  · intro place
    have hscan := scanText_written place (place + 1) [] s.toList rest
    rw [List.reverse_nil, List.nil_append] at hscan
    rw [List.append_assoc, List.singleton_append]
    have hquote : scanToken place doubleQuote (s.toList.flatMap writtenChar ++
        doubleQuote :: rest) =
        (.text (s.toList.map Char.toNat),
          place + 1 + (s.toList.flatMap writtenChar).length - place) := by
      simp only [scanToken, hscan]
      rfl
    refine hquote.trans (Prod.ext rfl ?_)
    dsimp only
    rw [List.length_append, List.length_singleton]
    omega

/-! ## Numbers -/

/-- What starts like a numeral is no named constant. -/
theorem find?_namedConstants {text : List Char} (h : StartsNumeral text) (rest : List Char) :
    namedConstants.find? (fun constant => constant.1.isPrefixOf (text ++ rest)) = none := by
  obtain ⟨d, ds, hd, htext⟩ := h
  have hne : ∀ c : Char, c.isDigit = false → (c == d) = false :=
    fun c hc => beq_eq_false_iff_ne.2 (ne_of_isDigit hd hc).symm
  have hnames : namedConstants.map (·.1) = [['n', 'u', 'l', 'l'], ['t', 'r', 'u', 'e'],
      ['f', 'a', 'l', 's', 'e'], ['N', 'a', 'N'], ['I', 'n', 'f', 'i', 'n', 'i', 't', 'y'],
      ['-', 'I', 'n', 'f', 'i', 'n', 'i', 't', 'y']] := rfl
  refine List.find?_eq_none.2 fun constant hconstant => ?_
  have hname := List.mem_map_of_mem (f := (·.1)) hconstant
  rw [hnames] at hname
  rcases htext with rfl | rfl <;> simp only [List.mem_cons, List.not_mem_nil, or_false] at hname <;>
    rcases hname with h | h | h | h | h | h <;>
    simp [h, List.isPrefixOf, hne]

/-- What starts like a numeral is no mark. -/
theorem scanToken_of_numeral {c : Char} {cs : List Char} (h : StartsNumeral (c :: cs)) :
    isJsonSpace c = false ∧ ∀ place rest, scanToken place c (cs ++ rest) =
      match scanNumber? (c :: (cs ++ rest)) with
      | some (token, length) => (token, length - 1)
      | none => (.other, 0) := by
  have hcode : c.toNat < 58 ∧ 44 < c.toNat ∧ c.toNat ≠ 46 := by
    obtain ⟨d, ds, hd, htext | htext⟩ := h <;> cases htext
    · have hrange := Char.isDigit_iff_toNat.1 hd
      have h0 : '0'.toNat = 48 := rfl
      have h9 : '9'.toNat = 57 := rfl
      omega
    · decide
  have hne : ∀ d : Char, (58 ≤ d.toNat ∨ d.toNat ≤ 44) → c ≠ d := by
    rintro d hd rfl
    omega
  constructor
  · simp [isJsonSpace, hne]
  · intro place rest
    have hname := find?_namedConstants h rest
    rw [List.cons_append] at hname
    unfold scanToken
    rw [if_neg (hne '[' (by decide)), if_neg (hne ']' (by decide)), if_neg (by omega),
      if_neg (by omega), if_neg (hne ':' (by decide)), if_neg (hne ',' (by decide)),
      if_neg (hne doubleQuote (by decide))]
    cases scanNumber? (c :: (cs ++ rest)) with
    | none => simp only [hname]
    | some found => simp only [hname]

/-- **A numeral is read as its token,** where no numeral goes on. -/
theorem lexeme_of_numeral {text rest : List Char} {token : Token} (h : Numeral text token)
    (hrest : EndsNumeral rest) : Lexeme text token rest := by
  obtain ⟨c, cs, rfl⟩ : ∃ c cs, text = c :: cs := by
    obtain ⟨d, ds, _, rfl | rfl⟩ := h.starts <;> exact ⟨_, _, rfl⟩
  obtain ⟨hspace, htoken⟩ := scanToken_of_numeral h.starts
  refine ⟨c, cs, rfl, hspace, fun place => ?_⟩
  rw [htoken, ← List.cons_append, h.scan rest hrest]
  rfl

/-- A written double is read as itself. -/
theorem lexeme_double {x : Double} (hx : x.InFormat) {rest : List Char} (hrest : EndsNumeral rest) :
    Lexeme (writtenDouble x).toList (.constant (.float x)) rest := by
  cases x with
  | nan => exact ⟨_, _, rfl, rfl, fun _ => rfl⟩
  | infinite negative => cases negative <;> exact ⟨_, _, rfl, rfl, fun _ => rfl⟩
  | finite negative m e => exact lexeme_of_numeral (numeral_double hx) hrest

end TableInterfaces.Json
