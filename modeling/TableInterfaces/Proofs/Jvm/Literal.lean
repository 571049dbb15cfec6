import TableInterfaces.Proofs.Comment.Reading
import TableInterfaces.Proofs.Json.Written
import TableInterfaces.Proofs.Jvm.Annotation

/-!
# Literals as they are read

How the literals in the arguments of an annotation are read: Unicode escapes are translated first,
wherever they stand, a literal ends at the first quote that no backslash escapes, and it may not
reach over the end of a line. Main statements:

* `readLiterals_literal`: a literal is read as the text that it is printed for just where that text
  has no line break, and otherwise what it stands in cannot be read.
* `AnnotationPolicy.literals_read`: the literals that map tables and columns, as they are read.
-/

namespace TableInterfaces

namespace Text

/-- Every occurrence of one character gives way to the same text. -/
theorem replaceFrom_singleton (a : Char) (new cs : List Char) :
    replaceFrom [a] new 0 cs = cs.flatMap fun c => if c = a then new else [c] := by
  induction cs with
  | nil => rfl
  | cons c rest ih =>
    have hprefix : [a].isPrefixOf (c :: rest) = decide (c = a) := by
      simp [List.isPrefixOf, Bool.beq_eq_decide_eq, eq_comm]
    rw [replaceFrom, hprefix, List.flatMap_cons]
    by_cases hc : c = a
    · simpa [hc] using ih
    · simpa [hc] using ih

end Text

namespace Jvm

open TableInterfaces.Comment
open TableInterfaces.Json
open TableInterfaces.Source
open TableInterfaces.Text

/-! ## The reader -/

/-- The code of the quote, which opens and closes literals. -/
def quote : Nat := 0x22

/-- A code ends a line. -/
def IsLineEnd (code : Nat) : Prop :=
  code = 0x0A ∨ code = 0x0D

instance : DecidablePred IsLineEnd :=
  fun code => inferInstanceAs (Decidable (code = 0x0A ∨ code = 0x0D))

/-- The escapes of a single letter or mark with the codes that they stand for: `b`, `s`, `t`, `n`,
`f`, `r`, both quotes and the backslash. -/
def escapes : List (Nat × Nat) :=
  [(0x62, 0x08), (0x73, 0x20), (0x74, 0x09), (0x6E, 0x0A), (0x66, 0x0C), (0x72, 0x0D),
    (quote, quote), (0x27, 0x27), (backslash, backslash)]

/-- The value of an octal digit. -/
def octalValue? (code : Nat) : Option Nat :=
  if 0x30 ≤ code ∧ code ≤ 0x37 then some (code - 0x30) else none

/-- What has been read of a text with literals: a part outside of them, which has just been
`emptied` where two quotes stand at its end, a part of a literal by the codes in it so far, the last
one first, a backslash behind such a part, or an octal escape with `room` for more digits. -/
inductive LiteralState where
  | outside (emptied : Bool)
  | inside (value : List Nat)
  | escaped (value : List Nat)
  | octal (value : List Nat) (room code : Nat)
  deriving DecidableEq, Repr

namespace LiteralState

/-- Reads a code in a literal, which may not end its line. -/
def readInside (value : List Nat) (code : Nat) : Option (LiteralState × List (List Nat)) :=
  if code = quote then some (.outside value.isEmpty, [value.reverse])
  else if code = backslash then some (.escaped value, [])
  else if IsLineEnd code then none
  else some (.inside (code :: value), [])

/-- Reads a code and gives the literal that is complete with it. Three quotes start no literal of
one line, and an octal escape has three digits only where it starts with a digit up to three. -/
def read (s : LiteralState) (code : Nat) : Option (LiteralState × List (List Nat)) :=
  match s with
  | .outside emptied =>
    if code = quote then if emptied then none else some (.inside [], [])
    else some (.outside false, [])
  | .inside value => readInside value code
  | .escaped value =>
    match escapes.lookup code with
    | some stands => some (.inside (stands :: value), [])
    | none => (octalValue? code).map fun digit =>
        (.octal value (if digit ≤ 3 then 2 else 1) digit, [])
  | .octal value room number =>
    match room, octalValue? code with
    | room + 1, some digit => some (.octal value room (8 * number + digit), [])
    | _, _ => readInside (number :: value) code

/-- No literal is open at the end of a text. -/
def finish : LiteralState → Option (List (List Nat))
  | .outside _ => some []
  | _ => none

end LiteralState

/-- The literals in the codes of a text behind what has been read of it. -/
def literalsFrom (s : LiteralState) : List Nat → Option (List (List Nat))
  | [] => s.finish
  | code :: rest => do
    let (next, closed) ← s.read code
    let later ← literalsFrom next rest
    return closed ++ later

theorem literalsFrom_step {s next : LiteralState} {code : Nat} {closed : List (List Nat)}
    (h : s.read code = some (next, closed)) (codes : List Nat) :
    literalsFrom s (code :: codes) = (closed ++ ·) <$> literalsFrom next codes := by
  simp only [literalsFrom, h, Option.bind_eq_bind, Option.bind_some]
  cases literalsFrom next codes <;> rfl

/-- The literals in a text by the codes that they stand for, if all of them are well formed. -/
def readLiterals (cs : List Char) : Option (List (List Nat)) :=
  translate cs >>= literalsFrom (.outside false)

/-! ## The text of a literal -/

/-- The codes of the characters of a text. -/
def codesOf (text : String) : List Nat :=
  text.toList.map Char.toNat

/-- A text is a single line. -/
def IsOneLine (text : String) : Prop :=
  ∀ code ∈ codesOf text, ¬ IsLineEnd code

instance : DecidablePred IsOneLine :=
  fun text => inferInstanceAs (Decidable (∀ code ∈ codesOf text, ¬ IsLineEnd code))

/-- A character as it is printed in a literal. -/
def escapeChar (c : Char) : List Char :=
  if c = '"' ∨ c = '\\' then ['\\', c] else [c]

/-- A literal is its characters, each of them escaped where that is needed, between quotes. -/
theorem literal_toList (s : String) :
    (literal s).toList = '"' :: (s.toList.flatMap escapeChar ++ ['"']) := by
  have hboth : ∀ c : Char, (if c = '\\' then ['\\', '\\'] else [c]).flatMap
      (fun d => if d = '"' then ['\\', '"'] else [d]) = escapeChar c := by
    intro c
    unfold escapeChar
    by_cases hslash : c = '\\'
    · simp [hslash]
    · by_cases hquote : c = '"' <;> simp [hslash, hquote]
  unfold literal replaceAll
  simp only [String.toList_append, String.toList_ofList]
  change ['"'] ++ replaceFrom ['"'] ['\\', '"'] 0 (replaceFrom ['\\'] ['\\', '\\'] 0 s.toList) ++
    ['"'] = _
  rw [replaceFrom_singleton, replaceFrom_singleton, List.flatMap_assoc]
  simp only [hboth]
  rfl

/-- A character outside literals that starts neither a literal nor an escape. -/
def IsPlain (c : Char) : Prop :=
  c ≠ '"' ∧ c ≠ '\\'

instance : DecidablePred IsPlain :=
  fun c => inferInstanceAs (Decidable (c ≠ '"' ∧ c ≠ '\\'))

/-- A text without quotes and backslashes. -/
def ArePlain (cs : List Char) : Prop :=
  '"' ∉ cs ∧ '\\' ∉ cs

instance : DecidablePred ArePlain :=
  fun cs => inferInstanceAs (Decidable ('"' ∉ cs ∧ '\\' ∉ cs))

theorem arePlain_iff {cs : List Char} : ArePlain cs ↔ ∀ c ∈ cs, IsPlain c :=
  ⟨fun h _ hc => ⟨fun heq => h.1 (heq ▸ hc), fun heq => h.2 (heq ▸ hc)⟩,
    fun h => ⟨fun hc => (h _ hc).1 rfl, fun hc => (h _ hc).2 rfl⟩⟩

theorem ArePlain.append {cs later : List Char} (h : ArePlain cs) (hlater : ArePlain later) :
    ArePlain (cs ++ later) :=
  arePlain_iff.2 (List.forall_mem_append.2 ⟨arePlain_iff.1 h, arePlain_iff.1 hlater⟩)

theorem IsPlain.codes {c : Char} (h : IsPlain c) : c.toNat ≠ quote ∧ c.toNat ≠ backslash :=
  ⟨fun hc => h.1 (Char.toNat_inj.1 hc), fun hc => h.2 (Char.toNat_inj.1 hc)⟩

theorem translateFrom_step {s next : EscapeState} {c : Char} {codes : List Nat}
    (h : s.read c = some (next, codes)) (cs : List Char) :
    translateFrom s (c :: cs) = (codes ++ ·) <$> translateFrom next cs := by
  simp only [translateFrom, h, Option.bind_eq_bind, Option.bind_some]
  cases translateFrom next cs <;> rfl

/-- What a literal prints for a character is read as it stands, whatever follows: the backslashes in
it come in pairs or stand before a quote, so no Unicode escape starts there. -/
theorem translate_escapeChar (c : Char) (cs : List Char) :
    translate (escapeChar c ++ cs) = ((escapeChar c).map Char.toNat ++ ·) <$> translate cs := by
  unfold escapeChar
  split
  · rename_i hescaped
    have hstart : EscapeState.read (.complete false false) '\\' = some (.started false, []) := rfl
    have hread : EscapeState.read (.started false) c =
        some (.complete false false, ['\\'.toNat, c.toNat]) := by
      rcases hescaped with rfl | rfl <;> rfl
    rw [Comment.translate, Comment.translate, List.cons_append, List.singleton_append,
      translateFrom_step hstart, translateFrom_step hread, Functor.map_map]
    rfl
  · rename_i hplain
    exact translate_cons (fun hc => hplain (.inr hc)) cs

theorem translate_escaped (text cs : List Char) :
    translate (text.flatMap escapeChar ++ cs) =
      ((text.flatMap escapeChar).map Char.toNat ++ ·) <$> translate cs := by
  induction text with
  | nil => simp
  | cons c rest ih =>
    rw [List.flatMap_cons, List.append_assoc, translate_escapeChar, ih, Functor.map_map]
    simp only [List.map_append, List.append_assoc]

/-- In a literal every character is read back, unless it ends the line. -/
theorem literalsFrom_escapeChar (value : List Nat) (c : Char) (codes : List Nat) :
    literalsFrom (.inside value) ((escapeChar c).map Char.toNat ++ codes) =
      if IsLineEnd c.toNat then none else literalsFrom (.inside (c.toNat :: value)) codes := by
  unfold escapeChar
  split
  · rename_i hescaped
    have hstart : LiteralState.read (.inside value) '\\'.toNat = some (.escaped value, []) := rfl
    have hread : LiteralState.read (.escaped value) c.toNat =
        some (.inside (c.toNat :: value), []) ∧ ¬ IsLineEnd c.toNat := by
      rcases hescaped with rfl | rfl <;> exact ⟨rfl, by decide⟩
    rw [if_neg hread.2, List.map_cons, List.map_singleton, List.cons_append,
      literalsFrom_step hstart, List.singleton_append, literalsFrom_step hread.1]
    simp
  · rename_i hplain
    obtain ⟨hquote, hslash⟩ := IsPlain.codes (c := c) (not_or.1 hplain)
    have hread : LiteralState.read (.inside value) c.toNat =
        if IsLineEnd c.toNat then none else some (.inside (c.toNat :: value), []) := by
      rw [LiteralState.read, LiteralState.readInside, if_neg hquote, if_neg hslash]
    rw [List.map_singleton, List.singleton_append]
    split at hread
    · rename_i hend
      simp only [literalsFrom, hread, if_pos hend]
      rfl
    · rename_i hinside
      rw [literalsFrom_step hread, if_neg hinside]
      simp

/-- A row of characters in a literal is read back up to the quote behind it. -/
theorem literalsFrom_escaped (value : List Nat) (text : List Char) (codes : List Nat) :
    literalsFrom (.inside value) ((text.flatMap escapeChar).map Char.toNat ++ quote :: codes) =
      if ∀ code ∈ text.map Char.toNat, ¬ IsLineEnd code then
        ((value.reverse ++ text.map Char.toNat) :: ·) <$>
          literalsFrom (.outside (value.isEmpty && text.isEmpty)) codes
      else none := by
  induction text generalizing value with
  | nil =>
    have hread : LiteralState.read (.inside value) quote =
        some (.outside value.isEmpty, [value.reverse]) := by
      rw [LiteralState.read, LiteralState.readInside, if_pos rfl]
    rw [List.flatMap_nil, List.map_nil, List.nil_append, literalsFrom_step hread]
    simp
  | cons c rest ih =>
    rw [List.flatMap_cons, List.map_append, List.append_assoc, literalsFrom_escapeChar, ih]
    by_cases hend : IsLineEnd c.toNat <;> simp [hend]

/-- A plain character is read like any other one outside of literals, also right behind one. -/
theorem readLiterals_plain {c : Char} (hc : IsPlain c) (emptied : Bool) (cs : List Char) :
    (translate (c :: cs) >>= literalsFrom (.outside emptied)) = readLiterals cs := by
  have hread : LiteralState.read (.outside emptied) c.toNat = some (.outside false, []) := by
    rw [LiteralState.read, if_neg hc.codes.1]
  rw [translate_cons hc.2, readLiterals]
  cases translate cs with
  | none => rfl
  | some codes =>
    change literalsFrom (.outside emptied) (c.toNat :: codes) = literalsFrom (.outside false) codes
    rw [literalsFrom_step hread]
    simp

theorem readLiterals_cons {c : Char} (hc : IsPlain c) (cs : List Char) :
    readLiterals (c :: cs) = readLiterals cs :=
  readLiterals_plain hc false cs

theorem readLiterals_append {front : List Char} (hfront : ArePlain front) (cs : List Char) :
    readLiterals (front ++ cs) = readLiterals cs := by
  have hplain := arePlain_iff.1 hfront
  clear hfront
  induction front with
  | nil => rfl
  | cons c rest ih =>
    obtain ⟨hc, hrest⟩ := List.forall_mem_cons.1 hplain
    rw [List.cons_append, readLiterals_cons hc, ih hrest]

/-- What is read of literals that are printed for some texts: the texts, if each of them is a single
line. -/
def readBack (texts : List String) : Option (List (List Nat)) :=
  if ∀ text ∈ texts, IsOneLine text then some (texts.map codesOf) else none

theorem readBack_append (texts later : List String) :
    readBack (texts ++ later) = (do
      let front ← readBack texts
      let back ← readBack later
      return front ++ back) := by
  simp only [readBack, List.forall_mem_append, List.map_append]
  by_cases hfront : ∀ text ∈ texts, IsOneLine text
  · by_cases hback : ∀ text ∈ later, IsOneLine text
    · rw [if_pos ⟨hfront, hback⟩, if_pos hfront, if_pos hback]
      rfl
    · rw [if_neg fun h => hback h.2, if_pos hfront, if_neg hback]
      rfl
  · rw [if_neg fun h => hfront h.1, if_neg hfront]
    rfl

/-- **Literals are read back.** A literal in front of a plain character is read as the text that it
is printed for where that text is a single line, and what follows is read on its own. Otherwise
nothing can be read. -/
theorem readLiterals_literal (text : String) {c : Char} (hc : IsPlain c) (cs : List Char) :
    readLiterals ((literal text).toList ++ c :: cs) = (do
      let front ← readBack [text]
      let later ← readLiterals (c :: cs)
      return front ++ later) := by
  have htranslate : translate ((literal text).toList ++ c :: cs) =
      (fun codes => quote :: ((text.toList.flatMap escapeChar).map Char.toNat ++ quote :: codes)) <$>
        translate (c :: cs) := by
    rw [literal_toList, List.cons_append, List.append_assoc, translate_cons (by decide),
      translate_escaped, List.singleton_append, translate_cons (by decide)]
    simp only [Functor.map_map]
    rfl
  rw [readLiterals, htranslate, readLiterals_cons hc, ← readLiterals_plain hc text.toList.isEmpty]
  cases translate (c :: cs) with
  | none => cases readBack [text] <;> rfl
  | some codes =>
    have hopen : LiteralState.read (.outside false) quote = some (.inside [], []) := rfl
    change literalsFrom (.outside false) (quote :: _) = _
    rw [literalsFrom_step hopen, literalsFrom_escaped, readBack]
    by_cases hline : ∀ code ∈ text.toList.map Char.toNat, ¬ IsLineEnd code
    · have hone : ∀ s ∈ [text], IsOneLine s := List.forall_mem_singleton.2 hline
      rw [if_pos hline, if_pos hone]
      cases hlater : literalsFrom (.outside text.toList.isEmpty) codes <;> simp [codesOf, hlater]
    · have hone : ¬ ∀ s ∈ [text], IsOneLine s := fun h => hline (h text List.mem_cons_self)
      rw [if_neg hline, if_neg hone]
      rfl

/-! ## Pieces with literals -/

/-- A piece of a text prints literals for some texts and nothing else that a reader of literals
minds. -/
def Writes (piece : String) (texts : List String) : Prop :=
  ∀ c cs, IsPlain c → readLiterals (piece.toList ++ c :: cs) = (do
    let front ← readBack texts
    let later ← readLiterals (c :: cs)
    return front ++ later)

namespace Writes

variable {piece front later : String} {texts more : List String}

theorem literal (text : String) : Writes (literal text) [text] :=
  fun _ cs hc => readLiterals_literal text hc cs

theorem empty : Writes "" [] := fun c cs _ => by
  change readLiterals (c :: cs) = _
  cases readLiterals (c :: cs) <;> rfl

/-- Plain characters in front of a piece. -/
theorem behind (hfront : ArePlain front.toList) (h : Writes piece texts) :
    Writes (front ++ piece) texts := fun c cs hc => by
  rw [String.toList_append, List.append_assoc, readLiterals_append hfront, h c cs hc]

/-- Plain characters alone. -/
theorem plain (h : ArePlain piece.toList) : Writes piece [] := by
  simpa using empty.behind h

/-- One piece behind another one, with a plain character between them. -/
theorem append {gap : Char} (h : Writes piece texts) (hgap : IsPlain gap)
    (hlater : Writes later more) : Writes (piece ++ (String.singleton gap ++ later))
      (texts ++ more) := by
  intro c cs hc
  have hsplit : (piece ++ (String.singleton gap ++ later)).toList ++ c :: cs =
      piece.toList ++ gap :: (later.toList ++ c :: cs) := by simp
  rw [hsplit, h gap _ hgap, readLiterals_cons hgap, hlater c cs hc, readBack_append]
  simp only [bind_assoc, pure_bind, List.append_assoc]

end Writes

/-- Arguments that print literals for some texts each. -/
def WritesAll (arguments : List String) (texts : List (List String)) : Prop :=
  List.Forall₂ Writes arguments texts

/-- Arguments without literals. -/
theorem writesAll_plain {arguments : List String}
    (h : ∀ argument ∈ arguments, ArePlain argument.toList) :
    ∃ texts, WritesAll arguments texts ∧ texts.flatten = [] := by
  induction arguments with
  | nil => exact ⟨[], .nil, rfl⟩
  | cons argument rest ih =>
    obtain ⟨hargument, hrest⟩ := List.forall_mem_cons.1 h
    obtain ⟨texts, htexts, hempty⟩ := ih hrest
    exact ⟨[] :: texts, .cons (.plain hargument) htexts, hempty⟩

/-- Arguments with commas between them print what they print on their own. -/
theorem Writes.arguments {arguments : List String} {texts : List (List String)}
    (h : WritesAll arguments texts) :
    Writes (String.intercalate ", " arguments) texts.flatten := by
  induction h with
  | nil => exact .empty
  | @cons argument text rest later hargument hrest ih =>
    cases hrest with
    | nil => simpa using hargument
    | @cons second texts rest later hsecond hrest =>
      have hspace : Writes (" " ++ String.intercalate ", " (second :: rest)) _ :=
        ih.behind (by decide)
      have hcomma : String.singleton ',' ++ (" " ++ String.intercalate ", " (second :: rest)) =
          ", " ++ String.intercalate ", " (second :: rest) := by
        rw [← String.append_assoc]
        rfl
      rw [String.intercalate_cons_cons, List.flatten_cons, String.append_assoc, ← hcomma]
      exact hargument.append (by decide) hspace

/-- The literals in the text behind the type of an annotation. -/
def literalsIn (text : String) : Option (List (List Nat)) :=
  readLiterals text.toList

/-- The literals of an annotation are those of its arguments. -/
theorem literalsIn_mark (type : String) {arguments : List String} {texts : List (List String)}
    (h : WritesAll arguments texts) :
    literalsIn (mark type (some arguments)).tail = readBack texts.flatten := by
  have htext : (mark type (some arguments)).tail.toList =
      '(' :: ((String.intercalate ", " arguments).toList ++ [')']) := by
    simp [mark]
  rw [literalsIn, htext, readLiterals_cons (by decide), Writes.arguments h _ _ (by decide)]
  have hend : readLiterals [')'] = some [] := rfl
  rw [hend]
  cases readBack texts.flatten <;> simp

/-! ## The annotations of tables and columns -/

theorem arePlain_int (n : Int) : ArePlain (toString n).toList := by
  refine arePlain_iff.2 fun c hc => ?_
  rcases isNumeralChar_int n c hc with hdigit | hmark
  · refine ⟨?_, ?_⟩ <;> rintro rfl <;> cases hdigit
  · refine ⟨?_, ?_⟩ <;> rintro rfl <;> simp at hmark

/-- The literals of those annotations that have some, as they are read. -/
def literalsOf (marks : List Mark) : List (Option (List (List Nat))) :=
  (marks.map (literalsIn ·.tail)).filter (· ≠ some [])

theorem literalsOf_append (marks later : List Mark) :
    literalsOf (marks ++ later) = literalsOf marks ++ literalsOf later := by
  rw [literalsOf, List.map_append, List.filter_append]
  rfl

theorem literalsOf_mark (type : String) {arguments : List String} {texts : List (List String)}
    (h : WritesAll arguments texts) : literalsOf [mark type (some arguments)] =
      if texts.flatten = [] then [] else [readBack texts.flatten] := by
  rw [literalsOf, List.map_singleton, literalsIn_mark type h]
  cases texts.flatten with
  | nil => rfl
  | cons text rest =>
    have hsome : readBack (text :: rest) ≠ some [] := by
      unfold readBack
      split <;> simp
    simp [hsome]

namespace AnnotationPolicy

/-- The marker of generated code has two fixed literals. -/
theorem literalsOf_generated (policy : AnnotationPolicy) : literalsOf policy.generatedMarks =
    if policy.config.flag .markGenerated then [readBack [generatorName, generatedRemark]]
    else [] := by
  have hremark : Writes ("comments = " ++ literal generatedRemark) [generatedRemark] :=
    (Writes.literal generatedRemark).behind (by decide)
  have hmarks : ∀ {value : String}, Writes value [generatorName] → literalsOf [mark generatedType
      (some ["value = " ++ value, "comments = " ++ literal generatedRemark])] =
        [readBack [generatorName, generatedRemark]] := fun hvalue =>
    literalsOf_mark generatedType (.cons (hvalue.behind (by decide)) (.cons hremark .nil))
  unfold generatedMarks
  split
  · cases policy.dialect with
    | interfaces => exact hmarks (.literal generatorName)
    | traits =>
      have hrow : Writes (literal generatorName ++ (String.singleton ')' ++ "")) [generatorName] :=
        (Writes.literal generatorName).append (by decide) .empty
      have harray : Writes ("Array(" ++ literal generatorName ++ ")") [generatorName] := by
        rw [String.append_assoc]
        exact hrow.behind (by decide)
      exact hmarks harray
  · rfl

theorem tableArguments_write {e : Entity} {name schema : String} (hname : e.name = .text name)
    (hschema : e.schema = .text schema) :
    ∃ arguments texts, tableArguments e = .ok arguments ∧ WritesAll arguments texts ∧
      texts.flatten = name :: if schema = "" then [] else [schema] := by
  have hfirst : Writes ("name = " ++ literal name) [name] := (Writes.literal name).behind (by decide)
  have hsecond : Writes ("schema = " ++ literal schema) [schema] :=
    (Writes.literal schema).behind (by decide)
  unfold tableArguments
  rw [hname, hschema]
  by_cases hempty : schema = ""
  · exact ⟨_, [[name]], by simp [hempty, Value.truthy, literalOf], .cons hfirst .nil,
      by simp [hempty]⟩
  · exact ⟨_, [[name], [schema]], by simp [hempty, Value.truthy, literalOf],
      .cons hfirst (.cons hsecond .nil), by simp [hempty]⟩

theorem sizeArgument_plain {name : String} (hname : ArePlain (name ++ " = ").toList)
    (size : Option Int) :
    ∀ argument ∈ sizeArgument name size, ArePlain argument.toList := by
  unfold sizeArgument
  split
  · split
    · exact nofun
    · rename_i n _
      rw [List.forall_mem_singleton, String.toList_append]
      exact hname.append (arePlain_int n)
  · exact nofun

theorem columnArguments_write {m : Member} {column : String} (hname : m.name = .text column) :
    ∃ arguments texts, columnArguments m = .ok arguments ∧ WritesAll arguments texts ∧
      texts.flatten = [column] := by
  have hfirst : Writes ("name = " ++ literal column) [column] :=
    (Writes.literal column).behind (by decide)
  have hnullable : ∀ argument ∈ (if m.type.nullable.truthy then [] else ["nullable = false"]),
      ArePlain argument.toList := by
    split
    · exact nofun
    · exact List.forall_mem_singleton.2 (by decide)
  have hlength : ∀ argument ∈ sizeArgument "length" m.type.length, ArePlain argument.toList :=
    sizeArgument_plain (by decide) _
  have hprecision : ∀ argument ∈ sizeArgument "precision" m.type.precision,
      ArePlain argument.toList := sizeArgument_plain (by decide) _
  have hscale : ∀ argument ∈ sizeArgument "scale" m.type.scale, ArePlain argument.toList :=
    sizeArgument_plain (by decide) _
  obtain ⟨texts, hothers, hempty⟩ := writesAll_plain (List.forall_mem_append.2
    ⟨List.forall_mem_append.2 ⟨List.forall_mem_append.2 ⟨hnullable, hlength⟩, hprecision⟩, hscale⟩)
  refine ⟨_, [column] :: texts, ?_, .cons hfirst hothers, by rw [List.flatten_cons, hempty]; rfl⟩
  unfold columnArguments
  rw [hname]
  simp [literalOf]

theorem literalsOf_validation (policy : AnnotationPolicy) (m : Member) :
    literalsOf (policy.validationMarks m) = [] := by
  have hsize : ∀ n : Int, literalsOf [mark (policy.validationType "Size")
      (some ["max = " ++ toString n])] = [] := fun n => by
    have hplain : ArePlain ("max = " ++ toString n).toList := by
      rw [String.toList_append]
      exact ArePlain.append (by decide) (arePlain_int n)
    exact literalsOf_mark _ (.cons (.plain hplain) .nil)
  unfold validationMarks
  rw [literalsOf_append]
  cases maxSize? m.type with
  | none => split <;> rfl
  | some n => split <;> exact hsize n

section

variable {policy : AnnotationPolicy} {e : Entity} {m : Member} {name schema column : String}

/-- The literals of a table are its name and its schema, if that is not empty. -/
theorem literalsOf_entity (hwanted : policy.config.flag .jpaAnnotations = true)
    (htable : e.isTable = true) (hname : e.name = .text name) (hschema : e.schema = .text schema) :
    ∃ marks, policy.entityMarks e = .ok marks ∧ literalsOf marks =
      (if policy.config.flag .markGenerated then [readBack [generatorName, generatedRemark]]
        else []) ++ [readBack (name :: if schema = "" then [] else [schema])] := by
  obtain ⟨arguments, texts, harguments, hwrite, htexts⟩ := tableArguments_write hname hschema
  have hmarks : policy.entityMarks e = .ok (policy.generatedMarks ++
      [mark (policy.jpaType "Entity") none, mark (policy.jpaType "Table") (some arguments)]) := by
    simp only [entityMarks, tableMarks, hwanted, htable, harguments]
    rfl
  have htwo : literalsOf [mark (policy.jpaType "Entity") none,
      mark (policy.jpaType "Table") (some arguments)] =
      literalsOf [mark (policy.jpaType "Table") (some arguments)] :=
    literalsOf_append [mark (policy.jpaType "Entity") none] _
  refine ⟨_, hmarks, ?_⟩
  rw [literalsOf_append, literalsOf_generated, htwo, literalsOf_mark _ hwrite, htexts,
    if_neg (List.cons_ne_nil _ _)]

/-- The literal of a column is its name. -/
theorem literalsOf_column (hname : m.name = .text column) :
    ∃ marks, policy.columnMarks m = .ok marks ∧ literalsOf marks = [readBack [column]] := by
  obtain ⟨arguments, texts, harguments, hwrite, htexts⟩ := columnArguments_write hname
  refine ⟨_, by rw [columnMarks, harguments]; rfl, ?_⟩
  have hid : literalsOf (if m.primaryKey.truthy then [mark (policy.jpaType "Id") none] else []) =
      [] := by
    split <;> rfl
  rw [literalsOf_append, hid, literalsOf_mark _ hwrite, htexts, if_neg (List.cons_ne_nil _ _)]
  rfl

/-- Of the members of a table only columns have literals. -/
theorem literalsOf_member (hwanted : policy.config.flag .jpaAnnotations = true)
    (htable : e.isTable = true) (hname : m.name = .text column) :
    ∃ marks, policy.memberMarks e m = .ok marks ∧
      literalsOf marks = if m.isColumn then [readBack [column]] else [] := by
  have hconstraints : literalsOf (if policy.config.flag .validationAnnotations then
      policy.validationMarks m else []) = [] := by
    split
    · exact policy.literalsOf_validation m
    · rfl
  unfold memberMarks
  rw [hwanted, htable]
  cases m.isColumn with
  | false => exact ⟨_, rfl, hconstraints⟩
  | true =>
    obtain ⟨marks, hmarks, hliterals⟩ := @literalsOf_column policy _ _ hname
    refine ⟨marks ++ _, by simp only [hmarks]; rfl, ?_⟩
    rw [literalsOf_append, hliterals, hconstraints, List.append_nil]
    rfl

/-- **The literals that map tables and columns.** Where mappings are wanted, and a table and its
schema have texts for names, its interface and its getters can be annotated. The literals behind the
annotation types are those of the marker of generated code, the name and the schema of the table, if
that is not empty, and the name of each column. They are read as just these texts where each of them
is a single line, and cannot be read otherwise. -/
theorem literals_read (hwanted : policy.config.flag .jpaAnnotations = true)
    (htable : e.isTable = true) (hname : e.name = .text name) (hschema : e.schema = .text schema) :
    (∃ marks,
      (∀ s, ∃ after, outcome (policy.entityLines e) s = .ok (marks.map (·.line after.print), after)) ∧
      literalsOf marks =
        (if policy.config.flag .markGenerated then [readBack [generatorName, generatedRemark]]
          else []) ++ [readBack (name :: if schema = "" then [] else [schema])]) ∧
    ∀ m column, m.name = .text column → ∃ marks,
      (∀ s, ∃ after,
        outcome (policy.memberLines e m) s = .ok (marks.map (·.line after.print), after)) ∧
      literalsOf marks = if m.isColumn then [readBack [column]] else [] := by
  constructor
  · obtain ⟨marks, hmarks, hliterals⟩ := literalsOf_entity hwanted htable hname hschema
    refine ⟨marks, fun s => ⟨s.useAll (usesOf (markTypes marks)), ?_⟩, hliterals⟩
    rw [policy.entityLines_prints e s, hmarks]
    rfl
  · intro m column hcolumn
    obtain ⟨marks, hmarks, hliterals⟩ := literalsOf_member hwanted htable hcolumn
    refine ⟨marks, fun s => ⟨s.useAll (usesOf (markTypes marks)), ?_⟩, hliterals⟩
    rw [policy.memberLines_prints e m s, hmarks]
    rfl

end

/-- Annotations that map tables, without a marker of generated code. -/
def mapping : AnnotationPolicy where
  config := { setting := fun
    | .jpaAnnotations => .bool true
    | .markGenerated => .bool false
    | s => s.default }
  dialect := .interfaces

/-- A table whose name has a line break. -/
def broken : Entity where
  name := .text "order\nitem"
  schema := .text "hr"

/-- A column whose name has quotes and a backslash. -/
def quoted : Member where
  name := .text "\\u0022 \"x\""
  qualifiedName := ""
  type := { name := "integer" }

/-- The literals of a table whose name has a line break cannot be read, and the quotes and the
backslash in the name of a column are read back. -/
theorem broken_literals :
    (∃ marks, (∀ s, ∃ after,
        outcome (mapping.entityLines broken) s = .ok (marks.map (·.line after.print), after)) ∧
      literalsOf marks = [none]) ∧
    ∃ marks, (∀ s, ∃ after,
        outcome (mapping.memberLines broken quoted) s =
          .ok (marks.map (·.line after.print), after)) ∧
      literalsOf marks = [some [codesOf "\\u0022 \"x\""]] := by
  obtain ⟨⟨marks, hlines, hliterals⟩, hmembers⟩ :=
    @literals_read mapping broken _ _ rfl rfl rfl rfl
  exact ⟨⟨marks, hlines, hliterals⟩, hmembers quoted _ rfl⟩

end AnnotationPolicy

end Jvm

end TableInterfaces
