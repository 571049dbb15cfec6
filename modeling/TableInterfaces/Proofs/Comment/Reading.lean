import Mathlib.Data.List.Infix
import TableInterfaces.Json.Token
import TableInterfaces.Proofs.Comment.Block
import TableInterfaces.Source.Scope

/-!
# Comments as they are read

How a doc comment is read in the file that it is printed to. In a class-based file Unicode escapes
are translated first, wherever they stand, and the first end mark closes a comment. In a trait-based
file characters stand for themselves, and a start mark inside a comment opens one more. Main
statements:

* `readAs_at_break`: translation does not reach across a break, so wrapping and the marks of the
  lines neither add an escape nor take one away.
* `DocPolicy.format_block_iff`: the doc comment with a text is one comment just where the escaped
  text holds nothing that breaks comments of the dialect.
-/

namespace TableInterfaces

namespace Text

/-! ## Pairs of neighbours -/

section

variable {α : Type} {x y c : α}

/-- A pair of neighbours stands at the start of a list or further behind. -/
theorem pair_infix_cons {l : List α} :
    [x, y] <:+: c :: l ↔ (x = c ∧ l.head? = some y) ∨ [x, y] <:+: l := by
  rw [List.infix_cons_iff, List.cons_prefix_cons]
  refine or_congr_left (and_congr_right fun _ => ?_)
  cases l with
  | nil => simp
  | cons d rest => simp [List.cons_prefix_cons, eq_comm]

/-- One element has no neighbour. -/
theorem pair_not_infix_singleton : ¬ [x, y] <:+: [c] := fun h =>
  absurd h.length_le (by simp)

/-- No pair of neighbours reaches across an element that is neither of them. -/
theorem pair_infix_apart (hx : c ≠ x) (hy : c ≠ y) (u v : List α) :
    [x, y] <:+: u ++ c :: v ↔ [x, y] <:+: u ∨ [x, y] <:+: v := by
  induction u with
  | nil => simp [pair_infix_cons, Ne.symm hx]
  | cons a rest ih =>
    have hhead : (rest ++ c :: v).head? = some y ↔ rest.head? = some y := by
      cases rest with
      | nil => simp [hy]
      | cons b rest => rfl
    rw [List.cons_append, pair_infix_cons, ih, pair_infix_cons, hhead, or_assoc]

end

end Text

namespace Comment

open TableInterfaces.Json
open TableInterfaces.Source
open TableInterfaces.Text

/-! ## Unicode escapes -/

/-- The code of the backslash, which starts an escape. -/
def backslash : Nat := 0x5C

/-- What has been read of a text with escapes: complete characters, the backslash that may start an
escape, the markers behind it, or some of the four digits. `odd` holds behind a row of backslashes,
the one that may start an escape left out, whose number is odd, and `fresh` behind an escape. -/
inductive EscapeState where
  | complete (odd fresh : Bool)
  | started (odd : Bool)
  | marked (odd : Bool)
  | digits (odd : Bool) (count code : Nat)
  deriving DecidableEq, Repr

namespace EscapeState

/-- Reads a character behind complete ones. A backslash may start an escape behind an even number of
backslashes, and behind an escape. -/
def readComplete (odd fresh : Bool) (c : Char) : EscapeState × List Nat :=
  if c == '\\' && (!odd || fresh) then (.started odd, []) else (.complete false false, [c.toNat])

/-- Reads a character and gives the codes that are complete with it. A marker has to be followed by
four digits. The character of an escape takes part in no other escape. -/
def read (s : EscapeState) (c : Char) : Option (EscapeState × List Nat) :=
  match s with
  | .complete odd fresh => some (readComplete odd fresh c)
  | .started odd =>
    if c == 'u' then some (.marked odd, [])
    else
      let (next, codes) := readComplete (!odd) false c
      some (next, backslash :: codes)
  | .marked odd =>
    if c == 'u' then some (.marked odd, [])
    else (hexValue? c).map fun digit => (.digits odd 1 digit, [])
  | .digits odd count code =>
    (hexValue? c).map fun digit =>
      let code := 16 * code + digit
      if count < 3 then (.digits odd (count + 1) code, [])
      else (.complete (code == backslash && !odd) true, [code])

/-- The codes that are complete at the end of a text. -/
def finish : EscapeState → Option (List Nat)
  | .complete _ _ => some []
  | .started _ => some [backslash]
  | _ => none

end EscapeState

/-- The codes of a text behind what has been read of it. -/
def translateFrom (s : EscapeState) : List Char → Option (List Nat)
  | [] => s.finish
  | c :: rest => do
    let (next, codes) ← s.read c
    let later ← translateFrom next rest
    return codes ++ later

/-- The codes of a text once its escapes are translated, if they are well formed. -/
def translate (cs : List Char) : Option (List Nat) :=
  translateFrom (.complete false false) cs

/-- The codes of the characters that a text is read as in a file of a dialect. -/
def readAs (dialect : Dialect) (cs : List Char) : Option (List Nat) :=
  match dialect with
  | .interfaces => translate cs
  | .traits => some (cs.map Char.toNat)

theorem readAs_traits (cs : List Char) : readAs .traits cs = some (cs.map Char.toNat) := rfl

/-- A character that is no backslash is translated to itself. -/
theorem translate_cons {c : Char} (hc : c ≠ '\\') (cs : List Char) :
    translate (c :: cs) = (c.toNat :: ·) <$> translate cs := by
  have hread : EscapeState.read (.complete false false) c =
      some (.complete false false, [c.toNat]) := by
    simp [EscapeState.read, EscapeState.readComplete, hc]
  rw [translate, translateFrom, hread]
  cases h : translate cs <;> simp [translate] at h ⊢ <;> simp [h]

/-- A break is no backslash, no marker and no digit of an escape. -/
theorem escape_of_isBreak {c : Char} (h : isBreak c = true) :
    c ≠ '\\' ∧ c ≠ 'u' ∧ hexValue? c = none := by
  have hcode : c.toNat ≠ '\\'.toNat ∧ c.toNat ≠ 'u'.toNat ∧
      ¬ ('0'.toNat ≤ c.toNat ∧ c.toNat ≤ '9'.toNat) ∧
      ¬ ('a'.toNat ≤ c.toNat ∧ c.toNat ≤ 'f'.toNat) ∧
      ¬ ('A'.toNat ≤ c.toNat ∧ c.toNat ≤ 'F'.toNat) := by
    simp only [isBreak, isBlank, Bool.or_eq_true, Bool.and_eq_true, decide_eq_true_eq,
      beq_iff_eq] at h
    rcases h with h | rfl
    · simp only [Char.reduceToNat]
      omega
    · decide
  obtain ⟨hslash, hmarker, hdigit, hlower, hupper⟩ := hcode
  refine ⟨fun h => hslash (h ▸ rfl), fun h => hmarker (h ▸ rfl), ?_⟩
  rw [hexValue?, if_neg (show ¬ ('0' ≤ c ∧ c ≤ '9') from hdigit),
    if_neg (show ¬ ('a' ≤ c ∧ c ≤ 'f') from hlower),
    if_neg (show ¬ ('A' ≤ c ∧ c ≤ 'F') from hupper)]

/-- A break ends what has been read, and the text behind it is translated on its own. -/
theorem translateFrom_at_break (s : EscapeState) {c : Char} (hc : isBreak c = true)
    (u v : List Char) :
    translateFrom s (u ++ c :: v) = (do
      let front ← translateFrom s u
      let back ← translate v
      return front ++ c.toNat :: back) := by
  obtain ⟨hslash, hmarker, hdigit⟩ := escape_of_isBreak hc
  induction u generalizing s with
  | nil =>
    rw [List.nil_append, translateFrom]
    cases s with
    | complete odd fresh =>
      simp [EscapeState.read, EscapeState.readComplete, EscapeState.finish, translateFrom, hslash,
        translate]
    | started odd =>
      simp [EscapeState.read, EscapeState.readComplete, EscapeState.finish, translateFrom, hslash,
        hmarker, translate]
    | marked odd => simp [EscapeState.read, EscapeState.finish, translateFrom, hmarker, hdigit]
    | digits odd count code => simp [EscapeState.read, EscapeState.finish, translateFrom, hdigit]
  | cons d rest ih =>
    rw [List.cons_append, translateFrom, translateFrom, bind_assoc]
    refine bind_congr fun ⟨next, codes⟩ => ?_
    simp only [ih, bind_assoc, pure_bind, List.append_assoc]

/-- **Reading does not reach across a break.** -/
theorem readAs_at_break (dialect : Dialect) {c : Char} (hc : isBreak c = true) (u v : List Char) :
    readAs dialect (u ++ c :: v) = (do
      let front ← readAs dialect u
      let back ← readAs dialect v
      return front ++ c.toNat :: back) := by
  cases dialect with
  | interfaces => exact translateFrom_at_break _ hc u v
  | traits => simp [readAs]

/-- A character that is no backslash is read as itself. -/
theorem readAs_cons (dialect : Dialect) {c : Char} (hc : c ≠ '\\') (cs : List Char) :
    readAs dialect (c :: cs) = (c.toNat :: ·) <$> readAs dialect cs := by
  cases dialect with
  | interfaces => exact translate_cons hc cs
  | traits => rfl

/-! ## Block comments -/

/-- The code of the asterisk. -/
def star : Nat := 0x2A

/-- The code of the slash. -/
def slash : Nat := 0x2F

/-- The mark at which block comments start. -/
def startMark : List Nat := [slash, star]

/-- The mark at which block comments end. -/
def endMark : List Nat := [star, slash]

/-- Block comments of a dialect may lie in each other. -/
def nestsComments : Dialect → Bool
  | .interfaces => false
  | .traits => true

/-- What stands behind a block comment inside which `depth` others are open, if it ends. -/
def afterComment (nested : Bool) (depth : Nat) : List Nat → Option (List Nat)
  | c :: d :: rest =>
    if c = star ∧ d = slash then
      if depth = 0 then some rest else afterComment nested (depth - 1) rest
    else if nested = true ∧ c = slash ∧ d = star then afterComment nested (depth + 1) rest
    else afterComment nested depth (d :: rest)
  | _ => none

/-- A text is read as one block comment, which its last two characters close and no others. -/
def IsBlockComment (dialect : Dialect) (cs : List Char) : Prop :=
  ∃ codes, readAs dialect cs = some (startMark ++ codes) ∧
    afterComment (nestsComments dialect) 0 codes = some []

/-- The mark that breaks a comment of a dialect: one more end, or one more start that is never
closed. -/
def breakingMark : Dialect → List Nat
  | .interfaces => endMark
  | .traits => startMark

/-- A text can be read, and nothing in it breaks a comment of the dialect. -/
def Commentable (dialect : Dialect) (cs : List Char) : Prop :=
  ∃ codes, readAs dialect cs = some codes ∧ ¬ breakingMark dialect <:+: codes

instance (dialect : Dialect) (cs : List Char) : Decidable (Commentable dialect cs) :=
  decidable_of_iff ((readAs dialect cs).any fun codes => !decide (breakingMark dialect <:+: codes))
    (by simp [Commentable, Option.any_eq_true])

/-- The codes of the end of a doc comment: a space and the end mark. -/
def ending : List Nat := 0x20 :: endMark

/-- A space and the end mark close a comment, but no comment around it. -/
theorem afterComment_closed (nested : Bool) (depth : Nat) :
    afterComment nested depth ending = some [] ↔ depth = 0 := by
  cases depth <;> simp [afterComment, ending, endMark, star, slash]

/-- Codes that are no mark together are passed over. -/
theorem afterComment_cons {nested : Bool} {c d : Nat} {rest : List Nat}
    (hend : ¬ (c = star ∧ d = slash)) (hstart : ¬ (nested = true ∧ c = slash ∧ d = star))
    (depth : Nat) :
    afterComment nested depth (c :: d :: rest) = afterComment nested depth (d :: rest) := by
  rw [afterComment, if_neg hend, if_neg hstart]

/-- A comment without end marks in its text ends where it should, unless one more is opened in it.
-/
theorem afterComment_ending {nested : Bool} {depth : Nat} {codes : List Nat}
    (h : ¬ endMark <:+: codes) :
    afterComment nested depth (codes ++ ending) = some [] ↔
      depth = 0 ∧ (nested = true → ¬ startMark <:+: codes) := by
  fun_induction afterComment nested depth codes with
  | case1 c d rest hend | case2 depth c d rest hend hdepth ih =>
    exact absurd (pair_infix_cons.2 (.inl ⟨hend.1.symm, by rw [hend.2]; rfl⟩)) h
  | case3 depth c d rest hend hstart ih =>
    -- the comment that is opened here is still open at the end
    have hrest : ¬ endMark <:+: rest := fun hi =>
      h (hi.trans (List.infix_cons (List.infix_cons (List.infix_refl rest))))
    have hopened : startMark <:+: c :: d :: rest :=
      pair_infix_cons.2 (.inl ⟨hstart.2.1.symm, by rw [hstart.2.2]; rfl⟩)
    rw [List.cons_append, List.cons_append, afterComment, if_neg hend, if_pos hstart, ih hrest]
    exact iff_of_false (fun h => Nat.succ_ne_zero depth h.1) fun h => h.2 hstart.1 hopened
  | case4 depth c d rest hend hstart ih =>
    have hrest : ¬ endMark <:+: d :: rest := fun hi =>
      h (hi.trans (List.infix_cons (List.infix_refl _)))
    have hsame : nested = true → (startMark <:+: c :: d :: rest ↔ startMark <:+: d :: rest) :=
      fun hnested => pair_infix_cons.trans (or_iff_right fun hc =>
        hstart ⟨hnested, hc.1.symm, Option.some.inj hc.2⟩)
    rw [List.cons_append, List.cons_append, afterComment_cons hend hstart, ← List.cons_append,
      ih hrest]
    exact and_congr_right fun _ => forall_congr' fun hnested => not_congr (hsame hnested).symm
  | case5 codes depth hshort =>
    have hclosed : afterComment nested depth (codes ++ ending) = afterComment nested depth ending ∧
        ¬ startMark <:+: codes := by
      rcases codes with _ | ⟨c, _ | ⟨d, rest⟩⟩
      · exact ⟨rfl, by simp [startMark]⟩
      · exact ⟨afterComment_cons (by simp [slash]) (by simp [star]) depth,
          pair_not_infix_singleton⟩
      · exact (hshort c d rest rfl).elim
    rw [hclosed.1, afterComment_closed, and_iff_left fun _ => hclosed.2]

/-- Where comments do not nest, a comment ends at the first end mark in its text. -/
theorem afterComment_early {depth : Nat} (hdepth : depth = 0) {codes : List Nat}
    (h : endMark <:+: codes) :
    ∃ rest, afterComment false depth (codes ++ ending) = some (rest ++ ending) := by
  fun_induction afterComment false depth codes with
  | case1 c d rest hend => exact ⟨rest, by rw [List.cons_append, List.cons_append, afterComment,
      if_pos hend, if_pos rfl]⟩
  | case2 depth c d rest hend hopen => exact absurd hdepth hopen
  | case3 depth c d rest hend hstart => exact absurd hstart.1 Bool.false_ne_true
  | case4 depth c d rest hend hstart ih =>
    have hrest : endMark <:+: d :: rest := (pair_infix_cons.1 h).resolve_left fun hc =>
      hend ⟨hc.1.symm, Option.some.inj hc.2⟩
    rw [List.cons_append, List.cons_append, afterComment_cons hend hstart]
    exact ih hdepth hrest
  | case5 codes depth hshort =>
    rcases codes with _ | ⟨c, _ | ⟨d, rest⟩⟩
    · exact absurd h.length_le (by simp [endMark])
    · exact absurd h pair_not_infix_singleton
    · exact (hshort c d rest rfl).elim

/-! ## The text of a doc comment -/

/-- The codes of the asterisk and the slash are those of no break. -/
theorem mark_ne_of_isBreak {x : Nat} (hx : x = star ∨ x = slash) (c : Char)
    (hc : isBreak c = true) : c.toNat ≠ x := by
  intro h
  have hchar : c = '*' ∨ c = '/' := hx.imp (fun hx => Char.toNat_inj.1 (h.trans hx))
    fun hx => Char.toNat_inj.1 (h.trans hx)
  rcases hchar with rfl | rfl <;> cases hc

/-- That a text can be read, and holds no mark of two given characters, is kept apart by breaks. -/
theorem readAs_keptApart (dialect : Dialect) {x y : Nat} (hx : x = star ∨ x = slash)
    (hy : y = star ∨ y = slash) :
    KeptApart fun cs => ∃ codes, readAs dialect cs = some codes ∧ ¬ [x, y] <:+: codes where
  nil := ⟨[], by cases dialect <;> rfl, by simp⟩
  at_break u c v hc := by
    rw [readAs_at_break dialect hc]
    cases readAs dialect u with
    | none => simp
    | some front =>
      cases readAs dialect v with
      | none => simp
      | some back =>
        simp [pair_infix_apart (mark_ne_of_isBreak hx c hc) (mark_ne_of_isBreak hy c hc)]

/-- A text in which end marks are escaped has a slash at its start only if it had one before. -/
theorem head?_escaped {cs new : List Char} (h : (replaceFrom ['*', '/'] ('*' :: new) 0 cs).head? =
    some '/') : cs.head? = some '/' := by
  cases cs with
  | nil => cases h
  | cons c rest =>
    rw [replaceFrom] at h
    split at h
    · cases h
    · exact h

/-- No end mark is left where end marks are escaped. -/
theorem escaped_no_end (skip : Nat) (cs : List Char) :
    ¬ ['*', '/'] <:+: replaceFrom ['*', '/'] "*&#47;".toList skip cs := by
  induction cs generalizing skip with
  | nil => simp [replaceFrom]
  | cons c rest ih =>
    cases skip with
    | succ skip => exact ih skip
    | zero =>
      rw [replaceFrom]
      split
      · have hlast := ih 1
        simpa [pair_infix_cons] using hlast
      · rename_i hmark
        rw [pair_infix_cons]
        rintro (⟨rfl, hhead⟩ | hrest)
        · obtain ⟨later, rfl⟩ := List.head?_eq_some_iff.1 (head?_escaped hhead)
          simp at hmark
        · exact ih 0 hrest

/-- An escaped text has no end mark. -/
theorem escapeEnd_no_end (text : String) : ¬ ['*', '/'] <:+: (escapeEnd text).toList := by
  rw [escapeEnd, replaceAll, String.toList_ofList]
  exact escaped_no_end 0 text.toList

/-- The text of a doc comment between its start mark and the space in front of its end mark. -/
def docText (width : Nat) (text : String) : List Char :=
  List.intercalate ['\n'] (['*'] :: (wrapText width (escapeEnd text).toList).map
    (String.toList ∘ commentLine)) ++ ['\n']

/-- A doc comment is its text between the marks. -/
theorem docLines_text (width : Nat) (text : String) :
    (String.intercalate "\n" (docLines width text)).toList =
      '/' :: '*' :: (docText width text ++ [' ', '*', '/']) := by
  have hcons : ∀ (c : Char) (piece : List Char) (rest : List (List Char)),
      List.intercalate ['\n'] ((c :: piece) :: rest) =
        c :: List.intercalate ['\n'] (piece :: rest) := fun c piece rest => by
    cases rest <;> simp
  rw [docLines, String.intercalate_append_of_ne_nil (List.cons_ne_nil _ _) (List.cons_ne_nil _ _),
    String.toList_append, String.toList_append, String.toList_intercalate, List.map_cons]
  change List.intercalate ['\n'] (['/', '*', '*'] :: _) ++ ['\n'] ++ [' ', '*', '/'] = _
  rw [hcons, hcons, List.map_map, docText]
  rfl

/-- What breaks keep apart and an asterisk has holds of the text of a doc comment just where it
holds of the escaped text. -/
theorem docText_iff {P : List Char → Prop} (h : KeptApart P) (hstar : P ['*']) (width : Nat)
    (text : String) : P (docText width text) ↔ P (escapeEnd text).toList := by
  have hline : ∀ line, P (commentLine line).toList ↔ P line := fun line => by
    unfold commentLine
    split
    · rename_i hempty
      rw [List.isEmpty_iff.1 hempty]
      exact iff_of_true ((h.cons_iff rfl ['*']).2 hstar) h.nil
    · rw [String.toList_append, String.toList_ofList, String.toList_ofList]
      exact (h.at_break [' ', '*'] ' ' line rfl).trans
        (and_iff_right ((h.cons_iff rfl ['*']).2 hstar))
  rw [docText, h.concat_iff rfl, h.intercalate_iff, List.forall_mem_cons, and_iff_right hstar,
    List.forall_mem_map, ← wrapText_iff h width]
  exact forall_congr' fun line => imp_congr_right fun _ => hline line

/-- A doc comment is read as its text between the marks. -/
theorem isBlockComment_iff (dialect : Dialect) (width : Nat) (text : String) :
    IsBlockComment dialect (String.intercalate "\n" (docLines width text)).toList ↔
      ∃ codes, readAs dialect (docText width text) = some codes ∧
        afterComment (nestsComments dialect) 0 (codes ++ ending) = some [] := by
  have hend : readAs dialect ['*', '/'] = some endMark := by cases dialect <;> rfl
  unfold IsBlockComment
  rw [docLines_text, readAs_cons dialect (by decide), readAs_cons dialect (by decide),
    readAs_at_break dialect rfl, hend]
  cases readAs dialect (docText width text) with
  | none => simp
  | some codes => simp [startMark, ending, slash, star]

/-- Where nothing is translated the text of a doc comment holds no end mark. -/
theorem docText_no_end (width : Nat) (text : String) :
    ¬ endMark <:+: (docText width text).map Char.toNat := by
  have hapart : KeptApart fun cs => ∃ codes, readAs .traits cs = some codes ∧
      ¬ endMark <:+: codes :=
    readAs_keptApart .traits (.inl rfl) (.inr rfl)
  have hescaped : ¬ endMark <:+: (escapeEnd text).toList.map Char.toNat := fun hmark => by
    obtain ⟨mark, hinfix, hcodes⟩ := List.infix_map_iff.1 hmark
    have hchars : ['*', '/'] = mark :=
      List.map_injective_iff.2 (fun c d => Char.toNat_inj.1) hcodes
    exact escapeEnd_no_end text (hchars ▸ hinfix)
  obtain ⟨codes, hcodes, hno⟩ := (docText_iff hapart ⟨[star], rfl, pair_not_infix_singleton⟩ width
    text).2 ⟨_, readAs_traits _, hescaped⟩
  rw [readAs_traits] at hcodes
  exact Option.some.inj hcodes ▸ hno

namespace DocPolicy

/-- **When a doc comment is one comment.** The built-in doc comment can be printed with every text
and every width above zero. It is read as one block comment, which its last two characters close and
no others, just where the text, with its end marks escaped, can be read in the dialect and holds
nothing that breaks a comment: in a class-based file, all its Unicode escapes are well formed and
write no end mark; in a trait-based file, it holds no start mark. -/
theorem format_block_iff {policy : DocPolicy} (htemplates : policy.templates = .standard)
    (hon : policy.enabled = true) {n : Int} (hwidth : policy.width = .int n) (hn : 1 ≤ n)
    (text : String) : ∃ lines, policy.format text = .ok lines ∧ ∀ dialect,
      IsBlockComment dialect (String.intercalate "\n" lines).toList ↔
        Commentable dialect (escapeEnd text).toList := by
  refine ⟨docLines n.toNat text, format_eq htemplates hon hwidth hn text, fun dialect => ?_⟩
  rw [isBlockComment_iff]
  cases dialect with
  | interfaces =>
    have hapart : KeptApart (Commentable .interfaces) :=
      readAs_keptApart .interfaces (.inl rfl) (.inr rfl)
    rw [← docText_iff hapart ⟨[star], rfl, pair_not_infix_singleton⟩ n.toNat]
    refine exists_congr fun codes => and_congr_right fun _ => ⟨fun hclosed hmark => ?_, fun hno =>
      (afterComment_ending hno).2 ⟨rfl, fun h => nomatch h⟩⟩
    obtain ⟨rest, hearly⟩ := afterComment_early rfl hmark
    exact absurd (Option.some.inj (hearly.symm.trans hclosed)) (by simp [ending])
  | traits =>
    have hapart : KeptApart (Commentable .traits) :=
      readAs_keptApart .traits (.inr rfl) (.inl rfl)
    rw [← docText_iff hapart ⟨[star], rfl, pair_not_infix_singleton⟩ n.toNat]
    refine exists_congr fun codes => and_congr_right fun hcodes => ?_
    rw [readAs_traits] at hcodes
    have hno : ¬ endMark <:+: codes := Option.some.inj hcodes ▸ docText_no_end n.toNat text
    exact (afterComment_ending hno).trans ⟨fun h => h.2 rfl, fun h => ⟨rfl, fun _ => h⟩⟩

/-- An end mark that is written with an escape closes the comment of a class-based file too early,
and a start mark leaves the comment of a trait-based file open. Each is harmless in the other
dialect. -/
theorem format_block_broken :
    (∃ lines, ({} : DocPolicy).format "\\u002a/" = .ok lines ∧
      ¬ IsBlockComment .interfaces (String.intercalate "\n" lines).toList ∧
      IsBlockComment .traits (String.intercalate "\n" lines).toList) ∧
    ∃ lines, ({} : DocPolicy).format "see /*" = .ok lines ∧
      IsBlockComment .interfaces (String.intercalate "\n" lines).toList ∧
      ¬ IsBlockComment .traits (String.intercalate "\n" lines).toList := by
  have hblock := format_block_iff (rfl : ({} : DocPolicy).templates = .standard) rfl rfl
    (show (1 : Int) ≤ 80 by decide)
  obtain ⟨lines, hlines, hescape⟩ := hblock "\\u002a/"
  obtain ⟨lines', hlines', hstart⟩ := hblock "see /*"
  refine ⟨⟨lines, hlines, ?_, ?_⟩, lines', hlines', ?_, ?_⟩
  · rw [hescape]
    decide +kernel
  · rw [hescape]
    decide +kernel
  · rw [hstart]
    decide +kernel
  · rw [hstart]
    decide +kernel

end DocPolicy

end Comment

end TableInterfaces
