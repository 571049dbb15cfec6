import Mathlib.Data.List.TakeWhile
import TableInterfaces.Text.Blank
import TableInterfaces.Text.Lines

/-!
# Pieces of a text

`splitOn` at a single character is core's `List.splitOn` (`splitOn_singleton`), so pieces joined by
that character are read back, and what is read back joins to the text it came from. Of longer
separators, those that never overlap themselves (`SelfDisjoint`) cut as reliably: the pieces of two
texts with the separator between them are the pieces of both (`splitOn_append_separator`).
-/

namespace TableInterfaces.Text

/-- The walk of `splitOn` at one character is the walk of `List.splitOn`, started with the
characters of the current piece. -/
theorem splitOnFrom_singleton (c : Char) (piece cs : List Char) :
    splitOnFrom [c] 0 piece cs = cs.splitOnPPrepend (· == c) piece := by
  induction cs generalizing piece with
  | nil => rfl
  | cons d rest ih =>
    have hp : [c].isPrefixOf (d :: rest) = (d == c) := by
      simp [List.isPrefixOf, Bool.beq_comm]
    rw [splitOnFrom, hp, List.splitOnPPrepend_cons_eq_if, ih]
    split
    · exact congrArg _ (ih [])
    · rfl

/-- Cutting at one character. -/
theorem splitOn_singleton (c : Char) (cs : List Char) : splitOn [c] cs = cs.splitOn c :=
  splitOnFrom_singleton c [] cs

/-- Pieces without the separator are read back from the text that joins them. -/
theorem splitOn_joined {c : Char} {pieces : List (List Char)} (h : ∀ p ∈ pieces, c ∉ p)
    (hne : pieces ≠ []) : splitOn [c] (List.intercalate [c] pieces) = pieces := by
  rw [splitOn_singleton]
  exact List.splitOn_intercalate c h hne

/-! ## Texts cut at a character -/

/-- The pieces of a text at a character join to the text. -/
theorem intercalate_splitAtChar (c : Char) (s : String) :
    String.intercalate (String.singleton c) (splitAtChar c s) = s := by
  refine String.toList_inj.1 ?_
  rw [String.toList_intercalate, splitAtChar, List.map_map, splitOn_singleton]
  have hid : String.toList ∘ String.ofList = id := funext fun cs => String.toList_ofList
  rw [hid, List.map_id, String.toList_singleton]
  exact List.intercalate_splitOn c

/-- Texts without the character are read back from the text that joins them. -/
theorem splitAtChar_intercalate {c : Char} {parts : List String} (h : ∀ p ∈ parts, c ∉ p.toList)
    (hne : parts ≠ []) :
    splitAtChar c (String.intercalate (String.singleton c) parts) = parts := by
  have hpieces : ∀ p ∈ parts.map String.toList, c ∉ p := fun p hp => by
    obtain ⟨part, hpart, rfl⟩ := List.mem_map.1 hp
    exact h part hpart
  rw [splitAtChar, String.toList_intercalate, String.toList_singleton,
    splitOn_joined hpieces (by simpa using hne), List.map_map]
  have hid : String.ofList ∘ String.toList = id := funext fun s => String.ofList_toList
  rw [hid, List.map_id]

/-! ## One step of cutting -/

variable {sep : List Char}

/-- Characters that belong to the last occurrence are passed over. -/
theorem splitOnFrom_skip (skip : Nat) (piece cs : List Char) :
    splitOnFrom sep skip piece cs = splitOnFrom sep 0 piece (cs.drop skip) := by
  induction cs generalizing skip with
  | nil => cases skip <;> rfl
  | cons c rest ih =>
    cases skip with
    | zero => rfl
    | succ k => exact ih k

/-- An occurrence of the separator ends the piece in front of it. -/
theorem splitOnFrom_separator (h : sep ≠ []) (piece cs : List Char) :
    splitOnFrom sep 0 piece (sep ++ cs) = piece.reverse :: splitOn sep cs := by
  obtain ⟨c, rest, rfl⟩ := List.exists_cons_of_ne_nil h
  have hprefix : (c :: rest).isPrefixOf (c :: (rest ++ cs)) = true :=
    List.isPrefixOf_iff_prefix.2 (List.prefix_append (c :: rest) cs)
  rw [List.cons_append, splitOnFrom, hprefix, if_pos rfl, splitOnFrom_skip]
  simp [splitOn]

/-- A character where the separator does not stand belongs to the piece. -/
theorem splitOnFrom_cons {c : Char} {rest : List Char} (h : ¬ sep <+: c :: rest)
    (piece : List Char) :
    splitOnFrom sep 0 piece (c :: rest) = splitOnFrom sep 0 (c :: piece) rest := by
  rw [splitOnFrom, if_neg fun hp => h <| List.isPrefixOf_iff_prefix.1 hp]

/-- The first piece starts with the characters read of it. -/
theorem splitOnFrom_eq_cons (sep piece cs : List Char) :
    ∃ tail rest, splitOnFrom sep 0 piece cs = (piece.reverse ++ tail) :: rest := by
  induction cs generalizing piece with
  | nil => exact ⟨[], [], by rw [List.append_nil]; rfl⟩
  | cons c rest ih =>
    rw [splitOnFrom]
    split
    · exact ⟨[], _, by rw [List.append_nil]⟩
    · obtain ⟨tail, later, hlater⟩ := ih (c :: piece)
      exact ⟨c :: tail, later, by rw [hlater, List.reverse_cons, List.append_assoc]; rfl⟩

theorem splitOn_ne_nil (sep cs : List Char) : splitOn sep cs ≠ [] := by
  obtain ⟨tail, rest, h⟩ := splitOnFrom_eq_cons sep [] cs
  rw [splitOn, h]
  exact List.cons_ne_nil _ _

/-- Characters that the separator does not have belong to the piece. -/
theorem splitOnFrom_append (hsep : sep ≠ []) {front : List Char} (h : ∀ c ∈ front, c ∉ sep)
    (piece cs : List Char) :
    splitOnFrom sep 0 piece (front ++ cs) = splitOnFrom sep 0 (front.reverse ++ piece) cs := by
  induction front generalizing piece with
  | nil => rfl
  | cons c rest ih =>
    have hprefix : ¬ sep <+: c :: (rest ++ cs) := fun hp => by
      obtain ⟨d, later, rfl⟩ := List.exists_cons_of_ne_nil hsep
      exact h c List.mem_cons_self ((List.cons_prefix_cons.1 hp).1 ▸ List.mem_cons_self)
    rw [List.cons_append, splitOnFrom_cons hprefix, ih fun d hd => h d (List.mem_cons_of_mem _ hd),
      List.reverse_cons, List.append_assoc]
    rfl

/-- The first piece begins with the characters in front that the separator does not have. -/
theorem splitOn_append (hsep : sep ≠ []) {front : List Char} (h : ∀ c ∈ front, c ∉ sep)
    (cs : List Char) : ∃ tail rest, splitOn sep (front ++ cs) = (front ++ tail) :: rest := by
  obtain ⟨tail, rest, hpieces⟩ := splitOnFrom_eq_cons sep front.reverse cs
  refine ⟨tail, rest, ?_⟩
  rw [splitOn, splitOnFrom_append hsep h, List.append_nil, hpieces, List.reverse_reverse]

/-- The first piece begins with the first character, unless that belongs to the separator. -/
theorem splitOn_cons (hsep : sep ≠ []) {c : Char} (hc : c ∉ sep) (cs : List Char) :
    ∃ tail rest, splitOn sep (c :: cs) = (c :: tail) :: rest :=
  splitOn_append hsep (List.forall_mem_singleton.2 hc) cs

/-- A text without the separator is one piece. -/
theorem splitOn_of_absent {cs : List Char} (h : ¬ sep <:+: cs) : splitOn sep cs = [cs] := by
  have hwalk : ∀ piece, splitOnFrom sep 0 piece cs = [piece.reverse ++ cs] := by
    induction cs with
    | nil => exact fun piece => by rw [List.append_nil]; rfl
    | cons c rest ih =>
      intro piece
      rw [splitOnFrom_cons fun hp => h hp.isInfix, ih fun hi => h (hi.trans ⟨[c], [], by simp⟩),
        List.reverse_cons, List.append_assoc]
      rfl
  exact hwalk []

/-- The walk behind a start that the separator does not reach into keeps it out of all pieces. -/
theorem absent_of_mem_splitOnFrom (hsep : sep ≠ []) {piece cs p : List Char}
    (h : ∀ u v, piece.reverse ++ cs = u ++ sep ++ v → piece.length ≤ u.length)
    (hp : p ∈ splitOnFrom sep 0 piece cs) : ¬ sep <:+: p := by
  induction hn : cs.length using Nat.strongRecOn generalizing piece cs with
  | ind n ih =>
    -- the separator ends in the piece or reaches behind it, so it cannot start in it
    have hout : ¬ sep <:+: piece.reverse := by
      rintro ⟨u, v, huv⟩
      have hlen := congrArg List.length huv
      have hstart := h u (v ++ cs) (by rw [← huv]; simp)
      have hpos := List.length_pos_iff.2 hsep
      simp only [List.length_append, List.length_reverse] at hlen
      omega
    cases cs with
    | nil =>
      rw [show p = piece.reverse from List.mem_singleton.1 hp]
      exact hout
    | cons c rest =>
      by_cases hprefix : sep <+: c :: rest
      · obtain ⟨later, hlater⟩ := hprefix
        rw [← hlater, splitOnFrom_separator hsep] at hp
        rcases List.mem_cons.1 hp with rfl | hp
        · exact hout
        · have hlen := congrArg List.length hlater
          have hpos := List.length_pos_iff.2 hsep
          simp only [List.length_append] at hlen
          exact ih later.length (by omega) (fun _ _ _ => Nat.zero_le _) hp rfl
      · rw [splitOnFrom_cons hprefix] at hp
        refine ih rest.length (by simp [← hn]) (fun u v huv => ?_) hp rfl
        have hu := h u v (by rw [← huv]; simp)
        refine Nat.lt_of_le_of_ne hu fun heq => hprefix ⟨v, ?_⟩
        rw [List.reverse_cons, List.append_assoc, List.append_assoc] at huv
        exact (List.append_inj_right huv (by simpa using heq)).symm

/-- No piece has the separator in it. -/
theorem absent_of_mem_splitOn (hsep : sep ≠ []) {cs p : List Char} (hp : p ∈ splitOn sep cs) :
    ¬ sep <:+: p :=
  absent_of_mem_splitOnFrom hsep (fun _ _ _ => Nat.zero_le _) hp

/-- The characters of a piece are characters of the text. -/
theorem mem_of_mem_splitOnFrom {skip : Nat} {piece cs p : List Char}
    (hp : p ∈ splitOnFrom sep skip piece cs) {c : Char} (hc : c ∈ p) : c ∈ piece ∨ c ∈ cs := by
  induction cs generalizing skip piece with
  | nil =>
    rw [List.mem_singleton.1 hp] at hc
    exact .inl (List.mem_reverse.1 hc)
  | cons d rest ih =>
    cases skip with
    | succ k => exact (ih hp).imp_right (List.mem_cons_of_mem _)
    | zero =>
      rw [splitOnFrom] at hp
      split at hp
      · rcases List.mem_cons.1 hp with rfl | hp
        · exact .inl (List.mem_reverse.1 hc)
        · exact (ih hp).elim (fun h => absurd h List.not_mem_nil)
            fun h => .inr (List.mem_cons_of_mem _ h)
      · rcases ih hp with h | h
        · exact (List.mem_cons.1 h).elim (fun h => .inr (h ▸ List.mem_cons_self)) .inl
        · exact .inr (List.mem_cons_of_mem _ h)

theorem mem_of_mem_splitOn {cs p : List Char} (hp : p ∈ splitOn sep cs) {c : Char} (hc : c ∈ p) :
    c ∈ cs :=
  (mem_of_mem_splitOnFrom hp hc).elim (fun h => absurd h List.not_mem_nil) id

theorem splitAtChar_ne_nil (c : Char) (s : String) : splitAtChar c s ≠ [] := by
  simpa [splitAtChar] using splitOn_ne_nil [c] s.toList

/-- A piece between the occurrences of a character does not hold it. -/
theorem notMem_of_mem_splitAtChar {c : Char} {s piece : String} (h : piece ∈ splitAtChar c s) :
    c ∉ piece.toList := by
  obtain ⟨cs, hcs, rfl⟩ := List.mem_map.1 h
  rw [String.toList_ofList]
  intro hc
  obtain ⟨u, v, rfl⟩ := List.append_of_mem hc
  exact absent_of_mem_splitOn (List.cons_ne_nil c []) hcs ⟨u, v, by simp⟩

/-! ## Separators that do not overlap themselves -/

/-- A separator of which no occurrence reaches into the next one. -/
structure SelfDisjoint (sep : List Char) : Prop where
  ne_nil : sep ≠ []
  apart : ∀ x y, x ≠ [] → sep <+: x ++ (sep ++ y) → sep <+: x

/-- A character does not overlap itself. -/
theorem SelfDisjoint.singleton (c : Char) : SelfDisjoint [c] where
  ne_nil := List.cons_ne_nil _ _
  apart x y hx h := by
    obtain ⟨d, rest, rfl⟩ := List.exists_cons_of_ne_nil hx
    exact List.cons_prefix_cons.2 ⟨(List.cons_prefix_cons.1 h).1, List.nil_prefix⟩

/-- Two different characters do not overlap themselves. -/
theorem SelfDisjoint.pair {c d : Char} (hne : c ≠ d) : SelfDisjoint [c, d] where
  ne_nil := List.cons_ne_nil _ _
  apart x y hx h := by
    obtain ⟨a, rest, rfl⟩ := List.exists_cons_of_ne_nil hx
    obtain ⟨ha, h⟩ := List.cons_prefix_cons.1 h
    cases rest with
    | nil => exact absurd (List.cons_prefix_cons.1 h).1.symm hne
    | cons b rest =>
      exact List.cons_prefix_cons.2 ⟨ha, List.cons_prefix_cons.2
        ⟨(List.cons_prefix_cons.1 h).1, List.nil_prefix⟩⟩

/-- The walk over a text with a separator behind it cuts the text first. -/
theorem splitOnFrom_append_separator (h : SelfDisjoint sep) (piece x y : List Char) :
    splitOnFrom sep 0 piece (x ++ (sep ++ y)) = splitOnFrom sep 0 piece x ++ splitOn sep y := by
  induction hn : x.length using Nat.strongRecOn generalizing piece x with
  | ind n ih =>
    cases x with
    | nil => exact splitOnFrom_separator h.ne_nil piece y
    | cons c rest =>
      by_cases hprefix : sep <+: c :: rest
      · obtain ⟨later, hlater⟩ := hprefix
        have hlen := congrArg List.length hlater
        have hpos := List.length_pos_iff.2 h.ne_nil
        simp only [List.length_append] at hlen
        rw [← hlater, List.append_assoc, splitOnFrom_separator h.ne_nil,
          splitOnFrom_separator h.ne_nil, List.cons_append]
        exact congrArg _ (ih later.length (by omega) [] later rfl)
      · have hbehind : ¬ sep <+: c :: (rest ++ (sep ++ y)) := fun hp =>
          hprefix (h.apart (c :: rest) y (List.cons_ne_nil _ _) hp)
        rw [List.cons_append, splitOnFrom_cons hbehind, splitOnFrom_cons hprefix]
        exact ih rest.length (by simp [← hn]) _ rest rfl

/-- The pieces of two texts with the separator between them are the pieces of both. -/
theorem splitOn_append_separator (h : SelfDisjoint sep) (x y : List Char) :
    splitOn sep (x ++ (sep ++ y)) = splitOn sep x ++ splitOn sep y :=
  splitOnFrom_append_separator h [] x y

/-- The pieces of lines that each end in the separator, with the empty one behind the last. -/
theorem splitOn_terminated (h : SelfDisjoint sep) (lines : List (List Char)) :
    splitOn sep (lines.flatMap (· ++ sep)) = lines.flatMap (splitOn sep) ++ [[]] := by
  induction lines with
  | nil => rfl
  | cons line rest ih =>
    rw [List.flatMap_cons, List.append_assoc, splitOn_append_separator h, ih, List.flatMap_cons,
      List.append_assoc]

/-- Pieces without the separator are read back from the text that joins them. -/
theorem splitOn_intercalate (h : SelfDisjoint sep) {pieces : List (List Char)}
    (hp : ∀ p ∈ pieces, ¬ sep <:+: p) (hne : pieces ≠ []) :
    splitOn sep (List.intercalate sep pieces) = pieces := by
  induction pieces with
  | nil => exact absurd rfl hne
  | cons p rest ih =>
    have hfirst := splitOn_of_absent (hp p List.mem_cons_self)
    cases rest with
    | nil => rwa [List.intercalate_singleton]
    | cons q rest =>
      rw [List.intercalate_cons_cons, List.append_assoc, splitOn_append_separator h, hfirst,
        ih (fun r hr => hp r (List.mem_cons_of_mem _ hr)) (List.cons_ne_nil _ _)]
      rfl

/-- Joined lines with the separator behind them are lines that each end in the separator. -/
theorem intercalate_append_separator {lines : List (List Char)} (hne : lines ≠ []) :
    List.intercalate sep lines ++ sep = lines.flatMap (· ++ sep) := by
  induction lines with
  | nil => exact absurd rfl hne
  | cons line rest ih =>
    cases rest with
    | nil => simp
    | cons next rest =>
      rw [List.intercalate_cons_cons, List.append_assoc, ih (List.cons_ne_nil _ _)]
      rfl

/-- The characters of joined pieces come from the separator or from a piece. -/
theorem mem_of_mem_intercalate {pieces : List (List Char)} {c : Char}
    (h : c ∈ List.intercalate sep pieces) : c ∈ sep ∨ ∃ p ∈ pieces, c ∈ p := by
  induction pieces with
  | nil => simp at h
  | cons p rest ih =>
    cases rest with
    | nil =>
      rw [List.intercalate_singleton] at h
      exact .inr ⟨p, List.mem_cons_self, h⟩
    | cons q rest =>
      rw [List.intercalate_cons_cons, List.append_assoc] at h
      rcases List.mem_append.1 h with h | h
      · exact .inr ⟨p, List.mem_cons_self, h⟩
      · refine (List.mem_append.1 h).elim .inl fun h => (ih h).imp_right ?_
        exact fun ⟨r, hr, hc⟩ => ⟨r, List.mem_cons_of_mem _ hr, hc⟩

/-! ## Ends that are dropped -/

variable {p : Char → Bool} {c : Char} {cs : List Char}

/-- A character that is not dropped at the start stays. -/
theorem mem_dropWhile (h : p c = false) : c ∈ cs.dropWhile p ↔ c ∈ cs := by
  refine ⟨(List.dropWhile_sublist p).mem, fun hc => ?_⟩
  rw [← List.takeWhile_append_dropWhile (p := p) (l := cs)] at hc
  refine (List.mem_append.1 hc).resolve_left fun htaken => ?_
  rw [List.mem_takeWhile_imp htaken] at h
  cases h

/-- A character that is not dropped at the end stays. -/
theorem mem_dropEndWhile (h : p c = false) : c ∈ dropEndWhile p cs ↔ c ∈ cs := by
  rw [dropEndWhile, List.mem_reverse, mem_dropWhile h, List.mem_reverse]

/-- What remains without an end was there before. -/
theorem mem_of_mem_dropEndWhile (h : c ∈ dropEndWhile p cs) : c ∈ cs :=
  List.mem_reverse.1 ((List.dropWhile_sublist p).mem (List.mem_reverse.1 h))

/-- A text without an end is a start of it. -/
theorem dropEndWhile_start (p : Char → Bool) (cs : List Char) : dropEndWhile p cs <+: cs := by
  rw [dropEndWhile, ← List.reverse_suffix, List.reverse_reverse]
  exact List.dropWhile_suffix p

/-- No end is dropped behind a character that stays. -/
theorem dropEndWhile_concat (h : p c = false) (cs : List Char) :
    dropEndWhile p (cs ++ [c]) = cs ++ [c] := by
  simp [dropEndWhile, h]

/-! ## Lines -/

/-- Only the empty text has no line. -/
theorem splitLinesFrom_ne_nil {line cs : List Char} (h : line ≠ [] ∨ cs ≠ []) :
    splitLinesFrom line cs ≠ [] := by
  fun_induction splitLinesFrom line cs with
  | case1 line hline => simp_all
  | case2 line hline => simp
  | case3 line rest => simp
  | case4 line c rest hc hbreak => simp
  | case5 line c rest hc hbreak ih => exact ih (.inl (List.cons_ne_nil _ _))

/-- No line holds a line boundary. -/
theorem splitLinesFrom_unbroken {line cs : List Char} (hline : ∀ c ∈ line, isLineBreak c = false) :
    ∀ l ∈ splitLinesFrom line cs, ∀ c ∈ l, isLineBreak c = false := by
  have hreverse : ∀ {line : List Char}, (∀ c ∈ line, isLineBreak c = false) →
      ∀ c ∈ line.reverse, isLineBreak c = false := fun hline c hc =>
    hline c (List.mem_reverse.1 hc)
  fun_induction splitLinesFrom line cs with
  | case1 line hempty => exact fun l hl => by cases hl
  | case2 line hempty => exact List.forall_mem_singleton.2 (hreverse hline)
  | case3 line rest ih | case4 line c rest hnext hbreak ih =>
    exact List.forall_mem_cons.2 ⟨hreverse hline, ih fun c hc => by cases hc⟩
  | case5 line c rest hnext hbreak ih =>
    exact ih (List.forall_mem_cons.2 ⟨eq_false_of_ne_true hbreak, hline⟩)

end TableInterfaces.Text
