import TableInterfaces.Proofs.Text.Breaks

/-!
# What wrapping keeps

Wrapping drops and adds white space only, so the characters that are no white space stay, in order
(`inked`). A wrapped line is not wider than it may be, or is a single chunk, which has no spacing
character in it. Main statements:

* `inked_splitLines`, `Wrap.inked_wrapLine`: the characters that lines and wrapped lines keep.
* `Wrap.chunks_uniform`: a chunk is spacing altogether, or has no spacing character.
* `Wrap.wrapLine_narrow`: how wide a wrapped line can be.
-/

namespace TableInterfaces.Text

/-- The characters of a text that are no white space. -/
def inked (cs : List Char) : List Char :=
  cs.filter fun c => !isBlank c

@[simp] theorem inked_append (cs later : List Char) :
    inked (cs ++ later) = inked cs ++ inked later :=
  List.filter_append ..

/-- White space in front of a text is not kept. -/
theorem inked_cons_blank {c : Char} (h : isBlank c = true) (cs : List Char) :
    inked (c :: cs) = inked cs :=
  List.filter_cons_of_neg (by simp [h])

/-- Nothing is kept of white space. -/
theorem inked_blank {cs : List Char} (h : cs.all isBlank = true) : inked cs = [] :=
  List.filter_eq_nil_iff.2 fun c hc => by simp [List.all_eq_true.1 h c hc]

/-! ## Lines -/

/-- Lines behind the start of the first one keep what is no white space. -/
theorem inked_splitLinesFrom (line cs : List Char) :
    (splitLinesFrom line cs).flatMap inked = inked line.reverse ++ inked cs := by
  fun_induction splitLinesFrom line cs with
  | case1 line hline =>
    rw [List.isEmpty_iff.1 hline]
    rfl
  | case2 line hline => simp [inked]
  | case3 line rest ih =>
    rw [List.flatMap_cons, ih, inked_cons_blank rfl, inked_cons_blank rfl]
    rfl
  | case4 line c rest hnext hbreak ih =>
    rw [List.flatMap_cons, ih, inked_cons_blank (isBlank_of_isLineBreak hbreak)]
    rfl
  | case5 line c rest hnext hbreak ih =>
    rw [ih, List.reverse_cons, inked_append, List.append_assoc, ← inked_append]
    rfl

/-- The lines of a text keep what is no white space. -/
theorem inked_splitLines (cs : List Char) : (splitLines cs).flatMap inked = inked cs :=
  inked_splitLinesFrom [] cs

/-- Lines that are joined keep what is no white space. -/
theorem inked_intercalate (lines : List (List Char)) :
    inked (List.intercalate ['\n'] lines) = lines.flatMap inked := by
  induction lines with
  | nil => rfl
  | cons line rest ih =>
    cases rest with
    | nil => simp
    | cons next rest =>
      rw [List.intercalate_cons_cons, List.append_assoc, inked_append, List.singleton_append,
        inked_cons_blank rfl, ih]
      rfl

/-- A line has characters of the text, in order. -/
theorem splitLinesFrom_sublist {line cs l : List Char} (h : l ∈ splitLinesFrom line cs) :
    l.Sublist (line.reverse ++ cs) := by
  fun_induction splitLinesFrom line cs with
  | case1 line hline => cases h
  | case2 line hline =>
    rw [List.mem_singleton.1 h, List.append_nil]
  | case3 line rest ih =>
    rcases List.mem_cons.1 h with rfl | h
    · exact List.sublist_append_left ..
    · exact (ih h).trans (.trans (.cons _ (.cons _ (.refl _))) (List.sublist_append_right ..))
  | case4 line c rest hnext hbreak ih =>
    rcases List.mem_cons.1 h with rfl | h
    · exact List.sublist_append_left ..
    · exact (ih h).trans (.trans (.cons _ (.refl _)) (List.sublist_append_right ..))
  | case5 line c rest hnext hbreak ih =>
    have hlater := ih h
    rwa [List.reverse_cons, List.append_assoc] at hlater

/-- One character of a text, unless it is the first half of a boundary of two. -/
theorem splitLinesFrom_cons {c : Char} {cs : List Char} (h : c = '\r' → cs.head? ≠ some '\n')
    (line : List Char) : splitLinesFrom line (c :: cs) =
      if isLineBreak c then line.reverse :: splitLines cs else splitLinesFrom (c :: line) cs := by
  rw [splitLinesFrom]
  · rfl
  · rintro rest rfl rfl
    exact h rfl rfl

/-- The lines of two texts with a line feed between them are lines of one of them, or empty. -/
theorem mem_splitLinesFrom_newline {line cs later l : List Char}
    (h : l ∈ splitLinesFrom line (cs ++ '\n' :: later)) :
    l ∈ splitLinesFrom line cs ∨ l = [] ∨ l ∈ splitLines later := by
  have hnewline : ∀ line, splitLinesFrom line ('\n' :: later) = line.reverse :: splitLines later :=
    fun line => splitLinesFrom_cons (fun hc => by cases hc) line
  fun_induction splitLinesFrom line cs with
  | case1 line hline =>
    rw [List.isEmpty_iff.1 hline, List.nil_append, hnewline] at h
    exact .inr (List.mem_cons.1 h)
  | case2 line hline =>
    rw [List.nil_append, hnewline] at h
    exact (List.mem_cons.1 h).imp List.mem_singleton.2 .inr
  | case3 line rest ih =>
    rcases List.mem_cons.1 h with rfl | h
    · exact .inl List.mem_cons_self
    · exact (ih h).imp_left (List.mem_cons_of_mem _)
  | case4 line c rest hnext hbreak ih =>
    cases rest with
    | nil =>
      -- a carriage return may be one boundary with the line feed
      by_cases hc : c = '\r'
      · subst hc
        exact (List.mem_cons.1 h).imp List.mem_singleton.2 .inr
      · rw [List.singleton_append, splitLinesFrom_cons fun h => absurd h hc, if_pos hbreak] at h
        exact (List.mem_cons.1 h).imp List.mem_singleton.2 fun h =>
          List.mem_cons.1 (hnewline [] ▸ h)
    | cons d rest =>
      rw [List.cons_append, splitLinesFrom_cons (fun hc hd => hnext rest hc (by
        rw [← Option.some.inj hd])), if_pos hbreak] at h
      rcases List.mem_cons.1 h with rfl | h
      · exact .inl List.mem_cons_self
      · exact (ih h).imp_left (List.mem_cons_of_mem _)
  | case5 line c rest hnext hbreak ih =>
    have hc : c = '\r' → (rest ++ '\n' :: later).head? ≠ some '\n' := fun hc => by
      rw [hc] at hbreak
      exact absurd rfl hbreak
    rw [List.cons_append, splitLinesFrom_cons hc, if_neg hbreak] at h
    exact ih h

/-- What holds of the lines of some texts, and of the empty line, holds of the lines of the joined
texts. -/
theorem forall_splitLines_intercalate {P : List Char → Prop} (hnil : P [])
    {texts : List (List Char)} (h : ∀ text ∈ texts, ∀ l ∈ splitLines text, P l) :
    ∀ l ∈ splitLines (List.intercalate ['\n'] texts), P l := by
  induction texts with
  | nil => exact fun l hl => by cases hl
  | cons text rest ih =>
    obtain ⟨htext, hrest⟩ := List.forall_mem_cons.1 h
    cases rest with
    | nil => simpa using htext
    | cons next rest =>
      intro l hl
      rw [List.intercalate_cons_cons, List.append_assoc, List.singleton_append] at hl
      rcases mem_splitLinesFrom_newline hl with hl | rfl | hl
      · exact htext l hl
      · exact hnil
      · exact ih hrest l hl

namespace Wrap

/-! ## Characters that are kept -/

/-- A blank chunk at the end of a line is all that is dropped. -/
theorem inked_closeLine (line : List (List Char)) :
    inked (closeLine line).flatten = inked line.reverse.flatten := by
  unfold closeLine
  split
  · rename_i last rest
    split
    · rename_i hblank
      rw [List.reverse_cons, List.flatten_append, inked_append, List.flatten_singleton,
        inked_blank hblank, List.append_nil]
    · rfl
  · rfl

/-- Packing keeps what is no white space. -/
theorem inked_packFrom (width : Nat) (first : Bool) (line chunks : List (List Char)) :
    (packFrom width first line chunks).flatMap inked = inked (line.reverse ++ chunks).flatten := by
  have hstart : ∀ {dropped : Bool} {chunk : List Char} (rest : List (List Char)),
      (dropped = true → isBlankChunk chunk = true) →
      inked ((if dropped then [] else [chunk]).reverse ++ rest).flatten =
        inked (chunk :: rest).flatten := fun {dropped chunk} rest hdropped => by
    cases dropped with
    | false => rfl
    | true =>
      rw [List.flatten_cons, inked_append, inked_blank (hdropped rfl)]
      rfl
  fun_induction packFrom width first line chunks with
  | case1 first line done hdone =>
    rw [List.append_nil, ← inked_closeLine, show closeLine line = [] from List.isEmpty_iff.1 hdone]
    rfl
  | case2 first line done hdone =>
    rw [List.append_nil, ← inked_closeLine]
    simp [done]
  | case3 first line chunk rest hline ih =>
    rw [List.isEmpty_iff.1 hline]
    exact ih
  | case4 first line chunk rest hline hfits ih =>
    rw [ih, List.reverse_cons, List.append_assoc]
    rfl
  | case5 first line chunk rest hline hfits done stillFirst start later hdone ih =>
    rw [ih, hstart rest fun hdropped => (Bool.and_eq_true_iff.1 hdropped).1, List.flatten_append,
      inked_append, ← inked_closeLine, show closeLine line = [] from List.isEmpty_iff.1 hdone]
    rfl
  | case6 first line chunk rest hline hfits done stillFirst start later hdone ih =>
    rw [List.flatMap_cons, ih, hstart rest fun hdropped => (Bool.and_eq_true_iff.1 hdropped).1,
      List.flatten_append, inked_append, ← inked_closeLine]

/-- **Wrapping keeps what is no white space.** -/
theorem inked_wrapLine (width : Nat) (cs : List Char) :
    (wrapLine width cs).flatMap inked = inked cs := by
  rw [wrapLine, inked_packFrom, List.reverse_nil, List.nil_append, chunks_flatten]

/-! ## Widths -/

/-- All characters of a text are spacing, or none is. -/
def Uniform (cs : List Char) : Prop :=
  (∀ c ∈ cs, isSpacing c = true) ∨ ∀ c ∈ cs, isSpacing c = false

/-- No character of a word is spacing. -/
theorem wordLengthFrom_unspaced (before : List Char) (count : Nat) (cs : List Char) :
    ∃ n, wordLengthFrom before count cs = count + n ∧ ∀ c ∈ cs.take n, isSpacing c = false := by
  fun_induction wordLengthFrom before count cs with
  | case1 before count => exact ⟨0, rfl, by simp⟩
  | case2 before count c rest hyphen =>
    simp only [Bool.and_eq_true, beq_iff_eq] at hyphen
    refine ⟨1, rfl, ?_⟩
    rw [hyphen.1.1, List.take_succ_cons, List.take_zero]
    exact List.forall_mem_singleton.2 rfl
  | case3 before count c rest hyphen hspacing => exact ⟨0, rfl, by simp⟩
  | case4 before count c rest hyphen hspacing hdash => exact ⟨0, rfl, by simp⟩
  | case5 before count c rest hyphen hspacing hdash ih =>
    obtain ⟨n, hn, hunspaced⟩ := ih
    exact ⟨n + 1, by omega, List.forall_mem_cons.2 ⟨eq_false_of_ne_true hspacing, hunspaced⟩⟩

/-- The chunk that starts with a character is spacing altogether, or has no spacing character. -/
theorem chunk_uniform (before : List Char) (c : Char) (rest : List Char) :
    Uniform (c :: rest.take (chunkLength before c rest - 1)) := by
  unfold chunkLength
  split
  · rename_i hspacing
    rw [Nat.add_sub_cancel_left, ← List.prefix_iff_eq_take.1 (List.takeWhile_prefix _)]
    exact .inl (List.forall_mem_cons.2 ⟨hspacing, fun d hd => List.mem_takeWhile_imp hd⟩)
  · rename_i hspacing
    refine .inr (List.forall_mem_cons.2 ⟨eq_false_of_ne_true hspacing, ?_⟩)
    split
    · rename_i length hdash
      split at hdash
      · -- all characters of a dash are hyphens
        obtain ⟨hlength, hrow⟩ := dashLength?_eq hdash
        obtain ⟨k, rfl⟩ : ∃ k, length = k + 1 := ⟨length - 1, by omega⟩
        rw [List.take_succ_cons, List.replicate_succ] at hrow
        rw [Nat.add_sub_cancel, (List.cons.inj hrow).2]
        intro d hd
        rw [List.eq_of_mem_replicate hd]
        rfl
      · cases hdash
    · obtain ⟨n, hn, hunspaced⟩ := wordLengthFrom_unspaced (c :: before) 1 rest
      rw [hn, Nat.add_sub_cancel_left]
      exact hunspaced

/-- **A chunk is spacing altogether, or has no spacing character.** -/
theorem chunks_uniform (cs : List Char) : ∀ chunk ∈ chunks cs, Uniform chunk := by
  have hall : ∀ before, ∀ chunk ∈ chunksFrom before [] 0 cs, Uniform chunk := by
    induction hlength : cs.length using Nat.strongRecOn generalizing cs with
    | ind length ih =>
      intro before
      cases cs with
      | nil => exact fun chunk hchunk => by cases hchunk
      | cons c rest =>
        rw [chunksFrom_cons]
        refine List.forall_mem_cons.2 ⟨chunk_uniform before c rest, ?_⟩
        exact ih _ (by simp only [List.length_cons] at hlength; simp only [List.length_drop]; omega)
          _ rfl _
  exact hall []

/-- A line is not wider than `width`, or has no spacing character. -/
def IsNarrow (width : Nat) (cs : List Char) : Prop :=
  cs.length ≤ width ∨ ∀ c ∈ cs, isSpacing c = false

/-- A line being filled is not wider than `width`, or has one chunk. -/
def IsFilled (width : Nat) (line : List (List Char)) : Prop :=
  lineLength line ≤ width ∨ ∃ chunk, line = [chunk]

theorem length_flatten_reverse (line : List (List Char)) :
    line.reverse.flatten.length = lineLength line := by
  induction line with
  | nil => rfl
  | cons chunk rest ih => simp [lineLength, ih, Nat.add_comm]

/-- A line that is closed is no wider than before. -/
theorem closeLine_length_le (line : List (List Char)) :
    (closeLine line).flatten.length ≤ lineLength line := by
  unfold closeLine
  split
  · split
    · rw [length_flatten_reverse]
      exact Nat.le_add_left ..
    · rw [length_flatten_reverse]
  · exact Nat.le_refl 0

/-- A line that is closed is narrow: a single chunk of spacing is dropped. -/
theorem closeLine_narrow {width : Nat} {line : List (List Char)} (h : IsFilled width line)
    (huniform : ∀ chunk ∈ line, Uniform chunk) : IsNarrow width (closeLine line).flatten := by
  rcases h with hlength | ⟨chunk, rfl⟩
  · exact .inl ((closeLine_length_le line).trans hlength)
  · unfold closeLine
    split
    · rename_i last rest hline
      obtain ⟨rfl, rfl⟩ := List.cons.inj hline
      split
      · exact .inl (Nat.zero_le width)
      · rename_i hblank
        rw [List.reverse_singleton, List.flatten_singleton]
        refine .inr ((huniform chunk List.mem_cons_self).resolve_left fun hspacing => hblank ?_)
        exact List.all_eq_true.2 fun c hc => isBlank_of_isSpacing (hspacing c hc)
    · exact .inl (Nat.zero_le width)

/-- Packed lines are narrow. -/
theorem packFrom_narrow {width : Nat} {first : Bool} {line chunks : List (List Char)}
    (hfilled : IsFilled width line) (hline : ∀ chunk ∈ line, Uniform chunk)
    (hchunks : ∀ chunk ∈ chunks, Uniform chunk) :
    ∀ l ∈ packFrom width first line chunks, IsNarrow width l := by
  have hstart : ∀ (dropped : Bool) {chunk : List Char}, Uniform chunk →
      IsFilled width (if dropped then [] else [chunk]) ∧
        ∀ c ∈ (if dropped then [] else [chunk] : List (List Char)), Uniform c :=
    fun dropped chunk hchunk => by
      cases dropped with
      | false => exact ⟨.inr ⟨chunk, rfl⟩, List.forall_mem_singleton.2 hchunk⟩
      | true => exact ⟨.inl (Nat.zero_le width), fun c hc => by cases hc⟩
  fun_induction packFrom width first line chunks with
  | case1 first line done hdone => exact fun l hl => by cases hl
  | case2 first line done hdone =>
    exact List.forall_mem_singleton.2 (closeLine_narrow hfilled hline)
  | case3 first line chunk rest hempty ih =>
    obtain ⟨hchunk, hrest⟩ := List.forall_mem_cons.1 hchunks
    exact ih (.inr ⟨chunk, rfl⟩) (List.forall_mem_singleton.2 hchunk) hrest
  | case4 first line chunk rest hempty hfits ih =>
    obtain ⟨hchunk, hrest⟩ := List.forall_mem_cons.1 hchunks
    refine ih (.inl ?_) (List.forall_mem_cons.2 ⟨hchunk, hline⟩) hrest
    rwa [lineLength, Nat.add_comm]
  | case5 first line chunk rest hempty hfits done stillFirst start later hdone ih =>
    obtain ⟨hchunk, hrest⟩ := List.forall_mem_cons.1 hchunks
    obtain ⟨hfilled, hstarted⟩ := hstart (isBlankChunk chunk && !stillFirst) hchunk
    exact ih hfilled hstarted hrest
  | case6 first line chunk rest hempty hfits done stillFirst start later hdone ih =>
    obtain ⟨hchunk, hrest⟩ := List.forall_mem_cons.1 hchunks
    obtain ⟨hfilled', hstarted⟩ := hstart (isBlankChunk chunk && !stillFirst) hchunk
    exact List.forall_mem_cons.2 ⟨closeLine_narrow hfilled hline, ih hfilled' hstarted hrest⟩

/-- **Wrapped lines are narrow.** -/
theorem wrapLine_narrow (width : Nat) (cs : List Char) :
    ∀ l ∈ wrapLine width cs, IsNarrow width l :=
  packFrom_narrow (.inl (Nat.zero_le width)) (fun chunk hchunk => by cases hchunk)
    (chunks_uniform cs)

/-- A part of a narrow line is narrow. -/
theorem IsNarrow.sublist {width : Nat} {cs l : List Char} (h : IsNarrow width cs)
    (hl : l.Sublist cs) : IsNarrow width l :=
  h.imp hl.length_le.trans fun hunspaced c hc => hunspaced c (hl.mem hc)

end Wrap

end TableInterfaces.Text
