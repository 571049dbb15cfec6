import Mathlib.Data.List.Chain
import TableInterfaces.Proofs.Text.Pieces
import TableInterfaces.Text.Wrap

/-!
# Properties that breaks keep apart

Wrapping cuts a text at white space and hyphens only. So what holds of a text with a break in it
just where it holds on both sides of the break (`KeptApart`) holds of a text just where it holds of
all its lines, wrapped or not. Everything follows from the one equation at a break. Main statements:

* `KeptApart.splitLines_iff`: lines that end at line boundaries.
* `Wrap.chunks_parted`: two neighbours among the chunks of a line have a break where they meet.
* `KeptApart.wrapLine_iff`: wrapped lines.
-/

namespace TableInterfaces.Text

/-- Characters at which wrapping may cut: white space and hyphens. -/
def isBreak (c : Char) : Bool :=
  isBlank c || c == '-'

/-- Line boundaries are white space. -/
theorem isBlank_of_isLineBreak {c : Char} (h : isLineBreak c = true) : isBlank c = true := by
  simp only [isLineBreak, isBlank, Bool.or_eq_true, Bool.and_eq_true, decide_eq_true_eq,
    beq_iff_eq] at h ⊢
  omega

/-- Spacing characters are white space. -/
theorem isBlank_of_isSpacing {c : Char} (h : Wrap.isSpacing c = true) : isBlank c = true := by
  simp only [Wrap.isSpacing, isBlank, Bool.or_eq_true, Bool.and_eq_true, decide_eq_true_eq,
    beq_iff_eq] at h ⊢
  rcases h with rfl | h
  · decide
  · omega

/-- White space is a break. -/
theorem isBreak_of_isBlank {c : Char} (h : isBlank c = true) : isBreak c = true := by
  rw [isBreak, h, Bool.true_or]

/-- A property of texts that holds of nothing, and of a text with a break in it just where it holds
on both sides. -/
structure KeptApart (P : List Char → Prop) : Prop where
  nil : P []
  at_break : ∀ u c v, isBreak c = true → (P (u ++ c :: v) ↔ P u ∧ P v)

/-- Two texts meet at a break: one ends with it, or the other one starts with it. -/
def MeetAtBreak (a b : List Char) : Prop :=
  (∃ c ∈ a.getLast?, isBreak c = true) ∨ ∃ c ∈ b.head?, isBreak c = true

namespace KeptApart

variable {P : List Char → Prop}

/-- A break in front of a text makes no difference. -/
theorem cons_iff (h : KeptApart P) {c : Char} (hc : isBreak c = true) (cs : List Char) :
    P (c :: cs) ↔ P cs :=
  (h.at_break [] c cs hc).trans (and_iff_right h.nil)

/-- A break behind a text makes no difference. -/
theorem concat_iff (h : KeptApart P) {c : Char} (hc : isBreak c = true) (cs : List Char) :
    P (cs ++ [c]) ↔ P cs :=
  (h.at_break cs c [] hc).trans (and_iff_left h.nil)

/-- Texts that meet at a break are kept apart. -/
theorem append_iff (h : KeptApart P) {a b : List Char} (hab : MeetAtBreak a b) :
    P (a ++ b) ↔ P a ∧ P b := by
  rcases hab with ⟨c, hlast, hc⟩ | ⟨c, hhead, hc⟩
  · obtain ⟨u, rfl⟩ := List.getLast?_eq_some_iff.1 hlast
    rw [List.append_assoc, List.singleton_append, h.at_break u c b hc, h.concat_iff hc]
  · obtain ⟨v, rfl⟩ := List.head?_eq_some_iff.1 hhead
    rw [h.at_break a c v hc, h.cons_iff hc]

/-- Texts of which neighbours meet at breaks are all kept apart. -/
theorem flatten_iff (h : KeptApart P) {pieces : List (List Char)}
    (hchain : pieces.IsChain MeetAtBreak) (hne : ∀ p ∈ pieces, p ≠ []) :
    P pieces.flatten ↔ ∀ p ∈ pieces, P p := by
  induction pieces with
  | nil => exact iff_of_true h.nil fun p hp => by cases hp
  | cons a rest ih =>
    have hrest := ih hchain.tail fun p hp => hne p (List.mem_cons_of_mem _ hp)
    rw [List.forall_mem_cons, ← hrest, List.flatten_cons]
    cases rest with
    | nil => rw [List.flatten_nil, List.append_nil, and_iff_left h.nil]
    | cons b rest =>
      have hb := hne b (List.mem_cons_of_mem _ List.mem_cons_self)
      refine h.append_iff ((List.isChain_cons_cons.1 hchain).1.imp_right fun ⟨c, hc, hbreak⟩ =>
        ⟨c, ?_, hbreak⟩)
      rw [List.flatten_cons, List.head?_append_of_ne_nil _ hb]
      exact hc

/-- White space has every property that breaks keep apart. -/
theorem blank (h : KeptApart P) {cs : List Char} (hcs : cs.all isBlank = true) : P cs := by
  induction cs with
  | nil => exact h.nil
  | cons c rest ih =>
    rw [List.all_cons, Bool.and_eq_true] at hcs
    exact (h.cons_iff (by simp [isBreak, hcs.1]) rest).2 (ih hcs.2)

/-! ## Lines -/

/-- Lines behind the start of the first one. -/
theorem splitLinesFrom_iff (h : KeptApart P) (line cs : List Char) :
    (∀ l ∈ splitLinesFrom line cs, P l) ↔ P (line.reverse ++ cs) := by
  fun_induction splitLinesFrom line cs with
  | case1 line hline =>
    rw [List.isEmpty_iff.1 hline]
    exact iff_of_true (fun l hl => by cases hl) h.nil
  | case2 line hline => simp
  | case3 line rest ih =>
    rw [List.forall_mem_cons, ih, h.at_break line.reverse '\r' ('\n' :: rest) rfl,
      h.cons_iff rfl]
    rfl
  | case4 line c rest hnext hbreak ih =>
    have hc : isBreak c = true := isBreak_of_isBlank (isBlank_of_isLineBreak hbreak)
    rw [List.forall_mem_cons, ih, h.at_break line.reverse c rest hc]
    rfl
  | case5 line c rest hnext hbreak ih =>
    rw [ih, List.reverse_cons, List.append_assoc]
    rfl

/-- What line boundaries keep apart holds of a text just where it holds of its lines. -/
theorem splitLines_iff (h : KeptApart P) (cs : List Char) :
    (∀ l ∈ splitLines cs, P l) ↔ P cs :=
  h.splitLinesFrom_iff [] cs

/-- Lines that are joined again. -/
theorem intercalate_iff (h : KeptApart P) (lines : List (List Char)) :
    P (List.intercalate ['\n'] lines) ↔ ∀ l ∈ lines, P l := by
  induction lines with
  | nil => exact iff_of_true h.nil fun l hl => by cases hl
  | cons line rest ih =>
    cases rest with
    | nil => simp
    | cons next rest =>
      rw [List.intercalate_cons_cons, List.append_assoc, List.singleton_append,
        h.at_break line '\n' _ rfl, ih]
      exact List.forall_mem_cons.symm

end KeptApart

/-! ## Chunks -/

namespace Wrap

/-- A chunk that has been started is filled, and the next one starts behind it. -/
theorem chunksFrom_started (before : List Char) {chunk : List Char} (hchunk : chunk ≠ [])
    (left : Nat) (cs : List Char) :
    chunksFrom before chunk left cs = (chunk.reverse ++ cs.take left) ::
      chunksFrom ((cs.take left).reverse ++ before) [] 0 (cs.drop left) := by
  induction cs generalizing before chunk left with
  | nil => cases chunk with
    | nil => exact absurd rfl hchunk
    | cons c rest => simp [chunksFrom]
  | cons c rest ih =>
    cases left with
    | succ k =>
      rw [chunksFrom, ih _ (List.cons_ne_nil _ _)]
      simp
    | zero =>
      cases chunk with
      | nil => exact absurd rfl hchunk
      | cons d chunk => simp [chunksFrom]

/-- A chunk of a text, and the chunks of what is behind it. -/
theorem chunksFrom_cons (before : List Char) (c : Char) (rest : List Char) :
    chunksFrom before [] 0 (c :: rest) =
      let n := chunkLength before c rest - 1
      (c :: rest.take n) :: chunksFrom ((rest.take n).reverse ++ c :: before) [] 0 (rest.drop n) :=
  chunksFrom_started (c :: before) (List.cons_ne_nil c []) _ rest

/-- A word ends with the text, with a hyphen, or in front of a break. -/
theorem wordLengthFrom_ends (before : List Char) (count : Nat) (cs : List Char) :
    ∃ n, wordLengthFrom before count cs = count + n ∧
      ((∃ u, cs.take n = u ++ ['-']) ∨ cs.drop n = [] ∨ ∃ c ∈ (cs.drop n).head?, isBreak c) := by
  fun_induction wordLengthFrom before count cs with
  | case1 before count => exact ⟨0, rfl, .inr (.inl rfl)⟩
  | case2 before count c rest hyphen =>
    simp only [Bool.and_eq_true, beq_iff_eq] at hyphen
    refine ⟨1, rfl, .inl ⟨[], ?_⟩⟩
    rw [hyphen.1.1]
    rfl
  | case3 before count c rest hyphen hspacing =>
    exact ⟨0, rfl, .inr (.inr ⟨c, rfl, isBreak_of_isBlank (isBlank_of_isSpacing hspacing)⟩)⟩
  | case4 before count c rest hyphen hspacing hdash =>
    refine ⟨0, rfl, .inr (.inr ⟨c, rfl, ?_⟩)⟩
    rw [Bool.and_eq_true] at hdash
    by_cases hc : c = '-'
    · rw [hc]
      rfl
    · have hno : dashLength? (c :: rest) = none := by
        simp [dashLength?, hc]
      rw [hno] at hdash
      cases hdash.2
  | case5 before count c rest hyphen hspacing hdash ih =>
    obtain ⟨n, hn, hends⟩ := ih
    refine ⟨n + 1, by omega, hends.imp_left ?_⟩
    rintro ⟨u, hu⟩
    exact ⟨c :: u, by rw [List.take_succ_cons, hu]; rfl⟩

/-- A dash is a row of hyphens. -/
theorem dashLength?_eq {cs : List Char} {n : Nat} (h : dashLength? cs = some n) :
    2 ≤ n ∧ cs.take n = List.replicate n '-' := by
  unfold dashLength? at h
  dsimp only at h
  split at h
  · rename_i hlength
    have hn : (cs.takeWhile (· == '-')).length = n := by
      split at h
      · split at h
        · exact Option.some.inj h
        · cases h
      · cases h
    refine ⟨hn ▸ hlength, ?_⟩
    have htake : cs.take n = cs.takeWhile (· == '-') := by
      rw [← hn]
      exact (List.prefix_iff_eq_take.1 (List.takeWhile_prefix _)).symm
    refine List.eq_replicate_iff.2 ⟨by rw [htake, hn], fun c hc => ?_⟩
    rw [htake] at hc
    simpa using List.mem_takeWhile_imp hc
  · cases h

/-- A chunk and what is behind it meet at a break, unless nothing is. -/
theorem chunk_meets (before : List Char) (c : Char) (rest : List Char) :
    let n := chunkLength before c rest - 1
    rest.drop n = [] ∨ MeetAtBreak (c :: rest.take n) (rest.drop n) := by
  have hlast : ∀ (u : List Char) (d : Char), isBreak d = true →
      ∃ e ∈ (c :: (u ++ [d])).getLast?, isBreak e = true := fun u d hd =>
    ⟨d, by rw [← List.cons_append, List.getLast?_concat]; rfl, hd⟩
  intro n
  unfold n chunkLength
  split
  · rename_i hspacing
    refine .inr (.inl ?_)
    rw [Nat.add_sub_cancel_left]
    have htake : rest.take (rest.takeWhile isSpacing).length = rest.takeWhile isSpacing :=
      (List.prefix_iff_eq_take.1 (List.takeWhile_prefix _)).symm
    rw [htake]
    cases hrow : (rest.takeWhile isSpacing).getLast? with
    | none =>
      rw [List.getLast?_eq_none_iff.1 hrow]
      exact ⟨c, rfl, isBreak_of_isBlank (isBlank_of_isSpacing hspacing)⟩
    | some d =>
      obtain ⟨u, hu⟩ := List.getLast?_eq_some_iff.1 hrow
      have hd : isSpacing d = true := List.mem_takeWhile_imp (List.mem_of_getLast? hrow)
      rw [hu]
      exact hlast u d (isBreak_of_isBlank (isBlank_of_isSpacing hd))
  · split
    · rename_i length hdash
      split at hdash
      · obtain ⟨hlength, hrow⟩ := dashLength?_eq hdash
        obtain ⟨k, rfl⟩ : ∃ k, length = k + 2 := ⟨length - 2, by omega⟩
        rw [List.take_succ_cons, List.replicate_succ] at hrow
        refine .inr (.inl ?_)
        rw [show k + 2 - 1 = k + 1 by omega, (List.cons.inj hrow).2, List.replicate_succ']
        exact hlast _ '-' rfl
      · cases hdash
    · obtain ⟨k, hk, hends⟩ := wordLengthFrom_ends (c :: before) 1 rest
      rw [hk, Nat.add_sub_cancel_left]
      rcases hends with ⟨u, hu⟩ | hnil | hhead
      · refine .inr (.inl ?_)
        rw [hu]
        exact hlast u '-' rfl
      · exact .inl hnil
      · exact .inr (.inr hhead)

/-- The chunks of a text behind `before` have something in them, make up the text, and meet at
breaks. -/
theorem chunksFrom_spec (before cs : List Char) :
    (∀ chunk ∈ chunksFrom before [] 0 cs, chunk ≠ []) ∧ (chunksFrom before [] 0 cs).flatten = cs ∧
      (chunksFrom before [] 0 cs).IsChain MeetAtBreak := by
  induction hlength : cs.length using Nat.strongRecOn generalizing before cs with
  | ind length ih =>
    cases cs with
    | nil => exact ⟨fun chunk h => by simp [chunksFrom] at h, rfl, .nil⟩
    | cons c rest =>
      have hmeets := chunk_meets before c rest
      rw [chunksFrom_cons]
      generalize chunkLength before c rest - 1 = n at hmeets ⊢
      obtain ⟨hne, hflatten, hchain⟩ := ih (rest.drop n).length
        (by simp only [List.length_cons] at hlength; simp only [List.length_drop]; omega)
        ((rest.take n).reverse ++ c :: before) (rest.drop n) rfl
      refine ⟨List.forall_mem_cons.2 ⟨List.cons_ne_nil _ _, hne⟩, ?_, List.isChain_cons.2
        ⟨fun next hnext => ?_, hchain⟩⟩
      · rw [List.flatten_cons, hflatten, List.cons_append, List.take_append_drop]
      · -- the next chunk starts where the rest of the text does
        obtain ⟨later, hlater⟩ := List.head?_eq_some_iff.1 hnext
        have hnextNe : next ≠ [] := hne next (hlater ▸ List.mem_cons_self)
        rw [hlater, List.flatten_cons] at hflatten
        have hhead : (rest.drop n).head? = next.head? := by
          rw [← hflatten, List.head?_append_of_ne_nil _ hnextNe]
        have hrest : rest.drop n ≠ [] := by
          rw [← hflatten]
          exact List.append_ne_nil_of_left_ne_nil hnextNe _
        have hmeet := hmeets.resolve_left hrest
        rwa [MeetAtBreak, hhead] at hmeet

/-- The chunks of a text have something in them. -/
theorem chunks_ne_nil (cs : List Char) : ∀ chunk ∈ chunks cs, chunk ≠ [] :=
  (chunksFrom_spec [] cs).1

/-- The chunks of a text make up the text. -/
theorem chunks_flatten (cs : List Char) : (chunks cs).flatten = cs :=
  (chunksFrom_spec [] cs).2.1

/-- Two chunks next to each other meet at a break. -/
theorem chunks_parted (cs : List Char) : (chunks cs).IsChain MeetAtBreak :=
  (chunksFrom_spec [] cs).2.2

end Wrap

/-! ## Wrapped lines -/

namespace KeptApart

open Wrap

variable {P : List Char → Prop}

/-- Dropping a blank chunk at the end of a line makes no difference. -/
theorem closeLine_iff (h : KeptApart P) {line : List (List Char)}
    (hchain : line.reverse.IsChain MeetAtBreak) (hne : ∀ chunk ∈ line.reverse, chunk ≠ []) :
    P (closeLine line).flatten ↔ ∀ chunk ∈ line.reverse, P chunk := by
  unfold closeLine
  split
  · rename_i last rest
    split
    · rename_i hblank
      rw [List.reverse_cons] at hchain hne ⊢
      rw [h.flatten_iff hchain.left_of_append fun chunk hc => hne chunk (List.mem_append_left _ hc),
        List.forall_mem_append, and_iff_left (List.forall_mem_singleton.2 (h.blank hblank))]
    · exact h.flatten_iff hchain hne
  · exact iff_of_true h.nil fun chunk hc => by cases hc

/-- Dropping a blank chunk at the start of a line makes no difference. -/
theorem start_iff (h : KeptApart P) {chunk : List Char} {dropped : Bool}
    (hdropped : dropped = true → isBlankChunk chunk = true) (rest : List (List Char)) :
    (∀ c ∈ (if dropped then [] else [chunk]).reverse ++ rest, P c) ↔ ∀ c ∈ chunk :: rest, P c := by
  cases dropped with
  | false => rfl
  | true => exact (List.forall_mem_cons.trans (and_iff_right (h.blank (hdropped rfl)))).symm

/-- Packing chunks that meet at breaks into lines. -/
theorem packFrom_iff (h : KeptApart P) (width : Nat) (first : Bool)
    (line chunks : List (List Char)) (hchain : (line.reverse ++ chunks).IsChain MeetAtBreak)
    (hne : ∀ chunk ∈ line.reverse ++ chunks, chunk ≠ []) :
    (∀ l ∈ packFrom width first line chunks, P l) ↔ ∀ chunk ∈ line.reverse ++ chunks, P chunk := by
  have hclosed : ∀ {line rest : List (List Char)}, (line.reverse ++ rest).IsChain MeetAtBreak →
      (∀ chunk ∈ line.reverse ++ rest, chunk ≠ []) →
      (P (closeLine line).flatten ↔ ∀ chunk ∈ line.reverse, P chunk) := fun hchain hne =>
    h.closeLine_iff hchain.left_of_append fun chunk hc => hne chunk (List.mem_append_left _ hc)
  have hstart : ∀ {chunk : List Char} {line rest : List (List Char)} (dropped : Bool),
      (line.reverse ++ chunk :: rest).IsChain MeetAtBreak →
      (∀ c ∈ line.reverse ++ chunk :: rest, c ≠ []) →
      ((if dropped then [] else [chunk]).reverse ++ rest).IsChain MeetAtBreak ∧
        ∀ c ∈ (if dropped then [] else [chunk]).reverse ++ rest, c ≠ [] :=
    fun dropped hchain hne => by
      have hchain := hchain.right_of_append
      have hne := (List.forall_mem_append.1 hne).2
      cases dropped with
      | false => exact ⟨hchain, hne⟩
      | true => exact ⟨hchain.tail, (List.forall_mem_cons.1 hne).2⟩
  fun_induction packFrom width first line chunks with
  | case1 first line done hdone =>
    have hline := hclosed hchain hne
    rw [show closeLine line = [] from List.isEmpty_iff.1 hdone] at hline
    rw [List.append_nil, ← hline]
    exact iff_of_true (fun l hl => by cases hl) h.nil
  | case2 first line done hdone =>
    rw [List.append_nil, ← hclosed hchain hne]
    exact List.forall_mem_singleton
  | case3 first line chunk rest hline ih =>
    rw [List.isEmpty_iff.1 hline] at hchain hne ⊢
    exact ih hchain hne
  | case4 first line chunk rest hline hfits ih =>
    rw [List.reverse_cons, List.append_assoc] at ih
    exact ih hchain hne
  | case5 first line chunk rest hline hfits done stillFirst start later hdone ih =>
    have hfront := hclosed hchain hne
    rw [show closeLine line = [] from List.isEmpty_iff.1 hdone, List.flatten_nil] at hfront
    obtain ⟨hlaterChain, hlaterNe⟩ := hstart (isBlankChunk chunk && !stillFirst) hchain hne
    rw [List.forall_mem_append, ← hfront, and_iff_right h.nil,
      ← h.start_iff (fun hdropped => (Bool.and_eq_true_iff.1 hdropped).1) rest]
    exact ih hlaterChain hlaterNe
  | case6 first line chunk rest hline hfits done stillFirst start later hdone ih =>
    obtain ⟨hlaterChain, hlaterNe⟩ := hstart (isBlankChunk chunk && !stillFirst) hchain hne
    rw [List.forall_mem_cons, List.forall_mem_append, hclosed hchain hne,
      ← h.start_iff (fun hdropped => (Bool.and_eq_true_iff.1 hdropped).1) rest]
    exact and_congr_right fun _ => ih hlaterChain hlaterNe

/-- What breaks keep apart holds of a text just where it holds of its wrapped lines. -/
theorem wrapLine_iff (h : KeptApart P) (width : Nat) (cs : List Char) :
    (∀ l ∈ wrapLine width cs, P l) ↔ P cs := by
  have hpacked := h.packFrom_iff width true [] (chunks cs) (chunks_parted cs) (chunks_ne_nil cs)
  rw [wrapLine, hpacked, List.reverse_nil, List.nil_append,
    ← h.flatten_iff (chunks_parted cs) (chunks_ne_nil cs), chunks_flatten]

end KeptApart

end TableInterfaces.Text
