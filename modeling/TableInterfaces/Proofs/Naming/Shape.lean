import Mathlib.Data.List.Chain
import TableInterfaces.Naming.Keyword
import TableInterfaces.Proofs.Naming.Sanitizer

/-!
# The shape of sanitized names

A clean name starts with a letter, or with an underscore and a digit, and does not end with a
separator. Snake case keeps both ends, so it has nothing to strip from a clean name. What it gives
(`SnakeForm`) is clean and in snake case already. Main statements:

* `snakeForm_snakeCase`, `SnakeForm.clean_eq` and `SnakeForm.snakeCase_eq`: the snake case of a
  clean name is a normal form of cleaning and of snake case.
* `hasShape_pascalCase`: the Pascal case of a clean name.
* `segment_resolve` and `not_contains_resolve`: package segments.
-/

namespace TableInterfaces.Naming

open TableInterfaces.Text

variable {c : Char} {cs : List Char}

/-! ## Kinds of characters -/

theorem not_isUpper_of_isDigit (h : c.isDigit = true) : ¬ c.isUpper = true := by
  simp only [Char.isDigit, Char.isUpper, Bool.and_eq_true, decide_eq_true_eq, ge_iff_le,
    UInt32.le_iff_toNat_le, Char.reduceVal, UInt32.reduceToNat] at h ⊢
  omega

theorem not_isLower_of_isDigit (h : c.isDigit = true) : ¬ c.isLower = true := by
  simp only [Char.isDigit, Char.isLower, Bool.and_eq_true, decide_eq_true_eq, ge_iff_le,
    UInt32.le_iff_toNat_le, Char.reduceVal, UInt32.reduceToNat] at h ⊢
  omega

/-- Only the underscore is an underscore as a small letter. -/
theorem eq_underscore_of_toLower (h : c.toLower = '_') : c = '_' := by
  by_cases hupper : c.isUpper = true
  · have hlower := Char.isLower_toLower_eq_isAlpha c
    rw [h, Char.isAlpha, hupper] at hlower
    cases hlower
  · rwa [Char.toLower_eq_of_not_isUpper hupper] at h

/-- Letters and digits do not separate parts. -/
theorem isSeparator_of_isAlphanum (h : c.isAlphanum = true) : isSeparator c = false := by
  rw [isSeparator, Bool.or_eq_false_iff, beq_eq_false_iff_ne, beq_eq_false_iff_ne]
  constructor
  · rintro rfl
    cases h
  · rintro rfl
    cases h

/-- The characters of package segments. -/
def isSegmentChar (c : Char) : Bool :=
  c.isLower || c.isDigit || c == '_'

theorem not_isUpper_of_isSegmentChar (h : isSegmentChar c = true) : ¬ c.isUpper = true := by
  simp only [isSegmentChar, Bool.or_eq_true, beq_iff_eq] at h
  rcases h with (h | h) | rfl
  · exact fun hupper => Char.not_isLower_of_isUpper hupper h
  · exact not_isUpper_of_isDigit h
  · decide

/-- Small letters for the characters of names are characters of package segments. -/
theorem isSegmentChar_toLower (h : (c.isAlphanum || c == '_') = true) :
    isSegmentChar c.toLower = true := by
  rw [Char.isAlphanum, Bool.or_eq_true, Bool.or_eq_true, beq_iff_eq] at h
  rcases h with (h | h) | rfl
  · simp [isSegmentChar, Char.isLower_toLower_eq_isAlpha, h]
  · simp [isSegmentChar, Char.toLower_eq_of_not_isUpper (not_isUpper_of_isDigit h), h]
  · decide

/-- The characters of package segments are kept, and are no hyphens. -/
theorem isKept_of_isSegmentChar (h : isSegmentChar c = true) : isKept c = true ∧ c ≠ '-' := by
  simp only [isSegmentChar, Bool.or_eq_true, beq_iff_eq] at h
  constructor
  · rcases h with (h | h) | rfl <;> simp [isKept, Char.isAlphanum, Char.isAlpha, *]
  · rintro rfl
    revert h
    decide

/-! ## Shapes -/

/-- A name starts with a character of the first kind, or with an underscore and a digit, and goes on
with characters of the second kind. -/
def HasShape (start more : Char → Bool) (cs : List Char) : Prop :=
  ∃ c rest, (cs = c :: rest ∧ start c = true ∨ cs = '_' :: c :: rest ∧ c.isDigit = true) ∧
    ∀ d ∈ rest, more d = true

theorem ne_underscore_of_isDigit (h : c.isDigit = true) : c ≠ '_' := by
  rintro rfl
  cases h

theorem splitCapitals_cons (c : Char) (cs : List Char) :
    splitCapitals (c :: cs) = c :: splitCapitals cs ∨
      splitCapitals (c :: cs) = c :: '_' :: splitCapitals cs := by
  cases cs with
  | nil => exact .inl rfl
  | cons d rest =>
    rw [splitCapitals]
    split
    · exact .inr rfl
    · exact .inl rfl

/-- No underscore is put behind an underscore. -/
theorem splitCapitals_underscore (cs : List Char) :
    splitCapitals ('_' :: cs) = '_' :: splitCapitals cs := by
  cases cs <;> rfl

theorem squeezeUnderscores_cons (h : c ≠ '_') (cs : List Char) :
    squeezeUnderscores (c :: cs) = c :: squeezeUnderscores cs := by
  rw [squeezeUnderscores]
  rintro rest rfl
  exact absurd rfl h

/-- An underscore in front of another character stays. -/
theorem squeezeUnderscores_underscore (h : c ≠ '_') (cs : List Char) :
    squeezeUnderscores ('_' :: c :: cs) = '_' :: squeezeUnderscores (c :: cs) := by
  rw [squeezeUnderscores]
  rintro rest - hrest
  exact absurd (List.cons.inj hrest).1 h

namespace HasShape

variable {start more start' more' : Char → Bool}

/-- What holds of every kind of character in a shape holds of its characters. -/
theorem forall_mem (h : HasShape start more cs) {p : Char → Prop}
    (hstart : ∀ c, start c = true → p c) (hmore : ∀ c, more c = true → p c)
    (hunderscore : p '_') (hdigit : ∀ c, c.isDigit = true → p c) : ∀ c ∈ cs, p c := by
  obtain ⟨c, rest, ⟨rfl, hc⟩ | ⟨rfl, hc⟩, hrest⟩ := h
  · exact List.forall_mem_cons.2 ⟨hstart c hc, fun d hd => hmore d (hrest d hd)⟩
  · exact List.forall_mem_cons.2 ⟨hunderscore, List.forall_mem_cons.2
      ⟨hdigit c hc, fun d hd => hmore d (hrest d hd)⟩⟩

/-- A shape that allows underscores in front of digits only does not end with one. -/
theorem ends (h : HasShape start more cs) (hstart : start '_' = false) (hmore : more '_' = false)
    (front : List Char) : (front ++ cs).getLast? ≠ some '_' := by
  obtain ⟨c, rest, hcs, hrest⟩ := h
  have hends : ∀ front : List Char, c ≠ '_' → (front ++ c :: rest).getLast? ≠ some '_' := by
    intro front hc hlast
    rw [List.getLast?_append_of_ne_nil _ (List.cons_ne_nil _ _)] at hlast
    rcases List.mem_cons.1 (List.mem_of_getLast? hlast) with heq | hmem
    · exact hc heq.symm
    · cases hmore.symm.trans (hrest '_' hmem)
  rcases hcs with ⟨rfl, hc⟩ | ⟨rfl, hc⟩
  · refine hends front ?_
    rintro rfl
    cases hstart.symm.trans hc
  · rw [List.append_cons]
    exact hends _ (ne_underscore_of_isDigit hc)

/-- Characters that stay digits or underscores, and change their kinds, change the kinds of the
shape. -/
theorem map (h : HasShape start more cs) {f : Char → Char}
    (hstart : ∀ c, start c = true → start' (f c) = true)
    (hmore : ∀ c, more c = true → more' (f c) = true) (hunderscore : f '_' = '_')
    (hdigit : ∀ c, c.isDigit = true → (f c).isDigit = true) :
    HasShape start' more' (cs.map f) := by
  obtain ⟨c, rest, hcs, hrest⟩ := h
  refine ⟨f c, rest.map f, ?_, List.forall_mem_map.2 fun d hd => hmore d (hrest d hd)⟩
  rcases hcs with ⟨rfl, hc⟩ | ⟨rfl, hc⟩
  · exact .inl ⟨rfl, hstart c hc⟩
  · exact .inr ⟨by rw [List.map_cons, List.map_cons, hunderscore], hdigit c hc⟩

/-- Underscores behind the first characters belong to a shape that allows them. -/
theorem splitCapitals (h : HasShape start more cs) (hunderscore : more '_' = true) :
    HasShape start more (splitCapitals cs) := by
  have hmore : ∀ {rest : List Char}, (∀ d ∈ rest, more d = true) →
      ∀ d ∈ Naming.splitCapitals rest, more d = true := fun hrest d hd => by
    by_cases hne : d = '_'
    · rw [hne, hunderscore]
    · exact hrest d ((mem_splitCapitals hne).1 hd)
  have htail : ∀ (c : Char) {rest : List Char}, (∀ d ∈ rest, more d = true) →
      ∃ later, Naming.splitCapitals (c :: rest) = c :: later ∧ ∀ d ∈ later, more d = true :=
    fun c rest hrest => by
      rcases splitCapitals_cons c rest with hsplit | hsplit
      · exact ⟨_, hsplit, hmore hrest⟩
      · exact ⟨_, hsplit, List.forall_mem_cons.2 ⟨hunderscore, hmore hrest⟩⟩
  obtain ⟨c, rest, hcs, hrest⟩ := h
  obtain ⟨later, hlater, hall⟩ := htail c hrest
  refine ⟨c, later, hcs.imp ?_ ?_, hall⟩
  · rintro ⟨rfl, hc⟩
    exact ⟨hlater, hc⟩
  · rintro ⟨rfl, hc⟩
    exact ⟨by rw [splitCapitals_underscore, hlater], hc⟩

/-- No underscore of the start is squeezed. -/
theorem squeezeUnderscores (h : HasShape start more cs) (hstart : start '_' = false) :
    HasShape start more (squeezeUnderscores cs) := by
  obtain ⟨c, rest, hcs, hrest⟩ := h
  refine ⟨c, Naming.squeezeUnderscores rest, hcs.imp ?_ ?_, fun d hd =>
    hrest d (mem_squeezeUnderscores.1 hd)⟩
  · rintro ⟨rfl, hc⟩
    have hne : c ≠ '_' := by
      rintro rfl
      rw [hstart] at hc
      cases hc
    exact ⟨squeezeUnderscores_cons hne rest, hc⟩
  · rintro ⟨rfl, hc⟩
    have hne := ne_underscore_of_isDigit hc
    exact ⟨by rw [squeezeUnderscores_underscore hne, squeezeUnderscores_cons hne], hc⟩

end HasShape

/-! ## Ends -/

theorem getLast?_splitCapitals (cs : List Char) :
    (splitCapitals cs).getLast? = cs.getLast? := by
  fun_induction splitCapitals cs with
  | case1 a b rest hsplit ih =>
    rw [List.getLast?_cons_cons, List.getLast?_cons, ih, List.getLast?_cons_cons,
      List.getLast?_cons, Option.getD_some]
  | case2 a b rest hsplit ih => rw [List.getLast?_cons, ih, ← List.getLast?_cons]
  | case3 cs => rfl

theorem getLast?_squeezeUnderscores (cs : List Char) :
    (squeezeUnderscores cs).getLast? = cs.getLast? := by
  fun_induction squeezeUnderscores cs with
  | case1 rest ih => rw [ih, List.getLast?_cons_cons]
  | case2 c rest hnext ih => rw [List.getLast?_cons, ih, List.getLast?_cons]
  | case3 => rfl

/-- Behind a dropped end stands a character that is not dropped. -/
theorem getLast?_dropEndWhile {p : Char → Bool} (h : (dropEndWhile p cs).getLast? = some c) :
    p c = false := by
  rw [dropEndWhile, List.getLast?_reverse] at h
  have hhead := List.head?_dropWhile_not p cs.reverse
  rw [h] at hhead
  simpa using hhead

/-- A name whose first and last characters are not dropped has nothing to drop at its ends. -/
theorem dropEnds_eq {p : Char → Bool} (hstart : ∀ c, cs.head? = some c → p c = false)
    (hend : ∀ c, cs.getLast? = some c → p c = false) : dropEndWhile p (cs.dropWhile p) = cs := by
  have hdrop : cs.dropWhile p = cs := by
    cases cs with
    | nil => rfl
    | cons c rest => exact List.dropWhile_cons_of_neg (by simp [hstart c rfl])
  rw [hdrop]
  cases hlast : cs.getLast? with
  | none =>
    rw [List.getLast?_eq_none_iff.1 hlast]
    rfl
  | some c =>
    obtain ⟨front, rfl⟩ := List.getLast?_eq_some_iff.1 hlast
    exact dropEndWhile_concat (hend c hlast) front

/-! ## Clean names -/

/-- A name of kept characters with a proper start that does not end with a separator. -/
structure IsClean (cs : List Char) : Prop where
  shape : HasShape Char.isAlpha isKept cs
  ends : ∀ c, cs.getLast? = some c → isSeparator c = false

/-- Cleaning gives a clean name. -/
theorem isClean_clean (cs : List Char) : IsClean (clean cs) := by
  have hkept : ∀ c ∈ clean cs, isKept c = true := fun c => isKept_of_mem_clean
  unfold clean at hkept ⊢
  split
  · have hrest : ['i', 'e', 'l', 'd'].all isKept = true := by decide
    refine ⟨⟨'f', _, .inl ⟨rfl, rfl⟩, List.all_eq_true.1 hrest⟩, fun c hc => ?_⟩
    rw [← Option.some.inj hc]
    rfl
  · rename_i c rest hstripped
    rw [hstripped] at hkept
    have hends : ∀ d, (c :: rest).getLast? = some d → isSeparator d = false := fun d hd =>
      getLast?_dropEndWhile (hstripped ▸ hd)
    dsimp only at hkept
    split at hkept
    · rename_i hdigit
      rw [if_pos hdigit]
      exact ⟨⟨c, rest, .inr ⟨rfl, hdigit⟩, fun d hd => hkept d (by simp [hd])⟩, fun d hd =>
        hends d (by rwa [List.getLast?_cons_cons] at hd)⟩
    · rename_i hdigit
      have halpha : c.isAlpha = true := by
        have halphanum := isAlphanum_of_isKept (hkept c List.mem_cons_self)
          (stripSeparators_cons hstripped)
        simpa [Char.isAlphanum, hdigit] using halphanum
      rw [if_neg hdigit]
      exact ⟨⟨c, rest, .inl ⟨rfl, halpha⟩, fun d hd => hkept d (List.mem_cons_of_mem _ hd)⟩, hends⟩

/-! ## Snake case -/

/-- A name in snake case: small letters and digits in parts between single underscores. -/
structure SnakeForm (cs : List Char) : Prop where
  shape : HasShape Char.isLower isSegmentChar cs
  ends : cs.getLast? ≠ some '_'
  single : cs.IsChain fun a b => ¬(a = '_' ∧ b = '_')

theorem head?_squeezeUnderscores (cs : List Char) :
    (squeezeUnderscores cs).head? = cs.head? := by
  fun_induction squeezeUnderscores cs with
  | case1 rest ih => exact ih
  | case2 c rest hnext ih => rfl
  | case3 => rfl

/-- No two underscores are left next to each other. -/
theorem squeezeUnderscores_single (cs : List Char) :
    (squeezeUnderscores cs).IsChain fun a b => ¬(a = '_' ∧ b = '_') := by
  fun_induction squeezeUnderscores cs with
  | case1 rest ih => exact ih
  | case2 c rest hnext ih =>
    refine List.isChain_cons.2 ⟨fun d hd => ?_, ih⟩
    rw [head?_squeezeUnderscores] at hd
    rintro ⟨rfl, rfl⟩
    obtain ⟨later, rfl⟩ := List.head?_eq_some_iff.1 hd
    exact hnext later rfl rfl
  | case3 => exact .nil

/-- Single underscores stay. -/
theorem squeezeUnderscores_eq (h : cs.IsChain fun a b => ¬(a = '_' ∧ b = '_')) :
    squeezeUnderscores cs = cs := by
  fun_induction squeezeUnderscores cs with
  | case1 rest ih => exact absurd ⟨rfl, rfl⟩ (List.isChain_cons_cons.1 h).1
  | case2 c rest hnext ih => rw [ih h.tail]
  | case3 => rfl

/-- A name without capitals has nothing to split. -/
theorem splitCapitals_eq (h : ∀ c ∈ cs, ¬ c.isUpper = true) : splitCapitals cs = cs := by
  fun_induction splitCapitals cs with
  | case1 a b rest hsplit ih =>
    rw [Bool.and_eq_true] at hsplit
    exact absurd hsplit.2 (h b (by simp))
  | case2 a b rest hsplit ih => rw [ih fun c hc => h c (List.mem_cons_of_mem a hc)]
  | case3 cs => rfl

/-- In a name with both ends of the snake case there are no underscores to strip. -/
theorem snakeCase_of_squeezed {squeezed : List Char}
    (h : squeezeUnderscores ((splitCapitals (cs.map fun c => if c == '-' then '_' else c)).map
      Char.toLower) = squeezed)
    (hshape : HasShape Char.isLower isSegmentChar squeezed) (hends : squeezed.getLast? ≠ some '_') :
    snakeCase cs = squeezed := by
  obtain ⟨c, rest, hc, -⟩ := hshape
  have hne : c ≠ '_' := hc.elim (fun ⟨_, hlower⟩ => by rintro rfl; cases hlower)
    fun ⟨_, hdigit⟩ => ne_underscore_of_isDigit hdigit
  have hstrip : (c :: rest).getLast? ≠ some '_' → stripUnderscores (c :: rest) = c :: rest :=
    fun hlast => dropEnds_eq (fun d hd => beq_false_of_ne (Option.some.inj hd ▸ hne))
      fun d hd => beq_false_of_ne fun he => hlast (he ▸ hd)
  unfold snakeCase
  dsimp only
  rw [h]
  rcases hc with ⟨rfl, -⟩ | ⟨rfl, hdigit⟩
  · split
    · rename_i heq
      exact absurd (List.cons.inj heq).1 hne
    · exact hstrip hends
  · rw [List.getLast?_cons_cons] at hends
    have hstripped : stripUnderscores ('_' :: c :: rest) = c :: rest := hstrip hends
    simp only [hdigit, if_true, hstripped]

/-- **The snake case of a clean name.** -/
theorem snakeForm_snakeCase (h : IsClean cs) : SnakeForm (snakeCase cs) := by
  -- letters and digits are no hyphens
  have hstays : ∀ {p : Char → Bool}, p '-' = false → ∀ c, p c = true →
      p (if c == '-' then '_' else c) = true := fun hp c hc => by
    rwa [if_neg fun heq => by rw [eq_of_beq heq, hp] at hc; cases hc]
  have hmapped : HasShape Char.isAlpha (fun c => c.isAlphanum || c == '_')
      (cs.map fun c => if c == '-' then '_' else c) := by
    refine h.shape.map (hstays rfl) (fun c hc => ?_) rfl (hstays rfl)
    split
    · rfl
    · rename_i hhyphen
      simpa [isKept, hhyphen] using hc
  have hshape : HasShape Char.isLower isSegmentChar (squeezeUnderscores ((splitCapitals
      (cs.map fun c => if c == '-' then '_' else c)).map Char.toLower)) := by
    refine ((hmapped.splitCapitals rfl).map (fun c hc => ?_) (fun c hc => isSegmentChar_toLower hc)
      rfl fun c hc => ?_).squeezeUnderscores rfl
    · rwa [Char.isLower_toLower_eq_isAlpha]
    · rwa [Char.toLower_eq_of_not_isUpper (not_isUpper_of_isDigit hc)]
  have hends : (squeezeUnderscores ((splitCapitals
      (cs.map fun c => if c == '-' then '_' else c)).map Char.toLower)).getLast? ≠ some '_' := by
    rw [getLast?_squeezeUnderscores, List.getLast?_map, getLast?_splitCapitals, List.getLast?_map]
    intro hlast
    obtain ⟨d, hd, hlower⟩ := Option.map_eq_some_iff.1 hlast
    obtain ⟨c, hc, rfl⟩ := Option.map_eq_some_iff.1 hd
    have hseparator := h.ends c hc
    have hunderscore := eq_underscore_of_toLower hlower
    split at hunderscore
    · rename_i hhyphen
      rw [eq_of_beq hhyphen] at hseparator
      cases hseparator
    · rw [hunderscore] at hseparator
      cases hseparator
  rw [snakeCase_of_squeezed rfl hshape hends]
  exact ⟨hshape, hends, squeezeUnderscores_single _⟩

namespace SnakeForm

/-- A name in snake case has characters of package segments only. -/
theorem chars (h : SnakeForm cs) : ∀ c ∈ cs, isSegmentChar c = true :=
  h.shape.forall_mem (fun c hc => by simp [isSegmentChar, hc]) (fun _ hc => hc) rfl
    fun c hc => by simp [isSegmentChar, hc]

/-- A name in snake case does not end with a separator. -/
theorem ends_unseparated (h : SnakeForm cs) (hc : cs.getLast? = some c) :
    isSeparator c = false := by
  have hhyphen := (isKept_of_isSegmentChar (h.chars c (List.mem_of_getLast? hc))).2
  have hunderscore : c ≠ '_' := fun he => h.ends (he ▸ hc)
  simp [isSeparator, hhyphen, hunderscore]

/-- **Cleaning leaves a name in snake case as it is.** -/
theorem clean_eq (h : SnakeForm cs) : clean cs = cs := by
  have hkept : (cs.map fun c => if isKept c then c else '_') = cs :=
    (List.map_congr_left fun c hc => if_pos (isKept_of_isSegmentChar (h.chars c hc)).1).trans
      (List.map_id' cs)
  have hstrip : ∀ {c : Char} {rest : List Char}, isSeparator c = false →
      (∀ d, (c :: rest).getLast? = some d → isSeparator d = false) →
      stripSeparators (c :: rest) = c :: rest := fun hc hends =>
    dropEnds_eq (fun d hd => Option.some.inj hd ▸ hc) hends
  unfold clean
  rw [hkept]
  obtain ⟨c, rest, ⟨rfl, hc⟩ | ⟨rfl, hc⟩, -⟩ := h.shape
  · have hletter : c.isAlpha = true := by simp [Char.isAlpha, hc]
    have hdigit : ¬ c.isDigit = true := fun hdigit => not_isLower_of_isDigit hdigit hc
    rw [hstrip (isSeparator_of_isAlphanum (by simp [Char.isAlphanum, hletter]))
      fun d => h.ends_unseparated]
    simp only [hdigit, if_false, Bool.false_eq_true]
  · have hstripped : stripSeparators ('_' :: c :: rest) = c :: rest :=
      hstrip (isSeparator_of_isAlphanum (c := c) (by simp [Char.isAlphanum, hc]))
        fun d hd => h.ends_unseparated (by rwa [List.getLast?_cons_cons])
    rw [hstripped]
    simp only [hc, if_true]

/-- **A name in snake case is the snake case of itself.** -/
theorem snakeCase_eq (h : SnakeForm cs) : snakeCase cs = cs := by
  have hhyphens : (cs.map fun c => if c == '-' then '_' else c) = cs :=
    List.map_congr_left (fun c hc => if_neg fun heq =>
      (isKept_of_isSegmentChar (h.chars c hc)).2 (eq_of_beq heq)) |>.trans (List.map_id' cs)
  have hlower : cs.map Char.toLower = cs :=
    List.map_congr_left (fun c hc => Char.toLower_eq_of_not_isUpper
      (not_isUpper_of_isSegmentChar (h.chars c hc))) |>.trans (List.map_id' cs)
  have hsplit := splitCapitals_eq fun c hc => not_isUpper_of_isSegmentChar (h.chars c hc)
  refine snakeCase_of_squeezed ?_ h.shape h.ends
  rw [hhyphens, hsplit, hlower, squeezeUnderscores_eq h.single]

end SnakeForm

/-- A separator behind a name is cleaned away. -/
theorem clean_concat (hc : isSeparator c = true) (hkept : isKept c = true) (cs : List Char) :
    clean (cs ++ [c]) = clean cs := by
  have hstrip : ∀ cs, stripSeparators (cs ++ [c]) = stripSeparators cs := fun cs => by
    rw [stripSeparators, stripSeparators, List.dropWhile_append]
    split
    · rename_i hempty
      rw [List.isEmpty_iff.1 hempty, List.dropWhile_cons_of_pos hc]
      rfl
    · simp [dropEndWhile, hc]
  unfold clean
  rw [List.map_append, List.map_singleton, if_pos hkept, hstrip]

/-! ## Pascal case -/

/-- The parts of a name in snake case have letters and digits only. -/
theorem isAlphanum_of_mem_part (h : ∀ c ∈ cs, isSegmentChar c = true) {part : List Char}
    (hpart : part ∈ splitOn ['_'] cs) : ∀ c ∈ part, c.isAlphanum = true := by
  intro c hc
  have hsegment := h c (mem_of_mem_splitOn hpart hc)
  have hne : c ≠ '_' := by
    rintro rfl
    obtain ⟨u, v, rfl⟩ := List.append_of_mem hc
    exact absent_of_mem_splitOn (List.cons_ne_nil _ _) hpart ⟨u, v, by simp⟩
  simp only [isSegmentChar, Bool.or_eq_true, beq_iff_eq, hne, or_false] at hsegment
  rcases hsegment with hlower | hdigit
  · simp [Char.isAlphanum, Char.isAlpha, hlower]
  · simp [Char.isAlphanum, hdigit]

theorem isAlphanum_of_mem_capitalize (h : ∀ c ∈ cs, c.isAlphanum = true) :
    ∀ c ∈ capitalize cs, c.isAlphanum = true := by
  cases cs with
  | nil => exact h
  | cons d rest =>
    obtain ⟨hd, hrest⟩ := List.forall_mem_cons.1 h
    refine List.forall_mem_cons.2 ⟨(isAlphanum_toUpper d).trans hd, List.forall_mem_map.2 ?_⟩
    exact fun c hc => (isAlphanum_toLower c).trans (hrest c hc)

/-- The parts of a name in snake case are joined to its first character as a capital, and letters
and digits. -/
theorem joined_parts (hc : c ≠ '_') (h : ∀ d ∈ c :: cs, isSegmentChar d = true) :
    ∃ rest, (splitOn ['_'] (c :: cs)).flatMap capitalize = c.toUpper :: rest ∧
      ∀ d ∈ rest, d.isAlphanum = true := by
  have hjoined : ∀ d ∈ (splitOn ['_'] (c :: cs)).flatMap capitalize, d.isAlphanum = true :=
    fun d hd => by
      obtain ⟨part, hpart, hd⟩ := List.mem_flatMap.1 hd
      exact isAlphanum_of_mem_capitalize (isAlphanum_of_mem_part h hpart) d hd
  obtain ⟨tail, later, hsplit⟩ := splitOn_cons (List.cons_ne_nil '_' []) (by simpa using hc) cs
  rw [hsplit] at hjoined ⊢
  exact ⟨tail.map Char.toLower ++ later.flatMap capitalize, rfl, (List.forall_mem_cons.1 hjoined).2⟩

/-- **The Pascal case of a clean name.** -/
theorem hasShape_pascalCase (h : IsClean cs) :
    HasShape Char.isUpper Char.isAlphanum (pascalCase cs) := by
  have hsnake := snakeForm_snakeCase h
  have hchars := hsnake.chars
  obtain ⟨c, tail, ⟨heq, hc⟩ | ⟨heq, hc⟩, -⟩ := hsnake.shape
  · have hne : c ≠ '_' := by
      rintro rfl
      cases hc
    rw [heq] at hchars
    obtain ⟨rest, hjoined, hrest⟩ := joined_parts hne hchars
    refine ⟨c.toUpper, rest, .inl ⟨?_, ?_⟩, hrest⟩
    · unfold pascalCase
      simp only [heq, hjoined, List.head?_cons, Option.some_beq_some, beq_false_of_ne hne,
        Bool.false_eq_true, if_false]
    · rw [Char.isUpper_toUpper_eq_isAlpha, Char.isAlpha, hc, Bool.or_true]
  · rw [heq] at hchars
    obtain ⟨rest, hjoined, hrest⟩ := joined_parts (ne_underscore_of_isDigit hc)
      (List.forall_mem_cons.1 hchars).2
    have hsplit : splitOn ['_'] ('_' :: c :: tail) = [] :: splitOn ['_'] (c :: tail) :=
      splitOnFrom_separator (List.cons_ne_nil '_' []) [] (c :: tail)
    refine ⟨c, rest, .inr ⟨?_, hc⟩, hrest⟩
    unfold pascalCase
    rw [Char.toUpper_eq_of_not_isLower (not_isLower_of_isDigit hc)] at hjoined
    simp only [heq, hsplit, List.flatMap_cons, capitalize, List.nil_append, hjoined,
      List.head?_cons, beq_self_eq_true, if_true]

/-! ## Reserved words -/

/-- The verbs of accessors. -/
def accessorVerbs : List String := ["set", "get"]

/-- What is to be known of reserved words: they start with a small letter and end with no
underscore, and only one of them starts with the verb of an accessor. -/
structure IsReservedForm (word : String) : Prop where
  starts : ∃ c ∈ word.toList.head?, c.isLower = true
  ends : word.toList.getLast? ≠ some '_'
  verb : ∀ verb ∈ accessorVerbs, verb.toList <+: word.toList → word = "getClass"

theorem isReservedForm {word : String} (h : jvmWords.contains word = true) :
    IsReservedForm word := by
  have hall : (jvmKeywords ++ objectMethods).all (fun w =>
      w.toList.head?.any Char.isLower && w.toList.getLast? != some '_' &&
        accessorVerbs.all fun verb => !verb.toList.isPrefixOf w.toList || w == "getClass") =
      true := by
    decide +kernel
  have hmem : word ∈ jvmKeywords ++ objectMethods := by
    simpa [ReservedWords.contains, jvmWords] using h
  have hword := List.all_eq_true.1 hall word hmem
  rw [Bool.and_eq_true, Bool.and_eq_true, Option.any_eq_true, List.all_eq_true] at hword
  obtain ⟨⟨⟨c, hc, hlower⟩, hends⟩, hverbs⟩ := hword
  refine ⟨⟨c, hc, hlower⟩, bne_iff_ne.1 hends, fun verb hverb hstart => ?_⟩
  have hword := hverbs verb hverb
  rw [List.isPrefixOf_iff_prefix.2 hstart] at hword
  exact eq_of_beq hword

/-! ## Sanitized names -/

/-- The Pascal case of a name is not reserved, so it is the sanitized name. -/
theorem sanitize_eq (name : String) :
    jvmWords.sanitize name "_" = String.ofList (pascalCase (clean name.toList)) := by
  rw [ReservedWords.sanitize, ReservedWords.resolve, if_neg]
  intro hreserved
  obtain ⟨c, hc, hlower⟩ := (isReservedForm hreserved).starts
  obtain ⟨d, rest, hshape, -⟩ := hasShape_pascalCase (isClean_clean name.toList)
  rw [String.toList_ofList] at hc
  rcases hshape with ⟨heq, hd⟩ | ⟨heq, hd⟩
  · rw [heq] at hc
    rw [← Option.some.inj hc] at hlower
    exact Char.not_isUpper_of_isLower hlower hd
  · rw [heq] at hc
    rw [← Option.some.inj hc] at hlower
    cases hlower

/-- A sanitized name has a capital at its start, or an underscore and a digit, and behind it letters
and digits. -/
theorem hasShape_sanitize (name : String) :
    HasShape Char.isUpper Char.isAlphanum (jvmWords.sanitize name "_").toList := by
  rw [sanitize_eq, String.toList_ofList]
  exact hasShape_pascalCase (isClean_clean name.toList)

/-- A package segment is in snake case, with an underscore behind it if it is reserved else. -/
theorem segment_cases (name : String) : ∃ word : String, SnakeForm word.toList ∧
    jvmWords.segment name = jvmWords.resolve word "_" :=
  ⟨String.ofList (snakeCase (clean name.toList)), by
    rw [String.toList_ofList]
    exact snakeForm_snakeCase (isClean_clean name.toList), rfl⟩

/-- **A package segment is the segment of itself.** -/
theorem segment_resolve {word : String} (h : SnakeForm word.toList) :
    jvmWords.segment (jvmWords.resolve word "_") = jvmWords.resolve word "_" := by
  have hclean : clean (jvmWords.resolve word "_").toList = word.toList := by
    unfold ReservedWords.resolve
    split
    · rw [String.toList_append]
      exact (clean_concat rfl rfl word.toList).trans h.clean_eq
    · exact h.clean_eq
  rw [ReservedWords.segment, hclean, h.snakeCase_eq, String.ofList_toList]

/-- A word with an underscore where it is reserved is not reserved. -/
theorem not_contains_resolve (word : String) :
    jvmWords.contains (jvmWords.resolve word "_") = false := by
  unfold ReservedWords.resolve
  split
  · refine Bool.eq_false_iff.2 fun hreserved => (isReservedForm hreserved).ends ?_
    rw [String.toList_append]
    exact List.getLast?_concat
  · rename_i hfree
    exact eq_false_of_ne_true hfree

theorem notMem_jvmKeywords {name : String} (h : jvmWords.contains name = false) :
    name ∉ jvmKeywords := by
  intro hmem
  simp [ReservedWords.contains, jvmWords, hmem] at h

/-- A package segment has the shape of one. -/
theorem hasShape_segment (name : String) :
    HasShape Char.isLower isSegmentChar (jvmWords.segment name).toList := by
  obtain ⟨word, hword, heq⟩ := segment_cases name
  rw [heq]
  unfold ReservedWords.resolve
  split
  · obtain ⟨c, rest, hstart, hrest⟩ := hword.shape
    rw [String.toList_append]
    refine ⟨c, rest ++ ['_'], hstart.imp ?_ ?_, ?_⟩
    · rintro ⟨hcs, hc⟩
      exact ⟨by rw [hcs]; rfl, hc⟩
    · rintro ⟨hcs, hc⟩
      exact ⟨by rw [hcs]; rfl, hc⟩
    · exact List.forall_mem_append.2 ⟨hrest, List.forall_mem_singleton.2 rfl⟩
  · exact hword.shape

end TableInterfaces.Naming
