import Mathlib
import TableInterfaces.Naming.Sanitizer
import TableInterfaces.Proofs.Text.Pieces
import TableInterfaces.Text.Identifier

/-!
# The characters of sanitized names

Cleaning, snake case and Pascal case change a name character by character but for the underscores.
So a sanitized name is made of ASCII letters, digits and underscores, and a package segment is not
empty. Main statements:

* `mem_snakeCase`: the characters of a name in snake case, leaving aside underscores.
* `ReservedWords.sanitize_chars` and `ReservedWords.segment_chars`: sanitized names and package
  segments are made of identifier characters.
* `ReservedWords.segment_ne_empty`: no package segment is empty.
-/

namespace TableInterfaces

namespace Text

variable {c : Char}

/-- Letters, digits and underscores may stand in an identifier. -/
theorem isIdentifierChar_of_alphanum (h : c.isAlphanum = true ∨ c = '_') :
    isIdentifierChar c = true := by
  rcases h with h | rfl
  · rw [Char.isAlphanum, Bool.or_eq_true] at h
    rcases h with h | h
    · simp [isIdentifierChar, isIdentifierStart, h]
    · simp [isIdentifierChar, h]
  · rfl

end Text

namespace Naming

open TableInterfaces.Text

variable {c : Char} {cs : List Char}

/-! ## Letters and digits -/

/-- A small letter in place of a letter. -/
theorem isAlphanum_toLower (c : Char) : c.toLower.isAlphanum = c.isAlphanum := by
  by_cases h : c.isUpper = true
  · have halpha : c.isAlpha = true := by simp [Char.isAlpha, h]
    simp [Char.isAlphanum, halpha]
  · rw [Char.toLower_eq_of_not_isUpper h]

/-- A capital in place of a letter. -/
theorem isAlphanum_toUpper (c : Char) : c.toUpper.isAlphanum = c.isAlphanum := by
  by_cases h : c.isLower = true
  · have halpha : c.isAlpha = true := by simp [Char.isAlpha, h]
    simp [Char.isAlphanum, halpha]
  · rw [Char.toUpper_eq_of_not_isLower h]

/-! ## Cleaning -/

/-- A character that is kept and does not separate parts is a letter or digit. -/
theorem isAlphanum_of_isKept (h : isKept c = true) (hs : isSeparator c = false) :
    c.isAlphanum = true := by
  simp only [isKept, isSeparator, Bool.or_eq_true, Bool.or_eq_false_iff] at h hs
  simpa [hs.1, hs.2] using h

/-- A name without separators at both ends begins with another character, if any. -/
theorem stripSeparators_cons {c : Char} {rest : List Char}
    (h : stripSeparators cs = c :: rest) : isSeparator c = false := by
  have hprefix : c :: rest <+: cs.dropWhile isSeparator := by
    rw [← h, stripSeparators, dropEndWhile, ← List.reverse_suffix, List.reverse_reverse]
    exact List.dropWhile_suffix isSeparator
  obtain ⟨later, hlater⟩ := hprefix
  have hhead := List.head?_dropWhile_not isSeparator cs
  rw [← hlater] at hhead
  simpa using hhead

/-- The characters of a clean name. -/
theorem isKept_of_mem_clean (h : c ∈ clean cs) : isKept c = true := by
  have hmapped : ∀ d ∈ stripSeparators (cs.map fun c => if isKept c then c else '_'),
      isKept d = true := by
    intro d hd
    have hd := (List.dropWhile_sublist _).mem (mem_of_mem_dropEndWhile hd)
    obtain ⟨a, -, rfl⟩ := List.mem_map.1 hd
    split
    · assumption
    · rfl
  unfold clean at h
  split at h
  · exact List.all_eq_true.1 (show emptyName.all isKept = true by decide) c h
  · rename_i d rest heq
    rw [heq] at hmapped
    split at h
    · rcases List.mem_cons.1 h with rfl | h
      · rfl
      · exact hmapped _ h
    · exact hmapped _ h

/-- A clean name has a letter or digit. -/
theorem exists_alphanum_mem_clean (cs : List Char) : ∃ c ∈ clean cs, c.isAlphanum = true := by
  have hkept : ∀ c ∈ clean cs, isKept c = true := fun c => isKept_of_mem_clean
  unfold clean at hkept ⊢
  split
  · exact ⟨'f', List.mem_cons_self, rfl⟩
  · rename_i c rest heq
    rw [heq] at hkept
    dsimp only at hkept
    split
    · rename_i hdigit
      exact ⟨c, by simp, by simp [Char.isAlphanum, hdigit]⟩
    · rename_i hdigit
      rw [if_neg hdigit] at hkept
      exact ⟨c, List.mem_cons_self,
        isAlphanum_of_isKept (hkept c List.mem_cons_self) (stripSeparators_cons heq)⟩

/-! ## Snake case -/

theorem mem_splitCapitals (h : c ≠ '_') : c ∈ splitCapitals cs ↔ c ∈ cs := by
  fun_induction splitCapitals cs with
  | case1 a b rest hsplit ih => simp [ih, h]
  | case2 a b rest hsplit ih => simp [ih]
  | case3 cs => rfl

theorem mem_squeezeUnderscores : c ∈ squeezeUnderscores cs ↔ c ∈ cs := by
  fun_induction squeezeUnderscores cs with
  | case1 rest ih => simp [ih]
  | case2 d rest _ ih => simp [ih]
  | case3 => rfl

theorem mem_stripUnderscores (h : c ≠ '_') : c ∈ stripUnderscores cs ↔ c ∈ cs := by
  have hc : (c == '_') = false := beq_false_of_ne h
  rw [stripUnderscores, mem_dropEndWhile (p := (· == '_')) hc, mem_dropWhile (p := (· == '_')) hc]

/-- The characters of a name in snake case: small letters for those of the name, but for hyphens. -/
theorem mem_snakeCase (h : c ≠ '_') :
    c ∈ snakeCase cs ↔ ∃ d ∈ cs, d ≠ '-' ∧ d.toLower = c := by
  have hsqueezed : c ∈ squeezeUnderscores ((splitCapitals
      (cs.map fun c => if c == '-' then '_' else c)).map Char.toLower) ↔
        ∃ d ∈ cs, d ≠ '-' ∧ d.toLower = c := by
    rw [mem_squeezeUnderscores, List.mem_map]
    constructor
    · rintro ⟨d, hd, rfl⟩
      have hne : d ≠ '_' := fun hd => h (by rw [hd]; rfl)
      obtain ⟨a, ha, rfl⟩ := List.mem_map.1 ((mem_splitCapitals hne).1 hd)
      split at hne
      · exact absurd rfl hne
      · rename_i hhyphen
        exact ⟨a, ha, fun he => hhyphen (by rw [he]; rfl), by rw [if_neg hhyphen]⟩
    · rintro ⟨d, hd, hhyphen, rfl⟩
      have hne : d ≠ '_' := fun hd => h (by rw [hd]; rfl)
      refine ⟨d, (mem_splitCapitals hne).2 (List.mem_map.2 ⟨d, hd, ?_⟩), rfl⟩
      rw [if_neg fun he => hhyphen (eq_of_beq he)]
  rw [← hsqueezed]
  unfold snakeCase
  dsimp only
  split
  · rename_i d rest heq
    rw [heq]
    split
    · rw [List.mem_cons, mem_stripUnderscores h]
      exact or_iff_right h
    · exact mem_stripUnderscores h
  · exact mem_stripUnderscores h

/-- Snake case of kept characters has letters, digits and underscores. -/
theorem snakeCase_chars (h : ∀ d ∈ cs, isKept d = true) :
    ∀ c ∈ snakeCase cs, c.isAlphanum = true ∨ c = '_' := by
  intro c hc
  by_cases hne : c = '_'
  · exact .inr hne
  · obtain ⟨d, hd, hhyphen, rfl⟩ := (mem_snakeCase hne).1 hc
    have hunderscore : d ≠ '_' := fun hd => hne (by rw [hd]; rfl)
    refine .inl ((isAlphanum_toLower d).trans (isAlphanum_of_isKept (h d hd) ?_))
    simp [isSeparator, hhyphen, hunderscore]

/-! ## Pascal case -/

/-- Pascal case of kept characters has letters, digits and underscores. -/
theorem pascalCase_chars (h : ∀ d ∈ cs, isKept d = true) :
    ∀ c ∈ pascalCase cs, c.isAlphanum = true ∨ c = '_' := by
  have hjoined : ∀ c ∈ (splitOn ['_'] (snakeCase cs)).flatMap capitalize,
      c.isAlphanum = true ∨ c = '_' := by
    intro c hc
    obtain ⟨part, hpart, hc⟩ := List.mem_flatMap.1 hc
    have hchars : ∀ d ∈ part, d.isAlphanum = true ∨ d = '_' := fun d hd =>
      snakeCase_chars h d (mem_of_mem_splitOn hpart hd)
    cases part with
    | nil => cases hc
    | cons d rest =>
      rcases List.mem_cons.1 hc with rfl | hc
      · refine (hchars d List.mem_cons_self).imp (fun hd => (isAlphanum_toUpper d).trans hd) ?_
        rintro rfl
        rfl
      · obtain ⟨a, ha, rfl⟩ := List.mem_map.1 hc
        refine (hchars a (List.mem_cons_of_mem _ ha)).imp
          (fun ha => (isAlphanum_toLower a).trans ha) ?_
        rintro rfl
        rfl
  intro c hc
  unfold pascalCase at hc
  dsimp only at hc
  split at hc
  · exact (List.mem_cons.1 hc).elim .inr (hjoined c)
  · exact hjoined c hc

/-! ## Sanitized names -/

namespace ReservedWords

variable {words : ReservedWords} {name : String}

/-- The characters of a name behind which an underscore stands where it is reserved. -/
theorem resolve_chars {p : Char → Prop} (hname : ∀ c ∈ name.toList, p c) (h : p '_') :
    ∀ c ∈ (words.resolve name "_").toList, p c := by
  unfold resolve
  split
  · intro c hc
    rw [String.toList_append] at hc
    exact (List.mem_append.1 hc).elim (hname c) fun hc => List.mem_singleton.1 hc ▸ h
  · exact hname

/-- A sanitized name is made of identifier characters. -/
theorem sanitize_chars (words : ReservedWords) (name : String) :
    ∀ c ∈ (words.sanitize name "_").toList, isIdentifierChar c = true := by
  refine resolve_chars (fun c hc => ?_) rfl
  rw [String.toList_ofList] at hc
  exact isIdentifierChar_of_alphanum (pascalCase_chars (fun _ => isKept_of_mem_clean) c hc)

/-- A package segment is made of identifier characters. -/
theorem segment_chars (words : ReservedWords) (name : String) :
    ∀ c ∈ (words.segment name).toList, isIdentifierChar c = true := by
  refine resolve_chars (fun c hc => ?_) rfl
  rw [String.toList_ofList] at hc
  exact isIdentifierChar_of_alphanum (snakeCase_chars (fun _ => isKept_of_mem_clean) c hc)

/-- No package segment is empty. -/
theorem segment_ne_empty (words : ReservedWords) (name : String) : words.segment name ≠ "" := by
  obtain ⟨c, hc, halphanum⟩ := exists_alphanum_mem_clean name.toList
  have hmem : c.toLower ∈ (String.ofList (snakeCase (clean name.toList))).toList := by
    have hlower : c.toLower.isAlphanum = true := (isAlphanum_toLower c).trans halphanum
    have hunderscore : c.toLower ≠ '_' := fun he => by rw [he] at hlower; cases hlower
    have hhyphen : c ≠ '-' := fun he => by rw [he] at halphanum; cases halphanum
    rw [String.toList_ofList, mem_snakeCase hunderscore]
    exact ⟨c, hc, hhyphen, rfl⟩
  have hresolved : c.toLower ∈ (words.segment name).toList := by
    unfold segment resolve
    split
    · rw [String.toList_append]
      exact List.mem_append_left _ hmem
    · exact hmem
  intro he
  rw [he] at hresolved
  cases hresolved

end ReservedWords

end Naming

end TableInterfaces
