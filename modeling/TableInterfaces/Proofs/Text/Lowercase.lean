import TableInterfaces.Proofs.Text.Ascii

/-!
# Lower case of qualified names

The lower case of a character depends on the characters around it only for a capital sigma, which
takes another form at the end of a word. So a schema may read differently alone and in front of a
dot and a name. Main statements:

* `LowersAlone.lower_dot`: of a schema that reads the same in both places, the lower case of a
  qualified name is that of the schema, a dot and a lower case of the name.
* `lowerFrom_eq_iff`: a name reads the same behind any text if its lower case begins with a letter
  of ASCII or an underscore.
-/

namespace TableInterfaces.Text

variable {c d : Char} {cs : List Char} {afterCased : Bool}

/-! ## Single characters -/

/-- The lower case of characters beyond ASCII stays beyond it, but for two letters. -/
theorem lowerShifts_beyond : ∀ s ∈ lowerShifts,
    128 ≤ s.first + s.shift ∨ s.first = 0x212A ∧ s.last = 0x212A ∧ s.shift = -8383 := by
  decide +kernel

/-- A code beyond ASCII is no character of ASCII, but for the null character. -/
theorem toNat_ofNat_of_le {n : Nat} (h : 128 ≤ n) :
    (Char.ofNat n).toNat = 0 ∨ 128 ≤ (Char.ofNat n).toNat := by
  unfold Char.ofNat
  by_cases hvalid : n.isValidChar
  · rw [dif_pos hvalid]
    exact .inr h
  · rw [dif_neg hvalid]
    exact .inl rfl

/-- The lower case of a character holds characters of ASCII in three cases only. -/
theorem of_mem_lowerChar (h : d ∈ lowerChar c) (hd : 0 < d.toNat) (hd' : d.toNat < 128) :
    (c.toNat < 128 ∧ d = c.toLower) ∨ (c.toNat = 0x130 ∧ d = 'i') ∨
      (c.toNat = 0x212A ∧ d = 'k') := by
  unfold lowerChar at h
  split at h
  · rename_i hc
    exact .inl ⟨hc, List.mem_singleton.1 h⟩
  · rename_i hascii
    split at h
    · rename_i hc
      rcases List.mem_cons.1 h with rfl | h
      · exact .inr (.inl ⟨hc, rfl⟩)
      · rw [List.mem_singleton.1 h] at hd'
        exact absurd hd' (by decide)
    · obtain rfl := List.mem_singleton.1 h
      cases himage : lowerShifts.findSome? (·.image? c) with
      | none =>
        rw [himage] at hd'
        exact absurd hd' hascii
      | some image =>
        rw [himage, Option.getD_some] at hd hd'
        rw [Option.getD_some]
        obtain ⟨s, hs, himage⟩ := List.exists_of_findSome?_eq_some himage
        unfold CaseShift.image? at himage
        split at himage
        · rename_i hrange
          cases himage
          rcases lowerShifts_beyond s hs with hbeyond | ⟨hfirst, hlast, hshift⟩
          · rcases toNat_ofNat_of_le (n := (c.toNat + s.shift).toNat) (by omega) with h | h
            · omega
            · omega
          · have hc : c.toNat = 0x212A := by omega
            refine .inr (.inr ⟨hc, ?_⟩)
            rw [hc, hshift]
            decide
        · cases himage

theorem lowerChar_ne_nil (c : Char) : lowerChar c ≠ [] := by
  unfold lowerChar
  split
  · exact List.cons_ne_nil _ _
  · split <;> exact List.cons_ne_nil _ _

/-- No lower case but that of a dot is a dot. -/
theorem mem_lowerChar_dot : '.' ∈ lowerChar c ↔ c = '.' := by
  constructor
  · intro h
    rcases of_mem_lowerChar h (by decide) (by decide) with ⟨hc, h⟩ | ⟨-, h⟩ | ⟨-, h⟩
    · exact forall_ascii (P := fun c => '.' = c.toLower → c = '.') (by decide +kernel) hc h
    · cases h
    · cases h
  · rintro rfl
    decide

/-- Characters that may start a name: letters of ASCII and the underscore. -/
def StartsName (c : Char) : Prop :=
  c.isAlpha = true ∨ c = '_'

instance (c : Char) : Decidable (StartsName c) :=
  inferInstanceAs (Decidable (_ ∨ _))

theorem StartsName.toNat_lt (h : StartsName c) : c.toNat < 128 := by
  rcases h with h | rfl
  · exact toNat_lt_of_isAlpha h
  · decide

/-- What starts a name in lower case is no mark and the like. -/
theorem of_startsName (h : d ∈ lowerChar c) (hd : StartsName d) :
    caseIgnorableCodes.contains c = false := by
  have hascii := hd.toNat_lt
  have hpos : 0 < d.toNat :=
    forall_ascii (P := fun d => StartsName d → 0 < d.toNat) (by decide +kernel) hascii hd
  have hcode : ∀ n, c.toNat = n → c = Char.ofNat n := by
    rintro _ rfl
    exact (Char.ofNat_toNat c).symm
  rcases of_mem_lowerChar h hpos hascii with ⟨hc, rfl⟩ | ⟨hc, -⟩ | ⟨hc, -⟩
  · exact forall_ascii (P := fun c => StartsName c.toLower → caseIgnorableCodes.contains c = false)
      (by decide +kernel) hc hd
  · rw [hcode _ hc]
    decide +kernel
  · rw [hcode _ hc]
    decide +kernel

/-! ## Texts -/

/-- The lower case of a character that `rest` follows. -/
def lowerAt (afterCased : Bool) (c : Char) (rest : List Char) : List Char :=
  if c.toNat = 0x3A3 then [Char.ofNat (if afterCased && endsWord rest then 0x3C2 else 0x3C3)]
  else lowerChar c

theorem lowerFrom_cons (c : Char) (rest : List Char) : lowerFrom afterCased (c :: rest) =
    lowerAt afterCased c rest ++ lowerFrom
      (if caseIgnorableCodes.contains c then afterCased else casedCodes.contains c) rest := rfl

/-- Lower case leaves no dot out and puts none in. -/
theorem mem_lowerFrom_dot : '.' ∈ lowerFrom afterCased cs ↔ '.' ∈ cs := by
  induction cs generalizing afterCased with
  | nil => exact Iff.rfl
  | cons c rest ih =>
    have hhere : '.' ∈ lowerAt afterCased c rest ↔ c = '.' := by
      unfold lowerAt
      split
      · rename_i hc
        constructor
        · split <;> exact fun h => absurd h (by decide)
        · rintro rfl
          exact absurd hc (by decide)
      · exact mem_lowerChar_dot
    rw [lowerFrom_cons, List.mem_append, List.mem_cons, ih, hhere, eq_comm]

/-- Lower case leaves no character out. -/
theorem lowerFrom_eq_nil_iff : lowerFrom afterCased cs = [] ↔ cs = [] := by
  cases cs with
  | nil => exact Iff.rfl
  | cons c rest =>
    have hhere : lowerAt afterCased c rest ≠ [] := by
      unfold lowerAt
      split
      · exact List.cons_ne_nil _ _
      · exact lowerChar_ne_nil c
    simp [lowerFrom_cons, hhere]

/-- A name whose lower case starts like a name of ASCII reads the same behind any text. -/
theorem lowerFrom_eq_iff {name : List Char} (hd : StartsName d) (before after : Bool) :
    lowerFrom before cs = d :: name ↔ lowerFrom after cs = d :: name := by
  have hforward : ∀ before after, lowerFrom before cs = d :: name →
      lowerFrom after cs = d :: name := by
    intro before after h
    cases cs with
    | nil => cases h
    | cons c rest =>
      rw [lowerFrom_cons] at h ⊢
      unfold lowerAt at h ⊢
      split at h
      · obtain ⟨rfl, -⟩ := List.cons.inj h
        split at hd <;> exact absurd hd (by decide)
      · obtain ⟨e, more, hhere⟩ := List.exists_cons_of_ne_nil (lowerChar_ne_nil c)
        have hmem : d ∈ lowerChar c := by
          rw [hhere] at h ⊢
          rw [(List.cons.inj h).1]
          exact List.mem_cons_self
        rw [of_startsName hmem hd] at h ⊢
        rwa [if_neg ‹_›]
  exact ⟨hforward before after, hforward after before⟩

/-! ## Qualified names -/

theorem endsWord_cons (c : Char) (rest : List Char) : endsWord (c :: rest) =
    if caseIgnorableCodes.contains c then endsWord rest else !casedCodes.contains c := by
  unfold endsWord
  rw [List.dropWhile_cons]
  cases caseIgnorableCodes.contains c <;> rfl

/-- What follows the end of a word counts only if nothing but marks and the like stands between. -/
theorem endsWord_append (cs later : List Char) : endsWord (cs ++ later) =
    if cs.all caseIgnorableCodes.contains then endsWord later else endsWord cs := by
  induction cs with
  | nil => rfl
  | cons c rest ih =>
    rw [List.cons_append, endsWord_cons, endsWord_cons, ih, List.all_cons]
    cases caseIgnorableCodes.contains c <;> rfl

/-- A word that ends the same alone and in front of a dot and a letter ends the same in front of a
dot and any text. -/
theorem endsWord_dot {rest : List Char}
    (h : (afterCased && endsWord (rest ++ ['.', 'a'])) = (afterCased && endsWord rest))
    (later : List Char) :
    (afterCased && endsWord (rest ++ '.' :: later)) = (afterCased && endsWord rest) := by
  rw [endsWord_append] at h ⊢
  split at h
  · rename_i hall
    have hrest : endsWord rest = true := by
      have hrest := endsWord_append rest []
      rw [List.append_nil, if_pos hall] at hrest
      exact hrest
    have hletter : endsWord ['.', 'a'] = false := by decide +kernel
    rw [hletter, hrest, Bool.and_false, Bool.and_true] at h
    rw [← h, Bool.false_and, Bool.false_and]
  · rename_i hall
    rw [if_neg hall]

/-- The lower case of a schema is the same alone and in front of a dot and a name. -/
def LowersAlone (schema : String) : Prop :=
  lower (schema ++ ".a") = lower schema ++ ".a"

instance (schema : String) : Decidable (LowersAlone schema) :=
  inferInstanceAs (Decidable (_ = _))

/-- In front of any name, a schema reads as it does in front of one letter. -/
theorem lowerFrom_dot (h : lowerFrom afterCased (cs ++ ['.', 'a']) =
      lowerFrom afterCased cs ++ ['.', 'a']) (later : List Char) :
    ∃ before, lowerFrom afterCased (cs ++ '.' :: later) =
      lowerFrom afterCased cs ++ '.' :: lowerFrom before later := by
  induction cs generalizing afterCased with
  | nil => exact ⟨afterCased, by rw [List.nil_append, lowerFrom_cons]; rfl⟩
  | cons c rest ih =>
    rw [List.cons_append, lowerFrom_cons, lowerFrom_cons] at h
    rw [List.cons_append, lowerFrom_cons, lowerFrom_cons]
    have hhere : lowerAt afterCased c (rest ++ ['.', 'a']) = lowerAt afterCased c rest ∧
        lowerAt afterCased c (rest ++ '.' :: later) = lowerAt afterCased c rest := by
      unfold lowerAt at h ⊢
      split at h
      · rename_i hsigma
        have hforms : ∀ x y : Bool, Char.ofNat (if x then 0x3C2 else 0x3C3) =
            Char.ofNat (if y then 0x3C2 else 0x3C3) → x = y := by decide
        have hend := hforms _ _ (List.cons.inj h).1
        rw [if_pos hsigma, if_pos hsigma, if_pos hsigma, hend, endsWord_dot hend]
        exact ⟨rfl, rfl⟩
      · rename_i hother
        exact ⟨by rw [if_neg hother, if_neg hother], by rw [if_neg hother, if_neg hother]⟩
    rw [hhere.1, List.append_assoc, List.append_cancel_left_eq] at h
    obtain ⟨before, hbefore⟩ := ih h
    exact ⟨before, by rw [hhere.2, hbefore, List.append_assoc]⟩

theorem LowersAlone.lower_dot {schema : String} (h : LowersAlone schema) (name : String) :
    ∃ before, lower (schema ++ "." ++ name) =
      lower schema ++ "." ++ String.ofList (lowerFrom before name.toList) := by
  have hletter : lowerFrom false (schema.toList ++ ['.', 'a']) =
      lowerFrom false schema.toList ++ ['.', 'a'] := by
    have h := congrArg String.toList h
    simpa [lower, String.toList_append] using h
  obtain ⟨before, hbefore⟩ := lowerFrom_dot hletter name.toList
  refine ⟨before, String.toList_inj.1 ?_⟩
  simpa [lower, String.toList_append] using hbefore

/-- A text is empty in lower case only if it is empty. -/
theorem lower_eq_empty_iff {s : String} : lower s = "" ↔ s = "" := by
  rw [← String.toList_inj, lower, String.toList_ofList, String.toList_empty, lowerFrom_eq_nil_iff,
    String.toList_eq_nil_iff]

end TableInterfaces.Text
