import Mathlib.Data.List.DropRight
import TableInterfaces.Proofs.Text.Lowercase
import TableInterfaces.Proofs.Text.Pieces
import TableInterfaces.Sql.Declaration

/-!
# The grammar of type declarations

`Writes` says how a declaration is written in ASCII: white space, a name, white space, perhaps one
or two numbers between round brackets, white space, perhaps a pair of square brackets, white space.
Reading finds the parts that are written, whatever the white space between them. A name may be said
to end before or behind the spaces at its end, which belong to the white space behind it as well;
reading leaves them out. Main statement:

* `parse?_eq_some_iff`: a text is read as a declaration just where it writes it.
-/

namespace TableInterfaces.Text

variable {p : Char → Bool} {front back : List Char}

/-! ## Starts and ends -/

/-- The start of a text that satisfies `p`, and what is behind it. -/
theorem span_append (hfront : ∀ c ∈ front, p c = true)
    (hback : ∀ c, back.head? = some c → p c = false) :
    (front ++ back).takeWhile p = front ∧ (front ++ back).dropWhile p = back := by
  rw [List.takeWhile_append_of_pos hfront, List.dropWhile_append_of_pos hfront]
  cases back with
  | nil => simp
  | cons c back => simp [hback c rfl]

/-- What is behind the start of a text that satisfies `p`. -/
theorem drop_takeWhile (p : Char → Bool) (cs : List Char) :
    cs.drop (cs.takeWhile p).length = cs.dropWhile p := by
  have h : (cs.takeWhile p ++ cs.dropWhile p).drop (cs.takeWhile p).length = cs.dropWhile p :=
    List.drop_left
  rwa [List.takeWhile_append_dropWhile] at h

/-- An end that is dropped may be longer. -/
theorem dropEndWhile_append (h : ∀ c ∈ back, p c = true) :
    dropEndWhile p (front ++ back) = dropEndWhile p front := by
  rw [dropEndWhile, List.reverse_append, List.dropWhile_append_of_pos, dropEndWhile]
  exact fun c hc => h c (List.mem_reverse.1 hc)

/-- A text is what dropping its end leaves, and that end. -/
theorem exists_dropEndWhile (p : Char → Bool) (cs : List Char) :
    ∃ back, cs = dropEndWhile p cs ++ back ∧ (∀ c ∈ back, p c = true) ∧
      ∀ c, (dropEndWhile p cs).getLast? = some c → p c = false := by
  refine ⟨cs.rtakeWhile p, List.rdropWhile_append_rtakeWhile.symm,
    fun _ => List.mem_rtakeWhile_imp, fun c hc => ?_⟩
  have hstop := List.head?_dropWhile_not p cs.reverse
  rw [dropEndWhile, List.getLast?_reverse] at hc
  rwa [hc] at hstop

/-- A first character that is kept stays the first one. -/
theorem dropEndWhile_cons {c : Char} (h : p c = false) (more : List Char) :
    ∃ kept, dropEndWhile p (c :: more) = c :: kept := by
  obtain ⟨back, hsplit, hback, -⟩ := exists_dropEndWhile p (c :: more)
  cases hkept : dropEndWhile p (c :: more) with
  | nil =>
    rw [hkept, List.nil_append] at hsplit
    rw [hback c (hsplit ▸ List.mem_cons_self)] at h
    cases h
  | cons e kept =>
    rw [hkept, List.cons_append, List.cons.injEq] at hsplit
    exact ⟨kept, by rw [hsplit.1]⟩

end TableInterfaces.Text

namespace TableInterfaces.Sql.Declaration

open TableInterfaces.Text

/-! ## The grammar -/

/-- White space. -/
def IsGap (cs : List Char) : Prop :=
  ∀ c ∈ cs, isBlank c = true

/-- One digit or more. -/
def IsDigits (cs : List Char) : Prop :=
  cs ≠ [] ∧ ∀ c ∈ cs, c.isDigit = true

/-- A letter or an underscore, and letters, digits, underscores, dots and spaces behind it. -/
def IsName : List Char → Prop
  | [] => False
  | c :: rest => (c.isAlpha = true ∨ c = '_') ∧
      ∀ d ∈ rest, d.isAlphanum = true ∨ d = '_' ∨ d = '.' ∨ d = ' '

instance (cs : List Char) : Decidable (IsGap cs) :=
  List.decidableBAll _ cs

instance (cs : List Char) : Decidable (IsDigits cs) :=
  @instDecidableAnd _ _ inferInstance (List.decidableBAll _ cs)

instance : (cs : List Char) → Decidable (IsName cs)
  | [] => inferInstanceAs (Decidable False)
  | _ :: rest => @instDecidableAnd _ _ inferInstance (List.decidableBAll _ rest)

/-- A number with white space around it. -/
def WritesNumber (digits cs : List Char) : Prop :=
  ∃ before after, cs = before ++ digits ++ after ∧ IsGap before ∧ IsDigits digits ∧ IsGap after

/-- No numbers, one between round brackets, or two with a comma between them. -/
inductive WritesNumbers : Option (List Char) → Option (List Char) → List Char → Prop
  | none : WritesNumbers none none []
  | one {first inner : List Char} : WritesNumber first inner →
      WritesNumbers (some first) none ('(' :: inner ++ [')'])
  | two {first second inner inner' : List Char} : WritesNumber first inner →
      WritesNumber second inner' →
      WritesNumbers (some first) (some second) ('(' :: inner ++ ',' :: inner' ++ [')'])

/-- The brackets of an array between white space, or white space only. -/
def WritesSuffix (isArray : Bool) (cs : List Char) : Prop :=
  ∃ before after, cs = before ++ (if isArray then ['[', ']'] else []) ++ after ∧
    IsGap before ∧ IsGap after

/-- A text writes a declaration: white space, the name, white space, the numbers, and the brackets
between white space. -/
def Writes (d : Declaration) (cs : List Char) : Prop :=
  ∃ before gap numbers suffix, cs = before ++ d.name ++ (gap ++ numbers ++ suffix) ∧
    IsGap before ∧ IsName d.name ∧ IsGap gap ∧ WritesNumbers d.first d.second numbers ∧
    WritesSuffix d.isArray suffix

variable {d : Declaration} {name digits first inner cs rest gap : List Char}
  {second : Option (List Char)} {isArray : Bool} {c : Char}

/-! ## White space -/

theorem trimStart_gap (h : IsGap gap) (cs : List Char) : trimStart (gap ++ cs) = trimStart cs :=
  List.dropWhile_append_of_pos h

/-- A text without white space at its start. -/
theorem trimStart_cons (h : isBlank c = false) (cs : List Char) : trimStart (c :: cs) = c :: cs :=
  List.dropWhile_cons_of_neg (by simp [h])

/-- A text is white space and what trimming leaves. -/
theorem exists_gap (cs : List Char) : ∃ gap, cs = gap ++ trimStart cs ∧ IsGap gap :=
  ⟨cs.takeWhile isBlank, List.takeWhile_append_dropWhile.symm, fun _ => List.mem_takeWhile_imp⟩

/-! ## Numbers -/

/-- The parts of a text that starts with a number. -/
theorem number?_eq (cs : List Char) : number? cs =
    if (trimStart cs).takeWhile isDecimal = [] then none
    else some ((trimStart cs).takeWhile isDecimal,
      trimStart ((trimStart cs).dropWhile isDecimal)) := by
  unfold number?
  dsimp only
  rw [drop_takeWhile]
  simp only [List.isEmpty_iff]

/-- A written number is read, up to a bracket or a comma. -/
theorem number?_written (hascii : IsAscii inner) (h : WritesNumber digits inner)
    (hc : c = ')' ∨ c = ',') (rest : List Char) :
    number? (inner ++ c :: rest) = some (digits, c :: rest) := by
  obtain ⟨before, after, rfl, hbefore, ⟨hne, hdigits⟩, hafter⟩ := h
  obtain ⟨hascii, hascii'⟩ := isAscii_append.1 hascii
  obtain ⟨-, hascii⟩ := isAscii_append.1 hascii
  have hdecimal : ∀ e ∈ digits, isDecimal e = true := fun e he =>
    (isDecimal_of_ascii (hascii e he)).trans (hdigits e he)
  have hend : trimStart (c :: rest) = c :: rest :=
    trimStart_cons (by rcases hc with rfl | rfl <;> decide) rest
  have hstop : ∀ e, (after ++ c :: rest).head? = some e → isDecimal e = false := by
    intro e he
    cases after with
    | nil =>
      cases he
      rcases hc with rfl | rfl <;> decide +kernel
    | cons _ after =>
      cases he
      exact forall_ascii (P := fun c => isBlank c = true → isDecimal c = false) (by decide +kernel)
        (hascii' e List.mem_cons_self) (hafter e List.mem_cons_self)
  have hstart : trimStart (before ++ digits ++ after ++ c :: rest) =
      digits ++ (after ++ c :: rest) := by
    rw [List.append_assoc, List.append_assoc, trimStart_gap hbefore]
    obtain ⟨e, more, rfl⟩ := List.exists_cons_of_ne_nil hne
    exact trimStart_cons (forall_ascii (P := fun c => c.isDigit = true → isBlank c = false)
      (by decide +kernel) (hascii e List.mem_cons_self) (hdigits e List.mem_cons_self)) _
  obtain ⟨htake, hdrop⟩ := span_append hdecimal hstop
  rw [number?_eq, hstart, htake, hdrop, if_neg hne, trimStart_gap hafter, hend]

/-- What is read as a number is written in front of what is left. -/
theorem written_of_number? (hascii : IsAscii cs) (h : number? cs = some (digits, rest)) :
    ∃ inner, cs = inner ++ rest ∧ WritesNumber digits inner := by
  rw [number?_eq] at h
  split at h
  · cases h
  · rename_i hne
    cases h
    obtain ⟨before, hcs, hbefore⟩ := exists_gap cs
    obtain ⟨after, hrest, hafter⟩ := exists_gap ((trimStart cs).dropWhile isDecimal)
    have hstart : IsAscii (trimStart cs) := (isAscii_append.1 (hcs ▸ hascii)).2
    refine ⟨before ++ (trimStart cs).takeWhile isDecimal ++ after, ?_, before, after, rfl, hbefore,
      ⟨hne, fun e he => ?_⟩, hafter⟩
    · rw [List.append_assoc, List.append_assoc, ← hrest, List.takeWhile_append_dropWhile, ← hcs]
    · rw [← isDecimal_of_ascii (hstart e ((List.takeWhile_prefix isDecimal).mem he))]
      exact List.mem_takeWhile_imp he

/-- The number in front of a closing bracket is the only one. -/
theorem arguments?_one (h : number? cs = some (digits, ')' :: rest)) :
    arguments? cs = some (digits, none, rest) := by
  simp [arguments?, h]

/-- A second number is read behind a comma. -/
theorem arguments?_two {digits' more : List Char} (h : number? cs = some (digits, ',' :: more))
    (h' : number? more = some (digits', ')' :: rest)) :
    arguments? cs = some (digits, some digits', rest) := by
  simp [arguments?, h, h']

/-- Written numbers are read behind their opening bracket. -/
theorem arguments?_written {numbers : List Char} (hascii : IsAscii numbers)
    (h : WritesNumbers (some digits) second numbers) :
    ∃ inner, numbers = '(' :: inner ∧
      ∀ rest, arguments? (inner ++ rest) = some (digits, second, rest) := by
  cases h with
  | @one _ inner h =>
    have hinner : IsAscii inner := fun e he => hascii e (by simp [he])
    refine ⟨inner ++ [')'], rfl, fun rest => ?_⟩
    rw [List.append_assoc, List.singleton_append]
    exact arguments?_one (number?_written hinner h (.inl rfl) rest)
  | @two _ _ inner inner' h h' =>
    have hinner : IsAscii inner := fun e he => hascii e (by simp [he])
    have hinner' : IsAscii inner' := fun e he => hascii e (by simp [he])
    refine ⟨inner ++ ',' :: inner' ++ [')'], rfl, fun rest => ?_⟩
    rw [List.append_assoc, List.append_assoc, List.cons_append, List.singleton_append]
    exact arguments?_two (number?_written hinner h (.inr rfl) _)
      (number?_written hinner' h' (.inl rfl) rest)

/-- What is read as numbers is written in front of what is left. -/
theorem written_of_arguments? (hascii : IsAscii cs)
    (h : arguments? cs = some (digits, second, rest)) :
    ∃ numbers, '(' :: cs = numbers ++ rest ∧ WritesNumbers (some digits) second numbers := by
  unfold arguments? at h
  split at h
  · cases h
  · rename_i rest' hnumber
    cases h
    obtain ⟨inner, rfl, hwrites⟩ := written_of_number? hascii hnumber
    exact ⟨'(' :: inner ++ [')'], by simp, .one hwrites⟩
  · rename_i more hnumber
    obtain ⟨inner, rfl, hwrites⟩ := written_of_number? hascii hnumber
    split at h
    · rename_i hnumber'
      cases h
      have hmore : IsAscii more := fun e he => hascii e (by simp [he])
      obtain ⟨inner', rfl, hwrites'⟩ := written_of_number? hmore hnumber'
      exact ⟨'(' :: inner ++ ',' :: inner' ++ [')'], by simp, .two hwrites hwrites'⟩
    · cases h
  · cases h

/-! ## The brackets of an array -/

/-- Behind white space, the end of a declaration is empty, or starts with the brackets. -/
theorem WritesSuffix.trimStart_eq (h : WritesSuffix isArray cs) :
    isArray = false ∧ trimStart cs = [] ∨
      isArray = true ∧ ∃ after, trimStart cs = '[' :: ']' :: after ∧ IsGap after := by
  obtain ⟨before, after, rfl, hbefore, hafter⟩ := h
  rw [List.append_assoc, trimStart_gap hbefore]
  cases isArray with
  | false => exact .inl ⟨rfl, List.dropWhile_eq_nil_iff.2 hafter⟩
  | true => exact .inr ⟨rfl, after, trimStart_cons (by decide) _, hafter⟩

/-- A written end is read. -/
theorem arraySuffix?_written (h : WritesSuffix isArray cs) : arraySuffix? cs = some isArray := by
  unfold arraySuffix?
  rcases h.trimStart_eq with ⟨rfl, hnil⟩ | ⟨rfl, after, hbrackets, hafter⟩
  · rw [hnil]
  · rw [hbrackets]
    simp [List.all_eq_true.2 hafter]

/-- What is read as an end is written. -/
theorem written_of_arraySuffix? (h : arraySuffix? cs = some isArray) : WritesSuffix isArray cs := by
  obtain ⟨before, hcs, hbefore⟩ := exists_gap cs
  unfold arraySuffix? at h
  split at h
  · rename_i hnil
    cases h
    exact ⟨before, [], by rw [hcs, hnil]; simp, hbefore, nofun⟩
  · rename_i after hbrackets
    split at h
    · rename_i hafter
      cases h
      exact ⟨before, after, by rw [hcs, hbrackets]; simp, hbefore, List.all_eq_true.1 hafter⟩
    · cases h
  · cases h

/-! ## Behind the name -/

theorem arraySuffix?_trimStart (cs : List Char) :
    arraySuffix? (trimStart cs) = arraySuffix? cs := by
  unfold arraySuffix? trimStart
  rw [List.dropWhile_idempotent]

/-- White space behind a name is passed over. -/
theorem tail?_gap (h : IsGap gap) (cs : List Char) : tail? name (gap ++ cs) = tail? name cs := by
  unfold tail?
  rw [trimStart_gap h]

/-- Numbers are read behind an opening bracket. -/
theorem tail?_bracket (h : arguments? inner = some (digits, second, rest)) :
    tail? name ('(' :: inner) =
      (arraySuffix? rest).map fun isArray => ⟨name, some digits, second, isArray⟩ := by
  rw [tail?, trimStart_cons (by decide)]
  simp [h]

/-- The written parts behind a name are read. -/
theorem tail?_written {first : Option (List Char)} {numbers suffix : List Char}
    (hascii : IsAscii numbers) (hgap : IsGap gap) (hnumbers : WritesNumbers first second numbers)
    (hsuffix : WritesSuffix isArray suffix) :
    tail? name (gap ++ numbers ++ suffix) = some ⟨name, first, second, isArray⟩ := by
  rw [List.append_assoc, tail?_gap hgap]
  cases first with
  | none =>
    cases hnumbers
    rw [List.nil_append, tail?]
    split
    · rename_i inner hinner
      rcases hsuffix.trimStart_eq with ⟨-, h⟩ | ⟨-, after, h, -⟩ <;> rw [hinner] at h <;> cases h
    · rw [arraySuffix?_trimStart, arraySuffix?_written hsuffix]
      rfl
  | some digits =>
    obtain ⟨inner, rfl, hread⟩ := arguments?_written hascii hnumbers
    rw [List.cons_append, tail?_bracket (hread suffix), arraySuffix?_written hsuffix]
    rfl

/-- What stands behind a name leaves the name as it is. -/
theorem name_of_tail? (h : tail? name cs = some d) : d.name = name := by
  unfold tail? at h
  split at h
  · split at h
    · obtain ⟨_, _, rfl⟩ := Option.map_eq_some_iff.1 h
      rfl
    · cases h
  · obtain ⟨_, _, rfl⟩ := Option.map_eq_some_iff.1 h
    rfl

/-- What is read behind a name is written there. -/
theorem written_of_tail? (hascii : IsAscii cs) (h : tail? name cs = some d) :
    ∃ gap numbers suffix, cs = gap ++ numbers ++ suffix ∧ IsGap gap ∧
      WritesNumbers d.first d.second numbers ∧ WritesSuffix d.isArray suffix := by
  obtain ⟨gap, hcs, hgap⟩ := exists_gap cs
  unfold tail? at h
  split at h
  · rename_i inner hinner
    split at h
    · rename_i digits second rest harguments
      obtain ⟨isArray, hsuffix, rfl⟩ := Option.map_eq_some_iff.1 h
      have hinner' : IsAscii inner := fun e he => hascii e (by rw [hcs, hinner]; simp [he])
      obtain ⟨numbers, hnumbers, hwrites⟩ := written_of_arguments? hinner' harguments
      refine ⟨gap, numbers, rest, ?_, hgap, hwrites, written_of_arraySuffix? hsuffix⟩
      rw [List.append_assoc, ← hnumbers, ← hinner, ← hcs]
    · cases h
  · obtain ⟨isArray, hsuffix, rfl⟩ := Option.map_eq_some_iff.1 h
    rw [arraySuffix?_trimStart] at hsuffix
    exact ⟨[], [], cs, rfl, nofun, .none, written_of_arraySuffix? hsuffix⟩

/-! ## Names -/

/-- Behind a name stands white space, up to a bracket or the end. -/
theorem exists_gap_bracket {first : Option (List Char)} {numbers suffix : List Char}
    (hgap : IsGap gap) (hnumbers : WritesNumbers first second numbers)
    (hsuffix : WritesSuffix isArray suffix) :
    ∃ blanks rest, gap ++ numbers ++ suffix = blanks ++ rest ∧ IsGap blanks ∧
      ∀ c, rest.head? = some c → c = '(' ∨ c = '[' := by
  obtain ⟨blanks, hsplit, hblanks⟩ := exists_gap (gap ++ numbers ++ suffix)
  refine ⟨blanks, _, hsplit, hblanks, fun c hc => ?_⟩
  rw [List.append_assoc, trimStart_gap hgap] at hc
  cases hnumbers with
  | none =>
    rcases hsuffix.trimStart_eq with ⟨-, h⟩ | ⟨-, after, h, -⟩ <;>
      rw [List.nil_append, h] at hc <;> cases hc
    exact .inr rfl
  | one h =>
    rw [List.cons_append, List.cons_append, trimStart_cons (by decide)] at hc
    cases hc
    exact .inl rfl
  | two h h' =>
    rw [List.cons_append, List.cons_append, List.cons_append, trimStart_cons (by decide)] at hc
    cases hc
    exact .inl rfl

/-- Of the white space behind a name, only spaces could belong to it. -/
theorem eq_space_of_mem_takeWhile {blanks : List Char} (hascii : IsAscii blanks)
    (hblanks : IsGap blanks) (hrest : ∀ c, rest.head? = some c → c = '(' ∨ c = '[')
    (hc : c ∈ (blanks ++ rest).takeWhile isNameChar) : c = ' ' := by
  have hstop : rest.takeWhile isNameChar = [] := by
    cases rest with
    | nil => rfl
    | cons e rest =>
      refine List.takeWhile_cons_of_neg ?_
      rcases hrest e rfl with rfl | rfl <;> decide
  have hmem : c ∈ blanks := by
    rw [List.takeWhile_append, hstop, List.append_nil] at hc
    split at hc
    · exact hc
    · exact (List.takeWhile_prefix isNameChar).mem hc
  exact forall_ascii (P := fun c => isBlank c = true → isNameChar c = true → c = ' ')
    (by decide +kernel) (hascii c hmem) (hblanks c hmem) (List.mem_takeWhile_imp hc)

/-- The characters that may start a name. -/
theorem isNameStart_iff : isNameStart c = true ↔ c.isAlpha = true ∨ c = '_' := by
  simp [isNameStart]

/-- The characters of ASCII that a name may hold. -/
theorem isNameChar_iff (h : c.toNat < 128) :
    isNameChar c = true ↔ c.isAlphanum = true ∨ c = '_' ∨ c = '.' ∨ c = ' ' :=
  forall_ascii (P := fun c => isNameChar c = true ↔
    c.isAlphanum = true ∨ c = '_' ∨ c = '.' ∨ c = ' ') (by decide +kernel) h

/-- No name starts with white space. -/
theorem isBlank_of_isNameStart (h : isNameStart c = true) : isBlank c = false :=
  forall_ascii (P := fun c => isNameStart c = true → isBlank c = false) (by decide +kernel)
    (StartsName.toNat_lt (isNameStart_iff.1 h)) h

/-- The name of a read declaration starts as a name does. -/
theorem name_of_parse? (h : parse? cs = some d) :
    ∃ c more, d.name = c :: more ∧ isNameStart c = true := by
  unfold parse? at h
  split at h
  · cases h
  · rename_i c rest _
    split at h
    · rename_i hstart
      have hspace : (c == ' ') = false := by
        refine beq_eq_false_iff_ne.2 fun hc => ?_
        rw [hc] at hstart
        cases hstart
      obtain ⟨kept, hkept⟩ :=
        dropEndWhile_cons (p := (· == ' ')) hspace (rest.takeWhile isNameChar)
      exact ⟨c, kept, (name_of_tail? h).trans hkept, hstart⟩
    · cases h

/-- A declaration without the spaces at the end of its name. -/
def trimmed (d : Declaration) : Declaration :=
  { d with name := dropEndWhile (· == ' ') d.name }

/-- A written declaration is read. -/
theorem parse?_written (hascii : IsAscii cs) (h : Writes d cs) : parse? cs = some d.trimmed := by
  obtain ⟨before, gap, numbers, suffix, rfl, hbefore, hname, hgap, hnumbers, hsuffix⟩ := h
  obtain ⟨name, first, second, isArray⟩ := d
  cases name with
  | nil => exact hname.elim
  | cons c more =>
    obtain ⟨hstart, hmore⟩ := hname
    obtain ⟨hascii, hbehind⟩ := isAscii_append.1 hascii
    obtain ⟨blanks, rest, hsplit, hblanks, hrest⟩ := exists_gap_bracket hgap hnumbers hsuffix
    have hstart := isNameStart_iff.2 hstart
    have hmore : ∀ e ∈ more, isNameChar e = true := fun e he =>
      (isNameChar_iff (hascii e (by simp [he]))).2 (hmore e he)
    have hspaces : ∀ e ∈ (gap ++ numbers ++ suffix).takeWhile isNameChar, e = ' ' := by
      rw [hsplit] at hbehind ⊢
      exact fun e he => eq_space_of_mem_takeWhile (isAscii_append.1 hbehind).1 hblanks hrest he
    have htail : tail? (dropEndWhile (· == ' ') (c :: more))
        ((gap ++ numbers ++ suffix).dropWhile isNameChar) =
        some ⟨dropEndWhile (· == ' ') (c :: more), first, second, isArray⟩ := by
      have hblank : IsGap ((gap ++ numbers ++ suffix).takeWhile isNameChar) := fun e he => by
        rw [hspaces e he]
        decide
      rw [← tail?_gap hblank, List.takeWhile_append_dropWhile]
      exact tail?_written (isAscii_append.1 (isAscii_append.1 hbehind).1).2 hgap hnumbers hsuffix
    rw [parse?, List.append_assoc, trimStart_gap hbefore, List.cons_append,
      trimStart_cons (isBlank_of_isNameStart hstart)]
    dsimp only
    rw [if_pos hstart, List.takeWhile_append_of_pos hmore, List.dropWhile_append_of_pos hmore,
      ← List.cons_append,
      dropEndWhile_append fun e he => beq_iff_eq.2 (hspaces e he), htail]
    rfl

/-- What is read as a declaration is written. -/
theorem written_of_parse? (hascii : IsAscii cs) (h : parse? cs = some d) :
    ∃ written, Writes written cs ∧ d = written.trimmed := by
  obtain ⟨before, hcs, hbefore⟩ := exists_gap cs
  unfold parse? at h
  split at h
  · cases h
  · rename_i c rest hrow
    split at h
    · rename_i hstart
      dsimp only at h
      have hascii' : IsAscii rest := fun e he => hascii e (by rw [hcs, hrow]; simp [he])
      have htail : IsAscii (rest.dropWhile isNameChar) := fun e he =>
        hascii' e ((List.dropWhile_suffix isNameChar).mem he)
      obtain ⟨gap, numbers, suffix, hdrop, hgap, hnumbers, hsuffix⟩ := written_of_tail? htail h
      refine ⟨{ d with name := c :: rest.takeWhile isNameChar }, ?_, ?_⟩
      · refine ⟨before, gap, numbers, suffix, ?_, hbefore, ⟨isNameStart_iff.1 hstart, ?_⟩, hgap,
          hnumbers, hsuffix⟩
        · rw [← hdrop, List.append_assoc, List.cons_append, List.takeWhile_append_dropWhile, ← hrow,
            ← hcs]
        · exact fun e he => (isNameChar_iff
            (hascii' e ((List.takeWhile_prefix isNameChar).mem he))).1 (List.mem_takeWhile_imp he)
      · rw [trimmed, ← name_of_tail? h]
    · cases h

/-- **What is read as a declaration.** An ASCII text is read as a declaration just where it writes
one, whose name may go on with spaces. -/
theorem parse?_eq_some_iff (hascii : IsAscii cs) :
    parse? cs = some d ↔ ∃ written, Writes written cs ∧ d = written.trimmed := by
  refine ⟨written_of_parse? hascii, ?_⟩
  rintro ⟨written, hwrites, rfl⟩
  exact parse?_written hascii hwrites

end TableInterfaces.Sql.Declaration
