import TableInterfaces.Proofs.Json.RoundTrip
import TableInterfaces.Text.Lines

/-!
# The text of a written value

Carriage returns are escaped, so a written value is the same after its line ends are unified. Main
statement:

* `unifyNewlines_written_object`: a written object has line feeds as its only line ends.
-/

namespace TableInterfaces.Json

open TableInterfaces.Number
open TableInterfaces.Text

/-- Without carriage returns there are no line ends to unify. -/
theorem unifyNewlines_of_not_mem {cs : List Char} (h : '\r' ∉ cs) : unifyNewlines cs = cs := by
  induction cs with
  | nil => rfl
  | cons c rest ih =>
    rw [List.mem_cons, not_or] at h
    unfold unifyNewlines
    split
    · contradiction
    · rename_i heq
      cases heq
      exact absurd rfl h.1
    · rename_i heq
      cases heq
      rw [if_neg (Ne.symm h.1), ih h.2]

theorem not_mem_append {c : Char} {s t : String} (hs : c ∉ s.toList) (ht : c ∉ t.toList) :
    c ∉ (s ++ t).toList := by
  rw [String.toList_append, List.mem_append, not_or]
  exact ⟨hs, ht⟩

theorem not_mem_intercalate {c : Char} {separator : String} {parts : List String}
    (hseparator : c ∉ separator.toList) (hparts : ∀ part ∈ parts, c ∉ part.toList) :
    c ∉ (String.intercalate separator parts).toList := by
  induction parts with
  | nil => exact List.not_mem_nil
  | cons part rest ih =>
    have hrest := ih fun other hother => hparts other (List.mem_cons_of_mem part hother)
    cases rest with
    | nil =>
      rw [String.intercalate_singleton]
      exact hparts part List.mem_cons_self
    | cons next rest =>
      rw [String.intercalate_cons_cons]
      exact not_mem_append (not_mem_append (hparts part List.mem_cons_self) hseparator) hrest

theorem not_mem_lineStart (level : Nat) : '\r' ∉ (lineStart level).toList := by
  intro h
  rw [lineStart, String.toList_ofList] at h
  rcases List.mem_cons.1 h with h | h
  · cases h
  · cases List.eq_of_mem_replicate h

/-! ## Parts of values -/

theorem not_mem_writtenText (s : String) : '\r' ∉ (writtenText s).toList := by
  have hhex : ∀ n < 0x20, '\r' ∉ hexDigits 4 n := by decide
  rw [writtenText, String.toList_ofList]
  intro h
  rcases List.mem_append.1 h with h | h
  · rcases List.mem_cons.1 h with h | h
    · cases h
    · obtain ⟨c, _, h⟩ := List.mem_flatMap.1 h
      unfold writtenChar at h
      iterate 7
        split at h
        · simp [doubleQuote] at h
      split at h
      · rename_i hcontrol
        rcases List.mem_cons.1 h with h | h
        · cases h
        · rcases List.mem_cons.1 h with h | h
          · cases h
          · exact hhex _ hcontrol h
      · rename_i hreturn _ _ _ _
        exact hreturn (List.mem_singleton.1 h).symm
  · cases List.mem_singleton.1 h

/-- A digit, a sign, a point, or the mark of an exponent. -/
def IsNumeralChar (c : Char) : Prop :=
  c.isDigit = true ∨ c ∈ ['-', '+', '.', 'e']

instance : DecidablePred IsNumeralChar :=
  fun c => inferInstanceAs (Decidable (c.isDigit = true ∨ c ∈ ['-', '+', '.', 'e']))

/-- Whether a fixed text has such characters only can be decided. -/
theorem isNumeralChar_of_all {cs : List Char} (h : cs.all (IsNumeralChar ·) = true) :
    ∀ c ∈ cs, IsNumeralChar c :=
  fun c hc => of_decide_eq_true (List.all_eq_true.1 h c hc)

theorem not_mem_of_numeral {cs : List Char} (h : ∀ c ∈ cs, IsNumeralChar c) : '\r' ∉ cs := by
  intro hmem
  rcases h _ hmem with hdigit | hmark
  · cases hdigit
  · simp at hmark

theorem isNumeralChar_toDigits (n : Nat) : ∀ c ∈ Nat.toDigits 10 n, IsNumeralChar c :=
  fun _ hc => .inl (isDigit_of_mem_toDigits hc)

theorem isNumeralChar_int (n : Int) : ∀ c ∈ (toString n).toList, IsNumeralChar c := by
  intro c hc
  rw [toString_int] at hc
  rcases List.mem_append.1 hc with hc | hc
  · unfold signText at hc
    split at hc
    · exact .inr (by simpa using .inl (List.mem_singleton.1 hc))
    · cases hc
  · exact isNumeralChar_toDigits _ c hc

theorem isNumeralChar_exponentText (x : Int) :
    ∀ c ∈ (Double.exponentText x).toList, IsNumeralChar c := by
  unfold Double.exponentText
  dsimp only
  rw [String.toList_append, String.toList_append, Nat.toString_eq_ofList_toDigits]
  refine List.forall_mem_append.2 ⟨List.forall_mem_append.2 ⟨?_, ?_⟩, ?_⟩
  · split <;> exact isNumeralChar_of_all (by decide)
  · split <;> exact isNumeralChar_of_all (by decide)
  · rw [String.toList_ofList]
    exact isNumeralChar_toDigits _

/-- Decimal notation adds zeros, a point and an exponent to digits. -/
theorem isNumeralChar_decimalText {digits : List Char} (h : ∀ c ∈ digits, c.isDigit = true)
    (top : Int) : ∀ c ∈ (Double.decimalText digits top).toList, IsNumeralChar c := by
  have hdigits : ∀ c ∈ digits, IsNumeralChar c := fun c hc => .inl (h c hc)
  have hzeros : ∀ {n : Nat}, ∀ c ∈ List.replicate n '0', IsNumeralChar c :=
    fun _ hc => .inl (isDigit_of_mem_zeros hc)
  have hpoint : IsNumeralChar '.' := by decide
  have hzero : IsNumeralChar '0' := by decide
  unfold Double.decimalText
  split
  · split
    · rw [String.toList_append, String.toList_ofList, String.toList_ofList]
      exact List.forall_mem_append.2
        ⟨isNumeralChar_of_all (by decide), List.forall_mem_append.2 ⟨hzeros, hdigits⟩⟩
    · dsimp only
      rw [String.toList_ofList]
      refine List.forall_mem_append.2 ⟨List.forall_mem_append.2 ⟨?_, hzeros⟩,
        List.forall_mem_cons.2 ⟨hpoint, ?_⟩⟩
      · exact fun c hc => hdigits c (List.mem_of_mem_take hc)
      · split
        · exact List.forall_mem_singleton.2 hzero
        · exact fun c hc => hdigits c (List.mem_of_mem_drop hc)
  · have hmark := isNumeralChar_exponentText top
    dsimp only
    split
    · exact isNumeralChar_of_all (by decide)
    · rw [String.toList_append, String.toList_ofList]
      exact List.forall_mem_append.2 ⟨hdigits, hmark⟩
    · rename_i d rest _
      obtain ⟨hd, hrest⟩ := List.forall_mem_cons.1 hdigits
      rw [String.toList_append, String.toList_ofList]
      exact List.forall_mem_append.2 ⟨List.forall_mem_cons.2 ⟨hd,
        List.forall_mem_cons.2 ⟨hpoint, hrest⟩⟩, hmark⟩

theorem isNumeralChar_finite (negative : Bool) (m : Nat) (e : Int) :
    ∀ c ∈ (writtenDouble (.finite negative m e)).toList, IsNumeralChar c := by
  have hsign : ∀ body : String, (∀ c ∈ body.toList, IsNumeralChar c) →
      ∀ c ∈ (if negative = true then "-" ++ body else body).toList, IsNumeralChar c := by
    intro body hbody
    split
    · rw [String.toList_append]
      exact List.forall_mem_append.2 ⟨isNumeralChar_of_all (by decide), hbody⟩
    · exact hbody
  have hkept : ∀ (n : Nat) (k : Int), ∀ c ∈ (Double.dropZeros (Nat.toDigits 10 n) k).1,
      c.isDigit = true := by
    intro n k c hc
    exact isDigit_of_mem_toDigits (List.mem_reverse.1
      ((List.dropWhile_sublist _).subset (List.mem_reverse.1 hc)))
  rw [writtenDouble, Double.text]
  · dsimp only
    refine hsign _ ?_
    split
    · exact isNumeralChar_of_all (by decide)
    · exact isNumeralChar_decimalText (hkept _ _) _
  all_goals nofun

theorem not_mem_writtenDouble (x : Double) : '\r' ∉ (writtenDouble x).toList := by
  cases x with
  | nan => decide
  | infinite negative => cases negative <;> decide
  | finite negative m e => exact not_mem_of_numeral (isNumeralChar_finite negative m e)

/-! ## Values -/

theorem not_mem_bracketed {opening closing : String} (hopening : '\r' ∉ opening.toList)
    (hclosing : '\r' ∉ closing.toList) (level : Nat) {parts : List String}
    (hparts : ∀ part ∈ parts, '\r' ∉ part.toList) :
    '\r' ∉ (bracketed opening closing level parts).toList := by
  unfold bracketed
  split
  · exact not_mem_append hopening hclosing
  · have hcomma : '\r' ∉ ("," ++ lineStart (level + 1)).toList :=
      not_mem_append (by decide) (not_mem_lineStart _)
    exact not_mem_append (not_mem_append (not_mem_append
      (not_mem_append hopening (not_mem_lineStart _)) (not_mem_intercalate hcomma hparts))
      (not_mem_lineStart _)) hclosing

theorem not_mem_writtenField {level : Nat} {field : String × Value}
    (h : '\r' ∉ (written level field.2).toList) : '\r' ∉ (writtenField level field).toList :=
  not_mem_append (not_mem_append (not_mem_writtenText field.1) (by decide)) h

/-- A written value has no carriage return. -/
theorem Value.WellFormed.not_mem_written {v : Value} (h : v.WellFormed) (level : Nat) :
    '\r' ∉ (written level v).toList := by
  induction h generalizing level with
  | null =>
    rw [written]
    decide
  | bool b => cases b <;> rw [written] <;> decide
  | int _ => exact not_mem_of_numeral (isNumeralChar_int _)
  | float _ => exact not_mem_writtenDouble _
  | text s => exact not_mem_writtenText s
  | list _ ih =>
    rw [written, writtenItems_eq]
    refine not_mem_bracketed (by decide) (by decide) level fun part hpart => ?_
    obtain ⟨v, hv, rfl⟩ := List.mem_map.1 hpart
    exact ih v hv (level + 1)
  | object _ _ ih =>
    rw [written, writtenFields_eq]
    refine not_mem_bracketed (by decide) (by decide) level fun part hpart => ?_
    obtain ⟨field, hfield, rfl⟩ := List.mem_map.1 hpart
    exact not_mem_writtenField (ih field hfield (level + 1))

/-- **A written object has line feeds as its only line ends.** -/
theorem unifyNewlines_written_object {fields : List (String × Value)}
    (h : ∀ field ∈ fields, field.2.WellFormed) :
    unifyNewlines (written 0 (.object fields)).toList = (written 0 (.object fields)).toList := by
  refine unifyNewlines_of_not_mem ?_
  rw [written, writtenFields_eq]
  refine not_mem_bracketed (by decide) (by decide) 0 fun part hpart => ?_
  obtain ⟨field, hfield, rfl⟩ := List.mem_map.1 hpart
  exact not_mem_writtenField ((h field hfield).not_mem_written 1)

end TableInterfaces.Json
