import TableInterfaces.Proofs.Json.Bounded

/-!
# Literals of characters

A text literal is a row of code points, and one half of a surrogate pair whose other half is missing
is a code point that no text holds. `EscapesCharacters text` says that no literal of a text has one.
Main statements:

* `escapesCharacters_iff`: just these texts lose nothing of their literals.
* `escapesCharacters_of_not_mem`: without a backslash, each literal is a row of characters.
-/

namespace TableInterfaces.Json

open TableInterfaces.Text

/-! ## Rows of code points -/

theorem toNat_codeChar {n : Nat} (h : n.isValidChar) : (codeChar n).toNat = n := by
  have hchar : charOfCode? n = some (Char.ofNatAux n h) := dif_pos h
  rw [codeChar, hchar]
  rfl

/-- Nothing is lost of a row of characters, and of no other row. -/
theorem map_toNat_textOfCodes_iff {codes : List Nat} :
    (textOfCodes codes).toList.map Char.toNat = codes ↔ ∀ code ∈ codes, code.isValidChar := by
  constructor
  · intro h code hcode
    rw [← h] at hcode
    obtain ⟨c, -, rfl⟩ := List.mem_map.1 hcode
    exact c.valid
  · intro h
    rw [textOfCodes, String.toList_ofList, List.map_map]
    have hback := List.map_congr_left fun code hcode => toNat_codeChar (h code hcode)
    exact hback.trans (List.map_id _)

/-- A half of a surrogate pair is read, and is no character. -/
example : scanText 0 1 0 [] "\\ud800\"".toList = .ok ([0xD800], 7) ∧ ¬ (0xD800).isValidChar :=
  ⟨rfl, by decide⟩

/-! ## Literals of a text -/

/-- Each text literal is a row of characters: no escape stands for one half of a surrogate pair
whose other half is missing. -/
def EscapesCharacters (text : String) : Prop :=
  ∀ codes place, (.text codes, place) ∈ tokens text.toList → ∀ code ∈ codes, code.isValidChar

/-- **Nothing is lost of the literals of a text just where each of them is a row of characters.** -/
theorem escapesCharacters_iff {text : String} : EscapesCharacters text ↔
    ∀ codes place, (.text codes, place) ∈ tokens text.toList →
      (textOfCodes codes).toList.map Char.toNat = codes := by
  simp only [map_toNat_textOfCodes_iff, EscapesCharacters]

/-- Without a backslash a literal goes on with characters. -/
theorem isValidChar_of_scanText {start place skip length : Nat} {read codes : List Nat}
    {cs : List Char} (hread : ∀ code ∈ read, code.isValidChar) (hslash : '\\' ∉ cs)
    (h : scanText start place skip read cs = .ok (codes, length)) :
    ∀ code ∈ codes, code.isValidChar := by
  induction cs generalizing place skip read with
  | nil => cases h
  | cons c rest ih =>
    obtain ⟨hc, hrest⟩ := List.ne_and_not_mem_of_not_mem_cons hslash
    cases skip with
    | succ k => exact ih hread hrest h
    | zero =>
      rw [scanText, if_neg hc.symm] at h
      split at h
      · cases h
        exact fun code hcode => hread code (List.mem_reverse.1 hcode)
      split at h
      · cases h
      · exact ih (List.forall_mem_cons.2 ⟨c.valid, hread⟩) hrest h

theorem isValidChar_of_scanToken {place : Nat} {c : Char} {rest : List Char} {codes : List Nat}
    (hslash : '\\' ∉ rest) (h : (scanToken place c rest).1 = .text codes) :
    ∀ code ∈ codes, code.isValidChar := by
  have hscanned := scanned_scanToken place c rest
  rw [h] at hscanned
  cases hscanned with
  | text hscan =>
    exact isValidChar_of_scanText (fun _ hcode => absurd hcode List.not_mem_nil) hslash hscan
  | number hscan =>
    obtain ⟨v, hv⟩ | ⟨digits, hdigits, -⟩ := scanNumber?_cases hscan
    · cases hv
    · cases hdigits

/-- **Without a backslash, each text literal is a row of characters.** -/
theorem escapesCharacters_of_not_mem {text : String} (h : '\\' ∉ text.toList) :
    EscapesCharacters text := by
  intro codes place hentry
  rcases scanned_of_mem_tokensFrom hentry with hfinish | ⟨c, rest, hsuffix, hscan⟩
  · cases hfinish
  · refine isValidChar_of_scanToken (fun hmem => ?_) hscan
    exact h (hsuffix.subset (List.mem_cons_of_mem c hmem))

end TableInterfaces.Json
