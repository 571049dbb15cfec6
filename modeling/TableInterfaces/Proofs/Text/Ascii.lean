import TableInterfaces.Text.Lowercase
import TableInterfaces.Text.WordChar

/-!
# ASCII

What holds for the characters of ASCII is checked for each of their codes (`forall_ascii`). Their
decimal digits are the ten digits, and their lower case does not depend on their neighbours.
-/

namespace TableInterfaces.Text

variable {c : Char} {cs front back : List Char}

/-- ASCII characters only. -/
def IsAscii (cs : List Char) : Prop :=
  ∀ c ∈ cs, c.toNat < 128

-- By the members of the list: an instance for all characters would go through every code.
instance (cs : List Char) : Decidable (IsAscii cs) :=
  List.decidableBAll _ cs

theorem isAscii_append : IsAscii (front ++ back) ↔ IsAscii front ∧ IsAscii back :=
  List.forall_mem_append

/-- What is checked for each code of ASCII holds for its characters. -/
theorem forall_ascii {P : Char → Prop} (h : ∀ n < 128, P (Char.ofNat n)) (hc : c.toNat < 128) :
    P c := by
  have hcode := h c.toNat hc
  rwa [Char.ofNat_toNat] at hcode

/-- Letters are characters of ASCII. -/
theorem toNat_lt_of_isAlpha (h : c.isAlpha = true) : c.toNat < 128 := by
  unfold Char.isAlpha Char.isUpper Char.isLower at h
  simp only [Bool.or_eq_true, Bool.and_eq_true, decide_eq_true_eq, UInt32.le_iff_toNat_le] at h
  simp at h
  omega

/-- The decimal digits of ASCII. -/
theorem isDecimal_of_ascii (h : c.toNat < 128) : isDecimal c = c.isDigit :=
  forall_ascii (P := fun c => isDecimal c = c.isDigit) (by decide +kernel) h

/-- The lower case of ASCII. -/
theorem lowerFrom_ascii (hascii : IsAscii cs) (afterCased : Bool) :
    lowerFrom afterCased cs = cs.map Char.toLower := by
  induction cs generalizing afterCased with
  | nil => rfl
  | cons c rest ih =>
    have hc : c.toNat < 128 := hascii c List.mem_cons_self
    rw [lowerFrom, if_neg (by omega), lowerChar, if_pos hc,
      ih fun e he => hascii e (List.mem_cons_of_mem c he)]
    rfl

end TableInterfaces.Text
