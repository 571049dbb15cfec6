import TableInterfaces.Proofs.Source.WrittenName
import TableInterfaces.Source.Scope

/-!
# What simple names stand for

A file prints qualified names through its scope, one after the other. `Scope.owner` is the table of
the simple names that are bound so far. Main statements:

* `Scope.owner_useAll`: after any row of uses a simple name stands for the first qualified name that
  used it, unless the file declares it itself.
* `Scope.ref_fst`: every type is printed by the table of the finished file, whatever is printed
  behind it. So there is one table for the whole file, although each name is printed by the table of
  its moment.
* `TypeName.expand_printed`: with every short name replaced by what it stands for, the printed form
  of a written type is its text.
* `Scope.mem_imported_useAll`: the imports are the first uses of their simple names, less those that
  need no import.
-/

namespace TableInterfaces.Source

open TableInterfaces.Text

/-! ## Uses of qualified names -/

/-- A use of a qualified name, by its package, its simple name and its whole text. -/
structure Use where
  package : String
  simple : String
  text : String
  deriving DecidableEq, Repr

/-- The text of a use tells its package and its simple name. -/
def Use.Splits (u : Use) : Prop :=
  TypeName.splitQualified? u.text.toList = some (u.package.toList, u.simple.toList)

/-- Uses of the same text are the same. -/
theorem Use.Splits.eq_of_text {u v : Use} (hu : u.Splits) (hv : v.Splits)
    (h : u.text = v.text) : u = v := by
  obtain ⟨package, simple, text⟩ := u
  obtain ⟨package', simple', text'⟩ := v
  cases h
  have hsplit := Option.some.inj (hu.symm.trans hv)
  rw [Prod.mk.injEq, String.toList_inj, String.toList_inj] at hsplit
  dsimp only at hsplit
  rw [hsplit.1, hsplit.2]

/-- The first use of a simple name. -/
def firstUse (uses : List Use) (simple : String) : Option Use :=
  uses.find? (·.simple == simple)

/-- The first use of a simple name has that simple name. -/
theorem firstUse_simple {uses : List Use} {simple : String} {u : Use}
    (h : firstUse uses simple = some u) : u.simple = simple := by
  simpa using List.find?_some h

/-- A use of a name is among the uses. -/
theorem mem_of_firstUse {uses : List Use} {simple : String} {u : Use}
    (h : firstUse uses simple = some u) : u ∈ uses :=
  List.mem_of_find?_eq_some h

/-- A simple name in use has a first use. -/
theorem firstUse_isSome {uses : List Use} {u : Use} (h : u ∈ uses) :
    (firstUse uses u.simple).isSome = true := by
  rw [firstUse, List.find?_isSome]
  exact ⟨u, h, by simp⟩

/-- A use is the first one of its own simple name and of no other. -/
theorem firstUse_cons (u : Use) (uses : List Use) (simple : String) :
    firstUse (u :: uses) simple = if u.simple = simple then some u else firstUse uses simple := by
  by_cases h : u.simple = simple
  · simp [firstUse, h]
  · simp [firstUse, h]

/-- The first use in a row of uses is the one in its front part, if there is any. -/
theorem firstUse_append (uses later : List Use) (simple : String) :
    firstUse (uses ++ later) simple = (firstUse uses simple).or (firstUse later simple) :=
  List.find?_append

namespace TypeName

/-- The qualified names in a type name, from left to right. -/
def uses : TypeName → List Use
  | .plain _ => []
  | .qualified package simple text =>
    [⟨String.ofList package, String.ofList simple, String.ofList text⟩]
  | .array element => element.uses
  | .applied outer argument => outer.uses ++ argument.uses

/-- The uses of a type name that is read from its text have texts that tell their parts. -/
theorem ofText_uses_split (cs : List Char) : ∀ u ∈ (ofText cs).uses, u.Splits := by
  fun_induction ofText cs with
  | case1 cs element h ih => exact ih
  | case2 cs h outer argument h' iho iha =>
    intro u hu
    rcases List.mem_append.1 hu with hu | hu
    · exact iho u hu
    · exact iha u hu
  | case3 cs h h' =>
    unfold ofSimpleText
    split
    · rename_i package simple hsplit
      intro u hu
      obtain rfl := List.mem_singleton.1 hu
      simpa [Use.Splits] using hsplit
    · intro u hu
      cases hu

/-- A type name as it is printed where `owner` gives the qualified name that a simple name stands
for. -/
def printed (owner : String → Option String) : TypeName → String
  | .plain cs => String.ofList cs
  | .qualified _ simple text =>
    if owner (String.ofList simple) = some (String.ofList text) then String.ofList simple
    else String.ofList text
  | .array element => element.printed owner ++ "[]"
  | .applied outer argument => outer.printed owner ++ "[" ++ argument.printed owner ++ "]"

/-- A type name is printed by what its own simple names stand for. -/
theorem printed_congr {owner other : String → Option String} (t : TypeName)
    (h : ∀ u ∈ t.uses, owner u.simple = other u.simple) : t.printed owner = t.printed other := by
  induction t with
  | plain cs => rfl
  | qualified package simple text => simp only [printed, h ⟨_, _, _⟩ (List.mem_singleton.2 rfl)]
  | array element ih => simp only [printed, ih h]
  | applied outer argument iho iha =>
    simp only [printed, iho fun u hu => h u (List.mem_append_left _ hu),
      iha fun u hu => h u (List.mem_append_right _ hu)]

end TypeName

namespace Scope

/-! ## The table of a scope -/

/-- The qualified name that a simple name stands for. -/
def owner (s : Scope) (simple : String) : Option String :=
  if simple ∈ s.declared then none else s.bound.lookup simple

/-- The scope after a use of a qualified name. -/
def use (s : Scope) (u : Use) : Scope :=
  (s.refQualified u.package u.simple u.text).2

/-- The scope after a row of uses. -/
def useAll (s : Scope) (uses : List Use) : Scope :=
  uses.foldl use s

/-- What a use does: nothing where the file declares the simple name or it stands for a name
already, else it binds the simple name. -/
theorem use_cases (s : Scope) (u : Use) :
    ((u.simple ∈ s.declared ∨ (s.bound.lookup u.simple).isSome = true) ∧ s.use u = s) ∨
    (u.simple ∉ s.declared ∧ s.bound.lookup u.simple = none ∧
      s.use u = s.bind u.package u.simple u.text) := by
  unfold use refQualified
  by_cases hd : u.simple ∈ s.declared
  · exact .inl ⟨.inl hd, by simp [hd]⟩
  · cases hl : s.bound.lookup u.simple with
    | none => exact .inr ⟨hd, rfl, by simp [hd]⟩
    | some q => exact .inl ⟨.inr rfl, by simp [hd]⟩

/-- How a use is printed: by its simple name if that stands for it afterwards. -/
theorem refQualified_fst (s : Scope) (u : Use) :
    (s.refQualified u.package u.simple u.text).1 =
      if (s.use u).owner u.simple = some u.text then u.simple else u.text := by
  unfold use refQualified owner
  by_cases hd : u.simple ∈ s.declared
  · simp [hd]
  · cases hl : s.bound.lookup u.simple with
    | none => simp [hd, hl, bind, List.lookup_append]
    | some q => simp [hd, hl]

/-- A use leaves the dialect, the package and the declared names of a file as they are. -/
theorem use_fixed (s : Scope) (u : Use) :
    (s.use u).dialect = s.dialect ∧ (s.use u).package = s.package ∧
      (s.use u).declared = s.declared := by
  rcases s.use_cases u with ⟨_, h⟩ | ⟨_, _, h⟩ <;> rw [h] <;> exact ⟨rfl, rfl, rfl⟩

/-- A row of uses leaves the dialect, the package and the declared names of a file as they are. -/
theorem useAll_fixed (s : Scope) (uses : List Use) :
    (s.useAll uses).dialect = s.dialect ∧ (s.useAll uses).package = s.package ∧
      (s.useAll uses).declared = s.declared := by
  induction uses generalizing s with
  | nil => exact ⟨rfl, rfl, rfl⟩
  | cons u rest ih =>
    obtain ⟨hd, hp, hl⟩ := s.use_fixed u
    obtain ⟨hd', hp', hl'⟩ := ih (s.use u)
    exact ⟨hd'.trans hd, hp'.trans hp, hl'.trans hl⟩

/-- A use leaves the packages that need no import as they are. -/
theorem isVisible_use (s : Scope) (u : Use) (package : String) :
    (s.use u).isVisible package = s.isVisible package := by
  rw [isVisible, isVisible, (s.use_fixed u).1, (s.use_fixed u).2.1]

@[simp] theorem useAll_nil (s : Scope) : s.useAll [] = s := rfl

@[simp] theorem useAll_cons (s : Scope) (u : Use) (uses : List Use) :
    s.useAll (u :: uses) = (s.use u).useAll uses := rfl

/-- Rows of uses one after the other. -/
theorem useAll_append (s : Scope) (uses later : List Use) :
    s.useAll (uses ++ later) = (s.useAll uses).useAll later :=
  List.foldl_append

/-- A bound simple name stands for the qualified name it is bound to, unless it stood for something
before. -/
theorem lookup_bind (s : Scope) (u : Use) (simple : String) :
    (s.bind u.package u.simple u.text).bound.lookup simple =
      (s.bound.lookup simple).or (if u.simple = simple then some u.text else none) := by
  rw [bind, List.lookup_append, List.lookup_cons, List.lookup_nil]
  by_cases hn : u.simple = simple
  · simp [hn]
  · simp [hn, beq_false_of_ne (Ne.symm hn)]

/-- Binding a simple name imports the qualified name, unless its package is visible anyway. -/
theorem mem_imported_bind (s : Scope) (u : Use) (q : String) :
    q ∈ (s.bind u.package u.simple u.text).imported ↔
      q ∈ s.imported ∨ s.isVisible u.package = false ∧ u.text = q := by
  rw [bind]
  cases s.isVisible u.package with
  | true => simp
  | false => simp [@eq_comm _ q]

/-- After a use its simple name stands for it, unless it stood for something before. -/
theorem lookup_use (s : Scope) (u : Use) {simple : String} (h : simple ∉ s.declared) :
    (s.use u).bound.lookup simple =
      (s.bound.lookup simple).or (if u.simple = simple then some u.text else none) := by
  rcases s.use_cases u with ⟨hs, he⟩ | ⟨_, _, he⟩
  · rw [he]
    by_cases hn : u.simple = simple
    · subst hn
      obtain ⟨q, hq⟩ := Option.isSome_iff_exists.1 (hs.resolve_left h)
      simp [hq]
    · simp [hn]
  · rw [he, s.lookup_bind]

/-- **What a simple name stands for.** After a row of uses it stands for what it stood for before,
else for the first of them that uses it; a name that the file declares stands for nothing else. -/
theorem owner_useAll (s : Scope) (uses : List Use) (simple : String) :
    (s.useAll uses).owner simple =
      if simple ∈ s.declared then none
      else (s.bound.lookup simple).or ((firstUse uses simple).map (·.text)) := by
  rw [owner, (s.useAll_fixed uses).2.2]
  split
  · rfl
  · rename_i hd
    induction uses generalizing s with
    | nil => simp [firstUse]
    | cons u rest ih =>
      rw [useAll_cons, ih (s.use u) (by rwa [(s.use_fixed u).2.2]), s.lookup_use u hd,
        firstUse_cons]
      by_cases hn : u.simple = simple
      · simp [hn]
      · simp [hn]

/-- What a used simple name stands for never changes. -/
theorem owner_useAll_append (s : Scope) (uses later : List Use) {u : Use} (h : u ∈ uses) :
    (s.useAll (uses ++ later)).owner u.simple = (s.useAll uses).owner u.simple := by
  obtain ⟨v, hv⟩ := Option.isSome_iff_exists.1 (firstUse_isSome h)
  simp [owner_useAll, firstUse_append, hv]

/-! ## Printing types -/

/-- The scope after a type name is the scope after its qualified names. -/
theorem ref_snd (s : Scope) (t : TypeName) : (s.ref t).2 = s.useAll t.uses := by
  induction t generalizing s with
  | plain cs => rfl
  | qualified package simple text => rfl
  | array element ih => exact ih s
  | applied outer argument iho iha =>
    rw [TypeName.uses, useAll_append, ← iho, ← iha]
    rfl

/-- **One table for the file.** A type name is printed by the table that the file has at its end,
whatever else is used behind it. -/
theorem ref_fst (s : Scope) (t : TypeName) (later : List Use) :
    (s.ref t).1 = t.printed (s.useAll (t.uses ++ later)).owner := by
  induction t generalizing s later with
  | plain cs => rfl
  | qualified package simple text =>
    let u : Use := ⟨String.ofList package, String.ofList simple, String.ofList text⟩
    have ho : (s.useAll ([u] ++ later)).owner u.simple = (s.useAll [u]).owner u.simple :=
      s.owner_useAll_append [u] later (List.mem_singleton.2 rfl)
    rw [TypeName.printed, TypeName.uses, ho]
    exact s.refQualified_fst u
  | array element ih =>
    rw [TypeName.printed, TypeName.uses, ← ih]
    rfl
  | applied outer argument iho iha =>
    have ho := iho s (argument.uses ++ later)
    have ha := iha (s.ref outer).2 later
    rw [s.ref_snd outer, ← useAll_append, ← s.ref_snd outer] at ha
    rw [TypeName.printed, TypeName.uses, List.append_assoc, ← ho, ← ha]
    rfl

/-! ## Imports -/

/-- **What is imported.** The imports after a row of uses are those before it and each use that is
the first of its simple name, if the name was free and its package is not visible anyway. -/
theorem mem_imported_useAll (s : Scope) (uses : List Use) (q : String) :
    q ∈ (s.useAll uses).imported ↔ q ∈ s.imported ∨
      ∃ u, firstUse uses u.simple = some u ∧ u.simple ∉ s.declared ∧
        s.bound.lookup u.simple = none ∧ s.isVisible u.package = false ∧ u.text = q := by
  induction uses generalizing s with
  | nil => simp [firstUse]
  | cons u rest ih =>
    rw [useAll_cons, ih (s.use u), (s.use_fixed u).2.2]
    simp only [s.isVisible_use u]
    rcases s.use_cases u with ⟨hs, he⟩ | ⟨hd, hl, he⟩
    · -- a later use of the same simple name finds it taken, as this one does
      rw [he]
      refine or_congr_right (exists_congr fun v => ?_)
      rw [firstUse_cons]
      split
      · rename_i hn
        rw [← hn]
        rcases hs with hd | hq
        · simp [hd]
        · simp [Option.isSome_iff_ne_none.1 hq]
      · rfl
    · rw [he, s.mem_imported_bind, or_assoc, ← he]
      refine or_congr_right ⟨?_, ?_⟩
      · rintro (⟨hvisible, hq⟩ | ⟨v, hv, hvd, hvl, hvv, hq⟩)
        · exact ⟨u, by simp [firstUse_cons], hd, hl, hvisible, hq⟩
        · rw [s.lookup_use u hvd] at hvl
          have hne : u.simple ≠ v.simple := fun hn => by simp [hn] at hvl
          exact ⟨v, by rwa [firstUse_cons, if_neg hne], hvd, (Option.or_eq_none_iff.1 hvl).1,
            hvv, hq⟩
      · rintro ⟨v, hv, hvd, hvl, hvv, hq⟩
        rw [firstUse_cons] at hv
        split at hv
        · cases hv
          exact .inl ⟨hvv, hq⟩
        · rename_i hne
          exact .inr ⟨v, hv, hvd, by simp [s.lookup_use u hvd, hvl, hne], hvv, hq⟩

end Scope

/-! ## Reading short names -/

/-- What a row of name characters stands for: a qualified name, or itself. -/
def standsFor (owner : String → Option String) (row : List Char) : List Char :=
  ((owner (String.ofList row)).map String.toList).getD row

/-- A text with each maximal row of name characters replaced by what it stands for; `row` holds the
characters read of the current row. -/
def expandFrom (owner : String → Option String) (row : List Char) : List Char → List Char
  | [] => standsFor owner row
  | c :: rest =>
    if TypeName.isOuterChar c then expandFrom owner (row ++ [c]) rest
    else standsFor owner row ++ c :: expandFrom owner [] rest

/-- A printed type with each short name replaced by the name that it stands for. -/
def expand (owner : String → Option String) (printed : String) : String :=
  String.ofList (expandFrom owner [] printed.toList)

/-- Only simple names stand for other names. -/
def OnlySimple (owner : String → Option String) : Prop :=
  ∀ n, owner n ≠ none → TypeName.isSimpleName n.toList = true

/-- A text that is no simple name stands for itself. -/
theorem OnlySimple.standsFor_self {owner : String → Option String} (h : OnlySimple owner)
    {row : List Char} (hr : TypeName.isSimpleName row = false) : standsFor owner row = row := by
  have hn : owner (String.ofList row) = none := by
    cases ho : owner (String.ofList row) with
    | none => rfl
    | some q =>
      have hs := h (String.ofList row) (by simp [ho])
      rw [String.toList_ofList, hr] at hs
      cases hs
  simp [standsFor, hn]

/-- An empty row stands for nothing. -/
theorem OnlySimple.standsFor_nil {owner : String → Option String} (h : OnlySimple owner) :
    standsFor owner [] = [] :=
  h.standsFor_self rfl

/-- A row of name characters is replaced as a whole where a text goes on with another character. -/
theorem OnlySimple.expandFrom_row {owner : String → Option String} (h : OnlySimple owner)
    {row rest : List Char} (hrow : ∀ c ∈ row, TypeName.isOuterChar c = true)
    (hrest : ∀ c ∈ rest.head?, TypeName.isOuterChar c = false) (front : List Char) :
    expandFrom owner front (row ++ rest) =
      standsFor owner (front ++ row) ++ expandFrom owner [] rest := by
  induction row generalizing front with
  | nil =>
    cases rest with
    | nil => simp [expandFrom, h.standsFor_nil]
    | cons c rest =>
      have hc : TypeName.isOuterChar c = false := hrest c rfl
      simp [expandFrom, hc, h.standsFor_nil]
  | cons c row ih =>
    rw [List.cons_append, expandFrom, if_pos (hrow c (by simp)),
      ih (fun d hd => hrow d (List.mem_cons_of_mem _ hd)), List.append_assoc, List.singleton_append]

namespace TypeName

/-- The name of a primitive type is no simple name. -/
theorem isSimpleName_of_isPackageSegment {word : List Char} (h : isPackageSegment word = true) :
    isSimpleName word = false := by
  cases word with
  | nil => rfl
  | cons c rest =>
    simp only [isPackageSegment, Bool.and_eq_true, Bool.or_eq_true, beq_iff_eq] at h
    have hc : c.isUpper = false := by
      rcases h.1 with hl | rfl
      · cases hu : c.isUpper with
        | false => rfl
        | true =>
          have hlow : 'a'.val ≤ c.val := of_decide_eq_true (Bool.and_eq_true_iff.1 hl).1
          have hupp : 'A'.val ≤ c.val ∧ c.val ≤ 'Z'.val := of_decide_eq_true hu
          exact absurd (UInt32.le_trans hlow hupp.2) (by decide)
      · rfl
    simp [isSimpleName, hc]

/-- The text of a qualified name is no simple name. -/
theorem isSimpleName_joinDots {package : List (List Char)} {simple : List Char}
    (h : package ≠ []) : isSimpleName (joinDots (package ++ [simple])) = false := by
  have hdot : '.' ∈ joinDots (package ++ [simple]) := by
    obtain ⟨p, rest, rfl⟩ := List.exists_cons_of_ne_nil h
    cases hr : rest ++ [simple] with
    | nil => simp at hr
    | cons v more => simp [joinDots, hr, List.intercalate_cons_cons]
  cases hs : isSimpleName (joinDots (package ++ [simple])) with
  | false => rfl
  | true => exact absurd ((isSimpleName_chars hs).2 _ hdot) (by decide)

/-- The printed form of a name is a row of name characters that stands for the name. -/
theorem IsName.standsFor_printed {owner : String → Option String} (ho : OnlySimple owner)
    {t : TypeName} (h : IsName t) :
    (∀ c ∈ (t.printed owner).toList, isOuterChar c = true) ∧
      standsFor owner (t.printed owner).toList = t.text := by
  have hchars := h.text_chars.2
  cases h with
  | primitive hw =>
    exact ⟨by simpa [printed, text] using hchars,
      by simpa [printed, text] using ho.standsFor_self (isSimpleName_of_isPackageSegment hw)⟩
  | @qualified package simple hne hp hs =>
    simp only [printed]
    split
    · rename_i hown
      refine ⟨fun c hc => ?_, by simp [standsFor, hown, text]⟩
      simp [isOuterChar, (isSimpleName_chars hs).2 c (by simpa using hc)]
    · exact ⟨by simpa [text] using hchars,
        by simpa [text] using ho.standsFor_self (isSimpleName_joinDots hne)⟩

/-- The printed form of a written type in front of a bracket or of nothing expands to its text. -/
theorem expandFrom_printed {owner : String → Option String} (ho : OnlySimple owner)
    {t : TypeName} (h : IsWritten t) {rest : List Char}
    (hrest : ∀ c ∈ rest.head?, isOuterChar c = false) :
    expandFrom owner [] ((t.printed owner).toList ++ rest) =
      t.text ++ expandFrom owner [] rest := by
  have hbracket : ∀ {c}, isOuterChar c = false → ∀ rest : List Char,
      expandFrom owner [] (c :: rest) = c :: expandFrom owner [] rest := fun hc rest => by
    simp [expandFrom, hc, ho.standsFor_nil]
  have hopen : isOuterChar '[' = false := by decide
  have hclose : isOuterChar ']' = false := by decide
  induction h generalizing rest with
  | name h =>
    obtain ⟨hrow, hst⟩ := h.standsFor_printed ho
    rw [ho.expandFrom_row hrow hrest, List.nil_append, hst]
  | @array element _ ih =>
    have hb : "[]".toList = ['[', ']'] := by decide
    rw [printed, String.toList_append, hb, List.append_assoc, ih (by simp [hopen])]
    simp [hbracket hopen, hbracket hclose, text]
  | @applied outer argument hn _ ih =>
    obtain ⟨hrow, hst⟩ := hn.standsFor_printed ho
    have hb : "[".toList = ['['] := by decide
    have hb' : "]".toList = [']'] := by decide
    simp only [printed, String.toList_append, hb, hb', List.append_assoc, List.singleton_append]
    rw [List.cons_append, ho.expandFrom_row hrow (by simp [hopen]), hbracket hopen,
      List.nil_append, hst, ih (by simp [hclose]), hbracket hclose]
    simp [text]

/-- **Short names read back.** With every short name replaced by what it stands for, the printed
form of a written type is its text. -/
theorem expand_printed {owner : String → Option String} (ho : OnlySimple owner) {t : TypeName}
    (h : IsWritten t) : expand owner (t.printed owner) = String.ofList t.text := by
  have hexpand : expandFrom owner [] ((t.printed owner).toList ++ []) = t.text ++ [] := by
    rw [expandFrom_printed ho h (by simp), expandFrom, ho.standsFor_nil]
  rw [expand, ← List.append_nil (t.printed owner).toList, hexpand, List.append_nil]

/-- The uses of a written type have simple names, and their texts tell package and simple name. -/
theorem IsWritten.uses_split {t : TypeName} (h : IsWritten t) :
    ∀ u ∈ t.uses, isSimpleName u.simple.toList = true ∧ u.Splits := by
  have hname : ∀ {t}, IsName t → ∀ u ∈ t.uses, isSimpleName u.simple.toList = true ∧ u.Splits := by
    intro t h u hu
    cases h with
    | primitive _ => cases hu
    | qualified hne hp hs =>
      obtain rfl := List.mem_singleton.1 hu
      simpa [Use.Splits] using ⟨hs, splitQualified?_joinDots hne hp hs⟩
  induction h with
  | name h => exact hname h
  | array _ ih => exact ih
  | applied ho _ ih =>
    intro u hu
    rcases List.mem_append.1 hu with hu | hu
    · exact hname ho u hu
    · exact ih u hu

end TypeName

end TableInterfaces.Source
