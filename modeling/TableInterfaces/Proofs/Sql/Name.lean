import TableInterfaces.Proofs.Sql.Declaration
import TableInterfaces.Sql.Type

/-!
# Names of types

The name of a read type is the written name in lower case, with one space between its words
(`plainName`): how many spaces stand between them, and behind the last one, makes no difference.
Main statement:

* `typeName_trimmed`: the name of a read type has the words of the written name.
-/

namespace TableInterfaces.Sql

open TableInterfaces.Text

namespace Declaration

variable {c : Char} {cs : List Char} {d : Declaration}

/-! ## Words -/

/-- The words of a name: what stands between its spaces. -/
def words (name : List Char) : List (List Char) :=
  (name.splitOn ' ').filter (· ≠ [])

/-- A name in lower case, with one space between its words. -/
def plainName (name : List Char) : String :=
  String.ofList (List.intercalate [' '] (words (name.map Char.toLower)))

/-- Words split at a space. -/
theorem words_append_space (front back : List Char) :
    words (front ++ ' ' :: back) = words front ++ words back := by
  rw [words, List.splitOn_append_cons_self, List.filter_append, words, words]

/-- A space in front of a name belongs to no word. -/
theorem words_space (cs : List Char) : words (' ' :: cs) = words cs :=
  words_append_space [] cs

/-- Spaces hold no word. -/
theorem words_spaces {spaces : List Char} (h : ∀ c ∈ spaces, c = ' ') : words spaces = [] := by
  induction spaces with
  | nil => simp [words]
  | cons c spaces ih =>
    rw [h c List.mem_cons_self, words_space]
    exact ih fun e he => h e (List.mem_cons_of_mem c he)

/-- Spaces at the end of a name belong to no word. -/
theorem words_append_spaces {spaces : List Char} (h : ∀ c ∈ spaces, c = ' ') :
    words (cs ++ spaces) = words cs := by
  cases spaces with
  | nil => rw [List.append_nil]
  | cons c spaces =>
    rw [h c List.mem_cons_self, words_append_space,
      words_spaces fun e he => h e (List.mem_cons_of_mem c he), List.append_nil]

/-- A character other than a space is a word. -/
theorem words_singleton (hc : c ≠ ' ') : words [c] = [[c]] := by
  simp [words, List.splitOn_cons_eq_if_modifyHead, hc]

/-- A character in front of a space is a word. -/
theorem words_cons_space (hc : c ≠ ' ') (cs : List Char) :
    words (c :: ' ' :: cs) = [c] :: words cs := by
  have h := words_append_space [c] cs
  rwa [words_singleton hc] at h

/-- A character other than a space joins the word behind it. -/
theorem words_cons {e : Char} (hc : c ≠ ' ') (he : e ≠ ' ') (cs : List Char) :
    ∃ word rest, words (e :: cs) = word :: rest ∧ words (c :: e :: cs) = (c :: word) :: rest := by
  obtain ⟨word, rest, hsplit⟩ := List.exists_cons_of_ne_nil (List.splitOn_ne_nil ' ' cs)
  refine ⟨e :: word, rest.filter (· ≠ []), ?_, ?_⟩
  · simp [words, List.splitOn_cons_eq_if_modifyHead, he, hsplit]
  · simp [words, List.splitOn_cons_eq_if_modifyHead, hc, he, hsplit]

/-- A text of something else than spaces has a word. -/
theorem words_ne_nil (hmem : c ∈ cs) (hc : c ≠ ' ') : words cs ≠ [] := by
  intro hnil
  have hjoined : List.intercalate [' '] (cs.splitOn ' ') = cs := List.intercalate_splitOn ' '
  rw [← hjoined] at hmem
  rcases mem_of_mem_intercalate hmem with hspace | ⟨piece, hpiece, hin⟩
  · exact hc (List.mem_singleton.1 hspace)
  · have hword : piece ∈ words cs :=
      List.mem_filter.2 ⟨hpiece, by simpa using List.ne_nil_of_mem hin⟩
    rw [hnil] at hword
    cases hword

/-- Shrinking rows of spaces leaves the words with one space between them, and one in front if a
space stands there. -/
theorem squeezeSpaces_eq (h : ∀ c, cs.getLast? = some c → c ≠ ' ') : squeezeSpaces cs =
    (if cs.head? = some ' ' then [' '] else []) ++ List.intercalate [' '] (words cs) := by
  induction cs using squeezeSpaces.induct with
  | case1 =>
    rw [squeezeSpaces]
    rfl
  | case2 rest ih =>
    rw [squeezeSpaces, ih (by simpa using h), words_space (' ' :: rest)]
    rfl
  | case3 c rest hrow ih =>
    rw [squeezeSpaces.eq_3 c rest hrow]
    cases rest with
    | nil =>
      have hc : c ≠ ' ' := h c rfl
      rw [squeezeSpaces, words_singleton hc]
      simp [hc]
    | cons e more =>
      have hlast : ∀ c, (e :: more).getLast? = some c → c ≠ ' ' := by simpa using h
      rw [ih hlast]
      by_cases hc : c = ' '
      · have he : e ≠ ' ' := fun he => hrow more hc (by rw [he])
        rw [hc, words_space]
        simp [he]
      · by_cases he : e = ' '
        · obtain ⟨word, rest, hwords⟩ := List.exists_cons_of_ne_nil
            (words_ne_nil (List.getLast_mem (List.cons_ne_nil e more))
              (hlast _ (List.getLast?_eq_getLast_of_ne_nil _)))
          rw [he, words_space] at hwords
          rw [he, words_space, words_cons_space hc, hwords]
          simp [hc]
        · obtain ⟨word, rest, hwords, hjoined⟩ := words_cons hc he more
          rw [hwords, hjoined]
          cases rest <;> simp [hc, he]

/-! ## The name of a read type -/

/-- The name of a read type starts with a letter or an underscore. -/
theorem startsName_typeName (h : parse? cs = some d) :
    ∃ c more, (typeName d).toList = c :: more ∧ StartsName c := by
  obtain ⟨c, more, hname, hstart⟩ := name_of_parse? h
  have hstart := isNameStart_iff.1 hstart
  have hascii : c.toNat < 128 := StartsName.toNat_lt hstart
  have hlower : StartsName c.toLower ∧ c.toLower ≠ ' ' :=
    forall_ascii (P := fun c => StartsName c → StartsName c.toLower ∧ c.toLower ≠ ' ')
      (by decide +kernel) hascii hstart
  obtain ⟨rest, hrest⟩ : ∃ rest, lowerFrom false d.name = c.toLower :: rest := by
    rw [hname, lowerFrom_cons, lowerAt, if_neg (by omega), lowerChar, if_pos hascii]
    exact ⟨_, rfl⟩
  refine ⟨c.toLower, squeezeSpaces rest, ?_, hlower.1⟩
  rw [typeName, String.toList_ofList, hrest]
  exact squeezeSpaces.eq_3 _ _ fun _ hspace _ => hlower.2 hspace

/-- Only a space is a space in lower case. -/
theorem toLower_eq_space (h : c.toNat < 128) : c.toLower = ' ' ↔ c = ' ' :=
  forall_ascii (P := fun c => c.toLower = ' ' ↔ c = ' ') (by decide +kernel) h

/-- The name of a read type has the words of the written name. -/
theorem typeName_trimmed (hascii : IsAscii d.name) (hname : IsName d.name) :
    typeName d.trimmed = plainName d.name := by
  obtain ⟨name, first, second, isArray⟩ := d
  obtain ⟨spaces, hsplit, hspaces, hlast⟩ := exists_dropEndWhile (· == ' ') name
  rw [typeName, trimmed]
  dsimp only at hascii hname ⊢
  generalize dropEndWhile (· == ' ') name = kept at hsplit hlast ⊢
  subst hsplit
  obtain ⟨hkept, hascii⟩ := isAscii_append.1 hascii
  have hhead : (kept.map Char.toLower).head? ≠ some ' ' := by
    cases kept with
    | nil => simp
    | cons c more =>
      intro hc
      rw [List.map_cons, List.head?_cons, Option.some_inj,
        toLower_eq_space (hkept c List.mem_cons_self)] at hc
      exact absurd hname.1 (by rw [hc]; decide)
  have hlast : ∀ c, (kept.map Char.toLower).getLast? = some c → c ≠ ' ' := by
    intro c hc hspace
    rw [List.getLast?_map, Option.map_eq_some_iff] at hc
    obtain ⟨e, he, rfl⟩ := hc
    rw [toLower_eq_space (hkept e (List.mem_of_getLast? he))] at hspace
    exact absurd (hlast e he) (by simp [hspace])
  have hspaces : ∀ c ∈ spaces.map Char.toLower, c = ' ' := by
    intro c hc
    obtain ⟨e, he, rfl⟩ := List.mem_map.1 hc
    exact (toLower_eq_space (hascii e he)).2 (beq_iff_eq.1 (hspaces e he))
  rw [lowerFrom_ascii hkept, squeezeSpaces_eq hlast, if_neg hhead, plainName, List.map_append,
    words_append_spaces hspaces]
  rfl

end Declaration

end TableInterfaces.Sql
