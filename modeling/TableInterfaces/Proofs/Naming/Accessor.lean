import TableInterfaces.Naming.Interface
import TableInterfaces.Proofs.Naming.Shape

/-!
# Names of accessors and packages

An accessor is a verb and the sanitized name of a member. The only reserved word that starts with a
verb is the inherited `getClass`, so only the getter of a member that is sanitized to `Class` gets
an underscore, and no other accessor ends with one. Main statements:

* `InterfaceNames.accessor_text`: the accessor of a member that has a text for its name.
* `InterfaceNames.accessorText_inj`: members with the same accessor have the same sanitized name.
* `InterfaceNames.names_valid`: the names of interfaces, accessors and packages.
-/

namespace TableInterfaces.Naming

open TableInterfaces.Json

/-- A letter, and behind it letters, digits and underscores, that are no keyword together: an
identifier in both languages. -/
structure IsIdentifier (name : String) : Prop where
  shape : ∃ c rest, name.toList = c :: rest ∧ c.isAlpha = true ∧
    ∀ d ∈ rest, d.isAlphanum = true ∨ d = '_'
  free : name ∉ jvmKeywords

namespace InterfaceNames

/-- The accessor of a member that starts with `verb`, by the displayed name of the member. -/
def accessorText (verb : String) (m : Member) : String :=
  jvmWords.resolve (verb ++ jvmWords.sanitize m.name.display "_") "_"

/-- A member that has a text for its name has accessors. -/
theorem accessor_text (names : InterfaceNames) (verb : String) {m : Member}
    (h : m.name.kind = .text) : names.accessor verb m = .ok (accessorText verb m) := by
  have hname : names.className m.name = .ok (jvmWords.sanitize m.name.display "_") := by
    cases hv : m.name with
    | text s => rfl
    | _ => rw [hv] at h; cases h
  rw [accessor, hname]
  rfl

/-- An accessor that is reserved is the inherited one. -/
theorem reserved_accessor {verb name : String} (hverb : verb ∈ accessorVerbs)
    (h : jvmWords.contains (verb ++ name) = true) : verb ++ name = "getClass" :=
  (isReservedForm h).verb verb hverb (by simp)

/-- An accessor is a verb and a name, with an underscore behind the inherited one. -/
theorem accessorText_cases {verb : String} (hverb : verb ∈ accessorVerbs) (m : Member) :
    accessorText verb m = verb ++ jvmWords.sanitize m.name.display "_" ∨
      (verb ++ jvmWords.sanitize m.name.display "_" = "getClass" ∧
        accessorText verb m = "getClass_") := by
  unfold accessorText ReservedWords.resolve
  split
  · rename_i hreserved
    have hclass := reserved_accessor hverb hreserved
    exact .inr ⟨hclass, by rw [hclass]; rfl⟩
  · exact .inl rfl

/-- A verb and a name do not end with an underscore. -/
theorem accessor_ends (verb name : String) :
    (verb ++ jvmWords.sanitize name "_").toList.getLast? ≠ some '_' := by
  rw [String.toList_append]
  exact (hasShape_sanitize name).ends rfl rfl verb.toList

/-- **Members with the same accessor have the same sanitized name.** -/
theorem accessorText_inj {verb : String} (hverb : verb ∈ accessorVerbs) {m m' : Member} :
    accessorText verb m = accessorText verb m' ↔
      jvmWords.sanitize m.name.display "_" = jvmWords.sanitize m'.name.display "_" := by
  refine ⟨fun h => (String.append_right_inj verb).1 ?_, fun h => by
    rw [accessorText, accessorText, h]⟩
  have hends : ∀ n : Member, verb ++ jvmWords.sanitize n.name.display "_" ≠ "getClass_" :=
    fun n heq => accessor_ends verb n.name.display (by rw [heq]; rfl)
  rcases accessorText_cases hverb m with hm | ⟨hclass, hm⟩ <;>
    rcases accessorText_cases hverb m' with hm' | ⟨hclass', hm'⟩ <;> rw [hm, hm'] at h
  · exact h
  · exact absurd h (hends m)
  · exact absurd h.symm (hends m')
  · exact hclass.trans hclass'.symm

/-- Members have the same setter just where they have the same getter. -/
theorem setterText_eq_iff (m m' : Member) :
    accessorText "set" m = accessorText "set" m' ↔ accessorText "get" m = accessorText "get" m' :=
  (accessorText_inj (by simp [accessorVerbs])).trans
    (accessorText_inj (by simp [accessorVerbs])).symm

/-- Behind the verb of an accessor stand letters, digits and underscores. -/
theorem accessorText_starts (verb : String) (m : Member) :
    ∃ rest, accessorText verb m = verb ++ rest ∧
      ∀ d ∈ rest.toList, d.isAlphanum = true ∨ d = '_' := by
  have hname : ∀ d ∈ (jvmWords.sanitize m.name.display "_").toList, d.isAlphanum = true ∨ d = '_' :=
    (hasShape_sanitize m.name.display).forall_mem
      (fun c hc => .inl (by simp [Char.isAlphanum, Char.isAlpha, hc])) (fun _ => .inl) (.inr rfl)
      fun c hc => .inl (by simp [Char.isAlphanum, hc])
  unfold accessorText ReservedWords.resolve
  split
  · refine ⟨jvmWords.sanitize m.name.display "_" ++ "_", String.append_assoc, ?_⟩
    rw [String.toList_append]
    exact List.forall_mem_append.2 ⟨hname, List.forall_mem_singleton.2 (.inr rfl)⟩
  · exact ⟨_, rfl, hname⟩

/-- No setter is a getter. -/
theorem setterText_ne_getterText (m m' : Member) :
    accessorText "set" m ≠ accessorText "get" m' := by
  obtain ⟨setter, hsetter, -⟩ := accessorText_starts "set" m
  obtain ⟨getter, hgetter, -⟩ := accessorText_starts "get" m'
  rw [hsetter, hgetter, ne_eq, ← String.toList_inj, String.toList_append, String.toList_append]
  exact fun h => absurd (List.cons.inj h).1 (by decide)

/-- An accessor is an identifier, and not the inherited one. -/
theorem isIdentifier_accessorText {verb : String} (hverb : verb ∈ accessorVerbs) (m : Member) :
    IsIdentifier (accessorText verb m) ∧ accessorText verb m ≠ "getClass" := by
  have hfree : jvmWords.contains (accessorText verb m) = false := not_contains_resolve _
  refine ⟨⟨?_, notMem_jvmKeywords hfree⟩, fun heq => by rw [heq] at hfree; cases hfree⟩
  have hletters : ∃ c rest, verb.toList = c :: rest ∧ c.isAlpha = true ∧
      ∀ d ∈ rest, d.isAlphanum = true ∨ d = '_' := by
    rcases List.mem_pair.1 hverb with rfl | rfl
    · exact ⟨'s', ['e', 't'], rfl, rfl, by simp⟩
    · exact ⟨'g', ['e', 't'], rfl, rfl, by simp⟩
  obtain ⟨c, rest, hcs, hc, hrest⟩ := hletters
  obtain ⟨name, heq, hname⟩ := accessorText_starts verb m
  exact ⟨c, rest ++ name.toList, by rw [heq, String.toList_append, hcs, List.cons_append], hc,
    List.forall_mem_append.2 ⟨hrest, hname⟩⟩

/-- **The names of interfaces, accessors and packages.** Whatever text is a name, the class name has
a capital at its start, or an underscore and a digit, and behind it letters and digits; the
accessors are identifiers, and none is the inherited one; the package segment has a small letter at
its start, or an underscore and a digit, and behind it small letters, digits and underscores, is no
keyword, and is the segment of itself. -/
theorem names_valid (names : InterfaceNames) (s : String) (m : Member) :
    (∃ name, names.className (.text s) = .ok name ∧
      HasShape Char.isUpper Char.isAlphanum name.toList) ∧
    (∃ setter getter, names.setter { m with name := .text s } = .ok setter ∧
      names.getter { m with name := .text s } = .ok getter ∧
      ∀ accessor ∈ [setter, getter], IsIdentifier accessor ∧ accessor ≠ "getClass") ∧
    ∃ segment, schemaSegment (.text s) = .ok segment ∧
      HasShape Char.isLower isSegmentChar segment.toList ∧ segment ∉ jvmKeywords ∧
      schemaSegment (.text segment) = .ok segment := by
  refine ⟨⟨_, rfl, hasShape_sanitize s⟩, ?_, jvmWords.segment s, rfl, hasShape_segment s, ?_, ?_⟩
  · refine ⟨_, _, accessor_text names "set" rfl, accessor_text names "get" rfl, ?_⟩
    simp only [List.forall_mem_cons, List.not_mem_nil, false_imp_iff, implies_true, and_true]
    exact ⟨isIdentifier_accessorText (by simp [accessorVerbs]) _,
      isIdentifier_accessorText (by simp [accessorVerbs]) _⟩
  · exact notMem_jvmKeywords (not_contains_resolve _)
  · obtain ⟨word, hword, heq⟩ := segment_cases s
    rw [schemaSegment, heq, segment_resolve hword]

end InterfaceNames

end TableInterfaces.Naming
