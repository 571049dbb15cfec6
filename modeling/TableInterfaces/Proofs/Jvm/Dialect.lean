import Mathlib.Data.List.Chain
import TableInterfaces.Proofs.Jvm.TypeMap

/-!
# Types in both dialects

The two dialects write the same types. They differ in arrays and in the type of a single byte, and
`traitName` is the translation from one way of writing to the other. Main statement:

* `TypeMap.mapType_dialects`: maps that differ in their dialect stop at the same types, give the
  same hints, and name the same types up to the translation.
-/

namespace TableInterfaces.Jvm

open TableInterfaces.Json
open TableInterfaces.Source
open TableInterfaces.Sql
open TableInterfaces.Text

/-! ## Translation of names -/

/-- The type of a byte in the dialect of interfaces. -/
def byteWord : String := "byte"

/-- The type of a byte in the dialect of traits. -/
def scalaByte : String := "scala.Byte"

/-- The start of an array type in the dialect of traits, in front of the element type. -/
def arrayStart : String := "scala.Array["

/-- A type of the dialect of interfaces as the dialect of traits writes it: brackets at the end are
an array, whatever its elements are. -/
def traitForm (cs : List Char) : List Char :=
  match _h : TypeName.elementOf? cs with
  | some element => arrayStart.toList ++ traitForm element ++ [']']
  | none => if cs = byteWord.toList then scalaByte.toList else cs
termination_by cs.length
decreasing_by exact TypeName.length_of_elementOf? ‹_›

/-- A type name of the dialect of interfaces as the dialect of traits writes it. -/
def traitName (name : String) : String :=
  String.ofList (traitForm name.toList)

/-- An array is translated by its element type. -/
theorem traitName_array (element : String) :
    traitName (element ++ "[]") = arrayStart ++ traitName element ++ "]" := by
  have helement : TypeName.elementOf? (element ++ "[]").toList = some element.toList := by
    simp [TypeName.elementOf?]
  refine String.toList_injective ?_
  rw [traitName, traitForm]
  split
  · rename_i heq
    cases helement.symm.trans heq
    simp [traitName]
  · rename_i hnone
    cases helement.symm.trans hnone

/-- A name that neither ends in brackets nor is the type of a byte stays. -/
theorem traitName_of_plain {name : String} (h : TypeName.elementOf? name.toList = none)
    (hbyte : name ≠ byteWord) : traitName name = name := by
  rw [traitName, traitForm]
  split
  · rename_i heq
    cases h.symm.trans heq
  · rw [if_neg fun heq => hbyte (String.toList_injective heq), String.ofList_toList]

/-! ## Names without pairs of brackets -/

/-- No opening bracket of a name has a closing one right behind it, and none would get one where the
name is the element type of an array of the dialect of traits. -/
structure IsUnpaired (name : String) : Prop where
  ne_empty : name ≠ ""
  start : ∀ c ∈ name.toList.head?, c ≠ ']'
  finish : ∀ c ∈ name.toList.getLast?, c ≠ '['
  chain : name.toList.IsChain fun c d => ¬(c = '[' ∧ d = ']')

/-- The brackets of an array of the dialect of interfaces are no part of such a name. -/
theorem IsUnpaired.no_brackets {name : String} (h : IsUnpaired name) :
    ¬ "[]".toList <:+: name.toList := by
  rintro ⟨front, back, hname⟩
  rw [List.append_assoc] at hname
  exact List.isChain_iff_forall_rel_of_append_cons_cons.1 h.chain hname.symm ⟨rfl, rfl⟩

/-- A name without any brackets. -/
theorem IsUnpaired.of_plain {name : String} (hne : name ≠ "") (hopen : '[' ∉ name.toList)
    (hclose : ']' ∉ name.toList) : IsUnpaired name where
  ne_empty := hne
  start c hc heq := hclose (heq ▸ List.mem_of_mem_head? hc)
  finish c hc heq := hopen (heq ▸ List.mem_of_mem_getLast? hc)
  chain := List.isChain_iff_forall_rel_of_append_cons_cons.2 fun c d front back hname hpair =>
    hopen (hpair.1 ▸ hname ▸ by simp)

/-- An array of the dialect of traits. -/
theorem IsUnpaired.array {name : String} (h : IsUnpaired name) :
    IsUnpaired (arrayStart ++ name ++ "]") := by
  have hlist : (arrayStart ++ name ++ "]").toList = arrayStart.toList ++ (name.toList ++ [']']) := by
    simp
  refine ⟨fun hnil => ?_, ?_, ?_, ?_⟩
  · rw [← String.toList_eq_nil_iff, hlist] at hnil
    simp at hnil
  · rw [hlist]
    rintro c ⟨⟩
    decide
  · rw [hlist, ← List.append_assoc, List.getLast?_concat]
    rintro c ⟨⟩
    decide
  · rw [hlist, List.isChain_append, List.isChain_append]
    refine ⟨by decide, ⟨h.chain, .singleton _, fun c hc d hd hpair => h.finish c hc hpair.1⟩,
      fun c hc d hd hpair => ?_⟩
    rw [List.head?_append_of_ne_nil _ (by simpa using h.ne_empty)] at hd
    exact h.start d hd hpair.2

/-! ## Types of elements -/

/-- A name that is qualified by a package holds a dot, and no brackets. -/
def IsQualified (name : String) : Prop :=
  '.' ∈ name.toList ∧ '[' ∉ name.toList ∧ ']' ∉ name.toList

instance (name : String) : Decidable (IsQualified name) :=
  inferInstanceAs (Decidable (_ ∧ _ ∧ _))

namespace IsQualified

variable {name : String}

theorem ne_empty (h : IsQualified name) : name ≠ "" := by
  rintro rfl
  cases h.1

/-- A qualified name is written alike in both dialects. -/
theorem traitName_eq (h : IsQualified name) : traitName name = name := by
  refine traitName_of_plain ?_ ?_
  · unfold TypeName.elementOf?
    split
    · rename_i hend
      have hmem : ']' ∈ name.toList := List.mem_reverse.1 (hend ▸ List.mem_cons_self)
      exact absurd hmem h.2.2
    · rfl
  · rintro rfl
    exact absurd h.1 (by decide)

end IsQualified

/-- What the element of a type is mapped to: a qualified name, or binary data. -/
def IsElement (name : String) : Prop :=
  IsQualified name ∨ name = byteArray

instance (name : String) : Decidable (IsElement name) :=
  inferInstanceAs (Decidable (_ ∨ _))

/-- The type of a byte in both dialects. -/
theorem traitName_byte : traitName byteWord = scalaByte := by
  rw [traitName, traitForm]
  rfl

/-- An element type in the dialect of traits is the translation of its name. -/
theorem IsElement.inDialect {name : String} (h : IsElement name) :
    TypeMap.inDialect .traits (.text name) = .text (traitName name) ∧
      IsUnpaired (traitName name) := by
  rcases h with h | rfl
  · have hbinary : name ≠ byteArray := by
      rintro rfl
      exact absurd h (by decide)
    rw [h.traitName_eq]
    exact ⟨by simp [TypeMap.inDialect, hbinary], .of_plain h.ne_empty h.2.1 h.2.2⟩
  · have hname : traitName byteArray = scalaByteArray := by
      rw [show byteArray = byteWord ++ "[]" from rfl, traitName_array, traitName_byte]
      rfl
    rw [hname]
    exact ⟨rfl, .array (.of_plain (by decide) (by decide) (by decide) : IsUnpaired scalaByte)⟩

/-- The types of the tables are elements. -/
theorem sqlTypes_elements : ∀ entry ∈ sqlTypes, IsElement entry.2 := by
  decide +kernel

/-- The type of an exact number is an element. -/
theorem exactNumeric_element (precision scale : Option Int) :
    IsElement (exactNumeric precision scale) := by
  have hwhole : ∀ bound ∈ wholeTypes, IsElement bound.2 := by decide
  unfold exactNumeric
  split
  · decide
  · split
    · decide
    · split
      · rename_i hbound
        exact hwhole _ (List.mem_of_find?_eq_some hbound)
      · decide

namespace TypeMap

variable {map : TypeMap} {type : SqlType}

/-- The same map in a dialect. -/
def within (map : TypeMap) (dialect : Dialect) : TypeMap :=
  { map with dialect }

/-- The types that a map is given are qualified names: those of the overrides, the interfaces of
UDTs, and the fallback type. -/
structure Qualified (map : TypeMap) : Prop where
  overrides : ∀ field ∈ map.overrides, ∃ name, field.2 = .text name ∧ IsQualified name
  interfaces : ∀ field ∈ map.interfaces, IsQualified field.2
  fallback : IsQualified map.fallback

/-- What is found in a list is the value of one of its fields. -/
theorem exists_field_of_lookup {α : Type} {fields : List (String × α)} {key : String} {value : α}
    (h : fields.lookup key = some value) : ∃ field ∈ fields, field.2 = value := by
  obtain ⟨front, back, hfields, -⟩ := List.lookup_eq_some_iff.1 h
  exact ⟨(key, value), by simp [hfields], rfl⟩

/-- Every place of a map is the name of an element. -/
theorem Qualified.place (h : map.Qualified) {name : Value} (hplace : map.place type = .ok name) :
    ∃ text, name = .text text ∧ IsElement text := by
  unfold TypeMap.place at hplace
  split at hplace
  · rename_i hfound
    cases hplace
    obtain ⟨field, hfield, rfl⟩ := exists_field_of_lookup hfound
    obtain ⟨text, htext, hqualified⟩ := h.overrides field hfield
    exact ⟨text, htext, .inl hqualified⟩
  · split at hplace
    · split at hplace
      · rename_i hfound
        split at hplace
        · cases hplace
        · cases hplace
          obtain ⟨field, hfield, rfl⟩ := exists_field_of_lookup hfound
          exact ⟨_, rfl, .inl (h.interfaces field hfield)⟩
      · cases hplace
    · split at hplace
      · cases hplace
        exact ⟨_, rfl, exactNumeric_element _ _⟩
      · split at hplace
        · rename_i hfound
          cases hplace
          obtain ⟨field, hfield, rfl⟩ := exists_field_of_lookup hfound
          exact ⟨_, rfl, sqlTypes_elements field hfield⟩
        · cases hplace

/-- A map stops at a type without a place, or gives it the name of an element. -/
theorem Qualified.mapElement_cases (h : map.Qualified) (type : SqlType) (context : String) :
    (∃ subject reason, map.mapElement type context = .error (.unmappedType subject reason)) ∨
      ∃ name hints, map.mapElement type context = .ok ⟨.text name, hints⟩ ∧ IsElement name := by
  rw [mapElement_eq]
  cases hplace : map.place type with
  | ok name =>
    obtain ⟨text, rfl, htext⟩ := h.place hplace
    exact .inr ⟨text, [], rfl, htext⟩
  | error reason =>
    dsimp only [fallBack]
    cases map.strict with
    | true => exact .inl ⟨_, reason, rfl⟩
    | false => exact .inr ⟨map.fallback, _, rfl, .inl h.fallback⟩

/-- The element of a type does not depend on the dialect. -/
theorem mapElement_within (dialect : Dialect) (type : SqlType) (context : String) :
    (map.within dialect).mapElement type context = map.mapElement type context := rfl

/-- A type is named in the dialect of traits as the translation of its name in the other. -/
theorem mapType_of_element {context name : String} {hints : List String}
    (h : map.mapElement type context = .ok ⟨.text name, hints⟩) (hname : IsElement name) :
    ∃ written, (map.within .interfaces).mapType type context = .ok ⟨.text written, hints⟩ ∧
      (map.within .traits).mapType type context = .ok ⟨.text (traitName written), hints⟩ ∧
      IsUnpaired (traitName written) := by
  obtain ⟨htraits, hunpaired⟩ := hname.inDialect
  unfold mapType
  rw [mapElement_within, mapElement_within, h, Result.ok_bind, Result.ok_bind]
  dsimp only [within]
  rw [htraits]
  cases type.isArray with
  | false => exact ⟨name, rfl, rfl, hunpaired⟩
  | true =>
    refine ⟨name ++ "[]", rfl, ?_, ?_⟩
    · rw [traitName_array]
      rfl
    · rw [traitName_array]
      exact hunpaired.array

/-- **Types in both dialects.** Let the overrides, the interfaces of UDTs and the fallback type of a
map be qualified names. For every type the map stops in both dialects, at the same type for the same
reason, or in neither. Then the hints are the same, the name in the dialect of traits is the
translation of the name in the dialect of interfaces, and it holds no pair of brackets. -/
theorem mapType_dialects (h : map.Qualified) (type : SqlType) (context : String) :
    (∃ subject reason,
      (map.within .interfaces).mapType type context = .error (.unmappedType subject reason) ∧
      (map.within .traits).mapType type context = .error (.unmappedType subject reason)) ∨
    ∃ name hints, (map.within .interfaces).mapType type context = .ok ⟨.text name, hints⟩ ∧
      (map.within .traits).mapType type context = .ok ⟨.text (traitName name), hints⟩ ∧
      ¬ "[]".toList <:+: (traitName name).toList := by
  rcases h.mapElement_cases type context with ⟨subject, reason, herror⟩ | ⟨name, hints, hok, hname⟩
  · refine .inl ⟨subject, reason, ?_, ?_⟩
    all_goals
      rw [mapType, mapElement_within, herror]
      rfl
  · obtain ⟨written, hinterfaces, htraits, hunpaired⟩ := mapType_of_element hok hname
    exact .inr ⟨written, hints, hinterfaces, htraits, hunpaired.no_brackets⟩

/-- A map with an override and a UDT. -/
def shipping : TypeMap where
  dialect := .interfaces
  overrides := [("citext", .text "java.lang.String")]
  interfaces := [("sales.address", "org.example.sales.IAddress")]

/-- Rows of binary data are arrays of arrays in both dialects. -/
theorem shipping_dialects : shipping.Qualified ∧ ∃ name hints,
    (shipping.within .interfaces).mapType { name := "bytea", isArray := true } "" =
      .ok ⟨.text name, hints⟩ ∧
    (shipping.within .traits).mapType { name := "bytea", isArray := true } "" =
      .ok ⟨.text (traitName name), hints⟩ ∧
    name = "byte[][]" ∧ traitName name = "scala.Array[scala.Array[scala.Byte]]" := by
  have hqualified : shipping.Qualified :=
    ⟨List.forall_mem_singleton.2 ⟨_, rfl, by decide⟩, by decide, by decide⟩
  have hinterfaces : (shipping.within .interfaces).mapType { name := "bytea", isArray := true } "" =
      .ok ⟨.text "byte[][]", []⟩ := by rfl
  have htraits : (shipping.within .traits).mapType { name := "bytea", isArray := true } "" =
      .ok ⟨.text "scala.Array[scala.Array[scala.Byte]]", []⟩ := by rfl
  rcases mapType_dialects hqualified { name := "bytea", isArray := true } "" with
    ⟨_, _, herror, -⟩ | ⟨name, hints, hname, hform, -⟩
  · cases hinterfaces.symm.trans herror
  · have hfirst := Except.ok.inj (hname.symm.trans hinterfaces)
    have hsecond := Except.ok.inj (hform.symm.trans htraits)
    exact ⟨hqualified, name, hints, hname, hform, Value.text.inj (congrArg JvmType.name hfirst),
      Value.text.inj (congrArg JvmType.name hsecond)⟩

end TypeMap

end TableInterfaces.Jvm
