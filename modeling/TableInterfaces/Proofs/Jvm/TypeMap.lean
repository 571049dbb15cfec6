import TableInterfaces.Jvm.TypeMap
import TableInterfaces.Proofs.Json.Fields
import TableInterfaces.Proofs.Result

/-!
# Types without a place

The mapping of types falls back at three places, and a strict map stops there instead.
`TypeMap.place` says what a type is mapped to or why it has no place, and does not read whether the
map is strict (`TypeMap.mapElement_eq`). Main statements:

* `TypeMap.fallsBack_iff`: a lenient map falls back for a member just where its type has no place.
* `TypeMap.ofMember_strictly_eq` and `TypeMap.ofMember_strictly_error`: a strict map agrees with the
  lenient one on types with a place, and stops at a type without.
-/

namespace TableInterfaces.Jvm.TypeMap

open TableInterfaces.Json
open TableInterfaces.Sql

/-! ## Overrides -/

/-- Overrides that are all texts are read as texts. -/
theorem readOverrides_texts {fields : List (String × Value)}
    (h : ∀ field ∈ fields, field.2.kind = .text) : ∃ overrides,
    readOverrides (.object fields) = .ok overrides ∧
      ∀ field ∈ overrides, field.2.kind = .text := by
  refine ⟨_, rfl, fun field hfield => ?_⟩
  obtain ⟨original, horiginal, rfl⟩ :=
    List.mem_map.1 ((mem_merge hfield).resolve_left List.not_mem_nil)
  exact h original horiginal

/-! ## Places -/

/-- What the element of a type is mapped to, or why it has no place in the map. -/
def place (map : TypeMap) (type : SqlType) : Except String Value :=
  match map.overrides.lookup type.name with
  | some name => .ok name
  | none =>
    match type.udt with
    | some udt =>
      match map.interfaces.lookup udt with
      | some interface =>
        if interface == "" then .error ("unknown UDT '" ++ udt ++ "'") else .ok (.text interface)
      | none => .error ("unknown UDT '" ++ udt ++ "'")
    | none =>
      if type.name == "numeric" || type.name == "decimal" then
        .ok (.text (exactNumeric type.precision type.scale))
      else
        match sqlTypes.lookup type.name with
        | some name => .ok (.text name)
        | none => .error ("unsupported type '" ++ type.name ++ "'")

/-- The element of a type is mapped to its place without a hint, or falls back. -/
theorem mapElement_eq (map : TypeMap) (type : SqlType) (context : String) :
    map.mapElement type context =
      match map.place type with
      | .ok name => .ok ⟨name, []⟩
      | .error reason => map.fallBack type context reason := by
  unfold mapElement place mapUdt mapBuiltin
  cases map.overrides.lookup type.name with
  | some name => rfl
  | none =>
    cases type.udt with
    | some udt =>
      dsimp only
      cases map.interfaces.lookup udt with
      | none => rfl
      | some interface =>
        dsimp only
        cases interface == "" <;> rfl
    | none =>
      dsimp only
      cases type.name == "numeric" || type.name == "decimal" with
      | true => rfl
      | false => cases sqlTypes.lookup type.name <;> rfl

/-! ## Members -/

/-- How a member is called in hints and errors: by its qualified name, or by its type where that is
empty. -/
def subject (m : Member) : String :=
  if m.qualifiedName == "" then m.type.name else m.qualifiedName

/-- The hint about a member whose type has no place. -/
def hint (map : TypeMap) (m : Member) (reason : String) : String :=
  subject m ++ ": " ++ reason ++ ", using " ++ map.fallback

/-- The type of a member is mapped by falling back, for a reason. -/
def FallsBack (map : TypeMap) (m : Member) (reason : String) : Prop :=
  map.mapElement m.type m.qualifiedName = map.fallBack m.type m.qualifiedName reason

/-- The map that stops at types without a place. -/
def strictly (map : TypeMap) : TypeMap :=
  { map with strict := true }

variable {map : TypeMap} {m : Member} {reason : String}

/-- The type of a member depends on the interface of the UDT that it refers to and on no other. -/
theorem ofMember_congr {other : TypeMap} (hdialect : other.dialect = map.dialect)
    (hstrict : other.strict = map.strict) (hfallback : other.fallback = map.fallback)
    (hoverrides : other.overrides = map.overrides)
    (hinterfaces : ∀ udt, m.type.udt = some udt →
      other.interfaces.lookup udt = map.interfaces.lookup udt) :
    other.ofMember m = map.ofMember m := by
  have hplace : other.place m.type = map.place m.type := by
    unfold place
    rw [hoverrides]
    cases hudt : m.type.udt with
    | none => rfl
    | some udt =>
      dsimp only
      rw [hinterfaces udt hudt]
  simp only [ofMember, mapType, mapElement_eq, fallBack, hplace, hdialect, hstrict, hfallback]

/-- A place is a text where all overrides are. -/
theorem place_text (h : ∀ field ∈ map.overrides, field.2.kind = .text) {type : SqlType}
    {name : Value} (hplace : map.place type = .ok name) : name.kind = .text := by
  unfold place at hplace
  split at hplace
  · rename_i hfound
    cases hplace
    obtain ⟨front, back, hfields, -⟩ := List.lookup_eq_some_iff.1 hfound
    exact h (type.name, name) (hfields ▸ List.mem_append_right _ List.mem_cons_self)
  · split at hplace
    · split at hplace
      · split at hplace <;> cases hplace
        rfl
      · cases hplace
    · split at hplace
      · cases hplace
        rfl
      · split at hplace <;> cases hplace
        rfl

/-- The form of a dialect leaves a text a text, and arrays are texts. -/
theorem formed_text {name : Value} (h : name.kind = .text) (dialect : Source.Dialect)
    (isArray : Bool) :
    (if isArray then arrayOf dialect (inDialect dialect name) else inDialect dialect name).kind =
      .text := by
  cases isArray with
  | true => cases dialect <;> rfl
  | false =>
    cases name with
    | text s =>
      cases dialect with
      | interfaces => rfl
      | traits =>
        change (if s == byteArray then Value.text scalaByteArray else .text s).kind = .text
        split <;> rfl
    | _ => cases h

/-- A lenient map gives every member a text for its type where all overrides are texts. -/
theorem ofMember_text (hstrict : map.strict = false)
    (h : ∀ field ∈ map.overrides, field.2.kind = .text) (m : Member) :
    ∃ type, map.ofMember m = .ok type ∧ type.name.kind = .text := by
  have helement : ∃ element, map.mapElement m.type m.qualifiedName = .ok element ∧
      element.name.kind = .text := by
    rw [mapElement_eq]
    cases hplace : map.place m.type with
    | ok name => exact ⟨_, rfl, place_text h hplace⟩
    | error reason =>
      dsimp only
      rw [fallBack, hstrict]
      exact ⟨_, rfl, rfl⟩
  obtain ⟨element, helement, htext⟩ := helement
  unfold ofMember mapType
  rw [helement]
  exact ⟨_, rfl, formed_text htext _ _⟩

/-- Where all overrides are texts, a map gives a member a text for its type, or is strict and stops
since the type has no place. -/
theorem ofMember_cases (h : ∀ field ∈ map.overrides, field.2.kind = .text) (m : Member) :
    (∃ type, map.ofMember m = .ok type ∧ type.name.kind = .text) ∨
      map.strict = true ∧ ∃ reason, map.place m.type = .error reason ∧
        map.ofMember m = .error (.unmappedType (subject m) reason) := by
  cases hstrict : map.strict with
  | false => exact .inl (ofMember_text hstrict h m)
  | true =>
    unfold ofMember mapType
    rw [mapElement_eq]
    cases hplace : map.place m.type with
    | ok name => exact .inl ⟨_, rfl, formed_text (place_text h hplace) _ _⟩
    | error reason =>
      refine .inr ⟨rfl, reason, rfl, ?_⟩
      dsimp only
      rw [fallBack, hstrict]
      rfl

/-- A lenient map falls back with the hint about the member. -/
theorem fallBack_lenient (h : map.strict = false) (m : Member) (reason : String) :
    map.fallBack m.type m.qualifiedName reason =
      .ok ⟨.text map.fallback, [map.hint m reason]⟩ := by
  rw [fallBack, h]
  rfl

/-- A lenient map falls back just for the members whose types have no place. -/
theorem fallsBack_iff (h : map.strict = false) :
    map.FallsBack m reason ↔ map.place m.type = .error reason := by
  unfold FallsBack
  rw [mapElement_eq]
  cases map.place m.type with
  | ok name => simp [fallBack_lenient h]
  | error cause => simp [fallBack_lenient h, hint]

/-- A member that does not fall back has a place. -/
theorem exists_place (h : map.strict = false) (hm : ∀ reason, ¬map.FallsBack m reason) :
    ∃ name, map.place m.type = .ok name := by
  cases hplace : map.place m.type with
  | ok name => exact ⟨name, rfl⟩
  | error reason => exact absurd ((fallsBack_iff h).2 hplace) (hm reason)

/-- A strict map agrees with the lenient one on a member whose type has a place. -/
theorem ofMember_strictly_eq (h : map.strict = false) (hm : ∀ reason, ¬map.FallsBack m reason) :
    map.strictly.ofMember m = map.ofMember m := by
  obtain ⟨name, hname⟩ := exists_place h hm
  have hstrict : map.strictly.place m.type = .ok name := hname
  simp only [ofMember, mapType, mapElement_eq, hname, hstrict]
  rfl

/-- A member that does not fall back leaves no hint. -/
theorem ofMember_no_hints (h : map.strict = false) (hm : ∀ reason, ¬map.FallsBack m reason)
    {type : JvmType} (htype : map.ofMember m = .ok type) : type.hints = [] := by
  obtain ⟨name, hname⟩ := exists_place h hm
  simp only [ofMember, mapType, mapElement_eq, hname] at htype
  cases htype
  rfl

/-- A member that falls back leaves the hint about it. -/
theorem ofMember_hints (h : map.strict = false) (hm : map.FallsBack m reason) {type : JvmType}
    (htype : map.ofMember m = .ok type) : type.hints = [map.hint m reason] := by
  unfold ofMember mapType at htype
  rw [hm, fallBack_lenient h] at htype
  cases htype
  rfl

/-- A strict map stops at a member for which the lenient one falls back. -/
theorem ofMember_strictly_error (h : map.strict = false) (hm : map.FallsBack m reason) :
    map.strictly.ofMember m = .error (.unmappedType (subject m) reason) := by
  have hplace : map.strictly.place m.type = .error reason := (fallsBack_iff h).1 hm
  simp only [ofMember, mapType, mapElement_eq, hplace]
  rfl

end TableInterfaces.Jvm.TypeMap
