import TableInterfaces.Entity.Basic

/-!
# Kinds of an entity's values

An entity keeps names and comments as a document gives them. `Entity.WellTyped` says that they are
of the kinds that printing an interface asks for: names, schemas and supertypes are texts, and
comments are texts or missing.
-/

namespace TableInterfaces

open TableInterfaces.Json

/-- A comment is a text or missing. -/
def IsComment (v : Value) : Prop :=
  v.kind = .null ∨ v.kind = .text

/-- The name and the comment of a member are of the kinds that printing asks for. -/
structure Member.WellTyped (m : Member) : Prop where
  name : m.name.kind = .text
  comment : IsComment m.comment

/-- The names, the comments and the supertypes of an entity are of the kinds that printing asks for.
-/
structure Entity.WellTyped (e : Entity) : Prop where
  name : e.name.kind = .text
  schema : e.schema.kind = .text
  comment : IsComment e.comment
  members : ∀ m ∈ e.members, m.WellTyped
  supertypes : ∀ v ∈ e.supertypes, v.kind = .text

instance (v : Value) : Decidable (IsComment v) :=
  inferInstanceAs (Decidable (_ ∨ _))

instance (m : Member) : Decidable m.WellTyped :=
  decidable_of_iff (m.name.kind = .text ∧ IsComment m.comment)
    ⟨fun h => ⟨h.1, h.2⟩, fun h => ⟨h.name, h.comment⟩⟩

instance (e : Entity) : Decidable e.WellTyped :=
  decidable_of_iff (e.name.kind = .text ∧ e.schema.kind = .text ∧ IsComment e.comment ∧
      (∀ m ∈ e.members, m.WellTyped) ∧ ∀ v ∈ e.supertypes, v.kind = .text)
    ⟨fun ⟨hn, hs, hc, hm, ht⟩ => ⟨hn, hs, hc, hm, ht⟩,
      fun h => ⟨h.name, h.schema, h.comment, h.members, h.supertypes⟩⟩

end TableInterfaces
