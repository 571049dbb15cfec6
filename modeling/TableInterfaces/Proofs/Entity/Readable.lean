import TableInterfaces.Proofs.Entity.Loaded

/-!
# Documents that are read to an end

Loading reports what is wrong with a document as a schema fault. A result is orderly if it has a value
or such a fault. Fields are used without a check of their kind, so loading is orderly for some
documents only; this module says for which. Main statements:

* `Document.member_orderly_iff` and `Document.entity_orderly_iff`: which nodes are read in an orderly
  way.
* `Document.load_orderly_iff`: loading is orderly just where every node is that is reached, and its
  name can be told apart from others.
-/

namespace TableInterfaces

open TableInterfaces.Json
open TableInterfaces.Sql

/-- A result has a value, or a schema fault instead of one. -/
def Orderly {α : Type} (r : Result α) : Prop :=
  ∀ fault, r = .error fault → ∃ cause, fault = .schema cause

namespace Orderly

variable {α β : Type}

theorem ok (a : α) : Orderly (.ok a : Result α) := nofun

theorem schema (cause : SchemaFault) : Orderly (.error (.schema cause) : Result α) := by
  rintro fault ⟨⟩
  exact ⟨cause, rfl⟩

theorem not_misuse (cause : Misuse) : ¬Orderly (misuse cause : Result α) := by
  intro h
  obtain ⟨_, hcause⟩ := h _ rfl
  cases hcause

/-- A sequence is orderly if its first step is, and what follows on its value. -/
theorem bind_iff {r : Result α} {f : α → Result β} :
    Orderly (r >>= f) ↔ Orderly r ∧ ∀ a, r = .ok a → Orderly (f a) := by
  cases r with
  | error fault =>
    refine ⟨fun h => ⟨fun _ hfault => ?_, nofun⟩, fun h _ hfault => ?_⟩
    · cases hfault
      exact h fault rfl
    · cases hfault
      exact h.1 fault rfl
  | ok a =>
    refine ⟨fun h => ⟨ok a, fun b hb => ?_⟩, fun h => h.2 a rfl⟩
    cases hb
    exact h

/-- The first step of a sequence is orderly just where it has a value, and what follows is orderly
under a condition that does not depend on the value. -/
theorem bind_iff_and {r : Result α} {f : α → Result β} {p q : Prop} (hr : Orderly r ↔ p)
    (hvalue : p → Succeeds r) (hf : ∀ a, Orderly (f a) ↔ q) : Orderly (r >>= f) ↔ p ∧ q := by
  rw [bind_iff, hr]
  refine and_congr_right fun hp => ?_
  obtain ⟨a, ha⟩ := hvalue hp
  exact ⟨fun h => (hf a).1 (h a ha), fun hq b _ => (hf b).2 hq⟩

/-- A result is orderly just where it has a value or a schema fault. -/
theorem iff_ok_or_schema {r : Result α} :
    Orderly r ↔ (∃ a, r = .ok a) ∨ ∃ cause, r = .error (.schema cause) := by
  cases r with
  | ok a => exact ⟨fun _ => .inl ⟨a, rfl⟩, fun _ => ok a⟩
  | error fault =>
    constructor
    · intro h
      obtain ⟨cause, rfl⟩ := h fault rfl
      exact .inr ⟨cause, rfl⟩
    · rintro (⟨_, h⟩ | ⟨cause, h⟩)
      · cases h
      · rw [h]
        exact schema cause

end Orderly

namespace Document

/-! ## Types -/

/-- The rows of digits in a declaration are short enough to be read as numbers. -/
structure HasShortNumbers (d : Declaration) : Prop where
  first : ∀ digits, d.first = some digits → digits.length ≤ maxDigits
  second : ∀ digits, d.first.isSome → d.second = some digits → digits.length ≤ maxDigits

/-- A schema that a type is looked up in is a text, or counts as false. -/
def IsSchema (v : Value) : Prop :=
  v.truthy = true → v.kind = .text

theorem readNumber_succeeds {digits : List Char} (h : digits.length ≤ maxDigits) :
    Succeeds (readNumber digits) :=
  ⟨_, if_neg (Nat.not_lt_of_le h)⟩

theorem readNumber_orderly_iff (digits : List Char) :
    Orderly (readNumber digits) ↔ digits.length ≤ maxDigits := by
  constructor
  · intro h
    refine Nat.le_of_not_lt fun hlong => ?_
    rw [readNumber, if_pos hlong] at h
    exact Orderly.not_misuse _ h
  · intro h
    obtain ⟨n, hn⟩ := readNumber_succeeds h
    rw [hn]
    exact .ok n

theorem sizeOf_orderly_iff (name : String) (d : Declaration) :
    Orderly (Sql.sizeOf name d) ↔ HasShortNumbers d := by
  obtain ⟨written, first, second, isArray⟩ := d
  cases first with
  | none => exact ⟨fun _ => ⟨nofun, nofun⟩, fun _ => .ok _⟩
  | some first =>
    cases second with
    | none =>
      change Orderly (readNumber first >>= fun n =>
        pure (if lengthTypes.contains name then (some n, none, none) else (none, some n, none))) ↔ _
      refine (Orderly.bind_iff_and (readNumber_orderly_iff first) readNumber_succeeds
        fun _ => iff_of_true (.ok _) trivial).trans ?_
      constructor
      · rintro ⟨hfirst, _⟩
        exact ⟨fun digits hdigits => Option.some.inj hdigits ▸ hfirst, nofun⟩
      · exact fun h => ⟨h.first first rfl, trivial⟩
    | some second =>
      change Orderly (readNumber first >>= fun n => readNumber second >>= fun m =>
        pure (none, some n, some m)) ↔ _
      refine (Orderly.bind_iff_and (readNumber_orderly_iff first) readNumber_succeeds fun _ =>
        Orderly.bind_iff_and (readNumber_orderly_iff second) readNumber_succeeds
          fun _ => iff_of_true (.ok _) trivial).trans ?_
      constructor
      · rintro ⟨hfirst, hsecond, _⟩
        exact ⟨fun digits hdigits => Option.some.inj hdigits ▸ hfirst,
          fun digits _ hdigits => Option.some.inj hdigits ▸ hsecond⟩
      · exact fun h => ⟨h.first first rfl, h.second second rfl rfl, trivial⟩

theorem sizeOf_succeeds {name : String} {d : Declaration} (h : HasShortNumbers d) :
    Succeeds (Sql.sizeOf name d) := by
  unfold Sql.sizeOf
  split
  · exact .ok _
  · rename_i first hfirst _
    exact (readNumber_succeeds (h.first first hfirst)).bind fun _ _ => .ok _
  · rename_i first second hfirst hsecond
    refine (readNumber_succeeds (h.first first hfirst)).bind fun _ _ => ?_
    exact (readNumber_succeeds (h.second second (by rw [hfirst]; rfl) hsecond)).bind fun _ _ => .ok _

theorem udtCandidates_orderly_iff (name : String) (schema : Value) :
    Orderly (udtCandidates name schema) ↔ IsSchema schema := by
  unfold udtCandidates IsSchema
  split
  · rename_i htruthy
    cases schema with
    | text s => exact ⟨fun _ _ => rfl, fun _ => .ok _⟩
    | _ => exact ⟨fun h => absurd h (Orderly.not_misuse _), fun h => nomatch h htruthy⟩
  · rename_i hfalsy
    exact ⟨fun _ htruthy => absurd htruthy hfalsy, fun _ => .ok _⟩

theorem resolveUdt_orderly_iff (name : String) (schema : Value) (udts : List String) :
    Orderly (resolveUdt name schema udts) ↔ IsSchema schema := by
  unfold resolveUdt
  rw [Orderly.bind_iff, udtCandidates_orderly_iff]
  refine and_iff_left fun candidates _ => ?_
  split
  · exact .ok _
  · split
    · exact .ok _
    · exact .ok _
    · exact .schema _

theorem ofDeclaration_orderly_iff (d : Declaration) (context : TypeContext) :
    Orderly (SqlType.ofDeclaration d context) ↔ HasShortNumbers d ∧ IsSchema context.schema := by
  unfold SqlType.ofDeclaration
  refine Orderly.bind_iff_and (sizeOf_orderly_iff _ d) sizeOf_succeeds fun size => ?_
  rw [Orderly.bind_iff, resolveUdt_orderly_iff]
  exact and_iff_left fun _ _ => .ok _

/-- What is declared can be read as a type: if it is a text that declares one, its numbers are short
and it is looked up in a schema. -/
def ReadableType (schema declaration : Value) : Prop :=
  ∀ s d, declaration = .text s → Declaration.parse? s.toList = some d →
    HasShortNumbers d ∧ IsSchema schema

theorem parse_orderly_iff (declaration : Value) (context : TypeContext) :
    Orderly (SqlType.parse declaration context) ↔ ReadableType context.schema declaration := by
  unfold SqlType.parse ReadableType
  split
  · rename_i s
    split
    · rename_i d hd
      rw [ofDeclaration_orderly_iff]
      constructor
      · rintro h _ d' ⟨⟩ hd'
        cases hd.symm.trans hd'
        exact h
      · exact fun h => h s d rfl hd
    · rename_i hd
      refine ⟨fun _ => ?_, fun _ => .schema _⟩
      rintro _ d' ⟨⟩ hd'
      cases hd.symm.trans hd'
  · rename_i hdeclaration
    exact ⟨fun _ s _ hs => absurd hs (hdeclaration s), fun _ => .schema _⟩

/-! ## Members -/

/-- The node of a member can be read: if it has a name and a type, the type can be read. -/
def ReadableMember (schema node : Value) : Prop :=
  (node.fieldD "name" .null).truthy = true →
    ∀ declaration, node.field? "type" = some declaration → ReadableType schema declaration

/-- A node is read as a member in an orderly way just where it can be read. -/
theorem member_orderly_iff (context : MemberContext) (position : Nat) (node : Value) :
    Orderly (member context position node) ↔ ReadableMember context.schema node := by
  unfold member ReadableMember
  split <;> dsimp only <;> split
  · rename_i hname
    exact ⟨fun _ htruthy => by simp [htruthy] at hname, fun _ => .schema _⟩
  · rename_i declaration hdeclaration hname
    have htype : ∀ f : SqlType → Member,
        Orderly (SqlType.parse declaration {
          nullable := node.fieldD "nullable" (.bool true)
          defaulted := .bool ((node.fieldD "default" .null).kind != .null)
          identity := node.fieldD "identity" (.bool false)
          udts := context.udts
          schema := context.schema } >>= fun t => pure (f t)) ↔
        ReadableType context.schema declaration := by
      intro f
      rw [Orderly.bind_iff, parse_orderly_iff]
      exact and_iff_left fun _ _ => .ok _
    refine (htype _).trans ⟨fun h _ d hd => ?_, fun h => h (by simpa using hname) _ hdeclaration⟩
    rw [hdeclaration] at hd
    exact Option.some.inj hd ▸ h
  · rename_i hname
    exact ⟨fun _ htruthy => by simp [htruthy] at hname, fun _ => .schema _⟩
  · rename_i hdeclaration _
    exact ⟨fun _ _ d hd => absurd hd (hdeclaration d), fun _ => .schema _⟩

/-- Nodes are read as members in an orderly way just where each of them can be read that follows on
nodes that are members. -/
theorem membersFrom_orderly_iff (context : MemberContext) (position : Nat) (nodes : List Value) :
    Orderly (membersFrom context position nodes) ↔ ∀ front node back, nodes = front ++ node :: back →
      Succeeds (membersFrom context position front) → ReadableMember context.schema node := by
  induction nodes generalizing position with
  | nil => exact ⟨fun _ front node back h => by simp at h, fun _ => .ok _⟩
  | cons first rest ih =>
    unfold membersFrom
    rw [Orderly.bind_iff, member_orderly_iff]
    constructor
    · rintro ⟨hfirst, hrest⟩ front node back hsplit hfront
      cases front with
      | nil =>
        cases hsplit
        exact hfirst
      | cons first' front =>
        cases hsplit
        obtain ⟨members, hmembers⟩ := hfront
        obtain ⟨m, hm, hmembers⟩ := Result.ok_of_bind hmembers
        obtain ⟨later, hlater, _⟩ := Result.ok_of_bind hmembers
        exact (ih (position + 1)).1 (Orderly.bind_iff.1 (hrest m hm)).1 front node back rfl
          ⟨later, hlater⟩
    · intro h
      refine ⟨h [] first rest rfl (.ok []), fun m hm => Orderly.bind_iff.2 ⟨?_, fun _ _ => .ok _⟩⟩
      refine (ih (position + 1)).2 fun front node back hsplit hfront => ?_
      refine h (first :: front) node back (by rw [hsplit]; rfl) ?_
      exact Succeeds.bind ⟨m, hm⟩ fun _ _ => hfront.bind fun _ _ => .ok _

/-! ## Entities -/

/-- A value that yields others one by one: a list, a text or an object. -/
def IsRow (v : Value) : Prop :=
  v.kind = .list ∨ v.kind = .text ∨ v.kind = .object

theorem elements_succeeds {v : Value} (h : IsRow v) : Succeeds v.elements := by
  cases v with
  | list | text | object => exact .ok _
  | _ => rcases h with h | h | h <;> cases h

theorem elements_orderly_iff (v : Value) : Orderly v.elements ↔ IsRow v := by
  cases v with
  | list => exact ⟨fun _ => .inl rfl, fun _ => .ok _⟩
  | text => exact ⟨fun _ => .inr (.inl rfl), fun _ => .ok _⟩
  | object => exact ⟨fun _ => .inr (.inr rfl), fun _ => .ok _⟩
  | _ =>
    refine ⟨fun h => absurd h (Orderly.not_misuse _), fun h => ?_⟩
    rcases h with h | h | h <;> cases h

/-- Only texts stand among the names more than once. -/
def RepeatsTextsOnly (names : List Value) : Prop :=
  ∀ v ∈ names, 1 < names.countP (·.same v) → v.kind = .text

/-- What equals a value that is no text is no text. -/
theorem kind_ne_text_of_same {v w : Value} (h : w.same v = true) (hv : v.kind ≠ .text) :
    w.kind ≠ .text := by
  intro hw
  rw [eq_text_of_kind hw] at h
  cases v with
  | text s => exact hv rfl
  | _ => cases h

/-- Texts have their texts, and nothing else has. -/
theorem mapM_nameText?_eq_none_iff (names : List Value) :
    names.mapM nameText? = none ↔ ∃ v ∈ names, v.kind ≠ .text := by
  induction names with
  | nil => exact ⟨nofun, fun ⟨_, hv, _⟩ => nomatch hv⟩
  | cons v rest ih =>
    rw [List.mapM_cons]
    cases v with
    | text s =>
      cases hrest : rest.mapM nameText? with
      | none =>
        obtain ⟨v, hv, hkind⟩ := ih.1 hrest
        exact iff_of_true rfl ⟨v, List.mem_cons_of_mem _ hv, hkind⟩
      | some later =>
        refine iff_of_false (fun h => by cases h) ?_
        rintro ⟨v, hv, hkind⟩
        rcases List.mem_cons.1 hv with rfl | hv
        · exact hkind rfl
        · have hnone := ih.2 ⟨v, hv, hkind⟩
          rw [hrest] at hnone
          cases hnone
    | _ => exact ⟨fun _ => ⟨_, List.mem_cons_self, nofun⟩, fun _ => rfl⟩

/-- The names of members are compared in an orderly way just where only texts repeat. -/
theorem checkMemberNames_orderly_iff (entity : Value) (members : List Member) :
    Orderly (checkMemberNames entity members) ↔ RepeatsTextsOnly (members.map (·.name)) := by
  unfold checkMemberNames
  split
  · rename_i hnil
    refine iff_of_true (.ok _) fun v hv hcount => ?_
    exact absurd hcount (Nat.not_lt_of_le (repeated_eq_nil_iff.1 hnil v hv))
  · split
    · rename_i texts htexts
      refine iff_of_true (.schema _) fun v hv hcount => ?_
      by_contra hkind
      -- a repeated name that is no text has no text to be reported with
      have hnone : (repeated (members.map (·.name))).mapM nameText? = none := by
        obtain ⟨w, hw, rfl | hsame⟩ := exists_repeated hv hcount
        · exact (mapM_nameText?_eq_none_iff _).2 ⟨w, hw, hkind⟩
        · exact (mapM_nameText?_eq_none_iff _).2 ⟨w, hw, kind_ne_text_of_same hsame hkind⟩
      rw [hnone] at htexts
      cases htexts
    · rename_i hnone
      obtain ⟨v, hv, hkind⟩ := (mapM_nameText?_eq_none_iff _).1 hnone
      obtain ⟨hmem, hcount⟩ := mem_repeated hv
      exact iff_of_false (Orderly.not_misuse _) fun h => hkind (h v hmem hcount)

/-- The parts of an entity node can be read: its members are a row, each of them that is reached can
be read, only texts repeat among their names, and its supertypes, if they are reached, are a row. -/
structure ReadableParts (context : MemberContext) (node : Value) : Prop where
  members : IsRow (node.fieldD "members" (.list []))
  member : ∀ front m back, memberNodes node = front ++ m :: back →
    Succeeds (membersFrom context 1 front) → ReadableMember context.schema m
  names : ∀ members, membersFrom context 1 (memberNodes node) = .ok members →
    RepeatsTextsOnly (members.map (·.name))
  supertypes : ∀ members, membersFrom context 1 (memberNodes node) = .ok members →
    repeated (members.map (·.name)) = [] → IsRow (node.fieldD "supertypes" (.list []))

/-- The node of an entity can be read: if it has a name and a kind, its parts can be read. -/
def ReadableEntity (defaultSchema : Value) (udts : List String) (node : Value) : Prop :=
  (node.fieldD "name" .null).truthy = true →
    ∀ kind, EntityKind.ofValue? (node.fieldD "kind" (.text "table")) = some kind →
      ReadableParts {
        entity := node.fieldD "name" .null
        schema := node.fieldD "schema" defaultSchema
        kind, udts } node

/-- The names of members have been compared if none repeats. -/
theorem checkMemberNames_eq_ok_iff (entity : Value) (members : List Member) :
    checkMemberNames entity members = .ok () ↔ repeated (members.map (·.name)) = [] := by
  unfold checkMemberNames
  split
  · rename_i hnil
    exact iff_of_true rfl hnil
  · rename_i hne
    refine iff_of_false (fun h => ?_) hne
    split at h <;> cases h

/-- The parts of an entity node are read in an orderly way just where they can be read. -/
theorem parts_orderly_iff (context : MemberContext) (node : Value)
    (f : List Member → List Value → Entity) :
    Orderly (do
      let nodes ← (node.fieldD "members" (.list [])).elements
      let members ← membersFrom context 1 nodes
      checkMemberNames context.entity members
      let supertypes ← (node.fieldD "supertypes" (.list [])).elements
      return f members supertypes) ↔ ReadableParts context node := by
  rw [Orderly.bind_iff, elements_orderly_iff]
  have hnodes : ∀ nodes, (node.fieldD "members" (.list [])).elements = .ok nodes →
      memberNodes node = nodes := by
    intro nodes h
    rw [memberNodes, h]
  have hrest : ∀ members, Orderly (checkMemberNames context.entity members >>= fun _ =>
        (node.fieldD "supertypes" (.list [])).elements >>= fun supertypes =>
          (pure (f members supertypes) : Result Entity)) ↔
      RepeatsTextsOnly (members.map (·.name)) ∧ (repeated (members.map (·.name)) = [] →
        IsRow (node.fieldD "supertypes" (.list []))) := by
    intro members
    rw [Orderly.bind_iff, checkMemberNames_orderly_iff]
    refine and_congr_right fun _ => ?_
    rw [← checkMemberNames_eq_ok_iff context.entity]
    refine ⟨fun h hok => ?_, fun h _ hok => ?_⟩
    · exact (elements_orderly_iff _).1 (Orderly.bind_iff.1 (h () hok)).1
    · exact Orderly.bind_iff.2 ⟨(elements_orderly_iff _).2 (h hok), fun _ _ => .ok _⟩
  constructor
  · rintro ⟨hrow, h⟩
    obtain ⟨nodes, hok⟩ := elements_succeeds hrow
    obtain ⟨hmembers, hlater⟩ := Orderly.bind_iff.1 (h nodes hok)
    rw [← hnodes nodes hok] at hmembers hlater
    exact {
      members := hrow
      member := (membersFrom_orderly_iff context 1 _).1 hmembers
      names := fun members hmembers => ((hrest members).1 (hlater members hmembers)).1
      supertypes := fun members hmembers => ((hrest members).1 (hlater members hmembers)).2 }
  · intro h
    refine ⟨h.members, fun nodes hok => ?_⟩
    rw [← hnodes nodes hok]
    refine Orderly.bind_iff.2 ⟨(membersFrom_orderly_iff context 1 _).2 h.member, ?_⟩
    exact fun members hmembers =>
      (hrest members).2 ⟨h.names members hmembers, h.supertypes members hmembers⟩

/-- A node is read as an entity in an orderly way just where it can be read. -/
theorem entity_orderly_iff (defaultSchema : Value) (udts : List String) (node : Value) :
    Orderly (entity defaultSchema udts node) ↔ ReadableEntity defaultSchema udts node := by
  unfold entity ReadableEntity
  split <;> dsimp only <;> split
  · rename_i hname
    exact ⟨fun _ htruthy => by simp [htruthy] at hname, fun _ => .schema _⟩
  · rename_i kind hkind hname
    refine (parts_orderly_iff _ node fun members supertypes => {
      name := node.fieldD "name" .null
      schema := node.fieldD "schema" defaultSchema
      kind, members, supertypes
      comment := node.fieldD "comment" .null }).trans ⟨fun h _ kind' hkind' => ?_, fun h => ?_⟩
    · cases hkind.symm.trans hkind'
      exact h
    · exact h (by simpa using hname) kind hkind
  · rename_i hname
    exact ⟨fun _ htruthy => by simp [htruthy] at hname, fun _ => .schema _⟩
  · rename_i hkind _
    exact ⟨fun _ _ kind hkind' => absurd hkind' (hkind kind), fun _ => .schema _⟩

/-! ## Documents -/

/-- A node can be read, and the name of its entity can be told apart from others. -/
def ReadableNode (defaultSchema : Value) (udts : List String) (node : Value) : Prop :=
  ReadableEntity defaultSchema udts node ∧
    ∀ e, entity defaultSchema udts node = .ok e → e.qualifiedName.isHashable = true

/-- Nodes are read as entities in an orderly way just where each of them can be read that follows on
nodes that are entities. -/
theorem entitiesFrom_orderly_iff (defaultSchema : Value) (udts : List String)
    (seen nodes : List Value) :
    Orderly (entitiesFrom defaultSchema udts seen nodes) ↔
      ∀ front node back, nodes = front ++ node :: back →
        Succeeds (entitiesFrom defaultSchema udts seen front) →
          ReadableNode defaultSchema udts node := by
  induction nodes generalizing seen with
  | nil => exact ⟨fun _ front node back h => by simp at h, fun _ => .ok _⟩
  | cons first rest ih =>
    unfold entitiesFrom
    rw [Orderly.bind_iff, entity_orderly_iff]
    constructor
    · rintro ⟨hfirst, hrest⟩ front node back hsplit hfront
      cases front with
      | nil =>
        cases hsplit
        refine ⟨hfirst, fun e he => ?_⟩
        have horderly := hrest e he
        dsimp only at horderly
        split at horderly
        · exact absurd horderly (Orderly.not_misuse _)
        · rename_i hhashable
          simpa using hhashable
      | cons first' front =>
        cases hsplit
        obtain ⟨entities, hentities⟩ := hfront
        obtain ⟨e, he, hentities⟩ := Result.ok_of_bind hentities
        have horderly := hrest e he
        dsimp only at hentities horderly
        split at hentities
        · cases hentities
        · rename_i hhashable
          rw [if_neg hhashable] at horderly
          split at hentities
          · cases hentities
          · rename_i hnew
            rw [if_neg hnew] at horderly
            obtain ⟨later, hlater, _⟩ := Result.ok_of_bind hentities
            exact (ih _).1 (Orderly.bind_iff.1 horderly).1 front node back rfl ⟨later, hlater⟩
    · intro h
      obtain ⟨hfirst, hname⟩ := h [] first rest rfl (.ok [])
      refine ⟨hfirst, fun e he => ?_⟩
      dsimp only
      have hhashable : ¬(!e.qualifiedName.isHashable) = true := by simp [hname e he]
      rw [if_neg hhashable]
      split
      · exact .schema _
      · rename_i hnew
        refine Orderly.bind_iff.2 ⟨(ih _).2 fun front node back hsplit hfront => ?_, fun _ _ => .ok _⟩
        refine h (first :: front) node back (by rw [hsplit]; rfl) ?_
        refine Succeeds.bind ⟨e, he⟩ fun e' he' => ?_
        cases he.symm.trans he'
        dsimp only
        rw [if_neg hhashable, if_neg hnew]
        exact hfront.bind fun _ _ => .ok _

/-- A document can be read to its end, or to its first schema fault: every entity node that is
reached can be read. -/
def Readable (document : Value) : Prop :=
  ∀ defaultSchema nodes, nodes? document = some (defaultSchema, nodes) →
    ∀ front node back, nodes = front ++ node :: back →
      Succeeds (entitiesFrom defaultSchema (udtNames defaultSchema nodes) [] front) →
        ReadableNode defaultSchema (udtNames defaultSchema nodes) node

/-- **Which documents are read in an orderly way.** Loading gives entities or a schema fault just
where the document can be read. -/
theorem load_orderly_iff (document : Value) : Orderly (load document) ↔ Readable document := by
  unfold Readable
  cases hnodes : nodes? document with
  | none =>
    obtain ⟨cause, hcause⟩ := load_of_no_nodes hnodes
    rw [hcause]
    exact iff_of_true (.schema cause) nofun
  | some listing =>
    obtain ⟨defaultSchema, nodes⟩ := listing
    rw [load_of_nodes hnodes, entitiesFrom_orderly_iff]
    constructor
    · rintro h _ _ ⟨⟩
      exact h
    · exact fun h => h _ _ rfl

/-- The names and the schema of a node are texts, its members and supertypes are rows, and the types
of its members have short numbers. -/
structure NodeWellTyped (defaultSchema node : Value) : Prop
    extends NodeHasTextNames defaultSchema node where
  row : IsRow (node.fieldD "members" (.list []))
  supertypes : IsRow (node.fieldD "supertypes" (.list []))
  short : ∀ m ∈ memberNodes node, ∀ s d, m.field? "type" = some (.text s) →
    Declaration.parse? s.toList = some d → HasShortNumbers d

/-- A well-typed node can be read. -/
theorem NodeWellTyped.readable {defaultSchema node : Value}
    (h : NodeWellTyped defaultSchema node) (udts : List String) :
    ReadableNode defaultSchema udts node := by
  constructor
  · intro _ kind _
    have htexts : ∀ members, membersFrom ⟨node.fieldD "name" .null,
        node.fieldD "schema" defaultSchema, kind, udts⟩ 1 (memberNodes node) = .ok members →
        ∀ v ∈ members.map (·.name), v.kind = .text := by
      intro members hmembers v hv
      obtain ⟨m, hm, rfl⟩ := List.mem_map.1 hv
      obtain ⟨declared, hdeclared, hdeclares⟩ := exists_of_forall₂ (membersFrom_ok hmembers).1 hm
      exact hdeclares.name_eq ▸ h.members declared hdeclared
    refine ⟨h.row, fun front m back hsplit _ _ declaration hdeclaration s d hs hparse => ?_,
      fun members hmembers v hv _ => htexts members hmembers v hv, fun _ _ _ => h.supertypes⟩
    have hm : m ∈ memberNodes node := by
      rw [hsplit]
      exact List.mem_append_right _ List.mem_cons_self
    rw [hs] at hdeclaration
    exact ⟨h.short m hm s d hdeclaration hparse, fun _ => h.schema⟩
  · intro e he
    have hnames := ((entity_matches he).hasTextNames h.toNodeHasTextNames).1
    rw [hnames.qualifiedName_eq]
    rfl

/-- A document of well-typed nodes can be read. -/
theorem readable_of_wellTyped {document defaultSchema : Value} {nodes : List Value}
    (hnodes : nodes? document = some (defaultSchema, nodes))
    (h : ∀ node ∈ nodes, NodeWellTyped defaultSchema node) : Readable document := by
  intro defaultSchema' nodes' hnodes' front node back hsplit _
  cases hnodes.symm.trans hnodes'
  have hnode : node ∈ nodes := by
    rw [hsplit]
    exact List.mem_append_right _ List.mem_cons_self
  exact (h node hnode).readable _

end Document

end TableInterfaces
