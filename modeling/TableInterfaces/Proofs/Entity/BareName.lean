import Mathlib.Data.List.TakeWhile
import TableInterfaces.Proofs.Entity.Readable
import TableInterfaces.Proofs.Sql.Name

/-!
# Bare names of UDTs

A member may name a UDT without its schema. `Means` says which UDT such a bare name means in a
document: that of the own schema, else the one without a schema, else the only one of other schemas.
Names and schemas are compared in lower case. Main statement:

* `load_bare`: loading resolves bare names to what they mean, and fails on ambiguous ones.
-/

namespace TableInterfaces.Document

open TableInterfaces.Json
open TableInterfaces.Sql
open TableInterfaces.Text

variable {defaultSchema node : Value} {nodes : List Value} {schema name own q : String}
  {udt : Option String}

/-! ## UDTs of a document -/

/-- A name behind a schema and a dot, or alone where the schema is empty. -/
def qualifiedText (schema name : String) : String :=
  if schema = "" then name else schema ++ "." ++ name

/-- A node of the kind of UDTs. -/
def IsUdtNode (node : Value) : Prop :=
  EntityKind.ofValue? (node.fieldD "kind" (.text "table")) = some .udt

instance (node : Value) : Decidable (IsUdtNode node) :=
  inferInstanceAs (Decidable (_ = _))

/-- A node declares a UDT of a schema and a name in lower case. -/
structure DeclaresUdt (defaultSchema node : Value) (schema name : String) : Prop where
  kind : IsUdtNode node
  schema : lower (node.fieldD "schema" defaultSchema).display = schema
  name : lower (node.fieldD "name" .null).display = name

instance (defaultSchema node : Value) (schema name : String) :
    Decidable (DeclaresUdt defaultSchema node schema name) :=
  decidable_of_iff (IsUdtNode node ∧ lower (node.fieldD "schema" defaultSchema).display = schema ∧
      lower (node.fieldD "name" .null).display = name)
    ⟨fun h => ⟨h.1, h.2.1, h.2.2⟩, fun h => ⟨h.kind, h.schema, h.name⟩⟩

/-- Some node declares a UDT of a schema and a name in lower case. -/
def Defines (defaultSchema : Value) (nodes : List Value) (schema name : String) : Prop :=
  ∃ node ∈ nodes, DeclaresUdt defaultSchema node schema name

instance (defaultSchema : Value) (nodes : List Value) (schema name : String) :
    Decidable (Defines defaultSchema nodes schema name) :=
  inferInstanceAs (Decidable (∃ node ∈ nodes, DeclaresUdt defaultSchema node schema name))

/-- What a bare name means in a schema, both in lower case: by its qualified name, the UDT of that
schema, else the one without a schema, else the only one of all schemas. -/
inductive Means (defaultSchema : Value) (nodes : List Value) (own name : String) :
    Option String → Prop
  | own : Defines defaultSchema nodes own name →
      Means defaultSchema nodes own name (some (qualifiedText own name))
  | schemaless : ¬Defines defaultSchema nodes own name → Defines defaultSchema nodes "" name →
      Means defaultSchema nodes own name (some name)
  | other {schema : String} : ¬Defines defaultSchema nodes own name →
      ¬Defines defaultSchema nodes "" name → Defines defaultSchema nodes schema name →
      (∀ other, Defines defaultSchema nodes other name → other = schema) →
      Means defaultSchema nodes own name (some (qualifiedText schema name))
  | none : (∀ schema, ¬Defines defaultSchema nodes schema name) →
      Means defaultSchema nodes own name none

/-- A bare name of UDTs in several schemas, none of them the own one or the empty one. -/
structure Ambiguous (defaultSchema : Value) (nodes : List Value) (own name : String) : Prop where
  not_own : ¬Defines defaultSchema nodes own name
  not_schemaless : ¬Defines defaultSchema nodes "" name
  several : ∃ schema other, schema ≠ other ∧ Defines defaultSchema nodes schema name ∧
    Defines defaultSchema nodes other name

/-- An ambiguous name means nothing. -/
theorem Ambiguous.not_means (h : Ambiguous defaultSchema nodes own name) (udt : Option String) :
    ¬Means defaultSchema nodes own name udt := by
  obtain ⟨hown, hschemaless, schema, other, hne, hschema, hother⟩ := h
  rintro (h | ⟨-, h⟩ | ⟨-, -, -, h⟩ | h)
  · exact hown h
  · exact hschemaless h
  · exact hne ((h schema hschema).trans (h other hother).symm)
  · exact h schema hschema

/-- The schema of an entity node is a text. That of a UDT reads the same alone and in front of a
name, and its name is a text without a dot. -/
structure PlainNode (defaultSchema node : Value) : Prop where
  schema : (node.fieldD "schema" defaultSchema).kind = .text
  alone : IsUdtNode node → LowersAlone (node.fieldD "schema" defaultSchema).display
  name : IsUdtNode node → (node.fieldD "name" .null).kind = .text
  dotless : IsUdtNode node → '.' ∉ (node.fieldD "name" .null).display.toList

instance (defaultSchema node : Value) : Decidable (PlainNode defaultSchema node) :=
  decidable_of_iff ((node.fieldD "schema" defaultSchema).kind = .text ∧ (IsUdtNode node →
      LowersAlone (node.fieldD "schema" defaultSchema).display ∧
      (node.fieldD "name" .null).kind = .text ∧
      '.' ∉ (node.fieldD "name" .null).display.toList))
    ⟨fun h => ⟨h.1, fun hkind => (h.2 hkind).1, fun hkind => (h.2 hkind).2.1,
      fun hkind => (h.2 hkind).2.2⟩,
    fun h => ⟨h.schema, fun hkind => ⟨h.alone hkind, h.name hkind, h.dotless hkind⟩⟩⟩

/-- A name that starts like the name of a type and has no dot. -/
def IsBare (name : String) : Prop :=
  ∃ d more, name.toList = d :: more ∧ StartsName d ∧ '.' ∉ name.toList

/-! ## Qualified names -/

/-- A qualified name is a name alone, or a schema, a dot and the name. -/
theorem qualifiedText_eq (schema name : String) : qualifiedText schema name = name ∧ schema = "" ∨
    (qualifiedText schema name).toList = schema.toList ++ '.' :: name.toList := by
  unfold qualifiedText
  split
  · exact .inl ⟨rfl, ‹_›⟩
  · exact .inr (by simp [String.toList_append])

theorem qualifiedText_empty (name : String) : qualifiedText "" name = name :=
  if_pos rfl

/-- The last part of a qualified name is the name. -/
theorem lastPart_qualifiedText (h : '.' ∉ name.toList) (schema : String) :
    lastPart (qualifiedText schema name) = name := by
  have hstop : ∀ c ∈ name.toList.reverse, (c != '.') = true := fun c hc =>
    bne_iff_ne.2 fun hdot => h (hdot ▸ List.mem_reverse.1 hc)
  have hlast : (qualifiedText schema name).toList.reverse.takeWhile (· != '.') =
      name.toList.reverse := by
    rcases qualifiedText_eq schema name with ⟨heq, -⟩ | heq
    · rw [heq]
      exact List.takeWhile_eq_self_iff.2 hstop
    · rw [heq, List.reverse_append, List.reverse_cons, List.append_assoc,
        List.takeWhile_append_of_pos hstop]
      simp
  rw [lastPart, hlast, List.reverse_reverse, String.ofList_toList]

/-- Qualified names of one name in different schemas are different. -/
theorem qualifiedText_injective {other : String} (h : '.' ∉ name.toList)
    (heq : qualifiedText schema name = qualifiedText other name) : schema = other := by
  have hdot : ∀ front : List Char, name.toList ≠ front ++ '.' :: name.toList := fun front hfront =>
    h (by rw [hfront]; simp)
  rcases qualifiedText_eq schema name with ⟨halone, rfl⟩ | hschema <;>
    rcases qualifiedText_eq other name with ⟨halone', rfl⟩ | hother
  · rfl
  · rw [← heq, halone] at hother
    exact absurd hother (hdot _)
  · rw [heq, halone'] at hschema
    exact absurd hschema (hdot _)
  · rw [heq, hother, List.append_cancel_right_eq, String.toList_inj] at hschema
    exact hschema.symm

/-- What is no UDT has no name as one. -/
theorem udtName?_eq_none (h : ¬IsUdtNode node) : udtName? defaultSchema node = none := by
  cases node with
  | object fields =>
    unfold udtName?
    dsimp only
    split
    · rename_i hudt
      exact absurd (by simp [IsUdtNode, Value.fieldD, Value.field?, hudt, EntityKind.ofValue?]) h
    · rfl
  | _ => rfl

/-- A UDT node whose name is a text has a name as a UDT. -/
theorem udtName?_of_udt (hkind : IsUdtNode node)
    (hname : (node.fieldD "name" .null).kind = .text) : udtName? defaultSchema node = some (lower
      (qualify (node.fieldD "schema" defaultSchema) (node.fieldD "name" .null)).display) := by
  cases node with
  | object fields =>
    have hword := ofValue?_eq_some hkind
    simp only [Value.fieldD, Value.field?] at hword hname ⊢
    have hkind : fields.lookup "kind" = some (.text "udt") := by
      cases hlookup : fields.lookup "kind" with
      | none => simp [hlookup, EntityKind.word] at hword
      | some v => simpa [hlookup, EntityKind.word] using hword
    cases hlookup : fields.lookup "name" with
    | none =>
      rw [hlookup] at hname
      cases hname
    | some v =>
      rw [hlookup, Option.getD_some] at hname
      unfold udtName?
      simp only [hkind, hlookup, Option.getD_some]
      rw [← eq_text_of_kind hname]
  | _ => cases hkind

/-- The lower-case qualified name of a UDT node. -/
theorem udtName?_eq (h : PlainNode defaultSchema node) (hkind : IsUdtNode node) :
    ∃ before, udtName? defaultSchema node = some (qualifiedText
      (lower (node.fieldD "schema" defaultSchema).display)
      (String.ofList (lowerFrom before (node.fieldD "name" .null).display.toList))) := by
  have hschema := eq_text_of_kind h.schema
  have hname := eq_text_of_kind (h.name hkind)
  have halone := h.alone hkind
  rw [udtName?_of_udt hkind (h.name hkind)]
  generalize (node.fieldD "schema" defaultSchema).display = schema at hschema halone ⊢
  generalize (node.fieldD "name" .null).display = name at hname ⊢
  rw [hschema, hname]
  by_cases hempty : schema = ""
  · refine ⟨false, congrArg some ?_⟩
    rw [qualify, if_neg (by simp [Value.truthy, hempty]), lower_eq_empty_iff.2 hempty,
      qualifiedText_empty]
    rfl
  · obtain ⟨before, hlower⟩ := halone.lower_dot name
    refine ⟨before, congrArg some ?_⟩
    rw [qualify, if_pos (by simp [Value.truthy, hempty]), qualifiedText,
      if_neg (mt lower_eq_empty_iff.1 hempty), ← hlower]
    rfl

/-- The UDTs of a bare name are those whose qualified names end with it. -/
theorem mem_udtNames_iff (hplain : ∀ node ∈ nodes, PlainNode defaultSchema node)
    (hname : IsBare name) :
    (q ∈ udtNames defaultSchema nodes ∧ lastPart q = name) ↔
      ∃ schema, Defines defaultSchema nodes schema name ∧ q = qualifiedText schema name := by
  obtain ⟨d, more, hstart, hd, hdotless⟩ := hname
  constructor
  · rintro ⟨hq, hlast⟩
    obtain ⟨node, hnode, hq⟩ := List.mem_filterMap.1 hq
    by_cases hkind : IsUdtNode node
    · obtain ⟨before, hudt⟩ := udtName?_eq (hplain node hnode) hkind
      obtain rfl := Option.some.inj (hudt.symm.trans hq)
      rw [lastPart_qualifiedText] at hlast
      · refine ⟨_, ⟨node, hnode, hkind, rfl, ?_⟩, by rw [hlast]⟩
        rw [← hlast, String.toList_ofList] at hstart
        rw [← String.toList_inj, ← hlast, lower, String.toList_ofList, String.toList_ofList, hstart]
        exact (lowerFrom_eq_iff hd before false).1 hstart
      · rw [String.toList_ofList, mem_lowerFrom_dot]
        exact (hplain node hnode).dotless hkind
    · rw [udtName?_eq_none hkind] at hq
      cases hq
  · rintro ⟨schema, ⟨node, hnode, hkind, rfl, hlower⟩, rfl⟩
    refine ⟨List.mem_filterMap.2 ⟨node, hnode, ?_⟩, lastPart_qualifiedText hdotless _⟩
    obtain ⟨before, hudt⟩ := udtName?_eq (hplain node hnode) hkind
    have hread := congrArg String.toList hlower
    rw [lower, String.toList_ofList, hstart, lowerFrom_eq_iff hd false before, ← hstart] at hread
    rw [hudt, hread, String.ofList_toList]

/-- The UDTs of a document are known by their qualified names. -/
theorem qualifiedText_mem_iff (hplain : ∀ node ∈ nodes, PlainNode defaultSchema node)
    (hname : IsBare name) :
    qualifiedText schema name ∈ udtNames defaultSchema nodes ↔
      Defines defaultSchema nodes schema name := by
  obtain ⟨_, _, _, _, hdotless⟩ := id hname
  constructor
  · intro h
    obtain ⟨other, hother, heq⟩ := (mem_udtNames_iff hplain hname).1
      ⟨h, lastPart_qualifiedText hdotless schema⟩
    rwa [qualifiedText_injective hdotless heq]
  · exact fun h => ((mem_udtNames_iff hplain hname).2 ⟨schema, h, rfl⟩).1

/-! ## Resolution -/

/-- The candidates for a bare name: in the own schema, and without a schema. -/
theorem find_candidates (p : String → Bool) (own name : String) :
    ∃ candidates, udtCandidates name (.text own) = .ok candidates ∧ candidates.find? p =
      if p (qualifiedText (lower own) name) then some (qualifiedText (lower own) name)
      else if p name then some name else none := by
  unfold udtCandidates
  by_cases hempty : own = ""
  · refine ⟨[name], by rw [if_neg (by simp [Value.truthy, hempty])], ?_⟩
    rw [lower_eq_empty_iff.2 hempty, qualifiedText_empty]
    cases hp : p name <;> simp [hp]
  · refine ⟨[lower own ++ "." ++ name, name], ?_, ?_⟩
    · rw [if_pos (by simp [Value.truthy, hempty])]
      rfl
    · rw [qualifiedText, if_neg (mt lower_eq_empty_iff.1 hempty)]
      cases hp : p (lower own ++ "." ++ name) <;> cases hp' : p name <;> simp [hp, hp']

/-- How a name is resolved among the UDTs of a document: to the UDT of the own schema, else to the
one with this qualified name, else to the only one whose qualified name ends with it. -/
inductive Resolved (udts : List String) (own name : String) : Option String → Prop
  | own : qualifiedText own name ∈ udts → Resolved udts own name (some (qualifiedText own name))
  | written : qualifiedText own name ∉ udts → name ∈ udts → Resolved udts own name (some name)
  | only {q : String} : qualifiedText own name ∉ udts → name ∉ udts →
      q ∈ udts ∧ lastPart q = name → (∀ p, p ∈ udts ∧ lastPart p = name → p = q) →
      Resolved udts own name (some q)
  | none : (∀ p, ¬(p ∈ udts ∧ lastPart p = name)) → Resolved udts own name none

/-- What a resolved name is resolved to. -/
theorem resolveUdt_ok {udts : List String}
    (h : resolveUdt name (.text own) udts = .ok udt) : Resolved udts (lower own) name udt := by
  obtain ⟨candidates, hcandidates, hfind⟩ := find_candidates udts.contains own name
  rw [resolveUdt, hcandidates, Result.ok_bind, hfind] at h
  by_cases hown : qualifiedText (lower own) name ∈ udts
  · rw [if_pos (List.contains_iff_mem.2 hown)] at h
    cases h
    exact .own hown
  rw [if_neg (mt List.contains_iff_mem.1 hown)] at h
  by_cases hname : name ∈ udts
  · rw [if_pos (List.contains_iff_mem.2 hname)] at h
    cases h
    exact .written hown hname
  rw [if_neg (mt List.contains_iff_mem.1 hname)] at h
  dsimp only at h
  have hmem : ∀ p, p ∈ sortedDistinct (udts.filter fun p => lastPart p == name) ↔
      p ∈ udts ∧ lastPart p = name := fun p => by
    rw [mem_sortedDistinct, List.mem_filter, beq_iff_eq]
  split at h
  · rename_i hnone
    cases h
    exact .none fun p hp => by simpa [hnone] using (hmem p).2 hp
  · rename_i q hone
    cases h
    exact .only hown hname ((hmem q).1 (by simp [hone])) fun p hp => by
      simpa [hone] using (hmem p).2 hp
  · cases h

/-- A bare name that is resolved is resolved to what it means. -/
theorem resolveUdt_bare (hplain : ∀ node ∈ nodes, PlainNode defaultSchema node)
    (hname : IsBare name)
    (h : resolveUdt name (.text own) (udtNames defaultSchema nodes) = .ok udt) :
    Means defaultSchema nodes (lower own) name udt := by
  have hmem {schema : String} : qualifiedText schema name ∈ udtNames defaultSchema nodes ↔
      Defines defaultSchema nodes schema name := qualifiedText_mem_iff hplain hname
  have hends {q : String} := mem_udtNames_iff (q := q) hplain hname
  have hmem' : name ∈ udtNames defaultSchema nodes ↔ Defines defaultSchema nodes "" name := by
    rw [← hmem, qualifiedText_empty]
  cases resolveUdt_ok h with
  | own hown => exact .own (hmem.1 hown)
  | written hown hwritten => exact .schemaless (mt hmem.2 hown) (hmem'.1 hwritten)
  | only hown hwritten hq honly =>
    obtain ⟨schema, hschema, rfl⟩ := hends.1 hq
    refine .other (mt hmem.2 hown) (mt hmem'.2 hwritten) hschema fun other hother => ?_
    obtain ⟨_, _, _, _, hdotless⟩ := hname
    exact qualifiedText_injective hdotless (honly _ (hends.2 ⟨other, hother, rfl⟩))
  | none hnone => exact .none fun schema hschema => hnone _ (hends.2 ⟨schema, hschema, rfl⟩)

/-! ## Members -/

/-- A member is declared with a bare type name. -/
def HasBareType (node : Value) (name : String) : Prop :=
  ∃ s d, node.field? "type" = some (.text s) ∧ Declaration.parse? s.toList = some d ∧
    typeName d = name ∧ '.' ∉ name.toList

/-- The type that a value declares has the name that is written. -/
theorem parse_name {declaration : Value} {context : TypeContext} {t : SqlType}
    (h : SqlType.parse declaration context = .ok t) : ∃ s d, declaration = .text s ∧
      Declaration.parse? s.toList = some d ∧ t.name = typeName d := by
  unfold SqlType.parse at h
  split at h
  · rename_i s
    split at h
    · rename_i d hparse
      obtain ⟨_, _, h⟩ := Result.ok_of_bind h
      obtain ⟨_, _, h⟩ := Result.ok_of_bind h
      cases h
      exact ⟨s, d, rfl, hparse, rfl⟩
    · cases h
  · cases h

/-- The type of a member has the name that its node declares. -/
theorem member_type {context : MemberContext} {position : Nat} {m : Member}
    (h : member context position node = .ok m) : ∃ s d, node.field? "type" = some (.text s) ∧
      Declaration.parse? s.toList = some d ∧ m.type.name = typeName d := by
  unfold member at h
  split at h <;> dsimp only at h <;> split at h
  · cases h
  · rename_i htype _
    obtain ⟨type, hparse, h⟩ := Result.ok_of_bind h
    cases h
    obtain ⟨s, d, rfl, hd, hname⟩ := parse_name hparse
    exact ⟨s, d, htype, hd, hname⟩
  · cases h
  · cases h

/-- Members come from their nodes in order. -/
theorem membersFrom_forall₂ {context : MemberContext} {position : Nat} {members : List Member}
    (h : membersFrom context position nodes = .ok members) : List.Forall₂
      (fun node m => ∃ position, member context position node = .ok m) nodes members := by
  induction nodes generalizing position members with
  | nil =>
    cases h
    exact .nil
  | cons node rest ih =>
    obtain ⟨first, hfirst, h⟩ := Result.ok_of_bind h
    obtain ⟨later, hlater, h⟩ := Result.ok_of_bind h
    cases h
    exact .cons ⟨position, hfirst⟩ (ih hlater)

/-- The members of an entity come from the member nodes of its node. -/
theorem entity_forall₂ {udts : List String} {e : Entity}
    (h : entity defaultSchema udts node = .ok e) : List.Forall₂
      (fun declared m => ∃ position, member ⟨e.name, e.schema, e.kind, udts⟩ position declared =
        .ok m) (memberNodes node) e.members := by
  obtain ⟨declared, helements, hmembers, _⟩ := entity_members h
  rw [memberNodes, helements]
  exact membersFrom_forall₂ hmembers

/-- A member with a bare type name means what the name means in the schema of its entity. -/
theorem member_bare {context : MemberContext} {position : Nat} {m : Member}
    (h : member context position node = .ok m) (hbare : '.' ∉ m.type.name.toList)
    (hplain : ∀ node ∈ nodes, PlainNode defaultSchema node)
    (hudts : context.udts = udtNames defaultSchema nodes) (hschema : context.schema.kind = .text) :
    Means defaultSchema nodes (lower context.schema.display) m.type.name m.type.udt := by
  obtain ⟨s, d, _, hparse, hname⟩ := member_type h
  obtain ⟨e, more, hstart, he⟩ := Declaration.startsName_typeName hparse
  have hudt := member_udt h
  rw [hudts, eq_text_of_kind hschema] at hudt
  exact resolveUdt_bare hplain ⟨e, more, hname ▸ hstart, he, hbare⟩ hudt

/-! ## Documents -/

/-- Each member node of a document that loads gives a member, whose type is looked up in the schema
of its entity. -/
theorem load_member {document declared : Value} {entities : List Entity} {s : String}
    {d : Declaration} (hnodes : nodes? document = some (defaultSchema, nodes))
    (hload : load document = .ok entities) (hnode : node ∈ nodes)
    (hdeclared : declared ∈ memberNodes node) (htype : declared.field? "type" = some (.text s))
    (hparse : Declaration.parse? s.toList = some d) : ∃ e ∈ entities, ∃ m ∈ e.members,
      e.schema = node.fieldD "schema" defaultSchema ∧ m.type.name = typeName d ∧
      resolveUdt (typeName d) e.schema (udtNames defaultSchema nodes) = .ok m.type.udt := by
  have hentities := entitiesFrom_forall₂ ((load_of_nodes hnodes).symm.trans hload)
  obtain ⟨e, he, hentity⟩ := exists_of_forall₂ hentities.flip hnode
  obtain ⟨m, hm, _, hmember⟩ := exists_of_forall₂ (entity_forall₂ hentity).flip hdeclared
  obtain ⟨s', d', htype', hparse', hname⟩ := member_type hmember
  obtain rfl := Value.text.inj (Option.some.inj (htype.symm.trans htype'))
  obtain rfl := Option.some.inj (hparse.symm.trans hparse')
  exact ⟨e, he, m, hm, (entity_matches hentity).schema_eq.symm, hname, hname ▸ member_udt hmember⟩

/-- **What bare names mean.** In a document where the schemas of entities are texts, the names of
UDTs are texts without dots, and the schemas of UDTs read the same alone and in front of a name: if
it loads, every member with a bare type name refers to what the name means; and if some member
declares an ambiguous one, it does not load, but stops at a schema fault if it can be read. -/
theorem load_bare {document : Value} (hnodes : nodes? document = some (defaultSchema, nodes))
    (hplain : ∀ node ∈ nodes, PlainNode defaultSchema node) :
    (∀ entities, load document = .ok entities → ∀ e ∈ entities, ∀ m ∈ e.members,
      '.' ∉ m.type.name.toList →
        Means defaultSchema nodes (lower e.schema.display) m.type.name m.type.udt) ∧
    ∀ node ∈ nodes, ∀ declared ∈ memberNodes node, ∀ name, HasBareType declared name →
      Ambiguous defaultSchema nodes (lower (node.fieldD "schema" defaultSchema).display) name →
        ¬Succeeds (load document) ∧
          (Readable document → ∃ cause, load document = .error (.schema cause)) := by
  have hmeans : ∀ entities, load document = .ok entities → ∀ e ∈ entities, ∀ m ∈ e.members,
      '.' ∉ m.type.name.toList →
        Means defaultSchema nodes (lower e.schema.display) m.type.name m.type.udt := by
    intro entities hload e he m hm hbare
    have hentities := entitiesFrom_forall₂ ((load_of_nodes hnodes).symm.trans hload)
    obtain ⟨node, hnode, hentity⟩ := exists_of_forall₂ hentities he
    obtain ⟨_, _, _, hmember⟩ := exists_of_forall₂ (entity_forall₂ hentity) hm
    have hschema : e.schema.kind = .text :=
      (entity_matches hentity).schema_eq ▸ (hplain node hnode).schema
    exact member_bare hmember hbare hplain rfl hschema
  refine ⟨hmeans, fun node hnode declared hdeclared name hname hambiguous => ?_⟩
  have hfails : ¬Succeeds (load document) := by
    rintro ⟨entities, hload⟩
    obtain ⟨s, d, htype, hparse, rfl, hdotless⟩ := hname
    obtain ⟨e, he, m, hm, hschema, hname, -⟩ :=
      load_member hnodes hload hnode hdeclared htype hparse
    refine hambiguous.not_means m.type.udt ?_
    rw [← hname] at hdotless
    rw [← hschema, ← hname]
    exact hmeans entities hload e he m hm hdotless
  refine ⟨hfails, fun hreadable => ?_⟩
  rcases Orderly.iff_ok_or_schema.1 ((load_orderly_iff document).2 hreadable) with hload | hcause
  · exact absurd hload hfails
  · exact hcause

/-! ## Addresses in several schemas -/

/-- A UDT without members. -/
def udtNode (schema name : String) : Value :=
  .object [("name", .text name), ("schema", .text schema), ("kind", .text "udt")]

/-- A table with one column. -/
def tableNode (schema name type : String) : Value :=
  .object [("name", .text name), ("schema", .text schema),
    ("members", .list [.object [("name", .text "home"), ("type", .text type)]])]

/-- A document without a default schema. -/
def documentOf (nodes : List Value) : Value :=
  .object [("entities", .list nodes)]

/-- Two addresses, one of them in the schema of the person. -/
def ownAddress : List Value :=
  [udtNode "Sales" "Address", udtNode "crm" "address", tableNode "SALES" "person" "address"]

/-- Two addresses, both in other schemas than the person. -/
def sharedAddress : List Value :=
  [udtNode "sales" "address", udtNode "crm" "address", tableNode "hr" "person" "ADDRESS"]

theorem udtNode_wellTyped (schema name : String) :
    NodeWellTyped (.text "") (udtNode schema name) :=
  ⟨⟨rfl, rfl, nofun⟩, .inl rfl, .inl rfl, nofun⟩

theorem tableNode_wellTyped (schema name : String) {type : String}
    (h : ∀ d, Declaration.parse? type.toList = some d → HasShortNumbers d) :
    NodeWellTyped (.text "") (tableNode schema name type) := by
  refine ⟨⟨rfl, rfl, fun m hm => ?_⟩, .inl rfl, .inl rfl, fun m hm s d hs hparse => ?_⟩ <;>
    cases List.mem_singleton.1 hm
  · rfl
  · cases hs
    exact h d hparse

/-- The address of the own schema is meant, and of those of two other schemas none. -/
theorem address_bare : (∃ entities, load (documentOf ownAddress) = .ok entities ∧
      ∃ e ∈ entities, ∃ m ∈ e.members, m.type.udt = some "sales.address" ∧
        Means (.text "") ownAddress (lower e.schema.display) m.type.name m.type.udt) ∧
    ∃ cause, load (documentOf sharedAddress) = .error (.schema cause) := by
  constructor
  · have hrun : (match load (documentOf ownAddress) with
        | .ok entities => entities.any fun e => e.members.any fun m =>
            m.type.udt == some "sales.address" && decide ('.' ∉ m.type.name.toList)
        | .error _ => false) = true := by decide +kernel
    split at hrun
    · rename_i entities hload
      simp only [List.any_eq_true, Bool.and_eq_true, beq_iff_eq, decide_eq_true_eq] at hrun
      obtain ⟨e, he, m, hm, hudt, hdotless⟩ := hrun
      exact ⟨entities, hload, e, he, m, hm, hudt,
        (load_bare rfl (by decide +kernel)).1 entities hload e he m hm hdotless⟩
    · cases hrun
  · have hparse : Declaration.parse? "ADDRESS".toList =
        some ⟨"ADDRESS".toList, none, none, false⟩ := by decide +kernel
    have hwellTyped : ∀ node ∈ sharedAddress, NodeWellTyped (.text "") node := by
      have htable := tableNode_wellTyped "hr" "person" fun d hd => by
        cases hparse.symm.trans hd
        exact ⟨nofun, nofun⟩
      exact List.forall_mem_cons.2 ⟨udtNode_wellTyped _ _, List.forall_mem_cons.2
        ⟨udtNode_wellTyped _ _, List.forall_mem_singleton.2 htable⟩⟩
    refine ((load_bare rfl (by decide +kernel)).2 (tableNode "hr" "person" "ADDRESS")
      (by simp [sharedAddress]) (.object [("name", .text "home"), ("type", .text "ADDRESS")]) ?_
      "address" ?_ ?_).2 (readable_of_wellTyped rfl hwellTyped)
    · exact List.mem_singleton_self _
    · exact ⟨"ADDRESS", _, rfl, hparse, by decide +kernel, by decide⟩
    · exact ⟨by decide +kernel, by decide +kernel, "sales", "crm", by decide, by decide +kernel,
        by decide +kernel⟩

/-- Addresses without a schema and in a schema, none of them in the schema of the person. -/
def unplacedAddress : List Value :=
  [udtNode "" "address", udtNode "crm" "address", tableNode "hr" "person" "address"]

/-- The address of the own schema, which reads differently in front of a dot, and another one. -/
def sigmaAddress : List Value :=
  [udtNode "\u0391\u03A3" "address", udtNode "crm" "address",
    tableNode "\u0391\u03A3" "person" "address"]

/-- Two addresses in other schemas than the person, behind a table whose members are no list. -/
def unreadAddress : List Value :=
  .object [("name", .text "stock"), ("members", .int 5)] :: sharedAddress

/-- The table of `sigmaAddress` refers to none of the two addresses. -/
theorem sigmaAddress_fails : ¬Succeeds (load (documentOf sigmaAddress)) := by
  rintro ⟨entities, hload⟩
  have hparse : Declaration.parse? "address".toList =
      some ⟨"address".toList, none, none, false⟩ := by decide +kernel
  have hnodes : nodes? (documentOf sigmaAddress) = some (.text "", sigmaAddress) := rfl
  have htable : tableNode "\u0391\u03A3" "person" "address" ∈ sigmaAddress := by
    simp [sigmaAddress]
  obtain ⟨e, _, m, _, hschema, _, hresolve⟩ :=
    load_member (s := "address") hnodes hload htable List.mem_cons_self rfl hparse
  have hname : typeName ⟨"address".toList, none, none, false⟩ = "address" := by decide +kernel
  have hudts : udtNames (.text "") sigmaAddress = ["\u03B1\u03C3.address", "crm.address"] := by
    decide +kernel
  have hschema : e.schema = .text "\u0391\u03A3" := hschema
  rw [hschema, hname, hudts] at hresolve
  have hsigma : "\u03B1\u03C3.address" ∈ ["\u03B1\u03C3.address", "crm.address"] ∧
      lastPart "\u03B1\u03C3.address" = "address" := by decide +kernel
  have hcrm : "crm.address" ∈ ["\u03B1\u03C3.address", "crm.address"] ∧
      lastPart "crm.address" = "address" := by decide +kernel
  generalize m.type.udt = udt at hresolve
  cases resolveUdt_ok hresolve with
  | own h => exact absurd h (by decide +kernel)
  | written _ h => exact absurd h (by decide)
  | only _ _ _ h => exact absurd ((h _ hsigma).trans (h _ hcrm).symm) (by decide)
  | none h => exact h _ hcrm

/-- The address without a schema goes before that of another schema. The address of the own schema
is missed where the lower case of the schema changes in front of a dot. An ambiguous address is not
reported where loading stops before. -/
theorem address_exceptions :
    ((∃ entities, load (documentOf unplacedAddress) = .ok entities ∧
        ∃ e ∈ entities, ∃ m ∈ e.members, m.type.udt = some "address") ∧
      ¬Defines (.text "") unplacedAddress "hr" "address" ∧
      Defines (.text "") unplacedAddress "" "address" ∧
      Defines (.text "") unplacedAddress "crm" "address") ∧
    (Defines (.text "") sigmaAddress (lower "\u0391\u03A3") "address" ∧
      ¬Succeeds (load (documentOf sigmaAddress))) ∧
    Ambiguous (.text "") unreadAddress "hr" "address" ∧
      ¬∃ cause, load (documentOf unreadAddress) = .error (.schema cause) := by
  refine ⟨⟨?_, by decide +kernel, by decide +kernel, by decide +kernel⟩,
    ⟨by decide +kernel, sigmaAddress_fails⟩,
    ⟨by decide +kernel, by decide +kernel, "sales", "crm", by decide, by decide +kernel,
      by decide +kernel⟩, ?_⟩
  · have hrun : (match load (documentOf unplacedAddress) with
        | .ok entities => entities.any fun e => e.members.any fun m => m.type.udt == some "address"
        | .error _ => false) = true := by decide +kernel
    split at hrun
    · rename_i entities hload
      simp only [List.any_eq_true, beq_iff_eq] at hrun
      obtain ⟨e, he, m, hm, hudt⟩ := hrun
      exact ⟨entities, hload, e, he, m, hm, hudt⟩
    · cases hrun
  · rintro ⟨cause, hload⟩
    have hrun : (match load (documentOf unreadAddress) with
        | .error (.schema _) => false
        | _ => true) = true := by decide +kernel
    rw [hload] at hrun
    cases hrun

end TableInterfaces.Document
