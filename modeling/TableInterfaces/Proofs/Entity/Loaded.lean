import Mathlib.Data.List.Nodup
import TableInterfaces.Proofs.Entity.Document

/-!
# The shape of loaded entities

What every later stage relies on: entities and members stand in the order of the document, under
names that are told apart, and the size of a type is a length, or a precision with or without a
scale. `member_ok` and `entity_shape` say this of one member and of one entity. Main statement:

* `Document.load_shape`: a document with texts for names that loads gives such entities.
-/

namespace TableInterfaces

open TableInterfaces.Json
open TableInterfaces.Sql

/-- A size is a length, or a precision with or without a scale, or nothing. -/
structure Sql.SqlType.WellSized (t : SqlType) : Prop where
  length_or_precision : t.length = none ∨ t.precision = none
  scale_of_precision : t.scale.isSome → t.precision.isSome

/-- The members of an entity are numbered from one, are told apart by their names, carry the name of
the entity in front of their own, are columns in tables only, and have types of a size. -/
structure Entity.MembersInOrder (e : Entity) : Prop where
  names : (e.members.map (·.name.display)).Nodup
  positions : e.members.map (·.position) = List.range' 1 e.members.length
  qualified : ∀ m ∈ e.members, m.qualifiedName = e.title ++ "." ++ m.name.display
  columns : ∀ m ∈ e.members, m.isColumn = e.isTable
  sized : ∀ m ∈ e.members, m.type.WellSized

namespace Document

/-- What a row is matched with comes from the row. -/
theorem exists_of_forall₂ {α β : Type} {r : α → β → Prop} {row : List α} {matched : List β}
    (h : List.Forall₂ r row matched) {b : β} (hb : b ∈ matched) : ∃ a ∈ row, r a b := by
  obtain ⟨i, hi, rfl⟩ := List.getElem_of_mem hb
  have hi' : i < row.length := h.length_eq ▸ hi
  exact ⟨row[i], List.getElem_mem hi', h.get hi' hi⟩

/-! ## Types -/

/-- One number is a length or a precision, and two are a precision and a scale. -/
theorem sizeOf_ok {name : String} {d : Declaration} {length precision scale : Option Int}
    (h : Sql.sizeOf name d = .ok (length, precision, scale)) :
    (length = none ∨ precision = none) ∧ (scale.isSome → precision.isSome) := by
  unfold Sql.sizeOf at h
  split at h
  · cases h
    exact ⟨.inl rfl, nofun⟩
  · obtain ⟨n, _, h⟩ := Result.ok_of_bind h
    split at h
    · cases h
      exact ⟨.inr rfl, nofun⟩
    · cases h
      exact ⟨.inl rfl, nofun⟩
  · obtain ⟨n, _, h⟩ := Result.ok_of_bind h
    obtain ⟨m, _, h⟩ := Result.ok_of_bind h
    cases h
    exact ⟨.inl rfl, fun _ => rfl⟩

/-- The type of a declaration is well sized. -/
theorem ofDeclaration_wellSized {d : Declaration} {context : TypeContext} {t : SqlType}
    (h : SqlType.ofDeclaration d context = .ok t) : t.WellSized := by
  obtain ⟨⟨length, precision, scale⟩, hsize, h⟩ := Result.ok_of_bind h
  obtain ⟨udt, _, h⟩ := Result.ok_of_bind h
  obtain ⟨hlength, hscale⟩ := sizeOf_ok hsize
  cases h
  exact ⟨hlength, hscale⟩

/-- The type that a value declares is well sized. -/
theorem parse_wellSized {declaration : Value} {context : TypeContext} {t : SqlType}
    (h : SqlType.parse declaration context = .ok t) : t.WellSized := by
  unfold SqlType.parse at h
  split at h
  · split at h
    · exact ofDeclaration_wellSized h
    · cases h
  · cases h

/-! ## Members -/

/-- A node declares a member of an entity. -/
structure DeclaresMember (context : MemberContext) (node : Value) (m : Member) : Prop where
  name_eq : node.fieldD "name" .null = m.name
  qualifiedName_eq : m.qualifiedName =
    (qualify context.schema context.entity).display ++ "." ++ m.name.display
  isColumn_eq : m.isColumn = (context.kind == .table)
  sized : m.type.WellSized

/-- A node that is converted to a member declares it, at the position it was read at. -/
theorem member_ok {context : MemberContext} {position : Nat} {node : Value} {m : Member}
    (h : member context position node = .ok m) :
    DeclaresMember context node m ∧ m.position = position := by
  unfold member at h
  split at h <;> dsimp only at h <;> split at h
  · cases h
  · obtain ⟨type, htype, h⟩ := Result.ok_of_bind h
    cases h
    exact ⟨⟨rfl, rfl, rfl, parse_wellSized htype⟩, rfl⟩
  · cases h
  · cases h

/-- Nodes that are converted to members declare them in order, at consecutive positions. -/
theorem membersFrom_ok {context : MemberContext} {position : Nat} {nodes : List Value}
    {members : List Member} (h : membersFrom context position nodes = .ok members) :
    List.Forall₂ (DeclaresMember context) nodes members ∧
      members.map (·.position) = List.range' position members.length := by
  induction nodes generalizing position members with
  | nil =>
    cases h
    exact ⟨.nil, rfl⟩
  | cons node rest ih =>
    obtain ⟨first, hfirst, h⟩ := Result.ok_of_bind h
    obtain ⟨later, hlater, h⟩ := Result.ok_of_bind h
    cases h
    obtain ⟨hdeclares, hposition⟩ := member_ok hfirst
    obtain ⟨hrest, hpositions⟩ := ih hlater
    refine ⟨.cons hdeclares hrest, ?_⟩
    rw [List.map_cons, hposition, hpositions, List.length_cons, List.range'_succ]

/-! ## Repeated names -/

/-- What is found among the later names stands among them more than once, and every name that does
is found, itself or in an equal one. -/
theorem foldl_addRepeated (names later found : List Value) :
    found ⊆ later.foldl (addRepeated names) found ∧
      (∀ v ∈ later.foldl (addRepeated names) found,
        v ∈ found ∨ v ∈ later ∧ 1 < names.countP (·.same v)) ∧
      ∀ v ∈ later, 1 < names.countP (·.same v) →
        ∃ w ∈ later.foldl (addRepeated names) found, w = v ∨ w.same v = true := by
  induction later generalizing found with
  | nil => exact ⟨List.Subset.refl found, fun v hv => .inl hv, nofun⟩
  | cons v rest ih =>
    obtain ⟨hkeep, hsound, hfound⟩ := ih (addRepeated names found v)
    rw [List.foldl_cons]
    by_cases hnew : 1 < names.countP (·.same v) ∧ found.any (·.same v) = false
    · have hadd : addRepeated names found v = found ++ [v] :=
        if_pos (by simpa using hnew)
      rw [hadd] at hkeep hsound hfound ⊢
      refine ⟨List.Subset.trans (List.subset_append_left _ _) hkeep, ?_, ?_⟩
      · intro w hw
        rcases hsound w hw with hw | ⟨hw, hcount⟩
        · rcases List.mem_append.1 hw with hw | hw
          · exact .inl hw
          · rw [List.mem_singleton.1 hw]
            exact .inr ⟨List.mem_cons_self, hnew.1⟩
        · exact .inr ⟨List.mem_cons_of_mem _ hw, hcount⟩
      · intro w hw hcount
        rcases List.mem_cons.1 hw with rfl | hw
        · exact ⟨w, hkeep (List.mem_append_right _ (List.mem_singleton.2 rfl)), .inl rfl⟩
        · exact hfound w hw hcount
    · have hadd : addRepeated names found v = found := if_neg (by simpa using hnew)
      rw [hadd] at hkeep hsound hfound ⊢
      refine ⟨hkeep, ?_, ?_⟩
      · intro w hw
        rcases hsound w hw with hw | ⟨hw, hcount⟩
        · exact .inl hw
        · exact .inr ⟨List.mem_cons_of_mem _ hw, hcount⟩
      · intro w hw hcount
        rcases List.mem_cons.1 hw with rfl | hw
        · have hany : found.any (·.same w) = true := by simpa [hcount] using hnew
          obtain ⟨u, hu, husame⟩ := List.any_eq_true.1 hany
          exact ⟨u, hkeep hu, .inr husame⟩
        · exact hfound w hw hcount

/-- A repeated name stands among the names more than once. -/
theorem mem_repeated {names : List Value} {v : Value} (h : v ∈ repeated names) :
    v ∈ names ∧ 1 < names.countP (·.same v) :=
  ((foldl_addRepeated names names []).2.1 v h).resolve_left List.not_mem_nil

/-- A name that stands among the names more than once is a repeated one, or equals one. -/
theorem exists_repeated {names : List Value} {v : Value} (h : v ∈ names)
    (hcount : 1 < names.countP (·.same v)) : ∃ w ∈ repeated names, w = v ∨ w.same v = true :=
  (foldl_addRepeated names names []).2.2 v h hcount

/-- No names repeat just where each of them stands there once. -/
theorem repeated_eq_nil_iff {names : List Value} :
    repeated names = [] ↔ ∀ v ∈ names, names.countP (·.same v) ≤ 1 := by
  constructor
  · intro hnil v hv
    refine Nat.le_of_not_lt fun hcount => ?_
    obtain ⟨w, hw, _⟩ := exists_repeated hv hcount
    rw [hnil] at hw
    cases hw
  · intro honce
    refine List.eq_nil_iff_forall_not_mem.2 fun v hv => ?_
    obtain ⟨hmem, hcount⟩ := mem_repeated hv
    exact absurd hcount (Nat.not_lt_of_le (honce v hmem))

/-- Members that are told apart as values are told apart as texts. -/
theorem checkMemberNames_ok {entity : Value} {members : List Member}
    (h : checkMemberNames entity members = .ok ()) (htexts : ∀ m ∈ members, m.name.kind = .text) :
    (members.map (·.name.display)).Nodup := by
  have hrepeated : repeated (members.map (·.name)) = [] := by
    unfold checkMemberNames at h
    split at h
    · assumption
    · split at h <;> cases h
  have hsame : ∀ s : String, (members.map (·.name)).countP (·.same (.text s)) =
      (members.map (·.name.display)).count s := by
    intro s
    rw [List.count, List.countP_map, List.countP_map]
    refine List.countP_congr fun m hm => ?_
    rw [Function.comp_apply, Function.comp_apply, eq_text_of_kind (htexts m hm)]
    exact Iff.rfl
  refine List.nodup_iff_count_le_one.2 fun s => ?_
  by_cases hs : s ∈ members.map (·.name.display)
  · obtain ⟨m, hm, rfl⟩ := List.mem_map.1 hs
    have hcount := repeated_eq_nil_iff.1 hrepeated m.name (List.mem_map_of_mem hm)
    rw [eq_text_of_kind (htexts m hm), hsame] at hcount
    exact hcount
  · rw [List.count_eq_zero_of_not_mem hs]
    exact Nat.zero_le 1

/-! ## Entities -/

/-- The members of an entity are those that its node declares, in order. -/
theorem entity_members {defaultSchema : Value} {udts : List String} {node : Value} {e : Entity}
    (h : entity defaultSchema udts node = .ok e) :
    ∃ nodes, (node.fieldD "members" (.list [])).elements = .ok nodes ∧
      membersFrom ⟨e.name, e.schema, e.kind, udts⟩ 1 nodes = .ok e.members ∧
      checkMemberNames e.name e.members = .ok () := by
  unfold entity at h
  split at h <;> dsimp only at h <;> split at h
  · cases h
  · obtain ⟨nodes, hnodes, h⟩ := Result.ok_of_bind h
    obtain ⟨members, hmembers, h⟩ := Result.ok_of_bind h
    obtain ⟨_, hnames, h⟩ := Result.ok_of_bind h
    obtain ⟨supertypes, _, h⟩ := Result.ok_of_bind h
    cases h
    exact ⟨nodes, hnodes, hmembers, hnames⟩
  · cases h
  · cases h

/-- An entity with texts for names has its members in order. -/
theorem entity_membersInOrder {defaultSchema : Value} {udts : List String} {node : Value}
    {e : Entity} (h : entity defaultSchema udts node = .ok e)
    (htexts : ∀ m ∈ e.members, m.name.kind = .text) : e.MembersInOrder := by
  obtain ⟨nodes, _, hmembers, hnames⟩ := entity_members h
  obtain ⟨hdeclares, hpositions⟩ := membersFrom_ok hmembers
  exact {
    names := checkMemberNames_ok hnames htexts
    positions := hpositions
    qualified := by
      intro m hm
      obtain ⟨_, _, hdeclares⟩ := exists_of_forall₂ hdeclares hm
      exact hdeclares.qualifiedName_eq
    columns := by
      intro m hm
      obtain ⟨_, _, hdeclares⟩ := exists_of_forall₂ hdeclares hm
      exact hdeclares.isColumn_eq
    sized := by
      intro m hm
      obtain ⟨_, _, hdeclares⟩ := exists_of_forall₂ hdeclares hm
      exact hdeclares.sized }

/-- The nodes of the members of an entity node. -/
def memberNodes (node : Value) : List Value :=
  match (node.fieldD "members" (.list [])).elements with
  | .ok nodes => nodes
  | .error _ => []

/-- A node and its entity: the name, the schema and the kind are those that the node says, and so
are the names of the members, in order. -/
structure Matches (defaultSchema : Value) (node : Value) (e : Entity) : Prop where
  name_eq : node.fieldD "name" .null = e.name
  schema_eq : node.fieldD "schema" defaultSchema = e.schema
  kind_eq : EntityKind.ofValue? (node.fieldD "kind" (.text "table")) = some e.kind
  members_eq : (memberNodes node).map (·.fieldD "name" .null) = e.members.map (·.name)

/-- A node that is converted to an entity matches it. -/
theorem entity_matches {defaultSchema : Value} {udts : List String} {node : Value} {e : Entity}
    (h : entity defaultSchema udts node = .ok e) : Matches defaultSchema node e := by
  have hdeclares := entity_ok h
  obtain ⟨nodes, hnodes, hmembers, _⟩ := entity_members h
  have hnames : List.Forall₂ (fun node m => node.fieldD "name" .null = m.name) nodes e.members :=
    (membersFrom_ok hmembers).1.imp fun _ _ h => h.name_eq
  refine ⟨hdeclares.name_eq, hdeclares.schema_eq, hdeclares.kind_eq, ?_⟩
  rw [memberNodes, hnodes]
  exact List.forall₂_eq_eq_eq ▸ List.forall₂_map_left_iff.2 (List.forall₂_map_right_iff.2 hnames)

/-- Entities come from their nodes in order. -/
theorem entitiesFrom_forall₂ {defaultSchema : Value} {udts : List String} {seen nodes : List Value}
    {entities : List Entity} (h : entitiesFrom defaultSchema udts seen nodes = .ok entities) :
    List.Forall₂ (fun node e => entity defaultSchema udts node = .ok e) nodes entities := by
  induction nodes generalizing seen entities with
  | nil =>
    cases h
    exact .nil
  | cons node rest ih =>
    obtain ⟨e, he, h⟩ := Result.ok_of_bind h
    dsimp only at h
    split at h
    · cases h
    · split at h
      · cases h
      · obtain ⟨later, hlater, h⟩ := Result.ok_of_bind h
        cases h
        exact .cons he (ih hlater)

/-! ## Documents -/

/-- The default schema of a document and the nodes of its entities. -/
def nodes? (document : Value) : Option (Value × List Value) :=
  match document with
  | .object fields =>
    match fields.lookup "entities" with
    | some (.list nodes) => some ((fields.lookup "schema").getD (.text ""), nodes)
    | _ => none
  | _ => none

/-- The entities of a document are those of its nodes. -/
theorem load_of_nodes {document defaultSchema : Value} {nodes : List Value}
    (h : nodes? document = some (defaultSchema, nodes)) :
    load document = entitiesFrom defaultSchema (udtNames defaultSchema nodes) [] nodes := by
  cases document with
  | object fields =>
    cases hfields : fields.lookup "entities" with
    | none =>
      simp only [nodes?, hfields] at h
      cases h
    | some listed =>
      cases listed with
      | list listed =>
        simp only [nodes?, hfields] at h
        cases h
        simp only [load, hfields]
      | _ =>
        simp only [nodes?, hfields] at h
        cases h
  | _ => cases h

/-- What lists no entities is no document. -/
theorem load_of_no_nodes {document : Value} (h : nodes? document = none) :
    ∃ cause, load document = .error (.schema cause) := by
  cases document with
  | object fields =>
    refine ⟨.noEntityList, ?_⟩
    cases hfields : fields.lookup "entities" with
    | none => simp only [load, hfields]
    | some listed =>
      cases listed with
      | list listed =>
        simp only [nodes?, hfields] at h
        cases h
      | _ => simp only [load, hfields]
  | _ => exact ⟨.documentNotObject, rfl⟩

/-- The names of a node and of its members, and its schema, are texts. -/
structure NodeHasTextNames (defaultSchema node : Value) : Prop where
  name : (node.fieldD "name" .null).kind = .text
  schema : (node.fieldD "schema" defaultSchema).kind = .text
  members : ∀ m ∈ memberNodes node, (m.fieldD "name" .null).kind = .text

instance (defaultSchema node : Value) : Decidable (NodeHasTextNames defaultSchema node) :=
  decidable_of_iff ((node.fieldD "name" .null).kind = .text ∧
      (node.fieldD "schema" defaultSchema).kind = .text ∧
      ∀ m ∈ memberNodes node, (m.fieldD "name" .null).kind = .text)
    ⟨fun h => ⟨h.1, h.2.1, h.2.2⟩, fun h => ⟨h.name, h.schema, h.members⟩⟩

/-- The entity of a node with texts for names has texts for names. -/
theorem Matches.hasTextNames {defaultSchema node : Value} {e : Entity}
    (h : Matches defaultSchema node e) (htexts : NodeHasTextNames defaultSchema node) :
    HasTextNames e ∧ ∀ m ∈ e.members, m.name.kind = .text := by
  refine ⟨⟨h.name_eq ▸ htexts.name, h.schema_eq ▸ htexts.schema⟩, fun m hm => ?_⟩
  have hname : m.name ∈ (memberNodes node).map (·.fieldD "name" .null) :=
    h.members_eq ▸ List.mem_map_of_mem hm
  obtain ⟨node', hnode', hname⟩ := List.mem_map.1 hname
  exact hname ▸ htexts.members node' hnode'

/-- **The shape of loaded entities.** A document with texts for names that loads gives one entity for
each node, in order. Their qualified names are different, so none is lost in an index by name. The
members of each stand in order under different names, and carry the name of the entity; they are
columns in tables only. The size of a type is a length, or a precision with or without a scale, and a
reference means a UDT of the document. -/
theorem load_shape {document defaultSchema : Value} {nodes : List Value} {entities : List Entity}
    (hload : load document = .ok entities) (hnodes : nodes? document = some (defaultSchema, nodes))
    (htexts : ∀ node ∈ nodes, NodeHasTextNames defaultSchema node) :
    List.Forall₂ (Matches defaultSchema) nodes entities ∧
      (entities.map (·.title)).Nodup ∧
      indexEntities entities = entities.map (fun e => (.text e.title, e)) ∧
      (∀ e ∈ entities, e.MembersInOrder) ∧
      ∀ e ∈ entities, ∀ m ∈ e.members, ∀ name, m.type.udt = some name →
        ∃ d ∈ entities, d.isTable = false ∧ Text.lower d.title = name := by
  have hentities := entitiesFrom_forall₂ ((load_of_nodes hnodes).symm.trans hload)
  have hmatches := hentities.imp fun _ _ => entity_matches
  have hnames : ∀ e ∈ entities, HasTextNames e ∧ ∀ m ∈ e.members, m.name.kind = .text := by
    intro e he
    obtain ⟨node, hmem, hentity⟩ := exists_of_forall₂ hentities he
    exact (entity_matches hentity).hasTextNames (htexts node hmem)
  obtain ⟨hpairwise, hreference⟩ := load_ok hload
  refine ⟨hmatches, ?_, ?_, ?_, ?_⟩
  · refine List.pairwise_map.2 (hpairwise.imp_of_mem fun {a b} ha hb hsame htitle => ?_)
    rw [(hnames a ha).1.qualifiedName_eq, (hnames b hb).1.qualifiedName_eq, htitle] at hsame
    simp [Value.same] at hsame
  · rw [indexEntities_eq hpairwise]
    exact List.map_congr_left fun e he => by rw [(hnames e he).1.qualifiedName_eq]
  · intro e he
    obtain ⟨node, _, hentity⟩ := exists_of_forall₂ hentities he
    exact entity_membersInOrder hentity (hnames e he).2
  · intro e he m hm name hname
    obtain ⟨d, hd⟩ := List.exists_mem_of_ne_nil _ (hreference e he m hm name hname)
    obtain ⟨hd, hkind, htitle⟩ := mem_referents.1 hd
    exact ⟨d, hd, hkind, htitle⟩

/-- A table that refers to a UDT behind it, with sizes of all kinds. -/
def customers : Value :=
  .object [("schema", .text "shop"), ("entities", .list [
    .object [("name", .text "customer"), ("members", .list [
      .object [("name", .text "code"), ("type", .text "varchar(20)")],
      .object [("name", .text "balance"), ("type", .text "numeric(10, 2)")],
      .object [("name", .text "home"), ("type", .text "Address")]])],
    .object [("name", .text "Address"), ("kind", .text "udt"), ("members", .list [
      .object [("name", .text "street"), ("type", .text "text")]])]])]

/-- The table and the UDT load in the order of the document, and the reference means the UDT. -/
theorem customers_shape : ∃ defaultSchema nodes entities, load customers = .ok entities ∧
    nodes? customers = some (defaultSchema, nodes) ∧
    (∀ node ∈ nodes, NodeHasTextNames defaultSchema node) ∧
    List.Forall₂ (Matches defaultSchema) nodes entities ∧
    entities.map (·.title) = ["shop.customer", "shop.Address"] ∧
    indexEntities entities = entities.map (fun e => (.text e.title, e)) ∧
    (∀ e ∈ entities, e.MembersInOrder) ∧
    ∃ e ∈ entities, ∃ m ∈ e.members, m.type.udt = some "shop.address" ∧
      ∃ d ∈ entities, d.isTable = false ∧ Text.lower d.title = "shop.address" := by
  have hrun : (match load customers with
      | .ok entities => entities.map (·.title) == ["shop.customer", "shop.Address"] &&
        entities.any fun e => e.members.any (·.type.udt == some "shop.address")
      | .error _ => false) = true := by decide +kernel
  have htexts : ∀ nodes, nodes? customers = some (.text "shop", nodes) →
      ∀ node ∈ nodes, NodeHasTextNames (.text "shop") node := by
    intro nodes hnodes
    cases hnodes
    decide +kernel
  cases hload : load customers with
  | error fault => rw [hload] at hrun; cases hrun
  | ok entities =>
    rw [hload] at hrun
    simp only [Bool.and_eq_true, List.any_eq_true, beq_iff_eq] at hrun
    obtain ⟨htitles, e, he, m, hm, hudt⟩ := hrun
    obtain ⟨hmatches, -, hindex, horder, hreference⟩ := load_shape hload rfl (htexts _ rfl)
    exact ⟨_, _, entities, rfl, rfl, htexts _ rfl, hmatches, htitles, hindex, horder, e, he, m, hm,
      hudt, hreference e he m hm _ hudt⟩

end Document

end TableInterfaces
