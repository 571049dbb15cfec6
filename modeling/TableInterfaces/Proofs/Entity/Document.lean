import TableInterfaces.Entity.Document
import TableInterfaces.Proofs.Result

/-!
# Loaded entities

What a document that loads says about its entities. `Document.Declares` relates an entity to the
node that declares it; the names of UDTs that are known before the first type is read are those of
the UDTs among the loaded entities. Main statements:

* `Document.load_ok`: loaded entities have pairwise different names, and a reference to a UDT is a
  reference to one of them.
* `Document.referents_of_reference`: how many UDTs a reference may mean.
-/

namespace TableInterfaces.Document

open TableInterfaces.Json
open TableInterfaces.Sql

/-! ## References -/

/-- Sorting texts and dropping repetitions keeps the texts. -/
theorem mem_sortedDistinct {texts : List String} {s : String} :
    s ∈ sortedDistinct texts ↔ s ∈ texts := by
  rw [sortedDistinct, List.mem_mergeSort, List.mem_eraseDups]

/-- A reference that is resolved names a UDT that is known. -/
theorem resolveUdt_mem {name : String} {schema : Value} {udts : List String} {q : String}
    (h : resolveUdt name schema udts = .ok (some q)) : q ∈ udts := by
  obtain ⟨candidates, _, h⟩ := Result.ok_of_bind h
  split at h
  · rename_i found hfound
    cases h
    simpa using List.find?_some hfound
  · split at h
    · cases h
    · rename_i hone
      cases h
      have hq : q ∈ sortedDistinct (udts.filter fun q => lastPart q == name) := by simp [hone]
      exact (List.mem_filter.1 (mem_sortedDistinct.1 hq)).1
    · cases h

/-- The reference of a declared type is looked up under its name. -/
theorem ofDeclaration_udt {d : Declaration} {context : TypeContext} {t : SqlType}
    (h : SqlType.ofDeclaration d context = .ok t) :
    resolveUdt t.name context.schema context.udts = .ok t.udt := by
  obtain ⟨⟨length, precision, scale⟩, _, h⟩ := Result.ok_of_bind h
  obtain ⟨udt, hudt, h⟩ := Result.ok_of_bind h
  cases h
  exact hudt

/-- The reference of a type that a value declares is looked up under its name. -/
theorem parse_udt {declaration : Value} {context : TypeContext} {t : SqlType}
    (h : SqlType.parse declaration context = .ok t) :
    resolveUdt t.name context.schema context.udts = .ok t.udt := by
  unfold SqlType.parse at h
  split at h
  · split at h
    · exact ofDeclaration_udt h
    · cases h
  · cases h

/-! ## Members -/

/-- The reference of a member is looked up in the schema of its entity. -/
theorem member_udt {context : MemberContext} {position : Nat} {node : Value} {m : Member}
    (h : member context position node = .ok m) :
    resolveUdt m.type.name context.schema context.udts = .ok m.type.udt := by
  unfold member at h
  split at h <;> dsimp only at h <;> split at h
  · cases h
  · obtain ⟨type, htype, h⟩ := Result.ok_of_bind h
    cases h
    exact parse_udt htype
  · cases h
  · cases h

/-- The references of members are looked up in the schema of their entity. -/
theorem membersFrom_udt {context : MemberContext} {position : Nat} {nodes : List Value}
    {members : List Member} (h : membersFrom context position nodes = .ok members) :
    ∀ m ∈ members, resolveUdt m.type.name context.schema context.udts = .ok m.type.udt := by
  induction nodes generalizing position members with
  | nil => cases h; intro m hm; cases hm
  | cons node rest ih =>
    obtain ⟨first, hfirst, h⟩ := Result.ok_of_bind h
    obtain ⟨later, hlater, h⟩ := Result.ok_of_bind h
    cases h
    intro m hm
    rcases List.mem_cons.1 hm with rfl | hm
    · exact member_udt hfirst
    · exact ih hlater m hm

/-! ## Entities -/

/-- A node declares an entity: the entity has the name, the schema and the kind that the node
says, and the references of its members are looked up in its schema. -/
structure Declares (defaultSchema : Value) (udts : List String) (node : Value) (e : Entity) :
    Prop where
  name_eq : node.fieldD "name" .null = e.name
  name_truthy : e.name.truthy = true
  schema_eq : node.fieldD "schema" defaultSchema = e.schema
  kind_eq : EntityKind.ofValue? (node.fieldD "kind" (.text "table")) = some e.kind
  reference : ∀ m ∈ e.members, resolveUdt m.type.name e.schema udts = .ok m.type.udt

/-- A node that is converted declares the entity it is converted to. -/
theorem entity_ok {defaultSchema : Value} {udts : List String} {node : Value} {e : Entity}
    (h : entity defaultSchema udts node = .ok e) : Declares defaultSchema udts node e := by
  unfold entity at h
  split at h <;> dsimp only at h <;> split at h
  · cases h
  · rename_i kind hkind hname
    obtain ⟨nodes, _, h⟩ := Result.ok_of_bind h
    obtain ⟨members, hmembers, h⟩ := Result.ok_of_bind h
    obtain ⟨_, _, h⟩ := Result.ok_of_bind h
    obtain ⟨supertypes, _, h⟩ := Result.ok_of_bind h
    cases h
    exact ⟨rfl, by simpa using hname, rfl, hkind, membersFrom_udt hmembers⟩
  · cases h
  · cases h

/-- The word for a kind is the only value that stands for it. -/
theorem ofValue?_eq_some {v : Value} {kind : EntityKind}
    (h : EntityKind.ofValue? v = some kind) : v = .text kind.word := by
  unfold EntityKind.ofValue? at h
  split at h <;> cases h <;> rfl

/-- The UDT names that are known beforehand are the lower-case titles of the UDTs. -/
theorem Declares.udtName?_eq {defaultSchema : Value} {udts : List String} {node : Value}
    {e : Entity} (h : Declares defaultSchema udts node e) :
    udtName? defaultSchema node = if e.isTable then none else some (Text.lower e.title) := by
  have htruthy := h.name_truthy
  cases node with
  | object fields =>
    have hkind := ofValue?_eq_some h.kind_eq
    have hname : fields.lookup "name" = some e.name := by
      have hname := h.name_eq
      simp only [Value.fieldD, Value.field?] at hname
      cases hl : fields.lookup "name" with
      | none =>
        rw [hl] at hname
        rw [← hname] at htruthy
        cases htruthy
      | some v =>
        rw [hl] at hname
        exact congrArg some hname
    have hschema : (fields.lookup "schema").getD defaultSchema = e.schema := h.schema_eq
    have htitle : (qualify e.schema (.text e.name.display)).display = e.title := by
      unfold Entity.title Entity.qualifiedName qualify
      split <;> rfl
    simp only [Value.fieldD, Value.field?] at hkind
    unfold udtName? Entity.isTable
    cases hk : e.kind with
    | table =>
      rw [hk, EntityKind.word] at hkind
      cases hl : fields.lookup "kind" with
      | none => simp [hl]
      | some v =>
        rw [hl, Option.getD_some] at hkind
        simp [hl, hkind]
    | udt =>
      rw [hk, EntityKind.word] at hkind
      cases hl : fields.lookup "kind" with
      | none => simp [hl] at hkind
      | some v =>
        rw [hl, Option.getD_some] at hkind
        simp [hl, hkind, hname, hschema, htitle]
  | _ =>
    rw [← h.name_eq] at htruthy
    cases htruthy

/-- Nodes that are converted declare the entities, which have pairwise different names. -/
theorem entitiesFrom_ok {defaultSchema : Value} {udts : List String} {seen nodes : List Value}
    {entities : List Entity} (h : entitiesFrom defaultSchema udts seen nodes = .ok entities) :
    (∀ e ∈ entities, ∃ node ∈ nodes, Declares defaultSchema udts node e) ∧
      (∀ node ∈ nodes, ∃ e ∈ entities, Declares defaultSchema udts node e) ∧
      (∀ e ∈ entities, ∀ v ∈ seen, v.same e.qualifiedName = false) ∧
      entities.Pairwise fun a b => a.qualifiedName.same b.qualifiedName = false := by
  induction nodes generalizing seen entities with
  | nil => cases h; simp
  | cons node rest ih =>
    obtain ⟨e, he, h⟩ := Result.ok_of_bind h
    dsimp only at h
    split at h
    · cases h
    · split at h
      · cases h
      · rename_i hnew
        obtain ⟨later, hlater, h⟩ := Result.ok_of_bind h
        cases h
        have hseen : ∀ v ∈ seen, v.same e.qualifiedName = false := by simpa using hnew
        have hdeclares := entity_ok he
        obtain ⟨hnode, hentity, hdistinct, hpairwise⟩ := ih hlater
        refine ⟨?_, ?_, ?_, ?_⟩
        · intro d hd
          rcases List.mem_cons.1 hd with rfl | hd
          · exact ⟨node, List.mem_cons_self, hdeclares⟩
          · obtain ⟨n, hn, hdn⟩ := hnode d hd
            exact ⟨n, List.mem_cons_of_mem _ hn, hdn⟩
        · intro n hn
          rcases List.mem_cons.1 hn with rfl | hn
          · exact ⟨e, List.mem_cons_self, hdeclares⟩
          · obtain ⟨d, hd, hdn⟩ := hentity n hn
            exact ⟨d, List.mem_cons_of_mem _ hd, hdn⟩
        · intro d hd v hv
          rcases List.mem_cons.1 hd with rfl | hd
          · exact hseen v hv
          · exact hdistinct d hd v (List.mem_cons_of_mem _ hv)
        · exact List.pairwise_cons.2
            ⟨fun d hd => hdistinct d hd _ List.mem_cons_self, hpairwise⟩

/-! ## Documents -/

/-- The UDTs among entities that a lower-case qualified name may mean. -/
def referents (entities : List Entity) (name : String) : List Entity :=
  entities.filter fun d => !d.isTable && Text.lower d.title == name

/-- A UDT is what its lower-case qualified name may mean. -/
theorem mem_referents {entities : List Entity} {name : String} {d : Entity} :
    d ∈ referents entities name ↔ d ∈ entities ∧ d.isTable = false ∧ Text.lower d.title = name := by
  simp [referents]

/-- **What loading checks.** Loaded entities have pairwise different names, and a reference to a UDT
may mean one of them. -/
theorem load_ok {document : Value} {entities : List Entity} (h : load document = .ok entities) :
    (entities.Pairwise fun a b => a.qualifiedName.same b.qualifiedName = false) ∧
      ∀ e ∈ entities, ∀ m ∈ e.members, ∀ name, m.type.udt = some name →
        referents entities name ≠ [] := by
  unfold load at h
  split at h
  · rename_i fields
    split at h
    · rename_i nodes _
      obtain ⟨hnode, hentity, _, hpairwise⟩ := entitiesFrom_ok h
      refine ⟨hpairwise, fun e he m hm name hname => ?_⟩
      obtain ⟨node, _, hdeclares⟩ := hnode e he
      have hresolve := hdeclares.reference m hm
      rw [hname] at hresolve
      obtain ⟨n, hn, hudt⟩ := List.mem_filterMap.1 (resolveUdt_mem hresolve)
      obtain ⟨d, hd, hdn⟩ := hentity n hn
      rw [hdn.udtName?_eq] at hudt
      split at hudt
      · cases hudt
      · rename_i hkind
        exact List.ne_nil_of_mem
          (mem_referents.2 ⟨hd, Bool.eq_false_iff.2 hkind, Option.some.inj hudt⟩)
    · cases h
  · cases h

/-- Entities with pairwise different names are indexed one by one. -/
theorem indexEntities_eq {entities : List Entity}
    (h : entities.Pairwise fun a b => a.qualifiedName.same b.qualifiedName = false) :
    indexEntities entities = entities.map fun e => (e.qualifiedName, e) := by
  -- the index grows by one entry where no name in it is the name of a later entity
  have hfold : ∀ index : List (Value × Entity),
      (∀ entry ∈ index, ∀ e ∈ entities, entry.1.same e.qualifiedName = false) →
      entities.foldl (fun index e =>
        let name := e.qualifiedName
        if index.any (·.1.same name) then
          index.map fun entry => if entry.1.same name then (entry.1, e) else entry
        else index ++ [(name, e)]) index =
        index ++ entities.map fun e => (e.qualifiedName, e) := by
    induction entities with
    | nil => intro index _; simp
    | cons e rest ih =>
      intro index hindex
      obtain ⟨hrest, hpairwise⟩ := List.pairwise_cons.1 h
      have hnew : index.any (·.1.same e.qualifiedName) = false := by
        simpa using fun v d hvd => hindex (v, d) hvd e List.mem_cons_self
      rw [List.foldl_cons, List.map_cons]
      dsimp only
      rw [hnew, if_neg Bool.false_ne_true, ih hpairwise, List.append_assoc, List.singleton_append]
      intro entry hentry d hd
      rcases List.mem_append.1 hentry with hentry | hentry
      · exact hindex entry hentry d (List.mem_cons_of_mem _ hd)
      · rw [List.mem_singleton.1 hentry]
        exact hrest d hd
  simpa [indexEntities] using hfold [] (by simp)

/-- A value in lower case is a text, displayed as itself. -/
theorem lowered_ok {v : Value} {s : String} (h : v.lowered = .ok s) :
    s = Text.lower v.display := by
  unfold Value.lowered at h
  split at h <;> cases h
  rfl

/-! ## How many UDTs a reference may mean -/

/-- The name and the schema of an entity are texts. -/
def HasTextNames (e : Entity) : Prop :=
  e.name.kind = .text ∧ e.schema.kind = .text

instance (e : Entity) : Decidable (HasTextNames e) :=
  inferInstanceAs (Decidable (_ ∧ _))

/-- A value of the kind of texts is a text. -/
theorem eq_text_of_kind {v : Value} (h : v.kind = .text) : v = .text v.display := by
  cases v with
  | text s => rfl
  | _ => cases h

/-- A qualified name made of texts is the title. -/
theorem HasTextNames.qualifiedName_eq {e : Entity} (h : HasTextNames e) :
    e.qualifiedName = .text e.title := by
  refine eq_text_of_kind ?_
  unfold Entity.qualifiedName qualify
  split
  · rfl
  · exact h.1

/-- **Which references mean one UDT.** A reference in a loaded document may mean at least one UDT.
It means exactly one if and only if no two UDTs have qualified names that differ in letter case only
and agree with the reference: names are told apart as they are written, references by their lower
case. -/
theorem referents_of_reference {document : Value} {entities : List Entity}
    (h : load document = .ok entities) (htexts : ∀ d ∈ entities, HasTextNames d) {e : Entity}
    (he : e ∈ entities) {m : Member} (hm : m ∈ e.members) {name : String}
    (hname : m.type.udt = some name) :
    referents entities name ≠ [] ∧ ((referents entities name).map (·.title)).Nodup ∧
      ((∃ d, referents entities name = [d]) ↔
        ∀ d ∈ entities, ∀ d' ∈ entities, d.isTable = false → d'.isTable = false →
          Text.lower d.title = name → Text.lower d'.title = name → d.title = d'.title) := by
  obtain ⟨hpairwise, hreference⟩ := load_ok h
  have hne := hreference e he m hm name hname
  have htitles : entities.Pairwise fun a b => a.title ≠ b.title := by
    refine hpairwise.imp_of_mem fun {a b} ha hb hsame htitle => ?_
    rw [(htexts a ha).qualifiedName_eq, (htexts b hb).qualifiedName_eq, htitle, Value.same] at hsame
    simp at hsame
  have hnodup : ((referents entities name).map (·.title)).Nodup :=
    List.pairwise_map.2 (htitles.filter _)
  refine ⟨hne, hnodup, ?_, fun hagree => ?_⟩
  · rintro ⟨d, hd⟩ a ha b hb hak hbk han hbn
    have ha' : a ∈ referents entities name := mem_referents.2 ⟨ha, hak, han⟩
    have hb' : b ∈ referents entities name := mem_referents.2 ⟨hb, hbk, hbn⟩
    rw [hd, List.mem_singleton] at ha' hb'
    rw [ha', hb']
  · cases hr : referents entities name with
    | nil => exact absurd hr hne
    | cons d rest =>
      cases rest with
      | nil => exact ⟨d, rfl⟩
      | cons d' rest =>
        have hd : d ∈ referents entities name := by simp [hr]
        have hd' : d' ∈ referents entities name := by simp [hr]
        obtain ⟨hd, hdk, hdn⟩ := mem_referents.1 hd
        obtain ⟨hd', hdk', hdn'⟩ := mem_referents.1 hd'
        rw [hr] at hnodup
        have hdiff : d.title ∉ (d' :: rest).map (·.title) := (List.nodup_cons.1 hnodup).1
        exact absurd (hagree d hd d' hd' hdk hdk' hdn hdn') fun htitle => hdiff (by simp [htitle])

/-- A document with the UDT `address` in two schemas that differ in letter case, and a reference to
it from a third schema. -/
def caseVariants : Value :=
  .object [("schema", .text "sales"), ("entities", .list [
    .object [("name", .text "address"), ("schema", .text "HR"), ("kind", .text "udt")],
    .object [("name", .text "address"), ("schema", .text "hr"), ("kind", .text "udt")],
    .object [("name", .text "customer"), ("members", .list [
      .object [("name", .text "home"), ("type", .text "address")]])]])]

/-- The document loads although its reference may mean two UDTs. -/
theorem caseVariants_referents : ∃ entities, load caseVariants = .ok entities ∧
    ∃ e ∈ entities, ∃ m ∈ e.members, m.type.udt = some "hr.address" ∧
      referents entities "hr.address" ≠ [] ∧ ¬∃ d, referents entities "hr.address" = [d] := by
  have hrun : (match load caseVariants with
      | .ok entities => decide (∀ d ∈ entities, HasTextNames d) &&
        entities.any (fun e => e.members.any (·.type.udt == some "hr.address")) &&
        (referents entities "hr.address").map (·.title) == ["HR.address", "hr.address"]
      | .error _ => false) = true := by decide +kernel
  cases hload : load caseVariants with
  | error fault => rw [hload] at hrun; cases hrun
  | ok entities =>
    rw [hload] at hrun
    simp only [Bool.and_eq_true, decide_eq_true_eq, List.any_eq_true, beq_iff_eq] at hrun
    obtain ⟨⟨htexts, e, he, m, hm, hudt⟩, htitles⟩ := hrun
    obtain ⟨hne, -, -⟩ := referents_of_reference hload htexts he hm hudt
    refine ⟨entities, rfl, e, he, m, hm, hudt, hne, ?_⟩
    rintro ⟨d, hd⟩
    rw [hd] at htitles
    exact absurd (congrArg List.length htitles) (by simp)

end TableInterfaces.Document
