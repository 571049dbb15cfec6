import Mathlib.Data.List.Perm.Basic
import TableInterfaces.Proofs.Generator.FileRow
import TableInterfaces.Proofs.Generator.Reference
import TableInterfaces.Proofs.Generator.Run

/-!
# The order of entities

The services of a run are shared by its entities: the interfaces of UDTs, whether schemas have
packages, and the texts that have been made names. None of them makes the file of an entity depend
on the order of the others, or on an entity that it does not refer to. Main statement:

* `Generator.files_noninterference`: runs over permuted entities give the same files, and one more
  entity leaves the files of the others as they are.
-/

namespace TableInterfaces.Generator

open TableInterfaces.Document
open TableInterfaces.Json
open TableInterfaces.Jvm
open TableInterfaces.Naming

variable {g : Generator} {entities others : List Entity} {run run' : Run}

/-! ## What a run knows -/

/-- Entities with equal schemas have the same names. -/
theorem ofEntities_congr {c : Config} {names : InterfaceNames}
    (h : InterfaceNames.ofEntities c entities = .ok names)
    (hothers : ∀ e ∈ others, e.schema.isHashable = true)
    (hsame : ∀ k, k ∈ (entities.map (·.schema)).map Value.key ↔
      k ∈ (others.map (·.schema)).map Value.key) :
    InterfaceNames.ofEntities c others = .ok names := by
  obtain ⟨hschemas, rfl⟩ := ofEntities_ok_iff.1 h
  refine ofEntities_ok_iff.2 ⟨hothers, ?_⟩
  rw [distinct_length_congr (List.forall_mem_map.2 hschemas) (List.forall_mem_map.2 hothers) hsame]

/-! ## References -/

/-- The interface that is known for a name depends on the last UDT that the name may mean. -/
theorem interfaces_lookup_congr {names : InterfaceNames}
    {interfaces interfaces' : List (String × String)}
    (h : udtInterfaces names entities = .ok interfaces)
    (h' : udtInterfaces names others = .ok interfaces') {name : String}
    (hsame : (referents entities name).getLast? = (referents others name).getLast?) :
    interfaces.lookup name = interfaces'.lookup name := by
  rcases udtInterfacesFrom_lookup h name with
    ⟨hnone, hlookup⟩ | ⟨d, package, hlast, hpackage, hlookup⟩
  · rcases udtInterfacesFrom_lookup h' name with ⟨-, hlookup'⟩ | ⟨d', _, hlast', -, -⟩
    · exact hlookup.trans hlookup'.symm
    · rw [hnone, hlast'] at hsame
      cases hsame
  · rcases udtInterfacesFrom_lookup h' name with
      ⟨hnone', -⟩ | ⟨d', package', hlast', hpackage', hlookup'⟩
    · rw [hnone', hlast] at hsame
      cases hsame
    · rw [hlast, hlast'] at hsame
      cases hsame
      rw [hpackage] at hpackage'
      cases hpackage'
      exact hlookup.trans hlookup'.symm

/-- Two runs give a member the same type where its reference means the same last UDT in both. -/
theorem ofMember_eq (h : g.run entities = .ok run) (h' : g.run others = .ok run')
    (hnames : run'.names = run.names) {m : Member}
    (hsame : ∀ udt, m.type.udt = some udt →
      (referents entities udt).getLast? = (referents others udt).getLast?) :
    run.types.ofMember m = run'.types.ofMember m := by
  obtain ⟨-, hinterfaces, hoverrides, hdialect, hstrict, hfallback⟩ := run_ok_iff.1 h
  obtain ⟨-, hinterfaces', hoverrides', hdialect', hstrict', hfallback'⟩ := run_ok_iff.1 h'
  rw [hnames] at hinterfaces'
  refine TypeMap.ofMember_congr (hdialect.trans hdialect'.symm) (hstrict.trans hstrict'.symm)
    (hfallback.trans hfallback'.symm) (Except.ok.inj (hoverrides.symm.trans hoverrides')) ?_
  exact fun udt hudt => interfaces_lookup_congr hinterfaces hinterfaces' (hsame udt hudt)

/-! ## Permuted entities -/

/-- No two UDTs have the same qualified name in lower case. -/
def UdtsApart (entities : List Entity) : Prop :=
  entities.Pairwise fun a b => a.isTable = false → b.isTable = false →
    Text.lower a.title ≠ Text.lower b.title

instance (entities : List Entity) : Decidable (UdtsApart entities) :=
  inferInstanceAs (Decidable (List.Pairwise _ _))

/-- A reference means the same UDT among permuted entities. -/
theorem referents_perm (h : UdtsApart entities) (hperm : entities.Perm others) (name : String) :
    referents entities name = referents others name := by
  have hreferents : (referents entities name).Perm (referents others name) := hperm.filter _
  have happart : (referents entities name).Pairwise fun a b =>
      a.isTable = false → b.isTable = false → Text.lower a.title ≠ Text.lower b.title := h.filter _
  cases hr : referents entities name with
  | nil =>
    rw [hr] at hreferents
    exact (List.nil_perm.1 hreferents).symm
  | cons d rest =>
    cases rest with
    | nil =>
      rw [hr] at hreferents
      exact List.singleton_perm.1 hreferents
    | cons d' rest =>
      have hd : d ∈ referents entities name := hr ▸ List.mem_cons_self
      have hd' : d' ∈ referents entities name :=
        hr ▸ List.mem_cons_of_mem _ List.mem_cons_self
      obtain ⟨-, hudt, hname⟩ := mem_referents.1 hd
      obtain ⟨-, hudt', hname'⟩ := mem_referents.1 hd'
      rw [hr] at happart
      exact absurd (hname.trans hname'.symm)
        ((List.pairwise_cons.1 happart).1 d' List.mem_cons_self hudt hudt')

/-- A run over permuted entities knows the same. -/
theorem run_perm (hperm : entities.Perm others) (hnames : ∀ e ∈ entities, e.name.kind = .text)
    (h : g.run entities = .ok run) :
    ∃ run', g.run others = .ok run' ∧ run'.names = run.names := by
  obtain ⟨hof, hinterfaces, hoverrides, hdialect, hstrict, hfallback⟩ := run_ok_iff.1 h
  have hof' := ofEntities_congr hof
    (fun e he => (ofEntities_ok_iff.1 hof).1 e (hperm.mem_iff.2 he))
    fun _ => ((hperm.map _).map _).mem_iff
  have heach := (udtInterfacesFrom_succeeds_iff hnames).1 ⟨_, hinterfaces⟩
  obtain ⟨interfaces, hinterfaces'⟩ : Succeeds (udtInterfaces run.names others) :=
    (udtInterfacesFrom_succeeds_iff fun e he => hnames e (hperm.mem_iff.2 he)).2
      fun e he => heach e (hperm.mem_iff.2 he)
  exact ⟨⟨run.names, { run.types with interfaces }⟩, run_ok_iff.2
    ⟨hof', hinterfaces', hoverrides, hdialect, hstrict, hfallback⟩, rfl⟩

/-- **Permuted entities.** A run over permuted entities gives the same files in another order. -/
theorem files_perm (hperm : entities.Perm others) (hnames : NamesApart entities)
    (hudts : UdtsApart entities) {files : List (String × String)}
    (h : g.files entities = .ok files) :
    ∃ files', g.files others = .ok files' ∧ files.Perm files' ∧ (files.map (·.1)).Nodup := by
  obtain ⟨run, hrun, hfiles⟩ := Result.ok_of_bind h
  obtain ⟨hrow, hnodup, -⟩ := filesFrom_ok_iff.1 hfiles
  have htexts := namedByTexts_of_files hnames h
  obtain ⟨run', hrun', hsame⟩ := run_perm hperm
    (fun e he => htexts e he _ List.mem_cons_self) hrun
  have htypes : ∀ e ∈ entities, ∀ m ∈ e.members, run.types.ofMember m = run'.types.ofMember m :=
    fun e _ m _ => ofMember_eq hrun hrun' hsame fun udt _ => by
      rw [referents_perm hudts hperm]
  have heach := (fileRow_iff_of_texts htexts (.refl _) fun _ _ _ _ => rfl).1 hrow
  obtain ⟨files', hothers, hpermuted⟩ := List.perm_comp_forall₂ hperm.symm heach
  have hrow' : FileRow g run' others files' :=
    (fileRow_iff_of_texts (fun e he => htexts e (hperm.mem_iff.2 he)) (hsame ▸ .refl _)
      fun e he => htypes e (hperm.mem_iff.2 he)).2 hothers
  have hnodup' : (files'.map (·.1)).Nodup := (hpermuted.map _).nodup_iff.2 hnodup
  refine ⟨files', ?_, hpermuted.symm, hnodup⟩
  unfold Generator.files
  rw [hrun', Result.ok_bind]
  exact filesFrom_ok_iff.2 ⟨hrow', hnodup', fun _ _ => rfl⟩

/-- Files in another order are found under the same paths. -/
theorem lookup_perm {files files' : List (String × String)} (h : files.Perm files')
    (hnodup : (files.map (·.1)).Nodup) (path : String) :
    files.lookup path = files'.lookup path := by
  induction h with
  | nil => rfl
  | cons file _ ih =>
    rw [List.lookup_cons, List.lookup_cons, ih (List.nodup_cons.1 hnodup).2]
  | swap a b rest =>
    have hne : b.1 ≠ a.1 := fun h => (List.nodup_cons.1 hnodup).1 (by simp [h])
    rw [List.lookup_cons, List.lookup_cons, List.lookup_cons, List.lookup_cons]
    by_cases ha : path = a.1
    · have hb : (path == b.1) = false := beq_false_of_ne fun hb => hne (hb.symm.trans ha)
      rw [hb]
    · rw [beq_false_of_ne ha]
  | trans h _ ih ih' => exact (ih hnodup).trans (ih' ((h.map _).nodup_iff.1 hnodup))

/-! ## One more entity -/

/-- A name that is not that of one more entity means the same without it. -/
theorem referents_insert {front back : List Entity} {x : Entity} {name : String}
    (h : name ≠ Text.lower x.title) :
    referents (front ++ x :: back) name = referents (front ++ back) name := by
  have hx : ¬(x.isTable = false ∧ Text.lower x.title = name) := fun hx => h hx.2.symm
  unfold referents
  rw [List.filter_append, List.filter_append]
  congr 1
  exact (referents_cons x back name).trans (if_neg hx)

/-- One more entity of a schema of the list leaves the names as they are. -/
theorem run_insert {front back : List Entity} {x : Entity}
    (hschema : ∃ e ∈ front ++ back, e.schema.same x.schema = true)
    (h : g.run (front ++ back) = .ok run) (h' : g.run (front ++ x :: back) = .ok run') :
    run'.names = run.names := by
  obtain ⟨hof, -⟩ := run_ok_iff.1 h
  obtain ⟨hof', -⟩ := run_ok_iff.1 h'
  obtain ⟨e, he, hex⟩ := hschema
  have hkey : x.schema.key ∈ ((front ++ back).map (·.schema)).map Value.key :=
    (Value.same_iff_key ((ofEntities_ok_iff.1 hof).1 e he)).1 hex ▸
      List.mem_map_of_mem (List.mem_map_of_mem he)
  refine Except.ok.inj (hof'.symm.trans
    (ofEntities_congr hof (ofEntities_ok_iff.1 hof').1 fun k => ?_))
  simp only [List.map_append, List.map_cons, List.mem_append, List.mem_cons] at hkey ⊢
  constructor
  · exact fun hk => hk.imp_right .inr
  · rintro (hk | rfl | hk)
    · exact .inl hk
    · exact hkey
    · exact .inr hk

/-- **One more entity.** An entity of a schema of the list that no member refers to adds its file
and leaves the others as they are. -/
theorem files_insert {front back : List Entity} {x : Entity}
    (hschema : ∃ e ∈ front ++ back, e.schema.same x.schema = true)
    (hreferences : ∀ e ∈ front ++ back, ∀ m ∈ e.members, m.type.udt ≠ some (Text.lower x.title))
    {files files' : List (String × String)} (h : g.files (front ++ back) = .ok files)
    (h' : g.files (front ++ x :: back) = .ok files') :
    ∃ before after path source, files = before ++ after ∧
      files' = before ++ (path, source) :: after ∧ path ∉ files.map (·.1) := by
  obtain ⟨run, hrun, hfiles⟩ := Result.ok_of_bind h
  obtain ⟨run', hrun', hfiles'⟩ := Result.ok_of_bind h'
  obtain ⟨hrow, -, -⟩ := filesFrom_ok_iff.1 hfiles
  obtain ⟨hrow', hnodup', -⟩ := filesFrom_ok_iff.1 hfiles'
  have hsame := run_insert hschema hrun hrun'
  have htypes : ∀ e ∈ front ++ back, ∀ m ∈ e.members,
      run.types.ofMember m = run'.types.ofMember m := fun e he m hm =>
    ofMember_eq hrun hrun' hsame fun udt hudt => by
      rw [referents_insert fun hx => hreferences e he m hm (hudt.trans (congrArg some hx))]
  obtain ⟨before, after, rfl, hbefore, hafter⟩ := hrow.append_inv
  obtain ⟨before', rest, rfl, hbefore', hrest⟩ := hrow'.append_inv
  cases hrest with
  | cons hpath hsource hafter' =>
    rename_i path source after'
    have hagree : run.names.Agree run'.names := hsame ▸ .refl _
    obtain rfl := hbefore.eq_of_agree hagree
      (fun e he => htypes e (List.mem_append_left _ he)) hbefore'
    have hbehind : (run.behind front).names.Agree ((run'.behind front).after x).names :=
      (Run.behind_agree hagree front front).trans (.remember _ _)
    obtain rfl := hafter.eq_of_agree hbehind (fun e he m hm => by
      change (run.behind front).types.ofMember m = (run'.behind front).types.ofMember m
      rw [run.behind_types, run'.behind_types]
      exact htypes e (List.mem_append_right _ he) m hm) hafter'
    refine ⟨before, after, path, source, rfl, rfl, ?_⟩
    rw [List.map_append, List.map_cons] at hnodup'
    rw [List.map_append]
    exact (List.nodup_cons.1 (List.perm_middle.nodup_iff.1 hnodup')).1

/-! ## Both -/

/-- **Files do not depend on other entities.** Let no two UDTs have the same qualified name in lower
case.

* Where no name of an entity or a member that is not a text looks like one that is, runs over
  permuted entities both give files or both fail, and give the same files.
* One more entity, of a schema of the list and to which no member refers, leaves the files of the
  others as they are and adds its own, if both runs give files. -/
theorem files_noninterference (hudts : UdtsApart entities) :
    (∀ others, entities.Perm others → NamesApart entities →
      (Succeeds (g.files entities) ↔ Succeeds (g.files others)) ∧
      ∀ files files', g.files entities = .ok files → g.files others = .ok files' →
        files.Perm files' ∧ ∀ path, files.lookup path = files'.lookup path) ∧
    ∀ front x back files files', entities = front ++ back →
      (∃ e ∈ entities, e.schema.same x.schema = true) →
      (∀ e ∈ entities, ∀ m ∈ e.members, m.type.udt ≠ some (Text.lower x.title)) →
      g.files entities = .ok files → g.files (front ++ x :: back) = .ok files' →
      ∃ before after path source, files = before ++ after ∧
        files' = before ++ (path, source) :: after ∧ path ∉ files.map (·.1) := by
  refine ⟨fun others hperm hnames => ⟨⟨?_, ?_⟩, ?_⟩, ?_⟩
  · rintro ⟨files, h⟩
    obtain ⟨files', h', -⟩ := files_perm hperm hnames hudts h
    exact ⟨files', h'⟩
  · rintro ⟨files, h⟩
    obtain ⟨files', h', -⟩ := files_perm hperm.symm (hnames.perm hperm)
      (hudts.perm hperm fun hab ha hb => (hab hb ha).symm) h
    exact ⟨files', h'⟩
  · intro files files' h h'
    obtain ⟨permuted, hpermuted, hfiles, hnodup⟩ := files_perm hperm hnames hudts h
    obtain rfl := Except.ok.inj (hpermuted.symm.trans h')
    exact ⟨hfiles, lookup_perm hfiles hnodup⟩
  · rintro front x back files files' rfl hschema hreferences h h'
    exact files_insert hschema hreferences h h'

/-- A table that refers to the UDT `sales.address`. -/
def addressed : Entity where
  name := .text "person"
  schema := .text "hr"
  members := [{
    name := .text "home", qualifiedName := "hr.person.home", position := 1
    type := { name := "address", udt := some "sales.address" } }]

/-- A UDT of the schema `sales` without members. -/
def emptyUdt (name : String) : Entity where
  name := .text name
  schema := .text "sales"
  kind := .udt

/-- A generator of interfaces with getters only, without comments and markers. -/
def bareGetters : Generator where
  target := .java
  config := { setting := fun
    | .addComments => .bool false
    | .markGenerated => .bool false
    | .immutablePojos => .bool true
    | s => s.default }

/-- A table and the UDT that it refers to in both orders, and with another UDT between them. -/
theorem addresses_noninterference :
    let address := emptyUdt "Address"
    let order := emptyUdt "order"
    ∃ files permuted more, bareGetters.files [addressed, address] = .ok files ∧
      bareGetters.files [address, addressed] = .ok permuted ∧ files.Perm permuted ∧
      bareGetters.files [addressed, order, address] = .ok more ∧
      ∃ before after path source, files = before ++ after ∧
        more = before ++ (path, source) :: after := by
  intro address order
  have hcheck : Succeeds (bareGetters.files [addressed, address]) ∧
      Succeeds (bareGetters.files [address, addressed]) ∧
      Succeeds (bareGetters.files [addressed, order, address]) := by decide +kernel
  obtain ⟨⟨files, h⟩, ⟨permuted, hpermuted⟩, ⟨more, hmore⟩⟩ := hcheck
  have hudts : UdtsApart [addressed, address] := by decide +kernel
  obtain ⟨horder, hinsert⟩ := files_noninterference (g := bareGetters) hudts
  obtain ⟨-, hsame⟩ := horder [address, addressed] (.swap ..) (by decide)
  obtain ⟨before, after, path, source, hfiles, hmore', -⟩ :=
    hinsert [addressed] order [address] files more rfl
      ⟨address, List.mem_cons_of_mem _ List.mem_cons_self, rfl⟩ (by decide +kernel) h hmore
  exact ⟨files, permuted, more, h, hpermuted, (hsame _ _ h hpermuted).1, hmore, before, after, path,
    source, hfiles, hmore'⟩

/-- A table without members. -/
def emptyTable (name : Value) (schema : String) : Entity where
  name := name
  schema := .text schema

/-- A name that is no text makes the order count: it is only taken for the name `5` where that has
been made a name before. -/
theorem number_order_counts :
    let named := emptyTable (.text "5") "hr"
    let numbered := emptyTable (.int 5) "crm"
    UdtsApart [named, numbered] ∧ [named, numbered].Perm [numbered, named] ∧
      Succeeds (bareGetters.files [named, numbered]) ∧
      ¬Succeeds (bareGetters.files [numbered, named]) := by
  intro named numbered
  exact ⟨by decide +kernel, .swap .., by decide +kernel, by decide +kernel⟩

end TableInterfaces.Generator
