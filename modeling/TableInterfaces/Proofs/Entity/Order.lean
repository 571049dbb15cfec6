import Mathlib.Data.List.FinRange
import Mathlib.Data.List.Perm.Basic
import TableInterfaces.Proofs.Entity.Loaded
import TableInterfaces.Proofs.Json.Same

/-!
# The order of entities

The entities of a document may stand in any order: a reference is looked up in the set of all UDTs
of the document (`entity_congr`), and two entities of one name are refused whichever comes first
(`entitiesFrom_eq_ok_iff`). Main statement:

* `load_permuted`: permuting the entities of a document permutes what it loads.
-/

namespace TableInterfaces.Document

open TableInterfaces.Json
open TableInterfaces.Sql

variable {defaultSchema : Value} {udts udts' : List String} {nodes nodes' : List Value}
  {entities : List Entity}

/-! ## Sets of UDTs -/

/-- Dropping repetitions leaves none. -/
theorem nodup_eraseDups (texts : List String) : texts.eraseDups.Nodup := by
  cases texts with
  | nil => exact List.nodup_nil
  | cons s rest =>
    rw [List.eraseDups_cons, List.nodup_cons, List.mem_eraseDups]
    exact ⟨by simp, nodup_eraseDups _⟩
termination_by texts.length
decreasing_by exact Nat.lt_succ_of_le (List.length_filter_le _ rest)

/-- Sorting texts and dropping repetitions depends on the set of texts only. -/
theorem sortedDistinct_congr {texts texts' : List String} (h : ∀ s, s ∈ texts ↔ s ∈ texts') :
    sortedDistinct texts = sortedDistinct texts' := by
  have hsorted : ∀ texts : List String,
      (sortedDistinct texts).Pairwise fun a b => decide (a ≤ b) = true := fun texts =>
    List.pairwise_mergeSort
      (fun a b c hab hbc => by
        simpa using String.le_trans (by simpa using hab) (by simpa using hbc))
      (fun a b => by simpa using String.le_total a b) _
  have hperm : (sortedDistinct texts).Perm (sortedDistinct texts') := by
    refine (List.perm_ext_iff_of_nodup ?_ ?_).2 fun s => ?_
    · exact (List.mergeSort_perm _ _).nodup_iff.2 (nodup_eraseDups texts)
    · exact (List.mergeSort_perm _ _).nodup_iff.2 (nodup_eraseDups texts')
    · rw [mem_sortedDistinct, mem_sortedDistinct, h]
  refine List.Perm.eq_of_pairwise (fun a b _ _ hab hba => ?_) (hsorted texts) (hsorted texts') hperm
  exact String.le_antisymm (of_decide_eq_true hab) (of_decide_eq_true hba)

/-- A reference is looked up in the set of UDTs. -/
theorem resolveUdt_congr (h : ∀ q, q ∈ udts ↔ q ∈ udts') (name : String) (schema : Value) :
    resolveUdt name schema udts = resolveUdt name schema udts' := by
  have hcontains : udts.contains = udts'.contains := by
    funext q
    rw [Bool.eq_iff_iff, List.contains_iff_mem, List.contains_iff_mem, h]
  have hlast : sortedDistinct (udts.filter fun q => lastPart q == name) =
      sortedDistinct (udts'.filter fun q => lastPart q == name) :=
    sortedDistinct_congr fun q => by rw [List.mem_filter, List.mem_filter, h]
  unfold resolveUdt
  rw [hcontains, hlast]

/-- A type is parsed with the set of UDTs. -/
theorem parse_congr (h : ∀ q, q ∈ udts ↔ q ∈ udts') (declaration : Value) (context : TypeContext) :
    SqlType.parse declaration { context with udts } =
      SqlType.parse declaration { context with udts := udts' } := by
  unfold SqlType.parse SqlType.ofDeclaration
  simp only [resolveUdt_congr h]

/-- A member is read with the set of UDTs. -/
theorem member_congr (h : ∀ q, q ∈ udts ↔ q ∈ udts') (context : MemberContext) (position : Nat)
    (node : Value) : member { context with udts } position node =
      member { context with udts := udts' } position node := by
  have hparse := fun declaration nullable defaulted identity schema =>
    parse_congr h declaration ⟨nullable, defaulted, identity, [], schema⟩
  unfold member
  simp only [hparse]

/-- Members are read with the set of UDTs. -/
theorem membersFrom_congr (h : ∀ q, q ∈ udts ↔ q ∈ udts') (context : MemberContext)
    (position : Nat) (nodes : List Value) : membersFrom { context with udts } position nodes =
      membersFrom { context with udts := udts' } position nodes := by
  induction nodes generalizing position with
  | nil => rfl
  | cons node rest ih => rw [membersFrom, membersFrom, member_congr h, ih]

/-- An entity is read with the set of UDTs. -/
theorem entity_congr (h : ∀ q, q ∈ udts ↔ q ∈ udts') (defaultSchema node : Value) :
    entity defaultSchema udts node = entity defaultSchema udts' node := by
  have hmembers := fun name schema kind => membersFrom_congr h ⟨name, schema, kind, []⟩ 1
  unfold entity
  simp only [hmembers]

/-! ## Names of entities -/

/-- Nodes give entities just where each of them gives one and the names of these can be told apart
and are different. -/
theorem entitiesFrom_eq_ok_iff {seen : List Value} :
    entitiesFrom defaultSchema udts seen nodes = .ok entities ↔
      List.Forall₂ (fun node e => entity defaultSchema udts node = .ok e) nodes entities ∧
      (∀ e ∈ entities, e.qualifiedName.isHashable = true ∧
        ∀ v ∈ seen, v.same e.qualifiedName = false) ∧
      entities.Pairwise fun a b => a.qualifiedName.same b.qualifiedName = false := by
  constructor
  · intro h
    induction nodes generalizing seen entities with
    | nil =>
      cases h
      exact ⟨.nil, nofun, .nil⟩
    | cons node rest ih =>
      obtain ⟨e, he, h⟩ := Result.ok_of_bind h
      dsimp only at h
      split at h
      · cases h
      · rename_i hhashable
        split at h
        · cases h
        · rename_i hnew
          obtain ⟨later, hlater, h⟩ := Result.ok_of_bind h
          cases h
          obtain ⟨hentities, hnames, hpairwise⟩ := ih hlater
          refine ⟨.cons he hentities, List.forall_mem_cons.2
            ⟨⟨by simpa using hhashable, by simpa using hnew⟩, fun d hd => ⟨(hnames d hd).1,
              fun v hv => (hnames d hd).2 v (List.mem_cons_of_mem _ hv)⟩⟩, List.pairwise_cons.2
            ⟨fun d hd => (hnames d hd).2 _ List.mem_cons_self, hpairwise⟩⟩
  · rintro ⟨hentities, hnames, hpairwise⟩
    induction hentities generalizing seen with
    | nil => rfl
    | @cons node e rest later he hentities ih =>
      obtain ⟨hhashable, hnew⟩ := hnames e List.mem_cons_self
      obtain ⟨hfirst, hpairwise⟩ := List.pairwise_cons.1 hpairwise
      have hlater : entitiesFrom defaultSchema udts (e.qualifiedName :: seen) rest = .ok later := by
        refine ih (fun d hd => ⟨(hnames d (List.mem_cons_of_mem _ hd)).1, ?_⟩) hpairwise
        exact List.forall_mem_cons.2
          ⟨hfirst d hd, (hnames d (List.mem_cons_of_mem _ hd)).2⟩
      rw [entitiesFrom, he, Result.ok_bind]
      dsimp only
      rw [if_neg (by simp [hhashable]), if_neg (by simpa using hnew), hlater]
      rfl

/-- The entities of nodes in another order are the entities of the nodes in that order. -/
theorem entitiesFrom_perm (hperm : nodes'.Perm nodes)
    (h : entitiesFrom defaultSchema udts [] nodes = .ok entities) :
    ∃ entities', entitiesFrom defaultSchema udts [] nodes' = .ok entities' := by
  obtain ⟨hentities, hnames, hpairwise⟩ := entitiesFrom_eq_ok_iff.1 h
  obtain ⟨entities', hentities', hperm⟩ := List.perm_comp_forall₂ hperm hentities
  have hkeys : entities.Pairwise fun a b => a.qualifiedName.key ≠ b.qualifiedName.key :=
    hpairwise.imp_of_mem fun {a b} ha _ hsame hkey => by
      rw [(Value.same_iff_key (hnames a ha).1).2 hkey] at hsame
      cases hsame
  refine ⟨entities', entitiesFrom_eq_ok_iff.2 ⟨hentities', fun e he => ?_, ?_⟩⟩
  · exact ⟨(hnames e (hperm.mem_iff.1 he)).1, nofun⟩
  · refine (hperm.symm.pairwise hkeys Ne.symm).imp_of_mem fun {a b} ha _ hkey => ?_
    rw [← Bool.not_eq_true, Value.same_iff_key (hnames a (hperm.mem_iff.1 ha)).1]
    exact hkey

/-! ## Documents -/

/-- The names of UDTs in another order are the same names. -/
theorem mem_udtNames_perm (hperm : nodes'.Perm nodes) (q : String) :
    q ∈ udtNames defaultSchema nodes' ↔ q ∈ udtNames defaultSchema nodes :=
  (hperm.filterMap _).mem_iff

/-- Nodes in another order load if they load. -/
theorem entitiesFrom_udtNames_perm (hperm : nodes'.Perm nodes)
    (h : Succeeds (entitiesFrom defaultSchema (udtNames defaultSchema nodes) [] nodes)) :
    Succeeds (entitiesFrom defaultSchema (udtNames defaultSchema nodes') [] nodes') := by
  obtain ⟨entities, h⟩ := h
  obtain ⟨entities', h⟩ := entitiesFrom_perm hperm h
  refine ⟨entities', ?_⟩
  rw [entitiesFrom_eq_ok_iff] at h ⊢
  simpa only [entity_congr (mem_udtNames_perm hperm)] using h

/-- **The order of entities does not matter.** With the entities of a document in another order, the
document loads if it loaded before, and gives the same entities in the other order: each with the
members and with the types that it had before, a reference to a UDT included. -/
theorem load_permuted {document document' : Value} (σ : Equiv.Perm (Fin nodes.length))
    (h : nodes? document = some (defaultSchema, nodes))
    (h' : nodes? document' = some (defaultSchema, List.ofFn fun i => nodes.get (σ i))) :
    (Succeeds (load document) ↔ Succeeds (load document')) ∧
      ∀ entities, load document = .ok entities → ∃ hlength : nodes.length = entities.length,
        load document' = .ok (List.ofFn fun i => entities.get ((σ i).cast hlength)) := by
  have hperm : (List.ofFn fun i => nodes.get (σ i)).Perm nodes := by
    have hperm := σ.ofFn_comp_perm nodes.get
    rwa [List.ofFn_get] at hperm
  have hsucceeds : Succeeds (load document) ↔ Succeeds (load document') := by
    rw [load_of_nodes h, load_of_nodes h']
    exact ⟨entitiesFrom_udtNames_perm hperm, entitiesFrom_udtNames_perm hperm.symm⟩
  refine ⟨hsucceeds, fun entities hload => ?_⟩
  obtain ⟨entities', hload'⟩ := hsucceeds.1 ⟨entities, hload⟩
  have hentities := entitiesFrom_forall₂ ((load_of_nodes h).symm.trans hload)
  have hentities' := entitiesFrom_forall₂ ((load_of_nodes h').symm.trans hload')
  refine ⟨hentities.length_eq, hload'.trans (congrArg _ (List.ext_get ?_ fun i hi hi' => ?_))⟩
  · rw [← hentities'.length_eq, List.length_ofFn, List.length_ofFn]
  · rw [List.length_ofFn] at hi'
    have hnode' := hentities'.get (by rw [List.length_ofFn]; exact hi') hi
    have hnode := hentities.get (σ ⟨i, hi'⟩).isLt (hentities.length_eq ▸ (σ ⟨i, hi'⟩).isLt)
    rw [entity_congr (mem_udtNames_perm hperm), List.get_ofFn] at hnode'
    rw [List.get_ofFn]
    exact Except.ok.inj (hnode'.symm.trans hnode)

/-- The entities of `customers` in the other order: the UDT in front of the table. -/
def customersReversed : Value :=
  match customers with
  | .object [schema, (name, .list [table, udt])] => .object [schema, (name, .list [udt, table])]
  | v => v

/-- The table and the UDT load in the other order, and the reference means the UDT again. -/
theorem customers_permuted : ∃ table udt,
    load customers = .ok [table, udt] ∧ load customersReversed = .ok [udt, table] ∧
      ∃ m ∈ table.members, m.type.udt = some "shop.address" := by
  have hrun : (match load customers with
      | .ok entities => entities.map (·.members.any (·.type.udt == some "shop.address"))
      | .error _ => []) = [true, false] := by decide +kernel
  obtain ⟨a, b, hnodes, hnodes'⟩ : ∃ a b, nodes? customers = some (.text "shop", [a, b]) ∧
      nodes? customersReversed = some (.text "shop", [b, a]) := ⟨_, _, rfl, rfl⟩
  have hpermuted := (load_permuted (Equiv.swap (0 : Fin [a, b].length) 1) hnodes hnodes').2
  split at hrun
  · rename_i entities hload
    obtain ⟨table, rest, rfl, hmembers, hrest⟩ := List.map_eq_cons_iff.1 hrun
    obtain ⟨udt, rest, rfl, -, hrest⟩ := List.map_eq_cons_iff.1 hrest
    obtain rfl := List.map_eq_nil_iff.1 hrest
    obtain ⟨_, hload'⟩ := hpermuted _ hload
    exact ⟨table, udt, hload, hload', by simpa using hmembers⟩
  · cases hrun

end TableInterfaces.Document
