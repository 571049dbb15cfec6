import Mathlib.Data.List.Perm.Subperm
import TableInterfaces.Config.Entries
import TableInterfaces.Proofs.Json.Parsed
import TableInterfaces.Proofs.Json.Written
import TableInterfaces.Proofs.Result

/-!
# Entries

What assignments do to entries whose names are told apart by their keys. Main statements:

* `Entries.get?_merge`: a name means what the later entries say, or else what the earlier ones say.
* `Entries.exists_of_same`: equal entries have equal values under the same names, both ways.
* `Entries.wellFormed_of_ofValue`: what is read from a value is well-formed, and less deep than it.
-/

namespace TableInterfaces

open TableInterfaces.Json
open TableInterfaces.Text

namespace Entries

/-- The names of entries have no parts and are different, and the values are those of a JSON
text. -/
structure WellFormed (entries : Entries) : Prop where
  hashable : ∀ entry ∈ entries, entry.1.isHashable = true
  keys : (entries.map (·.1.key)).Nodup
  values : ∀ entry ∈ entries, entry.2.WellFormed

variable {entries later others : Entries} {name other v w : Value}
  {fields : List (String × Value)}

theorem WellFormed.nil : WellFormed [] :=
  ⟨nofun, List.nodup_nil, nofun⟩

theorem wellFormed_cons : WellFormed ((name, v) :: entries) ↔
    (name.isHashable = true ∧ v.WellFormed ∧ name.key ∉ entries.map (·.1.key)) ∧
      entries.WellFormed := by
  constructor
  · intro ⟨hhashable, hkeys, hvalues⟩
    obtain ⟨hname, hrest⟩ := List.forall_mem_cons.1 hhashable
    obtain ⟨hv, hvalues⟩ := List.forall_mem_cons.1 hvalues
    obtain ⟨hkey, hkeys⟩ := List.nodup_cons.1 hkeys
    exact ⟨⟨hname, hv, hkey⟩, hrest, hkeys, hvalues⟩
  · intro ⟨⟨hname, hv, hkey⟩, hrest, hkeys, hvalues⟩
    exact ⟨List.forall_mem_cons.2 ⟨hname, hrest⟩, List.nodup_cons.2 ⟨hkey, hkeys⟩,
      List.forall_mem_cons.2 ⟨hv, hvalues⟩⟩

theorem WellFormed.filter (h : entries.WellFormed) (p : Value × Value → Bool) :
    WellFormed (entries.filter p) where
  hashable entry hentry := h.hashable entry (List.mem_of_mem_filter hentry)
  keys := h.keys.sublist (List.filter_sublist.map _)
  values entry hentry := h.values entry (List.mem_of_mem_filter hentry)

/-! ## Texts as names -/

/-- Only a text has the key of a text. -/
theorem eq_text_of_key {s : String} (h : name.key = (Value.text s).key) : name = .text s := by
  cases name with
  | text t =>
    rw [Value.key, Value.key, Option.some.injEq, Key.text.injEq] at h
    rw [h]
  | float x => cases x <;> cases h
  | _ => cases h

/-- Fields under different names are entries under different keys. -/
theorem wellFormed_ofFields (h : FieldsWellFormed fields) : (ofFields fields).WellFormed where
  hashable entry hentry := by
    obtain ⟨field, _, rfl⟩ := List.mem_map.1 hentry
    rfl
  keys := by
    rw [ofFields, List.map_map]
    have hinjective : Function.Injective fun s => (Value.text s).key := by
      intro s t hst
      exact Key.text.inj (Option.some.inj hst)
    have hkeys := h.names.map hinjective
    rwa [List.map_map] at hkeys
  values entry hentry := by
    obtain ⟨field, hfield, rfl⟩ := List.mem_map.1 hentry
    exact h.values field hfield

/-! ## Meanings -/

theorem get?_cons (rest : Entries) : get? ((name, v) :: rest) other =
    if name.same other then some v else get? rest other := by
  unfold get?
  rw [List.find?_cons]
  cases name.same other <;> rfl

/-- A name means the value of the entry with its key. -/
theorem get?_eq_some_iff (h : entries.WellFormed) :
    entries.get? other = some v ↔ ∃ name, (name, v) ∈ entries ∧ name.key = other.key := by
  induction entries with
  | nil => exact ⟨nofun, fun ⟨_, hmem, _⟩ => absurd hmem List.not_mem_nil⟩
  | cons first rest ih =>
    obtain ⟨name, w⟩ := first
    obtain ⟨⟨hname, _, hkey⟩, hrest⟩ := wellFormed_cons.1 h
    rw [get?_cons]
    split
    · rename_i hsame
      have heq := (Value.same_iff_key hname).1 hsame
      constructor
      · intro hw
        cases hw
        exact ⟨name, List.mem_cons_self, heq⟩
      · rintro ⟨name', hmem, heq'⟩
        rcases List.mem_cons.1 hmem with heq | hmem
        · cases heq
          rfl
        · -- The key of the first entry is no key of the others.
          refine absurd (List.mem_map_of_mem (f := (·.1.key)) hmem) ?_
          rwa [heq', ← heq]
    · rename_i hsame
      have hne := mt (Value.same_iff_key hname).2 hsame
      rw [ih hrest]
      refine exists_congr fun name' => and_congr_left fun heq' => ?_
      rw [List.mem_cons]
      refine ⟨.inr, fun hmem => hmem.resolve_left fun heq => ?_⟩
      cases heq
      exact hne heq'

theorem get?_eq_none_iff (h : ∀ entry ∈ entries, entry.1.isHashable = true) :
    entries.get? other = none ↔ ∀ entry ∈ entries, entry.1.key ≠ other.key := by
  unfold get?
  rw [Option.map_eq_none_iff, List.find?_eq_none]
  exact forall₂_congr fun entry hentry => not_congr (Value.same_iff_key (h entry hentry))

/-- Fields as entries mean what they mean as fields. -/
theorem get?_ofFields (s : String) : (ofFields fields).get? (.text s) = fields.lookup s := by
  induction fields with
  | nil => rfl
  | cons field rest ih =>
    obtain ⟨key, v⟩ := field
    rw [ofFields, List.map_cons, get?_cons, List.lookup_cons]
    by_cases heq : key = s
    · subst heq
      simp [Value.same]
    · have hne : (s == key) = false := beq_eq_false_iff_ne.2 (Ne.symm heq)
      have hsame : (Value.text key).same (.text s) = false := by simpa [Value.same] using heq
      rw [hne, hsame, if_neg Bool.false_ne_true]
      exact ih

/-! ## Assignments -/

/-- An assignment leaves the new value, under its name or one that was there, and old entries. -/
theorem mem_assign {entry : Value × Value} (h : entry ∈ assign entries name v) :
    (entry.2 = v ∧ (entry.1 = name ∨ entry.1 ∈ entries.map (·.1))) ∨ entry ∈ entries := by
  induction entries with
  | nil =>
    cases List.mem_singleton.1 h
    exact .inl ⟨rfl, .inl rfl⟩
  | cons first rest ih =>
    obtain ⟨k, w⟩ := first
    rw [assign] at h
    split at h
    · rcases List.mem_cons.1 h with rfl | h
      · exact .inl ⟨rfl, .inr List.mem_cons_self⟩
      · exact .inr (List.mem_cons_of_mem _ h)
    · rcases List.mem_cons.1 h with rfl | h
      · exact .inr List.mem_cons_self
      · rcases ih h with ⟨hv, hname⟩ | h
        · exact .inl ⟨hv, hname.imp_right (List.mem_cons_of_mem _)⟩
        · exact .inr (List.mem_cons_of_mem _ h)

/-- A new name goes last. -/
theorem assign_of_not_mem (hhashable : ∀ entry ∈ entries, entry.1.isHashable = true)
    (h : name.key ∉ entries.map (·.1.key)) : assign entries name v = entries ++ [(name, v)] := by
  induction entries with
  | nil => rfl
  | cons first rest ih =>
    obtain ⟨k, w⟩ := first
    obtain ⟨hk, hrest⟩ := List.forall_mem_cons.1 hhashable
    rw [List.map_cons, List.mem_cons, not_or] at h
    have hne : ¬ k.same name = true :=
      fun hsame => h.1 ((Value.same_iff_key hk).1 hsame).symm
    rw [assign, if_neg hne, ih hrest h.2, List.cons_append]

/-- A name that is there keeps its place. -/
theorem keys_assign_of_mem (hhashable : ∀ entry ∈ entries, entry.1.isHashable = true)
    (h : name.key ∈ entries.map (·.1.key)) :
    (assign entries name v).map (·.1.key) = entries.map (·.1.key) := by
  induction entries with
  | nil => cases h
  | cons first rest ih =>
    obtain ⟨k, w⟩ := first
    obtain ⟨hk, hrest⟩ := List.forall_mem_cons.1 hhashable
    rw [assign]
    split
    · rfl
    · rename_i hsame
      have hne := mt (Value.same_iff_key hk).2 hsame
      rw [List.map_cons, List.mem_cons] at h
      rw [List.map_cons, ih hrest (h.resolve_left fun heq => hne heq.symm), List.map_cons]

/-- After an assignment its name means the new value, and every other name what it meant. -/
theorem get?_assign (hhashable : ∀ entry ∈ entries, entry.1.isHashable = true)
    (hname : name.isHashable = true) : (assign entries name v).get? other =
      if name.same other then some v else entries.get? other := by
  induction entries with
  | nil => exact get?_cons []
  | cons first rest ih =>
    obtain ⟨k, w⟩ := first
    obtain ⟨hk, hrest⟩ := List.forall_mem_cons.1 hhashable
    rw [assign]
    split
    · rename_i hsame
      have hcongr : k.same other = name.same other := by
        rw [Bool.eq_iff_iff, Value.same_iff_key hk, Value.same_iff_key hname,
          (Value.same_iff_key hk).1 hsame]
      rw [get?_cons, get?_cons, hcongr]
      split
      · rfl
      · rfl
    · rename_i hsame
      rw [get?_cons, get?_cons, ih hrest]
      split
      · rename_i hother
        have hne : ¬ name.same other = true := by
          intro hother'
          refine hsame ((Value.same_iff_key hk).2 ?_)
          exact ((Value.same_iff_key hk).1 hother).trans ((Value.same_iff_key hname).1 hother').symm
        rw [if_neg hne]
      · rfl

theorem WellFormed.assign (h : entries.WellFormed) (hname : name.isHashable = true)
    (hv : v.WellFormed) : (assign entries name v).WellFormed where
  hashable entry hentry := by
    rcases mem_assign hentry with ⟨_, heq | hold⟩ | hold
    · rwa [heq]
    · obtain ⟨old, hmem, heq⟩ := List.mem_map.1 hold
      rw [← heq]
      exact h.hashable old hmem
    · exact h.hashable entry hold
  keys := by
    by_cases hmem : name.key ∈ entries.map (·.1.key)
    · rw [keys_assign_of_mem h.hashable hmem]
      exact h.keys
    · rw [assign_of_not_mem h.hashable hmem, List.map_append, List.map_singleton]
      exact List.Nodup.append h.keys (List.nodup_singleton _) (List.disjoint_singleton.2 hmem)
  values entry hentry := by
    rcases mem_assign hentry with ⟨heq, _⟩ | hold
    · rwa [heq]
    · exact h.values entry hold

theorem merge_cons (entries later : Entries) (entry : Value × Value) :
    merge entries (entry :: later) = merge (Entries.assign entries entry.1 entry.2) later :=
  rfl

/-- Entries after assignments have values of the later ones, or are earlier ones. -/
theorem mem_merge {entry : Value × Value} (h : entry ∈ merge entries later) :
    entry.2 ∈ later.map (·.2) ∨ entry ∈ entries := by
  induction later generalizing entries with
  | nil => exact .inr h
  | cons first rest ih =>
    rcases ih h with h | h
    · exact .inl (List.mem_cons_of_mem _ h)
    · rcases mem_assign h with ⟨hv, _⟩ | h
      · rw [hv]
        exact .inl List.mem_cons_self
      · exact .inr h

theorem WellFormed.merge (h : entries.WellFormed) (hlater : later.WellFormed) :
    (merge entries later).WellFormed := by
  induction later generalizing entries with
  | nil => exact h
  | cons first rest ih =>
    obtain ⟨⟨hname, hv, _⟩, hrest⟩ := wellFormed_cons.1 hlater
    exact ih (h.assign hname hv) hrest

/-- **A name means what the later entries say, or else what the earlier ones say.** -/
theorem get?_merge (h : entries.WellFormed) (hlater : later.WellFormed) :
    (merge entries later).get? other = (later.get? other).or (entries.get? other) := by
  induction later generalizing entries with
  | nil => exact Option.none_or.symm
  | cons first rest ih =>
    obtain ⟨name, v⟩ := first
    obtain ⟨⟨hname, hv, hkey⟩, hrest⟩ := wellFormed_cons.1 hlater
    rw [merge_cons, ih (h.assign hname hv) hrest, get?_assign h.hashable hname, get?_cons]
    split
    · rename_i hsame
      have heq := (Value.same_iff_key hname).1 hsame
      have hnone : get? rest other = none := by
        rw [get?_eq_none_iff hrest.hashable]
        intro entry hentry heq'
        rw [heq, ← heq'] at hkey
        exact hkey (List.mem_map_of_mem (f := (·.1.key)) hentry)
      rw [hnone]
      rfl
    · rfl

/-- An assignment to a field is an assignment to the entry under the text. -/
theorem assign_ofFields (s : String) :
    assign (ofFields fields) (.text s) v = ofFields (Json.assign fields s v) := by
  induction fields with
  | nil => rfl
  | cons field rest ih =>
    obtain ⟨key, w⟩ := field
    rw [ofFields, List.map_cons, assign, Json.assign]
    by_cases heq : key = s
    · rw [if_pos (by simpa [Value.same] using heq), if_pos heq]
      rfl
    · rw [if_neg (by simpa [Value.same] using heq), if_neg heq]
      exact congrArg (List.cons _) ih

/-- Assignments to fields are assignments to the entries under the texts. -/
theorem merge_ofFields (fields later : List (String × Value)) :
    merge (ofFields fields) (ofFields later) = ofFields (Json.merge fields later) := by
  induction later generalizing fields with
  | nil => rfl
  | cons field rest ih =>
    rw [Json.merge_cons, ← ih, ← assign_ofFields]
    rfl

/-! ## Equality -/

/-- **Equal entries leave out no name.** Each entry of the second has one of the first under its
key, with an equal value. -/
theorem exists_of_same (h : entries.WellFormed) (hothers : others.WellFormed)
    (hsame : entries.same others = true) {entry : Value × Value} (hentry : entry ∈ others) :
    ∃ first ∈ entries, first.1.key = entry.1.key ∧ first.2.same entry.2 = true := by
  rw [same, Bool.and_eq_true, beq_iff_eq, List.all_eq_true] at hsame
  obtain ⟨hlength, hall⟩ := hsame
  have hfound : ∀ first ∈ entries, ∃ second ∈ others,
      second.1.key = first.1.key ∧ first.2.same second.2 = true := by
    intro first hfirst
    have hget := hall first hfirst
    split at hget
    · rename_i w hw
      obtain ⟨name, hmem, hkey⟩ := (get?_eq_some_iff hothers).1 hw
      exact ⟨(name, w), hmem, hkey, hget⟩
    · cases hget
  -- As many different keys, each of them a key of the others, are all keys of the others.
  have hsubset : entries.map (·.1.key) ⊆ others.map (·.1.key) := by
    intro key hkey
    obtain ⟨first, hfirst, rfl⟩ := List.mem_map.1 hkey
    obtain ⟨second, hsecond, heq, _⟩ := hfound first hfirst
    exact List.mem_map.2 ⟨second, hsecond, heq⟩
  have hperm := (h.keys.subperm hsubset).perm_of_length_le
    (by rw [List.length_map, List.length_map, hlength])
  obtain ⟨first, hfirst, hkey⟩ := List.mem_map.1
    (hperm.symm.subset (List.mem_map_of_mem (f := (·.1.key)) hentry))
  obtain ⟨second, hsecond, heq, hvalue⟩ := hfound first hfirst
  have hsecond' : second = entry :=
    List.inj_on_of_nodup_map hothers.keys hsecond hentry (heq.trans hkey)
  subst hsecond'
  exact ⟨first, hfirst, hkey, hvalue⟩

/-- Entries equal themselves. -/
theorem WellFormed.same_refl (h : entries.WellFormed) : entries.same entries = true := by
  rw [same, beq_self_eq_true, Bool.true_and, List.all_eq_true]
  intro entry hentry
  rw [(get?_eq_some_iff h).2 ⟨entry.1, hentry, rfl⟩]
  exact (h.values entry hentry).same_refl

/-! ## Reading -/

/-- The parts of an item are those of a JSON text, and they are less deep than a list with the
item. -/
theorem parts_wellFormed {parts : List Value} (hv : v.WellFormed) (h : parts? v = some parts) :
    ∀ part ∈ parts, part.WellFormed ∧ part.depth ≤ v.depth := by
  intro part hpart
  unfold parts? at h
  split at h
  · cases h
    cases hv with
    | list hitems =>
      refine ⟨hitems part hpart, ?_⟩
      rw [Value.depth]
      exact (Value.depth_le_itemsDepth hpart).trans (Nat.le_add_left _ 1)
  · cases h
    obtain ⟨c, _, rfl⟩ := List.mem_map.1 hpart
    exact ⟨.text _, Nat.zero_le _⟩
  · cases h
    obtain ⟨field, _, rfl⟩ := List.mem_map.1 hpart
    exact ⟨.text _, Nat.zero_le _⟩
  · cases h

/-- What is read from items is well-formed, and no deeper than the items. -/
theorem wellFormed_of_ofItems {index : Nat} {read : Entries} {items : List Value} {n : Nat}
    (hread : read.WellFormed) (hdeep : ∀ entry ∈ read, entry.2.depth ≤ n)
    (hitems : ∀ item ∈ items, item.WellFormed ∧ item.depth ≤ n)
    (h : ofItems index read items = .ok entries) :
    entries.WellFormed ∧ ∀ entry ∈ entries, entry.2.depth ≤ n := by
  induction items generalizing index read with
  | nil =>
    cases h
    exact ⟨hread, hdeep⟩
  | cons item rest ih =>
    obtain ⟨⟨hitem, hdepth⟩, hrest⟩ := List.forall_mem_cons.1 hitems
    rw [ofItems] at h
    split at h
    · cases h
    · rename_i name v hparts
      have hall := parts_wellFormed hitem hparts
      obtain ⟨hv, hvdepth⟩ := hall v (List.mem_cons_of_mem _ List.mem_cons_self)
      obtain ⟨_, hcheck, h⟩ := Result.ok_of_bind h
      have hname : name.isHashable = true := by
        unfold Value.checkHashable at hcheck
        split at hcheck
        · assumption
        · cases hcheck
      refine ih (hread.assign hname hv) ?_ hrest h
      intro entry hentry
      rcases mem_assign hentry with ⟨heq, _⟩ | hold
      · rw [heq]
        exact hvdepth.trans hdepth
      · exact hdeep entry hold
    · cases h

/-- **What is read from a value is well-formed, and less deep than the value.** -/
theorem wellFormed_of_ofValue (hv : v.WellFormed) (h : ofValue v = .ok entries) :
    entries.WellFormed ∧ ∀ entry ∈ entries, entry.2.depth < v.depth := by
  unfold ofValue at h
  split at h
  · rename_i fields
    cases h
    cases hv with
    | object hnames hvalues =>
      refine ⟨wellFormed_ofFields ⟨hnames, hvalues⟩, fun entry hentry => ?_⟩
      obtain ⟨field, hfield, rfl⟩ := List.mem_map.1 hentry
      rw [Value.depth, Nat.lt_one_add_iff]
      exact Value.depth_le_fieldsDepth hfield
  · rename_i items
    cases hv with
    | list hitems =>
      have hread := wellFormed_of_ofItems (n := Value.itemsDepth items) WellFormed.nil
        (fun entry hentry => absurd hentry List.not_mem_nil)
        (fun item hitem => ⟨hitems item hitem, Value.depth_le_itemsDepth hitem⟩) h
      refine ⟨hread.1, fun entry hentry => ?_⟩
      rw [Value.depth, Nat.lt_one_add_iff]
      exact hread.2 entry hentry
  · -- A character is no pair, so only the empty text is read.
    rename_i s
    cases hs : s.toList with
    | nil =>
      rw [hs] at h
      cases h
      exact ⟨WellFormed.nil, fun entry hentry => absurd hentry List.not_mem_nil⟩
    | cons c rest =>
      rw [hs, List.map_cons, ofItems] at h
      have hparts : parts? (.text (String.singleton c)) =
          some [.text (String.singleton c)] := by
        simp [parts?]
      rw [hparts] at h
      cases h
  · cases h

/-! ## Writing -/

/-- Only a text is written like a text that is no numeral and no constant. -/
theorem eq_text_of_writtenName {s : String} (hname : name.isHashable = true)
    (hconstant : s.toList ∉ namedConstants.map (·.1))
    (hmark : ∃ c ∈ s.toList, ¬ IsNumeralChar c) (h : writtenName name = s) : name = .text s := by
  obtain ⟨c, hc, hmark⟩ := hmark
  subst h
  cases name with
  | text t => rfl
  | int n => exact absurd (isNumeralChar_int n c hc) hmark
  | float x =>
    cases x with
    | finite negative m e => exact absurd (isNumeralChar_finite negative m e c hc) hmark
    | infinite negative => cases negative <;> exact absurd (by decide) hconstant
    | nan => exact absurd (by decide) hconstant
  | null => exact absurd (by decide) hconstant
  | bool b => cases b <;> exact absurd (by decide) hconstant
  | list | object => cases hname

end Entries

end TableInterfaces
