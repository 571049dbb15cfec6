import Mathlib.Data.List.Nodup
import TableInterfaces.Json.Value

/-!
# Fields

What assignments do to fields: which fields there are, under which names, and what a name means
then. Fields whose names are different are what their names mean.
-/

namespace TableInterfaces.Json

variable {α : Type} {fields later : List (String × α)} {name : String} {v : α}

/-! ## Members -/

/-- An assignment leaves the new field, and old ones. -/
theorem mem_assign {field : String × α} (h : field ∈ assign fields name v) :
    field = (name, v) ∨ field ∈ fields := by
  induction fields with
  | nil => exact .inl (List.mem_singleton.1 h)
  | cons first rest ih =>
    obtain ⟨key, w⟩ := first
    rw [assign] at h
    split at h
    · rename_i hkey
      rcases List.mem_cons.1 h with rfl | h
      · exact .inl (by rw [hkey])
      · exact .inr (List.mem_cons_of_mem _ h)
    · rcases List.mem_cons.1 h with rfl | h
      · exact .inr List.mem_cons_self
      · exact (ih h).imp_right (List.mem_cons_of_mem _)

/-- Fields after assignments come from one of both. -/
theorem mem_merge {field : String × α} (h : field ∈ merge fields later) :
    field ∈ fields ∨ field ∈ later := by
  induction later generalizing fields with
  | nil => exact .inl h
  | cons first rest ih =>
    rcases ih h with h | h
    · exact (mem_assign h).elim (fun h => .inr (h ▸ List.mem_cons_self)) .inl
    · exact .inr (List.mem_cons_of_mem _ h)

theorem merge_cons (fields later : List (String × α)) (field : String × α) :
    merge fields (field :: later) = merge (assign fields field.1 field.2) later :=
  rfl

/-! ## Names -/

/-- A new name goes last. -/
theorem assign_of_not_mem (h : name ∉ fields.map (·.1)) :
    assign fields name v = fields ++ [(name, v)] := by
  induction fields with
  | nil => rfl
  | cons first rest ih =>
    obtain ⟨key, w⟩ := first
    rw [List.map_cons, List.mem_cons, not_or] at h
    rw [assign, if_neg fun hkey => h.1 hkey.symm, ih h.2, List.cons_append]

/-- A name that is there keeps its place. -/
theorem names_assign_of_mem (h : name ∈ fields.map (·.1)) :
    (assign fields name v).map (·.1) = fields.map (·.1) := by
  induction fields with
  | nil => cases h
  | cons first rest ih =>
    obtain ⟨key, w⟩ := first
    rw [assign]
    split
    · rfl
    · rename_i hkey
      rw [List.map_cons, List.mem_cons] at h
      rw [List.map_cons, ih (h.resolve_left fun heq => hkey heq.symm), List.map_cons]

/-- An assignment leaves different names different. -/
theorem nodup_assign (h : (fields.map (·.1)).Nodup) :
    ((assign fields name v).map (·.1)).Nodup := by
  by_cases hname : name ∈ fields.map (·.1)
  · rwa [names_assign_of_mem hname]
  · rw [assign_of_not_mem hname, List.map_append, List.map_singleton]
    exact List.Nodup.append h (List.nodup_singleton name) (by simpa using hname)

theorem nodup_merge (h : (fields.map (·.1)).Nodup) : ((merge fields later).map (·.1)).Nodup := by
  induction later generalizing fields with
  | nil => exact h
  | cons first rest ih => exact ih (nodup_assign h)

/-- Fields under new and different names go last. -/
theorem merge_eq_append (h : ((fields ++ later).map (·.1)).Nodup) :
    merge fields later = fields ++ later := by
  induction later generalizing fields with
  | nil => rw [List.append_nil]; rfl
  | cons first rest ih =>
    obtain ⟨key, w⟩ := first
    have hkey : key ∉ fields.map (·.1) := by
      intro hmem
      rw [List.map_append, List.map_cons] at h
      exact (List.nodup_append.1 h).2.2 key hmem key List.mem_cons_self rfl
    rw [merge_cons, assign_of_not_mem hkey, ih (by simpa using h), List.append_assoc,
      List.singleton_append]

/-- Fields under different names are assigned as they are. -/
theorem merge_nil (h : (later.map (·.1)).Nodup) : merge [] later = later :=
  merge_eq_append h

/-! ## Meanings -/

/-- A name means what a field says whose name is the only one of its kind. -/
theorem lookup_eq_of_mem (hnames : (fields.map (·.1)).Nodup) (h : (name, v) ∈ fields) :
    fields.lookup name = some v := by
  induction fields with
  | nil => cases h
  | cons first rest ih =>
    obtain ⟨key, w⟩ := first
    rw [List.map_cons, List.nodup_cons] at hnames
    rcases List.mem_cons.1 h with heq | h
    · cases heq
      exact List.lookup_cons_self
    · have hne : (name == key) = false :=
        beq_eq_false_iff_ne.2 fun heq => hnames.1 (heq ▸ List.mem_map_of_mem (f := (·.1)) h)
      rw [List.lookup_cons, hne]
      exact ih hnames.2 h

/-- After assignments a name means what the later fields say, or else what the earlier ones say. -/
theorem lookup_merge (h : (later.map (·.1)).Nodup) :
    (merge fields later).lookup name = (later.lookup name).or (fields.lookup name) := by
  induction later generalizing fields with
  | nil => rfl
  | cons first rest ih =>
    obtain ⟨key, w⟩ := first
    obtain ⟨hkey, hrest⟩ := List.nodup_cons.1 h
    rw [merge_cons, ih hrest, List.lookup_cons]
    by_cases heq : name = key
    · subst heq
      have hnone : rest.lookup name = none := by
        rw [List.lookup_eq_none_iff]
        exact fun field hfield => bne_iff_ne.2 fun heq =>
          hkey (List.mem_map.2 ⟨field, hfield, heq.symm⟩)
      rw [hnone, lookup_assign_self, beq_self_eq_true]
      rfl
    · rw [lookup_assign_of_ne fields w heq, beq_false_of_ne heq]

/-- What a name means is the value of a field. -/
theorem mem_of_lookup_eq_some (h : fields.lookup name = some v) : (name, v) ∈ fields := by
  obtain ⟨front, back, rfl, _⟩ := List.lookup_eq_some_iff.1 h
  exact List.mem_append_right _ List.mem_cons_self

end TableInterfaces.Json
