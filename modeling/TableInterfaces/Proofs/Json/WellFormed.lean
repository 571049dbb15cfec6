import Mathlib.Data.List.Perm.Subperm
import TableInterfaces.Json.Token
import TableInterfaces.Proofs.Json.Fields
import TableInterfaces.Proofs.Json.Same
import TableInterfaces.Proofs.Number.Rounding

/-!
# Well-formed values

The values that a JSON text can have: whole numbers have no more digits than are read, doubles are
of the format, and the names of an object are different. Equality is an equivalence on them, and
equal values are equally deep. Main statements:

* `Value.WellFormed.same_refl` and `Value.WellFormed.same_symm`.
* `Value.WellFormed.depth_le_of_same`: a value is no deeper than one that it equals.
-/

namespace TableInterfaces.Json

open TableInterfaces.Number

namespace Value

/-- A value as a JSON text has it. -/
inductive WellFormed : Value → Prop where
  | null : WellFormed .null
  | bool (b : Bool) : WellFormed (.bool b)
  | int {n : Int} : (Nat.toDigits 10 n.natAbs).length ≤ maxDigits → WellFormed (.int n)
  | float {x : Double} : x.InFormat → WellFormed (.float x)
  | text (s : String) : WellFormed (.text s)
  | list {items : List Value} : (∀ v ∈ items, WellFormed v) → WellFormed (.list items)
  | object {fields : List (String × Value)} : (fields.map (·.1)).Nodup →
      (∀ field ∈ fields, WellFormed field.2) → WellFormed (.object fields)

variable {v w : Value} {items others : List Value} {fields later : List (String × Value)}

/-! ## Depth -/

theorem depth_le_itemsDepth (h : v ∈ items) : v.depth ≤ itemsDepth items := by
  induction items with
  | nil => cases h
  | cons w rest ih =>
    rw [itemsDepth]
    rcases List.mem_cons.1 h with rfl | h
    · exact Nat.le_max_left _ _
    · exact (ih h).trans (Nat.le_max_right _ _)

theorem itemsDepth_le {n : Nat} (h : ∀ v ∈ items, v.depth ≤ n) : itemsDepth items ≤ n := by
  induction items with
  | nil => exact Nat.zero_le n
  | cons w rest ih =>
    rw [itemsDepth]
    exact Nat.max_le.2 ⟨h w List.mem_cons_self, ih fun v hv => h v (List.mem_cons_of_mem w hv)⟩

theorem depth_le_fieldsDepth {field : String × Value} (h : field ∈ fields) :
    field.2.depth ≤ fieldsDepth fields := by
  induction fields with
  | nil => cases h
  | cons first rest ih =>
    obtain ⟨key, w⟩ := first
    rw [fieldsDepth]
    rcases List.mem_cons.1 h with rfl | h
    · exact Nat.le_max_left _ _
    · exact (ih h).trans (Nat.le_max_right _ _)

theorem fieldsDepth_le {n : Nat} (h : ∀ field ∈ fields, field.2.depth ≤ n) :
    fieldsDepth fields ≤ n := by
  induction fields with
  | nil => exact Nat.zero_le n
  | cons first rest ih =>
    obtain ⟨key, w⟩ := first
    rw [fieldsDepth]
    exact Nat.max_le.2
      ⟨h _ List.mem_cons_self, ih fun field hf => h field (List.mem_cons_of_mem _ hf)⟩

/-! ## Equality -/

theorem sameFields_iff : sameFields fields later = true ↔
    ∀ field ∈ fields, ∃ w, later.lookup field.1 = some w ∧ field.2.same w = true := by
  induction fields with
  | nil => exact ⟨fun _ => nofun, fun _ => rfl⟩
  | cons first rest ih =>
    obtain ⟨key, v⟩ := first
    rw [sameFields, Bool.and_eq_true, ih, List.forall_mem_cons]
    refine and_congr_left fun _ => ?_
    cases later.lookup key with
    | none => exact ⟨nofun, fun ⟨w, hw, _⟩ => by cases hw⟩
    | some w => exact ⟨fun h => ⟨w, rfl, h⟩, fun ⟨w', hw, h⟩ => by cases hw; exact h⟩

theorem sameItems_iff :
    sameItems items others = true ↔ List.Forall₂ (·.same · = true) items others := by
  induction items generalizing others with
  | nil => cases others <;> simp [sameItems]
  | cons v rest ih =>
    cases others with
    | nil => simp [sameItems]
    | cons w later => rw [sameItems, Bool.and_eq_true, ih, List.forall₂_cons]

/-- A value equals itself. -/
theorem WellFormed.same_refl (h : v.WellFormed) : v.same v = true := by
  induction h with
  | null | bool | int | text => simp [same]
  | float _ =>
    rename_i x _
    exact (same_iff_key (v := .float x) rfl).2 rfl
  | list _ ih => exact sameItems_iff.2 (List.forall₂_same.2 ih)
  | object hnames _ ih =>
    rw [same, beq_self_eq_true, Bool.true_and, sameFields_iff]
    exact fun field hf => ⟨field.2, lookup_eq_of_mem hnames hf, ih field hf⟩

theorem isHashable_iff_key : v.isHashable = true ↔ v.key.isSome = true := by
  cases v with
  | float x => cases x <;> exact ⟨fun _ => rfl, fun _ => rfl⟩
  | list | object => exact ⟨nofun, nofun⟩
  | _ => exact ⟨fun _ => rfl, fun _ => rfl⟩

/-- What equals a value without parts has no parts and is equal to it the other way round. -/
theorem same_symm_of_hashable (hv : v.isHashable = true) (h : v.same w = true) :
    w.same v = true := by
  have hkey := (same_iff_key hv).1 h
  have hw : w.isHashable = true := by
    rw [isHashable_iff_key, ← hkey]
    exact isHashable_iff_key.1 hv
  exact (same_iff_key hw).2 hkey.symm

/-- As many fields under different names, each with an equal one, leave out no name. -/
theorem names_subset_of_same (hnames : (fields.map (·.1)).Nodup)
    (hlength : fields.length = later.length) (h : sameFields fields later = true) :
    later.map (·.1) ⊆ fields.map (·.1) := by
  have hsubset : fields.map (·.1) ⊆ later.map (·.1) := by
    intro name hname
    obtain ⟨field, hf, rfl⟩ := List.mem_map.1 hname
    obtain ⟨w, hw, _⟩ := sameFields_iff.1 h field hf
    exact List.mem_map_of_mem (f := (·.1)) (mem_of_lookup_eq_some hw)
  have hperm := (hnames.subperm hsubset).perm_of_length_le
    (by rw [List.length_map, List.length_map, hlength])
  exact hperm.symm.subset

/-- Equality goes both ways. -/
theorem WellFormed.same_symm (hv : v.WellFormed) (hw : w.WellFormed) (h : v.same w = true) :
    w.same v = true := by
  induction hv generalizing w with
  | null | bool | int | float | text => exact same_symm_of_hashable rfl h
  | @list items hitems ih =>
    cases hw with
    | @list others hothers =>
      rw [same, sameItems_iff] at h ⊢
      induction h with
      | nil => exact .nil
      | @cons v w rest later hvw hrest ihrest =>
        have hv := List.mem_cons_self (a := v) (l := rest)
        have hw := List.mem_cons_self (a := w) (l := later)
        exact .cons (ih v hv (hothers w hw) hvw)
          (ihrest (fun u hu => hitems u (List.mem_cons_of_mem v hu))
            (fun u hu => ih u (List.mem_cons_of_mem v hu))
            fun u hu => hothers u (List.mem_cons_of_mem w hu))
    | _ => cases h
  | @object fields hnames _ ih =>
    cases hw with
    | @object others hothers hvalues =>
      rw [same, Bool.and_eq_true, beq_iff_eq] at h ⊢
      obtain ⟨hlength, hsame⟩ := h
      refine ⟨hlength.symm, sameFields_iff.2 fun field hf => ?_⟩
      have hname := names_subset_of_same hnames hlength hsame (List.mem_map_of_mem hf)
      obtain ⟨first, hfirst, heq⟩ := List.mem_map.1 hname
      obtain ⟨w, hw, hfw⟩ := sameFields_iff.1 hsame first hfirst
      rw [heq, lookup_eq_of_mem hothers hf, Option.some.injEq] at hw
      subst hw
      exact ⟨first.2, heq ▸ lookup_eq_of_mem hnames hfirst,
        ih first hfirst (hvalues field hf) hfw⟩
    | _ => cases h

/-- A value is no deeper than one that it equals. -/
theorem WellFormed.depth_le_of_same (hv : v.WellFormed) (h : v.same w = true) :
    v.depth ≤ w.depth := by
  induction hv generalizing w with
  | null | bool | int | float | text => exact Nat.zero_le _
  | @list items _ ih =>
    cases w with
    | list others =>
      rw [same, sameItems_iff] at h
      rw [depth, depth]
      refine Nat.add_le_add_left (itemsDepth_le fun v hv => ?_) 1
      obtain ⟨i, hi, rfl⟩ := List.getElem_of_mem hv
      have hi' : i < others.length := h.length_eq ▸ hi
      exact (ih _ hv (h.get hi hi')).trans (depth_le_itemsDepth (List.getElem_mem hi'))
    | _ => cases h
  | @object fields _ _ ih =>
    cases w with
    | object others =>
      rw [same, Bool.and_eq_true, sameFields_iff] at h
      rw [depth, depth]
      refine Nat.add_le_add_left (fieldsDepth_le fun field hf => ?_) 1
      obtain ⟨w, hw, hfw⟩ := h.2 field hf
      exact (ih field hf hfw).trans (depth_le_fieldsDepth (mem_of_lookup_eq_some hw))
    | _ => cases h

end Value

end TableInterfaces.Json
