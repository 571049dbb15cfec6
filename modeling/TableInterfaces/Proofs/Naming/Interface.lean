import Mathlib.Data.List.Induction
import TableInterfaces.Naming.Interface
import TableInterfaces.Proofs.Json.Same
import TableInterfaces.Proofs.Result

/-!
# The names of a run

What the package and the interface name of an entity are where a run gives them. They depend on the
configuration and on whether schemas have packages, and not on the texts that have been made names
before: those only decide whether a name that is no text is an error.
-/

namespace TableInterfaces.Naming

open TableInterfaces.Json

/-! ## Values without repetitions -/

/-- One more value is kept if it is new. -/
theorem distinct_concat (values : List Value) (v : Value) :
    distinct (values ++ [v]) =
      if (distinct values).any (·.same v) then distinct values else distinct values ++ [v] := by
  rw [distinct, distinct, List.foldl_append]
  rfl

/-- What remains without repetitions was there before. -/
theorem mem_of_mem_distinct {values : List Value} {v : Value} (h : v ∈ distinct values) :
    v ∈ values := by
  induction values using List.reverseRecOn with
  | nil => exact h
  | append_singleton values w ih =>
    rw [distinct_concat] at h
    split at h
    · exact List.mem_append_left _ (ih h)
    · exact (List.mem_append.1 h).elim (fun h => List.mem_append_left _ (ih h))
        (List.mem_append_right _)

/-- Values without parts remain by their keys: each key that is there, and each once. -/
theorem distinct_keys {values : List Value} (h : ∀ v ∈ values, v.isHashable = true) :
    ((distinct values).map Value.key).Nodup ∧
      ∀ k, k ∈ (distinct values).map Value.key ↔ k ∈ values.map Value.key := by
  induction values using List.reverseRecOn with
  | nil => exact ⟨List.nodup_nil, fun _ => Iff.rfl⟩
  | append_singleton values w ih =>
    obtain ⟨hnodup, hmem⟩ := ih fun v hv => h v (List.mem_append_left _ hv)
    have hknown : (distinct values).any (·.same w) = true ↔
        w.key ∈ (distinct values).map Value.key := by
      rw [List.any_eq_true, List.mem_map]
      refine exists_congr fun v => and_congr_right fun hv => ?_
      exact Value.same_iff_key (h v (List.mem_append_left _ (mem_of_mem_distinct hv)))
    rw [distinct_concat]
    split
    · rename_i hfound
      refine ⟨hnodup, fun k => (hmem k).trans ?_⟩
      rw [List.map_append, List.map_singleton, List.mem_append, List.mem_singleton]
      exact ⟨.inl, fun hk => hk.elim id fun hk => hk ▸ (hmem _).1 (hknown.1 hfound)⟩
    · rename_i hnew
      rw [List.map_append, List.map_append, List.map_singleton]
      refine ⟨List.nodup_append.2 ⟨hnodup, List.pairwise_singleton _ _, fun k hk k' hk' hkk' => ?_⟩,
        fun k => ?_⟩
      · rw [List.mem_singleton.1 hk'] at hkk'
        exact hnew (hknown.2 (hkk' ▸ hk))
      · rw [List.mem_append, List.mem_append, hmem]

/-- A value remains, or one that is the same. -/
theorem mem_distinct_or_same {values : List Value} {v : Value} (h : v ∈ values) :
    v ∈ distinct values ∨ ∃ w ∈ distinct values, w.same v = true := by
  induction values using List.reverseRecOn with
  | nil => cases h
  | append_singleton values w ih =>
    rw [distinct_concat]
    split
    · rename_i hfound
      rcases List.mem_append.1 h with h | h
      · exact ih h
      · rw [List.mem_singleton.1 h]
        exact .inr (List.any_eq_true.1 hfound)
    · rcases List.mem_append.1 h with h | h
      · exact (ih h).imp (List.mem_append_left _) fun ⟨x, hx, hsame⟩ =>
          ⟨x, List.mem_append_left _ hx, hsame⟩
      · exact .inl (List.mem_append_right _ h)

/-- If all that remains is texts, all that was there is texts. -/
theorem texts_of_distinct {values : List Value} (h : ∀ v ∈ distinct values, v.kind = .text) :
    ∀ v ∈ values, v.kind = .text := by
  intro v hv
  rcases mem_distinct_or_same hv with hv | ⟨w, hw, hsame⟩
  · exact h v hv
  · have hw := h w hw
    cases w with
    | text s => cases v with
      | text t => rfl
      | _ => cases hsame
    | _ => cases hw

/-- Values that are all texts are a row of texts. -/
theorem exists_texts {values : List Value} (h : ∀ v ∈ values, v.kind = .text) :
    ∃ texts : List String, values = texts.map Value.text := by
  induction values with
  | nil => exact ⟨[], rfl⟩
  | cons v rest ih =>
    obtain ⟨texts, rfl⟩ := ih fun w hw => h w (List.mem_cons_of_mem _ hw)
    have hv := h v List.mem_cons_self
    cases v with
    | text s => exact ⟨s :: texts, rfl⟩
    | _ => cases hv

/-- Texts remain once each, in the order of their first places. -/
theorem distinct_texts (texts : List String) :
    distinct (texts.map Value.text) = texts.eraseDups.map Value.text := by
  induction texts using List.reverseRecOn with
  | nil => rfl
  | append_singleton texts s ih =>
    have hfound : (distinct (texts.map Value.text)).any (·.same (.text s)) = true ↔ s ∈ texts := by
      rw [ih, List.any_map, List.any_eq_true]
      exact ⟨fun ⟨t, ht, hsame⟩ => (beq_iff_eq.1 hsame) ▸ List.mem_eraseDups.1 ht,
        fun hs => ⟨s, List.mem_eraseDups.2 hs, beq_iff_eq.2 rfl⟩⟩
    rw [List.map_append, List.map_singleton, distinct_concat, List.eraseDups_append, ih]
    by_cases hs : s ∈ texts
    · rw [← ih, if_pos (hfound.2 hs), ih]
      simp [List.removeAll, hs]
    · rw [← ih, if_neg (mt hfound.1 hs), ih, List.map_append]
      simp [List.removeAll, hs, List.eraseDups_cons]

/-- Rows of the same keys have equally many without repetitions. -/
theorem distinct_length_congr {values others : List Value}
    (h : ∀ v ∈ values, v.isHashable = true) (h' : ∀ v ∈ others, v.isHashable = true)
    (hsame : ∀ k, k ∈ values.map Value.key ↔ k ∈ others.map Value.key) :
    (distinct values).length = (distinct others).length := by
  obtain ⟨hnodup, hmem⟩ := distinct_keys h
  obtain ⟨hnodup', hmem'⟩ := distinct_keys h'
  have hperm := (List.perm_ext_iff_of_nodup hnodup hnodup').2 fun k =>
    (hmem k).trans ((hsame k).trans (hmem' k).symm)
  simpa only [List.length_map] using hperm.length_eq

namespace InterfaceNames

/-! ## Packages and interface names -/

/-- The interface name that a configuration gives an entity. -/
def interfaceText (names : InterfaceNames) (e : Entity) : String :=
  names.config.label .interfaceStart ++ jvmWords.sanitize e.name.display "_"

/-- The names of two moments of a run. -/
structure Agree (names later : InterfaceNames) : Prop where
  config : later.config = names.config
  schemaPackages : later.schemaPackages = names.schemaPackages

theorem Agree.refl (names : InterfaceNames) : names.Agree names :=
  ⟨rfl, rfl⟩

theorem Agree.symm {names later : InterfaceNames} (h : names.Agree later) : later.Agree names :=
  ⟨h.config.symm, h.schemaPackages.symm⟩

/-- What is remembered does not matter. -/
theorem Agree.remember (names : InterfaceNames) (values : List Value) :
    names.Agree (names.remember values) :=
  ⟨rfl, rfl⟩

theorem Agree.trans {a b c : InterfaceNames} (h : a.Agree b) (h' : b.Agree c) : a.Agree c :=
  ⟨h'.config.trans h.config, h'.schemaPackages.trans h.schemaPackages⟩

/-- The package of an entity is the same throughout a run. -/
theorem Agree.package_eq {names later : InterfaceNames} (h : names.Agree later) (e : Entity) :
    later.package e = names.package e := by
  simp only [package, segments, h.config, h.schemaPackages]

/-- The interface name of an entity is the same throughout a run. -/
theorem Agree.interfaceText_eq {names later : InterfaceNames} (h : names.Agree later)
    (e : Entity) : later.interfaceText e = names.interfaceText e := by
  simp only [interfaceText, h.config]

/-- What is remembered does not matter where the name of the entity is a text. -/
theorem qualifiedInterface_remember (names : InterfaceNames) {e : Entity} (h : e.name.kind = .text)
    (values : List Value) :
    (names.remember values).qualifiedInterface e = names.qualifiedInterface e := by
  have hname : (names.remember values).className e.name = names.className e.name := by
    cases hv : e.name with
    | text s => rfl
    | _ => rw [hv] at h; cases h
  unfold qualifiedInterface interface
  rw [hname]
  rfl

/-- A class name that is given is made of the displayed name. -/
theorem className_ok {names : InterfaceNames} {name : Value} {s : String}
    (h : names.className name = .ok s) : s = jvmWords.sanitize name.display "_" := by
  unfold className at h
  split at h
  · cases h
    rfl
  · split at h <;> cases h
    rfl

/-- An interface name that is given is the one that the configuration makes. -/
theorem interface_ok {names : InterfaceNames} {e : Entity} {s : String}
    (h : names.interface e = .ok s) : s = names.interfaceText e := by
  obtain ⟨name, hname, h⟩ := Result.ok_of_bind h
  cases h
  rw [className_ok hname, interfaceText]

/-- A qualified interface name that is given is the interface name behind the package. -/
theorem qualifiedInterface_ok {names : InterfaceNames} {e : Entity} {s : String}
    (h : names.qualifiedInterface e = .ok s) :
    ∃ package, names.package e = .ok package ∧ s = package ++ "." ++ names.interfaceText e := by
  obtain ⟨package, hpackage, h⟩ := Result.ok_of_bind h
  obtain ⟨interface, hinterface, h⟩ := Result.ok_of_bind h
  cases h
  exact ⟨package, hpackage, by rw [interface_ok hinterface]⟩

end InterfaceNames

end TableInterfaces.Naming
