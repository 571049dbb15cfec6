import TableInterfaces.Proofs.Config.Layer

/-!
# Which layer wins

A setting has the value of the last layer that gives it one. A custom field can be given at the top
of a layer or under `custom`, and the two are told apart only after the layers have been merged, so
there the last layer does not always win: what a file has at its top wins over what the overrides
have under `custom`, and where the overrides have `custom`, that of the file is gone. Main
statements:

* `Config.get_layers`: a configuration from a file and overrides, by their fields.
* `Config.get_precedence`: settings, and just when custom fields are those of the last layer.
-/

namespace TableInterfaces

open TableInterfaces.Json
open TableInterfaces.Storage
open TableInterfaces.Text

namespace Config

variable {file overrides fields : List (String × Value)} {key : String}

/-! ## Layers -/

/-- The fields that a layer has under `custom`. -/
def customFields (fields : List (String × Value)) : List (String × Value) :=
  match fields.lookup customKey with
  | some (.object inner) => inner
  | _ => []

/-- A layer has an object under `custom`, or nothing. -/
def HasCustomObject (fields : List (String × Value)) : Prop :=
  ∀ v, fields.lookup customKey = some v → v.kind = .object

/-- The value that a layer gives a custom field, at its top or under `custom`. -/
def customValue? (fields : List (String × Value)) (key : String) : Option Value :=
  (fields.lookup key).or ((customFields fields).lookup key)

/-- The overrides give a custom field under `custom`, and the file gives it another value at its
top. -/
def Overruled (file overrides : List (String × Value)) (key : String) : Prop :=
  overrides.lookup key = none ∧ ∃ v w, (customFields overrides).lookup key = some v ∧
    file.lookup key = some w ∧ w ≠ v

/-- The file gives a custom field under `custom`, and the overrides have `custom` without it. -/
def Dropped (file overrides : List (String × Value)) (key : String) : Prop :=
  (overrides.lookup customKey).isSome = true ∧ customValue? overrides key = none ∧
    file.lookup key = none ∧ ((customFields file).lookup key).isSome = true

/-! ## Merged layers -/

/-- The fields of a language, a file and overrides on top of each other. -/
def mergedFields (language : Option String) (file overrides : List (String × Value)) :
    List (String × Value) :=
  merge (merge (languageDefaults (lower (language.getD ""))) file) overrides

/-- Each field is that of the last layer that has it. -/
theorem lookup_mergedFields (hfile : (file.map (·.1)).Nodup)
    (hoverrides : (overrides.map (·.1)).Nodup) (language : Option String) (key : String) :
    (mergedFields language file overrides).lookup key = (overrides.lookup key).or
      ((file.lookup key).or ((languageDefaults (lower (language.getD ""))).lookup key)) := by
  rw [mergedFields, lookup_merge hoverrides, lookup_merge hfile]

/-- The defaults of languages are settings. -/
theorem languageDefaults_lookup (name : String) (hkey : ∀ s : Setting, s.key ≠ key) :
    (languageDefaults name).lookup key = none := by
  have hindent : ∀ n : Int, List.lookup key [(Setting.indentSize.key, Value.int n),
      (Setting.markGenerated.key, .bool true), (Setting.addComments.key, .bool true)] = none :=
    fun n => by simp [List.lookup_cons, beq_false_of_ne (hkey _).symm]
  unfold languageDefaults
  dsimp only
  split
  · exact hindent 4
  · split
    · exact hindent 2
    · rfl

theorem defaultsFor_option (language : Option String) :
    defaultsFor (language.elim .null .text) =
      .ok (languageDefaults (lower (language.getD ""))) := by
  cases language with
  | none => rfl
  | some s =>
    unfold defaultsFor
    by_cases hs : s = ""
    · subst hs
      rfl
    · simp [Value.truthy, hs]

/-- The configuration of a language with a file and overrides is that of the merged fields. -/
theorem get_merged {tree : FileTree} {name : Value} (hread : readNamed tree name = .ok file)
    (language : Option String) (overrides : List (String × Value)) :
    get tree (language.elim .null .text) name (.object overrides) =
      ofEntries (Entries.ofFields (mergedFields language file overrides)) := by
  have hmerged := Entries.merge_ofFields (merge (languageDefaults (lower (language.getD ""))) file)
    overrides
  unfold get layered
  rw [defaultsFor_option, Result.ok_bind, hread, Result.ok_bind, Result.ok_bind, mergedFields,
    ← hmerged]
  cases overrides <;> rfl

/-- The custom fields of merged layers are the unknown ones at the top of a layer, on top of those
under the last `custom`. -/
theorem ofEntries_object {inner : List (String × Value)}
    (h : (fields.lookup customKey).getD (.object []) = .object inner) :
    ofEntries (Entries.ofFields fields) = .ok
      { setting := fun s => (fields.lookup s.key).getD s.default
        custom := .fields (Entries.ofFields (merge inner
          (fields.filter fun field => !isKnownKey field.1))) } := by
  have hgiven : givenCustom (Entries.ofFields fields) = .object inner := by
    rw [givenCustom, Entries.get?_ofFields, h]
  rw [ofEntries_eq, hgiven, unknownEntries_ofFields]
  simp only [Entries.get?_ofFields]
  split
  · rename_i hnone
    have hunknown : (fields.filter fun field => !isKnownKey field.1) = [] := by
      simpa [Entries.ofFields] using hnone
    rw [hunknown]
    rfl
  · rw [show Entries.ofValue (.object inner) = .ok (Entries.ofFields inner) from rfl, Except.map,
      Entries.merge_ofFields]
    rfl

/-- An unknown name means the same without the known ones. -/
theorem lookup_unknown (hkey : isKnownKey key = false) (fields : List (String × Value)) :
    (fields.filter fun field => !isKnownKey field.1).lookup key = fields.lookup key := by
  induction fields with
  | nil => rfl
  | cons field rest ih =>
    rw [List.lookup_cons]
    cases hfield : isKnownKey field.1 with
    | false =>
      rw [List.filter_cons_of_pos (by simp [hfield]), List.lookup_cons, ih]
    | true =>
      have hne : key ≠ field.1 := by
        rintro rfl
        cases hkey.symm.trans hfield
      rw [List.filter_cons_of_neg (by simp [hfield]), ih, beq_false_of_ne hne]

/-- An object under `custom` is that of the custom fields. -/
theorem lookup_customKey (h : HasCustomObject fields) :
    fields.lookup customKey = none ∧ customFields fields = [] ∨
      fields.lookup customKey = some (.object (customFields fields)) := by
  unfold customFields
  cases hcustom : fields.lookup customKey with
  | none => exact .inl ⟨rfl, rfl⟩
  | some v =>
    have hkind := h v hcustom
    cases v with
    | object inner => exact .inr rfl
    | _ => cases hkind

/-- The custom fields that stand under `custom` in the merged layers. -/
def lastCustomFields (file overrides : List (String × Value)) : List (String × Value) :=
  if (overrides.lookup customKey).isSome then customFields overrides else customFields file

/-- What stands under `custom` in the merged layers is that of the overrides, or of the file. -/
theorem mergedFields_custom (hfile : (file.map (·.1)).Nodup)
    (hoverrides : (overrides.map (·.1)).Nodup) (hfileCustom : HasCustomObject file)
    (hcustom : HasCustomObject overrides) (language : Option String) :
    ((mergedFields language file overrides).lookup customKey).getD (.object []) =
      .object (lastCustomFields file overrides) := by
  rw [lookup_mergedFields hfile hoverrides,
    languageDefaults_lookup _ fun s => by cases s <;> decide, lastCustomFields]
  rcases lookup_customKey hcustom with ⟨hnone, -⟩ | hsome
  · rw [hnone]
    rcases lookup_customKey hfileCustom with ⟨hfileNone, hfileFields⟩ | hfileSome
    · rw [hfileNone, hfileFields]
      rfl
    · rw [hfileSome]
      rfl
  · rw [hsome]
    rfl

/-- **A configuration from a file and overrides, by their fields.** -/
theorem get_layers {tree : FileTree} {name : Value} (hread : readNamed tree name = .ok file)
    (hoverrides : (overrides.map (·.1)).Nodup) (hfileCustom : HasCustomObject file)
    (hcustom : HasCustomObject overrides) (language : Option String) :
    ∃ c custom, get tree (language.elim .null .text) name (.object overrides) = .ok c ∧
      c.custom = .fields custom ∧
      (∀ s : Setting, c.setting s = ((overrides.lookup s.key).or ((file.lookup s.key).or
        ((languageDefaults (lower (language.getD ""))).lookup s.key))).getD s.default) ∧
      ∀ key, isKnownKey key = false → custom.get? (.text key) =
        (overrides.lookup key).or ((file.lookup key).or
          ((lastCustomFields file overrides).lookup key)) := by
  have hfile := (readNamed_wellFormed hread).names
  have hlookup := lookup_mergedFields hfile hoverrides language
  rw [get_merged hread, ofEntries_object
    (mergedFields_custom hfile hoverrides hfileCustom hcustom language)]
  refine ⟨_, _, rfl, rfl, fun s => congrArg (·.getD s.default) (hlookup s.key), fun key hkey => ?_⟩
  have hnames : ((mergedFields language file overrides).map (·.1)).Nodup :=
    nodup_merge (nodup_merge (languageDefaults_wellFormed _).names)
  have hdefaults : (languageDefaults (lower (language.getD ""))).lookup key = none :=
    languageDefaults_lookup _ fun s heq => by rw [← heq, isKnownKey_key] at hkey; cases hkey
  rw [Entries.get?_ofFields, lookup_merge (hnames.sublist (List.filter_sublist.map _)),
    lookup_unknown hkey, hlookup, hdefaults, Option.or_none, Option.or_assoc]

/-- A custom field is that of the last layer unless it is overruled or dropped. -/
theorem customValue_iff (hcustom : HasCustomObject overrides) :
    (overrides.lookup key).or ((file.lookup key).or
        ((lastCustomFields file overrides).lookup key)) =
      (customValue? overrides key).or (customValue? file key) ↔
    ¬Overruled file overrides key ∧ ¬Dropped file overrides key := by
  unfold lastCustomFields Overruled Dropped customValue?
  rcases lookup_customKey hcustom with ⟨hnone, hfields⟩ | hsome
  · simp [hnone, hfields]
  · rw [hsome, Option.isSome_some, if_pos rfl]
    cases overrides.lookup key with
    | some v => simp
    | none =>
      cases (customFields overrides).lookup key with
      | some v => cases file.lookup key <;> simp
      | none =>
        cases file.lookup key with
        | some w => simp
        | none => cases (customFields file).lookup key <;> simp

/-- **Which layer wins.** Let a configuration be made for a language from a file and overrides, both
of which have an object under `custom` or nothing. A setting has the value of the overrides, or else
of the file, or else of the language, or else its default. A custom field, which a layer gives at its
top or under `custom`, has the value of the overrides, or else of the file, just where it is neither
overruled nor dropped. -/
theorem get_precedence {tree : FileTree} {name : Value} (hread : readNamed tree name = .ok file)
    (hoverrides : (overrides.map (·.1)).Nodup) (hfileCustom : HasCustomObject file)
    (hcustom : HasCustomObject overrides) (language : Option String) :
    ∃ c custom, get tree (language.elim .null .text) name (.object overrides) = .ok c ∧
      c.custom = .fields custom ∧
      (∀ s : Setting, c.setting s = ((overrides.lookup s.key).or ((file.lookup s.key).or
        ((languageDefaults (lower (language.getD ""))).lookup s.key))).getD s.default) ∧
      ∀ key, isKnownKey key = false →
        (custom.get? (.text key) = (customValue? overrides key).or (customValue? file key) ↔
          ¬Overruled file overrides key ∧ ¬Dropped file overrides key) := by
  obtain ⟨c, custom, hget, hfields, hsetting, hvalue⟩ :=
    get_layers hread hoverrides hfileCustom hcustom language
  refine ⟨c, custom, hget, hfields, hsetting, fun key hkey => ?_⟩
  rw [hvalue key hkey]
  exact customValue_iff hcustom

/-- The text of a configuration file with one custom field, as it is saved. -/
def teamText : String := written 0 (.object [("team", .text "billing")])

/-- A tree of files with this file only. -/
def teamTree : FileTree := ⟨[], [(["gen.json"], .file teamText.toUTF8)]⟩

theorem wellFormed_of_mem_team : ∀ field ∈ [("team", Value.text "billing")], field.2.WellFormed :=
  List.forall_mem_singleton.2 (.text _)

theorem textOfContent_teamText : textOfContent teamText.toUTF8 = .ok teamText := by
  have htext := textOfContent_toUTF8 teamText
  rwa [teamText, unifyNewlines_written_object wellFormed_of_mem_team, String.ofList_toList] at htext

theorem readNamed_teamTree :
    readNamed teamTree (.text "gen.json") = .ok [("team", .text "billing")] :=
  readFile_eq_ok_iff.2 ⟨rfl, by decide, _, _, rfl, textOfContent_teamText,
    parse_written_object wellFormed_of_mem_team (by decide)⟩

/-- A custom field under `custom` in the overrides does not win over one at the top of a file. -/
theorem team_overruled : readNamed teamTree (.text "gen.json") = .ok [("team", .text "billing")] ∧
    ∃ c custom, get teamTree .null (.text "gen.json")
      (.object [("custom", .object [("team", .text "sales")])]) = .ok c ∧
    c.custom = .fields custom ∧ custom.get? (.text "team") ≠ some (.text "sales") := by
  have hfileCustom : HasCustomObject [("team", .text "billing")] := fun v hv => by cases hv
  have hcustom : HasCustomObject [("custom", .object [("team", .text "sales")])] := fun v hv => by
    cases hv
    rfl
  obtain ⟨c, custom, hget, hfields, -, hvalue⟩ :=
    get_precedence readNamed_teamTree (by simp) hfileCustom hcustom none
  refine ⟨readNamed_teamTree, c, custom, hget, hfields, fun hsales => ?_⟩
  have hwins := ((hvalue "team" (by decide)).1 hsales).1
  exact hwins ⟨rfl, .text "sales", .text "billing", rfl, rfl, by simp⟩

end Config

end TableInterfaces
