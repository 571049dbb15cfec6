import TableInterfaces.Config.File
import TableInterfaces.Proofs.Config.Entries

/-!
# Layers of a configuration

What a configuration has that is put together from a language, a file and overrides. Main
statements:

* `Config.readFile_eq_ok_iff`: the files that give fields.
* `Config.ofEntries_ok`: where settings and custom fields come from.
* `Config.get_wellFormed`: all values of a configuration are those of a JSON text.
-/

namespace TableInterfaces

open TableInterfaces.Json
open TableInterfaces.Storage
open TableInterfaces.Text

namespace Config

variable {c : Config} {entries : Entries} {fields : List (String × Value)}

/-- The values of a configuration are those of a JSON text. -/
structure WellFormed (c : Config) : Prop where
  setting : ∀ s, (c.setting s).WellFormed
  custom : ∀ entries, c.custom = .fields entries → entries.WellFormed

/-- A configuration agrees with itself. -/
theorem WellFormed.same_refl (h : c.WellFormed) (hcustom : c.custom = .fields entries) :
    c.same c = true := by
  rw [same, Bool.and_eq_true, List.all_eq_true, hcustom]
  exact ⟨fun s _ => (h.setting s).same_refl, (h.custom entries hcustom).same_refl⟩

/-! ## Defaults -/

theorem default_wellFormed (s : Setting) : s.default.WellFormed := by
  cases s with
  | indentSize | docWidth => exact .int (by decide)
  | interfaceImplements => exact .list nofun
  | typeOverrides => exact .object List.nodup_nil nofun
  | outputDir => exact .null
  | packageName | lineEnding | interfaceStart | builderName | jpaNamespace | validationNamespace =>
    exact .text _
  | _ => exact .bool _

theorem languageDefaults_wellFormed (name : String) : FieldsWellFormed (languageDefaults name) := by
  have hindent : ∀ n : Int, (Nat.toDigits 10 n.natAbs).length ≤ maxDigits →
      FieldsWellFormed [(Setting.indentSize.key, .int n), (Setting.markGenerated.key, .bool true),
        (Setting.addComments.key, .bool true)] := by
    intro n hn
    refine ⟨by simp only [List.map_cons, List.map_nil]; decide, List.forall_mem_cons.2 ⟨.int hn, ?_⟩⟩
    exact List.forall_mem_cons.2 ⟨.bool _, List.forall_mem_singleton.2 (.bool _)⟩
  unfold languageDefaults
  dsimp only
  split
  · exact hindent 4 (by decide)
  · split
    · exact hindent 2 (by decide)
    · exact ⟨List.nodup_nil, nofun⟩

theorem defaultsFor_wellFormed {language : Value} (h : defaultsFor language = .ok fields) :
    FieldsWellFormed fields := by
  unfold defaultsFor at h
  split at h
  · cases h
    exact ⟨List.nodup_nil, nofun⟩
  · split at h
    · cases h
      exact languageDefaults_wellFormed _
    · cases h

/-! ## Files -/

/-- A text that has been encoded is read back, with line feeds as its only line ends. -/
theorem textOfContent_toUTF8 (text : String) :
    textOfContent text.toUTF8 = .ok (String.ofList (unifyNewlines text.toList)) := by
  have h : String.fromUTF8? text.toUTF8 = some text := by
    unfold String.fromUTF8?
    rw [dif_pos (by simpa using text.isValidUTF8)]
    rfl
  rw [textOfContent, h]

/-- A configuration file is read where its name has the ending, and its text is an object. -/
theorem readFile_eq_ok_iff {tree : FileTree} {path : Path} : readFile tree path = .ok fields ↔
    standsAt tree path = .ok true ∧ lower path.suffix = ".json" ∧
      ∃ content text, tree.read path = .ok content ∧ textOfContent content = .ok text ∧
        parse text = .ok (.object fields) := by
  constructor
  · intro h
    unfold readFile at h
    obtain ⟨found, hfound, h⟩ := Result.ok_of_bind h
    dsimp only at h
    split at h
    · cases h
    · rename_i hstands
      split at h
      · cases h
      · rename_i hsuffix
        split at h
        · cases h
        · rename_i content hcontent
          obtain ⟨text, htext, h⟩ := Result.ok_of_bind h
          split at h
          · rename_i hparse
            cases h
            simp only [Bool.not_eq_true', Bool.not_eq_false] at hstands
            subst hstands
            exact ⟨hfound, by simpa using hsuffix, content, text, hcontent, htext, hparse⟩
          · cases h
          · cases h
  · rintro ⟨hfound, hsuffix, content, text, hcontent, htext, hparse⟩
    unfold readFile
    rw [hfound, Result.ok_bind]
    simp only [hsuffix, hcontent, bne_self_eq_false, Bool.not_true, Bool.false_eq_true, if_false]
    rw [htext, Result.ok_bind, hparse]
    rfl

theorem readNamed_wellFormed {tree : FileTree} {file : Value}
    (h : readNamed tree file = .ok fields) : FieldsWellFormed fields := by
  unfold readNamed at h
  split at h
  · cases h
    exact ⟨List.nodup_nil, nofun⟩
  · split at h
    · obtain ⟨_, _, _, _, _, _, hparse⟩ := readFile_eq_ok_iff.1 h
      cases wellFormed_of_parse hparse with
      | object hnames hvalues => exact ⟨hnames, hvalues⟩
    · cases h

/-! ## Entries -/

/-- The entries that belong to no setting and are not `custom`. -/
def unknownEntries (entries : Entries) : Entries :=
  entries.filter fun entry => !isKnownName entry.1

/-- Settings are no custom fields. -/
theorem isKnownKey_key (s : Setting) : isKnownKey s.key = true := by
  cases s <;> decide

/-- The custom fields among fields. -/
theorem unknownEntries_ofFields (fields : List (String × Value)) :
    unknownEntries (Entries.ofFields fields) =
      Entries.ofFields (fields.filter fun field => !isKnownKey field.1) :=
  List.filter_map

/-- The value under `custom`. -/
def givenCustom (entries : Entries) : Value :=
  (entries.get? (.text customKey)).getD (.object [])

theorem read_ofValue (v : Value) : (Custom.ofValue v).read = Entries.ofValue v := by
  cases v <;> rfl

/-- The configuration that entries describe, with the custom fields as they are read. -/
theorem ofEntries_eq (entries : Entries) : ofEntries entries =
    (if (unknownEntries entries).isEmpty then .ok (Custom.ofValue (givenCustom entries))
      else (Entries.ofValue (givenCustom entries)).map fun base =>
        .fields (base.merge (unknownEntries entries))).map fun custom =>
      { setting := fun s => (entries.get? (.text s.key)).getD s.default, custom := custom } := by
  rw [← read_ofValue]
  change (if (unknownEntries entries).isEmpty then _ else _) = _
  split
  · rfl
  · change (Custom.ofValue (givenCustom entries)).read >>= _ = _
    cases (Custom.ofValue (givenCustom entries)).read <;> rfl

/-- Where nothing stands under `custom`, the unknown entries are the custom fields. -/
theorem ofEntries_of_given (h : givenCustom entries = .object []) : ofEntries entries = .ok
    { setting := fun s => (entries.get? (.text s.key)).getD s.default
      custom := .fields (Entries.merge [] (unknownEntries entries)) } := by
  rw [ofEntries_eq, h]
  split
  · rename_i hempty
    rw [List.isEmpty_iff.1 hempty]
    rfl
  · rfl

/-- Custom fields that are entries are the unknown entries on top of those under `custom`. -/
theorem ofEntries_ok (h : ofEntries entries = .ok c) :
    (∀ s, c.setting s = (entries.get? (.text s.key)).getD s.default) ∧
      ∀ custom, c.custom = .fields custom → ∃ base,
        Entries.ofValue (givenCustom entries) = .ok base ∧
          custom = base.merge (unknownEntries entries) := by
  rw [ofEntries_eq] at h
  split at h
  · rename_i hempty
    cases h
    refine ⟨fun _ => rfl, fun custom hcustom => ⟨custom, ?_, ?_⟩⟩
    · rw [← read_ofValue, show Custom.ofValue (givenCustom entries) = .fields custom from hcustom]
      rfl
    · rw [List.isEmpty_iff.1 hempty]
      rfl
  · cases hbase : Entries.ofValue (givenCustom entries) with
    | error fault =>
      rw [hbase] at h
      cases h
    | ok base =>
      rw [hbase] at h
      cases h
      refine ⟨fun _ => rfl, fun custom hcustom => ⟨base, rfl, ?_⟩⟩
      cases hcustom
      rfl

theorem getD_wellFormed (hentries : entries.WellFormed) (name : Value) {v : Value}
    (hv : v.WellFormed) : ((entries.get? name).getD v).WellFormed := by
  cases hget : entries.get? name with
  | none => exact hv
  | some w =>
    obtain ⟨k, hmem, _⟩ := (Entries.get?_eq_some_iff hentries).1 hget
    exact hentries.values _ hmem

theorem givenCustom_wellFormed (hentries : entries.WellFormed) :
    (givenCustom entries).WellFormed :=
  getD_wellFormed hentries _ (.object List.nodup_nil nofun)

theorem ofEntries_wellFormed (hentries : entries.WellFormed) (h : ofEntries entries = .ok c) :
    c.WellFormed := by
  obtain ⟨hsetting, hcustom⟩ := ofEntries_ok h
  constructor
  · intro s
    rw [hsetting]
    exact getD_wellFormed hentries _ (default_wellFormed s)
  · intro custom hfields
    obtain ⟨base, hbase, rfl⟩ := hcustom custom hfields
    have hgiven := givenCustom_wellFormed hentries
    exact (Entries.wellFormed_of_ofValue hgiven hbase).1.merge (hentries.filter _)

/-- **A configuration that is put together from JSON has the values of a JSON text.** -/
theorem get_wellFormed {tree : FileTree} {language file overrides : Value}
    (hoverrides : overrides.WellFormed) (h : get tree language file overrides = .ok c) :
    c.WellFormed := by
  obtain ⟨_, _, h⟩ := Result.ok_of_bind h
  obtain ⟨fields, hfields, h⟩ := Result.ok_of_bind h
  obtain ⟨base, hbase, h⟩ := Result.ok_of_bind h
  have hfile := readNamed_wellFormed hfields
  have hmerged := Entries.wellFormed_ofFields ((defaultsFor_wellFormed hbase).merge hfile.values)
  dsimp only at h
  split at h
  · obtain ⟨custom, hcustom, h⟩ := Result.ok_of_bind h
    have hcustom := (Entries.wellFormed_of_ofValue hoverrides hcustom).1
    exact ofEntries_wellFormed (hmerged.merge hcustom) h
  · exact ofEntries_wellFormed (hmerged.merge Entries.WellFormed.nil) h

end Config

end TableInterfaces
