import TableInterfaces.Proofs.Config.Precedence
import TableInterfaces.Proofs.Json.Escape
import TableInterfaces.Proofs.Storage.FileTree

/-!
# Saved configurations

A configuration is saved as one object, its custom fields among its settings, and a file is told
apart into both by the names. Main statement:

* `Config.reload_iff`: a saved file gives the configuration back just where the names of all custom
  fields are texts that belong to no setting and are not `custom`.

It is about configurations whose texts are rows of characters (`Config.Obtained`). The escapes of a
configuration file can also stand for single halves of surrogate pairs; such a file is read, but
what was read cannot be saved in UTF-8.
-/

namespace TableInterfaces

open TableInterfaces.Json
open TableInterfaces.Storage
open TableInterfaces.Text

namespace Config

variable {c loaded : Config} {entries : Entries} {fields : List (String × Value)}

/-! ## What is saved -/

/-- The settings as fields. -/
def settingFields (c : Config) : List (String × Value) :=
  Setting.all.map fun s => (s.key, c.setting s)

theorem names_settingFields : c.settingFields.map (·.1) = Setting.all.map Setting.key := by
  rw [settingFields, List.map_map]
  rfl

theorem WellFormed.settingFields (h : c.WellFormed) : FieldsWellFormed c.settingFields where
  names := by
    rw [names_settingFields]
    decide
  values field hfield := by
    obtain ⟨s, _, rfl⟩ := List.mem_map.1 hfield
    exact h.setting s

theorem lookup_settingFields (h : c.WellFormed) (s : Setting) :
    c.settingFields.lookup s.key = some (c.setting s) :=
  lookup_eq_of_mem h.settingFields.names (List.mem_map.2 ⟨s, Setting.mem_all s, rfl⟩)

/-- The fields that are saved: the custom fields among the settings. -/
def savedFields (c : Config) (entries : Entries) : List (String × Value) :=
  ((Entries.ofFields c.settingFields).merge entries).map fun entry =>
    (Entries.writtenName entry.1, entry.2)

theorem savedText_eq (hcustom : c.custom = .fields entries) : c.savedText =
    if c.isCopyable then .ok (written 0 (.object (c.savedFields entries)))
    else misuse .tooDeep := by
  unfold savedText toEntries
  cases c.isCopyable with
  | false => rfl
  | true =>
    rw [hcustom]
    rfl

theorem lookup_custom_settingFields : c.settingFields.lookup customKey = none := by
  rw [Option.eq_none_iff_forall_ne_some]
  intro v hv
  have hmem : customKey ∈ c.settingFields.map (·.1) :=
    List.mem_map.2 ⟨_, mem_of_lookup_eq_some hv, rfl⟩
  rw [names_settingFields] at hmem
  exact absurd hmem (by decide)

/-- What is saved are values of a JSON text. -/
theorem savedFields_wellFormed (h : c.WellFormed) (hentries : entries.WellFormed) :
    ∀ field ∈ c.savedFields entries, field.2.WellFormed := by
  intro field hfield
  obtain ⟨entry, hentry, rfl⟩ := List.mem_map.1 hfield
  exact ((Entries.wellFormed_ofFields h.settingFields).merge hentries).values entry hentry

/-- Only a custom field of this name is saved under `custom`. -/
theorem get?_of_mem_savedFields (h : c.WellFormed) (hentries : entries.WellFormed) {v : Value}
    (hmem : (customKey, v) ∈ c.savedFields entries) :
    entries.get? (.text customKey) = some v := by
  obtain ⟨entry, hentry, heq⟩ := List.mem_map.1 hmem
  rw [Prod.mk.injEq] at heq
  obtain ⟨hname, rfl⟩ := heq
  have hsettings := Entries.wellFormed_ofFields h.settingFields
  have hall := hsettings.merge hentries
  have htext := Entries.eq_text_of_writtenName (hall.hashable entry hentry) (by decide)
    ⟨'c', by decide, by decide⟩ hname
  have hget := (Entries.get?_eq_some_iff hall).2 ⟨entry.1, hentry, congrArg Value.key htext⟩
  rwa [Entries.get?_merge hsettings hentries, Entries.get?_ofFields, lookup_custom_settingFields,
    Option.or_none] at hget

/-- What can be copied is shallow enough to be read. -/
theorem savedFields_depth (hcustom : c.custom = .fields entries)
    (hcopyable : c.isCopyable = true) :
    (Value.object (c.savedFields entries)).depth ≤ maxDepth := by
  rw [isCopyable, Bool.and_eq_true, List.all_eq_true, hcustom, decide_eq_true_eq] at hcopyable
  obtain ⟨hsettings, hobject⟩ := hcopyable
  rw [Value.depth]
  have hvalues : Value.fieldsDepth (c.savedFields entries) ≤ maxCopyDepth := by
    refine Value.fieldsDepth_le fun field hfield => ?_
    obtain ⟨entry, hentry, rfl⟩ := List.mem_map.1 hfield
    rcases Entries.mem_merge hentry with hentry | hentry
    · obtain ⟨first, hfirst, heq⟩ := List.mem_map.1 hentry
      have hdepth := Value.depth_le_fieldsDepth
        (List.mem_map_of_mem (f := fun entry => (Entries.writtenName entry.1, entry.2)) hfirst)
      rw [Custom.toValue, Entries.toObject, Value.depth] at hobject
      dsimp only at hdepth heq ⊢
      rw [heq] at hdepth
      omega
    · obtain ⟨settingField, hsetting, rfl⟩ := List.mem_map.1 hentry
      obtain ⟨s, hs, rfl⟩ := List.mem_map.1 hsetting
      exact of_decide_eq_true (hsettings s hs)
  have : 1 + maxCopyDepth ≤ maxDepth := by decide
  omega

/-! ## Reading it again -/

/-- Where a file alone is given, its fields are the configuration. -/
theorem get_file (tree : FileTree) (file : Value) : get tree .null file .null =
    readNamed tree file >>= fun fields => ofEntries (Entries.ofFields (merge [] fields)) :=
  rfl

theorem save_ok {tree saved : FileTree} {path : Path} (h : c.save tree path = .ok saved) :
    ∃ text, c.savedText = .ok text ∧ FileTree.isNameable path = true ∧
      tree.write path text.toUTF8 = .ok saved := by
  obtain ⟨text, htext, h⟩ := Result.ok_of_bind h
  dsimp only at h
  split at h
  · cases h
  · rename_i hname
    split at h
    · rename_i hwrite
      cases h
      exact ⟨text, htext, by simpa using hname, hwrite⟩
    · cases h

/-- **A saved file is read as the fields that were saved**; of several fields of one name the last
one counts. -/
theorem get_saved {tree saved : FileTree} {name : String} (hc : c.WellFormed)
    (hcustom : c.custom = .fields entries) (hsuffix : lower (Path.ofText name).suffix = ".json")
    (h : c.save tree (Path.ofText name) = .ok saved) : get saved .null (.text name) .null =
      ofEntries (Entries.ofFields (merge [] (c.savedFields entries))) := by
  obtain ⟨text, htext, hname, hwrite⟩ := save_ok h
  rw [savedText_eq hcustom] at htext
  split at htext
  · rename_i hcopyable
    cases htext
    have hvalues := savedFields_wellFormed hc (hc.custom entries hcustom)
    have hparse := parse_written_object hvalues (savedFields_depth hcustom hcopyable)
    have htext := textOfContent_toUTF8 (written 0 (.object (c.savedFields entries)))
    rw [unifyNewlines_written_object hvalues, String.ofList_toList] at htext
    have hstands : standsAt saved (Path.ofText name) = .ok true := by
      rw [standsAt, FileTree.pathExists_of_write hname hwrite]
    have hread : readNamed saved (.text name) = .ok (merge [] (c.savedFields entries)) := by
      unfold readNamed
      split
      · rename_i htruthy
        have hempty : name = "" := by simpa [Value.truthy] using htruthy
        subst hempty
        exact absurd hsuffix (by decide)
      · exact readFile_eq_ok_iff.2
          ⟨hstands, hsuffix, _, _, FileTree.read_of_write hwrite, htext, hparse⟩
    have hagain : merge [] (merge [] (c.savedFields entries)) = merge [] (c.savedFields entries) :=
      merge_nil (nodup_merge (by exact List.nodup_nil))
    rw [get_file, hread, Result.ok_bind, hagain]
  · cases htext

/-! ## Custom fields with plain names -/

/-- The names of entries are texts that do not belong to a configuration itself. -/
def PlainNames (entries : Entries) : Prop :=
  ∀ entry ∈ entries, ∃ name, entry.1 = .text name ∧ isKnownKey name = false

/-- Entries with plain names are fields with unknown names. -/
theorem PlainNames.exists_fields (h : PlainNames entries) : ∃ fields, entries =
    Entries.ofFields fields ∧ ∀ field ∈ fields, isKnownKey field.1 = false := by
  induction entries with
  | nil => exact ⟨[], rfl, nofun⟩
  | cons entry rest ih =>
    obtain ⟨⟨name, hname, hknown⟩, hrest⟩ := List.forall_mem_cons.1 h
    obtain ⟨fields, rfl, hfields⟩ := ih hrest
    refine ⟨(name, entry.2) :: fields, ?_, List.forall_mem_cons.2 ⟨hknown, hfields⟩⟩
    exact congrArg (· :: Entries.ofFields fields) (Prod.ext hname rfl)

/-- Custom fields with plain names are saved behind the settings, as they are. -/
theorem savedFields_of_plain (h : c.WellFormed) (hfields : (Entries.ofFields fields).WellFormed)
    (hplain : ∀ field ∈ fields, isKnownKey field.1 = false) :
    ((c.settingFields ++ fields).map (·.1)).Nodup ∧
      c.savedFields (Entries.ofFields fields) = c.settingFields ++ fields := by
  have hnames : (fields.map (·.1)).Nodup := by
    have hkeys := hfields.keys
    rw [Entries.ofFields, List.map_map] at hkeys
    refine List.Nodup.of_map (fun s => (Value.text s).key) ?_
    rwa [List.map_map]
  have hall : ((c.settingFields ++ fields).map (·.1)).Nodup := by
    rw [List.map_append]
    refine List.Nodup.append h.settingFields.names hnames fun name hname hname' => ?_
    rw [names_settingFields] at hname
    obtain ⟨s, _, rfl⟩ := List.mem_map.1 hname
    obtain ⟨field, hfield, heq⟩ := List.mem_map.1 hname'
    have hknown := hplain field hfield
    rw [heq, isKnownKey_key] at hknown
    cases hknown
  refine ⟨hall, ?_⟩
  have hobject := Entries.toObject_ofFields (merge c.settingFields fields)
  rw [← Entries.merge_ofFields, Entries.toObject, Value.object.injEq] at hobject
  rw [savedFields, hobject, merge_eq_append hall]

/-- Unknown fields behind the settings are told apart from them. -/
theorem unknownEntries_of_plain (hplain : ∀ field ∈ fields, isKnownKey field.1 = false) :
    unknownEntries (Entries.ofFields (c.settingFields ++ fields)) = Entries.ofFields fields := by
  have hsettings : c.settingFields.filter (fun field => !isKnownKey field.1) = [] := by
    refine List.filter_eq_nil_iff.2 fun field hfield => ?_
    obtain ⟨s, _, rfl⟩ := List.mem_map.1 hfield
    rw [isKnownKey_key]
    exact Bool.false_ne_true
  have hfields : fields.filter (fun field => !isKnownKey field.1) = fields :=
    List.filter_eq_self.2 fun field hfield => by rw [hplain field hfield, Bool.not_false]
  rw [unknownEntries_ofFields, List.filter_append, hsettings, hfields, List.nil_append]

/-- Nothing stands under `custom` where no unknown field is named so. -/
theorem givenCustom_of_plain (hplain : ∀ field ∈ fields, isKnownKey field.1 = false) :
    givenCustom (Entries.ofFields (c.settingFields ++ fields)) = .object [] := by
  have hnone : fields.lookup customKey = none := by
    rw [Option.eq_none_iff_forall_ne_some]
    intro v hv
    have hknown := hplain _ (mem_of_lookup_eq_some hv)
    cases hknown
  rw [givenCustom, Entries.get?_ofFields, List.lookup_append, lookup_custom_settingFields, hnone]
  rfl

/-- **Custom fields with plain names come back.** -/
theorem ofEntries_savedFields (h : c.WellFormed) (hcustom : c.custom = .fields entries)
    (hplain : PlainNames entries) :
    ofEntries (Entries.ofFields (merge [] (c.savedFields entries))) = .ok c := by
  obtain ⟨fields, rfl, hfields⟩ := hplain.exists_fields
  obtain ⟨hnames, hsaved⟩ := savedFields_of_plain h (h.custom _ hcustom) hfields
  have hsetting : ∀ s, ((Entries.ofFields (c.settingFields ++ fields)).get? (.text s.key)).getD
      s.default = c.setting s := by
    intro s
    rw [Entries.get?_ofFields, List.lookup_append, lookup_settingFields h]
    rfl
  have hfieldNames : (fields.map (·.1)).Nodup := by
    rw [List.map_append] at hnames
    exact hnames.of_append_right
  have hmerge := Entries.merge_ofFields [] fields
  rw [merge_nil hfieldNames] at hmerge
  rw [hsaved, merge_nil hnames, ofEntries_of_given (givenCustom_of_plain hfields),
    unknownEntries_of_plain hfields, show Entries.merge [] _ = _ from hmerge, ← hcustom]
  simp only [hsetting]

/-! ## Custom fields with other names -/

theorem mem_unknownEntries {entry : Value × Value}
    (h : entry ∈ unknownEntries (Entries.ofFields fields)) :
    ∃ name, entry.1 = .text name ∧ isKnownKey name = false := by
  rw [unknownEntries_ofFields] at h
  obtain ⟨field, hfield, rfl⟩ := List.mem_map.1 h
  have hknown := (List.mem_filter.1 hfield).2
  exact ⟨field.1, rfl, by simpa using hknown⟩

/-- What is read from the saved fields under `custom` is a part of a custom field of this name, so
it is not equal to it. -/
theorem not_same_of_ofValue {v part : Value} {base : Entries} {name : Value} (hv : v.WellFormed)
    (hbase : Entries.ofValue v = .ok base) (hpart : (name, part) ∈ base) : part.same v ≠ true := by
  intro hsame
  obtain ⟨hwell, hdepth⟩ := Entries.wellFormed_of_ofValue hv hbase
  have hback := (hwell.values _ hpart).same_symm hv hsame
  exact absurd (hdepth _ hpart) (Nat.not_lt.2 (hv.depth_le_of_same hback))

/-- Custom fields that are read come from the unknown fields, or from what stands under `custom`. -/
theorem plain_or_given (hfields : FieldsWellFormed fields) (hentries : entries.WellFormed)
    (hloaded : ofEntries (Entries.ofFields fields) = .ok loaded)
    (hsame : loaded.custom.same (.fields entries) = true) :
    ∃ base, Entries.ofValue (givenCustom (Entries.ofFields fields)) = .ok base ∧
      ∀ entry ∈ entries, (∃ name, entry.1 = .text name ∧ isKnownKey name = false) ∨
        ∃ part ∈ base, part.2.same entry.2 = true := by
  have hall := Entries.wellFormed_ofFields hfields
  have hunknown : (unknownEntries (Entries.ofFields fields)).WellFormed := hall.filter _
  cases hcustom : loaded.custom with
  | given v =>
    rw [hcustom] at hsame
    cases hsame
  | fields custom =>
    rw [hcustom] at hsame
    have hwell := (ofEntries_wellFormed hall hloaded).custom custom hcustom
    obtain ⟨base, hbase, rfl⟩ := (ofEntries_ok hloaded).2 custom hcustom
    have hbaseWell := (Entries.wellFormed_of_ofValue (givenCustom_wellFormed hall) hbase).1
    refine ⟨base, hbase, fun entry hentry => ?_⟩
    obtain ⟨first, hfirst, hkey, hvalue⟩ := Entries.exists_of_same hwell hentries hsame hentry
    have hget := (Entries.get?_eq_some_iff hwell).2 ⟨first.1, hfirst, hkey⟩
    rw [Entries.get?_merge hbaseWell hunknown] at hget
    rcases Option.or_eq_some_iff.1 hget with hget | ⟨_, hget⟩
    · obtain ⟨name, hmem, hkey⟩ := (Entries.get?_eq_some_iff hunknown).1 hget
      obtain ⟨text, rfl, hknown⟩ := mem_unknownEntries hmem
      exact .inl ⟨text, Entries.eq_text_of_key hkey.symm, hknown⟩
    · obtain ⟨name, hmem, _⟩ := (Entries.get?_eq_some_iff hbaseWell).1 hget
      exact .inr ⟨(name, first.2), hmem, hvalue⟩

/-- **Only custom fields with plain names come back.** -/
theorem plainNames_of_same (h : c.WellFormed) (hcustom : c.custom = .fields entries)
    (hloaded : ofEntries (Entries.ofFields (merge [] (c.savedFields entries))) = .ok loaded)
    (hsame : loaded.same c = true) : PlainNames entries := by
  have hentries := h.custom entries hcustom
  have hfields : FieldsWellFormed (merge [] (c.savedFields entries)) :=
    FieldsWellFormed.merge ⟨List.nodup_nil, nofun⟩ (savedFields_wellFormed h hentries)
  rw [same, Bool.and_eq_true, hcustom] at hsame
  obtain ⟨base, hbase, hfound⟩ := plain_or_given hfields hentries hloaded hsame.2
  intro entry hentry
  refine (hfound entry hentry).resolve_right fun hgivenEntry => ?_
  obtain ⟨first, hfirst, -⟩ := hgivenEntry
  have hgiven := givenCustom_wellFormed (Entries.wellFormed_ofFields hfields)
  -- There is a value under `custom`, so there is a custom field of this name.
  cases hv : (merge [] (c.savedFields entries)).lookup customKey with
  | none =>
    rw [givenCustom, Entries.get?_ofFields, hv] at hbase
    cases hbase
    cases hfirst
  | some v =>
    rw [givenCustom, Entries.get?_ofFields, hv, Option.getD_some] at hbase hgiven
    have hmem := (mem_merge (mem_of_lookup_eq_some hv)).resolve_left List.not_mem_nil
    have hget := get?_of_mem_savedFields h hentries hmem
    obtain ⟨name, hname, hkey⟩ := (Entries.get?_eq_some_iff hentries).1 hget
    rcases hfound _ hname with ⟨text, htext, hknown⟩ | ⟨part, hpart, hvalue⟩
    · dsimp only at htext
      rw [htext] at hkey
      cases Entries.eq_text_of_key hkey
      cases hknown
    · exact not_same_of_ofValue hgiven hbase hpart hvalue

/-! ## Saving and reading again -/

/-- A configuration can be saved where each of its values can be copied. -/
theorem succeeds_save_iff {tree : FileTree} {path : Path} (hcustom : c.custom = .fields entries)
    (hpath : tree.Writable path) : Succeeds (c.save tree path) ↔ c.isCopyable = true := by
  constructor
  · rintro ⟨saved, hsaved⟩
    obtain ⟨text, htext, _, _⟩ := save_ok hsaved
    rw [savedText_eq hcustom] at htext
    split at htext
    · assumption
    · cases htext
  · intro hcopyable
    obtain ⟨saved, hwrite⟩ := hpath.write (written 0 (.object (c.savedFields entries))).toUTF8
    refine ⟨saved, ?_⟩
    unfold save
    rw [savedText_eq hcustom, if_pos hcopyable, Result.ok_bind, hpath.nameable, hwrite]
    rfl

/-- A configuration that is put together from JSON in which every text is a row of characters: the
overrides are a value of a JSON text, and no escape of the file that is read stands for one half
of a surrogate pair. -/
structure Obtained (tree : FileTree) (language file overrides : Value) (c : Config) : Prop where
  got : get tree language file overrides = .ok c
  overrides : overrides.WellFormed
  characters : ∀ name content text, file = .text name →
    tree.read (Path.ofText name) = .ok content → textOfContent content = .ok text →
      EscapesCharacters text

/-- **A saved file gives a configuration back just where the names of all its custom fields are
texts that belong to no setting and are not `custom`**: any other name is taken for a setting, for
the custom fields themselves, or becomes a text. Saving itself fails only for values that are nested
too deep to be copied. -/
theorem reload_iff {tree tree' : FileTree} {language file overrides : Value} {name : String}
    (hobtained : Obtained tree language file overrides c)
    (hcustom : c.custom = .fields entries) (hsuffix : lower (Path.ofText name).suffix = ".json")
    (hpath : tree'.Writable (Path.ofText name)) :
    (Succeeds (c.save tree' (Path.ofText name)) ↔ c.isCopyable = true) ∧
      ∀ saved, c.save tree' (Path.ofText name) = .ok saved →
        ((∃ loaded, get saved .null (.text name) .null = .ok loaded ∧ loaded.same c = true) ↔
          ∀ entry ∈ entries, ∃ key, entry.1 = .text key ∧ isKnownKey key = false) := by
  have hc := get_wellFormed hobtained.overrides hobtained.got
  refine ⟨succeeds_save_iff hcustom hpath, fun saved hsaved => ?_⟩
  rw [get_saved hc hcustom hsuffix hsaved]
  constructor
  · rintro ⟨loaded, hloaded, hsame⟩
    exact plainNames_of_same hc hcustom hloaded hsame
  · intro hplain
    exact ⟨c, ofEntries_savedFields hc hcustom hplain, hc.same_refl hcustom⟩

/-- A custom field that is named like a setting is read as the setting. -/
theorem indentSize_lost : ∃ c saved,
    get teamTree .null (.text "gen.json")
      (.object [("custom", .object [("indent_size", .int 7)])]) = .ok c ∧
    c.custom = .fields [(.text "indent_size", .int 7), (.text "team", .text "billing")] ∧
    c.save teamTree (Path.ofText "saved.json") = .ok saved ∧
    ¬ ∃ loaded, get saved .null (.text "saved.json") .null = .ok loaded ∧
      loaded.same c = true := by
  have hwell : (Value.object [("custom", .object [("indent_size", .int 7)])]).WellFormed := by
    have hseven : (Value.int 7).WellFormed := .int (by decide)
    have hinner : (Value.object [("indent_size", .int 7)]).WellFormed :=
      .object (by decide) (List.forall_mem_singleton.2 hseven)
    exact .object (by decide) (List.forall_mem_singleton.2 hinner)
  have hpath : teamTree.Writable (Path.ofText "saved.json") :=
    ⟨by decide, fun content => ⟨_, rfl⟩⟩
  obtain ⟨c, hget, hcustom, hcopyable⟩ : ∃ c, get teamTree .null (.text "gen.json")
      (.object [("custom", .object [("indent_size", .int 7)])]) = .ok c ∧
      c.custom = .fields [(.text "indent_size", .int 7), (.text "team", .text "billing")] ∧
      c.isCopyable = true := by
    rw [get, readNamed_teamTree]
    exact ⟨_, rfl, rfl, by decide⟩
  have hobtained : Obtained teamTree .null (.text "gen.json")
      (.object [("custom", .object [("indent_size", .int 7)])]) c := by
    refine ⟨hget, hwell, ?_⟩
    rintro _ content text ⟨⟩ hcontent htext
    cases hcontent
    cases textOfContent_teamText.symm.trans htext
    exact escapesCharacters_of_not_mem (by decide)
  obtain ⟨hsave, hreload⟩ := reload_iff hobtained hcustom (by decide) hpath
  obtain ⟨saved, hsaved⟩ := hsave.2 hcopyable
  refine ⟨c, saved, hget, hcustom, hsaved, fun hloaded => ?_⟩
  obtain ⟨key, hkey, hknown⟩ := (hreload saved hsaved).1 hloaded _ List.mem_cons_self
  cases hkey
  cases hknown

end Config

end TableInterfaces
