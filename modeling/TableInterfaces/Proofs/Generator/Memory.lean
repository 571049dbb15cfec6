import TableInterfaces.Proofs.Generator.Files

/-!
# What a run remembers

A run remembers the texts that it has made names, and the memory grows from entity to entity. It
only decides whether a name that is no text is an error. `Run.BelowAt` says that one state of a run
knows no more than another one about an entity. Main statements:

* `Run.BelowAt.of_texts` and `Run.BelowAt.of_subset`: this holds where all names are texts, and
  where the second state remembers all that the first one does.
* `Run.BelowAt.filePath` and `Run.BelowAt.sourceOf`: the path and the text of a file in the first
  state are those in the second one.
* `namedByTexts_of_files`: where no name is mistaken for a text, only names that are texts give
  files.
-/

namespace TableInterfaces.Generator

open TableInterfaces.Json
open TableInterfaces.Naming
open TableInterfaces.Source

/-- The names that the interface of an entity is made of: its own and those of its members. -/
def ownNames (e : Entity) : List Value :=
  e.name :: e.members.map (·.name)

/-- What one state of a run knows about an entity another state knows, too. -/
structure Run.BelowAt (run run' : Run) (e : Entity) : Prop where
  agree : run.names.Agree run'.names
  className : ∀ values, ∀ v ∈ ownNames e,
    ((run.names.remember values).className v).Below ((run'.names.remember values).className v)
  types : ∀ m ∈ e.members, run.types.ofMember m = run'.types.ofMember m

namespace Run.BelowAt

variable {g : Generator} {run run' : Run} {e : Entity} {m : Member}

/-- The memory does not matter where all names are texts. -/
theorem of_texts (hagree : run.names.Agree run'.names) (htexts : ∀ v ∈ ownNames e, v.kind = .text)
    (htypes : ∀ m ∈ e.members, run.types.ofMember m = run'.types.ofMember m) :
    run.BelowAt run' e where
  agree := hagree
  className values v hv := by
    have hkind := htexts v hv
    cases v with
    | text s => exact Result.Below.refl _
    | _ => cases hkind
  types := htypes

/-- A state that remembers more knows more. -/
theorem of_subset (hagree : run.names.Agree run'.names)
    (hnamed : run.names.named ⊆ run'.names.named)
    (htypes : ∀ m ∈ e.members, run.types.ofMember m = run'.types.ofMember m) :
    run.BelowAt run' e where
  agree := hagree
  className values v _ := by
    have hmore : (run.names.remember values).named ⊆ (run'.names.remember values).named :=
      List.append_subset.2 ⟨List.subset_append_left _ _,
        List.Subset.trans hnamed (List.subset_append_right _ _)⟩
    intro s hs
    unfold InterfaceNames.className at hs ⊢
    split at hs
    · exact hs
    · split at hs
      · rename_i hknown
        have := hmore (List.contains_iff_mem.1 hknown)
        rw [if_pos (List.contains_iff_mem.2 this)]
        exact hs
      · cases hs
  types := htypes

/-! ## Names -/

theorem interface (h : run.BelowAt run' e) :
    (run.names.interface e).Below (run'.names.interface e) := by
  have hname := h.className [] e.name List.mem_cons_self
  unfold InterfaceNames.interface
  rw [h.agree.config]
  exact hname.bind fun _ => .refl _

theorem qualifiedInterface (h : run.BelowAt run' e) :
    (run.names.qualifiedInterface e).Below (run'.names.qualifiedInterface e) := by
  unfold InterfaceNames.qualifiedInterface
  rw [h.agree.package_eq]
  exact Result.Below.bind (.refl _) fun _ => h.interface.bind fun _ => .refl _

theorem accessor (h : run.BelowAt run' e) (hm : m ∈ e.members) (verb : String) :
    ((run.names.within e m).accessor verb m).Below ((run'.names.within e m).accessor verb m) :=
  (h.className _ m.name (List.mem_cons_of_mem _ (List.mem_map_of_mem hm))).bind fun _ => .refl _

/-! ## Interfaces -/

theorem memberParts (h : run.BelowAt run' e) (hm : m ∈ e.members) (mode : Mode) :
    (memberParts e mode (g.services run) g.marks m).Below
      (Source.memberParts e mode (g.services run') g.marks m) := by
  have htype : (g.services run).typeOf e m = (g.services run').typeOf e m := by
    change (run.types.ofMember m >>= _) = (run'.types.ofMember m >>= _)
    rw [h.types m hm]
  have hsetter : (setterParts e (g.services run) m).Below (setterParts e (g.services run') m) :=
    Result.Below.bind (.refl _) fun _ => (h.accessor hm "set").bind fun _ => .refl _
  have hgetter : (getterParts e (g.services run) g.marks m).Below
      (getterParts e (g.services run') g.marks m) :=
    Result.Below.bind (.refl _) fun _ => Result.Below.bind (.refl _) fun _ =>
      (h.accessor hm "get").bind fun _ => .refl _
  unfold Source.memberParts
  rw [htype]
  refine Result.Below.bind (.refl _) fun type => Result.Below.bind (.refl _) fun text => ?_
  cases mode.immutable with
  | true => exact hgetter.bind fun _ => .refl _
  | false => exact (hsetter.map some).bind fun _ => hgetter.bind fun _ => .refl _

theorem interfaceParts (h : run.BelowAt run' e) (mode : Mode) :
    (interfaceParts e mode (g.services run) g.marks).Below
      (Source.interfaceParts e mode (g.services run') g.marks) := by
  have hhead : headParts e (g.services run) g.marks = headParts e (g.services run') g.marks := by
    unfold headParts
    refine bind_congr fun _ => bind_congr fun _ => congrArg (· >>= _) ?_
    change run.names.supertypes e = run'.names.supertypes e
    simp only [InterfaceNames.supertypes, h.agree.config]
  have hbuilder : (builderParts e mode.dialect (g.services run)).Below
      (builderParts e mode.dialect (g.services run')) := by
    have hname : (g.services run).names.builder e = (g.services run').names.builder e := by
      change Except.ok run.names.builder = Except.ok run'.names.builder
      simp only [InterfaceNames.builder, h.agree.config]
    unfold builderParts
    rw [hname]
    split
    · exact Result.Below.bind (.refl _) fun _ => (h.interface.bind fun _ => .refl _).bind
        fun _ => .refl _
    · exact .refl _
  have hmembers := Result.Below.mapM fun m hm => h.memberParts (g := g) hm mode
  have hpackage : (g.services run).names.package e = (g.services run').names.package e :=
    (h.agree.package_eq e).symm
  unfold Source.interfaceParts
  rw [hpackage, hhead]
  refine Result.Below.bind (.refl _) fun _ => h.interface.bind fun _ =>
    h.qualifiedInterface.bind fun _ => Result.Below.bind (.refl _) fun _ =>
      hbuilder.bind fun _ => hmembers.bind fun _ => ?_
  exact .refl _

/-! ## Paths and texts -/

theorem filePath (h : run.BelowAt run' e) : (g.filePath run e).Below (g.filePath run' e) := by
  unfold Generator.filePath
  rw [h.agree.package_eq]
  exact Result.Below.bind (.refl _) fun _ => h.interface.bind fun _ => .refl _

theorem sourceOf (h : run.BelowAt run' e) : (g.sourceOf run e).Below (g.sourceOf run' e) := by
  rw [sourceOf_eq, sourceOf_eq]
  exact Result.Below.bind (.refl _) fun _ => (h.interfaceParts _).bind fun _ => .refl _

end Run.BelowAt

/-! ## Names that are taken for texts -/

/-- A value that is made a name is a text, or looks like one that has been made a name before. -/
theorem className_known {names : InterfaceNames} {v : Value} {s : String}
    (h : names.className v = .ok s) : v.kind = .text ∨ v.display ∈ names.named := by
  unfold InterfaceNames.className at h
  split at h
  · exact .inl rfl
  · split at h
    · rename_i hknown
      exact .inr (List.contains_iff_mem.1 hknown)
    · cases h

/-- Only texts are remembered. -/
theorem mem_remember {names : InterfaceNames} {values : List Value} {s : String} :
    s ∈ (names.remember values).named ↔ .text s ∈ values ∨ s ∈ names.named := by
  have htext : ∀ v : Value, v.text? = some s ↔ .text s = v := fun v => by
    cases v <;> simp [Value.text?, eq_comm]
  simp only [InterfaceNames.remember, List.mem_append, List.mem_filterMap, htext, exists_eq_right']

/-- What a run remembers behind some entities is a name of one of them, or was remembered before. -/
theorem mem_behind_named {run : Run} {front : List Entity} {s : String}
    (h : s ∈ (run.behind front).names.named) :
    .text s ∈ front.flatMap ownNames ∨ s ∈ run.names.named := by
  induction front generalizing run with
  | nil => exact .inr h
  | cons e rest ih =>
    rw [List.flatMap_cons, List.mem_append]
    rcases @ih (run.after e) h with hlater | hearlier
    · exact .inl (.inr hlater)
    · exact (mem_remember.1 hearlier).imp_left .inl

/-- A run starts without a memory. -/
theorem run_named {g : Generator} {entities : List Entity} {run : Run}
    (h : g.run entities = .ok run) : run.names.named = [] := by
  obtain ⟨types, -, h⟩ := Result.ok_of_bind h
  obtain ⟨names, hnames, h⟩ := Result.ok_of_bind h
  obtain ⟨_, -, hnames⟩ := Result.ok_of_bind hnames
  cases hnames
  cases h
  rfl

/-- The names that a file is made of are made names in the state of the run that the file is made
in, behind some of these names. -/
theorem FileOf.className_ok {g : Generator} {run : Run} {e : Entity} {file : String × String}
    {parts : InterfaceParts} {sheet : Sheet} (h : g.FileOf run e file parts sheet) :
    ∀ v ∈ ownNames e, ∃ before, (∀ b ∈ before, b ∈ ownNames e) ∧
      Succeeds ((run.names.remember before).className v) := by
  obtain ⟨-, hinterface, -, -, hmembers⟩ := InterfaceParts.of_ok h.parts_ok
  intro v hv
  rcases List.mem_cons.1 hv with rfl | hv
  · obtain ⟨name, hname, -⟩ := Result.ok_of_bind hinterface
    exact ⟨[], List.forall_mem_nil _, name, hname⟩
  · obtain ⟨m, hm, rfl⟩ := List.mem_map.1 hv
    obtain ⟨_, -, hparts⟩ := Result.ok_of_mapM hmembers m hm
    obtain ⟨_, -, hgetter⟩ := Result.ok_of_bind (MemberParts.getter_ok hparts)
    obtain ⟨_, -, hgetter⟩ := Result.ok_of_bind hgetter
    obtain ⟨_, haccessor, -⟩ := Result.ok_of_bind hgetter
    obtain ⟨name, hname, -⟩ := Result.ok_of_bind haccessor
    refine ⟨_, fun b hb => ?_, name, hname⟩
    rcases List.mem_cons.1 hb with rfl | hb
    · exact List.mem_cons_self
    · obtain ⟨d, hd, rfl⟩ := List.mem_map.1 hb
      exact List.mem_cons_of_mem _ (List.mem_map_of_mem ((List.takeWhile_subset _) hd))

/-- The names of an entity and of its members are texts. -/
def NamedByTexts (e : Entity) : Prop :=
  ∀ v ∈ ownNames e, v.kind = .text

/-- A name of an entity or a member that looks like one that is a text is a text, too. -/
def NamesApart (entities : List Entity) : Prop :=
  ∀ v ∈ entities.flatMap ownNames, ∀ w ∈ entities.flatMap ownNames,
    w.kind = .text → v.display = w.display → v.kind = .text

instance (entities : List Entity) : Decidable (NamesApart entities) :=
  inferInstanceAs (Decidable (∀ v ∈ _, ∀ w ∈ _, _ → _ → _))

theorem NamesApart.perm {entities others : List Entity} (h : NamesApart entities)
    (hperm : entities.Perm others) : NamesApart others := by
  have hmem : ∀ v, v ∈ others.flatMap ownNames ↔ v ∈ entities.flatMap ownNames := fun v =>
    (hperm.flatMap_right _).mem_iff.symm
  intro v hv w hw
  exact h v ((hmem v).1 hv) w ((hmem w).1 hw)

/-- Where no name is mistaken for a text, only names that are texts give files. -/
theorem namedByTexts_of_files {g : Generator} {entities : List Entity}
    {files : List (String × String)} (hapart : NamesApart entities)
    (h : g.files entities = .ok files) : ∀ e ∈ entities, NamedByTexts e := by
  intro e he v hv
  obtain ⟨run, hrun, hfiles⟩ := files_ok h
  obtain ⟨front, back, rfl⟩ := List.append_of_mem he
  obtain ⟨_, -, _, _, hfile⟩ := hfiles front e back rfl
  obtain ⟨before, hbefore, s, hs⟩ := hfile.className_ok v hv
  have hown : ∀ b ∈ ownNames e, b ∈ (front ++ e :: back).flatMap ownNames := fun b hb =>
    List.mem_flatMap.2 ⟨e, he, hb⟩
  rcases className_known hs with hkind | hknown
  · exact hkind
  refine hapart v (hown v hv) (.text v.display) ?_ rfl rfl
  rcases mem_remember.1 hknown with hnow | hearlier
  · exact hown _ (hbefore _ hnow)
  rcases mem_behind_named hearlier with hfront | hstart
  · rw [List.flatMap_append]
    exact List.mem_append_left _ hfront
  · rw [run_named hrun] at hstart
    cases hstart

end TableInterfaces.Generator
