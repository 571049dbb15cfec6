import TableInterfaces.Proofs.Generator.Memory

/-!
# Rows of files

`FileRow` gives the path and the text of each entity's file in turn, in the state of the run behind
the entities in front of it, and leaves aside whether two files share a path. Main statements:

* `filesFrom_ok_iff`: a run gives the files of its row if no path occurs twice.
* `FileRow.filesFrom_cases`: a run that has a row can only fail for a path in use.
* `FileRow.eq_of_agree`: two states of a run have the same row if both have one.
* `fileRow_iff_of_texts`: where all names are texts, the row has the file of each entity in the
  state at the start.
-/

namespace TableInterfaces.Generator

open TableInterfaces.Json
open TableInterfaces.Naming

/-- The path and the text of each entity's file, in the state behind the entities in front of it. -/
inductive FileRow (g : Generator) : Run → List Entity → List (String × String) → Prop
  | nil {run : Run} : FileRow g run [] []
  | cons {run : Run} {e : Entity} {path source : String} {rest : List Entity}
      {files : List (String × String)} :
      g.filePath run e = .ok path → g.sourceOf run e = .ok source →
        FileRow g (run.after e) rest files → FileRow g run (e :: rest) ((path, source) :: files)

variable {g : Generator} {run run' : Run} {owners : List (String × String)}
  {entities front back : List Entity} {files files' : List (String × String)}

/-- What is not found behind one more entry is another name and not found in front of it. -/
theorem lookup_cons_eq_none {name path title : String} :
    ((path, title) :: owners).lookup name = none ↔ name ≠ path ∧ owners.lookup name = none := by
  simp [List.lookup_eq_none_iff]

/-- **The files of a run.** A run gives the files of its row if no path occurs twice and none is in
use. -/
theorem filesFrom_ok_iff : g.filesFrom run owners entities = .ok files ↔
    FileRow g run entities files ∧ (files.map (·.1)).Nodup ∧
      ∀ file ∈ files, owners.lookup file.1 = none := by
  induction entities generalizing run owners files with
  | nil =>
    constructor
    · intro h
      cases h
      exact ⟨.nil, List.nodup_nil, fun _ hfile => by cases hfile⟩
    · rintro ⟨⟨⟩, -, -⟩
      rfl
  | cons e rest ih =>
    constructor
    · intro h
      obtain ⟨path, hpath, h⟩ := Result.ok_of_bind h
      split at h
      · cases h
      · rename_i hfree
        obtain ⟨source, hsource, h⟩ := Result.ok_of_bind h
        obtain ⟨later, hlater, h⟩ := Result.ok_of_bind h
        cases h
        obtain ⟨hrow, hnodup, howners⟩ := ih.1 hlater
        have hother := fun file hfile => lookup_cons_eq_none.1 (howners file hfile)
        refine ⟨.cons hpath hsource hrow, List.nodup_cons.2 ⟨?_, hnodup⟩, fun file hfile => ?_⟩
        · intro hmem
          obtain ⟨file, hfile, hsame⟩ := List.mem_map.1 hmem
          exact (hother file hfile).1 hsame
        · rcases List.mem_cons.1 hfile with rfl | hfile
          · exact hfree
          · exact (hother file hfile).2
    · rintro ⟨hrow, hnodup, howners⟩
      cases hrow with
      | cons hpath hsource hrow =>
        rename_i path source later
        obtain ⟨hnew, hnodup⟩ := List.nodup_cons.1 hnodup
        have hlater : g.filesFrom (run.after e) ((path, e.title) :: owners) rest = .ok later :=
          ih.2 ⟨hrow, hnodup, fun file hfile => lookup_cons_eq_none.2
            ⟨fun h => hnew (List.mem_map.2 ⟨file, hfile, h⟩),
              howners file (List.mem_cons_of_mem _ hfile)⟩⟩
        unfold filesFrom
        rw [hpath, Result.ok_bind, howners _ List.mem_cons_self]
        dsimp only
        rw [hsource, Result.ok_bind, hlater]
        rfl

namespace FileRow

/-- A run over entities that have a row gives its files, or fails for a path in use. -/
theorem filesFrom_cases (h : FileRow g run entities files) (owners : List (String × String)) :
    g.filesFrom run owners entities = .ok files ∨
      ∃ cause, g.filesFrom run owners entities = .error (.output cause) := by
  induction h generalizing owners with
  | nil => exact .inl rfl
  | @cons run e path source rest later hpath hsource _ ih =>
    unfold filesFrom
    rw [hpath, Result.ok_bind]
    cases owners.lookup path with
    | some owner => exact .inr ⟨.samePath owner e.title path, rfl⟩
    | none =>
      dsimp only
      rw [hsource, Result.ok_bind]
      rcases ih ((path, e.title) :: owners) with hlater | ⟨cause, hlater⟩
      · exact .inl (by rw [hlater]; rfl)
      · exact .inr ⟨cause, by rw [hlater]; rfl⟩

/-- Every file of a row is the file of an entity. -/
theorem exists_fileOf (h : FileRow g run entities files) {file : String × String}
    (hfile : file ∈ files) : ∃ run e parts sheet, g.FileOf run e file parts sheet := by
  induction h with
  | nil => cases hfile
  | cons hpath hsource _ ih =>
    rcases List.mem_cons.1 hfile with rfl | hfile
    · exact ⟨_, _, fileOf_of_ok hpath hsource⟩
    · exact ih hfile

/-- A row over two lists of entities is one row behind the other. -/
theorem append_inv (h : FileRow g run (front ++ back) files) :
    ∃ first second, files = first ++ second ∧ FileRow g run front first ∧
      FileRow g (run.behind front) back second := by
  induction front generalizing run files with
  | nil => exact ⟨[], files, rfl, .nil, h⟩
  | cons e rest ih =>
    cases h with
    | cons hpath hsource hrow =>
      obtain ⟨first, second, rfl, hfirst, hsecond⟩ := ih hrow
      exact ⟨_ :: first, second, rfl, .cons hpath hsource hfirst, hsecond⟩

end FileRow

/-- What two states of a run that agree know together. -/
def Run.join (run run' : Run) : Run :=
  { run with names := { run.names with named := run.names.named ++ run'.names.named } }

/-- Two states that agree on an entity are below their join. -/
theorem Run.belowAt_join {e : Entity} (hagree : run.names.Agree run'.names)
    (htypes : ∀ m ∈ e.members, run.types.ofMember m = run'.types.ofMember m) :
    run.BelowAt (run.join run') e ∧ run'.BelowAt (run.join run') e :=
  have hjoin : run.names.Agree (run.join run').names := ⟨rfl, rfl⟩
  ⟨.of_subset hjoin (List.subset_append_left _ _) fun _ _ => rfl,
    .of_subset (hagree.symm.trans hjoin) (List.subset_append_right _ _) fun m hm =>
      (htypes m hm).symm⟩

/-- Two states that agree have the same row if both have one. -/
theorem FileRow.eq_of_agree (hagree : run.names.Agree run'.names)
    (htypes : ∀ e ∈ entities, ∀ m ∈ e.members, run.types.ofMember m = run'.types.ofMember m)
    (h : FileRow g run entities files) (h' : FileRow g run' entities files') : files = files' := by
  induction h generalizing run' files' with
  | nil => cases h'; rfl
  | @cons run e path source rest later hpath hsource hrow ih =>
    cases h' with
    | cons hpath' hsource' hrow' =>
      obtain ⟨hbelow, hbelow'⟩ := Run.belowAt_join hagree (htypes e List.mem_cons_self)
      have hpaths := (hbelow.filePath _ hpath).symm.trans (hbelow'.filePath _ hpath')
      have hsources := (hbelow.sourceOf _ hsource).symm.trans (hbelow'.sourceOf _ hsource')
      have hlater := ih (Run.behind_agree hagree [e] [e])
        (fun d hd => htypes d (List.mem_cons_of_mem _ hd)) hrow'
      rw [Except.ok.inj hpaths, Except.ok.inj hsources, hlater]

/-- Where all names are texts, the row has the file of each entity in the state at the start. -/
theorem fileRow_iff_of_texts (htexts : ∀ e ∈ entities, ∀ v ∈ ownNames e, v.kind = .text)
    (hagree : run.names.Agree run'.names)
    (htypes : ∀ e ∈ entities, ∀ m ∈ e.members, run.types.ofMember m = run'.types.ofMember m) :
    FileRow g run' entities files ↔ List.Forall₂ (fun e file =>
      g.filePath run e = .ok file.1 ∧ g.sourceOf run e = .ok file.2) entities files := by
  induction entities generalizing run' files with
  | nil =>
    constructor
    · rintro ⟨⟩
      exact .nil
    · rintro ⟨⟩
      exact .nil
  | cons e rest ih =>
    have he := htexts e List.mem_cons_self
    have htypes' := htypes e List.mem_cons_self
    have hbelow : run.BelowAt run' e := .of_texts hagree he htypes'
    have habove : run'.BelowAt run e :=
      .of_texts hagree.symm he fun m hm => (htypes' m hm).symm
    have hrest := fun files => @ih (run'.after e) files
      (fun d hd => htexts d (List.mem_cons_of_mem _ hd)) (Run.behind_agree hagree [] [e])
      fun d hd => htypes d (List.mem_cons_of_mem _ hd)
    constructor
    · rintro (_ | ⟨hpath, hsource, hrow⟩)
      exact .cons ⟨habove.filePath _ hpath, habove.sourceOf _ hsource⟩ ((hrest _).1 hrow)
    · rintro (_ | ⟨⟨hpath, hsource⟩, hrow⟩)
      exact .cons (hbelow.filePath _ hpath) (hbelow.sourceOf _ hsource) ((hrest _).2 hrow)

end TableInterfaces.Generator
