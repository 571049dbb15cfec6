import Mathlib.Data.List.Induction
import TableInterfaces.Proofs.Result
import TableInterfaces.Registry

/-!
# Registries after any registrations

A registry has two tables, and every registration changes both. `Registration.run_cases` says once
what a registration does: it is refused and leaves the registry as it was, or all its names were
free and now lead to the new language. Main statements:

* `Registry.Consistent.run`: a registration keeps the tables consistent, refused or not.
* `Registry.lookup_names_after`: the known names are those that accepted registrations list.
* `Registry.after_registrations`: what holds after any row of registrations on an empty registry,
  and what one more registration does to it.
-/

namespace TableInterfaces

open TableInterfaces.Json
open TableInterfaces.Text

variable {γ : Type}

/-- A registration as a caller writes it: a name, what is to answer to it, if that is a class of
generators, and other names. -/
structure Registration (γ : Type) where
  name : String
  candidate : Option γ
  aliases : List String

namespace Registration

/-- The names that are asked for, as they are compared. -/
def keys (c : Registration γ) : List String :=
  (c.name :: c.aliases).map lower

/-- What comes of a registration, and the registry as it is left. -/
def run (c : Registration γ) (r : Registry γ) : Except Fault Unit × Registry γ :=
  (Registry.enroll (.text c.name) c.candidate (.list (c.aliases.map .text))).run r

end Registration

namespace Registry

/-- The registry after registrations on an empty one, refused ones included. -/
def after (registrations : List (Registration γ)) : Registry γ :=
  registrations.foldl (fun r c => (c.run r).2) {}

/-- A registration of a row that is not refused when its turn comes. -/
def Accepted (registrations : List (Registration γ)) (d : Registration γ) : Prop :=
  ∃ front back, registrations = front ++ d :: back ∧ (d.run (after front)).1 = .ok ()

/-- Both tables with a language and all its names. -/
def enter (l : Language γ) (r : Registry γ) : Registry γ :=
  l.names.foldl (fun r key => addName l.name key r) (addLanguage l r)

/-! ## What a caller describes -/

/-- The aliases of a language are the names listed for it, but for the primary name. -/
theorem aliasNames_texts (primary : String) (found listed : List String) :
    ∃ aliases, aliasNames primary found (listed.map .text) = .ok aliases ∧
      ∀ key, key ∈ aliases ↔ key ∈ found ∨ key ≠ primary ∧ key ∈ listed.map lower := by
  induction listed generalizing found with
  | nil => exact ⟨found, rfl, fun key => by simp⟩
  | cons name rest ih =>
    have hstep : aliasNames primary found ((name :: rest).map .text) =
        if lower name == primary || found.contains (lower name) then
          aliasNames primary found (rest.map .text)
        else aliasNames primary (found ++ [lower name]) (rest.map .text) := rfl
    rw [hstep]
    split
    · rename_i hold
      have hold : lower name = primary ∨ lower name ∈ found := by simpa using hold
      obtain ⟨aliases, haliases, hkeys⟩ := ih found
      refine ⟨aliases, haliases, fun key => (hkeys key).trans ?_⟩
      rw [List.map_cons, List.mem_cons]
      constructor
      · rintro (hkey | ⟨hne, hkey⟩)
        · exact .inl hkey
        · exact .inr ⟨hne, .inr hkey⟩
      · rintro (hkey | ⟨hne, rfl | hkey⟩)
        · exact .inl hkey
        · exact .inl (hold.resolve_left hne)
        · exact .inr ⟨hne, hkey⟩
    · rename_i hnew
      have hnew : lower name ≠ primary ∧ lower name ∉ found := by simpa using hnew
      obtain ⟨aliases, haliases, hkeys⟩ := ih (found ++ [lower name])
      refine ⟨aliases, haliases, fun key => (hkeys key).trans ?_⟩
      rw [List.mem_append, List.mem_singleton, List.map_cons, List.mem_cons]
      constructor
      · rintro ((hkey | rfl) | ⟨hne, hkey⟩)
        · exact .inl hkey
        · exact .inr ⟨hnew.1, .inl rfl⟩
        · exact .inr ⟨hne, .inr hkey⟩
      · rintro (hkey | ⟨hne, rfl | hkey⟩)
        · exact .inl (.inl hkey)
        · exact .inl (.inr rfl)
        · exact .inr ⟨hne, hkey⟩

/-- A class of generators with a name and aliases describes a language with these names. -/
theorem describe_some (name : String) (generatorClass : γ) (aliases : List String) :
    ∃ l, Language.describe (.text name) (some generatorClass) (.list (aliases.map .text)) = .ok l ∧
      l.name = lower name ∧ l.generatorClass = generatorClass ∧
      ∀ key, key ∈ l.names ↔ key ∈ (name :: aliases).map lower := by
  obtain ⟨found, hfound, hkeys⟩ := aliasNames_texts (lower name) [] aliases
  refine ⟨⟨lower name, generatorClass, found⟩, ?_, rfl, rfl, fun key => ?_⟩
  · have hlisted : listedAliases (.list (aliases.map .text)) = .ok (aliases.map .text) := by
      cases aliases <;> rfl
    change (listedAliases (.list (aliases.map .text)) >>= fun listed => do
      let aliases ← aliasNames (lower name) [] listed
      return ({ name := lower name, generatorClass, aliases } : Language γ)) = _
    rw [hlisted, Result.ok_bind, hfound]
    rfl
  · rw [Language.names, List.mem_cons, hkeys, List.map_cons, List.mem_cons]
    constructor
    · rintro (rfl | hkey | ⟨_, hkey⟩)
      · exact .inl rfl
      · cases hkey
      · exact .inr hkey
    · rintro (rfl | hkey)
      · exact .inl rfl
      · by_cases hname : key = lower name
        · exact .inl hname
        · exact .inr (.inr ⟨hname, hkey⟩)

/-! ## What a registration does -/

/-- Names are all free, or the first one that is not names its owner. -/
theorem checkFree_cases (r : Registry γ) (names : List String) :
    ((∀ key ∈ names, r.names.lookup key = none) ∧ r.checkFree names = .ok ()) ∨
      ∃ key ∈ names, ∃ owner, r.names.lookup key = some owner ∧
        r.checkFree names = .error (.nameTaken key owner) := by
  induction names with
  | nil => exact .inl ⟨nofun, rfl⟩
  | cons name rest ih =>
    cases hname : r.names.lookup name with
    | some owner =>
      exact .inr ⟨name, List.mem_cons_self, owner, hname, by rw [checkFree, hname]⟩
    | none =>
      have hrest : r.checkFree (name :: rest) = r.checkFree rest := by rw [checkFree, hname]
      rw [hrest]
      rcases ih with ⟨hfree, hok⟩ | ⟨key, hkey, owner, howner, herror⟩
      · refine .inl ⟨fun key hkey => ?_, hok⟩
        rcases List.mem_cons.1 hkey with rfl | hkey
        · exact hname
        · exact hfree key hkey
      · exact .inr ⟨key, List.mem_cons_of_mem _ hkey, owner, howner, herror⟩

/-- Names are entered one by one. -/
theorem run_addNames (primary : String) (names : List String) (r : Registry γ) :
    (names.forM fun key => (modify (addName primary key) : Registering γ Unit)).run r =
      (.ok (), names.foldl (fun r key => addName primary key r) r) := by
  induction names generalizing r with
  | nil => rfl
  | cons key rest ih =>
    change (modify (addName primary key) >>= fun _ =>
      rest.forM fun key => (modify (addName primary key) : Registering γ Unit)).run r = _
    rw [run_bind]
    exact ih (addName primary key r)

/-- A language is refused where one of its names is taken, and else entered. -/
theorem run_enroll {name aliases : Value} {candidate : Option γ} {l : Language γ} (r : Registry γ)
    (h : Language.describe name candidate aliases = .ok l) :
    (enroll name candidate aliases).run r =
      match r.checkFree l.names with
      | .ok () => (.ok (), enter l r)
      | .error cause => (.error cause, r) := by
  unfold enroll
  rw [h]
  change (do
    let r ← get
    .ofResult (r.checkFree l.names)
    modify (addLanguage l)
    l.names.forM fun key => modify (addName l.name key) : Registering γ Unit).run r = _
  rw [run_bind]
  change (do
    .ofResult (r.checkFree l.names)
    modify (addLanguage l)
    l.names.forM fun key => modify (addName l.name key) : Registering γ Unit).run r = _
  cases hfree : r.checkFree l.names with
  | error cause => rfl
  | ok _ => exact run_addNames l.name l.names (addLanguage l r)

end Registry

/-- **What a registration does.** It is refused, for one of two reasons, and the registry stays as it
was; or it asks for free names only, and they are entered with the language. -/
theorem Registration.run_cases (c : Registration γ) (r : Registry γ) :
    (c.candidate = none ∧ c.run r = (.error .notGeneratorClass, r)) ∨
      (∃ key ∈ c.keys, ∃ owner, r.names.lookup key = some owner ∧
        c.run r = (.error (.nameTaken key owner), r)) ∨
      ∃ l, (c.candidate = some l.generatorClass ∧ l.name = lower c.name ∧
        ∀ key, key ∈ l.names ↔ key ∈ c.keys) ∧ (∀ key ∈ c.keys, r.names.lookup key = none) ∧
        c.run r = (.ok (), r.enter l) := by
  obtain ⟨name, candidate, aliases⟩ := c
  cases candidate with
  | none => exact .inl ⟨rfl, rfl⟩
  | some generatorClass =>
    obtain ⟨l, hl, hname, hclass, hkeys⟩ := Registry.describe_some name generatorClass aliases
    have hrun := Registry.run_enroll r hl
    rcases r.checkFree_cases l.names with ⟨hfree, hok⟩ | ⟨key, hkey, owner, howner, herror⟩
    · rw [hok] at hrun
      exact .inr (.inr ⟨l, ⟨congrArg some hclass.symm, hname, hkeys⟩,
        fun key hkey => hfree key ((hkeys key).2 hkey), hrun⟩)
    · rw [herror] at hrun
      exact .inr (.inl ⟨key, (hkeys key).1 hkey, owner, howner, hrun⟩)

namespace Registry

/-! ## The tables after an entry -/

/-- Entered names lead to their language, all others to where they led before. -/
theorem lookup_names_enter (l : Language γ) (r : Registry γ) (key : String) :
    (r.enter l).names.lookup key =
      if key ∈ l.names then some l.name else r.names.lookup key := by
  have hfold : ∀ (names : List String) (r : Registry γ),
      (names.foldl (fun r key => addName l.name key r) r).names.lookup key =
        if key ∈ names then some l.name else r.names.lookup key := by
    intro names
    induction names with
    | nil => intro r; simp
    | cons name rest ih =>
      intro r
      rw [List.foldl_cons, ih]
      by_cases hrest : key ∈ rest
      · simp [hrest]
      · by_cases hname : key = name
        · subst hname
          simpa [hrest, addName] using lookup_assign_self r.names key l.name
        · simpa [hrest, hname, addName] using lookup_assign_of_ne r.names l.name hname
  exact hfold l.names (addLanguage l r)

/-- The languages after an entry. -/
theorem languages_enter (l : Language γ) (r : Registry γ) :
    (r.enter l).languages = assign r.languages l.name l := by
  have hfold : ∀ (names : List String) (r : Registry γ),
      (names.foldl (fun r key => addName l.name key r) r).languages = r.languages := by
    intro names
    induction names with
    | nil => exact fun r => rfl
    | cons name rest ih => exact fun r => ih _
  exact hfold l.names (addLanguage l r)

/-- The language of the entered primary name is the new one, all others stay. -/
theorem lookup_languages_enter (l : Language γ) (r : Registry γ) (primary : String) :
    (r.enter l).languages.lookup primary =
      if primary = l.name then some l else r.languages.lookup primary := by
  rw [languages_enter]
  split
  · rename_i h
    rw [h]
    exact lookup_assign_self _ _ _
  · rename_i h
    exact lookup_assign_of_ne _ _ h

/-! ## Consistency -/

/-- The tables agree: every known name leads to a registered language that has it, and every name of
a registered language leads to it. -/
structure Consistent (r : Registry γ) : Prop where
  owner : ∀ key primary, r.names.lookup key = some primary →
    ∃ l, r.languages.lookup primary = some l ∧ key ∈ l.names
  names : ∀ primary l, r.languages.lookup primary = some l →
    l.name = primary ∧ ∀ key ∈ l.names, r.names.lookup key = some primary

theorem Consistent.empty : ({} : Registry γ).Consistent where
  owner _ _ h := nomatch h
  names _ _ h := nomatch h

/-- Tables stay consistent under the entry of a language with free names. -/
theorem Consistent.enter {r : Registry γ} (h : r.Consistent) {l : Language γ}
    (hfree : ∀ key ∈ l.names, r.names.lookup key = none) : (r.enter l).Consistent where
  owner key primary hkey := by
    rw [lookup_names_enter] at hkey
    split at hkey
    · rename_i hmem
      cases hkey
      exact ⟨l, by rw [lookup_languages_enter, if_pos rfl], hmem⟩
    · obtain ⟨d, hd, hmem⟩ := h.owner key primary hkey
      have hne : primary ≠ l.name := by
        -- the primary name of an old language is known, the new one was free
        intro heq
        obtain ⟨hname, hnames⟩ := h.names primary d hd
        have hknown := hnames d.name List.mem_cons_self
        rw [hname, heq, hfree l.name List.mem_cons_self] at hknown
        cases hknown
      exact ⟨d, by rw [lookup_languages_enter, if_neg hne, hd], hmem⟩
  names primary d hd := by
    rw [lookup_languages_enter] at hd
    split at hd
    · rename_i heq
      cases hd
      exact ⟨heq.symm, fun key hkey => by rw [lookup_names_enter, if_pos hkey, heq]⟩
    · obtain ⟨hname, hnames⟩ := h.names primary d hd
      refine ⟨hname, fun key hkey => ?_⟩
      have hnew : key ∉ l.names := by
        intro hmem
        have hknown := hnames key hkey
        rw [hfree key hmem] at hknown
        cases hknown
      rw [lookup_names_enter, if_neg hnew, hnames key hkey]

/-- **A registration keeps the tables consistent**, refused or not. -/
theorem Consistent.run {r : Registry γ} (h : r.Consistent) (c : Registration γ) :
    (c.run r).2.Consistent := by
  rcases c.run_cases r with ⟨_, hrun⟩ | ⟨_, _, _, _, hrun⟩ | ⟨l, ⟨_, _, hkeys⟩, hfree, hrun⟩
  · rw [hrun]
    exact h
  · rw [hrun]
    exact h
  · rw [hrun]
    exact h.enter fun key hkey => hfree key ((hkeys key).1 hkey)

/-- The tables are consistent after any registrations. -/
theorem after_consistent (registrations : List (Registration γ)) :
    (after registrations).Consistent := by
  have hfold : ∀ r : Registry γ, r.Consistent →
      (registrations.foldl (fun r c => (c.run r).2) r).Consistent := by
    induction registrations with
    | nil => exact fun r h => h
    | cons c rest ih => exact fun r h => ih _ (h.run c)
  exact hfold {} .empty

/-! ## Accepted registrations -/

section
variable {registrations : List (Registration γ)} {c d : Registration γ} {r : Registry γ}
  {key primary : String}

theorem after_concat (registrations : List (Registration γ)) (c : Registration γ) :
    after (registrations ++ [c]) = (c.run (after registrations)).2 := by
  rw [after, List.foldl_concat, ← after]

theorem not_accepted_nil : ¬Accepted [] d := by
  rintro ⟨front, back, hrow, -⟩
  exact List.append_ne_nil_of_right_ne_nil front (List.cons_ne_nil d back) hrow.symm

/-- The last registration of a row does not change which of the others are accepted. -/
theorem accepted_concat : Accepted (registrations ++ [c]) d ↔
    Accepted registrations d ∨ (c.run (after registrations)).1 = .ok () ∧ d = c := by
  constructor
  · rintro ⟨front, back, hrow, hok⟩
    rcases List.eq_nil_or_concat back with rfl | ⟨back, last, rfl⟩
    · obtain ⟨rfl, hlast⟩ := List.append_inj' hrow rfl
      cases hlast
      exact .inr ⟨hok, rfl⟩
    · have hrow : registrations ++ [c] = front ++ d :: back ++ [last] := by
        rw [hrow, List.concat_eq_append, List.append_assoc, List.cons_append]
      exact .inl ⟨front, back, (List.append_inj' hrow rfl).1, hok⟩
  · rintro (⟨front, back, rfl, hok⟩ | ⟨hok, rfl⟩)
    · exact ⟨front, back ++ [c], by rw [List.append_assoc, List.cons_append], hok⟩
    · exact ⟨registrations, [], rfl, hok⟩

/-- **The names after a registration**: those that were known before, and, if it is accepted, those
that it lists. -/
theorem lookup_names_run : (c.run r).2.names.lookup key = some primary ↔
    r.names.lookup key = some primary ∨
      (c.run r).1 = .ok () ∧ key ∈ c.keys ∧ lower c.name = primary := by
  rcases c.run_cases r with ⟨_, hrun⟩ | ⟨_, _, _, _, hrun⟩ | ⟨l, ⟨_, hname, hkeys⟩, hfree, hrun⟩
  · rw [hrun]
    exact ⟨.inl, fun h => h.resolve_right nofun⟩
  · rw [hrun]
    exact ⟨.inl, fun h => h.resolve_right nofun⟩
  · rw [hrun, lookup_names_enter]
    split
    · rename_i hmem
      have hkey := (hkeys key).1 hmem
      rw [hfree key hkey, hname]
      exact ⟨fun h => .inr ⟨rfl, hkey, Option.some.inj h⟩,
        fun h => congrArg some (h.resolve_left nofun).2.2⟩
    · rename_i hmem
      exact ⟨.inl, fun h => h.resolve_right fun hnew => hmem ((hkeys key).2 hnew.2.1)⟩

/-- **The languages after a registration**: those that were there before, and, if it is accepted,
one that it describes. -/
theorem lookup_languages_run {l : Language γ} (h : (c.run r).2.languages.lookup primary = some l) :
    r.languages.lookup primary = some l ∨ (c.run r).1 = .ok () ∧ lower c.name = primary ∧
      c.candidate = some l.generatorClass ∧ ∀ key, key ∈ l.names ↔ key ∈ c.keys := by
  rcases c.run_cases r with ⟨_, hrun⟩ | ⟨_, _, _, _, hrun⟩ |
    ⟨d, ⟨hclass, hname, hkeys⟩, _, hrun⟩
  · rw [hrun] at h
    exact .inl h
  · rw [hrun] at h
    exact .inl h
  · rw [hrun, lookup_languages_enter] at h
    rw [hrun]
    split at h
    · rename_i heq
      cases h
      exact .inr ⟨rfl, hname.symm.trans heq.symm, hclass, hkeys⟩
    · exact .inl h

/-- **A name is known just where an accepted registration lists it**, and leads to the name under
which that one registers. -/
theorem lookup_names_after : (after registrations).names.lookup key = some primary ↔
    ∃ d, Accepted registrations d ∧ key ∈ d.keys ∧ lower d.name = primary := by
  induction registrations using List.reverseRecOn with
  | nil => exact ⟨nofun, fun ⟨_, haccepted, _⟩ => (not_accepted_nil haccepted).elim⟩
  | append_singleton rest c ih =>
    rw [after_concat, lookup_names_run, ih]
    constructor
    · rintro (⟨d, haccepted, hd⟩ | ⟨hok, hc⟩)
      · exact ⟨d, accepted_concat.2 (.inl haccepted), hd⟩
      · exact ⟨c, accepted_concat.2 (.inr ⟨hok, rfl⟩), hc⟩
    · rintro ⟨d, haccepted, hd⟩
      rcases accepted_concat.1 haccepted with haccepted | ⟨hok, rfl⟩
      · exact .inl ⟨d, haccepted, hd⟩
      · exact .inr ⟨hok, hd⟩

/-- **Every language is described by an accepted registration.** -/
theorem accepted_of_lookup {l : Language γ}
    (h : (after registrations).languages.lookup primary = some l) :
    ∃ d, Accepted registrations d ∧ lower d.name = primary ∧
      d.candidate = some l.generatorClass ∧ ∀ key, key ∈ l.names ↔ key ∈ d.keys := by
  induction registrations using List.reverseRecOn with
  | nil => cases h
  | append_singleton rest c ih =>
    rw [after_concat] at h
    rcases lookup_languages_run h with hold | ⟨hok, hnew⟩
    · obtain ⟨d, haccepted, hd⟩ := ih hold
      exact ⟨d, accepted_concat.2 (.inl haccepted), hd⟩
    · exact ⟨c, accepted_concat.2 (.inr ⟨hok, rfl⟩), hnew⟩

end

/-! ## Look-ups -/

/-- The primary names are those of registered languages. -/
theorem mem_list {r : Registry γ} {primary : String} :
    primary ∈ r.list ↔ ∃ l, r.languages.lookup primary = some l := by
  rw [list, List.mem_mergeSort]
  induction r.languages with
  | nil => simp
  | cons entry rest ih =>
    obtain ⟨name, l⟩ := entry
    rw [List.map_cons, List.mem_cons, List.lookup_cons]
    by_cases h : primary = name
    · simp [h]
    · have hne : (primary == name) = false := by simpa using h
      simpa [h, hne] using ih

/-- A name is resolved by the table of names, in lower case. -/
theorem primaryName_eq_ok_iff {r : Registry γ} {s primary : String} :
    r.primaryName (.text s) = .ok primary ↔ r.names.lookup (lower s) = some primary := by
  have hkey : (Value.text s).lowered = .ok (lower s) := rfl
  rw [primaryName, hkey, Result.ok_bind]
  cases r.names.lookup (lower s) with
  | none => exact iff_of_false (fun h => by cases h) (fun h => by cases h)
  | some found => exact ⟨fun h => congrArg some (Except.ok.inj h), fun h => by cases h; rfl⟩

/-- A name leads to a language through both tables. -/
theorem resolve_eq_ok_iff {r : Registry γ} {s : String} {l : Language γ} :
    r.resolve (.text s) = .ok l ↔
      ∃ primary, r.names.lookup (lower s) = some primary ∧ r.languages.lookup primary = some l := by
  constructor
  · intro h
    obtain ⟨primary, hprimary, h⟩ := Result.ok_of_bind h
    refine ⟨primary, primaryName_eq_ok_iff.1 hprimary, ?_⟩
    unfold entry at h
    split at h
    · rename_i found hfound
      cases h
      exact hfound
    · cases h
  · rintro ⟨primary, hprimary, hl⟩
    rw [resolve, primaryName_eq_ok_iff.2 hprimary, Result.ok_bind, entry, hl]

/-! ## Before and after a registration -/

variable {r : Registry γ} {c : Registration γ}

/-- No name belongs to two registered languages. -/
theorem Consistent.owner_unique (h : r.Consistent) {primary primary' key : String}
    {l l' : Language γ} (hl : r.languages.lookup primary = some l)
    (hl' : r.languages.lookup primary' = some l') (hkey : key ∈ l.names) (hkey' : key ∈ l'.names) :
    primary = primary' ∧ l = l' := by
  have hprimary := (h.names primary l hl).2 key hkey
  have hprimary' := (h.names primary' l' hl').2 key hkey'
  have hsame : some primary = some primary' := hprimary.symm.trans hprimary'
  cases hsame
  exact ⟨rfl, Option.some.inj (hl.symm.trans hl')⟩

/-- The known names are the names of the registered languages. -/
theorem Consistent.known_iff (h : r.Consistent) (key : String) :
    (r.names.lookup key).isSome ↔
      ∃ primary ∈ r.list, ∃ l, r.languages.lookup primary = some l ∧ key ∈ l.names := by
  constructor
  · intro hknown
    obtain ⟨primary, hprimary⟩ := Option.isSome_iff_exists.1 hknown
    obtain ⟨l, hl, hmem⟩ := h.owner key primary hprimary
    exact ⟨primary, mem_list.2 ⟨l, hl⟩, l, hl, hmem⟩
  · rintro ⟨primary, _, l, hl, hmem⟩
    rw [(h.names primary l hl).2 key hmem]
    rfl

/-- A refused registration has a reason and leaves the registry as it was. -/
theorem run_error {cause : Fault} (h : (c.run r).1 = .error cause) :
    (c.run r).2 = r ∧ (cause = .notGeneratorClass ∨ ∃ key owner, cause = .nameTaken key owner) := by
  rcases c.run_cases r with ⟨_, hrun⟩ | ⟨key, _, owner, _, hrun⟩ | ⟨l, _, _, hrun⟩
  · rw [hrun] at h ⊢
    cases h
    exact ⟨rfl, .inl rfl⟩
  · rw [hrun] at h ⊢
    cases h
    exact ⟨rfl, .inr ⟨key, owner, rfl⟩⟩
  · rw [hrun] at h
    cases h

/-- A registration succeeds just where it offers a class of generators under free names. -/
theorem run_eq_ok_iff : (c.run r).1 = .ok () ↔
    c.candidate.isSome ∧ ∀ key ∈ c.keys, (r.names.lookup key).isSome = false := by
  rcases c.run_cases r with ⟨hnone, hrun⟩ | ⟨key, hkey, owner, howner, hrun⟩ |
    ⟨l, ⟨hclass, _⟩, hfree, hrun⟩
  · rw [hrun, hnone]
    exact ⟨nofun, nofun⟩
  · rw [hrun]
    refine ⟨nofun, fun ⟨_, hfree⟩ => ?_⟩
    have hknown := hfree key hkey
    rw [howner] at hknown
    cases hknown
  · rw [hrun, hclass]
    exact ⟨fun _ => ⟨rfl, fun key hkey => by rw [hfree key hkey]; rfl⟩, fun _ => rfl⟩

/-- The names of a language that is registered lead to it. -/
theorem resolve_registered (h : (c.run r).1 = .ok ()) {s : String} (hs : lower s ∈ c.keys) :
    (c.run r).2.primaryName (.text s) = .ok (lower c.name) ∧
      ∃ l, (c.run r).2.resolve (.text s) = .ok l ∧ l.name = lower c.name ∧
        c.candidate = some l.generatorClass := by
  rcases c.run_cases r with ⟨_, hrun⟩ | ⟨_, _, _, _, hrun⟩ | ⟨l, ⟨hclass, hname, hkeys⟩, _, hrun⟩
  · rw [hrun] at h
    cases h
  · rw [hrun] at h
    cases h
  · rw [hrun, ← hname]
    have hlookup : (r.enter l).names.lookup (lower s) = some l.name := by
      rw [lookup_names_enter, if_pos ((hkeys _).2 hs)]
    have hentry : (r.enter l).languages.lookup l.name = some l := by
      rw [lookup_languages_enter, if_pos rfl]
    exact ⟨primaryName_eq_ok_iff.2 hlookup, l, resolve_eq_ok_iff.2 ⟨l.name, hlookup, hentry⟩, rfl,
      hclass⟩

/-- What leads to a language before a registration leads to it afterwards. -/
theorem Consistent.resolve_kept (h : r.Consistent) {s : String} {l : Language γ}
    (hl : r.resolve (.text s) = .ok l) :
    (c.run r).2.primaryName (.text s) = .ok l.name ∧ (c.run r).2.resolve (.text s) = .ok l := by
  obtain ⟨primary, hprimary, hentry⟩ := resolve_eq_ok_iff.1 hl
  obtain ⟨hname, hnames⟩ := h.names primary l hentry
  rw [hname]
  have hkept : (c.run r).2.names.lookup (lower s) = some primary ∧
      (c.run r).2.languages.lookup primary = some l := by
    rcases c.run_cases r with ⟨_, hrun⟩ | ⟨_, _, _, _, hrun⟩ | ⟨d, ⟨_, _, hkeys⟩, hfree, hrun⟩
    · rw [hrun]
      exact ⟨hprimary, hentry⟩
    · rw [hrun]
      exact ⟨hprimary, hentry⟩
    · -- a name that is known is none of the new ones
      have hnew : ∀ key, r.names.lookup key = some primary → key ∉ d.names := by
        intro key hkey hmem
        rw [hfree key ((hkeys key).1 hmem)] at hkey
        cases hkey
      have hne : primary ≠ d.name := by
        intro heq
        exact hnew primary (hnames primary (hname ▸ List.mem_cons_self)) (heq ▸ List.mem_cons_self)
      rw [hrun, lookup_names_enter, lookup_languages_enter, if_neg (hnew _ hprimary), if_neg hne]
      exact ⟨hprimary, hentry⟩
  exact ⟨primaryName_eq_ok_iff.2 hkept.1, resolve_eq_ok_iff.2 ⟨primary, hkept⟩⟩

/-- The primary names are those of accepted registrations. -/
theorem mem_list_after {registrations : List (Registration γ)} {primary : String} :
    primary ∈ (after registrations).list ↔
      ∃ d, Accepted registrations d ∧ lower d.name = primary := by
  rw [mem_list]
  constructor
  · rintro ⟨l, hl⟩
    obtain ⟨d, haccepted, hname, -⟩ := accepted_of_lookup hl
    exact ⟨d, haccepted, hname⟩
  · rintro ⟨d, haccepted, hname⟩
    have hkey : lower d.name ∈ d.keys := List.mem_cons_self
    obtain ⟨l, hl, -⟩ := (after_consistent registrations).owner _ _
      (lookup_names_after.2 ⟨d, haccepted, hkey, hname⟩)
    exact ⟨l, hl⟩

/-- The names that are known after a registration: those known before, and those that it lists if it
is accepted. -/
theorem known_run (key : String) : ((c.run r).2.names.lookup key).isSome ↔
    (r.names.lookup key).isSome ∨ (c.run r).1 = .ok () ∧ key ∈ c.keys := by
  simp only [Option.isSome_iff_exists, lookup_names_run, exists_or, exists_and_left,
    exists_eq', and_true]

/-- **Any registrations.** After any registrations on an empty registry, refused ones included, every
known name leads to a registered language that has it, the known names are those of registered
languages, and no two of these share one. The known names are those that accepted registrations
list, and lead to the primary names under which these register; the registered languages are those
that accepted registrations describe, with the names that they list and no others. One more
registration is refused, and leaves the registry as it was, unless it offers a class of generators
under free names; then its names, in any letter case, lead to this class, and they are the only new
ones. All names lead where they led before. -/
theorem after_registrations (registrations : List (Registration γ)) (c : Registration γ) :
    let r := after registrations
    let r' := (c.run r).2
    (∀ key primary, r.names.lookup key = some primary → primary ∈ r.list ∧
      ∃ l, r.languages.lookup primary = some l ∧ l.name = primary ∧ key ∈ l.names) ∧
    (∀ key, (r.names.lookup key).isSome ↔
      ∃ primary ∈ r.list, ∃ l, r.languages.lookup primary = some l ∧ key ∈ l.name :: l.aliases) ∧
    (∀ primary l primary' l' key, r.languages.lookup primary = some l →
      r.languages.lookup primary' = some l' → key ∈ l.names → key ∈ l'.names →
        primary = primary' ∧ l = l') ∧
    (∀ key primary, r.names.lookup key = some primary ↔
      ∃ d, Accepted registrations d ∧ key ∈ d.keys ∧ lower d.name = primary) ∧
    (∀ primary, primary ∈ r.list ↔ ∃ d, Accepted registrations d ∧ lower d.name = primary) ∧
    (∀ primary l, r.languages.lookup primary = some l → ∃ d, Accepted registrations d ∧
      lower d.name = primary ∧ d.candidate = some l.generatorClass ∧
        ∀ key, key ∈ l.names ↔ key ∈ d.keys) ∧
    (∀ key, (r'.names.lookup key).isSome ↔
      (r.names.lookup key).isSome ∨ (c.run r).1 = .ok () ∧ key ∈ c.keys) ∧
    ((c.run r).1 = .ok () ↔
      c.candidate.isSome ∧ ∀ key ∈ c.keys, (r.names.lookup key).isSome = false) ∧
    (∀ cause, (c.run r).1 = .error cause → r' = r ∧
      (cause = .notGeneratorClass ∨ ∃ key owner, cause = .nameTaken key owner)) ∧
    ((c.run r).1 = .ok () → ∀ s, (lower s = lower c.name ∨ ∃ a ∈ c.aliases, lower s = lower a) →
      r'.primaryName (.text s) = .ok (lower c.name) ∧
        ∃ l, r'.resolve (.text s) = .ok l ∧ l.name = lower c.name ∧
          c.candidate = some l.generatorClass) ∧
    ∀ s l, r.resolve (.text s) = .ok l →
      r'.primaryName (.text s) = .ok l.name ∧ r'.resolve (.text s) = .ok l := by
  intro r r'
  have hr : r.Consistent := after_consistent registrations
  refine ⟨?_, hr.known_iff, ?_, fun key primary => lookup_names_after,
    fun primary => mem_list_after, fun primary l => accepted_of_lookup, known_run, run_eq_ok_iff,
    fun cause => run_error, ?_, fun s l => hr.resolve_kept⟩
  · intro key primary hkey
    obtain ⟨l, hl, hmem⟩ := hr.owner key primary hkey
    exact ⟨mem_list.2 ⟨l, hl⟩, l, hl, (hr.names primary l hl).1, hmem⟩
  · intro primary l primary' l' key hl hl' hkey hkey'
    exact hr.owner_unique hl hl' hkey hkey'
  · intro hok s hs
    refine resolve_registered hok ?_
    rw [Registration.keys, List.map_cons, List.mem_cons]
    rcases hs with hs | ⟨a, ha, hs⟩
    · exact .inl hs
    · exact .inr (hs ▸ List.mem_map_of_mem ha)

/-- The built-in languages are registered one after the other. -/
example : (do enroll (.text "java") (some (.concrete .java)) .null
              enroll (.text "scala") (some (.concrete .scala)) (.list [.text "sc"]) :
      Registering GeneratorClass Unit).run {} = (.ok (), standard) := by
  rfl

end Registry

end TableInterfaces
