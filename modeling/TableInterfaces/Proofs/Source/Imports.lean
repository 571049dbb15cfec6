import TableInterfaces.Proofs.Source.Reference
import TableInterfaces.Source.Sheet

/-!
# Imports of a file

A sheet is opened for a package and with the names that the file declares itself. After that lines
are printed and types are referred to in any order. `Call` is one of these steps and `Sheet.run` a
row of them. Main statements:

* `Scope.Consistent`, the invariant of the names of a file, with `Scope.Consistent.use` for one use
  of a qualified name and `Scope.Consistent.useAll` for a row of them.
* `Scope.Consistent.imports_sorted`: the imports are strictly ascending.
* `Sheet.fileLines_placed`: where the import lines stand.
* `Sheet.run_faithful`: what the short names of a file mean, what it imports and where the imports
  are shown, for every row of calls.
-/

namespace TableInterfaces.Source

namespace Scope

/-! ## Consistent names -/

/-- The names of a file fit together: a simple name stands for a qualified name that ends in it,
each import is what a simple name stands for, and nothing is imported twice. -/
structure Consistent (s : Scope) : Prop where
  bound_split : ∀ simple q, s.bound.lookup simple = some q →
    ∃ package, TypeName.splitQualified? q.toList = some (package, simple.toList)
  imported_bound : ∀ q ∈ s.imported, ∃ simple, s.bound.lookup simple = some q
  imported_nodup : s.imported.Nodup

/-- The names of a file stay consistent with each use of a qualified name. -/
theorem Consistent.use {s : Scope} (h : s.Consistent) {u : Use} (hu : u.Splits) :
    (s.use u).Consistent := by
  rcases s.use_cases u with ⟨_, he⟩ | ⟨hd, hl, he⟩
  · rwa [he]
  have hlookup : ∀ simple, (s.use u).bound.lookup simple =
      (s.bound.lookup simple).or (if u.simple = simple then some u.text else none) := by
    intro simple
    rw [he, s.lookup_bind]
  -- an import with the text of the new one would be bound to the same simple name
  have hfresh : u.text ∉ s.imported := fun hm => by
    obtain ⟨simple, hs⟩ := h.imported_bound _ hm
    obtain ⟨package, hp⟩ := h.bound_split _ _ hs
    rw [(hu : _ = _), Option.some.injEq, Prod.mk.injEq, String.toList_inj] at hp
    rw [← hp.2, hl] at hs
    cases hs
  refine ⟨fun simple q hq => ?_, fun q hq => ?_, ?_⟩
  · rw [hlookup, Option.or_eq_some_iff] at hq
    rcases hq with hq | ⟨_, hq⟩
    · exact h.bound_split simple q hq
    · split at hq
      · rename_i hn
        cases hq
        exact ⟨u.package.toList, by rw [← hn]; exact hu⟩
      · cases hq
  · rw [he, s.mem_imported_bind] at hq
    rcases hq with hq | ⟨_, rfl⟩
    · obtain ⟨simple, hs⟩ := h.imported_bound q hq
      exact ⟨simple, by simp [hlookup, hs]⟩
    · exact ⟨u.simple, by simp [hlookup, hl]⟩
  · rw [he, bind]
    split
    · exact h.imported_nodup
    · refine List.nodup_append.2 ⟨h.imported_nodup, by simp, fun q hq r hr hqr => ?_⟩
      rw [List.mem_singleton] at hr
      exact hfresh (hr ▸ hqr ▸ hq)

/-- The names of a file stay consistent through a row of uses. -/
theorem Consistent.useAll {s : Scope} (h : s.Consistent) {uses : List Use}
    (hu : ∀ u ∈ uses, u.Splits) : (s.useAll uses).Consistent := by
  induction uses generalizing s with
  | nil => exact h
  | cons u rest ih =>
    exact ih (h.use (hu u (by simp))) fun v hv => hu v (List.mem_cons_of_mem _ hv)

/-- The imports in order are the imports. -/
@[simp] theorem mem_imports {s : Scope} {q : String} : q ∈ s.imports ↔ q ∈ s.imported :=
  List.mem_mergeSort

/-- The imports of consistent names are strictly ascending. -/
theorem Consistent.imports_sorted {s : Scope} (h : s.Consistent) :
    s.imports.Pairwise (· < ·) := by
  have hle : s.imports.Pairwise fun a b => decide (a ≤ b) = true :=
    List.pairwise_mergeSort
      (fun a b c hab hbc => by
        simpa using String.le_trans (by simpa using hab) (by simpa using hbc))
      (fun a b => by simpa using String.le_total a b) s.imported
  have hne : s.imports.Pairwise (· ≠ ·) :=
    (List.mergeSort_perm s.imported _).nodup_iff.2 h.imported_nodup
  exact (hle.and hne).imp fun hab => Std.lt_of_le_of_ne (of_decide_eq_true hab.1) hab.2

end Scope

/-! ## The block of import lines -/

/-- How a block of import lines stands among the lines of a file, indented by `unit`: an empty block
leaves no trace, else the block follows an empty line behind the first package line, or stands in
front of all with an empty line behind it. -/
inductive Placed (unit : String) (block : List String) : List Line → List String → Prop where
  | absent {lines} : block = [] → Placed unit block lines (lines.map (Sheet.indented unit))
  | behind {front line back} : block ≠ [] → (∀ l ∈ front, Sheet.isPackageLine l = false) →
    Sheet.isPackageLine line = true →
    Placed unit block (front ++ line :: back)
      ((front ++ [line]).map (Sheet.indented unit) ++ "" :: block ++
        back.map (Sheet.indented unit))
  | ahead {lines} : block ≠ [] → (∀ l ∈ lines, Sheet.isPackageLine l = false) →
    Placed unit block lines (block ++ "" :: lines.map (Sheet.indented unit))

namespace Sheet

/-- The import lines of a sheet stand among its lines as one block. -/
theorem fileLines_placed (s : Sheet) (unit : String) :
    Placed unit s.importLines s.lines (s.fileLines unit) := by
  unfold fileLines
  by_cases himports : s.importLines = []
  · simpa [himports] using @Placed.absent unit _ s.lines himports
  · simp only [List.isEmpty_iff, himports, if_false]
    cases hfind : s.lines.findIdx? isPackageLine with
    | none =>
      exact .ahead himports (by simpa [List.findIdx?_eq_none_iff] using hfind)
    | some i =>
      obtain ⟨hi, hline, hfront⟩ := List.findIdx?_eq_some_iff_getElem.1 hfind
      have hsplit : s.lines = s.lines.take i ++ s.lines[i] :: s.lines.drop (i + 1) := by simp
      have htake : s.lines.take (i + 1) = s.lines.take i ++ [s.lines[i]] :=
        List.take_succ_eq_append_getElem hi
      have hbefore : ∀ l ∈ s.lines.take i, isPackageLine l = false := by
        intro l hl
        obtain ⟨j, hj, rfl⟩ := List.mem_iff_getElem.1 hl
        rw [List.length_take] at hj
        rw [List.getElem_take]
        simpa using hfront j (by omega)
      have hplaced := @Placed.behind unit _ _ _ (s.lines.drop (i + 1)) himports hbefore hline
      rw [← hsplit, ← htake, List.map_take, List.map_drop] at hplaced
      exact hplaced

/-- The text of a sheet is made of the lines of the file, where all its lines can be indented. -/
theorem text_eq (s : Sheet) (unit ending : String) :
    s.text unit ending = (s.lines.forM (checkDepth unit)).map fun _ =>
      String.intercalate ending (s.fileLines unit) ++ ending := by
  unfold text render
  cases s.lines.forM (checkDepth unit) <;> rfl

end Sheet

/-! ## Rows of calls -/

/-- A step of printing behind the package line: a line, or the reference to a written type. -/
inductive Call where
  | println (text : String) (depth : Int)
  | ref (type : TypeName) (written : type.IsWritten)

namespace Call

/-- The lines that calls print. -/
def lines : List Call → List Line
  | [] => []
  | .println text depth :: rest => ⟨depth, text⟩ :: lines rest
  | .ref _ _ :: rest => lines rest

/-- The qualified names that calls use, in order. -/
def uses : List Call → List Use
  | [] => []
  | .println _ _ :: rest => uses rest
  | .ref type _ :: rest => type.uses ++ uses rest

/-- The uses of calls have simple names, and their texts tell package and simple name. -/
theorem uses_split (calls : List Call) :
    ∀ u ∈ uses calls, TypeName.isSimpleName u.simple.toList = true ∧ u.Splits := by
  induction calls with
  | nil => intro u hu; cases hu
  | cons call rest ih =>
    cases call with
    | println text depth => exact ih
    | ref type written =>
      intro u hu
      rcases List.mem_append.1 hu with hu | hu
      · exact written.uses_split u hu
      · exact ih u hu

end Call

/-- The qualified name that a simple name stands for in a file: the first one that uses it, if the
file does not declare the simple name itself. -/
def ownerIn (locals : List String) (uses : List Use) (simple : String) : Option String :=
  if simple ∈ locals then none else (firstUse uses simple).map (·.text)

/-- Only simple names stand for qualified names in a file. -/
theorem ownerIn_onlySimple {locals : List String} {uses : List Use}
    (h : ∀ u ∈ uses, TypeName.isSimpleName u.simple.toList = true) :
    OnlySimple (ownerIn locals uses) := fun simple hs => by
  cases hf : firstUse uses simple with
  | none => simp [ownerIn, hf] at hs
  | some u => exact firstUse_simple hf ▸ h u (mem_of_firstUse hf)

namespace Sheet

/-- The empty sheet of a package whose file declares some simple names. -/
def opened (dialect : Dialect) (package : String) (locals : List String) : Sheet :=
  { blank dialect with
    scope := locals.foldl Scope.declare ((blank dialect).scope.inPackage package) }

/-- The sheet after a row of calls, and each type that was referred to with its printed form. -/
def run (s : Sheet) : List Call → Sheet × List (TypeName × String)
  | [] => (s, [])
  | .println text depth :: rest => (s.println text depth).run rest
  | .ref type _ :: rest =>
    let (printed, scope) := s.scope.refText (String.ofList type.text)
    let (after, answers) := { s with scope }.run rest
    (after, (type, printed) :: answers)

/-- A sheet is opened with no lines and no name in use. -/
theorem opened_eq (dialect : Dialect) (package : String) (locals : List String) :
    opened dialect package locals =
      { lines := [], scope := { dialect, package := some package, declared := locals } } := by
  have hdeclare : ∀ s : Scope,
      locals.foldl Scope.declare s = { s with declared := s.declared ++ locals } := by
    induction locals with
    | nil => intro s; simp
    | cons simple rest ih => intro s; simp [ih, Scope.declare]
  simp [opened, hdeclare, blank, Scope.inPackage]

/-! ## Names of an opened sheet -/

section Opened

variable (dialect : Dialect) (package : String) (locals : List String) (uses : List Use)

/-- The names of an opened sheet are consistent through a row of uses. -/
theorem opened_consistent {uses : List Use} (h : ∀ u ∈ uses, u.Splits) :
    ((opened dialect package locals).scope.useAll uses).Consistent := by
  have hstart : (opened dialect package locals).scope.Consistent := by
    rw [opened_eq]
    exact ⟨by simp, by simp, by simp⟩
  exact hstart.useAll h

/-- What a simple name stands for after a row of uses. -/
theorem owner_opened :
    ((opened dialect package locals).scope.useAll uses).owner = ownerIn locals uses := by
  funext simple
  rw [Scope.owner_useAll, opened_eq]
  simp [ownerIn]

/-- The imports after a row of uses. -/
theorem mem_imports_opened (q : String) :
    q ∈ ((opened dialect package locals).scope.useAll uses).imports ↔
      ∃ u, firstUse uses u.simple = some u ∧ u.simple ∉ locals ∧
        u.package ∉ dialect.visiblePackages ∧ u.package ≠ package ∧ u.text = q := by
  rw [Scope.mem_imports, Scope.mem_imported_useAll, opened_eq]
  simp [Scope.isVisible, @eq_comm _ package, and_assoc]

variable {dialect package locals uses}

/-- The text of a use is imported if the use is the first of its simple name, which the file does
not declare, and its package needs an import. -/
theorem text_mem_imports_opened (h : ∀ u ∈ uses, u.Splits) {u : Use} (hu : u ∈ uses) :
    u.text ∈ ((opened dialect package locals).scope.useAll uses).imports ↔
      firstUse uses u.simple = some u ∧ u.simple ∉ locals ∧
        u.package ∉ dialect.visiblePackages ∧ u.package ≠ package := by
  rw [mem_imports_opened]
  constructor
  · rintro ⟨v, hv, hdeclared, hvisible, hpackage, htext⟩
    obtain rfl := (h v (mem_of_firstUse hv)).eq_of_text (h u hu) htext
    exact ⟨hv, hdeclared, hvisible, hpackage⟩
  · rintro ⟨hfirst, hdeclared, hvisible, hpackage⟩
    exact ⟨u, hfirst, hdeclared, hvisible, hpackage, rfl⟩

/-- No two imports share a simple name. -/
theorem imports_opened_unique (h : ∀ u ∈ uses, u.Splits) {u v : Use} (hu : u ∈ uses)
    (hv : v ∈ uses)
    (hui : u.text ∈ ((opened dialect package locals).scope.useAll uses).imports)
    (hvi : v.text ∈ ((opened dialect package locals).scope.useAll uses).imports)
    (huv : u.simple = v.simple) : u.text = v.text := by
  have hfirst := ((text_mem_imports_opened h hu).1 hui).1
  rw [huv, ((text_mem_imports_opened h hv).1 hvi).1] at hfirst
  rw [Option.some.inj hfirst]

end Opened

/-! ## What a row of calls does -/

/-- A row of calls adds its lines and its uses to a sheet, and prints every type by the table of the
finished sheet. -/
theorem run_spec (s : Sheet) (calls : List Call) :
    (s.run calls).1.lines = s.lines ++ Call.lines calls ∧
      (s.run calls).1.scope = s.scope.useAll (Call.uses calls) ∧
      ∀ answer ∈ (s.run calls).2, answer.1.IsWritten ∧
        answer.2 = answer.1.printed (s.run calls).1.scope.owner := by
  induction calls generalizing s with
  | nil => simp [run, Call.lines, Call.uses]
  | cons call rest ih =>
    cases call with
    | println text depth =>
      obtain ⟨hlines, hscope, hanswers⟩ := ih (s.println text depth)
      exact ⟨by simpa [run, Call.lines, println] using hlines, hscope, hanswers⟩
    | ref type written =>
      have href : s.scope.refText (String.ofList type.text) = s.scope.ref type := by
        rw [Scope.refText, String.toList_ofList, TypeName.ofText_text written]
      obtain ⟨hlines, hscope, hanswers⟩ := ih { s with scope := (s.scope.ref type).2 }
      simp only [run, href]
      refine ⟨hlines, ?_, fun answer ha => ?_⟩
      · rw [hscope, s.scope.ref_snd, ← Scope.useAll_append]
        rfl
      rcases List.mem_cons.1 ha with rfl | ha
      · refine ⟨written, ?_⟩
        rw [hscope, s.scope.ref_snd, ← Scope.useAll_append]
        exact s.scope.ref_fst type _
      · exact hanswers answer ha

/-- **Short names and imports of a file.** Whatever lines are printed and written types are referred
to, in any order, on a sheet that was opened with a package and the names its file declares:

* a simple name stands for the first qualified name that uses it, through the whole file, and a name
  that the file declares stands for none. Every type is printed by that one table, its text comes
  back when each short name is replaced by what it stands for, and no two types are printed alike;
* imported are just the first uses of simple names that the file does not declare, less those of
  its own package and of the packages visible everywhere, and no two imports share a simple name;
* the text of the file shows the imports strictly ascending, each in a line of one block. -/
theorem run_faithful (dialect : Dialect) (package : String) (locals : List String)
    (calls : List Call) (unit ending : String) :
    let uses := Call.uses calls
    let (sheet, answers) := (opened dialect package locals).run calls
    sheet.scope.owner = ownerIn locals uses ∧
    (∀ type printed, (type, printed) ∈ answers →
      printed = type.printed (ownerIn locals uses) ∧
      expand (ownerIn locals uses) printed = String.ofList type.text) ∧
    (∀ type printed other printed', (type, printed) ∈ answers → (other, printed') ∈ answers →
      printed = printed' → type = other) ∧
    (∀ q, q ∈ sheet.scope.imports ↔ ∃ u, firstUse uses u.simple = some u ∧ u.simple ∉ locals ∧
      u.package ∉ dialect.visiblePackages ∧ u.package ≠ package ∧ u.text = q) ∧
    (∀ u ∈ uses, ∀ v ∈ uses, u.text ∈ sheet.scope.imports → v.text ∈ sheet.scope.imports →
      u.simple = v.simple → u.text = v.text) ∧
    sheet.scope.imports.Pairwise (· < ·) ∧
    (∃ shown, Placed unit (sheet.scope.imports.map (importLine dialect)) (Call.lines calls) shown ∧
      sheet.text unit ending = ((Call.lines calls).forM (checkDepth unit)).map fun _ =>
        String.intercalate ending shown ++ ending) := by
  intro uses
  obtain ⟨hlines, hscope, hanswers⟩ := (opened dialect package locals).run_spec calls
  have huses := Call.uses_split calls
  have hsplit : ∀ u ∈ uses, u.Splits := fun u hu => (huses u hu).2
  have honly : OnlySimple (ownerIn locals uses) := ownerIn_onlySimple fun u hu => (huses u hu).1
  generalize (opened dialect package locals).run calls = after at hlines hscope hanswers
  obtain ⟨sheet, answers⟩ := after
  dsimp only at hlines hscope hanswers ⊢
  have howner : sheet.scope.owner = ownerIn locals uses := by rw [hscope, owner_opened]
  have hprinted : ∀ type printed, (type, printed) ∈ answers →
      printed = type.printed (ownerIn locals uses) ∧
      expand (ownerIn locals uses) printed = String.ofList type.text := by
    intro type printed ha
    obtain ⟨hwritten, hp⟩ := hanswers _ ha
    dsimp only at hwritten hp
    rw [hp, howner]
    exact ⟨rfl, TypeName.expand_printed honly hwritten⟩
  refine ⟨howner, hprinted, ?_, ?_, ?_, ?_, ?_⟩
  · intro type printed other printed' ha hb heq
    have htext := (hprinted _ _ ha).2.symm.trans (heq ▸ (hprinted _ _ hb).2)
    exact (hanswers _ ha).1.text_injective (hanswers _ hb).1 (String.ofList_injective htext)
  · rw [hscope]
    exact mem_imports_opened dialect package locals uses
  · rw [hscope]
    intro u hu v hv
    exact imports_opened_unique hsplit hu hv
  · rw [hscope]
    exact (opened_consistent dialect package locals hsplit).imports_sorted
  · have hdialect : sheet.scope.dialect = dialect := by
      rw [hscope, (Scope.useAll_fixed _ _).1, opened_eq]
    rw [opened_eq, List.nil_append] at hlines
    refine ⟨sheet.fileLines unit, ?_, ?_⟩
    · have hplaced := sheet.fileLines_placed unit
      rwa [importLines, hlines, hdialect] at hplaced
    · rw [text_eq, hlines]

/-- Two packages have a type of the same name: the first one used is imported and printed short from
then on, the other one stays qualified. -/
example :
    let date (package : String)
        (hp : ∀ p ∈ ["java".toList, package.toList], TypeName.isPackageSegment p = true) : Call :=
      .ref _ (.name (.qualified (by simp) hp
        (by decide : TypeName.isSimpleName "Date".toList = true)))
    let calls := [date "sql" (by decide), date "util" (by decide), date "sql" (by decide)]
    let (sheet, answers) := (opened .interfaces "com.acme" ["IPerson"]).run calls
    answers.map (·.2) = ["Date", "java.util.Date", "Date"] ∧
      sheet.scope.imports = ["java.sql.Date"] := by
  decide +kernel

end Sheet

end TableInterfaces.Source
