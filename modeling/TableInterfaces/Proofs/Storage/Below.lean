import TableInterfaces.Proofs.Storage.Path

/-!
# Paths below a directory

A path lies below a directory if it does so without asking the file system: the components that lead
up are taken out of both, and what is left of the path goes on where the directory ends. Main
statements:

* `climbs_add`: how far components climb out of their place, and out of places below it.
* `append_resolved`: components that stay below their place are resolved behind any directory.
* `Path.liesBelow_iff`: the path made of some parts lies below every directory just where no part
  begins at a root and their components do not climb.
-/

namespace TableInterfaces.Storage

open TableInterfaces.Text

/-! ## Resolution -/

/-- What has been resolved, last component first, with one more component. The one that leads up
leaves the last component; at a root it leaves nothing, and else it stays where nothing is left. -/
def resolveStep (absolute : Bool) (resolved : List String) (c : String) : List String :=
  if c = ".." then
    match resolved with
    | [] => if absolute then [] else [".."]
    | last :: rest => if last = ".." then ".." :: resolved else rest
  else c :: resolved

/-- What has been resolved, with more components. -/
def resolveFrom (absolute : Bool) (resolved components : List String) : List String :=
  components.foldl (resolveStep absolute) resolved

namespace Path

/-- The components of a path once those that lead up are resolved, last component first. -/
def resolved (p : Path) : List String :=
  resolveFrom (p.root != "") [] p.components

/-- A path lies below a directory: it goes on where the directory ends, and does not lead up. -/
def LiesBelow (p directory : Path) : Prop :=
  p.root = directory.root ∧
    ∃ below, below ≠ [] ∧ ".." ∉ below ∧ p.resolved = below ++ directory.resolved

end Path

/-! ## Climbing -/

/-- By how many directories components lead out of the place where they start, if `depth`
directories behind that place are open. -/
def climbs (depth : Nat) : List String → Nat
  | [] => 0
  | c :: rest =>
    if c = ".." then
      match depth with
      | 0 => climbs 0 rest + 1
      | depth + 1 => climbs depth rest
    else climbs (depth + 1) rest

theorem climbs_up_start (rest : List String) : climbs 0 (".." :: rest) = climbs 0 rest + 1 := rfl

theorem climbs_up (depth : Nat) (rest : List String) :
    climbs (depth + 1) (".." :: rest) = climbs depth rest := rfl

theorem climbs_name {c : String} (h : c ≠ "..") (depth : Nat) (rest : List String) :
    climbs depth (c :: rest) = climbs (depth + 1) rest := by
  cases depth <;> exact if_neg h

/-- Components climb less out of a place that has directories above it. -/
theorem climbs_add (depth above : Nat) (components : List String) :
    climbs (depth + above) components = climbs depth components - above := by
  induction components generalizing depth above with
  | nil => simp [climbs]
  | cons c rest ih =>
    by_cases hc : c = ".."
    · subst hc
      cases depth with
      | succ depth =>
        rw [Nat.add_right_comm, climbs_up, climbs_up, ih]
      | zero =>
        cases above with
        | zero => rfl
        | succ above =>
          have hrest := ih 0 above
          rw [Nat.zero_add] at hrest
          rw [Nat.zero_add, climbs_up, climbs_up_start, hrest, Nat.add_sub_add_right]
    · rw [climbs_name hc, climbs_name hc, Nat.add_right_comm, ih]

/-- Components that do not lead up open directories. -/
theorem climbs_append {front : List String} (h : ".." ∉ front) (depth : Nat)
    (components : List String) :
    climbs depth (front ++ components) = climbs (depth + front.length) components := by
  induction front generalizing depth with
  | nil => rfl
  | cons c rest ih =>
    rw [List.mem_cons, not_or] at h
    rw [List.cons_append, climbs_name (Ne.symm h.1), ih h.2, List.length_cons, Nat.add_right_comm]
    rfl

/-- A last component that does not lead up climbs nowhere. -/
theorem climbs_concat {name : String} (h : name ≠ "..") (depth : Nat) (components : List String) :
    climbs depth (components ++ [name]) = climbs depth components := by
  induction components generalizing depth with
  | nil => exact climbs_name h depth []
  | cons c rest ih =>
    rw [List.cons_append]
    by_cases hc : c = ".."
    · subst hc
      cases depth with
      | zero => rw [climbs_up_start, climbs_up_start, ih]
      | succ depth => rw [climbs_up, climbs_up, ih]
    · rw [climbs_name hc, climbs_name hc, ih]

/-! ## Resolved components -/

theorem resolveStep_name {c : String} (h : c ≠ "..") (absolute : Bool) (resolved : List String) :
    resolveStep absolute resolved c = c :: resolved := if_neg h

theorem resolveStep_up {last : String} (h : last ≠ "..") (absolute : Bool) (rest : List String) :
    resolveStep absolute (last :: rest) ".." = rest := if_neg h

theorem resolveFrom_cons (absolute : Bool) (resolved : List String) (c : String)
    (rest : List String) :
    resolveFrom absolute resolved (c :: rest) =
      resolveFrom absolute (resolveStep absolute resolved c) rest := rfl

/-- What leads up out of the start stays. -/
theorem dots_mem_resolveFrom {resolved : List String} (h : ".." ∈ resolved)
    (components : List String) : ".." ∈ resolveFrom false resolved components := by
  induction components generalizing resolved with
  | nil => exact h
  | cons c rest ih =>
    refine ih ?_
    by_cases hc : c = ".."
    · subst hc
      cases resolved with
      | nil => cases h
      | cons last rest =>
        by_cases hlast : last = ".."
        · subst hlast
          exact List.mem_cons_self
        · rw [resolveStep_up hlast]
          exact (List.mem_cons.1 h).resolve_left (Ne.symm hlast)
    · rw [resolveStep_name hc]
      exact List.mem_cons_of_mem _ h

/-- Nothing leads up out of the start just where the components do not climb. -/
theorem dots_notMem_resolveFrom {resolved : List String} (h : ".." ∉ resolved)
    (components : List String) :
    ".." ∉ resolveFrom false resolved components ↔ climbs resolved.length components = 0 := by
  induction components generalizing resolved with
  | nil => exact iff_of_true h rfl
  | cons c rest ih =>
    rw [resolveFrom_cons]
    by_cases hc : c = ".."
    · subst hc
      cases resolved with
      | nil =>
        exact iff_of_false (fun hno => hno (dots_mem_resolveFrom List.mem_cons_self rest))
          (Nat.succ_ne_zero _)
      | cons last resolved =>
        rw [List.mem_cons, not_or] at h
        rw [resolveStep_up (Ne.symm h.1), ih h.2]
        rfl
    · rw [resolveStep_name hc, climbs_name hc]
      exact ih fun hmem => (List.mem_cons.1 hmem).elim (fun heq => hc heq.symm) h

/-- Components that stay below their place are resolved the same way behind anything. -/
theorem resolveFrom_append (absolute : Bool) (base : List String) {resolved : List String}
    (h : ".." ∉ resolved) {components : List String}
    (hstays : ".." ∉ resolveFrom false resolved components) :
    resolveFrom absolute (resolved ++ base) components =
      resolveFrom false resolved components ++ base := by
  induction components generalizing resolved with
  | nil => rfl
  | cons c rest ih =>
    rw [resolveFrom_cons] at hstays ⊢
    rw [resolveFrom_cons]
    by_cases hc : c = ".."
    · subst hc
      cases resolved with
      | nil => exact absurd (dots_mem_resolveFrom List.mem_cons_self rest) hstays
      | cons last resolved =>
        rw [List.mem_cons, not_or] at h
        have hlast := Ne.symm h.1
        rw [resolveStep_up hlast] at hstays ⊢
        rw [List.cons_append, resolveStep_up hlast, ih h.2 hstays]
    · rw [resolveStep_name hc] at hstays ⊢
      rw [resolveStep_name hc, ← List.cons_append]
      exact ih (fun hmem => (List.mem_cons.1 hmem).elim (fun heq => hc heq.symm) h) hstays

/-- The last of some components is resolved last. -/
theorem resolveFrom_concat (absolute : Bool) (resolved components : List String) {name : String}
    (h : name ≠ "..") :
    resolveFrom absolute resolved (components ++ [name]) =
      name :: resolveFrom absolute resolved components := by
  rw [resolveFrom, List.foldl_append]
  exact resolveStep_name h absolute _

namespace Path

/-- Components behind a directory lie below it, whatever the directory is, just where they do not
climb. The last one is a name. -/
theorem components_liesBelow_iff {components : List String} {name : String} (h : name ≠ "..") :
    (∀ directory : String, LiesBelow
      ⟨(ofText directory).root, (ofText directory).components ++ (components ++ [name])⟩
      (ofText directory)) ↔ climbs 0 components = 0 := by
  have hresolved : ".." ∉ resolveFrom false [] (components ++ [name]) ↔
      climbs 0 components = 0 := by
    rw [dots_notMem_resolveFrom List.not_mem_nil, climbs_concat h]
    rfl
  constructor
  · intro hbelow
    obtain ⟨-, below, -, hdots, hcomponents⟩ := hbelow ""
    have hhere : resolveFrom false [] (components ++ [name]) = below := by
      rw [← List.append_nil below]
      exact hcomponents
    exact hresolved.1 (hhere ▸ hdots)
  · intro hclimbs directory
    have hstays := hresolved.2 hclimbs
    refine ⟨rfl, resolveFrom false [] (components ++ [name]), ?_, hstays, ?_⟩
    · rw [resolveFrom_concat _ _ _ h]
      exact List.cons_ne_nil _ _
    · have happend := resolveFrom_append ((ofText directory).root != "") (ofText directory).resolved
        List.not_mem_nil hstays
      rw [resolved, resolveFrom, List.foldl_append]
      exact happend

/-! ## Paths made of parts -/

/-- A part begins at a root just where it begins with a slash. -/
theorem rootOf_eq_empty_iff {part : String} :
    rootOf part = "" ↔ part.toList.head? ≠ some '/' := by
  unfold rootOf
  cases part.toList with
  | nil => simp
  | cons c rest =>
    by_cases hc : c = '/'
    · subst hc
      refine iff_of_false ?_ (by simp)
      split <;> simp_all
    · simp [hc]

/-- A root begins with a slash. -/
theorem head?_rootOf {part : String} (h : rootOf part ≠ "") :
    (rootOf part).toList.head? = some '/' := by
  unfold rootOf at h ⊢
  split <;> simp_all

/-- Parts that do not begin at a root go on where a path ends. -/
theorem foldl_append_relative {parts : List String} (h : ∀ part ∈ parts, rootOf part = "")
    (p : Path) : parts.foldl append p = ⟨p.root, p.components ++ parts.flatMap splitPart⟩ := by
  induction parts generalizing p with
  | nil => simp
  | cons part rest ih =>
    obtain ⟨hpart, hrest⟩ := List.forall_mem_cons.1 h
    have happend : p.append part = ⟨p.root, p.components ++ splitPart part⟩ := by
      rw [append, hpart]
      rfl
    rw [List.foldl_cons, happend, ih hrest, List.flatMap_cons, List.append_assoc]

/-- A part that begins at a root, or a path that does, gives a path that does. -/
theorem foldl_append_rooted {parts : List String} {p : Path}
    (h : p.root.toList.head? = some '/' ∨ ∃ part ∈ parts, rootOf part ≠ "") :
    (parts.foldl append p).root.toList.head? = some '/' := by
  induction parts generalizing p with
  | nil => simpa using h
  | cons part rest ih =>
    refine ih ?_
    by_cases hpart : rootOf part = ""
    · have hroot : (p.append part).root = p.root := by
        rw [append, hpart]
        rfl
      rw [hroot]
      refine h.imp_right fun hrooted => ?_
      obtain ⟨part', hmem, hroot'⟩ := hrooted
      exact ⟨part', (List.mem_cons.1 hmem).resolve_left fun heq => hroot' (heq ▸ hpart), hroot'⟩
    · refine .inl ?_
      have hroot : (p.append part).root = rootOf part := by
        rw [append, if_neg (by simpa using hpart)]
      rw [hroot]
      exact head?_rootOf hpart

/-- The components of a part have something in them, no slash, and none of them is a dot. -/
theorem splitPart_components {part c : String} (h : c ∈ splitPart part) :
    c ≠ "" ∧ c ≠ "." ∧ '/' ∉ c.toList := by
  obtain ⟨hpiece, hkept⟩ := List.mem_filter.1 h
  simp only [Bool.and_eq_true, bne_iff_ne] at hkept
  exact ⟨hkept.1, hkept.2, notMem_of_mem_splitAtChar hpiece⟩

/-- The text of a relative path is a part with the components of the path. -/
theorem splitPart_text {components : List String}
    (h : ∀ c ∈ components, c ≠ "" ∧ c ≠ "." ∧ '/' ∉ c.toList) (hne : components ≠ []) :
    rootOf (text ⟨"", components⟩) = "" ∧ splitPart (text ⟨"", components⟩) = components := by
  have htext : text ⟨"", components⟩ = String.intercalate "/" components := by
    rw [text, List.isEmpty_eq_false_iff.2 hne]
    simp
  have hpieces : splitAtChar '/' (String.intercalate "/" components) = components :=
    splitAtChar_intercalate (fun c hc => (h c hc).2.2) hne
  refine ⟨rootOf_eq_empty_iff.2 fun hhead => ?_, ?_⟩
  · cases components with
    | nil => exact hne rfl
    | cons c rest =>
      obtain ⟨hc, -, hslash⟩ := h c List.mem_cons_self
      have hnil : c.toList ≠ [] := fun h => hc (by simpa using h)
      obtain ⟨d, later, hd⟩ := List.exists_cons_of_ne_nil hnil
      have hstart : ∃ tail, (String.intercalate "/" (c :: rest)).toList = c.toList ++ tail := by
        rw [String.toList_intercalate, List.map_cons]
        cases rest with
        | nil => exact ⟨[], by simp⟩
        | cons next rest => exact ⟨_, by rw [List.map_cons, List.intercalate_cons_cons,
            List.append_assoc]⟩
      obtain ⟨tail, htail⟩ := hstart
      rw [htext, htail, hd] at hhead
      rw [hd, Option.some.inj hhead] at hslash
      exact hslash List.mem_cons_self
  · rw [splitPart, htext, hpieces, List.filter_eq_self]
    intro c hc
    simp [(h c hc).1, (h c hc).2.1]

/-- The text of a path that begins at a root begins there, too. -/
theorem append_text_rooted {p : Path} (h : p.root.toList.head? = some '/') (directory : Path) :
    (directory.append p.text).root ≠ "" := by
  have hne : p.root ≠ "" := fun hroot => by
    rw [hroot] at h
    cases h
  have htext : p.text.toList.head? = some '/' := by
    rw [text, if_neg (by simp [hne]), String.toList_append, List.head?_append, h]
    rfl
  have hroot : rootOf p.text ≠ "" := fun hroot => rootOf_eq_empty_iff.1 hroot htext
  rw [append, if_neg (by simpa using hroot)]
  exact hroot

/-- The directories that a text leads through which stands in front of a file name. -/
def directoriesOf (start : String) : List String :=
  (splitAtChar '/' start).dropLast.filter fun c => c != "" && c != "."

/-- A text in front of a file name adds its directories to it. -/
theorem splitPart_append {name : String} (hslash : '/' ∉ name.toList) {c : Char} (hdot : c ≠ '.')
    (hc : c ∈ name.toList) (start : String) :
    ∃ last, splitPart (start ++ name) = directoriesOf start ++ [last] ∧ last ≠ ".." := by
  obtain ⟨front, last, hpieces⟩ : ∃ front last, splitAtChar '/' start = front ++ [last] :=
    ⟨_, _, (List.dropLast_concat_getLast (splitAtChar_ne_nil '/' start)).symm⟩
  have hno : ∀ piece ∈ front ++ [last], '/' ∉ piece.toList := fun piece hpiece =>
    notMem_of_mem_splitAtChar (hpieces ▸ hpiece)
  have hlast : ∀ dots : String, (∀ d ∈ dots.toList, d = '.') → last ++ name ≠ dots :=
    fun dots hdots heq => hdot (hdots c (heq ▸ by simp [hc]))
  have hjoined : start ++ name = String.intercalate "/" (front ++ [last ++ name]) := by
    rw [← intercalate_splitAtChar '/' start, hpieces]
    change String.intercalate "/" _ ++ name = _
    cases front with
    | nil => simp
    | cons piece rest =>
      rw [String.intercalate_append_of_ne_nil (List.cons_ne_nil _ _) (List.cons_ne_nil _ _),
        String.intercalate_append_of_ne_nil (List.cons_ne_nil _ _) (List.cons_ne_nil _ _),
        String.intercalate_singleton, String.intercalate_singleton, String.append_assoc]
  have hsplit : splitAtChar '/' (start ++ name) = front ++ [last ++ name] := by
    rw [hjoined]
    refine splitAtChar_intercalate (List.forall_mem_append.2
      ⟨(List.forall_mem_append.1 hno).1, List.forall_mem_singleton.2 ?_⟩) (by simp)
    simp [hslash, hno last (by simp)]
  refine ⟨last ++ name, ?_, hlast ".." (by simp)⟩
  rw [splitPart, hsplit, directoriesOf, hpieces, List.filter_append, List.dropLast_concat]
  simp [hlast "" (by simp), hlast "." (by simp)]

/-- **Paths that stay below.** Let the last component of some parts be a name. The path made of
the parts, put behind any directory, lies below that directory just where no part begins at a root
and the components in front of the name do not climb. -/
theorem liesBelow_iff {parts front : List String} {name : String}
    (hcomponents : parts.flatMap splitPart = front ++ [name]) (hname : name ≠ "..") :
    (∀ directory : String,
      ((ofText directory).append (ofParts parts).text).LiesBelow (ofText directory)) ↔
        (∀ part ∈ parts, rootOf part = "") ∧ climbs 0 front = 0 := by
  by_cases hparts : ∀ part ∈ parts, rootOf part = ""
  · have hpath : ofParts parts = ⟨"", front ++ [name]⟩ := by
      rw [ofParts, foldl_append_relative hparts here, hcomponents]
      rfl
    have hall : ∀ c ∈ front ++ [name], c ≠ "" ∧ c ≠ "." ∧ '/' ∉ c.toList := fun c hc => by
      obtain ⟨part, -, hc⟩ := List.mem_flatMap.1 (hcomponents ▸ hc)
      exact splitPart_components hc
    obtain ⟨hroot, hsplit⟩ := splitPart_text hall (by simp)
    have happend : ∀ directory : Path, directory.append (ofParts parts).text =
        ⟨directory.root, directory.components ++ (front ++ [name])⟩ := fun directory => by
      rw [hpath, append, hroot, hsplit]
      rfl
    rw [and_iff_right hparts, ← components_liesBelow_iff hname]
    exact forall_congr' fun directory => by rw [happend]
  · refine iff_of_false (fun hbelow => ?_) fun h => hparts h.1
    obtain ⟨part, hpart⟩ := not_forall.1 hparts
    obtain ⟨hmem, hroot⟩ := Classical.not_imp.1 hpart
    have hrooted : (ofParts parts).root.toList.head? = some '/' :=
      foldl_append_rooted (.inr ⟨part, hmem, hroot⟩)
    exact append_text_rooted hrooted (ofText "") (hbelow "").1

end Path

end TableInterfaces.Storage
