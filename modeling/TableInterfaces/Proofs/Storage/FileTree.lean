import TableInterfaces.Storage.FileTree

/-!
# Writing and reading files

A file that is written stands at its place and leaves every other place as it was, so the path still
leads there. Main statement:

* `FileTree.read_of_write`: what is written at a path is read at it.
-/

namespace TableInterfaces.Storage.FileTree

variable {t t' : FileTree} {p : Path} {place : List String} {node : Node} {content : ByteArray}

/-! ## Places -/

theorem lookup_put_self (entries : List (List String × Node))
    (h : (entries.lookup place).isSome = true) :
    (entries.map fun e => if e.1 == place then (place, node) else e).lookup place = some node := by
  induction entries with
  | nil => cases h
  | cons entry rest ih =>
    obtain ⟨other, old⟩ := entry
    rw [List.map_cons]
    by_cases heq : other = place
    · subst heq
      rw [beq_self_eq_true, if_pos rfl, List.lookup_cons_self]
    · have hne : (place == other) = false := beq_eq_false_iff_ne.2 (Ne.symm heq)
      rw [List.lookup_cons, hne] at h
      rw [if_neg (by simpa using heq), List.lookup_cons, hne]
      exact ih h

theorem lookup_put_of_ne (entries : List (List String × Node)) {other : List String}
    (hne : other ≠ place) :
    (entries.map fun e => if e.1 == place then (place, node) else e).lookup other =
      entries.lookup other := by
  induction entries with
  | nil => rfl
  | cons entry rest ih =>
    obtain ⟨key, old⟩ := entry
    rw [List.map_cons]
    by_cases heq : key = place
    · subst heq
      have hother : (other == key) = false := beq_eq_false_iff_ne.2 hne
      rw [beq_self_eq_true, if_pos rfl, List.lookup_cons, List.lookup_cons, hother]
      exact ih
    · rw [if_neg (by simpa using heq), List.lookup_cons, List.lookup_cons, ih]

/-- What is put at a place stands there. -/
theorem node?_put_self (hplace : place ≠ []) : (t.put place node).node? place = some node := by
  have hempty : place.isEmpty = false := List.isEmpty_eq_false_iff.2 hplace
  unfold node? put
  rw [hempty, if_neg Bool.false_ne_true]
  split
  · rename_i h
    exact lookup_put_self t.entries h
  · rename_i h
    dsimp only
    rw [List.lookup_append, Option.not_isSome_iff_eq_none.1 h, Option.none_or,
      List.lookup_cons_self]

/-- All other places are left as they are. -/
theorem node?_put_of_ne {other : List String} (hne : other ≠ place) :
    (t.put place node).node? other = t.node? other := by
  unfold node? put
  split
  · rfl
  · split
    · exact lookup_put_of_ne t.entries hne
    · have hother : (other == place) = false := beq_eq_false_iff_ne.2 hne
      dsimp only
      rw [List.lookup_append, List.lookup_cons, hother]
      exact Option.or_none

theorem home_put : (t.put place node).home = t.home := by
  unfold put
  split <;> rfl

/-! ## Paths -/

/-- A walk that ends at no directory ends there too when something is put there: it does not pass
through its end. -/
theorem walk_put (hnode : t.node? place ≠ some .directory) {start names : List String}
    (h : t.walk start names = .ok place) : (t.put place node).walk start names = .ok place := by
  induction names generalizing start with
  | nil => exact h
  | cons name rest ih =>
    rw [walk] at h ⊢
    have hne : start ≠ place := by
      rintro rfl
      split at h
      · cases h
      · cases h
      · contradiction
    rw [node?_put_of_ne hne]
    split at h
    · cases h
    · cases h
    · split at h
      · cases h
      · rename_i hlength
        rw [if_neg hlength]
        exact ih h

/-- A path leads where it led when something is put there. -/
theorem resolve_put (hnode : t.node? place ≠ some .directory) (h : t.resolve p = .ok place) :
    (t.put place node).resolve p = .ok place := by
  unfold resolve at h ⊢
  rw [home_put]
  split at h
  · cases h
  · rename_i hlength
    rw [if_neg hlength]
    exact walk_put hnode h

/-! ## Files -/

/-- Writing puts a file where the path leads. -/
theorem write_ok (h : t.write p content = .ok t') : ∃ place, t.resolve p = .ok place ∧
    t.node? place ≠ some .directory ∧ t' = t.put place (.file content) := by
  unfold write at h
  split at h
  · cases h
  · rename_i place hplace
    refine ⟨place, hplace, ?_⟩
    split at h
    · cases h
    · rename_i hnode
      split at h
      · cases h
        exact ⟨hnode, rfl⟩
      · cases h
      · cases h

/-- Something stands where a file was written. -/
theorem stat_of_write (h : t.write p content = .ok t') : t'.stat p = .ok (.file content) := by
  obtain ⟨place, hplace, hnode, rfl⟩ := write_ok h
  have hne : place ≠ [] := by
    rintro rfl
    exact hnode rfl
  simp only [stat, resolve_put hnode hplace, node?_put_self hne, bind, Except.bind]

/-- **What is written at a path is read at it.** -/
theorem read_of_write (h : t.write p content = .ok t') : t'.read p = .ok content := by
  unfold read
  rw [stat_of_write h]

theorem pathExists_of_write (hname : isNameable p = true) (h : t.write p content = .ok t') :
    t'.pathExists p = .ok true := by
  unfold pathExists
  rw [hname, stat_of_write h]
  rfl

/-- A file can be written at a path, whatever it holds. -/
structure Writable (t : FileTree) (p : Path) : Prop where
  nameable : isNameable p = true
  write : ∀ content, ∃ t', t.write p content = .ok t'

end TableInterfaces.Storage.FileTree
