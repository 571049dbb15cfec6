import Mathlib.Data.List.Forall2
import TableInterfaces.Fault

/-!
# Results

How a successful result comes about: each step of a sequence succeeds. `Result.Below` compares two
results by their successes. Work with a state that may stop at a fault is read as a function to
results (`outcome`), so that the same lemmas apply to it.
-/

namespace TableInterfaces

/-! ## Successful results -/

namespace Result

variable {α β : Type}

/-- A sequence that succeeds consists of steps that succeed. -/
theorem ok_of_bind {r : Result α} {f : α → Result β} {b : β} (h : r >>= f = .ok b) :
    ∃ a, r = .ok a ∧ f a = .ok b := by
  cases r with
  | error fault => cases h
  | ok a => exact ⟨a, rfl, h⟩

/-- A step that has succeeded hands its value on. -/
@[simp] theorem ok_bind (a : α) (f : α → Result β) : (Except.ok a >>= f) = f a := rfl

/-- A map over a list that succeeds gives a value for each of its elements. -/
theorem ok_of_mapM {f : α → Result β} {l : List α} {values : List β}
    (h : l.mapM f = .ok values) : ∀ a ∈ l, ∃ b ∈ values, f a = .ok b := by
  induction l generalizing values with
  | nil => intro a ha; cases ha
  | cons a rest ih =>
    rw [List.mapM_cons] at h
    obtain ⟨b, hb, h⟩ := ok_of_bind h
    obtain ⟨later, hlater, h⟩ := ok_of_bind h
    cases h
    intro c hc
    rcases List.mem_cons.1 hc with rfl | hc
    · exact ⟨b, List.mem_cons_self, hb⟩
    · obtain ⟨d, hd, hcd⟩ := ih hlater c hc
      exact ⟨d, List.mem_cons_of_mem _ hd, hcd⟩

/-- A map over a list gives some values if it gives them for its elements in order. -/
theorem mapM_eq_ok_iff {f : α → Result β} {l : List α} {values : List β} :
    l.mapM f = .ok values ↔ List.Forall₂ (fun a b => f a = .ok b) l values := by
  constructor
  · intro h
    induction l generalizing values with
    | nil => cases h; exact .nil
    | cons a rest ih =>
      rw [List.mapM_cons] at h
      obtain ⟨b, hb, h⟩ := ok_of_bind h
      obtain ⟨later, hlater, h⟩ := ok_of_bind h
      cases h
      exact .cons hb (ih hlater)
  · intro h
    induction h with
    | nil => rfl
    | cons hb _ ih => rw [List.mapM_cons, hb, ok_bind, ih]; rfl

/-- A map over a list stops at the first element without a value, or gives all values. -/
theorem mapM_cases (f : α → Result β) (l : List α) :
    (∃ values, l.mapM f = .ok values) ∨
      ∃ front a back values fault, l = front ++ a :: back ∧ front.mapM f = .ok values ∧
        f a = .error fault ∧ l.mapM f = .error fault := by
  induction l with
  | nil => exact .inl ⟨[], rfl⟩
  | cons a rest ih =>
    rw [List.mapM_cons]
    cases ha : f a with
    | error fault => exact .inr ⟨[], a, rest, [], fault, rfl, rfl, ha, rfl⟩
    | ok b =>
      rcases ih with ⟨values, hrest⟩ | ⟨front, c, back, values, fault, rfl, hfront, hc, hrest⟩
      · exact .inl ⟨b :: values, by rw [hrest]; rfl⟩
      · refine .inr ⟨a :: front, c, back, b :: values, fault, rfl, ?_, hc, by rw [hrest]; rfl⟩
        rw [List.mapM_cons, ha, ok_bind, hfront]
        rfl

/-- A map over a list depends on what it gives for the elements of the list. -/
theorem mapM_congr {f f' : α → Result β} {l : List α} (h : ∀ a ∈ l, f a = f' a) :
    l.mapM f = l.mapM f' := by
  induction l with
  | nil => rfl
  | cons a rest ih =>
    rw [List.mapM_cons, List.mapM_cons, h a List.mem_cons_self,
      ih fun b hb => h b (List.mem_cons_of_mem _ hb)]

/-- A map over a list stops where an element has no value and those in front of it have one. -/
theorem mapM_error {f : α → Result β} {front back : List α} {a : α} {values : List β}
    {fault : Fault} (hfront : front.mapM f = .ok values) (ha : f a = .error fault) :
    (front ++ a :: back).mapM f = .error fault := by
  rw [List.mapM_append, hfront, ok_bind, List.mapM_cons, ha]
  rfl

/-! ### Comparison by successes -/

/-- What the first result gives the second one gives, too. -/
def Below (r r' : Result α) : Prop :=
  ∀ a, r = .ok a → r' = .ok a

theorem Below.refl (r : Result α) : r.Below r := fun _ h => h

/-- A sequence gives what another one gives if its steps do. -/
theorem Below.bind {r r' : Result α} {f f' : α → Result β} (h : r.Below r')
    (hf : ∀ a, (f a).Below (f' a)) : Below (r >>= f) (r' >>= f') := fun b hb => by
  obtain ⟨a, ha, hb⟩ := ok_of_bind hb
  rw [h a ha]
  exact hf a b hb

theorem Below.map {r r' : Result α} (h : r.Below r') (f : α → β) :
    Below (f <$> r) (f <$> r') := by
  rw [map_eq_pure_bind, map_eq_pure_bind]
  exact h.bind fun a => .refl _

/-- A map over a list gives what another one gives if it does so for each element. -/
theorem Below.mapM {f f' : α → Result β} {l : List α} (h : ∀ a ∈ l, (f a).Below (f' a)) :
    Below (l.mapM f) (l.mapM f') := fun values hvalues => by
  obtain ⟨hlength, hget⟩ := List.forall₂_iff_get.1 (mapM_eq_ok_iff.1 hvalues)
  exact mapM_eq_ok_iff.2 (List.forall₂_iff_get.2
    ⟨hlength, fun i hi hi' => h _ (List.get_mem ..) _ (hget i hi hi')⟩)

end Result

/-! ## Results that have a value -/

/-- A result has a value. -/
def Succeeds {ε α : Type} (r : Except ε α) : Prop :=
  ∃ a, r = .ok a

instance {ε α : Type} (r : Except ε α) : Decidable (Succeeds r) :=
  match r with
  | .ok a => isTrue ⟨a, rfl⟩
  | .error _ => isFalse nofun

namespace Succeeds

variable {ε ε' α β : Type} {r : Except ε α}

theorem ok (a : α) : Succeeds (.ok a : Except ε α) := ⟨a, rfl⟩

theorem bind {f : α → Except ε β} (h : Succeeds r) (hf : ∀ a, r = .ok a → Succeeds (f a)) :
    Succeeds (r >>= f) := by
  obtain ⟨a, ha⟩ := h
  obtain ⟨b, hb⟩ := hf a ha
  exact ⟨b, by rw [ha]; exact hb⟩

theorem map (h : Succeeds r) (f : α → β) : Succeeds (f <$> r) := by
  obtain ⟨a, ha⟩ := h
  exact ⟨f a, by rw [ha]; rfl⟩

theorem mapError (h : Succeeds r) (f : ε → ε') : Succeeds (r.mapError f) := by
  obtain ⟨a, ha⟩ := h
  exact ⟨a, by rw [ha]; rfl⟩

theorem mapM {f : α → Except ε β} {l : List α} (h : ∀ a ∈ l, Succeeds (f a)) :
    Succeeds (l.mapM f) := by
  induction l with
  | nil => exact ok []
  | cons a rest ih =>
    rw [List.mapM_cons]
    exact (h a List.mem_cons_self).bind fun b _ =>
      (ih fun c hc => h c (List.mem_cons_of_mem _ hc)).bind fun later _ => ok (b :: later)

end Succeeds

/-! ## Work with a state -/

section

variable {σ α β : Type}

/-- What comes of work with a state: its value and the state after it, or the fault. -/
def outcome (work : ExceptT Fault (StateM σ) α) (s : σ) : Result (α × σ) :=
  match work.run s with
  | (.ok a, after) => .ok (a, after)
  | (.error fault, _) => .error fault

/-- A sequence runs its second step from the state after the first one, unless that stops. -/
theorem run_bind (work : ExceptT Fault (StateM σ) α) (f : α → ExceptT Fault (StateM σ) β) (s : σ) :
    (work >>= f).run s = match work.run s with
      | (.ok a, after) => (f a).run after
      | (.error fault, after) => (.error fault, after) := by
  change (work.run >>= ExceptT.bindCont f) s = _
  change (match work.run s with | (a, after) => ExceptT.bindCont f a after) = _
  rcases work.run s with ⟨_ | a, after⟩ <;> rfl

/-- Work that succeeds leaves its value and the state after it. -/
theorem run_eq_of_outcome {work : ExceptT Fault (StateM σ) α} {s s' : σ} {a : α}
    (h : outcome work s = .ok (a, s')) : work.run s = (.ok a, s') := by
  unfold outcome at h
  split at h
  · rename_i b after hrun
    cases h
    exact hrun
  · cases h

/-- What comes after work that succeeds runs from the state after it. -/
theorem run_bind_of_ok {work : ExceptT Fault (StateM σ) α} {s s' : σ} {a : α}
    (h : outcome work s = .ok (a, s')) (f : α → ExceptT Fault (StateM σ) β) :
    (work >>= f).run s = (f a).run s' := by
  rw [run_bind, run_eq_of_outcome h]

/-- What comes after work that stops at a fault is not run. -/
theorem run_bind_of_error {work : ExceptT Fault (StateM σ) α} {s s' : σ} {fault : Fault}
    (h : work.run s = (.error fault, s')) (f : α → ExceptT Fault (StateM σ) β) :
    (work >>= f).run s = (.error fault, s') := by
  rw [run_bind, h]

@[simp] theorem outcome_pure (a : α) (s : σ) :
    outcome (pure a : ExceptT Fault (StateM σ) α) s = .ok (a, s) := rfl

@[simp] theorem outcome_bind (work : ExceptT Fault (StateM σ) α)
    (f : α → ExceptT Fault (StateM σ) β) (s : σ) :
    outcome (work >>= f) s = outcome work s >>= fun r => outcome (f r.1) r.2 := by
  unfold outcome
  rw [run_bind]
  rcases work.run s with ⟨_ | a, after⟩ <;> rfl

@[simp] theorem outcome_map (g : α → β) (work : ExceptT Fault (StateM σ) α) (s : σ) :
    outcome (g <$> work) s = outcome work s >>= fun r => .ok (g r.1, r.2) := by
  rw [map_eq_pure_bind, outcome_bind]
  rfl

@[simp] theorem outcome_modify (g : σ → σ) (s : σ) :
    outcome (modify g : ExceptT Fault (StateM σ) PUnit) s = .ok (⟨⟩, g s) := rfl

@[simp] theorem outcome_modifyGet (g : σ → α × σ) (s : σ) :
    outcome (modifyGet g : ExceptT Fault (StateM σ) α) s = .ok (g s) := rfl

end

end TableInterfaces
