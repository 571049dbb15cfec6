import TableInterfaces.Json.Parser
import TableInterfaces.Proofs.Json.Lexeme
import TableInterfaces.Proofs.Json.WellFormed

/-!
# Reading what was written

A written value is read from left to right as a reader moves over its parts (`Reader.Reaches`): from
where a value is expected to where the value is finished, whatever text follows. Main statements:

* `Value.WellFormed.readable`: a written value is read as itself, wherever it stands.
* `parse_written_object`: a written object is read with its fields assigned in order.
-/

namespace TableInterfaces.Json

open TableInterfaces.Text

/-! ## Readers -/

/-- A reader of a JSON text: what it expects, the lists and objects that are open, and the text that
is left. -/
structure Reader where
  expect : Expect
  stack : List Frame
  rest : List Char

namespace Reader

/-- The value that a reader at a place ends with. -/
def run (r : Reader) (place : Nat) : Except Misfit Value :=
  parseTokens r.expect r.stack (tokensFrom place r.rest)

/-- A reader comes to where another one is. -/
def Reaches (r s : Reader) : Prop :=
  ∀ place, ∃ place', r.run place = s.run place'

variable {expect expect' : Expect} {stack stack' : List Frame} {text rest : List Char}
  {token : Token}

theorem Reaches.trans {r s t : Reader} (h : r.Reaches s) (h' : s.Reaches t) : r.Reaches t := by
  intro place
  obtain ⟨place₁, h₁⟩ := h place
  obtain ⟨place₂, h₂⟩ := h' place₁
  exact ⟨place₂, h₁.trans h₂⟩

/-- Spacing changes nothing. -/
theorem reaches_spaces (h : ∀ c ∈ text, isJsonSpace c = true) :
    Reaches ⟨expect, stack, text ++ rest⟩ ⟨expect, stack, rest⟩ := by
  intro place
  refine ⟨place + text.length, ?_⟩
  unfold run
  dsimp only
  rw [tokensFrom_spaces h]

/-- A token leads to the next state. -/
theorem reaches_token (htext : Lexeme text token rest)
    (hstep : ∀ place, step expect stack token place = .ok (.inl (expect', stack'))) :
    Reaches ⟨expect, stack, text ++ rest⟩ ⟨expect', stack', rest⟩ := by
  intro place
  refine ⟨place + text.length, ?_⟩
  unfold run
  dsimp only
  rw [tokensFrom_lexeme htext, parseTokens, hstep]

end Reader

open Reader

/-! ## Parts of a written value -/

theorem endsNumeral_comma (rest : List Char) : EndsNumeral (',' :: rest) := by
  refine ⟨?_, by simp, rfl⟩
  rintro c hc
  cases hc
  rfl

theorem endsNumeral_lineStart (level : Nat) (rest : List Char) :
    EndsNumeral ((lineStart level).toList ++ rest) := by
  rw [lineStart, String.toList_ofList]
  refine ⟨?_, by simp, rfl⟩
  rintro c hc
  cases hc
  rfl

theorem isJsonSpace_of_mem_lineStart {level : Nat} :
    ∀ c ∈ (lineStart level).toList, isJsonSpace c = true := by
  intro c hc
  rw [lineStart, String.toList_ofList] at hc
  rcases List.mem_cons.1 hc with rfl | hc
  · rfl
  · rw [List.eq_of_mem_replicate hc]
    rfl

theorem writtenItems_eq (level : Nat) (items : List Value) :
    writtenItems level items = items.map (written level) := by
  induction items with
  | nil => rfl
  | cons v rest ih => rw [writtenItems, ih, List.map_cons]

/-- A field as it is written: its name, a colon and a space, and its value. -/
def writtenField (level : Nat) (field : String × Value) : String :=
  writtenText field.1 ++ ": " ++ written level field.2

theorem writtenFields_eq (level : Nat) (fields : List (String × Value)) :
    writtenFields level fields = fields.map (writtenField level) := by
  induction fields with
  | nil => rfl
  | cons field rest ih =>
    obtain ⟨name, v⟩ := field
    rw [writtenFields, ih, List.map_cons, writtenField]

/-- Nothing stands between the brackets where there are no parts. -/
theorem bracketed_nil (opening closing : String) (level : Nat) :
    (bracketed opening closing level []).toList = opening.toList ++ closing.toList := by
  simp only [bracketed, List.isEmpty_nil, if_true, String.toList_append]

/-- Parts between brackets stand on lines of their own. -/
theorem bracketed_cons (opening closing : String) (level : Nat) (part : String)
    (parts : List String) :
    (bracketed opening closing level (part :: parts)).toList =
      opening.toList ++ ((lineStart (level + 1)).toList ++
        ((String.intercalate ("," ++ lineStart (level + 1)) (part :: parts)).toList ++
          ((lineStart level).toList ++ closing.toList))) := by
  simp only [bracketed, List.isEmpty_cons, Bool.false_eq_true, if_false, String.toList_append,
    List.append_assoc]

/-- A comma stands between neighbours. -/
theorem intercalate_cons_cons (level : Nat) (part next : String) (parts : List String) :
    (String.intercalate ("," ++ lineStart level) (part :: next :: parts)).toList =
      part.toList ++ ([','] ++ ((lineStart level).toList ++
        (String.intercalate ("," ++ lineStart level) (next :: parts)).toList)) := by
  rw [String.intercalate_cons_cons, String.toList_append, String.toList_append,
    String.toList_append, List.append_assoc, List.append_assoc]
  rfl

/-! ## Values -/

/-- A value that is written at a level is read as itself, wherever it stands. -/
def Readable (level : Nat) (v : Value) : Prop :=
  ∀ mayClose stack rest, stack.length + v.depth ≤ maxDepth → EndsNumeral rest →
    Reaches ⟨.value mayClose, stack, (written level v).toList ++ rest⟩ ⟨.follow v, stack, rest⟩

variable {level : Nat} {stack : List Frame} {rest : List Char}

/-- The items of a list are read one after the other, up to the end of the list. -/
theorem reaches_items {v : Value} {items : List Value}
    (hitems : ∀ w ∈ v :: items, Readable (level + 1) w)
    (mayClose : Bool) (read : List Value)
    (hdepth : stack.length + 1 + Value.itemsDepth (v :: items) ≤ maxDepth) :
    Reaches ⟨.value mayClose, .list read :: stack,
        (String.intercalate ("," ++ lineStart (level + 1))
          ((v :: items).map (written (level + 1)))).toList ++
          ((lineStart level).toList ++ ([']'] ++ rest))⟩
      ⟨.follow (.list (read.reverse ++ v :: items)), stack, rest⟩ := by
  induction items generalizing v mayClose read with
  | nil =>
    have hv : (Frame.list read :: stack).length + v.depth ≤ maxDepth :=
      (Nat.add_le_add_left (Value.depth_le_itemsDepth List.mem_cons_self) _).trans hdepth
    rw [List.map_singleton, String.intercalate_singleton]
    refine (hitems v List.mem_cons_self mayClose _ _ hv (endsNumeral_lineStart _ _)).trans ?_
    refine (reaches_spaces isJsonSpace_of_mem_lineStart).trans ?_
    refine reaches_token (lexeme_closeList rest) fun place => ?_
    rw [← List.reverse_cons]
    rfl
  | cons w items ih =>
    have hv : (Frame.list read :: stack).length + v.depth ≤ maxDepth :=
      (Nat.add_le_add_left (Value.depth_le_itemsDepth List.mem_cons_self) _).trans hdepth
    have hrest : stack.length + 1 + Value.itemsDepth (w :: items) ≤ maxDepth :=
      (Nat.add_le_add_left (Nat.le_max_right _ _) _).trans hdepth
    rw [List.map_cons, List.map_cons, intercalate_cons_cons, List.append_assoc, List.append_assoc,
      List.append_assoc, ← List.map_cons]
    refine (hitems v List.mem_cons_self mayClose _ _ hv (endsNumeral_comma _)).trans ?_
    refine (reaches_token (lexeme_comma _) fun place => rfl).trans ?_
    refine (reaches_spaces isJsonSpace_of_mem_lineStart).trans ?_
    have hnext := ih (fun u hu => hitems u (List.mem_cons_of_mem v hu)) false (v :: read) hrest
    rwa [List.reverse_cons, List.append_assoc, List.singleton_append] at hnext

/-- A field is read with its name and its value, up to what follows the value. -/
theorem reaches_field {field : String × Value} (hfield : Readable (level + 1) field.2)
    (mayClose : Bool) (read : List (String × Value))
    (hdepth : stack.length + 1 + field.2.depth ≤ maxDepth) (hrest : EndsNumeral rest) :
    Reaches ⟨.name read mayClose, stack, (writtenField (level + 1) field).toList ++ rest⟩
      ⟨.follow field.2, .object read field.1 :: stack, rest⟩ := by
  rw [writtenField, String.toList_append, String.toList_append, List.append_assoc,
    List.append_assoc]
  have hname : ∀ place, step (.name read mayClose) stack (.text (field.1.toList.map Char.toNat))
      place = .ok (.inl (.colon read field.1, stack)) := by
    intro place
    rw [step, textOfCodes_map_toNat]
  refine (reaches_token (lexeme_text field.1 _) hname).trans ?_
  change Reaches ⟨_, _, [':'] ++ ([' '] ++ _)⟩ _
  refine (reaches_token (lexeme_colon _) fun place => rfl).trans ?_
  refine (reaches_spaces fun c hc => by rw [List.mem_singleton.1 hc]; rfl).trans ?_
  exact hfield false _ _ hdepth hrest

/-- The fields of an object are assigned one after the other, up to the end of the object. -/
theorem reaches_fields {field : String × Value} {fields : List (String × Value)}
    (hfields : ∀ f ∈ field :: fields, Readable (level + 1) f.2) (mayClose : Bool)
    (read : List (String × Value))
    (hdepth : stack.length + 1 + Value.fieldsDepth (field :: fields) ≤ maxDepth) :
    Reaches ⟨.name read mayClose, stack,
        (String.intercalate ("," ++ lineStart (level + 1))
          ((field :: fields).map (writtenField (level + 1)))).toList ++
          ((lineStart level).toList ++ (['\x7d'] ++ rest))⟩
      ⟨.follow (.object (merge read (field :: fields))), stack, rest⟩ := by
  induction fields generalizing field mayClose read with
  | nil =>
    have hfield : stack.length + 1 + field.2.depth ≤ maxDepth :=
      (Nat.add_le_add_left (Value.depth_le_fieldsDepth List.mem_cons_self) _).trans hdepth
    rw [List.map_singleton, String.intercalate_singleton]
    have hend := endsNumeral_lineStart level (['\x7d'] ++ rest)
    refine (reaches_field (hfields field List.mem_cons_self) _ _ hfield hend).trans ?_
    refine (reaches_spaces isJsonSpace_of_mem_lineStart).trans ?_
    exact reaches_token (lexeme_closeObject rest) fun place => rfl
  | cons next fields ih =>
    have hfield : stack.length + 1 + field.2.depth ≤ maxDepth :=
      (Nat.add_le_add_left (Value.depth_le_fieldsDepth List.mem_cons_self) _).trans hdepth
    have hrest : stack.length + 1 + Value.fieldsDepth (next :: fields) ≤ maxDepth :=
      (Nat.add_le_add_left (Nat.le_max_right _ _) _).trans hdepth
    rw [List.map_cons, List.map_cons, intercalate_cons_cons, List.append_assoc, List.append_assoc,
      List.append_assoc, ← List.map_cons]
    refine (reaches_field (hfields field List.mem_cons_self) _ _ hfield
      (endsNumeral_comma _)).trans ?_
    refine (reaches_token (lexeme_comma _) fun place => rfl).trans ?_
    refine (reaches_spaces isJsonSpace_of_mem_lineStart).trans ?_
    rw [merge_cons]
    exact ih (fun f hf => hfields f (List.mem_cons_of_mem field hf)) false _ hrest

/-- A list is read with its items in order. -/
theorem reaches_list (stack : List Frame) (rest : List Char) {items : List Value}
    (hitems : ∀ v ∈ items, Readable (level + 1) v) (mayClose : Bool)
    (hdepth : stack.length + (Value.list items).depth ≤ maxDepth) :
    Reaches ⟨.value mayClose, stack, (written level (.list items)).toList ++ rest⟩
      ⟨.follow (.list items), stack, rest⟩ := by
  have hstack : stack.length < maxDepth := by
    rw [Value.depth] at hdepth
    omega
  have hopen : ∀ place, step (.value mayClose) stack .openList place =
      .ok (.inl (.value true, .list [] :: stack)) := fun place => if_pos hstack
  rw [written, writtenItems_eq]
  cases items with
  | nil =>
    rw [List.map_nil, bracketed_nil, List.append_assoc]
    refine (reaches_token (lexeme_openList _) hopen).trans ?_
    exact reaches_token (lexeme_closeList rest) fun place => rfl
  | cons v items =>
    rw [List.map_cons, bracketed_cons, ← List.map_cons]
    simp only [List.append_assoc]
    refine (reaches_token (lexeme_openList _) hopen).trans ?_
    refine (reaches_spaces isJsonSpace_of_mem_lineStart).trans ?_
    refine reaches_items hitems true [] ?_
    rw [Value.depth] at hdepth
    omega

/-- An object is read with its fields assigned in order. -/
theorem reaches_object (stack : List Frame) (rest : List Char) {fields : List (String × Value)}
    (hfields : ∀ field ∈ fields, Readable (level + 1) field.2) (mayClose : Bool)
    (hdepth : stack.length + (Value.object fields).depth ≤ maxDepth) :
    Reaches ⟨.value mayClose, stack, (written level (.object fields)).toList ++ rest⟩
      ⟨.follow (.object (merge [] fields)), stack, rest⟩ := by
  have hstack : stack.length < maxDepth := by
    rw [Value.depth] at hdepth
    omega
  have hopen : ∀ place, step (.value mayClose) stack .openObject place =
      .ok (.inl (.name [] true, stack)) := fun place => if_pos hstack
  rw [written, writtenFields_eq]
  cases fields with
  | nil =>
    rw [List.map_nil, bracketed_nil, List.append_assoc]
    refine (reaches_token (lexeme_openObject _) hopen).trans ?_
    exact reaches_token (lexeme_closeObject rest) fun place => rfl
  | cons field fields =>
    rw [List.map_cons, bracketed_cons, ← List.map_cons]
    simp only [List.append_assoc]
    refine (reaches_token (lexeme_openObject _) hopen).trans ?_
    refine (reaches_spaces isJsonSpace_of_mem_lineStart).trans ?_
    refine reaches_fields hfields true [] ?_
    rw [Value.depth] at hdepth
    omega

/-- **Written values are read as themselves,** wherever they stand. -/
theorem Value.WellFormed.readable {v : Value} (h : v.WellFormed) (level : Nat) :
    Readable level v := by
  induction h generalizing level with
  | null =>
    intro mayClose stack rest _ _
    exact reaches_token (lexeme_null rest) fun place => rfl
  | bool b =>
    intro mayClose stack rest _ _
    have htext : written level (.bool b) = written 0 (.bool b) := by cases b <;> rfl
    rw [htext]
    exact reaches_token (lexeme_bool b rest) fun place => rfl
  | int hlength =>
    intro mayClose stack rest _ hrest
    exact reaches_token (lexeme_of_numeral (numeral_int hlength) hrest) fun place => rfl
  | float hx =>
    intro mayClose stack rest _ hrest
    exact reaches_token (lexeme_double hx hrest) fun place => rfl
  | text s =>
    intro mayClose stack rest _ _
    refine reaches_token (lexeme_text s rest) fun place => ?_
    rw [step, textOfCodes_map_toNat]
  | @list items _ ih =>
    intro mayClose stack rest hdepth _
    exact reaches_list stack rest (fun v hv => ih v hv (level + 1)) mayClose hdepth
  | @object fields hnames _ ih =>
    intro mayClose stack rest hdepth _
    have hread := reaches_object stack rest (fun field hf => ih field hf (level + 1))
      mayClose hdepth
    rwa [merge_nil hnames] at hread

/-- **A written object is read again,** with its fields assigned in order. -/
theorem parse_written_object {fields : List (String × Value)}
    (hfields : ∀ field ∈ fields, field.2.WellFormed)
    (hdepth : (Value.object fields).depth ≤ maxDepth) :
    parse (written 0 (.object fields)) = .ok (.object (merge [] fields)) := by
  have hread := reaches_object [] [] (fun field hf => (hfields field hf).readable 1) false
    (by simpa using hdepth)
  obtain ⟨place, hrun⟩ := hread 0
  have hhead : (written 0 (.object fields)).toList.head? = some '\x7b' := by
    rw [written]
    cases writtenFields 1 fields with
    | nil => rw [bracketed_nil]; rfl
    | cons part parts => rw [bracketed_cons]; rfl
  unfold parse
  dsimp only
  rw [hhead, if_neg (by decide)]
  rw [List.append_nil] at hrun
  unfold run at hrun
  dsimp only at hrun
  rw [tokens, hrun, tokensFrom]
  rfl

end TableInterfaces.Json
