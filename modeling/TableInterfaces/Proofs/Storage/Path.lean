import TableInterfaces.Proofs.Text.Pieces
import TableInterfaces.Storage.Path

/-!
# Paths of plain components

A component is plain if it names an entry of a directory: it is not empty, has no slash, and is none
of the dots that stay in place or lead to the parent. Main statements:

* `Path.text_ofParts`: the path of plain components has them between slashes.
* `Path.text_ofParts_injective`: such paths are different for different components.
-/

namespace TableInterfaces.Storage

open TableInterfaces.Text

/-- A component that names an entry of a directory. -/
structure PlainComponent (c : String) : Prop where
  slash : '/' ∉ c.toList
  ne_empty : c ≠ ""
  ne_dot : c ≠ "."
  ne_dots : c ≠ ".."

/-- A text without slashes and dots that is not empty is a plain component. -/
theorem PlainComponent.of_not_mem {c : String} (hslash : '/' ∉ c.toList) (hdot : '.' ∉ c.toList)
    (hne : c ≠ "") : PlainComponent c where
  slash := hslash
  ne_empty := hne
  ne_dot := by
    rintro rfl
    exact hdot List.mem_cons_self
  ne_dots := by
    rintro rfl
    exact hdot List.mem_cons_self

namespace Path

/-- A part without slashes does not start at a root. -/
theorem rootOf_eq_empty {part : String} (h : '/' ∉ part.toList) : rootOf part = "" := by
  have hnone : part.toList.takeWhile (· == '/') = [] := by
    cases hs : part.toList with
    | nil => rfl
    | cons c rest =>
      have hc : c ≠ '/' := fun hc => h (by rw [hs, hc]; exact List.mem_cons_self)
      rw [List.takeWhile_cons, if_neg (by simpa using hc)]
  rw [rootOf, hnone]
  rfl

/-- A plain component is a part of itself alone. -/
theorem splitPart_plain {c : String} (h : PlainComponent c) : splitPart c = [c] := by
  have hslash : ∀ part ∈ [c], '/' ∉ part.toList := by simpa using h.slash
  have hpieces := splitAtChar_intercalate hslash (List.cons_ne_nil _ _)
  rw [String.intercalate_singleton] at hpieces
  rw [splitPart, hpieces]
  simp [h.ne_empty, h.ne_dot]

/-- The path of plain components has these components. -/
theorem ofParts_plain {parts : List String} (h : ∀ c ∈ parts, PlainComponent c) :
    ofParts parts = ⟨"", parts⟩ := by
  have hfold : ∀ front, parts.foldl append ⟨"", front⟩ = ⟨"", front ++ parts⟩ := by
    induction parts with
    | nil => exact fun front => by rw [List.append_nil]; rfl
    | cons c rest ih =>
      intro front
      have hc := h c List.mem_cons_self
      have happend : append ⟨"", front⟩ c = ⟨"", front ++ [c]⟩ := by
        rw [append, rootOf_eq_empty hc.slash, splitPart_plain hc]
        rfl
      rw [List.foldl_cons, happend, ih fun d hd => h d (List.mem_cons_of_mem _ hd),
        List.append_assoc]
      rfl
  exact hfold []

/-- The path of plain components has them between slashes. -/
theorem text_ofParts {parts : List String} (h : ∀ c ∈ parts, PlainComponent c)
    (hne : parts ≠ []) : (ofParts parts).text = String.intercalate "/" parts := by
  have hcomponents : parts.isEmpty = false := by simpa using hne
  rw [ofParts_plain h, text, hcomponents]
  simp

/-- What stands between the slashes of such a path are its components. -/
theorem splitAtChar_text_ofParts {parts : List String} (h : ∀ c ∈ parts, PlainComponent c)
    (hne : parts ≠ []) : splitAtChar '/' (ofParts parts).text = parts := by
  rw [text_ofParts h hne]
  exact splitAtChar_intercalate (fun c hc => (h c hc).slash) hne

/-- Paths of different plain components are different. -/
theorem text_ofParts_injective {parts parts' : List String} (h : ∀ c ∈ parts, PlainComponent c)
    (h' : ∀ c ∈ parts', PlainComponent c) (hne : parts ≠ []) (hne' : parts' ≠ [])
    (heq : (ofParts parts).text = (ofParts parts').text) : parts = parts' := by
  rw [← splitAtChar_text_ofParts h hne, heq, splitAtChar_text_ofParts h' hne']

end Path

end TableInterfaces.Storage
