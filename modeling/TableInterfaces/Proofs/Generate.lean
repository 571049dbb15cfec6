import TableInterfaces.Generate
import TableInterfaces.Proofs.Entity.Readable

/-!
# Runs over documents

A run over a document gives a result, successful or failed, or stops at an error of the call. What is
wrong with the document belongs into the result. Main statement:

* `document_faults_reported`: where language and configuration are fine, this is so just for the
  documents that can be read (`Document.Readable`).
-/

namespace TableInterfaces

open TableInterfaces.Json
open TableInterfaces.Storage

variable {tree : FileTree} {document language config : Value}

/-- Entities that load go through the generator. -/
theorem generateDocument_of_ok {entities : List Entity}
    (h : Document.load document = .ok entities) :
    generateDocument tree document language config = do
      let generator ← Registry.standard.create tree language (.ofValue config)
      return generator.generate entities := by
  rw [generateDocument, h]

/-- A schema fault makes the run fail. -/
theorem generateDocument_of_schema {cause : SchemaFault}
    (h : Document.load document = .error (.schema cause)) :
    generateDocument tree document language config = .ok (.error (.document (.schema cause))) := by
  rw [generateDocument, h]

/-- A fault of another kind leaves the run as it is. -/
theorem generateDocument_of_error {fault : Fault} (h : Document.load document = .error fault)
    (hfault : ∀ cause, fault ≠ .schema cause) :
    generateDocument tree document language config = .error fault := by
  rw [generateDocument, h]
  cases fault with
  | schema cause => exact absurd rfl (hfault cause)
  | _ => rfl

/-- **Faults of documents are reported.** A document gives entities or a schema fault just where it
can be read. With a language and a configuration that give a generator, a run over a document gives a
result just where the document can be read, a schema fault is the reason of a failed run, and no
other fault escapes than one of loading the document. -/
theorem document_faults_reported (tree : FileTree) (document language config : Value) :
    (((∃ entities, Document.load document = .ok entities) ∨
      ∃ cause, Document.load document = .error (.schema cause)) ↔ Document.Readable document) ∧
    (Succeeds (Registry.standard.create tree language (.ofValue config)) →
      (Succeeds (generateDocument tree document language config) ↔ Document.Readable document) ∧
      (∀ cause, Document.load document = .error (.schema cause) →
        generateDocument tree document language config =
          .ok (.error (.document (.schema cause)))) ∧
      ∀ fault, generateDocument tree document language config = .error fault →
        Document.load document = .error fault) := by
  have hreadable := Orderly.iff_ok_or_schema.symm.trans (Document.load_orderly_iff document)
  refine ⟨hreadable, ?_⟩
  rintro ⟨generator, hgenerator⟩
  have hok : ∀ entities, Document.load document = .ok entities →
      generateDocument tree document language config = .ok (generator.generate entities) := by
    intro entities h
    rw [generateDocument_of_ok h, hgenerator]
    rfl
  refine ⟨?_, fun cause => generateDocument_of_schema, ?_⟩
  · rw [← hreadable]
    constructor
    · rintro ⟨result, hresult⟩
      cases hload : Document.load document with
      | ok entities => exact .inl ⟨entities, rfl⟩
      | error fault =>
        by_cases hschema : ∃ cause, fault = .schema cause
        · obtain ⟨cause, rfl⟩ := hschema
          exact .inr ⟨cause, rfl⟩
        · rw [generateDocument_of_error hload (not_exists.1 hschema)] at hresult
          cases hresult
    · rintro (⟨entities, hload⟩ | ⟨cause, hload⟩)
      · exact ⟨_, hok entities hload⟩
      · exact ⟨_, generateDocument_of_schema hload⟩
  · intro fault hfault
    cases hload : Document.load document with
    | ok entities =>
      rw [hok entities hload] at hfault
      cases hfault
    | error cause =>
      by_cases hschema : ∃ reason, cause = .schema reason
      · obtain ⟨reason, rfl⟩ := hschema
        rw [generateDocument_of_schema hload] at hfault
        cases hfault
      · rw [generateDocument_of_error hload (not_exists.1 hschema)] at hfault
        cases hfault
        rfl

/-- An entity whose members are a number. -/
def numberMembers : Value :=
  .object [("entities", .list [.object [("name", .text "a"), ("members", .int 5)]])]

/-- Members that are no row stop the run, although language and configuration are fine. -/
theorem numberMembers_escape :
    Succeeds (Registry.standard.create (.empty []) (.text "java") (.ofValue .null)) ∧
      Document.load numberMembers = .error (.misuse (.notIterable .int)) ∧
      ¬Document.Readable numberMembers ∧
      ¬Succeeds (generateDocument (.empty []) numberMembers (.text "java") .null) := by
  have hgenerator : Succeeds
      (Registry.standard.create (.empty []) (.text "java") (.ofValue .null)) := ⟨_, rfl⟩
  have hload : Document.load numberMembers = .error (.misuse (.notIterable .int)) := rfl
  obtain ⟨hreadable, hrun⟩ :=
    document_faults_reported (.empty []) numberMembers (.text "java") .null
  have hnot : ¬Document.Readable numberMembers := by
    rw [← hreadable, hload]
    rintro (⟨_, h⟩ | ⟨_, h⟩) <;> cases h
  exact ⟨hgenerator, hload, hnot, fun h => hnot ((hrun hgenerator).1.1 h)⟩

end TableInterfaces
