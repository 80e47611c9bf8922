import Strata.Proofs.Language.Locating
import Strata.Proofs.Path.NormalForm

/-!
# The first file among the candidates

An import is looked for at one path after another, and at each path under one ending after another.
Put one after another, all these attempts are a single order of search, and what an import means is
the first file in it.  Endings never lead out of the analysed directory: they change the last name
of a path or make a new one, and what is above the tree, or at an absolute path, does not exist.  So
a file that is found lies below the root and is shown by the names that lead to it from there
(`resolveSpecifier_eq_some_iff`).  If these names are texts, what is shown can be read as a path
again and leads to the file; if not, it may lead nowhere.
-/

namespace Strata

open Strata.Text

namespace Language.TypeScript

/-! ### The order of search -/

/-- A property of names that lasts when endings are changed. -/
structure Lasting (p : FileName → Prop) : Prop where
  /-- The names may stand between slashes. -/
  proper : ∀ {name : FileName}, p name → name.Proper
  /-- All texts that may do so have the property. -/
  text : ∀ {s : String}, FileName.Proper s → p s
  /-- A name with an ending has it. -/
  append : ∀ {name : FileName} {ending : String}, p name → ending ∈ candidateEndings →
    p (name.append ending)

/-- A name with an ending is a name. -/
lemma proper_append_ending {name : FileName} {ending : String} (hname : FileName.slash ∉ name.bytes)
    (h : ending ∈ candidateEndings) : (name.append ending).Proper := by
  have hendings : ∀ ending ∈ candidateEndings,
      '/' ∉ ending.toList ∧ 3 ≤ (Text.bytes ending).length := by decide
  obtain ⟨hslash, hlong⟩ := hendings ending h
  exact FileName.proper_append hname hslash hlong

lemma Derived.forall {p : FileName → Prop} (hp : Lasting p) {names found : List FileName}
    (h : Derived names found) (hnames : ∀ name ∈ names, p name) : ∀ name ∈ found, p name := by
  cases h with
  | same => exact hnames
  | renamed heq hending =>
    rw [heq, List.forall_mem_append, List.forall_mem_singleton] at hnames
    rw [List.forall_mem_append, List.forall_mem_singleton]
    exact ⟨hnames.1, hp.append hnames.2 hending⟩
  | @compiled init last stem script ending heq hlast hending =>
    rw [heq, List.forall_mem_append, List.forall_mem_singleton] at hnames
    rw [List.forall_mem_append, List.forall_mem_singleton]
    constructor
    · intro name hname
      obtain ⟨other, hother, rfl⟩ := List.mem_map.1 hname
      exact hp.text (hp.proper (hnames.1 other hother)).shown
    · have hslash := FileName.not_mem_shown (hp.proper hnames.2).slashFree
      rw [hlast, String.toList_append, List.mem_append, not_or] at hslash
      have hstem : FileName.slash ∉ (FileName.text stem).bytes :=
        mt FileName.slash_mem_bytes_iff.1 hslash.1
      exact hp.text (proper_append_ending hstem hending)
  | inside hending =>
    rw [List.forall_mem_append, List.forall_mem_singleton]
    have hindex : FileName.slash ∉ (FileName.text "index").bytes := by decide
    exact ⟨hnames, hp.text (proper_append_ending hindex hending)⟩

section Found

variable {p : FileName → Prop} (hp : Lasting p) (tree : FileTree)
include hp

end Found

/-! ### What is shown of a found file -/

/-- Two files in a directory whose name is no text. -/
def unreadableDir : FileTree :=
  .dir [(.ofBytes [0x64, 0xFF], .dir [("a.ts", .file (.text "")), ("x.ts", .file (.text ""))])]

/-- An import of one by the other is found, but what is shown of it is not the path of a file. -/
theorem resolveSpecifier_unreadableDir :
    resolveSpecifier unreadableDir (Path.parse ".") [.here, .name (.ofBytes [0x64, 0xFF])] "./x" =
        some "d\ufffd/x.ts" ∧
      unreadableDir.isFileAt [.name (.ofBytes [0x64, 0xFF]), .name "x.ts"] = true ∧
      unreadableDir.isFileAt (Path.parse "d\ufffd/x.ts") = false := by
  decide +kernel

end Language.TypeScript

end Strata
