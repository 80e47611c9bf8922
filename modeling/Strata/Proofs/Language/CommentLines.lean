import Strata.Language
import Strata.Proofs.Language.InsertedLines
import Strata.Proofs.Masking.Tokens

/-!
# Comments between lines

Lines that hold nothing but blanks and whole comments can be put anywhere between the lines of a
source, outside of its comments and of its literals, without any effect on its outline but for the
numbers of the lines behind them.
-/

namespace Strata

open Strata.Text Strata.Masking

/-! ### Comments are masked to blanks -/

namespace Masking

variable {d : Dialect}

lemma blank_spaces (n : Nat) : Blank (spaces n) := by
  intro c hc
  rw [(List.mem_replicate.1 hc).2]
  decide

lemma blank_hide (text : List Char) : Blank (hide text) := by
  induction text with
  | nil => exact fun c hc => absurd hc List.not_mem_nil
  | cons c rest ih =>
    have hc : isBlank (hideAt c rest) = true := by
      unfold hideAt
      split
      · rename_i hend
        rcases atLineEnd_cons_iff.1 hend with rfl | ⟨rfl, -⟩ <;> decide
      · decide
    exact List.forall_mem_cons.2 ⟨hc, ih⟩

/-- A comment, or blanks. -/
def Token.Silent : Token → Prop
  | code text => Blank text
  | lineComment _ | blockComment _ => True
  | literal _ _ _ => False

instance : (token : Token) → Decidable token.Silent
  | .code text => inferInstanceAs (Decidable (Blank text))
  | .lineComment _ | .blockComment _ => .isTrue trivial
  | .literal _ _ _ => .isFalse id

lemma Token.Silent.blank_masked {token : Token} (h : token.Silent) : Blank (token.masked d) := by
  cases token with
  | code text => exact h
  | lineComment text => exact blank_spaces _
  | blockComment body => exact blank_hide _
  | literal quote hashes body => exact absurd h id

lemma Token.Silent.closedAtEnd {token : Token} (h : token.Silent) : token.ClosedAtEnd d := by
  cases token with
  | code _ | lineComment _ | blockComment _ => trivial
  | literal quote hashes body => exact absurd h id

lemma Tokens.blank_of_mem_lines {tokens : List Token} (h : ∀ token ∈ tokens, token.Silent)
    {line : List Char} (hline : line ∈ lines (Tokens.masked d tokens)) : Blank line := by
  intro c hc
  obtain ⟨token, htoken, hmem⟩ := List.mem_flatMap.1 (mem_of_mem_lines hline hc)
  exact (h token htoken).blank_masked c hmem

/-- Tokens put between lines, where the scanner is in code, leave the other lines as they are
masked. -/
lemma maskLines_insert (hd : d.Regular) {tokens : List Token} (h : Tokens.WellFormed d tokens)
    (hclosed : ∀ token ∈ tokens, token.ClosedAtEnd d)
    {before : List (List Char)} (hbefore : modeAfter d .code before = .code)
    (after : List (List Char)) :
    maskLines d .code (before ++ lines (Tokens.source d tokens) ++ after) =
      maskLines d .code before ++ lines (Tokens.masked d tokens) ++ maskLines d .code after := by
  obtain ⟨hlines, hmode⟩ := maskLines_tokens hd h hclosed
  rw [List.append_assoc, maskLines_append, maskLines_append, hbefore, hlines, hmode,
    List.append_assoc]

end Masking

/-! ### Outlines with other line numbers -/

/-- The second outline is the first one with other line numbers; the suspicious lines, which hold
text of the source, are left aside. -/
structure Outline.Moved (move : Nat → Nat) (outline outline' : Outline) : Prop where
  /-- The package is the same. -/
  package : outline'.package = outline.package
  /-- The full name is the same. -/
  qualifiedName : outline'.qualifiedName = outline.qualifiedName
  /-- The exported names are known under the same name. -/
  exportNamespace : outline'.exportNamespace = outline.exportNamespace
  /-- The same imports come in the same order. -/
  imports : outline'.imports = outline.imports.map (Import.moved move)
  /-- The same names are exported in the same order. -/
  exports : outline'.exports = outline.exports.map (Export.moved move)

namespace Language

variable {before inserted after : List (List Char)} {content edited : List Char}

lemma Python.outline_moved (hcontent : mask .python content = before ++ after)
    (hedited : mask .python edited = before ++ inserted ++ after)
    (hinserted : ∀ line ∈ inserted, Blank line) (hbefore : Python.Unjoined before)
    (path : String) :
    Outline.Moved (moveLine (before.length + 1) inserted.length) (Python.outline path content)
      (Python.outline path edited) where
  package := rfl
  qualifiedName := rfl
  exportNamespace := rfl
  imports := by
    simp only [Python.outline, hcontent, hedited, Python.imports_insert hinserted hbefore 1,
      Nat.add_comm 1]
  exports := by
    simp only [Python.outline, hcontent, hedited, Python.exportsFrom_eq,
      topLevel_insert Python.bracketStep_blank (fun _ => Python.exportedName?_blank) hinserted,
      distinctExports_moved]

lemma Kotlin.outline_moved (hcontent : mask .kotlin content = before ++ after)
    (hedited : mask .kotlin edited = before ++ inserted ++ after)
    (hinserted : ∀ line ∈ inserted, Blank line) (path : String) :
    Outline.Moved (moveLine (before.length + 1) inserted.length) (Kotlin.outline path content)
      (Kotlin.outline path edited) := by
  have hpackage : (before ++ inserted ++ after).findSome? Kotlin.packageOf? =
      (before ++ after).findSome? Kotlin.packageOf? := by
    have hnone : inserted.findSome? Kotlin.packageOf? = none :=
      List.findSome?_eq_none_iff.2 fun line hline => Kotlin.packageOf?_blank (hinserted line hline)
    rw [List.findSome?_append, List.findSome?_append, hnone, Option.or_none, List.findSome?_append]
  constructor
  · simp only [Kotlin.outline, hcontent, hedited, hpackage]
  · simp only [Kotlin.outline, hcontent, hedited, hpackage]
  · simp only [Kotlin.outline, hcontent, hedited, hpackage]
  · simp only [Kotlin.outline, hcontent, hedited]
    refine filterMap_numberFrom_insert Kotlin.importOf? ?_
      fun line hline => Kotlin.importOf?_blank (hinserted line hline)
    intro move number line
    rw [Kotlin.importOf?, Option.map_map]
    rfl
  · simp only [Kotlin.outline, hcontent, hedited, Kotlin.exportsOf_eq,
      topLevel_insert braceStep_blank (fun _ => Kotlin.exportOf?_blank) hinserted,
      distinctExports_moved]

lemma Swift.outline_moved (hcontent : mask .swift content = before ++ after)
    (hedited : mask .swift edited = before ++ inserted ++ after)
    (hinserted : ∀ line ∈ inserted, Blank line) (path : String) :
    Outline.Moved (moveLine (before.length + 1) inserted.length) (Swift.outline path content)
      (Swift.outline path edited) where
  package := rfl
  qualifiedName := rfl
  exportNamespace := rfl
  imports := by
    simp only [Swift.outline, hcontent, hedited]
    refine filterMap_numberFrom_insert Swift.importOf? ?_
      fun line hline => Swift.importOf?_blank (hinserted line hline)
    intro move number line
    rw [Swift.importOf?, Option.map_map]
    rfl
  exports := by
    simp only [Swift.outline, hcontent, hedited, Swift.exportsOf_eq,
      topLevel_insert braceStep_blank (fun _ => Swift.exportOf?_blank) hinserted,
      distinctExports_moved]

end Language

namespace Ecosystem

/-- The conventions by which the sources of an ecosystem are masked, if they are. -/
def dialect? : Ecosystem → Option Dialect
  | typescript => none
  | python => some .python
  | kotlin => some .kotlin
  | swift => some .swift

lemma mem_known_of_dialect? {ecosystem : Ecosystem} {d : Dialect}
    (h : ecosystem.dialect? = some d) : d ∈ Dialect.known := by
  cases ecosystem <;> cases h <;> decide

/-- Lines of blanks and whole comments leave an outline as it is and move the lines behind them.
They may stand wherever no comment and no literal is open and, in Python, no backslash joins the
line before to the next. -/
theorem outline_commentLines {ecosystem : Ecosystem} {d : Dialect}
    (hd : ecosystem.dialect? = some d) {tokens : List Token} (htokens : Tokens.WellFormed d tokens)
    (hsilent : ∀ token ∈ tokens, token.Silent) {before after : List (List Char)}
    (hbefore : modeAfter d .code before = .code)
    (hjoined : ecosystem = .python → Language.Python.Unjoined (maskLines d .code before))
    {content edited : List Char} (hcontent : lines content = before ++ after)
    (hedited : lines edited = before ++ lines (Tokens.source d tokens) ++ after)
    (tree : FileTree) (root dir : Path) (path : String) :
    Outline.Moved (moveLine (before.length + 1) (lines (Tokens.source d tokens)).length)
      (ecosystem.outline tree root dir path content)
      (ecosystem.outline tree root dir path edited) := by
  have hregular := Dialect.regular_of_mem_known (mem_known_of_dialect? hd)
  have hclosed : ∀ token ∈ tokens, token.ClosedAtEnd d :=
    fun token htoken => (hsilent token htoken).closedAtEnd
  have hcontent : mask d content = maskLines d .code before ++ maskLines d .code after := by
    rw [mask, hcontent, maskLines_append, hbefore]
  have hedited : mask d edited = maskLines d .code before ++ lines (Tokens.masked d tokens) ++
      maskLines d .code after := by
    rw [mask, hedited, maskLines_insert hregular htokens hclosed hbefore]
  have hblank : ∀ line ∈ lines (Tokens.masked d tokens), Blank line :=
    fun line hline => Tokens.blank_of_mem_lines hsilent hline
  have hinserted : (lines (Tokens.source d tokens)).length =
      (lines (Tokens.masked d tokens)).length := by
    rw [← (maskLines_tokens hregular htokens hclosed).1, length_maskLines]
  rw [hinserted, ← length_maskLines d .code before]
  cases ecosystem with
  | typescript => cases hd
  | python =>
    cases hd
    exact Language.Python.outline_moved hcontent hedited hblank (hjoined rfl) path
  | kotlin =>
    cases hd
    exact Language.Kotlin.outline_moved hcontent hedited hblank path
  | swift =>
    cases hd
    exact Language.Swift.outline_moved hcontent hedited hblank path

/-- Two comments and an empty line between them. -/
def noteTokens : List Token :=
  [.code "\t".toList, .lineComment " (one, import x".toList, .code "\n\n".toList,
    .lineComment "\"\"\" two \\".toList]

/-- An import that is still open at the end of its line. -/
def openImport : List Char := "import a; from b import (c, # d\n".toList

/-- The end of that import, and a definition. -/
def importEnd : List Char := "  e)\nf = 1".toList

theorem outline_commentLines_noteTokens :
    (python.outline (.dir []) [] [] "m.py" (openImport ++ importEnd)).imports.length = 3 ∧
      Outline.Moved (moveLine 2 3)
        (python.outline (.dir []) [] [] "m.py" (openImport ++ importEnd))
        (python.outline (.dir []) [] [] "m.py"
          (openImport ++ Tokens.source .python noteTokens ++ '\n' :: importEnd)) := by
  refine ⟨by decide +kernel, ?_⟩
  have htokens : Tokens.WellFormed .python noteTokens := by decide +kernel
  have hsilent : ∀ token ∈ noteTokens, token.Silent := by decide +kernel
  have hbefore : modeAfter .python .code (lines openImport) = .code := by decide +kernel
  have hjoined : Language.Python.Unjoined (maskLines .python .code (lines openImport)) := by
    decide +kernel
  have hcontent : lines (openImport ++ importEnd) = lines openImport ++ lines importEnd := by
    decide +kernel
  have hedited : lines (openImport ++ Tokens.source .python noteTokens ++ '\n' :: importEnd) =
      lines openImport ++ lines (Tokens.source .python noteTokens) ++ lines importEnd := by
    decide +kernel
  have hcount : (lines (Tokens.source .python noteTokens)).length = 3 := by decide +kernel
  rw [← hcount]
  exact outline_commentLines rfl htokens hsilent hbefore (fun _ => hjoined) hcontent hedited
    (.dir []) [] [] "m.py"

end Ecosystem

end Strata
