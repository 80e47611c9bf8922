import Mathlib.Data.List.Flatten
import Strata.Proofs.Language.ImportLayout

/-!
# Semicolons and line feeds

A semicolon separates statements as a line feed does.  Statements on one line are read together:
the line is passed over unless one of them opens with a keyword and a space, and then all of them
are read, with their blanks collapsed (`imported_oneLine`).  Statements on lines of their own are
passed over one by one (`imported_onLines`).  A keyword with a tab behind it does not open a
statement for this first look, although it does for the reading itself; so the two ways to write
the statements import the same, unless such a statement stands next to one that is looked at.
-/

namespace Strata.Language.Python

open Strata.Text

/-! ### Lists put together -/

/-- Terms may be left out of a sum of lists if and only if they are empty. -/
lemma flatMap_eq_flatMap_ite_iff {α β : Type} (f : α → List β) (p : α → Bool) (xs : List α) :
    xs.flatMap f = (xs.flatMap fun x => if p x then f x else []) ↔
      ∀ x ∈ xs, p x = false → f x = [] := by
  induction xs with
  | nil => simp
  | cons x xs ih =>
    rw [List.flatMap_cons, List.flatMap_cons, List.forall_mem_cons, ← ih]
    cases hx : p x with
    | true => simp
    | false =>
      simp only [Bool.false_eq_true, if_false, List.nil_append, forall_const]
      constructor
      · intro heq
        have hsub : (xs.flatMap fun x => if p x then f x else []).Sublist (xs.flatMap f) :=
          List.Sublist.flatMap_right xs fun x _ => by split <;> simp
        have hlength := hsub.length_le
        rw [← heq, List.length_append] at hlength
        have hnil : f x = [] := List.length_eq_zero_iff.1 (by omega)
        rw [hnil] at heq
        exact ⟨hnil, heq⟩
      · rintro ⟨hnil, heq⟩
        rw [hnil, List.nil_append, heq]

/-! ### Statements that stand alone -/

/-- Whether a character leaves the lines as they are, and is no blank but a space or a tab. -/
def isInline (c : Char) : Bool :=
  !joints.contains c && (!isBlank c || c == ' ' || c == '\t')

/-- A statement that can stand on a line with others. -/
def Bare (statement : List Char) : Prop := ∀ c ∈ statement, isInline c = true ∧ c ≠ ';'

instance Bare.decidable (statement : List Char) : Decidable (Bare statement) :=
  decidable_of_iff (statement.all (fun c => isInline c && c != ';') = true) (by simp [Bare])

lemma not_mem_joints_of_isInline {c : Char} (hc : isInline c = true) : c ∉ joints := by
  simpa using (Bool.and_eq_true_iff.1 hc).1

lemma eq_space_or_tab {c : Char} (hc : isInline c = true) (hblank : isBlank c = true) :
    c = ' ' ∨ c = '\t' := by
  simpa [isInline, hblank] using (Bool.and_eq_true_iff.1 hc).2

section Inline

variable {line : List Char} (hline : ∀ c ∈ line, isInline c = true)

include hline

/-- A line is read on its own. -/
lemma imports_cons (number : Nat) (rest : List (List Char)) :
    imports number (line :: rest) =
      (if holdsImport line then (statements (collapse line)).flatMap (statementImports number)
        else []) ++ imports (number + 1) rest := by
  have hjoints : ∀ c ∈ line, c ∉ joints := fun c hc => not_mem_joints_of_isInline (hline c hc)
  have hback : '\\' ∉ line := fun hmem => hjoints '\\' hmem (by decide)
  split
  · rename_i hholds
    have hphrase : phrase line = words line := by rw [phrase, map_unbracket_of_not_mem hjoints]
    have hflatten : flatten (extend [] (linePart line)) = collapse line := by
      rw [flatten_eq, phrase_extend, phrase_linePart hback, hphrase]
      rfl
    rw [imports_of_gather hholds (gather_last (bracketDepth_of_not_mem 0 hjoints) hback [] rest)
      number, hflatten]
    rfl
  · rename_i hholds
    rw [imports, if_neg hholds]
    rfl

end Inline

/-! ### What is imported -/

/-- What some imports refer to, and the statements that they stand in. -/
def imported (entries : List Import) : List (Target × String) :=
  entries.map fun entry => (entry.target, entry.statement)

/-- What a statement refers to, together with the statement. -/
def importedBy (statement : List Char) : List (Target × String) :=
  (statementTargets statement).map fun target => (target, String.ofList statement)

lemma imported_statementImports (number : Nat) (statement : List Char) :
    imported (statementImports number statement) = importedBy statement := by
  rw [imported, statementImports, List.map_map]
  rfl

lemma importedBy_nil : importedBy [] = [] := by decide

/-- A line imports what its statements import, if it is looked at. -/
def importedOn (line : List Char) : List (Target × String) :=
  if holdsImport line then
    (pieces (· == ';') line).flatMap fun statement => importedBy (collapse statement)
  else []

lemma importedOn_nil : importedOn [] = [] := by decide

lemma flatMap_statements (line : List Char) :
    (statements (collapse line)).flatMap importedBy =
      (pieces (· == ';') line).flatMap fun statement => importedBy (collapse statement) := by
  have hfilter : ∀ parts : List (List Char),
      (parts.filter fun part => !part.isEmpty).flatMap importedBy = parts.flatMap importedBy := by
    intro parts
    induction parts with
    | nil => rfl
    | cons part parts ih =>
      cases part with
      | nil =>
        rw [List.filter_cons_of_neg (by simp), ih, List.flatMap_cons, importedBy_nil,
          List.nil_append]
      | cons c part =>
        rw [List.filter_cons_of_pos (by simp), List.flatMap_cons, ih, List.flatMap_cons]
  rw [statements, hfilter, map_trim_pieces_collapse (by decide), List.flatMap_map]

lemma imported_imports {ls : List (List Char)} (hls : ∀ line ∈ ls, ∀ c ∈ line, isInline c = true)
    (number : Nat) : imported (imports number ls) = ls.flatMap importedOn := by
  induction ls generalizing number with
  | nil =>
    rw [imports]
    rfl
  | cons line ls ih =>
    obtain ⟨hline, hls⟩ := List.forall_mem_cons.1 hls
    have hhere : imported (if holdsImport line then
        (statements (collapse line)).flatMap (statementImports number) else []) =
          importedOn line := by
      rw [importedOn, ← flatMap_statements]
      split
      · rw [imported, List.map_flatMap]
        exact congrArg (List.flatMap · _) (funext (imported_statementImports number))
      · rfl
    rw [imports_cons hline, imported, List.map_append, List.flatMap_cons, ← ih hls (number + 1),
      ← hhere]
    rfl

/-- Code is not masked. -/
lemma mask_of_isCode {text : List Char} (h : ∀ c ∈ text, isCode c = true) :
    Masking.mask .python text = lines text := by
  have hwell : Masking.Tokens.WellFormed .python [.code text] :=
    ⟨unopened_of_isCode h _, trivial⟩
  have htokens := (Masking.maskLines_tokens
    (Masking.Dialect.regular_of_mem_known (by decide)) hwell
    (List.forall_mem_singleton.2 trivial)).1
  rw [Masking.mask]
  simpa [Masking.Tokens.source, Masking.Tokens.masked, Masking.Token.source, Masking.Token.masked]
    using htokens

section Lines

variable {ls : List (List Char)} (hls : ∀ line ∈ ls, ∀ c ∈ line, isInline c = true)
  {final : List Char} (hfinal : final ∈ fileEnds)

include hls hfinal

lemma isCode_of_mem_lines :
    ∀ c ∈ ['\n'].intercalate ls ++ final, isCode c = true := by
  intro c hc
  rcases List.mem_append.1 hc with hc | hc
  · rcases eq_or_mem_of_mem_intercalate hc with rfl | ⟨line, hline, hmem⟩
    · decide
    · exact isCode_of_not_mem (not_mem_joints_of_isInline (hls line hline c hmem))
  · rcases mem_fileEnds_iff.1 hfinal with rfl | rfl
    · cases hc
    · rw [List.mem_singleton.1 hc]
      decide

/-- What is imported in a text of lines that are read one by one. -/
lemma imported_outline (path : String) :
    imported (outline path (['\n'].intercalate ls ++ final)).imports = ls.flatMap importedOn := by
  have hends : ∀ line ∈ ls, '\n' ∉ line ∧ '\r' ∉ line := by
    intro line hline
    constructor
    · intro hmem
      cases hls line hline '\n' hmem
    · intro hmem
      cases hls line hline '\r' hmem
  obtain ⟨more, more', hmore, hlines⟩ := exists_lines_append_eq hends hfinal
  have hempty : ∀ lines : List (List Char), (∀ line ∈ lines, line ∈ more ++ more') →
      lines.flatMap importedOn = [] := by
    intro lines h
    refine List.flatMap_eq_nil_iff.2 fun line hline => ?_
    rw [hmore line (h line hline), importedOn_nil]
  have hinline : ∀ line ∈ lines (['\n'].intercalate ls ++ final), ∀ c ∈ line,
      isInline c = true := by
    intro line hline c hc
    rcases List.mem_append.1 (hlines ▸ List.mem_append_left more hline) with hmem | hmem
    · exact hls line hmem c hc
    · rw [hmore line (List.mem_append_right _ hmem)] at hc
      cases hc
  have hflat := congrArg (List.flatMap importedOn) hlines
  rw [List.flatMap_append, List.flatMap_append, hempty more fun _ => List.mem_append_left _,
    hempty more' fun _ => List.mem_append_right _, List.append_nil, List.append_nil] at hflat
  rw [outline, mask_of_isCode (isCode_of_mem_lines hls hfinal), imported_imports hinline, hflat]

end Lines

/-! ### Keywords -/

/-- The statement begins with a keyword of imports and this character. -/
def OpensWith (blank : Char) (statement : List Char) : Prop :=
  ∃ keyword ∈ [importWord, fromWord], keyword ++ [blank] <+: trimStart statement

instance OpensWith.decidable (blank : Char) (statement : List Char) :
    Decidable (OpensWith blank statement) :=
  inferInstanceAs (Decidable (∃ keyword ∈ _, _))

lemma startsImport_iff {statement : List Char} :
    startsImport statement = true ↔ OpensWith ' ' statement := by
  simp [startsImport, OpensWith, importWord, fromWord]

/-- Behind the keyword stands one character only. -/
lemma OpensWith.eq {a b : Char} {statement : List Char} (ha : OpensWith a statement)
    (hb : OpensWith b statement) : a = b := by
  obtain ⟨keyword, hkeyword, rest, hrest⟩ := ha
  obtain ⟨keyword', hkeyword', rest', hrest'⟩ := hb
  have heq : keyword ++ [a] ++ rest = keyword' ++ [b] ++ rest' := hrest.trans hrest'.symm
  simp only [List.mem_cons, List.not_mem_nil, or_false] at hkeyword hkeyword'
  rcases hkeyword with rfl | rfl <;> rcases hkeyword' with rfl | rfl <;>
    simp [importWord, fromWord] at heq
  · exact heq.1
  · exact heq.1

/-- A pattern that begins with a keyword and a blank asks for them. -/
lemma exists_of_match?_keyword {keyword : String} {tail : Pattern} {text : List Char}
    (hhead : ∀ c ∈ text.head?, isBlank c = false) {found : Pattern.Spot}
    (h : (Pattern.keyworded keyword tail).match? text = some found) :
    ∃ b rest, isBlank b = true ∧ text = keyword.toList ++ b :: rest := by
  obtain ⟨indent, gap, rest, rfl, hindent, ⟨hne, hgap⟩, -⟩ :=
    Pattern.mem_runs_keyworded_iff.1 (List.mem_of_head? h)
  obtain ⟨b, more, rfl⟩ := List.exists_cons_of_ne_nil hne
  -- the text does not begin with a blank
  obtain rfl : indent = [] := by
    cases indent with
    | nil => rfl
    | cons c indent =>
      have hc : isBlank c = true := hindent c List.mem_cons_self
      rw [hhead c rfl] at hc
      cases hc
  exact ⟨b, more ++ rest, hgap b List.mem_cons_self, rfl⟩

/-- A collapsed statement that imports something begins with a keyword and a space. -/
lemma exists_of_statementTargets {text : List Char} (h : statementTargets (collapse text) ≠ []) :
    ∃ keyword ∈ [importWord, fromWord], ∃ rest, collapse text = keyword ++ ' ' :: rest := by
  have hspace : ∀ {keyword : List Char}, (∃ b rest, isBlank b = true ∧
      collapse text = keyword ++ b :: rest) → ∃ rest, collapse text = keyword ++ ' ' :: rest := by
    rintro keyword ⟨b, rest, hb, heq⟩
    have hmem : b ∈ collapse text := by simp [heq]
    rcases of_mem_collapse hmem with rfl | ⟨-, hink⟩
    · exact ⟨rest, heq⟩
    · rw [hb] at hink
      cases hink
  have hhead : ∀ c ∈ (collapse text).head?, isBlank c = false := fun _ => isBlank_head?_collapse
  unfold statementTargets at h
  split at h
  · rename_i found hfound
    rw [fromImport_eq] at hfound
    exact ⟨fromWord, by simp, hspace (exists_of_match?_keyword hhead hfound)⟩
  · split at h
    · rename_i found hfound
      exact ⟨importWord, by simp, hspace (exists_of_match?_keyword hhead hfound)⟩
    · exact absurd rfl h

/-- A statement that imports something opens with a keyword and a space or a tab. -/
lemma Bare.opensWith {statement : List Char} (hbare : Bare statement)
    (h : statementTargets (collapse statement) ≠ []) :
    OpensWith ' ' statement ∨ OpensWith '\t' statement := by
  obtain ⟨keyword, hkeyword, rest, hcollapse⟩ := exists_of_statementTargets h
  have hink : keyword ≠ [] ∧ ∀ c ∈ keyword, isBlank c = false := by
    simp only [List.mem_cons, List.not_mem_nil, or_false] at hkeyword
    rcases hkeyword with rfl | rfl
    · exact ⟨by decide, fun c hc => isBlank_eq_false_of_isPlain (isPlain_of_mem_importWord c hc)⟩
    · exact ⟨by decide, fun c hc => isBlank_eq_false_of_isPlain (isPlain_of_mem_fromWord c hc)⟩
  obtain ⟨b, rest', hb, htrim⟩ := exists_trimStart_eq_append hink.1 hink.2 hcollapse
  have hopens : OpensWith b statement := ⟨keyword, hkeyword, rest', by simp [htrim]⟩
  have hmem : b ∈ statement := (List.dropWhile_sublist isBlank).subset (by
    rw [← trimStart, htrim]
    simp)
  rcases eq_space_or_tab (hbare b hmem).1 hb with rfl | rfl
  · exact .inl hopens
  · exact .inr hopens

/-! ### One line and several lines -/

section Files

variable {statements : List (List Char)} (hbare : ∀ statement ∈ statements, Bare statement)
  {final : List Char} (hfinal : final ∈ fileEnds) (path : String)

include hbare

lemma pieces_oneLine (hne : statements ≠ []) :
    pieces (· == ';') ([';'].intercalate statements) = statements := by
  rw [pieces_eq_splitOnP, ← List.splitOn_eq_splitOnP]
  exact List.splitOn_intercalate ';' (fun s hs hmem => (hbare s hs ';' hmem).2 rfl) hne

include hfinal

/-- On one line all statements are read, or none. -/
lemma imported_oneLine :
    imported (outline path ([';'].intercalate statements ++ final)).imports =
      if statements.any startsImport then statements.flatMap fun s => importedBy (collapse s)
      else [] := by
  have hinline : ∀ line ∈ [[';'].intercalate statements], ∀ c ∈ line, isInline c = true := by
    intro line hline c hc
    rw [List.mem_singleton.1 hline] at hc
    rcases eq_or_mem_of_mem_intercalate hc with rfl | ⟨s, hs, hmem⟩
    · decide
    · exact (hbare s hs c hmem).1
  have houtline := imported_outline hinline hfinal path
  rw [List.intercalate_singleton, List.flatMap_singleton] at houtline
  rw [houtline, importedOn, holdsImport]
  by_cases hne : statements = []
  · subst hne
    rfl
  · rw [pieces_oneLine hbare hne]

/-- On lines of their own, those statements are read that open with a keyword and a space. -/
lemma imported_onLines :
    imported (outline path (['\n'].intercalate statements ++ final)).imports =
      statements.flatMap fun s => if startsImport s then importedBy (collapse s) else [] := by
  rw [imported_outline (fun s hs c hc => (hbare s hs c hc).1) hfinal path]
  refine List.flatMap_congr fun s hs => ?_
  have hpieces : pieces (· == ';') s = [s] :=
    pieces_of_forall (beq_eq_false_of_not_mem fun hmem => (hbare s hs ';' hmem).2 rfl)
  rw [importedOn, holdsImport, hpieces, List.flatMap_singleton]
  simp

end Files

/-- Statements on one line, with semicolons between them, and the same statements on lines of their
own import the same, unless one opens with a keyword and a space and another one, which imports
something too, with a keyword and a tab. -/
theorem imported_semicolons {statements : List (List Char)}
    (hbare : ∀ statement ∈ statements, Bare statement) {final final' : List Char}
    (hfinal : final ∈ fileEnds) (hfinal' : final' ∈ fileEnds) (path : String) :
    imported (outline path ([';'].intercalate statements ++ final)).imports =
        imported (outline path (['\n'].intercalate statements ++ final')).imports ↔
      (∀ s ∈ statements, ¬ OpensWith ' ' s) ∨
        ∀ s ∈ statements, OpensWith '\t' s → statementTargets (collapse s) = [] := by
  have hnil : ∀ s, importedBy (collapse s) = [] ↔ statementTargets (collapse s) = [] :=
    fun s => List.map_eq_nil_iff
  rw [imported_oneLine hbare hfinal, imported_onLines hbare hfinal']
  by_cases hany : statements.any startsImport = true
  · rw [if_pos hany, flatMap_eq_flatMap_ite_iff]
    obtain ⟨opener, hopener, hopens⟩ := List.any_eq_true.1 hany
    constructor
    · -- a statement with a tab behind the keyword is passed over on its own line
      intro h
      refine .inr fun s hs htab => (hnil s).1 (h s hs (Bool.eq_false_iff.2 fun hstarts => ?_))
      cases htab.eq (startsImport_iff.1 hstarts)
    · rintro (hnone | htab) s hs hstarts
      · exact absurd (startsImport_iff.1 hopens) (hnone opener hopener)
      · rw [hnil]
        by_contra htargets
        rcases (hbare s hs).opensWith htargets with hspace | hopensTab
        · rw [startsImport_iff.2 hspace] at hstarts
          cases hstarts
        · exact htargets (htab s hs hopensTab)
  · -- nothing is looked at, neither on one line nor on several
    have hnone : ∀ s ∈ statements, ¬ startsImport s = true := by simpa using hany
    have hempty : (statements.flatMap fun s =>
        if startsImport s then importedBy (collapse s) else []) = [] :=
      List.flatMap_eq_nil_iff.2 fun s hs => if_neg (hnone s hs)
    rw [if_neg hany, hempty]
    exact iff_of_true rfl (.inl fun s hs hspace => hnone s hs (startsImport_iff.2 hspace))

/-- Four statements, the third of which has a tab behind its keyword but imports nothing. -/
def blankedStatements : List (List Char) :=
  ["import \t os".toList, "x = 1".toList, "from\tx".toList, "\tfrom . import\ta as b".toList]

theorem imported_semicolons_blanked :
    (∀ s ∈ blankedStatements, Bare s) ∧
      (∀ s ∈ blankedStatements, OpensWith '\t' s → statementTargets (collapse s) = []) ∧
      imported (outline "m.py" ([';'].intercalate blankedStatements)).imports =
        imported (outline "m.py" (['\n'].intercalate blankedStatements ++ ['\n'])).imports := by
  have hbare : ∀ s ∈ blankedStatements, Bare s := by decide
  have htab : ∀ s ∈ blankedStatements, OpensWith '\t' s → statementTargets (collapse s) = [] := by
    decide
  refine ⟨hbare, htab, ?_⟩
  have h := (imported_semicolons hbare (by decide : [] ∈ fileEnds) (by decide : ['\n'] ∈ fileEnds)
    "m.py").2 (.inr htab)
  rwa [List.append_nil] at h

/-- Behind a tab an import is found on a line with another one, but not on a line of its own. -/
theorem imported_semicolons_tab :
    imported (outline "m.py" "import sys;import\tos".toList).imports =
        [(.name "sys", "import sys"), (.name "os", "import os")] ∧
      imported (outline "m.py" "import sys\nimport\tos".toList).imports =
        [(.name "sys", "import sys")] := by
  have hbare : ∀ s ∈ ["import sys".toList, "import\tos".toList], Bare s := by decide
  have hone := imported_oneLine hbare (by decide : [] ∈ fileEnds) "m.py"
  have hlines := imported_onLines hbare (by decide : [] ∈ fileEnds) "m.py"
  exact ⟨hone.trans (by decide), hlines.trans (by decide)⟩

end Strata.Language.Python
