import Strata.Proofs.Language.InsertedLines
import Strata.Proofs.Text.Words

/-!
# Statements over several lines

A statement that is open at the end of a line, by a bracket or by a backslash, is put together from
several lines.  Of a statement only its words count, where round brackets are blanks (`phrase`): the
words of the statement are those of its lines, one line after another, and the backslashes at their
ends are no words.
-/

namespace Strata.Language.Python

open Strata.Text

/-! ### Words without brackets -/

/-- A round bracket counts as a space. -/
def unbracket (c : Char) : Char := if c == '(' || c == ')' then ' ' else c

/-- The words of a statement, without its round brackets. -/
def phrase (statement : List Char) : List (List Char) := words (statement.map unbracket)

lemma flatten_eq (statement : List Char) :
    flatten statement = [' '].intercalate (phrase statement) := rfl

lemma isBlank_unbracket {c : Char} (hc : isBlank c = true) : isBlank (unbracket c) = true := by
  unfold unbracket
  split
  · decide
  · exact hc

lemma blank_map_unbracket {text : List Char} (h : Blank text) : Blank (text.map unbracket) := by
  intro c hc
  obtain ⟨a, ha, rfl⟩ := List.mem_map.1 hc
  exact isBlank_unbracket (h a ha)

/-- A text without brackets is left as it is. -/
lemma map_unbracket_of_not_mem {text : List Char} (h : ∀ c ∈ text, c ∉ joints) :
    text.map unbracket = text := by
  have hsame : ∀ c ∈ text, unbracket c = id c := by
    intro c hc
    have hno := h c hc
    simp only [joints, List.mem_cons, not_or] at hno
    simp [unbracket, hno]
  rw [List.map_congr_left hsame, List.map_id]

lemma phrase_append_cons {c : Char} (hc : isBlank c = true) (u v : List Char) :
    phrase (u ++ c :: v) = phrase u ++ phrase v := by
  rw [phrase, List.map_append, List.map_cons, words_append_cons (isBlank_unbracket hc)]
  rfl

lemma phrase_append_blank (u : List Char) {v : List Char} (hv : Blank v) :
    phrase (u ++ v) = phrase u := by
  rw [phrase, List.map_append, words_append_blank _ (blank_map_unbracket hv)]
  rfl

lemma phrase_blank_append {u : List Char} (hu : Blank u) (v : List Char) :
    phrase (u ++ v) = phrase v := by
  rw [phrase, List.map_append, words_blank_append (blank_map_unbracket hu)]
  rfl

lemma phrase_trimStart (text : List Char) : phrase (trimStart text) = phrase text := by
  have hblank : Blank (text.takeWhile isBlank) := fun c hc => List.mem_takeWhile_imp hc
  rw [← phrase_blank_append hblank (trimStart text), trimStart, List.takeWhile_append_dropWhile]

lemma phrase_trim (text : List Char) : phrase (trim text) = phrase text := by
  obtain ⟨before, after, hbefore, hafter, htext⟩ := exists_eq_append_trim text
  calc phrase (trim text)
      = phrase (trim text ++ after) := (phrase_append_blank _ hafter).symm
    _ = phrase (before ++ (trim text ++ after)) := (phrase_blank_append hbefore _).symm
    _ = phrase text := by rw [← htext]

/-- A part adds its words to a statement. -/
lemma phrase_extend (statement part : List Char) :
    phrase (extend statement part) = phrase statement ++ phrase part := by
  unfold extend
  split
  · rename_i hempty
    rcases Bool.or_eq_true_iff.1 hempty with h | h <;> rw [List.isEmpty_iff] at h <;> subst h
    · rfl
    · rw [List.append_nil]
      exact (List.append_nil _).symm
  · exact phrase_append_cons (by decide) statement part

/-! ### Lines -/

/-- The line ends for one text as for the other. -/
lemma linePart_congr {first line : List Char} (h : trim first = trim line) :
    linePart first = linePart line := by
  rw [linePart, h, linePart]

lemma dropEndWhile_eq_self {text : List Char} (h : '\\' ∉ text) :
    dropEndWhile (· == '\\') text = text := by
  have hdrop : text.reverse.dropWhile (· == '\\') = text.reverse := by
    refine List.dropWhile_eq_self_iff.2 fun hlength hlast => h ?_
    rw [beq_iff_eq] at hlast
    rw [← List.mem_reverse, ← hlast]
    exact List.getElem_mem hlength
  rw [dropEndWhile, hdrop, List.reverse_reverse]

/-- A line without a backslash adds its words. -/
lemma phrase_linePart {line : List Char} (h : '\\' ∉ line) :
    phrase (linePart line) = phrase line := by
  have hfree : '\\' ∉ trim line := fun hmem => h (trim_subset line hmem)
  rw [linePart, dropEndWhile_eq_self hfree, phrase_trim, phrase_trim]

/-- The backslash at the end of a line adds nothing. -/
lemma phrase_linePart_backslash {line : List Char} (h : '\\' ∉ line) :
    phrase (linePart (line ++ ['\\'])) = phrase line := by
  have hfree : '\\' ∉ trimStart line := fun hmem => h ((List.dropWhile_sublist _).subset hmem)
  have hdrop : dropEndWhile (· == '\\') (trimStart line ++ ['\\']) = trimStart line := by
    rw [dropEndWhile, List.reverse_append, List.reverse_singleton, List.singleton_append,
      List.dropWhile_cons_of_pos (by decide)]
    exact dropEndWhile_eq_self hfree
  rw [linePart, trim_concat line (by decide), hdrop, phrase_trim, phrase_trimStart]

lemma bracketDepth_append (depth : Nat) (u v : List Char) :
    bracketDepth depth (u ++ v) = bracketDepth (bracketDepth depth u) v :=
  List.foldl_append

/-- A text without brackets keeps the depth. -/
lemma bracketDepth_of_not_mem (depth : Nat) {text : List Char} (h : ∀ c ∈ text, c ∉ joints) :
    bracketDepth depth text = depth := by
  induction text with
  | nil => rfl
  | cons c text ih =>
    obtain ⟨hc, htext⟩ := List.forall_mem_cons.1 h
    rw [bracketDepth, List.foldl_cons, bracketStep_of_not_mem depth hc]
    exact ih htext

lemma bracketDepth_blank (depth : Nat) {text : List Char} (h : Blank text) :
    bracketDepth depth text = depth :=
  bracketDepth_of_not_mem depth fun c hc => not_mem_joints_of_isBlank (h c hc)

lemma bracketDepth_trim (depth : Nat) (line : List Char) :
    bracketDepth depth (trim line) = bracketDepth depth line := by
  obtain ⟨before, after, hbefore, hafter, hline⟩ := exists_eq_append_trim line
  nth_rewrite 2 [hline]
  rw [bracketDepth_append, bracketDepth_append, bracketDepth_blank depth hbefore,
    bracketDepth_blank _ hafter]

/-- A line that leaves the statement open; how it ends besides does not matter. -/
lemma gather_cons {first line : List Char} (hfirst : trim first = trim line) {depth : Nat}
    (hopen : 0 < bracketDepth depth line ∨ (trim line).getLast? = some '\\') (sofar : List Char)
    (rest : List (List Char)) :
    gather sofar depth (first :: rest) =
      ((gather (extend sofar (linePart line)) (bracketDepth depth line) rest).1,
        (gather (extend sofar (linePart line)) (bracketDepth depth line) rest).2 + 1) := by
  have hgoes : goesOn (bracketDepth depth line) first = true := by
    rw [goesOn, hfirst, Bool.or_eq_true, decide_eq_true_eq, beq_iff_eq]
    exact hopen
  rw [gather, hfirst, bracketDepth_trim, linePart_congr hfirst, if_pos hgoes]

/-- The last line of a statement. -/
lemma gather_last {line : List Char} {depth : Nat} (hclosed : bracketDepth depth line = 0)
    (hline : '\\' ∉ line) (sofar : List Char) (rest : List (List Char)) :
    gather sofar depth (line :: rest) = (extend sofar (linePart line), 1) := by
  have hlast : (trim line).getLast? ≠ some '\\' :=
    fun h => hline (trim_subset line (List.mem_of_getLast? h))
  have hgoes : goesOn (bracketDepth depth line) line = false := by
    rw [goesOn, hclosed]
    simpa using hlast
  rw [gather, bracketDepth_trim, hgoes]
  rfl

/-- A carriage return before the line feed is trimmed with the line. -/
lemma exists_lines_eq {line ending : List Char} (hline : '\n' ∉ line) (hending : ending ∈ lineEnds)
    (rest : List Char) :
    ∃ first, lines (line ++ (ending ++ rest)) = first :: lines rest ∧ trim first = trim line := by
  simp only [lineEnds, List.mem_cons, List.not_mem_nil, or_false] at hending
  rcases hending with rfl | rfl
  · refine ⟨dropReturn line, lines_append_newline hline rest, ?_⟩
    by_cases hlast : line.getLast? = some '\r'
    · obtain ⟨start, rfl⟩ := List.getLast?_eq_some_iff.1 hlast
      rw [dropReturn_concat, trim_append_blank start (List.forall_mem_singleton.2 (by decide))]
    · rw [dropReturn_eq_self hlast]
  · have hline' : '\n' ∉ line ++ ['\r'] := by simp [hline]
    have htext : line ++ (['\r', '\n'] ++ rest) = (line ++ ['\r']) ++ '\n' :: rest := by simp
    exact ⟨line, by rw [htext, lines_append_newline hline', dropReturn_concat], rfl⟩

/-- A statement that is open at a line end goes on behind it. -/
lemma gather_break {line ending : List Char} (hline : '\n' ∉ line) (hending : ending ∈ lineEnds)
    {depth : Nat} (hopen : 0 < bracketDepth depth line ∨ (trim line).getLast? = some '\\')
    {sofar rest statement : List Char} {after : List (List Char)}
    (hrest : gather (extend sofar (linePart line)) (bracketDepth depth line)
      (lines rest ++ after) = (statement, (lines rest).length)) :
    gather sofar depth (lines (line ++ (ending ++ rest)) ++ after) =
      (statement, (lines (line ++ (ending ++ rest))).length) := by
  obtain ⟨first, hlines, hfirst⟩ := exists_lines_eq hline hending rest
  rw [hlines, List.cons_append, gather_cons hfirst hopen, hrest, List.length_cons]

end Strata.Language.Python
