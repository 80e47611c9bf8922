import Strata.Proofs.Language.BlankLines

/-!
# Blank lines put between others

Blank lines put somewhere between the lines of a masked source change nothing of what is read from
it but the numbers of the lines behind them.  Imports and exports that are found line by line are
treated alike; a Python import may run over several lines, and then the blank lines may also stand
inside of it, as long as no backslash joins them to the line before.
-/

namespace Strata

open Strata.Text

/-! ### Numbered lines -/

/-- The number of a line after `count` lines were put in before the one with the number `first`. -/
def moveLine (first count line : Nat) : Nat :=
  if line < first then line else line + count

lemma moveLine_of_lt {first line : Nat} (h : line < first) (count : Nat) :
    moveLine first count line = line :=
  if_pos h

lemma moveLine_of_le {first line : Nat} (h : first ≤ line) (count : Nat) :
    moveLine first count line = line + count :=
  if_neg (Nat.not_lt.2 h)

/-- An import whose line has another number. -/
def Import.moved (move : Nat → Nat) (entry : Import) : Import :=
  { entry with line := move entry.line }

/-- An export whose line has another number. -/
def Export.moved (move : Nat → Nat) (entry : Export) : Export :=
  { entry with line := move entry.line }

section Numbered

variable {α β : Type}

lemma numberFrom_append (first : Nat) (xs ys : List α) :
    numberFrom first (xs ++ ys) = numberFrom first xs ++ numberFrom (first + xs.length) ys := by
  induction xs generalizing first with
  | nil => rfl
  | cons x xs ih =>
    rw [List.cons_append, numberFrom, numberFrom, ih, List.length_cons, List.cons_append,
      Nat.add_right_comm, Nat.add_assoc]

lemma map_snd_numberFrom (first : Nat) (xs : List α) :
    (numberFrom first xs).map Prod.snd = xs := by
  induction xs generalizing first with
  | nil => rfl
  | cons x xs ih => rw [numberFrom, List.map_cons, ih]

lemma numberFrom_add (first count : Nat) (xs : List α) :
    numberFrom (first + count) xs = (numberFrom first xs).map fun p => (p.1 + count, p.2) := by
  induction xs generalizing first with
  | nil => rfl
  | cons x xs ih => rw [numberFrom, numberFrom, List.map_cons, ← ih, Nat.add_right_comm]

lemma le_of_mem_numberFrom {first : Nat} {xs : List α} {p : Nat × α}
    (h : p ∈ numberFrom first xs) : first ≤ p.1 ∧ p.1 < first + xs.length := by
  induction xs generalizing first with
  | nil => cases h
  | cons x xs ih =>
    rw [List.length_cons]
    rcases List.mem_cons.1 h with rfl | h
    · exact ⟨Nat.le_refl _, by omega⟩
    · have := ih h
      omega

lemma mem_of_mem_numberFrom {first : Nat} {xs : List α} {p : Nat × α}
    (h : p ∈ numberFrom first xs) : p.2 ∈ xs := by
  induction xs generalizing first with
  | nil => cases h
  | cons x xs ih =>
    rcases List.mem_cons.1 h with rfl | h
    · exact List.mem_cons_self
    · exact List.mem_cons_of_mem _ (ih h)

/-- What is found line by line moves with the lines, if nothing is found in those that are put
in. -/
lemma filterMap_numberFrom_insert (find : Nat → α → Option β) {moved : (Nat → Nat) → β → β}
    (hmoved : ∀ move number x, (find number x).map (moved move) = find (move number) x)
    {before inserted after : List α} (hinserted : ∀ x ∈ inserted, ∀ number, find number x = none) :
    ((numberFrom 1 (before ++ inserted ++ after)).filterMap fun p => find p.1 p.2) =
      ((numberFrom 1 (before ++ after)).filterMap fun p => find p.1 p.2).map
        (moved (moveLine (before.length + 1) inserted.length)) := by
  have hnone : ((numberFrom (1 + before.length) inserted).filterMap fun p => find p.1 p.2) = [] :=
    List.filterMap_eq_nil_iff.2 fun p hp => hinserted p.2 (mem_of_mem_numberFrom hp) p.1
  rw [numberFrom_append, numberFrom_append, numberFrom_append, List.filterMap_append,
    List.filterMap_append, List.filterMap_append, hnone, List.append_nil, List.map_append,
    List.map_filterMap, List.map_filterMap]
  congr 1
  · refine List.filterMap_congr fun p hp => ?_
    rw [hmoved, moveLine_of_lt (by have := le_of_mem_numberFrom hp; omega)]
  · rw [List.length_append, ← Nat.add_assoc, numberFrom_add, List.filterMap_map]
    refine List.filterMap_congr fun p hp => ?_
    rw [hmoved, moveLine_of_le (by have := le_of_mem_numberFrom hp; omega)]
    rfl

end Numbered

/-! ### Exported names -/

lemma distinctExports_moved (move : Nat → Nat) (entries : List Export) :
    distinctExports (entries.map (Export.moved move)) =
      (distinctExports entries).map (Export.moved move) := by
  have hadd : ∀ (known : List Export) (entry : Export),
      addExport (known.map (Export.moved move)) (entry.moved move) =
        (addExport known entry).map (Export.moved move) := by
    intro known entry
    have hany : ((known.map (Export.moved move)).any fun e => e.name == (entry.moved move).name) =
        known.any fun e => e.name == entry.name := by
      rw [List.any_map]
      rfl
    rw [addExport, addExport, hany]
    split
    · rfl
    · rw [List.map_append]
      rfl
  have hfold : ∀ known : List Export,
      (entries.map (Export.moved move)).foldl addExport (known.map (Export.moved move)) =
        (entries.foldl addExport known).map (Export.moved move) := by
    induction entries with
    | nil => exact fun known => rfl
    | cons entry entries ih =>
      intro known
      rw [List.map_cons, List.foldl_cons, List.foldl_cons, hadd, ih]
  exact hfold []

namespace Language

/-- Each line together with the depth at which it starts, where `step` says how a character changes
the depth. -/
def withDepths (step : Nat → Char → Nat) : (depth : Nat) → List (List Char) → List (List Char × Nat)
  | _, [] => []
  | depth, line :: rest => (line, depth) :: withDepths step (line.foldl step depth) rest

/-- The depth after some lines. -/
def depthAfter (step : Nat → Char → Nat) (depth : Nat) (lines : List (List Char)) : Nat :=
  lines.foldl (fun depth line => line.foldl step depth) depth

/-- The name that a line makes public if it starts at depth zero. -/
def exportAt? (name? : List Char → Option String) (number : Nat) (line : List Char × Nat) :
    Option Export :=
  if line.2 = 0 then (name? line.1).map fun name => { name, line := number } else none

/-- The names that lines at depth zero make public, if the first of them has the number `number`
and starts at a depth. -/
def topLevel (step : Nat → Char → Nat) (name? : List Char → Option String) (number depth : Nat)
    (lines : List (List Char)) : List Export :=
  (numberFrom number (withDepths step depth lines)).filterMap fun p => exportAt? name? p.1 p.2

variable {step : Nat → Char → Nat} {before inserted after : List (List Char)}

lemma withDepths_append (depth : Nat) (xs ys : List (List Char)) :
    withDepths step depth (xs ++ ys) =
      withDepths step depth xs ++ withDepths step (depthAfter step depth xs) ys := by
  induction xs generalizing depth with
  | nil => rfl
  | cons x xs ih =>
    rw [List.cons_append, withDepths, ih]
    rfl

lemma length_withDepths (step : Nat → Char → Nat) (depth : Nat) (lines : List (List Char)) :
    (withDepths step depth lines).length = lines.length := by
  induction lines generalizing depth with
  | nil => rfl
  | cons line rest ih => rw [withDepths, List.length_cons, List.length_cons, ih]

lemma mem_of_mem_withDepths {depth : Nat} {lines : List (List Char)} {p : List Char × Nat}
    (h : p ∈ withDepths step depth lines) : p.1 ∈ lines := by
  induction lines generalizing depth with
  | nil => cases h
  | cons line rest ih =>
    rcases List.mem_cons.1 h with rfl | h
    · exact List.mem_cons_self
    · exact List.mem_cons_of_mem _ (ih h)

lemma depthAfter_blank (hstep : ∀ depth c, isBlank c = true → step depth c = depth)
    (hinserted : ∀ line ∈ inserted, Blank line) (depth : Nat) :
    depthAfter step depth inserted = depth := by
  induction inserted with
  | nil => rfl
  | cons line rest ih =>
    rw [depthAfter, List.foldl_cons, (hinserted line List.mem_cons_self).foldl_eq hstep]
    exact ih fun line hline => hinserted line (List.mem_cons_of_mem _ hline)

/-- Blank lines move the public names behind them. -/
lemma topLevel_insert (hstep : ∀ depth c, isBlank c = true → step depth c = depth)
    {name? : List Char → Option String} (hname : ∀ line, Blank line → name? line = none)
    (hinserted : ∀ line ∈ inserted, Blank line) :
    topLevel step name? 1 0 (before ++ inserted ++ after) =
      (topLevel step name? 1 0 (before ++ after)).map
        (Export.moved (moveLine (before.length + 1) inserted.length)) := by
  unfold topLevel
  rw [List.append_assoc, withDepths_append, withDepths_append, withDepths_append,
    depthAfter_blank hstep hinserted, ← List.append_assoc, ← length_withDepths step 0 before,
    ← length_withDepths step (depthAfter step 0 before) inserted]
  refine filterMap_numberFrom_insert (exportAt? name?) ?_ ?_
  · intro move number p
    unfold exportAt?
    split
    · rw [Option.map_map]
      rfl
    · rfl
  · intro p hp number
    rw [exportAt?, hname p.1 (hinserted p.1 (mem_of_mem_withDepths hp)), Option.map_none, ite_self]

lemma zip_braceDepthsFrom (depth : Nat) (lines : List (List Char)) :
    lines.zip (Masking.braceDepthsFrom depth lines) = withDepths Masking.braceStep depth lines := by
  induction lines generalizing depth with
  | nil => rfl
  | cons line rest ih => rw [Masking.braceDepthsFrom, List.zip_cons_cons, ih, withDepths]

lemma Kotlin.exportsOf_eq (lines : List (List Char)) :
    Kotlin.exportsOf lines = topLevel Masking.braceStep Kotlin.exportOf? 1 0 lines := by
  rw [Kotlin.exportsOf, Masking.braceDepths, zip_braceDepthsFrom]
  rfl

lemma Swift.exportsOf_eq (lines : List (List Char)) :
    Swift.exportsOf lines = topLevel Masking.braceStep Swift.exportOf? 1 0 lines := by
  rw [Swift.exportsOf, Masking.braceDepths, zip_braceDepthsFrom]
  rfl

lemma Python.exportsFrom_eq (number depth : Nat) (lines : List (List Char)) :
    Python.exportsFrom number depth lines =
      topLevel Python.bracketStep Python.exportedName? number depth lines := by
  induction lines generalizing number depth with
  | nil => rfl
  | cons line rest ih =>
    have hhere : (if depth = 0 then Python.exportedName? line else none).map
          (fun name => ({ name, line := number } : Export)) =
        exportAt? Python.exportedName? number (line, depth) := by
      unfold exportAt?
      split <;> rfl
    rw [Python.exportsFrom, ih, hhere, topLevel, topLevel, withDepths, numberFrom,
      List.filterMap_cons]
    cases exportAt? Python.exportedName? number (line, depth) <;> rfl

/-! ### Python imports -/

namespace Python

lemma statementImports_moved (move : Nat → Nat) (line : Nat) (statement : List Char) :
    (statementImports line statement).map (Import.moved move) =
      statementImports (move line) statement := by
  rw [statementImports, statementImports, List.map_map]
  rfl

/-- The imports of lines that have other numbers. -/
lemma imports_add {move : Nat → Nat} {line : Nat} (count : Nat)
    (hmove : ∀ number, line ≤ number → move number = number + count) (lines : List (List Char)) :
    imports (line + count) lines = (imports line lines).map (Import.moved move) := by
  fun_induction imports line lines with
  | case1 line => rw [imports, List.map_nil]
  | case2 line first rest hfirst found ih =>
    rw [imports, if_pos hfirst, List.map_append, List.map_flatMap]
    simp only [statementImports_moved, hmove line (Nat.le_refl line)]
    rw [← ih fun number h => hmove number (by omega)]
    have hfound : found = gather [] 0 (first :: rest) := rfl
    rw [← hfound]
    congr 2
    omega
  | case3 line first rest hfirst ih =>
    rw [imports, if_neg hfirst, ← ih fun number h => hmove number (by omega), Nat.add_right_comm]

lemma extend_nil (statement : List Char) : extend statement [] = statement := by
  simp [extend]

/-- Blank lines between open brackets add nothing to a statement. -/
lemma gather_blank (hinserted : ∀ line ∈ inserted, Blank line) (sofar : List Char) {depth : Nat}
    (hdepth : 0 < depth) (after : List (List Char)) :
    gather sofar depth (inserted ++ after) =
      ((gather sofar depth after).1, (gather sofar depth after).2 + inserted.length) := by
  induction inserted with
  | nil => rfl
  | cons line rest ih =>
    have hline := hinserted line List.mem_cons_self
    have hrest := ih fun line hline => hinserted line (List.mem_cons_of_mem _ hline)
    have hgoes : goesOn depth line = true := by simp [goesOn, hdepth]
    have htrim : bracketDepth depth (trim line) = depth := by
      rw [hline.trim_eq]
      rfl
    simp only [List.cons_append, gather, linePart_blank hline, extend_nil, htrim, hgoes, if_true,
      hrest, List.length_cons]
    rfl

/-- No backslash joins the last of some lines to what follows. -/
def Unjoined (lines : List (List Char)) : Prop :=
  ∀ line ∈ lines.getLast?, (trim line).getLast? ≠ some '\\'

instance (lines : List (List Char)) : Decidable (Unjoined lines) :=
  inferInstanceAs (Decidable (∀ line ∈ lines.getLast?, (trim line).getLast? ≠ some '\\'))

lemma Unjoined.of_suffix {xs ys : List (List Char)} (h : Unjoined ys) (hsuffix : xs <:+ ys) :
    Unjoined xs := by
  obtain ⟨start, rfl⟩ := hsuffix
  intro line hline
  exact h line (by rw [List.getLast?_append, Option.mem_def.1 hline]; rfl)

/-- A statement that begins in some lines either ends in them, whatever follows, or goes on after
them with a bracket open, if no backslash joins the last of them to what follows. -/
lemma gather_append {before : List (List Char)} (hbefore : Unjoined before) {depth : Nat}
    (hdepth : before = [] → 0 < depth) (sofar : List Char) :
    (∃ statement count, 0 < count ∧ count ≤ before.length ∧
      ∀ after, gather sofar depth (before ++ after) = (statement, count)) ∨
    (∃ statement depth', 0 < depth' ∧ ∀ after, gather sofar depth (before ++ after) =
      ((gather statement depth' after).1, (gather statement depth' after).2 + before.length)) := by
  induction before generalizing sofar depth with
  | nil => exact .inr ⟨sofar, depth, hdepth rfl, fun after => rfl⟩
  | cons line rest ih =>
    by_cases hgoes : goesOn (bracketDepth depth (trim line)) line = true
    · -- behind the last line only an open bracket lets the statement go on
      have hrest : rest = [] → 0 < bracketDepth depth (trim line) := by
        intro hnil
        have hend := hbefore line (by rw [hnil]; rfl)
        simpa [goesOn, hend] using hgoes
      have hsuffix := hbefore.of_suffix (List.suffix_cons line rest)
      rcases ih hsuffix hrest (extend sofar (linePart line)) with
        ⟨statement, count, hpos, hle, hgather⟩ | ⟨statement, depth', hpos, hgather⟩
      · refine .inl ⟨statement, count + 1, Nat.succ_pos _, Nat.succ_le_succ hle, fun after => ?_⟩
        rw [List.cons_append, gather]
        simp only [hgoes, if_true, hgather]
      · refine .inr ⟨statement, depth', hpos, fun after => ?_⟩
        rw [List.cons_append, gather]
        simp only [hgoes, if_true, hgather, List.length_cons]
        rfl
    · refine .inl ⟨extend sofar (linePart line), 1, Nat.one_pos, by simp, fun after => ?_⟩
      rw [List.cons_append, gather]
      simp only [hgoes, Bool.false_eq_true, if_false]

/-- Lines on which no import begins are passed over. -/
lemma imports_skip {skipped : List (List Char)} (h : ∀ line ∈ skipped, holdsImport line = false)
    (line : Nat) (after : List (List Char)) :
    imports line (skipped ++ after) = imports (line + skipped.length) after := by
  induction skipped generalizing line with
  | nil => rfl
  | cons first rest ih =>
    have hfirst := h first List.mem_cons_self
    rw [List.cons_append, imports, if_neg (Bool.eq_false_iff.1 hfirst),
      ih fun line hline => h line (List.mem_cons_of_mem _ hline), List.length_cons,
      Nat.add_right_comm, Nat.add_assoc]

lemma imports_blank (hinserted : ∀ line ∈ inserted, Blank line) (line : Nat)
    (after : List (List Char)) :
    imports line (inserted ++ after) = imports (line + inserted.length) after :=
  imports_skip (fun first hfirst => holdsImport_blank (hinserted first hfirst)) line after

/-- The imports of a statement, and those of the lines behind it. -/
lemma imports_of_gather {first statement : List Char} {rest : List (List Char)} {count : Nat}
    (hfirst : holdsImport first = true) (h : gather [] 0 (first :: rest) = (statement, count))
    (line : Nat) :
    imports line (first :: rest) =
      (statements (flatten statement)).flatMap (statementImports line) ++
        imports (line + (count - 1) + 1) (rest.drop (count - 1)) := by
  rw [imports, if_pos hfirst]
  simp only [h]

/-- An import that is open where blank lines stand is read over them. -/
lemma imports_insert_open (hinserted : ∀ line ∈ inserted, Blank line)
    {first statement : List Char} {rest : List (List Char)} {depth : Nat}
    (hfirst : holdsImport first = true) (hdepth : 0 < depth)
    (h : ∀ after, gather [] 0 (first :: rest ++ after) =
      ((gather statement depth after).1, (gather statement depth after).2 + (rest.length + 1)))
    (line : Nat) :
    imports line (first :: rest ++ inserted ++ after) =
      (imports line (first :: rest ++ after)).map
        (Import.moved (moveLine (line + (rest.length + 1)) inserted.length)) := by
  have hwith := h (inserted ++ after)
  have hwithout := h after
  rw [gather_blank hinserted statement hdepth, ← List.append_assoc] at hwith
  generalize gather statement depth after = found at hwith hwithout
  -- both readings go on at the same line of `after`
  have hdrop : (rest ++ inserted ++ after).drop
      (found.2 + inserted.length + (rest.length + 1) - 1) = after.drop found.2 := by
    rw [← List.drop_length_add_append found.2, List.length_append]
    congr 1
    omega
  have hdrop' : (rest ++ after).drop (found.2 + (rest.length + 1) - 1) = after.drop found.2 := by
    rw [← List.drop_length_add_append found.2]
    congr 1
    omega
  have hline : moveLine (line + (rest.length + 1)) inserted.length line = line :=
    moveLine_of_lt (by omega) _
  have hmove : ∀ number, line + (found.2 + (rest.length + 1) - 1) + 1 ≤ number →
      moveLine (line + (rest.length + 1)) inserted.length number = number + inserted.length :=
    fun number h => moveLine_of_le (by omega) _
  have hbehind : line + (found.2 + inserted.length + (rest.length + 1) - 1) + 1 =
      line + (found.2 + (rest.length + 1) - 1) + 1 + inserted.length := by
    omega
  simp only [List.cons_append] at hwith hwithout ⊢
  rw [imports_of_gather hfirst hwith, imports_of_gather hfirst hwithout, hdrop, hdrop',
    List.map_append, List.map_flatMap, hbehind]
  simp only [statementImports_moved, hline]
  rw [imports_add inserted.length hmove]

/-- Blank lines move the imports behind them, and change none that they stand in. -/
lemma imports_insert (hinserted : ∀ line ∈ inserted, Blank line) (hbefore : Unjoined before)
    (line : Nat) :
    imports line (before ++ inserted ++ after) =
      (imports line (before ++ after)).map
        (Import.moved (moveLine (line + before.length) inserted.length)) := by
  -- a statement may take several lines, so the induction is on the number of lines before
  induction hn : before.length using Nat.strong_induction_on generalizing before line with
  | _ n ih =>
    cases before with
    | nil =>
      subst hn
      exact (imports_blank hinserted line after).trans
        (imports_add _ (fun number h => moveLine_of_le h _) after)
    | cons first rest =>
      rw [List.length_cons] at hn
      have hline : moveLine (line + n) inserted.length line = line := moveLine_of_lt (by omega) _
      -- the lines of `rest` from a place on, with the number of the first of them
      have hrec : ∀ count ≤ rest.length,
          imports (line + count + 1) ((rest ++ inserted ++ after).drop count) =
            (imports (line + count + 1) ((rest ++ after).drop count)).map
              (Import.moved (moveLine (line + n) inserted.length)) := by
        intro count hcount
        have hsuffix : rest.drop count <:+ first :: rest :=
          (List.drop_suffix count rest).trans (List.suffix_cons first rest)
        have hrest := ih (rest.drop count).length (by rw [List.length_drop]; omega)
          (hbefore.of_suffix hsuffix) (line + count + 1) rfl
        have hfirst : line + count + 1 + (rest.drop count).length = line + n := by
          rw [List.length_drop]
          omega
        rw [hfirst] at hrest
        rw [List.append_assoc, List.drop_append_of_le_length hcount,
          List.drop_append_of_le_length hcount, ← List.append_assoc]
        exact hrest
      by_cases hfirst : holdsImport first = true
      · rcases gather_append hbefore (by simp) [] with
          ⟨statement, count, hpos, hle, hgather⟩ | ⟨statement, depth, hdepth, hgather⟩
        · -- the statement ends before the blank lines
          have hwith := hgather (inserted ++ after)
          have hwithout := hgather after
          rw [← List.append_assoc] at hwith
          rw [List.length_cons] at hle
          simp only [List.cons_append] at hwith hwithout ⊢
          rw [imports_of_gather hfirst hwith, imports_of_gather hfirst hwithout, List.map_append,
            List.map_flatMap, hrec (count - 1) (by omega)]
          simp only [statementImports_moved, hline]
        · -- the statement is open where the blank lines stand
          subst hn
          exact imports_insert_open hinserted hfirst hdepth hgather line
      · rw [List.cons_append, List.cons_append, List.cons_append, imports, imports,
          if_neg hfirst, if_neg hfirst]
        exact hrec 0 (Nat.zero_le _)

end Python

end Language

end Strata
