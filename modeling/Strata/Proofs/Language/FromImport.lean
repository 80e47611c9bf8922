import Strata.Proofs.Language.BlankLines
import Strata.Proofs.Pattern.Preferred
import Strata.Proofs.Text.Words

/-!
# Reading a `from` import

A `from` import names a module, by dots and by a dotted name, and a list of names with optional
aliases (`FromImport`).  Written on one line with a space between its parts, it is read as the
statement it is, whatever stands between the items of the list (`statementTargets_from`).

The pattern for such statements also tries to read what follows the dots as a dotted name.  For a
module that is dots only this is the word `import`, and the attempt fails because the list of names
does not start with this word again: it is reserved and no identifier.
-/

namespace Strata.Language.Python

open Strata.Text

/-! ### Characters of names -/

/-- Whether a character can stand in a dotted name. -/
def isPlain (c : Char) : Bool := isWord c || c == '.'

lemma isPlain_of_isWord {c : Char} (hc : isWord c = true) : isPlain c = true := by
  rw [isPlain, hc, Bool.true_or]

lemma isBlank_eq_false_of_isPlain {c : Char} (hc : isPlain c = true) : isBlank c = false := by
  rw [Bool.eq_false_iff]
  intro hblank
  rcases Bool.or_eq_true_iff.1 hc with hword | hdot
  · rw [isWord_eq_false_of_isBlank hblank] at hword
    cases hword
  · rw [beq_iff_eq.1 hdot] at hblank
    cases hblank

lemma isPlain_eq_false_of_isBlank {c : Char} (hc : isBlank c = true) : isPlain c = false := by
  rw [Bool.eq_false_iff]
  intro hplain
  rw [isBlank_eq_false_of_isPlain hplain] at hc
  cases hc

lemma not_mem_joints_of_isPlain {c : Char} (hc : isPlain c = true) : c ∉ joints :=
  not_mem_of_class hc (by decide)

/-! ### Statements -/

/-- The word before the module. -/
def fromWord : List Char := ['f', 'r', 'o', 'm']

/-- The word between the module and the names. -/
def importWord : List Char := ['i', 'm', 'p', 'o', 'r', 't']

lemma isPlain_of_mem_fromWord : ∀ c ∈ fromWord, isPlain c = true := List.all_eq_true.1 (by decide)

lemma isPlain_of_mem_importWord : ∀ c ∈ importWord, isPlain c = true :=
  List.all_eq_true.1 (by decide)

/-- An identifier: word characters, but not the reserved word `import`. -/
structure Identifier where
  /-- The characters of the identifier. -/
  text : List Char
  ne_nil : text ≠ []
  isWord_of_mem : ∀ c ∈ text, isWord c = true
  ne_import : text ≠ importWord

/-- A `from` import. -/
structure FromImport where
  /-- The number of dots before the name of the module. -/
  level : Nat
  /-- The identifiers of the dotted name of the module. -/
  module : List Identifier
  /-- The imported names, each with its alias if it has one. -/
  names : List (Identifier × Option Identifier)
  reaches : 0 < level ∨ module ≠ []
  names_ne_nil : names ≠ []

/-- The dotted name that some identifiers make. -/
def dottedName (ids : List Identifier) : String :=
  joinWith "." (ids.map fun id => String.ofList id.text)

namespace FromImport

/-- The module as it is written. -/
def moduleText (statement : FromImport) : List Char :=
  List.replicate statement.level '.' ++ (dottedName statement.module).toList

/-- What the statement refers to, name by name. -/
def targets (statement : FromImport) : List Target :=
  statement.names.map fun entry =>
    let name := dottedName (statement.module ++ [entry.1])
    if 0 < statement.level then .relative statement.level name false else .name name

end FromImport

/-! ### The pattern -/

/-- What the pattern of a `from` import asks for behind the dots and the blanks after them. -/
def behindDots : Pattern :=
  .chain [.capture 2 (.many (.one (.word ['.']))), .blanks1, .text "import", .blanks1,
    .capture 3 (.some1 (.one .any)), .atEnd]

lemma fromImport_eq : fromImport = .keyworded "from"
    (.seq (.capture 1 (.many (.one (.lit '.')))) (.seq .blanks behindDots)) := rfl

lemma behindDots_eq : behindDots =
    .seq (.capture 2 (.many (.one (.word ['.'])))) (.seq .blanks1 (.seq (.text "import")
      (.seq .blanks1 (.seq (.capture 3 (.some1 (.one .any))) .atEnd)))) := rfl

lemma contains_word_dot (c : Char) : (CharClass.word ['.']).contains c = isPlain c := by
  rw [Bool.eq_iff_iff]
  simp [CharClass.contains, isPlain]

/-- The list of names, as far as reading it depends on it: it is not empty, lies on one line, does
not start with a blank, and does not start with the word `import`. -/
structure IsNameList (list : List Char) : Prop where
  ne_nil : list ≠ []
  oneLine : '\n' ∉ list
  inkFirst : ∀ c ∈ list.head?, isBlank c = false
  notImport : ∀ rest, list = importWord ++ rest → ∀ c ∈ rest.head?, isBlank c = false

/-- If the word `import` is read as the name of the module, the pattern fails. -/
lemma runs_behindDots_eq_nil {list : List Char} (hlist : IsNameList list) {s : Pattern.Spot}
    (hs : s.rest = importWord ++ ' ' :: list) : Pattern.runs behindDots s = [] := by
  rw [behindDots_eq]
  refine Pattern.runs_seq_capture_eq_nil rfl fun module rest hmodule htakesModule => ?_
  refine Pattern.runs_seq_eq_nil rfl fun gap tail hgap htakesGap => ?_
  have hplain : ∀ c ∈ module, isPlain c = true := by
    intro c hc
    rw [← contains_word_dot]
    exact Pattern.takes_star_one_iff.1 htakesModule c hc
  obtain ⟨hne, hblank⟩ := Pattern.takes_some1_one_iff.1 htakesGap
  obtain ⟨b, gap, rfl⟩ := List.exists_cons_of_ne_nil hne
  -- the module ends where the first blank stands
  have hcut : importWord ++ ' ' :: list = module ++ b :: (gap ++ tail) := by
    have hrest : rest = b :: (gap ++ tail) := hgap
    rw [← hs, hmodule, hrest]
  have hb : isPlain b = false := isPlain_eq_false_of_isBlank (hblank b List.mem_cons_self)
  obtain ⟨-, hcut⟩ := append_inj_of_forall isPlain_of_mem_importWord hplain
    (by rintro c ⟨⟩; decide) (by rintro c ⟨⟩; exact hb) hcut
  obtain ⟨rfl, hlisted⟩ := List.cons.inj hcut
  -- the list starts with no blank, so the gap is this one
  have hgapNil : gap = [] := by
    cases gap with
    | nil => rfl
    | cons c gap =>
      have hink := hlist.inkFirst c (by rw [hlisted]; rfl)
      have hc : isBlank c = true := hblank c (by simp)
      rw [hc] at hink
      cases hink
  subst hgapNil
  refine Pattern.runs_seq_eq_nil (Pattern.captureFree_text _) fun word more hword htakesWord => ?_
  obtain rfl : word = importWord := Pattern.takes_text_iff.1 htakesWord
  have htail : tail = importWord ++ more := hword
  exact Pattern.runs_seq_some1_eq_nil (hlist.notImport more (hlisted.trans htail))

/-- Behind the dots, the name of the module and the list of names are read. -/
lemma head?_runs_behindDots {list : List Char} (hlist : IsNameList list) {module : List Char}
    (hmodule : ∀ c ∈ module, isPlain c = true) {s : Pattern.Spot}
    (hs : s.rest = module ++ ' ' :: (importWord ++ ' ' :: list)) :
    ∃ found, (Pattern.runs behindDots s).head? = some found ∧
      found.captures = (3, list, list.length) :: (2, s.rest, module.length) :: s.captures := by
  have hblank : ∀ c ∈ [' '], CharClass.blank.contains c = true :=
    List.forall_mem_singleton.2 (by decide)
  let behindModule := s.keep 2 module (' ' :: (importWord ++ ' ' :: list))
  have hmodule : (Pattern.runs (.capture 2 (.many (.one (.word ['.'])))) s).head? =
      some behindModule := by
    refine Pattern.head?_runs_capture 2 module _ (Pattern.head?_runs_many module _ hs ?_ ?_)
    · exact fun c hc => (contains_word_dot c).trans (hmodule c hc)
    · rintro c ⟨⟩
      decide
  let atImport := behindModule.behind [' '] (importWord ++ ' ' :: list)
  have hgap : (Pattern.runs .blanks1 behindModule).head? = some atImport :=
    Pattern.head?_runs_some1 [' '] _ rfl (by decide) hblank (by rintro c ⟨⟩; decide)
  let behindImport := atImport.behind importWord (' ' :: list)
  have himport : (Pattern.runs (.text "import") atImport).head? = some behindImport := by
    rw [Pattern.runs_text "import" (' ' :: list) rfl]
    rfl
  let atList := behindImport.behind [' '] list
  have hgap' : (Pattern.runs .blanks1 behindImport).head? = some atList :=
    Pattern.head?_runs_some1 [' '] list rfl (by decide) hblank hlist.inkFirst
  have hnames : (Pattern.runs (.capture 3 (.some1 (.one .any))) atList).head? =
      some (atList.keep 3 list []) := by
    refine Pattern.head?_runs_capture 3 list [] (Pattern.head?_runs_some1 list []
      (List.append_nil list).symm hlist.ne_nil ?_ (by simp))
    intro c hc
    rw [CharClass.contains, bne_iff_ne]
    rintro rfl
    exact hlist.oneLine hc
  refine ⟨atList.keep 3 list [], ?_, rfl⟩
  rw [behindDots_eq]
  exact Pattern.head?_runs_seq hmodule (Pattern.head?_runs_seq hgap (Pattern.head?_runs_seq himport
    (Pattern.head?_runs_seq hgap' (Pattern.head?_runs_seq hnames rfl))))

/-- Blanks between the dots and the name of the module are looked for, but there are none. -/
lemma head?_runs_blanks_behindDots {list : List Char} (hlist : IsNameList list)
    {module : List Char} (hmodule : ∀ c ∈ module, isPlain c = true) {s : Pattern.Spot}
    (hs : s.rest = module ++ ' ' :: (importWord ++ ' ' :: list)) :
    (Pattern.runs (.seq .blanks behindDots) s).head? = (Pattern.runs behindDots s).head? := by
  cases module with
  | nil =>
    -- the space before the word `import` is taken first, and then the word as the module
    rw [Pattern.blanks, Pattern.runs_seq_many_of_eq_nil hs (by decide) (by rintro c ⟨⟩; decide)
      (runs_behindDots_eq_nil hlist rfl)]
  | cons c module =>
    obtain ⟨found, hfound, -⟩ := head?_runs_behindDots hlist hmodule hs
    have hnone : (Pattern.runs .blanks s).head? = some (s.behind [] s.rest) := by
      refine Pattern.head?_runs_many [] s.rest rfl (by simp) ?_
      rw [hs]
      rintro d ⟨⟩
      exact isBlank_eq_false_of_isPlain (hmodule c List.mem_cons_self)
    rw [hfound]
    exact Pattern.head?_runs_seq hnone hfound

/-- The module is written with a dot or with a character of its name first. -/
lemma isBlank_head?_module {level : Nat} {module : List Char}
    (hmodule : ∀ c ∈ module, isPlain c = true) (hreaches : 0 < level ∨ module ≠ [])
    (rest : List Char) :
    ∀ c ∈ (List.replicate level '.' ++ (module ++ rest)).head?, isBlank c = false := by
  intro c hc
  have hplain : isPlain c = true := by
    cases level with
    | zero =>
      obtain ⟨first, module, rfl⟩ := List.exists_cons_of_ne_nil (hreaches.resolve_left (by simp))
      obtain rfl : first = c := by simpa using hc
      exact hmodule first List.mem_cons_self
    | succ level =>
      obtain rfl : '.' = c := by simpa [List.replicate_succ] using hc
      decide
  exact isBlank_eq_false_of_isPlain hplain

/-- All dots before the name of the module are read. -/
lemma head?_runs_dots {level : Nat} {tail : List Char} (htail : tail.head? ≠ some '.')
    {s : Pattern.Spot} (hs : s.rest = List.replicate level '.' ++ tail) :
    (Pattern.runs (.capture 1 (.many (.one (.lit '.')))) s).head? =
      some (s.keep 1 (List.replicate level '.') tail) := by
  refine Pattern.head?_runs_capture 1 _ tail (Pattern.head?_runs_many _ tail hs ?_ ?_)
  · intro c hc
    rw [(List.mem_replicate.1 hc).2]
    rfl
  · intro c hc
    rw [CharClass.contains, beq_eq_false_iff_ne]
    rintro rfl
    exact htail hc

/-- The pattern of a `from` import finds the dots, the name of the module and the list of names. -/
lemma match?_fromImport {level : Nat} {module list : List Char}
    (hmodule : ∀ c ∈ module, isPlain c = true) (hdot : module.head? ≠ some '.')
    (hreaches : 0 < level ∨ module ≠ []) (hlist : IsNameList list) :
    ∃ found, fromImport.match? (fromWord ++ ' ' :: (List.replicate level '.' ++
        (module ++ ' ' :: (importWord ++ ' ' :: list)))) = some found ∧
      found.captured 1 = List.replicate level '.' ∧ found.captured 2 = module ∧
      found.captured 3 = list := by
  let tail := module ++ ' ' :: (importWord ++ ' ' :: list)
  let atModule :=
    Pattern.Spot.behindKeyword [] "from" [' '] (List.replicate level '.' ++ tail)
  let behindDots := atModule.keep 1 (List.replicate level '.') tail
  have htail : tail.head? ≠ some '.' := by
    cases module with
    | nil => simp [tail]
    | cons first module => simpa [tail] using hdot
  have hdots : (Pattern.runs (.capture 1 (.many (.one (.lit '.')))) atModule).head? =
      some behindDots :=
    head?_runs_dots htail rfl
  obtain ⟨found, hfound, hcaptures⟩ := head?_runs_behindDots hlist hmodule (s := behindDots) rfl
  have hrest := head?_runs_blanks_behindDots hlist hmodule (s := behindDots) rfl
  refine ⟨found, ?_, ?_⟩
  · have hline : fromImport.match? ([] ++ ("from".toList ++ ([' '] ++
        (List.replicate level '.' ++ tail)))) = some found :=
      Pattern.match?_keyworded (by simp) (by decide) (by rintro c ⟨⟩; decide)
        ⟨by decide, List.forall_mem_singleton.2 (by decide)⟩
        (isBlank_head?_module hmodule hreaches _)
        (Pattern.head?_runs_seq hdots (hrest.trans hfound))
    exact hline
  · have hkept : found.captures = [(3, list, list.length), (2, tail, module.length),
        (1, List.replicate level '.' ++ tail, (List.replicate level '.').length)] := hcaptures
    simp [Pattern.Spot.captured, Pattern.Spot.captured?, hkept, tail]

/-! ### Targets -/

lemma Identifier.isPlain_of_mem (id : Identifier) {c : Char} (hc : c ∈ id.text) :
    isPlain c = true :=
  isPlain_of_isWord (id.isWord_of_mem c hc)

lemma toList_dottedName (ids : List Identifier) :
    (dottedName ids).toList = ['.'].intercalate (ids.map Identifier.text) := by
  rw [dottedName, toList_joinWith, List.map_map]
  simp [Function.comp_def]

lemma isPlain_of_mem_dottedName {ids : List Identifier} {c : Char}
    (hc : c ∈ (dottedName ids).toList) : isPlain c = true := by
  rw [toList_dottedName] at hc
  rcases eq_or_mem_of_mem_intercalate hc with rfl | ⟨text, htext, hmem⟩
  · decide
  · obtain ⟨id, -, rfl⟩ := List.mem_map.1 htext
    exact id.isPlain_of_mem hmem

/-- A dotted name starts with a word character, if it is not empty. -/
lemma head?_dottedName_ne (ids : List Identifier) : (dottedName ids).toList.head? ≠ some '.' := by
  rw [toList_dottedName]
  cases ids with
  | nil => simp
  | cons id ids =>
    obtain ⟨c, text, htext⟩ := List.exists_cons_of_ne_nil id.ne_nil
    have hword := id.isWord_of_mem c (by rw [htext]; exact List.mem_cons_self)
    have hhead : (['.'].intercalate ((id :: ids).map Identifier.text)).head? = some c := by
      cases ids <;> simp [htext, List.intercalate_cons_cons]
    rw [hhead, ne_eq, Option.some.injEq]
    rintro rfl
    cases hword

lemma Identifier.ofList_ne_empty (id : Identifier) : String.ofList id.text ≠ "" := by
  intro h
  exact id.ne_nil (by simpa using congrArg String.toList h)

lemma dottedName_ne_empty {ids : List Identifier} (hne : ids ≠ []) : dottedName ids ≠ "" := by
  obtain ⟨id, ids, rfl⟩ := List.exists_cons_of_ne_nil hne
  intro h
  have hnil : ['.'].intercalate ((id :: ids).map Identifier.text) = [] := by
    rw [← toList_dottedName, h]
    rfl
  cases ids with
  | nil => exact id.ne_nil (by simpa using hnil)
  | cons next ids => simp [List.intercalate_cons_cons, id.ne_nil] at hnil

/-- The dotted name of a module goes on with a name in it. -/
lemma join_dottedName (ids : List Identifier) (id : Identifier) :
    Name.join (dottedName ids) (String.ofList id.text) = dottedName (ids ++ [id]) := by
  by_cases hne : ids = []
  · subst hne
    rfl
  · rw [Name.join, if_neg (dottedName_ne_empty hne), if_neg id.ofList_ne_empty, dottedName,
      dottedName, List.map_append, List.map_singleton,
      joinWith_append "." (by simpa using hne) (by simp)]
    rfl

/-- The names of a list, each looked for in the module, are what the statement refers to. -/
lemma filterMap_fromTarget (statement : FromImport) :
    (statement.names.map fun entry => String.ofList entry.1.text).filterMap
      (fromTarget statement.level (dottedName statement.module)) = statement.targets := by
  rw [List.filterMap_map, FromImport.targets, ← List.filterMap_eq_map]
  refine List.filterMap_congr fun entry _ => ?_
  have hstar : String.ofList entry.1.text ≠ "*" := by
    intro h
    have htext : entry.1.text = ['*'] := by simpa using congrArg String.toList h
    have hword := entry.1.isWord_of_mem '*' (by rw [htext]; exact List.mem_cons_self)
    revert hword
    decide
  simp only [Function.comp_apply, fromTarget, if_neg hstar, join_dottedName]
  by_cases hlevel : 0 < statement.level
  · simp only [if_pos hlevel]
  · have hmodule := dottedName_ne_empty (statement.reaches.resolve_left hlevel)
    simp only [if_neg hlevel, if_neg hmodule]

/-- A `from` import on one line refers to the names of its list. -/
lemma statementTargets_from (statement : FromImport) {list : List Char} (hlist : IsNameList list)
    (hnames : importedNames list = statement.names.map fun entry => String.ofList entry.1.text) :
    statementTargets (fromWord ++ ' ' :: (statement.moduleText ++ ' ' ::
      (importWord ++ ' ' :: list))) = statement.targets := by
  have hreaches : 0 < statement.level ∨ (dottedName statement.module).toList ≠ [] := by
    refine statement.reaches.imp id fun hne => ?_
    simpa using dottedName_ne_empty hne
  obtain ⟨found, hfound, hdots, hmodule, hcaptured⟩ := match?_fromImport
    (fun c => isPlain_of_mem_dottedName) (head?_dottedName_ne statement.module) hreaches hlist
  rw [statementTargets, FromImport.moduleText, List.append_assoc, hfound]
  simp only [hdots, hmodule, hcaptured, List.length_replicate, String.ofList_toList, hnames]
  exact filterMap_fromTarget statement

end Strata.Language.Python
