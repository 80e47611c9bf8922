import Mathlib.Data.List.TakeWhile
import Strata.Language.Kotlin
import Strata.Language.Python
import Strata.Language.Swift
import Strata.Proofs.Pattern.Beginnings
import Strata.Proofs.Text.Lines

/-!
# Blank lines say nothing

A line of blanks imports nothing, declares nothing and opens no bracket, in any of the languages
that are read line by line.  For the patterns this is read off their syntax: one that has to take a
character that is no blank finds no match in a text of blanks.
-/

namespace Strata

open Strata.Text

/-- A character of a class differs from every character outside it. -/
lemma Text.ne_of_class {p : Char → Bool} {c a : Char} (hc : p c = true) (ha : p a = false) :
    c ≠ a := by
  rintro rfl
  rw [hc] at ha
  cases ha

/-- A character of a class is none of some characters outside it. -/
lemma Text.not_mem_of_class {p : Char → Bool} {c : Char} (hc : p c = true) {others : List Char}
    (h : others.any p = false) : c ∉ others :=
  fun hmem => List.any_eq_false.1 h c hmem hc

/-- The code points of the blanks. -/
def Text.blankCodes : List Nat :=
  List.range' 0x09 5 ++ [0x20, 0x85, 0xA0, 0x1680] ++ List.range' 0x2000 11 ++
    [0x2028, 0x2029, 0x202F, 0x205F, 0x3000]

/-- No blank is a word character. -/
lemma Text.isWord_eq_false_of_isBlank {c : Char} (hc : isBlank c = true) : isWord c = false := by
  have hcode : c.toNat ∈ blankCodes := by
    simp only [isBlank, Bool.or_eq_true, Bool.and_eq_true, decide_eq_true_eq, beq_iff_eq] at hc
    simp only [blankCodes, List.mem_append, List.mem_range'_1, List.mem_cons, List.not_mem_nil,
      or_false]
    omega
  have hall : ∀ n ∈ blankCodes, isWord (Char.ofNat n) = false := by decide +kernel
  have hword := hall c.toNat hcode
  rwa [Char.ofNat_toNat] at hword

/-- Whether a class of characters is known to hold no blank. -/
def CharClass.inked : CharClass → Bool
  | lit c => !isBlank c
  | letter => true
  | _ => false

/-- A letter of the alphabet is no blank. -/
lemma isBlank_eq_false_of_letter {c : Char} (h : CharClass.letter.contains c = true) :
    isBlank c = false := by
  have hletter : 65 ≤ c.toNat ∧ c.toNat ≤ 122 := by
    rcases Bool.or_eq_true_iff.1 h with halpha | hunderscore
    · rcases Bool.or_eq_true_iff.1 halpha with hupper | hlower
      · obtain ⟨hlow, hhigh⟩ := of_decide_eq_true hupper
        exact ⟨hlow, le_trans (b := 90) hhigh (by decide)⟩
      · obtain ⟨hlow, hhigh⟩ := Bool.and_eq_true_iff.1 hlower
        exact ⟨le_trans (b := 97) (by decide) (of_decide_eq_true hlow), of_decide_eq_true hhigh⟩
    · rw [beq_iff_eq.1 hunderscore]
      decide
  simp only [isBlank, Bool.or_eq_false_iff, Bool.and_eq_false_iff, decide_eq_false_iff_not,
    beq_eq_false_iff_ne]
  omega

lemma CharClass.contains_eq_false {k : CharClass} (hk : k.inked = true) {c : Char}
    (hc : isBlank c = true) : k.contains c = false := by
  rw [Bool.eq_false_iff]
  intro hcontains
  cases k with
  | lit a =>
    obtain rfl : a = c := beq_iff_eq.1 hcontains
    have hink : (!isBlank a) = true := hk
    rw [hc] at hink
    exact absurd hink Bool.false_ne_true
  | letter => exact absurd hc (Bool.eq_false_iff.1 (isBlank_eq_false_of_letter hcontains))
  | _ => exact absurd hk Bool.false_ne_true

namespace Pattern

/-- Whether a pattern has to take a character that is no blank. -/
def inked : Pattern → Bool
  | one k => k.inked
  | seq p q => p.inked || q.inked
  | alt p q => p.inked && q.inked
  | capture _ p => p.inked
  | _ => false

/-- A pattern that has to take more than blanks does not match where only blanks are left. -/
lemma runs_eq_nil {p : Pattern} (hp : p.inked = true) {s : Spot} (hs : Blank s.rest) :
    runs p s = [] := by
  induction p generalizing s with
  | one k =>
    cases hrest : s.rest with
    | nil => simp [runs, hrest]
    | cons c rest =>
      have hc : k.contains c = false :=
        CharClass.contains_eq_false hp (hs c (by rw [hrest]; exact List.mem_cons_self))
      simp [runs, hrest, hc]
  | seq p q ihp ihq =>
    rw [runs, List.flatMap_eq_nil_iff]
    intro t ht
    rcases Bool.or_eq_true_iff.1 hp with hp | hq
    · rw [ihp hp hs] at ht
      cases ht
    · -- what `p` leaves of the blanks are blanks
      exact ihq hq fun c hc => hs c ((runs_suffix p ht).mem hc)
  | alt p q ihp ihq =>
    obtain ⟨hp, hq⟩ := Bool.and_eq_true_iff.1 hp
    rw [runs, ihp hp hs, ihq hq hs, List.append_nil]
  | capture n p ih => rw [runs, ih hp hs, List.map_nil]
  | empty | star | atStart | atEnd | wordEdge => cases hp

lemma match?_eq_none {p : Pattern} (hp : p.inked = true) {line : List Char} (hline : Blank line) :
    p.match? line = none := by
  rw [match?, runs_eq_nil hp hline, List.head?_nil]

end Pattern

/-! ### Lines -/

lemma Text.Blank.trimStart_eq {line : List Char} (h : Blank line) : trimStart line = [] :=
  List.dropWhile_eq_nil_iff.2 h

lemma Text.Blank.trim_eq {line : List Char} (h : Blank line) : trim line = [] := by
  rw [trim, h.trimStart_eq]
  rfl

/-- Blanks keep a depth that only other characters change. -/
lemma Text.Blank.foldl_eq {line : List Char} (h : Blank line) {step : Nat → Char → Nat}
    (hstep : ∀ depth c, isBlank c = true → step depth c = depth) (depth : Nat) :
    line.foldl step depth = depth := by
  induction line with
  | nil => rfl
  | cons c line ih =>
    rw [List.foldl_cons, hstep depth c (h c List.mem_cons_self)]
    exact ih fun c hc => h c (List.mem_cons_of_mem _ hc)

namespace Language

open Strata.Masking

lemma braceStep_blank (depth : Nat) (c : Char) (hc : isBlank c = true) :
    braceStep depth c = depth := by
  simp [braceStep, ne_of_class hc (by decide : isBlank '\x7b' = false),
    ne_of_class hc (by decide : isBlank '\x7d' = false)]

namespace Kotlin

variable {line : List Char}

lemma packageOf?_blank (h : Blank line) : packageOf? line = none := by
  rw [packageOf?, Pattern.match?_eq_none (by decide) h, Option.map_none]

lemma importOf?_blank (h : Blank line) (number : Nat) : importOf? number line = none := by
  rw [importOf?, Pattern.match?_eq_none (by decide) h, Option.map_none]

lemma exportOf?_blank (h : Blank line) : exportOf? line = none := by
  rw [exportOf?, Pattern.match?_eq_none (by decide +kernel) h]

end Kotlin

namespace Swift

variable {line : List Char}

lemma importOf?_blank (h : Blank line) (number : Nat) : importOf? number line = none := by
  rw [importOf?, Pattern.match?_eq_none (by decide) h, Option.map_none]

lemma exportOf?_blank (h : Blank line) : exportOf? line = none := by
  rw [exportOf?, Pattern.match?_eq_none (by decide +kernel) h]

end Swift

namespace Python

variable {line : List Char}

/-- Brackets and a backslash join lines, and behind a quotation mark or a hash sign text is
hidden. -/
def joints : List Char := ['(', ')', '[', ']', '\x7b', '\x7d', '\'', '"', '#', '\\']

lemma bracketStep_of_not_mem (depth : Nat) {c : Char} (hc : c ∉ joints) :
    bracketStep depth c = depth := by
  simp only [joints, List.mem_cons, not_or] at hc
  simp [bracketStep, hc]

lemma not_mem_joints_of_isBlank {c : Char} (hc : isBlank c = true) : c ∉ joints :=
  not_mem_of_class hc (by decide)

lemma bracketStep_blank (depth : Nat) (c : Char) (hc : isBlank c = true) :
    bracketStep depth c = depth :=
  bracketStep_of_not_mem depth (not_mem_joints_of_isBlank hc)

lemma exportedName?_blank (h : Blank line) : exportedName? line = none := by
  rw [exportedName?, Pattern.match?_eq_none (by decide) h, Pattern.match?_eq_none (by decide) h]
  rfl

lemma holdsImport_blank (h : Blank line) : holdsImport line = false := by
  have hsemicolon : ∀ c ∈ line, (c == ';') = false :=
    fun c hc => beq_eq_false_iff_ne.2 (ne_of_class (h c hc) (by decide))
  rw [holdsImport, pieces_of_forall hsemicolon]
  simp only [List.any_cons, List.any_nil, Bool.or_false, startsImport, h.trimStart_eq]
  rfl

lemma linePart_blank (h : Blank line) : linePart line = [] := by
  rw [linePart, h.trim_eq]
  rfl

end Python

end Language

end Strata
