import Mathlib.Data.List.Basic
import Mathlib.Tactic.Common
import Strata.Text.Utf8

/-!
# Reading bytes as characters

The bytes of a text are read as its characters (`decode_bytes`).  Any other bytes are read in
pieces, each of which is a character with the bytes that encode it, or nothing (`reads_decode`).
So bytes in which nothing is left unread are those of the text that they show (`bytes_shown`), and
a character is shown only where its bytes are.
-/

namespace Strata.Text.Utf8

/-! ### Bytes of one character -/

lemma isNext_iff {b : UInt8} : isNext b = true ↔ 0x80 ≤ b.toNat ∧ b.toNat < 0xC0 := by
  rw [isNext, Bool.and_eq_true, decide_eq_true_iff, decide_eq_true_iff]

lemma isSecond_iff {a b : UInt8} : isSecond a b = true ↔
    0x80 ≤ b.toNat ∧ b.toNat < 0xC0 ∧ (a.toNat = 0xE0 → 0xA0 ≤ b.toNat) ∧
      (a.toNat = 0xF0 → 0x90 ≤ b.toNat) ∧ (a.toNat = 0xED → b.toNat < 0xA0) ∧
      (a.toNat = 0xF4 → b.toNat < 0x90) := by
  unfold isSecond
  dsimp only
  rw [Bool.and_eq_true, decide_eq_true_iff, decide_eq_true_iff]
  split_ifs <;> omega

lemma toNat_ofNat_of_valid {n : ℕ} (h : n < 0xD800 ∨ 0xDFFF < n ∧ n < 0x110000) :
    (Char.ofNat n).val.toNat = n := by
  have hvalid : n.isValidChar := h
  rw [Char.ofNat, dif_pos hvalid]
  rfl

lemma utf8EncodeChar_ofNat {a : UInt8} (ha : a.toNat < 0x80) :
    String.utf8EncodeChar (Char.ofNat a.toNat) = [a] := by
  have hcode : (Char.ofNat a.toNat).val.toNat = a.toNat := toNat_ofNat_of_valid (by omega)
  simp only [String.utf8EncodeChar, hcode]
  rw [if_pos (by omega), UInt8.ofNat_toNat]

lemma utf8EncodeChar_charOf_two {a b : UInt8} (ha : 0xC2 ≤ a.toNat ∧ a.toNat < 0xE0)
    (hb : isNext b = true) :
    String.utf8EncodeChar (charOf [a.toNat % 32, b.toNat]) = [a, b] := by
  rw [isNext_iff] at hb
  have hcode : (charOf [a.toNat % 32, b.toNat]).val.toNat = a.toNat % 32 * 64 + b.toNat % 64 := by
    simp only [charOf, List.foldl_cons, List.foldl_nil]
    rw [toNat_ofNat_of_valid (by omega)]
    omega
  simp only [String.utf8EncodeChar, hcode]
  rw [if_neg (by omega), if_pos (by omega)]
  simp only [List.cons.injEq, ← UInt8.toNat_inj, UInt8.toNat_ofNat', and_true]
  omega

lemma utf8EncodeChar_charOf_three {a b c : UInt8} (ha : 0xE0 ≤ a.toNat ∧ a.toNat < 0xF0)
    (hb : isSecond a b = true) (hc : isNext c = true) :
    String.utf8EncodeChar (charOf [a.toNat % 16, b.toNat, c.toNat]) = [a, b, c] := by
  rw [isSecond_iff] at hb
  rw [isNext_iff] at hc
  have hcode : (charOf [a.toNat % 16, b.toNat, c.toNat]).val.toNat =
      a.toNat % 16 * 4096 + b.toNat % 64 * 64 + c.toNat % 64 := by
    simp only [charOf, List.foldl_cons, List.foldl_nil]
    rw [toNat_ofNat_of_valid (by omega)]
    omega
  simp only [String.utf8EncodeChar, hcode]
  rw [if_neg (by omega), if_neg (by omega), if_pos (by omega)]
  simp only [List.cons.injEq, ← UInt8.toNat_inj, UInt8.toNat_ofNat', and_true]
  omega

lemma utf8EncodeChar_charOf_four {a b c d : UInt8} (ha : 0xF0 ≤ a.toNat ∧ a.toNat < 0xF5)
    (hb : isSecond a b = true) (hc : isNext c = true) (hd : isNext d = true) :
    String.utf8EncodeChar (charOf [a.toNat % 8, b.toNat, c.toNat, d.toNat]) = [a, b, c, d] := by
  rw [isSecond_iff] at hb
  rw [isNext_iff] at hc hd
  have hcode : (charOf [a.toNat % 8, b.toNat, c.toNat, d.toNat]).val.toNat =
      a.toNat % 8 * 262144 + b.toNat % 64 * 4096 + c.toNat % 64 * 64 + d.toNat % 64 := by
    simp only [charOf, List.foldl_cons, List.foldl_nil]
    rw [toNat_ofNat_of_valid (by omega)]
    omega
  simp only [String.utf8EncodeChar, hcode]
  rw [if_neg (by omega), if_neg (by omega), if_neg (by omega)]
  simp only [List.cons.injEq, ← UInt8.toNat_inj, UInt8.toNat_ofNat', and_true]
  omega

/-! ### Texts -/

/-- How bytes are read piece by piece: as characters, each from the bytes that encode it, and as
nothing, from any bytes. -/
inductive Reads : List UInt8 → List (Option Char) → Prop where
  /-- There is nothing to read. -/
  | nil : Reads [] []
  /-- The bytes of a character. -/
  | char {taken rest : List UInt8} {c : Char} {read : List (Option Char)}
      (h : String.utf8EncodeChar c = taken) (hrest : Reads rest read) :
      Reads (taken ++ rest) (some c :: read)
  /-- Bytes that stand for nothing. -/
  | broken (taken : List UInt8) {rest : List UInt8} {read : List (Option Char)}
      (hrest : Reads rest read) : Reads (taken ++ rest) (none :: read)

lemma reads_decode (bytes : List UInt8) : Reads bytes (decode bytes) := by
  fun_induction decode bytes with
  | case1 => exact .nil
  | case2 a rest ha ih => exact .char (utf8EncodeChar_ofNat ha) ih
  | case3 a => exact .broken [a] .nil
  | case4 a _ ha b rest hb ih => exact .char (utf8EncodeChar_charOf_two ha hb) ih
  | case5 a _ _ b rest _ ih => exact .broken [a] ih
  | case6 a => exact .broken [a] .nil
  | case7 a _ _ _ b => exact .broken [a, b] .nil
  | case8 a _ _ ha b hb c rest hc ih => exact .char (utf8EncodeChar_charOf_three ha hb hc) ih
  | case9 a _ _ _ b _ c rest _ ih => exact .broken [a, b] ih
  | case10 a _ _ _ b rest _ ih => exact .broken [a] ih
  | case11 a => exact .broken [a] .nil
  | case12 a _ _ _ _ b => exact .broken [a, b] .nil
  | case13 a _ _ _ _ b _ c => exact .broken [a, b, c] .nil
  | case14 a _ _ _ ha b hb c hc d rest hd ih =>
    exact .char (utf8EncodeChar_charOf_four ha hb hc hd) ih
  | case15 a _ _ _ _ b _ c _ d rest _ ih => exact .broken [a, b, c] ih
  | case16 a _ _ _ _ b _ c rest _ ih => exact .broken [a, b] ih
  | case17 a _ _ _ _ b rest _ ih => exact .broken [a] ih
  | case18 a rest _ _ _ _ ih => exact .broken [a] ih

/-- The bytes of every character that is read are there. -/
lemma Reads.subset {bytes : List UInt8} {read : List (Option Char)} (h : Reads bytes read)
    {c : Char} (hc : some c ∈ read) : String.utf8EncodeChar c ⊆ bytes := by
  induction h with
  | nil => exact absurd hc List.not_mem_nil
  | @char taken rest first read htaken _ ih =>
    rcases List.mem_cons.1 hc with hfirst | hc
    · obtain rfl : c = first := Option.some.inj hfirst
      rw [htaken]
      exact List.subset_append_left _ _
    · exact List.Subset.trans (ih hc) (List.subset_append_right _ _)
  | broken taken _ ih =>
    have hmem := (List.mem_cons.1 hc).resolve_left (by simp)
    exact List.Subset.trans (ih hmem) (List.subset_append_right _ _)

/-- Bytes that are read without a fault are those of the characters read. -/
lemma Reads.eq_flatMap {bytes : List UInt8} {read : List (Option Char)} (h : Reads bytes read)
    (hread : none ∉ read) :
    bytes = (read.map fun c? => c?.getD unreadable).flatMap String.utf8EncodeChar := by
  induction h with
  | nil => rfl
  | char htaken _ ih =>
    obtain ⟨-, hread⟩ := not_or.1 (mt List.mem_cons.2 hread)
    rw [List.map_cons, List.flatMap_cons, ← ih hread, ← htaken]
    rfl
  | broken taken _ _ => exact absurd List.mem_cons_self hread

lemma bytes_shown {bytes : List UInt8} (h : none ∉ decode bytes) :
    Text.bytes (shown bytes) = bytes := by
  rw [Text.bytes, shown, String.toList_ofList]
  exact ((reads_decode bytes).eq_flatMap h).symm

/-- A character other than the mark is shown only where its bytes are. -/
lemma subset_of_mem_shown {bytes : List UInt8} {c : Char} (hc : c ≠ unreadable)
    (h : c ∈ (shown bytes).toList) : String.utf8EncodeChar c ⊆ bytes := by
  rw [shown, String.toList_ofList] at h
  obtain ⟨c?, hmem, hget⟩ := List.mem_map.1 h
  cases c? with
  | none => exact absurd hget.symm hc
  | some d =>
    obtain rfl : d = c := hget
    exact (reads_decode bytes).subset hmem

/-- Where something cannot be read, the mark is shown. -/
lemma unreadable_mem_shown {bytes : List UInt8} (h : none ∈ decode bytes) :
    unreadable ∈ (shown bytes).toList := by
  rw [shown, String.toList_ofList]
  exact List.mem_map.2 ⟨none, h, rfl⟩

end Strata.Text.Utf8
