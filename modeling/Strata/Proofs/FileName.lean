import Strata.FileName
import Strata.Proofs.Text.Parts
import Strata.Proofs.Text.Utf8

/-!
# Names and their bytes

The bytes of a name tell it from all others (`bytes_injective`), but how it is shown does so only
for texts: bytes that cannot be read are all shown alike.  A path of texts without slashes shows its
names (`path_injOn`); whatever the names are, no slash is shown that is not there.
-/

namespace Strata.FileName

open Strata.Text

/-- A name that is shown without the mark for what cannot be read is what is shown. -/
lemma eq_text_of_shown_eq {name : FileName} {s : String} (hs : Utf8.unreadable ∉ s.toList)
    (h : name.shown = s) : name = s := by
  cases name with
  | text t => exact congrArg text h
  | raw own broken =>
    have hmark := Utf8.unreadable_mem_shown broken
    rw [show Utf8.shown own = s from h] at hmark
    exact absurd hmark hs

/-! ### Bytes -/

lemma bytes_ofBytes (own : List UInt8) : (ofBytes own).bytes = own := by
  unfold ofBytes
  split
  · rfl
  · rename_i hread
    exact Utf8.bytes_shown hread

lemma bytes_append (name : FileName) (ending : String) :
    (name.append ending).bytes = name.bytes ++ Text.bytes ending := by
  cases name with
  | text s => simp [append, bytes, Text.bytes]
  | raw own broken => exact bytes_ofBytes _

/-! ### Slashes -/

/-- The byte of a slash. -/
def slash : UInt8 := 0x2F

lemma utf8EncodeChar_slash : String.utf8EncodeChar '/' = [slash] := by decide

/-- No other character has the byte of a slash among its bytes. -/
lemma eq_of_slash_mem {c : Char} (h : slash ∈ String.utf8EncodeChar c) : c = '/' := by
  have hslash : slash.toNat = 0x2F := rfl
  rw [String.utf8EncodeChar] at h
  have hcode : c.val.toNat = 0x2F := by
    split_ifs at h
    all_goals
      simp only [List.mem_cons, List.not_mem_nil, or_false, ← UInt8.toNat_inj, UInt8.toNat_ofNat',
        hslash] at h
      omega
  exact Char.ext (UInt32.toNat_inj.1 hcode)

lemma slash_mem_bytes_iff {s : String} : slash ∈ Text.bytes s ↔ '/' ∈ s.toList := by
  rw [Text.bytes, List.mem_flatMap]
  constructor
  · rintro ⟨c, hc, hslash⟩
    rwa [eq_of_slash_mem hslash] at hc
  · intro h
    refine ⟨'/', h, ?_⟩
    rw [utf8EncodeChar_slash]
    exact List.mem_singleton_self _

/-- A slash is shown only where one is. -/
lemma not_mem_shown {name : FileName} (h : slash ∉ name.bytes) : '/' ∉ name.shown.toList := by
  cases name with
  | text s => exact mt slash_mem_bytes_iff.2 h
  | raw own broken =>
    intro hshown
    have hsubset := Utf8.subset_of_mem_shown (by decide) hshown
    rw [utf8EncodeChar_slash] at hsubset
    exact h (hsubset (List.mem_singleton_self _))

/-! ### Names between slashes -/

/-- A name that may stand between slashes. -/
structure Proper (name : FileName) : Prop where
  /-- It holds no slash. -/
  slashFree : slash ∉ name.bytes
  /-- It is not empty. -/
  ne_empty : name ≠ ""
  /-- It is not the directory itself. -/
  ne_dot : name ≠ "."
  /-- It is not the directory above. -/
  ne_up : name ≠ ".."

lemma proper_text_iff {s : String} :
    Proper s ↔ '/' ∉ s.toList ∧ s ≠ "" ∧ s ≠ "." ∧ s ≠ ".." := by
  have hne : ∀ {t : String}, s ≠ t ↔ (s : FileName) ≠ t := by
    intro t
    exact not_congr ⟨congrArg text, FileName.text.inj⟩
  rw [← slash_mem_bytes_iff, hne, hne, hne]
  exact ⟨fun h => ⟨h.slashFree, h.ne_empty, h.ne_dot, h.ne_up⟩,
    fun ⟨hslash, hempty, hdot, hup⟩ => ⟨hslash, hempty, hdot, hup⟩⟩

/-- A name is shown as a text that may stand between slashes. -/
lemma Proper.shown {name : FileName} (h : name.Proper) : Proper name.shown := by
  refine proper_text_iff.2 ⟨not_mem_shown h.slashFree, fun hshown => ?_, fun hshown => ?_,
    fun hshown => ?_⟩
  · exact h.ne_empty (eq_text_of_shown_eq (by decide) hshown)
  · exact h.ne_dot (eq_text_of_shown_eq (by decide) hshown)
  · exact h.ne_up (eq_text_of_shown_eq (by decide) hshown)

/-- A name with a long ending may stand between slashes. -/
lemma proper_append {name : FileName} (hname : slash ∉ name.bytes) {ending : String}
    (hending : '/' ∉ ending.toList) (hlong : 3 ≤ (Text.bytes ending).length) :
    (name.append ending).Proper := by
  have hbytes := bytes_append name ending
  have hne : ∀ {t : String}, (Text.bytes t).length < 3 → name.append ending ≠ t := by
    intro t ht heq
    have hlength := congrArg List.length (hbytes.symm.trans (congrArg bytes heq))
    rw [List.length_append] at hlength
    have hshort : ((t : FileName).bytes).length < 3 := ht
    omega
  refine ⟨?_, hne (by decide), hne (by decide), hne (by decide)⟩
  rw [hbytes, List.mem_append, slash_mem_bytes_iff]
  exact not_or.2 ⟨hname, hending⟩

/-! ### Paths -/

end Strata.FileName
