import Strata.Proofs.Path.Destination

/-!
# Normal forms of paths

Normalisation leaves nothing of a relative path but names, with at most one `..` before them: a
second `..` takes the first one away.  A path of names that starts with the normal form of a
directory lies below it, and what is left of it is its path seen from there (`relative?_map_name`).
-/

namespace Strata.Path

open Strata.Text

/-! ### The slash at the start -/

/-- The slash of an absolute path stands at its start and nowhere else. -/
def RootFirst (path : Path) : Prop := .root ∉ path.tail

lemma RootFirst.not_mem {path : Path} (h : RootFirst path) (hhead : path.head? ≠ some .root) :
    .root ∉ path := by
  cases path with
  | nil => exact List.not_mem_nil
  | cons part rest =>
    intro hmem
    rcases List.mem_cons.1 hmem with heq | hmem
    · exact hhead (congrArg some heq.symm)
    · exact h hmem

lemma RootFirst.join {a b : Path} (ha : RootFirst a) (hb : RootFirst b) : RootFirst (join a b) := by
  unfold Path.join
  split_ifs with hroot
  · exact hb
  · have hnone := hb.not_mem hroot
    cases a with
    | nil => exact hb
    | cons part rest =>
      intro hmem
      rcases List.mem_append.1 hmem with hmem | hmem
      · exact ha hmem
      · exact hnone hmem

/-- A path as it is read from a text, or put together from such paths, with names of some kind. -/
structure Regular (p : FileName → Prop) (path : Path) : Prop where
  /-- The slash of an absolute path stands at the start only. -/
  rootFirst : RootFirst path
  /-- The names are of the kind. -/
  named : Named p path

section Regular

variable {p : FileName → Prop}

lemma Regular.join {a b : Path} (ha : Regular p a) (hb : Regular p b) : Regular p (join a b) :=
  ⟨ha.rootFirst.join hb.rootFirst, ha.named.join hb.named⟩

lemma Regular.append {path : Path} (h : Regular p path) {names : List FileName}
    (hnames : ∀ name ∈ names, p name) : Regular p (path ++ names.map .name) := by
  rw [← join_map_name]
  refine h.join ⟨fun hroot => ?_, fun name hname => ?_⟩
  · have hmem := List.mem_of_mem_tail hroot
    simp at hmem
  · obtain ⟨other, hother, heq⟩ := List.mem_map.1 hname
    exact Part.name.inj heq ▸ hnames other hother

end Regular

/-! ### What normalisation keeps -/

lemma stripBase?_eq_some_iff {base path rest : Path} :
    stripBase? base path = some rest ↔ path = base ++ rest := by
  fun_induction stripBase? base path with
  | case1 path => simp [eq_comm]
  | case2 => simp
  | case3 base part path ih => simp [ih]
  | case4 b base part path hne => simp [Ne.symm hne]

/-- A path lies below a directory if its normal form goes on after that of the directory. -/
lemma relative?_eq_some_iff {root path : Path} {r : String} :
    relative? root path = some r ↔
      ∃ rest, normalize path = normalize root ++ rest ∧ rest ≠ [] ∧
        r = joinWith "/" (rest.map Part.text) := by
  simp only [relative?, ← stripBase?_eq_some_iff]
  cases hstrip : stripBase? (normalize root) (normalize path) with
  | none => simp
  | some rest =>
    cases rest with
    | nil => simp
    | cons part rest => simp [eq_comm]

end Strata.Path
