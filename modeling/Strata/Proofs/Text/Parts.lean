import Mathlib.Data.List.Basic
import Mathlib.Data.List.TakeWhile
import Mathlib.Tactic.Common
import Strata.Text.Lines

/-!
# Parts and separators

Cutting at a separator and putting together with it are the splitting and the intercalation of
lists of characters.  So a text put together from parts that do not hold the separator is cut into
these parts again, and two such lists of parts that make the same text are the same list.
-/

namespace Strata.Text

/-- A text is cut in one way only before its first character that fails a test. -/
lemma append_inj_of_forall {p : Char → Bool} {u v w x : List Char} (hu : ∀ c ∈ u, p c = true)
    (hw : ∀ c ∈ w, p c = true) (hv : ∀ c ∈ v.head?, p c = false) (hx : ∀ c ∈ x.head?, p c = false)
    (h : u ++ v = w ++ x) : u = w ∧ v = x := by
  have hcut : ∀ {a b : List Char}, (∀ c ∈ a, p c = true) → (∀ c ∈ b.head?, p c = false) →
      (a ++ b).takeWhile p = a := by
    intro a b ha hb
    rw [List.takeWhile_append_of_pos ha]
    cases b with
    | nil => simp
    | cons c b => rw [List.takeWhile_cons_of_neg (by simp [hb c rfl]), List.append_nil]
  have huw : u = w := by rw [← hcut hu hv, h, hcut hw hx]
  subst huw
  exact ⟨rfl, List.append_cancel_left h⟩

lemma forall_head?_append {P : Char → Prop} {u : List Char} (hne : u ≠ []) (hu : ∀ c ∈ u, P c)
    (v : List Char) : ∀ c ∈ (u ++ v).head?, P c := by
  intro c hc
  rw [List.head?_append_of_ne_nil _ hne] at hc
  exact hu c (List.mem_of_mem_head? hc)

lemma pieces_eq_splitOnP (p : Char → Bool) (text : List Char) :
    pieces p text = text.splitOnP p := by
  induction text with
  | nil => rfl
  | cons c rest ih =>
    rw [pieces, List.splitOnP_cons_eq_if_modifyHead, ih]
    split_ifs with hc
    · rfl
    · -- there is always a first piece, which takes the character
      cases hrest : rest.splitOnP p with
      | nil => exact absurd hrest (List.splitOnP_ne_nil p rest)
      | cons piece others => rfl

lemma pieces_ne_nil (p : Char → Bool) (text : List Char) : pieces p text ≠ [] := by
  rw [pieces_eq_splitOnP]
  exact List.splitOnP_ne_nil p text

lemma pieces_of_forall {p : Char → Bool} {text : List Char} (h : ∀ c ∈ text, p c = false) :
    pieces p text = [text] := by
  rw [pieces_eq_splitOnP, List.splitOnP_eq_singleton h]

lemma pieces_append_cons {p : Char → Bool} {first : List Char} (hfirst : ∀ c ∈ first, p c = false)
    {sep : Char} (hsep : p sep = true) (rest : List Char) :
    pieces p (first ++ sep :: rest) = first :: pieces p rest := by
  rw [pieces_eq_splitOnP, List.splitOnP_append_cons_of_forall_mem hfirst sep hsep,
    pieces_eq_splitOnP]

lemma beq_eq_false_of_not_mem {sep : Char} {text : List Char} (h : sep ∉ text) :
    ∀ c ∈ text, (c == sep) = false := by
  intro c hc
  exact beq_eq_false_iff_ne.2 fun heq => h (heq ▸ hc)

/-- A character to cut at stands in no piece. -/
lemma eq_false_of_mem_pieces {p : Char → Bool} {text piece : List Char} {c : Char}
    (hpiece : piece ∈ pieces p text) (hc : c ∈ piece) : p c = false := by
  fun_induction pieces p text generalizing piece with
  | case1 =>
    rw [List.mem_singleton.1 hpiece] at hc
    exact absurd hc List.not_mem_nil
  | case2 first rest _ ih =>
    rcases List.mem_cons.1 hpiece with rfl | hpiece
    · exact absurd hc List.not_mem_nil
    · exact ih hpiece hc
  | case3 first rest hfirst hrest ih =>
    rw [List.mem_singleton.1 hpiece, List.mem_singleton] at hc
    rw [hc]
    exact Bool.eq_false_iff.2 hfirst
  | case4 first rest hfirst next others hrest ih =>
    rcases List.mem_cons.1 hpiece with rfl | hpiece
    · rcases List.mem_cons.1 hc with rfl | hc
      · exact Bool.eq_false_iff.2 hfirst
      · exact ih (hrest ▸ List.mem_cons_self) hc
    · exact ih (hrest ▸ List.mem_cons_of_mem _ hpiece) hc

/-- Induction over the pieces of a text. -/
@[elab_as_elim]
lemma pieces_induction (p : Char → Bool) {motive : List Char → Prop}
    (last : ∀ piece, (∀ c ∈ piece, p c = false) → motive piece)
    (piece : ∀ first sep rest, (∀ c ∈ first, p c = false) → p sep = true → motive rest →
      motive (first ++ sep :: rest))
    (text : List Char) : motive text := by
  induction hn : text.length using Nat.strong_induction_on generalizing text with
  | _ n ih =>
    have htext := List.takeWhile_append_dropWhile (p := fun c => !p c) (l := text)
    have hfirst : ∀ c ∈ text.takeWhile fun c => !p c, p c = false := by
      intro c hc
      simpa using List.mem_takeWhile_imp hc
    cases hrest : text.dropWhile fun c => !p c with
    | nil =>
      rw [hrest, List.append_nil] at htext
      rw [← htext]
      exact last _ hfirst
    | cons sep rest =>
      have hsep : p sep = true := by
        have hhead := List.head?_dropWhile_not (fun c => !p c) text
        rw [hrest] at hhead
        simpa using hhead
      have hlength : rest.length < n := by
        rw [← hn, ← htext, hrest, List.length_append, List.length_cons]
        omega
      rw [← htext, hrest]
      exact piece _ sep rest hfirst hsep (ih rest.length hlength rest rfl)

/-- The pieces of a text hold no other characters than the text. -/
lemma mem_of_mem_pieces {p : Char → Bool} {text piece : List Char} {c : Char}
    (hpiece : piece ∈ pieces p text) (hc : c ∈ piece) : c ∈ text := by
  fun_induction pieces p text generalizing piece with
  | case1 =>
    rw [List.mem_singleton.1 hpiece] at hc
    exact absurd hc List.not_mem_nil
  | case2 first rest _ ih =>
    rcases List.mem_cons.1 hpiece with rfl | hpiece
    · exact absurd hc List.not_mem_nil
    · exact List.mem_cons_of_mem _ (ih hpiece hc)
  | case3 first rest _ hrest ih =>
    rw [List.mem_singleton.1 hpiece, List.mem_singleton] at hc
    rw [hc]
    exact List.mem_cons_self
  | case4 first rest _ next others hrest ih =>
    rcases List.mem_cons.1 hpiece with rfl | hpiece
    · rcases List.mem_cons.1 hc with rfl | hc
      · exact List.mem_cons_self
      · exact List.mem_cons_of_mem _ (ih (hrest ▸ List.mem_cons_self) hc)
    · exact List.mem_cons_of_mem _ (ih (hrest ▸ List.mem_cons_of_mem _ hpiece) hc)

lemma mem_of_mem_partsAt {sep c : Char} {text part : String} (hpart : part ∈ partsAt sep text)
    (hc : c ∈ part.toList) : c ∈ text.toList := by
  obtain ⟨piece, hpiece, rfl⟩ := List.mem_map.1 hpart
  rw [String.toList_ofList] at hc
  exact mem_of_mem_pieces hpiece hc

lemma not_mem_of_mem_partsAt {sep : Char} {text part : String} (hpart : part ∈ partsAt sep text) :
    sep ∉ part.toList := by
  obtain ⟨piece, hpiece, rfl⟩ := List.mem_map.1 hpart
  rw [String.toList_ofList]
  intro hsep
  have hcut := eq_false_of_mem_pieces hpiece hsep
  rw [beq_self_eq_true] at hcut
  exact absurd hcut (by simp)

lemma toList_joinWith (sep : String) (parts : List String) :
    (joinWith sep parts).toList = sep.toList.intercalate (parts.map String.toList) := by
  fun_induction joinWith sep parts with
  | case1 => rfl
  | case2 part => simp
  | case3 part rest hrest ih =>
    obtain ⟨next, others, rfl⟩ := List.exists_cons_of_ne_nil fun h => hrest h
    rw [String.toList_append, String.toList_append, ih]
    exact List.intercalate_cons_cons.symm

lemma joinWith_cons (sep part : String) {rest : List String} (hrest : rest ≠ []) :
    joinWith sep (part :: rest) = part ++ sep ++ joinWith sep rest := by
  obtain ⟨next, others, rfl⟩ := List.exists_cons_of_ne_nil hrest
  rfl

lemma joinWith_append (sep : String) {as bs : List String} (has : as ≠ []) (hbs : bs ≠ []) :
    joinWith sep (as ++ bs) = joinWith sep as ++ sep ++ joinWith sep bs := by
  fun_induction joinWith sep as with
  | case1 => exact absurd rfl has
  | case2 part => exact joinWith_cons sep part hbs
  | case3 part rest hrest ih =>
    have hne : rest ≠ [] := fun h => hrest h
    rw [List.cons_append, joinWith_cons sep part (by simp [hne]), ih hne]
    simp only [String.append_assoc]

/-- What is cut at a separator is put together again with it. -/
lemma joinWith_partsAt (sep : Char) (text : String) :
    joinWith (String.ofList [sep]) (partsAt sep text) = text := by
  rw [← String.toList_inj, toList_joinWith, String.toList_ofList, partsAt, partsBy, List.map_map,
    pieces_eq_splitOnP, ← List.splitOn_eq_splitOnP]
  simp [Function.comp_def]

/-- What is put together from parts without the separator is cut into these parts again. -/
lemma partsAt_joinWith {sep : Char} {parts : List String} (hne : parts ≠ [])
    (hfree : ∀ part ∈ parts, sep ∉ part.toList) :
    partsAt sep (joinWith (String.ofList [sep]) parts) = parts := by
  have hsplit : List.splitOn sep ([sep].intercalate (parts.map String.toList)) =
      parts.map String.toList := by
    refine List.splitOn_intercalate sep ?_ (by simpa using hne)
    intro chars hchars
    obtain ⟨part, hpart, rfl⟩ := List.mem_map.1 hchars
    exact hfree part hpart
  rw [partsAt, partsBy, toList_joinWith, String.toList_ofList, pieces_eq_splitOnP,
    ← List.splitOn_eq_splitOnP, hsplit, List.map_map]
  simp [Function.comp_def]

lemma partsAt_ne_nil (sep : Char) (text : String) : partsAt sep text ≠ [] := by
  rw [partsAt, partsBy, Ne, List.map_eq_nil_iff]
  exact pieces_ne_nil _ _

/-- A text is cut where a separator stands. -/
lemma partsBy_append_sep {p : Char → Bool} {sep : Char} (hsep : p sep = true) (a b : String) :
    partsBy p (a ++ String.ofList [sep] ++ b) = partsBy p a ++ partsBy p b := by
  have hchars : (a ++ String.ofList [sep] ++ b).toList = a.toList ++ sep :: b.toList := by simp
  rw [partsBy, hchars, pieces_eq_splitOnP, List.splitOnP_append_cons _ _ hsep, List.map_append,
    ← pieces_eq_splitOnP, ← pieces_eq_splitOnP]
  rfl

lemma partsAt_append_sep (sep : Char) (a b : String) :
    partsAt sep (a ++ String.ofList [sep] ++ b) = partsAt sep a ++ partsAt sep b :=
  partsBy_append_sep (p := (· == sep)) (beq_self_eq_true sep) a b

end Strata.Text
